import MultiNicCni.Controller.UpdateCIDR
import MultiNicCni.Lib.Fold

/-!
# The IPPools refine the CIDR

The CIDR of a network says which share each host has of it: pod CIDR, interface and VLAN
CIDR. `updateCIDR_pools` proves that after a successful `updateCIDR` the IPPools of the
network are these shares, one pool each, that pools which stay keep their allocations, and
that no pool of another network is touched.

The two loops of the source meet in the name of a pool, which is made from the network and
the pod CIDR. A name determines both only when the pod CIDR is a text with one slash and no
dash (`PoolText`), as every CIDR is; `updateCIDR_pools_collide` shows two texts that
share a name.
-/

namespace MultiNicCni.Controller

open Go Compute Lib

variable {pool : IPPool} {excludes : List IPValue} {name defName : String} {ippool : IPPoolSpec}
  {pools pools' : GoMap String IPPool}

/-! ## Names -/

/-- A text with one slash and no dash. -/
def PoolText (podCIDR : String) : Prop :=
  ∃ a b : List Char, podCIDR.toList = a ++ '/' :: b ∧ ('/' ∉ a ∧ '-' ∉ a) ∧ '/' ∉ b ∧ '-' ∉ b

/-- Every CIDR is such a text. -/
theorem poolText_of_parseCIDR {s : String} {ip : IP4} {n : IPNet}
    (h : parseCIDR s = some (ip, n)) : PoolText s := by
  obtain ⟨x, y, hsplit, hip, hones, -⟩ := parseCIDR_eq_some h
  have hy : ∀ c : Char, c.isDigit = false → c ∉ y.toList := by
    intro c hc hmem
    rw [isDigit_of_parseDigits hones c hmem] at hc
    cases hc
  refine ⟨x.toList, y.toList, ?_, ⟨?_, ?_⟩, hy '/' rfl, hy '-' rfl⟩
  · have hfields : s.toList.splitOn '/' = [x.toList, y.toList] := by
      have := congrArg (List.map String.toList) hsplit
      simpa [split, Function.comp_def] using this
    have hjoin : ['/'].intercalate (s.toList.splitOn '/') = s.toList := List.intercalate_splitOn '/'
    rw [← hjoin, hfields]
    simp [List.intercalate]
  · exact not_mem_of_parseIP hip rfl (by decide)
  · exact not_mem_of_parseIP hip rfl (by decide)

theorem poolText_of_isSome {s : String} (h : (parseCIDR s).isSome = true) : PoolText s := by
  obtain ⟨⟨ip, n⟩, hparse⟩ := Option.isSome_iff_exists.mp h
  exact poolText_of_parseCIDR hparse

theorem toList_getIPPoolName (netAttachDef : String) {podCIDR : String} {a b : List Char}
    (h : podCIDR.toList = a ++ '/' :: b) (ha : '/' ∉ a) (hb : '/' ∉ b) :
    (getIPPoolName netAttachDef podCIDR).toList = (netAttachDef.toList ++ '-' :: a) ++ '-' :: b := by
  have hmap : ∀ l : List Char, '/' ∉ l → l.map (fun c => if c = '/' then '-' else c) = l := by
    intro l hl
    refine (List.map_congr_left ?_).trans (List.map_id l)
    intro c hc
    refine if_neg ?_
    rintro rfl
    exact hl hc
  rw [getIPPoolName, replaceAll, h]
  simp [hmap a ha, hmap b hb]

/-- The name of a pool determines its network and its pod CIDR. -/
theorem getIPPoolName_inj {d d' s s' : String} (hs : PoolText s) (hs' : PoolText s')
    (h : getIPPoolName d s = getIPPoolName d' s') : d = d' ∧ s = s' := by
  obtain ⟨a, b, hab, ⟨ha, hda⟩, hb, hdb⟩ := hs
  obtain ⟨a', b', hab', ⟨ha', hda'⟩, hb', hdb'⟩ := hs'
  have hlist := congrArg String.toList h
  rw [toList_getIPPoolName d hab ha hb, toList_getIPPoolName d' hab' ha' hb'] at hlist
  obtain ⟨hleft, rfl⟩ := append_cons_inj hdb hdb' hlist
  obtain ⟨hd, rfl⟩ := append_cons_inj hda hda' hleft
  exact ⟨String.toList_inj.mp hd, String.toList_inj.mp (hab.trans hab'.symm)⟩

/-! ## Deleting -/

theorem isPending_iff {newCIDR : CIDRSpec} :
    isPending defName newCIDR ippool = true ↔
      ippool.netAttachDefName = defName ∧ ippool.podCIDR ∉ podCIDRsOf newCIDR := by
  rw [isPending, Bool.and_eq_true, beq_iff_eq, Bool.not_eq_true', List.contains_eq_mem,
    decide_eq_false_iff_not]

/-- A pool is gone iff the snapshot holds a pending pool of its name. -/
theorem lookup_cleanPendingIPPools (snapshot : GoMap String IPPoolSpec) (defName : String)
    (newCIDR : CIDRSpec) (pools : GoMap String IPPool) (name : String) :
    (cleanPendingIPPools snapshot defName newCIDR pools).lookup name =
      if ∃ ippool ∈ snapshot.values, isPending defName newCIDR ippool = true ∧
        getIPPoolName ippool.netAttachDefName ippool.podCIDR = name
      then none else pools.lookup name := by
  unfold cleanPendingIPPools
  induction snapshot.values generalizing pools with
  | nil => simp
  | cons ippool rest ih =>
    rw [List.foldl_cons, ih]
    by_cases hrest : ∃ ippool ∈ rest, isPending defName newCIDR ippool = true ∧
        getIPPoolName ippool.netAttachDefName ippool.podCIDR = name
    · obtain ⟨p, hp, hname⟩ := hrest
      rw [if_pos ⟨p, hp, hname⟩, if_pos ⟨p, List.mem_cons_of_mem _ hp, hname⟩]
    · rw [if_neg hrest]
      by_cases hpend : isPending defName newCIDR ippool = true
      · rw [if_pos hpend, deleteIPPool]
        by_cases hname : getIPPoolName ippool.netAttachDefName ippool.podCIDR = name
        · rw [if_pos ⟨ippool, List.mem_cons_self, hpend, hname⟩, hname, AList.lookup_erase]
        · rw [if_neg, AList.lookup_erase_ne (Ne.symm hname)]
          simpa [hname] using hrest
      · rw [if_neg hpend, if_neg]
        simpa [hpend] using hrest

/-! ## Creating and updating -/

/-- What a pool and a host of an entry have in common. -/
structure Share where
  podCIDR : String
  hostName : String
  interfaceName : String
  vlanCIDR : String
  deriving DecidableEq, Repr

def hostShare (entry : CIDREntry) (host : HostInterfaceInfo) : Share :=
  ⟨host.podCIDR, host.hostName, host.interfaceName, entry.vlanCIDR⟩

def poolShare (pool : IPPool) : Share :=
  ⟨pool.spec.podCIDR, pool.spec.hostName, pool.spec.interfaceName, pool.spec.vlanCIDR⟩

/-- The hosts of the entries, each with its entry. -/
def hostsOf (entries : List CIDREntry) : List (CIDREntry × HostInterfaceInfo) :=
  entries.flatMap fun entry => entry.hosts.map fun host => (entry, host)

/-- The allocations stored under a name. -/
def allocationsAt (pools : GoMap String IPPool) (name : String) : List Allocation :=
  ((pools.lookup name).map (·.spec.allocations)).getD []

/-- The pool of a host of a network, as `UpdateIPPool` leaves it. -/
def IsPoolOf (defName : String) (entry : CIDREntry) (host : HostInterfaceInfo)
    (allocations : List Allocation) (pool : IPPool) : Prop :=
  pool.spec.netAttachDefName = defName ∧ poolShare pool = hostShare entry host ∧
    pool.spec.allocations = allocations

/-- `UpdateIPPool` stores the pool of the host under its name and keeps its allocations. -/
theorem updateIPPool_spec {podCIDR vlanCIDR hostName interfaceName : String}
    (h : updateIPPool pools defName podCIDR vlanCIDR hostName interfaceName excludes =
      some pools') :
    ∃ pool, pools' = pools.insert (getIPPoolName defName podCIDR) pool ∧
      pool.spec.netAttachDefName = defName ∧
      poolShare pool = ⟨podCIDR, hostName, interfaceName, vlanCIDR⟩ ∧
      pool.spec.allocations = allocationsAt pools (getIPPoolName defName podCIDR) := by
  unfold updateIPPool at h
  obtain ⟨⟨name, spec⟩, hinit, h⟩ := Option.bind_eq_some_iff.mp h
  obtain ⟨stored, -, hinit⟩ := Option.bind_eq_some_iff.mp hinit
  cases hinit
  cases hl : pools.lookup (getIPPoolName defName podCIDR) with
  | none =>
    simp only [hl] at h
    cases h
    exact ⟨_, rfl, rfl, rfl, by simp [allocationsAt, hl]⟩
  | some ippool =>
    have hkept : ippool.spec.allocations =
        allocationsAt pools (getIPPoolName defName podCIDR) := by
      simp [allocationsAt, hl]
    simp only [hl] at h
    split at h
    · -- the conflicts are only reported
      obtain ⟨-, -, h⟩ := Option.bind_eq_some_iff.mp h
      cases h
      exact ⟨_, rfl, rfl, rfl, hkept⟩
    · cases h
      exact ⟨_, rfl, rfl, rfl, hkept⟩

/-- `UpdateIPPools` as one loop over the hosts. -/
theorem updateIPPools_eq (pools : GoMap String IPPool) (defName : String)
    (entries : List CIDREntry) (excludes : List IPValue) :
    updateIPPools pools defName entries excludes =
      (hostsOf entries).foldlM (fun pools p => updateIPPool pools defName p.2.podCIDR
        p.1.vlanCIDR p.2.hostName p.2.interfaceName excludes) pools := by
  rw [updateIPPools, hostsOf, foldlM_foldlM (fun entry : CIDREntry => entry.hosts)
    (fun pools entry host => updateIPPool pools defName host.podCIDR entry.vlanCIDR host.hostName
      host.interfaceName excludes)]

/-- `UpdateIPPools` writes the pool of every host and no other. -/
theorem updateIPPools_spec {entries : List CIDREntry}
    (hnodup : ((hostsOf entries).map fun p => getIPPoolName defName p.2.podCIDR).Nodup)
    (h : updateIPPools pools defName entries excludes = some pools') :
    (∀ name, (∀ p ∈ hostsOf entries, getIPPoolName defName p.2.podCIDR ≠ name) →
        pools'.lookup name = pools.lookup name) ∧
      ∀ p ∈ hostsOf entries, ∃ pool,
        pools'.lookup (getIPPoolName defName p.2.podCIDR) = some pool ∧
          IsPoolOf defName p.1 p.2
            (allocationsAt pools (getIPPoolName defName p.2.podCIDR)) pool := by
  rw [updateIPPools_eq] at h
  have hkeyed := foldlM_keyBy
    (fun p : CIDREntry × HostInterfaceInfo => getIPPoolName defName p.2.podCIDR)
    (fun (pools : GoMap String IPPool) name => pools.lookup name)
    (fun p (before after : Option IPPool) => ∃ pool, after = some pool ∧
      IsPoolOf defName p.1 p.2 ((before.map (·.spec.allocations)).getD []) pool) ?_ ?_ hnodup h
  · exact hkeyed
  · intro s s' p name hstep hne
    obtain ⟨pool, rfl, -⟩ := updateIPPool_spec hstep
    exact AList.lookup_insert_ne hne
  · intro s s' p _ hstep
    obtain ⟨pool, rfl, hpool⟩ := updateIPPool_spec hstep
    exact ⟨pool, AList.lookup_insert s, hpool⟩

/-! ## The whole update -/

/-- What a successful `updateCIDR` of a network is for: its pools are the shares of the hosts
of its stored CIDR, pools that stay keep their allocations, and other networks keep their
pools. -/
structure PoolsRefine (defName : String) (st st' : ClusterState) : Prop where
  shares : ∃ spec, st'.cidrs.lookup defName = some spec ∧
    ((st'.pools.filter fun _ pool => pool.spec.netAttachDefName == defName).values.map
      poolShare).Perm ((hostsOf spec.cidrs).map fun p => hostShare p.1 p.2)
  kept : ∀ name pool pool', st.pools.lookup name = some pool →
    pool.spec.netAttachDefName = defName → st'.pools.lookup name = some pool' →
    pool'.spec.allocations = pool.spec.allocations
  others : ∀ name pool, pool.spec.netAttachDefName ≠ defName →
    (st'.pools.lookup name = some pool ↔ st.pools.lookup name = some pool)

/-- Every pool is stored under the name made from its spec, and the cache of the IPPools is
up to date. -/
structure Consistent (st : ClusterState) : Prop where
  named : ∀ name pool, st.pools.lookup name = some pool →
    name = getIPPoolName pool.spec.netAttachDefName pool.spec.podCIDR
  cached : ∀ name, st.poolCache.lookup name = (st.pools.lookup name).map (·.spec)

/-- The pod CIDRs of the stored pools are texts with one slash and no dash. -/
def PoolTexts (st : ClusterState) : Prop :=
  ∀ name pool, st.pools.lookup name = some pool → PoolText pool.spec.podCIDR

theorem storeCIDR_eq_ok {cidrs cidrs' : GoMap String CIDRSpec} {spec : CIDRSpec} {new : Bool}
    (h : storeCIDR cidrs spec new = .ok cidrs') : cidrs' = cidrs.insert spec.config.name spec := by
  unfold storeCIDR at h
  split at h
  · cases h
    rfl
  · split at h
    · cases h
      rfl
    · cases h

/-- What a changing `updateCIDR` does to the state. -/
theorem updateCIDR_eq_ok {fuel : Nat} {configReady : Bool}
    {order : GoMap.RangeOrder String CIDREntry} {cidrSpec : CIDRSpec} {new : Bool}
    {snapshot : GoMap String HostInterface} {nodes : Nat → NodeLookup} {st st' : ClusterState}
    (h : updateCIDR fuel configReady order cidrSpec new snapshot nodes st = some (st', .ok true)) :
    ∃ entriesMap spec cidrs pools,
      updateEntries fuel cidrSpec (sortAddress cidrSpec.config.excludeCIDRs) new snapshot nodes =
          some (entriesMap, true) ∧
        spec = ⟨cidrSpec.config, order.values entriesMap⟩ ∧
        storeCIDR st.cidrs spec new = .ok cidrs ∧
        updateIPPools (cleanPendingIPPools st.poolCache cidrSpec.config.name spec st.pools)
          cidrSpec.config.name spec.cidrs (sortAddress cidrSpec.config.excludeCIDRs) = some pools ∧
        st' = { st with
          cidrs, cidrCache := st.cidrCache.insert cidrSpec.config.name spec, pools } := by
  unfold updateCIDR at h
  split at h
  · obtain ⟨⟨entriesMap, changed⟩, hentries, h⟩ := Option.bind_eq_some_iff.mp h
    cases changed with
    | false => cases h
    | true =>
      dsimp only at h
      rw [if_pos rfl] at h
      split at h
      · cases h
      · next cidrs hstore =>
        obtain ⟨pools, hpools, h⟩ := Option.bind_eq_some_iff.mp h
        cases h
        exact ⟨entriesMap, _, cidrs, pools, hentries, rfl, hstore, hpools, rfl⟩
  · cases h

theorem podCIDRsOf_eq (spec : CIDRSpec) :
    podCIDRsOf spec = (hostsOf spec.cidrs).map fun p => p.2.podCIDR := by
  simp [podCIDRsOf, hostsOf, List.map_flatMap, Function.comp_def]

section Update

variable {st : ClusterState} {spec : CIDRSpec}

/-- A pending pool of the cache is a stored pool of the network that no host has. -/
theorem pending_stored (hst : Consistent st) (hmem : ippool ∈ st.poolCache.values)
    (hpend : isPending defName spec ippool = true) :
    (∃ name pool, st.pools.lookup name = some pool ∧ pool.spec = ippool) ∧
      ippool.netAttachDefName = defName ∧ ippool.podCIDR ∉ podCIDRsOf spec := by
  obtain ⟨name, hl⟩ := GoMap.mem_values.mp hmem
  rw [hst.cached] at hl
  obtain ⟨pool, hpool, hspec⟩ := Option.map_eq_some_iff.mp hl
  exact ⟨⟨name, pool, hpool, hspec⟩, isPending_iff.mp hpend⟩

/-- The pools of the hosts are not deleted. -/
theorem clean_host (hst : Consistent st) (htext : PoolTexts st)
    (hhosts : ∀ pod ∈ podCIDRsOf spec, PoolText pod) {pod : String}
    (hpod : pod ∈ podCIDRsOf spec) :
    (cleanPendingIPPools st.poolCache defName spec st.pools).lookup (getIPPoolName defName pod) =
      st.pools.lookup (getIPPoolName defName pod) := by
  rw [lookup_cleanPendingIPPools, if_neg]
  rintro ⟨ippool, hmem, hpend, hname⟩
  obtain ⟨⟨name, pool, hpool, rfl⟩, -, hnot⟩ := pending_stored hst hmem hpend
  have hinj := getIPPoolName_inj (htext name pool hpool) (hhosts pod hpod) hname
  exact hnot (hinj.2 ▸ hpod)

/-- The pools of other networks are not deleted. -/
theorem clean_other (hst : Consistent st) (htext : PoolTexts st)
    (hpool : st.pools.lookup name = some pool) (hne : pool.spec.netAttachDefName ≠ defName) :
    (cleanPendingIPPools st.poolCache defName spec st.pools).lookup name = some pool := by
  rw [lookup_cleanPendingIPPools, if_neg, hpool]
  rintro ⟨ippool, hmem, hpend, hname⟩
  obtain ⟨⟨name', pool', hpool', rfl⟩, hnet, -⟩ := pending_stored hst hmem hpend
  rw [hst.named name pool hpool] at hname
  have hinj := getIPPoolName_inj (htext name' pool' hpool') (htext name pool hpool) hname
  exact hne (hinj.1.symm.trans hnet)

/-- What is left of the pools of the network are those of its hosts. -/
theorem clean_own (hst : Consistent st)
    (hleft : (cleanPendingIPPools st.poolCache defName spec st.pools).lookup name = some pool) :
    st.pools.lookup name = some pool ∧ (pool.spec.netAttachDefName = defName →
      pool.spec.podCIDR ∈ podCIDRsOf spec) := by
  rw [lookup_cleanPendingIPPools] at hleft
  split at hleft
  · cases hleft
  · next hnot =>
    refine ⟨hleft, ?_⟩
    intro hnet
    by_contra hpod
    refine hnot ⟨pool.spec, ?_, ?_, (hst.named name pool hleft).symm⟩
    · refine GoMap.mem_values.mpr ⟨name, ?_⟩
      rw [hst.cached, hleft]
      rfl
    · exact isPending_iff.mpr ⟨hnet, hpod⟩

/-- Deleting and writing together, name by name: a host has its pool with the allocations
stored before, a pool of another network is untouched, and there is no other pool. -/
structure Updated (defName : String) (spec : CIDRSpec) (pools pools' : GoMap String IPPool) :
    Prop where
  host : ∀ p ∈ hostsOf spec.cidrs, ∃ pool,
    pools'.lookup (getIPPoolName defName p.2.podCIDR) = some pool ∧
      IsPoolOf defName p.1 p.2 (allocationsAt pools (getIPPoolName defName p.2.podCIDR)) pool
  other : ∀ name pool, pools.lookup name = some pool → pool.spec.netAttachDefName ≠ defName →
    pools'.lookup name = some pool
  origin : ∀ name pool, pools'.lookup name = some pool →
    (∃ p ∈ hostsOf spec.cidrs, name = getIPPoolName defName p.2.podCIDR ∧
        IsPoolOf defName p.1 p.2 (allocationsAt pools name) pool) ∨
      (pools.lookup name = some pool ∧ pool.spec.netAttachDefName ≠ defName)

theorem clean_update_lookup (hst : Consistent st) (htext : PoolTexts st)
    (hhosts : ∀ pod ∈ podCIDRsOf spec, PoolText pod) (hnodup : (podCIDRsOf spec).Nodup)
    (hwrite : updateIPPools (cleanPendingIPPools st.poolCache defName spec st.pools) defName
      spec.cidrs excludes = some pools') : Updated defName spec st.pools pools' := by
  have hmem : ∀ p ∈ hostsOf spec.cidrs, p.2.podCIDR ∈ podCIDRsOf spec := by
    intro p hp
    rw [podCIDRsOf_eq]
    exact List.mem_map_of_mem hp
  have hnames : ((hostsOf spec.cidrs).map fun p => getIPPoolName defName p.2.podCIDR).Nodup := by
    have hmap := hnodup.map_on (f := getIPPoolName defName) fun s hs s' hs' heq =>
      (getIPPoolName_inj (hhosts s hs) (hhosts s' hs') heq).2
    rwa [podCIDRsOf_eq, List.map_map] at hmap
  obtain ⟨hout, hin⟩ := updateIPPools_spec hnames hwrite
  have hhost : ∀ p ∈ hostsOf spec.cidrs, ∃ pool,
      pools'.lookup (getIPPoolName defName p.2.podCIDR) = some pool ∧
        IsPoolOf defName p.1 p.2
          (allocationsAt st.pools (getIPPoolName defName p.2.podCIDR)) pool := by
    intro p hp
    obtain ⟨pool, hl, hpool⟩ := hin p hp
    rw [allocationsAt, clean_host hst htext hhosts (hmem p hp)] at hpool
    exact ⟨pool, hl, hpool⟩
  refine ⟨hhost, ?_, ?_⟩
  · intro name pool hpool hne
    rw [hout name, clean_other hst htext hpool hne]
    intro p hp heq
    rw [hst.named name pool hpool] at heq
    exact hne (getIPPoolName_inj (hhosts _ (hmem p hp)) (htext name pool hpool) heq).1.symm
  · intro name pool hpool
    by_cases hname : ∃ p ∈ hostsOf spec.cidrs, name = getIPPoolName defName p.2.podCIDR
    · obtain ⟨p, hp, rfl⟩ := hname
      obtain ⟨pool', hpool', hof⟩ := hhost p hp
      rw [hpool] at hpool'
      obtain rfl := Option.some.inj hpool'
      exact Or.inl ⟨p, hp, rfl, hof⟩
    · right
      rw [hout name fun p hp heq => hname ⟨p, hp, heq.symm⟩] at hpool
      obtain ⟨hstored, hown⟩ := clean_own hst hpool
      refine ⟨hstored, ?_⟩
      intro hnet
      have hpod := hown hnet
      rw [podCIDRsOf_eq] at hpod
      obtain ⟨p, hp, heq⟩ := List.mem_map.mp hpod
      refine hname ⟨p, hp, ?_⟩
      rw [heq, ← hnet]
      exact hst.named name pool hstored

section Updated

variable (h : Updated defName spec pools pools')

include h

/-- A pool of the network is stored under the name of its own pod CIDR, for a host. -/
theorem Updated.own (hpool : pools'.lookup name = some pool)
    (hnet : pool.spec.netAttachDefName = defName) :
    ∃ p ∈ hostsOf spec.cidrs, name = getIPPoolName defName pool.spec.podCIDR ∧
      poolShare pool = hostShare p.1 p.2 ∧ pool.spec.allocations = allocationsAt pools name := by
  rcases h.origin name pool hpool with ⟨p, hp, rfl, -, hshare, halloc⟩ | ⟨-, hne⟩
  · refine ⟨p, hp, ?_, hshare, halloc⟩
    rw [show pool.spec.podCIDR = p.2.podCIDR from congrArg Share.podCIDR hshare]
  · exact absurd hnet hne

/-- The pools of the network are the shares of the hosts, one pool each. -/
theorem Updated.shares (hnodup : (podCIDRsOf spec).Nodup) :
    ((pools'.filter fun _ pool => pool.spec.netAttachDefName == defName).values.map
      poolShare).Perm ((hostsOf spec.cidrs).map fun p => hostShare p.1 p.2) := by
  refine (List.perm_ext_iff_of_nodup ?_ ?_).mpr ?_
  · refine GoMap.Separates.nodup ?_
    intro k k' v v' hk hk' hshare
    obtain ⟨hl, hnet⟩ := GoMap.lookup_filter.mp hk
    obtain ⟨hl', hnet'⟩ := GoMap.lookup_filter.mp hk'
    obtain ⟨-, -, hname, -⟩ := h.own hl (beq_iff_eq.mp hnet)
    obtain ⟨-, -, hname', -⟩ := h.own hl' (beq_iff_eq.mp hnet')
    rw [hname, hname', show v.spec.podCIDR = v'.spec.podCIDR from congrArg Share.podCIDR hshare]
  · refine List.Nodup.of_map Share.podCIDR ?_
    rw [podCIDRsOf_eq] at hnodup
    rw [List.map_map]
    exact hnodup
  · intro share
    rw [List.mem_map, List.mem_map]
    constructor
    · rintro ⟨pool, hpool, rfl⟩
      obtain ⟨name, hl⟩ := GoMap.mem_values.mp hpool
      obtain ⟨hl, hnet⟩ := GoMap.lookup_filter.mp hl
      obtain ⟨p, hp, -, hshare, -⟩ := h.own hl (beq_iff_eq.mp hnet)
      exact ⟨p, hp, hshare.symm⟩
    · rintro ⟨p, hp, rfl⟩
      obtain ⟨pool, hl, hnet, hshare, -⟩ := h.host p hp
      exact ⟨pool, GoMap.mem_values.mpr ⟨_, GoMap.lookup_filter.mpr ⟨hl, beq_iff_eq.mpr hnet⟩⟩,
        hshare⟩

/-- A pool of the network that stays keeps its allocations. -/
theorem Updated.kept {pool' : IPPool} (hpool : pools.lookup name = some pool)
    (hnet : pool.spec.netAttachDefName = defName) (hpool' : pools'.lookup name = some pool') :
    pool'.spec.allocations = pool.spec.allocations := by
  rcases h.origin name pool' hpool' with ⟨p, hp, rfl, -, -, halloc⟩ | ⟨hstored, hne⟩
  · rw [halloc, allocationsAt, hpool]
    rfl
  · rw [hpool] at hstored
    obtain rfl := Option.some.inj hstored
    exact absurd hnet hne

/-- The pools of other networks are the same. -/
theorem Updated.others (hne : pool.spec.netAttachDefName ≠ defName) :
    pools'.lookup name = some pool ↔ pools.lookup name = some pool := by
  constructor
  · intro hpool
    rcases h.origin name pool hpool with ⟨p, hp, rfl, hnet, -⟩ | ⟨hstored, -⟩
    · exact absurd hnet hne
    · exact hstored
  · exact fun hpool => h.other name pool hpool hne

end Updated

end Update

/-- **The IPPools refine the CIDR**: after a successful `updateCIDR`, the pools of the network
are exactly the shares of the hosts of the stored CIDR, provided the pod CIDRs are texts with
one slash and no dash. -/
theorem updateCIDR_pools {fuel : Nat} {configReady : Bool}
    {order : GoMap.RangeOrder String CIDREntry} {cidrSpec : CIDRSpec} {new : Bool}
    {snapshot : GoMap String HostInterface} {nodes : Nat → NodeLookup} {st st' : ClusterState}
    (hst : Consistent st) (htext : PoolTexts st)
    (hentries : ∀ entriesMap, updateEntries fuel cidrSpec
        (sortAddress cidrSpec.config.excludeCIDRs) new snapshot nodes = some (entriesMap, true) →
      (podCIDRsOf ⟨cidrSpec.config, entriesMap.values⟩).Nodup ∧
        ∀ pod ∈ podCIDRsOf ⟨cidrSpec.config, entriesMap.values⟩, PoolText pod)
    (h : updateCIDR fuel configReady order cidrSpec new snapshot nodes st = some (st', .ok true)) :
    PoolsRefine cidrSpec.config.name st st' := by
  obtain ⟨entriesMap, spec, cidrs, pools, hupdate, rfl, hstore, hwrite, rfl⟩ := updateCIDR_eq_ok h
  obtain ⟨hnodup, hhosts⟩ := hentries entriesMap hupdate
  have hperm : (podCIDRsOf ⟨cidrSpec.config, order.values entriesMap⟩).Perm
      (podCIDRsOf ⟨cidrSpec.config, entriesMap.values⟩) :=
    (order.perm entriesMap).flatMap_right _
  have hnodup := hperm.nodup_iff.mpr hnodup
  have hupdated := clean_update_lookup hst htext
    (fun pod hpod => hhosts pod (hperm.mem_iff.mp hpod)) hnodup hwrite
  refine ⟨⟨_, ?_, hupdated.shares hnodup⟩, ?_, ?_⟩
  · rw [storeCIDR_eq_ok hstore]
    exact AList.lookup_insert _
  · exact fun name pool pool' hpool hnet hpool' => hupdated.kept hpool hnet hpool'
  · exact fun name pool hne => hupdated.others hne

/-! ## Runs -/

/-- A network on `10.0.0.0/16` with one exclude. -/
def smallNet : PluginConfig :=
  { name := "net", subnet := "10.0.0.0/16", masterNetAddrs := ["192.168.0.0/24"], hostBlock := 8,
    interfaceBlock := 0, excludeCIDRs := ["10.0.0.4/30"], vlanMode := "" }

def smallEntry (hosts : List HostInterfaceInfo) : CIDREntry :=
  ⟨"192.168.0.0/24", 0, "10.0.0.0/16", hosts⟩

/-- A pool of host `a` without excludes, with one allocation. -/
def smallPool (network podCIDR : String) : IPPool :=
  ⟨"a", network, ⟨podCIDR, "10.0.0.0/16", network, "a", "eth1", [], [⟨"p", "default", 1, "10.0.0.1"⟩]⟩⟩

/-- A pool of the network that stays, one that is obsolete, and one of another network. -/
def smallPools : GoMap String IPPool :=
  (((∅ : GoMap String IPPool).insert "net-10.0.0.0-24" (smallPool "net" "10.0.0.0/24")).insert
    "net-10.0.9.0-24" (smallPool "net" "10.0.9.0/24")).insert
    "other-10.0.0.0-24" (smallPool "other" "10.0.0.0/24")

def smallState : ClusterState :=
  { cidrs := ∅, cidrCache := ∅, pools := smallPools
    poolCache := (((∅ : GoMap String IPPoolSpec).insert "net-10.0.0.0-24"
      (smallPool "net" "10.0.0.0/24").spec).insert "net-10.0.9.0-24"
      (smallPool "net" "10.0.9.0/24").spec).insert "other-10.0.0.0-24"
      (smallPool "other" "10.0.0.0/24").spec }

/-- Host `a` with one interface of the network. -/
def smallSnapshot : GoMap String HostInterface :=
  (∅ : GoMap String HostInterface).insert "a" ⟨"a", [⟨"eth1", "192.168.0.0/24", "192.168.0.1"⟩]⟩

theorem consistent_smallState : Consistent smallState := by
  constructor
  · have hentries : ∀ e ∈ smallPools.entries,
        e.1 = getIPPoolName e.2.spec.netAttachDefName e.2.spec.podCIDR := by decide +kernel
    intro name pool hpool
    exact hentries ⟨name, pool⟩ (AList.mem_lookup_iff.mp hpool)
  · intro name
    simp only [smallState, smallPools]
    by_cases hother : name = "other-10.0.0.0-24"
    · subst hother
      rfl
    by_cases hold : name = "net-10.0.9.0-24"
    · subst hold
      rfl
    by_cases hnew : name = "net-10.0.0.0-24"
    · subst hnew
      rfl
    · rw [AList.lookup_insert_ne hother, AList.lookup_insert_ne hold, AList.lookup_insert_ne hnew,
        AList.lookup_insert_ne hother, AList.lookup_insert_ne hold, AList.lookup_insert_ne hnew]
      rfl

theorem eq_ok_of_toOption {ε α : Type*} {x : Except ε α} {a : α} (h : x.toOption = some a) :
    x = .ok a := by
  cases x with
  | error e => cases h
  | ok b =>
    cases h
    rfl

theorem updateCIDR_pools_small :
    ∃ st', updateCIDR 8 true .listed ⟨smallNet, [smallEntry []]⟩ true smallSnapshot
        (fun _ => .failed) smallState = some (st', .ok true) ∧
      PoolsRefine "net" smallState st' := by
  have hrun : (updateCIDR 8 true .listed ⟨smallNet, [smallEntry []]⟩ true smallSnapshot
      (fun _ => .failed) smallState).map (fun r => r.2.toOption) = some (some true) := by
    decide +kernel
  obtain ⟨⟨st', res⟩, hrun, hres⟩ := Option.map_eq_some_iff.mp hrun
  obtain rfl := eq_ok_of_toOption hres
  refine ⟨st', hrun, updateCIDR_pools consistent_smallState ?_ ?_ hrun⟩
  · have hentries : ∀ e ∈ smallPools.entries, (parseCIDR e.2.spec.podCIDR).isSome = true := by
      decide +kernel
    intro name pool hpool
    exact poolText_of_isSome (hentries ⟨name, pool⟩ (AList.mem_lookup_iff.mp hpool))
  · intro entriesMap hupdate
    have hpods : (updateEntries 8 ⟨smallNet, [smallEntry []]⟩ (sortAddress smallNet.excludeCIDRs) true
        smallSnapshot (fun _ => .failed)).map (fun r => podCIDRsOf ⟨smallNet, r.1.values⟩) =
        some ["10.0.0.0/24"] := by decide +kernel
    rw [hupdate] at hpods
    have hpods : podCIDRsOf ⟨smallNet, entriesMap.values⟩ = ["10.0.0.0/24"] := Option.some.inj hpods
    rw [hpods]
    refine ⟨List.nodup_singleton _, ?_⟩
    intro pod hpod
    rw [List.mem_singleton.mp hpod]
    exact poolText_of_isSome (by decide +kernel)

/-- Two hosts whose pod CIDRs differ in the slash only. -/
def collidingSpec : CIDRSpec :=
  ⟨{ smallNet with excludeCIDRs := [] },
    [smallEntry [⟨0, "a", "eth1", "192.168.0.1", "10.0.0.0/24", ""⟩,
      ⟨1, "b", "eth1", "192.168.0.2", "10.0.0.0-24", ""⟩]]⟩

def emptyState : ClusterState := ⟨∅, ∅, ∅, ∅⟩

/-- The pod CIDRs are different texts, but the pools of the two hosts have one name. -/
theorem updateCIDR_pools_collide :
    Consistent emptyState ∧
      (∀ entriesMap, updateEntries 8 collidingSpec (sortAddress collidingSpec.config.excludeCIDRs)
          true ∅ (fun _ => .failed) = some (entriesMap, true) →
        (podCIDRsOf ⟨collidingSpec.config, entriesMap.values⟩).Nodup) ∧
      ∃ st', updateCIDR 8 true .listed collidingSpec true ∅ (fun _ => .failed) emptyState =
          some (st', .ok true) ∧
        ¬ PoolsRefine collidingSpec.config.name emptyState st' := by
  refine ⟨⟨?_, fun _ => rfl⟩, ?_, ?_⟩
  · intro name pool hpool
    cases hpool
  · intro entriesMap hupdate
    have hpods : (updateEntries 8 collidingSpec (sortAddress collidingSpec.config.excludeCIDRs) true
        ∅ (fun _ => .failed)).map (fun r => podCIDRsOf ⟨collidingSpec.config, r.1.values⟩) =
        some ["10.0.0.0/24", "10.0.0.0-24"] := by decide +kernel
    rw [hupdate] at hpods
    rw [show podCIDRsOf ⟨collidingSpec.config, entriesMap.values⟩ = _ from Option.some.inj hpods]
    decide
  · have hrun : (updateCIDR 8 true .listed collidingSpec true ∅ (fun _ => .failed) emptyState).map
        (fun r => (r.2.toOption,
          (r.1.pools.filter fun _ pool => pool.spec.netAttachDefName == "net").values.length,
          (r.1.cidrs.lookup "net").map fun spec => (hostsOf spec.cidrs).length)) =
        some (some true, 1, some 2) := by decide +kernel
    obtain ⟨⟨st', res⟩, hrun, hres⟩ := Option.map_eq_some_iff.mp hrun
    obtain ⟨hres, hpools, hhosts⟩ : res.toOption = some true ∧ _ = 1 ∧ _ = some 2 :=
      ⟨congrArg Prod.fst hres, congrArg (·.2.1) hres, congrArg (·.2.2) hres⟩
    obtain rfl := eq_ok_of_toOption hres
    refine ⟨st', hrun, ?_⟩
    rintro ⟨⟨spec, hspec, hperm⟩, -, -⟩
    have hlen := hperm.length_eq
    rw [List.length_map, List.length_map] at hlen
    rw [show st'.cidrs.lookup "net" = some spec from hspec] at hhosts
    have hhosts : (hostsOf spec.cidrs).length = 2 := Option.some.inj hhosts
    rw [hhosts] at hlen
    exact absurd (hpools.symm.trans hlen) (by decide)

end MultiNicCni.Controller
