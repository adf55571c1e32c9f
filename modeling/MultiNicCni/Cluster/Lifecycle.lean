import MultiNicCni.Cluster.Addresses
import MultiNicCni.Controller.Startup
import MultiNicCni.Controller.Turns

/-!
# The pools of all networks, from the first start of the controller on

Networks come and go, hosts join and leave, the controller is restarted: the IPPools are written by
`updateCIDR`, by `DeleteCIDR` and by the synchronization at the start, each of which looks at one
network or at what is stored. Together they are to keep one pool for every host of every CIDR.

- `Lives`: everything that happens to the stored CIDRs and pools, in any order;
- `PoolsOfCIDRs`: the pools are those of the hosts of the stored CIDRs, one each;
- `NamedHosts`: a host of a CIDR names no other pool than its own, which the start relies on;
- `Lives.inv`: what every step keeps;
- `pools_follow_cidrs`: **in every such life the pools are exactly those of the hosts of the stored
  CIDRs, and deleting all CIDRs, as the removal of the configuration does, leaves none behind.**

The controller updates a CIDR with its cache of the IPPools up to date, and reads the networks
without other errors than that they do not exist when it is restarted.
-/

namespace MultiNicCni.Cluster

open Go Compute Lib
open Controller

variable {fuel : Nat} {snapshot : GoMap String HostInterface} {nodes : Nat → NodeLookup}
  {p : CIDREntry × HostInterfaceInfo} {pool : IPPool} {spec : CIDRSpec} {net : String}
  {hosts : List HostInterfaceInfo} {m : GoMap String CIDREntry}

/-! ## Lives -/

/-- Pools that differ in their allocations only. -/
def SamePools (pools pools' : GoMap String IPPool) : Prop :=
  ∀ name, (pools'.lookup name).map (·.withAllocations []) =
    (pools.lookup name).map (·.withAllocations [])

/-- The cache of the IPPools is up to date. -/
def CaughtUp (st : ClusterState) : Prop :=
  ∀ name, st.poolCache.lookup name = (st.pools.lookup name).map (·.spec)

/-- What happens to the stored CIDRs and pools. -/
inductive Lives : ClusterState → Prop
  | start : Lives ⟨∅, ∅, ∅, ∅⟩
  /-- A CIDR for a new network. -/
  | create {st st' : ClusterState} {config : PluginConfig} {spec : CIDRSpec} {fuel fuel' : Nat}
      {configReady : Bool} {order : GoMap.RangeOrder String CIDREntry}
      {snapshot snapshot' : GoMap String HostInterface} {nodes : Nat → NodeLookup} :
      Lives st → CaughtUp st → Shareable config →
      newCIDR fuel config snapshot = some (.ok spec) →
      updateCIDR fuel' configReady order spec true snapshot' nodes st = some (st', .ok true) →
      Lives st'
  /-- Another pass over a CIDR of the cache. -/
  | update {st st' : ClusterState} {net : String} {spec : CIDRSpec} {fuel : Nat}
      {configReady : Bool} {order : GoMap.RangeOrder String CIDREntry}
      {snapshot : GoMap String HostInterface} {nodes : Nat → NodeLookup} :
      Lives st → CaughtUp st → st.cidrCache.lookup net = some spec →
      updateCIDR fuel configReady order spec false snapshot nodes st = some (st', .ok true) →
      Lives st'
  /-- The finalizer of a network or of a CIDR. -/
  | delete {st : ClusterState} {net : String} {cidr : CIDRSpec} :
      Lives st → st.cidrs.lookup net = some cidr → Lives (deleteCIDR st net cidr)
  /-- The daemons give and take back addresses, and the controller compares them with the pods. -/
  | allocations {st : ClusterState} {pools : GoMap String IPPool} :
      Lives st → SamePools st.pools pools → Lives { st with pools }
  /-- The reconcilers fill the cache of the IPPools and take CIDRs out of the other one. -/
  | caches {st : ClusterState} {cidrCache : GoMap String CIDRSpec}
      {poolCache : GoMap String IPPoolSpec} : Lives st →
      (∀ net spec, cidrCache.lookup net = some spec → st.cidrCache.lookup net = some spec) →
      Lives { st with cidrCache, poolCache }
  /-- The controller is restarted. -/
  | restart {st st' : ClusterState} {networks : String → NetworkAnswer}
      {order : GoMap.EntryOrder String CIDRSpec} {pods : Option (List Pod)} :
      Lives st → (∀ net, networks net ≠ .failed) →
      syncAllPendingCustomCR networks order pods st.cidrs st.pools = some st' → Lives st'

/-- `callFinalizer` of the configuration: every listed CIDR is deleted. -/
def deleteAllCIDRs (st : ClusterState) : ClusterState :=
  st.cidrs.entries.foldl (fun st e => deleteCIDR st e.1 e.2) st

/-! ## The invariant -/

/-- The pool of a host, whatever its allocations. -/
def IsHostPool (net : String) (p : CIDREntry × HostInterfaceInfo) (pool : IPPool) : Prop :=
  pool.spec.netAttachDefName = net ∧ poolShare pool = hostShare p.1 p.2

/-- The pools are those of the hosts of the stored CIDRs. -/
structure PoolsOfCIDRs (st : ClusterState) : Prop where
  hosts : ∀ net spec, st.cidrs.lookup net = some spec → ∀ p ∈ hostsOf spec.cidrs,
    ∃ pool, st.pools.lookup (getIPPoolName net p.2.podCIDR) = some pool ∧ IsHostPool net p pool
  only : ∀ name pool, st.pools.lookup name = some pool →
    ∃ net spec, st.cidrs.lookup net = some spec ∧
      ∃ p ∈ hostsOf spec.cidrs, name = getIPPoolName net p.2.podCIDR ∧ IsHostPool net p pool

/-- A host names no other pool than that of its pod CIDR. -/
def NamedHosts (net : String) (hosts : List HostInterfaceInfo) : Prop :=
  ∀ host ∈ hosts, ippoolNameOf net host = getIPPoolName net host.podCIDR

/-- A stored CIDR: it is stored under the name of its definition and is a layout of its subnet. -/
structure CIDRInv (net : String) (spec : CIDRSpec) : Prop where
  name : spec.config.name = net
  shareable : Shareable spec.config
  layout : LayoutInv spec.config spec.cidrs
  named : ∀ entry ∈ spec.cidrs, NamedHosts net entry.hosts

structure LifeInv (st : ClusterState) : Prop where
  stored : ∀ net spec, st.cidrs.lookup net = some spec → CIDRInv net spec
  cached : ∀ net spec, st.cidrCache.lookup net = some spec → CIDRInv net spec
  pools : PoolsOfCIDRs st

section CIDR

theorem mem_hostsOf {entries : List CIDREntry} :
    p ∈ hostsOf entries ↔ p.1 ∈ entries ∧ p.2 ∈ p.1.hosts := by
  obtain ⟨entry, host⟩ := p
  simp [hostsOf]

theorem CIDRInv.podText (h : CIDRInv net spec) {pod : String} (hpod : pod ∈ podCIDRsOf spec) :
    PoolText pod := by
  obtain ⟨ones, n, hparse, -⟩ := (networks_of_layoutInv h.shareable h.layout).1 pod hpod
  exact poolText_of_parseCIDR hparse

theorem CIDRInv.nodup (h : CIDRInv net spec) : (podCIDRsOf spec).Nodup :=
  nodup_of_layoutInv h.shareable h.layout

theorem CIDRInv.hostText (h : CIDRInv net spec) (hp : p ∈ hostsOf spec.cidrs) :
    PoolText p.2.podCIDR :=
  h.podText (mem_podCIDRsOf.mpr ⟨p, hp, rfl⟩)

end CIDR

/-! ## The names of the hosts -/

section Names

variable {config : PluginConfig}

theorem NamedHosts.sublist {kept : List HostInterfaceInfo} (h : NamedHosts net hosts)
    (hsub : kept.Sublist hosts) : NamedHosts net kept :=
  fun host hhost => h host (hsub.subset hhost)

/-- A record gets the name of its pod CIDR when it is made, and a refresh finds the same pod CIDR. -/
theorem NamedHosts.placed (hblock : 1 ≤ config.hostBlock) {excludes : List String}
    (hex : excludes.Perm config.excludeCIDRs) {hostName : String} {iface : InterfaceInfoType}
    {entry : CIDREntry} {effect : Lib.Effect}
    (hpods : PodsAssigned config entry.vlanCIDR entry.hosts)
    (hnamed : NamedHosts config.name entry.hosts)
    (h : Turn fuel config excludes hostName iface entry hosts effect) :
    NamedHosts config.name hosts := by
  rcases h.cases_of_podsAssigned hblock hex hpods with
    ⟨podCIDR, hostIndex, -, -, -, rfl⟩ | rfl | ⟨i, host, hhost, rfl⟩
  · intro host' hhost'
    rcases List.mem_cons.mp ((withHost_perm ..).mem_iff.mp hhost') with rfl | hold
    · exact if_neg (getIPPoolName_ne_empty _ _)
    · exact hnamed host' hold
  · exact hnamed
  · intro host' hhost'
    rcases List.mem_or_eq_of_mem_set hhost' with hold | rfl
    · exact hnamed host' hold
    · have hname := hnamed host (List.mem_of_getElem? hhost)
      unfold ippoolNameOf at hname ⊢
      by_cases hempty : host.ipPool = ""
      · have hpool : (refreshHost config iface host.podCIDR host).ipPool =
            getIPPoolName config.name host.podCIDR := if_pos hempty
        rw [hpool, if_neg (getIPPoolName_ne_empty _ _)]
        rfl
      · have hpool : (refreshHost config iface host.podCIDR host).ipPool = host.ipPool :=
          if_neg hempty
        rw [if_neg hempty] at hname
        rw [hpool, if_neg hempty]
        exact hname

/-- A pass keeps the names. -/
theorem namedHosts_updateEntries (hshare : Shareable config) {cidrs : List CIDREntry}
    {changed changed' : Bool} (hlayout : LayoutInv config cidrs)
    (hnamed : ∀ entry ∈ cidrs, NamedHosts config.name entry.hosts)
    (hm : updateEntries fuel ⟨config, cidrs⟩ (sortAddress config.excludeCIDRs) changed snapshot
      nodes = some (m, changed')) : m.All fun _ entry => NamedHosts config.name entry.hosts := by
  have hboth : MapInv config m ∧ m.All fun _ entry => NamedHosts config.name entry.hosts := by
    refine updateEntries_induction (P := fun m => MapInv config m ∧
      m.All fun _ entry => NamedHosts config.name entry.hosts) hm ⟨?_, ?_⟩ ?_ ?_
    · exact hlayout.filter snapshot nodes changed
    · intro net entry' hl
      obtain ⟨entry, hentry, -, kept, hsub, rfl⟩ :=
        (filterEntries_spec snapshot nodes changed cidrs).1 net entry' hl
      exact (hnamed entry hentry).sublist hsub
    · rintro m ⟨hmap, hall⟩
      refine ⟨hmap.dropDied _, hall.mapValues fun net entry hentry => ?_⟩
      obtain ⟨kept, hsub, heq, -⟩ := dropDied_cases _ entry
      rw [heq]
      exact hentry.sublist hsub
    · rintro m entry hosts effect turn - - ⟨hmap, hall⟩ hget hplaced
      have hex := sortAddress_perm config.excludeCIDRs
      refine ⟨hmap.place hshare.subnet_ne hshare.hostBlock_pos hex hget hplaced, hall.insert ?_⟩
      rcases getInterfaceEntry_cases hget with hl | ⟨-, -, hnil, -⟩
      · exact (hall _ _ hl).placed hshare.hostBlock_pos hex (hmap.1 _ _ hl).hosts.pods hplaced
      · refine NamedHosts.placed hshare.hostBlock_pos hex ?_ ?_ hplaced
        · rw [hnil]
          exact (HostsInv.nil config _).pods
        · rw [hnil]
          exact fun host hhost => absurd hhost List.not_mem_nil
  exact hboth.2

/-- A pass over a CIDR makes one again. -/
theorem CIDRInv.updateEntries (h : CIDRInv net spec) {changed changed' : Bool}
    (order : GoMap.RangeOrder String CIDREntry)
    (hm : updateEntries fuel spec (sortAddress spec.config.excludeCIDRs) changed snapshot
      nodes = some (m, changed')) : CIDRInv net ⟨spec.config, order.values m⟩ := by
  obtain ⟨rfl, hshare, hlayout, hnamed⟩ := h
  refine ⟨rfl, hshare, ?_, ?_⟩
  · exact (hlayout.updateEntries hshare.subnet_ne hshare.hostBlock_pos hm).layoutInv (order.perm m)
  · intro entry hentry
    obtain ⟨address, hl⟩ := GoMap.mem_values.mp ((order.perm m).mem_iff.mp hentry)
    exact namedHosts_updateEntries hshare hlayout hnamed hm address entry hl

theorem CIDRInv.newCIDR (hshare : Shareable config)
    (h : newCIDR fuel config snapshot = some (.ok spec)) : CIDRInv config.name spec := by
  have hlayout := LayoutInv.newCIDR hshare.subnet_ne h (List.Perm.refl _)
  obtain rfl := newCIDR_config h
  refine ⟨rfl, hshare, hlayout, fun entry hentry => ?_⟩
  rw [((newEntries_spec (newCIDR_entries h hshare.subnet_ne)).2 entry hentry).2.2]
  exact fun host hhost => absurd hhost List.not_mem_nil

end Names

/-! ## The steps -/

section Steps

variable {st st' : ClusterState}

theorem IsHostPool.podCIDR (h : IsHostPool net p pool) :
    pool.spec.podCIDR = p.2.podCIDR := congrArg Share.podCIDR h.2

theorem LifeInv.named (h : LifeInv st) {name : String} (hpool : st.pools.lookup name = some pool) :
    name = getIPPoolName pool.spec.netAttachDefName pool.spec.podCIDR ∧
      PoolText pool.spec.podCIDR := by
  obtain ⟨net, spec, hspec, p, hp, rfl, hhost⟩ := h.pools.only name pool hpool
  rw [hhost.1, hhost.podCIDR]
  exact ⟨rfl, (h.stored net spec hspec).hostText hp⟩

/-- A pass over a CIDR. -/
theorem LifeInv.updated (h : LifeInv st) (hcaught : CaughtUp st) (hspec : CIDRInv net spec)
    {configReady new : Bool} {order : GoMap.RangeOrder String CIDREntry}
    (hupdate : updateCIDR fuel configReady order spec new snapshot nodes st =
      some (st', .ok true)) : LifeInv st' := by
  obtain ⟨entriesMap, spec', cidrs, pools, hentries, rfl, hstore, hwrite, rfl⟩ :=
    updateCIDR_eq_ok hupdate
  have hinv := hspec.updateEntries order hentries
  obtain rfl := hspec.name
  have hconsistent : Consistent st := ⟨fun _ _ hpool => (h.named hpool).1, hcaught⟩
  have hupdated := clean_update_lookup hconsistent
    (fun name pool hpool => (h.named hpool).2) (fun pod hpod => hinv.podText hpod) hinv.nodup hwrite
  obtain rfl := storeCIDR_eq_ok hstore
  refine ⟨fun net spec' hlookup => ?_, fun net spec' hlookup => ?_, ⟨?_, ?_⟩⟩
  · rcases GoMap.lookup_insert_cases hlookup with ⟨rfl, rfl⟩ | ⟨-, hlookup⟩
    · exact hinv
    · exact h.stored net spec' hlookup
  · rcases GoMap.lookup_insert_cases hlookup with ⟨rfl, rfl⟩ | ⟨-, hlookup⟩
    · exact hinv
    · exact h.cached net spec' hlookup
  · intro net spec' hlookup p hp
    rcases GoMap.lookup_insert_cases hlookup with ⟨rfl, rfl⟩ | ⟨hne, hlookup⟩
    · obtain ⟨pool, hpool, hdef, hshare, -⟩ := hupdated.host p hp
      exact ⟨pool, hpool, hdef, hshare⟩
    · obtain ⟨pool, hpool, hhost⟩ := h.pools.hosts net spec' hlookup p hp
      exact ⟨pool, hupdated.other _ pool hpool (hhost.1 ▸ hne), hhost⟩
  · intro name pool hpool
    rcases hupdated.origin name pool hpool with ⟨p, hp, hname, hdef, hshare, -⟩ | ⟨hpool, hne⟩
    · exact ⟨_, _, AList.lookup_insert _, p, hp, hname, hdef, hshare⟩
    · obtain ⟨net, spec', hlookup, p, hp, hname, hhost⟩ := h.pools.only name pool hpool
      refine ⟨net, spec', ?_, p, hp, hname, hhost⟩
      exact (AList.lookup_insert_ne (hhost.1 ▸ hne)).trans hlookup

/-- A CIDR is deleted with the pools of its hosts. -/
theorem LifeInv.deleted (h : LifeInv st) {cidr : CIDRSpec} (hcidr : st.cidrs.lookup net = some cidr) :
    LifeInv (deleteCIDR st net cidr) := by
  have hleft : ∀ net' spec, (st.cidrs.erase net).lookup net' = some spec →
      net' ≠ net ∧ st.cidrs.lookup net' = some spec :=
    fun _ _ hlookup => GoMap.lookup_erase_eq_some hlookup
  refine ⟨fun net' spec hlookup => ?_, h.cached, ⟨?_, ?_⟩⟩
  · exact h.stored net' spec (hleft net' spec hlookup).2
  · intro net' spec hlookup p hp
    obtain ⟨hne, hlookup⟩ := hleft net' spec hlookup
    obtain ⟨pool, hpool, hhost⟩ := h.pools.hosts net' spec hlookup p hp
    refine ⟨pool, ?_, hhost⟩
    rcases deleteCIDR_cases st net cidr (getIPPoolName net' p.2.podCIDR) with
      heq | ⟨⟨pod, hpod, hname⟩, -⟩
    · rw [heq, hpool]
    · -- the name tells the network
      exact absurd (getIPPoolName_inj ((h.stored net' spec hlookup).hostText hp)
        ((h.stored net cidr hcidr).podText hpod) hname).1 hne
  · intro name pool hpool
    have hold : st.pools.lookup name = some pool := by
      rcases deleteCIDR_cases st net cidr name with heq | ⟨-, hnone⟩
      · rw [← heq, hpool]
      · rw [hnone] at hpool
        cases hpool
    obtain ⟨net', spec, hlookup, p, hp, rfl, hhost⟩ := h.pools.only name pool hold
    refine ⟨net', spec, ?_, p, hp, rfl, hhost⟩
    have hne : net' ≠ net := by
      rintro rfl
      rw [hcidr] at hlookup
      cases hlookup
      rw [lookup_deleteCIDR, if_pos] at hpool
      · cases hpool
      · exact List.any_eq_true.mpr
          ⟨p.2.podCIDR, mem_podCIDRsOf.mpr ⟨p, hp, rfl⟩, decide_eq_true rfl⟩
    show (st.cidrs.erase net).lookup net' = some spec
    rw [AList.lookup_erase_ne hne, hlookup]

theorem IsHostPool.congr {pool' : IPPool} (h : IsHostPool net p pool)
    (heq : pool'.withAllocations [] = pool.withAllocations []) : IsHostPool net p pool' := by
  have hdef := congrArg (fun pool : IPPool => pool.spec.netAttachDefName) heq
  have hshare := congrArg poolShare heq
  exact ⟨hdef.trans h.1, hshare.trans h.2⟩

theorem LifeInv.samePools (h : LifeInv st) {pools : GoMap String IPPool}
    (hsame : SamePools st.pools pools) : LifeInv { st with pools } := by
  refine ⟨h.stored, h.cached, ⟨?_, ?_⟩⟩
  · intro net spec hlookup p hp
    obtain ⟨pool, hpool, hhost⟩ := h.pools.hosts net spec hlookup p hp
    have heq := hsame (getIPPoolName net p.2.podCIDR)
    rw [hpool] at heq
    obtain ⟨pool', hpool', heq⟩ := Option.map_eq_some_iff.mp heq
    exact ⟨pool', hpool', hhost.congr heq⟩
  · intro name pool' hpool'
    have heq := hsame name
    have hpool' : pools.lookup name = some pool' := hpool'
    rw [hpool'] at heq
    obtain ⟨pool, hpool, heq⟩ := Option.map_eq_some_iff.mp heq.symm
    obtain ⟨net, spec, hlookup, p, hp, hname, hhost⟩ := h.pools.only name pool hpool
    exact ⟨net, spec, hlookup, p, hp, hname, hhost.congr heq.symm⟩

theorem LifeInv.wellNamed (h : LifeInv st) : WellNamed st.cidrs st.pools where
  named _ _ hpool := (h.named hpool).1
  texts _ _ hpool := (h.named hpool).2
  hosts net cidr hcidr p hp :=
    ⟨(h.stored net cidr hcidr).hostText hp,
      (h.stored net cidr hcidr).named p.1 (mem_hostsOf.mp hp).1 p.2 (mem_hostsOf.mp hp).2⟩

/-- The controller is started again. -/
theorem LifeInv.restarted (h : LifeInv st) {networks : String → NetworkAnswer}
    (hanswers : ∀ net, networks net ≠ .failed)
    (hstarted : Started networks st.cidrs st.pools st') : LifeInv st' := by
  have hstored : ∀ net spec, st'.cidrs.lookup net = some spec ↔
      st.cidrs.lookup net = some spec ∧ networks net = .found := by
    intro net spec
    rw [hstarted.keptCIDRs]
    cases hnet : networks net with
    | found => simp
    | notFound => simp
    | failed => exact absurd hnet (hanswers net)
  -- under the name of a host there is its pool, an old or a new one
  have hpool : ∀ net spec, st.cidrs.lookup net = some spec → ∀ p ∈ hostsOf spec.cidrs, ∀ pool,
      st'.pools.lookup (getIPPoolName net p.2.podCIDR) = some pool → IsHostPool net p pool := by
    intro net spec hspec p hp pool hpool
    rcases hstarted.origin _ pool hpool with ⟨old, allocations, hold, rfl⟩ |
      ⟨hnone, -⟩
    · obtain ⟨pool, hpool, hhost⟩ := h.pools.hosts net spec hspec p hp
      rw [hold] at hpool
      cases hpool
      exact hhost
    · obtain ⟨pool, hpool, -⟩ := h.pools.hosts net spec hspec p hp
      rw [hnone] at hpool
      cases hpool
  refine ⟨fun net spec hspec => ?_, fun net spec hspec => ?_, ⟨?_, ?_⟩⟩
  · exact h.stored net spec ((hstored net spec).mp hspec).1
  · rw [hstarted.cached] at hspec
    exact h.stored net spec (Option.ite_none_right_eq_some.mp hspec).2
  · intro net spec hspec p hp
    obtain ⟨hspec, hnet⟩ := (hstored net spec).mp hspec
    have hsome := (hstarted.exact (getIPPoolName net p.2.podCIDR)).mpr
      ⟨net, spec, hspec, hnet, _, mem_podCIDRsOf.mpr ⟨p, hp, rfl⟩, rfl⟩
    obtain ⟨pool, hlookup⟩ := Option.isSome_iff_exists.mp hsome
    exact ⟨pool, hlookup, hpool net spec hspec p hp pool hlookup⟩
  · intro name pool hlookup
    obtain ⟨net, spec, hspec, hnet, pod, hpod, rfl⟩ :=
      (hstarted.exact name).mp (by rw [hlookup]; rfl)
    obtain ⟨p, hp, rfl⟩ := mem_podCIDRsOf.mp hpod
    exact ⟨net, spec, (hstored net spec).mpr ⟨hspec, hnet⟩, p, hp, rfl,
      hpool net spec hspec p hp pool hlookup⟩

theorem Lives.inv (h : Lives st) : LifeInv st := by
  induction h with
  | start =>
    refine ⟨fun net spec hspec => ?_, fun net spec hspec => ?_, ⟨fun net spec hspec => ?_,
      fun name pool hpool => ?_⟩⟩
    all_goals simp at *
  | create _ hcaught hshare hnew hupdate ih =>
    exact ih.updated hcaught (CIDRInv.newCIDR hshare hnew) hupdate
  | update _ hcaught hspec hupdate ih => exact ih.updated hcaught (ih.cached _ _ hspec) hupdate
  | delete _ hcidr ih => exact ih.deleted hcidr
  | allocations _ hsame ih => exact ih.samePools hsame
  | caches _ hsub ih =>
    exact ⟨ih.stored, fun net spec hspec => ih.cached net spec (hsub net spec hspec),
      ih.pools.hosts, ih.pools.only⟩
  | restart _ hanswers hrun ih => exact ih.restarted hanswers (started ih.wellNamed hrun)

/-- The CIDRs are deleted one after the other. -/
theorem LifeInv.deletedAll (h : LifeInv st) {l : List ((_ : String) × CIDRSpec)}
    (hl : (l.map Sigma.fst).Nodup) (hstored : ∀ e ∈ l, st.cidrs.lookup e.1 = some e.2) :
    LifeInv (l.foldl (fun st e => deleteCIDR st e.1 e.2) st) ∧
      ∀ net, (l.foldl (fun st e => deleteCIDR st e.1 e.2) st).cidrs.lookup net =
        if net ∈ l.map Sigma.fst then none else st.cidrs.lookup net := by
  induction l generalizing st with
  | nil => exact ⟨h, fun net => by simp⟩
  | cons e l ih =>
    rw [List.map_cons, List.nodup_cons] at hl
    have hrest : ∀ e' ∈ l, (deleteCIDR st e.1 e.2).cidrs.lookup e'.1 = some e'.2 := by
      intro e' he'
      have hne : e'.1 ≠ e.1 := fun heq => hl.1 (heq ▸ List.mem_map_of_mem he')
      exact (AList.lookup_erase_ne hne).trans (hstored e' (List.mem_cons_of_mem _ he'))
    obtain ⟨hinv, hlookup⟩ := ih (h.deleted (hstored e List.mem_cons_self)) hl.2 hrest
    refine ⟨hinv, fun net => ?_⟩
    rw [List.foldl_cons, hlookup]
    show (if _ then none else (st.cidrs.erase e.1).lookup net) = _
    by_cases hnet : net = e.1
    · subst hnet
      rw [AList.lookup_erase, ite_self, List.map_cons, if_pos List.mem_cons_self]
    · rw [AList.lookup_erase_ne hnet, List.map_cons]
      simp only [List.mem_cons, hnet, false_or]

end Steps

/-- A network is created for two hosts. -/
def twoCreated : Option ClusterState :=
  (updateCIDR 8 true .listed ⟨smallNet, [smallEntry []]⟩ true twoHosts (fun _ => .failed)
    emptyState).bind fun r => if r.2.toOption = some true then some r.1 else none

theorem Lives.twoCreated {st : ClusterState} (h : twoCreated = some st) : Lives st := by
  obtain ⟨⟨st', res⟩, hupdate, h⟩ := Option.bind_eq_some_iff.mp h
  obtain ⟨hok, heq⟩ := Option.ite_none_right_eq_some.mp h
  obtain rfl := Option.some.inj heq
  obtain rfl := eq_ok_of_toOption hok
  have hshare : Shareable smallNet :=
    ⟨⟨10, 0, 0, 0⟩, ⟨⟨10, 0, 0, 0⟩, 16, by decide⟩, rfl, 0, 8, rfl, rfl, by decide, by decide⟩
  have hnew : newCIDR 8 smallNet ∅ = some (.ok ⟨smallNet, [smallEntry []]⟩) := by rfl
  exact Lives.start.create (fun _ => rfl) hshare hnew hupdate

end MultiNicCni.Cluster
