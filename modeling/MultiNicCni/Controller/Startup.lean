import MultiNicCni.Controller.PoolRefinement
import MultiNicCni.Controller.SyncPools
import MultiNicCni.Daemon.Pool

/-!
# What the controller does with the stored objects at its start (`SyncAllPendingCustomCR`)

Before the controller serves any request, it brings the stored IPPools in line with the stored
CIDRs and networks: CIDRs whose network is gone are deleted with their pools, pools that no host
has are deleted, missing pools are created, and the allocations are compared with the pods.

- `deleteCIDR`, `syncWithMultinicNetwork`, `createOrUpdateIPPool`, `syncIPPoolWithActivePods`,
  `syncIPPools`, `syncAllPendingCustomCR`: the functions of `controllers/cidr_handler.go`;
- `Wanted`: the names of the pools that there should be;
- `Repairing`: what every step keeps: a stored pool that is wanted, and no pool of other origin;
- `started`, `startup_repairs`: **from whatever was stored, exactly the wanted pools are left**, each
  as it was stored up to its allocations or new and without any.

A network that cannot be read for another reason than that it does not exist counts neither as gone
nor as valid: its CIDR is kept, and all its pools are deleted.
-/

namespace MultiNicCni.Controller

open Go Compute Lib
open Daemon (patchIPPool lookup_patchIPPool lookup_patchIPPool_ne)

variable {name pod net : String} {st st' : ClusterState} {pool : IPPool}
  {validCIDRs cidrs : GoMap String CIDRSpec} {pods : Option (List Pod)} {cidr : CIDRSpec}
  {stored pools' pools : GoMap String IPPool} {ippoolSnapshot : GoMap String IPPoolSpec}
  {order : GoMap.EntryOrder String CIDRSpec}

/-! ## The functions -/

/-- What `GetNetwork` comes to. -/
inductive NetworkAnswer where
  | found
  | notFound
  | failed
  deriving DecidableEq, Repr

variable {networks : String → NetworkAnswer}

/-- `InitIppoolCache`: the specs of the listed pools. -/
def initIppoolCache (pools : GoMap String IPPool) : GoMap String IPPoolSpec :=
  GoMap.insertAll (pools.entries.map fun e => (e.1, e.2.spec))

/-- `DeleteCIDR`: the pools of the hosts, then the CIDR. -/
def deleteCIDR (st : ClusterState) (name : String) (cidr : CIDRSpec) : ClusterState :=
  { st with
    pools := (podCIDRsOf cidr).foldl (fun pools podCIDR => deleteIPPool pools name podCIDR) st.pools
    cidrs := st.cidrs.erase name }

/-- The body of the loop of `syncWithMultinicNetwork`: the state and the valid CIDRs. -/
def syncNetwork (networks : String → NetworkAnswer) (acc : ClusterState × GoMap String CIDRSpec)
    (e : (_ : String) × CIDRSpec) : ClusterState × GoMap String CIDRSpec :=
  match networks e.1 with
  | .notFound => (deleteCIDR acc.1 e.1 e.2, acc.2)
  | .found => (acc.1, acc.2.insert e.1 e.2)
  | .failed => acc

/-- `syncWithMultinicNetwork`, without the statuses of the networks. -/
def syncWithMultinicNetwork (networks : String → NetworkAnswer) (st : ClusterState)
    (cidrMap : GoMap String CIDRSpec) : ClusterState × GoMap String CIDRSpec :=
  cidrMap.entries.foldl (syncNetwork networks) (st, ∅)

/-- The body of the loops of `createOrUpdateIPPool`. -/
def createIfMissing (ippoolSnapshot : GoMap String IPPoolSpec) (name : String)
    (excludes : List IPValue) (pools : GoMap String IPPool) (entry : CIDREntry)
    (host : HostInterfaceInfo) : Option (GoMap String IPPool) :=
  match ippoolSnapshot.lookup (ippoolNameOf name host) with
  | some _ => some pools
  | none =>
    updateIPPool pools name host.podCIDR entry.vlanCIDR host.hostName host.interfaceName excludes

/-- `createOrUpdateIPPool`. -/
def createOrUpdateIPPool (ippoolSnapshot : GoMap String IPPoolSpec) (st : ClusterState)
    (name : String) (cidr : CIDRSpec) : Option ClusterState := do
  let excludes := sortAddress cidr.config.excludeCIDRs
  let pools ← cidr.cidrs.foldlM (fun pools entry => entry.hosts.foldlM
    (fun pools host => createIfMissing ippoolSnapshot name excludes pools entry host) pools)
    st.pools
  some { st with cidrCache := st.cidrCache.insert name cidr, pools }

/-- The first loop of `SyncIPPoolWithActivePods`: pools of networks without a CIDR. -/
def deletePendingIPPools (cidrMap : GoMap String CIDRSpec)
    (ippoolSnapshot : GoMap String IPPoolSpec) (pools : GoMap String IPPool) :
    GoMap String IPPool :=
  ippoolSnapshot.values.foldl (fun pools ippool =>
    match cidrMap.lookup ippool.netAttachDefName with
    | some _ => pools
    | none => deleteIPPool pools ippool.netAttachDefName ippool.podCIDR) pools

/-- The patches of the last loop. A patch of a pool that is not stored fails. -/
def patchChanged (outputs : GoMap String (Bool × List Allocation)) (pools : GoMap String IPPool) :
    GoMap String IPPool :=
  outputs.entries.foldl (fun pools e =>
    if e.2.1 then patchIPPool e.1 e.2.2 pools else pools) pools

/-- `SyncIPPoolWithActivePods`; `pods` is `none` when the pods cannot be listed. The patches do not
influence the loop, which reads the snapshot. -/
def syncIPPoolWithActivePods (cidrMap : GoMap String CIDRSpec)
    (ippoolSnapshot : GoMap String IPPoolSpec) (pods : Option (List Pod)) (st : ClusterState) :
    Option ClusterState :=
  let pools := deletePendingIPPools cidrMap ippoolSnapshot st.pools
  match pods with
  | none => some { st with pools }
  | some pods => do
    let s ← syncPools ippoolSnapshot (getCurrentAllocationMap cidrMap pods)
      (crAllocationMap cidrMap ippoolSnapshot)
    some { st with pools := patchChanged s.outputs pools }

/-- The body of the loop of `syncIPPools`. -/
def syncCIDR (ippoolSnapshot : GoMap String IPPoolSpec) (st : ClusterState)
    (e : (_ : String) × CIDRSpec) : Option ClusterState :=
  createOrUpdateIPPool ippoolSnapshot
    { st with pools := cleanPendingIPPools ippoolSnapshot e.1 e.2 st.pools } e.1 e.2

/-- `syncIPPools`, where `order` is the order in which the valid CIDRs are iterated. -/
def syncIPPools (order : GoMap.EntryOrder String CIDRSpec) (pods : Option (List Pod))
    (validCIDRs : GoMap String CIDRSpec) (st : ClusterState) : Option ClusterState := do
  let ippoolSnapshot := st.poolCache
  let st ← (order.entries validCIDRs).foldlM (syncCIDR ippoolSnapshot) st
  syncIPPoolWithActivePods validCIDRs ippoolSnapshot pods st

/-- `SyncAllPendingCustomCR`, on the stored CIDRs and pools and with empty caches. -/
def syncAllPendingCustomCR (networks : String → NetworkAnswer)
    (order : GoMap.EntryOrder String CIDRSpec) (pods : Option (List Pod))
    (cidrs : GoMap String CIDRSpec) (pools : GoMap String IPPool) : Option ClusterState :=
  let (st, validCIDRs) := syncWithMultinicNetwork networks
    ⟨cidrs, ∅, pools, initIppoolCache pools⟩ cidrs
  syncIPPools order pods validCIDRs st

/-! ## The wanted pools -/

/-- The name of the pool of a host of a CIDR whose network is there. -/
def Wanted (networks : String → NetworkAnswer) (cidrs : GoMap String CIDRSpec) (name : String) :
    Prop :=
  ∃ net cidr, cidrs.lookup net = some cidr ∧ networks net = .found ∧
    ∃ pod ∈ podCIDRsOf cidr, name = getIPPoolName net pod

/-- What the stored objects are assumed to be: every pool is stored under the name made from its
spec, and a host of a CIDR names no other pool than this. -/
structure WellNamed (cidrs : GoMap String CIDRSpec) (pools : GoMap String IPPool) : Prop where
  named : ∀ name pool, pools.lookup name = some pool →
    name = getIPPoolName pool.spec.netAttachDefName pool.spec.podCIDR
  texts : ∀ name pool, pools.lookup name = some pool → PoolText pool.spec.podCIDR
  hosts : ∀ net cidr, cidrs.lookup net = some cidr → ∀ p ∈ hostsOf cidr.cidrs,
    PoolText p.2.podCIDR ∧ ippoolNameOf net p.2 = getIPPoolName net p.2.podCIDR

/-- The pool that is created for a host. -/
def IsNew (networks : String → NetworkAnswer) (cidrs : GoMap String CIDRSpec) (name : String)
    (pool : IPPool) : Prop :=
  ∃ net cidr, cidrs.lookup net = some cidr ∧ networks net = .found ∧
    ∃ p ∈ hostsOf cidr.cidrs, name = getIPPoolName net p.2.podCIDR ∧ IsPoolOf net p.1 p.2 [] pool

/-- What every step keeps: the stored pools that are wanted are as they were, and a pool is as it
was or new. -/
structure Repairing (networks : String → NetworkAnswer) (cidrs : GoMap String CIDRSpec)
    (stored pools : GoMap String IPPool) : Prop where
  keeps : ∀ name, Wanted networks cidrs name → (stored.lookup name).isSome = true →
    pools.lookup name = stored.lookup name
  origin : ∀ name pool, pools.lookup name = some pool → stored.lookup name = some pool ∨
    (stored.lookup name = none ∧ IsNew networks cidrs name pool)

section Wanted

theorem mem_podCIDRsOf : pod ∈ podCIDRsOf cidr ↔ ∃ p ∈ hostsOf cidr.cidrs, p.2.podCIDR = pod := by
  rw [podCIDRsOf_eq]
  exact List.mem_map

theorem WellNamed.podText (h : WellNamed cidrs stored) (hcidr : cidrs.lookup net = some cidr)
    (hpod : pod ∈ podCIDRsOf cidr) : PoolText pod := by
  obtain ⟨p, hp, rfl⟩ := mem_podCIDRsOf.mp hpod
  exact (h.hosts net cidr hcidr p hp).1

theorem IsNew.wanted (h : IsNew networks cidrs name pool) : Wanted networks cidrs name := by
  obtain ⟨net, cidr, hcidr, hnet, p, hp, rfl, -⟩ := h
  exact ⟨net, cidr, hcidr, hnet, _, mem_podCIDRsOf.mpr ⟨p, hp, rfl⟩, rfl⟩

/-- The name of a pool says whether it is wanted. -/
theorem wanted_iff (h : WellNamed cidrs stored) (hpod : PoolText pod) :
    Wanted networks cidrs (getIPPoolName net pod) ↔
      ∃ cidr, cidrs.lookup net = some cidr ∧ networks net = .found ∧ pod ∈ podCIDRsOf cidr := by
  constructor
  · rintro ⟨net', cidr, hcidr, hnet, pod', hpod', hname⟩
    obtain ⟨rfl, rfl⟩ := getIPPoolName_inj hpod (h.podText hcidr hpod') hname
    exact ⟨cidr, hcidr, hnet, hpod'⟩
  · rintro ⟨cidr, hcidr, hnet, hmem⟩
    exact ⟨net, cidr, hcidr, hnet, pod, hmem, rfl⟩

/-- Pools that are not wanted may be deleted. -/
theorem Repairing.delete (h : Repairing networks cidrs stored pools)
    (hlookup : ∀ name, pools'.lookup name = pools.lookup name ∨
      (¬ Wanted networks cidrs name ∧ pools'.lookup name = none)) :
    Repairing networks cidrs stored pools' where
  keeps name hwanted hstored := by
    rcases hlookup name with heq | ⟨hnot, -⟩
    · rw [heq]
      exact h.keeps name hwanted hstored
    · exact absurd hwanted hnot
  origin name pool hpool := by
    rcases hlookup name with heq | ⟨-, hnone⟩
    · exact h.origin name pool (heq ▸ hpool)
    · rw [hnone] at hpool
      cases hpool

/-- What a step may do besides: it keeps that a wanted pool is there, and that another one is not. -/
structure Tidies (networks : String → NetworkAnswer) (cidrs : GoMap String CIDRSpec)
    (pools pools' : GoMap String IPPool) : Prop where
  present : ∀ name, Wanted networks cidrs name → (pools.lookup name).isSome = true →
    (pools'.lookup name).isSome = true
  absent : ∀ name, ¬ Wanted networks cidrs name → pools.lookup name = none →
    pools'.lookup name = none

theorem Tidies.refl (pools : GoMap String IPPool) : Tidies networks cidrs pools pools :=
  ⟨fun _ _ h => h, fun _ _ h => h⟩

theorem Tidies.trans {pools'' : GoMap String IPPool} (h : Tidies networks cidrs pools pools')
    (h' : Tidies networks cidrs pools' pools'') : Tidies networks cidrs pools pools'' :=
  ⟨fun name hw hs => h'.present name hw (h.present name hw hs),
    fun name hw hn => h'.absent name hw (h.absent name hw hn)⟩

theorem Tidies.delete (hlookup : ∀ name, pools'.lookup name = pools.lookup name ∨
      (¬ Wanted networks cidrs name ∧ pools'.lookup name = none)) :
    Tidies networks cidrs pools pools' where
  present name hwanted hsome := by
    rcases hlookup name with heq | ⟨hnot, -⟩
    · rwa [heq]
    · exact absurd hwanted hnot
  absent name _ hnone := by
    rcases hlookup name with heq | ⟨-, hnone'⟩
    · rwa [heq]
    · exact hnone'

end Wanted

/-! ## The networks -/

section Networks

theorem lookup_initIppoolCache (pools : GoMap String IPPool) (name : String) :
    (initIppoolCache pools).lookup name = (pools.lookup name).map (·.spec) :=
  GoMap.lookup_insertAll_entries _ pools name

theorem lookup_deleteCIDR (st : ClusterState) (net : String) (cidr : CIDRSpec) (name : String) :
    (deleteCIDR st net cidr).pools.lookup name =
      if (podCIDRsOf cidr).any fun pod => decide (name = getIPPoolName net pod) then none
      else st.pools.lookup name := by
  refine foldl_set (fun pools : GoMap String IPPool => pools.lookup name) _ none ?_ st.pools
  intro pools pod _
  by_cases hname : name = getIPPoolName net pod
  · rw [if_pos (decide_eq_true hname), deleteIPPool, hname, AList.lookup_erase]
  · rw [if_neg fun h => hname (of_decide_eq_true h), deleteIPPool, AList.lookup_erase_ne hname]

theorem deleteCIDR_cases (st : ClusterState) (net : String) (cidr : CIDRSpec) (name : String) :
    (deleteCIDR st net cidr).pools.lookup name = st.pools.lookup name ∨
      ((∃ pod ∈ podCIDRsOf cidr, name = getIPPoolName net pod) ∧
        (deleteCIDR st net cidr).pools.lookup name = none) := by
  rw [lookup_deleteCIDR]
  split
  · next hany =>
    obtain ⟨pod, hpod, hname⟩ := List.any_eq_true.mp hany
    exact Or.inr ⟨⟨pod, hpod, of_decide_eq_true hname⟩, rfl⟩
  · exact Or.inl rfl

/-- What is left after the loop over the CIDRs: only pools of networks that are gone are deleted. -/
structure NetworksSynced (networks : String → NetworkAnswer) (st st' : ClusterState)
    (cidrMap validCIDRs : GoMap String CIDRSpec) : Prop where
  pools : ∀ name, st'.pools.lookup name = st.pools.lookup name ∨
    ((∃ net cidr, cidrMap.lookup net = some cidr ∧ networks net = .notFound ∧
      ∃ pod ∈ podCIDRsOf cidr, name = getIPPoolName net pod) ∧ st'.pools.lookup name = none)
  cidrs : ∀ net, st'.cidrs.lookup net =
    if (cidrMap.lookup net).isSome ∧ networks net = .notFound then none else st.cidrs.lookup net
  poolCache : st'.poolCache = st.poolCache
  cidrCache : st'.cidrCache = st.cidrCache
  valid : ∀ net, validCIDRs.lookup net =
    if networks net = .found then cidrMap.lookup net else none

theorem syncNetwork_valid (l : List ((_ : String) × CIDRSpec)) (st : ClusterState)
    (validCIDRs : GoMap String CIDRSpec) :
    (l.foldl (syncNetwork networks) (st, validCIDRs)).2 =
      l.foldl (fun m e => if decide (networks e.1 = .found) then m.insert e.1 e.2 else m)
        validCIDRs := by
  induction l generalizing st validCIDRs with
  | nil => rfl
  | cons e l ih =>
    rw [List.foldl_cons, List.foldl_cons, syncNetwork]
    cases hnet : networks e.1 with
    | found => exact ih _ _
    | notFound => exact ih _ _
    | failed => exact ih _ _

theorem networksSynced (networks : String → NetworkAnswer) (st : ClusterState)
    (cidrMap : GoMap String CIDRSpec) :
    NetworksSynced networks st (syncWithMultinicNetwork networks st cidrMap).1 cidrMap
      (syncWithMultinicNetwork networks st cidrMap).2 where
  pools := by
    intro name
    refine foldl_invariant (P := fun acc : ClusterState × GoMap String CIDRSpec =>
      acc.1.pools.lookup name = st.pools.lookup name ∨ (_ ∧ acc.1.pools.lookup name = none)) ?_
      (Or.inl rfl)
    intro acc e he hacc
    unfold syncNetwork
    split
    · next hnet =>
      rcases deleteCIDR_cases acc.1 e.1 e.2 name with heq | ⟨hpod, hnone⟩
      · rwa [heq]
      · exact Or.inr ⟨⟨e.1, e.2, GoMap.lookup_of_mem he, hnet, hpod⟩, hnone⟩
    · exact hacc
    · exact hacc
  cidrs := by
    intro net
    have hset := foldl_set (l := cidrMap.entries) (f := syncNetwork networks)
      (fun acc : ClusterState × GoMap String CIDRSpec => acc.1.cidrs.lookup net)
      (fun e => decide (e.1 = net ∧ networks e.1 = .notFound)) none ?_ (st, ∅)
    · refine hset.trans (if_congr ?_ rfl rfl)
      rw [List.any_eq_true]
      constructor
      · rintro ⟨e, he, hdec⟩
        obtain ⟨rfl, hnet⟩ := of_decide_eq_true hdec
        exact ⟨by rw [GoMap.lookup_of_mem he]; rfl, hnet⟩
      · rintro ⟨hsome, hnet⟩
        obtain ⟨cidr, hcidr⟩ := Option.isSome_iff_exists.mp hsome
        exact ⟨⟨net, cidr⟩, AList.mem_lookup_iff.mp hcidr, decide_eq_true ⟨rfl, hnet⟩⟩
    · intro acc e _
      unfold syncNetwork
      cases hnet : networks e.1 with
      | found => simp
      | failed => simp
      | notFound =>
        show (acc.1.cidrs.erase e.1).lookup net = _
        by_cases hname : e.1 = net
        · simp [hname]
        · simp [hname, AList.lookup_erase_ne (Ne.symm hname)]
  poolCache := by
    refine foldl_invariant (P := fun acc : ClusterState × GoMap String CIDRSpec =>
      acc.1.poolCache = st.poolCache) ?_ rfl
    intro acc e _ hacc
    unfold syncNetwork
    split <;> exact hacc
  cidrCache := by
    refine foldl_invariant (P := fun acc : ClusterState × GoMap String CIDRSpec =>
      acc.1.cidrCache = st.cidrCache) ?_ rfl
    intro acc e _ hacc
    unfold syncNetwork
    split <;> exact hacc
  valid := by
    intro net
    have hcopy := GoMap.lookup_copyIf (fun net => decide (networks net = .found)) cidrMap ∅ net
    rw [GoMap.copyIf, ← syncNetwork_valid _ st] at hcopy
    refine hcopy.trans ?_
    simp

end Networks

/-! ## The pools -/

/-- A CIDR is done: its hosts have their pools, and there is no other pool of its network left. -/
def CIDRDone (stored pools : GoMap String IPPool) (net : String) (cidr : CIDRSpec) : Prop :=
  (∀ p ∈ hostsOf cidr.cidrs, (pools.lookup (getIPPoolName net p.2.podCIDR)).isSome = true) ∧
    ∀ name pool, stored.lookup name = some pool → pool.spec.netAttachDefName = net →
      pool.spec.podCIDR ∉ podCIDRsOf cidr → pools.lookup name = none

section Pools

variable (hwell : WellNamed cidrs stored)
include hwell

theorem stored_of_snapshot {ippool : IPPoolSpec} (h : ippool ∈ (initIppoolCache stored).values) :
    ∃ name pool, stored.lookup name = some pool ∧ pool.spec = ippool ∧
      name = getIPPoolName ippool.netAttachDefName ippool.podCIDR ∧ PoolText ippool.podCIDR := by
  obtain ⟨name, hname⟩ := GoMap.mem_values.mp h
  rw [lookup_initIppoolCache] at hname
  obtain ⟨pool, hpool, rfl⟩ := Option.map_eq_some_iff.mp hname
  exact ⟨name, pool, hpool, rfl, hwell.named name pool hpool, hwell.texts name pool hpool⟩

theorem mem_snapshot (h : stored.lookup name = some pool) :
    pool.spec ∈ (initIppoolCache stored).values ∧
      getIPPoolName pool.spec.netAttachDefName pool.spec.podCIDR = name := by
  refine ⟨GoMap.mem_values.mpr ⟨name, ?_⟩, (hwell.named name pool h).symm⟩
  rw [lookup_initIppoolCache, h]
  rfl

/-- A stored pool that no host of the CIDR of its network has. -/
theorem not_wanted (hcidr : cidrs.lookup net = some cidr) (hpool : stored.lookup name = some pool)
    (hdef : pool.spec.netAttachDefName = net) (hpod : pool.spec.podCIDR ∉ podCIDRsOf cidr) :
    ¬ Wanted networks cidrs name := by
  intro hwanted
  rw [hwell.named name pool hpool] at hwanted
  obtain ⟨cidr', hcidr', -, hpod'⟩ := (wanted_iff hwell (hwell.texts name pool hpool)).mp hwanted
  rw [hdef, hcidr] at hcidr'
  cases hcidr'
  exact hpod hpod'

section CIDR

variable (hcidr : cidrs.lookup net = some cidr) (hnet : networks net = .found)
include hcidr

theorem clean_cases (pools : GoMap String IPPool) (name : String) :
    (cleanPendingIPPools (initIppoolCache stored) net cidr pools).lookup name =
        pools.lookup name ∨
      (¬ Wanted networks cidrs name ∧
        (cleanPendingIPPools (initIppoolCache stored) net cidr pools).lookup name = none) := by
  rw [lookup_cleanPendingIPPools]
  split
  · next hpending =>
    obtain ⟨ippool, hmem, hpending, rfl⟩ := hpending
    obtain ⟨hdef, hnot⟩ := isPending_iff.mp hpending
    obtain ⟨name, pool, hpool, rfl, rfl, -⟩ := stored_of_snapshot hwell hmem
    exact Or.inr ⟨not_wanted hwell hcidr hpool hdef hnot, rfl⟩
  · exact Or.inl rfl

include hnet

/-- The pool of one host. -/
theorem createIfMissing_spec {excludes : List IPValue} (h : Repairing networks cidrs stored pools)
    {p : CIDREntry × HostInterfaceInfo} (hp : p ∈ hostsOf cidr.cidrs)
    (hrun : createIfMissing (initIppoolCache stored) net excludes pools p.1 p.2 = some pools') :
    Repairing networks cidrs stored pools' ∧ Tidies networks cidrs pools pools' ∧
      (pools'.lookup (getIPPoolName net p.2.podCIDR)).isSome = true := by
  have hwanted : Wanted networks cidrs (getIPPoolName net p.2.podCIDR) :=
    ⟨net, cidr, hcidr, hnet, _, mem_podCIDRsOf.mpr ⟨p, hp, rfl⟩, rfl⟩
  unfold createIfMissing at hrun
  rw [(hwell.hosts net cidr hcidr p hp).2, lookup_initIppoolCache] at hrun
  cases hstored : stored.lookup (getIPPoolName net p.2.podCIDR) with
  | some pool =>
    rw [hstored] at hrun
    cases hrun
    refine ⟨h, Tidies.refl _, ?_⟩
    rw [h.keeps _ hwanted (by rw [hstored]; rfl), hstored]
    rfl
  | none =>
    rw [hstored] at hrun
    obtain ⟨pool, rfl, hdef, hshare, halloc⟩ := updateIPPool_spec hrun
    -- a pool of that name can only be one created before, which has no allocations
    have hempty : allocationsAt pools (getIPPoolName net p.2.podCIDR) = [] := by
      unfold allocationsAt
      cases hpool : pools.lookup (getIPPoolName net p.2.podCIDR) with
      | none => rfl
      | some old =>
        rcases h.origin _ old hpool with hold | ⟨-, -, -, -, -, -, -, -, -, -, hold⟩
        · rw [hstored] at hold
          cases hold
        · exact hold
    have hnew : IsNew networks cidrs (getIPPoolName net p.2.podCIDR) pool :=
      ⟨net, cidr, hcidr, hnet, p, hp, rfl, hdef, hshare, halloc.trans hempty⟩
    refine ⟨⟨fun name hw hs => ?_, fun name pool' hpool' => ?_⟩, ⟨fun name hw hs => ?_,
      fun name hw hs => ?_⟩, ?_⟩
    · have hne : name ≠ getIPPoolName net p.2.podCIDR := by
        rintro rfl
        rw [hstored] at hs
        cases hs
      rw [AList.lookup_insert_ne hne]
      exact h.keeps name hw hs
    · rcases GoMap.lookup_insert_cases hpool' with ⟨rfl, rfl⟩ | ⟨-, hpool'⟩
      · exact Or.inr ⟨hstored, hnew⟩
      · exact h.origin name pool' hpool'
    · rw [GoMap.lookup_insert_ite]
      split
      · rfl
      · exact hs
    · have hne : name ≠ getIPPoolName net p.2.podCIDR := by
        rintro rfl
        exact hw hwanted
      rw [AList.lookup_insert_ne hne]
      exact hs
    · rw [AList.lookup_insert]
      rfl

/-- All hosts of a CIDR. -/
theorem createOrUpdateIPPool_spec (h : Repairing networks cidrs stored st.pools)
    (hrun : createOrUpdateIPPool (initIppoolCache stored) st net cidr = some st') :
    Repairing networks cidrs stored st'.pools ∧ Tidies networks cidrs st.pools st'.pools ∧
      (∀ p ∈ hostsOf cidr.cidrs,
        (st'.pools.lookup (getIPPoolName net p.2.podCIDR)).isSome = true) ∧
      st' = { st with cidrCache := st.cidrCache.insert net cidr, pools := st'.pools } := by
  obtain ⟨pools', hpools, hrun⟩ := Option.bind_eq_some_iff.mp hrun
  cases hrun
  rw [foldlM_foldlM (fun entry : CIDREntry => entry.hosts)] at hpools
  -- the hosts that are not to come have their pools
  have hend := foldlM_rest (P := fun pools rest => Repairing networks cidrs stored pools ∧
      Tidies networks cidrs st.pools pools ∧ (∀ p ∈ rest, p ∈ hostsOf cidr.cidrs) ∧
      ∀ p ∈ hostsOf cidr.cidrs,
        p ∈ rest ∨ (pools.lookup (getIPPoolName net p.2.podCIDR)).isSome = true) ?_
    ⟨h, Tidies.refl _, fun p hp => hp, fun p hp => Or.inl hp⟩ hpools
  · obtain ⟨hrepair, htidy, -, hall⟩ := hend
    exact ⟨hrepair, htidy, fun p hp => (hall p hp).resolve_left List.not_mem_nil, rfl⟩
  · rintro pools pools' p rest ⟨hrepair, htidy, hrest, hall⟩ hstep
    obtain ⟨hrepair', htidy', hown⟩ :=
      createIfMissing_spec hwell hcidr hnet hrepair (hrest p List.mem_cons_self) hstep
    refine ⟨hrepair', htidy.trans htidy', fun q hq => hrest q (List.mem_cons_of_mem _ hq), ?_⟩
    intro q hq
    rcases hall q hq with hmem | hsome
    · rcases List.mem_cons.mp hmem with rfl | hmem
      · exact Or.inr hown
      · exact Or.inl hmem
    · exact Or.inr (htidy'.present _
        ⟨net, cidr, hcidr, hnet, _, mem_podCIDRsOf.mpr ⟨q, hq, rfl⟩, rfl⟩ hsome)

/-- One turn of the loop over the valid CIDRs. -/
theorem syncCIDR_spec (h : Repairing networks cidrs stored st.pools)
    (hrun : syncCIDR (initIppoolCache stored) st ⟨net, cidr⟩ = some st') :
    Repairing networks cidrs stored st'.pools ∧ Tidies networks cidrs st.pools st'.pools ∧
      CIDRDone stored st'.pools net cidr ∧
      st' = { st with cidrCache := st.cidrCache.insert net cidr, pools := st'.pools } := by
  have hclean : ∀ name, _ ∨ (¬ Wanted networks cidrs name ∧ _) := clean_cases hwell hcidr st.pools
  obtain ⟨hrepair, htidy, hhosts, heq⟩ :=
    createOrUpdateIPPool_spec hwell hcidr hnet (h.delete hclean) hrun
  refine ⟨hrepair, (Tidies.delete hclean).trans htidy, ⟨hhosts, ?_⟩, heq⟩
  intro name pool hpool hdef hpod
  obtain ⟨hmem, hname⟩ := mem_snapshot hwell hpool
  refine htidy.absent name (not_wanted hwell hcidr hpool hdef hpod) ?_
  show (cleanPendingIPPools (initIppoolCache stored) net cidr st.pools).lookup name = none
  rw [lookup_cleanPendingIPPools, if_pos]
  exact ⟨pool.spec, hmem, isPending_iff.mpr ⟨hdef, hpod⟩, hname⟩

end CIDR

/-- What is done stays done. -/
theorem CIDRDone.tidies (hcidr : cidrs.lookup net = some cidr) (hnet : networks net = .found)
    (h : CIDRDone stored pools net cidr) (htidy : Tidies networks cidrs pools pools') :
    CIDRDone stored pools' net cidr := by
  constructor
  · intro p hp
    exact htidy.present _ ⟨net, cidr, hcidr, hnet, _, mem_podCIDRsOf.mpr ⟨p, hp, rfl⟩, rfl⟩ (h.1 p hp)
  · intro name pool hpool hdef hpod
    exact htidy.absent name (not_wanted hwell hcidr hpool hdef hpod) (h.2 name pool hpool hdef hpod)

/-- The loop over the valid CIDRs. -/
theorem syncCIDRs_spec {l : List ((_ : String) × CIDRSpec)}
    (hvalid : ∀ e ∈ l, cidrs.lookup e.1 = some e.2 ∧ networks e.1 = .found)
    (h : Repairing networks cidrs stored st.pools)
    (hrun : l.foldlM (syncCIDR (initIppoolCache stored)) st = some st') :
    Repairing networks cidrs stored st'.pools ∧ Tidies networks cidrs st.pools st'.pools ∧
      (∀ e ∈ l, CIDRDone stored st'.pools e.1 e.2) ∧ st'.cidrs = st.cidrs ∧
      ∀ net, st'.cidrCache.lookup net =
        if l.any fun e => decide (e.1 = net) then cidrs.lookup net
        else st.cidrCache.lookup net := by
  induction l generalizing st with
  | nil =>
    cases hrun
    exact ⟨h, Tidies.refl _, nofun, rfl, fun net => rfl⟩
  | cons e l ih =>
    obtain ⟨st₁, h₁, hrun⟩ := foldlM_cons_eq_some.mp hrun
    obtain ⟨hcidr, hnet⟩ := hvalid e List.mem_cons_self
    obtain ⟨hrepair, htidy, hdone, heq⟩ := syncCIDR_spec hwell hcidr hnet h h₁
    obtain ⟨hrepair', htidy', hrest, hcidrs, hcache⟩ :=
      ih (fun e' he' => hvalid e' (List.mem_cons_of_mem _ he')) hrepair hrun
    refine ⟨hrepair', htidy.trans htidy', List.forall_mem_cons.mpr ⟨?_, hrest⟩, ?_, ?_⟩
    · exact hdone.tidies hwell hcidr hnet htidy'
    · rw [hcidrs, heq]
    · intro net
      have hinsert : st₁.cidrCache.lookup net =
          if e.1 = net then cidrs.lookup net else st.cidrCache.lookup net := by
        rw [heq, GoMap.lookup_insert_ite]
        by_cases hname : e.1 = net
        · rw [if_pos hname.symm, if_pos hname, ← hname, hcidr]
        · rw [if_neg (Ne.symm hname), if_neg hname]
      rw [hcache, hinsert, List.any_cons]
      by_cases hname : e.1 = net
      · simp [hname]
      · rw [if_neg hname, decide_eq_false hname, Bool.false_or]

variable
  (hvalid : ∀ net, validCIDRs.lookup net = if networks net = .found then cidrs.lookup net else none)
include hvalid

/-- Pools of networks without a valid CIDR. -/
theorem deletePending_cases (pools : GoMap String IPPool) (name : String) :
    ((deletePendingIPPools validCIDRs (initIppoolCache stored) pools).lookup name =
        pools.lookup name ∧ ∀ pool, stored.lookup name = some pool →
        (validCIDRs.lookup pool.spec.netAttachDefName).isSome = true) ∨
      (¬ Wanted networks cidrs name ∧
        (deletePendingIPPools validCIDRs (initIppoolCache stored) pools).lookup name = none) := by
  have hlookup : (deletePendingIPPools validCIDRs (initIppoolCache stored) pools).lookup name =
      if (initIppoolCache stored).values.any fun ippool =>
        decide (validCIDRs.lookup ippool.netAttachDefName = none ∧
          name = getIPPoolName ippool.netAttachDefName ippool.podCIDR)
      then none else pools.lookup name := by
    refine foldl_set (fun pools : GoMap String IPPool => pools.lookup name) _ none ?_ pools
    intro pools ippool _
    cases hfound : validCIDRs.lookup ippool.netAttachDefName with
    | some cidr => simp
    | none =>
      by_cases hname : name = getIPPoolName ippool.netAttachDefName ippool.podCIDR
      · subst hname
        simp [deleteIPPool]
      · simp [hname, deleteIPPool, AList.lookup_erase_ne hname]
  rw [hlookup]
  split
  · next hany =>
    obtain ⟨ippool, hmem, hdec⟩ := List.any_eq_true.mp hany
    obtain ⟨hnone, rfl⟩ := of_decide_eq_true hdec
    obtain ⟨-, -, -, -, -, htext⟩ := stored_of_snapshot hwell hmem
    refine Or.inr ⟨fun hwanted => ?_, rfl⟩
    obtain ⟨cidr, hcidr, hnet, -⟩ := (wanted_iff hwell htext).mp hwanted
    rw [hvalid, if_pos hnet, hcidr] at hnone
    cases hnone
  · next hany =>
    refine Or.inl ⟨rfl, fun pool hpool => ?_⟩
    obtain ⟨hmem, hname⟩ := mem_snapshot hwell hpool
    rw [Option.isSome_iff_ne_none]
    intro hnone
    exact hany (List.any_eq_true.mpr ⟨pool.spec, hmem, decide_eq_true ⟨hnone, hname.symm⟩⟩)

/-- After both, only wanted pools are left. -/
theorem wanted_of_left (h : Repairing networks cidrs stored pools)
    (hdone : ∀ net cidr, validCIDRs.lookup net = some cidr → CIDRDone stored pools net cidr)
    (hleft : (deletePendingIPPools validCIDRs (initIppoolCache stored) pools).lookup name =
      some pool) : Wanted networks cidrs name := by
  rcases deletePending_cases hwell hvalid pools name with ⟨heq, hstored⟩ | ⟨-, hnone⟩
  · rw [heq] at hleft
    rcases h.origin name pool hleft with hpool | ⟨-, hnew⟩
    · obtain ⟨cidr, hcidr⟩ := Option.isSome_iff_exists.mp (hstored pool hpool)
      by_contra hnot
      have hpod : pool.spec.podCIDR ∉ podCIDRsOf cidr := by
        intro hpod
        refine hnot ?_
        rw [hvalid] at hcidr
        obtain ⟨hnet, hcidr⟩ := Option.ite_none_right_eq_some.mp hcidr
        rw [hwell.named name pool hpool]
        exact ⟨_, cidr, hcidr, hnet, _, hpod, rfl⟩
      rw [(hdone _ cidr hcidr).2 name pool hpool rfl hpod] at hleft
      cases hleft
    · exact hnew.wanted
  · rw [hnone] at hleft
    cases hleft

end Pools

/-! ## The patches -/

/-- A patch changes the allocations of pools that were listed. -/
theorem lookup_patchChanged (outputs : GoMap String (Bool × List Allocation))
    (pools : GoMap String IPPool) (name : String) :
    (patchChanged outputs pools).lookup name = pools.lookup name ∨
      ((outputs.lookup name).isSome = true ∧ ∃ allocations,
        (patchChanged outputs pools).lookup name =
          (pools.lookup name).map (·.withAllocations allocations)) := by
  refine foldl_invariant (P := fun pools' : GoMap String IPPool =>
    pools'.lookup name = pools.lookup name ∨ (_ ∧ ∃ allocations,
      pools'.lookup name = (pools.lookup name).map (·.withAllocations allocations))) ?_ (Or.inl rfl)
  intro pools' e he hpools'
  split
  · by_cases hname : name = e.1
    · subst hname
      refine Or.inr ⟨by rw [GoMap.lookup_of_mem he]; rfl, e.2.2, ?_⟩
      rw [lookup_patchIPPool]
      rcases hpools' with heq | ⟨-, allocations, heq⟩
      · rw [heq]
      · rw [heq, Option.map_map]
        rfl
    · rwa [lookup_patchIPPool_ne _ hname]
  · exact hpools'

/-- The outputs are those of the listed pools. -/
theorem outputs_of_syncPools {allocationMap crAllocationMap : AllocationMap} {s : PoolsSync}
    (h : syncPools ippoolSnapshot allocationMap crAllocationMap = some s)
    (hname : (s.outputs.lookup name).isSome = true) :
    (ippoolSnapshot.lookup name).isSome = true := by
  refine foldlM_invariant (P := fun s : PoolsSync => (s.outputs.lookup name).isSome = true →
    (ippoolSnapshot.lookup name).isSome = true) ?_ (fun hsome => by simp at hsome) h hname
  intro s s' e he hs hstep
  obtain ⟨r, -, hstep⟩ := Option.bind_eq_some_iff.mp hstep
  cases hstep
  intro hsome
  by_cases heq : name = e.1
  · rw [heq, GoMap.lookup_of_mem he]
    rfl
  · refine hs ?_
    have hsome : ((s.outputs.insert e.1 (r.changed, r.newAllocations)).lookup name).isSome = true :=
      hsome
    rwa [AList.lookup_insert_ne heq] at hsome

/-! ## The start -/

section Startup

/-- `SyncIPPoolWithActivePods`: first the deletions, then patches of listed pools. -/
theorem syncIPPoolWithActivePods_spec {cidrMap : GoMap String CIDRSpec}
    (h : syncIPPoolWithActivePods cidrMap ippoolSnapshot pods st = some st') :
    st'.cidrs = st.cidrs ∧ st'.cidrCache = st.cidrCache ∧ ∀ name,
      st'.pools.lookup name = (deletePendingIPPools cidrMap ippoolSnapshot st.pools).lookup name ∨
        ((ippoolSnapshot.lookup name).isSome = true ∧ ∃ allocations, st'.pools.lookup name =
          ((deletePendingIPPools cidrMap ippoolSnapshot st.pools).lookup name).map
            (·.withAllocations allocations)) := by
  unfold syncIPPoolWithActivePods at h
  cases pods with
  | none =>
    cases h
    exact ⟨rfl, rfl, fun name => Or.inl rfl⟩
  | some pods =>
    obtain ⟨s, hs, h⟩ := Option.bind_eq_some_iff.mp h
    cases h
    refine ⟨rfl, rfl, fun name => (lookup_patchChanged s.outputs _ name).imp id ?_⟩
    exact And.imp_left (outputs_of_syncPools hs)

/-- Where the loop over the networks leaves the pools. -/
theorem repairing_networks (hwell : WellNamed cidrs pools) (hpools : st.pools = pools)
    (hsync : NetworksSynced networks st st' cidrs validCIDRs) :
    Repairing networks cidrs pools st'.pools := by
  have hstart : Repairing networks cidrs pools st.pools := by
    rw [hpools]
    exact ⟨fun _ _ _ => rfl, fun _ _ hpool => Or.inl hpool⟩
  refine hstart.delete fun name => (hsync.pools name).imp id ?_
  rintro ⟨⟨net, cidr, hcidr, hnet, pod, hpod, rfl⟩, hnone⟩
  refine ⟨fun hwanted => ?_, hnone⟩
  obtain ⟨-, -, hfound, -⟩ := (wanted_iff hwell (hwell.podText hcidr hpod)).mp hwanted
  rw [hnet] at hfound
  cases hfound

/-- The three parts of the start. -/
theorem syncAllPendingCustomCR_eq_some
    (h : syncAllPendingCustomCR networks order pods cidrs pools = some st') :
    ∃ st₁ validCIDRs st₂,
      NetworksSynced networks ⟨cidrs, ∅, pools, initIppoolCache pools⟩ st₁ cidrs validCIDRs ∧
        (order.entries validCIDRs).foldlM (syncCIDR (initIppoolCache pools)) st₁ = some st₂ ∧
        syncIPPoolWithActivePods validCIDRs (initIppoolCache pools) pods st₂ = some st' := by
  have hsync := networksSynced networks ⟨cidrs, ∅, pools, initIppoolCache pools⟩ cidrs
  unfold syncAllPendingCustomCR at h
  generalize syncWithMultinicNetwork networks _ cidrs = r at h hsync
  obtain ⟨st₁, validCIDRs⟩ := r
  obtain ⟨st₂, h₂, h₃⟩ := Option.bind_eq_some_iff.mp h
  have hcache : st₁.poolCache = initIppoolCache pools := hsync.poolCache
  rw [hcache] at h₂ h₃
  exact ⟨st₁, validCIDRs, st₂, hsync, h₂, h₃⟩

/-- All steps together, before the patches. -/
structure Repaired (networks : String → NetworkAnswer) (cidrs : GoMap String CIDRSpec)
    (stored pools : GoMap String IPPool) : Prop where
  repairing : Repairing networks cidrs stored pools
  present : ∀ name, Wanted networks cidrs name → (pools.lookup name).isSome = true
  only : ∀ name pool, pools.lookup name = some pool → Wanted networks cidrs name

theorem repaired_of_done (hwell : WellNamed cidrs pools)
    (hvalid : ∀ net, validCIDRs.lookup net = if networks net = .found then cidrs.lookup net else none)
    (h : Repairing networks cidrs pools pools')
    (hdone : ∀ net cidr, validCIDRs.lookup net = some cidr → CIDRDone pools pools' net cidr) :
    Repaired networks cidrs pools
      (deletePendingIPPools validCIDRs (initIppoolCache pools) pools') := by
  have hcases : ∀ name,
      (deletePendingIPPools validCIDRs (initIppoolCache pools) pools').lookup name =
        pools'.lookup name ∨ (¬ Wanted networks cidrs name ∧
          (deletePendingIPPools validCIDRs (initIppoolCache pools) pools').lookup name = none) :=
    fun name => (deletePending_cases hwell hvalid pools' name).imp And.left id
  refine ⟨h.delete hcases, fun name hwanted => ?_, fun name pool hpool => ?_⟩
  · refine (Tidies.delete hcases).present name hwanted ?_
    obtain ⟨net, cidr, hcidr, hnet, pod, hpod, rfl⟩ := hwanted
    obtain ⟨p, hp, rfl⟩ := mem_podCIDRsOf.mp hpod
    refine (hdone net cidr ?_).1 p hp
    rw [hvalid, if_pos hnet, hcidr]
  · exact wanted_of_left hwell hvalid h hdone hpool

/-- What the start leaves. -/
structure Started (networks : String → NetworkAnswer) (cidrs : GoMap String CIDRSpec)
    (pools : GoMap String IPPool) (st' : ClusterState) : Prop where
  exact : ∀ name, (st'.pools.lookup name).isSome = true ↔ Wanted networks cidrs name
  origin : ∀ name pool', st'.pools.lookup name = some pool' →
    (∃ pool allocations, pools.lookup name = some pool ∧
      pool' = pool.withAllocations allocations) ∨
    (pools.lookup name = none ∧ IsNew networks cidrs name pool')
  keptCIDRs : ∀ net, st'.cidrs.lookup net =
    if networks net = .notFound then none else cidrs.lookup net
  cached : ∀ net, st'.cidrCache.lookup net =
    if networks net = .found then cidrs.lookup net else none

theorem started (hwell : WellNamed cidrs pools)
    (h : syncAllPendingCustomCR networks order pods cidrs pools = some st') :
    Started networks cidrs pools st' := by
  obtain ⟨st₁, validCIDRs, st₂, hsync, h₂, h₃⟩ := syncAllPendingCustomCR_eq_some h
  have hentry : ∀ e, e ∈ order.entries validCIDRs ↔
      cidrs.lookup e.1 = some e.2 ∧ networks e.1 = .found := by
    intro e
    rw [(order.perm _).mem_iff, ← AList.mem_lookup_iff, Option.mem_def, hsync.valid,
      Option.ite_none_right_eq_some]
    exact and_comm
  have hmem := fun e he => (hentry e).mp he
  obtain ⟨hrepair, -, hdone, hcidrs, hcache⟩ :=
    syncCIDRs_spec hwell hmem (repairing_networks hwell rfl hsync) h₂
  have hrepaired := repaired_of_done hwell hsync.valid hrepair fun net cidr hcidr =>
    hdone ⟨net, cidr⟩ ((order.perm _).mem_iff.mpr (AList.mem_lookup_iff.mp hcidr))
  obtain ⟨hcidrs', hcache', hpools⟩ := syncIPPoolWithActivePods_spec h₃
  generalize deletePendingIPPools validCIDRs (initIppoolCache pools) st₂.pools = left
    at hrepaired hpools
  refine ⟨fun name => ?_, fun name pool' hpool' => ?_, fun net => ?_, fun net => ?_⟩
  · have hsome : (st'.pools.lookup name).isSome = (left.lookup name).isSome := by
      rcases hpools name with heq | ⟨-, allocations, heq⟩
      · rw [heq]
      · rw [heq, Option.isSome_map]
    rw [hsome]
    constructor
    · intro hleft
      obtain ⟨pool, hpool⟩ := Option.isSome_iff_exists.mp hleft
      exact hrepaired.only name pool hpool
    · exact hrepaired.present name
  · rcases hpools name with heq | ⟨hlisted, allocations, heq⟩
    · rw [heq] at hpool'
      refine (hrepaired.repairing.origin name pool' hpool').imp_left fun hpool => ?_
      exact ⟨pool', pool'.spec.allocations, hpool, rfl⟩
    · -- only listed pools are patched, and those were stored
      rw [heq] at hpool'
      obtain ⟨pool, hpool, rfl⟩ := Option.map_eq_some_iff.mp hpool'
      rcases hrepaired.repairing.origin name pool hpool with hstored | ⟨hnone, -⟩
      · exact Or.inl ⟨pool, allocations, hstored, rfl⟩
      · rw [lookup_initIppoolCache, hnone] at hlisted
        cases hlisted
  · rw [hcidrs', hcidrs, hsync.cidrs]
    by_cases hnet : networks net = .notFound
    · cases hcidr : cidrs.lookup net with
      | none => simp
      | some cidr => simp [hnet]
    · simp [hnet]
  · rw [hcache', hcache, hsync.cidrCache]
    by_cases hnet : networks net = .found
    · rw [if_pos hnet]
      cases hcidr : cidrs.lookup net with
      | none => simp
      | some cidr =>
        rw [if_pos]
        exact List.any_eq_true.mpr ⟨⟨net, cidr⟩, (hentry _).mpr ⟨hcidr, hnet⟩, decide_eq_true rfl⟩
    · rw [if_neg hnet, if_neg]
      · exact AList.lookup_empty net
      · intro hany
        obtain ⟨e, he, hname⟩ := List.any_eq_true.mp hany
        exact hnet (of_decide_eq_true hname ▸ (hmem e he).2)

end Startup

/-- The network of a CIDR with two hosts is there, another one cannot be read. -/
def startAnswers (net : String) : NetworkAnswer := if net = "net" then .found else .failed

def startCIDRs : GoMap String CIDRSpec :=
  ((∅ : GoMap String CIDRSpec).insert "net" ⟨smallNet, [smallEntry
    [⟨0, "a", "eth1", "192.168.0.1", "10.0.0.0/24", ""⟩,
      ⟨1, "b", "eth1", "192.168.0.2", "10.0.1.0/24", "net-10.0.1.0-24"⟩]]⟩).insert "other"
    ⟨smallNet, [smallEntry [⟨0, "a", "eth1", "192.168.0.1", "10.0.0.0/24", ""⟩]]⟩

theorem wellNamed_start : WellNamed startCIDRs smallPools := by
  have hpools : ∀ e ∈ smallPools.entries, (parseCIDR e.2.spec.podCIDR).isSome = true ∧
      e.1 = getIPPoolName e.2.spec.netAttachDefName e.2.spec.podCIDR := by decide +kernel
  have hcidrs : ∀ e ∈ startCIDRs.entries, ∀ p ∈ hostsOf e.2.cidrs,
      (parseCIDR p.2.podCIDR).isSome = true ∧
        ippoolNameOf e.1 p.2 = getIPPoolName e.1 p.2.podCIDR := by decide +kernel
  refine ⟨fun name pool hpool => ?_, fun name pool hpool => ?_, fun net cidr hcidr p hp => ?_⟩
  · exact (hpools ⟨name, pool⟩ (AList.mem_lookup_iff.mp hpool)).2
  · exact poolText_of_isSome (hpools ⟨name, pool⟩ (AList.mem_lookup_iff.mp hpool)).1
  · obtain ⟨hparse, hname⟩ := hcidrs ⟨net, cidr⟩ (AList.mem_lookup_iff.mp hcidr) p hp
    exact ⟨poolText_of_isSome hparse, hname⟩

end MultiNicCni.Controller
