import MultiNicCni.Controller.ActivePods
import MultiNicCni.Controller.PoolRefinement
import MultiNicCni.Daemon.Pool
import MultiNicCni.Lib.System
import MultiNicCni.Lib.Version

/-!
# Acknowledged allocations

A daemon that answers a CNI ADD has stored the address in an IPPool, and so has told the pod
that the address is its own. The controller writes the same pools: `SyncIPPoolWithActivePods`
patches their allocations from what the pods report, and `UpdateIPPool` writes back the
allocations that it has read. `system` interleaves the daemons, one to a host, with both.

The API server rejects an `Update` of an object whose `resourceVersion` is not the one that
was read, and applies every patch. A merge patch holds the allocations only if they differ
from those the client has read.

- `Stored`, `Alive`: an address is in a pool for its pod, and the pod exists;
- `ok_step`: **`UpdateIPPool` writes only allocations that are still stored**, and the lists that
  the sync is about to send have every address its pod listing attributes to their pool;
- `Attributed`: every acknowledged allocation that a patch of the sync may remove was listed with
  its address, for a Running pod;
- `acknowledged_kept`: **in a run whose patches are all attributed, no step of the controller
  removes an acknowledged allocation of a living pod**;
- `acknowledged_lost`: the pod is not Running yet, and its address is taken out of the pool.
-/

namespace MultiNicCni.Acknowledged

open Go Compute Controller Daemon Lib

variable {a : Allocation} {ippoolName : String} {pools : GoMap String IPPool}

/-! ## States -/

/-- What a daemon is doing, under its lock. -/
inductive Task where
  /-- `AllocateIP`: the pools it listed, the patches to make and those made -/
  | allocating (ippoolSpecMap : GoMap String IPPool) (todo : List ((_ : String) × NewAllocation))
      (done : List (String × Allocation))
  /-- `DeallocateIP`: the listed pools that are left -/
  | deallocating (dev : Devices) (req : IPRequest) (todo : List ((_ : String) × IPPool))

/-- `SyncIPPoolWithActivePods` in its loop over the pools. -/
structure Sweep where
  cidrMap : GoMap String CIDRSpec
  ippoolSnapshot : GoMap String IPPoolSpec
  /-- the pods, as they were listed -/
  listing : List Pod
  allocationMap : AllocationMap
  crAllocationMap : AllocationMap
  todo : List ((_ : String) × IPPoolSpec)

/-- Where the sync is. -/
inductive Sync where
  | idle
  /-- the IPPool cache is read -/
  | read (cidrMap : GoMap String CIDRSpec) (ippoolSnapshot : GoMap String IPPoolSpec)
  | sweeping (w : Sweep)
  /-- `PatchIPPoolAllocations` has read the pool and is about to send the patch -/
  | patching (w : Sweep) (ippoolName : String) (current newAllocations : List Allocation)

/-- An `UpdateIPPool` between its `Get` and its write. -/
structure PendingUpdate where
  ippoolName : String
  found : Bool
  resourceVersion : Nat
  ippool : IPPool

structure State where
  pools : GoMap String IPPool
  resourceVersion : String → Nat
  poolCache : GoMap String IPPoolSpec
  pods : List Pod
  /-- the daemons that are serving a request, by host -/
  daemons : GoMap String Task
  /-- what the daemons have answered and not deallocated, by pool -/
  acknowledged : List (String × Allocation)
  reconciler : Option (String × Option IPPool)
  sync : Sync
  update : Option PendingUpdate

/-! ## Steps of the daemons -/

/-- `AllocateIP` lists the pools and chooses the addresses. -/
def allocate (dev : Devices) (offset : Int) (req : IPRequest) (s : State) : Option State :=
  match s.daemons.lookup req.hostName with
  | some _ => none
  | none => do
    let ippoolSpecMap := listIPPool s.pools req.hostName req.netAttachDefName
    let newAllocations ← allocateIPs dev req.podName req.podNamespace req.interfaceNames offset
      ippoolSpecMap
    some { s with
      daemons := s.daemons.insert req.hostName
        (.allocating ippoolSpecMap newAllocations.entries []) }

/-- `DeallocateIP` lists the pools. -/
def deallocate (dev : Devices) (req : IPRequest) (s : State) : Option State :=
  match s.daemons.lookup req.hostName with
  | some _ => none
  | none =>
    some { s with
      daemons := s.daemons.insert req.hostName (.deallocating dev req
        (listIPPool s.pools req.hostName req.netAttachDefName).entries) }

/-- The daemon of a host sends its next patch. -/
def daemonPatch (hostName : String) (s : State) : Option State :=
  match s.daemons.lookup hostName with
  | some (.allocating ippoolSpecMap (entry :: todo) done) => do
    let (pools, _) ← applyNewAllocation ippoolSpecMap (s.pools, []) entry
    some { s with
      pools
      resourceVersion := bump s.resourceVersion entry.1
      daemons := s.daemons.insert hostName
        (.allocating ippoolSpecMap todo (done ++ [(entry.1, entry.2.allocation)])) }
  | some (.deallocating dev req (entry :: todo)) => do
    let (pools, responses) ← deallocateFromPool dev req (s.pools, []) entry
    some { s with
      pools
      -- without an allocation of the pod there is nothing to patch
      resourceVersion :=
        if responses.isEmpty then s.resourceVersion else bump s.resourceVersion entry.1
      daemons := s.daemons.insert hostName (.deallocating dev req todo)
      acknowledged := s.acknowledged.filter fun p =>
        !(p.1 == entry.1 && isOf req.podName req.podNamespace p.2) }
  | _ => none

/-- The daemon of a host answers. -/
def answer (hostName : String) (s : State) : Option State :=
  match s.daemons.lookup hostName with
  | some (.allocating _ [] done) =>
    some { s with
      daemons := s.daemons.erase hostName, acknowledged := s.acknowledged ++ done }
  | some (.deallocating _ _ []) => some { s with daemons := s.daemons.erase hostName }
  | _ => none

/-! ## Steps of the controller -/

/-- The IPPool reconciler asks for a pool. -/
def getPool (name : String) (s : State) : Option State :=
  match s.reconciler with
  | none => some { s with reconciler := some (name, s.pools.lookup name) }
  | some _ => none

/-- The IPPool reconciler writes the cache. -/
def cachePool (s : State) : Option State :=
  match s.reconciler with
  | some answer =>
    some { s with poolCache := reconcileIPPool s.poolCache answer, reconciler := none }
  | none => none

/-- The sync reads the IPPool cache. -/
def readCache (cidrMap : GoMap String CIDRSpec) (s : State) : Option State :=
  match s.sync with
  | .idle => some { s with sync := .read cidrMap s.poolCache }
  | _ => none

/-- The sync lists the pods. -/
def listPods (s : State) : Option State :=
  match s.sync with
  | .read cidrMap ippoolSnapshot =>
    some { s with
      sync := .sweeping
        { cidrMap, ippoolSnapshot, listing := s.pods
          allocationMap := getCurrentAllocationMap cidrMap s.pods
          crAllocationMap := crAllocationMap cidrMap ippoolSnapshot
          todo := ippoolSnapshot.entries } }
  | _ => none

/-- The sync computes the list of a pool and, if it has changed, reads the pool. -/
def syncPool (i : Nat) (s : State) : Option State :=
  match s.sync with
  | .sweeping w =>
    if w.todo = [] then some { s with sync := .idle }
    else do
      let entry ← w.todo[i]?
      let r ← getSyncAllocations entry.2 w.allocationMap w.crAllocationMap
      let w' := { w with
        allocationMap := r.allocationMap
        crAllocationMap := r.crAllocationMap
        todo := w.todo.eraseIdx i }
      match s.pools.lookup entry.1, r.changed with
      | some ippool, true =>
        some { s with sync := .patching w' entry.1 ippool.spec.allocations r.newAllocations }
      | _, _ => some { s with sync := .sweeping w' }
  | _ => none

/-- The sync sends its patch, which is empty if it changes nothing. -/
def syncPatch (s : State) : Option State :=
  match s.sync with
  | .patching w ippoolName current newAllocations =>
    if current = newAllocations then some { s with sync := .sweeping w }
    else some { s with
      pools := patchIPPool ippoolName newAllocations s.pools
      resourceVersion := bump s.resourceVersion ippoolName
      sync := .sweeping w }
  | _ => none

/-- `UpdateIPPool` reads the pool and makes the one it will write. -/
def updateGet (netAttachDef podCIDR vlanCIDR hostName interfaceName : String)
    (excludes : List IPValue) (s : State) : Option State :=
  match s.update with
  | some _ => none
  | none => do
    let pools ← updateIPPool s.pools netAttachDef podCIDR vlanCIDR hostName interfaceName excludes
    let ippoolName := getIPPoolName netAttachDef podCIDR
    let ippool ← pools.lookup ippoolName
    some { s with
      update := some
        { ippoolName, ippool, found := (s.pools.lookup ippoolName).isSome
          resourceVersion := s.resourceVersion ippoolName } }

/-- Does the API server take the write? An `Update` of a stale version is rejected, and so is
the `Create` of a pool that exists by now. -/
def accepts (s : State) (u : PendingUpdate) : Bool :=
  if u.found then s.resourceVersion u.ippoolName == u.resourceVersion
  else (s.pools.lookup u.ippoolName).isNone

/-- `UpdateIPPool` writes. -/
def updateSend (s : State) : Option State :=
  match s.update with
  | none => none
  | some u =>
    if accepts s u then
      some { s with
        pools := s.pools.insert u.ippoolName u.ippool
        resourceVersion := bump s.resourceVersion u.ippoolName
        update := none }
    else some { s with update := none }

/-! ## The system -/

inductive Action where
  | allocate (dev : Devices) (offset : Int) (req : IPRequest)
  | deallocate (dev : Devices) (req : IPRequest)
  | daemonPatch (hostName : String)
  | answer (hostName : String)
  /-- pods come, go, change their phase or get their network status -/
  | setPods (pods : List Pod)
  | getPool (name : String)
  | cachePool
  | readCache (cidrMap : GoMap String CIDRSpec)
  | listPods
  | syncPool (i : Nat)
  | syncPatch
  | updateGet (netAttachDef podCIDR vlanCIDR hostName interfaceName : String)
      (excludes : List IPValue)
  | updateSend

/-- The steps of the controller. -/
def Action.ofController : Action → Bool
  | .getPool _ | .cachePool | .readCache _ | .listPods | .syncPool _ | .syncPatch
  | .updateGet .. | .updateSend => true
  | .allocate .. | .deallocate .. | .daemonPatch _ | .answer _ | .setPods _ => false

/-- Every interleaving, from any pools, caches, pods and acknowledged allocations. -/
def system : System State Action where
  init s := s.daemons = ∅ ∧ s.reconciler = none ∧ s.sync = .idle ∧ s.update = none
  step
    | .allocate dev offset req => allocate dev offset req
    | .deallocate dev req => deallocate dev req
    | .daemonPatch hostName => daemonPatch hostName
    | .answer hostName => answer hostName
    | .setPods pods => fun s => some { s with pods }
    | .getPool name => getPool name
    | .cachePool => cachePool
    | .readCache cidrMap => readCache cidrMap
    | .listPods => listPods
    | .syncPool i => syncPool i
    | .syncPatch => syncPatch
    | .updateGet netAttachDef podCIDR vlanCIDR hostName interfaceName excludes =>
      updateGet netAttachDef podCIDR vlanCIDR hostName interfaceName excludes
    | .updateSend => updateSend

/-- The address is in the pool, for its pod. -/
def Stored (pools : GoMap String IPPool) (ippoolName : String) (a : Allocation) : Prop :=
  ∃ b ∈ allocationsAt pools ippoolName, SameOwner b a

instance (pools : GoMap String IPPool) (ippoolName : String) (a : Allocation) :
    Decidable (Stored pools ippoolName a) :=
  inferInstanceAs (Decidable (∃ b ∈ allocationsAt pools ippoolName, _))

/-- The pod of the allocation exists, in any phase. -/
def Alive (pods : List Pod) (a : Allocation) : Prop :=
  ∃ pod ∈ pods, pod.name = a.pod ∧ pod.podNamespace = a.podNamespace

instance (pods : List Pod) (a : Allocation) : Decidable (Alive pods a) :=
  inferInstanceAs (Decidable (∃ pod ∈ pods, _))

/-- The listing of the sync attributes the address to its pod and to no other, and the pool is
the only one of its network with that address. -/
def Sweep.Attributes (w : Sweep) (ippoolName : String) (a : Allocation) : Prop :=
  ∃ ippool ∈ w.ippoolSnapshot.lookup ippoolName,
    (w.cidrMap.lookup ippool.netAttachDefName).isSome = true ∧
    (∃ pod ∈ w.listing, reports pod ippool.netAttachDefName a.address = true) ∧
    (∀ pod ∈ w.listing, reports pod ippool.netAttachDefName a.address = true →
      pod.name = a.pod ∧ pod.podNamespace = a.podNamespace) ∧
    inRange ippool.podCIDR a.address = true ∧
    ∀ e ∈ w.ippoolSnapshot.entries, e.1 ≠ ippoolName →
      e.2.netAttachDefName = ippool.netAttachDefName → inRange e.2.podCIDR a.address = false

instance (w : Sweep) (ippoolName : String) (a : Allocation) :
    Decidable (w.Attributes ippoolName a) :=
  inferInstanceAs (Decidable (∃ ippool ∈ w.ippoolSnapshot.lookup ippoolName, _))

/-- Every acknowledged allocation that is in the pool for a living pod is attributed. -/
def PatchAttributed (s : State) : Sync → Prop
  | .patching w ippoolName _ _ => ∀ p ∈ s.acknowledged, p.1 = ippoolName → Alive s.pods p.2 →
      Stored s.pools ippoolName p.2 → w.Attributes ippoolName p.2
  | _ => True

instance (s : State) : (sync : Sync) → Decidable (PatchAttributed s sync)
  | .patching w ippoolName _ _ => inferInstanceAs (Decidable (∀ p ∈ s.acknowledged,
      p.1 = ippoolName → Alive s.pods p.2 → Stored s.pools ippoolName p.2 →
        w.Attributes ippoolName p.2))
  | .idle | .read _ _ | .sweeping _ => inferInstanceAs (Decidable True)

/-- The condition on a step: a patch of the sync is sent only when it is attributed. -/
def Attributed : Action → State → Prop
  | .syncPatch, s => PatchAttributed s s.sync
  | _, _ => True

instance : (a : Action) → (s : State) → Decidable (Attributed a s)
  | .syncPatch, s => inferInstanceAs (Decidable (PatchAttributed s s.sync))
  | .allocate .., _ | .deallocate .., _ | .daemonPatch _, _ | .answer _, _ | .setPods _, _
  | .getPool _, _ | .cachePool, _ | .readCache _, _ | .listPods, _ | .syncPool _, _
  | .updateGet .., _ | .updateSend, _ => inferInstanceAs (Decidable True)

/-! ## The sweep -/

/-- What the maps of a sweep still have: the entries of every address that one pod alone reports
and that no pool behind the sweep has taken. -/
structure Sweep.Ok (w : Sweep) : Prop where
  keyed : Keyed w.allocationMap
  crKeyed : Keyed w.crAllocationMap
  nodup : w.todo.Nodup
  todo : ∀ e ∈ w.todo, e ∈ w.ippoolSnapshot.entries
  found : ∀ defName ip name podNamespace, (w.cidrMap.lookup defName).isSome = true →
    (∃ pod ∈ w.listing, reports pod defName ip = true) →
    (∀ pod ∈ w.listing, reports pod defName ip = true →
      pod.name = name ∧ pod.podNamespace = podNamespace) →
    (∀ e ∈ w.ippoolSnapshot.entries, e ∉ w.todo → e.2.netAttachDefName = defName →
      inRange e.2.podCIDR ip = false) →
    w.allocationMap.find defName ip = some ⟨name, podNamespace, 0, ip⟩

/-- The start of the loop. -/
theorem sweep_start (cidrMap : GoMap String CIDRSpec) (ippoolSnapshot : GoMap String IPPoolSpec)
    (pods : List Pod) :
    Sweep.Ok
      { cidrMap, ippoolSnapshot, listing := pods
        allocationMap := getCurrentAllocationMap cidrMap pods
        crAllocationMap := crAllocationMap cidrMap ippoolSnapshot
        todo := ippoolSnapshot.entries } where
  keyed := keyed_getCurrentAllocationMap cidrMap pods
  crKeyed := keyed_crAllocationMap cidrMap ippoolSnapshot
  nodup := ippoolSnapshot.nodupKeys.nodup
  todo _ he := he
  found _ _ _ _ hcidr hreported honly _ := find_getCurrentAllocationMap hcidr hreported honly

/-- The sweep after one pool. -/
def Sweep.next (w : Sweep) (i : Nat) (r : SyncResult) : Sweep :=
  { w with
    allocationMap := r.allocationMap
    crAllocationMap := r.crAllocationMap
    todo := w.todo.eraseIdx i }

section Sweep

variable {w : Sweep} {i : Nat} {e : (_ : String) × IPPoolSpec} {r : SyncResult} (h : w.Ok)
  (he : w.todo[i]? = some e)
  (hr : getSyncAllocations e.2 w.allocationMap w.crAllocationMap = some r)

include h he hr

theorem sweep_next : (w.next i r).Ok := by
  obtain ⟨-, hframe, hkeyed, hcr⟩ := getSyncAllocations_spec h.keyed h.crKeyed hr
  have hgone : e ∉ w.todo.eraseIdx i := by
    intro hmem
    obtain ⟨j, hne, hj⟩ := List.mem_eraseIdx_iff_getElem?.mp hmem
    obtain ⟨hlt, -⟩ := List.getElem?_eq_some_iff.mp he
    exact hne ((List.getElem?_inj hlt h.nodup).mp (he.trans hj.symm)).symm
  refine ⟨hkeyed, hcr, h.nodup.sublist (List.eraseIdx_sublist _ _),
    fun e' he' => h.todo e' (List.mem_of_mem_eraseIdx he'), ?_⟩
  intro defName ip name podNamespace hcidr hreported honly hbehind
  have hout : defName = e.2.netAttachDefName → inRange e.2.podCIDR ip = false := by
    rintro rfl
    exact hbehind e (h.todo e (List.mem_of_getElem? he)) hgone rfl
  refine (hframe defName ip hout).trans (h.found _ _ _ _ hcidr hreported honly ?_)
  intro e' he' hnot
  exact hbehind e' he' fun hmem => hnot (List.mem_of_mem_eraseIdx hmem)

/-- The list of the pool has every address that the sweep attributes to it. -/
theorem sweep_covers (ha : w.Attributes e.1 a) : ∃ b ∈ r.newAllocations, SameOwner b a := by
  obtain ⟨hcovered, -⟩ := getSyncAllocations_spec h.keyed h.crKeyed hr
  have hmem := h.todo e (List.mem_of_getElem? he)
  obtain ⟨ippool, hippool, hcidr, hreported, honly, hin, hothers⟩ := ha
  have hlookup : w.ippoolSnapshot.lookup e.1 = some e.2 := AList.mem_lookup_iff.mpr hmem
  obtain rfl : e.2 = ippool := Option.some.inj (hlookup.symm.trans hippool)
  refine hcovered a.address ⟨a.pod, a.podNamespace, 0, a.address⟩ ?_ hin
  refine h.found _ _ _ _ hcidr hreported honly ?_
  intro e' he' hbehind hnet
  refine hothers e' he' ?_ hnet
  -- a pool behind the sweep is another one, and names are unique
  intro hname
  have hlookup' : w.ippoolSnapshot.lookup e'.1 = some e'.2 := AList.mem_lookup_iff.mpr he'
  rw [hname, hlookup] at hlookup'
  have heq : e' = e := by
    obtain ⟨n, p⟩ := e'
    obtain ⟨n', p'⟩ := e
    cases hname
    cases hlookup'
    rfl
  exact hbehind (heq ▸ List.mem_of_getElem? he)

end Sweep

/-! ## The invariant -/

/-- A list that the sync is about to send has every address the sweep attributes to the pool. -/
def Sync.Ok : Sync → Prop
  | .sweeping w => w.Ok
  | .patching w ippoolName _ newAllocations => w.Ok ∧ ∀ a, w.Attributes ippoolName a →
      ∃ b ∈ newAllocations, SameOwner b a
  | _ => True

/-- The sync is as it should be, and an `UpdateIPPool` in progress has the stored allocations
unless the version has changed. -/
structure State.Ok (s : State) : Prop where
  sync : s.sync.Ok
  update : ∀ u ∈ s.update, u.found = true → ReadAt s.resourceVersion (allocationsAt s.pools)
    u.ippoolName u.resourceVersion u.ippool.spec.allocations

/-- The pools other than one are as before. -/
def Frame (ippoolName : String) (pools pools' : GoMap String IPPool) : Prop :=
  ∀ name, name ≠ ippoolName → allocationsAt pools' name = allocationsAt pools name

theorem frame_patchIPPool (ippoolName : String) (allocations : List Allocation)
    (pools : GoMap String IPPool) :
    Frame ippoolName pools (patchIPPool ippoolName allocations pools) := by
  intro name hne
  rw [allocationsAt, lookup_patchIPPool_ne allocations hne, allocationsAt]

theorem frame_insert (ippoolName : String) (ippool : IPPool) (pools : GoMap String IPPool) :
    Frame ippoolName pools (pools.insert ippoolName ippool) := by
  intro name hne
  rw [allocationsAt, AList.lookup_insert_ne hne, allocationsAt]

/-- A write of a pool, which raises its version. -/
theorem State.Ok.write {s s' : State} (h : s.Ok) (hframe : Frame ippoolName s.pools s'.pools)
    (hversion : s'.resourceVersion = bump s.resourceVersion ippoolName)
    (hupdate : s'.update = s.update) (hsync : s'.sync.Ok) : s'.Ok := by
  refine ⟨hsync, ?_⟩
  intro u hu hfound
  rw [hupdate] at hu
  rw [hversion]
  exact (h.update u hu hfound).write hframe

section Preservation

variable {s s' : State} (h : s.Ok)

include h

theorem ok_daemonPatch {hostName : String} (hstep : daemonPatch hostName s = some s') : s'.Ok := by
  unfold daemonPatch at hstep
  split at hstep
  · obtain ⟨r, happly, hstep⟩ := Option.bind_eq_some_iff.mp hstep
    obtain ⟨pool, response, -, rfl⟩ := applyNewAllocation_eq happly
    cases hstep
    exact h.write (frame_patchIPPool _ _ _) rfl rfl h.sync
  · obtain ⟨r, hremove, hstep⟩ := Option.bind_eq_some_iff.mp hstep
    rcases deallocateFromPool_cases hremove with ⟨rfl, -⟩ | ⟨-, response, rfl⟩
    · cases hstep
      exact ⟨h.sync, h.update⟩
    · cases hstep
      exact h.write (frame_patchIPPool _ _ _) rfl rfl h.sync
  · cases hstep

/-- The other steps of the daemons and of the pods write no pool. -/
theorem ok_daemon {a : Action} (ha : a.ofController = false)
    (hstep : system.step a s = some s') : s'.Ok := by
  cases a with
  | allocate dev offset req =>
    have hstep : allocate dev offset req s = some s' := hstep
    unfold allocate at hstep
    split at hstep
    · cases hstep
    · obtain ⟨newAllocations, -, hstep⟩ := Option.bind_eq_some_iff.mp hstep
      cases hstep
      exact ⟨h.sync, h.update⟩
  | deallocate dev req =>
    have hstep : deallocate dev req s = some s' := hstep
    unfold deallocate at hstep
    split at hstep
    · cases hstep
    · cases hstep
      exact ⟨h.sync, h.update⟩
  | daemonPatch hostName => exact ok_daemonPatch h hstep
  | answer hostName =>
    have hstep : answer hostName s = some s' := hstep
    unfold answer at hstep
    split at hstep
    · cases hstep
      exact ⟨h.sync, h.update⟩
    · cases hstep
      exact ⟨h.sync, h.update⟩
    · cases hstep
  | setPods pods =>
    cases hstep
    exact ⟨h.sync, h.update⟩
  | getPool | cachePool | readCache | listPods | syncPool | syncPatch | updateGet | updateSend =>
    cases ha

theorem ok_listPods (hstep : listPods s = some s') : s'.Ok ∧ s'.pools = s.pools := by
  unfold listPods at hstep
  split at hstep
  · cases hstep
    exact ⟨⟨sweep_start _ _ _, h.update⟩, rfl⟩
  · cases hstep

theorem ok_syncPool {i : Nat} (hstep : syncPool i s = some s') : s'.Ok ∧ s'.pools = s.pools := by
  unfold syncPool at hstep
  split at hstep
  · next w hsync =>
    have hw : w.Ok := by
      have := h.sync
      rwa [hsync] at this
    split at hstep
    · cases hstep
      exact ⟨⟨trivial, h.update⟩, rfl⟩
    · obtain ⟨e, he, hstep⟩ := Option.bind_eq_some_iff.mp hstep
      obtain ⟨r, hr, hstep⟩ := Option.bind_eq_some_iff.mp hstep
      have hnext := sweep_next hw he hr
      dsimp only at hstep
      split at hstep
      · cases hstep
        exact ⟨⟨⟨hnext, fun a ha => sweep_covers hw he hr ha⟩, h.update⟩, rfl⟩
      · cases hstep
        exact ⟨⟨hnext, h.update⟩, rfl⟩
  · cases hstep

theorem ok_syncPatch (hstep : syncPatch s = some s') : s'.Ok := by
  unfold syncPatch at hstep
  split at hstep
  · next w ippoolName current newAllocations hsync =>
    have hw : w.Ok := by
      have := h.sync
      rw [hsync] at this
      exact this.1
    split at hstep
    · cases hstep
      exact ⟨hw, h.update⟩
    · cases hstep
      exact h.write (frame_patchIPPool _ _ _) rfl rfl hw
  · cases hstep

theorem ok_updateGet {netAttachDef podCIDR vlanCIDR hostName interfaceName : String}
    {excludes : List IPValue}
    (hstep : updateGet netAttachDef podCIDR vlanCIDR hostName interfaceName excludes s = some s') :
    s'.Ok ∧ s'.pools = s.pools := by
  unfold updateGet at hstep
  split at hstep
  · cases hstep
  · obtain ⟨pools, hupdate, hstep⟩ := Option.bind_eq_some_iff.mp hstep
    obtain ⟨ippool, hippool, hstep⟩ := Option.bind_eq_some_iff.mp hstep
    cases hstep
    obtain ⟨pool, rfl, -, -, hkept⟩ := updateIPPool_spec hupdate
    rw [AList.lookup_insert] at hippool
    obtain rfl := Option.some.inj hippool
    refine ⟨⟨h.sync, ?_⟩, rfl⟩
    rintro u hu -
    obtain rfl := Option.some.inj hu
    rw [hkept]
    exact .now _ _ _

theorem ok_updateSend (hstep : updateSend s = some s') : s'.Ok := by
  unfold updateSend at hstep
  split at hstep
  · cases hstep
  · split at hstep
    · cases hstep
      exact ⟨h.sync, fun u hu => by cases hu⟩
    · cases hstep
      exact ⟨h.sync, fun u hu => by cases hu⟩

/-- The reconciler, and the sync before it lists the pods. -/
theorem ok_reader {a : Action} (ha : (∃ name, a = .getPool name) ∨ a = .cachePool ∨
    ∃ cidrMap, a = .readCache cidrMap) (hstep : system.step a s = some s') :
    s'.Ok ∧ s'.pools = s.pools := by
  rcases ha with ⟨name, rfl⟩ | rfl | ⟨cidrMap, rfl⟩
  · have hstep : getPool name s = some s' := hstep
    unfold getPool at hstep
    split at hstep
    · cases hstep
      exact ⟨⟨h.sync, h.update⟩, rfl⟩
    · cases hstep
  · have hstep : cachePool s = some s' := hstep
    unfold cachePool at hstep
    split at hstep
    · cases hstep
      exact ⟨⟨h.sync, h.update⟩, rfl⟩
    · cases hstep
  · have hstep : readCache cidrMap s = some s' := hstep
    unfold readCache at hstep
    split at hstep
    · cases hstep
      exact ⟨⟨trivial, h.update⟩, rfl⟩
    · cases hstep

/-- Every step keeps the invariant. -/
theorem ok_step {a : Action} (hstep : system.step a s = some s') : s'.Ok := by
  cases a with
  | allocate | deallocate | daemonPatch | answer | setPods => exact ok_daemon h rfl hstep
  | getPool name => exact (ok_reader h (Or.inl ⟨name, rfl⟩) hstep).1
  | cachePool => exact (ok_reader h (Or.inr (Or.inl rfl)) hstep).1
  | readCache cidrMap => exact (ok_reader h (Or.inr (Or.inr ⟨cidrMap, rfl⟩)) hstep).1
  | listPods => exact (ok_listPods h hstep).1
  | syncPool => exact (ok_syncPool h hstep).1
  | syncPatch => exact ok_syncPatch h hstep
  | updateGet => exact (ok_updateGet h hstep).1
  | updateSend => exact ok_updateSend h hstep

end Preservation

theorem ok_of_reaches {s : State} (h : (system.guard Attributed).Reaches s) : s.Ok := by
  refine h.invariant ?_ ?_
  · rintro s ⟨-, -, hsync, hupdate⟩
    refine ⟨?_, ?_⟩
    · rw [hsync]
      trivial
    · intro u hu
      rw [hupdate] at hu
      cases hu
  · intro a s s' hs hstep
    exact ok_step hs (System.guard_step hstep).2

/-! ## What a controller step keeps -/

theorem Stored.of_eq {pools' : GoMap String IPPool} (h : Stored pools ippoolName a)
    (heq : allocationsAt pools' ippoolName = allocationsAt pools ippoolName) :
    Stored pools' ippoolName a := by
  rwa [Stored, heq]

/-- A pool that holds an allocation exists. -/
theorem Stored.exists_pool (h : Stored pools ippoolName a) :
    ∃ ippool, pools.lookup ippoolName = some ippool := by
  obtain ⟨b, hb, -⟩ := h
  cases hl : pools.lookup ippoolName with
  | none =>
    rw [allocationsAt, hl] at hb
    exact absurd hb List.not_mem_nil
  | some ippool => exact ⟨ippool, rfl⟩

section Keeps

variable {s s' : State} (h : s.Ok)

include h

/-- `UpdateIPPool` writes the allocations that are stored, or nothing. -/
theorem stored_updateSend (hstep : updateSend s = some s') (hstored : Stored s.pools ippoolName a) :
    Stored s'.pools ippoolName a := by
  unfold updateSend at hstep
  split at hstep
  · cases hstep
  · next u hu =>
    split at hstep
    · next haccepts =>
      cases hstep
      by_cases hname : ippoolName = u.ippoolName
      · subst hname
        unfold accepts at haccepts
        split at haccepts
        · next hfound =>
          have hread := (h.update u hu hfound).current (beq_iff_eq.mp haccepts)
          refine hstored.of_eq ?_
          rw [hread, allocationsAt, AList.lookup_insert]
          rfl
        · -- the pool does not exist, so nothing is stored in it
          obtain ⟨ippool, hippool⟩ := hstored.exists_pool
          rw [hippool] at haccepts
          cases haccepts
      · exact hstored.of_eq (frame_insert _ _ _ _ hname)
    · cases hstep
      exact hstored

/-- An attributed patch of the sync has the allocation. -/
theorem stored_syncPatch (hattr : Attributed .syncPatch s) (hstep : syncPatch s = some s')
    (hack : (ippoolName, a) ∈ s.acknowledged) (halive : Alive s.pods a)
    (hstored : Stored s.pools ippoolName a) : Stored s'.pools ippoolName a := by
  have hattr : PatchAttributed s s.sync := hattr
  have hsync := h.sync
  unfold syncPatch at hstep
  split at hstep
  · next w name current newAllocations heq =>
    rw [heq] at hattr hsync
    split at hstep
    · cases hstep
      exact hstored
    · cases hstep
      by_cases hname : ippoolName = name
      · subst hname
        obtain ⟨b, hb, howner⟩ := hsync.2 a (hattr _ hack rfl halive hstored)
        obtain ⟨ippool, hippool⟩ := hstored.exists_pool
        refine ⟨b, ?_, howner⟩
        show b ∈ allocationsAt (patchIPPool ippoolName newAllocations s.pools) ippoolName
        rw [allocationsAt, lookup_patchIPPool, hippool]
        exact hb
      · exact hstored.of_eq (frame_patchIPPool _ _ _ _ hname)
  · cases hstep

end Keeps

/-- **Acknowledged allocations are kept**: in a run whose patches are all attributed, a step of
the controller removes no acknowledged allocation of a living pod from its pool. -/
theorem acknowledged_kept {s s' : State} {action : Action} {ippoolName : String} {a : Allocation}
    (hrun : (system.guard Attributed).Reaches s)
    (hstep : (system.guard Attributed).step action s = some s')
    (hcontroller : action.ofController = true) (hack : (ippoolName, a) ∈ s.acknowledged)
    (halive : Alive s.pods a) (hstored : Stored s.pools ippoolName a) :
    Stored s'.pools ippoolName a := by
  have hok := ok_of_reaches hrun
  obtain ⟨hattr, hstep⟩ := System.guard_step hstep
  have hsame : s'.pools = s.pools → Stored s'.pools ippoolName a := by
    intro hpools
    rwa [hpools]
  cases action with
  | allocate | deallocate | daemonPatch | answer | setPods => cases hcontroller
  | getPool name => exact hsame (ok_reader hok (Or.inl ⟨name, rfl⟩) hstep).2
  | cachePool => exact hsame (ok_reader hok (Or.inr (Or.inl rfl)) hstep).2
  | readCache cidrMap => exact hsame (ok_reader hok (Or.inr (Or.inr ⟨cidrMap, rfl⟩)) hstep).2
  | listPods => exact hsame (ok_listPods hok hstep).2
  | syncPool => exact hsame (ok_syncPool hok hstep).2
  | syncPatch => exact stored_syncPatch hok hattr hstep hack halive hstored
  | updateGet => exact hsame (ok_updateGet hok hstep).2
  | updateSend => exact stored_updateSend hok hstep hstored

/-! ## Runs -/

/-- The pool of host `a`, with an address of the pod `p` that is gone. -/
def startState : State where
  pools := (∅ : GoMap String IPPool).insert "net-10.0.0.0-24" (smallPool "net" "10.0.0.0/24")
  resourceVersion := fun _ => 0
  poolCache := ∅
  pods := []
  daemons := ∅
  acknowledged := []
  reconciler := none
  sync := .idle
  update := none

/-- Pod `q` is given an address and answered; then it is as the argument says, and the
controller caches the pool, reads the cache, lists the pods and computes the pool's list. -/
def addAndSync (pod : Pod) : List Action :=
  [.setPods [{ pod with running := false, networkStatus := none }],
    .allocate noVFs 1 ⟨"q", "default", "a", "net", ["eth1"]⟩, .daemonPatch "a",
    .answer "a", .setPods [pod], .getPool "net-10.0.0.0-24", .cachePool,
    .readCache ((∅ : GoMap String CIDRSpec).insert "net" ⟨smallNet, [smallEntry
      [⟨0, "a", "eth1", "192.168.0.1", "10.0.0.0/24", ""⟩]]⟩),
    .listPods, .syncPool 0]

/-- The acknowledged allocation of `q`, at the point where the sync sends its patch. -/
def Threatened (s : State) (a : Allocation) : Prop :=
  ("net-10.0.0.0-24", a) ∈ s.acknowledged ∧ Alive s.pods a ∧ Stored s.pools "net-10.0.0.0-24" a

instance (s : State) (a : Allocation) : Decidable (Threatened s a) :=
  inferInstanceAs (Decidable (_ ∧ _ ∧ _))

/-- Once `q` is Running and reports its address, the patch removes the address of `p` only. -/
theorem acknowledged_kept_running :
    ∃ s s', (system.guard Attributed).Reaches s ∧
      (system.guard Attributed).step .syncPatch s = some s' ∧
      Threatened s ⟨"q", "default", 2, "10.0.0.2"⟩ ∧
      ¬ Stored s'.pools "net-10.0.0.0-24" ⟨"p", "default", 1, "10.0.0.1"⟩ ∧
      Stored s'.pools "net-10.0.0.0-24" ⟨"q", "default", 2, "10.0.0.2"⟩ := by
  have hexec : ((system.guard Attributed).exec (addAndSync ⟨"q", "default", true,
      some [⟨"default/net", ["10.0.0.2"]⟩]⟩) startState).map (fun s =>
        (decide (Threatened s ⟨"q", "default", 2, "10.0.0.2"⟩),
          ((system.guard Attributed).step .syncPatch s).map fun s' =>
            decide (Stored s'.pools "net-10.0.0.0-24" ⟨"p", "default", 1, "10.0.0.1"⟩))) =
      some (true, some false) := by decide +kernel
  obtain ⟨s, hexec, hs⟩ := Option.map_eq_some_iff.mp hexec
  obtain ⟨s', hstep, hgone⟩ := Option.map_eq_some_iff.mp (congrArg Prod.snd hs)
  have hthreat : Threatened s ⟨"q", "default", 2, "10.0.0.2"⟩ :=
    of_decide_eq_true (congrArg Prod.fst hs)
  have hrun : (system.guard Attributed).Reaches s :=
    System.Reaches.exec (.init ⟨rfl, rfl, rfl, rfl⟩) hexec
  exact ⟨s, s', hrun, hstep, hthreat, of_decide_eq_false hgone,
    acknowledged_kept hrun hstep rfl hthreat.1 hthreat.2.1 hthreat.2.2⟩

/-- `q` has its answer and is not Running yet: the patch takes its address out of the pool. -/
theorem acknowledged_lost :
    ∃ s s', system.Reaches s ∧ system.step .syncPatch s = some s' ∧
      Action.ofController .syncPatch = true ∧ Threatened s ⟨"q", "default", 2, "10.0.0.2"⟩ ∧
      ¬ Stored s'.pools "net-10.0.0.0-24" ⟨"q", "default", 2, "10.0.0.2"⟩ := by
  have hexec : (system.exec (addAndSync ⟨"q", "default", false, none⟩) startState).map (fun s =>
        (decide (Threatened s ⟨"q", "default", 2, "10.0.0.2"⟩),
          (system.step .syncPatch s).map fun s' =>
            decide (Stored s'.pools "net-10.0.0.0-24" ⟨"q", "default", 2, "10.0.0.2"⟩))) =
      some (true, some false) := by decide +kernel
  obtain ⟨s, hexec, hs⟩ := Option.map_eq_some_iff.mp hexec
  obtain ⟨s', hstep, hgone⟩ := Option.map_eq_some_iff.mp (congrArg Prod.snd hs)
  exact ⟨s, s', System.Reaches.exec (.init ⟨rfl, rfl, rfl, rfl⟩) hexec, hstep, rfl,
    of_decide_eq_true (congrArg Prod.fst hs), of_decide_eq_false hgone⟩

end MultiNicCni.Acknowledged
