import MultiNicCni.Controller.IPPoolHandler
import MultiNicCni.Lib.Fold

/-!
# IPPools and running pods (`SyncIPPoolWithActivePods` of `controllers/cidr_handler.go`)

The controller brings the allocations of the IPPools in line with what the pods report. It
lists the Running pods, collects the addresses of their network status by network
(`getCurrentAllocationMap`), and gives every pool of its snapshot the addresses of that map
which lie in the pool (`GetSyncAllocations`). An address that a pool takes is removed from the
map.

- `find_getCurrentAllocationMap`: an address that one pod alone reports is in the map, for that
  pod;
- `getSyncAllocations_spec`: every address of the map in the pool is in the new list, and the
  other addresses stay in the map.

The deletion of pools of networks without a CIDR, with which `SyncIPPoolWithActivePods` starts,
is left out, and so are its log lines.
-/

namespace MultiNicCni.Controller

open Go Compute Lib

variable {cidrMap : GoMap String CIDRSpec} {defName : String} {ippool : IPPoolSpec}

/-- `plugin.NetworkStatus`: the addresses a pod has on a network. -/
structure NetworkStatus where
  name : String
  ips : List String
  deriving DecidableEq, Repr

/-- A pod. The network status is `none` when the annotation is missing or does not parse. -/
structure Pod where
  name : String
  podNamespace : String
  running : Bool
  networkStatus : Option (List NetworkStatus)
  deriving DecidableEq, Repr

/-- Allocations by network and address. -/
abbrev AllocationMap := GoMap String (GoMap String Allocation)

variable {m : AllocationMap}

/-- The entry of an address of a network. -/
def AllocationMap.find (m : AllocationMap) (defName ip : String) : Option Allocation :=
  (m.lookup defName).bind fun allocations => allocations.lookup ip

/-- `delete(m[defName], ip)`. -/
def AllocationMap.delete (m : AllocationMap) (defName ip : String) : AllocationMap :=
  match m.lookup defName with
  | some allocations => m.insert defName (allocations.erase ip)
  | none => m

/-! ## What the pods report -/

/-- The network a status is about: the text after the last slash. -/
def defNameOf (statusName : String) : String := (split statusName '/').getLastD ""

/-- The allocation of an address that a pod reports. -/
def reportedAllocation (pod : Pod) (ip : String) : Allocation :=
  ⟨pod.name, pod.podNamespace, 0, ip⟩

/-- The body of the loop over the statuses of a pod. -/
def addStatus (cidrMap : GoMap String CIDRSpec) (pod : Pod) (allocationMap : AllocationMap)
    (status : NetworkStatus) : AllocationMap :=
  let defName := defNameOf status.name
  match cidrMap.lookup defName with
  | none => allocationMap
  | some _ => allocationMap.insert defName
      (status.ips.foldl (fun allocations ip => allocations.insert ip (reportedAllocation pod ip))
        ((allocationMap.lookup defName).getD ∅))

/-- The body of the loop over the pods. Only Running pods are listed. -/
def addPod (cidrMap : GoMap String CIDRSpec) (allocationMap : AllocationMap) (pod : Pod) :
    AllocationMap :=
  if pod.running then (pod.networkStatus.getD []).foldl (addStatus cidrMap pod) allocationMap
  else allocationMap

/-- `getCurrentAllocationMap`. -/
def getCurrentAllocationMap (cidrMap : GoMap String CIDRSpec) (pods : List Pod) : AllocationMap :=
  pods.foldl (addPod cidrMap) ∅

/-! ## What the pools say -/

/-- The name of the IPPool of a host. -/
def ippoolNameOf (defName : String) (host : HostInterfaceInfo) : String :=
  if host.ipPool = "" then getIPPoolName defName host.podCIDR else host.ipPool

/-- The allocations of the pools of the hosts of a CIDR, by address. -/
def crAllocations (ippoolSnapshot : GoMap String IPPoolSpec) (defName : String)
    (cidr : CIDRSpec) : GoMap String Allocation :=
  cidr.cidrs.foldl (fun m entry => entry.hosts.foldl (fun m host =>
    match ippoolSnapshot.lookup (ippoolNameOf defName host) with
    | some ippool => ippool.allocations.foldl (fun m allocation =>
        m.insert allocation.address allocation) m
    | none => m) m) ∅

/-- `crAllocationMap`, as `SyncIPPoolWithActivePods` fills it. -/
def crAllocationMap (cidrMap : GoMap String CIDRSpec)
    (ippoolSnapshot : GoMap String IPPoolSpec) : AllocationMap :=
  cidrMap.entries.foldl (fun m e => m.insert e.1 (crAllocations ippoolSnapshot e.1 e.2)) ∅

/-! ## The new list of a pool -/

/-- What `GetSyncAllocations` returns, and the maps it leaves. -/
structure SyncResult where
  changed : Bool
  newAllocations : List Allocation
  allocationMap : AllocationMap
  crAllocationMap : AllocationMap

variable {r : SyncResult}

/-- The body of the loop of `GetSyncAllocations`: an existing item is kept as it is stored, a
new one gets its index. -/
def syncAllocation (ippool : IPPoolSpec) (r : SyncResult) (entry : (_ : String) × Allocation) :
    Option SyncResult := do
  let (contained, index) ← getIndexInRange ippool.podCIDR entry.2.address
  if contained then
    let defName := ippool.netAttachDefName
    let allocationMap := r.allocationMap.delete defName entry.1
    match (r.crAllocationMap.find defName entry.1).filter fun crAllocation =>
      crAllocation.pod == entry.2.pod && crAllocation.podNamespace == entry.2.podNamespace with
    | some crAllocation =>
      some { r with
        newAllocations := r.newAllocations ++ [crAllocation]
        allocationMap
        crAllocationMap := r.crAllocationMap.delete defName entry.1 }
    | none =>
      some { r with
        changed := true
        newAllocations := r.newAllocations ++ [{ entry.2 with index }]
        allocationMap }
  else some r

/-- `GetSyncAllocations`. -/
def getSyncAllocations (ippool : IPPoolSpec) (allocationMap crAllocationMap : AllocationMap) :
    Option SyncResult := do
  let allocations := (allocationMap.lookup ippool.netAttachDefName).getD ∅
  let r ← allocations.entries.foldlM (syncAllocation ippool)
    ⟨false, [], allocationMap, crAllocationMap⟩
  -- some need to be cleaned
  some { r with
    changed := r.changed || decide (ippool.allocations.length ≠ r.newAllocations.length) }

/-! ## Entries -/

theorem find_delete (m : AllocationMap) (defName ip defName' ip' : String) :
    (m.delete defName ip).find defName' ip' =
      if defName' = defName ∧ ip' = ip then none else m.find defName' ip' := by
  unfold AllocationMap.delete AllocationMap.find
  by_cases hdef : defName' = defName
  · subst hdef
    cases hl : m.lookup defName' with
    | none => simp [hl]
    | some allocations =>
      simp only [AList.lookup_insert, Option.bind_some]
      by_cases hip : ip' = ip
      · subst hip
        simp
      · rw [AList.lookup_erase_ne hip]
        simp [hip]
  · cases m.lookup defName with
    | none => simp [hdef]
    | some allocations =>
      simp only [AList.lookup_insert_ne hdef]
      simp [hdef]

/-- Every allocation is under its own address. -/
def Addressed (m : GoMap String Allocation) : Prop := m.All fun ip a => a.address = ip

/-- Every entry is under its own address. -/
def Keyed (m : AllocationMap) : Prop := ∀ defName ip a, m.find defName ip = some a → a.address = ip

theorem Keyed.delete (h : Keyed m) (defName ip : String) : Keyed (m.delete defName ip) := by
  intro defName' ip' a ha
  rw [find_delete] at ha
  split at ha
  · cases ha
  · exact h defName' ip' a ha

/-- A map of keyed allocations is filled in. -/
theorem Keyed.insert (h : Keyed m) (defName : String) {allocations : GoMap String Allocation}
    (hall : Addressed allocations) : Keyed (m.insert defName allocations) := by
  intro defName' ip a ha
  obtain ⟨inner, hinner, hlookup⟩ := Option.bind_eq_some_iff.mp ha
  rcases GoMap.lookup_insert_cases hinner with ⟨-, rfl⟩ | ⟨-, hinner⟩
  · exact hall ip a hlookup
  · exact h defName' ip a (Option.bind_eq_some_iff.mpr ⟨inner, hinner, hlookup⟩)

theorem keyed_crAllocationMap (cidrMap : GoMap String CIDRSpec)
    (ippoolSnapshot : GoMap String IPPoolSpec) :
    Keyed (crAllocationMap cidrMap ippoolSnapshot) := by
  refine foldl_invariant (P := Keyed) ?_ ?_
  · intro m e _ hm
    refine hm.insert _ ?_
    -- three loops, the innermost of which inserts under the address
    refine foldl_invariant (P := Addressed) ?_ (GoMap.All.empty _)
    intro m entry _ hm
    refine foldl_invariant (P := Addressed) ?_ hm
    intro m host _ hm
    split
    · refine foldl_invariant (P := Addressed) ?_ hm
      intro m allocation _ hm
      exact GoMap.All.insert hm rfl
    · exact hm
  · intro defName ip a ha
    cases ha

/-! ## The pods' map -/

/-- The pod is Running and reports the address on the network. -/
def reports (pod : Pod) (defName ip : String) : Bool :=
  pod.running && (pod.networkStatus.getD []).any fun status =>
    defNameOf status.name == defName && status.ips.contains ip

theorem find_addStatus (hcidr : (cidrMap.lookup defName).isSome = true) (pod : Pod)
    (m : AllocationMap) (status : NetworkStatus) (ip : String) :
    (addStatus cidrMap pod m status).find defName ip =
      if defNameOf status.name == defName && status.ips.contains ip then
        some (reportedAllocation pod ip)
      else m.find defName ip := by
  unfold addStatus AllocationMap.find
  by_cases hdef : defNameOf status.name = defName
  · subst hdef
    obtain ⟨cidr, hcidr⟩ := Option.isSome_iff_exists.mp hcidr
    simp only [hcidr, AList.lookup_insert, Option.bind_some, beq_self_eq_true, Bool.true_and]
    have hips := foldl_set (l := status.ips)
      (f := fun (allocations : GoMap String Allocation) ip' =>
        allocations.insert ip' (reportedAllocation pod ip'))
      (fun allocations => allocations.lookup ip) (fun ip' => ip == ip')
      (some (reportedAllocation pod ip)) ?_ ((m.lookup (defNameOf status.name)).getD ∅)
    · rw [hips, List.contains_eq_any_beq]
      cases hl : m.lookup (defNameOf status.name) with
      | none => rfl
      | some allocations => rfl
    · intro allocations ip' _
      by_cases hip : ip = ip'
      · subst hip
        simp
      · simp [hip]
  · have hne : (defNameOf status.name == defName) = false := by simpa using hdef
    simp only [hne, Bool.false_and]
    split
    · rfl
    · rw [AList.lookup_insert_ne (Ne.symm hdef)]
      rfl

theorem find_addPod (hcidr : (cidrMap.lookup defName).isSome = true) (m : AllocationMap) (pod : Pod)
    (ip : String) :
    (addPod cidrMap m pod).find defName ip =
      if reports pod defName ip then some (reportedAllocation pod ip) else m.find defName ip := by
  unfold addPod reports
  cases pod.running with
  | false => rfl
  | true =>
    exact foldl_set (fun m : AllocationMap => m.find defName ip) _ _
      (fun m status _ => find_addStatus hcidr pod m status ip) m

/-- An address that one pod alone reports is in the map, for that pod. -/
theorem find_getCurrentAllocationMap {pods : List Pod} {ip name podNamespace : String}
    (hcidr : (cidrMap.lookup defName).isSome = true)
    (hreported : ∃ pod ∈ pods, reports pod defName ip = true)
    (honly : ∀ pod ∈ pods, reports pod defName ip = true →
      pod.name = name ∧ pod.podNamespace = podNamespace) :
    (getCurrentAllocationMap cidrMap pods).find defName ip = some ⟨name, podNamespace, 0, ip⟩ := by
  have hpods := foldl_set (l := pods) (f := addPod cidrMap)
    (fun m : AllocationMap => m.find defName ip) (fun pod => reports pod defName ip)
    (some ⟨name, podNamespace, 0, ip⟩) ?_ ∅
  · rw [getCurrentAllocationMap, hpods, if_pos]
    exact List.any_eq_true.mpr hreported
  · intro m pod hpod
    rw [find_addPod hcidr]
    by_cases hrep : reports pod defName ip = true
    · obtain ⟨rfl, rfl⟩ := honly pod hpod hrep
      rfl
    · rw [if_neg hrep, if_neg hrep]

theorem keyed_getCurrentAllocationMap (cidrMap : GoMap String CIDRSpec) (pods : List Pod) :
    Keyed (getCurrentAllocationMap cidrMap pods) := by
  refine foldl_invariant (P := Keyed) ?_ ?_
  · intro m pod _ hm
    unfold addPod
    split
    · refine foldl_invariant (P := Keyed) ?_ hm
      intro m status _ hm
      unfold addStatus
      dsimp only
      split
      · exact hm
      · refine hm.insert _ ?_
        refine foldl_invariant (P := Addressed) ?_ ?_
        · intro allocations ip _ hall
          exact GoMap.All.insert hall rfl
        · intro ip a ha
          cases hl : m.lookup (defNameOf status.name) with
          | none =>
            rw [hl] at ha
            cases ha
          | some allocations =>
            rw [hl] at ha
            exact hm _ ip a (Option.bind_eq_some_iff.mpr ⟨allocations, hl, ha⟩)
    · exact hm
  · intro defName ip a ha
    cases ha

/-! ## The new list -/

/-- Is the address in the pod CIDR, as `GetIndexInRange` sees it? -/
def inRange (podCIDR address : String) : Bool := (getIndexInRange podCIDR address).any (·.1)

/-- The same address for the same pod, whatever the index. -/
def SameOwner (a b : Allocation) : Prop :=
  a.pod = b.pod ∧ a.podNamespace = b.podNamespace ∧ a.address = b.address

instance (a b : Allocation) : Decidable (SameOwner a b) := inferInstanceAs (Decidable (_ ∧ _ ∧ _))

/-- What the loop of `GetSyncAllocations` keeps: the list grows, and only addresses of the pool
leave the map. -/
structure Advances (ippool : IPPoolSpec) (r r' : SyncResult) : Prop where
  grows : ∀ b ∈ r.newAllocations, b ∈ r'.newAllocations
  frame : ∀ defName ip, (defName = ippool.netAttachDefName → inRange ippool.podCIDR ip = false) →
    r'.allocationMap.find defName ip = r.allocationMap.find defName ip
  keyed : Keyed r.allocationMap → Keyed r'.allocationMap
  crKeyed : Keyed r.crAllocationMap → Keyed r'.crAllocationMap

theorem Advances.refl (ippool : IPPoolSpec) (r : SyncResult) : Advances ippool r r :=
  ⟨fun _ hb => hb, fun _ _ _ => rfl, id, id⟩

theorem Advances.trans {r₁ r₂ : SyncResult} (h : Advances ippool r r₁) (h' : Advances ippool r₁ r₂) :
    Advances ippool r r₂ where
  grows b hb := h'.grows b (h.grows b hb)
  frame defName ip hip := (h'.frame defName ip hip).trans (h.frame defName ip hip)
  keyed := h'.keyed ∘ h.keyed
  crKeyed := h'.crKeyed ∘ h.crKeyed

/-- One turn of the loop: an address of the pool is put into the list for its pod. -/
theorem syncAllocation_spec {r' : SyncResult} {entry : (_ : String) × Allocation}
    (hkey : entry.2.address = entry.1) (hcr : Keyed r.crAllocationMap)
    (h : syncAllocation ippool r entry = some r') :
    Advances ippool r r' ∧
      (inRange ippool.podCIDR entry.1 = true → ∃ b ∈ r'.newAllocations, SameOwner b entry.2) := by
  obtain ⟨⟨contained, index⟩, hindex, h⟩ := Option.bind_eq_some_iff.mp h
  have hrange : inRange ippool.podCIDR entry.1 = contained := by
    rw [inRange, ← hkey, hindex]
    rfl
  cases contained with
  | false =>
    cases h
    refine ⟨.refl ippool r, fun hin => ?_⟩
    rw [hrange] at hin
    cases hin
  | true =>
    -- taking the address out of the map touches no address outside the pool
    have hframe : ∀ defName ip, (defName = ippool.netAttachDefName →
        inRange ippool.podCIDR ip = false) →
        (r.allocationMap.delete ippool.netAttachDefName entry.1).find defName ip =
          r.allocationMap.find defName ip := by
      intro defName ip hip
      rw [find_delete, if_neg]
      rintro ⟨hdef, rfl⟩
      rw [hip hdef] at hrange
      cases hrange
    dsimp only at h
    rw [if_pos rfl] at h
    split at h
    · next crAllocation hfilter =>
      cases h
      obtain ⟨hfind, howner⟩ := Option.filter_eq_some_iff.mp hfilter
      rw [Bool.and_eq_true, beq_iff_eq, beq_iff_eq] at howner
      refine ⟨⟨?_, hframe, fun hk => hk.delete _ _, fun hk => hk.delete _ _⟩, fun _ => ?_⟩
      · exact fun b hb => List.mem_append_left _ hb
      · refine ⟨crAllocation, List.mem_append_right _ List.mem_cons_self, howner.1, howner.2, ?_⟩
        rw [hcr _ _ _ hfind, hkey]
    · cases h
      refine ⟨⟨?_, hframe, fun hk => hk.delete _ _, id⟩, fun _ => ?_⟩
      · exact fun b hb => List.mem_append_left _ hb
      · exact ⟨_, List.mem_append_right _ List.mem_cons_self, rfl, rfl, rfl⟩

/-- The whole loop. -/
theorem syncAllocations_spec {l : List ((_ : String) × Allocation)} {r' : SyncResult}
    (hkey : ∀ e ∈ l, e.2.address = e.1) (hcr : Keyed r.crAllocationMap)
    (h : l.foldlM (syncAllocation ippool) r = some r') :
    Advances ippool r r' ∧ ∀ e ∈ l, inRange ippool.podCIDR e.1 = true →
      ∃ b ∈ r'.newAllocations, SameOwner b e.2 := by
  induction l generalizing r with
  | nil =>
    cases h
    exact ⟨.refl ippool _, fun e he => absurd he List.not_mem_nil⟩
  | cons e l ih =>
    obtain ⟨r₁, h₁, h₂⟩ := foldlM_cons_eq_some.mp h
    obtain ⟨hfirst, hadded⟩ := syncAllocation_spec (hkey e List.mem_cons_self) hcr h₁
    obtain ⟨hrest, hcovered⟩ := ih (fun e' he' => hkey e' (List.mem_cons_of_mem e he'))
      (hfirst.crKeyed hcr) h₂
    refine ⟨hfirst.trans hrest, ?_⟩
    intro e' he' hin
    rcases List.mem_cons.mp he' with rfl | he'
    · obtain ⟨b, hb, howner⟩ := hadded hin
      exact ⟨b, hrest.grows b hb, howner⟩
    · exact hcovered e' he' hin

/-- The allocations of a network. -/
def AllocationMap.entriesOf (m : AllocationMap) (defName : String) :
    List ((_ : String) × Allocation) := ((m.lookup defName).getD ∅).entries

theorem mem_entriesOf {e : (_ : String) × Allocation} :
    e ∈ m.entriesOf defName ↔ m.find defName e.1 = some e.2 := by
  unfold AllocationMap.entriesOf AllocationMap.find
  cases m.lookup defName with
  | none => exact ⟨fun h => absurd h List.not_mem_nil, nofun⟩
  | some allocations => exact AList.mem_lookup_iff.symm

/-- `GetSyncAllocations`: every address of the map in the pool is in the new list, for its pod;
the other addresses stay in the map. -/
theorem getSyncAllocations_spec {allocationMap crAllocationMap : AllocationMap}
    (hkey : Keyed allocationMap) (hcr : Keyed crAllocationMap)
    (h : getSyncAllocations ippool allocationMap crAllocationMap = some r) :
    (∀ ip a, allocationMap.find ippool.netAttachDefName ip = some a →
        inRange ippool.podCIDR ip = true → ∃ b ∈ r.newAllocations, SameOwner b a) ∧
      (∀ defName ip, (defName = ippool.netAttachDefName → inRange ippool.podCIDR ip = false) →
        r.allocationMap.find defName ip = allocationMap.find defName ip) ∧
      Keyed r.allocationMap ∧ Keyed r.crAllocationMap := by
  obtain ⟨r, hloop, h⟩ := Option.bind_eq_some_iff.mp h
  cases h
  have hfind : ∀ e ∈ allocationMap.entriesOf ippool.netAttachDefName,
      allocationMap.find ippool.netAttachDefName e.1 = some e.2 := fun e he => mem_entriesOf.mp he
  obtain ⟨hadv, hcovered⟩ := syncAllocations_spec (fun e he => hkey _ _ _ (hfind e he)) hcr hloop
  refine ⟨?_, hadv.frame, hadv.keyed hkey, hadv.crKeyed hcr⟩
  intro ip a ha hin
  exact hcovered ⟨ip, a⟩ (mem_entriesOf.mpr ha) hin

end MultiNicCni.Controller
