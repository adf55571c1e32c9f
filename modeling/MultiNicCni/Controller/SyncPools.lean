import MultiNicCni.AddressIndex
import MultiNicCni.Controller.ActivePods

/-!
# The pools of a network after a synchronisation

`Controller/ActivePods.lean` models `GetSyncAllocations` for one pool. Here it runs over all the
pools of a network, as the last loop of `SyncIPPoolWithActivePods` does: both allocation maps are
shared by the pools and consumed on the way.

- `getIndexInRange_eq`: the index of an address is its distance from the address of the pod CIDR;
- `find_crAllocationMap`: the second map has the stored record of an address;
- `syncPools_correct`: every pool gets the active addresses that lie in it, once each, and the
  addresses left in the first map are those that lie in no pool.

The rule is stated apart from the code: `liesIn`, `offsetIn` and `syncedRecord` read the texts of
the pool and of the address only.
-/

namespace MultiNicCni.Controller

open Go Compute Lib

variable {podCIDR address ip defName name : String} {a : Allocation} {r : SyncResult}
  {ippool : IPPoolSpec} {ippoolSnapshot : GoMap String IPPoolSpec} {cidrMap : GoMap String CIDRSpec}

/-! ## The rule -/

/-- The address lies in the network of the pod CIDR. -/
def liesIn (podCIDR address : String) : Bool :=
  match parseCIDR podCIDR, parseIP address with
  | some (_, podNet), some ip => podNet.contains ip
  | _, _ => false

/-- The offset of an address in a pod CIDR: how far it is from the address of the CIDR. -/
def offsetIn (podCIDR address : String) : Int :=
  match parseCIDR podCIDR, parseIP address with
  | some (start, _), some ip => (ip.toNat : Int) - start.toNat
  | _, _ => 0

/-- The record that the pool stores for the address, if it is for the same pod. -/
def storedRecord (ippool : IPPoolSpec) (a : Allocation) : Option Allocation :=
  ippool.allocations.find? fun stored => decide (SameOwner stored a)

/-- The record that the pool is to have for an active address. -/
def syncedRecord (ippool : IPPoolSpec) (a : Allocation) : Allocation :=
  (storedRecord ippool a).getD { a with index := offsetIn ippool.podCIDR a.address }

/-- Whatever the index, the record is for the active pod. -/
theorem sameOwner_syncedRecord (ippool : IPPoolSpec) (a : Allocation) :
    SameOwner (syncedRecord ippool a) a := by
  unfold syncedRecord
  cases hstored : storedRecord ippool a with
  | none => exact ⟨rfl, rfl, rfl⟩
  | some stored =>
    rw [storedRecord] at hstored
    simpa using List.find?_some hstored

/-! ## The index -/

/-- `GetIndexInRange` says whether the address lies in the pod CIDR, and at which offset. -/
theorem getIndexInRange_eq (hcidr : (parseCIDR podCIDR).isSome = true)
    (ha : (parseIP address).isSome = true) :
    getIndexInRange podCIDR address =
      some (if liesIn podCIDR address then (true, offsetIn podCIDR address) else (false, -1)) := by
  obtain ⟨⟨start, n⟩, hcidr⟩ := Option.isSome_iff_exists.mp hcidr
  obtain ⟨a, ha⟩ := Option.isSome_iff_exists.mp ha
  rw [getIndexInRange_parsed hcidr ha, liesIn, offsetIn, hcidr, ha]

/-- An address of the pod CIDR is one of its network. -/
theorem mem_cidrSet_of_liesIn (h : liesIn podCIDR address = true) :
    ∃ a, parseIP address = some a ∧ a ∈ cidrSet podCIDR := by
  unfold liesIn at h
  split at h
  · next start podNet a hcidr ha => exact ⟨a, ha, start, podNet, hcidr, h⟩
  · cases h

theorem liesIn_of_mem_cidrSet {a : IP4} (ha : parseIP address = some a) (h : a ∈ cidrSet podCIDR) :
    liesIn podCIDR address = true := by
  obtain ⟨start, podNet, hcidr, hin⟩ := h
  rw [liesIn, hcidr, ha]
  exact hin

/-! ## One pool -/

/-- What the loop of `GetSyncAllocations` makes of the entries `l` of the map. -/
structure Synced (ippool : IPPoolSpec) (l : List ((_ : String) × Allocation))
    (r r' : SyncResult) : Prop where
  list : r'.newAllocations = r.newAllocations ++
    (l.filter fun e => liesIn ippool.podCIDR e.1).map fun e => syncedRecord ippool e.2
  unchanged : r'.changed = false → r.changed = false ∧
    ∀ e ∈ l, liesIn ippool.podCIDR e.1 = true → syncedRecord ippool e.2 ∈ ippool.allocations
  left : ∀ ip, r'.allocationMap.find ippool.netAttachDefName ip =
    if ip ∈ l.map Sigma.fst ∧ liesIn ippool.podCIDR ip = true then none
    else r.allocationMap.find ippool.netAttachDefName ip
  stored : ∀ ip, (ip ∈ l.map Sigma.fst → liesIn ippool.podCIDR ip = false) →
    r'.crAllocationMap.find ippool.netAttachDefName ip =
      r.crAllocationMap.find ippool.netAttachDefName ip

theorem Synced.nil (ippool : IPPoolSpec) (r : SyncResult) : Synced ippool [] r r where
  list := (List.append_nil _).symm
  unchanged h := ⟨h, nofun⟩
  left ip := by simp
  stored _ _ := rfl

theorem Synced.cons {e : (_ : String) × Allocation} {l : List ((_ : String) × Allocation)}
    {r₁ r' : SyncResult} (h₁ : Synced ippool [e] r r₁) (h : Synced ippool l r₁ r') :
    Synced ippool (e :: l) r r' where
  list := by
    rw [h.list, h₁.list, List.append_assoc, ← List.map_append, ← List.filter_append,
      List.singleton_append]
  unchanged hfalse := by
    obtain ⟨hfalse₁, hl⟩ := h.unchanged hfalse
    obtain ⟨hfalse, he⟩ := h₁.unchanged hfalse₁
    refine ⟨hfalse, fun e' he' hin => ?_⟩
    rcases List.mem_cons.mp he' with rfl | he'
    · exact he e' List.mem_cons_self hin
    · exact hl e' he' hin
  left ip := by
    rw [h.left, h₁.left]
    by_cases hin : liesIn ippool.podCIDR ip = true
    · by_cases hmem : ip ∈ l.map Sigma.fst
      · simp [hin, hmem]
      · simp [hin, hmem]
    · simp [hin]
  stored ip hip := by
    rw [h.stored ip fun hmem => hip (List.mem_cons_of_mem _ hmem),
      h₁.stored ip fun hmem => hip (by
        rw [List.map_singleton, List.mem_singleton] at hmem
        rw [hmem]
        exact List.mem_cons_self)]

/-- The second map has the stored record of the address, if it is for the same pod. -/
def StoredIn (ippool : IPPoolSpec) (crAllocationMap : AllocationMap)
    (e : (_ : String) × Allocation) : Prop :=
  liesIn ippool.podCIDR e.1 = true →
    ((crAllocationMap.find ippool.netAttachDefName e.1).filter fun crAllocation =>
      crAllocation.pod == e.2.pod && crAllocation.podNamespace == e.2.podNamespace) =
    storedRecord ippool e.2

section Pool

variable (hcidr : (parseCIDR ippool.podCIDR).isSome = true)
include hcidr

/-- One turn of the loop. -/
theorem syncAllocation_synced {e : (_ : String) × Allocation} (hkey : e.2.address = e.1)
    (haddr : (parseIP e.1).isSome = true) (hstored : StoredIn ippool r.crAllocationMap e) :
    ∃ r', syncAllocation ippool r e = some r' ∧ Synced ippool [e] r r' := by
  rw [syncAllocation, hkey, getIndexInRange_eq hcidr haddr, Option.bind_eq_bind, Option.bind_some]
  by_cases hin : liesIn ippool.podCIDR e.1 = true
  · rw [if_pos hin]
    dsimp only
    rw [if_pos rfl, hstored hin]
    -- the address leaves the first map in both cases
    have hleft : ∀ ip, (r.allocationMap.delete ippool.netAttachDefName e.1).find
        ippool.netAttachDefName ip =
        if ip ∈ [e].map Sigma.fst ∧ liesIn ippool.podCIDR ip = true then none
        else r.allocationMap.find ippool.netAttachDefName ip := by
      intro ip
      rw [find_delete]
      by_cases hip : ip = e.1
      · subst hip
        simp [hin]
      · simp [hip]
    have hlist : ([e].filter fun e => liesIn ippool.podCIDR e.1) = [e] := by simp [hin]
    cases hrec : storedRecord ippool e.2 with
    | some stored =>
      refine ⟨_, rfl, ?_, ?_, hleft, ?_⟩
      · rw [hlist, List.map_singleton, syncedRecord, hrec, Option.getD_some]
      · intro hfalse
        refine ⟨hfalse, fun e' he' _ => ?_⟩
        rw [List.mem_singleton.mp he', syncedRecord, hrec, Option.getD_some]
        exact List.mem_of_find?_eq_some hrec
      · intro ip hip
        rw [find_delete, if_neg]
        rintro ⟨-, rfl⟩
        rw [hip List.mem_cons_self] at hin
        cases hin
    | none =>
      refine ⟨_, rfl, ?_, nofun, hleft, fun _ _ => rfl⟩
      rw [hlist, List.map_singleton, syncedRecord, hrec, Option.getD_none, hkey]
  · rw [if_neg hin]
    refine ⟨r, rfl, ?_, ?_, ?_, fun _ _ => rfl⟩
    · simp [hin]
    · intro hfalse
      refine ⟨hfalse, fun e' he' hin' => ?_⟩
      rw [List.mem_singleton.mp he'] at hin'
      exact absurd hin' hin
    · intro ip
      rw [if_neg]
      rintro ⟨hip, hin'⟩
      rw [List.map_singleton, List.mem_singleton] at hip
      rw [hip] at hin'
      exact hin hin'

/-- The whole loop, over entries with different addresses. -/
theorem syncAllocations_synced {l : List ((_ : String) × Allocation)}
    (hnodup : (l.map Sigma.fst).Nodup) (hkey : ∀ e ∈ l, e.2.address = e.1)
    (haddr : ∀ e ∈ l, (parseIP e.1).isSome = true)
    (hstored : ∀ e ∈ l, StoredIn ippool r.crAllocationMap e) :
    ∃ r', l.foldlM (syncAllocation ippool) r = some r' ∧ Synced ippool l r r' := by
  induction l generalizing r with
  | nil => exact ⟨r, rfl, .nil ippool r⟩
  | cons e l ih =>
    rw [List.map_cons, List.nodup_cons] at hnodup
    obtain ⟨hnew, hnodup⟩ := hnodup
    obtain ⟨r₁, hr₁, h₁⟩ := syncAllocation_synced hcidr (hkey e List.mem_cons_self)
      (haddr e List.mem_cons_self) (hstored e List.mem_cons_self)
    obtain ⟨r', hr', h'⟩ := ih (r := r₁) hnodup
      (fun e' he' => hkey e' (List.mem_cons_of_mem e he'))
      (fun e' he' => haddr e' (List.mem_cons_of_mem e he'))
      (by
        intro e' he' hin
        -- the first turn leaves the records of the other addresses
        rw [h₁.stored e'.1, hstored e' (List.mem_cons_of_mem e he') hin]
        intro hmem
        rw [List.map_singleton, List.mem_singleton] at hmem
        exact absurd (hmem ▸ List.mem_map_of_mem he') hnew)
    refine ⟨r', ?_, h₁.cons h'⟩
    rw [List.foldlM_cons, hr₁]
    exact hr'

end Pool

theorem nodup_entriesOf (m : AllocationMap) (defName : String) :
    ((m.entriesOf defName).map Sigma.fst).Nodup :=
  ((m.lookup defName).getD ∅).nodupKeys

/-- Maps that agree on the addresses of a pod CIDR have the same entries there. -/
theorem filter_entriesOf_perm {m m' : AllocationMap}
    (h : ∀ ip, liesIn podCIDR ip = true → m.find defName ip = m'.find defName ip) :
    ((m.entriesOf defName).filter fun e => liesIn podCIDR e.1).Perm
      ((m'.entriesOf defName).filter fun e => liesIn podCIDR e.1) := by
  refine (List.perm_ext_iff_of_nodup ((nodup_entriesOf m defName).of_map.filter _)
    ((nodup_entriesOf m' defName).of_map.filter _)).mpr fun e => ?_
  rw [List.mem_filter, List.mem_filter, mem_entriesOf, mem_entriesOf]
  refine and_congr_left fun hin => ?_
  rw [h e.1 hin]

/-- The active addresses of a network: IPv4 addresses, each with its pod. -/
def Active (defName : String) (m : AllocationMap) : Prop :=
  ∀ ip a, m.find defName ip = some a → a.address = ip ∧ (parseIP ip).isSome = true

/-- What a pool of the network is to get: each active address that lies in it once, and nothing
else; without a change, the allocations it has. -/
def PoolSynced (active : AllocationMap) (ippool : IPPoolSpec) (changed : Bool)
    (newAllocations : List Allocation) : Prop :=
  newAllocations.Perm
      (((active.entriesOf ippool.netAttachDefName).filter fun e => liesIn ippool.podCIDR e.1).map
        fun e => syncedRecord ippool e.2) ∧
    (changed = false → newAllocations.Perm ippool.allocations)

section Pool

variable (hcidr : (parseCIDR ippool.podCIDR).isSome = true)
include hcidr

/-- `GetSyncAllocations` takes the addresses of its pool out of the map. -/
theorem getSyncAllocations_synced {allocationMap crAllocationMap : AllocationMap}
    (hactive : Active ippool.netAttachDefName allocationMap)
    (hstored : ∀ e ∈ allocationMap.entriesOf ippool.netAttachDefName,
      StoredIn ippool crAllocationMap e) :
    ∃ r, getSyncAllocations ippool allocationMap crAllocationMap = some r ∧
      PoolSynced allocationMap ippool r.changed r.newAllocations ∧
      (∀ ip, r.allocationMap.find ippool.netAttachDefName ip =
        if liesIn ippool.podCIDR ip then none
        else allocationMap.find ippool.netAttachDefName ip) ∧
      ∀ ip, liesIn ippool.podCIDR ip = false →
        r.crAllocationMap.find ippool.netAttachDefName ip =
          crAllocationMap.find ippool.netAttachDefName ip := by
  have hnodup := nodup_entriesOf allocationMap ippool.netAttachDefName
  have hentry : ∀ e ∈ allocationMap.entriesOf ippool.netAttachDefName,
      e.2.address = e.1 ∧ (parseIP e.1).isSome = true :=
    fun e he => hactive e.1 e.2 (mem_entriesOf.mp he)
  obtain ⟨r, hr, hsync⟩ := syncAllocations_synced hcidr (r := ⟨false, [], allocationMap, crAllocationMap⟩)
    hnodup (fun e he => (hentry e he).1) (fun e he => (hentry e he).2) hstored
  refine ⟨_, Option.bind_eq_some_iff.mpr ⟨r, hr, rfl⟩, ⟨?_, ?_⟩, ?_, ?_⟩
  · rw [hsync.list, List.nil_append]
  · -- every record is a stored one, and there are as many
    intro hchanged
    rw [Bool.or_eq_false_iff, decide_eq_false_iff_not, not_not] at hchanged
    obtain ⟨-, hold⟩ := hsync.unchanged hchanged.1
    have hsub : r.newAllocations ⊆ ippool.allocations := by
      intro a ha
      rw [hsync.list, List.nil_append] at ha
      obtain ⟨e, he, rfl⟩ := List.mem_map.mp ha
      obtain ⟨he, hin⟩ := List.mem_filter.mp he
      exact hold e he hin
    have hdistinct : r.newAllocations.Nodup := by
      refine List.Nodup.of_map (fun a => a.address) ?_
      have haddr : r.newAllocations.map (fun a => a.address) =
          ((allocationMap.entriesOf ippool.netAttachDefName).filter
            fun e => liesIn ippool.podCIDR e.1).map Sigma.fst := by
        rw [hsync.list, List.nil_append, List.map_map]
        refine List.map_congr_left fun e he => ?_
        exact (sameOwner_syncedRecord ippool e.2).2.2.trans (hentry e (List.mem_of_mem_filter he)).1
      rw [haddr]
      exact hnodup.sublist (List.filter_sublist.map _)
    exact (hdistinct.subperm hsub).perm_of_length_le hchanged.2.le
  · intro ip
    rw [hsync.left]
    by_cases hin : liesIn ippool.podCIDR ip = true
    · by_cases hmem : ip ∈ (allocationMap.entriesOf ippool.netAttachDefName).map Sigma.fst
      · rw [if_pos ⟨hmem, hin⟩, if_pos hin]
      · -- there was no such address
        rw [if_neg fun h => hmem h.1, if_pos hin]
        refine Option.eq_none_iff_forall_ne_some.mpr fun a ha => hmem ?_
        exact List.mem_map.mpr ⟨⟨ip, a⟩, mem_entriesOf.mpr ha, rfl⟩
    · rw [if_neg fun h => hin h.2, if_neg hin]
  · intro ip hin
    exact hsync.stored ip fun _ => hin

end Pool

/-! ## The stored records -/

/-- The allocations of the pools that a CIDR lists, in the order in which they are read. -/
def listedAllocations (ippoolSnapshot : GoMap String IPPoolSpec) (defName : String)
    (cidr : CIDRSpec) : List Allocation :=
  cidr.cidrs.flatMap fun entry => entry.hosts.flatMap fun host =>
    ((ippoolSnapshot.lookup (ippoolNameOf defName host)).map (·.allocations)).getD []

theorem crAllocations_eq (ippoolSnapshot : GoMap String IPPoolSpec) (defName : String)
    (cidr : CIDRSpec) :
    crAllocations ippoolSnapshot defName cidr =
      GoMap.keyBy (·.address) (listedAllocations ippoolSnapshot defName cidr) := by
  unfold crAllocations listedAllocations GoMap.keyBy
  rw [List.foldl_flatMap]
  refine List.foldl_ext _ _ _ fun m entry _ => ?_
  rw [List.foldl_flatMap]
  refine List.foldl_ext _ _ _ fun m host _ => ?_
  cases ippoolSnapshot.lookup (ippoolNameOf defName host) with
  | none => rfl
  | some ippool => rfl

/-- Among allocations with different addresses, a test that only one address passes finds the one
that passes it. -/
theorem find?_eq_some_of_address {allocations : List Allocation}
    (h : (allocations.map (·.address)).Nodup) {p : Allocation → Bool}
    (hp : ∀ a, p a = true → a.address = ip) :
    allocations.find? p = some a ↔ a ∈ allocations ∧ p a = true := by
  constructor
  · intro ha
    exact ⟨List.mem_of_find?_eq_some ha, List.find?_some ha⟩
  · rintro ⟨ha, hpa⟩
    obtain ⟨b, hb⟩ := Option.isSome_iff_exists.mp (List.find?_isSome.mpr ⟨a, ha, hpa⟩)
    have haddr : b.address = a.address := (hp b (List.find?_some hb)).trans (hp a hpa).symm
    rw [hb, List.inj_on_of_nodup_map h (List.mem_of_find?_eq_some hb) ha haddr]

/-- The pools of a network, as the CIDR lists them: CIDRs that are disjoint, and in each pool
different addresses that lie in it. -/
structure NetworkPools (defName : String) (cidr : CIDRSpec)
    (ippoolSnapshot : GoMap String IPPoolSpec) : Prop where
  network : ippoolSnapshot.All fun _ ippool => ippool.netAttachDefName = defName
  listed : ippoolSnapshot.All fun name _ => ∃ entry ∈ cidr.cidrs, ∃ host ∈ entry.hosts,
    ippoolNameOf defName host = name
  valid : ippoolSnapshot.All fun _ ippool => (parseCIDR ippool.podCIDR).isSome = true
  disjoint : ∀ name ippool name' ippool', ippoolSnapshot.lookup name = some ippool →
    ippoolSnapshot.lookup name' = some ippool' → name ≠ name' →
    Disjoint (cidrSet ippool.podCIDR) (cidrSet ippool'.podCIDR)
  distinct : ippoolSnapshot.All fun _ ippool => (ippool.allocations.map (·.address)).Nodup
  inside : ippoolSnapshot.All fun _ ippool => ∀ a ∈ ippool.allocations,
    ∃ ip, parseIP a.address = some ip ∧ ip ∈ cidrSet ippool.podCIDR

section Network

variable {cidr : CIDRSpec} (hpools : NetworkPools defName cidr ippoolSnapshot)
include hpools

/-- An address lies in one pool only. -/
theorem NetworkPools.only {name' : String} {ippool' : IPPoolSpec}
    (h : ippoolSnapshot.lookup name = some ippool) (h' : ippoolSnapshot.lookup name' = some ippool')
    (hin : liesIn ippool.podCIDR ip = true) (hin' : liesIn ippool'.podCIDR ip = true) :
    name = name' := by
  by_contra hne
  obtain ⟨a, ha, hmem⟩ := mem_cidrSet_of_liesIn hin
  obtain ⟨a', ha', hmem'⟩ := mem_cidrSet_of_liesIn hin'
  rw [ha] at ha'
  cases ha'
  exact Set.disjoint_left.mp (hpools.disjoint name ippool name' ippool' h h' hne) hmem hmem'

theorem NetworkPools.mem_listedAllocations :
    a ∈ listedAllocations ippoolSnapshot defName cidr ↔
      ∃ name ippool, ippoolSnapshot.lookup name = some ippool ∧ a ∈ ippool.allocations := by
  constructor
  · intro ha
    obtain ⟨entry, -, ha⟩ := List.mem_flatMap.mp ha
    obtain ⟨host, -, ha⟩ := List.mem_flatMap.mp ha
    cases hlookup : ippoolSnapshot.lookup (ippoolNameOf defName host) with
    | none =>
      rw [hlookup] at ha
      exact absurd ha List.not_mem_nil
    | some ippool =>
      rw [hlookup] at ha
      exact ⟨_, ippool, hlookup, ha⟩
  · rintro ⟨name, ippool, hlookup, ha⟩
    obtain ⟨entry, hentry, host, hhost, rfl⟩ := hpools.listed name ippool hlookup
    refine List.mem_flatMap.mpr ⟨entry, hentry, List.mem_flatMap.mpr ⟨host, hhost, ?_⟩⟩
    rw [hlookup]
    exact ha

/-- A record of an address of a pool is a record of that pool. -/
theorem NetworkPools.mem_allocations (h : ippoolSnapshot.lookup name = some ippool)
    (ha : a ∈ listedAllocations ippoolSnapshot defName cidr)
    (hin : liesIn ippool.podCIDR a.address = true) : a ∈ ippool.allocations := by
  obtain ⟨name', ippool', h', ha⟩ := hpools.mem_listedAllocations.mp ha
  obtain ⟨ip, hip, hmem⟩ := hpools.inside name' ippool' h' a ha
  obtain rfl := hpools.only h h' hin (liesIn_of_mem_cidrSet hip hmem)
  rw [h] at h'
  cases h'
  exact ha

/-- The second map has the records of the pools, by address. -/
theorem NetworkPools.find_crAllocationMap (hcidr : cidrMap.lookup defName = some cidr)
    (h : ippoolSnapshot.lookup name = some ippool) (hin : liesIn ippool.podCIDR ip = true) :
    (crAllocationMap cidrMap ippoolSnapshot).find defName ip =
      ippool.allocations.find? fun a => a.address == ip := by
  have hmap : (crAllocationMap cidrMap ippoolSnapshot).lookup defName =
      some (crAllocations ippoolSnapshot defName cidr) := by
    have hset := foldl_set (l := cidrMap.entries)
      (f := fun (m : AllocationMap) e => m.insert e.1 (crAllocations ippoolSnapshot e.1 e.2))
      (fun m => m.lookup defName) (fun e => e.1 == defName)
      (some (crAllocations ippoolSnapshot defName cidr)) ?_ ∅
    · rw [crAllocationMap, hset, if_pos]
      exact List.any_eq_true.mpr ⟨⟨defName, cidr⟩, AList.mem_lookup_iff.mp hcidr, beq_self_eq_true _⟩
    · intro m e he
      by_cases hdef : e.1 = defName
      · have hspec : cidrMap.lookup e.1 = some e.2 := AList.mem_lookup_iff.mpr he
        rw [hdef, hcidr] at hspec
        rw [if_pos (beq_iff_eq.mpr hdef), hdef, AList.lookup_insert, Option.some.inj hspec]
      · rw [if_neg fun hbeq => hdef (beq_iff_eq.mp hbeq), AList.lookup_insert_ne (Ne.symm hdef)]
  rw [AllocationMap.find, hmap, Option.bind_some, crAllocations_eq]
  refine GoMap.lookup_keyBy fun a => ?_
  rw [find?_eq_some_of_address (hpools.distinct name ippool h) fun a => beq_iff_eq.mp, beq_iff_eq]
  refine and_congr_left fun haddr => ⟨fun ha => ?_, fun ha => ?_⟩
  · exact hpools.mem_allocations h ha (haddr ▸ hin)
  · exact hpools.mem_listedAllocations.mpr ⟨name, ippool, h, ha⟩

/-- The code finds the record that the rule names. -/
theorem NetworkPools.storedIn (hcidr : cidrMap.lookup defName = some cidr)
    (h : ippoolSnapshot.lookup name = some ippool) {m : AllocationMap}
    (hm : ∀ ip, liesIn ippool.podCIDR ip = true →
      m.find defName ip = (crAllocationMap cidrMap ippoolSnapshot).find defName ip)
    {e : (_ : String) × Allocation} (hkey : e.2.address = e.1) : StoredIn ippool m e := by
  intro hin
  rw [hpools.network name ippool h, hm e.1 hin, hpools.find_crAllocationMap hcidr h hin, ← hkey]
  refine Option.ext fun a => ?_
  rw [Option.filter_eq_some_iff, storedRecord,
    find?_eq_some_of_address (hpools.distinct name ippool h) fun a => beq_iff_eq.mp,
    find?_eq_some_of_address (hpools.distinct name ippool h) fun a ha => (of_decide_eq_true ha).2.2]
  simp only [Bool.and_eq_true, beq_iff_eq, decide_eq_true_eq]
  unfold SameOwner
  tauto

end Network

/-! ## All pools -/

/-- Where the loop of `SyncIPPoolWithActivePods` over the pools is: the new list of every pool seen,
with the flag that decides whether the pool is patched, and the two maps. -/
structure PoolsSync where
  outputs : GoMap String (Bool × List Allocation)
  allocationMap : AllocationMap
  crAllocationMap : AllocationMap

/-- One turn of the loop. -/
def syncPool (s : PoolsSync) (entry : (_ : String) × IPPoolSpec) : Option PoolsSync := do
  let r ← getSyncAllocations entry.2 s.allocationMap s.crAllocationMap
  some ⟨s.outputs.insert entry.1 (r.changed, r.newAllocations), r.allocationMap, r.crAllocationMap⟩

/-- The loop of `SyncIPPoolWithActivePods` over the pools. -/
def syncPools (ippoolSnapshot : GoMap String IPPoolSpec)
    (allocationMap crAllocationMap : AllocationMap) : Option PoolsSync :=
  ippoolSnapshot.entries.foldlM syncPool ⟨∅, allocationMap, crAllocationMap⟩

/-- What holds when the pools `rest` are still to come: their addresses are untouched, and the
other active addresses are there or not. -/
structure Untouched (defName : String) (active stored : AllocationMap)
    (rest : List ((_ : String) × IPPoolSpec)) (s : PoolsSync) : Prop where
  found : ∀ e ∈ rest, ∀ ip, liesIn e.2.podCIDR ip = true →
    s.allocationMap.find defName ip = active.find defName ip
  records : ∀ e ∈ rest, ∀ ip, liesIn e.2.podCIDR ip = true →
    s.crAllocationMap.find defName ip = stored.find defName ip
  sub : ∀ ip a, s.allocationMap.find defName ip = some a → active.find defName ip = some a

section Network

variable {cidr : CIDRSpec} (hpools : NetworkPools defName cidr ippoolSnapshot)
  (hcidr : cidrMap.lookup defName = some cidr) {active : AllocationMap}
  (hactive : Active defName active)
include hpools hcidr hactive

/-- One pool gets its addresses, and those of the pools to come are untouched. -/
theorem syncPool_synced {e : (_ : String) × IPPoolSpec} {rest : List ((_ : String) × IPPoolSpec)}
    (hmem : ∀ e' ∈ e :: rest, e' ∈ ippoolSnapshot.entries)
    (hnodup : ((e :: rest).map Sigma.fst).Nodup) {s : PoolsSync}
    (hs : Untouched defName active (crAllocationMap cidrMap ippoolSnapshot) (e :: rest) s) :
    ∃ s' output, syncPool s e = some s' ∧ s'.outputs = s.outputs.insert e.1 output ∧
      PoolSynced active e.2 output.1 output.2 ∧
      Untouched defName active (crAllocationMap cidrMap ippoolSnapshot) rest s' ∧
      ∀ ip, s'.allocationMap.find defName ip =
        if liesIn e.2.podCIDR ip then none else s.allocationMap.find defName ip := by
  have hlookup : ∀ e' ∈ e :: rest, ippoolSnapshot.lookup e'.1 = some e'.2 :=
    fun e' he' => AList.mem_lookup_iff.mpr (hmem e' he')
  have he := hlookup e List.mem_cons_self
  have hdef := hpools.network e.1 e.2 he
  have hactive' : Active e.2.netAttachDefName s.allocationMap := by
    rw [hdef]
    exact fun ip a ha => hactive ip a (hs.sub ip a ha)
  have hrecords : ∀ x ∈ s.allocationMap.entriesOf e.2.netAttachDefName,
      StoredIn e.2 s.crAllocationMap x := by
    intro x hx
    exact hpools.storedIn hcidr he (hs.records e List.mem_cons_self)
      (hactive' x.1 x.2 (mem_entriesOf.mp hx)).1
  obtain ⟨r, hr, ⟨hperm, hsame⟩, hleft, hstored⟩ :=
    getSyncAllocations_synced (hpools.valid e.1 e.2 he) hactive' hrecords
  rw [hdef] at hleft hstored
  -- no address of this pool is one of a pool to come
  have hother : ∀ e' ∈ rest, ∀ ip, liesIn e'.2.podCIDR ip = true →
      liesIn e.2.podCIDR ip = false := by
    intro e' he' ip hin'
    rw [Bool.eq_false_iff]
    intro hin
    have hname := hpools.only he (hlookup e' (List.mem_cons_of_mem e he')) hin hin'
    rw [List.map_cons, List.nodup_cons] at hnodup
    exact hnodup.1 (hname ▸ List.mem_map_of_mem he')
  refine ⟨_, (r.changed, r.newAllocations), Option.bind_eq_some_iff.mpr ⟨r, hr, rfl⟩, rfl,
    ⟨?_, hsame⟩, ⟨?_, ?_, ?_⟩, hleft⟩
  · refine hperm.trans (List.Perm.map _ ?_)
    rw [hdef]
    exact filter_entriesOf_perm (hs.found e List.mem_cons_self)
  · intro e' he' ip hin
    show r.allocationMap.find defName ip = _
    rw [hleft, hother e' he' ip hin]
    exact hs.found e' (List.mem_cons_of_mem e he') ip hin
  · intro e' he' ip hin
    show r.crAllocationMap.find defName ip = _
    rw [hstored ip (hother e' he' ip hin)]
    exact hs.records e' (List.mem_cons_of_mem e he') ip hin
  · intro ip a ha
    have ha : r.allocationMap.find defName ip = some a := ha
    rw [hleft] at ha
    split at ha
    · cases ha
    · exact hs.sub ip a ha

/-- The loop over the pools that are still to come. -/
theorem syncPools_synced {rest : List ((_ : String) × IPPoolSpec)}
    (hmem : ∀ e ∈ rest, e ∈ ippoolSnapshot.entries) (hnodup : (rest.map Sigma.fst).Nodup)
    {s : PoolsSync}
    (hs : Untouched defName active (crAllocationMap cidrMap ippoolSnapshot) rest s) :
    ∃ s', rest.foldlM syncPool s = some s' ∧
      (∀ name, name ∉ rest.map Sigma.fst → s'.outputs.lookup name = s.outputs.lookup name) ∧
      (∀ e ∈ rest, ∃ output, s'.outputs.lookup e.1 = some output ∧
        PoolSynced active e.2 output.1 output.2) ∧
      ∀ ip, s'.allocationMap.find defName ip =
        if rest.any fun e => liesIn e.2.podCIDR ip then none
        else s.allocationMap.find defName ip := by
  induction rest generalizing s with
  | nil => exact ⟨s, rfl, fun _ _ => rfl, nofun, fun _ => rfl⟩
  | cons e rest ih =>
    obtain ⟨s₁, output, hs₁, hout, hsynced, huntouched, hleft⟩ :=
      syncPool_synced hpools hcidr hactive hmem hnodup hs
    rw [List.map_cons, List.nodup_cons] at hnodup
    obtain ⟨s', hs', hothers, hrest, hleft'⟩ :=
      ih (fun e' he' => hmem e' (List.mem_cons_of_mem e he')) hnodup.2 huntouched
    refine ⟨s', ?_, ?_, ?_, ?_⟩
    · rw [List.foldlM_cons, hs₁]
      exact hs'
    · intro name hname
      rw [List.map_cons, List.mem_cons, not_or] at hname
      rw [hothers name hname.2, hout, AList.lookup_insert_ne hname.1]
    · intro e' he'
      rcases List.mem_cons.mp he' with rfl | he'
      · refine ⟨output, ?_, hsynced⟩
        rw [hothers e'.1 hnodup.1, hout, AList.lookup_insert]
      · exact hrest e' he'
    · intro ip
      rw [hleft', hleft, List.any_cons]
      cases liesIn e.2.podCIDR ip <;> cases rest.any fun e => liesIn e.2.podCIDR ip <;> rfl

/-- **Every pool gets its active addresses.** For the pools of a network and the active addresses,
in any order: each pool gets each active address that lies in it once, under the stored record if
that is for the same pod, else with its offset as index, and nothing else; the active addresses
left are those of no pool; and a pool reported unchanged keeps its allocations. -/
theorem syncPools_correct : ∃ s,
    syncPools ippoolSnapshot active (crAllocationMap cidrMap ippoolSnapshot) = some s ∧
      (∀ name ippool, ippoolSnapshot.lookup name = some ippool →
        ∃ changed newAllocations, s.outputs.lookup name = some (changed, newAllocations) ∧
          PoolSynced active ippool changed newAllocations) ∧
      ∀ ip, s.allocationMap.find defName ip =
        if ippoolSnapshot.entries.any fun e => liesIn e.2.podCIDR ip then none
        else active.find defName ip := by
  obtain ⟨s, hs, -, hout, hleft⟩ := syncPools_synced hpools hcidr hactive (fun e he => he)
    ippoolSnapshot.nodupKeys
    (s := ⟨∅, active, crAllocationMap cidrMap ippoolSnapshot⟩)
    ⟨fun _ _ _ _ => rfl, fun _ _ _ _ => rfl, fun _ _ ha => ha⟩
  refine ⟨s, hs, fun name ippool h => ?_, hleft⟩
  obtain ⟨⟨changed, newAllocations⟩, hlookup, hsynced⟩ :=
    hout ⟨name, ippool⟩ (AList.mem_lookup_iff.mp h)
  exact ⟨changed, newAllocations, hlookup, hsynced⟩

end Network

/-- The pools of two hosts, the first with a pod. -/
def firstPool : IPPoolSpec :=
  ⟨"10.0.0.0/26", "10.0.0.0/24", "net", "a", "eth1", [], [⟨"pod-a", "default", 1, "10.0.0.1"⟩]⟩

def secondPool : IPPoolSpec := ⟨"10.0.0.64/26", "10.0.0.0/24", "net", "b", "eth1", [], []⟩

def twoPools : GoMap String IPPoolSpec :=
  (AList.singleton "net-10.0.0.0-26" firstPool).insert "net-10.0.0.64-26" secondPool

/-- The CIDR that lists them, the second by its pod CIDR only. -/
def poolHosts : CIDRSpec where
  config :=
    { name := "net", subnet := "10.0.0.0/24", masterNetAddrs := ["192.168.0.0/24"],
      hostBlock := 2, interfaceBlock := 0, excludeCIDRs := [], vlanMode := "" }
  cidrs := [⟨"192.168.0.0/24", 0, "10.0.0.0/24",
    [⟨0, "a", "eth1", "192.168.0.1", "10.0.0.0/26", "net-10.0.0.0-26"⟩,
      ⟨1, "b", "eth1", "192.168.0.2", "10.0.0.64/26", ""⟩]⟩]

theorem lookup_twoPools (h : twoPools.lookup name = some ippool) :
    (name = "net-10.0.0.64-26" ∧ ippool = secondPool) ∨
      (name = "net-10.0.0.0-26" ∧ ippool = firstPool) := by
  rcases GoMap.lookup_insert_cases h with ⟨rfl, rfl⟩ | ⟨-, h⟩
  · exact Or.inl ⟨rfl, rfl⟩
  · rcases GoMap.lookup_insert_cases (m := ∅) h with ⟨rfl, rfl⟩ | ⟨-, h⟩
    · exact Or.inr ⟨rfl, rfl⟩
    · cases h

theorem disjoint_twoPools : Disjoint (cidrSet firstPool.podCIDR) (cidrSet secondPool.podCIDR) := by
  have hfirst : parseCIDR firstPool.podCIDR = some (⟨10, 0, 0, 0⟩, ⟨⟨10, 0, 0, 0⟩, 26, by decide⟩) := by
    decide +kernel
  have hsecond : parseCIDR secondPool.podCIDR =
      some (⟨10, 0, 0, 64⟩, ⟨⟨10, 0, 0, 64⟩, 26, by decide⟩) := by decide +kernel
  refine Set.disjoint_left.mpr fun ip h h' => ?_
  have hblock := ((mem_cidrSet hfirst ip).mp h).trans ((mem_cidrSet hsecond ip).mp h').symm
  revert hblock
  decide +kernel

theorem networkPools_two : NetworkPools "net" poolHosts twoPools where
  network name ippool h := by rcases lookup_twoPools h with ⟨-, rfl⟩ | ⟨-, rfl⟩ <;> rfl
  listed name ippool h := by
    rcases lookup_twoPools h with ⟨rfl, -⟩ | ⟨rfl, -⟩
    · refine ⟨_, List.mem_cons_self, _, List.mem_cons_of_mem _ List.mem_cons_self, ?_⟩
      decide +kernel
    · refine ⟨_, List.mem_cons_self, _, List.mem_cons_self, ?_⟩
      decide +kernel
  valid name ippool h := by
    rcases lookup_twoPools h with ⟨-, rfl⟩ | ⟨-, rfl⟩ <;> decide +kernel
  disjoint name ippool name' ippool' h h' hne := by
    rcases lookup_twoPools h with ⟨rfl, rfl⟩ | ⟨rfl, rfl⟩ <;>
      rcases lookup_twoPools h' with ⟨rfl, rfl⟩ | ⟨rfl, rfl⟩
    · exact absurd rfl hne
    · exact disjoint_twoPools.symm
    · exact disjoint_twoPools
    · exact absurd rfl hne
  distinct name ippool h := by rcases lookup_twoPools h with ⟨-, rfl⟩ | ⟨-, rfl⟩ <;> decide
  inside name ippool h a ha := by
    rcases lookup_twoPools h with ⟨-, rfl⟩ | ⟨-, rfl⟩
    · exact absurd ha List.not_mem_nil
    · obtain rfl := List.mem_singleton.mp ha
      exact mem_cidrSet_of_liesIn (show liesIn "10.0.0.0/26" "10.0.0.1" = true by decide +kernel)

/-- What the pods report: the pod of the first pool, a new pod in the second, and an address of no
pool. -/
def threeActive : AllocationMap :=
  AList.singleton "net" (((AList.singleton "10.0.0.1" ⟨"pod-a", "default", 0, "10.0.0.1"⟩).insert
    "10.0.0.66" ⟨"pod-b", "default", 0, "10.0.0.66"⟩).insert
    "10.0.9.9" ⟨"pod-c", "default", 0, "10.0.9.9"⟩)

theorem active_three : Active "net" threeActive := by
  intro ip a ha
  have ha : ((((∅ : GoMap String Allocation).insert "10.0.0.1"
    ⟨"pod-a", "default", 0, "10.0.0.1"⟩).insert "10.0.0.66" ⟨"pod-b", "default", 0, "10.0.0.66"⟩).insert
    "10.0.9.9" ⟨"pod-c", "default", 0, "10.0.9.9"⟩).lookup ip = some a := ha
  rcases GoMap.lookup_insert_cases ha with ⟨rfl, rfl⟩ | ⟨-, ha⟩
  · exact ⟨rfl, by decide +kernel⟩
  rcases GoMap.lookup_insert_cases ha with ⟨rfl, rfl⟩ | ⟨-, ha⟩
  · exact ⟨rfl, by decide +kernel⟩
  rcases GoMap.lookup_insert_cases ha with ⟨rfl, rfl⟩ | ⟨-, ha⟩
  · exact ⟨rfl, by decide +kernel⟩
  cases ha

/-- The stored record of `pod-a` is kept, `pod-b` comes in with its index, and the address of no
pool is left. -/
theorem syncPools_correct_two : ∃ s, syncPools twoPools threeActive
      (crAllocationMap (AList.singleton "net" poolHosts) twoPools) = some s ∧
    (∃ changed newAllocations, s.outputs.lookup "net-10.0.0.64-26" = some (changed, newAllocations) ∧
      newAllocations.Perm [⟨"pod-b", "default", 2, "10.0.0.66"⟩] ∧ changed = true) ∧
    s.allocationMap.find "net" "10.0.0.66" = none ∧
    s.allocationMap.find "net" "10.0.9.9" = some ⟨"pod-c", "default", 0, "10.0.9.9"⟩ := by
  have hcidr : (AList.singleton "net" poolHosts : GoMap String CIDRSpec).lookup "net" =
      some poolHosts := rfl
  obtain ⟨s, hs, hpools, hleft⟩ := syncPools_correct networkPools_two hcidr active_three
  have hsecond : twoPools.lookup "net-10.0.0.64-26" = some secondPool := rfl
  obtain ⟨changed, newAllocations, hout, hlist, hsame⟩ := hpools _ _ hsecond
  have hrule : ((threeActive.entriesOf secondPool.netAttachDefName).filter fun e =>
      liesIn secondPool.podCIDR e.1).map (fun e => syncedRecord secondPool e.2) =
      [⟨"pod-b", "default", 2, "10.0.0.66"⟩] := by decide +kernel
  rw [hrule] at hlist
  refine ⟨s, hs, ⟨changed, newAllocations, hout, hlist, ?_⟩, ?_, ?_⟩
  · cases changed with
    | true => rfl
    | false => exact absurd ((hsame rfl).symm.trans hlist).length_eq (by decide)
  · rw [hleft, if_pos (by decide +kernel)]
  · rw [hleft, if_neg (by decide +kernel)]
    rfl

end MultiNicCni.Controller
