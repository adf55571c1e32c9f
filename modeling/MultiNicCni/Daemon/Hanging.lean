import MultiNicCni.Daemon.Allocator
import MultiNicCni.Lib.Fold

/-!
# Hanging allocations (`CleanHangingAllocation` of `daemon/src/allocator/allocator.go`)

When the daemon starts, it looks up the pod of every allocation of its host and patches each
pool with the allocations whose lookup did not fail.

- `ApiAnswers`: what the API server answers to the list, to each pod lookup and to each patch;
- `cleanHangingAllocation`: the function;
- `lookup_cleanHangingAllocation`: each pool of the host keeps the allocations whose pod was
  found, every other pool is left alone;
- `removes_only_gone_iff`: **only allocations of pods that are gone are removed, exactly when
  no lookup fails for another reason.** The source does not look at the error.
-/

namespace MultiNicCni.Daemon

open Go Lib

/-! ## The function -/

/-- What `getPod` can answer. -/
inductive PodLookup where
  | found
  | notFound
  | failed
  deriving DecidableEq, Repr

/-- The answers of the API server: whether the pools could be listed, the answer to the lookup
for the allocation at a position of a pool, and whether the patch of a pool was accepted. -/
structure ApiAnswers where
  listed : Bool
  getPod : String → Nat → PodLookup
  patched : String → Bool

/-- The inner loop of `CleanHangingAllocation`. -/
def remains (getPod : Nat → PodLookup) (allocations : List Allocation) : List Allocation :=
  allocations.zipIdx.foldl
    (fun remains entry => if getPod entry.2 = .found then remains ++ [entry.1] else remains) []

/-- `ListIPPool` with the label selector of a host. -/
def listHostIPPool (pools : GoMap String IPPool) (hostName : String) : GoMap String IPPool :=
  pools.filter fun _ pool => pool.hostNameLabel == hostName

/-- The body of the loop over the pools. A patch that fails is only logged. -/
def cleanPool (answers : ApiAnswers) (pools : GoMap String IPPool)
    (entry : (_ : String) × IPPool) : GoMap String IPPool :=
  let remains := remains (answers.getPod entry.1) entry.2.spec.allocations
  if answers.patched entry.1 then patchIPPool entry.1 remains pools else pools

/-- `CleanHangingAllocation`: the stored pools afterwards, and whether it returned an error. -/
def cleanHangingAllocation (answers : ApiAnswers) (hostName : String)
    (pools : GoMap String IPPool) : GoMap String IPPool × Bool :=
  if answers.listed then
    ((listHostIPPool pools hostName).entries.foldl (cleanPool answers) pools, false)
  else (pools, true)

/-! ## Selecting positions of a list -/

/-- The elements at the positions that `kept` marks, in order. -/
def select {α : Type*} (kept : Nat → Bool) (l : List α) : List α :=
  (l.zipIdx.filter fun entry => kept entry.2).map (·.1)

theorem select_true {α : Type*} (l : List α) : select (fun _ => true) l = l := by
  simp [select]

theorem length_select {α : Type*} (kept : Nat → Bool) (l : List α) :
    (select kept l).length = (List.range l.length).countP kept := by
  have hsnd : l.zipIdx.map Prod.snd = List.range l.length := by
    rw [List.zipIdx_map_snd, List.range_eq_range']
  rw [select, List.length_map, ← List.countP_eq_length_filter, ← hsnd, List.countP_map]
  rfl

theorem remains_eq_select (getPod : Nat → PodLookup) (allocations : List Allocation) :
    remains getPod allocations = select (fun i => getPod i == .found) allocations := by
  have hloop : ∀ (l : List (Allocation × Nat)) (acc : List Allocation),
      l.foldl (fun remains entry =>
        if getPod entry.2 = .found then remains ++ [entry.1] else remains) acc =
      acc ++ (l.filter fun entry => getPod entry.2 == .found).map (·.1) := by
    intro l
    induction l with
    | nil => intro acc; simp
    | cons entry l ih =>
      intro acc
      rw [List.foldl_cons, ih]
      by_cases hfound : getPod entry.2 = .found
      · simp [hfound]
      · simp [hfound]
  exact hloop _ []

/-! ## What is left of each pool -/

theorem lookup_cleanPool_ne {answers : ApiAnswers} {pools : GoMap String IPPool}
    {entry : (_ : String) × IPPool} {name : String} (hne : name ≠ entry.1) :
    (cleanPool answers pools entry).lookup name = pools.lookup name := by
  unfold cleanPool patchIPPool
  dsimp only
  split
  · split
    · exact AList.lookup_insert_ne hne
    · rfl
  · rfl

theorem lookup_cleanPool_self (answers : ApiAnswers) (pools : GoMap String IPPool)
    (entry : (_ : String) × IPPool) :
    (cleanPool answers pools entry).lookup entry.1 =
      if answers.patched entry.1 then (pools.lookup entry.1).map fun pool =>
        pool.withAllocations (remains (answers.getPod entry.1) entry.2.spec.allocations)
      else pools.lookup entry.1 := by
  unfold cleanPool patchIPPool
  dsimp only
  split
  · cases hl : pools.lookup entry.1 with
    | none => exact hl
    | some pool => exact AList.lookup_insert _
  · rfl

/-- The pools of the host are patched with the allocations whose pod was found. -/
theorem lookup_cleanHangingAllocation (answers : ApiAnswers) (hostName : String)
    {pools : GoMap String IPPool} {name : String} {pool : IPPool}
    (hpool : pools.lookup name = some pool) :
    (cleanHangingAllocation answers hostName pools).1.lookup name =
      if answers.listed = true ∧ pool.hostNameLabel = hostName ∧ answers.patched name = true then
        some (pool.withAllocations (remains (answers.getPod name) pool.spec.allocations))
      else some pool := by
  unfold cleanHangingAllocation
  by_cases hlisted : answers.listed = true
  · have hrun : (listHostIPPool pools hostName).entries.foldlM
        (fun pools entry => some (cleanPool answers pools entry)) pools =
        some ((listHostIPPool pools hostName).entries.foldl (cleanPool answers) pools) :=
      List.foldlM_pure
    obtain ⟨hout, hin⟩ := foldlM_keyed
      (fun (pools : GoMap String IPPool) name => pools.lookup name)
      (fun name pool before after => after = if answers.patched name then before.map fun stored =>
        stored.withAllocations (remains (answers.getPod name) pool.spec.allocations) else before)
      (by
        rintro s s' e k h hne
        cases h
        exact lookup_cleanPool_ne hne)
      (by
        rintro s s' e - h
        cases h
        exact lookup_cleanPool_self answers s e)
      (listHostIPPool pools hostName).nodupKeys hrun name
    have hmem : ∀ v, (⟨name, v⟩ : (_ : String) × IPPool) ∈ (listHostIPPool pools hostName).entries ↔
        pools.lookup name = some v ∧ (v.hostNameLabel == hostName) = true := by
      intro v
      rw [← AList.mem_lookup_iff]
      exact GoMap.lookup_filter
    rw [if_pos hlisted]
    by_cases hhost : pool.hostNameLabel = hostName
    · have hnew := hin pool ((hmem pool).mpr ⟨hpool, beq_iff_eq.mpr hhost⟩)
      rw [hpool] at hnew
      refine hnew.trans ?_
      simp [hlisted, hhost]
    · have hold := hout fun v hv => by
        obtain ⟨hv, hlabel⟩ := (hmem v).mp hv
        rw [hpool] at hv
        cases hv
        exact hhost (beq_iff_eq.mp hlabel)
      rw [if_neg fun h => hhost h.2.1]
      exact hold.trans hpool
  · rw [if_neg hlisted, if_neg fun h => hlisted h.1]
    exact hpool

/-! ## Only allocations of pods that are gone are removed -/

/-- The pool after the cleaning: some positions of its list are kept, unchanged and in order,
and the pod of every other position was not found. -/
def OnlyGoneRemoved (getPod : Nat → PodLookup) (pool : IPPool) (after : Option IPPool) : Prop :=
  ∃ kept : Nat → Bool, after = some (pool.withAllocations (select kept pool.spec.allocations)) ∧
    ∀ i < pool.spec.allocations.length, kept i = false → getPod i = .notFound

theorem withAllocations_self (pool : IPPool) : pool.withAllocations pool.spec.allocations = pool :=
  rfl

/-- A pool that is not patched loses nothing. -/
theorem onlyGoneRemoved_self (getPod : Nat → PodLookup) (pool : IPPool) :
    OnlyGoneRemoved getPod pool (some pool) := by
  refine ⟨fun _ => true, ?_, nofun⟩
  rw [select_true, withAllocations_self]

/-- A patched pool loses only allocations of pods that are gone iff no lookup failed otherwise.
The number of allocations kept is the number of pods found, so a failed lookup costs one more
than there are pods gone. -/
theorem onlyGoneRemoved_remains_iff (getPod : Nat → PodLookup) (pool : IPPool) :
    OnlyGoneRemoved getPod pool
        (some (pool.withAllocations (remains getPod pool.spec.allocations))) ↔
      ∀ i < pool.spec.allocations.length, getPod i ≠ .failed := by
  rw [remains_eq_select]
  constructor
  · rintro ⟨kept, heq, hgone⟩ i hi hfailed
    have hlen : (select (fun i => getPod i == .found) pool.spec.allocations).length =
        (select kept pool.spec.allocations).length :=
      congrArg (fun after => (after.spec.allocations).length) (Option.some.inj heq)
    rw [length_select, length_select] at hlen
    have hle : ∀ j ∈ List.range pool.spec.allocations.length,
        (getPod j == .found) = true → kept j = true := by
      intro j hj hfound
      by_contra hkept
      have := hgone j (List.mem_range.mp hj) (by simpa using hkept)
      rw [this] at hfound
      cases hfound
    have hkept : kept i = true := by
      by_contra hkept
      have := hgone i hi (by simpa using hkept)
      rw [this] at hfailed
      cases hfailed
    -- every position whose pod was found is kept, and position `i` as well
    obtain ⟨before, after, hsplit⟩ := List.append_of_mem (List.mem_range.mpr hi)
    rw [hsplit] at hlen hle
    have hbefore := List.countP_mono_left fun j hj => hle j (List.mem_append_left _ hj)
    have hafter := List.countP_mono_left fun j hj =>
      hle j (List.mem_append_right _ (List.mem_cons_of_mem i hj))
    rw [List.countP_append, List.countP_append, List.countP_cons_of_pos hkept,
      List.countP_cons_of_neg (by simp [hfailed])] at hlen
    omega
  · intro hok
    refine ⟨fun i => getPod i == .found, rfl, fun i hi hkept => ?_⟩
    cases hi' : getPod i with
    | found => simp [hi'] at hkept
    | notFound => rfl
    | failed => exact absurd hi' (hok i hi)

/-- **A lookup that fails is taken for a pod that is gone.** The cleaning removes allocations of
pods that are gone only, in every pool, iff no lookup for an allocation of a pool that it lists
and patches fails for another reason. -/
theorem removes_only_gone_iff (answers : ApiAnswers) (hostName : String)
    (pools : GoMap String IPPool) :
    (∀ name pool, pools.lookup name = some pool →
        OnlyGoneRemoved (answers.getPod name) pool
          ((cleanHangingAllocation answers hostName pools).1.lookup name)) ↔
      ∀ name pool, pools.lookup name = some pool → answers.listed = true →
        pool.hostNameLabel = hostName → answers.patched name = true →
        ∀ i < pool.spec.allocations.length, answers.getPod name i ≠ .failed := by
  refine forall_congr' fun name => forall_congr' fun pool => forall_congr' fun hpool => ?_
  rw [lookup_cleanHangingAllocation answers hostName hpool]
  by_cases hcond : answers.listed = true ∧ pool.hostNameLabel = hostName ∧
      answers.patched name = true
  · rw [if_pos hcond, onlyGoneRemoved_remains_iff]
    exact ⟨fun h _ _ _ => h, fun h => h hcond.1 hcond.2.1 hcond.2.2⟩
  · rw [if_neg hcond]
    refine iff_of_true (onlyGoneRemoved_self _ pool) ?_
    intro hlisted hhost hpatched
    exact absurd ⟨hlisted, hhost, hpatched⟩ hcond

/-- A pool with one address, held by a pod. -/
def heldPool : IPPool :=
  ⟨"host-a", "net", ⟨"10.0.0.0/26", "10.0.0.0/18", "net", "host-a", "eth1", [],
    [⟨"pod-a", "default", 1, "10.0.0.1"⟩]⟩⟩

/-- The API server answers every pod lookup with a timeout: the pool is emptied, although no
lookup says that the pod is gone. -/
theorem failed_lookup_frees_address :
    ((cleanHangingAllocation ⟨true, fun _ _ => .failed, fun _ => true⟩ "host-a"
        (AList.singleton "net-10.0.0.0-26" heldPool)).1.lookup "net-10.0.0.0-26").map
      (fun pool => pool.spec.allocations) = some [] ∧
    ¬ OnlyGoneRemoved (fun _ => .failed) heldPool
      ((cleanHangingAllocation ⟨true, fun _ _ => .failed, fun _ => true⟩ "host-a"
        (AList.singleton "net-10.0.0.0-26" heldPool)).1.lookup "net-10.0.0.0-26") := by
  refine ⟨by decide +kernel, fun h => ?_⟩
  rw [lookup_cleanHangingAllocation _ _ (show _ = some heldPool by rfl), if_pos (by decide),
    onlyGoneRemoved_remains_iff] at h
  exact h 0 (by decide) rfl

end MultiNicCni.Daemon
