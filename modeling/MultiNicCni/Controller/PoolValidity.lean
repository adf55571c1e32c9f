import MultiNicCni.Excludes
import MultiNicCni.Lib.Fold
import MultiNicCni.Lib.Lists

/-!
# The allocations that a new exclude list covers (`checkPoolValidity`)

When the excludes of a pool change, `UpdateIPPool` reports the allocations that now lie inside one
of them. The excludes come from `extractMatchExcludesFromPodCIDR`, which also accepts bare
addresses; `checkPoolValidity` parses each of them as a CIDR, drops the error, and goes on after a
match.

- `AddressExcluded`: the address lies in an exclude of the list;
- `checkPoolValidity_eq`: an allocation is reported once for each exclude around it, and nothing
  is reported when one of the excludes is a bare address: the function panics;
- `checkPoolValidity_reports_iff`: **the report is the list of the excluded allocations exactly
  when there is no bare address and no allocation in two excludes**.
-/

namespace MultiNicCni.Controller

open Go Compute Lib

variable {a : IP4} {address : String} {excludes : List String}

/-! ## The rule -/

/-- The address lies in the exclude. -/
def inExclude (address exclude : String) : Bool :=
  match parseIP address, excludeOf exclude with
  | some a, some (ip, q) => decide (ip.toNat / 2 ^ (32 - q) = a.toNat / 2 ^ (32 - q))
  | _, _ => false

/-- The address lies in an exclude of the list. -/
def AddressExcluded (excludes : List String) (address : String) : Prop :=
  ∃ a, parseIP address = some a ∧ ∃ exclude ∈ excludes, a ∈ excludedSet exclude

/-- The excludes of the list that the address lies in, repetitions included. -/
def timesExcluded (excludes : List String) (address : String) : Nat :=
  excludes.countP (inExclude address)

theorem inExclude_iff {exclude : String} (ha : parseIP address = some a)
    (hx : ∃ e, excludeOf exclude = some e) :
    inExclude address exclude = true ↔ a ∈ excludedSet exclude := by
  obtain ⟨⟨ip, q⟩, hx⟩ := hx
  rw [mem_excludedSet hx, inExclude, ha, hx]
  exact decide_eq_true_iff

/-- On a CIDR it is what the code checks. -/
theorem inExclude_cidr {exclude : String} {ip : IP4} {n : IPNet} (ha : parseIP address = some a)
    (hx : parseCIDR exclude = some (ip, n)) : inExclude address exclude = n.contains a := by
  have hof : excludeOf exclude = some (ip, n.ones) := by rw [excludeOf, hx]
  rw [Bool.eq_iff_iff, inExclude_iff ha ⟨_, hof⟩, mem_excludedSet hof, n.contains_iff]
  obtain ⟨-, -, -, -, -, hip⟩ := parseCIDR_eq_some hx
  rw [hip, IP4.toNat_mask, Nat.mul_div_cancel _ (Nat.two_pow_pos _)]

theorem addressExcluded_iff (ha : parseIP address = some a)
    (hx : ∀ x ∈ excludes, ∃ e, excludeOf x = some e) :
    AddressExcluded excludes address ↔ 0 < timesExcluded excludes address := by
  rw [timesExcluded, List.countP_pos_iff]
  constructor
  · rintro ⟨a', ha', x, hmem, hin⟩
    obtain rfl : a = a' := Option.some.inj (ha.symm.trans ha')
    exact ⟨x, hmem, (inExclude_iff ha (hx x hmem)).mpr hin⟩
  · rintro ⟨x, hmem, hin⟩
    exact ⟨a, ha, x, hmem, (inExclude_iff ha (hx x hmem)).mp hin⟩

/-! ## What is reported -/

/-- The body of the loop over the excludes. -/
def checkExclude (allocation : Allocation) (invalid : List Allocation) (cidr : String) :
    Option (List Allocation) := do
  let (_, subnet) ← parseCIDR cidr
  match parseCIDR (allocation.address ++ "/32") with
  | some (ip, _) => some (if subnet.contains ip then invalid ++ [allocation] else invalid)
  | none => some invalid

theorem checkPoolValidity_loops (excludeCIDRs : List String) (allocations : List Allocation) :
    checkPoolValidity excludeCIDRs allocations =
      allocations.foldlM (fun invalid a => excludeCIDRs.foldlM (checkExclude a) invalid) [] := rfl

/-- All the excludes are CIDRs. -/
def AllCIDRs (excludes : List String) : Prop := ∀ x ∈ excludes, (parseCIDR x).isSome = true

instance (excludes : List String) : Decidable (AllCIDRs excludes) :=
  inferInstanceAs (Decidable (∀ x ∈ excludes, _))

section Loop

variable {allocation : Allocation} (ha : parseIP allocation.address = some a)
include ha

theorem checkExclude_cidr (invalid : List Allocation) {cidr : String} {e : IP4 × IPNet}
    (hx : parseCIDR cidr = some e) :
    checkExclude allocation invalid cidr =
      some (invalid ++ if inExclude allocation.address cidr then [allocation] else []) := by
  obtain ⟨ip, n⟩ := e
  rw [inExclude_cidr ha hx, checkExclude, hx, Option.bind_eq_bind, Option.bind_some]
  dsimp only
  rw [parseCIDR_host ha]
  dsimp only
  split
  · rfl
  · rw [List.append_nil]

/-- The loop over the excludes reports the allocation once for each exclude around it. -/
theorem checkExcludes_cidrs (hx : AllCIDRs excludes) (invalid : List Allocation) :
    excludes.foldlM (checkExclude allocation) invalid =
      some (invalid ++ List.replicate (timesExcluded excludes allocation.address) allocation) := by
  induction excludes generalizing invalid with
  | nil => exact congrArg some (List.append_nil invalid).symm
  | cons x excludes ih =>
    obtain ⟨e, he⟩ := Option.isSome_iff_exists.mp (hx x List.mem_cons_self)
    rw [List.foldlM_cons, checkExclude_cidr ha invalid he, Option.bind_eq_bind, Option.bind_some,
      ih fun y hy => hx y (List.mem_cons_of_mem x hy), timesExcluded, timesExcluded,
      List.countP_cons, List.append_assoc]
    by_cases hin : inExclude allocation.address x = true
    · rw [if_pos hin, if_pos hin, List.replicate_succ, List.singleton_append]
    · rw [if_neg hin, if_neg hin, Nat.add_zero, List.nil_append]

omit ha in
/-- An exclude that is no CIDR is a `nil` network, on which `Contains` panics. -/
theorem checkExcludes_panics (hx : ¬ AllCIDRs excludes) (invalid : List Allocation) :
    excludes.foldlM (checkExclude allocation) invalid = none := by
  induction excludes generalizing invalid with
  | nil => exact absurd (fun x hmem => absurd hmem List.not_mem_nil) hx
  | cons x excludes ih =>
    rw [List.foldlM_cons]
    cases hparse : parseCIDR x with
    | none =>
      rw [checkExclude, hparse]
      rfl
    | some e =>
      have hrest : ¬ AllCIDRs excludes := by
        intro hall
        refine hx fun y hy => ?_
        rcases List.mem_cons.mp hy with rfl | hy
        · rw [hparse]
          rfl
        · exact hall y hy
      cases hcheck : checkExclude allocation invalid x with
      | none => rfl
      | some invalid' => exact ih hrest invalid'

end Loop

/-- **An allocation is reported once for each exclude around it**, and the function panics on an
exclude that is no CIDR as soon as there is an allocation. -/
theorem checkPoolValidity_eq (excludes : List String) {allocations : List Allocation}
    (hvalid : ∀ a ∈ allocations, (parseIP a.address).isSome = true) :
    checkPoolValidity excludes allocations =
      if allocations = [] ∨ AllCIDRs excludes then
        some (allocations.flatMap fun a => List.replicate (timesExcluded excludes a.address) a)
      else none := by
  rw [checkPoolValidity_loops]
  by_cases hx : AllCIDRs excludes
  · rw [if_pos (Or.inr hx)]
    suffices hall : ∀ invalid : List Allocation,
        allocations.foldlM (fun invalid a => excludes.foldlM (checkExclude a) invalid) invalid =
          some (invalid ++ allocations.flatMap fun a =>
            List.replicate (timesExcluded excludes a.address) a) from hall []
    induction allocations with
    | nil => exact fun invalid => congrArg some (List.append_nil invalid).symm
    | cons b allocations ih =>
      intro invalid
      obtain ⟨a, ha⟩ := Option.isSome_iff_exists.mp (hvalid b List.mem_cons_self)
      rw [List.foldlM_cons, checkExcludes_cidrs ha hx, Option.bind_eq_bind, Option.bind_some,
        ih fun c hc => hvalid c (List.mem_cons_of_mem b hc), List.flatMap_cons, List.append_assoc]
  · cases allocations with
    | nil =>
      rw [if_pos (Or.inl rfl)]
      rfl
    | cons b allocations =>
      rw [if_neg (not_or.mpr ⟨List.cons_ne_nil b allocations, hx⟩), List.foldlM_cons,
        checkExcludes_panics hx]
      rfl

/-! ## When the report is right -/

/-- The stored excludes are among the given ones. -/
theorem mem_of_extract {podCIDR : String} {items : List IPValue} {stored : List String}
    (h : extractMatchExcludesFromPodCIDR podCIDR items = some stored) {x : String}
    (hx : x ∈ stored) : ∃ item ∈ items, item.address = x := by
  induction items generalizing stored with
  | nil =>
    cases h
    cases hx
  | cons item items ih =>
    rw [extractMatchExcludesFromPodCIDR] at h
    obtain ⟨inside, -, h⟩ := Option.bind_eq_some_iff.mp h
    obtain ⟨rest, hrest, h⟩ := Option.bind_eq_some_iff.mp h
    have hcases : x = item.address ∨ x ∈ rest := by
      cases h
      split at hx
      · exact List.mem_cons.mp hx
      · exact Or.inr hx
    rcases hcases with rfl | hmem
    · exact ⟨item, List.mem_cons_self, rfl⟩
    · obtain ⟨item', hitem', heq⟩ := ih hrest hmem
      exact ⟨item', List.mem_cons_of_mem item hitem', heq⟩

open Classical in
/-- **The excluded allocations are reported, in order and once each, exactly when no stored exclude
is a bare address (or there is no allocation to check) and no allocation lies in two of them.** -/
theorem checkPoolValidity_reports_iff {podCIDR : String} {items : List IPValue}
    {stored : List String}
    (hitems : ∀ item ∈ items,
      (∃ e, parseCIDR item.address = some e) ∨ ∃ a, parseIP item.address = some a)
    (hstored : extractMatchExcludesFromPodCIDR podCIDR items = some stored)
    {allocations : List Allocation}
    (hvalid : ∀ a ∈ allocations, (parseIP a.address).isSome = true) :
    checkPoolValidity stored allocations =
        some (allocations.filter fun a => decide (AddressExcluded stored a.address)) ↔
      (allocations = [] ∨ AllCIDRs stored) ∧
        ∀ a ∈ allocations, timesExcluded stored a.address ≤ 1 := by
  have hexcludes : ∀ x ∈ stored, ∃ e, excludeOf x = some e := by
    intro x hx
    obtain ⟨item, hitem, rfl⟩ := mem_of_extract hstored hx
    exact exists_excludeOf (hitems item hitem)
  have hfilter : (allocations.filter fun a => decide (AddressExcluded stored a.address)) =
      allocations.filter fun a => decide (0 < timesExcluded stored a.address) := by
    refine List.filter_congr fun a ha => ?_
    obtain ⟨ip, hip⟩ := Option.isSome_iff_exists.mp (hvalid a ha)
    exact decide_eq_decide.mpr (addressExcluded_iff hip hexcludes)
  rw [checkPoolValidity_eq stored hvalid, hfilter]
  split
  · next hruns => rw [Option.some_inj, flatMap_replicate_eq_filter_iff, and_iff_right hruns]
  · next hpanics => exact iff_of_false (by simp) fun h => hpanics h.1

/-- An allocation with the address. -/
def allocatedAt (address : String) : Allocation := ⟨"pod", "default", 5, address⟩

open Classical in
theorem checkPoolValidity_reports_range :
    checkPoolValidity ["10.0.0.8/30"] [allocatedAt "10.0.0.9", allocatedAt "10.0.0.20"] =
      some ([allocatedAt "10.0.0.9", allocatedAt "10.0.0.20"].filter fun a =>
        decide (AddressExcluded ["10.0.0.8/30"] a.address)) := by
  have hitems : ∀ item ∈ sortAddress ["10.0.0.8/30"],
      (∃ e, parseCIDR item.address = some e) ∨ ∃ a, parseIP item.address = some a := by
    intro item hitem
    obtain rfl := List.mem_singleton.mp (show item ∈ [getIPValue "10.0.0.8/30"] from hitem)
    exact Or.inl (Option.isSome_iff_exists.mp
      (show (parseCIDR "10.0.0.8/30").isSome = true by decide +kernel))
  have hstored : extractMatchExcludesFromPodCIDR "10.0.0.0/24" (sortAddress ["10.0.0.8/30"]) =
      some ["10.0.0.8/30"] := by decide +kernel
  exact (checkPoolValidity_reports_iff hitems hstored (by decide +kernel)).mpr
    ⟨Or.inr (by decide +kernel), by decide +kernel⟩

/-- A bare address is stored in the pool and panics, and an allocation in two overlapping excludes
is reported twice. -/
theorem checkPoolValidity_misreports :
    (extractMatchExcludesFromPodCIDR "10.0.0.0/24" (sortAddress ["10.0.0.5"]) = some ["10.0.0.5"] ∧
      checkPoolValidity ["10.0.0.5"] [allocatedAt "10.0.0.5"] = none) ∧
    extractMatchExcludesFromPodCIDR "10.0.0.0/24" (sortAddress ["10.0.0.0/25", "10.0.0.4/30"]) =
        some ["10.0.0.0/25", "10.0.0.4/30"] ∧
      checkPoolValidity ["10.0.0.0/25", "10.0.0.4/30"] [allocatedAt "10.0.0.5"] =
        some [allocatedAt "10.0.0.5", allocatedAt "10.0.0.5"] := by
  decide +kernel

end MultiNicCni.Controller
