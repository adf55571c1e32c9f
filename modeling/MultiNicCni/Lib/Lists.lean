import Mathlib.Data.List.Basic
import Mathlib.Data.List.Count
import Mathlib.Tactic.Common

/-!
# Lists

What is used of lists and not found elsewhere: elements that satisfy a test at most once
(`eraseP_eq_filter`) or never (`filter_ne_of_nil`), tests that leave others
alone (`filter_eraseP`), and lists that are built element by element (`mapM_eq_some_filterMap`,
`flatMap_replicate_eq_filter_iff`, `count_flatMap_replicate`).
-/

namespace MultiNicCni.Lib

variable {α β : Type*}

/-- Of elements that satisfy `p` once at most, all are erased. -/
theorem eraseP_eq_filter {p : α → Bool} {l : List α} (h : (l.filter p).length ≤ 1) :
    l.eraseP p = l.filter fun a => !p a := by
  induction l with
  | nil => rfl
  | cons a l ih =>
    cases hp : p a with
    | true =>
      rw [List.filter_cons_of_pos hp, List.length_cons] at h
      have hnil : l.filter p = [] := List.length_eq_zero_iff.mp (by omega)
      rw [List.eraseP_cons_of_pos hp, List.filter_cons_of_neg (by simp [hp])]
      refine (List.filter_eq_self.mpr fun b hb => ?_).symm
      simpa using List.filter_eq_nil_iff.mp hnil b hb
    | false =>
      rw [List.filter_cons_of_neg (by simp [hp])] at h
      rw [List.eraseP_cons_of_neg (by simp [hp]), List.filter_cons_of_pos (by simp [hp]), ih h]

/-- If no element has a key, all have another one. -/
theorem filter_ne_of_nil [DecidableEq β] {key : α → β} {b : β} {l : List α}
    (h : l.filter (fun a => key a = b) = []) : l.filter (fun a => key a ≠ b) = l := by
  rw [List.filter_eq_self]
  intro a ha
  simpa using List.filter_eq_nil_iff.mp h a ha

/-- Erasing what satisfies one test leaves what satisfies another one. -/
theorem filter_eraseP {p q : α → Bool} (hpq : ∀ a, p a = true → q a = false)
    (l : List α) : (l.eraseP p).filter q = l.filter q := by
  induction l with
  | nil => rfl
  | cons a l ih =>
    cases hp : p a with
    | true => rw [List.eraseP_cons_of_pos hp, List.filter_cons, hpq a hp]; rfl
    | false =>
      rw [List.eraseP_cons_of_neg (by rw [hp]; exact Bool.false_ne_true), List.filter_cons,
        List.filter_cons, ih]

theorem mapM_eq_some_filterMap {f : α → Option β} {l : List α}
    (h : ∀ a ∈ l, (f a).isSome = true) : l.mapM f = some (l.filterMap f) := by
  induction l with
  | nil => rfl
  | cons a l ih =>
    obtain ⟨b, hb⟩ := Option.isSome_iff_exists.mp (h a List.mem_cons_self)
    rw [List.mapM_cons, hb, ih fun a' ha' => h a' (List.mem_cons_of_mem a ha'),
      List.filterMap_cons_some hb]
    rfl

/-- Repeating each element as often as it counts is filtering exactly when none counts twice. -/
theorem flatMap_replicate_eq_filter_iff (count : α → Nat) (l : List α) :
    (l.flatMap fun a => List.replicate (count a) a) = l.filter (fun a => decide (0 < count a)) ↔
      ∀ a ∈ l, count a ≤ 1 := by
  -- the repetitions are never fewer
  have hle : ∀ l : List α, (l.filter fun a => decide (0 < count a)).length ≤
      (l.flatMap fun a => List.replicate (count a) a).length := by
    intro l
    induction l with
    | nil => exact Nat.le_refl _
    | cons a l ih =>
      rw [List.flatMap_cons, List.length_append, List.length_replicate, List.filter_cons]
      split
      · next hpos =>
        have hpos := of_decide_eq_true hpos
        rw [List.length_cons]
        omega
      · omega
  induction l with
  | nil => simp
  | cons a l ih =>
    rw [List.flatMap_cons, List.filter_cons, List.forall_mem_cons]
    rcases Nat.lt_trichotomy (count a) 1 with hzero | hone | hmany
    · have h0 : count a = 0 := by omega
      simpa [h0] using ih
    · simpa [hone] using ih
    · refine iff_of_false (fun heq => ?_) fun h => by omega
      have hlen := congrArg List.length heq
      rw [if_pos (decide_eq_true (by omega)), List.length_append, List.length_replicate,
        List.length_cons] at hlen
      have := hle l
      omega

/-- Numbers listed as often as `t` says. -/
theorem count_flatMap_replicate (t : Nat → Nat) (n i : Nat) :
    ((List.range n).flatMap fun j => List.replicate (t j) (j : Int)).count (i : Int) =
      if i < n then t i else 0 := by
  induction n with
  | zero => rfl
  | succ n ih =>
    rw [List.range_succ, List.flatMap_append, List.count_append, ih, List.flatMap_singleton,
      List.count_replicate]
    have hbeq : ((n : Int) == i) = true ↔ i = n := by
      rw [beq_iff_eq]
      omega
    rcases Nat.lt_trichotomy i n with hlt | rfl | hgt
    · rw [if_pos hlt, if_neg (mt hbeq.mp (Nat.ne_of_lt hlt)), if_pos (Nat.lt_succ_of_lt hlt), Nat.add_zero]
    · rw [if_neg (Nat.lt_irrefl i), if_pos (hbeq.mpr rfl), if_pos (Nat.lt_succ_self i), Nat.zero_add]
    · rw [if_neg (by omega), if_neg (mt hbeq.mp (Nat.ne_of_gt hgt)), if_neg (by omega)]

end MultiNicCni.Lib
