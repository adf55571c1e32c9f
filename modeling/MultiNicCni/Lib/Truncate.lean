import Mathlib.Data.List.Sort
import Mathlib.Data.List.Count
import Mathlib.Tactic

/-!
# The first elements of a list

A selection keeps the first `n` elements of a list.

- `countP_take_eq_min_iff`: when as many of them pass a test as could at all;
- `countP_lt_of_mem_take`, `le_countP_of_mem_drop`: in a list sorted by decreasing key, an
  element is kept or dropped according to how many have a larger key;
- `exists_sorted_separating`: elements with the same key may come in any order, and that is the
  only freedom.
-/

namespace MultiNicCni.Lib

universe u

variable {α : Type u}

/-! ## Counting -/

section Count

variable {p q : α → Bool} {l : List α}

/-- A stronger test passes as often iff the weaker one implies it. -/
theorem countP_eq_iff_of_imp (h : ∀ a ∈ l, q a = true → p a = true) :
    l.countP q = l.countP p ↔ ∀ a ∈ l, p a = true → q a = true := by
  induction l with
  | nil => simp
  | cons a l ih =>
    have hle : l.countP q ≤ l.countP p :=
      List.countP_mono_left fun b hb => h b (List.mem_cons_of_mem a hb)
    rw [List.countP_cons, List.countP_cons, List.forall_mem_cons,
      ← ih fun b hb => h b (List.mem_cons_of_mem a hb)]
    cases hq : q a with
    | true => simp [h a List.mem_cons_self hq]
    | false =>
      cases hp : p a with
      | true => simpa using by omega
      | false => simp

/-- The same for the number of those kept. -/
theorem min_countP_eq_iff (h : ∀ a ∈ l, q a = true → p a = true) (n : Nat) :
    min n (l.countP q) = min n (l.countP p) ↔
      (∀ a ∈ l, p a = true → q a = true) ∨ n ≤ l.countP q := by
  have hle : l.countP q ≤ l.countP p := List.countP_mono_left h
  rw [← countP_eq_iff_of_imp h]
  omega

/-- Of the first `n` elements as many pass the stronger test as elements pass the weaker one, up
to `n`: the first ones that pass the weaker test pass the stronger one, and either all of them
pass it or none after them does. -/
theorem countP_take_eq_min_iff (h : ∀ a ∈ l, q a = true → p a = true) (n : Nat) :
    (l.take n).countP q = min n (l.countP p) ↔
      (∀ a ∈ l.take n, p a = true → q a = true) ∧
        ((∀ a ∈ l.take n, p a = true) ∨ ∀ a ∈ l.drop n, ¬ p a = true) := by
  have htake : ∀ a ∈ l.take n, q a = true → p a = true :=
    fun a ha => h a (List.mem_of_mem_take ha)
  have hle : (l.take n).countP q ≤ (l.take n).countP p := List.countP_mono_left htake
  have hlen : (l.take n).countP p ≤ (l.take n).length := List.countP_le_length
  have hsplit : l.countP p = (l.take n).countP p + (l.drop n).countP p := by
    rw [← List.countP_append, List.take_append_drop]
  have hdrop : (l.drop n).countP p ≤ (l.drop n).length := List.countP_le_length
  rw [← countP_eq_iff_of_imp htake, ← List.countP_eq_length, ← List.countP_eq_zero, hsplit]
  rw [List.length_take] at hlen ⊢
  rw [List.length_drop] at hdrop
  omega

end Count

/-! ## Ranks in a sorted list -/

section Rank

variable {key : α → Nat} {l : List α} {n : Nat}

/-- The elements before one of the first `n`. -/
theorem split_of_mem_take {a : α} (ha : a ∈ l.take n) :
    ∃ before after, l = before ++ a :: after ∧ before.length < n := by
  obtain ⟨before, after, hsplit⟩ := List.append_of_mem ha
  refine ⟨before, after ++ l.drop n, ?_, ?_⟩
  · rw [← List.cons_append, ← List.append_assoc, ← hsplit, List.take_append_drop]
  · have hlen := congrArg List.length hsplit
    rw [List.length_take, List.length_append, List.length_cons] at hlen
    omega

/-- The elements before one of the others. -/
theorem split_of_mem_drop {a : α} (ha : a ∈ l.drop n) :
    ∃ before after, l = before ++ a :: after ∧ n ≤ before.length := by
  obtain ⟨before, after, hsplit⟩ := List.append_of_mem ha
  refine ⟨l.take n ++ before, after, ?_, ?_⟩
  · rw [List.append_assoc, ← hsplit, List.take_append_drop]
  · have hlen := congrArg List.length hsplit
    have hpos := List.length_pos_of_mem ha
    rw [List.length_drop] at hlen hpos
    rw [List.length_append, List.length_take]
    omega

/-- Fewer than `n` elements have a larger key than one of the first `n`. -/
theorem countP_lt_of_mem_take (hsorted : l.Pairwise fun a b => key b ≤ key a) {a : α}
    (ha : a ∈ l.take n) : l.countP (fun b => decide (key a < key b)) < n := by
  obtain ⟨before, after, rfl, hlen⟩ := split_of_mem_take ha
  obtain ⟨-, hafter, -⟩ := List.pairwise_append.mp hsorted
  have hzero : (a :: after).countP (fun b => decide (key a < key b)) = 0 := by
    rw [List.countP_eq_zero]
    intro b hb
    rcases List.mem_cons.mp hb with rfl | hb
    · simp
    · simpa using (List.pairwise_cons.mp hafter).1 b hb
  rw [List.countP_append, hzero]
  exact lt_of_le_of_lt List.countP_le_length hlen

/-- At least `n` others have a key as large as one that is not among the first `n`. -/
theorem le_countP_of_mem_drop [DecidableEq α] (hsorted : l.Pairwise fun a b => key b ≤ key a)
    (hnodup : l.Nodup) {a : α} (ha : a ∈ l.drop n) :
    n ≤ l.countP fun b => decide (b ≠ a ∧ key a ≤ key b) := by
  obtain ⟨before, after, rfl, hlen⟩ := split_of_mem_drop ha
  have hbefore : before.countP (fun b => decide (b ≠ a ∧ key a ≤ key b)) = before.length := by
    rw [List.countP_eq_length]
    intro b hb
    have hkey := (List.pairwise_append.mp hsorted).2.2 b hb a List.mem_cons_self
    have hne := (List.nodup_append.mp hnodup).2.2 b hb a List.mem_cons_self
    exact decide_eq_true ⟨hne, hkey⟩
  rw [List.countP_append, hbefore]
  exact hlen.trans (Nat.le_add_right _ _)

/-- Sorting by decreasing key. -/
def sortDown (key : α → Nat) (l : List α) : List α := l.insertionSort fun a b => key b ≤ key a

theorem sortDown_perm (key : α → Nat) (l : List α) : (sortDown key l).Perm l :=
  List.perm_insertionSort _ l

theorem sortDown_sorted (key : α → Nat) (l : List α) :
    (sortDown key l).Pairwise fun a b => key b ≤ key a := by
  have : Std.Total fun a b : α => key b ≤ key a := ⟨fun a b => le_total (key b) (key a)⟩
  have : IsTrans α fun a b => key b ≤ key a := ⟨fun a b c hab hbc => le_trans hbc hab⟩
  exact List.pairwise_insertionSort _ l

/-- If fewer than `n` elements have a larger key than `a`, and at least `n` others have a key as
large as `b`, then some order by decreasing key has `a` among the first `n` and `b` not. -/
theorem exists_sorted_separating [DecidableEq α] (hnodup : l.Nodup) {a b : α} (ha : a ∈ l)
    (hb : b ∈ l) (hne : a ≠ b) (hfirst : l.countP (fun c => decide (key a < key c)) < n)
    (hlast : n ≤ l.countP fun c => decide (c ≠ b ∧ key b ≤ key c)) :
    ∃ l' : List α, l'.Perm l ∧ l'.Pairwise (fun c d => key d ≤ key c) ∧
      a ∈ l'.take n ∧ b ∈ l'.drop n := by
  -- a finer key: `a` comes first among its equals, `b` last
  let rank : α → Nat := fun c => 3 * key c + if c = a then 2 else if c = b then 0 else 1
  have hrank : ∀ c d, rank d ≤ rank c → key d ≤ key c := by
    intro c d hle
    dsimp only [rank] at hle
    split_ifs at hle <;> omega
  have hperm := sortDown_perm rank l
  have hsorted := sortDown_sorted rank l
  have hcases : ∀ c ∈ l, c ∈ (sortDown rank l).take n ∨ c ∈ (sortDown rank l).drop n := by
    intro c hc
    rw [← List.mem_append, List.take_append_drop]
    exact hperm.mem_iff.mpr hc
  refine ⟨sortDown rank l, hperm, hsorted.imp fun {c d} => hrank c d, ?_, ?_⟩
  · refine (hcases a ha).resolve_right fun hdrop => ?_
    have hle := le_countP_of_mem_drop hsorted (hperm.nodup_iff.mpr hnodup) hdrop
    rw [hperm.countP_eq] at hle
    refine absurd hfirst (not_lt.mpr (hle.trans (List.countP_mono_left ?_)))
    intro c _ hc
    obtain ⟨hca, hc⟩ := of_decide_eq_true hc
    dsimp only [rank] at hc
    rw [if_pos rfl, if_neg hca] at hc
    refine decide_eq_true ?_
    split_ifs at hc <;> omega
  · refine (hcases b hb).resolve_left fun htake => ?_
    have hlt := countP_lt_of_mem_take hsorted htake
    rw [hperm.countP_eq] at hlt
    refine absurd hlt (not_lt.mpr (hlast.trans (List.countP_mono_left ?_)))
    intro c _ hc
    obtain ⟨hcb, hc⟩ := of_decide_eq_true hc
    refine decide_eq_true ?_
    dsimp only [rank]
    rw [if_neg hne.symm, if_pos rfl, if_neg hcb]
    split_ifs <;> omega

end Rank

end MultiNicCni.Lib
