import Mathlib.Data.List.Sort
import Mathlib.Tactic

/-!
# Gaps in increasing lists of integers

An index allocator looks for the least free number from `a` on, given the numbers in
use as a strictly increasing list. Two cases exhaust it:

- `IsRun a xs`: the list is `a, a + 1, …` without a gap;
- `IsGap a xs r`: `r` is the least number from `a` on that is not in the list, and the
  list goes on after it.

Both are decided by single positions: an increasing list from `a` on that holds the number of
a position there holds that of every position before it (`getElem_eq_add`). So it is a run if
its last position does (`isRun_of_last`), and the number of a position that does not, after one
that does, is a gap (`isGap_of_position`).
-/

namespace MultiNicCni.Lib

/-- The list is the run of consecutive numbers from `a`. -/
def IsRun (a : Int) (xs : List Int) : Prop :=
  xs = (List.range xs.length).map fun j : Nat => a + (j : Int)

/-- `r` is the least number from `a` on missing in the list, and not the end of it. -/
structure IsGap (a : Int) (xs : List Int) (r : Int) : Prop where
  le : a ≤ r
  not_mem : r ∉ xs
  below : ∀ j, a ≤ j → j < r → j ∈ xs
  lt : ∃ x ∈ xs, r < x

/-- A run has no gap. -/
theorem IsRun.not_isGap {a r : Int} {xs : List Int} (hrun : IsRun a xs) : ¬ IsGap a xs r := by
  intro hgap
  obtain ⟨x, hx, hlt⟩ := hgap.lt
  have hle := hgap.le
  rw [hrun, List.mem_map] at hx
  obtain ⟨j, hj, rfl⟩ := hx
  have hj := List.mem_range.mp hj
  refine hgap.not_mem ?_
  rw [hrun, List.mem_map]
  exact ⟨(r - a).toNat, List.mem_range.mpr (by omega), by omega⟩

/-- In a sorted list every number between two that are all there takes a position. -/
theorem position_add_le {xs : List Int} (hs : xs.Pairwise (· ≤ ·)) {a : Int} {m : Nat}
    (hfirst : ∀ p, xs[p]? = some a → m ≤ p) (d : Nat) {p : Nat}
    (hall : ∀ j, a ≤ j → j ≤ a + d → j ∈ xs) (hp : xs[p]? = some (a + d)) : m + d ≤ p := by
  induction d generalizing p with
  | zero => exact hfirst p (by rw [hp, Nat.cast_zero, Int.add_zero])
  | succ d ih =>
    obtain ⟨q, hq, hval⟩ := List.mem_iff_getElem.mp (hall (a + d) (by omega) (by omega))
    have hle : m + d ≤ q := ih (fun j h1 h2 => hall j h1 (by omega))
      (by rw [List.getElem?_eq_getElem hq, hval])
    obtain ⟨hlt, hval'⟩ := List.getElem?_eq_some_iff.mp hp
    by_contra hnot
    have := hs.rel_get_of_le (a := ⟨p, hlt⟩) (b := ⟨q, hq⟩) (show p ≤ q by omega)
    simp only [List.get_eq_getElem] at this
    omega

section Increasing

variable {a : Int} {xs : List Int} (hs : xs.Pairwise (· < ·))

include hs

/-- From one position to another an increasing list rises by their distance at the least. -/
theorem getElem_add_le {i j : Nat} (hij : i ≤ j) (hj : j < xs.length) :
    xs[i] + (j - i : Nat) ≤ xs[j] := by
  induction j, hij using Nat.le_induction with
  | base => simp
  | succ j hij ih =>
    have hlt : xs[j] < xs[j + 1] := List.pairwise_iff_getElem.mp hs j (j + 1) _ hj (by omega)
    have := ih (by omega)
    omega

/-- A gap of an increasing list lies below the last number. -/
theorem IsGap.lt_last {r : Int} (hgap : IsGap a xs r) :
    ∃ last, xs.getLast? = some last ∧ r < last := by
  obtain ⟨x, hx, hlt⟩ := hgap.lt
  have hne : xs ≠ [] := List.ne_nil_of_mem hx
  refine ⟨xs.getLast hne, List.getLast?_eq_some_getLast hne, lt_of_lt_of_le hlt ?_⟩
  obtain ⟨i, hi, rfl⟩ := List.getElem_of_mem hx
  rw [List.getLast_eq_getElem]
  have hrise := getElem_add_le hs (show i ≤ xs.length - 1 by omega) (by omega)
  omega

variable (hge : ∀ x ∈ xs, a ≤ x)

include hge

theorem add_le_getElem {k : Nat} (hk : k < xs.length) : a + k ≤ xs[k] := by
  have hfirst := hge xs[0] (List.getElem_mem _)
  have hrise := getElem_add_le hs (Nat.zero_le k) hk
  omega

/-- Up to a position that holds its own number every position does. -/
theorem getElem_eq_add {i k : Nat} (hik : i ≤ k) (hk : k < xs.length) (hown : xs[k] = a + k) :
    xs[i] = a + i := by
  have hle := add_le_getElem hs hge (show i < xs.length by omega)
  have hrise := getElem_add_le hs hik hk
  omega

/-- An increasing list from `a` on is a run if its last position holds its own number. -/
theorem isRun_of_last (hlast : xs.length ≤ 0 ∨ xs[xs.length - 1]? = some (a + (xs.length - 1 : Nat))) :
    IsRun a xs := by
  refine List.ext_getElem (by simp) fun i hi _ => ?_
  obtain ⟨hend, hown⟩ := List.getElem?_eq_some_iff.mp (hlast.resolve_left (by omega))
  rw [List.getElem_map, List.getElem_range]
  exact getElem_eq_add hs hge (by omega) hend hown

/-- The number of a position that does not hold it, after one that does, is a gap. -/
theorem isGap_of_position {k : Nat} (hk : k < xs.length) (hfails : xs[k]? ≠ some (a + k))
    (hbefore : k ≠ 0 → xs[k - 1]? = some (a + (k - 1 : Nat))) : IsGap a xs (a + k) := by
  have habove : a + k < xs[k] := by
    have hle := add_le_getElem hs hge hk
    have hne : xs[k] ≠ a + k := fun heq => hfails (by rw [List.getElem?_eq_getElem hk, heq])
    omega
  have hbelow : ∀ i (hi : i < k), xs[i] = a + i := by
    intro i hi
    obtain ⟨hend, hown⟩ := List.getElem?_eq_some_iff.mp (hbefore (by omega))
    exact getElem_eq_add hs hge (by omega) hend hown
  refine ⟨by omega, ?_, ?_, xs[k], List.getElem_mem hk, habove⟩
  · intro hmem
    obtain ⟨i, hi, heq⟩ := List.getElem_of_mem hmem
    by_cases hik : i < k
    · have := hbelow i hik
      omega
    · have := getElem_add_le hs (Nat.le_of_not_lt hik) hi
      omega
  · intro j hj hlt
    obtain ⟨i, rfl⟩ : ∃ i : Nat, j = a + i := ⟨(j - a).toNat, by omega⟩
    rw [← hbelow i (by omega)]
    exact List.getElem_mem _

end Increasing

end MultiNicCni.Lib
