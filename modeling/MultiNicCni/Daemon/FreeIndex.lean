import MultiNicCni.Compute.Index
import MultiNicCni.Daemon.Allocator

/-!
# The search for a free index, in the controller and in the daemon

`FindAvailableIndex` is written twice, in the `compute` package of the controller and in the
allocator of the daemon. Both models bound the depth of the recursion by the length of the
list; here the recursion is also given without a bound, as the relation between its arguments
and what it returns after finitely many calls.

- `Compute.Returns`, `Daemon.Returns`: a call returns a value, one rule for each `return`;
- `Compute.returns_findAvailableIndex`, `Daemon.returns_findAvailableIndex`: **every call
  returns**, on any list, and what it returns is what the models compute. A list of one index
  is never searched further: its first index is its last one;
- `findAvailableIndex_leastGap`: on increasing indexes the answer is the least gap below the
  last index, or -1 if there is none, and the two searches agree on every list.
-/

namespace MultiNicCni

open Go Lib

/-! ## The recursion of the `compute` package -/

namespace Compute

/-- `FindAvailableIndex(indexes, leftIndex, startIndex)` returns a value. -/
inductive Returns (startIndex : Int) : List Int → Int → Int → Prop
  | empty (leftIndex : Int) : Returns startIndex [] leftIndex (-1)
  | full {indexes : List Int} {leftIndex last : Int} (hlast : indexes.getLast? = some last)
      (h : last - leftIndex = (indexes.length : Int) - 1 + startIndex) :
      Returns startIndex indexes leftIndex (-1)
  | first {indexes : List Int} {leftIndex first last : Int}
      (hlast : indexes.getLast? = some last)
      (h : last - leftIndex ≠ (indexes.length : Int) - 1 + startIndex)
      (hfirst : indexes.head? = some first) (hne : first ≠ leftIndex + startIndex) :
      Returns startIndex indexes leftIndex (leftIndex + startIndex)
  | left {indexes : List Int} {leftIndex last leftResult : Int}
      (hlast : indexes.getLast? = some last)
      (h : last - leftIndex ≠ (indexes.length : Int) - 1 + startIndex)
      (hfirst : indexes.head? = some (leftIndex + startIndex))
      (hleft : Returns startIndex (indexes.take (indexes.length / 2)) leftIndex leftResult)
      (hne : leftResult ≠ -1) : Returns startIndex indexes leftIndex leftResult
  | right {indexes : List Int} {leftIndex last rightResult : Int}
      (hlast : indexes.getLast? = some last)
      (h : last - leftIndex ≠ (indexes.length : Int) - 1 + startIndex)
      (hfirst : indexes.head? = some (leftIndex + startIndex))
      (hleft : Returns startIndex (indexes.take (indexes.length / 2)) leftIndex (-1))
      (hright : Returns startIndex (indexes.drop (indexes.length / 2))
        (leftIndex + (indexes.length / 2 : Nat)) rightResult) :
      Returns startIndex indexes leftIndex rightResult

/-- A search that goes on has two indexes at least, so that both halves are shorter. -/
theorem two_le_length {indexes : List Int} {leftIndex startIndex last : Int}
    (hlast : indexes.getLast? = some last)
    (h : last - leftIndex ≠ (indexes.length : Int) - 1 + startIndex)
    (hfirst : indexes.head? = some (leftIndex + startIndex)) : 2 ≤ indexes.length := by
  match indexes, hlast, h, hfirst with
  | [], hlast, _, _ => cases hlast
  | [first], hlast, h, hfirst =>
    cases hlast
    cases hfirst
    exact absurd (show leftIndex + startIndex - leftIndex = ((1 : Nat) : Int) - 1 + startIndex by
      omega) h
  | _ :: _ :: rest, _, _, _ =>
    rw [List.length_cons, List.length_cons]
    omega

/-- A depth of the length of the list is enough. -/
theorem returns_findAvailableIndexAux (startIndex : Int) (fuel : Nat) {indexes : List Int}
    (hfuel : indexes.length ≤ fuel) (leftIndex : Int) :
    Returns startIndex indexes leftIndex
      (findAvailableIndexAux fuel indexes leftIndex startIndex) := by
  induction fuel generalizing indexes leftIndex with
  | zero =>
    obtain rfl := List.length_eq_zero_iff.mp (Nat.le_zero.mp hfuel)
    exact .empty leftIndex
  | succ fuel ih =>
    cases hindexes : indexes with
    | nil => exact .empty leftIndex
    | cons first rest =>
      rw [← hindexes]
      have hfirst : indexes.head? = some first := by rw [hindexes, List.head?_cons]
      obtain ⟨last, hlast⟩ : ∃ last, indexes.getLast? = some last :=
        ⟨_, List.getLast?_eq_some_getLast (hindexes ▸ List.cons_ne_nil first rest)⟩
      rw [findAvailableIndexAux_succ fuel leftIndex startIndex hfirst hlast]
      by_cases hfull : last = leftIndex + startIndex + indexes.length - 1
      · rw [if_pos hfull]
        exact .full hlast (by omega)
      have hnot : last - leftIndex ≠ (indexes.length : Int) - 1 + startIndex := by omega
      rw [if_neg hfull]
      by_cases hne : first ≠ leftIndex + startIndex
      · rw [if_pos hne]
        exact .first hlast hnot hfirst hne
      rw [if_neg hne]
      rw [not_not.mp hne] at hfirst
      have htwo := two_le_length hlast hnot hfirst
      have hleft := ih (show (indexes.take (indexes.length / 2)).length ≤ fuel by
        rw [List.length_take]
        omega) leftIndex
      by_cases hfound : findAvailableIndexAux fuel (indexes.take (indexes.length / 2)) leftIndex
          startIndex ≠ -1
      · rw [if_pos hfound]
        exact .left hlast hnot hfirst hleft hfound
      · rw [if_neg hfound]
        rw [not_not.mp hfound] at hleft
        refine .right hlast hnot hfirst hleft (ih ?_ _)
        rw [List.length_drop]
        omega

theorem returns_findAvailableIndex (indexes : List Int) (leftIndex startIndex : Int) :
    Returns startIndex indexes leftIndex (findAvailableIndex indexes leftIndex startIndex) :=
  returns_findAvailableIndexAux startIndex indexes.length le_rfl leftIndex

end Compute

/-! ## The recursion of the allocator -/

namespace Daemon

open Compute

/-- `FindAvailableIndex(indexes, leftIndex)` returns a value. -/
inductive Returns : List Int → Int → Int → Prop
  | empty (leftIndex : Int) : Returns [] leftIndex (-1)
  | full {indexes : List Int} {leftIndex last : Int} (hlast : indexes.getLast? = some last)
      (h : last - leftIndex = indexes.length) : Returns indexes leftIndex (-1)
  | first {indexes : List Int} {leftIndex first last : Int}
      (hlast : indexes.getLast? = some last) (h : last - leftIndex ≠ indexes.length)
      (hfirst : indexes.head? = some first) (hne : first ≠ leftIndex + 1) :
      Returns indexes leftIndex (leftIndex + 1)
  | left {indexes : List Int} {leftIndex last leftResult : Int}
      (hlast : indexes.getLast? = some last) (h : last - leftIndex ≠ indexes.length)
      (hfirst : indexes.head? = some (leftIndex + 1))
      (hleft : Returns (indexes.take (indexes.length / 2)) leftIndex leftResult)
      (hne : leftResult ≠ -1) : Returns indexes leftIndex leftResult
  | right {indexes : List Int} {leftIndex last rightResult : Int}
      (hlast : indexes.getLast? = some last) (h : last - leftIndex ≠ indexes.length)
      (hfirst : indexes.head? = some (leftIndex + 1))
      (hleft : Returns (indexes.take (indexes.length / 2)) leftIndex (-1))
      (hright : Returns (indexes.drop (indexes.length / 2))
        (leftIndex + (indexes.length / 2 : Nat)) rightResult) :
      Returns indexes leftIndex rightResult

/-- The two recursions make the same calls. -/
theorem returns_of_compute {indexes : List Int} {leftIndex result : Int}
    (h : Compute.Returns 1 indexes leftIndex result) : Returns indexes leftIndex result := by
  induction h with
  | empty leftIndex => exact .empty leftIndex
  | full hlast h => exact .full hlast (by omega)
  | first hlast h hfirst hne => exact .first hlast (by omega) hfirst hne
  | left hlast h hfirst _ hne ih => exact .left hlast (by omega) hfirst ih hne
  | right hlast h hfirst _ _ ihleft ihright => exact .right hlast (by omega) hfirst ihleft ihright

theorem returns_findAvailableIndex (indexes : List Int) (leftIndex : Int) :
    Returns indexes leftIndex (findAvailableIndex indexes leftIndex) := by
  rw [findAvailableIndex_eq_compute]
  exact returns_of_compute (Compute.returns_findAvailableIndex indexes leftIndex 1)

end Daemon

/-! ## The answer -/

section Answer

open Compute

variable {xs : List Int} {left start : Int}

/-- **On increasing indexes from `left + start` on the answer is -1 for the run without a gap, and
otherwise the least free index, below the last one.** The daemon's search is the controller's
from 1 on, and both return on every list. -/
theorem findAvailableIndex_leastGap (h0 : 0 ≤ left + start) (hs : xs.Pairwise (· < ·))
    (hge : ∀ x ∈ xs, left + start ≤ x) :
    ((findAvailableIndex xs left start = -1 ↔ xs = [] ∨ IsRun (left + start) xs) ∧
      (findAvailableIndex xs left start ≠ -1 →
        IsGap (left + start) xs (findAvailableIndex xs left start) ∧
          ∃ last, xs.getLast? = some last ∧ findAvailableIndex xs left start < last)) ∧
      (∀ (indexes : List Int) (leftIndex : Int),
        Daemon.findAvailableIndex indexes leftIndex = findAvailableIndex indexes leftIndex 1) ∧
      (∀ (indexes : List Int) (leftIndex startIndex : Int),
        Compute.Returns startIndex indexes leftIndex
          (findAvailableIndex indexes leftIndex startIndex)) ∧
      ∀ (indexes : List Int) (leftIndex : Int),
        Daemon.Returns indexes leftIndex (Daemon.findAvailableIndex indexes leftIndex) := by
  refine ⟨⟨?_, ?_⟩, Daemon.findAvailableIndex_eq_compute, Compute.returns_findAvailableIndex,
    Daemon.returns_findAvailableIndex⟩
  · have hnil : xs = [] → IsRun (left + start) xs := by
      rintro rfl
      rfl
    rw [or_iff_right_of_imp hnil]
    rcases findAvailableIndex_spec hs hge h0 with ⟨hneg, hrun⟩ | hgap
    · exact iff_of_true hneg hrun
    · have hle := hgap.le
      exact iff_of_false (by omega) fun hrun => hrun.not_isGap hgap
  · intro hne
    rcases findAvailableIndex_spec hs hge h0 with ⟨hneg, -⟩ | hgap
    · exact absurd hneg hne
    · exact ⟨hgap, hgap.lt_last hs⟩

theorem findAvailableIndex_leastGap_three :
    findAvailableIndex [1, 2, 4] 0 1 = 3 ∧
      IsGap (0 + 1) [1, 2, 4] (findAvailableIndex [1, 2, 4] 0 1) :=
  ⟨by decide,
    ((findAvailableIndex_leastGap (by decide) (by decide) (by decide)).1.2 (by decide)).1⟩

end Answer

end MultiNicCni
