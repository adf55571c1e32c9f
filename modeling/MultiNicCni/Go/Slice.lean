import Mathlib.Data.List.Sort
import Mathlib.Tactic

/-!
# Go slices and sorting

- `index`: `s[i]`, with `none` for the run-time panic on an index out of range;
- `appendTo`: `append` on a sub-slice. A slice `b[0:len]` shares its backing
  array `b`; when the array has room, `append` writes into it, so other slices of
  the same array see the new elements. `appendTo` therefore returns the elements
  of the new slice together with the backing array afterwards;
- `sortInts`, `sortStrings`, `sortStable`: `sort.Ints`, `sort.Strings` and `sort.SliceStable`.
-/

namespace MultiNicCni.Go

universe u v

/-! ## Slices -/

/-- `s[i]` for an `int` index: `none` is the index-out-of-range panic. -/
def index {α : Type u} (s : List α) (i : Int) : Option α :=
  if 0 ≤ i then s[i.toNat]? else none

/-- `append(b[0:len], xs...)` where `b` is the backing array up to its capacity:
the elements of the new slice, and the backing array afterwards. -/
def appendTo {α : Type u} (b : List α) (len : Nat) (xs : List α) : List α × List α :=
  (b.take len ++ xs,
    if len + xs.length ≤ b.length then b.take len ++ xs ++ b.drop (len + xs.length) else b)

/-- When there is room, appending overwrites the array after the sub-slice. -/
theorem appendTo_room {α : Type u} {b : List α} {len : Nat} {xs : List α}
    (h : len + xs.length ≤ b.length) :
    appendTo b len xs = (b.take len ++ xs, b.take len ++ xs ++ b.drop (len + xs.length)) := by
  rw [appendTo, if_pos h]

/-- Replacing an element by one with the same `f` leaves the list of the `f`s. -/
theorem map_set_of_eq {α β : Type} {f : α → β} {l : List α} {i : Nat} {a a' : α}
    (ha : l[i]? = some a) (hf : f a' = f a) : (l.set i a').map f = l.map f := by
  rw [List.map_set]
  refine List.ext_getElem? fun j => ?_
  rw [List.getElem?_set]
  split
  · next hij =>
    subst hij
    obtain ⟨hlt, hget⟩ := List.getElem?_eq_some_iff.mp ha
    rw [List.length_map, if_pos hlt, hf, List.getElem?_map, ha]
    rfl
  · rfl

/-! ## Sorting -/

/-- `sort.Ints`. -/
def sortInts (l : List Int) : List Int := l.insertionSort (· ≤ ·)

/-- `sort.Strings`. -/
def sortStrings (l : List String) : List String := l.insertionSort (· ≤ ·)

/-- `sort.SliceStable` by increasing key. -/
def sortStable {α : Type u} (key : α → Int) (l : List α) : List α :=
  l.insertionSort fun a b => key a ≤ key b

theorem sortStrings_perm (l : List String) : (sortStrings l).Perm l := List.perm_insertionSort _ l

theorem sortInts_perm (l : List Int) : (sortInts l).Perm l := List.perm_insertionSort _ l

theorem sortInts_sorted (l : List Int) : (sortInts l).Pairwise (· ≤ ·) :=
  List.pairwise_insertionSort _ l

/-- The last of the sorted numbers is the largest. -/
theorem sortInts_getLast {l : List Int} {last : Int} (h : (sortInts l).getLast? = some last) :
    last ∈ l ∧ ∀ x ∈ l, x ≤ last := by
  have hne : sortInts l ≠ [] := by
    intro hnil
    rw [hnil] at h
    cases h
  rw [List.getLast?_eq_some_getLast hne] at h
  obtain rfl := Option.some.inj h
  refine ⟨(sortInts_perm l).mem_iff.mp (List.getLast_mem hne), fun x hx => ?_⟩
  exact (sortInts_sorted l).rel_getLast ((sortInts_perm l).mem_iff.mpr hx)

theorem sortInts_getLast_none {l : List Int} (h : (sortInts l).getLast? = none) : l = [] := by
  have hlen := (sortInts_perm l).length_eq
  rw [List.getLast?_eq_none_iff.mp h] at hlen
  exact List.length_eq_zero_iff.mp hlen.symm

theorem sortStable_perm {α : Type u} (key : α → Int) (l : List α) :
    (sortStable key l).Perm l := List.perm_insertionSort _ l

/-- Sorting goes by the keys alone. -/
theorem map_sortStable {α : Type u} {β : Type v} {key : α → Int} {key' : β → Int} (f : α → β)
    (hkey : ∀ a, key' (f a) = key a) (l : List α) :
    (sortStable key l).map f = sortStable key' (l.map f) := by
  refine List.map_insertionSort (fun a b => key a ≤ key b) (fun a b => key' a ≤ key' b) f l ?_
  intro a _ b _
  rw [hkey, hkey]

theorem sortStable_sorted {α : Type u} (key : α → Int) (l : List α) :
    ((sortStable key l).map key).Pairwise (· ≤ ·) := by
  have : Std.Total fun a b : α => key a ≤ key b := ⟨fun a b => le_total (key a) (key b)⟩
  have : IsTrans α fun a b => key a ≤ key b := ⟨fun a b c => le_trans⟩
  exact List.pairwise_map.mpr (List.pairwise_insertionSort _ l)

end MultiNicCni.Go
