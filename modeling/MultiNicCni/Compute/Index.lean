import MultiNicCni.Compute.Compute
import MultiNicCni.Lib.Gap
import MultiNicCni.Lib.Halving

/-!
# `FindAvailableIndex` finds the least gap

On any list of indexes the search is the halving of `Lib.Halving` for a position that does not
hold its own number (`findAvailableIndex_halve`): it answers nothing exactly when the last index
is the number of the indexes (`findAvailableIndex_eq_neg_one`), and otherwise the number of the
position that halving leads to (`findAvailableIndex_leads`).

On a strictly increasing list of indexes from `leftIndex + startIndex` on, that either certifies
a run without gap (and answers -1) or gives the least free index (`findAvailableIndex_spec`).
Callers sort the used indexes first, so the form they use is `findAvailableIndex_sorted`:
whatever non-negative answer comes back is not in use. Indexes that repeat break that.
-/

namespace MultiNicCni.Compute

open Go Lib

variable {xs : List Int} {start : Int}

/-! ## Any list of indexes -/

/-- The position holds its own number, counted from `base`. -/
def own (base : Int) (xs : List Int) (k : Nat) : Bool := xs[k]? == some (base + k)

theorem own_iff {base : Int} {k : Nat} :
    own base xs k = true ↔ xs[k]? = some (base + k) := beq_iff_eq

/-- The positions from `a` to `b`. -/
def segment (xs : List Int) (a b : Nat) : List Int := (xs.drop a).take (b - a)

section Segment

variable {a b : Nat} (hlt : a < b) (hb : b ≤ xs.length)
include hlt hb

theorem length_segment : (segment xs a b).length = b - a := by
  rw [segment, List.length_take, List.length_drop]
  omega

omit hb in
theorem head?_segment : (segment xs a b).head? = xs[a]? := by
  rw [segment, List.head?_take, if_neg (by omega), List.head?_drop]

theorem getLast?_segment : (segment xs a b).getLast? = xs[b - 1]? := by
  rw [List.getLast?_eq_getElem?, length_segment hlt hb, segment, List.getElem?_take_of_lt (by omega),
    List.getElem?_drop, show a + (b - a - 1) = b - 1 by omega]

omit hlt hb in
theorem take_segment {m : Nat} (hm : m ≤ b - a) : (segment xs a b).take m = segment xs a (a + m) := by
  rw [segment, segment, List.take_take, Nat.min_eq_left hm, Nat.add_sub_cancel_left]

omit hlt hb in
theorem drop_segment {m : Nat} : (segment xs a b).drop m = segment xs (a + m) b := by
  rw [segment, segment, List.drop_take, List.drop_drop, Nat.sub_sub]

end Segment

/-- One level of the search on a list that is not empty. -/
theorem findAvailableIndexAux_succ (fuel : Nat) (left start : Int) {first last : Int}
    (hfirst : xs.head? = some first) (hlast : xs.getLast? = some last) :
    findAvailableIndexAux (fuel + 1) xs left start =
      if last = left + start + xs.length - 1 then -1
      else if first ≠ left + start then left + start
      else if findAvailableIndexAux fuel (xs.take (xs.length / 2)) left start ≠ -1 then
        findAvailableIndexAux fuel (xs.take (xs.length / 2)) left start
      else findAvailableIndexAux fuel (xs.drop (xs.length / 2)) (left + (xs.length / 2 : Nat)) start := by
  cases xs with
  | nil => cases hfirst
  | cons x xs =>
    cases hfirst
    rw [List.getLast?_eq_some_getLast (List.cons_ne_nil _ _)] at hlast
    cases hlast
    rw [findAvailableIndexAux]
    refine if_congr ?_ rfl rfl
    constructor <;> intro h <;> omega

/-- The number the search answers for a position, -1 for none. -/
def answer (base : Int) : Option Nat → Int
  | none => -1
  | some k => base + k

theorem answer_ne {base : Int} (hbase : 0 ≤ base) {found : Option Nat} :
    answer base found ≠ -1 ↔ found ≠ none := by
  cases found with
  | none => simp [answer]
  | some k =>
    simp only [answer, ne_eq, reduceCtorEq, not_false_eq_true, iff_true]
    omega

/-- **`FindAvailableIndex` halves for a position without its own number**, on any list. -/
theorem findAvailableIndexAux_eq {left : Int} (h0 : 0 ≤ left + start) (fuel : Nat) {a b : Nat}
    (hb : b ≤ xs.length) :
    findAvailableIndexAux fuel (segment xs a b) (left + a) start =
      answer (left + start) (halve (own (left + start) xs) fuel a b) := by
  induction fuel generalizing a b with
  | zero => rfl
  | succ fuel ih =>
    by_cases hle : b ≤ a
    · have hnil : segment xs a b = [] := by
        rw [segment, Nat.sub_eq_zero_of_le hle, List.take_zero]
      rw [hnil, halve, if_pos hle]
      rfl
    have hlt : a < b := Nat.lt_of_not_le hle
    have hfirst : (segment xs a b).head? = _ := head?_segment hlt
    have hlast := getLast?_segment hlt hb
    rw [List.getElem?_eq_getElem (by omega)] at hfirst hlast
    have hshift : left + a + ((b - a) / 2 : Nat) = left + (a + (b - a) / 2 : Nat) := by
      push_cast
      ring
    rw [findAvailableIndexAux_succ fuel _ _ hfirst hlast, length_segment hlt hb,
      take_segment (by omega), drop_segment, ih (by omega), hshift, ih hb, halve, if_neg hle]
    have hownLast : own (left + start) xs (b - 1) = true ↔
        xs[b - 1] = left + a + start + (b - a : Nat) - 1 := by
      rw [own_iff, List.getElem?_eq_getElem (by omega), Option.some.injEq]
      constructor <;> intro h <;> omega
    have hownFirst : own (left + start) xs a = true ↔ xs[a] = left + a + start := by
      rw [own_iff, List.getElem?_eq_getElem (by omega), Option.some.injEq]
      constructor <;> intro h <;> omega
    by_cases hl : own (left + start) xs (b - 1) = true
    · rw [if_pos (hownLast.mp hl), if_pos hl]
      rfl
    rw [if_neg (mt hownLast.mpr hl), if_neg hl]
    by_cases hf : own (left + start) xs a = true
    · rw [if_neg (not_not.mpr (hownFirst.mp hf)), hf, Bool.not_true, if_neg Bool.false_ne_true]
      cases halve (own (left + start) xs) fuel a (a + (b - a) / 2) with
      | none => exact if_neg (not_not.mpr rfl)
      | some k => rw [if_pos ((answer_ne h0).mpr (Option.some_ne_none k)), Option.some_or]
    · rw [if_pos (mt hownFirst.mpr hf), Bool.eq_false_iff.mpr hf, Bool.not_false, if_pos rfl, answer]
      ring

section Search

/-- The search over a whole list. -/
theorem findAvailableIndex_halve {left : Int} (h0 : 0 ≤ left + start) :
    findAvailableIndex xs left start =
      answer (left + start) (halve (own (left + start) xs) xs.length 0 xs.length) := by
  have h : findAvailableIndexAux xs.length (segment xs 0 xs.length) (left + (0 : Nat)) start = _ :=
    findAvailableIndexAux_eq h0 xs.length le_rfl
  rw [segment, List.drop_zero, Nat.sub_zero, List.take_length, Nat.cast_zero, Int.add_zero] at h
  exact h

/-- The search as its callers start it, at the front. -/
theorem findAvailableIndex_eq (h0 : 0 ≤ start) :
    findAvailableIndex xs 0 start = answer start (halve (own start xs) xs.length 0 xs.length) := by
  rw [findAvailableIndex_halve (by omega), Int.zero_add]

/-- **Nothing is found exactly when the last index is the number of its position**, repeated
indexes counted. -/
theorem findAvailableIndex_eq_neg_one (h0 : 0 ≤ start) :
    findAvailableIndex xs 0 start = -1 ↔
      ∀ last ∈ xs.getLast?, last = start + xs.length - 1 := by
  have hans : ¬ answer start (halve (own start xs) xs.length 0 xs.length) ≠ -1 ↔ _ :=
    not_congr (answer_ne h0)
  rw [not_not, not_not] at hans
  rw [findAvailableIndex_eq h0, hans, halve_eq_none (by omega), own_iff, ← List.getLast?_eq_getElem?]
  cases hlast : xs.getLast? with
  | none => simp [List.getLast?_eq_none_iff.mp hlast]
  | some last =>
    have hlen : 0 < xs.length := List.length_pos_of_mem (List.mem_of_getLast? hlast)
    simp only [Nat.le_zero, Option.some.injEq, Option.mem_def, forall_eq']
    constructor
    · rintro (h | h) <;> omega
    · intro h
      exact Or.inr (by omega)

/-- An answer is the number of the position that halving leads to. -/
theorem findAvailableIndex_leads {i : Int} (h0 : 0 ≤ start) (h : findAvailableIndex xs 0 start = i)
    (hne : i ≠ -1) :
    ∃ k : Nat, i = start + k ∧ k < xs.length ∧ Leads (own start xs) xs.length 0 xs.length k ∧
      xs[k]? ≠ some (start + k) ∧ (k ≠ 0 → xs[k - 1]? = some (start + (k - 1 : Nat))) := by
  rw [findAvailableIndex_eq h0] at h
  cases hk : halve (own start xs) xs.length 0 xs.length with
  | none =>
    rw [hk] at h
    exact absurd h.symm hne
  | some k =>
    rw [hk] at h
    obtain ⟨-, hlt, hfails, hbefore⟩ := halve_spec (by omega) hk
    refine ⟨k, h.symm, hlt, (halve_eq_some (by omega) (Nat.zero_le k) hlt).mp hk, ?_, ?_⟩
    · rw [← Bool.not_eq_true, own_iff] at hfails
      exact hfails
    · exact fun hne => own_iff.mp (hbefore hne)

/-- Halving leads to one position. -/
theorem findAvailableIndex_of_leads (h0 : 0 ≤ start) {k : Nat} (hlt : k < xs.length)
    (hleads : Leads (own start xs) xs.length 0 xs.length k) :
    findAvailableIndex xs 0 start = start + k := by
  rw [findAvailableIndex_eq h0, (halve_eq_some (by omega) (Nat.zero_le k) hlt).mpr hleads]
  rfl

end Search

/-! ## Increasing indexes -/

/-- On increasing indexes the search answers -1 for a run and the least gap
otherwise. -/
theorem findAvailableIndex_spec {left : Int} (hs : xs.Pairwise (· < ·))
    (hge : ∀ x ∈ xs, left + start ≤ x) (h0 : 0 ≤ left + start) :
    (findAvailableIndex xs left start = -1 ∧ IsRun (left + start) xs) ∨
      IsGap (left + start) xs (findAvailableIndex xs left start) := by
  rw [findAvailableIndex_halve h0]
  cases hk : halve (own (left + start) xs) xs.length 0 xs.length with
  | none =>
    have hlast := (halve_eq_none (by omega)).mp hk
    rw [own_iff] at hlast
    exact Or.inl ⟨rfl, isRun_of_last hs hge hlast⟩
  | some k =>
    obtain ⟨-, hlt, hfails, hbefore⟩ := halve_spec (by omega) hk
    rw [← Bool.not_eq_true, own_iff] at hfails
    exact Or.inr (isGap_of_position hs hge hlt hfails fun hne => own_iff.mp (hbefore hne))

/-- Sorting distinct integers makes them strictly increasing. -/
theorem sortInts_strict (hnd : xs.Nodup) : (sortInts xs).Pairwise (· < ·) := by
  have hnd' : (sortInts xs).Nodup := (sortInts_perm xs).nodup_iff.mpr hnd
  refine (List.pairwise_and_iff.mpr ⟨sortInts_sorted xs, hnd'⟩).imp ?_
  rintro a b ⟨hle, hne⟩
  omega

/-- As the callers use it: distinct non-negative indexes, sorted, searched from 0. -/
theorem findAvailableIndex_sorted (hnd : xs.Nodup) (hge : ∀ x ∈ xs, 0 ≤ x) :
    (findAvailableIndex (sortInts xs) 0 0 = -1 ∧ IsRun 0 (sortInts xs)) ∨
      IsGap 0 (sortInts xs) (findAvailableIndex (sortInts xs) 0 0) :=
  findAvailableIndex_spec (sortInts_strict hnd)
    (fun x hx => by
      have := hge x ((sortInts_perm xs).mem_iff.mp hx)
      omega)
    (by omega)

end MultiNicCni.Compute
