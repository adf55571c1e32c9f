import Mathlib.Tactic

/-!
# Compacted lists

`l.filterMap f` drops the elements without an image and closes the gaps. A reader that
looks up the image of the `i`-th element at position `i` of the compacted list is right for
every `i` exactly when only a tail of the list was dropped.
-/

namespace MultiNicCni.Lib

universe u v

variable {α : Type u} {β : Type v}

/-- No element without an image comes before one with an image. -/
def NoGap (f : α → Option β) (l : List α) : Prop :=
  l.Pairwise fun a b => (f b).isSome = true → (f a).isSome = true

instance (f : α → Option β) (l : List α) : Decidable (NoGap f l) :=
  inferInstanceAs (Decidable (l.Pairwise _))

/-- Positions are kept if there is no gap. -/
theorem getElem?_filterMap_of_noGap {f : α → Option β} {l : List α} (h : NoGap f l) (i : Nat) :
    (l.filterMap f)[i]? = (l[i]?).bind f := by
  induction l generalizing i with
  | nil => rfl
  | cons a l ih =>
    obtain ⟨hhead, htail⟩ := List.pairwise_cons.mp h
    cases ha : f a with
    | some b =>
      rw [List.filterMap_cons_some ha]
      cases i with
      | zero => simp [ha]
      | succ i => simpa using ih htail i
    | none =>
      -- nothing after `a` has an image
      have hnone : ∀ b ∈ a :: l, f b = none := by
        intro b hb
        rcases List.mem_cons.mp hb with rfl | hb
        · exact ha
        · have := hhead b hb
          rw [ha] at this
          simpa using this
      rw [List.filterMap_eq_nil_iff.mpr hnone]
      cases hi : (a :: l)[i]? with
      | none => rfl
      | some b => exact (hnone b (List.mem_of_getElem? hi)).symm

/-- There is no gap if exactly the positions of the compacted list have an image. -/
theorem noGap_of_isSome_iff {f : α → Option β} {l : List α}
    (h : ∀ i a, l[i]? = some a → ((f a).isSome = true ↔ i < (l.filterMap f).length)) :
    NoGap f l := by
  refine List.pairwise_iff_getElem.mpr ?_
  intro i j hi hj hij hsome
  have hlt := (h j l[j] (List.getElem?_eq_getElem hj)).mp hsome
  exact (h i l[i] (List.getElem?_eq_getElem hi)).mpr (hij.trans hlt)

end MultiNicCni.Lib
