import Mathlib.Tactic

/-!
# Reads with a version

A store gives every key a version that each write of the key raises. Someone who has read a
value with its version and writes it back on condition that the version is still the same
knows that the value is still the same: `ReadAt` holds after the read, every write keeps it,
and `ReadAt.current` is what the condition gives.
-/

namespace MultiNicCni.Lib

universe u v

variable {κ : Type u} {ν : Type v} [DecidableEq κ]

/-- The versions after a write of `k`. -/
def bump (version : κ → Nat) (k : κ) : κ → Nat := Function.update version k (version k + 1)

/-- `x` is what `k` held when its version was `v`. -/
def ReadAt (version : κ → Nat) (view : κ → ν) (k : κ) (v : Nat) (x : ν) : Prop :=
  v ≤ version k ∧ (version k = v → view k = x)

omit [DecidableEq κ] in
theorem ReadAt.now (version : κ → Nat) (view : κ → ν) (k : κ) :
    ReadAt version view k (version k) (view k) := ⟨le_rfl, fun _ => rfl⟩

omit [DecidableEq κ] in
theorem ReadAt.current {version : κ → Nat} {view : κ → ν} {k : κ} {x : ν} {v : Nat}
    (h : ReadAt version view k v x) (hv : version k = v) : view k = x := h.2 hv

/-- A write of any key. -/
theorem ReadAt.write {version : κ → Nat} {view view' : κ → ν} {k k' : κ} {v : Nat} {x : ν}
    (h : ReadAt version view k v x) (hframe : ∀ j, j ≠ k' → view' j = view j) :
    ReadAt (bump version k') view' k v x := by
  by_cases hk : k = k'
  · subst hk
    have hbump : bump version k k = version k + 1 := Function.update_self ..
    refine ⟨?_, ?_⟩
    · rw [hbump]
      exact Nat.le_succ_of_le h.1
    · intro hv
      rw [hbump] at hv
      exact absurd h.1 (by omega)
  · have hbump : bump version k' k = version k := Function.update_of_ne hk ..
    refine ⟨?_, ?_⟩
    · rw [hbump]
      exact h.1
    · intro hv
      rw [hbump] at hv
      rw [hframe k hk]
      exact h.current hv

end MultiNicCni.Lib
