import MultiNicCni.Lib.Fold

/-!
# A change flag that a step can forget

A loop reports by a flag whether it has changed anything. If every step only ever sets the flag,
the flag is right. Here a step may also assign `false` to it, and what the steps before it reported
is forgotten.

- `Effect`: what a step does to the flag; `flagged` is the step with the flag carried along;
- `Forgotten`: some step takes the flag back although it was set, or although the step itself
  changes the state.
-/

namespace MultiNicCni.Lib

universe u v

/-- What a step does to the flag. -/
inductive Effect where
  | keep
  | report
  | forget
  deriving DecidableEq, Repr

/-- The flag after the step. -/
def Effect.apply : Effect → Bool → Bool
  | .keep, changed => changed
  | .report, _ => true
  | .forget, _ => false

section Flag

variable {σ : Type u} {α : Type v} (step : σ → α → Option (σ × Effect))

/-- The step with the flag carried along. -/
def flagged (st : σ × Bool) (a : α) : Option (σ × Bool) :=
  (step st.1 a).map fun r => (r.1, r.2.apply st.2)

/-- Some step takes the flag back although it was set or the step itself changes the state. -/
def Forgotten (same : σ → σ → Prop) : σ → Bool → List α → Prop
  | _, _, [] => False
  | s, changed, a :: as => ∃ s' e, step s a = some (s', e) ∧
      ((e = .forget ∧ (changed = true ∨ ¬ same s s')) ∨ Forgotten same s' (e.apply changed) as)

variable {step}

theorem flagged_eq_some {st st' : σ × Bool} {a : α} :
    flagged step st a = some st' ↔
      ∃ e, step st.1 a = some (st'.1, e) ∧ st'.2 = e.apply st.2 := by
  rw [flagged, Option.map_eq_some_iff]
  constructor
  · rintro ⟨⟨s', e⟩, h, rfl⟩
    exact ⟨e, h, rfl⟩
  · rintro ⟨e, h, hflag⟩
    exact ⟨(st'.1, e), h, Prod.ext rfl hflag.symm⟩

end Flag

end MultiNicCni.Lib
