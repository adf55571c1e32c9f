import Mathlib.Tactic

/-!
# Go function bodies

A statement of a function works on a state that holds the variables of the function. It goes on
with a value, returns from the function, or panics.

- `Body.exec`: what a statement does to the variables;
- `Body.deferred`: the rest of a function after a `defer`, whose closure reads the variables as
  they are on the return, whichever return it is;
- `Body.call`: a whole function;
- `Body.Keeps view b`: no path through `b` changes `view`. It has a rule for each way to build
  a body, so that such a fact about a function is read off its text.
-/

namespace MultiNicCni.Go

/-- A statement over the variables `σ` of a function with result `ρ`. -/
abbrev Body (σ ρ : Type) : Type → Type := ExceptT ρ (StateT σ Option)

namespace Body

variable {σ ρ α β τ : Type}

/-- Run a statement: `.ok` goes on, `.error` has returned, `none` is a panic. -/
def exec (b : Body σ ρ α) (s : σ) : Option (Except ρ α × σ) := StateT.run (ExceptT.run b) s

/-- `return r`. -/
def returns (r : ρ) : Body σ ρ α := throw r

/-- An assignment. -/
def assign (f : σ → σ) : Body σ ρ Unit := modify f

/-- A value that is not there after a panic. -/
def orPanic (x : Option α) : Body σ ρ α := ExceptT.lift (StateT.lift x)

/-- `defer d()` and the rest of the function. -/
def deferred (d : σ → σ) (rest : Body σ ρ α) : Body σ ρ α :=
  ExceptT.mk fun s => (rest.exec s).map fun out => (out.1, d out.2)

/-- The result of a function, from its last statement or from an earlier one. -/
def result : Except ρ ρ → ρ
  | .ok r => r
  | .error r => r

/-- Call a function: its result and its variables on the return. -/
def call (b : Body σ ρ ρ) (s : σ) : Option (ρ × σ) :=
  (b.exec s).map fun out => (result out.1, out.2)

theorem exec_assign (f : σ → σ) (s : σ) :
    (assign f : Body σ ρ Unit).exec s = some (.ok (), f s) := rfl

theorem exec_orPanic (x : Option α) (s : σ) :
    (orPanic x : Body σ ρ α).exec s = x.map fun a => (.ok a, s) := by
  cases x <;> rfl

theorem exec_deferred (d : σ → σ) (rest : Body σ ρ α) (s : σ) :
    (deferred d rest).exec s = (rest.exec s).map fun out => (out.1, d out.2) := rfl

theorem exec_bind (b : Body σ ρ α) (f : α → Body σ ρ β) (s : σ) :
    (b >>= f).exec s = (b.exec s).bind fun out =>
      match out.1 with
      | .ok a => (f a).exec out.2
      | .error r => some (.error r, out.2) := by
  rw [exec, exec, ExceptT.run_bind, StateT.run_bind]
  refine congrArg (Option.bind _) (funext fun out => ?_)
  obtain ⟨_ | _, _⟩ := out <;> rfl

theorem call_deferred (d : σ → σ) (rest : Body σ ρ ρ) (s : σ) :
    (deferred d rest).call s = (rest.call s).map fun out => (out.1, d out.2) := by
  rw [call, call, exec_deferred, Option.map_map, Option.map_map]
  rfl

theorem call_assign_bind (f : σ → σ) (rest : Unit → Body σ ρ ρ) (s : σ) :
    (assign f >>= rest).call s = (rest ()).call (f s) := by
  rw [call, exec_bind, exec_assign]
  rfl

/-! ## What a body leaves alone -/

/-- No path through the body changes `view`. -/
def Keeps (view : σ → τ) (b : Body σ ρ α) : Prop :=
  ∀ s x s', b.exec s = some (x, s') → view s' = view s

variable {view : σ → τ}

theorem Keeps.pure (a : α) : Keeps view (pure a : Body σ ρ α) := by
  rintro s x s' ⟨⟩
  rfl

theorem Keeps.returns (r : ρ) : Keeps view (returns r : Body σ ρ α) := by
  rintro s x s' ⟨⟩
  rfl

theorem Keeps.assign {f : σ → σ} (hf : ∀ s, view (f s) = view s) :
    Keeps view (assign f : Body σ ρ Unit) := by
  rintro s x s' ⟨⟩
  exact hf s

theorem Keeps.orPanic (x : Option α) : Keeps view (orPanic x : Body σ ρ α) := by
  intro s y s' h
  rw [exec_orPanic] at h
  obtain ⟨a, -, heq⟩ := Option.map_eq_some_iff.mp h
  cases heq
  rfl

theorem Keeps.bind {b : Body σ ρ α} {f : α → Body σ ρ β} (hb : Keeps view b)
    (hf : ∀ a, Keeps view (f a)) : Keeps view (b >>= f) := by
  intro s y s' h
  rw [exec_bind] at h
  obtain ⟨⟨x, s₁⟩, hx, h⟩ := Option.bind_eq_some_iff.mp h
  cases x with
  | ok a => exact (hf a s₁ y s' h).trans (hb s _ s₁ hx)
  | error r =>
    cases h
    exact hb s _ _ hx

theorem Keeps.call {b : Body σ ρ ρ} (hb : Keeps view b) {s s' : σ} {r : ρ}
    (h : b.call s = some (r, s')) : view s' = view s := by
  obtain ⟨out, hout, heq⟩ := Option.map_eq_some_iff.mp h
  cases heq
  exact hb s out.1 out.2 hout

end Body

end MultiNicCni.Go
