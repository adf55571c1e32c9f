import Mathlib.Tactic

/-!
# Transition systems

A system is a guarded step function on a state: `step a s` is `none` where the action `a`
cannot be taken. One function serves for proofs and for runs on given inputs:

- `System.Reaches`: the states that some sequence of actions reaches;
- `System.Reaches.invariant`: what holds at the start and is kept by every step holds in every
  reached state;
- `System.exec`, `System.exec_invariant`: a given sequence of actions, run from a state, and
  what it keeps;
- `System.guard`: the system whose steps all meet a condition.
-/

namespace MultiNicCni.Lib

universe u v

/-- A transition system: the states it may start in, and its steps. -/
structure System (σ : Type u) (α : Type v) where
  init : σ → Prop
  step : α → σ → Option σ

namespace System

variable {σ : Type u} {α : Type v} {S : System σ α}

/-- The states that the system reaches. -/
inductive Reaches (S : System σ α) : σ → Prop
  | init {s : σ} : S.init s → Reaches S s
  | step {a : α} {s s' : σ} : Reaches S s → S.step a s = some s' → Reaches S s'

/-- What the start satisfies and every step keeps, every reached state satisfies. -/
theorem Reaches.invariant {P : σ → Prop} (hinit : ∀ s, S.init s → P s)
    (hstep : ∀ a s s', P s → S.step a s = some s' → P s') {s : σ} (h : S.Reaches s) : P s := by
  induction h with
  | init hs => exact hinit _ hs
  | step _ hs ih => exact hstep _ _ _ ih hs

/-- The state after a sequence of actions. -/
def exec (S : System σ α) : List α → σ → Option σ
  | [], s => some s
  | a :: as, s => (S.step a s).bind (S.exec as)

theorem exec_append (as bs : List α) (s : σ) :
    S.exec (as ++ bs) s = (S.exec as s).bind (S.exec bs) := by
  induction as generalizing s with
  | nil => rfl
  | cons a as ih =>
    show (S.step a s).bind (S.exec (as ++ bs)) = _
    rw [exec, Option.bind_assoc]
    exact Option.bind_congr fun s' _ => ih s'

/-- What every step keeps, a run keeps. -/
theorem exec_invariant {P : σ → Prop} (hstep : ∀ a s s', P s → S.step a s = some s' → P s')
    {as : List α} {s s' : σ} (h : P s) (hrun : S.exec as s = some s') : P s' := by
  induction as generalizing s with
  | nil =>
    cases hrun
    exact h
  | cons a as ih =>
    obtain ⟨s₁, h₁, h₂⟩ := Option.bind_eq_some_iff.mp hrun
    exact ih (hstep a s s₁ h h₁) h₂

/-- A run from a reached state ends in a reached state. -/
theorem Reaches.exec {as : List α} {s s' : σ} (h : S.Reaches s) (hrun : S.exec as s = some s') :
    S.Reaches s' :=
  exec_invariant (fun _ _ _ h hs => h.step hs) h hrun

/-- The system that takes only the steps which meet a condition. -/
def guard (S : System σ α) (allowed : α → σ → Prop) [∀ a s, Decidable (allowed a s)] :
    System σ α where
  init := S.init
  step a s := if allowed a s then S.step a s else none

theorem guard_step {allowed : α → σ → Prop} [∀ a s, Decidable (allowed a s)] {a : α} {s s' : σ}
    (h : (S.guard allowed).step a s = some s') : allowed a s ∧ S.step a s = some s' := by
  have h : (if allowed a s then S.step a s else none) = some s' := h
  split at h
  · next hallowed => exact ⟨hallowed, h⟩
  · cases h

end System

end MultiNicCni.Lib
