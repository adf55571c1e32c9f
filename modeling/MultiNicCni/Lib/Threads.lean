import Mathlib.Logic.Relation
import Mathlib.Tactic.Common

/-!
# Threads on a shared state

A program of a thread is a sequence of actions on a shared state. An action is taken at once; between
two actions other threads may do anything. What comes next depends on the state that the action
found, so a value that was read may be out of date when it is used.

- `Prog`: programs, a monad; `Prog.run` runs one alone;
- `Prog.Keeps`: every action keeps an invariant of the state, and the result has a property: the
  rules are `Keeps.bind`, `keeps_read`, `keeps_modify`, `keeps_atomic` and `keeps_each`;
- `Threads`, `Threads.Step`: threads are started, take actions in any order, and crash together, and
  the state is changed from outside;
- `Threads.Safe.steps`: **an invariant that all programs keep, and the outside keeps, holds in
  every interleaving.**
-/

namespace MultiNicCni.Lib

/-- A program on a shared state. -/
inductive Prog (σ : Type) (α : Type) where
  | pure (a : α)
  /-- an action, and what comes next, by the state that the action found -/
  | step (act : σ → σ) (next : σ → Prog σ α)

namespace Prog

variable {σ τ α β : Type}

def bind : Prog σ α → (α → Prog σ β) → Prog σ β
  | pure a, f => f a
  | step act next, f => step act fun s => (next s).bind f

instance : Monad (Prog σ) where
  pure := pure
  bind := bind

/-- Reads the state. -/
def read (f : σ → α) : Prog σ α := step id fun s => pure (f s)

/-- Changes the state. -/
def modify (f : σ → σ) : Prog σ Unit := step f fun _ => pure ()

/-- Reads the state and changes it, at once. -/
def atomic (f : σ → α × σ) : Prog σ α := step (fun s => (f s).2) fun s => pure (f s).1

/-- One program for each element, one after the other. -/
def each (f : β → Prog σ Unit) : List β → Prog σ Unit
  | [] => pure ()
  | b :: bs => (f b).bind fun _ => each f bs

/-- A program on a part of the state. -/
def onPart (get : τ → σ) (set : σ → τ → τ) : Prog σ α → Prog τ α
  | pure a => pure a
  | step act next => step (fun t => set (act (get t)) t) fun t => (next (get t)).onPart get set

/-- The program alone: its result, and the state after it. -/
def run : Prog σ α → σ → α × σ
  | pure a, s => (a, s)
  | step act next, s => (next s).run (act s)

/-! ## Invariants -/

/-- Every action keeps `I`, and the result satisfies `Q`, whatever others do in between, as long as
they keep `I` as well. -/
def Keeps (I : σ → Prop) (Q : α → Prop) : Prog σ α → Prop
  | pure a => Q a
  | step act next => ∀ s, I s → I (act s) ∧ Keeps I Q (next s)

variable {I : σ → Prop} {Q : α → Prop} {R : β → Prop}

theorem Keeps.bind {p : Prog σ α} {f : α → Prog σ β} (hp : Keeps I Q p)
    (hf : ∀ a, Q a → Keeps I R (f a)) : Keeps I R (p >>= f) := by
  show Keeps I R (p.bind f)
  induction p with
  | pure a => exact hf a hp
  | step act next ih =>
    intro s hs
    obtain ⟨hact, hnext⟩ := hp s hs
    exact ⟨hact, ih s hnext⟩

theorem keeps_read {f : σ → α} (h : ∀ s, I s → Q (f s)) : Keeps I Q (read f) :=
  fun s hs => ⟨hs, h s hs⟩

/-- A read with what follows. -/
theorem keeps_read_bind {f : σ → α} {g : α → Prog σ β} (h : ∀ s, I s → Keeps I R (g (f s))) :
    Keeps I R (read f >>= g) :=
  fun s hs => ⟨hs, h s hs⟩

theorem keeps_modify {f : σ → σ} (h : ∀ s, I s → I (f s)) : Keeps I (fun _ => True) (modify f) :=
  fun s hs => ⟨h s hs, trivial⟩

theorem keeps_atomic {f : σ → α × σ} (h : ∀ s, I s → Q (f s).1 ∧ I (f s).2) :
    Keeps I Q (atomic f) :=
  fun s hs => ⟨(h s hs).2, (h s hs).1⟩

theorem keeps_each {f : β → Prog σ Unit} {bs : List β}
    (h : ∀ b ∈ bs, Keeps I (fun _ => True) (f b)) : Keeps I (fun _ => True) (each f bs) := by
  induction bs with
  | nil => exact trivial
  | cons b bs ih =>
    exact (h b List.mem_cons_self).bind fun _ _ => ih fun b' hb' => h b' (List.mem_cons_of_mem b hb')

/-- A program on a part of the state keeps what it keeps of the part. -/
theorem Keeps.onPart {p : Prog σ α} {get : τ → σ} {set : σ → τ → τ} {J : τ → Prop}
    (hp : Keeps I Q p) (hget : ∀ t, J t → I (get t)) (hset : ∀ s t, J t → I s → J (set s t)) :
    Keeps J Q (p.onPart get set) := by
  induction p with
  | pure a => exact hp
  | step act next ih =>
    intro t ht
    obtain ⟨hact, hnext⟩ := hp (get t) (hget t ht)
    exact ⟨hset _ t ht hact, ih (get t) hnext⟩

end Prog

/-! ## Interleavings -/

/-- The shared state and what is left of the programs. -/
structure Threads (σ : Type) where
  shared : σ
  running : List (Prog σ Unit)

namespace Threads

variable {σ : Type}

/-- The programs that may be started, the changes from outside, and those with which all threads
crash. -/
structure Setting (σ : Type) where
  starts : Prog σ Unit → Prop
  outside : σ → σ → Prop
  crash : σ → σ → Prop

inductive Step (S : Setting σ) : Threads σ → Threads σ → Prop
  | act {s : σ} {act : σ → σ} {next : σ → Prog σ Unit} {before after : List (Prog σ Unit)} :
      Step S ⟨s, before ++ .step act next :: after⟩ ⟨act s, before ++ next s :: after⟩
  | start {s : σ} {running : List (Prog σ Unit)} {p : Prog σ Unit} : S.starts p →
      Step S ⟨s, running⟩ ⟨s, p :: running⟩
  | outside {s s' : σ} {running : List (Prog σ Unit)} : S.outside s s' →
      Step S ⟨s, running⟩ ⟨s', running⟩
  | crash {s s' : σ} {running : List (Prog σ Unit)} : S.crash s s' → Step S ⟨s, running⟩ ⟨s', []⟩

/-- The steps of a setting keep an invariant. -/
structure Setting.Keeps (S : Setting σ) (I : σ → Prop) : Prop where
  starts : ∀ p, S.starts p → p.Keeps I fun _ => True
  outside : ∀ s s', S.outside s s' → I s → I s'
  crash : ∀ s s', S.crash s s' → I s → I s'

/-- The invariant holds, and what is left of the programs keeps it. -/
structure Safe (I : σ → Prop) (t : Threads σ) : Prop where
  shared : I t.shared
  running : ∀ p ∈ t.running, p.Keeps I fun _ => True

variable {S : Setting σ} {I : σ → Prop} {t t' : Threads σ}

theorem Safe.idle {s : σ} (h : I s) : Safe I ⟨s, []⟩ := ⟨h, nofun⟩

theorem Safe.step (hS : S.Keeps I) (h : Safe I t) (hstep : Step S t t') : Safe I t' := by
  cases hstep with
  | @act s act next before after =>
    obtain ⟨hs, hrunning⟩ := h
    obtain ⟨hact, hnext⟩ := hrunning (.step act next) (by simp) s hs
    refine ⟨hact, fun p hp => ?_⟩
    rcases List.mem_append.mp hp with hp | hp
    · exact hrunning p (List.mem_append_left _ hp)
    · rcases List.mem_cons.mp hp with rfl | hp
      · exact hnext
      · exact hrunning p (List.mem_append_right _ (List.mem_cons_of_mem _ hp))
  | start hstart => exact ⟨h.shared, List.forall_mem_cons.mpr ⟨hS.starts _ hstart, h.running⟩⟩
  | outside hout => exact ⟨hS.outside _ _ hout h.shared, h.running⟩
  | crash hcrash => exact ⟨hS.crash _ _ hcrash h.shared, nofun⟩

theorem Safe.steps (hS : S.Keeps I) (h : Safe I t) (hsteps : Relation.ReflTransGen (Step S) t t') :
    Safe I t' := by
  induction hsteps with
  | refl => exact h
  | tail _ hstep ih => exact ih.step hS hstep

/-- A thread may run alone to its end. -/
theorem steps_run (p : Prog σ Unit) (s : σ) (running : List (Prog σ Unit)) :
    Relation.ReflTransGen (Step S) ⟨s, p :: running⟩ ⟨(p.run s).2, .pure () :: running⟩ := by
  induction p generalizing s with
  | pure a => exact .refl
  | step act next ih =>
    have hact : Step S ⟨s, [] ++ .step act next :: running⟩ ⟨act s, [] ++ next s :: running⟩ := .act
    exact .head hact (ih s (act s))

theorem steps_start {p : Prog σ Unit} (hp : S.starts p) {s : σ} {running : List (Prog σ Unit)} :
    Relation.ReflTransGen (Step S) ⟨s, running⟩ ⟨(p.run s).2, .pure () :: running⟩ :=
  .head (.start hp) (steps_run p s running)

end Threads

end MultiNicCni.Lib
