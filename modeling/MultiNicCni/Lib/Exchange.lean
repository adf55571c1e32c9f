import MultiNicCni.Lib.System
import Mathlib.Data.Multiset.Filter
import Mathlib.Data.Multiset.MapFold
import Mathlib.Algebra.Order.BigOperators.Group.Multiset

/-!
# Messages and their answers over a network that loses messages

Tasks wait to be run; a task either ends without a message or posts one. A message arrives or is
lost, and one that arrives may be answered: the answer is a task again. Answers are not answered.
Tasks and messages are taken in any order, so that both are multisets.

- `Traffic`: the tasks and messages, with what has become of the messages so far;
- `Exchange.balance`: in every reached state, **what is posted or still to be posted is what was
  asked for and the answers to what arrived**;
- `Exchange.OneWay.posted_le`: there are never more than two messages for one that was asked for;
- `Exchange.OneWay.served_of_quiet`: when all has come to rest and nothing was lost, exactly what
  was asked for and one answer to each of it has arrived;
- `Exchange.OneWay.length_add_work`: and it comes to rest, whatever the order of the steps.
-/

namespace MultiNicCni.Lib

universe u

/-- The messages of a protocol of questions and answers. -/
structure Exchange (μ : Type u) where
  /-- The task ends without a message. -/
  silent : μ → Bool
  /-- Somebody is there for the message. -/
  arrives : μ → Bool
  /-- What is started where the message arrives. -/
  answer : μ → Option μ

/-- The tasks that wait, the messages under way, and the history: the messages that arrived,
those lost, and the tasks that were asked for from outside. -/
structure Traffic (μ : Type u) where
  waiting : Multiset μ
  posted : Multiset μ
  served : Multiset μ
  lost : Multiset μ
  asked : Multiset μ
  deriving DecidableEq

namespace Exchange

variable {μ : Type u}

inductive Event (μ : Type u) where
  /-- Tasks are asked for. -/
  | ask (tasks : List μ)
  /-- A task is run. -/
  | run (task : μ)
  /-- A message arrives. -/
  | serve (message : μ)
  /-- A message is lost. -/
  | lose (message : μ)
  deriving DecidableEq

def Event.isAsk : Event μ → Bool
  | .ask _ => true
  | _ => false

/-- Nothing happened yet. -/
def idle : Traffic μ := ⟨0, 0, 0, 0, 0⟩

/-! ## Messages and answers -/

variable {P : Exchange μ} {t t' : Traffic μ}

/-- The tasks that post a message. -/
def loud (P : Exchange μ) (tasks : Multiset μ) : Multiset μ :=
  tasks.filter fun task => P.silent task = false

/-- The answers to messages. -/
def answers (P : Exchange μ) (messages : Multiset μ) : Multiset μ :=
  messages.filterMap P.answer

@[simp] theorem loud_zero : P.loud 0 = 0 := Multiset.filter_zero _

@[simp] theorem loud_add (s s' : Multiset μ) : P.loud (s + s') = P.loud s + P.loud s' :=
  Multiset.filter_add _ _ _

theorem loud_cons_silent {task : μ} (h : P.silent task = true) (s : Multiset μ) :
    P.loud (task ::ₘ s) = P.loud s :=
  Multiset.filter_cons_of_neg _ (by rw [h]; nofun)

theorem loud_cons {task : μ} (h : P.silent task = false) (s : Multiset μ) :
    P.loud (task ::ₘ s) = task ::ₘ P.loud s :=
  Multiset.filter_cons_of_pos _ h

theorem loud_le (s : Multiset μ) : P.loud s ≤ s := Multiset.filter_le _ s

@[simp] theorem answers_zero : P.answers 0 = 0 := Multiset.filterMap_zero _

@[simp] theorem answers_add (s s' : Multiset μ) :
    P.answers (s + s') = P.answers s + P.answers s' :=
  Multiset.filterMap_add _ _ _

theorem answers_cons (message : μ) (s : Multiset μ) :
    P.answers (message ::ₘ s) = ((P.answer message).toList : Multiset μ) + P.answers s := by
  cases h : P.answer message with
  | none => simp [answers, Multiset.filterMap_cons_none _ _ h]
  | some answer => simp [answers, Multiset.filterMap_cons_some _ _ _ h]

theorem mem_answers {messages : Multiset μ} {a : μ} :
    a ∈ P.answers messages ↔ ∃ m ∈ messages, P.answer m = some a :=
  Multiset.mem_filterMap _ _

/-- An answer is not answered. -/
def OneWay (P : Exchange μ) : Prop :=
  ∀ m answer, P.answer m = some answer → P.answer answer = none

theorem OneWay.answers_loud_answers (hP : P.OneWay) (s : Multiset μ) :
    P.answers (P.loud (P.answers s)) = 0 := by
  rw [Multiset.eq_zero_iff_forall_notMem]
  intro a ha
  obtain ⟨m, hm, heq⟩ := mem_answers.mp ha
  obtain ⟨m', -, heq'⟩ := mem_answers.mp (Multiset.mem_of_le (loud_le _) hm)
  rw [hP m' m heq'] at heq
  cases heq

/-- The steps that an answer may take: its task and its message. -/
def owed (P : Exchange μ) (message : μ) : Nat := if (P.answer message).isSome then 2 else 0

/-- A bound on the steps that are left. -/
def work (P : Exchange μ) (t : Traffic μ) : Nat :=
  (t.waiting.map fun task => 2 + P.owed task).sum +
    (t.posted.map fun message => 1 + P.owed message).sum

theorem owed_le (P : Exchange μ) (message : μ) : P.owed message ≤ 2 := by
  unfold owed
  split <;> omega

theorem sum_map_le (s : Multiset μ) {cost : μ → Nat} {k : Nat} (h : ∀ m, cost m ≤ k) :
    (s.map cost).sum ≤ k * s.card := by
  have hle := Multiset.sum_le_card_nsmul (s.map cost) k fun c hc => by
    obtain ⟨m, -, rfl⟩ := Multiset.mem_map.mp hc
    exact h m
  rwa [Multiset.card_map, smul_eq_mul, Nat.mul_comm] at hle

theorem work_le (P : Exchange μ) (t : Traffic μ) :
    P.work t ≤ 4 * t.waiting.card + 3 * t.posted.card :=
  Nat.add_le_add (sum_map_le t.waiting fun task => Nat.add_le_add_left (P.owed_le task) 2)
    (sum_map_le t.posted fun message => Nat.add_le_add_left (P.owed_le message) 1)

theorem OneWay.work_answer (hP : P.OneWay) (message : μ) :
    ((((P.answer message).toList : Multiset μ)).map fun task => 2 + P.owed task).sum =
      P.owed message := by
  unfold owed
  cases h : P.answer message with
  | none => simp
  | some answer => simp [hP message answer h]

/-! ## The steps -/

variable [DecidableEq μ]

def step (P : Exchange μ) : Event μ → Traffic μ → Option (Traffic μ)
  | .ask tasks, t => some { t with waiting := tasks + t.waiting, asked := tasks + t.asked }
  | .run task, t =>
    if task ∈ t.waiting then
      some { t with
        waiting := t.waiting.erase task
        posted := if P.silent task then t.posted else task ::ₘ t.posted }
    else none
  | .serve message, t =>
    if message ∈ t.posted ∧ P.arrives message then
      some { t with
        posted := t.posted.erase message
        served := message ::ₘ t.served
        waiting := (P.answer message).toList + t.waiting }
    else none
  | .lose message, t =>
    if message ∈ t.posted then
      some { t with posted := t.posted.erase message, lost := message ::ₘ t.lost }
    else none

def system (P : Exchange μ) : System (Traffic μ) (Event μ) where
  init t := t = idle
  step := P.step

/-- What a step does, with the task or the message taken out named. -/
inductive Takes (P : Exchange μ) : Event μ → Traffic μ → Traffic μ → Prop
  | ask (tasks : List μ) (t : Traffic μ) :
      Takes P (.ask tasks) t { t with waiting := tasks + t.waiting, asked := tasks + t.asked }
  | silent {task : μ} {waiting posted served lost asked : Multiset μ} (h : P.silent task = true) :
      Takes P (.run task) ⟨task ::ₘ waiting, posted, served, lost, asked⟩
        ⟨waiting, posted, served, lost, asked⟩
  | post {task : μ} {waiting posted served lost asked : Multiset μ} (h : P.silent task = false) :
      Takes P (.run task) ⟨task ::ₘ waiting, posted, served, lost, asked⟩
        ⟨waiting, task ::ₘ posted, served, lost, asked⟩
  | serve {message : μ} {waiting posted served lost asked : Multiset μ}
      (h : P.arrives message = true) :
      Takes P (.serve message) ⟨waiting, message ::ₘ posted, served, lost, asked⟩
        ⟨(P.answer message).toList + waiting, posted, message ::ₘ served, lost, asked⟩
  | lose {message : μ} {waiting posted served lost asked : Multiset μ} :
      Takes P (.lose message) ⟨waiting, message ::ₘ posted, served, lost, asked⟩
        ⟨waiting, posted, served, message ::ₘ lost, asked⟩

theorem takes_of_step {e : Event μ} (h : P.step e t = some t') : Takes P e t t' := by
  obtain ⟨waiting, posted, served, lost, asked⟩ := t
  cases e with
  | ask tasks =>
    cases h
    exact .ask tasks _
  | run task =>
    obtain ⟨hmem, heq⟩ := Option.ite_none_right_eq_some.mp h
    cases heq
    obtain ⟨rest, rfl⟩ := Multiset.exists_cons_of_mem hmem
    cases hsilent : P.silent task with
    | true => simpa using Takes.silent hsilent
    | false => simpa using Takes.post hsilent
  | serve message =>
    obtain ⟨⟨hmem, harrives⟩, heq⟩ := Option.ite_none_right_eq_some.mp h
    cases heq
    obtain ⟨rest, rfl⟩ := Multiset.exists_cons_of_mem hmem
    simpa using Takes.serve harrives
  | lose message =>
    obtain ⟨hmem, heq⟩ := Option.ite_none_right_eq_some.mp h
    cases heq
    obtain ⟨rest, rfl⟩ := Multiset.exists_cons_of_mem hmem
    simpa using Takes.lose

/-! ## What is conserved -/

/-- What was posted, or waits to be, is what was asked for and the answers to what arrived. -/
def Balanced (P : Exchange μ) (t : Traffic μ) : Prop :=
  t.served + t.lost + t.posted + P.loud t.waiting =
    P.loud t.asked + P.loud (P.answers t.served)

omit [DecidableEq μ] in
theorem Takes.balanced {e : Event μ} (h : Takes P e t t') (hbal : Balanced P t) :
    Balanced P t' := by
  cases h with
  | ask tasks t =>
    show t.served + t.lost + t.posted + P.loud (tasks + t.waiting) =
      P.loud (tasks + t.asked) + P.loud (P.answers t.served)
    have hbal : t.served + t.lost + t.posted + P.loud t.waiting = _ := hbal
    rw [loud_add, loud_add, add_left_comm, hbal, add_assoc]
  | silent h =>
    unfold Balanced at hbal ⊢
    rwa [loud_cons_silent h] at hbal
  | post h =>
    unfold Balanced at hbal ⊢
    rw [loud_cons h] at hbal
    rw [← hbal, Multiset.add_cons, Multiset.cons_add, Multiset.add_cons]
  | @serve message waiting posted served lost asked h =>
    have hbal : served + lost + message ::ₘ posted + P.loud waiting =
      P.loud asked + P.loud (P.answers served) := hbal
    show message ::ₘ served + lost + posted + P.loud ((P.answer message).toList + waiting) =
      P.loud asked + P.loud (P.answers (message ::ₘ served))
    rw [answers_cons, loud_add, loud_add, add_left_comm (P.loud asked), ← hbal]
    simp only [Multiset.cons_add, Multiset.add_cons, add_left_comm]
  | lose =>
    unfold Balanced at hbal ⊢
    rw [← hbal]
    simp only [Multiset.cons_add, Multiset.add_cons]

theorem balance (h : P.system.Reaches t) : Balanced P t :=
  h.invariant (P := Balanced P) (fun s hs => by cases (hs : s = idle); simp [Balanced, idle])
    fun _ _ _ hbal hstep => (takes_of_step hstep).balanced hbal

/-- At rest, a message that was asked for has arrived or was lost, and so has every answer to one
that arrived. -/
theorem settled (h : P.system.Reaches t) (hwaiting : t.waiting = 0) (hposted : t.posted = 0) {m : μ}
    (hm : m ∈ P.loud t.asked ∨ m ∈ P.loud (P.answers t.served)) : m ∈ t.served ∨ m ∈ t.lost := by
  have hbal : t.served + t.lost + t.posted + P.loud t.waiting = _ := balance h
  rw [hwaiting, hposted, loud_zero, add_zero, add_zero] at hbal
  rw [← Multiset.mem_add, hbal]
  exact Multiset.mem_add.mpr hm

/-! ## Answers that are not answered -/

namespace OneWay

variable (hP : P.OneWay)
include hP

/-- The answers, sent or owed, are those to what was asked for. -/
theorem answers_balance (h : P.system.Reaches t) :
    P.answers t.served + P.answers t.lost + P.answers t.posted + P.answers (P.loud t.waiting) =
      P.answers (P.loud t.asked) := by
  have hbal := congrArg P.answers (balance h)
  rwa [answers_add, answers_add, answers_add, answers_add, hP.answers_loud_answers, add_zero]
    at hbal

/-- No more than the messages asked for and one answer to each. -/
theorem posted_le (h : P.system.Reaches t) :
    t.served + t.lost + t.posted ≤
      P.loud t.asked + P.loud (P.answers (P.loud t.asked)) := by
  have hanswers : P.answers t.served ≤ P.answers (P.loud t.asked) := by
    rw [← hP.answers_balance h, add_assoc, add_assoc]
    exact Multiset.le_add_right _ _
  calc t.served + t.lost + t.posted
    _ ≤ t.served + t.lost + t.posted + P.loud t.waiting := Multiset.le_add_right _ _
    _ = P.loud t.asked + P.loud (P.answers t.served) := balance h
    _ ≤ P.loud t.asked + P.loud (P.answers (P.loud t.asked)) :=
      add_le_add_right (Multiset.filter_le_filter _ hanswers) _

/-- At rest, with nothing lost, all that was asked for and all answers have arrived. -/
theorem served_of_quiet (h : P.system.Reaches t) (hwaiting : t.waiting = 0)
    (hposted : t.posted = 0) (hlost : t.lost = 0) :
    t.served = P.loud t.asked + P.loud (P.answers (P.loud t.asked)) := by
  have hanswers := hP.answers_balance h
  have hbal : t.served + t.lost + t.posted + P.loud t.waiting = _ := balance h
  rw [hwaiting, hposted, hlost] at hanswers hbal
  simp only [loud_zero, answers_zero, add_zero] at hanswers hbal
  rwa [hanswers] at hbal

end OneWay

/-! ## Coming to rest -/

omit [DecidableEq μ] in
/-- Every step but asking uses some of the work up. -/
theorem OneWay.work_lt (hP : P.OneWay) {e : Event μ} (h : Takes P e t t')
    (he : e.isAsk = false) : work P t' < work P t := by
  cases h with
  | ask tasks t => cases he
  | silent h =>
    simp only [work, Multiset.map_cons, Multiset.sum_cons]
    omega
  | post h =>
    simp only [work, Multiset.map_cons, Multiset.sum_cons]
    omega
  | serve h =>
    simp only [work, Multiset.map_cons, Multiset.sum_cons, Multiset.map_add, Multiset.sum_add,
      hP.work_answer]
    omega
  | lose =>
    simp only [work, Multiset.map_cons, Multiset.sum_cons]
    omega

/-- A run in which nothing is asked for has no more steps than there was work. -/
theorem OneWay.length_add_work (hP : P.OneWay) {es : List (Event μ)}
    (hes : ∀ e ∈ es, e.isAsk = false) (hrun : P.system.exec es t = some t') :
    es.length + work P t' ≤ work P t := by
  induction es generalizing t with
  | nil =>
    cases hrun
    simp
  | cons e es ih =>
    obtain ⟨t₁, h₁, hrun⟩ := Option.bind_eq_some_iff.mp hrun
    have hlt := hP.work_lt (takes_of_step h₁) (hes e List.mem_cons_self)
    have hle := ih (fun e' he' => hes e' (List.mem_cons_of_mem _ he')) hrun
    rw [List.length_cons]
    omega

/-- While something waits or is under way, there is a step. -/
theorem exists_step (h : ¬ (t.waiting = 0 ∧ t.posted = 0)) :
    ∃ e : Event μ, e.isAsk = false ∧ ∃ t', P.system.step e t = some t' := by
  by_cases hwaiting : t.waiting = 0
  · obtain ⟨message, hmem⟩ := Multiset.exists_mem_of_ne_zero fun hposted => h ⟨hwaiting, hposted⟩
    exact ⟨.lose message, rfl, _, if_pos hmem⟩
  · obtain ⟨task, hmem⟩ := Multiset.exists_mem_of_ne_zero hwaiting
    exact ⟨.run task, rfl, _, if_pos hmem⟩

end Exchange

end MultiNicCni.Lib
