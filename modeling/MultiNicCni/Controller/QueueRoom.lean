import MultiNicCni.Controller.UpdateQueue

/-!
# Room in the queue of CIDR update requests

During a pass the consumer of `UpdateRequestQueue` does not receive, and for each L3 network it
may send one ticket itself. What it still owes is known when the pass begins: one ticket for each
CIDR of an L3 network that is left, and one for the holder of the mutex.

- `Allowed`: the step leaves room for what is owed;
- `Roomy`: the invariant of the runs that take such steps only;
- `request_never_blocks`: **in those runs a pass never waits for its own queue**;
- `consumer_deadlocks`: without room the queue of default capacity fills up during a pass, and
  the consumer waits for ever (`deadlocked_step`).
-/

namespace MultiNicCni.Controller.UpdateQueue

open Go Compute Lib

variable {s : State} {order : GoMap.RangeOrder String CIDREntry} {nodes : Nat → NodeLookup}

/-! ## Room for the tickets of a pass -/

/-- The step leaves room for the tickets of the pass: a pass begins, and tickets are sent and
the mutex is taken by others during one, only while the queue can hold what is owed as well. -/
def Allowed : Action → State → Prop
  | .list _, s =>
    s.waiting + owedByHolder s.mutex + s.cidrCache.values.countP mayRequest ≤ s.capacity
  | .send _, s | .poke, s => s.consumer.inPass = true → s.waiting + s.owed + 1 ≤ s.capacity
  | .create _ _ _ cidrSpec, s => s.consumer.inPass = true → mayRequest cidrSpec = true →
      s.waiting + s.owed + 1 ≤ s.capacity
  | _, _ => True

instance : (a : Action) → (s : State) → Decidable (Allowed a s)
  | .list _, s => inferInstanceAs (Decidable (_ ≤ s.capacity))
  | .send _, _ | .poke, _ => inferInstanceAs (Decidable (_ → _))
  | .create .., _ => inferInstanceAs (Decidable (_ → _ → _))
  | .change .., _ | .receive, _ | .drain, _ | .stopDraining, _ | .call, _ | .lock .., _
  | .finish, _ | .store _, _ | .sync _, _ | .request, _ | .others .., _ =>
    inferInstanceAs (Decidable True)

/-- What a pass owes fits into the queue, and the consumer has the mutex in a pass only. -/
structure Roomy (s : State) : Prop where
  room : s.consumer.inPass = true → s.waiting + s.owed ≤ s.capacity
  inPass : s.busy = true → s.consumer.inPass = true

/-- Outside a pass nothing is to be shown but that the consumer has no mutex. -/
theorem Roomy.of_not_inPass (hpass : s.consumer.inPass = false) (hbusy : s.busy = false) :
    Roomy s := by
  refine ⟨fun h => ?_, fun h => ?_⟩
  · rw [hpass] at h
    cases h
  · rw [hbusy] at h
    cases h

theorem Roomy.not_busy (h : Roomy s) (hpass : s.consumer.inPass = false) : s.busy = false := by
  cases hbusy : s.busy with
  | false => rfl
  | true => rw [← hpass, h.inPass hbusy]

theorem busy_iff : s.busy = true ↔ ∃ p, s.mutex = some (.consumer, p) := by
  unfold State.busy
  split
  · next p hmutex => exact ⟨fun _ => ⟨p, hmutex⟩, fun _ => rfl⟩
  · next hmutex => exact ⟨(nomatch ·), fun ⟨p, hp⟩ => (hmutex p hp).elim⟩

/-- The pass owes a ticket for each of the listed CIDRs, in whatever order. -/
theorem roomy_list {s' : State} {order : GoMap.RangeOrder String CIDRSpec}
    (hallowed : Allowed (.list order) s) (hstep : list order s = some s') : Roomy s' := by
  obtain ⟨-, rfl⟩ := list_cases hstep
  refine ⟨fun _ => ?_, fun _ => rfl⟩
  show s.waiting + (owedByHolder s.mutex + (order.values s.cidrCache).countP mayRequest) ≤ _
  rw [(order.perm s.cidrCache).countP_eq, ← Nat.add_assoc]
  exact hallowed

theorem roomy_finish {s' : State} (hstep : finish s = some s') : Roomy s' := by
  obtain ⟨_, _, -, hbusy, rfl⟩ := finish_cases hstep
  exact .of_not_inPass rfl hbusy

section Roomy

variable {s' : State} (h : Roomy s)

include h

theorem roomy_updateCIDRs
    (hroom : s.consumer.inPass = true → s.waiting + s.owed + 1 ≤ s.capacity)
    (hstep : updateCIDRs s = some s') : Roomy s' := by
  rcases updateCIDRs_cases hstep with ⟨-, rfl⟩ | ⟨-, hlistening, rfl⟩
  · refine ⟨fun hpass => ?_, h.inPass⟩
    have := hroom hpass
    show s.waiting + 1 + s.owed ≤ s.capacity
    omega
  · refine .of_not_inPass rfl (h.not_busy ?_)
    rw [hlistening]
    rfl

theorem roomy_send {v : Nat}
    (hroom : s.consumer.inPass = true → s.waiting + s.owed + 1 ≤ s.capacity)
    (hstep : send v s = some s') : Roomy s' := by
  unfold send at hstep
  split at hstep
  · obtain ⟨s₁, h₁, rfl⟩ := Option.map_eq_some_iff.mp hstep
    have hroomy := roomy_updateCIDRs h hroom h₁
    exact ⟨hroomy.room, hroomy.inPass⟩
  · cases hstep

theorem roomy_discard
    (hstep : receive s = some s' ∨ drain s = some s' ∨ stopDraining s = some s') : Roomy s' := by
  obtain ⟨hpass, waiting, consumer, rfl, rfl | rfl⟩ := discard_cases hstep
  · exact .of_not_inPass rfl (h.not_busy hpass)
  · exact .of_not_inPass rfl (h.not_busy hpass)

/-- Begun or skipped, the next CIDR is one that the pass had left. -/
theorem roomy_call (hstep : call s = some s') : Roomy s' := by
  obtain ⟨began, taken, cidrSpec, rest, consumer, hconsumer, hbusy, rfl, hnext⟩ := call_cases hstep
  have hroom := h.room (by rw [hconsumer]; rfl)
  simp only [State.owed, hconsumer, Consumer.left, List.countP_cons] at hroom
  have hnot : s.busy ≠ true := hbusy ▸ Bool.false_ne_true
  refine ⟨fun _ => ?_, fun hb => (hnot hb).elim⟩
  rcases hnext with rfl | rfl
  · simp only [State.owed, Consumer.left, List.countP_cons]
    omega
  · simp only [State.owed, Consumer.left]
    omega

/-- The ticket of a CIDR goes over from the pass to the holder of the mutex. -/
theorem roomy_lock {fuel : Nat} (hstep : lock fuel order nodes s = some s') : Roomy s' := by
  obtain ⟨began, taken, cidrSpec, rest, mutex, hconsumer, hmutex, rfl, hcases⟩ := lock_cases hstep
  have hroom := h.room (by rw [hconsumer]; rfl)
  simp only [State.owed, hconsumer, hmutex, Consumer.left, owedByHolder, List.countP_cons] at hroom
  refine ⟨fun _ => ?_, fun _ => rfl⟩
  rcases hcases with rfl | ⟨spec, hconfig, rfl⟩
  · simp only [State.owed, Consumer.left, owedByHolder]
    omega
  · simp only [State.owed, Consumer.left, owedByHolder, mayRequest_congr hconfig]
    omega

theorem roomy_create {fuel : Nat} {cidrSpec : CIDRSpec}
    (hallowed : Allowed (.create fuel order nodes cidrSpec) s)
    (hstep : computeEntries .reconciler cidrSpec true fuel order nodes s = some s') : Roomy s' := by
  obtain ⟨hmutex, rfl | ⟨spec, hconfig, rfl⟩⟩ := computeEntries_cases hstep
  · exact h
  · refine ⟨fun hpass => ?_, fun hbusy => nomatch hbusy⟩
    have hroom := h.room hpass
    have hallowed := hallowed hpass
    simp only [State.owed, owedByHolder, hmutex, mayRequest_congr hconfig] at hroom hallowed ⊢
    split
    · next hrequest =>
      have := hallowed hrequest
      omega
    · exact hroom

/-- The holder of the mutex goes on or unlocks it, and owes no more than before. -/
theorem roomy_holder
    (hstep : (∃ accepted, store accepted s = some s') ∨ ∃ synced, sync synced s = some s') :
    Roomy s' := by
  obtain ⟨cidrs, cidrCache, mutex, rfl, howed, hcaller⟩ := holder_cases hstep
  refine ⟨fun hpass => ?_, fun hbusy => ?_⟩
  · have hroom := h.room hpass
    unfold State.owed at hroom ⊢
    dsimp only
    omega
  · obtain ⟨p, hp⟩ := busy_iff.mp hbusy
    exact h.inPass (busy_iff.mpr (hcaller _ p hp))

/-- The ticket that was owed is sent. -/
theorem roomy_request (hstep : request s = some s') : Roomy s' := by
  obtain ⟨caller, s₁, hmutex, h₁, rfl⟩ := request_cases hstep
  rcases updateCIDRs_cases h₁ with ⟨-, rfl⟩ | ⟨-, -, rfl⟩
  · refine ⟨fun hpass => ?_, fun hbusy => nomatch hbusy⟩
    have hroom := h.room hpass
    simp only [State.owed, owedByHolder, hmutex] at hroom ⊢
    omega
  · exact .of_not_inPass rfl rfl

theorem roomy_step {a : Action} (hallowed : Allowed a s) (hstep : system.step a s = some s') :
    Roomy s' := by
  cases a with
  | change name hif =>
    cases hstep
    exact ⟨h.room, h.inPass⟩
  | send v => exact roomy_send h hallowed hstep
  | poke => exact roomy_updateCIDRs h hallowed hstep
  | receive => exact roomy_discard h (.inl hstep)
  | drain => exact roomy_discard h (.inr (.inl hstep))
  | stopDraining => exact roomy_discard h (.inr (.inr hstep))
  | list order => exact roomy_list hallowed hstep
  | call => exact roomy_call h hstep
  | lock fuel order nodes => exact roomy_lock h hstep
  | finish => exact roomy_finish hstep
  | create fuel order nodes cidrSpec => exact roomy_create h hallowed hstep
  | store accepted => exact roomy_holder h (.inl ⟨accepted, hstep⟩)
  | sync synced => exact roomy_holder h (.inr ⟨synced, hstep⟩)
  | request => exact roomy_request h hstep
  | others cidrs cidrCache networks configReady =>
    cases hstep
    exact ⟨h.room, h.inPass⟩

end Roomy

theorem roomy_of_init (h : system.init s) : Roomy s := by
  obtain ⟨-, hconsumer, hmutex, -⟩ := h
  refine .of_not_inPass ?_ ?_
  · rw [hconsumer]
    rfl
  · rw [State.busy, hmutex]

theorem roomy_of_reaches (h : (system.guard Allowed).Reaches s) : Roomy s := by
  refine h.invariant ?_ ?_
  · exact fun s hs => roomy_of_init hs
  · intro a s s' hroomy hstep
    obtain ⟨hallowed, hstep⟩ := System.guard_step hstep
    exact roomy_step hroomy hallowed hstep

/-- **A pass never waits for its own queue**, in a run whose steps all leave room for its
tickets: the consumer finds the queue not full when it sends, and so does a reconciler that
holds the mutex during a pass. -/
theorem request_never_blocks {s : State} (h : (system.guard Allowed).Reaches s) :
    (s.mutex = some (.consumer, .requesting) → s.waiting < s.capacity) ∧
      (s.mutex = some (.reconciler, .requesting) → s.consumer.inPass = true →
        s.waiting < s.capacity) := by
  have hroomy := roomy_of_reaches h
  -- the ticket that is being sent is among those owed
  have hlt : ∀ caller, s.mutex = some (caller, .requesting) → s.consumer.inPass = true →
      s.waiting < s.capacity := by
    intro caller hmutex hpass
    have hroom := hroomy.room hpass
    simp only [State.owed, hmutex, owedByHolder] at hroom
    omega
  refine ⟨fun hmutex => ?_, hlt .reconciler⟩
  exact hlt .consumer hmutex (hroomy.inPass (busy_iff.mpr ⟨_, hmutex⟩))

/-! ## The deadlock -/

/-- The consumer waits to send on its own full queue. -/
structure Deadlocked (s : State) : Prop where
  holder : s.mutex = some (.consumer, .requesting)
  full : s.waiting = s.capacity
  inPass : s.consumer.inPass = true

section Deadlocked

variable {s' : State} (h : Deadlocked s)

include h

theorem updateCIDRs_deadlocked : updateCIDRs s = none := by
  cases hstep : updateCIDRs s with
  | none => rfl
  | some s₁ =>
    rcases updateCIDRs_cases hstep with ⟨hroom, -⟩ | ⟨-, hlistening, -⟩
    · exact absurd h.full (Nat.ne_of_lt hroom)
    · have hpass := h.inPass
      rw [hlistening] at hpass
      cases hpass

theorem not_discard_deadlocked :
    ¬(receive s = some s' ∨ drain s = some s' ∨ stopDraining s = some s') := by
  intro hstep
  have hpass := (discard_cases hstep).1
  rw [h.inPass] at hpass
  cases hpass

/-- Nobody can send, and nobody receives: only the caches still change. -/
theorem deadlocked_step {a : Action} (hstep : system.step a s = some s') : Deadlocked s' := by
  have hbusy : s.busy = true := busy_iff.mpr ⟨_, h.holder⟩
  have hpass := h.inPass
  cases a with
  | change name hif =>
    cases hstep
    exact ⟨h.holder, h.full, h.inPass⟩
  | others cidrs cidrCache networks configReady =>
    cases hstep
    exact ⟨h.holder, h.full, h.inPass⟩
  | send v =>
    have hstep : send v s = some s' := hstep
    rw [send, updateCIDRs_deadlocked h] at hstep
    split at hstep <;> cases hstep
  | poke => exact nomatch (updateCIDRs_deadlocked h).symm.trans hstep
  | receive => exact (not_discard_deadlocked h (.inl hstep)).elim
  | drain => exact (not_discard_deadlocked h (.inr (.inl hstep))).elim
  | stopDraining => exact (not_discard_deadlocked h (.inr (.inr hstep))).elim
  | list order =>
    rw [(list_cases hstep).1] at hpass
    cases hpass
  | call =>
    obtain ⟨_, _, _, _, _, -, hnot, -⟩ := call_cases hstep
    exact nomatch hbusy.symm.trans hnot
  | finish =>
    obtain ⟨_, _, -, hnot, -⟩ := finish_cases hstep
    exact nomatch hbusy.symm.trans hnot
  | lock fuel order nodes =>
    obtain ⟨_, _, _, _, _, -, hmutex, -⟩ := lock_cases hstep
    exact nomatch h.holder.symm.trans hmutex
  | create fuel order nodes cidrSpec =>
    exact nomatch h.holder.symm.trans (computeEntries_cases hstep).1
  | store accepted =>
    have hstep : store accepted s = some s' := hstep
    rw [store, h.holder] at hstep
    cases hstep
  | sync synced =>
    have hstep : sync synced s = some s' := hstep
    rw [sync, h.holder] at hstep
    cases hstep
  | request =>
    obtain ⟨_, _, -, h₁, -⟩ := request_cases hstep
    exact nomatch (updateCIDRs_deadlocked h).symm.trans h₁

end Deadlocked

/-- With two places in the queue and one ticket sent during the pass, the pass sends its own. -/
theorem request_never_blocks_two : ∃ s, (system.guard Allowed).Reaches s ∧
    s.mutex = some (.consumer, .requesting) ∧ s.waiting = 1 ∧ s.waiting < s.capacity := by
  have hexec : ((system.guard Allowed).exec (twoHosts ++ [.poke, .sync true]) (l3State 2)).map
      (fun s => (s.mutex, s.waiting)) = some (some (.consumer, .requesting), 1) := by
    decide +kernel
  obtain ⟨s, hs, hview⟩ := Option.map_eq_some_iff.mp hexec
  obtain ⟨hmutex, hwaiting⟩ : s.mutex = some (.consumer, .requesting) ∧ s.waiting = 1 := by
    simpa using hview
  have hreaches : (system.guard Allowed).Reaches s := .exec (.init (init_l3State 2)) hs
  exact ⟨s, hreaches, hmutex, hwaiting, (request_never_blocks hreaches).1 hmutex⟩

/-- **The deadlock.** The queue has its default capacity and is filled by others while the
consumer synchronizes the status of an L3 network; one host has no interface in that network.
From there on the consumer waits for ever. -/
theorem consumer_deadlocks : ∃ s, system.Reaches s ∧ s.capacity = 100 ∧
    s.mutex = some (.consumer, .requesting) ∧ s.waiting = s.capacity ∧
    ∀ acts s', system.exec acts s = some s' →
      s'.mutex = some (.consumer, .requesting) ∧ s'.waiting = s'.capacity := by
  have hexec : (system.exec (twoHosts ++ List.replicate 100 .poke ++ [.sync true])
      (l3State 100)).map (fun s => (s.capacity, s.mutex, s.waiting, s.consumer.inPass)) =
        some (100, some (.consumer, .requesting), 100, true) := by
    decide +kernel
  obtain ⟨s, hs, hview⟩ := Option.map_eq_some_iff.mp hexec
  obtain ⟨hcapacity, hmutex, hwaiting, hpass⟩ : s.capacity = 100 ∧
      s.mutex = some (.consumer, .requesting) ∧ s.waiting = 100 ∧ s.consumer.inPass = true := by
    simpa using hview
  have hdead : Deadlocked s := ⟨hmutex, hwaiting.trans hcapacity.symm, hpass⟩
  refine ⟨s, .exec (.init (init_l3State 100)) hs, hcapacity, hmutex, hdead.full, ?_⟩
  intro acts s' hacts
  have hdead' : Deadlocked s' :=
    System.exec_invariant (fun _ _ _ h hstep => deadlocked_step h hstep) hdead hacts
  exact ⟨hdead'.holder, hdead'.full⟩

end MultiNicCni.Controller.UpdateQueue
