import Mathlib.Tactic

/-!
# Invariants of loops

A loop over a list is a fold; a loop whose body can fail is a fold in `Option`. What one
turn of the loop keeps, the whole loop keeps.
-/

namespace MultiNicCni.Lib

universe u v

variable {σ : Type u} {α : Type v}

/-- A loop that cannot fail. -/
theorem foldl_invariant {P : σ → Prop} {f : σ → α → σ} {l : List α} {s : σ}
    (hstep : ∀ s, ∀ a ∈ l, P s → P (f s a)) (hs : P s) : P (l.foldl f s) := by
  induction l generalizing s with
  | nil => exact hs
  | cons a l ih =>
    exact ih (fun s b hb => hstep s b (List.mem_cons_of_mem a hb))
      (hstep s a List.mem_cons_self hs)

/-- A loop whose turns either set a part of the state to `x` or leave it. -/
theorem foldl_set {τ : Type*} {f : σ → α → σ} (view : σ → τ) (p : α → Bool) (x : τ) {l : List α}
    (hstep : ∀ s, ∀ a ∈ l, view (f s a) = if p a then x else view s) (s : σ) :
    view (l.foldl f s) = if l.any p then x else view s := by
  induction l generalizing s with
  | nil => rfl
  | cons a l ih =>
    rw [List.foldl_cons, ih (fun s b hb => hstep s b (List.mem_cons_of_mem a hb)),
      hstep s a List.mem_cons_self, List.any_cons]
    cases p a <;> cases l.any p <;> rfl

/-- The first turn of a loop whose body may fail, and the rest. -/
theorem foldlM_cons_eq_some {f : σ → α → Option σ} {a : α} {l : List α} {s s' : σ} :
    (a :: l).foldlM f s = some s' ↔ ∃ s₁, f s a = some s₁ ∧ l.foldlM f s₁ = some s' := by
  rw [List.foldlM_cons]
  exact Option.bind_eq_some_iff

/-- A loop whose body may fail. -/
theorem foldlM_invariant {P : σ → Prop} {f : σ → α → Option σ} {l : List α} {s s' : σ}
    (hstep : ∀ s s', ∀ a ∈ l, P s → f s a = some s' → P s') (hs : P s)
    (h : l.foldlM f s = some s') : P s' := by
  induction l generalizing s with
  | nil =>
    cases h
    exact hs
  | cons a l ih =>
    obtain ⟨s₁, h₁, h₂⟩ := foldlM_cons_eq_some.mp h
    exact ih (fun s s' b hb => hstep s s' b (List.mem_cons_of_mem a hb))
      (hstep s s₁ a List.mem_cons_self hs h₁) h₂

/-- A loop that does not fail as long as the invariant holds. -/
theorem foldlM_total {P : σ → Prop} {f : σ → α → Option σ} {l : List α} {s : σ}
    (hstep : ∀ s, ∀ a ∈ l, P s → ∃ s', f s a = some s' ∧ P s') (hs : P s) :
    ∃ s', l.foldlM f s = some s' ∧ P s' := by
  induction l generalizing s with
  | nil => exact ⟨s, rfl, hs⟩
  | cons a l ih =>
    obtain ⟨s₁, h₁, hs₁⟩ := hstep s a List.mem_cons_self hs
    obtain ⟨s', h', hs'⟩ := ih (fun s b hb => hstep s b (List.mem_cons_of_mem a hb)) hs₁
    refine ⟨s', ?_, hs'⟩
    rw [List.foldlM_cons, h₁]
    exact h'

/-- A loop whose turns all succeed. -/
theorem foldlM_isSome {f : σ → α → Option σ} {l : List α}
    (hstep : ∀ s, ∀ a ∈ l, ∃ s', f s a = some s') (s : σ) : ∃ s', l.foldlM f s = some s' := by
  have htotal : ∃ s', l.foldlM f s = some s' ∧ True := by
    refine foldlM_total (P := fun _ => True) (fun s a ha _ => ?_) trivial
    obtain ⟨s', h'⟩ := hstep s a ha
    exact ⟨s', h', trivial⟩
  obtain ⟨s', h', -⟩ := htotal
  exact ⟨s', h'⟩

/-- A loop whose turns each settle their own element and leave what is settled under other keys:
with distinct keys, all elements are settled in the end. -/
theorem foldlM_settles {κ : Type*} {P : σ → Prop} {f : σ → α → Option σ} {l : List α} {s s' : σ}
    (key : α → κ) (settled : σ → α → Prop)
    (hstep : ∀ s s', ∀ a ∈ l, P s → f s a = some s' → P s')
    (hown : ∀ s s', ∀ a ∈ l, P s → f s a = some s' → settled s' a)
    (hother : ∀ s s', ∀ a ∈ l, ∀ b, key b ≠ key a → P s → f s a = some s' →
      settled s b → settled s' b)
    (hkeys : (l.map key).Nodup) (hs : P s) (h : l.foldlM f s = some s') :
    ∀ a ∈ l, settled s' a := by
  induction l generalizing s with
  | nil => exact fun a ha => absurd ha List.not_mem_nil
  | cons a l ih =>
    rw [List.map_cons, List.nodup_cons] at hkeys
    obtain ⟨s₁, h₁, h₂⟩ := foldlM_cons_eq_some.mp h
    have hs₁ := hstep s s₁ a List.mem_cons_self hs h₁
    refine List.forall_mem_cons.mpr ⟨?_, ?_⟩
    · -- the first element stays settled through the rest of the loop
      refine (foldlM_invariant (P := fun s => P s ∧ settled s a) ?_
        ⟨hs₁, hown s s₁ a List.mem_cons_self hs h₁⟩ h₂).2
      rintro s s' b hb ⟨hs, ha⟩ hf
      have hne : key a ≠ key b := fun heq => hkeys.1 (heq ▸ List.mem_map_of_mem hb)
      exact ⟨hstep s s' b (List.mem_cons_of_mem a hb) hs hf,
        hother s s' b (List.mem_cons_of_mem a hb) a hne hs hf ha⟩
    · exact ih (fun s s' b hb => hstep s s' b (List.mem_cons_of_mem a hb))
        (fun s s' b hb => hown s s' b (List.mem_cons_of_mem a hb))
        (fun s s' b hb => hother s s' b (List.mem_cons_of_mem a hb)) hkeys.2 hs₁ h₂

/-- A loop whose turns each append at most one element to a list. -/
theorem foldlM_collect {β : Type*} {f : σ → α → Option σ} (view : σ → List β) (g : α → Option β)
    {l : List α} {s s' : σ}
    (hstep : ∀ s s', ∀ a ∈ l, f s a = some s' → view s' = view s ++ (g a).toList)
    (h : l.foldlM f s = some s') : view s' = view s ++ l.filterMap g := by
  induction l generalizing s with
  | nil =>
    cases h
    exact (List.append_nil _).symm
  | cons a l ih =>
    obtain ⟨s₁, h₁, h₂⟩ := foldlM_cons_eq_some.mp h
    rw [ih (fun s s' b hb => hstep s s' b (List.mem_cons_of_mem a hb)) h₂,
      hstep s s₁ a List.mem_cons_self h₁, List.append_assoc]
    cases hg : g a with
    | none => rw [List.filterMap_cons_none hg]; rfl
    | some b => rw [List.filterMap_cons_some hg]; rfl

/-- A loop of loops is one loop over the pairs. -/
theorem foldlM_foldlM {β : Type*} (g : α → List β) (f : σ → α → β → Option σ) (l : List α) (s : σ) :
    l.foldlM (fun s a => (g a).foldlM (fun s b => f s a b) s) s =
      (l.flatMap fun a => (g a).map fun b => (a, b)).foldlM (fun s p => f s p.1 p.2) s := by
  induction l generalizing s with
  | nil => rfl
  | cons a l ih =>
    rw [List.foldlM_cons, List.flatMap_cons, List.foldlM_append, List.foldlM_map]
    simp only [ih]

/-- A loop over elements with distinct keys whose turns each touch the state of their own key
only: a key that does not occur is not touched, and one that occurs is touched once. -/
theorem foldlM_keyBy {κ σ τ : Type*} {f : σ → α → Option σ} (key : α → κ) (view : σ → κ → τ)
    (R : α → τ → τ → Prop) {l : List α} {s s' : σ}
    (hother : ∀ s s' a k, f s a = some s' → k ≠ key a → view s' k = view s k)
    (hown : ∀ s s', ∀ a ∈ l, f s a = some s' → R a (view s (key a)) (view s' (key a)))
    (hnodup : (l.map key).Nodup) (h : l.foldlM f s = some s') :
    (∀ k, (∀ a ∈ l, key a ≠ k) → view s' k = view s k) ∧
      ∀ a ∈ l, R a (view s (key a)) (view s' (key a)) := by
  induction l generalizing s with
  | nil =>
    cases h
    exact ⟨fun _ _ => rfl, fun a ha => absurd ha List.not_mem_nil⟩
  | cons b l ih =>
    obtain ⟨s₁, h₁, h₂⟩ := foldlM_cons_eq_some.mp h
    obtain ⟨hnot, hnodup'⟩ := List.nodup_cons.mp hnodup
    obtain ⟨ihout, ihin⟩ := ih (fun s s' a ha => hown s s' a (List.mem_cons_of_mem b ha))
      hnodup' h₂
    constructor
    · intro k hout
      rw [ihout k fun a ha => hout a (List.mem_cons_of_mem b ha),
        hother _ _ _ _ h₁ (hout b List.mem_cons_self).symm]
    · intro a ha
      rcases List.mem_cons.mp ha with rfl | ha
      · -- its own turn is the first one; no later turn has this key
        rw [ihout (key a) fun c hc heq => hnot (List.mem_map.mpr ⟨c, hc, heq⟩)]
        exact hown _ _ _ List.mem_cons_self h₁
      · have hne : key a ≠ key b := fun heq => hnot (List.mem_map.mpr ⟨a, ha, heq⟩)
        rw [← hother _ _ _ _ h₁ hne]
        exact ihin a ha

/-- The same for a loop over the entries of a map. -/
theorem foldlM_keyed {κ : Type u} {ν : Type v} {σ τ : Type*} {f : σ → (_ : κ) × ν → Option σ}
    (view : σ → κ → τ) (R : κ → ν → τ → τ → Prop) {l : List ((_ : κ) × ν)} {s s' : σ}
    (hother : ∀ s s' e k, f s e = some s' → k ≠ e.1 → view s' k = view s k)
    (hown : ∀ s s', ∀ e ∈ l, f s e = some s' → R e.1 e.2 (view s e.1) (view s' e.1))
    (hnodup : (l.map Sigma.fst).Nodup) (h : l.foldlM f s = some s') (k : κ) :
    ((∀ v, (⟨k, v⟩ : (_ : κ) × ν) ∉ l) → view s' k = view s k) ∧
      ∀ v, (⟨k, v⟩ : (_ : κ) × ν) ∈ l → R k v (view s k) (view s' k) := by
  obtain ⟨hout, hin⟩ := foldlM_keyBy Sigma.fst view (fun e => R e.1 e.2) hother hown hnodup h
  constructor
  · intro hk
    refine hout k ?_
    rintro ⟨k', v⟩ he rfl
    exact hk v he
  · intro v hv
    exact hin ⟨k, v⟩ hv

/-- A loop seen from one part of the state, which only the turns `p` touch: that part runs
through those turns alone. -/
theorem foldlM_view {τ : Type*} {f : σ → α → Option σ} (view : σ → Option τ) (p : α → Bool)
    (g : τ → α → Option τ) {l : List α} {s s' : σ} {x : τ}
    (hother : ∀ s s', ∀ a ∈ l, f s a = some s' → p a = false → view s' = view s)
    (hown : ∀ s s' x, ∀ a ∈ l, f s a = some s' → p a = true → view s = some x →
      ∃ y, g x a = some y ∧ view s' = some y)
    (h : l.foldlM f s = some s') (hx : view s = some x) :
    ∃ y, (l.filter p).foldlM g x = some y ∧ view s' = some y := by
  induction l generalizing s x with
  | nil =>
    cases h
    exact ⟨x, rfl, hx⟩
  | cons a l ih =>
    obtain ⟨s₁, h₁, h₂⟩ := foldlM_cons_eq_some.mp h
    have ih := fun x => @ih s₁ x (fun s s' b hb => hother s s' b (List.mem_cons_of_mem a hb))
      (fun s s' x b hb => hown s s' x b (List.mem_cons_of_mem a hb)) h₂
    cases hp : p a with
    | true =>
      obtain ⟨y, hy, hview⟩ := hown s s₁ x a List.mem_cons_self h₁ hp hx
      obtain ⟨z, hz, hview'⟩ := ih y hview
      refine ⟨z, ?_, hview'⟩
      rw [List.filter_cons_of_pos hp, List.foldlM_cons, hy]
      exact hz
    | false =>
      rw [List.filter_cons_of_neg (by rw [hp]; exact Bool.false_ne_true)]
      exact ih x ((hother s s₁ a List.mem_cons_self h₁ hp).trans hx)

/-- A loop seen through a map to a simpler state: there it is a loop that cannot fail. -/
theorem foldlM_image {τ : Type*} {f : σ → α → Option σ} {g : τ → α → τ} (view : σ → τ)
    (hstep : ∀ s s' a, f s a = some s' → view s' = g (view s) a) {l : List α} {s s' : σ}
    (h : l.foldlM f s = some s') : view s' = l.foldl g (view s) := by
  induction l generalizing s with
  | nil =>
    cases h
    rfl
  | cons a l ih =>
    obtain ⟨s₁, h₁, h₂⟩ := foldlM_cons_eq_some.mp h
    rw [ih h₂, hstep s s₁ a h₁, List.foldl_cons]

/-! ## What holds at every turn -/

/-- What holds of the state and the element at every turn of a loop. -/
def Throughout (f : σ → α → Option σ) (good : σ → α → Prop) : σ → List α → Prop
  | _, [] => True
  | s, a :: l => good s a ∧ ∀ s', f s a = some s' → Throughout f good s' l

section Throughout

variable {f : σ → α → Option σ} {good : σ → α → Prop} {l : List α} {s s' : σ}

/-- An invariant that speaks of the turns still to come. -/
theorem foldlM_rest {P : σ → List α → Prop}
    (hstep : ∀ s s' a l, P s (a :: l) → f s a = some s' → P s' l) (hs : P s l)
    (h : l.foldlM f s = some s') : P s' [] := by
  induction l generalizing s with
  | nil =>
    cases h
    exact hs
  | cons a l ih =>
    obtain ⟨s₁, h₁, h₂⟩ := foldlM_cons_eq_some.mp h
    exact ih (hstep s s₁ a l hs h₁) h₂

/-- An invariant that needs every turn to be good. -/
theorem foldlM_throughout {P : σ → List α → Prop}
    (hstep : ∀ s s' a l, good s a → P s (a :: l) → f s a = some s' → P s' l)
    (hgood : Throughout f good s l) (hs : P s l) (h : l.foldlM f s = some s') : P s' [] := by
  have hboth : P s' [] ∧ Throughout f good s' [] := by
    refine foldlM_rest (P := fun s l => P s l ∧ Throughout f good s l) ?_ ⟨hs, hgood⟩ h
    rintro s s' a l ⟨hs, hgood⟩ hf
    exact ⟨hstep s s' a l hgood.1 hs hf, hgood.2 s' hf⟩
  exact hboth.1

/-- A turn that is not good breaks something that stays broken: if nothing is broken at the end,
every turn was good. -/
theorem throughout_of_not_broken (clean broken : σ → List α → Prop)
    (hclean : ∀ s s' a l, clean s (a :: l) → f s a = some s' →
      (good s a ∧ clean s' l) ∨ broken s' l)
    (hstay : ∀ s s' a l, broken s (a :: l) → f s a = some s' → broken s' l)
    (hs : clean s l) (h : l.foldlM f s = some s') (hend : ¬ broken s' []) :
    Throughout f good s l := by
  induction l generalizing s with
  | nil => trivial
  | cons a l ih =>
    obtain ⟨s₁, h₁, h₂⟩ := foldlM_cons_eq_some.mp h
    rcases hclean s s₁ a l hs h₁ with ⟨hgood, hs₁⟩ | hbroken
    · refine ⟨hgood, fun s₂ hf => ?_⟩
      rw [h₁] at hf
      cases hf
      exact ih hs₁ h₂
    · exact absurd (foldlM_rest hstay hbroken h₂) hend

/-- A turn that is not good makes something bad: every turn is good, or something bad is met. -/
theorem throughout_or_met (clean bad : σ → Prop)
    (hclean : ∀ s s' a, clean s → f s a = some s' → (good s a ∧ clean s') ∨ bad s')
    (hs : clean s) (h : l.foldlM f s = some s') :
    Throughout f good s l ∨ ∃ l₁ l₂ s₁, l = l₁ ++ l₂ ∧ l₁.foldlM f s = some s₁ ∧ bad s₁ := by
  induction l generalizing s with
  | nil => exact Or.inl trivial
  | cons a l ih =>
    obtain ⟨s₁, h₁, h₂⟩ := foldlM_cons_eq_some.mp h
    rcases hclean s s₁ a hs h₁ with ⟨hgood, hs₁⟩ | hbad
    · rcases ih hs₁ h₂ with hall | ⟨l₁, l₂, s₂, rfl, hrun, hbad⟩
      · refine Or.inl ⟨hgood, fun s₂ hf => ?_⟩
        rw [h₁] at hf
        cases hf
        exact hall
      · refine Or.inr ⟨a :: l₁, l₂, s₂, rfl, ?_, hbad⟩
        rw [List.foldlM_cons, h₁]
        exact hrun
    · refine Or.inr ⟨[a], l, s₁, rfl, ?_, hbad⟩
      rw [List.foldlM_cons, h₁]
      rfl

/-- What holds at every turn, seen through a map to a simpler state. -/
theorem throughout_image {τ : Type*} {g : τ → α → τ} {P : τ → α → Prop} (view : σ → τ)
    (hstep : ∀ s s' a, f s a = some s' → view s' = g (view s) a)
    (h : l.foldlM f s = some s') :
    Throughout (fun t a => some (g t a)) P (view s) l ↔
      Throughout f (fun s a => P (view s) a) s l := by
  induction l generalizing s with
  | nil => exact Iff.rfl
  | cons a l ih =>
    obtain ⟨s₁, h₁, h₂⟩ := foldlM_cons_eq_some.mp h
    refine and_congr_right fun _ => ?_
    have hview := hstep s s₁ a h₁
    constructor
    · intro hrest s₂ hs₂
      rw [h₁] at hs₂
      obtain rfl := Option.some.inj hs₂
      exact (ih h₂).mp (hview ▸ hrest _ rfl)
    · rintro hrest t ht
      obtain rfl := Option.some.inj ht
      rw [← hview]
      exact (ih h₂).mpr (hrest s₁ h₁)

end Throughout

end MultiNicCni.Lib
