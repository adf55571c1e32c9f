import Mathlib.Tactic

/-!
# Search by halving

`halve p` looks in a segment `[a, b)` of positions for one where `p` fails. A segment whose
last position has `p` is passed over as a whole; otherwise the answer is its first position,
if `p` fails there, or comes from the left half, or else from the right one. That is sound
where `p` cannot hold again after it has failed, and the search makes no other check.

- `halve_eq_none`: it answers nothing exactly where the last position has `p`;
- `halve_spec`: an answer is a position where `p` fails after one where it holds;
- `Leads`, `halve_eq_some`: which one that is, when there are several, in terms of the
  segments on the way to it.
-/

namespace MultiNicCni.Lib

variable {b k a fuel : Nat}

/-- The search in `[a, b)`, with a bound on its depth. -/
def halve (p : Nat → Bool) : Nat → Nat → Nat → Option Nat
  | 0, _, _ => none
  | fuel + 1, a, b =>
    if b ≤ a then none
    else if p (b - 1) then none
    else if !p a then some a
    else (halve p fuel a (a + (b - a) / 2)).or (halve p fuel (a + (b - a) / 2) b)

/-- The segments that halving `[a, b)` passes through on the way to position `k`. -/
def halvings : Nat → Nat → Nat → Nat → List (Nat × Nat)
  | 0, _, _, _ => []
  | fuel + 1, a, b, k =>
    (a, b) :: if k = a then [] else if k < a + (b - a) / 2 then
      halvings fuel a (a + (b - a) / 2) k else halvings fuel (a + (b - a) / 2) b k

/-- Halving `[a, b)` leads to `k`: `p` fails there, and every segment on the way ends where `p`
fails, begins after a position with `p` and, unless it begins at `k`, with one. -/
def Leads (p : Nat → Bool) (fuel a b k : Nat) : Prop :=
  p k = false ∧ ∀ s ∈ halvings fuel a b k,
    p (s.2 - 1) = false ∧ (s.1 ≠ a → p (s.1 - 1) = true) ∧ (s.1 ≠ k → p s.1 = true)

instance (p : Nat → Bool) (fuel a b k : Nat) : Decidable (Leads p fuel a b k) :=
  inferInstanceAs (Decidable (_ ∧ _))

variable {p : Nat → Bool}

/-- A segment that neither ends nor begins with an answer has two halves. -/
theorem midpoint_bounds (hlt : a < b) (hlast : p (b - 1) = false) (hfirst : p a = true) :
    a < a + (b - a) / 2 ∧ a + (b - a) / 2 < b := by
  have hne : a ≠ b - 1 := by
    rintro rfl
    rw [hlast] at hfirst
    cases hfirst
  omega

/-- Nothing is found exactly where the last position has `p`. -/
theorem halve_eq_none (hfuel : b - a ≤ fuel) :
    halve p fuel a b = none ↔ b ≤ a ∨ p (b - 1) = true := by
  induction fuel generalizing a b with
  | zero => simp [halve, show b ≤ a by omega]
  | succ fuel ih =>
    rw [halve]
    by_cases hle : b ≤ a
    · simp [hle]
    rw [if_neg hle]
    cases hlast : p (b - 1) with
    | true => simp
    | false =>
      rw [if_neg (by simp)]
      cases hfirst : p a with
      | false => simp [hle]
      | true =>
        obtain ⟨hl, hr⟩ := midpoint_bounds (by omega) hlast hfirst
        -- the right half ends where the segment ends, so it answers
        have hright : halve p fuel (a + (b - a) / 2) b ≠ none := by
          rw [Ne, ih (by omega), not_or, hlast]
          exact ⟨by omega, by simp⟩
        simp [hle, hright]

/-- Where the search goes on in a half, the position before the midpoint says in which. -/
theorem halve_halves (hfuel : b - a ≤ fuel + 1) (hlt : a < b) (hlast : p (b - 1) = false)
    (hfirst : p a = true) :
    halve p (fuel + 1) a b = if p (a + (b - a) / 2 - 1) then halve p fuel (a + (b - a) / 2) b
      else halve p fuel a (a + (b - a) / 2) := by
  obtain ⟨hl, hr⟩ := midpoint_bounds hlt hlast hfirst
  have hleft : halve p fuel a (a + (b - a) / 2) = none ↔ _ := halve_eq_none (by omega)
  rw [halve, if_neg (by omega), hlast, if_neg (by simp), hfirst, if_neg (by simp)]
  split
  · next hmid => rw [hleft.mpr (Or.inr hmid), Option.none_or]
  · next hmid =>
    cases h : halve p fuel a (a + (b - a) / 2) with
    | some k => rfl
    | none => exact absurd (hleft.mp h) (not_or.mpr ⟨by omega, hmid⟩)

/-- An answer is a position where `p` fails, the first one or after a position with `p`. -/
theorem halve_spec (hfuel : b - a ≤ fuel) (h : halve p fuel a b = some k) :
    a ≤ k ∧ k < b ∧ p k = false ∧ (k ≠ a → p (k - 1) = true) := by
  induction fuel generalizing a b with
  | zero => cases h
  | succ fuel ih =>
    have hsome := mt (halve_eq_none hfuel).mpr (by rw [h]; exact Option.some_ne_none k)
    rw [not_or, not_le, Bool.not_eq_true] at hsome
    obtain ⟨hlt, hlast⟩ := hsome
    cases hfirst : p a with
    | false =>
      rw [halve, if_neg (by omega), hlast, if_neg (by simp), hfirst, if_pos (by simp)] at h
      cases h
      exact ⟨le_rfl, hlt, hfirst, fun hne => absurd rfl hne⟩
    | true =>
      obtain ⟨hl, hr⟩ := midpoint_bounds hlt hlast hfirst
      rw [halve_halves hfuel hlt hlast hfirst] at h
      split at h
      · next hmid =>
        obtain ⟨h1, h2, h3, h4⟩ := ih (by omega) h
        refine ⟨by omega, h2, h3, fun _ => ?_⟩
        by_cases hk : k = a + (b - a) / 2
        · rw [hk]
          exact hmid
        · exact h4 hk
      · obtain ⟨h1, h2, h3, h4⟩ := ih (by omega) h
        exact ⟨h1, by omega, h3, h4⟩

theorem le_of_mem_halvings {s : Nat × Nat} (h : s ∈ halvings fuel a b k) : a ≤ s.1 := by
  induction fuel generalizing a b with
  | zero => cases h
  | succ fuel ih =>
    rw [halvings, List.mem_cons] at h
    rcases h with rfl | h
    · exact le_rfl
    · split at h
      · cases h
      · split at h
        · exact ih h
        · exact le_trans (by omega) (ih h)

theorem mem_halvings_le {s : Nat × Nat} (h : s ∈ halvings fuel a b k) (hak : a ≤ k) : s.1 ≤ k := by
  induction fuel generalizing a b with
  | zero => cases h
  | succ fuel ih =>
    rw [halvings, List.mem_cons] at h
    rcases h with rfl | h
    · exact hak
    · split at h
      · cases h
      · split at h
        · exact ih h hak
        · exact ih h (by omega)

theorem head_mem_halvings (hfuel : fuel ≠ 0) (a b k : Nat) : (a, b) ∈ halvings fuel a b k := by
  obtain ⟨fuel, rfl⟩ := Nat.exists_eq_succ_of_ne_zero hfuel
  exact List.mem_cons_self

/-- The way to a position of the left half. -/
theorem leads_left (hlast : p (b - 1) = false) (hfirst : p a = true) (hk : k < a + (b - a) / 2) :
    Leads p (fuel + 1) a b k ↔ Leads p fuel a (a + (b - a) / 2) k := by
  refine and_congr_right fun hfails => ?_
  have hne : k ≠ a := by
    rintro rfl
    rw [hfirst] at hfails
    cases hfails
  rw [halvings, if_neg hne, if_pos hk, List.forall_mem_cons]
  exact and_iff_right ⟨hlast, fun hne => absurd rfl hne, fun _ => hfirst⟩

/-- The way to a position of the right half, which begins after a position with `p`. -/
theorem leads_right (hlast : p (b - 1) = false) (hfirst : p a = true)
    (hmid : p (a + (b - a) / 2 - 1) = true) (hl : a < a + (b - a) / 2) (hk : a + (b - a) / 2 ≤ k) :
    Leads p (fuel + 1) a b k ↔ Leads p fuel (a + (b - a) / 2) b k := by
  refine and_congr_right fun _ => ?_
  rw [halvings, if_neg (by omega), if_neg (by omega), List.forall_mem_cons,
    and_iff_right ⟨hlast, fun hne => absurd rfl hne, fun _ => hfirst⟩]
  refine forall₂_congr fun s hs => and_congr_right fun _ => and_congr_left fun _ => ?_
  have hle := le_of_mem_halvings hs
  constructor
  · exact fun h _ => h (by omega)
  · intro h _
    by_cases hs : s.1 = a + (b - a) / 2
    · rw [hs]
      exact hmid
    · exact h hs

/-- **The answer is where halving leads.** -/
theorem halve_eq_some (hfuel : b - a ≤ fuel) (hak : a ≤ k) (hkb : k < b) :
    halve p fuel a b = some k ↔ Leads p fuel a b k := by
  induction fuel generalizing a b with
  | zero => omega
  | succ fuel ih =>
    have hlt : a < b := by omega
    cases hlast : p (b - 1) with
    | true =>
      rw [(halve_eq_none hfuel).mpr (Or.inr hlast)]
      refine iff_of_false (by simp) fun hleads => ?_
      have hend := (hleads.2 _ (head_mem_halvings (by omega) a b k)).1
      rw [hlast] at hend
      cases hend
    | false =>
      cases hfirst : p a with
      | false =>
        have hhere : halve p (fuel + 1) a b = some a := by
          rw [halve, if_neg (by omega), hlast, if_neg (by simp), hfirst, if_pos (by simp)]
        rw [hhere, Option.some.injEq]
        constructor
        · rintro rfl
          refine ⟨hfirst, fun s hs => ?_⟩
          rw [halvings, if_pos rfl, List.mem_singleton] at hs
          subst hs
          exact ⟨hlast, fun hne => absurd rfl hne, fun hne => absurd rfl hne⟩
        · intro hleads
          by_contra hne
          have hstart := (hleads.2 _ (head_mem_halvings (by omega) a b k)).2.2 hne
          rw [hfirst] at hstart
          cases hstart
      | true =>
        obtain ⟨hl, hr⟩ := midpoint_bounds hlt hlast hfirst
        rw [halve_halves hfuel hlt hlast hfirst]
        cases hmid : p (a + (b - a) / 2 - 1) with
        | true =>
          rw [if_pos rfl]
          by_cases hk : a + (b - a) / 2 ≤ k
          · rw [leads_right hlast hfirst hmid hl hk]
            exact ih (by omega) hk hkb
          · -- the left half ends with `p`, so no way leads there
            refine iff_of_false (fun h => hk (halve_spec (by omega) h).1) fun hleads => ?_
            rw [leads_left hlast hfirst (by omega)] at hleads
            have hend := (hleads.2 _ (head_mem_halvings (by omega) _ _ k)).1
            rw [hmid] at hend
            cases hend
        | false =>
          rw [if_neg (by simp)]
          by_cases hk : k < a + (b - a) / 2
          · rw [leads_left hlast hfirst hk]
            exact ih (by omega) hak hk
          · -- the right half begins after a position without `p`
            refine iff_of_false (fun h => hk (halve_spec (by omega) h).2.1) fun hleads => ?_
            have hseg : (a + (b - a) / 2, b) ∈ halvings (fuel + 1) a b k := by
              rw [halvings, if_neg (by omega), if_neg hk]
              exact List.mem_cons_of_mem _ (head_mem_halvings (by omega) _ _ k)
            have hbefore := (hleads.2 _ hseg).2.1 (by omega)
            rw [hmid] at hbefore
            cases hbefore

end MultiNicCni.Lib
