import MultiNicCni.Controller.IPPoolHandler
import MultiNicCni.Daemon.Address

/-!
# What the controller and the daemon exclude

An address block that the user excludes reaches the allocation of an address through three
pieces of code: `CheckIfTabuIndex` skips a pod CIDR inside an exclude,
`extractMatchExcludesFromPodCIDR` stores in a pool the excludes inside its pod CIDR, and the
daemon turns those into ranges of indexes with `getExcludeRanges`.

- `excludedSet` is the set of addresses an exclude denotes, and `Written` the addresses
  counted from the address as it is written;
- `tabuLoop_eq`, `extract_eq` and `mem_ranges` say what the three pieces compute, in these
  terms;
- `excludes_agree_iff` puts them together: the two programs exclude the same addresses
  exactly when no address separates `Written` from `excludedSet` inside the pod CIDR, and no
  bare address is excluded from a pod CIDR of one address.

The daemon counts from the written address, host bits included, where the tabu check
masks them.
-/

namespace MultiNicCni

open Go Compute Controller Daemon

variable {x : String} {excludes : List String}

/-! ## What an exclude denotes -/

/-- The address and prefix length of an exclude: a CIDR, or a bare address. -/
def excludeOf (exclude : String) : Option (IP4 × Nat) :=
  match parseCIDR exclude with
  | some (ip, n) => some (ip, n.ones)
  | none => (parseIP exclude).map fun ip => (ip, 32)

/-- The addresses an exclude denotes: its network, or the bare address. -/
def excludedSet (exclude : String) : Set IP4 :=
  cidrSet exclude ∪ {a | parseIP exclude = some a}

section Exclude

variable {ip : IP4} {q : Nat}

/-- The two forms of an exclude. -/
theorem excludeOf_cases (h : excludeOf x = some (ip, q)) :
    (∃ n, parseCIDR x = some (ip, n) ∧ n.ones = q) ∨
      (parseCIDR x = none ∧ parseIP x = some ip ∧ q = 32) := by
  unfold excludeOf at h
  split at h
  · next ip' n hp =>
    cases h
    exact Or.inl ⟨n, hp, rfl⟩
  · next hp =>
    obtain ⟨ip', hip, heq⟩ := Option.map_eq_some_iff.mp h
    cases heq
    exact Or.inr ⟨hp, hip, rfl⟩

theorem split_bare (h : parseIP x = some ip) : split x '/' = [x] :=
  split_of_not_mem (not_mem_of_parseIP h rfl (by decide))

/-- A CIDR text is no bare address. -/
theorem parseIP_of_parseCIDR {n : IPNet} (h : parseCIDR x = some (ip, n)) : parseIP x = none := by
  obtain ⟨y, z, hsplit, -, -, -⟩ := parseCIDR_eq_some h
  cases hip : parseIP x with
  | none => rfl
  | some a =>
    rw [split_bare hip] at hsplit
    cases hsplit

theorem excludeOf_le (h : excludeOf x = some (ip, q)) : q ≤ 32 := by
  rcases excludeOf_cases h with ⟨n, -, rfl⟩ | ⟨-, -, rfl⟩
  · exact n.ones_le
  · exact le_rfl

/-- Membership in an exclude, as an equation between numbers. -/
theorem mem_excludedSet (h : excludeOf x = some (ip, q)) (a : IP4) :
    a ∈ excludedSet x ↔ ip.toNat / 2 ^ (32 - q) = a.toNat / 2 ^ (32 - q) := by
  rcases excludeOf_cases h with ⟨n, hp, rfl⟩ | ⟨hp, hip, rfl⟩
  · rw [excludedSet, Set.mem_union, mem_cidrSet hp, Set.mem_ofPred_eq, parseIP_of_parseCIDR hp]
    simp
  · have hnot : a ∉ cidrSet x := by
      rintro ⟨ip', n, hp', -⟩
      rw [hp] at hp'
      cases hp'
    rw [excludedSet, Set.mem_union, Set.mem_ofPred_eq, hip, Option.some.injEq, Nat.sub_self,
      pow_zero, Nat.div_one, Nat.div_one]
    constructor
    · rintro (ha | rfl)
      · exact absurd ha hnot
      · rfl
    · intro ha
      exact Or.inr (IP4.toNat_inj ha)

/-- What the code reads from the text of an exclude. -/
theorem excludeOf_reads (h : excludeOf x = some (ip, q)) :
    parseIP ((split x '/').headD "") = some ip ∧ excludeBlock x = q := by
  rcases excludeOf_cases h with ⟨n, hp, rfl⟩ | ⟨-, hip, rfl⟩
  · obtain ⟨y, z, hsplit, hy, -, -⟩ := parseCIDR_eq_some hp
    have hblock := blockOf_eq hp
    simp only [blockOf, hsplit, excludeBlock] at hblock ⊢
    exact ⟨hy, Option.some.inj hblock⟩
  · rw [excludeBlock, split_bare hip]
    exact ⟨hip, rfl⟩

theorem getIPValue_exclude (h : excludeOf x = some (ip, q)) :
    (getIPValue x).value = (ip.toNat : Int) :=
  addrToValue_eq (excludeOf_reads h).1

/-- A CIDR text or a bare address is an exclude. -/
theorem exists_excludeOf (h : (∃ e, parseCIDR x = some e) ∨ ∃ a, parseIP x = some a) :
    ∃ e, excludeOf x = some e := by
  unfold excludeOf
  rcases h with ⟨e, he⟩ | ⟨a, ha⟩
  · exact ⟨(e.1, e.2.ones), by rw [he]⟩
  · cases hc : parseCIDR x with
    | some e => exact ⟨(e.1, e.2.ones), rfl⟩
    | none => exact ⟨(a, 32), by simp [ha]⟩

end Exclude

/-- The addresses counted from the written address of an exclude inside a pod CIDR of `p`
bits: those the daemon excludes. -/
def Written (pod : String) (p : Nat) (exclude : String) : Set IP4 :=
  {a | ∃ ip q, excludeOf exclude = some (ip, q) ∧ p < q ∧ ip ∈ cidrSet pod ∧
    ip.toNat ≤ a.toNat ∧ a.toNat < ip.toNat + 2 ^ (32 - q)}

/-! ## The tabu check -/

/-- The exclude is a CIDR of at most `p` bits around the address. -/
def Covers (p : Nat) (r : IP4) (exclude : String) : Prop :=
  ∃ ip n, parseCIDR exclude = some (ip, n) ∧ n.ones ≤ p ∧ n.contains r = true

section Tabu

variable {base : String} {idx k : Int} {r : IP4} {p : Nat}

/-- The loop finds a covering exclude. -/
theorem tabuLoop_eq (hr : computeNet base idx k = some (.ok r)) {b : Int} (hp : b + k = p)
    (hvalid : ∀ x ∈ excludes, ∃ e, excludeOf x = some e) :
    ∃ tabu, tabuLoop base idx k b excludes = some tabu ∧
      (tabu = true ↔ ∃ x ∈ excludes, Covers p r x) := by
  induction excludes with
  | nil => exact ⟨false, rfl, by simp⟩
  | cons x excludes ih =>
    obtain ⟨tabu, hloop, htabu⟩ := ih fun y hy => hvalid y (List.mem_cons_of_mem x hy)
    have hskip : ¬ Covers p r x → (tabu = true ↔ ∃ y ∈ x :: excludes, Covers p r y) := by
      intro hx
      rw [htabu]
      simp [hx]
    obtain ⟨⟨ip, q⟩, hx⟩ := hvalid x List.mem_cons_self
    rcases excludeOf_cases hx with ⟨n, hparse, rfl⟩ | ⟨hparse, hip, -⟩
    · obtain ⟨y, z, hsplit, -, -, -⟩ := parseCIDR_eq_some hparse
      have hblock := blockOf_eq hparse
      simp only [blockOf, hsplit] at hblock
      have hblock : (parseInt 10 z.toList).1 = (n.ones : Int) := Option.some.inj hblock
      simp only [tabuLoop, hsplit, List.getElem?_cons_succ, List.getElem?_cons_zero, hblock, hp,
        hparse, hr, Nat.cast_le]
      by_cases hle : n.ones ≤ p
      · by_cases hc : n.contains r = true
        · refine ⟨true, by simp [hle, hc, Except.toOption], ?_⟩
          simp only [true_iff]
          exact ⟨x, List.mem_cons_self, ip, n, hparse, hle, hc⟩
        · refine ⟨tabu, by simp [hle, hc, hloop, Except.toOption], hskip ?_⟩
          rintro ⟨ip', n', hparse', -, hc'⟩
          rw [hparse] at hparse'
          cases hparse'
          exact hc hc'
      · refine ⟨tabu, by simp [hle, hloop], hskip ?_⟩
        rintro ⟨ip', n', hparse', hle', -⟩
        rw [hparse] at hparse'
        cases hparse'
        exact hle hle'
    · -- a bare address is not looked at
      refine ⟨tabu, ?_, hskip ?_⟩
      · simp [tabuLoop, split_bare hip, hloop]
      · rintro ⟨ip', n', hparse', -⟩
        rw [hparse] at hparse'
        cases hparse'

end Tabu

/-! ## The excludes of a pool and their ranges -/

section Pool

variable {pod : String} {r : IP4} {n : IPNet} (hpod : parseCIDR pod = some (r, n))
include hpod

theorem matchesPodCIDR_eq {ip : IP4} {q : Nat} (hx : excludeOf x = some (ip, q)) :
    ∃ inside, matchesPodCIDR pod x = some inside ∧
      (inside = true ↔ n.ones < q ∧ ip ∈ cidrSet pod) := by
  obtain ⟨hip, hblock⟩ := excludeOf_reads hx
  have hjoin := parseCIDR_join hip (excludeOf_le hx)
  simp only [matchesPodCIDR, blockOf_eq hpod, hblock, ge_iff_le, hpod]
  by_cases hle : q ≤ n.ones
  · exact ⟨false, by simp [hle], by simp [Nat.not_lt.mpr hle]⟩
  · have hmem : ip ∈ cidrSet pod ↔ n.contains ip = true := by
      constructor
      · rintro ⟨r', n', hpod', hc⟩
        rw [hpod] at hpod'
        cases hpod'
        exact hc
      · exact fun hc => ⟨r, n, hpod, hc⟩
    refine ⟨n.contains ip, ?_, ?_⟩
    · rw [show formatInt 10 (q : Int) = Nat.toDigits 10 q from rfl, hjoin]
      simp [hle]
    · rw [hmem]
      exact ⟨fun hc => ⟨Nat.not_le.mp hle, hc⟩, fun hc => hc.2⟩

/-- A pool stores the longer excludes whose address is inside. -/
theorem extract_eq {items : List IPValue}
    (hvalid : ∀ item ∈ items, ∃ e, excludeOf item.address = some e) :
    ∃ excludes, extractMatchExcludesFromPodCIDR pod items = some excludes ∧
      ∀ x, x ∈ excludes ↔ (∃ item ∈ items, item.address = x) ∧
        ∃ ip q, excludeOf x = some (ip, q) ∧ n.ones < q ∧ ip ∈ cidrSet pod := by
  induction items with
  | nil => exact ⟨[], rfl, by simp⟩
  | cons item items ih =>
    obtain ⟨excludes, hrest, hmem⟩ := ih fun i hi => hvalid i (List.mem_cons_of_mem item hi)
    obtain ⟨⟨ip, q⟩, hx⟩ := hvalid item List.mem_cons_self
    obtain ⟨inside, hinside, hiff⟩ := matchesPodCIDR_eq hpod hx
    refine ⟨if inside then item.address :: excludes else excludes, ?_, ?_⟩
    · simp only [extractMatchExcludesFromPodCIDR, hinside, hrest]
      rfl
    intro x
    have hown : item.address = x → (inside = true ↔
        ∃ ip q, excludeOf x = some (ip, q) ∧ n.ones < q ∧ ip ∈ cidrSet pod) := by
      rintro rfl
      rw [hiff]
      constructor
      · exact fun h => ⟨ip, q, hx, h⟩
      · rintro ⟨ip', q', hx', h⟩
        rw [hx] at hx'
        cases hx'
        exact h
    cases inside with
    | true =>
      simp only [if_true, List.mem_cons, hmem]
      constructor
      · rintro (rfl | ⟨⟨i, hi, rfl⟩, h⟩)
        · exact ⟨⟨item, Or.inl rfl, rfl⟩, (hown rfl).mp rfl⟩
        · exact ⟨⟨i, Or.inr hi, rfl⟩, h⟩
      · rintro ⟨⟨i, rfl | hi, rfl⟩, h⟩
        · exact Or.inl rfl
        · exact Or.inr ⟨⟨i, hi, rfl⟩, h⟩
    | false =>
      simp only [Bool.false_eq_true, if_false, List.mem_cons, hmem]
      constructor
      · rintro ⟨⟨i, hi, rfl⟩, h⟩
        exact ⟨⟨i, Or.inr hi, rfl⟩, h⟩
      · rintro ⟨⟨i, rfl | hi, rfl⟩, h⟩
        · exact absurd ((hown rfl).mpr h) (by simp)
        · exact ⟨⟨i, hi, rfl⟩, h⟩

/-- The range of a stored exclude holds the indexes of the addresses counted from its
written address. -/
theorem mem_range_iff {ip : IP4} {q : Nat} (hx : excludeOf x = some (ip, q))
    (hle : r.toNat ≤ ip.toNat) {a : IP4} {i : Nat} (ha : a.toNat = r.toNat + i) :
    (∃ range, excludeRange pod x = some range ∧ range.minIndex ≤ i ∧ i ≤ range.maxIndex) ↔
      ip.toNat ≤ a.toNat ∧ a.toNat < ip.toNat + 2 ^ (32 - q) := by
  have hq := excludeOf_le hx
  have hpow : powMinusOne (32 - (q : Int)) = ((2 ^ (32 - q) : Nat) : Int) - 1 := by
    rw [show (32 : Int) - q = ((32 - q : Nat) : Int) by omega, powMinusOne_eq (by omega)]
    push_cast
    rfl
  have hrange : excludeRange pod x = some ⟨(ip.toNat : Int) - r.toNat,
      (ip.toNat : Int) - r.toNat + (((2 ^ (32 - q) : Nat) : Int) - 1)⟩ := by
    have hunfold : excludeRange pod x =
        if (getIPValue x).value - (getIPValue pod).value < 0 then none
        else some ⟨(getIPValue x).value - (getIPValue pod).value,
          (getIPValue x).value - (getIPValue pod).value + powMinusOne (32 - excludeBlock x)⟩ := rfl
    rw [hunfold, getIPValue_exclude hx, getIPValue_eq hpod, (excludeOf_reads hx).2, hpow,
      if_neg (by omega)]
  rw [hrange]
  constructor
  · rintro ⟨range, hrange, hmin, hmax⟩
    cases hrange
    simp only at hmin hmax
    omega
  · rintro ⟨hmin, hmax⟩
    refine ⟨_, rfl, ?_, ?_⟩ <;> simp only <;> omega

/-- A network address is the first address of its network. -/
theorem le_of_mem_cidrSet (hr : 2 ^ (32 - n.ones) ∣ r.toNat) {a : IP4} (ha : a ∈ cidrSet pod) :
    r.toNat ≤ a.toNat := by
  rw [mem_cidrSet hpod] at ha
  calc r.toNat = r.toNat / 2 ^ (32 - n.ones) * 2 ^ (32 - n.ones) := (Nat.div_mul_cancel hr).symm
    _ = a.toNat / 2 ^ (32 - n.ones) * 2 ^ (32 - n.ones) := by rw [ha]
    _ ≤ a.toNat := Nat.div_mul_le_self _ _

/-- The ranges the daemon computes from the stored excludes of a pool, against the excludes
of the definition. -/
theorem mem_ranges {stored : List String} (hr : 2 ^ (32 - n.ones) ∣ r.toNat)
    (hstored : ∀ x, x ∈ stored ↔ x ∈ excludes ∧
      ∃ ip q, excludeOf x = some (ip, q) ∧ n.ones < q ∧ ip ∈ cidrSet pod) {a : IP4} {i : Nat}
    (ha : a.toNat = r.toNat + i) :
    (∃ range ∈ getExcludeRanges pod stored, range.minIndex ≤ i ∧ i ≤ range.maxIndex) ↔
      ∃ x ∈ excludes, a ∈ Written pod n.ones x := by
  have hge := fun ip hip => le_of_mem_cidrSet hpod hr (a := ip) hip
  constructor
  · rintro ⟨range, hrange, hmin, hmax⟩
    obtain ⟨x, hx, hrange⟩ := List.mem_filterMap.mp hrange
    obtain ⟨hmem, ip, q, hof, hlt, hip⟩ := (hstored x).mp hx
    have hbounds := (mem_range_iff hpod hof (hge ip hip) ha).mp ⟨range, hrange, hmin, hmax⟩
    exact ⟨x, hmem, ip, q, hof, hlt, hip, hbounds⟩
  · rintro ⟨x, hmem, ip, q, hof, hlt, hip, hbounds⟩
    obtain ⟨range, hrange, hin⟩ := (mem_range_iff hpod hof (hge ip hip) ha).mpr hbounds
    have hx := (hstored x).mpr ⟨hmem, ip, q, hof, hlt, hip⟩
    exact ⟨range, List.mem_filterMap.mpr ⟨x, hx, hrange⟩, hin⟩

end Pool

/-! ## Agreement -/

/-- The two programs agree on a pod CIDR: a tabu one is inside one exclude, and otherwise the
daemon's ranges hold exactly the indexes of the excluded addresses. -/
def ExcludesAgree (base : String) (idx blocksize : Int) (excludes : List String) (r : IP4)
    (pod : String) : Prop :=
  ∃ tabu stored, checkIfTabuIndex base idx blocksize excludes = some tabu ∧
    extractMatchExcludesFromPodCIDR pod (sortAddress excludes) = some stored ∧
    (tabu = true → ∃ x ∈ excludes, cidrSet pod ⊆ excludedSet x) ∧
    (tabu = false → ∀ (i : Nat), ∀ a ∈ cidrSet pod, a.toNat = r.toNat + i →
      ((∃ x ∈ excludes, a ∈ excludedSet x) ↔
        ∃ range ∈ getExcludeRanges pod stored, range.minIndex ≤ i ∧ i ≤ range.maxIndex))

/-- Some exclude, a CIDR that is not longer, holds the whole pod CIDR. -/
def PodExcluded (excludes : List String) (pod : String) (p : Nat) : Prop :=
  ∃ x ∈ excludes, ∃ ip n, parseCIDR x = some (ip, n) ∧ n.ones ≤ p ∧ cidrSet pod ⊆ cidrSet x

/-- Where the excludes inside a pod CIDR of `p` bits have host bits set, other excludes make
up for it: the addresses of the network below the written address are counted by another
exclude, and those counted past the end of the network are excluded by another one. A pod
CIDR of a single address is not excluded by a bare address. -/
structure HostBitsCovered (excludes : List String) (pod : String) (p : Nat) : Prop where
  below : ∀ x ∈ excludes, ∀ ip q, excludeOf x = some (ip, q) → p < q → ip ∈ cidrSet pod →
    ∀ a ∈ excludedSet x, a.toNat < ip.toNat → ∃ y ∈ excludes, a ∈ Written pod p y
  above : ∀ x ∈ excludes, ∀ ip q, excludeOf x = some (ip, q) → p < q → ip ∈ cidrSet pod →
    ∀ a ∈ cidrSet pod, a ∉ excludedSet x → ip.toNat ≤ a.toNat →
      a.toNat < ip.toNat + 2 ^ (32 - q) → ∃ y ∈ excludes, a ∈ excludedSet y
  bare : p = 32 → ∀ x ∈ excludes, ∀ a ∈ cidrSet pod, parseIP x ≠ some a

section Agreement

variable {pod : String} {r : IP4} {n : IPNet} (hpod : parseCIDR pod = some (r, n))
include hpod

theorem podExcluded_iff : PodExcluded excludes pod n.ones ↔ ∃ x ∈ excludes, Covers n.ones r x := by
  have hself : r ∈ cidrSet pod := (mem_cidrSet hpod r).mpr rfl
  constructor
  · rintro ⟨x, hx, ip, m, hparse, hle, hsub⟩
    obtain ⟨ip', m', hparse', hc⟩ := hsub hself
    rw [hparse] at hparse'
    cases hparse'
    exact ⟨x, hx, ip, m, hparse, hle, hc⟩
  · rintro ⟨x, hx, ip, m, hparse, hle, hc⟩
    refine ⟨x, hx, ip, m, hparse, hle, ?_⟩
    intro a ha
    have hr : r ∈ cidrSet x := ⟨ip, m, hparse, hc⟩
    rw [mem_cidrSet hparse] at hr ⊢
    rw [mem_cidrSet hpod] at ha
    exact hr.trans (div_eq_of_longer hle n.ones_le ha)

/-- The written excludes match the denoted ones on a pod CIDR that no exclude holds iff host
bits are covered. -/
theorem written_iff_excluded_iff (hvalid : ∀ x ∈ excludes, ∃ e, excludeOf x = some e)
    (hnot : ¬ ∃ x ∈ excludes, Covers n.ones r x) :
    (∀ a ∈ cidrSet pod, (∃ x ∈ excludes, a ∈ excludedSet x) ↔
        ∃ x ∈ excludes, a ∈ Written pod n.ones x) ↔
      HostBitsCovered excludes pod n.ones := by
  constructor
  · intro h
    refine ⟨?_, ?_, ?_⟩
    · intro x hx ip q hof hlt hip a ha _
      refine (h a ?_).mp ⟨x, hx, ha⟩
      rw [mem_excludedSet hof] at ha
      rw [mem_cidrSet hpod] at hip ⊢
      exact hip.trans (div_eq_of_longer hlt.le (excludeOf_le hof) ha)
    · intro x hx ip q hof hlt hip a ha _ hmin hmax
      exact (h a ha).mpr ⟨x, hx, ip, q, hof, hlt, hip, hmin, hmax⟩
    · intro h32 x hx a ha hbare
      obtain ⟨y, -, ip, q, hof, hlt, -⟩ := (h a ha).mp ⟨x, hx, Or.inr hbare⟩
      have hq := excludeOf_le hof
      omega
  · intro h a ha
    constructor
    · rintro ⟨x, hx, hax⟩
      obtain ⟨⟨ip, q⟩, hof⟩ := hvalid x hx
      have hax' := (mem_excludedSet hof a).mp hax
      by_cases hlt : n.ones < q
      · have hip : ip ∈ cidrSet pod := by
          rw [mem_cidrSet hpod] at ha ⊢
          exact ha.trans (div_eq_of_longer hlt.le (excludeOf_le hof) hax').symm
        by_cases hbelow : a.toNat < ip.toNat
        · exact h.below x hx ip q hof hlt hip a hax hbelow
        · refine ⟨x, hx, ip, q, hof, hlt, hip, Nat.not_lt.mp hbelow, ?_⟩
          calc a.toNat < a.toNat / 2 ^ (32 - q) * 2 ^ (32 - q) + 2 ^ (32 - q) :=
                Nat.lt_div_mul_add (Nat.two_pow_pos _)
            _ = ip.toNat / 2 ^ (32 - q) * 2 ^ (32 - q) + 2 ^ (32 - q) := by rw [hax']
            _ ≤ ip.toNat + 2 ^ (32 - q) := Nat.add_le_add_right (Nat.div_mul_le_self _ _) _
      · -- a shorter CIDR would hold the whole pod CIDR; a bare address is the only one left
        have hle := Nat.not_lt.mp hlt
        rcases excludeOf_cases hof with ⟨m, hparse, rfl⟩ | ⟨-, hip, rfl⟩
        · refine absurd ⟨x, hx, ip, m, hparse, hle, ?_⟩ hnot
          have hr : r ∈ cidrSet x := by
            rw [mem_cidrSet hparse]
            rw [mem_cidrSet hpod] at ha
            exact hax'.trans (div_eq_of_longer hle n.ones_le ha).symm
          obtain ⟨ip', m', hparse', hc⟩ := hr
          rw [hparse] at hparse'
          cases hparse'
          exact hc
        · have heq : ip = a := by
            rw [Nat.sub_self, pow_zero, Nat.div_one, Nat.div_one] at hax'
            exact IP4.toNat_inj hax'
          exact absurd (heq ▸ hip) (h.bare (le_antisymm n.ones_le hle) x hx a ha)
    · rintro ⟨x, hx, ip, q, hof, hlt, hip, hmin, hmax⟩
      by_cases hax : a ∈ excludedSet x
      · exact ⟨x, hx, hax⟩
      · exact h.above x hx ip q hof hlt hip a ha hax hmin hmax

/-- The agreement, once both programs have run: on a pod CIDR that is not tabu the addresses
counted by the excludes are the excluded ones. -/
theorem excludesAgree_iff (hr : 2 ^ (32 - n.ones) ∣ r.toNat) {base : String} {idx k : Int}
    {stored : List String} {tabu : Bool} (hcheck : checkIfTabuIndex base idx k excludes = some tabu)
    (hcovers : tabu = true ↔ ∃ x ∈ excludes, Covers n.ones r x)
    (hstored : extractMatchExcludesFromPodCIDR pod (sortAddress excludes) = some stored)
    (hmem : ∀ x, x ∈ stored ↔ x ∈ excludes ∧
      ∃ ip q, excludeOf x = some (ip, q) ∧ n.ones < q ∧ ip ∈ cidrSet pod) :
    ExcludesAgree base idx k excludes r pod ↔
      (tabu = false → ∀ a ∈ cidrSet pod, ((∃ x ∈ excludes, a ∈ excludedSet x) ↔
        ∃ x ∈ excludes, a ∈ Written pod n.ones x)) := by
  constructor
  · rintro ⟨tabu', stored', hcheck', hstored', -, hranges⟩ hfalse a ha
    rw [hcheck] at hcheck'
    rw [hstored] at hstored'
    cases hcheck'
    cases hstored'
    have hi : a.toNat = r.toNat + (a.toNat - r.toNat) := by
      have := le_of_mem_cidrSet hpod hr ha
      omega
    rw [hranges hfalse _ a ha hi, mem_ranges hpod hr hmem hi]
  · intro h
    refine ⟨tabu, stored, hcheck, hstored, ?_, ?_⟩
    · intro htrue
      obtain ⟨x, hx, -, -, -, -, hsub⟩ := (podExcluded_iff hpod).mpr (hcovers.mp htrue)
      exact ⟨x, hx, fun a ha => Or.inl (hsub ha)⟩
    · intro hfalse i a ha hi
      rw [h hfalse a ha, mem_ranges hpod hr hmem hi]

omit hpod in
/-- Excludes written with their network address have no host bits to cover. -/
theorem hostBitsCovered_of_networks {p : Nat} (hp : p < 32)
    (h : ∀ x ∈ excludes, ∀ ip q, excludeOf x = some (ip, q) → 2 ^ (32 - q) ∣ ip.toNat) :
    HostBitsCovered excludes pod p := by
  refine ⟨?_, ?_, fun h32 => absurd h32 hp.ne⟩
  · intro x hx ip q hof _ _ a ha hbelow
    rw [mem_excludedSet hof] at ha
    have hle : ip.toNat ≤ a.toNat := by
      rw [← Nat.div_mul_cancel (h x hx ip q hof), ha]
      exact Nat.div_mul_le_self _ _
    omega
  · intro x hx ip q hof _ _ a _ hnot hmin hmax
    refine absurd ((mem_excludedSet hof a).mpr ?_) hnot
    obtain ⟨c, hc⟩ := h x hx ip q hof
    rw [hc, Nat.mul_div_cancel_left c (Nat.two_pow_pos _)]
    refine (Nat.div_eq_of_lt_le ?_ ?_).symm
    · rw [Nat.mul_comm, ← hc]
      exact hmin
    · rw [Nat.succ_mul, Nat.mul_comm, ← hc]
      exact hmax

end Agreement

/-- **The controller and the daemon agree on what is excluded** from a computed pod CIDR
exactly when one exclude holds it whole, or host bits of the excludes are covered. -/
theorem excludes_agree_iff {base : String} {ip : IP4} {n : IPNet}
    (hbase : parseCIDR base = some (ip, n)) {k idx : Nat} (hfit : n.ones + k ≤ 32) {r : IP4}
    (hr : computeNet base idx k = some (.ok r)) {pod : String}
    (hpod : getCIDRFromByte r base k = some pod) {excludes : List String}
    (hvalid : ∀ x ∈ excludes, (∃ e, parseCIDR x = some e) ∨ ∃ a, parseIP x = some a) :
    ExcludesAgree base idx k excludes r pod ↔
      PodExcluded excludes pod (n.ones + k) ∨ HostBitsCovered excludes pod (n.ones + k) := by
  rw [getCIDRFromByte_eq hbase] at hpod
  have hpod := Option.some.inj hpod
  subst hpod
  have hparse := parseCIDR_cidrString r hfit
  have hdvd := (computeNet_isBlock hbase hfit (Int.natCast_nonneg idx) hr).dvd
  have hvalid' : ∀ x ∈ excludes, ∃ e, excludeOf x = some e :=
    fun x hx => exists_excludeOf (hvalid x hx)
  obtain ⟨tabu, htabu, hcovers⟩ := tabuLoop_eq (p := n.ones + k) hr (b := n.ones) (by simp) hvalid'
  have hcheck : checkIfTabuIndex base idx k excludes = some tabu := by
    rw [checkIfTabuIndex, blockOf_eq hbase]
    exact htabu
  have haddress : ∀ x, (∃ item ∈ sortAddress excludes, item.address = x) ↔ x ∈ excludes := by
    intro x
    rw [← (sortAddress_perm excludes).mem_iff, List.mem_map]
  obtain ⟨stored, hstored, hmem⟩ := extract_eq hparse fun item hitem =>
    hvalid' item.address ((haddress _).mp ⟨item, hitem, rfl⟩)
  simp only [haddress] at hmem
  rw [excludesAgree_iff hparse hdvd hcheck hcovers hstored hmem, podExcluded_iff hparse, ← hcovers]
  cases tabu with
  | true => simp
  | false =>
    have hnot : ¬ ∃ x ∈ excludes, Covers (n.ones + k) r x := by
      rw [← hcovers]
      exact Bool.false_ne_true
    rw [← written_iff_excluded_iff hparse hvalid' hnot]
    simp

theorem excludes_agree_networkAddress :
    ExcludesAgree "10.0.0.0/16" (1 : Nat) (8 : Nat) ["10.0.1.4/30", "10.0.1.9"] ⟨10, 0, 1, 0⟩
      "10.0.1.0/24" := by
  have hbase : parseCIDR "10.0.0.0/16" = some (⟨10, 0, 0, 0⟩, ⟨⟨10, 0, 0, 0⟩, 16, by decide⟩) := by
    decide +kernel
  have hr : computeNet "10.0.0.0/16" (1 : Nat) (8 : Nat) = some (.ok ⟨10, 0, 1, 0⟩) := by
    rw [computeNet_eq hbase]
    rfl
  have hpod : getCIDRFromByte ⟨10, 0, 1, 0⟩ "10.0.0.0/16" (8 : Nat) = some "10.0.1.0/24" := by
    decide +kernel
  have hcidr : excludeOf "10.0.1.4/30" = some (⟨10, 0, 1, 4⟩, 30) := by decide +kernel
  have hbare : excludeOf "10.0.1.9" = some (⟨10, 0, 1, 9⟩, 32) := by decide +kernel
  refine (excludes_agree_iff hbase (by decide) hr hpod ?_).mpr
    (Or.inr (hostBitsCovered_of_networks (by decide) ?_))
  · intro x hx
    simp only [List.mem_cons, List.not_mem_nil, or_false] at hx
    rcases hx with rfl | rfl
    · exact Or.inl (Option.isSome_iff_exists.mp (by decide +kernel))
    · exact Or.inr (Option.isSome_iff_exists.mp (by decide +kernel))
  · intro x hx ip q hof
    simp only [List.mem_cons, List.not_mem_nil, or_false] at hx
    rcases hx with rfl | rfl
    · rw [hcidr] at hof
      cases hof
      decide
    · rw [hbare] at hof
      cases hof
      decide

/-- The address before the written one of `10.0.0.5/30` is in the network, but the daemon's
range starts after it. -/
theorem excludes_disagree_hostBits :
    computeNet "10.0.0.0/16" 0 8 = some (.ok ⟨10, 0, 0, 0⟩) ∧
      getCIDRFromByte ⟨10, 0, 0, 0⟩ "10.0.0.0/16" 8 = some "10.0.0.0/24" ∧
      (parseCIDR "10.0.0.5/30").isSome = true ∧
      ¬ ExcludesAgree "10.0.0.0/16" 0 8 ["10.0.0.5/30"] ⟨10, 0, 0, 0⟩ "10.0.0.0/24" := by
  refine ⟨by decide +kernel, by decide +kernel, by decide +kernel, ?_⟩
  rintro ⟨tabu, stored, htabu, hstored, -, hranges⟩
  have htabu' : checkIfTabuIndex "10.0.0.0/16" 0 8 ["10.0.0.5/30"] = some false := by decide +kernel
  have hstored' : extractMatchExcludesFromPodCIDR "10.0.0.0/24" (sortAddress ["10.0.0.5/30"]) =
      some ["10.0.0.5/30"] := by decide +kernel
  have hof : excludeOf "10.0.0.5/30" = some (⟨10, 0, 0, 5⟩, 30) := by decide +kernel
  have hpod : parseCIDR "10.0.0.0/24" = some (⟨10, 0, 0, 0⟩, ⟨⟨10, 0, 0, 0⟩, 24, by decide⟩) := by
    decide +kernel
  rw [htabu'] at htabu
  rw [hstored'] at hstored
  cases htabu
  cases hstored
  have hmem : (⟨10, 0, 0, 4⟩ : IP4) ∈ cidrSet "10.0.0.0/24" := (mem_cidrSet hpod _).mpr (by decide)
  have hexcluded : ∃ x ∈ ["10.0.0.5/30"], (⟨10, 0, 0, 4⟩ : IP4) ∈ excludedSet x :=
    ⟨_, List.mem_singleton_self _, (mem_excludedSet hof _).mpr (by decide)⟩
  have hranges' : getExcludeRanges "10.0.0.0/24" ["10.0.0.5/30"] = [⟨5, 8⟩] := by decide +kernel
  obtain ⟨range, hrange, hmin, -⟩ := (hranges rfl 4 _ hmem (by decide)).mp hexcluded
  rw [hranges', List.mem_singleton] at hrange
  subst hrange
  exact absurd hmin (by decide)

end MultiNicCni
