import MultiNicCni.Go.Text

/-!
# Byte strings as numbers, and prefix masks

Network addresses are big-endian byte strings. This module relates the two
readings that address code mixes:

- `beVal`: the number a byte string denotes, with its bounds and injectivity;
- `cidrMask p n`: the `n`-byte mask with `p` leading ones. It is built by
  recursion on the bytes (each byte takes up to eight of the ones), so masking
  is characterized by one induction rather than by a case for every prefix
  length: masking with `p` ones clears the low `8 * n - p` bits of the number
  (`beVal_land_cidrMask`);
- `addBytewise`: addition byte by byte, each byte wrapping on its own. It keeps
  alignment (`dvd_beVal_addBytewise`), is injective in the summand
  (`addBytewise_cancel`), and is ordinary addition when the summand only uses
  bits that the base leaves free (`beVal_addBytewise`).
-/

namespace MultiNicCni.Go

/-! ## Big-endian value -/

/-- The number denoted by a big-endian byte string. -/
def beVal : List UInt8 → Nat
  | [] => 0
  | b :: bs => b.toNat * 256 ^ bs.length + beVal bs

theorem beVal_lt : ∀ l : List UInt8, beVal l < 256 ^ l.length
  | [] => by simp [beVal]
  | b :: bs => by
    have ih := beVal_lt bs
    have hb : b.toNat < 256 := b.toNat_lt
    calc beVal (b :: bs) < b.toNat * 256 ^ bs.length + 256 ^ bs.length :=
          Nat.add_lt_add_left ih _
      _ = (b.toNat + 1) * 256 ^ bs.length := by ring
      _ ≤ 256 * 256 ^ bs.length := Nat.mul_le_mul_right _ hb
      _ = 256 ^ (b :: bs).length := by rw [List.length_cons, pow_succ']

/-- Byte strings of one length with one value are equal. -/
theorem beVal_inj : ∀ {l m : List UInt8}, l.length = m.length → beVal l = beVal m → l = m
  | [], [], _, _ => rfl
  | a :: l, b :: m, hlen, hval => by
    have hlen' : l.length = m.length := Nat.succ.inj hlen
    have hl := beVal_lt l
    have hm := beVal_lt m
    rw [beVal, beVal, hlen'] at hval
    rw [hlen'] at hl
    have hpos : 0 < 256 ^ m.length := Nat.pow_pos (by omega)
    have hdiv := congrArg (· / 256 ^ m.length) hval
    simp only [Nat.add_comm (_ * _), Nat.add_mul_div_right _ _ hpos,
      Nat.div_eq_of_lt hl, Nat.div_eq_of_lt hm, Nat.zero_add] at hdiv
    have hab : a = b := UInt8.toNat_inj.mp hdiv
    subst hab
    rw [beVal_inj hlen' (Nat.add_left_cancel hval)]

/-! ## Prefix masks -/

theorem pow256 (k : Nat) : (256 : Nat) ^ k = 2 ^ (8 * k) := by
  rw [pow_mul]
  norm_num

/-- A mask byte with `p` leading ones (eight, when `p` is larger). -/
def maskByte (p : Nat) : UInt8 := UInt8.ofNat (256 - 2 ^ (8 - p))

/-- `net.CIDRMask(p, 8 * n)`: the `n`-byte mask with `p` leading ones. -/
def cidrMask : Nat → Nat → List UInt8
  | _, 0 => []
  | p, n + 1 => maskByte p :: cidrMask (p - 8) n

/-- Bytewise conjunction with a mask. -/
def landBytes (l m : List UInt8) : List UInt8 := List.zipWith (· &&& ·) l m

@[simp] theorem length_cidrMask : ∀ p n, (cidrMask p n).length = n
  | _, 0 => rfl
  | p, n + 1 => by rw [cidrMask, List.length_cons, length_cidrMask]

theorem length_landBytes {l : List UInt8} {p n : Nat} (hl : l.length = n) :
    (landBytes l (cidrMask p n)).length = n := by
  simp [landBytes, hl]

theorem land_maskByte_table :
    ∀ p < 9, ∀ x < 256, x &&& (256 - 2 ^ (8 - p)) % 256 = x / 2 ^ (8 - p) * 2 ^ (8 - p) := by
  decide +kernel

/-- Masking a byte clears its low bits. -/
theorem toNat_land_maskByte (b : UInt8) (p : Nat) :
    (b &&& maskByte p).toNat = b.toNat / 2 ^ (8 - p) * 2 ^ (8 - p) := by
  rw [UInt8.toNat_and, maskByte, UInt8.toNat_ofNat']
  by_cases hp : p < 9
  · exact land_maskByte_table p hp b.toNat b.toNat_lt
  · have h8 : 8 - p = 8 - 8 := by omega
    rw [h8]
    exact land_maskByte_table 8 (by omega) b.toNat b.toNat_lt

/-- Masking with `p` leading ones clears the low bits of the value. -/
theorem beVal_land_cidrMask (l : List UInt8) (p : Nat) :
    beVal (landBytes l (cidrMask p l.length)) =
      beVal l / 2 ^ (8 * l.length - p) * 2 ^ (8 * l.length - p) := by
  induction l generalizing p with
  | nil => simp [beVal, landBytes]
  | cons b bs ih =>
    have hlen : (landBytes bs (cidrMask (p - 8) bs.length)).length = bs.length :=
      length_landBytes rfl
    have hstep : beVal (landBytes (b :: bs) (cidrMask p (b :: bs).length)) =
        (b &&& maskByte p).toNat * 256 ^ bs.length +
          beVal (landBytes bs (cidrMask (p - 8) bs.length)) := by
      show (b &&& maskByte p).toNat *
          256 ^ (landBytes bs (cidrMask (p - 8) bs.length)).length + _ = _
      rw [hlen]
      rfl
    rw [hstep, ih, toNat_land_maskByte, beVal, List.length_cons, pow256]
    have hlt : beVal bs < 2 ^ (8 * bs.length) := by
      rw [← pow256]
      exact beVal_lt bs
    rcases Nat.lt_or_ge p 8 with hp | hp
    · -- the mask ends inside this byte: the rest is cleared
      have hp8 : p - 8 = 0 := by omega
      have he : 8 * (bs.length + 1) - p = 8 * bs.length + (8 - p) := by omega
      have hdiv : (b.toNat * 2 ^ (8 * bs.length) + beVal bs) /
          2 ^ (8 * bs.length + (8 - p)) = b.toNat / 2 ^ (8 - p) := by
        rw [pow_add, ← Nat.div_div_eq_div_mul, Nat.add_comm,
          Nat.add_mul_div_right _ _ (Nat.two_pow_pos _), Nat.div_eq_of_lt hlt, Nat.zero_add]
      rw [hp8, Nat.sub_zero, Nat.div_eq_of_lt hlt, he, hdiv, pow_add]
      ring
    · -- the whole byte is kept and the mask goes on in the rest
      have h8 : 8 - p = 0 := by omega
      have he : 8 * (bs.length + 1) - p = 8 * bs.length - (p - 8) := by omega
      obtain ⟨e, hk⟩ : ∃ e, 8 * bs.length = (8 * bs.length - (p - 8)) + e :=
        ⟨8 * bs.length - (8 * bs.length - (p - 8)), by omega⟩
      rw [h8, he, pow_zero, Nat.div_one, Nat.mul_one]
      generalize 8 * bs.length - (p - 8) = q at hk
      have hmul : b.toNat * 2 ^ (8 * bs.length) = b.toNat * 2 ^ e * 2 ^ q := by
        rw [hk, pow_add]
        ring
      rw [hmul, Nat.add_comm, Nat.add_comm (b.toNat * 2 ^ e * 2 ^ q) (beVal bs),
        Nat.add_mul_div_right _ _ (Nat.two_pow_pos _), Nat.add_mul]

/-! ## Bytewise addition -/

/-- Byte strings added byte by byte, each modulo 256. -/
def addBytewise (l t : List UInt8) : List UInt8 := List.zipWith (· + ·) l t

/-- Adding to a fixed base is injective. -/
theorem addBytewise_cancel : ∀ {l t t' : List UInt8}, t.length = l.length →
    t'.length = l.length → addBytewise l t = addBytewise l t' → t = t'
  | [], [], [], _, _, _ => rfl
  | a :: l, b :: t, b' :: t', h, h', heq => by
    obtain ⟨hb, ht⟩ := List.cons.inj (show (a + b) :: addBytewise l t =
      (a + b') :: addBytewise l t' from heq)
    rw [(UInt8.add_right_inj a).mp hb, addBytewise_cancel (Nat.succ.inj h) (Nat.succ.inj h') ht]

theorem length_addBytewise {l t : List UInt8} (h : t.length = l.length) :
    (addBytewise l t).length = l.length := by
  simp [addBytewise, h]

/-- A byte string is aligned to `q` bits iff its first byte is aligned to those
of the `q` bits it holds, and the rest to the others. -/
theorem dvd_beVal_cons (b : UInt8) (bs : List UInt8) (q : Nat) :
    2 ^ (8 * (bs.length + 1) - q) ∣ beVal (b :: bs) ↔
      2 ^ (8 - q) ∣ b.toNat ∧ 2 ^ (8 * bs.length - (q - 8)) ∣ beVal bs := by
  have hlt : beVal bs < 2 ^ (8 * bs.length) := by
    rw [← pow256]
    exact beVal_lt bs
  rw [beVal, pow256]
  rcases Nat.lt_or_ge q 8 with hq | hq
  · -- the alignment boundary lies in the first byte: the rest must be zero
    have hq8 : q - 8 = 0 := by omega
    have he : 8 * (bs.length + 1) - q = (8 - q) + 8 * bs.length := by omega
    rw [hq8, Nat.sub_zero, he, pow_add]
    constructor
    · intro h
      have hrest : 2 ^ (8 * bs.length) ∣ beVal bs :=
        (Nat.dvd_add_right (Dvd.intro_left _ rfl)).mp (dvd_trans (Dvd.intro_left _ rfl) h)
      rw [Nat.eq_zero_of_dvd_of_lt hrest hlt, Nat.add_zero] at h
      exact ⟨Nat.dvd_of_mul_dvd_mul_right (Nat.two_pow_pos _) h, hrest⟩
    · rintro ⟨hb, hrest⟩
      rw [Nat.eq_zero_of_dvd_of_lt hrest hlt, Nat.add_zero]
      exact Nat.mul_dvd_mul_right hb _
  · have h8 : 8 - q = 0 := by omega
    have he : 8 * (bs.length + 1) - q = 8 * bs.length - (q - 8) := by omega
    have hdvd : 2 ^ (8 * bs.length - (q - 8)) ∣ b.toNat * 2 ^ (8 * bs.length) :=
      dvd_mul_of_dvd_right (pow_dvd_pow 2 (Nat.sub_le _ _)) _
    rw [h8, he, pow_zero, Nat.dvd_add_right hdvd]
    exact ⟨fun h => ⟨one_dvd _, h⟩, fun h => h.2⟩

/-- Bytewise addition keeps alignment. -/
theorem dvd_beVal_addBytewise : ∀ {l t : List UInt8} {q : Nat}, t.length = l.length →
    2 ^ (8 * l.length - q) ∣ beVal l → 2 ^ (8 * l.length - q) ∣ beVal t →
    2 ^ (8 * l.length - q) ∣ beVal (addBytewise l t)
  | [], [], q, _, _, _ => by simp [addBytewise, beVal]
  | a :: l, b :: t, q, hlen, hl, ht => by
    have hlen' : t.length = l.length := Nat.succ.inj hlen
    show 2 ^ (8 * (l.length + 1) - q) ∣ beVal ((a + b) :: addBytewise l t)
    have hadd := length_addBytewise hlen'
    rw [← hadd, dvd_beVal_cons, hadd]
    have hl' := (dvd_beVal_cons a l q).mp hl
    have ht' : 2 ^ (8 - q) ∣ b.toNat ∧ 2 ^ (8 * t.length - (q - 8)) ∣ beVal t := by
      refine (dvd_beVal_cons b t q).mp ?_
      rw [hlen']
      exact ht
    rw [hlen'] at ht'
    refine ⟨?_, dvd_beVal_addBytewise hlen' hl'.2 ht'.2⟩
    rw [UInt8.toNat_add]
    exact (Nat.dvd_mod_iff (pow_dvd_pow 2 (Nat.sub_le _ _))).mpr (Dvd.dvd.add hl'.1 ht'.1)

/-- Bytewise addition is addition when the base is aligned to `p` bits and the
summand fits below them: no byte wraps. -/
theorem beVal_addBytewise : ∀ {l t : List UInt8} {p : Nat}, t.length = l.length →
    2 ^ (8 * l.length - p) ∣ beVal l → beVal t < 2 ^ (8 * l.length - p) →
    beVal (addBytewise l t) = beVal l + beVal t
  | [], [], _, _, _, _ => rfl
  | a :: l, b :: t, p, hlen, hl, ht => by
    have hlen' : t.length = l.length := Nat.succ.inj hlen
    have hl' := (dvd_beVal_cons a l p).mp hl
    rw [beVal, hlen', pow256, List.length_cons] at ht
    have hb : b.toNat < 256 := b.toNat_lt
    have ha : a.toNat < 256 := a.toNat_lt
    have htlt : beVal t < 2 ^ (8 * l.length) := by
      rw [← pow256, ← hlen']
      exact beVal_lt t
    -- the first byte takes what is left of `p` in it, the rest the remainder
    have hfirst : a.toNat + b.toNat < 256 ∧ beVal t < 2 ^ (8 * l.length - (p - 8)) := by
      rcases Nat.lt_or_ge p 8 with hp | hp
      · have he : 8 * (l.length + 1) - p = (8 - p) + 8 * l.length := by omega
        have hp8 : p - 8 = 0 := by omega
        rw [he, pow_add] at ht
        have hblt : b.toNat < 2 ^ (8 - p) := by
          by_contra hge
          have := Nat.mul_le_mul_right (2 ^ (8 * l.length)) (Nat.not_lt.mp hge)
          omega
        refine ⟨?_, by rw [hp8, Nat.sub_zero]; exact htlt⟩
        obtain ⟨c, hc⟩ := hl'.1
        have h256 : 2 ^ (8 - p) * 2 ^ p = 256 := by
          rw [← pow_add, show 8 - p + p = 8 by omega]
          norm_num
        have hclt : c < 2 ^ p := by
          by_contra hge
          have := Nat.mul_le_mul_left (2 ^ (8 - p)) (Nat.not_lt.mp hge)
          omega
        have := Nat.mul_le_mul_left (2 ^ (8 - p)) (show c + 1 ≤ 2 ^ p from hclt)
        rw [Nat.mul_add] at this
        omega
      · have he : 8 * (l.length + 1) - p = 8 * l.length - (p - 8) := by omega
        have hle : 2 ^ (8 * l.length - (p - 8)) ≤ 2 ^ (8 * l.length) :=
          Nat.pow_le_pow_right (by omega) (Nat.sub_le _ _)
        rw [he] at ht
        have hb0 : b.toNat = 0 := by
          by_contra hne
          have := Nat.mul_le_mul_right (2 ^ (8 * l.length)) (Nat.one_le_iff_ne_zero.mpr hne)
          omega
        exact ⟨by omega, by omega⟩
    have ih := beVal_addBytewise hlen' hl'.2 hfirst.2
    show (a + b).toNat * 256 ^ (addBytewise l t).length + beVal (addBytewise l t) = _
    rw [length_addBytewise hlen', ih, beVal, beVal, hlen', UInt8.toNat_add,
      Nat.mod_eq_of_lt (show a.toNat + b.toNat < 2 ^ 8 from hfirst.1)]
    ring

end MultiNicCni.Go
