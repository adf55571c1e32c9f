import Mathlib
import MultiNicCni.Compute.Compute

/-!
# What `ComputeNet` computes

`addAddress` works on the binary text of an index and on single bytes. This module
gives the numbers: the text of an index `i` of `k` bits, spread over the bytes after
a mask of `p` ones, denotes `i * 2 ^ (8 * n - p - k)` (`addBytes_spec`), and is added
byte by byte. From that one spec:

- `computeNet_isBlock`: a successful result lies in the base network, is aligned to the
  longer prefix, and determines the index (`IsBlock.inj`), also when the base
  text has host bits set;
- `computeNet_aligned`: from a network address the result is the plain sum;
- `computeNet_outOfRange`: an index of more than `k` bits is an error;
- `computeNet_blocks`: so `ComputeNet` cuts a network into blocks, whose CIDRs are disjoint.

`IsBlock` packages what the layout proofs use of a computed block.
-/

namespace MultiNicCni.Compute

open Go

variable {bits : List Char} {p k i : Nat} {r : IP4} {s : String}

/-! ## Binary texts -/

/-- The number of a binary text. -/
def bitsVal (bits : List Char) : Nat := Nat.ofDigitChars 2 bits 0

/-- Every character is a binary digit. -/
def IsBits (bits : List Char) : Prop := ∀ c ∈ bits, c = '0' ∨ c = '1'

theorem ofDigitChars_init (b : Nat) (l : List Char) (init : Nat) :
    Nat.ofDigitChars b l init = b ^ l.length * init + Nat.ofDigitChars b l 0 := by
  induction l generalizing init with
  | nil => simp
  | cons c l ih =>
    rw [Nat.ofDigitChars_cons, Nat.ofDigitChars_cons, ih, ih (b * 0 + _), List.length_cons]
    ring

theorem bitsVal_append (l m : List Char) :
    bitsVal (l ++ m) = bitsVal l * 2 ^ m.length + bitsVal m := by
  rw [bitsVal, Nat.ofDigitChars_append, ofDigitChars_init]
  simp only [bitsVal]
  ring

@[simp] theorem bitsVal_nil : bitsVal [] = 0 := rfl

@[simp] theorem bitsVal_zeros (n : Nat) : bitsVal (List.replicate n '0') = 0 := by
  rw [bitsVal, Nat.ofDigitChars_replicate_zero, Nat.mul_zero]

theorem bitsVal_lt (h : IsBits bits) : bitsVal bits < 2 ^ bits.length := by
  induction bits with
  | nil => simp
  | cons c bits ih =>
    have ih' := ih fun d hd => h d (List.mem_cons_of_mem c hd)
    have hc : bitsVal [c] ≤ 1 := by
      rcases h c List.mem_cons_self with rfl | rfl <;> decide
    have happ := bitsVal_append [c] bits
    rw [List.singleton_append] at happ
    have hmul := Nat.mul_le_mul_right (2 ^ bits.length) hc
    rw [happ, List.length_cons, pow_succ]
    omega

theorem isBits_toDigits (n : Nat) : IsBits (Nat.toDigits 2 n) := by
  induction n using Nat.strong_induction_on with
  | _ n ih =>
    have hdigit : ∀ m < 2, Nat.digitChar m = '0' ∨ Nat.digitChar m = '1' := by decide
    rw [Nat.toDigits_eq_if (by omega)]
    split
    · next hn =>
      intro c hc
      rw [List.mem_singleton.mp hc]
      exact hdigit n hn
    · next hn =>
      intro c hc
      rcases List.mem_append.mp hc with hc | hc
      · exact ih (n / 2) (by omega) c hc
      · rw [List.mem_singleton.mp hc]
        exact hdigit (n % 2) (by omega)

/-- A non-empty binary text of at most eight digits parses as its number. -/
theorem parseInt_bits (h : IsBits bits) (hne : bits ≠ []) (hlen : bits.length ≤ 8) :
    parseInt 2 bits = ((bitsVal bits : Int), true) := by
  have hall : bits.all (isDigitOf 2) = true := by
    rw [List.all_eq_true]
    intro c hc
    rcases h c hc with rfl | rfl <;> rfl
  have hdig : parseDigits 2 bits = some (bitsVal bits) := by
    rw [parseDigits, if_pos ⟨hne, hall⟩]
    rfl
  have hlt : bitsVal bits < 2 ^ 8 :=
    Nat.lt_of_lt_of_le (bitsVal_lt h) (Nat.pow_le_pow_right (by omega) hlen)
  rw [parseInt_of_digits hdig, parseInt.positive, if_pos]
  unfold maxInt64
  omega

theorem toNat_toByte {n : Nat} (h : n < 256) : (toByte (n : Int)).toNat = n := by
  rw [toByte, UInt8.toNat_ofNat']
  omega

/-! ## Mask bytes -/

theorem maskIndex_table : ∀ p < 9, maskIndex (maskByte p) = (p : Int) ∧
    MASKCHECK[p]? = some (maskByte p) := by
  decide

theorem maskByte_of_ge (h : 8 ≤ p) : maskByte p = 255 := by
  have : 8 - p = 0 := by omega
  rw [maskByte, this]
  rfl

theorem maskByte_ne (h : p < 8) : maskByte p ≠ 255 := by
  revert h
  revert p
  decide

/-- Extending a prefix mask by `k` ones. -/
theorem appendMask_cidrMask (n p k : Nat) :
    appendMask (cidrMask p n) k = some (cidrMask (p + k) n) := by
  induction n generalizing p k with
  | zero => rfl
  | succ n ih =>
    rw [cidrMask, appendMask]
    by_cases hp : 8 ≤ p
    · -- a full byte is copied
      rw [if_pos (Or.inl (maskByte_of_ge hp)), ih, cidrMask, maskByte_of_ge hp,
        maskByte_of_ge (by omega : 8 ≤ p + k), show p - 8 + k = p + k - 8 by omega]
      rfl
    rcases Nat.eq_zero_or_pos k with rfl | hk
    · rw [if_pos (Or.inr Nat.cast_zero), ih, cidrMask, Nat.add_zero, Nat.add_zero]
      rfl
    have hm := maskIndex_table p (by omega)
    rw [if_neg (by rintro (h | h); exacts [maskByte_ne (by omega) h, by omega])]
    simp only [hm.1, byteSize]
    by_cases hfill : 8 - p < k
    · -- the byte is filled and the rest of the ones go on
      have hrem : (k : Int) - (8 - (p : Int)) = ((k - (8 - p) : Nat) : Int) := by omega
      rw [if_pos (by omega), hrem, show p - 8 = 0 by omega, ih, cidrMask,
        maskByte_of_ge (by omega : 8 ≤ p + k), show 0 + (k - (8 - p)) = p + k - 8 by omega]
      rfl
    · have hidx : index MASKCHECK ((p : Int) + (k : Int)) = some (maskByte (p + k)) := by
        rw [index, if_pos (by omega), show ((p : Int) + (k : Int)).toNat = p + k by omega]
        exact (maskIndex_table (p + k) (by omega)).2
      have hrest := ih 0 0
      rw [Nat.cast_zero] at hrest
      rw [if_neg (by omega), hidx, show p - 8 = 0 by omega, hrest, cidrMask,
        show p + k - 8 = 0 + 0 by omega]
      rfl

/-! ## The byte loop -/

/-- The digits put into one byte: `pad` zeros, the bits, and zeros up to eight. -/
theorem parse_target (pad : Nat) (h : IsBits bits) (hne : bits ≠ []) (hlen : pad + bits.length ≤ 8) :
    let target := List.replicate pad '0' ++ bits
    parseInt 2 (target ++ List.replicate (8 - target.length) '0') =
      (((bitsVal bits * 2 ^ (8 - pad - bits.length) : Nat) : Int), true) := by
  intro target
  have htlen : target.length = pad + bits.length := by simp [target]
  have hbits : IsBits (target ++ List.replicate (8 - target.length) '0') := by
    intro c hc
    rcases List.mem_append.mp hc with hc | hc
    · rcases List.mem_append.mp hc with hc | hc
      · exact Or.inl (List.eq_of_mem_replicate hc)
      · exact h c hc
    · exact Or.inl (List.eq_of_mem_replicate hc)
  rw [parseInt_bits hbits (by simp [target, hne]) (by simp [htlen]; omega)]
  simp only [target, bitsVal_append, bitsVal_zeros, List.length_replicate, List.length_append,
    Nat.zero_mul, Nat.zero_add, Nat.add_zero, Nat.sub_sub]

/-- The value of one filled byte stays below 256. -/
theorem target_lt (pad : Nat) (h : IsBits bits) (hlen : pad + bits.length ≤ 8) :
    bitsVal bits * 2 ^ (8 - pad - bits.length) < 256 := by
  have hlt := Nat.mul_lt_mul_of_pos_right (bitsVal_lt h)
    (Nat.two_pow_pos (8 - pad - bits.length))
  have hpow : 2 ^ bits.length * 2 ^ (8 - pad - bits.length) ≤ 2 ^ 8 := by
    rw [← pow_add]
    exact Nat.pow_le_pow_right (by omega) (by omega)
  omega

/-- The bits still to be placed: none, as many as the block still has, or the single
zero digit of a block of no bits. -/
def Remaining (p n k : Nat) (bits : List Char) : Prop :=
  bits = [] ∨ (p + k ≤ 8 * n ∧ (bits.length = k ∨ (bits = ['0'] ∧ k = 0)))

/-- A byte that is copied uses up eight ones of the mask, or there are no bits left. -/
theorem Remaining.copy {n : Nat} (h : Remaining p (n + 1) k bits) (hp : bits = [] ∨ 8 ≤ p) :
    Remaining (p - 8) n k bits := by
  rcases h with h | ⟨hfit, hlen⟩
  · exact Or.inl h
  · rcases hp with h | h
    · exact Or.inl h
    · exact Or.inr ⟨by omega, hlen⟩

/-- Without a byte left the bits that remain are zero. -/
theorem Remaining.val_zero (h : Remaining p 0 k bits) : bitsVal bits = 0 := by
  rcases h with rfl | ⟨hfit, hlen | ⟨rfl, -⟩⟩
  · rfl
  · rw [List.length_eq_zero_iff.mp (by omega : bits.length = 0)]
    rfl
  · rfl

/-- The first `j` bits, `m` places up, and the others right after them. -/
theorem bitsVal_take_drop {j m : Nat} (hm : (bits.drop j).length ≤ m) :
    bitsVal (bits.take j) * 2 ^ m + bitsVal (bits.drop j) * 2 ^ (m - (bits.drop j).length) =
      bitsVal bits * 2 ^ (m - (bits.drop j).length) := by
  have hval : bitsVal bits =
      bitsVal (bits.take j) * 2 ^ (bits.drop j).length + bitsVal (bits.drop j) := by
    rw [← bitsVal_append, List.take_append_drop]
  have hpow : 2 ^ m = 2 ^ (bits.drop j).length * 2 ^ (m - (bits.drop j).length) := by
    rw [← pow_add, Nat.add_sub_cancel' hm]
  rw [hval, hpow]
  ring

section Step

variable {b : UInt8} {rest : List (UInt8 × UInt8)} {outs : List UInt8}

/-- A byte of ones is copied, and so is every byte after the last bit. -/
theorem addBytes_copy {value : UInt8} {block : Int} (hcopy : value = 255 ∨ bits = [])
    (hadd : addBytes rest block bits = .ok outs) :
    addBytes ((value, b) :: rest) block bits = .ok ((b + 0) :: outs) := by
  rw [addBytes, if_pos hcopy, hadd, UInt8.add_zero]
  rfl

/-- A byte with too little room is filled with the first bits, and the others go on. -/
theorem addBytes_fill (hp : p < 8) (hbits : IsBits bits) (hlen : bits.length = k)
    (hfill : 8 - p < k) (hadd : addBytes rest (k - (8 - p) : Nat) (bits.drop (8 - p)) = .ok outs) :
    addBytes ((maskByte p, b) :: rest) k bits =
      .ok ((b + toByte (bitsVal (bits.take (8 - p)) : Nat)) :: outs) := by
  have hcopy : ¬(maskByte p = 255 ∨ bits = []) := by
    rintro (h | rfl)
    · exact maskByte_ne hp h
    · simp at hlen
      omega
  have hhilen : (bits.take (8 - p)).length = 8 - p := by
    rw [List.length_take]
    omega
  have hhine : bits.take (8 - p) ≠ [] := by
    rw [← List.length_pos_iff]
    omega
  have htarget := parse_target p (fun c hc => hbits c (List.mem_of_mem_take hc)) hhine (by omega)
  rw [hhilen, Nat.sub_self, pow_zero, Nat.mul_one] at htarget
  have hmi : maskIndex (maskByte p) = (p : Int) := (maskIndex_table p (by omega)).1
  have hblock : (k : Int) - (8 - (p : Int)) = ((k - (8 - p) : Nat) : Int) := by omega
  have haddable : (8 - (p : Int)).toNat = 8 - p := by omega
  rw [addBytes, if_neg hcopy]
  simp only [hmi, byteSize, Int.toNat_natCast, gt_iff_lt, show 8 - (p : Int) < (k : Int) by omega,
    if_true, haddable, hblock, htarget, hadd]
  rfl

/-- The last bits are put into the byte they fit in. -/
theorem addBytes_last (hp : p < 8) (hbits : IsBits bits) (hne : bits ≠ [])
    (hlen : p + bits.length ≤ 8) (hfill : ¬ 8 - p < k) (hadd : addBytes rest k [] = .ok outs) :
    addBytes ((maskByte p, b) :: rest) k bits =
      .ok ((b + toByte (bitsVal bits * 2 ^ (8 - p - bits.length) : Nat)) :: outs) := by
  have hcopy : ¬(maskByte p = 255 ∨ bits = []) := not_or.mpr ⟨maskByte_ne hp, hne⟩
  have htarget := parse_target p hbits hne hlen
  have hmi : maskIndex (maskByte p) = (p : Int) := (maskIndex_table p (by omega)).1
  rw [addBytes, if_neg hcopy]
  simp only [hmi, byteSize, Int.toNat_natCast, gt_iff_lt, show ¬ (8 - (p : Int) < (k : Int)) by omega,
    if_false, htarget, hadd]
  rfl

end Step

/-- The byte loop adds, byte by byte, the number of the bits placed right after the
`p` ones of the mask. -/
theorem addBytes_spec (n p k : Nat) (bits : List Char) (base : List UInt8)
    (hbase : base.length = n) (hbits : IsBits bits) (hrem : Remaining p n k bits) :
    ∃ t : List UInt8, t.length = n ∧ beVal t = bitsVal bits * 2 ^ (8 * n - p - k) ∧
      addBytes ((cidrMask p n).zip base) k bits = .ok (addBytewise base t) := by
  induction n generalizing p k bits base with
  | zero =>
    have hnil : base = [] := List.length_eq_zero_iff.mp hbase
    subst hnil
    exact ⟨[], rfl, by rw [hrem.val_zero, Nat.zero_mul]; rfl, rfl⟩
  | succ n ih =>
    obtain ⟨a, as, rfl⟩ := List.exists_cons_of_length_eq_add_one hbase
    have has : as.length = n := Nat.succ.inj hbase
    rw [cidrMask, List.zip_cons_cons]
    by_cases hcopy : maskByte p = 255 ∨ bits = []
    · have hp : bits = [] ∨ 8 ≤ p := by
        rcases hcopy with h | h
        · exact Or.inr (by by_contra hlt; exact maskByte_ne (by omega) h)
        · exact Or.inl h
      obtain ⟨t, htlen, htval, hadd⟩ := ih (p - 8) k bits as has hbits (hrem.copy hp)
      refine ⟨0 :: t, by rw [List.length_cons, htlen], ?_, addBytes_copy hcopy hadd⟩
      rw [beVal, UInt8.toNat_zero, Nat.zero_mul, Nat.zero_add, htval]
      rcases hp with rfl | h
      · rw [bitsVal_nil, Nat.zero_mul, Nat.zero_mul]
      · rw [show 8 * (n + 1) - p - k = 8 * n - (p - 8) - k by omega]
    rw [not_or] at hcopy
    have hp : p < 8 := by
      by_contra h
      exact hcopy.1 (maskByte_of_ge (by omega))
    obtain ⟨hfit, hlen⟩ := hrem.resolve_left hcopy.2
    rw [show p - 8 = 0 by omega]
    by_cases hfill : 8 - p < k
    · -- the first digits fill this byte, the others are placed from the next one on
      have hlenk : bits.length = k := by
        rcases hlen with h | ⟨-, h⟩ <;> omega
      have hbhi : IsBits (bits.take (8 - p)) := fun c hc => hbits c (List.mem_of_mem_take hc)
      have hblo : IsBits (bits.drop (8 - p)) := fun c hc => hbits c (List.mem_of_mem_drop hc)
      have hhilen : (bits.take (8 - p)).length = 8 - p := by simp; omega
      have hlolen : (bits.drop (8 - p)).length = k - (8 - p) := by simp; omega
      have hlt := target_lt p hbhi (by omega)
      rw [hhilen, Nat.sub_self, pow_zero, Nat.mul_one] at hlt
      obtain ⟨t, htlen, htval, hadd⟩ := ih 0 (k - (8 - p)) (bits.drop (8 - p)) as has hblo
        (Or.inr ⟨by omega, Or.inl hlolen⟩)
      refine ⟨toByte (bitsVal (bits.take (8 - p)) : Nat) :: t, by rw [List.length_cons, htlen], ?_,
        addBytes_fill hp hbits hlenk hfill hadd⟩
      rw [beVal, toNat_toByte hlt, htval, htlen, pow256,
        show 8 * (n + 1) - p - k = 8 * n - (k - (8 - p)) by omega, Nat.sub_zero, ← hlolen]
      exact bitsVal_take_drop (by omega)
    · -- the last digits: the rest of the address is not touched
      have hblen : p + bits.length ≤ 8 := by
        rcases hlen with h | ⟨rfl, -⟩
        · omega
        · simp
          omega
      have hlt := target_lt p hbits hblen
      obtain ⟨t, htlen, htval, hadd⟩ := ih 0 k [] as has (fun c hc => by cases hc) (Or.inl rfl)
      refine ⟨toByte (bitsVal bits * 2 ^ (8 - p - bits.length) : Nat) :: t,
        by rw [List.length_cons, htlen], ?_, addBytes_last hp hbits hcopy.2 hblen hfill hadd⟩
      rw [beVal, toNat_toByte hlt, htval, htlen, bitsVal_nil, Nat.zero_mul, Nat.add_zero, pow256]
      rcases hlen with h | ⟨rfl, -⟩
      · rw [h, Nat.mul_assoc, ← pow_add]
        congr 2
        omega
      · simp [bitsVal, Nat.ofDigitChars]

/-! ## `addAddress` and `ComputeNet` -/

/-- The padded binary text of an index of `k` bits. -/
theorem valueInBinary_spec (hi : i < 2 ^ k) :
    IsBits (valueInBinary k i) ∧ bitsVal (valueInBinary k i) = i ∧
      ((valueInBinary k i).length = k ∨ (valueInBinary k i = ['0'] ∧ k = 0)) := by
  have hform : formatInt 2 (i : Int) = Nat.toDigits 2 i := rfl
  have hval : bitsVal (Nat.toDigits 2 i) = i := Nat.ofDigitChars_toDigits (by omega) (by omega)
  simp only [valueInBinary, hform, Int.toNat_natCast]
  refine ⟨?_, ?_, ?_⟩
  · intro c hc
    rcases List.mem_append.mp hc with hc | hc
    · exact Or.inl (List.eq_of_mem_replicate hc)
    · exact isBits_toDigits i c hc
  · rw [bitsVal_append, bitsVal_zeros, Nat.zero_mul, Nat.zero_add, hval]
  · rcases Nat.eq_zero_or_pos k with rfl | hk
    · have hi0 : i = 0 := by simpa using hi
      subst hi0
      exact Or.inr ⟨rfl, rfl⟩
    · have hlen := (Nat.length_toDigits_le_iff (b := 2) (n := i) (by omega) hk).mpr hi
      refine Or.inl ?_
      rw [List.length_append, List.length_replicate]
      omega

/-- `addAddress` adds the shifted index byte by byte, and fails only when that
leaves the base network. -/
theorem addAddress_spec (base : IP4) (hfit : p + k ≤ 32) (hi : i < 2 ^ k) :
    ∃ t : List UInt8, t.length = 4 ∧ beVal t = i * 2 ^ (32 - p - k) ∧
      addAddress base (cidrMask p 4) k i =
        if landBytes (addBytewise base.toList t) (cidrMask p 4) ≠
            landBytes base.toList (cidrMask p 4) then .error .outOfMask
        else .ok (IP4.ofList (addBytewise base.toList t)) := by
  obtain ⟨hbits, hval, hlen⟩ := valueInBinary_spec hi
  obtain ⟨t, htlen, htval, hadd⟩ := addBytes_spec 4 p k (valueInBinary k i) base.toList rfl hbits
    (Or.inr ⟨hfit, hlen⟩)
  refine ⟨t, htlen, by rw [htval, hval], ?_⟩
  have hmax : ¬ ((i : Int) > powMinusOne k) := by
    rw [powMinusOne_eq (by omega)]
    have : (i : Int) < 2 ^ k := by exact_mod_cast hi
    omega
  rw [addAddress, if_neg hmax, hadd]
  rfl

/-- `ComputeNet` on a text that parses. -/
theorem computeNet_eq {ip : IP4} {n : IPNet} (h : parseCIDR s = some (ip, n)) (idx : Int) (k : Nat) :
    computeNet s idx k = some (addAddress (ip.mask (n.ones + k)) n.mask k idx) := by
  obtain ⟨x, y, hsplit, hip, -, -⟩ := parseCIDR_eq_some h
  have happ : appendMask n.mask k = some (cidrMask (n.ones + k) 4) := appendMask_cidrMask 4 _ _
  simp only [computeNet, h, hsplit, List.headD_cons, hip, happ]
  rfl

/-- An index of more bits than the block has is rejected. -/
theorem computeNet_outOfRange {ip : IP4} {n : IPNet} (h : parseCIDR s = some (ip, n)) {idx : Int}
    (hk : k ≤ 53) (hi : 2 ^ k ≤ idx) :
    computeNet s idx k = some (.error (.outOfRange (2 ^ k - 1) idx)) := by
  have hmax : idx > powMinusOne k := by
    rw [powMinusOne_eq hk]
    omega
  rw [computeNet_eq h, addAddress, if_pos hmax, powMinusOne_eq hk]

/-- What a block computed from index `i` is: its address is the base address with
the shifted index added bytewise, and it does not leave the base network. -/
structure IsBlock (ip : IP4) (p k i : Nat) (r : IP4) : Prop where
  lt : i < 2 ^ k
  sum : ∃ t : List UInt8, t.length = 4 ∧ beVal t = i * 2 ^ (32 - p - k) ∧
    r.toList = addBytewise (ip.mask (p + k)).toList t
  inside : r.toNat / 2 ^ (32 - p) = ip.toNat / 2 ^ (32 - p)

/-- Dropping host bits first does not change the network number above them. -/
theorem mask_div (ip : IP4) {q : Nat} (hpq : p ≤ q) (hq : q ≤ 32) :
    (ip.mask q).toNat / 2 ^ (32 - p) = ip.toNat / 2 ^ (32 - p) := by
  refine div_eq_of_longer hpq hq ?_
  rw [IP4.toNat_mask, Nat.mul_div_cancel _ (Nat.two_pow_pos _)]

section Block

variable {ip : IP4} {n : IPNet}

/-- A successful `ComputeNet` gives the block of its index. -/
theorem computeNet_isBlock (h : parseCIDR s = some (ip, n)) (hfit : n.ones + k ≤ 32) {idx : Int}
    (hidx : 0 ≤ idx) (hr : computeNet s idx k = some (.ok r)) :
    IsBlock ip n.ones k idx.toNat r := by
  have hlt : idx.toNat < 2 ^ k := by
    by_contra hge
    have hge' : (2 : Int) ^ k ≤ idx := by
      have : ((2 ^ k : Nat) : Int) ≤ (idx.toNat : Int) := by exact_mod_cast Nat.not_lt.mp hge
      push_cast at this
      omega
    rw [computeNet_outOfRange h (by omega) hge'] at hr
    cases hr
  rw [computeNet_eq h, show idx = ((idx.toNat : Nat) : Int) by omega] at hr
  obtain ⟨t, htlen, htval, hadd⟩ := addAddress_spec (ip.mask (n.ones + k)) hfit hlt
  rw [IPNet.mask, hadd] at hr
  split at hr
  · cases hr
  · next hmask =>
    cases hr
    have hlen : (addBytewise (ip.mask (n.ones + k)).toList t).length = 4 :=
      length_addBytewise htlen
    refine ⟨hlt, ⟨t, htlen, htval, IP4.toList_ofList hlen⟩, ?_⟩
    rw [not_not, ← IP4.toList_ofList hlen, IP4.landBytes_eq_iff] at hmask
    rw [hmask, mask_div ip (by omega) hfit]

/-- A block is aligned to its own prefix length. -/
theorem IsBlock.dvd (hb : IsBlock ip p k i r) : 2 ^ (32 - (p + k)) ∣ r.toNat := by
  obtain ⟨t, htlen, htval, hr⟩ := hb.sum
  have hbase : 2 ^ (8 * 4 - (p + k)) ∣ beVal (ip.mask (p + k)).toList := by
    show 2 ^ (32 - (p + k)) ∣ (ip.mask (p + k)).toNat
    rw [IP4.toNat_mask]
    exact Dvd.intro_left _ rfl
  have ht : 2 ^ (8 * 4 - (p + k)) ∣ beVal t := by
    rw [htval, Nat.sub_sub]
    exact Dvd.intro_left _ rfl
  show 2 ^ (8 * 4 - (p + k)) ∣ beVal r.toList
  rw [hr]
  exact dvd_beVal_addBytewise htlen hbase ht

/-- Blocks of different indexes have different addresses. -/
theorem IsBlock.inj {j : Nat} (hi : IsBlock ip p k i r) (hj : IsBlock ip p k j r) : i = j := by
  obtain ⟨t, htlen, htval, hr⟩ := hi.sum
  obtain ⟨t', htlen', htval', hr'⟩ := hj.sum
  have ht : t = t' := addBytewise_cancel (l := (ip.mask (p + k)).toList) htlen htlen' (hr.symm.trans hr')
  rw [ht, htval'] at htval
  exact Nat.eq_of_mul_eq_mul_right (Nat.two_pow_pos _) htval.symm

/-- From a network address, the block of index `i` is the plain sum. -/
theorem computeNet_aligned (h : parseCIDR s = some (ip, n)) (hfit : n.ones + k ≤ 32)
    (hnet : 2 ^ (32 - n.ones) ∣ ip.toNat) (hi : i < 2 ^ k) :
    ∃ r : IP4, computeNet s i k = some (.ok r) ∧
      r.toNat = ip.toNat + i * 2 ^ (32 - n.ones - k) := by
  obtain ⟨t, htlen, htval, hadd⟩ := addAddress_spec (ip.mask (n.ones + k)) hfit hi
  have hlen : (addBytewise (ip.mask (n.ones + k)).toList t).length = 4 :=
    length_addBytewise htlen
  have hbase : (ip.mask (n.ones + k)).toNat = ip.toNat := by
    rw [IP4.toNat_mask, Nat.div_mul_cancel (dvd_trans (pow_dvd_pow 2 (by omega)) hnet)]
  have htlt : beVal t < 2 ^ (32 - n.ones) := by
    have hpow : 2 ^ (32 - n.ones) = 2 ^ k * 2 ^ (32 - n.ones - k) := by
      rw [← pow_add]
      congr 1
      omega
    rw [htval, hpow]
    exact Nat.mul_lt_mul_of_pos_right hi (Nat.two_pow_pos _)
  have hsum : (IP4.ofList (addBytewise (ip.mask (n.ones + k)).toList t)).toNat =
      ip.toNat + i * 2 ^ (32 - n.ones - k) := by
    rw [IP4.toNat_ofList hlen, beVal_addBytewise htlen (p := n.ones) ?_ htlt, htval]
    · show (ip.mask (n.ones + k)).toNat + _ = _
      rw [hbase]
    · show 2 ^ (32 - n.ones) ∣ (ip.mask (n.ones + k)).toNat
      rw [hbase]
      exact hnet
  refine ⟨IP4.ofList (addBytewise (ip.mask (n.ones + k)).toList t), ?_, hsum⟩
  rw [computeNet_eq h, IPNet.mask, hadd, if_neg]
  rw [not_not, ← IP4.toList_ofList hlen, IP4.landBytes_eq_iff, hsum, hbase, ← htval]
  obtain ⟨q, hq⟩ := hnet
  rw [hq, Nat.mul_add_div (Nat.two_pow_pos _), Nat.mul_div_cancel_left _ (Nat.two_pow_pos _),
    Nat.div_eq_of_lt htlt, Nat.add_zero]

theorem blockOf_eq (h : parseCIDR s = some (ip, n)) : blockOf s = some (n.ones : Int) := by
  obtain ⟨x, y, hsplit, -, hones, -⟩ := parseCIDR_eq_some h
  have hle : (n.ones : Int) ≤ maxInt64 := by
    have := n.ones_le
    unfold maxInt64
    omega
  simp [blockOf, hsplit, parseInt_of_digits hones, parseInt.positive, hle]

/-- `GetCIDRFromByte` prints the address with the longer prefix. -/
theorem getCIDRFromByte_eq (h : parseCIDR s = some (ip, n)) (r : IP4) (k : Nat) :
    getCIDRFromByte r s k = some (cidrString r (n.ones + k)) := by
  simp only [getCIDRFromByte, blockOf_eq h]
  rfl

/-- The CIDR text of a computed block is a network inside the base network. -/
theorem block_isNetwork (h : parseCIDR s = some (ip, n)) (hfit : n.ones + k ≤ 32)
    (hb : IsBlock ip n.ones k i r) :
    IsNetwork (cidrString r (n.ones + k)) (n.ones + k) ∧
      cidrSet (cidrString r (n.ones + k)) ⊆ cidrSet s := by
  refine ⟨isNetwork_cidrString hfit hb.dvd, ?_⟩
  intro x hx
  rw [mem_cidrSet (parseCIDR_cidrString r hfit)] at hx
  rw [mem_cidrSet h, ← hb.inside]
  exact div_eq_of_longer (Nat.le_add_right _ _) hfit hx

/-- Blocks of different indexes are disjoint. -/
theorem block_disjoint (hfit : n.ones + k ≤ 32) {j : Nat} {r' : IP4} (hi : IsBlock ip n.ones k i r)
    (hj : IsBlock ip n.ones k j r') (hij : i ≠ j) :
    Disjoint (cidrSet (cidrString r (n.ones + k))) (cidrSet (cidrString r' (n.ones + k))) := by
  rw [Set.disjoint_left]
  intro x hx hx'
  rw [mem_cidrSet (parseCIDR_cidrString r hfit)] at hx
  rw [mem_cidrSet (parseCIDR_cidrString r' hfit)] at hx'
  have hdiv := hx.trans hx'.symm
  have heq : r = r' := by
    refine IP4.toNat_inj ?_
    rw [← Nat.div_mul_cancel hi.dvd, ← Nat.div_mul_cancel hj.dvd]
    exact congrArg (· * _) hdiv
  subst heq
  exact hij (hi.inj hj)

/-- A computed block lies in the base network. -/
theorem IsBlock.mem_cidrSet (h : parseCIDR s = some (ip, n)) (hb : IsBlock ip n.ones k i r) :
    r ∈ cidrSet s :=
  (Go.mem_cidrSet h r).mpr hb.inside.symm

/-- **`ComputeNet` cuts a network into blocks.** From a network address every index of `k` bits
gives the plain sum and any other index an error. With host bits set, a result still lies in the
network, aligned, and different indexes give different addresses, so that the CIDRs printed from
them are disjoint. -/
theorem computeNet_blocks (h : parseCIDR s = some (ip, n)) (hfit : n.ones + k ≤ 32) :
    (ip = n.ip → ∀ i < 2 ^ k, ∃ r : IP4, computeNet s (i : Nat) k = some (.ok r) ∧
      r.toNat = ip.toNat + i * 2 ^ (32 - n.ones - k)) ∧
    (∀ i : Nat, 2 ^ k ≤ i → ∃ e, computeNet s i k = some (.error e)) ∧
    (∀ (i : Nat) (r : IP4), computeNet s i k = some (.ok r) →
      r ∈ cidrSet s ∧ 2 ^ (32 - (n.ones + k)) ∣ r.toNat) ∧
    ∀ (i j : Nat) (r r' : IP4), i < j → j < 2 ^ k → computeNet s i k = some (.ok r) →
      computeNet s j k = some (.ok r') → r ≠ r' ∧
        ∃ cidr cidr', getCIDRFromByte r s k = some cidr ∧ getCIDRFromByte r' s k = some cidr' ∧
          Disjoint (cidrSet cidr) (cidrSet cidr') := by
  have hblock : ∀ (i : Nat) (r : IP4), computeNet s i k = some (.ok r) →
      IsBlock ip n.ones k i r := fun i r hr => computeNet_isBlock h hfit (Int.natCast_nonneg i) hr
  refine ⟨?_, ?_, ?_, ?_⟩
  · rintro rfl i hi
    exact computeNet_aligned h hfit (dvd_of_parseCIDR h) hi
  · intro i hi
    exact ⟨_, computeNet_outOfRange h (by omega) (by exact_mod_cast hi)⟩
  · intro i r hr
    exact ⟨(hblock i r hr).mem_cidrSet h, (hblock i r hr).dvd⟩
  · intro i j r r' hij _ hr hr'
    have hi := hblock i r hr
    have hj := hblock j r' hr'
    refine ⟨?_, _, _, getCIDRFromByte_eq h r k, getCIDRFromByte_eq h r' k,
      block_disjoint hfit hi hj (Nat.ne_of_lt hij)⟩
    rintro rfl
    exact Nat.ne_of_lt hij (hi.inj hj)

theorem computeNet_blocks_third :
    ∃ r : IP4, computeNet "10.0.0.0/16" (3 : Nat) (8 : Nat) = some (.ok r) ∧
      r.toNat = (⟨10, 0, 0, 0⟩ : IP4).toNat + 3 * 2 ^ (32 - 16 - 8) :=
  (computeNet_blocks (s := "10.0.0.0/16") (n := ⟨⟨10, 0, 0, 0⟩, 16, by decide⟩) (k := 8)
    (by decide +kernel) (by decide)).1 rfl 3 (by decide)

end Block

end MultiNicCni.Compute
