import MultiNicCni.Compute.Arith
import MultiNicCni.Daemon.Allocator

/-!
# Addresses as numbers

The daemon and the controller both read an address as one number (`addrToValue`); the
daemon prints the sum of such a number and an index. `getIPValue_eq` and
`toNat_valueToAddr` say what number that is, and `getAddressByIndex_inj` that within one
pool different indexes are different addresses.
-/

namespace MultiNicCni.Daemon

open Go Compute

variable {s : String} {ip : IP4}

/-! ## Reading -/

/-- An octet that parses is read by `strconv.ParseInt` as its value. -/
theorem parseInt_octet {f : List Char} {b : UInt8} (h : parseOctet f = some b) :
    (parseInt 10 f).1 = (b.toNat : Int) := by
  unfold parseOctet at h
  cases hd : parseDigits 10 f with
  | none =>
    rw [hd] at h
    cases h
  | some n =>
    rw [hd] at h
    dsimp only at h
    split at h
    · cases h
    · next hcond =>
      rw [not_or, Nat.not_lt] at hcond
      cases h
      have hle : (n : Int) ≤ maxInt64 := by
        unfold maxInt64
        omega
      rw [parseInt_of_digits hd, parseInt.positive, if_pos hle, UInt8.toNat_ofNat',
        Nat.mod_eq_of_lt (by omega)]

/-- An address text that parses has four fields, read as the four octets. -/
theorem fields_of_parseIP (h : parseIP s = some ip) :
    ∃ f0 f1 f2 f3 : String, split s '.' = [f0, f1, f2, f3] ∧
      (parseInt 10 f0.toList).1 = (ip.b0.toNat : Int) ∧
      (parseInt 10 f1.toList).1 = (ip.b1.toNat : Int) ∧
      (parseInt 10 f2.toList).1 = (ip.b2.toNat : Int) ∧
      (parseInt 10 f3.toList).1 = (ip.b3.toNat : Int) := by
  obtain ⟨f0, f1, f2, f3, hfields, h0, h1, h2, h3⟩ := parseIP_eq_some h
  refine ⟨.ofList f0, .ofList f1, .ofList f2, .ofList f3, ?_, ?_, ?_, ?_, ?_⟩
  · rw [split, hfields]
    rfl
  all_goals rw [String.toList_ofList]
  · exact parseInt_octet h0
  · exact parseInt_octet h1
  · exact parseInt_octet h2
  · exact parseInt_octet h3

/-- The number of an address text that parses. -/
theorem addrToValue_eq (h : parseIP s = some ip) : addrToValue s = (ip.toNat : Int) := by
  obtain ⟨f0, f1, f2, f3, hsplit, h0, h1, h2, h3⟩ := fields_of_parseIP h
  simp only [addrToValue, hsplit, List.foldl_cons, List.foldl_nil, h0, h1, h2, h3, shiftByteVal,
    IP4.toNat, IP4.toList, beVal, List.length_cons, List.length_nil]
  push_cast
  ring

/-- The number of the address of a CIDR text. -/
theorem getIPValue_eq {n : IPNet} (h : parseCIDR s = some (ip, n)) :
    (getIPValue s).value = (ip.toNat : Int) := by
  obtain ⟨x, y, hsplit, hip, -, -⟩ := parseCIDR_eq_some h
  rw [getIPValue, hsplit, List.headD_cons, addrToValue_eq hip]

/-! ## Printing -/

theorem toByte_natCast (n : Nat) : (toByte (n : Int)).toNat = n % 256 := by
  rw [toByte, UInt8.toNat_ofNat']
  omega

/-- `valueToAddr` keeps the low 32 bits. -/
theorem toNat_valueToAddr (v : Nat) : (valueToAddr (v : Int)).toNat = v % 2 ^ 32 := by
  have hdiv : ∀ m : Nat, (m : Int).tdiv 256 = ((m / 256 : Nat) : Int) := fun m => rfl
  have hmod : ∀ m : Nat, (m : Int).tmod 256 = ((m % 256 : Nat) : Int) := fun m => rfl
  simp only [valueToAddr, shiftByteVal, hdiv, hmod, IP4.toNat, IP4.toList, beVal,
    toByte_natCast, List.length_cons, List.length_nil]
  omega

theorem bytesToStr_inj {a b : IP4} (h : bytesToStr a = bytesToStr b) : a = b := by
  have hparse := congrArg parseIP h
  rw [bytesToStr, bytesToStr, parseIP_text, parseIP_text] at hparse
  exact Option.some.inj hparse

/-- The address of an index is that many places after the address of the CIDR. -/
theorem parseIP_getAddressByIndex {cidr : String} {n : IPNet}
    (hcidr : parseCIDR cidr = some (ip, n)) {i : Int} (hi : 0 ≤ i) (hlt : ip.toNat + i < 2 ^ 32) :
    ∃ addr, parseIP (getAddressByIndex cidr i) = some addr ∧ (addr.toNat : Int) = ip.toNat + i := by
  refine ⟨valueToAddr ((getIPValue cidr).value + i), parseIP_text _, ?_⟩
  obtain ⟨k, rfl⟩ := Int.eq_ofNat_of_zero_le hi
  rw [getIPValue_eq hcidr, ← Nat.cast_add, toNat_valueToAddr, Nat.mod_eq_of_lt (by omega)]

/-- Different indexes of a pool, less than `2 ^ 32` apart, are different addresses. -/
theorem getAddressByIndex_inj {cidr : String} {n : IPNet} (hcidr : parseCIDR cidr = some (ip, n))
    {i j : Int} (hi : 0 ≤ ip.toNat + i) (hj : 0 ≤ ip.toNat + j) (hij : i - j < 2 ^ 32)
    (hji : j - i < 2 ^ 32) (h : getAddressByIndex cidr i = getAddressByIndex cidr j) : i = j := by
  obtain ⟨v, hv⟩ := Int.eq_ofNat_of_zero_le hi
  obtain ⟨w, hw⟩ := Int.eq_ofNat_of_zero_le hj
  have haddr := bytesToStr_inj h
  rw [getIPValue_eq hcidr, hv, hw] at haddr
  have hnum := congrArg IP4.toNat haddr
  rw [toNat_valueToAddr, toNat_valueToAddr] at hnum
  omega

end MultiNicCni.Daemon
