import MultiNicCni.Daemon.Address

/-!
# Indexes and addresses of a pool

The daemon gives a pod the address at an index of its pool (`getAddressByIndex`: one sum, printed
byte by byte); the controller finds the index of an address again when it rebuilds the pools
(`GetIndexInRange`: the differences of the octets, as texts, at their places).

- `getIndexInRange_parsed`: the index of an address is its distance from the address of the CIDR;
- `addressIndex_inverse`: **the two maps are inverse** on every network, and an address outside
  has no index.
-/

namespace MultiNicCni

open Go Compute Daemon

/-! ## The index of an address -/

/-- One octet adds its difference at its place. -/
theorem octetDiff_eq {cidrValues : List String} {i : Nat} {value cidrValue : String}
    (h : cidrValues[i]? = some cidrValue) (podIndex : Int) :
    octetDiff cidrValues podIndex (value, i) =
      some (podIndex + ((parseInt 10 value.toList).1 - (parseInt 10 cidrValue.toList).1) *
        256 ^ (3 - i)) := by
  rw [octetDiff, h, Option.bind_eq_bind, Option.bind_some]
  split
  · next heq =>
    rw [heq, sub_self, zero_mul, add_zero]
  · rfl

/-- The loop of `GetIndexInRange` over the octets. -/
theorem octetDiff_fold {address : String} {a : IP4} (ha : parseIP address = some a) (start : IP4) :
    (split address '.').zipIdx.foldlM (octetDiff (split (bytesToStr start) '.')) 0 =
      some ((a.toNat : Int) - start.toNat) := by
  obtain ⟨f0, f1, f2, f3, hsplit, h0, h1, h2, h3⟩ := fields_of_parseIP ha
  obtain ⟨g0, g1, g2, g3, hstart, k0, k1, k2, k3⟩ := fields_of_parseIP (parseIP_text start)
  rw [hsplit, bytesToStr, hstart]
  simp only [List.zipIdx_cons, List.zipIdx_nil, List.foldlM_cons, List.foldlM_nil,
    Option.bind_eq_bind]
  rw [octetDiff_eq (show _ = some g0 from rfl), Option.bind_some,
    octetDiff_eq (show _ = some g1 from rfl), Option.bind_some,
    octetDiff_eq (show _ = some g2 from rfl), Option.bind_some,
    octetDiff_eq (show _ = some g3 from rfl), Option.bind_some, h0, h1, h2, h3, k0, k1, k2, k3]
  simp only [IP4.toNat, IP4.toList, beVal, List.length_cons, List.length_nil]
  refine congrArg some ?_
  push_cast
  ring

section Index

variable {cidr address : String} {start a : IP4} {n : IPNet}

/-- `GetIndexInRange` on texts that parse. -/
theorem getIndexInRange_parsed (hcidr : parseCIDR cidr = some (start, n))
    (ha : parseIP address = some a) :
    getIndexInRange cidr address =
      some (if n.contains a then (true, (a.toNat : Int) - start.toNat) else (false, -1)) := by
  rw [getIndexInRange, hcidr, Option.bind_eq_bind, Option.bind_some]
  dsimp only
  rw [parseCIDR_host ha, octetDiff_fold ha]
  dsimp only
  split
  · rfl
  · rfl

end Index

/-! ## Both directions -/

section Inverse

variable {cidr : String} {n : IPNet} (hcidr : parseCIDR cidr = some (n.ip, n))
include hcidr

/-- An address of the network comes back from its index. -/
theorem getAddressByIndex_distance {address : String} {a : IP4} (ha : parseIP address = some a)
    (hin : a ∈ cidrSet cidr) :
    getAddressByIndex cidr ((a.toNat : Int) - n.ip.toNat) = address := by
  obtain ⟨hle, -⟩ := (mem_cidrSet_network hcidr a).mp hin
  obtain ⟨addr, haddr, hval⟩ := parseIP_getAddressByIndex hcidr
    (show 0 ≤ (a.toNat : Int) - n.ip.toNat by omega) (by have := a.toNat_lt; omega)
  obtain rfl : addr = a := IP4.toNat_inj (by omega)
  rw [eq_text_of_parseIP haddr, eq_text_of_parseIP ha]

/-- **Index to address and address to index are inverse** on the network of a CIDR written with
its network address; an address outside has the index -1. -/
theorem addressIndex_inverse :
    (∀ i : Int, 0 ≤ i → i < 2 ^ (32 - n.ones) →
      getIndexInRange cidr (getAddressByIndex cidr i) = some (true, i)) ∧
    (∀ (x : String) (a : IP4), parseIP x = some a → a ∈ cidrSet cidr →
      ∃ j, getIndexInRange cidr x = some (true, j) ∧ getAddressByIndex cidr j = x) ∧
    ∀ (x : String) (a : IP4), parseIP x = some a → a ∉ cidrSet cidr →
      getIndexInRange cidr x = some (false, -1) := by
  have hcontains : ∀ a : IP4, n.contains a = true ↔ a ∈ cidrSet cidr := by
    intro a
    rw [n.contains_iff, mem_cidrSet hcidr]
  refine ⟨?_, ?_, ?_⟩
  · intro i hi hlt
    have hfits := network_fits hcidr
    have hlt' : i < ((2 ^ (32 - n.ones) : Nat) : Int) := by exact_mod_cast hlt
    obtain ⟨addr, haddr, hval⟩ := parseIP_getAddressByIndex hcidr hi (by omega)
    have hin : n.contains addr = true := by
      rw [hcontains, mem_cidrSet_network hcidr]
      omega
    rw [getIndexInRange_parsed hcidr haddr, if_pos hin, show (addr.toNat : Int) - n.ip.toNat = i by
      omega]
  · intro x a ha hin
    refine ⟨(a.toNat : Int) - n.ip.toNat, ?_, getAddressByIndex_distance hcidr ha hin⟩
    rw [getIndexInRange_parsed hcidr ha, if_pos ((hcontains a).mpr hin)]
  · intro x a ha hout
    rw [getIndexInRange_parsed hcidr ha, if_neg (mt (hcontains a).mp hout)]

end Inverse

theorem addressIndex_inverse_pool :
    getIndexInRange "10.0.1.128/25" (getAddressByIndex "10.0.1.128/25" 5) = some (true, 5) :=
  (@addressIndex_inverse "10.0.1.128/25" ⟨⟨10, 0, 1, 128⟩, 25, by decide⟩ (by decide +kernel)).1 5
    (by decide) (by decide)

end MultiNicCni
