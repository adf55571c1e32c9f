import MultiNicCni.Go.Bytes

/-!
# IPv4 in Go's `net` package

Addresses, prefixes and their texts, for IPv4: the parts of `net` that code
computing sub-networks uses.

- `IP4`: a `[4]byte`, with its number `IP4.toNat`;
- `parseIP`/`parseCIDR`: `net.ParseIP` and `net.ParseCIDR`. An octet is a run of
  digits without a leading zero and of value at most 255; a prefix length may
  have leading zeros. Texts of IPv6 addresses are outside the model and count as
  unparsable;
- `IPNet.contains`: `(*net.IPNet).Contains`.

`IPNet.contains_iff` turns containment into one equation between numbers, and
`parseCIDR_cidrString` reads back every printed prefix. `cidrSet` is the set of
addresses a CIDR text denotes, the vocabulary of the layout results.
-/

namespace MultiNicCni.Go

variable {ones : Nat} {s : String}

/-! ## Addresses -/

/-- An IPv4 address: Go's `[4]byte`. -/
structure IP4 where
  b0 : UInt8
  b1 : UInt8
  b2 : UInt8
  b3 : UInt8
  deriving DecidableEq, Repr, Inhabited

variable {ip : IP4}

namespace IP4

def toList (a : IP4) : List UInt8 := [a.b0, a.b1, a.b2, a.b3]

def ofList : List UInt8 → IP4
  | [b0, b1, b2, b3] => ⟨b0, b1, b2, b3⟩
  | _ => ⟨0, 0, 0, 0⟩

/-- The number of an address. -/
def toNat (a : IP4) : Nat := beVal a.toList

/-- `ip.Mask(net.CIDRMask(ones, 32))`. -/
def mask (a : IP4) (ones : Nat) : IP4 := ofList (landBytes a.toList (cidrMask ones 4))

@[simp] theorem length_toList (a : IP4) : a.toList.length = 4 := rfl

theorem toList_ofList : ∀ {l : List UInt8}, l.length = 4 → (ofList l).toList = l
  | [_, _, _, _], _ => rfl

theorem toNat_lt (a : IP4) : a.toNat < 2 ^ 32 := by
  have h := beVal_lt a.toList
  rw [length_toList] at h
  calc a.toNat < 256 ^ 4 := h
    _ = 2 ^ 32 := by norm_num

theorem toNat_inj {a b : IP4} (h : a.toNat = b.toNat) : a = b := by
  have hl : a.toList = b.toList := beVal_inj rfl h
  cases a
  cases b
  simpa [toList] using hl

theorem toNat_ofList {l : List UInt8} (h : l.length = 4) : (ofList l).toNat = beVal l := by
  rw [toNat, toList_ofList h]

/-- Masking clears the host bits. -/
theorem toNat_mask (a : IP4) (ones : Nat) :
    (a.mask ones).toNat = a.toNat / 2 ^ (32 - ones) * 2 ^ (32 - ones) := by
  rw [mask, toNat_ofList (length_landBytes rfl)]
  exact beVal_land_cidrMask a.toList ones

/-- Masked addresses agree iff the numbers above the host bits do. -/
theorem landBytes_eq_iff {a b : IP4} :
    landBytes a.toList (cidrMask ones 4) = landBytes b.toList (cidrMask ones 4) ↔
      a.toNat / 2 ^ (32 - ones) = b.toNat / 2 ^ (32 - ones) := by
  have hval : ∀ x : IP4, beVal (landBytes x.toList (cidrMask ones 4)) =
      x.toNat / 2 ^ (32 - ones) * 2 ^ (32 - ones) := fun x => beVal_land_cidrMask x.toList ones
  constructor
  · intro h
    have hv := congrArg beVal h
    rw [hval, hval] at hv
    exact Nat.eq_of_mul_eq_mul_right (Nat.two_pow_pos _) hv
  · intro h
    refine beVal_inj ?_ (by rw [hval, hval, h])
    exact (length_landBytes rfl).trans (length_landBytes rfl).symm

/-- `ip.String()`: dotted decimal. -/
def text (a : IP4) : List Char :=
  Nat.toDigits 10 a.b0.toNat ++ '.' :: (Nat.toDigits 10 a.b1.toNat ++
    '.' :: (Nat.toDigits 10 a.b2.toNat ++ '.' :: Nat.toDigits 10 a.b3.toNat))

theorem text_eq_intercalate (a : IP4) :
    a.text = ['.'].intercalate (a.toList.map fun b => Nat.toDigits 10 b.toNat) := by
  simp [text, toList, List.intercalate]

/-- A dotted address holds digits and dots only. -/
theorem not_mem_text (a : IP4) {c : Char} (hd : c.isDigit = false) (hdot : c ≠ '.') :
    c ∉ a.text := by
  simp [text, not_mem_toDigits hd, hdot]

end IP4

/-! ## Parsing addresses -/

/-- One octet of `netip.ParseAddr`: digits, no leading zero, at most 255. -/
def parseOctet (f : List Char) : Option UInt8 :=
  match parseDigits 10 f with
  | none => none
  | some n =>
    if (f.head? = some '0' ∧ f.length ≠ 1) ∨ 255 < n then none else some (UInt8.ofNat n)

/-- `net.ParseIP` for IPv4 texts. -/
def parseIP (s : String) : Option IP4 :=
  match (s.toList.splitOn '.').map parseOctet with
  | [some b0, some b1, some b2, some b3] => some ⟨b0, b1, b2, b3⟩
  | _ => none

theorem parseOctet_toDigits_table :
    ∀ n < 256, parseOctet (Nat.toDigits 10 n) = some (UInt8.ofNat n) := by
  decide +kernel

theorem parseOctet_toDigits (b : UInt8) : parseOctet (Nat.toDigits 10 b.toNat) = some b := by
  rw [parseOctet_toDigits_table b.toNat b.toNat_lt, UInt8.ofNat_toNat]

/-- A printed address is read back. -/
theorem parseIP_text (a : IP4) : parseIP (String.ofList a.text) = some a := by
  have hsplit : a.text.splitOn '.' = a.toList.map fun b => Nat.toDigits 10 b.toNat := by
    rw [IP4.text_eq_intercalate]
    refine List.splitOn_intercalate '.' ?_ (by simp [IP4.toList])
    intro l hl
    obtain ⟨b, -, rfl⟩ := List.mem_map.mp hl
    exact not_mem_toDigits rfl
  have hmap : (a.toList.map fun b => Nat.toDigits 10 b.toNat).map parseOctet =
      [some a.b0, some a.b1, some a.b2, some a.b3] := by
    simp only [IP4.toList, List.map_cons, List.map_nil, parseOctet_toDigits]
  rw [parseIP, String.toList_ofList, hsplit, hmap]

theorem isDigit_of_parseOctet {f : List Char} {b : UInt8} (h : parseOctet f = some b) :
    ∀ c ∈ f, c.isDigit = true := by
  unfold parseOctet at h
  split at h
  · cases h
  · next n hd => exact isDigit_of_parseDigits hd

/-- An octet that parses is the printed one. -/
theorem toDigits_of_parseOctet {f : List Char} {b : UInt8} (h : parseOctet f = some b) :
    Nat.toDigits 10 b.toNat = f := by
  have hdigits := isDigit_of_parseOctet h
  unfold parseOctet parseDigits at h
  split at h
  · cases h
  · next n hd =>
    split at hd
    · next hall =>
      split at h
      · cases h
      · next hcond =>
        cases h
        cases hd
        rw [not_or, not_and, not_not, Nat.not_lt] at hcond
        rw [UInt8.toNat_ofNat', Nat.mod_eq_of_lt (by omega)]
        exact toDigits_ofDigitChars hall.1 hdigits hcond.1
    · cases hd

/-- An address text that parses has four fields, which are read as its octets. -/
theorem parseIP_eq_some (h : parseIP s = some ip) : ∃ f0 f1 f2 f3,
    s.toList.splitOn '.' = [f0, f1, f2, f3] ∧ parseOctet f0 = some ip.b0 ∧
      parseOctet f1 = some ip.b1 ∧ parseOctet f2 = some ip.b2 ∧ parseOctet f3 = some ip.b3 := by
  unfold parseIP at h
  split at h
  · next b0 b1 b2 b3 heq =>
    cases h
    obtain ⟨f0, l0, hfields, h0, heq⟩ := List.map_eq_cons_iff.mp heq
    obtain ⟨f1, l1, rfl, h1, heq⟩ := List.map_eq_cons_iff.mp heq
    obtain ⟨f2, l2, rfl, h2, heq⟩ := List.map_eq_cons_iff.mp heq
    obtain ⟨f3, l3, rfl, h3, heq⟩ := List.map_eq_cons_iff.mp heq
    obtain rfl := List.map_eq_nil_iff.mp heq
    exact ⟨f0, f1, f2, f3, hfields, h0, h1, h2, h3⟩
  · cases h

/-- An address text that parses is the printed one: there is one text for each address. -/
theorem eq_text_of_parseIP (h : parseIP s = some ip) : s = String.ofList ip.text := by
  obtain ⟨f0, f1, f2, f3, hfields, h0, h1, h2, h3⟩ := parseIP_eq_some h
  rw [IP4.text_eq_intercalate, IP4.toList, List.map_cons, List.map_cons, List.map_cons,
    List.map_cons, List.map_nil, toDigits_of_parseOctet h0, toDigits_of_parseOctet h1,
    toDigits_of_parseOctet h2, toDigits_of_parseOctet h3, ← hfields, List.intercalate_splitOn,
    String.ofList_toList]

/-- An address text that parses holds digits and dots only. -/
theorem not_mem_of_parseIP (h : parseIP s = some ip) {c : Char} (hd : c.isDigit = false)
    (hdot : c ≠ '.') : c ∉ s.toList := by
  intro hc
  obtain ⟨f, hf, hcf⟩ := exists_mem_splitOn hdot hc
  have hoctet : ∃ b, parseOctet f = some b := by
    obtain ⟨f0, f1, f2, f3, hfields, h0, h1, h2, h3⟩ := parseIP_eq_some h
    rw [hfields] at hf
    simp only [List.mem_cons, List.not_mem_nil, or_false] at hf
    rcases hf with rfl | rfl | rfl | rfl <;> exact ⟨_, by assumption⟩
  obtain ⟨b, hb⟩ := hoctet
  rw [isDigit_of_parseOctet hb c hcf] at hd
  cases hd

/-! ## Prefixes -/

/-- An IPv4 `net.IPNet` with a canonical mask of `ones` leading ones. -/
structure IPNet where
  ip : IP4
  ones : Nat
  ones_le : ones ≤ 32
  deriving DecidableEq

variable {n : IPNet}

/-- The mask bytes of a prefix. -/
def IPNet.mask (n : IPNet) : List UInt8 := cidrMask n.ones 4

/-- `(*net.IPNet).Contains`: the masked bytes agree. -/
def IPNet.contains (n : IPNet) (x : IP4) : Bool :=
  landBytes n.ip.toList n.mask == landBytes x.toList n.mask

/-- Containment compares the numbers above the host bits. -/
theorem IPNet.contains_iff (n : IPNet) (x : IP4) :
    n.contains x = true ↔ n.ip.toNat / 2 ^ (32 - n.ones) = x.toNat / 2 ^ (32 - n.ones) := by
  rw [contains, beq_iff_eq]
  exact IP4.landBytes_eq_iff

/-- The prefix length of a CIDR text: digits of value at most 32. -/
def parseOnes (s : List Char) : Option {n : Nat // n ≤ 32} :=
  match parseDigits 10 s with
  | none => none
  | some n => if h : n ≤ 32 then some ⟨n, h⟩ else none

/-- `net.ParseCIDR` for IPv4 texts: the address, and the network it lies in. -/
def parseCIDR (s : String) : Option (IP4 × IPNet) := do
  let (addr, ones) ← cut s '/'
  let ip ← parseIP addr
  let n ← parseOnes ones.toList
  some (ip, ⟨ip.mask n.1, n.1, n.2⟩)

/-- The text `address/ones`. -/
def cidrString (a : IP4) (ones : Nat) : String :=
  String.ofList (a.text ++ '/' :: Nat.toDigits 10 ones)

/-- An address with a printed prefix length is read as that address and length. -/
theorem parseCIDR_join (hip : parseIP s = some ip) (h : ones ≤ 32) :
    parseCIDR (String.ofList (s.toList ++ '/' :: Nat.toDigits 10 ones)) =
      some (ip, ⟨ip.mask ones, ones, h⟩) := by
  have hcut : cut (String.ofList (s.toList ++ '/' :: Nat.toDigits 10 ones)) '/' =
      some (s, String.ofList (Nat.toDigits 10 ones)) := by
    rw [cut_join (not_mem_of_parseIP hip rfl (by decide)), String.ofList_toList]
  have hones : parseOnes (Nat.toDigits 10 ones) = some ⟨ones, h⟩ := by
    rw [parseOnes, parseDigits_toDigits]
    exact dif_pos h
  rw [parseCIDR, hcut]
  simp [hip, hones]

/-- An address with the prefix length of a host. -/
theorem parseCIDR_host (hip : parseIP s = some ip) :
    parseCIDR (s ++ "/32") = some (ip, ⟨ip.mask 32, 32, le_rfl⟩) := by
  have hjoin := parseCIDR_join hip (show 32 ≤ 32 from le_rfl)
  have htext : String.ofList (s.toList ++ '/' :: Nat.toDigits 10 32) = s ++ "/32" := by
    rw [String.ofList_append, String.ofList_toList]
    rfl
  rwa [htext] at hjoin

/-- A printed prefix is read back. -/
theorem parseCIDR_cidrString (a : IP4) (h : ones ≤ 32) :
    parseCIDR (cidrString a ones) = some (a, ⟨a.mask ones, ones, h⟩) := by
  have hjoin := parseCIDR_join (parseIP_text a) h
  rwa [String.toList_ofList] at hjoin

theorem parseOnes_eq_some {s : List Char} {n : {n : Nat // n ≤ 32}}
    (h : parseOnes s = some n) : parseDigits 10 s = some n.1 := by
  unfold parseOnes at h
  split at h
  · cases h
  · next m hm =>
    split at h
    · cases h
      exact hm
    · cases h

/-- What a CIDR text that parses looks like: an address and a prefix length
around the only slash. -/
theorem parseCIDR_eq_some (h : parseCIDR s = some (ip, n)) :
    ∃ x y : String, split s '/' = [x, y] ∧ parseIP x = some ip ∧
      parseDigits 10 y.toList = some n.ones ∧ n.ip = ip.mask n.ones := by
  simp only [parseCIDR, Option.bind_eq_bind, Option.bind_eq_some_iff, Option.some.injEq,
    Prod.mk.injEq] at h
  obtain ⟨⟨x, y⟩, hcut, ip', hip, m, hones, rfl, rfl⟩ := h
  obtain ⟨hs, hx⟩ := cut_eq_some hcut
  have hdig := parseOnes_eq_some hones
  have hy : '/' ∉ y.toList := fun hmem => absurd (isDigit_of_parseDigits hdig '/' hmem) (by decide)
  refine ⟨x, y, ?_, hip, hdig, rfl⟩
  rw [hs, split_join hx hy, String.ofList_toList, String.ofList_toList]

theorem parseCIDR_empty : parseCIDR "" = none := rfl

/-- A printed CIDR is one exactly when its prefix length is one of an address. -/
theorem parseCIDR_cidrString_isSome (a : IP4) (ones : Nat) :
    (parseCIDR (cidrString a ones)).isSome = true ↔ ones ≤ 32 := by
  constructor
  · intro h
    obtain ⟨⟨ip, n⟩, hparse⟩ := Option.isSome_iff_exists.mp h
    obtain ⟨x, y, hsplit, -, hones, -⟩ := parseCIDR_eq_some hparse
    rw [cidrString, split_join (a.not_mem_text rfl (by decide))
      (not_mem_toDigits (c := '/') rfl)] at hsplit
    obtain ⟨-, hy⟩ := List.cons.inj hsplit
    obtain ⟨rfl, -⟩ := List.cons.inj hy
    rw [String.toList_ofList, parseDigits_toDigits] at hones
    rw [Option.some.inj hones]
    exact n.ones_le
  · intro h
    rw [parseCIDR_cidrString a h]
    rfl

/-! ## The set of addresses of a CIDR text -/

/-- The addresses of the network a CIDR text denotes (none, if it does not
parse). -/
def cidrSet (s : String) : Set IP4 :=
  {x | ∃ ip n, parseCIDR s = some (ip, n) ∧ n.contains x = true}

/-- A CIDR text that denotes a network of `ones` bits, written with its network
address. -/
def IsNetwork (s : String) (ones : Nat) : Prop :=
  ∃ n : IPNet, parseCIDR s = some (n.ip, n) ∧ n.ones = ones

theorem mem_cidrSet (h : parseCIDR s = some (ip, n)) (x : IP4) :
    x ∈ cidrSet s ↔ ip.toNat / 2 ^ (32 - n.ones) = x.toNat / 2 ^ (32 - n.ones) := by
  obtain ⟨-, -, -, -, -, hip⟩ := parseCIDR_eq_some h
  have hdiv : n.ip.toNat / 2 ^ (32 - n.ones) = ip.toNat / 2 ^ (32 - n.ones) := by
    rw [hip, IP4.toNat_mask, Nat.mul_div_cancel _ (Nat.two_pow_pos _)]
  constructor
  · rintro ⟨ip', n', h', hc⟩
    rw [h] at h'
    cases h'
    rw [← hdiv]
    exact (IPNet.contains_iff n x).mp hc
  · intro hx
    exact ⟨ip, n, h, (IPNet.contains_iff n x).mpr (hdiv.trans hx)⟩

/-- Numbers that agree above the host bits of a prefix agree above those of a shorter one. -/
theorem div_eq_of_longer {a b p q : Nat} (hqp : q ≤ p) (hp : p ≤ 32)
    (h : a / 2 ^ (32 - p) = b / 2 ^ (32 - p)) : a / 2 ^ (32 - q) = b / 2 ^ (32 - q) := by
  have hpow : 2 ^ (32 - q) = 2 ^ (32 - p) * 2 ^ (p - q) := by
    rw [← pow_add]
    congr 1
    omega
  rw [hpow, ← Nat.div_div_eq_div_mul, ← Nat.div_div_eq_div_mul, h]

section Network

variable (h : parseCIDR s = some (n.ip, n))
include h

/-- A CIDR text written with its network address has no host bits. -/
theorem dvd_of_parseCIDR : 2 ^ (32 - n.ones) ∣ n.ip.toNat := by
  obtain ⟨-, -, -, -, -, hip⟩ := parseCIDR_eq_some h
  rw [hip, IP4.toNat_mask]
  exact Dvd.intro_left _ rfl

/-- Its addresses are the ones that follow the network address. -/
theorem mem_cidrSet_network (a : IP4) :
    a ∈ cidrSet s ↔ n.ip.toNat ≤ a.toNat ∧ a.toNat < n.ip.toNat + 2 ^ (32 - n.ones) := by
  obtain ⟨k, hk⟩ := dvd_of_parseCIDR h
  have hpos : 0 < 2 ^ (32 - n.ones) := Nat.two_pow_pos _
  rw [mem_cidrSet h, hk, Nat.mul_div_cancel_left _ hpos, eq_comm, Nat.div_eq_iff hpos,
    Nat.mul_comm k]
  omega

theorem network_fits : n.ip.toNat + 2 ^ (32 - n.ones) ≤ 2 ^ 32 := by
  obtain ⟨k, hk⟩ := dvd_of_parseCIDR h
  have hpow : 2 ^ 32 = 2 ^ (32 - n.ones) * 2 ^ n.ones := by
    rw [← pow_add, Nat.sub_add_cancel n.ones_le]
  have hlt := n.ip.toNat_lt
  rw [hk, hpow] at hlt
  rw [hk, hpow, ← Nat.mul_succ]
  exact Nat.mul_le_mul_left _ (Nat.lt_of_mul_lt_mul_left hlt)

end Network

/-- A printed prefix whose address has no host bits denotes a network. -/
theorem isNetwork_cidrString {a : IP4} (h : ones ≤ 32) (ha : 2 ^ (32 - ones) ∣ a.toNat) :
    IsNetwork (cidrString a ones) ones := by
  have hmask : a.mask ones = a :=
    IP4.toNat_inj (by rw [IP4.toNat_mask, Nat.div_mul_cancel ha])
  refine ⟨⟨a, ones, h⟩, ?_, rfl⟩
  rw [parseCIDR_cidrString a h]
  simp [hmask]

end MultiNicCni.Go
