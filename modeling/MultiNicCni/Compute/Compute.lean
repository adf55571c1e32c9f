import MultiNicCni.Go.Net
import MultiNicCni.Go.Slice

/-!
# The `compute` package: sub-network arithmetic on CIDR texts

`internal/compute/compute.go` and `util.go`, function by function. Addresses are
computed on the bytes and on the binary text of an index, as the source does it;
`Compute/Arith.lean` shows what number comes out.

An `Option` around a result is `none` where the Go function panics: an index out
of range (`strings.Split(s, "/")[1]` on a text without slash, `MASKCHECK[i]`) or a
nil `*net.IPNet`. A Go error is the `error` case of an `Except`.
-/

namespace MultiNicCni.Compute

open Go

/-! ## Constants and conversions (`util.go`) -/

def shiftByteVal : Int := 256

def byteSize : Int := 8

def MASKCHECK : List UInt8 := [0, 128, 192, 224, 240, 248, 252, 254, 255]

/-- The position of a mask byte in `MASKCHECK`, or -1. -/
def maskIndex (b : UInt8) : Int :=
  match MASKCHECK.findIdx? (· == b) with
  | some i => (i : Int)
  | none => -1

/-- `int(math.Pow(2, float64(block)) - 1)`. The float is exact up to 53 bits and
rounds to the power above; out of range the conversion gives the least `int`
(amd64), and below one it truncates to zero. -/
def powMinusOne (block : Int) : Int :=
  if block ≤ 0 then 0
  else if block ≤ 53 then 2 ^ block.toNat - 1
  else if block < 63 then 2 ^ block.toNat
  else minInt64

theorem powMinusOne_eq {k : Nat} (hk : k ≤ 53) : powMinusOne k = 2 ^ k - 1 := by
  unfold powMinusOne
  rcases Nat.eq_zero_or_pos k with rfl | hpos
  · rfl
  · rw [if_neg (by omega), if_pos (by omega), Int.toNat_natCast]

/-- An address text with its number. -/
structure IPValue where
  address : String
  value : Int
  deriving DecidableEq, Repr

/-- The number of a dotted text; a field that is no number counts as
`strconv.ParseInt` reports it. -/
def addrToValue (address : String) : Int :=
  (split address '.').foldl
    (fun sumValue f => sumValue * shiftByteVal + (parseInt 10 f.toList).1) 0

def bytesToStr (ip : IP4) : String := String.ofList ip.text

def getIPValue (address : String) : IPValue :=
  ⟨address, addrToValue ((split address '/').headD "")⟩

/-- `SortAddress`: the addresses with their numbers, stably sorted by number. -/
def sortAddress (addresses : List String) : List IPValue :=
  sortStable IPValue.value (addresses.map getIPValue)

theorem sortAddress_perm (addresses : List String) :
    ((sortAddress addresses).map (·.address)).Perm addresses := by
  have h := (sortStable_perm IPValue.value (addresses.map getIPValue)).map (·.address)
  rw [List.map_map] at h
  simpa [sortAddress, Function.comp_def, getIPValue] using h

/-! ## Masks and addition (`compute.go`) -/

/-- The errors of `ComputeNet`. -/
inductive NetError where
  /-- `net.ParseCIDR` failed. -/
  | invalidCIDR (text : String)
  /-- `InvalidRequest: %.0f > %d`. -/
  | outOfRange (maxValue addValue : Int)
  /-- `strconv.ParseInt` failed on the binary text of one byte. -/
  | invalidBits (text : List Char)
  /-- `InvalidRequest: out of mask`. -/
  | outOfMask
  deriving DecidableEq, Repr

/-- `appendMask`: extend a mask by `remain` ones. -/
def appendMask : List UInt8 → Int → Option (List UInt8)
  | [], _ => some []
  | value :: rest, remain =>
    if value = 255 ∨ remain = 0 then
      (appendMask rest remain).map (value :: ·)
    else
      let mIndex := maskIndex value
      let addable := byteSize - mIndex
      if remain > addable then
        (appendMask rest (remain - addable)).map (255 :: ·)
      else do
        let out ← index MASKCHECK (mIndex + remain)
        let outs ← appendMask rest 0
        some (out :: outs)

/-- `byte(v)`: the low eight bits. -/
def toByte (v : Int) : UInt8 := UInt8.ofNat (v % 256).toNat

/-- The byte loop of `addAddress`, over the mask bytes paired with the base
address: each byte that the mask does not fill takes as many of the remaining
bits as it has room for. -/
def addBytes : List (UInt8 × UInt8) → Int → List Char → Except NetError (List UInt8)
  | [], _, _ => .ok []
  | (value, base) :: rest, block, valueInBinary =>
    if value = 255 ∨ valueInBinary = [] then do
      let outs ← addBytes rest block valueInBinary
      .ok (base :: outs)
    else do
      let mIndex := maskIndex value
      let addable := byteSize - mIndex
      let (target, block, valueInBinary) :=
        if block > addable then
          (valueInBinary.take addable.toNat, block - addable, valueInBinary.drop addable.toNat)
        else (valueInBinary, block, [])
      let target := List.replicate mIndex.toNat '0' ++ target
      let target := target ++ List.replicate (8 - target.length) '0'
      match parseInt 2 target with
      | (_, false) => .error (.invalidBits target)
      | (intValue, true) => do
        let outs ← addBytes rest block valueInBinary
        .ok ((base + toByte intValue) :: outs)

/-- The binary text of a value, padded on the left to `block` digits. -/
def valueInBinary (block addValue : Int) : List Char :=
  let bits := formatInt 2 addValue
  List.replicate (block.toNat - bits.length) '0' ++ bits

/-- `addAddress`: add `addValue`, placed after the mask, to the base address. -/
def addAddress (baseAddress : IP4) (mask : List UInt8) (block addValue : Int) :
    Except NetError IP4 :=
  if addValue > powMinusOne block then .error (.outOfRange (powMinusOne block) addValue)
  else do
    let output ← addBytes (mask.zip baseAddress.toList) block (valueInBinary block addValue)
    -- confirm mask not change
    if landBytes output mask ≠ landBytes baseAddress.toList mask then .error .outOfMask
    else .ok (IP4.ofList output)

/-- `ComputeNet`: the network address of block `index` of a base CIDR. -/
def computeNet (baseCIDR : String) (idx blocksize : Int) : Option (Except NetError IP4) :=
  match parseCIDR baseCIDR with
  | none => some (.error (.invalidCIDR baseCIDR))
  | some (_, subnetNet) => do
    let startIP ← parseIP ((split baseCIDR '/').headD "")
    let interfaceMask ← appendMask subnetNet.mask blocksize
    let baseIP := IP4.ofList (landBytes startIP.toList interfaceMask)
    some (addAddress baseIP subnetNet.mask blocksize idx)

/-- The prefix length a CIDR text names: `strings.Split(s, "/")[1]`. -/
def blockOf (cidr : String) : Option Int := do
  let s ← (split cidr '/')[1]?
  some (parseInt 10 s.toList).1

/-- `GetCIDRFromByte`. -/
def getCIDRFromByte (cidrInByte : IP4) (subnet : String) (blocksize : Int) : Option String := do
  let baseBlock ← blockOf subnet
  some (String.ofList (cidrInByte.text ++ '/' :: formatInt 10 (baseBlock + blocksize)))

/-- The loop of `GetIndexInRange`: the difference of the octets, as one number. -/
def octetDiff (cidrValues : List String) (podIndex : Int) : String × Nat → Option Int
  | (value, i) => do
    let cidrValue ← cidrValues[i]?
    if value = cidrValue then some podIndex
    else
      let diff := (parseInt 10 value.toList).1 - (parseInt 10 cidrValue.toList).1
      some (podIndex + diff * 256 ^ (3 - i))

/-- `GetIndexInRange`: is the address in the pod CIDR, and at which index? -/
def getIndexInRange (podCIDR podIPAddress : String) : Option (Bool × Int) := do
  let (startPodIP, podNet) ← parseCIDR podCIDR
  -- an address that does not parse is `nil`, which no network contains
  match parseCIDR (podIPAddress ++ "/32") with
  | none => some (false, -1)
  | some (netIP, _) =>
    if podNet.contains netIP then do
      let podIndex ← (split podIPAddress '.').zipIdx.foldlM
        (octetDiff (split (bytesToStr startPodIP) '.')) 0
      some (true, podIndex)
    else some (false, -1)

/-- The loop of `CheckIfTabuIndex` over the excludes. -/
def tabuLoop (baseCIDR : String) (idx blocksize baseBlock : Int) : List String → Option Bool
  | [] => some false
  | exclude :: rest =>
    match (split exclude '/')[1]? with
    | none => tabuLoop baseCIDR idx blocksize baseBlock rest
    | some s =>
      if (parseInt 10 s.toList).1 ≤ baseBlock + blocksize then do
        let (_, excludeNet) ← parseCIDR exclude
        let netInByte ← computeNet baseCIDR idx blocksize
        -- on an error the zero address is checked
        let netIP := netInByte.toOption.getD ⟨0, 0, 0, 0⟩
        if excludeNet.contains netIP then some true
        else tabuLoop baseCIDR idx blocksize baseBlock rest
      else tabuLoop baseCIDR idx blocksize baseBlock rest

/-- `CheckIfTabuIndex`: is the block of this index inside an exclude? -/
def checkIfTabuIndex (baseCIDR : String) (idx blocksize : Int) (excludes : List String) :
    Option Bool := do
  let baseBlock ← blockOf baseCIDR
  tabuLoop baseCIDR idx blocksize baseBlock excludes

/-- `FindAvailableIndex` with a bound on the depth of its recursion. -/
def findAvailableIndexAux : Nat → List Int → Int → Int → Int
  | 0, _, _, _ => -1
  | _ + 1, [], _, _ => -1
  | fuel + 1, first :: rest, leftIndex, startIndex =>
    let indexes := first :: rest
    let lastAllocationIndex := indexes.getLast (List.cons_ne_nil _ _)
    if lastAllocationIndex - leftIndex = (indexes.length : Int) - 1 + startIndex then -1
    else if first ≠ leftIndex + startIndex then leftIndex + startIndex
    else
      let midIndex := indexes.length / 2
      let leftResult := findAvailableIndexAux fuel (indexes.take midIndex) leftIndex startIndex
      if leftResult ≠ -1 then leftResult
      else findAvailableIndexAux fuel (indexes.drop midIndex) (leftIndex + midIndex) startIndex

/-- `FindAvailableIndex`: the first reusable index, or -1. The list halves at each
level, so its length bounds the depth. -/
def findAvailableIndex (indexes : List Int) (leftIndex startIndex : Int) : Int :=
  findAvailableIndexAux indexes.length indexes leftIndex startIndex

end MultiNicCni.Compute
