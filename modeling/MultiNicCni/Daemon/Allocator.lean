import MultiNicCni.Api
import MultiNicCni.Compute.Compute

/-!
# The daemon's IP allocator (`daemon/src/allocator/allocator.go`)

`AllocateIP` lists the IPPools of a host and a network, chooses an index in each pool that
matches a requested interface, and patches the pool with the new allocation spliced into
its list; `DeallocateIP` removes the allocation of a pod again. The stored pools are a
`GoMap` from name to pool, in the order in which the daemon happens to iterate them.

What the daemon reads from the system is a parameter: which interface names are virtual
functions and of which device (`Devices`), and which history records have expired.

`addrToValue` and `getIPValue` are the same code as in the `compute` package and are taken
from there. The outer `Option` of a result is `none` where the Go code panics.
-/

namespace MultiNicCni.Daemon

open Go Compute

/-! ## Indexes and addresses -/

/-- `FindAvailableIndex` with a bound on the depth of its recursion. -/
def findAvailableIndexAux : Nat → List Int → Int → Int
  | 0, _, _ => -1
  | _ + 1, [], _ => -1
  | fuel + 1, first :: rest, leftIndex =>
    let indexes := first :: rest
    let lastAllocationIndex := indexes.getLast (List.cons_ne_nil _ _)
    -- all addresses in the range are assigned
    if lastAllocationIndex - leftIndex = indexes.length then -1
    else if first ≠ leftIndex + 1 then leftIndex + 1
    else
      let midIndex := indexes.length / 2
      let leftResult := findAvailableIndexAux fuel (indexes.take midIndex) leftIndex
      if leftResult ≠ -1 then leftResult
      else findAvailableIndexAux fuel (indexes.drop midIndex) (leftIndex + midIndex)

/-- `FindAvailableIndex`: the first reusable index from 1 on, or -1. -/
def findAvailableIndex (indexes : List Int) (leftIndex : Int) : Int :=
  findAvailableIndexAux indexes.length indexes leftIndex

/-- The search is that of the `compute` package from index 1 on, to every depth. -/
theorem findAvailableIndexAux_eq_compute (fuel : Nat) (indexes : List Int) (leftIndex : Int) :
    findAvailableIndexAux fuel indexes leftIndex =
      Compute.findAvailableIndexAux fuel indexes leftIndex 1 := by
  induction fuel generalizing indexes leftIndex with
  | zero => rfl
  | succ fuel ih =>
    cases indexes with
    | nil => rfl
    | cons first rest =>
      simp only [findAvailableIndexAux, Compute.findAvailableIndexAux, ih, Int.sub_add_cancel]

theorem findAvailableIndex_eq_compute (indexes : List Int) (leftIndex : Int) :
    findAvailableIndex indexes leftIndex = Compute.findAvailableIndex indexes leftIndex 1 :=
  findAvailableIndexAux_eq_compute indexes.length indexes leftIndex

/-- `valueToAddr`: the four low bytes of a number. -/
def valueToAddr (value : Int) : IP4 :=
  let v2 := value.tdiv shiftByteVal
  let v1 := v2.tdiv shiftByteVal
  let v0 := v1.tdiv shiftByteVal
  ⟨toByte (v0.tmod shiftByteVal), toByte (v1.tmod shiftByteVal), toByte (v2.tmod shiftByteVal),
    toByte (value.tmod shiftByteVal)⟩

def valueToAddrStr (value : Int) : String := bytesToStr (valueToAddr value)

/-- `getAddressByIndex`: the address `index` places after the address of the CIDR. -/
def getAddressByIndex (cidr : String) (index : Int) : String :=
  valueToAddrStr ((getIPValue cidr).value + index)

structure ExcludeRange where
  minIndex : Int
  maxIndex : Int
  deriving DecidableEq, Repr

/-- The range of one exclude, if it does not start before the CIDR. -/
def excludeRange (cidr exclude : String) : Option ExcludeRange :=
  let excludeStartIndex := (getIPValue exclude).value - (getIPValue cidr).value
  if excludeStartIndex < 0 then none
  else
    let excludeBlock : Int :=
      match (split exclude '/')[1]? with
      | some s => (parseInt 10 s.toList).1
      | none => 32
    some ⟨excludeStartIndex, excludeStartIndex + powMinusOne (32 - excludeBlock)⟩

/-- `getExcludeRanges`. -/
def getExcludeRanges (cidr : String) (excludes : List String) : List ExcludeRange :=
  excludes.filterMap (excludeRange cidr)

/-- The indexes from `lo` to `hi`, both included. -/
def indexRange (lo hi : Int) : List Int :=
  (List.range (hi - lo + 1).toNat).map fun j : Nat => lo + j

/-- `GenerateAllocateIndexes`: the indexes in use or excluded, sorted. -/
def generateAllocateIndexes (allocations : List Allocation) (maxIndex : Int)
    (excludes : List ExcludeRange) : List Int :=
  sortInts (allocations.map (·.index) ++
    excludes.flatMap fun exclude => indexRange exclude.minIndex (min exclude.maxIndex maxIndex))

/-- `int(math.Pow(2, float64(availableBlock)) - 2)`: the index of the broadcast address,
less one. -/
def powMinusTwo (availableBlock : Int) : Int :=
  if availableBlock < 0 then -1
  else if availableBlock ≤ 53 then 2 ^ availableBlock.toNat - 2
  else if availableBlock < 63 then 2 ^ availableBlock.toNat
  else minInt64

/-- The largest index of a pool, from the text of its CIDR. -/
def maxIndexOf (podCIDR : String) : Option Int := do
  let cidrBlock ← blockOf podCIDR
  some (powMinusTwo (32 - cidrBlock))

/-- The index tried first: the offset after the last one in use. -/
def indexAfterLast (indexes : List Int) (offset : Int) : Int :=
  match indexes.getLast? with
  | some lastIndex => lastIndex + offset
  | none => offset

/-- The index and address a pool gives next; the inner `none` is an exhausted pool. -/
def nextAllocation (offset : Int) (spec : IPPoolSpec) : Option (Option (Int × String)) := do
  let maxIndex ← maxIndexOf spec.podCIDR
  let indexes := generateAllocateIndexes spec.allocations maxIndex
    (getExcludeRanges spec.podCIDR spec.excludes)
  let nextIndex := indexAfterLast indexes offset
  if nextIndex < maxIndex then some (some (nextIndex, getAddressByIndex spec.podCIDR nextIndex))
  else
    let nextIndex := findAvailableIndex indexes 0
    if nextIndex ≠ -1 then some (some (nextIndex, getAddressByIndex spec.podCIDR nextIndex))
    else some none

/-! ## Splicing an allocation into the list -/

/-- The last position whose index is larger, as the loop of `applyNewAllocations` leaves it. -/
def toInsertIndex (allocations : List Allocation) (newIndex : Int) : Option Nat :=
  allocations.zipIdx.foldl (fun pos (a, i) => if a.index > newIndex then some i else pos) none

/-- The list `applyNewAllocations` stores. The first append is on a sub-slice with room, so
it writes the new allocation over the one at that position, which the second append then
reads. -/
def insertAllocation (allocations : List Allocation) (newAllocation : Allocation) :
    List Allocation :=
  match toInsertIndex allocations newAllocation.index with
  | none => allocations ++ [newAllocation]
  | some i =>
    let (appendedAllocation, allocations) := appendTo allocations i [newAllocation]
    appendedAllocation ++ allocations.drop i

/-! ## Requests -/

/-- `IPRequest`. -/
structure IPRequest where
  podName : String
  podNamespace : String
  hostName : String
  netAttachDefName : String
  interfaceNames : List String
  deriving DecidableEq, Repr

/-- `IPResponse`. -/
structure IPResponse where
  interfaceName : String
  ipAddress : String
  vlanBlockSize : String
  deriving DecidableEq, Repr

/-- The stored pools and `deallocateHistory` (the last offset by pod name). -/
structure DaemonState where
  pools : GoMap String IPPool
  history : GoMap String Int

/-- What `/sys/class/net` says: `isVF` and `getPFInterfaceName`. -/
structure Devices where
  isVF : String → Bool
  getPFInterfaceName : String → String

/-- `ListIPPool` with the label selector of a host and a network. -/
def listIPPool (pools : GoMap String IPPool) (hostName defName : String) :
    GoMap String IPPool :=
  pools.filter fun _ pool => pool.hostNameLabel == hostName && pool.defNameLabel == defName

/-- `PatchIPPool`: replace the allocations of a pool. -/
def patchIPPool (poolName : String) (allocations : List Allocation)
    (pools : GoMap String IPPool) : GoMap String IPPool :=
  match pools.lookup poolName with
  | some pool => pools.insert poolName (pool.withAllocations allocations)
  | none => pools

/-- The requested interface that a pool serves: by name, or by the device of a virtual
function. -/
def matchInterface (dev : Devices) (specInterface : String) (interfaceNames : List String) :
    Option Nat :=
  interfaceNames.findIdx? fun interfaceName =>
    specInterface == interfaceName ||
      (dev.isVF interfaceName && specInterface == dev.getPFInterfaceName interfaceName)

/-- An allocation with the requested interface name. -/
structure NewAllocation where
  allocation : Allocation
  interfaceName : String
  deriving DecidableEq, Repr

/-- The body of the loop of `allocateIP`, for one pool. -/
def allocateFromPool (dev : Devices) (podName podNamespace : String) (offset : Int)
    (st : List String × GoMap String NewAllocation)
    (entry : (_ : String) × IPPool) : Option (List String × GoMap String NewAllocation) :=
  let (interfaceNames, newAllocations) := st
  let spec := entry.2.spec
  match matchInterface dev spec.interfaceName interfaceNames with
  -- not match, or no more interfaces to allocate
  | none => some st
  | some deleteIndex => do
    let originalInterfaceName ← interfaceNames[deleteIndex]?
    let interfaceNames := interfaceNames.eraseIdx deleteIndex
    match ← nextAllocation offset spec with
    | none => some (interfaceNames, newAllocations)
    | some (index, address) =>
      some (interfaceNames, newAllocations.insert entry.1
        ⟨⟨podName, podNamespace, index, address⟩, originalInterfaceName⟩)

/-- `allocateIP`: the new allocations by pool name. -/
def allocateIPs (dev : Devices) (podName podNamespace : String) (interfaceNames : List String)
    (offset : Int) (ippoolSpecMap : GoMap String IPPool) :
    Option (GoMap String NewAllocation) := do
  let (_, newAllocations) ← ippoolSpecMap.entries.foldlM
    (allocateFromPool dev podName podNamespace offset) (interfaceNames, ∅)
  some newAllocations

/-- The body of `applyNewAllocations`: patch one pool and append a response. -/
def applyNewAllocation (ippoolSpecMap : GoMap String IPPool)
    (st : GoMap String IPPool × List IPResponse) (entry : (_ : String) × NewAllocation) :
    Option (GoMap String IPPool × List IPResponse) := do
  let pool ← ippoolSpecMap.lookup entry.1
  let allocations := insertAllocation pool.spec.allocations entry.2.allocation
  let vlanBlockSize ← (split pool.spec.vlanCIDR '/')[1]?
  some (patchIPPool entry.1 allocations st.1,
    st.2 ++ [⟨entry.2.interfaceName, entry.2.allocation.address, vlanBlockSize⟩])

/-- `FlushExpiredHistory`. -/
def flushExpiredHistory (expired : String → Bool) (history : GoMap String Int) :
    GoMap String Int :=
  history.filter fun podName _ => !expired podName

/-- The offset of a request, and the history with the anomaly counted. -/
def nextOffset (history : GoMap String Int) (podName : String) : Int × GoMap String Int :=
  match history.lookup podName with
  | some lastOffset => (lastOffset + 1, history.insert podName (lastOffset + 1))
  | none => (1, history)

/-- What serving a request leaves: the responses, the allocations they answer by pool, and
the state. -/
structure Served where
  responses : List IPResponse
  newAllocations : GoMap String NewAllocation
  state : DaemonState

/-- `AllocateIP`. -/
def allocateIP (dev : Devices) (expired : String → Bool) (req : IPRequest) (st : DaemonState) :
    Option Served := do
  let (offset, history) := nextOffset (flushExpiredHistory expired st.history) req.podName
  let ippoolSpecMap := listIPPool st.pools req.hostName req.netAttachDefName
  let newAllocations ← allocateIPs dev req.podName req.podNamespace req.interfaceNames offset
    ippoolSpecMap
  let (pools, responses) ← newAllocations.entries.foldlM (applyNewAllocation ippoolSpecMap)
    (st.pools, [])
  some ⟨responses, newAllocations, ⟨pools, history⟩⟩

/-- The name a response to `DeallocateIP` gives the interface of a pool. -/
def responseInterface (dev : Devices) (specInterface : String) (interfaceNames : List String) :
    String :=
  (interfaceNames.find? fun vf =>
    dev.isVF vf && dev.getPFInterfaceName vf == specInterface).getD specInterface

/-- The allocation is the pod's. -/
def isOf (podName podNamespace : String) (a : Allocation) : Bool :=
  a.pod == podName && a.podNamespace == podNamespace

/-- The body of the loop of `DeallocateIP`, for one pool: its first allocation of the pod is
removed. -/
def deallocateFromPool (dev : Devices) (req : IPRequest)
    (st : GoMap String IPPool × List IPResponse) (entry : (_ : String) × IPPool) :
    Option (GoMap String IPPool × List IPResponse) :=
  let spec := entry.2.spec
  if spec.netAttachDefName = req.netAttachDefName ∧ contains spec.hostName req.hostName then
    match spec.allocations.find? (isOf req.podName req.podNamespace) with
    | none => some st
    | some allocation => do
      let allocations := spec.allocations.eraseP (isOf req.podName req.podNamespace)
      let vlanBlockSize ← (split spec.vlanCIDR '/')[1]?
      some (patchIPPool entry.1 allocations st.1,
        st.2 ++ [⟨responseInterface dev spec.interfaceName req.interfaceNames,
          allocation.address, vlanBlockSize⟩])
  else some st

/-- `DeallocateIP`. -/
def deallocateIP (dev : Devices) (req : IPRequest) (st : DaemonState) :
    Option (List IPResponse × DaemonState) := do
  let history :=
    match st.history.lookup req.podName with
    | some _ => st.history
    | none => st.history.insert req.podName 1
  let ippoolSpecMap := listIPPool st.pools req.hostName req.netAttachDefName
  let (pools, responses) ← ippoolSpecMap.entries.foldlM (deallocateFromPool dev req) (st.pools, [])
  some (responses, ⟨pools, history⟩)

end MultiNicCni.Daemon
