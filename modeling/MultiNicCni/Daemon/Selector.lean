import MultiNicCni.Api
import MultiNicCni.Lib.Truncate

/-!
# Selecting the NICs of a pod (`daemon/src/selector`, `daemon/src/iface/iface.go`)

The daemon answers a request for NICs with the master interfaces to attach. A strategy chooses
networks; `Select` turns them into the names of interfaces. The strategy of a network is one of
`none`, `costOpt`, `perfOpt` (all three the default one), `devClass` and `topology`.

The map from network to interface is passed by reference: what `devClass` deletes from it is
gone in `Select` as well, so its selector returns the map too.

Go's random map order is the parameter `order`, the unstable `sort.Sort` the parameter `sort`.
-/

namespace MultiNicCni.Selector

open Go

/-! ## Requests -/

/-- `NicArgs`, with the arguments that a strategy reads. -/
structure NicArgs where
  numOfInterfaces : Int
  interfaceNames : List String
  devClass : String
  deriving DecidableEq, Repr

/-- `NICSelectRequest`, with the fields that a strategy reads. -/
structure NICSelectRequest where
  masterNetAddrs : List String
  nicSet : NicArgs
  deriving DecidableEq, Repr

/-- `NICSelectResponse`. -/
structure NICSelectResponse where
  deviceIDs : List String
  masters : List String
  deriving DecidableEq, Repr

/-! ## The interfaces of the host (`iface.go`) -/

/-- `GetNameNetMap`, from the cached interfaces by name. -/
def getNameNetMap (interfaceMap : GoMap String InterfaceInfo) : GoMap String String :=
  interfaceMap.entries.foldl (fun nameNetMap e => nameNetMap.insert e.1 e.2.netAddress) ∅

/-- `GetInterfaceNameMap`: from network and PCI address to name. -/
def getInterfaceNameMap (interfaceMap : GoMap String InterfaceInfo) :
    GoMap String (GoMap String String) :=
  interfaceMap.entries.foldl (fun ifaceNameMap e => ifaceNameMap.insert e.2.netAddress
    (((ifaceNameMap.lookup e.2.netAddress).getD ∅).insert e.2.pciAddress e.1)) ∅

/-! ## The default strategy (`none.go`) -/

/-- The first elements of a slice, up to a size that is no limit unless it is positive. -/
def upTo (maxSize : Int) (selected : List String) : List String :=
  selected.take (if 0 < maxSize then min selected.length maxSize.toNat else selected.length)

/-- `DefaultSelector.Select`. -/
def defaultSelect (req : NICSelectRequest) (interfaceNameMap nameNetMap : GoMap String String) :
    List String :=
  let fixedSet := req.nicSet.interfaceNames
  let selectedMaster :=
    if 0 < fixedSet.length then fixedSet.filterMap fun devName => nameNetMap.lookup devName
    else req.masterNetAddrs
  let selectedMaster :=
    -- apply all network addresses
    if selectedMaster.length = 0 then sortStrings interfaceNameMap.keys else selectedMaster
  upTo req.nicSet.numOfInterfaces selectedMaster

/-! ## By device class (`devclass.go`) -/

/-- `DeviceID` of a `DeviceClass`. -/
structure DeviceID where
  vendor : String
  products : List String
  deriving DecidableEq, Repr

/-- The map of `DevClassSelector.Select` from vendor to products. -/
def devSpecMap (deviceIDs : List DeviceID) : GoMap String (List String) :=
  deviceIDs.foldl (fun m deviceID => m.insert deviceID.vendor deviceID.products) ∅

/-- Is the interface in the map, by vendor and product? -/
def expected (devSpecMap : GoMap String (List String)) (info : InterfaceInfo) : Bool :=
  match devSpecMap.lookup info.vendor with
  | some products => decide (info.product ∈ products)
  | none => false

/-- The body of the loop of `DevClassSelector.Select`. An entry that is deleted before the loop
comes to it is not met. -/
def dropUnexpected (devSpecMap : GoMap String (List String)) (nameNetMap : GoMap String String)
    (interfaceMap : GoMap String InterfaceInfo) (interfaceNameMap : GoMap String String)
    (e : (_ : String) × String) : GoMap String String :=
  match interfaceNameMap.lookup e.1 with
  | none => interfaceNameMap
  | some devName =>
    match nameNetMap.lookup devName with
    | none => interfaceNameMap
    | some netAddress =>
      match interfaceMap.lookup devName with
      | none => interfaceNameMap
      | some info =>
        if expected devSpecMap info then interfaceNameMap else interfaceNameMap.erase netAddress

/-- `DevClassSelector.Select`, with the map as it leaves it. -/
def devClassSelect (order : GoMap.EntryOrder String String)
    (getDeviceClass : String → Except String (List DeviceID))
    (interfaceMap : GoMap String InterfaceInfo) (req : NICSelectRequest)
    (interfaceNameMap nameNetMap : GoMap String String) : List String × GoMap String String :=
  let interfaceNameMap :=
    if req.nicSet.devClass = "" then interfaceNameMap
    else
      match getDeviceClass req.nicSet.devClass with
      | .ok deviceIDs => (order.entries interfaceNameMap).foldl
          (dropUnexpected (devSpecMap deviceIDs) nameNetMap interfaceMap) interfaceNameMap
      | .error _ => interfaceNameMap
  (defaultSelect req interfaceNameMap nameNetMap, interfaceNameMap)

/-! ## By NUMA node (`topology.go`, `sort.go`) -/

/-- The result of sorting the keys of a map by decreasing value (`getSortedKeyByMap`): any order
of keys with the same value. -/
structure KeySort where
  keys : GoMap String Nat → List String
  perm : ∀ m, (keys m).Perm m.keys
  sorted : ∀ m, (keys m).Pairwise fun a b => (m.lookup b).getD 0 ≤ (m.lookup a).getD 0

/-- A stable sort. -/
def KeySort.stable : KeySort where
  keys m := Lib.sortDown (fun k => (m.lookup k).getD 0) m.keys
  perm _ := Lib.sortDown_perm _ _
  sorted _ := Lib.sortDown_sorted _ _

/-- `NumaAwareSelector`, with the maps that are read. -/
structure NumaAwareSelector where
  gpuIDBusMap : GoMap String String
  numaMap : GoMap String String

def gpuResourceName : String := "nvidia.com/gpu"

namespace NumaAwareSelector

variable (s : NumaAwareSelector)

/-- The node that `SortByNumaAware` counts a GPU for: a missing key reads as the empty string. -/
def gpuNumaId (gpuId : String) : String :=
  let pciAddress := (s.gpuIDBusMap.lookup gpuId).getD ""
  (s.numaMap.lookup pciAddress).getD ""

/-- The number of GPUs of each node. -/
def numaPriority (gpuIds : List String) : GoMap String Nat :=
  gpuIds.foldl (fun numaPriority gpuId =>
    let numaId := s.gpuNumaId gpuId
    match numaPriority.lookup numaId with
    | some priority => numaPriority.insert numaId (priority + 1)
    | none => numaPriority.insert numaId 1) ∅

/-- The NUMA node of the NIC of a network, if it is known. -/
def nicNumaId (interfaceMap : GoMap String InterfaceInfo) (interfaceNameMap : GoMap String String)
    (netAddress : String) : Option String := do
  let devName ← interfaceNameMap.lookup netAddress
  let info ← interfaceMap.lookup devName
  s.numaMap.lookup info.pciAddress

/-- The priority of each network whose node is known. -/
def nicPriority (interfaceMap : GoMap String InterfaceInfo)
    (interfaceNameMap : GoMap String String) (numaPriority : GoMap String Nat)
    (selectedMaster : List String) : GoMap String Nat :=
  selectedMaster.foldl (fun nicPriority masterNetAddr =>
    match s.nicNumaId interfaceMap interfaceNameMap masterNetAddr with
    | some numaId => nicPriority.insert masterNetAddr ((numaPriority.lookup numaId).getD 0)
    | none => nicPriority) ∅

section Select

variable (sort : KeySort) (interfaceMap : GoMap String InterfaceInfo)
  (interfaceNameMap : GoMap String String) (resourceMap : GoMap String (List String))

/-- `SortByNumaAware`. -/
def sortByNumaAware (selectedMaster : List String) : List String :=
  match resourceMap.lookup gpuResourceName with
  | none => selectedMaster
  | some gpuIds =>
    if s.numaMap.entries.length = 0 then selectedMaster
    else sort.keys (s.nicPriority interfaceMap interfaceNameMap (s.numaPriority gpuIds) selectedMaster)

/-- The networks to choose from: those of the request that the host has, or else all. -/
def candidates (order : GoMap.EntryOrder String String) (req : NICSelectRequest) : List String :=
  let selectedMaster := req.masterNetAddrs.filter fun netAddress => netAddress ∈ interfaceNameMap
  -- apply all network addresses
  if selectedMaster.length = 0 then (order.entries interfaceNameMap).map Sigma.fst
  else selectedMaster

/-- `NumaAwareSelector.Select`. -/
def select (order : GoMap.EntryOrder String String) (req : NICSelectRequest) : List String :=
  let selectedMaster := candidates interfaceNameMap order req
  let maxSize := req.nicSet.numOfInterfaces
  if 0 < maxSize ∧ maxSize < selectedMaster.length then
    let sortedSelectedMaster :=
      s.sortByNumaAware sort interfaceMap interfaceNameMap resourceMap selectedMaster
    -- use origin if a network is missing
    let selectedMaster :=
      if sortedSelectedMaster.length ≠ selectedMaster.length then selectedMaster
      else sortedSelectedMaster
    selectedMaster.take maxSize.toNat
  else selectedMaster

end Select

end NumaAwareSelector

/-! ## `Select` (`selector.go`) -/

/-- What `Select` reads of the host: the cached interfaces, the links that exist, the device
classes, the maps of the topology strategy and the name of a device by its ID. -/
structure Host where
  interfaceMap : GoMap String InterfaceInfo
  deviceExists : String → Bool
  getDeviceClass : String → Except String (List DeviceID)
  numaAware : NumaAwareSelector
  getDeviceName : String → String

/-- The networks of the host with one interface for each, the last if there are several. -/
def filteredMasterNameMap (order : GoMap.EntryOrder String String)
    (interfaceMap : GoMap String InterfaceInfo) : GoMap String String :=
  (getInterfaceNameMap interfaceMap).entries.foldl (fun m e =>
    (order.entries e.2).foldl (fun m device => m.insert e.1 device.2) m) ∅

/-- The devices that the pod got already, with their names. -/
def podDevices (host : Host) (resourceMap : GoMap String (List String))
    (resourceNames : List String) : List String × List String :=
  let podDeviceIDs := resourceNames.flatMap fun name => (resourceMap.lookup name).getD []
  (podDeviceIDs, podDeviceIDs.map host.getDeviceName)

/-- The networks that a strategy selects, and the map it leaves. -/
def strategySelect (order : GoMap.EntryOrder String String) (sort : KeySort) (host : Host)
    (strategy : String) (req : NICSelectRequest) (resourceMap : GoMap String (List String)) :
    List String × GoMap String String :=
  let masterNameMap := filteredMasterNameMap order host.interfaceMap
  let nameNetMap := getNameNetMap host.interfaceMap
  if strategy = "devClass" then
    devClassSelect order host.getDeviceClass host.interfaceMap req masterNameMap nameNetMap
  else if strategy = "topology" then
    (host.numaAware.select sort host.interfaceMap masterNameMap resourceMap order req, masterNameMap)
  else (defaultSelect req masterNameMap nameNetMap, masterNameMap)

/-- The interfaces of the selected networks that are still in the map and exist. -/
def mastersOf (host : Host) (masterNameMap : GoMap String String) (netAddresses : List String) :
    List String :=
  netAddresses.filterMap fun netAddress =>
    match masterNameMap.lookup netAddress with
    | some master => if master ≠ "" ∧ host.deviceExists master then some master else none
    | none => none

/-- The answer of the default strategy for a network whose policy is not known. A network that is
not in the map has the empty name. -/
def getDefaultResponse (host : Host) (req : NICSelectRequest)
    (masterNameMap nameNetMap : GoMap String String) : NICSelectResponse :=
  let selectedMasterNetAddrs := defaultSelect req masterNameMap nameNetMap
  ⟨[], (selectedMasterNetAddrs.map fun netAddress => (masterNameMap.lookup netAddress).getD "").filter
    fun master => host.deviceExists master⟩

/-- `Select`. The resources of the pod are `none` if they cannot be read, the policy is `none` if
there is no network of that name. -/
def select (order : GoMap.EntryOrder String String) (sort : KeySort) (host : Host)
    (req : NICSelectRequest) (podResources : Option (GoMap String (List String)))
    (resourceNames : List String) (policy : Option String) : NICSelectResponse :=
  let resourceMap := podResources.getD ∅
  let (podDeviceIDs, podMasters) := podDevices host resourceMap resourceNames
  -- no need of selection
  if 0 < podMasters.length then ⟨podDeviceIDs, podMasters⟩
  else
    match policy with
    | none => getDefaultResponse host req (filteredMasterNameMap order host.interfaceMap)
        (getNameNetMap host.interfaceMap)
    | some strategy =>
      let (selectedMasterNetAddrs, masterNameMap) :=
        strategySelect order sort host strategy req resourceMap
      ⟨[], mastersOf host masterNameMap selectedMasterNetAddrs⟩

end MultiNicCni.Selector
