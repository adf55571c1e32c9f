import MultiNicCni.Go.Map
import MultiNicCni.Go.Slice

/-!
# The custom resources (`api/v1`)

The records the controller and the daemon share, with the fields the modelled functions
read or write. Go's `int` fields are `Int`; lists and strings are Lean's.
-/

namespace MultiNicCni

/-- `PluginConfig`. -/
structure PluginConfig where
  name : String
  subnet : String
  masterNetAddrs : List String
  hostBlock : Int
  interfaceBlock : Int
  excludeCIDRs : List String
  vlanMode : String
  deriving DecidableEq, Repr

/-- `HostInterfaceInfo`: a host's share of one network. -/
structure HostInterfaceInfo where
  hostIndex : Int
  hostName : String
  interfaceName : String
  hostIP : String
  podCIDR : String
  ipPool : String
  deriving DecidableEq, Repr

/-- `CIDREntry`: one network with its hosts. -/
structure CIDREntry where
  netAddress : String
  interfaceIndex : Int
  vlanCIDR : String
  hosts : List HostInterfaceInfo
  deriving DecidableEq, Repr

/-- `CIDRSpec`. -/
structure CIDRSpec where
  config : PluginConfig
  cidrs : List CIDREntry
  deriving DecidableEq, Repr

/-- `InterfaceInfoType`, without the device fields. -/
structure InterfaceInfoType where
  interfaceName : String
  netAddress : String
  hostIP : String
  deriving DecidableEq, Repr

/-- `InterfaceInfoType` with the device fields. -/
structure InterfaceInfo extends InterfaceInfoType where
  vendor : String
  product : String
  pciAddress : String
  deriving DecidableEq, Repr

/-- `Equal`: the device fields are not compared. -/
def InterfaceInfo.equal (i cmp : InterfaceInfo) : Bool :=
  i.interfaceName == cmp.interfaceName && i.netAddress == cmp.netAddress && i.hostIP == cmp.hostIP

theorem InterfaceInfo.equal_self (i : InterfaceInfo) : i.equal i = true := by
  simp [InterfaceInfo.equal]

/-- `HostInterfaceSpec`: the interfaces discovered on a host. -/
structure HostInterface where
  hostName : String
  interfaces : List InterfaceInfoType
  deriving DecidableEq, Repr

/-- `Allocation`: an address of a pool given to a pod. -/
structure Allocation where
  pod : String
  podNamespace : String
  index : Int
  address : String
  deriving DecidableEq, Repr

/-- `IPPoolSpec`: the addresses of one host on one network. -/
structure IPPoolSpec where
  podCIDR : String
  vlanCIDR : String
  netAttachDefName : String
  hostName : String
  interfaceName : String
  excludes : List String
  allocations : List Allocation
  deriving DecidableEq, Repr

/-- A stored `IPPool` object: its host and network labels, and its spec. -/
structure IPPool where
  hostNameLabel : String
  defNameLabel : String
  spec : IPPoolSpec
  deriving DecidableEq, Repr

/-- The pool with other allocations. -/
def IPPool.withAllocations (pool : IPPool) (allocations : List Allocation) : IPPool :=
  { pool with spec := { pool.spec with allocations } }

end MultiNicCni
