import MultiNicCni.Api
import MultiNicCni.Compute.Compute

/-!
# The IPPools of a network (`controllers/ippool_handler.go`)

One IPPool is kept for every host of every network, named after the network definition and
the host's pod CIDR. `UpdateIPPool` creates it or brings its spec up to date, and keeps the
allocations that the daemons have stored in it.

The API server is the map of the stored pools, and its calls succeed: a `Get` fails when
the pool does not exist. The result is `none` when the Go code panics, which it does
on a `nil` network: the pod CIDR does not parse, or an allocation is held against an exclude
without a prefix length.
-/

namespace MultiNicCni.Controller

open Go Compute

/-- `GetIPPoolName`: `<definition>-<address>-<block>`. -/
def getIPPoolName (netAttachDef podCIDR : String) : String :=
  netAttachDef ++ "-" ++ replaceAll podCIDR '/' '-'

/-! ## The excludes of a pool -/

/-- The prefix length an exclude names, 32 without one. -/
def excludeBlock (excludeCIDR : String) : Int :=
  match (split excludeCIDR '/')[1]? with
  | some s => (parseInt 10 s.toList).1
  | none => 32

/-- Is the exclude a longer prefix than the pod CIDR, with its address inside? -/
def matchesPodCIDR (podCIDR excludeCIDR : String) : Option Bool := do
  let excludeIPStr := (split excludeCIDR '/').headD ""
  let podBlock ← blockOf podCIDR
  if podBlock ≥ excludeBlock excludeCIDR then some false
  else
    let (_, podSubnet) ← parseCIDR podCIDR
    -- an address that does not parse is `nil`, which no network contains
    match parseCIDR (String.ofList
        (excludeIPStr.toList ++ '/' :: formatInt 10 (excludeBlock excludeCIDR))) with
    | some (excludeIP, _) => some (podSubnet.contains excludeIP)
    | none => some false

/-- `extractMatchExcludesFromPodCIDR`: the excludes inside a pod CIDR. -/
def extractMatchExcludesFromPodCIDR (podCIDR : String) : List IPValue → Option (List String)
  | [] => some []
  | item :: excludes => do
    let inside ← matchesPodCIDR podCIDR item.address
    let excludesInterface ← extractMatchExcludesFromPodCIDR podCIDR excludes
    some (if inside then item.address :: excludesInterface else excludesInterface)

/-- `checkPoolValidity`: the allocations inside an exclude, once for each such exclude. -/
def checkPoolValidity (excludeCIDRs : List String) (allocations : List Allocation) :
    Option (List Allocation) :=
  allocations.foldlM
    (fun invalid allocation => excludeCIDRs.foldlM
      (fun invalid cidr => do
        let (_, subnet) ← parseCIDR cidr
        match parseCIDR (allocation.address ++ "/32") with
        | some (ip, _) => some (if subnet.contains ip then invalid ++ [allocation] else invalid)
        | none => some invalid)
      invalid)
    []

/-! ## Creating, updating and deleting pools -/

/-- `initIPPool`: name and spec of a pool, without allocations. -/
def initIPPool (netAttachDef podCIDR vlanCIDR hostName interfaceName : String)
    (excludes : List IPValue) : Option (String × IPPoolSpec) := do
  let excludesInterface ← extractMatchExcludesFromPodCIDR podCIDR excludes
  some (getIPPoolName netAttachDef podCIDR,
    { podCIDR, vlanCIDR, netAttachDefName := netAttachDef, hostName, interfaceName,
      excludes := excludesInterface, allocations := [] })

/-- `UpdateIPPool`. An existing pool keeps its allocations; those that a changed exclude
list now covers are only reported. -/
def updateIPPool (pools : GoMap String IPPool)
    (netAttachDef podCIDR vlanCIDR hostName interfaceName : String) (excludes : List IPValue) :
    Option (GoMap String IPPool) := do
  let (ippoolName, spec) ← initIPPool netAttachDef podCIDR vlanCIDR hostName interfaceName excludes
  let labelled : IPPool := { hostNameLabel := hostName, defNameLabel := netAttachDef, spec }
  match pools.lookup ippoolName with
  | some ippool =>
    if ippool.spec.excludes ≠ spec.excludes then
      let _ ← checkPoolValidity spec.excludes ippool.spec.allocations
    some (pools.insert ippoolName (labelled.withAllocations ippool.spec.allocations))
  | none => some (pools.insert ippoolName labelled)

/-- `DeleteIPPool`. -/
def deleteIPPool (pools : GoMap String IPPool) (netAttachDef podCIDR : String) :
    GoMap String IPPool :=
  pools.erase (getIPPoolName netAttachDef podCIDR)

/-- `UpdateIPPools`: a pool for every host of every entry. -/
def updateIPPools (pools : GoMap String IPPool) (defName : String) (entries : List CIDREntry)
    (excludes : List IPValue) : Option (GoMap String IPPool) :=
  entries.foldlM
    (fun pools entry => entry.hosts.foldlM
      (fun pools host => updateIPPool pools defName host.podCIDR entry.vlanCIDR host.hostName
        host.interfaceName excludes)
      pools)
    pools

/-- The cache after a `Reconcile` of an IPPool, given the answer to its `Get`: the spec of the
pool is cached, and a pool that is being deleted is forgotten. -/
def reconcileIPPool (poolCache : GoMap String IPPoolSpec) :
    String × Option IPPool → GoMap String IPPoolSpec
  | (name, some ippool) => poolCache.insert name ippool.spec
  | (name, none) => poolCache.erase name

end MultiNicCni.Controller
