import MultiNicCni.Controller.CidrHandler

/-!
# Storing a CIDR and its IPPools (`updateCIDR` of `controllers/cidr_handler.go`)

`updateCIDR` computes the entries of a network, stores them in the CIDR object of the network,
deletes the IPPools that no host has any more and creates or updates the others. The CIDR
and IPPool objects are stored at the API server; the handlers keep a cache of each, which the
reconcilers fill.

Status updates, routes and the request queue are left out: they touch neither object. Here the
API server accepts every write; `Controller.Synchronizer` has the refused ones too.
-/

namespace MultiNicCni.Controller

open Go Compute

/-- The stored CIDRs and IPPools by name, and the caches of both handlers. -/
structure ClusterState where
  cidrs : GoMap String CIDRSpec
  cidrCache : GoMap String CIDRSpec
  pools : GoMap String IPPool
  poolCache : GoMap String IPPoolSpec

/-- The error `updateCIDR` makes itself. -/
inductive UpdateError where
  /-- "TryInitExistingConfig": an update of a CIDR that does not exist -/
  | tryInitExistingConfig
  deriving DecidableEq, Repr

/-- The pod CIDRs of the hosts of a spec: the keys of `newPoolMap`. -/
def podCIDRsOf (spec : CIDRSpec) : List String :=
  spec.cidrs.flatMap fun entry => entry.hosts.map (·.podCIDR)

/-- Does `CleanPendingIPPools` delete this pool: one of the network that no host has? -/
def isPending (defName : String) (newCIDR : CIDRSpec) (ippool : IPPoolSpec) : Bool :=
  ippool.netAttachDefName == defName && !(podCIDRsOf newCIDR).contains ippool.podCIDR

/-- `CleanPendingIPPools`, on the stored pools. -/
def cleanPendingIPPools (snapshot : GoMap String IPPoolSpec) (defName : String)
    (newCIDR : CIDRSpec) (pools : GoMap String IPPool) : GoMap String IPPool :=
  snapshot.values.foldl (fun pools ippool =>
    if isPending defName newCIDR ippool then
      deleteIPPool pools ippool.netAttachDefName ippool.podCIDR
    else pools) pools

/-- Update the CIDR object, or create it for a new network. -/
def storeCIDR (cidrs : GoMap String CIDRSpec) (spec : CIDRSpec) (new : Bool) :
    Except UpdateError (GoMap String CIDRSpec) :=
  match cidrs.lookup spec.config.name with
  | some _ => .ok (cidrs.insert spec.config.name spec)
  | none => if new then .ok (cidrs.insert spec.config.name spec) else .error .tryInitExistingConfig

/-- `updateCIDR`: the new state, and whether the CIDR changed. `order` is the order in which
the map of the new entries is iterated. -/
def updateCIDR (fuel : Nat) (configReady : Bool) (order : GoMap.RangeOrder String CIDREntry)
    (cidrSpec : CIDRSpec) (new : Bool) (snapshot : GoMap String HostInterface)
    (nodes : Nat → NodeLookup) (st : ClusterState) :
    Option (ClusterState × Except UpdateError Bool) :=
  if configReady then do
    let config := cidrSpec.config
    let excludes := sortAddress config.excludeCIDRs
    let (entriesMap, changed) ← updateEntries fuel cidrSpec excludes new snapshot nodes
    if changed then
      let newEntries := order.values entriesMap
      let spec : CIDRSpec := { config, cidrs := newEntries }
      let ippoolSnapshot := st.poolCache
      match storeCIDR st.cidrs spec new with
      | .error e => some (st, .error e)
      | .ok cidrs =>
        let cidrCache := st.cidrCache.insert config.name spec
        let pools := cleanPendingIPPools ippoolSnapshot config.name spec st.pools
        let pools ← updateIPPools pools config.name newEntries excludes
        some ({ st with cidrs, cidrCache, pools }, .ok true)
    else some (st, .ok false)
  else some (st, .ok false)

end MultiNicCni.Controller
