import MultiNicCni.Cni.Ipam

/-!
# The configurations of the single NICs (`cni/plugins/main/multi-nic`)

The main plugin calls a device plugin once for every selected master, with a configuration
made from the `plugin` section of the network and an `ipam` section of its own: the static
address that the IPAM plugin returned, or the IPAM of the network. The three loaders of this
module share one loop (`loadConfs`) and differ in its body.

A configuration is the value the JSON text stands for. The source replaces the text
`"ipam":{}` in it; quotes are escaped inside JSON strings, so that text is the empty `ipam`
section and nothing else (`NicConf.withIpam`).

Go's random map order is the parameter `order`. The result is `none` when the plugin panics:
on a route whose destination is no CIDR.
-/

namespace MultiNicCni.Cni

open Go Compute

/-! ## Routes -/

/-- A route of an `ipam` section; either field may be missing. -/
structure IpamRoute where
  dst : Option String
  gw : Option String
  deriving DecidableEq, Repr

/-- `types.Route`; a gateway that does not parse is `nil`. -/
structure Route where
  dst : IPNet
  gw : Option IP4
  deriving DecidableEq

/-- Next hops by destination. -/
abbrev MultiPathRoutes := GoMap String (List (Option IP4))

/-- The map of `separateMultiPathRoutes` from destination to routes. -/
def routesByDst (routes : List Route) : GoMap String (List Route) :=
  routes.foldl (fun dstMap r =>
    dstMap.insert (netString r.dst) (((dstMap.lookup (netString r.dst)).getD []) ++ [r])) ∅

/-- `separateMultiPathRoutes`: the destinations with several routes, and the routes that are
the only one to their destination. -/
def separateMultiPathRoutes (order : GoMap.RangeOrder String (List Route)) (routes : List Route) :
    MultiPathRoutes × List Route :=
  let dstMap := routesByDst routes
  (dstMap.entries.foldl (fun multiPathRoutes e =>
      if e.2.length = 1 then multiPathRoutes
      else multiPathRoutes.insert e.1 (e.2.map (·.gw))) ∅,
    (order.values dstMap).flatMap fun routes => if routes.length = 1 then routes else [])

/-! ## The network configuration -/

/-- The `ipam` section of the network: its type, its routes, its other fields as JSON, and for
`multi-config` the type and the arguments of the IPAM of each master. -/
structure IpamSection where
  type : String
  routes : Option (List IpamRoute)
  fields : List (String × String)
  ipamType : String
  args : Option (GoMap String (Option (GoMap String String)))

/-- The `plugin` section. The two addresses are fields of the `aws-ipvlan` plugin. -/
structure PluginSection where
  cniVersion : String
  type : String
  ipamType : String
  mode : String
  mtu : Int
  primaryIP : String
  podIP : String
  deriving DecidableEq, Repr

/-- `NetConf`, with the fields the loaders read. -/
structure NetConf where
  cniVersion : String
  plugin : PluginSection
  masters : List String
  isMultiNICIPAM : Bool
  ipam : IpamSection

def multiConfigIPAMType : String := "multi-config"

def whereaboutsIPAMType : String := "whereabouts"

/-- `getMultiIPAMConfigBytes`: the IPAM of each master, for `multi-config`. -/
def getMultiIPAMConfigBytes (ipam : IpamSection) : GoMap String (GoMap String String) :=
  (ipam.args.getD ∅).entries.foldl (fun configs e =>
    match e.2 with
    | none => configs
    | some args =>
      let typed := (∅ : GoMap String String).insert "type" ipam.ipamType
      let named := if ipam.ipamType = whereaboutsIPAMType then typed.insert "network_name" e.1
        else typed
      configs.insert e.1 (args.entries.foldl (fun config kv => config.insert kv.1 kv.2) named)) ∅

/-- The route of an `ipam` section, if it is complete. -/
def routeOf (r : IpamRoute) : Option (Option Route) :=
  match r.dst, r.gw with
  | some dstStr, some gwStr => do
    let (_, dst) ← parseCIDR dstStr
    some (some ⟨dst, parseIP gwStr⟩)
  | _, _ => some none

/-- `getRoutesFromIPAM`: the routes to inject and the multi-path ones; both `nil` without a
`routes` field. -/
def getRoutesFromIPAM (order : GoMap.RangeOrder String (List Route)) (ipam : IpamSection) :
    Option (Option (List Route) × Option MultiPathRoutes) :=
  match ipam.routes with
  | none => some (none, none)
  | some ipamRoutes => do
    let routes ← ipamRoutes.mapM routeOf
    let (multiPathRoutes, nonMultiPathRoutes) := separateMultiPathRoutes order routes.reduceOption
    some (some nonMultiPathRoutes, some multiPathRoutes)

/-! ## The configuration of one NIC -/

/-- The `ipam` section of a NIC. -/
inductive NicIpam where
  /-- as the `plugin` section gives it: only a type, and empty without one -/
  | ofType (type : String)
  | static (addresses : List String) (routes : Option (List Route))
  /-- the section of the network -/
  | network (ipam : IpamSection)
  /-- the IPAM of the master, for `multi-config` -/
  | single (fields : GoMap String String)

/-- A configuration passed to a device plugin. -/
structure NicConf where
  cniVersion : String
  name : String
  type : String
  master : String
  mode : String
  mtu : Int
  ipam : NicIpam
  primaryIP : String
  podIP : String

/-- Replace `"ipam":{}`. -/
def NicConf.withIpam (conf : NicConf) (ipam : NicIpam) : NicConf :=
  match conf.ipam with
  | .ofType "" => { conf with ipam }
  | _ => conf

/-- The static addresses a configuration carries. -/
def NicConf.addresses (conf : NicConf) : List String :=
  match conf.ipam with
  | .static addresses _ => addresses
  | _ => []

/-- The copy of the `plugin` section for one master. -/
def singleConfig (ifName : String) (n : NetConf) (index : Nat) (masterName : String) : NicConf :=
  { cniVersion := if n.plugin.cniVersion = "" then n.cniVersion else n.plugin.cniVersion
    name := ifName ++ "-" ++ String.ofList (Nat.toDigits 10 index)
    type := n.plugin.type
    master := masterName
    mode := n.plugin.mode
    mtu := n.plugin.mtu
    ipam := .ofType n.plugin.ipamType
    primaryIP := n.plugin.primaryIP
    podIP := n.plugin.podIP }

section Inject

variable (order : GoMap.RangeOrder String (List Route))

/-- `replaceMultiNicIPAM`. -/
def replaceMultiNicIPAM (conf : NicConf) (ipam : IpamSection) (ipConfig : Option IPConfig) :
    Option (NicConf × Option MultiPathRoutes) := do
  let (nonMultiPathRoutes, multiPathRoutes) ← getRoutesFromIPAM order ipam
  let addresses := ipConfig.toList.map fun ipConfig => netString ipConfig.address
  some (conf.withIpam (.static addresses nonMultiPathRoutes), multiPathRoutes)

/-- `injectMultiNicIPAM`: the address at the position of the master, if there is one. -/
def injectMultiNicIPAM (conf : NicConf) (ipam : IpamSection) (ipConfigs : List IPConfig)
    (ipIndex : Nat) : Option (NicConf × Option MultiPathRoutes) :=
  replaceMultiNicIPAM order conf ipam ipConfigs[ipIndex]?

/-- `replaceSingleNicIPAMWithMultiConfig`. The section to inject was printed before the routes
were separated. -/
def replaceSingleNicIPAMWithMultiConfig (conf : NicConf) (ipam : IpamSection) (ipamBytes : NicIpam) :
    Option (NicConf × Option MultiPathRoutes) := do
  let (_, multiPathRoutes) ← getRoutesFromIPAM order ipam
  some (conf.withIpam ipamBytes, multiPathRoutes)

/-- `injectSingleNicIPAM`. -/
def injectSingleNicIPAM (conf : NicConf) (ipam : IpamSection) :
    Option (NicConf × Option MultiPathRoutes) :=
  replaceSingleNicIPAMWithMultiConfig order conf ipam (.network ipam)

end Inject

/-! ## The loaders -/

/-- The loop of a loader over the masters from position `index` on. Its body gives the
configuration of a master, if there is one, and the multi-path routes to go on with. -/
def loadConfs
    (body : Nat → String → Option MultiPathRoutes → Option (Option NicConf × Option MultiPathRoutes)) :
    Nat → List String → Option MultiPathRoutes → Option (List NicConf × Option MultiPathRoutes)
  | _, [], multiPathRoutes => some ([], multiPathRoutes)
  | index, masterName :: masters, multiPathRoutes => do
    let (conf, multiPathRoutes) ← body index masterName multiPathRoutes
    let (confs, multiPathRoutes) ← loadConfs body (index + 1) masters multiPathRoutes
    some (conf.toList ++ confs, multiPathRoutes)

section Loaders

variable (order : GoMap.RangeOrder String (List Route)) (ifName : String) (n : NetConf)
  (ipConfigs : List IPConfig)

/-- The body of `loadIPVANConf`. -/
def ipvlanConf (index : Nat) (masterName : String) (multiPathRoutes : Option MultiPathRoutes) :
    Option (Option NicConf × Option MultiPathRoutes) :=
  if masterName = "" then some (none, multiPathRoutes)
  else
    let conf := singleConfig ifName n index masterName
    if 0 < ipConfigs.length then do
      -- no need to call ipam due to static ip
      let (conf, multiPathRoutes) ← injectMultiNicIPAM order conf n.ipam ipConfigs index
      some (some conf, multiPathRoutes)
    else if n.ipam.type = multiConfigIPAMType then
      match (getMultiIPAMConfigBytes n.ipam).lookup masterName with
      | some ipamBytes => do
        let (conf, multiPathRoutes) ←
          replaceSingleNicIPAMWithMultiConfig order conf n.ipam (.single ipamBytes)
        some (some conf, multiPathRoutes)
      | none => some (none, multiPathRoutes)
    else do
      let (conf, multiPathRoutes) ← injectSingleNicIPAM order conf n.ipam
      some (some conf, multiPathRoutes)

/-- `loadIPVANConf`. -/
def loadIPVANConf : Option (List NicConf × Option MultiPathRoutes) :=
  loadConfs (ipvlanConf order ifName n ipConfigs) 0 n.masters none

/-- The body of `loadMACVLANConf`. -/
def macvlanConf (index : Nat) (masterName : String) (multiPathRoutes : Option MultiPathRoutes) :
    Option (Option NicConf × Option MultiPathRoutes) :=
  if masterName = "" then some (none, multiPathRoutes)
  else do
    let conf := singleConfig ifName n index masterName
    let (conf, multiPathRoutes) ←
      if n.isMultiNICIPAM then injectMultiNicIPAM order conf n.ipam ipConfigs index
      else injectSingleNicIPAM order conf n.ipam
    some (some conf, multiPathRoutes)

/-- `loadMACVLANConf`. -/
def loadMACVLANConf : Option (List NicConf × Option MultiPathRoutes) :=
  loadConfs (macvlanConf order ifName n ipConfigs) 0 n.masters none

/-- `injectPrimaryIP`: replace `"primaryIP":""`. -/
def injectPrimaryIP (conf : NicConf) (primaryIP : String) : NicConf :=
  if conf.primaryIP = "" then { conf with primaryIP } else conf

/-- `injectPodIP`: replace `"podIP":""`. -/
def injectPodIP (conf : NicConf) (podIP : String) : NicConf :=
  if conf.podIP = "" then { conf with podIP } else conf

/-- The body of `loadAWSCNIConf`. `getHostIP` reads the first address of a device; a `nil`
address prints as `<nil>`. -/
def awsConf (getHostIP : String → Option IP4) (index : Nat) (masterName : String)
    (multiPathRoutes : Option MultiPathRoutes) : Option (Option NicConf × Option MultiPathRoutes) :=
  let primaryIP := (getHostIP masterName).elim "<nil>" bytesToStr
  let conf := injectPrimaryIP (singleConfig ifName n index masterName) primaryIP
  if n.isMultiNICIPAM then
    match ipConfigs[index]? with
    | some ipConfig => do
      let (conf, multiPathRoutes) ← injectMultiNicIPAM order conf n.ipam ipConfigs index
      some (some (injectPodIP conf (bytesToStr ipConfig.address.ip)), multiPathRoutes)
    | none => some (none, multiPathRoutes)
  else do
    let (conf, multiPathRoutes) ← injectSingleNicIPAM order conf n.ipam
    some (some conf, multiPathRoutes)

/-- `loadAWSCNIConf`. -/
def loadAWSCNIConf (getHostIP : String → Option IP4) :
    Option (List NicConf × Option MultiPathRoutes) :=
  loadConfs (awsConf order ifName n ipConfigs getHostIP) 0 n.masters none

end Loaders

end MultiNicCni.Cni
