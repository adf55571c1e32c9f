import MultiNicCni.Go.Json
import MultiNicCni.Go.Text

/-!
# The SR-IOV plugin of the controller (`internal/plugin`)

For a network of type `sriov` the controller creates a `SriovNetwork` object and prints the
`plugin` section of the network definition, both from the string arguments of the network
(`CNIArgs`). The section is then reduced to the keys that are arguments as well (`RemoveEmpty`).
A printed section is the object that its text stands for.

The `SriovNetworkNodePolicy`, which a network without a resource name gets, is left out: it has
none of the settings of the section.

- `createSriovNetwork`, `sriovNetConf`: the object and the section;
- `lookup_removeEmpty`: what `RemoveEmpty` leaves of a section.
-/

namespace MultiNicCni.Plugin

open Go

/-! ## Arguments (`utils.go`) -/

/-- `getInt`: the value, and whether the error is nil. -/
def getInt (values : GoMap String String) (key : String) : Int × Bool :=
  match values.lookup key with
  | some value => parseInt 10 value.toList
  | none => (0, false)

/-- `strconv.ParseBool`: the value, and whether the error is nil. -/
def parseBool (s : String) : Bool × Bool :=
  if s ∈ ["1", "t", "T", "TRUE", "true", "True"] then (true, true)
  else if s ∈ ["0", "f", "F", "FALSE", "false", "False"] then (false, true)
  else (false, false)

def getBoolean (values : GoMap String String) (key : String) : Bool × Bool :=
  match values.lookup key with
  | some value => parseBool value
  | none => (false, false)

/-- The value of a call without an error. -/
def ifNil {α : Type} (result : α × Bool) : Option α := if result.2 then some result.1 else none

/-- `ValidateResourceName`. -/
def validateResourceName (name : String) : String :=
  String.ofList (name.toList.filter fun c => c != '.' && c != '-')

/-! ## The objects -/

/-- `MultiNicNetwork`, with what the plugin reads of it. -/
structure MultiNicNetwork where
  name : String
  namespaceName : String
  cniVersion : String
  cniArgs : GoMap String String

/-- `SriovNetworkSpec`, with the fields that are set. -/
structure SriovNetworkSpec where
  networkNamespace : String
  resourceName : String
  vlan : Int
  vlanQoS : Int
  minTxRate : Option Int
  maxTxRate : Option Int
  deriving DecidableEq, Repr

/-- `SriovNetConf` of the controller. -/
structure SriovNetConf where
  cniVersion : String
  type : String
  vlan : Int
  vlanQoS : Int
  spoofChk : Option Bool
  trust : Option Bool
  minTxRate : Option Int
  maxTxRate : Option Int
  deriving DecidableEq, Repr

/-- `json.Marshal`, with the embedded `types.NetConf`. -/
def SriovNetConf.marshal (conf : SriovNetConf) : JsonObject :=
  Json.object
    [("cniVersion", Json.omitEmptyStr conf.cniVersion), ("type", Json.omitEmptyStr conf.type),
      ("ipam", some .empty), ("dns", some .empty),
      ("vlan", Json.omitEmptyInt conf.vlan), ("vlanQoS", Json.omitEmptyInt conf.vlanQoS),
      ("spoofchk", conf.spoofChk.map .bool), ("trust", conf.trust.map .bool),
      ("min_tx_rate", conf.minTxRate.map .num), ("max_tx_rate", conf.maxTxRate.map .num)]

/-! ## `GetConfig` -/

def sriovType : String := "sriov"

def resourceAnnotation : String := "k8s.v1.cni.cncf.io/resourceName"

def sriovResourcePrefix : String := "openshift.io"

/-- The name that `getResource` returns: the argument, or else the default. -/
def getResource (args : GoMap String String) (resourceName : String) : String :=
  let given := (args.lookup "resourceName").getD ""
  if given = "" then resourceName else given

/-- The object that `createSriovNetwork` sends. The two rates are pointers to the variable `val`,
which holds what `getInt` returned last, with or without an error. -/
def createSriovNetwork (namespaceName : String) (args : GoMap String String)
    (resourceName : String) : SriovNetworkSpec :=
  let vlan := getInt args "vlan"
  let vlanQoS := getInt args "vlanQoS"
  let minTxRate := getInt args "minTxRate"
  let maxTxRate := getInt args "maxTxRate"
  let val := maxTxRate.1
  { networkNamespace := namespaceName
    resourceName
    vlan := (ifNil vlan).getD 0
    vlanQoS := (ifNil vlanQoS).getD 0
    minTxRate := if minTxRate.2 then some val else none
    maxTxRate := if maxTxRate.2 then some val else none }

/-- The answer of the API server to the creation of the `SriovNetwork`. -/
inductive Created where
  | created
  | alreadyExists
  | failed
  deriving DecidableEq, Repr

/-- The configuration that `GetConfig` prints. -/
def sriovNetConf (net : MultiNicNetwork) : SriovNetConf :=
  { cniVersion := net.cniVersion
    type := sriovType
    vlan := (ifNil (getInt net.cniArgs "vlan")).getD 0
    vlanQoS := (ifNil (getInt net.cniArgs "vlanQoS")).getD 0
    spoofChk := ifNil (getBoolean net.cniArgs "spoofchk")
    trust := ifNil (getBoolean net.cniArgs "trust")
    minTxRate := ifNil (getInt net.cniArgs "minTxRate")
    maxTxRate := ifNil (getInt net.cniArgs "maxTxRate") }

/-- The `SriovNetwork` that `GetConfig` creates, if the API server lets it. -/
def sriovNetwork (net : MultiNicNetwork) (answer : Created) : Option SriovNetworkSpec :=
  match answer with
  | .created => some (createSriovNetwork net.namespaceName net.cniArgs
      (getResource net.cniArgs (validateResourceName net.name)))
  | _ => none

/-- `GetConfig`: the `plugin` section and the annotations. An object that exists is no error. -/
def getConfig (net : MultiNicNetwork) (answer : Created) :
    Except Created (JsonObject × GoMap String String) :=
  match answer with
  | .failed => .error .failed
  | _ => .ok ((sriovNetConf net).marshal, AList.singleton resourceAnnotation
      (sriovResourcePrefix ++ "/" ++ getResource net.cniArgs (validateResourceName net.name)))

/-! ## `RemoveEmpty` (`plugin.go`) -/

def netConfKeys : List String := ["cniVersion", "type"]

/-- The keys of `netConfKeys` with their values, `null` if need be. -/
def netConfFields (pluginObj : JsonObject) : JsonObject :=
  netConfKeys.foldl
    (fun cleanedObj key => cleanedObj.insert key ((pluginObj.lookup key).getD .null)) ∅

/-- `RemoveEmpty`. -/
def removeEmpty (args : GoMap String String) (pluginObj : JsonObject) : JsonObject :=
  GoMap.copyIf (fun key => decide (key ∈ args)) pluginObj (netConfFields pluginObj)

theorem lookup_netConfFields (pluginObj : JsonObject) (key : String) :
    (netConfFields pluginObj).lookup key =
      if key ∈ netConfKeys then some ((pluginObj.lookup key).getD .null) else none := by
  show (((∅ : JsonObject).insert "cniVersion" ((pluginObj.lookup "cniVersion").getD .null)).insert
    "type" ((pluginObj.lookup "type").getD .null)).lookup key = _
  by_cases htype : key = "type"
  · subst htype
    rw [AList.lookup_insert, if_pos (by decide)]
  rw [AList.lookup_insert_ne htype]
  by_cases hversion : key = "cniVersion"
  · subst hversion
    rw [AList.lookup_insert, if_pos (by decide)]
  rw [AList.lookup_insert_ne hversion, AList.lookup_empty, if_neg]
  simp [netConfKeys, htype, hversion]

/-- **What `RemoveEmpty` leaves**: of a setting what the section has under its key, if that key
is an argument too. -/
theorem lookup_removeEmpty (args : GoMap String String) (pluginObj : JsonObject) (key : String) :
    (removeEmpty args pluginObj).lookup key =
      if key ∈ netConfKeys then some ((pluginObj.lookup key).getD .null)
      else if key ∈ args then pluginObj.lookup key else none := by
  rw [removeEmpty, GoMap.lookup_copyIf, lookup_netConfFields]
  by_cases hkey : key ∈ netConfKeys
  · rw [if_pos hkey, if_pos hkey, ite_eq_right_iff]
    intro _
    cases pluginObj.lookup key with
    | none => rfl
    | some v => rfl
  · rw [if_neg hkey, if_neg hkey, Option.or_none]
    simp only [decide_eq_true_eq]

end MultiNicCni.Plugin
