import MultiNicCni.Cni.Loader
import MultiNicCni.Go.Json

/-!
# The configurations of SR-IOV devices (`cni/plugins/main/multi-nic/sriov.go`)

For a network of type `sriov` the main plugin calls the device plugin once for every device that
the daemon selected. Its configuration is a copy of the `plugin` section as the struct
`SriovNetConf` holds it: a key without a field is lost.

Go's decoder also takes a key that differs from the name of a field by case only; the sections
that the controller prints have no such key.

- `copySRIOVconfig_eq`: the copy is the original;
- `loadSRIOVConf_confs`: **every configuration handed on** is the section as the struct holds
  it, with a version, a name and a device of its own.
-/

namespace MultiNicCni.Cni

open Go

variable {deviceIDs : List String} {multiPathRoutes routes : Option MultiPathRoutes}

/-- `SriovNetConf` of the CNI binary. -/
structure SriovNetConf where
  cniVersion : String
  name : String
  type : String
  dpdkMode : Bool
  master : String
  vlan : Int
  deviceID : String
  vfid : Int
  hostIFNames : String
  contIFNames : String
  deriving DecidableEq, Repr

variable {mainPlugin : SriovNetConf}

/-- `json.Marshal`, with the embedded `types.NetConf`. -/
def SriovNetConf.marshal (conf : SriovNetConf) : JsonObject :=
  Json.object
    [("cniVersion", Json.omitEmptyStr conf.cniVersion), ("name", Json.omitEmptyStr conf.name),
      ("type", Json.omitEmptyStr conf.type), ("ipam", some .empty), ("dns", some .empty),
      ("DPDKMode", some (.bool conf.dpdkMode)), ("Master", some (.str conf.master)),
      ("vlan", some (.num conf.vlan)), ("deviceID", some (.str conf.deviceID)),
      ("VFID", some (.num conf.vfid)), ("HostIFNames", some (.str conf.hostIFNames)),
      ("ContIFNames", some (.str conf.contIFNames))]

/-- `json.Unmarshal`. -/
def SriovNetConf.unmarshal (obj : JsonObject) : Except Json.DecodeError SriovNetConf := do
  let cniVersion ← Json.decodeString (obj.lookup "cniVersion")
  let name ← Json.decodeString (obj.lookup "name")
  let type ← Json.decodeString (obj.lookup "type")
  Json.decodeEmpty (obj.lookup "ipam")
  Json.decodeEmpty (obj.lookup "dns")
  let dpdkMode ← Json.decodeBool (obj.lookup "DPDKMode")
  let master ← Json.decodeString (obj.lookup "Master")
  let vlan ← Json.decodeInt (obj.lookup "vlan")
  let deviceID ← Json.decodeString (obj.lookup "deviceID")
  let vfid ← Json.decodeInt (obj.lookup "VFID")
  let hostIFNames ← Json.decodeString (obj.lookup "HostIFNames")
  let contIFNames ← Json.decodeString (obj.lookup "ContIFNames")
  .ok ⟨cniVersion, name, type, dpdkMode, master, vlan, deviceID, vfid, hostIFNames, contIFNames⟩

/-- `copySRIOVconfig`. -/
def copySRIOVconfig (original : SriovNetConf) : Except Json.DecodeError SriovNetConf :=
  SriovNetConf.unmarshal original.marshal

/-- Decoding what was printed gives it back. -/
theorem copySRIOVconfig_eq (original : SriovNetConf) : copySRIOVconfig original = .ok original := by
  simp only [copySRIOVconfig, SriovNetConf.unmarshal, SriovNetConf.marshal,
    Json.lookup_object_cons, Json.lookup_object_nil, String.reduceEq, if_true, if_false,
    Option.or_none, Json.decodeString_omitEmptyStr]
  rfl

/-- `SRIOVNetConfig` and the `NetConf` that was loaded from the same text. -/
structure SRIOVNetConfig where
  cniVersion : String
  /-- the `plugin` section -/
  plugin : JsonObject
  deviceIDs : List String
  isMultiNICIPAM : Bool
  ipam : IpamSection

/-- A configuration handed to the device plugin: the fields as they are printed, and what stands
for their empty `ipam`. -/
structure SriovConf where
  fields : JsonObject
  ipam : NicIpam

variable {confs : List SriovConf}

/-- A printed configuration, to have its empty `ipam` replaced. -/
def SriovNetConf.nicConf (conf : SriovNetConf) : NicConf :=
  { cniVersion := conf.cniVersion, name := conf.name, type := conf.type, master := conf.master
    mode := "", mtu := 0, ipam := .ofType "", primaryIP := "", podIP := "" }

section Load

variable (order : GoMap.RangeOrder String (List Route)) (ifName : String) (n : SRIOVNetConfig)
  (ipConfigs : List IPConfig)

/-- The copy for the device at `index`. -/
def deviceConfig (singleConfig : SriovNetConf) (index : Nat) (deviceID : String) : SriovNetConf :=
  { singleConfig with
    cniVersion := if singleConfig.cniVersion = "" then n.cniVersion else singleConfig.cniVersion
    name := ifName ++ "-" ++ String.ofList (Nat.toDigits 10 index)
    deviceID }

/-- The `ipam` section of the device at `index`. -/
def injectIPAM (conf : NicConf) (index : Nat) : Option (NicConf × Option MultiPathRoutes) :=
  if n.isMultiNICIPAM then injectMultiNicIPAM order conf n.ipam ipConfigs index
  else injectSingleNicIPAM order conf n.ipam

/-- The loop of `loadSRIOVConf` over the devices from position `index` on. -/
def loadDevices (mainPlugin : SriovNetConf) : Nat → List String → Option MultiPathRoutes →
    Option (Except Json.DecodeError (List SriovConf × Option MultiPathRoutes))
  | _, [], multiPathRoutes => some (.ok ([], multiPathRoutes))
  | index, deviceID :: deviceIDs, multiPathRoutes =>
    if deviceID = "" then loadDevices mainPlugin (index + 1) deviceIDs multiPathRoutes
    else
      match copySRIOVconfig mainPlugin with
      | .error e => some (.error e)
      | .ok singleConfig => do
        let singleConfig := deviceConfig ifName n singleConfig index deviceID
        let (nic, multiPathRoutes) ← injectIPAM order n ipConfigs singleConfig.nicConf index
        let rest ← loadDevices mainPlugin (index + 1) deviceIDs multiPathRoutes
        some (rest.map fun (confs, multiPathRoutes) =>
          (⟨singleConfig.marshal, nic.ipam⟩ :: confs, multiPathRoutes))

/-- `loadSRIOVConf`. -/
def loadSRIOVConf :
    Option (Except Json.DecodeError (List SriovConf × Option MultiPathRoutes)) :=
  match SriovNetConf.unmarshal n.plugin with
  | .error e => some (.error e)
  | .ok mainPlugin => loadDevices order ifName n ipConfigs mainPlugin 0 n.deviceIDs none

variable {order ifName n ipConfigs}

/-- A step of the loop that names a device hands on a configuration of it. -/
theorem loadDevices_cons {index : Nat} {deviceID : String} (hid : deviceID ≠ "")
    (h : loadDevices order ifName n ipConfigs mainPlugin index (deviceID :: deviceIDs)
      multiPathRoutes = some (.ok (confs, routes))) :
    ∃ ipam multiPathRoutes' rest, confs =
        ⟨(deviceConfig ifName n mainPlugin index deviceID).marshal, ipam⟩ :: rest ∧
      loadDevices order ifName n ipConfigs mainPlugin (index + 1) deviceIDs multiPathRoutes' =
        some (.ok (rest, routes)) := by
  rw [loadDevices, if_neg hid, copySRIOVconfig_eq] at h
  obtain ⟨⟨nic, multiPathRoutes'⟩, -, h⟩ := Option.bind_eq_some_iff.mp h
  obtain ⟨rest, hrest, h⟩ := Option.bind_eq_some_iff.mp h
  cases rest with
  | error e => cases h
  | ok rest =>
    cases h
    exact ⟨nic.ipam, multiPathRoutes', rest.1, rfl, hrest⟩

/-- The configurations are copies of the section, one for each device that is named. -/
theorem loadDevices_confs {index : Nat}
    (h : loadDevices order ifName n ipConfigs mainPlugin index deviceIDs multiPathRoutes =
      some (.ok (confs, routes))) :
    (∀ conf ∈ confs, ∃ i deviceID,
        conf.fields = (deviceConfig ifName n mainPlugin i deviceID).marshal) ∧
      (confs = [] ↔ ∀ deviceID ∈ deviceIDs, deviceID = "") := by
  induction deviceIDs generalizing index multiPathRoutes confs with
  | nil =>
    cases h
    exact ⟨List.forall_mem_nil _, fun _ => List.forall_mem_nil _, fun _ => rfl⟩
  | cons deviceID deviceIDs ih =>
    by_cases hid : deviceID = ""
    · -- the device is skipped
      rw [loadDevices, if_pos hid] at h
      obtain ⟨hconfs, hnil⟩ := ih h
      refine ⟨hconfs, hnil.trans ?_⟩
      rw [List.forall_mem_cons, and_iff_right hid]
    · obtain ⟨ipam, _, rest, rfl, hrest⟩ := loadDevices_cons hid h
      refine ⟨List.forall_mem_cons.mpr ⟨⟨index, deviceID, rfl⟩, (ih hrest).1⟩, ?_⟩
      exact ⟨(nomatch ·), fun hall => absurd (hall deviceID List.mem_cons_self) hid⟩

/-- **Every configuration handed on** is the section as the struct holds it, with a version, a
name and a device of its own; there is none iff no device is named. -/
theorem loadSRIOVConf_confs
    (h : loadSRIOVConf order ifName n ipConfigs = some (.ok (confs, routes))) :
    ∃ mainPlugin, SriovNetConf.unmarshal n.plugin = .ok mainPlugin ∧
      (∀ conf ∈ confs, ∃ i deviceID,
        conf.fields = (deviceConfig ifName n mainPlugin i deviceID).marshal) ∧
      (confs = [] ↔ ∀ deviceID ∈ n.deviceIDs, deviceID = "") := by
  unfold loadSRIOVConf at h
  split at h
  · cases h
  · next mainPlugin hplugin => exact ⟨mainPlugin, hplugin, loadDevices_confs h⟩

end Load

end MultiNicCni.Cni
