import MultiNicCni.Cni.Sriov
import MultiNicCni.Plugin.Sriov

/-!
# The SR-IOV settings on their way to the device plugin

A user gives the settings of an SR-IOV network as arguments of the network. They pass through
four representations: the arguments, the `SriovNetwork` object, the `plugin` section that
`RemoveEmpty` leaves, and the configuration that `loadSRIOVConf` hands to the device plugin.

Not every setting arrives (`settings_carried_iff`):

- in the `SriovNetwork` both rates are the maximum rate (`network_carried_iff`);
- the section omits a zero, and `RemoveEmpty` drops the rates, whose keys in the section are not
  the arguments (`plugin_carried_iff`);
- the struct of the CNI binary has a field for `vlan` only (`unmarshal_plugin`,
  `confs_carried_iff`).
-/

namespace MultiNicCni.SriovSettings

open Go Plugin Cni

variable {args : GoMap String String} {v : Json}

/-! ## Settings -/

inductive Setting where
  | vlan
  | vlanQoS
  | spoofchk
  | trust
  | minTxRate
  | maxTxRate
  deriving DecidableEq, Repr

variable {s : Setting}

namespace Setting

/-- The argument of the network. -/
def arg : Setting → String
  | vlan => "vlan"
  | vlanQoS => "vlanQoS"
  | spoofchk => "spoofchk"
  | trust => "trust"
  | minTxRate => "minTxRate"
  | maxTxRate => "maxTxRate"

/-- The key in the section and in the configuration of the device plugin. -/
def key : Setting → String
  | minTxRate => "min_tx_rate"
  | maxTxRate => "max_tx_rate"
  | s => s.arg

/-- The value that the user gave, as `GetConfig` reads it. -/
def given (args : GoMap String String) : Setting → Option Json
  | spoofchk => (ifNil (getBoolean args spoofchk.arg)).map .bool
  | trust => (ifNil (getBoolean args trust.arg)).map .bool
  | s => (ifNil (getInt args s.arg)).map .num

/-- Is the `SriovNetwork` given this setting? -/
def inNetwork : Setting → Bool
  | spoofchk | trust => false
  | _ => true

/-- What the `SriovNetwork` has of a setting. -/
def ofNetwork (spec : SriovNetworkSpec) : Setting → Option Json
  | vlan => some (.num spec.vlan)
  | vlanQoS => some (.num spec.vlanQoS)
  | minTxRate => spec.minTxRate.map .num
  | maxTxRate => spec.maxTxRate.map .num
  | spoofchk | trust => none

end Setting

/-- Each argument that is a setting can be read, and a number is one that JSON keeps. -/
def WellFormed (args : GoMap String String) : Prop :=
  ∀ s : Setting, s.arg ∈ args → ∃ v, s.given args = some v ∧ ∀ n, v = .num n → Json.exact n

/-- Every setting that was given arrives unchanged: in the `SriovNetwork` if one is created, in
the `plugin` section, and in each configuration of the device plugin. -/
structure Carried (args : GoMap String String) (network : Option SriovNetworkSpec)
    (plugin : JsonObject) (confs : List SriovConf) : Prop where
  network : ∀ spec ∈ network, ∀ (s : Setting) v, s.given args = some v → s.inNetwork = true →
    s.ofNetwork spec = some v
  plugin : ∀ (s : Setting) v, s.given args = some v → plugin.lookup s.key = some v
  confs : ∀ conf ∈ confs, ∀ (s : Setting) v, s.given args = some v →
    conf.fields.lookup s.key = some v

/-- Nothing stands in the way of the settings. -/
structure Unhindered (args : GoMap String String) (answer : Created) (deviceIDs : List String) :
    Prop where
  /-- the minimum rate is the maximum one, or zero without a maximum -/
  minTxRate : answer = .created → ∀ v, Setting.minTxRate.given args = some v →
    v = (Setting.maxTxRate.given args).getD (.num 0)
  /-- no VLAN and no priority is zero -/
  nonzero : Setting.vlan.given args ≠ some (.num 0) ∧ Setting.vlanQoS.given args ≠ some (.num 0)
  /-- the key of a rate in the section is an argument too -/
  rates : ∀ s : Setting, s = .minTxRate ∨ s = .maxTxRate → s.given args ≠ none → s.key ∈ args
  /-- if a device is named, no setting but `vlan` is given -/
  confs : (∃ deviceID ∈ deviceIDs, deviceID ≠ "") → ∀ s : Setting, s ≠ .vlan → s.given args = none

/-! ## The `SriovNetwork` -/

theorem ifNil_getInt_none {key : String} (h : key ∉ args) : getInt args key = (0, false) := by
  rw [getInt, AList.lookup_eq_none.mpr h]

/-- What `getInt` leaves in the variable `val`, of a well-formed number or of none. -/
theorem getInt_fst (hwf : WellFormed args) :
    Json.num (getInt args "maxTxRate").1 = (Setting.maxTxRate.given args).getD (.num 0) := by
  by_cases hmem : "maxTxRate" ∈ args
  · obtain ⟨v, hv, -⟩ := hwf .maxTxRate hmem
    obtain ⟨n, hn, rfl⟩ := Option.map_eq_some_iff.mp hv
    rw [hv, Option.getD_some]
    unfold ifNil at hn
    split at hn
    · exact congrArg Json.num (Option.some.inj hn)
    · cases hn
  · have hnone : Setting.maxTxRate.given args = none := by
      show (ifNil (getInt args "maxTxRate")).map Json.num = none
      rw [ifNil_getInt_none hmem]
      rfl
    rw [hnone, ifNil_getInt_none hmem]
    rfl

/-- A number that was given is what `ifNil` has of it. -/
theorem ifNil_of_given {key : String} (h : (ifNil (getInt args key)).map Json.num = some v) :
    v = .num ((ifNil (getInt args key)).getD 0) := by
  obtain ⟨n, hn, rfl⟩ := Option.map_eq_some_iff.mp h
  rw [hn, Option.getD_some]

/-- **The `SriovNetwork`** has every setting it is given but the minimum rate, for which it has
the maximum one. -/
theorem network_carried_iff (hwf : WellFormed args) (namespaceName resourceName : String) :
    (∀ (s : Setting) v, s.given args = some v → s.inNetwork = true →
        s.ofNetwork (createSriovNetwork namespaceName args resourceName) = some v) ↔
      ∀ v, Setting.minTxRate.given args = some v →
        v = (Setting.maxTxRate.given args).getD (.num 0) := by
  -- where a minimum rate is given, the object has `val`
  have hmin : ∀ v, Setting.minTxRate.given args = some v →
      Setting.minTxRate.ofNetwork (createSriovNetwork namespaceName args resourceName) =
        some ((Setting.maxTxRate.given args).getD (.num 0)) := by
    intro v hv
    obtain ⟨n, hn, -⟩ := Option.map_eq_some_iff.mp hv
    have hok : (getInt args "minTxRate").2 = true := by
      unfold ifNil at hn
      split at hn
      · next hok => exact hok
      · cases hn
    show Option.map Json.num (if (getInt args "minTxRate").2 then _ else none) = _
    rw [if_pos hok, ← getInt_fst hwf]
    rfl
  constructor
  · intro h v hv
    exact Option.some.inj ((h .minTxRate v hv rfl).symm.trans (hmin v hv))
  · intro h s v hv hin
    cases s with
    | vlan => exact congrArg some (ifNil_of_given hv).symm
    | vlanQoS => exact congrArg some (ifNil_of_given hv).symm
    | spoofchk => cases hin
    | trust => cases hin
    | minTxRate => rw [hmin v hv, ← h v hv]
    | maxTxRate => exact hv

/-! ## The `plugin` section -/

/-- An argument that was read is there. -/
theorem arg_mem_of_given (h : s.given args = some v) : s.arg ∈ args := by
  by_contra hmem
  have hnone : args.lookup s.arg = none := AList.lookup_eq_none.mpr hmem
  cases s <;> simp [Setting.given, getInt, getBoolean, ifNil, hnone] at h

/-- What `json.Marshal` prints of a setting: zeros are omitted. -/
def printed (args : GoMap String String) : Setting → Option Json
  | .vlan => (Setting.vlan.given args).filter (· ≠ .num 0)
  | .vlanQoS => (Setting.vlanQoS.given args).filter (· ≠ .num 0)
  | s => s.given args

theorem omitEmptyInt_getD (n : Option Int) :
    Json.omitEmptyInt (n.getD 0) = (n.map Json.num).filter (· ≠ .num 0) := by
  cases n with
  | none => rfl
  | some n =>
    by_cases hn : n = 0
    · simp [Json.omitEmptyInt, Option.filter, hn]
    · simp [Json.omitEmptyInt, Option.filter, hn]

theorem lookup_marshal (net : MultiNicNetwork) (s : Setting) :
    (sriovNetConf net).marshal.lookup s.key = printed net.cniArgs s := by
  cases s <;>
    simp [Plugin.SriovNetConf.marshal, Json.lookup_object_cons, Json.lookup_object_nil, Setting.key,
      Setting.arg, printed, sriovNetConf, omitEmptyInt_getD, Setting.given]

theorem lookup_plugin (net : MultiNicNetwork) (s : Setting) :
    (removeEmpty net.cniArgs (sriovNetConf net).marshal).lookup s.key =
      if s.key ∈ net.cniArgs then printed net.cniArgs s else none := by
  have hkey : s.key ∉ netConfKeys := by
    cases s <;> decide
  rw [lookup_removeEmpty, if_neg hkey, lookup_marshal]

/-- A setting that was given is printed unless it is a zero that is omitted. -/
theorem printed_iff (hv : s.given args = some v) :
    printed args s = some v ↔ (s = .vlan ∨ s = .vlanQoS → v ≠ .num 0) := by
  have hfilter : (s.given args).filter (· ≠ Json.num 0) = some v ↔ v ≠ .num 0 := by
    rw [hv, Option.filter_eq_some_iff, decide_eq_true_eq, and_iff_right rfl]
  cases s with
  | vlan => exact hfilter.trans ⟨fun h _ => h, fun h => h (.inl rfl)⟩
  | vlanQoS => exact hfilter.trans ⟨fun h _ => h, fun h => h (.inr rfl)⟩
  | spoofchk | trust | minTxRate | maxTxRate => exact iff_of_true hv (by simp)

/-- But for the rates the key of a setting is its argument. -/
theorem key_eq_arg (h : ¬(s = .minTxRate ∨ s = .maxTxRate)) : s.key = s.arg := by
  cases s with
  | minTxRate => exact absurd (.inl rfl) h
  | maxTxRate => exact absurd (.inr rfl) h
  | vlan | vlanQoS | spoofchk | trust => rfl

/-- **The section** has every setting but the zeros, which are not printed, and the rates, which
`RemoveEmpty` drops unless their keys happen to be arguments. -/
theorem plugin_carried_iff (net : MultiNicNetwork) :
    (∀ (s : Setting) v, s.given net.cniArgs = some v →
        (removeEmpty net.cniArgs (sriovNetConf net).marshal).lookup s.key = some v) ↔
      (Setting.vlan.given net.cniArgs ≠ some (.num 0) ∧
        Setting.vlanQoS.given net.cniArgs ≠ some (.num 0)) ∧
      ∀ s : Setting, s = .minTxRate ∨ s = .maxTxRate → s.given net.cniArgs ≠ none →
        s.key ∈ net.cniArgs := by
  have hiff : ∀ (s : Setting) v, s.given net.cniArgs = some v →
      ((removeEmpty net.cniArgs (sriovNetConf net).marshal).lookup s.key = some v ↔
        s.key ∈ net.cniArgs ∧ (s = .vlan ∨ s = .vlanQoS → v ≠ .num 0)) := by
    intro s v hv
    rw [lookup_plugin]
    split
    · next hmem => rw [and_iff_right hmem, printed_iff hv]
    · next hmem => exact ⟨(nomatch ·), fun h => absurd h.1 hmem⟩
  constructor
  · intro h
    refine ⟨⟨fun hv => ?_, fun hv => ?_⟩, fun s _ hs => ?_⟩
    · exact ((hiff .vlan _ hv).mp (h _ _ hv)).2 (.inl rfl) rfl
    · exact ((hiff .vlanQoS _ hv).mp (h _ _ hv)).2 (.inr rfl) rfl
    · obtain ⟨v, hv⟩ := Option.ne_none_iff_exists'.mp hs
      exact ((hiff s v hv).mp (h s v hv)).1
  · rintro ⟨⟨hvlan, hqos⟩, hrates⟩ s v hv
    refine (hiff s v hv).mpr ⟨?_, ?_⟩
    · by_cases hs : s = .minTxRate ∨ s = .maxTxRate
      · exact hrates s hs (by rw [hv]; exact Option.some_ne_none v)
      · rw [key_eq_arg hs]
        exact arg_mem_of_given hv
    · rintro (rfl | rfl) rfl
      · exact hvlan hv
      · exact hqos hv

/-! ## The configurations of the device plugin -/

/-- The struct of the CNI binary has a field for the VLAN, and for no other setting. -/
theorem lookup_conf (conf : Cni.SriovNetConf) (s : Setting) :
    conf.marshal.lookup s.key = if s = .vlan then some (.num conf.vlan) else none := by
  cases s <;>
    simp [Cni.SriovNetConf.marshal, Json.lookup_object_cons, Json.lookup_object_nil, Setting.key,
      Setting.arg]

/-- A VLAN survives the section, a zero as the default of the struct. -/
theorem decode_vlan (net : MultiNicNetwork) :
    Json.decodeInt ((removeEmpty net.cniArgs (sriovNetConf net).marshal).lookup "vlan") =
      .ok ((ifNil (getInt net.cniArgs "vlan")).getD 0) := by
  have hlookup := lookup_plugin net .vlan
  have hprinted : printed net.cniArgs .vlan =
      Json.omitEmptyInt ((ifNil (getInt net.cniArgs "vlan")).getD 0) := (omitEmptyInt_getD _).symm
  show Json.decodeInt ((removeEmpty net.cniArgs (sriovNetConf net).marshal).lookup
    Setting.vlan.key) = _
  rw [hlookup, hprinted]
  split
  · exact Json.decodeInt_omitEmptyInt _
  · next hmem =>
    have hmem : "vlan" ∉ net.cniArgs := hmem
    rw [ifNil_getInt_none hmem]
    rfl

/-- The keys of the section that are no settings. -/
theorem lookup_marshal_other (conf : Plugin.SriovNetConf) :
    conf.marshal.lookup "cniVersion" = Json.omitEmptyStr conf.cniVersion ∧
      conf.marshal.lookup "type" = Json.omitEmptyStr conf.type ∧
      (∀ key ∈ ["ipam", "dns"], conf.marshal.lookup key = some .empty) ∧
      ∀ key ∈ ["name", "DPDKMode", "Master", "deviceID", "VFID", "HostIFNames", "ContIFNames"],
        conf.marshal.lookup key = none := by
  simp [Plugin.SriovNetConf.marshal, Json.lookup_object_cons, Json.lookup_object_nil]

/-- **The section is always decoded**, into a struct that has nothing of it but the version, the
type and the VLAN. -/
theorem unmarshal_plugin (net : MultiNicNetwork) :
    Cni.SriovNetConf.unmarshal (removeEmpty net.cniArgs (sriovNetConf net).marshal) =
      .ok { cniVersion := net.cniVersion, name := "", type := sriovType, dpdkMode := false
            master := "", vlan := (ifNil (getInt net.cniArgs "vlan")).getD 0, deviceID := ""
            vfid := 0, hostIFNames := "", contIFNames := "" } := by
  obtain ⟨hversion, htype, hempty, hnone⟩ := lookup_marshal_other (sriovNetConf net)
  have hstring : ∀ key ∈ netConfKeys, Json.decodeString
      ((removeEmpty net.cniArgs (sriovNetConf net).marshal).lookup key) =
        Json.decodeString ((sriovNetConf net).marshal.lookup key) := by
    intro key hkey
    rw [lookup_removeEmpty, if_pos hkey, Json.decodeString_getD_null]
  have hstruct : ∀ key ∈ ["ipam", "dns"], Json.decodeEmpty
      ((removeEmpty net.cniArgs (sriovNetConf net).marshal).lookup key) = .ok () := by
    intro key hkey
    have hnot : key ∉ netConfKeys := (by decide : ∀ k ∈ ["ipam", "dns"], k ∉ netConfKeys) key hkey
    rw [lookup_removeEmpty, if_neg hnot, hempty key hkey]
    split <;> rfl
  have hother : ∀ key ∈ ["name", "DPDKMode", "Master", "deviceID", "VFID", "HostIFNames",
      "ContIFNames"], (removeEmpty net.cniArgs (sriovNetConf net).marshal).lookup key = none := by
    intro key hkey
    have hnot : key ∉ netConfKeys := (by decide : ∀ k ∈ ["name", "DPDKMode", "Master", "deviceID",
      "VFID", "HostIFNames", "ContIFNames"], k ∉ netConfKeys) key hkey
    rw [lookup_removeEmpty, if_neg hnot, hnone key hkey, ite_self]
  unfold Cni.SriovNetConf.unmarshal
  rw [hstring "cniVersion" (by decide), hversion, Json.decodeString_omitEmptyStr,
    hstring "type" (by decide), htype, Json.decodeString_omitEmptyStr, hstruct "ipam" (by decide),
    hstruct "dns" (by decide), decode_vlan, hother "name" (by decide),
    hother "DPDKMode" (by decide), hother "Master" (by decide), hother "deviceID" (by decide),
    hother "VFID" (by decide), hother "HostIFNames" (by decide), hother "ContIFNames" (by decide)]
  rfl

section Handed

variable {net : MultiNicNetwork} {order : GoMap.RangeOrder String (List Route)} {ifName : String}
  {n : SRIOVNetConfig} {ipConfigs : List IPConfig} {confs : List SriovConf}
  {routes : Option MultiPathRoutes}
  (hplugin : n.plugin = removeEmpty net.cniArgs (sriovNetConf net).marshal)
  (hload : loadSRIOVConf order ifName n ipConfigs = some (.ok (confs, routes)))

include hplugin hload

theorem lookup_handed {conf : SriovConf} (hconf : conf ∈ confs) (s : Setting) :
    conf.fields.lookup s.key =
      if s = .vlan then some (.num ((ifNil (getInt net.cniArgs "vlan")).getD 0)) else none := by
  obtain ⟨mainPlugin, hmain, hconfs, -⟩ := loadSRIOVConf_confs hload
  obtain ⟨i, deviceID, hfields⟩ := hconfs conf hconf
  rw [hplugin, unmarshal_plugin] at hmain
  rw [hfields, lookup_conf, ← Except.ok.inj hmain]
  rfl

/-- **The configurations** have the VLAN and no other setting. -/
theorem confs_carried_iff :
    (∀ conf ∈ confs, ∀ (s : Setting) v, s.given net.cniArgs = some v →
        conf.fields.lookup s.key = some v) ↔
      ((∃ deviceID ∈ n.deviceIDs, deviceID ≠ "") →
        ∀ s : Setting, s ≠ .vlan → s.given net.cniArgs = none) := by
  obtain ⟨-, -, -, hnil⟩ := loadSRIOVConf_confs hload
  constructor
  · rintro h ⟨deviceID, hmem, hne⟩ s hs
    -- there is a configuration, and it lacks the setting
    have hconfs : confs ≠ [] := fun hconfs => hne (hnil.mp hconfs deviceID hmem)
    obtain ⟨conf, hconf⟩ := List.exists_mem_of_ne_nil confs hconfs
    by_contra hgiven
    obtain ⟨v, hv⟩ := Option.ne_none_iff_exists'.mp hgiven
    have hlookup := h conf hconf s v hv
    rw [lookup_handed hplugin hload hconf, if_neg hs] at hlookup
    cases hlookup
  · intro h conf hconf s v hv
    have hdevice : ∃ deviceID ∈ n.deviceIDs, deviceID ≠ "" := by
      by_contra hnone
      have hall : ∀ deviceID ∈ n.deviceIDs, deviceID = "" := by
        intro deviceID hmem
        by_contra hne
        exact hnone ⟨deviceID, hmem, hne⟩
      rw [hnil.mpr hall] at hconf
      exact List.not_mem_nil hconf
    by_cases hs : s = .vlan
    · subst hs
      rw [lookup_handed hplugin hload hconf, if_pos rfl]
      exact congrArg some (ifNil_of_given hv).symm
    · rw [h hdevice s hs] at hv
      cases hv

end Handed

/-! ## All the way -/

theorem getConfig_eq_ok {net : MultiNicNetwork} {answer : Created} {pluginObj : JsonObject}
    {annotations : GoMap String String}
    (h : getConfig net answer = .ok (pluginObj, annotations)) :
    pluginObj = (sriovNetConf net).marshal := by
  cases answer with
  | created | alreadyExists =>
    cases h
    rfl
  | failed => cases h

theorem sriovNetwork_iff {net : MultiNicNetwork} (hwf : WellFormed net.cniArgs) (answer : Created) :
    (∀ spec ∈ sriovNetwork net answer, ∀ (s : Setting) v, s.given net.cniArgs = some v →
        s.inNetwork = true → s.ofNetwork spec = some v) ↔
      (answer = .created → ∀ v, Setting.minTxRate.given net.cniArgs = some v →
        v = (Setting.maxTxRate.given net.cniArgs).getD (.num 0)) := by
  cases answer with
  | created =>
    rw [← network_carried_iff hwf net.namespaceName
      (getResource net.cniArgs (validateResourceName net.name))]
    exact ⟨fun h _ => h _ rfl, fun h spec hspec => by cases hspec; exact h rfl⟩
  | alreadyExists | failed => exact ⟨fun _ => (nomatch ·), fun _ spec => (nomatch ·)⟩

/-- **The settings of an SR-IOV network arrive** in its `SriovNetwork`, in the `plugin` section
and at the device plugin, each with the value that was given, if and only if none of the
obstacles of `Unhindered` is in their way. -/
theorem settings_carried_iff {net : MultiNicNetwork} {answer : Created} {pluginObj : JsonObject}
    {annotations : GoMap String String} {order : GoMap.RangeOrder String (List Route)}
    {ifName : String} {n : SRIOVNetConfig} {ipConfigs : List IPConfig} {confs : List SriovConf}
    {routes : Option MultiPathRoutes} (hwf : WellFormed net.cniArgs)
    (hconfig : getConfig net answer = .ok (pluginObj, annotations))
    (hplugin : n.plugin = removeEmpty net.cniArgs pluginObj)
    (hload : loadSRIOVConf order ifName n ipConfigs = some (.ok (confs, routes))) :
    Carried net.cniArgs (sriovNetwork net answer) n.plugin confs ↔
      Unhindered net.cniArgs answer n.deviceIDs := by
  rw [getConfig_eq_ok hconfig] at hplugin
  have hnetwork := sriovNetwork_iff hwf answer
  have hsection := plugin_carried_iff net
  have hconfs := confs_carried_iff hplugin hload
  rw [← hplugin] at hsection
  constructor
  · intro h
    obtain ⟨hnonzero, hrates⟩ := hsection.mp h.plugin
    exact ⟨hnetwork.mp h.network, hnonzero, hrates, hconfs.mp h.confs⟩
  · intro h
    exact ⟨hnetwork.mpr h.minTxRate, hsection.mpr ⟨h.nonzero, h.rates⟩, hconfs.mpr h.confs⟩

/-- A network with these arguments. -/
def netOf (cniArgs : GoMap String String) : MultiNicNetwork where
  name := "net"
  namespaceName := "default"
  cniVersion := "0.3.0"
  cniArgs := cniArgs

/-- What the CNI binary gets for the network, with one device. -/
def oneDevice (cniArgs : GoMap String String) : SRIOVNetConfig where
  cniVersion := "0.3.0"
  plugin := removeEmpty cniArgs (sriovNetConf (netOf cniArgs)).marshal
  deviceIDs := ["0000:05:00.1"]
  isMultiNICIPAM := true
  ipam := { type := "multi-nic-ipam", routes := none, fields := [], ipamType := "", args := none }

/-- The configurations for the one device. -/
def oneDeviceConfs (cniArgs : GoMap String String) :
    Option (Except Json.DecodeError (List SriovConf × Option MultiPathRoutes)) :=
  loadSRIOVConf .listed "net1" (oneDevice cniArgs) []

def vlanArgs : GoMap String String := AList.singleton "vlan" "100"

/-- Rates, and no spoof checking. -/
def rateArgs : GoMap String String :=
  ((AList.singleton "spoofchk" "false").insert "maxTxRate" "1000").insert "minTxRate" "100"

theorem wellFormed_vlanArgs : WellFormed vlanArgs := by
  intro s hs
  cases s with
  | vlan => exact ⟨.num 100, by decide +kernel, fun n hn => by cases hn; decide⟩
  | vlanQoS | spoofchk | trust | minTxRate | maxTxRate => exact absurd hs (by decide)

theorem wellFormed_rateArgs : WellFormed rateArgs := by
  intro s hs
  cases s with
  | minTxRate => exact ⟨.num 100, by decide +kernel, fun n hn => by cases hn; decide⟩
  | maxTxRate => exact ⟨.num 1000, by decide +kernel, fun n hn => by cases hn; decide⟩
  | spoofchk => exact ⟨.bool false, by decide +kernel, fun n hn => nomatch hn⟩
  | vlan | vlanQoS | trust => exact absurd hs (by decide)

theorem given_vlanArgs (hs : s ≠ .vlan) : s.given vlanArgs = none := by
  cases s with
  | vlan => exact absurd rfl hs
  | vlanQoS | spoofchk | trust | minTxRate | maxTxRate => decide +kernel

/-- A VLAN arrives. -/
theorem settings_carried_vlan : ∃ confs routes,
    oneDeviceConfs vlanArgs = some (.ok (confs, routes)) ∧ confs.length = 1 ∧
      Carried vlanArgs (sriovNetwork (netOf vlanArgs) .created) (oneDevice vlanArgs).plugin
        confs := by
  have hload : (oneDeviceConfs vlanArgs).map (fun r => r.toOption.map (·.1.length)) =
      some (some 1) := by decide +kernel
  obtain ⟨r, hr, hlength⟩ := Option.map_eq_some_iff.mp hload
  cases r with
  | error e => cases hlength
  | ok r =>
    have hconfig : getConfig (netOf vlanArgs) .created =
        .ok ((sriovNetConf (netOf vlanArgs)).marshal, _) := rfl
    have hplugin : (oneDevice vlanArgs).plugin =
        removeEmpty (netOf vlanArgs).cniArgs (sriovNetConf (netOf vlanArgs)).marshal := rfl
    refine ⟨r.1, r.2, hr, Option.some.inj hlength,
      (settings_carried_iff wellFormed_vlanArgs hconfig hplugin hr).mpr ?_⟩
    have hmin : Setting.minTxRate.given vlanArgs = none := given_vlanArgs (by decide)
    refine ⟨fun _ v hv => ?_, by decide +kernel, ?_, fun _ s hs => given_vlanArgs hs⟩
    · exact nomatch hmin.symm.trans hv
    · rintro s (rfl | rfl) hgiven
      · exact absurd (given_vlanArgs (by decide)) hgiven
      · exact absurd (given_vlanArgs (by decide)) hgiven

/-- **Settings are replaced and dropped.** With both rates given the `SriovNetwork` has the
maximum one twice and the section has none; the spoof checking that the user switched off is
not in the configuration of the device plugin. -/
theorem settings_dropped : WellFormed rateArgs ∧
    (sriovNetwork (netOf rateArgs) .created).map (fun spec => (spec.minTxRate, spec.maxTxRate)) =
      some (some 1000, some 1000) ∧
    (oneDevice rateArgs).plugin.lookup "min_tx_rate" = none ∧
    (oneDevice rateArgs).plugin.lookup "max_tx_rate" = none ∧
    ∃ confs routes, oneDeviceConfs rateArgs = some (.ok (confs, routes)) ∧
      confs.map (·.fields.lookup "spoofchk") = [none] ∧
      ¬Carried rateArgs (sriovNetwork (netOf rateArgs) .created) (oneDevice rateArgs).plugin
        confs := by
  have hload : (oneDeviceConfs rateArgs).map (fun r => r.toOption.map fun p =>
      p.1.map (·.fields.lookup "spoofchk")) = some (some [none]) := by decide +kernel
  have hnone : (oneDevice rateArgs).plugin.lookup "min_tx_rate" = none := by decide +kernel
  have hgiven : Setting.minTxRate.given rateArgs = some (.num 100) := by decide +kernel
  obtain ⟨r, hr, hconfs⟩ := Option.map_eq_some_iff.mp hload
  cases r with
  | error e => cases hconfs
  | ok r =>
    refine ⟨wellFormed_rateArgs, by decide +kernel, hnone, by decide +kernel, r.1, r.2, hr,
      Option.some.inj hconfs, fun hcarried => ?_⟩
    exact nomatch hnone.symm.trans (hcarried.plugin .minTxRate _ hgiven)

end MultiNicCni.SriovSettings
