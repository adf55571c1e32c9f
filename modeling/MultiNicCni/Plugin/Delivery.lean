import MultiNicCni.Plugin.NetAttachDef

/-!
# What becomes of the definitions of a network

The caller of `CreateOrUpdate` marks the network as configured if it gets `nil`. It relies on two
things:

- every target namespace then has a definition with the generated config and the annotations of
  the network (`Delivered`). The metadata of a stored definition are copied over the generated
  ones before the two are compared, so an annotation that is new, or has a new value, stays out
  (`createOrUpdate_delivered_iff`);
- a failure is reported, and a message names the namespaces that failed (`Reports`). The message
  is logged and `nil` is returned all the same, and a failed owner reference replaces the message
  so far (`createOrUpdate_reports_iff`). `CreateOrUpdateOnNamespace` returns its message
  (`createOrUpdateOnNamespace_returned_iff`).
-/

namespace MultiNicCni.Plugin.NetAttachDef

open Go

variable {namespaces : List String} {config : String}

/-! ## A request -/

section Network

variable (json : Json) (vars : Vars) (net : MultiNicNetwork) (pluginStr : String)
  (annotations : GoMap String String) (listed : Except String (List (String × NamespacePhase)))

/-- The namespaces the network is for. -/
def targets : List String := (getNamespace net listed).toOption.getD []

variable {json vars net pluginStr annotations listed}

theorem generate_ok (hns : getNamespace net listed = .ok namespaces)
    (hconfig : configStr json vars net pluginStr = .ok config) :
    generate json vars net pluginStr annotations listed =
      .ok (namespaces.map (defOf net annotations config)) := by
  have hdef : (fun ns => netToDef json vars ns net pluginStr annotations) =
      fun ns => .ok (defOf net annotations config ns) := by
    funext ns
    rw [netToDef, hconfig]
    rfl
  rw [generate, hns]
  show (namespaces.mapM fun ns => netToDef json vars ns net pluginStr annotations) = _
  rw [hdef]
  exact List.mapM_pure

theorem generate_error {err : String} (hns : getNamespace net listed = .ok namespaces)
    (hconfig : configStr json vars net pluginStr = .error err) :
    generate json vars net pluginStr annotations listed =
      if namespaces = [] then .ok [] else .error err := by
  rw [generate, hns]
  show (namespaces.mapM fun ns => netToDef json vars ns net pluginStr annotations) = _
  cases namespaces with
  | nil => rfl
  | cons ns namespaces =>
    rw [List.mapM_cons, netToDef, hconfig]
    rfl

theorem getNamespace_of_generate {defs : List NetworkAttachmentDefinition}
    (h : generate json vars net pluginStr annotations listed = .ok defs) :
    ∃ namespaces, getNamespace net listed = .ok namespaces := by
  cases hns : getNamespace net listed with
  | error err =>
    rw [generate, hns] at h
    cases h
  | ok namespaces => exact ⟨namespaces, rfl⟩

theorem createOrUpdate_of_config (hns : getNamespace net listed = .ok namespaces)
    (hconfig : configStr json vars net pluginStr = .ok config) (faults : Nat → Faults)
    (store : Store) : let run := settleAll net faults store annotations config namespaces
    createOrUpdate json vars net pluginStr annotations listed faults store =
      ⟨none, if run.errMsg ≠ "" then some run.errMsg else none, run.store, run.outcomes⟩ := by
  unfold createOrUpdate
  rw [generate_ok hns hconfig]
  rfl

/-- `CreateOrUpdateOnNamespace` returns `nil` iff the definition is settled. -/
theorem createOrUpdateOnNamespace_returned_iff {ns : String} {faults : Faults} {store : Store} :
    (createOrUpdateOnNamespace json vars ns net pluginStr annotations faults store).returned =
        none ↔
      ∃ config, configStr json vars net pluginStr = .ok config ∧
        ¬ StepFails faults config (store.lookup (ns, net.name)) := by
  cases hconfig : configStr json vars net pluginStr with
  | error err =>
    unfold createOrUpdateOnNamespace netToDef
    rw [hconfig]
    exact ⟨nofun, fun ⟨_, heq, _⟩ => nomatch heq⟩
  | ok config =>
    have hfails := @outcome_ne_failed_iff net faults (defOf net annotations config ns) "" store
    rw [← errMsg_createOrUpdateDef_eq_empty_iff] at hfails
    unfold createOrUpdateOnNamespace netToDef
    rw [hconfig]
    show (if (createOrUpdateDef net faults (defOf net annotations config ns) "" store).errMsg ≠ ""
      then some _ else none) = none ↔ _
    rw [ite_eq_right_iff]
    constructor
    · intro hempty
      exact ⟨config, rfl, hfails.mp (not_not.mp fun hne => nomatch hempty hne)⟩
    · rintro ⟨_, ⟨⟩, hok⟩ hne
      exact absurd (hfails.mpr hok) hne

/-- Without failures the definitions of the namespaces are settled. -/
theorem lookup_createOrUpdate (hns : getNamespace net listed = .ok namespaces)
    (hconfig : configStr json vars net pluginStr = .ok config) (store : Store) {ns : String}
    (hmem : ns ∈ namespaces) :
    (createOrUpdate json vars net pluginStr annotations listed (fun _ => .none) store).store.lookup
        (ns, net.name) =
      some (settled net (defOf net annotations config ns) (store.lookup (ns, net.name))) := by
  have hdone := (allDone_settleAll_iff net (fun _ => .none) store annotations config
    namespaces).mpr (callsSucceed_none net store config namespaces)
  rw [createOrUpdate_of_config hns hconfig]
  exact (lookup_settleAll net (fun _ => .none) store annotations config namespaces hdone
    ns).trans (if_pos hmem)

/-! ## What is stored -/

/-- A definition has all the given annotations. -/
def Carries (annotations : GoMap String String) (stored : NetworkAttachmentDefinition) : Prop :=
  ∀ key value, annotations.lookup key = some value →
    stored.metadata.annotations.lookup key = some value

/-- Every target namespace has a definition with the generated config and the annotations. -/
def Delivered (json : Json) (vars : Vars) (net : MultiNicNetwork) (pluginStr : String)
    (annotations : GoMap String String) (namespaces : List String) (store : Store) : Prop :=
  ∀ ns ∈ namespaces, ∀ definition,
    netToDef json vars ns net pluginStr annotations = .ok definition →
    ∃ stored, store.lookup (ns, net.name) = some stored ∧ stored.config = definition.config ∧
      Carries annotations stored

theorem delivered_settled_iff (hconfig : configStr json vars net pluginStr = .ok config)
    {store store' : Store} (hstore : ∀ ns ∈ namespaces, store'.lookup (ns, net.name) =
      some (settled net (defOf net annotations config ns) (store.lookup (ns, net.name)))) :
    Delivered json vars net pluginStr annotations namespaces store' ↔
      ∀ ns ∈ namespaces, ∀ stored, store.lookup (ns, net.name) = some stored →
        Carries annotations stored := by
  have hdef : ∀ ns, netToDef json vars ns net pluginStr annotations =
      .ok (defOf net annotations config ns) := by
    intro ns
    rw [netToDef, hconfig]
    rfl
  constructor
  · intro hdel ns hns stored hstored
    obtain ⟨_, hlookup, -, hcarries⟩ := hdel ns hns _ (hdef ns)
    rw [hstore ns hns, hstored] at hlookup
    cases hlookup
    exact hcarries
  · intro hall ns hns definition hgen
    cases (hdef ns).symm.trans hgen
    refine ⟨_, hstore ns hns, config_settled _, ?_⟩
    cases hstored : store.lookup (ns, net.name) with
    | none => exact fun key value h => h
    | some stored => exact hall ns hns stored hstored

end Network

/-- **The definitions get their annotations exactly where those stored before have them
already** (or where there is no config to generate). -/
theorem createOrUpdate_delivered_iff (json : Json) (vars : Vars) (net : MultiNicNetwork)
    (pluginStr : String) (annotations : GoMap String String)
    (listed : Except String (List (String × NamespacePhase))) (store : Store) :
    Delivered json vars net pluginStr annotations (targets net listed)
        (createOrUpdate json vars net pluginStr annotations listed (fun _ => .none) store).store ↔
      (∃ err, configStr json vars net pluginStr = .error err) ∨
        ∀ ns ∈ targets net listed, ∀ stored, store.lookup (ns, net.name) = some stored →
          Carries annotations stored := by
  cases hconfig : configStr json vars net pluginStr with
  | error err =>
    refine ⟨fun _ => .inl ⟨err, rfl⟩, fun _ ns _ definition hgen => ?_⟩
    rw [netToDef, hconfig] at hgen
    cases hgen
  | ok config =>
    rw [or_iff_right (fun ⟨_, heq⟩ => nomatch heq)]
    refine delivered_settled_iff hconfig fun ns hmem => ?_
    cases hns : getNamespace net listed with
    | error err =>
      rw [targets, hns] at hmem
      cases hmem
    | ok namespaces =>
      rw [targets, hns] at hmem
      exact lookup_createOrUpdate hns hconfig store hmem

/-- `encoding/json` for texts without a character to escape, and for IPAM that is printed as it
is. -/
def plainJson : Json where
  marshal c :=
    "\x7b\"cniVersion\":\"" ++ c.cniVersion ++ "\",\"name\":\"" ++ c.name ++ "\",\"type\":\"" ++
      c.type ++ "\",\"ipam\":\x7b\x7d,\"dns\":\x7b\x7d,\"plugin\":null,\"subnet\":\"" ++ c.subnet ++
      "\",\"masterNets\":[" ++ ",".intercalate (c.masterNetAddrs.map fun a => "\"" ++ a ++ "\"") ++
      "]" ++ (if c.isMultiNICIPAM then ",\"multiNICIPAM\":true" else "") ++
      ",\"daemonIP\":\"\",\"daemonPort\":" ++ String.ofList (formatInt 10 c.daemonPort) ++ "\x7d"
  remarshal := .ok

def sampleVars : Vars := ⟨"multi-nic", 11000⟩

/-- A network for some namespaces. -/
def sampleNet (namespaces : List String) : MultiNicNetwork :=
  ⟨"net", "uid", namespaces, "192.168.0.0/16", ["10.0.0.0/16"], true,
    "\x7b\"type\":\"multi-nic-ipam\"\x7d"⟩

/-- The annotation with the name of a resource. -/
def resource (name : String) : GoMap String String :=
  (∅ : GoMap String String).insert "k8s.v1.cni.cncf.io/resourceName" name

/-- A `plugin` section. -/
def sriovPlugin : String := "\x7b\"type\":\"sriov\"\x7d"

/-- The cluster after the network was configured with another resource. -/
def configured : Store :=
  let net := sampleNet ["default"]
  let config := (configStr plainJson sampleVars net sriovPlugin).toOption.getD ""
  (∅ : Store).insert ("default", "net")
    (withOwner net (defOf net (resource "old.io/vf") config "default"))

/-- The name of the resource was changed, and the stored definition keeps the old one. -/
theorem createOrUpdate_not_delivered :
    ¬ Delivered plainJson sampleVars (sampleNet ["default"]) sriovPlugin (resource "new.io/vf")
      ["default"]
      (createOrUpdate plainJson sampleVars (sampleNet ["default"]) sriovPlugin
        (resource "new.io/vf") (.ok []) (fun _ => .none) configured).store := by
  intro hdel
  obtain ⟨stored, hlookup, -, hcarries⟩ := hdel "default" (List.mem_singleton_self _) _ rfl
  have hsettled := @lookup_createOrUpdate ["default"] _ plainJson sampleVars
    (sampleNet ["default"]) sriovPlugin (resource "new.io/vf") (.ok []) rfl rfl configured "default"
    (List.mem_singleton_self _)
  have hkept := hcarries "k8s.v1.cni.cncf.io/resourceName" "new.io/vf" (by decide)
  rw [← Option.some.inj (hsettled.symm.trans hlookup)] at hkept
  exact absurd hkept (by decide)

/-! ## What is reported -/

/-- What the caller can rely on: `nil` means that every target namespace has its definition, and
a message names every namespace that failed. -/
structure Reports (namespaces : List String) (result : Result) : Prop where
  done : result.returned = none → ∀ (i : Nat) ns, namespaces[i]? = some ns →
    ∃ outcome : Outcome, result.outcomes[i]? = some (ns, outcome) ∧ outcome ≠ .failed
  named : ∀ message, result.returned.or result.logged = some message →
    ∀ ns, (ns, Outcome.failed) ∈ result.outcomes → contains message ns = true

theorem outcomes_settleAll (net : MultiNicNetwork) (faults : Nat → Faults) (store : Store)
    (annotations : GoMap String String) (config : String) (namespaces : List String) :
    (settleAll net faults store annotations config namespaces).outcomes.map Prod.fst =
      namespaces := by
  rw [settleAll, outcomes_namespaces, List.map_map]
  exact List.map_id namespaces

theorem reports_settleAll_iff (net : MultiNicNetwork) (faults : Nat → Faults) (store : Store)
    (annotations : GoMap String String) (config : String) (namespaces : List String)
    (logged : Option String) :
    let run := settleAll net faults store annotations config namespaces
    Reports namespaces ⟨none, logged, run.store, run.outcomes⟩ ↔
      CallsSucceed net faults store config namespaces := by
  intro run
  have hfst : run.outcomes.map Prod.fst = namespaces := outcomes_settleAll ..
  rw [← allDone_settleAll_iff net faults store annotations]
  constructor
  · intro hreports o ho
    obtain ⟨i, hi⟩ := List.mem_iff_getElem?.mp ho
    have hns : namespaces[i]? = some o.1 := by
      rw [← hfst, List.getElem?_map, hi]
      rfl
    obtain ⟨outcome, hat, hdone⟩ := hreports.done rfl i o.1 hns
    rw [Option.some.inj (hi.symm.trans hat)]
    exact hdone
  · intro hdone
    constructor
    · intro _ i ns hns
      rw [← hfst, List.getElem?_map] at hns
      obtain ⟨o, ho, rfl⟩ := Option.map_eq_some_iff.mp hns
      exact ⟨o.2, ho, hdone o (List.mem_of_getElem? ho)⟩
    · intro _ _ ns hfailed
      exact absurd rfl (hdone _ hfailed)

/-- **`CreateOrUpdate` reports what happened exactly where nothing goes wrong after the
generation.** -/
theorem createOrUpdate_reports_iff (json : Json) (vars : Vars) (net : MultiNicNetwork)
    (pluginStr : String) (annotations : GoMap String String)
    (listed : Except String (List (String × NamespacePhase))) (faults : Nat → Faults)
    (store : Store) :
    Reports (targets net listed)
        (createOrUpdate json vars net pluginStr annotations listed faults store) ↔
      (∃ err, generate json vars net pluginStr annotations listed = .error err) ∨
        ∀ config, configStr json vars net pluginStr = .ok config →
          CallsSucceed net faults store config (targets net listed) := by
  cases hgen : generate json vars net pluginStr annotations listed with
  | error err =>
    refine ⟨fun _ => .inl ⟨err, rfl⟩, fun _ => ?_⟩
    rw [createOrUpdate, hgen]
    exact ⟨nofun, fun _ _ _ hfailed => nomatch hfailed⟩
  | ok defs =>
    rw [or_iff_right (fun ⟨_, heq⟩ => nomatch heq)]
    obtain ⟨namespaces, hns⟩ := getNamespace_of_generate hgen
    have htargets : targets net listed = namespaces := by
      rw [targets, hns]
      rfl
    rw [htargets]
    cases hconfig : configStr json vars net pluginStr with
    | ok config =>
      rw [createOrUpdate_of_config hns hconfig]
      refine (reports_settleAll_iff net faults store annotations config namespaces _).trans ?_
      exact ⟨fun h _ heq => Except.ok.inj heq ▸ h, fun h => h config rfl⟩
    | error err =>
      -- there is no namespace to generate a definition for
      have hempty := (generate_error hns hconfig).symm.trans hgen
      split at hempty
      · next hnil =>
        cases hempty
        refine ⟨fun _ _ => nofun, fun _ => ?_⟩
        rw [createOrUpdate, hgen, hnil]
        exact ⟨fun _ _ _ => nofun, fun _ _ _ hfailed => nomatch hfailed⟩
      · cases hempty

/-- The creation in `default` fails and then the owner reference in `team`: the caller gets `nil`,
and the log does not name `default`. -/
theorem createOrUpdate_unreported :
    let result := createOrUpdate plainJson sampleVars (sampleNet ["default", "team"]) sriovPlugin ∅
      (.ok [])
      (fun i => if i = 0 then ⟨none, some "forbidden", none⟩ else ⟨some "no kind", none, none⟩) ∅
    result.returned = none ∧ result.outcomes = [("default", .failed), ("team", .failed)] ∧
      result.logged = some "failed to set controller reference: no kind" ∧
      contains "failed to set controller reference: no kind" "default" = false := by
  exact ⟨rfl, rfl, rfl, by decide⟩

end MultiNicCni.Plugin.NetAttachDef
