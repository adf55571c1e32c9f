import MultiNicCni.Go.Map
import MultiNicCni.Go.Text

/-!
# Network attachment definitions (`internal/plugin/net_attach_def.go`)

The controller keeps one `NetworkAttachmentDefinition` of a network in every namespace the
network is for. Its config is printed from the network; its annotations name the resource that
pods need for it. `CreateOrUpdate` creates the definitions that are missing and updates those that
differ.

- `createOrUpdateDef_cases`: one definition. It fails iff a call that is made for it fails;
  otherwise it is settled: the stored definition has the generated config, and the metadata it
  had before if there was one (`settled`).
- `allDone_settleAll_iff`, `lookup_settleAll`: the loop over the namespaces goes through iff no
  call that is made fails, and then settles the definition of every namespace.

`Faults` has the failures a definition meets, one record for each in the order of the namespaces.
A definition can be read whenever it is stored. `Json` has what `encoding/json` prints. Of the
metadata, those that the server sets are left out.
-/

namespace MultiNicCni.Plugin.NetAttachDef

open Go

/-! ## The objects -/

/-- `MultiNicNetwork`, with what the definitions are generated from. -/
structure MultiNicNetwork where
  name : String
  uid : String
  namespaces : List String
  subnet : String
  masterNetAddrs : List String
  isMultiNICIPAM : Bool
  ipam : String

structure OwnerReference where
  name : String
  uid : String
  controller : Option Bool
  blockOwnerDeletion : Option Bool

structure ObjectMeta where
  name : String
  namespaceName : String
  labels : GoMap String String
  annotations : GoMap String String
  ownerReferences : List OwnerReference

structure NetworkAttachmentDefinition where
  metadata : ObjectMeta
  config : String

/-- `NetConf`, with the fields that are set. -/
structure NetConf where
  cniVersion : String
  name : String
  type : String
  subnet : String
  masterNetAddrs : List String
  isMultiNICIPAM : Bool
  daemonPort : Int

/-- `vars`. -/
structure Vars where
  targetCNI : String
  daemonPort : Int

/-- `encoding/json`, as far as it is used here. -/
structure Json where
  /-- `json.Marshal` of a config -/
  marshal : NetConf → String
  /-- an object, unmarshalled and marshalled again -/
  remarshal : String → Except String String

inductive NamespacePhase where
  | active
  | terminating
  deriving DecidableEq

/-- The definitions in the cluster, by namespace and name. -/
abbrev Store := GoMap (String × String) NetworkAttachmentDefinition

/-! ## Generation -/

def cniVersion : String := "0.3.0"

def autoGenLabel : String := "multi-nic-cni-generated"

/-- `GetMetaObject`. -/
def getMetaObject (name namespaceName : String) (annotations : GoMap String String) : ObjectMeta :=
  ⟨name, namespaceName, (∅ : GoMap String String).insert autoGenLabel "true", annotations, []⟩

/-- The config of `NetToDef`. -/
def configStr (json : Json) (vars : Vars) (net : MultiNicNetwork) (pluginStr : String) :
    Except String String := do
  let configStr := json.marshal
    ⟨cniVersion, net.name, vars.targetCNI, net.subnet, net.masterNetAddrs, net.isMultiNICIPAM,
      vars.daemonPort⟩
  let ipamBytes ← json.remarshal net.ipam
  let configStr := configStr.replace "\"ipam\":\x7b\x7d" ("\"ipam\":" ++ ipamBytes)
  .ok (configStr.replace "\"plugin\":null" ("\"plugin\":" ++ pluginStr))

/-- `NetToDef`. -/
def netToDef (json : Json) (vars : Vars) (namespaceName : String) (net : MultiNicNetwork)
    (pluginStr : String) (annotations : GoMap String String) :
    Except String NetworkAttachmentDefinition := do
  let config ← configStr json vars net pluginStr
  .ok ⟨getMetaObject net.name namespaceName annotations, config⟩

/-- `getNamespace`: all active namespaces if none are specified. -/
def getNamespace (net : MultiNicNetwork)
    (listed : Except String (List (String × NamespacePhase))) : Except String (List String) :=
  if net.namespaces.length = 0 then do
    let items ← listed
    .ok ((items.filter fun ns => ns.2 = .active).map Prod.fst)
  else .ok net.namespaces

/-- `generate`. -/
def generate (json : Json) (vars : Vars) (net : MultiNicNetwork) (pluginStr : String)
    (annotations : GoMap String String)
    (listed : Except String (List (String × NamespacePhase))) :
    Except String (List NetworkAttachmentDefinition) := do
  let namespaces ← getNamespace net listed
  namespaces.mapM fun ns => netToDef json vars ns net pluginStr annotations

/-! ## Creation and update -/

/-- `CheckDefChanged`. A key that is missing reads as the empty text. -/
def checkDefChanged (definition existingDef : NetworkAttachmentDefinition) : Bool :=
  definition.config ≠ existingDef.config ||
  definition.metadata.annotations.entries.length ≠
    existingDef.metadata.annotations.entries.length ||
  existingDef.metadata.annotations.entries.any fun e =>
    (definition.metadata.annotations.lookup e.1).getD "" ≠ e.2

/-- The failures that a definition meets. -/
structure Faults where
  setReference : Option String
  create : Option String
  update : Option String

/-- No failure. -/
def Faults.none : Faults := ⟨.none, .none, .none⟩

/-- What became of a definition. -/
inductive Outcome where
  | created
  | updated
  | upToDate
  | failed
  deriving DecidableEq

/-- The message, the cluster and the outcome after a definition. -/
structure Step where
  errMsg : String
  store : Store
  outcome : Outcome

/-- `SetControllerReference`, and the loop that completes the reference. A generated definition
has no other owner. -/
def withOwner (net : MultiNicNetwork) (definition : NetworkAttachmentDefinition) :
    NetworkAttachmentDefinition :=
  let reference : OwnerReference := ⟨net.name, net.uid, some true, some true⟩
  let references := (definition.metadata.ownerReferences ++ [reference]).map fun ref =>
    if ref.uid = net.uid then { ref with controller := some true, blockOwnerDeletion := some true }
    else ref
  { definition with metadata := { definition.metadata with ownerReferences := references } }

/-- `createOrUpdate`. -/
def createOrUpdateDef (net : MultiNicNetwork) (faults : Faults)
    (definition : NetworkAttachmentDefinition) (errMsg : String) (store : Store) : Step :=
  match faults.setReference with
  | some err => ⟨"failed to set controller reference: " ++ err, store, .failed⟩
  | none =>
    let definition := withOwner net definition
    let name := definition.metadata.name
    let namespaceName := definition.metadata.namespaceName
    match store.lookup (namespaceName, name) with
    | some existingDef =>
      let definition := { definition with metadata := existingDef.metadata }
      if checkDefChanged definition existingDef then
        match faults.update with
        | some err => ⟨errMsg ++ "\n" ++ namespaceName ++ ": " ++ err, store, .failed⟩
        | none => ⟨errMsg, store.insert (namespaceName, name) definition, .updated⟩
      else ⟨errMsg, store, .upToDate⟩
    | none =>
      match faults.create with
      | some err => ⟨errMsg ++ "\n" ++ namespaceName ++ ": " ++ err, store, .failed⟩
      | none => ⟨errMsg, store.insert (namespaceName, name) definition, .created⟩

/-- The loop of `CreateOrUpdate` so far: the message, the cluster, and the outcome in each
namespace. -/
structure Run where
  errMsg : String
  store : Store
  outcomes : List (String × Outcome)

/-- The loop of `CreateOrUpdate`. -/
def createOrUpdateDefs (net : MultiNicNetwork) (faults : Nat → Faults) (store : Store)
    (defs : List NetworkAttachmentDefinition) : Run :=
  defs.zipIdx.foldl (fun run d =>
    let step := createOrUpdateDef net (faults d.2) d.1 run.errMsg run.store
    ⟨step.errMsg, step.store, run.outcomes ++ [(d.1.metadata.namespaceName, step.outcome)]⟩)
    ⟨"", store, []⟩

/-- What `CreateOrUpdate` returns and logs, and what it leaves. -/
structure Result where
  returned : Option String
  logged : Option String
  store : Store
  outcomes : List (String × Outcome)

/-- `CreateOrUpdate`. -/
def createOrUpdate (json : Json) (vars : Vars) (net : MultiNicNetwork) (pluginStr : String)
    (annotations : GoMap String String)
    (listed : Except String (List (String × NamespacePhase))) (faults : Nat → Faults)
    (store : Store) : Result :=
  match generate json vars net pluginStr annotations listed with
  | .error err => ⟨some err, none, store, []⟩
  | .ok defs =>
    let run := createOrUpdateDefs net faults store defs
    ⟨none, if run.errMsg ≠ "" then some run.errMsg else none, run.store, run.outcomes⟩

/-- `CreateOrUpdateOnNamespace`, which returns the message. -/
def createOrUpdateOnNamespace (json : Json) (vars : Vars) (namespaceName : String)
    (net : MultiNicNetwork) (pluginStr : String) (annotations : GoMap String String)
    (faults : Faults) (store : Store) : Result :=
  match netToDef json vars namespaceName net pluginStr annotations with
  | .error err => ⟨some err, none, store, []⟩
  | .ok definition =>
    let step := createOrUpdateDef net faults definition "" store
    let message := if step.errMsg ≠ "" then some step.errMsg else none
    ⟨message, message, step.store, [(namespaceName, step.outcome)]⟩

/-! ## One definition -/

section Step

variable {net : MultiNicNetwork} {faults : Faults} {definition : NetworkAttachmentDefinition}
  {errMsg : String} {store : Store}

/-- With the metadata of the stored definition only the config is compared. -/
theorem checkDefChanged_of_metadata_eq {existingDef : NetworkAttachmentDefinition}
    (h : definition.metadata = existingDef.metadata) :
    checkDefChanged definition existingDef = decide (definition.config ≠ existingDef.config) := by
  have hsame : (existingDef.metadata.annotations.entries.any fun e =>
      decide ((existingDef.metadata.annotations.lookup e.1).getD "" ≠ e.2)) = false := by
    rw [List.any_eq_false]
    intro e he hne
    rw [GoMap.lookup_of_mem he] at hne
    exact of_decide_eq_true hne rfl
  rw [checkDefChanged, h, hsame]
  simp

/-- A call that is made for a definition with this config, over the stored one, fails. -/
def StepFails (faults : Faults) (config : String)
    (stored : Option NetworkAttachmentDefinition) : Prop :=
  faults.setReference ≠ none ∨ (stored = none ∧ faults.create ≠ none) ∨
    ∃ existingDef, stored = some existingDef ∧ config ≠ existingDef.config ∧ faults.update ≠ none

/-- What is stored if no call fails: the generated definition if there was none, and the config
of the generated definition with the metadata of the stored one otherwise. -/
def settled (net : MultiNicNetwork) (definition : NetworkAttachmentDefinition) :
    Option NetworkAttachmentDefinition → NetworkAttachmentDefinition
  | none => withOwner net definition
  | some existingDef => { existingDef with config := definition.config }

theorem config_settled (stored : Option NetworkAttachmentDefinition) :
    (settled net definition stored).config = definition.config := by
  cases stored <;> rfl

/-- A settled definition stays as it is. -/
theorem settled_settled (stored : Option NetworkAttachmentDefinition) :
    settled net definition (some (settled net definition stored)) =
      settled net definition stored := by
  cases stored <;> rfl

/-- Under which key a definition is stored. -/
def NetworkAttachmentDefinition.key (definition : NetworkAttachmentDefinition) : String × String :=
  (definition.metadata.namespaceName, definition.metadata.name)

theorem createOrUpdateDef_setReference {err : String} (href : faults.setReference = some err) :
    createOrUpdateDef net faults definition errMsg store =
      ⟨"failed to set controller reference: " ++ err, store, .failed⟩ := by
  unfold createOrUpdateDef
  rw [href]

theorem createOrUpdateDef_missing (href : faults.setReference = none)
    (hstored : store.lookup definition.key = none) :
    createOrUpdateDef net faults definition errMsg store =
      match faults.create with
      | some err =>
        ⟨errMsg ++ "\n" ++ definition.metadata.namespaceName ++ ": " ++ err, store, .failed⟩
      | none => ⟨errMsg, store.insert definition.key (withOwner net definition), .created⟩ := by
  have hlookup : store.lookup ((withOwner net definition).metadata.namespaceName,
      (withOwner net definition).metadata.name) = none := hstored
  unfold createOrUpdateDef
  rw [href]
  dsimp only
  rw [hlookup]
  rfl

theorem createOrUpdateDef_stored {existingDef : NetworkAttachmentDefinition}
    (href : faults.setReference = none) (hstored : store.lookup definition.key = some existingDef) :
    createOrUpdateDef net faults definition errMsg store =
      if definition.config ≠ existingDef.config then
        match faults.update with
        | some err =>
          ⟨errMsg ++ "\n" ++ definition.metadata.namespaceName ++ ": " ++ err, store, .failed⟩
        | none =>
          ⟨errMsg, store.insert definition.key { existingDef with config := definition.config },
            .updated⟩
      else ⟨errMsg, store, .upToDate⟩ := by
  have hlookup : store.lookup ((withOwner net definition).metadata.namespaceName,
      (withOwner net definition).metadata.name) = some existingDef := hstored
  have hchanged := @checkDefChanged_of_metadata_eq
    { existingDef with config := (withOwner net definition).config } existingDef rfl
  unfold createOrUpdateDef
  rw [href]
  dsimp only
  rw [hlookup]
  dsimp only
  rw [hchanged]
  simp only [decide_eq_true_eq]
  rfl

/-- **What `createOrUpdate` does**: it fails iff a call that it makes fails, and then leaves the
cluster as it is; otherwise the definition is settled. -/
theorem createOrUpdateDef_cases :
    ((createOrUpdateDef net faults definition errMsg store).outcome = .failed ∧
        StepFails faults definition.config (store.lookup definition.key) ∧
        (createOrUpdateDef net faults definition errMsg store).store = store) ∨
      ((createOrUpdateDef net faults definition errMsg store).outcome ≠ .failed ∧
        ¬ StepFails faults definition.config (store.lookup definition.key) ∧
        ∀ key, (createOrUpdateDef net faults definition errMsg store).store.lookup key =
          if key = definition.key then
            some (settled net definition (store.lookup definition.key))
          else store.lookup key) := by
  rcases href : faults.setReference with _ | err
  · rcases hstored : store.lookup definition.key with _ | existingDef
    · rw [createOrUpdateDef_missing href hstored]
      rcases hcreate : faults.create with _ | err
      · refine .inr ⟨nofun, ?_, fun key => GoMap.lookup_insert_ite _ _ _ _⟩
        simp [StepFails, href, hcreate]
      · exact .inl ⟨rfl, .inr (.inl ⟨rfl, by simp [hcreate]⟩), rfl⟩
    · rw [createOrUpdateDef_stored href hstored]
      by_cases hconfig : definition.config = existingDef.config
      · -- what is stored is settled already
        rw [if_neg (not_not.mpr hconfig)]
        refine .inr ⟨nofun, ?_, fun key => ?_⟩
        · simp [StepFails, href, hconfig]
        · split
          · next heq =>
            rw [heq, hstored, settled, hconfig]
          · rfl
      · rw [if_pos hconfig]
        rcases hupdate : faults.update with _ | err
        · refine .inr ⟨nofun, ?_, fun key => GoMap.lookup_insert_ite _ _ _ _⟩
          simp [StepFails, href, hupdate]
        · exact .inl ⟨rfl, .inr (.inr ⟨existingDef, rfl, hconfig, by simp [hupdate]⟩), rfl⟩
  · rw [createOrUpdateDef_setReference href]
    exact .inl ⟨rfl, .inl (by simp [href]), rfl⟩

theorem outcome_ne_failed_iff :
    (createOrUpdateDef net faults definition errMsg store).outcome ≠ .failed ↔
      ¬ StepFails faults definition.config (store.lookup definition.key) := by
  obtain ⟨hfailed, hfails, -⟩ | ⟨hdone, hok, -⟩ := @createOrUpdateDef_cases net faults definition
    errMsg store
  · exact ⟨fun h => absurd hfailed h, fun h => absurd hfails h⟩
  · exact ⟨fun _ => hok, fun _ => hdone⟩

/-- The message grows, or is replaced, exactly with a failure. -/
theorem errMsg_createOrUpdateDef_eq_empty_iff :
    (createOrUpdateDef net faults definition "" store).errMsg = "" ↔
      (createOrUpdateDef net faults definition "" store).outcome ≠ .failed := by
  rcases href : faults.setReference with _ | err
  · rcases hstored : store.lookup definition.key with _ | existingDef
    · rw [createOrUpdateDef_missing href hstored]
      split <;> simp
    · rw [createOrUpdateDef_stored href hstored]
      split
      · split <;> simp
      · simp
  · rw [createOrUpdateDef_setReference href]
    simp

/-- Over a definition with the same config only the owner reference can fail. -/
theorem stepFails_of_config_eq {config : String} {existingDef : NetworkAttachmentDefinition}
    (h : config = existingDef.config) :
    StepFails faults config (some existingDef) ↔ faults.setReference ≠ none := by
  constructor
  · rintro (href | ⟨hnone, -⟩ | ⟨_, ⟨⟩, hne, -⟩)
    · exact href
    · cases hnone
    · exact absurd h hne
  · exact .inl

end Step

/-! ## The loop -/

section Loop

variable (net : MultiNicNetwork) (faults : Nat → Faults) (store : Store)

theorem createOrUpdateDefs_append_singleton (defs : List NetworkAttachmentDefinition)
    (d : NetworkAttachmentDefinition) :
    createOrUpdateDefs net faults store (defs ++ [d]) =
      let run := createOrUpdateDefs net faults store defs
      let step := createOrUpdateDef net (faults defs.length) d run.errMsg run.store
      ⟨step.errMsg, step.store, run.outcomes ++ [(d.metadata.namespaceName, step.outcome)]⟩ := by
  simp only [createOrUpdateDefs, List.zipIdx_append, List.foldl_append, List.zipIdx_singleton,
    Nat.zero_add, List.foldl_cons, List.foldl_nil]

/-- There is one outcome for each definition. -/
theorem outcomes_namespaces (defs : List NetworkAttachmentDefinition) :
    (createOrUpdateDefs net faults store defs).outcomes.map Prod.fst =
      defs.map fun d => d.metadata.namespaceName := by
  induction defs using List.reverseRecOn with
  | nil => rfl
  | append_singleton defs d ih =>
    rw [createOrUpdateDefs_append_singleton]
    simp only [List.map_append, ih, List.map_cons, List.map_nil]

/-- Every definition was created, updated or found up to date. -/
def AllDone (outcomes : List (String × Outcome)) : Prop := ∀ o ∈ outcomes, o.2 ≠ .failed

variable (annotations : GoMap String String) (config : String)

/-- The generated definition of a namespace. -/
def defOf (namespaceName : String) : NetworkAttachmentDefinition :=
  ⟨getMetaObject net.name namespaceName annotations, config⟩

/-- The loop over the definitions of the namespaces. -/
def settleAll (namespaces : List String) : Run :=
  createOrUpdateDefs net faults store (namespaces.map (defOf net annotations config))

theorem settleAll_append_singleton (namespaces : List String) (ns : String) :
    settleAll net faults store annotations config (namespaces ++ [ns]) =
      let run := settleAll net faults store annotations config namespaces
      let step := createOrUpdateDef net (faults namespaces.length) (defOf net annotations config ns)
        run.errMsg run.store
      ⟨step.errMsg, step.store, run.outcomes ++ [(ns, step.outcome)]⟩ := by
  rw [settleAll, List.map_append, List.map_singleton, createOrUpdateDefs_append_singleton,
    List.length_map]
  rfl

theorem allDone_append_singleton {outcomes : List (String × Outcome)} {o : String × Outcome} :
    AllDone (outcomes ++ [o]) ↔ AllDone outcomes ∧ o.2 ≠ .failed := by
  unfold AllDone
  rw [List.forall_mem_append, List.forall_mem_singleton]

/-- **After a loop without a failure the definitions of its namespaces are settled**, and those
of other namespaces are as before. -/
theorem lookup_settleAll (namespaces : List String)
    (hdone : AllDone (settleAll net faults store annotations config namespaces).outcomes)
    (ns : String) :
    (settleAll net faults store annotations config namespaces).store.lookup (ns, net.name) =
      if ns ∈ namespaces then
        some (settled net (defOf net annotations config ns) (store.lookup (ns, net.name)))
      else store.lookup (ns, net.name) := by
  induction namespaces using List.reverseRecOn generalizing ns with
  | nil => rfl
  | append_singleton namespaces last ih =>
    rw [settleAll_append_singleton] at hdone ⊢
    obtain ⟨hdone, hstep⟩ := allDone_append_singleton.mp hdone
    obtain ⟨hfailed, -⟩ | ⟨-, -, hlookup⟩ := @createOrUpdateDef_cases net
      (faults namespaces.length) (defOf net annotations config last)
      (settleAll net faults store annotations config namespaces).errMsg
      (settleAll net faults store annotations config namespaces).store
    · exact absurd hfailed hstep
    · refine (hlookup (ns, net.name)).trans ?_
      show (if (ns, net.name) = (last, net.name) then some (settled net _
        ((settleAll net faults store annotations config namespaces).store.lookup (last, net.name)))
        else _) = _
      rw [ih hdone last, ih hdone ns]
      by_cases hlast : ns = last
      · subst hlast
        rw [if_pos rfl, if_pos (List.mem_append_right _ (List.mem_singleton_self ns))]
        split
        · rw [settled_settled]
        · rfl
      · rw [if_neg fun heq => hlast (congrArg Prod.fst heq)]
        simp [hlast]

/-- No call that is made for the namespaces fails. A namespace that occurs again is up to date. -/
def CallsSucceed (namespaces : List String) : Prop :=
  ∀ i ns, namespaces[i]? = some ns →
    (faults i).setReference = none ∧
      (ns ∉ namespaces.take i → ¬ StepFails (faults i) config (store.lookup (ns, net.name)))

theorem callsSucceed_none (namespaces : List String) :
    CallsSucceed net (fun _ => .none) store config namespaces := by
  intro i ns _
  refine ⟨rfl, fun _ hfails => ?_⟩
  rcases hfails with href | ⟨-, hcreate⟩ | ⟨_, -, -, hupdate⟩
  · exact href rfl
  · exact hcreate rfl
  · exact hupdate rfl

theorem callsSucceed_append_singleton (namespaces : List String) (last : String) :
    CallsSucceed net faults store config (namespaces ++ [last]) ↔
      CallsSucceed net faults store config namespaces ∧
        (faults namespaces.length).setReference = none ∧
        (last ∉ namespaces →
          ¬ StepFails (faults namespaces.length) config (store.lookup (last, net.name))) := by
  unfold CallsSucceed
  constructor
  · intro h
    constructor
    · intro i ns hi
      have hlt : i < namespaces.length := (List.getElem?_eq_some_iff.mp hi).1
      have hcall := h i ns (by rw [List.getElem?_append_left hlt, hi])
      rwa [List.take_append_of_le_length hlt.le] at hcall
    · have hcall := h namespaces.length last (by simp)
      rwa [List.take_left] at hcall
  · rintro ⟨hinit, hlast⟩ i ns hi
    rcases Nat.lt_or_ge i namespaces.length with hlt | hge
    · rw [List.getElem?_append_left hlt] at hi
      rw [List.take_append_of_le_length hlt.le]
      exact hinit i ns hi
    · rw [List.getElem?_append_right hge, List.getElem?_singleton] at hi
      split at hi
      · next hzero =>
        cases hi
        obtain rfl : i = namespaces.length := by omega
        rwa [List.take_left]
      · cases hi

/-- **The loop goes through iff no call that is made fails.** -/
theorem allDone_settleAll_iff (namespaces : List String) :
    AllDone (settleAll net faults store annotations config namespaces).outcomes ↔
      CallsSucceed net faults store config namespaces := by
  induction namespaces using List.reverseRecOn with
  | nil => exact ⟨fun _ => nofun, fun _ => nofun⟩
  | append_singleton namespaces last ih =>
    rw [settleAll_append_singleton, callsSucceed_append_singleton, allDone_append_singleton, ih]
    refine and_congr_right fun hsucceed => ?_
    have hlookup := lookup_settleAll net faults store annotations config namespaces
      (ih.mpr hsucceed) last
    rw [outcome_ne_failed_iff]
    show ¬ StepFails _ config ((settleAll net faults store annotations config
      namespaces).store.lookup (last, net.name)) ↔ _
    rw [hlookup]
    split
    · next hmem =>
      have hconfig : config = (settled net (defOf net annotations config last)
          (store.lookup (last, net.name))).config :=
        (@config_settled net (defOf net annotations config last) _).symm
      rw [stepFails_of_config_eq hconfig, not_not]
      exact ⟨fun href => ⟨href, fun hnew => absurd hmem hnew⟩, fun h => h.1⟩
    · next hnew =>
      constructor
      · intro hok
        exact ⟨not_not.mp fun href => hok (.inl href), fun _ => hok⟩
      · rintro ⟨-, hok⟩
        exact hok hnew

end Loop

end MultiNicCni.Plugin.NetAttachDef
