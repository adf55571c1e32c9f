import MultiNicCni.Go.Json
import MultiNicCni.Lib.Fold
import MultiNicCni.Lib.Lists

/-!
# The devices of a pod (`daemon/src/iface/pci.go`)

The kubelet writes into its checkpoint which devices each container got. `GetPodResourceMap`
collects those of one pod by resource. The IDs of an entry come as a list, or as a map from NUMA
node to list; Go's random order of that map is the parameter `order`. The result is `none` when
the daemon panics: on an ID that is not a string.

- `convertDeviceIDs_perm`: the conversion gives the IDs of an entry, in some order;
- `lookup_foldlM_addEntry`: the loop keeps the first entry of each resource;
- `podResources_complete_iff`: **the map has all devices of the pod exactly when no entry after
  the first of its resource has any**. The source means to append those of the later entries,
  but does not store the longer slice.
-/

namespace MultiNicCni.Daemon

open Go Lib

/-! ## The checkpoint -/

/-- `DeviceIDs`, an `interface{}`, as far as the conversion looks into it. A value under a NUMA
node that is no list is `none`. -/
inductive DeviceIDs where
  | list (vals : List Json)
  | byNode (nodes : GoMap String (Option (List Json)))
  | other

/-- `PodDevicesEntry`, with the fields that are read. -/
structure PodDevicesEntry where
  podUID : String
  resourceName : String
  deviceIDs : DeviceIDs

/-- `val.(string)`. -/
def asString : Json → Option String
  | .str s => some s
  | _ => none

/-- The IDs under a NUMA node. -/
def nodeIDs (val : Option (List Json)) : Option (List String) := val.bind fun ids => ids.mapM asString

inductive ResourceMapError where
  /-- `GetPodResourceMap: invalid Pod cannot be empty` -/
  | invalidPod
  /-- the checkpoint is not read or does not parse -/
  | checkpoint (message : String)
  deriving DecidableEq, Repr

section Model

variable (order : GoMap.RangeOrder String (Option (List Json)))

/-- `convertDeviceIDs`. -/
def convertDeviceIDs : DeviceIDs → Option (List String)
  | .list vals => vals.mapM asString
  | .byNode nodes => ((order.values nodes).mapM nodeIDs).map List.flatten
  | .other => some []

/-- The body of the loop of `GetPodResourceMap`. -/
def addEntry (podID : String) (resourceMap : GoMap String (List String)) (entry : PodDevicesEntry) :
    Option (GoMap String (List String)) :=
  if entry.podUID = podID then do
    let deviceIDs ← convertDeviceIDs order entry.deviceIDs
    match resourceMap.lookup entry.resourceName with
    -- the longer slice stays in a local variable
    | some _ => some resourceMap
    | none => some (resourceMap.insert entry.resourceName deviceIDs)
  else some resourceMap

/-- `GetPodResourceMap`, for the UID of the pod and what reading the checkpoint comes to. -/
def getPodResourceMap (podID : String) (checkpoint : Except String (List PodDevicesEntry)) :
    Option (Except ResourceMapError (GoMap String (List String))) :=
  if podID = "" then some (.error .invalidPod)
  else
    match checkpoint with
    | .error message => some (.error (.checkpoint message))
    | .ok podDeviceEntries => (podDeviceEntries.foldlM (addEntry order podID) ∅).map .ok

end Model

/-! ## Conversion -/

/-- The IDs of an entry, those of a map in the order in which it is listed. -/
def DeviceIDs.ids : DeviceIDs → List String
  | .list vals => vals.filterMap asString
  | .byNode nodes => (nodes.values.filterMap nodeIDs).flatten
  | .other => []

/-- All IDs are strings. -/
def DeviceIDs.Valid : DeviceIDs → Prop
  | .list vals => ∀ val ∈ vals, (asString val).isSome = true
  | .byNode nodes => ∀ val ∈ nodes.values, (nodeIDs val).isSome = true
  | .other => True

theorem convertDeviceIDs_perm (order : GoMap.RangeOrder String (Option (List Json)))
    {deviceIDs : DeviceIDs} (h : deviceIDs.Valid) :
    ∃ ids, convertDeviceIDs order deviceIDs = some ids ∧ ids.Perm deviceIDs.ids := by
  cases deviceIDs with
  | list vals => exact ⟨_, mapM_eq_some_filterMap h, .refl _⟩
  | byNode nodes =>
    have hperm := order.perm nodes
    have hvals := mapM_eq_some_filterMap fun val hval => h val (hperm.mem_iff.mp hval)
    refine ⟨((order.values nodes).filterMap nodeIDs).flatten, ?_, (hperm.filterMap nodeIDs).flatten⟩
    rw [convertDeviceIDs, hvals]
    rfl
  | other => exact ⟨[], rfl, .refl _⟩

/-! ## The loop -/

/-- The entries of a pod with a resource. -/
def ownEntries (podID resourceName : String) (entries : List PodDevicesEntry) :
    List PodDevicesEntry :=
  entries.filter fun entry => entry.podUID = podID ∧ entry.resourceName = resourceName

theorem ownEntries_cons (podID resourceName : String) (entry : PodDevicesEntry)
    (entries : List PodDevicesEntry) :
    ownEntries podID resourceName (entry :: entries) =
      if entry.podUID = podID ∧ entry.resourceName = resourceName then
        entry :: ownEntries podID resourceName entries
      else ownEntries podID resourceName entries := by
  rw [ownEntries, List.filter_cons]
  simp only [decide_eq_true_eq]
  rfl

section Loop

variable {order : GoMap.RangeOrder String (Option (List Json))} {podID : String}

/-- One turn gives a resource its first entry. -/
theorem addEntry_lookup {m m' : GoMap String (List String)} {entry : PodDevicesEntry}
    (h : addEntry order podID m entry = some m') (resourceName : String) :
    m'.lookup resourceName = (m.lookup resourceName).or
      (if entry.podUID = podID ∧ entry.resourceName = resourceName then
        convertDeviceIDs order entry.deviceIDs else none) := by
  unfold addEntry at h
  by_cases hpod : entry.podUID = podID
  · rw [if_pos hpod] at h
    obtain ⟨ids, hids, h⟩ := Option.bind_eq_some_iff.mp h
    rw [hids]
    by_cases hname : entry.resourceName = resourceName
    · subst hname
      rw [if_pos ⟨hpod, rfl⟩]
      cases hl : m.lookup entry.resourceName with
      | none =>
        rw [hl] at h
        obtain rfl := Option.some.inj h
        exact AList.lookup_insert m
      | some first =>
        rw [hl] at h
        obtain rfl := Option.some.inj h
        exact hl
    · rw [if_neg fun hown => hname hown.2, Option.or_none]
      cases hl : m.lookup entry.resourceName with
      | none =>
        rw [hl] at h
        obtain rfl := Option.some.inj h
        exact AList.lookup_insert_ne (Ne.symm hname)
      | some first =>
        rw [hl] at h
        obtain rfl := Option.some.inj h
        rfl
  · rw [if_neg hpod] at h
    obtain rfl := Option.some.inj h
    rw [if_neg fun hown => hpod hown.1, Option.or_none]

/-- The whole loop keeps the first entry of each resource. -/
theorem lookup_foldlM_addEntry {entries : List PodDevicesEntry}
    (hvalid : ∀ entry ∈ entries, entry.podUID = podID → entry.deviceIDs.Valid)
    {m m' : GoMap String (List String)}
    (h : entries.foldlM (addEntry order podID) m = some m') (resourceName : String) :
    m'.lookup resourceName = (m.lookup resourceName).or
      ((ownEntries podID resourceName entries).head?.bind fun entry =>
        convertDeviceIDs order entry.deviceIDs) := by
  induction entries generalizing m with
  | nil =>
    cases h
    exact Option.or_none.symm
  | cons entry entries ih =>
    obtain ⟨m₁, hstep, h⟩ := foldlM_cons_eq_some.mp h
    rw [ih (fun e he => hvalid e (List.mem_cons_of_mem entry he)) h, addEntry_lookup hstep,
      Option.or_assoc, ownEntries_cons]
    by_cases hown : entry.podUID = podID ∧ entry.resourceName = resourceName
    · obtain ⟨ids, hids, -⟩ := convertDeviceIDs_perm order
        (hvalid entry List.mem_cons_self hown.1)
      rw [if_pos hown, if_pos hown, List.head?_cons, Option.bind_some, hids]
      rfl
    · rw [if_neg hown, if_neg hown, Option.none_or]

/-- The loop does not panic. -/
theorem foldlM_addEntry_total (order : GoMap.RangeOrder String (Option (List Json)))
    {entries : List PodDevicesEntry}
    (hvalid : ∀ entry ∈ entries, entry.podUID = podID → entry.deviceIDs.Valid) :
    ∃ m, entries.foldlM (addEntry order podID) ∅ = some m := by
  refine foldlM_isSome (fun m entry hentry => ?_) ∅
  unfold addEntry
  by_cases hpod : entry.podUID = podID
  · obtain ⟨ids, hids, -⟩ := convertDeviceIDs_perm order (hvalid entry hentry hpod)
    rw [if_pos hpod, hids]
    cases hl : m.lookup entry.resourceName with
    | none => exact ⟨_, rfl⟩
    | some first => exact ⟨_, rfl⟩
  · exact ⟨m, if_neg hpod⟩

end Loop

/-! ## All devices of a pod -/

/-- Each resource of an entry of the pod has the devices of all such entries, however ordered,
and there is no other resource. -/
def HasAllDevices (podID : String) (entries : List PodDevicesEntry)
    (resourceMap : GoMap String (List String)) : Prop :=
  ∀ resourceName, (resourceMap.lookup resourceName).map Multiset.ofList =
    if ownEntries podID resourceName entries = [] then none
    else some (Multiset.ofList
      ((ownEntries podID resourceName entries).flatMap fun entry => entry.deviceIDs.ids))

/-- The entries of the pod with a resource have no devices, except for the first. -/
def DevicesInFirst (podID : String) (entries : List PodDevicesEntry) : Prop :=
  ∀ resourceName, ∀ entry ∈ (ownEntries podID resourceName entries).tail, entry.deviceIDs.ids = []

/-- **The map has all devices of a pod exactly when** each of its resources has them in its
first entry. -/
theorem podResources_complete_iff (order : GoMap.RangeOrder String (Option (List Json)))
    {podID : String} (hpod : podID ≠ "") {entries : List PodDevicesEntry}
    (hvalid : ∀ entry ∈ entries, entry.podUID = podID → entry.deviceIDs.Valid) :
    ∃ resourceMap, getPodResourceMap order podID (.ok entries) = some (.ok resourceMap) ∧
      (HasAllDevices podID entries resourceMap ↔ DevicesInFirst podID entries) := by
  obtain ⟨m, hm⟩ := foldlM_addEntry_total order hvalid
  refine ⟨m, ?_, forall_congr' fun resourceName => ?_⟩
  · rw [getPodResourceMap, if_neg hpod, hm]
    rfl
  have hlookup := lookup_foldlM_addEntry hvalid hm resourceName
  rw [AList.lookup_empty, Option.none_or] at hlookup
  cases hown : ownEntries podID resourceName entries with
  | nil =>
    rw [hown] at hlookup
    simp [hlookup]
  | cons first rest =>
    have hmem : first ∈ ownEntries podID resourceName entries := by rw [hown]; simp
    obtain ⟨hfirst, hof⟩ := List.mem_filter.mp hmem
    obtain ⟨ids, hids, hperm⟩ := convertDeviceIDs_perm order
      (hvalid first hfirst (of_decide_eq_true hof).1)
    rw [hown, List.head?_cons, Option.bind_some, hids] at hlookup
    rw [hlookup, if_neg (by simp), Option.map_some, Option.some_inj, List.flatMap_cons,
      Multiset.coe_eq_coe, List.tail_cons, ← List.flatMap_eq_nil_iff]
    constructor
    · intro hall
      have hlen := hperm.length_eq.symm.trans hall.length_eq
      rw [List.length_append] at hlen
      exact List.length_eq_zero_iff.mp (by omega)
    · intro hrest
      rw [hrest, List.append_nil]
      exact hperm

/-- A container with a GPU, and one without devices. -/
def oneContainer : List PodDevicesEntry :=
  [⟨"uid", "nvidia.com/gpu", .byNode (AList.singleton "0" (some [.str "GPU-0"]))⟩,
    ⟨"uid", "nvidia.com/gpu", .list []⟩, ⟨"other", "nvidia.com/gpu", .list [.str "GPU-1"]⟩]

theorem podResources_complete_one :
    ∃ resourceMap, getPodResourceMap .listed "uid" (.ok oneContainer) = some (.ok resourceMap) ∧
      HasAllDevices "uid" oneContainer resourceMap := by
  have hvalid : ∀ entry ∈ oneContainer, entry.podUID = "uid" → entry.deviceIDs.Valid := by
    intro entry hentry hown
    rcases List.mem_cons.mp hentry with rfl | hentry
    · exact fun val hval => List.mem_singleton.mp (show val ∈ [_] from hval) ▸ rfl
    rcases List.mem_cons.mp hentry with rfl | hentry
    · exact fun val hval => absurd hval List.not_mem_nil
    · obtain rfl := List.mem_singleton.mp hentry
      exact absurd hown (by decide)
  have hfirst : DevicesInFirst "uid" oneContainer := by
    intro resourceName entry hentry
    by_cases hname : "nvidia.com/gpu" = resourceName
    · subst hname
      obtain rfl := List.mem_singleton.mp (show entry ∈ [_] from hentry)
      rfl
    · simp [oneContainer, hname, ownEntries] at hentry
  obtain ⟨m, hm, hall⟩ := podResources_complete_iff .listed (by decide) hvalid
  exact ⟨m, hm, hall.mpr hfirst⟩

/-- Two containers of a pod, each with a GPU. -/
def twoContainers : List PodDevicesEntry :=
  [⟨"uid", "nvidia.com/gpu", .list [.str "GPU-0"]⟩, ⟨"uid", "nvidia.com/gpu", .list [.str "GPU-1"]⟩]

/-- The GPU of the second container is lost. -/
theorem podResources_second_lost :
    ∃ resourceMap, getPodResourceMap .listed "uid" (.ok twoContainers) = some (.ok resourceMap) ∧
      resourceMap.lookup "nvidia.com/gpu" = some ["GPU-0"] ∧
      ¬ HasAllDevices "uid" twoContainers resourceMap := by
  refine ⟨AList.singleton "nvidia.com/gpu" ["GPU-0"], rfl, rfl, ?_⟩
  intro hall
  exact absurd (hall "nvidia.com/gpu") (by decide)

end MultiNicCni.Daemon
