import MultiNicCni.Controller.HostInterfaces
import MultiNicCni.Controller.CidrHandler
import MultiNicCni.Lib.Threads

/-!
# The HostInterface objects (`controllers/hostinterface_controller.go`, `daemon_watcher.go`)

There is one `HostInterface` object for every host with a daemon. It is created when the daemon is
seen first, filled with the interfaces that the daemon reports, and deleted when the node is gone.
Several goroutines work on these objects at the same time: the reconciler of the objects, the watcher
of the daemon pods, the periodic synchronizer, and the initialization of the caches. They share the
API server and the caches, and each of them may be overtaken between two calls. So the functions are
programs (`Lib.Prog`) whose actions are the calls to the API server and to the caches.

The objects are read through an informer, which may be behind; an update goes through only if it was
made from the stored version. What is answered from outside is an argument of each program.

- `HostState`: the API server, the informer and the caches;
- `updateStored`, `createStored`, `deleteStored`: what the API server does with a write;
- `tryGetDaemonPod`, `updateInterfaces`, `reconcileHostInterface`, `processPodQueue`,
  `initHostInterfaceCache`, `synchronizeHosts`: the programs;
- `lookup_updateStored`, `lookup_createStored`, `lookup_deleteStored`: what becomes of the objects.
-/

namespace MultiNicCni.Controller

open Go Lib

/-! ## Objects -/

/-- A `HostInterface` object: its labels, whether it has the finalizer and a deletion timestamp, its
resource version and its spec. -/
structure HostObject where
  labels : GoMap String String
  finalizer : Bool
  deleting : Bool
  version : Nat
  hostName : String
  interfaces : List InterfaceInfo

/-- The spec that the CIDRs are computed from. -/
def HostObject.spec (o : HostObject) : HostInterface :=
  ⟨o.hostName, o.interfaces.map (·.toInterfaceInfoType)⟩

/-- `vars.UnmanagedLabelName`. -/
def unmanagedLabelName : String := "multi-nic-unmanaged"

/-- `vars.TestModeLabel`. -/
def testModeLabel : String := "test-mode"

/-- `IsUnmanaged`. -/
def isUnmanaged (labels : GoMap String String) : Bool :=
  (labels.lookup unmanagedLabelName).any fun unmanaged => unmanaged.toLower == "true"

/-- A daemon pod, as the API server has it. -/
structure PodObject where
  name : String
  nodeName : String
  hostIP : String
  labels : GoMap String String
  /-- `ContainerStatuses[i].Ready` -/
  containerReady : List Bool
  deleting : Bool

/-- `IsContainerReady`. -/
def isContainerReady (pod : PodObject) : Bool := pod.containerReady.head?.getD false

/-- `isDaemonPod`. -/
def isDaemonPod (pod : PodObject) : Bool := pod.labels.lookup "app" == some "multi-nicd"

/-- `DaemonPod`, with the fields that the programs read. The zero value has no name. -/
structure DaemonEntry where
  name : String
  nodeName : String
  hostIP : String
  deriving DecidableEq, Repr

def PodObject.entry (pod : PodObject) : DaemonEntry := ⟨pod.name, pod.nodeName, pod.hostIP⟩

/-! ## The API server -/

structure HostState where
  /-- the stored objects -/
  objects : GoMap String HostObject
  /-- the last resource version -/
  revision : Nat
  /-- what the informer has -/
  informer : GoMap String HostObject
  hifCache : GoMap String HostObject
  daemonCache : GoMap String DaemonEntry
  podQueue : List PodObject
  /-- the calls of `UpdateCIDRs` so far -/
  requests : Nat

/-- What becomes of a write: it is refused, or carried out with or without the client hearing of
it. -/
inductive Write where
  | refused
  | unheard
  | heard
  deriving DecidableEq, Repr

inductive WriteError where
  | conflict
  | other
  deriving DecidableEq, Repr

/-- The object as it is stored, at a new version. The deletion timestamp is not the client's to set. -/
def HostObject.storedAs (o stored : HostObject) (version : Nat) : HostObject :=
  { o with deleting := stored.deleting, version }

/-- `Update`: the object must be the stored one in its version. With a deletion timestamp and no
finalizer it goes. -/
def updateStored (st : HostState) (name : String) (o : HostObject) :
    Except WriteError HostObject × HostState :=
  match st.objects.lookup name with
  | none => (.error .other, st)
  | some stored =>
    if stored.version = o.version then
      let new := o.storedAs stored (st.revision + 1)
      (.ok new, { st with
        objects := if stored.deleting && !o.finalizer then st.objects.erase name
          else st.objects.insert name new
        revision := st.revision + 1 })
    else (.error .conflict, st)

/-- `initHostInterface` without interfaces, as it is stored. -/
def initHostInterface (hostName : String) (version : Nat) : HostObject :=
  ⟨∅, false, false, version, hostName, []⟩

/-- `Create` of an object for a host. -/
def createStored (st : HostState) (hostName : String) : HostState :=
  match st.objects.lookup hostName with
  | some _ => st
  | none =>
    { st with
      objects := st.objects.insert hostName (initHostInterface hostName (st.revision + 1))
      revision := st.revision + 1 }

/-- `Delete`: an object with a finalizer gets a deletion timestamp. -/
def deleteStored (st : HostState) (name : String) : HostState :=
  match st.objects.lookup name with
  | none => st
  | some stored =>
    { st with
      objects :=
        if stored.finalizer then
          st.objects.insert name { stored with deleting := true, version := st.revision + 1 }
        else st.objects.erase name
      revision := st.revision + 1 }

/-- A write, as the client sees it. -/
def Write.apply {α : Type} (w : Write) (f : HostState → Except WriteError α × HostState)
    (st : HostState) : Except WriteError α × HostState :=
  match w with
  | .refused => (.error .other, st)
  | .unheard => (.error .other, (f st).2)
  | .heard => f st

/-! ## Calls -/

/-- A program of a goroutine of the controller. -/
abbrev HostProg := Prog HostState

inductive GetError where
  | notFound
  | other
  deriving DecidableEq, Repr

/-- `GetHostInterface`. -/
def getHostInterface (reachable : Bool) (name : String) :
    HostProg (Except GetError HostObject) :=
  .read fun st =>
    if reachable then (st.informer.lookup name).elim (.error .notFound) .ok else .error .other

/-- `Client.Update`. -/
def clientUpdate (w : Write) (name : String) (o : HostObject) :
    HostProg (Except WriteError HostObject) :=
  .atomic (w.apply fun st => updateStored st name o)

/-- `CreateHostInterface` with an empty list. Its error is only logged. -/
def createHostInterface (w : Write) (hostName : String) : HostProg Unit :=
  .modify fun st => (w.apply (fun st => (.ok (), createStored st hostName)) st).2

/-- `DeleteHostInterface`. Its error is only logged. -/
def deleteHostInterface (get : Bool) (w : Write) (name : String) : HostProg Unit := do
  match ← getHostInterface get name with
  | .error _ => pure ()
  | .ok _ => .modify fun st => (w.apply (fun st => (.ok (), deleteStored st name)) st).2

/-- `UpdateHostInterface`. -/
def updateHostInterface (w : Write) (name : String) (oldObj : HostObject)
    (interfaces : List InterfaceInfo) : HostProg (Except WriteError HostObject) :=
  clientUpdate w name { oldObj with interfaces }

/-- `SetCache` of the HostInterfaces. -/
def setHostCache (name : String) (o : HostObject) : HostProg Unit :=
  .modify fun st => { st with hifCache := st.hifCache.insert name o }

/-- `UpdateCIDRs`. -/
def updateCIDRs : HostProg Unit := .modify fun st => { st with requests := st.requests + 1 }

/-- `SetCache` of the daemons. -/
def setDaemonCache (d : DaemonEntry) : HostProg Unit :=
  .modify fun st => { st with daemonCache := st.daemonCache.insert d.nodeName d }

/-- `UnsetCache` of the daemons. -/
def unsetDaemonCache (nodeName : String) : HostProg Unit :=
  .modify fun st => { st with daemonCache := st.daemonCache.erase nodeName }

/-! ## `UpdateInterfaces` -/

/-- `getDaemonPod`: the first pod of the list. -/
def getDaemonPod (podList : Option (List PodObject)) : Except GetError PodObject :=
  match podList with
  | none => .error .other
  | some [] => .error .notFound
  | some (existingDaemon :: _) => .ok existingDaemon

/-- `TryGetDaemonPod`: `none` is an error; a pod without a name could not be confirmed. -/
def tryGetDaemonPod (podList : Option (List PodObject)) (nodeName : String) :
    HostProg (Option DaemonEntry) := do
  match ← Prog.read fun st => st.daemonCache.lookup nodeName with
  | some daemonPod => pure (some daemonPod)
  | none =>
    match getDaemonPod podList with
    | .error .notFound => pure none
    | .error .other => pure (some ⟨"", "", ""⟩)
    | .ok pod =>
      if isContainerReady pod then do
        setDaemonCache pod.entry
        pure (some pod.entry)
      else pure (some ⟨"", "", ""⟩)

/-- What is answered from outside during an `UpdateInterfaces`. -/
structure HostAnswers where
  podList : Option (List PodObject)
  /-- `GetInterfaces` of the daemon -/
  interfaces : Option (List InterfaceInfo)
  order : GoMap.RangeOrder String InterfaceInfo
  update : Write
  node : NodeLookup
  get : Bool
  delete : Write

/-- The daemon is known: its report is merged into the object. The greeting by `IpamJoin` touches
nothing here. -/
def mergeInterfaces (a : HostAnswers) (name : String) (instance_ : HostObject) : HostProg Unit :=
  match a.interfaces with
  | none => pure ()
  | some news =>
    let (interfaces, updated) := updateNewInterfaces a.order instance_.interfaces news
    if updated then do
      match ← updateHostInterface a.update name instance_ interfaces with
      | .error _ => pure ()
      | .ok updatedHif =>
        setHostCache name updatedHif
        updateCIDRs
    else pure ()

/-- `UpdateInterfaces`. Its error only makes the caller come back. -/
def updateInterfaces (a : HostAnswers) (name : String) (instance_ : HostObject) :
    HostProg Unit :=
  if isUnmanaged instance_.labels then updateCIDRs
  else do
    match ← tryGetDaemonPod a.podList instance_.hostName with
    | some pod =>
      -- cannot confirm pod status
      if pod.name = "" then pure () else mergeInterfaces a name instance_
    | none =>
      if (instance_.labels.lookup testModeLabel).isSome then pure ()
      else
        match a.node with
        -- node exists but might be tainted
        | .found _ => pure ()
        | .notFound =>
          unsetDaemonCache instance_.hostName
          deleteHostInterface a.get a.delete instance_.hostName
        | .failed => pure ()

/-! ## `Reconcile` -/

structure ReconcileAnswers where
  get : Bool
  addFinalizer : Write
  /-- `Get` and `Update` of each attempt to remove the finalizer -/
  attempts : List (Bool × Write)
  /-- `ConfigReady` and `IsDaemonSetReady` -/
  ready : Bool
  host : HostAnswers

/-- `CallFinalizer`. -/
def callFinalizer (name : String) : HostProg Unit := do
  Prog.modify fun st => { st with hifCache := st.hifCache.erase name }
  updateCIDRs

/-- `RetryOnConflict` around the removal of the finalizer: there are as many attempts as answers. -/
def removeFinalizer (name : String) : List (Bool × Write) → HostProg Unit
  | [] => pure ()
  | (get, w) :: attempts => do
    match ← getHostInterface get name with
    | .error _ => pure ()
    | .ok o =>
      match ← clientUpdate w name { o with finalizer := false } with
      | .error .conflict => removeFinalizer name attempts
      | .error .other => pure ()
      | .ok _ => pure ()

/-- The finalizer is added to the object if it has none; `none` is an error. -/
def addFinalizer (w : Write) (name : String) (o : HostObject) : HostProg (Option HostObject) :=
  if o.finalizer then pure (some o)
  else do
    match ← clientUpdate w name { o with finalizer := true } with
    | .error _ => pure none
    | .ok o => pure (some o)

/-- An object that is not cached yet is cached if it has interfaces. -/
def cacheIfMissing (name : String) (o : HostObject) : HostProg Unit := do
  let contains ← Prog.read fun st => (st.hifCache.lookup name).isSome
  if !contains && 0 < o.interfaces.length then setHostCache name o else pure ()

/-- `Reconcile` of an object with the finalizer. -/
def reconcileManaged (a : ReconcileAnswers) (name : String) (o : HostObject) : HostProg Unit :=
  if o.deleting then do
    callFinalizer name
    removeFinalizer name a.attempts
  else do
    cacheIfMissing name o
    if a.ready then updateInterfaces a.host name o else pure ()

/-- `Reconcile` of a HostInterface. -/
def reconcileHostInterface (a : ReconcileAnswers) (name : String) : HostProg Unit := do
  match ← getHostInterface a.get name with
  | .error _ => pure ()
  | .ok o =>
    if isUnmanaged o.labels then do
      setHostCache name o
      updateCIDRs
    else
      match ← addFinalizer a.addFinalizer name o with
      | none => pure ()
      | some o => reconcileManaged a name o

/-! ## The watcher of the daemon pods -/

/-- `UpdateFunc` of the informer of the pods. -/
def podUpdated (prevPod pod : PodObject) : HostProg Unit := do
  if isDaemonPod pod && isContainerReady pod then
    let cached ← Prog.read fun st => (st.daemonCache.lookup pod.nodeName).isSome
    -- newly created, or already running but no entry in cache
    if !isContainerReady prevPod || !cached then
      Prog.modify fun st => { st with podQueue := st.podQueue ++ [pod] }
    else pure ()
  else pure ()

/-- `DeleteFunc` of the informer of the pods. -/
def podDeleted (pod : PodObject) : HostProg Unit :=
  if isDaemonPod pod then .modify fun st => { st with podQueue := st.podQueue ++ [pod] }
  else pure ()

structure WatchAnswers where
  get : Bool
  create : Write
  node : String → NodeLookup
  getToDelete : Bool
  delete : Write

/-- `createHostInterfaceInfo`. -/
def createHostInterfaceInfo (a : WatchAnswers) (nodeName : String) : HostProg Unit := do
  match ← getHostInterface a.get nodeName with
  | .error .notFound => createHostInterface a.create nodeName
  | .error .other => pure ()
  | .ok _ => pure ()

/-- `ProcessPodQueue` with a pod of the queue. -/
def processPod (a : WatchAnswers) (daemon : PodObject) : HostProg Unit :=
  if !daemon.deleting then do
    setDaemonCache daemon.entry
    createHostInterfaceInfo a daemon.nodeName
  else if a.node daemon.nodeName = .notFound then do
    unsetDaemonCache daemon.nodeName
    match ← getHostInterface a.get daemon.nodeName with
    | .error _ => pure ()
    | .ok hif =>
      if !isUnmanaged hif.labels then
        deleteHostInterface a.getToDelete a.delete daemon.nodeName
      else pure ()
  else pure ()

/-- `ProcessPodQueue`. -/
def processPodQueue (a : WatchAnswers) : HostProg Unit := do
  match ← Prog.atomic fun st => (st.podQueue.head?, { st with podQueue := st.podQueue.tail }) with
  | none => pure ()
  | some daemon => processPod a daemon

/-- `UpdateCurrentList`. -/
def updateCurrentList (initialList : List PodObject) : HostProg Unit :=
  Prog.each (fun existingDaemon =>
    if isContainerReady existingDaemon then setDaemonCache existingDaemon.entry else pure ())
    initialList

/-! ## The start and the synchronizer -/

structure InitAnswers where
  list : Bool
  order : GoMap.EntryOrder String HostObject
  node : String → NodeLookup
  get : String → Bool
  delete : String → Write
  daemonOrder : GoMap.EntryOrder String DaemonEntry
  create : String → Write

/-- The node of an object is not found, or could not be looked up. -/
def NodeLookup.isError : NodeLookup → Bool
  | .found _ => false
  | .notFound => true
  | .failed => true

/-- One turn of the loop over the listed objects. -/
def initObject (a : InitAnswers) (name : String) (o : HostObject) : HostProg Unit := do
  let found ← Prog.read fun st => (st.daemonCache.lookup name).isSome
  if !found && (a.node name).isError && !isUnmanaged o.labels then
    deleteHostInterface (a.get name) (a.delete name) name
  else setHostCache name o

/-- The loop over the listed objects; on test mode it ends. -/
def initObjects (a : InitAnswers) : List ((_ : String) × HostObject) → HostProg Unit
  | [] => pure ()
  | ⟨name, o⟩ :: rest =>
    if (o.labels.lookup testModeLabel).isSome then pure ()
    else do
      initObject a name o
      initObjects a rest

/-- `InitHostInterfaceCache`. -/
def initHostInterfaceCache (a : InitAnswers) : HostProg Unit :=
  if a.list then do
    let listObjects ← Prog.read fun st => st.informer
    initObjects a (a.order.entries listObjects)
    -- check missing hostinterface
    let daemonSnapshot ← Prog.read fun st => st.daemonCache
    Prog.each (fun e => if (listObjects.lookup e.1).isSome then pure ()
      else createHostInterface (a.create e.1) e.2.nodeName) (a.daemonOrder.entries daemonSnapshot)
  else pure ()

/-- The part of `RunPeriodicUpdate` that is about the hosts. -/
def synchronizeHosts (ready : Bool) (order : GoMap.EntryOrder String HostObject)
    (a : String → HostAnswers) : HostProg Unit :=
  if ready then do
    let hostInterfaceSnapshot ← Prog.read fun st => st.hifCache
    Prog.each (fun e => updateInterfaces (a e.1) e.1 e.2) (order.entries hostInterfaceSnapshot)
  else pure ()

/-! ## What becomes of the objects -/

section Stored

variable {st : HostState} {name : String} {o : HostObject}

/-- An update goes through from the stored version only. It leaves the other objects, and the object
itself goes with it only when it was to be deleted. -/
theorem lookup_updateStored (st : HostState) (name : String) (o : HostObject) (other : String) :
    (updateStored st name o).2.objects.lookup other = st.objects.lookup other ∨
      other = name ∧ ∃ stored, st.objects.lookup name = some stored ∧
        ((updateStored st name o).2.objects.lookup name =
            some (o.storedAs stored (st.revision + 1)) ∨
          stored.deleting = true ∧ (updateStored st name o).2.objects.lookup name = none) := by
  unfold updateStored
  cases hstored : st.objects.lookup name with
  | none => exact Or.inl rfl
  | some stored =>
    dsimp only
    by_cases hversion : stored.version = o.version
    · rw [if_pos hversion]
      dsimp only
      by_cases hother : other = name
      · refine Or.inr ⟨hother, stored, rfl, ?_⟩
        split
        · next hgone =>
          rw [Bool.and_eq_true] at hgone
          exact Or.inr ⟨hgone.1, AList.lookup_erase name _⟩
        · exact Or.inl (AList.lookup_insert _)
      · left
        split
        · exact AList.lookup_erase_ne hother
        · exact AList.lookup_insert_ne hother
    · rw [if_neg hversion]
      exact Or.inl rfl

/-- An update touches only the stored objects. -/
theorem updateStored_frame (st : HostState) (name : String) (o : HostObject) :
    (updateStored st name o).2.informer = st.informer ∧
      (updateStored st name o).2.hifCache = st.hifCache := by
  unfold updateStored
  split
  · exact ⟨rfl, rfl⟩
  · split
    · exact ⟨rfl, rfl⟩
    · exact ⟨rfl, rfl⟩

theorem createStored_frame (st : HostState) (name : String) :
    (createStored st name).informer = st.informer ∧
      (createStored st name).hifCache = st.hifCache := by
  unfold createStored
  split
  · exact ⟨rfl, rfl⟩
  · exact ⟨rfl, rfl⟩

theorem deleteStored_frame (st : HostState) (name : String) :
    (deleteStored st name).informer = st.informer ∧
      (deleteStored st name).hifCache = st.hifCache := by
  unfold deleteStored
  split
  · exact ⟨rfl, rfl⟩
  · exact ⟨rfl, rfl⟩

theorem eq_of_updateStored {o' : HostObject} (h : (updateStored st name o).1 = .ok o') :
    ∃ stored, st.objects.lookup name = some stored ∧ o' = o.storedAs stored (st.revision + 1) := by
  unfold updateStored at h
  cases hstored : st.objects.lookup name with
  | none =>
    rw [hstored] at h
    cases h
  | some stored =>
    rw [hstored] at h
    dsimp only at h
    split at h
    · cases h
      exact ⟨stored, rfl, rfl⟩
    · cases h

/-- A deleted object goes at once, or it has a deletion timestamp from now on. -/
theorem lookup_deleteStored (st : HostState) (name other : String) :
    (deleteStored st name).objects.lookup other = st.objects.lookup other ∨
      other = name ∧ ((deleteStored st name).objects.lookup name = none ∨
        ∃ stored, st.objects.lookup name = some stored ∧
          (deleteStored st name).objects.lookup name =
            some { stored with deleting := true, version := st.revision + 1 }) := by
  unfold deleteStored
  cases hstored : st.objects.lookup name with
  | none => exact Or.inl rfl
  | some stored =>
    dsimp only
    by_cases hother : other = name
    · refine Or.inr ⟨hother, ?_⟩
      split
      · exact Or.inr ⟨stored, rfl, AList.lookup_insert _⟩
      · exact Or.inl (AList.lookup_erase name _)
    · left
      split
      · exact AList.lookup_insert_ne hother
      · exact AList.lookup_erase_ne hother

/-- A created object is new and empty. -/
theorem lookup_createStored (st : HostState) (hostName other : String) :
    (createStored st hostName).objects.lookup other = st.objects.lookup other ∨
      other = hostName ∧ st.objects.lookup other = none ∧
        (createStored st hostName).objects.lookup other =
          some (initHostInterface hostName (st.revision + 1)) := by
  unfold createStored
  cases hstored : st.objects.lookup hostName with
  | some stored => exact Or.inl rfl
  | none =>
    by_cases hother : other = hostName
    · subst hother
      exact Or.inr ⟨rfl, hstored, AList.lookup_insert _⟩
    · exact Or.inl (AList.lookup_insert_ne hother)

end Stored

end MultiNicCni.Controller
