import MultiNicCni.Controller.HostObjects

/-!
# What the programs for the HostInterface objects keep

The programs of `HostObjects.lean` pass copies of objects around: they read one from the informer or
from a cache, go on with it while others work, and write it to the API server or to a cache. So an
invariant of the shared state comes with a property of the copies.

- `Guards`: an invariant and a property of the copies that every call keeps, where an object is
  written or deleted only if it may be;
- `HostAnswers.Fits`, `WatchAnswers.Fits`, `InitAnswers.Fits`: what the invariant asks of the answers
  from outside;
- `Guards.updateInterfaces`, `Guards.reconcileHostInterface`, `Guards.processPodQueue`,
  `Guards.initHostInterfaceCache`, `Guards.synchronizeHosts`: **every program keeps a guarded
  invariant, whatever the others do in between**;
- `HostProgram`, `HostOutside`, `hostSetting`: all that happens to the objects and the caches;
- `unmanaged_untouched`: **an object with the label of the unmanaged ones is never written and never
  deleted, in any interleaving and with any answers.**
-/

namespace MultiNicCni.Controller

open Go Lib

variable {MayDelete MayWrite : String → Prop} {o : HostObject} {a : InitAnswers} {name : String}
  {Fine : String → HostObject → Prop} {Stored : String → Option HostObject → Prop} {st : HostState}
  {original : GoMap String HostObject}

/-- Every stored object is as `Stored` says, and every copy as `Fine` says. -/
structure Guarded (Fine : String → HostObject → Prop) (Stored : String → Option HostObject → Prop)
    (st : HostState) : Prop where
  stored : ∀ name, Stored name (st.objects.lookup name)
  objects : ∀ name o, st.objects.lookup name = some o → Fine name o
  informer : ∀ name o, st.informer.lookup name = some o → Fine name o
  cached : ∀ name o, st.hifCache.lookup name = some o → Fine name o

/-- The calls keep `Guarded`, where the objects that are written and deleted may be. -/
structure Guards (Fine : String → HostObject → Prop) (Stored : String → Option HostObject → Prop)
    (MayWrite MayDelete : String → Prop) : Prop where
  named : ∀ {name o}, Fine name o → isUnmanaged o.labels = false → o.hostName = name
  writable : ∀ {name o}, Fine name o → isUnmanaged o.labels = false → MayWrite name
  finalizer : ∀ {name o} finalizer, Fine name o → Fine name { o with finalizer }
  storedAs : ∀ {name o stored} version, Fine name o → Fine name stored →
    Fine name (o.storedAs stored version)
  put : ∀ {name} o, MayWrite name → Stored name (some o)
  gone : ∀ {name o}, MayWrite name → Fine name o → o.deleting = true → Stored name none
  init : ∀ {name} version, Stored name none → Fine name (initHostInterface name version) ∧
    Stored name (some (initHostInterface name version))
  removed : ∀ {name} x, MayDelete name → Stored name x
  deleted : ∀ {name o} version, MayDelete name → Fine name o →
    Fine name { o with deleting := true, version }

section Answers

variable (Fine : String → HostObject → Prop) (MayDelete : String → Prop)

/-- The objects of this name may be deleted if the node is said to be missing. -/
def SparesUnless (missing : Prop) (name : String) : Prop :=
  missing → ∀ o, Fine name o → isUnmanaged o.labels = false → MayDelete name

/-- The answers during an `UpdateInterfaces` for an object of this name. -/
structure HostAnswers.Fits (name : String) (a : HostAnswers) : Prop where
  node : SparesUnless Fine MayDelete (a.node = .notFound) name
  report : ∀ news, a.interfaces = some news → ∀ o, Fine name o →
    Fine name { o with interfaces := (updateNewInterfaces a.order o.interfaces news).1 }

def WatchAnswers.Fits (a : WatchAnswers) : Prop :=
  ∀ nodeName, SparesUnless Fine MayDelete (a.node nodeName = .notFound) nodeName

def InitAnswers.Fits (a : InitAnswers) : Prop :=
  ∀ name, SparesUnless Fine MayDelete ((a.node name).isError = true) name

end Answers

/-! ## The calls -/

section Calls

theorem keeps_getHostInterface (reachable : Bool) (name : String) :
    (getHostInterface reachable name).Keeps (Guarded Fine Stored)
      fun r => ∀ o, r = .ok o → Fine name o := by
  refine Prog.keeps_read fun st hst o hr => ?_
  cases reachable with
  | false => cases hr
  | true =>
    rw [if_pos rfl] at hr
    cases hl : st.informer.lookup name with
    | none =>
      rw [hl] at hr
      cases hr
    | some o' =>
      rw [hl] at hr
      cases hr
      exact hst.informer name _ hl

/-- A write that keeps an invariant when it is carried out keeps it in any case. -/
theorem keeps_apply {α : Type} (w : Write) {f : HostState → Except WriteError α × HostState}
    {I : HostState → Prop} {Q : α → Prop} (hst : I st) (hQ : ∀ a, (f st).1 = .ok a → Q a)
    (hf : I (f st).2) : (∀ a, (w.apply f st).1 = .ok a → Q a) ∧ I (w.apply f st).2 := by
  cases w with
  | refused => exact ⟨nofun, hst⟩
  | unheard => exact ⟨nofun, hf⟩
  | heard => exact ⟨hQ, hf⟩

theorem keeps_setHostCache (hfine : Fine name o) :
    (setHostCache name o).Keeps (Guarded Fine Stored) fun _ => True := by
  refine Prog.keeps_modify fun st hst => ⟨hst.stored, hst.objects, hst.informer, ?_⟩
  intro other o' ho'
  rcases GoMap.lookup_insert_cases ho' with ⟨rfl, rfl⟩ | ⟨-, ho'⟩
  · exact hfine
  · exact hst.cached other o' ho'

theorem Guarded.erase_cache (h : Guarded Fine Stored st) (name : String) :
    Guarded Fine Stored { st with hifCache := st.hifCache.erase name } := by
  refine ⟨h.stored, h.objects, h.informer, fun other o ho => ?_⟩
  by_cases hother : other = name
  · rw [hother, AList.lookup_erase] at ho
    cases ho
  · rw [AList.lookup_erase_ne hother] at ho
    exact h.cached other o ho

theorem keeps_updateCIDRs : updateCIDRs.Keeps (Guarded Fine Stored) fun _ => True :=
  Prog.keeps_modify fun _ hst => ⟨hst.stored, hst.objects, hst.informer, hst.cached⟩

theorem keeps_setDaemonCache (d : DaemonEntry) :
    (setDaemonCache d).Keeps (Guarded Fine Stored) fun _ => True :=
  Prog.keeps_modify fun _ hst => ⟨hst.stored, hst.objects, hst.informer, hst.cached⟩

theorem keeps_unsetDaemonCache (nodeName : String) :
    (unsetDaemonCache nodeName).Keeps (Guarded Fine Stored) fun _ => True :=
  Prog.keeps_modify fun _ hst => ⟨hst.stored, hst.objects, hst.informer, hst.cached⟩

theorem keeps_enqueue (pod : PodObject) : (Prog.modify fun st : HostState =>
    { st with podQueue := st.podQueue ++ [pod] }).Keeps (Guarded Fine Stored) fun _ => True :=
  Prog.keeps_modify fun _ hst => ⟨hst.stored, hst.objects, hst.informer, hst.cached⟩

/-! ## The programs that leave the objects alone -/

theorem keeps_tryGetDaemonPod (podList : Option (List PodObject)) (nodeName : String) :
    (tryGetDaemonPod podList nodeName).Keeps (Guarded Fine Stored) fun _ => True := by
  refine Prog.keeps_read_bind fun st _ => ?_
  cases st.daemonCache.lookup nodeName with
  | some daemonPod => exact trivial
  | none =>
    dsimp only
    split
    · exact trivial
    · exact trivial
    · split
      · exact (keeps_setDaemonCache _).bind fun _ _ => trivial
      · exact trivial

theorem keeps_callFinalizer (name : String) :
    (callFinalizer name).Keeps (Guarded Fine Stored) fun _ => True :=
  (Prog.keeps_modify fun _ hst => hst.erase_cache name).bind fun _ _ => keeps_updateCIDRs

theorem keeps_cacheIfMissing (hfine : Fine name o) :
    (cacheIfMissing name o).Keeps (Guarded Fine Stored) fun _ => True := by
  refine Prog.keeps_read_bind fun _ _ => ?_
  split
  · exact keeps_setHostCache hfine
  · exact trivial

theorem keeps_podUpdated (prevPod pod : PodObject) :
    (podUpdated prevPod pod).Keeps (Guarded Fine Stored) fun _ => True := by
  unfold podUpdated
  split
  · refine Prog.keeps_read_bind fun _ _ => ?_
    split
    · exact keeps_enqueue pod
    · exact trivial
  · exact trivial

theorem keeps_podDeleted (pod : PodObject) :
    (podDeleted pod).Keeps (Guarded Fine Stored) fun _ => True := by
  unfold podDeleted
  split
  · exact keeps_enqueue pod
  · exact trivial

theorem keeps_updateCurrentList (initialList : List PodObject) :
    (updateCurrentList initialList).Keeps (Guarded Fine Stored) fun _ => True := by
  refine Prog.keeps_each fun existingDaemon _ => ?_
  split
  · exact keeps_setDaemonCache _
  · exact trivial

end Calls

/-! ## The programs that write objects -/

namespace Guards

variable (G : Guards Fine Stored MayWrite MayDelete)

include G

theorem update (h : Guarded Fine Stored st) (hfine : Fine name o) (hmay : MayWrite name) :
    Guarded Fine Stored (updateStored st name o).2 := by
  obtain ⟨hinformer, hcache⟩ := updateStored_frame st name o
  refine ⟨fun other => ?_, fun other o' ho' => ?_, hinformer ▸ h.informer, hcache ▸ h.cached⟩
  · rcases lookup_updateStored st name o other with
      heq | ⟨rfl, stored, hstored, heq | ⟨hdeleting, heq⟩⟩
    · rw [heq]
      exact h.stored other
    · rw [heq]
      exact G.put _ hmay
    · rw [heq]
      exact G.gone hmay (h.objects other stored hstored) hdeleting
  · rcases lookup_updateStored st name o other with
      heq | ⟨rfl, stored, hstored, heq | ⟨-, heq⟩⟩
    · exact h.objects other o' (heq ▸ ho')
    · rw [heq] at ho'
      cases ho'
      exact G.storedAs _ hfine (h.objects other stored hstored)
    · rw [heq] at ho'
      cases ho'

theorem create (h : Guarded Fine Stored st) (name : String) :
    Guarded Fine Stored (createStored st name) := by
  obtain ⟨hinformer, hcache⟩ := createStored_frame st name
  refine ⟨fun other => ?_, fun other o' ho' => ?_, hinformer ▸ h.informer, hcache ▸ h.cached⟩
  · rcases lookup_createStored st name other with heq | ⟨rfl, hnone, heq⟩
    · rw [heq]
      exact h.stored other
    · rw [heq]
      exact (G.init _ (hnone ▸ h.stored other)).2
  · rcases lookup_createStored st name other with heq | ⟨rfl, hnone, heq⟩
    · exact h.objects other o' (heq ▸ ho')
    · rw [heq] at ho'
      cases ho'
      exact (G.init _ (hnone ▸ h.stored other)).1

theorem delete (h : Guarded Fine Stored st) (hmay : MayDelete name) :
    Guarded Fine Stored (deleteStored st name) := by
  obtain ⟨hinformer, hcache⟩ := deleteStored_frame st name
  refine ⟨fun other => ?_, fun other o' ho' => ?_, hinformer ▸ h.informer, hcache ▸ h.cached⟩
  · rcases lookup_deleteStored st name other with heq | ⟨rfl, -⟩
    · rw [heq]
      exact h.stored other
    · exact G.removed _ hmay
  · rcases lookup_deleteStored st name other with heq | ⟨rfl, heq | ⟨stored, hstored, heq⟩⟩
    · exact h.objects other o' (heq ▸ ho')
    · rw [heq] at ho'
      cases ho'
    · rw [heq] at ho'
      cases ho'
      exact G.deleted _ hmay (h.objects other stored hstored)

theorem clientUpdate (w : Write) (hfine : Fine name o) (hmay : MayWrite name) :
    (Controller.clientUpdate w name o).Keeps (Guarded Fine Stored) fun r =>
      ∀ o', r = .ok o' → Fine name o' ∧ o'.labels = o.labels :=
  Prog.keeps_atomic fun _ hst =>
    keeps_apply w hst (fun o' ho' => by
      obtain ⟨stored, hstored, rfl⟩ := eq_of_updateStored ho'
      exact ⟨G.storedAs _ hfine (hst.objects name stored hstored), rfl⟩) (G.update hst hfine hmay)

theorem createHostInterface (w : Write) (hostName : String) :
    (Controller.createHostInterface w hostName).Keeps (Guarded Fine Stored) fun _ => True :=
  Prog.keeps_modify fun _ hst => (keeps_apply w hst (fun _ _ => trivial) (G.create hst hostName)).2

theorem deleteHostInterface (get : Bool) (w : Write) (hmay : MayDelete name) :
    (Controller.deleteHostInterface get w name).Keeps (Guarded Fine Stored) fun _ => True := by
  refine (keeps_getHostInterface get name).bind fun r _ => ?_
  cases r with
  | error e => exact trivial
  | ok o =>
    exact Prog.keeps_modify fun _ hst =>
      (keeps_apply w hst (fun _ _ => trivial) (G.delete hst hmay)).2

theorem mergeInterfaces {a : HostAnswers} (ha : a.Fits Fine MayDelete name) (hfine : Fine name o)
    (hmanaged : isUnmanaged o.labels = false) :
    (Controller.mergeInterfaces a name o).Keeps (Guarded Fine Stored) fun _ => True := by
  unfold Controller.mergeInterfaces
  cases hnews : a.interfaces with
  | none => exact trivial
  | some news =>
    have hmerged := ha.report news hnews o hfine
    dsimp only
    split
    · refine (G.clientUpdate a.update hmerged (G.writable hfine hmanaged)).bind fun r hr => ?_
      cases r with
      | error e => exact trivial
      | ok updatedHif =>
        exact (keeps_setHostCache (hr updatedHif rfl).1).bind fun _ _ => keeps_updateCIDRs
    · exact trivial

theorem updateInterfaces {a : HostAnswers} (ha : a.Fits Fine MayDelete name) (hfine : Fine name o) :
    (Controller.updateInterfaces a name o).Keeps (Guarded Fine Stored) fun _ => True := by
  unfold Controller.updateInterfaces
  split
  · exact keeps_updateCIDRs
  next hmanaged =>
  rw [Bool.not_eq_true] at hmanaged
  refine (keeps_tryGetDaemonPod a.podList o.hostName).bind fun r _ => ?_
  cases r with
  | some pod =>
    dsimp only
    split
    · exact trivial
    · exact G.mergeInterfaces ha hfine hmanaged
  | none =>
    dsimp only
    split
    · exact trivial
    · split
      · exact trivial
      · next hnode =>
        -- the object is deleted by the name of its host, which is its own name
        rw [G.named hfine hmanaged]
        exact (keeps_unsetDaemonCache name).bind fun _ _ =>
          G.deleteHostInterface a.get a.delete (ha.node hnode o hfine hmanaged)
      · exact trivial

theorem removeFinalizer (hmay : MayWrite name) (attempts : List (Bool × Write)) :
    (Controller.removeFinalizer name attempts).Keeps (Guarded Fine Stored) fun _ => True := by
  induction attempts with
  | nil => exact trivial
  | cons attempt attempts ih =>
    refine (keeps_getHostInterface attempt.1 name).bind fun r hr => ?_
    cases r with
    | error e => exact trivial
    | ok o =>
      refine (G.clientUpdate attempt.2 (G.finalizer false (hr o rfl)) hmay).bind fun r _ => ?_
      cases r with
      | ok o' => exact trivial
      | error e =>
        cases e with
        | conflict => exact ih
        | other => exact trivial

theorem addFinalizer (w : Write) (hfine : Fine name o) (hmanaged : isUnmanaged o.labels = false) :
    (Controller.addFinalizer w name o).Keeps (Guarded Fine Stored) fun r =>
      ∀ o', r = some o' → Fine name o' ∧ o'.labels = o.labels := by
  unfold Controller.addFinalizer
  split
  · rintro o' ⟨⟩
    exact ⟨hfine, rfl⟩
  · refine (G.clientUpdate w (G.finalizer true hfine) (G.writable hfine hmanaged)).bind
      fun r hr => ?_
    cases r with
    | error e => exact fun o' ho' => by cases ho'
    | ok o₁ =>
      rintro _ ⟨⟩
      exact hr o₁ rfl

theorem reconcileManaged {a : ReconcileAnswers} (ha : a.host.Fits Fine MayDelete name)
    (hfine : Fine name o) (hmanaged : isUnmanaged o.labels = false) :
    (Controller.reconcileManaged a name o).Keeps (Guarded Fine Stored) fun _ => True := by
  unfold Controller.reconcileManaged
  split
  · exact (keeps_callFinalizer name).bind fun _ _ =>
      G.removeFinalizer (G.writable hfine hmanaged) a.attempts
  · refine (keeps_cacheIfMissing hfine).bind fun _ _ => ?_
    split
    · exact G.updateInterfaces ha hfine
    · exact trivial

theorem reconcileHostInterface {a : ReconcileAnswers} (ha : a.host.Fits Fine MayDelete name) :
    (Controller.reconcileHostInterface a name).Keeps (Guarded Fine Stored) fun _ => True := by
  refine (keeps_getHostInterface a.get name).bind fun r hr => ?_
  cases r with
  | error e => exact trivial
  | ok o =>
    have hfine := hr o rfl
    dsimp only
    split
    · exact (keeps_setHostCache hfine).bind fun _ _ => keeps_updateCIDRs
    next hmanaged =>
    rw [Bool.not_eq_true] at hmanaged
    refine (G.addFinalizer a.addFinalizer hfine hmanaged).bind fun r hr => ?_
    cases r with
    | none => exact trivial
    | some o' =>
      obtain ⟨hfine', hlabels⟩ := hr o' rfl
      exact G.reconcileManaged ha hfine' (hlabels ▸ hmanaged)

theorem createHostInterfaceInfo (a : WatchAnswers) (nodeName : String) :
    (Controller.createHostInterfaceInfo a nodeName).Keeps (Guarded Fine Stored) fun _ => True := by
  refine (keeps_getHostInterface a.get nodeName).bind fun r _ => ?_
  cases r with
  | ok o => exact trivial
  | error e =>
    cases e with
    | notFound => exact G.createHostInterface a.create nodeName
    | other => exact trivial

theorem processPod {a : WatchAnswers} (ha : a.Fits Fine MayDelete) (daemon : PodObject) :
    (Controller.processPod a daemon).Keeps (Guarded Fine Stored) fun _ => True := by
  unfold Controller.processPod
  split
  · exact (keeps_setDaemonCache _).bind fun _ _ => G.createHostInterfaceInfo a daemon.nodeName
  split
  · next hnode =>
    refine (keeps_unsetDaemonCache _).bind fun _ _ => (keeps_getHostInterface a.get _).bind fun r hr => ?_
    cases r with
    | error e => exact trivial
    | ok hif =>
      dsimp only
      split
      · next hmanaged =>
        rw [Bool.not_eq_true'] at hmanaged
        exact G.deleteHostInterface _ _ (ha daemon.nodeName hnode hif (hr hif rfl) hmanaged)
      · exact trivial
  · exact trivial

theorem processPodQueue {a : WatchAnswers} (ha : a.Fits Fine MayDelete) :
    (Controller.processPodQueue a).Keeps (Guarded Fine Stored) fun _ => True := by
  have htake : (Prog.atomic fun st : HostState =>
      (st.podQueue.head?, { st with podQueue := st.podQueue.tail })).Keeps (Guarded Fine Stored)
        fun _ => True :=
    Prog.keeps_atomic fun _ hst => ⟨trivial, ⟨hst.stored, hst.objects, hst.informer, hst.cached⟩⟩
  refine htake.bind fun r _ => ?_
  cases r with
  | none => exact trivial
  | some daemon => exact G.processPod ha daemon

theorem initObject (ha : a.Fits Fine MayDelete) (hfine : Fine name o) :
    (Controller.initObject a name o).Keeps (Guarded Fine Stored) fun _ => True := by
  refine Prog.keeps_read_bind fun _ _ => ?_
  split
  · next hgone =>
    rw [Bool.and_eq_true, Bool.and_eq_true, Bool.not_eq_true' (isUnmanaged o.labels)] at hgone
    exact G.deleteHostInterface _ _ (ha name hgone.1.2 o hfine hgone.2)
  · exact keeps_setHostCache hfine

theorem initObjects (ha : a.Fits Fine MayDelete) {listed : List ((_ : String) × HostObject)}
    (hlisted : ∀ e ∈ listed, Fine e.1 e.2) :
    (Controller.initObjects a listed).Keeps (Guarded Fine Stored) fun _ => True := by
  induction listed with
  | nil => exact trivial
  | cons e rest ih =>
    obtain ⟨hfine, hrest⟩ := List.forall_mem_cons.mp hlisted
    unfold Controller.initObjects
    split
    · exact trivial
    · exact (G.initObject ha hfine).bind fun _ _ => ih hrest

theorem initHostInterfaceCache (ha : a.Fits Fine MayDelete) :
    (Controller.initHostInterfaceCache a).Keeps (Guarded Fine Stored) fun _ => True := by
  unfold Controller.initHostInterfaceCache
  split
  swap
  · exact trivial
  have hlist : (Prog.read fun st : HostState => st.informer).Keeps (Guarded Fine Stored)
      fun listObjects =>
      ∀ e ∈ a.order.entries listObjects, Fine e.1 e.2 :=
    Prog.keeps_read fun st hst e he =>
      hst.informer e.1 e.2 (GoMap.lookup_of_mem ((a.order.perm st.informer).mem_iff.mp he))
  refine hlist.bind fun listObjects hlisted => (G.initObjects ha hlisted).bind fun _ _ => ?_
  refine Prog.keeps_read_bind fun _ _ => ?_
  refine Prog.keeps_each fun e _ => ?_
  split
  · exact trivial
  · exact G.createHostInterface _ _

theorem synchronizeHosts (ready : Bool) (order : GoMap.EntryOrder String HostObject)
    {a : String → HostAnswers} (ha : ∀ name, (a name).Fits Fine MayDelete name) :
    (Controller.synchronizeHosts ready order a).Keeps (Guarded Fine Stored) fun _ => True := by
  unfold Controller.synchronizeHosts
  split
  swap
  · exact trivial
  have hlist : (Prog.read fun st : HostState => st.hifCache).Keeps (Guarded Fine Stored) fun snapshot =>
      ∀ e ∈ order.entries snapshot, Fine e.1 e.2 :=
    Prog.keeps_read fun st hst e he =>
      hst.cached e.1 e.2 (GoMap.lookup_of_mem ((order.perm st.hifCache).mem_iff.mp he))
  exact hlist.bind fun snapshot hsnapshot => Prog.keeps_each fun e he =>
    G.updateInterfaces (ha e.1) (hsnapshot e he)

end Guards

/-! ## All that happens -/

/-- What is answered from outside. -/
structure Answering where
  host : String → HostAnswers → Prop
  watch : WatchAnswers → Prop
  init : InitAnswers → Prop

/-- The goroutines that work on the objects. -/
inductive HostProgram (A : Answering) : HostProg Unit → Prop
  | reconcile {a : ReconcileAnswers} {name : String} : A.host name a.host →
      HostProgram A (reconcileHostInterface a name)
  | podUpdated (prevPod pod : PodObject) : HostProgram A (podUpdated prevPod pod)
  | podDeleted (pod : PodObject) : HostProgram A (podDeleted pod)
  | watch {a : WatchAnswers} : A.watch a → HostProgram A (processPodQueue a)
  | list (initialList : List PodObject) : HostProgram A (updateCurrentList initialList)
  | init {a : InitAnswers} : A.init a → HostProgram A (initHostInterfaceCache a)
  | synchronize {a : String → HostAnswers} (ready : Bool)
      (order : GoMap.EntryOrder String HostObject) : (∀ name, A.host name (a name)) →
      HostProgram A (synchronizeHosts ready order a)

/-- What is known under a name is replaced by what is stored there. -/
def catchUp (informer : GoMap String HostObject) (name : String) :
    Option HostObject → GoMap String HostObject
  | some o => informer.insert name o
  | none => informer.erase name

/-- The informer catches up with an object. -/
def HostState.delivered (st : HostState) (name : String) : HostState :=
  { st with informer := catchUp st.informer name (st.objects.lookup name) }

/-- An object is written by someone else. -/
def HostState.written (st : HostState) (name : String) (o : HostObject) : HostState :=
  { st with
    objects := st.objects.insert name { o with version := st.revision + 1 }
    revision := st.revision + 1 }

/-- The controller is restarted. -/
def HostState.restarted (st : HostState) : HostState :=
  { st with informer := ∅, hifCache := ∅, daemonCache := ∅, podQueue := [] }

/-- What others do with the objects of some names. A managed object has the name of its host. -/
inductive HostOutside (Foreign : String → Prop) : HostState → HostState → Prop
  | deliver {st : HostState} (name : String) : HostOutside Foreign st (st.delivered name)
  | write {st : HostState} {name : String} {o : HostObject} : Foreign name →
      (isUnmanaged o.labels = false → o.hostName = name) →
      HostOutside Foreign st (st.written name o)
  | delete {st : HostState} {name : String} : Foreign name →
      HostOutside Foreign st (deleteStored st name)

def hostSetting (A : Answering) (Foreign : String → Prop) : Threads.Setting HostState where
  starts := HostProgram A
  outside := HostOutside Foreign
  crash st st' := st' = st.restarted

section Setting

theorem Guarded.delivered (h : Guarded Fine Stored st) (name : String) :
    Guarded Fine Stored (st.delivered name) := by
  refine ⟨h.stored, h.objects, fun other o ho => ?_, h.cached⟩
  have ho : (catchUp st.informer name (st.objects.lookup name)).lookup other = some o := ho
  cases hname : st.objects.lookup name with
  | some o' =>
    rw [hname] at ho
    rcases GoMap.lookup_insert_cases ho with ⟨rfl, rfl⟩ | ⟨-, ho⟩
    · exact h.objects other o hname
    · exact h.informer other o ho
  | none =>
    rw [hname] at ho
    by_cases hother : other = name
    · rw [hother, catchUp, AList.lookup_erase] at ho
      cases ho
    · rw [catchUp, AList.lookup_erase_ne hother] at ho
      exact h.informer other o ho

theorem Guarded.written (h : Guarded Fine Stored st)
    (hstored : ∀ version, Stored name (some { o with version }))
    (hfine : ∀ version, Fine name { o with version }) :
    Guarded Fine Stored (st.written name o) := by
  refine ⟨fun other => ?_, fun other o' ho' => ?_, h.informer, h.cached⟩
  · show Stored other ((st.objects.insert name _).lookup other)
    by_cases hother : other = name
    · rw [hother, AList.lookup_insert]
      exact hstored _
    · rw [AList.lookup_insert_ne hother]
      exact h.stored other
  · rcases GoMap.lookup_insert_cases ho' with ⟨rfl, rfl⟩ | ⟨-, ho'⟩
    · exact hfine _
    · exact h.objects other o' ho'

theorem Guarded.restarted (h : Guarded Fine Stored st) : Guarded Fine Stored st.restarted :=
  ⟨h.stored, h.objects, fun _ _ ho => (by cases ho), fun _ _ ho => (by cases ho)⟩

/-- The answers fit the guards. -/
structure Answering.Fits (A : Answering) (Fine : String → HostObject → Prop)
    (MayDelete : String → Prop) : Prop where
  host : ∀ name a, A.host name a → a.Fits Fine MayDelete name
  watch : ∀ a, A.watch a → a.Fits Fine MayDelete
  init : ∀ a, A.init a → a.Fits Fine MayDelete

theorem Guards.hostProgram (G : Guards Fine Stored MayWrite MayDelete) {A : Answering}
    (hA : A.Fits Fine MayDelete) {p : HostProg Unit} (h : HostProgram A p) :
    p.Keeps (Guarded Fine Stored) fun _ => True := by
  cases h with
  | reconcile ha => exact G.reconcileHostInterface (hA.host _ _ ha)
  | podUpdated prevPod pod => exact keeps_podUpdated prevPod pod
  | podDeleted pod => exact keeps_podDeleted pod
  | watch ha => exact G.processPodQueue (hA.watch _ ha)
  | list initialList => exact keeps_updateCurrentList initialList
  | init ha => exact G.initHostInterfaceCache (hA.init _ ha)
  | synchronize ready order ha => exact G.synchronizeHosts ready order fun name => hA.host _ _ (ha name)

/-- Guarded objects stay so if nobody else touches those that may not be deleted. -/
theorem Guards.setting (G : Guards Fine Stored MayWrite MayDelete) {A : Answering}
    (hA : A.Fits Fine MayDelete) {Foreign : String → Prop}
    (hforeign : ∀ name, Foreign name → MayDelete name)
    (hfine : ∀ name o, Foreign name → (isUnmanaged o.labels = false → o.hostName = name) →
      Fine name o) : (hostSetting A Foreign).Keeps (Guarded Fine Stored) where
  starts _ h := G.hostProgram hA h
  outside st st' hout h := by
    cases hout with
    | deliver name => exact h.delivered name
    | write hname hnamed =>
      exact h.written (fun _ => G.removed _ (hforeign _ hname)) fun _ => hfine _ _ hname hnamed
    | delete hname => exact G.delete h (hforeign _ hname)
  crash st st' hcrash h := by
    obtain rfl := hcrash
    exact h.restarted

end Setting

/-! ## The unmanaged objects -/

/-- Any answers. -/
def Answering.any : Answering := ⟨fun _ _ => True, fun _ => True, fun _ => True⟩

/-- There is no unmanaged object of this name at first. -/
def Unlabelled (original : GoMap String HostObject) (name : String) : Prop :=
  ∀ o, original.lookup name = some o → isUnmanaged o.labels = false

/-- A managed object has the name of its host, and it is not among the unmanaged ones of the start. -/
def UnmanagedFine (original : GoMap String HostObject) (name : String) (o : HostObject) : Prop :=
  isUnmanaged o.labels = false → o.hostName = name ∧ Unlabelled original name

/-- The unmanaged objects are those of the start. -/
def UnmanagedStored (original : GoMap String HostObject) (name : String)
    (stored : Option HostObject) : Prop :=
  ∀ o, original.lookup name = some o → isUnmanaged o.labels = true → stored = some o

section Unmanaged

theorem Unlabelled.stored (h : Unlabelled original name) (stored : Option HostObject) :
    UnmanagedStored original name stored := by
  intro o ho hunmanaged
  rw [h o ho] at hunmanaged
  cases hunmanaged

theorem unmanagedGuards (original : GoMap String HostObject) :
    Guards (UnmanagedFine original) (UnmanagedStored original) (Unlabelled original)
      (Unlabelled original) where
  named hfine hmanaged := (hfine hmanaged).1
  writable hfine hmanaged := (hfine hmanaged).2
  finalizer _ hfine := hfine
  storedAs _ hfine _ := hfine
  put _ hmay := hmay.stored _
  gone hmay _ _ := hmay.stored _
  init {name} _ hnone := by
    refine ⟨fun _ => ⟨rfl, fun o ho => ?_⟩, fun o ho hunmanaged => ?_⟩
    · rw [← Bool.not_eq_true]
      intro hunmanaged
      cases hnone o ho hunmanaged
    · cases hnone o ho hunmanaged
  removed _ hmay := hmay.stored _
  deleted _ _ hfine := hfine

/-- A managed copy is never one of an unmanaged object, so no answer can lead to its deletion. -/
theorem any_fits (original : GoMap String HostObject) :
    Answering.any.Fits (UnmanagedFine original) (Unlabelled original) where
  host _ _ _ := ⟨fun _ _ hfine hmanaged => (hfine hmanaged).2, fun _ _ _ hfine => hfine⟩
  watch _ _ _ _ _ hfine hmanaged := (hfine hmanaged).2
  init _ _ _ _ _ hfine hmanaged := (hfine hmanaged).2

/-- **Unmanaged objects are the user's.** From a start of the controller with every managed object
under the name of its host, whatever is answered and however the goroutines interleave and are
restarted, an unmanaged object is stored as it was, unless someone else changes it. -/
theorem unmanaged_untouched {st : HostState} {Foreign : String → Prop}
    (hstart : st.informer = ∅ ∧ st.hifCache = ∅)
    (hnamed : ∀ name o, st.objects.lookup name = some o → isUnmanaged o.labels = false →
      o.hostName = name)
    (hforeign : ∀ name, Foreign name → Unlabelled st.objects name) {t : Threads HostState}
    (hsteps : Relation.ReflTransGen (Threads.Step (hostSetting .any Foreign)) ⟨st, []⟩ t) :
    ∀ name o, st.objects.lookup name = some o → isUnmanaged o.labels = true →
      t.shared.objects.lookup name = some o := by
  have hguarded : Guarded (UnmanagedFine st.objects) (UnmanagedStored st.objects) st := by
    refine ⟨fun _ o ho _ => ho, fun name o ho hmanaged => ⟨hnamed name o ho hmanaged, ?_⟩, ?_, ?_⟩
    · intro o' ho'
      rw [ho] at ho'
      cases ho'
      exact hmanaged
    · rw [hstart.1]
      exact fun _ _ ho => by cases ho
    · rw [hstart.2]
      exact fun _ _ ho => by cases ho
  have hsetting := (unmanagedGuards st.objects).setting (any_fits st.objects) hforeign
    fun name _ hname hown hmanaged => ⟨hown hmanaged, hforeign name hname⟩
  have hsafe := Threads.Safe.steps hsetting (.idle hguarded) hsteps
  exact fun name o ho hunmanaged => hsafe.shared.stored name o ho hunmanaged

end Unmanaged

/-- An unmanaged object for the host `b`. -/
def ownObject : HostObject := ⟨AList.singleton unmanagedLabelName "True", false, false, 1, "b", []⟩

/-- The daemon pod of `b` is deleted. -/
def deletedPod : PodObject :=
  ⟨"multi-nicd-b", "b", "10.0.0.2", AList.singleton "app" "multi-nicd", [], true⟩

def watched : HostState := ⟨AList.singleton "b" ownObject, 1, ∅, ∅, ∅, [deletedPod], 0⟩

/-- The node of `b` is gone: the watcher comes to the end of the queue and leaves the object. -/
theorem unmanaged_untouched_watched : ∃ t : Threads HostState,
    Relation.ReflTransGen (Threads.Step (hostSetting .any fun _ => False)) ⟨watched, []⟩ t ∧
    t.shared.podQueue.length = 0 ∧ t.shared.objects.lookup "b" = some ownObject := by
  let program := processPodQueue ⟨true, .heard, fun _ => .notFound, true, .heard⟩
  have hsteps : Relation.ReflTransGen (Threads.Step (hostSetting .any fun _ => False)) ⟨watched, []⟩
      ⟨(program.run (watched.delivered "b")).2, [.pure ()]⟩ :=
    .head (.outside (.deliver "b")) (Threads.steps_start (HostProgram.watch trivial))
  refine ⟨_, hsteps, by decide +kernel, ?_⟩
  have hnamed : ∀ name o, watched.objects.lookup name = some o → isUnmanaged o.labels = false →
      o.hostName = name := by
    intro name o ho hmanaged
    rcases GoMap.lookup_insert_cases (m := (∅ : GoMap String HostObject)) ho with
      ⟨rfl, rfl⟩ | ⟨-, ho⟩
    · rfl
    · cases ho
  exact unmanaged_untouched ⟨rfl, rfl⟩ hnamed (fun _ => False.elim) hsteps "b" ownObject rfl
    (by decide +kernel)

end MultiNicCni.Controller
