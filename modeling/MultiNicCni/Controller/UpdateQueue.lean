import MultiNicCni.Controller.Route
import MultiNicCni.Controller.PoolRefinement
import MultiNicCni.Lib.System

/-!
# The queue of CIDR update requests (`controllers/cidr_handler.go`)

Whoever changes the HostInterface cache then calls `UpdateCIDRs`, which sends a ticket on the
bounded channel `UpdateRequestQueue`. The one consumer, `ProcessUpdateRequest`, takes a ticket,
discards the tickets that wait behind it, lists the CIDR cache and runs `updateCIDR` on each
CIDR. `updateCIDR` holds the mutex of the handler, which reconcilers take as well for a new
network (`NewCIDRWithNewConfig`), and for an L3 network it may call `UpdateCIDRs` itself.

`system` interleaves the consumer, the holder of the mutex and any number of producers. The
changes of the HostInterface cache are numbered: `version` counts them, `unsent` has those whose
producer is not through `UpdateCIDRs` yet, `sent` the others, and `read` is the number of the
last change that an `UpdateEntries` snapshot of the consumer could see.

- `updateCIDR_steps`: taken alone, the steps of the consumer are `updateCIDR`;
- `discard_cases`, `call_cases`, `lock_cases`, …: what each step changes;
- `wakeups_kept`: **no wake-up is lost**, unless a pass had nothing to update.

The pools are in `Controller.Synchronizer`; they are written with the mutex held and touch
nothing here.
-/

namespace MultiNicCni.Controller.UpdateQueue

open Go Compute Lib

variable {spec cidrSpec : CIDRSpec} {fuel : Nat} {order : GoMap.RangeOrder String CIDREntry}
  {nodes : Nat → NodeLookup}

/-! ## States -/

/-- Who runs `updateCIDR`: `ProcessUpdateRequest`, or a reconciler by `NewCIDRWithNewConfig`. -/
inductive Caller where
  | consumer
  | reconciler
  deriving DecidableEq, Repr

/-- Where the holder of the mutex is in `updateCIDR`. -/
inductive Progress where
  /-- `UpdateEntries` changed the entries: this is the CIDR to write -/
  | computed (spec : CIDRSpec) (new : Bool)
  /-- the CIDR of an L3 network is written, the status of the network not yet -/
  | stored (spec : CIDRSpec)
  /-- in `UpdateCIDRs`, at the send -/
  | requesting
  deriving DecidableEq, Repr

/-- Where `ProcessUpdateRequest` is. A pass over the CIDRs has `began` at a version of the
HostInterface cache; `taken` says whether it has taken a snapshot of that cache. -/
inductive Consumer where
  | listening
  /-- a ticket is taken, those behind it are being discarded -/
  | draining
  /-- the queue was found empty, the CIDR cache is not listed yet -/
  | drained
  /-- in the loop over the listed CIDRs -/
  | updating (began : Nat) (taken : Bool) (rest : List CIDRSpec)
  /-- `updateCIDR` has found `ConfigReady` and waits for the mutex -/
  | locking (began : Nat) (taken : Bool) (cidrSpec : CIDRSpec) (rest : List CIDRSpec)
  deriving DecidableEq, Repr

structure State where
  /-- the capacity of `UpdateRequestQueue` (`MaxQueueSize`) -/
  capacity : Nat
  /-- `len(h.UpdateRequestQueue)` -/
  waiting : Nat
  /-- the HostInterface cache -/
  hostInterfaces : GoMap String HostInterface
  cidrs : GoMap String CIDRSpec
  cidrCache : GoMap String CIDRSpec
  /-- `IsMultiNICIPAM` of the networks -/
  networks : GoMap String Bool
  configReady : Bool
  consumer : Consumer
  mutex : Option (Caller × Progress)
  version : Nat
  unsent : List Nat
  sent : List Nat
  read : Nat
  /-- the version at which the last pass without any snapshot began -/
  skipped : Nat

variable {s' s : State}

/-- Is the consumer inside `updateCIDR`, with the mutex held? -/
def State.busy (s : State) : Bool :=
  match s.mutex with
  | some (.consumer, _) => true
  | _ => false

/-! ## Steps -/

inductive Action where
  /-- a producer sets an entry of the HostInterface cache, or unsets it -/
  | change (name : String) (hif : Option HostInterface)
  /-- the producer of a change calls `UpdateCIDRs` -/
  | send (v : Nat)
  /-- `UpdateCIDRs`, without a change before -/
  | poke
  | receive
  | drain
  | stopDraining
  | list (order : GoMap.RangeOrder String CIDRSpec)
  | call
  | lock (fuel : Nat) (order : GoMap.RangeOrder String CIDREntry) (nodes : Nat → NodeLookup)
  | finish
  | create (fuel : Nat) (order : GoMap.RangeOrder String CIDREntry) (nodes : Nat → NodeLookup)
      (cidrSpec : CIDRSpec)
  /-- the API server accepts the write of the CIDR, or refuses it -/
  | store (accepted : Bool)
  /-- `SyncAllStatus` returns without an error, or with one -/
  | sync (synced : Bool)
  | request
  /-- reconcilers write the other objects and caches, and `ConfigReady` -/
  | others (cidrs cidrCache : GoMap String CIDRSpec) (networks : GoMap String Bool)
      (configReady : Bool)

/-- `UpdateCIDRs`. The send waits while the queue is full; on a queue without a buffer it waits
for the receiver. -/
def updateCIDRs (s : State) : Option State :=
  if s.waiting < s.capacity then some { s with waiting := s.waiting + 1 }
  else if s.capacity = 0 ∧ s.consumer = .listening then some { s with consumer := .draining }
  else none

/-- `SetCache` or `UnsetCache` of the HostInterface handler. -/
def change (name : String) (hif : Option HostInterface) (s : State) : Option State :=
  let hostInterfaces := match hif with
    | some hif => s.hostInterfaces.insert name hif
    | none => s.hostInterfaces.erase name
  some { s with
    hostInterfaces, version := s.version + 1, unsent := (s.version + 1) :: s.unsent }

def send (v : Nat) (s : State) : Option State :=
  if v ∈ s.unsent then
    (updateCIDRs s).map fun s => { s with unsent := s.unsent.erase v, sent := v :: s.sent }
  else none

/-- `<-h.UpdateRequestQueue`. -/
def receive (s : State) : Option State :=
  match s.consumer with
  | .listening =>
    if 0 < s.waiting then some { s with consumer := .draining, waiting := s.waiting - 1 } else none
  | _ => none

/-- `for len(h.UpdateRequestQueue) > 0 { <-h.UpdateRequestQueue }`, one round. -/
def drain (s : State) : Option State :=
  match s.consumer with
  | .draining => if 0 < s.waiting then some { s with waiting := s.waiting - 1 } else none
  | _ => none

def stopDraining (s : State) : Option State :=
  match s.consumer with
  | .draining => if s.waiting = 0 then some { s with consumer := .drained } else none
  | _ => none

/-- `cidrSnapshot := h.ListCache()`. -/
def list (order : GoMap.RangeOrder String CIDRSpec) (s : State) : Option State :=
  match s.consumer with
  | .drained => some { s with consumer := .updating s.version false (order.values s.cidrCache) }
  | _ => none

/-- `updateCIDR` of the next CIDR, up to the lock: it returns at once without `ConfigReady`. -/
def call (s : State) : Option State :=
  match s.consumer, s.busy with
  | .updating began taken (cidrSpec :: rest), false =>
    some { s with
      consumer := if s.configReady then .locking began taken cidrSpec rest
        else .updating began taken rest }
  | _, _ => none

/-- Lock the mutex and compute the new spec. -/
def computeEntries (caller : Caller) (cidrSpec : CIDRSpec) (new : Bool) (fuel : Nat)
    (order : GoMap.RangeOrder String CIDREntry) (nodes : Nat → NodeLookup) (s : State) :
    Option State :=
  match s.mutex with
  | some _ => none
  | none => do
    let (entriesMap, changed) ← updateEntries fuel cidrSpec
      (sortAddress cidrSpec.config.excludeCIDRs) new s.hostInterfaces nodes
    let spec : CIDRSpec := ⟨cidrSpec.config, order.values entriesMap⟩
    some (if changed then { s with mutex := some (caller, .computed spec new) } else s)

/-- The consumer gets the mutex, and `UpdateEntries` takes its snapshot. -/
def lock (fuel : Nat) (order : GoMap.RangeOrder String CIDREntry) (nodes : Nat → NodeLookup)
    (s : State) : Option State :=
  match s.consumer with
  | .locking began _ cidrSpec rest =>
    (computeEntries .consumer cidrSpec false fuel order nodes s).map fun s =>
      { s with consumer := .updating began true rest, read := s.version }
  | _ => none

/-- The loop over the CIDRs is over. -/
def finish (s : State) : Option State :=
  match s.consumer, s.busy with
  | .updating began taken [], false =>
    some { s with
      consumer := .listening
      skipped := if taken then s.skipped else max s.skipped began }
  | _, _ => none

/-- Create or update the CIDR. The mutex is unlocked here unless the status of an L3 network
is to be synchronized. -/
def store (accepted : Bool) (s : State) : Option State :=
  match s.mutex with
  | some (caller, .computed spec new) =>
    match storeCIDR s.cidrs spec new with
    | .error _ => some { s with mutex := none }
    | .ok cidrs =>
      if accepted then
        some { s with
          cidrs, cidrCache := s.cidrCache.insert spec.config.name spec
          mutex := if isL3Mode (s.networks.lookup spec.config.name) spec.config.vlanMode then
              some (caller, .stored spec)
            else none }
      else some { s with mutex := none }
  | _ => none

/-- `CIDRProcessedHost`: the hosts of the entry that has most of them (`updateStatus`). -/
def cidrProcessedHost (spec : CIDRSpec) : Nat :=
  spec.cidrs.foldl (fun maxNumOfHost entry =>
    if entry.hosts.length > maxNumOfHost then entry.hosts.length else maxNumOfHost) 0

/-- `GetInfoAvailableSize`: the hosts with an interface. -/
def getInfoAvailableSize (hostInterfaces : GoMap String HostInterface) : Nat :=
  hostInterfaces.values.countP fun hif => hif.interfaces.length > 0

/-- `SyncAllStatus`, and whether it calls for another update. -/
def sync (synced : Bool) (s : State) : Option State :=
  match s.mutex with
  | some (caller, .stored spec) =>
    some { s with
      mutex :=
        if synced ∧ cidrProcessedHost spec ≠ getInfoAvailableSize s.hostInterfaces then
          some (caller, .requesting)
        else none }
  | _ => none

/-- `h.UpdateCIDRs()` in `updateCIDR`. -/
def request (s : State) : Option State :=
  match s.mutex with
  | some (_, .requesting) => (updateCIDRs s).map fun s => { s with mutex := none }
  | _ => none

/-- Every interleaving, from any stored objects and caches. -/
def system : System State Action where
  init s := s.waiting = 0 ∧ s.consumer = .listening ∧ s.mutex = none ∧
    s.version = 0 ∧ s.unsent = [] ∧ s.sent = [] ∧ s.read = 0 ∧ s.skipped = 0
  step
    | .change name hif => change name hif
    | .send v => send v
    | .poke => updateCIDRs
    | .receive => receive
    | .drain => drain
    | .stopDraining => stopDraining
    | .list order => list order
    | .call => call
    | .lock fuel order nodes => lock fuel order nodes
    | .finish => finish
    | .create fuel order nodes cidrSpec =>
      computeEntries .reconciler cidrSpec true fuel order nodes
    | .store accepted => store accepted
    | .sync synced => sync synced
    | .request => request
    | .others cidrs cidrCache networks configReady => fun s =>
      some { s with cidrs, cidrCache, networks, configReady }

theorem store_true {caller : Caller} {new : Bool} {cidrs : GoMap String CIDRSpec}
    (hmutex : s.mutex = some (caller, .computed spec new))
    (hstore : storeCIDR s.cidrs spec new = .ok cidrs) :
    ∃ mutex, store true s = some { s with
      cidrs, cidrCache := s.cidrCache.insert spec.config.name spec, mutex } := by
  rw [store, hmutex]
  dsimp only
  rw [hstore]
  exact ⟨_, rfl⟩

/-- **`updateCIDR` alone**: a call that changes the CIDR is a run of the consumer's steps, on
the stored CIDRs and on the cache of them. -/
theorem updateCIDR_steps {st st' : ClusterState} {began : Nat} {taken : Bool} {rest : List CIDRSpec}
    (h : updateCIDR fuel s.configReady order cidrSpec false s.hostInterfaces nodes st =
      some (st', .ok true)) (hcidrs : s.cidrs = st.cidrs) (hcache : s.cidrCache = st.cidrCache)
    (hmutex : s.mutex = none) (hconsumer : s.consumer = .updating began taken (cidrSpec :: rest)) :
    ∃ s', system.exec [.call, .lock fuel order nodes, .store true] s = some s' ∧
      s'.cidrs = st'.cidrs ∧ s'.cidrCache = st'.cidrCache ∧
      s'.consumer = .updating began true rest ∧ s'.read = s.version := by
  have hready : s.configReady = true := by
    cases hr : s.configReady with
    | true => rfl
    | false =>
      rw [hr] at h
      cases h
  rw [hready] at h
  obtain ⟨entriesMap, spec, cidrs, pools, hentries, hspec, hstore, -, rfl⟩ := updateCIDR_eq_ok h
  have hcall : call s = some { s with consumer := .locking began taken cidrSpec rest } := by
    simp [call, State.busy, hconsumer, hmutex, hready]
  let s₂ : State := { s with
    consumer := .updating began true rest, read := s.version
    mutex := some (.consumer, .computed spec false) }
  have hlock : lock fuel order nodes { s with consumer := .locking began taken cidrSpec rest } =
      some s₂ := by
    simp [lock, computeEntries, hmutex, hentries, hspec, s₂]
  rw [← hcidrs] at hstore
  obtain ⟨mutex, hstored⟩ := store_true (s := s₂) rfl hstore
  refine ⟨_, Option.bind_eq_some_iff.mpr ⟨_, hcall, Option.bind_eq_some_iff.mpr
    ⟨_, hlock, Option.bind_eq_some_iff.mpr ⟨_, hstored, rfl⟩⟩⟩, rfl, ?_, rfl, rfl⟩
  show s.cidrCache.insert spec.config.name spec = st.cidrCache.insert cidrSpec.config.name spec
  rw [hcache, hspec]

/-! ## The tickets of a pass -/

/-- Is this the CIDR of a network that `IsL3Mode` can hold of? -/
def mayRequest (cidrSpec : CIDRSpec) : Bool :=
  cidrSpec.config.vlanMode == "l3" || cidrSpec.config.vlanMode == "l3s"

theorem mayRequest_congr {spec' : CIDRSpec} (h : spec.config = spec'.config) :
    mayRequest spec = mayRequest spec' := by
  rw [mayRequest, h, mayRequest]

theorem mayRequest_of_isL3Mode {isMultiNICIPAM : Option Bool}
    (h : isL3Mode isMultiNICIPAM spec.config.vlanMode = true) : mayRequest spec = true := by
  unfold isL3Mode at h
  split at h
  · exact h
  · cases h

/-- The tickets that the holder of the mutex may still send. -/
def owedByHolder : Option (Caller × Progress) → Nat
  | none => 0
  | some (_, .computed spec _) => if mayRequest spec then 1 else 0
  | some (_, .stored _) | some (_, .requesting) => 1

/-- The CIDRs that the pass has not begun. -/
def Consumer.left : Consumer → List CIDRSpec
  | .updating _ _ rest => rest
  | .locking _ _ cidrSpec rest => cidrSpec :: rest
  | _ => []

/-- In a pass the consumer does not receive. -/
def Consumer.inPass : Consumer → Bool
  | .updating .. | .locking .. => true
  | _ => false

/-- The tickets that the pass, and a reconciler in its way, may still send. -/
def State.owed (s : State) : Nat :=
  owedByHolder s.mutex + s.consumer.left.countP mayRequest

/-! ## What a step changes -/

theorem updateCIDRs_cases (h : updateCIDRs s = some s') :
    (s.waiting < s.capacity ∧ s' = { s with waiting := s.waiting + 1 }) ∨
      (s.capacity = 0 ∧ s.consumer = .listening ∧ s' = { s with consumer := .draining }) := by
  unfold updateCIDRs at h
  split at h
  · next hroom =>
    cases h
    exact .inl ⟨hroom, rfl⟩
  · split at h
    · next hlistening =>
      cases h
      exact .inr ⟨hlistening.1, hlistening.2, rfl⟩
    · cases h

/-- `UpdateEntries` leaves the CIDR to the holder of the mutex, if there is anything to write. -/
theorem computeEntries_cases {caller : Caller} {new : Bool}
    (h : computeEntries caller cidrSpec new fuel order nodes s = some s') :
    s.mutex = none ∧ (s' = s ∨ ∃ spec, spec.config = cidrSpec.config ∧
      s' = { s with mutex := some (caller, .computed spec new) }) := by
  unfold computeEntries at h
  split at h
  · cases h
  · next hmutex =>
    obtain ⟨⟨entriesMap, changed⟩, -, h⟩ := Option.bind_eq_some_iff.mp h
    refine ⟨hmutex, ?_⟩
    cases changed with
    | false =>
      cases h
      exact .inl rfl
    | true =>
      cases h
      exact .inr ⟨⟨cidrSpec.config, order.values entriesMap⟩, rfl, rfl⟩

/-- Before a pass the consumer takes tickets out, and nothing else changes. -/
theorem discard_cases (h : receive s = some s' ∨ drain s = some s' ∨ stopDraining s = some s') :
    s.consumer.inPass = false ∧ ∃ waiting consumer, s' = { s with waiting, consumer } ∧
      (consumer = .draining ∨ consumer = .drained) := by
  rcases h with h | h | h
  · unfold receive at h
    split at h
    · next hconsumer =>
      split at h
      · cases h
        exact ⟨by rw [hconsumer]; rfl, _, _, rfl, .inl rfl⟩
      · cases h
    · cases h
  · unfold drain at h
    split at h
    · next hconsumer =>
      split at h
      · cases h
        exact ⟨by rw [hconsumer]; rfl, _, _, rfl, .inl hconsumer⟩
      · cases h
    · cases h
  · unfold stopDraining at h
    split at h
    · next hconsumer =>
      split at h
      · cases h
        exact ⟨by rw [hconsumer]; rfl, _, _, rfl, .inr rfl⟩
      · cases h
    · cases h

theorem list_cases {order : GoMap.RangeOrder String CIDRSpec} (h : list order s = some s') :
    s.consumer = .drained ∧
    s' = { s with consumer := .updating s.version false (order.values s.cidrCache) } := by
  unfold list at h
  split at h
  · next hconsumer =>
    cases h
    exact ⟨hconsumer, rfl⟩
  · cases h

/-- The next CIDR is begun, or skipped. -/
theorem call_cases (h : call s = some s') :
    ∃ began taken cidrSpec rest consumer,
      s.consumer = .updating began taken (cidrSpec :: rest) ∧ s.busy = false ∧
      s' = { s with consumer } ∧
      (consumer = .locking began taken cidrSpec rest ∨ consumer = .updating began taken rest) := by
  unfold call at h
  split at h
  · next began taken cidrSpec rest hconsumer hbusy =>
    cases h
    refine ⟨began, taken, cidrSpec, rest, _, hconsumer, hbusy, rfl, ?_⟩
    split
    · exact .inl rfl
    · exact .inr rfl
  · cases h

/-- The consumer leaves the CIDR to the holder of the mutex, itself, if it is to be written. -/
theorem lock_cases (h : lock fuel order nodes s = some s') :
    ∃ began taken cidrSpec rest mutex, s.consumer = .locking began taken cidrSpec rest ∧
      s.mutex = none ∧
      s' = { s with consumer := .updating began true rest, read := s.version, mutex } ∧
      (mutex = none ∨ ∃ spec, spec.config = cidrSpec.config ∧
        mutex = some (.consumer, .computed spec false)) := by
  unfold lock at h
  split at h
  · next began taken cidrSpec rest hconsumer =>
    obtain ⟨s₁, h₁, rfl⟩ := Option.map_eq_some_iff.mp h
    obtain ⟨hmutex, rfl | ⟨spec, hconfig, rfl⟩⟩ := computeEntries_cases h₁
    · exact ⟨began, taken, cidrSpec, rest, _, hconsumer, hmutex, rfl, .inl hmutex⟩
    · exact ⟨began, taken, cidrSpec, rest, _, hconsumer, hmutex, rfl, .inr ⟨spec, hconfig, rfl⟩⟩
  · cases h

theorem finish_cases (h : finish s = some s') :
    ∃ began taken, s.consumer = .updating began taken [] ∧ s.busy = false ∧
      s' = { s with
        consumer := .listening, skipped := if taken then s.skipped else max s.skipped began } := by
  unfold finish at h
  split at h
  · next began taken hconsumer hbusy =>
    cases h
    exact ⟨began, taken, hconsumer, hbusy, rfl⟩
  · cases h

/-- The holder of the mutex writes the CIDR and the status. It goes on or unlocks the mutex, and
owes no more tickets than before. -/
theorem holder_cases
    (h : (∃ accepted, store accepted s = some s') ∨ ∃ synced, sync synced s = some s') :
    ∃ cidrs cidrCache mutex, s' = { s with cidrs, cidrCache, mutex } ∧
      owedByHolder mutex ≤ owedByHolder s.mutex ∧
      ∀ caller p, mutex = some (caller, p) → ∃ q, s.mutex = some (caller, q) := by
  rcases h with ⟨accepted, h⟩ | ⟨synced, h⟩
  · unfold store at h
    split at h
    · next caller spec new hmutex =>
      split at h
      · cases h
        exact ⟨_, _, none, rfl, Nat.zero_le _, fun _ _ hp => nomatch hp⟩
      · cases accepted with
        | false =>
          cases h
          exact ⟨_, _, none, rfl, Nat.zero_le _, fun _ _ hp => nomatch hp⟩
        | true =>
          cases h
          refine ⟨_, _, _, rfl, ?_⟩
          -- only the CIDR of an L3 network keeps the mutex, and it owed its ticket before
          split
          · next hl3 =>
            refine ⟨?_, ?_⟩
            · simp [owedByHolder, hmutex, mayRequest_of_isL3Mode hl3]
            · rintro caller' p ⟨⟩
              exact ⟨_, hmutex⟩
          · exact ⟨Nat.zero_le _, fun _ _ hp => nomatch hp⟩
    · cases h
  · unfold sync at h
    split at h
    · next caller spec hmutex =>
      cases h
      refine ⟨_, _, _, rfl, ?_⟩
      split
      · refine ⟨?_, ?_⟩
        · rw [hmutex]
          exact Nat.le_refl 1
        · rintro caller' p ⟨⟩
          exact ⟨_, hmutex⟩
      · exact ⟨Nat.zero_le _, fun _ _ hp => nomatch hp⟩
    · cases h

theorem request_cases (h : request s = some s') :
    ∃ caller s₁, s.mutex = some (caller, .requesting) ∧ updateCIDRs s = some s₁ ∧
      s' = { s₁ with mutex := none } := by
  unfold request at h
  split at h
  · next caller hmutex =>
    obtain ⟨s₁, h₁, rfl⟩ := Option.map_eq_some_iff.mp h
    exact ⟨caller, s₁, hmutex, h₁, rfl⟩
  · cases h

/-! ## No wake-up is lost -/

/-- The consumer has taken a ticket and no snapshot since, and it has not listed the CIDRs
before the change `v`. -/
def Consumer.AwaitsSnapshot (v : Nat) : Consumer → Prop
  | .draining | .drained => True
  | .updating began false _ | .locking began false _ _ => v ≤ began
  | _ => False

/-- A change was read, or a pass that reads it is still to come, or the pass for it found no
CIDR to update. -/
def State.Accounted (s : State) (v : Nat) : Prop :=
  v ≤ s.read ∨ 0 < s.waiting ∨ s.consumer.AwaitsSnapshot v ∨ v ≤ s.skipped

/-- The changes are numbered up to `version`, and those with a ticket are accounted for. -/
structure Kept (s : State) : Prop where
  unsent_le : ∀ v ∈ s.unsent, v ≤ s.version
  sent_le : ∀ v ∈ s.sent, v ≤ s.version
  accounted : ∀ v ∈ s.sent, s.Accounted v

/-- A ticket accounts for every change. -/
theorem accounted_updateCIDRs (h : updateCIDRs s = some s') (v : Nat) : s'.Accounted v := by
  rcases updateCIDRs_cases h with ⟨-, rfl⟩ | ⟨-, -, rfl⟩
  · exact .inr (.inl (Nat.succ_pos _))
  · exact .inr (.inr (.inl trivial))

theorem updateCIDRs_changes (h : updateCIDRs s = some s') :
    s'.version = s.version ∧ s'.unsent = s.unsent ∧ s'.sent = s.sent := by
  rcases updateCIDRs_cases h with ⟨-, rfl⟩ | ⟨-, -, rfl⟩
  · exact ⟨rfl, rfl, rfl⟩
  · exact ⟨rfl, rfl, rfl⟩

section Kept

variable (h : Kept s)

include h

theorem kept_change {name : String} {hif : Option HostInterface}
    (hstep : change name hif s = some s') : Kept s' := by
  cases hstep
  refine ⟨?_, fun v hv => Nat.le_succ_of_le (h.sent_le v hv), h.accounted⟩
  intro v hv
  rcases List.mem_cons.mp hv with rfl | hv
  · exact Nat.le_refl _
  · exact Nat.le_succ_of_le (h.unsent_le v hv)

theorem kept_updateCIDRs (hstep : updateCIDRs s = some s') : Kept s' := by
  obtain ⟨hversion, hunsent, hsent⟩ := updateCIDRs_changes hstep
  refine ⟨?_, ?_, fun v _ => accounted_updateCIDRs hstep v⟩
  · rw [hversion, hunsent]
    exact h.unsent_le
  · rw [hversion, hsent]
    exact h.sent_le

theorem kept_send {v : Nat} (hstep : send v s = some s') : Kept s' := by
  unfold send at hstep
  split at hstep
  · next hv =>
    obtain ⟨s₁, h₁, rfl⟩ := Option.map_eq_some_iff.mp hstep
    have hkept := kept_updateCIDRs h h₁
    obtain ⟨hversion, hunsent, hsent⟩ := updateCIDRs_changes h₁
    refine ⟨fun w hw => hkept.unsent_le w (List.mem_of_mem_erase hw), ?_,
      fun w _ => accounted_updateCIDRs h₁ w⟩
    intro w hw
    rcases List.mem_cons.mp hw with rfl | hw
    · exact hkept.unsent_le w (hunsent ▸ hv)
    · exact hkept.sent_le w hw
  · cases hstep

/-- Up to the snapshots the consumer accounts for every change, whatever it discards. -/
theorem kept_discard
    (hstep : receive s = some s' ∨ drain s = some s' ∨ stopDraining s = some s') : Kept s' := by
  obtain ⟨-, waiting, consumer, rfl, rfl | rfl⟩ := discard_cases hstep
  · exact ⟨h.unsent_le, h.sent_le, fun v _ => .inr (.inr (.inl trivial))⟩
  · exact ⟨h.unsent_le, h.sent_le, fun v _ => .inr (.inr (.inl trivial))⟩

/-- The CIDRs are listed after every change that has its ticket. -/
theorem kept_list {order : GoMap.RangeOrder String CIDRSpec} (hstep : list order s = some s') :
    Kept s' := by
  obtain ⟨-, rfl⟩ := list_cases hstep
  exact ⟨h.unsent_le, h.sent_le, fun v hv => .inr (.inr (.inl (h.sent_le v hv)))⟩

/-- The next CIDR, begun or skipped, leaves `began` and `taken` as they were. -/
theorem kept_call (hstep : call s = some s') : Kept s' := by
  obtain ⟨began, taken, cidrSpec, rest, consumer, hconsumer, -, rfl, hnext⟩ := call_cases hstep
  refine ⟨h.unsent_le, h.sent_le, fun v hv => ?_⟩
  have hawaits : s.consumer.AwaitsSnapshot v → consumer.AwaitsSnapshot v := by
    rw [hconsumer]
    rcases hnext with rfl | rfl
    · cases taken <;> exact id
    · cases taken <;> exact id
  exact (h.accounted v hv).imp_right (Or.imp_right (Or.imp_left hawaits))

/-- A snapshot reads every change. -/
theorem kept_lock (hstep : lock fuel order nodes s = some s') : Kept s' := by
  obtain ⟨_, _, _, _, _, -, -, rfl, -⟩ := lock_cases hstep
  exact ⟨h.unsent_le, h.sent_le, fun v hv => .inl (h.sent_le v hv)⟩

theorem kept_finish (hstep : finish s = some s') : Kept s' := by
  obtain ⟨began, taken, hconsumer, -, rfl⟩ := finish_cases hstep
  refine ⟨h.unsent_le, h.sent_le, fun v hv => ?_⟩
  have haccounted := h.accounted v hv
  unfold State.Accounted at haccounted
  rw [hconsumer] at haccounted
  rcases haccounted with hread | hwaiting | hawaits | hskipped
  · exact .inl hread
  · exact .inr (.inl hwaiting)
  · -- the pass took no snapshot: it began after the change
    cases taken with
    | true => exact hawaits.elim
    | false => exact .inr (.inr (.inr (le_max_of_le_right hawaits)))
  · refine .inr (.inr (.inr ?_))
    cases taken with
    | true => exact hskipped
    | false => exact le_max_of_le_left hskipped

/-- The holder of the mutex touches neither the changes nor the consumer. -/
theorem kept_holder
    (hstep : (∃ accepted, store accepted s = some s') ∨ ∃ synced, sync synced s = some s') :
    Kept s' := by
  obtain ⟨_, _, _, rfl, -⟩ := holder_cases hstep
  exact ⟨h.unsent_le, h.sent_le, h.accounted⟩

theorem kept_request (hstep : request s = some s') : Kept s' := by
  obtain ⟨_, s₁, -, h₁, rfl⟩ := request_cases hstep
  have hkept := kept_updateCIDRs h h₁
  exact ⟨hkept.unsent_le, hkept.sent_le, hkept.accounted⟩

theorem kept_step {a : Action} (hstep : system.step a s = some s') : Kept s' := by
  cases a with
  | change name hif => exact kept_change h hstep
  | send v => exact kept_send h hstep
  | poke => exact kept_updateCIDRs h hstep
  | receive => exact kept_discard h (.inl hstep)
  | drain => exact kept_discard h (.inr (.inl hstep))
  | stopDraining => exact kept_discard h (.inr (.inr hstep))
  | list order => exact kept_list h hstep
  | call => exact kept_call h hstep
  | lock fuel order nodes => exact kept_lock h hstep
  | finish => exact kept_finish h hstep
  | create fuel order nodes cidrSpec =>
    rcases (computeEntries_cases hstep).2 with rfl | ⟨spec, -, rfl⟩
    · exact h
    · exact ⟨h.unsent_le, h.sent_le, h.accounted⟩
  | store accepted => exact kept_holder h (.inl ⟨accepted, hstep⟩)
  | sync synced => exact kept_holder h (.inr ⟨synced, hstep⟩)
  | request => exact kept_request h hstep
  | others cidrs cidrCache networks configReady =>
    cases hstep
    exact ⟨h.unsent_le, h.sent_le, h.accounted⟩

end Kept

theorem kept_of_init (h : system.init s) : Kept s := by
  obtain ⟨-, -, -, -, hunsent, hsent, -⟩ := h
  refine ⟨?_, ?_, ?_⟩
  · rw [hunsent]
    exact List.forall_mem_nil _
  · rw [hsent]
    exact List.forall_mem_nil _
  · rw [hsent]
    exact List.forall_mem_nil _

/-- **No wake-up is lost by coalescing.** In every state reached, a change of the HostInterface
cache whose producer is through `UpdateCIDRs` was read by a snapshot, or a ticket waits, or the
consumer has taken a ticket and no snapshot since, or a pass that began after the change took no
snapshot: the CIDR cache was empty, or `ConfigReady` not set. -/
theorem wakeups_kept {s : State} (h : system.Reaches s) {v : Nat} (hv : v ∈ s.sent) :
    v ≤ s.read ∨ 0 < s.waiting ∨ s.consumer.AwaitsSnapshot v ∨ v ≤ s.skipped :=
  (h.invariant (fun _ => kept_of_init) fun _ _ _ hkept hstep => kept_step hkept hstep).accounted
    v hv

/-- A controller that was just started: nothing is cached and stored, no host is known. -/
def started (capacity : Nat) : State where
  capacity := capacity
  waiting := 0
  hostInterfaces := ∅
  cidrs := ∅
  cidrCache := ∅
  networks := ∅
  configReady := true
  consumer := .listening
  mutex := none
  version := 0
  unsent := []
  sent := []
  read := 0
  skipped := 0

theorem init_started (capacity : Nat) : system.init (started capacity) :=
  ⟨rfl, rfl, rfl, rfl, rfl, rfl, rfl, rfl⟩

/-- A host with one interface. -/
def hostA : HostInterface where
  hostName := "a"
  interfaces := [{ interfaceName := "eth1", netAddress := "10.0.0.0/16", hostIP := "10.0.0.1" }]

/-- The L3 network of `smallNet`, no host placed yet, cached and stored. -/
def l3State (capacity : Nat) : State :=
  let cidr : CIDRSpec := ⟨{ smallNet with vlanMode := "l3" }, [smallEntry []]⟩
  { started capacity with
    cidrs := (∅ : GoMap String CIDRSpec).insert "net" cidr
    cidrCache := (∅ : GoMap String CIDRSpec).insert "net" cidr
    networks := (∅ : GoMap String Bool).insert "net" true }

/-- Two hosts are found, of which one has no interface in the network; then a pass stores the
CIDR. -/
def twoHosts : List Action :=
  [.change "a" (some ⟨"a", [⟨"eth1", "192.168.0.0/24", "192.168.0.1"⟩]⟩), .send 1,
    .change "b" (some ⟨"b", [⟨"eth1", "172.16.0.0/24", "172.16.0.1"⟩]⟩), .send 2,
    .receive, .drain, .stopDraining, .list .listed, .call, .lock 8 .listed (fun _ => .failed),
    .store true]

theorem init_l3State (capacity : Nat) : system.init (l3State capacity) :=
  ⟨rfl, rfl, rfl, rfl, rfl, rfl, rfl, rfl⟩

/-- Two tickets are sent and one of them is drained; the snapshot of the pass reads both changes. The
ticket of a third change waits. -/
theorem wakeups_kept_drained : ∃ s, system.Reaches s ∧ s.sent = [3, 2, 1] ∧ s.read = 2 ∧
    s.waiting = 1 ∧ ∀ v ∈ s.sent,
      v ≤ s.read ∨ 0 < s.waiting ∨ s.consumer.AwaitsSnapshot v ∨ v ≤ s.skipped := by
  have hexec : (system.exec (twoHosts ++ [.change "c" none, .send 3]) (l3State 100)).map
      (fun s => (s.sent, s.read, s.waiting)) = some ([3, 2, 1], 2, 1) := by decide +kernel
  obtain ⟨s, hs, hview⟩ := Option.map_eq_some_iff.mp hexec
  obtain ⟨hsent, hread, hwaiting⟩ : s.sent = [3, 2, 1] ∧ s.read = 2 ∧ s.waiting = 1 := by
    simpa using hview
  have hreaches : system.Reaches s := .exec (.init (init_l3State 100)) hs
  exact ⟨s, hreaches, hsent, hread, hwaiting, fun v hv => wakeups_kept hreaches hv⟩

/-- Without a cached CIDR the pass for a change takes no snapshot: the ticket is gone, the
consumer listens again, and nothing has read the change. -/
theorem wakeup_without_snapshot : ∃ s, system.Reaches s ∧ 1 ∈ s.sent ∧
    s.read = 0 ∧ s.waiting = 0 ∧ s.consumer = .listening := by
  have hexec : (system.exec [.change "a" (some hostA), .send 1, .receive, .stopDraining,
      .list .listed, .finish] (started 100)).map
        (fun s => (s.sent, s.read, s.waiting, s.consumer)) =
      some ([1], 0, 0, .listening) := by decide +kernel
  obtain ⟨s, hs, hview⟩ := Option.map_eq_some_iff.mp hexec
  obtain ⟨hsent, hread, hwaiting, hconsumer⟩ : s.sent = [1] ∧ s.read = 0 ∧ s.waiting = 0 ∧
      s.consumer = .listening := by simpa using hview
  refine ⟨s, .exec (.init (init_started 100)) hs, ?_, hread, hwaiting, hconsumer⟩
  rw [hsent]
  exact List.mem_singleton_self 1

end MultiNicCni.Controller.UpdateQueue
