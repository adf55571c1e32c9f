import MultiNicCni.Controller.PoolRefinement
import MultiNicCni.Lib.System

/-!
# The periodic synchronizer beside `updateCIDR` (`controllers/synchronizer.go`)

At every tick the synchronizer takes a snapshot of the CIDR cache, then one of the IPPool
cache, and calls `CleanPendingIPPools` for each CIDR of the first on the pools of the second.
It holds no lock. Meanwhile `updateCIDR`, one call at a time under the mutex of the handler,
stores a new CIDR, caches it, cleans the pools and creates the new ones, and the IPPool
reconciler copies stored pools into the IPPool cache.

`system` interleaves the three, one access to the API server or to a cache at a time. A loop
over a Go map takes the elements in any order.

- `updateCIDR_steps`, `runPeriodicUpdate_steps`: taken alone, the steps of `updateCIDR` and
  of the synchronizer are the functions;
- `InTime`: no PodCIDR is added behind the back of a cleaning synchronizer;
- `clean_spares_stored`: **in a run whose steps are all in time, no pool of a host of the
  stored CIDR is deleted**;
- `clean_deletes_new_pool`: a run that adds a host between the two snapshots, and in which the
  synchronizer deletes the new pool of that host.
-/

namespace MultiNicCni.Controller.Synchronizer

open Go Compute Lib

variable {cidrs : GoMap String CIDRSpec} {defName : String} {spec cidrSpec : CIDRSpec}
  {order : GoMap.RangeOrder String CIDREntry} {hosts : GoMap String HostInterface}
  {nodes : Nat → NodeLookup}

/-! ## Steps -/

/-- Where `updateCIDR` is. It holds the mutex unless `idle`. -/
inductive Updater where
  | idle
  /-- the entries are computed and the IPPool cache is listed -/
  | computed (spec : CIDRSpec) (new : Bool) (ippoolSnapshot : GoMap String IPPoolSpec)
  /-- the CIDR is stored and not cached yet -/
  | stored (spec : CIDRSpec) (ippoolSnapshot : GoMap String IPPoolSpec)
  /-- `CleanPendingIPPools` has these pools left; was the CIDR written? -/
  | cleaning (spec : CIDRSpec) (written : Bool) (rest : List IPPoolSpec)
  /-- `UpdateIPPools` has these hosts left -/
  | creating (spec : CIDRSpec) (rest : List (CIDREntry × HostInterfaceInfo))

/-- A pool of the synchronizer's snapshot, to be checked against a CIDR of the other. -/
structure Check where
  defName : String
  spec : CIDRSpec
  ippool : IPPoolSpec

/-- Where the synchronizer is in its tick. -/
inductive Phase where
  | idle
  /-- the CIDR cache is listed, the IPPool cache not yet -/
  | listed (cidrSnapshot : GoMap String CIDRSpec)
  /-- `CleanPendingIPPools`, for all CIDRs together, has these checks left -/
  | cleaning (rest : List Check)

structure State where
  cluster : ClusterState
  updater : Updater
  synchronizer : Phase
  /-- the answer to the `Get` of the IPPool reconciler, by the name it asked for -/
  reconciler : Option (String × Option IPPool)

inductive Action where
  | compute (fuel : Nat) (order : GoMap.RangeOrder String CIDREntry) (cidrSpec : CIDRSpec)
      (new : Bool) (hosts : GoMap String HostInterface) (nodes : Nat → NodeLookup)
  /-- the API server accepts the write of the CIDR, or refuses it -/
  | store (accepted : Bool)
  | setCache
  | clean (i : Nat)
  | create
  | listCIDRs
  | listPools
  | syncClean (i : Nat)
  | getPool (name : String)
  | cachePool

/-- Lock the mutex and compute the new spec. -/
def compute (fuel : Nat) (order : GoMap.RangeOrder String CIDREntry) (cidrSpec : CIDRSpec)
    (new : Bool) (hosts : GoMap String HostInterface) (nodes : Nat → NodeLookup) (s : State) :
    Option State :=
  match s.updater with
  | .idle => do
    let (entriesMap, changed) ←
      updateEntries fuel cidrSpec (sortAddress cidrSpec.config.excludeCIDRs) new hosts nodes
    let spec : CIDRSpec := ⟨cidrSpec.config, order.values entriesMap⟩
    some (if changed then { s with updater := .computed spec new s.cluster.poolCache } else s)
  | _ => none

/-- Create or update the CIDR. When that fails, the pools are cleaned all the same. -/
def store (accepted : Bool) (s : State) : Option State :=
  match s.updater with
  | .computed spec new ippoolSnapshot =>
    match storeCIDR s.cluster.cidrs spec new with
    | .error _ => some { s with updater := .idle }
    | .ok cidrs =>
      if accepted then
        some { s with
          cluster := { s.cluster with cidrs }
          updater := .stored spec ippoolSnapshot }
      else some { s with updater := .cleaning spec false ippoolSnapshot.values }
  | _ => none

def setCache (s : State) : Option State :=
  match s.updater with
  | .stored spec ippoolSnapshot =>
    some { s with
      cluster := { s.cluster with cidrCache := s.cluster.cidrCache.insert spec.config.name spec }
      updater := .cleaning spec true ippoolSnapshot.values }
  | _ => none

/-- The body of the loop of `CleanPendingIPPools`. -/
def cleanIPPool (defName : String) (newCIDR : CIDRSpec) (pools : GoMap String IPPool)
    (ippool : IPPoolSpec) : GoMap String IPPool :=
  if isPending defName newCIDR ippool then
    deleteIPPool pools ippool.netAttachDefName ippool.podCIDR
  else pools

/-- `updateCIDR` checks a pool. After the last one it goes on to the new pools, or returns
the error of the write. -/
def clean (i : Nat) (s : State) : Option State :=
  match s.updater with
  | .cleaning spec written [] =>
    some { s with updater := if written then .creating spec (hostsOf spec.cidrs) else .idle }
  | .cleaning spec written rest => do
    let ippool ← rest[i]?
    some { s with
      cluster := { s.cluster with
        pools := cleanIPPool spec.config.name spec s.cluster.pools ippool }
      updater := .cleaning spec written (rest.eraseIdx i) }
  | _ => none

/-- `UpdateIPPool` for the next host; after the last one the mutex is unlocked. -/
def create (s : State) : Option State :=
  match s.updater with
  | .creating _ [] => some { s with updater := .idle }
  | .creating spec ((entry, host) :: rest) => do
    let pools ← updateIPPool s.cluster.pools spec.config.name host.podCIDR entry.vlanCIDR
      host.hostName host.interfaceName (sortAddress spec.config.excludeCIDRs)
    some { s with cluster := { s.cluster with pools }, updater := .creating spec rest }
  | _ => none

/-- `cidrSnapshot := cidrHandler.ListCache()`. -/
def listCIDRs (s : State) : Option State :=
  match s.synchronizer with
  | .idle => some { s with synchronizer := .listed s.cluster.cidrCache }
  | _ => none

/-- The checks of the synchronizer's loop: every pool against every CIDR. -/
def checks (cidrSnapshot : GoMap String CIDRSpec) (ippoolSnapshot : GoMap String IPPoolSpec) :
    List Check :=
  cidrSnapshot.entries.flatMap fun e => ippoolSnapshot.values.map fun ippool => ⟨e.1, e.2, ippool⟩

/-- `ippoolSnapshot := cidrHandler.IPPoolHandler.ListCache()`. -/
def listPools (s : State) : Option State :=
  match s.synchronizer with
  | .listed cidrSnapshot =>
    some { s with synchronizer := .cleaning (checks cidrSnapshot s.cluster.poolCache) }
  | _ => none

/-- The synchronizer checks a pool; after the last one the tick is over. -/
def syncClean (i : Nat) (s : State) : Option State :=
  match s.synchronizer with
  | .cleaning [] => some { s with synchronizer := .idle }
  | .cleaning rest => do
    let check ← rest[i]?
    some { s with
      cluster := { s.cluster with
        pools := cleanIPPool check.defName check.spec s.cluster.pools check.ippool }
      synchronizer := .cleaning (rest.eraseIdx i) }
  | _ => none

/-- The IPPool reconciler asks for a pool. -/
def getPool (name : String) (s : State) : Option State :=
  match s.reconciler with
  | none => some { s with reconciler := some (name, s.cluster.pools.lookup name) }
  | some _ => none

/-- The IPPool reconciler writes the cache. -/
def cachePool (s : State) : Option State :=
  match s.reconciler with
  | some answer =>
    some { s with
      cluster := { s.cluster with poolCache := reconcileIPPool s.cluster.poolCache answer }
      reconciler := none }
  | none => none

/-- Every interleaving, from any stored objects and caches. -/
def system : System State Action where
  init s := s.updater = .idle ∧ s.synchronizer = .idle ∧ s.reconciler = none
  step
    | .compute fuel order cidrSpec new hosts nodes => compute fuel order cidrSpec new hosts nodes
    | .store accepted => store accepted
    | .setCache => setCache
    | .clean i => clean i
    | .create => create
    | .listCIDRs => listCIDRs
    | .listPools => listPools
    | .syncClean i => syncClean i
    | .getPool name => getPool name
    | .cachePool => cachePool

/-- The pool that `CleanPendingIPPools` deletes in a step, if it does. -/
def deleted : Action → State → Option IPPoolSpec
  | .clean i, s =>
    match s.updater with
    | .cleaning spec _ rest => rest[i]?.filter (isPending spec.config.name spec)
    | _ => none
  | .syncClean i, s =>
    match s.synchronizer with
    | .cleaning rest =>
      (rest[i]?.filter fun c => isPending c.defName c.spec c.ippool).map (·.ippool)
    | _ => none
  | _, _ => none

/-! ## One process alone -/

/-- The part of `RunPeriodicUpdate` that touches the pools. -/
def runPeriodicUpdate (st : ClusterState) : ClusterState :=
  { st with
    pools := st.cidrCache.entries.foldl
      (fun pools e => cleanPendingIPPools st.poolCache e.1 e.2 pools) st.pools }

theorem exec_syncClean (rest : List Check) (s : State) (h : s.synchronizer = .cleaning rest) :
    system.exec (List.replicate (rest.length + 1) (.syncClean 0)) s =
      some { s with
        cluster := { s.cluster with
          pools := rest.foldl (fun pools c => cleanIPPool c.defName c.spec pools c.ippool)
            s.cluster.pools }
        synchronizer := .idle } := by
  induction rest generalizing s with
  | nil =>
    show (syncClean 0 s).bind _ = _
    rw [syncClean, h]
    rfl
  | cons c rest ih =>
    show (syncClean 0 s).bind _ = _
    rw [syncClean, h]
    exact ih _ rfl

/-- **The synchronizer alone** does what `RunPeriodicUpdate` says. -/
theorem runPeriodicUpdate_steps (st : ClusterState) (u : Updater)
    (r : Option (String × Option IPPool)) :
    system.exec ([.listCIDRs, .listPools] ++
        List.replicate ((checks st.cidrCache st.poolCache).length + 1) (.syncClean 0))
      ⟨st, u, .idle, r⟩ = some ⟨runPeriodicUpdate st, u, .idle, r⟩ := by
  have hlisted : system.exec [.listCIDRs, .listPools] ⟨st, u, .idle, r⟩ =
      some ⟨st, u, .cleaning (checks st.cidrCache st.poolCache), r⟩ := rfl
  rw [System.exec_append, hlisted, Option.bind_some, exec_syncClean _ _ rfl]
  simp only [checks, List.foldl_flatMap, List.foldl_map]
  rfl

theorem exec_clean (spec : CIDRSpec) (rest : List IPPoolSpec) (s : State)
    (h : s.updater = .cleaning spec true rest) :
    system.exec (List.replicate (rest.length + 1) (.clean 0)) s =
      some { s with
        cluster := { s.cluster with
          pools := rest.foldl (cleanIPPool spec.config.name spec) s.cluster.pools }
        updater := .creating spec (hostsOf spec.cidrs) } := by
  induction rest generalizing s with
  | nil =>
    show (clean 0 s).bind _ = _
    rw [clean, h]
    rfl
  | cons ippool rest ih =>
    show (clean 0 s).bind _ = _
    rw [clean, h]
    exact ih _ rfl

theorem exec_create (spec : CIDRSpec) (rest : List (CIDREntry × HostInterfaceInfo)) (s : State)
    (h : s.updater = .creating spec rest) {pools : GoMap String IPPool}
    (hpools : rest.foldlM (fun pools p => updateIPPool pools spec.config.name p.2.podCIDR
      p.1.vlanCIDR p.2.hostName p.2.interfaceName (sortAddress spec.config.excludeCIDRs))
      s.cluster.pools = some pools) :
    system.exec (List.replicate (rest.length + 1) .create) s =
      some { s with cluster := { s.cluster with pools }, updater := .idle } := by
  induction rest generalizing s with
  | nil =>
    show (create s).bind _ = _
    rw [create, h]
    cases hpools
    rfl
  | cons p rest ih =>
    obtain ⟨pools₁, h₁, h₂⟩ := foldlM_cons_eq_some.mp hpools
    show (create s).bind _ = _
    rw [create, h]
    simp only [h₁]
    exact ih _ rfl h₂

/-- **`updateCIDR` alone**: a call that changes the CIDR is a run of its steps. -/
theorem updateCIDR_steps {fuel : Nat} {configReady : Bool} {new : Bool} {st st' : ClusterState}
    (h : updateCIDR fuel configReady order cidrSpec new hosts nodes st = some (st', .ok true))
    (p : Phase) (r : Option (String × Option IPPool)) :
    ∃ pools hostCount, system.exec ([.compute fuel order cidrSpec new hosts nodes, .store true,
        .setCache] ++ (List.replicate pools (.clean 0) ++ List.replicate hostCount .create))
      ⟨st, .idle, p, r⟩ = some ⟨st', .idle, p, r⟩ := by
  obtain ⟨entriesMap, spec, cidrs, pools, hentries, hspec, hstore, hpools, rfl⟩ :=
    updateCIDR_eq_ok h
  have hconfig : spec.config = cidrSpec.config := by rw [hspec]
  rw [← hconfig, updateIPPools_eq] at hpools
  -- the first three steps bring `updateCIDR` to the loop of `CleanPendingIPPools`
  have hfirst : system.exec [.compute fuel order cidrSpec new hosts nodes, .store true, .setCache]
      ⟨st, .idle, p, r⟩ =
        some ⟨{ st with cidrs, cidrCache := st.cidrCache.insert spec.config.name spec },
          .cleaning spec true st.poolCache.values, p, r⟩ := by
    have hcompute : compute fuel order cidrSpec new hosts nodes ⟨st, .idle, p, r⟩ =
        some ⟨st, .computed spec new st.poolCache, p, r⟩ := by
      simp [compute, hentries, hspec]
    have hstored : store true ⟨st, .computed spec new st.poolCache, p, r⟩ =
        some ⟨{ st with cidrs }, .stored spec st.poolCache, p, r⟩ := by
      simp [store, hstore]
    exact Option.bind_eq_some_iff.mpr ⟨_, hcompute, Option.bind_eq_some_iff.mpr ⟨_, hstored, rfl⟩⟩
  refine ⟨st.poolCache.values.length + 1, (hostsOf spec.cidrs).length + 1, ?_⟩
  rw [System.exec_append, hfirst, Option.bind_some, System.exec_append,
    exec_clean spec _ _ rfl, Option.bind_some, exec_create spec _ _ rfl hpools, hconfig]

/-! ## In time -/

/-- The pod CIDRs of the hosts of the stored CIDR of a network. -/
def storedPods (cidrs : GoMap String CIDRSpec) (defName : String) : List String :=
  ((cidrs.lookup defName).map podCIDRsOf).getD []

/-- A spec of the network has every pod CIDR that the stored one has. -/
def Covers (cidrs : GoMap String CIDRSpec) (defName : String) (spec : CIDRSpec) : Prop :=
  ∀ pod ∈ storedPods cidrs defName, pod ∈ podCIDRsOf spec

instance (cidrs : GoMap String CIDRSpec) (defName : String) (spec : CIDRSpec) :
    Decidable (Covers cidrs defName spec) :=
  inferInstanceAs (Decidable (∀ pod ∈ storedPods cidrs defName, _))

/-- May a CIDR be stored while the synchronizer is in this phase? Before the pools are listed
it must not have a new pod CIDR; afterwards, not that of a pool which is still to be checked. -/
def Phase.Allows (spec : CIDRSpec) : Phase → Prop
  | .idle => True
  | .listed cidrSnapshot => ∀ old ∈ cidrSnapshot.lookup spec.config.name,
      ∀ pod ∈ podCIDRsOf spec, pod ∈ podCIDRsOf old
  | .cleaning rest => ∀ c ∈ rest, c.defName = spec.config.name →
      c.ippool.podCIDR ∈ podCIDRsOf spec → c.ippool.podCIDR ∈ podCIDRsOf c.spec

instance (spec : CIDRSpec) : (p : Phase) → Decidable (p.Allows spec)
  | .idle => inferInstanceAs (Decidable True)
  | .listed cidrSnapshot => inferInstanceAs (Decidable
      (∀ old ∈ cidrSnapshot.lookup spec.config.name, ∀ pod ∈ podCIDRsOf spec, _))
  | .cleaning rest => inferInstanceAs (Decidable (∀ c ∈ rest, _ → _ → _))

/-- May the API server answer the write in this way? A refused spec must not have fewer pod
CIDRs than the stored one. -/
def StoreInTime (accepted : Bool) (s : State) : Updater → Prop
  | .computed spec _ _ =>
    if accepted then s.synchronizer.Allows spec else Covers s.cluster.cidrs spec.config.name spec
  | _ => True

instance (accepted : Bool) (s : State) : (u : Updater) → Decidable (StoreInTime accepted s u)
  | .computed spec _ _ => inferInstanceAs (Decidable (if accepted then s.synchronizer.Allows spec
      else Covers s.cluster.cidrs spec.config.name spec))
  | .idle | .stored _ _ | .cleaning _ _ _ | .creating _ _ => inferInstanceAs (Decidable True)

/-- The step is in time: the stored CIDR gets no pod CIDR that the synchronizer will not know
of, and the CIDR cache is not listed while it lacks a stored pod CIDR. -/
def InTime : Action → State → Prop
  | .store accepted, s => StoreInTime accepted s s.updater
  | .listCIDRs, s => ∀ e ∈ s.cluster.cidrCache.entries, Covers s.cluster.cidrs e.1 e.2
  | _, _ => True

instance : (a : Action) → (s : State) → Decidable (InTime a s)
  | .store accepted, s => inferInstanceAs (Decidable (StoreInTime accepted s s.updater))
  | .listCIDRs, s => inferInstanceAs (Decidable (∀ e ∈ s.cluster.cidrCache.entries, _))
  | .compute .., _ | .setCache, _ | .clean _, _ | .create, _ | .listPools, _ | .syncClean _, _
  | .getPool _, _ | .cachePool, _ => inferInstanceAs (Decidable True)

/-! ## The invariant -/

/-- What `updateCIDR` cleans against has every stored pod CIDR. -/
def Updater.Ok (cidrs : GoMap String CIDRSpec) : Updater → Prop
  | .stored spec _ => cidrs.lookup spec.config.name = some spec
  | .cleaning spec _ _ => Covers cidrs spec.config.name spec
  | _ => True

/-- What the synchronizer cleans against has every stored pod CIDR, of the pools it has yet
to check. -/
def Phase.Ok (cidrs : GoMap String CIDRSpec) : Phase → Prop
  | .idle => True
  | .listed cidrSnapshot => ∀ e ∈ cidrSnapshot.entries, Covers cidrs e.1 e.2
  | .cleaning rest => ∀ c ∈ rest, c.ippool.podCIDR ∈ storedPods cidrs c.defName →
      c.ippool.podCIDR ∈ podCIDRsOf c.spec

def State.Ok (s : State) : Prop :=
  s.updater.Ok s.cluster.cidrs ∧ s.synchronizer.Ok s.cluster.cidrs

theorem covers_of_lookup (h : cidrs.lookup defName = some spec) : Covers cidrs defName spec := by
  intro pod hpod
  rw [storedPods, h] at hpod
  exact hpod

theorem storedPods_insert_ne {name : String} (spec : CIDRSpec) (h : defName ≠ name) :
    storedPods (cidrs.insert name spec) defName = storedPods cidrs defName := by
  rw [storedPods, AList.lookup_insert_ne h, storedPods]

theorem storedPods_insert (cidrs : GoMap String CIDRSpec) (name : String) (spec : CIDRSpec) :
    storedPods (cidrs.insert name spec) name = podCIDRsOf spec := by
  rw [storedPods, AList.lookup_insert]
  rfl

/-- A store that the phase allows keeps the synchronizer's snapshots good. -/
theorem Phase.Ok.store {p : Phase} (h : p.Ok cidrs) (hallows : p.Allows spec) :
    p.Ok (cidrs.insert spec.config.name spec) := by
  cases p with
  | idle => trivial
  | listed cidrSnapshot =>
    intro e he pod hpod
    by_cases hname : e.1 = spec.config.name
    · rw [hname, storedPods_insert] at hpod
      refine hallows e.2 ?_ pod hpod
      rw [← hname]
      exact AList.mem_lookup_iff.mpr he
    · rw [storedPods_insert_ne spec hname] at hpod
      exact h e he pod hpod
  | cleaning rest =>
    intro c hc hpod
    by_cases hname : c.defName = spec.config.name
    · rw [hname, storedPods_insert] at hpod
      exact hallows c hc hname hpod
    · rw [storedPods_insert_ne spec hname] at hpod
      exact h c hc hpod

theorem mem_checks {cidrSnapshot : GoMap String CIDRSpec} {ippoolSnapshot : GoMap String IPPoolSpec}
    {c : Check} (h : c ∈ checks cidrSnapshot ippoolSnapshot) :
    (⟨c.defName, c.spec⟩ : (_ : String) × CIDRSpec) ∈ cidrSnapshot.entries := by
  obtain ⟨e, he, hc⟩ := List.mem_flatMap.mp h
  obtain ⟨ippool, -, rfl⟩ := List.mem_map.mp hc
  exact he

section Preservation

variable {s s' : State} (h : s.Ok)

include h

theorem ok_compute {fuel : Nat} {new : Bool}
    (hstep : compute fuel order cidrSpec new hosts nodes s = some s') : s'.Ok := by
  unfold compute at hstep
  split at hstep
  · obtain ⟨⟨entriesMap, changed⟩, -, hstep⟩ := Option.bind_eq_some_iff.mp hstep
    cases changed with
    | false =>
      cases hstep
      exact h
    | true =>
      cases hstep
      exact ⟨trivial, h.2⟩
  · cases hstep

theorem ok_store {accepted : Bool} (htime : InTime (.store accepted) s)
    (hstep : store accepted s = some s') : s'.Ok := by
  unfold store at hstep
  split at hstep
  · next spec new ippoolSnapshot hupdater =>
    have htime : StoreInTime accepted s s.updater := htime
    rw [hupdater] at htime
    split at hstep
    · cases hstep
      exact ⟨trivial, h.2⟩
    · next cidrs hstored =>
      obtain rfl := storeCIDR_eq_ok hstored
      cases accepted with
      | true =>
        cases hstep
        exact ⟨AList.lookup_insert _, h.2.store htime⟩
      | false =>
        -- nothing is stored, but the pools are cleaned against the refused spec
        cases hstep
        exact ⟨htime, h.2⟩
  · cases hstep

theorem ok_setCache (hstep : setCache s = some s') : s'.Ok := by
  unfold setCache at hstep
  split at hstep
  · next spec ippoolSnapshot hupdater =>
    cases hstep
    have hstored := h.1
    rw [hupdater] at hstored
    exact ⟨covers_of_lookup hstored, h.2⟩
  · cases hstep

theorem ok_clean {i : Nat} (hstep : clean i s = some s') : s'.Ok := by
  unfold clean at hstep
  split at hstep
  · next spec written hupdater =>
    cases hstep
    cases written with
    | true => exact ⟨trivial, h.2⟩
    | false => exact ⟨trivial, h.2⟩
  · next spec written rest _ hupdater =>
    obtain ⟨ippool, -, hstep⟩ := Option.bind_eq_some_iff.mp hstep
    cases hstep
    have hcovers := h.1
    rw [hupdater] at hcovers
    exact ⟨hcovers, h.2⟩
  · cases hstep

theorem ok_create (hstep : create s = some s') : s'.Ok := by
  unfold create at hstep
  split at hstep
  · cases hstep
    exact ⟨trivial, h.2⟩
  · obtain ⟨pools, -, hstep⟩ := Option.bind_eq_some_iff.mp hstep
    cases hstep
    exact ⟨trivial, h.2⟩
  · cases hstep

theorem ok_listCIDRs (htime : InTime .listCIDRs s) (hstep : listCIDRs s = some s') : s'.Ok := by
  unfold listCIDRs at hstep
  split at hstep
  · cases hstep
    exact ⟨h.1, htime⟩
  · cases hstep

theorem ok_listPools (hstep : listPools s = some s') : s'.Ok := by
  unfold listPools at hstep
  split at hstep
  · next cidrSnapshot hphase =>
    cases hstep
    have hcovers := h.2
    rw [hphase] at hcovers
    refine ⟨h.1, ?_⟩
    intro c hc hpod
    exact hcovers _ (mem_checks hc) _ hpod
  · cases hstep

theorem ok_syncClean {i : Nat} (hstep : syncClean i s = some s') : s'.Ok := by
  unfold syncClean at hstep
  split at hstep
  · cases hstep
    exact ⟨h.1, trivial⟩
  · next rest _ hphase =>
    obtain ⟨check, -, hstep⟩ := Option.bind_eq_some_iff.mp hstep
    cases hstep
    have hrest := h.2
    rw [hphase] at hrest
    refine ⟨h.1, ?_⟩
    intro c hc
    exact hrest c (List.mem_of_mem_eraseIdx hc)
  · cases hstep

/-- The reconciler writes the IPPool cache only. -/
theorem ok_reconciler (hstep : (∃ name, getPool name s = some s') ∨ cachePool s = some s') :
    s'.Ok := by
  rcases hstep with ⟨name, hstep⟩ | hstep
  · unfold getPool at hstep
    split at hstep
    · cases hstep
      exact h
    · cases hstep
  · unfold cachePool at hstep
    split at hstep
    · cases hstep
      exact h
    · cases hstep

/-- Every step that is in time keeps the invariant. -/
theorem ok_step {a : Action} (htime : InTime a s) (hstep : system.step a s = some s') :
    s'.Ok := by
  cases a with
  | compute => exact ok_compute h hstep
  | store => exact ok_store h htime hstep
  | setCache => exact ok_setCache h hstep
  | clean => exact ok_clean h hstep
  | create => exact ok_create h hstep
  | listCIDRs => exact ok_listCIDRs h htime hstep
  | listPools => exact ok_listPools h hstep
  | syncClean => exact ok_syncClean h hstep
  | getPool name => exact ok_reconciler h (Or.inl ⟨name, hstep⟩)
  | cachePool => exact ok_reconciler h (Or.inr hstep)

end Preservation

theorem ok_of_reaches {s : State} (h : (system.guard InTime).Reaches s) : s.Ok := by
  refine h.invariant ?_ ?_
  · rintro s ⟨hupdater, hphase, -⟩
    rw [State.Ok, hupdater, hphase]
    exact ⟨trivial, trivial⟩
  · intro a s s' hs hstep
    obtain ⟨htime, hstep⟩ := System.guard_step hstep
    exact ok_step hs htime hstep

/-! ## What is deleted -/

/-- `deleted` is what the steps of `CleanPendingIPPools` do to the stored pools. -/
theorem pools_of_deleted {s s' : State} {a : Action}
    (ha : (∃ i, a = .clean i) ∨ ∃ i, a = .syncClean i) (hstep : system.step a s = some s') :
    s'.cluster.pools = (deleted a s).elim s.cluster.pools fun ippool =>
      deleteIPPool s.cluster.pools ippool.netAttachDefName ippool.podCIDR := by
  rcases ha with ⟨i, rfl⟩ | ⟨i, rfl⟩
  · have hstep : clean i s = some s' := hstep
    unfold clean at hstep
    split at hstep
    · next hupdater =>
      cases hstep
      simp [deleted, hupdater]
    · next spec written rest _ hupdater =>
      obtain ⟨ippool, hget, hstep⟩ := Option.bind_eq_some_iff.mp hstep
      cases hstep
      by_cases hpend : isPending spec.config.name spec ippool = true
      · simp [deleted, hupdater, hget, hpend, cleanIPPool, Option.filter_some]
      · simp [deleted, hupdater, hget, hpend, cleanIPPool, Option.filter_some]
    · cases hstep
  · have hstep : syncClean i s = some s' := hstep
    unfold syncClean at hstep
    split at hstep
    · next hphase =>
      cases hstep
      simp [deleted, hphase]
    · next rest _ hphase =>
      obtain ⟨c, hget, hstep⟩ := Option.bind_eq_some_iff.mp hstep
      cases hstep
      by_cases hpend : isPending c.defName c.spec c.ippool = true
      · simp [deleted, hphase, hget, hpend, cleanIPPool, Option.filter_some]
      · simp [deleted, hphase, hget, hpend, cleanIPPool, Option.filter_some]
    · cases hstep

/-- A pool the step deletes is one that the spec it was checked against does not have. -/
theorem not_stored_of_pending {ippool : IPPoolSpec} (hpend : isPending defName spec ippool = true)
    (hok : ippool.podCIDR ∈ storedPods cidrs defName → ippool.podCIDR ∈ podCIDRsOf spec) :
    ippool.podCIDR ∉ storedPods cidrs ippool.netAttachDefName := by
  obtain ⟨hnet, hnot⟩ := isPending_iff.mp hpend
  rw [hnet]
  exact fun hpod => hnot (hok hpod)

/-- **Only pools without a host are deleted**: in a run whose steps are all in time, a pool that
`CleanPendingIPPools` deletes is not that of a host of the stored CIDR of its network. -/
theorem clean_spares_stored {s : State} {a : Action} {ippool : IPPoolSpec}
    (hrun : (system.guard InTime).Reaches s) (hdel : deleted a s = some ippool) :
    ippool.podCIDR ∉ storedPods s.cluster.cidrs ippool.netAttachDefName := by
  obtain ⟨hupdater, hphase⟩ := ok_of_reaches hrun
  unfold deleted at hdel
  split at hdel
  · split at hdel
    · next spec written rest heq =>
      rw [heq] at hupdater
      obtain ⟨hget, hpend⟩ := Option.filter_eq_some_iff.mp hdel
      exact not_stored_of_pending hpend (hupdater _)
    · cases hdel
  · split at hdel
    · next rest heq =>
      rw [heq] at hphase
      obtain ⟨c, hc, rfl⟩ := Option.map_eq_some_iff.mp hdel
      obtain ⟨hget, hpend⟩ := Option.filter_eq_some_iff.mp hc
      exact not_stored_of_pending hpend (hphase c (List.mem_of_getElem? hget))
    · cases hdel
  · cases hdel

/-! ## Runs -/

/-- The network of `smallNet` with host `a`; an obsolete pool is left over. -/
def tickState : State where
  cluster :=
    { cidrs := (∅ : GoMap String CIDRSpec).insert "net" ⟨smallNet, [smallEntry
        [⟨0, "a", "eth1", "192.168.0.1", "10.0.0.0/24", ""⟩]]⟩
      cidrCache := (∅ : GoMap String CIDRSpec).insert "net" ⟨smallNet, [smallEntry
        [⟨0, "a", "eth1", "192.168.0.1", "10.0.0.0/24", ""⟩]]⟩
      pools := smallPools
      poolCache := smallState.poolCache }
  updater := .idle
  synchronizer := .idle
  reconciler := none

/-- A second host appears. -/
def addHost : Action :=
  .compute 8 .listed ⟨smallNet, [smallEntry [⟨0, "a", "eth1", "192.168.0.1", "10.0.0.0/24", ""⟩]]⟩
    false (smallSnapshot.insert "b" ⟨"b", [⟨"eth1", "192.168.0.0/24", "192.168.0.2"⟩]⟩)
    (fun _ => .failed)

/-- The second host is stored after both snapshots: the obsolete pool is deleted, and it is no
pool of a host. -/
theorem clean_spares_stored_obsolete :
    ∃ s ippool, (system.guard InTime).Reaches s ∧ deleted (.syncClean 1) s = some ippool ∧
      ippool.podCIDR = "10.0.9.0/24" ∧ "10.0.1.0/24" ∈ storedPods s.cluster.cidrs "net" ∧
      ippool.podCIDR ∉ storedPods s.cluster.cidrs ippool.netAttachDefName := by
  have hexec : ((system.guard InTime).exec [.listCIDRs, .listPools, addHost, .store true,
      .setCache] tickState).map (fun s => ((deleted (.syncClean 1) s).map (·.podCIDR),
        decide ("10.0.1.0/24" ∈ storedPods s.cluster.cidrs "net"))) =
      some (some "10.0.9.0/24", true) := by decide +kernel
  obtain ⟨s, hexec, hs⟩ := Option.map_eq_some_iff.mp hexec
  obtain ⟨ippool, hdel, hpod⟩ := Option.map_eq_some_iff.mp (congrArg Prod.fst hs)
  have hrun : (system.guard InTime).Reaches s :=
    System.Reaches.exec (.init ⟨rfl, rfl, rfl⟩) hexec
  exact ⟨s, ippool, hrun, hdel, hpod, of_decide_eq_true (congrArg Prod.snd hs),
    clean_spares_stored hrun hdel⟩

/-- The second host is stored between the two snapshots. Its pool is created and cached in
time for the second one, and deleted because the first one does not have it. -/
theorem clean_deletes_new_pool :
    ∃ s s' ippool, system.Reaches s ∧ system.step (.syncClean 0) s = some s' ∧
      deleted (.syncClean 0) s = some ippool ∧
      ippool.podCIDR ∈ storedPods s.cluster.cidrs ippool.netAttachDefName ∧
      (∃ pool, s.cluster.pools.lookup (getIPPoolName ippool.netAttachDefName ippool.podCIDR) =
        some pool ∧ pool.spec = ippool) ∧
      s'.cluster.pools.lookup (getIPPoolName ippool.netAttachDefName ippool.podCIDR) = none := by
  have hexec : (system.exec ([.listCIDRs, addHost, .store true, .setCache] ++
      List.replicate 4 (.clean 0) ++ List.replicate 3 .create ++
      [.getPool "net-10.0.1.0-24", .cachePool, .listPools]) tickState).map (fun s =>
        ((system.step (.syncClean 0) s).isSome, (deleted (.syncClean 0) s).map fun ippool =>
          (decide (ippool.podCIDR ∈ storedPods s.cluster.cidrs ippool.netAttachDefName),
            (s.cluster.pools.lookup
              (getIPPoolName ippool.netAttachDefName ippool.podCIDR)).map fun pool =>
                decide (pool.spec = ippool)))) = some (true, some (true, some true)) := by
    decide +kernel
  obtain ⟨s, hexec, hs⟩ := Option.map_eq_some_iff.mp hexec
  obtain ⟨s', hstep⟩ := Option.isSome_iff_exists.mp (congrArg Prod.fst hs)
  obtain ⟨ippool, hdel, hpod⟩ := Option.map_eq_some_iff.mp (congrArg Prod.snd hs)
  obtain ⟨pool, hpool, hspec⟩ := Option.map_eq_some_iff.mp (congrArg Prod.snd hpod)
  have hrun : system.Reaches s := System.Reaches.exec (.init ⟨rfl, rfl, rfl⟩) hexec
  have hstored : ippool.podCIDR ∈ storedPods s.cluster.cidrs ippool.netAttachDefName :=
    of_decide_eq_true (congrArg Prod.fst hpod)
  refine ⟨s, s', ippool, hrun, hstep, hdel, hstored, ⟨pool, hpool, of_decide_eq_true hspec⟩, ?_⟩
  rw [pools_of_deleted (Or.inr ⟨0, rfl⟩) hstep, hdel]
  exact AList.lookup_erase _ _

end MultiNicCni.Controller.Synchronizer
