import MultiNicCni.Controller.PoolRefinement

/-!
# `updateCIDR` when the API server refuses (`controllers/cidr_handler.go`)

`UpdateCIDR.lean` has the API server accept every call. Here each call may fail, as
`UpdateAnswers` says:

- `updateCIDRWith`: `updateCIDR` under these answers; `updateCIDRWith_accepted` shows that it is
  `updateCIDR` when every call succeeds;
- `lookup_cleanPendingWith`: the pools that `CleanPendingIPPools` deletes;
- `updateCIDRWith_eq_error`: an error comes back in two ways, and in one of them the pools have
  been cleaned before;
- `failed_update_keeps_iff`: **a failed update leaves pools and cache alone, exactly when it does
  not reach the cleaning or the cleaning has nothing to delete**.
-/

namespace MultiNicCni.Controller

open Go Compute Lib

/-! ## The answers of the API server -/

/-- Which calls succeed: the `Get` of the CIDR, its `Update` or `Create`, the `Get` and `Delete`
that `DeleteIPPool` makes for a pool of the cache, and the `Get` and the write that
`UpdateIPPool` makes for a host, by its position. -/
structure UpdateAnswers where
  getCIDR : Bool
  writeCIDR : Bool
  deleteIPPool : String → Bool
  getIPPool : Nat → Bool
  writeIPPool : Nat → Bool

/-- Every call succeeds. -/
def UpdateAnswers.accepted : UpdateAnswers :=
  ⟨true, true, fun _ => true, fun _ => true, fun _ => true⟩

/-- The error `updateCIDR` returns: that of the write, or its own. -/
inductive UpdateFailure where
  | refused
  /-- "TryInitExistingConfig" -/
  | tryInitExistingConfig
  deriving DecidableEq, Repr

/-! ## The function -/

/-- `CleanPendingIPPools`. A failed deletion is only logged. -/
def cleanPendingWith (answers : UpdateAnswers) (snapshot : GoMap String IPPoolSpec)
    (defName : String) (newCIDR : CIDRSpec) (pools : GoMap String IPPool) :
    GoMap String IPPool :=
  snapshot.entries.foldl (fun pools entry =>
    if isPending defName newCIDR entry.2 && answers.deleteIPPool entry.1 then
      deleteIPPool pools entry.2.netAttachDefName entry.2.podCIDR
    else pools) pools

/-- `UpdateIPPool`. A pool whose `Get` fails is created; the API server does not create one
that exists. -/
def updateIPPoolWith (get write : Bool) (pools : GoMap String IPPool)
    (netAttachDef podCIDR vlanCIDR hostName interfaceName : String) (excludes : List IPValue) :
    Option (GoMap String IPPool) := do
  let (ippoolName, spec) ← initIPPool netAttachDef podCIDR vlanCIDR hostName interfaceName excludes
  let labelled : IPPool := { hostNameLabel := hostName, defNameLabel := netAttachDef, spec }
  match if get then pools.lookup ippoolName else none with
  | some ippool =>
    if ippool.spec.excludes ≠ spec.excludes then
      let _ ← checkPoolValidity spec.excludes ippool.spec.allocations
    some (if write then
      pools.insert ippoolName (labelled.withAllocations ippool.spec.allocations) else pools)
  | none =>
    some (if write ∧ (pools.lookup ippoolName).isNone then pools.insert ippoolName labelled
      else pools)

/-- `UpdateIPPools`. -/
def updateIPPoolsWith (answers : UpdateAnswers) (pools : GoMap String IPPool) (defName : String)
    (entries : List CIDREntry) (excludes : List IPValue) : Option (GoMap String IPPool) :=
  (hostsOf entries).zipIdx.foldlM (fun pools p =>
    updateIPPoolWith (answers.getIPPool p.2) (answers.writeIPPool p.2) pools defName
      p.1.2.podCIDR p.1.1.vlanCIDR p.1.2.hostName p.1.2.interfaceName excludes) pools

/-- What becomes of the CIDR object. -/
inductive CIDRWrite where
  | stored (cidrs : GoMap String CIDRSpec)
  | refused
  | notExisting

/-- `Get` the CIDR, and `Update` it or `Create` it for a new network. -/
def writeCIDR (answers : UpdateAnswers) (cidrs : GoMap String CIDRSpec) (spec : CIDRSpec)
    (new : Bool) : CIDRWrite :=
  match if answers.getCIDR then cidrs.lookup spec.config.name else none with
  | some _ =>
    if answers.writeCIDR then .stored (cidrs.insert spec.config.name spec) else .refused
  | none =>
    if new then
      if answers.writeCIDR ∧ (cidrs.lookup spec.config.name).isNone then
        .stored (cidrs.insert spec.config.name spec)
      else .refused
    else .notExisting

/-- `updateCIDR` under the answers of the API server. -/
def updateCIDRWith (answers : UpdateAnswers) (fuel : Nat) (configReady : Bool)
    (order : GoMap.RangeOrder String CIDREntry) (cidrSpec : CIDRSpec) (new : Bool)
    (snapshot : GoMap String HostInterface) (nodes : Nat → NodeLookup) (st : ClusterState) :
    Option (ClusterState × Except UpdateFailure Bool) :=
  if configReady then do
    let config := cidrSpec.config
    let excludes := sortAddress config.excludeCIDRs
    let (entriesMap, changed) ← updateEntries fuel cidrSpec excludes new snapshot nodes
    if changed then
      let newEntries := order.values entriesMap
      let spec : CIDRSpec := { config, cidrs := newEntries }
      let ippoolSnapshot := st.poolCache
      match writeCIDR answers st.cidrs spec new with
      | .notExisting => some (st, .error .tryInitExistingConfig)
      | .refused =>
        -- the pools are cleaned before the error is looked at
        let pools := cleanPendingWith answers ippoolSnapshot config.name spec st.pools
        some ({ st with pools }, .error .refused)
      | .stored cidrs =>
        let cidrCache := st.cidrCache.insert config.name spec
        let pools := cleanPendingWith answers ippoolSnapshot config.name spec st.pools
        let pools ← updateIPPoolsWith answers pools config.name newEntries excludes
        some ({ st with cidrs, cidrCache, pools }, .ok true)
    else some (st, .ok false)
  else some (st, .ok false)

/-! ## With every call accepted -/

theorem cleanPendingWith_accepted (snapshot : GoMap String IPPoolSpec) (defName : String)
    (newCIDR : CIDRSpec) (pools : GoMap String IPPool) :
    cleanPendingWith .accepted snapshot defName newCIDR pools =
      cleanPendingIPPools snapshot defName newCIDR pools := by
  simp only [cleanPendingWith, cleanPendingIPPools, GoMap.values, List.foldl_map,
    UpdateAnswers.accepted, Bool.and_true]

theorem updateIPPoolWith_accepted (pools : GoMap String IPPool)
    (netAttachDef podCIDR vlanCIDR hostName interfaceName : String) (excludes : List IPValue) :
    updateIPPoolWith true true pools netAttachDef podCIDR vlanCIDR hostName interfaceName excludes =
      updateIPPool pools netAttachDef podCIDR vlanCIDR hostName interfaceName excludes := by
  unfold updateIPPoolWith updateIPPool
  refine Option.bind_congr fun named _ => ?_
  simp only [if_true]
  cases hl : pools.lookup named.1 with
  | none => simp
  | some ippool => rfl

theorem updateIPPoolsWith_accepted (pools : GoMap String IPPool) (defName : String)
    (entries : List CIDREntry) (excludes : List IPValue) :
    updateIPPoolsWith .accepted pools defName entries excludes =
      updateIPPools pools defName entries excludes := by
  have hfst : (hostsOf entries).zipIdx.map Prod.fst = hostsOf entries := List.zipIdx_map_fst 0 _
  rw [updateIPPools_eq, ← hfst, List.foldlM_map, updateIPPoolsWith]
  simp only [UpdateAnswers.accepted, updateIPPoolWith_accepted]

theorem writeCIDR_accepted (cidrs : GoMap String CIDRSpec) (spec : CIDRSpec) (new : Bool) :
    writeCIDR .accepted cidrs spec new =
      match storeCIDR cidrs spec new with
      | .ok cidrs => .stored cidrs
      | .error _ => .notExisting := by
  unfold writeCIDR storeCIDR
  cases hl : cidrs.lookup spec.config.name with
  | some old => rfl
  | none => cases new <;> rfl

/-- The error as `updateCIDR` has it; a refused write does not occur there. -/
def UpdateError.failure : UpdateError → UpdateFailure
  | .tryInitExistingConfig => .tryInitExistingConfig

/-- When every call succeeds, this is `updateCIDR`. -/
theorem updateCIDRWith_accepted (fuel : Nat) (configReady : Bool)
    (order : GoMap.RangeOrder String CIDREntry) (cidrSpec : CIDRSpec) (new : Bool)
    (snapshot : GoMap String HostInterface) (nodes : Nat → NodeLookup) (st : ClusterState) :
    updateCIDRWith .accepted fuel configReady order cidrSpec new snapshot nodes st =
      (updateCIDR fuel configReady order cidrSpec new snapshot nodes st).map fun r =>
        (r.1, r.2.mapError UpdateError.failure) := by
  unfold updateCIDRWith updateCIDR
  cases configReady with
  | false => rfl
  | true =>
    simp only [if_true, Option.bind_eq_bind, Option.map_bind]
    refine Option.bind_congr fun result _ => ?_
    obtain ⟨entriesMap, changed⟩ := result
    cases changed with
    | false => rfl
    | true =>
      simp only [if_true, Function.comp_apply, writeCIDR_accepted, cleanPendingWith_accepted,
        updateIPPoolsWith_accepted]
      cases storeCIDR st.cidrs ⟨cidrSpec.config, order.values entriesMap⟩ new with
      | error e =>
        cases e
        rfl
      | ok cidrs =>
        simp only [Option.map_bind]
        rfl

/-! ## What is deleted -/

/-- A pool is gone iff the cache holds a pending pool of its name whose deletion succeeds. -/
theorem lookup_cleanPendingWith (answers : UpdateAnswers) (snapshot : GoMap String IPPoolSpec)
    (defName : String) (newCIDR : CIDRSpec) (pools : GoMap String IPPool) (name : String) :
    (cleanPendingWith answers snapshot defName newCIDR pools).lookup name =
      if ∃ entry ∈ snapshot.entries, isPending defName newCIDR entry.2 = true ∧
        answers.deleteIPPool entry.1 = true ∧
        getIPPoolName entry.2.netAttachDefName entry.2.podCIDR = name
      then none else pools.lookup name := by
  have hloop := foldl_set (l := snapshot.entries) (fun pools : GoMap String IPPool => pools.lookup name)
    (fun entry => isPending defName newCIDR entry.2 && answers.deleteIPPool entry.1 &&
      decide (getIPPoolName entry.2.netAttachDefName entry.2.podCIDR = name)) none
    (f := fun pools entry =>
      if isPending defName newCIDR entry.2 && answers.deleteIPPool entry.1 then
        deleteIPPool pools entry.2.netAttachDefName entry.2.podCIDR
      else pools) ?_ pools
  · rw [cleanPendingWith, hloop]
    refine if_congr ?_ rfl rfl
    simp only [List.any_eq_true, Bool.and_eq_true, decide_eq_true_eq, and_assoc]
  · intro pools entry _
    by_cases hdel : (isPending defName newCIDR entry.2 && answers.deleteIPPool entry.1) = true
    · by_cases hname : getIPPoolName entry.2.netAttachDefName entry.2.podCIDR = name
      · simp only [hdel, hname, deleteIPPool, if_true, Bool.true_and, decide_true, AList.lookup_erase]
      · simp only [hdel, hname, deleteIPPool, if_true, Bool.true_and, decide_false,
          Bool.false_eq_true, if_false]
        exact AList.lookup_erase_ne (Ne.symm hname)
    · simp only [hdel, Bool.false_eq_true, if_false, Bool.false_and]

/-! ## Failed updates -/

section Failed

variable {answers : UpdateAnswers} {fuel : Nat} {configReady : Bool}
  {order : GoMap.RangeOrder String CIDREntry} {cidrSpec : CIDRSpec} {new : Bool}
  {snapshot : GoMap String HostInterface} {nodes : Nat → NodeLookup} {st : ClusterState}

/-- The entries have changed, and the API server refuses to write them. -/
def WriteRefused (answers : UpdateAnswers) (fuel : Nat) (configReady : Bool)
    (order : GoMap.RangeOrder String CIDREntry) (cidrSpec : CIDRSpec) (new : Bool)
    (snapshot : GoMap String HostInterface) (nodes : Nat → NodeLookup) (st : ClusterState)
    (spec : CIDRSpec) : Prop :=
  configReady = true ∧ writeCIDR answers st.cidrs spec new = .refused ∧
    ∃ entriesMap, updateEntries fuel cidrSpec (sortAddress cidrSpec.config.excludeCIDRs) new
        snapshot nodes = some (entriesMap, true) ∧
      spec = ⟨cidrSpec.config, order.values entriesMap⟩

/-- An error comes back with the state untouched, or with the pools cleaned for the spec that
was not written. -/
theorem updateCIDRWith_eq_error {st' : ClusterState} {e : UpdateFailure}
    (h : updateCIDRWith answers fuel configReady order cidrSpec new snapshot nodes st =
      some (st', .error e)) :
    st' = st ∨ ∃ spec,
      WriteRefused answers fuel configReady order cidrSpec new snapshot nodes st spec ∧
      st' = { st with
        pools := cleanPendingWith answers st.poolCache cidrSpec.config.name spec st.pools } := by
  unfold updateCIDRWith at h
  split at h
  · next hready =>
    obtain ⟨⟨entriesMap, changed⟩, hentries, h⟩ := Option.bind_eq_some_iff.mp h
    cases changed with
    | false => cases h
    | true =>
      dsimp only at h
      rw [if_pos rfl] at h
      split at h
      · cases h
        exact Or.inl rfl
      · next hwrite =>
        cases h
        exact Or.inr ⟨_, ⟨hready, hwrite, entriesMap, hentries, rfl⟩, rfl⟩
      · obtain ⟨pools, -, h⟩ := Option.bind_eq_some_iff.mp h
        cases h
  · cases h

/-- A refused write cleans the pools and is then reported. -/
theorem WriteRefused.run {spec : CIDRSpec}
    (h : WriteRefused answers fuel configReady order cidrSpec new snapshot nodes st spec) :
    updateCIDRWith answers fuel configReady order cidrSpec new snapshot nodes st =
      some ({ st with
        pools := cleanPendingWith answers st.poolCache cidrSpec.config.name spec st.pools },
        .error .refused) := by
  obtain ⟨rfl, hwrite, entriesMap, hentries, rfl⟩ := h
  unfold updateCIDRWith
  simp only [if_true, hentries, Option.bind_eq_bind, Option.bind_some, hwrite]

/-- The failed update leaves the stored pools and the cached CIDRs. -/
def Unharmed (st st' : ClusterState) : Prop :=
  (∀ name, st'.pools.lookup name = st.pools.lookup name) ∧ st'.cidrCache = st.cidrCache

/-- **A failed update can cost pools.** It leaves the pools and the CIDR cache as they were
exactly when the API server did not refuse the write, or for no cached pool of the network
that the unwritten layout lacks a stored pool is deleted. -/
theorem failed_update_keeps_iff (answers : UpdateAnswers) (fuel : Nat) (configReady : Bool)
    (order : GoMap.RangeOrder String CIDREntry) (cidrSpec : CIDRSpec) (new : Bool)
    (snapshot : GoMap String HostInterface) (nodes : Nat → NodeLookup) (st : ClusterState) :
    (∀ st' e, updateCIDRWith answers fuel configReady order cidrSpec new snapshot nodes st =
        some (st', .error e) → Unharmed st st') ↔
      ∀ spec, WriteRefused answers fuel configReady order cidrSpec new snapshot nodes st spec →
        ∀ key ippool, st.poolCache.lookup key = some ippool →
          isPending cidrSpec.config.name spec ippool = true → answers.deleteIPPool key = true →
          st.pools.lookup (getIPPoolName ippool.netAttachDefName ippool.podCIDR) = none := by
  constructor
  · intro h spec hrefused key ippool hcached hpending hdeleted
    obtain ⟨hpools, -⟩ := h _ _ hrefused.run
    have hname := hpools (getIPPoolName ippool.netAttachDefName ippool.podCIDR)
    rw [lookup_cleanPendingWith, if_pos ⟨⟨key, ippool⟩, AList.mem_lookup_iff.mp hcached, hpending,
      hdeleted, rfl⟩] at hname
    exact hname.symm
  · intro h st' e hrun
    rcases updateCIDRWith_eq_error hrun with rfl | ⟨spec, hrefused, rfl⟩
    · exact ⟨fun _ => rfl, rfl⟩
    · refine ⟨fun name => ?_, rfl⟩
      rw [lookup_cleanPendingWith]
      split
      · next hgone =>
        obtain ⟨⟨key, ippool⟩, hmem, hpending, hdeleted, rfl⟩ := hgone
        exact (h spec hrefused key ippool (AList.mem_lookup_iff.mpr hmem) hpending hdeleted).symm
      · rfl

end Failed

/-- A network of host `a`, stored with its pool. -/
def storedSpec : CIDRSpec :=
  ⟨smallNet, [smallEntry [⟨0, "a", "eth1", "192.168.0.1", "10.0.0.0/24", "net-10.0.0.0-24"⟩]]⟩

def storedState : ClusterState :=
  { cidrs := AList.singleton "net" storedSpec
    cidrCache := AList.singleton "net" storedSpec
    pools := AList.singleton "net-10.0.0.0-24" (smallPool "net" "10.0.0.0/24")
    poolCache := AList.singleton "net-10.0.0.0-24" (smallPool "net" "10.0.0.0/24").spec }

/-- The node of `a` is gone, and the update of the CIDR meets a conflict: `updateCIDR` returns
the error, the stored CIDR still lists the host, and the pool of the host is deleted with its
allocation. -/
theorem refused_update_deletes_pool : ∃ st',
    updateCIDRWith { UpdateAnswers.accepted with writeCIDR := false } 8 true .listed storedSpec false
      ∅ (fun _ => .notFound) storedState = some (st', .error .refused) ∧
    st'.cidrs.lookup "net" = some storedSpec ∧
    storedState.pools.lookup "net-10.0.0.0-24" = some (smallPool "net" "10.0.0.0/24") ∧
    st'.pools.lookup "net-10.0.0.0-24" = none ∧ ¬ Unharmed storedState st' := by
  have hrun : (updateCIDRWith { UpdateAnswers.accepted with writeCIDR := false } 8 true .listed
      storedSpec false ∅ (fun _ => .notFound) storedState).map (fun r =>
        (r.2.toOption, r.1.cidrs.lookup "net", r.1.pools.lookup "net-10.0.0.0-24")) =
      some (none, some storedSpec, none) := by decide +kernel
  obtain ⟨⟨st', res⟩, hrun, hproj⟩ := Option.map_eq_some_iff.mp hrun
  obtain ⟨hres, hcidr, hgone⟩ : res.toOption = none ∧ st'.cidrs.lookup "net" = some storedSpec ∧
      st'.pools.lookup "net-10.0.0.0-24" = none := by
    simpa using hproj
  cases res with
  | ok changed => cases hres
  | error e =>
    have hstored : storedState.pools.lookup "net-10.0.0.0-24" =
        some (smallPool "net" "10.0.0.0/24") := rfl
    cases e with
    | refused =>
      refine ⟨st', hrun, hcidr, hstored, hgone, fun hsame => ?_⟩
      have h := hsame.1 "net-10.0.0.0-24"
      rw [hgone, hstored] at h
      cases h
    | tryInitExistingConfig =>
      -- the CIDR exists
      rcases updateCIDRWith_eq_error hrun with rfl | ⟨spec, hrefused, -⟩
      · rw [hstored] at hgone
        cases hgone
      · have h := hrefused.run
        rw [hrun] at h
        cases h

end MultiNicCni.Controller
