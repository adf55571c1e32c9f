import MultiNicCni.Controller.Route

/-!
# The status of a network (`controllers/multinicnetwork_handler.go`)

`SyncAllStatus` computes the status of a network from its CIDR and from the state of its routes,
and `updateStatus` writes it to the API server unless `NetStatusUpdated` finds nothing new. The
lists of results come from maps, so the comparison must not see their order: it compares the
lengths and looks every new result up in the old ones.

- `SameStatus`: the two statuses differ in the order of the results and in the time only;
- `netStatusUpdated_eq_false_iff`: that is what is compared, for results of distinct networks;
- `updateStatus_skips_iff`: **a write is skipped exactly when it would store the same status**;
- `updateStatus_stored`, `syncAllStatus_stored`: skipped or not, without an error the API server
  has the status that is returned.

The API server is the map of the stored statuses with the log of the updates sent to it. Times
are of any type.
-/

namespace MultiNicCni.Controller

open Go

/-! ## Statuses -/

/-- `NetConfigStatus`. -/
inductive NetConfigStatus where
  | waitForConfig
  | configComplete
  | configFailed
  deriving DecidableEq, Repr

/-- `NicNetworkResult`. -/
structure NicNetworkResult where
  netAddress : String
  numOfHost : Int
  deriving DecidableEq, Repr

/-- `DiscoverStatus`. -/
structure DiscoverStatus where
  existDaemon : Int
  interfaceInfoAvailable : Int
  cidrProcessedHost : Int
  deriving DecidableEq, Repr

/-- `MultiNicNetworkStatus`. The two states are `none` as long as nothing has set them. -/
structure MultiNicNetworkStatus (τ : Type) where
  computeResults : List NicNetworkResult
  discoverStatus : DiscoverStatus
  netConfigStatus : Option NetConfigStatus
  routeStatus : Option RouteStatus
  message : String
  lastSyncTime : τ

/-- `RouteMessage`: the message of a state of the routes, if it has one. -/
def routeMessage : RouteStatus → Option String
  | .someRouteFailed => some "some route cannot be applied, need attention"
  | .routeUnknown => some "some daemon cannot be connected"
  | .applyingRoute => some "waiting for route update"
  | .allRouteApplied => some ""
  | .routeNoApplied => none

section Handler

variable {τ : Type}

/-- A result that was not there, or with another number of hosts. -/
def resultUpdated (prevComputeMap : GoMap String Int) (status : NicNetworkResult) : Bool :=
  match prevComputeMap.lookup status.netAddress with
  | none => true
  | some numOfHost => numOfHost != status.numOfHost

/-- `NetStatusUpdated`: is there anything new in the status? -/
def netStatusUpdated (prevStatus newStatus : MultiNicNetworkStatus τ) : Bool :=
  if prevStatus.message ≠ newStatus.message ∨ prevStatus.routeStatus ≠ newStatus.routeStatus ∨
      prevStatus.netConfigStatus ≠ newStatus.netConfigStatus ∨
      prevStatus.discoverStatus ≠ newStatus.discoverStatus then true
  else if prevStatus.computeResults.length ≠ newStatus.computeResults.length then true
  else
    let prevComputeMap := GoMap.insertAll
      (prevStatus.computeResults.map fun status => (status.netAddress, status.numOfHost))
    newStatus.computeResults.any (resultUpdated prevComputeMap)

/-- The API server with the handler's cache of it. -/
structure NetworkHandler (τ : Type) where
  stored : GoMap String (MultiNicNetworkStatus τ)
  /-- the status updates sent to the API server -/
  updates : List (String × MultiNicNetworkStatus τ)
  cache : GoMap String (MultiNicNetworkStatus τ)
  syncFlag : Bool

/-- The results of the networks of a CIDR. -/
def computeResults (spec : CIDRSpec) : List NicNetworkResult :=
  spec.cidrs.map fun entry => ⟨entry.netAddress, entry.hosts.length⟩

/-- The largest number of hosts of a network. -/
def maxNumOfHost (spec : CIDRSpec) : Int :=
  spec.cidrs.foldl (fun (maxNumOfHost : Int) entry =>
    if entry.hosts.length > maxNumOfHost then entry.hosts.length else maxNumOfHost) 0

/-- The status that `updateStatus` builds. -/
def newStatus (now : τ) (instStatus : MultiNicNetworkStatus τ) (spec : CIDRSpec)
    (status : Option RouteStatus) (discoverStatus : DiscoverStatus)
    (netConfigStatus : Option NetConfigStatus) (message : String) (cidrChange : Bool) :
    MultiNicNetworkStatus τ where
  computeResults := if cidrChange then computeResults spec else instStatus.computeResults
  discoverStatus :=
    if cidrChange then { discoverStatus with cidrProcessedHost := maxNumOfHost spec }
    else discoverStatus
  netConfigStatus := netConfigStatus
  routeStatus := status
  message := message
  lastSyncTime := now

/-- `updateStatus`, given the answer of the API server to an update. -/
def updateStatus (h : NetworkHandler τ) (now : τ) (answer : Option String) (name : String)
    (instStatus : MultiNicNetworkStatus τ) (spec : CIDRSpec) (status : Option RouteStatus)
    (discoverStatus : DiscoverStatus) (netConfigStatus : Option NetConfigStatus)
    (message : String) (cidrChange : Bool) :
    NetworkHandler τ × MultiNicNetworkStatus τ × Option String :=
  let netStatus :=
    newStatus now instStatus spec status discoverStatus netConfigStatus message cidrChange
  if netStatusUpdated instStatus netStatus = false then
    ({ h with cache := h.cache.insert name instStatus }, netStatus, none)
  else
    let h := { h with updates := h.updates ++ [(name, netStatus)] }
    match answer with
    | some err => (h, netStatus, some err)
    | none =>
      ({ h with stored := h.stored.insert name netStatus, cache := h.cache.insert name netStatus },
        netStatus, none)

/-- `SyncAllStatus`; the first result is `none` if there is no such network. -/
def syncAllStatus (h : NetworkHandler τ) (now : τ) (answer : Option String) (name : String)
    (spec : CIDRSpec) (routeStatus : RouteStatus) (daemonSize infoAvailableSize : Int)
    (cidrChange : Bool) :
    NetworkHandler τ × Option (MultiNicNetworkStatus τ) × Option String :=
  match h.stored.lookup name with
  | none => (h, none, some "not found")
  | some inst =>
    if h.syncFlag then
      (h, some inst, some "syncFlag is set (skip SyncAllStatus to avoid congestion)")
    else
      let netConfigStatus :=
        match routeStatus with
        | .someRouteFailed | .applyingRoute => some .waitForConfig
        | .allRouteApplied => some .configComplete
        | _ => inst.netConfigStatus
      let message := (routeMessage routeStatus).getD inst.message
      let discoverStatus : DiscoverStatus :=
        ⟨daemonSize, infoAvailableSize, inst.discoverStatus.cidrProcessedHost⟩
      let (h, netStatus, err) := updateStatus h now answer name inst spec (some routeStatus)
        discoverStatus netConfigStatus message cidrChange
      (h, some netStatus, err)

/-! ## What the comparison sees -/

/-- The results are of distinct networks. -/
def DistinctNets (results : List NicNetworkResult) : Prop :=
  (results.map NicNetworkResult.netAddress).Nodup

instance (results : List NicNetworkResult) : Decidable (DistinctNets results) :=
  inferInstanceAs (Decidable (List.Nodup _))

/-- The statuses differ in the order of the results and in the time only. -/
structure SameStatus (prev new : MultiNicNetworkStatus τ) : Prop where
  message : prev.message = new.message
  routeStatus : prev.routeStatus = new.routeStatus
  netConfigStatus : prev.netConfigStatus = new.netConfigStatus
  discoverStatus : prev.discoverStatus = new.discoverStatus
  computeResults : prev.computeResults.Perm new.computeResults

theorem SameStatus.refl (status : MultiNicNetworkStatus τ) : SameStatus status status :=
  ⟨rfl, rfl, rfl, rfl, .refl _⟩

/-- A result is not new exactly when it was there. -/
theorem resultUpdated_eq_false_iff {results : List NicNetworkResult} (h : DistinctNets results)
    (status : NicNetworkResult) :
    resultUpdated (GoMap.insertAll (results.map fun s => (s.netAddress, s.numOfHost))) status =
      false ↔ status ∈ results := by
  have hkeys : ((results.map fun s => (s.netAddress, s.numOfHost)).map Prod.fst).Nodup := by
    rw [List.map_map]
    exact h
  have hpair : (status.netAddress, status.numOfHost) ∈
      results.map (fun s => (s.netAddress, s.numOfHost)) ↔ status ∈ results :=
    List.mem_map_of_injective fun s s' heq => by
      cases s
      cases s'
      simpa using heq
  rw [← hpair, ← GoMap.lookup_insertAll_iff hkeys, resultUpdated]
  cases (GoMap.insertAll (results.map fun s => (s.netAddress, s.numOfHost))).lookup
    status.netAddress with
  | none => simp
  | some numOfHost => simp

/-- Looking up each new result in the old ones is enough, by counting. -/
theorem perm_iff_length_subset {prev new : List NicNetworkResult} (hnew : DistinctNets new) :
    prev.Perm new ↔ prev.length = new.length ∧ ∀ status ∈ new, status ∈ prev := by
  constructor
  · intro hperm
    exact ⟨hperm.length_eq, fun status hmem => hperm.mem_iff.mpr hmem⟩
  · rintro ⟨hlen, hsub⟩
    have hnodup : new.Nodup := List.Nodup.of_map _ hnew
    exact ((List.subperm_of_subset hnodup hsub).perm_of_length_le hlen.le).symm

theorem netStatusUpdated_eq_false_iff {prev new : MultiNicNetworkStatus τ}
    (hprev : DistinctNets prev.computeResults) (hnew : DistinctNets new.computeResults) :
    netStatusUpdated prev new = false ↔ SameStatus prev new := by
  have hany : new.computeResults.any (resultUpdated (GoMap.insertAll
      (prev.computeResults.map fun s => (s.netAddress, s.numOfHost)))) = false ↔
      ∀ status ∈ new.computeResults, status ∈ prev.computeResults := by
    rw [List.any_eq_false]
    refine forall₂_congr fun status _ => ?_
    rw [Bool.not_eq_true, resultUpdated_eq_false_iff hprev]
  rw [netStatusUpdated]
  constructor
  · intro h
    split at h
    · cases h
    · next heq =>
      simp only [not_or, not_not] at heq
      split at h
      · cases h
      · next hlen =>
        exact ⟨heq.1, heq.2.1, heq.2.2.1, heq.2.2.2,
          (perm_iff_length_subset hnew).mpr ⟨not_not.mp hlen, hany.mp h⟩⟩
  · intro h
    obtain ⟨hlen, hsub⟩ := (perm_iff_length_subset hnew).mp h.computeResults
    rw [if_neg (by simp [h.message, h.routeStatus, h.netConfigStatus, h.discoverStatus]),
      if_neg (not_not.mpr hlen)]
    exact hany.mpr hsub

/-! ## The writes -/

section Write

variable (h : NetworkHandler τ) (now : τ) (answer : Option String) (name : String)
  (inst : MultiNicNetworkStatus τ) (spec : CIDRSpec) (status : Option RouteStatus)
  (discoverStatus : DiscoverStatus) (netConfigStatus : Option NetConfigStatus) (message : String)
  (cidrChange : Bool)

/-- Without anything new nothing is sent, and nothing changes but the cache. -/
theorem updateStatus_skip (hsame : netStatusUpdated inst (newStatus now inst spec status
      discoverStatus netConfigStatus message cidrChange) = false) :
    (updateStatus h now answer name inst spec status discoverStatus netConfigStatus message
        cidrChange).1 = { h with cache := h.cache.insert name inst } := by
  rw [updateStatus]
  dsimp only
  rw [if_pos hsame]

/-- Otherwise the new status is sent, and stored if the API server accepts it. -/
theorem updateStatus_send (hnew : ¬ netStatusUpdated inst (newStatus now inst spec status
      discoverStatus netConfigStatus message cidrChange) = false) :
    (updateStatus h now answer name inst spec status discoverStatus netConfigStatus message
        cidrChange).1.updates = h.updates ++ [(name, newStatus now inst spec status discoverStatus
          netConfigStatus message cidrChange)] ∧
      (updateStatus h now answer name inst spec status discoverStatus netConfigStatus message
        cidrChange).1.stored = if answer = none then h.stored.insert name (newStatus now inst spec
          status discoverStatus netConfigStatus message cidrChange) else h.stored := by
  rw [updateStatus]
  dsimp only
  rw [if_neg hnew]
  cases answer with
  | none => exact ⟨rfl, rfl⟩
  | some err => exact ⟨rfl, rfl⟩

theorem updateStatus_netStatus :
    (updateStatus h now answer name inst spec status discoverStatus netConfigStatus message
      cidrChange).2.1 =
      newStatus now inst spec status discoverStatus netConfigStatus message cidrChange := by
  rw [updateStatus]
  dsimp only
  split
  · rfl
  · cases answer with
    | none => rfl
    | some err => rfl

/-- The results of the new status are of distinct networks, as those of the CIDR are. -/
theorem distinctNets_newStatus (hinst : DistinctNets inst.computeResults)
    (hspec : (spec.cidrs.map CIDREntry.netAddress).Nodup) :
    DistinctNets (newStatus now inst spec status discoverStatus netConfigStatus message
      cidrChange).computeResults := by
  cases cidrChange with
  | false => exact hinst
  | true =>
    show ((spec.cidrs.map _).map NicNetworkResult.netAddress).Nodup
    rw [List.map_map]
    exact hspec

/-- Skipped or not, without an error the API server has the returned status, up to the order of
the results and the time. -/
theorem updateStatus_stored (hinst : DistinctNets inst.computeResults)
    (hspec : (spec.cidrs.map CIDREntry.netAddress).Nodup) (hstored : h.stored.lookup name = some inst)
    (hok : (updateStatus h now answer name inst spec status discoverStatus netConfigStatus message
      cidrChange).2.2 = none) :
    ∃ stored, (updateStatus h now answer name inst spec status discoverStatus netConfigStatus message
        cidrChange).1.stored.lookup name = some stored ∧
      SameStatus stored (updateStatus h now answer name inst spec status discoverStatus
        netConfigStatus message cidrChange).2.1 := by
  rw [updateStatus_netStatus]
  have hnew := distinctNets_newStatus now inst spec status discoverStatus netConfigStatus message
    cidrChange hinst hspec
  rw [updateStatus] at hok ⊢
  dsimp only at hok ⊢
  split
  · next hsame => exact ⟨inst, hstored, (netStatusUpdated_eq_false_iff hinst hnew).mp hsame⟩
  · next hupdated =>
    rw [if_neg hupdated] at hok
    cases answer with
    | some err => cases hok
    | none => exact ⟨_, AList.lookup_insert _, .refl _⟩

end Write

/-- A synchronisation without an error returns what the API server has. -/
theorem syncAllStatus_stored {h : NetworkHandler τ} {now : τ} {answer : Option String}
    {name : String} {inst : MultiNicNetworkStatus τ} {spec : CIDRSpec} {routeStatus : RouteStatus}
    {daemonSize infoAvailableSize : Int} {cidrChange : Bool}
    (hstored : h.stored.lookup name = some inst) (hinst : DistinctNets inst.computeResults)
    (hspec : (spec.cidrs.map CIDREntry.netAddress).Nodup)
    (hok : (syncAllStatus h now answer name spec routeStatus daemonSize infoAvailableSize
      cidrChange).2.2 = none) :
    ∃ stored returned, (syncAllStatus h now answer name spec routeStatus daemonSize
        infoAvailableSize cidrChange).1.stored.lookup name = some stored ∧
      (syncAllStatus h now answer name spec routeStatus daemonSize infoAvailableSize
        cidrChange).2.1 = some returned ∧ SameStatus stored returned := by
  rw [syncAllStatus, hstored] at hok ⊢
  dsimp only at hok ⊢
  split
  · next hflag =>
    rw [if_pos hflag] at hok
    cases hok
  · next hflag =>
    rw [if_neg hflag] at hok
    obtain ⟨stored, hlookup, hsame⟩ := updateStatus_stored h now answer name inst spec _ _ _ _ _
      hinst hspec hstored hok
    exact ⟨stored, _, hlookup, rfl, hsame⟩

/-- **A status is compared up to the order of its results and its time.** `updateStatus` skips the
write when the status to store differs in nothing else from the previous one, and otherwise sends
that status, which the API server stores if it accepts it; so a synchronisation that ends without an
error leaves what it returns, up to the order and the time, in the API server. -/
theorem updateStatus_skips_iff {prev new : MultiNicNetworkStatus τ}
    (hprev : DistinctNets prev.computeResults) (hnew : DistinctNets new.computeResults) :
    (netStatusUpdated prev new = false ↔
      prev.message = new.message ∧ prev.routeStatus = new.routeStatus ∧
        prev.netConfigStatus = new.netConfigStatus ∧ prev.discoverStatus = new.discoverStatus ∧
        prev.computeResults.Perm new.computeResults) ∧
    (∀ (h : NetworkHandler τ) (now : τ) (answer : Option String) (name : String) (spec : CIDRSpec)
      (status : Option RouteStatus) (discoverStatus : DiscoverStatus)
      (netConfigStatus : Option NetConfigStatus) (message : String) (cidrChange : Bool),
      (spec.cidrs.map CIDREntry.netAddress).Nodup →
        (SameStatus prev (newStatus now prev spec status discoverStatus netConfigStatus message
            cidrChange) →
          (updateStatus h now answer name prev spec status discoverStatus netConfigStatus message
            cidrChange).1.updates = h.updates ∧
          (updateStatus h now answer name prev spec status discoverStatus netConfigStatus message
            cidrChange).1.stored = h.stored) ∧
        (¬ SameStatus prev (newStatus now prev spec status discoverStatus netConfigStatus message
            cidrChange) →
          (updateStatus h now answer name prev spec status discoverStatus netConfigStatus message
            cidrChange).1.updates = h.updates ++ [(name, newStatus now prev spec status
              discoverStatus netConfigStatus message cidrChange)] ∧
          (updateStatus h now answer name prev spec status discoverStatus netConfigStatus message
            cidrChange).1.stored = if answer = none then h.stored.insert name (newStatus now prev
              spec status discoverStatus netConfigStatus message cidrChange) else h.stored)) ∧
    ∀ (h : NetworkHandler τ) (now : τ) (answer : Option String) (name : String) (spec : CIDRSpec)
      (routeStatus : RouteStatus) (daemonSize infoAvailableSize : Int) (cidrChange : Bool),
      h.stored.lookup name = some prev → (spec.cidrs.map CIDREntry.netAddress).Nodup →
      (syncAllStatus h now answer name spec routeStatus daemonSize infoAvailableSize
        cidrChange).2.2 = none →
      ∃ stored returned, (syncAllStatus h now answer name spec routeStatus daemonSize
          infoAvailableSize cidrChange).1.stored.lookup name = some stored ∧
        (syncAllStatus h now answer name spec routeStatus daemonSize infoAvailableSize
          cidrChange).2.1 = some returned ∧ SameStatus stored returned := by
  refine ⟨?_, ?_, fun h now answer name spec routeStatus daemonSize infoAvailableSize cidrChange
    hstored hspec hok => syncAllStatus_stored hstored hprev hspec hok⟩
  · rw [netStatusUpdated_eq_false_iff hprev hnew]
    constructor
    · intro h
      exact ⟨h.message, h.routeStatus, h.netConfigStatus, h.discoverStatus, h.computeResults⟩
    · rintro ⟨hmessage, hroute, hconfig, hdiscover, hresults⟩
      exact ⟨hmessage, hroute, hconfig, hdiscover, hresults⟩
  · intro h now answer name spec status discoverStatus netConfigStatus message cidrChange hspec
    rw [← netStatusUpdated_eq_false_iff hprev (distinctNets_newStatus now prev spec status
      discoverStatus netConfigStatus message cidrChange hprev hspec)]
    constructor
    · intro hsame
      rw [updateStatus_skip h now answer name prev spec _ _ _ _ _ hsame]
      exact ⟨rfl, rfl⟩
    · intro hupdated
      exact updateStatus_send h now answer name prev spec _ _ _ _ _ hupdated

end Handler

/-- The status of two networks, in one order and in the other. -/
def twoNets (results : List NicNetworkResult) : MultiNicNetworkStatus Nat :=
  ⟨results, ⟨2, 2, 2⟩, some .configComplete, some .allRouteApplied, "", 0⟩

/-- A handler that stores a status of two networks. -/
def twoNetsHandler : NetworkHandler Nat :=
  ⟨(∅ : GoMap String (MultiNicNetworkStatus Nat)).insert "net"
    (twoNets [⟨"10.0.1.0/24", 2⟩, ⟨"10.0.2.0/24", 1⟩]), [], ∅, false⟩

/-- The same results in another order are not sent; another state of the routes is. -/
theorem updateStatus_skips_reordered :
    netStatusUpdated (twoNets [⟨"10.0.1.0/24", 2⟩, ⟨"10.0.2.0/24", 1⟩])
        (twoNets [⟨"10.0.2.0/24", 1⟩, ⟨"10.0.1.0/24", 2⟩]) = false ∧
      (updateStatus twoNetsHandler 7 none "net" (twoNets [⟨"10.0.1.0/24", 2⟩, ⟨"10.0.2.0/24", 1⟩])
        routedSpec (some .allRouteApplied) ⟨2, 2, 2⟩ (some .configComplete) "" false).1.updates =
          [] ∧
      (updateStatus twoNetsHandler 7 none "net" (twoNets [⟨"10.0.1.0/24", 2⟩, ⟨"10.0.2.0/24", 1⟩])
        routedSpec (some .routeUnknown) ⟨2, 2, 2⟩ (some .configComplete) "" false).1.updates =
          [("net", ⟨[⟨"10.0.1.0/24", 2⟩, ⟨"10.0.2.0/24", 1⟩], ⟨2, 2, 2⟩, some .configComplete,
            some .routeUnknown, "", 7⟩)] := by
  obtain ⟨hcompare, hwrite, -⟩ := @updateStatus_skips_iff Nat
    (twoNets [⟨"10.0.1.0/24", 2⟩, ⟨"10.0.2.0/24", 1⟩])
    (twoNets [⟨"10.0.2.0/24", 1⟩, ⟨"10.0.1.0/24", 2⟩]) (by decide) (by decide)
  refine ⟨hcompare.mpr ⟨rfl, rfl, rfl, rfl, .swap _ _ _⟩, ?_, ?_⟩
  · exact ((hwrite _ _ _ _ routedSpec _ _ _ _ _ (by decide)).1 ⟨rfl, rfl, rfl, rfl, .refl _⟩).1
  · have hroute : (some .allRouteApplied : Option RouteStatus) ≠ some .routeUnknown := by decide
    exact ((hwrite _ _ _ _ routedSpec _ _ _ _ _ (by decide)).2 fun h => hroute h.routeStatus).1

end MultiNicCni.Controller
