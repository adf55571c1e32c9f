import MultiNicCni.Controller.CidrHandler

/-!
# Routes and their reported status (`controllers/route_handler.go`, `daemon_connector.go`)

In L3 mode the controller sends each host the routes to the pod CIDRs of the others, and
reports one status for the network. The status passes four layers: the HTTP request
(`putRouteRequest`), the result of a host (`AddRoutesToHost`), the result of all hosts
(`AddRoutes`) and the status (`SyncCIDRRoute`).

What the request to a host comes to is a parameter, chosen for every host: `Outcome`. `AddRoutes` is
modelled with the requests that it sends.

- `addRoutes_spec`: what the loop over the hosts computes, from `applied` and `refused` of the
  outcomes, and `addRoutes_sent`: to whom it sends which request;
- `routeStatus_truthful_iff`: when the status says the truth. The source means to report a
  failed request as a refused connection, but returns before it does, and without
  `forceDelete` it does not look at the results of the hosts.
-/

namespace MultiNicCni.Controller

open Go

/-! ## The request to a daemon -/

/-- `DaemonPod`, with the field that is read. -/
structure DaemonPod where
  hostIP : String
  deriving DecidableEq, Repr

/-- `HostRoute`. -/
structure HostRoute where
  subnet : String
  nextHop : String
  interfaceName : String
  deriving DecidableEq, Repr

/-- `L3ConfigRequest`. -/
structure L3ConfigRequest where
  name : String
  subnet : String
  routes : List HostRoute
  force : Bool
  deriving DecidableEq, Repr

/-- `RouteUpdateResponse`. -/
structure RouteUpdateResponse where
  success : Bool
  message : String
  deriving DecidableEq, Repr

/-- What a request to a daemon comes to. -/
inductive Outcome where
  /-- the request is not delivered, or no response comes -/
  | transportFailure
  /-- a status other than 200 -/
  | notOK (status : String)
  /-- the body ends early -/
  | unreadableBody
  /-- the body does not parse; the fields filled before the error stay -/
  | unparsableBody (filled : RouteUpdateResponse)
  | response (r : RouteUpdateResponse)
  deriving DecidableEq, Repr

/-- `vars.ConnectionRefusedError`. -/
def connectionRefusedError : String := "connection refused"

/-- The settings of the daemons, and the outcome of a request to a host at an address. -/
structure Daemons where
  port : String
  addRoutePath : String
  post : String → String → L3ConfigRequest → Outcome

/-- `GetDaemonAddressByPod`. -/
def getDaemonAddressByPod (port : String) (daemon : DaemonPod) : String :=
  "http://" ++ daemon.hostIP ++ ":" ++ port

/-- `putRouteRequest`: the response, and whether there was no error. -/
def putRouteRequest : Outcome → RouteUpdateResponse × Bool
  -- returned before the message is set
  | .transportFailure => (⟨false, ""⟩, false)
  | .notOK _ => (⟨false, connectionRefusedError⟩, false)
  | .unreadableBody => (⟨false, ""⟩, false)
  | .unparsableBody filled => (filled, false)
  | .response r => (r, true)

/-! ## The routes of the hosts -/

section Routes

variable (daemons : Daemons) (daemonCache : GoMap String DaemonPod) (cidrSpec : CIDRSpec)
  (forceDelete : Bool)

/-- The routes of a host: to every pod CIDR of another host with a daemon, over the interface
of the same network. -/
def hostRoutes (hostName : String) (daemon : DaemonPod) : List HostRoute :=
  let hostInterfaceInfoMap := getHostInterfaceIndexMap cidrSpec.cidrs
  cidrSpec.cidrs.flatMap fun entry => entry.hosts.filterMap fun host => do
    let destDaemon ← daemonCache.lookup host.hostName
    if destDaemon.hostIP = daemon.hostIP then none
    else
      let ifaceInfo ← (← hostInterfaceInfoMap.lookup hostName).lookup entry.interfaceIndex
      -- a missing record reads as the zero value
      let via := ((hostInterfaceInfoMap.lookup host.hostName).bind
        (·.lookup entry.interfaceIndex)).elim "" (·.hostIP)
      some ⟨host.podCIDR, via, ifaceInfo.interfaceName⟩

/-- The body of the request to a host. -/
def requestTo (hostName : String) (daemon : DaemonPod) : L3ConfigRequest where
  name := cidrSpec.config.name
  subnet := cidrSpec.config.subnet
  routes := hostRoutes daemonCache cidrSpec hostName daemon
  force := forceDelete

/-- A request as it is sent. -/
structure RouteRequest where
  hostName : String
  address : String
  body : L3ConfigRequest
  deriving DecidableEq, Repr

/-- The request that `AddRoutesToHost` sends to a host. -/
def routeRequest (hostName : String) (daemon : DaemonPod) : RouteRequest where
  hostName := hostName
  address := getDaemonAddressByPod daemons.port daemon ++ daemons.addRoutePath
  body := requestTo daemonCache cidrSpec forceDelete hostName daemon

/-- What a request comes to. -/
def Daemons.send (r : RouteRequest) : Outcome := daemons.post r.hostName r.address r.body

/-- What the request to a host comes to. -/
def outcomeOf (hostName : String) (daemon : DaemonPod) : Outcome :=
  daemons.send (routeRequest daemons daemonCache cidrSpec forceDelete hostName daemon)

/-- The results of `AddRoutes` so far, and the requests it has sent. -/
structure RoutePass where
  success : Bool
  noConnection : Bool
  sent : List RouteRequest

/-- What `AddRoutes` returns. -/
def RoutePass.report (p : RoutePass) : Bool × Bool := (p.success, p.noConnection)

/-- `AddRoutesToHost`: whether the routes were applied, whether the connection failed, and the
request, if one was sent. -/
def addRoutesToHost (hostName : String) (daemon : DaemonPod) : Bool × Bool × Option RouteRequest :=
  match daemonCache.lookup hostName with
  | none => (false, true, none)
  | some _ =>
    let request := routeRequest daemons daemonCache cidrSpec forceDelete hostName daemon
    let (res, noErr) := putRouteRequest (daemons.send request)
    (noErr && res.success, res.message == connectionRefusedError, some request)

/-- The body of the loop of `AddRoutes`, for one daemon. -/
def addRoutesStep (st : RoutePass) (e : (_ : String) × DaemonPod) : RoutePass :=
  match (getHostInterfaceIndexMap cidrSpec.cidrs).lookup e.1 with
  | none => st
  | some _ =>
    let (change, connectFail, request) :=
      addRoutesToHost daemons daemonCache cidrSpec forceDelete e.1 e.2
    { success := st.success && (change && !connectFail)
      noConnection := st.noConnection || connectFail
      sent := st.sent ++ request.toList }

/-- `AddRoutes`: whether all routes were applied, and whether a connection failed. -/
def addRoutes : RoutePass :=
  daemonCache.entries.foldl (addRoutesStep daemons daemonCache cidrSpec forceDelete)
    ⟨true, false, []⟩

/-- `RouteStatus`. -/
inductive RouteStatus where
  | routeNoApplied
  | applyingRoute
  | routeUnknown
  | allRouteApplied
  | someRouteFailed
  deriving DecidableEq, Repr

/-- `IsL3Mode`. `isMultiNICIPAM` is read from the network of the definition, if there is one. -/
def isL3Mode (isMultiNICIPAM : Option Bool) (vlanMode : String) : Bool :=
  match isMultiNICIPAM with
  | some true => vlanMode == "l3" || vlanMode == "l3s"
  | _ => false

/-- `SyncCIDRRoute`. -/
def syncCIDRRoute (isMultiNICIPAM : Option Bool) : RouteStatus :=
  if isL3Mode isMultiNICIPAM cidrSpec.config.vlanMode then
    let (success, noConnection) := (addRoutes daemons daemonCache cidrSpec forceDelete).report
    if noConnection then .routeUnknown
    else if forceDelete && !success then .someRouteFailed
    else .allRouteApplied
  else .routeNoApplied

end Routes

/-! ## What the loop computes -/

/-- The daemon answered that the routes are applied. -/
def Outcome.applied : Outcome → Bool
  | .response r => r.success
  | _ => false

/-- The controller takes the connection as refused. -/
def Outcome.refused : Outcome → Bool
  | .notOK _ => true
  | .unparsableBody r => r.message == connectionRefusedError
  | .response r => r.message == connectionRefusedError
  | _ => false

theorem putRouteRequest_eq (o : Outcome) :
    ((putRouteRequest o).2 && (putRouteRequest o).1.success) = o.applied ∧
      ((putRouteRequest o).1.message == connectionRefusedError) = o.refused := by
  cases o with
  | transportFailure => exact ⟨rfl, rfl⟩
  | notOK status => exact ⟨rfl, rfl⟩
  | unreadableBody => exact ⟨rfl, rfl⟩
  | unparsableBody filled => exact ⟨rfl, rfl⟩
  | response r => exact ⟨rfl, rfl⟩

theorem isSome_lookup_indexHosts (i : Int) (hosts : List HostInterfaceInfo)
    (m : GoMap String (GoMap Int HostInterfaceInfo)) (hostName : String) :
    ((hosts.foldl (indexHost i) m).lookup hostName).isSome = true ↔
      (m.lookup hostName).isSome = true ∨ ∃ host ∈ hosts, host.hostName = hostName := by
  induction hosts generalizing m with
  | nil => simp
  | cons host hosts ih =>
    rw [List.foldl_cons, ih, indexHost]
    by_cases hname : host.hostName = hostName
    · subst hname
      simp
    · rw [AList.lookup_insert_ne (Ne.symm hname)]
      simp [hname]

/-- A host is in the map of the interfaces iff an entry lists it. -/
theorem isSome_lookup_getHostInterfaceIndexMap (entries : List CIDREntry) (hostName : String) :
    ((getHostInterfaceIndexMap entries).lookup hostName).isSome = true ↔
      ∃ entry ∈ entries, ∃ host ∈ entry.hosts, host.hostName = hostName := by
  have hloop : ∀ m : GoMap String (GoMap Int HostInterfaceInfo),
      ((entries.foldl (fun m entry => entry.hosts.foldl (indexHost entry.interfaceIndex) m)
        m).lookup hostName).isSome = true ↔ (m.lookup hostName).isSome = true ∨
          ∃ entry ∈ entries, ∃ host ∈ entry.hosts, host.hostName = hostName := by
    induction entries with
    | nil => simp
    | cons entry entries ih =>
      intro m
      rw [List.foldl_cons, ih, isSome_lookup_indexHosts, or_assoc]
      simp
  rw [getHostInterfaceIndexMap, hloop]
  simp

section Status

variable (daemons : Daemons) (daemonCache : GoMap String DaemonPod) (cidrSpec : CIDRSpec)
  (forceDelete : Bool)

/-- A host that is both in the daemon cache, with its daemon, and in the CIDR. -/
def IsTarget (hostName : String) (daemon : DaemonPod) : Prop :=
  daemonCache.lookup hostName = some daemon ∧
    ∃ entry ∈ cidrSpec.cidrs, ∃ host ∈ entry.hosts, host.hostName = hostName

/-- A turn of the loop for a target, and for another daemon. -/
theorem addRoutesStep_cases (st : RoutePass) {hostName : String} {daemon : DaemonPod}
    (hcache : daemonCache.lookup hostName = some daemon) :
    (IsTarget daemonCache cidrSpec hostName daemon ∧
        addRoutesStep daemons daemonCache cidrSpec forceDelete st ⟨hostName, daemon⟩ =
          { success := st.success &&
              ((outcomeOf daemons daemonCache cidrSpec forceDelete hostName daemon).applied &&
                !(outcomeOf daemons daemonCache cidrSpec forceDelete hostName daemon).refused)
            noConnection := st.noConnection ||
              (outcomeOf daemons daemonCache cidrSpec forceDelete hostName daemon).refused
            sent := st.sent ++
              [routeRequest daemons daemonCache cidrSpec forceDelete hostName daemon] }) ∨
      (¬ IsTarget daemonCache cidrSpec hostName daemon ∧
        addRoutesStep daemons daemonCache cidrSpec forceDelete st ⟨hostName, daemon⟩ = st) := by
  have hlisted := isSome_lookup_getHostInterfaceIndexMap cidrSpec.cidrs hostName
  unfold addRoutesStep
  cases hmap : (getHostInterfaceIndexMap cidrSpec.cidrs).lookup hostName with
  | none =>
    rw [hmap] at hlisted
    exact Or.inr ⟨fun h => absurd (hlisted.mpr h.2) (by simp), rfl⟩
  | some byIndex =>
    rw [hmap] at hlisted
    refine Or.inl ⟨⟨hcache, hlisted.mp rfl⟩, ?_⟩
    obtain ⟨happlied, hrefused⟩ := putRouteRequest_eq
      (outcomeOf daemons daemonCache cidrSpec forceDelete hostName daemon)
    rw [← happlied, ← hrefused]
    simp only [addRoutesToHost, hcache]
    rfl

/-- What the loop computes over any of the daemons, from any results. -/
theorem foldl_addRoutesStep (l : List ((_ : String) × DaemonPod)) (st : RoutePass)
    (hl : ∀ e ∈ l, daemonCache.lookup e.1 = some e.2) :
    ((l.foldl (addRoutesStep daemons daemonCache cidrSpec forceDelete) st).success = true ↔
      st.success = true ∧ ∀ e ∈ l, IsTarget daemonCache cidrSpec e.1 e.2 →
        (outcomeOf daemons daemonCache cidrSpec forceDelete e.1 e.2).applied = true ∧
          (outcomeOf daemons daemonCache cidrSpec forceDelete e.1 e.2).refused = false) ∧
    ((l.foldl (addRoutesStep daemons daemonCache cidrSpec forceDelete) st).noConnection = true ↔
      st.noConnection = true ∨ ∃ e ∈ l, IsTarget daemonCache cidrSpec e.1 e.2 ∧
        (outcomeOf daemons daemonCache cidrSpec forceDelete e.1 e.2).refused = true) ∧
    ∃ requests, (l.foldl (addRoutesStep daemons daemonCache cidrSpec forceDelete) st).sent =
        st.sent ++ requests ∧ (requests.map (·.hostName)).Sublist (l.map Sigma.fst) ∧
      ∀ r, r ∈ requests ↔ ∃ e ∈ l, IsTarget daemonCache cidrSpec e.1 e.2 ∧
        r = routeRequest daemons daemonCache cidrSpec forceDelete e.1 e.2 := by
  induction l generalizing st with
  | nil => exact ⟨by simp, by simp, [], by simp, by simp, by simp⟩
  | cons e l ih =>
    obtain ⟨hcache, hrest⟩ := List.forall_mem_cons.mp hl
    obtain ⟨ihsuccess, ihfail, requests, ihsent, ihnames, ihmem⟩ :=
      ih (addRoutesStep daemons daemonCache cidrSpec forceDelete st e) hrest
    rw [List.foldl_cons, ihsuccess, ihfail, ihsent]
    rcases addRoutesStep_cases daemons daemonCache cidrSpec forceDelete st hcache with
      ⟨htarget, hstep⟩ | ⟨htarget, hstep⟩
    · rw [hstep]
      refine ⟨by simp [htarget, and_assoc], by simp [htarget, or_assoc],
        routeRequest daemons daemonCache cidrSpec forceDelete e.1 e.2 :: requests, by simp,
        ihnames.cons_cons e.1, ?_⟩
      intro r
      rw [List.mem_cons, ihmem]
      simp [htarget]
    · rw [hstep]
      refine ⟨by simp [htarget], by simp [htarget], requests, rfl, ihnames.cons e.1, ?_⟩
      intro r
      rw [ihmem]
      simp [htarget]

/-- What `AddRoutes` computes from the outcomes of the requests. -/
theorem addRoutes_spec :
    ((addRoutes daemons daemonCache cidrSpec forceDelete).success = true ↔
      ∀ hostName daemon, IsTarget daemonCache cidrSpec hostName daemon →
        (outcomeOf daemons daemonCache cidrSpec forceDelete hostName daemon).applied = true ∧
          (outcomeOf daemons daemonCache cidrSpec forceDelete hostName daemon).refused = false) ∧
    ((addRoutes daemons daemonCache cidrSpec forceDelete).noConnection = true ↔
      ∃ hostName daemon, IsTarget daemonCache cidrSpec hostName daemon ∧
        (outcomeOf daemons daemonCache cidrSpec forceDelete hostName daemon).refused = true) := by
  obtain ⟨hsuccess, hfail, -⟩ := foldl_addRoutesStep daemons daemonCache cidrSpec forceDelete
    daemonCache.entries ⟨true, false, []⟩ fun e he => AList.mem_lookup_iff.mpr he
  constructor
  · rw [addRoutes, hsuccess]
    constructor
    · intro h hostName daemon htarget
      exact h.2 ⟨hostName, daemon⟩ (AList.mem_lookup_iff.mp htarget.1) htarget
    · intro h
      exact ⟨rfl, fun e _ htarget => h e.1 e.2 htarget⟩
  · rw [addRoutes, hfail]
    constructor
    · rintro (hfalse | ⟨e, -, htarget, hrefused⟩)
      · cases hfalse
      · exact ⟨e.1, e.2, htarget, hrefused⟩
    · rintro ⟨hostName, daemon, htarget, hrefused⟩
      exact Or.inr ⟨⟨hostName, daemon⟩, AList.mem_lookup_iff.mp htarget.1, htarget, hrefused⟩

/-- `AddRoutes` sends one request to every target, and no other. -/
theorem addRoutes_sent :
    ((addRoutes daemons daemonCache cidrSpec forceDelete).sent.map (·.hostName)).Nodup ∧
      ∀ r, r ∈ (addRoutes daemons daemonCache cidrSpec forceDelete).sent ↔
        ∃ hostName daemon, IsTarget daemonCache cidrSpec hostName daemon ∧
          r = routeRequest daemons daemonCache cidrSpec forceDelete hostName daemon := by
  obtain ⟨-, -, requests, hsent, hnames, hmem⟩ := foldl_addRoutesStep daemons daemonCache cidrSpec
    forceDelete daemonCache.entries ⟨true, false, []⟩ fun e he => AList.mem_lookup_iff.mpr he
  rw [List.nil_append] at hsent
  rw [addRoutes, hsent]
  refine ⟨hnames.nodup daemonCache.nodupKeys, fun r => (hmem r).trans ?_⟩
  constructor
  · rintro ⟨e, -, htarget, hr⟩
    exact ⟨e.1, e.2, htarget, hr⟩
  · rintro ⟨hostName, daemon, htarget, hr⟩
    exact ⟨⟨hostName, daemon⟩, AList.mem_lookup_iff.mp htarget.1, htarget, hr⟩

end Status

/-! ## The status -/

section Truthful

variable (daemons : Daemons) (daemonCache : GoMap String DaemonPod) (cidrSpec : CIDRSpec)
  (forceDelete : Bool)

/-- The status says the truth: all routes are applied only if every target answered so, and it
is unknown whenever a request to a target was not delivered. -/
def Truthful (status : RouteStatus) : Prop :=
  (status = .allRouteApplied → ∀ hostName daemon, IsTarget daemonCache cidrSpec hostName daemon →
      (outcomeOf daemons daemonCache cidrSpec forceDelete hostName daemon).applied = true) ∧
    ((∃ hostName daemon, IsTarget daemonCache cidrSpec hostName daemon ∧
        outcomeOf daemons daemonCache cidrSpec forceDelete hostName daemon = .transportFailure) →
      status = .routeUnknown)

/-- Some target refuses; or every request to a target is delivered and, unless deletion is
forced, is answered with success. -/
def OutcomesReported : Prop :=
  (∃ hostName daemon, IsTarget daemonCache cidrSpec hostName daemon ∧
      (outcomeOf daemons daemonCache cidrSpec forceDelete hostName daemon).refused = true) ∨
    ∀ hostName daemon, IsTarget daemonCache cidrSpec hostName daemon →
      outcomeOf daemons daemonCache cidrSpec forceDelete hostName daemon ≠ .transportFailure ∧
        (forceDelete = true ∨
          (outcomeOf daemons daemonCache cidrSpec forceDelete hostName daemon).applied = true)

/-- **The reported route status is truthful exactly when** some target refuses the connection,
or all requests are delivered and failures are looked at or do not occur. -/
theorem routeStatus_truthful_iff {isMultiNICIPAM : Option Bool}
    (hl3 : isL3Mode isMultiNICIPAM cidrSpec.config.vlanMode = true) :
    Truthful daemons daemonCache cidrSpec forceDelete
        (syncCIDRRoute daemons daemonCache cidrSpec forceDelete isMultiNICIPAM) ↔
      OutcomesReported daemons daemonCache cidrSpec forceDelete := by
  obtain ⟨hsuccess, hfail⟩ := addRoutes_spec daemons daemonCache cidrSpec forceDelete
  have hstatus : syncCIDRRoute daemons daemonCache cidrSpec forceDelete isMultiNICIPAM =
      if (addRoutes daemons daemonCache cidrSpec forceDelete).noConnection then .routeUnknown
      else if forceDelete && !(addRoutes daemons daemonCache cidrSpec forceDelete).success
        then .someRouteFailed
      else .allRouteApplied := by
    rw [syncCIDRRoute, if_pos hl3]
    rfl
  rw [hstatus]
  by_cases hrefused : (addRoutes daemons daemonCache cidrSpec forceDelete).noConnection = true
  · rw [if_pos hrefused]
    exact ⟨fun _ => Or.inl (hfail.mp hrefused), fun _ => ⟨nofun, fun _ => rfl⟩⟩
  · rw [if_neg hrefused]
    have hnone : ¬ ∃ hostName daemon, IsTarget daemonCache cidrSpec hostName daemon ∧
        (outcomeOf daemons daemonCache cidrSpec forceDelete hostName daemon).refused = true :=
      fun h => hrefused (hfail.mpr h)
    constructor
    · rintro ⟨hall, hunknown⟩
      refine Or.inr ?_
      intro hostName daemon htarget
      constructor
      · -- an undelivered request would have to be reported as unknown
        intro htransport
        have := hunknown ⟨hostName, daemon, htarget, htransport⟩
        split at this <;> cases this
      · by_cases hforce : forceDelete = true
        · exact Or.inl hforce
        · refine Or.inr (hall ?_ hostName daemon htarget)
          simp [hforce]
    · rintro (h | hreported)
      · exact absurd h hnone
      constructor
      · intro hall hostName daemon htarget
        rcases (hreported hostName daemon htarget).2 with hforce | happlied
        · subst hforce
          rw [Bool.true_and] at hall
          split at hall
          · cases hall
          · next hnot =>
            rw [Bool.not_eq_true, Bool.not_eq_false'] at hnot
            exact (hsuccess.mp hnot hostName daemon htarget).1
        · exact happlied
      · rintro ⟨hostName, daemon, htarget, htransport⟩
        exact absurd htransport (hreported hostName daemon htarget).1

end Truthful

/-! ## Runs -/

/-- A network in L3 mode with hosts `a` and `b`. -/
def routedSpec : CIDRSpec :=
  ⟨{ name := "net", subnet := "10.0.0.0/16", masterNetAddrs := [], hostBlock := 8,
      interfaceBlock := 0, excludeCIDRs := [], vlanMode := "l3" },
    [⟨"192.168.0.0/24", 0, "10.0.0.0/16",
      [⟨0, "a", "eth1", "192.168.0.1", "10.0.0.0/24", ""⟩,
        ⟨1, "b", "eth1", "192.168.0.2", "10.0.1.0/24", ""⟩]⟩]⟩

/-- The daemons of both hosts. -/
def routedCache : GoMap String DaemonPod :=
  ((∅ : GoMap String DaemonPod).insert "a" ⟨"172.16.0.1"⟩).insert "b" ⟨"172.16.0.2"⟩

/-- Host `a` applies the routes; what the request to another host comes to is given. -/
def daemonsWith (other : Outcome) : Daemons :=
  { port := "11000", addRoutePath := "/addl3"
    post := fun hostName _ _ => if hostName = "a" then .response ⟨true, ""⟩ else other }

example : hostRoutes routedCache routedSpec "a" ⟨"172.16.0.1"⟩ =
    [⟨"10.0.1.0/24", "192.168.0.2", "eth1"⟩] := by decide +kernel

/-- With forced deletion a failed answer is reported. -/
theorem routeStatus_truthful_failed :
    Truthful (daemonsWith (.response ⟨false, "no route"⟩)) routedCache routedSpec true
      (syncCIDRRoute (daemonsWith (.response ⟨false, "no route"⟩)) routedCache routedSpec true
        (some true)) := by
  refine (routeStatus_truthful_iff _ _ _ _ (by decide)).mpr (Or.inr ?_)
  intro hostName daemon _
  refine ⟨?_, Or.inl rfl⟩
  show (if hostName = "a" then _ else _) ≠ _
  split <;> exact nofun

/-- A request that is not delivered is reported as applied. -/
theorem routeStatus_untruthful_undelivered :
    isL3Mode (some true) routedSpec.config.vlanMode = true ∧
      syncCIDRRoute (daemonsWith .transportFailure) routedCache routedSpec false (some true) =
        .allRouteApplied ∧
      ¬ Truthful (daemonsWith .transportFailure) routedCache routedSpec false
        (syncCIDRRoute (daemonsWith .transportFailure) routedCache routedSpec false (some true)) := by
  have hstatus : syncCIDRRoute (daemonsWith .transportFailure) routedCache routedSpec false
      (some true) = .allRouteApplied := by decide +kernel
  refine ⟨by decide, hstatus, ?_⟩
  rw [hstatus]
  rintro ⟨-, hunknown⟩
  have htarget : IsTarget routedCache routedSpec "b" ⟨"172.16.0.2"⟩ :=
    ⟨rfl, _, List.mem_cons_self, _, List.mem_cons_of_mem _ List.mem_cons_self, rfl⟩
  cases hunknown ⟨"b", ⟨"172.16.0.2"⟩, htarget, by decide +kernel⟩

end MultiNicCni.Controller
