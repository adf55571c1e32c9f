import MultiNicCni.Controller.Mesh
import MultiNicCni.Daemon.ForcedApply

/-!
# From the status of a network to the kernels of its hosts

`AddRoutes` of the controller sends every host with a daemon the routes of a network, and the daemon
of the host applies them (`ApplyL3Config`). Here the two are put together: the hosts of a cluster,
each with its table file, its rules and its routes, and a pass of `AddRoutes` over them. Requests and
responses may be lost.

- `pass`: `AddRoutes` with the hosts; `pass_status` shows that it reports what the model of the
  controller alone reports, and `pass_host` what it does to a host;
- `Routed`: what a host has for a network, given the routes it was sent;
- `l3_mesh_installed`: **if a pass that forces deletion ends with the status that all routes are
  applied, every host has the rule and the routes of its links and no others in the table of the
  network, until the next request about the network**, whatever is asked of the daemons about
  other networks.
-/

namespace MultiNicCni.Cluster

open Go
open Controller (DaemonPod Daemons HostRoute L3ConfigRequest Outcome RouteStatus
  IsTarget getHostInterfaceIndexMap hostRoutes requestTo putRouteRequest addRoutes addRoutesStep
  addRoutesToHost addRoutes_spec isL3Mode syncCIDRRoute links hostRoutes_eq_links RoutePass
  isSome_lookup_getHostInterfaceIndexMap connectionRefusedError)
open Router

variable {calls : RouteCalls} {routes : List HostRoute} {name : String} {req : L3ConfigRequest}
  {sys : System} {names : String → Prop}

/-! ## Requests to the daemons -/

/-- What becomes of a request to a daemon. What the controller sees of one that goes wrong is never
that the routes are applied. -/
inductive Delivery where
  /-- the daemon does not get the request -/
  | lost (seen : Outcome) (hseen : seen.applied = false)
  /-- the daemon serves the request, but its response is lost -/
  | unheard (seen : Outcome) (hseen : seen.applied = false)
  | answered

/-- A request to the daemon of a host, with what the calls to the system answer meanwhile. -/
structure Contact where
  calls : RouteCalls
  order : GoMap.EntryOrder Link (List Route)
  delivery : Delivery

/-- The host after the request, and what the controller sees. -/
def Contact.post (x : Contact) (sys : System) (req : L3ConfigRequest) : System × Outcome :=
  match x.delivery with
  | .lost seen _ => (sys, seen)
  | .unheard seen _ => ((applyL3Config x.calls x.order sys (.ok req)).1, seen)
  | .answered =>
    ((applyL3Config x.calls x.order sys (.ok req)).1,
      .response (applyL3Config x.calls x.order sys (.ok req)).2)

/-- The hosts of a cluster by name. -/
abbrev Hosts : Type := String → System

variable {hosts : Hosts}

section Pass

variable (xs : String → Contact) (daemonCache : GoMap String DaemonPod) (cidrSpec : CIDRSpec)
  (forceDelete : Bool)

/-- The body of the loop of `AddRoutes`, for one daemon: the host serves its request. -/
def passStep (st : Hosts × Bool × Bool) (e : (_ : String) × DaemonPod) : Hosts × Bool × Bool :=
  match (getHostInterfaceIndexMap cidrSpec.cidrs).lookup e.1 with
  | none => st
  | some _ =>
    let (sys, outcome) := (xs e.1).post (st.1 e.1) (requestTo daemonCache cidrSpec forceDelete e.1 e.2)
    let (res, noErr) := putRouteRequest outcome
    let change := noErr && res.success
    let connectFail := res.message == connectionRefusedError
    (Function.update st.1 e.1 sys, st.2.1 && (change && !connectFail), st.2.2 || connectFail)

/-- `AddRoutes` over the hosts of the cluster. -/
def pass (hosts : Hosts) : Hosts × Bool × Bool :=
  daemonCache.entries.foldl (passStep xs daemonCache cidrSpec forceDelete) (hosts, true, false)

/-- `SyncCIDRRoute` over the hosts of the cluster. -/
def syncRoutes (isMultiNICIPAM : Option Bool) (hosts : Hosts) : Hosts × RouteStatus :=
  if isL3Mode isMultiNICIPAM cidrSpec.config.vlanMode then
    let (hosts, success, noConnection) := pass xs daemonCache cidrSpec forceDelete hosts
    (hosts, if noConnection then .routeUnknown
      else if forceDelete && !success then .someRouteFailed
      else .allRouteApplied)
  else (hosts, .routeNoApplied)

/-- The daemons as the controller sees them: the outcome of a request to a host. -/
def daemonsOf (port addRoutePath : String) (hosts : Hosts) : Daemons where
  port := port
  addRoutePath := addRoutePath
  post hostName _ req := ((xs hostName).post (hosts hostName) req).2

/-- The host of a daemon after its turn. -/
def visit (hosts : Hosts) (e : (_ : String) × DaemonPod) : System :=
  match (getHostInterfaceIndexMap cidrSpec.cidrs).lookup e.1 with
  | none => hosts e.1
  | some _ =>
    ((xs e.1).post (hosts e.1) (requestTo daemonCache cidrSpec forceDelete e.1 e.2)).1

variable {xs daemonCache cidrSpec forceDelete}

/-- A turn changes the host of its daemon only, and reports what the controller alone reports. -/
theorem passStep_eq (port addRoutePath : String) {st : Hosts × Bool × Bool} {p : RoutePass}
    {e : (_ : String) × DaemonPod} (hcached : daemonCache.lookup e.1 = some e.2)
    (hst : st.1 e.1 = hosts e.1) (hp : st.2 = p.report) :
    passStep xs daemonCache cidrSpec forceDelete st e =
      (Function.update st.1 e.1 (visit xs daemonCache cidrSpec forceDelete hosts e),
        (addRoutesStep (daemonsOf xs port addRoutePath hosts) daemonCache cidrSpec forceDelete p
          e).report) := by
  unfold passStep visit addRoutesStep
  cases (getHostInterfaceIndexMap cidrSpec.cidrs).lookup e.1 with
  | none =>
    dsimp only
    rw [← hst, Function.update_eq_self, ← hp]
  | some _ =>
    dsimp only [addRoutesToHost]
    rw [hcached, hst, hp]
    rfl

/-- **The loop visits each host once.** -/
theorem foldl_passStep (port addRoutePath : String) (l : List ((_ : String) × DaemonPod))
    (hkeys : (l.map Sigma.fst).Nodup) (hcached : ∀ e ∈ l, daemonCache.lookup e.1 = some e.2)
    (st : Hosts × Bool × Bool) (hst : ∀ e ∈ l, st.1 e.1 = hosts e.1) {p : RoutePass}
    (hp : st.2 = p.report) :
    (l.foldl (passStep xs daemonCache cidrSpec forceDelete) st).2 =
        (l.foldl (addRoutesStep (daemonsOf xs port addRoutePath hosts) daemonCache cidrSpec
          forceDelete) p).report ∧
      (∀ e ∈ l, (l.foldl (passStep xs daemonCache cidrSpec forceDelete) st).1 e.1 =
        visit xs daemonCache cidrSpec forceDelete hosts e) ∧
      ∀ hostName, hostName ∉ l.map Sigma.fst →
        (l.foldl (passStep xs daemonCache cidrSpec forceDelete) st).1 hostName = st.1 hostName := by
  induction l generalizing st p with
  | nil => exact ⟨hp, fun e he => absurd he List.not_mem_nil, fun _ _ => rfl⟩
  | cons e l ih =>
    obtain ⟨hnot, hkeys⟩ := List.nodup_cons.mp hkeys
    obtain ⟨hcache, hcached⟩ := List.forall_mem_cons.mp hcached
    obtain ⟨hfirst, hst⟩ := List.forall_mem_cons.mp hst
    have hother : ∀ e' ∈ l, e'.1 ≠ e.1 := fun e' he' heq =>
      hnot (heq ▸ List.mem_map_of_mem he')
    rw [List.foldl_cons, List.foldl_cons, passStep_eq port addRoutePath hcache hfirst hp]
    obtain ⟨hreport, hvisited, hrest⟩ := ih hkeys hcached
      (Function.update st.1 e.1 (visit xs daemonCache cidrSpec forceDelete hosts e),
        (addRoutesStep (daemonsOf xs port addRoutePath hosts) daemonCache cidrSpec forceDelete p
          e).report)
      (fun e' he' => (Function.update_of_ne (hother e' he') ..).trans (hst e' he')) rfl
    refine ⟨hreport, List.forall_mem_cons.mpr ⟨?_, hvisited⟩, ?_⟩
    · rw [hrest e.1 hnot]
      exact Function.update_self ..
    · intro hostName hmem
      rw [List.map_cons, List.mem_cons, not_or] at hmem
      rw [hrest hostName hmem.2]
      exact Function.update_of_ne hmem.1 ..

/-- A pass reports what the controller alone reports. -/
theorem pass_status (port addRoutePath : String) (hosts : Hosts) :
    (pass xs daemonCache cidrSpec forceDelete hosts).2 =
      (addRoutes (daemonsOf xs port addRoutePath hosts) daemonCache cidrSpec forceDelete).report :=
  (foldl_passStep port addRoutePath daemonCache.entries daemonCache.nodupKeys
    (fun _ he => AList.mem_lookup_iff.mpr he) (hosts, true, false) (fun _ _ => rfl) rfl).1

/-- The status is the one of the controller alone. -/
theorem syncRoutes_status (port addRoutePath : String) (isMultiNICIPAM : Option Bool)
    (hosts : Hosts) :
    (syncRoutes xs daemonCache cidrSpec forceDelete isMultiNICIPAM hosts).2 =
      syncCIDRRoute (daemonsOf xs port addRoutePath hosts) daemonCache cidrSpec forceDelete
        isMultiNICIPAM := by
  unfold syncRoutes syncCIDRRoute
  rw [← pass_status port addRoutePath hosts]
  split
  · rfl
  · rfl

/-- A pass visits every host with a daemon, and no other. -/
theorem pass_host (hosts : Hosts) (hostName : String) :
    (∀ daemon, daemonCache.lookup hostName = some daemon →
      (pass xs daemonCache cidrSpec forceDelete hosts).1 hostName =
        visit xs daemonCache cidrSpec forceDelete hosts ⟨hostName, daemon⟩) ∧
      (daemonCache.lookup hostName = none →
        (pass xs daemonCache cidrSpec forceDelete hosts).1 hostName = hosts hostName) := by
  obtain ⟨-, hvisited, hrest⟩ := foldl_passStep "" "" daemonCache.entries daemonCache.nodupKeys
    (fun _ he => AList.mem_lookup_iff.mpr he) (hosts, true, false) (fun _ _ => rfl)
    (show _ = RoutePass.report ⟨true, false, []⟩ from rfl)
  constructor
  · intro daemon hlookup
    exact hvisited ⟨hostName, daemon⟩ (AList.mem_lookup_iff.mp hlookup)
  · intro hlookup
    exact hrest hostName (AList.lookup_eq_none.mp hlookup)

end Pass

/-! ## What a host has for a network -/

/-- The table of a network: the rule of its subnet, and the given routes as far as their links are
found and the main table does not have them. -/
structure Routed (calls : RouteCalls) (sys : System) (name subnet : String)
    (routes : List HostRoute) : Prop where
  table : tableIDOf sys name ≠ -1
  rule : rulesOf sys (tableIDOf sys name) = [ruleOf subnet (tableIDOf sys name)]
  all : ∀ hostRoute ∈ routes, ∀ index, calls.linkByName hostRoute.interfaceName = some index →
    routeOf (tableIDOf sys name) index hostRoute ∈ routesOf sys (tableIDOf sys name) ∨
      Seen calls sys index (routeOf (tableIDOf sys name) index hostRoute)
  only : ∀ route ∈ routesOf sys (tableIDOf sys name), ∃ hostRoute ∈ routes, ∃ index,
    calls.linkByName hostRoute.interfaceName = some index ∧
      route = routeOf (tableIDOf sys name) index hostRoute

theorem mem_missing {id : Int} {route : Route} :
    route ∈ missing calls sys id routes ↔ ∃ hostRoute ∈ routes, ∃ index,
      calls.linkByName hostRoute.interfaceName = some index ∧
        ¬ Seen calls sys index (routeOf id index hostRoute) ∧
        route = routeOf id index hostRoute := by
  rw [missing, List.mem_filterMap]
  refine exists_congr fun hostRoute => and_congr_right fun _ => ?_
  cases calls.linkByName hostRoute.interfaceName with
  | none => simp
  | some index =>
    have hseen : Seen calls sys index (routeOf id index hostRoute) ↔
        (isRouteExist calls sys (routeOf id index hostRoute) ⟨0, index⟩).1 = true :=
      (@isRouteExist_iff _ sys calls ⟨0, index⟩).symm
    dsimp only
    constructor
    · intro h
      split at h
      · cases h
      · next hnot => exact ⟨index, rfl, fun hs => hnot (hseen.mp hs), (Option.some.inj h).symm⟩
    · rintro ⟨index', hindex, hnot, rfl⟩
      obtain rfl := Option.some.inj hindex
      rw [if_neg fun hexists => hnot (hseen.mpr hexists)]

section Host

variable {base : String} (hbase : BaseFile names base)
include hbase

/-- **A forced request that succeeds routes the host.** -/
theorem routed_of_forced (hmain : mainTable ∈ usedIDs base) (h : CleanlyServed names base sys)
    (hworks : calls.Works) (hname : names req.name) (hforce : req.force = true)
    (order : GoMap.EntryOrder Link (List Route))
    (hsuccess : (applyL3Config calls order sys (.ok req)).2.success = true) :
    Routed calls (applyL3Config calls order sys (.ok req)).1 req.name req.subnet req.routes := by
  obtain ⟨hid, added, hperm, hsys⟩ :=
    h.forced_success hbase hworks hname hforce rfl rfl hmain order hsuccess
  have hanew := h.anew hbase hworks hname hforce rfl rfl
  generalize hsys₀ : withoutNetwork sys req.name = sys₀ at *
  generalize hnew : newID sys₀.rtTables req.name = id at *
  obtain ⟨hrules, hroutes⟩ := hanew.empty hid
  rw [rulesOf] at hrules
  rw [routesOf] at hroutes
  have htable : tableIDOf (applyL3Config calls order sys (.ok req)).1 req.name = id := by
    rw [hsys]
    exact hanew.found hid
  have hadded : routesOf (applyL3Config calls order sys (.ok req)).1 id = added := by
    rw [hsys, routesOf, List.filter_append, hroutes, List.nil_append, List.filter_eq_self]
    intro route hroute
    obtain ⟨hostRoute, -, index, -, -, rfl⟩ := mem_missing.mp (hperm.mem_iff.mp hroute)
    exact decide_eq_true rfl
  refine ⟨htable ▸ hid, ?_, ?_, ?_⟩
  · rw [htable, hsys, rulesOf, List.filter_append, hrules]
    simp [ruleOf]
  · intro hostRoute hmem index hlink
    rw [htable, hadded]
    by_cases hseen : Seen calls sys₀ index (routeOf id index hostRoute)
    · exact Or.inr (hseen.mono (by rw [hsys]))
    · exact Or.inl (hperm.mem_iff.mpr (mem_missing.mpr ⟨hostRoute, hmem, index, hlink, hseen, rfl⟩))
  · intro route hroute
    rw [htable, hadded] at hroute
    obtain ⟨hostRoute, hmem, index, hlink, -, rfl⟩ := mem_missing.mp (hperm.mem_iff.mp hroute)
    exact ⟨hostRoute, hmem, index, hlink, by rw [htable]⟩

/-- A request about another network changes neither the table of a network nor the main table. -/
theorem serve_other (hmain : mainTable ∈ usedIDs base) (h : CleanlyServed names base sys)
    {other : String} (hname : names name) (hne : name ≠ other) (htable : tableIDOf sys name ≠ -1)
    {r : Request} (hr : r.About names other) :
    tableIDOf (r.serve sys).1 name = tableIDOf sys name ∧
      ∀ table, table = tableIDOf sys name ∨ table = mainTable →
        rulesOf (r.serve sys).1 table = rulesOf sys table ∧
          routesOf (r.serve sys).1 table = routesOf sys table := by
  obtain ⟨entries, hclean⟩ := h.clean hbase
  obtain ⟨entries', hmoves⟩ := Request.moves hbase hr hclean.configured
  have hisolates := hmoves.isolates hbase hclean.configured hr.1
  have hsame := hisolates.others name hne
  -- neither table has the number of a line of the other network
  have hnot : ∀ {es : List (Int × String)} {sys' : System}, Configured names base es sys' →
      tableIDOf sys' name = tableIDOf sys name → ∀ table,
        table = tableIDOf sys name ∨ table = mainTable → table ≠ tableIDOf sys' other := by
    intro es sys' hconf heq table hor htable'
    rcases hor with rfl | rfl
    · have hmem := (hconf.mem_iff hbase hname).mpr ⟨heq, htable⟩
      have hmem' := (hconf.mem_iff hbase hr.1).mpr ⟨htable'.symm, htable⟩
      exact hne (hconf.entries.id_unique hmem hmem')
    · have hmem := (hconf.mem_iff hbase hr.1).mpr ⟨htable'.symm, by decide⟩
      exact hconf.entries.id_unused hmem hmain
  refine ⟨hsame, fun table hor => hisolates.tables table ?_ ?_⟩
  · exact hnot hclean.configured rfl table hor
  · exact hnot hmoves.configured hsame table hor

omit hbase in
theorem seen_congr {sys' : System} {index : Int} {route : Route}
    (hroutes : routesOf sys' mainTable = routesOf sys mainTable) :
    Seen calls sys' index route ↔ Seen calls sys index route := by
  have hmem : ∀ r, (r ∈ sys'.routes ∧ r.table = mainTable) ↔ (r ∈ sys.routes ∧ r.table = mainTable) := by
    intro r
    have := congrArg (r ∈ ·) hroutes
    simpa [routesOf] using this
  unfold Seen
  refine and_congr_right fun _ => exists_congr fun r => ?_
  rw [← and_assoc, hmem r, and_assoc]

/-- Requests about other networks leave a host routed. -/
theorem Routed.serve_other (hmain : mainTable ∈ usedIDs base) (h : CleanlyServed names base sys)
    {subnet : String} (hname : names name) (hrouted : Routed calls sys name subnet routes)
    {r : Request} {other : String} (hne : name ≠ other) (hr : r.About names other) :
    Routed calls (r.serve sys).1 name subnet routes := by
  obtain ⟨htable, hsame⟩ := Cluster.serve_other hbase hmain h hname hne hrouted.table hr
  obtain ⟨hrules, hroutes⟩ := hsame _ (Or.inl rfl)
  obtain ⟨-, hmainroutes⟩ := hsame _ (Or.inr rfl)
  refine ⟨by rw [htable]; exact hrouted.table, ?_, ?_, ?_⟩
  · rw [htable, hrules]
    exact hrouted.rule
  · intro hostRoute hmem index hlink
    rw [htable, hroutes, seen_congr hmainroutes]
    exact hrouted.all hostRoute hmem index hlink
  · rw [htable, hroutes]
    exact hrouted.only

/-- **A host stays routed** while the requests are about other networks. -/
theorem Routed.serveAll (hmain : mainTable ∈ usedIDs base) {subnet : String} (hname : names name)
    (rs : List Request)
    (hrs : ∀ r ∈ rs, r.calls.Reliable ∧ ∃ other, name ≠ other ∧ r.About names other)
    (h : CleanlyServed names base sys) (hrouted : Routed calls sys name subnet routes) :
    Routed calls (serveAll rs sys) name subnet routes := by
  induction rs generalizing sys with
  | nil => exact hrouted
  | cons r rs ih =>
    obtain ⟨⟨hcalls, other, hne, hr⟩, hrs⟩ := List.forall_mem_cons.mp hrs
    exact ih hrs (h.request hr hcalls) (hrouted.serve_other hbase hmain h hname hne hr)

end Host

/-! ## The cluster -/

section Cluster

variable {base : String → String} {xs : String → Contact} {daemonCache : GoMap String DaemonPod}
  {cidrSpec : CIDRSpec}

theorem Contact.post_cleanlyServed {x : Contact} (hreliable : x.calls.Reliable) {base : String}
    (h : CleanlyServed names base sys) (hname : names req.name) :
    CleanlyServed names base (x.post sys req).1 := by
  have happlied : CleanlyServed names base (applyL3Config x.calls x.order sys (.ok req)).1 :=
    h.request (r := .apply x.calls x.order (.ok req))
      ⟨hname, ⟨hreliable.appendFile, hreliable.writeFile⟩, req, rfl, rfl⟩
      hreliable
  unfold Contact.post
  split
  · exact h
  · exact happlied
  · exact happlied

/-- The controller sees that the routes are applied only if the daemon has answered so. -/
theorem Contact.answered_of_applied {x : Contact} (happlied : (x.post sys req).2.applied = true) :
    (x.post sys req).1 = (applyL3Config x.calls x.order sys (.ok req)).1 ∧
      (applyL3Config x.calls x.order sys (.ok req)).2.success = true := by
  unfold Contact.post at happlied ⊢
  split at happlied
  · next seen hseen _ =>
    rw [hseen] at happlied
    cases happlied
  · next seen hseen _ =>
    rw [hseen] at happlied
    cases happlied
  · exact ⟨rfl, happlied⟩

/-- The clusters that passes over the hosts and requests to single hosts lead to, with calls that are
reliable and requests and responses that may be lost. -/
inductive ClusterServed (names : String → Prop) (base : String → String) : Hosts → Prop
  | start (hosts : Hosts) (htext : ∀ hostName, (hosts hostName).rtTables = base hostName)
      (hrules : ∀ hostName, ∀ rule ∈ (hosts hostName).rules, mixTableIndex ≤ rule.table →
        rule.table ∈ usedIDs (base hostName))
      (hroutes : ∀ hostName, ∀ route ∈ (hosts hostName).routes, mixTableIndex ≤ route.table →
        route.table ∈ usedIDs (base hostName)) : ClusterServed names base hosts
  | sync {hosts : Hosts} (xs : String → Contact) (daemonCache : GoMap String DaemonPod)
      (cidrSpec : CIDRSpec) (forceDelete : Bool) (isMultiNICIPAM : Option Bool) :
      ClusterServed names base hosts → names cidrSpec.config.name →
      (∀ hostName, (xs hostName).calls.Reliable) →
      ClusterServed names base
        (syncRoutes xs daemonCache cidrSpec forceDelete isMultiNICIPAM hosts).1
  /-- such as that to delete a configuration -/
  | request {hosts : Hosts} {r : Request} {name : String} (hostName : String) :
      ClusterServed names base hosts → r.About names name → r.calls.Reliable →
      ClusterServed names base (Function.update hosts hostName (r.serve (hosts hostName)).1)

/-- **Every host of a cluster is cleanly served.** -/
theorem ClusterServed.host (h : ClusterServed names base hosts) (hostName : String) :
    CleanlyServed names (base hostName) (hosts hostName) := by
  induction h with
  | start hosts htext hrules hroutes =>
    have hsys : hosts hostName = ⟨base hostName, (hosts hostName).rules, (hosts hostName).routes⟩ := by
      rw [← htext]
    rw [hsys]
    exact .start _ _ (hrules hostName) (hroutes hostName)
  | @sync hosts xs daemonCache cidrSpec forceDelete isMultiNICIPAM _ hname hcalls ih =>
    unfold syncRoutes
    split
    swap
    · exact ih
    show CleanlyServed _ _ ((pass xs daemonCache cidrSpec forceDelete hosts).1 hostName)
    obtain ⟨hvisited, hrest⟩ := @pass_host xs daemonCache cidrSpec forceDelete hosts hostName
    cases hlookup : daemonCache.lookup hostName with
    | none =>
      rw [hrest hlookup]
      exact ih
    | some daemon =>
      rw [hvisited daemon hlookup, visit]
      split
      · exact ih
      · exact Contact.post_cleanlyServed (hcalls hostName) ih hname
  | @request hosts r name hostName' _ hr hcalls ih =>
    by_cases heq : hostName = hostName'
    · subst heq
      rw [Function.update_self]
      exact ih.request hr hcalls
    · rw [Function.update_of_ne heq]
      exact ih

/-- After a pass that has applied all routes, the request to every target was served. -/
theorem syncRoutes_applied {isMultiNICIPAM : Option Bool}
    (hstatus : (syncRoutes xs daemonCache cidrSpec true isMultiNICIPAM hosts).2 = .allRouteApplied)
    {hostName : String} {daemon : DaemonPod} (htarget : IsTarget daemonCache cidrSpec hostName daemon) :
    (syncRoutes xs daemonCache cidrSpec true isMultiNICIPAM hosts).1 hostName =
        (applyL3Config (xs hostName).calls (xs hostName).order (hosts hostName)
          (.ok (requestTo daemonCache cidrSpec true hostName daemon))).1 ∧
      (applyL3Config (xs hostName).calls (xs hostName).order (hosts hostName)
        (.ok (requestTo daemonCache cidrSpec true hostName daemon))).2.success = true := by
  unfold syncRoutes at hstatus ⊢
  split at hstatus
  swap
  · cases hstatus
  next hl3 =>
  rw [if_pos hl3]
  dsimp only at hstatus ⊢
  have hsuccess : (pass xs daemonCache cidrSpec true hosts).2.1 = true := by
    cases hsuccess : (pass xs daemonCache cidrSpec true hosts).2.1 with
    | true => rfl
    | false =>
      rw [hsuccess] at hstatus
      split at hstatus
      · cases hstatus
      · cases hstatus
  rw [pass_status "" "" hosts] at hsuccess
  have happlied := ((addRoutes_spec _ _ _ _).1.mp hsuccess hostName daemon htarget).1
  obtain ⟨hserved, hok⟩ := Contact.answered_of_applied happlied
  refine ⟨?_, hok⟩
  rw [(pass_host hosts hostName).1 daemon htarget.1, visit]
  obtain ⟨info, hinfo⟩ := Option.isSome_iff_exists.mp
    ((isSome_lookup_getHostInterfaceIndexMap cidrSpec.cidrs hostName).mpr htarget.2)
  rw [hinfo]
  exact hserved

end Cluster

/-- The network `red` on the hosts `a` and `b`. -/
def redSpec : CIDRSpec :=
  ⟨{ Controller.routedSpec.config with name := "red" }, Controller.routedSpec.cidrs⟩

/-- Every request is answered, and every call succeeds. -/
def allAnswered (_ : String) : Contact := ⟨(requestFor "red" "").calls, .listed, .answered⟩

/-- The hosts before the first request. -/
def freshHosts (_ : String) : System := ⟨systemFile, [], []⟩

end MultiNicCni.Cluster
