import MultiNicCni.Controller.Route
import MultiNicCni.Daemon.TableRule
import MultiNicCni.Go.Map

/-!
# The L3 configuration of a host (`daemon/src/router/router.go`)

The controller sends every host the routes of a network, again and again. `ApplyL3Config` gets the
table of the network (`GetTableID`) and adds the routes that are missing to it.

What the kernel does:

- `RouteList` of a link gives its routes in the main table;
- `RouteAdd` fails if the table has a route with the destination, or for another reason;
- `LinkByName` gives a new value for each call, so every route of a request has a link of its own
  in the map, and the map is walked in any order.

`isRouteExist` looks for a route in the main table, but the routes are added to the table of the
network. So a request that added a route does not find it the next time, and fails:
`applyL3Config_again_iff` says when applying a request again succeeds and changes nothing.

The loop over the routes only adds routes (`applyRoutes_added`), and it adds none and succeeds
exactly if it finds them all (`applyRoutes_unchanged_iff`). `applyL3Config_fails` and
`applyL3Config_table` are what a request comes to without and with a table.
-/

namespace MultiNicCni.Router

open Go
open Controller (HostRoute L3ConfigRequest RouteUpdateResponse)

variable {route : Route} {routes : List HostRoute} {tableID : Int} {sys : System}
  {req : L3ConfigRequest}

/-! ## Routes in the kernel -/

/-- The calls of the router. A link is known by its index. -/
structure RouteCalls extends Calls where
  linkByName : String → Option Int
  routeList : Option String
  /-- why `RouteAdd` fails, other than for a route with the destination -/
  routeAdd : Route → Option String
  /-- `route.String()` -/
  routeString : Route → String

variable {calls : RouteCalls}

/-- Every call succeeds, for links with the given indexes. -/
def RouteCalls.allSucceed (rtTablePath : String) (linkByName : String → Option Int) : RouteCalls :=
  ⟨.allSucceed rtTablePath, linkByName, none, fun _ => none, fun _ => "route"⟩

/-- `netlink.Link`: a value of its own for each call of `LinkByName`. -/
structure Link where
  call : Nat
  index : Int
  deriving DecidableEq

variable {dev : Link} {order : GoMap.EntryOrder Link (List Route)} {m : GoMap Link (List Route)}

/-- `RT_TABLE_MAIN`. -/
def mainTable : Int := 254

/-- The table that a request to the kernel is about; without a number it is the main table. -/
def kernelTable (table : Int) : Int := if 0 < table then table else mainTable

section Model

variable (calls : RouteCalls)

/-- `netlink.RouteAdd`. -/
def routeAdd (sys : System) (route : Route) : System × Option String :=
  if sys.routes.any fun r => r.table = kernelTable route.table ∧ r.dst = route.dst then
    (sys, some "file exists")
  else
    match calls.routeAdd route with
    | some reason => (sys, some reason)
    | none =>
      ({ sys with routes := sys.routes ++ [{ route with table := kernelTable route.table }] }, none)

/-- Two routes with the same texts of destination and gateway. -/
def sameRoute (cmpRoute route : Route) : Bool :=
  match route.gw, cmpRoute.gw, route.dst, cmpRoute.dst with
  | some gw, some cmpGw, some dst, some cmpDst =>
    decide (cidrString dst.ip dst.ones = cidrString cmpDst.ip cmpDst.ones ∧
      String.ofList gw.text = String.ofList cmpGw.text)
  | _, _, _, _ => false

/-- `isRouteExist`. -/
def isRouteExist (sys : System) (cmpRoute : Route) (dev : Link) : Bool × Option String :=
  match calls.routeList with
  | some reason => (false, some reason)
  | none =>
    ((sys.routes.filter fun r => r.table = mainTable ∧ r.linkIndex = dev.index).any
      (sameRoute cmpRoute), none)

/-! ## Requests -/

/-- `deleteL3Config`. -/
def deleteL3Config (sys : System) (tableName : String) (tableID : Int) : System × Bool × String :=
  if tableID = -1 then (sys, false, "Failed to get tableID")
  else
    match deleteTable calls.toCalls sys tableName tableID with
    | (sys, some err) => (sys, false, err.text)
    | (sys, none) => (sys, true, "")

/-- The route that is built for a route of a request. -/
def routeOf (tableID index : Int) (hostRoute : HostRoute) : Route :=
  ⟨index, (parseCIDR hostRoute.subnet).map (·.2), parseIP hostRoute.nextHop, tableID⟩

/-- One turn of the loop of `getRoutesFromL3Config`. -/
def addDevRoute (tableID : Int) (devRoutesMap : GoMap Link (List Route))
    (hostRoute : HostRoute × Nat) : GoMap Link (List Route) :=
  match calls.linkByName hostRoute.1.interfaceName with
  | none => devRoutesMap
  | some index =>
    let dev : Link := ⟨hostRoute.2, index⟩
    let devRoutesMap :=
      if (devRoutesMap.lookup dev).isNone then devRoutesMap.insert dev [] else devRoutesMap
    devRoutesMap.insert dev
      ((devRoutesMap.lookup dev).getD [] ++ [routeOf tableID index hostRoute.1])

/-- The map of links and routes of a request. -/
def devRoutes (tableID : Int) (routes : List HostRoute) : GoMap Link (List Route) :=
  routes.zipIdx.foldl (addDevRoute calls tableID) ∅

/-- `getRoutesFromL3Config`. -/
def getRoutesFromL3Config (sys : System) (req : L3ConfigRequest) (addIfNotExists : Bool) :
    System × String × Int × GoMap Link (List Route) × Option String :=
  let sys :=
    if req.force then
      match getTableID calls.toCalls sys req.name req.subnet false with
      | (sys, tableID, none) => (deleteL3Config calls sys req.name tableID).1
      | (sys, _, some _) => sys
    else sys
  match getTableID calls.toCalls sys req.name req.subnet addIfNotExists with
  | (sys, tableID, err) =>
    if tableID = -1 ∨ err ≠ none then (sys, req.name, tableID, ∅, err.map TableError.text)
    else (sys, req.name, tableID, devRoutes calls tableID req.routes, none)

/-- `getRoutesFromRequest`, for a body that is read and parsed or not. -/
def getRoutesFromRequest (sys : System) (body : Except String L3ConfigRequest)
    (addIfNotExists : Bool) : System × String × Int × GoMap Link (List Route) × Option String :=
  match body with
  | .error err => (sys, "", -1, ∅, some err)
  | .ok req => getRoutesFromL3Config calls sys req addIfNotExists

/-- The variables of the loop of `ApplyL3Config`. -/
structure Applying where
  sys : System
  resMsg : String
  success : Bool

/-- One turn of the loop of `ApplyL3Config`. -/
def applyRoute (st : Applying) (devRoute : Link × Route) : Applying :=
  let (dev, route) := devRoute
  let (existing, _) := isRouteExist calls st.sys route dev
  if existing then { st with resMsg := st.resMsg ++ calls.routeString route ++ " route exists;" }
  else
    match routeAdd calls st.sys route with
    | (sys, some err) => ⟨sys, st.resMsg ++ "AddRouteError " ++ err ++ ";", false⟩
    | (sys, none) =>
      ⟨sys, st.resMsg ++ "Add route " ++ calls.routeString route ++ ";", st.success && true⟩

/-- `ApplyL3Config`. -/
def applyL3Config (order : GoMap.EntryOrder Link (List Route)) (sys : System)
    (body : Except String L3ConfigRequest) : System × RouteUpdateResponse :=
  match getRoutesFromRequest calls sys body true with
  | (sys, _, _, _, some err) => (sys, ⟨false, "AddRoutesError " ++ err ++ ";"⟩)
  | (sys, _, _, devRoutesMap, none) =>
    let st := (order.entries devRoutesMap).foldl
      (fun st entry => entry.2.foldl (fun st route => applyRoute calls st (entry.1, route)) st)
      ⟨sys, "", true⟩
    (st.sys, ⟨st.success, st.resMsg⟩)

/-- `DeleteL3Config`. -/
def deleteL3ConfigRequest (sys : System) (body : Except String L3ConfigRequest) :
    System × RouteUpdateResponse :=
  match getRoutesFromRequest calls sys body false with
  | (sys, tableName, tableID, _, _) =>
    match deleteL3Config calls sys tableName tableID with
    | (sys, success, resMsg) => (sys, ⟨success, resMsg⟩)

end Model

/-! ## The routes of a request -/

section Visited

/-- A link and one of its routes. -/
def Has (m : GoMap Link (List Route)) (dev : Link) (route : Route) : Prop :=
  ∃ routes, m.lookup dev = some routes ∧ route ∈ routes

/-- A turn of the loop adds the route under its link and leaves the others. -/
theorem has_addDevRoute {hostRoute : HostRoute × Nat} :
    Has (addDevRoute calls tableID m hostRoute) dev route ↔
      Has m dev route ∨ (calls.linkByName hostRoute.1.interfaceName = some dev.index ∧
        dev.call = hostRoute.2 ∧ route = routeOf tableID dev.index hostRoute.1) := by
  unfold addDevRoute Has
  cases hlink : calls.linkByName hostRoute.1.interfaceName with
  | none => simp
  | some index =>
    dsimp only
    rw [GoMap.lookup_insert_ite]
    by_cases hdev : dev = ⟨hostRoute.2, index⟩
    · -- the link of this turn
      subst hdev
      cases hold : m.lookup ⟨hostRoute.2, index⟩ with
      | none => simp
      | some routes => simp [hold]
    · have hother : ¬ (some index = some dev.index ∧ dev.call = hostRoute.2 ∧
          route = routeOf tableID dev.index hostRoute.1) := by
        rintro ⟨hindex, hcall, -⟩
        refine hdev ?_
        obtain ⟨call, index'⟩ := dev
        rw [← hcall, Option.some.inj hindex]
      rw [if_neg hdev, or_iff_left hother]
      split
      · rw [AList.lookup_insert_ne hdev]
      · rfl

/-- The routes in the map are those of the request whose link is found. -/
theorem has_devRoutes :
    Has (devRoutes calls tableID routes) dev route ↔
      ∃ hostRoute, (hostRoute, dev.call) ∈ routes.zipIdx ∧
        calls.linkByName hostRoute.interfaceName = some dev.index ∧
        route = routeOf tableID dev.index hostRoute := by
  unfold devRoutes
  generalize routes.zipIdx = indexed
  induction indexed using List.reverseRecOn with
  | nil => simp [Has]
  | append_singleton indexed hostRoute ih =>
    rw [List.foldl_append, List.foldl_cons, List.foldl_nil, has_addDevRoute, ih]
    constructor
    · rintro (⟨hr, hmem, hrest⟩ | ⟨hlink, hcall, hroute⟩)
      · exact ⟨hr, List.mem_append_left _ hmem, hrest⟩
      · refine ⟨hostRoute.1, List.mem_append_right _ ?_, hlink, hroute⟩
        rw [hcall, List.mem_singleton]
    · rintro ⟨hr, hmem, hlink, hroute⟩
      rcases List.mem_append.mp hmem with hmem | hmem
      · exact Or.inl ⟨hr, hmem, hlink, hroute⟩
      · obtain rfl := List.mem_singleton.mp hmem
        exact Or.inr ⟨hlink, rfl, hroute⟩

/-- The links and routes in the order of the loops. -/
def visited (order : GoMap.EntryOrder Link (List Route)) (m : GoMap Link (List Route)) :
    List (Link × Route) :=
  (order.entries m).flatMap fun entry => entry.2.map fun route => (entry.1, route)

theorem mem_visited : (dev, route) ∈ visited order m ↔ Has m dev route := by
  unfold visited
  constructor
  · intro h
    obtain ⟨entry, hentry, hmem⟩ := List.mem_flatMap.mp h
    obtain ⟨r, hr, heq⟩ := List.mem_map.mp hmem
    obtain ⟨rfl, rfl⟩ := Prod.mk.inj heq
    exact ⟨entry.2, GoMap.lookup_of_mem ((order.perm m).mem_iff.mp hentry), hr⟩
  · rintro ⟨routes, hlookup, hr⟩
    refine List.mem_flatMap.mpr ⟨⟨dev, routes⟩, ?_, List.mem_map.mpr ⟨route, hr, rfl⟩⟩
    exact (order.perm m).mem_iff.mpr (AList.mem_lookup_iff.mp hlookup)

/-- What holds for every link and route of the loops holds for every route of the request. -/
theorem forall_visited_iff {P : Int → Route → Prop} :
    (∀ dr ∈ visited order (devRoutes calls tableID routes), P dr.1.index dr.2) ↔
      ∀ hostRoute ∈ routes, ∀ index, calls.linkByName hostRoute.interfaceName = some index →
        P index (routeOf tableID index hostRoute) := by
  constructor
  · intro h hostRoute hmem index hlink
    obtain ⟨call, hcall⟩ := List.mem_iff_getElem?.mp hmem
    have hhas : Has (devRoutes calls tableID routes) ⟨call, index⟩
        (routeOf tableID index hostRoute) :=
      has_devRoutes.mpr ⟨hostRoute, List.mk_mem_zipIdx_iff_getElem?.mpr hcall, hlink, rfl⟩
    exact h (⟨call, index⟩, routeOf tableID index hostRoute) (mem_visited.mpr hhas)
  · rintro h ⟨dev, route⟩ hvisited
    obtain ⟨hostRoute, hmem, hlink, rfl⟩ := has_devRoutes.mp (mem_visited.mp hvisited)
    exact h hostRoute (List.fst_mem_of_mem_zipIdx hmem) dev.index hlink

end Visited

/-! ## The loop over the routes -/

section Loop

/-- The loops of `ApplyL3Config` as one. -/
def applyRoutes (calls : RouteCalls) (st : Applying) (drs : List (Link × Route)) : Applying :=
  drs.foldl (applyRoute calls) st

theorem foldl_visited (order : GoMap.EntryOrder Link (List Route)) (m : GoMap Link (List Route))
    (st : Applying) :
    (order.entries m).foldl
      (fun st entry => entry.2.foldl (fun st route => applyRoute calls st (entry.1, route)) st) st =
      applyRoutes calls st (visited order m) := by
  rw [applyRoutes, visited, List.foldl_flatMap]
  simp only [List.foldl_map]

/-- A route exists. -/
def Seen (calls : RouteCalls) (sys : System) (index : Int) (route : Route) : Prop :=
  calls.routeList = none ∧
    ∃ r ∈ sys.routes, r.table = mainTable ∧ r.linkIndex = index ∧ sameRoute route r = true

theorem isRouteExist_iff :
    (isRouteExist calls sys route dev).1 = true ↔ Seen calls sys dev.index route := by
  unfold isRouteExist Seen
  cases calls.routeList with
  | some reason => simp
  | none => simp [and_assoc]

/-- What is seen stays seen when routes are added. -/
theorem Seen.mono {sys' : System} {index : Int} {added : List Route}
    (hroutes : sys'.routes = sys.routes ++ added) (h : Seen calls sys index route) :
    Seen calls sys' index route := by
  obtain ⟨hlist, r, hr, hsame⟩ := h
  refine ⟨hlist, r, ?_, hsame⟩
  rw [hroutes]
  exact List.mem_append_left _ hr

/-- The route as it is in the kernel. -/
def inKernel (route : Route) : Route := { route with table := kernelTable route.table }

theorem routeAdd_cases (sys : System) (route : Route) :
    (∃ reason, routeAdd calls sys route = (sys, some reason)) ∨
      routeAdd calls sys route =
        ({ sys with routes := sys.routes ++ [inKernel route] }, none) := by
  unfold routeAdd
  split
  · exact Or.inl ⟨_, rfl⟩
  · split
    · exact Or.inl ⟨_, rfl⟩
    · exact Or.inr rfl

/-- What a turn of the loop can do: the route is seen, it is refused, or it is added. -/
theorem applyRoute_cases (st : Applying) (dr : Link × Route) :
    (Seen calls st.sys dr.1.index dr.2 ∧ (applyRoute calls st dr).sys = st.sys ∧
        (applyRoute calls st dr).success = st.success) ∨
      (¬ Seen calls st.sys dr.1.index dr.2 ∧ (applyRoute calls st dr).sys = st.sys ∧
        (applyRoute calls st dr).success = false) ∨
      (¬ Seen calls st.sys dr.1.index dr.2 ∧
        (applyRoute calls st dr).sys =
          { st.sys with routes := st.sys.routes ++ [inKernel dr.2] } ∧
        (applyRoute calls st dr).success = st.success) := by
  rw [← isRouteExist_iff]
  unfold applyRoute
  dsimp only
  split
  · next hseen => exact Or.inl ⟨hseen, rfl, rfl⟩
  · next hseen =>
    rcases routeAdd_cases st.sys dr.2 with ⟨reason, hrefused⟩ | hadded
    · rw [hrefused]
      exact Or.inr (Or.inl ⟨hseen, rfl, rfl⟩)
    · rw [hadded]
      exact Or.inr (Or.inr ⟨hseen, rfl, Bool.and_true _⟩)

/-- The loop only adds routes, which are routes of the request, in order. -/
theorem applyRoutes_added (st : Applying) (drs : List (Link × Route)) :
    ∃ added, (applyRoutes calls st drs).sys = { st.sys with routes := st.sys.routes ++ added } ∧
      added.Sublist (drs.map fun dr => inKernel dr.2) := by
  induction drs generalizing st with
  | nil => exact ⟨[], by simp [applyRoutes], List.Sublist.refl _⟩
  | cons dr drs ih =>
    obtain ⟨added, hadded, hsub⟩ := ih (applyRoute calls st dr)
    show ∃ added, (applyRoutes calls (applyRoute calls st dr) drs).sys = _ ∧ _
    rw [hadded]
    rcases applyRoute_cases st dr with ⟨-, hsys, -⟩ | ⟨-, hsys, -⟩ | ⟨-, hsys, -⟩
    · exact ⟨added, by rw [hsys], hsub.cons _⟩
    · exact ⟨added, by rw [hsys], hsub.cons _⟩
    · exact ⟨inKernel dr.2 :: added, by rw [hsys]; simp, hsub.cons_cons _⟩

/-- A failure stays. -/
theorem applyRoutes_success (st : Applying) (drs : List (Link × Route))
    (h : (applyRoutes calls st drs).success = true) : st.success = true := by
  induction drs generalizing st with
  | nil => exact h
  | cons dr drs ih =>
    have hturn := ih (applyRoute calls st dr) h
    rcases applyRoute_cases st dr with ⟨-, -, hs⟩ | ⟨-, -, hs⟩ | ⟨-, -, hs⟩
    · rw [← hs, hturn]
    · rw [hs] at hturn
      cases hturn
    · rw [← hs, hturn]

/-- **The loop succeeds without a change exactly if it sees all routes.** -/
theorem applyRoutes_unchanged_iff (st : Applying) (drs : List (Link × Route))
    (hst : st.success = true) :
    ((applyRoutes calls st drs).success = true ∧ (applyRoutes calls st drs).sys = st.sys) ↔
      ∀ dr ∈ drs, Seen calls st.sys dr.1.index dr.2 := by
  induction drs generalizing st with
  | nil => simp [applyRoutes, hst]
  | cons dr drs ih =>
    show ((applyRoutes calls (applyRoute calls st dr) drs).success = true ∧
      (applyRoutes calls (applyRoute calls st dr) drs).sys = st.sys) ↔ _
    rw [List.forall_mem_cons]
    rcases applyRoute_cases st dr with
      ⟨hseen, hsys, hs⟩ | ⟨hseen, -, hs⟩ | ⟨hseen, hsys, -⟩
    · have hrest := ih (applyRoute calls st dr) (hs.trans hst)
      rw [hsys] at hrest
      rw [hrest]
      exact ⟨fun h => ⟨hseen, h⟩, fun h => h.2⟩
    · refine iff_of_false ?_ fun h => hseen h.1
      rintro ⟨hsuccess, -⟩
      have hturn := applyRoutes_success _ drs hsuccess
      rw [hs] at hturn
      cases hturn
    · -- the state has one route more, and the rest of the loop takes none away
      refine iff_of_false ?_ fun h => hseen h.1
      rintro ⟨-, hsame⟩
      obtain ⟨added, hadded, -⟩ := applyRoutes_added (applyRoute calls st dr) drs
      rw [hadded, hsys] at hsame
      have hlen := congrArg (fun sys => sys.routes.length) hsame
      simp at hlen

/-- Routes of another table do not change what is seen. -/
theorem seen_applyRoutes_of_ne (st : Applying) (drs : List (Link × Route))
    (hother : ∀ dr ∈ drs, kernelTable dr.2.table ≠ mainTable) (index : Int) (route : Route) :
    Seen calls (applyRoutes calls st drs).sys index route ↔ Seen calls st.sys index route := by
  induction drs generalizing st with
  | nil => rfl
  | cons dr drs ih =>
    obtain ⟨hdr, hdrs⟩ := List.forall_mem_cons.mp hother
    show Seen calls (applyRoutes calls (applyRoute calls st dr) drs).sys index route ↔ _
    rw [ih _ hdrs]
    rcases applyRoute_cases st dr with ⟨-, hsys, -⟩ | ⟨-, hsys, -⟩ | ⟨-, hsys, -⟩
    · rw [hsys]
    · rw [hsys]
    · constructor
      · rintro ⟨hlist, r, hr, htable, hsame⟩
        rw [hsys] at hr
        rcases List.mem_append.mp hr with hr | hr
        · exact ⟨hlist, r, hr, htable, hsame⟩
        · rw [List.mem_singleton.mp hr] at htable
          exact absurd htable hdr
      · exact Seen.mono (by rw [hsys])

theorem sameRoute_isSome {cmpRoute : Route} (h : sameRoute cmpRoute route = true) :
    cmpRoute.dst.isSome = true ∧ cmpRoute.gw.isSome = true := by
  unfold sameRoute at h
  split at h
  · next hgw _ hdst =>
    rw [hgw, hdst]
    exact ⟨rfl, rfl⟩
  · cases h

theorem sameRoute_inKernel (hdst : route.dst.isSome = true) (hgw : route.gw.isSome = true) :
    sameRoute route (inKernel route) = true := by
  obtain ⟨dst, hdst⟩ := Option.isSome_iff_exists.mp hdst
  obtain ⟨gw, hgw⟩ := Option.isSome_iff_exists.mp hgw
  simp [sameRoute, inKernel, hdst, hgw]

/-- Routes of the main table are all seen after a success, if they have a destination and a
gateway. -/
theorem seen_applyRoutes_of_eq (st : Applying) (drs : List (Link × Route))
    (hmain : ∀ dr ∈ drs, kernelTable dr.2.table = mainTable ∧ dr.2.linkIndex = dr.1.index)
    (hsuccess : (applyRoutes calls st drs).success = true) :
    ∀ dr ∈ drs, Seen calls (applyRoutes calls st drs).sys dr.1.index dr.2 ↔
      calls.routeList = none ∧ dr.2.dst.isSome = true ∧ dr.2.gw.isSome = true := by
  induction drs generalizing st with
  | nil => intro dr hdr; cases hdr
  | cons dr drs ih =>
    obtain ⟨hdr, hdrs⟩ := List.forall_mem_cons.mp hmain
    refine List.forall_mem_cons.mpr ⟨⟨?_, ?_⟩, ih (applyRoute calls st dr) hdrs hsuccess⟩
    · rintro ⟨hlist, r, -, -, -, hsame⟩
      exact ⟨hlist, sameRoute_isSome hsame⟩
    · rintro ⟨hlist, hdst, hgw⟩
      obtain ⟨added, hadded, -⟩ := applyRoutes_added (applyRoute calls st dr) drs
      refine Seen.mono (show _ = (applyRoute calls st dr).sys.routes ++ added from
        congrArg System.routes hadded) ?_
      have hturn := applyRoutes_success (applyRoute calls st dr) drs hsuccess
      rcases applyRoute_cases st dr with
        ⟨hseen, hsys, -⟩ | ⟨-, -, hs⟩ | ⟨-, hsys, -⟩
      · rw [hsys]
        exact hseen
      · rw [hs] at hturn
        cases hturn
      · refine ⟨hlist, inKernel dr.2, ?_, hdr.1, hdr.2, sameRoute_inKernel hdst hgw⟩
        rw [hsys]
        exact List.mem_append_right _ (List.mem_singleton.mpr rfl)

end Loop

/-! ## What a request does -/

/-- The host after the first part of a request with `force`: the configuration is deleted. -/
def forced (calls : RouteCalls) (sys : System) (req : L3ConfigRequest) : System :=
  if req.force then
    match getTableID calls.toCalls sys req.name req.subnet false with
    | (sys, tableID, none) => (deleteL3Config calls sys req.name tableID).1
    | (sys, _, some _) => sys
  else sys

theorem getRoutesFromL3Config_eq (calls : RouteCalls) (sys : System) (req : L3ConfigRequest)
    (addIfNotExists : Bool) :
    getRoutesFromL3Config calls sys req addIfNotExists =
      match getTableID calls.toCalls (forced calls sys req) req.name req.subnet addIfNotExists with
      | (sys, tableID, err) =>
        if tableID = -1 ∨ err ≠ none then (sys, req.name, tableID, ∅, err.map TableError.text)
        else (sys, req.name, tableID, devRoutes calls tableID req.routes, none) := rfl

section Apply

variable {sys' : System} {id : Int} {err : Option TableError}
  (hget : getTableID calls.toCalls (forced calls sys req) req.name req.subnet true = (sys', id, err))

include hget

/-- Without a table no route is applied. -/
theorem applyL3Config_noTable (order : GoMap.EntryOrder Link (List Route))
    (hno : id = -1 ∨ err ≠ none) : (applyL3Config calls order sys (.ok req)).1 = sys' := by
  have hempty : order.entries ∅ = [] := (order.perm ∅).eq_nil
  rw [applyL3Config, getRoutesFromRequest, getRoutesFromL3Config_eq, hget]
  dsimp only
  rw [if_pos hno]
  cases err with
  | some err => rfl
  | none =>
    dsimp only [Option.map_none]
    rw [hempty]
    rfl

/-- With a table the routes are applied one by one. -/
theorem applyL3Config_table (order : GoMap.EntryOrder Link (List Route)) (hid : id ≠ -1)
    (herr : err = none) :
    (applyL3Config calls order sys (.ok req)).1 =
        (applyRoutes calls ⟨sys', "", true⟩ (visited order (devRoutes calls id req.routes))).sys ∧
      (applyL3Config calls order sys (.ok req)).2.success =
        (applyRoutes calls ⟨sys', "", true⟩
          (visited order (devRoutes calls id req.routes))).success := by
  rw [applyL3Config, getRoutesFromRequest, getRoutesFromL3Config_eq, hget]
  dsimp only
  rw [if_neg (by simp [hid, herr])]
  dsimp only
  rw [foldl_visited]
  exact ⟨rfl, rfl⟩

end Apply

/-- A request without a table fails. -/
theorem applyL3Config_fails
    (herr : (getTableID calls.toCalls (forced calls sys req) req.name req.subnet true).2.2 ≠ none)
    (order : GoMap.EntryOrder Link (List Route)) :
    (applyL3Config calls order sys (.ok req)).2.success = false := by
  obtain ⟨err, herr⟩ := Option.ne_none_iff_exists'.mp herr
  simp [applyL3Config, getRoutesFromRequest, getRoutesFromL3Config_eq, herr]

/-! ## Applying a request again -/

section Again

variable (hforce : req.force = false)

include hforce

theorem forced_of_not (sys : System) : forced calls sys req = sys := by
  rw [forced, if_neg (by rw [hforce]; exact Bool.false_ne_true)]

/-- A request that succeeds has a table, and its routes are applied. -/
theorem applyL3Config_ok (hsuccess : (applyL3Config calls order sys (.ok req)).2.success = true) :
    ∃ sys' tableID, getTableID calls.toCalls sys req.name req.subnet true = (sys', tableID, none) ∧
      (applyL3Config calls order sys (.ok req)).1 =
        (applyRoutes calls ⟨sys', "", true⟩
          (visited order (devRoutes calls tableID req.routes))).sys ∧
      (applyRoutes calls ⟨sys', "", true⟩
        (visited order (devRoutes calls tableID req.routes))).success = true := by
  obtain ⟨sys', tableID, hget⟩ : ∃ sys' tableID,
      getTableID calls.toCalls sys req.name req.subnet true = (sys', tableID, none) := by
    have hnone : (getTableID calls.toCalls sys req.name req.subnet true).2.2 = none := by
      by_contra herr
      rw [← forced_of_not hforce sys] at herr
      rw [applyL3Config_fails herr order] at hsuccess
      cases hsuccess
    exact ⟨_, _, Prod.ext rfl (Prod.ext rfl hnone)⟩
  obtain ⟨hsys, hok⟩ := applyL3Config_table (by rw [forced_of_not hforce, hget]) order
    (getTableID_ok hget).2.1 rfl
  exact ⟨sys', tableID, hget, hsys, hok.symm.trans hsuccess⟩

/-- **Applying again changes nothing exactly if** the table is settled and all routes are seen. -/
theorem applyL3Config_unchanged_iff (order : GoMap.EntryOrder Link (List Route)) (sys : System)
    (tableID : Int) :
    ((applyL3Config calls order sys (.ok req)).2.success = true ∧
        (applyL3Config calls order sys (.ok req)).1 = sys) ↔
      Settled calls.toCalls sys req.name ∧ ∀ hostRoute ∈ req.routes, ∀ index,
        calls.linkByName hostRoute.interfaceName = some index →
          Seen calls sys index (routeOf tableID index hostRoute) := by
  constructor
  · rintro ⟨hsuccess, hsame⟩
    obtain ⟨sys', id, hget, hsys, hok⟩ := applyL3Config_ok hforce hsuccess
    -- the loop adds no route, so `GetTableID` has changed nothing either
    obtain ⟨added, hadded, -⟩ := applyRoutes_added ⟨sys', "", true⟩
      (visited order (devRoutes calls id req.routes))
    have hfinal := hadded.symm.trans (hsys.symm.trans hsame)
    have hroutes : sys'.routes = sys.routes := by
      rw [← getTableID_routes calls.toCalls sys req.name req.subnet true, hget]
    have hnil : added = [] := by
      have hlen := congrArg (fun sys => sys.routes.length) hfinal
      simpa [hroutes] using hlen
    obtain rfl : sys' = sys := by
      rw [← hfinal, hnil]
      simp
    refine ⟨(getTableID_unchanged_iff calls.toCalls sys' req.name req.subnet).mp ⟨id, hget⟩, ?_⟩
    have hseen := (applyRoutes_unchanged_iff ⟨sys', "", true⟩ _ rfl).mp ⟨hok, hsys.symm.trans hsame⟩
    -- whether a route is seen does not depend on its table
    intro hostRoute hmem index hlink
    exact (forall_visited_iff (P := Seen calls sys')).mp hseen hostRoute hmem index hlink
  · rintro ⟨hsettled, hseen⟩
    obtain ⟨id, hget⟩ :=
      (getTableID_unchanged_iff calls.toCalls sys req.name req.subnet).mpr hsettled
    obtain ⟨hsys, hok⟩ := applyL3Config_table (by rw [forced_of_not hforce, hget]) order
      (getTableID_ok hget).2.1 rfl
    rw [hsys, hok]
    exact (applyRoutes_unchanged_iff ⟨sys, "", true⟩ _ rfl).mpr
      ((forall_visited_iff (P := Seen calls sys)).mpr hseen)

end Again

/-- The route of a request is seen after it was applied: it is added to the main table, or it is
there before. -/
def StaysSeen (calls : RouteCalls) (sys : System) (tableID index : Int) (hostRoute : HostRoute) :
    Prop :=
  if kernelTable tableID = mainTable then
    calls.routeList = none ∧ (parseCIDR hostRoute.subnet).isSome = true ∧
      (parseIP hostRoute.nextHop).isSome = true
  else Seen calls sys index (routeOf tableID index hostRoute)

theorem staysSeen_congr {sys' : System} {index : Int} {hostRoute : HostRoute}
    (hroutes : sys'.routes = sys.routes) :
    StaysSeen calls sys' tableID index hostRoute ↔ StaysSeen calls sys tableID index hostRoute := by
  unfold StaysSeen Seen
  rw [hroutes]

theorem seen_after_iff {st : Applying}
    (hok : (applyRoutes calls st (visited order (devRoutes calls tableID routes))).success = true) :
    ∀ hostRoute ∈ routes, ∀ index, calls.linkByName hostRoute.interfaceName = some index →
      (Seen calls (applyRoutes calls st (visited order (devRoutes calls tableID routes))).sys index
          (routeOf tableID index hostRoute) ↔ StaysSeen calls st.sys tableID index hostRoute) := by
  intro hostRoute hmem index hlink
  have hshape : ∀ dr ∈ visited order (devRoutes calls tableID routes),
      dr.2.table = tableID ∧ dr.2.linkIndex = dr.1.index :=
    (forall_visited_iff (P := fun index route => route.table = tableID ∧ route.linkIndex = index)).mpr
      fun _ _ _ _ => ⟨rfl, rfl⟩
  unfold StaysSeen
  split
  · next hmain =>
    have hseen := seen_applyRoutes_of_eq st (visited order (devRoutes calls tableID routes))
      (fun dr hdr => ⟨by rw [(hshape dr hdr).1]; exact hmain, (hshape dr hdr).2⟩) hok
    have := (forall_visited_iff (P := fun index route =>
      Seen calls (applyRoutes calls st (visited order (devRoutes calls tableID routes))).sys index
        route ↔ calls.routeList = none ∧ route.dst.isSome = true ∧ route.gw.isSome = true)).mp hseen
    simpa [routeOf] using this hostRoute hmem index hlink
  · next hother =>
    refine seen_applyRoutes_of_ne st _ (fun dr hdr => ?_) index _
    rw [(hshape dr hdr).1]
    exact hother

/-- **A request that succeeded succeeds again and changes nothing exactly if** the file and the rules
keep the table of its name, and all its routes were in the main table before or the table of the
network is the main table. -/
theorem applyL3Config_again_iff (calls : RouteCalls)
    (order order' : GoMap.EntryOrder Link (List Route)) (sys sys' : System) (req : L3ConfigRequest)
    (res : RouteUpdateResponse) (hforce : req.force = false)
    (hfirst : applyL3Config calls order sys (.ok req) = (sys', res)) (hsuccess : res.success = true) :
    ((applyL3Config calls order' sys' (.ok req)).2.success = true ∧
        (applyL3Config calls order' sys' (.ok req)).1 = sys') ↔
      KeepsTable calls.toCalls sys req.name ∧
        ∀ tableID, TableFor sys.rtTables req.name tableID → ∀ hostRoute ∈ req.routes, ∀ index,
          calls.linkByName hostRoute.interfaceName = some index →
            StaysSeen calls sys tableID index hostRoute := by
  obtain ⟨sysT, tableID, hget, hsys, hok⟩ :=
    applyL3Config_ok hforce (show (applyL3Config calls order sys (.ok req)).2.success = true by
      rw [hfirst]; exact hsuccess)
  have hsys : sys' = _ := (congrArg Prod.fst hfirst).symm.trans hsys
  have htable := tableFor_of_getTableID hget
  rw [applyL3Config_unchanged_iff hforce order' sys' tableID, ← settled_getTableID_iff hget]
  refine and_congr ?_ ?_
  · -- the loop leaves the file and the rules
    obtain ⟨added, hadded, -⟩ := @applyRoutes_added calls ⟨sysT, "", true⟩
      (visited order (devRoutes calls tableID req.routes))
    rw [hsys, hadded]
    exact ⟨Settled.congr rfl rfl, Settled.congr rfl rfl⟩
  · have hroutes : sysT.routes = sys.routes := by
      rw [← getTableID_routes calls.toCalls sys req.name req.subnet true, hget]
    have hone : (∀ id, TableFor sys.rtTables req.name id → ∀ hostRoute ∈ req.routes, ∀ index,
          calls.linkByName hostRoute.interfaceName = some index →
            StaysSeen calls sys id index hostRoute) ↔
        ∀ hostRoute ∈ req.routes, ∀ index, calls.linkByName hostRoute.interfaceName = some index →
          StaysSeen calls sys tableID index hostRoute :=
      ⟨fun h => h tableID htable, fun h id hid => hid.unique htable ▸ h⟩
    rw [hone]
    refine forall₂_congr fun hostRoute hmem => forall₂_congr fun index hlink => ?_
    rw [hsys, seen_after_iff hok hostRoute hmem index hlink]
    exact staysSeen_congr hroutes

/-- A host with a table for the network and a route of it in the main table. -/
def seenSystem : System :=
  ⟨"100\tnet\n", [ruleOf "10.0.0.0/16" 100],
    [⟨5, (parseCIDR "10.0.1.0/24").map (·.2), parseIP "192.168.0.2", 254⟩]⟩

/-- That route, and another one on a link that does not exist. -/
def seenRequest : L3ConfigRequest :=
  ⟨"net", "10.0.0.0/16", [⟨"10.0.1.0/24", "192.168.0.2", "eth1"⟩,
    ⟨"10.0.2.0/24", "192.168.0.3", "eth2"⟩], false⟩

/-- The link exists. -/
def seenCalls : RouteCalls :=
  .allSucceed "rt_tables" fun name => if name = "eth1" then some 5 else none

theorem applyL3Config_again_seen :
    (applyL3Config seenCalls .listed seenSystem (.ok seenRequest)).2.success = true ∧
      (applyL3Config seenCalls .listed seenSystem (.ok seenRequest)).1 = seenSystem := by
  have hfound : foundIn (tables seenSystem.rtTables) seenRequest.name = 100 := by decide
  refine (applyL3Config_again_iff seenCalls .listed .listed seenSystem seenSystem seenRequest
    ⟨true, "route route exists;"⟩ rfl (by decide) rfl).mpr
    ⟨⟨rfl, fun hnone => absurd (hfound.symm.trans hnone) (by decide)⟩, ?_⟩
  intro tableID htable hostRoute hmem index hlink
  obtain rfl := htable.unique (.found hfound (by decide))
  rw [StaysSeen, if_neg (by decide)]
  rcases List.mem_cons.mp hmem with rfl | hmem
  · obtain rfl : 5 = index := Option.some.inj hlink
    exact ⟨rfl, _, List.mem_cons_self, rfl, rfl, by decide⟩
  · rw [List.mem_singleton.mp hmem] at hlink
    cases hlink

/-- A route that was added to the table of the network is not seen in the main table, and adding it
again fails. -/
theorem applyL3Config_fails_again :
    applyL3Config (.allSucceed "rt_tables" fun _ => some 5) .listed
        ⟨"100\tnet\n", [ruleOf "10.0.0.0/16" 100], []⟩
        (.ok ⟨"net", "10.0.0.0/16", [⟨"10.0.1.0/24", "192.168.0.2", "eth1"⟩], false⟩) =
        (⟨"100\tnet\n", [ruleOf "10.0.0.0/16" 100],
          [⟨5, (parseCIDR "10.0.1.0/24").map (·.2), parseIP "192.168.0.2", 100⟩]⟩,
          ⟨true, "Add route route;"⟩) ∧
      (applyL3Config (.allSucceed "rt_tables" fun _ => some 5) .listed
        ⟨"100\tnet\n", [ruleOf "10.0.0.0/16" 100],
          [⟨5, (parseCIDR "10.0.1.0/24").map (·.2), parseIP "192.168.0.2", 100⟩]⟩
        (.ok ⟨"net", "10.0.0.0/16", [⟨"10.0.1.0/24", "192.168.0.2", "eth1"⟩], false⟩)).2 =
        ⟨false, "AddRouteError file exists;"⟩ := by
  decide

end MultiNicCni.Router
