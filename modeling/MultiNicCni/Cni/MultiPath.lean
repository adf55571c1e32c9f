import MultiNicCni.Cni.Loader

/-!
# Multi-path routes (`cni/plugins/main/multi-nic/route.go`, `utils.go`)

A destination with one route is routed by the NICs: the route belongs in the `ipam` section of
their configurations. A destination with several routes gets one multi-path route over all the
gateways, which the plugin installs itself once the NICs are there; a copy of it in an `ipam`
section makes that installation fail.

- The functions of this module are those of `Cni.Loader` for the routes of any address family
  (`RouteText`); `injectMultiNicIPAM_ipv4` and `injectSingleNicIPAM_ipv4` say that the loaders
  use their IPv4 case.
- `separateMultiPathRoutes` does what it is for (`separateMultiPathRoutes_partitions`), and so
  does the injection of a static address (`injectMultiNicIPAM_partitions`).
- The injection of the network's own IPAM injects the routes as they were before the
  separation, so that it is right only where there is nothing to separate
  (`injectSingleNicIPAM_partitions_iff`).
-/

namespace MultiNicCni.Cni.MultiPath

open Go

/-- The routes `ρ` and gateways `γ` of an address family. -/
structure RouteText (ρ γ : Type) where
  /-- the route with the texts of a destination and a gateway; `none` for a destination that is
  no CIDR -/
  read : String → String → Option ρ
  /-- `r.Dst.String()` -/
  dst : ρ → String
  /-- `r.GW` -/
  gw : ρ → γ

/-- The routes of `Cni.Loader`. -/
def ipv4 : RouteText Route (Option IP4) where
  read dstStr gwStr := (parseCIDR dstStr).map fun dst => ⟨dst.2, parseIP gwStr⟩
  dst r := netString r.dst
  gw := Route.gw

section Model

variable {ρ γ : Type} (text : RouteText ρ γ)

/-- `separateMultiPathRoutes`: the destinations with several routes, and the routes that are
the only one to their destination. -/
def separateMultiPathRoutes (order : GoMap.RangeOrder String (List ρ)) (routes : List ρ) :
    GoMap String (List γ) × List ρ :=
  let dstMap := GoMap.groupBy text.dst routes
  (dstMap.entries.foldl (fun multiPathRoutes e =>
      if e.2.length = 1 then multiPathRoutes
      else multiPathRoutes.insert e.1 (e.2.map text.gw)) ∅,
    (order.values dstMap).flatMap fun routes => if routes.length = 1 then routes else [])

/-- The route of an `ipam` section, if it is complete. -/
def routeOf (r : IpamRoute) : Option (Option ρ) :=
  match r.dst, r.gw with
  | some dstStr, some gwStr => (text.read dstStr gwStr).map some
  | _, _ => some none

/-- `getRoutesFromIPAM`. -/
def getRoutesFromIPAM (order : GoMap.RangeOrder String (List ρ)) (ipam : IpamSection) :
    Option (Option (List ρ) × Option (GoMap String (List γ))) :=
  match ipam.routes with
  | none => some (none, none)
  | some ipamRoutes => do
    let routes ← ipamRoutes.mapM (routeOf text)
    let (multiPathRoutes, nonMultiPathRoutes) :=
      separateMultiPathRoutes text order routes.reduceOption
    some (some nonMultiPathRoutes, some multiPathRoutes)

/-- The `ipam` section of a NIC (`Cni.NicIpam`); `.ofType ""` is the empty object. -/
inductive NicIpam (ρ : Type) where
  | ofType (type : String)
  | static (addresses : List String) (routes : Option (List ρ))
  | network (ipam : IpamSection)
  | single (fields : GoMap String String)

/-- Replace `"ipam":{}` in a configuration with the section `conf`. -/
def NicIpam.replace (conf ipam : NicIpam ρ) : NicIpam ρ :=
  match conf with
  | .ofType "" => ipam
  | _ => conf

/-- `replaceMultiNicIPAM`, with the text of the address. -/
def replaceMultiNicIPAM (order : GoMap.RangeOrder String (List ρ)) (conf : NicIpam ρ)
    (ipam : IpamSection) (ipConfig : Option String) :
    Option (NicIpam ρ × Option (GoMap String (List γ))) := do
  let (nonMultiPathRoutes, multiPathRoutes) ← getRoutesFromIPAM text order ipam
  some (conf.replace (.static ipConfig.toList nonMultiPathRoutes), multiPathRoutes)

/-- `injectMultiNicIPAM`. -/
def injectMultiNicIPAM (order : GoMap.RangeOrder String (List ρ)) (conf : NicIpam ρ)
    (ipam : IpamSection) (ipConfigs : List String) (ipIndex : Nat) :
    Option (NicIpam ρ × Option (GoMap String (List γ))) :=
  replaceMultiNicIPAM text order conf ipam ipConfigs[ipIndex]?

/-- `replaceSingleNicIPAMWithMultiConfig`. The routes left by the separation go into an object
that is not printed any more. -/
def replaceSingleNicIPAMWithMultiConfig (order : GoMap.RangeOrder String (List ρ))
    (conf : NicIpam ρ) (ipam : IpamSection) (ipamBytes : NicIpam ρ) :
    Option (NicIpam ρ × Option (GoMap String (List γ))) := do
  let (_, multiPathRoutes) ← getRoutesFromIPAM text order ipam
  some (conf.replace ipamBytes, multiPathRoutes)

/-- `injectSingleNicIPAM`. -/
def injectSingleNicIPAM (order : GoMap.RangeOrder String (List ρ)) (conf : NicIpam ρ)
    (ipam : IpamSection) : Option (NicIpam ρ × Option (GoMap String (List γ))) :=
  replaceSingleNicIPAMWithMultiConfig text order conf ipam (.network ipam)

end Model

/-! ## The loaders are the IPv4 case -/

/-- The section of a configuration of the loaders. -/
def ofNicIpam : Cni.NicIpam → NicIpam Route
  | .ofType type => .ofType type
  | .static addresses routes => .static addresses routes
  | .network ipam => .network ipam
  | .single fields => .single fields

theorem ofNicIpam_withIpam (conf : NicConf) (ipam : Cni.NicIpam) :
    ofNicIpam (conf.withIpam ipam).ipam = (ofNicIpam conf.ipam).replace (ofNicIpam ipam) := by
  unfold NicConf.withIpam
  split
  · next hempty =>
    rw [hempty]
    rfl
  · next hset =>
    show ofNicIpam conf.ipam = _
    rcases hconf : conf.ipam with type | _ | _ | _
    · have htype : type ≠ "" := fun h => hset (hconf.trans (congrArg _ h))
      unfold NicIpam.replace
      split
      · next heq => exact absurd (NicIpam.ofType.inj heq) htype
      · rfl
    · rfl
    · rfl
    · rfl

theorem routeOf_ipv4 : routeOf ipv4 = Cni.routeOf := by
  funext r
  obtain ⟨_ | dstStr, _ | gwStr⟩ := r
  · rfl
  · rfl
  · rfl
  · show (Option.map _ (parseCIDR dstStr)).map some = _
    rcases hdst : parseCIDR dstStr with _ | dst
    · simp [Cni.routeOf, hdst]
    · simp [Cni.routeOf, hdst]

theorem getRoutesFromIPAM_ipv4 (order : GoMap.RangeOrder String (List Route)) (ipam : IpamSection) :
    getRoutesFromIPAM ipv4 order ipam = Cni.getRoutesFromIPAM order ipam := by
  unfold getRoutesFromIPAM Cni.getRoutesFromIPAM
  rw [routeOf_ipv4]
  rfl

theorem injectMultiNicIPAM_ipv4 (order : GoMap.RangeOrder String (List Route)) (conf : NicConf)
    (ipam : IpamSection) (ipConfigs : List IPConfig) (ipIndex : Nat) :
    injectMultiNicIPAM ipv4 order (ofNicIpam conf.ipam) ipam
        (ipConfigs.map fun ipConfig => netString ipConfig.address) ipIndex =
      (Cni.injectMultiNicIPAM order conf ipam ipConfigs ipIndex).map
        fun r => (ofNicIpam r.1.ipam, r.2) := by
  unfold injectMultiNicIPAM replaceMultiNicIPAM Cni.injectMultiNicIPAM Cni.replaceMultiNicIPAM
  rw [getRoutesFromIPAM_ipv4]
  rcases Cni.getRoutesFromIPAM order ipam with _ | ⟨routes, multiPathRoutes⟩
  · rfl
  · show some ((ofNicIpam conf.ipam).replace (.static _ routes), multiPathRoutes) =
      some (ofNicIpam (conf.withIpam (.static _ routes)).ipam, multiPathRoutes)
    rw [ofNicIpam_withIpam, List.getElem?_map, Option.toList_map]
    rfl

theorem injectSingleNicIPAM_ipv4 (order : GoMap.RangeOrder String (List Route)) (conf : NicConf)
    (ipam : IpamSection) :
    injectSingleNicIPAM ipv4 order (ofNicIpam conf.ipam) ipam =
      (Cni.injectSingleNicIPAM order conf ipam).map fun r => (ofNicIpam r.1.ipam, r.2) := by
  unfold injectSingleNicIPAM replaceSingleNicIPAMWithMultiConfig Cni.injectSingleNicIPAM
    Cni.replaceSingleNicIPAMWithMultiConfig
  rw [getRoutesFromIPAM_ipv4]
  rcases Cni.getRoutesFromIPAM order ipam with _ | ⟨routes, multiPathRoutes⟩
  · rfl
  · show some ((ofNicIpam conf.ipam).replace (.network ipam), multiPathRoutes) =
      some (ofNicIpam (conf.withIpam (.network ipam)).ipam, multiPathRoutes)
    rw [ofNicIpam_withIpam]
    rfl

/-! ## The separation -/

section Separation

variable {ρ γ : Type} (text : RouteText ρ γ)

/-- The routes to a destination. -/
def routesTo (routes : List ρ) (dst : String) : List ρ := routes.filter fun r => text.dst r = dst

/-- **What the separation is for**: of the routes, those to a destination that occurs once are
injected, and those to a destination that occurs several times are the next hops of one
multi-path route. -/
structure Partitions (routes injected : List ρ) (multiPathRoutes : GoMap String (List γ)) :
    Prop where
  /-- the only route to a destination is injected, once, and is not multi-path -/
  once : ∀ dst r, routesTo text routes dst = [r] →
    routesTo text injected dst = [r] ∧ multiPathRoutes.lookup dst = none
  /-- several routes to a destination are its next hops in their order, and none is injected -/
  several : ∀ dst, 2 ≤ (routesTo text routes dst).length →
    multiPathRoutes.lookup dst = some ((routesTo text routes dst).map text.gw) ∧
      routesTo text injected dst = []

variable {text} (order : GoMap.RangeOrder String (List ρ)) (routes : List ρ)

theorem mem_entries_groupBy {e : (_ : String) × List ρ}
    (he : e ∈ (GoMap.groupBy text.dst routes).entries) :
    e.2 = routesTo text routes e.1 ∧ e.2 ≠ [] := by
  have hlookup := GoMap.lookup_of_mem he
  rw [GoMap.lookup_groupBy] at hlookup
  split at hlookup
  · cases hlookup
  · next hne =>
    have hgroup := Option.some.inj hlookup
    exact ⟨hgroup.symm, hgroup ▸ hne⟩

theorem lookup_separateMultiPathRoutes (dst : String) :
    (separateMultiPathRoutes text order routes).1.lookup dst =
      if 2 ≤ (routesTo text routes dst).length then some ((routesTo text routes dst).map text.gw)
      else none := by
  have hset := Lib.foldl_set (l := (GoMap.groupBy text.dst routes).entries)
    (f := fun (m : GoMap String (List γ)) e =>
      if e.2.length = 1 then m else m.insert e.1 (e.2.map text.gw))
    (fun m => m.lookup dst) (fun e => e.1 = dst ∧ e.2.length ≠ 1)
    (some ((routesTo text routes dst).map text.gw)) ?_ ∅
  · refine hset.trans ?_
    congr 1
    · -- an entry that is stored under the destination is its group, with two routes or more
      rw [eq_iff_iff, List.any_eq_true]
      constructor
      · rintro ⟨e, he, hstored⟩
        obtain ⟨rfl, hlen⟩ := of_decide_eq_true hstored
        obtain ⟨hgroup, hne⟩ := mem_entries_groupBy routes he
        have hpos := List.length_pos_of_ne_nil hne
        rw [← hgroup]
        omega
      · intro hlen
        have hne : routesTo text routes dst ≠ [] := by
          intro hnil
          rw [hnil, List.length_nil] at hlen
          omega
        have hlookup : (GoMap.groupBy text.dst routes).lookup dst =
            some (routesTo text routes dst) :=
          (GoMap.lookup_groupBy _ _ _).trans (if_neg hne)
        refine ⟨⟨dst, routesTo text routes dst⟩, AList.mem_lookup_iff.mp hlookup,
          decide_eq_true ⟨rfl, ?_⟩⟩
        show (routesTo text routes dst).length ≠ 1
        omega
  · intro m e he
    obtain ⟨hgroup, -⟩ := mem_entries_groupBy routes he
    by_cases hlen : e.2.length = 1
    · simp [hlen]
    · by_cases hdst : e.1 = dst
      · subst hdst
        simp [hgroup ▸ hlen, AList.lookup_insert, hgroup]
      · simp [hlen, hdst, AList.lookup_insert_ne (Ne.symm hdst)]

theorem dst_of_mem_routesTo {routes : List ρ} {dst : String} {r : ρ}
    (hr : r ∈ routesTo text routes dst) : text.dst r = dst :=
  of_decide_eq_true (List.mem_filter.mp hr).2

/-- What a group leaves for the NICs. -/
def alone (routes : List ρ) : List ρ := if routes.length = 1 then routes else []

theorem alone_subset {routes : List ρ} {r : ρ} (hr : r ∈ alone routes) : r ∈ routes := by
  unfold alone at hr
  split at hr
  · exact hr
  · cases hr

theorem eq_of_perm_alone {routes injected : List ρ} (h : injected.Perm (alone routes)) :
    injected = alone routes := by
  unfold alone at h ⊢
  split at h
  · next hlen =>
    obtain ⟨r, rfl⟩ := List.length_eq_one_iff.mp hlen
    rw [List.perm_singleton.mp h]
    rfl
  · next hlen => rw [if_neg hlen, List.perm_nil.mp h]

theorem routesTo_separateMultiPathRoutes (dst : String) :
    routesTo text (separateMultiPathRoutes text order routes).2 dst =
      alone (routesTo text routes dst) := by
  -- in the order of the list only the group of the destination contributes
  have hgroups : ∀ e ∈ (GoMap.groupBy text.dst routes).entries,
      (alone e.2).filter (fun r => text.dst r = dst) = if e.1 = dst then alone e.2 else [] := by
    intro e he
    obtain ⟨hgroup, -⟩ := mem_entries_groupBy routes he
    have hdst : ∀ r ∈ alone e.2, text.dst r = e.1 := by
      intro r hr
      have hmem := alone_subset hr
      rw [hgroup] at hmem
      exact dst_of_mem_routesTo hmem
    split
    · next heq => exact List.filter_eq_self.mpr fun r hr => decide_eq_true ((hdst r hr).trans heq)
    · next hne =>
      refine List.filter_eq_nil_iff.mpr fun r hr hdec => hne ?_
      exact (hdst r hr).symm.trans (of_decide_eq_true hdec)
  have hlisted : ((GoMap.groupBy text.dst routes).values.flatMap alone).filter
      (fun r => text.dst r = dst) = alone (routesTo text routes dst) := by
    rw [List.filter_flatMap, GoMap.values, List.flatMap_map, List.flatMap_congr hgroups,
      GoMap.flatMap_entries_lookup alone, GoMap.lookup_groupBy]
    split
    · next hnil => exact (congrArg alone hnil).symm
    · rfl
  -- any other order permutes the groups, and one of at most one route stays
  have hperm := ((order.perm (GoMap.groupBy text.dst routes)).flatMap_right alone).filter
    (fun r => text.dst r = dst)
  rw [hlisted] at hperm
  exact eq_of_perm_alone hperm

/-- **The separation does what it is for**, in every order of the map. -/
theorem separateMultiPathRoutes_partitions :
    Partitions text routes (separateMultiPathRoutes text order routes).2
      (separateMultiPathRoutes text order routes).1 where
  once dst r hone := by
    rw [routesTo_separateMultiPathRoutes, lookup_separateMultiPathRoutes, hone]
    exact ⟨rfl, rfl⟩
  several dst hlen := by
    rw [routesTo_separateMultiPathRoutes, lookup_separateMultiPathRoutes]
    refine ⟨if_pos hlen, if_neg ?_⟩
    omega

/-- All the routes stay injected: right where no destination occurs twice. -/
theorem partitions_all_iff :
    Partitions text routes routes (separateMultiPathRoutes text order routes).1 ↔
      (routes.map text.dst).Nodup := by
  have hcount : ∀ dst, (routes.map text.dst).count dst = (routesTo text routes dst).length := by
    intro dst
    rw [List.count, List.countP_map, routesTo, ← List.countP_eq_length_filter]
    exact List.countP_congr fun r _ => by simp
  rw [List.nodup_iff_count_le_one]
  constructor
  · intro hpart dst
    by_contra hlen
    rw [hcount] at hlen
    -- several routes and none
    have hnone := (hpart.several dst (by omega)).2
    rw [hnone, List.length_nil] at hlen
    omega
  · intro hone
    constructor
    · intro dst r hr
      exact ⟨hr, ((separateMultiPathRoutes_partitions order routes).once dst r hr).2⟩
    · intro dst hlen
      have hle := hone dst
      rw [hcount] at hle
      omega

end Separation

/-! ## The injections -/

section Injections

variable {ρ γ : Type} (text : RouteText ρ γ)

/-- A route with a destination that is a CIDR, and a gateway. -/
def Valid (r : IpamRoute) : Prop :=
  ∃ dstStr gwStr route, r = ⟨some dstStr, some gwStr⟩ ∧ text.read dstStr gwStr = some route

theorem valid_of_isSome {r : IpamRoute} (h : (routeOf text r).join.isSome) : Valid text r := by
  obtain ⟨_ | dstStr, _ | gwStr⟩ := r
  · cases h
  · cases h
  · cases h
  · rcases hread : text.read dstStr gwStr with _ | route
    · simp [routeOf, hread] at h
    · exact ⟨dstStr, gwStr, route, rfl, hread⟩

/-- The routes an `ipam` section stands for. -/
def readRoutes (ipamRoutes : List IpamRoute) : List ρ :=
  ipamRoutes.filterMap fun r => (routeOf text r).join

/-- The routes the device plugin finds in its configuration. -/
def injectedRoutes : NicIpam ρ → List ρ
  | .static _ routes => routes.getD []
  | .network ipam => readRoutes text (ipam.routes.getD [])
  | .ofType _ => []
  | .single _ => []

/-- A result of an injection: the routes are separated between the configuration and the
multi-path routes. -/
def Separated (ipamRoutes : List IpamRoute)
    (result : Option (NicIpam ρ × Option (GoMap String (List γ)))) : Prop :=
  ∃ conf multiPathRoutes, result = some (conf, some multiPathRoutes) ∧
    Partitions text (readRoutes text ipamRoutes) (injectedRoutes text conf) multiPathRoutes

variable {text} {ipamRoutes : List IpamRoute} (hvalid : ∀ r ∈ ipamRoutes, Valid text r)

include hvalid in
theorem mapM_routeOf :
    ipamRoutes.mapM (routeOf text) = some ((readRoutes text ipamRoutes).map some) := by
  induction ipamRoutes with
  | nil => rfl
  | cons r ipamRoutes ih =>
    obtain ⟨dstStr, gwStr, route, rfl, hread⟩ := hvalid r List.mem_cons_self
    have hroute : routeOf text ⟨some dstStr, some gwStr⟩ = some (some route) :=
      congrArg (Option.map some) hread
    rw [List.mapM_cons, hroute, ih fun r hr => hvalid r (List.mem_cons_of_mem _ hr), readRoutes,
      readRoutes, List.filterMap_cons, hroute]
    rfl

variable (order : GoMap.RangeOrder String (List ρ)) {ipam : IpamSection}

include hvalid in
theorem getRoutesFromIPAM_valid (hroutes : ipam.routes = some ipamRoutes) :
    getRoutesFromIPAM text order ipam =
      some (some (separateMultiPathRoutes text order (readRoutes text ipamRoutes)).2,
        some (separateMultiPathRoutes text order (readRoutes text ipamRoutes)).1) := by
  have hreduce : ((readRoutes text ipamRoutes).map some).reduceOption =
      readRoutes text ipamRoutes := by
    show ((readRoutes text ipamRoutes).map some).filterMap id = _
    rw [List.filterMap_map]
    exact List.filterMap_some
  unfold getRoutesFromIPAM
  rw [hroutes]
  simp only [mapM_routeOf hvalid, hreduce, Option.bind_eq_bind, Option.bind_some]

include hvalid in
/-- **The static section has the routes left by the separation.** -/
theorem injectMultiNicIPAM_partitions (hroutes : ipam.routes = some ipamRoutes)
    (ipConfigs : List String) (ipIndex : Nat) :
    Separated text ipamRoutes
      (injectMultiNicIPAM text order (.ofType "") ipam ipConfigs ipIndex) := by
  have hpart := @separateMultiPathRoutes_partitions _ _ text order (readRoutes text ipamRoutes)
  refine ⟨.static (ipConfigs[ipIndex]?).toList (some _), _, ?_, hpart⟩
  unfold injectMultiNicIPAM replaceMultiNicIPAM
  rw [getRoutesFromIPAM_valid hvalid order hroutes]
  rfl

include hvalid in
/-- **The section of the network keeps all its routes**, so they are separated where there is
nothing to separate. -/
theorem injectSingleNicIPAM_partitions_iff (hroutes : ipam.routes = some ipamRoutes) :
    Separated text ipamRoutes (injectSingleNicIPAM text order (.ofType "") ipam) ↔
      ((readRoutes text ipamRoutes).map text.dst).Nodup := by
  have hresult : injectSingleNicIPAM text order (.ofType "") ipam =
      some (.network ipam,
        some (separateMultiPathRoutes text order (readRoutes text ipamRoutes)).1) := by
    unfold injectSingleNicIPAM replaceSingleNicIPAMWithMultiConfig
    rw [getRoutesFromIPAM_valid hvalid order hroutes]
    rfl
  have hinjected : injectedRoutes text (.network ipam) = readRoutes text ipamRoutes := by
    show readRoutes text (ipam.routes.getD []) = _
    rw [hroutes]
    rfl
  rw [← partitions_all_iff order]
  constructor
  · rintro ⟨conf, multiPathRoutes, heq, hpart⟩
    obtain ⟨rfl, hmulti⟩ := Prod.mk.inj (Option.some.inj (hresult.symm.trans heq))
    rwa [hinjected, ← Option.some.inj hmulti] at hpart
  · intro hpart
    exact ⟨_, _, hresult, hinjected.symm ▸ hpart⟩

end Injections

/-- **Both injections separate the routes exactly where no destination occurs twice**, for the
routes of every address family, in every order of the maps. -/
theorem injectNicIPAM_separated_iff {ρ γ : Type} (text : RouteText ρ γ)
    (order order' : GoMap.RangeOrder String (List ρ)) (ipam : IpamSection)
    (ipamRoutes : List IpamRoute) (hroutes : ipam.routes = some ipamRoutes)
    (hvalid : ∀ r ∈ ipamRoutes, Valid text r) (ipConfigs : List String) (ipIndex : Nat) :
    (Separated text ipamRoutes (injectMultiNicIPAM text order (.ofType "") ipam ipConfigs ipIndex) ∧
        Separated text ipamRoutes (injectSingleNicIPAM text order' (.ofType "") ipam)) ↔
      ((readRoutes text ipamRoutes).map text.dst).Nodup := by
  constructor
  · rintro ⟨-, hsingle⟩
    exact (injectSingleNicIPAM_partitions_iff hvalid order' hroutes).mp hsingle
  · intro honce
    exact ⟨injectMultiNicIPAM_partitions hvalid order hroutes ipConfigs ipIndex,
      (injectSingleNicIPAM_partitions_iff hvalid order' hroutes).mpr honce⟩

/-- An `ipam` section with routes. -/
def sectionWith (routes : List IpamRoute) : IpamSection :=
  { type := "multi-nic-ipam", routes := some routes, fields := [], ipamType := "", args := none }

/-- Two destinations, each with one gateway. -/
def singlePaths : List IpamRoute :=
  [⟨some "10.1.0.0/16", some "192.168.0.1"⟩, ⟨some "10.2.0.0/16", some "192.168.0.1"⟩]

theorem injectNicIPAM_separated_singlePaths :
    Separated ipv4 singlePaths
        (injectMultiNicIPAM ipv4 .listed (.ofType "") (sectionWith singlePaths) ["10.0.0.9/24"] 0) ∧
      Separated ipv4 singlePaths
        (injectSingleNicIPAM ipv4 .listed (.ofType "") (sectionWith singlePaths)) := by
  have hread : ∀ r ∈ singlePaths, (routeOf ipv4 r).join.isSome := by decide +kernel
  exact (injectNicIPAM_separated_iff ipv4 .listed .listed (sectionWith singlePaths) singlePaths rfl
    (fun r hr => valid_of_isSome ipv4 (hread r hr)) ["10.0.0.9/24"] 0).mpr (by decide +kernel)

/-- One destination over two gateways. -/
def twoPaths : List IpamRoute :=
  [⟨some "10.1.0.0/16", some "192.168.0.1"⟩, ⟨some "10.1.0.0/16", some "192.168.0.2"⟩]

/-- Both routes stay in the configuration of the NIC and are the next hops of a multi-path
route as well. -/
theorem injectSingleNicIPAM_not_separated :
    ¬ Separated ipv4 twoPaths
      (injectSingleNicIPAM ipv4 .listed (.ofType "") (sectionWith twoPaths)) := by
  have hread : ∀ r ∈ twoPaths, (routeOf ipv4 r).join.isSome := by decide +kernel
  rw [injectSingleNicIPAM_partitions_iff (fun r hr => valid_of_isSome ipv4 (hread r hr))
    .listed rfl]
  decide +kernel

end MultiNicCni.Cni.MultiPath
