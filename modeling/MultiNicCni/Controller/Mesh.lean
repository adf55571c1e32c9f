import MultiNicCni.Controller.Route
import MultiNicCni.Controller.HostSubnet

/-!
# The routes between the hosts

`AddRoutesToHost` puts a route together from three tables: the entries of the CIDR, the daemon
cache by host name, and the interface records by host name and interface index. What the routes
are for is said here without them: a `Link` is a host and another one with a daemon, both listed
in one entry.

- `recordAt_getHostInterfaceIndexMap`: with distinct indexes the record under the index of an
  entry is the last one of the host in that entry;
- `hostRoutes_entry`: the routes of one entry are those of its links;
- `hostRoutes_eq_links`: the routes of a host are those of its links;
- `addRoutes_mesh`: **the request to a host has the routes of its links, one for each**, and what is
  announced to one host of a link is announced to the other, the other way round.
-/

namespace MultiNicCni.Controller

open Go Lib

variable {daemon : DaemonPod} {hostName : String} {e : CIDREntry}

/-! ## Links -/

/-- A host and another one in the same entry, each with its record there. -/
structure Link where
  entry : CIDREntry
  own : HostInterfaceInfo
  dest : HostInterfaceInfo
  deriving DecidableEq

variable {l : Link}

/-- The route that a link calls for. -/
def Link.route (l : Link) : HostRoute := ⟨l.dest.podCIDR, l.dest.hostIP, l.own.interfaceName⟩

section Links

variable (daemonCache : GoMap String DaemonPod)

/-- The links of a host: within each entry that lists it, to every other host with a daemon. -/
def IsLink (cidrs : List CIDREntry) (hostName : String) (l : Link) : Prop :=
  l.entry ∈ cidrs ∧ l.own ∈ l.entry.hosts ∧ l.own.hostName = hostName ∧
    l.dest ∈ l.entry.hosts ∧ l.dest.hostName ≠ hostName ∧ l.dest.hostName ∈ daemonCache

/-- The other hosts of an entry that have a daemon. -/
def destinations (hostName : String) (hosts : List HostInterfaceInfo) : List HostInterfaceInfo :=
  hosts.filter fun host => host.hostName ≠ hostName ∧ host.hostName ∈ daemonCache

/-- The links of a host within one entry. -/
def entryLinks (hostName : String) (e : CIDREntry) : List Link :=
  (ownRecords hostName e.hosts).flatMap fun own =>
    (destinations daemonCache hostName e.hosts).map fun dest => ⟨e, own, dest⟩

/-- The links of a host, entry by entry. -/
def links (cidrs : List CIDREntry) (hostName : String) : List Link :=
  cidrs.flatMap (entryLinks daemonCache hostName)

variable {daemonCache}

theorem mem_entryLinks :
    l ∈ entryLinks daemonCache hostName e ↔ l.entry = e ∧ l.own ∈ e.hosts ∧
      l.own.hostName = hostName ∧ l.dest ∈ e.hosts ∧ l.dest.hostName ≠ hostName ∧
      l.dest.hostName ∈ daemonCache := by
  obtain ⟨e', own, dest⟩ := l
  simp only [entryLinks, destinations, List.mem_flatMap, List.mem_map, mem_ownRecords,
    List.mem_filter, decide_eq_true_eq, Link.mk.injEq]
  constructor
  · rintro ⟨own', ⟨hown, hname⟩, dest', ⟨hdest, hother⟩, rfl, rfl, rfl⟩
    exact ⟨rfl, hown, hname, hdest, hother⟩
  · rintro ⟨rfl, hown, hname, hdest, hother⟩
    exact ⟨own, ⟨hown, hname⟩, dest, ⟨hdest, hother⟩, rfl, rfl, rfl⟩

/-- The list holds every link of the host and nothing else. -/
theorem mem_links {cidrs : List CIDREntry} :
    l ∈ links daemonCache cidrs hostName ↔ IsLink daemonCache cidrs hostName l := by
  rw [links, List.mem_flatMap]
  constructor
  · rintro ⟨e, he, hl⟩
    obtain ⟨rfl, hrest⟩ := mem_entryLinks.mp hl
    exact ⟨he, hrest⟩
  · rintro ⟨he, hrest⟩
    exact ⟨l.entry, he, mem_entryLinks.mpr ⟨rfl, hrest⟩⟩

/-- A host with distinct names in an entry has at most one record there. -/
theorem ownRecords_cases {hosts : List HostInterfaceInfo} (hnames : (hosts.map (·.hostName)).Nodup)
    (hostName : String) : ownRecords hostName hosts = [] ∨
      ∃ own ∈ hosts, own.hostName = hostName ∧ ownRecords hostName hosts = [own] := by
  have hnodup : (ownRecords hostName hosts).Nodup := hnames.of_map.filter _
  match hown : ownRecords hostName hosts with
  | [] => exact Or.inl rfl
  | [own] =>
    obtain ⟨hmem, hname⟩ := mem_ownRecords.mp (hown ▸ List.mem_singleton_self own)
    exact Or.inr ⟨own, hmem, hname, rfl⟩
  | own :: own' :: rest =>
    -- two records of one name
    have hfst : own ∈ ownRecords hostName hosts := by rw [hown]; simp
    have hsnd : own' ∈ ownRecords hostName hosts := by rw [hown]; simp
    obtain ⟨hmem, hname⟩ := mem_ownRecords.mp hfst
    obtain ⟨hmem', hname'⟩ := mem_ownRecords.mp hsnd
    obtain rfl := List.inj_on_of_nodup_map hnames hmem hmem' (hname.trans hname'.symm)
    rw [hown] at hnodup
    exact absurd List.mem_cons_self (List.nodup_cons.mp hnodup).1

/-- Every link is listed once. -/
theorem nodup_links {cidrs : List CIDREntry} (hdistinct : (cidrs.map (·.interfaceIndex)).Nodup)
    (hnames : ∀ e ∈ cidrs, (e.hosts.map (·.hostName)).Nodup) (hostName : String) :
    (links daemonCache cidrs hostName).Nodup := by
  rw [links, List.nodup_flatMap]
  constructor
  · intro e he
    have hdests : (destinations daemonCache hostName e.hosts).Nodup :=
      ((hnames e he).of_map).filter _
    rw [entryLinks]
    rcases ownRecords_cases (hnames e he) hostName with hown | ⟨own, -, -, hown⟩
    · rw [hown]
      exact List.nodup_nil
    · rw [hown, List.flatMap_singleton]
      exact hdests.map fun d d' heq => (Link.mk.inj heq).2.2
  · -- links of different entries differ in the entry
    refine hdistinct.of_map.imp ?_
    intro e e' hne l hl hl'
    exact hne ((mem_entryLinks.mp hl).1.symm.trans (mem_entryLinks.mp hl').1)

end Links

/-! ## The routes of a host -/

section Routes

variable {daemonCache : GoMap String DaemonPod} {cidrSpec : CIDRSpec}

/-- What the loop of `AddRoutesToHost` adds for one host of an entry. -/
def routeTo (daemonCache : GoMap String DaemonPod) (cidrs : List CIDREntry) (hostName : String)
    (daemon : DaemonPod) (entry : CIDREntry) (host : HostInterfaceInfo) : Option HostRoute :=
  (daemonCache.lookup host.hostName).bind fun destDaemon =>
    if destDaemon.hostIP = daemon.hostIP then none
    else (recordAt (getHostInterfaceIndexMap cidrs) hostName entry.interfaceIndex).bind
      fun ifaceInfo => some ⟨host.podCIDR,
        (recordAt (getHostInterfaceIndexMap cidrs) host.hostName entry.interfaceIndex).elim ""
          (·.hostIP), ifaceInfo.interfaceName⟩

theorem hostRoutes_eq_flatMap (hostName : String) (daemon : DaemonPod) :
    hostRoutes daemonCache cidrSpec hostName daemon = cidrSpec.cidrs.flatMap fun entry =>
      entry.hosts.filterMap (routeTo daemonCache cidrSpec.cidrs hostName daemon entry) := by
  refine List.flatMap_congr fun entry _ => List.filterMap_congr fun host _ => ?_
  simp only [routeTo, recordAt, Option.bind_assoc]
  rfl

variable (hdistinct : (cidrSpec.cidrs.map (·.interfaceIndex)).Nodup)
  (hnames : ∀ e ∈ cidrSpec.cidrs, (e.hosts.map (·.hostName)).Nodup)

include hdistinct hnames

/-- The map has the record of every host of an entry under the index of the entry. -/
theorem recordAt_of_mem (he : e ∈ cidrSpec.cidrs) {host : HostInterfaceInfo}
    (hhost : host ∈ e.hosts) :
    recordAt (getHostInterfaceIndexMap cidrSpec.cidrs) host.hostName e.interfaceIndex =
      some host := by
  rw [recordAt_getHostInterfaceIndexMap hdistinct he]
  have hmem : host ∈ ownRecords host.hostName e.hosts := mem_ownRecords.mpr ⟨hhost, rfl⟩
  rcases ownRecords_cases (hnames e he) host.hostName with hown | ⟨own, -, -, hown⟩
  · rw [hown] at hmem
    exact absurd hmem List.not_mem_nil
  · rw [hown] at hmem ⊢
    obtain rfl := List.mem_singleton.mp hmem
    rfl

variable (hips : daemonCache.Separates DaemonPod.hostIP)

include hips

/-- There is a route to the other hosts with a daemon, if the host itself is in the entry. -/
theorem routeTo_eq (hcached : daemonCache.lookup hostName = some daemon) (he : e ∈ cidrSpec.cidrs)
    {host : HostInterfaceInfo} (hhost : host ∈ e.hosts) :
    routeTo daemonCache cidrSpec.cidrs hostName daemon e host =
      if host.hostName ≠ hostName ∧ host.hostName ∈ daemonCache then
        (ownRecords hostName e.hosts).getLast?.map fun own => Link.route ⟨e, own, host⟩
      else none := by
  rw [routeTo, recordAt_of_mem hdistinct hnames he hhost,
    recordAt_getHostInterfaceIndexMap hdistinct he]
  cases hdest : daemonCache.lookup host.hostName with
  | none =>
    rw [if_neg fun h => AList.lookup_eq_none.mp hdest h.2]
    rfl
  | some destDaemon =>
    have hmem : host.hostName ∈ daemonCache := AList.lookup_isSome.mp (by rw [hdest]; rfl)
    rw [Option.bind_some]
    by_cases hname : host.hostName = hostName
    · -- the host itself
      rw [hname, hcached] at hdest
      obtain rfl := Option.some.inj hdest
      rw [if_pos rfl, if_neg fun h => h.1 hname]
    · rw [if_neg fun hip => hname (hips _ _ _ _ hdest hcached hip), if_pos ⟨hname, hmem⟩,
        Option.map_eq_bind]
      rfl

/-- The routes of one entry are those of its links. -/
theorem hostRoutes_entry (hcached : daemonCache.lookup hostName = some daemon)
    (he : e ∈ cidrSpec.cidrs) :
    e.hosts.filterMap (routeTo daemonCache cidrSpec.cidrs hostName daemon e) =
      (entryLinks daemonCache hostName e).map Link.route := by
  rw [List.filterMap_congr fun host hhost => routeTo_eq hdistinct hnames hips hcached he hhost]
  rcases ownRecords_cases (hnames e he) hostName with hown | ⟨own, -, -, hown⟩
  · rw [entryLinks, hown]
    simp
  · rw [entryLinks, hown, List.flatMap_singleton, List.map_map, destinations,
      ← List.filterMap_eq_map, List.filterMap_filter]
    refine List.filterMap_congr fun host _ => ?_
    by_cases hother : host.hostName ≠ hostName ∧ host.hostName ∈ daemonCache
    · rw [if_pos hother, if_pos (decide_eq_true hother)]
      rfl
    · rw [if_neg hother, if_neg (by simpa using hother)]

/-- The routes of a host are those of its links. -/
theorem hostRoutes_eq_links (hcached : daemonCache.lookup hostName = some daemon) :
    hostRoutes daemonCache cidrSpec hostName daemon =
      (links daemonCache cidrSpec.cidrs hostName).map Link.route := by
  rw [hostRoutes_eq_flatMap, links, List.map_flatMap]
  exact List.flatMap_congr fun e he => hostRoutes_entry hdistinct hnames hips hcached he

/-- The request to the host of a link has the route of the link. -/
def Announced (sent : List RouteRequest) (l : Link) : Prop :=
  ∃ r ∈ sent, r.hostName = l.own.hostName ∧ l.route ∈ r.body.routes

/-- A link of a host with a daemon is announced to it. -/
theorem announced_of_isLink (daemons : Daemons) (forceDelete : Bool)
    (hown : l.own.hostName ∈ daemonCache)
    (hlink : IsLink daemonCache cidrSpec.cidrs l.own.hostName l) :
    Announced (addRoutes daemons daemonCache cidrSpec forceDelete).sent l := by
  obtain ⟨daemon, hcached⟩ := Option.isSome_iff_exists.mp (AList.lookup_isSome.mpr hown)
  have htarget : IsTarget daemonCache cidrSpec l.own.hostName daemon :=
    ⟨hcached, l.entry, hlink.1, l.own, hlink.2.1, rfl⟩
  refine ⟨_, ((addRoutes_sent daemons daemonCache cidrSpec forceDelete).2 _).mpr
    ⟨_, _, htarget, rfl⟩, rfl, ?_⟩
  show l.route ∈ hostRoutes daemonCache cidrSpec l.own.hostName daemon
  rw [hostRoutes_eq_links hdistinct hnames hips hcached]
  exact List.mem_map_of_mem (mem_links.mpr hlink)

/-- **The routes form a complete mesh.** `AddRoutes` sends one request to each host with a daemon
that an entry lists. It has one route for each of the links of the host, to the pod CIDR of the other
host through its address and over the interface of the host itself, and no other route. Of two hosts
of an entry with daemons, one is told the route to the other exactly when the other is told the
route to it. -/
theorem addRoutes_mesh (daemons : Daemons) (forceDelete : Bool) :
    ((addRoutes daemons daemonCache cidrSpec forceDelete).sent.map (·.hostName)).Nodup ∧
      (∀ r, r ∈ (addRoutes daemons daemonCache cidrSpec forceDelete).sent ↔
        ∃ hostName daemon, IsTarget daemonCache cidrSpec hostName daemon ∧
          r = { hostName := hostName
                address := getDaemonAddressByPod daemons.port daemon ++ daemons.addRoutePath
                body :=
                  { name := cidrSpec.config.name
                    subnet := cidrSpec.config.subnet
                    routes := (links daemonCache cidrSpec.cidrs hostName).map Link.route
                    force := forceDelete } }) ∧
      (∀ hostName, (links daemonCache cidrSpec.cidrs hostName).Nodup ∧
        ∀ l, l ∈ links daemonCache cidrSpec.cidrs hostName ↔
          IsLink daemonCache cidrSpec.cidrs hostName l) ∧
      ∀ e ∈ cidrSpec.cidrs, ∀ own ∈ e.hosts, ∀ dest ∈ e.hosts, own.hostName ∈ daemonCache →
        dest.hostName ∈ daemonCache →
        (Announced (addRoutes daemons daemonCache cidrSpec forceDelete).sent ⟨e, own, dest⟩ ↔
          Announced (addRoutes daemons daemonCache cidrSpec forceDelete).sent ⟨e, dest, own⟩) := by
  obtain ⟨honce, hsent⟩ := addRoutes_sent daemons daemonCache cidrSpec forceDelete
  refine ⟨honce, fun r => (hsent r).trans ?_, fun hostName =>
    ⟨nodup_links hdistinct hnames hostName, fun l => mem_links⟩, ?_⟩
  · refine exists_congr fun hostName => exists_congr fun daemon => and_congr_right fun htarget => ?_
    rw [routeRequest, requestTo, hostRoutes_eq_links hdistinct hnames hips htarget.1]
  · intro e he own hown dest hdest hcown hcdest
    by_cases hname : own.hostName = dest.hostName
    · -- one host: its only record in the entry
      obtain rfl := List.inj_on_of_nodup_map (hnames e he) hown hdest hname
      rfl
    · exact iff_of_true
        (announced_of_isLink hdistinct hnames hips daemons forceDelete hcown
          ⟨he, hown, rfl, hdest, Ne.symm hname, hcdest⟩)
        (announced_of_isLink hdistinct hnames hips daemons forceDelete hcdest
          ⟨he, hdest, rfl, hown, hname, hcown⟩)

end Routes

/-- Two hosts of a network: each is sent the route of its one link to the other. -/
theorem addRoutes_mesh_routed :
    (addRoutes (daemonsWith .unreadableBody) routedCache routedSpec true).sent.Perm
        [⟨"a", "http://172.16.0.1:11000/addl3", ⟨"net", "10.0.0.0/16",
            [⟨"10.0.1.0/24", "192.168.0.2", "eth1"⟩], true⟩⟩,
          ⟨"b", "http://172.16.0.2:11000/addl3", ⟨"net", "10.0.0.0/16",
            [⟨"10.0.0.0/24", "192.168.0.1", "eth1"⟩], true⟩⟩] ∧
      ((addRoutes (daemonsWith .unreadableBody) routedCache routedSpec true).sent.map
        (·.hostName)).Nodup ∧
      ∀ r ∈ (addRoutes (daemonsWith .unreadableBody) routedCache routedSpec true).sent,
        r.body.routes = (links routedCache routedSpec.cidrs r.hostName).map Link.route := by
  have hips : routedCache.Separates DaemonPod.hostIP := .of_nodup (by decide +kernel)
  obtain ⟨honce, hsent, -, -⟩ :=
    @addRoutes_mesh routedCache routedSpec (by decide) (by decide) hips (daemonsWith .unreadableBody)
      true
  refine ⟨by decide +kernel, honce, ?_⟩
  intro r hr
  obtain ⟨hostName, daemon, -, rfl⟩ := (hsent r).mp hr
  rfl

end MultiNicCni.Controller
