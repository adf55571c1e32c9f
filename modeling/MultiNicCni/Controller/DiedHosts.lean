import MultiNicCni.Controller.Seats

/-!
# Hosts found dead during a pass

The first loop of `UpdateEntries` looks up the node of a listed host that the snapshot does not show.
A host whose node is gone is found dead part-way through the entries, when earlier entries may have
kept it already; the last loop takes it out of these, but leaves an entry alone in which no other
host remains.

- `nodeLookups`: the hosts whose nodes are looked up, in order; `mem_diedHost` says that `diedHost`
  has those whose lookup answers so;
- `staysLiving`: does an entry still have a living host when the turns on its network are over?
- `died_hosts_gone`: **the hosts found dead are gone exactly when every entry that lists one still
  has a living host at the end**.
-/

namespace MultiNicCni.Controller

open Go Compute Lib

/-! ## The lookups -/

/-- The names of the hosts of the entries, in the order of the first loop. -/
def hostNames (entries : List CIDREntry) : List String :=
  entries.flatMap fun entry => entry.hosts.map (·.hostName)

/-- Does this host lead to a lookup? The state is the hosts found dead and the hosts looked up. -/
def lookUp (snapshot : GoMap String HostInterface) (nodes : Nat → NodeLookup)
    (st : List String × List String) (name : String) : List String × List String :=
  if (snapshot.lookup name).isSome = true ∨ name ∈ st.1 then st
  else (if (nodes st.2.length).died then name :: st.1 else st.1, st.2 ++ [name])

/-- The hosts whose nodes the first loop looks up: the answer to the lookup at position `k` is
`nodes k`. -/
def nodeLookups (snapshot : GoMap String HostInterface) (nodes : Nat → NodeLookup)
    (entries : List CIDREntry) : List String :=
  ((hostNames entries).foldl (lookUp snapshot nodes) ([], [])).2

/-- Some lookup of the host answers that its node is gone or terminated. -/
def FoundDead (snapshot : GoMap String HostInterface) (nodes : Nat → NodeLookup)
    (entries : List CIDREntry) (name : String) : Prop :=
  ∃ k, (nodeLookups snapshot nodes entries)[k]? = some name ∧ (nodes k).died = true

section Lookups

variable (snapshot : GoMap String HostInterface) (nodes : Nat → NodeLookup)

/-- The scan of a host looks up what `lookUp` says. -/
theorem scanHost_lookUp (net : String) {st : ScanState} {asked : List String}
    (hasked : asked.length = st.lookups) (host : HostInterfaceInfo) :
    (scanHost snapshot nodes net st host).diedHost =
        (lookUp snapshot nodes (st.diedHost, asked) host.hostName).1 ∧
      (lookUp snapshot nodes (st.diedHost, asked) host.hostName).2.length =
        (scanHost snapshot nodes net st host).lookups := by
  cases hl : snapshot.lookup host.hostName with
  | some hif =>
    have hsame : lookUp snapshot nodes (st.diedHost, asked) host.hostName = (st.diedHost, asked) :=
      if_pos (Or.inl (by rw [hl]; rfl))
    rw [hsame]
    simp only [scanHost, hl]
    split
    · exact ⟨rfl, hasked⟩
    · exact ⟨rfl, hasked⟩
  | none =>
    by_cases hdied : host.hostName ∈ st.diedHost
    · have hsame : lookUp snapshot nodes (st.diedHost, asked) host.hostName =
          (st.diedHost, asked) := if_pos (Or.inr hdied)
      rw [hsame]
      simp only [scanHost, hl, if_pos hdied, true_and]
      exact hasked
    · have hnew : lookUp snapshot nodes (st.diedHost, asked) host.hostName =
          (if (nodes asked.length).died then host.hostName :: st.diedHost else st.diedHost,
            asked ++ [host.hostName]) := if_neg (by rw [hl]; simpa using hdied)
      have hlen : (asked ++ [host.hostName]).length = st.lookups + 1 := by
        rw [List.length_append, hasked, List.length_singleton]
      rw [hnew, hasked]
      simp only [scanHost, hl, if_neg hdied]
      split
      · exact ⟨rfl, hlen⟩
      · exact ⟨rfl, hlen⟩

theorem scanHosts_lookUp (net : String) (hosts : List HostInterfaceInfo) (st : ScanState)
    (asked : List String) (hasked : asked.length = st.lookups) :
    (hosts.foldl (scanHost snapshot nodes net) st).diedHost =
        ((hosts.map (·.hostName)).foldl (lookUp snapshot nodes) (st.diedHost, asked)).1 ∧
      ((hosts.map (·.hostName)).foldl (lookUp snapshot nodes) (st.diedHost, asked)).2.length =
        (hosts.foldl (scanHost snapshot nodes net) st).lookups := by
  induction hosts generalizing st asked with
  | nil => exact ⟨rfl, hasked⟩
  | cons host hosts ih =>
    obtain ⟨hdied, hlen⟩ := scanHost_lookUp snapshot nodes net hasked host
    obtain ⟨ihdied, ihlen⟩ := ih _ _ hlen
    rw [List.foldl_cons, List.map_cons, List.foldl_cons]
    rw [hdied] at ihdied ihlen
    exact ⟨ihdied, ihlen⟩

theorem filterEntries_lookUp (entries : List CIDREntry) (st : FilterState) (asked : List String)
    (hasked : asked.length = st.lookups) :
    (entries.foldl (filterEntry snapshot nodes) st).diedHost =
      ((hostNames entries).foldl (lookUp snapshot nodes) (st.diedHost, asked)).1 := by
  induction entries generalizing st asked with
  | nil => rfl
  | cons entry entries ih =>
    obtain ⟨hdied, hlen⟩ := scanHosts_lookUp snapshot nodes entry.netAddress entry.hosts
      ⟨[], st.diedHost, st.changed, st.lookups⟩ asked hasked
    rw [List.foldl_cons, hostNames, List.flatMap_cons, List.foldl_append]
    rw [ih (filterEntry snapshot nodes st entry) _ hlen, filterEntry, scanEntry, hdied]
    rfl

/-- What the lookups found, after any number of hosts. -/
theorem mem_lookUps (names : List String) (name : String) :
    name ∈ (names.foldl (lookUp snapshot nodes) ([], [])).1 ↔
      ∃ k, (names.foldl (lookUp snapshot nodes) ([], [])).2[k]? = some name ∧
        (nodes k).died = true := by
  refine foldl_invariant (P := fun st : List String × List String =>
    name ∈ st.1 ↔ ∃ k, st.2[k]? = some name ∧ (nodes k).died = true) ?_ (by simp)
  intro st name' _ hst
  unfold lookUp
  split
  · exact hst
  · cases hdied : (nodes st.2.length).died with
    | true =>
      rw [if_pos rfl, List.mem_cons, hst]
      constructor
      · rintro (rfl | ⟨k, hk, hk'⟩)
        · exact ⟨st.2.length, by simp, hdied⟩
        · refine ⟨k, ?_, hk'⟩
          rw [List.getElem?_append_left (List.getElem?_eq_some_iff.mp hk).1]
          exact hk
      · rintro ⟨k, hk, hk'⟩
        rw [List.getElem?_append] at hk
        split at hk
        · exact Or.inr ⟨k, hk, hk'⟩
        · exact Or.inl (List.mem_singleton.mp (List.mem_of_getElem? hk))
    | false =>
      rw [if_neg Bool.false_ne_true, hst]
      refine exists_congr fun k => and_congr_left fun hk' => ?_
      rw [List.getElem?_append]
      split
      · rfl
      · next hlt =>
        -- the new lookup did not find its host dead
        rw [List.getElem?_eq_none (by omega)]
        refine iff_of_false nofun fun hk => ?_
        have hlen := (List.getElem?_eq_some_iff.mp hk).1
        rw [List.length_singleton] at hlen
        have : k = st.2.length := by omega
        rw [this, hdied] at hk'
        cases hk'

/-- `diedHost` has the hosts found dead. -/
theorem mem_diedHost (changed : Bool) (entries : List CIDREntry) (name : String) :
    name ∈ (filterEntries snapshot nodes changed entries).diedHost ↔
      FoundDead snapshot nodes entries name := by
  rw [filterEntries, filterEntries_lookUp snapshot nodes entries _ [] rfl]
  exact mem_lookUps snapshot nodes (hostNames entries) name

end Lookups

/-! ## The living hosts of an entry -/

/-- Does a network with these names and indexes have a host not found dead after the turns of the
hosts `names`? Hosts that find no index leave it or do not come to it. -/
def staysLiving (fuel : Nat) (config : PluginConfig) (excludes : List String) (vlan : String)
    (died : List String) (occ : List (String × Int)) (names : List String) : Bool :=
  (names.foldl (fun occ name =>
    (seating fuel config excludes vlan occ name).apply View.names name occ) occ).any
    fun o => decide (o.1 ∉ died)

/-- `staysLiving` is right about the turns on the network. -/
theorem staysLiving_iff {fuel : Nat} {config : PluginConfig} {excludes died : List String}
    {ts : List (String × InterfaceInfoType)} {entry entry' : CIDREntry}
    (h : ts.foldlM (placeIn fuel config excludes) entry = some entry') :
    staysLiving fuel config excludes entry.vlanCIDR died (occupants entry.hosts)
        (ts.map (·.1)) = true ↔ ∃ host ∈ entry'.hosts, host.hostName ∉ died := by
  induction ts generalizing entry with
  | nil =>
    cases h
    show (occupants entry'.hosts).any (fun o => decide (o.1 ∉ died)) = true ↔ _
    rw [List.any_eq_true, occupants]
    simp
  | cons turn ts ih =>
    obtain ⟨entry₁, h₁, h₂⟩ := foldlM_cons_eq_some.mp h
    obtain ⟨hosts, effect, rfl, hturn⟩ := placeIn_eq_some.mp h₁
    have hoccupants : occupants hosts = (seating fuel config excludes entry.vlanCIDR
        (occupants entry.hosts) turn.1).apply View.names turn.1 (occupants entry.hosts) :=
      hturn.map_see (View.shows_names config)
    rw [← ih h₂, staysLiving, staysLiving, List.map_cons, List.foldl_cons, ← hoccupants]

/-! ## The whole pass -/

/-- The snapshot has no interface object of the host, neither under its name nor with its name. -/
def Unshown (snapshot : GoMap String HostInterface) (name : String) : Prop :=
  snapshot.lookup name = none ∧ ∀ hif ∈ snapshot.values, hif.hostName ≠ name

/-- A host found dead that the snapshot does not show is in no entry. -/
def DeadGone (snapshot : GoMap String HostInterface) (nodes : Nat → NodeLookup)
    (entries : List CIDREntry) (m : GoMap String CIDREntry) : Prop :=
  ∀ name, FoundDead snapshot nodes entries name → Unshown snapshot name →
    m.All fun _ entry => name ∉ entry.hosts.map (·.hostName)

/-- Every entry that still lists a dead host after the first loop has a living host when the turns
on its network are over. -/
def LivingLeft (fuel : Nat) (spec : CIDRSpec) (excludes : List IPValue) (changed : Bool)
    (snapshot : GoMap String HostInterface) (nodes : Nat → NodeLookup) : Prop :=
  (filterEntries snapshot nodes changed spec.cidrs).entriesMap.All fun net entry =>
    (∃ host ∈ entry.hosts, FoundDead snapshot nodes spec.cidrs host.hostName ∧
      Unshown snapshot host.hostName) →
    staysLiving fuel spec.config (excludes.map (·.address)) entry.vlanCIDR
      (filterEntries snapshot nodes changed spec.cidrs).diedHost (occupants entry.hosts)
      ((turnsOn spec.config snapshot.values net).map (·.1)) = true

/-- An entry lists a dead host after the last loop exactly when it has none but dead ones. -/
theorem mem_dropDied_iff {died : List String} {entry : CIDREntry} {name : String}
    (hname : name ∈ died) :
    name ∈ (dropDied died entry).hosts.map (·.hostName) ↔
      name ∈ entry.hosts.map (·.hostName) ∧ ¬ ∃ host ∈ entry.hosts, host.hostName ∉ died := by
  have hliving : (entry.hosts.filter (·.hostName ∉ died)).length = 0 ↔
      ¬ ∃ host ∈ entry.hosts, host.hostName ∉ died := by
    rw [List.length_eq_zero_iff, List.filter_eq_nil_iff]
    simp
  unfold dropDied
  dsimp only
  split
  · next hnone => exact ⟨fun h => ⟨h, hliving.mp hnone⟩, fun h => h.1⟩
  · next hsome =>
    refine iff_of_false ?_ fun h => hsome (hliving.mpr h.2)
    intro hmem
    obtain ⟨host, hhost, rfl⟩ := List.mem_map.mp hmem
    have hnot := (List.mem_filter.mp hhost).2
    exact absurd hname (of_decide_eq_true hnot)

section Pass

variable {fuel : Nat} {spec : CIDRSpec} {excludes : List IPValue} {changed changed' : Bool}
  {snapshot : GoMap String HostInterface} {nodes : Nat → NodeLookup} {m : GoMap String CIDREntry}

/-- The entries that list a dead host after the pass: those that listed it after the first loop
and have no living host after the turns. -/
theorem mem_updateEntries_dead
    (h : updateEntries fuel spec excludes changed snapshot nodes = some (m, changed'))
    {name : String} (hdead : FoundDead snapshot nodes spec.cidrs name)
    (hunshown : Unshown snapshot name) {net : String} :
    (∃ entry, m.lookup net = some entry ∧ name ∈ entry.hosts.map (·.hostName)) ↔
      ∃ entry entry',
        (filterEntries snapshot nodes changed spec.cidrs).entriesMap.lookup net = some entry ∧
        name ∈ entry.hosts.map (·.hostName) ∧
        (turnsOn spec.config snapshot.values net).foldlM
          (placeIn fuel spec.config (excludes.map (·.address))) entry = some entry' ∧
        ¬ ∃ host ∈ entry'.hosts,
          host.hostName ∉ (filterEntries snapshot nodes changed spec.cidrs).diedHost := by
  have hdied := (mem_diedHost snapshot nodes changed spec.cidrs name).mpr hdead
  obtain ⟨m₁, hloop, rfl⟩ := updateEntries_eq_some.mp h
  rw [if_pos (List.length_pos_of_mem hdied)]
  have hturns : ∀ turn ∈ turns snapshot.values, turn.1 ≠ name := by
    intro turn hturn heq
    obtain ⟨hif, hhif, hname, -⟩ := mem_turns.mp hturn
    exact hunshown.2 hif hhif (hname.trans heq)
  constructor
  · rintro ⟨entry, hl, hmem⟩
    rw [GoMap.lookup_mapValues, Option.map_eq_some_iff] at hl
    obtain ⟨entry₁, hl₁, rfl⟩ := hl
    obtain ⟨hmem₁, hnone⟩ := (mem_dropDied_iff hdied).mp hmem
    obtain ⟨host, hhost, rfl⟩ := List.mem_map.mp hmem₁
    rcases placeTurns_mem hloop hl₁ hhost with ⟨entry₀, hl₀, hhost₀⟩ | ⟨turn, hturn, heq⟩
    · obtain ⟨entry', hrun, hl'⟩ := placeTurns_lookup hloop hl₀
      rw [hl₁] at hl'
      cases hl'
      exact ⟨entry₀, entry₁, hl₀, List.mem_map_of_mem hhost₀, hrun, hnone⟩
    · exact absurd heq (hturns turn hturn)
  · rintro ⟨entry, entry', hl, hmem, hrun, hnone⟩
    obtain ⟨entry₁, hrun₁, hl₁⟩ := placeTurns_lookup hloop hl
    have heq : entry₁ = entry' := Option.some.inj (hrun₁.symm.trans hrun)
    rw [← heq] at hnone
    refine ⟨dropDied (filterEntries snapshot nodes changed spec.cidrs).diedHost entry₁, ?_, ?_⟩
    · rw [GoMap.lookup_mapValues, hl₁]
      rfl
    · refine (mem_dropDied_iff hdied).mpr ⟨?_, hnone⟩
      -- no turn is of the dead host, so its record is still there
      obtain ⟨host, hhost, rfl⟩ := List.mem_map.mp hmem
      refine List.mem_map_of_mem (foldlM_invariant (P := fun e : CIDREntry => host ∈ e.hosts) ?_
        hhost hrun₁)
      intro e e' turn hturn he hstep
      obtain ⟨hosts, effect, rfl, hturn'⟩ := placeIn_eq_some.mp hstep
      exact hturn'.mem_of_other he (hturns turn (List.mem_of_mem_filter hturn)).symm

/-- **Dead hosts are gone where a living one is left.** A host found dead during the pass that the
snapshot does not show is in no entry returned, exactly when every entry that still lists one after
the first loop has a living host when the turns on its network are over. -/
theorem died_hosts_gone
    (h : updateEntries fuel spec excludes changed snapshot nodes = some (m, changed')) :
    LivingLeft fuel spec excludes changed snapshot nodes ↔ DeadGone snapshot nodes spec.cidrs m := by
  constructor
  · intro hleft name hdead hunshown net entry hl hmem
    obtain ⟨entry₀, entry₁, hl₀, hmem₀, hrun, hnone⟩ :=
      (mem_updateEntries_dead h hdead hunshown).mp ⟨entry, hl, hmem⟩
    obtain ⟨host, hhost, rfl⟩ := List.mem_map.mp hmem₀
    exact hnone ((staysLiving_iff hrun).mp (hleft net entry₀ hl₀ ⟨host, hhost, hdead, hunshown⟩))
  · rintro hgone net entry₀ hl₀ ⟨host, hhost, hdead, hunshown⟩
    obtain ⟨m₁, hloop, -⟩ := updateEntries_eq_some.mp h
    obtain ⟨entry₁, hrun, -⟩ := placeTurns_lookup hloop hl₀
    refine (staysLiving_iff hrun).mpr ?_
    by_contra hnone
    obtain ⟨entry, hl, hmem⟩ := (mem_updateEntries_dead h hdead hunshown).mpr
      ⟨entry₀, entry₁, hl₀, List.mem_map_of_mem hhost, hrun, hnone⟩
    exact hgone host.hostName hdead hunshown net entry hl hmem

end Pass

/-- A definition over the host networks. -/
def hostNetworks : PluginConfig :=
  { name := "net", subnet := "", masterNetAddrs := [], hostBlock := 2, interfaceBlock := 0,
    excludeCIDRs := [], vlanMode := "" }

/-- Host `a` on two networks, with the other hosts of the first. -/
def twoNetworks (others : List HostInterfaceInfo) : CIDRSpec :=
  ⟨hostNetworks,
    [⟨"10.0.1.0/24", 0, "10.0.1.0/24",
      ⟨0, "a", "eth1", "10.0.1.1", "10.0.1.0/26", "net-10.0.1.0-26"⟩ :: others⟩,
    ⟨"10.0.2.0/24", 1, "10.0.2.0/24",
      [⟨0, "a", "eth2", "10.0.2.1", "10.0.2.0/26", "net-10.0.2.0-26"⟩]⟩]⟩

/-- The other host. -/
def hostB : HostInterfaceInfo :=
  ⟨1, "b", "eth1", "10.0.1.2", "10.0.1.64/26", "net-10.0.1.64-26"⟩

/-- The first lookups find their nodes, the later ones do not. -/
def goneAfter (k : Nat) : Nat → NodeLookup := fun i => if i < k then .found false else .notFound

/-- With another host on the first network, host `a` is taken out of it as well. -/
theorem died_hosts_gone_other : ∃ m changed,
    updateEntries 1 (twoNetworks [hostB]) [] false ∅ (goneAfter 2) = some (m, changed) ∧
    (m.lookup "10.0.1.0/24").isSome = true ∧
    ∀ entry, m.lookup "10.0.1.0/24" = some entry → "a" ∉ entry.hosts.map (·.hostName) := by
  have hrun : (updateEntries 1 (twoNetworks [hostB]) [] false ∅ (goneAfter 2)).map
      (fun r => (r.1.lookup "10.0.1.0/24").isSome) = some true := by decide +kernel
  obtain ⟨⟨m, changed⟩, hm, hsome⟩ := Option.map_eq_some_iff.mp hrun
  refine ⟨m, changed, hm, hsome, fun entry hl => ?_⟩
  refine (died_hosts_gone hm).mp ?_ "a" ⟨2, by decide +kernel, by decide⟩ ⟨rfl, nofun⟩ _ entry hl
  intro net entry₀ hl₀ _
  have hmem := AList.mem_lookup_iff.mp hl₀
  have hentries : (filterEntries ∅ (goneAfter 2) false
      (twoNetworks [hostB]).cidrs).entriesMap.entries =
      ((twoNetworks [hostB]).cidrs.take 1).map fun entry => ⟨entry.netAddress, entry⟩ := by
    decide +kernel
  rw [hentries] at hmem
  cases List.mem_singleton.mp hmem
  decide +kernel

/-- Host `a` alone on both networks: its node is found when the first entry is gone through, and
is gone when the second is. The pass returns the first entry with the dead host. -/
theorem dead_host_stays : ∃ m changed entry,
    updateEntries 1 (twoNetworks []) [] false ∅ (goneAfter 1) = some (m, changed) ∧
    FoundDead ∅ (goneAfter 1) (twoNetworks []).cidrs "a" ∧ Unshown ∅ "a" ∧
    m.lookup "10.0.1.0/24" = some entry ∧ "a" ∈ entry.hosts.map (·.hostName) ∧
    ¬ DeadGone ∅ (goneAfter 1) (twoNetworks []).cidrs m := by
  have hrun : (updateEntries 1 (twoNetworks []) [] false ∅ (goneAfter 1)).map (fun r =>
      (r.1.lookup "10.0.1.0/24").map fun entry => entry.hosts.map (·.hostName)) =
      some (some ["a"]) := by decide +kernel
  obtain ⟨⟨m, changed⟩, hm, hlookup⟩ := Option.map_eq_some_iff.mp hrun
  obtain ⟨entry, hl, hnames⟩ := Option.map_eq_some_iff.mp hlookup
  have hdead : FoundDead ∅ (goneAfter 1) (twoNetworks []).cidrs "a" :=
    ⟨1, by decide +kernel, by decide⟩
  have hunshown : Unshown ∅ "a" := ⟨rfl, nofun⟩
  have hmem : "a" ∈ entry.hosts.map (·.hostName) := by
    rw [hnames]
    exact List.mem_singleton_self _
  exact ⟨m, changed, entry, hm, hdead, hunshown, hl, hmem,
    fun hgone => hgone "a" hdead hunshown _ entry hl hmem⟩

end MultiNicCni.Controller
