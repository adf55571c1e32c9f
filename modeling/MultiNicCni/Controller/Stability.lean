import MultiNicCni.Controller.Layout

/-!
# A placed host keeps its place

While a host keeps an interface on a network, no pass renumbers it: not the interface index
and VLAN CIDR of the network's entry, and not the host index and pod CIDR of the host. This
needs no valid subnet and no distinct indexes, only that each record holds the pod CIDR of
its own index, so that the recheck of a pass finds nothing to change.

- `PlacedInv`: the invariant, with `Reachable.placedInv` along every run;
- `StandsIn`: the place of a host in the entries map; kept by the first loop
  (`standsIn_filter`, unless the host is found dead), by each placement (`StandsIn.place`) and by the
  removal of died hosts (`StandsIn.dropDied`);
- `placement_stable`: **the place survives every later sequence of passes**.
-/

namespace MultiNicCni.Controller

open Go Compute Lib

variable {entry e : CIDREntry} {cidrs : List CIDREntry} {fuel : Nat} {excludes : List String}
  {iface : InterfaceInfoType} {hosts : List HostInterfaceInfo} {effect : Effect} {changed : Bool}
  {config : PluginConfig} {m : GoMap String CIDREntry} {hostName net : String}
  {snapshot : GoMap String HostInterface} {nodes : Nat → NodeLookup}

/-! ## The invariant -/

/-- Each record holds the pod CIDR of its index, and a network address occurs once as soon as
any entry has hosts. -/
structure PlacedInv (config : PluginConfig) (cidrs : List CIDREntry) : Prop where
  pods : ∀ e ∈ cidrs, PodsAssigned config e.vlanCIDR e.hosts
  nets : (cidrs.map (·.netAddress)).Nodup ∨ ∀ e ∈ cidrs, e.hosts = []

/-- The same for the entries map of a pass. -/
def PlacedMap (config : PluginConfig) (m : GoMap String CIDREntry) : Prop :=
  m.All fun net e => e.netAddress = net ∧ PodsAssigned config e.vlanCIDR e.hosts

section Invariant

theorem PlacedMap.nodup_nets (h : PlacedMap config m) (hperm : cidrs.Perm m.values) :
    (cidrs.map (·.netAddress)).Nodup := by
  rw [(hperm.map _).nodup_iff]
  refine GoMap.Separates.nodup fun net net' e e' hl hl' heq => ?_
  rw [← (h net e hl).1, heq, (h net' e' hl').1]

theorem PlacedMap.placedInv (h : PlacedMap config m) (hperm : cidrs.Perm m.values) :
    PlacedInv config cidrs := by
  refine ⟨fun e he => ?_, Or.inl (h.nodup_nets hperm)⟩
  obtain ⟨net, hl⟩ := GoMap.mem_values.mp (hperm.mem_iff.mp he)
  exact (h net e hl).2

theorem PlacedMap.place (hblock : 1 ≤ config.hostBlock) (hex : excludes.Perm config.excludeCIDRs)
    (h : PlacedMap config m)
    (hget : getInterfaceEntry fuel config m iface.netAddress = some (some entry))
    (hplaced : Turn fuel config excludes hostName iface entry hosts effect) :
    PlacedMap config (m.insert iface.netAddress { entry with hosts }) := by
  have hentry : entry.netAddress = iface.netAddress ∧
      PodsAssigned config entry.vlanCIDR entry.hosts := by
    rcases getInterfaceEntry_cases hget with hl | ⟨-, hnet, hnil, -⟩
    · exact h _ _ hl
    · refine ⟨hnet, ?_⟩
      rw [hnil]
      exact fun host hhost => absurd hhost List.not_mem_nil
  have hpods := hentry.2.placed hplaced hblock hex
  exact h.insert ⟨hentry.1, hpods⟩

theorem PlacedMap.dropDied (h : PlacedMap config m) (died : List String) :
    PlacedMap config (m.mapValues (dropDied died)) := by
  refine h.mapValues fun net e he => ?_
  obtain ⟨kept, hsub, heq, -⟩ := dropDied_cases died e
  rw [heq]
  exact ⟨he.1, he.2.sublist hsub⟩

theorem PlacedInv.filter (h : PlacedInv config cidrs) (snapshot : GoMap String HostInterface)
    (nodes : Nat → NodeLookup) (changed : Bool) :
    PlacedMap config (filterEntries snapshot nodes changed cidrs).entriesMap := by
  intro net e' hl
  obtain ⟨e, he, hnet, kept, hsub, rfl⟩ :=
    (filterEntries_spec snapshot nodes changed cidrs).1 net e' hl
  exact ⟨hnet, (h.pods e he).sublist hsub⟩

/-- A pass, published or not, keeps the invariant. -/
theorem PlacedInv.updateEntries {changed' : Bool} (hblock : 1 ≤ config.hostBlock)
    (h : PlacedInv config cidrs)
    (hm : updateEntries fuel ⟨config, cidrs⟩ (sortAddress config.excludeCIDRs) changed snapshot
      nodes = some (m, changed')) : PlacedMap config m := by
  refine updateEntries_induction hm (h.filter snapshot nodes changed)
    (fun _ hmap => hmap.dropDied _) ?_
  intro m entry hosts effect turn _ _ hmap hget hplaced
  exact hmap.place hblock (sortAddress_perm _) hget hplaced

/-- `NewCIDR` starts the invariant, with a subnet or from the host subnets. -/
theorem PlacedInv.newCIDR {spec : CIDRSpec} (hblock : 1 ≤ config.hostBlock)
    (h : newCIDR fuel config snapshot = some (.ok spec)) (hperm : cidrs.Perm spec.cidrs) :
    PlacedInv config cidrs := by
  rcases newCIDR_cases h with ⟨-, ⟨-, h⟩ | ⟨-, hentries⟩⟩
  · have hgen : ∃ m, ∃ _ : Int, spec.cidrs = m.values ∧ PlacedMap config m := by
      refine generate_induction (P := fun m _ => PlacedMap config m) h (GoMap.All.empty _) ?_ ?_
      · intro m last net _ hm
        exact hm.insert ⟨rfl, fun host hhost => absurd hhost List.not_mem_nil⟩
      · intro m last net entry hostName iface podCIDR hostIndex hl hadd hm
        have hentry := hm net entry hl
        refine hm.insert ⟨hentry.1, fun host hhost => ?_⟩
        rcases List.mem_cons.mp ((withHost_perm ..).mem_iff.mp hhost) with rfl | hhost
        · exact (addNewHost_spec (powMinusOne_ne_zero hblock) hadd).1
        · exact hentry.2 host hhost
    obtain ⟨m, -, hcidrs, hinv⟩ := hgen
    rw [hcidrs] at hperm
    exact hinv.placedInv hperm
  · have hnil : ∀ e ∈ cidrs, e.hosts = [] := fun e he =>
      ((newEntries_spec hentries).2 e (hperm.mem_iff.mp he)).2.2
    refine ⟨fun e he => ?_, Or.inr hnil⟩
    rw [hnil e he]
    exact fun host hhost => absurd hhost List.not_mem_nil

theorem Reachable.placedInv (hblock : 1 ≤ config.hostBlock) (h : Reachable config cidrs) :
    PlacedInv config cidrs := by
  induction h with
  | init hnew hperm => exact PlacedInv.newCIDR hblock hnew hperm
  | update _ hupd ih =>
    obtain ⟨fuel, changed, nodes, m, hm, hperm⟩ := hupd
    exact (ih.updateEntries hblock hm).placedInv hperm

end Invariant

/-! ## The place of a host -/

/-- The host index and pod CIDR of the records of a host. -/
def placement (hostName : String) (hosts : List HostInterfaceInfo) : List (Int × String) :=
  (recordsOf hostName hosts).map fun r => (r.hostIndex, r.podCIDR)

/-- What `placement` takes from one record. -/
def placeOf (hostName : String) (r : HostInterfaceInfo) : Option (Int × String) :=
  if r.hostName = hostName then some (r.hostIndex, r.podCIDR) else none

theorem placement_eq_filterMap (hostName : String) (hosts : List HostInterfaceInfo) :
    placement hostName hosts = hosts.filterMap (placeOf hostName) := by
  induction hosts with
  | nil => rfl
  | cons r hosts ih =>
    by_cases hr : r.hostName = hostName
    · rw [List.filterMap_cons_some (by rw [placeOf, if_pos hr]), ← ih]
      simp [placement, recordsOf, hr]
    · rw [List.filterMap_cons_none (by rw [placeOf, if_neg hr]), ← ih]
      simp [placement, recordsOf, hr]

theorem placement_eq_nil_iff :
    placement hostName hosts = [] ↔ hostName ∉ hosts.map (·.hostName) := by
  rw [placement, List.map_eq_nil_iff, recordsOf, List.filter_eq_nil_iff]
  simp

/-- An entry in which `hostName` has the place `places`, under index `idx` and `vlan`. -/
structure Stands (hostName : String) (idx : Int) (vlan : String) (places : List (Int × String))
    (e : CIDREntry) : Prop where
  index_eq : e.interfaceIndex = idx
  vlan_eq : e.vlanCIDR = vlan
  places_perm : (placement hostName e.hosts).Perm places

/-- The entry of `net` in the map is one. -/
def StandsIn (net hostName : String) (idx : Int) (vlan : String) (places : List (Int × String))
    (m : GoMap String CIDREntry) : Prop :=
  ∃ e, m.lookup net = some e ∧ Stands hostName idx vlan places e

section Place

variable {vlan : String} {idx : Int} {places : List (Int × String)}

/-- A placement of some host leaves the place of a listed host. -/
theorem Turn.placement_perm {other : String} (hblock : 1 ≤ config.hostBlock)
    (hex : excludes.Perm config.excludeCIDRs)
    (hpods : PodsAssigned config entry.vlanCIDR entry.hosts)
    (hlisted : hostName ∈ entry.hosts.map (·.hostName))
    (h : Turn fuel config excludes other iface entry hosts effect) :
    (placement hostName hosts).Perm (placement hostName entry.hosts) := by
  rcases h.cases_of_podsAssigned hblock hex hpods with
    ⟨podCIDR, hostIndex, hnot, -, -, rfl⟩ | rfl | ⟨i, host, hhost, rfl⟩
  · -- the new record is one of another host
    have hne : other ≠ hostName := by
      rintro rfl
      exact hnot hlisted
    have hnone : placeOf hostName (newHost config other iface podCIDR hostIndex) = none :=
      if_neg hne
    have hperm := (withHost_perm config other iface podCIDR hostIndex entry.hosts).filterMap
      (placeOf hostName)
    rw [List.filterMap_cons_none hnone] at hperm
    rw [placement_eq_filterMap, placement_eq_filterMap]
    exact hperm
  · exact List.Perm.refl _
  · have hsame : (entry.hosts.set i (refreshHost config iface host.podCIDR host)).map
        (placeOf hostName) = entry.hosts.map (placeOf hostName) := map_set_of_eq hhost rfl
    have heq := congrArg (List.filterMap id) hsame
    rw [List.filterMap_map, List.filterMap_map] at heq
    rw [placement_eq_filterMap, placement_eq_filterMap]
    exact List.Perm.of_eq heq

/-- One turn of the second loop leaves the place of a listed host. -/
theorem StandsIn.place {other : String} (hblock : 1 ≤ config.hostBlock)
    (hex : excludes.Perm config.excludeCIDRs) (hne : places ≠ []) (hmap : PlacedMap config m)
    (h : StandsIn net hostName idx vlan places m)
    (hget : getInterfaceEntry fuel config m iface.netAddress = some (some entry))
    (hplaced : Turn fuel config excludes other iface entry hosts effect) :
    StandsIn net hostName idx vlan places (m.insert iface.netAddress { entry with hosts }) := by
  obtain ⟨e, hl, hstands⟩ := h
  by_cases hnet : net = iface.netAddress
  · subst hnet
    obtain rfl := getInterfaceEntry_eq hget hl
    refine ⟨_, AList.lookup_insert _, hstands.index_eq, hstands.vlan_eq, ?_⟩
    have hlisted : hostName ∈ entry.hosts.map (·.hostName) := by
      by_contra hnot
      have hperm := hstands.places_perm
      rw [placement_eq_nil_iff.mpr hnot] at hperm
      exact hne hperm.symm.eq_nil
    exact (hplaced.placement_perm hblock hex (hmap _ _ hl).2 hlisted).trans hstands.places_perm
  · exact ⟨e, by rw [AList.lookup_insert_ne hnet]; exact hl, hstands⟩

/-- A host that did not die stays when died hosts are removed. -/
theorem StandsIn.dropDied {died : List String} (halive : hostName ∉ died)
    (h : StandsIn net hostName idx vlan places m) :
    StandsIn net hostName idx vlan places (m.mapValues (dropDied died)) := by
  obtain ⟨e, hl, hstands⟩ := h
  obtain ⟨kept, -, heq, hrec⟩ := dropDied_cases died e
  refine ⟨Controller.dropDied died e, ?_, ?_⟩
  · rw [GoMap.lookup_mapValues, hl]
    rfl
  · rw [heq]
    refine ⟨hstands.index_eq, hstands.vlan_eq, ?_⟩
    show ((recordsOf hostName kept).map _).Perm places
    rw [hrec hostName halive]
    exact hstands.places_perm

end Place

/-! ## The first loop keeps the place -/

section Filter

/-- Entries of other networks do not touch the entry of `net`. -/
theorem filterEntry_lookup_other {entries : List CIDREntry} {st : FilterState}
    (hne : ∀ e ∈ entries, e.netAddress ≠ net) :
    (entries.foldl (filterEntry snapshot nodes) st).entriesMap.lookup net =
      st.entriesMap.lookup net := by
  refine foldl_invariant (P := fun st' : FilterState =>
    st'.entriesMap.lookup net = st.entriesMap.lookup net) (s := st) ?_ rfl
  intro st' e he hst'
  simp only [filterEntry]
  split
  · rw [AList.lookup_insert_ne (hne e he).symm]
    exact hst'
  · exact hst'

theorem scanHost_died_subset (net : String) (st : ScanState) (host : HostInterfaceInfo) :
    st.diedHost ⊆ (scanHost snapshot nodes net st host).diedHost := by
  rcases (scanHost_cases snapshot nodes net st host).2 with heq | ⟨-, heq⟩
  · rw [heq]
    exact List.Subset.refl _
  · rw [heq]
    exact List.subset_cons_self _ _

theorem scanHosts_died_subset (net : String) (hosts : List HostInterfaceInfo) (st : ScanState) :
    st.diedHost ⊆ (hosts.foldl (scanHost snapshot nodes net) st).diedHost := by
  induction hosts generalizing st with
  | nil => exact List.Subset.refl _
  | cons host hosts ih => exact List.Subset.trans (scanHost_died_subset net st host) (ih _)

theorem filterEntries_died_subset (entries : List CIDREntry) (st : FilterState) :
    st.diedHost ⊆ (entries.foldl (filterEntry snapshot nodes) st).diedHost := by
  induction entries generalizing st with
  | nil => exact List.Subset.refl _
  | cons entry entries ih =>
    have hscan : st.diedHost ⊆ (filterEntry snapshot nodes st entry).diedHost :=
      scanHosts_died_subset entry.netAddress entry.hosts
        ⟨[], st.diedHost, st.changed, st.lookups⟩
    exact List.Subset.trans hscan (ih _)

/-- The snapshot shows the host on the network, or does not show it at all. -/
def OnNetOrAbsent (snapshot : GoMap String HostInterface) (hostName net : String) : Prop :=
  OnNet snapshot hostName net ∨ snapshot.lookup hostName = none

/-- A host that is shown is not found dead. -/
theorem OnNet.not_died (h : OnNet snapshot hostName net) (changed : Bool) (cidrs : List CIDREntry) :
    hostName ∉ (filterEntries snapshot nodes changed cidrs).diedHost := by
  intro hdied
  obtain ⟨hif, hl, -⟩ := h
  rw [(filterEntries_spec snapshot nodes changed cidrs).2 _ hdied] at hl
  cases hl

/-- The record of such a host is kept unless the host is found dead. -/
theorem scanHost_spared {st : ScanState} {host : HostInterfaceInfo}
    (hshown : OnNetOrAbsent snapshot host.hostName net)
    (halive : host.hostName ∉ (scanHost snapshot nodes net st host).diedHost) :
    (scanHost snapshot nodes net st host).newHostList = st.newHostList ++ [host] := by
  rcases (scanHost_cases snapshot nodes net st host).1 with heq | ⟨-, hoff⟩
  · exact heq
  have habsent := hshown.resolve_left hoff
  have hbefore : host.hostName ∉ st.diedHost :=
    fun hdied => halive (scanHost_died_subset net st host hdied)
  simp only [scanHost, habsent, if_neg hbefore] at halive ⊢
  split at halive
  · exact absurd List.mem_cons_self halive
  · next hdied => rw [if_neg hdied]

theorem recordsOf_append (hostName : String) (hosts hosts' : List HostInterfaceInfo) :
    recordsOf hostName (hosts ++ hosts') = recordsOf hostName hosts ++ recordsOf hostName hosts' :=
  List.filter_append _ _

theorem scanHosts_spared (hshown : OnNetOrAbsent snapshot hostName net) {st : ScanState}
    (halive : hostName ∉ (hosts.foldl (scanHost snapshot nodes net) st).diedHost) :
    recordsOf hostName (hosts.foldl (scanHost snapshot nodes net) st).newHostList =
      recordsOf hostName st.newHostList ++ recordsOf hostName hosts := by
  induction hosts generalizing st with
  | nil => exact (List.append_nil _).symm
  | cons host hosts ih =>
    rw [List.foldl_cons] at halive ⊢
    rw [ih halive]
    by_cases hhost : host.hostName = hostName
    · subst hhost
      have hstep := scanHost_spared hshown fun hdied =>
        halive (scanHosts_died_subset net hosts _ hdied)
      rw [hstep, recordsOf_append, List.append_assoc, ← recordsOf_append]
      rfl
    · rw [recordsOf_cons_other hhost]
      congr 1
      rcases (scanHost_cases snapshot nodes net st host).1 with heq | ⟨heq, -⟩
      · rw [heq, recordsOf_append, recordsOf_cons_other hhost]
        exact List.append_nil _
      · rw [heq]

/-- The first loop keeps the entry of such a host, with all its records, if it is not found dead. -/
theorem standsIn_filter (hnets : (cidrs.map (·.netAddress)).Nodup) (he : e ∈ cidrs)
    (hlisted : hostName ∈ e.hosts.map (·.hostName))
    (hshown : OnNetOrAbsent snapshot hostName e.netAddress)
    (halive : hostName ∉ (filterEntries snapshot nodes changed cidrs).diedHost) :
    StandsIn e.netAddress hostName e.interfaceIndex e.vlanCIDR (placement hostName e.hosts)
      (filterEntries snapshot nodes changed cidrs).entriesMap := by
  obtain ⟨before, after, rfl⟩ := List.append_of_mem he
  have hafter : ∀ e' ∈ after, e'.netAddress ≠ e.netAddress := by
    rw [List.map_append, List.map_cons] at hnets
    have hnot := (List.nodup_cons.mp (List.nodup_append.mp hnets).2.1).1
    intro e' he' heq
    exact hnot (heq ▸ List.mem_map_of_mem he')
  rw [filterEntries, List.foldl_append, List.foldl_cons] at halive ⊢
  generalize before.foldl (filterEntry snapshot nodes) ⟨∅, [], changed, 0⟩ = st at halive ⊢
  have hscan : recordsOf hostName (scanEntry snapshot nodes st e).newHostList =
      recordsOf hostName e.hosts :=
    scanHosts_spared hshown fun hdied => halive (filterEntries_died_subset after _ hdied)
  -- the host itself is kept, so the entry has not lost all its hosts
  have hkept : e.hosts.length = 0 ∨ 0 < (scanEntry snapshot nodes st e).newHostList.length := by
    right
    refine List.length_pos_of_ne_nil fun hnil => placement_eq_nil_iff.mp ?_ hlisted
    rw [placement, ← hscan, hnil]
    rfl
  refine ⟨{ e with hosts := (scanEntry snapshot nodes st e).newHostList }, ?_, rfl, rfl, ?_⟩
  · rw [filterEntry_lookup_other hafter, filterEntry]
    dsimp only
    rw [if_pos hkept]
    exact AList.lookup_insert _
  · show ((recordsOf hostName (scanEntry snapshot nodes st e).newHostList).map _).Perm _
    rw [hscan]
    exact List.Perm.refl _

end Filter

/-! ## Whole runs -/

section Run

/-- One pass, published or not, keeps the place of a host that is on its network, or not shown and
not found dead. -/
theorem updateEntries_spared {changed' : Bool} (hblock : 1 ≤ config.hostBlock)
    (hinv : PlacedInv config cidrs) (he : e ∈ cidrs) (hlisted : hostName ∈ e.hosts.map (·.hostName))
    (hshown : OnNetOrAbsent snapshot hostName e.netAddress)
    (halive : hostName ∉ (filterEntries snapshot nodes changed cidrs).diedHost)
    (hm : updateEntries fuel ⟨config, cidrs⟩ (sortAddress config.excludeCIDRs) changed snapshot
      nodes = some (m, changed')) :
    StandsIn e.netAddress hostName e.interfaceIndex e.vlanCIDR (placement hostName e.hosts) m := by
  have hnets : (cidrs.map (·.netAddress)).Nodup := by
    refine hinv.nets.resolve_right fun hnil => ?_
    rw [hnil e he] at hlisted
    exact absurd hlisted List.not_mem_nil
  have hne : placement hostName e.hosts ≠ [] := fun hnil => placement_eq_nil_iff.mp hnil hlisted
  refine (updateEntries_induction (P := fun m => PlacedMap config m ∧ StandsIn e.netAddress
      hostName e.interfaceIndex e.vlanCIDR (placement hostName e.hosts) m) hm
    ⟨hinv.filter snapshot nodes changed, standsIn_filter hnets he hlisted hshown halive⟩
    (fun _ h => ⟨h.1.dropDied _, h.2.dropDied halive⟩) ?_).2
  rintro m entry hosts effect turn _ _ ⟨hmap, hst⟩ hget hplaced
  exact ⟨hmap.place hblock (sortAddress_perm _) hget hplaced,
    hst.place hblock (sortAddress_perm _) hne hmap hget hplaced⟩

/-- A published pass on a snapshot that shows the host on the network. -/
def UpdatesWith (config : PluginConfig) (hostName net : String)
    (cidrs cidrs' : List CIDREntry) : Prop :=
  ∃ snapshot, OnNet snapshot hostName net ∧ Updates config snapshot cidrs cidrs'

/-- Any number of published passes leave the host its place in the entries. -/
theorem run_stands {cidrs' : List CIDREntry} (hblock : 1 ≤ config.hostBlock)
    (hreach : Reachable config cidrs) (he : e ∈ cidrs)
    (hlisted : hostName ∈ e.hosts.map (·.hostName))
    (hrun : Relation.ReflTransGen (UpdatesWith config hostName e.netAddress) cidrs cidrs') :
    Reachable config cidrs' ∧ ∃ e' ∈ cidrs', e'.netAddress = e.netAddress ∧
      hostName ∈ e'.hosts.map (·.hostName) ∧
      Stands hostName e.interfaceIndex e.vlanCIDR (placement hostName e.hosts) e' := by
  induction hrun with
  | refl => exact ⟨hreach, e, he, rfl, hlisted, rfl, rfl, List.Perm.refl _⟩
  | tail _ hstep ih =>
    obtain ⟨hreach', e', he', hnet, hlisted', hidx, hvlan, hperm⟩ := ih
    obtain ⟨snapshot, hon, hupd⟩ := hstep
    refine ⟨.update hreach' hupd, ?_⟩
    obtain ⟨fuel, changed, nodes, m, hm, hvalues⟩ := hupd
    rw [← hnet] at hon
    have hinv := hreach'.placedInv hblock
    obtain ⟨e'', hl, hidx', hvlan', hperm'⟩ :=
      updateEntries_spared hblock hinv he' hlisted' (Or.inl hon) (hon.not_died changed _) hm
    refine ⟨e'', hvalues.mem_iff.mpr (GoMap.mem_values.mpr ⟨_, hl⟩), ?_, ?_, hidx'.trans hidx,
      hvlan'.trans hvlan, hperm'.trans hperm⟩
    · exact ((hinv.updateEntries hblock hm) _ _ hl).1.trans hnet
    · by_contra hnot
      have hall := hperm'.trans hperm
      rw [placement_eq_nil_iff.mpr hnot] at hall
      exact placement_eq_nil_iff.mp hall.symm.eq_nil hlisted

/-- **A placed host is never renumbered.** Once host `hostName` is listed in the entry of a
network, then after any number of published passes whose snapshots show it on that network,
every further pass returns for the network an entry with the same interface index and VLAN
CIDR, in which the host has the same host index and pod CIDR. -/
theorem placement_stable {cidrs cidrs' : List CIDREntry} {e : CIDREntry}
    (hblock : 1 ≤ config.hostBlock) (hreach : Reachable config cidrs) (he : e ∈ cidrs)
    (hlisted : hostName ∈ e.hosts.map (·.hostName))
    (hrun : Relation.ReflTransGen (UpdatesWith config hostName e.netAddress) cidrs cidrs')
    {fuel : Nat} {changed changed' : Bool} {snapshot : GoMap String HostInterface}
    {nodes : Nat → NodeLookup} {m : GoMap String CIDREntry}
    (hon : OnNet snapshot hostName e.netAddress)
    (hm : updateEntries fuel ⟨config, cidrs'⟩ (sortAddress config.excludeCIDRs) changed snapshot
      nodes = some (m, changed')) :
    ∃ e', m.lookup e.netAddress = some e' ∧ e'.interfaceIndex = e.interfaceIndex ∧
      e'.vlanCIDR = e.vlanCIDR ∧
      (placement hostName e'.hosts).Perm (placement hostName e.hosts) := by
  obtain ⟨hreach', e', he', hnet, hlisted', hidx, hvlan, hperm⟩ :=
    run_stands hblock hreach he hlisted hrun
  rw [← hnet] at hon ⊢
  obtain ⟨e'', hl, hidx', hvlan', hperm'⟩ :=
    updateEntries_spared hblock (hreach'.placedInv hblock) he' hlisted' (Or.inl hon)
      (hon.not_died changed _) hm
  exact ⟨e'', hl, hidx'.trans hidx, hvlan'.trans hvlan, hperm'.trans hperm⟩

end Run

/-- A second host joins: the first keeps its block. -/
theorem placement_stable_oneHost : ∃ m changed e',
    updateEntries 4 ⟨oneNetwork, oneHost⟩ (sortAddress oneNetwork.excludeCIDRs) false
      ((AList.singleton "a" ⟨"a", [⟨"eth1", "10.0.1.0/24", "10.0.1.1"⟩]⟩).insert "b"
        ⟨"b", [⟨"eth1", "10.0.1.0/24", "10.0.1.2"⟩]⟩) (fun _ => .failed) = some (m, changed) ∧
    m.lookup "10.0.1.0/24" = some e' ∧ e'.interfaceIndex = 0 ∧ e'.vlanCIDR = "192.168.0.0/18" ∧
    (placement "a" e'.hosts).Perm [(1, "192.168.0.64/26")] := by
  obtain ⟨⟨m, changed⟩, hm⟩ := Option.isSome_iff_exists.mp
    (show (updateEntries 4 ⟨oneNetwork, oneHost⟩ (sortAddress oneNetwork.excludeCIDRs) false
      ((AList.singleton "a" ⟨"a", [⟨"eth1", "10.0.1.0/24", "10.0.1.1"⟩]⟩).insert "b"
        ⟨"b", [⟨"eth1", "10.0.1.0/24", "10.0.1.2"⟩]⟩) (fun _ => .failed)).isSome = true by
      decide +kernel)
  have hon : OnNet ((AList.singleton "a" ⟨"a", [⟨"eth1", "10.0.1.0/24", "10.0.1.1"⟩]⟩).insert "b"
      ⟨"b", [⟨"eth1", "10.0.1.0/24", "10.0.1.2"⟩]⟩) "a" "10.0.1.0/24" :=
    ⟨_, rfl, _, List.mem_singleton_self _, rfl⟩
  obtain ⟨e', hl, hidx, hvlan, hperm⟩ := placement_stable (by decide) reachable_oneHost
    (List.mem_singleton_self _) (by decide) .refl hon hm
  exact ⟨m, changed, e', hm, hl, hidx, hvlan, hperm⟩

end MultiNicCni.Controller
