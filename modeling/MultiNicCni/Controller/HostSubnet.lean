import MultiNicCni.Controller.Stability

/-!
# Interface indexes of a definition without a subnet

Without a subnet the entries are the host subnets themselves, and a network that appears
gets as its interface index the number of entries there are. That number is free as long as
the entries are numbered without a gap; an entry that is dropped leaves one, and then the
next network can get the index of an entry that is still there (`hostSubnet_indexes_collide`).

- `IndexRoom`: no entry that stays has an index the networks to come will get;
- `distinct_update`: under it a pass keeps the indexes distinct;
- `getHostInterfaceIndexMap_record`: with distinct indexes the map from host and index to
  the record of the host keeps one record for every network of the host;
- `hostSubnet_indexes_distinct`: **in every run whose passes have `IndexRoom`, the indexes
  are distinct and no record of the map is overwritten**.
-/

namespace MultiNicCni.Controller

open Go Compute Lib

variable {config : PluginConfig} {snapshot : GoMap String HostInterface}
  {kept : GoMap String CIDREntry} {fuel : Nat} {cidrs : List CIDREntry}

/-! ## The networks a pass adds -/

/-- The network addresses of the snapshot that the definition selects. -/
def selectedNets (config : PluginConfig) (snapshot : GoMap String HostInterface) : List String :=
  ((snapshot.values.flatMap (·.interfaces)).map (·.netAddress)).filter fun net =>
    config.masterNetAddrs = [] ∨ net ∈ config.masterNetAddrs

/-- Those that have no entry yet. -/
def newNets (config : PluginConfig) (snapshot : GoMap String HostInterface)
    (kept : GoMap String CIDREntry) : List String :=
  (selectedNets config snapshot).dedup.filter (· ∉ kept.keys)

/-- With `k` entries left by the host filter and `n` networks to add, no entry that is left
has an interface index from `k` on and below `k + n`. -/
def IndexRoom (config : PluginConfig) (snapshot : GoMap String HostInterface)
    (kept : GoMap String CIDREntry) : Prop :=
  ∀ net e, kept.lookup net = some e → e.interfaceIndex < kept.entries.length ∨
    ((kept.entries.length + (newNets config snapshot kept).length : Nat) : Int) ≤ e.interfaceIndex

theorem indexRoom_iff :
    IndexRoom config snapshot kept ↔ ∀ e ∈ kept.values,
      e.interfaceIndex < kept.entries.length ∨
        ((kept.entries.length + (newNets config snapshot kept).length : Nat) : Int) ≤
          e.interfaceIndex := by
  constructor
  · intro h e he
    obtain ⟨net, hl⟩ := GoMap.mem_values.mp he
    exact h net e hl
  · intro h net e hl
    exact h e (GoMap.mem_values.mpr ⟨net, hl⟩)

instance (config : PluginConfig) (snapshot : GoMap String HostInterface)
    (kept : GoMap String CIDREntry) : Decidable (IndexRoom config snapshot kept) :=
  decidable_of_iff _ indexRoom_iff.symm

/-! ## One pass -/

/-- Where an entry of the map of a pass has its index from: an entry the filter left, or a
number given since. -/
def Origin (kept : GoMap String CIDREntry) (size : Nat) (net : String) (idx : Int) : Prop :=
  (∃ e₀, kept.lookup net = some e₀ ∧ idx = e₀.interfaceIndex) ∨
    ((kept.entries.length : Int) ≤ idx ∧ idx < (size : Int))

/-- The invariant of a pass that started from the entries `kept`. -/
structure IndexInv (config : PluginConfig) (snapshot : GoMap String HostInterface)
    (kept m : GoMap String CIDREntry) : Prop where
  grows : kept.entries.length ≤ m.entries.length
  keys : ∀ net ∈ m.keys, net ∈ kept.keys ∨ net ∈ selectedNets config snapshot
  origin : m.All fun net e => Origin kept m.entries.length net e.interfaceIndex
  separates : m.Separates CIDREntry.interfaceIndex

section Pass

variable {m : GoMap String CIDREntry}

/-- While a selected network has no entry, the map is not at its final size. -/
theorem IndexInv.length_lt (h : IndexInv config snapshot kept m) {net : String}
    (hsel : net ∈ selectedNets config snapshot) (hnone : m.lookup net = none) :
    m.entries.length < kept.entries.length + (newNets config snapshot kept).length := by
  have hnodup : (net :: m.keys).Nodup :=
    List.nodup_cons.mpr ⟨AList.lookup_eq_none.mp hnone, m.keys_nodup⟩
  have hsub : net :: m.keys ⊆ kept.keys ++ newNets config snapshot kept := by
    have hin : ∀ net, net ∈ kept.keys ∨ net ∈ selectedNets config snapshot →
        net ∈ kept.keys ++ newNets config snapshot kept := by
      intro net hnet
      by_cases hkept : net ∈ kept.keys
      · exact List.mem_append_left _ hkept
      · refine List.mem_append_right _ (List.mem_filter.mpr ⟨?_, by simpa using hkept⟩)
        exact List.mem_dedup.mpr (hnet.resolve_left hkept)
    intro net' hnet'
    rcases List.mem_cons.mp hnet' with rfl | hnet'
    · exact hin _ (Or.inr hsel)
    · exact hin _ (h.keys _ hnet')
  have hle := (List.subperm_of_subset hnodup hsub).length_le
  rw [List.length_cons, List.length_append] at hle
  simp only [AList.keys, List.keys, List.length_map] at hle
  omega

/-- One turn of the second loop. -/
theorem IndexInv.place {net : String} {entry : CIDREntry} (hosts : List HostInterfaceInfo)
    (hsubnet : config.subnet = "") (hroom : IndexRoom config snapshot kept)
    (hsel : net ∈ selectedNets config snapshot) (h : IndexInv config snapshot kept m)
    (hget : getInterfaceEntry fuel config m net = some (some entry)) :
    IndexInv config snapshot kept (m.insert net { entry with hosts }) := by
  have hkeys : ∀ net' ∈ (m.insert net { entry with hosts }).keys,
      net' ∈ kept.keys ∨ net' ∈ selectedNets config snapshot := by
    intro net' hnet'
    rw [AList.keys_insert] at hnet'
    rcases List.mem_cons.mp hnet' with rfl | hnet'
    · exact Or.inr hsel
    · exact h.keys net' (List.mem_of_mem_erase hnet')
  rcases getInterfaceEntry_cases hget with hl | ⟨hl, -, -, ⟨-, hidx⟩ | ⟨hne, -⟩⟩
  · have hlen := GoMap.length_insert_old { entry with hosts } hl
    have horigin := h.origin _ _ hl
    refine ⟨by rw [hlen]; exact h.grows, hkeys, ?_, ?_⟩
    · rw [hlen]
      exact h.origin.insert horigin
    · exact h.separates.insert fun net' e' hne hl' heq => hne (h.separates _ _ _ _ hl' hl heq)
  · -- the new entry gets the size of the map as its index
    have hlen := GoMap.length_insert_new { entry with hosts } hl
    have hlt := h.length_lt hsel hl
    have hgrows := h.grows
    refine ⟨by rw [hlen]; exact Nat.le_succ_of_le h.grows, hkeys, ?_, ?_⟩
    · rw [hlen]
      refine GoMap.All.insert (fun net' e' hl' => ?_) (Or.inr ?_)
      · exact (h.origin net' e' hl').imp id fun ⟨hge, hlt⟩ => ⟨hge, by push_cast; omega⟩
      · dsimp only
        rw [hidx]
        push_cast
        omega
    · -- it is below every entry left with a high index, and above all others
      refine h.separates.insert fun net' e' _ hl' heq => ?_
      have heq' : e'.interfaceIndex = m.entries.length := heq.trans hidx
      rcases h.origin net' e' hl' with ⟨e₀, hl₀, heq₀⟩ | ⟨-, hlt'⟩
      · rcases hroom net' e₀ hl₀ with hlow | hhigh <;> omega
      · omega
  · exact absurd hsubnet hne

theorem IndexInv.dropDied (h : IndexInv config snapshot kept m) (died : List String) :
    IndexInv config snapshot kept (m.mapValues (dropDied died)) := by
  have hidx : ∀ e, (Controller.dropDied died e).interfaceIndex = e.interfaceIndex := by
    intro e
    obtain ⟨hosts, -, heq, -⟩ := dropDied_cases died e
    rw [heq]
  have hlen := GoMap.length_mapValues (Controller.dropDied died) m
  have hkeys := GoMap.keys_mapValues (Controller.dropDied died) m
  refine ⟨by rw [hlen]; exact h.grows, by rw [hkeys]; exact h.keys, ?_,
    h.separates.mapValues hidx⟩
  rw [hlen]
  refine h.origin.mapValues fun net e he => ?_
  rw [hidx]
  exact he

/-- A pass with `IndexRoom` keeps the indexes distinct. -/
theorem distinct_update {excludes : List IPValue} {changed changed' : Bool}
    {nodes : Nat → NodeLookup} (hsubnet : config.subnet = "")
    (hdistinct : (cidrs.map (·.interfaceIndex)).Nodup)
    (hroom : IndexRoom config snapshot (filterEntries snapshot nodes changed cidrs).entriesMap)
    (hm : updateEntries fuel ⟨config, cidrs⟩ excludes changed snapshot nodes = some (m, changed')) :
    (m.values.map (·.interfaceIndex)).Nodup := by
  set kept := (filterEntries snapshot nodes changed cidrs).entriesMap with hkept
  have hfilter : IndexInv config snapshot kept kept := by
    refine ⟨le_rfl, fun net hnet => Or.inl hnet, fun net e hl => Or.inl ⟨e, hl, rfl⟩, ?_⟩
    intro net net' e₁ e₂ h₁ h₂ hidx
    obtain ⟨hspec, -⟩ := filterEntries_spec snapshot nodes changed cidrs
    obtain ⟨e, he, rfl, hosts, -, rfl⟩ := hspec net e₁ h₁
    obtain ⟨e', he', rfl, hosts', -, rfl⟩ := hspec net' e₂ h₂
    rw [List.inj_on_of_nodup_map hdistinct he he' hidx]
  refine (updateEntries_induction (P := IndexInv config snapshot kept) hm hfilter
    (fun _ hinv => hinv.dropDied _) ?_).separates.nodup
  intro m entry hosts effect turn hturn hselected hinv hget hplaced
  obtain ⟨hif, hhif, -, hiface⟩ := mem_turns.mp hturn
  refine hinv.place hosts hsubnet hroom ?_ hget
  refine List.mem_filter.mpr ⟨List.mem_map.mpr ⟨turn.2, ?_, rfl⟩, decide_eq_true hselected⟩
  exact List.mem_flatMap.mpr ⟨hif, hhif, hiface⟩

end Pass

/-- `GenerateCIDRFromHostSubnet` numbers the networks it meets. -/
theorem distinct_generate {spec : CIDRSpec}
    (h : generateCIDRFromHostSubnet fuel config snapshot = some (.ok spec)) :
    (spec.cidrs.map (·.interfaceIndex)).Nodup := by
  have hgen : ∃ m : GoMap String CIDREntry, ∃ last : Int, spec.cidrs = m.values ∧
      m.Separates CIDREntry.interfaceIndex ∧ m.All fun _ e => e.interfaceIndex < last := by
    refine generate_induction (P := fun m last => m.Separates CIDREntry.interfaceIndex ∧
      m.All fun _ e => e.interfaceIndex < last) h ⟨.empty _, .empty _⟩ ?_ ?_
    · rintro m last net hnone ⟨hsep, hall⟩
      refine ⟨hsep.insert fun net' e' _ hl heq => ?_, ?_⟩
      · exact ne_of_lt (hall net' e' hl) heq
      · refine GoMap.All.insert (fun net' e' hl => ?_) (lt_add_one last)
        exact lt_trans (hall net' e' hl) (lt_add_one last)
    · rintro m last net entry hostName iface podCIDR hostIndex hl - ⟨hsep, hall⟩
      refine ⟨hsep.insert fun net' e' hne hl' heq => ?_, hall.insert (hall net entry hl)⟩
      exact hne (hsep _ _ _ _ hl' hl heq)
  obtain ⟨m, last, hcidrs, hsep, -⟩ := hgen
  rw [hcidrs]
  exact hsep.nodup

/-! ## The map from host and index to the record -/

section IndexMap

/-- The record of a host under an index. -/
def recordAt (m : GoMap String (GoMap Int HostInterfaceInfo)) (hostName : String) (idx : Int) :
    Option HostInterfaceInfo :=
  (m.lookup hostName).bind fun byIndex => byIndex.lookup idx

theorem recordAt_indexHost (m : GoMap String (GoMap Int HostInterfaceInfo)) (i idx : Int)
    (host : HostInterfaceInfo) (hostName : String) :
    recordAt (indexHost i m host) hostName idx =
      if hostName = host.hostName ∧ idx = i then some host else recordAt m hostName idx := by
  unfold recordAt indexHost
  by_cases hname : hostName = host.hostName
  · subst hname
    rw [AList.lookup_insert, Option.bind_some]
    by_cases hidx : idx = i
    · subst hidx
      rw [AList.lookup_insert, if_pos ⟨rfl, rfl⟩]
    · rw [AList.lookup_insert_ne hidx, if_neg (fun h => hidx h.2)]
      cases m.lookup host.hostName with
      | none => rfl
      | some byIndex => rfl
  · rw [AList.lookup_insert_ne hname, if_neg (fun h => hname h.1)]

/-- Another index is not touched. -/
theorem recordAt_hosts_other {i idx : Int} (hne : idx ≠ i) (hostName : String)
    (hosts : List HostInterfaceInfo) (m : GoMap String (GoMap Int HostInterfaceInfo)) :
    recordAt (hosts.foldl (indexHost i) m) hostName idx = recordAt m hostName idx := by
  refine foldl_invariant (P := fun m' => recordAt m' hostName idx = recordAt m hostName idx)
    (s := m) ?_ rfl
  intro m' host _ hm'
  rw [recordAt_indexHost, if_neg (fun h => hne h.2)]
  exact hm'

/-- The records of a host among those of an entry. -/
def ownRecords (hostName : String) (hosts : List HostInterfaceInfo) : List HostInterfaceInfo :=
  hosts.filter fun host => host.hostName = hostName

theorem mem_ownRecords {hostName : String} {hosts : List HostInterfaceInfo}
    {r : HostInterfaceInfo} : r ∈ ownRecords hostName hosts ↔ r ∈ hosts ∧ r.hostName = hostName := by
  rw [ownRecords, List.mem_filter, decide_eq_true_eq]

/-- The loop over the hosts of an entry leaves the last record of each. -/
theorem recordAt_foldl_indexHost (i : Int) (hostName : String) (hosts : List HostInterfaceInfo)
    (m : GoMap String (GoMap Int HostInterfaceInfo)) :
    recordAt (hosts.foldl (indexHost i) m) hostName i =
      (ownRecords hostName hosts).getLast?.or (recordAt m hostName i) := by
  induction hosts using List.reverseRecOn with
  | nil => rfl
  | append_singleton hosts host ih =>
    rw [List.foldl_append, List.foldl_cons, List.foldl_nil, recordAt_indexHost, ih, ownRecords,
      ownRecords, List.filter_append]
    by_cases hname : host.hostName = hostName
    · rw [if_pos ⟨hname.symm, rfl⟩, List.filter_cons_of_pos (by simpa using hname)]
      simp
    · rw [if_neg (fun h => hname h.1.symm), List.filter_cons_of_neg (by simpa using hname)]
      simp

/-- Entries with other indexes leave the record under an index as it is. -/
theorem recordAt_entries_other {idx : Int} (hostName : String) {entries : List CIDREntry}
    (hne : ∀ e ∈ entries, idx ≠ e.interfaceIndex) (m : GoMap String (GoMap Int HostInterfaceInfo)) :
    recordAt (entries.foldl (fun m entry => entry.hosts.foldl (indexHost entry.interfaceIndex) m) m)
      hostName idx = recordAt m hostName idx := by
  refine foldl_invariant (P := fun m' => recordAt m' hostName idx = recordAt m hostName idx)
    (s := m) ?_ rfl
  intro m' e he hm'
  rw [recordAt_hosts_other (hne e he)]
  exact hm'

/-- With distinct indexes, the record under the index of an entry is that of the entry. -/
theorem recordAt_getHostInterfaceIndexMap (hdistinct : (cidrs.map (·.interfaceIndex)).Nodup)
    {e : CIDREntry} (he : e ∈ cidrs) (hostName : String) :
    recordAt (getHostInterfaceIndexMap cidrs) hostName e.interfaceIndex =
      (ownRecords hostName e.hosts).getLast? := by
  obtain ⟨before, after, rfl⟩ := List.append_of_mem he
  rw [List.map_append, List.map_cons, List.nodup_middle, List.nodup_cons] at hdistinct
  have hother : ∀ e' ∈ before ++ after, e.interfaceIndex ≠ e'.interfaceIndex := by
    intro e' he' heq
    refine hdistinct.1 ?_
    rw [← List.map_append, heq]
    exact List.mem_map_of_mem he'
  rw [getHostInterfaceIndexMap, List.foldl_append, List.foldl_cons,
    recordAt_entries_other hostName fun e' he' => hother e' (List.mem_append_right before he'),
    recordAt_foldl_indexHost,
    recordAt_entries_other hostName fun e' he' => hother e' (List.mem_append_left after he')]
  exact Option.or_none

/-- With distinct indexes, every network of a host has a record of the host in the map. -/
theorem getHostInterfaceIndexMap_record (hdistinct : (cidrs.map (·.interfaceIndex)).Nodup)
    {e : CIDREntry} (he : e ∈ cidrs) {hostName : String}
    (hlisted : hostName ∈ e.hosts.map (·.hostName)) :
    ∃ r ∈ e.hosts, r.hostName = hostName ∧
      recordAt (getHostInterfaceIndexMap cidrs) hostName e.interfaceIndex = some r := by
  obtain ⟨host, hhost, hname⟩ := List.mem_map.mp hlisted
  have hown : ownRecords hostName e.hosts ≠ [] :=
    List.ne_nil_of_mem (mem_ownRecords.mpr ⟨hhost, hname⟩)
  obtain ⟨hr, hrname⟩ := mem_ownRecords.mp (List.getLast_mem hown)
  refine ⟨_, hr, hrname, ?_⟩
  rw [recordAt_getHostInterfaceIndexMap hdistinct he]
  exact List.getLast?_eq_some_getLast hown

end IndexMap

/-! ## Whole runs -/

/-- The entries reachable from the host subnets by published passes that have `IndexRoom`. -/
inductive RoomyReachable (config : PluginConfig) : List CIDREntry → Prop
  | init {fuel snapshot spec cidrs} :
      generateCIDRFromHostSubnet fuel config snapshot = some (.ok spec) →
      cidrs.Perm spec.cidrs → RoomyReachable config cidrs
  | update {fuel changed snapshot nodes m cidrs cidrs'} : RoomyReachable config cidrs →
      IndexRoom config snapshot (filterEntries snapshot nodes changed cidrs).entriesMap →
      updateEntries fuel ⟨config, cidrs⟩ (sortAddress config.excludeCIDRs) changed snapshot nodes =
        some (m, true) → cidrs'.Perm m.values → RoomyReachable config cidrs'

/-- **Distinct interface indexes while there is room**: in every run whose passes never add
networks under an index still in use, the indexes are distinct, so the map from host and
index to the record keeps a record for every network a host is listed in. -/
theorem hostSubnet_indexes_distinct {config : PluginConfig} (hsubnet : config.subnet = "")
    {cidrs : List CIDREntry} (h : RoomyReachable config cidrs) :
    (cidrs.map (·.interfaceIndex)).Nodup ∧
      ∀ e ∈ cidrs, ∀ hostName ∈ e.hosts.map (·.hostName), ∃ r ∈ e.hosts,
        r.hostName = hostName ∧
        recordAt (getHostInterfaceIndexMap cidrs) hostName e.interfaceIndex = some r := by
  have hdistinct : (cidrs.map (·.interfaceIndex)).Nodup := by
    induction h with
    | init hgen hperm =>
      rw [(hperm.map _).nodup_iff]
      exact distinct_generate hgen
    | update _ hroom hm hperm ih =>
      rw [(hperm.map _).nodup_iff]
      exact distinct_update hsubnet ih hroom hm
  exact ⟨hdistinct, fun e he hostName hlisted => getHostInterfaceIndexMap_record hdistinct he hlisted⟩

/-! ## A run with room, and a collision -/

/-- A definition without a subnet. -/
def hostSubnets : PluginConfig :=
  { name := "net", subnet := "", masterNetAddrs := [], hostBlock := 4, interfaceBlock := 0,
    excludeCIDRs := [], vlanMode := "l3" }

/-- The entries of networks `10.0.1.0/24` and `10.0.2.0/24`, which host `a` is on. -/
def twoSubnets : List CIDREntry :=
  [⟨"10.0.2.0/24", 1, "10.0.2.0/24",
      [⟨0, "a", "eth2", "10.0.2.1", "10.0.2.0/28", "net-10.0.2.0-28"⟩]⟩,
    ⟨"10.0.1.0/24", 0, "10.0.1.0/24",
      [⟨0, "a", "eth1", "10.0.1.1", "10.0.1.0/28", "net-10.0.1.0-28"⟩]⟩]

theorem generate_twoSubnets : generateCIDRFromHostSubnet 2 hostSubnets (AList.singleton "a"
    ⟨"a", [⟨"eth1", "10.0.1.0/24", "10.0.1.1"⟩, ⟨"eth2", "10.0.2.0/24", "10.0.2.1"⟩]⟩) =
      some (.ok ⟨hostSubnets, twoSubnets⟩) := by
  rfl

/-- The host joins a third network and leaves none: there is room for the new index. -/
theorem hostSubnet_indexes_distinct_third : ∃ cidrs, RoomyReachable hostSubnets cidrs ∧
    cidrs.length = 3 ∧ (cidrs.map (·.interfaceIndex)).Nodup := by
  let snapshot : GoMap String HostInterface := AList.singleton "a"
    ⟨"a", [⟨"eth1", "10.0.1.0/24", "10.0.1.1"⟩, ⟨"eth2", "10.0.2.0/24", "10.0.2.1"⟩,
      ⟨"eth3", "10.0.3.0/24", "10.0.3.1"⟩]⟩
  have hvalues : (updateEntries 2 ⟨hostSubnets, twoSubnets⟩ (sortAddress hostSubnets.excludeCIDRs)
      false snapshot fun _ => .failed).map (fun r => (r.1.values.length, r.2)) =
        some (3, true) := by
    decide +kernel
  obtain ⟨⟨m, changed⟩, hm, heq⟩ := Option.map_eq_some_iff.mp hvalues
  obtain ⟨hlen, rfl⟩ := Prod.mk.inj heq
  have hroom : IndexRoom hostSubnets snapshot
      (filterEntries snapshot (fun _ => .failed) false twoSubnets).entriesMap := by
    decide +kernel
  have hreach : RoomyReachable hostSubnets m.values :=
    .update (.init generate_twoSubnets (List.Perm.refl _)) hroom hm (List.Perm.refl _)
  exact ⟨m.values, hreach, hlen, (hostSubnet_indexes_distinct rfl hreach).1⟩

/-- The host leaves the first network and joins a third, which gets the index the second
still has. -/
def collidingSubnets : List CIDREntry :=
  [⟨"10.0.3.0/24", 1, "10.0.3.0/24",
      [⟨0, "a", "eth3", "10.0.3.1", "10.0.3.0/28", "net-10.0.3.0-28"⟩]⟩,
    ⟨"10.0.2.0/24", 1, "10.0.2.0/24",
      [⟨0, "a", "eth2", "10.0.2.1", "10.0.2.0/28", "net-10.0.2.0-28"⟩]⟩]

/-- **Two networks with one index**: the entries are reachable, both have index 1, and of the
two networks host `a` is listed in the map keeps one record only. -/
theorem hostSubnet_indexes_collide :
    Reachable hostSubnets collidingSubnets ∧
      collidingSubnets.map (·.interfaceIndex) = [1, 1] ∧
      ((getHostInterfaceIndexMap collidingSubnets).lookup "a").map (·.values.map (·.podCIDR)) =
        some ["10.0.2.0/28"] := by
  refine ⟨?_, by decide, by decide⟩
  have hnew : newCIDR 2 hostSubnets (AList.singleton "a"
      ⟨"a", [⟨"eth1", "10.0.1.0/24", "10.0.1.1"⟩, ⟨"eth2", "10.0.2.0/24", "10.0.2.1"⟩]⟩) =
        some (.ok ⟨hostSubnets, twoSubnets⟩) := generate_twoSubnets
  have hupd : Updates hostSubnets (AList.singleton "a"
      ⟨"a", [⟨"eth2", "10.0.2.0/24", "10.0.2.1"⟩, ⟨"eth3", "10.0.3.0/24", "10.0.3.1"⟩]⟩)
      twoSubnets collidingSubnets := .of_values 2 false (fun _ => .failed) (by decide +kernel)
  exact .update (.init hnew (List.Perm.refl _)) hupd

end MultiNicCni.Controller
