import MultiNicCni.Controller.Placement
import MultiNicCni.Lib.Flag

/-!
# The second loop of `UpdateEntries`, turn by turn

The second loop takes the interfaces of the snapshot one after the other. This module says exactly
what each turn does, the move of a host included.

- `turns`: the interfaces of the snapshot with their hosts, in the order in which they are taken;
- `Turn`: the five outcomes of `placeHost`, with what becomes of the flag; `placeHost_eq_some` shows
  that they are all of it;
- `shifted`: the host slice after Go's `append` has removed an element in place;
- `Turn.cases_of_podsAssigned`: while every host holds the pod CIDR of its index, none is moved;
- `updateEntries_induction`: a property of the entries that the first loop establishes and that each
  turn and the removal of died hosts keep;
- `turnsOn`, `placeTurns_lookup`: **an entry runs through the turns on its own network only**.
-/

namespace MultiNicCni.Controller

open Go Compute Lib

variable {st' st : GoMap String CIDREntry × Bool} {fuel i : Nat} {turn : String × InterfaceInfoType}
  {snapshot : GoMap String HostInterface} {host : HostInterfaceInfo} {config : PluginConfig}
  {iface : InterfaceInfoType} {excludes : List String} {entry : CIDREntry} {net : String}
  {ts : List (String × InterfaceInfoType)} {m : GoMap String CIDREntry}
  {hosts : List HostInterfaceInfo}

/-! ## The turns -/

/-- The interfaces of the hosts, each with the name of its host. -/
def turns (hifs : List HostInterface) : List (String × InterfaceInfoType) :=
  hifs.flatMap fun hif => hif.interfaces.map fun iface => (hif.hostName, iface)

/-- One turn of the second loop. -/
def placeTurn (fuel : Nat) (config : PluginConfig) (excludes : List String)
    (st : GoMap String CIDREntry × Bool) (turn : String × InterfaceInfoType) :
    Option (GoMap String CIDREntry × Bool) :=
  placeInterface fuel config excludes turn.1 st turn.2

/-- The two nested loops are one loop over the turns. -/
theorem placeHosts_eq (fuel : Nat) (config : PluginConfig) (excludes : List String)
    (st : GoMap String CIDREntry × Bool) (hifs : List HostInterface) :
    placeHosts fuel config excludes st hifs =
      (turns hifs).foldlM (placeTurn fuel config excludes) st := by
  induction hifs generalizing st with
  | nil => rfl
  | cons hif hifs ih =>
    rw [turns, List.flatMap_cons, List.foldlM_append, List.foldlM_map]
    exact Option.bind_congr fun st₁ _ => ih st₁

theorem mem_turns {hifs : List HostInterface} :
    turn ∈ turns hifs ↔ ∃ hif ∈ hifs, hif.hostName = turn.1 ∧ turn.2 ∈ hif.interfaces := by
  simp only [turns, List.mem_flatMap, List.mem_map]
  constructor
  · rintro ⟨hif, hhif, iface, hiface, rfl⟩
    exact ⟨hif, hhif, rfl, hiface⟩
  · rintro ⟨hif, hhif, hname, hiface⟩
    exact ⟨hif, hhif, turn.2, hiface, by rw [hname]⟩

/-- Every interface object is under the name of its host. -/
def ByHostName (snapshot : GoMap String HostInterface) : Prop :=
  snapshot.All fun name hif => hif.hostName = name

/-- A host has at most one interface on a network. -/
def OnePerNetwork (snapshot : GoMap String HostInterface) : Prop :=
  snapshot.All fun _ hif => (hif.interfaces.map (·.netAddress)).Nodup

/-- Host and network of a turn. -/
def turnKey (turn : String × InterfaceInfoType) : String × String := (turn.1, turn.2.netAddress)

section Snapshot

variable (hkeyed : ByHostName snapshot)
include hkeyed

/-- The host of a turn is shown on the network of the turn. -/
theorem onNet_of_mem_turns (h : turn ∈ turns snapshot.values) :
    OnNet snapshot turn.1 turn.2.netAddress := by
  obtain ⟨hif, hhif, hname, hiface⟩ := mem_turns.mp h
  obtain ⟨key, hkey⟩ := GoMap.mem_values.mp hhif
  rw [← hname, hkeyed key hif hkey]
  exact ⟨hif, hkey, turn.2, hiface, rfl⟩

/-- A host has one turn on a network. -/
theorem nodup_turns (hone : OnePerNetwork snapshot) :
    ((turns snapshot.values).map turnKey).Nodup := by
  have hkeys : snapshot.values.Pairwise fun hif hif' => hif.hostName ≠ hif'.hostName := by
    have hsep : GoMap.Separates HostInterface.hostName snapshot := by
      intro k k' hif hif' hl hl' heq
      rw [← hkeyed k hif hl, heq, hkeyed k' hif' hl']
    exact List.pairwise_map.mp hsep.nodup
  rw [turns, List.map_flatMap, List.nodup_flatMap]
  constructor
  · intro hif hhif
    obtain ⟨key, hkey⟩ := GoMap.mem_values.mp hhif
    rw [List.map_map]
    refine List.Nodup.of_map Prod.snd ?_
    rw [List.map_map]
    exact hone key hif hkey
  · refine hkeys.imp fun {hif hif'} hne => ?_
    intro k hk hk'
    obtain ⟨turn, hturn, rfl⟩ := List.mem_map.mp hk
    obtain ⟨turn', hturn', heq⟩ := List.mem_map.mp hk'
    obtain ⟨iface, -, rfl⟩ := List.mem_map.mp hturn
    obtain ⟨iface', -, rfl⟩ := List.mem_map.mp hturn'
    exact hne (congrArg Prod.fst heq).symm

end Snapshot

/-! ## The slice after an element is removed in place -/

/-- What the old slice reads after `append(hosts[0:i], hosts[i+1:]...)`: the elements after
position `i` have moved up by one, and the last one stands twice. -/
def shifted {α : Type*} (hosts : List α) (i : Nat) : List α :=
  (appendTo hosts i (hosts.drop (i + 1))).2

theorem shifted_eq {α : Type*} {hosts : List α} (h : i < hosts.length) :
    shifted hosts i = hosts.eraseIdx i ++ hosts.drop (hosts.length - 1) := by
  have hlen : i + (hosts.drop (i + 1)).length = hosts.length - 1 := by
    rw [List.length_drop]
    omega
  rw [shifted, appendTo_room (by omega), hlen, List.eraseIdx_eq_take_drop_succ]

theorem map_shifted {α β : Type*} (f : α → β) (hosts : List α) (i : Nat) :
    (shifted hosts i).map f = shifted (hosts.map f) i := by
  unfold shifted appendTo
  simp only [List.length_map, List.length_drop, ← List.map_drop, ← List.map_take,
    ← List.map_append, apply_ite (List.map f)]

/-- The last element stands twice. -/
theorem shifted_eq_last {α : Type*} {hosts : List α} (h : i < hosts.length) {last : α}
    (hlast : hosts.getLast? = some last) : shifted hosts i = hosts.eraseIdx i ++ [last] := by
  have hne : hosts ≠ [] := List.ne_nil_of_mem (List.mem_of_getLast? hlast)
  rw [List.getLast?_eq_some_getLast hne] at hlast
  rw [shifted_eq h, List.drop_length_sub_one hne, Option.some.inj hlast]

theorem exists_getLast {α : Type*} {hosts : List α} (h : i < hosts.length) :
    ∃ last, hosts.getLast? = some last :=
  ⟨_, List.getLast?_eq_some_getLast (List.length_pos_iff.mp (Nat.zero_lt_of_lt h))⟩

/-- The hosts that the shifted slice shows. -/
theorem mem_shifted {α : Type*} {hosts : List α} (h : i < hosts.length) {host : α} :
    host ∈ shifted hosts i ↔ host ∈ hosts.eraseIdx i ∨ hosts.getLast? = some host := by
  obtain ⟨last, hlast⟩ := exists_getLast h
  rw [shifted_eq_last h hlast, List.mem_append, List.mem_singleton, hlast, Option.some.injEq,
    eq_comm]

/-! ## One turn -/

/-- The record is not the one a pass would write. -/
def Stale (iface : InterfaceInfoType) (podCIDR : String) (host : HostInterfaceInfo) : Prop :=
  podCIDR ≠ host.podCIDR ∨ iface.interfaceName ≠ host.interfaceName ∨ iface.hostIP ≠ host.hostIP ∨
    host.ipPool = ""

instance (iface : InterfaceInfoType) (podCIDR : String) (host : HostInterfaceInfo) :
    Decidable (Stale iface podCIDR host) := inferInstanceAs (Decidable (_ ∨ _ ∨ _ ∨ _))

/-- A refresh leaves a record that is not stale. -/
theorem refreshHost_eq_self {podCIDR : String} (h : ¬ Stale iface podCIDR host) :
    refreshHost config iface podCIDR host = host := by
  simp only [Stale, not_or, not_not] at h
  obtain ⟨hpod, hname, hip, hpool⟩ := h
  rw [refreshHost, if_neg hpool, hpod, hname, hip]

theorem set_refreshHost_eq_self {podCIDR : String} (hhost : hosts[i]? = some host)
    (h : ¬ Stale iface podCIDR host) :
    hosts.set i (refreshHost config iface podCIDR host) = hosts := by
  rw [refreshHost_eq_self h]
  obtain ⟨hi, rfl⟩ := List.getElem?_eq_some_iff.mp hhost
  exact List.set_getElem_self hi

theorem getIPPoolName_ne_empty (netAttachDef podCIDR : String) :
    getIPPoolName netAttachDef podCIDR ≠ "" := by
  intro h
  have hlen := congrArg String.length h
  rw [getIPPoolName, String.length_append, String.length_append] at hlen
  simp at hlen

/-- The flag after a refresh. -/
theorem refresh_flag (iface : InterfaceInfoType) (podCIDR : String) (host : HostInterfaceInfo)
    (changed : Bool) :
    (changed || decide (Stale iface podCIDR host)) =
      (if Stale iface podCIDR host then Effect.report else .keep).apply changed := by
  split
  · next hstale =>
    rw [decide_eq_true hstale, Bool.or_true]
    rfl
  · next hfresh =>
    rw [decide_eq_false hfresh, Bool.or_false]
    rfl

/-- The index is one of the host at position `i` of the list, and it is unusable. -/
structure Displaced (config : PluginConfig) (excludes : List String) (hostName : String)
    (entry : CIDREntry) (i : Nat) (host : HostInterfaceInfo) : Prop where
  position : getHostIndex entry.hosts hostName = some i
  record : entry.hosts[i]? = some host
  unusable : Unusable entry.vlanCIDR config.hostBlock excludes host.hostIndex

/-- The outcomes of the turn of an interface: the hosts of the entry after it, and what it does to
the flag. -/
inductive Turn (fuel : Nat) (config : PluginConfig) (excludes : List String) (hostName : String)
    (iface : InterfaceInfoType) (entry : CIDREntry) : List HostInterfaceInfo → Effect → Prop
  /-- The host is not listed and gets an index. -/
  | add {podCIDR hostIndex} : hostName ∉ entry.hosts.map (·.hostName) →
      searchIn fuel config entry entry.hosts = some (.ok (podCIDR, hostIndex)) →
      Turn fuel config excludes hostName iface entry
        (withHost config hostName iface podCIDR hostIndex entry.hosts) .report
  /-- The host is not listed and gets none; the flag is lost. -/
  | full {e} : hostName ∉ entry.hosts.map (·.hostName) →
      searchIn fuel config entry entry.hosts = some (.error e) →
      Turn fuel config excludes hostName iface entry entry.hosts .forget
  /-- The host keeps its index and has its record brought up to date. -/
  | refresh {i host podCIDR} : getHostIndex entry.hosts hostName = some i →
      entry.hosts[i]? = some host →
      Assigned entry.vlanCIDR config.hostBlock excludes host.hostIndex podCIDR →
      Turn fuel config excludes hostName iface entry
        (entry.hosts.set i (refreshHost config iface podCIDR host))
        (if Stale iface podCIDR host then .report else .keep)
  /-- The index of the host is unusable, and it gets a new one. -/
  | move {i host podCIDR hostIndex} : Displaced config excludes hostName entry i host →
      searchIn fuel config entry (shifted entry.hosts i) = some (.ok (podCIDR, hostIndex)) →
      Turn fuel config excludes hostName iface entry
        (withHost config hostName iface podCIDR hostIndex (shifted entry.hosts i)) .report
  /-- The index of the host is unusable, and it gets none: the host is removed, and the flag is
  lost. -/
  | lose {i host e} : Displaced config excludes hostName entry i host →
      searchIn fuel config entry (shifted entry.hosts i) = some (.error e) →
      Turn fuel config excludes hostName iface entry (entry.hosts.eraseIdx i) .forget

section Turn

variable {hostName : String} {entry' : CIDREntry} {changed changed' : Bool} {effect : Effect}

/-- `moveHost` is the search in the shifted slice. -/
theorem moveHost_eq (i : Nat) :
    moveHost fuel config entry i hostName iface =
      (searchIn fuel config entry (shifted entry.hosts i)).map (addFound config hostName iface
        { entry with hosts := entry.hosts.eraseIdx i } (shifted entry.hosts i)) := by
  have hmove : moveHost fuel config entry i hostName iface =
      tryAddNewHost fuel (shifted entry.hosts i) { entry with hosts := entry.hosts.eraseIdx i }
        (powMinusOne config.hostBlock) config hostName iface.interfaceName iface.hostIP := by
    rw [moveHost, List.eraseIdx_eq_take_drop_succ]
    rfl
  rw [hmove, tryAddNewHost_eq]
  rfl

/-- A host whose index is unusable is moved. -/
theorem placeHost_displaced (h : Displaced config excludes hostName entry i host) :
    placeHost fuel config excludes hostName iface entry changed =
      moveHost fuel config entry i hostName iface := by
  simp only [placeHost, h.position, h.record, Option.bind_eq_bind, Option.bind_some]
  rcases h.unusable with ⟨e, he⟩ | ⟨r, hr, htabu⟩
  · rw [he]
    rfl
  · rw [hr, Option.bind_some]
    dsimp only
    rw [htabu]
    rfl

/-- **The five outcomes are what the turn does.** -/
theorem placeHost_eq_some :
    placeHost fuel config excludes hostName iface entry changed = some (entry', changed') ↔
      ∃ hosts effect, entry' = { entry with hosts } ∧ changed' = effect.apply changed ∧
        Turn fuel config excludes hostName iface entry hosts effect := by
  constructor
  · intro h
    cases hidx : getHostIndex entry.hosts hostName with
    | none =>
      have hnot := getHostIndex_eq_none.mp hidx
      simp only [placeHost, hidx] at h
      rw [tryAddNewHost_eq] at h
      obtain ⟨found, hfound, h⟩ := Option.map_eq_some_iff.mp h
      cases found with
      | ok found =>
        cases h
        exact ⟨_, _, rfl, rfl, .add hnot hfound⟩
      | error e =>
        cases h
        exact ⟨_, _, rfl, rfl, .full hnot hfound⟩
    | some i =>
      have hmoved : ∀ host, Displaced config excludes hostName entry i host →
          ∃ hosts effect, entry' = { entry with hosts } ∧ changed' = effect.apply changed ∧
            Turn fuel config excludes hostName iface entry hosts effect := by
        intro host hdisp
        rw [placeHost_displaced hdisp, moveHost_eq] at h
        obtain ⟨found, hfound, h⟩ := Option.map_eq_some_iff.mp h
        cases found with
        | ok found =>
          cases h
          exact ⟨_, _, rfl, rfl, .move hdisp hfound⟩
        | error e =>
          cases h
          exact ⟨_, _, rfl, rfl, .lose hdisp hfound⟩
      have h' := h
      simp only [placeHost, hidx] at h'
      obtain ⟨host, hhost, h'⟩ := Option.bind_eq_some_iff.mp h'
      obtain ⟨net, hnet, h'⟩ := Option.bind_eq_some_iff.mp h'
      cases net with
      | error e => exact hmoved host ⟨hidx, hhost, Or.inl ⟨e, hnet⟩⟩
      | ok r =>
        obtain ⟨tabu, htabu, h'⟩ := Option.bind_eq_some_iff.mp h'
        cases tabu with
        | true => exact hmoved host ⟨hidx, hhost, Or.inr ⟨r, hnet, htabu⟩⟩
        | false =>
          obtain ⟨podCIDR, hpod, h'⟩ := Option.bind_eq_some_iff.mp h'
          cases h'
          exact ⟨_, _, rfl, refresh_flag iface podCIDR host changed,
            .refresh hidx hhost ⟨r, hnet, htabu, hpod⟩⟩
  · rintro ⟨hosts, effect, rfl, rfl, hturn⟩
    cases hturn with
    | add hnot hfound =>
      simp only [placeHost, getHostIndex_eq_none.mpr hnot]
      rw [tryAddNewHost_eq, hfound]
      rfl
    | full hnot hfound =>
      simp only [placeHost, getHostIndex_eq_none.mpr hnot]
      rw [tryAddNewHost_eq, hfound]
      rfl
    | refresh hidx hhost ha =>
      obtain ⟨r, hnet, htabu, hpod⟩ := ha
      simp only [placeHost, hidx, hhost, hnet, htabu, hpod, Option.bind_eq_bind, Option.bind_some]
      rw [← refresh_flag]
      rfl
    | move hdisp hfound =>
      rw [placeHost_displaced hdisp, moveHost_eq, hfound]
      rfl
    | lose hdisp hfound =>
      rw [placeHost_displaced hdisp, moveHost_eq, hfound]
      rfl

theorem Displaced.lt (h : Displaced config excludes hostName entry i host) :
    i < entry.hosts.length :=
  (List.getElem?_eq_some_iff.mp h.record).1

theorem Displaced.hostName_eq (h : Displaced config excludes hostName entry i host) :
    host.hostName = hostName :=
  getHostIndex_eq_some h.position h.record

theorem perm_cons_eraseIdx (h : hosts[i]? = some host) : hosts.Perm (host :: hosts.eraseIdx i) := by
  obtain ⟨hi, rfl⟩ := List.getElem?_eq_some_iff.mp h
  exact (List.getElem_cons_eraseIdx_perm hi).symm

/-- Without its record, the host is not listed. -/
theorem Displaced.notMem_eraseIdx (h : Displaced config excludes hostName entry i host)
    (hnames : (entry.hosts.map (·.hostName)).Nodup) :
    hostName ∉ (entry.hosts.eraseIdx i).map (·.hostName) := by
  rw [((perm_cons_eraseIdx h.record).map _).nodup_iff, List.map_cons, List.nodup_cons] at hnames
  rw [← h.hostName_eq]
  exact hnames.1

/-- A record is of another host, so it is not the one at the position. -/
theorem Displaced.mem_eraseIdx {host' : HostInterfaceInfo}
    (h : Displaced config excludes hostName entry i host) (hmem : host' ∈ entry.hosts)
    (hne : host' ≠ host) : host' ∈ entry.hosts.eraseIdx i := by
  obtain ⟨j, hj⟩ := List.mem_iff_getElem?.mp hmem
  refine List.mem_eraseIdx_iff_getElem?.mpr ⟨j, ?_, hj⟩
  rintro rfl
  rw [h.record] at hj
  exact hne (Option.some.inj hj).symm

/-- While every record holds the pod CIDR of its index, no host is displaced. -/
theorem PodsAssigned.not_displaced (hpods : PodsAssigned config entry.vlanCIDR entry.hosts)
    (hex : excludes.Perm config.excludeCIDRs) :
    ¬ Displaced config excludes hostName entry i host := fun h =>
  ((hpods host (List.mem_of_getElem? h.record)).perm hex).not_unusable h.unusable

variable (h : Turn fuel config excludes hostName iface entry hosts effect)
include h

/-- **The recheck of a pass never moves a host**: while every host holds the pod CIDR of its
index, a turn adds a host, refreshes a record without touching its index or pod CIDR, or does
nothing. -/
theorem Turn.cases_of_podsAssigned (hblock : 1 ≤ config.hostBlock)
    (hex : excludes.Perm config.excludeCIDRs)
    (hpods : PodsAssigned config entry.vlanCIDR entry.hosts) :
    (∃ podCIDR hostIndex, hostName ∉ entry.hosts.map (·.hostName) ∧
        Assigned entry.vlanCIDR config.hostBlock config.excludeCIDRs hostIndex podCIDR ∧
        (Indexes (entry.hosts.map (·.hostIndex)) →
          Fresh (entry.hosts.map (·.hostIndex)) hostIndex) ∧
        hosts = withHost config hostName iface podCIDR hostIndex entry.hosts) ∨
      hosts = entry.hosts ∨
      ∃ i host, entry.hosts[i]? = some host ∧
        hosts = entry.hosts.set i (refreshHost config iface host.podCIDR host) := by
  cases h with
  | add hnot hfound =>
    obtain ⟨ha, hfresh⟩ := addNewHost_spec (powMinusOne_ne_zero hblock) hfound
    exact Or.inl ⟨_, _, hnot, ha, hfresh, rfl⟩
  | full => exact Or.inr (Or.inl rfl)
  | refresh hidx hhost ha =>
    obtain rfl := ((hpods _ (List.mem_of_getElem? hhost)).perm hex).unique ha
    exact Or.inr (Or.inr ⟨_, _, hhost, rfl⟩)
  | move hdisp => exact absurd hdisp (hpods.not_displaced hex)
  | lose hdisp => exact absurd hdisp (hpods.not_displaced hex)

theorem PodsAssigned.placed (hblock : 1 ≤ config.hostBlock)
    (hex : excludes.Perm config.excludeCIDRs)
    (hpods : PodsAssigned config entry.vlanCIDR entry.hosts) :
    PodsAssigned config entry.vlanCIDR hosts := by
  rcases h.cases_of_podsAssigned hblock hex hpods with
    ⟨podCIDR, hostIndex, -, ha, -, rfl⟩ | rfl | ⟨i, host, hhost, rfl⟩
  · intro x hx
    rcases List.mem_cons.mp ((withHost_perm ..).mem_iff.mp hx) with rfl | hx
    · exact ha
    · exact hpods x hx
  · exact hpods
  · intro x hx
    rcases List.mem_or_eq_of_mem_set hx with hx | rfl
    · exact hpods x hx
    · exact hpods host (List.mem_of_getElem? hhost)

/-- Where a record after a turn comes from. -/
theorem Turn.mem_cases (hmem : host ∈ hosts) :
    host ∈ entry.hosts ∨
      (∃ existing podCIDR idx, searchIn fuel config entry existing = some (.ok (podCIDR, idx)) ∧
        host = newHost config hostName iface podCIDR idx) ∨
      ∃ i host' podCIDR, getHostIndex entry.hosts hostName = some i ∧
        entry.hosts[i]? = some host' ∧
        Assigned entry.vlanCIDR config.hostBlock excludes host'.hostIndex podCIDR ∧
        host = refreshHost config iface podCIDR host' := by
  cases h with
  | add hnot hfound =>
    rcases List.mem_cons.mp ((withHost_perm ..).mem_iff.mp hmem) with rfl | hmem
    · exact Or.inr (Or.inl ⟨_, _, _, hfound, rfl⟩)
    · exact Or.inl hmem
  | full => exact Or.inl hmem
  | refresh hidx hhost ha =>
    rcases List.mem_or_eq_of_mem_set hmem with hmem | rfl
    · exact Or.inl hmem
    · exact Or.inr (Or.inr ⟨_, _, _, hidx, hhost, ha, rfl⟩)
  | move hdisp hfound =>
    rcases List.mem_cons.mp ((withHost_perm ..).mem_iff.mp hmem) with rfl | hmem
    · exact Or.inr (Or.inl ⟨_, _, _, hfound, rfl⟩)
    · rcases (mem_shifted hdisp.lt).mp hmem with hmem | hlast
      · exact Or.inl (List.mem_of_mem_eraseIdx hmem)
      · exact Or.inl (List.mem_of_getLast? hlast)
  | lose => exact Or.inl (List.mem_of_mem_eraseIdx hmem)

/-- After a turn a record is one that was there, or one of the host of the turn. -/
theorem Turn.mem_or_own (hmem : host ∈ hosts) : host ∈ entry.hosts ∨ host.hostName = hostName := by
  rcases h.mem_cases hmem with hmem | ⟨_, _, _, -, rfl⟩ | ⟨i, host', podCIDR, hidx, hhost, -, rfl⟩
  · exact Or.inl hmem
  · exact Or.inr rfl
  · have hname := getHostIndex_eq_some hidx hhost
    exact Or.inr hname

/-- A record that is not displaced is there after the turn, perhaps refreshed. -/
theorem Turn.mem_or_refreshed (hmem : host ∈ entry.hosts)
    (hkept : ∀ i, ¬ Displaced config excludes hostName entry i host) :
    host ∈ hosts ∨ ∃ i podCIDR, getHostIndex entry.hosts hostName = some i ∧
      entry.hosts[i]? = some host ∧
      Assigned entry.vlanCIDR config.hostBlock excludes host.hostIndex podCIDR ∧
      refreshHost config iface podCIDR host ∈ hosts := by
  have herase : ∀ {i host'}, Displaced config excludes hostName entry i host' →
      host ∈ entry.hosts.eraseIdx i := by
    intro i host' hdisp
    refine hdisp.mem_eraseIdx hmem ?_
    rintro rfl
    exact hkept i hdisp
  cases h with
  | add => exact Or.inl ((withHost_perm ..).mem_iff.mpr (List.mem_cons_of_mem _ hmem))
  | full => exact Or.inl hmem
  | @refresh i host' podCIDR hidx hhost ha =>
    obtain ⟨j, hj⟩ := List.mem_iff_getElem?.mp hmem
    by_cases hij : i = j
    · rw [← hij, hhost] at hj
      obtain rfl := Option.some.inj hj
      have hi := (List.getElem?_eq_some_iff.mp hhost).1
      exact Or.inr ⟨i, podCIDR, hidx, hhost, ha, List.mem_set hi _⟩
    · refine Or.inl (List.mem_iff_getElem?.mpr ⟨j, ?_⟩)
      rw [List.getElem?_set_ne hij, hj]
  | move hdisp =>
    refine Or.inl ((withHost_perm ..).mem_iff.mpr (List.mem_cons_of_mem _ ?_))
    exact (mem_shifted hdisp.lt).mpr (Or.inl (herase hdisp))
  | lose hdisp => exact Or.inl (herase hdisp)

/-- A turn leaves the records of the other hosts. -/
theorem Turn.mem_of_other (hmem : host ∈ entry.hosts) (hother : host.hostName ≠ hostName) :
    host ∈ hosts := by
  rcases h.mem_or_refreshed hmem fun i hdisp => hother hdisp.hostName_eq with
    hmem | ⟨i, podCIDR, hidx, hhost, -⟩
  · exact hmem
  · exact absurd (getHostIndex_eq_some hidx hhost) hother

end Turn

/-! ## The turns on one network -/

instance (config : PluginConfig) (iface : InterfaceInfoType) : Decidable (Selected config iface) :=
  inferInstanceAs (Decidable (_ ∨ _))

/-- The turn is on the network, and the definition selects it. -/
def isOn (config : PluginConfig) (net : String) (turn : String × InterfaceInfoType) : Bool :=
  decide (Selected config turn.2) && turn.2.netAddress == net

/-- The turns on a network. -/
def turnsOn (config : PluginConfig) (hifs : List HostInterface) (net : String) :
    List (String × InterfaceInfoType) := (turns hifs).filter (isOn config net)

/-- A turn on the network of the entry. -/
def placeIn (fuel : Nat) (config : PluginConfig) (excludes : List String) (entry : CIDREntry)
    (turn : String × InterfaceInfoType) : Option CIDREntry :=
  (placeHost fuel config excludes turn.1 turn.2 entry false).map (·.1)

theorem isOn_iff :
    isOn config net turn = true ↔ Selected config turn.2 ∧ turn.2.netAddress = net := by
  rw [isOn, Bool.and_eq_true, decide_eq_true_eq, beq_iff_eq]

section OnNetwork

variable {entry' : CIDREntry}

theorem placeIn_eq_some :
    placeIn fuel config excludes entry turn = some entry' ↔
      ∃ hosts effect, entry' = { entry with hosts } ∧
        Turn fuel config excludes turn.1 turn.2 entry hosts effect := by
  rw [placeIn, Option.map_eq_some_iff]
  constructor
  · rintro ⟨⟨entry', changed⟩, h, rfl⟩
    obtain ⟨hosts, effect, heq, -, hturn⟩ := placeHost_eq_some.mp h
    exact ⟨hosts, effect, heq, hturn⟩
  · rintro ⟨hosts, effect, rfl, hturn⟩
    exact ⟨_, placeHost_eq_some.mpr ⟨hosts, effect, rfl, rfl, hturn⟩, rfl⟩

/-- One turn: it is skipped, or its host is placed in the entry of its network. -/
theorem placeTurn_eq_some :
    placeTurn fuel config excludes st turn = some st' ↔
      (st' = st ∧ (¬ Selected config turn.2 ∨
        getInterfaceEntry fuel config st.1 turn.2.netAddress = some none)) ∨
      ∃ entry hosts effect, Selected config turn.2 ∧
        getInterfaceEntry fuel config st.1 turn.2.netAddress = some (some entry) ∧
        Turn fuel config excludes turn.1 turn.2 entry hosts effect ∧
        st' = (st.1.insert turn.2.netAddress { entry with hosts }, effect.apply st.2) := by
  have hsel : (config.masterNetAddrs ≠ [] ∧ turn.2.netAddress ∉ config.masterNetAddrs) ↔
      ¬ Selected config turn.2 := by
    rw [Selected]
    tauto
  rw [placeTurn, placeInterface]
  by_cases hskip : Selected config turn.2
  · rw [if_neg (mt hsel.mp (not_not.mpr hskip)), Option.bind_eq_bind, Option.bind_eq_some_iff]
    constructor
    · rintro ⟨found, hfound, h⟩
      cases found with
      | none =>
        cases h
        exact Or.inl ⟨rfl, Or.inr hfound⟩
      | some entry =>
        obtain ⟨⟨entry', changed⟩, hplace, h⟩ := Option.bind_eq_some_iff.mp h
        cases h
        obtain ⟨hosts, effect, rfl, rfl, hturn⟩ := placeHost_eq_some.mp hplace
        exact Or.inr ⟨entry, hosts, effect, hskip, hfound, hturn, rfl⟩
    · rintro (⟨rfl, hnot | hnone⟩ | ⟨entry, hosts, effect, -, hfound, hturn, rfl⟩)
      · exact absurd hskip hnot
      · exact ⟨none, hnone, rfl⟩
      · refine ⟨some entry, hfound, Option.bind_eq_some_iff.mpr
          ⟨({ entry with hosts }, effect.apply st.2), ?_, rfl⟩⟩
        exact placeHost_eq_some.mpr ⟨hosts, effect, rfl, rfl, hturn⟩
  · rw [if_pos (hsel.mpr hskip), Option.some.injEq]
    constructor
    · rintro rfl
      exact Or.inl ⟨rfl, Or.inl hskip⟩
    · rintro (⟨rfl, -⟩ | ⟨-, -, -, h, -⟩)
      · rfl
      · exact absurd h hskip

/-- A turn that is not on the network leaves its entry. -/
theorem placeTurn_other (h : placeTurn fuel config excludes st turn = some st')
    (hoff : isOn config net turn = false) : st'.1.lookup net = st.1.lookup net := by
  rcases placeTurn_eq_some.mp h with ⟨rfl, -⟩ | ⟨entry, hosts, effect, hsel, -, -, rfl⟩
  · rfl
  · refine AList.lookup_insert_ne ?_
    rintro rfl
    rw [isOn_iff.mpr ⟨hsel, rfl⟩] at hoff
    cases hoff

/-- A turn on the network places its host in the entry. -/
theorem placeTurn_own (h : placeTurn fuel config excludes st turn = some st')
    (hon : isOn config net turn = true) (hl : st.1.lookup net = some entry) :
    ∃ entry', placeIn fuel config excludes entry turn = some entry' ∧
      st'.1.lookup net = some entry' := by
  obtain ⟨hsel, rfl⟩ := isOn_iff.mp hon
  rw [placeTurn, placeInterface, if_neg (by rw [Selected] at hsel; tauto),
    getInterfaceEntry_of_lookup fuel config hl, Option.bind_eq_bind, Option.bind_some] at h
  obtain ⟨⟨entry', changed⟩, hplace, h⟩ := Option.bind_eq_some_iff.mp h
  cases h
  obtain ⟨hosts, effect, rfl, -, hturn⟩ := placeHost_eq_some.mp hplace
  exact ⟨_, placeIn_eq_some.mpr ⟨hosts, effect, rfl, hturn⟩, AList.lookup_insert _⟩

/-- **An entry runs through the turns on its own network only.** -/
theorem placeTurns_lookup (h : ts.foldlM (placeTurn fuel config excludes) st = some st')
    (hl : st.1.lookup net = some entry) :
    ∃ entry', (ts.filter (isOn config net)).foldlM (placeIn fuel config excludes) entry =
        some entry' ∧ st'.1.lookup net = some entry' :=
  foldlM_view (fun st => st.1.lookup net) (isOn config net) (placeIn fuel config excludes)
    (fun _ _ _ _ hstep hoff => placeTurn_other hstep hoff)
    (fun _ _ _ _ _ hstep hon hx => placeTurn_own hstep hon hx) h hl

/-- Whatever network it is of, after the second loop a record is one that was there before, or one
of a host of the snapshot. -/
theorem placeTurns_mem (h : ts.foldlM (placeTurn fuel config excludes) st = some st')
    (hl : st'.1.lookup net = some entry) (hmem : host ∈ entry.hosts) :
    (∃ entry₀, st.1.lookup net = some entry₀ ∧ host ∈ entry₀.hosts) ∨
      ∃ turn ∈ ts, turn.1 = host.hostName := by
  refine foldlM_invariant (P := fun st' : GoMap String CIDREntry × Bool =>
    ∀ net entry, st'.1.lookup net = some entry → ∀ host ∈ entry.hosts,
      (∃ entry₀, st.1.lookup net = some entry₀ ∧ host ∈ entry₀.hosts) ∨
        ∃ turn ∈ ts, turn.1 = host.hostName) ?_ ?_ h net entry hl host hmem
  · intro st₁ st₂ turn hturn hst₁ hstep net entry hl host hmem
    rcases placeTurn_eq_some.mp hstep with ⟨rfl, -⟩ | ⟨entry₁, hosts, effect, -, hget, hturn', rfl⟩
    · exact hst₁ net entry hl host hmem
    · rcases GoMap.lookup_insert_cases hl with ⟨rfl, rfl⟩ | ⟨-, hl⟩
      · rcases hturn'.mem_or_own hmem with hmem | hown
        · exact hst₁ _ _ (lookup_of_mem_hosts hget hmem) host hmem
        · exact Or.inr ⟨turn, hturn, hown.symm⟩
      · exact hst₁ net entry hl host hmem
  · intro net entry hl host hmem
    exact Or.inl ⟨entry, hl, hmem⟩

end OnNetwork

/-! ## The whole pass -/

section Pass

variable {spec : CIDRSpec} {excludes : List IPValue} {changed changed' : Bool}
  {nodes : Nat → NodeLookup}

/-- The pass is the first loop, the turns, and the removal of the hosts found dead. -/
theorem updateEntries_eq_some :
    updateEntries fuel spec excludes changed snapshot nodes = some (m, changed') ↔
      ∃ m₁, (turns snapshot.values).foldlM (placeTurn fuel spec.config (excludes.map (·.address)))
          ((filterEntries snapshot nodes changed spec.cidrs).entriesMap,
            (filterEntries snapshot nodes changed spec.cidrs).changed) = some (m₁, changed') ∧
        m = if 0 < (filterEntries snapshot nodes changed spec.cidrs).diedHost.length then
            m₁.mapValues (dropDied (filterEntries snapshot nodes changed spec.cidrs).diedHost)
          else m₁ := by
  rw [updateEntries, placeHosts_eq, Option.bind_eq_bind, Option.bind_eq_some_iff]
  constructor
  · rintro ⟨⟨m₁, changed₁⟩, hloop, h⟩
    dsimp only at h
    split at h
    · next hdied =>
      cases h
      exact ⟨m₁, hloop, (if_pos hdied).symm⟩
    · next hdied =>
      cases h
      exact ⟨m, hloop, (if_neg hdied).symm⟩
  · rintro ⟨m₁, hloop, rfl⟩
    refine ⟨(m₁, changed'), hloop, ?_⟩
    dsimp only
    split
    · rfl
    · rfl

/-- A property of the entries that the first loop establishes and that each turn and the removal of
died hosts keep. -/
theorem updateEntries_induction {P : GoMap String CIDREntry → Prop}
    (h : updateEntries fuel spec excludes changed snapshot nodes = some (m, changed'))
    (hfilter : P (filterEntries snapshot nodes changed spec.cidrs).entriesMap)
    (hdrop : ∀ m, P m →
      P (m.mapValues (dropDied (filterEntries snapshot nodes changed spec.cidrs).diedHost)))
    (hplace : ∀ m entry hosts effect, ∀ turn ∈ turns snapshot.values,
      Selected spec.config turn.2 → P m →
      getInterfaceEntry fuel spec.config m turn.2.netAddress = some (some entry) →
      Turn fuel spec.config (excludes.map (·.address)) turn.1 turn.2 entry hosts effect →
      P (m.insert turn.2.netAddress { entry with hosts })) : P m := by
  obtain ⟨m₁, hloop, rfl⟩ := updateEntries_eq_some.mp h
  have hm₁ : P m₁ := by
    refine foldlM_invariant (P := fun st : GoMap String CIDREntry × Bool => P st.1) ?_ hfilter hloop
    intro st st' turn hturn hst hstep
    rcases placeTurn_eq_some.mp hstep with ⟨rfl, -⟩ | ⟨entry, hosts, effect, hsel, hget, hturn', rfl⟩
    · exact hst
    · exact hplace _ _ _ _ turn hturn hsel hst hget hturn'
  split
  · exact hdrop m₁ hm₁
  · exact hm₁

end Pass

/-! ## The last loop -/

section LastLoop

variable {died : List String}

/-- What the last loop leaves of an entry: all records of the hosts that are not found dead. -/
theorem lookup_after_dropDied (hl : m.lookup net = some entry) :
    ∃ kept, (if 0 < died.length then m.mapValues (dropDied died) else m).lookup net =
        some { entry with hosts := kept } ∧
      ∀ name, name ∉ died → recordsOf name kept = recordsOf name entry.hosts := by
  split
  · obtain ⟨kept, -, heq, hrec⟩ := dropDied_cases died entry
    refine ⟨kept, ?_, hrec⟩
    rw [GoMap.lookup_mapValues, hl, ← heq]
    rfl
  · exact ⟨entry.hosts, hl, fun _ _ => rfl⟩

/-- Where an entry after the last loop comes from. -/
theorem lookup_before_dropDied
    (hl : (if 0 < died.length then m.mapValues (dropDied died) else m).lookup net = some entry) :
    ∃ before kept, m.lookup net = some before ∧ kept.Sublist before.hosts ∧
      entry = { before with hosts := kept } := by
  split at hl
  · rw [GoMap.lookup_mapValues, Option.map_eq_some_iff] at hl
    obtain ⟨before, hl, rfl⟩ := hl
    obtain ⟨kept, hsub, heq, -⟩ := dropDied_cases died before
    exact ⟨before, kept, hl, hsub, heq⟩
  · exact ⟨entry, entry.hosts, hl, .refl _, rfl⟩

/-- A record of a host not found dead is there after the last loop. -/
theorem mem_after_dropDied (hl : m.lookup net = some entry) (hhost : host ∈ entry.hosts)
    (halive : host.hostName ∉ died) :
    ∃ hosts, (if 0 < died.length then m.mapValues (dropDied died) else m).lookup net =
      some { entry with hosts } ∧ host ∈ hosts := by
  obtain ⟨kept, hl', hrec⟩ := lookup_after_dropDied hl
  have hrecord : host ∈ recordsOf host.hostName kept := by
    rw [hrec _ halive]
    exact mem_recordsOf.mpr ⟨hhost, rfl⟩
  exact ⟨kept, hl', (mem_recordsOf.mp hrecord).1⟩

end LastLoop

end MultiNicCni.Controller
