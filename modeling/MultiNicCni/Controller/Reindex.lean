import MultiNicCni.Controller.IndexSearch
import MultiNicCni.Controller.Seats

/-!
# Re-indexing after the excludes change

When the index of a listed host has become unusable, `UpdateEntries` removes the host with
`append(hosts[0:i], hosts[i+1:]...)` and looks for another index. The search, and the list that the
new record is appended to, take the old slice: its elements have moved up by one in place, and the
last one stands twice.

- `safeSearch_iff`: when the search for an index comes out at one that is not in use;
- `SafelySeated`: the host of a turn is not given another index, and a new one is not given one in
  use;
- `turn_safe_or_doubled`: a turn that does not seat its host safely doubles a name or an index;
- `reindexing_sound`: **the entries stay sound as long as the hosts are seated safely**; if they are
  not, a name or an index is doubled on the way, or the entries returned are not sound.
-/

namespace MultiNicCni.Controller

open Go Compute Lib

variable {fuel : Nat} {m : GoMap String CIDREntry} {excludes : List String} {config : PluginConfig}
  {entry : CIDREntry} {host : HostInterfaceInfo} {podCIDR net : String}
  {snapshot : GoMap String HostInterface} {turn : String × InterfaceInfoType}

/-! ## The search for an index -/

/-- Beside these names and indexes the search for an index comes out at one that is not in use: no
index in use is negative, or index 0 is free, or an index above all of them is usable. -/
def SafeSearch (config : PluginConfig) (network : Network (String × Int)) : Prop :=
  (∀ o ∈ network.hosts, 0 ≤ o.2) ∨ (∀ o ∈ network.hosts, o.2 ≠ 0) ∨
    ∃ idx podCIDR, (∀ o ∈ network.hosts, o.2 < idx) ∧
      podOf network.vlanCIDR config.hostBlock config.excludeCIDRs idx = some podCIDR

section Search

variable {maxHostIndex block idx : Int} {vlan : String} {xs : List Int}

/-- With a negative index in use, the next index is above all of them or 0. -/
theorem nextHostIndex_of_neg {i : Int} (hneg : ∃ x ∈ xs, x < 0)
    (h : nextHostIndex maxHostIndex (sortInts xs) = .ok i) : (∀ x ∈ xs, x < i) ∨ i = 0 := by
  rcases nextHostIndex_eq_ok h with ⟨-, rfl⟩ | ⟨last, hlast, -, hne, rfl⟩ | ⟨last, hlast, rfl, -⟩
  · exact Or.inr rfl
  · obtain ⟨x, hx, hneg⟩ := hneg
    have hx' := (sortInts_perm xs).mem_iff.mpr hx
    have hsorted := sortInts_sorted xs
    cases hxs : sortInts xs with
    | nil =>
      rw [hxs] at hx'
      cases hx'
    | cons first rest =>
      rw [hxs] at hlast hne hx' hsorted
      -- the first index is not its own position
      have hfirst : first ≠ 0 := by
        rcases List.mem_cons.mp hx' with rfl | hx'
        · exact hneg.ne
        · exact ((List.pairwise_cons.mp hsorted).1 x hx' |>.trans_lt hneg).ne
      rw [findAvailableIndex, List.length_cons, findAvailableIndexAux_succ _ 0 0 rfl hlast] at hne ⊢
      rw [Int.zero_add, if_pos hfirst] at hne ⊢
      split at hne
      · exact absurd rfl hne
      · next hnot => exact Or.inr (if_neg hnot)
  · refine Or.inl fun x hx => ?_
    have := (sortInts_getLast hlast).2 x hx
    omega

theorem addNewHostLoop_of_neg (hneg : ∃ x ∈ xs, x < 0)
    (h : addNewHostLoop maxHostIndex vlan block excludes fuel xs = some (.ok (podCIDR, idx))) :
    (∀ x ∈ xs, x < idx) ∨ idx = 0 := by
  induction fuel generalizing xs with
  | zero => cases h
  | succ fuel ih =>
    obtain ⟨i, hi, ⟨rfl, -⟩ | ⟨-, hrest⟩⟩ := addNewHostLoop_succ h
    · exact nextHostIndex_of_neg hneg hi
    · have hmem : ∀ x ∈ xs, x ∈ sortInts xs ++ [i] := fun x hx =>
        List.mem_append_left _ ((sortInts_perm xs).mem_iff.mpr hx)
      obtain ⟨x, hx, hneg⟩ := hneg
      exact (ih ⟨x, hmem x hx, hneg⟩ hrest).imp_left fun hall x hx => hall x (hmem x hx)

/-- With a usable index above those in use, the search comes out above them. -/
theorem addNewHostLoop_above {i : Int} (hi : i ≤ maxHostIndex) {pod : String}
    (husable : podOf vlan block excludes i = some pod) (habove : ∀ x ∈ xs, x < i)
    (h : addNewHostLoop maxHostIndex vlan block excludes fuel xs = some (.ok (podCIDR, idx))) :
    ∀ x ∈ xs, x < idx := by
  induction fuel generalizing xs with
  | zero => cases h
  | succ fuel ih =>
    obtain ⟨j, hj, hfound⟩ := addNewHostLoop_succ h
    rcases nextHostIndex_eq_ok hj with ⟨hnone, -⟩ | ⟨last, hlast, hlarge, -⟩ | ⟨last, hlast, rfl, -⟩
    · rw [sortInts_getLast_none hnone]
      exact nofun
    · have := habove last (sortInts_getLast hlast).1
      omega
    · obtain ⟨hlast, hle⟩ := sortInts_getLast hlast
      rcases hfound with ⟨rfl, -⟩ | ⟨hun, hrest⟩
      · exact fun x hx => Int.lt_add_one_of_le (hle x hx)
      · have hlt := habove last hlast
        have hne : last + 1 ≠ i := by
          rintro rfl
          rw [podOf_eq_none hun] at husable
          cases husable
        refine fun x hx => ih (fun y hy => ?_) hrest x
          (List.mem_append_left _ ((sortInts_perm xs).mem_iff.mpr hx))
        rcases List.mem_append.mp hy with hy | hy
        · exact habove y ((sortInts_perm xs).mem_iff.mp hy)
        · rw [List.mem_singleton.mp hy]
          omega

/-- **The index found is not in use exactly when the search is safe.** -/
theorem safeSearch_iff (hblock : 1 ≤ config.hostBlock)
    (hnodup : (entry.hosts.map (·.hostIndex)).Nodup)
    (hfound : searchIn fuel config entry entry.hosts = some (.ok (podCIDR, idx))) :
    SafeSearch config (seatsIn entry) ↔ idx ∉ entry.hosts.map (·.hostIndex) := by
  have hmax := powMinusOne_ne_zero hblock
  obtain ⟨hassigned, hfresh⟩ := addNewHost_spec hmax hfound
  rw [searchIn, addNewHost, if_neg hmax] at hfound
  have hseats : ∀ P : Int → Prop, (∀ o ∈ (seatsIn entry).hosts, P o.2) ↔
      ∀ x ∈ entry.hosts.map (·.hostIndex), P x := by
    intro P
    simp [seatsIn, networkOf]
  rw [SafeSearch, hseats (0 ≤ ·), hseats (· ≠ 0)]
  by_cases hneg : ∃ x ∈ entry.hosts.map (·.hostIndex), x < 0
  · constructor
    · rintro (hall | hzero | ⟨i, pod, habove, hpod⟩) hmem
      · obtain ⟨x, hx, hlt⟩ := hneg
        exact absurd (hall x hx) (Int.not_le.mpr hlt)
      · rcases addNewHostLoop_of_neg hneg hfound with hlt | rfl
        · exact (hlt idx hmem).false
        · exact hzero 0 hmem rfl
      · obtain ⟨r, hr, -⟩ := podOf_eq_some_iff.mp hpod
        exact (addNewHostLoop_above (computeNet_le hr) hpod ((hseats (· < i)).mp habove) hfound
          idx hmem).false
    · intro hnot
      rcases addNewHostLoop_of_neg hneg hfound with hlt | rfl
      · exact Or.inr (Or.inr ⟨idx, podCIDR, (hseats (· < idx)).mpr hlt,
          podOf_eq_some_iff.mpr hassigned⟩)
      · exact Or.inr (Or.inl fun x hx h0 => hnot (h0 ▸ hx))
  · push Not at hneg
    exact iff_of_true (Or.inl hneg) (hfresh ⟨hnodup, hneg⟩).1

end Search

/-! ## Turns that do not re-index -/

/-- A turn of the host on the network is to come. -/
def Comes (config : PluginConfig) (net hostName : String)
    (ts : List (String × InterfaceInfoType)) : Prop :=
  ∃ turn ∈ ts, isOn config net turn = true ∧ turn.1 = hostName

/-- The host is not given another index, and one for a new host is searched for safely. -/
def SafelySeated (config : PluginConfig) (network : Network (String × Int)) : Seating → Prop
  | .moved .. => False
  | .added .. => SafeSearch config network
  | _ => True

section Quiet

variable {hostName : String} {iface : InterfaceInfoType} {hosts : List HostInterfaceInfo}
  {effect : Effect}

/-- A host that is displaced and given another index is not seated safely. -/
theorem Displaced.not_safe {i : Nat} {idx : Int}
    (hdisp : Displaced config excludes hostName entry i host)
    (hfound : searchIn fuel config entry (shifted entry.hosts i) = some (.ok (podCIDR, idx))) :
    ¬ SafelySeated config (seatsIn entry)
      (seating fuel config excludes entry.vlanCIDR (occupants entry.hosts) hostName) := by
  rw [seating_moved hdisp hfound]
  exact id

variable (h : Turn fuel config excludes hostName iface entry hosts effect)
  (hsafe : SafelySeated config (seatsIn entry)
    (seating fuel config excludes entry.vlanCIDR (occupants entry.hosts) hostName))
include h hsafe

/-- Without a re-index what is distinct stays so, if the new record of a host that is not listed is. -/
theorem Turn.nodup_map {γ : Type} {f : HostInterfaceInfo → γ}
    (hrefresh : ∀ podCIDR host, f (refreshHost config iface podCIDR host) = f host)
    (hnew : ∀ podCIDR idx, hostName ∉ entry.hosts.map (·.hostName) →
      searchIn fuel config entry entry.hosts = some (.ok (podCIDR, idx)) →
      f (newHost config hostName iface podCIDR idx) ∉ entry.hosts.map f)
    (hnodup : (entry.hosts.map f).Nodup) : (hosts.map f).Nodup := by
  cases h with
  | add hnot hfound =>
    rw [((withHost_perm ..).map _).nodup_iff]
    exact List.nodup_cons.mpr ⟨hnew _ _ hnot hfound, hnodup⟩
  | full => exact hnodup
  | refresh hidx hhost ha =>
    rw [map_set_of_eq hhost (hrefresh _ _)]
    exact hnodup
  | move hdisp hfound => exact absurd hsafe (hdisp.not_safe hfound)
  | @lose i host e hdisp hfound => exact hnodup.sublist ((List.eraseIdx_sublist _ i).map _)

theorem Turn.nodup_names (hnames : (entry.hosts.map (·.hostName)).Nodup) :
    (hosts.map (·.hostName)).Nodup :=
  h.nodup_map hsafe (fun _ _ => rfl) (fun _ _ hnot _ => hnot) hnames

theorem Turn.nodup_indexes (hblock : 1 ≤ config.hostBlock)
    (hindexes : (entry.hosts.map (·.hostIndex)).Nodup) : (hosts.map (·.hostIndex)).Nodup := by
  refine h.nodup_map hsafe (fun _ _ => rfl) (fun podCIDR idx hnot hfound => ?_) hindexes
  rw [seating_added hnot hfound] at hsafe
  exact (safeSearch_iff hblock hindexes hfound).mp hsafe

/-- Without a re-index the host of the turn is left with a usable index or none. -/
theorem Turn.own_assigned (hblock : 1 ≤ config.hostBlock) (hex : excludes.Perm config.excludeCIDRs)
    (hnames : (entry.hosts.map (·.hostName)).Nodup) (hhost : host ∈ hosts)
    (hown : host.hostName = hostName) :
    ∃ podCIDR, Assigned entry.vlanCIDR config.hostBlock excludes host.hostIndex podCIDR := by
  have hunlisted : hostName ∉ entry.hosts.map (·.hostName) → host ∉ entry.hosts :=
    fun hnot hmem => hnot (hown ▸ List.mem_map_of_mem hmem)
  cases h with
  | @add podCIDR idx hnot hfound =>
    rcases List.mem_cons.mp ((withHost_perm ..).mem_iff.mp hhost) with rfl | hmem
    · exact ⟨podCIDR, (addNewHost_spec (powMinusOne_ne_zero hblock) hfound).1.perm hex⟩
    · exact absurd hmem (hunlisted hnot)
  | full hnot hfound => exact absurd hhost (hunlisted hnot)
  | @refresh i host' podCIDR hidx hhost' ha =>
    rcases List.mem_or_eq_of_mem_set hhost with hmem | rfl
    · have hname := hown.trans (getHostIndex_eq_some hidx hhost').symm
      rw [List.inj_on_of_nodup_map hnames hmem (List.mem_of_getElem? hhost') hname]
      exact ⟨podCIDR, ha⟩
    · exact ⟨podCIDR, ha⟩
  | move hdisp hfound => exact absurd hsafe (hdisp.not_safe hfound)
  | lose hdisp hfound =>
    exact absurd (hown ▸ List.mem_map_of_mem hhost) (hdisp.notMem_eraseIdx hnames)

end Quiet

/-! ## Sound entries -/

/-- The excludes cover the pod CIDR of the host. -/
def Excluded (config : PluginConfig) (excludes : List String) (entry : CIDREntry)
    (host : HostInterfaceInfo) : Prop :=
  checkIfTabuIndex entry.vlanCIDR host.hostIndex config.hostBlock excludes = some true

/-- No name and no index twice, and no host of the snapshot with an excluded pod CIDR. -/
structure SoundEntry (config : PluginConfig) (excludes : List String)
    (snapshot : GoMap String HostInterface) (entry : CIDREntry) : Prop where
  names : (entry.hosts.map (·.hostName)).Nodup
  indexes : (entry.hosts.map (·.hostIndex)).Nodup
  shown : ∀ host ∈ entry.hosts, snapshot.lookup host.hostName ≠ none →
    ¬ Excluded config excludes entry host

/-- The same, but the turns to come may still have to remove hosts with an excluded pod CIDR. -/
def SoundUntil (config : PluginConfig) (excludes : List String)
    (snapshot : GoMap String HostInterface) (m : GoMap String CIDREntry)
    (rest : List (String × InterfaceInfoType)) : Prop :=
  m.All fun net entry => (entry.hosts.map (·.hostName)).Nodup ∧
    (entry.hosts.map (·.hostIndex)).Nodup ∧
    ∀ host ∈ entry.hosts, snapshot.lookup host.hostName ≠ none →
      Excluded config excludes entry host → Comes config net host.hostName rest

/-- The host of the turn is seated safely, unless the turn is skipped. -/
def SafeTurn (fuel : Nat) (config : PluginConfig) (excludes : List String)
    (m : GoMap String (Network (String × Int))) (turn : String × InterfaceInfoType) : Prop :=
  ∀ network s, View.names.seatingAt fuel config excludes m turn = some (network, s) →
    SafelySeated config network s

section Sound

variable {rest : List (String × InterfaceInfoType)} {st st' : GoMap String CIDREntry × Bool}

theorem Comes.tail {name : String} (h : Comes config net name (turn :: rest))
    (hnot : ¬ (isOn config net turn = true ∧ turn.1 = name)) : Comes config net name rest := by
  obtain ⟨t, ht, hon, hname⟩ := h
  rcases List.mem_cons.mp ht with rfl | ht
  · exact absurd ⟨hon, hname⟩ hnot
  · exact ⟨t, ht, hon, hname⟩

theorem not_comes_nil {name : String} : ¬ Comes config net name [] := by
  rintro ⟨t, ht, -⟩
  exact List.not_mem_nil ht

/-- A turn that is skipped has no entry on its network. -/
theorem lookup_ne_of_skipped (hskip : ¬ Selected config turn.2 ∨
      getInterfaceEntry fuel config m turn.2.netAddress = some none)
    (hon : isOn config net turn = true) : m.lookup net ≠ some entry := by
  obtain ⟨hsel, rfl⟩ := isOn_iff.mp hon
  intro hl
  rcases hskip with hskip | hskip
  · exact hskip hsel
  · rw [getInterfaceEntry_of_lookup fuel config hl] at hskip
    cases hskip

theorem SafeTurn.seated (h : SafeTurn fuel config excludes (seatsOf m) turn)
    (hsel : Selected config turn.2)
    (hget : getInterfaceEntry fuel config m turn.2.netAddress = some (some entry)) :
    SafelySeated config (seatsIn entry)
      (seating fuel config excludes entry.vlanCIDR (occupants entry.hosts) turn.1) :=
  h _ _ (seatsOf_seatingAt hsel hget)

/-- A turn that seats its host safely keeps the entries sound. -/
theorem SoundUntil.turn_step (hblock : 1 ≤ config.hostBlock)
    (hex : excludes.Perm config.excludeCIDRs)
    (hsafe : SafeTurn fuel config excludes (seatsOf st.1) turn)
    (h : SoundUntil config excludes snapshot st.1 (turn :: rest))
    (hstep : placeTurn fuel config excludes st turn = some st') :
    SoundUntil config excludes snapshot st'.1 rest := by
  intro net e hl
  rcases placeTurn_eq_some.mp hstep with ⟨rfl, hskip⟩ |
    ⟨entry, hosts, effect, hsel, hget, hturn, rfl⟩
  · obtain ⟨hnames, hindexes, hpending⟩ := h net e hl
    refine ⟨hnames, hindexes, fun host hhost hshown hexcl => ?_⟩
    exact (hpending host hhost hshown hexcl).tail fun hon => lookup_ne_of_skipped hskip hon.1 hl
  rcases GoMap.lookup_insert_cases hl with ⟨rfl, rfl⟩ | ⟨hne, hl⟩
  · -- the entry of the turn
    have hentry : (entry.hosts.map (·.hostName)).Nodup ∧ (entry.hosts.map (·.hostIndex)).Nodup ∧
        ∀ host ∈ entry.hosts, snapshot.lookup host.hostName ≠ none →
          Excluded config excludes entry host →
          Comes config turn.2.netAddress host.hostName (turn :: rest) := by
      rcases getInterfaceEntry_cases hget with hl | ⟨-, -, hnil, -⟩
      · exact h _ _ hl
      · rw [hnil]
        exact ⟨List.nodup_nil, List.nodup_nil, nofun⟩
    obtain ⟨hnames, hindexes, hpending⟩ := hentry
    have hseated := hsafe.seated hsel hget
    refine ⟨hturn.nodup_names hseated hnames, hturn.nodup_indexes hseated hblock hindexes,
      fun host hhost hshown hexcl => ?_⟩
    by_cases hown : host.hostName = turn.1
    · obtain ⟨podCIDR, r, -, hfalse, -⟩ := hturn.own_assigned hseated hblock hex hnames hhost hown
      exact absurd (hfalse.symm.trans hexcl) (by simp)
    · have hmem := (hturn.mem_or_own hhost).resolve_right hown
      exact (hpending host hmem hshown hexcl).tail fun hon => hown hon.2.symm
  · obtain ⟨hnames, hindexes, hpending⟩ := h net e hl
    refine ⟨hnames, hindexes, fun host hhost hshown hexcl => ?_⟩
    exact (hpending host hhost hshown hexcl).tail fun hon => hne (isOn_iff.mp hon.1).2.symm

/-- When the turns are over, the entries are sound, also without the hosts found dead. -/
theorem SoundUntil.sound (h : SoundUntil config excludes snapshot m []) (died : List String) :
    (if 0 < died.length then m.mapValues (dropDied died) else m).All fun _ entry =>
      SoundEntry config excludes snapshot entry := by
  have hall : m.All fun _ entry => SoundEntry config excludes snapshot entry := by
    intro net entry hl
    obtain ⟨hnames, hindexes, hpending⟩ := h net entry hl
    exact ⟨hnames, hindexes, fun host hhost hshown hexcl =>
      not_comes_nil (hpending host hhost hshown hexcl)⟩
  intro net entry hl
  obtain ⟨before, kept, hl', hsub, rfl⟩ := lookup_before_dropDied hl
  have hbefore := hall net before hl'
  exact ⟨hbefore.names.sublist (hsub.map _), hbefore.indexes.sublist (hsub.map _),
    fun host hhost => hbefore.shown host (hsub.subset hhost)⟩

end Sound

/-! ## A re-index doubles a host -/

/-- The entry lists no name and no index twice. -/
def Distinct (entry : CIDREntry) : Prop :=
  (entry.hosts.map (·.hostName)).Nodup ∧ (entry.hosts.map (·.hostIndex)).Nodup

/-- Some entry lists a name or an index twice. -/
def Doubled (m : GoMap String CIDREntry) : Prop :=
  ∃ net entry, m.lookup net = some entry ∧ ¬ Distinct entry

section Doubled

variable {st st' : GoMap String CIDREntry × Bool}

/-- What a turn does to an entry of the map. -/
theorem placeTurn_entry (hstep : placeTurn fuel config excludes st turn = some st')
    (hl : st.1.lookup net = some entry) :
    (isOn config net turn = false ∧ st'.1.lookup net = some entry) ∨
      ∃ hosts effect, isOn config net turn = true ∧
        Turn fuel config excludes turn.1 turn.2 entry hosts effect ∧
        st'.1.lookup net = some { entry with hosts } := by
  cases hon : isOn config net turn with
  | false =>
    rw [placeTurn_other hstep hon]
    exact Or.inl ⟨rfl, hl⟩
  | true =>
    obtain ⟨entry', hplace, hl'⟩ := placeTurn_own hstep hon hl
    obtain ⟨hosts, effect, rfl, hturn⟩ := placeIn_eq_some.mp hplace
    exact Or.inr ⟨hosts, effect, rfl, hturn, hl'⟩

/-- A host that is given another index is listed twice, or the last host is. -/
theorem Displaced.not_nodup {i : Nat} {idx : Int}
    (hdisp : Displaced config excludes turn.1 entry i host) :
    ¬ ((withHost config turn.1 turn.2 podCIDR idx (shifted entry.hosts i)).map (·.hostName)).Nodup := by
  obtain ⟨last, hlast⟩ := exists_getLast hdisp.lt
  rw [((withHost_perm ..).map _).nodup_iff, shifted_eq_last hdisp.lt hlast]
  intro hnodup
  obtain ⟨hnew, hold⟩ := List.nodup_cons.mp hnodup
  by_cases hown : last.hostName = turn.1
  · -- the old record of the host is the last one, and stays
    refine hnew (List.mem_map.mpr ⟨last, List.mem_append_right _ (List.mem_singleton_self _), ?_⟩)
    exact hown
  · -- the last record stands twice
    have hne : last ≠ host := by
      rintro rfl
      exact hown hdisp.hostName_eq
    rw [List.map_append, List.nodup_append] at hold
    exact hold.2.2 _ (List.mem_map_of_mem (hdisp.mem_eraseIdx (List.mem_of_getLast? hlast) hne)) _
      (List.mem_map_of_mem (List.mem_singleton_self last)) rfl

/-- A turn from distinct names and indexes seats its host safely and keeps them distinct, or doubles
one. -/
theorem turn_safe_or_doubled (hblock : 1 ≤ config.hostBlock)
    (h : st.1.All fun _ entry => Distinct entry)
    (hstep : placeTurn fuel config excludes st turn = some st') :
    (SafeTurn fuel config excludes (seatsOf st.1) turn ∧
        st'.1.All fun _ entry => Distinct entry) ∨ Doubled st'.1 := by
  rcases placeTurn_eq_some.mp hstep with ⟨rfl, hskip⟩ |
    ⟨entry, hosts, effect, hsel, hget, hturn, rfl⟩
  · refine Or.inl ⟨fun network s hfound => ?_, h⟩
    rw [seatsOf_skipped hskip] at hfound
    cases hfound
  have hentry : Distinct entry := by
    rcases getInterfaceEntry_cases hget with hl | ⟨-, -, hnil, -⟩
    · exact h _ _ hl
    · rw [Distinct, hnil]
      exact ⟨List.nodup_nil, List.nodup_nil⟩
  by_cases hseated : SafelySeated config (seatsIn entry)
      (seating fuel config excludes entry.vlanCIDR (occupants entry.hosts) turn.1)
  · refine Or.inl ⟨fun network s hfound => ?_, h.insert ?_⟩
    · rw [seatsOf_seatingAt hsel hget] at hfound
      cases hfound
      exact hseated
    · exact ⟨hturn.nodup_names hseated hentry.1, hturn.nodup_indexes hseated hblock hentry.2⟩
  · -- a search that is not safe, or a re-index
    refine Or.inr ⟨_, _, AList.lookup_insert _, fun hnodup => hseated ?_⟩
    cases hturn with
    | @add podCIDR idx hnot hfound =>
      rw [seating_added hnot hfound]
      refine (safeSearch_iff hblock hentry.2 hfound).mpr ?_
      exact (List.nodup_cons.mp (((withHost_perm ..).map _).nodup_iff.mp hnodup.2)).1
    | full hnot hfound =>
      rw [seating_refused hnot hfound]
      trivial
    | refresh hidx hhost ha =>
      rw [seating_keeps hidx hhost ha]
      trivial
    | move hdisp hfound => exact absurd hnodup.1 hdisp.not_nodup
    | lose hdisp hfound =>
      rw [seating_removed hdisp hfound]
      trivial

end Doubled

/-! ## The whole pass -/

/-- Per entry the names and the indexes are distinct, and each pod CIDR is the one computed from
the VLAN CIDR, the index and the host block. -/
structure ComputedSpec (spec : CIDRSpec) : Prop where
  names : ∀ entry ∈ spec.cidrs, (entry.hosts.map (·.hostName)).Nodup
  indexes : ∀ entry ∈ spec.cidrs, (entry.hosts.map (·.hostIndex)).Nodup
  pods : ∀ entry ∈ spec.cidrs, ∀ host ∈ entry.hosts, ∃ r,
    computeNet entry.vlanCIDR host.hostIndex spec.config.hostBlock = some (.ok r) ∧
      getCIDRFromByte r entry.vlanCIDR spec.config.hostBlock = some host.podCIDR

/-- No host is given another index, and none that would need one is passed over. -/
structure NoReindexing (fuel : Nat) (spec : CIDRSpec) (excludes : List IPValue) (changed : Bool)
    (snapshot : GoMap String HostInterface) (nodes : Nat → NodeLookup) : Prop where
  /-- The hosts of the snapshot with an excluded pod CIDR are on selected networks. -/
  selected : (filterEntries snapshot nodes changed spec.cidrs).entriesMap.All fun net entry =>
    ∀ host ∈ entry.hosts, snapshot.lookup host.hostName ≠ none →
      Excluded spec.config (excludes.map (·.address)) entry host →
      Comes spec.config net host.hostName (turns snapshot.values)
  /-- Whenever the index of a host is unusable, no other is left for it, and a new host is given
  none that is in use, by the names and indexes followed through the turns. -/
  kept : Throughout
    (fun m turn => some (View.names.turn fuel spec.config (excludes.map (·.address)) m turn))
    (SafeTurn fuel spec.config (excludes.map (·.address)))
    (seatsOf (filterEntries snapshot nodes changed spec.cidrs).entriesMap) (turns snapshot.values)

section Pass

variable {spec : CIDRSpec} {excludes : List IPValue} {changed changed' : Bool}
  {nodes : Nat → NodeLookup}

/-- A record that no turn touches is there at the end. -/
theorem mem_updateEntries_of_not_comes
    (h : updateEntries fuel spec excludes changed snapshot nodes = some (m, changed'))
    (hl : (filterEntries snapshot nodes changed spec.cidrs).entriesMap.lookup net = some entry)
    (hhost : host ∈ entry.hosts) (hpresent : snapshot.lookup host.hostName ≠ none)
    (hnot : ¬ Comes spec.config net host.hostName (turns snapshot.values)) :
    ∃ hosts, m.lookup net = some { entry with hosts } ∧ host ∈ hosts := by
  obtain ⟨m₁, hloop, rfl⟩ := updateEntries_eq_some.mp h
  obtain ⟨entry₁, hrun, hl₁⟩ := placeTurns_lookup hloop hl
  have hkept : ∃ hosts, entry₁ = { entry with hosts } ∧ host ∈ hosts := by
    refine foldlM_invariant (P := fun e : CIDREntry => ∃ hosts, e = { entry with hosts } ∧
      host ∈ hosts) ?_ ⟨entry.hosts, rfl, hhost⟩ hrun
    rintro _ e' turn hturn ⟨hosts, rfl, hmem⟩ hstep
    obtain ⟨hosts', effect, rfl, hturn'⟩ := placeIn_eq_some.mp hstep
    refine ⟨hosts', rfl, hturn'.mem_of_other hmem fun hown => hnot ?_⟩
    obtain ⟨hturn, hon⟩ := List.mem_filter.mp hturn
    exact ⟨turn, hturn, hon, hown.symm⟩
  obtain ⟨hosts, rfl, hmem⟩ := hkept
  have hdied := (filterEntries_spec snapshot nodes changed spec.cidrs).2
  obtain ⟨kept, hl', hkept⟩ := mem_after_dropDied hl₁ hmem fun hmem => hpresent (hdied _ hmem)
  exact ⟨kept, hl', hkept⟩

/-- **Re-indexing is sound where there is none.** The entries returned have distinct names and
indexes and no host of the snapshot with an excluded pod CIDR, if no host is given another index, the
hosts that need one are on selected networks, and no search comes out at an index in use. If not, some
turn leaves a name or an index twice, or the entries returned are not sound. -/
theorem reindexing_sound (hspec : ComputedSpec spec) (hblock : 1 ≤ spec.config.hostBlock)
    (hex : (excludes.map (·.address)).Perm spec.config.excludeCIDRs)
    (h : updateEntries fuel spec excludes changed snapshot nodes = some (m, changed')) :
    (NoReindexing fuel spec excludes changed snapshot nodes →
      m.All fun _ entry => SoundEntry spec.config (excludes.map (·.address)) snapshot entry) ∧
    (¬ NoReindexing fuel spec excludes changed snapshot nodes →
      (∃ before after st, turns snapshot.values = before ++ after ∧
        before.foldlM (placeTurn fuel spec.config (excludes.map (·.address)))
          ((filterEntries snapshot nodes changed spec.cidrs).entriesMap,
            (filterEntries snapshot nodes changed spec.cidrs).changed) = some st ∧
        Doubled st.1) ∨
      ¬ m.All fun _ entry =>
        SoundEntry spec.config (excludes.map (·.address)) snapshot entry) := by
  obtain ⟨hfilter, -⟩ := filterEntries_spec snapshot nodes changed spec.cidrs
  obtain ⟨m₁, hloop, hm⟩ := updateEntries_eq_some.mp h
  have hkept := throughout_image (P := SafeTurn fuel spec.config (excludes.map (·.address)))
    (fun st : GoMap String CIDREntry × Bool => seatsOf st.1)
    (fun _ _ _ hstep => placeTurn_view (View.shows_names spec.config) hstep) hloop
  have hnodup : (filterEntries snapshot nodes changed spec.cidrs).entriesMap.All fun _ entry =>
      Distinct entry := by
    intro net e hl
    obtain ⟨entry, hentry, -, kept, hsub, rfl⟩ := hfilter net e hl
    exact ⟨(hspec.names entry hentry).sublist (hsub.map _),
      (hspec.indexes entry hentry).sublist (hsub.map _)⟩
  constructor
  · intro hno
    have hstart : SoundUntil spec.config (excludes.map (·.address)) snapshot
        (filterEntries snapshot nodes changed spec.cidrs).entriesMap (turns snapshot.values) :=
      fun net e hl => ⟨(hnodup net e hl).1, (hnodup net e hl).2, hno.selected net e hl⟩
    rw [hm]
    refine SoundUntil.sound ?_ _
    exact foldlM_throughout (P := fun st rest =>
      SoundUntil spec.config (excludes.map (·.address)) snapshot st.1 rest)
      (fun _ _ _ _ hgood hs hstep => hs.turn_step hblock hex hgood hstep) (hkept.mp hno.kept) hstart
      hloop
  · intro hnot
    have hcases : Throughout (placeTurn fuel spec.config (excludes.map (·.address)))
        (fun st turn => SafeTurn fuel spec.config (excludes.map (·.address)) (seatsOf st.1) turn) _ _ ∨
        _ := throughout_or_met
      (fun st : GoMap String CIDREntry × Bool => st.1.All fun _ entry => Distinct entry)
      (fun st => Doubled st.1) (fun _ _ _ hs hstep => turn_safe_or_doubled hblock hs hstep) hnodup hloop
    rcases hcases with hsafe | hmet
    · -- a host that no turn touches keeps its excluded pod CIDR
      refine Or.inr fun hsound => hnot ⟨fun net entry hl host hhost hpresent hexcl => ?_,
        hkept.mpr hsafe⟩
      by_contra hcomes
      obtain ⟨hosts, hl', hmem⟩ := mem_updateEntries_of_not_comes h hl hhost hpresent hcomes
      exact (hsound net _ hl').shown host hmem hpresent hexcl
    · exact Or.inl hmet

end Pass

/-- Hosts `a` and `b` on a network of four blocks, with the excludes of the definition. -/
def listedPair (excludeCIDRs : List String) : CIDRSpec where
  config :=
    { name := "net", subnet := "", masterNetAddrs := [], hostBlock := 2, interfaceBlock := 0,
      excludeCIDRs, vlanMode := "" }
  cidrs := [⟨"10.0.1.0/24", 0, "10.0.1.0/24",
    [⟨0, "a", "eth1", "10.0.1.1", "10.0.1.0/26", "net-10.0.1.0-26"⟩,
      ⟨1, "b", "eth1", "10.0.1.2", "10.0.1.64/26", "net-10.0.1.64-26"⟩]⟩]

/-- Host `a` in the snapshot. -/
def shownFirst : GoMap String HostInterface :=
  AList.singleton "a" ⟨"a", [⟨"eth1", "10.0.1.0/24", "10.0.1.1"⟩]⟩

/-- The one turn of the second loop. -/
def firstTurn : String × InterfaceInfoType := ("a", ⟨"eth1", "10.0.1.0/24", "10.0.1.1"⟩)

theorem turns_shownFirst : turns shownFirst.values = [firstTurn] := rfl

theorem computedSpec_listedPair (excludeCIDRs : List String) :
    ComputedSpec (listedPair excludeCIDRs) where
  names entry h := by
    rw [List.mem_singleton.mp h]
    decide
  indexes entry h := by
    rw [List.mem_singleton.mp h]
    decide
  pods entry h host hhost := by
    rw [List.mem_singleton.mp h] at hhost ⊢
    rcases List.mem_cons.mp hhost with rfl | hhost
    · have ha : computeNet "10.0.1.0/24" 0 2 = some (.ok ⟨10, 0, 1, 0⟩) ∧
          getCIDRFromByte ⟨10, 0, 1, 0⟩ "10.0.1.0/24" 2 = some "10.0.1.0/26" := by decide +kernel
      exact ⟨_, ha⟩
    · have hb : computeNet "10.0.1.0/24" 1 2 = some (.ok ⟨10, 0, 1, 64⟩) ∧
          getCIDRFromByte ⟨10, 0, 1, 64⟩ "10.0.1.0/24" 2 = some "10.0.1.64/26" := by decide +kernel
      rw [List.mem_singleton.mp hhost]
      exact ⟨_, hb⟩

theorem byHostName_shownFirst : ByHostName shownFirst :=
  GoMap.All.singleton rfl

/-- An exclude that covers no listed host: the entries stay sound. -/
theorem reindexing_sound_uncovered : ∃ m changed,
    updateEntries 3 (listedPair ["10.0.1.192/26"]) (sortAddress ["10.0.1.192/26"]) false shownFirst
      (fun _ => .found false) = some (m, changed) ∧
    m.All fun _ entry =>
      SoundEntry (listedPair ["10.0.1.192/26"]).config
        ((sortAddress ["10.0.1.192/26"]).map (·.address)) shownFirst entry := by
  have hrun : (updateEntries 3 (listedPair ["10.0.1.192/26"]) (sortAddress ["10.0.1.192/26"]) false
      shownFirst (fun _ => .found false)).isSome = true := by decide +kernel
  obtain ⟨⟨m, changed⟩, hm⟩ := Option.isSome_iff_exists.mp hrun
  have hentries : (filterEntries shownFirst (fun _ => .found false) false
      (listedPair ["10.0.1.192/26"]).cidrs).entriesMap.entries =
      (listedPair ["10.0.1.192/26"]).cidrs.map fun entry => ⟨entry.netAddress, entry⟩ := by
    decide +kernel
  refine ⟨m, changed, hm, (reindexing_sound (computedSpec_listedPair _) (by decide)
    (sortAddress_perm _) hm).1 ⟨?_, ?_⟩⟩
  · -- host `a` keeps its index, and host `b` is not in the snapshot
    intro net entry hl host hhost _ hexcl
    have hmem := AList.mem_lookup_iff.mp hl
    rw [hentries] at hmem
    cases List.mem_singleton.mp hmem
    rw [turns_shownFirst]
    rcases List.mem_cons.mp hhost with rfl | hhost
    · exact ⟨_, List.mem_singleton_self _, by decide, rfl⟩
    · rw [List.mem_singleton.mp hhost, Excluded] at hexcl
      exact absurd hexcl (by decide +kernel)
  · rw [turns_shownFirst]
    refine ⟨fun network s hfound => ?_, fun _ _ => trivial⟩
    have hkeeps : (View.names.seatingAt 3 (listedPair ["10.0.1.192/26"]).config
        ((sortAddress ["10.0.1.192/26"]).map (·.address))
        (seatsOf (filterEntries shownFirst (fun _ => .found false) false
          (listedPair ["10.0.1.192/26"]).cidrs).entriesMap) firstTurn).map (·.2) =
          some (.keeps 0 "10.0.1.0/26") := by
      decide +kernel
    obtain rfl : s = .keeps 0 "10.0.1.0/26" :=
      Option.some.inj ((congrArg (Option.map Prod.snd) hfound).symm.trans hkeeps)
    trivial

/-- An exclude that covers host `a`: it is moved to the third block, and host `b` is listed twice,
with the same index. -/
theorem last_host_doubled : ComputedSpec (listedPair ["10.0.1.0/26"]) ∧ ByHostName shownFirst ∧
    ∃ m changed entry,
      updateEntries 3 (listedPair ["10.0.1.0/26"]) (sortAddress ["10.0.1.0/26"]) false shownFirst
        (fun _ => .found false) = some (m, changed) ∧
      m.lookup "10.0.1.0/24" = some entry ∧
      entry.hosts.map (fun host => (host.hostName, host.hostIndex)) = [("b", 1), ("b", 1), ("a", 2)] ∧
      ¬ m.All fun _ entry => SoundEntry (listedPair ["10.0.1.0/26"]).config
        ((sortAddress ["10.0.1.0/26"]).map (·.address)) shownFirst entry := by
  have hrun : (updateEntries 3 (listedPair ["10.0.1.0/26"]) (sortAddress ["10.0.1.0/26"]) false
      shownFirst (fun _ => .found false)).map (fun r => (r.1.lookup "10.0.1.0/24").map fun entry =>
        entry.hosts.map fun host => (host.hostName, host.hostIndex)) =
      some (some [("b", 1), ("b", 1), ("a", 2)]) := by decide +kernel
  obtain ⟨⟨m, changed⟩, hm, hlookup⟩ := Option.map_eq_some_iff.mp hrun
  obtain ⟨entry, hl, hhosts⟩ := Option.map_eq_some_iff.mp hlookup
  refine ⟨computedSpec_listedPair _, byHostName_shownFirst, m, changed, entry, hm, hl, hhosts,
    fun hall => ?_⟩
  have hnames := congrArg (List.map Prod.fst) hhosts
  rw [List.map_map] at hnames
  have hnodup := (hall _ entry hl).names
  rw [show entry.hosts.map (·.hostName) = ["b", "b", "a"] from hnames] at hnodup
  exact absurd hnodup (by decide)

end MultiNicCni.Controller
