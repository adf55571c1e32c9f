import MultiNicCni.Controller.Turns

/-!
# Who is given which index

What becomes of a host at its turn of the second loop depends on the names and the indexes of the
hosts on its network, and not on the rest of their records. So the loop can be followed on records
that show no more than is wanted.

- `seating`: what becomes of a host, by the names and indexes on its network;
- `View`: records that show a part of the real ones; `View.turn` is a turn on such records;
- `placeTurn_view`: **seen through a view, a turn of the second loop is the turn of the view**.
-/

namespace MultiNicCni.Controller

open Go Compute Lib

variable {excludes : List String} {host : HostInterfaceInfo} {hosts : List HostInterfaceInfo}
  {config : PluginConfig}

/-! ## Names and indexes -/

/-- The name and the index of every record. -/
def occupants (hosts : List HostInterfaceInfo) : List (String × Int) :=
  hosts.map fun host => (host.hostName, host.hostIndex)

/-- The pod CIDR of an index, if it has one that is not excluded. -/
def podOf (vlan : String) (block : Int) (excludes : List String) (idx : Int) : Option String :=
  match computeNet vlan idx block with
  | some (.ok r) =>
    if checkIfTabuIndex vlan idx block excludes = some false then getCIDRFromByte r vlan block
    else none
  | _ => none

/-- The search for an index beside those in use. -/
def searchIndex (fuel : Nat) (config : PluginConfig) (vlan : String) (indexes : List Int) :
    Option (Except HandlerError (String × Int)) :=
  if powMinusOne config.hostBlock = 0 then some (.ok (vlan, 0))
  else addNewHostLoop (powMinusOne config.hostBlock) vlan config.hostBlock config.excludeCIDRs fuel
    indexes

/-- What becomes of the host of a turn. -/
inductive Seating where
  /-- It is listed at this position, and its index has this pod CIDR. -/
  | keeps (i : Nat) (podCIDR : String)
  /-- It is not listed, and is given an index with its pod CIDR. -/
  | added (podCIDR : String) (idx : Int)
  /-- It is not listed, and no index is found for it. -/
  | refused
  /-- It is listed at this position with an unusable index, and is given another. -/
  | moved (i : Nat) (podCIDR : String) (idx : Int)
  /-- It is listed at this position with an unusable index, and no other is found for it. -/
  | removed (i : Nat)
  deriving DecidableEq, Repr

/-- No index is found. -/
def Seating.fails : Seating → Bool
  | .refused => true
  | .removed _ => true
  | _ => false

/-- What becomes of a host in a network with these names and indexes. -/
def seating (fuel : Nat) (config : PluginConfig) (excludes : List String) (vlan : String)
    (occ : List (String × Int)) (name : String) : Seating :=
  match occ.findIdx? (·.1 == name) with
  | none =>
    match searchIndex fuel config vlan (occ.map (·.2)) with
    | some (.ok (podCIDR, idx)) => .added podCIDR idx
    | _ => .refused
  | some i =>
    match occ[i]?.bind fun o => podOf vlan config.hostBlock excludes o.2 with
    | some podCIDR => .keeps i podCIDR
    | none =>
      match searchIndex fuel config vlan ((shifted occ i).map (·.2)) with
      | some (.ok (podCIDR, idx)) => .moved i podCIDR idx
      | _ => .removed i

theorem podOf_eq_some_iff {vlan : String} {block : Int} {idx : Int} {podCIDR : String} :
    podOf vlan block excludes idx = some podCIDR ↔ Assigned vlan block excludes idx podCIDR := by
  unfold podOf
  constructor
  · intro h
    split at h
    · next r hr =>
      split at h
      · next htabu => exact ⟨r, hr, htabu, h⟩
      · cases h
    · cases h
  · rintro ⟨r, hr, htabu, hpod⟩
    rw [hr]
    dsimp only
    rw [if_pos htabu, hpod]

theorem podOf_eq_none {vlan : String} {block : Int} {idx : Int}
    (h : Unusable vlan block excludes idx) : podOf vlan block excludes idx = none :=
  Option.eq_none_iff_forall_ne_some.mpr fun _ hpod =>
    (podOf_eq_some_iff.mp hpod).not_unusable h

theorem searchIn_eq (fuel : Nat) (config : PluginConfig) (entry : CIDREntry)
    (hosts : List HostInterfaceInfo) :
    searchIn fuel config entry hosts =
      searchIndex fuel config entry.vlanCIDR ((occupants hosts).map (·.2)) := by
  rw [occupants, List.map_map]
  rfl

theorem findIdx_occupants (hosts : List HostInterfaceInfo) (name : String) :
    (occupants hosts).findIdx? (·.1 == name) = getHostIndex hosts name := by
  rw [occupants, List.findIdx?_map]
  rfl

theorem getElem_occupants {i : Nat} (h : hosts[i]? = some host) :
    (occupants hosts)[i]? = some (host.hostName, host.hostIndex) := by
  rw [occupants, List.getElem?_map, h]
  rfl

section Seating

variable {fuel : Nat} {hostName : String} {entry : CIDREntry} {i : Nat} {podCIDR : String}
  {idx : Int} {e : HandlerError}

theorem seating_added (hnot : hostName ∉ entry.hosts.map (·.hostName))
    (hfound : searchIn fuel config entry entry.hosts = some (.ok (podCIDR, idx))) :
    seating fuel config excludes entry.vlanCIDR (occupants entry.hosts) hostName =
      .added podCIDR idx := by
  rw [searchIn_eq] at hfound
  rw [seating, findIdx_occupants, getHostIndex_eq_none.mpr hnot]
  dsimp only
  rw [hfound]

theorem seating_refused (hnot : hostName ∉ entry.hosts.map (·.hostName))
    (hfound : searchIn fuel config entry entry.hosts = some (.error e)) :
    seating fuel config excludes entry.vlanCIDR (occupants entry.hosts) hostName = .refused := by
  rw [searchIn_eq] at hfound
  rw [seating, findIdx_occupants, getHostIndex_eq_none.mpr hnot]
  dsimp only
  rw [hfound]

theorem seating_keeps (hidx : getHostIndex entry.hosts hostName = some i)
    (hhost : entry.hosts[i]? = some host)
    (ha : Assigned entry.vlanCIDR config.hostBlock excludes host.hostIndex podCIDR) :
    seating fuel config excludes entry.vlanCIDR (occupants entry.hosts) hostName =
      .keeps i podCIDR := by
  rw [seating, findIdx_occupants, hidx]
  dsimp only
  rw [getElem_occupants hhost, Option.bind_some, podOf_eq_some_iff.mpr ha]

theorem Displaced.seating_eq (hdisp : Displaced config excludes hostName entry i host) :
    (occupants entry.hosts).findIdx? (·.1 == hostName) = some i ∧
      ((occupants entry.hosts)[i]?.bind fun o =>
        podOf entry.vlanCIDR config.hostBlock excludes o.2) = none := by
  rw [findIdx_occupants, hdisp.position, getElem_occupants hdisp.record, Option.bind_some]
  exact ⟨rfl, podOf_eq_none hdisp.unusable⟩

theorem searchIn_shifted (fuel : Nat) (config : PluginConfig) (entry : CIDREntry) (i : Nat) :
    searchIn fuel config entry (shifted entry.hosts i) =
      searchIndex fuel config entry.vlanCIDR ((shifted (occupants entry.hosts) i).map (·.2)) := by
  rw [searchIn_eq, occupants, occupants, map_shifted]

theorem seating_moved (hdisp : Displaced config excludes hostName entry i host)
    (hfound : searchIn fuel config entry (shifted entry.hosts i) = some (.ok (podCIDR, idx))) :
    seating fuel config excludes entry.vlanCIDR (occupants entry.hosts) hostName =
      .moved i podCIDR idx := by
  rw [searchIn_shifted] at hfound
  rw [seating, hdisp.seating_eq.1]
  dsimp only
  rw [hdisp.seating_eq.2]
  dsimp only
  rw [hfound]

theorem seating_removed (hdisp : Displaced config excludes hostName entry i host)
    (hfound : searchIn fuel config entry (shifted entry.hosts i) = some (.error e)) :
    seating fuel config excludes entry.vlanCIDR (occupants entry.hosts) hostName = .removed i := by
  rw [searchIn_shifted] at hfound
  rw [seating, hdisp.seating_eq.1]
  dsimp only
  rw [hdisp.seating_eq.2]
  dsimp only
  rw [hfound]

end Seating

/-! ## Views -/

/-- Records that show the name and the index of a host, and what else is wanted. -/
structure View (α : Type) where
  seat : α → String × Int
  /-- the record of a host with a pod CIDR and an index -/
  new : String → String → Int → α
  /-- the record with a pod CIDR brought up to date -/
  refresh : String → α → α

/-- A network with the records of its hosts. -/
structure Network (α : Type) where
  interfaceIndex : Int
  vlanCIDR : String
  hosts : List α
  deriving DecidableEq, Repr

/-- An entry with its records seen through `see`. -/
def networkOf {α : Type} (see : HostInterfaceInfo → α) (entry : CIDREntry) : Network α :=
  ⟨entry.interfaceIndex, entry.vlanCIDR, entry.hosts.map see⟩

/-- The names and indexes of an entry. -/
def seatsIn (entry : CIDREntry) : Network (String × Int) :=
  networkOf (fun host => (host.hostName, host.hostIndex)) entry

/-- The names and indexes of the entries. -/
def seatsOf (m : GoMap String CIDREntry) : GoMap String (Network (String × Int)) :=
  m.mapValues seatsIn

section View

variable {α : Type} (v : View α)

/-- The records after what becomes of the host. -/
def Seating.apply (name : String) : Seating → List α → List α
  | .keeps i podCIDR, records => records.modify i (v.refresh podCIDR)
  | .added podCIDR idx, records =>
    sortStable (fun r => (v.seat r).2) (records ++ [v.new name podCIDR idx])
  | .refused, records => records
  | .moved i podCIDR idx, records =>
    sortStable (fun r => (v.seat r).2) (shifted records i ++ [v.new name podCIDR idx])
  | .removed i, records => records.eraseIdx i

/-- The network of an address, made anew if there is none. -/
def networkAt (fuel : Nat) (config : PluginConfig) (m : GoMap String (Network α)) (net : String) :
    Option (Network α) :=
  match m.lookup net with
  | some network => some network
  | none =>
    if config.subnet = "" then some ⟨m.entries.length, net, []⟩
    else
      match interfaceIndexLoop config (powMinusOne config.interfaceBlock) fuel
          (m.values.map (·.interfaceIndex)) with
      | some (some (masterIndex, vlanCIDR)) => some ⟨masterIndex, vlanCIDR, []⟩
      | _ => none

/-- What becomes of the host of a turn, in which network; `none` if the turn is skipped. -/
def View.seatingAt (fuel : Nat) (config : PluginConfig) (excludes : List String)
    (m : GoMap String (Network α)) (turn : String × InterfaceInfoType) :
    Option (Network α × Seating) :=
  if Selected config turn.2 then
    (networkAt fuel config m turn.2.netAddress).map fun network =>
      (network, seating fuel config excludes network.vlanCIDR (network.hosts.map v.seat) turn.1)
  else none

/-- A turn on such records. -/
def View.turn (fuel : Nat) (config : PluginConfig) (excludes : List String)
    (m : GoMap String (Network α)) (turn : String × InterfaceInfoType) :
    GoMap String (Network α) :=
  match v.seatingAt fuel config excludes m turn with
  | none => m
  | some (network, s) =>
    m.insert turn.2.netAddress { network with hosts := s.apply v turn.1 network.hosts }

/-- The records of the view are the real ones seen through `see`. -/
structure View.Shows (config : PluginConfig) (see : HostInterfaceInfo → α) : Prop where
  seat : ∀ host, v.seat (see host) = (host.hostName, host.hostIndex)
  new : ∀ name iface podCIDR idx,
    see (newHost config name iface podCIDR idx) = v.new name podCIDR idx
  refresh : ∀ iface podCIDR host,
    see (refreshHost config iface podCIDR host) = v.refresh podCIDR (see host)

/-- Names and indexes. -/
def View.names : View (String × Int) where
  seat := id
  new name _ idx := (name, idx)
  refresh _ o := o

theorem View.shows_names (config : PluginConfig) :
    View.names.Shows config fun host => (host.hostName, host.hostIndex) where
  seat _ := rfl
  new _ _ _ _ := rfl
  refresh _ _ _ := rfl

variable {v} {fuel : Nat} {see : HostInterfaceInfo → α} {m : GoMap String CIDREntry}
  {entry : CIDREntry} {turn : String × InterfaceInfoType} {effect : Effect}

theorem View.Shows.occupants_eq (hv : v.Shows config see) (hosts : List HostInterfaceInfo) :
    (hosts.map see).map v.seat = occupants hosts := by
  rw [List.map_map, occupants]
  exact List.map_congr_left fun host _ => hv.seat host

theorem View.Shows.map_withHost (hv : v.Shows config see) (name : String)
    (iface : InterfaceInfoType) (podCIDR : String) (idx : Int) (hosts : List HostInterfaceInfo) :
    (withHost config name iface podCIDR idx hosts).map see =
      sortStable (fun r => (v.seat r).2) (hosts.map see ++ [v.new name podCIDR idx]) := by
  have hsort : ∀ l, (sortStable HostInterfaceInfo.hostIndex l).map see =
      sortStable (fun r => (v.seat r).2) (l.map see) :=
    map_sortStable see fun host => congrArg Prod.snd (hv.seat host)
  rw [withHost, hsort, List.map_append, List.map_singleton, hv.new]

/-- The records after a turn. -/
theorem Turn.map_see (hv : v.Shows config see)
    (h : Turn fuel config excludes turn.1 turn.2 entry hosts effect) :
    hosts.map see = (seating fuel config excludes entry.vlanCIDR (occupants entry.hosts)
      turn.1).apply v turn.1 (entry.hosts.map see) := by
  cases h with
  | add hnot hfound =>
    rw [seating_added hnot hfound, hv.map_withHost]
    rfl
  | full hnot hfound =>
    rw [seating_refused hnot hfound]
    rfl
  | @refresh i host podCIDR hidx hhost ha =>
    obtain ⟨hi, rfl⟩ := List.getElem?_eq_some_iff.mp hhost
    rw [seating_keeps hidx hhost ha, Seating.apply, List.modify_eq_set_getElem?, List.getElem?_map,
      hhost, List.map_set, hv.refresh]
    rfl
  | move hdisp hfound =>
    rw [seating_moved hdisp hfound, hv.map_withHost, map_shifted]
    rfl
  | lose hdisp hfound =>
    rw [seating_removed hdisp hfound, ← List.eraseIdx_map]
    rfl

/-- The flag is lost where no index is found. -/
theorem Turn.forget_iff (h : Turn fuel config excludes turn.1 turn.2 entry hosts effect) :
    effect = .forget ↔ (seating fuel config excludes entry.vlanCIDR (occupants entry.hosts)
      turn.1).fails = true := by
  cases h with
  | add hnot hfound => simp [seating_added hnot hfound, Seating.fails]
  | full hnot hfound => simp [seating_refused hnot hfound, Seating.fails]
  | refresh hidx hhost ha =>
    rw [seating_keeps hidx hhost ha]
    split <;> simp [Seating.fails]
  | move hdisp hfound => simp [seating_moved hdisp hfound, Seating.fails]
  | lose hdisp hfound => simp [seating_removed hdisp hfound, Seating.fails]

theorem networkAt_view {net : String} {found : Option CIDREntry}
    (h : getInterfaceEntry fuel config m net = some found) :
    networkAt fuel config (m.mapValues (networkOf see)) net = found.map (networkOf see) := by
  rw [getInterfaceEntry] at h
  rw [networkAt, GoMap.lookup_mapValues]
  cases hl : m.lookup net with
  | some entry =>
    rw [hl] at h
    cases h
    rfl
  | none =>
    rw [hl] at h
    dsimp only [Option.map_none] at h ⊢
    split at h
    · next hsubnet =>
      cases h
      rw [if_pos hsubnet, GoMap.length_mapValues]
      rfl
    · next hsubnet =>
      obtain ⟨loop, hloop, h⟩ := Option.bind_eq_some_iff.mp h
      have hindexes : (m.mapValues (networkOf see)).values.map (·.interfaceIndex) =
          m.values.map (·.interfaceIndex) := by
        rw [GoMap.values_mapValues, List.map_map]
        rfl
      rw [if_neg hsubnet, hindexes, hloop]
      cases loop <;> cases h <;> rfl

/-- What becomes of the host, seen through a view. -/
theorem seatingAt_view (hv : v.Shows config see)
    (hsel : Selected config turn.2)
    (hget : getInterfaceEntry fuel config m turn.2.netAddress = some (some entry)) :
    v.seatingAt fuel config excludes (m.mapValues (networkOf see)) turn =
      some (networkOf see entry,
        seating fuel config excludes entry.vlanCIDR (occupants entry.hosts) turn.1) := by
  rw [View.seatingAt, if_pos hsel, networkAt_view hget, ← hv.occupants_eq]
  rfl

theorem seatingAt_skipped (hskip : ¬ Selected config turn.2 ∨
      getInterfaceEntry fuel config m turn.2.netAddress = some none) :
    v.seatingAt fuel config excludes (m.mapValues (networkOf see)) turn = none := by
  rw [View.seatingAt]
  split
  · next hsel =>
    rw [networkAt_view (hskip.resolve_left (not_not.mpr hsel))]
    rfl
  · rfl

/-- The same for names and indexes. -/
theorem seatsOf_seatingAt (hsel : Selected config turn.2)
    (hget : getInterfaceEntry fuel config m turn.2.netAddress = some (some entry)) :
    View.names.seatingAt fuel config excludes (seatsOf m) turn = some (seatsIn entry,
      seating fuel config excludes entry.vlanCIDR (occupants entry.hosts) turn.1) :=
  seatingAt_view (View.shows_names config) hsel hget

theorem seatsOf_skipped (hskip : ¬ Selected config turn.2 ∨
      getInterfaceEntry fuel config m turn.2.netAddress = some none) :
    View.names.seatingAt fuel config excludes (seatsOf m) turn = none :=
  seatingAt_skipped hskip

/-- **Seen through a view, a turn of the second loop is the turn of the view.** -/
theorem placeTurn_view (hv : v.Shows config see) {st st' : GoMap String CIDREntry × Bool}
    (h : placeTurn fuel config excludes st turn = some st') :
    st'.1.mapValues (networkOf see) =
      v.turn fuel config excludes (st.1.mapValues (networkOf see)) turn := by
  rcases placeTurn_eq_some.mp h with ⟨rfl, hskip⟩ | ⟨entry, hosts, effect, hsel, hget, hturn, rfl⟩
  · rw [View.turn, seatingAt_skipped hskip]
  · rw [View.turn, seatingAt_view hv hsel hget, GoMap.mapValues_insert]
    dsimp only
    rw [networkOf, hturn.map_see hv]
    rfl

end View

end MultiNicCni.Controller
