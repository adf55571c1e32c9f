import MultiNicCni.Compute.Arith
import MultiNicCni.Controller.Turns

/-!
# The address layout of a definition with a subnet

`Layout` is what the CIDR resource is for: disjoint VLAN networks inside the subnet, one
per interface index, and disjoint pod networks inside them, one per host. The entries the
controller computes are kept by index arithmetic on texts; the two levels meet in
`LayoutInv.layout`.

- `HostsInv`, `EntryInv`, `LayoutInv`: the invariant on the hosts of an entry, on an entry
  and on the list of entries, each in terms of `Assigned`;
- `LayoutInv.update`: one published pass keeps it; `LayoutInv.newCIDR`: `NewCIDR` starts it;
- `reachable_layout`: **every reachable list of entries is a layout**.
-/

namespace MultiNicCni.Controller

open Go Compute Lib

variable {cidrs : List CIDREntry} {m : GoMap String CIDREntry}
  {snapshot : GoMap String HostInterface} {fuel : Nat} {config : PluginConfig}
  {excludes : List String} {iface : InterfaceInfoType} {hosts kept : List HostInterfaceInfo}

/-! ## The layout of the addresses -/

/-- The VLAN and pod networks of the entries, with `b` bits for the subnet, `ib` for the
interface and `hb` for the host. -/
structure Layout (subnet : String) (b ib hb : Nat) (cidrs : List CIDREntry) : Prop where
  interfaceIndex_nodup : (cidrs.map (·.interfaceIndex)).Nodup
  vlan_network : ∀ e ∈ cidrs, IsNetwork e.vlanCIDR (b + ib) ∧ cidrSet e.vlanCIDR ⊆ cidrSet subnet
  vlan_disjoint : cidrs.Pairwise fun e e' => Disjoint (cidrSet e.vlanCIDR) (cidrSet e'.vlanCIDR)
  hostName_nodup : ∀ e ∈ cidrs, (e.hosts.map (·.hostName)).Nodup
  hostIndex_nodup : ∀ e ∈ cidrs, (e.hosts.map (·.hostIndex)).Nodup
  pod_network : ∀ e ∈ cidrs, ∀ host ∈ e.hosts,
    IsNetwork host.podCIDR (b + ib + hb) ∧ cidrSet host.podCIDR ⊆ cidrSet e.vlanCIDR
  pod_disjoint : (cidrs.flatMap (·.hosts)).Pairwise fun h h' =>
    Disjoint (cidrSet h.podCIDR) (cidrSet h'.podCIDR)

/-! ## The invariant -/

/-- The hosts of an entry: no name and no index twice, and each pod CIDR that of its index. -/
structure HostsInv (config : PluginConfig) (vlan : String) (hosts : List HostInterfaceInfo) :
    Prop where
  names : (hosts.map (·.hostName)).Nodup
  indexes : Indexes (hosts.map (·.hostIndex))
  pods : PodsAssigned config vlan hosts

/-- An entry: its VLAN CIDR is that of its interface index. -/
structure EntryInv (config : PluginConfig) (e : CIDREntry) : Prop where
  index_nonneg : 0 ≤ e.interfaceIndex
  vlan : Assigned config.subnet config.interfaceBlock config.excludeCIDRs e.interfaceIndex e.vlanCIDR
  hosts : HostsInv config e.vlanCIDR e.hosts

/-- The entries: no interface index twice. -/
structure LayoutInv (config : PluginConfig) (cidrs : List CIDREntry) : Prop where
  indexes : (cidrs.map (·.interfaceIndex)).Nodup
  entries : ∀ e ∈ cidrs, EntryInv config e

theorem HostsInv.nil (config : PluginConfig) (vlan : String) : HostsInv config vlan [] :=
  ⟨List.nodup_nil, ⟨List.nodup_nil, fun _ h => absurd h List.not_mem_nil⟩,
    fun _ h => absurd h List.not_mem_nil⟩

section Hosts

variable {hostName : String} {entry : CIDREntry} {vlan : String} {effect : Effect}

theorem HostsInv.sublist (h : HostsInv config vlan hosts) (hsub : kept.Sublist hosts) :
    HostsInv config vlan kept where
  names := h.names.sublist (hsub.map _)
  indexes := h.indexes.sublist (hsub.map _)
  pods := h.pods.sublist hsub

/-- A placement keeps the invariant of the hosts. -/
theorem HostsInv.placed (hblock : 1 ≤ config.hostBlock) (hex : excludes.Perm config.excludeCIDRs)
    (hinv : HostsInv config entry.vlanCIDR entry.hosts)
    (h : Turn fuel config excludes hostName iface entry hosts effect) :
    HostsInv config entry.vlanCIDR hosts := by
  have hpods := hinv.pods.placed h hblock hex
  rcases h.cases_of_podsAssigned hblock hex hinv.pods with
    ⟨podCIDR, hostIndex, hnot, -, hfresh, rfl⟩ | rfl | ⟨i, host, hhost, rfl⟩
  · exact ⟨nodup_names_withHost hnot hinv.names, hinv.indexes.withHost (hfresh hinv.indexes), hpods⟩
  · exact hinv
  · have hname : (entry.hosts.set i (refreshHost config iface host.podCIDR host)).map (·.hostName) =
        entry.hosts.map (·.hostName) := map_set_of_eq hhost rfl
    have hindex : (entry.hosts.set i (refreshHost config iface host.podCIDR host)).map
        (·.hostIndex) = entry.hosts.map (·.hostIndex) := map_set_of_eq hhost rfl
    refine ⟨?_, ?_, hpods⟩
    · rw [hname]
      exact hinv.names
    · rw [hindex]
      exact hinv.indexes

end Hosts

/-! ## One pass -/

/-- The invariant on the entries map of a pass. -/
def MapInv (config : PluginConfig) (m : GoMap String CIDREntry) : Prop :=
  m.All (fun _ e => EntryInv config e) ∧ m.Separates CIDREntry.interfaceIndex

section Pass

theorem EntryInv.withHosts {e : CIDREntry} (h : EntryInv config e)
    (hhosts : HostsInv config e.vlanCIDR hosts) : EntryInv config { e with hosts } :=
  ⟨h.index_nonneg, h.vlan, hhosts⟩

/-- Hosts taken out of an entry, by the first loop or as died, leave the invariant. -/
theorem EntryInv.sublist {e : CIDREntry} (h : EntryInv config e) (hsub : kept.Sublist e.hosts) :
    EntryInv config { e with hosts := kept } :=
  h.withHosts (h.hosts.sublist hsub)

theorem LayoutInv.filter (h : LayoutInv config cidrs) (snapshot : GoMap String HostInterface)
    (nodes : Nat → NodeLookup) (changed : Bool) :
    MapInv config (filterEntries snapshot nodes changed cidrs).entriesMap := by
  obtain ⟨hspec, -⟩ := filterEntries_spec snapshot nodes changed cidrs
  constructor
  · intro net e' hl
    obtain ⟨e, he, -, kept, hsub, rfl⟩ := hspec net e' hl
    exact (h.entries e he).sublist hsub
  · intro net net' e₁ e₂ h₁ h₂ hidx
    obtain ⟨e, he, rfl, kept, -, rfl⟩ := hspec net e₁ h₁
    obtain ⟨e', he', rfl, kept', -, rfl⟩ := hspec net' e₂ h₂
    -- the index determines the entry of the list, hence its network address
    rw [List.inj_on_of_nodup_map h.indexes he he' hidx]

theorem MapInv.indexes (h : MapInv config m) : Indexes (m.values.map (·.interfaceIndex)) := by
  refine ⟨h.2.nodup, ?_⟩
  intro i hi
  obtain ⟨e, he, rfl⟩ := List.mem_map.mp hi
  obtain ⟨net, hl⟩ := GoMap.mem_values.mp he
  exact (h.1 net e hl).index_nonneg

/-- A placement, also one that makes a new entry, keeps the invariant of the map. -/
theorem MapInv.place {hostName : String} {entry : CIDREntry} {effect : Effect}
    (hsubnet : config.subnet ≠ "") (hblock : 1 ≤ config.hostBlock)
    (hex : excludes.Perm config.excludeCIDRs) (h : MapInv config m)
    (hget : getInterfaceEntry fuel config m iface.netAddress = some (some entry))
    (hplaced : Turn fuel config excludes hostName iface entry hosts effect) :
    MapInv config (m.insert iface.netAddress { entry with hosts }) := by
  rcases getInterfaceEntry_cases hget with hl | ⟨hl, hnet, hnil, ⟨hempty, -⟩ | ⟨-, hvlan, hfresh⟩⟩
  · have hinv := h.1 _ _ hl
    refine ⟨h.1.insert (hinv.withHosts (hinv.hosts.placed hblock hex hplaced)), ?_⟩
    refine h.2.insert fun net' e' hne hl' hidx => ?_
    exact hne (h.2 _ _ _ _ hl' hl hidx)
  · exact absurd hempty hsubnet
  · obtain ⟨hout, hnonneg⟩ := hfresh h.indexes
    have hinv : EntryInv config entry := by
      refine ⟨hnonneg, hvlan, ?_⟩
      rw [hnil]
      exact HostsInv.nil config _
    refine ⟨h.1.insert (hinv.withHosts (hinv.hosts.placed hblock hex hplaced)), ?_⟩
    refine h.2.insert fun net' e' _ hl' hidx => hout ?_
    exact List.mem_map.mpr ⟨e', GoMap.mem_values.mpr ⟨net', hl'⟩, hidx⟩

theorem MapInv.dropDied (h : MapInv config m) (died : List String) :
    MapInv config (m.mapValues (dropDied died)) := by
  constructor
  · refine h.1.mapValues fun net e he => ?_
    obtain ⟨kept, hsub, heq, -⟩ := dropDied_cases died e
    rw [heq]
    exact he.sublist hsub
  · refine h.2.mapValues fun e => ?_
    obtain ⟨kept, -, heq, -⟩ := dropDied_cases died e
    rw [heq]

/-- A pass, published or not, keeps the invariant. -/
theorem LayoutInv.updateEntries {changed changed' : Bool} {nodes : Nat → NodeLookup}
    (hsubnet : config.subnet ≠ "") (hblock : 1 ≤ config.hostBlock) (h : LayoutInv config cidrs)
    (hm : updateEntries fuel ⟨config, cidrs⟩ (sortAddress config.excludeCIDRs) changed snapshot
      nodes = some (m, changed')) : MapInv config m := by
  refine updateEntries_induction hm (h.filter snapshot nodes changed)
    (fun _ hmap => hmap.dropDied _) ?_
  intro m entry hosts effect turn _ _ hmap hget hplaced
  exact hmap.place hsubnet hblock (sortAddress_perm _) hget hplaced

theorem MapInv.layoutInv (h : MapInv config m) (hperm : cidrs.Perm m.values) :
    LayoutInv config cidrs := by
  constructor
  · rw [(hperm.map _).nodup_iff]
    exact h.2.nodup
  · intro e he
    obtain ⟨net, hl⟩ := GoMap.mem_values.mp (hperm.mem_iff.mp he)
    exact h.1 net e hl

/-- One published pass keeps the invariant. -/
theorem LayoutInv.update {cidrs' : List CIDREntry} (hsubnet : config.subnet ≠ "")
    (hblock : 1 ≤ config.hostBlock) (h : LayoutInv config cidrs)
    (hupd : Updates config snapshot cidrs cidrs') : LayoutInv config cidrs' := by
  obtain ⟨fuel, changed, nodes, m, hm, hperm⟩ := hupd
  exact (h.updateEntries hsubnet hblock hm).layoutInv hperm

/-- `NewCIDR` of a definition with a subnet starts the invariant. -/
theorem LayoutInv.newCIDR {spec : CIDRSpec} (hsubnet : config.subnet ≠ "")
    (h : newCIDR fuel config snapshot = some (.ok spec)) (hperm : cidrs.Perm spec.cidrs) :
    LayoutInv config cidrs := by
  obtain ⟨hincr, hall⟩ := newEntries_spec (newCIDR_entries h hsubnet)
  constructor
  · rw [(hperm.map _).nodup_iff]
    exact hincr.imp ne_of_lt
  · intro e he
    obtain ⟨hnonneg, hvlan, hnil⟩ := hall e (hperm.mem_iff.mp he)
    refine ⟨hnonneg, hvlan, ?_⟩
    rw [hnil]
    exact HostsInv.nil config _

end Pass

/-- The invariant holds along every run. -/
theorem Reachable.layoutInv (hsubnet : config.subnet ≠ "") (hblock : 1 ≤ config.hostBlock)
    (h : Reachable config cidrs) : LayoutInv config cidrs := by
  induction h with
  | init hnew hperm => exact LayoutInv.newCIDR hsubnet hnew hperm
  | update _ hupd ih => exact ih.update hsubnet hblock hupd

/-! ## From indexes to address sets -/

section Sets

variable {base cidr cidr' : String} {ip : IP4} {n : IPNet} {k : Nat} {idx idx' : Int}

/-- An assigned block is a network inside its base. -/
theorem Assigned.isNetwork (h : parseCIDR base = some (ip, n)) (hfit : n.ones + k ≤ 32)
    (hidx : 0 ≤ idx) (ha : Assigned base k excludes idx cidr) :
    IsNetwork cidr (n.ones + k) ∧ cidrSet cidr ⊆ cidrSet base := by
  obtain ⟨r, hr, -, hcidr⟩ := ha
  rw [getCIDRFromByte_eq h] at hcidr
  cases hcidr
  exact block_isNetwork h hfit (computeNet_isBlock h hfit hidx hr)

/-- Blocks assigned to different indexes are disjoint. -/
theorem Assigned.disjoint (h : parseCIDR base = some (ip, n)) (hfit : n.ones + k ≤ 32)
    (hidx : 0 ≤ idx) (hidx' : 0 ≤ idx') (ha : Assigned base k excludes idx cidr)
    (ha' : Assigned base k excludes idx' cidr') (hne : idx ≠ idx') :
    Disjoint (cidrSet cidr) (cidrSet cidr') := by
  obtain ⟨r, hr, -, hcidr⟩ := ha
  obtain ⟨r', hr', -, hcidr'⟩ := ha'
  rw [getCIDRFromByte_eq h] at hcidr hcidr'
  cases hcidr
  cases hcidr'
  exact block_disjoint hfit (computeNet_isBlock h hfit hidx hr)
    (computeNet_isBlock h hfit hidx' hr') (by omega)

end Sets

/-- Distinct values of `f` along a list give `R` along the list, if distinctness gives `R`. -/
theorem pairwise_of_nodup_map {α β : Type} {f : α → β} {R : α → α → Prop} {l : List α}
    (hnd : (l.map f).Nodup) (h : ∀ a ∈ l, ∀ b ∈ l, f a ≠ f b → R a b) : l.Pairwise R :=
  (List.pairwise_map.mp hnd).imp_of_mem fun ha hb hne => h _ ha _ hb hne

/-- The index invariant is a layout of the addresses. -/
theorem LayoutInv.layout {ip : IP4} {n : IPNet} {ib hb : Nat}
    (hsub : parseCIDR config.subnet = some (ip, n)) (hib : config.interfaceBlock = ib)
    (hhb : config.hostBlock = hb) (hfit : n.ones + ib + hb ≤ 32) (h : LayoutInv config cidrs) :
    Layout config.subnet n.ones ib hb cidrs := by
  have hvlan : ∀ e ∈ cidrs, IsNetwork e.vlanCIDR (n.ones + ib) ∧
      cidrSet e.vlanCIDR ⊆ cidrSet config.subnet := by
    intro e he
    have hinv := h.entries e he
    have ha := hinv.vlan
    rw [hib] at ha
    exact ha.isNetwork hsub (by omega) hinv.index_nonneg
  have hvlans : ∀ e ∈ cidrs, ∀ e' ∈ cidrs, e.interfaceIndex ≠ e'.interfaceIndex →
      Disjoint (cidrSet e.vlanCIDR) (cidrSet e'.vlanCIDR) := by
    intro e he e' he' hne
    have ha := (h.entries e he).vlan
    have ha' := (h.entries e' he').vlan
    rw [hib] at ha ha'
    exact ha.disjoint hsub (by omega) (h.entries e he).index_nonneg
      (h.entries e' he').index_nonneg ha' hne
  have hpod : ∀ e ∈ cidrs, ∀ host ∈ e.hosts, IsNetwork host.podCIDR (n.ones + ib + hb) ∧
      cidrSet host.podCIDR ⊆ cidrSet e.vlanCIDR := by
    intro e he host hhost
    obtain ⟨net, hparse, hones⟩ := (hvlan e he).1
    have hinv := (h.entries e he).hosts
    have ha := hinv.pods host hhost
    rw [hhb] at ha
    rw [← hones]
    exact ha.isNetwork hparse (by omega) (hinv.indexes.nonneg _ (List.mem_map_of_mem hhost))
  refine ⟨h.indexes, hvlan, pairwise_of_nodup_map h.indexes hvlans,
    fun e he => (h.entries e he).hosts.names, fun e he => (h.entries e he).hosts.indexes.nodup,
    hpod, ?_⟩
  rw [List.pairwise_flatMap]
  constructor
  · -- two hosts of one entry have different indexes
    intro e he
    obtain ⟨net, hparse, hones⟩ := (hvlan e he).1
    have hinv := (h.entries e he).hosts
    refine pairwise_of_nodup_map hinv.indexes.nodup fun host hhost host' hhost' hne => ?_
    have ha := hinv.pods host hhost
    have ha' := hinv.pods host' hhost'
    rw [hhb] at ha ha'
    exact ha.disjoint hparse (by omega) (hinv.indexes.nonneg _ (List.mem_map_of_mem hhost))
      (hinv.indexes.nonneg _ (List.mem_map_of_mem hhost')) ha' hne
  · -- hosts of different entries lie in disjoint VLAN networks
    refine pairwise_of_nodup_map h.indexes fun e he e' he' hne host hhost host' hhost' => ?_
    exact (hvlans e he e' he' hne).mono (hpod e he host hhost).2 (hpod e' he' host' hhost').2

/-- **The published entries are a layout of the subnet.** Whatever hosts and interfaces join,
leave and come back, the interface indexes are distinct, the VLAN CIDRs are disjoint
sub-networks of the subnet, and the pod CIDRs of all hosts are disjoint networks inside the
VLAN CIDRs of their entries. -/
theorem reachable_layout {config : PluginConfig} {b ib hb : Nat}
    (hsubnet : ∃ ip net, parseCIDR config.subnet = some (ip, net) ∧ net.ones = b)
    (hib : config.interfaceBlock = ib) (hhb : config.hostBlock = hb) (hpos : 1 ≤ hb)
    (hfit : b + ib + hb ≤ 32) {cidrs : List CIDREntry} (hreach : Reachable config cidrs) :
    Layout config.subnet b ib hb cidrs := by
  obtain ⟨ip, net, hparse, rfl⟩ := hsubnet
  have hne : config.subnet ≠ "" := by
    intro hempty
    rw [hempty, parseCIDR_empty] at hparse
    cases hparse
  exact (hreach.layoutInv hne (by omega)).layout hparse hib hhb hfit

/-- A definition with one network, whose first host block is excluded. -/
def oneNetwork : PluginConfig :=
  { name := "net", subnet := "192.168.5.0/16", masterNetAddrs := ["10.0.1.0/24"], hostBlock := 8,
    interfaceBlock := 2, excludeCIDRs := ["192.168.0.0/26"], vlanMode := "l3" }

/-- Its entries after host `a` has joined: the host has the second block. -/
def oneHost : List CIDREntry :=
  [⟨"10.0.1.0/24", 0, "192.168.0.0/18",
    [⟨1, "a", "eth1", "10.0.1.1", "192.168.0.64/26", "net-192.168.0.64-26"⟩]⟩]

theorem reachable_oneHost : Reachable oneNetwork oneHost := by
  have hnew : newCIDR 2 oneNetwork ∅ =
      some (.ok ⟨oneNetwork, [⟨"10.0.1.0/24", 0, "192.168.0.0/18", []⟩]⟩) := by rfl
  have hupd : Updates oneNetwork
      (AList.singleton "a" ⟨"a", [⟨"eth1", "10.0.1.0/24", "10.0.1.1"⟩]⟩)
      [⟨"10.0.1.0/24", 0, "192.168.0.0/18", []⟩] oneHost :=
    .of_values 3 true (fun _ => .failed) (by decide +kernel)
  exact .update (.init hnew (List.Perm.refl _)) hupd

/-- A definition with two networks. -/
def pairOfNetworks : PluginConfig :=
  { oneNetwork with masterNetAddrs := ["10.0.1.0/24", "10.0.2.0/24"] }

/-- The hosts `a` and `b`, each on both networks. -/
def hostsOnBoth : GoMap String HostInterface :=
  (AList.singleton "a" ⟨"a", [⟨"eth1", "10.0.1.0/24", "10.0.1.1"⟩,
    ⟨"eth2", "10.0.2.0/24", "10.0.2.1"⟩]⟩).insert "b" ⟨"b", [⟨"eth1", "10.0.1.0/24", "10.0.1.2"⟩,
    ⟨"eth2", "10.0.2.0/24", "10.0.2.2"⟩]⟩

/-- The entries when both have joined. -/
def twoByTwo : List CIDREntry :=
  [⟨"10.0.2.0/24", 1, "192.168.64.0/18",
      [⟨0, "b", "eth2", "10.0.2.2", "192.168.64.0/26", "net-192.168.64.0-26"⟩,
        ⟨1, "a", "eth2", "10.0.2.1", "192.168.64.64/26", "net-192.168.64.64-26"⟩]⟩,
    ⟨"10.0.1.0/24", 0, "192.168.0.0/18",
      [⟨1, "b", "eth1", "10.0.1.2", "192.168.0.64/26", "net-192.168.0.64-26"⟩,
        ⟨2, "a", "eth1", "10.0.1.1", "192.168.0.128/26", "net-192.168.0.128-26"⟩]⟩]

theorem reachable_twoByTwo : Reachable pairOfNetworks twoByTwo := by
  have hnew : newCIDR 4 pairOfNetworks ∅ = some (.ok ⟨pairOfNetworks,
      [⟨"10.0.1.0/24", 0, "192.168.0.0/18", []⟩, ⟨"10.0.2.0/24", 1, "192.168.64.0/18", []⟩]⟩) := by
    rfl
  have hupd : Updates pairOfNetworks hostsOnBoth
      [⟨"10.0.1.0/24", 0, "192.168.0.0/18", []⟩, ⟨"10.0.2.0/24", 1, "192.168.64.0/18", []⟩]
      twoByTwo :=
    .of_values 6 true (fun _ => .failed) (by decide +kernel)
  exact .update (.init hnew (List.Perm.refl _)) hupd

/-- Two hosts on each of two networks. -/
theorem reachable_layout_twoByTwo : Layout "192.168.5.0/16" 16 2 8 twoByTwo := by
  have hparse : ∃ ip net, parseCIDR pairOfNetworks.subnet = some (ip, net) ∧ net.ones = 16 :=
    ⟨⟨192, 168, 5, 0⟩, ⟨⟨192, 168, 0, 0⟩, 16, by decide⟩, rfl, rfl⟩
  exact reachable_layout hparse rfl rfl (by decide) (by decide) reachable_twoByTwo

end MultiNicCni.Controller
