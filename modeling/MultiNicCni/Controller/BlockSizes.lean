import MultiNicCni.Controller.Layout

/-!
# Block sizes that do not fit

Nothing in the controller compares the sum of the prefix length of the subnet and the block
sizes of a definition with the 32 bits of an address. `reachable_layout` is about definitions
that fit and share a network out among hosts; this module is about all of them.

- `Assigned.valid_iff`: the text of a computed block is a CIDR exactly when the block fits;
- `SharedHost`, `Reachable.shared`: without host bits, every host has the network of its entry;
- `published_valid_iff`: **in every reachable list of entries, the VLAN CIDRs and the pod CIDRs
  are CIDRs exactly when their bits fit, and two hosts of an entry have disjoint ones exactly
  when there are host bits as well**;
- `published_invalid`: two hosts whose pod CIDRs have the prefix length 36.
-/

namespace MultiNicCni.Controller

open Go Compute Lib

/-- A text that `net.ParseCIDR` accepts. -/
def ValidCIDR (s : String) : Prop := (parseCIDR s).isSome = true

instance (s : String) : Decidable (ValidCIDR s) := inferInstanceAs (Decidable (_ = true))

/-! ## The text of a block -/

section Text

variable {base cidr : String} {ip : IP4} {n : IPNet} {k : Nat} {excludes : List String} {idx : Int}

theorem Assigned.valid_iff (hbase : parseCIDR base = some (ip, n))
    (h : Assigned base k excludes idx cidr) : ValidCIDR cidr ↔ n.ones + k ≤ 32 := by
  obtain ⟨r, -, -, hcidr⟩ := h
  rw [getCIDRFromByte_eq hbase] at hcidr
  cases hcidr
  exact parseCIDR_cidrString_isSome r (n.ones + k)

/-- Only a CIDR has blocks. -/
theorem Assigned.base_valid {block : Int} (h : Assigned base block excludes idx cidr) :
    ValidCIDR base := by
  obtain ⟨r, hr, -⟩ := h
  unfold computeNet at hr
  cases hparse : parseCIDR base with
  | none =>
    rw [hparse] at hr
    cases hr
  | some parsed => rw [ValidCIDR, hparse]; rfl

/-- A valid block of a printed prefix has the prefix length printed. -/
theorem Assigned.ones (hbase : parseCIDR base = some (ip, n))
    (h : Assigned base k excludes idx cidr) {ip' : IP4} {n' : IPNet}
    (hcidr : parseCIDR cidr = some (ip', n')) : n'.ones = n.ones + k := by
  have hfit := (h.valid_iff hbase).mp (by rw [ValidCIDR, hcidr]; rfl)
  obtain ⟨r, -, -, htext⟩ := h
  rw [getCIDRFromByte_eq hbase] at htext
  cases htext
  rw [parseCIDR_cidrString r hfit] at hcidr
  cases hcidr
  rfl

end Text

/-! ## Without host bits -/

/-- The record of a host in an entry whose network the hosts share. -/
structure SharedHost (vlan : String) (host : HostInterfaceInfo) : Prop where
  index : host.hostIndex = 0
  valid : ValidCIDR host.podCIDR ↔ ValidCIDR vlan
  addresses : cidrSet host.podCIDR = cidrSet vlan

/-- An entry of a definition with a subnet and without host bits. -/
structure SharedEntry (config : PluginConfig) (e : CIDREntry) : Prop where
  vlan : ∃ idx, Assigned config.subnet config.interfaceBlock config.excludeCIDRs idx e.vlanCIDR
  hosts : ∀ host ∈ e.hosts, SharedHost e.vlanCIDR host

section Shared

variable {fuel : Nat} {config : PluginConfig} {excludes : List String} {hostName : String}
  {iface : InterfaceInfoType} {entry entry' : CIDREntry}

/-- The recheck of a host computes the block 0 of no bits: the network itself. -/
theorem SharedHost.refresh {vlan podCIDR : String} {host : HostInterfaceInfo}
    (h : SharedHost vlan host) {r : IP4} (hr : computeNet vlan host.hostIndex (0 : Nat) = some (.ok r))
    (hpod : getCIDRFromByte r vlan (0 : Nat) = some podCIDR) :
    SharedHost vlan (refreshHost config iface podCIDR host) := by
  cases hparse : parseCIDR vlan with
  | none =>
    rw [computeNet, hparse] at hr
    cases hr
  | some parsed =>
    obtain ⟨ip, n⟩ := parsed
    have hfit : n.ones + 0 ≤ 32 := n.ones_le
    rw [h.index] at hr
    have hblock := computeNet_isBlock hparse hfit le_rfl hr
    rw [getCIDRFromByte_eq hparse] at hpod
    cases hpod
    have hparse' := parseCIDR_cidrString r hfit
    refine ⟨h.index, ?_, ?_⟩
    · show ValidCIDR (cidrString r (n.ones + 0)) ↔ ValidCIDR vlan
      rw [ValidCIDR, ValidCIDR, hparse, hparse']
      rfl
    · show cidrSet (cidrString r (n.ones + 0)) = cidrSet vlan
      ext x
      rw [mem_cidrSet hparse', mem_cidrSet hparse, ← hblock.inside]
      rfl

/-- **A turn keeps the shared network**, also when it moves a host. -/
theorem Turn.shared {hosts : List HostInterfaceInfo} {effect : Effect}
    (hblock : config.hostBlock = 0) (hold : ∀ host ∈ entry.hosts, SharedHost entry.vlanCIDR host)
    (h : Turn fuel config excludes hostName iface entry hosts effect) :
    ∀ host ∈ hosts, SharedHost entry.vlanCIDR host := by
  intro host hhost
  rcases h.mem_cases hhost with hmem | ⟨existing, podCIDR, idx, hfound, rfl⟩ |
    ⟨i, host', podCIDR, -, hhost', ⟨r, hr, -, hpod⟩, rfl⟩
  · exact hold host hmem
  · -- a host that is added has the network of the entry
    rw [searchIn, addNewHost, hblock, if_pos (by rfl)] at hfound
    cases hfound
    exact ⟨rfl, Iff.rfl, rfl⟩
  · rw [hblock] at hr hpod
    exact (hold host' (List.mem_of_getElem? hhost')).refresh hr hpod

theorem SharedEntry.sublist {e : CIDREntry} (h : SharedEntry config e)
    {kept : List HostInterfaceInfo} (hsub : kept.Sublist e.hosts) :
    SharedEntry config { e with hosts := kept } :=
  ⟨h.vlan, fun host hhost => h.hosts host (hsub.subset hhost)⟩

/-- Every reachable entry of a definition with a subnet and without host bits. -/
theorem Reachable.shared {cidrs : List CIDREntry} (hsubnet : config.subnet ≠ "")
    (hblock : config.hostBlock = 0) (h : Reachable config cidrs) :
    ∀ e ∈ cidrs, SharedEntry config e := by
  induction h with
  | init hnew hperm =>
    intro e he
    obtain ⟨-, hvlan, hnil⟩ :=
      (newEntries_spec (newCIDR_entries hnew hsubnet)).2 e (hperm.mem_iff.mp he)
    refine ⟨⟨_, hvlan⟩, ?_⟩
    rw [hnil]
    exact fun host hhost => absurd hhost List.not_mem_nil
  | @update snapshot cidrs cidrs' _ hupd ih =>
    obtain ⟨fuel, changed, nodes, m, hm, hperm⟩ := hupd
    have hall : m.All fun _ e => SharedEntry config e := by
      refine updateEntries_induction (P := fun m => m.All fun _ e => SharedEntry config e) hm ?_
        (fun m hmap => ?_) ?_
      · intro net e' hl
        obtain ⟨e, he, -, kept, hsub, rfl⟩ :=
          (filterEntries_spec snapshot nodes changed cidrs).1 net e' hl
        exact (ih e he).sublist hsub
      · refine hmap.mapValues fun net e he => ?_
        obtain ⟨kept, hsub, heq, -⟩ := dropDied_cases _ e
        rw [heq]
        exact he.sublist hsub
      · intro m entry hosts effect turn _ _ hmap hget hturn
        have hentry : SharedEntry config entry := by
          rcases getInterfaceEntry_cases hget with hl | ⟨-, -, hnil, ⟨hempty, -⟩ | ⟨-, hvlan, -⟩⟩
          · exact hmap _ _ hl
          · exact absurd hempty hsubnet
          · refine ⟨⟨_, hvlan⟩, ?_⟩
            rw [hnil]
            exact fun host hhost => absurd hhost List.not_mem_nil
        have hhosts := hturn.shared hblock hentry.hosts
        exact hmap.insert ⟨hentry.vlan, hhosts⟩
    intro e he
    obtain ⟨net, hl⟩ := GoMap.mem_values.mp (hperm.mem_iff.mp he)
    exact hall net e hl

end Shared

/-! ## All definitions -/

/-- The CIDRs of an entry are valid exactly when their bits fit, and those of two of its hosts
are disjoint, too, exactly when there are host bits. -/
structure ValidIffFits (b ib hb : Nat) (e : CIDREntry) : Prop where
  vlan : ValidCIDR e.vlanCIDR ↔ b + ib ≤ 32
  pods : ∀ host ∈ e.hosts, ValidCIDR host.podCIDR ↔ b + ib + hb ≤ 32
  disjoint : ∀ host ∈ e.hosts, ∀ host' ∈ e.hosts, host.hostName ≠ host'.hostName →
    ((ValidCIDR host.podCIDR ∧ ValidCIDR host'.podCIDR ∧
        Disjoint (cidrSet host.podCIDR) (cidrSet host'.podCIDR)) ↔
      b + ib + hb ≤ 32 ∧ 1 ≤ hb)

section Fits

variable {config : PluginConfig} {e : CIDREntry} {ip : IP4} {n : IPNet} {ib hb : Nat}
  (hsubnet : parseCIDR config.subnet = some (ip, n)) (hib : config.interfaceBlock = ib)
include hsubnet hib

/-- Without host bits, different hosts have one network. -/
theorem SharedEntry.fits (h : SharedEntry config e) : ValidIffFits n.ones ib 0 e := by
  obtain ⟨idx, hvlan⟩ := h.vlan
  rw [hib] at hvlan
  have hvalid := hvlan.valid_iff hsubnet
  refine ⟨hvalid, fun host hhost => (h.hosts host hhost).valid.trans hvalid, ?_⟩
  intro host hhost host' hhost' _
  refine iff_of_false ?_ (fun hand => absurd hand.2 (Nat.not_succ_le_zero 0))
  rintro ⟨hpod, -, hdisjoint⟩
  obtain ⟨⟨ip', n'⟩, hparse⟩ := Option.isSome_iff_exists.mp hpod
  have hmem : ip' ∈ cidrSet host.podCIDR := (mem_cidrSet hparse ip').mpr rfl
  rw [(h.hosts host hhost).addresses] at hmem hdisjoint
  rw [(h.hosts host' hhost').addresses] at hdisjoint
  exact Set.disjoint_left.mp hdisjoint hmem hmem

/-- With host bits, each host has a block of its own, which may not fit. -/
theorem EntryInv.fits (hhb : config.hostBlock = hb) (hpos : 1 ≤ hb) (h : EntryInv config e) :
    ValidIffFits n.ones ib hb e := by
  have hvlan := h.vlan
  rw [hib] at hvlan
  have hpods : ∀ host ∈ e.hosts,
      Assigned e.vlanCIDR hb config.excludeCIDRs host.hostIndex host.podCIDR := by
    intro host hhost
    rw [← hhb]
    exact h.hosts.pods host hhost
  have hparsed : ∀ host ∈ e.hosts, ∃ ip' n', parseCIDR e.vlanCIDR = some (ip', n') ∧
      n'.ones = n.ones + ib := by
    intro host hhost
    obtain ⟨⟨ip', n'⟩, hparse⟩ := Option.isSome_iff_exists.mp (hpods host hhost).base_valid
    exact ⟨ip', n', hparse, hvlan.ones hsubnet hparse⟩
  have hvalid : ∀ host ∈ e.hosts, ValidCIDR host.podCIDR ↔ n.ones + ib + hb ≤ 32 := by
    intro host hhost
    obtain ⟨ip', n', hparse, hones⟩ := hparsed host hhost
    rw [← hones]
    exact (hpods host hhost).valid_iff hparse
  refine ⟨hvlan.valid_iff hsubnet, hvalid, fun host hhost host' hhost' hname => ?_⟩
  constructor
  · rintro ⟨hpod, -, -⟩
    exact ⟨(hvalid host hhost).mp hpod, hpos⟩
  · rintro ⟨hfit, -⟩
    refine ⟨(hvalid host hhost).mpr hfit, (hvalid host' hhost').mpr hfit, ?_⟩
    obtain ⟨ip', n', hparse, hones⟩ := hparsed host hhost
    have hindex : host.hostIndex ≠ host'.hostIndex := fun heq =>
      hname (congrArg _ (List.inj_on_of_nodup_map h.hosts.indexes.nodup hhost hhost' heq))
    exact (hpods host hhost).disjoint hparse (by omega)
      (h.hosts.indexes.nonneg _ (List.mem_map_of_mem hhost))
      (h.hosts.indexes.nonneg _ (List.mem_map_of_mem hhost')) (hpods host' hhost') hindex

end Fits

/-- **Published CIDRs are valid exactly when the block sizes fit.** For every definition with a
subnet of `b` bits and arbitrary block sizes, in every reachable list of entries: a VLAN CIDR is
valid exactly when `b` and the interface bits fit in 32, a pod CIDR exactly when the host bits
fit as well, and different hosts of one entry have valid and disjoint pod CIDRs exactly when, in
addition, there is at least one host bit. -/
theorem published_valid_iff {config : PluginConfig} {b ib hb : Nat}
    (hsubnet : ∃ ip net, parseCIDR config.subnet = some (ip, net) ∧ net.ones = b)
    (hib : config.interfaceBlock = ib) (hhb : config.hostBlock = hb) {cidrs : List CIDREntry}
    (hreach : Reachable config cidrs) : ∀ e ∈ cidrs, ValidIffFits b ib hb e := by
  obtain ⟨ip, n, hparse, rfl⟩ := hsubnet
  have hne : config.subnet ≠ "" := by
    intro hempty
    rw [hempty, parseCIDR_empty] at hparse
    cases hparse
  intro e he
  rcases Nat.eq_zero_or_pos hb with rfl | hpos
  · exact (hreach.shared hne hhb e he).fits hparse hib
  · have hinv := hreach.layoutInv hne (by omega)
    exact (hinv.entries e he).fits hparse hib hhb hpos

/-- The CIDRs of `twoByTwo`: all are valid, and the hosts of an entry have disjoint ones. -/
theorem published_valid_twoByTwo :
    (∀ e ∈ twoByTwo, ValidCIDR e.vlanCIDR ∧ ∀ host ∈ e.hosts, ValidCIDR host.podCIDR) ∧
      Disjoint (cidrSet "192.168.64.0/26") (cidrSet "192.168.64.64/26") := by
  have hparse : ∃ ip net, parseCIDR pairOfNetworks.subnet = some (ip, net) ∧ net.ones = 16 :=
    ⟨⟨192, 168, 5, 0⟩, ⟨⟨192, 168, 0, 0⟩, 16, by decide⟩, rfl, rfl⟩
  have hfits : ∀ e ∈ twoByTwo, ValidIffFits 16 2 8 e :=
    published_valid_iff hparse rfl rfl reachable_twoByTwo
  refine ⟨fun e he => ⟨(hfits e he).vlan.mpr (by decide), fun host hhost => ?_⟩, ?_⟩
  · exact ((hfits e he).pods host hhost).mpr (by decide)
  · exact (((hfits _ List.mem_cons_self).disjoint _ List.mem_cons_self _
      (List.mem_cons_of_mem _ List.mem_cons_self) (by decide)).mpr (by decide)).2.2

/-- A definition whose bits are 24, 4 and 8. -/
def tooManyBits : PluginConfig :=
  { name := "net", subnet := "10.0.0.0/24", masterNetAddrs := ["10.1.0.0/16"], hostBlock := 8,
    interfaceBlock := 4, excludeCIDRs := [], vlanMode := "l3" }

/-- Its entries with two hosts. -/
def twoHosts : List CIDREntry :=
  [⟨"10.1.0.0/16", 0, "10.0.0.0/28",
    [⟨0, "a", "eth1", "10.1.0.1", "10.0.0.0/36", "net-10.0.0.0-36"⟩,
      ⟨1, "b", "eth1", "10.1.0.2", "10.0.0.0/36", "net-10.0.0.0-36"⟩]⟩]

/-- **Pod CIDRs that are none**: both hosts are published with the text `10.0.0.0/36`. -/
theorem published_invalid : Reachable tooManyBits twoHosts ∧
    ∀ e ∈ twoHosts, ∀ host ∈ e.hosts, ¬ ValidCIDR host.podCIDR := by
  have hnew : newCIDR 2 tooManyBits ∅ =
      some (.ok ⟨tooManyBits, [⟨"10.1.0.0/16", 0, "10.0.0.0/28", []⟩]⟩) := by rfl
  have hupd : Updates tooManyBits
      ((AList.singleton "b" ⟨"b", [⟨"eth1", "10.1.0.0/16", "10.1.0.2"⟩]⟩ :
        GoMap String HostInterface).insert "a" ⟨"a", [⟨"eth1", "10.1.0.0/16", "10.1.0.1"⟩]⟩)
      [⟨"10.1.0.0/16", 0, "10.0.0.0/28", []⟩] twoHosts :=
    .of_values 3 true (fun _ => .failed) (by decide +kernel)
  exact ⟨.update (.init hnew (List.Perm.refl _)) hupd, by decide +kernel⟩

end MultiNicCni.Controller
