import MultiNicCni.Cni.Loader
import MultiNicCni.Lib.Compact

/-!
# The address of each NIC

The IPAM plugin compacts the addresses of the answered masters into a list; the loaders look
up the address of a master at its position in the list of masters. `addresses_allocated_iff`
says when the two meet: **every configuration carries the address allocated for its master
exactly when no unanswered master comes before an answered one** (`NoGap`), for each of the
three loaders.

The tag of an address with the position of its master, which the IPAM plugin sets, is not
read by any of them.
-/

namespace MultiNicCni.Cni

open Go Compute Daemon Lib

variable
  {body : Nat → String → Option MultiPathRoutes → Option (Option NicConf × Option MultiPathRoutes)}
  {mp mp' : Option MultiPathRoutes} {confs : List NicConf}
  {order : GoMap.RangeOrder String (List Route)} {getHostIP : String → Option IP4}
  {ips : List IPConfig}

/-! ## Composing the plugins -/

/-- The device plugins with an address from the multi-NIC IPAM. -/
inductive Device where
  | ipvlan
  | macvlan
  | awsIpvlan
  deriving DecidableEq, Repr

section Compose

variable (order : GoMap.RangeOrder String (List Route)) (getHostIP : String → Option IP4)
  (ifName : String) (n : NetConf)

/-- The body of the loader of a device. -/
def deviceConf (ipConfigs : List IPConfig) :
    Device → Nat → String → Option MultiPathRoutes → Option (Option NicConf × Option MultiPathRoutes)
  | .ipvlan => ipvlanConf order ifName n ipConfigs
  | .macvlan => macvlanConf order ifName n ipConfigs
  | .awsIpvlan => awsConf order ifName n ipConfigs getHostIP

/-- The loader of a device. -/
def loadDeviceConf (ipConfigs : List IPConfig) :
    Device → Option (List NicConf × Option MultiPathRoutes)
  | .ipvlan => loadIPVANConf order ifName n ipConfigs
  | .macvlan => loadMACVLANConf order ifName n ipConfigs
  | .awsIpvlan => loadAWSCNIConf order ifName n ipConfigs getHostIP

/-- The configurations made from the responses of the daemon: the result of the IPAM plugin,
passed to the loader of the device. -/
def confsFor (device : Device) (ipResponses : List IPResponse) :
    Option (Except IpamError (List NicConf)) := do
  match ← cmdAdd [] n.masters (.ok ipResponses) with
  | .error e => some (.error e)
  | .ok ips =>
    let (confs, _) ← loadDeviceConf order getHostIP ifName n ips device
    some (.ok confs)

/-- What the main plugin wants of the configurations: each carries the address allocated for
its master and no other, and every answered master has one. -/
structure CarryAllocated (device : Device) (ipResponses : List IPResponse) (confs : List NicConf) :
    Prop where
  addresses : ∀ conf ∈ confs,
    conf.addresses = ((allocatedTo ipResponses conf.master).map netString).toList
  podIP : device = .awsIpvlan → ∀ conf ∈ confs,
    conf.podIP = (allocatedTo ipResponses conf.master).elim "" fun a => bytesToStr a.ip
  generated : ∀ m ∈ n.masters, (allocatedTo ipResponses m).isSome = true →
    ∃ conf ∈ confs, conf.master = m

end Compose

/-! ## The loop of a loader -/

section Loop

/-- The configurations of a loader are those of its body at each position. -/
theorem loadConfs_spec {index : Nat} {masters : List String}
    (h : loadConfs body index masters mp = some (confs, mp')) :
    (∀ conf ∈ confs, ∃ i m mp₁ mp₂, masters[i]? = some m ∧
        body (index + i) m mp₁ = some (some conf, mp₂)) ∧
      ∀ i m, masters[i]? = some m → ∃ o mp₁ mp₂, body (index + i) m mp₁ = some (o, mp₂) ∧
        ∀ conf ∈ o, conf ∈ confs := by
  induction masters generalizing index mp confs with
  | nil =>
    cases h
    refine ⟨fun conf hconf => absurd hconf List.not_mem_nil, ?_⟩
    intro i m hi
    cases hi
  | cons master masters ih =>
    obtain ⟨⟨o, mp₁⟩, hbody, h⟩ := Option.bind_eq_some_iff.mp h
    obtain ⟨⟨rest, mp₂⟩, hrest, h⟩ := Option.bind_eq_some_iff.mp h
    cases h
    obtain ⟨ihconf, ihpos⟩ := ih hrest
    constructor
    · intro conf hconf
      rcases List.mem_append.mp hconf with hown | hconf
      · have ho : o = some conf := Option.mem_toList.mp hown
        subst ho
        exact ⟨0, master, mp, mp₁, rfl, hbody⟩
      · obtain ⟨i, m, mp₃, mp₄, hi, hconf⟩ := ihconf conf hconf
        refine ⟨i + 1, m, mp₃, mp₄, hi, ?_⟩
        rwa [show index + (i + 1) = index + 1 + i by omega]
    · intro i m hi
      cases i with
      | zero =>
        cases hi
        refine ⟨o, mp, mp₁, hbody, ?_⟩
        intro conf hconf
        exact List.mem_append_left _ (Option.mem_toList.mpr hconf)
      | succ i =>
        obtain ⟨o', mp₃, mp₄, hconf, hmem⟩ := ihpos i m hi
        refine ⟨o', mp₃, mp₄, ?_, fun conf ho => List.mem_append_right _ (hmem conf ho)⟩
        rwa [show index + (i + 1) = index + 1 + i by omega]

end Loop

/-! ## The body of each loader -/

section Body

variable {ifName : String} {n : NetConf} {ipConfigs : List IPConfig}

theorem injectMultiNicIPAM_eq {conf conf' : NicConf} {ipam : IpamSection} {i : Nat}
    (hconf : conf.ipam = .ofType "")
    (h : injectMultiNicIPAM order conf ipam ipConfigs i = some (conf', mp)) :
    conf'.master = conf.master ∧ conf'.podIP = conf.podIP ∧
      conf'.addresses = (ipConfigs[i]?).toList.map fun c => netString c.address := by
  obtain ⟨⟨routes, mp'⟩, -, h⟩ := Option.bind_eq_some_iff.mp h
  cases h
  simp only [NicConf.withIpam, hconf, NicConf.addresses]
  exact ⟨trivial, trivial, trivial⟩

/-- A configuration of master `m` with the address at position `i`, if there is one. For
`aws-ipvlan` there is one. -/
structure ConfAt (device : Device) (ipConfigs : List IPConfig) (i : Nat) (m : String)
    (conf : NicConf) : Prop where
  master : conf.master = m
  addresses : conf.addresses = (ipConfigs[i]?).toList.map fun c => netString c.address
  podIP : device = .awsIpvlan → ∃ c, ipConfigs[i]? = some c ∧ conf.podIP = bytesToStr c.address.ip

/-- The configuration of a master at position `i`. The `aws-ipvlan` loader makes none without an
address. -/
theorem deviceConf_spec {device : Device} (hmulti : n.isMultiNICIPAM = true)
    (hipam : n.plugin.ipamType = "") (hpod : n.plugin.podIP = "") (hips : ipConfigs ≠ []) {i : Nat}
    {m : String} (hm : m ≠ "") {o : Option NicConf}
    (h : deviceConf order getHostIP ifName n ipConfigs device i m mp = some (o, mp')) :
    (device = .awsIpvlan ∧ ipConfigs[i]? = none ∧ o = none) ∨
      ∃ conf, o = some conf ∧ ConfAt device ipConfigs i m conf := by
  have hempty : (singleConfig ifName n i m).ipam = .ofType "" := by
    rw [singleConfig, hipam]
  cases device with
  | ipvlan =>
    have h : ipvlanConf order ifName n ipConfigs i m mp = some (o, mp') := h
    rw [ipvlanConf, if_neg hm, if_pos (List.length_pos_of_ne_nil hips)] at h
    obtain ⟨⟨conf, mp₁⟩, hinject, h⟩ := Option.bind_eq_some_iff.mp h
    cases h
    obtain ⟨hmaster, -, haddr⟩ := injectMultiNicIPAM_eq hempty hinject
    exact Or.inr ⟨conf, rfl, ⟨hmaster, haddr, nofun⟩⟩
  | macvlan =>
    have h : macvlanConf order ifName n ipConfigs i m mp = some (o, mp') := h
    rw [macvlanConf, if_neg hm, if_pos hmulti] at h
    obtain ⟨⟨conf, mp₁⟩, hinject, h⟩ := Option.bind_eq_some_iff.mp h
    cases h
    obtain ⟨hmaster, -, haddr⟩ := injectMultiNicIPAM_eq hempty hinject
    exact Or.inr ⟨conf, rfl, ⟨hmaster, haddr, nofun⟩⟩
  | awsIpvlan =>
    have h : awsConf order ifName n ipConfigs getHostIP i m mp = some (o, mp') := h
    rw [awsConf, if_pos hmulti] at h
    cases hi : ipConfigs[i]? with
    | none =>
      simp only [hi] at h
      cases h
      exact Or.inl ⟨rfl, rfl, rfl⟩
    | some c =>
      simp only [hi] at h
      obtain ⟨⟨conf, mp₁⟩, hinject, h⟩ := Option.bind_eq_some_iff.mp h
      cases h
      have hprimary : ∀ ip, (injectPrimaryIP (singleConfig ifName n i m) ip).ipam = .ofType "" ∧
          (injectPrimaryIP (singleConfig ifName n i m) ip).master = m ∧
          (injectPrimaryIP (singleConfig ifName n i m) ip).podIP = "" := by
        intro ip
        unfold injectPrimaryIP
        split
        · exact ⟨hempty, rfl, hpod⟩
        · exact ⟨hempty, rfl, hpod⟩
      obtain ⟨hipam', hmaster', hpod'⟩ := hprimary ((getHostIP m).elim "<nil>" bytesToStr)
      obtain ⟨hmaster, hpodIP, haddr⟩ := injectMultiNicIPAM_eq hipam' hinject
      have hinjected : injectPodIP conf (bytesToStr c.address.ip) =
          { conf with podIP := bytesToStr c.address.ip } := by
        rw [injectPodIP, if_pos (hpodIP.trans hpod')]
      rw [hinjected]
      exact Or.inr ⟨_, rfl, ⟨hmaster.trans hmaster', haddr, fun _ => ⟨c, hi, rfl⟩⟩⟩

end Body

/-! ## The composition -/

section Composition

variable {ifName : String} {n : NetConf} {device : Device} {ipResponses : List IPResponse}

/-- The response that names a master. -/
def responseFor (ipResponses : List IPResponse) (master : String) : Option IPResponse :=
  ipResponses.find? (·.interfaceName == master)

/-- What a successful run passed between the plugins: the compacted addresses, and the loop of
the loader. -/
theorem confsFor_eq_ok (hreq : ∀ r ∈ ipResponses, r.interfaceName ∈ n.masters)
    (h : confsFor order getHostIP ifName n device ipResponses = some (.ok confs)) :
    ∃ ips mp, ips.map (·.address) = n.masters.filterMap (allocatedTo ipResponses) ∧
      (∀ m ∈ n.masters, (allocatedTo ipResponses m).isSome = (responseFor ipResponses m).isSome) ∧
      (n.masters ≠ [] → ips ≠ []) ∧
      loadConfs (deviceConf order getHostIP ifName n ips device) 0 n.masters none =
        some (confs, mp) := by
  obtain ⟨r, hadd, h⟩ := Option.bind_eq_some_iff.mp h
  cases r with
  | error e => cases h
  | ok ips =>
    obtain ⟨⟨confs', mp⟩, hload, h⟩ := Option.bind_eq_some_iff.mp h
    cases h
    obtain ⟨haddr, hsome⟩ := cmdAdd_addresses hadd
    refine ⟨ips, mp, haddr, hsome, ?_, ?_⟩
    · intro hmasters
      cases hresp : ipResponses with
      | nil =>
        -- without a response the IPAM plugin fails
        rw [hresp, cmdAdd, if_neg (by simp), if_neg (by simpa using hmasters)] at hadd
        cases hadd
      | cons r rs =>
        have hr : r ∈ ipResponses := hresp ▸ List.mem_cons_self
        have hanswered : (responseFor ipResponses r.interfaceName).isSome = true := by
          rw [responseFor, List.find?_isSome]
          exact ⟨r, hr, beq_self_eq_true _⟩
        have halloc := (hsome _ (hreq r hr)).trans hanswered
        obtain ⟨a, ha⟩ := Option.isSome_iff_exists.mp halloc
        rintro rfl
        have hmem := List.mem_filterMap.mpr ⟨_, hreq r hr, ha⟩
        rw [← haddr] at hmem
        cases hmem
    · cases device <;> exact hload

/-- The configurations stand at the positions of their masters: each is at one, and every
master has one unless the loader is `aws-ipvlan` and its position has no address. -/
structure AtPositions (masters : List String) (device : Device) (ips : List IPConfig)
    (confs : List NicConf) : Prop where
  of_conf : ∀ conf ∈ confs, ∃ i m, masters[i]? = some m ∧ ConfAt device ips i m conf
  of_position : ∀ (i : Nat) m, masters[i]? = some m →
    (device = .awsIpvlan ∧ ips[i]? = none) ∨ ∃ conf ∈ confs, ConfAt device ips i m conf

theorem atPositions_of_load (hmulti : n.isMultiNICIPAM = true) (hipam : n.plugin.ipamType = "")
    (hpod : n.plugin.podIP = "") (hnames : ∀ m ∈ n.masters, m ≠ "")
    (hips : n.masters ≠ [] → ips ≠ [])
    (h : loadConfs (deviceConf order getHostIP ifName n ips device) 0 n.masters none =
      some (confs, mp)) : AtPositions n.masters device ips confs := by
  obtain ⟨hconf, hpos⟩ := loadConfs_spec h
  have hbody : ∀ i m mp₁ mp₂ o, n.masters[i]? = some m →
      deviceConf order getHostIP ifName n ips device (0 + i) m mp₁ = some (o, mp₂) →
      (device = .awsIpvlan ∧ ips[i]? = none ∧ o = none) ∨
        ∃ conf, o = some conf ∧ ConfAt device ips i m conf := by
    intro i m mp₁ mp₂ o hi hb
    rw [Nat.zero_add] at hb
    exact deviceConf_spec hmulti hipam hpod (hips (List.ne_nil_of_mem (List.mem_of_getElem? hi)))
      (hnames m (List.mem_of_getElem? hi)) hb
  constructor
  · intro conf hmem
    obtain ⟨i, m, mp₁, mp₂, hi, hb⟩ := hconf conf hmem
    rcases hbody i m mp₁ mp₂ _ hi hb with ⟨-, -, hnone⟩ | ⟨conf', heq, hat⟩
    · cases hnone
    · cases heq
      exact ⟨i, m, hi, hat⟩
  · intro i m hi
    obtain ⟨o, mp₁, mp₂, hb, hmem⟩ := hpos i m hi
    rcases hbody i m mp₁ mp₂ o hi hb with ⟨haws, hnone, -⟩ | ⟨conf, rfl, hat⟩
    · exact Or.inl ⟨haws, hnone⟩
    · exact Or.inr ⟨conf, hmem conf rfl, hat⟩

section Positions

variable (h : AtPositions n.masters device ips confs)
  (haddr : ips.map (·.address) = n.masters.filterMap (allocatedTo ipResponses))

include h haddr

/-- Without a gap the address at the position of a master is its own. -/
theorem carryAllocated_of_noGap (hno : NoGap (allocatedTo ipResponses) n.masters) :
    CarryAllocated n device ipResponses confs := by
  have hkept : ∀ (i : Nat) m, n.masters[i]? = some m → (ips[i]?).map (·.address) =
      allocatedTo ipResponses m := by
    intro i m hi
    rw [← List.getElem?_map, haddr, getElem?_filterMap_of_noGap hno, hi]
    rfl
  refine ⟨?_, ?_, ?_⟩
  · intro conf hmem
    obtain ⟨i, m, hi, hat⟩ := h.of_conf conf hmem
    rw [hat.addresses, hat.master, ← hkept i m hi, Option.map_map, Option.toList_map]
    rfl
  · intro haws conf hmem
    obtain ⟨i, m, hi, hat⟩ := h.of_conf conf hmem
    obtain ⟨c, hc, hpodIP⟩ := hat.podIP haws
    rw [hpodIP, hat.master, ← hkept i m hi, hc]
    rfl
  · intro m hm hsome
    obtain ⟨i, hi⟩ := List.getElem?_of_mem hm
    rcases h.of_position i m hi with ⟨-, hnone⟩ | ⟨conf, hmem, hat⟩
    · rw [← hkept i m hi, hnone] at hsome
      cases hsome
    · exact ⟨conf, hmem, hat.master⟩

/-- If every master has its own address, the answered masters are those of the first
positions. -/
theorem noGap_of_carryAllocated (hnodup : n.masters.Nodup)
    (hcarry : CarryAllocated n device ipResponses confs) :
    NoGap (allocatedTo ipResponses) n.masters := by
  refine noGap_of_isSome_iff ?_
  intro i m hi
  rw [← haddr, List.length_map]
  rcases h.of_position i m hi with ⟨haws, hnone⟩ | ⟨conf, hmem, hat⟩
  · -- no configuration was made for `m`, so it may not be answered
    refine iff_of_false ?_ (Nat.not_lt.mpr (List.getElem?_eq_none_iff.mp hnone))
    intro hsome
    obtain ⟨conf, hconf, hm⟩ := hcarry.generated m (List.mem_of_getElem? hi) hsome
    obtain ⟨j, m', hj, hat⟩ := h.of_conf conf hconf
    obtain rfl : j = i := by
      have hj' : n.masters[j]? = some m := by rw [hj, ← hm, hat.master]
      have hlt := (List.getElem?_eq_some_iff.mp hi).1
      exact ((List.getElem?_inj hlt hnodup).mp (hi.trans hj'.symm)).symm
    obtain ⟨c, hc, -⟩ := hat.podIP haws
    rw [hnone] at hc
    cases hc
  · have hown := hcarry.addresses conf hmem
    rw [hat.addresses, hat.master] at hown
    have hlt : i < ips.length ↔ (ips[i]?).isSome = true := by simp
    rw [hlt]
    cases hc : ips[i]? with
    | none =>
      cases ha : allocatedTo ipResponses m with
      | none => simp
      | some a => simp [hc, ha] at hown
    | some c =>
      cases ha : allocatedTo ipResponses m with
      | none => simp [hc, ha] at hown
      | some a => simp

end Positions

/-- **Each configuration carries the address allocated for its master exactly when no
unanswered master comes before an answered one.** -/
theorem addresses_allocated_iff (hmulti : n.isMultiNICIPAM = true)
    (hipam : n.plugin.ipamType = "") (hpod : n.plugin.podIP = "")
    (hnames : ∀ m ∈ n.masters, m ≠ "") (hnodup : n.masters.Nodup)
    (hreq : ∀ r ∈ ipResponses, r.interfaceName ∈ n.masters) {confs : List NicConf}
    (h : confsFor order getHostIP ifName n device ipResponses = some (.ok confs)) :
    CarryAllocated n device ipResponses confs ↔ NoGap (responseFor ipResponses) n.masters := by
  obtain ⟨ips, mp, haddr, hanswered, hips, hload⟩ := confsFor_eq_ok hreq h
  have hat := atPositions_of_load hmulti hipam hpod hnames hips hload
  have hgap : NoGap (responseFor ipResponses) n.masters ↔
      NoGap (allocatedTo ipResponses) n.masters := by
    refine List.Pairwise.iff_of_mem ?_
    intro a b ha hb
    rw [hanswered a ha, hanswered b hb]
  rw [hgap]
  exact ⟨noGap_of_carryAllocated hat haddr hnodup, carryAllocated_of_noGap hat haddr⟩

end Composition

/-! ## Runs -/

/-- A network with the masters `eth1`, `eth2` and `eth3`. -/
def threeNics : NetConf :=
  { cniVersion := "0.3.0"
    plugin := ⟨"0.3.0", "ipvlan", "", "l3", 1500, "", ""⟩
    masters := ["eth1", "eth2", "eth3"]
    isMultiNICIPAM := true
    ipam := ⟨"multi-nic-ipam", none, [], "", none⟩ }

/-- The responses for the first two masters, in the other order. -/
def firstTwo : List IPResponse :=
  [⟨"eth2", "10.0.64.1", "18"⟩, ⟨"eth1", "10.0.0.1", "18"⟩]

theorem addresses_allocated_firstTwo :
    ∃ confs, confsFor .listed (fun _ => none) "net1" threeNics .ipvlan firstTwo = some (.ok confs) ∧
      CarryAllocated threeNics .ipvlan firstTwo confs := by
  have hrun : (confsFor .listed (fun _ => none) "net1" threeNics .ipvlan firstTwo).map
      (fun r => r.toOption.map (·.map (fun c => (c.master, c.addresses)))) =
      some (some [("eth1", ["10.0.0.1/18"]), ("eth2", ["10.0.64.1/18"]), ("eth3", [])]) := by
    decide +kernel
  obtain ⟨r, hrun, hr⟩ := Option.map_eq_some_iff.mp hrun
  cases r with
  | error e => cases hr
  | ok confs =>
    refine ⟨confs, hrun, (addresses_allocated_iff rfl rfl rfl ?_ ?_ ?_ hrun).mpr ?_⟩ <;> decide

/-- Only `eth2` is answered, and its address goes to `eth1`. -/
theorem addresses_allocated_shifted :
    ∃ confs, confsFor .listed (fun _ => none) "net1" threeNics .ipvlan [⟨"eth2", "10.0.64.1", "18"⟩] =
        some (.ok confs) ∧
      confs.map (fun c => (c.master, c.addresses)) =
        [("eth1", ["10.0.64.1/18"]), ("eth2", []), ("eth3", [])] ∧
      ¬ CarryAllocated threeNics .ipvlan [⟨"eth2", "10.0.64.1", "18"⟩] confs := by
  have hrun : (confsFor .listed (fun _ => none) "net1" threeNics .ipvlan
      [⟨"eth2", "10.0.64.1", "18"⟩]).map
      (fun r => r.toOption.map (·.map (fun c => (c.master, c.addresses)))) =
      some (some [("eth1", ["10.0.64.1/18"]), ("eth2", []), ("eth3", [])]) := by
    decide +kernel
  obtain ⟨r, hrun, hr⟩ := Option.map_eq_some_iff.mp hrun
  cases r with
  | error e => cases hr
  | ok confs =>
    have hconfs : confs.map (fun c => (c.master, c.addresses)) =
        [("eth1", ["10.0.64.1/18"]), ("eth2", []), ("eth3", [])] := Option.some.inj hr
    refine ⟨confs, hrun, hconfs, ?_⟩
    intro hcarry
    obtain ⟨conf, hmem, heq⟩ : ∃ conf ∈ confs, (conf.master, conf.addresses) =
        ("eth1", ["10.0.64.1/18"]) := by
      rw [← List.mem_map, hconfs]
      exact List.mem_cons_self
    have hnone : allocatedTo [⟨"eth2", "10.0.64.1", "18"⟩] "eth1" = none := by decide +kernel
    have hown := hcarry.addresses conf hmem
    rw [(Prod.mk.inj heq).1, (Prod.mk.inj heq).2, hnone] at hown
    cases hown

end MultiNicCni.Cni
