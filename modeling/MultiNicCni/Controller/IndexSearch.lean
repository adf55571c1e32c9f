import MultiNicCni.Compute.Arith
import MultiNicCni.Controller.Placement

/-!
# When the searches for an index end

The searches of `addNewHost` and `NewCIDR` are loops without a bound of their own. This module
says when they end, and with which answer.

- `Unusable`: `ComputeNet` rejects the index, or an exclude makes it tabu;
- `addNewHostLoop_search`: the search of `addNewHost` puts a new index aside in each turn, so
  it ends, and it fails only when every index was in use or unusable;
- `addNewHost_complete`: **`addNewHost` gives a free, usable index with its block, or an error
  exactly when there is none**;
- `vlanLoop_first`, `vlanLoop_stuck`: the search of `NewCIDR` looks for the next usable index;
  past the last one it only ends at an index that is tabu;
- `newCIDR_ends_iff`: **`NewCIDR` ends, with an error if the networks are too many, exactly when
  the subnet is a CIDR and the networks have usable indexes or the last index is tabu**.
-/

namespace MultiNicCni.Controller

open Go Compute Lib

variable {start d fuel : Nat} {i idx : Int} {masters excludes : List String} {base : String}
  {result : Except HandlerError (String × Int)} {config : PluginConfig}

/-! ## Usable indexes -/

/-- A CIDR text or a bare address. -/
def ValidExclude (exclude : String) : Prop :=
  (∃ e, parseCIDR exclude = some e) ∨ ∃ a, parseIP exclude = some a

section Usable

variable {ip : IP4} {n : IPNet} {block : Int}

/-- The tabu check of valid excludes does not panic. -/
theorem tabuLoop_total (hex : ∀ x ∈ excludes, ValidExclude x) {r : Except NetError IP4}
    (hr : computeNet base idx block = some r) (baseBlock : Int) :
    ∃ tabu, tabuLoop base idx block baseBlock excludes = some tabu := by
  induction excludes with
  | nil => exact ⟨false, rfl⟩
  | cons x excludes ih =>
    obtain ⟨tabu, hrest⟩ := ih fun y hy => hex y (List.mem_cons_of_mem x hy)
    rw [tabuLoop]
    rcases hex x List.mem_cons_self with ⟨e, he⟩ | ⟨a, ha⟩
    · obtain ⟨y, z, hsplit, -⟩ := parseCIDR_eq_some he
      rw [hsplit]
      dsimp only [List.getElem?_cons_succ, List.getElem?_cons_zero]
      split
      · simp only [he, hr, Option.bind_eq_bind, Option.bind_some]
        split
        · exact ⟨true, rfl⟩
        · exact ⟨tabu, hrest⟩
      · exact ⟨tabu, hrest⟩
    · rw [split_of_not_mem (not_mem_of_parseIP ha rfl (by decide))]
      exact ⟨tabu, hrest⟩

theorem checkIfTabuIndex_total (hbase : parseCIDR base = some (ip, n))
    (hex : ∀ x ∈ excludes, ValidExclude x) (idx : Int) (k : Nat) :
    ∃ tabu, checkIfTabuIndex base idx k excludes = some tabu := by
  obtain ⟨tabu, htabu⟩ := tabuLoop_total hex (computeNet_eq hbase idx k) n.ones
  exact ⟨tabu, Option.bind_eq_some_iff.mpr ⟨_, blockOf_eq hbase, htabu⟩⟩

/-- An index is unusable, or it has a block. -/
theorem unusable_or_assigned (hbase : parseCIDR base = some (ip, n))
    (hex : ∀ x ∈ excludes, ValidExclude x) (idx : Int) (k : Nat) :
    Unusable base k excludes idx ∨ ∃ cidr, Assigned base k excludes idx cidr := by
  cases hnet : addAddress (ip.mask (n.ones + k)) n.mask k idx with
  | error e =>
    refine Or.inl (Or.inl ⟨e, ?_⟩)
    rw [computeNet_eq hbase, hnet]
  | ok r =>
    obtain ⟨tabu, htabu⟩ := checkIfTabuIndex_total hbase hex idx k
    cases tabu with
    | true =>
      refine Or.inl (Or.inr ⟨r, ?_, htabu⟩)
      rw [computeNet_eq hbase, hnet]
    | false =>
      refine Or.inr ⟨_, r, ?_, htabu, getCIDRFromByte_eq hbase r k⟩
      rw [computeNet_eq hbase, hnet]

/-- In a network, unusable is rejected or tabu. -/
theorem unusable_iff (hbase : parseCIDR base = some (ip, n)) (idx : Int) (k : Nat) :
    Unusable base k excludes idx ↔ (∃ e, computeNet base idx k = some (.error e)) ∨
      checkIfTabuIndex base idx k excludes = some true := by
  constructor
  · rintro (herror | ⟨r, -, htabu⟩)
    · exact Or.inl herror
    · exact Or.inr htabu
  · rintro (herror | htabu)
    · exact Or.inl herror
    · cases hnet : addAddress (ip.mask (n.ones + k)) n.mask k idx with
      | error e =>
        refine Or.inl ⟨e, ?_⟩
        rw [computeNet_eq hbase, hnet]
      | ok r =>
        refine Or.inr ⟨r, ?_, htabu⟩
        rw [computeNet_eq hbase, hnet]

end Usable

/-! ## The search of `addNewHost` -/

section Host

variable {maxHostIndex block : Int} {vlan : String} {xs : List Int}

/-- The next index is in range. -/
theorem nextHostIndex_le (h0 : 0 ≤ maxHostIndex) (h : Indexes xs) (hle : ∀ x ∈ xs, x ≤ maxHostIndex)
    (hi : nextHostIndex maxHostIndex (sortInts xs) = .ok i) : i ≤ maxHostIndex := by
  rcases nextHostIndex_eq_ok hi with ⟨-, rfl⟩ | ⟨-, -, -, hne, rfl⟩ | ⟨-, -, -, hin⟩
  · exact h0
  · obtain ⟨x, hx, hlt⟩ := ((findAvailableIndex_sorted h.nodup h.nonneg).resolve_left
      fun hrun => hne hrun.1).lt
    have := hle x ((sortInts_perm xs).mem_iff.mp hx)
    omega
  · exact hin

/-- The search gives up when every index is taken. -/
theorem nextHostIndex_error (h : Indexes xs) {e : HandlerError}
    (he : nextHostIndex maxHostIndex (sortInts xs) = .error e) (hi0 : 0 ≤ i) (hi : i ≤ maxHostIndex) :
    i ∈ xs := by
  obtain ⟨last, hlast, hlarge, hnone⟩ := nextHostIndex_eq_error he
  -- the sorted indexes are a run from 0, which reaches the last index
  rcases findAvailableIndex_sorted h.nodup h.nonneg with ⟨-, hrun⟩ | hgap
  · refine (sortInts_perm xs).mem_iff.mp ?_
    have hmem := List.mem_of_getLast? hlast
    rw [hrun] at hmem ⊢
    obtain ⟨j, hj, hjlast⟩ := List.mem_map.mp hmem
    have hjlt := List.mem_range.mp hj
    exact List.mem_map.mpr ⟨i.toNat, List.mem_range.mpr (by omega), by omega⟩
  · have := hgap.le
    omega

/-- There is no room for more than all indexes. -/
theorem Indexes.length_le (h : Indexes xs) (hle : ∀ x ∈ xs, x ≤ maxHostIndex)
    (h0 : 0 ≤ maxHostIndex) : (xs.length : Int) ≤ maxHostIndex + 1 := by
  have hsub : xs.toFinset ⊆ Finset.Icc 0 maxHostIndex := fun x hx =>
    Finset.mem_Icc.mpr ⟨h.nonneg x (List.mem_toFinset.mp hx), hle x (List.mem_toFinset.mp hx)⟩
  have hcard := Finset.card_le_card hsub
  rw [List.toFinset_card_of_nodup h.nodup, Int.card_Icc] at hcard
  omega

/-- While there is a next index, not all are in use. -/
theorem nextHostIndex_room (h0 : 0 ≤ maxHostIndex) (h : Indexes xs)
    (hle : ∀ x ∈ xs, x ≤ maxHostIndex) (hnext : nextHostIndex maxHostIndex (sortInts xs) = .ok i) :
    (xs.length : Int) ≤ maxHostIndex := by
  have hfresh := nextHostIndex_fresh h hnext
  have hmore : Indexes (i :: xs) :=
    ⟨List.nodup_cons.mpr ⟨hfresh.1, h.nodup⟩, List.forall_mem_cons.mpr ⟨hfresh.2, h.nonneg⟩⟩
  have hlen := hmore.length_le
    (List.forall_mem_cons.mpr ⟨nextHostIndex_le h0 h hle hnext, hle⟩) h0
  rw [List.length_cons] at hlen
  push_cast at hlen
  omega

/-- **The search ends.** Each turn puts one more index aside, so as many turns as there are
indexes left are enough; and an error means that every index was taken or is unusable. -/
theorem addNewHostLoop_search (h0 : 0 ≤ maxHostIndex)
    (hdec : ∀ i, Unusable vlan block excludes i ∨ ∃ cidr, Assigned vlan block excludes i cidr)
    (hxs : Indexes xs) (hle : ∀ x ∈ xs, x ≤ maxHostIndex) (hd : maxHostIndex + 1 ≤ xs.length + d) :
    ∃ result, addNewHostLoop maxHostIndex vlan block excludes (d + 1) xs = some result ∧
      ∀ e, result = .error e → ∀ i, 0 ≤ i → i ≤ maxHostIndex →
        i ∈ xs ∨ Unusable vlan block excludes i := by
  induction d generalizing xs with
  | zero =>
    rw [addNewHostLoop]
    cases hnext : nextHostIndex maxHostIndex (sortInts xs) with
    | error e => exact ⟨_, rfl, fun _ _ i hi0 hi => Or.inl (nextHostIndex_error hxs hnext hi0 hi)⟩
    | ok i =>
      have hroom := nextHostIndex_room h0 hxs hle hnext
      push_cast at hd
      omega
  | succ d ih =>
    rw [addNewHostLoop]
    cases hnext : nextHostIndex maxHostIndex (sortInts xs) with
    | error e => exact ⟨_, rfl, fun _ _ i hi0 hi => Or.inl (nextHostIndex_error hxs hnext hi0 hi)⟩
    | ok i =>
      have hfresh := nextHostIndex_fresh hxs hnext
      have hmem : ∀ x, x ∈ sortInts xs ↔ x ∈ xs := fun x => (sortInts_perm xs).mem_iff
      have hle' : ∀ x ∈ sortInts xs ++ [i], x ≤ maxHostIndex := by
        intro x hx
        rcases List.mem_append.mp hx with hx | hx
        · exact hle x ((hmem x).mp hx)
        · rw [List.mem_singleton.mp hx]
          exact nextHostIndex_le h0 hxs hle hnext
      obtain ⟨result, hrest, hall⟩ := ih (hxs.snoc hfresh) hle' (by
        rw [List.length_append, (sortInts_perm xs).length_eq, List.length_singleton]
        push_cast at hd ⊢
        omega)
      have hput (hi : Unusable vlan block excludes i) : ∀ e, result = .error e → ∀ j, 0 ≤ j →
          j ≤ maxHostIndex → j ∈ xs ∨ Unusable vlan block excludes j := by
        intro e he j hj0 hj
        rcases hall e he j hj0 hj with hin | hun
        · rcases List.mem_append.mp hin with hin | hin
          · exact Or.inl ((hmem j).mp hin)
          · rw [List.mem_singleton.mp hin]
            exact Or.inr hi
        · exact Or.inr hun
      dsimp only
      rcases hdec i with hun | ⟨cidr, r, hr, htabu, hcidr⟩
      · refine ⟨result, ?_, hput hun⟩
        rcases hun with ⟨e, he⟩ | ⟨r, hr, htabu⟩
        · simp only [he, Option.bind_eq_bind, Option.bind_some]
          exact hrest
        · simp only [hr, htabu, Option.bind_eq_bind, Option.bind_some, if_true]
          exact hrest
      · refine ⟨.ok (cidr, i), ?_, fun e he => ?_⟩
        · simp only [hr, htabu, hcidr, Option.bind_eq_bind, Option.bind_some]
          rfl
        · cases he

/-- More fuel gives the same answer. -/
theorem addNewHostLoop_succ_fuel
    (h : addNewHostLoop maxHostIndex vlan block excludes fuel xs = some result) :
    addNewHostLoop maxHostIndex vlan block excludes (fuel + 1) xs = some result := by
  induction fuel generalizing xs with
  | zero => cases h
  | succ fuel ih =>
    rw [addNewHostLoop] at h ⊢
    cases hnext : nextHostIndex maxHostIndex (sortInts xs) with
    | error e =>
      rw [hnext] at h
      exact h
    | ok i =>
      rw [hnext] at h
      obtain ⟨net, hnet, h⟩ := Option.bind_eq_some_iff.mp h
      refine Option.bind_eq_some_iff.mpr ⟨net, hnet, ?_⟩
      cases net with
      | error e => exact ih h
      | ok r =>
        obtain ⟨tabu, htabu, h⟩ := Option.bind_eq_some_iff.mp h
        refine Option.bind_eq_some_iff.mpr ⟨tabu, htabu, ?_⟩
        cases tabu with
        | true => exact ih h
        | false => exact h

theorem addNewHost_mono {hosts : List HostInterfaceInfo} {fuel' : Nat} (hle : fuel ≤ fuel')
    (h : addNewHost fuel hosts maxHostIndex vlan block excludes = some result) :
    addNewHost fuel' hosts maxHostIndex vlan block excludes = some result := by
  unfold addNewHost at h ⊢
  by_cases hmax : maxHostIndex = 0
  · rw [if_pos hmax] at h ⊢
    exact h
  · rw [if_neg hmax] at h ⊢
    induction fuel', hle using Nat.le_induction with
    | base => exact h
    | succ fuel' _ ih => exact addNewHostLoop_succ_fuel ih

end Host

/-- The text is that of block `idx` of the network `base`, of `k` more bits. -/
structure IsBlockText (base : String) (ip : IP4) (p k : Nat) (idx : Int) (cidr : String) : Prop where
  network : IsNetwork cidr (p + k)
  inside : cidrSet cidr ⊆ cidrSet base
  block : ∃ r, computeNet base idx k = some (.ok r) ∧ cidr = cidrString r (p + k) ∧
    IsBlock ip p k idx.toNat r ∧
    (2 ^ (32 - p) ∣ ip.toNat → r.toNat = ip.toNat + idx.toNat * 2 ^ (32 - p - k))

/-- An assigned index has such a text. -/
theorem Assigned.isBlockText {cidr : String} {ip : IP4} {n : IPNet} {k : Nat}
    (hbase : parseCIDR base = some (ip, n)) (hfit : n.ones + k ≤ 32)
    (h : Assigned base k excludes idx cidr) (hidx : 0 ≤ idx) :
    IsBlockText base ip n.ones k idx cidr := by
  obtain ⟨r, hr, -, hcidr⟩ := h
  rw [getCIDRFromByte_eq hbase] at hcidr
  cases hcidr
  have hb := computeNet_isBlock hbase hfit hidx hr
  obtain ⟨hnet, hsub⟩ := block_isNetwork hbase hfit hb
  refine ⟨hnet, hsub, r, hr, rfl, hb, fun haligned => ?_⟩
  obtain ⟨r', hr', hval⟩ := computeNet_aligned hbase hfit haligned hb.lt
  rw [Int.toNat_of_nonneg hidx, hr] at hr'
  cases hr'
  exact hval

/-- **`addNewHost` finds an index exactly when there is one.** It ends; an index it gives is in
range, not in use and not tabu, and comes with the text of its block; and it gives an error
exactly when every index is in use, tabu or rejected by `ComputeNet`. -/
theorem addNewHost_complete {hosts : List HostInterfaceInfo} {vlan : String} {ip : IP4} {n : IPNet}
    {hb : Nat} {excludes : List String} (hvlan : parseCIDR vlan = some (ip, n)) (hpos : 1 ≤ hb)
    (hfit : n.ones + hb ≤ 32) (hnodup : (hosts.map (·.hostIndex)).Nodup)
    (hrange : ∀ host ∈ hosts, 0 ≤ host.hostIndex ∧ host.hostIndex ≤ 2 ^ hb - 1)
    (hex : ∀ x ∈ excludes, ValidExclude x) :
    ∃ result, (∃ enough, ∀ fuel, enough ≤ fuel →
        addNewHost fuel hosts (powMinusOne hb) vlan hb excludes = some result) ∧
      (∀ cidr idx, result = .ok (cidr, idx) →
        0 ≤ idx ∧ idx ≤ 2 ^ hb - 1 ∧ idx ∉ hosts.map (·.hostIndex) ∧
        checkIfTabuIndex vlan idx hb excludes = some false ∧
        IsBlockText vlan ip n.ones hb idx cidr) ∧
      ((∃ e, result = .error e) ↔ ∀ idx, 0 ≤ idx → idx ≤ 2 ^ hb - 1 →
        idx ∈ hosts.map (·.hostIndex) ∨ checkIfTabuIndex vlan idx hb excludes = some true ∨
        ∃ e, computeNet vlan idx hb = some (.error e)) := by
  have hmax : powMinusOne hb = 2 ^ hb - 1 := powMinusOne_eq (by omega)
  have hne : powMinusOne hb ≠ 0 := powMinusOne_ne_zero (by exact_mod_cast hpos)
  have h0 : 0 ≤ powMinusOne hb := by
    have : (1 : Int) ≤ 2 ^ hb := by exact_mod_cast Nat.one_le_two_pow
    omega
  have hxs : Indexes (hosts.map (·.hostIndex)) := by
    refine ⟨hnodup, fun x hx => ?_⟩
    obtain ⟨host, hhost, rfl⟩ := List.mem_map.mp hx
    exact (hrange host hhost).1
  have hle : ∀ x ∈ hosts.map (·.hostIndex), x ≤ powMinusOne hb := by
    intro x hx
    obtain ⟨host, hhost, rfl⟩ := List.mem_map.mp hx
    rw [hmax]
    exact (hrange host hhost).2
  obtain ⟨result, hrun, herror⟩ := addNewHostLoop_search h0
    (fun i => unusable_or_assigned hvlan hex i hb) (d := (powMinusOne hb + 1).toNat) hxs hle
    (by omega)
  have hadd : addNewHost ((powMinusOne hb + 1).toNat + 1) hosts (powMinusOne hb) vlan hb excludes =
      some result := by
    rw [addNewHost, if_neg hne]
    exact hrun
  have hok : ∀ cidr idx, result = .ok (cidr, idx) →
      0 ≤ idx ∧ idx ≤ 2 ^ hb - 1 ∧ idx ∉ hosts.map (·.hostIndex) ∧
      checkIfTabuIndex vlan idx hb excludes = some false ∧
      IsBlockText vlan ip n.ones hb idx cidr := by
    rintro cidr idx rfl
    obtain ⟨ha, hfresh⟩ := addNewHost_spec hne hadd
    obtain ⟨hnot, hidx⟩ := hfresh hxs
    obtain ⟨r, hr, htabu, -⟩ := id ha
    have hlt : ((idx.toNat : Nat) : Int) < 2 ^ hb := by
      exact_mod_cast (computeNet_isBlock hvlan hfit hidx hr).lt
    exact ⟨hidx, by omega, hnot, htabu, ha.isBlockText hvlan hfit hidx⟩
  refine ⟨result, ⟨_, fun fuel hfuel => addNewHost_mono hfuel hadd⟩, hok, ?_, ?_⟩
  · rintro ⟨e, rfl⟩ idx hidx hidx'
    rcases herror e rfl idx hidx (by omega) with hin | hun
    · exact Or.inl hin
    · rcases (unusable_iff hvlan idx hb).mp hun with hrejected | htabu
      · exact Or.inr (Or.inr hrejected)
      · exact Or.inr (Or.inl htabu)
  · intro hall
    cases hres : result with
    | error e => exact ⟨e, rfl⟩
    | ok found =>
      -- the index found is none of the three
      obtain ⟨cidr, idx⟩ := found
      obtain ⟨hidx, hidx', hnot, htabu, hblock⟩ := hok cidr idx hres
      obtain ⟨r, hr, -⟩ := hblock.block
      rcases hall idx hidx hidx' with hin | htrue | ⟨e, he⟩
      · exact absurd hin hnot
      · rw [htabu] at htrue
        cases htrue
      · rw [hr] at he
        cases he

/-- A network of four blocks: the first is excluded and the second in use, so the search ends
with one of the others. -/
theorem addNewHost_complete_four : ∃ cidr idx enough, (∀ fuel, enough ≤ fuel →
      addNewHost fuel [⟨1, "a", "eth1", "10.0.1.1", "10.0.0.64/26", "net-10.0.0.64-26"⟩]
        (powMinusOne (2 : Nat)) "10.0.0.0/24" (2 : Nat) ["10.0.0.0/26"] = some (.ok (cidr, idx))) ∧
    0 ≤ idx ∧ idx ≤ 3 ∧ idx ≠ 1 ∧
    checkIfTabuIndex "10.0.0.0/24" idx (2 : Nat) ["10.0.0.0/26"] = some false := by
  obtain ⟨⟨ip, n⟩, hvlan⟩ := Option.isSome_iff_exists.mp
    (show (parseCIDR "10.0.0.0/24").isSome = true by decide +kernel)
  have hones : n.ones = 24 := by
    have h : (parseCIDR "10.0.0.0/24").map (fun x => x.2.ones) = some 24 := by decide +kernel
    rw [hvlan] at h
    exact Option.some.inj h
  have hfit : n.ones + 2 ≤ 32 := by omega
  have hnodup : (([⟨1, "a", "eth1", "10.0.1.1", "10.0.0.64/26", "net-10.0.0.64-26"⟩] :
      List HostInterfaceInfo).map (·.hostIndex)).Nodup := by decide
  have hex : ∀ x ∈ ["10.0.0.0/26"], ValidExclude x := by
    intro x hx
    rw [List.mem_singleton.mp hx]
    exact Or.inl (Option.isSome_iff_exists.mp (by decide +kernel))
  obtain ⟨result, ⟨enough, hrun⟩, hok, herror⟩ :=
    addNewHost_complete hvlan (by decide) hfit hnodup (by decide) hex
  cases result with
  | error e =>
    rcases herror.mp ⟨e, rfl⟩ 2 (by decide) (by decide) with hin | htabu | ⟨e, he⟩
    · exact absurd hin (by decide)
    · exact absurd htabu (by decide +kernel)
    · have hnet : (computeNet "10.0.0.0/24" 2 (2 : Nat)).map Except.toOption =
          some (some ⟨10, 0, 0, 128⟩) := by decide +kernel
      rw [he] at hnet
      cases hnet
  | ok found =>
    obtain ⟨hidx, hidx', hnot, htabu, -⟩ := hok found.1 found.2 rfl
    exact ⟨found.1, found.2, enough, hrun, hidx, hidx', fun h => hnot (by simp [h]), htabu⟩

/-! ## The search of `NewCIDR` -/

/-- `ComputeNet` gives the interface index a block, and no exclude covers it. -/
def usable (config : PluginConfig) (idx : Int) : Bool :=
  match computeNet config.subnet idx config.interfaceBlock with
  | some (.ok _) =>
    checkIfTabuIndex config.subnet idx config.interfaceBlock config.excludeCIDRs == some false
  | _ => false

/-- The last interface index has a block, and that block is tabu. -/
def lastTabu (config : PluginConfig) : Bool :=
  let maxInterfaceIndex := powMinusOne config.interfaceBlock
  decide (0 ≤ maxInterfaceIndex) &&
    match computeNet config.subnet maxInterfaceIndex config.interfaceBlock with
    | some (.ok _) => checkIfTabuIndex config.subnet maxInterfaceIndex config.interfaceBlock
        config.excludeCIDRs == some true
    | _ => false

/-- The number of usable interface indexes from `start` on. -/
def usableFrom (config : PluginConfig) (start : Nat) : Nat :=
  (List.range' start ((powMinusOne config.interfaceBlock + 1).toNat - start)).countP
    fun i : Nat => usable config i

/-- The number of interface indexes of `ib` bits that no exclude covers. -/
def nonExcluded (config : PluginConfig) (ib : Nat) : Nat :=
  (List.range (2 ^ ib)).countP fun i : Nat =>
    checkIfTabuIndex config.subnet i config.interfaceBlock config.excludeCIDRs == some false

/-- `ComputeNet` accepts no index past the last one. -/
theorem computeNet_le {block : Int} {r : IP4} (h : computeNet base idx block = some (.ok r)) :
    idx ≤ powMinusOne block := by
  unfold computeNet at h
  split at h
  · cases h
  · obtain ⟨startIP, -, h⟩ := Option.bind_eq_some_iff.mp h
    obtain ⟨mask, -, h⟩ := Option.bind_eq_some_iff.mp h
    have h := Option.some.inj h
    unfold addAddress at h
    by_contra hlt
    rw [if_pos (by omega)] at h
    cases h

section Vlan

theorem usable_iff : usable config idx = true ↔
    (∃ r, computeNet config.subnet idx config.interfaceBlock = some (.ok r)) ∧
      checkIfTabuIndex config.subnet idx config.interfaceBlock config.excludeCIDRs = some false := by
  unfold usable
  split
  · next r hr => simp [hr]
  · next hnot =>
    simp only [Bool.false_eq_true, false_iff, not_and]
    rintro ⟨r, hr⟩
    exact absurd hr (hnot r)

theorem lastTabu_iff : lastTabu config = true ↔ 0 ≤ powMinusOne config.interfaceBlock ∧
    (∃ r, computeNet config.subnet (powMinusOne config.interfaceBlock) config.interfaceBlock =
      some (.ok r)) ∧
    checkIfTabuIndex config.subnet (powMinusOne config.interfaceBlock) config.interfaceBlock
      config.excludeCIDRs = some true := by
  unfold lastTabu
  dsimp only
  split
  · next r hr => simp [hr]
  · next hnot =>
    simp only [Bool.and_false, Bool.false_eq_true, false_iff, not_and]
    rintro - ⟨r, hr⟩
    exact absurd hr (hnot r)

theorem usable_le (h : usable config idx = true) : idx ≤ powMinusOne config.interfaceBlock := by
  obtain ⟨⟨r, hr⟩, -⟩ := usable_iff.mp h
  exact computeNet_le hr

/-- Counting one index at a time. -/
theorem usableFrom_succ (start : Nat) :
    usableFrom config start =
      usableFrom config (start + 1) + if usable config start then 1 else 0 := by
  unfold usableFrom
  by_cases hlt : start < (powMinusOne config.interfaceBlock + 1).toNat
  · obtain ⟨d, hd⟩ : ∃ d, (powMinusOne config.interfaceBlock + 1).toNat - start = d + 1 :=
      ⟨(powMinusOne config.interfaceBlock + 1).toNat - start - 1, by omega⟩
    rw [hd, List.range'_succ, List.countP_cons,
      show (powMinusOne config.interfaceBlock + 1).toNat - (start + 1) = d by omega]
  · have hun : ¬ usable config start = true := fun hus => by
      have := usable_le hus
      omega
    rw [if_neg hun, show (powMinusOne config.interfaceBlock + 1).toNat - start = 0 by omega,
      show (powMinusOne config.interfaceBlock + 1).toNat - (start + 1) = 0 by omega]
    rfl

/-- Either no index from `start` on is usable, or there is a first one. -/
theorem usableFrom_cases (config : PluginConfig) (start : Nat) :
    (usableFrom config start = 0 ∧ ∀ i : Nat, start ≤ i → usable config i = false) ∨
      ∃ d : Nat, usable config (start + d : Nat) = true ∧
        (∀ j < d, usable config (start + j : Nat) = false) ∧
        usableFrom config start = usableFrom config (start + d + 1) + 1 := by
  -- the skipped indexes do not count
  have hskip : ∀ d, (∀ j < d, usable config (start + j : Nat) = false) →
      usableFrom config start = usableFrom config (start + d) := by
    intro d
    induction d with
    | zero => exact fun _ => rfl
    | succ d ih =>
      intro hfalse
      rw [ih fun j hj => hfalse j (by omega), usableFrom_succ, hfalse d (by omega)]
      rfl
  by_cases hex : ∃ d : Nat, usable config (start + d : Nat) = true
  · have hfirst : ∀ j < Nat.find hex, usable config (start + j : Nat) = false := fun j hj =>
      Bool.eq_false_iff.mpr (Nat.find_min hex hj)
    refine Or.inr ⟨Nat.find hex, Nat.find_spec hex, hfirst, ?_⟩
    rw [hskip _ hfirst, usableFrom_succ, if_pos (Nat.find_spec hex)]
  · have hnone : ∀ d : Nat, usable config (start + d : Nat) = false := fun d =>
      Bool.eq_false_iff.mpr fun h => hex ⟨d, h⟩
    refine Or.inl ⟨?_, fun i hi => ?_⟩
    · rw [hskip ((powMinusOne config.interfaceBlock + 1).toNat) fun j _ => hnone j, usableFrom,
        show (powMinusOne config.interfaceBlock + 1).toNat -
          (start + (powMinusOne config.interfaceBlock + 1).toNat) = 0 by omega]
      rfl
    · have h := hnone (i - start)
      rwa [show start + (i - start) = i by omega] at h

/-- Every interface index is unusable or has a block: no turn of the search panics. -/
def Decided (config : PluginConfig) : Prop :=
  ∀ idx, Unusable config.subnet config.interfaceBlock config.excludeCIDRs idx ∨
    ∃ cidr, Assigned config.subnet config.interfaceBlock config.excludeCIDRs idx cidr

theorem decided_of_parse {ip : IP4} {n : IPNet} {ib : Nat}
    (hsubnet : parseCIDR config.subnet = some (ip, n)) (hib : config.interfaceBlock = ib)
    (hex : ∀ x ∈ config.excludeCIDRs, ValidExclude x) : Decided config := by
  intro idx
  rw [hib]
  exact unusable_or_assigned hsubnet hex idx ib

theorem decided_of_invalid (hsubnet : parseCIDR config.subnet = none) : Decided config := by
  intro idx
  refine Or.inl (Or.inl ⟨.invalidCIDR config.subnet, ?_⟩)
  rw [computeNet, hsubnet]

/-- A usable index is taken. -/
theorem vlanLoop_usable (hdec : Decided config) (h : usable config idx = true) (fuel : Nat) :
    ∃ cidr, vlanLoop config (powMinusOne config.interfaceBlock) (fuel + 1) idx =
      some (.ok (idx, cidr)) := by
  obtain ⟨⟨r, hr⟩, htabu⟩ := usable_iff.mp h
  rcases hdec idx with hun | ⟨cidr, r', hr', -, hcidr⟩
  · rcases hun with ⟨e, he⟩ | ⟨-, -, htrue⟩
    · rw [hr] at he
      cases he
    · rw [htabu] at htrue
      cases htrue
  · refine ⟨cidr, ?_⟩
    rw [vlanLoop]
    simp only [hr', htabu, hcidr, Option.bind_eq_bind, Option.bind_some]
    rfl

/-- Any other index is skipped, unless it is the last one and tabu. -/
theorem vlanLoop_skip (hdec : Decided config) (h : usable config idx = false) (h0 : 0 ≤ idx)
    (hlast : lastTabu config = true → idx ≠ powMinusOne config.interfaceBlock) (fuel : Nat) :
    vlanLoop config (powMinusOne config.interfaceBlock) (fuel + 1) idx =
      vlanLoop config (powMinusOne config.interfaceBlock) fuel (idx + 1) := by
  rw [vlanLoop]
  rcases hdec idx with hun | ⟨cidr, r, hr, htabu, -⟩
  · rcases hun with ⟨e, he⟩ | ⟨r, hr, htabu⟩
    · simp only [he, Option.bind_eq_bind, Option.bind_some]
    · simp only [hr, htabu, Option.bind_eq_bind, Option.bind_some, if_true]
      refine if_neg fun hlarge => ?_
      have hle := computeNet_le hr
      have heq : idx = powMinusOne config.interfaceBlock := by omega
      refine hlast (lastTabu_iff.mpr ⟨by omega, ?_, ?_⟩) heq
      · exact ⟨r, heq ▸ hr⟩
      · exact heq ▸ htabu
  · rw [usable_iff.mpr ⟨⟨r, hr⟩, htabu⟩] at h
    cases h

/-- At a last index that is tabu the search gives up. -/
theorem vlanLoop_last (h : lastTabu config = true) (fuel : Nat) :
    vlanLoop config (powMinusOne config.interfaceBlock) (fuel + 1)
      (powMinusOne config.interfaceBlock) = some (.error .overflowInterfaceIndex) := by
  obtain ⟨-, ⟨r, hr⟩, htabu⟩ := lastTabu_iff.mp h
  rw [vlanLoop]
  simp only [hr, htabu, Option.bind_eq_bind, Option.bind_some, if_true]
  exact if_pos (by omega)

/-- A step to the next index, counted from the start. -/
theorem vlanLoop_next (hdec : Decided config) (h : usable config start = false)
    (hlast : lastTabu config = true → (start : Int) ≠ powMinusOne config.interfaceBlock)
    (fuel : Nat) : vlanLoop config (powMinusOne config.interfaceBlock) (fuel + 1) start =
      vlanLoop config (powMinusOne config.interfaceBlock) fuel (start + 1 : Nat) := by
  rw [vlanLoop_skip hdec h (by omega) hlast]
  rfl

/-- The first usable index seen from the next start. -/
theorem firstUsable_succ (hus : usable config (start + (d + 1) : Nat) = true)
    (hskip : ∀ j < d + 1, usable config (start + j : Nat) = false) :
    usable config start = false ∧ usable config (start + 1 + d : Nat) = true ∧
      ∀ j < d, usable config (start + 1 + j : Nat) = false := by
  have hshift (j : Nat) : start + 1 + j = start + (j + 1) := by omega
  refine ⟨hskip 0 (by omega), ?_, fun j hj => ?_⟩
  · rw [hshift]
    exact hus
  · rw [hshift]
    exact hskip (j + 1) (by omega)

/-- The first usable index is found. -/
theorem vlanLoop_first (hdec : Decided config) (hus : usable config (start + d : Nat) = true)
    (hskip : ∀ j < d, usable config (start + j : Nat) = false) (hfuel : d < fuel) :
    ∃ cidr, vlanLoop config (powMinusOne config.interfaceBlock) fuel start =
      some (.ok ((start + d : Nat), cidr)) := by
  induction d generalizing start fuel with
  | zero =>
    obtain ⟨fuel, rfl⟩ : ∃ f, fuel = f + 1 := ⟨fuel - 1, by omega⟩
    exact vlanLoop_usable hdec hus fuel
  | succ d ih =>
    obtain ⟨fuel, rfl⟩ : ∃ f, fuel = f + 1 := ⟨fuel - 1, by omega⟩
    have hle := usable_le hus
    obtain ⟨hnow, hus', hskip'⟩ := firstUsable_succ hus hskip
    rw [vlanLoop_next hdec hnow (by omega), show start + (d + 1) = start + 1 + d by omega]
    exact ih hus' hskip' (by omega)

/-- Before it has come to a usable index the search has not ended. -/
theorem vlanLoop_short (hdec : Decided config) (hus : usable config (start + d : Nat) = true)
    (hskip : ∀ j < d, usable config (start + j : Nat) = false) (hfuel : fuel ≤ d) :
    vlanLoop config (powMinusOne config.interfaceBlock) fuel start = none := by
  induction fuel generalizing start d with
  | zero => rfl
  | succ fuel ih =>
    obtain ⟨d, rfl⟩ : ∃ e, d = e + 1 := ⟨d - 1, by omega⟩
    have hle := usable_le hus
    obtain ⟨hnow, hus', hskip'⟩ := firstUsable_succ hus hskip
    rw [vlanLoop_next hdec hnow (by omega)]
    exact ih hus' hskip' (by omega)

/-- Without a usable index the search runs up to a last index that is tabu … -/
theorem vlanLoop_overflow (hdec : Decided config) (hlast : lastTabu config = true)
    (hnone : ∀ i : Nat, start ≤ i → usable config i = false)
    (hle : (start : Int) ≤ powMinusOne config.interfaceBlock)
    (hfuel : (powMinusOne config.interfaceBlock - start).toNat < fuel) :
    vlanLoop config (powMinusOne config.interfaceBlock) fuel start =
      some (.error .overflowInterfaceIndex) := by
  obtain ⟨d, hd⟩ : ∃ d, (powMinusOne config.interfaceBlock - start).toNat = d := ⟨_, rfl⟩
  induction d generalizing start fuel with
  | zero =>
    obtain ⟨fuel, rfl⟩ : ∃ f, fuel = f + 1 := ⟨fuel - 1, by omega⟩
    rw [show (start : Int) = powMinusOne config.interfaceBlock by omega]
    exact vlanLoop_last hlast fuel
  | succ d ih =>
    obtain ⟨fuel, rfl⟩ : ∃ f, fuel = f + 1 := ⟨fuel - 1, by omega⟩
    rw [vlanLoop_next hdec (hnone start le_rfl) (by omega)]
    exact ih (fun i hi => hnone i (by omega)) (by push_cast; omega) (by push_cast; omega)
      (by push_cast; omega)

/-- … and otherwise for ever (the `int` of the source wraps around after 2^63 turns only). -/
theorem vlanLoop_stuck (hdec : Decided config) (hlast : lastTabu config = false)
    (hnone : ∀ i : Nat, start ≤ i → usable config i = false) (fuel : Nat) :
    vlanLoop config (powMinusOne config.interfaceBlock) fuel start = none := by
  induction fuel generalizing start with
  | zero => rfl
  | succ fuel ih =>
    have hnot (h : lastTabu config = true) : (start : Int) ≠ powMinusOne config.interfaceBlock := by
      rw [hlast] at h
      cases h
    rw [vlanLoop_next hdec (hnone start le_rfl) hnot]
    exact ih fun i hi => hnone i (by omega)

/-- Once the first network has its index, the others start at the next one. -/
theorem newEntries_cons {cidr : String}
    (hfound : vlanLoop config (powMinusOne config.interfaceBlock) fuel start =
      some (.ok ((start + d : Nat), cidr))) (master : String) (masters : List String) :
    newEntries fuel config start (master :: masters) =
      (newEntries fuel config (start + d + 1 : Nat) masters).map fun rest => match rest with
        | .error e => .error e
        | .ok entries => .ok (⟨master, (start + d : Nat), cidr, []⟩ :: entries) := by
  rw [newEntries, hfound]
  simp only [Option.bind_eq_bind, Option.bind_some]
  rw [show ((start + d : Nat) : Int) + 1 = (start + d + 1 : Nat) by push_cast; rfl]
  cases newEntries fuel config (start + d + 1 : Nat) masters with
  | none => rfl
  | some rest => cases rest <;> rfl

/-- With a usable index for every network, all are laid out. -/
theorem newEntries_fits (hdec : Decided config) (hfits : masters.length ≤ usableFrom config start) :
    ∃ enough entries, ∀ fuel, enough ≤ fuel →
      newEntries fuel config start masters = some (.ok entries) := by
  induction masters generalizing start with
  | nil => exact ⟨0, [], fun _ _ => rfl⟩
  | cons master masters ih =>
    rw [List.length_cons] at hfits
    rcases usableFrom_cases config start with ⟨hzero, -⟩ | ⟨d, hus, hskip, hcount⟩
    · omega
    obtain ⟨enough, entries, hrest⟩ := ih (show masters.length ≤ usableFrom config (start + d + 1) by
      omega)
    obtain ⟨cidr, hcidr⟩ := vlanLoop_first hdec hus hskip (Nat.lt_succ_self d)
    refine ⟨max (d + 1) enough, ⟨master, (start + d : Nat), cidr, []⟩ :: entries, ?_⟩
    intro fuel hfuel
    obtain ⟨cidr', hfound⟩ := vlanLoop_first hdec hus hskip (show d < fuel by omega)
    -- the text does not depend on the fuel
    obtain rfl : cidr' = cidr :=
      (vlanLoop_spec hfound).2.unique (vlanLoop_spec hcidr).2
    have hnext := hrest fuel (by omega)
    rw [newEntries_cons hfound, hnext]
    rfl

/-- With too few usable indexes and a last one that is tabu, an error comes back. -/
theorem newEntries_overflow (hdec : Decided config) (hlast : lastTabu config = true)
    (hmore : usableFrom config start < masters.length)
    (hle : (start : Int) ≤ powMinusOne config.interfaceBlock) :
    ∃ enough, ∀ fuel, enough ≤ fuel →
      newEntries fuel config start masters = some (.error .overflowInterfaceIndex) := by
  induction masters generalizing start with
  | nil => exact absurd hmore (Nat.not_lt_zero _)
  | cons master masters ih =>
    rw [List.length_cons] at hmore
    rcases usableFrom_cases config start with ⟨-, hnone⟩ | ⟨d, hus, hskip, hcount⟩
    · refine ⟨(powMinusOne config.interfaceBlock - start).toNat + 1, fun fuel hfuel => ?_⟩
      rw [newEntries, vlanLoop_overflow hdec hlast hnone hle (by omega)]
      rfl
    · -- the usable index is not the last one, which is tabu
      have hlt : ((start + d : Nat) : Int) < powMinusOne config.interfaceBlock := by
        refine lt_of_le_of_ne (usable_le hus) fun heq => ?_
        obtain ⟨-, -, htabu⟩ := lastTabu_iff.mp hlast
        have hfalse := (usable_iff.mp hus).2
        rw [heq, htabu] at hfalse
        cases hfalse
      obtain ⟨enough, hrest⟩ := ih (show usableFrom config (start + d + 1) < masters.length by omega)
        (by push_cast at hlt ⊢; omega)
      refine ⟨max (d + 1) enough, fun fuel hfuel => ?_⟩
      obtain ⟨cidr, hfound⟩ := vlanLoop_first hdec hus hskip (show d < fuel by omega)
      have hnext := hrest fuel (by omega)
      rw [newEntries_cons hfound, hnext]
      rfl

/-- With too few usable indexes and any other last one, nothing ever comes back. -/
theorem newEntries_stuck (hdec : Decided config) (hlast : lastTabu config = false)
    (hmore : usableFrom config start < masters.length) (fuel : Nat) :
    newEntries fuel config start masters = none := by
  induction masters generalizing start with
  | nil => exact absurd hmore (Nat.not_lt_zero _)
  | cons master masters ih =>
    rw [List.length_cons] at hmore
    rcases usableFrom_cases config start with ⟨-, hnone⟩ | ⟨d, hus, hskip, hcount⟩
    · rw [newEntries, vlanLoop_stuck hdec hlast hnone]
      rfl
    · by_cases hfuel : fuel ≤ d
      · rw [newEntries, vlanLoop_short hdec hus hskip hfuel]
        rfl
      · obtain ⟨cidr, hfound⟩ := vlanLoop_first hdec hus hskip (show d < fuel by omega)
        have hnext := ih (show usableFrom config (start + d + 1) < masters.length by omega)
        rw [newEntries_cons hfound, hnext]
        rfl

end Vlan

/-- `NewCIDR` ends, and with an error if the networks are more than the indexes that no exclude
covers or the subnet is no CIDR. -/
def EndsInTime (config : PluginConfig) (ib : Nat) (snapshot : GoMap String HostInterface) : Prop :=
  ∃ result, (∃ enough, ∀ fuel, enough ≤ fuel → newCIDR fuel config snapshot = some result) ∧
    (nonExcluded config ib < config.masterNetAddrs.length ∨ parseCIDR config.subnet = none →
      ∃ e, result = .error e)

section Ends

variable {ib : Nat} (snapshot : GoMap String HostInterface)

/-- With a subnet, `NewCIDR` lays out the networks of the definition. -/
theorem newCIDR_eq (hsubnet : config.subnet ≠ "") (fuel : Nat) :
    newCIDR fuel config snapshot =
      (newEntries fuel config (0 : Nat) config.masterNetAddrs).bind fun entries =>
        some (entries.map fun entries => ⟨config, entries⟩) := by
  rw [newCIDR, if_neg hsubnet]
  rfl

/-- In a subnet that is no CIDR no index has a block, so the search for the first network does
not end; without a network no error comes back. -/
theorem not_endsInTime_of_invalid (hsubnet : config.subnet ≠ "")
    (hparse : parseCIDR config.subnet = none) : ¬ EndsInTime config ib snapshot := by
  rintro ⟨result, ⟨enough, hrun⟩, herror⟩
  have hun : ∀ idx, usable config idx = false := fun idx => by
    rw [usable, computeNet, hparse]
  have hlast : lastTabu config = false := by
    rw [lastTabu, computeNet, hparse]
    exact Bool.and_false _
  have hzero : usableFrom config 0 = 0 :=
    List.countP_eq_zero.mpr fun i _ => by rw [hun]; exact Bool.false_ne_true
  have hres := hrun enough le_rfl
  rw [newCIDR_eq snapshot hsubnet] at hres
  cases hmasters : config.masterNetAddrs with
  | nil =>
    rw [hmasters] at hres
    obtain ⟨e, rfl⟩ := herror (Or.inr hparse)
    cases hres
  | cons master masters =>
    have hmore : usableFrom config 0 < config.masterNetAddrs.length := by
      rw [hzero, hmasters]
      exact Nat.succ_pos _
    rw [newEntries_stuck (decided_of_invalid hparse) hlast hmore] at hres
    cases hres

/-- The networks all get an index. -/
theorem endsInTime_of_fits (hsubnet : config.subnet ≠ "") {parsed : IP4 × IPNet}
    (hparse : parseCIDR config.subnet = some parsed) (hdec : Decided config)
    (hfits : config.masterNetAddrs.length ≤ usableFrom config 0) :
    EndsInTime config ib snapshot ↔ config.masterNetAddrs.length ≤ nonExcluded config ib := by
  obtain ⟨enough, entries, hrun⟩ := newEntries_fits hdec hfits
  constructor
  · rintro ⟨result, ⟨enough', hrun'⟩, herror⟩
    by_contra hfew
    obtain ⟨e, rfl⟩ := herror (Or.inl (by omega))
    have hres := hrun' (max enough enough') (le_max_right _ _)
    rw [newCIDR_eq snapshot hsubnet, hrun _ (le_max_left _ _)] at hres
    cases hres
  · intro hroom
    refine ⟨.ok ⟨config, entries⟩, ⟨enough, fun fuel hfuel => ?_⟩, ?_⟩
    · rw [newCIDR_eq snapshot hsubnet, hrun fuel hfuel]
      rfl
    · rintro (hfew | hinvalid)
      · omega
      · rw [hparse] at hinvalid
        cases hinvalid

/-- The networks are too many. -/
theorem endsInTime_of_more (hsubnet : config.subnet ≠ "") (hdec : Decided config)
    (hmore : usableFrom config 0 < config.masterNetAddrs.length) :
    EndsInTime config ib snapshot ↔ lastTabu config = true := by
  cases hlast : lastTabu config with
  | true =>
    refine iff_of_true ?_ rfl
    obtain ⟨enough, hrun⟩ := newEntries_overflow hdec hlast hmore (lastTabu_iff.mp hlast).1
    refine ⟨.error .overflowInterfaceIndex, ⟨enough, fun fuel hfuel => ?_⟩, fun _ => ⟨_, rfl⟩⟩
    rw [newCIDR_eq snapshot hsubnet, hrun fuel hfuel]
    rfl
  | false =>
    refine iff_of_false ?_ Bool.false_ne_true
    rintro ⟨result, ⟨enough, hrun⟩, -⟩
    have hres := hrun enough le_rfl
    rw [newCIDR_eq snapshot hsubnet, newEntries_stuck hdec hlast hmore] at hres
    cases hres

/-- **`NewCIDR` ends as it should exactly when the subnet is a CIDR, and either every network
gets a usable index or the last index is tabu.** The exit of the search is on the path of a
tabu index only. -/
theorem newCIDR_ends_iff (hsubnet : config.subnet ≠ "") (hib : config.interfaceBlock = ib)
    (hex : ∀ x ∈ config.excludeCIDRs, ValidExclude x) :
    EndsInTime config ib snapshot ↔ (parseCIDR config.subnet).isSome = true ∧
      ((config.masterNetAddrs.length ≤ usableFrom config 0 ∧
          config.masterNetAddrs.length ≤ nonExcluded config ib) ∨
        (usableFrom config 0 < config.masterNetAddrs.length ∧ lastTabu config = true)) := by
  cases hparse : parseCIDR config.subnet with
  | none => exact iff_of_false (not_endsInTime_of_invalid snapshot hsubnet hparse) (by simp)
  | some parsed =>
    have hdec : Decided config := decided_of_parse hparse hib hex
    rw [Option.isSome_some, eq_self_iff_true, true_and]
    by_cases hfits : config.masterNetAddrs.length ≤ usableFrom config 0
    · rw [endsInTime_of_fits snapshot hsubnet hparse hdec hfits]
      constructor
      · exact fun hroom => Or.inl ⟨hfits, hroom⟩
      · rintro (⟨-, hroom⟩ | ⟨hmore, -⟩)
        · exact hroom
        · omega
    · have hmore : usableFrom config 0 < config.masterNetAddrs.length := by omega
      rw [endsInTime_of_more snapshot hsubnet hdec hmore]
      constructor
      · exact fun hlast => Or.inr ⟨hmore, hlast⟩
      · rintro (⟨hle, -⟩ | ⟨-, hlast⟩)
        · omega
        · exact hlast

end Ends

/-- A definition of networks in a /16 with four interface indexes. -/
def fourIndexes (subnet : String) (masterNetAddrs : List String) : PluginConfig :=
  { name := "net", subnet, masterNetAddrs, hostBlock := 8, interfaceBlock := 2
    excludeCIDRs := [], vlanMode := "" }

/-- Three networks get three of the four indexes. -/
theorem newCIDR_ends_threeNetworks : EndsInTime
    (fourIndexes "192.168.0.0/16" ["10.0.1.0/24", "10.0.2.0/24", "10.0.3.0/24"]) 2 ∅ := by
  refine (newCIDR_ends_iff ∅ (by decide) rfl ?_).mpr
    ⟨by decide +kernel, Or.inl ⟨by decide +kernel, by decide +kernel⟩⟩
  exact fun x hx => absurd hx List.not_mem_nil

/-- A subnet without a prefix length, and five networks for four indexes: in both cases the
search goes on for ever. -/
theorem newCIDR_hangs :
    (∀ fuel, newCIDR fuel (fourIndexes "192.168.0.0" ["10.0.1.0/24"]) ∅ = none) ∧
    ¬ EndsInTime (fourIndexes "192.168.0.0" ["10.0.1.0/24"]) 2 ∅ ∧
    ¬ EndsInTime (fourIndexes "192.168.0.0/16"
      ["10.0.1.0/24", "10.0.2.0/24", "10.0.3.0/24", "10.0.4.0/24", "10.0.5.0/24"]) 2 ∅ := by
  have hinvalid : parseCIDR (fourIndexes "192.168.0.0" ["10.0.1.0/24"]).subnet = none := by
    decide +kernel
  refine ⟨fun fuel => ?_, not_endsInTime_of_invalid ∅ (by decide) hinvalid, ?_⟩
  · rw [newCIDR_eq ∅ (by decide), newEntries_stuck (decided_of_invalid hinvalid) (by decide +kernel)
      (by decide +kernel)]
    rfl
  · obtain ⟨parsed, hparse⟩ := Option.isSome_iff_exists.mp
      (show (parseCIDR "192.168.0.0/16").isSome = true by decide +kernel)
    have hdec : Decided (fourIndexes "192.168.0.0/16"
        ["10.0.1.0/24", "10.0.2.0/24", "10.0.3.0/24", "10.0.4.0/24", "10.0.5.0/24"]) :=
      decided_of_parse hparse (show _ = ((2 : Nat) : Int) from rfl)
        fun x hx => absurd hx List.not_mem_nil
    rw [endsInTime_of_more ∅ (by decide) hdec (by decide +kernel)]
    decide +kernel

end MultiNicCni.Controller
