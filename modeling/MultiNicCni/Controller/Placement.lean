import MultiNicCni.Compute.Index
import MultiNicCni.Controller.CidrHandler
import MultiNicCni.Lib.Fold

/-!
# What the functions of a pass can do

One lemma per function of `CidrHandler`, from which every invariant of the entries is
derived without unfolding them again:

- `Assigned base block excludes idx cidr`: the text `cidr` is block `idx` of `base`, and
  not excluded. Both search loops only return such pairs (`addNewHostLoop_spec`,
  `interfaceIndexLoop_spec`), with an index that was not in use;
- `tryAddNewHost_eq`: a host is added by the search for an index (`searchIn`);
- `getInterfaceEntry_cases`: where the entry of a network comes from;
- `filterEntries_spec`, `dropDied_cases`: what the first and the last loop of `UpdateEntries` leave;
- `generate_induction`: a property of the entries that each step of `GenerateCIDRFromHostSubnet`
  keeps.

The second loop of `UpdateEntries` is in `Controller/Turns.lean`.
-/

namespace MultiNicCni.Controller

open Go Compute Lib

variable {maxInterfaceIndex i block maxHostIndex : Int} {xs : List Int} {host : HostInterfaceInfo}
  {hosts : List HostInterfaceInfo} {entriesMap : GoMap String CIDREntry} {net hostName : String}
  {excludes : List String} {config : PluginConfig} {fuel : Nat} {st : HostSubnetState}
  {iface : InterfaceInfoType} {snapshot : GoMap String HostInterface}

/-! ## Blocks assigned by index -/

/-- `cidr` is the text of block `idx` of `base`, and that block is not excluded. -/
def Assigned (base : String) (block : Int) (excludes : List String) (idx : Int)
    (cidr : String) : Prop :=
  ∃ r, computeNet base idx block = some (.ok r) ∧
    checkIfTabuIndex base idx block excludes = some false ∧
    getCIDRFromByte r base block = some cidr

/-- `ComputeNet` rejects the index, or gives it a block that is tabu. -/
def Unusable (base : String) (block : Int) (excludes : List String) (idx : Int) : Prop :=
  (∃ e, computeNet base idx block = some (.error e)) ∨
    ∃ r, computeNet base idx block = some (.ok r) ∧
      checkIfTabuIndex base idx block excludes = some true

section Assigned

variable {base : String} {idx : Int} {excludes' : List String} {cidr cidr' : String}

/-- The text is a function of the index. -/
theorem Assigned.unique (h : Assigned base block excludes idx cidr)
    (h' : Assigned base block excludes' idx cidr') : cidr = cidr' := by
  obtain ⟨r, hr, -, hc⟩ := h
  obtain ⟨r', hr', -, hc'⟩ := h'
  rw [hr] at hr'
  cases hr'
  rw [hc] at hc'
  exact Option.some.inj hc'

/-- No exclude of a list makes the index tabu iff none does on its own. -/
theorem tabuLoop_cons_false {baseBlock : Int} {exclude : String} {rest : List String} :
    tabuLoop base idx block baseBlock (exclude :: rest) = some false ↔
      tabuLoop base idx block baseBlock [exclude] = some false ∧
        tabuLoop base idx block baseBlock rest = some false := by
  have hnil : tabuLoop base idx block baseBlock [] = some false := rfl
  rw [tabuLoop, tabuLoop]
  cases (split exclude '/')[1]? with
  | none => simp [hnil]
  | some s =>
    dsimp only
    by_cases hle : (parseInt 10 s.toList).1 ≤ baseBlock + block
    · rw [if_pos hle, if_pos hle]
      cases parseCIDR exclude with
      | none => simp
      | some pair =>
        cases computeNet base idx block with
        | none => simp
        | some netInByte =>
          by_cases hin : pair.2.contains (netInByte.toOption.getD ⟨0, 0, 0, 0⟩) = true <;>
            simp [hin, hnil]
    · rw [if_neg hle, if_neg hle]
      simp [hnil]

theorem tabuLoop_false {baseBlock : Int} :
    ∀ excludes : List String, tabuLoop base idx block baseBlock excludes = some false ↔
      ∀ x ∈ excludes, tabuLoop base idx block baseBlock [x] = some false
  | [] => by simp [tabuLoop]
  | x :: rest => by
    rw [tabuLoop_cons_false, tabuLoop_false rest, List.forall_mem_cons]

/-- The order of the excludes does not matter. -/
theorem checkIfTabuIndex_perm (hp : excludes'.Perm excludes)
    (h : checkIfTabuIndex base idx block excludes = some false) :
    checkIfTabuIndex base idx block excludes' = some false := by
  obtain ⟨baseBlock, hb, hloop⟩ := Option.bind_eq_some_iff.mp h
  refine Option.bind_eq_some_iff.mpr ⟨baseBlock, hb, ?_⟩
  rw [tabuLoop_false] at hloop ⊢
  exact fun x hx => hloop x (hp.mem_iff.mp hx)

theorem Assigned.perm (hp : excludes'.Perm excludes)
    (h : Assigned base block excludes idx cidr) : Assigned base block excludes' idx cidr := by
  obtain ⟨r, hr, htabu, hcidr⟩ := h
  exact ⟨r, hr, checkIfTabuIndex_perm hp htabu, hcidr⟩

theorem Assigned.not_unusable (h : Assigned base block excludes idx cidr) :
    ¬ Unusable base block excludes idx := by
  obtain ⟨r, hr, htabu, -⟩ := h
  rintro (⟨e, he⟩ | ⟨-, -, htrue⟩)
  · rw [hr] at he
    cases he
  · rw [htabu] at htrue
    cases htrue

end Assigned

/-! ## The search for an index -/

/-- Indexes in use: distinct and not negative. -/
structure Indexes (xs : List Int) : Prop where
  nodup : xs.Nodup
  nonneg : ∀ x ∈ xs, 0 ≤ x

/-- An index that can still be given. -/
def Fresh (xs : List Int) (i : Int) : Prop := i ∉ xs ∧ 0 ≤ i

theorem Indexes.sublist {ys : List Int} (h : Indexes ys) (hsub : xs.Sublist ys) : Indexes xs :=
  ⟨h.nodup.sublist hsub, fun x hx => h.nonneg x (hsub.subset hx)⟩

theorem Indexes.snoc (h : Indexes xs) (hi : Fresh xs i) : Indexes (sortInts xs ++ [i]) := by
  have hmem : ∀ x, x ∈ sortInts xs ↔ x ∈ xs := fun x => (sortInts_perm xs).mem_iff
  constructor
  · rw [List.nodup_append]
    refine ⟨(sortInts_perm xs).nodup_iff.mpr h.nodup, List.nodup_singleton i, ?_⟩
    rintro x hx y hy rfl
    rw [List.mem_singleton.mp hy] at hx
    exact hi.1 ((hmem i).mp hx)
  · intro x hx
    rcases List.mem_append.mp hx with hx | hx
    · exact h.nonneg x ((hmem x).mp hx)
    · rw [List.mem_singleton.mp hx]
      exact hi.2

theorem Fresh.of_snoc {j : Int} (h : Fresh (sortInts xs ++ [j]) i) : Fresh xs i :=
  ⟨fun hi => h.1 (List.mem_append_left _ ((sortInts_perm xs).mem_iff.mpr hi)), h.2⟩

/-- One after the last index is fresh. -/
theorem Indexes.fresh_last (h : Indexes xs) {last : Int}
    (hlast : (sortInts xs).getLast? = some last) : Fresh xs (last + 1) := by
  obtain ⟨hmem, hle⟩ := sortInts_getLast hlast
  refine ⟨fun hin => ?_, ?_⟩
  · have := hle _ hin
    omega
  · have := h.nonneg _ hmem
    omega

/-- The search for a gap answers -1 or a fresh index. -/
theorem Indexes.fresh_gap (h : Indexes xs) :
    findAvailableIndex (sortInts xs) 0 0 = -1 ∨ Fresh xs (findAvailableIndex (sortInts xs) 0 0) := by
  rcases findAvailableIndex_sorted h.nodup h.nonneg with ⟨hneg, -⟩ | hgap
  · exact Or.inl hneg
  · exact Or.inr ⟨fun hin => hgap.not_mem ((sortInts_perm xs).mem_iff.mpr hin), hgap.le⟩

theorem fresh_of_sortInts_nil (hnil : (sortInts xs).getLast? = none) : Fresh xs 0 := by
  rw [sortInts_getLast_none hnil]
  exact ⟨List.not_mem_nil, le_rfl⟩

/-- Where the next index comes from. -/
theorem nextHostIndex_eq_ok {sorted : List Int} (h : nextHostIndex maxHostIndex sorted = .ok i) :
    (sorted.getLast? = none ∧ i = 0) ∨
      (∃ last, sorted.getLast? = some last ∧ maxHostIndex < last + 1 ∧ i ≠ -1 ∧
        i = findAvailableIndex sorted 0 0) ∨
      ∃ last, sorted.getLast? = some last ∧ i = last + 1 ∧ i ≤ maxHostIndex := by
  unfold nextHostIndex at h
  split at h
  · next hlast =>
    cases h
    exact .inl ⟨hlast, rfl⟩
  · next last hlast =>
    split at h
    · next hlarge =>
      dsimp only at h
      split at h
      · cases h
      · next hne =>
        cases h
        exact .inr (.inl ⟨last, hlast, hlarge, hne, rfl⟩)
    · next hin =>
      cases h
      exact .inr (.inr ⟨last, hlast, rfl, Int.not_lt.mp hin⟩)

/-- Why there is no next index. -/
theorem nextHostIndex_eq_error {sorted : List Int} {e : HandlerError}
    (h : nextHostIndex maxHostIndex sorted = .error e) :
    ∃ last, sorted.getLast? = some last ∧ maxHostIndex < last + 1 ∧
      findAvailableIndex sorted 0 0 = -1 := by
  unfold nextHostIndex at h
  split at h
  · cases h
  · next last hlast =>
    split at h
    · next hlarge =>
      dsimp only at h
      split at h
      · next hnone => exact ⟨last, hlast, hlarge, hnone⟩
      · cases h
    · cases h

theorem nextHostIndex_fresh (h : Indexes xs) (hi : nextHostIndex maxHostIndex (sortInts xs) = .ok i) :
    Fresh xs i := by
  rcases nextHostIndex_eq_ok hi with ⟨hnil, rfl⟩ | ⟨-, -, -, hne, rfl⟩ | ⟨last, hlast, rfl, -⟩
  · exact fresh_of_sortInts_nil hnil
  · exact h.fresh_gap.resolve_left hne
  · exact h.fresh_last hlast

theorem nextInterfaceIndex_fresh (h : Indexes xs) :
    Fresh xs (nextInterfaceIndex (sortInts xs)) := by
  unfold nextInterfaceIndex
  dsimp only
  split
  · cases hlast : (sortInts xs).getLast? with
    | none => exact fresh_of_sortInts_nil hlast
    | some last => exact h.fresh_last hlast
  · next hnn =>
    refine h.fresh_gap.resolve_left ?_
    intro hneg
    omega

section Search

variable {idx : Int} {vlan cidr : String}

/-- One turn of the host search: the next index is taken, or put aside. -/
theorem addNewHostLoop_succ
    (h : addNewHostLoop maxHostIndex vlan block excludes (fuel + 1) xs = some (.ok (cidr, idx))) :
    ∃ i, nextHostIndex maxHostIndex (sortInts xs) = .ok i ∧
      ((i = idx ∧ Assigned vlan block excludes idx cidr) ∨
        (Unusable vlan block excludes i ∧
          addNewHostLoop maxHostIndex vlan block excludes fuel (sortInts xs ++ [i]) =
            some (.ok (cidr, idx)))) := by
  rw [addNewHostLoop] at h
  cases hnext : nextHostIndex maxHostIndex (sortInts xs) with
  | error e =>
    rw [hnext] at h
    cases h
  | ok i =>
    rw [hnext] at h
    refine ⟨i, rfl, ?_⟩
    obtain ⟨net, hnet, h⟩ := Option.bind_eq_some_iff.mp h
    cases net with
    | error e => exact Or.inr ⟨Or.inl ⟨e, hnet⟩, h⟩
    | ok r =>
      obtain ⟨tabu, htabu, h⟩ := Option.bind_eq_some_iff.mp h
      cases tabu with
      | true => exact Or.inr ⟨Or.inr ⟨r, hnet, htabu⟩, h⟩
      | false =>
        obtain ⟨pod, hpod, h⟩ := Option.bind_eq_some_iff.mp h
        cases h
        exact Or.inl ⟨rfl, r, hnet, htabu, hpod⟩

/-- The host search returns an assigned block, whose index was not in use. -/
theorem addNewHostLoop_spec
    (h : addNewHostLoop maxHostIndex vlan block excludes fuel xs = some (.ok (cidr, idx))) :
    Assigned vlan block excludes idx cidr ∧ (Indexes xs → Fresh xs idx) := by
  induction fuel generalizing xs with
  | zero => cases h
  | succ fuel ih =>
    obtain ⟨i, hi, ⟨rfl, ha⟩ | ⟨-, hrest⟩⟩ := addNewHostLoop_succ h
    · exact ⟨ha, fun hxs => nextHostIndex_fresh hxs hi⟩
    · obtain ⟨ha, hfresh⟩ := ih hrest
      exact ⟨ha, fun hxs => (hfresh (hxs.snoc (nextHostIndex_fresh hxs hi))).of_snoc⟩

/-- One turn of the interface search. -/
theorem interfaceIndexLoop_succ
    (h : interfaceIndexLoop config maxInterfaceIndex (fuel + 1) xs = some (some (idx, cidr))) :
    (nextInterfaceIndex (sortInts xs) = idx ∧
        Assigned config.subnet config.interfaceBlock config.excludeCIDRs idx cidr) ∨
      interfaceIndexLoop config maxInterfaceIndex fuel
        (sortInts xs ++ [nextInterfaceIndex (sortInts xs)]) = some (some (idx, cidr)) := by
  rw [interfaceIndexLoop] at h
  split at h
  · cases h
  · obtain ⟨tabu, htabu, h⟩ := Option.bind_eq_some_iff.mp h
    cases tabu with
    | true => exact Or.inr h
    | false =>
      obtain ⟨net, hnet, h⟩ := Option.bind_eq_some_iff.mp h
      cases net with
      | error e => exact Or.inr h
      | ok r =>
        obtain ⟨vlan, hvlan, h⟩ := Option.bind_eq_some_iff.mp h
        cases h
        exact Or.inl ⟨rfl, r, hnet, htabu, hvlan⟩

/-- The interface search returns an assigned block, whose index was not in use. -/
theorem interfaceIndexLoop_spec
    (h : interfaceIndexLoop config maxInterfaceIndex fuel xs = some (some (idx, cidr))) :
    Assigned config.subnet config.interfaceBlock config.excludeCIDRs idx cidr ∧
      (Indexes xs → Fresh xs idx) := by
  induction fuel generalizing xs with
  | zero => cases h
  | succ fuel ih =>
    obtain ⟨rfl, ha⟩ | hrest := interfaceIndexLoop_succ h
    · exact ⟨ha, nextInterfaceIndex_fresh⟩
    · obtain ⟨ha, hfresh⟩ := ih hrest
      exact ⟨ha, fun hxs => (hfresh (hxs.snoc (nextInterfaceIndex_fresh hxs))).of_snoc⟩

/-- The search of `NewCIDR` goes upwards from its start. -/
theorem vlanLoop_spec {start : Int}
    (h : vlanLoop config maxInterfaceIndex fuel start = some (.ok (idx, cidr))) :
    start ≤ idx ∧ Assigned config.subnet config.interfaceBlock config.excludeCIDRs idx cidr := by
  induction fuel generalizing start with
  | zero => cases h
  | succ fuel ih =>
    have hnext (h : vlanLoop config maxInterfaceIndex fuel (start + 1) = some (.ok (idx, cidr))) :
        start ≤ idx ∧
          Assigned config.subnet config.interfaceBlock config.excludeCIDRs idx cidr := by
      obtain ⟨hle, ha⟩ := ih h
      exact ⟨by omega, ha⟩
    rw [vlanLoop] at h
    obtain ⟨net, hnet, h⟩ := Option.bind_eq_some_iff.mp h
    cases net with
    | error e => exact hnext h
    | ok r =>
      obtain ⟨tabu, htabu, h⟩ := Option.bind_eq_some_iff.mp h
      cases tabu with
      | true =>
        rw [if_pos rfl] at h
        split at h
        · cases h
        · exact hnext h
      | false =>
        obtain ⟨vlan, hvlan, h⟩ := Option.bind_eq_some_iff.mp h
        cases h
        exact ⟨le_rfl, r, hnet, htabu, hvlan⟩

end Search

/-- `NewCIDR` gives the networks of a definition increasing indexes and no hosts. -/
theorem newEntries_spec :
    ∀ {masters : List String} {start : Int} {entries : List CIDREntry},
      newEntries fuel config start masters = some (.ok entries) →
      (entries.map (·.interfaceIndex)).Pairwise (· < ·) ∧ ∀ e ∈ entries, start ≤ e.interfaceIndex ∧
        Assigned config.subnet config.interfaceBlock config.excludeCIDRs e.interfaceIndex e.vlanCIDR ∧
        e.hosts = []
  | [], start, entries, h => by
    cases h
    exact ⟨List.Pairwise.nil, fun e he => absurd he List.not_mem_nil⟩
  | master :: masters, start, entries, h => by
    rw [newEntries] at h
    obtain ⟨found, hfound, h⟩ := Option.bind_eq_some_iff.mp h
    cases found with
    | error e => cases h
    | ok found =>
      obtain ⟨index, vlan⟩ := found
      obtain ⟨rest, hrest, h⟩ := Option.bind_eq_some_iff.mp h
      cases rest with
      | error e => cases h
      | ok rest =>
        cases h
        obtain ⟨hle, ha⟩ := vlanLoop_spec hfound
        obtain ⟨hincr, hall⟩ := newEntries_spec hrest
        refine ⟨List.pairwise_cons.mpr ⟨?_, hincr⟩, ?_⟩
        · intro i hi
          obtain ⟨e, he, rfl⟩ := List.mem_map.mp hi
          have := (hall e he).1
          show index < e.interfaceIndex
          omega
        · intro e he
          rcases List.mem_cons.mp he with rfl | he
          · exact ⟨hle, ha, rfl⟩
          · obtain ⟨hlt, hrest⟩ := hall e he
            exact ⟨by omega, hrest⟩

/-! ## One interface of the snapshot -/

section Place

variable {entry entry' : CIDREntry}

/-- The record `tryAddNewHost` makes. -/
def newHost (config : PluginConfig) (hostName : String) (iface : InterfaceInfoType)
    (podCIDR : String) (hostIndex : Int) : HostInterfaceInfo :=
  ⟨hostIndex, hostName, iface.interfaceName, iface.hostIP, podCIDR,
    getIPPoolName config.name podCIDR⟩

/-- The hosts with that record added, in the order of the indexes. -/
def withHost (config : PluginConfig) (hostName : String) (iface : InterfaceInfoType)
    (podCIDR : String) (hostIndex : Int) (hosts : List HostInterfaceInfo) :
    List HostInterfaceInfo :=
  sortStable HostInterfaceInfo.hostIndex
    (hosts ++ [newHost config hostName iface podCIDR hostIndex])

theorem withHost_perm (config : PluginConfig) (hostName : String) (iface : InterfaceInfoType)
    (podCIDR : String) (hostIndex : Int) (hosts : List HostInterfaceInfo) :
    (withHost config hostName iface podCIDR hostIndex hosts).Perm
      (newHost config hostName iface podCIDR hostIndex :: hosts) :=
  (sortStable_perm _ _).trans (List.perm_append_singleton _ _)

/-- A new name keeps the names distinct. -/
theorem nodup_names_withHost {podCIDR : String} {hostIndex : Int}
    (hnot : hostName ∉ hosts.map (·.hostName)) (h : (hosts.map (·.hostName)).Nodup) :
    ((withHost config hostName iface podCIDR hostIndex hosts).map (·.hostName)).Nodup := by
  rw [((withHost_perm config hostName iface podCIDR hostIndex hosts).map _).nodup_iff]
  exact List.nodup_cons.mpr ⟨hnot, h⟩

/-- A fresh index keeps the indexes distinct and not negative. -/
theorem Indexes.withHost {podCIDR : String} {hostIndex : Int}
    (h : Indexes (hosts.map (·.hostIndex))) (hfresh : Fresh (hosts.map (·.hostIndex)) hostIndex) :
    Indexes ((withHost config hostName iface podCIDR hostIndex hosts).map (·.hostIndex)) := by
  have hperm := (withHost_perm config hostName iface podCIDR hostIndex hosts).map (·.hostIndex)
  constructor
  · rw [hperm.nodup_iff]
    exact List.nodup_cons.mpr ⟨hfresh.1, h.nodup⟩
  · intro x hx
    rcases List.mem_cons.mp (hperm.mem_iff.mp hx) with rfl | hx
    · exact hfresh.2
    · exact h.nonneg x hx

/-- `addNewHost` in a network that is shared out by host blocks. -/
theorem addNewHost_spec {idx : Int} {vlan cidr : String} (hmax : maxHostIndex ≠ 0)
    (h : addNewHost fuel hosts maxHostIndex vlan block excludes = some (.ok (cidr, idx))) :
    Assigned vlan block excludes idx cidr ∧
      (Indexes (hosts.map (·.hostIndex)) → Fresh (hosts.map (·.hostIndex)) idx) := by
  rw [addNewHost, if_neg hmax] at h
  exact addNewHostLoop_spec h

/-- The search for an index in the entry of a network. -/
def searchIn (fuel : Nat) (config : PluginConfig) (entry : CIDREntry)
    (hosts : List HostInterfaceInfo) : Option (Except HandlerError (String × Int)) :=
  addNewHost fuel hosts (powMinusOne config.hostBlock) entry.vlanCIDR config.hostBlock
    config.excludeCIDRs

/-- The entry with the host at the index found, and whether there is one. -/
def addFound (config : PluginConfig) (hostName : String) (iface : InterfaceInfoType)
    (entry : CIDREntry) (existingHosts : List HostInterfaceInfo) :
    Except HandlerError (String × Int) → CIDREntry × Bool
  | .ok (podCIDR, hostIndex) =>
    ({ entry with hosts := withHost config hostName iface podCIDR hostIndex existingHosts }, true)
  | .error _ => (entry, false)

/-- `tryAddNewHost` is the search and the new record. -/
theorem tryAddNewHost_eq (fuel : Nat) (config : PluginConfig) (hostName : String)
    (iface : InterfaceInfoType) (entry : CIDREntry) (existingHosts : List HostInterfaceInfo) :
    tryAddNewHost fuel existingHosts entry (powMinusOne config.hostBlock) config hostName
        iface.interfaceName iface.hostIP =
      (searchIn fuel config entry existingHosts).map
        (addFound config hostName iface entry existingHosts) := by
  rw [tryAddNewHost, ← searchIn]
  cases searchIn fuel config entry existingHosts with
  | none => rfl
  | some found => cases found <;> rfl

theorem getHostIndex_eq_none :
    getHostIndex hosts hostName = none ↔ hostName ∉ hosts.map (·.hostName) := by
  simp only [getHostIndex, List.findIdx?_eq_none_iff, beq_eq_false_iff_ne, List.mem_map, not_exists,
    not_and]

theorem getHostIndex_eq_some {i : Nat} (hi : getHostIndex hosts hostName = some i)
    (hhost : hosts[i]? = some host) : host.hostName = hostName := by
  obtain ⟨hlt, hname, -⟩ := List.findIdx?_eq_some_iff_getElem.mp hi
  obtain ⟨-, rfl⟩ := List.getElem?_eq_some_iff.mp hhost
  simpa using hname

/-- The entry of a network: the one in the map, or a new one without hosts. -/
theorem getInterfaceEntry_cases
    (h : getInterfaceEntry fuel config entriesMap net = some (some entry)) :
    entriesMap.lookup net = some entry ∨
      (entriesMap.lookup net = none ∧ entry.netAddress = net ∧ entry.hosts = [] ∧
        ((config.subnet = "" ∧ entry.interfaceIndex = entriesMap.entries.length) ∨
          (config.subnet ≠ "" ∧
            Assigned config.subnet config.interfaceBlock config.excludeCIDRs
              entry.interfaceIndex entry.vlanCIDR ∧
            (Indexes (entriesMap.values.map (·.interfaceIndex)) →
              Fresh (entriesMap.values.map (·.interfaceIndex)) entry.interfaceIndex)))) := by
  unfold getInterfaceEntry at h
  cases hl : entriesMap.lookup net with
  | some e =>
    rw [hl] at h
    cases h
    exact Or.inl rfl
  | none =>
    rw [hl] at h
    refine Or.inr ⟨rfl, ?_⟩
    dsimp only at h
    split at h
    · next hsub =>
      cases h
      exact ⟨rfl, rfl, Or.inl ⟨hsub, rfl⟩⟩
    · next hsub =>
      obtain ⟨found, hfound, h⟩ := Option.bind_eq_some_iff.mp h
      cases found with
      | none => cases h
      | some found =>
        obtain ⟨idx, vlan⟩ := found
        cases h
        exact ⟨rfl, rfl, Or.inr ⟨hsub, interfaceIndexLoop_spec hfound⟩⟩

theorem getInterfaceEntry_of_lookup (fuel : Nat) (config : PluginConfig)
    (hl : entriesMap.lookup net = some entry) :
    getInterfaceEntry fuel config entriesMap net = some (some entry) := by
  rw [getInterfaceEntry, hl]

/-- An entry that is there is the one that is used. -/
theorem getInterfaceEntry_eq (h : getInterfaceEntry fuel config entriesMap net = some (some entry))
    (hl : entriesMap.lookup net = some entry') : entry = entry' := by
  rw [getInterfaceEntry_of_lookup fuel config hl] at h
  exact (Option.some.inj (Option.some.inj h)).symm

/-- An entry with a host is one of the map. -/
theorem lookup_of_mem_hosts (h : getInterfaceEntry fuel config entriesMap net = some (some entry))
    (hmem : host ∈ entry.hosts) : entriesMap.lookup net = some entry := by
  rcases getInterfaceEntry_cases h with hl | ⟨-, -, hnil, -⟩
  · exact hl
  · rw [hnil] at hmem
    exact absurd hmem List.not_mem_nil

/-- The interface of a snapshot that the definition selects. -/
def Selected (config : PluginConfig) (iface : InterfaceInfoType) : Prop :=
  config.masterNetAddrs = [] ∨ iface.netAddress ∈ config.masterNetAddrs

end Place

/-! ## The first loop -/

/-- The snapshot shows this host with an interface on the network. -/
def OnNet (snapshot : GoMap String HostInterface) (hostName net : String) : Prop :=
  ∃ hif, snapshot.lookup hostName = some hif ∧ ∃ iface ∈ hif.interfaces, iface.netAddress = net

section Filter

/-- One host: it is kept, unless the snapshot does not show it on the network; a host found
died is not in the snapshot. -/
theorem scanHost_cases (snapshot : GoMap String HostInterface) (nodes : Nat → NodeLookup)
    (net : String) (st : ScanState) (host : HostInterfaceInfo) :
    ((scanHost snapshot nodes net st host).newHostList = st.newHostList ++ [host] ∨
      ((scanHost snapshot nodes net st host).newHostList = st.newHostList ∧
        ¬ OnNet snapshot host.hostName net)) ∧
    ((scanHost snapshot nodes net st host).diedHost = st.diedHost ∨
      (snapshot.lookup host.hostName = none ∧
        (scanHost snapshot nodes net st host).diedHost = host.hostName :: st.diedHost)) := by
  unfold scanHost
  cases hl : snapshot.lookup host.hostName with
  | some hif =>
    dsimp only
    split
    · exact ⟨Or.inl rfl, Or.inl rfl⟩
    · next hany =>
      refine ⟨Or.inr ⟨rfl, ?_⟩, Or.inl rfl⟩
      rintro ⟨hif', hl', iface, hiface, hnet⟩
      rw [hl] at hl'
      cases hl'
      exact hany (List.any_eq_true.mpr ⟨iface, hiface, beq_iff_eq.mpr hnet⟩)
  | none =>
    have hoff : ¬ OnNet snapshot host.hostName net := by
      rintro ⟨hif, hl', -⟩
      rw [hl] at hl'
      cases hl'
    dsimp only
    split
    · exact ⟨Or.inr ⟨rfl, hoff⟩, Or.inl rfl⟩
    · split
      · exact ⟨Or.inr ⟨rfl, hoff⟩, Or.inr ⟨rfl, rfl⟩⟩
      · exact ⟨Or.inl rfl, Or.inl rfl⟩

/-- The records of one host in a list. -/
def recordsOf (hostName : String) (hosts : List HostInterfaceInfo) : List HostInterfaceInfo :=
  hosts.filter (·.hostName = hostName)

theorem mem_recordsOf :
    host ∈ recordsOf hostName hosts ↔ host ∈ hosts ∧ host.hostName = hostName := by
  rw [recordsOf, List.mem_filter, decide_eq_true_eq]

theorem recordsOf_cons_own (h : host.hostName = hostName) (hosts : List HostInterfaceInfo) :
    recordsOf hostName (host :: hosts) = host :: recordsOf hostName hosts :=
  List.filter_cons_of_pos (decide_eq_true h)

theorem recordsOf_cons_other (h : host.hostName ≠ hostName) (hosts : List HostInterfaceInfo) :
    recordsOf hostName (host :: hosts) = recordsOf hostName hosts :=
  List.filter_cons_of_neg (by simpa using h)

/-- The hosts of one entry: some of them are kept. -/
theorem scanHosts_spec (nodes : Nat → NodeLookup) (net : String) (st : ScanState)
    (hosts : List HostInterfaceInfo) (hdied : ∀ n ∈ st.diedHost, snapshot.lookup n = none) :
    ∃ kept, (hosts.foldl (scanHost snapshot nodes net) st).newHostList = st.newHostList ++ kept ∧
      kept.Sublist hosts ∧
      ∀ n ∈ (hosts.foldl (scanHost snapshot nodes net) st).diedHost, snapshot.lookup n = none := by
  induction hosts generalizing st with
  | nil => exact ⟨[], (List.append_nil _).symm, List.Sublist.refl _, hdied⟩
  | cons host hosts ih =>
    obtain ⟨hlist, hd⟩ := scanHost_cases snapshot nodes net st host
    have hdied' : ∀ n ∈ (scanHost snapshot nodes net st host).diedHost,
        snapshot.lookup n = none := by
      rcases hd with hd | ⟨hnone, hd⟩ <;> rw [hd]
      · exact hdied
      · exact List.forall_mem_cons.mpr ⟨hnone, hdied⟩
    obtain ⟨kept, hkept, hsub, hall⟩ := ih _ hdied'
    rw [List.foldl_cons, hkept]
    rcases hlist with hlist | ⟨hlist, -⟩
    · refine ⟨host :: kept, ?_, hsub.cons_cons host, hall⟩
      rw [hlist, List.append_assoc, List.singleton_append]
    · exact ⟨kept, by rw [hlist], hsub.cons host, hall⟩

/-- One turn of the first loop: the entry goes into the map with the hosts kept, or it had
hosts and lost them all. -/
theorem filterEntry_cases (nodes : Nat → NodeLookup) {st : FilterState} (entry : CIDREntry)
    (hdied : ∀ n ∈ st.diedHost, snapshot.lookup n = none) :
    (∃ kept, kept.Sublist entry.hosts ∧
      ((filterEntry snapshot nodes st entry).entriesMap =
          st.entriesMap.insert entry.netAddress { entry with hosts := kept } ∨
        ((filterEntry snapshot nodes st entry).entriesMap = st.entriesMap ∧ kept = []))) ∧
    ∀ n ∈ (filterEntry snapshot nodes st entry).diedHost, snapshot.lookup n = none := by
  obtain ⟨kept, hkept, hsub, hall⟩ := scanHosts_spec nodes entry.netAddress
    ⟨[], st.diedHost, st.changed, st.lookups⟩ entry.hosts hdied
  have hscan : (scanEntry snapshot nodes st entry).newHostList = kept := hkept
  refine ⟨⟨kept, hsub, ?_⟩, hall⟩
  by_cases hkeep : entry.hosts.length = 0 ∨ 0 < kept.length
  · refine Or.inl ?_
    simp only [filterEntry, hscan, if_pos hkeep]
  · refine Or.inr ⟨?_, ?_⟩
    · simp only [filterEntry, hscan, if_neg hkeep]
    · rw [not_or, Nat.not_lt] at hkeep
      exact List.length_eq_zero_iff.mp (Nat.le_zero.mp hkeep.2)

/-- What the first loop leaves of the entries: each under its network address, with some of
its hosts; and the hosts it found died are not in the snapshot. -/
theorem filterEntries_spec (snapshot : GoMap String HostInterface) (nodes : Nat → NodeLookup)
    (changed : Bool) (entries : List CIDREntry) :
    GoMap.All (fun net e' => ∃ e ∈ entries, e.netAddress = net ∧
        ∃ kept, kept.Sublist e.hosts ∧ e' = { e with hosts := kept })
      (filterEntries snapshot nodes changed entries).entriesMap ∧
    ∀ n ∈ (filterEntries snapshot nodes changed entries).diedHost, snapshot.lookup n = none := by
  refine foldl_invariant (P := fun st : FilterState => GoMap.All (fun net e' => ∃ e ∈ entries,
      e.netAddress = net ∧ ∃ kept, kept.Sublist e.hosts ∧ e' = { e with hosts := kept })
      st.entriesMap ∧ ∀ n ∈ st.diedHost, snapshot.lookup n = none) (s := ⟨∅, [], changed, 0⟩) ?_
    ⟨GoMap.All.empty _, fun n hn => absurd hn List.not_mem_nil⟩
  rintro st entry hentry ⟨hall, hdied⟩
  obtain ⟨⟨kept, hsub, hmap⟩, hdied'⟩ := filterEntry_cases nodes entry hdied
  refine ⟨?_, hdied'⟩
  rcases hmap with hmap | ⟨hmap, -⟩ <;> rw [hmap]
  · exact hall.insert ⟨entry, hentry, rfl, kept, hsub, rfl⟩
  · exact hall

end Filter

/-! ## The last loop -/

/-- Removing died hosts leaves a part of the hosts and the rest of the entry. -/
theorem dropDied_cases (died : List String) (entry : CIDREntry) :
    ∃ kept, kept.Sublist entry.hosts ∧ dropDied died entry = { entry with hosts := kept } ∧
      ∀ hostName, hostName ∉ died → recordsOf hostName kept = recordsOf hostName entry.hosts := by
  unfold dropDied
  dsimp only
  split
  · exact ⟨entry.hosts, List.Sublist.refl _, rfl, fun _ _ => rfl⟩
  · refine ⟨_, List.filter_sublist, rfl, ?_⟩
    intro hostName hnot
    rw [recordsOf, recordsOf, List.filter_filter]
    refine List.filter_congr fun host _ => ?_
    by_cases hname : host.hostName = hostName
    · simp [hname, hnot]
    · simp [hname]

/-! ## `GenerateCIDRFromHostSubnet` -/

section Generate

/-- The two maps of the loop have the same keys. -/
def HostSubnetState.Keyed (st : HostSubnetState) : Prop :=
  ∀ net, st.vlanIndexMap.lookup net = none ↔ st.entryMap.lookup net = none

theorem registerNet_keyed (h : st.Keyed) (net : String) : (registerNet st net).Keyed := by
  unfold registerNet
  cases hl : st.vlanIndexMap.lookup net with
  | some i => exact h
  | none =>
    intro net'
    by_cases hk : net' = net
    · subst hk
      simp [AList.lookup_insert]
    · rw [AList.lookup_insert_ne hk, AList.lookup_insert_ne hk]
      exact h net'

/-- After its registration a network has an entry. -/
theorem registerNet_lookup (h : st.Keyed) (net : String) :
    ∃ entry, (registerNet st net).entryMap.lookup net = some entry := by
  unfold registerNet
  cases hl : st.vlanIndexMap.lookup net with
  | some i =>
    refine Option.ne_none_iff_exists'.mp fun hnone => ?_
    rw [(h net).mpr hnone] at hl
    cases hl
  | none => exact ⟨_, AList.lookup_insert _⟩

/-- A property of the entries and of the next index that the registration of a network and
each added host keep. -/
theorem generate_induction {P : GoMap String CIDREntry → Int → Prop} {spec : CIDRSpec}
    (h : generateCIDRFromHostSubnet fuel config snapshot = some (.ok spec)) (hinit : P ∅ 0)
    (hregister : ∀ m last net, m.lookup net = none → P m last →
      P (m.insert net ⟨net, last, net, []⟩) (last + 1))
    (hadd : ∀ m last net entry hostName iface podCIDR hostIndex, m.lookup net = some entry →
      addNewHost fuel entry.hosts (powMinusOne config.hostBlock) entry.vlanCIDR config.hostBlock
        config.excludeCIDRs = some (.ok (podCIDR, hostIndex)) → P m last →
      P (m.insert net { entry with
        hosts := withHost config hostName iface podCIDR hostIndex entry.hosts }) last) :
    ∃ m last, spec.cidrs = m.values ∧ P m last := by
  obtain ⟨res, hloop, h⟩ := Option.bind_eq_some_iff.mp h
  -- the loop stops adding at the first error, so the invariant is about the `ok` states
  let Q : Except HandlerError HostSubnetState → Prop := fun res =>
    ∀ st, res = .ok st → st.Keyed ∧ P st.entryMap st.lastIndex
  have hQ : Q res := by
    refine foldlM_invariant (P := Q) ?_ ?_ hloop
    · intro st st' kv _ hst hinner
      refine foldlM_invariant (P := Q) ?_ hst hinner
      intro st st' iface _ hst hturn
      cases st with
      | error e =>
        cases hturn
        exact hst
      | ok st =>
        obtain ⟨hkeyed, hP⟩ := hst st rfl
        have hkeyed' := registerNet_keyed hkeyed iface.netAddress
        obtain ⟨entry, hentry⟩ := registerNet_lookup hkeyed iface.netAddress
        have hP' : P (registerNet st iface.netAddress).entryMap
            (registerNet st iface.netAddress).lastIndex := by
          unfold registerNet
          cases hl : st.vlanIndexMap.lookup iface.netAddress with
          | some i => exact hP
          | none => exact hregister _ _ _ ((hkeyed _).mp hl) hP
        rw [addHostSubnet] at hturn
        obtain ⟨⟨entry', changed⟩, htry, hturn⟩ := Option.bind_eq_some_iff.mp hturn
        rw [hentry, Option.getD_some, tryAddNewHost_eq] at htry
        obtain ⟨found, hnew, hfound⟩ := Option.map_eq_some_iff.mp htry
        cases found with
        | error e =>
          cases hfound
          cases hturn
          rintro st ⟨⟩
        | ok found =>
          cases hfound
          cases hturn
          rintro st ⟨⟩
          refine ⟨?_, hadd _ _ _ _ _ _ _ _ hentry hnew hP'⟩
          intro net'
          by_cases hk : net' = iface.netAddress
          · subst hk
            rw [hkeyed', hentry, AList.lookup_insert]
            simp
          · rw [AList.lookup_insert_ne hk]
            exact hkeyed' net'
    · rintro st ⟨⟩
      refine ⟨fun net => ?_, hinit⟩
      rw [AList.lookup_empty, AList.lookup_empty]
      simp
  cases res with
  | error e => cases h
  | ok st =>
    cases h
    exact ⟨st.entryMap, st.lastIndex, rfl, (hQ st rfl).2⟩

end Generate

/-! ## The pod CIDRs of an entry -/

/-- Every host of the entry holds the pod CIDR of its index. -/
def PodsAssigned (config : PluginConfig) (vlan : String) (hosts : List HostInterfaceInfo) : Prop :=
  ∀ host ∈ hosts, Assigned vlan config.hostBlock config.excludeCIDRs host.hostIndex host.podCIDR

theorem powMinusOne_ne_zero (h : 1 ≤ block) : powMinusOne block ≠ 0 := by
  have hpow : ∀ k : Nat, 1 ≤ k → (2 : Int) ≤ 2 ^ k := fun k hk => by
    have := Nat.pow_le_pow_right (n := 2) (by omega) hk
    exact_mod_cast this
  have hk := hpow block.toNat (by omega)
  unfold powMinusOne minInt64
  split
  · omega
  · split
    · omega
    · split <;> omega

theorem PodsAssigned.sublist {vlan : String} {kept : List HostInterfaceInfo}
    (h : PodsAssigned config vlan hosts) (hsub : kept.Sublist hosts) :
    PodsAssigned config vlan kept :=
  fun host hhost => h host (hsub.subset hhost)

end MultiNicCni.Controller
