import MultiNicCni.Controller.Answers
import MultiNicCni.Controller.IndexSearch

/-!
# `UpdateEntries` converges in one pass

The controller runs `UpdateEntries` again and again on its own result. A pass on what a pass has
returned finds nothing to do, as long as the snapshot and the nodes are the same.

- `interfaceIndexLoop_none_superset`: a search for an interface index that fails does not succeed
  later, when more indexes are in use;
- `Ascending`, `SpecInv`, `PassInv`: what every pass keeps, with `ReachableByPasses.specInv` along
  every run;
- `Idle`: a turn with nothing to do. The own turn of a host leaves it idle (`idle_of_own`), the
  other turns keep it so (`Idle.turn_step`), and an idle turn leaves the entries
  (`Idle.does_nothing`);
- `Converged`: all turns are idle and all hosts stay; one pass gets there (`SpecInv.converged`) and
  the next leaves it (`Converged.pass`);
- `update_converges`: **the second pass reports no change and returns the same entries**.
-/

namespace MultiNicCni.Controller

open Go Compute Lib

variable {config : PluginConfig} {m m' : GoMap String CIDREntry} {fuel fuel' : Nat}
  {result : Option (Int × String)} {hosts : List HostInterfaceInfo} {host host' : HostInterfaceInfo}
  {hostName : String} {iface : InterfaceInfoType} {cidrs : List CIDREntry} {excludes : List String}
  {snapshot : GoMap String HostInterface} {nodes : Nat → NodeLookup}
  {turn other : String × InterfaceInfoType}

/-! ## A search that fails -/

section Search

variable {maxInterfaceIndex : Int} {xs ys : List Int}

/-- All indexes below the one tried next are in use. -/
theorem mem_of_lt_nextInterfaceIndex (h : Indexes xs) {i : Int} (h0 : 0 ≤ i)
    (hi : i < nextInterfaceIndex (sortInts xs)) : i ∈ xs := by
  rw [← (sortInts_perm xs).mem_iff]
  unfold nextInterfaceIndex at hi
  dsimp only at hi
  rcases findAvailableIndex_sorted h.nodup h.nonneg with ⟨hnone, hrun⟩ | hgap
  · have hlast := (findAvailableIndex_eq_neg_one le_rfl).mp hnone
    rw [hnone, if_pos (by decide)] at hi
    have hlen : i.toNat < (sortInts xs).length := by
      cases hl : (sortInts xs).getLast? with
      | none =>
        rw [hl] at hi
        exact absurd hi (by dsimp only; omega)
      | some last =>
        have := hlast last hl
        rw [hl] at hi
        dsimp only at hi
        omega
    rw [hrun, List.mem_map]
    exact ⟨i.toNat, List.mem_range.mpr hlen, by omega⟩
  · rw [if_neg (by have := hgap.le; omega)] at hi
    exact hgap.below i h0 hi

/-- More fuel gives the same result. -/
theorem interfaceIndexLoop_succ_fuel
    (h : interfaceIndexLoop config maxInterfaceIndex fuel xs = some result) :
    interfaceIndexLoop config maxInterfaceIndex (fuel + 1) xs = some result := by
  induction fuel generalizing xs with
  | zero => cases h
  | succ fuel ih =>
    rw [interfaceIndexLoop] at h ⊢
    split at h
    · next hmax =>
      rw [if_pos hmax]
      exact h
    · next hmax =>
      rw [if_neg hmax]
      obtain ⟨tabu, htabu, h⟩ := Option.bind_eq_some_iff.mp h
      refine Option.bind_eq_some_iff.mpr ⟨tabu, htabu, ?_⟩
      cases tabu with
      | true => exact ih h
      | false =>
        obtain ⟨net, hnet, h⟩ := Option.bind_eq_some_iff.mp h
        refine Option.bind_eq_some_iff.mpr ⟨net, hnet, ?_⟩
        cases net with
        | error e => exact ih h
        | ok r => exact h

theorem interfaceIndexLoop_mono (hle : fuel ≤ fuel')
    (h : interfaceIndexLoop config maxInterfaceIndex fuel xs = some result) :
    interfaceIndexLoop config maxInterfaceIndex fuel' xs = some result := by
  induction fuel', hle using Nat.le_induction with
  | base => exact h
  | succ fuel' _ ih => exact interfaceIndexLoop_succ_fuel ih

/-- A failing turn of the search: no index is left, or the next one is put aside. -/
theorem interfaceIndexLoop_none_succ
    (h : interfaceIndexLoop config maxInterfaceIndex (fuel + 1) xs = some none) :
    maxInterfaceIndex < nextInterfaceIndex (sortInts xs) ∨
      (interfaceIndexLoop config maxInterfaceIndex fuel
          (sortInts xs ++ [nextInterfaceIndex (sortInts xs)]) = some none ∧
        ∀ ys, nextInterfaceIndex (sortInts ys) = nextInterfaceIndex (sortInts xs) →
          interfaceIndexLoop config maxInterfaceIndex (fuel + 1) ys =
            interfaceIndexLoop config maxInterfaceIndex fuel
              (sortInts ys ++ [nextInterfaceIndex (sortInts xs)])) := by
  rw [interfaceIndexLoop] at h
  split at h
  · next hmax => exact Or.inl hmax
  · next hmax =>
    refine Or.inr ?_
    obtain ⟨tabu, htabu, h⟩ := Option.bind_eq_some_iff.mp h
    cases tabu with
    | true =>
      refine ⟨h, fun ys hys => ?_⟩
      simp only [interfaceIndexLoop, hys, if_neg hmax, htabu, Option.bind_eq_bind, Option.bind_some,
        if_true]
    | false =>
      obtain ⟨net, hnet, h⟩ := Option.bind_eq_some_iff.mp h
      cases net with
      | error e =>
        refine ⟨h, fun ys hys => ?_⟩
        simp only [interfaceIndexLoop, hys, if_neg hmax, htabu, hnet, Option.bind_eq_bind,
          Option.bind_some, Bool.false_eq_true, if_false]
      | ok r =>
        obtain ⟨vlan, -, h⟩ := Option.bind_eq_some_iff.mp h
        cases h

/-- **A search that fails fails with more indexes in use.** -/
theorem interfaceIndexLoop_none_superset (hxs : Indexes xs) (hys : Indexes ys) (hsub : xs ⊆ ys)
    (h : interfaceIndexLoop config maxInterfaceIndex fuel xs = some none) :
    interfaceIndexLoop config maxInterfaceIndex fuel ys = some none := by
  induction fuel generalizing xs ys with
  | zero => cases h
  | succ fuel ih =>
    have hfresh := nextInterfaceIndex_fresh hxs
    have hfresh' := nextInterfaceIndex_fresh hys
    -- the index tried next is not smaller with more in use
    have hle : nextInterfaceIndex (sortInts xs) ≤ nextInterfaceIndex (sortInts ys) := by
      by_contra hlt
      exact hfresh'.1 (hsub (mem_of_lt_nextInterfaceIndex hxs hfresh'.2 (by omega)))
    rcases interfaceIndexLoop_none_succ h with hmax | ⟨hrest, hstep⟩
    · rw [interfaceIndexLoop, if_pos (by omega)]
    · have hmem : ∀ {zs : List Int} {x : Int}, x ∈ sortInts zs ↔ x ∈ zs := fun {zs x} =>
        (sortInts_perm zs).mem_iff
      by_cases heq : nextInterfaceIndex (sortInts ys) = nextInterfaceIndex (sortInts xs)
      · rw [hstep ys heq]
        refine ih (hxs.snoc hfresh) (hys.snoc (heq ▸ hfresh')) (fun x hx => ?_) hrest
        rw [List.mem_append, hmem] at hx ⊢
        exact hx.imp_left fun hx => hsub hx
      · -- the index put aside is in use already
        refine interfaceIndexLoop_succ_fuel (ih (hxs.snoc hfresh) hys ?_ hrest)
        intro x hx
        rcases List.mem_append.mp hx with hx | hx
        · exact hsub (hmem.mp hx)
        · rw [List.mem_singleton.mp hx]
          exact mem_of_lt_nextInterfaceIndex hys hfresh.2 (by omega)

end Search

/-! ## What every pass keeps -/

/-- The hosts stand in the order of their indexes, which are distinct and not negative. -/
structure Ascending (hosts : List HostInterfaceInfo) : Prop where
  increasing : (hosts.map (·.hostIndex)).Pairwise (· < ·)
  nonneg : ∀ i ∈ hosts.map (·.hostIndex), 0 ≤ i

section Ascending

variable {hosts' : List HostInterfaceInfo}

theorem Ascending.nil : Ascending [] :=
  ⟨List.Pairwise.nil, fun _ h => absurd h List.not_mem_nil⟩

theorem Ascending.indexes (h : Ascending hosts) : Indexes (hosts.map (·.hostIndex)) :=
  ⟨h.increasing.imp ne_of_lt, h.nonneg⟩

theorem Ascending.sublist (h : Ascending hosts) (hsub : hosts'.Sublist hosts) :
    Ascending hosts' :=
  ⟨h.increasing.sublist (hsub.map _), fun i hi => h.nonneg i ((hsub.map _).subset hi)⟩

/-- A host with a fresh index is put in its place. -/
theorem Ascending.withHost (h : Ascending hosts) {podCIDR : String} {idx : Int}
    (hfresh : Fresh (hosts.map (·.hostIndex)) idx) :
    Ascending (withHost config hostName iface podCIDR idx hosts) := by
  obtain ⟨hnodup, hnonneg⟩ := h.indexes.withHost hfresh
  refine ⟨?_, hnonneg⟩
  exact (sortStable_sorted _ _).imp₂ (fun i j hle hne => lt_of_le_of_ne hle hne) hnodup

theorem Ascending.set (h : Ascending hosts) {i : Nat} (hhost : hosts[i]? = some host)
    (hidx : host'.hostIndex = host.hostIndex) : Ascending (hosts.set i host') := by
  have hsame : (hosts.set i host').map (·.hostIndex) = hosts.map (·.hostIndex) :=
    map_set_of_eq hhost hidx
  refine ⟨?_, ?_⟩
  · rw [hsame]
    exact h.increasing
  · rw [hsame]
    exact h.nonneg

/-- Such a list is determined by its records. -/
theorem Ascending.eq_of_perm (h : Ascending hosts) (h' : Ascending hosts')
    (hperm : hosts.Perm hosts') : hosts = hosts' := by
  refine hperm.eq_of_pairwise ?_ (List.pairwise_map.mp h.increasing)
    (List.pairwise_map.mp h'.increasing)
  intro a b _ _ hlt hgt
  exact absurd hlt (lt_asymm hgt)

end Ascending

/-- The entries of a specification that passes have computed. -/
structure SpecInv (config : PluginConfig) (cidrs : List CIDREntry) : Prop where
  placed : PlacedInv config cidrs
  ordered : ∀ e ∈ cidrs, Ascending e.hosts
  layout : config.subnet ≠ "" → LayoutInv config cidrs

/-- The same for the entries map of a pass. -/
structure PassInv (config : PluginConfig) (m : GoMap String CIDREntry) : Prop where
  placed : PlacedMap config m
  ordered : m.All fun _ e => Ascending e.hosts
  layout : config.subnet ≠ "" → MapInv config m

section Passes

theorem PassInv.specInv (h : PassInv config m) (hperm : cidrs.Perm m.values) :
    SpecInv config cidrs := by
  refine ⟨h.placed.placedInv hperm, fun e he => ?_, fun hsubnet =>
    (h.layout hsubnet).layoutInv hperm⟩
  obtain ⟨net, hl⟩ := GoMap.mem_values.mp (hperm.mem_iff.mp he)
  exact h.ordered net e hl

theorem SpecInv.filter (h : SpecInv config cidrs) (snapshot : GoMap String HostInterface)
    (nodes : Nat → NodeLookup) (changed : Bool) :
    PassInv config (filterEntries snapshot nodes changed cidrs).entriesMap := by
  refine ⟨h.placed.filter snapshot nodes changed, ?_, fun hsubnet =>
    (h.layout hsubnet).filter snapshot nodes changed⟩
  intro net e' hl
  obtain ⟨e, he, -, kept, hsub, rfl⟩ :=
    (filterEntries_spec snapshot nodes changed cidrs).1 net e' hl
  exact (h.ordered e he).sublist hsub

/-- The entry that a turn works on. -/
theorem PassInv.entry {net : String} {entry : CIDREntry} (h : PassInv config m)
    (hget : getInterfaceEntry fuel config m net = some (some entry)) :
    Ascending entry.hosts ∧ PodsAssigned config entry.vlanCIDR entry.hosts := by
  rcases getInterfaceEntry_cases hget with hl | ⟨-, -, hnil, -⟩
  · exact ⟨h.ordered _ _ hl, (h.placed _ _ hl).2⟩
  · rw [hnil]
    exact ⟨Ascending.nil, fun host hhost => absurd hhost List.not_mem_nil⟩

theorem PassInv.place {entry : CIDREntry} {effect : Effect} (hblock : 1 ≤ config.hostBlock)
    (hex : excludes.Perm config.excludeCIDRs) (h : PassInv config m)
    (hget : getInterfaceEntry fuel config m iface.netAddress = some (some entry))
    (hplaced : Turn fuel config excludes hostName iface entry hosts effect) :
    PassInv config (m.insert iface.netAddress { entry with hosts }) := by
  refine ⟨h.placed.place hblock hex hget hplaced, ?_, fun hsubnet =>
    (h.layout hsubnet).place hsubnet hblock hex hget hplaced⟩
  obtain ⟨hasc, hpods⟩ := h.entry hget
  refine h.ordered.insert ?_
  rcases hplaced.cases_of_podsAssigned hblock hex hpods with
    ⟨podCIDR, idx, -, -, hfresh, rfl⟩ | rfl | ⟨i, host, hhost, rfl⟩
  · exact hasc.withHost (hfresh hasc.indexes)
  · exact hasc
  · exact hasc.set hhost rfl

theorem PassInv.dropDied (h : PassInv config m) (died : List String) :
    PassInv config (m.mapValues (dropDied died)) := by
  refine ⟨h.placed.dropDied died, h.ordered.mapValues fun net e he => ?_, fun hsubnet =>
    (h.layout hsubnet).dropDied died⟩
  obtain ⟨kept, hsub, heq, -⟩ := dropDied_cases died e
  rw [heq]
  exact he.sublist hsub

/-- A pass, published or not, keeps the invariant. -/
theorem SpecInv.passInv {changed changed' : Bool} (hblock : 1 ≤ config.hostBlock)
    (h : SpecInv config cidrs)
    (hm : updateEntries fuel ⟨config, cidrs⟩ (sortAddress config.excludeCIDRs) changed snapshot
      nodes = some (m, changed')) : PassInv config m := by
  refine updateEntries_induction hm (h.filter snapshot nodes changed)
    (fun _ hmap => hmap.dropDied _) ?_
  intro m entry hosts effect turn _ _ hmap hget hplaced
  exact hmap.place hblock (sortAddress_perm _) hget hplaced

/-- `NewCIDR` starts the invariant. -/
theorem SpecInv.newCIDR {spec : CIDRSpec} (hblock : 1 ≤ config.hostBlock)
    (h : newCIDR fuel config snapshot = some (.ok spec)) (hperm : cidrs.Perm spec.cidrs) :
    SpecInv config cidrs := by
  refine ⟨PlacedInv.newCIDR hblock h hperm, ?_, fun hsubnet => LayoutInv.newCIDR hsubnet h hperm⟩
  rcases newCIDR_cases h with ⟨-, ⟨-, h⟩ | ⟨-, hentries⟩⟩
  · have hgen : ∃ m : GoMap String CIDREntry, ∃ _ : Int, spec.cidrs = m.values ∧
        m.All fun _ e => Ascending e.hosts := by
      refine generate_induction (P := fun m _ => GoMap.All (fun _ e => Ascending e.hosts) m) h
        (GoMap.All.empty _) ?_ ?_
      · intro m last net _ hm
        exact hm.insert Ascending.nil
      · intro m last net entry hostName iface podCIDR idx hl hadd hm
        have hasc := hm net entry hl
        have hfresh := (addNewHost_spec (powMinusOne_ne_zero hblock) hadd).2 hasc.indexes
        exact hm.insert (hasc.withHost hfresh)
    obtain ⟨m, -, hcidrs, hasc⟩ := hgen
    intro e he
    rw [hperm.mem_iff, hcidrs] at he
    obtain ⟨net, hl⟩ := GoMap.mem_values.mp he
    exact hasc net e hl
  · intro e he
    rw [((newEntries_spec hentries).2 e (hperm.mem_iff.mp he)).2.2]
    exact Ascending.nil

end Passes

/-- The entries reachable from `NewCIDR` by passes, published or not. -/
inductive ReachableByPasses (config : PluginConfig) : List CIDREntry → Prop
  | init {fuel snapshot spec cidrs} : newCIDR fuel config snapshot = some (.ok spec) →
      cidrs.Perm spec.cidrs → ReachableByPasses config cidrs
  | update {fuel snapshot nodes cidrs cidrs' changed changed' m} : ReachableByPasses config cidrs →
      updateEntries fuel ⟨config, cidrs⟩ (sortAddress config.excludeCIDRs) changed snapshot nodes =
        some (m, changed') →
      cidrs'.Perm m.values → ReachableByPasses config cidrs'

theorem ReachableByPasses.specInv (hblock : 1 ≤ config.hostBlock)
    (h : ReachableByPasses config cidrs) : SpecInv config cidrs := by
  induction h with
  | init hnew hperm => exact SpecInv.newCIDR hblock hnew hperm
  | update _ hm hperm ih => exact (ih.passInv hblock hm).specInv hperm

/-- Published passes are passes. -/
theorem Reachable.byPasses (h : Reachable config cidrs) : ReachableByPasses config cidrs := by
  induction h with
  | init hnew hperm => exact .init hnew hperm
  | update _ hupd ih =>
    obtain ⟨fuel, changed, nodes, m, hm, hperm⟩ := hupd
    exact .update ih hm hperm

/-! ## A turn with nothing to do -/

/-- The first record of a host is the one a turn finds. -/
theorem head_recordsOf :
    (recordsOf hostName hosts).head? = some host ↔
      ∃ i, getHostIndex hosts hostName = some i ∧ hosts[i]? = some host := by
  rw [recordsOf, List.head?_filter, List.find?_eq_some_iff_getElem]
  simp only [getHostIndex, List.findIdx?_eq_some_iff_getElem, decide_eq_true_eq, beq_iff_eq,
    List.getElem?_eq_some_iff, Bool.not_eq_true', decide_eq_false_iff_not]
  constructor
  · rintro ⟨hname, i, hi, rfl, hfirst⟩
    exact ⟨i, ⟨hi, hname, hfirst⟩, hi, rfl⟩
  · rintro ⟨i, ⟨hi, hname, hfirst⟩, -, rfl⟩
    exact ⟨hname, i, hi, rfl, hfirst⟩

/-- The turn would leave the entries as they are: it is not selected, its network gets no entry,
its host gets no index, or the record of its host is up to date. -/
inductive Idle (fuel : Nat) (config : PluginConfig) (excludes : List String)
    (m : GoMap String CIDREntry) (turn : String × InterfaceInfoType) : Prop
  | unselected : ¬ Selected config turn.2 → Idle fuel config excludes m turn
  | missing : m.lookup turn.2.netAddress = none → config.subnet ≠ "" →
      interfaceIndexLoop config (powMinusOne config.interfaceBlock) fuel
        (m.values.map (·.interfaceIndex)) = some none → Idle fuel config excludes m turn
  | full {entry e} : m.lookup turn.2.netAddress = some entry →
      turn.1 ∉ entry.hosts.map (·.hostName) →
      searchIn fuel config entry entry.hosts = some (.error e) → Idle fuel config excludes m turn
  | fresh {entry host podCIDR} : m.lookup turn.2.netAddress = some entry →
      (recordsOf turn.1 entry.hosts).head? = some host →
      Assigned entry.vlanCIDR config.hostBlock excludes host.hostIndex podCIDR →
      ¬ Stale turn.2 podCIDR host → Idle fuel config excludes m turn

section Idle

theorem getInterfaceEntry_eq_none {net : String} :
    getInterfaceEntry fuel config m net = some none ↔
      m.lookup net = none ∧ config.subnet ≠ "" ∧
        interfaceIndexLoop config (powMinusOne config.interfaceBlock) fuel
          (m.values.map (·.interfaceIndex)) = some none := by
  unfold getInterfaceEntry
  cases hl : m.lookup net with
  | some entry => simp
  | none =>
    by_cases hsubnet : config.subnet = ""
    · simp [hsubnet]
    · simp only [if_neg hsubnet, Option.bind_eq_bind, Option.bind_eq_some_iff, Option.some.injEq,
        Option.map_eq_none_iff, exists_eq_right, true_and]
      exact (and_iff_right hsubnet).symm

/-- **A turn with nothing to do leaves the entries and the flag**, with at least as much fuel. -/
theorem Idle.does_nothing (h : Idle fuel config excludes m turn) (hle : fuel ≤ fuel') :
    ∃ m', placeTurn fuel' config excludes (m, false) turn = some (m', false) ∧
      SameLookups m m' := by
  have hfound : ∀ {entry}, m.lookup turn.2.netAddress = some entry →
      getInterfaceEntry fuel' config m turn.2.netAddress = some (some entry) :=
    getInterfaceEntry_of_lookup fuel' config
  by_cases hsel : Selected config turn.2
  · cases h with
    | unselected hnot => exact absurd hsel hnot
    | missing hl hsubnet hloop =>
      have hnone := getInterfaceEntry_eq_none.mpr ⟨hl, hsubnet, interfaceIndexLoop_mono hle hloop⟩
      exact ⟨m, placeTurn_eq_some.mpr (Or.inl ⟨rfl, Or.inr hnone⟩), fun _ => rfl⟩
    | @full entry e hl hnot hsearch =>
      have hsearch' : searchIn fuel' config entry entry.hosts = some (.error e) :=
        addNewHost_mono hle hsearch
      have hturn : Turn fuel' config excludes turn.1 turn.2 entry entry.hosts .forget :=
        .full hnot hsearch'
      exact ⟨_, placeTurn_eq_some.mpr (Or.inr ⟨_, _, _, hsel, hfound hl, hturn, rfl⟩),
        sameLookups_insert hl⟩
    | @fresh entry host podCIDR hl hhead ha hfresh =>
      obtain ⟨i, hidx, hhost⟩ := head_recordsOf.mp hhead
      have hturn : Turn fuel' config excludes turn.1 turn.2 entry entry.hosts .keep := by
        have hrefresh : Turn fuel' config excludes turn.1 turn.2 entry
            (entry.hosts.set i (refreshHost config turn.2 podCIDR host))
            (if Stale turn.2 podCIDR host then .report else .keep) := .refresh hidx hhost ha
        rw [set_refreshHost_eq_self hhost hfresh, if_neg hfresh] at hrefresh
        exact hrefresh
      exact ⟨_, placeTurn_eq_some.mpr (Or.inr ⟨_, _, _, hsel, hfound hl, hturn, rfl⟩),
        sameLookups_insert hl⟩
  · exact ⟨m, placeTurn_eq_some.mpr (Or.inl ⟨rfl, Or.inl hsel⟩), fun _ => rfl⟩

/-- A network without room for an entry gets none later, while the entries that are there keep
their indexes. -/
theorem interfaceIndexLoop_none_later (hinv : MapInv config m) (hinv' : MapInv config m')
    (hkept : ∀ net entry, m.lookup net = some entry →
      ∃ entry', m'.lookup net = some entry' ∧ entry'.interfaceIndex = entry.interfaceIndex)
    (h : interfaceIndexLoop config (powMinusOne config.interfaceBlock) fuel
      (m.values.map (·.interfaceIndex)) = some none) :
    interfaceIndexLoop config (powMinusOne config.interfaceBlock) fuel
      (m'.values.map (·.interfaceIndex)) = some none := by
  refine interfaceIndexLoop_none_superset hinv.indexes hinv'.indexes (fun i hi => ?_) h
  obtain ⟨entry, hentry, rfl⟩ := List.mem_map.mp hi
  obtain ⟨net, hl⟩ := GoMap.mem_values.mp hentry
  obtain ⟨entry', hl', hidx⟩ := hkept net entry hl
  exact List.mem_map.mpr ⟨entry', GoMap.mem_values.mpr ⟨net, hl'⟩, hidx⟩

theorem PassInv.of_sameLookups (h : PassInv config m) (hsame : SameLookups m m') :
    PassInv config m' := by
  refine ⟨fun net e hl => ?_, fun net e hl => ?_, fun hsubnet => ⟨fun net e hl => ?_, ?_⟩⟩
  · exact h.placed net e ((hsame net).trans hl)
  · exact h.ordered net e ((hsame net).trans hl)
  · exact (h.layout hsubnet).1 net e ((hsame net).trans hl)
  · intro net net' e e' hl hl'
    exact (h.layout hsubnet).2 net net' e e' ((hsame net).trans hl) ((hsame net').trans hl')

/-- Only the entries matter, not their order. -/
theorem Idle.of_sameLookups (hinv : PassInv config m) (hsame : SameLookups m m')
    (h : Idle fuel config excludes m turn) : Idle fuel config excludes m' turn := by
  have hlookup : ∀ {found}, m.lookup turn.2.netAddress = found →
      m'.lookup turn.2.netAddress = found := fun hl => (hsame _).symm.trans hl
  cases h with
  | unselected hnot => exact .unselected hnot
  | missing hl hsubnet hloop =>
    refine .missing (hlookup hl) hsubnet ?_
    refine interfaceIndexLoop_none_later (hinv.layout hsubnet)
      ((hinv.of_sameLookups hsame).layout hsubnet) (fun net entry hl => ?_) hloop
    exact ⟨entry, (hsame net).symm.trans hl, rfl⟩
  | full hl hnot hsearch => exact .full (hlookup hl) hnot hsearch
  | fresh hl hhead ha hfresh => exact .fresh (hlookup hl) hhead ha hfresh

end Idle

/-! ## Turns settle -/

section Settle

variable {entry : CIDREntry} {effect : Effect} {st st' : GoMap String CIDREntry × Bool}

theorem not_stale_newHost (config : PluginConfig) (turn : String × InterfaceInfoType)
    (podCIDR : String) (idx : Int) :
    ¬ Stale turn.2 podCIDR (newHost config turn.1 turn.2 podCIDR idx) := by
  simp [Stale, newHost, getIPPoolName_ne_empty]

theorem not_stale_refreshHost (config : PluginConfig) (iface : InterfaceInfoType)
    (podCIDR : String) (host : HostInterfaceInfo) :
    ¬ Stale iface podCIDR (refreshHost config iface podCIDR host) := by
  by_cases hpool : host.ipPool = ""
  · simp [Stale, refreshHost, hpool, getIPPoolName_ne_empty]
  · simp [Stale, refreshHost, hpool]

/-- The new record is the only one of its host. -/
theorem recordsOf_withHost {podCIDR : String} {idx : Int}
    (hnot : turn.1 ∉ hosts.map (·.hostName)) :
    recordsOf turn.1 (withHost config turn.1 turn.2 podCIDR idx hosts) =
      [newHost config turn.1 turn.2 podCIDR idx] := by
  have hnone : recordsOf turn.1 hosts = [] := by
    refine List.filter_eq_nil_iff.mpr fun host hhost hname => hnot ?_
    exact of_decide_eq_true hname ▸ List.mem_map_of_mem hhost
  have hperm : (recordsOf turn.1 (withHost config turn.1 turn.2 podCIDR idx hosts)).Perm
      (recordsOf turn.1 (newHost config turn.1 turn.2 podCIDR idx :: hosts)) :=
    (withHost_perm ..).filter _
  have hown : (newHost config turn.1 turn.2 podCIDR idx).hostName = turn.1 := rfl
  rw [recordsOf_cons_own hown, hnone] at hperm
  exact List.perm_singleton.mp hperm

/-- A record of another host is replaced by another one. -/
theorem recordsOf_set {name : String} {i : Nat} (hhost : hosts[i]? = some host)
    (hother : host.hostName ≠ name) (hother' : host'.hostName ≠ name) :
    recordsOf name (hosts.set i host') = recordsOf name hosts := by
  induction hosts generalizing i with
  | nil => rfl
  | cons x hosts ih =>
    cases i with
    | zero =>
      obtain rfl := Option.some.inj hhost
      rw [List.set_cons_zero, recordsOf_cons_other hother, recordsOf_cons_other hother']
    | succ i =>
      rw [List.set_cons_succ]
      by_cases hx : x.hostName = name
      · rw [recordsOf_cons_own hx, recordsOf_cons_own hx, ih hhost]
      · rw [recordsOf_cons_other hx, recordsOf_cons_other hx, ih hhost]

/-- A turn leaves the records of another host, in their order. -/
theorem Turn.recordsOf_other (h : Turn fuel config excludes turn.1 turn.2 entry hosts effect)
    (hex : excludes.Perm config.excludeCIDRs)
    (hpods : PodsAssigned config entry.vlanCIDR entry.hosts) (hasc : Ascending entry.hosts)
    (hasc' : Ascending hosts) {name : String} (hne : turn.1 ≠ name) :
    recordsOf name hosts = recordsOf name entry.hosts := by
  cases h with
  | full => rfl
  | move hdisp => exact absurd hdisp (hpods.not_displaced hex)
  | lose hdisp => exact absurd hdisp (hpods.not_displaced hex)
  | @add podCIDR idx hnot hfound =>
    refine (hasc'.sublist List.filter_sublist).eq_of_perm (hasc.sublist List.filter_sublist) ?_
    have hperm : (recordsOf name (withHost config turn.1 turn.2 podCIDR idx entry.hosts)).Perm
        (recordsOf name (newHost config turn.1 turn.2 podCIDR idx :: entry.hosts)) :=
      (withHost_perm ..).filter _
    have hother : (newHost config turn.1 turn.2 podCIDR idx).hostName ≠ name := hne
    rw [recordsOf_cons_other hother] at hperm
    exact hperm
  | @refresh i host podCIDR hidx hhost ha =>
    have hother : host.hostName ≠ name := getHostIndex_eq_some hidx hhost ▸ hne
    exact recordsOf_set hhost hother hother

/-- A refresh leaves the names and the indexes. -/
theorem occupants_set {i : Nat} (hhost : hosts[i]? = some host)
    (hname : host'.hostName = host.hostName) (hidx : host'.hostIndex = host.hostIndex) :
    occupants (hosts.set i host') = occupants hosts :=
  map_set_of_eq hhost (Prod.ext hname hidx)

theorem PassInv.turn_step (hblock : 1 ≤ config.hostBlock) (hex : excludes.Perm config.excludeCIDRs)
    (hinv : PassInv config st.1) (h : placeTurn fuel config excludes st turn = some st') :
    PassInv config st'.1 := by
  rcases placeTurn_eq_some.mp h with ⟨rfl, -⟩ | ⟨entry, hosts, effect, -, hget, hturn, rfl⟩
  · exact hinv
  · exact hinv.place hblock hex hget hturn

/-- **After its own turn a host has nothing more to do.** -/
theorem idle_of_own (hblock : 1 ≤ config.hostBlock) (hex : excludes.Perm config.excludeCIDRs)
    (hinv : PassInv config st.1) (h : placeTurn fuel config excludes st turn = some st') :
    Idle fuel config excludes st'.1 turn := by
  rcases placeTurn_eq_some.mp h with ⟨rfl, hnot | hnone⟩ |
    ⟨entry, hosts, effect, -, hget, hturn, rfl⟩
  · exact .unselected hnot
  · obtain ⟨hl, hsubnet, hloop⟩ := getInterfaceEntry_eq_none.mp hnone
    exact .missing hl hsubnet hloop
  · have hpods := (hinv.entry hget).2
    cases hturn with
    | move hdisp => exact absurd hdisp (hpods.not_displaced hex)
    | lose hdisp => exact absurd hdisp (hpods.not_displaced hex)
    | full hnot hsearch => exact .full (AList.lookup_insert _) hnot hsearch
    | @add podCIDR idx hnot hfound =>
      have ha := (addNewHost_spec (powMinusOne_ne_zero hblock) hfound).1.perm hex
      have hhead : (recordsOf turn.1
          (withHost config turn.1 turn.2 podCIDR idx entry.hosts)).head? =
          some (newHost config turn.1 turn.2 podCIDR idx) :=
        congrArg List.head? (recordsOf_withHost hnot)
      exact .fresh (AList.lookup_insert _) hhead ha (not_stale_newHost config turn podCIDR idx)
    | @refresh i host podCIDR hidx hhost ha =>
      have hsame : occupants (entry.hosts.set i (refreshHost config turn.2 podCIDR host)) =
          occupants entry.hosts := occupants_set hhost rfl rfl
      have hhead : (recordsOf turn.1
          (entry.hosts.set i (refreshHost config turn.2 podCIDR host))).head? =
          some (refreshHost config turn.2 podCIDR host) := by
        refine head_recordsOf.mpr ⟨i, ?_, ?_⟩
        · rw [← hidx, ← findIdx_occupants, ← findIdx_occupants, hsame]
        · exact List.getElem?_set_self (List.getElem?_eq_some_iff.mp hhost).1
      exact .fresh (AList.lookup_insert _) hhead ha
        (not_stale_refreshHost config turn.2 podCIDR host)

/-- **What is idle stays so in the turns of other hosts or networks.** -/
theorem Idle.turn_step (hblock : 1 ≤ config.hostBlock) (hex : excludes.Perm config.excludeCIDRs)
    (hinv : PassInv config st.1) (hidle : Idle fuel config excludes st.1 other)
    (hkey : turnKey other ≠ turnKey turn) (h : placeTurn fuel config excludes st turn = some st') :
    Idle fuel config excludes st'.1 other := by
  have hinv' := hinv.turn_step hblock hex h
  rcases placeTurn_eq_some.mp h with ⟨rfl, -⟩ | ⟨entry, hosts, effect, -, hget, hturn, rfl⟩
  · exact hidle
  · obtain ⟨hasc, hpods⟩ := hinv.entry hget
    have hasc' : Ascending hosts := hinv'.ordered _ _ (AList.lookup_insert _)
    have hlookup : ∀ {found}, st.1.lookup other.2.netAddress = found →
        other.2.netAddress ≠ turn.2.netAddress →
        (st.1.insert turn.2.netAddress { entry with hosts }).lookup other.2.netAddress = found :=
      fun hl hne => (AList.lookup_insert_ne hne).trans hl
    have hown : other.2.netAddress = turn.2.netAddress →
        (st.1.insert turn.2.netAddress { entry with hosts }).lookup other.2.netAddress =
          some { entry with hosts } := fun heq => heq ▸ AList.lookup_insert _
    have hsame : ∀ {entry'}, st.1.lookup other.2.netAddress = some entry' →
        other.2.netAddress = turn.2.netAddress → entry = entry' := by
      intro entry' hl heq
      rw [heq] at hl
      exact getInterfaceEntry_eq hget hl
    cases hidle with
    | unselected hnot => exact .unselected hnot
    | missing hl hsubnet hloop =>
      have hne : other.2.netAddress ≠ turn.2.netAddress := by
        intro heq
        rw [heq] at hl
        rw [getInterfaceEntry_eq_none.mpr ⟨hl, hsubnet, hloop⟩] at hget
        cases hget
      refine .missing (hlookup hl hne) hsubnet ?_
      refine interfaceIndexLoop_none_later (hinv.layout hsubnet) (hinv'.layout hsubnet) ?_ hloop
      intro net entry' hl'
      by_cases hnet : net = turn.2.netAddress
      · subst hnet
        obtain rfl := getInterfaceEntry_eq hget hl'
        exact ⟨_, AList.lookup_insert _, rfl⟩
      · exact ⟨entry', (AList.lookup_insert_ne hnet).trans hl', rfl⟩
    | @full entry' e hl hnot hsearch =>
      by_cases hnet : other.2.netAddress = turn.2.netAddress
      · obtain rfl := hsame hl hnet
        -- no host finds an index in this entry, so its names and indexes stay
        have hocc : occupants hosts = occupants entry.hosts := by
          cases hturn with
          | full => rfl
          | add _ hfound =>
            rw [hsearch] at hfound
            cases hfound
          | refresh _ hhost _ => exact occupants_set hhost rfl rfl
          | move hdisp => exact absurd hdisp (hpods.not_displaced hex)
          | lose hdisp => exact absurd hdisp (hpods.not_displaced hex)
        have hnames := congrArg (List.map Prod.fst) hocc
        simp only [occupants, List.map_map, Function.comp_def] at hnames
        have hsearch' : searchIn fuel config { entry with hosts } hosts = some (.error e) := by
          rw [searchIn_eq, hocc, ← hsearch, searchIn_eq]
        refine .full (hown hnet) ?_ hsearch'
        rw [hnames]
        exact hnot
      · exact .full (hlookup hl hnet) hnot hsearch
    | @fresh entry' host podCIDR hl hhead ha hfresh =>
      by_cases hnet : other.2.netAddress = turn.2.netAddress
      · obtain rfl := hsame hl hnet
        have hne : turn.1 ≠ other.1 := fun heq => hkey (Prod.ext heq.symm hnet)
        have hrec := hturn.recordsOf_other hex hpods hasc hasc' hne
        refine .fresh (hown hnet) ?_ ha hfresh
        rw [← hhead]
        exact congrArg List.head? hrec
      · exact .fresh (hlookup hl hnet) hhead ha hfresh

end Settle

/-! ## Two passes -/

/-- The entries are what a further pass would compute: every turn has nothing to do, and every host
stays. -/
structure Converged (fuel : Nat) (config : PluginConfig) (snapshot : GoMap String HostInterface)
    (answer : String → NodeLookup) (m : GoMap String CIDREntry) : Prop where
  inv : PassInv config m
  idle : ∀ turn ∈ turns snapshot.values,
    Idle fuel config ((sortAddress config.excludeCIDRs).map (·.address)) m turn
  stay : m.All fun net entry => ∀ host ∈ entry.hosts, stays snapshot answer net host = true

section Converge

variable {snapshot' : GoMap String HostInterface} {answer : String → NodeLookup}
  {changed changed' : Bool}

theorem Converged.of_sameLookups (h : Converged fuel config snapshot answer m)
    (hsame : SameLookups m m') : Converged fuel config snapshot answer m' where
  inv := h.inv.of_sameLookups hsame
  idle := fun turn hturn => (h.idle turn hturn).of_sameLookups h.inv hsame
  stay := fun net entry hl => h.stay net entry ((hsame net).trans hl)

/-- The order of the snapshot does not matter. -/
theorem Converged.of_snapshot (h : Converged fuel config snapshot answer m)
    (hsnap : ∀ name, snapshot'.lookup name = snapshot.lookup name) :
    Converged fuel config snapshot' answer m := by
  refine ⟨h.inv, fun turn hturn => h.idle turn ?_, fun net entry hl host hhost => ?_⟩
  · obtain ⟨hif, hhif, hname, hiface⟩ := mem_turns.mp hturn
    obtain ⟨key, hkey⟩ := GoMap.mem_values.mp hhif
    rw [hsnap] at hkey
    exact mem_turns.mpr ⟨hif, GoMap.mem_values.mpr ⟨key, hkey⟩, hname, hiface⟩
  · have hstays := h.stay net entry hl host hhost
    rw [stays, ← hsnap] at hstays
    exact hstays

/-- A turn leaves only hosts that stay. -/
theorem stays_turn_step {st st' : GoMap String CIDREntry × Bool}
    (hon : OnNet snapshot turn.1 turn.2.netAddress)
    (hst : st.1.All fun net entry => ∀ host ∈ entry.hosts, stays snapshot answer net host = true)
    (h : placeTurn fuel config excludes st turn = some st') :
    st'.1.All fun net entry => ∀ host ∈ entry.hosts, stays snapshot answer net host = true := by
  rcases placeTurn_eq_some.mp h with ⟨rfl, -⟩ | ⟨entry, hosts, effect, -, hget, hturn, rfl⟩
  · exact hst
  · refine hst.insert fun host hhost => ?_
    rcases hturn.mem_or_own hhost with hmem | hown
    · exact hst _ _ (lookup_of_mem_hosts hget hmem) host hmem
    · rw [← hown] at hon
      exact stays_of_onNet hon

theorem dropDied_eq_self {died : List String} {entry : CIDREntry}
    (h : ∀ host ∈ entry.hosts, host.hostName ∉ died) : dropDied died entry = entry := by
  have hall : entry.hosts.filter (·.hostName ∉ died) = entry.hosts :=
    List.filter_eq_self.mpr fun host hhost => decide_eq_true (h host hhost)
  simp only [dropDied, hall]
  split <;> rfl

/-- **One pass converges.** -/
theorem SpecInv.converged (hblock : 1 ≤ config.hostBlock) (hinv : SpecInv config cidrs)
    (hkeyed : ByHostName snapshot) (hone : OnePerNetwork snapshot)
    (hby : AnswersBy nodes answer (nodeLookups snapshot nodes cidrs))
    (hm : updateEntries fuel ⟨config, cidrs⟩ (sortAddress config.excludeCIDRs) changed snapshot
      nodes = some (m, changed')) :
    Converged fuel config snapshot answer m := by
  obtain ⟨m₁, hloop, hdrop⟩ := updateEntries_eq_some.mp hm
  have hex := sortAddress_perm config.excludeCIDRs
  have hkept : KeptBy snapshot answer (filterEntries snapshot nodes changed cidrs) :=
    (filterEntries_by hby).1
  have hstart := hinv.filter snapshot nodes changed
  have hinv₁ : PassInv config m₁ := by
    refine foldlM_invariant (P := fun st : GoMap String CIDREntry × Bool => PassInv config st.1) ?_
      hstart hloop
    intro st st' turn _ hst hstep
    exact hst.turn_step hblock hex hstep
  have hstay : m₁.All fun net entry => ∀ host ∈ entry.hosts,
      stays snapshot answer net host = true := by
    refine foldlM_invariant (P := fun st : GoMap String CIDREntry × Bool => st.1.All
      fun net entry => ∀ host ∈ entry.hosts, stays snapshot answer net host = true) ?_
      hkept.hosts hloop
    intro st st' turn hturn hst hstep
    exact stays_turn_step (onNet_of_mem_turns hkeyed hturn) hst hstep
  have hidle : ∀ turn ∈ turns snapshot.values,
      Idle fuel config ((sortAddress config.excludeCIDRs).map (·.address)) m₁ turn := by
    refine foldlM_settles (P := fun st : GoMap String CIDREntry × Bool => PassInv config st.1)
      turnKey (fun st turn =>
        Idle fuel config ((sortAddress config.excludeCIDRs).map (·.address)) st.1 turn)
      ?_ ?_ ?_ (nodup_turns hkeyed hone) hstart hloop
    · intro st st' turn _ hst hstep
      exact hst.turn_step hblock hex hstep
    · intro st st' turn _ hst hstep
      exact idle_of_own hblock hex hst hstep
    · intro st st' turn _ other hkey hst hstep hidle
      exact hidle.turn_step hblock hex hst hkey hstep
  -- no host found dead is left, so that the last step removes none
  have hsame : SameLookups m₁ m := by
    intro net
    rw [hdrop]
    split
    · rw [GoMap.lookup_mapValues]
      cases hl : m₁.lookup net with
      | none => rfl
      | some entry =>
        have halive : ∀ host ∈ entry.hosts, host.hostName ∉
            (filterEntries snapshot nodes changed cidrs).diedHost := fun host hhost =>
          notMem_of_stays hkept.dead (hstay net entry hl host hhost)
        exact congrArg some (dropDied_eq_self halive).symm
    · rfl
  exact Converged.of_sameLookups ⟨hinv₁, hidle, hstay⟩ hsame

/-- The values of the map are its entries. -/
theorem PlacedMap.sameEntries (h : PlacedMap config m) (hperm : cidrs.Perm m.values) :
    SameEntries cidrs m := by
  intro net entry
  rw [hperm.mem_iff, GoMap.mem_values]
  constructor
  · intro hl
    exact ⟨⟨net, hl⟩, (h net entry hl).1⟩
  · rintro ⟨⟨net', hl⟩, rfl⟩
    rw [(h net' entry hl).1]
    exact hl

/-- **A pass on converged entries returns them**, and reports no change. -/
theorem Converged.pass (h : Converged fuel config snapshot answer m)
    (hperm : cidrs.Perm m.values) (hfuel : fuel ≤ fuel')
    (hby : AnswersBy nodes answer (nodeLookups snapshot nodes cidrs)) :
    ∃ m', updateEntries fuel' ⟨config, cidrs⟩ (sortAddress config.excludeCIDRs) false snapshot
      nodes = some (m', false) ∧ SameLookups m m' := by
  have hentries := h.inv.placed.sameEntries hperm
  have hall : ∀ entry ∈ cidrs, ∀ host ∈ entry.hosts,
      stays snapshot answer entry.netAddress host = true := fun entry hentry =>
    h.stay _ entry ((hentries _ _).mpr ⟨hentry, rfl⟩)
  obtain ⟨hfalse, hnil, hkept⟩ := filterEntries_same hby (h.inv.placed.nodup_nets hperm) hall
  have hsame : SameLookups m (filterEntries snapshot nodes false cidrs).entriesMap := fun net =>
    Option.ext fun entry => (hentries net entry).trans (hkept net entry).symm
  have hrun : ∃ st : GoMap String CIDREntry × Bool, (turns snapshot.values).foldlM
      (placeTurn fuel' config ((sortAddress config.excludeCIDRs).map (·.address)))
      ((filterEntries snapshot nodes false cidrs).entriesMap, false) = some st ∧
      SameLookups m st.1 ∧ st.2 = false := by
    refine foldlM_total (P := fun st : GoMap String CIDREntry × Bool =>
      SameLookups m st.1 ∧ st.2 = false) ?_ ⟨hsame, rfl⟩
    rintro ⟨m₁, flag⟩ turn hturn ⟨hm₁, rfl⟩
    obtain ⟨m₂, hstep, hm₂⟩ := ((h.of_sameLookups hm₁).idle turn hturn).does_nothing hfuel
    exact ⟨(m₂, false), hstep, fun net => (hm₁ net).trans (hm₂ net), rfl⟩
  obtain ⟨⟨m', flag⟩, hloop, hm', rfl⟩ := hrun
  refine ⟨m', updateEntries_eq_some.mpr ⟨m', ?_, ?_⟩, hm'⟩
  · rw [hfalse]
    exact hloop
  · rw [hnil]
    rfl

end Converge

/-- **`UpdateEntries` converges in one step.** Let the entries be reachable from `NewCIDR`, let the
snapshot be keyed by host name with one interface of a host on a network, and let the node lookups
answer the same throughout. A second pass on the entries the first has returned, in any order and
with the same snapshot in any order, reports no change and returns the same entries. -/
theorem update_converges {config : PluginConfig} {cidrs cidrs' : List CIDREntry}
    (hblock : 1 ≤ config.hostBlock) (hreach : ReachableByPasses config cidrs)
    {snapshot snapshot' : GoMap String HostInterface} (hkeyed : ByHostName snapshot)
    (hone : OnePerNetwork snapshot) {answer : String → NodeLookup} {nodes nodes' : Nat → NodeLookup}
    (hby : AnswersBy nodes answer (nodeLookups snapshot nodes cidrs)) {fuel fuel' : Nat}
    {changed changed' : Bool} {m : GoMap String CIDREntry}
    (hm : updateEntries fuel ⟨config, cidrs⟩ (sortAddress config.excludeCIDRs) changed snapshot
      nodes = some (m, changed'))
    (hperm : cidrs'.Perm m.values)
    (hsnap : ∀ name, snapshot'.lookup name = snapshot.lookup name)
    (hby' : AnswersBy nodes' answer (nodeLookups snapshot' nodes' cidrs')) (hfuel : fuel ≤ fuel') :
    ∃ m', updateEntries fuel' ⟨config, cidrs'⟩ (sortAddress config.excludeCIDRs) false snapshot'
      nodes' = some (m', false) ∧ SameLookups m m' := by
  have hconv := (hreach.specInv hblock).converged hblock hkeyed hone hby hm
  exact (hconv.of_snapshot hsnap).pass hperm hfuel hby'

theorem shownHosts_snapshot (hosts : List (String × String)) :
    ByHostName (shownHosts hosts) ∧ OnePerNetwork (shownHosts hosts) := by
  induction hosts with
  | nil => exact ⟨GoMap.All.empty _, GoMap.All.empty _⟩
  | cons host hosts ih => exact ⟨ih.1.insert rfl, ih.2.insert (List.nodup_singleton _)⟩

/-- Host `a` is gone, and hosts `b` and `c` come up: the second pass, which goes through the hosts
in the other order, has nothing to do. -/
theorem update_converges_replaced : ∃ m m',
    updateEntries 4 ⟨oneNetwork, oneHost⟩ (sortAddress oneNetwork.excludeCIDRs) false
      (shownHosts [("b", "10.0.1.2"), ("c", "10.0.1.3")]) (fun _ => .notFound) = some (m, true) ∧
    updateEntries 4 ⟨oneNetwork, m.values⟩ (sortAddress oneNetwork.excludeCIDRs) false
      (shownHosts [("c", "10.0.1.3"), ("b", "10.0.1.2")]) (fun _ => .notFound) =
        some (m', false) ∧
    SameLookups m m' := by
  have hrun : (updateEntries 4 ⟨oneNetwork, oneHost⟩ (sortAddress oneNetwork.excludeCIDRs) false
      (shownHosts [("b", "10.0.1.2"), ("c", "10.0.1.3")]) (fun _ => .notFound)).map (·.2) =
      some true := by decide +kernel
  obtain ⟨⟨m, changed⟩, hm, hflag⟩ := Option.map_eq_some_iff.mp hrun
  obtain rfl : changed = true := hflag
  obtain ⟨hkeyed, hone⟩ := shownHosts_snapshot [("b", "10.0.1.2"), ("c", "10.0.1.3")]
  have hsnap : ∀ name, (shownHosts [("c", "10.0.1.3"), ("b", "10.0.1.2")]).lookup name =
      (shownHosts [("b", "10.0.1.2"), ("c", "10.0.1.3")]).lookup name := fun name =>
    AList.perm_lookup (AList.insert_insert_of_ne _ (by decide))
  have hby : ∀ asked, AnswersBy (fun _ => .notFound) (fun _ => .notFound) asked :=
    fun _ _ _ _ => rfl
  obtain ⟨m', hm', hsame⟩ := update_converges (by decide) reachable_oneHost.byPasses hkeyed hone
    (hby _) hm (List.Perm.refl _) hsnap (hby _) le_rfl
  exact ⟨m, m', hm, hm', hsame⟩

end MultiNicCni.Controller
