import MultiNicCni.Controller.DiedHosts

/-!
# The changed flag of `UpdateEntries`

`updateCIDR` publishes the entries of a pass only if the pass reports a change. The first loop and
most turns of the second set the flag or leave it, but a turn whose search for an index fails
assigns `false` to it: the turn forgets what was reported before, and it does not report that it
removed its own host or made an entry for a new network.

- `allStay_iff`: the first loop reports nothing exactly when no listed host leaves;
- `turnEffect`: what a turn does to the entries and to the flag;
- `NothingNew`: on the entries as they were given, there is nothing to report of a turn;
- `no_change_lost`: **a pass that reports no change has made none, if no search for an index fails
  after something was to be reported**; if one does, a change is forgotten there.
-/

namespace MultiNicCni.Controller

open Go Compute Lib

variable {entries : List CIDREntry} {config : PluginConfig} {excludes : List String}
  {turn : String × InterfaceInfoType}

/-- The map has the entries of the list, by their network addresses. -/
def SameEntries (entries : List CIDREntry) (m : GoMap String CIDREntry) : Prop :=
  ∀ net entry, m.lookup net = some entry ↔ entry ∈ entries ∧ entry.netAddress = net

/-! ## The first loop -/

/-- No listed host leaves: those of the snapshot have an interface on the network of their entry,
and no lookup finds a node gone. -/
structure AllStay (snapshot : GoMap String HostInterface) (nodes : Nat → NodeLookup)
    (entries : List CIDREntry) : Prop where
  shown : ∀ entry ∈ entries, ∀ host ∈ entry.hosts, ∀ hif,
    snapshot.lookup host.hostName = some hif → ∃ iface ∈ hif.interfaces,
      iface.netAddress = entry.netAddress
  alive : ∀ name, ¬ FoundDead snapshot nodes entries name

section Filter

variable {snapshot : GoMap String HostInterface} {nodes : Nat → NodeLookup} {net : String}
  {hosts : List HostInterfaceInfo}

/-- The snapshot shows the host, but not on the network. -/
def Hangs (snapshot : GoMap String HostInterface) (net name : String) : Prop :=
  ∃ hif, snapshot.lookup name = some hif ∧ ∀ iface ∈ hif.interfaces, iface.netAddress ≠ net

/-- One host: it is kept and nothing else happens, or it hangs or is found dead. -/
theorem scanHost_kept_or_gone (snapshot : GoMap String HostInterface) (nodes : Nat → NodeLookup)
    (net : String) (st : ScanState) (host : HostInterfaceInfo) :
    ((scanHost snapshot nodes net st host).newHostList.length = st.newHostList.length + 1 ∧
        (scanHost snapshot nodes net st host).diedHost = st.diedHost ∧
        (scanHost snapshot nodes net st host).changed = st.changed ∧
        ¬ Hangs snapshot net host.hostName) ∨
      ((scanHost snapshot nodes net st host).newHostList.length = st.newHostList.length ∧
        (Hangs snapshot net host.hostName ∨
          host.hostName ∈ (scanHost snapshot nodes net st host).diedHost)) := by
  have hlen : (st.newHostList ++ [host]).length = st.newHostList.length + 1 := by simp
  unfold scanHost
  split
  · next hif hl =>
    split
    · next hany =>
      refine Or.inl ⟨hlen, rfl, rfl, ?_⟩
      rintro ⟨hif', hl', hnone⟩
      rw [hl] at hl'
      cases hl'
      obtain ⟨iface, hiface, hnet⟩ := List.any_eq_true.mp hany
      exact hnone iface hiface (beq_iff_eq.mp hnet)
    · next hany =>
      refine Or.inr ⟨rfl, Or.inl ⟨hif, hl, fun iface hiface hnet => hany ?_⟩⟩
      exact List.any_eq_true.mpr ⟨iface, hiface, beq_iff_eq.mpr hnet⟩
  · next hl =>
    split
    · next hdied => exact Or.inr ⟨rfl, Or.inr hdied⟩
    · split
      · exact Or.inr ⟨rfl, Or.inr List.mem_cons_self⟩
      · refine Or.inl ⟨hlen, rfl, rfl, ?_⟩
        rintro ⟨hif, hl', -⟩
        rw [hl] at hl'
        cases hl'

/-- A host found dead stays so. -/
theorem scanHosts_died {st : ScanState} {name : String} (h : name ∈ st.diedHost) :
    name ∈ (hosts.foldl (scanHost snapshot nodes net) st).diedHost := by
  refine foldl_invariant (P := fun st : ScanState => name ∈ st.diedHost) ?_ h
  intro st host _ hst
  rcases (scanHost_cases snapshot nodes net st host).2 with hd | ⟨-, hd⟩
  · rw [hd]
    exact hst
  · rw [hd]
    exact List.mem_cons_of_mem _ hst

/-- The hosts of one entry. -/
theorem scanHosts_kept_or_gone (snapshot : GoMap String HostInterface)
    (nodes : Nat → NodeLookup) (net : String) (hosts : List HostInterfaceInfo) (st : ScanState) :
    ((hosts.foldl (scanHost snapshot nodes net) st).newHostList.length =
          st.newHostList.length + hosts.length ∧
        (hosts.foldl (scanHost snapshot nodes net) st).diedHost = st.diedHost ∧
        (hosts.foldl (scanHost snapshot nodes net) st).changed = st.changed ∧
        ∀ host ∈ hosts, ¬ Hangs snapshot net host.hostName) ∨
      ((hosts.foldl (scanHost snapshot nodes net) st).newHostList.length <
          st.newHostList.length + hosts.length ∧
        ∃ host ∈ hosts, Hangs snapshot net host.hostName ∨
          host.hostName ∈ (hosts.foldl (scanHost snapshot nodes net) st).diedHost) := by
  induction hosts generalizing st with
  | nil => exact Or.inl ⟨rfl, rfl, rfl, nofun⟩
  | cons host hosts ih =>
    rw [List.foldl_cons, List.length_cons]
    rcases scanHost_kept_or_gone snapshot nodes net st host with
      ⟨hlen, hdied, hchanged, hon⟩ | ⟨hlen, hgone⟩
    · rcases ih (scanHost snapshot nodes net st host) with
        ⟨ihlen, ihdied, ihchanged, ihon⟩ | ⟨ihlen, other, hother, hgone⟩
      · exact Or.inl ⟨by omega, ihdied.trans hdied, ihchanged.trans hchanged,
          List.forall_mem_cons.mpr ⟨hon, ihon⟩⟩
      · exact Or.inr ⟨by omega, other, List.mem_cons_of_mem host hother, hgone⟩
    · refine Or.inr ⟨?_, host, List.mem_cons_self, hgone.imp_right scanHosts_died⟩
      rcases ih (scanHost snapshot nodes net st host) with ⟨ihlen, -⟩ | ⟨ihlen, -⟩ <;> omega

/-- The first loop never takes the flag back. -/
theorem filterEntry_changed {st : FilterState} (h : st.changed = true) (entry : CIDREntry) :
    (filterEntry snapshot nodes st entry).changed = true := by
  have hscan : (scanEntry snapshot nodes st entry).changed = true := by
    refine foldl_invariant (P := fun st : ScanState => st.changed = true) ?_ h
    intro st host _ hst
    unfold scanHost
    split
    · split
      · exact hst
      · exact hst
    · split
      · rfl
      · split
        · exact hst
        · exact hst
  simp only [filterEntry, hscan, Bool.true_or]

/-- One turn of the first loop, when nothing was changed before: the entry stays as it is, or a
host of it hangs or is found dead and the flag is set. -/
theorem filterEntry_kept_or_gone {st : FilterState} (hdied : st.diedHost = [])
    (hchanged : st.changed = false) (entry : CIDREntry) :
    ((filterEntry snapshot nodes st entry).changed = false ∧
        (filterEntry snapshot nodes st entry).diedHost = [] ∧
        (filterEntry snapshot nodes st entry).entriesMap =
          st.entriesMap.insert entry.netAddress entry ∧
        ∀ host ∈ entry.hosts, ¬ Hangs snapshot entry.netAddress host.hostName) ∨
      ((filterEntry snapshot nodes st entry).changed = true ∧
        ∃ host ∈ entry.hosts, Hangs snapshot entry.netAddress host.hostName ∨
          host.hostName ∈ (filterEntry snapshot nodes st entry).diedHost) := by
  obtain ⟨kept, hkept, hsub, -⟩ := scanHosts_spec nodes entry.netAddress
    ⟨[], st.diedHost, st.changed, st.lookups⟩ entry.hosts
    (by rw [hdied]; exact fun n (hn : n ∈ []) => absurd hn List.not_mem_nil)
  have hscan : (scanEntry snapshot nodes st entry).newHostList = kept := hkept
  have hlength := congrArg List.length hkept
  rcases scanHosts_kept_or_gone snapshot nodes entry.netAddress entry.hosts
    ⟨[], st.diedHost, st.changed, st.lookups⟩ with
    ⟨hlen, hd, hc, hon⟩ | ⟨hlen, hgone⟩
  · -- every host is kept
    obtain rfl := hsub.eq_of_length (by simpa using hlength.symm.trans hlen)
    have hd : (scanEntry snapshot nodes st entry).diedHost = [] := hd.trans hdied
    have hc : (scanEntry snapshot nodes st entry).changed = false := hc.trans hchanged
    refine Or.inl ⟨?_, hd, ?_, hon⟩
    · simp [filterEntry, hscan, hd, hc]
    · have hkeep : entry.hosts.length = 0 ∨ 0 < entry.hosts.length := Nat.eq_zero_or_pos _
      simp only [filterEntry, hscan, if_pos hkeep]
  · refine Or.inr ⟨?_, hgone⟩
    have hne : entry.hosts.length ≠ kept.length := by
      rw [hlength] at hlen
      simp only [List.nil_append, List.length_nil] at hlen
      omega
    simp [filterEntry, hscan, hne]

/-- The first loop: every entry stays as it is and the flag stays false, or some host hangs or is
found dead and the flag is set. -/
theorem filterEntries_kept_or_gone (hnets : (entries.map (·.netAddress)).Nodup) :
    ((filterEntries snapshot nodes false entries).changed = false ∧
        (filterEntries snapshot nodes false entries).diedHost = [] ∧
        SameEntries entries (filterEntries snapshot nodes false entries).entriesMap ∧
        ∀ entry ∈ entries, ∀ host ∈ entry.hosts, ¬ Hangs snapshot entry.netAddress host.hostName) ∨
      ((filterEntries snapshot nodes false entries).changed = true ∧
        ∃ entry ∈ entries, ∃ host ∈ entry.hosts, Hangs snapshot entry.netAddress host.hostName ∨
          host.hostName ∈ (filterEntries snapshot nodes false entries).diedHost) := by
  induction entries using List.reverseRecOn with
  | nil => exact Or.inl ⟨rfl, rfl, fun net entry => iff_of_false nofun nofun, nofun⟩
  | append_singleton entries entry ih =>
    rw [List.map_append, List.map_singleton, List.nodup_append] at hnets
    obtain ⟨hnets, -, hnew⟩ := hnets
    have hnew : ∀ e ∈ entries, e.netAddress ≠ entry.netAddress := fun e he =>
      hnew _ (List.mem_map_of_mem he) _ (List.mem_singleton_self _)
    rw [filterEntries, List.foldl_append, List.foldl_cons, List.foldl_nil, ← filterEntries]
    rcases ih hnets with ⟨hchanged, hdied, hsame, hon⟩ | ⟨hchanged, e, he, host, hhost, hgone⟩
    · rcases filterEntry_kept_or_gone hdied hchanged entry with ⟨hc, hd, hm, hon'⟩ | ⟨hc, hgone⟩
      · refine Or.inl ⟨hc, hd, fun net e => ?_, ?_⟩
        · rw [hm, List.mem_append, List.mem_singleton]
          by_cases hnet : net = entry.netAddress
          · subst hnet
            rw [AList.lookup_insert, Option.some.injEq]
            constructor
            · rintro rfl
              exact ⟨Or.inr rfl, rfl⟩
            · rintro ⟨he | rfl, hnet⟩
              · exact absurd hnet (hnew e he)
              · rfl
          · rw [AList.lookup_insert_ne hnet, hsame]
            constructor
            · exact fun h => ⟨Or.inl h.1, h.2⟩
            · rintro ⟨he | rfl, h⟩
              · exact ⟨he, h⟩
              · exact absurd h.symm hnet
        · intro e he
          rcases List.mem_append.mp he with he | he
          · exact hon e he
          · rw [List.mem_singleton.mp he]
            exact hon'
      · exact Or.inr ⟨hc, entry, List.mem_append_right _ (List.mem_singleton_self _), hgone⟩
    · refine Or.inr ⟨filterEntry_changed hchanged entry, e, List.mem_append_left _ he, host, hhost,
        hgone.imp_right fun hmem => ?_⟩
      exact scanHosts_died hmem

/-- The first loop reports nothing exactly when no host leaves. -/
theorem allStay_iff (hnets : (entries.map (·.netAddress)).Nodup) :
    AllStay snapshot nodes entries ↔ (filterEntries snapshot nodes false entries).changed = false := by
  have hhangs : ∀ net name, ¬ Hangs snapshot net name ↔ ∀ hif, snapshot.lookup name = some hif →
      ∃ iface ∈ hif.interfaces, iface.netAddress = net := by
    intro net name
    simp [Hangs]
  rcases filterEntries_kept_or_gone hnets with ⟨hfalse, hdied, -, hon⟩ |
    ⟨htrue, entry, hentry, host, hhost, hgone⟩
  · refine iff_of_true ⟨fun entry hentry host hhost => ?_, fun name hdead => ?_⟩ hfalse
    · exact (hhangs _ _).mp (hon entry hentry host hhost)
    · have hmem := (mem_diedHost snapshot nodes false entries name).mpr hdead
      rw [hdied] at hmem
      exact List.not_mem_nil hmem
  · refine iff_of_false (fun hstay => ?_) (by rw [htrue]; exact Bool.noConfusion)
    rcases hgone with hgone | hgone
    · exact (hhangs _ _).mpr (hstay.shown entry hentry host hhost) hgone
    · exact hstay.alive _ ((mem_diedHost snapshot nodes false entries _).mp hgone)

end Filter

/-! ## What a turn does to the flag -/

/-- A turn on the entries alone, with what it does to the flag: it reports if it sets the flag, and
forgets if it takes the flag back. -/
def turnEffect (fuel : Nat) (config : PluginConfig) (excludes : List String)
    (m : GoMap String CIDREntry) (turn : String × InterfaceInfoType) :
    Option (GoMap String CIDREntry × Effect) := do
  let (m', reports) ← placeTurn fuel config excludes (m, false) turn
  let (_, keeps) ← placeTurn fuel config excludes (m, true) turn
  some (m', if reports then .report else if keeps then .keep else .forget)

/-- The same entries. -/
def SameLookups (m m' : GoMap String CIDREntry) : Prop := ∀ net, m.lookup net = m'.lookup net

section Effect

variable {fuel : Nat} {m m' : GoMap String CIDREntry} {effect : Effect}

/-- A turn is skipped, or its host is placed in the entry of its network. -/
theorem turnEffect_eq_some :
    turnEffect fuel config excludes m turn = some (m', effect) ↔
      (m' = m ∧ effect = .keep ∧ (¬ Selected config turn.2 ∨
        getInterfaceEntry fuel config m turn.2.netAddress = some none)) ∨
      ∃ entry hosts, Selected config turn.2 ∧
        getInterfaceEntry fuel config m turn.2.netAddress = some (some entry) ∧
        Turn fuel config excludes turn.1 turn.2 entry hosts effect ∧
        m' = m.insert turn.2.netAddress { entry with hosts } := by
  constructor
  · intro h
    obtain ⟨⟨m₀, reports⟩, h₀, h⟩ := Option.bind_eq_some_iff.mp h
    obtain ⟨⟨m₁, keeps⟩, h₁, h⟩ := Option.bind_eq_some_iff.mp h
    rcases placeTurn_eq_some.mp h₀ with ⟨heq, hskip⟩ | ⟨entry, hosts, e, hsel, hget, hturn, heq⟩
    · have h₂ : placeTurn fuel config excludes (m, true) turn = some (m, true) :=
        placeTurn_eq_some.mpr (Or.inl ⟨rfl, hskip⟩)
      rw [h₂] at h₁
      cases heq
      cases h₁
      cases h
      exact Or.inl ⟨rfl, rfl, hskip⟩
    · have h₂ : placeTurn fuel config excludes (m, true) turn =
          some (m.insert turn.2.netAddress { entry with hosts }, e.apply true) :=
        placeTurn_eq_some.mpr (Or.inr ⟨entry, hosts, e, hsel, hget, hturn, rfl⟩)
      rw [h₂] at h₁
      cases heq
      cases h₁
      cases h
      refine Or.inr ⟨entry, hosts, hsel, hget, ?_, rfl⟩
      cases e <;> exact hturn
  · rintro (⟨rfl, rfl, hskip⟩ | ⟨entry, hosts, hsel, hget, hturn, rfl⟩)
    · have h : ∀ changed, placeTurn fuel config excludes (m', changed) turn =
          some (m', changed) := fun changed => placeTurn_eq_some.mpr (Or.inl ⟨rfl, hskip⟩)
      rw [turnEffect, h, h]
      rfl
    · have h : ∀ changed, placeTurn fuel config excludes (m, changed) turn =
          some (m.insert turn.2.netAddress { entry with hosts }, effect.apply changed) :=
        fun changed => placeTurn_eq_some.mpr (Or.inr ⟨entry, hosts, effect, hsel, hget, hturn, rfl⟩)
      rw [turnEffect, h, h]
      cases effect <;> rfl

/-- A turn is its effect, with the flag carried along. -/
theorem placeTurn_eq_flagged (st : GoMap String CIDREntry × Bool) :
    placeTurn fuel config excludes st turn =
      flagged (turnEffect fuel config excludes) st turn := by
  refine Option.ext fun st' => ?_
  rw [placeTurn_eq_some, flagged_eq_some]
  constructor
  · rintro (⟨rfl, hskip⟩ | ⟨entry, hosts, e, hsel, hget, hturn, rfl⟩)
    · exact ⟨.keep, turnEffect_eq_some.mpr (Or.inl ⟨rfl, rfl, hskip⟩), rfl⟩
    · exact ⟨e, turnEffect_eq_some.mpr (Or.inr ⟨entry, hosts, hsel, hget, hturn, rfl⟩), rfl⟩
  · rintro ⟨e, heffect, hflag⟩
    rcases turnEffect_eq_some.mp heffect with ⟨hm, rfl, hskip⟩ |
      ⟨entry, hosts, hsel, hget, hturn, hm⟩
    · exact Or.inl ⟨Prod.ext hm hflag, hskip⟩
    · exact Or.inr ⟨entry, hosts, e, hsel, hget, hturn, Prod.ext hm hflag⟩

/-- Writing back the entry that is there. -/
theorem sameLookups_insert {net : String} {entry : CIDREntry} (hl : m.lookup net = some entry) :
    SameLookups m (m.insert net entry) := by
  intro net'
  rw [GoMap.lookup_insert_ite]
  split
  · next hnet => rw [hnet, hl]
  · rfl

/-- A turn that leaves the flag leaves the entries. -/
theorem turnEffect_keep (h : turnEffect fuel config excludes m turn = some (m', .keep)) :
    SameLookups m m' := by
  rcases turnEffect_eq_some.mp h with ⟨rfl, -⟩ | ⟨entry, hosts, -, hget, hturn, rfl⟩
  · exact fun _ => rfl
  · -- only a refresh that changes nothing
    generalize hkeep : Effect.keep = effect at hturn
    cases hturn with
    | add => cases hkeep
    | full => cases hkeep
    | move => cases hkeep
    | lose => cases hkeep
    | @refresh i host podCIDR hidx hhost ha =>
      split at hkeep
      · cases hkeep
      · next hfresh =>
        rw [set_refreshHost_eq_self hhost hfresh]
        exact sameLookups_insert (lookup_of_mem_hosts hget (List.mem_of_getElem? hhost))

end Effect

/-! ## The whole pass -/

/-- On the entries as they were given, there is nothing to report of the turn: it is skipped, its
host keeps its index and has an up-to-date record, or its host is not listed and is refused on a
network that has an entry. -/
def NothingNew (entries : List CIDREntry) (turn : String × InterfaceInfoType) :
    Option (Network (String × Int) × Seating) → Prop
  | none => True
  | some (_, .keeps i podCIDR) => ∃ entry ∈ entries, entry.netAddress = turn.2.netAddress ∧
      ∃ host, entry.hosts[i]? = some host ∧ ¬ Stale turn.2 podCIDR host
  | some (_, .refused) => ∃ entry ∈ entries, entry.netAddress = turn.2.netAddress
  | _ => False

/-- No index is found for the host of the turn. -/
def NoneFound (found : Option (Network (String × Int) × Seating)) : Prop :=
  ∃ network s, found = some (network, s) ∧ s.fails = true

/-- Following names and indexes through the turns: when no index is found for a host, nothing was
to be reported until then, and there is nothing to report of that turn. `unchanged` says that
nothing was to be reported so far. -/
def NoneForgotten (fuel : Nat) (config : PluginConfig) (excludes : List String)
    (entries : List CIDREntry) :
    Prop → GoMap String (Network (String × Int)) → List (String × InterfaceInfoType) → Prop
  | _, _, [] => True
  | unchanged, m, turn :: rest =>
    let found := View.names.seatingAt fuel config excludes m turn
    (NoneFound found → unchanged ∧ NothingNew entries turn found) ∧
      NoneForgotten fuel config excludes entries (unchanged ∧ NothingNew entries turn found)
        (View.names.turn fuel config excludes m turn) rest

/-- No search for an index fails after a host has left, or an earlier turn had something to
report. -/
def NoChangeForgotten (fuel : Nat) (spec : CIDRSpec) (excludes : List IPValue)
    (snapshot : GoMap String HostInterface) (nodes : Nat → NodeLookup) : Prop :=
  NoneForgotten fuel spec.config (excludes.map (·.address)) spec.cidrs
    (AllStay snapshot nodes spec.cidrs)
    (seatsOf (filterEntries snapshot nodes false spec.cidrs).entriesMap) (turns snapshot.values)

section Run

variable {fuel : Nat} {m m' : GoMap String CIDREntry} {effect : Effect}

theorem SameEntries.of_sameLookups (h : SameEntries entries m) (hsame : SameLookups m m') :
    SameEntries entries m' := by
  intro net entry
  rw [← hsame net]
  exact h net entry

/-- The flag is taken back where no index is found. -/
theorem turnEffect_forget_iff (h : turnEffect fuel config excludes m turn = some (m', effect)) :
    effect = .forget ↔ NoneFound (View.names.seatingAt fuel config excludes (seatsOf m) turn) := by
  rcases turnEffect_eq_some.mp h with ⟨-, rfl, hskip⟩ | ⟨entry, hosts, hsel, hget, hturn, -⟩
  · rw [seatsOf_skipped hskip]
    refine iff_of_false nofun ?_
    rintro ⟨network, s, hnone, -⟩
    cases hnone
  · rw [seatsOf_seatingAt hsel hget, hturn.forget_iff]
    constructor
    · exact fun hfails => ⟨_, _, rfl, hfails⟩
    · rintro ⟨network, s, heq, hfails⟩
      cases heq
      exact hfails

/-- A turn on the entries as they were given: there is nothing to report, and they stay as they are,
or the turn reports, or it takes the flag back although it changes them. -/
theorem SameEntries.turn_cases (hsame : SameEntries entries m)
    (h : turnEffect fuel config excludes m turn = some (m', effect)) :
    (NothingNew entries turn (View.names.seatingAt fuel config excludes (seatsOf m) turn) ∧
        effect ≠ .report ∧ SameEntries entries m') ∨
      (¬ NothingNew entries turn (View.names.seatingAt fuel config excludes (seatsOf m) turn) ∧
        (effect = .report ∨ (effect = .forget ∧ ¬ SameLookups m m'))) := by
  have hkeep := h
  rcases turnEffect_eq_some.mp h with ⟨rfl, rfl, hskip⟩ | ⟨entry, hosts, hsel, hget, hturn, rfl⟩
  · rw [seatsOf_skipped hskip]
    exact Or.inl ⟨trivial, nofun, hsame⟩
  rw [seatsOf_seatingAt hsel hget]
  cases hturn with
  | add hnot hfound =>
    rw [seating_added hnot hfound]
    exact Or.inr ⟨id, Or.inl rfl⟩
  | full hnot hfound =>
    rw [seating_refused hnot hfound]
    by_cases hlisted : ∃ e ∈ entries, e.netAddress = turn.2.netAddress
    · obtain ⟨e, he, hnet⟩ := hlisted
      have hl := (hsame turn.2.netAddress e).mpr ⟨he, hnet⟩
      rw [← getInterfaceEntry_eq hget hl] at hl
      exact Or.inl ⟨⟨e, he, hnet⟩, nofun, hsame.of_sameLookups (sameLookups_insert hl)⟩
    · -- the entry is made by the turn
      refine Or.inr ⟨hlisted, Or.inr ⟨rfl, fun hlookups => hlisted ?_⟩⟩
      have hl := hlookups turn.2.netAddress
      rw [AList.lookup_insert] at hl
      exact ⟨_, (hsame _ _).mp hl⟩
  | @refresh i host podCIDR hidx hhost ha =>
    rw [seating_keeps hidx hhost ha]
    have hl := lookup_of_mem_hosts hget (List.mem_of_getElem? hhost)
    have hfresh : NothingNew entries turn (some (seatsIn entry, .keeps i podCIDR)) ↔
        ¬ Stale turn.2 podCIDR host := by
      constructor
      · rintro ⟨e, he, hnet, host', hhost', hfresh⟩
        have hl' := (hsame turn.2.netAddress e).mpr ⟨he, hnet⟩
        rw [hl] at hl'
        cases hl'
        rw [hhost] at hhost'
        cases hhost'
        exact hfresh
      · intro hfresh
        obtain ⟨hentry, hnet⟩ := (hsame _ _).mp hl
        exact ⟨entry, hentry, hnet, host, hhost, hfresh⟩
    rw [hfresh]
    by_cases hstale : Stale turn.2 podCIDR host
    · rw [if_pos hstale]
      exact Or.inr ⟨not_not.mpr hstale, Or.inl rfl⟩
    · rw [if_neg hstale] at hkeep ⊢
      exact Or.inl ⟨hstale, nofun, hsame.of_sameLookups (turnEffect_keep hkeep)⟩
  | move hdisp hfound =>
    rw [seating_moved hdisp hfound]
    exact Or.inr ⟨id, Or.inl rfl⟩
  | @lose i host e hdisp hfound =>
    rw [seating_removed hdisp hfound]
    refine Or.inr ⟨id, Or.inr ⟨rfl, fun hlookups => ?_⟩⟩
    -- the host is missing afterwards
    have hl := hlookups turn.2.netAddress
    rw [AList.lookup_insert, lookup_of_mem_hosts hget (List.mem_of_getElem? hdisp.record)] at hl
    have hlen := congrArg (fun e : CIDREntry => e.hosts.length) (Option.some.inj hl)
    have hlt := hdisp.lt
    dsimp only at hlen
    rw [List.length_eraseIdx_of_lt hlt] at hlen
    omega

/-- The state of the loop: the given entries with the flag false, or the flag is set. -/
structure Tracks (entries : List CIDREntry) (unchanged : Prop)
    (st : GoMap String CIDREntry × Bool) : Prop where
  same : unchanged → SameEntries entries st.1 ∧ st.2 = false
  reported : ¬ unchanged → st.2 = true

/-- One turn: the state is tracked further, or the turn forgets a change. -/
theorem Tracks.turn_step {unchanged : Prop} {st st' : GoMap String CIDREntry × Bool}
    (h : Tracks entries unchanged st)
    (hstep : turnEffect fuel config excludes st.1 turn = some (st'.1, effect))
    (hflag : st'.2 = effect.apply st.2) :
    ((NoneFound (View.names.seatingAt fuel config excludes (seatsOf st.1) turn) → unchanged ∧
          NothingNew entries turn (View.names.seatingAt fuel config excludes (seatsOf st.1) turn)) ∧
        Tracks entries (unchanged ∧ NothingNew entries turn
          (View.names.seatingAt fuel config excludes (seatsOf st.1) turn)) st') ∨
      (¬ (NoneFound (View.names.seatingAt fuel config excludes (seatsOf st.1) turn) → unchanged ∧
          NothingNew entries turn (View.names.seatingAt fuel config excludes (seatsOf st.1) turn)) ∧
        effect = .forget ∧ (st.2 = true ∨ ¬ SameLookups st.1 st'.1)) := by
  rw [← turnEffect_forget_iff hstep]
  by_cases hun : unchanged
  · obtain ⟨hsame, hfalse⟩ := h.same hun
    rw [hfalse] at hflag
    rcases hsame.turn_cases hstep with ⟨hnew, hne, hsame'⟩ | ⟨hnew, hreport | ⟨hforget, hchanged⟩⟩
    · refine Or.inl ⟨fun _ => ⟨hun, hnew⟩, fun _ => ⟨hsame', ?_⟩, fun hnot => absurd ⟨hun, hnew⟩ hnot⟩
      cases effect with
      | keep => exact hflag
      | report => exact absurd rfl hne
      | forget => exact hflag
    · rw [hreport] at hflag ⊢
      exact Or.inl ⟨nofun, fun hboth => absurd hboth.2 hnew, fun _ => hflag⟩
    · exact Or.inr ⟨fun hgood => hnew (hgood hforget).2, hforget, Or.inr hchanged⟩
  · have htrue := h.reported hun
    rw [htrue] at hflag
    cases effect with
    | keep => exact Or.inl ⟨nofun, fun hboth => absurd hboth.1 hun, fun _ => hflag⟩
    | report => exact Or.inl ⟨nofun, fun hboth => absurd hboth.1 hun, fun _ => hflag⟩
    | forget => exact Or.inr ⟨fun hgood => hun (hgood rfl).1, rfl, Or.inl htrue⟩

/-- The whole loop: the state is tracked to its end, or a change is forgotten. -/
theorem Tracks.run {unchanged : Prop} {ts : List (String × InterfaceInfoType)}
    {st st' : GoMap String CIDREntry × Bool} (h : Tracks entries unchanged st)
    (hrun : ts.foldlM (flagged (turnEffect fuel config excludes)) st = some st') :
    (NoneForgotten fuel config excludes entries unchanged (seatsOf st.1) ts ∧
        ∃ still, (still → unchanged) ∧ Tracks entries still st') ∨
      (¬ NoneForgotten fuel config excludes entries unchanged (seatsOf st.1) ts ∧
        Forgotten (turnEffect fuel config excludes) SameLookups st.1 st.2 ts) := by
  induction ts generalizing unchanged st with
  | nil =>
    cases hrun
    exact Or.inl ⟨trivial, unchanged, id, h⟩
  | cons turn ts ih =>
    obtain ⟨st₁, h₁, h₂⟩ := foldlM_cons_eq_some.mp hrun
    obtain ⟨effect, hstep, hflag⟩ := flagged_eq_some.mp h₁
    have hplace : placeTurn fuel config excludes st turn = some st₁ :=
      (placeTurn_eq_flagged st).trans h₁
    have hseats : seatsOf st₁.1 = View.names.turn fuel config excludes (seatsOf st.1) turn :=
      placeTurn_view (View.shows_names config) hplace
    rcases h.turn_step hstep hflag with ⟨hgood, htracks⟩ | ⟨hbad, hforget, hlost⟩
    · rcases ih htracks h₂ with ⟨hnone, still, hstill, hend⟩ | ⟨hnot, hforgotten⟩
      · rw [hseats] at hnone
        exact Or.inl ⟨⟨hgood, hnone⟩, still, fun hs => (hstill hs).1, hend⟩
      · rw [hseats] at hnot
        exact Or.inr ⟨fun hall => hnot hall.2, st₁.1, effect, hstep, Or.inr (hflag ▸ hforgotten)⟩
    · exact Or.inr ⟨fun hall => hbad hall.1, st₁.1, effect, hstep, Or.inl ⟨hforget, hlost⟩⟩

end Run

/-- **No change is lost where none is forgotten.** A pass that starts with the flag false and ends
with it false returns the entries it was given, if no search for an index fails after something was
to be reported. If one does, a turn of the pass takes the flag back although it was set, or although
the turn changes the entries. -/
theorem no_change_lost {fuel : Nat} {spec : CIDRSpec} {excludes : List IPValue}
    {snapshot : GoMap String HostInterface} {nodes : Nat → NodeLookup}
    {m : GoMap String CIDREntry} {changed : Bool}
    (hnets : (spec.cidrs.map (·.netAddress)).Nodup)
    (h : updateEntries fuel spec excludes false snapshot nodes = some (m, changed)) :
    (NoChangeForgotten fuel spec excludes snapshot nodes →
      changed = false → SameEntries spec.cidrs m) ∧
    (¬ NoChangeForgotten fuel spec excludes snapshot nodes →
      Forgotten (turnEffect fuel spec.config (excludes.map (·.address))) SameLookups
        (filterEntries snapshot nodes false spec.cidrs).entriesMap
        (filterEntries snapshot nodes false spec.cidrs).changed (turns snapshot.values)) := by
  obtain ⟨m₁, hloop, rfl⟩ := updateEntries_eq_some.mp h
  have hflagged : placeTurn fuel spec.config (excludes.map (·.address)) =
      flagged (turnEffect fuel spec.config (excludes.map (·.address))) :=
    funext₂ fun st _ => placeTurn_eq_flagged st
  rw [hflagged] at hloop
  have hstart : Tracks spec.cidrs (AllStay snapshot nodes spec.cidrs)
      ((filterEntries snapshot nodes false spec.cidrs).entriesMap,
        (filterEntries snapshot nodes false spec.cidrs).changed) := by
    rw [allStay_iff hnets]
    rcases filterEntries_kept_or_gone hnets with ⟨hfalse, -, hsame, -⟩ | ⟨htrue, -⟩
    · exact ⟨fun _ => ⟨hsame, hfalse⟩, fun hnot => absurd hfalse hnot⟩
    · exact ⟨fun hfalse => absurd (htrue.symm.trans hfalse) Bool.noConfusion,
        fun _ => htrue⟩
  rcases hstart.run hloop with ⟨hnone, still, hstill, hend⟩ | ⟨hnot, hforgotten⟩
  · refine ⟨fun _ hfalse => ?_, fun hnot => absurd hnone hnot⟩
    have hs : still := by
      by_contra hs
      exact Bool.noConfusion (hfalse.symm.trans (hend.reported hs))
    rcases filterEntries_kept_or_gone hnets with ⟨-, hdied, -⟩ | ⟨htrue, -⟩
    · rw [hdied, if_neg (by simp)]
      exact (hend.same hs).1
    · rw [(allStay_iff hnets).mp (hstill hs)] at htrue
      cases htrue
  · exact ⟨fun hnone => absurd hnone hnot, fun _ => hforgotten⟩

/-- A network with room for two hosts, with host `a` and others on it. -/
def halvedNetwork (others : List HostInterfaceInfo) : CIDRSpec where
  config :=
    { name := "net", subnet := "", masterNetAddrs := [], hostBlock := 1, interfaceBlock := 0,
      excludeCIDRs := [], vlanMode := "" }
  cidrs := [⟨"10.0.1.0/24", 0, "10.0.1.0/24",
    ⟨0, "a", "eth1", "10.0.1.1", "10.0.1.0/25", "net-10.0.1.0-25"⟩ :: others⟩]

/-- The network with both hosts. -/
def fullNetwork : CIDRSpec :=
  halvedNetwork [⟨1, "b", "eth1", "10.0.1.2", "10.0.1.128/25", "net-10.0.1.128-25"⟩]

/-- Where the two hosts sit. -/
def fullSeats : Network (String × Int) := ⟨0, "10.0.1.0/24", [("a", 0), ("b", 1)]⟩

/-- Hosts with their addresses on the network, in the order in which they are gone through. -/
def shownHosts (hosts : List (String × String)) : GoMap String HostInterface :=
  hosts.foldr (fun (name, ip) m => m.insert name ⟨name, [⟨"eth1", "10.0.1.0/24", ip⟩]⟩) ∅

def shownThree : GoMap String HostInterface :=
  shownHosts [("a", "10.0.1.1"), ("b", "10.0.1.2"), ("c", "10.0.1.3")]

/-- The turn of a host with the given address. -/
def turnOf (name ip : String) : String × InterfaceInfoType := (name, ⟨"eth1", "10.0.1.0/24", ip⟩)

/-- On the full network a host that keeps its index, or is refused, leaves the seats. -/
theorem turn_fullSeats (name ip : String) {s : Seating}
    (hs : seating 3 fullNetwork.config [] "10.0.1.0/24" fullSeats.hosts name = s)
    (hsame : s.apply View.names name fullSeats.hosts = fullSeats.hosts) :
    View.names.seatingAt 3 fullNetwork.config [] (AList.singleton "10.0.1.0/24" fullSeats)
        (turnOf name ip) = some (fullSeats, s) ∧
      View.names.turn 3 fullNetwork.config [] (AList.singleton "10.0.1.0/24" fullSeats)
        (turnOf name ip) = AList.singleton "10.0.1.0/24" fullSeats := by
  subst hs
  refine ⟨rfl, AList.ext ?_⟩
  show [(⟨"10.0.1.0/24", ⟨0, "10.0.1.0/24", (seating 3 fullNetwork.config [] "10.0.1.0/24"
    fullSeats.hosts name).apply View.names name fullSeats.hosts⟩⟩ :
      (_ : String) × Network (String × Int))] = _
  rw [hsame]
  rfl

/-- Hosts `a` and `b` have up-to-date records and no index is left for `c`: the pass returns the
entries as they were. -/
theorem no_change_lost_full : ∃ m,
    updateEntries 3 fullNetwork [] false shownThree (fun _ => .found false) = some (m, false) ∧
    SameEntries fullNetwork.cidrs m := by
  have hrun : (updateEntries 3 fullNetwork [] false shownThree
      (fun _ => .found false)).map (·.2) = some false := by decide +kernel
  obtain ⟨⟨m, changed⟩, hm, hflag⟩ := Option.map_eq_some_iff.mp hrun
  obtain rfl : changed = false := hflag
  refine ⟨m, hm, (no_change_lost (by decide) hm).1 ?_ rfl⟩
  have hstay : AllStay shownThree (fun _ => .found false) fullNetwork.cidrs :=
    (allStay_iff (by decide)).mpr (by decide +kernel)
  have hseats : seatsOf (filterEntries shownThree (fun _ => .found false) false
      fullNetwork.cidrs).entriesMap = AList.singleton "10.0.1.0/24" fullSeats :=
    AList.ext (by decide +kernel)
  have hturns : turns shownThree.values =
      [turnOf "a" "10.0.1.1", turnOf "b" "10.0.1.2", turnOf "c" "10.0.1.3"] := by decide
  obtain ⟨ha, hta⟩ := turn_fullSeats "a" "10.0.1.1" (s := .keeps 0 "10.0.1.0/25")
    (by decide +kernel) rfl
  obtain ⟨hb, htb⟩ := turn_fullSeats "b" "10.0.1.2" (s := .keeps 1 "10.0.1.128/25")
    (by decide +kernel) rfl
  obtain ⟨hc, -⟩ := turn_fullSeats "c" "10.0.1.3" (s := .refused) (by decide +kernel) rfl
  rw [NoChangeForgotten, hturns, hseats, List.map_nil]
  simp only [NoneForgotten, ha, hta, hb, htb, hc]
  have hlisted : ∃ entry ∈ fullNetwork.cidrs, entry.netAddress = "10.0.1.0/24" :=
    ⟨_, List.mem_singleton_self _, rfl⟩
  have hfresh : NothingNew fullNetwork.cidrs (turnOf "a" "10.0.1.1")
        (some (fullSeats, .keeps 0 "10.0.1.0/25")) ∧
      NothingNew fullNetwork.cidrs (turnOf "b" "10.0.1.2")
        (some (fullSeats, .keeps 1 "10.0.1.128/25")) :=
    ⟨⟨_, List.mem_singleton_self _, rfl, _, rfl, by decide⟩,
      ⟨_, List.mem_singleton_self _, rfl, _, rfl, by decide⟩⟩
  exact ⟨fun _ => ⟨hstay, hfresh.1⟩, fun _ => ⟨⟨hstay, hfresh.1⟩, hfresh.2⟩,
    fun _ => ⟨⟨⟨hstay, hfresh.1⟩, hfresh.2⟩, hlisted⟩, trivial⟩

/-- Hosts `b` and `c` come up: `b` gets the second half of the network, then there is none for `c`,
and the pass reports no change although host `b` is new. -/
theorem added_host_forgotten : ∃ m entry,
    updateEntries 3 (halvedNetwork []) [] false shownThree (fun _ => .found false) =
      some (m, false) ∧
    m.lookup "10.0.1.0/24" = some entry ∧ entry.hosts.map (·.hostName) = ["a", "b"] ∧
    ¬ SameEntries (halvedNetwork []).cidrs m := by
  have hrun : (updateEntries 3 (halvedNetwork []) [] false shownThree
      (fun _ => .found false)).map (fun r =>
        (r.2, (r.1.lookup "10.0.1.0/24").map fun entry => entry.hosts.map (·.hostName))) =
      some (false, some ["a", "b"]) := by decide +kernel
  obtain ⟨⟨m, changed⟩, hm, hresult⟩ := Option.map_eq_some_iff.mp hrun
  obtain ⟨rfl, hlookup⟩ := Prod.mk.inj hresult
  obtain ⟨entry, hl, hnames⟩ := Option.map_eq_some_iff.mp hlookup
  refine ⟨m, entry, hm, hl, hnames, fun hsame => ?_⟩
  obtain ⟨hentry, -⟩ := (hsame _ _).mp hl
  rw [List.mem_singleton.mp hentry] at hnames
  exact absurd hnames (by decide)

end MultiNicCni.Controller
