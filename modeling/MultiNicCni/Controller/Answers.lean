import MultiNicCni.Controller.ChangedFlag
import MultiNicCni.Controller.Stability

/-!
# Node lookups that answer the same throughout

The first loop of `UpdateEntries` may look up the node of a host more than once. When every lookup
of a host is answered alike, the loop keeps a host by a rule that does not depend on the order of
the entries.

- `AnswersBy`: the answers come from a function of the host;
- `stays`: the rule;
- `filterEntries_by`: **the entries have the hosts that stay**, and where all stay nothing changes.
-/

namespace MultiNicCni.Controller

open Go Compute Lib

variable {asked : List String} {net : String} {host : HostInterfaceInfo}

/-- The lookups are answered as `answer` says of their hosts. -/
def AnswersBy (nodes : Nat → NodeLookup) (answer : String → NodeLookup) (asked : List String) :
    Prop :=
  ∀ k name, asked[k]? = some name → nodes k = answer name

/-- A listed host stays if the snapshot shows it on the network, or does not show it at all and its
node is not gone. -/
def stays (snapshot : GoMap String HostInterface) (answer : String → NodeLookup) (net : String)
    (host : HostInterfaceInfo) : Bool :=
  match snapshot.lookup host.hostName with
  | some hif => hif.interfaces.any (·.netAddress == net)
  | none => !(answer host.hostName).died

section Answers

variable {snapshot : GoMap String HostInterface} {nodes : Nat → NodeLookup}
  {answer : String → NodeLookup}

theorem AnswersBy.of_append {more : List String} (h : AnswersBy nodes answer (asked ++ more)) :
    AnswersBy nodes answer asked := by
  intro k name hk
  refine h k name ?_
  rw [List.getElem?_append_left (List.getElem?_eq_some_iff.mp hk).1]
  exact hk

/-- The lookups made stay in the list. -/
theorem lookUps_append (snapshot : GoMap String HostInterface) (nodes : Nat → NodeLookup)
    (names : List String) (st : List String × List String) :
    ∃ more, (names.foldl (lookUp snapshot nodes) st).2 = st.2 ++ more := by
  refine foldl_invariant (P := fun st' : List String × List String =>
    ∃ more, st'.2 = st.2 ++ more) ?_ ⟨[], (List.append_nil _).symm⟩
  rintro st' name - ⟨more, hmore⟩
  unfold lookUp
  split
  · exact ⟨more, hmore⟩
  · refine ⟨more ++ [name], ?_⟩
    rw [← List.append_assoc, ← hmore]

theorem stays_shown {hif : HostInterface} (hl : snapshot.lookup host.hostName = some hif) :
    stays snapshot answer net host = hif.interfaces.any (·.netAddress == net) := by
  rw [stays, hl]

theorem stays_unshown (hl : snapshot.lookup host.hostName = none) :
    stays snapshot answer net host = !(answer host.hostName).died := by
  rw [stays, hl]

theorem stays_of_onNet (h : OnNet snapshot host.hostName net) :
    stays snapshot answer net host = true := by
  obtain ⟨hif, hl, iface, hiface, hnet⟩ := h
  rw [stays_shown hl]
  exact List.any_eq_true.mpr ⟨iface, hiface, beq_iff_eq.mpr hnet⟩

/-- A host that stays is not found dead. -/
theorem notMem_of_stays {died : List String}
    (hdied : ∀ n ∈ died, snapshot.lookup n = none ∧ (answer n).died = true)
    (h : stays snapshot answer net host = true) : host.hostName ∉ died := by
  intro hmem
  obtain ⟨hnone, hdead⟩ := hdied _ hmem
  rw [stays_unshown hnone, hdead] at h
  cases h

/-- One host. -/
theorem scanHost_by (net : String) {st : ScanState} (hasked : asked.length = st.lookups)
    (host : HostInterfaceInfo)
    (hby : AnswersBy nodes answer (lookUp snapshot nodes (st.diedHost, asked) host.hostName).2)
    (hdied : ∀ n ∈ st.diedHost, snapshot.lookup n = none ∧ (answer n).died = true) :
    (scanHost snapshot nodes net st host).newHostList =
        st.newHostList ++ [host].filter (stays snapshot answer net) ∧
      (∀ n ∈ (scanHost snapshot nodes net st host).diedHost,
        snapshot.lookup n = none ∧ (answer n).died = true) ∧
      (stays snapshot answer net host = true →
        (scanHost snapshot nodes net st host).diedHost = st.diedHost ∧
          (scanHost snapshot nodes net st host).changed = st.changed) := by
  unfold scanHost
  cases hl : snapshot.lookup host.hostName with
  | some hif =>
    dsimp only
    cases hany : hif.interfaces.any (·.netAddress == net) with
    | true =>
      have hstays : stays snapshot answer net host = true := by rw [stays_shown hl, hany]
      rw [if_pos rfl, List.filter_cons_of_pos hstays]
      exact ⟨rfl, hdied, fun _ => ⟨rfl, rfl⟩⟩
    | false =>
      have hgoes : stays snapshot answer net host = false := by rw [stays_shown hl, hany]
      rw [if_neg Bool.false_ne_true, List.filter_cons_of_neg (by rw [hgoes]; exact Bool.false_ne_true)]
      exact ⟨(List.append_nil _).symm, hdied, fun _ => ⟨rfl, rfl⟩⟩
  | none =>
    dsimp only
    by_cases hmem : host.hostName ∈ st.diedHost
    · have hgoes : stays snapshot answer net host = false := by
        rw [stays_unshown hl, (hdied _ hmem).2]
        rfl
      rw [if_pos hmem, List.filter_cons_of_neg (by rw [hgoes]; exact Bool.false_ne_true), hgoes]
      exact ⟨(List.append_nil _).symm, hdied, nofun⟩
    · -- the host is looked up, and the answer is the one of the host
      have hnew : (lookUp snapshot nodes (st.diedHost, asked) host.hostName).2 =
          asked ++ [host.hostName] := by
        rw [lookUp, if_neg (by rw [hl]; simpa using hmem)]
      rw [hnew] at hby
      have hanswer : nodes st.lookups = answer host.hostName := by
        refine hby _ _ ?_
        rw [← hasked, List.getElem?_concat_length]
      rw [if_neg hmem, hanswer]
      cases hdead : (answer host.hostName).died with
      | true =>
        have hgoes : stays snapshot answer net host = false := by
          rw [stays_unshown hl, hdead]
          rfl
        rw [if_pos rfl, List.filter_cons_of_neg (by rw [hgoes]; exact Bool.false_ne_true), hgoes]
        refine ⟨(List.append_nil _).symm, ?_, nofun⟩
        exact List.forall_mem_cons.mpr ⟨⟨hl, hdead⟩, hdied⟩
      | false =>
        have hstays : stays snapshot answer net host = true := by
          rw [stays_unshown hl, hdead]
          rfl
        rw [if_neg Bool.false_ne_true, List.filter_cons_of_pos hstays]
        exact ⟨rfl, hdied, fun _ => ⟨rfl, rfl⟩⟩

/-- The hosts of one entry. -/
theorem scanHosts_by (net : String) (hosts : List HostInterfaceInfo) (st : ScanState)
    (asked : List String) (hasked : asked.length = st.lookups)
    (hby : AnswersBy nodes answer
      ((hosts.map (·.hostName)).foldl (lookUp snapshot nodes) (st.diedHost, asked)).2)
    (hdied : ∀ n ∈ st.diedHost, snapshot.lookup n = none ∧ (answer n).died = true) :
    (hosts.foldl (scanHost snapshot nodes net) st).newHostList =
        st.newHostList ++ hosts.filter (stays snapshot answer net) ∧
      (∀ n ∈ (hosts.foldl (scanHost snapshot nodes net) st).diedHost,
        snapshot.lookup n = none ∧ (answer n).died = true) ∧
      ((∀ host ∈ hosts, stays snapshot answer net host = true) →
        (hosts.foldl (scanHost snapshot nodes net) st).diedHost = st.diedHost ∧
          (hosts.foldl (scanHost snapshot nodes net) st).changed = st.changed) := by
  induction hosts generalizing st asked with
  | nil => exact ⟨(List.append_nil _).symm, hdied, fun _ => ⟨rfl, rfl⟩⟩
  | cons host hosts ih =>
    obtain ⟨hsame, hlen⟩ := scanHost_lookUp snapshot nodes net hasked host
    have hfirst : AnswersBy nodes answer
        (lookUp snapshot nodes (st.diedHost, asked) host.hostName).2 := by
      obtain ⟨more, hmore⟩ := lookUps_append snapshot nodes (hosts.map (·.hostName))
        (lookUp snapshot nodes (st.diedHost, asked) host.hostName)
      rw [List.map_cons, List.foldl_cons, hmore] at hby
      exact hby.of_append
    obtain ⟨hlist, hdied', hstay⟩ := scanHost_by net hasked host hfirst hdied
    rw [List.map_cons, List.foldl_cons, ← Prod.mk.eta (p := lookUp _ _ _ _), ← hsame] at hby
    obtain ⟨ihlist, ihdied, ihstay⟩ := ih _ _ hlen hby hdied'
    rw [List.foldl_cons]
    refine ⟨?_, ihdied, fun hall => ?_⟩
    · rw [ihlist, hlist, List.append_assoc, ← List.filter_append, List.singleton_append]
    · obtain ⟨hd, hc⟩ := hstay (hall host List.mem_cons_self)
      obtain ⟨hd', hc'⟩ := ihstay fun h hh => hall h (List.mem_cons_of_mem host hh)
      exact ⟨hd'.trans hd, hc'.trans hc⟩

/-- The state of the first loop: the entries have hosts that stay, and the hosts found dead are
gone. -/
structure KeptBy (snapshot : GoMap String HostInterface) (answer : String → NodeLookup)
    (st : FilterState) : Prop where
  hosts : st.entriesMap.All fun net entry =>
    ∀ host ∈ entry.hosts, stays snapshot answer net host = true
  dead : ∀ n ∈ st.diedHost, snapshot.lookup n = none ∧ (answer n).died = true

/-- No host is found dead and no change is reported. -/
def FilterState.Quiet (st : FilterState) : Prop := st.diedHost = [] ∧ st.changed = false

/-- One entry. -/
theorem KeptBy.filterEntry {st : FilterState} (h : KeptBy snapshot answer st)
    (hasked : asked.length = st.lookups) (entry : CIDREntry) (hby : AnswersBy nodes answer
      ((entry.hosts.map (·.hostName)).foldl (lookUp snapshot nodes) (st.diedHost, asked)).2) :
    KeptBy snapshot answer (filterEntry snapshot nodes st entry) ∧
      ((∀ host ∈ entry.hosts, stays snapshot answer entry.netAddress host = true) → st.Quiet →
        (Controller.filterEntry snapshot nodes st entry).Quiet) := by
  obtain ⟨hlist, hdied, hstay⟩ := scanHosts_by entry.netAddress entry.hosts
    ⟨[], st.diedHost, st.changed, st.lookups⟩ asked hasked hby h.dead
  have hscan : (scanEntry snapshot nodes st entry).newHostList =
      entry.hosts.filter (stays snapshot answer entry.netAddress) := hlist
  refine ⟨⟨?_, hdied⟩, ?_⟩
  · simp only [Controller.filterEntry, hscan]
    split
    · exact h.hosts.insert fun host hhost => (List.mem_filter.mp hhost).2
    · exact h.hosts
  · rintro hall ⟨hnil, hfalse⟩
    obtain ⟨hd, hc⟩ := hstay hall
    have hd : (scanEntry snapshot nodes st entry).diedHost = [] := hd.trans hnil
    have hc : (scanEntry snapshot nodes st entry).changed = false := hc.trans hfalse
    refine ⟨hd, ?_⟩
    simp only [Controller.filterEntry, hscan, hd, hc, List.filter_eq_self.mpr hall]
    simp

/-- All entries, from any state of the loop. -/
theorem KeptBy.filterEntries {st : FilterState} (h : KeptBy snapshot answer st)
    (hasked : asked.length = st.lookups) (entries : List CIDREntry) (hby : AnswersBy nodes answer
      ((hostNames entries).foldl (lookUp snapshot nodes) (st.diedHost, asked)).2) :
    KeptBy snapshot answer (entries.foldl (Controller.filterEntry snapshot nodes) st) ∧
      ((∀ entry ∈ entries, ∀ host ∈ entry.hosts,
          stays snapshot answer entry.netAddress host = true) → st.Quiet →
        (entries.foldl (Controller.filterEntry snapshot nodes) st).Quiet) := by
  induction entries generalizing st asked with
  | nil => exact ⟨h, fun _ hquiet => hquiet⟩
  | cons entry entries ih =>
    rw [hostNames, List.flatMap_cons, List.foldl_append] at hby
    obtain ⟨hsame, hlen⟩ := scanHosts_lookUp snapshot nodes entry.netAddress entry.hosts
      ⟨[], st.diedHost, st.changed, st.lookups⟩ asked hasked
    have hfirst : AnswersBy nodes answer ((entry.hosts.map (·.hostName)).foldl
        (lookUp snapshot nodes) (st.diedHost, asked)).2 := by
      obtain ⟨more, hmore⟩ := lookUps_append snapshot nodes
        (entries.flatMap fun entry => entry.hosts.map (·.hostName))
        ((entry.hosts.map (·.hostName)).foldl (lookUp snapshot nodes) (st.diedHost, asked))
      rw [hmore] at hby
      exact hby.of_append
    obtain ⟨hone, hquiet⟩ := h.filterEntry hasked entry hfirst
    rw [← Prod.mk.eta (p := List.foldl _ _ (entry.hosts.map _)), ← hsame] at hby
    obtain ⟨ihkept, ihquiet⟩ := ih hone hlen hby
    refine ⟨ihkept, fun hall hst => ?_⟩
    exact ihquiet (fun e he => hall e (List.mem_cons_of_mem entry he))
      (hquiet (hall entry List.mem_cons_self) hst)

/-- **The first loop keeps the hosts that stay**, the hosts it finds dead are gone throughout, and
where all hosts stay it finds none dead and reports no change. -/
theorem filterEntries_by {entries : List CIDREntry} {changed : Bool}
    (hby : AnswersBy nodes answer (nodeLookups snapshot nodes entries)) :
    KeptBy snapshot answer (filterEntries snapshot nodes changed entries) ∧
      ((∀ entry ∈ entries, ∀ host ∈ entry.hosts,
          stays snapshot answer entry.netAddress host = true) → changed = false →
        (filterEntries snapshot nodes changed entries).Quiet) := by
  have hstart : KeptBy snapshot answer ⟨∅, [], changed, 0⟩ :=
    ⟨GoMap.All.empty _, fun n hn => absurd hn List.not_mem_nil⟩
  have hnone : ([] : List String).length = (⟨∅, [], changed, 0⟩ : FilterState).lookups := rfl
  obtain ⟨hkept, hquiet⟩ := hstart.filterEntries hnone entries hby
  exact ⟨hkept, fun hall hfalse => hquiet hall ⟨rfl, hfalse⟩⟩

/-- Where every host stays, the entries are what they were. -/
theorem filterEntries_same {entries : List CIDREntry}
    (hby : AnswersBy nodes answer (nodeLookups snapshot nodes entries))
    (hnets : (entries.map (·.netAddress)).Nodup)
    (hall : ∀ entry ∈ entries, ∀ host ∈ entry.hosts,
      stays snapshot answer entry.netAddress host = true) :
    (filterEntries snapshot nodes false entries).changed = false ∧
      (filterEntries snapshot nodes false entries).diedHost = [] ∧
      SameEntries entries (filterEntries snapshot nodes false entries).entriesMap := by
  obtain ⟨-, hfalse⟩ := (filterEntries_by hby).2 hall rfl
  rcases filterEntries_kept_or_gone hnets with ⟨hfalse, hdied, hsame, -⟩ | ⟨htrue, -⟩
  · exact ⟨hfalse, hdied, hsame⟩
  · exact absurd (hfalse.symm.trans htrue) Bool.false_ne_true

end Answers

end MultiNicCni.Controller
