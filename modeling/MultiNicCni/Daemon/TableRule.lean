import MultiNicCni.Daemon.TableLine

/-!
# The rule of a routing table (`GetTableID` in `daemon/src/router/rt_table.go`)

`GetTableID` is to leave a rule from the subnet of the network to its table. It asks only whether
the table has any rule, and adds one if it has none. So a rule of the table that is left from
before decides:

- for a name in the file, the rule of another subnet is taken for the rule of the network;
- for a new name, a rule of its new ID keeps the error that `addTable` always returns, though
  nothing failed. Without such a rule that error is overwritten by the error of `addRule`.

Besides, `addTable` finds no ID at all if those of the file are 100, 101, … without a gap.

`addMissingRule_cases` gives the ends of `GetTableID`, and `getTableID_ok` what a call without an
error did. `getTableID_rule_iff` says for which files and rules `GetTableID` does what it should.
`getTableID_unchanged_iff` is for the caller that gets the table of a network again and again, and
`settled_getTableID_iff` says for which files and rules it then gets the same one.
-/

namespace MultiNicCni.Router

open Go

variable {sys' sys : System} {calls : Calls} {tableID : Int} {subnet tableName : String}

/-- The rule from a subnet to a table. -/
def ruleOf (subnet : String) (tableID : Int) : Rule := ⟨(parseCIDR subnet).map (·.2), tableID⟩

/-- Reading and writing the file and the operations on rules succeed. -/
structure Calls.TablesWork (calls : Calls) : Prop where
  openFile : calls.openFile = none
  appendFile : calls.appendFile = none
  ruleList : calls.ruleList = none
  ruleAdd : calls.ruleAdd = none
  ruleDel : calls.ruleDel = none

theorem Calls.tablesWork_allSucceed (rtTablePath : String) :
    (Calls.allSucceed rtTablePath).TablesWork :=
  ⟨rfl, rfl, rfl, rfl, rfl⟩

theorem isRuleExist_eq_true :
    isRuleExist calls sys tableID = true ↔
      calls.ruleList = none ∧ ∃ rule ∈ sys.rules, rule.table = tableID := by
  unfold isRuleExist
  cases h : calls.ruleList with
  | some reason => simp
  | none => simp

/-- The ends of `GetTableID`: the rule is added, it is refused, or none is missing. -/
theorem addMissingRule_cases (calls : Calls) (sys : System) (subnet : String) (tableID : Int)
    (err : Option TableError) (hid : tableID ≠ -1) :
    (isRuleExist calls sys tableID = false ∧ calls.ruleAdd = none ∧
        addMissingRule calls sys subnet tableID err =
          ({ sys with rules := sys.rules ++ [ruleOf subnet tableID] }, tableID, none)) ∨
      (isRuleExist calls sys tableID = false ∧ ∃ reason, calls.ruleAdd = some reason ∧
        addMissingRule calls sys subnet tableID err = (sys, tableID, some (.netlink reason))) ∨
      (isRuleExist calls sys tableID = true ∧
        addMissingRule calls sys subnet tableID err = (sys, tableID, err)) := by
  cases hexists : isRuleExist calls sys tableID with
  | true =>
    refine Or.inr (Or.inr ⟨rfl, ?_⟩)
    simp [addMissingRule, hexists]
  | false =>
    cases hadd : calls.ruleAdd with
    | none =>
      refine Or.inl ⟨rfl, rfl, ?_⟩
      simp [addMissingRule, addRule, hexists, hid, hadd, ruleOf]
    | some reason =>
      refine Or.inr (Or.inl ⟨rfl, reason, rfl, ?_⟩)
      simp [addMissingRule, addRule, hexists, hid, hadd]

theorem addMissingRule_ok {id : Int} {err : Option TableError} (hid : tableID ≠ -1)
    (h : addMissingRule calls sys subnet tableID err = (sys', id, none)) :
    tableID = id ∧ (sys' = { sys with rules := sys.rules ++ [ruleOf subnet id] } ∨
      (isRuleExist calls sys id = true ∧ sys' = sys ∧ err = none)) := by
  rcases addMissingRule_cases calls sys subnet tableID err hid with
    ⟨-, -, hadded⟩ | ⟨-, reason, -, hrefused⟩ | ⟨hexists, hkept⟩
  · obtain ⟨hsys, hrest⟩ := Prod.mk.inj (hadded.symm.trans h)
    obtain ⟨rfl, -⟩ := Prod.mk.inj hrest
    exact ⟨rfl, Or.inl hsys.symm⟩
  · exact absurd (congrArg (fun r => r.2.2) (hrefused.symm.trans h)) (by simp)
  · obtain ⟨hsys, hrest⟩ := Prod.mk.inj (hkept.symm.trans h)
    obtain ⟨rfl, herr⟩ := Prod.mk.inj hrest
    exact ⟨rfl, Or.inr ⟨hexists, hsys.symm, herr⟩⟩

/-- What a `GetTableID` without an error does. -/
inductive GotRule (calls : Calls) (sys : System) (tableName subnet : String) (sys' : System)
    (tableID : Int) : Prop
  /-- the name has the ID, the ID a rule, and nothing changes -/
  | kept : foundIn (tables sys.rtTables) tableName = tableID →
      isRuleExist calls sys tableID = true → sys' = sys → GotRule calls sys tableName subnet sys' tableID
  /-- the name has the ID, and the rule of the subnet is added -/
  | added : foundIn (tables sys.rtTables) tableName = tableID →
      sys' = { sys with rules := sys.rules ++ [ruleOf subnet tableID] } →
      GotRule calls sys tableName subnet sys' tableID
  /-- the name is new: the rule is added, and the line if the file can be written -/
  | new : foundIn (tables sys.rtTables) tableName = -1 → newID sys.rtTables tableName = tableID →
      sys'.rtTables = (addNewTable calls sys tableName).1.rtTables →
      sys'.rules = sys.rules ++ [ruleOf subnet tableID] →
      GotRule calls sys tableName subnet sys' tableID

/-- **A `GetTableID` without an error** has read the file and has an ID. -/
theorem getTableID_ok (hget : getTableID calls sys tableName subnet true = (sys', tableID, none)) :
    (calls.openFile = none ∧ Readable sys.rtTables) ∧ tableID ≠ -1 ∧
      GotRule calls sys tableName subnet sys' tableID := by
  have hreadable : calls.openFile = none ∧ Readable sys.rtTables := by
    by_contra h
    refine (getTableID_unreadable calls sys tableName subnet true (not_and_or.mp h)).2 ?_
    rw [hget]
  refine ⟨hreadable, ?_⟩
  obtain ⟨hopen, hfits⟩ := hreadable
  by_cases hfound : foundIn (tables sys.rtTables) tableName = -1
  · rw [getTableID_added calls sys tableName subnet hopen hfits hfound] at hget
    have herr := addNewTable_err calls sys tableName
    by_cases hnew : newID sys.rtTables tableName = -1
    · -- without an ID the error of `addTable` stays
      rw [addMissingRule, if_neg (fun h => h.1 hnew)] at hget
      exact absurd (congrArg (fun r => r.2.2) hget) herr
    obtain ⟨hid, rfl | ⟨-, -, hnone⟩⟩ := addMissingRule_ok hnew hget
    · exact ⟨hid ▸ hnew, .new hfound hid rfl (by rw [addNewTable_rules])⟩
    · exact absurd hnone herr
  · rw [getTableID_found calls sys tableName subnet true hopen hfits hfound] at hget
    obtain ⟨hid, hadded | ⟨hexists, hkept, -⟩⟩ := addMissingRule_ok hfound hget
    · exact ⟨hid ▸ hfound, .added hid hadded⟩
    · exact ⟨hid ▸ hfound, .kept hid hexists hkept⟩

theorem GotRule.rules (h : GotRule calls sys tableName subnet sys' tableID) :
    (foundIn (tables sys.rtTables) tableName = tableID ∧ isRuleExist calls sys tableID = true ∧
        sys' = sys) ∨ sys'.rules = sys.rules ++ [ruleOf subnet tableID] := by
  cases h with
  | kept hfound hexists hsame => exact Or.inl ⟨hfound, hexists, hsame⟩
  | added _ hsys => exact Or.inr (by rw [hsys])
  | new _ _ _ hrules => exact Or.inr hrules

/-! ## A table that is settled -/

/-- The name has a table with a rule. -/
def Settled (calls : Calls) (sys : System) (tableName : String) : Prop :=
  ∃ tableID, tableID ≠ -1 ∧ lookup calls sys.rtTables tableName = (tableID, none) ∧
    isRuleExist calls sys tableID = true

/-- A lookup without an error has read the file. -/
theorem lookup_ok {text : String} (h : lookup calls text tableName = (tableID, none)) :
    calls.openFile = none ∧ Readable text ∧ foundIn (tables text) tableName = tableID := by
  have hopen : calls.openFile = none := by
    by_contra hno
    obtain ⟨reason, hreason⟩ := Option.ne_none_iff_exists'.mp hno
    simp [lookup, getTableIDAndReservedIDs, hreason] at h
  have hfits : Readable text := by
    by_contra hno
    have herr := congrArg Prod.snd h
    rw [lookup, getTableIDAndReservedIDs_err hopen hno tableName] at herr
    cases herr
  rw [lookup_of_fits hopen hfits] at h
  exact ⟨hopen, hfits, (Prod.mk.inj h).1⟩

/-- The table of such a name is returned as it is. -/
theorem getTableID_of_lookup (hid : tableID ≠ -1)
    (hlookup : lookup calls sys.rtTables tableName = (tableID, none))
    (hexists : isRuleExist calls sys tableID = true) (subnet : String) (addIfNotExists : Bool) :
    getTableID calls sys tableName subnet addIfNotExists = (sys, tableID, none) := by
  obtain ⟨hopen, hfits, rfl⟩ := lookup_ok hlookup
  rw [getTableID_found calls sys tableName subnet addIfNotExists hopen hfits hid]
  simp [addMissingRule, hexists]

/-- `GetTableID` succeeds without a change exactly if the name has a table with a rule. -/
theorem getTableID_unchanged_iff (calls : Calls) (sys : System) (tableName subnet : String) :
    (∃ tableID, getTableID calls sys tableName subnet true = (sys, tableID, none)) ↔
      Settled calls sys tableName := by
  constructor
  · rintro ⟨tableID, hget⟩
    obtain ⟨⟨hopen, hfits⟩, hid, hgot⟩ := getTableID_ok hget
    rcases hgot.rules with ⟨hfound, hexists, -⟩ | hrules
    · exact ⟨tableID, hid, by rw [lookup_of_fits hopen hfits, hfound], hexists⟩
    · -- a rule that is added is a change
      have hlen := congrArg List.length hrules
      simp at hlen
  · rintro ⟨tableID, hid, hlookup, hexists⟩
    exact ⟨tableID, getTableID_of_lookup hid hlookup hexists subnet true⟩

/-- Whether the name has a table with a rule depends on the file and the rules only. -/
theorem Settled.congr (hfile : sys'.rtTables = sys.rtTables) (hrules : sys'.rules = sys.rules)
    (h : Settled calls sys tableName) : Settled calls sys' tableName := by
  obtain ⟨tableID, hid, hlookup, hexists⟩ := h
  refine ⟨tableID, hid, by rw [hfile, hlookup], ?_⟩
  rw [isRuleExist_eq_true, hrules]
  exact isRuleExist_eq_true.mp hexists

/-- The table that a name has in a file or, if it is new, gets. -/
inductive TableFor (text tableName : String) : Int → Prop
  | found {id : Int} : foundIn (tables text) tableName = id → id ≠ -1 → TableFor text tableName id
  | new {id : Int} : foundIn (tables text) tableName = -1 → NextID text tableName id →
      TableFor text tableName id

theorem TableFor.unique {text : String} {id id' : Int} (h : TableFor text tableName id)
    (h' : TableFor text tableName id') : id = id' := by
  cases h with
  | found hfound hne =>
    cases h' with
    | found hfound' _ => exact hfound.symm.trans hfound'
    | new hnone _ => exact absurd (hfound.symm.trans hnone) hne
  | new hnone hnext =>
    cases h' with
    | found hfound' hne' => exact absurd (hfound'.symm.trans hnone) hne'
    | new _ hnext' => exact (nextID_iff.mp hnext).1.symm.trans (nextID_iff.mp hnext').1

/-- A name finds its table again, with a rule: rules can be listed, and the line of a new name, which
can be written, is one that a lookup finds, with the new ID or with one that has a rule. -/
structure KeepsTable (calls : Calls) (sys : System) (tableName : String) : Prop where
  ruleList : calls.ruleList = none
  new : foundIn (tables sys.rtTables) tableName = -1 → ∀ tableID,
    NextID sys.rtTables tableName tableID →
      calls.appendFile = none ∧ (tableName ≠ "" ∧ ∀ c ∈ tableName.toList, isSpace c = false) ∧
        Readable (sys.rtTables ++ getTableLine tableID tableName) ∧
        ((lastLine sys.rtTables.toList = [] ∧ tableID ≤ maxInt64) ∨
          ∃ id, id ≠ -1 ∧ (id = tableID ∨ ∃ rule ∈ sys.rules, rule.table = id) ∧
            JoinsAs (finishedTables sys.rtTables) (lastLine sys.rtTables.toList) tableID tableName id)

section Kept

theorem settled_iff (hopen : calls.openFile = none) :
    Settled calls sys tableName ↔ calls.ruleList = none ∧ Readable sys.rtTables ∧
      ∃ id, id ≠ -1 ∧ foundIn (tables sys.rtTables) tableName = id ∧
        ∃ rule ∈ sys.rules, rule.table = id := by
  constructor
  · rintro ⟨id, hid, hlookup, hexists⟩
    obtain ⟨hlist, hrule⟩ := isRuleExist_eq_true.mp hexists
    obtain ⟨-, hfits, hfound⟩ := lookup_ok hlookup
    exact ⟨hlist, hfits, id, hid, hfound, hrule⟩
  · rintro ⟨hlist, hfits, id, hid, hfound, hrule⟩
    exact ⟨id, hid, by rw [lookup_of_fits hopen hfits, hfound],
      isRuleExist_eq_true.mpr ⟨hlist, hrule⟩⟩

/-- A `GetTableID` without an error returns the table of the name. -/
theorem tableFor_of_getTableID (hget : getTableID calls sys tableName subnet true =
    (sys', tableID, none)) : TableFor sys.rtTables tableName tableID := by
  obtain ⟨-, hid, hgot⟩ := getTableID_ok hget
  cases hgot with
  | kept hfound _ _ => exact .found hfound hid
  | added hfound _ => exact .found hfound hid
  | new hfound hnew _ _ => exact .new hfound (nextID_iff.mpr ⟨hnew, hid⟩)

/-- A lookup of a new name once its line is written. -/
theorem foundIn_append_line_iff {text : String} (h0 : 0 ≤ tableID)
    (hfound : foundIn (tables text) tableName = -1) {id : Int} (hid : id ≠ -1) :
    foundIn (tables (text ++ getTableLine tableID tableName)) tableName = id ↔
      (tableName ≠ "" ∧ ∀ c ∈ tableName.toList, isSpace c = false) ∧
        JoinsAs (finishedTables text) (lastLine text.toList) tableID tableName id := by
  by_cases hname : tableName ≠ "" ∧ ∀ c ∈ tableName.toList, isSpace c = false
  · rw [and_iff_right hname, tables_append_line (not_newline_mem_tableEntry h0 hname.2),
      tableOf_joined h0 hname.1 hname.2]
    refine joinsAs_iff h0 hid ?_
    rw [← tableOf_line, ← tables_eq, hfound]
  · refine iff_of_false (fun h => ?_) fun h => hname h.1
    exact hname (noSpace_of_foundIn (by rw [h]; exact hid))

/-- The line of a new name is found in a file of finished lines. -/
theorem joinsAs_of_ended (ts : List (Int × String)) (h0 : 0 ≤ tableID) (hmax : tableID ≤ maxInt64)
    (tableName : String) : JoinsAs ts [] tableID tableName tableID :=
  .padded rfl List.not_mem_nil (parseInt_formatInt h0 hmax)

/-- **After a `GetTableID` without an error, the name has a table with a rule exactly if** the file
and the rules keep its table. -/
theorem settled_getTableID_iff (hget : getTableID calls sys tableName subnet true =
    (sys', tableID, none)) : Settled calls sys' tableName ↔ KeepsTable calls sys tableName := by
  obtain ⟨⟨hopen, hfits⟩, hid, hgot⟩ := getTableID_ok hget
  -- the table of a name in the file has a rule now
  have hknown : foundIn (tables sys.rtTables) tableName = tableID → sys'.rtTables = sys.rtTables →
      (∃ rule ∈ sys'.rules, rule.table = tableID) →
      (Settled calls sys' tableName ↔ KeepsTable calls sys tableName) := by
    intro hfound htext hrule
    rw [settled_iff hopen, htext]
    exact ⟨fun h => ⟨h.1, fun hnone => absurd (hfound.symm.trans hnone) hid⟩,
      fun h => ⟨h.ruleList, hfits, tableID, hid, hfound, hrule⟩⟩
  obtain ⟨hfound, hexists, rfl⟩ | ⟨hfound, rfl⟩ | ⟨hfound, rfl, htext, hrules⟩ := hgot
  · exact hknown hfound rfl (isRuleExist_eq_true.mp hexists).2
  · exact hknown hfound rfl ⟨_, List.mem_append_right _ (List.mem_singleton.mpr rfl), rfl⟩
  rw [settled_iff hopen]
  have h0 : 0 ≤ newID sys.rtTables tableName := le_trans (by decide) (le_searchID _ _ hid)
  have hnext : NextID sys.rtTables tableName (newID sys.rtTables tableName) :=
    nextID_iff.mpr ⟨rfl, hid⟩
  have hrule : ∀ id, (∃ rule ∈ sys'.rules, rule.table = id) ↔
      id = newID sys.rtTables tableName ∨ ∃ rule ∈ sys.rules, rule.table = id := by
    intro id
    rw [hrules]
    constructor
    · rintro ⟨rule, hmem, rfl⟩
      rcases List.mem_append.mp hmem with hmem | hmem
      · exact Or.inr ⟨rule, hmem, rfl⟩
      · exact Or.inl (by rw [List.mem_singleton.mp hmem]; rfl)
    · rintro (rfl | ⟨rule, hmem, htable⟩)
      · exact ⟨_, List.mem_append_right _ (List.mem_singleton.mpr rfl), rfl⟩
      · exact ⟨rule, List.mem_append_left _ hmem, htable⟩
  cases happend : calls.appendFile with
  | some reason =>
    -- the line is not written, and the name is not found
    refine iff_of_false ?_ fun h => ?_
    · rintro ⟨-, -, id, hne, hlookup, -⟩
      rw [htext, addNewTable_refused calls sys tableName (by simp [happend])] at hlookup
      exact hne (hlookup.symm.trans hfound)
    · exact absurd ((h.new hfound _ hnext).1.symm.trans happend) (by simp)
  | none =>
    rw [htext, addNewTable_rtTables calls sys tableName happend hid]
    constructor
    · rintro ⟨hlist, hreadable, id, hne, hlookup, hhas⟩
      refine ⟨hlist, fun _ tableID htable => ?_⟩
      obtain ⟨rfl, -⟩ := nextID_iff.mp htable
      obtain ⟨hname, hjoins⟩ := (foundIn_append_line_iff h0 hfound hne).mp hlookup
      exact ⟨happend, hname, hreadable, Or.inr ⟨id, hne, (hrule id).mp hhas, hjoins⟩⟩
    · intro h
      obtain ⟨-, hname, hreadable, hline⟩ := h.new hfound _ hnext
      refine ⟨h.ruleList, hreadable, ?_⟩
      rcases hline with ⟨hended, hmax⟩ | ⟨id, hne, hhas, hjoins⟩
      · refine ⟨_, hid, (foundIn_append_line_iff h0 hfound hid).mpr ⟨hname, ?_⟩,
          (hrule _).mpr (Or.inl rfl)⟩
        rw [hended]
        exact joinsAs_of_ended _ h0 hmax tableName
      · exact ⟨id, hne, (foundIn_append_line_iff h0 hfound hne).mpr ⟨hname, hjoins⟩,
          (hrule id).mpr hhas⟩

end Kept

/-! ## The rule of the subnet -/

/-- A table in the file whose rules, if there are any, hold that of the subnet; or a new name for
which there is an ID, without a rule. -/
structure NoStaleRule (sys : System) (tableName subnet : String) : Prop where
  found : foundIn (tables sys.rtTables) tableName ≠ -1 →
    (∃ rule ∈ sys.rules, rule.table = foundIn (tables sys.rtTables) tableName) →
    ruleOf subnet (foundIn (tables sys.rtTables) tableName) ∈ sys.rules
  new : foundIn (tables sys.rtTables) tableName = -1 →
    ∃ id, NextID sys.rtTables tableName id ∧ ∀ rule ∈ sys.rules, rule.table ≠ id

/-- What `GetTableID` is for: without an error there is the rule of the subnet, whatever the calls
answer; and there is no error if all calls succeed. An ID is always free, as the file gives finitely
many. -/
structure EnsuresRule (sys : System) (tableName subnet : String) : Prop where
  rule : ∀ calls sys' tableID,
    getTableID calls sys tableName subnet true = (sys', tableID, none) →
      ruleOf subnet tableID ∈ sys'.rules
  noError : ∀ calls, calls.TablesWork → Readable sys.rtTables →
    (getTableID calls sys tableName subnet true).2.2 = none

/-- If all calls succeed, the error of `GetTableID` is nil unless there is no new ID or it has a
rule. -/
theorem getTableID_err_eq_none_iff (hworks : calls.TablesWork) (hfits : Readable sys.rtTables) :
    (getTableID calls sys tableName subnet true).2.2 = none ↔
      (foundIn (tables sys.rtTables) tableName = -1 →
        ∃ id, NextID sys.rtTables tableName id ∧ ∀ rule ∈ sys.rules, rule.table ≠ id) := by
  by_cases hfound : foundIn (tables sys.rtTables) tableName = -1
  · have herr := addNewTable_err calls sys tableName
    rw [getTableID_added calls sys tableName subnet hworks.openFile hfits hfound]
    by_cases hnew : newID sys.rtTables tableName = -1
    · -- no ID: the error of `addTable` stays
      rw [addMissingRule, if_neg fun h => h.1 hnew]
      refine iff_of_false herr fun h => ?_
      obtain ⟨id, hid, -⟩ := h hfound
      obtain ⟨rfl, hne⟩ := nextID_iff.mp hid
      exact hne hnew
    rcases addMissingRule_cases calls (addNewTable calls sys tableName).1 subnet _
        (addNewTable calls sys tableName).2.2 hnew with
      ⟨hnone, -, hadded⟩ | ⟨-, reason, hrefused, -⟩ | ⟨hexists, hkept⟩
    · refine iff_of_true (congrArg (fun r => r.2.2) hadded) fun _ =>
        ⟨_, nextID_iff.mpr ⟨rfl, hnew⟩, fun rule hrule htable => ?_⟩
      rw [← addNewTable_rules calls sys tableName] at hrule
      have hexists := isRuleExist_eq_true.mpr ⟨hworks.ruleList, rule, hrule, htable⟩
      exact absurd (hnone.symm.trans hexists) (by simp)
    · exact absurd (hworks.ruleAdd.symm.trans hrefused) (by simp)
    · obtain ⟨-, rule, hrule, htable⟩ := isRuleExist_eq_true.mp hexists
      rw [addNewTable_rules] at hrule
      refine iff_of_false ?_ fun h => ?_
      · intro hnone
        exact herr ((congrArg (fun r => r.2.2) hkept).symm.trans hnone)
      · obtain ⟨id, hid, hfree⟩ := h hfound
        exact hfree rule hrule (htable.trans (nextID_iff.mp hid).1)
  · rw [getTableID_found calls sys tableName subnet true hworks.openFile hfits hfound]
    refine iff_of_true ?_ fun h => absurd h hfound
    rcases addMissingRule_cases calls sys subnet _ none hfound with
      ⟨-, -, hadded⟩ | ⟨-, reason, hrefused, -⟩ | ⟨-, hkept⟩
    · rw [hadded]
    · exact absurd (hworks.ruleAdd.symm.trans hrefused) (by simp)
    · rw [hkept]

/-- **`GetTableID` ensures the rule of the subnet exactly if no rule of the table is left from
before** (the rule of the subnet itself apart, for a name in the file) **and, for a new name, the IDs
of the file leave a gap.** A file that the scanner cannot read is always an error. -/
theorem getTableID_rule_iff (sys : System) (tableName subnet : String) :
    EnsuresRule sys tableName subnet ↔
      (Readable sys.rtTables → NoStaleRule sys tableName subnet) := by
  constructor
  · intro h hfits
    have hworks := Calls.tablesWork_allSucceed ""
    constructor
    · rintro hfound ⟨rule, hrule, htable⟩
      -- the rule of the table is taken for that of the subnet
      have hexists := isRuleExist_eq_true.mpr ⟨hworks.ruleList, rule, hrule, htable⟩
      refine h.rule (.allSucceed "") sys _ ?_
      rw [getTableID_found _ sys tableName subnet true hworks.openFile hfits hfound]
      rcases addMissingRule_cases (.allSucceed "") sys subnet _ none hfound with
        ⟨hnone, -⟩ | ⟨hnone, -⟩ | ⟨-, hkept⟩
      · exact absurd (hnone.symm.trans hexists) (by simp)
      · exact absurd (hnone.symm.trans hexists) (by simp)
      · exact hkept
    · exact (getTableID_err_eq_none_iff hworks hfits).mp (h.noError (.allSucceed "") hworks hfits)
  · intro hstale
    constructor
    · intro calls sys' tableID hget
      obtain ⟨⟨-, hfits⟩, hid, hgot⟩ := getTableID_ok hget
      rcases hgot.rules with ⟨rfl, hexists, rfl⟩ | hrules
      · exact (hstale hfits).found hid (isRuleExist_eq_true.mp hexists).2
      · rw [hrules]
        exact List.mem_append_right _ (List.mem_singleton.mpr rfl)
    · intro calls hworks hfits
      exact (getTableID_err_eq_none_iff hworks hfits).mpr (hstale hfits).new

/-- The rule of an earlier subnet is taken for the rule of the network; a rule left of the new ID is an
error of a table that was added; and without a gap in the IDs there is no ID. -/
theorem getTableID_keeps_stale_rule :
    getTableID (.allSucceed "rt_tables") ⟨"100\tnet\n", [ruleOf "10.1.0.0/16" 100], []⟩ "net"
        "10.2.0.0/16" true =
        (⟨"100\tnet\n", [ruleOf "10.1.0.0/16" 100], []⟩, 100, none) ∧
      ruleOf "10.2.0.0/16" 100 ∉ [ruleOf "10.1.0.0/16" 100] ∧
      getTableID (.allSucceed "rt_tables") ⟨"101\tfoo\n", [ruleOf "10.1.0.0/16" 100], []⟩ "net"
        "10.2.0.0/16" true =
        (⟨"101\tfoo\n100\tnet\n", [ruleOf "10.1.0.0/16" 100], []⟩, 100,
          some (.addTable none "rt_tables")) ∧
      getTableID (.allSucceed "rt_tables") ⟨"100\ta\n", [], []⟩ "b" "10.2.0.0/16" true =
        (⟨"100\ta\n", [], []⟩, -1, some .noAvailableID) := by
  decide

end MultiNicCni.Router
