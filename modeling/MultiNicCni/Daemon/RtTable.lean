import MultiNicCni.Go.Lines
import MultiNicCni.Go.Net
import MultiNicCni.Go.Slice

/-!
# Routing tables of the daemon (`daemon/src/router/rt_table.go`)

In L3 mode each network has a routing table of its own on every host. The table is named by a line
`<ID>\t<name>` of the file `rt_tables`, and a rule sends the traffic of the network's subnet to it.
`GetTableID` looks the name up, adds a line with a free ID if there is none, and adds the rule;
`DeleteTable` takes both away again.

The state is the text of the file with the rules and routes of the kernel (`System`): `RuleAdd`
appends a rule, `RuleDel` removes the first rule of a table. Whether a call to the system succeeds
is a parameter (`Calls`).

The lookup reads the file by lines; what it finds is given by the tables that the lines name:

- `tables`: the IDs and names of the lines, in order;
- `getTableIDAndReservedIDs_of_fits`: the last line of a name gives its ID, and the IDs of the other
  lines from 100 on are reserved, if no line is too long for the scanner;
- `getTableID_unreadable`, `getTableID_found`, `getTableID_added`: what `GetTableID` does with a file
  that it cannot read, with a name in the file, and with a new name.

The error of `addTable` is never nil (`addTable_frame`), so of a new table only the rule that is
missing at the end is added: the branch that would delete a stale rule first is dead.
-/

namespace MultiNicCni.Router

open Go

/-! ## The system -/

/-- `netlink.Rule`, with the fields that are set. -/
structure Rule where
  src : Option IPNet
  table : Int
  deriving DecidableEq

/-- `netlink.Route`. Without a destination it is the default route. -/
structure Route where
  linkIndex : Int
  dst : Option IPNet
  gw : Option IP4
  table : Int
  deriving DecidableEq

/-- The text of `rt_tables`, the rules and the routes of all tables. -/
structure System where
  rtTables : String
  rules : List Rule
  routes : List Route
  deriving DecidableEq

/-- What the calls to the system answer: `none` if the call succeeds, and the reason otherwise. -/
structure Calls where
  /-- `RT_TABLE_PATH` -/
  rtTablePath : String
  /-- `os.Open` -/
  openFile : Option String
  /-- `os.OpenFile` and `WriteString` -/
  appendFile : Option String
  /-- `ioutil.ReadFile` -/
  readFile : Option String
  /-- `ioutil.WriteFile`: why it fails, and what it leaves in the file, which it has emptied first -/
  writeFile : Option (String × String)
  ruleList : Option String
  ruleAdd : Option String
  ruleDel : Option String
  routeListFiltered : Option String
  routeDel : Route → Option String

/-- Every call succeeds. -/
def Calls.allSucceed (rtTablePath : String) : Calls :=
  ⟨rtTablePath, none, none, none, none, none, none, none, none, fun _ => none⟩

inductive TableError where
  /-- the file cannot be opened, read or written -/
  | file (reason : String)
  | scan (err : ScanError)
  /-- `failed to add table: %v (%s)` -/
  | addTable (err : Option String) (rtTablePath : String)
  /-- `No available ID` -/
  | noAvailableID
  /-- `add rule tableID = -1` -/
  | addRuleNoTable
  /-- `delete rule tableID = -1` -/
  | deleteRuleNoTable
  | netlink (reason : String)
  deriving DecidableEq, Repr

/-- The text of an error. -/
def TableError.text : TableError → String
  | .file reason => reason
  | .scan .tooLong => "bufio.Scanner: token too long"
  | .addTable err rtTablePath =>
    "failed to add table: " ++ err.getD "<nil>" ++ " (" ++ rtTablePath ++ ")"
  | .noAvailableID => "No available ID"
  | .addRuleNoTable => "add rule tableID = -1"
  | .deleteRuleNoTable => "delete rule tableID = -1"
  | .netlink reason => reason

/-! ## Lines -/

/-- `MIX_TABLE_INDEX`. -/
def mixTableIndex : Int := 100

/-- `getTableLine`, without its newline. -/
def tableEntry (tableID : Int) (tableName : String) : List Char :=
  formatInt 10 tableID ++ '\t' :: tableName.toList

/-- `getTableLine`. -/
def getTableLine (tableID : Int) (tableName : String) : String :=
  String.ofList (tableEntry tableID tableName ++ ['\n'])

/-- The ID and the name in a line, if it is no comment and the ID is a number. -/
def tableOf (line : List Char) : Option (Int × String) :=
  match fields line with
  | idField :: nameField :: _ =>
    if '#' ∈ idField then none
    else
      match parseInt 10 idField with
      | (tableID, true) => some (tableID, String.ofList nameField)
      | (_, false) => none
  | _ => none

/-- One line of the loop of `getTableIDAndReservedIDs`. -/
def scanTable (tableName : String) (st : Int × List Int) (line : List Char) : Int × List Int :=
  match tableOf line with
  | none => st
  | some (tableID, name) =>
    if name = tableName then (tableID, st.2)
    else if tableID ≥ mixTableIndex then (st.1, st.2 ++ [tableID])
    else st

section Model

variable (calls : Calls)

/-- `getTableIDAndReservedIDs`: the ID of the name or -1, and the IDs of other names. -/
def getTableIDAndReservedIDs (text : String) (tableName : String) :
    Int × List Int × Option TableError :=
  match calls.openFile with
  | some reason => (-1, [], some (.file reason))
  | none =>
    let (lines, err) := scanLines text.toList
    let (foundID, reservedIDs) := lines.foldl (scanTable tableName) (-1, [])
    (foundID, reservedIDs, err.map .scan)

/-- The loop of `addTable` over the sorted IDs: the first position that does not hold its own
number, counted from `next`, or -1. -/
def searchID : Int → List Int → Int
  | _, [] => -1
  | next, tableID :: rest => if next ≠ tableID then next else searchID (next + 1) rest

/-- `addTable`. It reports an error also when the line is written. -/
def addTable (sys : System) (tableName : String) (reservedIDs : List Int) :
    System × Int × Option TableError :=
  let foundID := searchID mixTableIndex (sortInts reservedIDs)
  if foundID ≠ -1 then
    match calls.appendFile with
    | some reason => (sys, foundID, some (.addTable (some reason) calls.rtTablePath))
    | none =>
      ({ sys with rtTables := sys.rtTables ++ getTableLine foundID tableName }, foundID,
        some (.addTable none calls.rtTablePath))
  else (sys, foundID, some .noAvailableID)

/-! ## Rules -/

/-- `addRule`. A subnet that does not parse is `nil`. -/
def addRule (sys : System) (subnet : String) (tableID : Int) : System × Option TableError :=
  if tableID = -1 then (sys, some .addRuleNoTable)
  else
    let rule : Rule := ⟨(parseCIDR subnet).map (·.2), tableID⟩
    match calls.ruleAdd with
    | some reason => (sys, some (.netlink reason))
    | none => ({ sys with rules := sys.rules ++ [rule] }, none)

/-- `isRuleExist`: rules that cannot be listed do not exist. -/
def isRuleExist (sys : System) (tableID : Int) : Bool :=
  match calls.ruleList with
  | some _ => false
  | none => sys.rules.any fun rule => rule.table = tableID

/-- `deleteRule`. -/
def deleteRule (sys : System) (tableID : Int) : System × Option TableError :=
  if tableID = -1 then (sys, some .deleteRuleNoTable)
  else
    match calls.ruleDel with
    | some reason => (sys, some (.netlink reason))
    | none =>
      if sys.rules.any fun rule => rule.table = tableID then
        ({ sys with rules := sys.rules.eraseP fun rule => rule.table = tableID }, none)
      else (sys, some (.netlink "no such file or directory"))

/-! ## Tables -/

/-- The end of `GetTableID`: a table without a rule gets one. -/
def addMissingRule (sys : System) (subnet : String) (tableID : Int) (err : Option TableError) :
    System × Int × Option TableError :=
  if tableID ≠ -1 ∧ isRuleExist calls sys tableID = false then
    let (sys, err) := addRule calls sys subnet tableID
    (sys, tableID, err)
  else (sys, tableID, err)

/-- `GetTableID`. -/
def getTableID (sys : System) (tableName subnet : String) (addIfNotExists : Bool) :
    System × Int × Option TableError :=
  let (foundID, reservedIDs, err) := getTableIDAndReservedIDs calls sys.rtTables tableName
  match err with
  | some err => (sys, foundID, some err)
  | none =>
    let (sys, foundID, err) :=
      if addIfNotExists = true ∧ foundID = -1 then
        let (sys, foundID, err) := addTable calls sys tableName reservedIDs
        match err with
        | some err => (sys, foundID, some err)
        | none =>
          -- delete existing rule
          let (sys, _) := deleteRule calls sys foundID
          let (sys, err) := addRule calls sys subnet foundID
          (sys, foundID, err)
      else (sys, foundID, none)
    addMissingRule calls sys subnet foundID err

/-- `deleteRoutes`; a route that cannot be deleted is passed over. -/
def deleteRoutes (sys : System) (tableID : Int) : System × Option TableError :=
  match calls.routeListFiltered with
  | some reason => (sys, some (.netlink reason))
  | none =>
    ({ sys with routes := sys.routes.filter fun route =>
        !(route.table = tableID && (calls.routeDel route).isNone) }, none)

/-- The text that `DeleteTable` writes. -/
def withoutTable (text : String) (tableID : Int) (tableName : String) : String :=
  String.ofList (removeFirst (getTableLine tableID tableName).toList text.toList)

/-- `DeleteTable`. -/
def deleteTable (sys : System) (tableName : String) (tableID : Int) : System × Option TableError :=
  match deleteRoutes calls sys tableID with
  | (sys, some err) => (sys, some err)
  | (sys, none) =>
    match calls.readFile with
    | some reason => (sys, some (.file reason))
    | none =>
      let output := withoutTable sys.rtTables tableID tableName
      -- an error of the write is logged and forgotten
      let sys :=
        match calls.writeFile with
        | some (_, left) => { sys with rtTables := left }
        | none => { sys with rtTables := output }
      deleteRule calls sys tableID

end Model

/-! ## What a lookup finds -/

/-- The tables that the lines of a text name. -/
def tables (text : String) : List (Int × String) := (rawLines text.toList).filterMap tableOf

/-- The ID of the last table of a name, or -1. -/
def foundIn (ts : List (Int × String)) (tableName : String) : Int :=
  ((ts.reverse.find? fun t => t.2 = tableName).map Prod.fst).getD (-1)

/-- The IDs from 100 on of the other tables. -/
def reservedIn (ts : List (Int × String)) (tableName : String) : List Int :=
  (ts.filter fun t => t.2 ≠ tableName ∧ mixTableIndex ≤ t.1).map Prod.fst

/-- The ID that `addTable` finds for a new name. -/
def newID (text tableName : String) : Int :=
  searchID mixTableIndex (sortInts (reservedIn (tables text) tableName))

/-- All lines of the text fit into the buffer of the scanner. -/
def Readable (text : String) : Prop := (rawLines text.toList).all fitsToken = true

instance (text : String) : Decidable (Readable text) := inferInstanceAs (Decidable (_ = true))

theorem foundIn_append_singleton (ts : List (Int × String)) (t : Int × String)
    (tableName : String) :
    foundIn (ts ++ [t]) tableName = if t.2 = tableName then t.1 else foundIn ts tableName := by
  rw [foundIn, List.reverse_concat, List.find?_cons]
  by_cases h : t.2 = tableName
  · simp [h]
  · simp [h, foundIn]

theorem foundIn_of_forall_ne {ts : List (Int × String)} {tableName : String}
    (h : ∀ t ∈ ts, t.2 ≠ tableName) : foundIn ts tableName = -1 := by
  have hnone : (ts.reverse.find? fun t => t.2 = tableName) = none := by
    rw [List.find?_eq_none]
    intro t ht
    simpa using h t (List.mem_reverse.mp ht)
  rw [foundIn, hnone]
  rfl

/-- A carriage return at the end of a line does not matter. -/
theorem tableOf_dropCR (line : List Char) : tableOf (dropCR line) = tableOf line := by
  rw [tableOf, tableOf, fields_dropCR]

/-- The loop over the lines. -/
theorem foldl_scanTable (tableName : String) (lines : List (List Char)) :
    lines.foldl (scanTable tableName) (-1, []) =
      (foundIn (lines.filterMap tableOf) tableName,
        reservedIn (lines.filterMap tableOf) tableName) := by
  induction lines using List.reverseRecOn with
  | nil => rfl
  | append_singleton lines line ih =>
    rw [List.foldl_append, ih, List.foldl_cons, List.foldl_nil, List.filterMap_append, scanTable]
    cases hline : tableOf line with
    | none => simp [hline]
    | some t =>
      obtain ⟨tableID, name⟩ := t
      rw [List.filterMap_cons_some hline, List.filterMap_nil, foundIn_append_singleton, reservedIn,
        reservedIn, List.filter_append, List.map_append]
      dsimp only
      by_cases hname : name = tableName
      · simp [hname]
      · by_cases hid : mixTableIndex ≤ tableID
        · simp [hname, hid]
        · simp [hname, hid]

section Lookup

variable {calls : Calls} (hopen : calls.openFile = none)
include hopen

/-- The lookup in a text without a line that is too long. -/
theorem getTableIDAndReservedIDs_of_fits {text : String} (hfits : Readable text)
    (tableName : String) :
    getTableIDAndReservedIDs calls text tableName =
      (foundIn (tables text) tableName, reservedIn (tables text) tableName, none) := by
  have hlines : ((rawLines text.toList).map dropCR).filterMap tableOf = tables text := by
    rw [List.filterMap_map, tables]
    exact List.filterMap_congr fun line _ => tableOf_dropCR line
  rw [getTableIDAndReservedIDs, hopen]
  dsimp only
  rw [scanLines_of_fits hfits]
  dsimp only
  rw [foldl_scanTable, hlines]
  rfl

/-- A line that is too long is an error of the lookup. -/
theorem getTableIDAndReservedIDs_err {text : String} (hfits : ¬ Readable text)
    (tableName : String) :
    (getTableIDAndReservedIDs calls text tableName).2.2 = some (.scan .tooLong) := by
  rw [getTableIDAndReservedIDs, hopen]
  show (scanLines text.toList).2.map TableError.scan = _
  rw [scanLines, if_neg (show ¬ _ = true from hfits)]
  rfl

end Lookup

/-- A lookup: the ID that is found, and the error. -/
def lookup (calls : Calls) (text tableName : String) : Int × Option TableError :=
  ((getTableIDAndReservedIDs calls text tableName).1,
    (getTableIDAndReservedIDs calls text tableName).2.2)

theorem lookup_of_fits {calls : Calls} (hopen : calls.openFile = none) {text : String}
    (hfits : Readable text) (tableName : String) :
    lookup calls text tableName = (foundIn (tables text) tableName, none) := by
  rw [lookup, getTableIDAndReservedIDs_of_fits hopen hfits]

/-! ## What `GetTableID` does -/

/-- The search goes up from where it starts. -/
theorem le_searchID (xs : List Int) (a : Int) (h : searchID a xs ≠ -1) : a ≤ searchID a xs := by
  induction xs generalizing a with
  | nil => exact absurd rfl h
  | cons x rest ih =>
    rw [searchID] at h ⊢
    split at h
    · next hne => rw [if_pos hne]
    · next heq =>
      rw [if_neg heq]
      have := ih (a + 1) h
      omega

/-- Position `k` is the first that does not hold its own number, counted from `a`. -/
structure FirstOutOfPlace (a : Int) (xs : List Int) (k : Nat) : Prop where
  before : ∀ i < k, xs[i]? = some (a + i)
  here : ∃ x, xs[k]? = some x ∧ x ≠ a + k

theorem FirstOutOfPlace.cons {a : Int} {xs : List Int} {k : Nat}
    (h : FirstOutOfPlace (a + 1) xs k) : FirstOutOfPlace a (a :: xs) (k + 1) := by
  obtain ⟨hbefore, x, hx, hne⟩ := h
  refine ⟨fun i hi => ?_, x, hx, by omega⟩
  cases i with
  | zero => simp
  | succ i =>
    rw [List.getElem?_cons_succ, hbefore i (by omega)]
    exact congrArg some (by omega)

/-- The search finds the number of the first position out of place. -/
theorem searchID_of_firstOutOfPlace {a : Int} {xs : List Int} {k : Nat}
    (h : FirstOutOfPlace a xs k) : searchID a xs = a + k := by
  induction xs generalizing a k with
  | nil =>
    obtain ⟨-, x, hx, -⟩ := h
    cases hx
  | cons y rest ih =>
    obtain ⟨hbefore, x, hx, hne⟩ := h
    cases k with
    | zero =>
      obtain rfl := Option.some.inj hx
      rw [searchID, if_pos (by omega)]
      simp
    | succ k =>
      have hy : y = a := by
        have := Option.some.inj (hbefore 0 (by omega))
        omega
      subst hy
      have hrest : FirstOutOfPlace (y + 1) rest k := by
        refine ⟨fun i hi => ?_, x, hx, by omega⟩
        have := hbefore (i + 1) (by omega)
        rw [List.getElem?_cons_succ] at this
        exact this.trans (congrArg some (by omega))
      rw [searchID, if_neg (by simp), ih hrest]
      omega

theorem exists_firstOutOfPlace {a : Int} {xs : List Int} (h : searchID a xs ≠ -1) :
    ∃ k, FirstOutOfPlace a xs k := by
  induction xs generalizing a with
  | nil => exact absurd rfl h
  | cons y rest ih =>
    by_cases hy : a = y
    · subst hy
      rw [searchID, if_neg (by simp)] at h
      obtain ⟨k, hk⟩ := ih h
      exact ⟨k + 1, hk.cons⟩
    · exact ⟨0, fun i hi => absurd hi (Nat.not_lt_zero i), y, rfl, by omega⟩

/-- The number of the first position out of place among the sorted IDs, from 100 on, of the other
names of a file. -/
def NextID (text tableName : String) (id : Int) : Prop :=
  ∃ k : Nat, FirstOutOfPlace mixTableIndex (sortInts (reservedIn (tables text) tableName)) k ∧
    id = mixTableIndex + k

/-- It is what `addTable` finds. -/
theorem nextID_iff {text tableName : String} {id : Int} :
    NextID text tableName id ↔ newID text tableName = id ∧ id ≠ -1 := by
  constructor
  · rintro ⟨k, hk, rfl⟩
    refine ⟨searchID_of_firstOutOfPlace hk, ?_⟩
    have : (0 : Int) ≤ mixTableIndex := by decide
    omega
  · rintro ⟨rfl, hne⟩
    obtain ⟨k, hk⟩ := exists_firstOutOfPlace hne
    exact ⟨k, hk, searchID_of_firstOutOfPlace hk⟩

section Steps

variable (calls : Calls) (sys : System) (tableName subnet : String)

/-- `addTable` changes the text at most, returns the ID of the search, and never reports success. -/
theorem addTable_frame (reservedIDs : List Int) :
    ∃ text err, addTable calls sys tableName reservedIDs =
      ({ sys with rtTables := text }, searchID mixTableIndex (sortInts reservedIDs), some err) := by
  unfold addTable
  dsimp only
  split
  · split
    · exact ⟨sys.rtTables, _, rfl⟩
    · exact ⟨_, _, rfl⟩
  · exact ⟨sys.rtTables, _, rfl⟩

theorem addTable_err (reservedIDs : List Int) :
    (addTable calls sys tableName reservedIDs).2.2 ≠ none := by
  obtain ⟨text, err, h⟩ := addTable_frame calls sys tableName reservedIDs
  simp [h]

theorem addTable_id (reservedIDs : List Int) :
    (addTable calls sys tableName reservedIDs).2.1 =
      searchID mixTableIndex (sortInts reservedIDs) := by
  obtain ⟨text, err, h⟩ := addTable_frame calls sys tableName reservedIDs
  simp [h]

@[simp] theorem addTable_rules (reservedIDs : List Int) :
    (addTable calls sys tableName reservedIDs).1.rules = sys.rules := by
  obtain ⟨text, err, h⟩ := addTable_frame calls sys tableName reservedIDs
  simp [h]

@[simp] theorem addTable_routes (reservedIDs : List Int) :
    (addTable calls sys tableName reservedIDs).1.routes = sys.routes := by
  obtain ⟨text, err, h⟩ := addTable_frame calls sys tableName reservedIDs
  simp [h]

/-- The line is written if an ID is found and the file can be written. -/
theorem addTable_rtTables (happend : calls.appendFile = none) (reservedIDs : List Int)
    (hid : searchID mixTableIndex (sortInts reservedIDs) ≠ -1) :
    (addTable calls sys tableName reservedIDs).1.rtTables =
      sys.rtTables ++ getTableLine (searchID mixTableIndex (sortInts reservedIDs)) tableName := by
  rw [addTable, if_pos hid, happend]

/-- `addTable` with the IDs that a lookup of the name reserves. -/
def addNewTable : System × Int × Option TableError :=
  addTable calls sys tableName (reservedIn (tables sys.rtTables) tableName)

theorem addNewTable_err : (addNewTable calls sys tableName).2.2 ≠ none :=
  addTable_err calls sys tableName _

@[simp] theorem addNewTable_rules : (addNewTable calls sys tableName).1.rules = sys.rules :=
  addTable_rules calls sys tableName _

theorem addNewTable_rtTables (happend : calls.appendFile = none)
    (hid : newID sys.rtTables tableName ≠ -1) :
    (addNewTable calls sys tableName).1.rtTables =
      sys.rtTables ++ getTableLine (newID sys.rtTables tableName) tableName :=
  addTable_rtTables calls sys tableName happend _ hid

/-- A line that cannot be appended is left out. -/
theorem addNewTable_refused (happend : calls.appendFile ≠ none) :
    (addNewTable calls sys tableName).1 = sys := by
  obtain ⟨reason, hreason⟩ := Option.ne_none_iff_exists'.mp happend
  rw [addNewTable, addTable, hreason]
  dsimp only
  split
  · rfl
  · rfl

/-- `addRule` changes the rules at most. -/
theorem addRule_frame (tableID : Int) :
    ∃ rules err, addRule calls sys subnet tableID = ({ sys with rules := rules }, err) := by
  unfold addRule
  split
  · exact ⟨sys.rules, _, rfl⟩
  · dsimp only
    split
    · exact ⟨sys.rules, _, rfl⟩
    · exact ⟨_, _, rfl⟩

/-- The end of `GetTableID` changes the rules at most, and keeps the ID. -/
theorem addMissingRule_frame (tableID : Int) (err : Option TableError) :
    ∃ rules err', addMissingRule calls sys subnet tableID err =
      ({ sys with rules := rules }, tableID, err') := by
  unfold addMissingRule
  split
  · obtain ⟨rules, err', h⟩ := addRule_frame calls sys subnet tableID
    exact ⟨rules, err', by rw [h]⟩
  · exact ⟨sys.rules, err, rfl⟩

@[simp] theorem addMissingRule_rtTables (tableID : Int) (err : Option TableError) :
    (addMissingRule calls sys subnet tableID err).1.rtTables = sys.rtTables := by
  obtain ⟨rules, err', h⟩ := addMissingRule_frame calls sys subnet tableID err
  rw [h]

@[simp] theorem addMissingRule_routes (tableID : Int) (err : Option TableError) :
    (addMissingRule calls sys subnet tableID err).1.routes = sys.routes := by
  obtain ⟨rules, err', h⟩ := addMissingRule_frame calls sys subnet tableID err
  rw [h]

@[simp] theorem addMissingRule_id (tableID : Int) (err : Option TableError) :
    (addMissingRule calls sys subnet tableID err).2.1 = tableID := by
  obtain ⟨rules, err', h⟩ := addMissingRule_frame calls sys subnet tableID err
  rw [h]

variable (addIfNotExists : Bool)

/-- A file that cannot be opened or read is an error, and nothing changes. -/
theorem getTableID_unreadable (h : calls.openFile ≠ none ∨ ¬ Readable sys.rtTables) :
    (getTableID calls sys tableName subnet addIfNotExists).1 = sys ∧
      (getTableID calls sys tableName subnet addIfNotExists).2.2 ≠ none := by
  have herr : (getTableIDAndReservedIDs calls sys.rtTables tableName).2.2 ≠ none := by
    cases hopen : calls.openFile with
    | some reason => simp [getTableIDAndReservedIDs, hopen]
    | none =>
      rw [getTableIDAndReservedIDs_err hopen (h.resolve_left (by simp [hopen]))]
      simp
  obtain ⟨err, herr⟩ := Option.ne_none_iff_exists'.mp herr
  simp [getTableID, herr]

/-- No route changes. -/
theorem getTableID_routes :
    (getTableID calls sys tableName subnet addIfNotExists).1.routes = sys.routes := by
  unfold getTableID
  dsimp only
  split
  · rfl
  · rw [addMissingRule_routes]
    split
    · split
      · exact addTable_routes calls sys tableName _
      · next herr => exact absurd herr (addTable_err calls sys tableName _)
    · rfl

variable (hopen : calls.openFile = none) (hfits : Readable sys.rtTables)
include hopen hfits

/-- A name in the file keeps its ID, and a missing rule is added. -/
theorem getTableID_found (hfound : foundIn (tables sys.rtTables) tableName ≠ -1) :
    getTableID calls sys tableName subnet addIfNotExists =
      addMissingRule calls sys subnet (foundIn (tables sys.rtTables) tableName) none := by
  simp only [getTableID, getTableIDAndReservedIDs_of_fits hopen hfits, hfound, and_false, if_false]

/-- A new name gets the ID of `addTable`, with the error of `addTable` if the ID has a rule. -/
theorem getTableID_added (hfound : foundIn (tables sys.rtTables) tableName = -1) :
    getTableID calls sys tableName subnet true =
      addMissingRule calls (addNewTable calls sys tableName).1 subnet
        (newID sys.rtTables tableName) (addNewTable calls sys tableName).2.2 := by
  obtain ⟨err, herr⟩ := Option.ne_none_iff_exists'.mp
    (addTable_err calls sys tableName (reservedIn (tables sys.rtTables) tableName))
  rw [newID, ← addTable_id calls sys tableName, addNewTable]
  simp only [getTableID, getTableIDAndReservedIDs_of_fits hopen hfits, hfound, herr, and_self,
    if_true]

end Steps

/-! ## What `DeleteTable` writes -/

/-- The files can be read and written, and the routes of a table can be listed. -/
structure Calls.FilesWork (calls : Calls) : Prop where
  openFile : calls.openFile = none
  appendFile : calls.appendFile = none
  readFile : calls.readFile = none
  writeFile : calls.writeFile = none
  routeListFiltered : calls.routeListFiltered = none

theorem deleteRule_rtTables (calls : Calls) (sys : System) (tableID : Int) :
    (deleteRule calls sys tableID).1.rtTables = sys.rtTables := by
  unfold deleteRule
  split
  · rfl
  · split
    · rfl
    · split <;> rfl

theorem deleteTable_rtTables {calls : Calls} (hworks : calls.FilesWork) (sys : System)
    (tableName : String) (tableID : Int) :
    (deleteTable calls sys tableName tableID).1.rtTables =
      withoutTable sys.rtTables tableID tableName := by
  rw [deleteTable, deleteRoutes, hworks.routeListFiltered]
  dsimp only
  rw [hworks.readFile, hworks.writeFile]
  dsimp only
  rw [deleteRule_rtTables]

end MultiNicCni.Router
