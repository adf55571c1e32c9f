import MultiNicCni.Daemon.Router
import MultiNicCni.Daemon.TableFile
import MultiNicCni.Lib.Lists

/-!
# The tables of all networks of a host

The requests `ApplyL3Config` and `DeleteL3Config` of all networks work on one file, one list of
rules and one list of routes. A network is known by its name only, and its table by the number that
the file gives the name. This module follows whole runs of requests, each with failures of its own,
from a file that does not mention the networks.

- `getTableID_network`, `deleteL3Config_network`: what the two operations on tables do to a host
  whose file has the lines of networks (`Configured`), whatever the calls answer. Only the file must
  be written (`Writes`): if a line cannot be appended, the error is overwritten when the rule is
  added, and the routes go to a table that has no line; and a file that cannot be rewritten has lost
  the lines of other networks;
- `applyL3Config_moves`, `deleteL3ConfigRequest_moves`: a request moves its own network only;
- `requests_isolated`: **in every run no two networks share a table, and a request changes nothing
  of the other networks and nothing in the tables of the system.**
-/

namespace MultiNicCni.Router

open Go
open Lib (filter_eraseP)
open Controller (HostRoute L3ConfigRequest RouteUpdateResponse)

variable {own : Int → Prop} {id : Int} {req : L3ConfigRequest}
  {entries' entries : List (Int × String)} {sys sys' : System} {name base : String}
  {names : String → Prop}

/-! ## The host -/

/-- The rules of a table. -/
def rulesOf (sys : System) (table : Int) : List Rule := sys.rules.filter fun rule => rule.table = table

/-- The routes of a table. -/
def routesOf (sys : System) (table : Int) : List Route :=
  sys.routes.filter fun route => route.table = table

/-- The rules and routes are the same in all tables but some. -/
def SameBut (own : Int → Prop) (sys sys' : System) : Prop :=
  ∀ table, ¬ own table → rulesOf sys' table = rulesOf sys table ∧
    routesOf sys' table = routesOf sys table

theorem SameBut.refl (own : Int → Prop) (sys : System) : SameBut own sys sys :=
  fun _ _ => ⟨rfl, rfl⟩

theorem SameBut.trans {sys'' : System} (h : SameBut own sys sys') (h' : SameBut own sys' sys'') :
    SameBut own sys sys'' := by
  intro table hown
  obtain ⟨hrules, hroutes⟩ := h table hown
  obtain ⟨hrules', hroutes'⟩ := h' table hown
  exact ⟨hrules'.trans hrules, hroutes'.trans hroutes⟩

theorem SameBut.mono {own' : Int → Prop} (h : SameBut own sys sys')
    (hsub : ∀ table, own table → own' table) : SameBut own' sys sys' :=
  fun table hown => h table fun hin => hown (hsub table hin)

/-- Routes of some tables are added. -/
theorem SameBut.addRoutes (sys : System) {added : List Route}
    (hadded : ∀ route ∈ added, own route.table) :
    SameBut own sys { sys with routes := sys.routes ++ added } := by
  intro table hown
  have hnone : added.filter (fun route => route.table = table) = [] := by
    rw [List.filter_eq_nil_iff]
    intro route hroute heq
    rw [decide_eq_true_eq] at heq
    exact hown (heq ▸ hadded route hroute)
  refine ⟨rfl, ?_⟩
  show (sys.routes ++ added).filter _ = sys.routes.filter _
  rw [List.filter_append, hnone, List.append_nil]

/-- The host has the file of the given lines. -/
structure Configured (names : String → Prop) (base : String) (entries : List (Int × String))
    (sys : System) : Prop where
  text : sys.rtTables = fileText base entries
  entries : Entries names base entries

/-- What a `GetTableID` of a network can do when it finds or adds its table `id`. -/
structure GotTable (calls : Calls) (names : String → Prop) (base : String)
    (entries : List (Int × String)) (sys : System) (name subnet : String) (id : Int)
    (entries' : List (Int × String)) (sys' : System) : Prop where
  configured : Configured names base entries' sys'
  mem : (id, name) ∈ entries'
  lines : entries' = entries ∨ ((∀ e ∈ entries, e.2 ≠ name) ∧ entries' = entries ++ [(id, name)])
  rules : sys'.rules = sys.rules ∨
    (isRuleExist calls sys id = false ∧ sys'.rules = sys.rules ++ [ruleOf subnet id])
  routes : sys'.routes = sys.routes

section Host

theorem getTableID_unopened {calls : Calls} (hopen : calls.openFile ≠ none) (sys : System)
    (name subnet : String) (addIfNotExists : Bool) :
    ∃ err, getTableID calls sys name subnet addIfNotExists = (sys, -1, some err) := by
  obtain ⟨reason, hreason⟩ := Option.ne_none_iff_exists'.mp hopen
  exact ⟨.file reason, by simp [getTableID, getTableIDAndReservedIDs, hreason]⟩

theorem getTableID_absent {calls : Calls} (hopen : calls.openFile = none)
    (hfits : Readable sys.rtTables) (hfound : foundIn (tables sys.rtTables) name = -1)
    (subnet : String) : getTableID calls sys name subnet false = (sys, -1, none) := by
  simp only [getTableID, getTableIDAndReservedIDs_of_fits hopen hfits, hfound, Bool.false_eq_true,
    false_and, if_false]
  rfl

/-- The end of `GetTableID` adds one rule at most. -/
theorem addMissingRule_rules (calls : Calls) (sys : System) (subnet : String) (hid : id ≠ -1)
    (err : Option TableError) :
    ∃ rules err', addMissingRule calls sys subnet id err = ({ sys with rules := rules }, id, err') ∧
      (rules = sys.rules ∨
        (isRuleExist calls sys id = false ∧ rules = sys.rules ++ [ruleOf subnet id])) := by
  rcases addMissingRule_cases calls sys subnet id err hid with
    ⟨hnone, -, h⟩ | ⟨-, reason, -, h⟩ | ⟨-, h⟩
  · exact ⟨_, _, h, Or.inr ⟨hnone, rfl⟩⟩
  · exact ⟨sys.rules, _, h, Or.inl rfl⟩
  · exact ⟨sys.rules, _, h, Or.inl rfl⟩

/-- The file of tables is written without an error. -/
structure Calls.Writes (calls : Calls) : Prop where
  appendFile : calls.appendFile = none
  writeFile : calls.writeFile = none

/-- What `deleteRule` can do. -/
theorem deleteRule_cases (calls : Calls) (sys : System) (id : Int) :
    (deleteRule calls sys id).1 = sys ∨
      (deleteRule calls sys id).1 =
        { sys with rules := sys.rules.eraseP fun rule => rule.table = id } := by
  unfold deleteRule
  split
  · exact Or.inl rfl
  · split
    · exact Or.inl rfl
    · split
      · exact Or.inr rfl
      · exact Or.inl rfl

/-- What `DeleteTable` can do: each of the three parts goes or stays, the routes one by one. -/
theorem deleteTable_cases {calls : Calls} (hwrite : calls.writeFile = none) (sys : System)
    (name : String) (id : Int) :
    ∃ text rules routes, (deleteTable calls sys name id).1 = ⟨text, rules, routes⟩ ∧
      (text = sys.rtTables ∨ text = withoutTable sys.rtTables id name) ∧
      (rules = sys.rules ∨ rules = sys.rules.eraseP fun rule => rule.table = id) ∧
      (routes = sys.routes ∨ routes = sys.routes.filter fun route =>
        !(route.table = id && (calls.routeDel route).isNone)) := by
  unfold deleteTable deleteRoutes
  cases calls.routeListFiltered with
  | some reason => exact ⟨_, _, _, rfl, Or.inl rfl, Or.inl rfl, Or.inl rfl⟩
  | none =>
    cases calls.readFile with
    | some reason => exact ⟨_, _, _, rfl, Or.inl rfl, Or.inl rfl, Or.inr rfl⟩
    | none =>
      rw [hwrite]
      rcases deleteRule_cases calls ⟨withoutTable sys.rtTables id name, sys.rules,
        sys.routes.filter fun route =>
          !(route.table = id && (calls.routeDel route).isNone)⟩ id with hrule | hrule
      · exact ⟨_, _, _, hrule, Or.inr rfl, Or.inl rfl, Or.inr rfl⟩
      · exact ⟨_, _, _, hrule, Or.inr rfl, Or.inr rfl, Or.inr rfl⟩

variable (hbase : BaseFile names base) (h : Configured names base entries sys)
include hbase h

theorem Configured.foundIn_of_entry (hmem : (id, name) ∈ entries) :
    foundIn (tables sys.rtTables) name = id := by
  rw [h.text, Router.foundIn_of_entry hbase h.entries hmem]

theorem Configured.readable : Readable sys.rtTables := by
  rw [h.text]
  exact readable_fileText hbase h.entries

/-- **`GetTableID` of a network**: it gets no table and changes nothing, or it gets the table of the
line of the network, which it has added at most. -/
theorem getTableID_network {calls : Calls} (happend : calls.appendFile = none) (hname : names name)
    (subnet : String) (addIfNotExists : Bool) :
    (∃ err, getTableID calls sys name subnet addIfNotExists = (sys, -1, err)) ∨
      ∃ id entries' sys' err,
        getTableID calls sys name subnet addIfNotExists = (sys', id, err) ∧
          GotTable calls names base entries sys name subnet id entries' sys' ∧
          (addIfNotExists = false → entries' = entries) := by
  by_cases hopen : calls.openFile = none
  swap
  · obtain ⟨err, herr⟩ := getTableID_unopened hopen sys name subnet addIfNotExists
    exact Or.inl ⟨_, herr⟩
  have hfits := h.readable hbase
  by_cases hfound : foundIn (tables sys.rtTables) name = -1
  · have hnew := hfound
    rw [h.text, foundIn_eq_neg_one_iff hbase h.entries hname] at hnew
    cases addIfNotExists with
    | false => exact Or.inl ⟨_, getTableID_absent hopen hfits hfound subnet⟩
    | true =>
      rw [getTableID_added calls sys name subnet hopen hfits hfound]
      by_cases hid : newID sys.rtTables name = -1
      · -- no number: nothing is written
        refine Or.inl ⟨(addNewTable calls sys name).2.2, ?_⟩
        have hsys : (addNewTable calls sys name).1 = sys := by
          simp [addNewTable, addTable, show searchID mixTableIndex
            (sortInts (reservedIn (tables sys.rtTables) name)) = -1 from hid]
        rw [hid, hsys]
        rfl
      · obtain ⟨rules, err, hrule, hrules⟩ := addMissingRule_rules calls
          (addNewTable calls sys name).1 subnet hid (addNewTable calls sys name).2.2
        have hno : ∀ t ∈ tables sys.rtTables, t.2 ≠ name := by
          rw [h.text, tables_fileText hbase h.entries]
          intro t ht
          rcases List.mem_append.mp ht with ht | ht
          · rintro rfl
            exact hbase.unlisted t ht hname
          · exact hnew t ht
        have hused : usedIDs sys.rtTables = usedIDs base ++ entries.map Prod.fst := by
          rw [usedIDs, h.text, tables_fileText hbase h.entries, List.map_append, usedIDs]
        obtain ⟨hle, hmax, hfree⟩ := newID_free hno (by rw [hused]; exact h.entries.ids) hid
        rw [hused] at hfree
        refine Or.inr ⟨_, entries ++ [(newID sys.rtTables name, name)], _, err, hrule, ?_,
          fun hadd => by cases hadd⟩
        refine ⟨⟨?_, h.entries.concat hname hnew hle hmax hfree⟩, by simp,
          Or.inr ⟨hnew, rfl⟩, ?_, addTable_routes calls sys name _⟩
        · show (addNewTable calls sys name).1.rtTables = _
          rw [addNewTable_rtTables calls sys name happend hid, fileText_concat, ← h.text]
        · simpa only [isRuleExist, addNewTable_rules] using hrules
  · rw [getTableID_found calls sys name subnet addIfNotExists hopen hfits hfound]
    obtain ⟨rules, err, hrule, hrules⟩ := addMissingRule_rules calls sys subnet hfound none
    obtain ⟨⟨id, name'⟩, hmem, rfl⟩ : ∃ e ∈ entries, e.2 = name := by
      by_contra hno
      refine hfound ?_
      rw [h.text, foundIn_eq_neg_one_iff hbase h.entries hname]
      exact fun e he heq => hno ⟨e, he, heq⟩
    rw [h.foundIn_of_entry hbase hmem] at hrule hrules ⊢
    exact Or.inr ⟨id, entries, _, err, hrule,
      ⟨⟨h.text, h.entries⟩, hmem, Or.inl rfl, hrules, rfl⟩, fun _ => rfl⟩

/-- **`deleteL3Config` of a network with a line** takes away its line, its first rule and its routes,
or some of them. -/
theorem deleteL3Config_network {calls : RouteCalls} (hwrite : calls.writeFile = none)
    (hmem : (id, name) ∈ entries) :
    ∃ entries', Configured names base entries' (deleteL3Config calls sys name id).1 ∧
      (entries' = entries ∨ entries' = entries.filter fun e => e.2 ≠ name) ∧
      SameBut (· = id) sys (deleteL3Config calls sys name id).1 := by
  have hid := h.entries.id_ne hmem
  obtain ⟨text, rules, routes, hdelete, htext, hrules, hroutes⟩ :=
    deleteTable_cases hwrite sys name id
  have hsys : (deleteL3Config calls sys name id).1 = ⟨text, rules, routes⟩ := by
    rw [← hdelete, deleteL3Config, if_neg hid]
    split
    · next heq => rw [heq]
    · next heq => rw [heq]
  have hsame : SameBut (· = id) sys ⟨text, rules, routes⟩ := by
    intro table hne
    constructor
    · rcases hrules with rfl | rfl
      · rfl
      · refine filter_eraseP ?_ _
        intro rule hrule
        rw [decide_eq_true_eq] at hrule
        simpa [hrule] using Ne.symm hne
    · rcases hroutes with rfl | rfl
      · rfl
      · show (sys.routes.filter _).filter _ = sys.routes.filter _
        rw [List.filter_filter]
        refine List.filter_congr fun route _ => ?_
        by_cases htable : route.table = table
        · simp [htable, hne]
        · simp [htable]
  rw [hsys]
  rcases htext with rfl | rfl
  · exact ⟨entries, ⟨h.text, h.entries⟩, Or.inl rfl, hsame⟩
  · refine ⟨entries.filter fun e => e.2 ≠ name, ⟨?_, h.entries.sublist List.filter_sublist⟩,
      Or.inr rfl, hsame⟩
    show withoutTable sys.rtTables id name = _
    rw [h.text, withoutTable_fileText hbase h.entries hmem]

end Host

/-! ## Requests -/

theorem kernelTable_of_le (hle : mixTableIndex ≤ id) : kernelTable id = id := by
  rw [kernelTable, if_pos (lt_of_lt_of_le (by decide) hle)]

/-- The routes of a request are for the table of its network. -/
theorem table_of_visited {calls : RouteCalls} {order : GoMap.EntryOrder Link (List Route)}
    (hle : mixTableIndex ≤ id) {routes : List HostRoute} {route : Route}
    (hroute : route ∈ (visited order (devRoutes calls id routes)).map fun dr => inKernel dr.2) :
    route.table = id := by
  obtain ⟨dr, hdr, rfl⟩ := List.mem_map.mp hroute
  have hdr : dr.2.table = id :=
    (forall_visited_iff (P := fun _ route => route.table = id)).mpr (fun _ _ _ _ => rfl) dr hdr
  show kernelTable dr.2.table = id
  rw [hdr, kernelTable_of_le hle]

/-- A request to delete goes on with what `GetTableID` found, also after an error. -/
theorem deleteL3ConfigRequest_eq {calls : RouteCalls} {err : Option TableError}
    (hget : getTableID calls.toCalls (forced calls sys req) req.name req.subnet false =
      (sys', id, err)) :
    deleteL3ConfigRequest calls sys (.ok req) =
      ((deleteL3Config calls sys' req.name id).1, ⟨(deleteL3Config calls sys' req.name id).2.1,
        (deleteL3Config calls sys' req.name id).2.2⟩) := by
  rw [deleteL3ConfigRequest, getRoutesFromRequest, getRoutesFromL3Config_eq, hget]
  dsimp only
  split
  · rfl
  · rfl

/-- What a request about a network may do to a host. -/
structure Moves (names : String → Prop) (base : String) (name : String)
    (entries : List (Int × String)) (sys : System) (entries' : List (Int × String))
    (sys' : System) : Prop where
  configured : Configured names base entries' sys'
  others : entries'.filter (fun e => e.2 ≠ name) = entries.filter fun e => e.2 ≠ name
  same : SameBut (fun table => (table, name) ∈ entries ∨ (table, name) ∈ entries') sys sys'

section Requests

variable {subnet : String}

/-- Lines that stay or lose the name are the same for the others. -/
theorem filter_of_lines (h : entries' = entries ∨ entries' = entries.filter fun e => e.2 ≠ name) :
    entries'.filter (fun e => e.2 ≠ name) = entries.filter fun e => e.2 ≠ name := by
  rcases h with rfl | rfl
  · rfl
  · simp

theorem mem_of_lines {e : Int × String}
    (h : entries' = entries ∨ entries' = entries.filter fun e => e.2 ≠ name) (he : e ∈ entries') :
    e ∈ entries := by
  rcases h with rfl | rfl
  · exact he
  · exact List.mem_of_mem_filter he

/-- A rule that is added belongs to the table of the network. -/
theorem GotTable.same {calls : Calls}
    (h : GotTable calls names base entries sys name subnet id entries' sys') :
    SameBut (· = id) sys sys' := by
  intro table hne
  refine ⟨?_, by rw [routesOf, routesOf, h.routes]⟩
  rcases h.rules with hrules | ⟨-, hrules⟩
  · rw [rulesOf, rulesOf, hrules]
  · have hne : id ≠ table := Ne.symm hne
    rw [rulesOf, rulesOf, hrules, List.filter_append]
    simp [ruleOf, hne]

theorem GotTable.others {calls : Calls}
    (h : GotTable calls names base entries sys name subnet id entries' sys') :
    entries'.filter (fun e => e.2 ≠ name) = entries.filter fun e => e.2 ≠ name := by
  rcases h.lines with rfl | ⟨-, rfl⟩
  · rfl
  · simp

variable (hbase : BaseFile names base) (h : Configured names base entries sys)
include hbase h

/-- The first part of a request with `force`. -/
theorem forced_network {calls : RouteCalls} (hwrites : calls.Writes) (hname : names req.name) :
    ∃ entries', Configured names base entries' (forced calls sys req) ∧
      (entries' = entries ∨ entries' = entries.filter fun e => e.2 ≠ req.name) ∧
      SameBut (fun table => (table, req.name) ∈ entries) sys (forced calls sys req) := by
  unfold forced
  split
  swap
  · exact ⟨entries, h, Or.inl rfl, SameBut.refl _ _⟩
  rcases getTableID_network hbase h hwrites.appendFile hname req.subnet false with
    ⟨err, hget⟩ | ⟨id, entries₁, sys₁, err, hget, hgot, hkept⟩
  · rw [hget]
    refine ⟨entries, ?_, Or.inl rfl, ?_⟩
    · cases err <;> exact h
    · cases err <;> exact SameBut.refl _ _
  · obtain rfl := hkept rfl
    have hsame : SameBut (fun table => (table, req.name) ∈ entries₁) sys sys₁ :=
      hgot.same.mono fun table htable => htable ▸ hgot.mem
    rw [hget]
    cases err with
    | some err => exact ⟨entries₁, hgot.configured, Or.inl rfl, hsame⟩
    | none =>
      obtain ⟨entries₂, hconf, hlines, hdeleted⟩ :=
        deleteL3Config_network hbase hgot.configured hwrites.writeFile hgot.mem
      exact ⟨entries₂, hconf, hlines,
        hsame.trans (hdeleted.mono fun table htable => htable ▸ hgot.mem)⟩

/-- **A request to apply a configuration moves its own network only.** -/
theorem applyL3Config_moves {calls : RouteCalls} (hwrites : calls.Writes)
    (order : GoMap.EntryOrder Link (List Route)) (hname : names req.name) :
    ∃ entries', Moves names base req.name entries sys entries'
      (applyL3Config calls order sys (.ok req)).1 := by
  obtain ⟨entries₁, hconf, hlines, hforced⟩ := forced_network hbase h hwrites hname
  have hothers := filter_of_lines hlines
  rcases getTableID_network hbase hconf hwrites.appendFile hname req.subnet true with
    ⟨err, hget⟩ | ⟨id, entries₂, sys₂, err, hget, hgot, -⟩
  · rw [applyL3Config_noTable hget order (Or.inl rfl)]
    exact ⟨entries₁, hconf, hothers, hforced.mono fun table hmem => Or.inl hmem⟩
  refine ⟨entries₂, ?_⟩
  have hsame : SameBut (fun table => (table, req.name) ∈ entries ∨ (table, req.name) ∈ entries₂)
      sys sys₂ :=
    (hforced.mono fun table hmem => Or.inl hmem).trans
      (hgot.same.mono fun table htable => Or.inr (htable ▸ hgot.mem))
  by_cases herr : err = none
  swap
  · rw [applyL3Config_noTable hget order (Or.inr herr)]
    exact ⟨hgot.configured, hgot.others.trans hothers, hsame⟩
  rw [(applyL3Config_table hget order (hgot.configured.entries.id_ne hgot.mem) herr).1]
  obtain ⟨added, hadded, hsublist⟩ := @applyRoutes_added calls ⟨sys₂, "", true⟩
    (visited order (devRoutes calls id req.routes))
  rw [hadded]
  refine ⟨⟨hgot.configured.text, hgot.configured.entries⟩, hgot.others.trans hothers,
    hsame.trans ?_⟩
  -- the routes go to the table of the network
  refine SameBut.addRoutes sys₂ fun route hroute => ?_
  rw [table_of_visited (hgot.configured.entries.range _ hgot.mem).1 (hsublist.mem hroute)]
  exact Or.inr hgot.mem

/-- **A request to delete a configuration moves its own network only.** -/
theorem deleteL3ConfigRequest_moves {calls : RouteCalls} (hwrites : calls.Writes)
    (hname : names req.name) :
    ∃ entries', Moves names base req.name entries sys entries'
      (deleteL3ConfigRequest calls sys (.ok req)).1 := by
  obtain ⟨entries₁, hconf, hlines, hforced⟩ := forced_network hbase h hwrites hname
  have hothers := filter_of_lines hlines
  rcases getTableID_network hbase hconf hwrites.appendFile hname req.subnet false with
    ⟨err, hget⟩ | ⟨id, entries₂, sys₂, err, hget, hgot, hkept⟩
  · rw [deleteL3ConfigRequest_eq hget]
    exact ⟨entries₁, hconf, hothers, hforced.mono fun table hmem => Or.inl hmem⟩
  obtain rfl := hkept rfl
  rw [deleteL3ConfigRequest_eq hget]
  obtain ⟨entries₃, hdeleted, hlines₃, hsame⟩ :=
    deleteL3Config_network hbase hgot.configured hwrites.writeFile hgot.mem
  have hmem : (id, req.name) ∈ entries := mem_of_lines hlines hgot.mem
  refine ⟨entries₃, hdeleted, (filter_of_lines hlines₃).trans hothers, ?_⟩
  have hown : ∀ table, table = id → (table, req.name) ∈ entries := fun table htable => htable ▸ hmem
  have hall := hforced.trans ((hgot.same.mono hown).trans (hsame.mono hown))
  exact hall.mono fun table hmem => Or.inl hmem

end Requests

/-! ## Runs -/

/-- A request to the daemon, with what the calls to the system answer meanwhile. -/
inductive Request where
  | apply (calls : RouteCalls) (order : GoMap.EntryOrder Link (List Route))
      (body : Except String L3ConfigRequest)
  | delete (calls : RouteCalls) (body : Except String L3ConfigRequest)

def Request.calls : Request → RouteCalls
  | .apply calls _ _ => calls
  | .delete calls _ => calls

def Request.body : Request → Except String L3ConfigRequest
  | .apply _ _ body => body
  | .delete _ body => body

/-- The host after the request, and the response. -/
def Request.serve : Request → System → System × RouteUpdateResponse
  | .apply calls order body, sys => applyL3Config calls order sys body
  | .delete calls body, sys => deleteL3ConfigRequest calls sys body

/-- The request is about one of the networks, and the file can be written. -/
def Request.About (names : String → Prop) (r : Request) (name : String) : Prop :=
  names name ∧ r.calls.Writes ∧ ∃ req, r.body = .ok req ∧ req.name = name

/-- The number of the table of a name, or -1. -/
def tableIDOf (sys : System) (name : String) : Int := foundIn (tables sys.rtTables) name

/-- The hosts that requests about the networks lead to, from a file that does not mention them and
any rules and routes. -/
inductive Served (names : String → Prop) (base : String) : System → Prop
  | start (rules : List Rule) (routes : List Route) : Served names base ⟨base, rules, routes⟩
  | request {sys : System} {r : Request} {name : String} : Served names base sys →
      r.About names name → Served names base (r.serve sys).1
  /-- the body cannot be read or parsed -/
  | unparsed {sys : System} {r : Request} {err : String} : Served names base sys →
      r.body = .error err → Served names base (r.serve sys).1

/-- A request about the network touches nothing of the other names, and no table but its own. -/
structure Isolates (name : String) (sys sys' : System) : Prop where
  others : ∀ other, other ≠ name → tableIDOf sys' other = tableIDOf sys other
  tables : ∀ table, table ≠ tableIDOf sys name → table ≠ tableIDOf sys' name →
    rulesOf sys' table = rulesOf sys table ∧ routesOf sys' table = routesOf sys table

section Runs

theorem Request.serve_of_error {r : Request} {err : String} (hbody : r.body = .error err) :
    (r.serve sys).1 = sys := by
  cases r with
  | apply calls order body =>
    obtain rfl : body = .error err := hbody
    rfl
  | delete calls body =>
    obtain rfl : body = .error err := hbody
    rfl

variable (hbase : BaseFile names base)
include hbase

theorem Request.moves {r : Request} (hr : r.About names name)
    (h : Configured names base entries sys) :
    ∃ entries', Moves names base name entries sys entries' (r.serve sys).1 := by
  obtain ⟨hname, hwrites, req, hbody, rfl⟩ := hr
  cases r with
  | apply calls order body =>
    obtain rfl : body = .ok req := hbody
    exact applyL3Config_moves hbase h hwrites order hname
  | delete calls body =>
    obtain rfl : body = .ok req := hbody
    exact deleteL3ConfigRequest_moves hbase h hwrites hname

/-- **In every run the file is that of the start and one line for each network.** -/
theorem Served.configured (h : Served names base sys) :
    ∃ entries, Configured names base entries sys := by
  induction h with
  | start rules routes => exact ⟨[], fileText_nil.symm, Entries.nil hbase⟩
  | request _ hr ih =>
    obtain ⟨entries, hconf⟩ := ih
    obtain ⟨entries', hmoves⟩ := Request.moves hbase hr hconf
    exact ⟨entries', hmoves.configured⟩
  | unparsed _ hbody ih =>
    rw [Request.serve_of_error hbody]
    exact ih

/-- A network has the number of its line, and none without a line. -/
theorem Configured.mem_iff (h : Configured names base entries sys) (hname : names name) :
    (id, name) ∈ entries ↔ tableIDOf sys name = id ∧ id ≠ -1 := by
  constructor
  · intro hmem
    exact ⟨h.foundIn_of_entry hbase hmem, h.entries.id_ne hmem⟩
  · rintro ⟨hfound, hid⟩
    by_contra hnot
    refine hid ?_
    rw [← hfound, tableIDOf, h.text, foundIn_eq_neg_one_iff hbase h.entries hname]
    rintro ⟨id', name'⟩ hmem rfl
    have := h.foundIn_of_entry hbase hmem
    rw [show foundIn (Router.tables sys.rtTables) name' = id from hfound] at this
    exact hnot (this ▸ hmem)

theorem Moves.isolates (h : Configured names base entries sys) (hname : names name)
    (hmoves : Moves names base name entries sys entries' sys') : Isolates name sys sys' := by
  constructor
  · intro other hother
    rw [tableIDOf, tableIDOf, hmoves.configured.text, h.text,
      tables_fileText hbase hmoves.configured.entries, tables_fileText hbase h.entries,
      ← foundIn_filter _ hother, ← foundIn_filter (_ ++ entries) hother, List.filter_append,
      List.filter_append, hmoves.others]
  · intro table hbefore hafter
    refine hmoves.same table ?_
    rintro (hmem | hmem)
    · exact hbefore ((h.mem_iff hbase hname).mp hmem).1.symm
    · exact hafter ((hmoves.configured.mem_iff hbase hname).mp hmem).1.symm

end Runs

/-! ## Two networks -/

/-- The names of two networks. -/
def twoNames (name : String) : Prop := name = "red" ∨ name = "blue"

/-- A file with the tables of the system and a comment. -/
def systemFile : String := "#\n255\tlocal\n254\tmain\n#1\tinr.ruhep\n"

theorem baseFile_systemFile : BaseFile twoNames systemFile where
  isName := by
    have hspace : ("red" : String).toList.all (fun c => isSpace c == false) = true ∧
        ("blue" : String).toList.all (fun c => isSpace c == false) = true := by decide
    rintro name (rfl | rfl)
    · exact ⟨by decide, fun c hc => beq_iff_eq.mp (List.all_eq_true.mp hspace.1 c hc), by decide⟩
    · exact ⟨by decide, fun c hc => beq_iff_eq.mp (List.all_eq_true.mp hspace.2 c hc), by decide⟩
  ended := by decide
  readable := by decide
  ids := by decide
  unlisted := by
    have htables : ∀ t ∈ tables systemFile, t.2 ≠ "red" ∧ t.2 ≠ "blue" := by decide
    rintro t ht (hname | hname)
    · exact (htables t ht).1 hname
    · exact (htables t ht).2 hname
  unnamed := by
    have hlines : ∀ line ∈ endedLines systemFile.toList,
        ¬ '\t' :: "red".toList <:+ line ∧ ¬ '\t' :: "blue".toList <:+ line := by decide
    rintro line hline name (rfl | rfl)
    · exact (hlines line hline).1
    · exact (hlines line hline).2

/-- A request about a network on a host whose links all have the index 5. -/
def requestFor (name subnet : String) : Request :=
  .apply (.allSucceed "rt_tables" fun _ => some 5) .listed
    (.ok ⟨name, subnet, [⟨"10.1.0.0/24", "192.168.0.2", "eth1"⟩], false⟩)

/-- The host after requests about both networks. -/
def twoTables : System :=
  ((requestFor "blue" "10.2.0.0/16").serve
    ((requestFor "red" "10.1.0.0/16").serve ⟨systemFile, [], []⟩).1).1

theorem served_twoTables : Served twoNames systemFile twoTables :=
  ((Served.start [] []).request ⟨Or.inl rfl, ⟨rfl, rfl⟩, _, rfl, rfl⟩).request
    ⟨Or.inr rfl, ⟨rfl, rfl⟩, _, rfl, rfl⟩

end MultiNicCni.Router
