import MultiNicCni.Daemon.RtTable

/-!
# The ID of a new routing table (`addTable` in `daemon/src/router/rt_table.go`)

`addTable` sorts the IDs from 100 on that the file gives to other names, and takes the first number
from 100 on that does not stand at its own position of the sorted list. This is the right ID only
for some lists:

- without a number out of its position, which is also the case of a file with no ID from 100 on,
  there is no ID at all, though all but finitely many are free;
- an ID given to several names shifts the positions after it, and the number found may be in use.

`Searchable` says which lists are left: the least free number `free` is found if no number before
`free - 1` is repeated, and the list goes on after `free` or repeats `free - 1`.
`searchable_iff` follows the loop; `getTableID_appends_iff` is the result for `GetTableID`.
-/

namespace MultiNicCni.Router

open Go

variable {rest : List Int} {ts : List (Int × String)} {tableName : String} {free : Int}

/-! ## The search by position -/

/-- `free` is the least number from `a` on that is not in the list, and the list is such that the
first number out of its position is `free`. -/
structure Searchable (a : Int) (ids : List Int) (free : Int) : Prop where
  le : a ≤ free
  not_mem : free ∉ ids
  below : ∀ j, a ≤ j → j < free → j ∈ ids
  once : ∀ j, a ≤ j → j + 1 < free → ids.count j = 1
  more : (∃ id ∈ ids, free < id) ∨ (a < free ∧ 1 < ids.count (free - 1))

/-- The order of the list does not matter, nor do the numbers below `a`. -/
theorem Searchable.congr {a : Int} {ids ids' : List Int}
    (hcount : ∀ j, a ≤ j → ids'.count j = ids.count j) (h : Searchable a ids free) :
    Searchable a ids' free := by
  have hmem : ∀ j, a ≤ j → (j ∈ ids' ↔ j ∈ ids) := by
    intro j hj
    rw [← List.count_pos_iff, ← List.count_pos_iff, hcount j hj]
  have hle := h.le
  refine ⟨h.le, fun hin => h.not_mem ((hmem free h.le).mp hin), ?_, ?_, ?_⟩
  · intro j hj hlt
    exact (hmem j hj).mpr (h.below j hj hlt)
  · intro j hj hlt
    rw [hcount j hj]
    exact h.once j hj hlt
  · rcases h.more with ⟨id, hid, hlt⟩ | ⟨hlt, htwice⟩
    · exact Or.inl ⟨id, (hmem id (by omega)).mpr hid, hlt⟩
    · refine Or.inr ⟨hlt, ?_⟩
      rw [hcount _ (by omega)]
      exact htwice

/-- A number at its own position that is not repeated is passed. -/
theorem searchable_cons_self {a : Int} (hrest : ∀ x ∈ rest, a < x) :
    Searchable a (a :: rest) free ↔ Searchable (a + 1) rest free := by
  have hnot : a ∉ rest := fun hin => lt_irrefl a (hrest a hin)
  have hself : (a :: rest).count a = 1 := by
    rw [List.count_cons_self, List.count_eq_zero_of_not_mem hnot]
  have hother : ∀ j, j ≠ a → (a :: rest).count j = rest.count j := by
    intro j hj
    rw [List.count_cons_of_ne (Ne.symm hj)]
  constructor
  · intro h
    have hne : free ≠ a := fun heq => h.not_mem (by simp [heq])
    have hle := h.le
    refine ⟨by omega, fun hin => h.not_mem (List.mem_cons_of_mem _ hin), ?_, ?_, ?_⟩
    · intro j hj hlt
      exact (List.mem_cons.mp (h.below j (by omega) hlt)).resolve_left (by omega)
    · intro j hj hlt
      rw [← hother j (by omega)]
      exact h.once j (by omega) hlt
    · rcases h.more with ⟨id, hid, hlt⟩ | ⟨-, htwice⟩
      · exact Or.inl ⟨id, (List.mem_cons.mp hid).resolve_left (by omega), hlt⟩
      · -- the number before `free` is not `a`, which occurs once
        have hprev : free - 1 ≠ a := by
          intro heq
          rw [heq, hself] at htwice
          omega
        rw [hother _ hprev] at htwice
        exact Or.inr ⟨by omega, htwice⟩
  · intro h
    have hle := h.le
    refine ⟨by omega, ?_, ?_, ?_, ?_⟩
    · rw [List.mem_cons, not_or]
      exact ⟨by omega, h.not_mem⟩
    · intro j hj hlt
      by_cases heq : j = a
      · simp [heq]
      · exact List.mem_cons_of_mem _ (h.below j (by omega) hlt)
    · intro j hj hlt
      by_cases heq : j = a
      · rw [heq, hself]
      · rw [hother j heq]
        exact h.once j (by omega) hlt
    · rcases h.more with ⟨id, hid, hlt⟩ | ⟨hlt, htwice⟩
      · exact Or.inl ⟨id, List.mem_cons_of_mem _ hid, hlt⟩
      · refine Or.inr ⟨by omega, ?_⟩
        rw [hother _ (by omega)]
        exact htwice

/-- A number at its own position that is repeated: the search stops after it. -/
theorem searchable_cons_repeated {a : Int} :
    Searchable a (a :: a :: rest) free ↔ a + 1 = free ∧ free ∉ a :: a :: rest := by
  have htwice : 1 < (a :: a :: rest).count a := by
    rw [List.count_cons_self, List.count_cons_self]
    omega
  constructor
  · intro h
    have hle := h.le
    have hne : free ≠ a := fun heq => h.not_mem (by simp [heq])
    have hnext : ¬ a + 1 < free := by
      intro hlt
      have := h.once a le_rfl hlt
      omega
    exact ⟨by omega, h.not_mem⟩
  · rintro ⟨rfl, hnot⟩
    refine ⟨by omega, hnot, ?_, fun j hj hlt => by omega, Or.inr ⟨by omega, ?_⟩⟩
    · intro j hj hlt
      obtain rfl : j = a := by omega
      simp
    · rw [show a + 1 - 1 = a by omega]
      exact htwice

/-- A number out of its position is larger: the search stops at once. -/
theorem searchable_of_lt {a x : Int} (hlt : ∀ y ∈ x :: rest, a < y) :
    Searchable a (x :: rest) free ↔ a = free ∧ free ∉ x :: rest := by
  constructor
  · intro h
    have hle := h.le
    have hnext : ¬ a < free := fun hfree => lt_irrefl a (hlt a (h.below a le_rfl hfree))
    exact ⟨by omega, h.not_mem⟩
  · rintro ⟨rfl, hnot⟩
    exact ⟨le_rfl, hnot, fun j hj hjlt => by omega, fun j hj hjlt => by omega,
      Or.inl ⟨x, List.mem_cons_self, hlt x List.mem_cons_self⟩⟩

/-- **The search finds a number that is free exactly in the lists of `Searchable`.** The induction
is on the sorted list, with the number expected at its head. -/
theorem searchable_iff {a : Int} {xs : List Int} (ha : 0 ≤ a) (hs : xs.Pairwise (· ≤ ·))
    (hge : ∀ x ∈ xs, a ≤ x) :
    Searchable a xs free ↔ searchID a xs = free ∧ free ≠ -1 ∧ free ∉ xs := by
  induction xs generalizing a with
  | nil =>
    constructor
    · intro h
      simpa using h.more
    · rintro ⟨hid, hne, -⟩
      exact absurd hid.symm hne
  | cons x rest ih =>
    obtain ⟨hx, hrest⟩ := List.pairwise_cons.mp hs
    have hax := hge x List.mem_cons_self
    rw [searchID]
    split
    · next hne =>
      -- the head is above its position, and so is all the rest
      rw [searchable_of_lt]
      · constructor
        · rintro ⟨hid, hnot⟩
          exact ⟨hid, by omega, hnot⟩
        · rintro ⟨hid, -, hnot⟩
          exact ⟨hid, hnot⟩
      · intro y hy
        rcases List.mem_cons.mp hy with rfl | hy
        · omega
        · have := hx y hy
          omega
    · next heq =>
      obtain rfl : a = x := not_not.mp heq
      by_cases hin : a ∈ rest
      · -- the rest begins with the number again
        obtain ⟨rest', rfl⟩ : ∃ rest', rest = a :: rest' := by
          cases rest with
          | nil => cases hin
          | cons y rest' =>
            have hya := hx y List.mem_cons_self
            rcases List.mem_cons.mp hin with rfl | hin
            · exact ⟨rest', rfl⟩
            · have := (List.pairwise_cons.mp hrest).1 a hin
              obtain rfl : y = a := by omega
              exact ⟨rest', rfl⟩
        rw [searchable_cons_repeated, searchID, if_pos (by omega)]
        constructor
        · rintro ⟨hid, hnot⟩
          exact ⟨hid, by omega, hnot⟩
        · rintro ⟨hid, -, hnot⟩
          exact ⟨hid, hnot⟩
      · have hlt : ∀ y ∈ rest, a < y := by
          intro y hy
          have hle := hx y hy
          have hne : y ≠ a := fun h => hin (h ▸ hy)
          omega
        rw [searchable_cons_self hlt, ih (by omega) hrest fun y hy => hlt y hy]
        constructor
        · rintro ⟨hid, hne, hnot⟩
          have hup := le_searchID rest (a + 1) (by rw [hid]; exact hne)
          rw [hid] at hup
          refine ⟨hid, hne, ?_⟩
          rw [List.mem_cons, not_or]
          exact ⟨by omega, hnot⟩
        · rintro ⟨hid, hne, hnot⟩
          exact ⟨hid, hne, fun hmem => hnot (List.mem_cons_of_mem _ hmem)⟩

/-! ## The file -/

/-- The IDs that the lines of a text use. -/
def usedIDs (text : String) : List Int := (tables text).map Prod.fst

/-- The IDs of other names from 100 on are all the IDs from 100 on if no line has the name. -/
theorem count_reservedIn (hno : ∀ t ∈ ts, t.2 ≠ tableName) (j : Int) (hj : mixTableIndex ≤ j) :
    (ts.map Prod.fst).count j = (sortInts (reservedIn ts tableName)).count j := by
  have hreserved : reservedIn ts tableName = (ts.map Prod.fst).filter (mixTableIndex ≤ ·) := by
    rw [List.filter_map, reservedIn]
    congr 1
    refine List.filter_congr fun t ht => ?_
    simp [hno t ht]
  rw [(sortInts_perm _).count_eq, hreserved, List.count_filter (by simpa using hj)]

/-- The numbers that `addTable` searches are from 100 on. -/
theorem le_of_mem_sorted : ∀ id ∈ sortInts (reservedIn ts tableName), mixTableIndex ≤ id := by
  intro id hid
  have hid := (sortInts_perm _).mem_iff.mp hid
  obtain ⟨t, ht, rfl⟩ := List.mem_map.mp hid
  have := (List.mem_filter.mp ht).2
  simp only [decide_eq_true_eq] at this
  exact this.2

/-- The search of `addTable` in terms of the IDs that the lines use. -/
theorem searchable_usedIDs_iff {text : String} (hno : ∀ t ∈ tables text, t.2 ≠ tableName) :
    Searchable mixTableIndex (usedIDs text) free ↔
      newID text tableName = free ∧ mixTableIndex ≤ free ∧ free ∉ usedIDs text := by
  have hcount := count_reservedIn hno
  have hsorted : Searchable mixTableIndex (usedIDs text) free ↔
      Searchable mixTableIndex (sortInts (reservedIn (tables text) tableName)) free :=
    ⟨Searchable.congr fun j hj => (hcount j hj).symm, Searchable.congr hcount⟩
  have hsearch := @searchable_iff free mixTableIndex _ (by decide)
    (sortInts_sorted (reservedIn (tables text) tableName)) le_of_mem_sorted
  constructor
  · intro h
    exact ⟨(hsearch.mp (hsorted.mp h)).1, h.le, h.not_mem⟩
  · rintro ⟨hid, hle, hnot⟩
    refine hsorted.mpr (hsearch.mpr ⟨hid, ?_, ?_⟩)
    · intro heq
      rw [heq] at hle
      exact absurd hle (by decide)
    · rw [← List.count_eq_zero, ← hcount free hle]
      exact List.count_eq_zero_of_not_mem hnot

/-- What is to be said of a `GetTableID` that adds a table: the text grows by a line of its own
whose ID is at least 100 and used by no line before. -/
structure AppendsFreshLine (text tableName : String) (result : System × Int × Option TableError) :
    Prop where
  le : mixTableIndex ≤ result.2.1
  fresh : result.2.1 ∉ usedIDs text
  written : result.1.rtTables = text ++ getTableLine result.2.1 tableName
  ownLine : lastLine text.toList = []

theorem append_getTableLine_ne (text tableName : String) (tableID : Int) :
    text ≠ text ++ getTableLine tableID tableName := by
  intro h
  have hlen := congrArg (fun s => s.toList.length) h
  simp [getTableLine] at hlen

/-- **A new table gets a free ID exactly if the scanner can read the file, the search by position
hits the least free number, and the file does not end inside a line.** -/
theorem getTableID_appends_iff (calls : Calls) (sys : System) (tableName subnet : String)
    (hopen : calls.openFile = none) (happend : calls.appendFile = none)
    (hno : ∀ t ∈ tables sys.rtTables, t.2 ≠ tableName) :
    AppendsFreshLine sys.rtTables tableName (getTableID calls sys tableName subnet true) ↔
      Readable sys.rtTables ∧ (∃ free, Searchable mixTableIndex (usedIDs sys.rtTables) free) ∧
        lastLine sys.rtTables.toList = [] := by
  by_cases hfits : Readable sys.rtTables
  swap
  · -- the error of the lookup leaves the file as it is
    refine iff_of_false ?_ fun h => hfits h.1
    intro h
    have hsame := (getTableID_unreadable calls sys tableName subnet true (Or.inr hfits)).1
    have hwritten := h.written
    rw [hsame] at hwritten
    exact append_getTableLine_ne _ _ _ hwritten
  rw [getTableID_added calls sys tableName subnet hopen hfits (foundIn_of_forall_ne hno)]
  constructor
  · intro h
    have hle := h.le
    have hfresh := h.fresh
    rw [addMissingRule_id] at hle hfresh
    exact ⟨hfits, ⟨_, (searchable_usedIDs_iff hno).mpr ⟨rfl, hle, hfresh⟩⟩, h.ownLine⟩
  · rintro ⟨-, ⟨free, hfree⟩, hown⟩
    obtain ⟨rfl, hle, hnot⟩ := (searchable_usedIDs_iff hno).mp hfree
    have hid : newID sys.rtTables tableName ≠ -1 := by
      intro heq
      rw [heq] at hle
      exact absurd hle (by decide)
    refine ⟨by rwa [addMissingRule_id], by rwa [addMissingRule_id], ?_, hown⟩
    rw [addMissingRule_rtTables, addMissingRule_id,
      addNewTable_rtTables calls sys tableName happend hid]

/-- A file with the tables of the system only: the first network gets the ID 100. -/
theorem getTableID_appends_first :
    AppendsFreshLine "255\tlocal\n254\tmain\n" "net"
      (getTableID (.allSucceed "rt_tables") ⟨"255\tlocal\n254\tmain\n", [], []⟩ "net"
        "10.0.0.0/24" true) := by
  refine (getTableID_appends_iff (.allSucceed "rt_tables") ⟨"255\tlocal\n254\tmain\n", [], []⟩
    "net" "10.0.0.0/24" rfl rfl (by decide)).mpr ⟨by decide, ⟨100, ?_⟩, by decide⟩
  have hused : usedIDs "255\tlocal\n254\tmain\n" = [255, 254] := by decide
  rw [hused]
  refine ⟨le_rfl, by decide, ?_, ?_, Or.inl ⟨255, by decide, by decide⟩⟩
  · intro j hj hlt
    exact absurd hlt (not_lt.mpr hj)
  · intro j hj hlt
    have hj : 100 ≤ j := hj
    omega

/-- With the ID 100 given to two names the new table shares the ID of a third one, and with the
IDs from 100 on all taken in a row there is no ID at all. -/
theorem getTableID_clashes :
    (getTableID (.allSucceed "rt_tables") ⟨"100\ta\n100\tb\n101\tc\n", [], []⟩ "d"
        "10.0.0.0/24" true).1.rtTables = "100\ta\n100\tb\n101\tc\n101\td\n" ∧
      101 ∈ usedIDs "100\ta\n100\tb\n101\tc\n" ∧
      (getTableID (.allSucceed "rt_tables") ⟨"100\ta\n", [], []⟩ "b" "10.0.0.0/24" true).2 =
        (-1, some .noAvailableID) := by
  decide

end MultiNicCni.Router
