import MultiNicCni.Daemon.RtTable

/-!
# The line of a routing table: written, read back, removed

`addTable` appends the line of a table to the end of the file as it is, the lookup splits lines at
white space, and `DeleteTable` cuts the first place out of the file where the text of the line
stands. The three fit together if

- no line becomes too long for the scanner (`Readable`);
- the text of the line does not stand earlier in the file, for instance as the end of a comment or
  of a longer ID (`OccursInside`);
- the file does not end inside a line. If it does, the line goes on from there, and this does no
  harm in three cases only (`HarmlessEnd`): the unfinished line is blank, or a plus sign or zeros that
  the ID continues; or it is the ID and a beginning of the name that the digits of the ID complete; or
  it takes the name away with the ID -1, and an earlier line gives it the new one.

The tables of the finished lines are the same before and after (`tables_eq`, `tables_append_line`),
so the lookups are compared on the last line alone, which is taken apart into the words before its
last white space and the open word after it (`tableOf_joined`). `joinsAs_iff` says which ID the name
has afterwards, `harmlessEnd_iff` when no other name notices, and `addTable_readsBack_iff` is the
result.
-/

namespace MultiNicCni.Router

open Go

variable {nameField line : List Char} {tableID id : Int} {tableName text : String}
  {ts : List (Int × String)}

/-! ## The line is read back -/

theorem isSpace_of_isDigit {c : Char} (h : c.isDigit = true) : isSpace c = false := by
  obtain ⟨d, hd, rfl, -⟩ := exists_digitChar h
  interval_cases d <;> rfl

section Entry

variable (h0 : 0 ≤ tableID)

include h0

theorem isDigit_of_mem_formatInt {c : Char} (hc : c ∈ formatInt 10 tableID) : c.isDigit = true := by
  obtain ⟨n, rfl⟩ := Int.eq_ofNat_of_zero_le h0
  exact Nat.isDigit_of_mem_toDigits (by omega) (by omega) hc

theorem parseInt_formatInt (hmax : tableID ≤ maxInt64) :
    parseInt 10 (formatInt 10 tableID) = (tableID, true) := by
  obtain ⟨n, rfl⟩ := Int.eq_ofNat_of_zero_le h0
  show parseInt 10 (Nat.toDigits 10 n) = _
  rw [parseInt_of_digits (parseDigits_toDigits n), parseInt.positive, if_pos hmax]

variable (hspace : ∀ c ∈ tableName.toList, isSpace c = false)

include hspace

theorem not_newline_mem_tableEntry : '\n' ∉ tableEntry tableID tableName := by
  intro hmem
  rcases List.mem_append.mp hmem with hin | hin
  · exact absurd (isDigit_of_mem_formatInt h0 hin) (by decide)
  · rcases List.mem_cons.mp hin with heq | hin
    · exact absurd heq (by decide)
    · exact absurd (hspace _ hin) (by decide)

/-- The entry alone is read as what it says. -/
theorem tableOf_tableEntry (hne : tableName ≠ "") (hmax : tableID ≤ maxInt64) :
    tableOf (tableEntry tableID tableName) = some (tableID, tableName) := by
  have hdigits := fun c hc => isDigit_of_mem_formatInt h0 (c := c) hc
  have hformat : formatInt 10 tableID ≠ [] := by
    obtain ⟨n, rfl⟩ := Int.eq_ofNat_of_zero_le h0
    exact Nat.toDigits_ne_nil
  have hname : tableName.toList ≠ [] := fun h => hne (String.toList_eq_nil_iff.mp h)
  have hfields : fields (tableEntry tableID tableName) =
      [formatInt 10 tableID, tableName.toList] := by
    rw [tableEntry, fields_append (by decide),
      fields_of_noSpace hformat fun c hc => isSpace_of_isDigit (hdigits c hc),
      fields_of_noSpace hname hspace]
    rfl
  have hcomment : '#' ∉ formatInt 10 tableID := fun hin => absurd (hdigits _ hin) (by decide)
  rw [tableOf, hfields]
  dsimp only
  rw [if_neg hcomment, parseInt_formatInt h0 hmax]
  dsimp only
  rw [String.ofList_toList]

end Entry

/-- A name that a lookup finds is a field. -/
theorem noSpace_of_foundIn (h : foundIn (tables text) tableName ≠ -1) :
    tableName ≠ "" ∧ ∀ c ∈ tableName.toList, isSpace c = false := by
  obtain ⟨t, ht, rfl⟩ : ∃ t ∈ tables text, t.2 = tableName := by
    by_contra hno
    exact h (foundIn_of_forall_ne fun t ht heq => hno ⟨t, ht, heq⟩)
  obtain ⟨line, -, hline⟩ := List.mem_filterMap.mp ht
  unfold tableOf at hline
  split at hline
  · next idField nameField rest hfields =>
    obtain ⟨hne, hspace⟩ := noSpace_of_mem_fields (s := line) (f := nameField) (by simp [hfields])
    split at hline
    · cases hline
    · split at hline
      · obtain rfl := Option.some.inj hline
        dsimp only
        rw [String.toList_ofList]
        refine ⟨fun hempty => hne ?_, hspace⟩
        rw [← String.toList_ofList (l := nameField), hempty]
        rfl
      · cases hline
  · cases hline

/-! ## Lookups before and after -/

/-- The tables of the lines that end in a newline. -/
def finishedTables (text : String) : List (Int × String) :=
  (endedLines text.toList).filterMap tableOf

theorem tables_eq (text : String) :
    tables text = finishedTables text ++ (tableOf (lastLine text.toList)).toList := by
  rw [tables, rawLines, List.filterMap_append, finishedTables]
  congr 1
  split
  · next hnil =>
    rw [hnil]
    rfl
  · cases h : tableOf (lastLine text.toList) <;> simp [h]

section Append

variable (hl : '\n' ∉ tableEntry tableID tableName)

include hl

theorem rawLines_append_getTableLine :
    rawLines (text ++ getTableLine tableID tableName).toList =
      endedLines text.toList ++ [lastLine text.toList ++ tableEntry tableID tableName] := by
  rw [String.toList_append, getTableLine, String.toList_ofList, rawLines_append_line hl]

theorem tables_append_line :
    tables (text ++ getTableLine tableID tableName) =
      finishedTables text ++
        (tableOf (lastLine text.toList ++ tableEntry tableID tableName)).toList := by
  rw [tables, rawLines_append_getTableLine hl, List.filterMap_append, finishedTables]
  rfl

/-- What is readable with one line more is readable without it. -/
theorem readable_of_append (h : Readable (text ++ getTableLine tableID tableName)) :
    Readable text := by
  rw [Readable, rawLines_append_getTableLine hl, List.all_append, Bool.and_eq_true] at h
  obtain ⟨hended, hlast⟩ := h
  rw [Readable, rawLines, List.all_append, Bool.and_eq_true]
  refine ⟨hended, ?_⟩
  split
  · rfl
  · have hsize : (String.ofList (lastLine text.toList ++ tableEntry tableID tableName)).utf8ByteSize
        < maxScanTokenSize := by
      simpa [fitsToken] using hlast
    rw [String.ofList_append, String.utf8ByteSize_append] at hsize
    simp only [List.all_cons, List.all_nil, Bool.and_true, fitsToken, decide_eq_true_eq]
    omega

end Append

theorem foundIn_append_none (ts : List (Int × String)) (tableName : String) :
    foundIn (ts ++ (none : Option (Int × String)).toList) tableName = foundIn ts tableName := by
  rw [Option.toList_none, List.append_nil]

theorem foundIn_append_some (ts : List (Int × String)) (t : Int × String) (tableName : String) :
    foundIn (ts ++ (some t).toList) tableName =
      if t.2 = tableName then t.1 else foundIn ts tableName :=
  foundIn_append_singleton ts t tableName

/-- A name has an ID from the last line, or the last line is not about the name. -/
theorem foundIn_append_eq {o : Option (Int × String)} :
    foundIn (ts ++ o.toList) tableName = id ↔ o = some (id, tableName) ∨
      (foundIn ts tableName = id ∧ ∀ t, o = some t → t.2 ≠ tableName) := by
  cases o with
  | none =>
    rw [foundIn_append_none]
    simp
  | some t =>
    rw [foundIn_append_some]
    by_cases hname : t.2 = tableName
    · rw [if_pos hname]
      constructor
      · rintro rfl
        exact Or.inl (by rw [← hname])
      · rintro (h | ⟨-, h⟩)
        · rw [Option.some.inj h]
        · exact absurd hname (h t rfl)
    · rw [if_neg hname]
      constructor
      · intro h
        refine Or.inr ⟨h, ?_⟩
        rintro t' ht'
        rwa [← Option.some.inj ht']
      · rintro (h | ⟨h, -⟩)
        · exact absurd (congrArg Prod.snd (Option.some.inj h)) hname
        · exact h

/-! ## An unfinished last line -/

/-- What a line says whose first fields are an ID and a name. -/
def fieldsTable (idField nameField : List Char) : Option (Int × String) :=
  if '#' ∈ idField then none
  else if (parseInt 10 idField).2 = true then
    some ((parseInt 10 idField).1, String.ofList nameField)
  else none

theorem tableOf_of_fields {idField : List Char} {rest : List (List Char)}
    (h : fields line = idField :: nameField :: rest) :
    tableOf line = fieldsTable idField nameField := by
  rw [tableOf, h, fieldsTable]
  dsimp only
  split
  · rfl
  · split
    · next hparse => simp [hparse]
    · next hparse => simp [hparse]

theorem tableOf_of_length (h : (fields line).length ≤ 1) : tableOf line = none := by
  unfold tableOf
  split
  · next heq =>
    rw [heq] at h
    simp at h
  · rfl

theorem fieldsTable_eq_some {idField : List Char} {name : String} :
    fieldsTable idField nameField = some (id, name) ↔
      '#' ∉ idField ∧ parseInt 10 idField = (id, true) ∧ nameField = name.toList := by
  unfold fieldsTable
  generalize parseInt 10 idField = r
  obtain ⟨value, ok⟩ := r
  have hname : String.ofList nameField = name ↔ nameField = name.toList := by
    constructor
    · rintro rfl
      rw [String.toList_ofList]
    · rintro rfl
      rw [String.ofList_toList]
  split
  · next hcomment => simp [hcomment]
  · next hcomment =>
    cases ok with
    | true => simp [hcomment, hname]
    | false => simp

theorem fieldsTable_of_parse {idField : List Char} (hcomment : '#' ∉ idField)
    (hparse : parseInt 10 idField = (id, true)) :
    fieldsTable idField nameField = some (id, String.ofList nameField) :=
  fieldsTable_eq_some.mpr ⟨hcomment, hparse, String.toList_ofList.symm⟩

/-- What a line says: its words up to its last white space, and its open word. -/
def lineTable : List (List Char) → List Char → Option (Int × String)
  | [], _ => none
  | [x], w => if w = [] then none else fieldsTable x w
  | x :: y :: _, _ => fieldsTable x y

/-- What it says with an entry at its end. -/
def joinedTable (tableID : Int) (tableName : String) :
    List (List Char) → List Char → Option (Int × String)
  | [], w => fieldsTable (w ++ formatInt 10 tableID) tableName.toList
  | [x], w => fieldsTable x (w ++ formatInt 10 tableID)
  | x :: y :: _, _ => fieldsTable x y

theorem tableOf_line (line : List Char) :
    tableOf line = lineTable (finishedWords line) (openWord line) := by
  have hfields := fields_eq line
  match finishedWords line, hfields with
  | [], hfields =>
    refine tableOf_of_length ?_
    rw [hfields]
    split <;> simp
  | [x], hfields =>
    rw [lineTable]
    split
    · next hnil =>
      refine tableOf_of_length ?_
      rw [hfields, if_pos hnil]
      simp
    · next hne =>
      rw [if_neg hne] at hfields
      exact tableOf_of_fields hfields
  | x :: y :: rest, hfields => exact tableOf_of_fields hfields

section Joined

variable (h0 : 0 ≤ tableID) (hmax : tableID ≤ maxInt64) (hne : tableName ≠ "")
  (hspace : ∀ c ∈ tableName.toList, isSpace c = false)

include h0 in
theorem formatInt_ne_nil : formatInt 10 tableID ≠ [] := by
  obtain ⟨n, rfl⟩ := Int.eq_ofNat_of_zero_le h0
  exact Nat.toDigits_ne_nil

include h0 hne hspace in
theorem tableOf_joined (line : List Char) :
    tableOf (line ++ tableEntry tableID tableName) =
      joinedTable tableID tableName (finishedWords line) (openWord line) := by
  have hname : tableName.toList ≠ [] := fun h => hne (String.toList_eq_nil_iff.mp h)
  have hfields := fields_append_words (show isSpace '\t' = true by decide) (formatInt_ne_nil h0)
    (fun c hc => isSpace_of_isDigit (isDigit_of_mem_formatInt h0 hc)) hname hspace line
  match finishedWords line, hfields with
  | [], hfields => exact tableOf_of_fields hfields
  | [x], hfields => exact tableOf_of_fields hfields
  | x :: y :: rest, hfields => exact tableOf_of_fields hfields

/-- The unfinished last lines that do no harm. -/
inductive HarmlessEnd (ts : List (Int × String)) (line : List Char) (tableID : Int)
    (tableName : String) : Prop
  /-- white space, and then a plus sign and zeros, or zeros, or nothing: the ID continues them -/
  | padded {k : Nat} : finishedWords line = [] →
      openWord line = List.replicate k '0' ∨ openWord line = '+' :: List.replicate k '0' →
      HarmlessEnd ts line tableID tableName
  /-- the ID and a beginning of the name that the digits of the ID complete, which is empty or a
  name of which an earlier line says the same -/
  | completed {x : List Char} : finishedWords line = [x] → '#' ∉ x →
      parseInt 10 x = (tableID, true) → openWord line ++ formatInt 10 tableID = tableName.toList →
      openWord line = [] ∨ foundIn ts (String.ofList (openWord line)) = tableID →
      HarmlessEnd ts line tableID tableName
  /-- the name with the ID -1, though an earlier line gives it the ID; what the line becomes is the
  same about a name that no line has -/
  | uncovered {x : List Char} : finishedWords line = [x] → '#' ∉ x → parseInt 10 x = (-1, true) →
      openWord line = tableName.toList → foundIn ts tableName = tableID →
      foundIn ts (String.ofList (tableName.toList ++ formatInt 10 tableID)) = -1 →
      HarmlessEnd ts line tableID tableName

/-- If the name has an ID before the last line and none after it, the last line says -1. -/
theorem eq_neg_one_of_foundIn {old : Option (Int × String)} (hid : tableID ≠ -1)
    (hold : foundIn (ts ++ old.toList) tableName = -1) (hbefore : foundIn ts tableName = tableID) :
    old = some (-1, tableName) := by
  rcases foundIn_append_eq.mp hold with hline | ⟨hnone, -⟩
  · exact hline
  · exact absurd (hbefore.symm.trans hnone) hid

/-- The ID that a new name has once its entry stands at the end of a line. -/
inductive JoinsAs (ts : List (Int × String)) (line : List Char) (tableID : Int)
    (tableName : String) : Int → Prop
  /-- what is in front of the ID is read with it -/
  | padded {id : Int} : finishedWords line = [] → '#' ∉ openWord line →
      parseInt 10 (openWord line ++ formatInt 10 tableID) = (id, true) →
      JoinsAs ts line tableID tableName id
  /-- the line has an ID already, and a beginning of the name that the digits of the new ID
  complete -/
  | completed {id : Int} {x : List Char} : finishedWords line = [x] → '#' ∉ x →
      parseInt 10 x = (id, true) → openWord line ++ formatInt 10 tableID = tableName.toList →
      JoinsAs ts line tableID tableName id
  /-- the line does no longer take the name away -/
  | uncovered {id : Int} {x : List Char} : finishedWords line = [x] → '#' ∉ x →
      parseInt 10 x = (-1, true) → openWord line = tableName.toList →
      foundIn ts tableName = id → JoinsAs ts line tableID tableName id

theorem joinsAs_iff (h0 : 0 ≤ tableID) (hid : id ≠ -1)
    (hold : foundIn (ts ++ (lineTable (finishedWords line) (openWord line)).toList) tableName = -1) :
    foundIn (ts ++ (joinedTable tableID tableName (finishedWords line)
        (openWord line)).toList) tableName = id ↔ JoinsAs ts line tableID tableName id := by
  have hcases := @foundIn_append_eq id tableName ts
    (joinedTable tableID tableName (finishedWords line) (openWord line))
  constructor
  · intro hfound
    rcases hcases.mp hfound with hnew | ⟨hbefore, -⟩
    · match hwords : finishedWords line with
      | [] =>
        rw [hwords] at hnew
        obtain ⟨hcomment, hparse, -⟩ := fieldsTable_eq_some.mp hnew
        exact .padded hwords (fun hin => hcomment (List.mem_append_left _ hin)) hparse
      | [x] =>
        rw [hwords] at hnew
        obtain ⟨hcomment, hparse, hname⟩ := fieldsTable_eq_some.mp hnew
        exact .completed hwords hcomment hparse hname
      | x :: y :: rest =>
        rw [hwords] at hnew hold
        have hsame : lineTable (x :: y :: rest) (openWord line) = some (id, tableName) := hnew
        rw [hsame, foundIn_append_some, if_pos rfl] at hold
        exact absurd hold hid
    · have hline := eq_neg_one_of_foundIn hid hold hbefore
      match hwords : finishedWords line with
      | [] =>
        rw [hwords] at hline
        cases hline
      | [x] =>
        rw [hwords, lineTable] at hline
        split at hline
        · cases hline
        · obtain ⟨hcomment, hparse, hname⟩ := fieldsTable_eq_some.mp hline
          exact .uncovered hwords hcomment hparse hname hbefore
      | x :: y :: rest =>
        have hsame : joinedTable tableID tableName (finishedWords line) (openWord line) =
            lineTable (finishedWords line) (openWord line) := by
          rw [hwords]
          rfl
        rw [hsame, hold] at hfound
        exact absurd hfound.symm hid
  · intro h
    refine hcases.mpr ?_
    cases h with
    | padded hwords hcomment hparse =>
      rw [hwords]
      refine Or.inl (fieldsTable_eq_some.mpr ⟨?_, hparse, rfl⟩)
      rw [List.mem_append, not_or]
      exact ⟨hcomment, fun hin => absurd (isDigit_of_mem_formatInt h0 hin) (by decide)⟩
    | completed hwords hcomment hparse hname =>
      rw [hwords]
      exact Or.inl (fieldsTable_eq_some.mpr ⟨hcomment, hparse, hname⟩)
    | uncovered hwords hcomment hparse hname hbefore =>
      rw [hwords]
      refine Or.inr ⟨hbefore, ?_⟩
      rintro ⟨id', name⟩ hnew rfl
      obtain ⟨-, -, hname'⟩ := fieldsTable_eq_some.mp hnew
      rw [hname] at hname'
      exact formatInt_ne_nil h0 (List.append_right_eq_self.mp hname')

include hmax hne in
/-- The last line is harmless exactly if the name is found and no other name notices. -/
theorem harmlessEnd_iff (hpos : 0 < tableID)
    (hold : foundIn (ts ++ (lineTable (finishedWords line) (openWord line)).toList) tableName = -1) :
    (foundIn (ts ++ (joinedTable tableID tableName (finishedWords line)
        (openWord line)).toList) tableName = tableID ∧
      ∀ other, other ≠ tableName →
        foundIn (ts ++ (joinedTable tableID tableName (finishedWords line)
            (openWord line)).toList) other =
          foundIn (ts ++ (lineTable (finishedWords line) (openWord line)).toList) other) ↔
      HarmlessEnd ts line tableID tableName := by
  rw [joinsAs_iff hpos.le (show tableID ≠ -1 by omega) hold]
  have hlonger : String.ofList (tableName.toList ++ formatInt 10 tableID) ≠ tableName := by
    intro heq
    have hlist := congrArg String.toList heq
    rw [String.toList_ofList] at hlist
    exact formatInt_ne_nil hpos.le (List.append_right_eq_self.mp hlist)
  have hcompleted : ∀ {x : List Char}, finishedWords line = [x] → '#' ∉ x →
      parseInt 10 x = (tableID, true) → openWord line ++ formatInt 10 tableID = tableName.toList →
      joinedTable tableID tableName (finishedWords line) (openWord line) =
        some (tableID, tableName) := by
    intro x hwords hcomment hparse hname
    rw [hwords, joinedTable, fieldsTable_of_parse hcomment hparse, hname, String.ofList_toList]
  -- a last line that takes the name away takes away a longer name afterwards
  have huncovered : ∀ {x : List Char}, finishedWords line = [x] → '#' ∉ x →
      parseInt 10 x = (-1, true) → openWord line = tableName.toList →
      lineTable (finishedWords line) (openWord line) = some (-1, tableName) ∧
        joinedTable tableID tableName (finishedWords line) (openWord line) =
          some (-1, String.ofList (tableName.toList ++ formatInt 10 tableID)) := by
    intro x hwords hcomment hparse hname
    have hopen : tableName.toList ≠ [] := fun hnil => hne (String.toList_eq_nil_iff.mp hnil)
    rw [hwords, hname, lineTable, joinedTable, if_neg hopen, fieldsTable_of_parse hcomment hparse,
      fieldsTable_of_parse hcomment hparse, String.ofList_toList]
    exact ⟨rfl, rfl⟩
  constructor
  · rintro ⟨hown, hothers⟩
    cases hown with
    | padded hwords _ hparse =>
      obtain ⟨k, hk⟩ := (parseInt_append_formatInt_iff hpos hmax).mp hparse
      exact .padded hwords hk
    | completed hwords hcomment hparse hname =>
      refine .completed hwords hcomment hparse hname ?_
      by_cases hopen : openWord line = []
      · exact Or.inl hopen
      · right
        have hother : String.ofList (openWord line) ≠ tableName := by
          rintro rfl
          rw [String.toList_ofList] at hname
          exact formatInt_ne_nil hpos.le (List.append_right_eq_self.mp hname)
        have hsame := hothers _ hother
        rwa [hcompleted hwords hcomment hparse hname, hwords, lineTable, if_neg hopen,
          fieldsTable_of_parse hcomment hparse, foundIn_append_some, if_neg hother.symm,
          foundIn_append_some, if_pos rfl] at hsame
    | uncovered hwords hcomment hparse hname hbefore =>
      obtain ⟨hline, hnew⟩ := huncovered hwords hcomment hparse hname
      have hsame := hothers _ hlonger
      rw [hline, hnew, foundIn_append_some, if_pos rfl, foundIn_append_some,
        if_neg hlonger.symm] at hsame
      exact .uncovered hwords hcomment hparse hname hbefore hsame.symm
  · intro h
    cases h with
    | @padded k hwords hopen =>
      have hparse := (parseInt_append_formatInt_iff hpos hmax).mpr ⟨k, hopen⟩
      have hcomment : '#' ∉ openWord line := by
        rcases hopen with hopen | hopen
        · rw [hopen]
          exact fun hin => absurd (List.eq_of_mem_replicate hin) (by decide)
        · rw [hopen, List.mem_cons, not_or]
          exact ⟨by decide, fun hin => absurd (List.eq_of_mem_replicate hin) (by decide)⟩
      have hentry : '#' ∉ openWord line ++ formatInt 10 tableID := by
        rw [List.mem_append, not_or]
        exact ⟨hcomment, fun hin => absurd (isDigit_of_mem_formatInt hpos.le hin) (by decide)⟩
      refine ⟨.padded hwords hcomment hparse, fun other hother => ?_⟩
      rw [hwords, lineTable, joinedTable, fieldsTable_of_parse hentry hparse, String.ofList_toList,
        foundIn_append_none, foundIn_append_some, if_neg hother.symm]
    | completed hwords hcomment hparse hname hopen =>
      refine ⟨.completed hwords hcomment hparse hname, fun other hother => ?_⟩
      rw [hcompleted hwords hcomment hparse hname, foundIn_append_some, if_neg hother.symm, hwords,
        lineTable]
      split
      · rw [foundIn_append_none]
      · next hne =>
        rw [fieldsTable_of_parse hcomment hparse, foundIn_append_some]
        split
        · next heq =>
          rw [← heq]
          exact hopen.resolve_left hne
        · rfl
    | uncovered hwords hcomment hparse hname hbefore hfree =>
      obtain ⟨hline, hnew⟩ := huncovered hwords hcomment hparse hname
      refine ⟨.uncovered hwords hcomment hparse hname hbefore, fun other hother => ?_⟩
      rw [hline, hnew, foundIn_append_some, foundIn_append_some, if_neg hother.symm]
      split
      · next heq =>
        rw [← heq, hfree]
      · rfl

end Joined

/-! ## The result -/

/-- The state after `addTable` against the one before. -/
structure ReadsBack (calls : Calls) (sys sys' : System) (tableID : Int) (tableName : String) :
    Prop where
  own : lookup calls sys'.rtTables tableName = (tableID, none)
  others : ∀ other, other ≠ tableName →
    lookup calls sys'.rtTables other = lookup calls sys.rtTables other
  restored : (deleteTable calls sys' tableName tableID).1.rtTables = sys.rtTables

/-- The line stands in the text with something after it. -/
def OccursInside (line text : String) : Prop := ∃ u v, v ≠ "" ∧ text = u ++ (line ++ v)

section Result

variable (h0 : 0 ≤ tableID) (hmax : tableID ≤ maxInt64) (hne : tableName ≠ "")
  (hspace : ∀ c ∈ tableName.toList, isSpace c = false)

include h0 hmax hne hspace

/-- A text that ends in the whole line has the name. -/
theorem foundIn_of_ends_in_line {t : List Char}
    (htext : text.toList = t ++ ('\n' :: (tableEntry tableID tableName ++ ['\n']))) :
    foundIn (tables text) tableName = tableID := by
  have hl := not_newline_mem_tableEntry h0 hspace
  have hlines : rawLines text.toList =
      endedLines (t ++ ['\n']) ++ [tableEntry tableID tableName] := by
    rw [htext, show t ++ ('\n' :: (tableEntry tableID tableName ++ ['\n'])) =
      (t ++ ['\n']) ++ (tableEntry tableID tableName ++ ['\n']) by simp, rawLines_append_line hl,
      lastLine_append_newline, List.nil_append]
  rw [tables, hlines, List.filterMap_append,
    List.filterMap_cons_some (tableOf_tableEntry h0 hspace hne hmax), List.filterMap_nil,
    foundIn_append_singleton, if_pos rfl]

/-- The line is cut out again exactly if it stands nowhere before. -/
theorem withoutTable_append_iff (hfound : foundIn (tables text) tableName ≠ tableID) :
    withoutTable (text ++ getTableLine tableID tableName) tableID tableName = text ↔
      ¬ OccursInside (getTableLine tableID tableName) text := by
  have hl := not_newline_mem_tableEntry h0 hspace
  have hwhole : ∀ t, text.toList ≠ t ++ ('\n' :: (tableEntry tableID tableName ++ ['\n'])) :=
    fun t htext => hfound (foundIn_of_ends_in_line h0 hmax hne hspace htext)
  have hremoved := removeFirst_append_line hl hwhole
  have hleft : withoutTable (text ++ getTableLine tableID tableName) tableID tableName = text ↔
      removeFirst (tableEntry tableID tableName ++ ['\n'])
        (text.toList ++ (tableEntry tableID tableName ++ ['\n'])) = text.toList := by
    rw [withoutTable, String.toList_append, getTableLine, String.toList_ofList]
    constructor
    · intro h
      rw [← String.toList_ofList (l := removeFirst _ _), h]
    · intro h
      rw [h, String.ofList_toList]
  rw [hleft, hremoved]
  constructor
  · rintro honce ⟨u, v, hv, htext⟩
    refine hv (String.toList_eq_nil_iff.mp (honce u.toList v.toList ?_))
    rw [htext, String.toList_append, String.toList_append, getTableLine, String.toList_ofList]
  · intro hnot u v htext
    by_contra hv
    refine hnot ⟨String.ofList u, String.ofList v, ?_, ?_⟩
    · intro hempty
      exact hv (by rw [← String.toList_ofList (l := v), hempty]; rfl)
    · rw [getTableLine, ← String.ofList_append, ← String.ofList_append, ← htext,
        String.ofList_toList]

/-- The result for a state whose text has the line appended. -/
theorem readsBack_iff {calls : Calls} (hworks : calls.FilesWork) {sys sys' : System}
    (hpos : 0 < tableID) (hfound : (lookup calls sys.rtTables tableName).1 = -1)
    (htext : sys'.rtTables = sys.rtTables ++ getTableLine tableID tableName) :
    ReadsBack calls sys sys' tableID tableName ↔
      Readable (sys.rtTables ++ getTableLine tableID tableName) ∧
        ¬ OccursInside (getTableLine tableID tableName) sys.rtTables ∧
        HarmlessEnd (finishedTables sys.rtTables) (lastLine sys.rtTables.toList) tableID
          tableName := by
  have hid : tableID ≠ -1 := by omega
  have hl := not_newline_mem_tableEntry h0 hspace
  by_cases hfits : Readable (sys.rtTables ++ getTableLine tableID tableName)
  swap
  · -- the scanner stops, and the lookup of the name is an error
    refine iff_of_false ?_ fun h => hfits h.1
    intro h
    have hown := congrArg Prod.snd h.own
    rw [htext] at hown
    have herr := getTableIDAndReservedIDs_err hworks.openFile hfits tableName
    exact absurd (herr.symm.trans hown) (by simp)
  have hbefore := readable_of_append hl hfits
  rw [lookup_of_fits hworks.openFile hbefore] at hfound
  have hfound : foundIn (tables sys.rtTables) tableName = -1 := hfound
  have hold : foundIn (finishedTables sys.rtTables ++
      (tableOf (lastLine sys.rtTables.toList)).toList) tableName = -1 := by
    rw [← tables_eq]
    exact hfound
  rw [tableOf_line] at hold
  have hharmless := harmlessEnd_iff hmax hne hpos hold
  rw [← tableOf_line, ← tableOf_joined h0 hne hspace] at hharmless
  have hother : foundIn (tables sys.rtTables) tableName ≠ tableID := by
    rw [hfound]
    exact hid.symm
  have hremoved := withoutTable_append_iff h0 hmax hne hspace hother
  constructor
  · intro h
    have hown := h.own
    rw [htext, lookup_of_fits hworks.openFile hfits, tables_append_line hl] at hown
    have hrestored := h.restored
    rw [deleteTable_rtTables hworks, htext] at hrestored
    refine ⟨hfits, hremoved.mp hrestored, hharmless.mp ⟨(Prod.mk.inj hown).1, ?_⟩⟩
    intro other hother
    have hsame := h.others other hother
    rw [htext, lookup_of_fits hworks.openFile hfits, lookup_of_fits hworks.openFile hbefore,
      tables_append_line hl, tables_eq] at hsame
    exact (Prod.mk.inj hsame).1
  · rintro ⟨-, hnot, hjoin⟩
    obtain ⟨hown, hothers⟩ := hharmless.mpr hjoin
    refine ⟨?_, ?_, ?_⟩
    · rw [htext, lookup_of_fits hworks.openFile hfits, tables_append_line hl, hown]
    · intro other hother
      rw [htext, lookup_of_fits hworks.openFile hfits, lookup_of_fits hworks.openFile hbefore,
        tables_append_line hl, tables_eq, hothers other hother]
    · rw [deleteTable_rtTables hworks, htext]
      exact hremoved.mpr hnot

end Result

/-- **After `addTable` has written a line, the name has its ID, no other name notices, and
`DeleteTable` restores the file, exactly if** all lines fit the scanner, the text of the line does
not stand in the file before, and the file did not end inside a line, or in one that does no harm. -/
theorem addTable_readsBack_iff (calls : Calls) (hworks : calls.FilesWork) (sys sys' : System)
    (tableName : String) (reservedIDs : List Int) (tableID : Int) (err : Option TableError)
    (hne : tableName ≠ "") (hspace : ∀ c ∈ tableName.toList, isSpace c = false)
    (hfound : (lookup calls sys.rtTables tableName).1 = -1)
    (hadd : addTable calls sys tableName reservedIDs = (sys', tableID, err))
    (hid : tableID ≠ -1) (hmax : tableID ≤ maxInt64) :
    ReadsBack calls sys sys' tableID tableName ↔
      Readable (sys.rtTables ++ getTableLine tableID tableName) ∧
        ¬ OccursInside (getTableLine tableID tableName) sys.rtTables ∧
        (lastLine sys.rtTables.toList = [] ∨
          HarmlessEnd (finishedTables sys.rtTables) (lastLine sys.rtTables.toList) tableID
            tableName) := by
  have hsearch : searchID mixTableIndex (sortInts reservedIDs) = tableID := by
    rw [← addTable_id calls sys tableName, hadd]
  have hpos : 0 < tableID := by
    have hup := le_searchID (sortInts reservedIDs) mixTableIndex (by rw [hsearch]; exact hid)
    rw [hsearch] at hup
    exact lt_of_lt_of_le (by decide) hup
  have htext : sys'.rtTables = sys.rtTables ++ getTableLine tableID tableName := by
    have hwritten := addTable_rtTables calls sys tableName hworks.appendFile reservedIDs
      (by rw [hsearch]; exact hid)
    rw [hadd, hsearch] at hwritten
    exact hwritten
  rw [readsBack_iff hpos.le hmax hne hspace hworks hpos hfound htext, or_iff_right_of_imp]
  -- a file that ends in a newline is one case of a harmless end
  intro hended
  rw [hended]
  exact .padded (k := 0) rfl (Or.inl rfl)

/-- In a file of finished lines a new table is added and removed without a trace. -/
theorem addTable_readsBack_first :
    ReadsBack (.allSucceed "rt_tables") ⟨"255\tlocal\n", [], []⟩
      ⟨"255\tlocal\n100\tnet\n", [], []⟩ 100 "net" := by
  have hspace : ("net" : String).toList.all (fun c => isSpace c == false) = true := by decide
  refine (addTable_readsBack_iff (.allSucceed "rt_tables") ⟨rfl, rfl, rfl, rfl, rfl⟩
    ⟨"255\tlocal\n", [], []⟩ ⟨"255\tlocal\n100\tnet\n", [], []⟩ "net" [255] 100
    (some (.addTable none "rt_tables")) (by decide)
    (fun c hc => beq_iff_eq.mp (List.all_eq_true.mp hspace c hc)) (by decide) (by decide)
    (by decide) (by decide)).mpr ⟨by decide, ?_, Or.inl (by decide)⟩
  rintro ⟨u, v, hv, htext⟩
  have hone : '1' ∈ ("255\tlocal\n" : String).toList := by
    rw [show "255\tlocal\n" = u ++ (getTableLine 100 "net" ++ v) from htext, String.toList_append,
      String.toList_append]
    exact List.mem_append_right _ (List.mem_append_left _ (by decide))
  exact absurd hone (by decide)

/-- A file that ends inside a line: the new name is not found, and the name of the last line is
lost. A comment that ends as the line does: it is cut out in place of the line. -/
theorem addTable_loses_line :
    (addTable (.allSucceed "rt_tables") ⟨"101\tfoo", [], []⟩ "net" [101]).1.rtTables =
        "101\tfoo100\tnet\n" ∧
      lookup (.allSucceed "rt_tables") "101\tfoo100\tnet\n" "net" = (-1, none) ∧
      lookup (.allSucceed "rt_tables") "101\tfoo" "foo" = (101, none) ∧
      lookup (.allSucceed "rt_tables") "101\tfoo100\tnet\n" "foo" = (-1, none) ∧
      (addTable (.allSucceed "rt_tables") ⟨"#100\tnet\n101\tfoo\n", [], []⟩ "net" [101]).1.rtTables =
        "#100\tnet\n101\tfoo\n100\tnet\n" ∧
      (deleteTable (.allSucceed "rt_tables") ⟨"#100\tnet\n101\tfoo\n100\tnet\n", [], []⟩ "net"
        100).1.rtTables = "#101\tfoo\n100\tnet\n" := by
  decide

end MultiNicCni.Router
