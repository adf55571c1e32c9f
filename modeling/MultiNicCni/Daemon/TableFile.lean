import MultiNicCni.Daemon.TableLine
import MultiNicCni.Daemon.TableSearch

/-!
# The file of routing tables with lines of networks

The daemon only ever adds and removes whole lines of networks. From a file that does not mention the
networks (`BaseFile`), the file is therefore always that file and one line for each network that has
a table (`fileText`), with numbers that are all different (`Entries`).

- `newID_free`: the number that the search by position finds is free in such a file, and small
  enough to be read back;
- `tables_fileText`, `foundIn_of_entry`: the lines are read as they were written;
- `withoutTable_fileText`: **the line of a network is cut out of the file, and nothing else.**
-/

namespace MultiNicCni.Router

open Go

variable {id : Int} {name : String}

/-! ## The file -/

/-- A name that a network can have. -/
structure IsName (name : String) : Prop where
  ne : name ≠ ""
  noSpace : ∀ c ∈ name.toList, isSpace c = false
  short : name.utf8ByteSize ≤ 253

/-- The file with a line for each of the networks. -/
def fileText (base : String) (entries : List (Int × String)) : String :=
  String.ofList (base.toList ++ unlines (entries.map fun e => tableEntry e.1 e.2))

/-- A file of finished lines that does not mention the networks. -/
structure BaseFile (names : String → Prop) (base : String) : Prop where
  isName : ∀ name, names name → IsName name
  ended : lastLine base.toList = []
  readable : Readable base
  /-- no number of a network's range is given twice -/
  ids : ((usedIDs base).filter fun id => mixTableIndex ≤ id).Nodup
  unlisted : ∀ t ∈ tables base, ¬ names t.2
  /-- no line, comments included, ends as the line of a network does -/
  unnamed : ∀ line ∈ endedLines base.toList, ∀ name, names name → ¬ '\t' :: name.toList <:+ line

/-- The lines of the networks: one for each name, and no number twice in the file. -/
structure Entries (names : String → Prop) (base : String) (entries : List (Int × String)) :
    Prop where
  named : ∀ e ∈ entries, names e.2
  once : (entries.map Prod.snd).Nodup
  ids : ((usedIDs base ++ entries.map Prod.fst).filter fun id => mixTableIndex ≤ id).Nodup
  range : ∀ e ∈ entries, mixTableIndex ≤ e.1 ∧ e.1 ≤ maxInt64

section File

variable {base : String} {entries : List (Int × String)}

theorem fileText_nil : fileText base [] = base := by
  simp [fileText, unlines]

theorem fileText_concat (e : Int × String) :
    fileText base (entries ++ [e]) = fileText base entries ++ getTableLine e.1 e.2 := by
  rw [fileText, fileText, getTableLine, ← String.ofList_append, List.map_append, unlines_append,
    List.append_assoc]
  simp [unlines]

theorem lastLine_fileText (hended : lastLine base.toList = []) (entries : List (Int × String)) :
    lastLine (fileText base entries).toList = [] := by
  induction entries using List.reverseRecOn with
  | nil => rwa [fileText_nil]
  | append_singleton entries e ih =>
    rw [fileText_concat, String.toList_append, getTableLine, String.toList_ofList,
      ← List.append_assoc, lastLine_append_newline]

/-- A number has 19 digits at most. -/
theorem length_formatInt (h0 : 0 ≤ id) (hmax : id ≤ maxInt64) : (formatInt 10 id).length ≤ 19 := by
  obtain ⟨n, rfl⟩ := Int.eq_ofNat_of_zero_le h0
  refine Nat.toDigits_length 10 n 19 (by decide) ?_
  have : (n : Int) ≤ 2 ^ 63 - 1 := hmax
  omega

theorem utf8ByteSize_of_digits {l : List Char} (h : ∀ c ∈ l, c.isDigit = true) :
    (String.ofList l).utf8ByteSize = l.length := by
  induction l with
  | nil => rfl
  | cons c l ih =>
    obtain ⟨hc, hl⟩ := List.forall_mem_cons.mp h
    obtain ⟨d, hd, rfl, -⟩ := exists_digitChar hc
    have hsize : (String.ofList [d.digitChar]).utf8ByteSize = 1 := by
      interval_cases d <;> rfl
    rw [show d.digitChar :: l = [d.digitChar] ++ l from rfl, String.ofList_append,
      String.utf8ByteSize_append, hsize, ih hl, List.length_append]
    rfl

/-- The line of a network fits into the buffer of the scanner. -/
theorem fitsToken_tableEntry (hname : IsName name) (h0 : 0 ≤ id) (hmax : id ≤ maxInt64) :
    fitsToken (tableEntry id name) = true := by
  have hdigits := utf8ByteSize_of_digits fun c hc => isDigit_of_mem_formatInt h0 (c := c) hc
  have hlen := length_formatInt h0 hmax
  have hshort := hname.short
  have hsize : (String.ofList (tableEntry id name)).utf8ByteSize =
      (formatInt 10 id).length + (1 + name.utf8ByteSize) := by
    rw [tableEntry, show '\t' :: name.toList = ['\t'] ++ name.toList from rfl,
      String.ofList_append, String.ofList_append, String.utf8ByteSize_append,
      String.utf8ByteSize_append, hdigits, String.ofList_toList]
    rfl
  rw [fitsToken, decide_eq_true_eq, hsize]
  unfold maxScanTokenSize
  omega

end File

/-! ## Numbers -/

/-- A number that is read is an `int64`. -/
theorem parseInt_le {s : List Char} (h : parseInt 10 s = (id, true)) : id ≤ maxInt64 := by
  have hpositive : ∀ o, parseInt.positive o = (id, true) → id ≤ maxInt64 := by
    intro o ho
    unfold parseInt.positive at ho
    split at ho
    · cases ho
    · split at ho
      · next hle =>
        cases ho
        exact hle
      · cases ho
  unfold parseInt at h
  split at h
  · split at h
    · cases h
    · split at h
      · cases h
        unfold maxInt64
        omega
      · cases h
  · exact hpositive _ h
  · exact hpositive _ h

theorem usedIDs_le {text : String} (h : id ∈ usedIDs text) : id ≤ maxInt64 := by
  obtain ⟨t, ht, rfl⟩ := List.mem_map.mp h
  obtain ⟨line, -, hline⟩ := List.mem_filterMap.mp ht
  unfold tableOf at hline
  split at hline
  · split at hline
    · cases hline
    · split at hline
      · next hparse =>
        cases hline
        exact parseInt_le hparse
      · cases hline
  · cases hline

/-- In a list without repetition the search by position ends at a number that is free, with a larger
one in the list; or it finds none. -/
theorem searchID_free {a : Int} {xs : List Int} (hs : xs.Pairwise (· < ·)) (hge : ∀ x ∈ xs, a ≤ x) :
    searchID a xs = -1 ∨ (searchID a xs ∉ xs ∧ ∃ x ∈ xs, searchID a xs < x) := by
  induction xs generalizing a with
  | nil => exact Or.inl rfl
  | cons x rest ih =>
    obtain ⟨hx, hrest⟩ := List.pairwise_cons.mp hs
    have hax := hge x List.mem_cons_self
    rw [searchID]
    split
    · next hne =>
      have hlt : a < x := by omega
      refine Or.inr ⟨?_, x, List.mem_cons_self, hlt⟩
      rw [List.mem_cons, not_or]
      exact ⟨hne, fun hin => by have := hx a hin; omega⟩
    · next heq =>
      obtain rfl : a = x := not_not.mp heq
      by_cases hnone : searchID (a + 1) rest = -1
      · exact Or.inl hnone
      · have hup := le_searchID rest (a + 1) hnone
        obtain ⟨hnot, y, hy, hlt⟩ :=
          (ih hrest fun y hy => by have := hx y hy; omega).resolve_left hnone
        refine Or.inr ⟨?_, y, List.mem_cons_of_mem _ hy, hlt⟩
        rw [List.mem_cons, not_or]
        exact ⟨by omega, hnot⟩

/-- The number of a new table is free, if the numbers in the file are all different. -/
theorem newID_free {text : String} (hno : ∀ t ∈ tables text, t.2 ≠ name)
    (hids : ((usedIDs text).filter fun id => mixTableIndex ≤ id).Nodup) (hid : newID text name ≠ -1) :
    mixTableIndex ≤ newID text name ∧ newID text name ≤ maxInt64 ∧
      newID text name ∉ usedIDs text := by
  have hcount := count_reservedIn hno
  have hnodup : (sortInts (reservedIn (tables text) name)).Nodup := by
    rw [List.nodup_iff_count_le_one]
    intro j
    by_cases hj : j ∈ sortInts (reservedIn (tables text) name)
    · have hle := le_of_mem_sorted j hj
      have hone := List.nodup_iff_count_le_one.mp hids j
      rw [List.count_filter (by simpa using hle)] at hone
      rw [← hcount j hle]
      exact hone
    · rw [List.count_eq_zero_of_not_mem hj]
      exact Nat.zero_le 1
  have hsorted : (sortInts (reservedIn (tables text) name)).Pairwise (· < ·) :=
    ((sortInts_sorted _).and hnodup).imp fun h => lt_of_le_of_ne h.1 h.2
  have hle := le_searchID _ mixTableIndex hid
  obtain ⟨hnot, y, hy, hlt⟩ := (searchID_free hsorted le_of_mem_sorted).resolve_left hid
  have hused : ∀ j, mixTableIndex ≤ j →
      (j ∈ usedIDs text ↔ j ∈ sortInts (reservedIn (tables text) name)) := by
    intro j hj
    rw [← List.count_pos_iff, ← List.count_pos_iff, usedIDs, hcount j hj]
  have hmax := usedIDs_le ((hused y (le_of_mem_sorted y hy)).mpr hy)
  have hlt : newID text name < y := hlt
  exact ⟨hle, by omega, fun hin => hnot ((hused _ hle).mp hin)⟩

/-! ## Lookups -/

theorem foundIn_of_mem {ts : List (Int × String)} (hmem : (id, name) ∈ ts)
    (honly : ∀ t ∈ ts, t.2 = name → t.1 = id) : foundIn ts name = id := by
  have hsome : (ts.reverse.find? fun t => t.2 = name).isSome = true := by
    rw [List.find?_isSome]
    exact ⟨(id, name), List.mem_reverse.mpr hmem, by simp⟩
  obtain ⟨t, ht⟩ := Option.isSome_iff_exists.mp hsome
  have hname := List.find?_some ht
  rw [foundIn, ht]
  exact honly t (List.mem_reverse.mp (List.mem_of_find?_eq_some ht)) (by simpa using hname)

/-- The lookup of a name does not read the lines of another one. -/
theorem foundIn_filter (ts : List (Int × String)) {other : String} (hne : other ≠ name) :
    foundIn (ts.filter fun t => t.2 ≠ name) other = foundIn ts other := by
  rw [foundIn, foundIn, ← List.filter_reverse, List.find?_filter]
  congr 3
  funext t
  by_cases h : t.2 = other
  · simp [h, hne]
  · simp [h]

section Network

variable {names : String → Prop} {base : String} {entries : List (Int × String)}

theorem Entries.nil (hbase : BaseFile names base) : Entries names base [] where
  named e he := absurd he List.not_mem_nil
  once := List.nodup_nil
  ids := by simpa using hbase.ids
  range e he := absurd he List.not_mem_nil

/-- Lines may go. -/
theorem Entries.sublist (h : Entries names base entries) {kept : List (Int × String)}
    (hsub : kept.Sublist entries) : Entries names base kept where
  named e he := h.named e (hsub.mem he)
  once := h.once.sublist (hsub.map _)
  ids := h.ids.sublist (((List.Sublist.refl _).append (hsub.map _)).filter _)
  range e he := h.range e (hsub.mem he)

theorem Entries.concat (h : Entries names base entries) (hname : names name)
    (hnew : ∀ e ∈ entries, e.2 ≠ name) (hle : mixTableIndex ≤ id) (hmax : id ≤ maxInt64)
    (hfree : id ∉ usedIDs base ++ entries.map Prod.fst) :
    Entries names base (entries ++ [(id, name)]) where
  named := List.forall_mem_append.mpr ⟨h.named, List.forall_mem_singleton.mpr hname⟩
  once := by
    rw [List.map_append, List.nodup_append]
    refine ⟨h.once, List.nodup_singleton _, ?_⟩
    intro n hn n' hn' heq
    obtain ⟨e, he, rfl⟩ := List.mem_map.mp hn
    rw [List.map_singleton, List.mem_singleton] at hn'
    exact hnew e he (heq.trans hn')
  ids := by
    rw [List.map_append, ← List.append_assoc, List.filter_append, List.nodup_append]
    refine ⟨h.ids, (List.nodup_singleton id).filter _, ?_⟩
    intro i hi j hj heq
    obtain rfl : j = id := List.mem_singleton.mp (List.mem_of_mem_filter hj)
    exact hfree (heq ▸ List.mem_of_mem_filter hi)
  range := List.forall_mem_append.mpr ⟨h.range, List.forall_mem_singleton.mpr ⟨hle, hmax⟩⟩

/-- A name has one line at most. -/
theorem Entries.eq_of_mem (h : Entries names base entries) {id' : Int} (hmem : (id, name) ∈ entries)
    (hmem' : (id', name) ∈ entries) : id = id' :=
  congrArg Prod.fst (List.inj_on_of_nodup_map h.once hmem hmem' rfl)

theorem Entries.id_ne (h : Entries names base entries) (hmem : (id, name) ∈ entries) : id ≠ -1 := by
  have hle : mixTableIndex ≤ id := (h.range _ hmem).1
  intro heq
  rw [heq] at hle
  exact absurd hle (by decide)

theorem Entries.filter_ids (h : Entries names base entries) :
    (entries.map Prod.fst).filter (fun id => mixTableIndex ≤ id) = entries.map Prod.fst := by
  rw [List.filter_eq_self]
  intro i hi
  obtain ⟨e, he, rfl⟩ := List.mem_map.mp hi
  simpa using (h.range e he).1

/-- The number of a network is none of the file at the start. -/
theorem Entries.id_unused (h : Entries names base entries) (hmem : (id, name) ∈ entries) :
    id ∉ usedIDs base := by
  intro hused
  have hids := h.ids
  rw [List.filter_append, List.nodup_append, h.filter_ids] at hids
  have hused : id ∈ (usedIDs base).filter fun id => mixTableIndex ≤ id :=
    List.mem_filter.mpr ⟨hused, by simpa using (h.range _ hmem).1⟩
  exact hids.2.2 id hused id (List.mem_map_of_mem hmem) rfl

/-- A number has one line at most. -/
theorem Entries.id_unique (h : Entries names base entries) {name' : String}
    (hmem : (id, name) ∈ entries) (hmem' : (id, name') ∈ entries) : name = name' := by
  have hids := h.ids
  rw [List.filter_append, List.nodup_append, h.filter_ids] at hids
  exact congrArg Prod.snd (List.inj_on_of_nodup_map hids.2.1 hmem hmem' rfl)

variable (hbase : BaseFile names base)
include hbase

/-- The tables that the lines name are those at the start and those of the networks. -/
theorem tables_fileText (h : Entries names base entries) :
    tables (fileText base entries) = tables base ++ entries := by
  induction entries using List.reverseRecOn with
  | nil => rw [fileText_nil, List.append_nil]
  | append_singleton entries e ih =>
    have hinit := h.sublist (List.sublist_append_left entries [e])
    have hname := hbase.isName _ (h.named e (by simp))
    obtain ⟨hle, hmax⟩ := h.range e (by simp)
    have h0 : 0 ≤ e.1 := le_trans (by decide) hle
    have hended := lastLine_fileText hbase.ended entries
    have hfinished : finishedTables (fileText base entries) = tables (fileText base entries) := by
      rw [tables_eq, hended]
      exact (List.append_nil _).symm
    rw [fileText_concat, tables_append_line (not_newline_mem_tableEntry h0 hname.noSpace), hended,
      List.nil_append, tableOf_tableEntry h0 hname.noSpace hname.ne hmax, hfinished, ih hinit,
      List.append_assoc]
    rfl

theorem readable_fileText (h : Entries names base entries) : Readable (fileText base entries) := by
  induction entries using List.reverseRecOn with
  | nil => rw [fileText_nil]; exact hbase.readable
  | append_singleton entries e ih =>
    have hinit := ih (h.sublist (List.sublist_append_left entries [e]))
    have hname := hbase.isName _ (h.named e (by simp))
    obtain ⟨hle, hmax⟩ := h.range e (by simp)
    have h0 : 0 ≤ e.1 := le_trans (by decide) hle
    have hended := lastLine_fileText hbase.ended entries
    rw [Readable, rawLines, hended, if_pos rfl, List.append_nil] at hinit
    rw [fileText_concat, Readable,
      rawLines_append_getTableLine (not_newline_mem_tableEntry h0 hname.noSpace), hended,
      List.nil_append, List.all_append, hinit, List.all_cons, List.all_nil,
      fitsToken_tableEntry hname h0 hmax]
    rfl

/-- The name of a network is found in its line. -/
theorem foundIn_of_entry (h : Entries names base entries) (hmem : (id, name) ∈ entries) :
    foundIn (tables (fileText base entries)) name = id := by
  rw [tables_fileText hbase h]
  refine foundIn_of_mem (List.mem_append_right _ hmem) ?_
  rintro ⟨id', name'⟩ ht hname
  obtain rfl : name' = name := hname
  rcases List.mem_append.mp ht with ht | ht
  · exact absurd (show names name' from h.named _ hmem) (hbase.unlisted _ ht)
  · exact h.eq_of_mem ht hmem

theorem foundIn_eq_neg_one_iff (h : Entries names base entries) (hname : names name) :
    foundIn (tables (fileText base entries)) name = -1 ↔ ∀ e ∈ entries, e.2 ≠ name := by
  constructor
  · rintro hnone ⟨id, _⟩ hmem rfl
    rw [foundIn_of_entry hbase h hmem] at hnone
    exact h.id_ne hmem hnone
  · intro hno
    refine foundIn_of_forall_ne ?_
    rw [tables_fileText hbase h]
    intro t ht
    rcases List.mem_append.mp ht with ht | ht
    · rintro rfl
      exact hbase.unlisted t ht hname
    · exact hno t ht

/-- The line of a network is cut out of the file, and no other. -/
theorem withoutTable_fileText (h : Entries names base entries) (hmem : (id, name) ∈ entries) :
    withoutTable (fileText base entries) id name =
      fileText base (entries.filter fun e => e.2 ≠ name) := by
  obtain ⟨before, after, rfl⟩ := List.append_of_mem hmem
  have hnotab : ∀ n, names n → '\t' ∉ n.toList := fun n hn hin =>
    absurd ((hbase.isName n hn).noSpace _ hin) (by decide)
  have hname := h.named _ hmem
  have h0 : 0 ≤ id := le_trans (by decide) (h.range _ hmem).1
  -- the other lines have other names
  obtain ⟨hbefore, hafter⟩ : (∀ e ∈ before, e.2 ≠ name) ∧ ∀ e ∈ after, e.2 ≠ name := by
    have honce := h.once
    rw [List.map_append, List.map_cons, List.nodup_append, List.nodup_cons] at honce
    obtain ⟨-, ⟨hnot, -⟩, hdisjoint⟩ := honce
    constructor
    · intro e he heq
      exact hdisjoint _ (List.mem_map_of_mem he) _ List.mem_cons_self heq
    · intro e he heq
      exact hnot (List.mem_map.mpr ⟨e, he, heq⟩)
  have hkept : (before ++ (id, name) :: after).filter (fun e => e.2 ≠ name) = before ++ after := by
    rw [List.filter_append, List.filter_cons, List.filter_eq_self.mpr, List.filter_eq_self.mpr]
    · simp
    · intro e he
      simpa using hafter e he
    · intro e he
      simpa using hbefore e he
  have hsuffix : '\t' :: name.toList <:+ tableEntry id name := List.suffix_append _ _
  rw [hkept, withoutTable, getTableLine, fileText, fileText, String.toList_ofList,
    String.toList_ofList]
  congr 1
  have hstart : base.toList = unlines (endedLines base.toList) := by
    have := unlines_endedLines base.toList
    rw [hbase.ended, List.append_nil] at this
    exact this.symm
  rw [hstart, List.map_append, List.map_append, List.map_cons, unlines_append, unlines_append,
    ← List.append_assoc, ← List.append_assoc, ← unlines_append,
    show ∀ l ls, unlines (l :: ls) = l ++ '\n' :: unlines ls from fun l ls => by simp [unlines]]
  refine removeFirst_unlines (not_newline_mem_tableEntry h0 (hbase.isName _ hname).noSpace) ?_
  intro m hm
  rcases List.mem_append.mp hm with hm | hm
  · refine ⟨?_, fun hends => hbase.unnamed m hm name hname (hsuffix.trans hends)⟩
    refine not_mem_of_mem_splitOn (l := base.toList) ?_
    rw [← endedLines_append_lastLine]
    exact List.mem_append_left _ hm
  · obtain ⟨⟨id', name'⟩, he, rfl⟩ := List.mem_map.mp hm
    have hmem' := List.mem_append_left ((id, name) :: after) he
    have hname' := h.named _ hmem'
    have h0' : 0 ≤ id' := le_trans (by decide) (h.range _ hmem').1
    refine ⟨not_newline_mem_tableEntry h0' (hbase.isName _ hname').noSpace, ?_⟩
    intro hends
    obtain ⟨u, hu⟩ := hsuffix.trans hends
    have heq := (append_cons_inj (hnotab _ hname) (hnotab _ hname') hu).2
    exact hbefore _ he (String.toList_inj.mp heq.symm)

end Network

end MultiNicCni.Router
