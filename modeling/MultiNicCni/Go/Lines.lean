import Mathlib.Data.List.TakeWhile
import MultiNicCni.Go.Text

/-!
# Lines and fields of a text file

What a Go program does with a small configuration file: it reads it line by line with a
`bufio.Scanner`, takes the lines apart with `strings.Fields`, appends a line to the file and
removes it with `strings.Replace`.

- `fields`: `strings.Fields`. White space separates fields (`fields_append`), a text without it is
  one field (`fields_of_noSpace`);
- `finishedWords`, `openWord`: the fields that white space follows, and what comes after the last
  white space. What is appended to a text goes on its open word (`fields_append_words`);
- `endedLines`, `lastLine`: the lines that end in a newline, and what comes after the last one.
  A text with a line appended has one line more, but the line begins where the text had no
  newline (`endedLines_append_line`);
- `scanLines`: the lines that a `bufio.Scanner` gives, and its error: a line of 64 KiB stops it;
- `removeFirst`: `strings.Replace(s, old, "", 1)`. An appended line is removed again exactly when
  it does not occur before (`removeFirst_append_line`), and a line of a text of finished lines is
  removed if no line before ends as it does (`removeFirst_unlines`).
-/

namespace MultiNicCni.Go

variable {text l : List Char}

/-! ## Fields -/

/-- `strings.Fields`. -/
def fields (s : List Char) : List (List Char) := (s.splitOnP isSpace).filter (· ≠ [])

@[simp] theorem fields_nil : fields [] = [] := rfl

/-- White space separates fields. -/
theorem fields_append {c : Char} (hc : isSpace c = true) (a b : List Char) :
    fields (a ++ c :: b) = fields a ++ fields b := by
  rw [fields, List.splitOnP_append_cons a b hc, List.filter_append]
  rfl

/-- A text without white space is one field. -/
theorem fields_of_noSpace {f : List Char} (hne : f ≠ []) (h : ∀ c ∈ f, isSpace c = false) :
    fields f = [f] := by
  rw [fields, List.splitOnP_eq_singleton h]
  simp [hne]

/-- White space at the end does not matter. -/
theorem fields_append_space {c : Char} (hc : isSpace c = true) (a : List Char) :
    fields (a ++ [c]) = fields a := by
  rw [fields_append hc, fields_nil, List.append_nil]

/-- A field is not empty and has no white space. -/
theorem noSpace_of_mem_fields {s f : List Char} (hf : f ∈ fields s) :
    f ≠ [] ∧ ∀ c ∈ f, isSpace c = false := by
  obtain ⟨hpiece, hne⟩ := List.mem_filter.mp hf
  refine ⟨by simpa using hne, ?_⟩
  clear hf hne
  induction s generalizing f with
  | nil => simp_all
  | cons x s ih =>
    rw [List.splitOnP_cons_eq_if_modifyHead] at hpiece
    split at hpiece
    · rcases List.mem_cons.mp hpiece with rfl | hpiece
      · simp
      · exact ih hpiece
    · next hx =>
      -- the first piece is longer by a character that is no white space
      cases hpieces : s.splitOnP isSpace with
      | nil => exact absurd hpieces (List.splitOnP_ne_nil _ _)
      | cons piece pieces =>
        rw [hpieces] at hpiece ih
        rcases List.mem_cons.mp hpiece with rfl | hpiece
        · exact List.forall_mem_cons.mpr ⟨by simpa using hx, ih List.mem_cons_self⟩
        · exact ih (List.mem_cons_of_mem _ hpiece)

/-- The fields that white space follows. -/
def finishedWords (s : List Char) : List (List Char) :=
  (s.splitOnP isSpace).dropLast.filter (· ≠ [])

/-- What comes after the last white space. -/
def openWord (s : List Char) : List Char := (s.splitOnP isSpace).getLastD []

theorem dropLast_append_openWord (s : List Char) :
    (s.splitOnP isSpace).dropLast ++ [openWord s] = s.splitOnP isSpace := by
  rw [openWord, List.getLastD_eq_getLast?, List.getLast?_eq_getLast_of_ne_nil (List.splitOnP_ne_nil _ _)]
  exact List.dropLast_append_getLast _

theorem fields_eq (s : List Char) :
    fields s = finishedWords s ++ if openWord s = [] then [] else [openWord s] := by
  rw [fields, ← dropLast_append_openWord, List.filter_append, ← finishedWords]
  split
  · next hnil => simp [hnil]
  · next hne => simp [hne]

/-- What is appended without white space goes on the open word. -/
theorem splitOnP_append_of_noSpace {w : List Char} (hw : ∀ c ∈ w, isSpace c = false)
    (s : List Char) :
    (s ++ w).splitOnP isSpace = (s.splitOnP isSpace).dropLast ++ [openWord s ++ w] := by
  induction s with
  | nil => simp [openWord, List.splitOnP_eq_singleton hw]
  | cons x s ih =>
    rw [List.cons_append, List.splitOnP_cons_eq_if_modifyHead, ih, openWord, openWord,
      List.splitOnP_cons_eq_if_modifyHead]
    have hne := List.splitOnP_ne_nil isSpace s
    generalize s.splitOnP isSpace = pieces at hne
    obtain ⟨init, last, rfl⟩ : ∃ init last, pieces = init ++ [last] :=
      ⟨_, _, (List.dropLast_append_getLast hne).symm⟩
    rw [List.dropLast_concat, List.getLastD_concat]
    split
    · show [] :: init ++ [last ++ w] = ([] :: init ++ [last]).dropLast ++
        [([] :: init ++ [last]).getLastD [] ++ w]
      rw [List.dropLast_concat, List.getLastD_concat]
    · cases init with
      | nil => rfl
      | cons a init =>
        show (x :: a) :: init ++ [last ++ w] = ((x :: a) :: init ++ [last]).dropLast ++
          [((x :: a) :: init ++ [last]).getLastD [] ++ w]
        rw [List.dropLast_concat, List.getLastD_concat]

/-- The fields of a text with two words appended: the first one goes on the open word. -/
theorem fields_append_words {w v : List Char} {c : Char} (hc : isSpace c = true) (hw : w ≠ [])
    (hws : ∀ c ∈ w, isSpace c = false) (hv : v ≠ []) (hvs : ∀ c ∈ v, isSpace c = false)
    (s : List Char) :
    fields (s ++ (w ++ c :: v)) = finishedWords s ++ [openWord s ++ w, v] := by
  rw [← List.append_assoc, fields_append hc, fields_of_noSpace hv hvs, fields,
    splitOnP_append_of_noSpace hws, List.filter_append, ← finishedWords]
  simp [hw]

/-! ## Lines -/

/-- The lines that end in a newline. -/
def endedLines (text : List Char) : List (List Char) := (text.splitOn '\n').dropLast

/-- What comes after the last newline. -/
def lastLine (text : List Char) : List Char :=
  (text.splitOn '\n').getLast (List.splitOn_ne_nil _ _)

theorem endedLines_append_lastLine (text : List Char) :
    endedLines text ++ [lastLine text] = text.splitOn '\n' :=
  List.dropLast_append_getLast (List.splitOn_ne_nil _ _)

/-- The lines of a text: the last one only if there is anything after the last newline. -/
def rawLines (text : List Char) : List (List Char) :=
  endedLines text ++ if lastLine text = [] then [] else [lastLine text]

/-- A text that ends in a newline has no unfinished line. -/
theorem lastLine_append_newline (text : List Char) : lastLine (text ++ ['\n']) = [] := by
  simp [lastLine, List.splitOn_append_cons_self]

/-- What is appended to a text goes on its last line. -/
theorem splitOn_append_of_not_mem (hl : '\n' ∉ l) :
    (text ++ l).splitOn '\n' = endedLines text ++ [lastLine text ++ l] := by
  have htext : text ++ l = ['\n'].intercalate (endedLines text ++ [lastLine text ++ l]) := by
    have hjoin : ∀ (init : List (List Char)) (last : List Char),
        ['\n'].intercalate (init ++ [last ++ l]) = ['\n'].intercalate (init ++ [last]) ++ l := by
      intro init
      induction init with
      | nil => simp
      | cons f init ih =>
        intro last
        rw [List.cons_append, List.cons_append, List.intercalate_cons_of_ne_nil (by simp),
          List.intercalate_cons_of_ne_nil (by simp), ih, List.append_assoc, List.append_assoc,
          List.append_assoc]
    rw [hjoin, endedLines_append_lastLine, List.intercalate_splitOn]
  rw [htext]
  refine List.splitOn_intercalate '\n' ?_ (by simp)
  intro f hf
  have hpiece : ∀ f ∈ endedLines text ++ [lastLine text], '\n' ∉ f := by
    intro f hf
    rw [endedLines_append_lastLine] at hf
    exact not_mem_of_mem_splitOn hf
  rcases List.mem_append.mp hf with hf | hf
  · exact hpiece f (List.mem_append_left _ hf)
  · rw [List.mem_singleton.mp hf, List.mem_append, not_or]
    exact ⟨hpiece _ (by simp), hl⟩

section Append

variable (hl : '\n' ∉ l)
include hl

theorem splitOn_append_line :
    (text ++ (l ++ ['\n'])).splitOn '\n' = endedLines text ++ [lastLine text ++ l, []] := by
  rw [← List.append_assoc, List.splitOn_append_cons_self, splitOn_append_of_not_mem hl,
    List.splitOn_nil, List.append_assoc]
  rfl

/-- An appended line begins on the unfinished line of the text. -/
theorem endedLines_append_line :
    endedLines (text ++ (l ++ ['\n'])) = endedLines text ++ [lastLine text ++ l] := by
  rw [endedLines, splitOn_append_line hl]
  simp

theorem rawLines_append_line :
    rawLines (text ++ (l ++ ['\n'])) = endedLines text ++ [lastLine text ++ l] := by
  rw [rawLines, endedLines_append_line hl, ← List.append_assoc, lastLine_append_newline, if_pos rfl,
    List.append_nil]

end Append

/-! ## The scanner -/

/-- `dropCR`: a carriage return at the end of a line. -/
def dropCR (line : List Char) : List Char :=
  if line.getLast? = some '\r' then line.dropLast else line

/-- A carriage return is white space. -/
theorem fields_dropCR (line : List Char) : fields (dropCR line) = fields line := by
  unfold dropCR
  split
  · next hcr =>
    obtain ⟨init, rfl⟩ := List.getLast?_eq_some_iff.mp hcr
    rw [List.dropLast_concat, fields_append_space (by decide)]
  · rfl

/-- `bufio.MaxScanTokenSize`. -/
def maxScanTokenSize : Nat := 64 * 1024

/-- The line fits into the buffer of a scanner. -/
def fitsToken (line : List Char) : Bool :=
  decide ((String.ofList line).utf8ByteSize < maxScanTokenSize)

/-- The errors of a `bufio.Scanner` on a file. -/
inductive ScanError where
  /-- `bufio.Scanner: token too long` -/
  | tooLong
  deriving DecidableEq, Repr

/-- The lines that a `bufio.Scanner` gives, up to one that is too long, and its error. -/
def scanLines (text : List Char) : List (List Char) × Option ScanError :=
  (((rawLines text).takeWhile fitsToken).map dropCR,
    if (rawLines text).all fitsToken then none else some .tooLong)

/-- Without a line that is too long all the lines are read. -/
theorem scanLines_of_fits (h : (rawLines text).all fitsToken = true) :
    scanLines text = ((rawLines text).map dropCR, none) := by
  have hall : (rawLines text).takeWhile fitsToken = rawLines text :=
    List.takeWhile_eq_self_iff.mpr (List.all_eq_true.mp h)
  rw [scanLines, if_pos h, hall]

/-! ## Removing a line -/

/-- `strings.Replace(s, old, "", 1)`, for an `old` that is not empty. -/
def removeFirst (old : List Char) : List Char → List Char
  | [] => []
  | c :: cs => if old.isPrefixOf (c :: cs) then (c :: cs).drop old.length else c :: removeFirst old cs

/-- The first occurrence is removed. -/
theorem removeFirst_spec {old s : List Char} (hne : old ≠ []) (h : ∃ u v, s = u ++ (old ++ v)) :
    ∃ u v, s = u ++ (old ++ v) ∧ removeFirst old s = u ++ v ∧
      ∀ u' v', s = u' ++ (old ++ v') → u.length ≤ u'.length := by
  induction s with
  | nil =>
    obtain ⟨u, v, hs⟩ := h
    exact absurd (List.append_eq_nil_iff.mp (List.append_eq_nil_iff.mp hs.symm).2).1 hne
  | cons c cs ih =>
    rw [removeFirst]
    split
    · next hfirst =>
      obtain ⟨v, hv⟩ := List.isPrefixOf_iff_prefix.mp hfirst
      refine ⟨[], v, hv.symm, ?_, fun _ _ _ => Nat.zero_le _⟩
      rw [← hv, List.drop_left]
      rfl
    · next hfirst =>
      -- an occurrence does not begin here
      have hlater : ∀ u v, c :: cs = u ++ (old ++ v) → ∃ u', u = c :: u' ∧ cs = u' ++ (old ++ v) := by
        intro u v hs
        cases u with
        | nil => exact absurd (List.isPrefixOf_iff_prefix.mpr ⟨v, hs.symm⟩) hfirst
        | cons c' u' =>
          obtain ⟨rfl, hcs⟩ := List.cons.inj hs
          exact ⟨u', rfl, hcs⟩
      obtain ⟨u, v, hs⟩ := h
      obtain ⟨u', -, hcs⟩ := hlater u v hs
      obtain ⟨u₀, v₀, hfound, hremoved, hleast⟩ := ih ⟨u', v, hcs⟩
      refine ⟨c :: u₀, v₀, by rw [hfound]; rfl, by rw [hremoved]; rfl, ?_⟩
      intro u₁ v₁ h₁
      obtain ⟨u₂, rfl, h₂⟩ := hlater u₁ v₁ h₁
      exact Nat.succ_le_succ (hleast u₂ v₁ h₂)

section RemoveLine

variable (hl : '\n' ∉ l)
include hl

/-- A line that occurs in a text with the line appended occurs in the text, or is the appended
one. -/
theorem occurs_append_line {u v : List Char} (h : text ++ (l ++ ['\n']) = u ++ ((l ++ ['\n']) ++ v)) :
    (u = text ∧ v = []) ∨
      ∃ v', text = u ++ ((l ++ ['\n']) ++ v') ∧ v = v' ++ (l ++ ['\n']) := by
  rw [← List.append_assoc u] at h
  rcases List.append_eq_append_iff.mp h with ⟨c, hc, hline⟩ | ⟨c, hc, hv⟩
  · -- the occurrence ends inside the appended line, which has one newline only
    cases hlast : c.getLast? with
    | none =>
      obtain rfl := List.getLast?_eq_none_iff.mp hlast
      refine Or.inr ⟨[], ?_, ?_⟩
      · rw [List.append_nil] at hc ⊢
        exact hc.symm
      · simpa using hline.symm
    | some d =>
      have hd : d = '\n' := by
        have hend := congrArg List.getLast? hc
        rw [← List.append_assoc u, List.getLast?_concat, List.getLast?_append, hlast,
          Option.some_or] at hend
        exact (Option.some.inj hend).symm
      subst hd
      obtain ⟨c', rfl⟩ := List.getLast?_eq_some_iff.mp hlast
      have hv : v = [] := by
        by_contra hne
        obtain ⟨v', e, rfl⟩ : ∃ v' e, v = v' ++ [e] :=
          ⟨v.dropLast, v.getLast hne, (List.dropLast_append_getLast hne).symm⟩
        rw [← List.append_assoc] at hline
        obtain ⟨hinit, -⟩ := List.append_inj' hline rfl
        exact hl (by rw [hinit]; simp)
      subst hv
      rw [List.append_nil] at hline
      rw [hline] at hc
      exact Or.inl ⟨List.append_cancel_right hc, rfl⟩
  · rw [List.append_assoc] at hc
    exact Or.inr ⟨c, hc, hv⟩

/-- **The appended line is removed again exactly when the line occurs before nowhere but at the end
of the text**, unless the text ends in the whole line. -/
theorem removeFirst_append_line (hwhole : ∀ t, text ≠ t ++ ('\n' :: (l ++ ['\n']))) :
    removeFirst (l ++ ['\n']) (text ++ (l ++ ['\n'])) = text ↔
      ∀ u v, text = u ++ ((l ++ ['\n']) ++ v) → v = [] := by
  have hoccurs : ∃ u v, text ++ (l ++ ['\n']) = u ++ ((l ++ ['\n']) ++ v) :=
    ⟨text, [], by rw [List.append_nil]⟩
  obtain ⟨u, v, hfound, hremoved, hleast⟩ := removeFirst_spec (by simp) hoccurs
  -- an occurrence in the text is not before the first one
  have hfirst : ∀ u' v', text = u' ++ ((l ++ ['\n']) ++ v') → u.length ≤ u'.length := by
    intro u' v' htext
    exact hleast u' (v' ++ (l ++ ['\n'])) (by rw [htext]; simp)
  rw [hremoved]
  rcases occurs_append_line hl hfound with ⟨rfl, rfl⟩ | ⟨v', htext, rfl⟩
  · refine iff_of_true (List.append_nil u) fun u' v' htext => ?_
    have hlen := congrArg List.length htext
    have hle := hfirst u' v' htext
    simp only [List.length_append, List.length_cons, List.length_nil] at hlen
    omega
  · constructor
    · intro hback u₁ v₁ h₁
      have hcommute : v' ++ (l ++ ['\n']) = (l ++ ['\n']) ++ v' := by
        rw [htext] at hback
        exact List.append_cancel_left hback
      have hnil : v' = [] := by
        by_contra hne
        obtain ⟨v'', d, rfl⟩ : ∃ v'' d, v' = v'' ++ [d] :=
          ⟨v'.dropLast, v'.getLast hne, (List.dropLast_append_getLast hne).symm⟩
        have hd : d = '\n' := by
          have hend := congrArg List.getLast? hcommute
          rw [← List.append_assoc, ← List.append_assoc (l ++ ['\n']), List.getLast?_concat,
            List.getLast?_concat] at hend
          exact (Option.some.inj hend).symm
        refine hwhole (u ++ v'') ?_
        rw [htext, ← hcommute, hd]
        simp
      have hlen := congrArg List.length (htext.symm.trans h₁)
      have hle := hfirst u₁ v₁ h₁
      rw [hnil] at hlen
      simp only [List.length_append, List.length_cons, List.length_nil] at hlen
      exact List.length_eq_zero_iff.mp (by omega)
    · intro honly
      obtain rfl := honly u v' htext
      rw [htext]
      simp

end RemoveLine

/-! ## A text of finished lines -/

/-- The text of the given lines, each of them finished. -/
def unlines (ls : List (List Char)) : List Char := ls.flatMap (· ++ ['\n'])

theorem unlines_append (a b : List (List Char)) : unlines (a ++ b) = unlines a ++ unlines b :=
  List.flatMap_append

/-- A text is its finished lines and what comes after the last newline. -/
theorem unlines_endedLines (text : List Char) : unlines (endedLines text) ++ lastLine text = text := by
  have hjoin : ∀ (init : List (List Char)) (last : List Char),
      ['\n'].intercalate (init ++ [last]) = unlines init ++ last := by
    intro init
    induction init with
    | nil => simp [unlines]
    | cons f init ih =>
      intro last
      rw [List.cons_append, List.intercalate_cons_of_ne_nil (by simp), ih]
      simp [unlines]
  rw [← hjoin, endedLines_append_lastLine, List.intercalate_splitOn]

/-- Where a line ends is where its newline is. -/
theorem append_newline_inj {m s t : List Char} (hl : '\n' ∉ l) (hm : '\n' ∉ m)
    (h : l ++ '\n' :: s = m ++ '\n' :: t) : l = m ∧ s = t := by
  have hcut := congrArg (cutAt '\n') h
  rw [cutAt_append hl, cutAt_append hm] at hcut
  exact Prod.mk.inj (Option.some.inj hcut)

section Unlines

variable (hl : '\n' ∉ l)
include hl

/-- A line that does not end in `l` is passed. -/
theorem removeFirst_pass {m rest : List Char} (hm : '\n' ∉ m) (hnot : ¬ l <:+ m) :
    removeFirst (l ++ ['\n']) (m ++ '\n' :: rest) =
      m ++ '\n' :: removeFirst (l ++ ['\n']) rest := by
  -- an occurrence that begins in the line would end where the line ends
  have hstart : ∀ m' : List Char, '\n' ∉ m' → m' <:+ m →
      (l ++ ['\n']).isPrefixOf (m' ++ '\n' :: rest) = false := by
    intro m' hm' hsuffix
    by_contra hfirst
    rw [Bool.not_eq_false, List.isPrefixOf_iff_prefix] at hfirst
    obtain ⟨v, hv⟩ := hfirst
    rw [List.append_assoc] at hv
    exact hnot ((append_newline_inj hl hm' hv).1 ▸ hsuffix)
  induction m with
  | nil =>
    show removeFirst (l ++ ['\n']) ('\n' :: rest) = '\n' :: removeFirst (l ++ ['\n']) rest
    rw [removeFirst, if_neg]
    rw [Bool.not_eq_true]
    exact hstart [] hm List.suffix_rfl
  | cons c m ih =>
    show removeFirst (l ++ ['\n']) (c :: (m ++ '\n' :: rest)) = c :: (m ++ '\n' :: _)
    have hfirst := hstart (c :: m) hm List.suffix_rfl
    rw [removeFirst, if_neg (by rw [Bool.not_eq_true]; exact hfirst)]
    rw [ih (fun hc => hm (List.mem_cons_of_mem c hc))
      (fun hsuffix => hnot (hsuffix.trans (List.suffix_cons c m)))
      (fun m' hm' hsuffix => hstart m' hm' (hsuffix.trans (List.suffix_cons c m)))]

/-- **A line is removed from a text of lines** if no line before it ends as it does. -/
theorem removeFirst_unlines {before : List (List Char)} {rest : List Char}
    (hbefore : ∀ m ∈ before, '\n' ∉ m ∧ ¬ l <:+ m) :
    removeFirst (l ++ ['\n']) (unlines before ++ (l ++ '\n' :: rest)) = unlines before ++ rest := by
  induction before with
  | nil =>
    show removeFirst (l ++ ['\n']) (l ++ '\n' :: rest) = rest
    have hfirst : (l ++ ['\n']).isPrefixOf (l ++ '\n' :: rest) = true :=
      List.isPrefixOf_iff_prefix.mpr ⟨rest, by simp⟩
    cases l with
    | nil => simp [removeFirst]
    | cons c l =>
      simp only [List.cons_append] at hfirst ⊢
      rw [removeFirst, if_pos hfirst]
      simp
  | cons m before ih =>
    obtain ⟨⟨hm, hnot⟩, hbefore⟩ := List.forall_mem_cons.mp hbefore
    have htext : ∀ rest : List Char,
        unlines (m :: before) ++ rest = m ++ '\n' :: (unlines before ++ rest) := by
      intro rest
      simp [unlines]
    rw [htext, htext, removeFirst_pass hl hm hnot, ih hbefore]

end Unlines

end MultiNicCni.Go
