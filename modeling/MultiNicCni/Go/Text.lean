import Mathlib.Data.List.Sort
import Mathlib.Tactic

/-!
# Go text: `strings`, `strconv` and `fmt` on the characters of a string

The parts of Go's `strings`, `strconv` and `fmt` packages that network code
leans on, over Lean's `String`. The functions work on the character list of a
string, so that `List` lemmas carry the proofs:

- `split`/`cut`: `strings.Split` and `strings.Cut` at a one-character separator;
- `parseInt`: `strconv.ParseInt(s, base, 64)` with its two errors (syntax errors
  give `0`, range errors give the nearest bound), since callers often drop the
  error and keep the value;
- `formatInt`: the `%d` and `%b` verbs;
- `contains`, `trimSpace`: `strings.Contains` and `strings.TrimSpace`.

The results callers need are the round trips: a printed number is read back
(`parseDigits_toDigits`), digits without a leading zero are the number printed
(`toDigits_ofDigitChars`), joined fields are split again (`split_join`). In front of a printed number
only a plus sign and zeros go unnoticed (`parseInt_append_formatInt_iff`).
-/

namespace MultiNicCni.Go

variable {a b : List Char} {s : String} {sep c : Char} {n : Nat}

/-! ## Splitting and joining -/

/-- `strings.Split(s, sep)` for a one-character separator. -/
def split (s : String) (sep : Char) : List String :=
  (s.toList.splitOn sep).map String.ofList

/-- The text before and after the first separator. -/
def cutAt (sep : Char) : List Char → Option (List Char × List Char)
  | [] => none
  | c :: cs =>
    if c = sep then some ([], cs)
    else (cutAt sep cs).map fun p => (c :: p.1, p.2)

/-- `strings.Cut(s, sep)`. -/
def cut (s : String) (sep : Char) : Option (String × String) :=
  (cutAt sep s.toList).map fun p => (String.ofList p.1, String.ofList p.2)

/-- `strings.ReplaceAll(s, old, new)` for one-character patterns. -/
def replaceAll (s : String) (old new : Char) : String :=
  String.ofList (s.toList.map fun c => if c = old then new else c)

/-- `strings.Contains`. -/
def contains (s substr : String) : Bool := decide (substr.toList <:+: s.toList)

/-- `unicode.IsSpace`. -/
def isSpace (c : Char) : Bool :=
  decide (c.toNat ∈ [0x09, 0x0a, 0x0b, 0x0c, 0x0d, 0x20, 0x85, 0xa0, 0x1680, 0x2028, 0x2029, 0x202f,
    0x205f, 0x3000] ∨ (0x2000 ≤ c.toNat ∧ c.toNat ≤ 0x200a))

/-- `strings.TrimSpace`. -/
def trimSpace (s : String) : String :=
  String.ofList ((s.toList.dropWhile isSpace).reverse.dropWhile isSpace).reverse

/-- Splitting a text at a separator that occurs in neither half gives the halves
back. -/
theorem split_join (ha : sep ∉ a) (hb : sep ∉ b) :
    split (String.ofList (a ++ sep :: b)) sep = [String.ofList a, String.ofList b] := by
  have hjoin : a ++ sep :: b = [sep].intercalate [a, b] := by simp [List.intercalate]
  unfold split
  rw [String.toList_ofList, hjoin, List.splitOn_intercalate sep _ (by simp)]
  · rfl
  · intro l hl
    rcases List.mem_pair.mp hl with rfl | rfl <;> assumption

/-- A text without the separator is its only field. -/
theorem split_of_not_mem (h : sep ∉ s.toList) : split s sep = [s] := by
  rw [split, List.splitOn_eq_singleton h, List.map_singleton, String.ofList_toList]

/-- Every character but the separator is in a field. -/
theorem exists_mem_splitOn (hne : c ≠ sep) {l : List Char} (h : c ∈ l) :
    ∃ f ∈ l.splitOn sep, c ∈ f := by
  have h : c ∈ [sep].intercalate (l.splitOn sep) := by rwa [List.intercalate_splitOn]
  generalize l.splitOn sep = fields at h
  induction fields with
  | nil => cases h
  | cons f fields ih =>
    cases fields with
    | nil =>
      rw [List.intercalate_singleton] at h
      exact ⟨f, List.mem_cons_self, h⟩
    | cons g fields =>
      rw [List.intercalate_cons_cons, List.mem_append, List.mem_append, List.mem_singleton] at h
      rcases h with (h | h) | h
      · exact ⟨f, List.mem_cons_self, h⟩
      · exact absurd h hne
      · obtain ⟨f', hf', hc⟩ := ih h
        exact ⟨f', List.mem_cons_of_mem f hf', hc⟩

/-- No field holds the separator. -/
theorem not_mem_of_mem_splitOn {l f : List Char} (h : f ∈ l.splitOn sep) : sep ∉ f := by
  induction l generalizing f with
  | nil =>
    rw [List.splitOn_nil, List.mem_singleton] at h
    rw [h]
    exact List.not_mem_nil
  | cons c l ih =>
    rw [List.splitOn_cons_eq_if_modifyHead] at h
    split at h
    · rcases List.mem_cons.mp h with rfl | h
      · exact List.not_mem_nil
      · exact ih h
    · next hc =>
      obtain ⟨g, fields, hfields⟩ := List.exists_cons_of_ne_nil (List.splitOn_ne_nil sep l)
      rw [hfields, List.modifyHead_cons] at h
      rcases List.mem_cons.mp h with rfl | h
      · have hg : sep ∉ g := ih (hfields ▸ List.mem_cons_self)
        rw [List.mem_cons, not_or]
        exact ⟨fun heq => hc (heq ▸ beq_self_eq_true sep), hg⟩
      · exact ih (hfields ▸ List.mem_cons_of_mem g h)

theorem not_mem_of_mem_split {f : String} (h : f ∈ split s sep) : sep ∉ f.toList := by
  obtain ⟨l, hl, rfl⟩ := List.mem_map.mp h
  rw [String.toList_ofList]
  exact not_mem_of_mem_splitOn hl

/-- `strings.Join` of fields is split into them again, unless there are none. -/
theorem split_intercalate {items : List String} (hne : items ≠ [])
    (h : ∀ item ∈ items, sep ∉ item.toList) :
    split ((String.ofList [sep]).intercalate items) sep = items := by
  rw [split, String.toList_intercalate, String.toList_ofList, List.splitOn_intercalate sep _
    (by rwa [Ne, List.map_eq_nil_iff]), List.map_map]
  · simp [Function.comp_def]
  · intro l hl
    obtain ⟨item, hitem, rfl⟩ := List.mem_map.mp hl
    exact h item hitem

/-- The last separator splits a text in one way only. -/
theorem append_cons_inj {a' b' : List Char} (hb : sep ∉ b) (hb' : sep ∉ b')
    (h : a ++ sep :: b = a' ++ sep :: b') : a = a' ∧ b = b' := by
  rcases List.append_eq_append_iff.mp h with ⟨c, rfl, hc⟩ | ⟨c, rfl, hc⟩
  · cases c with
    | nil => exact ⟨(List.append_nil a).symm, (List.cons.inj hc).2⟩
    | cons x c =>
      rw [(List.cons.inj hc).2] at hb
      exact absurd (List.mem_append_right c List.mem_cons_self) hb
  · cases c with
    | nil => exact ⟨List.append_nil a', (List.cons.inj hc).2.symm⟩
    | cons x c =>
      rw [(List.cons.inj hc).2] at hb'
      exact absurd (List.mem_append_right c List.mem_cons_self) hb'

theorem cutAt_append (ha : sep ∉ a) : cutAt sep (a ++ sep :: b) = some (a, b) := by
  induction a with
  | nil => simp [cutAt]
  | cons c a ih =>
    rw [List.mem_cons, not_or] at ha
    rw [List.cons_append, cutAt, if_neg (Ne.symm ha.1), ih ha.2]
    rfl

/-- Cutting at the first separator gives back the text around it. -/
theorem cut_join (ha : sep ∉ a) :
    cut (String.ofList (a ++ sep :: b)) sep = some (String.ofList a, String.ofList b) := by
  rw [cut, String.toList_ofList, cutAt_append ha]
  rfl

theorem cutAt_eq_some : ∀ {s a b : List Char},
    cutAt sep s = some (a, b) → s = a ++ sep :: b ∧ sep ∉ a
  | [], _, _, h => by cases h
  | c :: cs, a, b, h => by
    rw [cutAt] at h
    by_cases hc : c = sep
    · rw [if_pos hc] at h
      cases h
      exact ⟨by rw [hc]; rfl, List.not_mem_nil⟩
    · rw [if_neg hc] at h
      obtain ⟨⟨a', b'⟩, hp, heq⟩ := Option.map_eq_some_iff.mp h
      cases heq
      obtain ⟨hs, hn⟩ := cutAt_eq_some hp
      refine ⟨by rw [hs]; rfl, ?_⟩
      rw [List.mem_cons, not_or]
      exact ⟨Ne.symm hc, hn⟩

/-- A text that can be cut is the two halves around a separator that the first
half does not contain. -/
theorem cut_eq_some {x y : String} (h : cut s sep = some (x, y)) :
    s = String.ofList (x.toList ++ sep :: y.toList) ∧ sep ∉ x.toList := by
  obtain ⟨⟨a, b⟩, hp, heq⟩ := Option.map_eq_some_iff.mp h
  cases heq
  obtain ⟨hs, hn⟩ := cutAt_eq_some hp
  rw [String.toList_ofList, String.toList_ofList, ← hs, String.ofList_toList]
  exact ⟨rfl, hn⟩

/-! ## Numbers -/

/-- A character that is a digit of the given base (at most ten). -/
def isDigitOf (base : Nat) (c : Char) : Bool :=
  c.isDigit && decide (c.toNat - '0'.toNat < base)

/-- Largest and smallest value of a 64-bit integer. -/
def maxInt64 : Int := 2 ^ 63 - 1

def minInt64 : Int := -2 ^ 63

/-- The magnitude part of `strconv.ParseUint`: the value of a non-empty run of
digits. -/
def parseDigits (base : Nat) (s : List Char) : Option Nat :=
  if s ≠ [] ∧ s.all (isDigitOf base) then some (Nat.ofDigitChars base s 0) else none

/-- `strconv.ParseInt(s, base, 64)`: the value and whether the error is nil. -/
def parseInt (base : Nat) : List Char → Int × Bool
  | '-' :: s =>
    match parseDigits base s with
    | none => (0, false)
    | some n => if minInt64 ≤ -(n : Int) then (-(n : Int), true) else (minInt64, false)
  | '+' :: s => positive (parseDigits base s)
  | s => positive (parseDigits base s)
where
  positive : Option Nat → Int × Bool
    | none => (0, false)
    | some n => if (n : Int) ≤ maxInt64 then ((n : Int), true) else (maxInt64, false)

/-- `fmt.Sprintf` with the verbs `%d` (base ten) and `%b` (base two). -/
def formatInt (base : Nat) : Int → List Char
  | .ofNat n => Nat.toDigits base n
  | .negSucc n => '-' :: Nat.toDigits base (n + 1)

theorem isDigit_of_parseDigits {base : Nat} {s : List Char} (h : parseDigits base s = some n) :
    ∀ c ∈ s, c.isDigit = true := by
  unfold parseDigits at h
  split at h
  · next hall =>
    intro c hc
    have hdigit := List.all_eq_true.mp hall.2 c hc
    rw [isDigitOf, Bool.and_eq_true] at hdigit
    exact hdigit.1
  · cases h

theorem isDigitOf_ten_of_isDigit (h : c.isDigit = true) : isDigitOf 10 c = true := by
  simp only [Char.isDigit, Bool.and_eq_true, decide_eq_true_eq] at h
  have h1 : '0'.toNat ≤ c.toNat := h.1
  have h2 : c.toNat ≤ '9'.toNat := h.2
  have h9 : '9'.toNat = 57 := rfl
  have h0 : '0'.toNat = 48 := rfl
  simp only [isDigitOf, Char.isDigit, Bool.and_eq_true, decide_eq_true_eq]
  exact ⟨h, by omega⟩

/-- A run of digits does not start with a sign. -/
theorem parseInt_of_digits {base : Nat} {s : List Char} (h : parseDigits base s = some n) :
    parseInt base s = parseInt.positive (some n) := by
  have hall : s ≠ [] ∧ s.all (isDigitOf base) = true := by
    by_contra hn
    rw [parseDigits, if_neg hn] at h
    cases h
  cases s with
  | nil => exact absurd rfl hall.1
  | cons c rest =>
    have hc : isDigitOf base c = true := by
      have := hall.2
      simp only [List.all_cons, Bool.and_eq_true] at this
      exact this.1
    have hm : c ≠ '-' := by
      rintro rfl
      simp [isDigitOf, Char.isDigit] at hc
    have hp : c ≠ '+' := by
      rintro rfl
      simp [isDigitOf, Char.isDigit] at hc
    rw [parseInt.eq_def]
    split
    · next heq => exact absurd (List.cons.inj heq).1 hm
    · next heq => exact absurd (List.cons.inj heq).1 hp
    · rw [h]

theorem parseDigits_toDigits (n : Nat) : parseDigits 10 (Nat.toDigits 10 n) = some n := by
  have hne : Nat.toDigits 10 n ≠ [] := Nat.toDigits_ne_nil
  have hall : (Nat.toDigits 10 n).all (isDigitOf 10) = true := by
    rw [List.all_eq_true]
    intro c hc
    exact isDigitOf_ten_of_isDigit (Nat.isDigit_of_mem_toDigits (by omega) (by omega) hc)
  rw [parseDigits, if_pos ⟨hne, hall⟩, Nat.ofDigitChars_toDigits (by omega) (by omega)]

/-- A digit is the character of its value. -/
theorem exists_digitChar (h : c.isDigit = true) :
    ∃ d < 10, c = Nat.digitChar d ∧ c.toNat - '0'.toNat = d := by
  simp only [Char.isDigit, Bool.and_eq_true, decide_eq_true_eq] at h
  have h1 : '0'.toNat ≤ c.toNat := h.1
  have h2 : c.toNat ≤ '9'.toNat := h.2
  have h9 : '9'.toNat = 57 := rfl
  have h0 : '0'.toNat = 48 := rfl
  refine ⟨c.toNat - 48, by omega, ?_, by omega⟩
  have hlt : c.toNat - 48 < 10 := by omega
  generalize hd : c.toNat - 48 = d at hlt
  rw [← Char.ofNat_toNat c, show c.toNat = d + 48 by omega]
  interval_cases d <;> rfl

/-- Digits without a leading zero are printed again. -/
theorem toDigits_ofDigitChars {f : List Char} (hne : f ≠ []) (hdigits : ∀ c ∈ f, c.isDigit = true)
    (hzero : f.head? = some '0' → f.length = 1) :
    Nat.toDigits 10 (Nat.ofDigitChars 10 f 0) = f := by
  induction f using List.reverseRecOn with
  | nil => exact absurd rfl hne
  | append_singleton g c ih =>
    obtain ⟨d, hd, hc, hval⟩ := exists_digitChar (hdigits c (by simp))
    have hlast : Nat.ofDigitChars 10 (g ++ [c]) 0 = 10 * Nat.ofDigitChars 10 g 0 + d := by
      rw [Nat.ofDigitChars_append, Nat.ofDigitChars_cons, Nat.ofDigitChars_nil, hval]
    rw [hlast]
    cases g with
    | nil =>
      rw [Nat.ofDigitChars_nil, Nat.mul_zero, Nat.zero_add, Nat.toDigits_of_lt_base hd, hc]
      rfl
    | cons a g =>
      have hlong : (a :: g ++ [c]).head? ≠ some '0' := by
        intro h0
        have hone := hzero h0
        simp at hone
      have hg := ih (List.cons_ne_nil a g) (fun c hc => hdigits c (List.mem_append_left _ hc))
        fun h0 => absurd h0 hlong
      have hpos : 0 < Nat.ofDigitChars 10 (a :: g) 0 := by
        rw [Nat.pos_iff_ne_zero]
        intro h0
        rw [h0, Nat.toDigits_zero] at hg
        exact hlong (by rw [← hg]; rfl)
      rw [← Nat.toDigits_append_toDigits (by omega) hpos hd, hg, Nat.toDigits_of_lt_base hd, hc]

/-- Decimal digits contain no character outside the digits. -/
theorem not_mem_toDigits (hc : c.isDigit = false) : c ∉ Nat.toDigits 10 n := fun hm => by
  rw [Nat.isDigit_of_mem_toDigits (by omega) (by omega) hm] at hc
  cases hc

/-- The value of a run of digits is 0 exactly if all of them are. -/
theorem ofDigitChars_eq_zero_iff {s : List Char} (hs : ∀ c ∈ s, c.isDigit = true) :
    Nat.ofDigitChars 10 s 0 = 0 ↔ s = List.replicate s.length '0' := by
  induction s with
  | nil => simp
  | cons c s ih =>
    obtain ⟨hc, hrest⟩ := List.forall_mem_cons.mp hs
    obtain ⟨d, hd, rfl, hval⟩ := exists_digitChar hc
    rw [Nat.ofDigitChars_cons, hval, Nat.ofDigitChars_eq_ofDigitChars_zero, List.length_cons,
      List.replicate_succ, List.cons.injEq, ← ih hrest]
    have hpow : 0 < 10 ^ s.length := by positivity
    have hdigit : Nat.digitChar d = '0' ↔ d = 0 := by
      interval_cases d <;> decide
    rw [hdigit]
    constructor
    · intro h
      rcases Nat.eq_zero_or_pos d with h0 | hpos
      · subst h0
        exact ⟨rfl, by simpa using h⟩
      · have : 0 < 10 ^ s.length * (10 * 0 + d) := by positivity
        omega
    · rintro ⟨rfl, h⟩
      simpa using h

/-- The value of a number with other digits in front is the same exactly if these are zeros. -/
theorem parseDigits_append_iff {w : List Char} :
    parseDigits 10 (w ++ Nat.toDigits 10 n) = some n ↔ w = List.replicate w.length '0' := by
  have hne : Nat.toDigits 10 n ≠ [] := Nat.toDigits_ne_nil
  have hall : (Nat.toDigits 10 n).all (isDigitOf 10) = true := by
    rw [List.all_eq_true]
    intro c hc
    exact isDigitOf_ten_of_isDigit (Nat.isDigit_of_mem_toDigits (by omega) (by omega) hc)
  rw [parseDigits]
  by_cases hw : w.all (isDigitOf 10) = true
  · have hdigits : ∀ c ∈ w, c.isDigit = true := by
      intro c hc
      have := List.all_eq_true.mp hw c hc
      rw [isDigitOf, Bool.and_eq_true] at this
      exact this.1
    rw [if_pos ⟨by simp [hne], by rw [List.all_append, hw, hall]; rfl⟩, Option.some.injEq,
      ← ofDigitChars_eq_zero_iff hdigits, Nat.ofDigitChars_append,
      Nat.ofDigitChars_eq_ofDigitChars_zero, Nat.ofDigitChars_toDigits (by omega) (by omega)]
    have hpow : 0 < 10 ^ (Nat.toDigits 10 n).length := by positivity
    constructor
    · intro h
      have hzero : 10 ^ (Nat.toDigits 10 n).length * Nat.ofDigitChars 10 w 0 = 0 := by omega
      exact (Nat.mul_eq_zero.mp hzero).resolve_left (by omega)
    · intro h
      rw [h]
      simp
  · refine iff_of_false ?_ ?_
    · rw [if_neg (by simp [hw])]
      exact nofun
    · intro h
      refine hw ?_
      rw [h, List.all_replicate]
      simp [isDigitOf]


theorem positive_eq_iff {o : Option Nat} (hmax : (n : Int) ≤ maxInt64) :
    parseInt.positive o = ((n : Int), true) ↔ o = some n := by
  cases o with
  | none => simp [parseInt.positive]
  | some m =>
    rw [parseInt.positive]
    split
    · simp
    · next hlarge =>
      refine iff_of_false (by simp) fun h => hlarge ?_
      rw [Option.some.inj h]
      exact hmax

/-- **A number is read with something in front of it as the number alone exactly if that is a plus
sign, or nothing, and zeros.** -/
theorem parseInt_append_formatInt_iff {w : List Char} {n : Int} (h0 : 0 < n) (hmax : n ≤ maxInt64) :
    parseInt 10 (w ++ formatInt 10 n) = (n, true) ↔
      ∃ k, w = List.replicate k '0' ∨ w = '+' :: List.replicate k '0' := by
  obtain ⟨m, rfl⟩ := Int.eq_ofNat_of_zero_le h0.le
  have hzeros : ∀ w : List Char, (∃ k, w = List.replicate k '0') ↔
      w = List.replicate w.length '0' := by
    intro w
    refine ⟨?_, fun h => ⟨_, h⟩⟩
    rintro ⟨k, rfl⟩
    rw [List.length_replicate]
  show parseInt 10 (w ++ Nat.toDigits 10 m) = _ ↔ _
  rw [exists_or, hzeros]
  rw [parseInt.eq_def]
  split
  · next rest heq =>
    -- a negative number
    refine iff_of_false ?_ ?_
    · split
      · simp
      · split
        · rw [Prod.mk.injEq]
          omega
        · simp
    · have hhead := congrArg List.head? heq
      rintro (h | ⟨k, rfl⟩)
      · cases w with
        | nil => exact absurd (List.mem_of_mem_head? hhead) (not_mem_toDigits (by decide))
        | cons c w =>
          rw [List.length_cons, List.replicate_succ] at h
          rw [(List.cons.inj h).1] at hhead
          cases hhead
      · cases hhead
  · next rest heq =>
    rw [positive_eq_iff hmax]
    cases w with
    | nil => exact absurd (heq ▸ List.mem_cons_self) (not_mem_toDigits (n := m) (by decide))
    | cons c w =>
      rw [List.cons_append] at heq
      obtain ⟨rfl, rfl⟩ := List.cons.inj heq
      rw [parseDigits_append_iff, ← hzeros]
      simp [List.replicate_succ]
  · next hminus hplus =>
    rw [positive_eq_iff hmax, parseDigits_append_iff, or_iff_left]
    rintro ⟨k, rfl⟩
    exact hplus _ rfl

end MultiNicCni.Go
