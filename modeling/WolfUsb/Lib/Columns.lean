/-
WolfUsb.Lib.Columns — text files of lines and columns: the functions of
Rust's standard library that take them apart, and what they yield of a
file that a writer has set.

A `Column` carries the proof that it is one word; a line is a column and
then gaps and columns, in any spacing. `splitWhitespace_setLine` and
`lines_setFile` say that a file is read as it was set,
`fromStrRadix_numeral` that a number is, however many zeros it is padded
with.
-/
import WolfUsb.Lib.Text

namespace WolfUsb.Lib

/-! ## Taking a text apart -/

/-- `str::split_whitespace`. -/
def splitWhitespace (s : String) : List String :=
  ((s.toList.splitOnP isWhitespace).filter (!·.isEmpty)).map String.ofList

/-- The line terminator `\r\n` as `str::lines` sees it, the `\n` gone. -/
def stripCr (line : List Char) : List Char :=
  if line.getLast? = some '\r' then line.dropLast else line

/-- The pieces between the newlines as lines: all but the last were
terminated, and the last is a line if it is not empty. -/
def linesOf : List (List Char) → List (List Char)
  | [] => []
  | [last] => if last.isEmpty then [] else [last]
  | line :: next :: rest => stripCr line :: linesOf (next :: rest)

/-- `str::lines`. -/
def lines (s : String) : List String := (linesOf (s.toList.splitOn '\n')).map String.ofList

/-! ## Setting a text -/

/-- A word: what stands between blanks. -/
structure Column where
  chars : List Char
  ne_nil : chars ≠ []
  plain : ∀ c ∈ chars, isWhitespace c = false

theorem plain_of_all {cs : List Char} (h : cs.all (!isWhitespace ·) = true) :
    ∀ c ∈ cs, isWhitespace c = false := by
  simpa using h

def Column.text (c : Column) : String := String.ofList c.chars

inductive Blank where
  | space
  | tab
  deriving DecidableEq

def Blank.char : Blank → Char
  | space => ' '
  | tab => '\t'

/-- One blank or more. -/
structure Gap where
  first : Blank := .space
  more : List Blank := []

def Gap.chars (g : Gap) : List Char := (g.first :: g.more).map Blank.char

/-- A line of columns. -/
def setLine (first : Column) (rest : List (Gap × Column)) : List Char :=
  first.chars ++ rest.flatMap fun gc => gc.1.chars ++ gc.2.chars

/-- A file of lines. -/
def setFile (ls : List (List Char)) : String := String.ofList (ls.flatMap (· ++ ['\n']))

/-! ## Columns are read as they were set -/

theorem Blank.isWhitespace_char (b : Blank) : isWhitespace b.char = true := by
  cases b <;> decide

/-- The words of a list of characters. -/
abbrev wordsOf (cs : List Char) : List (List Char) :=
  (cs.splitOnP isWhitespace).filter (!·.isEmpty)

theorem wordsOf_column (c : Column) : wordsOf c.chars = [c.chars] := by
  rw [wordsOf, List.splitOnP_eq_singleton c.plain]
  simp [c.ne_nil]

theorem wordsOf_column_blank (c : Column) (b : Blank) (rest : List Char) :
    wordsOf (c.chars ++ b.char :: rest) = c.chars :: wordsOf rest := by
  rw [wordsOf, List.splitOnP_append_cons_of_forall_mem c.plain b.char b.isWhitespace_char]
  simp [c.ne_nil]

theorem wordsOf_blanks (bs : List Blank) (rest : List Char) :
    wordsOf (bs.map Blank.char ++ rest) = wordsOf rest := by
  induction bs with
  | nil => rfl
  | cons b bs ih =>
      have hcut : (b.char :: (bs.map Blank.char ++ rest)).splitOnP isWhitespace
          = [] :: (bs.map Blank.char ++ rest).splitOnP isWhitespace :=
        List.splitOnP_append_cons [] (bs.map Blank.char ++ rest) b.isWhitespace_char
      rw [List.map_cons, List.cons_append, wordsOf, hcut]
      simpa using ih

theorem wordsOf_setLine (first : Column) (rest : List (Gap × Column)) :
    wordsOf (setLine first rest) = first.chars :: rest.map (·.2.chars) := by
  induction rest generalizing first with
  | nil => simp [setLine, wordsOf_column]
  | cons gc rest ih =>
      obtain ⟨g, c⟩ := gc
      have hline : setLine first ((g, c) :: rest) =
          first.chars ++ g.first.char :: (g.more.map Blank.char ++ setLine c rest) := by
        simp [setLine, Gap.chars]
      rw [hline, wordsOf_column_blank, wordsOf_blanks, ih c]
      rfl

/-- A line is read as the columns it was set from. -/
theorem splitWhitespace_setLine (first : Column) (rest : List (Gap × Column)) :
    splitWhitespace (String.ofList (setLine first rest))
      = first.text :: rest.map (·.2.text) := by
  rw [splitWhitespace, String.toList_ofList]
  show (wordsOf (setLine first rest)).map String.ofList = _
  rw [wordsOf_setLine]
  simp [Column.text]

/-! ## Lines are read as they were set -/

/-- A character of a line of columns is no line terminator. -/
theorem ne_of_mem_setLine {first : Column} {rest : List (Gap × Column)} {c : Char}
    (h : c ∈ setLine first rest) : c ≠ '\n' ∧ c ≠ '\r' := by
  have hplain : ∀ col : Column, c ∈ col.chars → c ≠ '\n' ∧ c ≠ '\r' := by
    intro col hc
    have hnot := col.plain c hc
    constructor <;> rintro rfl <;> exact absurd hnot (by decide)
  simp only [setLine, List.mem_append, List.mem_flatMap] at h
  rcases h with h | ⟨gc, -, h | h⟩
  · exact hplain first h
  · obtain ⟨b, -, rfl⟩ := List.mem_map.mp h
    cases b <;> decide
  · exact hplain gc.2 h

/-- A line of columns does not end in a carriage return. -/
theorem stripCr_setLine (first : Column) (rest : List (Gap × Column)) :
    stripCr (setLine first rest) = setLine first rest := by
  unfold stripCr
  split
  · rename_i hlast
    exact absurd rfl (ne_of_mem_setLine (List.mem_of_getLast? hlast)).2
  · rfl

/-- A file is read as the lines it was set from, if none of them has a
line terminator of its own. -/
theorem lines_setFile {ls : List (List Char)} (hno : ∀ l ∈ ls, '\n' ∉ l)
    (hcr : ∀ l ∈ ls, stripCr l = l) : lines (setFile ls) = ls.map String.ofList := by
  have hlines : linesOf ((ls.flatMap (· ++ ['\n'])).splitOn '\n') = ls := by
    induction ls with
    | nil => rfl
    | cons l rest ih =>
        rw [List.forall_mem_cons] at hno hcr
        rw [List.flatMap_cons, List.append_assoc, List.singleton_append,
          List.splitOn_append_cons_self_of_not_mem hno.1]
        obtain ⟨next, more, hnext⟩ := List.exists_cons_of_ne_nil
          (List.splitOn_ne_nil '\n' (rest.flatMap (· ++ ['\n'])))
        rw [hnext, linesOf, ← hnext, ih hno.2 hcr.2, hcr.1]
  rw [lines, setFile, String.toList_ofList, hlines]

/-- A file of lines of columns. -/
theorem lines_setFile_columns (ls : List (Column × List (Gap × Column))) :
    lines (setFile (ls.map fun l => setLine l.1 l.2))
      = ls.map fun l => String.ofList (setLine l.1 l.2) := by
  rw [lines_setFile, List.map_map]
  · rfl
  · simp only [List.forall_mem_map]
    exact fun l _ h => (ne_of_mem_setLine h).1 rfl
  · simp only [List.forall_mem_map]
    exact fun l _ => stripCr_setLine l.1 l.2

/-! ## Numbers are read as they were set -/

/-- A number in a radix of at most 16, padded with zeros. -/
def numeralIn (radix zeros n : Nat) : List Char :=
  List.replicate zeros '0' ++ Nat.toDigits radix n

/-- A number in decimal, padded with zeros. -/
def numeral (zeros n : Nat) : List Char := numeralIn 10 zeros n

/-- A number with as many zeros as make up the width, `format!("{n:0width$}")`. -/
def zeroPadded (radix width n : Nat) : List Char :=
  numeralIn radix (width - (Nat.toDigits radix n).length) n

theorem numeralIn_ne_nil (radix zeros n : Nat) : numeralIn radix zeros n ≠ [] := by
  simp [numeralIn]

/-- A digit is not a blank, a sign, a point or the `x` of `0x`. -/
theorem digitChar_plain : ∀ d < 16, isWhitespace (Nat.digitChar d) = false ∧
    Nat.digitChar d ∉ ['+', '-', '.', 'x'] := by
  decide

theorem toDigit_digitChar {radix d : Nat} (hd : d < radix) (hradix : radix ≤ 16) :
    toDigit radix (Nat.digitChar d) = some d := by
  have h16 : ∀ d < 16, toDigit 16 (Nat.digitChar d) = some d := by decide
  have hvalue := h16 d (by omega)
  simp only [toDigit, Option.filter_eq_some_iff] at hvalue ⊢
  exact ⟨hvalue.1, by simpa using hd⟩

theorem mem_toDigits {radix : Nat} (hradix : 1 < radix) {n : Nat} {c : Char}
    (h : c ∈ Nat.toDigits radix n) : ∃ d < radix, c = Nat.digitChar d := by
  induction n using Nat.strongRecOn with
  | ind n ih =>
    by_cases hn : n < radix
    · rw [Nat.toDigits_of_lt_base hn, List.mem_singleton] at h
      exact ⟨n, hn, h⟩
    · rw [Nat.toDigits_of_base_le hradix (by omega), List.mem_append, List.mem_singleton] at h
      rcases h with h | h
      · exact ih _ (Nat.div_lt_self (by omega) hradix) h
      · exact ⟨n % radix, Nat.mod_lt n (by omega), h⟩

theorem mem_numeralIn {radix zeros n : Nat} (hradix : 1 < radix) {c : Char}
    (h : c ∈ numeralIn radix zeros n) : ∃ d < radix, c = Nat.digitChar d := by
  rcases List.mem_append.mp h with h | h
  · exact ⟨0, by omega, List.eq_of_mem_replicate h⟩
  · exact mem_toDigits hradix h

theorem numeralIn_plain {radix zeros n : Nat} (hradix : 1 < radix) (hle : radix ≤ 16) {c : Char}
    (h : c ∈ numeralIn radix zeros n) : isWhitespace c = false ∧ c ∉ ['+', '-', '.', 'x'] := by
  obtain ⟨d, hd, rfl⟩ := mem_numeralIn hradix h
  exact digitChar_plain d (by omega)

/-- A number as a column. -/
def Column.number (zeros n : Nat) : Column where
  chars := numeral zeros n
  ne_nil := numeralIn_ne_nil 10 zeros n
  plain _ hc := (numeralIn_plain (by decide) (by decide) hc).1

theorem parseDigits_append {radix max v : Nat} {front : List Char} {acc : Nat}
    (h : parseDigits radix max acc front = .ok v) (rest : List Char) :
    parseDigits radix max acc (front ++ rest) = parseDigits radix max v rest := by
  induction front generalizing acc with
  | nil =>
    cases h
    rfl
  | cons c front ih =>
    rw [parseDigits] at h
    rw [List.cons_append, parseDigits]
    split at h
    · cases h
    · rename_i d hd
      split at h
      · rename_i hmax
        simp only [hmax, if_true]
        exact ih h
      · cases h

theorem parseDigits_zeros {radix max : Nat} (hradix : 0 < radix) (hle : radix ≤ 16) (zeros : Nat) :
    parseDigits radix max 0 (List.replicate zeros '0') = .ok 0 := by
  have hzero : toDigit radix '0' = some 0 := toDigit_digitChar hradix hle
  induction zeros with
  | zero => rfl
  | succ zeros ih => simpa [List.replicate_succ, parseDigits, hzero] using ih

/-- Digits are read up to a value that fits. -/
theorem parseDigits_toDigits {radix max : Nat} (hradix : 1 < radix) (hle : radix ≤ 16) {n : Nat}
    (hn : n ≤ max) : parseDigits radix max 0 (Nat.toDigits radix n) = .ok n := by
  induction n using Nat.strongRecOn with
  | ind n ih =>
    by_cases hlt : n < radix
    · simp [Nat.toDigits_of_lt_base hlt, parseDigits, toDigit_digitChar hlt hle, hn]
    · have hfront := ih (n / radix) (Nat.div_lt_self (by omega) hradix)
        (Nat.le_trans (Nat.div_le_self n radix) hn)
      have hlast : toDigit radix (Nat.digitChar (n % radix)) = some (n % radix) :=
        toDigit_digitChar (Nat.mod_lt n (by omega)) hle
      have hvalue : n / radix * radix + n % radix = n := Nat.div_add_mod' n radix
      rw [Nat.toDigits_of_base_le hradix (by omega), parseDigits_append hfront]
      simp [parseDigits, hlast, hvalue, hn]

theorem parseDigits_numeralIn {radix max n : Nat} (hradix : 1 < radix) (hle : radix ≤ 16)
    (zeros : Nat) (h : n ≤ max) : parseDigits radix max 0 (numeralIn radix zeros n) = .ok n := by
  rw [numeralIn, parseDigits_append (parseDigits_zeros (by omega) hle zeros)]
  exact parseDigits_toDigits hradix hle h

/-- A number is read back, whatever zeros stand before it. -/
theorem fromStrRadix_numeralIn {radix max n : Nat} (hradix : 1 < radix) (hle : radix ≤ 16)
    (zeros : Nat) (h : n ≤ max) :
    fromStrRadix radix max (String.ofList (numeralIn radix zeros n)) = .ok n := by
  have hsign : ∀ c rest, numeralIn radix zeros n = c :: rest → c ≠ '+' ∧ c ≠ '-' := by
    intro c rest heq
    have hplain := (numeralIn_plain hradix hle (heq ▸ List.mem_cons_self)).2
    constructor <;> rintro rfl <;> exact hplain (by simp)
  rw [fromStrRadix, String.toList_ofList]
  split
  · rename_i heq
    exact absurd heq (numeralIn_ne_nil radix zeros n)
  · rename_i heq
    exact absurd rfl (hsign _ _ heq).1
  · rename_i heq
    exact absurd rfl (hsign _ _ heq).2
  · rename_i heq
    exact absurd rfl (hsign _ _ heq).1
  · exact parseDigits_numeralIn hradix hle zeros h

theorem fromStrRadix_numeral {max n : Nat} (zeros : Nat) (h : n ≤ max) :
    fromStrRadix 10 max (String.ofList (numeral zeros n)) = .ok n :=
  fromStrRadix_numeralIn (by decide) (by decide) zeros h

end WolfUsb.Lib
