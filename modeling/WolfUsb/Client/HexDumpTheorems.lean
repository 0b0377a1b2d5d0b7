/-
WolfUsb.Client.HexDumpTheorems — the dump of a byte string is aligned and
loses nothing.

The loop over the bytes of a chunk and the loop that pads it write the same
sixteen cells of three characters, with a gap before the ninth: each loop
writes the gap if the ninth cell is its own (`hexColumns_padding`). So the
columns are the same in every line, and a reader of the columns gets the
chunk back (`hex_dump_aligned`).
-/
import WolfUsb.Client.Display
import WolfUsb.Lib.Columns
import WolfUsb.Lib.Numerals

namespace WolfUsb.Display

open Lib

/-! ## Sixteen cells -/

/-- The digits of a byte and a blank, or three blanks. -/
def cell : Option UInt8 → List Char
  | some byte => lowerHex 2 byte.toNat ++ [' ']
  | none => [' ', ' ', ' ']

def gap (j : Nat) : List Char := if j = 8 then [' '] else []

def cells (bytes : Nat → Option UInt8) (n : Nat) : List Char :=
  (List.range n).flatMap fun j => gap j ++ cell (bytes j)

theorem cells_succ (bytes : Nat → Option UInt8) (n : Nat) :
    cells bytes (n + 1) = cells bytes n ++ (gap n ++ cell (bytes n)) := by
  simp [cells, List.range_succ]

theorem lowerHex_byte {n : Nat} (hn : n < 256) :
    lowerHex 2 n = [Nat.digitChar (n / 16), Nat.digitChar (n % 16)] := by
  by_cases hsmall : n < 16
  · have hhigh : n / 16 = 0 := by omega
    have hlow : n % 16 = n := by omega
    rw [lowerHex, zeroPadded, numeralIn, Nat.toDigits_of_lt_base hsmall, hhigh, hlow]
    rfl
  · have hhigh : n / 16 < 16 := by omega
    rw [lowerHex, zeroPadded, numeralIn, Nat.toDigits_of_base_le (by decide) (by omega),
      Nat.toDigits_of_lt_base hhigh]
    rfl

theorem length_cell (byte : Option UInt8) : (cell byte).length = 3 := by
  cases byte with
  | none => rfl
  | some byte => simp [cell, lowerHex_byte byte.toNat_lt]

theorem length_cells (bytes : Nat → Option UInt8) (n : Nat) :
    (cells bytes n).length = 3 * n + if 8 < n then 1 else 0 := by
  induction n with
  | zero => rfl
  | succ n ih =>
      rw [cells_succ, List.length_append, List.length_append, length_cell, ih, gap]
      split <;> split <;> split <;> simp <;> omega

/-- Where the cell `j` begins. -/
theorem length_cells_gap (bytes : Nat → Option UInt8) (j : Nat) :
    (cells bytes j ++ gap j).length = 3 * j + if 8 ≤ j then 1 else 0 := by
  rw [List.length_append, length_cells, gap]
  split <;> split <;> split <;> simp <;> omega

/-- The loop over the bytes writes the cells of the bytes. -/
theorem hexColumns_eq (chunk : Bytes) : hexColumns chunk = cells (chunk[·]?) chunk.length := by
  induction chunk using List.reverseRecOn with
  | nil => rfl
  | append_singleton front byte ih =>
      have hlast : hexColumns (front ++ [byte])
          = hexColumns front ++ (gap front.length ++ cell (some byte)) := by
        simp [hexColumns, List.zipIdx_append, gap, cell]
      have hfront : cells ((front ++ [byte])[·]?) front.length
          = cells (front[·]?) front.length := by
        refine List.flatMap_congr fun j hj => ?_
        dsimp only
        rw [List.getElem?_append_left (List.mem_range.mp hj)]
      rw [hlast, ih, List.length_append, List.length_singleton, cells_succ, hfront]
      simp

/-- **Between them the two loops write the gap once**, and sixteen cells. -/
theorem hexColumns_padding {chunk : Bytes} (h : chunk.length ≤ 16) :
    hexColumns chunk ++ padding chunk.length = cells (chunk[·]?) 16 := by
  have hpadding : padding chunk.length
      = ((List.range (16 - chunk.length)).map (chunk.length + ·)).flatMap
          fun j => gap j ++ cell chunk[j]? := by
    rw [padding, List.flatMap_map]
    refine List.flatMap_congr fun j _ => ?_
    rw [List.getElem?_eq_none (Nat.le_add_right _ j)]
    rfl
  have hsplit : List.range 16
      = List.range chunk.length ++ (List.range (16 - chunk.length)).map (chunk.length + ·) := by
    rw [← List.range_add, Nat.add_sub_cancel' h]
  rw [hexColumns_eq, hpadding, cells, cells, hsplit, List.flatMap_append]

/-! ## One line -/

/-- A line without its line terminator. -/
def dumpText (offset : Nat) (chunk : Bytes) : List Char :=
  lowerHex 8 offset ++ [' ', ' '] ++ cells (chunk[·]?) 16 ++ [' ', '|'] ++ chunk.map shown ++ ['|']

/-- The opening bar. -/
theorem dumpText_eq (offset : Nat) (chunk : Bytes) :
    dumpText offset chunk = (lowerHex 8 offset ++ [' ', ' '] ++ cells (chunk[·]?) 16 ++ [' ']) ++
      '|' :: (chunk.map shown ++ ['|']) := by
  simp [dumpText]

theorem dumpLine_eq {chunk : Bytes} (h : chunk.length ≤ 16) (offset : Nat) :
    dumpLine offset chunk = dumpText offset chunk ++ ['\n'] := by
  rw [dumpLine, dumpText, ← hexColumns_padding h]
  simp

/-- A digit, a blank or a character that is shown is printable. -/
def Printable (c : Char) : Prop := 0x20 ≤ c.toNat ∧ c.toNat ≤ 0x7e

theorem shown_printable (byte : UInt8) : Printable (shown byte) := by
  have hall : ∀ n : Fin 256, Printable (shown (UInt8.ofNat n.val)) := by
    unfold Printable
    decide +kernel
  have hbyte := hall ⟨byte.toNat, byte.toNat_lt⟩
  rwa [UInt8.ofNat_toNat] at hbyte

/-- Before the opening bar there are hexadecimal digits and blanks. -/
theorem mem_front {offset : Nat} {bytes : Nat → Option UInt8} {n : Nat} {c : Char}
    (h : c ∈ lowerHex 8 offset ++ [' ', ' '] ++ cells bytes n ++ [' ']) :
    c = ' ' ∨ ∃ d < 16, c = Nat.digitChar d := by
  have hhex {width v : Nat} (hc : c ∈ lowerHex width v) : ∃ d < 16, c = Nat.digitChar d := by
    change c ∈ numeralIn 16 (width - (Nat.toDigits 16 v).length) v at hc
    exact mem_numeralIn (by decide) hc
  simp only [List.mem_append, List.mem_cons, List.not_mem_nil, or_false, or_self] at h
  rcases h with ((h | h) | h) | h
  · exact Or.inr (hhex h)
  · exact Or.inl h
  · obtain ⟨j, -, hj⟩ := List.mem_flatMap.mp h
    rcases List.mem_append.mp hj with hj | hj
    · unfold gap at hj
      split at hj
      · exact Or.inl (List.mem_singleton.mp hj)
      · cases hj
    · cases hbyte : bytes j with
      | none =>
          rw [hbyte] at hj
          exact Or.inl (by simpa [cell] using hj)
      | some byte =>
          rw [hbyte] at hj
          rcases List.mem_append.mp hj with hj | hj
          · exact Or.inr (hhex hj)
          · exact Or.inl (List.mem_singleton.mp hj)
  · exact Or.inl h

/-- The cell `j` in a line of `n` cells. -/
theorem exists_cells_eq (bytes : Nat → Option UInt8) {j n : Nat} (h : j < n) :
    ∃ more, cells bytes n = cells bytes j ++ gap j ++ (cell (bytes j) ++ more) := by
  induction n with
  | zero => cases h
  | succ n ih =>
      rw [cells_succ]
      rcases Nat.lt_succ_iff_lt_or_eq.mp h with hlt | rfl
      · obtain ⟨more, hmore⟩ := ih hlt
        exact ⟨more ++ (gap n ++ cell (bytes n)), by rw [hmore]; simp⟩
      · exact ⟨[], by simp⟩

/-! ## The columns are read -/

/-- Where the digits of byte `j` of a line stand. -/
def column (j : Nat) : Nat := 10 + (3 * j + if 8 ≤ j then 1 else 0)

def byteAt (line : List Char) (j : Nat) : Option UInt8 :=
  match (line.drop (column j)).take 2 with
  | [c, d] =>
      if c.isHexDigit && d.isHexDigit then some (UInt8.ofNat (16 * hexValue c + hexValue d))
      else none
  | _ => none

/-- The bytes in the sixteen columns of a line. -/
def readColumns (line : List Char) : Bytes := (List.range 16).filterMap (byteAt line)

/-- The line of the dump with number `k`, for this chunk: the offset, the
column of the opening bar, the text between the bars and the columns. -/
structure LineOf (k : Nat) (chunk : Bytes) (line : List Char) : Prop where
  width : (line.take 8).length = 8
  digits : ∀ c ∈ line.take 8, c.isHexDigit = true
  offset : digitsValue 16 0 (line.take 8) = 16 * k
  bar : line.idxOf '|' = 60
  text : ∃ text, line.drop 61 = text ++ ['|'] ∧ text.length = chunk.length ∧
    ∀ c ∈ text, Printable c
  bytes : readColumns line = chunk

theorem length_lowerHex {n : Nat} (hn : n < 16 ^ 8) : (lowerHex 8 n).length = 8 := by
  have hle : (Nat.toDigits 16 n).length ≤ 8 :=
    (Nat.length_toDigits_le_iff (by decide) (by decide)).mpr hn
  rw [lowerHex, zeroPadded, numeralIn, List.length_append, List.length_replicate]
  omega

theorem byteAt_cell (byte : Option UInt8) {line more : List Char} {j : Nat}
    (h : line.drop (column j) = cell byte ++ more) : byteAt line j = byte := by
  unfold byteAt
  rw [h]
  cases byte with
  | none => rfl
  | some byte =>
      have hbyte := byte.toNat_lt
      obtain ⟨hhigh, hhighValue⟩ := digitChar_hex (byte.toNat / 16) (by omega)
      obtain ⟨hlow, hlowValue⟩ := digitChar_hex (byte.toNat % 16) (by omega)
      have hvalue : UInt8.ofNat (16 * (byte.toNat / 16) + byte.toNat % 16) = byte := by
        rw [Nat.div_add_mod, UInt8.ofNat_toNat]
      simp [cell, lowerHex_byte hbyte, hhigh, hlow, hhighValue, hlowValue, hvalue]

theorem filterMap_getElem? (chunk : Bytes) {n : Nat} (h : chunk.length ≤ n) :
    (List.range n).filterMap (chunk[·]?) = chunk := by
  induction chunk generalizing n with
  | nil => simp
  | cons byte rest ih =>
      match n with
      | n + 1 =>
          have hrest := ih (Nat.le_of_succ_le_succ h)
          rw [List.range_succ_eq_map, List.filterMap_cons, List.filterMap_map]
          exact congrArg (byte :: ·) hrest

/-- **A line of the dump**, of a chunk of at most sixteen bytes. -/
theorem lineOf_dumpText {k : Nat} {chunk : Bytes} (hk : 16 * k < 2 ^ 32)
    (hchunk : chunk.length ≤ 16) : LineOf k chunk (dumpText (k * 16) chunk) := by
  have hwidth : (lowerHex 8 (k * 16)).length = 8 := length_lowerHex (by omega)
  have htake : (dumpText (k * 16) chunk).take 8 = lowerHex 8 (k * 16) := by
    simp only [dumpText, List.append_assoc]
    exact List.take_left' hwidth
  -- the line up to the opening bar
  have hfront : (lowerHex 8 (k * 16) ++ [' ', ' '] ++ cells (chunk[·]?) 16 ++ [' ']).length
      = 60 := by
    simp [hwidth, length_cells]
  have hbar := dumpText_eq (k * 16) chunk
  have hnobar : '|' ∉ lowerHex 8 (k * 16) ++ [' ', ' '] ++ cells (chunk[·]?) 16 ++ [' '] := by
    intro hmem
    rcases mem_front hmem with h | ⟨d, hd, h⟩
    · cases h
    · have hhex := (digitChar_hex d hd).1
      rw [← h] at hhex
      cases hhex
  have hparse : parseDigits 16 (2 ^ 32 - 1) 0 (lowerHex 8 (k * 16)) = .ok (k * 16) :=
    parseDigits_numeralIn (by decide) (by decide) _ (by omega)
  obtain ⟨hdigits, hvalue, -⟩ := (parseDigits_eq_ok_iff (by decide) (by decide) _).mp hparse
  constructor
  · rw [htake, hwidth]
  · rw [htake]
    exact fun c hc => isSome_toDigit_hex.mp (hdigits c hc)
  · rw [htake, hvalue, Nat.mul_comm]
  · rw [hbar, List.idxOf_append_of_notMem hnobar, hfront, List.idxOf_cons_self]
  · refine ⟨chunk.map shown, ?_, List.length_map _, ?_⟩
    · rw [hbar, List.append_cons]
      exact List.drop_left' (by rw [List.length_append, hfront]; rfl)
    · intro c hc
      obtain ⟨byte, -, rfl⟩ := List.mem_map.mp hc
      exact shown_printable byte
  · have hcolumns : ∀ j ∈ List.range 16, byteAt (dumpText (k * 16) chunk) j = chunk[j]? := by
      intro j hj
      obtain ⟨more, hmore⟩ := exists_cells_eq (chunk[·]?) (List.mem_range.mp hj)
      have hsplit : dumpText (k * 16) chunk
          = (lowerHex 8 (k * 16) ++ [' ', ' '] ++ (cells (chunk[·]?) j ++ gap j)) ++
            (cell chunk[j]? ++ (more ++ ([' ', '|'] ++ (chunk.map shown ++ ['|'])))) := by
        rw [dumpText, hmore]
        simp only [List.append_assoc]
      have hcolumn : (lowerHex 8 (k * 16) ++ [' ', ' '] ++ (cells (chunk[·]?) j ++ gap j)).length
          = column j := by
        rw [List.length_append, List.length_append, hwidth, length_cells_gap]
        rfl
      rw [hsplit]
      exact byteAt_cell _ (List.drop_left' hcolumn)
    rw [readColumns, List.filterMap_congr hcolumns]
    exact filterMap_getElem? chunk hchunk

/-! ## The dump -/

theorem printable_dumpText {offset : Nat} {chunk : Bytes} {c : Char}
    (h : c ∈ dumpText offset chunk) : Printable c := by
  have hdigit : ∀ d < 16, Printable (Nat.digitChar d) := by
    unfold Printable
    decide +kernel
  rw [dumpText_eq] at h
  rcases List.mem_append.mp h with h | h
  · rcases mem_front h with rfl | ⟨d, hd, rfl⟩
    · exact ⟨by decide, by decide⟩
    · exact hdigit d hd
  rcases List.mem_cons.mp h with rfl | h
  · exact ⟨by decide, by decide⟩
  rcases List.mem_append.mp h with h | h
  · obtain ⟨byte, -, rfl⟩ := List.mem_map.mp h
    exact shown_printable byte
  · obtain rfl := List.mem_singleton.mp h
    exact ⟨by decide, by decide⟩

/-- The texts of the lines. -/
def dumpTexts (data : Bytes) : List (List Char) :=
  (List.range ((data.length + 15) / 16)).map fun k =>
    dumpText (k * 16) ((data.drop (16 * k)).take 16)

theorem hexDump_eq (data : Bytes) : hexDump data = setFile (dumpTexts data) := by
  have hindexed : (chunks 16 data).zipIdx
      = (List.range ((data.length + 15) / 16)).map fun k =>
          ((data.drop (16 * k)).take 16, k) := by
    refine List.ext_getElem (by simp) fun k _ _ => ?_
    simp [chunks]
  rw [hexDump, setFile, dumpTexts, hindexed, List.flatMap_map, List.flatMap_map]
  refine congrArg String.ofList (List.flatMap_congr fun k _ => ?_)
  exact dumpLine_eq (List.length_take_le 16 _) (k * 16)

/-- No character of a line is a line terminator. -/
theorem lines_hexDump (data : Bytes) :
    lines (hexDump data) = (dumpTexts data).map String.ofList := by
  have hprintable : ∀ l ∈ dumpTexts data, ∀ c ∈ l, Printable c := by
    intro l hl
    obtain ⟨k, -, rfl⟩ := List.mem_map.mp hl
    exact fun c hc => printable_dumpText hc
  rw [hexDump_eq]
  refine lines_setFile (fun l hl hc => ?_) fun l hl => ?_
  · exact absurd (hprintable l hl _ hc).1 (by decide)
  · refine if_neg fun hlast => ?_
    exact absurd (hprintable l hl _ (List.mem_of_getLast? hlast)).1 (by decide)

/-- **The dump is aligned and loses nothing**: as many lines as there are
chunks of sixteen, each of them as `LineOf` says, and together their
columns are the bytes. -/
theorem hex_dump_aligned (data : Bytes) (h : data.length < 2 ^ 32) :
    (lines (hexDump data)).length = (data.length + 15) / 16 ∧
    (∀ k line, (lines (hexDump data))[k]? = some line →
      LineOf k ((data.drop (16 * k)).take 16) line.toList) ∧
    (lines (hexDump data)).flatMap (fun line => readColumns line.toList) = data := by
  have hline : ∀ k < (data.length + 15) / 16,
      LineOf k ((data.drop (16 * k)).take 16)
        (dumpText (k * 16) ((data.drop (16 * k)).take 16)) := by
    intro k hk
    exact lineOf_dumpText (by omega) (List.length_take_le 16 _)
  rw [lines_hexDump]
  refine ⟨by simp [dumpTexts], ?_, ?_⟩
  · intro k line hk
    simp only [dumpTexts, List.getElem?_map, Option.map_eq_some_iff] at hk
    obtain ⟨text, ⟨k', hk', rfl⟩, rfl⟩ := hk
    obtain ⟨hlt, rfl⟩ := List.getElem?_eq_some_iff.mp hk'
    rw [List.length_range] at hlt
    rw [List.getElem_range, String.toList_ofList]
    exact hline k hlt
  · have hread : ∀ k ∈ List.range ((data.length + 15) / 16),
        readColumns (dumpText (k * 16) ((data.drop (16 * k)).take 16))
          = (data.drop (16 * k)).take 16 :=
      fun k hk => (hline k (List.mem_range.mp hk)).bytes
    have hflatten := flatten_chunks (n := 16) (by decide) data
    rw [chunks, ← List.flatMap_def] at hflatten
    simp only [dumpTexts, List.flatMap_map, String.toList_ofList]
    rw [List.flatMap_congr hread]
    exact hflatten

/-- Twenty bytes on two lines. -/
theorem hex_dump_aligned_twenty :
    (lines (hexDump (List.replicate 20 0x41))).flatMap (fun line => readColumns line.toList)
      = List.replicate 20 0x41 :=
  (hex_dump_aligned (List.replicate 20 0x41) (by decide)).2.2

end WolfUsb.Display
