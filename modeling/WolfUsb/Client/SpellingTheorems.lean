/-
WolfUsb.Client.SpellingTheorems — `parse_hex_data` reads a byte string from
every spelling of it.

The separators are gone before the prefixes are looked for, so that a byte
that ends in 0 stands next to the prefix of the next one. A pass over
chunks of a prefix and two digits still finds the prefixes only
(`removeMatches_marked`): what it looks for ends in a character that is no
digit, and in a spelling this one stands in prefixes only.
-/
import WolfUsb.Client.HexDataTheorems

namespace WolfUsb.Display

open Lib

/-! ## Spellings -/

inductive Separator where
  | blank
  | tab
  | colon
  deriving DecidableEq

def Separator.char : Separator → Char
  | blank => ' '
  | tab => '\t'
  | colon => ':'

/-- The second character of `0x` and `0X`. -/
inductive Marker where
  | lower
  | upper
  deriving DecidableEq

def Marker.char : Marker → Char
  | lower => 'x'
  | upper => 'X'

/-- A digit in either case. -/
def hexDigit (upper : Bool) (n : Nat) : Char :=
  if upper then (Nat.digitChar n).toUpper else Nat.digitChar n

/-- How a byte is spelled: what stands before it, its prefix, and the case
of its two digits. -/
structure Spelling where
  before : List Separator := []
  marker : Option Marker := none
  upperHigh : Bool := false
  upperLow : Bool := false

/-- A prefix, or none, and two digits. -/
def marked (x : Option Char × Char × Char) : List Char :=
  (match x.1 with
    | none => []
    | some m => ['0', m]) ++ [x.2.1, x.2.2]

def Spelling.digits (sp : Spelling) (byte : UInt8) : Option Char × Char × Char :=
  (sp.marker.map Marker.char, hexDigit sp.upperHigh (byte.toNat / 16),
    hexDigit sp.upperLow (byte.toNat % 16))

/-- A byte string, each byte in a spelling of its own, and what stands
behind the last. -/
def spell (items : List (UInt8 × Spelling)) (after : List Separator) : String :=
  String.ofList ((items.flatMap fun (byte, sp) =>
    sp.before.map Separator.char ++ marked (sp.digits byte)) ++ after.map Separator.char)

theorem hexDigit_spec (upper : Bool) {n : Nat} (hn : n < 16) :
    (hexDigit upper n).isHexDigit = true ∧ hexValue (hexDigit upper n) = n := by
  have hall : ∀ upper : Bool, ∀ n < 16,
      (hexDigit upper n).isHexDigit = true ∧ hexValue (hexDigit upper n) = n := by
    decide +kernel
  exact hall upper n hn

/-- The prefix is no hexadecimal digit, and the digits are. -/
structure Marked (x : Option Char × Char × Char) : Prop where
  marker : ∀ m ∈ x.1, m.isHexDigit = false
  high : x.2.1.isHexDigit = true
  low : x.2.2.isHexDigit = true

theorem Spelling.marked_digits (sp : Spelling) (byte : UInt8) : Marked (sp.digits byte) where
  marker m hm := by
    obtain ⟨mk, -, rfl⟩ := Option.map_eq_some_iff.mp hm
    cases mk <;> decide
  high := (hexDigit_spec sp.upperHigh (by have := byte.toNat_lt; omega)).1
  low := (hexDigit_spec sp.upperLow (by omega)).1

/-! ## The two passes -/

section Passes

variable {x : Char}

/-- A character that the second one of the pattern does not follow is kept. -/
theorem removeMatches_keep {c : Char} {rest : List Char} (h : rest.head? ≠ some x) :
    removeMatches ['0', x] 0 (c :: rest) = c :: removeMatches ['0', x] 0 rest := by
  refine removeMatches_cons ?_
  rintro ⟨more, hmore⟩
  obtain ⟨-, hrest⟩ := List.cons.inj hmore
  rw [← hrest] at h
  exact h rfl

variable (hx : x.isHexDigit = false)
include hx

theorem ne_of_isHexDigit {c : Char} (hc : c.isHexDigit = true) : some c ≠ some x := by
  rintro h
  rw [Option.some.inj h, hx] at hc
  cases hc

/-- No chunk begins with the second character of the pattern. -/
theorem head?_marked {items : List (Option Char × Char × Char)} (h : ∀ i ∈ items, Marked i) :
    (items.flatMap marked).head? ≠ some x := by
  cases items with
  | nil => nofun
  | cons i items =>
      have hi := h i List.mem_cons_self
      obtain ⟨m, high, low⟩ := i
      cases m with
      | none => exact ne_of_isHexDigit hx hi.high
      | some m => exact ne_of_isHexDigit hx (by decide : '0'.isHexDigit = true)

/-- One pass leaves out the prefixes it looks for, and nothing else. -/
theorem removeMatches_marked {items : List (Option Char × Char × Char)}
    (h : ∀ i ∈ items, Marked i) :
    removeMatches ['0', x] 0 (items.flatMap marked)
      = (items.map fun i => (i.1.filter (· ≠ x), i.2)).flatMap marked := by
  induction items with
  | nil => rfl
  | cons i items ih =>
      rw [List.forall_mem_cons] at h
      obtain ⟨hi, hitems⟩ := h
      have ih := ih hitems
      have hhead := head?_marked hx hitems
      obtain ⟨m, high, low⟩ := i
      -- neither digit is followed by the second character of the pattern
      have hlow : (low :: items.flatMap marked).head? ≠ some x := ne_of_isHexDigit hx hi.low
      have hdigits : removeMatches ['0', x] 0 (high :: low :: items.flatMap marked)
          = high :: low :: removeMatches ['0', x] 0 (items.flatMap marked) := by
        rw [removeMatches_keep hlow, removeMatches_keep hhead]
      cases m with
      | none => simp [marked, hdigits, ih]
      | some m =>
          by_cases hm : m = x
          · subst hm
            have hmatch : removeMatches ['0', m] 0 ('0' :: m :: high :: low :: items.flatMap marked)
                = removeMatches ['0', m] 0 (high :: low :: items.flatMap marked) :=
              removeMatches_match (by simp) _
            have hgone : (some m).filter (· ≠ m) = none := by simp [Option.filter]
            simp only [List.flatMap_cons, List.map_cons, hgone, ← ih]
            exact hmatch.trans hdigits
          · have hfirst : (m :: high :: low :: items.flatMap marked).head? ≠ some x := by
              simpa using hm
            have hsecond : (high :: low :: items.flatMap marked).head? ≠ some x :=
              ne_of_isHexDigit hx hi.high
            have hkept : (some m).filter (· ≠ x) = some m := by simp [Option.filter, hm]
            simp only [List.flatMap_cons, List.map_cons, hkept, ← ih]
            show removeMatches ['0', x] 0 ('0' :: m :: high :: low :: items.flatMap marked) = _
            rw [removeMatches_keep hfirst, removeMatches_keep hsecond, hdigits]
            rfl

end Passes

/-! ## Spellings are read -/

/-- A prefix and two digits are no separators. -/
theorem filter_marked (sp : Spelling) (byte : UInt8) :
    (marked (sp.digits byte)).filter (· ∉ [' ', ':', '\t']) = marked (sp.digits byte) := by
  have hdigit (c : Char) (hc : c.isHexDigit = true) : c ∉ [' ', ':', '\t'] := by
    intro hmem
    simp only [List.mem_cons, List.not_mem_nil, or_false] at hmem
    rcases hmem with rfl | rfl | rfl <;> cases hc
  have hm := sp.marked_digits byte
  have hhigh := hdigit _ hm.high
  have hlow := hdigit _ hm.low
  have hzero := hdigit '0' (by decide)
  rw [List.filter_eq_self]
  intro c hc
  rw [decide_eq_true_eq]
  obtain ⟨before, marker, upperHigh, upperLow⟩ := sp
  cases marker with
  | none =>
      rcases List.mem_pair.mp hc with rfl | rfl
      · exact hhigh
      · exact hlow
  | some mk =>
      have hmarker : mk.char ∉ [' ', ':', '\t'] := by cases mk <;> decide
      rcases List.mem_append.mp hc with hc | hc
      · rcases List.mem_pair.mp hc with rfl | rfl
        · exact hzero
        · exact hmarker
      · rcases List.mem_pair.mp hc with rfl | rfl
        · exact hhigh
        · exact hlow

/-- What is left of a spelling is its digits. -/
theorem strip_spell (items : List (UInt8 × Spelling)) (after : List Separator) :
    (strip (spell items after)).toList = items.flatMap fun (byte, sp) =>
      [hexDigit sp.upperHigh (byte.toNat / 16), hexDigit sp.upperLow (byte.toNat % 16)] := by
  have hseparator (ss : List Separator) :
      (ss.map Separator.char).filter (· ∉ [' ', ':', '\t']) = [] := by
    rw [List.filter_eq_nil_iff]
    intro c hc
    obtain ⟨s, -, rfl⟩ := List.mem_map.mp hc
    cases s <;> decide
  have hfilter : (removeChars [' ', ':', '\t'] (spell items after)).toList
      = (items.map fun (byte, sp) => sp.digits byte).flatMap marked := by
    rw [removeChars, spell, String.toList_ofList, String.toList_ofList, List.filter_append,
      hseparator, List.append_nil, List.filter_flatMap, List.flatMap_map]
    refine List.flatMap_congr fun item _ => ?_
    rw [List.filter_append, hseparator, List.nil_append, filter_marked]
  have hmarked : ∀ i ∈ items.map fun (byte, sp) => sp.digits byte, Marked i := by
    intro i hi
    obtain ⟨⟨byte, sp⟩, -, rfl⟩ := List.mem_map.mp hi
    exact sp.marked_digits byte
  have hmarked' : ∀ i ∈ (items.map fun (byte, sp) => sp.digits byte).map
      fun i => (i.1.filter (· ≠ 'x'), i.2), Marked i := by
    intro i hi
    obtain ⟨j, hj, rfl⟩ := List.mem_map.mp hi
    have hj := hmarked j hj
    exact ⟨fun m hm => hj.marker m (Option.mem_filter_iff.mp hm).1, hj.high, hj.low⟩
  simp only [strip, remove, String.toList_ofList, hfilter]
  show removeMatches ['0', 'X'] 0 (removeMatches ['0', 'x'] 0 _) = _
  rw [removeMatches_marked (by decide) hmarked, removeMatches_marked (by decide) hmarked',
    List.map_map, List.map_map, List.flatMap_map]
  refine List.flatMap_congr fun item _ => ?_
  obtain ⟨byte, before, marker, upperHigh, upperLow⟩ := item
  cases marker with
  | none => rfl
  | some mk => cases mk <;> rfl

theorem pairs_digits (items : List (UInt8 × Spelling)) :
    Pairs (items.flatMap fun (byte, sp) =>
      [hexDigit sp.upperHigh (byte.toNat / 16), hexDigit sp.upperLow (byte.toNat % 16)])
      (items.map Prod.fst) := by
  induction items with
  | nil => exact .nil
  | cons item items ih =>
      obtain ⟨byte, sp⟩ := item
      have hbyte := byte.toNat_lt
      obtain ⟨hhigh, hhighValue⟩ := hexDigit_spec sp.upperHigh (n := byte.toNat / 16) (by omega)
      obtain ⟨hlow, hlowValue⟩ := hexDigit_spec sp.upperLow (n := byte.toNat % 16) (by omega)
      have hpair := PairOf.digits hhigh hlow
      rw [hhighValue, hlowValue, Nat.div_add_mod, UInt8.ofNat_toNat] at hpair
      exact .cons hpair ih

/-- **`parse_hex_data` undoes every spelling** of a byte string. -/
theorem parse_hex_data_undoes_spelling (items : List (UInt8 × Spelling))
    (after : List Separator) :
    parseHexData (spell items after) = some (.ok (items.map Prod.fst)) := by
  have hpairs := pairs_digits items
  rw [← strip_spell items after] at hpairs
  have heven := hpairs.even
  rw [← byteLength_ascii hpairs.ascii] at heven
  exact ((runOf_parseHexData heven).reads _).mpr hpairs

end WolfUsb.Display
