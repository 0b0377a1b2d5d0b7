/-
WolfUsb.Lib.Text — the string functions of Rust's standard library that
programs use to read numbers and names out of text files.

A `str` is a `String`, and every function works on its list of characters.
`fromStrRadix` is the parser behind `u8::parse`, `u32::from_str_radix` and
the like for an unsigned type whose greatest value is `max`.
`asBytes` is the UTF-8 encoding; an ASCII character occurs in a string as
often as its byte occurs in the encoding (`count_asBytes`).
-/
import Mathlib.Data.List.DropRight

namespace WolfUsb.Lib

/-! ## Trimming and prefixes -/

/-- `char::is_whitespace`: the Unicode property `White_Space`. -/
def isWhitespace (c : Char) : Bool :=
  (0x09 ≤ c.toNat && c.toNat ≤ 0x0d) || (0x2000 ≤ c.toNat && c.toNat ≤ 0x200a) ||
    [0x20, 0x85, 0xa0, 0x1680, 0x2028, 0x2029, 0x202f, 0x205f, 0x3000].contains c.toNat

/-- `str::trim`. -/
def trim (s : String) : String :=
  String.ofList ((s.toList.dropWhile isWhitespace).rdropWhile isWhitespace)

/-- What stands between blanks, and has none, is what `trim` leaves. -/
theorem trim_surrounded {before content after : List Char}
    (hbefore : ∀ c ∈ before, isWhitespace c = true) (hafter : ∀ c ∈ after, isWhitespace c = true)
    (hcontent : ∀ c ∈ content, isWhitespace c = false) (hne : content ≠ []) :
    trim (String.ofList (before ++ content ++ after)) = String.ofList content := by
  have hfront : (content ++ after).dropWhile isWhitespace = content ++ after := by
    obtain ⟨c, rest, rfl⟩ := List.exists_cons_of_ne_nil hne
    simp [hcontent c List.mem_cons_self]
  have hback : (content ++ after).rdropWhile isWhitespace = content := by
    have hreverse :
        (after.reverse ++ content.reverse).dropWhile isWhitespace = content.reverse := by
      rw [List.dropWhile_append_of_pos (by simpa using hafter)]
      obtain ⟨c, rest, hc⟩ := List.exists_cons_of_ne_nil (List.reverse_ne_nil_iff.mpr hne)
      have hplain := hcontent c (List.mem_reverse.mp (hc ▸ List.mem_cons_self))
      rw [hc]
      simp [hplain]
    rw [List.rdropWhile, List.reverse_append, hreverse, List.reverse_reverse]
  rw [trim, String.toList_ofList, List.append_assoc, List.dropWhile_append_of_pos hbefore, hfront,
    hback]

/-- `s.strip_prefix(pre)`. -/
def stripPrefix (pre s : String) : Option String :=
  if pre.toList <+: s.toList then some (String.ofList (s.toList.drop pre.toList.length)) else none

theorem stripPrefix_eq_some {pre s rest : String} :
    stripPrefix pre s = some rest ↔ s = pre ++ rest := by
  unfold stripPrefix
  constructor
  · intro h
    split at h
    · rename_i hpre
      obtain ⟨tail, htail⟩ := hpre
      obtain rfl := Option.some.inj h
      apply String.toList_injective
      rw [String.toList_append, String.toList_ofList, ← htail, List.drop_left]
    · cases h
  · rintro rfl
    simp

/-- `s.split(c)`. -/
def splitChar (c : Char) (s : String) : List String := (s.toList.splitOn c).map String.ofList

/-! ## Numbers -/

/-- `std::num::IntErrorKind`, for an unsigned type. -/
inductive IntErrorKind where
  | empty
  | invalidDigit
  | posOverflow
  deriving DecidableEq, Repr

/-- The text of a `ParseIntError`. -/
def IntErrorKind.text : IntErrorKind → String
  | empty => "cannot parse integer from empty string"
  | invalidDigit => "invalid digit found in string"
  | posOverflow => "number too large to fit in target type"

/-- `c.to_digit(radix)`. -/
def toDigit (radix : Nat) (c : Char) : Option Nat :=
  let value :=
    if '0' ≤ c ∧ c ≤ '9' then some (c.toNat - '0'.toNat)
    else if 'a' ≤ c ∧ c ≤ 'z' then some (c.toNat - 'a'.toNat + 10)
    else if 'A' ≤ c ∧ c ≤ 'Z' then some (c.toNat - 'A'.toNat + 10)
    else none
  value.filter (· < radix)

def parseDigits (radix max : Nat) : Nat → List Char → Except IntErrorKind Nat
  | acc, [] => .ok acc
  | acc, c :: rest =>
      match toDigit radix c with
      | none => .error .invalidDigit
      | some d =>
          if acc * radix + d ≤ max then parseDigits radix max (acc * radix + d) rest
          else .error .posOverflow

/-- `from_str_radix(s, radix)`; `parse` is radix 10. -/
def fromStrRadix (radix max : Nat) (s : String) : Except IntErrorKind Nat :=
  match s.toList with
  | [] => .error .empty
  | ['+'] => .error .invalidDigit
  | ['-'] => .error .invalidDigit
  | '+' :: digits => parseDigits radix max 0 digits
  | digits => parseDigits radix max 0 digits

/-- A decimal numeral has digits only. -/
theorem isDigit_of_mem_toString {n : Nat} {c : Char} (h : c ∈ (toString n).toList) :
    c.isDigit = true := by
  have hrepr : (toString n).toList = Nat.toDigits 10 n := Nat.toList_repr
  rw [hrepr] at h
  exact Nat.isDigit_of_mem_toDigits (by omega) (by omega) h

/-- A character that is no digit does not occur in a decimal numeral. -/
theorem count_toString {c : Char} (hc : c.isDigit = false) (n : Nat) :
    (toString n).toList.count c = 0 := by
  rw [List.count_eq_zero]
  intro hmem
  have hdigit := isDigit_of_mem_toString hmem
  rw [hc] at hdigit
  cases hdigit

/-! ## UTF-8 -/

/-- `s.as_bytes()`. -/
def asBytes (s : String) : List UInt8 := s.toList.flatMap String.utf8EncodeChar

/-- The bytes of a string are decoded to it. -/
theorem fromUTF8?_asBytes (s : String) : String.fromUTF8? (asBytes s).toByteArray = some s := by
  have hbytes : (asBytes s).toByteArray = s.toByteArray := String.utf8Encode_toList
  rw [hbytes]
  exact dif_pos s.isValidUTF8

/-- The bytes of a character outside ASCII are not ASCII. -/
theorem le_of_mem_utf8EncodeChar {d : Char} (hd : 128 ≤ d.toNat) {b : UInt8}
    (hb : b ∈ String.utf8EncodeChar d) : 128 ≤ b.toNat := by
  have hval : 128 ≤ d.val.toNat := hd
  -- every byte is a tag of at least 128 plus the bits under it
  have htag (x t k : Nat) (ht : 128 ≤ t) (hk : 0 < k) (htk : t + k ≤ 256) :
      128 ≤ (UInt8.ofNat (x % k + t)).toNat := by
    have hlt : x % k < k := Nat.mod_lt x hk
    rw [UInt8.toNat_ofNat']
    omega
  simp only [String.utf8EncodeChar] at hb
  split at hb
  · omega
  · split at hb
    · simp only [List.mem_cons, List.not_mem_nil, or_false] at hb
      rcases hb with rfl | rfl <;> exact htag _ _ _ (by omega) (by omega) (by omega)
    · split at hb
      · simp only [List.mem_cons, List.not_mem_nil, or_false] at hb
        rcases hb with rfl | rfl | rfl <;> exact htag _ _ _ (by omega) (by omega) (by omega)
      · simp only [List.mem_cons, List.not_mem_nil, or_false] at hb
        rcases hb with rfl | rfl | rfl | rfl <;> exact htag _ _ _ (by omega) (by omega) (by omega)

/-- The byte of an ASCII character occurs once in its own encoding and in
no other. -/
theorem count_utf8EncodeChar {c : Char} (hc : c.toNat < 128) (d : Char) :
    (String.utf8EncodeChar d).count (UInt8.ofNat c.toNat) = if d = c then 1 else 0 := by
  have hbyte : (UInt8.ofNat c.toNat).toNat = c.toNat := by
    rw [UInt8.toNat_ofNat']
    omega
  by_cases hd : d.toNat < 128
  · have henc : String.utf8EncodeChar d = [UInt8.ofNat d.toNat] := if_pos (Nat.le_of_lt_succ hd)
    rw [henc, List.count_singleton]
    by_cases hdc : d = c
    · simp [hdc]
    · have hne : UInt8.ofNat d.toNat ≠ UInt8.ofNat c.toNat := by
        intro heq
        have hnat : d.toNat % 256 = c.toNat % 256 := congrArg UInt8.toNat heq
        exact hdc (Char.toNat_inj.mp (by omega))
      simp [hdc, hne]
  · have hne : d ≠ c := by
      rintro rfl
      exact hd hc
    rw [if_neg hne, List.count_eq_zero]
    intro hmem
    have := le_of_mem_utf8EncodeChar (Nat.le_of_not_lt hd) hmem
    omega

theorem count_asBytes {c : Char} (hc : c.toNat < 128) (s : String) :
    (asBytes s).count (UInt8.ofNat c.toNat) = s.toList.count c := by
  unfold asBytes
  induction s.toList with
  | nil => rfl
  | cons d rest ih =>
      rw [List.flatMap_cons, List.count_append, ih, count_utf8EncodeChar hc, List.count_cons]
      simp [Nat.add_comm]

end WolfUsb.Lib
