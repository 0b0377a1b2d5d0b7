/-
WolfUsb.Lib.Slices — byte ranges of a `str`, the removal of a pattern, and
the chunks of a slice.

A range of a `str` is given in bytes, and Rust panics unless it begins and
ends where a character does; `slice` is `none` there. `remove` and
`removeChars` are `str::replace` with nothing in the place of the matches.
-/
import Mathlib.Algebra.GroupWithZero.Nat
import WolfUsb.Lib.Text

namespace WolfUsb.Lib

/-! ## Byte offsets -/

/-- `s.len()`, of the characters of `s`. -/
def byteLength (cs : List Char) : Nat := (cs.map Char.utf8Size).sum

@[simp] theorem byteLength_nil : byteLength [] = 0 := rfl

@[simp] theorem byteLength_cons (c : Char) (rest : List Char) :
    byteLength (c :: rest) = c.utf8Size + byteLength rest := by
  simp [byteLength]

@[simp] theorem byteLength_append (front rest : List Char) :
    byteLength (front ++ rest) = byteLength front + byteLength rest := by
  simp [byteLength]

/-- What stands from a byte offset on; `none` inside a character and after
the end. -/
def dropBytes : List Char → Nat → Option (List Char)
  | cs, 0 => some cs
  | [], _ + 1 => none
  | c :: rest, n + 1 =>
      if c.utf8Size ≤ n + 1 then dropBytes rest (n + 1 - c.utf8Size) else none

/-- What stands before a byte offset. -/
def takeBytes : List Char → Nat → Option (List Char)
  | _, 0 => some []
  | [], _ + 1 => none
  | c :: rest, n + 1 =>
      if c.utf8Size ≤ n + 1 then (takeBytes rest (n + 1 - c.utf8Size)).map (c :: ·) else none

/-- `&s[i..j]`. -/
def slice (s : String) (i j : Nat) : Option String :=
  if i ≤ j then ((dropBytes s.toList i).bind (takeBytes · (j - i))).map String.ofList else none

theorem dropBytes_append (front rest : List Char) :
    dropBytes (front ++ rest) (byteLength front) = some rest := by
  induction front with
  | nil => cases rest <;> rfl
  | cons c front ih =>
      have hpos : 0 < c.utf8Size := c.utf8Size_pos
      obtain ⟨n, hn⟩ : ∃ n, byteLength (c :: front) = n + 1 :=
        Nat.exists_eq_add_one.mpr (by rw [byteLength_cons]; omega)
      have hleft : n + 1 - c.utf8Size = byteLength front := by
        rw [← hn, byteLength_cons]
        omega
      have hle : c.utf8Size ≤ n + 1 := by
        rw [← hn, byteLength_cons]
        omega
      rw [hn, List.cons_append, dropBytes, if_pos hle, hleft, ih]

theorem takeBytes_append (front rest : List Char) :
    takeBytes (front ++ rest) (byteLength front) = some front := by
  induction front with
  | nil => cases rest <;> rfl
  | cons c front ih =>
      have hpos : 0 < c.utf8Size := c.utf8Size_pos
      obtain ⟨n, hn⟩ : ∃ n, byteLength (c :: front) = n + 1 :=
        Nat.exists_eq_add_one.mpr (by rw [byteLength_cons]; omega)
      have hleft : n + 1 - c.utf8Size = byteLength front := by
        rw [← hn, byteLength_cons]
        omega
      have hle : c.utf8Size ≤ n + 1 := by
        rw [← hn, byteLength_cons]
        omega
      rw [hn, List.cons_append, takeBytes, if_pos hle, hleft, ih]
      rfl

/-- A slice from the end of a front part is taken from the rest. -/
theorem slice_append (front rest : List Char) (n : Nat) :
    slice (String.ofList (front ++ rest)) (byteLength front) (byteLength front + n)
      = (takeBytes rest n).map String.ofList := by
  rw [slice, if_pos (Nat.le_add_right _ n), String.toList_ofList, dropBytes_append,
    Nat.add_sub_cancel_left]
  rfl

/-! ## Leaving out what matches -/

/-- The matches of a pattern are left out, from left to right; `skip`
characters of the last one are still to come. -/
def removeMatches (pat : List Char) : Nat → List Char → List Char
  | _, [] => []
  | skip + 1, _ :: rest => removeMatches pat skip rest
  | 0, c :: rest =>
      if pat.isPrefixOf (c :: rest) then removeMatches pat (pat.length - 1) rest
      else c :: removeMatches pat 0 rest

/-- `s.replace(pat, "")`, for a pattern that is not empty. -/
def remove (pat s : String) : String := String.ofList (removeMatches pat.toList 0 s.toList)

/-- `s.replace(cs, "")`, for an array of characters. -/
def removeChars (cs : List Char) (s : String) : String := String.ofList (s.toList.filter (· ∉ cs))

section Removal

variable {pat : List Char}

theorem removeMatches_skip (front rest : List Char) :
    removeMatches pat front.length (front ++ rest) = removeMatches pat 0 rest := by
  induction front with
  | nil => rfl
  | cons c front ih => exact ih

/-- A match is left out. -/
theorem removeMatches_match (hne : pat ≠ []) (rest : List Char) :
    removeMatches pat 0 (pat ++ rest) = removeMatches pat 0 rest := by
  obtain ⟨c, more, rfl⟩ := List.exists_cons_of_ne_nil hne
  have hprefix : (c :: more).isPrefixOf (c :: (more ++ rest)) = true := by simp
  rw [List.cons_append, removeMatches, if_pos hprefix, List.length_cons, Nat.add_sub_cancel]
  exact removeMatches_skip more rest

/-- A character at which no match begins is kept. -/
theorem removeMatches_cons {c : Char} {rest : List Char} (h : ¬ pat <+: c :: rest) :
    removeMatches pat 0 (c :: rest) = c :: removeMatches pat 0 rest := by
  rw [removeMatches, if_neg (by simpa using h)]

theorem removeMatches_sublist (skip : Nat) (cs : List Char) :
    (removeMatches pat skip cs).Sublist cs := by
  induction cs generalizing skip with
  | nil => exact .slnil
  | cons c rest ih =>
      cases skip with
      | succ skip => exact (ih skip).cons c
      | zero =>
          rw [removeMatches]
          split
          · exact (ih _).cons c
          · exact (ih 0).cons_cons c

end Removal

/-! ## Chunks -/

/-- `data.chunks(n)`: pieces of `n` elements, the last one what is left. -/
def chunks {α : Type} (n : Nat) (data : List α) : List (List α) :=
  (List.range ((data.length + (n - 1)) / n)).map fun k => (data.drop (n * k)).take n

@[simp] theorem length_chunks {α : Type} (n : Nat) (data : List α) :
    (chunks n data).length = (data.length + (n - 1)) / n := by
  simp [chunks]

theorem flatten_range_chunks {α : Type} (n : Nat) (data : List α) (count : Nat) :
    ((List.range count).map fun k => (data.drop (n * k)).take n).flatten
      = data.take (n * count) := by
  induction count with
  | zero => simp
  | succ count ih =>
      rw [List.range_succ, List.map_append, List.flatten_append, ih, Nat.mul_succ, List.take_add]
      simp

/-- The chunks, one after the other, are the slice. -/
theorem flatten_chunks {α : Type} {n : Nat} (hn : 0 < n) (data : List α) :
    (chunks n data).flatten = data := by
  have hcover : data.length ≤ n * ((data.length + (n - 1)) / n) := by
    have hdiv := Nat.div_add_mod (data.length + (n - 1)) n
    have hmod := Nat.mod_lt (data.length + (n - 1)) hn
    omega
  rw [chunks, flatten_range_chunks, List.take_of_length_le hcover]

end WolfUsb.Lib
