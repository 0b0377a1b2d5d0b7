/-
WolfUsb.Lib.Table — lines of cells in columns of fixed width.

`setRow` pads every cell with blanks to the width of its column and leaves
the last one as it is, as a format string of `{:<width}` fields does; a
cell that is too long pushes those after it to the right. `readRow` cuts a
line at the widths and drops the blanks at the end of each cell.

`readRow_setRow`: the cells that fit are read back, whatever comes after
them.
-/
import Mathlib.Data.List.DropRight

namespace WolfUsb.Lib

/-- `format!("{cell:<width$}")`. -/
def padTo (width : Nat) (cell : List Char) : List Char :=
  cell ++ List.replicate (width - cell.length) ' '

/-- Cells with the widths of their columns, and a last cell. -/
def setRow : List (Nat × List Char) → List Char → List Char
  | [], last => last
  | (width, cell) :: rest, last => padTo width cell ++ ' ' :: setRow rest last

def trimEnd (cs : List Char) : List Char := cs.rdropWhile (· == ' ')

/-- The cells of a line, and what comes after the last of the columns. -/
def readRow : List Nat → List Char → List (List Char)
  | [], line => [line]
  | width :: rest, line => trimEnd (line.take width) :: readRow rest (line.drop (width + 1))

/-- The cell is no longer than its column is wide and ends in no blank. -/
structure FitsCell (c : Nat × List Char) : Prop where
  width : c.2.length ≤ c.1
  trimmed : ∀ h : c.2 ≠ [], c.2.getLast h ≠ ' '

instance (c : Nat × List Char) : Decidable (FitsCell c) :=
  decidable_of_iff (c.2.length ≤ c.1 ∧ ∀ h : c.2 ≠ [], c.2.getLast h ≠ ' ')
    ⟨fun h => ⟨h.1, h.2⟩, fun h => ⟨h.1, h.2⟩⟩

theorem trimEnd_blanks (cell : List Char) (n : Nat) :
    trimEnd (cell ++ List.replicate n ' ') = trimEnd cell := by
  induction n with
  | zero => rw [List.replicate_zero, List.append_nil]
  | succ n ih =>
      rw [List.replicate_succ', ← List.append_assoc, trimEnd, List.rdropWhile_concat_pos _ _ _ rfl]
      exact ih

theorem length_padTo {width : Nat} {cell : List Char} (h : cell.length ≤ width) :
    (padTo width cell).length = width := by
  rw [padTo, List.length_append, List.length_replicate]
  omega

theorem trimEnd_padTo {c : Nat × List Char} (h : FitsCell c) : trimEnd (padTo c.1 c.2) = c.2 := by
  rw [padTo, trimEnd_blanks, trimEnd, List.rdropWhile_eq_self_iff]
  intro hne hlast
  exact h.trimmed hne (by simpa using hlast)

theorem setRow_append (cells more : List (Nat × List Char)) (last : List Char) :
    setRow (cells ++ more) last = setRow cells (setRow more last) := by
  induction cells with
  | nil => rfl
  | cons c rest ih => rw [List.cons_append, setRow, ih, setRow]

/-- **The cells that fit are read back**, and what comes after them. -/
theorem readRow_setRow {cells : List (Nat × List Char)} (h : ∀ c ∈ cells, FitsCell c)
    (last : List Char) :
    readRow (cells.map Prod.fst) (setRow cells last) = cells.map Prod.snd ++ [last] := by
  induction cells with
  | nil => rfl
  | cons c rest ih =>
      obtain ⟨width, cell⟩ := c
      rw [List.forall_mem_cons] at h
      have hlength := length_padTo h.1.width
      have htake : (setRow ((width, cell) :: rest) last).take width = padTo width cell :=
        List.take_left' hlength
      have hdrop : (setRow ((width, cell) :: rest) last).drop (width + 1) = setRow rest last := by
        rw [setRow, List.append_cons]
        exact List.drop_left' (by rw [List.length_append, hlength]; rfl)
      rw [List.map_cons, readRow, htake, hdrop, trimEnd_padTo h.1, ih h.2]
      rfl

end WolfUsb.Lib
