/-
WolfUsb.Bridge.VhciTheorems — the status file is read as the kernel
prints it.

Both loops of `vhci.rs` look at three columns of each line. On a file set
from a table, in whatever layout, `find_free_port` is the first row whose
status is 4 and `port_status_from_content` the status of the first row of
the port. If no port is listed twice, that is what the table says of each
port, and a port that is offered is not in use (`status_parsing_exact`).
-/
import Mathlib.Data.List.Nodup
import WolfUsb.Bridge.Vhci

namespace WolfUsb.Vhci

open Lib

/-! ## One line -/

theorem parseU32_number (zeros : Nat) (n : UInt32) :
    parseU32 (Column.number zeros n.toNat).text = some n := by
  have hle : n.toNat ≤ KernelUsbip.u32Max := Nat.le_sub_one_of_lt n.toNat_lt
  rw [parseU32, Column.text, Column.number, fromStrRadix_numeral zeros hle]
  simp [Except.toOption]

/-- The line a row is printed as. -/
def StatusRow.line (layout : RowLayout) (r : StatusRow) : String :=
  String.ofList (setLine (r.columns layout).1 (r.columns layout).2)

/-- Its first three columns. -/
theorem StatusRow.splitWhitespace_line (layout : RowLayout) (r : StatusRow) :
    splitWhitespace (r.line layout) =
      r.hub.column.text :: (Column.number layout.portZeros r.port.toNat).text ::
        (Column.number layout.statusZeros r.status.toNat).text ::
          layout.further.map (·.2.text) := by
  rw [line, splitWhitespace_setLine]
  rfl

theorem Hub.column_ne_header (h : Hub) : h.column.text ≠ "hub" := by
  cases h <;> decide

/-- A row offers its port if its status is 4. -/
theorem freePort_line (layout : RowLayout) (r : StatusRow) :
    freePort (r.line layout) = if r.status = 4 then some r.port else none := by
  unfold freePort
  rw [r.splitWhitespace_line]
  dsimp only
  rw [if_neg r.hub.column_ne_header, parseU32_number, parseU32_number]

/-- A row answers for its own port. -/
theorem statusOfPort_line (port : UInt32) (layout : RowLayout) (r : StatusRow) :
    statusOfPort port (r.line layout)
      = if r.port = port then some (some r.status) else none := by
  unfold statusOfPort
  rw [r.splitWhitespace_line]
  dsimp only
  rw [if_neg r.hub.column_ne_header, parseU32_number, parseU32_number]
  simp

def headerLine (rest : List (Gap × Column)) : String := String.ofList (setLine headerColumn rest)

/-- Whatever the header lists, it is passed over. -/
theorem splitWhitespace_header (rest : List (Gap × Column)) :
    splitWhitespace (headerLine rest) = "hub" :: rest.map (·.2.text) := by
  rw [headerLine, splitWhitespace_setLine]
  rfl

theorem freePort_header (rest : List (Gap × Column)) : freePort (headerLine rest) = none := by
  unfold freePort
  rw [splitWhitespace_header]
  split
  · rename_i heq
    rw [if_pos (List.cons.inj heq).1.symm]
  · rfl

theorem statusOfPort_header (port : UInt32) (rest : List (Gap × Column)) :
    statusOfPort port (headerLine rest) = none := by
  unfold statusOfPort
  rw [splitWhitespace_header]
  split
  · rename_i heq
    rw [if_pos (List.cons.inj heq).1.symm]
  · rfl

/-! ## The file -/

theorem lines_statusFile (layout : StatusLayout) (rows : List StatusRow) :
    lines (statusFile layout rows)
      = headerLine layout.header :: rows.map fun r => r.line (layout.row r.port) := by
  rw [statusFile, lines_setFile_columns]
  simp [headerLine, StatusRow.line]

/-- A scan of the rows stops at the first one that a line is taken for. -/
theorem findSome?_rows {β : Type} {f : String → Option β} {take : StatusRow → Bool}
    {value : StatusRow → β} (layout : StatusLayout)
    (hf : ∀ l r, f (StatusRow.line l r) = if take r then some (value r) else none)
    (rows : List StatusRow) :
    (rows.map fun r => r.line (layout.row r.port)).findSome? f
      = (rows.find? take).map value := by
  induction rows with
  | nil => rfl
  | cons r rest ih =>
      rw [List.map_cons, List.findSome?_cons, hf, List.find?_cons]
      cases take r with
      | true => rfl
      | false => exact ih

/-- **The first free port** is that of the first row whose status is 4. -/
theorem findFreePort_statusFile (layout : StatusLayout) (rows : List StatusRow) :
    findFreePort (statusFile layout rows) =
      match rows.find? (·.status = 4) with
      | some r => .ok r.port
      | none => .error (.notFound "No free vhci_hcd ports available") := by
  have hscan : (lines (statusFile layout rows)).findSome? freePort
      = (rows.find? (·.status = 4)).map (·.port) := by
    rw [lines_statusFile, List.findSome?_cons, freePort_header]
    exact findSome?_rows layout (fun l r => by simp [freePort_line]) rows
  rw [findFreePort, hscan]
  cases rows.find? (·.status = 4) with
  | none => rfl
  | some r => rfl

/-- **The status of a port** is that of its first row. -/
theorem portStatusFromContent_statusFile (layout : StatusLayout) (rows : List StatusRow)
    (port : UInt32) :
    portStatusFromContent (statusFile layout rows) port
      = (rows.find? (·.port = port)).map (·.status) := by
  have hscan : (lines (statusFile layout rows)).findSome? (statusOfPort port)
      = (rows.find? (·.port = port)).map (some ·.status) := by
    rw [lines_statusFile, List.findSome?_cons, statusOfPort_header]
    exact findSome?_rows layout (fun l r => by simp [statusOfPort_line]) rows
  rw [portStatusFromContent, hscan]
  cases rows.find? (·.port = port) with
  | none => rfl
  | some r => rfl

/-! ## The table -/

/-- A listed port has one row. -/
theorem StatusTable.find?_port (t : StatusTable) {r : StatusRow} (hr : r ∈ t.rows) :
    t.rows.find? (·.port = r.port) = some r := by
  cases hfind : t.rows.find? (·.port = r.port) with
  | none =>
    rw [List.find?_eq_none] at hfind
    exact absurd (decide_eq_true rfl) (hfind r hr)
  | some q =>
    have hport : q.port = r.port := by simpa using List.find?_some hfind
    have hq := List.mem_of_find?_eq_some hfind
    rw [List.inj_on_of_nodup_map t.distinct hq hr hport]

/-- The row is the first one whose port is free. -/
def FirstFree (rows : List StatusRow) (r : StatusRow) : Prop :=
  r.status = 4 ∧ ∃ before after, rows = before ++ r :: after ∧ ∀ q ∈ before, q.status ≠ 4

theorem find?_free_iff {rows : List StatusRow} {r : StatusRow} :
    rows.find? (·.status = 4) = some r ↔ FirstFree rows r := by
  simp [List.find?_eq_some_iff_append, FirstFree]

/-- What the two readers make of a file: it says of each port what the
table says, and the port they offer is not in use. -/
structure StatusTable.ReadFrom (t : StatusTable) (content : String) : Prop where
  listed : ∀ r ∈ t.rows, portStatusFromContent content r.port = some r.status
  unlisted : ∀ port, (∀ r ∈ t.rows, r.port ≠ port) → portStatusFromContent content port = none
  free : ∀ port, findFreePort content = .ok port ↔ ∃ r, FirstFree t.rows r ∧ r.port = port
  none_free : (∃ text, findFreePort content = .error (.notFound text)) ↔
    ∀ r ∈ t.rows, r.status ≠ 4
  chosen_free : ∀ v i, findVhciPath v = .ok i → v.status i = .ok content →
    ∀ j port, choosePort v = .ok (j, port) → portInUse v port = false
  used_not_chosen : ∀ v i, findVhciPath v = .ok i → v.status i = .ok content →
    ∀ j port, portInUse v port = true → choosePort v ≠ .ok (j, port)

section

variable {v : View} {i : Nat} {content : String} (hpath : findVhciPath v = .ok i)
  (hstatus : v.status i = .ok content)
include hpath hstatus

theorem choosePort_eq : choosePort v = (findFreePort content).map fun port => (i, port) := by
  simp only [choosePort, hpath, hstatus]

theorem portInUse_eq (port : UInt32) :
    portInUse v port = (portStatusFromContent content port).any (· ≠ 4) := by
  simp only [portInUse, hpath, hstatus]

end

/-- The port of a free row of a table is not in use. -/
theorem portInUse_of_free {t : StatusTable} {layout : StatusLayout} {r : StatusRow}
    (hr : r ∈ t.rows) (hfree : r.status = 4) {v : View} {i : Nat} (hpath : findVhciPath v = .ok i)
    (hstatus : v.status i = .ok (statusFile layout t.rows)) : portInUse v r.port = false := by
  rw [portInUse_eq hpath hstatus, portStatusFromContent_statusFile, t.find?_port hr]
  simp [hfree]

theorem choosePort_ok {t : StatusTable} {layout : StatusLayout} {v : View} {i : Nat}
    (hpath : findVhciPath v = .ok i) (hstatus : v.status i = .ok (statusFile layout t.rows))
    {j : Nat} {port : UInt32} (h : choosePort v = .ok (j, port)) :
    j = i ∧ ∃ r, FirstFree t.rows r ∧ r.port = port := by
  rw [choosePort_eq hpath hstatus, findFreePort_statusFile] at h
  cases hfind : t.rows.find? (·.status = 4) with
  | none =>
    rw [hfind] at h
    cases h
  | some r =>
    rw [hfind] at h
    cases h
    exact ⟨rfl, r, find?_free_iff.mp hfind, rfl⟩

theorem FirstFree.mem {rows : List StatusRow} {r : StatusRow} (h : FirstFree rows r) :
    r ∈ rows := by
  obtain ⟨-, before, after, rfl, -⟩ := h
  simp

/-- **The status file is read exactly**, by both readers, in any layout. -/
theorem status_parsing_exact (t : StatusTable) (layout : StatusLayout) :
    t.ReadFrom (statusFile layout t.rows) where
  listed r hr := by
    rw [portStatusFromContent_statusFile, t.find?_port hr]
    rfl
  unlisted port hno := by
    have hfind : t.rows.find? (·.port = port) = none := by simpa using hno
    rw [portStatusFromContent_statusFile, hfind]
    rfl
  free port := by
    rw [findFreePort_statusFile]
    constructor
    · intro h
      split at h
      · rename_i r hfind
        cases h
        exact ⟨r, find?_free_iff.mp hfind, rfl⟩
      · cases h
    · rintro ⟨r, hfirst, rfl⟩
      rw [find?_free_iff.mpr hfirst]
  none_free := by
    rw [findFreePort_statusFile]
    constructor
    · rintro ⟨text, h⟩
      split at h
      · cases h
      · rename_i hfind
        simpa using hfind
    · intro hno
      have hfind : t.rows.find? (·.status = 4) = none := by simpa using hno
      rw [hfind]
      exact ⟨_, rfl⟩
  chosen_free v i hpath hstatus j port h := by
    obtain ⟨-, r, hfirst, rfl⟩ := choosePort_ok hpath hstatus h
    exact portInUse_of_free hfirst.mem hfirst.1 hpath hstatus
  used_not_chosen v i hpath hstatus j port huse h := by
    obtain ⟨-, r, hfirst, rfl⟩ := choosePort_ok hpath hstatus h
    rw [portInUse_of_free hfirst.mem hfirst.1 hpath hstatus] at huse
    cases huse

/-- Of the test in `vhci.rs`. -/
example :
    portStatusFromContent
      ("hub port sta spd dev      sockfd local_busid\n" ++
        "hs  0000 006 003 00020003 000019 1-1\n") 0 = some 6 := by
  decide +kernel

end WolfUsb.Vhci
