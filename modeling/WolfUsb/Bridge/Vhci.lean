/-
WolfUsb.Bridge.Vhci — the kernel's `vhci_hcd` driver through sysfs
(`bridge/vhci.rs`): the controller, the first free port, and whether a
port is in use.

`View` is what a process finds under `/sys/devices/platform` when it
looks. What the kernel prints in a status file is at the end:
`statusFile` sets a table of rows in any layout.
-/
import WolfUsb.Lib.Columns
import WolfUsb.Server.Sysfs

namespace WolfUsb.Vhci

open Lib

/-- `std::io::Error`, as far as it is told apart. -/
inductive IoError where
  | notFound (text : String)
  | other (text : String)
  deriving DecidableEq

/-- `e.to_string()`. -/
def IoError.text : IoError → String
  | notFound text => text
  | other text => text

/-- Which `vhci_hcd.N` are directories, and what reading their status
files yields. -/
structure View where
  present : Nat → Bool
  status : Nat → Except IoError String

/-- `find_vhci_path`: the number of the controller. -/
def findVhciPath (v : View) : Except IoError Nat :=
  match (List.range 32).find? v.present with
  | some i => .ok i
  | none => .error (.notFound
      "vhci_hcd not found — ensure kernel module is loaded (modprobe vhci-hcd)")

/-- `s.parse::<u32>().ok()`. -/
def parseU32 (s : String) : Option UInt32 :=
  (fromStrRadix 10 KernelUsbip.u32Max s).toOption.map UInt32.ofNat

/-! ## The first free port -/

/-- One line in the loop of `find_free_port`; `none` is `continue`. -/
def freePort (line : String) : Option UInt32 :=
  match splitWhitespace line with
  | hub :: port :: status :: _ =>
      if hub = "hub" then none
      else
        match parseU32 port with
        | none => none
        | some port =>
            match parseU32 status with
            | none => none
            | some status => if status = 4 then some port else none
  | _ => none

def findFreePort (content : String) : Except IoError UInt32 :=
  match (lines content).findSome? freePort with
  | some port => .ok port
  | none => .error (.notFound "No free vhci_hcd ports available")

/-- `attach` up to the write: the controller it writes to, and the port. -/
def choosePort (v : View) : Except IoError (Nat × UInt32) :=
  match findVhciPath v with
  | .error e => .error e
  | .ok i =>
      match v.status i with
      | .error e => .error e
      | .ok content => (findFreePort content).map fun port => (i, port)

/-! ## A port in use -/

/-- One line in the loop of `port_status_from_content`; `none` is
`continue`, `some r` returns `r`. -/
def statusOfPort (port : UInt32) (line : String) : Option (Option UInt32) :=
  match splitWhitespace line with
  | hub :: p :: status :: _ =>
      if hub = "hub" then none
      else
        match parseU32 p with
        | none => none
        | some p => if p ≠ port then none else some (parseU32 status)
  | _ => none

def portStatusFromContent (content : String) (port : UInt32) : Option UInt32 :=
  ((lines content).findSome? (statusOfPort port)).join

def portInUse (v : View) (port : UInt32) : Bool :=
  match findVhciPath v with
  | .error _ => false
  | .ok i =>
      match v.status i with
      | .error _ => false
      | .ok content => (portStatusFromContent content port).any (· ≠ 4)

/-! ## What the kernel prints -/

inductive Hub where
  | hs
  | ss
  deriving DecidableEq

/-- A row of the status file, by the columns that are read. -/
structure StatusRow where
  hub : Hub
  port : UInt32
  status : UInt32
  deriving DecidableEq

/-- A table of ports: none is listed twice. -/
structure StatusTable where
  rows : List StatusRow
  distinct : (rows.map (·.port)).Nodup

def headerColumn : Column := ⟨['h', 'u', 'b'], nofun, plain_of_all (by decide)⟩

def Hub.column : Hub → Column
  | hs => ⟨['h', 's'], nofun, plain_of_all (by decide)⟩
  | ss => ⟨['s', 's'], nofun, plain_of_all (by decide)⟩

/-- How a row is set: the gap and the zeros before its port and its
status, and the columns after them. -/
structure RowLayout where
  portGap : Gap := {}
  portZeros : Nat := 0
  statusGap : Gap := {}
  statusZeros : Nat := 0
  further : List (Gap × Column) := []

/-- How a file is set: the rest of its header, and each row. -/
structure StatusLayout where
  header : List (Gap × Column) := []
  row : UInt32 → RowLayout := fun _ => {}

def StatusRow.columns (layout : RowLayout) (r : StatusRow) : Column × List (Gap × Column) :=
  (r.hub.column,
    (layout.portGap, .number layout.portZeros r.port.toNat) ::
      (layout.statusGap, .number layout.statusZeros r.status.toNat) :: layout.further)

/-- The header, then a line for each port. -/
def statusFile (layout : StatusLayout) (rows : List StatusRow) : String :=
  setFile (((headerColumn, layout.header) ::
    rows.map fun r => r.columns (layout.row r.port)).map fun l => setLine l.1 l.2)

end WolfUsb.Vhci
