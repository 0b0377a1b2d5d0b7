/-
WolfUsb.Bridge.Attach — a socket is put on a vhci port and taken off again
(`ensure_module_loaded`, `attach` and `detach` of `bridge/vhci.rs`, and
the speed with which `cmd_mount` attaches).

A write to a file of a controller is modelled by what is to be written
and by its outcome, which is a parameter. `Controllers` is what the kernel
shows where the driver is loaded.
-/
import WolfUsb.Bridge.Vhci
import WolfUsb.Client.Mount

namespace WolfUsb

open Lib

namespace Vhci

inductive Speed where
  | low
  | full
  | high
  | wireless
  | super
  | superPlus
  deriving DecidableEq

def Speed.asU8 : Speed → UInt8
  | low => 1
  | full => 2
  | high => 3
  | wireless => 4
  | super => 5
  | superPlus => 6

/-- The ports that are for devices of the speed: SS ports for USB 3.x.
`attach` does not ask. -/
def Speed.hub : Speed → Hub
  | super => .ss
  | superPlus => .ss
  | _ => .hs

/-! ## The module -/

/-- What `modprobe` does: how the first run ends, and what is there when
the last one has. -/
structure Modprobe where
  status : Except IoError Bool
  loaded : View

/-- `ensure_module_loaded`; the result is what is there then. After a run
that fails the other name of the module is tried, and its outcome is
ignored. -/
def ensureModuleLoaded (v : View) (modprobe : Modprobe) : Except IoError View :=
  if v.present 0 then .ok v
  else
    match modprobe.status with
    | .error e => .error e
    | .ok _ =>
        if modprobe.loaded.present 0 then .ok modprobe.loaded
        else .error (.notFound ("Failed to load vhci-hcd kernel module. Install with: " ++
          "dnf install kernel-modules-extra (Fedora/RHEL) " ++
          "or apt install linux-modules-extra-$(uname -r) (Debian/Ubuntu)"))

/-! ## Attach and detach -/

/-- What is written to the `attach` file. -/
structure AttachRequest where
  port : UInt32
  sockfd : Int32
  devid : UInt32
  speed : Speed
  deriving DecidableEq

def AttachRequest.text (req : AttachRequest) : String :=
  toString req.port ++ " " ++ toString req.sockfd ++ " " ++ toString req.devid ++ " " ++
    toString req.speed.asU8

/-- `attach`: the controller it writes to and what it writes, if it gets
that far, and the result. -/
def attach (v : View) (modprobe : Modprobe) (sockfd : Int32) (devid : UInt32) (speed : Speed)
    (written : Except IoError Unit) : Option (Nat × AttachRequest) × Except IoError UInt32 :=
  match ensureModuleLoaded v modprobe with
  | .error e => (none, .error e)
  | .ok v =>
      match choosePort v with
      | .error e => (none, .error e)
      | .ok (i, port) => (some (i, ⟨port, sockfd, devid, speed⟩), written.map fun () => port)

/-- `detach`: the controller it writes the port to, and the result. -/
def detach (v : View) (port : UInt32) (written : Except IoError Unit) :
    Option (Nat × UInt32) × Except IoError Unit :=
  match findVhciPath v with
  | .error e => (none, .error e)
  | .ok i => (some (i, port), written)

/-! ## What the kernel shows -/

/-- The controllers, each with a table. The first is always there. -/
structure Controllers where
  present : Nat → Bool
  first : present 0 = true
  table : Nat → StatusTable
  layout : Nat → StatusLayout := fun _ => {}

def Controllers.view (c : Controllers) : View where
  present := c.present
  status i := .ok (statusFile (c.layout i) (c.table i).rows)

end Vhci

namespace Mount

/-- The speed `cmd_mount` takes a number of the reply for. -/
def speedOf (speed : UInt8) : Vhci.Speed :=
  match speed with
  | 1 => .low
  | 2 => .full
  | 3 => .high
  | 5 => .super
  | 6 => .superPlus
  | _ => .high

/-- `cmd_mount` when it has the reply. -/
def attachReply (reply : ImportReply) (v : Vhci.View) (modprobe : Vhci.Modprobe) (fd : Int32)
    (written : Except Vhci.IoError Unit) :
    Option (Nat × Vhci.AttachRequest) × Except AnyhowError UInt32 :=
  let r := Vhci.attach v modprobe fd reply.devid (speedOf reply.speed) written
  (r.1, r.2.mapError fun e => ["Failed to attach to vhci_hcd (need CAP_SYS_ADMIN?)", e.text])

end Mount

end WolfUsb
