/-
WolfUsb.Client.MountPort — the mount processes of one host and the ports
of its vhci controller (`cmd_mount` from `vhci::attach` on).

The processes share nothing but the controller. `vhci::attach` reads the
status file and then writes the attach file, so it is two steps, and
anything may happen between them; a poll is one read, and Ctrl-C one write
to the detach file. The kernel takes a write to the attach file only for a
free port, and releases a port when it sees its socket end.
-/
import Mathlib.Logic.Function.Basic
import WolfUsb.Bridge.Vhci
import WolfUsb.Lib.Runs

namespace WolfUsb

open Vhci (IoError StatusLayout StatusRow View)

namespace Mount

/-! ## A process -/

def consecutiveFreeToExit : UInt8 := 2

/-- One turn of the `port_lost` loop, on what `port_in_use` says: the
counter after it, or `none` for `break`. -/
def pollPort (inUse : Bool) (consecutiveFree : UInt8) : Option UInt8 :=
  if inUse then some 0
  else if consecutiveFreeToExit ≤ consecutiveFree + 1 then none
  else some (consecutiveFree + 1)

/-- The `port_lost` loop between two polls: its counter, and whether it
has come to `break`. -/
structure PortLost where
  consecutiveFree : UInt8 := 0
  stopped : Bool := false

/-- The body of the loop, on what `port_in_use` says. -/
def PortLost.poll (s : PortLost) (inUse : Bool) : PortLost :=
  if s.stopped then s
  else if inUse then { s with consecutiveFree := 0 }
  else
    let consecutiveFree := s.consecutiveFree + 1
    { consecutiveFree, stopped := consecutiveFreeToExit ≤ consecutiveFree }

/-- The loop after the first `n` polls; each finds sysfs as its own view
shows it. -/
def portLost (polls : Nat → View) (port : UInt32) : Nat → PortLost
  | 0 => {}
  | n + 1 => (portLost polls port n).poll (Vhci.portInUse (polls n) port)

def attachFailed (e : IoError) : AnyhowError :=
  ["Failed to attach to vhci_hcd (need CAP_SYS_ADMIN?)", e.text]

def connectionLost (port : UInt32) : AnyhowError :=
  ["USB device connection lost (vhci port " ++ toString port ++ " released)"]

/-- Where a process is, once it has its socket in USB/IP mode. -/
inductive Pc where
  | ready
  /-- `find_free_port` returned. -/
  | writing (port : UInt32)
  | parked (port : UInt32) (consecutiveFree : UInt8)
  | exited (result : Except AnyhowError Unit)

/-- `find_free_port` returned, or it failed. -/
def Pc.afterScan : Except IoError (Nat × UInt32) → Pc
  | .ok (_, port) => .writing port
  | .error e => .exited (.error (attachFailed e))

def Pc.afterPoll (port : UInt32) : Option UInt8 → Pc
  | some consecutiveFree => .parked port consecutiveFree
  | none => .exited (.error (connectionLost port))

end Mount

/-! ## The controller -/

/-- The device on a port: the process that attached it, and the code its
port has in the status file. -/
structure Bridged where
  mount : Nat
  status : UInt32
  busy : status ≠ 4

structure Port where
  hub : Vhci.Hub
  number : UInt32
  device : Option Bridged

/-- `VDEV_ST_NULL`, or the code of the device. -/
def Port.status (port : Port) : UInt32 :=
  match port.device with
  | none => 4
  | some b => b.status

def Port.row (port : Port) : StatusRow := ⟨port.hub, port.number, port.status⟩

/-- The host: the ports of `vhci_hcd.0` in the order of its status file,
and every mount process there ever is. -/
structure MountHost where
  ports : List Port
  process : Nat → Mount.Pc

namespace MountHost

/-- All ports free, and no process has come to `vhci::attach`. -/
def start (rows : List (Vhci.Hub × UInt32)) : MountHost where
  ports := rows.map fun r => ⟨r.1, r.2, none⟩
  process _ := .ready

/-- The device on a port. -/
def device (h : MountHost) (port : UInt32) : Option Bridged :=
  (h.ports.find? (·.number = port)).bind (·.device)

def isFree (h : MountHost) (port : UInt32) : Bool :=
  (h.ports.find? (·.number = port)).any (·.device.isNone)

/-- The host with another device, or none, on a port. -/
def setDevice (h : MountHost) (port : UInt32) (device : Option Bridged) : MountHost :=
  { h with ports := h.ports.map fun q => if q.number = port then { q with device } else q }

def setProcess (h : MountHost) (m : Nat) (pc : Mount.Pc) : MountHost :=
  { h with process := Function.update h.process m pc }

/-- What a process finds in sysfs: the file in some layout, or an error
where it cannot be read. -/
def view (h : MountHost) (reading : Except IoError StatusLayout) : View where
  present i := i = 0
  status _ := reading.map fun layout => Vhci.statusFile layout (h.ports.map Port.row)

end MountHost

/-! ## Steps -/

inductive MountEvent where
  /-- `vhci::attach` of process `m` reads the status file. -/
  | scan (m : Nat) (reading : Except IoError StatusLayout)
  /-- It writes the attach file; `status` is the code a port that it gets
  has from then on. -/
  | attach (m : Nat) (written : Except IoError Unit) (status : { s : UInt32 // s ≠ 4 })
  /-- `port_in_use` reads the status file. -/
  | poll (m : Nat) (reading : Except IoError StatusLayout)
  /-- Ctrl-C: `vhci::detach` writes the detach file. -/
  | ctrlC (m : Nat) (written : Except IoError Unit)
  /-- The kernel releases a port. -/
  | release (port : UInt32)
  /-- The kernel gives a busy port another code. -/
  | settle (port : UInt32) (status : { s : UInt32 // s ≠ 4 })

namespace MountHost

def step (h : MountHost) : MountEvent → Option MountHost
  | .scan m reading =>
      match h.process m with
      | .ready => some (h.setProcess m (.afterScan (Vhci.choosePort (h.view reading))))
      | _ => none
  | .attach m written status =>
      match h.process m, written with
      | .writing port, .ok () =>
          if h.isFree port then
            some ((h.setDevice port (some ⟨m, status.val, status.property⟩)).setProcess m
              (.parked port 0))
          else none
      | .writing _, .error e => some (h.setProcess m (.exited (.error (Mount.attachFailed e))))
      | _, _ => none
  | .poll m reading =>
      match h.process m with
      | .parked port consecutiveFree =>
          some (h.setProcess m (.afterPoll port
            (Mount.pollPort (Vhci.portInUse (h.view reading) port) consecutiveFree)))
      | _ => none
  | .ctrlC m written =>
      match h.process m, written with
      | .parked port _, .ok () => some ((h.setDevice port none).setProcess m (.exited (.ok ())))
      -- a detach that fails is logged
      | .parked _ _, .error _ => some (h.setProcess m (.exited (.ok ())))
      | _, _ => none
  | .release port => some (h.setDevice port none)
  | .settle port status =>
      match h.device port with
      | some b => some (h.setDevice port (some ⟨b.mount, status.val, status.property⟩))
      | none => none

/-- The call of `vhci::detach` a step makes: by which process, on which
port. -/
def detaches (h : MountHost) : MountEvent → Option (Nat × UInt32)
  | .ctrlC m _ =>
      match h.process m with
      | .parked port _ => some (m, port)
      | _ => none
  | _ => none

/-- The process is parked, and the device it attached is no longer on its
port. -/
def lost (h : MountHost) (m : Nat) : Bool :=
  match h.process m with
  | .parked port _ => !(h.device port).any (·.mount = m)
  | _ => false

end MountHost

/-- The event is a poll of `m` that read the status file. -/
def MountEvent.reads (m : Nat) : MountEvent → Bool
  | .poll m' (.ok _) => m' = m
  | _ => false

/-- The host, and for each process the polls that read the status file
since its attachment was released. -/
structure WatchedHost where
  host : MountHost
  polls : Nat → Nat

namespace WatchedHost

def start (rows : List (Vhci.Hub × UInt32)) : WatchedHost := ⟨.start rows, fun _ => 0⟩

def step (w : WatchedHost) (e : MountEvent) : Option WatchedHost :=
  (w.host.step e).map fun host =>
    { host
      polls := fun m =>
        if host.lost m then (if e.reads m then w.polls m + 1 else w.polls m) else 0 }

abbrev Steps : WatchedHost → MountEvent → WatchedHost → Prop := Lib.Guarded step

end WatchedHost

end WolfUsb
