/-
WolfUsb.Server.Host — the server, its bridge tasks and the devices in
sysfs as one system.

A Bridge hand-off on a plain stream starts a task that works on the
target's sysfs files on its own; the device manager never learns of it,
and the task never asks the manager. `exportedFor` notes, beside the audit
of the attachments, whose task made the usbip-host binding in place.
-/
import WolfUsb.Server.Bridge
import WolfUsb.Server.Registry

namespace WolfUsb

open KernelUsbip

/-- A bridge task and the device it is for. -/
structure BridgeTask where
  target : DeviceId
  pc : Bridge.Pc

structure Host (W : Type) where
  audited : Audited W
  /-- The bridge tasks, by the connection they were started for. -/
  tasks : HashMap Nat BridgeTask
  devices : DeviceId → SysfsDevice
  exportedFor : DeviceId → Option Nat

inductive HostEvent where
  | server (e : Event)
  /-- The task of connection `c` makes its next operation. -/
  | bridge (c : Nat) (env : Bridge.BridgeEnv)
  /-- The kernel lets go of the socket of a device. -/
  | letGo (d : DeviceId)

namespace Host

variable {W : Type} (p : Platform W)

def start (sharedKey : Option Bytes) (tls : Bool) (world : W) (devices : DeviceId → SysfsDevice) :
    Host W where
  audited := .start sharedKey tls world
  tasks := ∅
  devices := devices
  exportedFor := fun _ => none

/-- The tasks after an event of the server. -/
def spawn (tasks : HashMap Nat BridgeTask) : Event → Output → HashMap Nat BridgeTask
  | .receive c _ _, out =>
      match out.bridge with
      | some target => tasks.insert c ⟨target, .lookup⟩
      | none => tasks
  | _, _ => tasks

/-- The state after an operation of the task `t` of connection `c`. -/
def operate (h : Host W) (c : Nat) (t : BridgeTask) (env : Bridge.BridgeEnv) : Host W :=
  let d := h.devices t.target
  let r := Bridge.step env t.pc d
  { h with
    tasks := h.tasks.insert c { t with pc := r.1 }
    devices := Function.update h.devices t.target r.2
    exportedFor := Function.update h.exportedFor t.target
      (if r.2.isBound then if d.isBound then h.exportedFor t.target else some c else none) }

def step (h : Host W) : HostEvent → Option (Host W)
  | .server e =>
      match h.audited.server.step p e with
      | none => none
      | some (sv, out) =>
          some { h with
            audited := ⟨sv, h.audited.audit.record e out sv.manager⟩
            tasks := spawn h.tasks e out }
  | .bridge c env => (h.tasks.lookup c).map fun t => h.operate c t env
  | .letGo d => some { h with devices := Function.update h.devices d (h.devices d).letGo }

end Host

end WolfUsb
