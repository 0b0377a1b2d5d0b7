/-
WolfUsb.Server.KernelUsbip — exporting a device with the kernel's
usbip-host driver (`server/kernel_usbip.rs`).

The sysfs files `bind` and `unbind` work on are those of one device:
which driver it is bound to, whether its busid is on the allow-list
`match_busid`, and its `usbip_status`. `SysfsDevice` is that state, and
every read or write of the source is one step on it, so that two tasks can
be interleaved between any two of them.

A write may fail, and what it does then is nothing; the outcomes are in
`ExportEnv`. The writes of `unbind`, which restore the device, succeed:
the driver is unbound, the entry is removed, and the re-probe binds a
device without driver to a normal one.
-/
import WolfUsb.Protocol.Types

namespace WolfUsb.KernelUsbip

/-! ## The device in sysfs -/

inductive Driver where
  | none
  /-- A driver that is not usbip-host. -/
  | normal
  | usbipHost
  deriving DecidableEq, Repr

structure SysfsDevice where
  driver : Driver
  /-- The busid is on usbip-host's `match_busid`. -/
  allowed : Bool
  /-- `usbip_status`: 1 available, 2 in use, and 0 where there is no file. -/
  status : Nat
  deriving DecidableEq, Repr

namespace SysfsDevice

/-- `is_bound`. -/
def isBound (d : SysfsDevice) : Bool := d.driver == .usbipHost

/-- A device with a normal driver that is not on the allow-list. -/
def Clean (d : SysfsDevice) : Prop := d.driver = .normal ∧ d.allowed = false

instance (d : SysfsDevice) : Decidable d.Clean := inferInstanceAs (Decidable (_ ∧ _))

/-- The write to usbip-host's `unbind`; it is refused for a device of
another driver. -/
def unbindHost (d : SysfsDevice) : SysfsDevice :=
  if d.isBound then { d with driver := .none, status := 0 } else d

/-- The write to `drivers_probe`. -/
def reprobe (d : SysfsDevice) : SysfsDevice :=
  match d.driver with
  | .none => { d with driver := .normal }
  | _ => d

/-- The kernel lets go of the socket: the client is gone. -/
def letGo (d : SysfsDevice) : SysfsDevice :=
  if d.status = 2 then { d with status := 1 } else d

end SysfsDevice

/-! ## `unbind` -/

/-- The next operation of `unbind`. -/
inductive UnbindPc where
  | isBound
  | write
  | del
  | probe
  deriving DecidableEq, Repr

/-- One operation; `none` is the return, which is always `Ok(())`. -/
def unbindStep : UnbindPc → SysfsDevice → Option UnbindPc × SysfsDevice
  | .isBound, d => (some (if d.isBound then .write else .del), d)
  | .write, d => (some .del, d.unbindHost)
  | .del, d => (some .probe, { d with allowed := false })
  | .probe, d => (none, d.reprobe)

/-! ## `bind` -/

/-- The outcome of the write to usbip-host's `bind`. -/
inductive BindWrite where
  | refused
  /-- Accepted, but the driver never appears at the device. -/
  | ineffective
  | bound
  deriving DecidableEq, Repr

/-- Where `bind` and `run_bridge_inner` stop with an error. -/
inductive BridgeError where
  | noSysfsPath
  | noDeviceInfo
  | moduleNotLoaded
  | driverNotUnbound
  | bindNotOpened
  | bindRefused
  | didNotBind
  | requestNotRead
  | unexpectedCode
  | replyNotSent
  | replyNotFlushed
  | noStdStream
  | notBlocking
  | socketRejected
  deriving DecidableEq, Repr

/-- What the outside decides for one `bind`. -/
structure ExportEnv where
  /-- `ensure_module_loaded()` is `Ok`. -/
  moduleLoaded : Bool := true
  /-- The `add` reached the allow-list. -/
  added : Bool := true
  /-- The write to the current driver's `unbind` is accepted. -/
  driverUnbound : Bool := true
  /-- usbip-host's `bind` file can be opened. -/
  bindOpened : Bool := true
  bindWritten : BindWrite := .bound

/-- The next operation of `bind`. -/
inductive BindPc where
  | isBound
  | loadModule
  | add
  | readDriver
  /-- The driver read was not usbip-host. -/
  | unbindDriver
  | openBind
  | writeBind
  /-- The poll with `n` polls made. -/
  | poll (n : Nat)
  deriving DecidableEq, Repr

def bindStep (env : ExportEnv) :
    BindPc → SysfsDevice → (BindPc ⊕ Except BridgeError Unit) × SysfsDevice
  | .isBound, d => (if d.isBound then .inr (.ok ()) else .inl .loadModule, d)
  | .loadModule, d =>
      (if env.moduleLoaded then .inl .add else .inr (.error .moduleNotLoaded), d)
  | .add, d => (.inl .readDriver, if env.added then { d with allowed := true } else d)
  | .readDriver, d => (.inl (if d.driver = .normal then .unbindDriver else .openBind), d)
  | .unbindDriver, d =>
      -- the file is that of the driver read, which may have lost the device
      if env.driverUnbound && d.driver == .normal then (.inl .openBind, { d with driver := .none })
      else (.inr (.error .driverNotUnbound), d)
  | .openBind, d => (if env.bindOpened then .inl .writeBind else .inr (.error .bindNotOpened), d)
  | .writeBind, d =>
      match env.bindWritten with
      | .refused => (.inr (.error .bindRefused), d)
      | .ineffective => (.inl (.poll 0), d)
      | .bound =>
          -- a device that has a driver is busy
          if d.driver = .none then
            (.inl (.poll 0), { d with driver := .usbipHost, status := 1 })
          else (.inr (.error .bindRefused), d)
  | .poll n, d =>
      if n < 20 then (if d.isBound then .inr (.ok ()) else .inl (.poll (n + 1)), d)
      else (.inr (.error .didNotBind), d)

end WolfUsb.KernelUsbip
