/-
WolfUsb.Server.Interfaces — the interfaces of the host's devices, and what
libusb's calls do to them.

An interface has a kernel driver bound to it, had one that was detached,
or has none; and an open handle has claimed it or not. `Answers` is the
documented behaviour of libusb: when a call may succeed, when it may fail,
and what it changes. A platform that keeps to it (`Keeps`) may fail a
driver detach for reasons of its own.

`Custody` is the manager's books beside the interfaces, and `Custody.Step`
what one operation of the manager does to both.
-/
import WolfUsb.Server.DeviceManager

namespace WolfUsb

inductive DriverState where
  | none
  | bound
  | detached
  deriving DecidableEq, Repr

@[ext] structure Interfaces where
  /-- The device a handle was opened on. -/
  device : Handle → Option DeviceId
  driver : DeviceId → UInt8 → DriverState
  claimed : Handle → UInt8 → Bool

namespace Interfaces

/-- A new handle has no claims. -/
def opened (s : Interfaces) (d : DeviceId) (h : Handle) : Interfaces :=
  { s with
    device := Function.update s.device h (some d)
    claimed := Function.update s.claimed h fun _ => false }

def setDriver (s : Interfaces) (d : DeviceId) (i : UInt8) (x : DriverState) : Interfaces :=
  { s with driver := Function.update s.driver d (Function.update (s.driver d) i x) }

def setClaim (s : Interfaces) (h : Handle) (i : UInt8) (x : Bool) : Interfaces :=
  { s with claimed := Function.update s.claimed h (Function.update (s.claimed h) i x) }

/-- What a call may answer, and the interfaces after it. -/
def Answers (s : Interfaces) : (call : UsbCall) → call.Res → Interfaces → Prop
  | .openDevice device, .ok h, s' =>
      s.device h = none ∧ s' = s.opened ⟨device.busNumber, device.address⟩ h
  | .detachKernelDriver h i, .ok _, s' =>
      ∃ d, s.device h = some d ∧ s.driver d i = .bound ∧ s' = s.setDriver d i .detached
  | .attachKernelDriver h i, .ok _, s' =>
      ∃ d, s.device h = some d ∧ s.claimed h i = false ∧ s.driver d i = .detached ∧
        s' = s.setDriver d i .bound
  | .attachKernelDriver h i, .error _, s' =>
      (∀ d, s.device h = some d → s.driver d i = .detached → s.claimed h i = true) ∧ s' = s
  | .claimInterface h i, .ok _, s' =>
      (s.claimed h i = true ∨ ∀ d, s.device h = some d → s.driver d i ≠ .bound) ∧
        s' = s.setClaim h i true
  | .claimInterface h i, .error _, s' => s.claimed h i = false ∧ s' = s
  | .releaseInterface h i, .ok _, s' => s.claimed h i = true ∧ s' = s.setClaim h i false
  | .releaseInterface h i, .error _, s' => s.claimed h i = false ∧ s' = s
  | .setActiveConfiguration h _, _, s' =>
      s'.device = s.device ∧ s'.claimed = s.claimed ∧
        ∀ d, s.device h ≠ some d → s'.driver d = s.driver d
  | _, _, s' => s' = s

/-- The platform keeps to libusb's documented behaviour; `view` is what of
its world the calls on interfaces are about. -/
def Keeps {W : Type} (p : Platform W) (view : W → Interfaces) : Prop :=
  ∀ call w, (view w).Answers call (p.usb call w).1 (view (p.usb call w).2)

/-- Handles have been opened, and nothing else has happened. -/
structure Grows (s s' : Interfaces) : Prop where
  driver : s'.driver = s.driver
  device : ∀ h d, s.device h = some d → s'.device h = some d
  claimed : ∀ h d, s.device h = some d → s'.claimed h = s.claimed h

theorem Grows.refl (s : Interfaces) : s.Grows s := ⟨rfl, fun _ _ h => h, fun _ _ _ => rfl⟩

theorem Grows.trans {s s' s'' : Interfaces} (h : s.Grows s') (h' : s'.Grows s'') : s.Grows s'' where
  driver := h'.driver.trans h.driver
  device x d hx := h'.device x d (h.device x d hx)
  claimed x d hx := (h'.claimed x d (h.device x d hx)).trans (h.claimed x d hx)

theorem grows_opened {s : Interfaces} {h : Handle} (hnew : s.device h = none) (d : DeviceId) :
    s.Grows (s.opened d h) := by
  have hne : ∀ x d', s.device x = some d' → x ≠ h := by
    rintro x d' hx rfl
    rw [hnew] at hx
    cases hx
  constructor
  · rfl
  · intro x d' hx
    rw [← hx]
    exact Function.update_of_ne (hne x d' hx) _ _
  · intro x d' hx
    exact Function.update_of_ne (hne x d' hx) _ _

end Interfaces

/-! ## The manager's books and the interfaces -/

/-- The attachments the manager has, and the interfaces they are about. -/
structure Custody where
  attachments : HashMap DeviceId AttachmentInfo
  interfaces : Interfaces

/-- What an operation of the manager may do to a device. -/
inductive Custodial where
  /-- Only handles are opened. -/
  | inspect
  | attach (d : DeviceId)
  | detach (d : DeviceId)
  | claim (d : DeviceId) (i : UInt8)
  | release (d : DeviceId) (i : UInt8)
  | configure (d : DeviceId)

namespace Custody

open Interfaces

/-- The interfaces of `d` on which a driver was detached. -/
def detachedDrivers (s : Interfaces) (d : DeviceId) (detached : List UInt8) : Interfaces :=
  { s with
    driver := Function.update s.driver d fun i =>
      if i ∈ detached then .detached else s.driver d i }

/-- The drivers of the device are bound again where they were detached and
are listed, and the claims of the handle are released where they are
listed. -/
def returned (s : Interfaces) (d : DeviceId) (info : AttachmentInfo) : Interfaces :=
  let claimed i := s.claimed info.handle i && decide (i ∉ info.claimedInterfaces)
  { s with
    claimed := Function.update s.claimed info.handle claimed
    driver := Function.update s.driver d fun i =>
      if i ∈ info.detachedKernelDrivers ∧ s.driver d i = .detached ∧ claimed i = false then .bound
      else s.driver d i }

inductive Step (c : Custody) : Custodial → Custody → Prop
  | inspect {s' : Interfaces} (h : c.interfaces.Grows s') :
      Step c .inspect { c with interfaces := s' }
  | attach {d : DeviceId} {info : AttachmentInfo} {s' : Interfaces} (hd : d ∉ c.attachments)
      (hgrows : c.interfaces.Grows s') (hopen : s'.device info.handle = some d)
      (hnew : c.interfaces.device info.handle = none)
      (hclaims : ∀ i, s'.claimed info.handle i = false)
      (hbound : ∀ i ∈ info.detachedKernelDrivers, s'.driver d i = .bound)
      (hlist : info.claimedInterfaces = []) :
      Step c (.attach d)
        ⟨c.attachments.insert d info, detachedDrivers s' d info.detachedKernelDrivers⟩
  | detach {d : DeviceId} {info : AttachmentInfo} (hd : c.attachments.lookup d = some info) :
      Step c (.detach d) ⟨c.attachments.erase d, returned c.interfaces d info⟩
  | claim {d : DeviceId} {info : AttachmentInfo} {i : UInt8}
      (hd : c.attachments.lookup d = some info) :
      Step c (.claim d i)
        ⟨c.attachments.insert d
            { info with claimedInterfaces := info.claimedInterfaces ++ [i] },
          c.interfaces.setClaim info.handle i true⟩
  | release {d : DeviceId} {info : AttachmentInfo} {i : UInt8}
      (hd : c.attachments.lookup d = some info) :
      Step c (.release d i)
        ⟨c.attachments.insert d
            { info with claimedInterfaces := info.claimedInterfaces.filter (· != i) },
          c.interfaces.setClaim info.handle i false⟩
  | configure {d : DeviceId} {info : AttachmentInfo} {s' : Interfaces}
      (hd : c.attachments.lookup d = some info) (hdevice : s'.device = c.interfaces.device)
      (hclaimed : s'.claimed = c.interfaces.claimed)
      (hother : ∀ x, c.interfaces.device info.handle ≠ some x →
        s'.driver x = c.interfaces.driver x) :
      Step c (.configure d) { c with interfaces := s' }

/-- The handle of an attachment is open on its device. -/
def Linked (c : Custody) : Prop :=
  ∀ d info, c.attachments.lookup d = some info → c.interfaces.device info.handle = some d

end Custody

end WolfUsb
