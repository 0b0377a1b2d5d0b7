/-
WolfUsb.Server.Usb — the parts of the host the server calls and does not
contain: libusb through `rusb`, the `hmac`/`sha2` crates, and the text of
a `rusb` error.

Every libusb call is a constructor of `UsbCall`, and `UsbCall.Res` is the
type of what it returns. A `Platform` answers calls from a world `W` that
it may change as it likes, so a statement about every platform and every
world is a statement about every outcome of the USB calls, devices that
come and go between two calls included. `Bus` carries the world through a
function of the source and records the calls made on it.
-/
import WolfUsb.Protocol.Types

namespace WolfUsb

/-! ## What `rusb` returns -/

inductive RusbError where
  | io | invalidParam | access | noDevice | notFound | busy | timeout | overflow | pipe
  | interrupted | noMem | notSupported | badDescriptor | other
  deriving DecidableEq, Repr

inductive RusbSpeed where
  | unknown | low | full | high | super | superPlus
  deriving DecidableEq, Repr

/-- `impl From<rusb::Speed> for UsbSpeed`. -/
def UsbSpeed.ofRusb : RusbSpeed → UsbSpeed
  | .low => .low
  | .full => .full
  | .high => .high
  | .super => .super
  | .superPlus => .superPlus
  | .unknown => .unknown

/-- `rusb::Device`: what libusb knows of a device without talking to it. -/
structure UsbDevice where
  busNumber : UInt8
  address : UInt8
  portNumber : UInt8
  speed : RusbSpeed
  deriving DecidableEq, Repr

/-- An open `rusb::DeviceHandle`. -/
abbrev Handle := Nat

/-- `rusb::Version`: major, minor, sub-minor. -/
abbrev Version := UInt8 × UInt8 × UInt8

structure DeviceDescriptor where
  vendorId : UInt16
  productId : UInt16
  classCode : UInt8
  subClassCode : UInt8
  protocolCode : UInt8
  maxPacketSize : UInt8
  numConfigurations : UInt8
  usbVersion : Version
  deviceVersion : Version
  manufacturerStringIndex : Option UInt8
  productStringIndex : Option UInt8
  serialNumberStringIndex : Option UInt8
  deriving DecidableEq, Repr

structure InterfaceDescriptor where
  interfaceNumber : UInt8
  settingNumber : UInt8
  classCode : UInt8
  subClassCode : UInt8
  protocolCode : UInt8
  numEndpoints : UInt8
  descriptionStringIndex : Option UInt8
  endpointDescriptors : List EndpointInfo
  deriving DecidableEq, Repr

structure Interface where
  number : UInt8
  descriptors : List InterfaceDescriptor
  deriving DecidableEq, Repr

structure ConfigDescriptor where
  number : UInt8
  numInterfaces : UInt8
  maxPower : UInt16
  selfPowered : Bool
  remoteWakeup : Bool
  descriptionStringIndex : Option UInt8
  interfaces : List Interface
  deriving DecidableEq, Repr

/-! ## Calls -/

/-- A call into libusb. `globalDevices` is `rusb::devices()`, the list of
the global context; `devices` is that of the manager's own context. -/
inductive UsbCall where
  | devices
  | globalDevices
  | deviceDescriptor (device : UsbDevice)
  | openDevice (device : UsbDevice)
  | activeConfigDescriptor (device : UsbDevice)
  | configDescriptor (device : UsbDevice) (index : UInt8)
  | readStringDescriptorAscii (handle : Handle) (index : UInt8)
  | detachKernelDriver (handle : Handle) (iface : UInt8)
  | attachKernelDriver (handle : Handle) (iface : UInt8)
  | claimInterface (handle : Handle) (iface : UInt8)
  | releaseInterface (handle : Handle) (iface : UInt8)
  | setActiveConfiguration (handle : Handle) (config : UInt8)
  | readControl (handle : Handle) (requestType request : UInt8) (value index : UInt16)
      (length : Nat) (timeoutMs : UInt64)
  | writeControl (handle : Handle) (requestType request : UInt8) (value index : UInt16)
      (data : Bytes) (timeoutMs : UInt64)
  | readBulk (handle : Handle) (endpoint : UInt8) (length : Nat) (timeoutMs : UInt64)
  | writeBulk (handle : Handle) (endpoint : UInt8) (data : Bytes) (timeoutMs : UInt64)
  | readInterrupt (handle : Handle) (endpoint : UInt8) (length : Nat) (timeoutMs : UInt64)
  | writeInterrupt (handle : Handle) (endpoint : UInt8) (data : Bytes) (timeoutMs : UInt64)
  deriving DecidableEq, Repr

/-- What a call returns. A read returns the count and the bytes put into
the caller's buffer. -/
def UsbCall.Res : UsbCall → Type
  | devices => Except RusbError (List UsbDevice)
  | globalDevices => Except RusbError (List UsbDevice)
  | deviceDescriptor _ => Except RusbError DeviceDescriptor
  | openDevice _ => Except RusbError Handle
  | activeConfigDescriptor _ => Except RusbError ConfigDescriptor
  | configDescriptor _ _ => Except RusbError ConfigDescriptor
  | readStringDescriptorAscii _ _ => Except RusbError String
  | detachKernelDriver _ _ => Except RusbError Unit
  | attachKernelDriver _ _ => Except RusbError Unit
  | claimInterface _ _ => Except RusbError Unit
  | releaseInterface _ _ => Except RusbError Unit
  | setActiveConfiguration _ _ => Except RusbError Unit
  | readControl _ _ _ _ _ _ _ => Except RusbError (Nat × Bytes)
  | writeControl _ _ _ _ _ _ _ => Except RusbError Nat
  | readBulk _ _ _ _ => Except RusbError (Nat × Bytes)
  | writeBulk _ _ _ _ => Except RusbError Nat
  | readInterrupt _ _ _ _ => Except RusbError (Nat × Bytes)
  | writeInterrupt _ _ _ _ => Except RusbError Nat

/-- The host the server runs on. -/
structure Platform (W : Type) where
  usb : (call : UsbCall) → W → call.Res × W
  usbErrorText : RusbError → String
  hmacSha256 : Bytes → Bytes → Bytes

/-- The USB side of a running function: the world and the calls made so
far, oldest first. -/
structure Bus (W : Type) where
  world : W
  calls : List UsbCall

variable {W : Type}

/-- Make a call. -/
def Platform.call (p : Platform W) (call : UsbCall) (u : Bus W) : call.Res × Bus W :=
  ((p.usb call u.world).1, ⟨(p.usb call u.world).2, u.calls ++ [call]⟩)

@[simp] theorem Platform.call_calls (p : Platform W) (call : UsbCall) (u : Bus W) :
    (p.call call u).2.calls = u.calls ++ [call] := rfl

/-! ## A small host -/

/-- A host with two devices, at bus 1 addresses 2 and 3, on which every
open succeeds and gets a new handle, interfaces can be claimed, and
transfers fail. No kernel driver is bound. -/
def twoDeviceHost : Platform Nat where
  usb
    | .devices, w => (.ok [⟨1, 2, 1, .high⟩, ⟨1, 3, 4, .full⟩], w)
    | .globalDevices, w => (.ok [⟨1, 2, 1, .high⟩, ⟨1, 3, 4, .full⟩], w)
    | .deviceDescriptor _, w =>
        (.ok ⟨0x046d, 0xc52b, 0, 0, 0, 64, 1, (2, 0, 0), (1, 0, 0), none, none, none⟩, w)
    | .openDevice _, w => (.ok w, w + 1)
    | .activeConfigDescriptor _, w => (.ok ⟨1, 1, 50, false, false, none, [⟨0, []⟩]⟩, w)
    | .configDescriptor _ _, w => (.ok ⟨1, 1, 50, false, false, none, [⟨0, []⟩]⟩, w)
    | .readStringDescriptorAscii _ _, w => (.error .pipe, w)
    | .detachKernelDriver _ _, w => (.error .notFound, w)
    | .attachKernelDriver _ _, w => (.error .notFound, w)
    | .claimInterface _ _, w => (.ok (), w)
    | .releaseInterface _ _, w => (.ok (), w)
    | .setActiveConfiguration _ _, w => (.ok (), w)
    | .readControl _ _ _ _ _ _ _, w => (.error .pipe, w)
    | .writeControl _ _ _ _ _ _ _, w => (.error .pipe, w)
    | .readBulk _ _ _ _, w => (.error .pipe, w)
    | .writeBulk _ _ _ _, w => (.error .pipe, w)
    | .readInterrupt _ _ _ _, w => (.error .pipe, w)
    | .writeInterrupt _ _ _ _, w => (.error .pipe, w)
  usbErrorText _ := "error"
  hmacSha256 _ _ := []

/-- The calls that act on an open handle as an interface or configuration
request does. -/
def UsbCall.configures : UsbCall → Bool
  | claimInterface _ _ => true
  | releaseInterface _ _ => true
  | setActiveConfiguration _ _ => true
  | _ => false

end WolfUsb
