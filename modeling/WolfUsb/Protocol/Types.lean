/-
WolfUsb.Protocol.Types — the wire-safe USB descriptor types
(`protocol/types.rs`).

`Vec<u8>` is `List UInt8` and `HashMap<K, V>` is Mathlib's `Finmap`: two
maps with the same lookups are equal, and no order of the keys can be
observed, as with the hash maps of the source.
-/
import Mathlib.Data.Finmap

namespace WolfUsb

/-- `std::collections::HashMap<K, V>`. -/
abbrev HashMap (K V : Type) := Finmap (fun _ : K => V)

abbrev Bytes := List UInt8

inductive UsbSpeed where
  | unknown | low | full | high | super | superPlus
  deriving DecidableEq, Repr

inductive UsbTransferType where
  | control | isochronous | bulk | interrupt
  deriving DecidableEq, Repr

inductive UsbDirection where
  | input | output
  deriving DecidableEq, Repr

/-- A device as clients name it: its bus and its address on the bus. -/
structure DeviceId where
  busNumber : UInt8
  address : UInt8
  deriving DecidableEq, Repr

instance : ToString DeviceId where
  toString d := toString d.busNumber ++ ":" ++ toString d.address

structure DeviceInfo where
  deviceId : DeviceId
  vendorId : UInt16
  productId : UInt16
  classCode : UInt8
  subClassCode : UInt8
  protocolCode : UInt8
  maxPacketSizeEp0 : UInt8
  numConfigurations : UInt8
  usbVersion : UInt8 × UInt8 × UInt8
  deviceVersion : UInt8 × UInt8 × UInt8
  speed : UsbSpeed
  portNumber : UInt8
  manufacturer : Option String
  product : Option String
  serialNumber : Option String
  deriving DecidableEq, Repr

structure EndpointInfo where
  address : UInt8
  number : UInt8
  direction : UsbDirection
  transferType : UsbTransferType
  maxPacketSize : UInt16
  interval : UInt8
  deriving DecidableEq, Repr

structure InterfaceInfo where
  interfaceNumber : UInt8
  settingNumber : UInt8
  classCode : UInt8
  subClassCode : UInt8
  protocolCode : UInt8
  numEndpoints : UInt8
  description : Option String
  endpoints : List EndpointInfo
  deriving DecidableEq, Repr

structure ConfigurationInfo where
  number : UInt8
  numInterfaces : UInt8
  maxPowerMa : UInt16
  selfPowered : Bool
  remoteWakeup : Bool
  description : Option String
  interfaces : List InterfaceInfo
  deriving DecidableEq, Repr

structure DeviceDescriptorTree where
  device : DeviceInfo
  configurations : List ConfigurationInfo
  deriving DecidableEq, Repr

end WolfUsb
