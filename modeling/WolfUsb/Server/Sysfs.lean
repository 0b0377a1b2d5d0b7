/-
WolfUsb.Server.Sysfs — what the server reads from
`/sys/bus/usb/devices` (`server/kernel_usbip.rs`): the busid of a device
from its bus and address, and the `usb_device` struct of OP_REP_IMPORT
from its attribute files.

`Sysfs` is the directory at one moment: two reads of a function see the
same directory, two functions need not. An `anyhow` error is the list of
its texts, the outermost context first.
-/
import WolfUsb.Lib.Text
import WolfUsb.Lib.Wire

namespace WolfUsb

open Lib

/-- `anyhow::Error`. -/
abbrev AnyhowError := List String

/-- A `?` that did not return. -/
theorem bind_eq_ok {ε α β : Type} {x : Except ε α} {f : α → Except ε β} {b : β}
    (h : x >>= f = .ok b) : ∃ a, x = .ok a ∧ f a = .ok b := by
  cases x with
  | error e => cases h
  | ok a => exact ⟨a, rfl, h⟩

namespace KernelUsbip

structure Sysfs where
  /-- The entries in the order of `read_dir`, `none` where one cannot be
  read or its name is not UTF-8; or the text of the I/O error. -/
  entries : Except String (List (Option String))
  /-- The text of a file of an entry, where it can be read. -/
  attr : (busid file : String) → Option String

def devicesDir : String := "/sys/bus/usb/devices"

/-- `/sys/bus/usb/devices/<busid>/<file>`. -/
def attrPath (busid file : String) : String := devicesDir ++ "/" ++ busid ++ "/" ++ file

def u16Max : Nat := 2 ^ 16 - 1

def u32Max : Nat := 2 ^ 32 - 1

namespace Sysfs

def readSysfsU32 (sysfs : Sysfs) (busid file : String) : Option UInt32 :=
  (sysfs.attr busid file).bind fun text =>
    (fromStrRadix 10 u32Max (trim text)).toOption.map UInt32.ofNat

def readSysfsString (sysfs : Sysfs) (busid file : String) : Option String :=
  (sysfs.attr busid file).map trim

end Sysfs

/-! ## The busid -/

/-- `format!("{}-{}", bus, port_path)`. -/
def sysfsBusid (bus : UInt8) (portPath : String) : String := toString bus ++ "-" ++ portPath

/-- An entry that is neither an interface nor a root hub. -/
def isDeviceName (name : String) : Bool := !name.toList.contains ':' && name.toList.contains '-'

/-- The entry's `busnum` and `devnum`, 0 where unreadable, are these. -/
def Sysfs.hasAddress (sysfs : Sysfs) (name : String) (bus address : UInt8) : Bool :=
  (sysfs.readSysfsU32 name "busnum").getD 0 == bus.toUInt32 &&
    (sysfs.readSysfsU32 name "devnum").getD 0 == address.toUInt32

/-- The loop of `port_path_for_address`. -/
def Sysfs.findPortPath (sysfs : Sysfs) (bus address : UInt8) : List (Option String) → Option String
  | [] => none
  | none :: rest => sysfs.findPortPath bus address rest
  | some name :: rest =>
      if isDeviceName name && sysfs.hasAddress name bus address then
        match stripPrefix (toString bus ++ "-") name with
        | some path => some path
        | none => sysfs.findPortPath bus address rest
      else sysfs.findPortPath bus address rest

def portPathForAddress (sysfs : Sysfs) (bus address : UInt8) : Except AnyhowError String :=
  match sysfs.entries with
  | .error e => .error ["reading " ++ devicesDir, e]
  | .ok entries =>
      match sysfs.findPortPath bus address entries with
      | some path => .ok path
      | none => .error ["no sysfs device matches bus=" ++ toString bus ++
          " address=" ++ toString address]

/-- What the loop finds names an entry of the listing that is a device at
the address. -/
theorem Sysfs.findPortPath_sound {sysfs : Sysfs} {bus address : UInt8} {path : String} :
    ∀ {entries : List (Option String)}, sysfs.findPortPath bus address entries = some path →
      some (sysfsBusid bus path) ∈ entries ∧ isDeviceName (sysfsBusid bus path) = true ∧
        sysfs.hasAddress (sysfsBusid bus path) bus address = true
  | none :: rest, h => by
      have h : sysfs.findPortPath bus address rest = some path := h
      obtain ⟨hmem, hname⟩ := findPortPath_sound h
      exact ⟨List.mem_cons_of_mem _ hmem, hname⟩
  | some name :: rest, h => by
      have hrest (h : sysfs.findPortPath bus address rest = some path) :
          some (sysfsBusid bus path) ∈ some name :: rest ∧
            isDeviceName (sysfsBusid bus path) = true ∧
              sysfs.hasAddress (sysfsBusid bus path) bus address = true := by
        obtain ⟨hmem, hname⟩ := findPortPath_sound h
        exact ⟨List.mem_cons_of_mem _ hmem, hname⟩
      rw [findPortPath] at h
      split at h
      · rename_i hentry
        split at h
        · rename_i found hstrip
          obtain rfl := Option.some.inj h
          have hbusid : sysfsBusid bus found = name := (stripPrefix_eq_some.mp hstrip).symm
          rw [hbusid]
          exact ⟨List.mem_cons_self, Bool.and_eq_true_iff.mp hentry⟩
        · exact hrest h
      · exact hrest h

/-! ## The device info -/

/-- `DeviceInfo`: what the `usb_device` struct of the reply is made of. -/
structure DeviceInfo where
  busid : String
  busNum : UInt32
  devNum : UInt32
  /-- A `USB_SPEED_*` value of the kernel. -/
  speed : UInt32
  vendorId : UInt16
  productId : UInt16
  bcdDevice : UInt16
  deviceClass : UInt8
  deviceSubclass : UInt8
  deviceProtocol : UInt8
  configurationValue : UInt8
  numConfigurations : UInt8
  numInterfaces : UInt8
  deriving DecidableEq, Repr

/-- The kernel's value for the text of `speed`. -/
def speedValue : String → UInt32
  | "1.5" => 1
  | "12" => 2
  | "480" => 3
  | "5000" => 5
  | "10000" => 6
  | _ => 0

/-- `s.trim_start_matches("0x")`. -/
def trimStart0x : List Char → List Char
  | '0' :: 'x' :: rest => trimStart0x rest
  | cs => cs

/-- `s.parse::<u16>().ok()`. -/
def parseU16 (s : String) : Option UInt16 := (fromStrRadix 10 u16Max s).toOption.map UInt16.ofNat

/-- The block that reads `bcdDevice`: `6.01` is 0x0601. -/
def parseBcdDevice (s : String) : UInt16 :=
  let parts := splitChar '.' s
  let maj := (parts[0]?.bind parseU16).getD 0
  let min := (parseU16 (parts[1]?.getD "00")).getD 0
  maj <<< 8 ||| min &&& 0xff

namespace Sysfs

variable (sysfs : Sysfs) (busid : String)

/-- The block that reads `speed`. -/
def speed : Except AnyhowError UInt32 :=
  match sysfs.readSysfsString busid "speed" with
  | none => .error ["missing speed"]
  | some s => .ok (speedValue s)

/-- The closure `hex` of `from_sysfs`. -/
def hex (file : String) : Except AnyhowError UInt32 :=
  match sysfs.readSysfsString busid file with
  | none => .error ["missing " ++ attrPath busid file]
  | some s =>
      match fromStrRadix 16 u32Max (String.ofList (trimStart0x s.toList)) with
      | .ok n => .ok (UInt32.ofNat n)
      | .error e => .error ["parsing " ++ attrPath busid file, e.text]

/-- The closure `dec` of `from_sysfs`. -/
def dec (file : String) : Except AnyhowError UInt32 :=
  match sysfs.readSysfsU32 busid file with
  | none => .error ["missing " ++ attrPath busid file]
  | some n => .ok n

end Sysfs

namespace DeviceInfo

def fromSysfs (sysfs : Sysfs) (busid : String) : Except AnyhowError DeviceInfo := do
  let speed ← sysfs.speed busid
  return {
    busid
    busNum := ← sysfs.dec busid "busnum"
    devNum := ← sysfs.dec busid "devnum"
    speed
    vendorId := (← sysfs.hex busid "idVendor").toUInt16
    productId := (← sysfs.hex busid "idProduct").toUInt16
    bcdDevice := parseBcdDevice ((sysfs.readSysfsString busid "bcdDevice").getD "")
    deviceClass := (← sysfs.hex busid "bDeviceClass").toUInt8
    deviceSubclass := (← sysfs.hex busid "bDeviceSubClass").toUInt8
    deviceProtocol := (← sysfs.hex busid "bDeviceProtocol").toUInt8
    configurationValue := (← sysfs.dec busid "bConfigurationValue").toUInt8
    numConfigurations := (← sysfs.dec busid "bNumConfigurations").toUInt8
    numInterfaces := (← sysfs.dec busid "bNumInterfaces").toUInt8 }

/-- The info is of the entry it was read from. -/
theorem fromSysfs_busid {sysfs : Sysfs} {busid : String} {info : DeviceInfo}
    (h : fromSysfs sysfs busid = .ok info) : info.busid = busid := by
  obtain ⟨speed, -, h⟩ := bind_eq_ok h
  obtain ⟨busNum, -, h⟩ := bind_eq_ok h
  obtain ⟨devNum, -, h⟩ := bind_eq_ok h
  obtain ⟨vendorId, -, h⟩ := bind_eq_ok h
  obtain ⟨productId, -, h⟩ := bind_eq_ok h
  obtain ⟨deviceClass, -, h⟩ := bind_eq_ok h
  obtain ⟨deviceSubclass, -, h⟩ := bind_eq_ok h
  obtain ⟨deviceProtocol, -, h⟩ := bind_eq_ok h
  obtain ⟨configurationValue, -, h⟩ := bind_eq_ok h
  obtain ⟨numConfigurations, -, h⟩ := bind_eq_ok h
  obtain ⟨numInterfaces, -, h⟩ := bind_eq_ok h
  obtain rfl := Except.ok.inj h
  rfl

/-- The 312 bytes of the `usb_device` struct. -/
def toWireBytes (info : DeviceInfo) : List UInt8 :=
  padded 256 (asBytes ("/sys/devices/pci0000:00/usb" ++ toString info.busNum ++ "/" ++ info.busid)) ++
  padded 32 (asBytes info.busid) ++
  be32 info.busNum ++ be32 info.devNum ++ be32 info.speed ++
  be16 info.vendorId ++ be16 info.productId ++ be16 info.bcdDevice ++
  [info.deviceClass, info.deviceSubclass, info.deviceProtocol, info.configurationValue,
    info.numConfigurations, info.numInterfaces]

theorem toWireBytes_length (info : DeviceInfo) : info.toWireBytes.length = 312 := by
  simp [toWireBytes]

end DeviceInfo

end KernelUsbip

end WolfUsb
