/-
WolfUsb.Server.SysfsTheorems — what `from_sysfs` makes of the attribute
files of a device.

The files are those the comments of `from_sysfs` assume (`Sysfs.Describes`):
numbers in decimal or in padded hexadecimal, the version in BCD digits
around a point, blanks around each. Every field is recovered, but the two
halves of the version are parsed as decimal numbers: `6.01` is 0x0601, and
`1.10` is 0x010a (`from_sysfs_misreads_version`). A version is recovered
exactly when neither half needs its high digit (`from_sysfs_recovers_iff`).
-/
import WolfUsb.Lib.Columns
import WolfUsb.Server.Sysfs

namespace WolfUsb.KernelUsbip

open Lib

/-! ## The files -/

/-- The file holds the text, with blanks around it. -/
def Sysfs.Holds (sysfs : Sysfs) (busid file : String) (text : List Char) : Prop :=
  ∃ before after, (∀ c ∈ before, isWhitespace c = true) ∧ (∀ c ∈ after, isWhitespace c = true) ∧
    sysfs.attr busid file = some (String.ofList (before ++ text ++ after))

/-- A number in a radix, padded with zeros. -/
def Sysfs.HoldsNumber (sysfs : Sysfs) (busid file : String) (radix n : Nat) : Prop :=
  ∃ zeros, sysfs.Holds busid file (numeralIn radix zeros n)

/-- The digits of a BCD version are the digits of its hexadecimal numeral:
`6.01` for 0x0601. -/
def versionText (zerosMajor zerosMinor : Nat) (version : UInt16) : List Char :=
  numeralIn 16 zerosMajor (version.toNat / 256) ++ '.' ::
    numeralIn 16 zerosMinor (version.toNat % 256)

/-- The kernel's texts for the speeds. -/
def kernelSpeeds : List (String × UInt32) :=
  [("unknown", 0), ("1.5", 1), ("12", 2), ("480", 3), ("5000", 5), ("10000", 6)]

/-- The files of the entry hold the fields of the device. -/
structure Sysfs.Describes (sysfs : Sysfs) (info : DeviceInfo) : Prop where
  busnum : sysfs.HoldsNumber info.busid "busnum" 10 info.busNum.toNat
  devnum : sysfs.HoldsNumber info.busid "devnum" 10 info.devNum.toNat
  speed : ∃ text, (text, info.speed) ∈ kernelSpeeds ∧ sysfs.Holds info.busid "speed" text.toList
  idVendor : sysfs.HoldsNumber info.busid "idVendor" 16 info.vendorId.toNat
  idProduct : sysfs.HoldsNumber info.busid "idProduct" 16 info.productId.toNat
  bcdDevice : ∃ zerosMajor zerosMinor,
    sysfs.Holds info.busid "bcdDevice" (versionText zerosMajor zerosMinor info.bcdDevice)
  bDeviceClass : sysfs.HoldsNumber info.busid "bDeviceClass" 16 info.deviceClass.toNat
  bDeviceSubClass : sysfs.HoldsNumber info.busid "bDeviceSubClass" 16 info.deviceSubclass.toNat
  bDeviceProtocol : sysfs.HoldsNumber info.busid "bDeviceProtocol" 16 info.deviceProtocol.toNat
  bConfigurationValue :
    sysfs.HoldsNumber info.busid "bConfigurationValue" 10 info.configurationValue.toNat
  bNumConfigurations :
    sysfs.HoldsNumber info.busid "bNumConfigurations" 10 info.numConfigurations.toNat
  bNumInterfaces : sysfs.HoldsNumber info.busid "bNumInterfaces" 10 info.numInterfaces.toNat

/-! ## Reading the files -/

section Reading

variable {sysfs : Sysfs} {busid file : String} {text : List Char}

/-- A file is read without the blanks. -/
theorem readSysfsString_of_holds (h : sysfs.Holds busid file text)
    (hplain : ∀ c ∈ text, isWhitespace c = false) (hne : text ≠ []) :
    sysfs.readSysfsString busid file = some (String.ofList text) := by
  obtain ⟨before, after, hbefore, hafter, hfile⟩ := h
  rw [Sysfs.readSysfsString, hfile, Option.map_some, trim_surrounded hbefore hafter hplain hne]

theorem dec_of_holds {n : Nat} (hn : n < 2 ^ 32) (h : sysfs.HoldsNumber busid file 10 n) :
    sysfs.dec busid file = .ok (UInt32.ofNat n) := by
  obtain ⟨zeros, before, after, hbefore, hafter, hfile⟩ := h
  have htrim : trim (String.ofList (before ++ numeralIn 10 zeros n ++ after))
      = String.ofList (numeralIn 10 zeros n) :=
    trim_surrounded hbefore hafter (fun c hc => (numeralIn_plain (by decide) (by decide) hc).1)
      (numeralIn_ne_nil _ _ _)
  have hnumber : fromStrRadix 10 u32Max (String.ofList (numeralIn 10 zeros n)) = .ok n :=
    fromStrRadix_numeralIn (by decide) (by decide) zeros (Nat.le_sub_one_of_lt hn)
  simp only [Sysfs.dec, Sysfs.readSysfsU32, hfile, Option.bind_some, htrim, hnumber]
  rfl

/-- Without an `x` there is no `0x`. -/
theorem trimStart0x_of_notMem {cs : List Char} (h : 'x' ∉ cs) : trimStart0x cs = cs := by
  unfold trimStart0x
  split
  · simp at h
  · rfl

theorem hex_of_holds {n : Nat} (hn : n < 2 ^ 32) (h : sysfs.HoldsNumber busid file 16 n) :
    sysfs.hex busid file = .ok (UInt32.ofNat n) := by
  obtain ⟨zeros, h⟩ := h
  have hread := readSysfsString_of_holds h
    (fun c hc => (numeralIn_plain (by decide) (by decide) hc).1) (numeralIn_ne_nil _ _ _)
  have hx : 'x' ∉ numeralIn 16 zeros n := by
    intro hmem
    exact (numeralIn_plain (by decide) (by decide) hmem).2 (by simp)
  have hnumber : fromStrRadix 16 u32Max (String.ofList (numeralIn 16 zeros n)) = .ok n :=
    fromStrRadix_numeralIn (by decide) (by decide) zeros (Nat.le_sub_one_of_lt hn)
  simp [Sysfs.hex, hread, trimStart0x_of_notMem hx, hnumber]

theorem speed_of_holds {v : UInt32} {s : String} (hs : (s, v) ∈ kernelSpeeds)
    (h : sysfs.Holds busid "speed" s.toList) : sysfs.speed busid = .ok v := by
  have hwords : ∀ c ∈ s.toList, isWhitespace c = false := by
    simp only [kernelSpeeds, List.mem_cons, Prod.mk.injEq, List.not_mem_nil, or_false] at hs
    rcases hs with ⟨rfl, -⟩ | ⟨rfl, -⟩ | ⟨rfl, -⟩ | ⟨rfl, -⟩ | ⟨rfl, -⟩ | ⟨rfl, -⟩ <;>
      exact plain_of_all (by decide)
  have hvalue : s.toList ≠ [] ∧ speedValue s = v := by
    simp only [kernelSpeeds, List.mem_cons, Prod.mk.injEq, List.not_mem_nil, or_false] at hs
    rcases hs with ⟨rfl, rfl⟩ | ⟨rfl, rfl⟩ | ⟨rfl, rfl⟩ | ⟨rfl, rfl⟩ | ⟨rfl, rfl⟩ | ⟨rfl, rfl⟩ <;>
      simp [speedValue]
  simp [Sysfs.speed, readSysfsString_of_holds h hwords hvalue.1, hvalue.2]

end Reading

/-! ## The version -/

/-- A digit of a BCD version, the lowest first. -/
def bcdDigit (version : UInt16) (k : Nat) : Nat := version.toNat / 16 ^ k % 16

def IsBcd (version : UInt16) : Prop := ∀ k < 4, bcdDigit version k ≤ 9

/-- The digits of the two halves. -/
theorem bcd_halves {version : UInt16} (h : IsBcd version) :
    version.toNat / 256 / 16 ≤ 9 ∧ version.toNat / 256 % 16 ≤ 9 ∧
      version.toNat % 256 / 16 ≤ 9 ∧ version.toNat % 256 % 16 ≤ 9 := by
  have h₀ := h 0 (by decide)
  have h₁ := h 1 (by decide)
  have h₂ := h 2 (by decide)
  have h₃ := h 3 (by decide)
  simp only [bcdDigit] at h₀ h₁ h₂ h₃
  have hlt := version.toNat_lt
  omega

/-- A BCD byte read as a decimal number. -/
def asDecimal (byte : Nat) : Nat := 10 * (byte / 16) + byte % 16

/-- The hexadecimal numeral of a BCD byte is the decimal one of another
number. -/
theorem numeralIn_bcd {byte : Nat} (hhigh : byte / 16 ≤ 9) (hlow : byte % 16 ≤ 9) (zeros : Nat) :
    numeralIn 16 zeros byte = numeral zeros (asDecimal byte) := by
  have hdigits : Nat.toDigits 16 byte = Nat.toDigits 10 (asDecimal byte) := by
    by_cases hsmall : byte < 16
    · have hvalue : asDecimal byte = byte := by
        unfold asDecimal
        omega
      rw [hvalue, Nat.toDigits_of_lt_base hsmall, Nat.toDigits_of_lt_base (by omega)]
    · have hfront : asDecimal byte / 10 = byte / 16 := by
        unfold asDecimal
        omega
      have hback : asDecimal byte % 10 = byte % 16 := by
        unfold asDecimal
        omega
      have hlarge : 10 ≤ asDecimal byte := by
        unfold asDecimal
        omega
      rw [Nat.toDigits_of_base_le (by decide) (by omega),
        Nat.toDigits_of_base_le (by decide) hlarge, hfront, hback,
        Nat.toDigits_of_lt_base (by omega), Nat.toDigits_of_lt_base (by omega)]
  rw [numeral, numeralIn, numeralIn, hdigits]

/-- What the block for `bcdDevice` makes of a version. -/
def misread (version : UInt16) : UInt16 :=
  UInt16.ofNat (asDecimal (version.toNat / 256)) <<< 8 |||
    UInt16.ofNat (asDecimal (version.toNat % 256)) &&& 0xff

theorem parseU16_bcd {byte : Nat} (hhigh : byte / 16 ≤ 9) (hlow : byte % 16 ≤ 9) (zeros : Nat) :
    parseU16 (String.ofList (numeralIn 16 zeros byte)) = some (UInt16.ofNat (asDecimal byte)) := by
  have hmax : asDecimal byte ≤ u16Max := by
    unfold asDecimal u16Max
    omega
  rw [parseU16, numeralIn_bcd hhigh hlow, fromStrRadix_numeral zeros hmax]
  rfl

theorem parseBcdDevice_versionText {version : UInt16} (h : IsBcd version) (zMajor zMinor : Nat) :
    parseBcdDevice (String.ofList (versionText zMajor zMinor version)) = misread version := by
  obtain ⟨h₃, h₂, h₁, h₀⟩ := bcd_halves h
  have hmajor := parseU16_bcd h₃ h₂ zMajor
  have hminor := parseU16_bcd h₁ h₀ zMinor
  have hpoint (zeros byte : Nat) : '.' ∉ numeralIn 16 zeros byte := by
    intro hmem
    exact (numeralIn_plain (by decide) (by decide) hmem).2 (by simp)
  have hparts : splitChar '.' (String.ofList (versionText zMajor zMinor version)) =
      [String.ofList (numeralIn 16 zMajor (version.toNat / 256)),
        String.ofList (numeralIn 16 zMinor (version.toNat % 256))] := by
    rw [splitChar, String.toList_ofList, versionText,
      List.splitOn_append_cons_self_of_not_mem (hpoint _ _),
      List.splitOn_eq_singleton (hpoint _ _)]
    rfl
  simp [parseBcdDevice, hparts, hmajor, hminor, misread]

theorem toNat_misread {version : UInt16} (h : IsBcd version) :
    (misread version).toNat
      = asDecimal (version.toNat / 256) * 256 + asDecimal (version.toNat % 256) := by
  obtain ⟨h₃, h₂, h₁, h₀⟩ := bcd_halves h
  have hmajor : asDecimal (version.toNat / 256) < 256 := by
    unfold asDecimal
    omega
  have hminor : asDecimal (version.toNat % 256) < 2 ^ 8 := by
    unfold asDecimal
    omega
  have hshift : asDecimal (version.toNat / 256) % 2 ^ 16 * 2 ^ 8 % 2 ^ 16
      = asDecimal (version.toNat / 256) * 2 ^ 8 := by
    omega
  have hmask : asDecimal (version.toNat % 256) % 2 ^ 16 &&& (2 ^ 8 - 1)
      = asDecimal (version.toNat % 256) := by
    rw [Nat.and_two_pow_sub_one_eq_mod]
    omega
  simp only [misread, UInt16.toNat_or, UInt16.toNat_shiftLeft, UInt16.toNat_and,
    UInt16.toNat_ofNat']
  show (asDecimal (version.toNat / 256) % 2 ^ 16) <<< 8 % 2 ^ 16 |||
    asDecimal (version.toNat % 256) % 2 ^ 16 &&& (2 ^ 8 - 1) = _
  rw [Nat.shiftLeft_eq, hshift, hmask, ← Nat.shiftLeft_eq,
    ← Nat.shiftLeft_add_eq_or_of_lt hminor, Nat.shiftLeft_eq]

/-- A version is read right exactly when neither half has a high digit. -/
theorem misread_eq_iff {version : UInt16} (h : IsBcd version) :
    misread version = version ↔ bcdDigit version 3 = 0 ∧ bcdDigit version 1 = 0 := by
  obtain ⟨h₃, h₂, h₁, h₀⟩ := bcd_halves h
  have hlt := version.toNat_lt
  rw [← UInt16.toNat_inj, toNat_misread h]
  unfold asDecimal bcdDigit
  omega

/-! ## The device -/

/-- `from_sysfs` succeeds, and all it may get wrong is the version. -/
theorem fromSysfs_describes {sysfs : Sysfs} {info : DeviceInfo} (h : sysfs.Describes info)
    (hbcd : IsBcd info.bcdDevice) :
    DeviceInfo.fromSysfs sysfs info.busid
      = .ok { info with bcdDevice := misread info.bcdDevice } := by
  obtain ⟨text, hmem, htext⟩ := h.speed
  obtain ⟨zMajor, zMinor, hversion⟩ := h.bcdDevice
  have hspeed := speed_of_holds hmem htext
  have hread : sysfs.readSysfsString info.busid "bcdDevice"
      = some (String.ofList (versionText zMajor zMinor info.bcdDevice)) := by
    refine readSysfsString_of_holds hversion ?_ (by simp [versionText])
    intro c hc
    rcases List.mem_append.mp hc with hc | hc
    · exact (numeralIn_plain (by decide) (by decide) hc).1
    · rcases List.mem_cons.mp hc with rfl | hc
      · decide
      · exact (numeralIn_plain (by decide) (by decide) hc).1
  have hbusnum := dec_of_holds info.busNum.toNat_lt h.busnum
  have hdevnum := dec_of_holds info.devNum.toNat_lt h.devnum
  have hvendor := hex_of_holds (by have := info.vendorId.toNat_lt; omega) h.idVendor
  have hproduct := hex_of_holds (by have := info.productId.toNat_lt; omega) h.idProduct
  have hbyte (byte : UInt8) : byte.toNat < 2 ^ 32 := by
    have := byte.toNat_lt
    omega
  have hclass := hex_of_holds (hbyte _) h.bDeviceClass
  have hsubclass := hex_of_holds (hbyte _) h.bDeviceSubClass
  have hprotocol := hex_of_holds (hbyte _) h.bDeviceProtocol
  have hvalue := dec_of_holds (hbyte _) h.bConfigurationValue
  have hconfigurations := dec_of_holds (hbyte _) h.bNumConfigurations
  have hinterfaces := dec_of_holds (hbyte _) h.bNumInterfaces
  simp [DeviceInfo.fromSysfs, hspeed, hread, hbusnum, hdevnum, hvendor, hproduct, hclass,
    hsubclass, hprotocol, hvalue, hconfigurations, hinterfaces,
    parseBcdDevice_versionText hbcd, bind, Except.bind, pure, Except.pure]

/-- **The descriptor is recovered** exactly when neither half of its BCD
version needs its high digit. -/
theorem from_sysfs_recovers_iff {sysfs : Sysfs} {info : DeviceInfo} (h : sysfs.Describes info)
    (hbcd : IsBcd info.bcdDevice) :
    DeviceInfo.fromSysfs sysfs info.busid = .ok info ↔
      bcdDigit info.bcdDevice 3 = 0 ∧ bcdDigit info.bcdDevice 1 = 0 := by
  rw [fromSysfs_describes h hbcd, ← misread_eq_iff hbcd]
  constructor
  · intro heq
    exact congrArg DeviceInfo.bcdDevice (Except.ok.inj heq)
  · intro heq
    rw [heq]

/-! ## A directory -/

/-- The files of a device, without the line feed at the end of each. -/
def fileText (info : DeviceInfo) (speed : String) : String → Option (List Char)
  | "busnum" => some (numeralIn 10 0 info.busNum.toNat)
  | "devnum" => some (numeralIn 10 0 info.devNum.toNat)
  | "speed" => some speed.toList
  | "idVendor" => some (numeralIn 16 0 info.vendorId.toNat)
  | "idProduct" => some (numeralIn 16 0 info.productId.toNat)
  | "bcdDevice" => some (versionText 0 0 info.bcdDevice)
  | "bDeviceClass" => some (numeralIn 16 1 info.deviceClass.toNat)
  | "bDeviceSubClass" => some (numeralIn 16 1 info.deviceSubclass.toNat)
  | "bDeviceProtocol" => some (numeralIn 16 1 info.deviceProtocol.toNat)
  | "bConfigurationValue" => some (numeralIn 10 0 info.configurationValue.toNat)
  | "bNumConfigurations" => some (numeralIn 10 0 info.numConfigurations.toNat)
  | "bNumInterfaces" => some (numeralIn 10 0 info.numInterfaces.toNat)
  | _ => none

/-- A directory with one device. -/
def deviceDir (info : DeviceInfo) (speed : String) : Sysfs where
  entries := .ok [some info.busid]
  attr busid file :=
    if busid = info.busid then
      (fileText info speed file).map fun text => String.ofList (text ++ ['\n'])
    else none

theorem holds_deviceDir {info : DeviceInfo} {speed file : String} {text : List Char}
    (h : fileText info speed file = some text) :
    (deviceDir info speed).Holds info.busid file text := by
  refine ⟨[], ['\n'], nofun, ?_, ?_⟩
  · intro c hc
    rw [List.mem_singleton.mp hc]
    decide
  · simp [deviceDir, h]

theorem describes_deviceDir {info : DeviceInfo} {speed : String}
    (h : (speed, info.speed) ∈ kernelSpeeds) : (deviceDir info speed).Describes info where
  busnum := ⟨_, holds_deviceDir rfl⟩
  devnum := ⟨_, holds_deviceDir rfl⟩
  speed := ⟨speed, h, holds_deviceDir rfl⟩
  idVendor := ⟨_, holds_deviceDir rfl⟩
  idProduct := ⟨_, holds_deviceDir rfl⟩
  bcdDevice := ⟨_, _, holds_deviceDir rfl⟩
  bDeviceClass := ⟨_, holds_deviceDir rfl⟩
  bDeviceSubClass := ⟨_, holds_deviceDir rfl⟩
  bDeviceProtocol := ⟨_, holds_deviceDir rfl⟩
  bConfigurationValue := ⟨_, holds_deviceDir rfl⟩
  bNumConfigurations := ⟨_, holds_deviceDir rfl⟩
  bNumInterfaces := ⟨_, holds_deviceDir rfl⟩

/-- A hub of version 6.01. -/
def rootHub : DeviceInfo := ⟨"1-1", 1, 2, 3, 0x1d6b, 0x1002, 0x0601, 9, 0, 1, 1, 1, 1⟩

theorem from_sysfs_recovers_hub :
    DeviceInfo.fromSysfs (deviceDir rootHub "480") "1-1" = .ok rootHub :=
  (from_sysfs_recovers_iff (describes_deviceDir (by simp [kernelSpeeds, rootHub]))
    (by unfold IsBcd; decide)).mpr (by decide)

/-- A mouse of version 1.10. -/
def mouse : DeviceInfo := ⟨"1-2", 1, 3, 1, 0x046d, 0xc077, 0x0110, 0, 0, 0, 1, 1, 1⟩

/-- Its version is taken for 0x010a. -/
theorem from_sysfs_misreads_version :
    (deviceDir mouse "1.5").Describes mouse ∧ IsBcd mouse.bcdDevice ∧
      DeviceInfo.fromSysfs (deviceDir mouse "1.5") mouse.busid
        = .ok { mouse with bcdDevice := 0x010a } ∧
      DeviceInfo.fromSysfs (deviceDir mouse "1.5") mouse.busid ≠ .ok mouse := by
  have hdir : (deviceDir mouse "1.5").Describes mouse :=
    describes_deviceDir (by simp [kernelSpeeds, mouse])
  have hbcd : IsBcd mouse.bcdDevice := by
    unfold IsBcd
    decide
  have hversion : misread mouse.bcdDevice = 0x010a := by decide
  have hread := fromSysfs_describes hdir hbcd
  rw [hversion] at hread
  refine ⟨hdir, hbcd, hread, ?_⟩
  rw [hread]
  decide

end WolfUsb.KernelUsbip
