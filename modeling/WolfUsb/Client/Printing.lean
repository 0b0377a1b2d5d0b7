/-
WolfUsb.Client.Printing — what `list` and the transfer commands print
(`client/display.rs`), and that it can be read again.

The table of `list` names each device on a line of its own. Bus and
address, the two ids, the speed and the class fit their columns whatever
the device is, so the strings it reports cannot push them out of place;
they come after them. The heading of the table does not fit: `Bus:Addr` is
wider than its column, and so the headings stand one place to the right of
what they head.

The result of a transfer is printed with its count and its bytes, or with
the text of its error.
-/
import WolfUsb.Client.HexDumpTheorems
import WolfUsb.Lib.Table
import WolfUsb.Protocol.Messages

namespace WolfUsb.Display

open Lib

/-! ## `print_device_list` -/

/-- `format_class`, which does not look at the subclass. -/
def formatClass (cls _subclass : UInt8) : String :=
  match cls.toNat with
  | 0x00 => "Per-Iface"
  | 0x01 => "Audio"
  | 0x02 => "CDC"
  | 0x03 => "HID"
  | 0x05 => "Physical"
  | 0x06 => "Image"
  | 0x07 => "Printer"
  | 0x08 => "Storage"
  | 0x09 => "Hub"
  | 0x0A => "CDC-Data"
  | 0x0B => "SmartCard"
  | 0x0D => "ContentSec"
  | 0x0E => "Video"
  | 0x0F => "Healthcare"
  | 0x10 => "AV"
  | 0x11 => "Billboard"
  | 0xDC => "Diagnostic"
  | 0xE0 => "Wireless"
  | 0xEF => "Misc"
  | 0xFE => "App-Spec"
  | 0xFF => "Vendor"
  | _ => "Unknown"

def speedText : UsbSpeed → String
  | .unknown => "?"
  | .low => "1.5M"
  | .full => "12M"
  | .high => "480M"
  | .super => "5G"
  | .superPlus => "10G"

/-- `format!("{}:{}", ..)`. -/
def idText (d : DeviceId) : List Char :=
  (toString d.busNumber).toList ++ ':' :: (toString d.address).toList

/-- `{:04x}:{:04x}`. -/
def numbersText (dev : DeviceInfo) : List Char :=
  lowerHex 4 dev.vendorId.toNat ++ ':' :: lowerHex 4 dev.productId.toNat

/-- `.as_deref().unwrap_or("-")`. -/
def orDash (s : Option String) : List Char := (s.getD "-").toList

def tableHeader : List Char :=
  setRow [(7, "Bus:Addr".toList), (9, "VID:PID".toList), (6, "Speed".toList), (10, "Class".toList),
    (24, "Manufacturer".toList), (24, "Product".toList)] "Serial".toList

def deviceRow (dev : DeviceInfo) : List Char :=
  padTo 7 (idText dev.deviceId) ++ ' ' :: (numbersText dev ++ ' ' ::
    setRow [(6, (speedText dev.speed).toList),
      (10, (formatClass dev.classCode dev.subClassCode).toList), (24, orDash dev.manufacturer),
      (24, orDash dev.product)] (orDash dev.serialNumber))

def printDeviceList (devices : List DeviceInfo) : String :=
  if devices.isEmpty then setFile ["No USB devices found.".toList]
  else setFile (tableHeader :: List.replicate 100 '-' :: devices.map deviceRow)

/-! ## `print_transfer_result` -/

def okText : List Char := "Transfer OK: ".toList

def countedText : List Char := " bytes transferred".toList

def failedText : List Char := "Transfer FAILED: ".toList

def transferOk (bytesTransferred : UInt32) : List Char :=
  okText ++ (toString bytesTransferred).toList ++ countedText

def printTransferResult (resp : TransferResponse) : String :=
  if resp.success then
    setFile [transferOk resp.bytesTransferred] ++
      if resp.data.isEmpty then "" else setFile [(hexDump resp.data).toList]
  else setFile [failedText ++ (resp.errorMessage.getD "Unknown error").toList]

/-! ## Two numbers and a colon -/

/-- The numbers on both sides of a colon. -/
def readPair (radix max : Nat) (cell : List Char) : Option (Nat × Nat) :=
  match cell.splitOn ':' with
  | [a, b] =>
      match fromStrRadix radix max (String.ofList a), fromStrRadix radix max (String.ofList b) with
      | .ok x, .ok y => some (x, y)
      | _, _ => none
  | _ => none

theorem readPair_numerals {radix max x y zeros zeros' : Nat} (hradix : 1 < radix)
    (hle : radix ≤ 16) (hx : x ≤ max) (hy : y ≤ max) :
    readPair radix max (numeralIn radix zeros x ++ ':' :: numeralIn radix zeros' y)
      = some (x, y) := by
  have hcolon (z n : Nat) : ':' ∉ numeralIn radix z n := by
    intro hmem
    obtain ⟨d, hd, hchar⟩ := mem_numeralIn hradix hmem
    have hdigit : ∀ d < 16, Nat.digitChar d ≠ ':' := by decide
    exact hdigit d (Nat.lt_of_lt_of_le hd hle) hchar.symm
  have hsplit : (numeralIn radix zeros x ++ ':' :: numeralIn radix zeros' y).splitOn ':'
      = [numeralIn radix zeros x, numeralIn radix zeros' y] := by
    rw [List.splitOn_append_cons_self_of_not_mem (hcolon zeros x),
      List.splitOn_eq_singleton (hcolon zeros' y)]
  rw [readPair, hsplit]
  simp only [fromStrRadix_numeralIn hradix hle zeros hx,
    fromStrRadix_numeralIn hradix hle zeros' hy]

/-! ## The table is read -/

theorem toList_toString_nat (n : Nat) : (toString n).toList = numeralIn 10 0 n :=
  String.toList_ofList

theorem lowerHex_eq (width n : Nat) :
    lowerHex width n = numeralIn 16 (width - (Nat.toDigits 16 n).length) n := rfl

theorem length_toDigits_le {radix n k : Nat} (hradix : 1 < radix) (hk : 0 < k)
    (h : n < radix ^ k) : (Nat.toDigits radix n).length ≤ k :=
  (Nat.length_toDigits_le_iff hradix hk).mpr h

/-- A numeral ends in no blank. -/
theorem ne_blank_of_mem_numeralIn {radix zeros n : Nat} (hradix : 1 < radix) (hle : radix ≤ 16)
    {c : Char} (h : c ∈ numeralIn radix zeros n) : c ≠ ' ' := by
  rintro rfl
  exact absurd (numeralIn_plain hradix hle h).1 (by decide)

/-- Two numerals and a colon fit a column that is wide enough for their
digits. -/
theorem fitsCell_pair {radix width zeros zeros' x y : Nat} (hradix : 1 < radix)
    (hle : radix ≤ 16)
    (hwidth : (numeralIn radix zeros x).length + 1 + (numeralIn radix zeros' y).length ≤ width) :
    FitsCell (width, numeralIn radix zeros x ++ ':' :: numeralIn radix zeros' y) where
  width := by
    simp only [List.length_append, List.length_cons]
    omega
  trimmed hne := by
    have hlast : (numeralIn radix zeros x ++ ':' :: numeralIn radix zeros' y).getLast hne
        = (numeralIn radix zeros' y).getLast (numeralIn_ne_nil radix zeros' y) := by
      rw [List.getLast_append_of_ne_nil _ (List.cons_ne_nil _ _), List.getLast_cons]
    show (numeralIn radix zeros x ++ ':' :: numeralIn radix zeros' y).getLast hne ≠ ' '
    rw [hlast]
    exact ne_blank_of_mem_numeralIn hradix hle (List.getLast_mem _)

theorem idText_eq (d : DeviceId) : idText d =
    numeralIn 10 0 d.busNumber.toNat ++ ':' :: numeralIn 10 0 d.address.toNat := by
  rw [idText]
  exact congrArg₂ (· ++ ':' :: ·) (toList_toString_nat _) (toList_toString_nat _)

theorem length_numeralIn (radix n : Nat) :
    (numeralIn radix 0 n).length = (Nat.toDigits radix n).length := by
  rw [numeralIn, List.replicate_zero, List.nil_append]

theorem fitsCell_idText (d : DeviceId) : FitsCell (7, idText d) := by
  have hbus := length_toDigits_le (k := 3) (by decide) (by decide)
    (Nat.lt_trans d.busNumber.toNat_lt (by decide : 2 ^ 8 < 10 ^ 3))
  have haddress := length_toDigits_le (k := 3) (by decide) (by decide)
    (Nat.lt_trans d.address.toNat_lt (by decide : 2 ^ 8 < 10 ^ 3))
  rw [idText_eq]
  refine fitsCell_pair (by decide) (by decide) ?_
  rw [length_numeralIn, length_numeralIn]
  omega

theorem length_lowerHex_uint16 (n : UInt16) : (lowerHex 4 n.toNat).length = 4 := by
  have hle := length_toDigits_le (k := 4) (by decide : 1 < 16) (by decide) n.toNat_lt
  rw [lowerHex, zeroPadded, numeralIn, List.length_append, List.length_replicate]
  omega

theorem fitsCell_numbersText (dev : DeviceInfo) : FitsCell (9, numbersText dev) := by
  refine fitsCell_pair (by decide) (by decide) ?_
  rw [← lowerHex_eq, ← lowerHex_eq, length_lowerHex_uint16, length_lowerHex_uint16]

theorem fitsCell_speedText (s : UsbSpeed) : FitsCell (6, (speedText s).toList) := by
  cases s <;> decide +kernel

theorem fitsCell_formatClass (cls subclass : UInt8) :
    FitsCell (10, (formatClass cls subclass).toList) := by
  unfold formatClass
  split <;> decide +kernel

/-- The columns that every device fits. -/
def frontCells (dev : DeviceInfo) : List (Nat × List Char) :=
  [(7, idText dev.deviceId), (9, numbersText dev), (6, (speedText dev.speed).toList),
    (10, (formatClass dev.classCode dev.subClassCode).toList)]

/-- The columns of its strings. -/
def stringCells (dev : DeviceInfo) : List (Nat × List Char) :=
  [(24, orDash dev.manufacturer), (24, orDash dev.product)]

theorem fitsCell_frontCells (dev : DeviceInfo) : ∀ c ∈ frontCells dev, FitsCell c := by
  simp only [frontCells, List.forall_mem_cons, List.not_mem_nil, false_implies, implies_true,
    and_true]
  exact ⟨fitsCell_idText _, fitsCell_numbersText _, fitsCell_speedText _,
    fitsCell_formatClass _ _⟩

/-- The ids need no padding. -/
theorem padTo_numbersText (dev : DeviceInfo) : padTo 9 (numbersText dev) = numbersText dev := by
  have hlength : (numbersText dev).length = 9 := by
    rw [numbersText, List.length_append, List.length_cons, length_lowerHex_uint16,
      length_lowerHex_uint16]
  rw [padTo, hlength, Nat.sub_self, List.replicate_zero, List.append_nil]

theorem deviceRow_eq (dev : DeviceInfo) :
    deviceRow dev = setRow (frontCells dev ++ stringCells dev) (orDash dev.serialNumber) := by
  rw [frontCells, stringCells, List.cons_append, List.cons_append, setRow, setRow,
    padTo_numbersText]
  rfl

/-- What a row says of its device. -/
structure Named where
  deviceId : DeviceId
  vendorId : UInt16
  productId : UInt16
  speed : UsbSpeed
  cls : String
  deriving DecidableEq

def readSpeed (cell : List Char) : Option UsbSpeed :=
  [.unknown, .low, .full, .high, .super, .superPlus].find? fun s => (speedText s).toList == cell

/-- The first four cells of a line, read. -/
def readDevice (line : List Char) : Option Named :=
  match readRow [7, 9, 6, 10] line with
  | [id, numbers, speed, cls, _] =>
      match readPair 10 255 id, readPair 16 65535 numbers, readSpeed speed with
      | some (bus, addr), some (vid, pid), some speed =>
          some ⟨⟨.ofNat bus, .ofNat addr⟩, .ofNat vid, .ofNat pid, speed, String.ofList cls⟩
      | _, _, _ => none
  | _ => none

theorem readDevice_deviceRow (dev : DeviceInfo) :
    readDevice (deviceRow dev) = some ⟨dev.deviceId, dev.vendorId, dev.productId, dev.speed,
      formatClass dev.classCode dev.subClassCode⟩ := by
  have hrow : readRow [7, 9, 6, 10] (deviceRow dev) = (frontCells dev).map Prod.snd ++
      [setRow (stringCells dev) (orDash dev.serialNumber)] := by
    rw [deviceRow_eq, setRow_append]
    exact readRow_setRow (fitsCell_frontCells dev) _
  have hid : readPair 10 255 (idText dev.deviceId)
      = some (dev.deviceId.busNumber.toNat, dev.deviceId.address.toNat) := by
    rw [idText_eq]
    exact readPair_numerals (by decide) (by decide)
      (Nat.le_of_lt_succ dev.deviceId.busNumber.toNat_lt)
      (Nat.le_of_lt_succ dev.deviceId.address.toNat_lt)
  have hnumbers : readPair 16 65535 (numbersText dev)
      = some (dev.vendorId.toNat, dev.productId.toNat) :=
    readPair_numerals (by decide) (by decide) (Nat.le_of_lt_succ dev.vendorId.toNat_lt)
      (Nat.le_of_lt_succ dev.productId.toNat_lt)
  have hspeed : readSpeed (speedText dev.speed).toList = some dev.speed := by
    cases dev.speed <;> decide +kernel
  rw [readDevice, hrow]
  simp only [frontCells, List.map_cons, List.map_nil, List.cons_append, List.nil_append, hid,
    hnumbers, hspeed, UInt8.ofNat_toNat, UInt16.ofNat_toNat, String.ofList_toList]

/-- Strings that fit their columns are read too, and the serial number in
any case. -/
theorem readRow_deviceRow (dev : DeviceInfo) (h : ∀ c ∈ stringCells dev, FitsCell c) :
    (readRow [7, 9, 6, 10, 24, 24] (deviceRow dev)).drop 4
      = [orDash dev.manufacturer, orDash dev.product, orDash dev.serialNumber] := by
  have hall : ∀ c ∈ frontCells dev ++ stringCells dev, FitsCell c := by
    intro c hc
    rcases List.mem_append.mp hc with hfront | hstring
    · exact fitsCell_frontCells dev c hfront
    · exact h c hstring
  have hrow := readRow_setRow hall (orDash dev.serialNumber)
  rw [← deviceRow_eq] at hrow
  exact congrArg (List.drop 4) hrow

/-! ## Lines -/

/-- Text without a line terminator. -/
def OneLine (cs : List Char) : Prop := ∀ c ∈ cs, c ≠ '\n' ∧ c ≠ '\r'

theorem OneLine.append {cs ds : List Char} (h : OneLine cs) (h' : OneLine ds) :
    OneLine (cs ++ ds) := by
  intro c hc
  rcases List.mem_append.mp hc with hc | hc
  · exact h c hc
  · exact h' c hc

theorem oneLine_numeralIn {radix zeros n : Nat} (hradix : 1 < radix) (hle : radix ≤ 16) :
    OneLine (numeralIn radix zeros n) := by
  intro c hc
  have hplain := (numeralIn_plain hradix hle hc).1
  constructor <;> rintro rfl <;> exact absurd hplain (by decide)

theorem oneLine_of_all {cs : List Char} (h : cs.all (fun c => c != '\n' && c != '\r') = true) :
    OneLine cs := by
  simpa [OneLine] using h

/-- A table of lines is read line by line. -/
theorem lines_setFile_oneLine {ls : List (List Char)} (h : ∀ l ∈ ls, OneLine l) :
    lines (setFile ls) = ls.map String.ofList := by
  refine lines_setFile (fun l hl hc => (h l hl _ hc).1 rfl) fun l hl => if_neg fun hlast => ?_
  exact (h l hl _ (List.mem_of_getLast? hlast)).2 rfl

theorem oneLine_setRow {cells : List (Nat × List Char)} {last : List Char}
    (h : ∀ c ∈ cells, OneLine c.2) (hlast : OneLine last) : OneLine (setRow cells last) := by
  induction cells with
  | nil => exact hlast
  | cons c rest ih =>
      rw [List.forall_mem_cons] at h
      have hblanks (n : Nat) : OneLine (List.replicate n ' ') := by
        intro c hc
        rw [List.eq_of_mem_replicate hc]
        decide
      exact (h.1.append (hblanks _)).append ((hblanks 1).append (ih h.2))

/-- The strings a device reports have no line terminator. -/
def OneLineStrings (dev : DeviceInfo) : Prop :=
  OneLine (orDash dev.manufacturer) ∧ OneLine (orDash dev.product) ∧
    OneLine (orDash dev.serialNumber)

theorem oneLine_deviceRow {dev : DeviceInfo} (h : OneLineStrings dev) :
    OneLine (deviceRow dev) := by
  obtain ⟨hmfr, hprod, hserial⟩ := h
  have hcolon : OneLine [':'] := oneLine_of_all (by decide)
  have hpair {radix zeros zeros' x y : Nat} (hradix : 1 < radix) (hle : radix ≤ 16) :
      OneLine (numeralIn radix zeros x ++ ':' :: numeralIn radix zeros' y) :=
    (oneLine_numeralIn hradix hle).append (hcolon.append (oneLine_numeralIn hradix hle))
  have hspeed : OneLine (speedText dev.speed).toList := by
    cases dev.speed <;> exact oneLine_of_all (by decide +kernel)
  have hclass : OneLine (formatClass dev.classCode dev.subClassCode).toList := by
    unfold formatClass
    split <;> exact oneLine_of_all (by decide +kernel)
  rw [deviceRow_eq]
  refine oneLine_setRow ?_ hserial
  simp only [frontCells, stringCells, List.cons_append, List.nil_append, List.forall_mem_cons,
    List.not_mem_nil, false_implies, implies_true, and_true]
  refine ⟨?_, hpair (by decide) (by decide), hspeed, hclass, hmfr, hprod⟩
  rw [idText_eq]
  exact hpair (by decide) (by decide)

/-- **The table of `list` can be read.** For devices whose strings have no
line terminator, whatever else they are: after the heading and the rule
there is one line for each device, in order, and its fixed columns give the
device's bus and address, its ids, its speed and the name of its class. Of
a device whose manufacturer and product fit their columns, the strings are
read too. -/
theorem device_list_readable {devices : List DeviceInfo} (hne : devices ≠ [])
    (hplain : ∀ dev ∈ devices, OneLineStrings dev) :
    ∃ rows : List String,
      lines (printDeviceList devices)
        = String.ofList tableHeader :: String.ofList (List.replicate 100 '-') :: rows ∧
      rows.map (fun row => readDevice row.toList) = devices.map (fun dev =>
        some ⟨dev.deviceId, dev.vendorId, dev.productId, dev.speed,
          formatClass dev.classCode dev.subClassCode⟩) ∧
      ∀ (i : Nat) (row : String) (dev : DeviceInfo), rows[i]? = some row → devices[i]? = some dev →
        (∀ c ∈ stringCells dev, FitsCell c) →
        (readRow [7, 9, 6, 10, 24, 24] row.toList).drop 4
          = [orDash dev.manufacturer, orDash dev.product, orDash dev.serialNumber] := by
  refine ⟨(devices.map deviceRow).map String.ofList, ?_, ?_, ?_⟩
  · rw [printDeviceList, if_neg (by simpa using hne), lines_setFile_oneLine, List.map_cons,
      List.map_cons]
    simp only [List.forall_mem_cons, List.forall_mem_map]
    refine ⟨oneLine_of_all (by decide +kernel), oneLine_of_all (by decide +kernel), ?_⟩
    exact fun dev hdev => oneLine_deviceRow (hplain dev hdev)
  · rw [List.map_map, List.map_map]
    refine List.map_congr_left fun dev _ => ?_
    simp only [Function.comp_apply, String.toList_ofList, readDevice_deviceRow]
  · intro i row dev hrow hdev hfits
    rw [List.getElem?_map, List.getElem?_map, hdev] at hrow
    obtain rfl := Option.some.inj hrow
    rw [String.toList_ofList]
    exact readRow_deviceRow dev hfits

/-- The headings stand one place to the right of what they head. -/
example : readRow [8, 9, 6, 10, 24, 24] tableHeader = ["Bus:Addr".toList, "VID:PID".toList,
    "Speed".toList, "Class".toList, "Manufacturer".toList, "Product".toList,
    "Serial".toList] := by
  decide +kernel

/-- A camera whose product name is wider than its column. -/
def camera : DeviceInfo where
  deviceId := ⟨1, 12⟩
  vendorId := 0x46d
  productId := 0x8e5
  classCode := 0xef
  subClassCode := 2
  protocolCode := 1
  maxPacketSizeEp0 := 64
  numConfigurations := 1
  usbVersion := (2, 0, 0)
  deviceVersion := (0, 2, 1)
  speed := .high
  portNumber := 4
  manufacturer := none
  product := some "HD Pro Webcam C920 with two microphones"
  serialNumber := some "A1B2"

theorem device_list_readable_camera :
    ∃ rows : List String,
      lines (printDeviceList [camera])
        = String.ofList tableHeader :: String.ofList (List.replicate 100 '-') :: rows ∧
      rows.map (fun row => readDevice row.toList)
        = [some ⟨⟨1, 12⟩, 0x46d, 0x8e5, .high, "Misc"⟩] := by
  have hplain : ∀ dev ∈ [camera], OneLineStrings dev := by
    rw [List.forall_mem_singleton]
    exact ⟨oneLine_of_all (by decide +kernel), oneLine_of_all (by decide +kernel),
      oneLine_of_all (by decide +kernel)⟩
  obtain ⟨rows, hlines, hread, -⟩ := device_list_readable (List.cons_ne_nil camera []) hplain
  exact ⟨rows, hlines, hread⟩

/-! ## The result is read -/

/-- What the result of a transfer says. -/
inductive Printed where
  | done (bytesTransferred : UInt32) (data : Bytes)
  | failed (message : String)
  deriving DecidableEq

def readResult (printed : String) : Option Printed :=
  if okText.isPrefixOf printed.toList then
    match lines printed with
    | [] => none
    | first :: dump =>
        match fromStrRadix 10 (2 ^ 32 - 1)
            (String.ofList ((first.toList.drop 13).takeWhile (· ≠ ' '))) with
        | .ok n => some (.done (.ofNat n) (dump.flatMap fun line => readColumns line.toList))
        | .error _ => none
  else if failedText.isPrefixOf printed.toList then
    some (.failed (String.ofList (printed.toList.drop 17).dropLast))
  else none

/-- The bytes in the columns of a dump. -/
theorem readColumns_dumpTexts {data : Bytes} (h : data.length < 2 ^ 32) :
    (dumpTexts data).flatMap readColumns = data := by
  have hline : ∀ k ∈ List.range ((data.length + 15) / 16),
      readColumns (dumpText (k * 16) ((data.drop (16 * k)).take 16))
        = (data.drop (16 * k)).take 16 := by
    intro k hk
    have hlt := List.mem_range.mp hk
    exact (lineOf_dumpText (by omega) (List.length_take_le 16 _)).bytes
  have hflatten := flatten_chunks (n := 16) (by decide) data
  rw [chunks, ← List.flatMap_def] at hflatten
  rw [dumpTexts, List.flatMap_map, List.flatMap_congr hline]
  exact hflatten

/-- The lines of a transfer that went well: after the dump, which ends its
own last line, comes an empty one. -/
theorem printTransferResult_ok {resp : TransferResponse} (h : resp.success = true) :
    printTransferResult resp = setFile (transferOk resp.bytesTransferred ::
      if resp.data.isEmpty then [] else dumpTexts resp.data ++ [[]]) := by
  rw [printTransferResult, if_pos h]
  split
  · rw [String.append_empty]
  · rw [hexDump_eq]
    simp only [setFile, String.toList_ofList, List.flatMap_cons, List.flatMap_nil,
      List.flatMap_append, List.append_nil, List.nil_append, String.ofList_append]

theorem oneLine_dumpTexts {data : Bytes} : ∀ l ∈ dumpTexts data, OneLine l := by
  intro l hl c hc
  obtain ⟨k, -, rfl⟩ := List.mem_map.mp hl
  have hprintable := printable_dumpText hc
  constructor <;> rintro rfl <;> exact absurd hprintable.1 (by decide)

theorem toList_bytesTransferred (n : UInt32) : (toString n).toList = numeralIn 10 0 n.toNat :=
  toList_toString_nat n.toNat

theorem oneLine_transferOk (n : UInt32) : OneLine (transferOk n) := by
  have hnumber : OneLine (toString n).toList := by
    rw [toList_bytesTransferred]
    exact oneLine_numeralIn (by decide) (by decide)
  exact ((oneLine_of_all (by decide +kernel)).append hnumber).append
    (oneLine_of_all (by decide +kernel))

/-- The count is the word after the colon. -/
theorem takeWhile_transferOk (n : UInt32) :
    ((transferOk n).drop 13).takeWhile (· ≠ ' ') = numeralIn 10 0 n.toNat := by
  have hdrop : (transferOk n).drop 13
      = numeralIn 10 0 n.toNat ++ countedText := by
    simp only [transferOk, toList_bytesTransferred, List.append_assoc]
    exact List.drop_left' (by decide +kernel)
  have hblank : countedText.takeWhile (· ≠ ' ') = [] := by decide +kernel
  have hdigits : ∀ c ∈ numeralIn 10 0 n.toNat, decide (c ≠ ' ') = true := fun c hc =>
    decide_eq_true (ne_blank_of_mem_numeralIn (by decide) (by decide) hc)
  calc ((transferOk n).drop 13).takeWhile (· ≠ ' ')
      = numeralIn 10 0 n.toNat ++ countedText.takeWhile (· ≠ ' ') := by
        rw [hdrop, List.takeWhile_append_of_pos hdigits]
    _ = numeralIn 10 0 n.toNat := by rw [hblank, List.append_nil]

/-- **The result of a transfer can be read**: what is printed tells a
success from a failure, and is that of no other count and no other bytes,
or of no other error text. -/
theorem transfer_result_readable (resp : TransferResponse) (h : resp.data.length < 2 ^ 32) :
    readResult (printTransferResult resp) = some
      (if resp.success then .done resp.bytesTransferred resp.data
        else .failed (resp.errorMessage.getD "Unknown error")) := by
  cases hsuccess : resp.success with
  | true =>
      have hone : ∀ l ∈ transferOk resp.bytesTransferred ::
          (if resp.data.isEmpty then [] else dumpTexts resp.data ++ [[]]), OneLine l := by
        rw [List.forall_mem_cons]
        refine ⟨oneLine_transferOk _, fun l hl => ?_⟩
        split at hl
        · cases hl
        · rcases List.mem_append.mp hl with hl | hl
          · exact oneLine_dumpTexts l hl
          · rw [List.mem_singleton.mp hl]
            exact fun c hc => by cases hc
      have hprefix : okText.isPrefixOf (printTransferResult resp).toList = true := by
        simp only [printTransferResult_ok hsuccess, setFile, String.toList_ofList,
          List.isPrefixOf_iff_prefix, List.flatMap_cons, transferOk, List.append_assoc]
        exact List.prefix_append _ _
      have hbytes : (if resp.data.isEmpty then [] else dumpTexts resp.data ++ [[]]).flatMap
          readColumns = resp.data := by
        split
        · rename_i hempty
          exact (List.isEmpty_iff.mp hempty).symm
        · rw [List.flatMap_append, readColumns_dumpTexts h]
          exact List.append_nil _
      have hcount : fromStrRadix 10 (2 ^ 32 - 1)
          (String.ofList (numeralIn 10 0 resp.bytesTransferred.toNat))
            = .ok resp.bytesTransferred.toNat :=
        fromStrRadix_numeralIn (by decide) (by decide) 0
          (Nat.le_pred_of_lt resp.bytesTransferred.toNat_lt)
      rw [readResult, if_pos hprefix, printTransferResult_ok hsuccess, lines_setFile_oneLine hone]
      simp only [List.map_cons, String.toList_ofList, takeWhile_transferOk, hcount,
        List.flatMap_map, hbytes, UInt32.ofNat_toNat, if_true]
  | false =>
      have hprinted : (printTransferResult resp).toList = failedText ++
          ((resp.errorMessage.getD "Unknown error").toList ++ ['\n']) := by
        simp only [printTransferResult, hsuccess, Bool.false_eq_true, if_false, setFile,
          String.toList_ofList, List.flatMap_cons, List.flatMap_nil, List.append_nil,
          List.append_assoc]
      generalize (resp.errorMessage.getD "Unknown error") = message at hprinted ⊢
      have hnot : ¬ okText <+:
          failedText ++ (message.toList ++ ['\n']) := by
        intro hprefix
        have htake := List.prefix_iff_eq_take.mp hprefix
        rw [List.take_append_of_le_length (by decide +kernel)] at htake
        exact absurd htake (by decide +kernel)
      have hdrop : (failedText ++ (message.toList ++ ['\n'])).drop 17
          = message.toList ++ ['\n'] := List.drop_left' (by decide +kernel)
      simp only [readResult, hprinted, List.isPrefixOf_iff_prefix, if_neg hnot,
        if_pos (List.prefix_append _ _), hdrop, List.dropLast_concat, String.ofList_toList,
        Bool.false_eq_true, if_false]

/-- Three bytes of a control transfer, printed and read. -/
theorem transfer_result_readable_three_bytes :
    readResult (printTransferResult ⟨1, ⟨1, 2⟩, true, [0x12, 0x01, 0xff], 3, none⟩)
      = some (.done 3 [0x12, 0x01, 0xff]) :=
  transfer_result_readable ⟨1, ⟨1, 2⟩, true, [0x12, 0x01, 0xff], 3, none⟩ (by decide)

end WolfUsb.Display
