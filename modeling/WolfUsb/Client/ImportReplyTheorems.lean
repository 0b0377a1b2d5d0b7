/-
WolfUsb.Client.ImportReplyTheorems — OP_REP_IMPORT as the server writes it
and as the client reads it.

Writer and reader share no layout: `toWireBytes` appends the fields one
after the other, `parseDevice` takes five of them from fixed offsets. The
fields before an offset add up to it, whatever they hold (`parseDevice_toWireBytes`);
`devid` packs two of the numbers and keeps both as long as they have 16
bits (`unpack_devid`).
-/
import WolfUsb.Client.Mount
import WolfUsb.Server.Import

namespace WolfUsb

open Lib KernelUsbip

/-! ## Fields at an offset -/

namespace Mount

theorem u32At_append (front : Bytes) (x : UInt32) (rest : Bytes) :
    u32At (front ++ (be32 x ++ rest)) front.length = x := by
  simp [u32At, be32, List.getD, fromBe32_be32]

theorem u16At_append (front : Bytes) (x : UInt16) (rest : Bytes) :
    u16At (front ++ (be16 x ++ rest)) front.length = x := by
  simp [u16At, be16, List.getD, fromBe16_be16]

/-- **Every field the client reads is where the server writes it.** -/
theorem parseDevice_toWireBytes (info : KernelUsbip.DeviceInfo) :
    parseDevice info.toWireBytes =
      ⟨info.busNum <<< 16 ||| info.devNum &&& 0xffff, info.speed.toUInt8, info.vendorId,
        info.productId⟩ := by
  let path := padded 256 (asBytes
    ("/sys/devices/pci0000:00/usb" ++ toString info.busNum ++ "/" ++ info.busid))
  let busid := padded 32 (asBytes info.busid)
  let classes := [info.deviceClass, info.deviceSubclass, info.deviceProtocol,
    info.configurationValue, info.numConfigurations, info.numInterfaces]
  have hwire : info.toWireBytes = path ++ busid ++ be32 info.busNum ++ be32 info.devNum ++
      be32 info.speed ++ be16 info.vendorId ++ be16 info.productId ++ be16 info.bcdDevice ++
      classes := rfl
  have hpath : path.length = 256 := padded_length _ _
  have hbusid : busid.length = 32 := padded_length _ _
  have hbus : u32At info.toWireBytes 288 = info.busNum := by
    simpa [hwire, hpath, hbusid] using u32At_append (path ++ busid) info.busNum
      (be32 info.devNum ++ be32 info.speed ++ be16 info.vendorId ++ be16 info.productId ++
        be16 info.bcdDevice ++ classes)
  have hdev : u32At info.toWireBytes 292 = info.devNum := by
    simpa [hwire, hpath, hbusid] using u32At_append (path ++ busid ++ be32 info.busNum)
      info.devNum (be32 info.speed ++ be16 info.vendorId ++ be16 info.productId ++
        be16 info.bcdDevice ++ classes)
  have hspeed : u32At info.toWireBytes 296 = info.speed := by
    simpa [hwire, hpath, hbusid] using
      u32At_append (path ++ busid ++ be32 info.busNum ++ be32 info.devNum) info.speed
        (be16 info.vendorId ++ be16 info.productId ++ be16 info.bcdDevice ++ classes)
  have hvendor : u16At info.toWireBytes 300 = info.vendorId := by
    simpa [hwire, hpath, hbusid] using
      u16At_append (path ++ busid ++ be32 info.busNum ++ be32 info.devNum ++ be32 info.speed)
        info.vendorId (be16 info.productId ++ be16 info.bcdDevice ++ classes)
  have hproduct : u16At info.toWireBytes 302 = info.productId := by
    simpa [hwire, hpath, hbusid] using
      u16At_append (path ++ busid ++ be32 info.busNum ++ be32 info.devNum ++ be32 info.speed ++
        be16 info.vendorId) info.productId (be16 info.bcdDevice ++ classes)
  simp only [parseDevice, hbus, hdev, hspeed, hvendor, hproduct]

/-- Two numbers of 16 bits in one of 32. -/
theorem toNat_devid {bus dev : UInt32} (hbus : bus.toNat < 2 ^ 16) (hdev : dev.toNat < 2 ^ 16) :
    (bus <<< 16 ||| dev &&& 0xffff).toNat = bus.toNat * 2 ^ 16 + dev.toNat := by
  have hshift : bus.toNat <<< 16 % 2 ^ 32 = bus.toNat <<< 16 := by
    rw [Nat.shiftLeft_eq]
    omega
  have hmask : dev.toNat &&& 0xffff = dev.toNat := by
    rw [show 0xffff = 2 ^ 16 - 1 from rfl, Nat.and_two_pow_sub_one_eq_mod]
    exact Nat.mod_eq_of_lt hdev
  have hor := Nat.shiftLeft_add_eq_or_of_lt hdev bus.toNat
  simp only [UInt32.toNat_or, UInt32.toNat_shiftLeft, UInt32.toNat_and]
  show bus.toNat <<< 16 % 2 ^ 32 ||| dev.toNat &&& 0xffff = _
  rw [hshift, hmask, ← hor, Nat.shiftLeft_eq]

/-- `devid` has the bus in its high half and the device in its low half. -/
theorem unpack_devid {bus dev : UInt32} (hbus : bus.toNat < 2 ^ 16) (hdev : dev.toNat < 2 ^ 16) :
    (bus <<< 16 ||| dev &&& 0xffff) >>> 16 = bus ∧
      (bus <<< 16 ||| dev &&& 0xffff) &&& 0xffff = dev := by
  have hpacked := toNat_devid hbus hdev
  constructor
  · refine UInt32.toNat_inj.mp ?_
    rw [UInt32.toNat_shiftRight, hpacked]
    show (bus.toNat * 2 ^ 16 + dev.toNat) >>> 16 = bus.toNat
    rw [Nat.shiftRight_eq_div_pow]
    omega
  · refine UInt32.toNat_inj.mp ?_
    rw [UInt32.toNat_and, hpacked]
    show (bus.toNat * 2 ^ 16 + dev.toNat) &&& (2 ^ 16 - 1) = dev.toNat
    rw [Nat.and_two_pow_sub_one_eq_mod]
    omega

end Mount

/-! ## The reply as a whole -/

/-- The busid in a `usb_device` struct: the field at offset 256 up to its
first NUL. -/
def wireBusid (wire : Bytes) : Option String :=
  String.fromUTF8? (((wire.drop 256).take 32).takeWhile (· ≠ 0)).toByteArray

/-- What `op_req_import` makes of OP_REP_IMPORT, in whatever pieces it
arrives and whatever follows it. -/
theorem opReqImport_importReply (info : KernelUsbip.DeviceInfo) {busid : String} {request : Bytes}
    (hrequest : Mount.importRequest busid = .ok request) {pieces : List Bytes} {tail : Bytes}
    (hne : [] ∉ pieces) (hpieces : pieces.flatten = Bridge.importReply info ++ tail)
    (short : String) :
    Mount.opReqImportExchange busid (.ok ()) pieces short
      = (request, .ok (Mount.parseDevice info.toWireBytes)) := by
  let header := be16 Bridge.usbipVersion ++ be16 Bridge.opRepImport ++ be32 0
  rw [show Bridge.importReply info = header ++ info.toWireBytes from rfl, List.append_assoc]
    at hpieces
  obtain ⟨left, hheader, hne', hleft⟩ := readExact_cut hne hpieces (show header.length = 8 from rfl)
  obtain ⟨rest, hdevice, -, -⟩ := readExact_cut hne' hleft info.toWireBytes_length
  have hcode : Mount.u16At header 2 = Mount.opRepImport := by decide
  have hstatus : Mount.u32At header 4 = 0 := by decide
  simp [Mount.opReqImportExchange, hrequest, Mount.readImportReply, hheader, hdevice, hcode,
    hstatus]

theorem wireBusid_toWireBytes (info : KernelUsbip.DeviceInfo)
    (hlen : (asBytes info.busid).length < 32) (hnul : '\x00' ∉ info.busid.toList) :
    wireBusid info.toWireBytes = some info.busid := by
  have hzero : (0 : UInt8) ∉ asBytes info.busid := by
    rw [← List.count_eq_zero, ← List.count_eq_zero.mpr hnul]
    exact count_asBytes (c := '\x00') (by decide) info.busid
  have hfield : (info.toWireBytes.drop 256).take 32 = padded 32 (asBytes info.busid) := by
    simp only [DeviceInfo.toWireBytes, List.append_assoc]
    rw [List.drop_left' (padded_length _ _), List.take_left' (padded_length _ _)]
  rw [wireBusid, hfield, takeWhile_padded hlen hzero]
  exact fromUTF8?_asBytes info.busid

/-- **The OP_REP_IMPORT round trip.** The device is 312 bytes on the wire,
whatever its names; `op_req_import` returns its speed, its ids, and a
`devid` that determines its two numbers, as long as they have 16 bits and
the speed has 8; and a busid that fits its field reads back. -/
theorem import_reply_round_trip (info : KernelUsbip.DeviceInfo) :
    info.toWireBytes.length = 312 ∧
    (info.busNum.toNat < 2 ^ 16 → info.devNum.toNat < 2 ^ 16 → info.speed.toNat < 2 ^ 8 →
      ∀ (busid : String) (request : Bytes), Mount.importRequest busid = .ok request →
      ∀ (pieces : List Bytes) (tail : Bytes), [] ∉ pieces →
      pieces.flatten = Bridge.importReply info ++ tail → ∀ short : String,
        ∃ r, Mount.opReqImportExchange busid (.ok ()) pieces short = (request, .ok r) ∧
          r.speed.toUInt32 = info.speed ∧ r.vendorId = info.vendorId ∧
          r.productId = info.productId ∧ r.devid >>> 16 = info.busNum ∧
          r.devid &&& 0xffff = info.devNum ∧
          ∀ bus dev : UInt32, bus.toNat < 2 ^ 16 → dev.toNat < 2 ^ 16 →
            bus <<< 16 ||| dev &&& 0xffff = r.devid → bus = info.busNum ∧ dev = info.devNum) ∧
    ((asBytes info.busid).length < 32 → '\x00' ∉ info.busid.toList →
      wireBusid info.toWireBytes = some info.busid) := by
  refine ⟨info.toWireBytes_length, ?_, wireBusid_toWireBytes info⟩
  intro hbus hdev hspeed busid request hrequest pieces tail hne hpieces short
  have hread := opReqImport_importReply info hrequest hne hpieces short
  obtain ⟨hhigh, hlow⟩ := Mount.unpack_devid hbus hdev
  rw [Mount.parseDevice_toWireBytes] at hread
  refine ⟨_, hread, ?_, rfl, rfl, hhigh, hlow, ?_⟩
  · refine UInt32.toNat_inj.mp ?_
    rw [UInt8.toNat_toUInt32, UInt32.toNat_toUInt8]
    exact Nat.mod_eq_of_lt hspeed
  · intro bus dev hbus' hdev' heq
    obtain ⟨hhigh', hlow'⟩ := Mount.unpack_devid hbus' hdev'
    rw [heq] at hhigh' hlow'
    exact ⟨hhigh'.symm.trans hhigh, hlow'.symm.trans hlow⟩

/-- A keyboard on bus 1. -/
def keyboard : KernelUsbip.DeviceInfo :=
  ⟨"1-4", 1, 7, 1, 0x046d, 0xc31c, 0x6400, 0, 0, 0, 1, 1, 2⟩

/-- Its reply in two pieces, with a byte of the kernel's traffic behind. -/
theorem import_reply_round_trip_keyboard :
    ∃ r, Mount.opReqImportExchange "1-4" (.ok ())
        [(Bridge.importReply keyboard).take 9, (Bridge.importReply keyboard).drop 9 ++ [0]]
        "early eof"
        = (be16 Mount.usbipVersion ++ be16 Mount.opReqImport ++ be32 0 ++ padded 32 (asBytes "1-4"),
          .ok r) ∧
      r.devid >>> 16 = 1 ∧ r.devid &&& 0xffff = 7 ∧ r.productId = 0xc31c := by
  obtain ⟨r, hread, -, -, hproduct, hhigh, hlow, -⟩ :=
    (import_reply_round_trip keyboard).2.1 (by decide) (by decide) (by decide) "1-4"
      (be16 Mount.usbipVersion ++ be16 Mount.opReqImport ++ be32 0 ++ padded 32 (asBytes "1-4"))
      (by decide +kernel)
      [(Bridge.importReply keyboard).take 9, (Bridge.importReply keyboard).drop 9 ++ [0]]
      [0] (by decide +kernel)
      (by rw [List.flatten_cons, List.flatten_singleton, ← List.append_assoc,
        List.take_append_drop])
      "early eof"
  exact ⟨r, hread, hhigh, hlow, hproduct⟩

end WolfUsb
