/-
WolfUsb.Server.TransferTheorems — the timeout and the length that reach
libusb.

`rusb` passes a `Duration` and the length of a control buffer cast to the
types of libusb: 32 bits of milliseconds, and 16 bits of `wLength`. The
guard of `safe_timeout` is on the 64 bits before the cast, so a multiple of
2^32 arrives as 0, which is for ever (`timeout_wraps_to_forever`), and a
control write has no guard at all (`control_write_cut`).
-/
import Mathlib.Data.UInt
import WolfUsb.Protocol.Sizes
import WolfUsb.Server.Operations

namespace WolfUsb

open WolfUsb.Lib Codec Transfer

variable {W : Type} (p : Platform W)

/-! ## What `rusb` passes on -/

/-- `Duration::as_millis()` cast to an unsigned 32-bit integer. -/
def libusbTimeout (timeoutMs : UInt64) : UInt32 := timeoutMs.toUInt32

/-- The timeout of a transfer, as libusb gets it. -/
def UsbCall.timeout : UsbCall → Option UInt32
  | readControl _ _ _ _ _ _ timeoutMs => some (libusbTimeout timeoutMs)
  | writeControl _ _ _ _ _ _ timeoutMs => some (libusbTimeout timeoutMs)
  | readBulk _ _ _ timeoutMs => some (libusbTimeout timeoutMs)
  | writeBulk _ _ _ timeoutMs => some (libusbTimeout timeoutMs)
  | readInterrupt _ _ _ timeoutMs => some (libusbTimeout timeoutMs)
  | writeInterrupt _ _ _ timeoutMs => some (libusbTimeout timeoutMs)
  | _ => none

/-- The `wLength` of a control write: `buf.len()` cast to 16 bits. -/
def UsbCall.wLength : UsbCall → Option UInt16
  | writeControl _ _ _ _ _ data _ => some (UInt16.ofNat data.length)
  | _ => none

namespace TransferRequest

def timeoutMs : TransferRequest → UInt64
  | control req => req.timeoutMs
  | bulk req => req.timeoutMs
  | interrupt req => req.timeoutMs

/-- A read of more than `MAX_TRANSFER_BUFFER`, which `capped_length`
refuses. -/
def overCap : TransferRequest → Prop
  | control _ => False
  | bulk req => directionIn req.endpoint = true ∧ req.length > maxTransferBuffer
  | interrupt req => directionIn req.endpoint = true ∧ req.length > maxTransferBuffer

/-- The calls of a transfer. -/
def calls (req : TransferRequest) (handle : Handle) (u : Bus W) : List UsbCall :=
  (req.execute p handle u).2.calls.drop u.calls.length

/-! ## One call -/

theorem cappedLength_le {length : UInt32} (h : ¬ length > maxTransferBuffer) (s : UInt64)
    (d : DeviceId) : cappedLength length s d = .ok length.toNat :=
  if_neg h

/-- A read over the cap makes no call. -/
theorem calls_of_overCap {req : TransferRequest} (h : req.overCap) (handle : Handle) (u : Bus W) :
    req.calls p handle u = [] := by
  cases req with
  | control req => cases h
  | bulk req => simp [calls, execute, executeBulkTransfer, cappedLength, h.1, h.2]
  | interrupt req => simp [calls, execute, executeInterruptTransfer, cappedLength, h.1, h.2]

/-- Every other transfer makes one, with the timeout of its request. -/
theorem calls_of_not_overCap {req : TransferRequest} (h : ¬ req.overCap) (handle : Handle)
    (u : Bus W) : ∃ c, req.calls p handle u = [c] ∧
      c.timeout = some (libusbTimeout (safeTimeout req.timeoutMs)) := by
  cases req with
  | control req =>
    cases hin : directionIn req.requestType <;>
      simp [calls, execute, executeControlTransfer, hin, UsbCall.timeout, timeoutMs]
  | bulk req =>
    cases hin : directionIn req.endpoint with
    | false => simp [calls, execute, executeBulkTransfer, hin, UsbCall.timeout, timeoutMs]
    | true =>
      have hcap : ¬ req.length > maxTransferBuffer := fun hlarge => h ⟨hin, hlarge⟩
      simp [calls, execute, executeBulkTransfer, hin, cappedLength_le hcap, UsbCall.timeout,
        timeoutMs]
  | interrupt req =>
    cases hin : directionIn req.endpoint with
    | false => simp [calls, execute, executeInterruptTransfer, hin, UsbCall.timeout, timeoutMs]
    | true =>
      have hcap : ¬ req.length > maxTransferBuffer := fun hlarge => h ⟨hin, hlarge⟩
      simp [calls, execute, executeInterruptTransfer, hin, cappedLength_le hcap, UsbCall.timeout,
        timeoutMs]

/-! ## The timeout -/

/-- Every timeout that reaches libusb is finite, and no shorter than was
asked for if 32 bits can say it. -/
def Waits (req : TransferRequest) (handle : Handle) (u : Bus W) : Prop :=
  ∀ c ∈ req.calls p handle u, ∀ t, c.timeout = some t →
    t ≠ 0 ∧ (1 ≤ req.timeoutMs → min req.timeoutMs.toNat (2 ^ 32 - 1) ≤ t.toNat)

theorem toNat_libusbTimeout (timeoutMs : UInt64) :
    (libusbTimeout (safeTimeout timeoutMs)).toNat = max timeoutMs.toNat 1 % 2 ^ 32 := by
  have hmax : (max timeoutMs minTimeoutMs).toNat = max timeoutMs.toNat 1 := by
    have hle : timeoutMs ≤ minTimeoutMs ↔ timeoutMs.toNat ≤ 1 := UInt64.le_iff_toNat_le
    show (if timeoutMs ≤ minTimeoutMs then minTimeoutMs else timeoutMs).toNat = _
    split
    · rename_i h
      exact (Nat.max_eq_right (hle.mp h)).symm
    · rename_i h
      exact (Nat.max_eq_left (by have := mt hle.mpr h; omega)).symm
  rw [libusbTimeout, safeTimeout, UInt64.toNat_toUInt32, hmax]

end TransferRequest

/-- **No transfer waits for ever** or too short exactly if no call is made
for it, or its timeout is below 2^32, or the cast leaves the greatest
timeout there is. -/
theorem transfer_timeout_finite_iff (req : TransferRequest) (handle : Handle) (u : Bus W) :
    req.Waits p handle u ↔
      req.overCap ∨ req.timeoutMs.toNat < 2 ^ 32 ∨
        req.timeoutMs.toNat % 2 ^ 32 = 2 ^ 32 - 1 := by
  by_cases hcap : req.overCap
  · have hnone := req.calls_of_overCap p hcap handle u
    simp [TransferRequest.Waits, hnone, hcap]
  · obtain ⟨c, hcalls, htimeout⟩ := req.calls_of_not_overCap p hcap handle u
    have hnat := TransferRequest.toNat_libusbTimeout req.timeoutMs
    have hzero : libusbTimeout (safeTimeout req.timeoutMs) ≠ 0 ↔
        max req.timeoutMs.toNat 1 % 2 ^ 32 ≠ 0 := by
      rw [ne_eq, ← UInt32.toNat_inj, hnat]
      rfl
    have hone : 1 ≤ req.timeoutMs ↔ 1 ≤ req.timeoutMs.toNat := UInt64.le_iff_toNat_le
    have hwaits : req.Waits p handle u ↔ max req.timeoutMs.toNat 1 % 2 ^ 32 ≠ 0 ∧
        (1 ≤ req.timeoutMs.toNat →
          min req.timeoutMs.toNat (2 ^ 32 - 1) ≤ max req.timeoutMs.toNat 1 % 2 ^ 32) := by
      simp only [TransferRequest.Waits, hcalls, List.mem_singleton, forall_eq, htimeout,
        Option.some.injEq, forall_eq', hzero, hone, hnat]
    rw [hwaits]
    simp only [hcap, false_or]
    omega

/-- A timeout of 2^32 milliseconds. -/
def fiftyDays : TransferRequest := .bulk ⟨1, ⟨1, 2⟩, 0x02, [1], 0, 2 ^ 32⟩

/-- It reaches libusb as 0. -/
theorem timeout_wraps_to_forever :
    fiftyDays.calls twoDeviceHost 0 ⟨0, []⟩ = [.writeBulk 0 0x02 [1] (2 ^ 32)] ∧
      (UsbCall.writeBulk 0 0x02 [1] (2 ^ 32)).timeout = some 0 ∧
      ¬ fiftyDays.Waits twoDeviceHost 0 ⟨0, []⟩ := by
  have hcalls : fiftyDays.calls twoDeviceHost 0 ⟨0, []⟩ = [.writeBulk 0 0x02 [1] (2 ^ 32)] := by
    decide
  have hzero : (UsbCall.writeBulk 0 0x02 [1] (2 ^ 32)).timeout = some 0 := by decide
  refine ⟨hcalls, hzero, ?_⟩
  intro h
  refine (h _ ?_ 0 hzero).1 rfl
  rw [hcalls]
  exact List.mem_cons_self

/-! ## The length of a control write -/

/-- A device that takes everything it is offered: the count of a write that
succeeds is its `wLength`. -/
def Platform.TakesAll (p : Platform W) : Prop :=
  ∀ handle requestType request value index data timeoutMs w n,
    (p.usb (.writeControl handle requestType request value index data timeoutMs) w).1 = .ok n →
      n = (UInt16.ofNat data.length).toNat

/-- A control write that is answered as a success has offered the device
all of the data, and a device that takes everything has all of it. -/
structure WritesWhole (p : Platform W) (req : ControlTransferRequest) (handle : Handle)
    (u : Bus W) : Prop where
  offered : (executeControlTransfer p handle req u).1.success = true →
    ∃ c wLength, (TransferRequest.control req).calls p handle u = [c] ∧
      c.wLength = some wLength ∧ wLength.toNat = req.data.length
  taken : (executeControlTransfer p handle req u).1.success = true → p.TakesAll →
    (executeControlTransfer p handle req u).1.bytesTransferred.toNat = req.data.length

section Write

variable {req : ControlTransferRequest}

/-- The one call of a control write. -/
theorem control_write_calls (hout : directionIn req.requestType = false) (handle : Handle)
    (u : Bus W) : (TransferRequest.control req).calls p handle u =
      [.writeControl handle req.requestType req.request req.value req.index req.data
        (safeTimeout req.timeoutMs)] := by
  simp [TransferRequest.calls, TransferRequest.execute, executeControlTransfer, hout]

/-- A success reports the count libusb returned. -/
theorem control_write_success (hout : directionIn req.requestType = false) {handle : Handle}
    {u : Bus W} (h : (executeControlTransfer p handle req u).1.success = true) :
    ∃ n, (p.usb (.writeControl handle req.requestType req.request req.value req.index req.data
        (safeTimeout req.timeoutMs)) u.world).1 = .ok n ∧
      (executeControlTransfer p handle req u).1.bytesTransferred = UInt32.ofNat n := by
  have hresp : (executeControlTransfer p handle req u).1 =
      writeResponse p req.sessionId req.deviceId
        (p.usb (.writeControl handle req.requestType req.request req.value req.index req.data
          (safeTimeout req.timeoutMs)) u.world).1 := by
    simp only [executeControlTransfer, hout]
    rfl
  rw [hresp] at h ⊢
  cases hcall : (p.usb (.writeControl handle req.requestType req.request req.value req.index
    req.data (safeTimeout req.timeoutMs)) u.world).1 with
  | error e =>
    rw [hcall] at h
    cases h
  | ok n => exact ⟨n, rfl, rfl⟩

theorem writesWhole_of_lt (hout : directionIn req.requestType = false)
    (hlen : req.data.length < 2 ^ 16) (handle : Handle) (u : Bus W) :
    WritesWhole p req handle u := by
  have hcast : (UInt16.ofNat req.data.length).toNat = req.data.length := by
    rw [UInt16.toNat_ofNat']
    exact Nat.mod_eq_of_lt hlen
  constructor
  · intro _
    exact ⟨_, _, control_write_calls p hout handle u, rfl, hcast⟩
  · intro hsuccess htakes
    obtain ⟨n, hcall, hcount⟩ := control_write_success p hout hsuccess
    have hn := htakes _ _ _ _ _ _ _ _ _ hcall
    rw [hcast] at hn
    rw [hcount, hn, UInt32.toNat_ofNat']
    exact Nat.mod_eq_of_lt (by omega)

end Write

/-- A host whose devices take everything they are offered. -/
def takingHost : Platform Nat :=
  { twoDeviceHost with
    usb
      | .writeControl _ _ _ _ _ data _, w => (.ok (UInt16.ofNat data.length).toNat, w)
      | call, w => twoDeviceHost.usb call w }

theorem takingHost_takesAll : takingHost.TakesAll := by
  intro handle requestType request value index data timeoutMs w n h
  exact (Except.ok.inj h).symm

theorem takingHost_success {req : ControlTransferRequest}
    (hout : directionIn req.requestType = false) (handle : Handle) (u : Bus Nat) :
    (executeControlTransfer takingHost handle req u).1.success = true := by
  simp only [executeControlTransfer, hout]
  rfl

/-- **A control write is never silently cut** exactly if its data is
shorter than 2^16 bytes. -/
theorem control_write_whole_iff (req : ControlTransferRequest)
    (hout : directionIn req.requestType = false) :
    (∀ (W : Type) (p : Platform W) (handle : Handle) (u : Bus W), WritesWhole p req handle u) ↔
      req.data.length < 2 ^ 16 := by
  constructor
  · intro h
    obtain ⟨c, wLength, hcalls, hlength, hwhole⟩ := (h Nat takingHost 0 ⟨0, []⟩).offered
      (takingHost_success hout _ _)
    rw [← hwhole]
    exact wLength.toNat_lt
  · intro hlen W p handle u
    exact writesWhole_of_lt p hout hlen handle u

/-- A write of four bytes. -/
theorem control_write_whole_iff_four :
    WritesWhole takingHost ⟨1, ⟨1, 2⟩, 0x40, 9, 0, 0, [1, 2, 3, 4], 0, 1000⟩ 0 ⟨0, []⟩ :=
  (control_write_whole_iff ⟨1, ⟨1, 2⟩, 0x40, 9, 0, 0, [1, 2, 3, 4], 0, 1000⟩ rfl).mpr (by decide)
    Nat takingHost 0 ⟨0, []⟩

def longWrite (data : Bytes) : ControlTransferRequest :=
  ⟨1, ⟨1, 2⟩, 0x40, 9, 0, 0, data, 0, 1000⟩

/-- A write of 64 KiB arrives in a frame, offers the device nothing and is
answered as a success. -/
theorem control_write_cut :
    ∃ data payload : Bytes, data.length = 65536 ∧
      decode Bincode.standard (frame payload) = .item (.controlTransfer (longWrite data)) [] ∧
      (TransferRequest.control (longWrite data)).calls takingHost 0 ⟨0, []⟩
        = [.writeControl 0 0x40 9 0 0 data 1000] ∧
      (UsbCall.writeControl 0 0x40 9 0 0 data 1000).wLength = some 0 ∧
      (executeControlTransfer takingHost 0 (longWrite data) ⟨0, []⟩).1
        = success 1 ⟨1, 2⟩ [] 0 ∧
      ¬ WritesWhole takingHost (longWrite data) 0 ⟨0, []⟩ := by
  obtain ⟨data, hdata⟩ : ∃ data : Bytes, data.length = 65536 :=
    ⟨List.replicate 65536 0, List.length_replicate⟩
  obtain ⟨payload, henc, hsize⟩ := Bincode.standard_controlTransfer (longWrite data)
    (show data.length < 2 ^ 64 by omega)
  have hsmall : payload.length ≤ maxFrameSize.toNat := by
    have hmax := maxFrameSize_toNat
    have hlong : (longWrite data).data.length = 65536 := hdata
    omega
  have hframe := decode_frame Bincode.standard Bincode.standard_roundTrips henc hsmall []
  rw [List.append_nil] at hframe
  have hout : directionIn (longWrite data).requestType = false := by
    show directionIn 0x40 = false
    decide
  have hcalls : (TransferRequest.control (longWrite data)).calls takingHost 0 ⟨0, []⟩
      = [.writeControl 0 0x40 9 0 0 data 1000] :=
    control_write_calls takingHost hout 0 ⟨0, []⟩
  have hlength : (UsbCall.writeControl 0 0x40 9 0 0 data 1000).wLength = some 0 := by
    rw [UsbCall.wLength, hdata]
    rfl
  have hresp : (executeControlTransfer takingHost 0 (longWrite data) ⟨0, []⟩).1
      = success 1 ⟨1, 2⟩ [] (UInt16.ofNat data.length).toNat := by
    simp only [executeControlTransfer, hout]
    rfl
  rw [hdata] at hresp
  refine ⟨data, payload, hdata, hframe, hcalls, hlength, hresp, ?_⟩
  intro h
  have htaken := h.taken (takingHost_success hout _ _) takingHost_takesAll
  rw [hresp, show (longWrite data).data.length = 65536 from hdata] at htaken
  cases htaken

end WolfUsb
