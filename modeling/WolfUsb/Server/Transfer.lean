/-
WolfUsb.Server.Transfer — executing one transfer on an open handle
(`server/transfer.rs`).

A `Duration` is its number of milliseconds. A read fills the zeroed
buffer of the requested length from the front, never past its end, and
`buf.truncate(n)` keeps the first `n` bytes of it.
-/
import WolfUsb.Error
import WolfUsb.Protocol.Messages

namespace WolfUsb.Transfer

variable {W : Type} (p : Platform W)

/-- 16 MiB. -/
def maxTransferBuffer : UInt32 := 16 * 1024 * 1024

def minTimeoutMs : UInt64 := 1

def safeTimeout (timeoutMs : UInt64) : UInt64 := max timeoutMs minTimeoutMs

/-- The answer to a transfer that failed with the given text. -/
def failure (sessionId : UInt64) (deviceId : DeviceId) (message : String) : TransferResponse where
  sessionId := sessionId
  deviceId := deviceId
  success := false
  data := []
  bytesTransferred := 0
  errorMessage := some message

/-- The answer to a transfer that moved `n` bytes. -/
def success (sessionId : UInt64) (deviceId : DeviceId) (data : Bytes) (n : Nat) :
    TransferResponse where
  sessionId := sessionId
  deviceId := deviceId
  success := true
  data := data
  bytesTransferred := UInt32.ofNat n
  errorMessage := none

def cappedLength (length : UInt32) (reqSession : UInt64) (reqDevice : DeviceId) :
    Except TransferResponse Nat :=
  if length > maxTransferBuffer then
    .error (failure reqSession reqDevice
      ("Requested length " ++ toString length ++ " exceeds maximum " ++ toString maxTransferBuffer))
  else .ok length.toNat

/-- A zeroed buffer of `length` bytes after a read put `bytes` into it. -/
def filledBuffer (length : Nat) (bytes : Bytes) : Bytes :=
  bytes.take length ++ List.replicate (length - bytes.length) 0

/-- `request_type & 0x80 != 0`, and the same bit of an endpoint address. -/
def directionIn (address : UInt8) : Bool := address &&& 0x80 != 0

/-- The response to a read into a buffer of `length` bytes. -/
def readResponse (sessionId : UInt64) (deviceId : DeviceId) (length : Nat) :
    Except RusbError (Nat × Bytes) → TransferResponse
  | .ok (n, bytes) => success sessionId deviceId ((filledBuffer length bytes).take n) n
  | .error e => failure sessionId deviceId (p.usbErrorText e)

/-- The response to a write. -/
def writeResponse (sessionId : UInt64) (deviceId : DeviceId) :
    Except RusbError Nat → TransferResponse
  | .ok n => success sessionId deviceId [] n
  | .error e => failure sessionId deviceId (p.usbErrorText e)

def executeControlTransfer (handle : Handle) (req : ControlTransferRequest) (u : Bus W) :
    TransferResponse × Bus W :=
  let timeout := safeTimeout req.timeoutMs
  if directionIn req.requestType then
    let (r, u) := p.call (.readControl handle req.requestType req.request req.value req.index
      req.length.toNat timeout) u
    (readResponse p req.sessionId req.deviceId req.length.toNat r, u)
  else
    let (r, u) := p.call (.writeControl handle req.requestType req.request req.value req.index
      req.data timeout) u
    (writeResponse p req.sessionId req.deviceId r, u)

def executeBulkTransfer (handle : Handle) (req : BulkTransferRequest) (u : Bus W) :
    TransferResponse × Bus W :=
  let timeout := safeTimeout req.timeoutMs
  if directionIn req.endpoint then
    match cappedLength req.length req.sessionId req.deviceId with
    | .error resp => (resp, u)
    | .ok len =>
        let (r, u) := p.call (.readBulk handle req.endpoint len timeout) u
        (readResponse p req.sessionId req.deviceId len r, u)
  else
    let (r, u) := p.call (.writeBulk handle req.endpoint req.data timeout) u
    (writeResponse p req.sessionId req.deviceId r, u)

def executeInterruptTransfer (handle : Handle) (req : InterruptTransferRequest) (u : Bus W) :
    TransferResponse × Bus W :=
  let timeout := safeTimeout req.timeoutMs
  if directionIn req.endpoint then
    match cappedLength req.length req.sessionId req.deviceId with
    | .error resp => (resp, u)
    | .ok len =>
        let (r, u) := p.call (.readInterrupt handle req.endpoint len timeout) u
        (readResponse p req.sessionId req.deviceId len r, u)
  else
    let (r, u) := p.call (.writeInterrupt handle req.endpoint req.data timeout) u
    (writeResponse p req.sessionId req.deviceId r, u)

end WolfUsb.Transfer
