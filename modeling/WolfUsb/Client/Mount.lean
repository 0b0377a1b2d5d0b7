/-
WolfUsb.Client.Mount — the client's side of the hand-over to USB/IP
(`client/mount.rs`): the Bridge request and the OP_REQ_IMPORT /
OP_REP_IMPORT handshake on the raw stream.

The text `{:?}` gives a message is a parameter.
-/
import WolfUsb.Lib.Columns
import WolfUsb.Protocol.Messages
import WolfUsb.Server.Sysfs

namespace WolfUsb.Mount

open Lib

def usbipVersion : UInt16 := 0x0111
def opReqImport : UInt16 := 0x8003
def opRepImport : UInt16 := 0x0003

/-! ## The Bridge request -/

/-- The message `send_bridge` sends. -/
def bridgeRequest (bus addr : UInt8) : Message := .bridge { deviceId := ⟨bus, addr⟩ }

/-- `send_bridge` on what it gets: whether the request was sent, and the
next frame, if there is one. The result is the busid for OP_REQ_IMPORT. -/
def sendBridge (debug : Message → String) (sent : Except String Unit)
    (next : Option (Except String Message)) : Except AnyhowError String :=
  match sent with
  | .error e => .error ["Failed to send Bridge request", e]
  | .ok () =>
      match next with
      | some (.ok (.bridgeAccepted r)) => .ok r.busid
      | some (.ok (.bridgeRejected r)) => .error ["Server rejected bridge: " ++ r.errorMessage]
      | some (.ok other) => .error ["Unexpected response: " ++ debug other]
      | some (.error e) => .error ["Protocol error: " ++ e]
      | none => .error ["Connection closed during bridge handshake"]

/-! ## The import -/

/-- The 40 bytes of OP_REQ_IMPORT. -/
def importRequest (busid : String) : Except AnyhowError (List UInt8) :=
  let bb := asBytes busid
  if 32 ≤ bb.length then .error ["busid too long: " ++ busid]
  else .ok (be16 usbipVersion ++ be16 opReqImport ++ be32 0 ++ padded 32 bb)

structure ImportReply where
  devid : UInt32
  speed : UInt8
  vendorId : UInt16
  productId : UInt16
  deriving DecidableEq, Repr

/-- `format!("{:04x}", n)`. -/
def hex4 (n : UInt16) : String := String.ofList (zeroPadded 16 4 n.toNat)

/-- The four bytes at an offset as a big-endian integer. -/
def u32At (bytes : List UInt8) (i : Nat) : UInt32 :=
  fromBe32 (bytes.getD i 0) (bytes.getD (i + 1) 0) (bytes.getD (i + 2) 0) (bytes.getD (i + 3) 0)

/-- The two bytes at an offset as a big-endian integer. -/
def u16At (bytes : List UInt8) (i : Nat) : UInt16 :=
  fromBe16 (bytes.getD i 0) (bytes.getD (i + 1) 0)

/-- What `op_req_import` takes from the `usb_device` struct. -/
def parseDevice (dev : List UInt8) : ImportReply where
  devid := u32At dev 288 <<< 16 ||| u32At dev 292 &&& 0xffff
  speed := (u32At dev 296).toUInt8
  vendorId := u16At dev 300
  productId := u16At dev 302

/-- `op_req_import` after the request is made: whether it was written, the
pieces in which the stream yields the reply, and the error a short read
ends with. -/
def readImportReply (busid : String) (sent : Except String Unit) (pieces : List (List UInt8))
    (short : String) : Except AnyhowError ImportReply :=
  match sent with
  | .error e => .error ["Failed to send OP_REQ_IMPORT", e]
  | .ok () =>
      match readExact 8 pieces with
      | none => .error ["Failed to read OP_REP_IMPORT header", short]
      | some (hdr, pieces) =>
          let code := u16At hdr 2
          let status := u32At hdr 4
          if code ≠ opRepImport then
            .error ["Unexpected USB/IP response code: 0x" ++ hex4 code]
          else if status ≠ 0 then
            .error ["Server rejected OP_REQ_IMPORT with status " ++ toString status ++
              " — device '" ++ busid ++ "' not available"]
          else
            match readExact 312 pieces with
            | none => .error ["Failed to read OP_REP_IMPORT device data", short]
            | some (dev, _) => .ok (parseDevice dev)

/-- What `op_req_import` asks of the header. -/
def checkHeader (busid : String) (hdr : List UInt8) : Except AnyhowError Unit :=
  if u16At hdr 2 ≠ opRepImport then
    .error ["Unexpected USB/IP response code: 0x" ++ hex4 (u16At hdr 2)]
  else if u32At hdr 4 ≠ 0 then
    .error ["Server rejected OP_REQ_IMPORT with status " ++ toString (u32At hdr 4) ++
      " — device '" ++ busid ++ "' not available"]
  else .ok ()

/-- The header is checked before the device is read. -/
theorem readImportReply_checkHeader {busid : String} {pieces rest : List (List UInt8)}
    {hdr : List UInt8} (h : readExact 8 pieces = some (hdr, rest)) (short : String) :
    readImportReply busid (.ok ()) pieces short =
      match checkHeader busid hdr with
      | .error e => .error e
      | .ok () =>
          match readExact 312 rest with
          | none => .error ["Failed to read OP_REP_IMPORT device data", short]
          | some (dev, _) => .ok (parseDevice dev) := by
  simp only [readImportReply, h, checkHeader]
  split
  · rfl
  · split <;> rfl

/-- `op_req_import`: the bytes it writes, and what it returns. -/
def opReqImportExchange (busid : String) (sent : Except String Unit) (pieces : List (List UInt8))
    (short : String) : List UInt8 × Except AnyhowError ImportReply :=
  match importRequest busid with
  | .error e => ([], .error e)
  | .ok req => (req, readImportReply busid sent pieces short)

/-- Bytes are written only for a busid that fits its field. -/
theorem importRequest_of_exchange {busid : String} {sent : Except String Unit}
    {pieces : List (List UInt8)} {short : String} {req : List UInt8}
    (h : (opReqImportExchange busid sent pieces short).1 = req) (hne : req ≠ []) :
    importRequest busid = .ok req := by
  rw [opReqImportExchange] at h
  split at h
  · exact absurd h.symm hne
  · rename_i req' hreq
    rw [hreq]
    exact congrArg Except.ok h

end WolfUsb.Mount
