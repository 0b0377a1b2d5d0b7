/-
WolfUsb.Server.Bridge — the bridge task (`run_bridge_inner` of
`server/bridge.rs`) as a state machine.

`Pc` is the next operation of the task and `Bridge.step` makes it: one
sysfs or socket operation, from the first lookup to the final `unbind`.
`BridgeEnv` has the outcome of every operation the device does not
decide. `run_bridge` logs the error and drops it.

The device is the one at the target's bus and address; both the busid and
the files behind it are fixed while it is plugged in.
-/
import WolfUsb.Server.KernelUsbip

namespace WolfUsb.Bridge

open KernelUsbip

def usbipVersion : UInt16 := 0x0111
def opReqImport : UInt16 := 0x8003
def opRepImport : UInt16 := 0x0003

/-- What the outside decides for one bridge task. -/
structure BridgeEnv extends ExportEnv where
  /-- `port_path_for_address` is `Ok`. -/
  pathFound : Bool := true
  /-- `bConfigurationValue` exists at the `n`-th look after a release. -/
  configVisible : Nat → Bool := fun _ => true
  /-- `DeviceInfo::from_sysfs` is `Ok`. -/
  infoRead : Bool := true
  /-- The 40 bytes the client sends, or an error of `read_exact`. -/
  request : Option (Vector UInt8 40)
  replySent : Bool := true
  flushed : Bool := true
  intoStd : Bool := true
  blocking : Bool := true
  /-- The fd is accepted by `usbip_sockfd`. -/
  socketAccepted : Bool := true
  /-- The blocking task of the wait is lost. -/
  waitLost : Bool := false

/-- `u16::from_be_bytes([req[2], req[3]])`. -/
def reqCode (req : Vector UInt8 40) : UInt16 := req[2].toUInt16 <<< 8 ||| req[3].toUInt16

/-- An OP_REQ_IMPORT with an empty busid. -/
def importRequest : Vector UInt8 40 :=
  ((((Vector.replicate 40 0).set 0 0x01).set 1 0x11).set 2 0x80).set 3 0x03

/-- The next operation of `run_bridge_inner`. -/
inductive Pc where
  | lookup
  | isBound
  | release (u : UnbindPc)
  /-- The wait for the normal driver, after `n` looks. -/
  | settle (n : Nat)
  | readInfo
  | bind (b : BindPc)
  | readRequest
  | sendReply
  | flush
  | intoStd
  | setBlocking
  | attachSocket
  /-- `unbind` after the kernel rejected the socket. -/
  | rollback (u : UnbindPc)
  /-- `wait_until_detached`, at a read of the status. -/
  | wait
  /-- The final `unbind`. -/
  | finish (u : UnbindPc)
  | done (result : Except BridgeError Unit)

def step (env : BridgeEnv) : Pc → SysfsDevice → Pc × SysfsDevice
  | .lookup, d => (if env.pathFound then .isBound else .done (.error .noSysfsPath), d)
  | .isBound, d => (if d.isBound then .release .isBound else .readInfo, d)
  | .release u, d =>
      match unbindStep u d with
      | (some u, d) => (.release u, d)
      | (none, d) => (.settle 0, d)
  | .settle n, d =>
      (if n < 20 then
        if !d.isBound && env.configVisible n then .readInfo else .settle (n + 1)
      else .readInfo, d)
  | .readInfo, d => (if env.infoRead then .bind .isBound else .done (.error .noDeviceInfo), d)
  | .bind b, d =>
      match bindStep env.toExportEnv b d with
      | (.inl b, d) => (.bind b, d)
      | (.inr (.ok ()), d) => (.readRequest, d)
      | (.inr (.error e), d) => (.done (.error e), d)
  | .readRequest, d =>
      match env.request with
      | none => (.done (.error .requestNotRead), d)
      | some req =>
          (if reqCode req ≠ opReqImport then .done (.error .unexpectedCode) else .sendReply, d)
  | .sendReply, d => (if env.replySent then .flush else .done (.error .replyNotSent), d)
  | .flush, d => (if env.flushed then .intoStd else .done (.error .replyNotFlushed), d)
  | .intoStd, d => (if env.intoStd then .setBlocking else .done (.error .noStdStream), d)
  | .setBlocking, d => (if env.blocking then .attachSocket else .done (.error .notBlocking), d)
  | .attachSocket, d =>
      -- the file is there while usbip-host has the device
      if env.socketAccepted && d.isBound then (.wait, { d with status := 2 })
      else (.rollback .isBound, d)
  | .rollback u, d =>
      match unbindStep u d with
      | (some u, d) => (.rollback u, d)
      | (none, d) => (.done (.error .socketRejected), d)
  | .wait, d => (if env.waitLost || d.status != 2 then .finish .isBound else .wait, d)
  | .finish u, d =>
      match unbindStep u d with
      | (some u, d) => (.finish u, d)
      | (none, d) => (.done (.ok ()), d)
  | .done result, d => (.done result, d)

end WolfUsb.Bridge
