/-
WolfUsb.Server.Operations — the device manager as a machine: what the
handlers and the cleanup of all connections do with it, one operation at a
time.

An operation runs under the manager's lock, so a run of the manager is a
sequence of operations. A transfer looks its handle up under the lock and
is executed on the handle after it; here the two are one operation. Which
client asked, and with which session it got past its own checks, is left
out: any client may ask for anything.
-/
import WolfUsb.Lib.Runs
import WolfUsb.Server.Connection

namespace WolfUsb

open WolfUsb.Lib

inductive TransferRequest where
  | control (req : ControlTransferRequest)
  | bulk (req : BulkTransferRequest)
  | interrupt (req : InterruptTransferRequest)
  deriving DecidableEq

inductive ManagerOp where
  | listDevices
  | getDescriptors (deviceId : DeviceId)
  | attach (deviceId : DeviceId) (clientAddr : SocketAddr)
  | detach (deviceId : DeviceId) (sessionId : UInt64)
  | detachAllForSessions (sessionIds : List UInt64)
  | claimInterface (deviceId : DeviceId) (interfaceNumber : UInt8)
  | releaseInterface (deviceId : DeviceId) (interfaceNumber : UInt8)
  | setConfiguration (deviceId : DeviceId) (configuration : UInt8)
  | transfer (request : TransferRequest)
  deriving DecidableEq

variable {W : Type} (p : Platform W)

namespace TransferRequest

def deviceId : TransferRequest → DeviceId
  | control req => req.deviceId
  | bulk req => req.deviceId
  | interrupt req => req.deviceId

def execute (handle : Handle) : TransferRequest → Bus W → TransferResponse × Bus W
  | control req => Transfer.executeControlTransfer p handle req
  | bulk req => Transfer.executeBulkTransfer p handle req
  | interrupt req => Transfer.executeInterruptTransfer p handle req

/-- The handle of the device, and the transfer on it. -/
def run (request : TransferRequest) (m : DeviceManager) (u : Bus W) :
    Except WolfUsbError TransferResponse × Bus W :=
  match m.getHandle p request.deviceId u with
  | (.error e, u) => (.error e, u)
  | (.ok handle, u) =>
      let (resp, u) := request.execute p handle u
      (.ok resp, u)

end TransferRequest

namespace ManagerOp

/-- An operation and whether it failed; the value it returns is dropped. -/
def perform : ManagerOp → Shared W → Except WolfUsbError Unit × Shared W
  | listDevices, sh =>
      let (r, u) := DeviceManager.listDevices p sh.bus
      (r.map fun _ => (), { sh with bus := u })
  | getDescriptors d, sh =>
      let (r, u) := DeviceManager.getDescriptors p d sh.bus
      (r.map fun _ => (), { sh with bus := u })
  | attach d addr, sh =>
      let (r, m, u) := sh.manager.attach p d addr sh.bus
      (r.map fun _ => (), ⟨m, u⟩)
  | detach d s, sh =>
      let (r, m, u) := sh.manager.detach p d s sh.bus
      (r, ⟨m, u⟩)
  | detachAllForSessions keys, sh =>
      let (m, u) := DeviceManager.detachAllForSessions p keys sh.manager sh.bus
      (.ok (), ⟨m, u⟩)
  | claimInterface d i, sh =>
      let (r, m, u) := sh.manager.claimInterface p d i sh.bus
      (r, ⟨m, u⟩)
  | releaseInterface d i, sh =>
      let (r, m, u) := sh.manager.releaseInterface p d i sh.bus
      (r, ⟨m, u⟩)
  | setConfiguration d c, sh =>
      let (r, m, u) := sh.manager.setConfiguration p d c sh.bus
      (r, ⟨m, u⟩)
  | transfer request, sh =>
      let (r, u) := request.run p sh.manager sh.bus
      (r.map fun _ => (), { sh with bus := u })

end ManagerOp

namespace Shared

/-- A server without attachments. -/
def fresh (world : W) : Shared W := ⟨.new, ⟨world, []⟩⟩

/-- Every operation can be asked for in every state. -/
def step (sh : Shared W) (op : ManagerOp) : Option (Shared W) := some (op.perform p sh).2

/-- The runs of the manager. -/
abbrev Steps : Shared W → ManagerOp → Shared W → Prop := Guarded (Shared.step p)

variable {p} in
theorem Steps.eq {sh sh' : Shared W} {op : ManagerOp} (h : Steps p sh op sh') :
    sh' = (op.perform p sh).2 :=
  (Option.some.inj h).symm

end Shared

end WolfUsb
