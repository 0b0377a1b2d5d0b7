/-
WolfUsb.Server.Import — what `run_bridge_inner` reads from sysfs and
sends as OP_REP_IMPORT (`server/bridge.rs`).

The task of `Bridge` leaves these data out: in its environment a lookup is
found or not. `BridgeEnv.reading` is the environment of a task for a given
target whose two lookups read given directories, so that a run of the task
is a run with its data.
-/
import WolfUsb.Server.Bridge
import WolfUsb.Server.Sysfs

namespace WolfUsb.Bridge

open Lib KernelUsbip

/-- The busid the task works on: `port_path_for_address`, then
`sysfs_busid`. -/
def exportBusid (sysfs : Sysfs) (target : DeviceId) : Except AnyhowError String :=
  match portPathForAddress sysfs target.busNumber target.address with
  | .ok portPath => .ok (sysfsBusid target.busNumber portPath)
  | .error e => .error (("resolving sysfs path for bus=" ++ toString target.busNumber ++
      " address=" ++ toString target.address) :: e)

/-- The device info the task reports. The directory is read again: the
device may have been released in between. -/
def exportInfo (before after : Sysfs) (target : DeviceId) :
    Except AnyhowError KernelUsbip.DeviceInfo :=
  match exportBusid before target with
  | .error e => .error e
  | .ok busid =>
      match KernelUsbip.DeviceInfo.fromSysfs after busid with
      | .ok info => .ok info
      | .error e => .error (("reading sysfs for " ++ busid) :: e)

/-- The 320 bytes of OP_REP_IMPORT. -/
def importReply (info : KernelUsbip.DeviceInfo) : List UInt8 :=
  be16 usbipVersion ++ be16 opRepImport ++ be32 0 ++ info.toWireBytes

/-- The environment of a task for `target` that reads `before` at its
lookup and `after` at `from_sysfs`, and whose client sends `request`. -/
def BridgeEnv.reading (env : BridgeEnv) (target : DeviceId) (before after : Sysfs)
    (request : Vector UInt8 40) : BridgeEnv :=
  { env with
    pathFound := (exportBusid before target).isOk
    infoRead := (exportInfo before after target).isOk
    request := some request }

/-- The 32 bytes of the busid in an OP_REQ_IMPORT. -/
def requestedBusid (request : List UInt8) : List UInt8 := (request.drop 8).take 32

/-- The 32 bytes of the busid in an OP_REP_IMPORT. -/
def reportedBusid (reply : List UInt8) : List UInt8 := (reply.drop (8 + 256)).take 32

end WolfUsb.Bridge
