/-
WolfUsb.Network.RemoteCalls — what a session is for: the device manager,
at a distance.

`Call.perform` is a method of `Session` without the network: the manager
operation the call stands for, on the connection's table and the shared
state. A manager error reaches the caller as its text; so does the error
of a lost task.

`LocalSession` is the machine that performs calls one by one, and
`Deployed` the machine that makes them over the network (`Exchange`), with
the shared state of the server beside it. In both, the other connections
of the server work on the shared state at any time.
-/
import WolfUsb.Network.Exchange
import WolfUsb.Server.Operations

namespace WolfUsb

open WolfUsb.Lib

variable {W : Type} (p : Platform W)

/-! ## A call without the network -/

namespace Session

/-- What a manager error is to the caller. -/
def told {α : Type} : Except WolfUsbError α → Except WolfUsbError α
  | .ok a => .ok a
  | .error e => .error (.protocolError (e.text p))

/-- An operation of the manager in a task that may be lost. -/
def inTask {α : Type} (join : Option String) (op : Shared W → Except WolfUsbError α × Shared W)
    (sh : Shared W) : Except WolfUsbError α × Shared W :=
  match join with
  | some e => (.error (.protocolError e), sh)
  | none => (told p (op sh).1, (op sh).2)

/-- A transfer reports its failures in the response. -/
def performTransfer (join : Option String) (conn : Connection) (request : TransferRequest)
    (s : UInt64) (sh : Shared W) : Except WolfUsbError TransferResponse × Shared W :=
  let failed (e : String) := .ok (Transfer.failure s request.deviceId e)
  if s ∉ conn.sessions then (failed "Invalid session", sh)
  else
    match sh.manager.validateSession s request.deviceId with
    | .error e => (failed (e.text p), sh)
    | .ok () =>
        match sh.manager.getHandle p request.deviceId sh.bus, join with
        | (.error e, u), _ => (failed (e.text p), { sh with bus := u })
        | (.ok _, u), some e => (.error (.protocolError e), { sh with bus := u })
        | (.ok handle, u), none =>
            (.ok (request.execute p handle u).1, { sh with bus := (request.execute p handle u).2 })

/-- An operation for a session of the connection. -/
def performOwned (join : Option String) (conn : Connection) (s : UInt64)
    (op : DeviceManager → Bus W → Except WolfUsbError Unit × DeviceManager × Bus W)
    (sh : Shared W) : Except WolfUsbError Unit × Shared W :=
  if s ∉ conn.sessions then (.error (.protocolError "Invalid session"), sh)
  else inTask p join (Shared.locked op) sh

/-- A call of a client that has passed the gate. -/
def Call.performOpen (join : Option String) (conn : Connection) (call : Call) (sh : Shared W) :
    Except WolfUsbError Returned × Connection × Shared W :=
  match call with
  | .listDevices =>
      let (r, sh) := inTask p join (Shared.reading (DeviceManager.listDevices p)) sh
      (r.map .devices, conn, sh)
  | .getDescriptors deviceId =>
      let (r, sh) := inTask p join (Shared.reading (DeviceManager.getDescriptors p deviceId)) sh
      (r.map .descriptors, conn, sh)
  | .attach deviceId =>
      match inTask p join (Shared.locked fun m => m.attach p deviceId conn.peerAddr) sh with
      | (.ok s, sh) =>
          (.ok (.session s), { conn with sessions := conn.sessions.insert s deviceId }, sh)
      | (.error e, sh) => (.error e, conn, sh)
  | .detach deviceId s =>
      if s ∉ conn.sessions then
        (.error (.protocolError "Session does not belong to this connection"), conn, sh)
      else
        let (r, sh) := inTask p join (Shared.locked fun m => m.detach p deviceId s) sh
        -- the session is gone from the table unless the task was lost
        let kept := if join.isSome then conn.sessions else conn.sessions.erase s
        (r.map fun _ => .done, { conn with sessions := kept }, sh)
  | .controlTransfer req =>
      let (r, sh) := performTransfer p join conn (.control req) req.sessionId sh
      (r.map .transfer, conn, sh)
  | .bulkTransfer req =>
      let (r, sh) := performTransfer p join conn (.bulk req) req.sessionId sh
      (r.map .transfer, conn, sh)
  | .interruptTransfer req =>
      let (r, sh) := performTransfer p join conn (.interrupt req) req.sessionId sh
      (r.map .transfer, conn, sh)
  | .claimInterface s deviceId interfaceNumber =>
      let (r, sh) := performOwned p join conn s
        (fun m => m.claimInterface p deviceId interfaceNumber) sh
      (r.map fun _ => .done, conn, sh)
  | .releaseInterface s deviceId interfaceNumber =>
      let (r, sh) := performOwned p join conn s
        (fun m => m.releaseInterface p deviceId interfaceNumber) sh
      (r.map fun _ => .done, conn, sh)
  | .setConfiguration s deviceId configuration =>
      let (r, sh) := performOwned p join conn s
        (fun m => m.setConfiguration p deviceId configuration) sh
      (r.map fun _ => .done, conn, sh)

def Call.perform (join : Option String) (conn : Connection) (call : Call) (sh : Shared W) :
    Except WolfUsbError Returned × Connection × Shared W :=
  if conn.gated then
    (.error (.protocolError "Not authenticated. Send Hello first."), conn, sh)
  else call.performOpen p join conn sh

end Session

/-! ## The local machine -/

/-- The connection, the shared state, and what the calls performed so far
have returned. -/
structure LocalSession (W : Type) where
  conn : Connection
  shared : Shared W
  performed : List (Session.Call × Except WolfUsbError Session.Returned)

inductive LocalEvent where
  | call (join : Option String) (call : Session.Call)
  /-- Another connection works on the shared state. -/
  | other (op : ManagerOp)

/-- What the other connections do. -/
def LocalEvent.others : LocalEvent → List ManagerOp
  | .call _ _ => []
  | .other op => [op]

def LocalSession.step (t : LocalSession W) : LocalEvent → Option (LocalSession W)
  | .call join call =>
      let (r, conn, shared) := call.perform p join t.conn t.shared
      some { conn, shared, performed := t.performed ++ [(call, r)] }
  | .other op => some { t with shared := (op.perform p t.shared).2 }

/-! ## The deployed machine -/

/-- A session and the connection it is on, and what all connections of
the server share. -/
structure Deployed (W : Type) where
  exchange : Exchange
  shared : Shared W

inductive DeployedEvent (W : Type) where
  /-- A step of the session or of its connection. -/
  | own (e : ExchangeEvent W)
  /-- Another connection works on the shared state. -/
  | other (op : ManagerOp)

/-- What the other connections do. -/
def DeployedEvent.others : DeployedEvent W → List ManagerOp
  | .own _ => []
  | .other op => [op]

namespace Deployed

variable (debug : Message → String) (b : Bincode)

/-- A server operation finds the shared state as it is. -/
def served (sh : Shared W) : ExchangeEvent W → ExchangeEvent W
  | .server env => .server { env with shared := sh }
  | e => e

/-- The shared state after a step: a message that is decoded is handled. -/
def sharedAfter (s : Deployed W) : ExchangeEvent W → Shared W
  | .server env =>
      match s.exchange.server with
      | .serving conn f =>
          match Codec.decode b f.read with
          | .item m _ => (conn.handleMessage p env.join m s.shared).2.2
          | _ => s.shared
      | _ => s.shared
  | _ => s.shared

def step (s : Deployed W) : DeployedEvent W → Option (Deployed W)
  | .own e =>
      (s.exchange.step p debug b (served s.shared e)).map fun exchange =>
        { exchange, shared := s.sharedAfter p b e }
  | .other op => some { s with shared := (op.perform p s.shared).2 }

/-- A connected session on a server in some state. -/
def start (conn : Connection) (sh : Shared W) : Deployed W := ⟨.start conn, sh⟩

end Deployed

end WolfUsb
