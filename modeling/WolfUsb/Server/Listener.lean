/-
WolfUsb.Server.Listener — the server as one system: the accept loop
(`server/listener.rs`), the read loop of every connection
(`Connection::run`), and the device manager they share.

`Server.step` is guarded: an event that cannot happen in a state (a frame
on a connection that is not being served) gives `none`. The events carry
what the outside decides: which blocking task is lost, whether a reply
can be sent and flushed, and the order in which a hash map yields its
keys. The hand-off of a plain stream to the USB/IP bridge ends the
connection's part in this system; what the bridge does to the device is
modelled in `Server.Bridge`.
-/
import WolfUsb.Server.Connection

namespace WolfUsb

/-- A running server. `accepted` counts the connections taken so far and
names the next one. -/
structure Server (W : Type) where
  sharedKey : Option Bytes
  tls : Bool
  manager : DeviceManager
  world : W
  connections : HashMap Nat Connection
  accepted : Nat

/-- What the outside decides while one event is served. -/
structure Outcome where
  /-- The join error of the handler's blocking task, if it is lost. -/
  join : Option String := none
  /-- `framed.send(..)` succeeded. -/
  sent : Bool := true
  /-- `framed.flush()` succeeded. -/
  flushed : Bool := true
  /-- The join error of the cleanup's blocking task, if it is lost. -/
  cleanupJoin : Option String := none
  /-- The keys of the sessions table, in the order cleanup sees them. -/
  keys : List UInt64 := []

inductive Event where
  /-- The listener accepted a stream (and its TLS handshake succeeded). -/
  | accept (peerAddr : SocketAddr)
  /-- `framed.next()` yielded a message on connection `c`. -/
  | receive (c : Nat) (msg : Message) (o : Outcome)
  /-- `framed.next()` yielded a decode error or the end of the stream. -/
  | hangup (c : Nat) (o : Outcome)

/-- The outcome an event on connection `c` is served with. -/
def Event.outcome (c : Nat) : Event → Option Outcome
  | .accept _ => none
  | .receive c' _ o => if c' = c then some o else none
  | .hangup c' o => if c' = c then some o else none

/-- What an event makes visible: the reply `handle_message` produced, the
device whose bridge was started, and the USB calls made. -/
structure Output where
  reply : Option Message := none
  bridge : Option DeviceId := none
  calls : List UsbCall := []

namespace Server

variable {W : Type} (p : Platform W)

/-- `run_server` before the first connection. -/
def start (sharedKey : Option Bytes) (tls : Bool) (world : W) : Server W where
  sharedKey := sharedKey
  tls := tls
  manager := .new
  world := world
  connections := ∅
  accepted := 0

def stream (sv : Server W) : ServerStream := if sv.tls then .tls else .plain

/-- The manager and an empty call log, as a handler finds them. -/
def shared (sv : Server W) : Shared W := ⟨sv.manager, ⟨sv.world, []⟩⟩

/-- The server after a handler, with the connections given. -/
def after (sv : Server W) (sh : Shared W) (connections : HashMap Nat Connection) : Server W :=
  { sv with manager := sh.manager, world := sh.bus.world, connections }

/-- `break None`: cleanup, then `run` returns. -/
def finish (sv : Server W) (c : Nat) (conn : Connection) (sh : Shared W) (o : Outcome)
    (reply : Option Message) : Option (Server W × Output) :=
  if o.keys.Nodup ∧ o.keys.toFinset = conn.sessions.keys then
    let (_, sh) := conn.cleanup p o.cleanupJoin o.keys sh
    some (sv.after sh (sv.connections.erase c), { reply, calls := sh.bus.calls })
  else none

/-- `break Some(target)`: `run` returns without cleanup, from a plain
stream by way of `run_bridge`, from a TLS stream with a warning. -/
def handOff (sv : Server W) (c : Nat) (conn : Connection) (sh : Shared W) (reply : Message)
    (target : DeviceId) : Server W × Output :=
  (sv.after sh (sv.connections.erase c),
    { reply := some reply
      bridge := match conn.stream with
        | .plain => some target
        | .tls => none
      calls := sh.bus.calls })

def step (sv : Server W) : Event → Option (Server W × Output)
  | .accept peerAddr =>
      some ({ sv with
        connections := sv.connections.insert sv.accepted
          (.new sv.stream peerAddr sv.sharedKey)
        accepted := sv.accepted + 1 }, {})
  | .receive c msg o =>
      match sv.connections.lookup c with
      | none => none
      | some conn =>
          match Connection.handleMessage p o.join conn msg sv.shared with
          | (.reply resp, conn, sh) =>
              if o.sent then
                some (sv.after sh (sv.connections.insert c conn),
                  { reply := some resp, calls := sh.bus.calls })
              else finish p sv c conn sh o (some resp)
          | (.bridge reply target, conn, sh) =>
              if o.sent && o.flushed then some (sv.handOff c conn sh reply target)
              else finish p sv c conn sh o (some reply)
  | .hangup c o =>
      match sv.connections.lookup c with
      | none => none
      | some conn => finish p sv c conn sv.shared o none

/-- `step` without its output. -/
def next (sv : Server W) (e : Event) : Option (Server W) := (sv.step p e).map Prod.fst

end Server

end WolfUsb
