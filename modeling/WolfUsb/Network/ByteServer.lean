/-
WolfUsb.Network.ByteServer — the server byte by byte: the accept loop
(`run_server`), every accepted connection with its `Framed`, and the
device manager they share.

A connection is at one of the places of `ServerPc`, or it has left its
loop with `break None` and comes to its cleanup later. Sockets yield and
take pieces of any size, and the connections take their steps in any
order; a message is handled when it is decoded, with the manager and the
bus as they are at that moment. `Server` is the same system with one event
for each message.

What the kernel sends and receives on a socket it was given is not a step
of the server.
-/
import WolfUsb.Network.ModeSwitch
import WolfUsb.Server.Listener

namespace WolfUsb

open WolfUsb.Lib

/-- What happens to a server, as its peers and its host can see it. -/
inductive Entry where
  | accepted (peerAddr : SocketAddr)
  /-- A piece was read from the socket of connection `c`. -/
  | read (c : Nat) (chunk : Bytes)
  /-- `framed.next()` yielded a message. -/
  | heard (c : Nat) (msg : Message)
  | called (call : UsbCall)
  /-- `handle_message` returned the reply. -/
  | replied (c : Nat) (reply : Message)
  /-- A piece was written to the socket. -/
  | wrote (c : Nat) (bytes : Bytes)
  deriving DecidableEq

/-! ## The bytes -/

/-- An accepted connection that has not ended. -/
inductive Loop where
  | running (pc : ServerPc)
  /-- `break None`: `cleanup` is next. The `Framed` goes when `run` returns. -/
  | closing (conn : Connection) (f : Framed)

structure ByteServer (W : Type) where
  sharedKey : Option Bytes
  tls : Bool
  manager : DeviceManager
  world : W
  connections : HashMap Nat Loop
  accepted : Nat
  /-- What has happened. -/
  record : List Entry

inductive ByteEvent (W : Type) where
  | accept (peerAddr : SocketAddr)
  | read (c : Nat) (chunk : Bytes)
  | write (c n : Nat)
  /-- An operation of connection `c`. The shared state is the server's own. -/
  | operate (c : Nat) (env : ServerEnv W)
  /-- An I/O error, or the end of the stream. -/
  | fails (c : Nat)
  /-- `cleanup`, with the keys in the order the table yields them. -/
  | cleanup (c : Nat) (join : Option String) (keys : List UInt64)

namespace ByteServer

variable {W : Type} (p : Platform W) (b : Bincode)

/-- `run_server` before the first connection. -/
def start (sharedKey : Option Bytes) (tls : Bool) (world : W) : ByteServer W where
  sharedKey := sharedKey
  tls := tls
  manager := .new
  world := world
  connections := ∅
  accepted := 0
  record := []

def socket (w : ByteServer W) : ServerStream := if w.tls then .tls else .plain

def shared (w : ByteServer W) : Shared W := ⟨w.manager, ⟨w.world, []⟩⟩

/-- Connection `c` goes on at a place. -/
def put (w : ByteServer W) (c : Nat) (loop : Loop) (entries : List Entry) : ByteServer W :=
  { w with connections := w.connections.insert c loop, record := w.record ++ entries }

/-- Connection `c` has ended. -/
def drop (w : ByteServer W) (c : Nat) : ByteServer W :=
  { w with connections := w.connections.erase c }

/-- The shared state a task leaves, with the USB calls it made. -/
def after (w : ByteServer W) (sh : Shared W) : ByteServer W :=
  { w with manager := sh.manager, world := sh.bus.world }

/-- Where a connection goes with the action of a message. -/
def replyWith (conn : Connection) (rest write : Bytes) (action : Action) : Loop :=
  match Codec.encode b action.message write with
  | .error _ => .closing conn ⟨rest, write⟩
  | .ok write => .running (.replying conn ⟨rest, write⟩ (ServerPc.targetOf action))

/-- What handling a message of connection `c` adds to the record. -/
def handled (c : Nat) (msg : Message) (calls : List UsbCall) (reply : Message) : List Entry :=
  .heard c msg :: calls.map .called ++ [.replied c reply]

/-- An operation of a connection, as `ServerPc.advance` has it, with what it
does to the manager and the bus. -/
def operate (w : ByteServer W) (c : Nat) (env : ServerEnv W) :
    ServerPc → Option (ByteServer W)
  | .serving conn f =>
      match Codec.decode b f.read with
      | .more => none
      | .failed _ => some (w.put c (.closing conn f) [])
      | .item m rest =>
          match conn.handleMessage p env.join m w.shared with
          | (action, conn, sh) =>
              some ((w.after sh).put c (replyWith b conn rest f.write action)
                (handled c m sh.bus.calls action.message))
  | .switching _ _ =>
      -- a TLS stream is dropped with a warning
      if w.tls then some (w.drop c)
      else some (w.put c (.running (.bridging { task := .lookup })) [])
  | pc =>
      (pc.advance p b { env with shared := w.shared }).bind fun r =>
        r.map fun (pc, _) => w.put c (.running pc) []

/-- `framed.next()` reads when it has no whole frame, so it fails only then. -/
def fail (w : ByteServer W) (c : Nat) : ServerPc → Option (ByteServer W)
  | .serving conn f =>
      match Codec.decode b f.read with
      | .more => some (w.put c (.closing conn f) [])
      | _ => none
  | .replying conn f _ => some (w.put c (.closing conn f) [])
  | _ => none

def step (w : ByteServer W) : ByteEvent W → Option (ByteServer W)
  | .accept peerAddr =>
      some { w with
        connections := w.connections.insert w.accepted
          (.running (.serving (.new w.socket peerAddr w.sharedKey) ⟨[], []⟩))
        accepted := w.accepted + 1
        record := w.record ++ [.accepted peerAddr] }
  | .read c chunk =>
      match w.connections.lookup c with
      | some (.running pc) =>
          (pc.receive b chunk).map fun pc => w.put c (.running pc) [.read c chunk]
      | _ => none
  | .write c n =>
      match w.connections.lookup c with
      | some (.running pc) =>
          (pc.write n).map fun (bytes, pc) => w.put c (.running pc) [.wrote c bytes]
      | _ => none
  | .operate c env =>
      match w.connections.lookup c with
      | some (.running pc) => w.operate p b c env pc
      | _ => none
  | .fails c =>
      match w.connections.lookup c with
      | some (.running pc) => w.fail b c pc
      | _ => none
  | .cleanup c join keys =>
      match w.connections.lookup c with
      | some (.closing conn _) =>
          if keys.Nodup ∧ keys.toFinset = conn.sessions.keys then
            let (_, sh) := conn.cleanup p join keys w.shared
            some { (w.after sh).drop c with record := w.record ++ sh.bus.calls.map .called }
          else none
      | _ => none

/-- The connection whose hand-off is cut short by the event: its reply
cannot be encoded, or not be sent. -/
def cutShort (w : ByteServer W) : ByteEvent W → Option Connection
  | .operate c env =>
      match w.connections.lookup c with
      | some (.running (.serving conn f)) =>
          match Codec.decode b f.read with
          | .item m _ =>
              match conn.handleMessage p env.join m w.shared with
              | (.bridge reply _, conn, _) =>
                  match Codec.encode b reply f.write with
                  | .error _ => some conn
                  | .ok _ => none
              | _ => none
          | _ => none
      | _ => none
  | .fails c =>
      match w.connections.lookup c with
      | some (.running (.replying conn _ (some _))) => some conn
      | _ => none
  | _ => none

/-- A connection whose hand-off is cut short has no session. -/
def CutsShortNone (w : ByteServer W) (e : ByteEvent W) : Prop :=
  ∀ conn, w.cutShort p b e = some conn → conn.sessions.keys = ∅

end ByteServer

/-! ## The messages -/

/-- What an event of `Server` adds to the record. -/
def Event.entries (out : Output) : Event → List Entry
  | .accept peerAddr => [.accepted peerAddr]
  | .receive c msg _ => .heard c msg :: out.calls.map .called ++ out.reply.toList.map (.replied c)
  | .hangup _ _ => out.calls.map .called

/-- The server with one event for each message, and what has happened. -/
structure Narrated (W : Type) where
  server : Server W
  record : List Entry

namespace Narrated

variable {W : Type} (p : Platform W)

def start (sharedKey : Option Bytes) (tls : Bool) (world : W) : Narrated W :=
  ⟨.start sharedKey tls world, []⟩

def step (a : Narrated W) (e : Event) : Option (Narrated W) :=
  (a.server.step p e).map fun (sv, out) => ⟨sv, a.record ++ e.entries out⟩

end Narrated

/-! ## The record -/

/-- An entry the server with one event for each message makes too. -/
def Entry.isMessage : Entry → Bool
  | .read _ _ | .wrote _ _ => false
  | _ => true

section Record

variable (c : Nat) (record : List Entry)

/-- The bytes read on a connection. -/
def bytesIn : Bytes :=
  record.flatMap fun
    | .read c' chunk => if c' = c then chunk else []
    | _ => []

/-- The bytes written on it. -/
def bytesOut : Bytes :=
  record.flatMap fun
    | .wrote c' bytes => if c' = c then bytes else []
    | _ => []

/-- The messages it was heard to send. -/
def heardFrom : List Message :=
  record.filterMap fun
    | .heard c' msg => if c' = c then some msg else none
    | _ => none

/-- What they were answered. -/
def repliesTo : List Message :=
  record.filterMap fun
    | .replied c' reply => if c' = c then some reply else none
    | _ => none

end Record

end WolfUsb
