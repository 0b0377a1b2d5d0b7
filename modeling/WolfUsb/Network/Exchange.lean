/-
WolfUsb.Network.Exchange — the method calls of a `Session` against
`Connection::run`, byte by byte.

A call encodes its request into the write buffer of the client's `Framed`,
writes it, and takes the next thing the stream yields for its response.
Calls are made one after the other, and after a call that failed too. Both
sides read and write pieces of any size and take their steps in any order.
The server is that of `ModeSwitch`; what the rest of it does shows in the
shared state a message is handled with.

An I/O error of a socket stays: every later call on it fails.
-/
import WolfUsb.Network.ModeSwitch

namespace WolfUsb

open WolfUsb.Lib

/-! ## The client's stream -/

/-- The reading half of a `Framed`. -/
structure FramedRead where
  buffer : Bytes := []
  /-- It has yielded an error, and yields `None` next. -/
  errored : Bool := false
  /-- It has seen the end of the stream. -/
  ended : Bool := false

namespace FramedRead

/-- The buffer after a failed `decode`: a frame that cannot be decoded is
consumed, a length that is too large is not. -/
def leftOver (buffer : Bytes) : Bytes :=
  match buffer with
  | b₀ :: b₁ :: b₂ :: b₃ :: rest =>
      let length := fromBe32 b₀ b₁ b₂ b₃
      if length > Codec.maxFrameSize then buffer else rest.drop length.toNat
  | _ => buffer

/-- `framed.next()`, when it is ready. `atEnd` says that there is nothing
left to read and never will be. -/
def next (b : Bincode) (atEnd : Bool) (r : FramedRead) : Option (NextFrame × FramedRead) :=
  if r.errored then some (none, { r with errored := false })
  else
    match Codec.decode b r.buffer with
    | .item m rest => some (some (.ok m), { r with buffer := rest })
    | .failed e =>
        some (some (.error e), { r with buffer := leftOver r.buffer, errored := true })
    | .more =>
        if atEnd then
          if r.ended || r.buffer.isEmpty then some (none, { r with ended := true })
          else
            some (some (.error (.connectionFailed "bytes remaining on stream")),
              { r with errored := true, ended := true })
        else none

end FramedRead

/-! ## The client -/

/-- Where a `Session` is. A request is numbered by those encoded before it. -/
inductive CallPc where
  | ready
  /-- At `framed.send`. -/
  | sending (call : Session.Call) (number : Nat)
  /-- At `framed.next`. -/
  | awaiting (call : Session.Call) (number : Nat)
  deriving DecidableEq

/-- The request that has no result yet. -/
def CallPc.number : CallPc → Option Nat
  | .ready => none
  | .sending _ n | .awaiting _ n => some n

structure SessionState where
  pc : CallPc := .ready
  read : FramedRead := {}
  write : Bytes := []
  /-- The text of the I/O error of a broken socket. -/
  broken : Option String := none

/-- A call that has returned: the number of its request, if it was encoded,
the message it took for its response, if it took one, and its result. -/
structure Completed where
  call : Session.Call
  request : Option Nat
  response : Option Message
  result : Except WolfUsbError Session.Returned

/-! ## Both -/

/-- A session, the server's connection, and the two directions between
them. The last four fields keep what happened: the calls whose request was
encoded, the messages the server has decoded, the replies it has put in
its write buffer, and the calls that have returned. -/
structure Exchange where
  client : SessionState
  server : ServerPc
  serverLive : Bool
  up : Channel UInt8
  down : Channel UInt8
  asked : List Session.Call
  served : List Message
  replies : List Message
  completed : List Completed

inductive ExchangeEvent (W : Type) where
  | call (call : Session.Call)
  | clientWrite (n : Nat)
  /-- All of the request is written. -/
  | clientSent
  | clientRead (n : Nat)
  | clientNext
  | clientFails (source : String)
  | server (env : ServerEnv W)
  | serverRead (n : Nat)
  | serverWrite (n : Nat)
  /-- An I/O error or the end of the stream. -/
  | serverFails

namespace Exchange

variable {W : Type} (p : Platform W) (debug : Message → String) (b : Bincode)

/-- A connected session, and the connection it is on with nothing on the
way, whatever became of that connection before. -/
def start (conn : Connection) : Exchange where
  client := {}
  server := .serving conn ⟨[], []⟩
  serverLive := true
  up := {}
  down := {}
  asked := []
  served := []
  replies := []
  completed := []

/-- Nothing is left to read and nothing will come. -/
def atEnd (s : Exchange) : Bool := !s.serverLive && s.down.pending.isEmpty

/-- A call returns what it makes of the sending and of the next frame. -/
def complete (s : Exchange) (client : SessionState) (call : Session.Call) (request : Option Nat)
    (sent : Except WolfUsbError Unit) (next : NextFrame) : Exchange :=
  let response := match next with
    | some (.ok m) => some m
    | _ => none
  { s with
    client := { client with pc := .ready }
    completed := s.completed ++ [{ call, request, response, result := call.run debug sent next }] }

def clientStep (s : Exchange) : ExchangeEvent W → Option Exchange
  | .call call =>
      match s.client.pc with
      | .ready =>
          match s.client.broken with
          | some source =>
              some (s.complete debug s.client call none (.error (.connectionFailed source)) none)
          | none =>
              match Codec.encode b call.request s.client.write with
              | .error e => some (s.complete debug s.client call none (.error e) none)
              | .ok write =>
                  some { s with
                    client := { s.client with pc := .sending call s.asked.length, write }
                    asked := s.asked ++ [call] }
      | _ => none
  | .clientWrite n =>
      match s.client.pc with
      | .sending _ _ =>
          some { s with
            client := { s.client with write := s.client.write.drop n }
            up := s.up.write (s.client.write.take n) }
      | _ => none
  | .clientSent =>
      match s.client.pc with
      | .sending call n =>
          if s.client.write = [] then
            some { s with client := { s.client with pc := .awaiting call n } }
          else none
      | _ => none
  | .clientRead n =>
      match s.client.pc, Codec.decode b s.client.read.buffer with
      | .awaiting _ _, .more =>
          some { s with
            client := { s.client with
              read := { s.client.read with
                buffer := s.client.read.buffer ++ s.down.pending.take n } }
            down := s.down.read n }
      | _, _ => none
  | .clientNext =>
      match s.client.pc with
      | .awaiting call n =>
          (s.client.read.next b s.atEnd).map fun (next, read) =>
            s.complete debug { s.client with read } call (some n) (.ok ()) next
      | _ => none
  | .clientFails source =>
      let error : WolfUsbError := .connectionFailed source
      let client := { s.client with broken := some source }
      match s.client.pc with
      | .ready => none
      | .sending call n => some (s.complete debug client call (some n) (.error error) none)
      | .awaiting call n => some (s.complete debug client call (some n) (.ok ()) (some (.error error)))
  | _ => none

/-- The message the server takes off its buffer next. -/
def heard : ServerPc → Option Message
  | .serving _ f =>
      match Codec.decode b f.read with
      | .item m _ => some m
      | _ => none
  | _ => none

/-- What a living connection does. -/
def serverStep (s : Exchange) : ExchangeEvent W → Option Exchange
  | .server env =>
      let served := s.served ++ (heard b s.server).toList
      (s.server.advance p b env).map fun
        | none => { s with serverLive := false, served }
        | some (server, reply) => { s with server, served, replies := s.replies ++ reply.toList }
  | .serverRead n =>
      (s.server.receive b (s.up.pending.take n)).map fun server =>
        { s with server, up := s.up.read n }
  | .serverWrite n =>
      (s.server.write n).map fun (bytes, server) => { s with server, down := s.down.write bytes }
  | .serverFails => some { s with serverLive := false }
  | _ => none

def step (s : Exchange) (e : ExchangeEvent W) : Option Exchange :=
  match e with
  | .server _ | .serverRead _ | .serverWrite _ | .serverFails =>
      if s.serverLive then s.serverStep p b e else none
  | _ => s.clientStep debug b e

end Exchange

end WolfUsb
