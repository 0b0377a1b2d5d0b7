/-
WolfUsb.Client.Commands — the commands of the CLI that open a session
(`main.rs`, `client/commands.rs`), and what one run of such a command does
to the server.

A command connects, makes one call, prints what it returned and exits; its
connection ends with it. `--data` and the numbers are taken as parsed: a
command whose arguments do not parse makes no call. Between the steps of a
run other clients may do anything on connections of their own.
-/
import WolfUsb.Client.Session
import WolfUsb.Lib.Runs
import WolfUsb.Server.Listener

namespace WolfUsb

open WolfUsb.Lib

/-- The commands, with `--bus` and `--addr` where they name a device. -/
inductive Command where
  | list
  | info (bus addr : UInt8)
  | attach (bus addr : UInt8)
  | detach (bus addr : UInt8) (sessionId : UInt64)
  | control (sessionId : UInt64) (bus addr requestType request : UInt8)
      (value index length : UInt16) (data : Bytes) (timeoutMs : UInt64)
  | bulk (sessionId : UInt64) (bus addr endpoint : UInt8) (length : UInt32) (data : Bytes)
      (timeoutMs : UInt64)
  | interrupt (sessionId : UInt64) (bus addr endpoint : UInt8) (length : UInt32) (data : Bytes)
      (timeoutMs : UInt64)
  deriving DecidableEq

namespace Command

/-- `cmd_list`, `cmd_info` and the others: the one call each makes. -/
def call : Command → Session.Call
  | list => .listDevices
  | info bus addr => .getDescriptors ⟨bus, addr⟩
  | attach bus addr => .attach ⟨bus, addr⟩
  | detach bus addr sessionId => .detach ⟨bus, addr⟩ sessionId
  | control sessionId bus addr requestType request value index length data timeoutMs =>
      .controlTransfer
        { sessionId, deviceId := ⟨bus, addr⟩, requestType, request, value, index, data, length,
          timeoutMs }
  | bulk sessionId bus addr endpoint length data timeoutMs =>
      .bulkTransfer { sessionId, deviceId := ⟨bus, addr⟩, endpoint, data, length, timeoutMs }
  | interrupt sessionId bus addr endpoint length data timeoutMs =>
      .interruptTransfer { sessionId, deviceId := ⟨bus, addr⟩, endpoint, data, length, timeoutMs }

/-- The session and the device a command is given, if it takes a session. -/
def target : Command → Option (UInt64 × DeviceId)
  | list | info _ _ | attach _ _ => none
  | detach bus addr sessionId => some (sessionId, ⟨bus, addr⟩)
  | control sessionId bus addr _ _ _ _ _ _ _ => some (sessionId, ⟨bus, addr⟩)
  | bulk sessionId bus addr _ _ _ _ => some (sessionId, ⟨bus, addr⟩)
  | interrupt sessionId bus addr _ _ _ _ => some (sessionId, ⟨bus, addr⟩)

end Command

/-! ## A run of a command -/

/-- The event is on connection `c`. -/
def Event.isOn (c : Nat) : Event → Bool
  | .accept _ => false
  | .receive c' _ _ => c' == c
  | .hangup c' _ => c' == c

/-- What the outside decides while a command runs: its nonce, what happens
elsewhere before its Hello is served, before its request is and before its
connection ends, and how each of these is served. -/
structure CommandEnv where
  peerAddr : SocketAddr
  authNonce : Vector UInt8 32
  beforeHello : List Event := []
  beforeRequest : List Event := []
  beforeExit : List Event := []
  hello : Outcome := {}
  request : Outcome := {}
  exit : Outcome := {}

/-- A reply as the client gets it: if it was not sent, the stream ends. -/
def Outcome.deliver (o : Outcome) (out : Output) : NextFrame :=
  if o.sent then out.reply.map .ok else none

/-- A run of a command up to its request: the server that served the
request, before and after, what was seen of that, and the result. -/
structure Ran (W : Type) where
  ready : Server W
  served : Server W
  out : Output
  result : Except WolfUsbError Session.Returned

section

variable {W : Type} (p : Platform W) (debug : Message → String)

/-- Events on other connections than `c`. -/
def Server.elsewhere (c : Nat) (es : List Event) (sv : Server W) : Option (Server W) :=
  if es.any (Event.isOn c) then none else play (Server.next p) sv es

/-- `client_session` and the call. A command that cannot connect makes none. -/
def Command.serve (key : Option Bytes) (cmd : Command) (env : CommandEnv) (sv : Server W) :
    Option (Ran W) := do
  let c := sv.accepted
  let sv ← sv.next p (.accept env.peerAddr)
  let sv ← sv.elsewhere p c env.beforeHello
  let hello := Session.helloMessage p "wolfusb-cli" key env.authNonce
  let (sv, helloOut) ← sv.step p (.receive c hello env.hello)
  match Session.connect p debug key env.authNonce (.ok ()) (env.hello.deliver helloOut) with
  | .error _ => none
  | .ok _ =>
      let ready ← sv.elsewhere p c env.beforeRequest
      let (served, out) ← ready.step p (.receive c cmd.call.request env.request)
      let result := cmd.call.run debug (.ok ()) (env.request.deliver out)
      some { ready, served, out, result }

/-- The command exits, and the server sees the end of its connection. -/
def Command.run (key : Option Bytes) (cmd : Command) (env : CommandEnv) (sv : Server W) :
    Option (Ran W × Server W) := do
  let ran ← cmd.serve p debug key env sv
  let sv' ← ran.served.elsewhere p sv.accepted env.beforeExit
  let sv' ← sv'.next p (.hangup sv.accepted env.exit)
  some (ran, sv')

end

end WolfUsb
