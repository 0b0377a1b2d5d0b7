/-
WolfUsb.Server.InFlight — transfers outside the lock.

`handle_control_transfer` and its siblings hold the manager's lock while
they check the session and get the handle, and give it back before they
run the transfer, which may take as long as the device does. `Server.step`
takes the two parts as one step. Here they are two, `lookup` and
`execute`, and what the other connections do in between is served.

A connection serves one message after the other, so while its transfer is
in flight it reads nothing.
-/
import WolfUsb.Server.ManagerRuns

namespace WolfUsb

variable {W : Type} (p : Platform W)

namespace TransferRequest

def sessionId : TransferRequest → UInt64
  | control req => req.sessionId
  | bulk req => req.sessionId
  | interrupt req => req.sessionId

/-- The message that carries the request. -/
def message : TransferRequest → Message
  | control req => .controlTransfer req
  | bulk req => .bulkTransfer req
  | interrupt req => .interruptTransfer req

end TransferRequest

/-- A transfer that has its handle and has not run yet. -/
structure Flight where
  request : TransferRequest
  handle : Handle

/-- A server with the transfers that are in flight on its connections. -/
structure Airborne (W : Type) where
  audited : Audited W
  flights : Nat → Option Flight

inductive AirborneEvent where
  /-- A connection without a transfer in flight is served. -/
  | serve (e : Event)
  /-- A transfer message has come, and its handle is looked up. -/
  | lookup (c : Nat) (request : TransferRequest)
  /-- The blocking task of the transfer ends, and the reply is sent. -/
  | execute (c : Nat) (o : Outcome)

/-- The USB side has changed. -/
def Audited.inWorld (a : Audited W) (world : W) : Audited W :=
  { a with server := { a.server with world } }

namespace Airborne

def start (sharedKey : Option Bytes) (tls : Bool) (world : W) : Airborne W where
  audited := .start sharedKey tls world
  flights _ := none

/-- A transfer refused before it has a handle is answered at once, which is
`serve`. A reply that cannot be sent ends the connection, as the end of its
stream does. -/
def step (s : Airborne W) : AirborneEvent → Option (Airborne W)
  | .serve e =>
      if ∃ c ∈ e.connection, (s.flights c).isSome = true then none
      else (s.audited.step p e).map fun audited => { s with audited }
  | .lookup c request =>
      match s.flights c, s.audited.server.connections.lookup c with
      | none, some conn =>
          if conn.gated then none
          else
            match conn.transferHandle p request.sessionId request.deviceId
                s.audited.server.shared with
            | (.error _, _) => none
            | (.ok handle, sh) =>
                some
                  { audited := s.audited.inWorld sh.bus.world
                    flights := Function.update s.flights c (some ⟨request, handle⟩) }
      | _, _ => none
  | .execute c o =>
      match s.flights c with
      | none => none
      | some f =>
          let (_, sh) := spawnBlocking o.join (Shared.reading (f.request.execute p f.handle))
            s.audited.server.shared
          let audited := s.audited.inWorld sh.bus.world
          let flights := Function.update s.flights c none
          if o.sent then some { audited, flights }
          else (audited.step p (.hangup c o)).map fun audited => { audited, flights }

abbrev Steps : Airborne W → AirborneEvent → Airborne W → Prop := Lib.Guarded (step p)

end Airborne

end WolfUsb
