/-
WolfUsb.Server.Registry — who holds which device, and the atomic
operations every run of the server is made of.

The manager stores neither the connection nor the session an attachment
was made for, so the question "whose attachment is this?" is answered
from the run. `Audited.step` plays the server and writes down, for every
attached device, the `Grant` of the Attach that attached it, and every
session id an Attach returned; the server does not see these notes.

`Registry` is the server reduced to what decides ownership: the sessions
table of every live connection, the manager, and the notes. Its
operations (`Registry.Step`) are the abstract commands of an exclusive
lease: attach, detach, refuse, close. A step of the server is a sequence
of them (`Server.RegistryRefinement`), which is how every invariant below
is proved one small operation at a time.
-/
import WolfUsb.Server.DeviceManagerTheorems
import WolfUsb.Server.Listener

namespace WolfUsb

/-! ## Notes on a run -/

/-- The Attach an attachment comes from: the connection that sent it, the
session id it returned and the handle it opened. -/
structure Grant where
  conn : Nat
  session : UInt64
  handle : Handle
  deriving DecidableEq, Repr

/-- The notes: for every attached device its grant, and the session ids
returned so far with the connections they were returned to. -/
structure Audit where
  grants : DeviceId → Option Grant
  issued : List (Nat × UInt64)

/-- The Attach an event carried out: connection, device, session id. -/
def attachedBy : Event → Output → Option (Nat × DeviceId × UInt64)
  | .receive c (.attach req) _, out =>
      match out.reply with
      | some (.attachResult resp) =>
          if resp.success then resp.sessionId.map fun s => (c, req.deviceId, s) else none
      | _ => none
  | _, _ => none

/-- The notes after an event that left the manager `m`: a device that is
not attached has no grant, one attached by this event has this event's,
and every other keeps its own. -/
def Audit.record (a : Audit) (e : Event) (out : Output) (m : DeviceManager) : Audit :=
  match attachedBy e out with
  | none => { a with grants := fun x => if x ∈ m.attachments then a.grants x else none }
  | some (c, d, s) =>
      { grants := fun x =>
          if x = d then (m.attachments.lookup d).map fun info => ⟨c, s, info.handle⟩
          else if x ∈ m.attachments then a.grants x else none
        issued := a.issued ++ [(c, s)] }

/-- A server and the notes on its run. -/
structure Audited (W : Type) where
  server : Server W
  audit : Audit

namespace Audited

variable {W : Type} (p : Platform W)

def start (sharedKey : Option Bytes) (tls : Bool) (world : W) : Audited W where
  server := .start sharedKey tls world
  audit := ⟨fun _ => none, []⟩

def step (a : Audited W) (e : Event) : Option (Audited W) :=
  match a.server.step p e with
  | none => none
  | some (sv, out) => some ⟨sv, a.audit.record e out sv.manager⟩

/-- The notes do not influence the server. -/
theorem step_server (a : Audited W) (e : Event) :
    (a.step p e).map Audited.server = a.server.next p e := by
  unfold step Server.next
  cases a.server.step p e <;> rfl

end Audited

/-! ## The registry -/

/-- The server reduced to what decides ownership. -/
@[ext] structure Registry where
  tables : Nat → Option (HashMap UInt64 DeviceId)
  manager : DeviceManager
  grants : DeviceId → Option Grant
  issued : List (Nat × UInt64)

/-- An operation on the registry. `touch` rewrites the entry of an
attached device in place. -/
inductive RegOp where
  | accept (c : Nat)
  | attach (c : Nat) (d : DeviceId) (info : AttachmentInfo)
  | detach (c : Nat) (d : DeviceId) (s : UInt64)
  | refuse (c : Nat) (d : DeviceId) (s : UInt64)
  | touch
  | close (c : Nat)

namespace Registry

def empty : Registry := ⟨fun _ => none, .new, fun _ => none, []⟩

/-- Connection `c` has the table `t`. -/
def withTable (r : Registry) (c : Nat) (t : Option (HashMap UInt64 DeviceId)) :
    Nat → Option (HashMap UInt64 DeviceId) :=
  Function.update r.tables c t

section Tables

variable (r : Registry) (c : Nat) (t : Option (HashMap UInt64 DeviceId))

@[simp] theorem withTable_self : r.withTable c t c = t := Function.update_self ..

@[simp] theorem withTable_of_ne {x : Nat} (h : x ≠ c) : r.withTable c t x = r.tables x :=
  Function.update_of_ne h ..

end Tables

/-- What the operations do, each from the states in which the server can
perform it. `detach` takes the device and the session separately, as the
manager does. -/
inductive Step (r : Registry) : RegOp → Registry → Prop
  | accept {c : Nat} (hc : r.tables c = none) :
      Step r (.accept c) { r with tables := r.withTable c (some ∅) }
  | attach {c : Nat} {t : HashMap UInt64 DeviceId} {d : DeviceId} {info : AttachmentInfo}
      (hc : r.tables c = some t) (hd : d ∉ r.manager.attachments) :
      Step r (.attach c d info)
        { tables := r.withTable c (some (t.insert r.manager.nextSessionId d))
          manager := r.manager.register d info
          grants := Function.update r.grants d
            (some ⟨c, r.manager.nextSessionId, info.handle⟩)
          issued := r.issued ++ [(c, r.manager.nextSessionId)] }
  | detach {c : Nat} {t : HashMap UInt64 DeviceId} {d : DeviceId} {s : UInt64}
      (hc : r.tables c = some t) (hs : s ∈ t) (hd : d ∈ r.manager.attachments) :
      Step r (.detach c d s)
        { r with
          tables := r.withTable c (some (t.erase s))
          manager := r.manager.forget d s
          grants := Function.update r.grants d none }
  | refuse {c : Nat} {t : HashMap UInt64 DeviceId} {d : DeviceId} {s : UInt64}
      (hc : r.tables c = some t) (hs : s ∈ t) (hd : d ∉ r.manager.attachments) :
      Step r (.refuse c d s) { r with tables := r.withTable c (some (t.erase s)) }
  | touch {m' : DeviceManager} (hm : r.manager.Touches m') : Step r .touch { r with manager := m' }
  | close {c : Nat} {t : HashMap UInt64 DeviceId} (hc : r.tables c = some t) :
      Step r (.close c) { r with tables := r.withTable c none }

end Registry

/-- The registry of an audited server. -/
def Audited.registry {W : Type} (a : Audited W) : Registry where
  tables c := (a.server.connections.lookup c).map Connection.sessions
  manager := a.server.manager
  grants := a.audit.grants
  issued := a.audit.issued

/-- The table of a connection that is being served. -/
theorem Audited.registry_table {W : Type} {a : Audited W} {c : Nat} {conn : Connection}
    (h : a.server.connections.lookup c = some conn) :
    a.registry.tables c = some conn.sessions :=
  Option.map_eq_some_iff.mpr ⟨conn, h, rfl⟩

/-! ## Which operations an event performs -/

/-- The event is the last one of connection `c`. -/
def Audited.Ends {W : Type} (p : Platform W) (a : Audited W) (e : Event) (c : Nat) : Prop :=
  ∀ a', a.step p e = some a' → a'.registry.tables c = none

/-- The event hands the stream of connection `c` off to its bridge. -/
def Server.handsOff {W : Type} (p : Platform W) (sv : Server W) (c : Nat) : Event → Bool
  | .receive c' msg o =>
      c' == c && o.sent && o.flushed &&
        match sv.connections.lookup c with
        | none => false
        | some conn =>
            match conn.handleMessage p o.join msg sv.shared with
            | (.bridge _ _, _) => true
            | (.reply _, _) => false
  | _ => false

/-- `Caused p a e r op`: serving `e` in `a` may perform `op`, when the
registry has come to `r`. A message performs its own operation first, so
`r` is then still `a`'s; cleanup detaches each session from the device the
manager has for it, and closes the table when nothing is left to detach,
unless its task was lost; a hand-off closes the table as it stands. -/
inductive Caused {W : Type} (p : Platform W) (a : Audited W) : Event → Registry → RegOp → Prop
  | accept {addr : SocketAddr} :
      Caused p a (.accept addr) a.registry (.accept a.server.accepted)
  | attach {c : Nat} {d : DeviceId} {info : AttachmentInfo} {o : Outcome} :
      Caused p a (.receive c (.attach ⟨d⟩) o) a.registry (.attach c d info)
  | detach {c : Nat} {d : DeviceId} {s : UInt64} {o : Outcome} (hj : o.join = none) :
      Caused p a (.receive c (.detach ⟨d, s⟩) o) a.registry (.detach c d s)
  | refuse {c : Nat} {d : DeviceId} {s : UInt64} {o : Outcome} (hj : o.join = none) :
      Caused p a (.receive c (.detach ⟨d, s⟩) o) a.registry (.refuse c d s)
  | touch {e : Event} {r : Registry} : Caused p a e r .touch
  | sweep {e : Event} {r : Registry} {c : Nat} {d : DeviceId} {s : UInt64} (hc : a.Ends p e c)
      (hs : r.manager.sessionToDevice.lookup s = some d) : Caused p a e r (.detach c d s)
  | swept {e : Event} {r : Registry} {c : Nat}
      (ht : ∀ t s d, r.tables c = some t → s ∈ t →
        r.manager.sessionToDevice.lookup s = some d → d ∉ r.manager.attachments) :
      Caused p a e r (.close c)
  | lost {e : Event} {r : Registry} {c : Nat} {o : Outcome} (he : o ∈ e.outcome c)
      (hj : o.cleanupJoin ≠ none) : Caused p a e r (.close c)
  | handOff {e : Event} {r : Registry} {c : Nat} (hh : a.server.handsOff p c e = true)
      (hr : r.tables c = a.registry.tables c) : Caused p a e r (.close c)

end WolfUsb
