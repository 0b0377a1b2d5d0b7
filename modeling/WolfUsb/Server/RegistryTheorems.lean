/-
WolfUsb.Server.RegistryTheorems — the manager's two maps agree: the
sessions number the attached devices exactly.

`Consistent` is the invariant the manager relies on. Each manager
operation keeps it under an exact condition: `register` when the session
id it takes is unused, `forget` when the session it is given is the
device's own. `detach` does not check the second, and `handle_detach`
checks only that the session is in the connection's table, so a client
with two sessions, or two clients together, can break the maps apart
(`crossed_detach_breaks_registry`). Runs whose Detach requests name the
device of their session keep them together (`registry_consistent`).
-/
import WolfUsb.Lib.Indexing
import WolfUsb.Server.RegistryRefinement

namespace WolfUsb

open WolfUsb.Lib

variable {W : Type} (p : Platform W)

/-! ## The invariant and the manager's operations -/

/-- `session_to_device` is injective and its devices are exactly the keys
of `attachments`. -/
def DeviceManager.Consistent (m : DeviceManager) : Prop :=
  Indexes (fun s => m.sessionToDevice.lookup s) {d | d ∈ m.attachments}

namespace DeviceManager

theorem consistent_new : DeviceManager.new.Consistent := by
  have hset : {d | d ∈ DeviceManager.new.attachments} = (∅ : Set DeviceId) :=
    Set.eq_empty_of_forall_notMem fun d => Finmap.notMem_empty
  rw [Consistent, hset]
  exact indexes_empty

/-- Attaching a new device keeps the maps together exactly when the
counter gives a session id that is not in use. -/
theorem consistent_register_iff {m : DeviceManager} (h : m.Consistent) {d : DeviceId}
    (hd : d ∉ m.attachments) (info : AttachmentInfo) :
    (m.register d info).Consistent ↔ m.sessionToDevice.lookup m.nextSessionId = none := by
  rw [← Indexes.insert_iff h m.nextSessionId hd]
  have hset : {x | x ∈ (m.register d info).attachments} = insert d {x | x ∈ m.attachments} := by
    ext x
    exact register_mem m d x info
  rw [Consistent, hset]
  exact iff_of_eq (congrArg (Indexes · _) (lookup_insert_fun ..))

/-- Detaching an attached device keeps the maps together exactly when the
session it is detached with is its own. -/
theorem consistent_forget_iff {m : DeviceManager} (h : m.Consistent) {d : DeviceId}
    (hd : d ∈ m.attachments) (s : UInt64) :
    (m.forget d s).Consistent ↔ m.sessionToDevice.lookup s = some d := by
  rw [← Indexes.erase_iff h s hd]
  have hset : {x | x ∈ (m.forget d s).attachments} = {x | x ∈ m.attachments} \ {d} := by
    ext x
    exact (forget_mem m d x s).trans and_comm
  rw [Consistent, hset]
  exact iff_of_eq (congrArg (Indexes · _) (lookup_erase_fun ..))

theorem consistent_touches {m m' : DeviceManager} (h : m.Consistent) (ht : m.Touches m') :
    m'.Consistent := by
  have hset : {x | x ∈ m'.attachments} = {x | x ∈ m.attachments} := by
    ext x
    exact touches_mem ht x
  rw [Consistent, hset]
  cases ht with
  | same => exact h
  | entry _ _ => exact h

end DeviceManager

/-! ## Conditions on requests -/

/-- The Detach request an event carries, when its blocking task is not lost. -/
def Event.detaching : Event → Option (Nat × DetachRequest)
  | .receive c (.detach req) o => if o.join = none then some (c, req) else none
  | _ => none

/-- The Attach request an event carries. -/
def Event.attaching : Event → Option (Nat × AttachRequest)
  | .receive c (.attach req) _ => some (c, req)
  | _ => none

namespace Server

/-- Session `s` is in the table of connection `c`. -/
def Holds (sv : Server W) (c : Nat) (s : UInt64) : Prop :=
  ∃ conn ∈ sv.connections.lookup c, s ∈ conn.sessions

/-- A Detach request that gets past its connection's table and names an
attached device names the device the manager has for its session. -/
def DetachMatches (sv : Server W) (e : Event) : Prop :=
  ∀ q ∈ e.detaching, sv.Holds q.1 q.2.sessionId → q.2.deviceId ∈ sv.manager.attachments →
    sv.manager.sessionToDevice.lookup q.2.sessionId = some q.2.deviceId

/-- An Attach request finds the session counter at an id that is not in
use. -/
def TicketUnused (sv : Server W) (e : Event) : Prop :=
  ∀ q ∈ e.attaching, q.2.deviceId ∉ sv.manager.attachments →
    sv.manager.sessionToDevice.lookup sv.manager.nextSessionId = none

instance (sv : Server W) (c : Nat) (s : UInt64) : Decidable (sv.Holds c s) :=
  inferInstanceAs (Decidable (∃ conn ∈ sv.connections.lookup c, s ∈ conn.sessions))

instance (sv : Server W) (e : Event) : Decidable (sv.DetachMatches e) :=
  inferInstanceAs (Decidable (∀ q ∈ e.detaching, _ → _ → _))

instance (sv : Server W) (e : Event) : Decidable (sv.TicketUnused e) :=
  inferInstanceAs (Decidable (∀ q ∈ e.attaching, _ → _))

end Server

/-- The operation keeps the manager's maps together: an attach takes an
unused session id, a detach the session of its device. -/
def Registry.Fits (r : Registry) : RegOp → Prop
  | .attach _ _ _ => r.manager.sessionToDevice.lookup r.manager.nextSessionId = none
  | .detach _ d s => r.manager.sessionToDevice.lookup s = some d
  | _ => True

theorem Registry.consistent_step {r r' : Registry} {op : RegOp} (h : r.manager.Consistent)
    (hfit : r.Fits op) (hstep : r.Step op r') : r'.manager.Consistent := by
  cases hstep with
  | attach hc hd => exact (DeviceManager.consistent_register_iff h hd _).mpr hfit
  | detach hc hs hd => exact (DeviceManager.consistent_forget_iff h hd _).mpr hfit
  | touch hm => exact DeviceManager.consistent_touches h hm
  | accept hc => exact h
  | refuse hc hs hd => exact h
  | close hc => exact h

/-- The operations caused by an event that meets the conditions fit. A
cleanup asks the manager for the device of each session, so its detaches
fit whatever the clients send. -/
theorem Caused.fits {p : Platform W} {a : Audited W} {e : Event} {r r' : Registry} {op : RegOp}
    (hdetach : a.server.DetachMatches e) (hticket : a.server.TicketUnused e)
    (hcause : Caused p a e r op) (hstep : r.Step op r') : r.Fits op := by
  cases hstep with
  | attach hc hd =>
      cases hcause with
      | attach => exact hticket (_, ⟨_⟩) rfl hd
  | detach hc hs hd =>
      cases hcause with
      | sweep hends hsd => exact hsd
      | detach hj =>
          obtain ⟨conn, hconn, rfl⟩ := Option.map_eq_some_iff.mp hc
          exact hdetach (_, ⟨_, _⟩) (by simp [Event.detaching, hj]) ⟨conn, hconn, hs⟩ hd
  | touch hm => trivial
  | accept hc => trivial
  | refuse hc hs hd => trivial
  | close hc => trivial

/-! ## Runs -/

theorem audited_next (t : Audited W) (e : Event) (t' : Audited W) (h : Audited.Steps p t e t') :
    Guarded (Server.next p) t.server e t'.server := by
  have h' := Audited.step_server p t e
  rw [show t.step p e = some t' from h] at h'
  exact h'.symm

theorem next_audited (t : Audited W) (e : Event) (sv : Server W)
    (h : Guarded (Server.next p) t.server e sv) : ∃ t', Audited.Steps p t e t' ∧ t'.server = sv := by
  have h' := Audited.step_server p t e
  rw [show t.server.next p e = some sv from h] at h'
  exact Option.map_eq_some_iff.mp h'

/-- **The maps stay together** in every state of a run in which every
Detach request that names an attached device names that of its session,
and the counter does not come round to an id in use. -/
theorem registry_consistent (sharedKey : Option Bytes) (tls : Bool) (world : W)
    {es : List Event}
    (hC : StepsAlong (Guarded (Server.next p)) (fun sv e => sv.DetachMatches e ∧ sv.TicketUnused e)
      (.start sharedKey tls world) es) :
    StatesAlong (Guarded (Server.next p)) (fun sv => sv.manager.Consistent)
      (.start sharedKey tls world) es := by
  have hstates := registry_invariant p (I := fun r => r.manager.Consistent)
    (C := fun a e => a.server.DetachMatches e ∧ a.server.TicketUnused e)
    (fun a e r op r' hC' hcause hstep hI =>
      Registry.consistent_step hI (hcause.fits hC'.1 hC'.2 hstep) hstep)
    (Audited.ok_start sharedKey tls world) DeviceManager.consistent_new
    (StepsAlong.lift (π := Audited.server) (t := .start sharedKey tls world) (audited_next p) hC)
  exact StatesAlong.project (π := Audited.server) (t := .start sharedKey tls world)
    (next_audited p) (hstates.mono fun a ha => ha.2)

/-- Connection 0 has device 1:2 under session 1, connection 1 has 1:3
under session 2, and connection 0 detaches 1:3 with its own session. -/
def crossedDetach : List Event :=
  [.accept ⟨"10.0.0.1", 4000⟩, .accept ⟨"10.0.0.2", 4000⟩, .receive 0 (.attach ⟨⟨1, 2⟩⟩) {},
    .receive 1 (.attach ⟨⟨1, 3⟩⟩) {}, .receive 0 (.detach ⟨⟨1, 3⟩, 1⟩) {}]

/-- Session 2 is left with a device that is not attached. -/
theorem crossed_detach_breaks_registry :
    ∃ sv, Run (Guarded (Server.next twoDeviceHost)) (.start none false 0) crossedDetach sv ∧
      sv.manager.sessionToDevice.lookup 2 = some ⟨1, 3⟩ ∧ ⟨1, 3⟩ ∉ sv.manager.attachments ∧
      ¬ sv.manager.Consistent := by
  have hplay : (play (Server.next twoDeviceHost) (.start none false 0) crossedDetach).map
      (fun sv => (sv.manager.sessionToDevice.lookup 2, decide (⟨1, 3⟩ ∈ sv.manager.attachments)))
      = some (some ⟨1, 3⟩, false) := by decide +kernel
  obtain ⟨sv, hsv, heq⟩ := Option.map_eq_some_iff.mp hplay
  obtain ⟨hs, hd⟩ := Prod.mk.inj heq
  have hd : (⟨1, 3⟩ : DeviceId) ∉ sv.manager.attachments := of_decide_eq_false hd
  refine ⟨sv, play_iff_run.mp hsv, hs, hd, fun h => hd ((h.range _).mpr ⟨2, hs⟩)⟩

/-- Two clients that each attach a device, of which one detaches its own. -/
theorem registry_consistent_two_clients :
    StatesAlong (Guarded (Server.next twoDeviceHost)) (fun sv => sv.manager.Consistent)
      (.start none false 0)
      [.accept ⟨"10.0.0.1", 4000⟩, .accept ⟨"10.0.0.2", 4000⟩, .receive 0 (.attach ⟨⟨1, 2⟩⟩) {},
        .receive 1 (.attach ⟨⟨1, 3⟩⟩) {}, .receive 0 (.detach ⟨⟨1, 2⟩, 1⟩) {}] :=
  registry_consistent twoDeviceHost none false 0 (by decide +kernel)

end WolfUsb
