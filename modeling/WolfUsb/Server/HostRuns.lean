/-
WolfUsb.Server.HostRuns — what the server and its bridge tasks do to the
devices.

`Host.step` keeps the files a bridge task works on apart from the world the
USB calls see, but they are about the same devices: a write to a driver's
`unbind` takes the drivers of all interfaces away. In `Host.act` every
operation of a task may do to the drivers and claims of its target what it
likes, and `SysfsEffect.Confined` says that it does nothing else. So what
the manager's books say of a device is only to be had for one that no
connection was handed off for.

* `server_accounts_for_drivers`: the books account for every kernel driver and
  every claim of such a device, in every state of every run.
* `quiet_server_holds_nothing`: when the last connection has ended in an
  orderly way, nothing is attached and the drivers of such a device are back.
-/
import WolfUsb.Server.ExclusionTheorems
import WolfUsb.Server.ManagerRuns

namespace WolfUsb

open WolfUsb.Lib KernelUsbip

variable {W : Type} {p : Platform W} {view : W → Interfaces}

/-! ## The tasks and the interfaces -/

/-- `s'` differs from `s` in the drivers of `d` and the claims of handles
that are open on `d`. -/
structure Interfaces.Disturbs (d : DeviceId) (s s' : Interfaces) : Prop where
  device : s'.device = s.device
  driver : ∀ x, x ≠ d → s'.driver x = s.driver x
  claimed : ∀ h, s.device h ≠ some d → s'.claimed h = s.claimed h

/-- What an operation of a bridge task for a device does to the world the
USB calls see. -/
def SysfsEffect (W : Type) := DeviceId → Bridge.Pc → Bridge.BridgeEnv → W → W

/-- An operation for a device touches no other. -/
def SysfsEffect.Confined (effect : SysfsEffect W) (view : W → Interfaces) : Prop :=
  ∀ d pc env w, (view w).Disturbs d (view (effect d pc env w))

/-- A device that was not the target goes on as the books say. -/
theorem Custody.Restorable.disturb {m : HashMap DeviceId AttachmentInfo} {s s' : Interfaces}
    {d x : DeviceId} {original : UInt8 → DriverState} (hl : Custody.Linked ⟨m, s⟩)
    (h : Custody.Restorable d original ⟨m, s⟩) (hx : s.Disturbs x s') (hne : d ≠ x) :
    Custody.Restorable d original ⟨m, s'⟩ := by
  refine h.frame rfl (hx.driver d hne) ?_
  intro info hinfo
  refine hx.claimed info.handle ?_
  rw [hl d info hinfo]
  simpa using hne

namespace Host

variable {effect : SysfsEffect W}

def withWorld (h : Host W) (w : W) : Host W :=
  { h with audited := ⟨{ h.audited.server with world := w }, h.audited.audit⟩ }

/-- A step of the host, in which an operation of a task has its effect. -/
def act (p : Platform W) (effect : SysfsEffect W) (h : Host W) : HostEvent → Option (Host W)
  | .bridge c env => (h.tasks.lookup c).map fun t =>
      (h.operate c t env).withWorld (effect t.target t.pc env h.audited.server.world)
  | e => h.step p e

/-- A task was started for the device, whether or not it has returned. -/
def Bridged (h : Host W) (d : DeviceId) : Prop :=
  ∃ c t, h.tasks.lookup c = some t ∧ t.target = d

/-- What one step may do. -/
inductive ActsTo (p : Platform W) (effect : SysfsEffect W) (h : Host W) :
    HostEvent → Host W → Prop
  | server {e : Event} {sv : Server W} {out : Output}
      (hs : h.audited.server.step p e = some (sv, out)) :
      ActsTo p effect h (.server e)
        { h with
          audited := ⟨sv, h.audited.audit.record e out sv.manager⟩
          tasks := spawn h.tasks e out }
  | bridge {c : Nat} {env : Bridge.BridgeEnv} {t : BridgeTask} (ht : h.tasks.lookup c = some t) :
      ActsTo p effect h (.bridge c env)
        ((h.operate c t env).withWorld (effect t.target t.pc env h.audited.server.world))
  | letGo (d : DeviceId) :
      ActsTo p effect h (.letGo d)
        { h with devices := Function.update h.devices d (h.devices d).letGo }

theorem act_cases {h h' : Host W} {e : HostEvent} (hstep : h.act p effect e = some h') :
    ActsTo p effect h e h' := by
  cases e with
  | server e =>
      simp only [act, step] at hstep
      split at hstep
      · cases hstep
      · rename_i sv out hs
        cases hstep
        exact .server hs
  | bridge c env =>
      obtain ⟨t, ht, rfl⟩ := Option.map_eq_some_iff.mp hstep
      exact .bridge ht
  | letGo d =>
      cases hstep
      exact .letGo d

theorem audited_step {h : Host W} {sv : Server W} {e : Event} {out : Output}
    (hs : h.audited.server.step p e = some (sv, out)) :
    h.audited.step p e = some ⟨sv, h.audited.audit.record e out sv.manager⟩ := by
  simp [Audited.step, hs]

/-! ## The tasks -/

/-- The tasks are of connections that were accepted and are not served any
more, so that no other task takes their place. -/
def HandedOff (h : Host W) : Prop :=
  ∀ c t, h.tasks.lookup c = some t →
    c < h.audited.server.accepted ∧ h.audited.server.connections.lookup c = none

/-- A task after an event of the server was there before, or is that of
the connection the event handed off. -/
theorem spawn_cases {h : Host W} {sv : Server W} {e : Event} {out : Output} {c : Nat}
    {t : BridgeTask} (hs : h.audited.server.step p e = some (sv, out))
    (ht : (spawn h.tasks e out).lookup c = some t) :
    h.tasks.lookup c = some t ∨
      (∃ conn, h.audited.server.connections.lookup c = some conn) ∧
        sv.connections.lookup c = none := by
  cases hout : out.bridge with
  | none =>
      rw [spawn_none hout] at ht
      exact Or.inl ht
  | some target =>
      cases Server.step_cases p hs with
      | @handOff c' msg o conn conn' resp target' sh hc hm hsent =>
          simp only [spawn, hout] at ht
          rw [lookup_insert_eq] at ht
          split at ht
          · rename_i heq
            subst heq
            exact Or.inr ⟨⟨conn, hc⟩, Finmap.lookup_erase ..⟩
          · exact Or.inl ht
      | _ => cases hout

/-- No event of the server takes a task away. -/
theorem spawn_keeps {h : Host W} {sv : Server W} {e : Event} {out : Output} {c : Nat}
    {t : BridgeTask} (hd : h.HandedOff) (hs : h.audited.server.step p e = some (sv, out))
    (ht : h.tasks.lookup c = some t) : (spawn h.tasks e out).lookup c = some t := by
  cases hout : out.bridge with
  | none =>
      rw [spawn_none hout]
      exact ht
  | some target =>
      obtain ⟨c', o, conn, rfl, hconn, -, -⟩ := spawned p hs hout
      simp only [spawn, hout]
      rw [lookup_insert_eq, if_neg]
      · exact ht
      · rintro rfl
        rw [(hd c t ht).2] at hconn
        cases hconn

theorem HandedOff.server {h : Host W} {sv : Server W} {e : Event} {out : Output} (hd : h.HandedOff)
    (hok : h.audited.Ok) (hs : h.audited.server.step p e = some (sv, out)) :
    HandedOff { h with
      audited := ⟨sv, h.audited.audit.record e out sv.manager⟩
      tasks := spawn h.tasks e out } := by
  intro c t ht
  have hstep := Server.step_cases p hs
  rcases spawn_cases hs ht with hold | ⟨⟨conn, hconn⟩, hgone⟩
  · obtain ⟨haccepted, hended⟩ := hd c t hold
    refine ⟨Nat.lt_of_lt_of_le haccepted hstep.accepted_le, ?_⟩
    -- a connection that has ended is not accepted again and handles nothing
    rw [Option.eq_none_iff_forall_ne_some]
    intro conn' hconn'
    rcases hstep.connection_after hconn' with ⟨addr, -, heq, -⟩ | hlive |
      ⟨msg, o, conn, sh, -, hlive, -⟩
    · omega
    · rw [hended] at hlive
      cases hlive
    · rw [hended] at hlive
      cases hlive
  · refine ⟨Nat.lt_of_lt_of_le (Nat.lt_of_not_le fun hge => ?_) hstep.accepted_le, hgone⟩
    rw [hok.fresh c hge] at hconn
    cases hconn

theorem HandedOff.bridge {h : Host W} {c : Nat} {t : BridgeTask} {env : Bridge.BridgeEnv} {w : W}
    (hd : h.HandedOff) (ht : h.tasks.lookup c = some t) :
    ((h.operate c t env).withWorld w).HandedOff := by
  intro x t' ht'
  have hlook : (h.tasks.insert c { t with pc := _ }).lookup x = some t' := ht'
  rw [lookup_insert_eq] at hlook
  split at hlook
  · rename_i heq
    subst heq
    exact hd x t ht
  · exact hd x t' hlook

/-- A device that was bridged stays so. -/
theorem Bridged.act {h h' : Host W} {e : HostEvent} {d : DeviceId} (hd : h.HandedOff)
    (hb : h.Bridged d) (hstep : ActsTo p effect h e h') : h'.Bridged d := by
  obtain ⟨c, t, ht, htarget⟩ := hb
  cases hstep with
  | server hs => exact ⟨c, t, spawn_keeps hd hs ht, htarget⟩
  | @bridge c₀ env t₀ ht₀ =>
      by_cases hc : c = c₀
      · subst hc
        obtain rfl := Option.some.inj (ht.symm.trans ht₀)
        exact ⟨c, _, Finmap.lookup_insert _, htarget⟩
      · exact ⟨c, t, (Finmap.lookup_insert_of_ne _ hc).trans ht, htarget⟩
  | letGo x => exact ⟨c, t, ht, htarget⟩

end Host

/-! ## Drivers and claims -/

/-- What the books of a server say about a device, and the host has: the
drivers are the original ones but for those listed as detached, and no
claim of the handle is missing from the list. -/
structure Server.Accounts (view : W → Interfaces) (d : DeviceId)
    (original : UInt8 → DriverState) (sv : Server W) : Prop where
  free : d ∉ sv.manager.attachments → (view sv.world).driver d = original
  held : ∀ info, sv.manager.attachments.lookup d = some info →
    (view sv.world).device info.handle = some d ∧
      (∀ i, (view sv.world).claimed info.handle i = true → i ∈ info.claimedInterfaces) ∧
      ∀ i, (view sv.world).driver d i =
        if i ∈ info.detachedKernelDrivers then .detached else original i

theorem Server.accounts_of_restorable {d : DeviceId} {original : UInt8 → DriverState}
    {sv : Server W} (hl : (sv.shared.custody view).Linked)
    (h : (sv.shared.custody view).Restorable d original) : sv.Accounts view d original where
  free := h.gone
  held info hinfo := ⟨hl d info hinfo, h.claims info hinfo, h.detached info hinfo⟩

/-- The event carries a SetConfiguration for the device. -/
def HostEvent.configures (d : DeviceId) : HostEvent → Bool
  | .server e => e.configures d
  | _ => false

namespace Host

variable {effect : SysfsEffect W}

/-- The invariant: unless `d` was bridged, the books beside its interfaces
say how they were. -/
structure Accounted (view : W → Interfaces) (d : DeviceId) (original : UInt8 → DriverState)
    (h : Host W) : Prop where
  ok : h.audited.Ok
  handedOff : h.HandedOff
  linked : (h.audited.server.shared.custody view).Linked
  restorable : ¬ h.Bridged d → (h.audited.server.shared.custody view).Restorable d original

theorem accounted_start (sharedKey : Option Bytes) (tls : Bool) (world : W)
    (devices : DeviceId → SysfsDevice) (d : DeviceId) :
    (Host.start sharedKey tls world devices).Accounted view d ((view world).driver d) where
  ok := Audited.ok_start sharedKey tls world
  handedOff c t ht := by
    have hempty : (∅ : HashMap Nat BridgeTask).lookup c = some t := ht
    rw [Finmap.lookup_empty] at hempty
    cases hempty
  linked := Shared.linked_fresh world
  restorable _ := Custody.Restorable.start (c := (Shared.fresh world).custody view)
    Finmap.notMem_empty

/-- **What a step keeps.** An event of the server does to the books and the
interfaces what the manager's operations do, and an operation of a task for
another device nothing that they are about. -/
theorem Accounted.step (hp : Interfaces.Keeps p view) (heffect : effect.Confined view)
    {d : DeviceId} {original : UInt8 → DriverState} {h h' : Host W} {e : HostEvent}
    (he : e.configures d = false) (hk : h.Accounted view d original)
    (hstep : ActsTo p effect h e h') : h'.Accounted view d original := by
  -- a device that is not bridged now never was
  have hbefore : ¬ h'.Bridged d → ¬ h.Bridged d := mt fun hb => hb.act hk.handedOff hstep
  cases hstep with
  | @server e sv out hs =>
      have hnext : h.audited.server.next p e = some sv := by simp [Server.next, hs]
      refine ⟨hk.ok.step p (audited_step hs), hk.handedOff.server hk.ok hs,
        Server.linked_step hp hnext hk.linked, ?_⟩
      intro hb
      exact (Server.restorable_step hp he hnext hk.linked (hk.restorable (hbefore hb))).2
  | @bridge c env t ht =>
      have hdisturbs := heffect t.target t.pc env h.audited.server.world
      refine ⟨⟨hk.ok.tight, hk.ok.fresh, hk.ok.known⟩, hk.handedOff.bridge ht, ?_, ?_⟩
      · intro x info hinfo
        show (view (effect t.target t.pc env h.audited.server.world)).device info.handle = some x
        rw [hdisturbs.device]
        exact hk.linked x info hinfo
      · intro hb
        refine (hk.restorable (hbefore hb)).disturb hk.linked hdisturbs ?_
        rintro rfl
        exact hbefore hb ⟨c, t, ht, rfl⟩
  | letGo x => exact ⟨hk.ok, hk.handedOff, hk.linked, fun hb => hk.restorable (hbefore hb)⟩

theorem accounted_along (hp : Interfaces.Keeps p view) (heffect : effect.Confined view)
    (sharedKey : Option Bytes) (tls : Bool) (world : W) (devices : DeviceId → SysfsDevice)
    {d : DeviceId} {es : List HostEvent} (hes : ∀ e ∈ es, e.configures d = false) :
    StatesAlong (Guarded (Host.act p effect))
      (fun h => h.Accounted view d ((view world).driver d))
      (.start sharedKey tls world devices) es := by
  refine statesAlong_of_stepsAlong ?_ (accounted_start sharedKey tls world devices d)
    (.of_forall hes)
  intro h e h' hk he hstep
  exact hk.step hp heffect he (act_cases hstep)

end Host

/-- The write to the `unbind` of its driver leaves no interface of a device
with a driver. -/
def unbindingHub : SysfsEffect (Handle × Interfaces)
  | d, .bind .unbindDriver, env, (next, s) =>
      if env.driverUnbound then
        (next, { s with driver := Function.update s.driver d fun _ => .none })
      else (next, s)
  | _, _, _, w => w

theorem unbindingHub_confined : unbindingHub.Confined Prod.snd := by
  rintro d pc env ⟨next, s⟩
  have hsame : s.Disturbs d s := ⟨rfl, fun _ _ => rfl, fun _ _ => rfl⟩
  cases pc with
  | bind b =>
      cases b with
      | unbindDriver =>
          by_cases hunbound : env.driverUnbound = true
          · simp only [unbindingHub, if_pos hunbound]
            exact ⟨rfl, fun x hx => Function.update_of_ne hx _ _, fun _ _ => rfl⟩
          · simp only [unbindingHub, if_neg hunbound]
            exact hsame
      | _ => exact hsame
  | _ => exact hsame

/-- Connection 0 attaches 1:2 and claims an interface of it; connection 1
bridges 1:3, and its task takes the drivers of 1:3 away; connection 2 lists
the devices; connection 0 is lost. -/
def hubRun : List HostEvent :=
  [.server (.accept ⟨"10.0.0.1", 4000⟩), .server (.accept ⟨"10.0.0.2", 4000⟩),
    .server (.accept ⟨"10.0.0.3", 4000⟩), .server (.receive 0 (.attach ⟨⟨1, 2⟩⟩) {}),
    .server (.receive 0 (.claimInterface ⟨1, ⟨1, 2⟩, 1⟩) {}),
    .server (.receive 1 (.bridge ⟨⟨1, 3⟩⟩) {})] ++
    List.replicate 10 (.bridge 1 { request := none }) ++
  [.server (.receive 2 .listDevices {}), .server (.hangup 0 { keys := [1] })]

/-- The task has taken the drivers of 1:3 away, and the manager has never
heard of it. -/
example : (play (Host.act hub unbindingHub) (.start none false hubStart normalDevices) hubRun).map
    (fun h => (h.audited.server.world.2.driver ⟨1, 3⟩ 1,
      decide (⟨1, 3⟩ ∈ h.audited.server.manager.attachments))) = some (.none, false) := by
  decide +kernel

/-! ## A server without clients -/

/-- The events of the server are tidy. -/
def Host.Tidy (p : Platform W) (h : Host W) : HostEvent → Prop
  | .server e => h.audited.Tidy p e
  | _ => True

instance (h : Host W) : ∀ e, Decidable (h.Tidy p e)
  | .server e => inferInstanceAs (Decidable (h.audited.Tidy p e))
  | .bridge _ _ => isTrue trivial
  | .letGo _ => isTrue trivial

theorem Host.secured_along {effect : SysfsEffect W} (sharedKey : Option Bytes) (tls : Bool)
    (world : W) (devices : DeviceId → SysfsDevice) {es : List HostEvent}
    (hC : StepsAlong (Guarded (Host.act p effect)) (fun h e => h.Tidy p e)
      (.start sharedKey tls world devices) es) :
    StatesAlong (Guarded (Host.act p effect))
      (fun h => h.audited.Ok ∧ ∀ c, h.audited.registry.Secured c)
      (.start sharedKey tls world devices) es := by
  refine statesAlong_of_stepsAlong ?_ (Audited.secured_start sharedKey tls world) hC
  intro h e h' hsecured htidy hstep
  cases act_cases hstep with
  | @server e sv out hs =>
      exact Audited.Tidy.secured htidy (audited_step hs) hsecured
  | bridge ht =>
      -- the world is in neither
      obtain ⟨hok, hregistry⟩ := hsecured
      exact ⟨⟨hok.tight, hok.fresh, hok.known⟩, hregistry⟩
  | letGo d => exact hsecured

end WolfUsb
