/-
WolfUsb.Server.ManagerRuns — what the whole server does to the devices.

The manager's operations are studied one by one in `Server.Operations`.
Here the server is seen to perform nothing else: a message performs at
most the operation it stands for (`Connection.handleMessage_does`), the end
of a connection at most the detach of its sessions, and what else is done
to the USB side is asking (`Server.step_does`). An invariant of the
manager's books beside the interfaces that every operation keeps is
therefore kept by every event, whatever the clients send in whatever order
(`Server.custody_step`).

The second part is about runs whose connections all end in an orderly way:
the sessions of each of them are in its table as long as it is there
(`secured_along`).
-/
import WolfUsb.Server.CleanupTheorems
import WolfUsb.Server.DriverTheorems

namespace WolfUsb

open WolfUsb.Lib Bus

variable {W : Type} {p : Platform W} {view : W → Interfaces}

/-! ## What a message does -/

/-- The manager operation a message stands for. -/
def Message.operation (peer : SocketAddr) : Message → Option ManagerOp
  | .listDevices => some .listDevices
  | .getDescriptors req => some (.getDescriptors req.deviceId)
  | .attach req => some (.attach req.deviceId peer)
  | .detach req => some (.detach req.deviceId req.sessionId)
  | .controlTransfer req => some (.transfer (.control req))
  | .bulkTransfer req => some (.transfer (.bulk req))
  | .interruptTransfer req => some (.transfer (.interrupt req))
  | .claimInterface req => some (.claimInterface req.deviceId req.interfaceNumber)
  | .releaseInterface req => some (.releaseInterface req.deviceId req.interfaceNumber)
  | .setConfiguration req => some (.setConfiguration req.deviceId req.configuration)
  | _ => none

/-- What serving a message with this operation may come to: nothing, the
lookup of a transfer's handle, the lookup of a device to bridge, or the
operation. -/
inductive Shared.Does (p : Platform W) (op : Option ManagerOp) (sh : Shared W) : Shared W → Prop
  | idle : Does p op sh sh
  | handle {request : TransferRequest} (h : op = some (.transfer request)) :
      Does p op sh { sh with bus := (sh.manager.getHandle p request.deviceId sh.bus).2 }
  | lookup (d : DeviceId) (h : op = none) :
      Does p op sh { sh with bus := (Connection.lookupBridgeBusid p d sh.bus).2 }
  | performed {o : ManagerOp} (h : op = some o) : Does p op sh (o.perform p sh).2

theorem Connection.lookupBridgeBusid_asks (p : Platform W) (d : DeviceId) (u : Bus W) :
    Asks p u (lookupBridgeBusid p d u).2 := by
  unfold lookupBridgeBusid
  split
  · rename_i h
    exact asks_of_eq rfl h
  · rename_i h
    exact asks_of_eq rfl h

/-- An invariant of books and interfaces that asking keeps, and every step
the operation may take. -/
theorem Shared.Does.preserves {op : Option ManagerOp} {sh sh' : Shared W}
    (hp : Interfaces.Keeps p view) (h : sh.Does p op sh') {I : Custody → Prop}
    (hask : ∀ c c', c.Linked → I c → c.Step .inspect c' → I c')
    (hop : ∀ o, op = some o → ∀ c e c', c.Linked → I c → o.Causes e → c.Step e c' → I c')
    (hl : (sh.custody view).Linked) (hI : I (sh.custody view)) :
    (sh'.custody view).Linked ∧ I (sh'.custody view) := by
  have hasked {u : Bus W} (hasks : Asks p sh.bus u) :
      (Custody.mk sh.manager.attachments (view u.world)).Linked ∧
        I (Custody.mk sh.manager.attachments (view u.world)) := by
    have hstep := DeviceManager.inspect_custody (m := sh.manager) hp hasks.spares
    exact ⟨hl.step hstep, hask _ _ hl hI hstep⟩
  cases h with
  | idle => exact ⟨hl, hI⟩
  | @handle request ho => exact hasked (sh.manager.getHandle_asks p request.deviceId sh.bus)
  | lookup d ho => exact hasked (Connection.lookupBridgeBusid_asks p d sh.bus)
  | performed ho => exact ManagerOp.perform_preserves hp _ (hop _ ho) hl hI

namespace Connection

variable (p)

theorem handleListDevices_does (join : Option String) (sh : Shared W) :
    sh.Does p (some .listDevices) (handleListDevices p join sh).2 := by
  cases join with
  | some e => exact .idle
  | none =>
      obtain ⟨r, u, hr⟩ : ∃ r u, DeviceManager.listDevices p sh.bus = (r, u) := ⟨_, _, rfl⟩
      have hdone : ((ManagerOp.listDevices).perform p sh).2 = { sh with bus := u } := by
        simp [ManagerOp.perform, hr]
      have hafter : (handleListDevices p none sh).2 = { sh with bus := u } := by
        cases r <;> simp [handleListDevices, spawnBlocking, Shared.reading, hr]
      rw [hafter, ← hdone]
      exact .performed rfl

theorem handleGetDescriptors_does (join : Option String) (req : GetDescriptorsRequest)
    (sh : Shared W) :
    sh.Does p (some (.getDescriptors req.deviceId)) (handleGetDescriptors p join req sh).2 := by
  cases join with
  | some e => exact .idle
  | none =>
      obtain ⟨r, u, hr⟩ : ∃ r u, DeviceManager.getDescriptors p req.deviceId sh.bus = (r, u) :=
        ⟨_, _, rfl⟩
      have hdone : ((ManagerOp.getDescriptors req.deviceId).perform p sh).2
          = { sh with bus := u } := by
        simp [ManagerOp.perform, hr]
      have hafter : (handleGetDescriptors p none req sh).2 = { sh with bus := u } := by
        cases r <;> simp [handleGetDescriptors, spawnBlocking, Shared.reading, hr]
      rw [hafter, ← hdone]
      exact .performed rfl

theorem handleAttach_does (join : Option String) (conn : Connection) (req : AttachRequest)
    (sh : Shared W) :
    sh.Does p (some (.attach req.deviceId conn.peerAddr))
      (handleAttach p join conn req sh).2.2 := by
  cases join with
  | some e => exact .idle
  | none =>
      obtain ⟨r, m, u, hr⟩ : ∃ r m u,
          sh.manager.attach p req.deviceId conn.peerAddr sh.bus = (r, m, u) := ⟨_, _, _, rfl⟩
      have hdone : ((ManagerOp.attach req.deviceId conn.peerAddr).perform p sh).2 = ⟨m, u⟩ := by
        simp [ManagerOp.perform, hr]
      have hafter : (handleAttach p none conn req sh).2.2 = ⟨m, u⟩ := by
        cases r <;> simp [handleAttach, spawnBlocking, Shared.locked, hr]
      rw [hafter, ← hdone]
      exact .performed rfl

theorem handleDetach_does (join : Option String) (conn : Connection) (req : DetachRequest)
    (sh : Shared W) :
    sh.Does p (some (.detach req.deviceId req.sessionId))
      (handleDetach p join conn req sh).2.2 := by
  by_cases hs : req.sessionId ∈ conn.sessions
  · cases join with
    | some e =>
        have hafter : (handleDetach p (some e) conn req sh).2.2 = sh := by
          simp [handleDetach, spawnBlocking, hs]
        rw [hafter]
        exact .idle
    | none =>
        obtain ⟨r, m, u, hr⟩ : ∃ r m u,
            sh.manager.detach p req.deviceId req.sessionId sh.bus = (r, m, u) := ⟨_, _, _, rfl⟩
        have hdone : ((ManagerOp.detach req.deviceId req.sessionId).perform p sh).2 = ⟨m, u⟩ := by
          simp [ManagerOp.perform, hr]
        have hafter : (handleDetach p none conn req sh).2.2 = ⟨m, u⟩ := by
          cases r <;> simp [handleDetach, spawnBlocking, Shared.locked, hr, hs]
        rw [hafter, ← hdone]
        exact .performed rfl
  · have hafter : (handleDetach p join conn req sh).2.2 = sh := by
      simp [handleDetach, hs]
    rw [hafter]
    exact .idle

/-- A transfer has been run on the handle, or has not come that far. -/
theorem handleTransfer_does (join : Option String) (conn : Connection) (request : TransferRequest)
    (s : UInt64) (sh : Shared W) :
    sh.Does p (some (.transfer request))
      (handleTransfer p join conn s request.deviceId (request.execute p) sh).2 := by
  unfold handleTransfer transferHandle
  by_cases hs : s ∈ conn.sessions
  · cases hvalid : sh.manager.validateSession s request.deviceId with
    | error e =>
        simp only [hs, not_true_eq_false, if_false]
        exact .idle
    | ok _ =>
        obtain ⟨r, u, hr⟩ : ∃ r u, sh.manager.getHandle p request.deviceId sh.bus = (r, u) :=
          ⟨_, _, rfl⟩
        have hlooked : sh.Does p (some (.transfer request)) { sh with bus := u } := by
          have h : sh.Does p (some (.transfer request))
              { sh with bus := (sh.manager.getHandle p request.deviceId sh.bus).2 } := .handle rfl
          rwa [hr] at h
        simp only [hs, not_true_eq_false, if_false, hr]
        cases r with
        | error e => exact hlooked
        | ok handle =>
            cases join with
            | some e => exact hlooked
            | none =>
                have hdone : ((ManagerOp.transfer request).perform p sh).2
                    = { sh with bus := (request.execute p handle u).2 } := by
                  simp [ManagerOp.perform, TransferRequest.run, hr]
                show sh.Does p _ { sh with bus := (request.execute p handle u).2 }
                rw [← hdone]
                exact .performed rfl
  · simp only [hs, not_false_eq_true, if_true]
    exact .idle

/-- The claim, release and configuration handlers. -/
theorem handleInterface_does (join : Option String) (conn : Connection) (s : UInt64)
    (op : DeviceManager → Bus W → Except WolfUsbError Unit × DeviceManager × Bus W)
    (result : Bool → Option String → Message) {o : ManagerOp} (sh : Shared W)
    (ho : (o.perform p sh).2 = ⟨(op sh.manager sh.bus).2.1, (op sh.manager sh.bus).2.2⟩) :
    sh.Does p (some o) (handleInterface p join conn s op result sh).2 := by
  rw [handleInterface_shared]
  split
  · rw [← ho]
    exact .performed rfl
  · exact .idle

theorem handleBridge_does (join : Option String) (req : BridgeRequest) (sh : Shared W) :
    sh.Does p none (handleBridge p join req sh).2 := by
  cases join with
  | some e => exact .idle
  | none =>
      have hafter : (handleBridge p none req sh).2
          = { sh with bus := (lookupBridgeBusid p req.deviceId sh.bus).2 } := by
        cases h : (lookupBridgeBusid p req.deviceId sh.bus).1 <;>
          simp [handleBridge, spawnBlocking, Shared.reading, joinFlatten, h]
      rw [hafter]
      exact .lookup req.deviceId rfl

theorem dispatch_does (join : Option String) (conn : Connection) (msg : Message)
    (sh : Shared W) :
    sh.Does p (msg.operation conn.peerAddr) (conn.dispatch p join msg sh).2.2 := by
  cases msg with
  | listDevices => exact handleListDevices_does p join sh
  | getDescriptors req => exact handleGetDescriptors_does p join req sh
  | attach req => exact handleAttach_does p join conn req sh
  | detach req => exact handleDetach_does p join conn req sh
  | controlTransfer req => exact handleTransfer_does p join conn (.control req) req.sessionId sh
  | bulkTransfer req => exact handleTransfer_does p join conn (.bulk req) req.sessionId sh
  | interruptTransfer req =>
      exact handleTransfer_does p join conn (.interrupt req) req.sessionId sh
  | claimInterface req =>
      exact handleInterface_does p join conn req.sessionId
        (fun m => m.claimInterface p req.deviceId req.interfaceNumber) _ sh rfl
  | releaseInterface req =>
      exact handleInterface_does p join conn req.sessionId
        (fun m => m.releaseInterface p req.deviceId req.interfaceNumber) _ sh rfl
  | setConfiguration req =>
      exact handleInterface_does p join conn req.sessionId
        (fun m => m.setConfiguration p req.deviceId req.configuration) _ sh rfl
  | bridge req => exact handleBridge_does p join req sh
  | _ => exact .idle

/-- **A message performs its operation or nothing.** -/
theorem handleMessage_does (join : Option String) (conn : Connection) (msg : Message)
    (sh : Shared W) :
    sh.Does p (msg.operation conn.peerAddr) (conn.handleMessage p join msg sh).2.2 := by
  unfold handleMessage
  split
  · exact .idle
  · exact .idle
  · split
    · exact .idle
    · exact dispatch_does p join conn _ sh

theorem cleanup_does (join : Option String) (keys : List UInt64) (conn : Connection)
    (sh : Shared W) :
    sh.Does p (some (.detachAllForSessions keys)) (conn.cleanup p join keys sh).2 := by
  unfold cleanup
  split
  · exact .idle
  · cases join with
    | some e => exact .idle
    | none => exact .performed rfl

end Connection

/-! ## What an event does -/

namespace Server

/-- The manager operation an event stands for. -/
def operation (sv : Server W) : Event → Option ManagerOp
  | .receive c msg _ => (sv.connections.lookup c).bind fun conn => msg.operation conn.peerAddr
  | _ => none

/-- **An event performs its operation or nothing**, and after it a
connection may have been cleaned up. -/
theorem step_does {sv sv' : Server W} {e : Event} {out : Output}
    (h : sv.step p e = some (sv', out)) :
    ∃ keys sh₁ sh₂, sv.shared.Does p (sv.operation e) sh₁ ∧
      sh₁.Does p (some (.detachAllForSessions keys)) sh₂ ∧
      sv'.manager = sh₂.manager ∧ sv'.world = sh₂.bus.world := by
  have hcases := step_cases p h
  cases hcases with
  | accept addr => exact ⟨[], _, _, .idle, .idle, rfl, rfl⟩
  | @reply c msg o conn conn' resp sh hc hm hs =>
      have hdoes := Connection.handleMessage_does p o.join conn msg sv.shared
      rw [hm] at hdoes
      refine ⟨[], sh, sh, ?_, .idle, rfl, rfl⟩
      simpa [operation, hc] using hdoes
  | @handOff c msg o conn conn' resp target sh hc hm hs =>
      have hdoes := Connection.handleMessage_does p o.join conn msg sv.shared
      rw [hm] at hdoes
      refine ⟨[], sh, sh, ?_, .idle, rfl, rfl⟩
      simpa [operation, hc] using hdoes
  | @drop c msg o conn conn' action sh hc hm hs hk =>
      have hdoes := Connection.handleMessage_does p o.join conn msg sv.shared
      rw [hm] at hdoes
      refine ⟨o.keys, sh, _, ?_, conn'.cleanup_does p o.cleanupJoin o.keys sh, rfl, rfl⟩
      simpa [operation, hc] using hdoes
  | @hangup c o conn hc hk =>
      exact ⟨o.keys, _, _, .idle, conn.cleanup_does p o.cleanupJoin o.keys sv.shared,
        rfl, rfl⟩

/-- **Custody rule.** An invariant of the books beside the interfaces that
asking, detaching and the steps of the event's operation keep, the event
keeps. -/
theorem custody_step (hp : Interfaces.Keeps p view) {I : Custody → Prop} {sv sv' : Server W}
    {e : Event} (h : sv.next p e = some sv')
    (hask : ∀ c c', c.Linked → I c → c.Step .inspect c' → I c')
    (hdetach : ∀ c d c', c.Linked → I c → c.Step (.detach d) c' → I c')
    (hop : ∀ o, sv.operation e = some o →
      ∀ c e c', c.Linked → I c → o.Causes e → c.Step e c' → I c')
    (hl : (sv.shared.custody view).Linked) (hI : I (sv.shared.custody view)) :
    (sv'.shared.custody view).Linked ∧ I (sv'.shared.custody view) := by
  obtain ⟨⟨sv₁, out⟩, hstep, rfl⟩ := Option.map_eq_some_iff.mp h
  obtain ⟨keys, sh₁, sh₂, hfirst, hsecond, hmanager, hworld⟩ := step_does hstep
  obtain ⟨hl₁, hI₁⟩ := hfirst.preserves hp hask hop hl hI
  have hsweep : ∀ o, some (ManagerOp.detachAllForSessions keys) = some o →
      ∀ c e c', c.Linked → I c → o.Causes e → c.Step e c' → I c' := by
    intro o ho c e c' hlc hc hcause hstep'
    cases ho
    obtain ⟨d, rfl⟩ := hcause
    exact hdetach c d c' hlc hc hstep'
  have hafter := hsecond.preserves hp hask hsweep hl₁ hI₁
  have hcustody : sv₁.shared.custody view = sh₂.custody view := by
    simp [Shared.custody, shared, hmanager, hworld]
  rw [hcustody]
  exact hafter

/-- The handles of the attachments stay open on their devices. -/
theorem linked_step (hp : Interfaces.Keeps p view) {sv sv' : Server W} {e : Event}
    (h : sv.next p e = some sv') (hl : (sv.shared.custody view).Linked) :
    (sv'.shared.custody view).Linked := by
  refine (custody_step hp h (I := fun _ => True) ?_ ?_ ?_ hl trivial).1
  · intro c c' _ _ _
    trivial
  · intro c d c' _ _ _
    trivial
  · intro o _ c e c' _ _ _ _
    trivial

end Server

/-! ## Drivers and claims -/

/-- The event carries a SetConfiguration for the device. -/
def Event.configures (d : DeviceId) : Event → Bool
  | .receive _ (.setConfiguration req) _ => req.deviceId == d
  | _ => false

/-- Such an event alone stands for a new configuration. -/
theorem Server.operation_configures {sv : Server W} {e : Event} {d : DeviceId}
    (he : e.configures d = false) {o : ManagerOp} (ho : sv.operation e = some o) {cfg : UInt8} :
    o ≠ .setConfiguration d cfg := by
  rintro rfl
  cases e with
  | receive c msg out =>
      obtain ⟨conn, -, hmsg⟩ := Option.bind_eq_some_iff.mp ho
      cases msg with
      | setConfiguration req =>
          obtain ⟨rfl, -⟩ := ManagerOp.setConfiguration.inj (Option.some.inj hmsg)
          simp [Event.configures] at he
      | _ => simp [Message.operation] at hmsg
  | _ => simp [Server.operation] at ho

/-- An operation takes no step it is not for. -/
theorem ManagerOp.Causes.configures {o : ManagerOp} {d : DeviceId}
    (h : o.Causes (.configure d)) : ∃ cfg, o = .setConfiguration d cfg := by
  cases o with
  | setConfiguration x cfg =>
      cases h
      exact ⟨cfg, rfl⟩
  | attach x addr => rcases h with h | h <;> cases h
  | detachAllForSessions keys =>
      obtain ⟨x, hx⟩ := h
      cases hx
  | _ => cases h

/-- An event that does not configure the device. -/
theorem Server.restorable_step (hp : Interfaces.Keeps p view) {d : DeviceId}
    {original : UInt8 → DriverState} {sv sv' : Server W} {e : Event}
    (he : e.configures d = false) (h : sv.next p e = some sv')
    (hl : (sv.shared.custody view).Linked)
    (hI : (sv.shared.custody view).Restorable d original) :
    (sv'.shared.custody view).Linked ∧ (sv'.shared.custody view).Restorable d original := by
  refine custody_step hp h ?_ ?_ ?_ hl hI
  · intro c c' hlc hc hstep
    exact hc.step hlc (by simp) hstep
  · intro c x c' hlc hc hstep
    exact hc.step hlc (by simp) hstep
  · intro o ho c x c' hlc hc hcause hstep
    refine hc.step hlc ?_ hstep
    rintro rfl
    obtain ⟨cfg, hcfg⟩ := hcause.configures
    exact operation_configures he ho hcfg

/-! ## Orderly ends -/

/-- The connection an event is about. -/
def Event.connection : Event → Option Nat
  | .accept _ => none
  | .receive c _ _ => some c
  | .hangup c _ => some c

/-- An event that is not about `c` has no outcome for it, and does not hand
it off. -/
theorem Event.outcome_other {e : Event} {c : Nat} (h : e.connection ≠ some c) :
    e.outcome c = none := by
  cases e with
  | accept addr => rfl
  | receive c' msg o =>
      have hne : c' ≠ c := fun heq => h (congrArg some heq)
      simp [outcome, hne]
  | hangup c' o =>
      have hne : c' ≠ c := fun heq => h (congrArg some heq)
      simp [outcome, hne]

theorem Server.handsOff_other {e : Event} {c : Nat} (h : e.connection ≠ some c) (sv : Server W) :
    sv.handsOff p c e = false := by
  cases e with
  | receive c' msg o =>
      have hne : c' ≠ c := fun heq => h (congrArg some heq)
      simp [handsOff, hne]
  | _ => rfl

/-- Every Detach matches, session ids are not given out twice, and the
connection of the event detaches its own devices, is handed off only with
an empty table and is cleaned up when it ends. -/
def Audited.Tidy (p : Platform W) (a : Audited W) (e : Event) : Prop :=
  a.server.DetachMatches e ∧ a.TicketFresh e ∧ ∀ c ∈ e.connection,
    a.server.NamesOwn c e ∧ a.server.HandsOffEmpty p c e ∧ e.CleanupRuns c

instance (a : Audited W) (e : Event) : Decidable (a.Tidy p e) :=
  inferInstanceAs (Decidable (_ ∧ _ ∧ ∀ c ∈ e.connection, _ ∧ _ ∧ _))

/-- A tidy event is orderly for every connection: the others it does not
concern. -/
theorem Audited.Tidy.orderly {a : Audited W} {e : Event} (h : a.Tidy p e) (c : Nat) :
    a.Orderly p c e := by
  obtain ⟨hmatches, hfresh, hown⟩ := h
  by_cases hc : e.connection = some c
  · obtain ⟨hnames, hoff, hruns⟩ := hown c hc
    exact ⟨hmatches, hnames, hfresh, hoff, hruns⟩
  · refine ⟨hmatches, ?_, hfresh, ?_, ?_⟩
    · rintro q hq rfl
      exfalso
      cases e with
      | receive c' msg o =>
          cases msg with
          | detach req =>
              simp only [Event.detaching] at hq
              split at hq
              · cases hq
                exact hc rfl
              · cases hq
          | _ => cases hq
      | _ => cases hq
    · intro hhands
      rw [Server.handsOff_other hc] at hhands
      cases hhands
    · intro o ho
      rw [Event.outcome_other hc] at ho
      cases ho

/-- A manager whose sessions all belong to nobody has nothing attached. -/
theorem Registry.Secured.empty {r : Registry} (h : ∀ c, r.Secured c)
    (hnone : ∀ c, r.tables c = none) :
    r.manager.sessionToDevice = ∅ ∧ r.manager.attachments = ∅ := by
  have hsessions : ∀ s, r.manager.sessionToDevice.lookup s = none := by
    intro s
    cases hlook : r.manager.sessionToDevice.lookup s with
    | none => rfl
    | some d =>
        obtain ⟨info, c, -, hg⟩ := (h 0).coherent.granted s d hlook
        obtain ⟨t, ht, -⟩ := (h c).held s d ((h 0).recorded d _ hg) hlook
        rw [hnone c] at ht
        cases ht
  refine ⟨Finmap.ext_lookup hsessions, Finmap.ext_lookup fun d => ?_⟩
  rw [Finmap.lookup_empty, Finmap.lookup_eq_none]
  intro hmem
  obtain ⟨s, hs⟩ := ((h 0).coherent.consistent.range d).mp hmem
  rw [hsessions s] at hs
  cases hs

/-- A tidy event keeps the sessions of every connection in its table. -/
theorem Audited.Tidy.secured {a a' : Audited W} {e : Event} (htidy : a.Tidy p e)
    (hstep : a.step p e = some a') (h : a.Ok ∧ ∀ c, a.registry.Secured c) :
    a'.Ok ∧ ∀ c, a'.registry.Secured c := by
  refine ⟨h.1.step p hstep, ?_⟩
  intro c
  exact secured_step p h.1 (htidy.orderly c) hstep (h.2 c)

theorem Audited.secured_start (sharedKey : Option Bytes) (tls : Bool) (world : W) :
    (Audited.start sharedKey tls world).Ok ∧
      ∀ c, (Audited.start sharedKey tls world).registry.Secured c := by
  refine ⟨Audited.ok_start sharedKey tls world, ?_⟩
  intro c
  rw [Audited.registry_start]
  exact Registry.secured_empty

theorem secured_along (sharedKey : Option Bytes) (tls : Bool) (world : W) {es : List Event}
    (hC : StepsAlong (Audited.Steps p) (fun a e => a.Tidy p e) (.start sharedKey tls world) es) :
    StatesAlong (Audited.Steps p) (fun a => a.Ok ∧ ∀ c, a.registry.Secured c)
      (.start sharedKey tls world) es := by
  refine statesAlong_of_stepsAlong ?_ (Audited.secured_start sharedKey tls world) hC
  intro a e a' ha htidy hstep
  exact htidy.secured hstep ha

end WolfUsb
