/-
WolfUsb.Server.InFlightTheorems — a transfer in flight keeps its
attachment.

Between the lookup of a handle and the transfer on it the lock is free, so
another client may take the device away. Under the conditions that keep
the manager's maps together it does not: to detach the device a
connection needs the session of the device's grant in its own table, and
that is the session of the connection whose transfer is in flight, which
is served nothing meanwhile (`Flight.Owned.op`). So a transfer is executed
on the handle of the attachment it was asked for, which is still there
(`transfer_runs_on_live_attachment`).

What `Server.step` takes as one step is the two steps here with nothing in
between (`Airborne.receive_eq`).
-/
import WolfUsb.Server.InFlight

namespace WolfUsb

open WolfUsb.Lib

variable {W : Type} {p : Platform W}

/-! ## The other connections -/

/-- An event that is not about `c` leaves its table. -/
theorem Audited.other_table {a a' : Audited W} {e : Event} {c : Nat}
    {t : HashMap UInt64 DeviceId} (hok : a.Ok) (hstep : a.step p e = some a')
    (he : e.connection ≠ some c) (ht : a.registry.tables c = some t) :
    a'.registry.tables c = some t := by
  obtain ⟨out, hsteps, -⟩ := Audited.step_cases p hstep
  obtain ⟨conn, hconn, rfl⟩ := Option.map_eq_some_iff.mp ht
  have hlook : a'.server.connections.lookup c = some conn := by
    generalize a'.server = sv' at hsteps
    have hne {c₀ : Nat} (h : e.connection = some c₀) : c ≠ c₀ := by
      rintro rfl
      exact he h
    cases hsteps with
    | accept addr =>
        have hlt : c ≠ a.server.accepted := by
          rintro rfl
          rw [hok.fresh _ (Nat.le_refl _)] at hconn
          cases hconn
        simpa [lookup_insert_eq, hlt] using hconn
    | reply hc hm hs =>
        simpa [Server.after, lookup_insert_eq, hne rfl] using hconn
    | handOff hc hm hs =>
        simpa [Server.handOff, Server.after, lookup_erase_eq, hne rfl] using hconn
    | drop hc hm hs hk =>
        simpa [Server.ended, Server.after, lookup_erase_eq, hne rfl] using hconn
    | hangup hc hk =>
        simpa [Server.ended, Server.after, lookup_erase_eq, hne rfl] using hconn
  exact Audited.registry_table hlook

/-- The transfer's session is in the table of its connection, and its
handle is that of the attachment this connection made under it. -/
structure Flight.Owned (f : Flight) (c : Nat) (r : Registry) : Prop where
  held : ∃ t, r.tables c = some t ∧ f.request.sessionId ∈ t
  granted : r.grants f.request.deviceId = some ⟨c, f.request.sessionId, f.handle⟩

namespace Flight.Owned

variable {f : Flight} {c : Nat} {r r' : Registry}

theorem session (h : f.Owned c r) (hr : r.Coherent) :
    r.manager.sessionToDevice.lookup f.request.sessionId = some f.request.deviceId :=
  hr.session_of_grant h.granted

/-- The device is attached, with the handle of the transfer. -/
theorem attached (h : f.Owned c r) (hr : r.Coherent) :
    ∃ info, r.manager.attachments.lookup f.request.deviceId = some info ∧
      info.handle = f.handle := by
  obtain ⟨info, c', hinfo, hg⟩ := hr.granted _ _ (h.session hr)
  rw [h.granted] at hg
  obtain ⟨-, -, hhandle⟩ := Grant.mk.inj (Option.some.inj hg)
  exact ⟨info, hinfo, hhandle.symm⟩

/-- A session of another connection is not of this device. -/
theorem other_device (h : f.Owned c r) (hr : r.Coherent) {c' : Nat} (hne : c ≠ c')
    {t : HashMap UInt64 DeviceId} {s : UInt64} {d : DeviceId} (ht : r.tables c' = some t)
    (hs : s ∈ t) (hsd : r.manager.sessionToDevice.lookup s = some d) :
    f.request.deviceId ≠ d := by
  rintro rfl
  obtain ⟨info, -, hg⟩ := hr.own ht hs hsd
  rw [h.granted] at hg
  exact hne (Grant.mk.inj (Option.some.inj hg)).1

/-- **An operation of another connection leaves the transfer its
attachment.** -/
theorem op {a : Audited W} {e : Event} {op : RegOp} (he : e.connection ≠ some c)
    (hlive : ¬ a.Ends p e c) (hr : r.Coherent) (hfit : r.Fits op) (hcause : Caused p a e r op)
    (hstep : r.Step op r') (h : f.Owned c r) : f.Owned c r' := by
  obtain ⟨t, ht, hs⟩ := h.held
  have hne {c₀ : Nat} (h : e.connection = some c₀) : c ≠ c₀ := by
    rintro rfl
    exact he h
  cases hstep with
  | @accept c₀ hc =>
      have hcc : c ≠ c₀ := by
        rintro rfl
        rw [hc] at ht
        cases ht
      exact ⟨⟨t, by simpa [hcc] using ht, hs⟩, h.granted⟩
  | @attach c₀ t₀ d info hc hd =>
      cases hcause with
      | attach =>
          have hcc : c ≠ c₀ := hne rfl
          have hdd : f.request.deviceId ≠ d := by
            rintro rfl
            exact hd (hr.attached (h.session hr))
          exact ⟨⟨t, by simpa [hcc] using ht, hs⟩, by simpa [hdd] using h.granted⟩
  | @detach c₀ t₀ d s₀ hc hs₀ hd =>
      have hcc : c ≠ c₀ := by
        cases hcause with
        | detach hj => exact hne rfl
        | sweep hends hsd =>
            rintro rfl
            exact hlive hends
      have hdd := h.other_device hr hcc hc hs₀ hfit
      exact ⟨⟨t, by simpa [hcc] using ht, hs⟩, by simpa [hdd] using h.granted⟩
  | @refuse c₀ t₀ d s₀ hc hs₀ hd =>
      have hcc : c ≠ c₀ := by
        cases hcause with
        | refuse hj => exact hne rfl
      exact ⟨⟨t, by simpa [hcc] using ht, hs⟩, h.granted⟩
  | touch hm => exact ⟨⟨t, ht, hs⟩, h.granted⟩
  | @close c₀ t₀ hc =>
      have hcc : c ≠ c₀ := by
        rintro rfl
        cases hcause with
        | swept hgone =>
            exact hgone t _ _ ht hs (h.session hr) (hr.attached (h.session hr))
        | lost ho hj =>
            rw [Event.outcome_other he] at ho
            cases ho
        | handOff hh hr =>
            rw [Server.handsOff_other he] at hh
            cases hh
      exact ⟨⟨t, by simpa [hcc] using ht, hs⟩, h.granted⟩

end Flight.Owned

/-- An event that is not about the transfer's connection. -/
theorem Flight.Owned.serve {f : Flight} {c : Nat} {a a' : Audited W} {e : Event} (hok : a.Ok)
    (hC : a.server.DetachMatches e ∧ a.server.TicketUnused e) (hstep : a.step p e = some a')
    (he : e.connection ≠ some c) (hr : a.registry.Coherent) (h : f.Owned c a.registry) :
    f.Owned c a'.registry := by
  obtain ⟨t, ht, -⟩ := h.held
  have hlive : ¬ a.Ends p e c := by
    intro hends
    have hnone := hends a' hstep
    rw [Audited.other_table hok hstep he ht] at hnone
    cases hnone
  refine (registry_step p (I := fun r => r.Coherent ∧ f.Owned c r) ?_ hok hstep ⟨hr, h⟩).2
  intro r op r' hcause hop ⟨hrc, hf⟩
  have hfit := hcause.fits hC.1 hC.2 hop
  exact ⟨hrc.step hfit hop, hf.op he hlive hrc hfit hcause hop⟩

/-- The events keep the maps together. -/
theorem coherent_serve {a a' : Audited W} {e : Event} (hok : a.Ok)
    (hC : a.server.DetachMatches e ∧ a.server.TicketUnused e) (hstep : a.step p e = some a')
    (hr : a.registry.Coherent) : a'.registry.Coherent :=
  registry_step p (I := Registry.Coherent)
    (fun _ _ _ hcause hop hrc => hrc.step (hcause.fits hC.1 hC.2 hop) hop) hok hstep hr

/-! ## Runs -/

theorem Audited.Ok.inWorld {a : Audited W} (h : a.Ok) (world : W) : (a.inWorld world).Ok :=
  ⟨h.tight, h.fresh, h.known⟩

namespace Airborne

/-- The maps agree, and every transfer in flight has its attachment. -/
structure Sound (s : Airborne W) : Prop where
  ok : s.audited.Ok
  coherent : s.audited.registry.Coherent
  owned : ∀ c f, s.flights c = some f → f.Owned c s.audited.registry

theorem sound_start (sharedKey : Option Bytes) (tls : Bool) (world : W) :
    (start sharedKey tls world).Sound where
  ok := Audited.ok_start sharedKey tls world
  coherent := by
    show (Audited.start sharedKey tls world).registry.Coherent
    rw [Audited.registry_start]
    exact Registry.coherent_empty
  owned c f h := by cases h

/-- The condition on a step: what is served keeps the maps together. -/
def Matches (s : Airborne W) : AirborneEvent → Prop
  | .serve e => s.audited.server.DetachMatches e ∧ s.audited.server.TicketUnused e
  | _ => True

instance (s : Airborne W) (e : AirborneEvent) : Decidable (s.Matches e) := by
  cases e <;> unfold Matches <;> infer_instance

theorem Sound.serve {s : Airborne W} {e : Event} {a' : Audited W} (h : s.Sound)
    (hC : s.audited.server.DetachMatches e ∧ s.audited.server.TicketUnused e)
    (hfree : ∀ c f, s.flights c = some f → e.connection ≠ some c)
    (hstep : s.audited.step p e = some a') : Sound { s with audited := a' } where
  ok := h.ok.step p hstep
  coherent := coherent_serve h.ok hC hstep h.coherent
  owned c f hf := (h.owned c f hf).serve h.ok hC hstep (hfree c f hf) h.coherent

theorem Sound.step {s s' : Airborne W} {e : AirborneEvent} (h : s.Sound) (hC : s.Matches e)
    (hstep : s.step p e = some s') : s'.Sound := by
  cases e with
  | serve e =>
      rw [Airborne.step] at hstep
      split at hstep
      · cases hstep
      · rename_i hfree
        obtain ⟨a', ha', rfl⟩ := Option.map_eq_some_iff.mp hstep
        refine h.serve hC ?_ ha'
        intro c f hf hc
        exact hfree ⟨c, hc, by simp [hf]⟩
  | lookup c request =>
      rw [Airborne.step] at hstep
      split at hstep
      · rename_i conn hnone hconn
        split at hstep
        · cases hstep
        · split at hstep
          · cases hstep
          · rename_i handle sh hlook
            cases hstep
            refine ⟨h.ok.inWorld _, h.coherent, ?_⟩
            intro c' f hf
            by_cases hcc : c' = c
            · subst hcc
              obtain rfl : _ = f := by simpa using hf
              obtain ⟨hs, hsd, info, hinfo, rfl⟩ :=
                Connection.transferHandle_ok p (congrArg Prod.fst hlook)
              have htable := Audited.registry_table hconn
              obtain ⟨info', hinfo', hg⟩ := h.coherent.own htable hs hsd
              obtain rfl : info' = info := Option.some.inj (hinfo'.symm.trans hinfo)
              exact ⟨⟨_, htable, hs⟩, hg⟩
            · exact h.owned c' f (by simpa [hcc] using hf)
      · cases hstep
  | execute c o =>
      rw [Airborne.step] at hstep
      split at hstep
      · cases hstep
      · rename_i f hf
        -- what is left in flight was in flight, on another connection
        have hleft : ∀ c' f', Function.update s.flights c none c' = some f' →
            c' ≠ c ∧ s.flights c' = some f' := fun c' f' => update_none_eq_some.mp
        have hlanded (world : W) : Sound
            { audited := s.audited.inWorld world, flights := Function.update s.flights c none } :=
          ⟨h.ok.inWorld _, h.coherent, fun c' f' hf' => h.owned c' f' (hleft c' f' hf').2⟩
        dsimp only at hstep
        split at hstep
        · cases hstep
          exact hlanded _
        · obtain ⟨a', ha', rfl⟩ := Option.map_eq_some_iff.mp hstep
          refine (hlanded _).serve ⟨?_, ?_⟩ ?_ ha'
          · intro q hq
            cases hq
          · intro q hq
            cases hq
          · intro c' f' hf' hc
            exact (hleft c' f' hf').1 (Option.some.inj hc).symm

end Airborne

/-- **A transfer runs on a live attachment.** In every run in which the
Detach requests served match the manager's sessions and the session
counter does not come round: whatever the other connections do between the
lookup of a transfer's handle and the transfer itself, as long as it is in
flight its device is attached, with its handle, by the connection that
asked for it and under the session it named. -/
theorem transfer_runs_on_live_attachment (sharedKey : Option Bytes) (tls : Bool) (world : W)
    {es : List AirborneEvent}
    (hC : StepsAlong (Airborne.Steps p) Airborne.Matches (.start sharedKey tls world) es) :
    StatesAlong (Airborne.Steps p)
      (fun s => ∀ c f, s.flights c = some f →
        s.audited.audit.grants f.request.deviceId = some ⟨c, f.request.sessionId, f.handle⟩ ∧
        ∃ info, s.audited.server.manager.attachments.lookup f.request.deviceId = some info ∧
          info.handle = f.handle)
      (.start sharedKey tls world) es := by
  have hstates := statesAlong_of_stepsAlong (I := Airborne.Sound)
    (fun s e s' hs hC' hstep => Airborne.Sound.step hs hC' hstep)
    (Airborne.sound_start sharedKey tls world) hC
  refine hstates.mono ?_
  intro s hs c f hf
  have howned := hs.owned c f hf
  exact ⟨howned.granted, howned.attached hs.coherent⟩

/-- A transfer of connection 0 is in flight while connection 1 attaches and
detaches a device of its own. -/
theorem transfer_runs_on_live_attachment_two_clients :
    StatesAlong (Airborne.Steps twoDeviceHost)
      (fun s => ∀ c f, s.flights c = some f →
        s.audited.audit.grants f.request.deviceId = some ⟨c, f.request.sessionId, f.handle⟩ ∧
        ∃ info, s.audited.server.manager.attachments.lookup f.request.deviceId = some info ∧
          info.handle = f.handle)
      (.start none false 0)
      [.serve (.accept ⟨"10.0.0.1", 4000⟩), .serve (.accept ⟨"10.0.0.2", 4000⟩),
        .serve (.receive 0 (.attach ⟨⟨1, 2⟩⟩) {}),
        .lookup 0 (.interrupt ⟨1, ⟨1, 2⟩, 0x81, [], 8, 1000⟩),
        .serve (.receive 1 (.attach ⟨⟨1, 3⟩⟩) {}),
        .serve (.receive 1 (.detach ⟨⟨1, 3⟩, 2⟩) {}), .execute 0 {}] :=
  transfer_runs_on_live_attachment none false 0 (by decide +kernel)

/-! ## The two steps as one -/

section OneStep

variable {u u' : Bus W}

/-- What a transfer does does not depend on the calls made before it. -/
theorem TransferRequest.execute_world (request : TransferRequest) (handle : Handle)
    (h : u.world = u'.world) :
    (request.execute p handle u).2.world = (request.execute p handle u').2.world := by
  cases request with
  | control req =>
      simp only [execute, Transfer.executeControlTransfer]
      split <;> simp [Platform.call, h]
  | bulk req =>
      simp only [execute, Transfer.executeBulkTransfer]
      split
      · split <;> simp [Platform.call, h]
      · simp [Platform.call, h]
  | interrupt req =>
      simp only [execute, Transfer.executeInterruptTransfer]
      split
      · split <;> simp [Platform.call, h]
      · simp [Platform.call, h]

namespace DeviceManager

theorem releaseInterfaces_world (handle : Handle) (listed : List UInt8)
    (h : u.world = u'.world) :
    (releaseInterfaces p handle listed u).world = (releaseInterfaces p handle listed u').world := by
  induction listed generalizing u u' with
  | nil => exact h
  | cons i rest ih => exact ih (by simp [Platform.call, h])

theorem reattachDrivers_world (handle : Handle) (listed : List UInt8)
    (h : u.world = u'.world) :
    (reattachDrivers p handle listed u).world = (reattachDrivers p handle listed u').world := by
  induction listed generalizing u u' with
  | nil => exact h
  | cons i rest ih => exact ih (by simp [Platform.call, h])

/-- The same of a cleanup. -/
theorem detachAllForSessions_world (keys : List UInt64) (m : DeviceManager)
    (h : u.world = u'.world) :
    (detachAllForSessions p keys m u).1 = (detachAllForSessions p keys m u').1 ∧
      (detachAllForSessions p keys m u).2.world = (detachAllForSessions p keys m u').2.world := by
  induction keys generalizing m u u' with
  | nil => exact ⟨rfl, h⟩
  | cons s rest ih =>
      simp only [detachAllForSessions]
      cases m.sessionToDevice.lookup s with
      | none => exact ih m h
      | some d =>
          simp only [detach]
          cases m.attachments.lookup d with
          | none => exact ih m h
          | some info =>
              exact ih _ (reattachDrivers_world info.handle _
                (releaseInterfaces_world info.handle _ h))

end DeviceManager

/-- Writing a connection back as it is changes nothing. -/
theorem insert_of_lookup {m : HashMap Nat Connection} {c : Nat} {conn : Connection}
    (h : m.lookup c = some conn) : m.insert c conn = m := by
  refine Finmap.ext_lookup ?_
  intro x
  rw [lookup_insert_eq]
  split
  · rename_i hx
    rw [hx, h]
  · rfl

/-- A cleanup does not depend on the calls made before it. -/
theorem Connection.cleanup_world (join : Option String) (keys : List UInt64) (conn : Connection)
    {sh sh' : Shared W} (hm : sh.manager = sh'.manager) (hw : sh.bus.world = sh'.bus.world) :
    (conn.cleanup p join keys sh).2.manager = (conn.cleanup p join keys sh').2.manager ∧
      (conn.cleanup p join keys sh).2.bus.world = (conn.cleanup p join keys sh').2.bus.world := by
  obtain ⟨m, u⟩ := sh
  obtain ⟨m', u'⟩ := sh'
  obtain rfl : m = m' := hm
  unfold cleanup
  split
  · exact ⟨rfl, hw⟩
  · cases join with
    | some e => exact ⟨rfl, hw⟩
    | none => exact DeviceManager.detachAllForSessions_world keys m hw

/-- The transfer handler, once the handle is there. -/
theorem Connection.handleTransfer_of_handle {join : Option String} {conn : Connection} {s : UInt64}
    {d : DeviceId} {execute : Handle → Bus W → TransferResponse × Bus W} {sh sh₁ : Shared W}
    {handle : Handle} (h : conn.transferHandle p s d sh = (.ok handle, sh₁)) :
    (conn.handleTransfer p join s d execute sh).2
      = (spawnBlocking join (Shared.reading (execute handle)) sh₁).2 := by
  unfold handleTransfer
  rw [h]
  cases join <;> rfl

theorem Connection.handleMessage_transfer {conn : Connection} {request : TransferRequest}
    {sh sh₁ : Shared W} {handle : Handle} (hgate : conn.gated = false) (join : Option String)
    (h : conn.transferHandle p request.sessionId request.deviceId sh = (.ok handle, sh₁)) :
    ∃ resp, conn.handleMessage p join request.message sh =
      (.reply resp, conn,
        (spawnBlocking join (Shared.reading (request.execute p handle)) sh₁).2) := by
  have hafter : (conn.handleTransfer p join request.sessionId request.deviceId
      (request.execute p) sh).2 = _ := handleTransfer_of_handle h
  cases request <;> exact ⟨_, by
    simp only [TransferRequest.message, handleMessage, hgate]
    exact Prod.ext rfl (Prod.ext rfl hafter)⟩

/-- An event without an Attach leaves the notes on what stays attached. -/
theorem Audited.Ok.record_same {a : Audited W} (hok : a.Ok) {e : Event} {out : Output}
    (hby : attachedBy e out = none) : a.audit.record e out a.server.manager = a.audit := by
  have hgrants : (fun x => if x ∈ a.server.manager.attachments then a.audit.grants x else none)
      = a.audit.grants := by
    funext x
    split
    · rfl
    · rename_i hx
      exact (hok.tight x hx).symm
  simp [Audit.record, hby, hgrants]

end OneStep

/-- Serving the message, when its reply is sent. -/
theorem Audited.receive_sent {a : Audited W} (hok : a.Ok) {c : Nat} {request : TransferRequest}
    {o : Outcome} {conn : Connection} {resp : Message} {sh : Shared W}
    (hconn : a.server.connections.lookup c = some conn) (hm : sh.manager = a.server.manager)
    (hserved : conn.handleMessage p o.join request.message a.server.shared
      = (.reply resp, conn, sh)) (hsent : o.sent = true) :
    a.step p (.receive c request.message o) = some (a.inWorld sh.bus.world) := by
  have hby (out : Output) : attachedBy (.receive c request.message o) out = none := by
    cases request <;> rfl
  have hafter : a.server.after sh (a.server.connections.insert c conn)
      = (a.inWorld sh.bus.world).server := by
    simp [Server.after, inWorld, insert_of_lookup hconn, hm]
  simp [step, Server.step, hconn, hserved, hsent, hafter, inWorld, hok.record_same (hby _)]

/-- And when it cannot be sent. -/
theorem Audited.receive_unsent {a a' : Audited W} {c : Nat} {request : TransferRequest}
    {o : Outcome} {conn : Connection} {resp : Message} {sh : Shared W}
    (hconn : a.server.connections.lookup c = some conn) (hm : sh.manager = a.server.manager)
    (hserved : conn.handleMessage p o.join request.message a.server.shared
      = (.reply resp, conn, sh)) (hsent : o.sent = false)
    (hhangup : (a.inWorld sh.bus.world).step p (.hangup c o) = some a') :
    a.step p (.receive c request.message o) = some a' := by
  have hended : a.server.ended p c conn sh o = (a.inWorld sh.bus.world).server.ended p c conn
      (a.inWorld sh.bus.world).server.shared o := by
    have hm : sh.manager = (a.inWorld sh.bus.world).server.shared.manager := hm
    obtain ⟨hmanager, hworld⟩ := conn.cleanup_world (p := p) o.cleanupJoin o.keys hm rfl
    unfold Server.ended Server.after
    rw [hmanager, hworld]
    rfl
  unfold step at hhangup
  split at hhangup
  · cases hhangup
  · rename_i sv out hfinish
    rw [Server.step, show (a.inWorld sh.bus.world).server.connections.lookup c = some conn
      from hconn] at hfinish
    obtain ⟨hk, rfl, rfl⟩ := Server.finish_cases p hfinish
    cases hhangup
    rw [← hended]
    have hk : o.keys.Nodup ∧ o.keys.toFinset = conn.sessions.keys := hk
    have hby (out : Output) : attachedBy (.receive c request.message o) out = none := by
      cases request <;> rfl
    have hstep : a.server.step p (.receive c request.message o)
        = some (a.server.ended p c conn sh o,
          { reply := some resp
            calls := (conn.cleanup p o.cleanupJoin o.keys sh).2.bus.calls }) := by
      simp only [Server.step, hconn, hserved, hsent, Server.finish, if_pos hk]
      rfl
    have hnotes (out out' : Output) (m : DeviceManager) :
        a.audit.record (.receive c request.message o) out m
          = (a.inWorld sh.bus.world).audit.record (.hangup c o) out' m := by
      simp only [Audit.record, hby]
      rfl
    rw [step, hstep]
    exact congrArg (fun notes => some (Audited.mk _ notes)) (hnotes _ _ _)

/-- **With nothing in between the two steps are the one** of the server:
the lookup of a transfer's handle and its execution lead where serving its
message does. -/
theorem Airborne.receive_eq {s s₁ s₂ : Airborne W} {c : Nat} {request : TransferRequest}
    {o : Outcome} (hok : s.audited.Ok) (hlook : s.step p (.lookup c request) = some s₁)
    (hexec : s₁.step p (.execute c o) = some s₂) :
    s.audited.step p (.receive c request.message o) = some s₂.audited ∧
      s₂.flights = s.flights := by
  rw [step] at hlook
  split at hlook
  · rename_i conn hnone hconn
    split at hlook
    · cases hlook
    · rename_i hgate
      split at hlook
      · cases hlook
      · rename_i handle sh hhandle
        cases hlook
        obtain ⟨resp, hserved⟩ := Connection.handleMessage_transfer (Bool.not_eq_true _ ▸ hgate)
          o.join hhandle
        have hflights : Function.update (Function.update s.flights c (some ⟨request, handle⟩)) c
            none = s.flights := by
          rw [Function.update_idem, ← hnone, Function.update_eq_self]
        -- the task of the transfer runs, in either system, in the same world
        have hmanager : (spawnBlocking o.join
            (Shared.reading (request.execute p handle)) sh).2.manager
              = s.audited.server.manager := by
          rw [Connection.spawnBlocking_reading_manager]
          have h := Connection.transferHandle_manager p conn request.sessionId request.deviceId
            s.audited.server.shared
          rwa [hhandle] at h
        have hworld : (spawnBlocking o.join (Shared.reading (request.execute p handle))
            (s.audited.inWorld sh.bus.world).server.shared).2.bus.world
              = (spawnBlocking o.join
                (Shared.reading (request.execute p handle)) sh).2.bus.world := by
          cases o.join with
          | some e => rfl
          | none => exact request.execute_world handle rfl
        simp only [step, Function.update_self, hworld, hflights] at hexec
        split at hexec
        · rename_i hsent
          cases hexec
          exact ⟨Audited.receive_sent hok hconn hmanager hserved hsent, rfl⟩
        · rename_i hsent
          obtain ⟨a', ha', rfl⟩ := Option.map_eq_some_iff.mp hexec
          exact ⟨Audited.receive_unsent hconn hmanager hserved (by simpa using hsent) ha', rfl⟩
  · cases hlook

end WolfUsb
