/-
WolfUsb.Server.ExclusionTheorems — Attach and Bridge on one device.

Neither path looks at the other's tables, so a client bridges a device
that another has attached (`bridge_takes_attached_device`), or attaches
one that is being bridged. `attach_bridge_exclusive` is the rule they
would have to follow: while one connection has a device attached, no other
is engaged in bridging it.
-/
import WolfUsb.Lib.Runs
import WolfUsb.Server.ConnectionTheorems
import WolfUsb.Server.ListenerTheorems
import WolfUsb.Server.RegistryTheorems
import WolfUsb.Server.Host

namespace WolfUsb

open WolfUsb.Lib KernelUsbip

variable {W : Type} (p : Platform W)

/-! ## Who bridges a device -/

namespace Bridge.Pc

/-- The task has returned. -/
def isDone : Pc → Bool
  | .done _ => true
  | _ => false

/-- The task is between the end of its `bind` and its return. -/
def exporting : Pc → Bool
  | .lookup | .isBound | .release _ | .settle _ | .readInfo | .bind _ | .done _ => false
  | _ => true

theorem not_done_of_exporting {pc : Pc} (h : pc.exporting = true) : pc.isDone = false := by
  cases pc with
  | done result => cases h
  | _ => rfl

/-- A task that has returned does nothing. -/
theorem step_done {env : BridgeEnv} {pc : Pc} {d : SysfsDevice} (h : pc.isDone = true) :
    step env pc d = (pc, d) := by
  cases pc with
  | done result => rfl
  | _ => cases h

end Bridge.Pc

namespace Host

/-- Device `d` is bound to usbip-host on behalf of connection `c`: by its
task, or as its task goes on to use it. -/
def Exports (h : Host W) (c : Nat) (d : DeviceId) : Prop :=
  (h.devices d).isBound = true ∧
    (h.exportedFor d = some c ∨
      ∃ t, h.tasks.lookup c = some t ∧ t.target = d ∧ t.pc.exporting = true)

/-- Connection `c` is engaged in bridging `d`: its task for `d` has not
returned, or its binding is in place. -/
def Engaged (h : Host W) (c : Nat) (d : DeviceId) : Prop :=
  h.exportedFor d = some c ∨
    ∃ t, h.tasks.lookup c = some t ∧ t.target = d ∧ t.pc.isDone = false

theorem Exports.engaged {h : Host W} {c : Nat} {d : DeviceId} (he : h.Exports c d) :
    h.Engaged c d := by
  rcases he.2 with hown | ⟨t, ht, htarget, hpc⟩
  · exact Or.inl hown
  · exact Or.inr ⟨t, ht, htarget, Bridge.Pc.not_done_of_exporting hpc⟩

end Host

/-! ## The rule -/

/-- The Bridge request an event carries. -/
def Event.bridging : Event → Option (Nat × BridgeRequest)
  | .receive c (.bridge req) _ => some (c, req)
  | _ => none

/-- Neither the gate nor the manager refuses an Attach of `d` on connection
`c`: the gate is open, and the device is there and not attached. -/
def Server.CanAttach (sv : Server W) (c : Nat) (d : DeviceId) : Prop :=
  (∀ conn ∈ sv.connections.lookup c, conn.gated = false) ∧ d ∉ sv.manager.attachments ∧
    (DeviceManager.findDevice p d sv.shared.bus).1.isOk = true

instance (sv : Server W) (c : Nat) (d : DeviceId) : Decidable (sv.CanAttach p c d) :=
  inferInstanceAs (Decidable ((∀ conn ∈ sv.connections.lookup c, _) ∧ _ ∧ _))

/-- A manager that attached the device had found it, and not attached. -/
theorem DeviceManager.found_of_attach {m : DeviceManager} {d : DeviceId} {addr : SocketAddr}
    {u : Bus W} {s : UInt64} (h : (m.attach p d addr u).1 = .ok s) :
    d ∉ m.attachments ∧ (findDevice p d u).1.isOk = true := by
  unfold attach at h
  split at h
  · cases h
  · rename_i hd
    split at h
    · cases h
    · rename_i hfound
      rw [hfound]
      exact ⟨hd, rfl⟩

theorem Connection.canAttach_of_success {conn : Connection} {join : Option String}
    {d : DeviceId} {sh : Shared W} {resp : AttachResponse}
    (h : (conn.handleMessage p join (.attach ⟨d⟩) sh).1.message = .attachResult resp)
    (hsuccess : resp.success = true) :
    conn.gated = false ∧ d ∉ sh.manager.attachments ∧
      (DeviceManager.findDevice p d sh.bus).1.isOk = true := by
  by_cases hgate : conn.gated = true
  · simp only [handleMessage, if_pos hgate] at h
    cases h
  · refine ⟨Bool.eq_false_iff.mpr hgate, ?_⟩
    simp only [handleMessage, if_neg hgate] at h
    have h : (handleAttach p join conn ⟨d⟩ sh).1 = .attachResult resp := h
    unfold handleAttach spawnBlocking Shared.locked at h
    cases join with
    | some e =>
        cases h
        cases hsuccess
    | none =>
        cases hattach : (sh.manager.attach p d conn.peerAddr sh.bus).1 with
        | error e =>
            simp only [hattach] at h
            cases h
            cases hsuccess
        | ok s => exact DeviceManager.found_of_attach p hattach

theorem Server.StepsTo.canAttach {sv sv' : Server W} {c : Nat} {d : DeviceId} {o : Outcome}
    {out : Output} {resp : AttachResponse}
    (hstep : Server.StepsTo p sv (.receive c (.attach ⟨d⟩) o) sv' out)
    (hreply : out.reply = some (.attachResult resp)) (hsuccess : resp.success = true) :
    sv.CanAttach p c d := by
  obtain ⟨conn, hconn, hmessage⟩ := hstep.reply_eq
  obtain ⟨hgate, hfree, hfound⟩ := Connection.canAttach_of_success p
    (Option.some.inj (hmessage.symm.trans hreply)) hsuccess
  refine ⟨fun conn' hconn' => ?_, hfree, hfound⟩
  obtain rfl := Option.some.inj (hconn.symm.trans hconn')
  exact hgate

namespace Host

/-- An Attach request that can be carried out comes when no other
connection is engaged in bridging its device. -/
def AttachFree (h : Host W) (e : Event) : Prop :=
  ∀ q ∈ e.attaching, h.audited.server.CanAttach p q.1 q.2.deviceId →
    (∀ c ∈ h.exportedFor q.2.deviceId, c = q.1) ∧
      ∀ c ∈ h.tasks.keys, ∀ t ∈ h.tasks.lookup c, t.target = q.2.deviceId →
        t.pc.isDone = false → c = q.1

/-- A Bridge request that starts a task comes when no other connection has
its device attached. -/
def BridgeFree (h : Host W) (e : Event) : Prop :=
  ∀ q ∈ e.bridging, h.audited.server.handsOff p q.1 e = true →
    (∀ conn ∈ h.audited.server.connections.lookup q.1, conn.stream = .plain →
      ∀ g ∈ h.audited.audit.grants q.2.deviceId, g.conn = q.1)

/-- The requests of an event keep Attach and Bridge apart. -/
def KeepsApart (h : Host W) : HostEvent → Prop
  | .server e => h.AttachFree p e ∧ h.BridgeFree p e
  | _ => True

instance (h : Host W) (e : Event) : Decidable (h.AttachFree p e) :=
  inferInstanceAs (Decidable (∀ q ∈ e.attaching, _ → _ ∧
    ∀ c ∈ h.tasks.keys, ∀ t ∈ h.tasks.lookup c, _ → _ → _))

instance (h : Host W) (e : Event) : Decidable (h.BridgeFree p e) :=
  inferInstanceAs (Decidable (∀ q ∈ e.bridging, _ →
    ∀ conn ∈ h.audited.server.connections.lookup q.1, _ → ∀ g ∈ _, _))

instance (h : Host W) : ∀ e, Decidable (h.KeepsApart p e)
  | .server _ => inferInstanceAs (Decidable (_ ∧ _))
  | .bridge _ _ => isTrue trivial
  | .letGo _ => isTrue trivial

theorem AttachFree.engaged {h : Host W} {e : Event} {c c' : Nat} {d : DeviceId} {o : Outcome}
    (he : e = .receive c (.attach ⟨d⟩) o) (hcan : h.audited.server.CanAttach p c d)
    (hfree : h.AttachFree p e) (heng : h.Engaged c' d) : c' = c := by
  subst he
  obtain ⟨hown, htasks⟩ := hfree (c, ⟨d⟩) rfl hcan
  rcases heng with hexp | ⟨t, ht, htarget, hpc⟩
  · exact hown c' hexp
  · exact htasks c' (Finmap.mem_keys.mpr (Finmap.mem_of_lookup_eq_some ht)) t ht htarget hpc

/-- An event that hands no plain stream off starts no task. -/
theorem spawn_none {out : Output} (hout : out.bridge = none) (tasks : HashMap Nat BridgeTask)
    (e : Event) : spawn tasks e out = tasks := by
  unfold spawn
  split
  · rw [hout]
  · rfl

/-- A task is started for the target of a hand-off of a plain stream. -/
theorem spawned {sv sv' : Server W} {e : Event} {out : Output} {target : DeviceId}
    (hstep : sv.step p e = some (sv', out)) (hout : out.bridge = some target) :
    ∃ c o conn, e = .receive c (.bridge ⟨target⟩) o ∧ sv.connections.lookup c = some conn ∧
      conn.stream = .plain ∧ sv.handsOff p c e = true := by
  cases Server.step_cases p hstep with
  | @handOff c msg o conn conn' resp target' sh hc hm hs =>
      obtain ⟨rfl, rfl, -⟩ := Connection.handleMessage_bridge p hm
      have hstream : conn'.stream = .plain ∧ target' = target := by
        simp only [Server.handOff] at hout
        split at hout
        · exact ⟨by assumption, Option.some.inj hout⟩
        · cases hout
      obtain ⟨hstream, rfl⟩ := hstream
      rw [Bool.and_eq_true] at hs
      exact ⟨c, o, conn', rfl, hc, hstream, by simp [Server.handsOff, hs, hc, hm]⟩
  | _ => cases hout

/-- While a connection has a device attached, no other is engaged in
bridging it. -/
def Exclusive (h : Host W) : Prop :=
  ∀ d g c, h.audited.audit.grants d = some g → h.Engaged c d → g.conn = c

theorem Exclusive.server {h : Host W} {sv : Server W} {e : Event} {out : Output}
    (hx : h.Exclusive) (hC : h.KeepsApart p (.server e))
    (hstep : h.audited.server.step p e = some (sv, out)) :
    Exclusive { h with
      audited := ⟨sv, h.audited.audit.record e out sv.manager⟩
      tasks := spawn h.tasks e out } := by
  intro d g c hg heng
  -- the engagement is an old one, or that of a task for `d` this event starts
  have hcase : h.Engaged c d ∨ ∃ o conn, e = .receive c (.bridge ⟨d⟩) o ∧
      h.audited.server.connections.lookup c = some conn ∧ conn.stream = .plain ∧
      h.audited.server.handsOff p c e = true := by
    rcases heng with hexp | ⟨t, ht, htarget, hpc⟩
    · exact Or.inl (Or.inl hexp)
    · have hlook : (spawn h.tasks e out).lookup c = some t := ht
      cases hout : out.bridge with
      | none =>
          rw [spawn_none hout] at hlook
          exact Or.inl (Or.inr ⟨t, hlook, htarget, hpc⟩)
      | some target =>
          obtain ⟨c', o, conn, rfl, hconn, hstream, hoff⟩ := spawned p hstep hout
          simp only [spawn, hout] at hlook
          rw [lookup_insert_eq] at hlook
          split at hlook
          · rename_i heq
            subst heq
            obtain rfl := Option.some.inj hlook
            obtain rfl : target = d := htarget
            exact Or.inr ⟨o, conn, rfl, hconn, hstream, hoff⟩
          · exact Or.inl (Or.inr ⟨t, hlook, htarget, hpc⟩)
  rcases Audit.record_grants hg with hold | ⟨o, resp, rfl, hreply, hsuccess⟩
  · rcases hcase with hengaged | ⟨o, conn, rfl, hconn, hstream, hoff⟩
    · exact hx d g c hold hengaged
    · exact hC.2 (c, ⟨d⟩) rfl hoff conn hconn hstream g hold
  · rcases hcase with hengaged | ⟨o', conn, heq, -⟩
    · have hcan := (Server.step_cases p hstep).canAttach p hreply hsuccess
      exact (hC.1.engaged p rfl hcan hengaged).symm
    · cases heq

theorem Exclusive.bridge {h : Host W} {c₀ : Nat} {t₀ : BridgeTask} {env : Bridge.BridgeEnv}
    (hx : h.Exclusive) (ht₀ : h.tasks.lookup c₀ = some t₀) : (h.operate c₀ t₀ env).Exclusive := by
  intro d g c hg heng
  refine hx d g c hg ?_
  rcases heng with hexp | ⟨t, ht, htarget, hpc⟩
  · have hexp : Function.update h.exportedFor t₀.target _ d = some c := hexp
    by_cases hd : d = t₀.target
    · subst hd
      rw [Function.update_self] at hexp
      split at hexp
      · split at hexp
        · exact Or.inl hexp
        · -- the operation bound the device, so the task had not returned
          rename_i hbound hfree
          cases hexp
          refine Or.inr ⟨t₀, ht₀, rfl, ?_⟩
          cases hdone : t₀.pc.isDone with
          | false => rfl
          | true =>
              rw [Bridge.Pc.step_done hdone] at hbound
              exact absurd hbound hfree
      · cases hexp
    · rw [Function.update_of_ne hd] at hexp
      exact Or.inl hexp
  · have hlook : (h.tasks.insert c₀ { t₀ with pc := _ }).lookup c = some t := ht
    rw [lookup_insert_eq] at hlook
    split at hlook
    · rename_i heq
      subst heq
      obtain rfl := Option.some.inj hlook
      refine Or.inr ⟨t₀, ht₀, htarget, ?_⟩
      cases hdone : t₀.pc.isDone with
      | false => rfl
      | true =>
          rw [Bridge.Pc.step_done hdone] at hpc
          rw [hdone] at hpc
          cases hpc
    · exact Or.inr ⟨t, hlook, htarget, hpc⟩

theorem Exclusive.step {h h' : Host W} {e : HostEvent} (hx : h.Exclusive)
    (hC : h.KeepsApart p e) (hstep : h.step p e = some h') : h'.Exclusive := by
  cases e with
  | server e =>
      simp only [Host.step] at hstep
      split at hstep
      · cases hstep
      · rename_i sv out hsv
        cases hstep
        exact hx.server p hC hsv
  | bridge c env =>
      obtain ⟨t, ht, rfl⟩ := Option.map_eq_some_iff.mp hstep
      exact hx.bridge ht
  | letGo d =>
      cases hstep
      exact hx

theorem exclusive_start (sharedKey : Option Bytes) (tls : Bool) (world : W)
    (devices : DeviceId → SysfsDevice) :
    (Host.start sharedKey tls world devices).Exclusive := fun _ _ _ hg => nomatch hg

end Host

/-! ## Runs -/

/-- The devices of a host on which nothing is exported. -/
def normalDevices : DeviceId → SysfsDevice := fun _ => ⟨.normal, false, 0⟩

/-- Connection 0 attaches 1:2, connection 1 bridges 1:2, and its task comes
as far as the write to `bind`. -/
def attachedThenBridged : List HostEvent :=
  [.server (.accept ⟨"10.0.0.1", 4000⟩), .server (.accept ⟨"10.0.0.2", 4000⟩),
    .server (.receive 0 (.attach ⟨⟨1, 2⟩⟩) {}), .server (.receive 1 (.bridge ⟨⟨1, 2⟩⟩) {})] ++
    List.replicate 10 (.bridge 1 { request := none })

/-- The device is attached for connection 0 and exported for connection 1. -/
theorem bridge_takes_attached_device :
    ∃ h, Run (Guarded (Host.step twoDeviceHost)) (.start none false 0 normalDevices)
        attachedThenBridged h ∧
      h.audited.audit.grants ⟨1, 2⟩ = some ⟨0, 1, 0⟩ ∧ h.Exports 1 ⟨1, 2⟩ := by
  have hplay : (play (Host.step twoDeviceHost) (.start none false 0 normalDevices)
      attachedThenBridged).map (fun h => (h.audited.audit.grants ⟨1, 2⟩,
        (h.devices ⟨1, 2⟩).isBound, h.exportedFor ⟨1, 2⟩))
      = some (some ⟨0, 1, 0⟩, true, some 1) := by decide +kernel
  obtain ⟨h, hh, heq⟩ := Option.map_eq_some_iff.mp hplay
  obtain ⟨hgrant, hrest⟩ := Prod.mk.inj heq
  obtain ⟨hbound, hexp⟩ := Prod.mk.inj hrest
  exact ⟨h, play_iff_run.mp hh, hgrant, hbound, Or.inl hexp⟩

/-- **Attach and Bridge exclude each other** in every state of a run whose
requests keep them apart, whatever the devices are like at the start. -/
theorem attach_bridge_exclusive (sharedKey : Option Bytes) (tls : Bool) (world : W)
    (devices : DeviceId → SysfsDevice) {es : List HostEvent}
    (hC : StepsAlong (Guarded (Host.step p)) (fun h e => h.KeepsApart p e)
      (.start sharedKey tls world devices) es) :
    StatesAlong (Guarded (Host.step p))
      (fun h => ∀ d g c, h.audited.audit.grants d = some g → h.Exports c d → g.conn = c)
      (.start sharedKey tls world devices) es := by
  have hstates : StatesAlong (Guarded (Host.step p)) (fun h => h.Exclusive)
      (.start sharedKey tls world devices) es :=
    statesAlong_of_stepsAlong (fun _ _ _ hx hC' hstep => hx.step p hC' hstep)
      (Host.exclusive_start sharedKey tls world devices) hC
  exact hstates.mono fun h hx d g c hg he => hx d g c hg he.engaged

/-- Connection 0 attaches 1:2 and connection 1 bridges 1:3. -/
theorem attach_bridge_exclusive_two_devices :
    StatesAlong (Guarded (Host.step twoDeviceHost))
      (fun h => ∀ d g c, h.audited.audit.grants d = some g → h.Exports c d → g.conn = c)
      (.start none false 0 normalDevices)
      ([.server (.accept ⟨"10.0.0.1", 4000⟩), .server (.accept ⟨"10.0.0.2", 4000⟩),
        .server (.receive 0 (.attach ⟨⟨1, 2⟩⟩) {}), .server (.receive 1 (.bridge ⟨⟨1, 3⟩⟩) {})] ++
        List.replicate 10 (.bridge 1 { request := none })) :=
  attach_bridge_exclusive twoDeviceHost none false 0 normalDevices (by decide +kernel)

end WolfUsb
