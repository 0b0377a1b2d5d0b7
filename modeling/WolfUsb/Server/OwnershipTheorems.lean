/-
WolfUsb.Server.OwnershipTheorems — what a connection owns: the handles its
transfers drive and the sessions it keeps.

Each section has the behaviour that breaks the property, then the
condition under which every run keeps it:

* a transfer looks the handle up by device, so a session that outlives its
  attachment drives the handle of whoever attached the device next
  (`stale_session_drives_new_handle`, `transfer_uses_own_attachment`);
* a refused Detach drops the session it came with, whichever device that
  is for (`refused_detach_drops_session`, `session_kept`).

What is left of a connection when it ends is in `Server.CleanupTheorems`.
-/
import WolfUsb.Server.Coherence

namespace WolfUsb

open WolfUsb.Lib

variable {W : Type} (p : Platform W)

/-! ## Transfers -/

/-- Connection 1 detaches connection 0's device 1:2 with the session of its
own 1:3 and attaches 1:2 itself. -/
def takenOver : List Event :=
  [.accept ⟨"10.0.0.1", 4000⟩, .accept ⟨"10.0.0.2", 4000⟩, .receive 0 (.attach ⟨⟨1, 2⟩⟩) {},
    .receive 1 (.attach ⟨⟨1, 3⟩⟩) {}, .receive 1 (.detach ⟨⟨1, 2⟩, 2⟩) {},
    .receive 1 (.attach ⟨⟨1, 2⟩⟩) {}]

/-- Session 1 of connection 0, whose attachment is gone, obtains handle 2,
which connection 1 opened. -/
theorem stale_session_drives_new_handle :
    ∃ a conn, Run (Audited.Steps twoDeviceHost) (.start none false 0) takenOver a ∧
      a.server.connections.lookup 0 = some conn ∧
      (conn.transferHandle twoDeviceHost 1 ⟨1, 2⟩ a.server.shared).1.toOption = some 2 ∧
      a.audit.grants ⟨1, 2⟩ = some ⟨1, 3, 2⟩ := by
  have hplay : (play (Audited.step twoDeviceHost) (.start none false 0) takenOver).map
      (fun a => ((a.server.connections.lookup 0).map fun conn =>
          (conn.transferHandle twoDeviceHost 1 ⟨1, 2⟩ a.server.shared).1.toOption,
        a.audit.grants ⟨1, 2⟩)) = some (some (some 2), some ⟨1, 3, 2⟩) := by decide +kernel
  obtain ⟨a, ha, heq⟩ := Option.map_eq_some_iff.mp hplay
  obtain ⟨hhandle, hgrant⟩ := Prod.mk.inj heq
  obtain ⟨conn, hconn, hget⟩ := Option.map_eq_some_iff.mp hhandle
  exact ⟨a, conn, play_iff_run.mp ha, hconn, hget, hgrant⟩

/-- **Transfers drive their own attachment.** The handle a transfer of
connection `c` with session `s` obtains is the one opened by the Attach
that returned `s` to `c`, and that attachment is the device's current one. -/
theorem transfer_uses_own_attachment (sharedKey : Option Bytes) (tls : Bool) (world : W)
    {es : List Event}
    (hC : StepsAlong (Audited.Steps p)
      (fun a e => a.server.DetachMatches e ∧ a.server.TicketUnused e)
      (.start sharedKey tls world) es) :
    StatesAlong (Audited.Steps p)
      (fun a => ∀ c conn s d h, a.server.connections.lookup c = some conn →
        (conn.transferHandle p s d a.server.shared).1 = .ok h →
        a.audit.grants d = some ⟨c, s, h⟩)
      (.start sharedKey tls world) es := by
  refine (coherent_along p sharedKey tls world hC).mono fun a ha c conn s d h hconn hok => ?_
  obtain ⟨hs, hsd, info, hinfo, rfl⟩ := Connection.transferHandle_ok p hok
  obtain ⟨info', hinfo', hg⟩ := ha.own (Audited.registry_table hconn) hs hsd
  obtain rfl : info' = info := Option.some.inj (hinfo'.symm.trans hinfo)
  exact hg

/-- Two clients with a device each; the second detaches its own. -/
theorem transfer_uses_own_attachment_two_clients :
    StatesAlong (Audited.Steps twoDeviceHost)
      (fun a => ∀ c conn s d h, a.server.connections.lookup c = some conn →
        (conn.transferHandle twoDeviceHost s d a.server.shared).1 = .ok h →
        a.audit.grants d = some ⟨c, s, h⟩)
      (.start none false 0)
      [.accept ⟨"10.0.0.1", 4000⟩, .accept ⟨"10.0.0.2", 4000⟩, .receive 0 (.attach ⟨⟨1, 2⟩⟩) {},
        .receive 1 (.attach ⟨⟨1, 3⟩⟩) {}, .receive 1 (.detach ⟨⟨1, 3⟩, 2⟩) {}] :=
  transfer_uses_own_attachment twoDeviceHost none false 0 (by decide +kernel)

/-! ## Sessions kept -/

namespace Server

/-- A Detach request of connection `c` that gets past its table names the
device its table has for the session, unless that device is not attached. -/
def KeepsSession (c : Nat) (sv : Server W) (e : Event) : Prop :=
  ∀ q ∈ e.detaching, q.1 = c → ∀ conn ∈ sv.connections.lookup c,
    ∀ d ∈ conn.sessions.lookup q.2.sessionId,
      d = q.2.deviceId ∨ d ∉ sv.manager.attachments

/-- An Attach request of connection `c` finds the session counter at an id
that is not in `c`'s table. -/
def TicketNew (c : Nat) (sv : Server W) (e : Event) : Prop :=
  ∀ q ∈ e.attaching, q.1 = c → ∀ conn ∈ sv.connections.lookup c,
    sv.manager.nextSessionId ∉ conn.sessions

/-- A Detach of connection `c` answered with `success: false` leaves `c`
every session whose device is still attached. -/
def RefusalKeeps (c : Nat) (sv : Server W) (e : Event) : Prop :=
  ∀ req o sv' out resp conn conn', e = .receive c (.detach req) o →
    sv.step p e = some (sv', out) → out.reply = some (.detachResult resp) →
    resp.success = false → sv.connections.lookup c = some conn →
    sv'.connections.lookup c = some conn' →
    ∀ s d, conn.sessions.lookup s = some d → d ∈ sv'.manager.attachments →
      conn'.sessions.lookup s = some d

instance (c : Nat) (sv : Server W) (e : Event) : Decidable (sv.KeepsSession c e) :=
  inferInstanceAs (Decidable (∀ q ∈ e.detaching, _ → ∀ conn ∈ sv.connections.lookup c,
    ∀ d ∈ conn.sessions.lookup q.2.sessionId, _ ∨ _))

instance (c : Nat) (sv : Server W) (e : Event) : Decidable (sv.TicketNew c e) :=
  inferInstanceAs (Decidable (∀ q ∈ e.attaching, _ → ∀ conn ∈ sv.connections.lookup c, _))

theorem KeepsSession.refusal {sv : Server W} {c : Nat} {e : Event} (h : sv.KeepsSession c e) :
    sv.RefusalKeeps p c e := by
  rintro req o sv' out resp conn conn' rfl hstep hreply hfail hconn hconn' s d hs hd
  have hcases := step_cases p hstep
  cases hcases with
  | @reply c msg o conn₀ conn₁ resp₀ sh hc hm hsent =>
      obtain rfl : conn₀ = conn := Option.some.inj (hc.symm.trans hconn)
      obtain rfl : conn₁ = conn' := by
        have hlook : (sv.connections.insert c conn₁).lookup c = some conn' := hconn'
        rw [Finmap.lookup_insert] at hlook
        exact Option.some.inj hlook
      obtain rfl := Option.some.inj hreply
      have heff := Connection.handleMessage_effect p o.join conn₀ (.detach req) sv.shared
      rw [hm] at heff
      rcases heff.refused hfail with hsame | ⟨hj, hd₀, hman, herase⟩
      · rw [hsame]
        exact hs
      · -- the one entry that goes is that of a device that is not attached
        have hd' : d ∈ sv.manager.attachments := by
          have hman : sh.manager = sv.manager := hman
          rw [← hman]
          exact hd
        rw [herase, lookup_erase_eq, if_neg]
        · exact hs
        · rintro rfl
          rcases h (c, req) (by simp [Event.detaching, hj]) rfl conn₀ hconn d hs with rfl | hnot
          · exact hd₀ hd'
          · exact hnot hd'
  | @handOff c msg o conn₀ conn₁ resp₀ target sh hc hm hsent =>
      have hlook : (sv.connections.erase c).lookup c = some conn' := hconn'
      rw [Finmap.lookup_erase] at hlook
      cases hlook
  | @drop c msg o conn₀ conn₁ action sh hc hm hsent hk =>
      have hlook : (sv.connections.erase c).lookup c = some conn' := hconn'
      rw [Finmap.lookup_erase] at hlook
      cases hlook

end Server

/-- Every attachment of connection `c` is under a session in its table. -/
def Registry.Retained (r : Registry) (c : Nat) : Prop :=
  ∀ t d s h, r.tables c = some t → r.grants d = some ⟨c, s, h⟩ → t.lookup s = some d

namespace Registry.Retained

variable {r r' : Registry} {c : Nat}

/-- The table of `c` stays, and no new attachment is `c`'s. -/
theorem frame (h : r.Retained c) (ht : r'.tables c = r.tables c)
    (hg : ∀ x s handle, r'.grants x = some ⟨c, s, handle⟩ →
      r.grants x = some ⟨c, s, handle⟩) : r'.Retained c := by
  intro t x s handle ht' hg'
  exact h t x s handle (ht ▸ ht') (hg x s handle hg')

/-- `c`'s table loses a session under which no attachment of `c` is left. -/
theorem erase (h : r.Retained c) {t : HashMap UInt64 DeviceId} {s₀ : UInt64}
    (hc : r.tables c = some t) (ht : r'.tables c = some (t.erase s₀))
    (hg : ∀ x s handle, r'.grants x = some ⟨c, s, handle⟩ →
      r.grants x = some ⟨c, s, handle⟩ ∧ s ≠ s₀) : r'.Retained c := by
  intro t' x s handle ht' hg'
  obtain rfl : t.erase s₀ = t' := Option.some.inj (ht.symm.trans ht')
  obtain ⟨hold, hne⟩ := hg x s handle hg'
  rw [Finmap.lookup_erase_ne hne]
  exact h t x s handle hc hold

/-- A device is attached for `c` under a session new to its table. -/
theorem insert (h : r.Retained c) {t : HashMap UInt64 DeviceId} {s₀ : UInt64} {d : DeviceId}
    {handle₀ : Handle} (hc : r.tables c = some t) (hs : s₀ ∉ t)
    (ht : r'.tables c = some (t.insert s₀ d))
    (hg : r'.grants = Function.update r.grants d (some ⟨c, s₀, handle₀⟩)) : r'.Retained c := by
  intro t' x s handle ht' hg'
  obtain rfl : t.insert s₀ d = t' := Option.some.inj (ht.symm.trans ht')
  rw [hg] at hg'
  by_cases hxd : x = d
  · subst hxd
    rw [Function.update_self] at hg'
    cases hg'
    exact Finmap.lookup_insert t
  · rw [Function.update_of_ne hxd] at hg'
    have hold := h t x s handle hc hg'
    have hne : s ≠ s₀ := by
      rintro rfl
      exact hs (Finmap.mem_of_lookup_eq_some hold)
    rw [Finmap.lookup_insert_of_ne t hne]
    exact hold

end Registry.Retained

/-- A Detach of `c` that keeps sessions names the device of any attachment
`c` has under its session. -/
theorem Server.KeepsSession.names {a : Audited W} {c : Nat} {d x : DeviceId} {s : UInt64}
    {handle : Handle} {o : Outcome} (hok : a.Ok) (hret : a.registry.Retained c)
    (h : a.server.KeepsSession c (.receive c (.detach ⟨d, s⟩) o)) (hj : o.join = none)
    {t : HashMap UInt64 DeviceId} (hc : a.registry.tables c = some t)
    (hg : a.audit.grants x = some ⟨c, s, handle⟩) : x = d ∧ x ∈ a.server.manager.attachments := by
  have hx : x ∈ a.server.manager.attachments := by
    by_contra hx
    rw [hok.tight x hx] at hg
    cases hg
  have hold := hret t x s handle hc hg
  obtain ⟨conn, hconn, rfl⟩ := Option.map_eq_some_iff.mp hc
  rcases h (c, ⟨d, s⟩) (by simp [Event.detaching, hj]) rfl conn hconn x hold with rfl | hnot
  · exact ⟨rfl, hx⟩
  · exact absurd hx hnot

/-- An operation caused by an event that is not the last one of `c`. -/
theorem Registry.Retained.step {a : Audited W} {e : Event} {c : Nat} {r r' : Registry}
    {op : RegOp} (hok : a.Ok) (hkeep : a.server.KeepsSession c e) (hnew : a.server.TicketNew c e)
    (hlive : ¬ a.Ends p e c) (hcause : Caused p a e r op) (hstep : r.Step op r')
    (h : r.Retained c) : r'.Retained c := by
  cases hstep with
  | accept hc =>
      cases hcause with
      | accept =>
          intro t x s handle ht hg
          have hne : c ≠ a.server.accepted := Nat.ne_of_lt (hok.known x _ hg)
          exact h t x s handle (by simpa [hne] using ht) hg
  | @attach c₀ t d info hc hd =>
      by_cases hcc : c = c₀
      · subst hcc
        cases hcause with
        | attach =>
            obtain ⟨conn, hconn, rfl⟩ := Option.map_eq_some_iff.mp hc
            exact h.insert hc (hnew (c, ⟨d⟩) rfl rfl conn hconn) (withTable_self ..) rfl
      · refine h.frame (withTable_of_ne _ _ _ hcc) fun x s handle hg => ?_
        have hg : Function.update r.grants d (some ⟨c₀, _, _⟩) x = some ⟨c, s, handle⟩ := hg
        rw [Function.update_apply] at hg
        split at hg
        · cases hg
          exact absurd rfl hcc
        · exact hg
  | @detach c₀ t d s₀ hc hs hd =>
      -- what is left of the grants is of other devices
      have hleft : ∀ x g, Function.update r.grants d none x = some g →
          x ≠ d ∧ r.grants x = some g := fun x g => update_none_eq_some.mp
      by_cases hcc : c = c₀
      · subst hcc
        refine h.erase hc (withTable_self ..) fun x s handle hg => ?_
        obtain ⟨hxd, hold⟩ := hleft x _ hg
        refine ⟨hold, ?_⟩
        rintro rfl
        cases hcause with
        | sweep hends hsd => exact hlive hends
        | detach hj => exact hxd (hkeep.names hok h hj hc hold).1
      · exact h.frame (withTable_of_ne _ _ _ hcc) fun x s handle hg => (hleft x _ hg).2
  | @refuse c₀ t d s₀ hc hs hd =>
      by_cases hcc : c = c₀
      · subst hcc
        refine h.erase hc (withTable_self ..) fun x s handle hg => ⟨hg, ?_⟩
        rintro rfl
        cases hcause with
        | refuse hj =>
            obtain ⟨rfl, hx⟩ := hkeep.names hok h hj hc hg
            exact hd hx
      · exact h.frame (withTable_of_ne _ _ _ hcc) fun x s handle hg => hg
  | touch hm => exact h
  | @close c₀ t hc =>
      intro t' x s handle ht hg
      by_cases hcc : c = c₀
      · subst hcc
        simp at ht
      · exact h t' x s handle (by simpa [hcc] using ht) hg

/-- An event, the last one of `c` included. -/
theorem retained_step {a a' : Audited W} {e : Event} {c : Nat} (hok : a.Ok)
    (hkeep : a.server.KeepsSession c e) (hnew : a.server.TicketNew c e)
    (hstep : a.step p e = some a') (h : a.registry.Retained c) : a'.registry.Retained c := by
  by_cases hends : a.Ends p e c
  · intro t d s handle ht
    rw [hends a' hstep] at ht
    cases ht
  · exact registry_step p (I := fun r => r.Retained c)
      (fun r op r' hcause hop hr => hr.step p hok hkeep hnew hends hcause hop) hok hstep h

/-- Connection 0 attaches 1:2 and detaches 1:3, which is not attached, with
the session of 1:2. -/
def refusedDetach : List Event :=
  [.accept ⟨"10.0.0.1", 4000⟩, .receive 0 (.attach ⟨⟨1, 2⟩⟩) {},
    .receive 0 (.detach ⟨⟨1, 3⟩, 1⟩) {}]

/-- The attachment of 1:2 is connection 0's, which no longer has its session. -/
theorem refused_detach_drops_session :
    ∃ a conn, Run (Audited.Steps twoDeviceHost) (.start none false 0) refusedDetach a ∧
      a.server.connections.lookup 0 = some conn ∧
      a.audit.grants ⟨1, 2⟩ = some ⟨0, 1, 0⟩ ∧ conn.sessions.lookup 1 = none := by
  have hplay : (play (Audited.step twoDeviceHost) (.start none false 0) refusedDetach).map
      (fun a => ((a.server.connections.lookup 0).map fun conn => conn.sessions.lookup 1,
        a.audit.grants ⟨1, 2⟩)) = some (some none, some ⟨0, 1, 0⟩) := by decide +kernel
  obtain ⟨a, ha, heq⟩ := Option.map_eq_some_iff.mp hplay
  obtain ⟨hsession, hgrant⟩ := Prod.mk.inj heq
  obtain ⟨conn, hconn, hnone⟩ := Option.map_eq_some_iff.mp hsession
  exact ⟨a, conn, play_iff_run.mp ha, hconn, hgrant, hnone⟩

/-- **Sessions are kept.** Whatever the other connections send, a
connection whose own Detach requests name the device of their session has
in its table the session of every attachment that is its own, and no
refused Detach takes from it a session whose device is attached. -/
theorem session_kept (sharedKey : Option Bytes) (tls : Bool) (world : W) (c : Nat)
    {es : List Event}
    (hC : StepsAlong (Audited.Steps p)
      (fun a e => a.server.KeepsSession c e ∧ a.server.TicketNew c e)
      (.start sharedKey tls world) es) :
    StatesAlong (Audited.Steps p)
      (fun a => ∀ conn d s h, a.server.connections.lookup c = some conn →
        a.audit.grants d = some ⟨c, s, h⟩ → conn.sessions.lookup s = some d)
      (.start sharedKey tls world) es ∧
    StepsAlong (Audited.Steps p) (fun a e => a.server.RefusalKeeps p c e)
      (.start sharedKey tls world) es := by
  constructor
  · have hstart : (Audited.start sharedKey tls world).registry.Retained c := by
      intro t d s handle _ hg
      cases hg
    have hstates : StatesAlong (Audited.Steps p) (fun a => a.Ok ∧ a.registry.Retained c)
        (.start sharedKey tls world) es :=
      statesAlong_of_stepsAlong
        (fun a e a' hI hC hstep => ⟨hI.1.step p hstep, retained_step p hI.1 hC.1 hC.2 hstep hI.2⟩)
        ⟨Audited.ok_start sharedKey tls world, hstart⟩ hC
    refine hstates.mono fun a ha conn d s handle hconn hg => ?_
    exact ha.2 conn.sessions d s handle (Audited.registry_table hconn) hg
  · exact hC.mono fun a e h => h.1.refusal p

/-- Connection 0 detaches its own device, and is then refused one it does
not have. -/
theorem session_kept_own_detach :
    StatesAlong (Audited.Steps twoDeviceHost)
      (fun a => ∀ conn d s h, a.server.connections.lookup 0 = some conn →
        a.audit.grants d = some ⟨0, s, h⟩ → conn.sessions.lookup s = some d)
      (.start none false 0)
      [.accept ⟨"10.0.0.1", 4000⟩, .receive 0 (.attach ⟨⟨1, 2⟩⟩) {},
        .receive 0 (.detach ⟨⟨1, 2⟩, 1⟩) {}, .receive 0 (.detach ⟨⟨1, 3⟩, 1⟩) {}] ∧
    StepsAlong (Audited.Steps twoDeviceHost) (fun a e => a.server.RefusalKeeps twoDeviceHost 0 e)
      (.start none false 0)
      [.accept ⟨"10.0.0.1", 4000⟩, .receive 0 (.attach ⟨⟨1, 2⟩⟩) {},
        .receive 0 (.detach ⟨⟨1, 2⟩, 1⟩) {}, .receive 0 (.detach ⟨⟨1, 3⟩, 1⟩) {}] :=
  session_kept twoDeviceHost none false 0 0 (by decide +kernel)

end WolfUsb
