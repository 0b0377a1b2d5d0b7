/-
WolfUsb.Server.CleanupTheorems — what is left of a connection when `run`
returns.

`run` leaves its loop to clean up, or hands the stream off and returns as
it stands; a cleanup whose blocking task is lost, and a session dropped by
a Detach that named another device, leave their attachments behind too.
`ended_connection_leaves_nothing` says that these are the only ways:
in a run without them, a connection that is no longer served has no
session in the manager and no attachment.

`Registry.Secured` carries the argument: a session issued to the
connection that the manager still knows is in the connection's table. A
cleanup empties what the table names, so when the table goes nothing
issued to the connection is known.
-/
import WolfUsb.Server.Coherence

namespace WolfUsb

open WolfUsb.Lib

variable {W : Type} (p : Platform W)

/-! ## Conditions on the events of a connection -/

/-- A Detach request of connection `c` that gets past its table names the
device its table has for the session. -/
def Server.NamesOwn (c : Nat) (sv : Server W) (e : Event) : Prop :=
  ∀ q ∈ e.detaching, q.1 = c → ∀ conn ∈ sv.connections.lookup c,
    ∀ d ∈ conn.sessions.lookup q.2.sessionId, d = q.2.deviceId

/-- An Attach request finds the session counter at an id never returned. -/
def Audited.TicketFresh (a : Audited W) (e : Event) : Prop :=
  ∀ q ∈ e.attaching, q.2.deviceId ∉ a.server.manager.attachments →
    ∀ i ∈ a.audit.issued, i.2 ≠ a.server.manager.nextSessionId

/-- Connection `c` is handed off only with an empty table. -/
def Server.HandsOffEmpty (c : Nat) (sv : Server W) (e : Event) : Prop :=
  sv.handsOff p c e = true → ∀ conn ∈ sv.connections.lookup c, conn.sessions = ∅

/-- The cleanup task of connection `c` is not lost. -/
def Event.CleanupRuns (c : Nat) (e : Event) : Prop := ∀ o ∈ e.outcome c, o.cleanupJoin = none

/-- Every Detach matches, those of `c` name its own devices, session ids
are not given out twice, and `c` ends with a cleanup or an empty table. -/
def Audited.Orderly (c : Nat) (a : Audited W) (e : Event) : Prop :=
  a.server.DetachMatches e ∧ a.server.NamesOwn c e ∧ a.TicketFresh e ∧
    a.server.HandsOffEmpty p c e ∧ e.CleanupRuns c

instance (c : Nat) (sv : Server W) (e : Event) : Decidable (sv.NamesOwn c e) :=
  inferInstanceAs (Decidable (∀ q ∈ e.detaching, _ → ∀ conn ∈ sv.connections.lookup c,
    ∀ d ∈ conn.sessions.lookup q.2.sessionId, _))

instance (a : Audited W) (e : Event) : Decidable (a.TicketFresh e) :=
  inferInstanceAs (Decidable (∀ q ∈ e.attaching, _ → ∀ i ∈ a.audit.issued, _))

instance (c : Nat) (sv : Server W) (e : Event) : Decidable (sv.HandsOffEmpty p c e) :=
  inferInstanceAs (Decidable (_ → ∀ conn ∈ sv.connections.lookup c, conn.sessions = ∅))

instance (c : Nat) (e : Event) : Decidable (e.CleanupRuns c) :=
  inferInstanceAs (Decidable (∀ o ∈ e.outcome c, o.cleanupJoin = none))

instance (c : Nat) (a : Audited W) (e : Event) : Decidable (a.Orderly p c e) :=
  inferInstanceAs (Decidable (_ ∧ _ ∧ _ ∧ _ ∧ _))

/-! ## The invariant -/

/-- A session issued to `c` that the manager still has is in `c`'s table. -/
structure Registry.Secured (c : Nat) (r : Registry) : Prop where
  coherent : r.Coherent
  recorded : ∀ d g, r.grants d = some g → (g.conn, g.session) ∈ r.issued
  held : ∀ s d, (c, s) ∈ r.issued → r.manager.sessionToDevice.lookup s = some d →
    ∃ t, r.tables c = some t ∧ t.lookup s = some d

namespace Registry

variable {r r' : Registry} {c : Nat}

theorem secured_empty : Registry.empty.Secured c where
  coherent := coherent_empty
  recorded d g hg := by cases hg
  held s d hs := by cases hs

/-- An id never returned is not in use. -/
theorem Secured.unused (h : r.Secured c) {s : UInt64} (hs : ∀ i ∈ r.issued, i.2 ≠ s) :
    r.manager.sessionToDevice.lookup s = none := by
  cases hlook : r.manager.sessionToDevice.lookup s with
  | none => rfl
  | some d =>
      obtain ⟨info, c', -, hg⟩ := h.coherent.granted s d hlook
      exact absurd rfl (hs _ (h.recorded d _ hg))

theorem recorded_step {op : RegOp} (h : ∀ d g, r.grants d = some g → (g.conn, g.session) ∈ r.issued)
    (hstep : r.Step op r') : ∀ d g, r'.grants d = some g → (g.conn, g.session) ∈ r'.issued := by
  intro x g hg
  cases hstep with
  | @attach c₀ t d info hc hd =>
      have hg : Function.update r.grants d (some ⟨c₀, _, _⟩) x = some g := hg
      rw [Function.update_apply] at hg
      split at hg
      · cases hg
        simp
      · exact List.mem_append_left _ (h x g hg)
  | @detach c₀ t d s hc hs hd =>
      exact h x g (update_none_eq_some.mp hg).2
  | accept hc => exact h x g hg
  | refuse hc hs hd => exact h x g hg
  | touch hm => exact h x g hg
  | close hc => exact h x g hg

/-- When the sessions of `c` the manager still has were held before, and
`c`'s table has not lost them. -/
theorem held_frame (h : r.Secured c) (hissued : r'.issued = r.issued)
    (hold : ∀ s d, r'.manager.sessionToDevice.lookup s = some d →
      r.manager.sessionToDevice.lookup s = some d)
    (htable : ∀ t s d, r.tables c = some t → t.lookup s = some d →
      r'.manager.sessionToDevice.lookup s = some d →
      ∃ t', r'.tables c = some t' ∧ t'.lookup s = some d) :
    ∀ s d, (c, s) ∈ r'.issued → r'.manager.sessionToDevice.lookup s = some d →
      ∃ t, r'.tables c = some t ∧ t.lookup s = some d := by
  intro s d hs hd
  rw [hissued] at hs
  obtain ⟨t, ht, hlook⟩ := h.held s d hs (hold s d hd)
  exact htable t s d ht hlook hd

end Registry

/-- An operation caused by an orderly event. -/
theorem Registry.Secured.step {a : Audited W} {e : Event} {c : Nat} {r r' : Registry} {op : RegOp}
    (hC : a.Orderly p c e) (hcause : Caused p a e r op) (hfit : r.Fits op)
    (hstep : r.Step op r') (h : r.Secured c) : r'.Secured c := by
  obtain ⟨-, hown, hfresh, hoff, hruns⟩ := hC
  refine ⟨h.coherent.step hfit hstep, recorded_step h.recorded hstep, ?_⟩
  cases hstep with
  | @accept c₀ hc =>
      refine held_frame h rfl (fun s d hs => hs) fun t s d ht hs _ => ?_
      have hne : c ≠ c₀ := by
        rintro rfl
        rw [hc] at ht
        cases ht
      exact ⟨t, by simpa [hne] using ht, hs⟩
  | @attach c₀ t d info hc hd =>
      cases hcause with
      | attach =>
          have hnew : ∀ s, (c, s) ∈ a.registry.issued → s ≠ a.registry.manager.nextSessionId :=
            fun s hs => hfresh (c₀, ⟨d⟩) rfl hd (c, s) hs
          intro s x hs hx
          rw [DeviceManager.register_session] at hx
          rcases List.mem_append.mp hs with hold | hlast
          · rw [if_neg (hnew s hold)] at hx
            obtain ⟨u, hu, hlook⟩ := h.held s x hold hx
            by_cases hcc : c = c₀
            · subst hcc
              obtain rfl : t = u := Option.some.inj (hc.symm.trans hu)
              refine ⟨_, withTable_self .., ?_⟩
              rw [Finmap.lookup_insert_of_ne _ (hnew s hold)]
              exact hlook
            · exact ⟨u, by simpa [hcc] using hu, hlook⟩
          · obtain ⟨rfl, rfl⟩ := Prod.mk.inj (List.mem_singleton.mp hlast)
            rw [if_pos rfl] at hx
            cases hx
            exact ⟨_, withTable_self .., Finmap.lookup_insert _⟩
  | @detach c₀ t d s₀ hc hs₀ hd =>
      refine held_frame h rfl (fun s x hs => ?_) fun u s x hu hlook hs => ?_
      · exact (DeviceManager.shrinks_forget _ _ _).sessions s x hs
      · rw [DeviceManager.forget_session] at hs
        by_cases hcc : c = c₀
        · subst hcc
          obtain rfl : t = u := Option.some.inj (hc.symm.trans hu)
          have hne : s ≠ s₀ := by
            rintro rfl
            simp at hs
          exact ⟨_, withTable_self .., by rw [Finmap.lookup_erase_ne hne]; exact hlook⟩
        · exact ⟨u, by simpa [hcc] using hu, hlook⟩
  | @refuse c₀ t d s₀ hc hs₀ hd =>
      refine held_frame h rfl (fun s x hs => hs) fun u s x hu hlook hs => ?_
      by_cases hcc : c = c₀
      · subst hcc
        obtain rfl : t = u := Option.some.inj (hc.symm.trans hu)
        have hne : s ≠ s₀ := by
          rintro rfl
          cases hcause with
          | @refuse _ _ _ o hj =>
              -- the table names the device, so it is attached
              obtain ⟨conn, hconn, rfl⟩ := Option.map_eq_some_iff.mp hc
              obtain rfl : x = d :=
                hown (c, ⟨d, s⟩) (by simp [Event.detaching, hj]) rfl conn hconn x hlook
              exact hd (h.coherent.attached hs)
        exact ⟨_, withTable_self .., by rw [Finmap.lookup_erase_ne hne]; exact hlook⟩
      · exact ⟨u, by simpa [hcc] using hu, hlook⟩
  | touch hm =>
      refine held_frame h rfl (fun s x hs => ?_) fun u s x hu hlook _ => ⟨u, hu, hlook⟩
      rw [← hm.session]
      exact hs
  | @close c₀ t hc =>
      refine held_frame h rfl (fun s x hs => hs) fun u s x hu hlook hs => ?_
      by_cases hcc : c = c₀
      · subst hcc
        obtain rfl : t = u := Option.some.inj (hc.symm.trans hu)
        have hmem : s ∈ t := Finmap.mem_of_lookup_eq_some hlook
        cases hcause with
        | swept ht => exact absurd (h.coherent.attached hs) (ht t s x hu hmem hs)
        | lost he hj => exact absurd (hruns _ he) hj
        | handOff hh hr =>
            rw [hr] at hu
            obtain ⟨conn, hconn, rfl⟩ := Option.map_eq_some_iff.mp hu
            rw [hoff hh conn hconn] at hmem
            exact absurd hmem Finmap.notMem_empty
      · exact ⟨u, by simpa [hcc] using hu, hlook⟩

/-- An orderly event. -/
theorem secured_step {a a' : Audited W} {e : Event} {c : Nat} (hok : a.Ok)
    (hC : a.Orderly p c e) (hstep : a.step p e = some a') (h : a.registry.Secured c) :
    a'.registry.Secured c := by
  have hticket : a.server.TicketUnused e := fun q hq hd => h.unused (hC.2.2.1 q hq hd)
  exact registry_step p (I := Registry.Secured c)
    (fun r op r' hcause hop hr => hr.step p hC hcause (hcause.fits hC.1 hticket hop) hop)
    hok hstep h

/-! ## The end of a connection -/

/-- Connection 0 attaches 1:2 and asks to bridge 1:3. -/
def attachThenBridge : List Event :=
  [.accept ⟨"10.0.0.1", 4000⟩, .receive 0 (.attach ⟨⟨1, 2⟩⟩) {},
    .receive 0 (.bridge ⟨⟨1, 3⟩⟩) {}]

/-- Connection 0 is gone; its session and its attachment are not. -/
theorem hand_off_leaves_attachment :
    ∃ a, Run (Audited.Steps twoDeviceHost) (.start none false 0) attachThenBridge a ∧
      a.server.connections.lookup 0 = none ∧
      (0, 1) ∈ a.audit.issued ∧ a.server.manager.sessionToDevice.lookup 1 = some ⟨1, 2⟩ ∧
      a.audit.grants ⟨1, 2⟩ = some ⟨0, 1, 0⟩ := by
  have hplay : (play (Audited.step twoDeviceHost) (.start none false 0) attachThenBridge).map
      (fun a => (a.server.connections.lookup 0, decide ((0, 1) ∈ a.audit.issued),
        a.server.manager.sessionToDevice.lookup 1, a.audit.grants ⟨1, 2⟩))
      = some (none, true, some ⟨1, 2⟩, some ⟨0, 1, 0⟩) := by decide +kernel
  obtain ⟨a, ha, heq⟩ := Option.map_eq_some_iff.mp hplay
  obtain ⟨hconn, hrest⟩ := Prod.mk.inj heq
  obtain ⟨hissued, hrest⟩ := Prod.mk.inj hrest
  obtain ⟨hsession, hgrant⟩ := Prod.mk.inj hrest
  exact ⟨a, play_iff_run.mp ha, hconn, of_decide_eq_true hissued, hsession, hgrant⟩

/-- **Nothing outlives its connection.** In an orderly run, when `c` is not
being served no session issued to `c` is in the manager and no attachment
is `c`'s. -/
theorem ended_connection_leaves_nothing (sharedKey : Option Bytes) (tls : Bool) (world : W)
    (c : Nat) {es : List Event}
    (hC : StepsAlong (Audited.Steps p) (fun a e => a.Orderly p c e)
      (.start sharedKey tls world) es) :
    StatesAlong (Audited.Steps p)
      (fun a => a.server.connections.lookup c = none →
        (∀ s, (c, s) ∈ a.audit.issued → a.server.manager.sessionToDevice.lookup s = none) ∧
        ∀ d g, a.audit.grants d = some g → g.conn ≠ c)
      (.start sharedKey tls world) es := by
  have hstart : (Audited.start sharedKey tls world).registry.Secured c := by
    rw [Audited.registry_start]
    exact Registry.secured_empty
  have hstates : StatesAlong (Audited.Steps p) (fun a => a.Ok ∧ a.registry.Secured c)
      (.start sharedKey tls world) es :=
    statesAlong_of_stepsAlong
      (fun a e a' hI hC' hstep => ⟨hI.1.step p hstep, secured_step p hI.1 hC' hstep hI.2⟩)
      ⟨Audited.ok_start sharedKey tls world, hstart⟩ hC
  refine hstates.mono fun a ha hnone => ?_
  have htable : a.registry.tables c = none := Option.map_eq_none_iff.mpr hnone
  -- a session of `c` in the manager would be in a table that is gone
  have hgone : ∀ s, (c, s) ∈ a.audit.issued →
      a.server.manager.sessionToDevice.lookup s = none := by
    intro s hs
    cases hlook : a.server.manager.sessionToDevice.lookup s with
    | none => rfl
    | some d =>
        obtain ⟨t, ht, -⟩ := ha.2.held s d hs hlook
        rw [htable] at ht
        cases ht
  refine ⟨hgone, ?_⟩
  rintro d ⟨c', s, handle⟩ hg rfl
  have hsession := ha.2.coherent.session_of_grant hg
  rw [show a.registry.manager.sessionToDevice.lookup s = none from
    hgone s (ha.2.recorded d _ hg)] at hsession
  cases hsession

/-- A client that attaches two devices and hangs up. -/
theorem ended_connection_leaves_nothing_hangup :
    StatesAlong (Audited.Steps twoDeviceHost)
      (fun a => a.server.connections.lookup 0 = none →
        (∀ s, (0, s) ∈ a.audit.issued → a.server.manager.sessionToDevice.lookup s = none) ∧
        ∀ d g, a.audit.grants d = some g → g.conn ≠ 0)
      (.start none false 0)
      [.accept ⟨"10.0.0.1", 4000⟩, .receive 0 (.attach ⟨⟨1, 2⟩⟩) {},
        .receive 0 (.attach ⟨⟨1, 3⟩⟩) {}, .hangup 0 { keys := [1, 2] }] :=
  ended_connection_leaves_nothing twoDeviceHost none false 0 0 (by decide +kernel)

end WolfUsb
