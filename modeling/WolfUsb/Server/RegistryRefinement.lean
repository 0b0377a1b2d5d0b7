/-
WolfUsb.Server.RegistryRefinement — a step of the server is a sequence of
registry operations.

`step_refines` is the simulation: the registry of the server after an
event is reached from the registry before it by operations that the event
causes. `Audited.Ok` is what the simulation needs of the state, and every
run keeps it. `registry_invariant` is the rule the claims on ownership
use: an invariant of the registry that every caused operation preserves,
under a condition on the events, holds along every run whose events meet
the condition.
-/
import WolfUsb.Lib.Runs
import WolfUsb.Server.ConnectionTheorems
import WolfUsb.Server.ListenerTheorems
import WolfUsb.Server.Registry

namespace WolfUsb

open WolfUsb.Lib

variable {W : Type} (p : Platform W)

/-! ## The well-formed states -/

/-- A device that is not attached has no grant, the connections not yet
accepted are not there, and grants are for accepted ones. -/
structure Audited.Ok (a : Audited W) : Prop where
  tight : ∀ d, d ∉ a.server.manager.attachments → a.audit.grants d = none
  fresh : ∀ c, a.server.accepted ≤ c → a.server.connections.lookup c = none
  known : ∀ d g, a.audit.grants d = some g → g.conn < a.server.accepted

theorem Audited.ok_start (sharedKey : Option Bytes) (tls : Bool) (world : W) :
    (Audited.start sharedKey tls world).Ok where
  tight _ _ := rfl
  fresh _ _ := Finmap.lookup_empty _
  known d g h := by cases h

theorem Audit.record_tight (a : Audit) (e : Event) (out : Output) (m : DeviceManager)
    {d : DeviceId} (hd : d ∉ m.attachments) : (a.record e out m).grants d = none := by
  unfold Audit.record
  split
  · simp [hd]
  · rename_i c x s _
    by_cases hx : d = x
    · subst hx
      simp [Finmap.lookup_eq_none.mpr hd]
    · simp [hx, hd]

/-- A grant on the notes was there before the event or is that of an
Attach its connection sent and that succeeded. -/
theorem Audit.record_grants {a : Audit} {e : Event} {out : Output} {m : DeviceManager}
    {d : DeviceId} {g : Grant} (h : (a.record e out m).grants d = some g) :
    a.grants d = some g ∨ ∃ o resp, e = .receive g.conn (.attach ⟨d⟩) o ∧
      out.reply = some (.attachResult resp) ∧ resp.success = true := by
  unfold Audit.record at h
  split at h
  · have h : (if d ∈ m.attachments then a.grants d else none) = some g := h
    split at h
    · exact Or.inl h
    · cases h
  · rename_i c x s hby
    have h : (if d = x then (m.attachments.lookup x).map fun info => (⟨c, s, info.handle⟩ : Grant)
      else if d ∈ m.attachments then a.grants d else none) = some g := h
    split at h
    · rename_i hdx
      subst hdx
      obtain ⟨info, -, rfl⟩ := Option.map_eq_some_iff.mp h
      cases e with
      | receive c' msg o =>
          cases msg with
          | attach req =>
              simp only [attachedBy] at hby
              split at hby
              · rename_i resp hreply
                split at hby
                · rename_i hsuccess
                  obtain ⟨s', -, heq⟩ := Option.map_eq_some_iff.mp hby
                  cases heq
                  exact Or.inr ⟨_, resp, rfl, hreply, hsuccess⟩
                · cases hby
              · cases hby
          | _ => cases hby
      | _ => cases hby
    · split at h
      · exact Or.inl h
      · cases h

/-! ## Tables -/

theorem tables_insert (sv : Server W) (c : Nat) (conn : Connection) :
    (fun x => ((sv.connections.insert c conn).lookup x).map Connection.sessions) =
      Function.update (fun x => (sv.connections.lookup x).map Connection.sessions) c
        (some conn.sessions) := by
  funext x
  rw [lookup_insert_eq, Function.update_apply]
  split <;> rfl

theorem tables_erase (sv : Server W) (c : Nat) :
    (fun x => ((sv.connections.erase c).lookup x).map Connection.sessions) =
      Function.update (fun x => (sv.connections.lookup x).map Connection.sessions) c none := by
  funext x
  rw [lookup_erase_eq, Function.update_apply]
  split <;> rfl

/-! ## Cleanup -/

/-- One operation caused by the event. -/
def Performs (a : Audited W) (e : Event) (r : Registry) (op : RegOp) (r' : Registry) : Prop :=
  Caused p a e r op ∧ r.Step op r'

/-- How far a cleanup of connection `c` from `r₁` has come: the registry
`r` is reached, only `c`'s table has changed, the attachments left are as
they were, and a listed session is still in the table or is no longer in
the manager. -/
structure Cleaning (a : Audited W) (e : Event) (keys : List UInt64) (c : Nat) (r₁ r : Registry) :
    Prop where
  reach : ∃ ops, Run (Performs p a e) r₁ ops r
  table : ∃ t, r.tables = r₁.withTable c (some t) ∧ (∀ s ∈ t, s ∈ keys) ∧
    ∀ s ∈ keys, s ∈ t ∨ r.manager.sessionToDevice.lookup s = none
  shrinks : r₁.manager.Shrinks r.manager
  grants : ∀ x, r.grants x = if x ∈ r.manager.attachments then r₁.grants x else none
  issued : r.issued = r₁.issued

variable {a : Audited W} {e : Event} {keys : List UInt64} {c : Nat} {r₁ : Registry}

theorem Cleaning.start {p : Platform W} {t : HashMap UInt64 DeviceId} (ht : r₁.tables c = some t)
    (hkeys : ∀ s, s ∈ keys ↔ s ∈ t) (htight : ∀ x, x ∉ r₁.manager.attachments → r₁.grants x = none) :
    Cleaning p a e keys c r₁ r₁ where
  reach := ⟨[], Run.nil r₁⟩
  table := by
    refine ⟨t, ?_, fun s hs => (hkeys s).mpr hs, fun s hs => Or.inl ((hkeys s).mp hs)⟩
    rw [Registry.withTable, ← ht, Function.update_eq_self]
  shrinks := .refl _
  grants := by
    intro x
    split
    · rfl
    · exact htight x (by assumption)
  issued := rfl

/-- One listed session is detached from the device the manager has for it. -/
theorem Cleaning.detach {p : Platform W} {r : Registry} {s : UInt64} {d : DeviceId}
    (h : Cleaning p a e keys c r₁ r) (hends : a.Ends p e c) (hs : s ∈ keys)
    (hsd : r.manager.sessionToDevice.lookup s = some d) (hd : d ∈ r.manager.attachments) :
    ∃ r', r'.manager = r.manager.forget d s ∧ Cleaning p a e keys c r₁ r' := by
  obtain ⟨ops, hrun⟩ := h.reach
  obtain ⟨t, htab, hsub, hkey⟩ := h.table
  have hst : s ∈ t := by
    rcases hkey s hs with hst | hnone
    · exact hst
    · rw [hsd] at hnone
      cases hnone
  have hc : r.tables c = some t := by rw [htab, Registry.withTable, Function.update_self]
  refine ⟨{ r with
      tables := r.withTable c (some (t.erase s))
      manager := r.manager.forget d s
      grants := Function.update r.grants d none }, rfl, ⟨?_, ?_, ?_, ?_, ?_⟩⟩
  · exact ⟨_, hrun.append (Run.single ⟨.sweep hends hsd, .detach hc hst hd⟩)⟩
  · refine ⟨t.erase s, ?_, fun x hx => hsub x (Finmap.mem_erase.mp hx).2, fun x hx => ?_⟩
    · rw [Registry.withTable, htab, Registry.withTable, Function.update_idem]
      rfl
    · by_cases hxs : x = s
      · exact Or.inr (by rw [DeviceManager.forget_session, if_pos hxs])
      · rcases hkey x hx with hxt | hnone
        · exact Or.inl (Finmap.mem_erase.mpr ⟨hxs, hxt⟩)
        · exact Or.inr (by rw [DeviceManager.forget_session, if_neg hxs]; exact hnone)
  · exact h.shrinks.trans (DeviceManager.shrinks_forget _ d s)
  · intro x
    show Function.update r.grants d none x
      = if x ∈ (r.manager.forget d s).attachments then r₁.grants x else none
    by_cases hxd : x = d
    · subst hxd
      rw [Function.update_self, if_neg (by simp)]
    · rw [Function.update_of_ne hxd, h.grants x]
      simp [hxd]
  · exact h.issued

/-- Cleanup of `c`'s table, its keys in any order, is a sequence of caused
detaches. -/
theorem cleanup_run {t : HashMap UInt64 DeviceId} (u : Bus W) (hends : a.Ends p e c)
    (ht : r₁.tables c = some t) (hkeys : ∀ s, s ∈ keys ↔ s ∈ t)
    (htight : ∀ x, x ∉ r₁.manager.attachments → r₁.grants x = none) :
    ∃ r, r.manager = (DeviceManager.detachAllForSessions p keys r₁.manager u).1 ∧
      Cleaning p a e keys c r₁ r := by
  refine DeviceManager.detachAllForSessions_induct p (I := fun m => ∃ r, r.manager = m ∧
    Cleaning p a e keys c r₁ r) ?_ r₁.manager u ⟨r₁, rfl, .start ht hkeys htight⟩
  rintro m s d hs ⟨r, rfl, hr⟩ hsd hd
  exact hr.detach hends hs hsd hd

/-- What the end of `run` makes of the registry: `c`'s table is gone, the
manager is as cleanup left it, and of the grants those of the attached
devices remain. -/
structure Ended (c : Nat) (m : DeviceManager) (r₁ r : Registry) : Prop where
  tables : r.tables = r₁.withTable c none
  manager : r.manager = m
  shrinks : r₁.manager.Shrinks m
  grants : ∀ x, r.grants x = if x ∈ m.attachments then r₁.grants x else none
  issued : r.issued = r₁.issued

/-- `cleanup` and the return of `run`, as operations. -/
theorem finish_run {conn : Connection} {o : Outcome} {sh : Shared W} (he : o ∈ e.outcome c)
    (hends : a.Ends p e c) (ht : r₁.tables c = some conn.sessions) (hm : r₁.manager = sh.manager)
    (hkeys : o.keys.toFinset = conn.sessions.keys)
    (htight : ∀ x, x ∉ r₁.manager.attachments → r₁.grants x = none) :
    ∃ ops r, Run (Performs p a e) r₁ ops r ∧
      Ended c (conn.cleanup p o.cleanupJoin o.keys sh).2.manager r₁ r := by
  have hmem : ∀ s, s ∈ o.keys ↔ s ∈ conn.sessions := by
    intro s
    rw [← List.mem_toFinset, hkeys, Finmap.mem_keys]
  -- when nothing is detached, only the table goes
  have plain : (∀ r, r = r₁ → Caused p a e r (.close c)) →
      (conn.cleanup p o.cleanupJoin o.keys sh).2.manager = sh.manager →
      ∃ ops r, Run (Performs p a e) r₁ ops r ∧
        Ended c (conn.cleanup p o.cleanupJoin o.keys sh).2.manager r₁ r := by
    intro hclose hsame
    refine ⟨[.close c], _, Run.single ⟨hclose r₁ rfl, .close ht⟩, rfl, ?_, ?_, ?_, rfl⟩
    · rw [hsame, ← hm]
    · rw [hsame, ← hm]
      exact .refl _
    · intro x
      rw [hsame, ← hm]
      split
      · rfl
      · exact htight x (by assumption)
  by_cases hempty : conn.sessions.keys = ∅
  · refine plain (fun r hr => .swept fun t s d htab hs _ => ?_) ?_
    · rw [hr, ht] at htab
      cases htab
      rw [← Finmap.mem_keys, hempty] at hs
      cases hs
    · rw [Connection.cleanup, if_pos hempty]
  · cases hj : o.cleanupJoin with
    | some err =>
        rw [hj] at plain
        refine plain (fun r _ => .lost he (by rw [hj]; exact Option.some_ne_none err)) ?_
        rw [Connection.cleanup, if_neg hempty]
        rfl
    | none =>
        obtain ⟨r, hrm, hr⟩ := cleanup_run (a := a) (e := e) p sh.bus hends ht hmem htight
        obtain ⟨ops, hrun⟩ := hr.reach
        obtain ⟨t, htab, hsub, -⟩ := hr.table
        have hc : r.tables c = some t := by rw [htab, Registry.withTable, Function.update_self]
        have hclean : (conn.cleanup p none o.keys sh).2.manager
            = (DeviceManager.detachAllForSessions p o.keys r₁.manager sh.bus).1 := by
          rw [Connection.cleanup, if_neg hempty, hm]
          rfl
        have hswept : Caused p a e r (.close c) := by
          refine .swept fun t' s d htab' hs hsd => ?_
          rw [hc] at htab'
          cases htab'
          rw [hrm] at hsd ⊢
          exact DeviceManager.detachAllForSessions_swept p (hsub s hs) _ _ d hsd
        refine ⟨ops ++ [.close c], { r with tables := r.withTable c none },
          hrun.append (Run.single ⟨hswept, .close hc⟩), ?_, ?_, ?_, ?_, hr.issued⟩
        · simp only [Registry.withTable, htab, Function.update_idem]
        · rw [hclean, ← hrm]
        · rw [hclean, ← hrm]
          exact hr.shrinks
        · rw [hclean, ← hrm]
          exact hr.grants

/-! ## Messages -/

theorem touches_mem {m m' : DeviceManager} (h : m.Touches m') (d : DeviceId) :
    d ∈ m'.attachments ↔ d ∈ m.attachments := by
  cases h with
  | same => exact Iff.rfl
  | entry hx hh =>
      rw [DeviceManager.update_mem]
      refine ⟨fun h => ?_, Or.inr⟩
      rcases h with rfl | h
      · exact Finmap.mem_of_lookup_eq_some hx
      · exact h

theorem attachedBy_none {c : Nat} {msg : Message} {o : Outcome} {out : Output}
    (h : ∀ r, out.reply = some (.attachResult r) → r.success = false) :
    attachedBy (.receive c msg o) out = none := by
  cases msg with
  | attach req =>
      simp only [attachedBy]
      split
      · rename_i resp hreply
        simp [h resp hreply]
      · rfl
  | _ => rfl

/-- A message of connection `c` has been served: the registry is `r₁`, the
connection's table and the manager are as the handler left them, and the
notes of the event, whatever of the manager is left at its end, are those
of `r₁`. -/
structure Served (a : Audited W) (c : Nat) (msg : Message) (action : Action) (conn : Connection)
    (m : DeviceManager) (r₁ : Registry) : Prop where
  tables : r₁.tables = a.registry.withTable c (some conn.sessions)
  manager : r₁.manager = m
  tight : ∀ x, x ∉ m.attachments → r₁.grants x = none
  notes : ∀ o out m', out.reply = some action.message → m.Shrinks m' →
    a.audit.record (.receive c msg o) out m' =
      ⟨fun x => if x ∈ m'.attachments then r₁.grants x else none, r₁.issued⟩

theorem serve_run {conn conn' : Connection} {msg : Message} {action : Action}
    {m' : DeviceManager} {o : Outcome} (hok : a.Ok)
    (hc : a.server.connections.lookup c = some conn)
    (heff : Connection.Effect o.join conn a.server.manager msg action conn' m') :
    ∃ ops r₁, Run (Performs p a (.receive c msg o)) a.registry ops r₁ ∧
      Served a c msg action conn' m' r₁ := by
  have ht : a.registry.tables c = some conn.sessions := Audited.registry_table hc
  cases heff with
  | keep hs hm hr =>
      refine ⟨[.touch], _, Run.single ⟨.touch, .touch hm⟩, ⟨?_, rfl, ?_, ?_⟩⟩
      · rw [hs, Registry.withTable, ← ht, Function.update_eq_self]
      · intro x hx
        exact hok.tight x (fun h => hx ((touches_mem hm x).mpr h))
      · intro o out m'' hout _
        have hnone : attachedBy (.receive c msg o) out = none :=
          attachedBy_none fun r h => hr r (Option.some.inj (hout.symm.trans h))
        rw [Audit.record, hnone]
        rfl
  | attach d info hd =>
      refine ⟨[.attach c d info], _, Run.single ⟨.attach, .attach ht hd⟩, ⟨rfl, rfl, ?_, ?_⟩⟩
      · intro x hx
        rw [DeviceManager.register_mem, not_or] at hx
        show Function.update a.audit.grants d _ x = none
        rw [Function.update_of_ne hx.1]
        exact hok.tight x hx.2
      · intro o out m'' hout hshrink
        have hby : attachedBy (.receive c (.attach ⟨d⟩) o) out
            = some (c, d, a.server.manager.nextSessionId) := by
          simp [attachedBy, hout, Action.message]
        rw [Audit.record, hby]
        refine congrArg₂ Audit.mk (funext fun x => ?_) rfl
        show _ = if x ∈ m''.attachments then Function.update a.audit.grants d _ x else none
        by_cases hx : x = d
        · subst hx
          rw [if_pos rfl, Function.update_self]
          cases hl : m''.attachments.lookup x with
          | none => rw [if_neg (Finmap.lookup_eq_none.mp hl)]; rfl
          | some info' =>
              have hinfo := hshrink.attachments x info' hl
              rw [DeviceManager.register_lookup, if_pos rfl] at hinfo
              rw [if_pos (Finmap.mem_of_lookup_eq_some hl), Option.some.inj hinfo]
              rfl
        · rw [if_neg hx, Function.update_of_ne hx]
  | detach d s hj hs hd =>
      refine ⟨[.detach c d s], _, Run.single ⟨.detach hj, .detach ht hs hd⟩, ⟨rfl, rfl, ?_, ?_⟩⟩
      · intro x hx
        show Function.update a.audit.grants d none x = none
        by_cases hxd : x = d
        · rw [hxd, Function.update_self]
        · rw [Function.update_of_ne hxd]
          exact hok.tight x (fun h => hx ((DeviceManager.forget_mem ..).mpr ⟨hxd, h⟩))
      · intro o out m'' hout hshrink
        show Audit.mk _ _ = _
        refine congrArg₂ Audit.mk (funext fun x => ?_) rfl
        show _ = if x ∈ m''.attachments then Function.update a.audit.grants d none x else none
        by_cases hx : x ∈ m''.attachments
        · have hxd : x ≠ d := ((DeviceManager.forget_mem ..).mp (hshrink.mem hx)).1
          rw [if_pos hx, if_pos hx, Function.update_of_ne hxd]
        · rw [if_neg hx, if_neg hx]
  | refuse d s text hj hs hd =>
      refine ⟨[.refuse c d s], _, Run.single ⟨.refuse hj, .refuse ht hs hd⟩,
        ⟨rfl, rfl, hok.tight, ?_⟩⟩
      intro o out m'' hout _
      rfl

/-! ## Steps -/

theorem Audited.step_cases {a' : Audited W} (h : a.step p e = some a') :
    ∃ out, Server.StepsTo p a.server e a'.server out ∧
      a'.audit = a.audit.record e out a'.server.manager := by
  unfold Audited.step at h
  split at h
  · cases h
  · rename_i sv out hstep
    cases h
    exact ⟨out, Server.step_cases p hstep, rfl⟩

theorem Audited.Ok.step {a' : Audited W} (hok : a.Ok) (h : a.step p e = some a') : a'.Ok := by
  obtain ⟨out, hstep, haudit⟩ := Audited.step_cases p h
  obtain ⟨sv', audit'⟩ := a'
  have haudit : audit' = a.audit.record e out sv'.manager := haudit
  refine ⟨fun d hd => by rw [haudit]; exact Audit.record_tight _ _ _ _ hd, ?_, ?_⟩
  rotate_left
  · intro d g hg
    have hle : a.server.accepted ≤ sv'.accepted := hstep.accepted_le
    rw [haudit] at hg
    rcases Audit.record_grants hg with hold | ⟨o, resp, rfl, -⟩
    · exact Nat.lt_of_lt_of_le (hok.known d g hold) hle
    · obtain ⟨conn, hconn⟩ := hstep.receive_live
      refine Nat.lt_of_lt_of_le (Nat.lt_of_not_le fun hge => ?_) hle
      rw [hok.fresh _ hge] at hconn
      cases hconn
  have ne : ∀ {c₀ x : Nat} {conn : Connection},
      a.server.connections.lookup c₀ = some conn → a.server.accepted ≤ x → x ≠ c₀ := by
    rintro c₀ x conn hc₀ hx rfl
    rw [hok.fresh x hx] at hc₀
    cases hc₀
  have erased : ∀ {c₀ x : Nat} {conn : Connection},
      a.server.connections.lookup c₀ = some conn → a.server.accepted ≤ x →
      (a.server.connections.erase c₀).lookup x = none := by
    intro c₀ x conn hc₀ hx
    rw [lookup_erase_eq, if_neg (ne hc₀ hx)]
    exact hok.fresh x hx
  cases hstep with
  | accept addr =>
      intro x hx
      have hx : a.server.accepted + 1 ≤ x := hx
      show (a.server.connections.insert _ _).lookup x = none
      rw [lookup_insert_eq, if_neg (by omega)]
      exact hok.fresh x (by omega)
  | reply hc hm hs =>
      intro x hx
      show (a.server.connections.insert _ _).lookup x = none
      rw [lookup_insert_eq, if_neg (ne hc hx)]
      exact hok.fresh x hx
  | handOff hc hm hs => exact fun x hx => erased hc hx
  | drop hc hm hs hk => exact fun x hx => erased hc hx
  | hangup hc hk => exact fun x hx => erased hc hx

theorem Audited.ends_of_erase {a' : Audited W} (h : a.step p e = some a')
    (hconn : a'.server.connections = a.server.connections.erase c) : a.Ends p e c := by
  intro a'' h''
  rw [h] at h''
  cases h''
  show (a'.server.connections.lookup c).map Connection.sessions = none
  rw [hconn, Finmap.lookup_erase]
  rfl

/-- A run to a registry with the tables, the manager and the notes of `a'`
is a run to the registry of `a'`. -/
theorem reaches_registry {a' : Audited W} {ops : List RegOp} {r : Registry}
    (hrun : Run (Performs p a e) a.registry ops r)
    (ht : (fun x => (a'.server.connections.lookup x).map Connection.sessions) = r.tables)
    (hm : a'.server.manager = r.manager) (hn : a'.audit = ⟨r.grants, r.issued⟩) :
    ∃ ops, Run (Performs p a e) a.registry ops a'.registry := by
  have heq : a'.registry = r :=
    Registry.ext ht hm (congrArg Audit.grants hn) (congrArg Audit.issued hn)
  exact ⟨ops, heq ▸ hrun⟩

/-- The notes of an event after which all attachments keep their grants. -/
theorem prune_self {r : Registry} {m : DeviceManager}
    (h : ∀ x, x ∉ m.attachments → r.grants x = none) :
    (fun x => if x ∈ m.attachments then r.grants x else none) = r.grants := by
  funext x
  split
  · rfl
  · exact (h x (by assumption)).symm

/-- **Simulation.** A step of the server is a sequence of registry
operations it causes. -/
theorem step_refines {a' : Audited W} (hok : a.Ok) (h : a.step p e = some a') :
    ∃ ops, Run (Performs p a e) a.registry ops a'.registry := by
  obtain ⟨out, hstep, haudit⟩ := Audited.step_cases p h
  obtain ⟨sv', audit'⟩ := a'
  have haudit : audit' = a.audit.record e out sv'.manager := haudit
  cases hstep with
  | accept addr =>
      have hfree : a.registry.tables a.server.accepted = none := by
        show (a.server.connections.lookup _).map Connection.sessions = none
        rw [hok.fresh _ (Nat.le_refl _)]
        rfl
      refine reaches_registry p (Run.single ⟨.accept, .accept hfree⟩)
        (tables_insert a.server _ _) rfl ?_
      rw [haudit]
      exact congrArg₂ Audit.mk (prune_self (r := a.registry) hok.tight) rfl
  | @reply c msg o conn conn' resp sh hc hm hs =>
      have heff := Connection.handleMessage_effect p o.join conn msg a.server.shared
      rw [hm] at heff
      obtain ⟨ops, r₁, hrun, hserved⟩ := serve_run p hok hc heff
      refine reaches_registry p hrun ?_ hserved.manager.symm ?_
      · rw [hserved.tables]
        exact tables_insert a.server c conn'
      · rw [haudit, hserved.notes o _ _ rfl (.refl _), prune_self hserved.tight]
  | @handOff c msg o conn conn' resp target sh hc hm hs =>
      have heff := Connection.handleMessage_effect p o.join conn msg a.server.shared
      rw [hm] at heff
      obtain ⟨hmsg, -⟩ := Connection.handleMessage_bridge p hm
      have hoff : a.server.handsOff p c (.receive c msg o) = true := by
        rw [Bool.and_eq_true] at hs
        simp [Server.handsOff, hs, hc, hm]
      subst hmsg
      obtain ⟨ops, r₁, hrun, hserved⟩ := serve_run p hok hc heff
      have ht : r₁.tables c = some conn'.sessions := by
        rw [hserved.tables, Registry.withTable, Function.update_self]
      -- a Bridge request does not change the table
      have hsame : r₁.tables c = a.registry.tables c := by
        cases heff with
        | keep hs' hm' hr =>
            rw [ht, hs', Audited.registry_table hc]
      refine reaches_registry p (hrun.append (Run.single ⟨Caused.handOff hoff hsame, .close ht⟩)) ?_
        hserved.manager.symm ?_
      · refine (tables_erase a.server c).trans ?_
        simp only [Registry.withTable, hserved.tables, Function.update_idem]
        rfl
      · rw [haudit, hserved.notes o _ _ rfl (.refl _)]
        exact congrArg₂ Audit.mk (prune_self hserved.tight) rfl
  | @drop c msg o conn conn' action sh hc hm hs hk =>
      have heff := Connection.handleMessage_effect p o.join conn msg a.server.shared
      rw [hm] at heff
      obtain ⟨ops, r₁, hrun, hserved⟩ := serve_run p hok hc heff
      have ht : r₁.tables c = some conn'.sessions := by
        rw [hserved.tables, Registry.withTable, Function.update_self]
      have htight : ∀ x, x ∉ r₁.manager.attachments → r₁.grants x = none := by
        rw [hserved.manager]
        exact hserved.tight
      obtain ⟨ops', r, hrun', hend⟩ := finish_run (a := a) p (if_pos rfl)
        (Audited.ends_of_erase p h rfl) ht
        hserved.manager hk.2 htight
      refine reaches_registry p (hrun.append hrun') ?_ hend.manager.symm ?_
      · refine (tables_erase a.server c).trans ?_
        simp only [hend.tables, Registry.withTable, hserved.tables, Function.update_idem]
        rfl
      · have hshrink := hend.shrinks
        rw [hserved.manager] at hshrink
        rw [haudit, hserved.notes o _ _ rfl hshrink, ← hend.issued]
        exact congrArg₂ Audit.mk (funext fun x => (hend.grants x).symm) rfl
  | @hangup c o conn hc hk =>
      obtain ⟨ops, r, hrun, hend⟩ := finish_run (a := a) p (if_pos rfl)
        (Audited.ends_of_erase p h rfl) (Audited.registry_table hc)
        (show a.registry.manager = a.server.shared.manager from rfl) hk.2 hok.tight
      refine reaches_registry p hrun ?_ hend.manager.symm ?_
      · refine (tables_erase a.server c).trans ?_
        rw [hend.tables]
        rfl
      · rw [haudit]
        exact congrArg₂ Audit.mk (funext fun x => (hend.grants x).symm) hend.issued.symm

/-! ## The invariant rule -/

/-- A run of the audited server. -/
abbrev Audited.Steps : Audited W → Event → Audited W → Prop := Guarded (Audited.step p)

/-- An invariant of the registry that the operations caused by an event
preserve is preserved by the event. -/
theorem registry_step {I : Registry → Prop}
    (hI : ∀ r op r', Caused p a e r op → r.Step op r' → I r → I r') {a' : Audited W} (hok : a.Ok)
    (h : a.step p e = some a') (ha : I a.registry) : I a'.registry := by
  obtain ⟨ops, hrun⟩ := step_refines p hok h
  exact hrun.preserves (fun r op r' hr hstep => hI r op r' hstep.1 hstep.2 hr) ha

/-- **Registry rule.** An invariant of the registry that the operations
caused by an event preserve whenever the event meets `C` holds of every
state of a run whose events all meet `C`. -/
theorem registry_invariant {I : Registry → Prop} {C : Audited W → Event → Prop}
    (hI : ∀ a e r op r', C a e → Caused p a e r op → r.Step op r' → I r → I r')
    {es : List Event} (hok : a.Ok) (ha : I a.registry) (hC : StepsAlong (Audited.Steps p) C a es) :
    StatesAlong (Audited.Steps p) (fun a => a.Ok ∧ I a.registry) a es :=
  statesAlong_of_stepsAlong (C := C)
    (fun a e _ hI' hC' hstep => ⟨hI'.1.step p hstep,
      registry_step p (fun r op r' => hI a e r op r' hC') hI'.1 hstep hI'.2⟩) ⟨hok, ha⟩ hC

end WolfUsb
