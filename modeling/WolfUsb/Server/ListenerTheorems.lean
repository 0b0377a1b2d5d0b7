/-
WolfUsb.Server.ListenerTheorems — the five things one event can do to
the server.

`step_cases` inverts `Server.step`: a connection is accepted, a message is
answered, a connection is handed off, a message could not be answered and
the connection ends with cleanup, or the stream ended and the connection
ends with cleanup. Later proofs work on these cases and do not unfold the
step.
-/
import WolfUsb.Lib.Finmaps
import WolfUsb.Server.Listener

namespace WolfUsb.Server

open WolfUsb.Lib

variable {W : Type} (p : Platform W)

/-- The keys cleanup is given list the connection's table. -/
def KeysOf (o : Outcome) (conn : Connection) : Prop :=
  o.keys.Nodup ∧ o.keys.toFinset = conn.sessions.keys

/-- The server after the end of connection `c`. -/
def ended (sv : Server W) (c : Nat) (conn : Connection) (sh : Shared W) (o : Outcome) : Server W :=
  sv.after (conn.cleanup p o.cleanupJoin o.keys sh).2 (sv.connections.erase c)

inductive StepsTo (sv : Server W) : Event → Server W → Output → Prop
  | accept (addr : SocketAddr) :
      StepsTo sv (.accept addr)
        { sv with
          connections := sv.connections.insert sv.accepted (.new sv.stream addr sv.sharedKey)
          accepted := sv.accepted + 1 } {}
  | reply {c : Nat} {msg : Message} {o : Outcome} {conn conn' : Connection} {resp : Message}
      {sh : Shared W} (hc : sv.connections.lookup c = some conn)
      (hm : conn.handleMessage p o.join msg sv.shared = (.reply resp, conn', sh))
      (hs : o.sent = true) :
      StepsTo sv (.receive c msg o) (sv.after sh (sv.connections.insert c conn'))
        { reply := some resp, calls := sh.bus.calls }
  | handOff {c : Nat} {msg : Message} {o : Outcome} {conn conn' : Connection} {resp : Message}
      {target : DeviceId} {sh : Shared W} (hc : sv.connections.lookup c = some conn)
      (hm : conn.handleMessage p o.join msg sv.shared = (.bridge resp target, conn', sh))
      (hs : (o.sent && o.flushed) = true) :
      StepsTo sv (.receive c msg o) (sv.handOff c conn' sh resp target).1
        (sv.handOff c conn' sh resp target).2
  | drop {c : Nat} {msg : Message} {o : Outcome} {conn conn' : Connection} {action : Action}
      {sh : Shared W} (hc : sv.connections.lookup c = some conn)
      (hm : conn.handleMessage p o.join msg sv.shared = (action, conn', sh))
      (hs : o.sent = false ∨ o.flushed = false) (hk : KeysOf o conn') :
      StepsTo sv (.receive c msg o) (sv.ended p c conn' sh o)
        { reply := some action.message
          calls := (conn'.cleanup p o.cleanupJoin o.keys sh).2.bus.calls }
  | hangup {c : Nat} {o : Outcome} {conn : Connection}
      (hc : sv.connections.lookup c = some conn) (hk : KeysOf o conn) :
      StepsTo sv (.hangup c o) (sv.ended p c conn sv.shared o)
        { calls := (conn.cleanup p o.cleanupJoin o.keys sv.shared).2.bus.calls }

theorem finish_cases {sv sv' : Server W} {c : Nat} {conn : Connection} {sh : Shared W}
    {o : Outcome} {reply : Option Message} {out : Output}
    (h : sv.finish p c conn sh o reply = some (sv', out)) :
    KeysOf o conn ∧ sv' = sv.ended p c conn sh o ∧
      out = { reply, calls := (conn.cleanup p o.cleanupJoin o.keys sh).2.bus.calls } := by
  unfold finish at h
  split at h
  · rename_i hk
    cases h
    exact ⟨hk, rfl, rfl⟩
  · cases h

/-- **Inversion of `Server.step`.** -/
theorem step_cases {sv sv' : Server W} {e : Event} {out : Output}
    (h : sv.step p e = some (sv', out)) : StepsTo p sv e sv' out := by
  cases e with
  | accept addr =>
      cases h
      exact .accept addr
  | receive c msg o =>
      rw [step] at h
      split at h
      · cases h
      · rename_i conn hc
        split at h
        · rename_i resp conn' sh hm
          split at h
          · rename_i hs
            cases h
            exact .reply hc hm hs
          · rename_i hs
            obtain ⟨hk, rfl, rfl⟩ := finish_cases p h
            exact .drop hc hm (Or.inl (by simpa using hs)) hk
        · rename_i resp target conn' sh hm
          split at h
          · rename_i hs
            cases h
            exact .handOff hc hm hs
          · rename_i hs
            obtain ⟨hk, rfl, rfl⟩ := finish_cases p h
            have hs : o.sent = false ∨ o.flushed = false := by
              rw [← Bool.and_eq_false_iff]
              simpa using hs
            exact .drop hc hm hs hk
  | hangup c o =>
      rw [step] at h
      split at h
      · cases h
      · rename_i conn hc
        obtain ⟨hk, rfl, rfl⟩ := finish_cases p h
        exact .hangup hc hk

section Facts

variable {p} {sv sv' : Server W} {out : Output}

/-- Connections are counted and never given back. -/
theorem StepsTo.accepted_le {e : Event} (h : StepsTo p sv e sv' out) :
    sv.accepted ≤ sv'.accepted := by
  cases h with
  | accept addr => exact Nat.le_succ _
  | _ => exact Nat.le_refl _

/-- A message is only received on a connection that is served. -/
theorem StepsTo.receive_live {c : Nat} {msg : Message} {o : Outcome}
    (h : StepsTo p sv (.receive c msg o) sv' out) : ∃ conn, sv.connections.lookup c = some conn := by
  cases h with
  | reply hc hm hs => exact ⟨_, hc⟩
  | handOff hc hm hs => exact ⟨_, hc⟩
  | drop hc hm hs hk => exact ⟨_, hc⟩

/-- A message received is answered with what `handle_message` made of it,
whether or not the reply arrives. -/
theorem StepsTo.reply_eq {c : Nat} {msg : Message} {o : Outcome}
    (h : StepsTo p sv (.receive c msg o) sv' out) :
    ∃ conn, sv.connections.lookup c = some conn ∧
      out.reply = some (conn.handleMessage p o.join msg sv.shared).1.message := by
  cases h with
  | reply hc hm hs => exact ⟨_, hc, by rw [hm]; rfl⟩
  | handOff hc hm hs => exact ⟨_, hc, by rw [hm]; rfl⟩
  | drop hc hm hs hk => exact ⟨_, hc, by rw [hm]⟩

/-- Where a connection comes from: it was accepted, it was there and the
event was not for it, or it handled a message. -/
theorem StepsTo.connection_after {e : Event} {c : Nat} {conn' : Connection}
    (h : StepsTo p sv e sv' out) (hconn : sv'.connections.lookup c = some conn') :
    (∃ addr, e = .accept addr ∧ c = sv.accepted ∧
      conn' = .new sv.stream addr sv.sharedKey) ∨
    sv.connections.lookup c = some conn' ∨
    ∃ msg o conn sh, e = .receive c msg o ∧ sv.connections.lookup c = some conn ∧
      ∃ resp, conn.handleMessage p o.join msg sv.shared = (.reply resp, conn', sh) ∧
        out.reply = some resp := by
  cases h with
  | accept addr =>
      have hlook : (sv.connections.insert sv.accepted
        (.new sv.stream addr sv.sharedKey)).lookup c = some conn' := hconn
      rw [lookup_insert_eq] at hlook
      split at hlook
      · rename_i heq
        obtain rfl := Option.some.inj hlook
        exact Or.inl ⟨addr, rfl, heq, rfl⟩
      · exact Or.inr (Or.inl hlook)
  | @reply c₀ msg o conn₀ conn₁ resp sh hc hm hs =>
      have hlook : (sv.connections.insert c₀ conn₁).lookup c = some conn' := hconn
      rw [lookup_insert_eq] at hlook
      split at hlook
      · rename_i heq
        subst heq
        obtain rfl := Option.some.inj hlook
        exact Or.inr (Or.inr ⟨msg, o, conn₀, sh, rfl, hc, resp, hm, rfl⟩)
      · exact Or.inr (Or.inl hlook)
  | handOff hc hm hs => exact Or.inr (Or.inl (lookup_of_erase hconn))
  | drop hc hm hs hk => exact Or.inr (Or.inl (lookup_of_erase hconn))
  | hangup hc hk => exact Or.inr (Or.inl (lookup_of_erase hconn))

end Facts

end WolfUsb.Server
