/-
WolfUsb.Server.AuthTheorems — the authentication gate as non-interference.

With a shared key set, a connection that has not sent a valid Hello is
answered by a function of its own messages alone (`gateReply`): whatever
devices, attachments and sessions the server has, whatever the other
connections do meanwhile, the answers are the same, nothing in the server
changes at its messages, no device is touched and no bridge is started.

`Server.Gated` is the invariant: the connection has the key, is not
authenticated and has no session. A message that is no valid Hello keeps
it, and so does every event of another connection.
-/
import WolfUsb.Lib.Runs
import WolfUsb.Server.ConnectionTheorems
import WolfUsb.Server.ListenerTheorems

namespace WolfUsb

open WolfUsb.Lib

variable {W : Type} (p : Platform W)

namespace Connection

/-! ## One message -/

/-- The Hello a message is. -/
def asHello : Message → Option HelloRequest
  | .hello req => some req
  | _ => none

/-- A Hello with the server's protocol version and the proof of the key. -/
def ValidHello (key : Bytes) (msg : Message) : Prop :=
  ∃ req ∈ asHello msg, req.protocolVersion = protocolVersion ∧
    proof p key req.authNonce clientSuffix = req.authProof

instance (key : Bytes) (msg : Message) : Decidable (ValidHello p key msg) :=
  inferInstanceAs (Decidable (∃ req ∈ asHello msg, _ ∧ _))

/-- The answer to a message before authentication. -/
def gateReply : Message → Message
  | .hello req =>
      if req.protocolVersion ≠ protocolVersion then
        helloRefused ("Protocol version mismatch: server=" ++ toString protocolVersion ++
          ", client=" ++ toString req.protocolVersion)
      else helloRefused "Authentication failed"
  | .ping => .pong
  | _ => notAuthenticated

/-- A HelloResponse with `auth_accepted: false`, a Pong, or an
AuthenticationFailed error. -/
def Refusal : Message → Prop
  | .helloResponse resp => resp.authAccepted = false
  | .pong => True
  | .error e => e.code = .authenticationFailed
  | _ => False

theorem gateReply_refusal (msg : Message) : Refusal (gateReply msg) := by
  cases msg with
  | hello req =>
      simp only [gateReply]
      split <;> rfl
  | ping => trivial
  | _ => rfl

/-- The connection has the key, is not authenticated and has no session. -/
structure Locked (key : Bytes) (conn : Connection) : Prop where
  sharedKey : conn.sharedKey = some key
  authenticated : conn.authenticated = false
  sessions : conn.sessions = ∅

theorem locked_new (key : Bytes) (stream : ServerStream) (addr : SocketAddr) :
    Locked key (.new stream addr (some key)) := ⟨rfl, rfl, rfl⟩

/-- **One message before authentication.** -/
theorem Locked.handleMessage {key : Bytes} {conn : Connection} (h : conn.Locked key)
    {msg : Message} (hmsg : ¬ ValidHello p key msg) (join : Option String) (sh : Shared W) :
    conn.handleMessage p join msg sh = (.reply (gateReply msg), conn, sh) := by
  have hgate : conn.gated = true := by simp [gated, h.sharedKey, h.authenticated]
  cases msg with
  | hello req =>
      simp only [Connection.handleMessage, handleHello, gateReply, h.sharedKey]
      by_cases hv : req.protocolVersion = protocolVersion
      · have hp : proof p key req.authNonce clientSuffix ≠ req.authProof :=
          fun hp => hmsg ⟨req, rfl, hv, hp⟩
        simp [hv, hp]
      · simp [hv]
  | ping => rfl
  | _ => simp [Connection.handleMessage, gateReply, hgate]

/-- Only a valid Hello authenticates. -/
theorem handleMessage_authenticates {key : Bytes} {conn : Connection} {msg : Message}
    {join : Option String} {sh : Shared W} (hkey : conn.sharedKey = some key)
    (hno : conn.authenticated = false)
    (hyes : (conn.handleMessage p join msg sh).2.1.authenticated = true) :
    ValidHello p key msg := by
  have hgate : conn.gated = true := by simp [gated, hkey, hno]
  cases msg with
  | hello req =>
      simp only [handleMessage, handleHello, hkey] at hyes
      split at hyes
      · simp [hno] at hyes
      · rename_i hv
        split at hyes
        · simp [hno] at hyes
        · rename_i hp
          exact ⟨req, rfl, not_not.mp hv, not_not.mp hp⟩
  | ping => simp [handleMessage, hno] at hyes
  | _ => simp [handleMessage, hgate, hno] at hyes

end Connection

/-! ## A connection among others -/

/-- The message an event delivers on connection `c`. -/
def Event.messageOn (c : Nat) : Event → Option Message
  | .receive c' msg _ => if c' = c then some msg else none
  | _ => none

/-- The messages delivered on connection `c`, in order. -/
def messagesOn (c : Nat) (es : List Event) : List Message := es.filterMap (Event.messageOn c)

namespace Server

/-- The replies to the messages on connection `c`, in order. -/
def repliesOn (c : Nat) : Server W → List Event → List Message
  | _, [] => []
  | sv, e :: rest =>
      match sv.step p e with
      | none => []
      | some (sv', out) =>
          match e.messageOn c with
          | none => repliesOn c sv' rest
          | some _ => out.reply.toList ++ repliesOn c sv' rest

/-- The key is set, and connection `c`, if it is there, is locked. -/
structure Gated (c : Nat) (key : Bytes) (sv : Server W) : Prop where
  sharedKey : sv.sharedKey = some key
  locked : ∀ conn, sv.connections.lookup c = some conn → conn.Locked key

theorem gated_start (c : Nat) (key : Bytes) (tls : Bool) (world : W) :
    (Server.start (some key) tls world).Gated c key where
  sharedKey := rfl
  locked _ h := nomatch (Finmap.lookup_empty c).symm.trans h

/-- The event changes neither the manager nor a device, and starts no
bridge. -/
def Inert (sv : Server W) (e : Event) : Prop :=
  ∀ sv' out, sv.step p e = some (sv', out) →
    sv'.manager = sv.manager ∧ sv'.world = sv.world ∧ out.calls = [] ∧ out.bridge = none

/-- A locked connection has nothing to clean up. -/
theorem cleanup_locked {key : Bytes} {conn : Connection} (h : conn.Locked key)
    (o : Outcome) (sh : Shared W) : conn.cleanup p o.cleanupJoin o.keys sh = (conn, sh) := by
  unfold Connection.cleanup
  rw [h.sessions, if_pos Finmap.keys_empty]

section Step

variable {c : Nat} {key : Bytes} {sv sv' : Server W} {e : Event} {out : Output}

theorem Gated.frame (h : sv.Gated c key) (hkey : sv'.sharedKey = sv.sharedKey)
    (hlook : ∀ conn, sv'.connections.lookup c = some conn →
      sv.connections.lookup c = some conn ∨ conn.Locked key) : sv'.Gated c key where
  sharedKey := hkey.trans h.sharedKey
  locked conn hconn := by
    rcases hlook conn hconn with hold | hnew
    · exact h.locked conn hold
    · exact hnew

/-- No event but a valid Hello on `c` opens the gate. -/
theorem Gated.step (h : sv.Gated c key)
    (hmsg : ∀ msg ∈ e.messageOn c, ¬ Connection.ValidHello p key msg)
    (hstep : StepsTo p sv e sv' out) : sv'.Gated c key := by
  cases hstep with
  | accept addr =>
      refine h.frame rfl fun conn hconn => ?_
      have hconn : (sv.connections.insert sv.accepted
        (.new sv.stream addr sv.sharedKey)).lookup c = some conn := hconn
      rw [lookup_insert_eq] at hconn
      split at hconn
      · obtain rfl := Option.some.inj hconn
        rw [h.sharedKey]
        exact Or.inr (Connection.locked_new key sv.stream addr)
      · exact Or.inl hconn
  | @reply c₀ msg o conn₀ conn₁ resp sh hc hm hs =>
      refine h.frame rfl fun conn hconn => ?_
      have hlook : (sv.connections.insert c₀ conn₁).lookup c = some conn := hconn
      rw [lookup_insert_eq] at hlook
      split at hlook
      · rename_i heq
        subst heq
        have hlock := h.locked conn₀ hc
        rw [hlock.handleMessage p (hmsg msg (if_pos rfl))] at hm
        cases hm
        obtain rfl := Option.some.inj hlook
        exact Or.inr hlock
      · exact Or.inl hlook
  | @handOff c₀ msg o conn₀ conn₁ resp target sh hc hm hs =>
      refine h.frame rfl fun conn hconn => Or.inl ?_
      exact lookup_of_erase (a := c₀) hconn
  | @drop c₀ msg o conn₀ conn₁ action sh hc hm hs hk =>
      refine h.frame rfl fun conn hconn => Or.inl ?_
      exact lookup_of_erase (a := c₀) hconn
  | @hangup c₀ o conn₀ hc hk =>
      refine h.frame rfl fun conn hconn => Or.inl ?_
      exact lookup_of_erase (a := c₀) hconn

/-- The answer on `c`, and what serving it leaves. -/
theorem Gated.receive {msg : Message} {o : Outcome} (h : sv.Gated c key)
    (hmsg : ¬ Connection.ValidHello p key msg) (hstep : StepsTo p sv (.receive c msg o) sv' out) :
    out.reply = some (Connection.gateReply msg) ∧
      sv'.manager = sv.manager ∧ sv'.world = sv.world ∧ out.calls = [] ∧ out.bridge = none := by
  cases hstep with
  | reply hc hm hs =>
      rw [(h.locked _ hc).handleMessage p hmsg] at hm
      cases hm
      exact ⟨rfl, rfl, rfl, rfl, rfl⟩
  | handOff hc hm hs =>
      rw [(h.locked _ hc).handleMessage p hmsg] at hm
      cases hm
  | drop hc hm hs hk =>
      have hlock := h.locked _ hc
      rw [hlock.handleMessage p hmsg] at hm
      cases hm
      refine ⟨rfl, ?_, ?_, ?_, rfl⟩ <;> simp only [ended, cleanup_locked p hlock] <;> rfl

theorem Gated.hangup {o : Outcome} (h : sv.Gated c key)
    (hstep : StepsTo p sv (.hangup c o) sv' out) :
    sv'.manager = sv.manager ∧ sv'.world = sv.world ∧ out.calls = [] ∧ out.bridge = none := by
  cases hstep with
  | hangup hc hk =>
      have hlock := h.locked _ hc
      refine ⟨?_, ?_, ?_, rfl⟩ <;> simp only [ended, cleanup_locked p hlock] <;> rfl

end Step

/-! ## Runs -/

/-- A run in which `c` sends no valid Hello keeps the gate, and answers
`c`'s messages by `gateReply`. -/
theorem Gated.run {c : Nat} {key : Bytes} {sv sv' : Server W} {es : List Event}
    (hrun : Run (Guarded (Server.next p)) sv es sv') (h : sv.Gated c key)
    (hno : ∀ msg ∈ messagesOn c es, ¬ Connection.ValidHello p key msg) :
    sv'.Gated c key ∧
      sv.repliesOn p c es = (messagesOn c es).map Connection.gateReply := by
  induction hrun with
  | nil s => exact ⟨h, rfl⟩
  | @cons s s₁ t e rest hs _ ih =>
      obtain ⟨⟨_, out⟩, hstep, rfl⟩ := Option.map_eq_some_iff.mp hs
      have hmsg : ∀ msg ∈ e.messageOn c, ¬ Connection.ValidHello p key msg := fun msg hm =>
        hno msg (List.mem_filterMap.mpr ⟨e, List.mem_cons_self, hm⟩)
      have hcases := step_cases p hstep
      have hgated := h.step p hmsg hcases
      obtain ⟨hend, hreplies⟩ := ih hgated fun msg hm => by
        obtain ⟨e', he', hm'⟩ := List.mem_filterMap.mp hm
        exact hno msg (List.mem_filterMap.mpr ⟨e', List.mem_cons_of_mem e he', hm'⟩)
      refine ⟨hend, ?_⟩
      rw [repliesOn, hstep]
      cases hon : e.messageOn c with
      | none =>
          rw [messagesOn, List.filterMap_cons_none hon]
          exact hreplies
      | some msg =>
          rw [messagesOn, List.filterMap_cons_some hon, List.map_cons]
          cases e with
          | receive c' msg' o =>
              rw [Event.messageOn] at hon
              split at hon
              · rename_i heq
                subst heq
                obtain rfl := Option.some.inj hon
                have hreply := (h.receive p (hmsg msg' (if_pos rfl)) hcases).1
                simp only [hreply, Option.toList_some, List.singleton_append]
                exact congrArg _ hreplies
              · cases hon
          | _ => cases hon

/-- Nothing happens at the events of `c`. -/
theorem Gated.inert {c : Nat} {key : Bytes} {sv : Server W} {e : Event} (h : sv.Gated c key)
    (hmsg : ∀ msg ∈ e.messageOn c, ¬ Connection.ValidHello p key msg) (he : e.outcome c ≠ none) :
    sv.Inert p e := by
  intro sv' out hstep
  have hcases := step_cases p hstep
  cases e with
  | accept addr => exact absurd rfl he
  | receive c' msg o =>
      by_cases hc : c' = c
      · subst hc
        exact (h.receive p (hmsg msg (if_pos rfl)) hcases).2
      · exact absurd (if_neg hc) he
  | hangup c' o =>
      by_cases hc : c' = c
      · subst hc
        exact h.hangup p hcases
      · exact absurd (if_neg hc) he

/-- The flag of a connection is set by a valid Hello on it and by nothing
else. -/
theorem authenticated_by {c : Nat} {key : Bytes} {sv sv' : Server W} {e : Event} {out : Output}
    {conn conn' : Connection} (hstep : sv.step p e = some (sv', out))
    (hconn : sv.connections.lookup c = some conn) (hkey : conn.sharedKey = some key)
    (hno : conn.authenticated = false) (hconn' : sv'.connections.lookup c = some conn')
    (hyes : conn'.authenticated = true) :
    ∃ msg ∈ e.messageOn c, Connection.ValidHello p key msg := by
  -- a connection that is what it was is not authenticated
  have same : conn' = conn → ∃ msg ∈ e.messageOn c, Connection.ValidHello p key msg := by
    rintro rfl
    rw [hno] at hyes
    cases hyes
  have kept : sv.connections.lookup c = some conn' →
      ∃ msg ∈ e.messageOn c, Connection.ValidHello p key msg := fun hlook =>
    same (Option.some.inj (hlook.symm.trans hconn))
  cases step_cases p hstep with
  | accept addr =>
      have hlook : (sv.connections.insert sv.accepted
        (.new sv.stream addr sv.sharedKey)).lookup c = some conn' := hconn'
      rw [lookup_insert_eq] at hlook
      split at hlook
      · obtain rfl := Option.some.inj hlook
        cases hyes
      · exact kept hlook
  | @reply c₀ msg o conn₀ conn₁ resp sh hc hm hs =>
      have hlook : (sv.connections.insert c₀ conn₁).lookup c = some conn' := hconn'
      rw [lookup_insert_eq] at hlook
      split at hlook
      · rename_i heq
        subst heq
        obtain rfl := Option.some.inj hlook
        obtain rfl := Option.some.inj (hc.symm.trans hconn)
        have hyes : (conn₀.handleMessage p o.join msg sv.shared).2.1.authenticated = true := by
          rw [hm]
          exact hyes
        exact ⟨msg, if_pos rfl, Connection.handleMessage_authenticates p hkey hno hyes⟩
      · exact kept hlook
  | handOff hc hm hs => exact kept (lookup_of_erase hconn')
  | drop hc hm hs hk => exact kept (lookup_of_erase hconn')
  | hangup hc hk => exact kept (lookup_of_erase hconn')

end Server

/-- **The authentication gate.** Take two servers with the same key, on
any two hosts, and a run of each in which the gated connection `c` sends
the same messages, none of them a valid Hello. The replies to `c` are the
same in both and are refusals, and nothing happens at the events of `c`.
Conversely a valid Hello is the only thing that authenticates. -/
theorem authentication_gate {W₁ W₂ : Type} (p₁ : Platform W₁) (p₂ : Platform W₂)
    (hmac : p₁.hmacSha256 = p₂.hmacSha256) (c : Nat) (key : Bytes)
    {sv₁ sv₁' : Server W₁} {sv₂ sv₂' : Server W₂} {es₁ es₂ : List Event}
    (h₁ : sv₁.Gated c key) (h₂ : sv₂.Gated c key)
    (hrun₁ : Run (Guarded (Server.next p₁)) sv₁ es₁ sv₁')
    (hrun₂ : Run (Guarded (Server.next p₂)) sv₂ es₂ sv₂')
    (hmsgs : messagesOn c es₁ = messagesOn c es₂)
    (hno : ∀ msg ∈ messagesOn c es₁, ¬ Connection.ValidHello p₁ key msg) :
    sv₁.repliesOn p₁ c es₁ = sv₂.repliesOn p₂ c es₂ ∧
      (∀ r ∈ sv₁.repliesOn p₁ c es₁, Connection.Refusal r) ∧
      StepsAlong (Guarded (Server.next p₁)) (fun sv e => e.outcome c ≠ none → sv.Inert p₁ e)
        sv₁ es₁ ∧
      ∀ (sv sv' : Server W₁) (e : Event) (out : Output) (conn conn' : Connection),
        sv.step p₁ e = some (sv', out) → sv.connections.lookup c = some conn →
        conn.sharedKey = some key → conn.authenticated = false →
        sv'.connections.lookup c = some conn' → conn'.authenticated = true →
        ∃ msg ∈ e.messageOn c, Connection.ValidHello p₁ key msg := by
  have hno₂ : ∀ msg ∈ messagesOn c es₂, ¬ Connection.ValidHello p₂ key msg := by
    intro msg hmem hvalid
    obtain ⟨req, hreq, hv, hp⟩ := hvalid
    rw [← hmsgs] at hmem
    refine hno msg hmem ⟨req, hreq, hv, ?_⟩
    rw [Connection.proof, hmac]
    exact hp
  have hreplies₁ := (Server.Gated.run p₁ hrun₁ h₁ hno).2
  have hreplies₂ := (Server.Gated.run p₂ hrun₂ h₂ hno₂).2
  refine ⟨?_, ?_, ?_, fun sv sv' e out conn conn' => Server.authenticated_by p₁⟩
  · rw [hreplies₁, hreplies₂, hmsgs]
  · intro r hr
    rw [hreplies₁] at hr
    obtain ⟨msg, -, rfl⟩ := List.mem_map.mp hr
    exact Connection.gateReply_refusal msg
  · have hquiet : StepsAlong (Guarded (Server.next p₁))
        (fun _ e => ∀ msg ∈ e.messageOn c, ¬ Connection.ValidHello p₁ key msg) sv₁ es₁ :=
      .of_forall fun e he msg hmsg => hno msg (List.mem_filterMap.mpr ⟨e, he, hmsg⟩)
    have hgated := statesAlong_of_stepsAlong (I := fun sv => sv.Gated c key)
      (fun sv e sv' h hC hs => by
        obtain ⟨⟨_, out⟩, hstep, rfl⟩ := Option.map_eq_some_iff.mp hs
        exact h.step p₁ hC (Server.step_cases p₁ hstep)) h₁ hquiet
    exact (hquiet.and_states hgated).mono fun sv e h he => h.2.inert p₁ h.1 he

/-- A server with one client, and one with a second client that hangs up
meanwhile. -/
theorem authentication_gate_two_servers :
    (Server.start (some [1]) false 0).repliesOn twoDeviceHost 0
        [.accept ⟨"10.0.0.1", 4000⟩, .receive 0 .ping {}, .receive 0 (.attach ⟨⟨1, 2⟩⟩) {}]
      = (Server.start (some [1]) true 7).repliesOn twoDeviceHost 0
        [.accept ⟨"10.0.0.1", 4000⟩, .accept ⟨"10.0.0.2", 4000⟩, .receive 0 .ping {},
          .hangup 1 {}, .receive 0 (.attach ⟨⟨1, 2⟩⟩) { sent := false }] := by
  obtain ⟨sv₁, h₁⟩ := Option.isSome_iff_exists.mp
    (show (play (Server.next twoDeviceHost) (.start (some [1]) false 0)
      [.accept ⟨"10.0.0.1", 4000⟩, .receive 0 .ping {},
        .receive 0 (.attach ⟨⟨1, 2⟩⟩) {}]).isSome = true by decide +kernel)
  obtain ⟨sv₂, h₂⟩ := Option.isSome_iff_exists.mp
    (show (play (Server.next twoDeviceHost) (.start (some [1]) true 7)
      [.accept ⟨"10.0.0.1", 4000⟩, .accept ⟨"10.0.0.2", 4000⟩, .receive 0 .ping {},
        .hangup 1 {}, .receive 0 (.attach ⟨⟨1, 2⟩⟩) { sent := false }]).isSome = true
      by decide +kernel)
  exact (authentication_gate twoDeviceHost twoDeviceHost rfl 0 [1]
    (Server.gated_start 0 [1] false 0) (Server.gated_start 0 [1] true 7)
    (play_iff_run.mp h₁) (play_iff_run.mp h₂) (by decide) (by decide +kernel)).1

end WolfUsb
