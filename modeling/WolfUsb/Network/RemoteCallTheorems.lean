/-
WolfUsb.Network.RemoteCallTheorems — a remote session is a local one.

A client that calls through the socket gets, call by call, what it would
get from the methods run in the server's own process on the same manager
(`remote_session_is_local`). One call is `Call.viaMessage_eq`: encoding the
request, dispatching it and reading the reply compute what the method
computes there. The runs are related by `Deployed.Tracks`, which survives
every step of the two ends, of the socket and of the other clients; the
one step of the client's connection that reaches the manager is matched by
the local call, and every other step by none.
-/
import WolfUsb.Network.CallReturns
import WolfUsb.Network.RemoteCalls

namespace WolfUsb

open WolfUsb.Lib

section OneCall

variable {W : Type} (p : Platform W) (debug : Message → String)

/-! ## One call -/

namespace Session

/-- What the client makes of a message handled on the server. -/
def Call.viaMessage (join : Option String) (conn : Connection) (call : Call) (sh : Shared W) :
    Except WolfUsbError Returned × Connection × Shared W :=
  let (action, conn, sh) := conn.handleMessage p join call.request sh
  (call.result debug action.message, conn, sh)

theorem performOwned_eq (join : Option String) (conn : Connection) (s : UInt64)
    (op : DeviceManager → Bus W → Except WolfUsbError Unit × DeviceManager × Bus W)
    (result : Bool → Option String → Message) (accept : Message → Except WolfUsbError Unit)
    (failed : String) (haccept : ∀ ok text, accept (result ok text) = outcome failed ok text)
    (sh : Shared W) :
    (accept (Connection.handleInterface p join conn s op result sh).1,
        (Connection.handleInterface p join conn s op result sh).2)
      = performOwned p join conn s op sh := by
  unfold Connection.handleInterface performOwned inTask
  split
  · simp [haccept, outcome]
  · cases join with
    | some e => simp [spawnBlocking, haccept, outcome]
    | none =>
        obtain ⟨r, m, u, hop⟩ : ∃ r m u, op sh.manager sh.bus = (r, m, u) := ⟨_, _, _, rfl⟩
        cases r with
        | ok a => simp [spawnBlocking, Shared.locked, hop, haccept, outcome, told]
        | error e => simp [spawnBlocking, Shared.locked, hop, haccept, outcome, told]

theorem performTransfer_eq (join : Option String) (conn : Connection) (request : TransferRequest)
    (s : UInt64) (sh : Shared W) :
    (transfer debug (Connection.handleTransfer p join conn s request.deviceId
        (request.execute p) sh).1,
      (Connection.handleTransfer p join conn s request.deviceId (request.execute p) sh).2)
      = performTransfer p join conn request s sh := by
  unfold Connection.handleTransfer Connection.transferHandle performTransfer
  by_cases hs : s ∈ conn.sessions
  · cases hvalid : sh.manager.validateSession s request.deviceId with
    | error e => simp [hs, transfer, Connection.transferError]
    | ok _ =>
        obtain ⟨r, u, hhandle⟩ : ∃ r u,
            sh.manager.getHandle p request.deviceId sh.bus = (r, u) := ⟨_, _, rfl⟩
        cases r with
        | error e => simp [hs, hhandle, transfer, Connection.transferError]
        | ok handle =>
            cases join with
            | some e =>
                simp [hs, hhandle, spawnBlocking, transfer, refused, Connection.internalError]
            | none => simp [hs, hhandle, spawnBlocking, Shared.reading, transfer]
  · simp [hs, transfer, Connection.transferError]

theorem Call.result_error (call : Call) (e : ErrorResponse) :
    call.result debug (.error e) = .error (.protocolError e.message) := by
  cases call <;> rfl

/-- The request of a method meets the gate, and then the dispatch. -/
theorem Call.handleMessage_request (join : Option String) (conn : Connection) (call : Call)
    (sh : Shared W) :
    conn.handleMessage p join call.request sh
      = if conn.gated then (.reply Connection.notAuthenticated, conn, sh)
        else Connection.dispatch p join conn call.request sh := by
  cases call <;> rfl

/-- A call past the gate. -/
theorem Call.performOpen_eq (join : Option String) (conn : Connection) (call : Call)
    (sh : Shared W) :
    (call.result debug (Connection.dispatch p join conn call.request sh).1.message,
        (Connection.dispatch p join conn call.request sh).2)
      = call.performOpen p join conn sh := by
  cases call with
  | listDevices =>
      obtain ⟨r, u, hop⟩ : ∃ r u, DeviceManager.listDevices p sh.bus = (r, u) := ⟨_, _, rfl⟩
      cases join with
      | some e => rfl
      | none =>
          cases r <;>
            simp [Call.request, Connection.dispatch, Connection.handleListDevices, spawnBlocking,
              Shared.reading, hop, Call.performOpen, inTask, told, Call.result, Action.message,
              Session.listDevices, refused, Except.map]
  | getDescriptors deviceId =>
      obtain ⟨r, u, hop⟩ : ∃ r u, DeviceManager.getDescriptors p deviceId sh.bus = (r, u) :=
        ⟨_, _, rfl⟩
      cases join with
      | some e => rfl
      | none =>
          cases r <;>
            simp [Call.request, Connection.dispatch, Connection.handleGetDescriptors, spawnBlocking,
              Shared.reading, hop, Call.performOpen, inTask, told, Call.result, Action.message,
              Session.getDescriptors, refused, Except.map]
  | attach deviceId =>
      obtain ⟨r, m, u, hop⟩ : ∃ r m u,
          sh.manager.attach p deviceId conn.peerAddr sh.bus = (r, m, u) := ⟨_, _, _, rfl⟩
      cases join with
      | some e => rfl
      | none =>
          cases r <;>
            simp [Call.request, Connection.dispatch, Connection.handleAttach, spawnBlocking,
              Shared.locked, hop, Call.performOpen, inTask, told, Call.result, Action.message,
              Session.attach, Connection.attachRefused, Except.map]
  | detach deviceId s =>
      by_cases hs : s ∈ conn.sessions
      · obtain ⟨r, m, u, hop⟩ : ∃ r m u, sh.manager.detach p deviceId s sh.bus = (r, m, u) :=
          ⟨_, _, _, rfl⟩
        cases join with
        | some e =>
            simp [Call.request, Connection.dispatch, Connection.handleDetach, hs, spawnBlocking,
              Call.performOpen, inTask, Call.result, Action.message, Session.detach, outcome,
              Connection.detachRefused, Except.map]
        | none =>
            cases r <;>
              simp [Call.request, Connection.dispatch, Connection.handleDetach, hs, spawnBlocking,
                Shared.locked, hop, Call.performOpen, inTask, told, Call.result, Action.message,
                Session.detach, outcome, Connection.detachRefused, Except.map]
      · simp [Call.request, Connection.dispatch, Connection.handleDetach, hs, Call.performOpen,
          Call.result, Action.message, Session.detach, outcome, Connection.detachRefused,
          Except.map]
  | controlTransfer req =>
      have h := performTransfer_eq p debug join conn (.control req) req.sessionId sh
      simp only [Call.performOpen, ← h]
      rfl
  | bulkTransfer req =>
      have h := performTransfer_eq p debug join conn (.bulk req) req.sessionId sh
      simp only [Call.performOpen, ← h]
      rfl
  | interruptTransfer req =>
      have h := performTransfer_eq p debug join conn (.interrupt req) req.sessionId sh
      simp only [Call.performOpen, ← h]
      rfl
  | claimInterface s deviceId i =>
      have h := performOwned_eq p join conn s (fun m => m.claimInterface p deviceId i)
        (fun success errorMessage => .claimInterfaceResult { success, errorMessage })
        (Session.claimInterface debug) "Claim interface failed" (fun _ _ => rfl) sh
      simp only [Call.performOpen, ← h]
      rfl
  | releaseInterface s deviceId i =>
      have h := performOwned_eq p join conn s (fun m => m.releaseInterface p deviceId i)
        (fun success errorMessage => .releaseInterfaceResult { success, errorMessage })
        (Session.releaseInterface debug) "Release interface failed" (fun _ _ => rfl) sh
      simp only [Call.performOpen, ← h]
      rfl
  | setConfiguration s deviceId c =>
      have h := performOwned_eq p join conn s (fun m => m.setConfiguration p deviceId c)
        (fun success errorMessage => .setConfigurationResult { success, errorMessage })
        (Session.setConfiguration debug) "Set configuration failed" (fun _ _ => rfl) sh
      simp only [Call.performOpen, ← h]
      rfl

/-- **A method is its manager operation**: what the client makes of the
reply, and what the message does on the server, is the call performed
there. -/
theorem Call.viaMessage_eq (join : Option String) (conn : Connection) (call : Call)
    (sh : Shared W) : call.viaMessage p debug join conn sh = call.perform p join conn sh := by
  unfold viaMessage perform
  rw [call.handleMessage_request p join conn sh]
  by_cases hgated : conn.gated = true
  · rw [if_pos hgated, if_pos hgated]
    simp [Connection.notAuthenticated, Action.message, call.result_error debug]
  · rw [if_neg hgated, if_neg hgated]
    exact call.performOpen_eq p debug join conn sh

end Session

end OneCall

/-! ## The simulation -/

variable {W : Type} {p : Platform W} {debug : Message → String} {b : Bincode}

/-- The connection a server has, before it hands it off. -/
def ServerPc.connection : ServerPc → Option Connection
  | .serving conn _ | .replying conn _ _ => some conn
  | .switching _ _ | .bridging _ => none

theorem ServerPc.connection_receive {pc pc' : ServerPc} {chunk : Bytes}
    (h : pc.receive b chunk = some pc') : pc'.connection = pc.connection := by
  unfold receive at h
  split at h
  · split at h <;> cases h
    rfl
  · split at h
    · split at h <;> cases h
      rfl
    · cases h
      rfl
    · cases h
  · cases h

theorem ServerPc.connection_write {pc pc' : ServerPc} {n : Nat} {bytes : Bytes}
    (h : pc.write n = some (bytes, pc')) : pc'.connection = pc.connection := by
  unfold write at h
  split at h
  · cases h
    rfl
  · split at h <;> cases h
    rfl
  · cases h

/-- What the client does leaves the server's place, and adds to the calls
at most. -/
theorem Exchange.clientStep_server {s s' : Exchange} {e : ExchangeEvent W}
    (hstep : clientStep debug b s e = some s') : s'.server = s.server ∧ s.asked <+: s'.asked := by
  unfold clientStep at hstep
  split at hstep
  · split at hstep
    · split at hstep
      · obtain rfl := Option.some.inj hstep
        exact ⟨rfl, List.prefix_refl _⟩
      · split at hstep
        · obtain rfl := Option.some.inj hstep
          exact ⟨rfl, List.prefix_refl _⟩
        · obtain rfl := Option.some.inj hstep
          exact ⟨rfl, List.prefix_append _ _⟩
    · cases hstep
  · split at hstep
    · obtain rfl := Option.some.inj hstep
      exact ⟨rfl, List.prefix_refl _⟩
    · cases hstep
  · split at hstep
    · split at hstep
      · obtain rfl := Option.some.inj hstep
        exact ⟨rfl, List.prefix_refl _⟩
      · cases hstep
    · cases hstep
  · split at hstep
    · obtain rfl := Option.some.inj hstep
      exact ⟨rfl, List.prefix_refl _⟩
    · cases hstep
  · split at hstep
    · obtain ⟨_, _, rfl⟩ := Option.map_eq_some_iff.mp hstep
      exact ⟨rfl, List.prefix_refl _⟩
    · cases hstep
  · split at hstep
    · cases hstep
    · obtain rfl := Option.some.inj hstep
      exact ⟨rfl, List.prefix_refl _⟩
    · obtain rfl := Option.some.inj hstep
      exact ⟨rfl, List.prefix_refl _⟩
  · cases hstep

namespace Deployed

/-- **The deployed session tracks the local one.** The messages the server
has decoded are the calls performed, the shared state is the same, and so
is the connection while the server lives; a reply says what its call
returned. -/
structure Tracks (debug : Message → String) (b : Bincode) (s : Deployed W) (t : LocalSession W) :
    Prop where
  sound : s.exchange.Sound debug b
  shared : t.shared = s.shared
  conn : s.exchange.serverLive = true → ∀ c ∈ s.exchange.server.connection, t.conn = c
  calls : t.performed.map Prod.fst = s.exchange.asked.take s.exchange.served.length
  results : ∀ (n : Nat) (m : Message), s.exchange.replies[n]? = some m →
    ∃ call, t.performed[n]? = some (call, Session.Call.result debug call m)

theorem tracks_start (conn : Connection) (sh : Shared W) :
    (start conn sh).Tracks debug b ⟨conn, sh, []⟩ where
  sound := ⟨Exchange.inv_start conn, fun _ h => by cases h⟩
  shared := rfl
  conn _ _ h := Option.some.inj h
  calls := rfl
  results _ _ h := by cases h

/-- The calls performed are as many as the messages decoded. -/
theorem Tracks.length_performed {s : Deployed W} {t : LocalSession W} (h : s.Tracks debug b t) :
    t.performed.length = s.exchange.served.length := by
  have hle := h.sound.1.served.length_le
  have hlen := congrArg List.length h.calls
  rw [List.length_map] at hle hlen
  rw [hlen, List.length_take, Nat.min_eq_left hle]

/-- A step that decodes nothing and leaves the shared state is none of the
local session's. -/
theorem Tracks.stutter {s : Deployed W} {t : LocalSession W} {exchange : Exchange}
    (h : s.Tracks debug b t) (hsound : exchange.Sound debug b)
    (hserved : exchange.served = s.exchange.served)
    (hreplies : exchange.replies = s.exchange.replies)
    (hasked : s.exchange.asked <+: exchange.asked)
    (hlive : exchange.serverLive = true → s.exchange.serverLive = true)
    (hconn : exchange.serverLive = true →
      exchange.server.connection = s.exchange.server.connection) :
    Tracks debug b { s with exchange } t where
  sound := hsound
  shared := h.shared
  conn hl c hc := by
    rw [hconn hl] at hc
    exact h.conn (hlive hl) c hc
  calls := by
    have hle := h.sound.1.served.length_le
    rw [List.length_map] at hle
    obtain ⟨more, hmore⟩ := hasked
    show _ = exchange.asked.take exchange.served.length
    rw [← hmore, hserved, List.take_append_of_le_length hle]
    exact h.calls
  results n m hm := by
    rw [hreplies] at hm
    exact h.results n m hm

/-- The message a living server decodes is that of the next call. -/
theorem Tracks.next_call (hp : b.RefusesPrefixes) {s : Deployed W} {t : LocalSession W}
    (h : s.Tracks debug b t) (hlive : s.exchange.serverLive = true) {conn : Connection} {f : Framed}
    {m : Message} {rest : Bytes} (hserver : s.exchange.server = .serving conn f)
    (hdec : Codec.decode b f.read = .item m rest) :
    ∃ call, s.exchange.asked[s.exchange.served.length]? = some call ∧ m = call.request := by
  obtain ⟨-, ⟨more, hmore⟩, -⟩ := h.sound.1.decoded hp hlive hserver hdec
  have hget : (s.exchange.asked.map Session.Call.request)[s.exchange.served.length]? = some m := by
    rw [← hmore, List.append_assoc, List.getElem?_append_right (Nat.le_refl _), Nat.sub_self]
    rfl
  rw [List.getElem?_map] at hget
  obtain ⟨call, hcall, hm⟩ := Option.map_eq_some_iff.mp hget
  exact ⟨call, hcall, hm.symm⟩

/-- A message that is decoded is a call that is performed. -/
theorem Tracks.performs {s : Deployed W} {t : LocalSession W} (h : s.Tracks debug b t)
    {call : Session.Call} (hcall : s.exchange.asked[s.exchange.served.length]? = some call)
    {join : Option String} {conn conn' : Connection} {action : Action} {sh' : Shared W}
    (hconn : t.conn = conn)
    (hm : conn.handleMessage p join call.request s.shared = (action, conn', sh'))
    {exchange : Exchange} (hsound : exchange.Sound debug b)
    (hserved : exchange.served = s.exchange.served ++ [call.request])
    (hasked : exchange.asked = s.exchange.asked)
    (hcount : s.exchange.replies.length = s.exchange.served.length)
    (hreplies : exchange.replies = s.exchange.replies ∨
      exchange.replies = s.exchange.replies ++ [action.message])
    (hafter : exchange.serverLive = true → ∀ c ∈ exchange.server.connection, conn' = c) :
    ∃ t', LocalSession.step p t (.call join call) = some t' ∧
      Tracks debug b ⟨exchange, sh'⟩ t' := by
  have hperform : call.perform p join t.conn t.shared
      = (call.result debug action.message, conn', sh') := by
    rw [hconn, h.shared, ← call.viaMessage_eq p debug, Session.Call.viaMessage, hm]
  refine ⟨_, by rw [LocalSession.step, hperform], hsound, rfl, hafter, ?_, ?_⟩
  · show (t.performed ++ [(call, call.result debug action.message)]).map Prod.fst
      = exchange.asked.take exchange.served.length
    rw [hserved, hasked, List.map_append, h.calls, List.length_append, List.length_singleton,
      List.take_add_one, hcall]
    rfl
  · intro n m hn
    have hlen := h.length_performed
    rcases hreplies with hreplies | hreplies
    · rw [hreplies] at hn
      obtain ⟨call', hcall'⟩ := h.results n m hn
      exact ⟨call', Exchange.getElem?_append_of_some hcall'⟩
    · rw [hreplies] at hn
      by_cases hlt : n < s.exchange.replies.length
      · rw [List.getElem?_append_left hlt] at hn
        obtain ⟨call', hcall'⟩ := h.results n m hn
        exact ⟨call', Exchange.getElem?_append_of_some hcall'⟩
      · have hle := Nat.le_of_not_lt hlt
        rw [List.getElem?_append_right hle] at hn
        have hlast := (List.getElem?_eq_some_iff.mp hn).1
        rw [List.length_singleton] at hlast
        have hzero : n - s.exchange.replies.length = 0 := by omega
        rw [hzero] at hn
        obtain rfl := Option.some.inj hn
        refine ⟨call, ?_⟩
        rw [List.getElem?_append_right (by omega)]
        have hzero' : n - t.performed.length = 0 := by omega
        rw [hzero']
        rfl

section Sizes

variable (hb : b.RoundTrips) (hp : b.RefusesPrefixes) (hsize : b.Proportionate)
  (hw : p.WithinUsb)

include hb hp hsize hw

/-- An operation of the server. -/
theorem Tracks.serverAdvance {s s' : Deployed W} {t : LocalSession W} (h : s.Tracks debug b t)
    {env : ServerEnv W} (hjoin : ShortJoin env.join)
    (hstep : s.step p debug b (.own (.server env)) = some s') :
    ∃ ds t', Run (Guarded (LocalSession.step p)) t ds t' ∧ ds.flatMap LocalEvent.others = [] ∧
      s'.Tracks debug b t' := by
  obtain ⟨exchange, hx, rfl⟩ := Option.map_eq_some_iff.mp hstep
  have hshort : Exchange.ShortJoins (served s.shared (.server env)) := hjoin
  have hsound : exchange.Sound debug b := h.sound.step hb hp hsize hw hshort hx
  obtain ⟨hlive, hserverStep⟩ : s.exchange.serverLive = true ∧
      s.exchange.serverStep p b (served s.shared (.server env)) = some exchange := by
    rcases Exchange.step_cases hx with hclient | hserver
    · cases hclient
    · exact hserver
  obtain ⟨r, hadv, hexchange⟩ := Option.map_eq_some_iff.mp hserverStep
  have hcount : s.exchange.replies.length = s.exchange.served.length := by
    rcases h.sound.1.replied with hcount | ⟨-, hdead⟩
    · exact hcount
    · cases hlive.symm.trans hdead
  -- an operation that decodes nothing
  have hstutter (hheard : Exchange.heard b s.exchange.server = none)
      (hshared : s.sharedAfter p b (.server env) = s.shared)
      (hr : r = none ∨ ∃ server, r = some (server, none) ∧
        server.connection = s.exchange.server.connection) :
      ∃ ds t', Run (Guarded (LocalSession.step p)) t ds t' ∧ ds.flatMap LocalEvent.others = [] ∧
        Tracks debug b ⟨exchange, s.sharedAfter p b (.server env)⟩ t' := by
    have hserved : s.exchange.served ++ (Exchange.heard b s.exchange.server).toList
        = s.exchange.served := by
      rw [hheard]
      exact List.append_nil _
    rw [hshared]
    refine ⟨[], t, Run.nil t, rfl, ?_⟩
    rcases hr with rfl | ⟨server, rfl, hconn⟩
    · obtain rfl := hexchange
      exact h.stutter hsound hserved rfl (List.prefix_refl _) (by simp) (by simp)
    · obtain rfl := hexchange
      exact h.stutter hsound hserved (List.append_nil _) (List.prefix_refl _) (fun hl => hl)
        fun _ => hconn
  have hplain := h.sound.1.plain
  cases hserver : s.exchange.server with
  | serving conn f =>
      rw [hserver] at hadv
      cases hdec : Codec.decode b f.read with
      | more =>
          simp only [ServerPc.advance, hdec] at hadv
          cases hadv
      | failed e =>
          simp only [ServerPc.advance, hdec] at hadv
          obtain rfl := Option.some.inj hadv
          exact hstutter (by simp only [hserver, Exchange.heard, hdec])
            (by simp only [sharedAfter, hserver, hdec]) (Or.inl rfl)
      | item m rest =>
          obtain ⟨call, hcall, rfl⟩ := h.next_call hp hlive hserver hdec
          have hheard : Exchange.heard b s.exchange.server = some call.request := by
            simp only [hserver, Exchange.heard, hdec]
          have hconn := h.conn hlive conn (by rw [hserver]; rfl)
          obtain ⟨⟨action, conn', sh'⟩, hm⟩ :
              ∃ x, conn.handleMessage p env.join call.request s.shared = x := ⟨_, rfl⟩
          have hshared : s.sharedAfter p b (.server env) = sh' := by
            simp only [sharedAfter, hserver, hdec, hm]
          simp only [ServerPc.advance, hdec, hm] at hadv
          rw [hshared]
          split at hadv
          · obtain rfl := Option.some.inj hadv
            obtain rfl := hexchange
            obtain ⟨t', hlocal, ht'⟩ := h.performs hcall hconn hm hsound
              (by simp only [hheard, Option.toList_some]) rfl hcount (Or.inl rfl) (by simp)
            exact ⟨_, t', Run.single hlocal, rfl, ht'⟩
          · obtain rfl := Option.some.inj hadv
            obtain rfl := hexchange
            obtain ⟨t', hlocal, ht'⟩ := h.performs hcall hconn hm hsound
              (by simp only [hheard, Option.toList_some]) rfl hcount
              (Or.inr (by simp only [Option.toList_some])) (fun _ c hc => Option.some.inj hc)
            exact ⟨_, t', Run.single hlocal, rfl, ht'⟩
  | replying conn f target =>
      rw [hserver] at hplain hadv
      simp only [ServerPc.advance] at hadv
      split at hadv
      · cases target with
        | some target => cases hplain
        | none =>
            obtain rfl := Option.some.inj hadv
            exact hstutter (by rw [hserver]; rfl) (by simp only [sharedAfter, hserver])
              (Or.inr ⟨_, rfl, by rw [hserver]; rfl⟩)
      · cases hadv
  | switching f target =>
      rw [hserver] at hplain
      cases hplain
  | bridging g =>
      rw [hserver] at hplain
      cases hplain

/-- **A step of the deployed session is none of the local one, or one.** -/
theorem Tracks.step {s s' : Deployed W} {t : LocalSession W} (h : s.Tracks debug b t)
    {e : DeployedEvent W} (hjoin : ∀ own, e = .own own → Exchange.ShortJoins own)
    (hstep : s.step p debug b e = some s') :
    ∃ ds t', Run (Guarded (LocalSession.step p)) t ds t' ∧
      ds.flatMap LocalEvent.others = e.others ∧ s'.Tracks debug b t' := by
  cases e with
  | other op =>
      obtain rfl := Option.some.inj hstep
      refine ⟨[.other op], _, Run.single rfl, rfl, h.sound, ?_, h.conn, h.calls, h.results⟩
      show (op.perform p t.shared).2 = _
      rw [h.shared]
  | own e =>
      by_cases hserver : ∃ env, e = .server env
      · obtain ⟨env, rfl⟩ := hserver
        exact h.serverAdvance hb hp hsize hw (hjoin _ rfl) hstep
      · obtain ⟨exchange, hx, rfl⟩ := Option.map_eq_some_iff.mp hstep
        have hsame : served s.shared e = e ∧ s.sharedAfter p b e = s.shared := by
          cases e with
          | server env => exact absurd ⟨env, rfl⟩ hserver
          | _ => exact ⟨rfl, rfl⟩
        rw [hsame.1] at hx
        rw [hsame.2]
        have hsound : exchange.Sound debug b := h.sound.step hb hp hsize hw (hjoin _ rfl) hx
        refine ⟨[], t, Run.nil t, rfl, ?_⟩
        rcases Exchange.step_cases hx with hclient | ⟨hlive, hserverStep⟩
        · obtain ⟨hlive, hserved, hreplies, -⟩ := Exchange.clientStep_keeps hclient
          obtain ⟨hpc, hasked⟩ := Exchange.clientStep_server hclient
          exact h.stutter hsound hserved hreplies hasked (fun hl => hlive ▸ hl) fun _ => by rw [hpc]
        · cases e with
          | server env => exact absurd ⟨env, rfl⟩ hserver
          | serverRead n =>
              obtain ⟨pc, hread, rfl⟩ := Option.map_eq_some_iff.mp hserverStep
              exact h.stutter hsound rfl rfl (List.prefix_refl _) (fun hl => hl)
                fun _ => ServerPc.connection_receive hread
          | serverWrite n =>
              obtain ⟨⟨bytes, pc⟩, hwrite, rfl⟩ := Option.map_eq_some_iff.mp hserverStep
              exact h.stutter hsound rfl rfl (List.prefix_refl _) (fun hl => hl)
                fun _ => ServerPc.connection_write hwrite
          | serverFails =>
              obtain rfl := Option.some.inj hserverStep
              exact h.stutter hsound rfl rfl (List.prefix_refl _) (by simp) (by simp)
          | _ => cases hserverStep

end Sizes

end Deployed

/-- **A remote session is a local one**, in every run of a connected
session against `Connection::run` while the other connections of the
server work on what they share. There is a run of the local session, with
the same operations of the others, that leads to the same shared state: the
calls it performs are those whose requests the server has served, in their
order and each once, and a call that has its reply has returned what the
local call did. -/
theorem remote_session_is_local (p : Platform W) (debug : Message → String) (b : Bincode)
    (hb : b.RoundTrips) (hp : b.RefusesPrefixes) (hsize : b.Proportionate) (hw : p.WithinUsb)
    (conn : Connection) (sh : Shared W) {es : List (DeployedEvent W)} {s : Deployed W}
    (hrun : Run (Guarded fun s e => Deployed.step p debug b s e) (.start conn sh) es s)
    (hjoin : ∀ e ∈ es, ∀ own, e = .own own → Exchange.ShortJoins own) :
    ∃ ds t, Run (Guarded fun t e => LocalSession.step p t e) ⟨conn, sh, []⟩ ds t ∧
      ds.flatMap LocalEvent.others = es.flatMap DeployedEvent.others ∧
      t.shared = s.shared ∧ t.performed.map Prod.fst <+: s.exchange.asked ∧
      t.performed.map (fun q => q.1.request) = s.exchange.served ∧
      ∀ c ∈ s.exchange.completed, c.response.isSome = true →
        ∃ n, c.request = some n ∧ t.performed[n]? = some (c.call, c.result) := by
  obtain ⟨ds, t, hlocal, hothers, htracks⟩ := hrun.simulate_along (R := Deployed.Tracks debug b)
    DeployedEvent.others LocalEvent.others
    (fun _ _ _ _ h hj hstep => h.step hb hp hsize hw hj hstep) (.of_forall hjoin)
    (Deployed.tracks_start conn sh)
  refine ⟨ds, t, hlocal, hothers, htracks.shared, ?_, ?_, ?_⟩
  · rw [htracks.calls]
    exact List.take_prefix _ _
  · -- the server has served the first of the requests, as many as were performed
    calc t.performed.map (fun q => q.1.request)
        = (t.performed.map Prod.fst).map Session.Call.request := by rw [List.map_map]; rfl
      _ = (s.exchange.asked.map Session.Call.request).take s.exchange.served.length := by
          rw [htracks.calls, List.map_take]
      _ = s.exchange.served := (List.prefix_iff_eq_take.mp htracks.sound.1.served).symm
  · intro c hc hresponse
    have hown := htracks.sound.1.completed c hc
    obtain ⟨m, hm⟩ := Option.isSome_iff_exists.mp hresponse
    obtain ⟨n, hn, hreply, -, hresult⟩ := hown.own m hm
    obtain ⟨call, hperformed⟩ := htracks.results n m hreply
    -- the call performed is the call that was asked for
    have hget : (t.performed.map Prod.fst)[n]? = some call := by
      rw [List.getElem?_map, hperformed]
      rfl
    rw [htracks.calls, List.getElem?_take] at hget
    split at hget
    · rw [hown.asked n hn] at hget
      obtain rfl := Option.some.inj hget
      exact ⟨n, hn, by rw [hperformed, hresult]⟩
    · cases hget

/-- A client attaches one device of two, another client the second, and
then the first client tries the second. -/
def attachedByAnother : List (DeployedEvent Nat) :=
  (exchanged (.attach ⟨1, 2⟩)).map .own ++ [.other (.attach ⟨1, 3⟩ ⟨"10.0.0.2", 4000⟩)] ++
    (exchanged (.attach ⟨1, 3⟩)).map .own

theorem remote_session_is_local_two_clients :
    ∃ s ds t, Run (Guarded fun s e => Deployed.step twoDeviceHost (fun _ => "") .standard s e)
        (.start (.new .plain ⟨"10.0.0.1", 4000⟩ none) (.fresh 0)) attachedByAnother s ∧
      s.exchange.completed.map Completed.result =
        [.ok (.session 1), .error (.protocolError "Device already attached by another client")] ∧
      Run (Guarded fun t e => LocalSession.step twoDeviceHost t e)
        ⟨.new .plain ⟨"10.0.0.1", 4000⟩ none, .fresh 0, []⟩ ds t ∧
      ds.flatMap LocalEvent.others = [.attach ⟨1, 3⟩ ⟨"10.0.0.2", 4000⟩] ∧
      t.shared = s.shared ∧ t.performed.map (fun q => q.1.request) = s.exchange.served := by
  have hplay : (play (fun s e => Deployed.step twoDeviceHost (fun _ => "") .standard s e)
      (.start (.new .plain ⟨"10.0.0.1", 4000⟩ none) (.fresh 0)) attachedByAnother).map
        (fun s => s.exchange.completed.map Completed.result) =
      some [.ok (.session 1),
        .error (.protocolError "Device already attached by another client")] := by
    decide +kernel
  obtain ⟨s, hplay, hresults⟩ := Option.map_eq_some_iff.mp hplay
  have hrun := play_iff_run.mp hplay
  have hjoin : ∀ e ∈ attachedByAnother, ∀ own, e = .own own → Exchange.ShortJoins own := by
    simp [attachedByAnother, exchanged, twoDeviceStep, Exchange.ShortJoins, ShortJoin]
  obtain ⟨ds, t, hlocal, hothers, hshared, -, hserved, -⟩ := remote_session_is_local twoDeviceHost
    (fun _ => "") .standard Bincode.standard_roundTrips Bincode.standard_refusesPrefixes
    Bincode.standard_proportionate twoDeviceHost_withinUsb _ _ hrun hjoin
  exact ⟨s, ds, t, hrun, hresults, hlocal, hothers, hshared, hserved⟩

end WolfUsb
