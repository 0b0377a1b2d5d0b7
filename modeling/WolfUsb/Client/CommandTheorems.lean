/-
WolfUsb.Client.CommandTheorems — a session id does not outlive the command
that printed it.

A session belongs to the connection it was attached on, and each command
has a connection of its own, whose table is empty until the command's one
request. So every transfer and every detach of the CLI is refused, on
every server and whatever was attached before.
-/
import WolfUsb.Client.Commands
import WolfUsb.Server.ReplyTheorems
import WolfUsb.Server.SessionTheorems

namespace WolfUsb

open WolfUsb.Lib

variable {W : Type} {p : Platform W} {debug : Message → String}

/-! ## A connection before its first request -/

/-- The connection was accepted, and if it is still served, it is as `P`
says. -/
def Server.Keeps (sv : Server W) (c : Nat) (P : Connection → Prop) : Prop :=
  c < sv.accepted ∧ ∀ conn, sv.connections.lookup c = some conn → P conn

namespace Server.Keeps

variable {sv sv' : Server W} {c : Nat} {P : Connection → Prop}

/-- What happens on other connections does not concern it. -/
theorem step (h : sv.Keeps c P) {e : Event} {out : Output} (he : e.isOn c = false)
    (hstep : StepsTo p sv e sv' out) : sv'.Keeps c P := by
  refine ⟨Nat.lt_of_lt_of_le h.1 hstep.accepted_le, fun conn' hconn' => ?_⟩
  rcases hstep.connection_after hconn' with
    ⟨addr, -, rfl, -⟩ | hold | ⟨msg, o, conn, sh, rfl, -⟩
  · exact absurd h.1 (Nat.lt_irrefl _)
  · exact h.2 conn' hold
  · simp [Event.isOn] at he

theorem elsewhere (h : sv.Keeps c P) {es : List Event}
    (helse : sv.elsewhere p c es = some sv') : sv'.Keeps c P := by
  unfold Server.elsewhere at helse
  split at helse
  · cases helse
  · rename_i hany
    induction es generalizing sv with
    | nil =>
        obtain rfl := Option.some.inj helse
        exact h
    | cons e rest ih =>
        simp only [List.any_cons, Bool.or_eq_true, not_or, Bool.not_eq_true] at hany
        rw [play] at helse
        cases hnext : sv.next p e with
        | none =>
            rw [hnext] at helse
            cases helse
        | some sv₁ =>
            rw [hnext] at helse
            obtain ⟨⟨sv₂, out⟩, hstep, rfl⟩ := Option.map_eq_some_iff.mp hnext
            exact ih (h.step hany.1 (step_cases p hstep)) (by simpa using hany.2) helse

theorem accept {addr : SocketAddr} (hnext : sv.next p (.accept addr) = some sv') :
    sv'.Keeps sv.accepted fun conn => conn.sessions = ∅ := by
  obtain rfl := Option.some.inj hnext
  refine ⟨Nat.lt_succ_self _, fun conn hconn => ?_⟩
  have hlook : (sv.connections.insert sv.accepted
      (Connection.new sv.stream addr sv.sharedKey)).lookup sv.accepted = some conn := hconn
  rw [Finmap.lookup_insert] at hlook
  obtain rfl := Option.some.inj hlook
  rfl

end Server.Keeps

/-! ## Hello -/

/-- A client that connects was accepted. -/
theorem Session.connect_accepted {key : Option Bytes} {n : Vector UInt8 32} {next : NextFrame}
    {serverName : String} (h : connect p debug key n (.ok ()) next = .ok serverName) :
    ∃ resp, next = some (.ok (.helloResponse resp)) ∧ resp.authAccepted = true := by
  simp only [connect] at h
  split at h
  · cases h
  · cases h
  · rename_i resp
    refine ⟨resp, rfl, ?_⟩
    cases hacc : resp.authAccepted with
    | true => rfl
    | false =>
        unfold checkHello at h
        rw [hacc, Bool.not_false, if_pos rfl] at h
        cases h
  · cases h

/-- A reply the client gets was sent. -/
theorem Outcome.deliver_ok {o : Outcome} {out : Output} {msg : Message}
    (h : o.deliver out = some (.ok msg)) : o.sent = true ∧ out.reply = some msg := by
  unfold deliver at h
  split at h
  · rename_i hsent
    obtain ⟨resp, hresp, heq⟩ := Option.map_eq_some_iff.mp h
    obtain rfl := Except.ok.inj heq
    exact ⟨hsent, hresp⟩
  · cases h

/-- A connection that is past the gate and has attached nothing. -/
def Connection.Fresh (conn : Connection) : Prop := conn.gated = false ∧ conn.sessions = ∅

/-- Once the Hello is accepted the gate is open; the table is as it was. -/
theorem Server.Keeps.hello {sv sv' : Server W} {c : Nat} {req : HelloRequest} {o : Outcome}
    {out : Output} {resp : HelloResponse} (h : sv.Keeps c fun conn => conn.sessions = ∅)
    (hstep : StepsTo p sv (.receive c (.hello req) o) sv' out)
    (hreply : out.reply = some (.helloResponse resp)) (hacc : resp.authAccepted = true) :
    sv'.Keeps c Connection.Fresh := by
  refine ⟨Nat.lt_of_lt_of_le h.1 hstep.accepted_le, fun conn' hconn' => ?_⟩
  cases hstep with
  | @reply _ _ _ conn conn₁ resp₁ sh hc hm hs =>
      have hlook : (sv.connections.insert c conn₁).lookup c = some conn' := hconn'
      rw [Finmap.lookup_insert] at hlook
      obtain rfl := Option.some.inj hlook
      obtain rfl := Option.some.inj hreply
      have hauth := (conn.handleMessage_authenticated p o.join (.hello req) sv.shared).2
      have htable := conn.handleHello_sessions p req
      have hconn : (conn.handleHello p req).2 = conn₁ := congrArg (fun r => r.2.1) hm
      rw [hm] at hauth
      rw [hconn, h.2 conn hc] at htable
      refine ⟨?_, htable⟩
      have hauth : conn₁.authenticated = true := by
        simpa [Action.message, Connection.verdict, hacc] using hauth
      simp [Connection.gated, hauth]
  | handOff hc hm hs => simp [Server.handOff, Server.after] at hconn'
  | drop hc hm hs hk => simp [Server.ended, Server.after] at hconn'

/-! ## The request -/

theorem Connection.cleanup_fresh {conn : Connection} (h : conn.Fresh) (join : Option String)
    (keys : List UInt64) (sh : Shared W) : conn.cleanup p join keys sh = (conn, sh) := by
  unfold cleanup
  rw [if_pos (by rw [h.2]; rfl)]

/-- A session id is refused on a connection that has attached nothing, and
no device hears of it. -/
theorem Server.Keeps.refused {sv sv' : Server W} {c : Nat} {msg : Message} {s : UInt64}
    {o : Outcome} {out : Output} (h : sv.Keeps c Connection.Fresh)
    (hmsg : msg.sessionId? = some s) (hstep : StepsTo p sv (.receive c msg o) sv' out) :
    out.reply = some (Connection.foreignReply msg) ∧ out.calls = [] ∧
      sv'.manager = sv.manager ∧ sv'.world = sv.world := by
  have hrefused : ∀ conn, sv.connections.lookup c = some conn → conn.Fresh ∧
      conn.handleMessage p o.join msg sv.shared
        = (.reply (Connection.foreignReply msg), conn, sv.shared) := by
    intro conn hc
    have hfresh := h.2 conn hc
    refine ⟨hfresh, ?_⟩
    rw [Connection.handleMessage_of_sessionId p hmsg, hfresh.1,
      Connection.dispatch_foreign p hmsg (by rw [hfresh.2]; exact Finmap.notMem_empty)]
    rfl
  cases hstep with
  | @reply _ _ _ conn conn' resp sh hc hm hs =>
      obtain ⟨-, hm'⟩ := hrefused conn hc
      obtain ⟨rfl, rfl, rfl⟩ :
          Connection.foreignReply msg = resp ∧ conn = conn' ∧ sv.shared = sh := by
        simpa using hm'.symm.trans hm
      exact ⟨rfl, rfl, rfl, rfl⟩
  | @handOff _ _ _ conn conn' resp target sh hc hm hs =>
      obtain ⟨-, hm'⟩ := hrefused conn hc
      cases (Prod.mk.inj (hm'.symm.trans hm)).1
  | @drop _ _ _ conn conn' action sh hc hm hs hk =>
      obtain ⟨hfresh, hm'⟩ := hrefused conn hc
      obtain ⟨rfl, rfl, rfl⟩ : _ = action ∧ conn = conn' ∧ sv.shared = sh := by
        simpa using hm'.symm.trans hm
      simp only [Server.ended, Connection.cleanup_fresh hfresh]
      exact ⟨rfl, rfl, rfl, rfl⟩

namespace Command

theorem request_sessionId {cmd : Command} {s : UInt64} {d : DeviceId}
    (h : cmd.target = some (s, d)) : cmd.call.request.sessionId? = some s := by
  cases cmd with
  | list => cases h
  | info bus addr => cases h
  | attach bus addr => cases h
  | _ =>
      cases h
      rfl

/-- **What a command finds.** When its request is served the gate is open
and nothing has been attached on its connection. -/
theorem serve_steps {key : Option Bytes} {cmd : Command} {env : CommandEnv} {sv : Server W}
    {ran : Ran W} (h : cmd.serve p debug key env sv = some ran) :
    ran.ready.Keeps sv.accepted Connection.Fresh ∧
      Server.StepsTo p ran.ready (.receive sv.accepted cmd.call.request env.request) ran.served
        ran.out := by
  unfold serve at h
  dsimp only at h
  obtain ⟨sv₁, haccept, h⟩ := Option.bind_eq_some_iff.mp h
  obtain ⟨sv₂, hbefore, h⟩ := Option.bind_eq_some_iff.mp h
  obtain ⟨⟨sv₃, helloOut⟩, hhello, h⟩ := Option.bind_eq_some_iff.mp h
  dsimp only at h
  split at h
  · cases h
  · rename_i serverName hconnect
    obtain ⟨ready, helse, h⟩ := Option.bind_eq_some_iff.mp h
    obtain ⟨⟨served, out⟩, hrequest, h⟩ := Option.bind_eq_some_iff.mp h
    obtain rfl := Option.some.inj h
    obtain ⟨resp, hnext, hacc⟩ := Session.connect_accepted hconnect
    have hreply := (Outcome.deliver_ok hnext).2
    have hempty := (Server.Keeps.accept haccept).elsewhere hbefore
    have hfresh := (hempty.hello (Server.step_cases p hhello) hreply hacc).elsewhere helse
    exact ⟨hfresh, Server.step_cases p hrequest⟩

/-- **A command with a session id is refused**, whichever id it is. -/
theorem serve_refused {key : Option Bytes} {cmd : Command} {env : CommandEnv} {sv : Server W}
    {ran : Ran W} {s : UInt64} {d : DeviceId} (h : cmd.serve p debug key env sv = some ran)
    (htarget : cmd.target = some (s, d)) :
    ran.out.reply = some (Connection.foreignReply cmd.call.request) ∧ ran.out.calls = [] ∧
      ran.served.manager = ran.ready.manager ∧ ran.served.world = ran.ready.world := by
  obtain ⟨hfresh, hstep⟩ := serve_steps h
  exact hfresh.refused (request_sessionId htarget) hstep

end Command

/-! ## The quick start -/

/-- Something reached the device, or the request was not refused. -/
def Output.CarriedOut (out : Output) : Prop :=
  out.calls ≠ [] ∨ ∃ reply, out.reply = some reply ∧ ¬ reply.Failed

/-- Steps 4 to 6 of the README's quick start, from any server: `attach`
prints a session id and exits, other clients do what they like, and a
command for that device is given the id. -/
structure QuickStart (p : Platform W) (debug : Message → String) (before : Server W) where
  bus : UInt8
  addr : UInt8
  key : Option Bytes
  env : CommandEnv
  attached : Ran W
  left : Server W
  attach_run : (Command.attach bus addr).run p debug key env before = some (attached, left)
  sessionId : UInt64
  printed : attached.result = .ok (.session sessionId)
  between : List Event
  found : Server W
  meanwhile : Run (Guarded (Server.next p)) left between found
  next : Command
  target : next.target = some (sessionId, ⟨bus, addr⟩)
  nextKey : Option Bytes
  nextEnv : CommandEnv
  ran : Ran W
  next_served : next.serve p debug nextKey nextEnv found = some ran

/-- **The session id is never usable by the next command.** It is refused
as foreign to the connection, nothing is carried out, and the manager and
the devices are as they were. -/
theorem session_id_unusable_by_next_command {before : Server W} (q : QuickStart p debug before) :
    ¬ q.ran.out.CarriedOut ∧
      q.ran.out.reply = some (Connection.foreignReply q.next.call.request) ∧
      q.ran.served.manager = q.ran.ready.manager ∧ q.ran.served.world = q.ran.ready.world := by
  obtain ⟨hreply, hcalls, hmanager, hworld⟩ := Command.serve_refused q.next_served q.target
  refine ⟨?_, hreply, hmanager, hworld⟩
  rintro (hsome | ⟨reply, hreply', hok⟩)
  · exact hsome hcalls
  · obtain rfl := Option.some.inj (hreply.symm.trans hreply')
    exact hok (Connection.foreignReply_failed _)

/-- The README's own session: attach 1:2, then read its descriptor with the
id that was printed. -/
theorem session_id_unusable_by_next_command_readme :
    ∃ q : QuickStart twoDeviceHost (fun _ => "") (.start none false 0),
      q.bus = 1 ∧ q.addr = 2 ∧ q.sessionId = 1 ∧ q.between = [] ∧
      q.next = .control 1 1 2 0x80 0x06 0x0100 0x00 18 [] 5000 ∧
      q.ran.out.reply = some (Connection.transferError 1 ⟨1, 2⟩ "Invalid session") ∧
      ¬ q.ran.out.CarriedOut := by
  let peer : SocketAddr := ⟨"10.0.0.1", 4000⟩
  let nonce : Vector UInt8 32 := Vector.replicate 32 0
  let attachEnv : CommandEnv := { peerAddr := peer, authNonce := nonce, exit := { keys := [1] } }
  let env : CommandEnv := { peerAddr := peer, authNonce := nonce }
  let next : Command := .control 1 1 2 0x80 0x06 0x0100 0x00 18 [] 5000
  have hplay : ((Command.run twoDeviceHost (fun _ => "") none (.attach 1 2) attachEnv
        (.start none false 0)).bind fun r =>
      (next.serve twoDeviceHost (fun _ => "") none env r.2).map fun ran =>
        (r.1.result.toOption, ran.out.reply))
      = some (some (.session 1), some (Connection.transferError 1 ⟨1, 2⟩ "Invalid session")) := by
    decide +kernel
  obtain ⟨⟨attached, left⟩, hattach, hplay⟩ := Option.bind_eq_some_iff.mp hplay
  obtain ⟨ran, hserve, heq⟩ := Option.map_eq_some_iff.mp hplay
  obtain ⟨hprinted, hreply⟩ := Prod.mk.inj heq
  have hprinted : attached.result = .ok (.session 1) := by
    cases hresult : attached.result with
    | error e =>
        rw [hresult] at hprinted
        cases hprinted
    | ok returned =>
        rw [hresult] at hprinted
        rw [Option.some.inj hprinted]
  refine ⟨⟨1, 2, none, attachEnv, attached, left, hattach, 1, hprinted, [], left, .nil left, next,
    rfl, none, env, ran, hserve⟩, rfl, rfl, rfl, rfl, rfl, hreply, ?_⟩
  rintro (hcalls | ⟨reply, hreply', hok⟩)
  · exact hcalls (Command.serve_refused hserve rfl).2.1
  · obtain rfl := Option.some.inj (hreply.symm.trans hreply')
    exact hok rfl

end WolfUsb
