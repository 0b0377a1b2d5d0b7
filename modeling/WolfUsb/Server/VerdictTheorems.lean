/-
WolfUsb.Server.VerdictTheorems — the verdicts of the handshake and the
flag they leave.

`Heard.step` plays the server and writes down the `auth_accepted` of every
HelloResponse, connection by connection. A connection is authenticated
exactly when one of its verdicts was an acceptance (`Heard.Ok`), with a
key or without one: no later refusal takes the flag back, and the gate asks
for the flag only when there is a key (`refused_hello_not_binding`). With a
key, and until the first acceptance, a refusal binds
(`refused_hello_binding`).
-/
import WolfUsb.Server.AuthTheorems
import WolfUsb.Server.ReplyTheorems

namespace WolfUsb

open WolfUsb.Lib

variable {W : Type} (p : Platform W)

/-! ## Verdicts along a run -/

/-- A server and the verdicts of each connection so far. -/
structure Heard (W : Type) where
  server : Server W
  verdicts : Nat → List Bool

/-- The verdict an event brought, with its connection. -/
def verdictOf : Event → Output → Option (Nat × Bool)
  | .receive c _ _, out => (out.reply.bind Connection.verdict).map fun v => (c, v)
  | _, _ => none

namespace Heard

def start (sharedKey : Option Bytes) (tls : Bool) (world : W) : Heard W where
  server := .start sharedKey tls world
  verdicts _ := []

/-- The verdicts after an event. -/
def note (verdicts : Nat → List Bool) : Option (Nat × Bool) → Nat → List Bool
  | none => verdicts
  | some (c, v) => Function.update verdicts c (verdicts c ++ [v])

def step (h : Heard W) (e : Event) : Option (Heard W) :=
  match h.server.step p e with
  | none => none
  | some (sv, out) => some ⟨sv, note h.verdicts (verdictOf e out)⟩

end Heard

namespace Connection

/-- What a connection with the verdicts `vs` is like: its flag says whether
one of them was an acceptance, and behind the gate its table is empty. -/
structure Agrees (sharedKey : Option Bytes) (vs : List Bool) (conn : Connection) : Prop where
  sharedKey : conn.sharedKey = sharedKey
  flag : conn.authenticated = true ↔ true ∈ vs
  idle : conn.gated = true → conn.sessions = ∅

theorem agrees_new (stream : ServerStream) (addr : SocketAddr) (sharedKey : Option Bytes) :
    Agrees sharedKey [] (.new stream addr sharedKey) where
  sharedKey := rfl
  flag := by simp [new]
  idle _ := rfl

/-- Behind the gate no message changes the table. -/
theorem handleMessage_gated_sessions (join : Option String) (conn : Connection) (msg : Message)
    (sh : Shared W) (hgate : conn.gated = true) :
    (conn.handleMessage p join msg sh).2.1.sessions = conn.sessions := by
  unfold handleMessage
  split
  · exact handleHello_sessions p conn _
  · rfl
  · rw [if_pos hgate]

/-- One message, with the verdict it brings. -/
theorem Agrees.message {sharedKey : Option Bytes} {vs : List Bool} {conn conn' : Connection}
    {join : Option String} {msg : Message} {action : Action} {sh sh' : Shared W}
    (h : Agrees sharedKey vs conn)
    (hm : conn.handleMessage p join msg sh = (action, conn', sh')) :
    Agrees sharedKey (vs ++ (verdict action.message).toList) conn' := by
  obtain ⟨hkey, hauth⟩ := handleMessage_authenticated p join conn msg sh
  have hsessions := handleMessage_gated_sessions p join conn msg sh
  rw [hm] at hkey hauth hsessions
  refine ⟨hkey.trans h.sharedKey, ?_, fun hgate => ?_⟩
  · show conn'.authenticated = true ↔ _
    rw [hauth, Bool.or_eq_true, h.flag, List.mem_append, beq_iff_eq, Option.mem_toList]
  · -- the flag was off before too
    have hgate : conn'.sharedKey.isSome = true ∧ conn'.authenticated = false := by
      simpa [gated] using hgate
    have hoff : conn.authenticated = false := by
      have hor := hauth.symm.trans hgate.2
      exact (Bool.or_eq_false_iff.mp hor).1
    have hbefore : conn.gated = true := by
      rw [hkey] at hgate
      simp [gated, hgate.1, hoff]
    exact (hsessions hbefore).trans (h.idle hbefore)

end Connection

namespace Heard

/-- Connections not yet accepted have no verdicts, and every connection
agrees with its own. -/
structure Ok (h : Heard W) : Prop where
  fresh : ∀ c, h.server.accepted ≤ c → h.server.connections.lookup c = none ∧ h.verdicts c = []
  live : ∀ c conn, h.server.connections.lookup c = some conn →
    conn.Agrees h.server.sharedKey (h.verdicts c)

theorem ok_start (sharedKey : Option Bytes) (tls : Bool) (world : W) :
    (start sharedKey tls world).Ok where
  fresh c _ := ⟨Finmap.lookup_empty c, rfl⟩
  live c _ h := nomatch (Finmap.lookup_empty c).symm.trans h

/-- The end of a connection, with a last verdict or without one. -/
theorem Ok.close {h : Heard W} (hok : h.Ok) {c : Nat} {conn : Connection}
    (hc : h.server.connections.lookup c = some conn) {sv : Server W} {v : Option (Nat × Bool)}
    (hv : ∀ x ∈ v, x.1 = c) (hkey : sv.sharedKey = h.server.sharedKey)
    (hacc : sv.accepted = h.server.accepted)
    (hconns : sv.connections = h.server.connections.erase c) :
    Ok ⟨sv, note h.verdicts v⟩ := by
  -- the verdicts of the other connections are as they were
  have hother : ∀ x, x ≠ c → note h.verdicts v x = h.verdicts x := by
    intro x hx
    cases v with
    | none => rfl
    | some y =>
        obtain rfl := hv y rfl
        exact Function.update_of_ne hx ..
  refine ⟨fun x hx => ?_, fun x conn' hx => ?_⟩
  · obtain ⟨hnone, hempty⟩ := hok.fresh x (hacc ▸ hx)
    have hxc : x ≠ c := by
      rintro rfl
      rw [hc] at hnone
      cases hnone
    exact ⟨by rw [hconns, lookup_erase_eq, if_neg hxc]; exact hnone, (hother x hxc).trans hempty⟩
  · rw [hconns, lookup_erase_eq] at hx
    split at hx
    · cases hx
    · rename_i hxc
      show conn'.Agrees sv.sharedKey (note h.verdicts v x)
      rw [hkey, hother x hxc]
      exact hok.live x conn' hx

theorem note_verdict (verdicts : Nat → List Bool) (c : Nat) (v : Option Bool) :
    note verdicts (v.map fun v => (c, v)) = Function.update verdicts c (verdicts c ++ v.toList) := by
  cases v with
  | none =>
      show verdicts = _
      rw [Option.toList_none, List.append_nil, Function.update_eq_self]
  | some v => rfl

theorem Ok.step {h h' : Heard W} {e : Event} (hok : h.Ok) (hstep : h.step p e = some h') :
    h'.Ok := by
  unfold Heard.step at hstep
  split at hstep
  · cases hstep
  · rename_i sv out hserver
    obtain rfl := Option.some.inj hstep
    cases Server.step_cases p hserver with
    | accept addr =>
        refine ⟨fun x hx => ?_, fun x conn hx => ?_⟩
        · have hx : h.server.accepted + 1 ≤ x := hx
          obtain ⟨hnone, hempty⟩ := hok.fresh x (Nat.le_of_succ_le hx)
          refine ⟨?_, hempty⟩
          show (h.server.connections.insert _ _).lookup x = none
          rw [lookup_insert_eq, if_neg (by omega)]
          exact hnone
        · have hlook : (h.server.connections.insert h.server.accepted
            (.new h.server.stream addr h.server.sharedKey)).lookup x = some conn := hx
          rw [lookup_insert_eq] at hlook
          split at hlook
          · rename_i heq
            obtain rfl := Option.some.inj hlook
            show Connection.Agrees _ (h.verdicts x) _
            rw [(hok.fresh x (Nat.le_of_eq heq.symm)).2]
            exact Connection.agrees_new ..
          · exact hok.live x conn hlook
    | @reply c msg o conn conn' resp sh hc hm hs =>
        have hnote : note h.verdicts (verdictOf (.receive c msg o)
            { reply := some resp, calls := sh.bus.calls })
            = Function.update h.verdicts c (h.verdicts c ++ (Connection.verdict resp).toList) :=
          note_verdict h.verdicts c (Connection.verdict resp)
        rw [hnote]
        refine ⟨fun x hx => ?_, fun x conn₁ hx => ?_⟩
        · obtain ⟨hnone, hempty⟩ := hok.fresh x hx
          have hxc : x ≠ c := by
            rintro rfl
            rw [hc] at hnone
            cases hnone
          refine ⟨?_, (Function.update_of_ne hxc ..).trans hempty⟩
          show (h.server.connections.insert c conn').lookup x = none
          rw [lookup_insert_eq, if_neg hxc]
          exact hnone
        · have hlook : (h.server.connections.insert c conn').lookup x = some conn₁ := hx
          rw [lookup_insert_eq] at hlook
          split at hlook
          · rename_i heq
            subst heq
            obtain rfl := Option.some.inj hlook
            show conn'.Agrees h.server.sharedKey (Function.update h.verdicts x _ x)
            rw [Function.update_self]
            exact (hok.live x conn hc).message p hm
          · rename_i hxc
            show conn₁.Agrees h.server.sharedKey (Function.update h.verdicts c _ x)
            rw [Function.update_of_ne hxc]
            exact hok.live x conn₁ hlook
    | @handOff c msg o conn conn' resp target sh hc hm hs =>
        refine hok.close hc (fun x hx => ?_) rfl rfl rfl
        obtain ⟨v, -, rfl⟩ := Option.map_eq_some_iff.mp hx
        rfl
    | @drop c msg o conn conn' action sh hc hm hs hk =>
        refine hok.close hc (fun x hx => ?_) rfl rfl rfl
        obtain ⟨v, -, rfl⟩ := Option.map_eq_some_iff.mp hx
        rfl
    | @hangup c o conn hc hk => exact hok.close hc (fun x hx => by cases hx) rfl rfl rfl

theorem ok_reachable (sharedKey : Option Bytes) (tls : Bool) (world : W) {es : List Event}
    {h : Heard W} (hrun : Run (Guarded (Heard.step p)) (.start sharedKey tls world) es h) : h.Ok :=
  hrun.preserves (fun _ _ _ hok hstep => hok.step p hstep) (ok_start sharedKey tls world)

theorem sharedKey_reachable (sharedKey : Option Bytes) (tls : Bool) (world : W) {es : List Event}
    {h : Heard W} (hrun : Run (Guarded (Heard.step p)) (.start sharedKey tls world) es h) :
    h.server.sharedKey = sharedKey := by
  refine hrun.preserves (I := fun h : Heard W => h.server.sharedKey = sharedKey) ?_ rfl
  intro h e h' hkey hstep
  have hstep : h.step p e = some h' := hstep
  unfold Heard.step at hstep
  split at hstep
  · cases hstep
  · rename_i sv out hserver
    obtain rfl := Option.some.inj hstep
    cases Server.step_cases p hserver <;> exact hkey

end Heard

/-! ## Refusals -/

/-- A list in which nothing false follows a true entry has its last entry
true exactly when it has a true one. -/
theorem getLast_true_iff {vs : List Bool} (h : vs.Pairwise fun v w => v = true → w = true) :
    vs.getLast? = some true ↔ true ∈ vs := by
  constructor
  · exact List.mem_of_getLast?
  · intro hmem
    induction vs with
    | nil => cases hmem
    | cons v rest ih =>
        rw [List.pairwise_cons] at h
        cases rest with
        | nil =>
            obtain rfl := List.mem_singleton.mp hmem
            rfl
        | cons w rest =>
            rw [List.getLast?_cons_cons]
            refine ih h.2 ?_
            rcases List.mem_cons.mp hmem with rfl | hrest
            · have hw := h.1 w List.mem_cons_self rfl
              rw [hw]
              exact List.mem_cons_self
            · exact hrest

/-- A connection that has heard no acceptance is locked. -/
theorem Connection.Agrees.locked {key : Bytes} {vs : List Bool} {conn : Connection}
    (h : conn.Agrees (some key) vs) (hno : true ∉ vs) : conn.Locked key := by
  have hoff : conn.authenticated = false := by
    rw [← Bool.not_eq_true, h.flag]
    exact hno
  exact ⟨h.sharedKey, hoff, h.idle (by simp [Connection.gated, h.sharedKey, hoff])⟩

/-- A Hello of another protocol version. -/
def oldHello : HelloRequest := ⟨protocolVersion + 1, "old", .replicate 32 0, []⟩

/-- A Hello with the given proof. -/
def helloWith (authProof : Bytes) : HelloRequest := ⟨protocolVersion, "c", .replicate 32 0, authProof⟩

/-- Without a key the verdict on a Hello of another version is a refusal,
and an Attach after it is carried out; with a key, so is an Attach after
an acceptance and a refusal. -/
theorem refused_hello_not_binding :
    (∃ h sv out, Run (Guarded (Heard.step twoDeviceHost)) (.start none false 0)
        [.accept ⟨"10.0.0.1", 4000⟩, .receive 0 (.hello oldHello) {}] h ∧ h.verdicts 0 = [false] ∧
      h.server.step twoDeviceHost (.receive 0 (.attach ⟨⟨1, 2⟩⟩) {}) = some (sv, out) ∧
      out.reply = some (.attachResult ⟨⟨1, 2⟩, true, none, some 1⟩)) ∧
    ∃ h sv out, Run (Guarded (Heard.step twoDeviceHost)) (.start (some [7]) false 0)
        [.accept ⟨"10.0.0.1", 4000⟩, .receive 0 (.hello (helloWith [])) {},
          .receive 0 (.hello (helloWith [1])) {}] h ∧ h.verdicts 0 = [true, false] ∧
      h.server.step twoDeviceHost (.receive 0 (.attach ⟨⟨1, 2⟩⟩) {}) = some (sv, out) ∧
      out.reply = some (.attachResult ⟨⟨1, 2⟩, true, none, some 1⟩) := by
  have hplay : ∀ {key : Option Bytes} {es : List Event} {vs : List Bool},
      (play (Heard.step twoDeviceHost) (.start key false 0) es).map (fun h => (h.verdicts 0,
        (h.server.step twoDeviceHost (.receive 0 (.attach ⟨⟨1, 2⟩⟩) {})).map fun r => r.2.reply))
        = some (vs, some (some (.attachResult ⟨⟨1, 2⟩, true, none, some 1⟩))) →
      ∃ h sv out, Run (Guarded (Heard.step twoDeviceHost)) (.start key false 0) es h ∧
        h.verdicts 0 = vs ∧
        h.server.step twoDeviceHost (.receive 0 (.attach ⟨⟨1, 2⟩⟩) {}) = some (sv, out) ∧
        out.reply = some (.attachResult ⟨⟨1, 2⟩, true, none, some 1⟩) := by
    intro key es vs hplay
    obtain ⟨h, hrun, heq⟩ := Option.map_eq_some_iff.mp hplay
    obtain ⟨hvs, hreply⟩ := Prod.mk.inj heq
    obtain ⟨⟨sv, out⟩, hstep, hout⟩ := Option.map_eq_some_iff.mp hreply
    exact ⟨h, sv, out, play_iff_run.mp hrun, hvs, hstep, hout⟩
  exact ⟨hplay (by decide +kernel), hplay (by decide +kernel)⟩

/-- **A refusal binds until the first acceptance.** With a key, a
connection whose Hellos have been refused so far is answered
"Not authenticated" on everything but Hello and Ping, and that changes
neither the manager nor a device. With a key or without one, the flag
agrees with the last verdict wherever no refusal came after an acceptance. -/
theorem refused_hello_binding (sharedKey : Option Bytes) (tls : Bool) (world : W)
    {es : List Event} {h : Heard W}
    (hrun : Run (Guarded (Heard.step p)) (.start sharedKey tls world) es h)
    {c : Nat} {conn : Connection} (hc : h.server.connections.lookup c = some conn) :
    ((h.verdicts c).Pairwise (fun v w => v = true → w = true) →
      (conn.authenticated = true ↔ (h.verdicts c).getLast? = some true)) ∧
    (sharedKey.isSome = true → (h.verdicts c).getLast? = some false → true ∉ h.verdicts c →
      ∀ msg o, (∀ req, msg ≠ .hello req) → msg ≠ .ping → ∀ sv out,
        h.server.step p (.receive c msg o) = some (sv, out) →
        out.reply = some Connection.notAuthenticated ∧ sv.manager = h.server.manager ∧
          sv.world = h.server.world ∧ out.calls = [] ∧ out.bridge = none) := by
  have hok := Heard.ok_reachable p sharedKey tls world hrun
  have hkey := Heard.sharedKey_reachable p sharedKey tls world hrun
  have hagree := hok.live c conn hc
  rw [hkey] at hagree
  refine ⟨fun hpair => hagree.flag.trans (getLast_true_iff hpair).symm, ?_⟩
  intro hsome _ hno msg o hhello hping sv out hstep
  obtain ⟨key, rfl⟩ := Option.isSome_iff_exists.mp hsome
  have hlocked := hagree.locked hno
  have hgated : h.server.Gated c key := by
    refine ⟨hkey, fun conn' hc' => ?_⟩
    obtain rfl := Option.some.inj (hc.symm.trans hc')
    exact hlocked
  have hinvalid : ¬ Connection.ValidHello p key msg := by
    rintro ⟨req, hreq, -⟩
    cases msg with
    | hello req' => exact hhello req' rfl
    | _ => cases hreq
  have hreply : Connection.gateReply msg = Connection.notAuthenticated := by
    cases msg with
    | hello req => exact absurd rfl (hhello req)
    | ping => exact absurd rfl hping
    | _ => rfl
  rw [← hreply]
  exact hgated.receive p hinvalid (Server.step_cases p hstep)

/-- A client with the wrong proof asks for a device. -/
theorem refused_hello_binding_wrong_proof :
    ∃ h sv out, Run (Guarded (Heard.step twoDeviceHost)) (.start (some [7]) false 0)
        [.accept ⟨"10.0.0.1", 4000⟩, .receive 0 (.hello (helloWith [1])) {}] h ∧
      h.server.step twoDeviceHost (.receive 0 (.attach ⟨⟨1, 2⟩⟩) {}) = some (sv, out) ∧
      out.reply = some Connection.notAuthenticated ∧ out.calls = [] := by
  have hplay : (play (Heard.step twoDeviceHost) (.start (some [7]) false 0)
      [.accept ⟨"10.0.0.1", 4000⟩, .receive 0 (.hello (helloWith [1])) {}]).map
      (fun h => (h.verdicts 0, (h.server.connections.lookup 0).isSome,
        (h.server.step twoDeviceHost (.receive 0 (.attach ⟨⟨1, 2⟩⟩) {})).isSome))
      = some ([false], true, true) := by decide +kernel
  obtain ⟨h, hh, heq⟩ := Option.map_eq_some_iff.mp hplay
  obtain ⟨hvs, heq⟩ := Prod.mk.inj heq
  obtain ⟨hconn, hstep⟩ := Prod.mk.inj heq
  obtain ⟨conn, hc⟩ := Option.isSome_iff_exists.mp hconn
  obtain ⟨⟨sv, out⟩, hstep⟩ := Option.isSome_iff_exists.mp hstep
  have hrun := play_iff_run.mp hh
  obtain ⟨hreply, -, -, hcalls, -⟩ :=
    (refused_hello_binding twoDeviceHost (some [7]) false 0 hrun hc).2 rfl
    (by rw [hvs]; rfl) (by rw [hvs]; decide) (.attach ⟨⟨1, 2⟩⟩) {} nofun nofun sv out hstep
  exact ⟨h, sv, out, hrun, hstep, hreply, hcalls⟩

end WolfUsb
