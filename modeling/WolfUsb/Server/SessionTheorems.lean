/-
WolfUsb.Server.SessionTheorems — session ids: the counter hands each one
out once, a connection's table has only ids that were returned to it, and
a request with any other id is refused and changes nothing.

`Registry.Numbered` is the invariant on the counter, the notes and the
tables. It holds of every run, also when the counter wraps; what needs
fewer than 2^64 Attaches is that the ids it numbers are then distinct.
-/
import WolfUsb.Server.Coherence

namespace WolfUsb

open WolfUsb.Lib

variable {W : Type} (p : Platform W)

/-! ## The counter -/

/-- The `i`-th id the counter hands out. -/
def sessionNumber (i : Nat) : UInt64 := UInt64.ofNat (i + 1)

theorem sessionNumber_inj {i j n : Nat} (hn : n < 2 ^ 64) (hi : i < n) (hj : j < n)
    (h : sessionNumber i = sessionNumber j) : i = j := by
  have h := congrArg UInt64.toNat h
  simp only [sessionNumber, UInt64.toNat_ofNat'] at h
  omega

/-- The ids issued are those of the counter in order, the counter stands at
the next one, and every id in a table was issued to its connection. -/
structure Registry.Numbered (r : Registry) : Prop where
  ids : r.issued.map Prod.snd = (List.range r.issued.length).map sessionNumber
  counter : r.manager.nextSessionId = sessionNumber r.issued.length
  tables : ∀ c t s, r.tables c = some t → s ∈ t → (c, s) ∈ r.issued

namespace Registry.Numbered

theorem empty : Registry.empty.Numbered where
  ids := rfl
  counter := rfl
  tables c t s h := by cases h

variable {r r' : Registry}

theorem nodup (h : r.Numbered) (hfew : r.issued.length < 2 ^ 64) :
    (r.issued.map Prod.snd).Nodup := by
  rw [h.ids]
  refine List.Nodup.map_on (fun i hi j hj heq => ?_) List.nodup_range
  exact sessionNumber_inj hfew (List.mem_range.mp hi) (List.mem_range.mp hj) heq

/-- An id is issued to one connection. -/
theorem owner_unique (h : r.Numbered) (hfew : r.issued.length < 2 ^ 64) {c c' : Nat} {s : UInt64}
    (hc : (c, s) ∈ r.issued) (hc' : (c', s) ∈ r.issued) : c = c' :=
  congrArg Prod.fst (List.inj_on_of_nodup_map (h.nodup hfew) hc hc' rfl)

/-- Operations that issue nothing. -/
theorem frame (h : r.Numbered) (hi : r'.issued = r.issued)
    (hn : r'.manager.nextSessionId = r.manager.nextSessionId)
    (ht : ∀ c t s, r'.tables c = some t → s ∈ t → ∃ t', r.tables c = some t' ∧ s ∈ t') :
    r'.Numbered where
  ids := by rw [hi, h.ids]
  counter := by rw [hn, hi, h.counter]
  tables c t s hc hs := by
    obtain ⟨t', hc', hs'⟩ := ht c t s hc hs
    rw [hi]
    exact h.tables c t' s hc' hs'

/-- A table replaced by one without new ids. -/
theorem shrunk {c₀ : Nat} {u : Option (HashMap UInt64 DeviceId)}
    (hu : ∀ t s, u = some t → s ∈ t → ∃ t', r.tables c₀ = some t' ∧ s ∈ t') :
    ∀ c t s, r.withTable c₀ u c = some t → s ∈ t → ∃ t', r.tables c = some t' ∧ s ∈ t' := by
  intro c t s hc hs
  by_cases hcc : c = c₀
  · subst hcc
    rw [Registry.withTable_self] at hc
    exact hu t s hc hs
  · rw [Registry.withTable_of_ne _ _ _ hcc] at hc
    exact ⟨t, hc, hs⟩

/-- An Attach takes the next id and enters it in its connection's table. -/
theorem attach (h : r.Numbered) {c : Nat} {t : HashMap UInt64 DeviceId} (d : DeviceId)
    (info : AttachmentInfo) (hc : r.tables c = some t) :
    Numbered
      { tables := r.withTable c (some (t.insert r.manager.nextSessionId d))
        manager := r.manager.register d info
        grants := Function.update r.grants d (some ⟨c, r.manager.nextSessionId, info.handle⟩)
        issued := r.issued ++ [(c, r.manager.nextSessionId)] } where
  ids := by
    rw [List.map_append, List.length_append, List.length_singleton, List.range_succ,
      List.map_append, h.ids, h.counter]
    rfl
  counter := by
    show r.manager.nextSessionId + 1 = sessionNumber (r.issued ++ [_]).length
    rw [h.counter, List.length_append, List.length_singleton]
    exact (UInt64.ofNat_add (r.issued.length + 1) 1).symm
  tables x u s hx hs := by
    rw [List.mem_append, List.mem_singleton]
    by_cases hxc : x = c
    · subst hxc
      obtain rfl : t.insert r.manager.nextSessionId d = u := by simpa using hx
      rcases Finmap.mem_insert.mp hs with rfl | hs
      · exact Or.inr rfl
      · exact Or.inl (h.tables x t s hc hs)
    · have hx : r.tables x = some u := by simpa [hxc] using hx
      exact Or.inl (h.tables x u s hx hs)

theorem step {op : RegOp} (hstep : r.Step op r') (h : r.Numbered) : r'.Numbered := by
  cases hstep with
  | accept hc =>
      refine h.frame rfl rfl (shrunk fun t s ht hs => ?_)
      cases ht
      exact absurd hs Finmap.notMem_empty
  | attach hc hd => exact h.attach _ _ hc
  | detach hc hs hd =>
      refine h.frame rfl rfl (shrunk fun t s ht hs => ?_)
      cases ht
      exact ⟨_, hc, (Finmap.mem_erase.mp hs).2⟩
  | refuse hc hs hd =>
      refine h.frame rfl rfl (shrunk fun t s ht hs => ?_)
      cases ht
      exact ⟨_, hc, (Finmap.mem_erase.mp hs).2⟩
  | touch hm =>
      refine h.frame rfl ?_ fun c t s hc hs => ⟨t, hc, hs⟩
      cases hm with
      | same => rfl
      | entry hx hh => rfl
  | close hc => exact h.frame rfl rfl (shrunk fun t s ht => by cases ht)

end Registry.Numbered

/-- Every state of a run is numbered. -/
theorem numbered_reachable (sharedKey : Option Bytes) (tls : Bool) (world : W) {es : List Event}
    {a : Audited W} (hrun : Run (Audited.Steps p) (.start sharedKey tls world) es a) :
    a.Ok ∧ a.registry.Numbered := by
  have hempty := Registry.Numbered.empty
  rw [← Audited.registry_start sharedKey tls world] at hempty
  refine hrun.preserves (I := fun a => a.Ok ∧ a.registry.Numbered) ?_
    ⟨Audited.ok_start sharedKey tls world, hempty⟩
  intro a e a' h hstep
  exact ⟨h.1.step p hstep, registry_step p (I := Registry.Numbered)
    (fun r op r' _ hop hr => hr.step hop) h.1 hstep h.2⟩

/-! ## Requests with a foreign id -/

/-- The session id a request carries. -/
def Message.sessionId? : Message → Option UInt64
  | .detach req => some req.sessionId
  | .controlTransfer req => some req.sessionId
  | .bulkTransfer req => some req.sessionId
  | .interruptTransfer req => some req.sessionId
  | .claimInterface req => some req.sessionId
  | .releaseInterface req => some req.sessionId
  | .setConfiguration req => some req.sessionId
  | _ => none

/-- A result with `success: false`, or an error. -/
def Message.Failed : Message → Prop
  | .detachResult resp => resp.success = false
  | .transferResult resp => resp.success = false
  | .claimInterfaceResult resp => resp.success = false
  | .releaseInterfaceResult resp => resp.success = false
  | .setConfigurationResult resp => resp.success = false
  | .error _ => True
  | _ => False

namespace Connection

/-- The answer to a request whose id is not in the table. -/
def foreignReply : Message → Message
  | .detach req => detachRefused req.deviceId "Session does not belong to this connection"
  | .controlTransfer req => transferError req.sessionId req.deviceId "Invalid session"
  | .bulkTransfer req => transferError req.sessionId req.deviceId "Invalid session"
  | .interruptTransfer req => transferError req.sessionId req.deviceId "Invalid session"
  | .claimInterface _ => .claimInterfaceResult ⟨false, some "Invalid session"⟩
  | .releaseInterface _ => .releaseInterfaceResult ⟨false, some "Invalid session"⟩
  | .setConfiguration _ => .setConfigurationResult ⟨false, some "Invalid session"⟩
  | _ => internalError "Unexpected message type"

theorem foreignReply_failed (msg : Message) : (foreignReply msg).Failed := by
  cases msg <;> trivial

theorem handleTransfer_foreign {join : Option String} {conn : Connection} {s : UInt64}
    (hs : s ∉ conn.sessions) (d : DeviceId)
    (execute : Handle → Bus W → TransferResponse × Bus W) (sh : Shared W) :
    handleTransfer p join conn s d execute sh = (transferError s d "Invalid session", sh) := by
  unfold handleTransfer transferHandle
  rw [if_pos hs]

theorem handleInterface_foreign {join : Option String} {conn : Connection} {s : UInt64}
    (hs : s ∉ conn.sessions)
    (op : DeviceManager → Bus W → Except WolfUsbError Unit × DeviceManager × Bus W)
    (result : Bool → Option String → Message) (sh : Shared W) :
    handleInterface p join conn s op result sh = (result false (some "Invalid session"), sh) := by
  unfold handleInterface
  rw [if_pos hs]

/-- **A request with an id that is not in the table** is refused, and
leaves the connection and all it shares as they are. -/
theorem dispatch_foreign {join : Option String} {conn : Connection} {msg : Message} {s : UInt64}
    (hmsg : msg.sessionId? = some s) (hs : s ∉ conn.sessions) (sh : Shared W) :
    dispatch p join conn msg sh = (.reply (foreignReply msg), conn, sh) := by
  cases msg with
  | detach req =>
      cases hmsg
      simp only [dispatch, handleDetach, if_pos hs, foreignReply]
  | controlTransfer req =>
      cases hmsg
      rw [dispatch, handleControlTransfer, handleTransfer_foreign p hs, foreignReply]
  | bulkTransfer req =>
      cases hmsg
      rw [dispatch, handleBulkTransfer, handleTransfer_foreign p hs, foreignReply]
  | interruptTransfer req =>
      cases hmsg
      rw [dispatch, handleInterruptTransfer, handleTransfer_foreign p hs, foreignReply]
  | claimInterface req =>
      cases hmsg
      rw [dispatch, handleClaimInterface, handleInterface_foreign p hs, foreignReply]
  | releaseInterface req =>
      cases hmsg
      rw [dispatch, handleReleaseInterface, handleInterface_foreign p hs, foreignReply]
  | setConfiguration req =>
      cases hmsg
      rw [dispatch, handleSetConfiguration, handleInterface_foreign p hs, foreignReply]
  | _ => cases hmsg

/-- Such a request comes behind the gate. -/
theorem handleMessage_of_sessionId {join : Option String} {conn : Connection} {msg : Message}
    {s : UInt64} (hmsg : msg.sessionId? = some s) (sh : Shared W) :
    conn.handleMessage p join msg sh =
      if conn.gated then (.reply notAuthenticated, conn, sh) else dispatch p join conn msg sh := by
  cases msg <;> first | rfl | cases hmsg

theorem handleMessage_foreign {join : Option String} {conn : Connection} {msg : Message}
    {s : UInt64} (hmsg : msg.sessionId? = some s) (hs : s ∉ conn.sessions) (sh : Shared W) :
    ∃ reply, reply.Failed ∧ conn.handleMessage p join msg sh = (.reply reply, conn, sh) := by
  rw [handleMessage_of_sessionId p hmsg, dispatch_foreign p hmsg hs]
  by_cases hgate : conn.gated = true
  · exact ⟨notAuthenticated, trivial, if_pos hgate⟩
  · exact ⟨foreignReply msg, foreignReply_failed msg, if_neg hgate⟩

end Connection

/-- A message that is answered and changes nothing leaves the server as it
is. -/
theorem Server.step_of_unchanged {sv : Server W} {c : Nat} {conn : Connection} {msg reply : Message}
    {o : Outcome} (hc : sv.connections.lookup c = some conn) (hsent : o.sent = true)
    (hm : conn.handleMessage p o.join msg sv.shared = (.reply reply, conn, sv.shared)) :
    sv.step p (.receive c msg o) = some (sv, { reply := some reply, calls := [] }) := by
  have hsame : sv.connections.insert c conn = sv.connections := by
    refine Finmap.ext_lookup fun x => ?_
    rw [lookup_insert_eq]
    split
    · rename_i heq
      rw [heq, hc]
    · rfl
  simp only [step, hc, hm, hsent, if_true, after, hsame]
  rfl

/-- **Session ids are unforgeable.** In every run with fewer than 2^64 - 1
successful Attaches the ids they returned are pairwise distinct, an id in a
connection's table was returned to that connection, so two tables share
none, and a request with an id that was not returned to its connection is
refused and leaves the server as it is, its devices included. -/
theorem session_ids_unforgeable (sharedKey : Option Bytes) (tls : Bool) (world : W)
    {es : List Event} {a : Audited W}
    (hrun : Run (Audited.Steps p) (.start sharedKey tls world) es a)
    (hfew : a.audit.issued.length < 2 ^ 64 - 1) :
    (a.audit.issued.map Prod.snd).Nodup ∧
      (∀ c conn s, a.server.connections.lookup c = some conn → s ∈ conn.sessions →
        (c, s) ∈ a.audit.issued) ∧
      (∀ c c' conn conn' s, a.server.connections.lookup c = some conn →
        a.server.connections.lookup c' = some conn' → s ∈ conn.sessions → s ∈ conn'.sessions →
        c = c') ∧
      ∀ c conn msg s o, a.server.connections.lookup c = some conn → msg.sessionId? = some s →
        (c, s) ∉ a.audit.issued →
        ∃ reply : Message, reply.Failed ∧
          conn.handleMessage p o.join msg a.server.shared
            = (.reply reply, conn, a.server.shared) ∧
          (o.sent = true → a.server.step p (.receive c msg o)
            = some (a.server, { reply := some reply, calls := [] })) := by
  obtain ⟨-, hnum⟩ := numbered_reachable p sharedKey tls world hrun
  have hfew : a.registry.issued.length < 2 ^ 64 := by
    show a.audit.issued.length < 2 ^ 64
    omega
  have hown : ∀ c conn s, a.server.connections.lookup c = some conn → s ∈ conn.sessions →
      (c, s) ∈ a.audit.issued :=
    fun c conn s hc hs => hnum.tables c conn.sessions s (Audited.registry_table hc) hs
  refine ⟨hnum.nodup hfew, hown, ?_, ?_⟩
  · intro c c' conn conn' s hc hc' hs hs'
    exact hnum.owner_unique hfew (hown c conn s hc hs) (hown c' conn' s hc' hs')
  · intro c conn msg s o hc hmsg hforeign
    have hs : s ∉ conn.sessions := fun hs => hforeign (hown c conn s hc hs)
    obtain ⟨reply, hfail, hm⟩ := Connection.handleMessage_foreign p hmsg hs a.server.shared
    exact ⟨reply, hfail, hm, fun hsent => Server.step_of_unchanged p hc hsent hm⟩

/-- Two clients with a device each; the second tries the first one's
session on the first one's device. -/
theorem session_ids_unforgeable_two_clients :
    ∃ a, Run (Audited.Steps twoDeviceHost) (.start none false 0)
        [.accept ⟨"10.0.0.1", 4000⟩, .accept ⟨"10.0.0.2", 4000⟩, .receive 0 (.attach ⟨⟨1, 2⟩⟩) {},
          .receive 1 (.attach ⟨⟨1, 3⟩⟩) {}] a ∧
      a.audit.issued = [(0, 1), (1, 2)] ∧ (a.audit.issued.map Prod.snd).Nodup ∧
      ∃ conn reply, a.server.connections.lookup 1 = some conn ∧ Message.Failed reply ∧
        a.server.step twoDeviceHost (.receive 1 (.detach ⟨⟨1, 2⟩, 1⟩) {})
          = some (a.server, { reply := some reply, calls := [] }) := by
  have hplay : (play (Audited.step twoDeviceHost) (.start none false 0)
      [.accept ⟨"10.0.0.1", 4000⟩, .accept ⟨"10.0.0.2", 4000⟩, .receive 0 (.attach ⟨⟨1, 2⟩⟩) {},
        .receive 1 (.attach ⟨⟨1, 3⟩⟩) {}]).map
      (fun a => (a.audit.issued, (a.server.connections.lookup 1).isSome))
      = some ([(0, 1), (1, 2)], true) := by decide +kernel
  obtain ⟨a, ha, heq⟩ := Option.map_eq_some_iff.mp hplay
  obtain ⟨hissued, hsome⟩ := Prod.mk.inj heq
  obtain ⟨conn, hconn⟩ := Option.isSome_iff_exists.mp hsome
  have hrun := play_iff_run.mp ha
  obtain ⟨hnodup, -, -, hforeign⟩ := session_ids_unforgeable twoDeviceHost none false 0 hrun
    (by rw [hissued]; decide)
  obtain ⟨reply, hfail, -, hstep⟩ := hforeign 1 conn (.detach ⟨⟨1, 2⟩, 1⟩) 1 {} hconn rfl
    (by rw [hissued]; decide)
  exact ⟨a, hrun, hissued, hnodup, conn, reply, hconn, hfail, hstep rfl⟩

end WolfUsb
