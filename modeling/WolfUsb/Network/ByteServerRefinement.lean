/-
WolfUsb.Network.ByteServerRefinement — the server byte by byte does what
the server message by message does.

A message takes effect when it is decoded: its event of `Server` comes
there, and the reading before it and the writing after it are no event at
all. A connection that leaves its loop hangs up when it comes to its
cleanup. The exception is a hand-off whose reply is not sent: message by
message the connection is gone once the request is handled, byte by byte
it is cleaned up later, which is the same only when it has no session.

* `step_cases` inverts `ByteServer.step`.
* `Abstracts` relates the two servers; `Abstracts.step` is the step lemma.
-/
import WolfUsb.Lib.Finmaps
import WolfUsb.Lib.Runs
import WolfUsb.Network.ByteServer
import WolfUsb.Server.ListenerTheorems

namespace WolfUsb

open WolfUsb.Lib

variable {W : Type} {p : Platform W} {b : Bincode}

/-! ## One step -/

/-- The operations of a connection that handle no message. -/
inductive ServerPc.GoesOn : ServerPc → ServerPc → Prop
  | replied {conn : Connection} {f : Framed} (hf : f.write = []) :
      GoesOn (.replying conn f none) (.serving conn f)
  | offered {conn : Connection} {f : Framed} {target : DeviceId} (hf : f.write = []) :
      GoesOn (.replying conn f (some target)) (.switching f target)
  | handedOff {f : Framed} {target : DeviceId} :
      GoesOn (.switching f target) (.bridging { task := .lookup })
  | bridges {g g' : Bridging} : GoesOn (.bridging g) (.bridging g')

theorem ServerPc.goesOn_of_advance {env : ServerEnv W} {pc pc' : ServerPc}
    (h : pc.advance p b env = some (some (pc', none))) : pc.GoesOn pc' := by
  cases pc with
  | serving conn f =>
      simp only [advance] at h
      split at h
      · cases h
      · cases h
      · split at h <;> cases h
  | replying conn f target =>
      simp only [advance] at h
      split at h
      · rename_i hf
        cases target with
        | none =>
            cases h
            exact .replied hf
        | some target =>
            cases h
            exact .offered hf
      · cases h
  | switching f target =>
      cases h
      exact .handedOff
  | bridging g =>
      obtain ⟨g', -, heq⟩ := Option.map_eq_some_iff.mp h
      cases heq
      exact .bridges

namespace ByteServer

variable (p b) in
inductive StepsTo (w : ByteServer W) : ByteEvent W → ByteServer W → Prop
  | accept (addr : SocketAddr) :
      StepsTo w (.accept addr)
        { w with
          connections := w.connections.insert w.accepted
            (.running (.serving (.new w.socket addr w.sharedKey) ⟨[], []⟩))
          accepted := w.accepted + 1
          record := w.record ++ [.accepted addr] }
  | read {c : Nat} {chunk : Bytes} {pc pc' : ServerPc}
      (hc : w.connections.lookup c = some (.running pc)) (hr : pc.receive b chunk = some pc') :
      StepsTo w (.read c chunk) (w.put c (.running pc') [.read c chunk])
  | write {c n : Nat} {bytes : Bytes} {pc pc' : ServerPc}
      (hc : w.connections.lookup c = some (.running pc)) (hw : pc.write n = some (bytes, pc')) :
      StepsTo w (.write c n) (w.put c (.running pc') [.wrote c bytes])
  | handle {c : Nat} {env : ServerEnv W} {conn conn' : Connection} {f : Framed} {m : Message}
      {rest : Bytes} {action : Action} {sh : Shared W}
      (hc : w.connections.lookup c = some (.running (.serving conn f)))
      (hdec : Codec.decode b f.read = .item m rest)
      (hm : conn.handleMessage p env.join m w.shared = (action, conn', sh)) :
      StepsTo w (.operate c env)
        ((w.after sh).put c (replyWith b conn' rest f.write action)
          (handled c m sh.bus.calls action.message))
  | advance {c : Nat} {env : ServerEnv W} {pc pc' : ServerPc}
      (hc : w.connections.lookup c = some (.running pc))
      (hadv : pc.advance p b { env with shared := w.shared } = some (some (pc', none))) :
      StepsTo w (.operate c env) (w.put c (.running pc') [])
  | refuse {c : Nat} {env : ServerEnv W} {f : Framed} {target : DeviceId}
      (hc : w.connections.lookup c = some (.running (.switching f target))) :
      StepsTo w (.operate c env) (w.drop c)
  | stopReading {e : ByteEvent W} {c : Nat} {conn : Connection} {f : Framed}
      (hc : w.connections.lookup c = some (.running (.serving conn f))) :
      StepsTo w e (w.put c (.closing conn f) [])
  | stopWriting {c : Nat} {conn : Connection} {f : Framed} {target : Option DeviceId}
      (hc : w.connections.lookup c = some (.running (.replying conn f target))) :
      StepsTo w (.fails c) (w.put c (.closing conn f) [])
  | cleanup {c : Nat} {join : Option String} {keys : List UInt64} {conn : Connection} {f : Framed}
      (hc : w.connections.lookup c = some (.closing conn f))
      (hk : keys.Nodup ∧ keys.toFinset = conn.sessions.keys) :
      StepsTo w (.cleanup c join keys)
        { (w.after (conn.cleanup p join keys w.shared).2).drop c with
          record := w.record ++
            (conn.cleanup p join keys w.shared).2.bus.calls.map .called }

theorem operate_cases {w w' : ByteServer W} {c : Nat} {env : ServerEnv W} {pc : ServerPc}
    (hc : w.connections.lookup c = some (.running pc)) (h : w.operate p b c env pc = some w') :
    StepsTo p b w (.operate c env) w' := by
  cases pc with
  | serving conn f =>
      simp only [operate] at h
      split at h
      · cases h
      · cases h
        exact .stopReading hc
      · rename_i m rest hdec
        cases h
        exact .handle hc hdec rfl
  | replying conn f target =>
      simp only [operate, ServerPc.advance] at h
      split at h
      · rename_i hf
        cases target with
        | none =>
            cases h
            exact .advance hc (by simp only [ServerPc.advance, if_pos hf])
        | some target =>
            cases h
            exact .advance hc (by simp only [ServerPc.advance, if_pos hf])
      · cases h
  | switching f target =>
      simp only [operate] at h
      split at h
      · cases h
        exact .refuse hc
      · cases h
        exact .advance hc rfl
  | bridging g =>
      simp only [operate, ServerPc.advance, Option.bind_map] at h
      obtain ⟨g', hop, heq⟩ := Option.bind_eq_some_iff.mp h
      cases heq
      exact .advance hc (by rw [ServerPc.advance, hop]; rfl)

/-- **Inversion of `ByteServer.step`.** -/
theorem step_cases {w w' : ByteServer W} {e : ByteEvent W} (h : w.step p b e = some w') :
    StepsTo p b w e w' := by
  cases e with
  | accept addr =>
      cases h
      exact .accept addr
  | read c chunk =>
      simp only [step] at h
      split at h
      · rename_i pc hc
        obtain ⟨pc', hr, rfl⟩ := Option.map_eq_some_iff.mp h
        exact .read hc hr
      · cases h
  | write c n =>
      simp only [step] at h
      split at h
      · rename_i pc hc
        obtain ⟨⟨bytes, pc'⟩, hw, rfl⟩ := Option.map_eq_some_iff.mp h
        exact .write hc hw
      · cases h
  | operate c env =>
      simp only [step] at h
      split at h
      · rename_i pc hc
        exact operate_cases hc h
      · cases h
  | fails c =>
      simp only [step] at h
      split at h
      · rename_i pc hc
        cases pc with
        | serving conn f =>
            simp only [fail] at h
            split at h
            · cases h
              exact .stopReading hc
            · cases h
        | replying conn f target =>
            cases h
            exact .stopWriting hc
        | _ => cases h
      · cases h
  | cleanup c join keys =>
      simp only [step] at h
      split at h
      · rename_i conn f hc
        split at h
        · rename_i hk
          cases h
          exact .cleanup hc hk
        · cases h
      · cases h

/-! ## The relation -/

/-- A connection byte by byte, and what it is message by message. -/
inductive Stands : Option Loop → Option Connection → Prop
  | absent : Stands none none
  | serving (conn : Connection) (f : Framed) : Stands (some (.running (.serving conn f))) (some conn)
  | replying (conn : Connection) (f : Framed) :
      Stands (some (.running (.replying conn f none))) (some conn)
  | offered (conn : Connection) (f : Framed) (target : DeviceId) :
      Stands (some (.running (.replying conn f (some target)))) none
  | switching (f : Framed) (target : DeviceId) :
      Stands (some (.running (.switching f target))) none
  | bridging (g : Bridging) : Stands (some (.running (.bridging g))) none
  | closing (conn : Connection) (f : Framed) : Stands (some (.closing conn f)) (some conn)
  | cutShort {conn : Connection} {f : Framed} (hnone : conn.sessions.keys = ∅) :
      Stands (some (.closing conn f)) none

/-- The server message by message when the server byte by byte is there. -/
structure Abstracts (w : ByteServer W) (a : Narrated W) : Prop where
  sharedKey : a.server.sharedKey = w.sharedKey
  tls : a.server.tls = w.tls
  manager : a.server.manager = w.manager
  world : a.server.world = w.world
  accepted : a.server.accepted = w.accepted
  stands : ∀ c, Stands (w.connections.lookup c) (a.server.connections.lookup c)
  record : a.record = w.record.filter Entry.isMessage

theorem abstracts_start (sharedKey : Option Bytes) (tls : Bool) (world : W) :
    Abstracts (start sharedKey tls world) (.start sharedKey tls world) where
  sharedKey := rfl
  tls := rfl
  manager := rfl
  world := rfl
  accepted := rfl
  stands c := by
    rw [show (start sharedKey tls world).connections.lookup c = none from Finmap.lookup_empty c,
      show (Narrated.start sharedKey tls world).server.connections.lookup c = none from
        Finmap.lookup_empty c]
    exact .absent
  record := rfl

namespace Stands

variable {o : Option Connection} {pc pc' : ServerPc}

theorem receive {chunk : Bytes} (h : Stands (some (.running pc)) o)
    (hr : pc.receive b chunk = some pc') : Stands (some (.running pc')) o := by
  cases pc with
  | serving conn f =>
      simp only [ServerPc.receive] at hr
      split at hr
      · cases hr
        cases h
        exact .serving conn _
      · cases hr
  | bridging g =>
      simp only [ServerPc.receive] at hr
      cases h
      split at hr
      · split at hr
        · cases hr
          exact .bridging _
        · cases hr
      · cases hr
        exact .bridging _
      · cases hr
  | _ => cases hr

theorem write {n : Nat} {bytes : Bytes} (h : Stands (some (.running pc)) o)
    (hw : pc.write n = some (bytes, pc')) : Stands (some (.running pc')) o := by
  cases pc with
  | replying conn f target =>
      cases hw
      cases h with
      | replying => exact .replying conn _
      | offered => exact .offered conn _ _
  | bridging g =>
      simp only [ServerPc.write] at hw
      cases h
      split at hw
      · cases hw
        exact .bridging _
      · cases hw
  | _ => cases hw

theorem goesOn (h : Stands (some (.running pc)) o) (hp : pc.GoesOn pc') :
    Stands (some (.running pc')) o := by
  cases hp with
  | replied hf =>
      cases h
      exact .serving _ _
  | offered hf =>
      cases h
      exact .switching _ _
  | handedOff =>
      cases h
      exact .bridging _
  | bridges =>
      cases h
      exact .bridging _

end Stands

section Step

variable {w w' : ByteServer W} {a : Narrated W}

/-- A connection moves, and message by message nothing happens. -/
theorem Abstracts.put (h : Abstracts w a) {c : Nat} {loop : Loop} {entries : List Entry}
    (hstands : Stands (some loop) (a.server.connections.lookup c))
    (hentries : entries.filter Entry.isMessage = []) : Abstracts (w.put c loop entries) a where
  sharedKey := h.sharedKey
  tls := h.tls
  manager := h.manager
  world := h.world
  accepted := h.accepted
  stands x := by
    show Stands ((w.connections.insert c loop).lookup x) _
    rw [lookup_insert_eq]
    split
    · rename_i hx
      rw [hx]
      exact hstands
    · exact h.stands x
  record := by
    show _ = (w.record ++ entries).filter Entry.isMessage
    rw [List.filter_append, hentries, List.append_nil]
    exact h.record

/-- Both servers find the same shared state. -/
theorem Abstracts.shared (h : Abstracts w a) : a.server.shared = w.shared := by
  rw [Server.shared, ByteServer.shared, h.manager, h.world]

/-- A task of connection `c` ends on both servers: the shared state it
leaves, and what becomes of `c`. -/
theorem Abstracts.task (h : Abstracts w a) {c : Nat} (sh : Shared W)
    {loops : HashMap Nat Loop} {conns : HashMap Nat Connection} {entries entries' : List Entry}
    (hloops : ∀ x, x ≠ c → loops.lookup x = w.connections.lookup x)
    (hconns : ∀ x, x ≠ c → conns.lookup x = a.server.connections.lookup x)
    (hstands : Stands (loops.lookup c) (conns.lookup c))
    (hentries : entries = entries'.filter Entry.isMessage) :
    Abstracts { w.after sh with connections := loops, record := w.record ++ entries' }
      ⟨a.server.after sh conns, a.record ++ entries⟩ where
  sharedKey := h.sharedKey
  tls := h.tls
  manager := rfl
  world := rfl
  accepted := h.accepted
  stands x := by
    by_cases hx : x = c
    · rw [hx]
      exact hstands
    · show Stands (loops.lookup x) (conns.lookup x)
      rw [hloops x hx, hconns x hx]
      exact h.stands x
  record := by
    show a.record ++ entries = (w.record ++ entries').filter Entry.isMessage
    rw [List.filter_append, h.record, hentries]

theorem Abstracts.accept (h : Abstracts w a) (addr : SocketAddr)
    (hstep : w.step p b (.accept addr) = some w') :
    ∃ a', a.step p (.accept addr) = some a' ∧ Abstracts w' a' := by
  cases hstep
  refine ⟨_, rfl, ?_⟩
  constructor
  · exact h.sharedKey
  · exact h.tls
  · exact h.manager
  · exact h.world
  · exact congrArg (· + 1) h.accepted
  · intro x
    show Stands ((w.connections.insert _ _).lookup x) ((a.server.connections.insert _ _).lookup x)
    have hsocket : a.server.stream = w.socket := by
      rw [Server.stream, socket, h.tls]
    rw [lookup_insert_eq, lookup_insert_eq, h.accepted, hsocket, h.sharedKey]
    split
    · exact .serving _ _
    · exact h.stands x
  · show a.record ++ [Entry.accepted addr] = (w.record ++ [Entry.accepted addr]).filter Entry.isMessage
    rw [List.filter_append, h.record]
    rfl

theorem filter_handled (c : Nat) (m : Message) (calls : List UsbCall) (reply : Message) :
    (handled c m calls reply).filter Entry.isMessage = handled c m calls reply := by
  rw [List.filter_eq_self]
  intro entry hentry
  simp only [handled, List.cons_append, List.mem_cons, List.mem_append, List.mem_map,
    List.not_mem_nil, or_false] at hentry
  obtain rfl | ⟨call, -, rfl⟩ | rfl := hentry <;> rfl

/-- Handling a message is its event, with a reply that is sent. -/
theorem Abstracts.handle (h : Abstracts w a) {c : Nat} {join : Option String}
    {conn conn' : Connection} {f : Framed} {m : Message} (rest : Bytes) {action : Action}
    {sh : Shared W} (hc : w.connections.lookup c = some (.running (.serving conn f)))
    (hm : conn.handleMessage p join m w.shared = (action, conn', sh))
    (hcut : ∀ reply target e, action = .bridge reply target →
      Codec.encode b reply f.write = .error e → conn'.sessions.keys = ∅) :
    ∃ a', a.step p (.receive c m { join }) = some a' ∧
      Abstracts ((w.after sh).put c (replyWith b conn' rest f.write action)
        (handled c m sh.bus.calls action.message)) a' := by
  have hlookup : a.server.connections.lookup c = some conn := by
    have hstands := h.stands c
    rw [hc] at hstands
    generalize a.server.connections.lookup c = o at hstands ⊢
    cases hstands
    rfl
  have hloops : ∀ x, x ≠ c → (w.connections.insert c (replyWith b conn' rest f.write action)).lookup x
      = w.connections.lookup x := fun x hx => Finmap.lookup_insert_of_ne _ hx
  rw [← h.shared] at hm
  cases action with
  | reply resp =>
      refine ⟨⟨a.server.after sh (a.server.connections.insert c conn'),
        a.record ++ handled c m sh.bus.calls resp⟩, ?_, ?_⟩
      · simp only [Narrated.step, Server.step, hlookup, hm, if_true, Option.map_some]
        rfl
      · refine h.task (c := c) sh hloops (fun x hx => Finmap.lookup_insert_of_ne _ hx) ?_
          (filter_handled ..).symm
        rw [Finmap.lookup_insert, Finmap.lookup_insert]
        unfold replyWith
        split
        · exact .closing conn' _
        · exact .replying conn' _
  | bridge resp target =>
      refine ⟨⟨a.server.after sh (a.server.connections.erase c),
        a.record ++ handled c m sh.bus.calls resp⟩, ?_, ?_⟩
      · simp only [Narrated.step, Server.step, hlookup, hm, Bool.and_self, if_true,
          Option.map_some]
        rfl
      · refine h.task (c := c) sh hloops (fun x hx => Finmap.lookup_erase_ne hx) ?_
          (filter_handled ..).symm
        rw [Finmap.lookup_insert, Finmap.lookup_erase]
        unfold replyWith
        split
        · rename_i e henc
          exact .cutShort (hcut resp target e rfl henc)
        · exact .offered conn' _ target

/-- Cleanup is the hang-up of its connection, and nothing at all after a
hand-off that was cut short. -/
theorem Abstracts.cleanup (h : Abstracts w a) {c : Nat} {join : Option String}
    {keys : List UInt64} {conn : Connection} {f : Framed}
    (hc : w.connections.lookup c = some (.closing conn f))
    (hk : keys.Nodup ∧ keys.toFinset = conn.sessions.keys) :
    ∃ ds a', Run (Guarded (Narrated.step p)) a ds a' ∧
      Abstracts { (w.after (conn.cleanup p join keys w.shared).2).drop c with
        record := w.record ++ (conn.cleanup p join keys w.shared).2.bus.calls.map .called } a' := by
  have hstands := h.stands c
  rw [hc] at hstands
  have hloops : ∀ x, x ≠ c → (w.connections.erase c).lookup x = w.connections.lookup x :=
    fun x hx => Finmap.lookup_erase_ne hx
  have hcalled (calls : List UsbCall) :
      calls.map Entry.called = (calls.map Entry.called).filter Entry.isMessage := by
    symm
    rw [List.filter_eq_self]
    simp [Entry.isMessage]
  generalize hlookup : a.server.connections.lookup c = o at hstands
  cases hstands with
  | closing =>
      obtain ⟨⟨conn', sh⟩, hcleanup⟩ : ∃ x, conn.cleanup p join keys w.shared = x := ⟨_, rfl⟩
      rw [hcleanup]
      refine ⟨[.hangup c { cleanupJoin := join, keys }],
        ⟨a.server.after sh (a.server.connections.erase c), a.record ++ sh.bus.calls.map .called⟩,
        Run.single ?_, ?_⟩
      · show a.step p _ = _
        simp only [Narrated.step, Server.step, hlookup, Server.finish, if_pos hk, h.shared,
          hcleanup, Option.map_some]
        rfl
      · refine h.task (c := c) sh hloops (fun x hx => Finmap.lookup_erase_ne hx) ?_ (hcalled _)
        show Stands ((w.connections.erase c).lookup c) ((a.server.connections.erase c).lookup c)
        rw [Finmap.lookup_erase, Finmap.lookup_erase]
        exact .absent
  | cutShort hnone =>
      -- the table is empty, so cleanup does nothing
      refine ⟨[], a, Run.nil a, ?_⟩
      rw [Connection.cleanup, if_pos hnone]
      constructor
      · exact h.sharedKey
      · exact h.tls
      · exact h.manager
      · exact h.world
      · exact h.accepted
      · intro x
        show Stands ((w.connections.erase c).lookup x) _
        rw [lookup_erase_eq]
        split
        · rename_i hx
          rw [hx, hlookup]
          exact .absent
        · exact h.stands x
      · show a.record = (w.record ++ []).filter Entry.isMessage
        rw [List.append_nil]
        exact h.record

/-- **The step lemma.** -/
theorem Abstracts.step {e : ByteEvent W} (h : Abstracts w a) (hcut : w.CutsShortNone p b e)
    (hstep : w.step p b e = some w') :
    ∃ ds a', Run (Guarded (Narrated.step p)) a ds a' ∧ Abstracts w' a' := by
  have hstands (c : Nat) {loop : Loop} (hc : w.connections.lookup c = some loop) :
      Stands (some loop) (a.server.connections.lookup c) := hc ▸ h.stands c
  cases step_cases hstep with
  | accept addr =>
      obtain ⟨a', ha, h'⟩ := h.accept addr hstep
      exact ⟨[.accept addr], a', Run.single ha, h'⟩
  | read hc hr => exact ⟨[], a, Run.nil a, h.put ((hstands _ hc).receive hr) rfl⟩
  | write hc hw => exact ⟨[], a, Run.nil a, h.put ((hstands _ hc).write hw) rfl⟩
  | @handle c env conn conn' f m rest action sh hc hdec hm =>
      obtain ⟨a', ha, h'⟩ := h.handle (b := b) rest hc hm fun reply target e haction henc => by
        subst haction
        refine hcut conn' ?_
        simp only [ByteServer.cutShort, hc, hdec, hm, henc]
      exact ⟨_, a', Run.single ha, h'⟩
  | advance hc hadv =>
      have hp := ServerPc.goesOn_of_advance hadv
      exact ⟨[], a, Run.nil a, h.put ((hstands _ hc).goesOn hp) rfl⟩
  | @refuse c env f target hc =>
      refine ⟨[], a, Run.nil a, { h with stands := fun x => ?_ }⟩
      show Stands ((w.connections.erase c).lookup x) _
      rw [lookup_erase_eq]
      split
      · rename_i hx
        have hgone := hstands _ hc
        rw [hx]
        generalize a.server.connections.lookup c = o at hgone
        cases hgone
        exact .absent
      · exact h.stands x
  | stopReading hc =>
      refine ⟨[], a, Run.nil a, h.put ?_ rfl⟩
      have hlive := hstands _ hc
      generalize a.server.connections.lookup _ = o at hlive ⊢
      cases hlive
      exact .closing _ _
  | stopWriting hc =>
      refine ⟨[], a, Run.nil a, h.put ?_ rfl⟩
      have hlive := hstands _ hc
      generalize a.server.connections.lookup _ = o at hlive ⊢
      cases hlive with
      | replying => exact .closing _ _
      | offered =>
          refine .cutShort (hcut _ ?_)
          simp only [ByteServer.cutShort, hc]
  | cleanup hc hk => exact h.cleanup hc hk

end Step

instance (w : ByteServer W) (e : ByteEvent W) : Decidable (w.CutsShortNone p b e) :=
  match h : w.cutShort p b e with
  | none => isTrue fun conn hconn => by simp [h] at hconn
  | some conn =>
      decidable_of_iff (conn.sessions.keys = ∅)
        ⟨fun hnone conn' hconn => by rw [h] at hconn; cases hconn; exact hnone,
          fun hall => hall conn h⟩

end ByteServer

/-- **The server byte by byte refines the server message by message.** With
any number of connections, whose peers send what they like and whose
sockets take and yield pieces of any size, in any order of steps: there is
a run of the server with one event for each message that has the same
record of messages, USB calls and replies in the same order, and leaves
the same manager, the same devices and the same connections. Where a
hand-off is cut short, its connection may have no session. -/
theorem byte_server_refines_message_server (p : Platform W) (b : Bincode)
    (sharedKey : Option Bytes) (tls : Bool) (world : W) {es : List (ByteEvent W)}
    {w : ByteServer W}
    (hrun : Run (Guarded (ByteServer.step p b)) (.start sharedKey tls world) es w)
    (hcut : StepsAlong (Guarded (ByteServer.step p b)) (ByteServer.CutsShortNone p b)
      (.start sharedKey tls world) es) :
    ∃ ds a, Run (Guarded (Narrated.step p)) (.start sharedKey tls world) ds a ∧ w.Abstracts a :=
  hrun.follow_along (fun _ _ _ _ hR hC hstep => hR.step hC hstep) hcut
    (ByteServer.abstracts_start sharedKey tls world)

/-- What the outside decides on a host with two devices. -/
def twoDeviceEnv : ServerEnv Nat where
  shared := ⟨.new, ⟨0, []⟩⟩
  bridge := { request := none }
  device := ⟨.normal, false, 1⟩
  info := ⟨"1-4", 1, 2, 3, 0x46d, 0xc52b, 0x100, 0, 0, 0, 1, 1, 1⟩

/-- Connection 0 sends a Ping in two pieces and is lost; in between,
connection 1 is handed off. -/
def pingAndBridge : List (ByteEvent Nat) :=
  [.accept ⟨"10.0.0.1", 4000⟩, .accept ⟨"10.0.0.2", 4000⟩, .read 0 [0, 0],
    .read 1 ((Codec.encode .standard (.bridge ⟨⟨1, 2⟩⟩) []).toOption.getD []),
    .operate 1 twoDeviceEnv, .read 0 [0, 1, 24], .write 1 7, .operate 0 twoDeviceEnv,
    .write 1 1000, .operate 1 twoDeviceEnv, .write 0 1000, .operate 1 twoDeviceEnv,
    .operate 0 twoDeviceEnv, .fails 0, .cleanup 0 none []]

theorem byte_server_refines_message_server_two_peers :
    ∃ w ds a, Run (Guarded (ByteServer.step twoDeviceHost .standard)) (.start none false 0)
        pingAndBridge w ∧
      Run (Guarded (Narrated.step twoDeviceHost)) (.start none false 0) ds a ∧ w.Abstracts a ∧
      repliesTo 0 w.record = [.pong] ∧ (repliesTo 1 w.record).length = 1 ∧
      w.connections.lookup 0 = none := by
  have hplay : (play (ByteServer.step twoDeviceHost .standard) (.start none false 0)
      pingAndBridge).map (fun w => (repliesTo 0 w.record, (repliesTo 1 w.record).length,
        (w.connections.lookup 0).isNone)) = some ([.pong], 1, true) := by
    decide +kernel
  obtain ⟨w, hplay, hw⟩ := Option.map_eq_some_iff.mp hplay
  obtain ⟨hping, hbridge, hgone⟩ : repliesTo 0 w.record = [.pong] ∧
      (repliesTo 1 w.record).length = 1 ∧ (w.connections.lookup 0).isNone = true := by
    simpa using hw
  have hrun := play_iff_run.mp hplay
  obtain ⟨ds, a, hds, habs⟩ := byte_server_refines_message_server twoDeviceHost .standard none
    false 0 hrun (by decide +kernel)
  exact ⟨w, ds, a, hrun, hds, habs, hping, hbridge, Option.isNone_iff_eq_none.mp hgone⟩

end WolfUsb
