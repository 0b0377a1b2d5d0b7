/-
WolfUsb.Network.ByteServerGate — what bytes without a proof can do to a
server that has a key.

A connection is unproven as long as nothing it has sent decodes to a Hello
with a valid proof. It is locked then: it is answered by the gate alone,
whatever the server has and whatever the other connections do. And where
all connections are unproven, nothing of the server moves.

`Gate` is the invariant. A message is heard only if the bytes read so far
decode to it (`Ledger.Sound`), so the bytes decide.
-/
import WolfUsb.Network.ByteServerBooks
import WolfUsb.Server.AuthTheorems

namespace WolfUsb

open WolfUsb.Lib

variable {W : Type} {p : Platform W} {b : Bincode} {key : Bytes}

variable (p b key) in
/-- None of the messages that the bytes read on `c` decode to is a Hello
with the server's version and a valid proof. -/
def Unproven (c : Nat) (record : List Entry) : Prop :=
  ∀ m ∈ ((Codec.decoder b).drain (bytesIn c record)).1, ¬ Connection.ValidHello p key m

/-- More bytes do not take a proof back. -/
theorem Unproven.of_append {c : Nat} {record entries : List Entry}
    (h : Unproven p b key c (record ++ entries)) : Unproven p b key c record := by
  intro m hm
  refine h m ?_
  have hbytes : bytesIn c (record ++ entries) = bytesIn c record ++ bytesIn c entries :=
    List.flatMap_append
  rw [hbytes]
  exact ((Codec.decoder b).drain_mono _ _).subset hm

/-- The connection is served or closing, and locked. -/
def Loop.Locked (key : Bytes) (loop : Loop) : Prop :=
  ∃ conn : Connection, conn.Locked key ∧ ByteServer.Stands (some loop) (some conn)

namespace ByteServer

variable {world : W} {w w' : ByteServer W}

variable (p b key) in
structure Gate (world : W) (w : ByteServer W) : Prop where
  kept : w.Kept b
  sharedKey : w.sharedKey = some key
  refused : ∀ c, Unproven p b key c w.record →
    repliesTo c w.record = (heardFrom c w.record).map Connection.gateReply
  locked : ∀ c loop, Unproven p b key c w.record → w.connections.lookup c = some loop →
    loop.Locked key
  untouched : (∀ c, Unproven p b key c w.record) →
    w.manager = .new ∧ w.world = world ∧ ∀ call, .called call ∉ w.record

theorem gate_start (key : Bytes) (tls : Bool) (world : W) :
    (start (some key) tls world).Gate p b key world where
  kept := kept_start (some key) tls world
  sharedKey := rfl
  refused c _ := rfl
  locked c loop _ h := by
    rw [show (start (some key) tls world).connections.lookup c = none from
      Finmap.lookup_empty c] at h
    cases h
  untouched _ := ⟨rfl, rfl, fun _ h => by cases h⟩

/-- A step of connection `c`, with the entries it makes: what there is to
show of it. -/
theorem Gate.next (h : w.Gate p b key world) (c : Nat) (entries : List Entry) (l : Ledger)
    (hkept : w'.Kept b) (hkey : w'.sharedKey = w.sharedKey)
    (hrecord : w'.record = w.record ++ entries)
    (hentries : ∀ x, ledger x entries = if c = x then l else {})
    (hother : ∀ x, x ≠ c → w'.connections.lookup x = w.connections.lookup x ∨
      w'.connections.lookup x = none)
    (hown : Unproven p b key c w'.record → l.replies = l.heard.map Connection.gateReply ∧
      ∀ loop, w'.connections.lookup c = some loop → loop.Locked key)
    (huntouched : Unproven p b key c w'.record →
      w'.manager = w.manager ∧ w'.world = w.world ∧ ∀ call, .called call ∉ entries) :
    w'.Gate p b key world := by
  have hbefore (x : Nat) (hx : Unproven p b key x w'.record) : Unproven p b key x w.record :=
    (hrecord ▸ hx).of_append
  have hledger (x : Nat) : ledger x w'.record =
      (ledger x w.record).add (if c = x then l else {}) := by
    rw [hrecord, ledger_append, hentries]
  constructor
  · exact hkept
  · exact hkey.trans h.sharedKey
  · intro x hx
    have hreplies : (ledger x w.record).replies
        = (ledger x w.record).heard.map Connection.gateReply := h.refused x (hbefore x hx)
    show (ledger x w'.record).replies = (ledger x w'.record).heard.map Connection.gateReply
    rw [hledger]
    by_cases hc : c = x
    · subst hc
      rw [if_pos rfl]
      simp only [Ledger.add, List.map_append, hreplies, (hown hx).1]
    · rw [if_neg hc, Ledger.add_empty]
      exact hreplies
  · intro x loop hx hloop
    by_cases hc : x = c
    · subst hc
      exact (hown hx).2 loop hloop
    · rcases hother x hc with hsame | hnone
      · exact h.locked x loop (hbefore x hx) (hsame ▸ hloop)
      · rw [hnone] at hloop
        cases hloop
  · intro hall
    obtain ⟨hmanager, hworld, hcalls⟩ := h.untouched fun x => hbefore x (hall x)
    obtain ⟨hmanager', hworld', hcalls'⟩ := huntouched (hall c)
    refine ⟨hmanager'.trans hmanager, hworld'.trans hworld, fun call hcall => ?_⟩
    rw [hrecord] at hcall
    rcases List.mem_append.mp hcall with hold | hnew
    · exact hcalls call hold
    · exact hcalls' call hnew

/-- A connection moves, and no message is handled. -/
theorem Gate.move (h : w.Gate p b key world) {c : Nat} {loop loop' : Loop}
    {entries : List Entry} {l : Ledger} (hc : w.connections.lookup c = some loop)
    (hkept : (w.put c loop' entries).Kept b)
    (hentries : ∀ x, ledger x entries = if c = x then l else {})
    (hnone : l.heard = [] ∧ l.replies = [] ∧ ∀ call, .called call ∉ entries)
    (hstands : ∀ conn, Stands (some loop) (some conn) → Stands (some loop') (some conn)) :
    (w.put c loop' entries).Gate p b key world := by
  obtain ⟨hheard, hreplies, hcalls⟩ := hnone
  have hlookup (x : Nat) : (w.put c loop' entries).connections.lookup x =
      if x = c then some loop' else w.connections.lookup x := lookup_insert_eq ..
  refine h.next c entries l hkept rfl rfl hentries ?_ ?_ ?_
  · intro x hx
    rw [hlookup, if_neg hx]
    exact Or.inl rfl
  · intro hunproven
    refine ⟨by rw [hheard, hreplies]; rfl, fun loop'' hloop => ?_⟩
    rw [hlookup, if_pos rfl] at hloop
    obtain rfl := Option.some.inj hloop
    obtain ⟨conn, hlocked, hold⟩ := h.locked c loop (Unproven.of_append hunproven) hc
    exact ⟨conn, hlocked, hstands conn hold⟩
  · intro _
    exact ⟨rfl, rfl, hcalls⟩

theorem Gate.accept (h : w.Gate p b key world) (addr : SocketAddr)
    (hstep : w.step p b (.accept addr) = some w') : w'.Gate p b key world := by
  have hkept := h.kept.step hstep
  cases hstep
  have hlookup (x : Nat) : (w.connections.insert w.accepted
      (.running (.serving (.new w.socket addr w.sharedKey) ⟨[], []⟩))).lookup x =
        if x = w.accepted then _ else w.connections.lookup x := lookup_insert_eq ..
  refine h.next w.accepted [.accepted addr] {} hkept rfl rfl
    (fun x => (ite_self _).symm) ?_ ?_ fun _ => ⟨rfl, rfl, by simp⟩
  · intro x hx
    exact Or.inl ((hlookup x).trans (if_neg hx))
  · intro _
    refine ⟨rfl, fun loop hloop => ?_⟩
    have hnew := ((hlookup w.accepted).symm.trans hloop)
    rw [if_pos rfl, h.sharedKey] at hnew
    obtain rfl := Option.some.inj hnew
    exact ⟨_, Connection.locked_new key w.socket addr, .serving _ _⟩

/-- A message is handled, by the gate if its connection is unproven: it is
one of those that the bytes decode to. -/
theorem Gate.handle (h : w.Gate p b key world) {c : Nat} {join : Option String}
    {conn conn' : Connection} {f : Framed} {m : Message} {rest : Bytes} {action : Action}
    {sh : Shared W} (hc : w.connections.lookup c = some (.running (.serving conn f)))
    (hdec : Codec.decode b f.read = .item m rest)
    (hm : conn.handleMessage p join m w.shared = (action, conn', sh)) :
    ((w.after sh).put c (replyWith b conn' rest f.write action)
      (handled c m sh.bus.calls action.message)).Gate p b key world := by
  have hkept := h.kept.handle hc hdec hm
  have hgate : Unproven p b key c (w.record ++ handled c m sh.bus.calls action.message) →
      conn.Locked key ∧ action = .reply (Connection.gateReply m) ∧ conn' = conn ∧
        sh = w.shared := by
    intro hunproven
    obtain ⟨conn₀, hlocked, hstands⟩ := h.locked c _ hunproven.of_append hc
    cases hstands
    have hheard : m ∈ (ledger c (w.record ++ handled c m sh.bus.calls action.message)).heard := by
      rw [ledger_append, ledger_handled, if_pos rfl]
      exact List.mem_append_right _ List.mem_cons_self
    have hinvalid := hunproven m ((hkept.sound c).heard.subset hheard)
    rw [hlocked.handleMessage p hinvalid] at hm
    cases hm
    exact ⟨hlocked, rfl, rfl, rfl⟩
  have hlookup (x : Nat) : (w.connections.insert c (replyWith b conn' rest f.write action)).lookup x
      = if x = c then some (replyWith b conn' rest f.write action) else w.connections.lookup x :=
    lookup_insert_eq ..
  refine h.next c _ _ hkept rfl rfl (fun x => ledger_handled x c m _ _) ?_ ?_ ?_
  · intro x hx
    exact Or.inl ((hlookup x).trans (if_neg hx))
  · intro hunproven
    obtain ⟨hlocked, rfl, rfl, -⟩ := hgate hunproven
    refine ⟨rfl, fun loop hloop => ?_⟩
    have hnew := (hlookup c).symm.trans hloop
    rw [if_pos rfl] at hnew
    obtain rfl := Option.some.inj hnew
    refine ⟨conn', hlocked, ?_⟩
    unfold replyWith
    split
    · exact .closing conn' _
    · exact .replying conn' _
  · intro hunproven
    obtain ⟨-, rfl, -, rfl⟩ := hgate hunproven
    refine ⟨rfl, rfl, fun call hcall => ?_⟩
    simp [handled, ByteServer.shared] at hcall

theorem Gate.cleanup (h : w.Gate p b key world) {c : Nat} {join : Option String}
    {keys : List UInt64} (hstep : w.step p b (.cleanup c join keys) = some w')
    {conn : Connection} {f : Framed} (hc : w.connections.lookup c = some (.closing conn f))
    (hw' : w' = { (w.after (conn.cleanup p join keys w.shared).2).drop c with
      record := w.record ++ (conn.cleanup p join keys w.shared).2.bus.calls.map .called }) :
    w'.Gate p b key world := by
  have hkept := h.kept.step hstep
  subst hw'
  refine h.next c _ {} hkept rfl rfl ?_ ?_ ?_ ?_
  · intro x
    rw [ledger_called, ite_self]
  · intro x hx
    exact Or.inl (Finmap.lookup_erase_ne hx)
  · intro _
    refine ⟨rfl, fun loop hloop => ?_⟩
    have hgone : (w.connections.erase c).lookup c = some loop := hloop
    rw [Finmap.lookup_erase] at hgone
    cases hgone
  · intro hunproven
    obtain ⟨conn', hlocked, hstands⟩ := h.locked c _ hunproven.of_append hc
    cases hstands
    have hcleanup : conn.cleanup p join keys w.shared = (conn, w.shared) := by
      rw [Connection.cleanup, hlocked.sessions, if_pos Finmap.keys_empty]
    rw [hcleanup]
    exact ⟨rfl, rfl, fun call hcall => by cases hcall⟩

/-- **The step lemma.** -/
theorem Gate.step {e : ByteEvent W} (h : w.Gate p b key world)
    (hstep : w.step p b e = some w') : w'.Gate p b key world := by
  have hkept := h.kept.step hstep
  cases step_cases hstep with
  | accept addr => exact h.accept addr hstep
  | read hc hr =>
      exact h.move hc hkept (fun x => ledger_read x _ _) ⟨rfl, rfl, by simp⟩
        fun conn hstands => hstands.receive hr
  | write hc hw =>
      exact h.move hc hkept (fun x => ledger_wrote x _ _) ⟨rfl, rfl, by simp⟩
        fun conn hstands => hstands.write hw
  | handle hc hdec hm => exact h.handle hc hdec hm
  | advance hc hadv =>
      exact h.move (l := {}) hc hkept (fun x => (ite_self _).symm) ⟨rfl, rfl, by simp⟩
        fun conn hstands => hstands.goesOn (ServerPc.goesOn_of_advance hadv)
  | @refuse c env f target hc =>
      refine h.next c [] {} hkept rfl (List.append_nil _).symm
        (fun x => (ite_self _).symm) ?_ ?_ fun _ => ⟨rfl, rfl, by simp⟩
      · intro x hx
        exact Or.inl (Finmap.lookup_erase_ne hx)
      · intro _
        refine ⟨rfl, fun loop hloop => ?_⟩
        have hgone : (w.connections.erase c).lookup c = some loop := hloop
        rw [Finmap.lookup_erase] at hgone
        cases hgone
  | stopReading hc =>
      refine h.move (l := {}) hc hkept (fun x => (ite_self _).symm) ⟨rfl, rfl, by simp⟩ ?_
      intro conn hstands
      cases hstands
      exact .closing _ _
  | stopWriting hc =>
      refine h.move (l := {}) hc hkept (fun x => (ite_self _).symm) ⟨rfl, rfl, by simp⟩ ?_
      intro conn hstands
      cases hstands
      exact .closing _ _
  | cleanup hc hk => exact h.cleanup hstep hc rfl

end ByteServer

/-- **Bytes without a proof open nothing.** In every state of every run of
a server with a key, for any number of connections and any bytes in any
pieces and order: a connection none of whose bytes so far decode to a
Hello with a valid proof has been answered by the gate alone and has not
been handed off, whatever the other connections have done; and when there
are only such connections, no USB call has been made, no device has
changed, and the manager is as it was at the start. -/
theorem bytes_without_proof_open_nothing (p : Platform W) (b : Bincode) (key : Bytes) (tls : Bool)
    (world : W) (es : List (ByteEvent W)) :
    StatesAlong (Guarded (ByteServer.step p b))
      (fun w =>
        (∀ c, Unproven p b key c w.record →
          repliesTo c w.record = (heardFrom c w.record).map Connection.gateReply ∧
          (∀ reply ∈ repliesTo c w.record, Connection.Refusal reply) ∧
          ∀ pc, w.connections.lookup c = some (.running pc) →
            ∃ conn f, pc = .serving conn f ∨ pc = .replying conn f none) ∧
        ((∀ c, Unproven p b key c w.record) →
          w.manager = .new ∧ w.world = world ∧ ∀ call, .called call ∉ w.record))
      (.start (some key) tls world) es := by
  have hgate : StatesAlong (Guarded (ByteServer.step p b)) (ByteServer.Gate p b key world)
      (.start (some key) tls world) es :=
    statesAlong_of_stepsAlong (C := fun _ _ => True) (fun _ _ _ hI _ hstep => hI.step hstep)
      (ByteServer.gate_start key tls world) (.of_forall fun _ _ => trivial)
  refine hgate.mono fun w h => ⟨fun c hc => ⟨h.refused c hc, ?_, ?_⟩, h.untouched⟩
  · intro reply hreply
    rw [h.refused c hc] at hreply
    obtain ⟨m, -, rfl⟩ := List.mem_map.mp hreply
    exact Connection.gateReply_refusal m
  · intro pc hpc
    obtain ⟨conn, -, hstands⟩ := h.locked c _ hc hpc
    cases hstands with
    | serving conn f => exact ⟨conn, f, Or.inl rfl⟩
    | replying conn f => exact ⟨conn, f, Or.inr rfl⟩

end WolfUsb
