/-
WolfUsb.Network.ByteServerBooks — the books of every connection of the
server byte by byte.

A ledger holds what has happened on one connection: the bytes that were
read, the messages heard, the replies made, and the bytes written. A
connection in its loop has heard the frames of what it read but for what
its buffer holds, and has written the frames of its replies but for what
is unsent. One connection's steps leave the ledgers of the others alone,
so nothing is answered on a connection that was asked on another, whatever
the order of steps and however the sockets cut the bytes.
-/
import WolfUsb.Network.ByteServerRefinement
import WolfUsb.Network.ModeSwitchBooks
import WolfUsb.Server.ReplyTheorems

namespace WolfUsb

open WolfUsb.Lib

variable {W : Type} {p : Platform W} {b : Bincode}

/-! ## Ledgers -/

/-- What has happened on one connection. -/
structure Ledger where
  bytesIn : Bytes := []
  heard : List Message := []
  replies : List Message := []
  bytesOut : Bytes := []

/-- The ledger of connection `c`. -/
def ledger (c : Nat) (record : List Entry) : Ledger :=
  ⟨bytesIn c record, heardFrom c record, repliesTo c record, bytesOut c record⟩

namespace Ledger

def add (l l' : Ledger) : Ledger :=
  ⟨l.bytesIn ++ l'.bytesIn, l.heard ++ l'.heard, l.replies ++ l'.replies,
    l.bytesOut ++ l'.bytesOut⟩

theorem add_empty (l : Ledger) : l.add {} = l := by
  simp only [add, List.append_nil]

variable (b) in
/-- The messages are the first of those the bytes decode to, each is
answered, and the bytes written begin the frames of the replies or begin
with all of them. -/
structure Sound (l : Ledger) : Prop where
  heard : l.heard <+: ((Codec.decoder b).drain l.bytesIn).1
  answered : List.Forall₂ Answers l.heard l.replies
  sent : l.bytesOut <+: stream (Codec.bytesOf b) l.replies ∨
    stream (Codec.bytesOf b) l.replies <+: l.bytesOut

theorem sound_empty : ({} : Ledger).Sound b where
  heard := List.nil_prefix
  answered := .nil
  sent := Or.inl List.nil_prefix

theorem Sound.read {l : Ledger} (h : l.Sound b) (chunk : Bytes) :
    (l.add { bytesIn := chunk }).Sound b where
  heard := by
    simp only [add, List.append_nil]
    exact h.heard.trans ((Codec.decoder b).drain_mono l.bytesIn chunk)
  answered := by
    simp only [add, List.append_nil]
    exact h.answered
  sent := by
    simp only [add, List.append_nil]
    exact h.sent

end Ledger

section Record

variable (c : Nat) (record entries : List Entry)

theorem ledger_append :
    ledger c (record ++ entries) = (ledger c record).add (ledger c entries) := by
  simp only [ledger, Ledger.add, bytesIn, bytesOut, heardFrom, repliesTo, List.flatMap_append,
    List.filterMap_append]

theorem ledger_nil : ledger c [] = {} := rfl

theorem ledger_called (calls : List UsbCall) : ledger c (calls.map .called) = {} := by
  induction calls with
  | nil => rfl
  | cons call rest ih =>
      rw [List.map_cons, ← List.singleton_append, ledger_append, ih]
      rfl

theorem ledger_read (c' : Nat) (chunk : Bytes) :
    ledger c [.read c' chunk] = if c' = c then { bytesIn := chunk } else {} := by
  by_cases h : c' = c <;> simp [ledger, bytesIn, bytesOut, heardFrom, repliesTo, h]

theorem ledger_wrote (c' : Nat) (bytes : Bytes) :
    ledger c [.wrote c' bytes] = if c' = c then { bytesOut := bytes } else {} := by
  by_cases h : c' = c <;> simp [ledger, bytesIn, bytesOut, heardFrom, repliesTo, h]

theorem ledger_handled (c' : Nat) (m : Message) (calls : List UsbCall) (reply : Message) :
    ledger c (ByteServer.handled c' m calls reply) =
      if c' = c then { heard := [m], replies := [reply] } else {} := by
  rw [ByteServer.handled, List.cons_append, ← List.singleton_append, ledger_append, ledger_append,
    ledger_called]
  by_cases h : c' = c <;>
    simp [ledger, Ledger.add, bytesIn, bytesOut, heardFrom, repliesTo, h]

end Record

/-! ## The books -/

variable (b) in
/-- Where a connection is, its ledger says so. -/
def Loop.Books (l : Ledger) : Loop → Prop
  | .running (.serving _ f) =>
      (Codec.decoder b).drain l.bytesIn
        = (l.heard ++ ((Codec.decoder b).drain f.read).1, ((Codec.decoder b).drain f.read).2) ∧
      f.write = [] ∧ l.bytesOut = stream (Codec.bytesOf b) l.replies
  | .running (.replying _ f _) =>
      (Codec.decoder b).drain l.bytesIn
        = (l.heard ++ ((Codec.decoder b).drain f.read).1, ((Codec.decoder b).drain f.read).2) ∧
      l.bytesOut ++ f.write = stream (Codec.bytesOf b) l.replies
  | .running (.switching _ _) | .running (.bridging _) =>
      stream (Codec.bytesOf b) l.replies <+: l.bytesOut
  | .closing _ _ => True

namespace ByteServer

variable (b) in
structure Kept (w : ByteServer W) : Prop where
  fresh : ∀ c, w.accepted ≤ c → w.connections.lookup c = none ∧ ledger c w.record = {}
  sound : ∀ c, (ledger c w.record).Sound b
  loops : ∀ c loop, w.connections.lookup c = some loop → loop.Books b (ledger c w.record)

theorem kept_start (sharedKey : Option Bytes) (tls : Bool) (world : W) :
    (start sharedKey tls world).Kept b where
  fresh c _ := ⟨Finmap.lookup_empty c, rfl⟩
  sound c := Ledger.sound_empty
  loops c loop h := by
    rw [show (start sharedKey tls world).connections.lookup c = none from
      Finmap.lookup_empty c] at h
    cases h

variable {w : ByteServer W}

theorem Kept.live (h : w.Kept b) {c : Nat} {loop : Loop}
    (hc : w.connections.lookup c = some loop) : c < w.accepted := by
  by_contra hge
  rw [(h.fresh c (Nat.le_of_not_lt hge)).1] at hc
  cases hc

/-- A connection that is there goes on, with entries of its own. -/
theorem Kept.put (h : w.Kept b) {c : Nat} {loop loop' : Loop} {entries : List Entry} {l : Ledger}
    (hc : w.connections.lookup c = some loop)
    (hentries : ∀ x, ledger x entries = if c = x then l else {})
    (hsound : ((ledger c w.record).add l).Sound b)
    (hbooks : loop'.Books b ((ledger c w.record).add l)) : (w.put c loop' entries).Kept b := by
  have hledger (x : Nat) : ledger x (w.put c loop' entries).record =
      if c = x then (ledger c w.record).add l else ledger x w.record := by
    show ledger x (w.record ++ entries) = _
    rw [ledger_append, hentries]
    split
    · rename_i hx
      rw [hx]
    · rw [Ledger.add_empty]
  have hlookup (x : Nat) : (w.put c loop' entries).connections.lookup x =
      if x = c then some loop' else w.connections.lookup x := lookup_insert_eq ..
  constructor
  · intro x hx
    have hne : x ≠ c := by
      rintro rfl
      exact absurd (h.live hc) (Nat.not_lt.mpr hx)
    rw [hlookup, hledger, if_neg hne, if_neg hne.symm]
    exact h.fresh x hx
  · intro x
    rw [hledger]
    split
    · exact hsound
    · exact h.sound x
  · intro x loop'' hx
    rw [hlookup] at hx
    rw [hledger]
    split at hx
    · rename_i heq
      cases hx
      rw [if_pos heq.symm]
      exact hbooks
    · rename_i hne
      rw [if_neg (Ne.symm hne)]
      exact h.loops x loop'' hx

/-- A connection that is there goes on, and its ledger stays. -/
theorem Kept.move (h : w.Kept b) {c : Nat} {loop loop' : Loop}
    (hc : w.connections.lookup c = some loop)
    (hbooks : loop'.Books b (ledger c w.record)) : (w.put c loop' []).Kept b := by
  refine h.put (l := {}) hc (fun x => ?_) ?_ ?_
  · rw [ledger_nil, ite_self]
  · rw [Ledger.add_empty]
    exact h.sound c
  · rw [Ledger.add_empty]
    exact hbooks

/-- A connection ends, with nothing but USB calls. -/
theorem Kept.drop (h : w.Kept b) (c : Nat) {entries : List Entry}
    (hentries : ∀ x, ledger x entries = {}) :
    ({ w.drop c with record := w.record ++ entries } : ByteServer W).Kept b := by
  have hledger (x : Nat) : ledger x (w.record ++ entries) = ledger x w.record := by
    rw [ledger_append, hentries, Ledger.add_empty]
  constructor
  · intro x hx
    obtain ⟨hnone, hempty⟩ := h.fresh x hx
    refine ⟨?_, (hledger x).trans hempty⟩
    show (w.connections.erase c).lookup x = none
    rw [lookup_erase_eq, hnone, ite_self]
  · intro x
    exact hledger x ▸ h.sound x
  · intro x loop hx
    exact hledger x ▸ h.loops x loop (lookup_of_erase hx)

theorem Kept.accept (h : w.Kept b) (addr : SocketAddr) :
    ({ w with
      connections := w.connections.insert w.accepted
        (.running (.serving (.new w.socket addr w.sharedKey) ⟨[], []⟩))
      accepted := w.accepted + 1
      record := w.record ++ [.accepted addr] } : ByteServer W).Kept b := by
  have hledger (x : Nat) : ledger x (w.record ++ [.accepted addr]) = ledger x w.record := by
    rw [ledger_append]
    exact Ledger.add_empty _
  constructor
  · intro x hx
    have hlt : w.accepted < x := hx
    obtain ⟨hnone, hempty⟩ := h.fresh x (Nat.le_of_lt hlt)
    refine ⟨?_, (hledger x).trans hempty⟩
    show (w.connections.insert w.accepted _).lookup x = none
    rw [lookup_insert_eq, if_neg (Nat.ne_of_gt hlt)]
    exact hnone
  · intro x
    exact hledger x ▸ h.sound x
  · intro x loop hx
    have hlook : (w.connections.insert w.accepted
      (.running (.serving (.new w.socket addr w.sharedKey) ⟨[], []⟩))).lookup x = some loop := hx
    show loop.Books b (ledger x (w.record ++ [.accepted addr]))
    rw [hledger]
    rw [lookup_insert_eq] at hlook
    split at hlook
    · rename_i heq
      cases hlook
      rw [heq, (h.fresh _ (Nat.le_refl _)).2]
      exact ⟨by rw [List.nil_append], rfl, rfl⟩
    · exact h.loops x loop hlook

/-- A piece is read: the buffer has it, or the bridge task. -/
theorem Kept.read (h : w.Kept b) {c : Nat} {chunk : Bytes} {pc pc' : ServerPc}
    (hc : w.connections.lookup c = some (.running pc)) (hr : pc.receive b chunk = some pc') :
    (w.put c (.running pc') [.read c chunk]).Kept b := by
  refine h.put (l := { bytesIn := chunk }) hc (fun x => ledger_read x c chunk)
    ((h.sound c).read chunk) ?_
  have hbooks := h.loops c _ hc
  cases pc with
  | serving conn f =>
      simp only [ServerPc.receive] at hr
      split at hr
      · rename_i hmore
        cases hr
        obtain ⟨hdrain, hwrite, hout⟩ := hbooks
        rw [(Codec.decoder b).drain_of_more hmore, List.append_nil] at hdrain
        simp only [Loop.Books, Ledger.add, List.append_nil]
        refine ⟨?_, hwrite, hout⟩
        rw [(Codec.decoder b).drain_append, hdrain]
        rfl
      · cases hr
  | bridging g =>
      obtain ⟨g', rfl⟩ : ∃ g', pc' = .bridging g' := by
        simp only [ServerPc.receive] at hr
        split at hr
        · split at hr
          · exact ⟨_, (Option.some.inj hr).symm⟩
          · cases hr
        · exact ⟨_, (Option.some.inj hr).symm⟩
        · cases hr
      simp only [Loop.Books, Ledger.add, List.append_nil]
      exact hbooks
  | _ => cases hr

/-- A piece is written: it is no longer unsent, or the bridge task's. -/
theorem Kept.write (h : w.Kept b) {c n : Nat} {bytes : Bytes} {pc pc' : ServerPc}
    (hc : w.connections.lookup c = some (.running pc)) (hw : pc.write n = some (bytes, pc')) :
    (w.put c (.running pc') [.wrote c bytes]).Kept b := by
  have hbooks := h.loops c _ hc
  have hsound := h.sound c
  cases pc with
  | replying conn f target =>
      cases hw
      obtain ⟨hdrain, hout⟩ := hbooks
      have hmore : (ledger c w.record).bytesOut ++ f.write.take n ++ f.write.drop n
          = stream (Codec.bytesOf b) (ledger c w.record).replies := by
        rw [List.append_assoc, List.take_append_drop, hout]
      refine h.put (l := { bytesOut := f.write.take n }) hc (fun x => ledger_wrote x c _) ?_ ?_
      · constructor
        · simp only [Ledger.add, List.append_nil]
          exact hsound.heard
        · simp only [Ledger.add, List.append_nil]
          exact hsound.answered
        · simp only [Ledger.add, List.append_nil]
          exact Or.inl ⟨f.write.drop n, hmore⟩
      · simp only [Loop.Books, Ledger.add, List.append_nil]
        exact ⟨hdrain, hmore⟩
  | bridging g =>
      obtain ⟨g', rfl⟩ : ∃ g', pc' = .bridging g' := by
        simp only [ServerPc.write] at hw
        split at hw
        · cases hw
          exact ⟨_, rfl⟩
        · cases hw
      have hframes : stream (Codec.bytesOf b) (ledger c w.record).replies <+:
          (ledger c w.record).bytesOut ++ bytes := hbooks.trans (List.prefix_append _ _)
      refine h.put (l := { bytesOut := bytes }) hc (fun x => ledger_wrote x c _) ?_ ?_
      · constructor
        · simp only [Ledger.add, List.append_nil]
          exact hsound.heard
        · simp only [Ledger.add, List.append_nil]
          exact hsound.answered
        · simp only [Ledger.add, List.append_nil]
          exact Or.inr hframes
      · simp only [Loop.Books, Ledger.add, List.append_nil]
        exact hframes
  | _ => cases hw

/-- A message is handled: it was the next in the buffer, and its reply is
the next to be written. -/
theorem Kept.handle (h : w.Kept b) {c : Nat} {join : Option String} {conn conn' : Connection}
    {f : Framed} {m : Message} {rest : Bytes} {action : Action} {sh : Shared W}
    (hc : w.connections.lookup c = some (.running (.serving conn f)))
    (hdec : Codec.decode b f.read = .item m rest)
    (hm : conn.handleMessage p join m w.shared = (action, conn', sh)) :
    ((w.after sh).put c (replyWith b conn' rest f.write action)
      (handled c m sh.bus.calls action.message)).Kept b := by
  have hbase : (w.after sh).Kept b := ⟨h.fresh, h.sound, h.loops⟩
  have hanswers : Answers m action.message := by
    have hreply := conn.handleMessage_answers p join m w.shared
    rw [hm] at hreply
    exact hreply
  obtain ⟨hdrain, hwrite, hout⟩ := h.loops c _ hc
  rw [(Codec.decoder b).drain_of_item hdec, ← List.singleton_append, ← List.append_assoc] at hdrain
  refine hbase.put (l := { heard := [m], replies := [action.message] }) hc
    (fun x => ledger_handled x c m _ _) ?_ ?_
  · constructor
    · show _ <+: ((Codec.decoder b).drain ((ledger c w.record).bytesIn ++ [])).1
      rw [List.append_nil, hdrain]
      exact List.prefix_append _ _
    · exact List.rel_append (h.sound c).answered (.cons hanswers .nil)
    · show (ledger c w.record).bytesOut ++ [] <+: _ ∨ _
      rw [List.append_nil, hout]
      refine Or.inl ?_
      show _ <+: stream _ ((ledger c w.record).replies ++ [action.message])
      rw [stream_append]
      exact List.prefix_append _ _
  · unfold replyWith
    split
    · trivial
    · rename_i write henc
      simp only [Loop.Books, Ledger.add, List.append_nil]
      show (Codec.decoder b).drain (ledger c w.record).bytesIn = _ ∧
        (ledger c w.record).bytesOut ++ write = stream _ ((ledger c w.record).replies ++ _)
      rw [hwrite] at henc
      refine ⟨hdrain, ?_⟩
      rw [hout, stream_append, stream_singleton, Codec.bytesOf_of_encode b henc]

theorem Kept.advance (h : w.Kept b) {c : Nat} {pc pc' : ServerPc}
    (hc : w.connections.lookup c = some (.running pc)) (hp : pc.GoesOn pc') :
    (w.put c (.running pc') []).Kept b := by
  refine h.move hc ?_
  have hbooks := h.loops c _ hc
  cases hp with
  | replied hf =>
      obtain ⟨hdrain, hout⟩ := hbooks
      rw [hf, List.append_nil] at hout
      exact ⟨hdrain, hf, hout⟩
  | offered hf =>
      obtain ⟨-, hout⟩ := hbooks
      rw [hf, List.append_nil] at hout
      show stream _ _ <+: (ledger c w.record).bytesOut
      rw [hout]
  | handedOff => exact hbooks
  | bridges => exact hbooks

/-- **The step lemma.** -/
theorem Kept.step {w' : ByteServer W} {e : ByteEvent W} (h : w.Kept b)
    (hstep : w.step p b e = some w') : w'.Kept b := by
  cases step_cases hstep with
  | accept addr => exact h.accept addr
  | read hc hr => exact h.read hc hr
  | write hc hw => exact h.write hc hw
  | handle hc hdec hm => exact h.handle hc hdec hm
  | advance hc hadv => exact h.advance hc (ServerPc.goesOn_of_advance hadv)
  | @refuse c env f target hc =>
      have hdrop := h.drop c (show ∀ x, ledger x [] = {} from fun x => rfl)
      rw [List.append_nil] at hdrop
      exact hdrop
  | stopReading hc => exact h.move hc trivial
  | stopWriting hc => exact h.move hc trivial
  | @cleanup c join keys conn f hc hk =>
      have hbase : (w.after (conn.cleanup p join keys w.shared).2).Kept b :=
        ⟨h.fresh, h.sound, h.loops⟩
      exact hbase.drop c fun x => ledger_called x _

end ByteServer

/-- **What is answered on a connection is what was asked on it.** In every
state of every run of the server, with any number of connections in any
order of steps: the messages heard on a connection are the first of those
the bytes read on it decode to, each is answered by one reply, and the
bytes written are the frames of the replies in order, with raw bytes only
after the last. While the connection is served, nothing else is missing
than what its two buffers hold. -/
theorem connection_answers_its_own_bytes (p : Platform W) (b : Bincode)
    (sharedKey : Option Bytes) (tls : Bool) (world : W) (es : List (ByteEvent W)) :
    StatesAlong (Guarded (ByteServer.step p b))
      (fun w => ∀ c, (ledger c w.record).Sound b ∧
        ∀ loop, w.connections.lookup c = some loop → loop.Books b (ledger c w.record))
      (.start sharedKey tls world) es :=
  (statesAlong_of_stepsAlong (C := fun _ _ => True) (fun _ _ _ hI _ hstep => hI.step hstep)
      (ByteServer.kept_start sharedKey tls world) (.of_forall fun _ _ => trivial)).mono
    fun _ h c => ⟨h.sound c, h.loops c⟩

end WolfUsb
