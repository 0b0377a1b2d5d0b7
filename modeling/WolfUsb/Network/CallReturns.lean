/-
WolfUsb.Network.CallReturns — every call of a session returns.

A call has the socket to itself until it returns, and so has the server a
bounded number of messages to serve meanwhile. `Exchange.rank` counts
first the operations the two sides have left, then the bytes they have not
written yet, then the bytes on their way: every step lowers it, and where
the call has not returned there is a step that is not a failure, because
the two sides are in step (`Exchange.Inv`).

The server serves a message when the USB calls it makes for it have come
back. `returns` says which calls do, and it is assumed that libusb waits
for ever only in a transfer whose timeout arrives as 0: where such a
transfer is asked for, no call needs to return.

The time a side takes is not in the model: a step that moves nothing, a
read of no bytes for one, is not counted as a step.
-/
import WolfUsb.Lib.Progress
import WolfUsb.Network.ExchangeTheorems
import WolfUsb.Server.CallTimeouts

namespace WolfUsb

open WolfUsb.Lib

namespace Exchange

variable {W : Type} {p : Platform W} {debug : Message → String} {b : Bincode} {s s' : Exchange}
  {returns : UsbCall → Prop}

/-! ## Steps that count -/

/-- A piece that is read or written is not empty. -/
def Moves (s : Exchange) : ExchangeEvent W → Prop
  | .clientWrite n => s.client.write.take n ≠ []
  | .clientRead n => s.down.pending.take n ≠ []
  | .serverRead n => s.up.pending.take n ≠ []
  | .serverWrite n => ∀ piece ∈ s.server.write n, piece.1 ≠ []
  | _ => True

/-- An I/O error of a socket, or a lost task of a handler. -/
def Fails : ExchangeEvent W → Prop
  | .clientFails _ | .serverFails => True
  | .server env => env.join ≠ none
  | _ => False

/-- The USB calls made for the message the server takes off its buffer. -/
def usbCalls (p : Platform W) (b : Bincode) (s : Exchange) (env : ServerEnv W) : List UsbCall :=
  match s.server with
  | .serving conn f =>
      match Codec.decode b f.read with
      | .item m _ =>
          (conn.handleMessage p env.join m env.shared).2.2.bus.calls.drop
            env.shared.bus.calls.length
      | _ => []
  | _ => []

/-- The USB calls made in a step come back. -/
def Answered (p : Platform W) (b : Bincode) (returns : UsbCall → Prop) (s : Exchange) :
    ExchangeEvent W → Prop
  | .server env => ∀ c ∈ s.usbCalls p b env, returns c
  | _ => True

/-- A step that moves something and whose USB calls come back; no error of
a lost task is long. -/
def Productive (p : Platform W) (debug : Message → String) (b : Bincode)
    (returns : UsbCall → Prop) (s : Exchange) (e : ExchangeEvent W) (s' : Exchange) : Prop :=
  s.step p debug b e = some s' ∧ s.Moves e ∧ ShortJoins e ∧ s.Answered p b returns e

/-- No request that the server has yet to serve keeps libusb waiting for
ever. -/
def Brief (s : Exchange) : Prop :=
  ∀ call ∈ s.asked.drop s.served.length, ¬ call.request.Unbounded

/-- The call whose request has this number has returned. -/
def Returned (call : Session.Call) (number : Nat) (s : Exchange) : Prop :=
  ∃ c ∈ s.completed, c.call = call ∧ c.request = some number

/-- The call is being made. -/
def Making (call : Session.Call) (number : Nat) (s : Exchange) : Prop :=
  s.client.pc = .sending call number ∨ s.client.pc = .awaiting call number

/-! ## The rank -/

/-- The operations a call has left. -/
def CallPc.left : CallPc → Nat
  | .ready => 0
  | .awaiting _ _ => 1
  | .sending _ _ => 2

/-- The server has a reply to send. -/
def ServerPc.owes : ServerPc → Nat
  | .replying _ _ _ => 1
  | _ => 0

/-- The operations the server has left: it decodes and answers the requests
it has not served, and may end. -/
def serverLeft (s : Exchange) : Nat :=
  if s.serverLive then
    1 + 2 * (s.asked.length - s.served.length) + ServerPc.owes s.server
  else 0

def rank (s : Exchange) : Work :=
  .of (CallPc.left s.client.pc + s.serverLeft)
    (s.client.write.length + (s.server.outbound s.replies).unsent.length)
    (s.up.pending.length + s.down.pending.length)

/-! ## Somebody can go on -/

/-- A possible step that moves something and is not a failure. -/
theorem possible {e : ExchangeEvent W} (hfails : ¬ Fails e) (hmoves : s.Moves e)
    (hjoin : ShortJoins e) (hanswered : s.Answered p b returns e)
    (hstep : (s.step p debug b e).isSome = true) :
    ∃ e s', ¬ Fails e ∧ Productive p debug b returns s e s' := by
  obtain ⟨s', hs'⟩ := Option.isSome_iff_exists.mp hstep
  exact ⟨e, s', hfails, hs', hmoves, hjoin, hanswered⟩

/-- The calls made for the next message come back, if it is a request that
has yet to be served. -/
theorem Inv.answered (hp : b.RefusesPrefixes) (hreturns : ∀ c, c.timeout ≠ some 0 → returns c)
    (h : s.Inv debug b) (hlive : s.serverLive = true) (hbrief : s.Brief) (env : ServerEnv W) :
    s.Answered p b returns (.server env) := by
  intro c hc
  unfold usbCalls at hc
  split at hc
  · rename_i conn f hserver
    split at hc
    · rename_i m rest hdec
      obtain ⟨-, hprefix, -⟩ := h.decoded hp hlive hserver hdec
      -- the message is the request after those that are served
      obtain ⟨left, hasked⟩ := hprefix
      have hnext : m ∈ (s.asked.map Session.Call.request).drop s.served.length := by
        rw [← hasked, List.append_assoc, List.drop_left]
        exact List.mem_append_left _ (List.mem_singleton_self m)
      rw [← List.map_drop] at hnext
      obtain ⟨call, hcall, rfl⟩ := List.mem_map.mp hnext
      exact hreturns c (conn.calls_of_bounded (hbrief call hcall) hc)
    · cases hc
  · cases hc

/-- A server that waits with nothing on its way to it has decoded every
request. -/
theorem all_handled {c : Channel UInt8} {messages : List Message}
    {receiver : Inbound UInt8} (h : Uplink b c messages receiver []) (hpending : c.pending = [])
    (hmore : Codec.decode b receiver.buffer = .more) : receiver.handled = messages.length := by
  obtain ⟨items, lost, raw, rfl, hbalanced, hraw⟩ := h
  by_cases hall : receiver.handled = items.length
  · have hbuffer := hbalanced.rawRest hall
    rw [hpending, List.append_nil, List.append_nil] at hbuffer
    rcases hraw with ⟨rfl, -⟩ | ⟨m, bytes, more, -, henc, hcut⟩
    · rw [hall, List.append_nil]
    · -- a truncated frame that is all there is not waited on
      rw [hbuffer, hcut] at hmore
      exact absurd hmore (Codec.decode_truncated_ne_more b henc more)
  · have hlt := Nat.lt_of_le_of_ne hbalanced.handled_le hall
    obtain ⟨m, left, hitem⟩ := hbalanced.ready hlt rfl hpending
    cases hmore.symm.trans hitem

/-- A client that waits with nothing on its way to it lacks a reply. -/
theorem Inv.lacks_reply (h : s.Inv debug b) {call : Session.Call} {n : Nat}
    (hpc : s.client.pc = .awaiting call n) (hlive : s.serverLive = true)
    (hmore : Codec.decode b s.client.read.buffer = .more) (hpending : s.down.pending = [])
    (hunsent : (s.server.outbound s.replies).unsent = []) : s.replies.length < s.asked.length := by
  have hok := h.client
  have hlevel := h.level
  rw [ClientOk, hpc] at hok
  have htaken : s.taken.length + 1 = s.asked.length := by
    rcases hlevel with hlevel | hbroken | ⟨hdead, -⟩
    · rwa [Level, hpc] at hlevel
    · rw [hok.1] at hbroken
      cases hbroken
    · cases hlive.symm.trans hdead
  by_contra hnot
  have hlt : s.taken.length < (s.server.outbound s.replies).items.length := by
    rw [ServerPc.outbound_items]
    omega
  obtain ⟨m, left, hitem⟩ := h.down.ready hlt hunsent hpending
  cases hmore.symm.trans hitem

section Onward

variable (hp : b.RefusesPrefixes) (hreturns : ∀ c, c.timeout ≠ some 0 → returns c)
include hp hreturns

/-- **A living server goes on**, if the client waits for it and has
nothing to read. -/
theorem Inv.server_goes_on (env : ServerEnv W) (h : s.Inv debug b) (hbrief : s.Brief)
    {call : Session.Call} {n : Nat} (hpc : s.client.pc = .awaiting call n)
    (hlive : s.serverLive = true) (hmore : Codec.decode b s.client.read.buffer = .more)
    (hpending : s.down.pending = []) :
    ∃ e s', ¬ Fails e ∧ Productive p debug b returns s e s' := by
  have hok := h.server
  have hplain := h.plain
  have hup := h.up
  have hclient := h.client
  rw [ClientOk, hpc] at hclient
  -- an operation needs no more than a state to run in
  have hoperation (hadv : ∀ env : ServerEnv W, (s.server.advance p b env).isSome = true) :
      ∃ e s', ¬ Fails e ∧ Productive p debug b returns s e s' := by
    refine possible (e := .server { env with join := none }) (fun hlost => hlost rfl) trivial
      (by simp [ShortJoins, ShortJoin]) (h.answered hp hreturns hlive hbrief _) ?_
    simpa [Exchange.step, hlive, Exchange.serverStep] using hadv { env with join := none }
  cases hserver : s.server with
  | serving conn f =>
      rw [hserver] at hok hup
      have hwrite : f.write = [] := hok
      cases hdec : Codec.decode b f.read with
      | more =>
          by_cases hnone : s.up.pending = []
          · -- the server has answered all, and the client lacks no reply
            rw [hclient.2.2.2] at hup
            have hall := all_handled hup hnone hdec
            have hlacks := h.lacks_reply hpc hlive hmore hpending (by rw [hserver]; exact hwrite)
            rw [ServerPc.inbound_handled, List.length_map] at hall
            omega
          · refine possible (e := .serverRead s.up.pending.length) id ?_ trivial trivial ?_
            · simpa [Moves] using hnone
            · simp [Exchange.step, hlive, Exchange.serverStep, hserver, ServerPc.receive, hdec]
      | failed e =>
          refine hoperation fun env => ?_
          simp only [hserver, ServerPc.advance, hdec, Option.isSome_some]
      | item m rest =>
          refine hoperation fun env => ?_
          simp only [hserver, ServerPc.advance, hdec]
          split <;> rfl
  | replying conn f target =>
      rw [hserver] at hplain
      cases target with
      | some target => cases hplain
      | none =>
          by_cases hwrite : f.write = []
          · refine hoperation fun env => ?_
            simp only [hserver, ServerPc.advance, if_pos hwrite, Option.isSome_some]
          · refine possible (e := .serverWrite f.write.length) id ?_ trivial trivial ?_
            · simpa [Moves, hserver, ServerPc.write] using hwrite
            · simp [Exchange.step, hlive, Exchange.serverStep, hserver, ServerPc.write]
  | switching f target =>
      rw [hserver] at hplain
      cases hplain
  | bridging g =>
      rw [hserver] at hplain
      cases hplain

/-- **While a call is being made, somebody can go on**, also if no socket
fails. -/
theorem Inv.goes_on (env : ServerEnv W) (h : s.Inv debug b) (hbrief : s.Brief)
    {call : Session.Call} {n : Nat} (hmaking : s.Making call n) :
    ∃ e s', ¬ Fails e ∧ Productive p debug b returns s e s' := by
  rcases hmaking with hpc | hpc
  · by_cases hwrite : s.client.write = []
    · refine possible (e := .clientSent) id trivial trivial trivial ?_
      simp [Exchange.step, Exchange.clientStep, hpc, hwrite]
    · refine possible (e := .clientWrite s.client.write.length) id ?_ trivial trivial ?_
      · simpa [Moves] using hwrite
      · simp [Exchange.step, Exchange.clientStep, hpc]
  · have hnext (hready : (s.client.read.next b s.atEnd).isSome = true) :
        ∃ e s', ¬ Fails e ∧ Productive p debug b returns s e s' := by
      refine possible (e := .clientNext) id trivial trivial trivial ?_
      simpa [Exchange.step, Exchange.clientStep, hpc] using hready
    cases hdec : Codec.decode b s.client.read.buffer with
    | item m rest =>
        refine hnext ?_
        simp only [FramedRead.next, hdec]
        split <;> rfl
    | failed e =>
        refine hnext ?_
        simp only [FramedRead.next, hdec]
        split <;> rfl
    | more =>
        by_cases hpending : s.down.pending = []
        · cases hlive : s.serverLive with
          | true => exact h.server_goes_on hp hreturns env hbrief hpc hlive hdec hpending
          | false =>
              refine hnext ?_
              have hend := atEnd_iff.mpr ⟨hlive, hpending⟩
              simp only [FramedRead.next, hdec, hend, if_true]
              split
              · rfl
              · split <;> rfl
        · refine possible (e := .clientRead s.down.pending.length) id ?_ trivial trivial ?_
          · simpa [Moves] using hpending
          · simp [Exchange.step, Exchange.clientStep, hpc, hdec]

end Onward

/-! ## Every step lowers the rank -/

/-- A call that returns has returned. -/
theorem returned_complete (s : Exchange) (client : SessionState) (call : Session.Call) (n : Nat)
    (sent : Except WolfUsbError Unit) (next : NextFrame) :
    Returned call n (s.complete debug client call (some n) sent next) :=
  ⟨_, List.mem_append_right _ (List.mem_singleton_self _), rfl, rfl⟩

/-- What the client does while a call is being made: the call returns, or
the rank is lower. -/
theorem clientStep_lowers {call : Session.Call} {n : Nat} (hmaking : s.Making call n)
    {e : ExchangeEvent W} (hmoves : s.Moves e) (hstep : clientStep debug b s e = some s') :
    Returned call n s' ∨ s'.Making call n ∧ s'.asked = s.asked ∧ s'.rank < s.rank := by
  rcases hmaking with hpc | hpc
  · cases e with
    | clientWrite k =>
        simp only [clientStep, hpc] at hstep
        obtain rfl := Option.some.inj hstep
        have hlen : 0 < (s.client.write.take k).length := List.length_pos_of_ne_nil hmoves
        rw [List.length_take] at hlen
        refine Or.inr ⟨Or.inl rfl, rfl, Work.of_lt.mpr (Or.inr ⟨?_, Or.inl ?_⟩)⟩
        · rw [hpc]
          rfl
        · simp only [List.length_drop]
          omega
    | clientSent =>
        simp only [clientStep, hpc] at hstep
        split at hstep
        · obtain rfl := Option.some.inj hstep
          refine Or.inr ⟨Or.inr rfl, rfl, Work.of_lt.mpr (Or.inl ?_)⟩
          rw [hpc]
          exact Nat.add_lt_add_right (Nat.lt_succ_self 1) _
        · cases hstep
    | clientFails source =>
        simp only [clientStep, hpc] at hstep
        obtain rfl := Option.some.inj hstep
        exact Or.inl (returned_complete ..)
    | _ =>
        simp only [clientStep, hpc] at hstep
        cases hstep
  · cases e with
    | clientRead k =>
        simp only [clientStep, hpc] at hstep
        split at hstep
        · obtain rfl := Option.some.inj hstep
          have hlen : 0 < (s.down.pending.take k).length := List.length_pos_of_ne_nil hmoves
          rw [List.length_take] at hlen
          refine Or.inr ⟨Or.inr rfl, rfl, Work.of_lt.mpr (Or.inr ⟨?_, Or.inr ⟨rfl, ?_⟩⟩)⟩
          · rw [hpc]
            rfl
          · simp only [Channel.pending_read, List.length_drop]
            omega
        · cases hstep
    | clientNext =>
        simp only [clientStep, hpc] at hstep
        obtain ⟨⟨next, read⟩, -, rfl⟩ := Option.map_eq_some_iff.mp hstep
        exact Or.inl (returned_complete ..)
    | clientFails source =>
        simp only [clientStep, hpc] at hstep
        obtain rfl := Option.some.inj hstep
        exact Or.inl (returned_complete ..)
    | _ =>
        simp only [clientStep, hpc] at hstep
        cases hstep

theorem ServerPc.owes_receive {pc pc' : ServerPc} {chunk : Bytes}
    (h : pc.receive b chunk = some pc') (hplain : pc.handsOff = false) : owes pc' = owes pc := by
  cases pc with
  | serving conn f =>
      simp only [WolfUsb.ServerPc.receive] at h
      split at h
      · obtain rfl := Option.some.inj h
        rfl
      · cases h
  | bridging g => cases hplain
  | _ => cases h

theorem ServerPc.owes_write {pc pc' : ServerPc} {n : Nat} {bytes : Bytes}
    (h : pc.write n = some (bytes, pc')) (hplain : pc.handsOff = false) :
    owes pc' = owes pc := by
  cases pc with
  | replying conn f target =>
      cases h
      rfl
  | bridging g => cases hplain
  | _ => cases h

/-- An operation of the server ends the connection, decodes a message, or
is done with a reply. -/
theorem ServerPc.owes_advance {pc : ServerPc} {env : ServerEnv W}
    {r : Option (ServerPc × Option Message)} (h : pc.advance p b env = some r)
    (hplain : pc.handsOff = false) :
    r = none ∨ ∃ pc' reply, r = some (pc', reply) ∧
      ((heard b pc).isSome = true ∧ owes pc' ≤ owes pc + 1 ∨
        heard b pc = none ∧ owes pc' + 1 = owes pc) := by
  cases pc with
  | serving conn f =>
      cases hdec : Codec.decode b f.read with
      | more =>
          simp only [WolfUsb.ServerPc.advance, hdec] at h
          cases h
      | failed e =>
          simp only [WolfUsb.ServerPc.advance, hdec] at h
          exact Or.inl (Option.some.inj h).symm
      | item m rest =>
          simp only [WolfUsb.ServerPc.advance, hdec] at h
          split at h
          · exact Or.inl (Option.some.inj h).symm
          · obtain rfl := Option.some.inj h
            refine Or.inr ⟨_, _, rfl, Or.inl ⟨?_, Nat.le_refl 1⟩⟩
            simp [heard, hdec]
  | replying conn f target =>
      cases target with
      | some target => cases hplain
      | none =>
          simp only [WolfUsb.ServerPc.advance] at h
          split at h
          · obtain rfl := Option.some.inj h
            exact Or.inr ⟨_, _, rfl, Or.inr ⟨rfl, rfl⟩⟩
          · cases h
  | switching f target => cases hplain
  | bridging g => cases hplain

/-- What a living server does lowers the rank: it serves no more messages
than there are requests. -/
theorem serverStep_lowers (h : s.Inv debug b) (h' : s'.Inv debug b) (hlive : s.serverLive = true)
    {e : ExchangeEvent W} (hmoves : s.Moves e) (hstep : serverStep p b s e = some s') :
    s'.client = s.client ∧ s'.rank < s.rank := by
  have hleft : s.serverLeft
      = 1 + 2 * (s.asked.length - s.served.length) + ServerPc.owes s.server := by
    rw [serverLeft, if_pos hlive]
  cases e with
  | server env =>
      refine ⟨?_, Work.of_lt.mpr (Or.inl ?_)⟩
      · obtain ⟨r, -, rfl⟩ := Option.map_eq_some_iff.mp hstep
        cases r <;> rfl
      · have hserved := h'.served.length_le
        rw [List.length_map] at hserved
        obtain ⟨r, hadv, rfl⟩ := Option.map_eq_some_iff.mp hstep
        rcases ServerPc.owes_advance hadv h.plain with rfl | ⟨server, reply, rfl, hheard⟩
        · rw [hleft]
          simp only [serverLeft, Bool.false_eq_true, if_false]
          omega
        · rcases hheard with ⟨hheard, howes⟩ | ⟨hheard, howes⟩
          · obtain ⟨m, hm⟩ := Option.isSome_iff_exists.mp hheard
            simp only [hm, Option.toList_some, List.length_append, List.length_singleton] at hserved
            rw [hleft]
            simp only [serverLeft, hlive, if_true, hm, Option.toList_some, List.length_append,
              List.length_singleton]
            omega
          · rw [hleft]
            simp only [serverLeft, hlive, if_true, hheard, Option.toList_none, List.append_nil]
            omega
  | serverRead k =>
      obtain ⟨server, hread, rfl⟩ := Option.map_eq_some_iff.mp hstep
      obtain ⟨-, -, hout, -⟩ := ServerPc.books_receive s.replies hread h.server
      have hlen : 0 < (s.up.pending.take k).length := List.length_pos_of_ne_nil hmoves
      rw [List.length_take] at hlen
      refine ⟨rfl, Work.of_lt.mpr (Or.inr ⟨?_, Or.inr ⟨?_, ?_⟩⟩)⟩
      · simp only [serverLeft, ServerPc.owes_receive hread h.plain]
      · simp only [hout]
      · simp only [Channel.pending_read, List.length_drop]
        omega
  | serverWrite k =>
      obtain ⟨⟨bytes, server⟩, hwrite, rfl⟩ := Option.map_eq_some_iff.mp hstep
      obtain ⟨-, -, -, hout⟩ := ServerPc.books_write s.replies hwrite h.server
      have hne : bytes ≠ [] := hmoves _ hwrite
      have hlen : 0 < bytes.length := List.length_pos_of_ne_nil hne
      refine ⟨rfl, Work.of_lt.mpr (Or.inr ⟨?_, Or.inl ?_⟩)⟩
      · simp only [serverLeft, ServerPc.owes_write hwrite h.plain]
      · simp only [hout, List.length_append]
        omega
  | serverFails =>
      obtain rfl := Option.some.inj hstep
      refine ⟨rfl, Work.of_lt.mpr (Or.inl ?_)⟩
      rw [hleft]
      simp only [serverLeft, Bool.false_eq_true, if_false]
      omega
  | _ => cases hstep

/-! ## What is yet to be served -/

theorem serverStep_served {e : ExchangeEvent W} (hstep : serverStep p b s e = some s') :
    s'.asked = s.asked ∧ s.served <+: s'.served := by
  cases e with
  | server env =>
      obtain ⟨r, -, rfl⟩ := Option.map_eq_some_iff.mp hstep
      cases r with
      | none => exact ⟨rfl, List.prefix_append _ _⟩
      | some r => exact ⟨rfl, List.prefix_append _ _⟩
  | serverRead n =>
      obtain ⟨_, _, rfl⟩ := Option.map_eq_some_iff.mp hstep
      exact ⟨rfl, List.prefix_refl _⟩
  | serverWrite n =>
      obtain ⟨_, _, rfl⟩ := Option.map_eq_some_iff.mp hstep
      exact ⟨rfl, List.prefix_refl _⟩
  | serverFails =>
      obtain rfl := Option.some.inj hstep
      exact ⟨rfl, List.prefix_refl _⟩
  | _ => cases hstep

/-- Fewer requests are left when more are served. -/
theorem Brief.of_served (h : s.Brief) (hasked : s'.asked = s.asked)
    (hserved : s.served <+: s'.served) : s'.Brief := by
  intro call hcall
  rw [hasked] at hcall
  exact h call (List.drop_subset_drop_left _ hserved.length_le hcall)

/-! ## Calls return -/

/-- The two sides are in step, and no reply is of 4 GiB or more. -/
def Sound (debug : Message → String) (b : Bincode) (s : Exchange) : Prop :=
  s.Inv debug b ∧ ∀ m ∈ s.replies, m.Bounded

section Sizes

variable (hb : b.RoundTrips) (hp : b.RefusesPrefixes) (hsize : b.Proportionate)
  (hw : p.WithinUsb)

include hb hp hsize hw

theorem Sound.step (h : s.Sound debug b) {e : ExchangeEvent W} (hjoin : ShortJoins e)
    (hstep : s.step p debug b e = some s') : s'.Sound debug b := by
  have hbounded := step_bounded hw hjoin hstep h.2
  exact ⟨h.1.step hb hp hstep fun m hm => (hbounded m hm).fits hsize, hbounded⟩

theorem sound_run (conn : Connection) {es : List (ExchangeEvent W)}
    (hrun : Run (Guarded fun s e => Exchange.step p debug b s e) (.start conn) es s)
    (hjoin : ∀ e ∈ es, ShortJoins e) : s.Sound debug b := by
  have hstart : (Exchange.start conn).Sound debug b := by
    refine ⟨inv_start conn, fun m hm => ?_⟩
    cases hm
  exact hrun.preserves_along (I := Sound debug b)
    (fun _ _ _ h hj hstep => h.step hb hp hsize hw hj hstep) (.of_forall hjoin) hstart

/-- **A call that is being made inevitably returns.** -/
theorem Sound.inevitable (hreturns : ∀ c, c.timeout ≠ some 0 → returns c) (env : ServerEnv W)
    {call : Session.Call} {n : Nat} (h : s.Sound debug b) (hbrief : s.Brief)
    (hmaking : s.Making call n) :
    Inevitable (Productive p debug b returns) (fun e => ¬ Fails e) (Returned call n) s := by
  refine inevitable_of_rank (I := fun s => s.Sound debug b ∧ s.Brief ∧ s.Making call n) rank ?_ ?_
    ⟨h, hbrief, hmaking⟩
  · rintro s ⟨h, hbrief, hmaking⟩
    exact Or.inr (h.1.goes_on hp hreturns env hbrief hmaking)
  · rintro s e s' ⟨h, hbrief, hmaking⟩ - ⟨hstep, hmoves, hjoin, -⟩
    have h' := h.step hb hp hsize hw hjoin hstep
    rcases step_cases hstep with hclient | ⟨hlive, hserver⟩
    · rcases clientStep_lowers hmaking hmoves hclient with hreturned | ⟨hmaking', hasked, hlt⟩
      · exact Or.inl hreturned
      · have hserved := (clientStep_keeps hclient).2.1
        exact Or.inr ⟨⟨h', hbrief.of_served hasked (hserved ▸ List.prefix_refl _), hmaking'⟩, hlt⟩
    · obtain ⟨hclient, hlt⟩ := serverStep_lowers h.1 h'.1 hlive hmoves hserver
      obtain ⟨hasked, hserved⟩ := serverStep_served hserver
      refine Or.inr ⟨⟨h', hbrief.of_served hasked hserved, ?_⟩, hlt⟩
      rwa [Making, hclient]

/-- A session that goes on for ever makes no call for ever. -/
theorem Sound.no_call_for_ever (hreturns : ∀ c, c.timeout ≠ some 0 → returns c)
    (env : ServerEnv W) {states : Nat → Exchange} {events : Nat → ExchangeEvent W} {k n : Nat}
    {call : Session.Call} (h : (states k).Sound debug b) (hbrief : (states k).Brief)
    (hmaking : (states k).Making call n)
    (hsteps : ∀ i, Productive p debug b returns (states i) (events i) (states (i + 1))) :
    ∃ m, k ≤ m ∧ (states m).Returned call n :=
  (h.inevitable hb hp hsize hw hreturns env hbrief hmaking).no_infinite hsteps

end Sizes

end Exchange

/-- **Every call of a session returns** if the USB calls made for it do, in
every run of a connected session against `Connection::run`: whatever the
two sides do next, in whatever order and in whatever pieces, and whatever
fails, a call whose request was encoded comes to its result, and it needs
no socket to fail and no task to be lost for it. It is assumed that libusb
comes back from every call but a transfer whose timeout is 0, and that no
request still to be served is such a transfer. Steps that move nothing are
not counted. -/
theorem every_call_returns {W : Type} (p : Platform W) (debug : Message → String) (b : Bincode)
    (hb : b.RoundTrips) (hp : b.RefusesPrefixes) (hsize : b.Proportionate) (hw : p.WithinUsb)
    (returns : UsbCall → Prop) (hreturns : ∀ c : UsbCall, c.timeout ≠ some 0 → returns c)
    (conn : Connection) (env : ServerEnv W) {es : List (ExchangeEvent W)} {s : Exchange}
    (hrun : Run (Guarded fun s e => Exchange.step p debug b s e) (.start conn) es s)
    (hjoin : ∀ e ∈ es, Exchange.ShortJoins e) (hbrief : s.Brief) {call : Session.Call} {n : Nat}
    (hmaking : s.Making call n) :
    Inevitable (Exchange.Productive p debug b returns) (fun e => ¬ Exchange.Fails e)
      (Exchange.Returned call n) s :=
  (Exchange.sound_run hb hp hsize hw conn hrun hjoin).inevitable hb hp hsize hw hreturns env
    hbrief hmaking

/-- An Attach of which three bytes are written. -/
def attachUnderWay : List (ExchangeEvent Nat) := [.call (.attach ⟨1, 2⟩), .clientWrite 3]

theorem every_call_returns_attach :
    ∃ s, Run (Guarded fun s e => Exchange.step twoDeviceHost (fun _ => "") .standard s e)
        (.start (.new .plain ⟨"10.0.0.1", 4000⟩ none)) attachUnderWay s ∧
      s.client.pc = .sending (.attach ⟨1, 2⟩) 0 ∧
      Inevitable (Exchange.Productive twoDeviceHost (fun _ => "") .standard
          fun c => c.timeout ≠ some 0)
        (fun e => ¬ Exchange.Fails e) (Exchange.Returned (.attach ⟨1, 2⟩) 0) s := by
  have hplay : (play (fun s e => Exchange.step twoDeviceHost (fun _ => "") .standard s e)
      (.start (.new .plain ⟨"10.0.0.1", 4000⟩ none)) attachUnderWay).map
        (fun s => (s.client.pc, s.asked))
      = some (.sending (.attach ⟨1, 2⟩) 0, [.attach ⟨1, 2⟩]) := by
    decide +kernel
  obtain ⟨s, hplay, hs⟩ := Option.map_eq_some_iff.mp hplay
  obtain ⟨hpc, hasked⟩ := Prod.mk.inj hs
  have hrun := play_iff_run.mp hplay
  have hjoin : ∀ e ∈ attachUnderWay, Exchange.ShortJoins e := by
    simp [attachUnderWay, Exchange.ShortJoins]
  have hbrief : s.Brief := by
    intro call hcall
    rw [hasked] at hcall
    obtain rfl := List.mem_singleton.mp (List.mem_of_mem_drop hcall)
    rintro ⟨request, hrequest, -⟩
    cases request <;> cases hrequest
  exact ⟨s, hrun, hpc, every_call_returns twoDeviceHost (fun _ => "") .standard
    Bincode.standard_roundTrips Bincode.standard_refusesPrefixes Bincode.standard_proportionate
    twoDeviceHost_withinUsb _ (fun _ h => h) _ ⟨none, ⟨.new, ⟨0, []⟩⟩, { request := none },
      ⟨.normal, false, 1⟩, ⟨"1-4", 1, 2, 3, 0x46d, 0xc52b, 0x100, 0, 0, 0, 1, 1, 1⟩⟩ hrun hjoin hbrief (Or.inl hpc)⟩

end WolfUsb
