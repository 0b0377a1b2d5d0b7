/-
WolfUsb.Network.ExchangeTheorems — requests and replies stay in step.

The server answers the messages it decodes one by one, and what it decodes
are the requests in the order they were encoded: a request whose length
was truncated is not decoded to anything, and nothing after it is. The
client sends the next request when the call before has returned. So when a
call takes a message off the stream, the messages taken before it are the
replies to the requests before its own (`Level`), or the stream will never
yield a message again (`Dry`).
-/
import WolfUsb.Lib.Runs
import WolfUsb.Network.Exchange
import WolfUsb.Network.ModeSwitchBooks
import WolfUsb.Network.ReplySizes
import WolfUsb.Server.ReplyTheorems

namespace WolfUsb

open WolfUsb.Lib

/-! ## What a method accepts -/

/-- The outcome is not that the message was unexpected. -/
def Expected {α : Type} (r : Except WolfUsbError α) : Prop :=
  ∀ expected got, r ≠ .error (.unexpectedMessage expected got)

namespace Session

variable {α β : Type} (debug : Message → String)

theorem expected_ok (a : α) : Expected (.ok a) := nofun

theorem expected_refused (e : ErrorResponse) : Expected (refused e : Except WolfUsbError α) := nofun

theorem expected_outcome (failed : String) (success : Bool) (errorMessage : Option String) :
    Expected (outcome failed success errorMessage) := by
  unfold outcome
  split <;> exact nofun

theorem Expected.map {r : Except WolfUsbError α} (h : Expected r) (f : α → β) :
    Expected (r.map f) := by
  cases r with
  | ok a => exact expected_ok (f a)
  | error e =>
      intro expected got heq
      cases heq
      exact h expected got rfl

/-- **A method accepts what answers its request.** -/
theorem Call.result_expected {call : Call} {m : Message} (h : Answers call.request m) :
    Expected (call.result debug m) := by
  cases call with
  | listDevices =>
      refine Expected.map ?_ _
      cases m with
      | deviceList resp => exact expected_ok _
      | error e => exact expected_refused e
      | _ => exact False.elim h
  | getDescriptors deviceId =>
      refine Expected.map ?_ _
      cases m with
      | descriptorData resp => exact expected_ok _
      | error e => exact expected_refused e
      | _ => exact False.elim h
  | attach deviceId =>
      refine Expected.map ?_ _
      cases m with
      | attachResult resp =>
          simp only [Session.attach]
          split
          · split <;> exact nofun
          · exact nofun
      | error e => exact expected_refused e
      | _ => exact False.elim h
  | detach deviceId sessionId =>
      refine Expected.map ?_ _
      cases m with
      | detachResult resp => exact expected_outcome _ _ _
      | error e => exact expected_refused e
      | _ => exact False.elim h
  | claimInterface sessionId deviceId interfaceNumber =>
      refine Expected.map ?_ _
      cases m with
      | claimInterfaceResult resp => exact expected_outcome _ _ _
      | error e => exact expected_refused e
      | _ => exact False.elim h
  | releaseInterface sessionId deviceId interfaceNumber =>
      refine Expected.map ?_ _
      cases m with
      | releaseInterfaceResult resp => exact expected_outcome _ _ _
      | error e => exact expected_refused e
      | _ => exact False.elim h
  | setConfiguration sessionId deviceId configuration =>
      refine Expected.map ?_ _
      cases m with
      | setConfigurationResult resp => exact expected_outcome _ _ _
      | error e => exact expected_refused e
      | _ => exact False.elim h
  | _ =>
      refine Expected.map ?_ _
      cases m with
      | transferResult resp => exact expected_ok _
      | error e => exact expected_refused e
      | _ => exact False.elim h

/-- A session does not ask for a bridge. -/
theorem Call.request_ne_bridge (call : Call) (req : BridgeRequest) : call.request ≠ .bridge req := by
  cases call <;> exact nofun

end Session

theorem Expected.error {α β : Type} {e : WolfUsbError}
    (h : Expected (.error e : Except WolfUsbError α)) :
    Expected (.error e : Except WolfUsbError β) := by
  intro expected got heq
  cases heq
  exact h expected got rfl

theorem Codec.encode_expected (b : Bincode) (m : Message) (dst : Bytes) :
    Expected (Codec.encode b m dst) := by
  unfold Codec.encode
  split
  · exact nofun
  · dsimp only
    split <;> exact nofun

/-! ## The client's stream -/

/-- What `framed.next()` yields: nothing once after an error, a message, an
error that is the decoder's, or the end. -/
theorem FramedRead.next_cases {b : Bincode} {atEnd : Bool} {r r' : FramedRead} {next : NextFrame}
    (h : r.next b atEnd = some (next, r')) :
    (r.errored = true ∧ next = none ∧ r' = { r with errored := false }) ∨
    (∃ m rest, Codec.decode b r.buffer = .item m rest ∧ next = some (.ok m) ∧
      r'.buffer = rest ∧ r'.errored = false) ∨
    (∃ e, Codec.decode b r.buffer = .failed e) ∨
    (Codec.decode b r.buffer = .more ∧ atEnd = true ∧ r'.buffer = r.buffer ∧
      (next = none ∨ next = some (.error (.connectionFailed "bytes remaining on stream")))) := by
  unfold FramedRead.next at h
  split at h
  · rename_i herr
    cases h
    exact Or.inl ⟨herr, rfl, rfl⟩
  · rename_i herr
    cases hdec : Codec.decode b r.buffer with
    | item m rest =>
        rw [hdec] at h
        cases h
        exact Or.inr (Or.inl ⟨m, rest, rfl, rfl, rfl, by simpa using herr⟩)
    | failed e => exact Or.inr (Or.inr (Or.inl ⟨e, rfl⟩))
    | more =>
        rw [hdec] at h
        dsimp only at h
        split at h
        · rename_i hend
          split at h
          · cases h
            exact Or.inr (Or.inr (Or.inr ⟨rfl, hend, rfl, Or.inl rfl⟩))
          · cases h
            exact Or.inr (Or.inr (Or.inr ⟨rfl, hend, rfl, Or.inr rfl⟩))
        · cases h

/-! ## The requests on their way -/

/-- Bytes that begin with a frame whose length was truncated. -/
def Codec.Cut (b : Bincode) (raw : Bytes) : Prop :=
  ∃ m bytes more, ¬ Codec.Fits b m ∧ Codec.encode b m [] = .ok bytes ∧ raw = bytes ++ more

/-- The messages were put on the channel in order. They are frames up to
the first whose length was truncated, and bytes from there on. -/
def Uplink (b : Bincode) (c : Channel UInt8) (messages : List Message) (receiver : Inbound UInt8)
    (unsent : Bytes) : Prop :=
  ∃ items lost raw, messages = items ++ lost ∧
    Balanced (Codec.decoder b) (Codec.bytesOf b) c { items, raw, unsent } receiver ∧
    (lost = [] ∧ raw = [] ∨ Codec.Cut b raw)

namespace Uplink

variable {b : Bincode} {c : Channel UInt8} {messages : List Message} {receiver : Inbound UInt8}
  {unsent : Bytes}

theorem start : Uplink b {} [] {} [] :=
  ⟨[], [], [], rfl, ⟨rfl, rfl, Nat.le_refl 0, fun _ h => nomatch h⟩, Or.inl ⟨rfl, rfl⟩⟩

theorem send (hb : b.RoundTrips) (h : Uplink b c messages receiver []) {m : Message} {bytes : Bytes}
    (henc : Codec.encode b m [] = .ok bytes) : Uplink b c (messages ++ [m]) receiver bytes := by
  obtain ⟨items, lost, raw, rfl, hbalanced, hraw⟩ := h
  rcases hraw with ⟨rfl, rfl⟩ | ⟨m₀, bytes₀, more, hcut, henc₀, rfl⟩
  · by_cases hfits : Codec.Fits b m
    · have hframe := Codec.frameOf_of_encode b hb hfits henc
      rw [← Codec.bytesOf_of_encode b henc] at hframe ⊢
      exact ⟨items ++ [m], [], [], by simp, hbalanced.send rfl rfl hframe, Or.inl ⟨rfl, rfl⟩⟩
    · exact ⟨items, [m], bytes, by simp, hbalanced.owe rfl rfl,
        Or.inr ⟨m, bytes, [], hfits, henc, (List.append_nil bytes).symm⟩⟩
  · exact ⟨items, lost ++ [m], bytes₀ ++ more ++ bytes, by simp, hbalanced.owe rfl rfl,
      Or.inr ⟨m₀, bytes₀, more ++ bytes, hcut, henc₀, List.append_assoc _ _ _⟩⟩

theorem write {bytes : Bytes} (h : Uplink b c messages receiver (bytes ++ unsent)) :
    Uplink b (c.write bytes) messages receiver unsent := by
  obtain ⟨items, lost, raw, hmessages, hbalanced, hraw⟩ := h
  exact ⟨items, lost, raw, hmessages, Balanced.write hbalanced, hraw⟩

theorem read (h : Uplink b c messages receiver unsent) (n : Nat) :
    Uplink b (c.read n) messages { receiver with buffer := receiver.buffer ++ c.pending.take n }
      unsent := by
  obtain ⟨items, lost, raw, hmessages, hbalanced, hraw⟩ := h
  exact ⟨items, lost, raw, hmessages, hbalanced.read n, hraw⟩

/-- **What the server decodes is the next message.** -/
theorem item (hp : b.RefusesPrefixes) (h : Uplink b c messages receiver unsent) {m : Message}
    {left : Bytes} (hdec : Codec.decode b receiver.buffer = .item m left) :
    messages[receiver.handled]? = some m ∧
      Uplink b c messages { receiver with handled := receiver.handled + 1, buffer := left }
        unsent := by
  obtain ⟨items, lost, raw, rfl, hbalanced, hraw⟩ := h
  by_cases hall : receiver.handled = items.length
  · -- all frames are handled, and the bytes after them are not decoded to anything
    have hrest := hbalanced.rawRest hall
    rcases hraw with ⟨-, rfl⟩ | ⟨m₀, bytes₀, more, hcut, henc, rfl⟩
    · rw [(List.append_eq_nil_iff.mp hrest).1] at hdec
      cases hdec
    · exact absurd hdec (Codec.decode_truncated b hp hcut henc hrest m left)
  · obtain ⟨tail, hdrop, -, hnext⟩ :=
      hbalanced.next (Nat.lt_of_le_of_ne hbalanced.handled_le hall) hdec
    refine ⟨?_, items, lost, raw, rfl, hnext, hraw⟩
    have hlt : receiver.handled < items.length := Nat.lt_of_le_of_ne hbalanced.handled_le hall
    have hget : items[receiver.handled]? = some m := by
      rw [← List.head?_drop, hdrop]
      rfl
    rw [List.getElem?_append_left hlt, hget]

end Uplink

/-! ## The invariant -/

namespace Exchange

variable {W : Type} {p : Platform W} {debug : Message → String} {b : Bincode} {s s' : Exchange}

/-- The messages the calls have taken for their responses. -/
def taken (s : Exchange) : List Message := s.completed.filterMap Completed.response

/-- The numbers of the requests of the calls that have returned. -/
def numbers (s : Exchange) : List Nat := s.completed.filterMap Completed.request

/-- A call that has returned took the reply to its own request, or none. -/
structure Own (debug : Message → String) (asked : List Session.Call) (replies : List Message)
    (c : Completed) : Prop where
  expected : Expected c.result
  asked : ∀ n, c.request = some n → asked[n]? = some c.call
  own : ∀ m, c.response = some m → ∃ n, c.request = some n ∧ replies[n]? = some m ∧
    Answers c.call.request m ∧ c.result = c.call.result debug m
  failed : c.response = none → ∃ e, c.result = .error e

/-- The stream yields no message any more. -/
def Dry (b : Bincode) (s : Exchange) : Prop :=
  s.client.broken.isSome = true ∨
    s.serverLive = false ∧ s.down.pending = [] ∧
      Codec.decode b s.client.read.buffer = .more

/-- A stream that is dry stays dry: its server takes no step, and what is
not on its way is not read. -/
theorem Dry.keep (h : s.Dry b)
    (hbroken : s.client.broken.isSome = true → s'.client.broken.isSome = true)
    (hlive : s.serverLive = false → s'.serverLive = false)
    (hpending : s.down.pending = [] → s'.down.pending = [])
    (hread : s.down.pending = [] → s'.client.read.buffer = s.client.read.buffer) : s'.Dry b := by
  rcases h with hb | ⟨hdead, hnone, hmore⟩
  · exact Or.inl (hbroken hb)
  · exact Or.inr ⟨hlive hdead, hpending hnone, by rw [hread hnone]; exact hmore⟩

/-- The replies to all requests but that of the call being made are taken. -/
def Level (s : Exchange) : Prop :=
  s.taken.length + s.client.pc.number.toList.length = s.asked.length

/-- What holds of the place of the client by itself. -/
def ClientOk (s : Exchange) : Prop :=
  match s.client.pc with
  | .ready => s.client.broken = none → s.client.write = []
  | .sending call n => s.client.broken = none ∧ n + 1 = s.asked.length ∧ s.asked[n]? = some call
  | .awaiting call n =>
      s.client.broken = none ∧ n + 1 = s.asked.length ∧ s.asked[n]? = some call ∧
        s.client.write = []

structure Inv (debug : Message → String) (b : Bincode) (s : Exchange) : Prop where
  client : s.ClientOk
  server : s.server.Ok
  plain : s.server.handsOff = false
  up : Uplink b s.up (s.asked.map Session.Call.request) (s.server.inbound s.replies) s.client.write
  down : Balanced (Codec.decoder b) (Codec.bytesOf b) s.down (s.server.outbound s.replies)
    { handled := s.taken.length, buffer := s.client.read.buffer }
  served : s.served <+: s.asked.map Session.Call.request
  replied : s.replies.length = s.served.length ∨
    s.replies.length + 1 = s.served.length ∧ s.serverLive = false
  answers : ∀ (n : Nat) (m : Message), s.replies[n]? = some m →
    ∃ msg : Message, s.served[n]? = some msg ∧ Answers msg m
  level : s.Level ∨ s.Dry b
  errored : s.client.read.errored = true → s.Dry b
  numbered : s.numbers ++ s.client.pc.number.toList = List.range s.asked.length
  completed : ∀ c ∈ s.completed, Own debug s.asked s.replies c

theorem inv_start (conn : Connection) : (start conn).Inv debug b where
  client _ := rfl
  server := rfl
  plain := rfl
  up := Uplink.start
  down := ⟨rfl, rfl, Nat.le_refl 0, fun _ h => nomatch h⟩
  served := List.prefix_refl _
  replied := Or.inl rfl
  answers _ _ h := nomatch h
  level := Or.inl rfl
  errored h := nomatch h
  numbered := rfl
  completed _ h := nomatch h

/-- A reply answers the call with the number of its place. -/
theorem Inv.answers_asked (h : s.Inv debug b) {n : Nat} {m : Message}
    (hm : s.replies[n]? = some m) :
    ∃ call, s.asked[n]? = some call ∧ Answers call.request m := by
  obtain ⟨msg, hserved, hanswers⟩ := h.answers n m hm
  obtain ⟨rest, hasked⟩ := h.served
  have hlt : n < s.served.length := (List.getElem?_eq_some_iff.mp hserved).1
  have hget : (s.asked.map Session.Call.request)[n]? = some msg := by
    rw [← hasked, List.getElem?_append_left hlt, hserved]
  rw [List.getElem?_map] at hget
  obtain ⟨call, hcall, rfl⟩ := Option.map_eq_some_iff.mp hget
  exact ⟨call, hcall, hanswers⟩

/-- The server never leaves the frames. -/
theorem Inv.serverRaw (h : s.Inv debug b) : (s.server.outbound s.replies).raw = [] := by
  have hplain := h.plain
  cases hserver : s.server with
  | bridging g =>
      rw [hserver] at hplain
      cases hplain
  | _ => rfl

/-! ## A call returns -/

theorem getElem?_append_of_some {α : Type} {xs ys : List α} {n : Nat} {x : α}
    (h : xs[n]? = some x) : (xs ++ ys)[n]? = some x := by
  rw [List.getElem?_append_left (List.getElem?_eq_some_iff.mp h).1, h]

/-- More requests and more replies change nothing for a call that has returned. -/
theorem Own.append {asked : List Session.Call} {replies : List Message} {c : Completed}
    (h : Own debug asked replies c) (moreAsked : List Session.Call) (moreReplies : List Message) :
    Own debug (asked ++ moreAsked) (replies ++ moreReplies) c where
  expected := h.expected
  asked n hn := getElem?_append_of_some (h.asked n hn)
  own m hm := by
    obtain ⟨n, hn, hreply, hanswers, hresult⟩ := h.own m hm
    exact ⟨n, hn, getElem?_append_of_some hreply, hanswers, hresult⟩
  failed := h.failed

/-- The call being made returns, or one that could not begin. -/
theorem Inv.returns (h : s.Inv debug b) (client : SessionState) (c : Completed)
    (hrequest : c.request = s.client.pc.number) (hwrite : client.write = s.client.write)
    (hempty : client.broken = none → client.write = [])
    (hdown : Balanced (Codec.decoder b) (Codec.bytesOf b) s.down (s.server.outbound s.replies)
      { handled := (s.taken ++ c.response.toList).length, buffer := client.read.buffer })
    (hlevel : (s.taken ++ c.response.toList).length = s.asked.length ∨ Dry b { s with client })
    (herrored : client.read.errored = true → Dry b { s with client })
    (hown : Own debug s.asked s.replies c) :
    Inv debug b
      { s with client := { client with pc := .ready }, completed := s.completed ++ [c] } := by
  have htaken : (s.completed ++ [c]).filterMap Completed.response
      = s.taken ++ c.response.toList := by
    rw [List.filterMap_append]
    cases hresponse : c.response <;> simp [taken, hresponse]
  have hnumbers : (s.completed ++ [c]).filterMap Completed.request
      = s.numbers ++ s.client.pc.number.toList := by
    rw [List.filterMap_append, ← hrequest]
    cases hreq : c.request <;> simp [numbers, hreq]
  exact {
    client := hempty
    server := h.server
    plain := h.plain
    up := by
      have hup := h.up
      rwa [← hwrite] at hup
    down := by
      show Balanced _ _ _ _ { handled := ((s.completed ++ [c]).filterMap _).length, buffer := _ }
      rw [htaken]
      exact hdown
    served := h.served
    replied := h.replied
    answers := h.answers
    level := hlevel.imp (fun hl => by
      show ((s.completed ++ [c]).filterMap _).length + 0 = _
      rw [htaken]
      exact hl) id
    errored := herrored
    numbered := by
      show (s.completed ++ [c]).filterMap _ ++ [] = _
      rw [List.append_nil, hnumbers]
      exact h.numbered
    completed := by
      intro c' hc'
      rcases List.mem_append.mp hc' with hold | hnew
      · exact h.completed c' hold
      · obtain rfl := List.mem_singleton.mp hnew
        exact hown }

/-- A call returns an error without having taken a message. -/
theorem Inv.returnsError (h : s.Inv debug b) (client : SessionState) {call : Session.Call}
    {request : Option Nat} {e : WolfUsbError} (hrequest : request = s.client.pc.number)
    (hwrite : client.write = s.client.write) (hbuffer : client.read.buffer = s.client.read.buffer)
    (hempty : client.broken = none → client.write = [])
    (hlevel : s.taken.length = s.asked.length ∨ Dry b { s with client })
    (herrored : client.read.errored = true → Dry b { s with client })
    (hcall : ∀ n, request = some n → s.asked[n]? = some call)
    (hexpected : Expected (.error e : Except WolfUsbError Session.Returned)) :
    Inv debug b
      { s with
        client := { client with pc := .ready }
        completed := s.completed ++ [⟨call, request, none, .error e⟩] } := by
  refine h.returns client _ hrequest hwrite hempty ?_ ?_ herrored
    ⟨hexpected, hcall, ?_, fun _ => ⟨e, rfl⟩⟩
  · have hdown := h.down
    rw [← hbuffer] at hdown
    simpa using hdown
  · simpa using hlevel
  · intro m hm
    cases hm

/-- A call takes a message: it is the reply to its request. -/
theorem Inv.returnsMessage (h : s.Inv debug b) {call : Session.Call} {n : Nat} {m : Message}
    {rest : Bytes} (hpc : s.client.pc = .awaiting call n)
    (hdec : Codec.decode b s.client.read.buffer = .item m rest) {read : FramedRead}
    (hread : read.buffer = rest) (herrored : read.errored = false) :
    Inv debug b
      { s with
        client := { s.client with pc := .ready, read }
        completed := s.completed ++ [⟨call, some n, some m, call.result debug m⟩] } := by
  have hok := h.client
  rw [ClientOk, hpc] at hok
  obtain ⟨hbroken, hn, hasked, hwrite⟩ := hok
  obtain ⟨tail, hdrop, -, hdown⟩ := h.down.item h.serverRaw rfl hdec
  -- a stream that yields a message is not dry, so the client is level
  have hlevel : s.taken.length + 1 = s.asked.length := by
    rcases h.level with hlevel | hbroken' | ⟨-, -, hmore⟩
    · rw [Level, hpc] at hlevel
      exact hlevel
    · rw [hbroken] at hbroken'
      cases hbroken'
    · cases hmore.symm.trans hdec
  have hnumber : n = s.taken.length := by omega
  have hreply : s.replies[n]? = some m := by
    rw [ServerPc.outbound_items] at hdrop
    rw [hnumber, ← List.head?_drop, hdrop]
    rfl
  obtain ⟨call', hcall', hanswers⟩ := h.answers_asked hreply
  obtain rfl := Option.some.inj (hasked.symm.trans hcall')
  refine h.returns { s.client with read } ⟨call, some n, some m, call.result debug m⟩
    (by rw [hpc]; rfl) rfl (fun _ => hwrite) ?_ (Or.inl (by simpa using hlevel)) ?_
    ⟨Session.Call.result_expected debug hanswers, ?_, ?_, nofun⟩
  · rw [hread]
    simpa using hdown
  · intro herr
    cases herrored.symm.trans herr
  · intro n' hn'
    obtain rfl := Option.some.inj hn'
    exact hasked
  · intro m' hm'
    obtain rfl := Option.some.inj hm'
    exact ⟨n, rfl, hreply, hanswers, rfl⟩

/-! ## The client's steps -/

theorem atEnd_iff : s.atEnd = true ↔ s.serverLive = false ∧ s.down.pending = [] := by
  simp [atEnd]

/-- A call begins: it fails at once, or its request is on its way. -/
theorem Inv.call (hb : b.RoundTrips) (h : s.Inv debug b) {call : Session.Call}
    (hstep : clientStep (W := W) debug b s (.call call) = some s') : s'.Inv debug b := by
  have hok := h.client
  cases hpc : s.client.pc with
  | ready =>
      have hnumber : (none : Option Nat) = s.client.pc.number := by
        rw [hpc]
        rfl
      have hlevel : s.taken.length = s.asked.length ∨ s.Dry b := by
        have hlevel := h.level
        rwa [Level, hpc] at hlevel
      rw [ClientOk, hpc] at hok
      simp only [clientStep, hpc] at hstep
      cases hbroken : s.client.broken with
      | some source =>
          rw [hbroken] at hstep
          obtain rfl := Option.some.inj hstep
          exact h.returnsError s.client hnumber rfl rfl hok hlevel h.errored nofun nofun
      | none =>
          rw [hbroken] at hstep
          have hwrite := hok hbroken
          rw [hwrite] at hstep
          cases henc : Codec.encode b call.request [] with
          | error e =>
              rw [henc] at hstep
              obtain rfl := Option.some.inj hstep
              have hexpected := Codec.encode_expected b call.request []
              rw [henc] at hexpected
              exact h.returnsError s.client hnumber rfl rfl hok hlevel h.errored nofun
                hexpected.error
          | ok write =>
              rw [henc] at hstep
              obtain rfl := Option.some.inj hstep
              have hup := h.up
              rw [hwrite] at hup
              have hup := hup.send hb henc
              rw [← List.map_singleton, ← List.map_append] at hup
              have hnumbered := h.numbered
              rw [hpc] at hnumbered
              have hdry (hd : s.Dry b) : Dry b
                  { s with
                    client := ⟨.sending call s.asked.length, s.client.read, write, none⟩
                    asked := s.asked ++ [call] } :=
                hd.keep (by rw [hbroken]; exact nofun) id id fun _ => rfl
              exact {
                client := ⟨rfl, by simp, by simp⟩
                server := h.server
                plain := h.plain
                up := hup
                down := h.down
                served := h.served.trans (by simp)
                replied := h.replied
                answers := h.answers
                level := hlevel.imp
                  (fun hl => by
                    show s.taken.length + 1 = (s.asked ++ [call]).length
                    rw [hl, List.length_append, List.length_singleton])
                  hdry
                errored := fun herr => hdry (h.errored herr)
                numbered := by
                  show s.numbers ++ [s.asked.length] = List.range (s.asked ++ [call]).length
                  rw [List.length_append, List.length_singleton, List.range_succ, ← hnumbered]
                  simp [CallPc.number]
                completed := fun c hc => by
                  have hown := (h.completed c hc).append [call] []
                  rwa [List.append_nil] at hown }
  | sending call' n =>
      simp only [clientStep, hpc] at hstep
      cases hstep
  | awaiting call' n =>
      simp only [clientStep, hpc] at hstep
      cases hstep

/-- The next thing the stream yields is the result of the call. -/
theorem Inv.clientNext (h : s.Inv debug b)
    (hstep : clientStep (W := W) debug b s .clientNext = some s') : s'.Inv debug b := by
  have hok := h.client
  cases hpc : s.client.pc with
  | awaiting call n =>
      rw [ClientOk, hpc] at hok
      obtain ⟨hbroken, hn, hasked, hwrite⟩ := hok
      simp only [clientStep, hpc] at hstep
      obtain ⟨⟨next, read⟩, hnext, rfl⟩ := Option.map_eq_some_iff.mp hstep
      have hnumber : some n = s.client.pc.number := by
        rw [hpc]
        rfl
      have hcall : ∀ n', some n = some n' → s.asked[n']? = some call := by
        rintro n' ⟨⟩
        exact hasked
      rcases FramedRead.next_cases hnext with ⟨herr, rfl, rfl⟩ | ⟨m, rest, hdec, rfl, hread, herr⟩ |
        ⟨e, hdec⟩ | ⟨hdec, hend, hread, hyield⟩
      · -- it had yielded an error before, so it was dry
        have hdry : Dry b { s with client := { s.client with
            read := { s.client.read with errored := false } } } :=
          (h.errored herr).keep id id id fun _ => rfl
        exact h.returnsError { s.client with read := { s.client.read with errored := false } }
          hnumber rfl rfl (fun _ => hwrite) (Or.inr hdry) (fun _ => hdry) hcall nofun
      · exact h.returnsMessage hpc hdec hread herr
      · exact absurd hdec (h.down.decode_ne_failed h.serverRaw rfl e)
      · -- the end of the stream
        obtain ⟨hdead, hpending⟩ := atEnd_iff.mp hend
        have hdry : Dry b { s with client := { s.client with read } } :=
          Or.inr ⟨hdead, hpending, by rw [hread]; exact hdec⟩
        rcases hyield with rfl | rfl
        · exact h.returnsError { s.client with read } hnumber rfl hread (fun _ => hwrite)
            (Or.inr hdry) (fun _ => hdry) hcall nofun
        · exact h.returnsError { s.client with read } hnumber rfl hread (fun _ => hwrite)
            (Or.inr hdry) (fun _ => hdry) hcall nofun
  | ready =>
      simp only [clientStep, hpc] at hstep
      cases hstep
  | sending call n =>
      simp only [clientStep, hpc] at hstep
      cases hstep

/-- The socket breaks while a call is being made. -/
theorem Inv.clientFails (h : s.Inv debug b) {source : String}
    (hstep : clientStep (W := W) debug b s (.clientFails source) = some s') : s'.Inv debug b := by
  have hok := h.client
  have hdry : Dry b { s with client := { s.client with broken := some source } } := Or.inl rfl
  cases hpc : s.client.pc with
  | ready =>
      simp only [clientStep, hpc] at hstep
      cases hstep
  | sending call n =>
      rw [ClientOk, hpc] at hok
      simp only [clientStep, hpc] at hstep
      obtain rfl := Option.some.inj hstep
      exact h.returnsError { s.client with broken := some source } (by rw [hpc]; rfl) rfl rfl nofun
        (Or.inr hdry) (fun _ => hdry) (by rintro n' ⟨⟩; exact hok.2.2) nofun
  | awaiting call n =>
      rw [ClientOk, hpc] at hok
      simp only [clientStep, hpc] at hstep
      obtain rfl := Option.some.inj hstep
      exact h.returnsError { s.client with broken := some source } (by rw [hpc]; rfl) rfl rfl nofun
        (Or.inr hdry) (fun _ => hdry) (by rintro n' ⟨⟩; exact hok.2.2.1) nofun

theorem Inv.clientStep (hb : b.RoundTrips) (h : s.Inv debug b) {e : ExchangeEvent W}
    (hstep : clientStep debug b s e = some s') : s'.Inv debug b := by
  have hok := h.client
  cases e with
  | call call => exact h.call hb hstep
  | clientNext => exact h.clientNext hstep
  | clientFails source => exact h.clientFails hstep
  | clientWrite n =>
      cases hpc : s.client.pc with
      | sending call k =>
          rw [ClientOk, hpc] at hok
          simp only [Exchange.clientStep, hpc] at hstep
          obtain rfl := Option.some.inj hstep
          have hup := h.up
          rw [← List.take_append_drop n s.client.write] at hup
          have hlevel := h.level
          have hnumbered := h.numbered
          rw [Level, hpc] at hlevel
          rw [hpc] at hnumbered
          exact { h with client := hok, up := hup.write, level := hlevel, numbered := hnumbered }
      | _ =>
          simp only [Exchange.clientStep, hpc] at hstep
          cases hstep
  | clientSent =>
      cases hpc : s.client.pc with
      | sending call k =>
          rw [ClientOk, hpc] at hok
          simp only [Exchange.clientStep, hpc] at hstep
          split at hstep
          · rename_i hwrite
            obtain rfl := Option.some.inj hstep
            have hlevel := h.level
            have hnumbered := h.numbered
            rw [Level, hpc] at hlevel
            rw [hpc] at hnumbered
            exact { h with
              client := ⟨hok.1, hok.2.1, hok.2.2, hwrite⟩
              level := hlevel
              numbered := hnumbered }
          · cases hstep
      | _ =>
          simp only [Exchange.clientStep, hpc] at hstep
          cases hstep
  | clientRead n =>
      cases hpc : s.client.pc with
      | awaiting call k =>
          rw [ClientOk, hpc] at hok
          simp only [Exchange.clientStep, hpc] at hstep
          split at hstep
          · obtain rfl := Option.some.inj hstep
            have hlevel := h.level
            have hnumbered := h.numbered
            rw [Level, hpc] at hlevel
            rw [hpc] at hnumbered
            have hdry (hd : s.Dry b) : Dry b
                { s with
                  client := { s.client with
                    pc := .awaiting call k
                    read := { s.client.read with
                      buffer := s.client.read.buffer ++ s.down.pending.take n } }
                  down := s.down.read n } := by
              refine hd.keep id id (fun hnone => ?_) fun hnone => ?_
              · simp [Channel.read, hnone]
              · simp [hnone]
            exact { h with
              client := hok
              down := h.down.read n
              level := hlevel.imp id hdry
              errored := fun herr => hdry (h.errored herr)
              numbered := hnumbered }
          · cases hstep
      | _ =>
          simp only [Exchange.clientStep, hpc] at hstep
          cases hstep
  | _ => cases hstep

/-! ## The server's steps -/

theorem prefix_snoc {α : Type} {xs ys : List α} {y : α} (h : xs <+: ys)
    (hy : ys[xs.length]? = some y) : xs ++ [y] <+: ys := by
  obtain ⟨rest, rfl⟩ := h
  rw [List.getElem?_append_right (Nat.le_refl _), Nat.sub_self] at hy
  cases rest with
  | nil => cases hy
  | cons z rest =>
      obtain rfl := Option.some.inj hy
      exact ⟨rest, by simp⟩

section Served

variable {conn : Connection} {f : Framed} {m : Message} {rest : Bytes}

/-- The message a living server decodes is the request after those it has
served. -/
theorem Inv.decoded (hp : b.RefusesPrefixes) (h : s.Inv debug b) (hlive : s.serverLive = true)
    (hserver : s.server = .serving conn f) (hdec : Codec.decode b f.read = .item m rest) :
    s.replies.length = s.served.length ∧ s.served ++ [m] <+: s.asked.map Session.Call.request ∧
      Uplink b s.up (s.asked.map Session.Call.request)
        { handled := s.replies.length + 1, buffer := rest } s.client.write := by
  have hcount : s.replies.length = s.served.length := by
    rcases h.replied with hcount | ⟨-, hdead⟩
    · exact hcount
    · cases hlive.symm.trans hdead
  have hup := h.up
  rw [hserver] at hup
  obtain ⟨hget, hup⟩ := hup.item hp hdec
  rw [ServerPc.inbound_handled, hcount] at hget
  exact ⟨hcount, prefix_snoc h.served hget, hup⟩

/-- The messages served have their replies, with the one served now. -/
theorem Inv.answers_snoc (h : s.Inv debug b) (hcount : s.replies.length = s.served.length)
    {reply : Message} (hreply : Answers m reply) (n : Nat) (m' : Message)
    (hn : (s.replies ++ [reply])[n]? = some m') :
    ∃ msg : Message, (s.served ++ [m])[n]? = some msg ∧ Answers msg m' := by
  by_cases hlt : n < s.replies.length
  · rw [List.getElem?_append_left hlt] at hn
    obtain ⟨msg, hmsg, hanswers⟩ := h.answers n m' hn
    exact ⟨msg, getElem?_append_of_some hmsg, hanswers⟩
  · have hle := Nat.le_of_not_lt hlt
    rw [List.getElem?_append_right hle] at hn
    have hn' := (List.getElem?_eq_some_iff.mp hn).1
    rw [List.length_singleton] at hn'
    have heq : n - s.replies.length = 0 := by omega
    rw [heq] at hn
    obtain rfl := Option.some.inj hn
    refine ⟨m, ?_, hreply⟩
    rw [List.getElem?_append_right (by omega), ← hcount, heq]
    rfl

/-- A server that decodes a message other than Bridge answers it, or its
connection is over. -/
theorem advance_serving {env : ServerEnv W} {r : Option (ServerPc × Option Message)}
    (hdec : Codec.decode b f.read = .item m rest) (hbridge : ∀ req, m ≠ .bridge req)
    (hadv : (ServerPc.serving conn f).advance p b env = some r) :
    r = none ∨ ∃ conn' reply write, Answers m reply ∧ Codec.encode b reply f.write = .ok write ∧
      r = some (.replying conn' ⟨rest, write⟩ none, some reply) := by
  have hanswers := conn.handleMessage_answers p env.join m env.shared
  simp only [ServerPc.advance, hdec] at hadv
  obtain ⟨⟨action, conn', sh'⟩, hm⟩ : ∃ x, conn.handleMessage p env.join m env.shared = x :=
    ⟨_, rfl⟩
  rw [hm] at hadv hanswers
  split at hadv
  · exact Or.inl (Option.some.inj hadv).symm
  · rename_i write henc
    obtain rfl := Option.some.inj hadv
    cases action with
    | reply reply => exact Or.inr ⟨conn', reply, write, hanswers, henc, rfl⟩
    | bridge reply target =>
        obtain ⟨rfl, -⟩ := Connection.handleMessage_bridge p hm
        exact absurd rfl (hbridge _)

/-- The message served is the last: its reply cannot be encoded. -/
theorem Inv.servesLast (h : s.Inv debug b) (hcount : s.replies.length = s.served.length)
    (hserved : s.served ++ [m] <+: s.asked.map Session.Call.request) :
    Inv debug b { s with serverLive := false, served := s.served ++ [m] } := by
  have hdry (hd : s.Dry b) : Dry b { s with serverLive := false, served := s.served ++ [m] } :=
    hd.keep id (fun _ => rfl) id fun _ => rfl
  exact { h with
    served := hserved
    replied := Or.inr ⟨by rw [List.length_append, hcount]; rfl, rfl⟩
    answers := fun n m' hn => by
      obtain ⟨msg, hmsg, hans⟩ := h.answers n m' hn
      exact ⟨msg, getElem?_append_of_some hmsg, hans⟩
    level := h.level.imp id hdry
    errored := fun herr => hdry (h.errored herr) }

/-- The reply to the message served goes into the write buffer. -/
theorem Inv.serves (hb : b.RoundTrips) (h : s.Inv debug b) (hserver : s.server = .serving conn f)
    (hcount : s.replies.length = s.served.length)
    (hserved : s.served ++ [m] <+: s.asked.map Session.Call.request)
    (hup : Uplink b s.up (s.asked.map Session.Call.request)
      { handled := s.replies.length + 1, buffer := rest } s.client.write)
    {conn' : Connection} {reply : Message} {write : Bytes} (hanswers : Answers m reply)
    (henc : Codec.encode b reply f.write = .ok write) (hfits : Codec.Fits b reply) :
    Inv debug b
      { s with
        server := .replying conn' ⟨rest, write⟩ none
        served := s.served ++ [m]
        replies := s.replies ++ [reply] } := by
  have hwrite : f.write = [] := by
    have hok := h.server
    rwa [hserver] at hok
  rw [hwrite] at henc
  have hdown := h.down
  rw [hserver] at hdown
  have hframe := Codec.frameOf_of_encode b hb hfits henc
  rw [← Codec.bytesOf_of_encode b henc] at hframe
  have hdown := hdown.send rfl hwrite hframe
  rw [Codec.bytesOf_of_encode b henc] at hdown
  have hlength : (s.replies ++ [reply]).length = s.replies.length + 1 := List.length_append
  rw [← hlength] at hup
  exact { h with
    server := nofun
    plain := rfl
    up := hup
    down := hdown
    served := hserved
    replied := Or.inl (by rw [List.length_append, List.length_append, hcount]; rfl)
    answers := h.answers_snoc hcount hanswers
    completed := fun c hc => by
      have hown := (h.completed c hc).append [] [reply]
      rwa [List.append_nil] at hown }

end Served

/-- The connection ends without having decoded a message. -/
theorem Inv.ends (h : s.Inv debug b) : Inv debug b { s with serverLive := false } := by
  have hdry (hd : s.Dry b) : Dry b { s with serverLive := false } :=
    hd.keep id (fun _ => rfl) id fun _ => rfl
  exact { h with
    replied := h.replied.imp id fun hr => ⟨hr.1, rfl⟩
    level := h.level.imp id hdry
    errored := fun herr => hdry (h.errored herr) }

theorem Inv.serverAdvance (hb : b.RoundTrips) (hp : b.RefusesPrefixes) (h : s.Inv debug b)
    (hlive : s.serverLive = true) {env : ServerEnv W}
    (hstep : serverStep p b s (.server env) = some s') (hfits : ∀ m ∈ s'.replies, Codec.Fits b m) :
    s'.Inv debug b := by
  obtain ⟨r, hadv, rfl⟩ := Option.map_eq_some_iff.mp hstep
  have hplain := h.plain
  obtain ⟨pc, hserver⟩ : ∃ pc, s.server = pc := ⟨_, rfl⟩
  cases pc with
  | serving conn f =>
      cases hdec : Codec.decode b f.read with
      | more =>
          rw [hserver] at hadv
          simp only [ServerPc.advance, hdec] at hadv
          cases hadv
      | failed e =>
          have hheard : heard b s.server = none := by
            simp only [hserver, heard, hdec]
          rw [hserver] at hadv
          simp only [ServerPc.advance, hdec] at hadv
          obtain rfl := Option.some.inj hadv
          simp only [hheard, Option.toList_none, List.append_nil]
          exact h.ends
      | item m rest =>
          have hheard : heard b s.server = some m := by
            simp only [hserver, heard, hdec]
          obtain ⟨hcount, hserved, hup⟩ := h.decoded hp hlive hserver hdec
          have hbridge : ∀ req, m ≠ .bridge req := by
            rintro req rfl
            have hmem : .bridge req ∈ s.asked.map Session.Call.request :=
              hserved.subset (List.mem_append_right _ (List.mem_singleton_self _))
            obtain ⟨call, -, hcall⟩ := List.mem_map.mp hmem
            exact call.request_ne_bridge req hcall
          rw [hserver] at hadv
          rcases advance_serving hdec hbridge hadv with
            rfl | ⟨conn', reply, write, hanswers, henc, rfl⟩
          · simp only [hheard, Option.toList_some]
            exact h.servesLast hcount hserved
          · simp only [hheard, Option.toList_some] at hfits ⊢
            exact h.serves hb hserver hcount hserved hup hanswers henc
              (hfits reply (List.mem_append_right _ (List.mem_singleton_self _)))
  | replying conn f target =>
      have hheard : heard b s.server = none := by
        rw [hserver]
        rfl
      rw [hserver] at hplain hadv
      simp only [ServerPc.advance] at hadv
      split at hadv
      · rename_i hwrite
        cases target with
        | some target => cases hplain
        | none =>
            obtain rfl := Option.some.inj hadv
            simp only [hheard, Option.toList_none, List.append_nil]
            have hup := h.up
            have hdown := h.down
            rw [hserver] at hup hdown
            exact { h with server := hwrite, plain := rfl, up := hup, down := hdown }
      · cases hadv
  | switching f target =>
      rw [hserver] at hplain
      cases hplain
  | bridging g =>
      rw [hserver] at hplain
      cases hplain

theorem Inv.serverStep (hb : b.RoundTrips) (hp : b.RefusesPrefixes) (h : s.Inv debug b)
    (hlive : s.serverLive = true) {e : ExchangeEvent W} (hstep : serverStep p b s e = some s')
    (hfits : ∀ m ∈ s'.replies, Codec.Fits b m) : s'.Inv debug b := by
  cases e with
  | server env => exact h.serverAdvance hb hp hlive hstep hfits
  | serverFails =>
      obtain rfl := Option.some.inj hstep
      exact h.ends
  | serverRead n =>
      obtain ⟨server, hread, rfl⟩ := Option.map_eq_some_iff.mp hstep
      obtain ⟨hok, hoff, hout, hin⟩ := ServerPc.books_receive s.replies hread h.server
      have hup := h.up.read n
      rw [← hin] at hup
      have hdown := h.down
      rw [← hout] at hdown
      exact { h with server := hok, plain := hoff.trans h.plain, up := hup, down := hdown }
  | serverWrite n =>
      obtain ⟨⟨bytes, server⟩, hwrite, rfl⟩ := Option.map_eq_some_iff.mp hstep
      obtain ⟨hok, hoff, hin, hout⟩ := ServerPc.books_write s.replies hwrite h.server
      have hup := h.up
      rw [← hin] at hup
      have hdown := h.down
      rw [hout] at hdown
      have hdry (hd : s.Dry b) : Dry b { s with server, down := s.down.write bytes } := by
        rcases hd with hbroken | ⟨hdead, -⟩
        · exact Or.inl hbroken
        · cases hlive.symm.trans hdead
      exact { h with
        server := hok
        plain := hoff.trans h.plain
        up := hup
        down := hdown.write
        level := h.level.imp id hdry
        errored := fun herr => hdry (h.errored herr) }
  | _ => cases hstep

/-! ## Runs -/

/-- What the client does leaves the server as it is. -/
theorem clientStep_keeps {e : ExchangeEvent W} (hstep : clientStep debug b s e = some s') :
    s'.serverLive = s.serverLive ∧ s'.served = s.served ∧ s'.replies = s.replies ∧
      s'.down.written = s.down.written := by
  unfold clientStep at hstep
  split at hstep
  · split at hstep
    · split at hstep
      · obtain rfl := Option.some.inj hstep
        exact ⟨rfl, rfl, rfl, rfl⟩
      · split at hstep
        · obtain rfl := Option.some.inj hstep
          exact ⟨rfl, rfl, rfl, rfl⟩
        · obtain rfl := Option.some.inj hstep
          exact ⟨rfl, rfl, rfl, rfl⟩
    · cases hstep
  · split at hstep
    · obtain rfl := Option.some.inj hstep
      exact ⟨rfl, rfl, rfl, rfl⟩
    · cases hstep
  · split at hstep
    · split at hstep
      · obtain rfl := Option.some.inj hstep
        exact ⟨rfl, rfl, rfl, rfl⟩
      · cases hstep
    · cases hstep
  · split at hstep
    · obtain rfl := Option.some.inj hstep
      exact ⟨rfl, rfl, rfl, Channel.written_read _ _⟩
    · cases hstep
  · split at hstep
    · obtain ⟨_, _, rfl⟩ := Option.map_eq_some_iff.mp hstep
      exact ⟨rfl, rfl, rfl, rfl⟩
    · cases hstep
  · split at hstep
    · cases hstep
    · obtain rfl := Option.some.inj hstep
      exact ⟨rfl, rfl, rfl, rfl⟩
    · obtain rfl := Option.some.inj hstep
      exact ⟨rfl, rfl, rfl, rfl⟩
  · cases hstep

theorem serverStep_replies {e : ExchangeEvent W} (hstep : serverStep p b s e = some s') :
    s.replies <+: s'.replies := by
  cases e with
  | server env =>
      obtain ⟨r, -, rfl⟩ := Option.map_eq_some_iff.mp hstep
      cases r with
      | none => exact List.prefix_refl _
      | some r => exact List.prefix_append _ _
  | serverRead n =>
      obtain ⟨_, _, rfl⟩ := Option.map_eq_some_iff.mp hstep
      exact List.prefix_refl _
  | serverWrite n =>
      obtain ⟨_, _, rfl⟩ := Option.map_eq_some_iff.mp hstep
      exact List.prefix_refl _
  | serverFails =>
      obtain rfl := Option.some.inj hstep
      exact List.prefix_refl _
  | _ => cases hstep

/-- A step is the client's, or that of a living server. -/
theorem step_cases {e : ExchangeEvent W} (hstep : s.step p debug b e = some s') :
    clientStep debug b s e = some s' ∨ s.serverLive = true ∧ serverStep p b s e = some s' := by
  unfold Exchange.step at hstep
  split at hstep
  case h_5 => exact Or.inl hstep
  all_goals
    split at hstep
    · rename_i hlive
      exact Or.inr ⟨hlive, hstep⟩
    · cases hstep

theorem step_replies {e : ExchangeEvent W} (hstep : s.step p debug b e = some s') :
    s.replies <+: s'.replies := by
  rcases step_cases hstep with hclient | ⟨-, hserver⟩
  · rw [(clientStep_keeps hclient).2.2.1]
  · exact serverStep_replies hserver

/-- **A step keeps the two sides in step**, if no reply it makes is of 4
GiB or more. -/
theorem Inv.step (hb : b.RoundTrips) (hp : b.RefusesPrefixes) (h : s.Inv debug b)
    {e : ExchangeEvent W} (hstep : s.step p debug b e = some s')
    (hfits : ∀ m ∈ s'.replies, Codec.Fits b m) : s'.Inv debug b := by
  rcases step_cases hstep with hclient | ⟨hlive, hserver⟩
  · exact h.clientStep hb hclient
  · exact h.serverStep hb hp hlive hserver hfits

end Exchange

/-! ## In step -/

/-- **The two sides are in step.** The server has served the requests in
their order, and made one reply for each, unless that to the last could
not be encoded and the connection is over. What it has sent are the frames
of the replies, in order, and all of them where it waits for the next
request; when it is over it sends no more. Each reply answers the request
with its number, with the ids of that request. Each call that has returned
and had its request encoded has a number of its own, and took the reply
with that number or none; what it made of it is never that the message was
unexpected. -/
structure InStep {W : Type} (p : Platform W) (debug : Message → String) (b : Bincode)
    (s : Exchange) : Prop where
  served : s.served <+: s.asked.map Session.Call.request
  replied : s.replies.length = s.served.length ∨
    s.replies.length + 1 = s.served.length ∧ s.serverLive = false
  sending : s.down.written <+: stream (Codec.bytesOf b) s.replies
  sent : ∀ conn f, s.server = .serving conn f → s.down.written = stream (Codec.bytesOf b) s.replies
  closed : s.serverLive = false → ∀ e s', s.step p debug b e = some s' →
    s'.serverLive = false ∧ s'.served = s.served ∧ s'.replies = s.replies ∧
      s'.down.written = s.down.written
  answers : ∀ (n : Nat) (m : Message), s.replies[n]? = some m →
    ∃ call : Session.Call, s.asked[n]? = some call ∧ Answers call.request m
  numbered : s.numbers ++ s.client.pc.number.toList = List.range s.asked.length
  completed : ∀ c ∈ s.completed, Exchange.Own debug s.asked s.replies c

theorem Exchange.Inv.inStep {W : Type} {p : Platform W} {debug : Message → String} {b : Bincode}
    {s : Exchange} (h : s.Inv debug b) : InStep p debug b s where
  served := h.served
  replied := h.replied
  sending := by
    have hwritten := h.down.written
    rw [h.serverRaw, List.append_nil, ServerPc.outbound_items] at hwritten
    exact ⟨_, hwritten⟩
  sent conn f hserver := by
    have hok := h.server
    have hwritten := h.down.written
    rw [h.serverRaw, List.append_nil, ServerPc.outbound_items, hserver] at hwritten
    rw [hserver] at hok
    have hwrite : f.write = [] := hok
    rwa [ServerPc.outbound, hwrite, List.append_nil] at hwritten
  closed hdead e s' hstep := by
    rcases Exchange.step_cases hstep with hclient | ⟨hlive, -⟩
    · obtain ⟨hlive, hserved, hreplies, hwritten⟩ := Exchange.clientStep_keeps hclient
      exact ⟨hlive.trans hdead, hserved, hreplies, hwritten⟩
    · cases hdead.symm.trans hlive
  answers _ _ hm := h.answers_asked hm
  numbered := h.numbered
  completed := h.completed

/-- **Requests and replies stay in step**, in every run of a connected
session against `Connection::run`: for every connection it may be on,
every call it may make, every shared state the messages are handled with,
every way the sockets may fail and every order of the steps. No reply may
be of 4 GiB or more: `encode` writes such a length truncated. -/
theorem requests_and_replies_in_step {W : Type} (p : Platform W) (debug : Message → String)
    (b : Bincode) (hb : b.RoundTrips) (hp : b.RefusesPrefixes) (conn : Connection)
    {es : List (ExchangeEvent W)} {s : Exchange}
    (hrun : Run (Guarded fun s e => Exchange.step p debug b s e) (.start conn) es s)
    (hfits : ∀ m ∈ s.replies, Codec.Fits b m) : InStep p debug b s := by
  have hinv : (∀ m ∈ s.replies, Codec.Fits b m) → s.Inv debug b := by
    refine hrun.preserves (I := fun s => (∀ m ∈ s.replies, Codec.Fits b m) → s.Inv debug b) ?_
      fun _ => Exchange.inv_start conn
    intro s e s' h hstep hfits
    have hmore := (Exchange.step_replies hstep).subset
    exact (h fun m hm => hfits m (hmore hm)).step hb hp hstep hfits
  exact (hinv hfits).inStep

namespace Exchange

variable {W : Type} {p : Platform W} {debug : Message → String} {b : Bincode} {s s' : Exchange}

/-- The task of the handler is not lost, or its error is short. -/
def ShortJoins : ExchangeEvent W → Prop
  | .server env => ShortJoin env.join
  | _ => True

/-- A reply the server puts in its write buffer weighs less than 4 GiB. -/
theorem advance_bounded (hw : p.WithinUsb) {env : ServerEnv W} (hjoin : ShortJoin env.join)
    {server : ServerPc} {r : ServerPc × Option Message}
    (hadv : server.advance p b env = some (some r)) : ∀ m ∈ r.2, m.Bounded := by
  have hnone : ∀ m ∈ (none : Option Message), m.Bounded := by
    intro m hm
    cases hm
  cases server with
  | serving conn f =>
      cases hdec : Codec.decode b f.read with
      | more =>
          simp only [ServerPc.advance, hdec] at hadv
          cases hadv
      | failed e =>
          simp only [ServerPc.advance, hdec] at hadv
          cases hadv
      | item m rest =>
          have hbounded := Connection.handleMessage_bounded hw hjoin conn m env.shared
          simp only [ServerPc.advance, hdec] at hadv
          split at hadv
          · cases hadv
          · obtain rfl := Option.some.inj (Option.some.inj hadv)
            rintro m' hm'
            obtain rfl := Option.some.inj hm'
            exact hbounded
  | replying conn f target =>
      simp only [ServerPc.advance] at hadv
      split at hadv
      · cases target with
        | none =>
            obtain rfl := Option.some.inj (Option.some.inj hadv)
            exact hnone
        | some target =>
            obtain rfl := Option.some.inj (Option.some.inj hadv)
            exact hnone
      · cases hadv
  | switching f target =>
      obtain rfl := Option.some.inj (Option.some.inj hadv)
      exact hnone
  | bridging g =>
      obtain ⟨g', -, hg⟩ := Option.map_eq_some_iff.mp hadv
      obtain rfl := Option.some.inj hg
      exact hnone

/-- **A step makes no reply of 4 GiB or more.** -/
theorem step_bounded (hw : p.WithinUsb) {e : ExchangeEvent W} (hjoin : ShortJoins e)
    (hstep : s.step p debug b e = some s') (h : ∀ m ∈ s.replies, m.Bounded) :
    ∀ m ∈ s'.replies, m.Bounded := by
  rcases step_cases hstep with hclient | ⟨-, hserver⟩
  · rwa [(clientStep_keeps hclient).2.2.1]
  · cases e with
    | server env =>
        obtain ⟨r, hadv, rfl⟩ := Option.map_eq_some_iff.mp hserver
        cases r with
        | none => exact h
        | some r =>
            intro m hm
            rcases List.mem_append.mp hm with hold | hnew
            · exact h m hold
            · exact advance_bounded hw hjoin hadv m (Option.mem_toList.mp hnew)
    | serverRead n =>
        obtain ⟨_, _, rfl⟩ := Option.map_eq_some_iff.mp hserver
        exact h
    | serverWrite n =>
        obtain ⟨_, _, rfl⟩ := Option.map_eq_some_iff.mp hserver
        exact h
    | serverFails =>
        obtain rfl := Option.some.inj hserver
        exact h
    | _ => cases hserver

/-- No reply of a run is of 4 GiB or more. -/
theorem replies_bounded (hw : p.WithinUsb) (conn : Connection) {es : List (ExchangeEvent W)}
    (hrun : Run (Guarded fun s e => Exchange.step p debug b s e) (.start conn) es s)
    (hjoin : ∀ e ∈ es, ShortJoins e) : ∀ m ∈ s.replies, m.Bounded := by
  have hstart : ∀ m ∈ (Exchange.start conn).replies, m.Bounded := by
    intro m hm
    cases hm
  exact hrun.preserves_along (I := fun s => ∀ m ∈ s.replies, m.Bounded)
    (fun _ _ _ h hj hstep => step_bounded hw hj hstep h) (.of_forall hjoin) hstart

end Exchange

/-- **A session and its server stay in step**, in every run as above. The
encoder and libusb keep to their documented sizes, and the error of a lost
task is short. -/
theorem session_and_server_in_step {W : Type} (p : Platform W) (debug : Message → String)
    (b : Bincode) (hb : b.RoundTrips) (hp : b.RefusesPrefixes) (hsize : b.Proportionate)
    (hw : p.WithinUsb) (conn : Connection) {es : List (ExchangeEvent W)} {s : Exchange}
    (hrun : Run (Guarded fun s e => Exchange.step p debug b s e) (.start conn) es s)
    (hjoin : ∀ e ∈ es, Exchange.ShortJoins e) : InStep p debug b s :=
  requests_and_replies_in_step p debug b hb hp conn hrun fun m hm =>
    (Exchange.replies_bounded hw conn hrun hjoin m hm).fits hsize

/-! ## A run -/

theorem twoDeviceHost_withinUsb : twoDeviceHost.WithinUsb where
  devices w ds h := by
    cases h
    decide
  configs device index w c h := by
    cases h
    decide
  strings handle index w s h := by cases h
  errors e := by
    exact Nat.le_trans (utf8ByteSize_le "error") (by decide)
  tags key m := Nat.zero_le _

/-- A step of a server without attachments on a host with two devices. -/
def twoDeviceStep : ExchangeEvent Nat :=
  .server {
    shared := ⟨.new, ⟨0, []⟩⟩
    bridge := { request := none }
    device := ⟨.normal, false, 1⟩
    info := ⟨"1-4", 1, 2, 3, 0x46d, 0xc52b, 0x100, 0, 0, 0, 1, 1, 1⟩ }

/-- A call and its reply, some of the pieces cut short. -/
def exchanged (call : Session.Call) : List (ExchangeEvent Nat) :=
  [.call call, .clientWrite 3, .clientWrite 1000, .clientSent, .serverRead 1000, twoDeviceStep,
    .serverWrite 1000, twoDeviceStep, .clientRead 2, .clientRead 1000, .clientNext]

/-- An Attach, a claim that is refused, and two calls after the server is gone. -/
def refusedAndCutOff : List (ExchangeEvent Nat) :=
  exchanged (.attach ⟨1, 2⟩) ++ exchanged (.claimInterface 7 ⟨1, 2⟩ 0) ++
  [.call .listDevices, .clientWrite 1000, .clientSent, .serverFails, .clientNext,
    .call (.attach ⟨1, 3⟩), .clientWrite 1000, .clientSent, .clientNext]

theorem requests_and_replies_in_step_cut_off :
    ∃ s, Run (Guarded fun s e => Exchange.step twoDeviceHost (fun _ => "") .standard s e)
        (.start (.new .plain ⟨"10.0.0.1", 4000⟩ none)) refusedAndCutOff s ∧
      s.completed.map Completed.result =
        [.ok (.session 1), .error (.protocolError "Invalid session"), .error .connectionClosed,
          .error .connectionClosed] ∧
      InStep twoDeviceHost (fun _ => "") .standard s := by
  have hplay : (play (fun s e => Exchange.step twoDeviceHost (fun _ => "") .standard s e)
      (.start (.new .plain ⟨"10.0.0.1", 4000⟩ none)) refusedAndCutOff).map
        (fun s => s.completed.map Completed.result) =
      some [.ok (.session 1), .error (.protocolError "Invalid session"), .error .connectionClosed,
        .error .connectionClosed] := by
    decide +kernel
  obtain ⟨s, hplay, hresults⟩ := Option.map_eq_some_iff.mp hplay
  have hrun := play_iff_run.mp hplay
  have hjoin : ∀ e ∈ refusedAndCutOff, Exchange.ShortJoins e := by
    simp [refusedAndCutOff, exchanged, twoDeviceStep, Exchange.ShortJoins, ShortJoin]
  exact ⟨s, hrun, hresults, session_and_server_in_step twoDeviceHost (fun _ => "") .standard
    Bincode.standard_roundTrips Bincode.standard_refusesPrefixes Bincode.standard_proportionate
    twoDeviceHost_withinUsb _ hrun hjoin⟩

end WolfUsb
