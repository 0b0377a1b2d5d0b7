/-
WolfUsb.Network.ModeSwitchTheorems — the switch from frames to USB/IP
loses no byte.

Each direction of the stream is frames first and raw bytes after them.
`Switchover.Inv` says that both directions are balanced by the books of
the two sides. From the books follows what a buffer can hold. A server that decodes a
Bridge request has not answered it, so the client has written no more; a
client that decodes BridgeAccepted has not sent its 40 bytes, so the
server, which waits for them, has written no more. The buffers are empty
there, and no side reads before it has dropped its codec.
-/
import WolfUsb.Lib.Runs
import WolfUsb.Network.HandshakeSizes
import WolfUsb.Network.ModeSwitchBooks
import WolfUsb.Server.ReplyTheorems

namespace WolfUsb

open WolfUsb.Lib

variable {W : Type}

/-! ## Replies -/

/-- BridgeAccepted is sent with a hand-off only. -/
theorem Connection.reply_ne_bridgeAccepted {p : Platform W} {join : Option String}
    {conn conn' : Connection} {msg reply : Message} {sh sh' : Shared W}
    (h : conn.handleMessage p join msg sh = (.reply reply, conn', sh'))
    (resp : BridgeAcceptedResponse) : reply ≠ .bridgeAccepted resp := by
  rintro rfl
  have hans := conn.handleMessage_answers p join msg sh
  rw [h] at hans
  cases msg with
  | bridge req =>
      unfold handleMessage at h
      dsimp only at h
      split at h
      · cases h
      · have haction : (handleBridge p join req sh).1 = .reply (.bridgeAccepted resp) :=
          congrArg Prod.fst h
        rcases handleBridge_action p join req sh with ⟨r, hr⟩ | ⟨device, -, -, hr⟩
        · cases hr.symm.trans haction
        · cases hr.symm.trans haction
  | _ => exact False.elim hans

/-! ## The invariant -/

namespace Switchover

variable (p : Platform W) (debug : Message → String) (b : Bincode) (key : Option Bytes)
  (authNonce : Vector UInt8 32) (bus addr : UInt8)

structure Inv (s : Switchover) : Prop where
  client : s.client.Ok
  server : s.server.Ok
  up : Balanced (Codec.decoder b) (Codec.bytesOf b) s.up
    (s.client.outbound p key authNonce bus addr) (s.server.inbound s.replies)
  down : Balanced (Codec.decoder b) (Codec.bytesOf b) s.down
    (s.server.outbound s.replies) s.client.inbound
  handedOff : s.server.handsOff = true → s.replies.length = 2
  serving : s.server.handsOff = false → ∀ resp, .bridgeAccepted resp ∉ s.replies
  accepted : s.client.inbound.handled = 2 → ∃ resp, .bridgeAccepted resp ∈ s.replies

theorem inv_start (peerAddr : SocketAddr) (sharedKey : Option Bytes) :
    (start peerAddr sharedKey).Inv p b key authNonce bus addr where
  client := trivial
  server := rfl
  up := ⟨rfl, rfl, Nat.zero_le _, fun _ h => nomatch h⟩
  down := ⟨rfl, rfl, Nat.zero_le _, fun _ h => nomatch h⟩
  handedOff h := nomatch h
  serving _ _ h := nomatch h
  accepted h := nomatch h

variable {p debug b key authNonce bus addr}

theorem clientItems_le (pc : ClientPc) : (pc.outbound p key authNonce bus addr).items.length ≤ 2 := by
  cases pc <;> simp [ClientPc.outbound]

section Quiet

variable {s : Switchover} (h : s.Inv p b key authNonce bus addr)
include h

/-- The server sends raw bytes after it has read the 40 raw bytes of the
client, which the client sends after it has switched. -/
theorem Inv.raw_nil (hclient : s.client.inbound.handled ≠ 2) :
    (s.client.outbound p key authNonce bus addr).raw = [] ∧
      (s.server.outbound s.replies).raw = [] := by
  have hcraw : (s.client.outbound p key authNonce bus addr).raw = [] := by
    cases hpc : s.client with
    | start => rfl
    | sendHello f => rfl
    | awaitHello f => rfl
    | sendBridge f => rfl
    | awaitBridge f => rfl
    | _ =>
        rw [hpc] at hclient
        exact absurd rfl hclient
  refine ⟨hcraw, ?_⟩
  cases hserver : s.server with
  | bridging g =>
      have hok : g.Ok := by
        have := h.server
        rwa [hserver] at this
      have hup := h.up
      rw [hserver] at hup
      have htwo := h.handedOff (by rw [hserver]; rfl)
      have hall : (ServerPc.inbound s.replies (.bridging g)).handled
          = (s.client.outbound p key authNonce bus addr).items.length :=
        Nat.le_antisymm hup.handled_le (Nat.le_trans (clientItems_le _) (Nat.le_of_eq htwo.symm))
      obtain ⟨hbuffer, -⟩ := hup.quiet hall hcraw
      obtain ⟨hreq, -⟩ := List.append_eq_nil_iff.mp hbuffer
      by_cases hreply : g.reply = []
      · show g.reply ++ g.sent = []
        rw [hreply, (hok.unmade hreply).2.1]
        rfl
      · have hlen := (hok.made hreply).1
        rw [hreq] at hlen
        cases hlen
  | _ => rfl

/-- The client sends no raw byte to a server that has accepted no bridge. -/
theorem Inv.clientRaw_nil (hserver : s.server.handsOff = false) :
    (s.client.outbound p key authNonce bus addr).raw = [] := by
  by_cases hclient : s.client.inbound.handled = 2
  · obtain ⟨resp, hresp⟩ := h.accepted hclient
    exact absurd hresp (h.serving hserver resp)
  · exact (h.raw_nil hclient).1

/-- Nothing follows what the server answers to the Bridge request: it has
sent no more than its answers to the two messages of the client. -/
theorem Inv.answer_last {f : Framed} (hclient : s.client = .awaitBridge f) {m : Message}
    {rest : Bytes} (hdec : (Codec.decoder b).decode f.read = .item m rest) :
    rest = [] ∧ m ∈ s.replies ∧
      Balanced (Codec.decoder b) (Codec.bytesOf b) s.down (s.server.outbound s.replies)
        { handled := 2, buffer := rest } := by
  have hraw : (s.server.outbound s.replies).raw = [] := (h.raw_nil (by rw [hclient]; nofun)).2
  have hdown := h.down
  rw [hclient] at hdown
  obtain ⟨tail, hdrop, hleft, hread⟩ := hdown.item hraw rfl hdec
  have hdrop : s.replies.drop 1 = m :: tail := by
    rw [← ServerPc.outbound_items s.server s.replies]
    exact hdrop
  have htwo : s.replies.length ≤ 2 := by
    rw [← ServerPc.inbound_handled s.server s.replies]
    exact Nat.le_trans h.up.handled_le (clientItems_le _)
  have htail : tail = [] := by
    have hlen := congrArg List.length hdrop
    rw [List.length_drop, List.length_cons] at hlen
    exact List.eq_nil_of_length_eq_zero (by omega)
  have hrest : rest = [] := by
    rw [htail] at hleft
    exact (List.append_eq_nil_iff.mp hleft).1
  exact ⟨hrest, List.mem_of_mem_drop (hdrop ▸ List.mem_cons_self), hread⟩

end Quiet

/-! ## The client goes on -/

theorem send_eq_some {m : Message} {f : Framed} {next : Framed → ClientPc} {pc : ClientPc}
    (h : ClientPc.send b m f next = some pc) (hwrite : f.write = []) :
    ∃ bytes, Codec.encode b m [] = .ok bytes ∧ pc = next { f with write := bytes } := by
  rw [ClientPc.send, hwrite] at h
  split at h
  · cases h
  · rename_i bytes henc
    exact ⟨bytes, henc, (Option.some.inj h).symm⟩

/-- A side whose write buffer is empty encodes a small message into it. -/
theorem balanced_encode (hb : b.RoundTrips) (hc : b.Compact) {c : Channel UInt8}
    {sender : Outbound UInt8 Message} {receiver : Inbound UInt8}
    (h : Balanced (Codec.decoder b) (Codec.bytesOf b) c sender receiver) (hraw : sender.raw = [])
    (hunsent : sender.unsent = []) {m : Message} (hsmall : m.Small) {bytes : Bytes}
    (henc : Codec.encode b m [] = .ok bytes) :
    Balanced (Codec.decoder b) (Codec.bytesOf b) c
      { sender with items := sender.items ++ [m], unsent := bytes } receiver := by
  have hbytes : Codec.bytesOf b m = bytes := Codec.bytesOf_of_encode b henc
  have hframe : (Codec.decoder b).FrameOf m (Codec.bytesOf b m) := by
    rw [hbytes]
    exact frameOf_of_small hb hc hsmall henc
  have hsent := h.send hraw hunsent hframe
  rwa [hbytes] at hsent

theorem sendBridge_ok {m : Message} {busid : String}
    (h : Mount.sendBridge debug (.ok ()) (some (.ok m)) = .ok busid) :
    ∃ resp, m = .bridgeAccepted resp := by
  cases m with
  | bridgeAccepted resp => exact ⟨resp, rfl⟩
  | _ => cases h

theorem Inv.clientAdvance (hb : b.RoundTrips) (hc : b.Compact) (htags : ShortTags p)
    {s : Switchover} (h : s.Inv p b key authNonce bus addr) {pc : ClientPc}
    (hadv : s.client.advance p debug b key authNonce bus addr = some (some pc)) :
    ({ s with client := pc } : Switchover).Inv p b key authNonce bus addr := by
  obtain ⟨client, clientLive, server, serverLive, up, down, replies⟩ := s
  cases client with
  | start =>
      obtain ⟨bytes, henc, rfl⟩ := send_eq_some (Option.some.inj hadv) rfl
      have hup := balanced_encode hb hc h.up rfl rfl (helloMessage_small htags key authNonce) henc
      exact ⟨trivial, h.server, hup, h.down, h.handedOff, h.serving, nofun⟩
  | sendHello f =>
      simp only [ClientPc.advance] at hadv
      split at hadv
      · rename_i hwrite
        cases hadv
        exact ⟨hwrite, h.server, h.up, h.down, h.handedOff, h.serving, nofun⟩
      · cases hadv
  | awaitHello f =>
      simp only [ClientPc.advance] at hadv
      split at hadv
      · cases hadv
      · cases hadv
      · rename_i m rest hdec
        split at hadv
        · cases hadv
        · obtain ⟨bytes, henc, rfl⟩ := send_eq_some (Option.some.inj hadv) h.client
          have hup := balanced_encode hb hc h.up rfl h.client (bridgeRequest_small bus addr) henc
          obtain ⟨tail, -, -, hdown⟩ := h.down.item (h.raw_nil nofun).2 rfl hdec
          exact ⟨trivial, h.server, hup, hdown, h.handedOff, h.serving, nofun⟩
  | sendBridge f =>
      simp only [ClientPc.advance] at hadv
      split at hadv
      · rename_i hwrite
        cases hadv
        exact ⟨hwrite, h.server, h.up, h.down, h.handedOff, h.serving, nofun⟩
      · cases hadv
  | awaitBridge f =>
      simp only [ClientPc.advance] at hadv
      split at hadv
      · cases hadv
      · cases hadv
      · rename_i m rest hdec
        split at hadv
        · cases hadv
        · rename_i busid hbusid
          cases hadv
          obtain ⟨resp, rfl⟩ := sendBridge_ok hbusid
          obtain ⟨hrest, hmem, hdown⟩ := h.answer_last rfl hdec
          exact ⟨⟨hrest, h.client⟩, h.server, h.up, hdown, h.handedOff, h.serving,
            fun _ => ⟨resp, hmem⟩⟩
  | switching f busid =>
      simp only [ClientPc.advance] at hadv
      split at hadv
      · cases hadv
      · rename_i req hreq
        cases hadv
        obtain ⟨read, write⟩ := f
        obtain ⟨rfl, rfl⟩ := h.client
        exact ⟨hreq, h.server, h.up.owe (List.nil_append req).symm (List.nil_append req).symm,
          h.down, h.handedOff, h.serving, h.accepted⟩
  | sendImport busid req unsent =>
      simp only [ClientPc.advance] at hadv
      split at hadv
      · rename_i hunsent
        subst hunsent
        cases hadv
        exact ⟨⟨h.client, Nat.zero_le _⟩, h.server, h.up, h.down, h.handedOff, h.serving,
          h.accepted⟩
      · cases hadv
  | readHeader busid req hdr =>
      simp only [ClientPc.advance] at hadv
      split at hadv
      · rename_i hlen
        split at hadv
        · cases hadv
        · cases hadv
          have hin : (ClientPc.readDevice req hdr []).inbound
              = (ClientPc.readHeader busid req hdr).inbound := by
            simp only [ClientPc.inbound, List.append_nil]
          exact ⟨⟨⟨busid, h.client.1⟩, hlen, Nat.zero_le _⟩, h.server, h.up, hin ▸ h.down,
            h.handedOff, h.serving, h.accepted⟩
      · cases hadv
  | readDevice req hdr dev =>
      simp only [ClientPc.advance] at hadv
      split at hadv
      · rename_i hlen
        cases hadv
        obtain ⟨hreq, hhdr, -⟩ := h.client
        have hrep : (hdr ++ dev).length = 320 := by
          rw [List.length_append, hhdr, hlen]
        exact ⟨⟨hreq, hrep⟩, h.server, h.up, h.down, h.handedOff, h.serving, h.accepted⟩
      · cases hadv
  | attaching req rep =>
      cases hadv
      have hout : (ClientPc.handed req rep [] []).outbound p key authNonce bus addr
          = (ClientPc.attaching req rep).outbound p key authNonce bus addr := by
        simp only [ClientPc.outbound, List.append_nil]
      have hin : (ClientPc.handed req rep [] []).inbound = (ClientPc.attaching req rep).inbound := by
        simp only [ClientPc.inbound, List.append_nil]
      exact ⟨h.client, h.server, hout ▸ h.up, hin ▸ h.down, h.handedOff, h.serving, h.accepted⟩
  | handed req rep sent got => cases hadv

/-! ## The server goes on -/

/-- The messages of the client so far. -/
theorem clientItems_cases (p : Platform W) (key : Option Bytes) (authNonce : Vector UInt8 32)
    (bus addr : UInt8) (pc : ClientPc) :
    (pc.outbound p key authNonce bus addr).items = [] ∨
    (pc.outbound p key authNonce bus addr).items = [Mount.helloMessage p key authNonce] ∨
    (pc.outbound p key authNonce bus addr).items
      = [Mount.helloMessage p key authNonce, Mount.bridgeRequest bus addr] := by
  cases pc with
  | start => exact Or.inl rfl
  | sendHello f => exact Or.inr (Or.inl rfl)
  | awaitHello f => exact Or.inr (Or.inl rfl)
  | _ => exact Or.inr (Or.inr rfl)

theorem clientItems_mem {pc : ClientPc} {m : Message}
    (h : m ∈ (pc.outbound p key authNonce bus addr).items) :
    m = Mount.helloMessage p key authNonce ∨ m = Mount.bridgeRequest bus addr := by
  rcases clientItems_cases p key authNonce bus addr pc with hitems | hitems | hitems
  · rw [hitems] at h
    cases h
  · rw [hitems] at h
    exact Or.inl (List.mem_singleton.mp h)
  · rw [hitems] at h
    exact List.mem_pair.mp h

/-- The Bridge request is the second message and the last. -/
theorem clientItems_bridge {pc : ClientPc} {n : Nat} {req : BridgeRequest} {tail : List Message}
    (h : (pc.outbound p key authNonce bus addr).items.drop n = .bridge req :: tail) :
    n = 1 ∧ tail = [] := by
  rcases clientItems_cases p key authNonce bus addr pc with hitems | hitems | hitems
  · rw [hitems, List.drop_nil] at h
    cases h
  · rw [hitems] at h
    match n with
    | 0 => cases h
    | n + 1 =>
        rw [List.drop_succ_cons, List.drop_nil] at h
        cases h
  · rw [hitems] at h
    match n with
    | 0 => cases h
    | 1 => exact ⟨rfl, (List.cons.inj h).2.symm⟩
    | n + 2 =>
        rw [List.drop_succ_cons, List.drop_succ_cons, List.drop_nil] at h
        cases h

theorem reply_small (htags : ShortTags p) (join : Option String) (conn : Connection)
    {m : Message} (sh : Shared W)
    (hm : m = Mount.helloMessage p key authNonce ∨ m = Mount.bridgeRequest bus addr) :
    (conn.handleMessage p join m sh).1.message.Small := by
  rcases hm with rfl | rfl
  · show (conn.handleHello p ⟨protocolVersion, "wolfusb-mount", authNonce,
      Session.authProof p key authNonce⟩).1.Small
    exact handleHello_small htags conn rfl
  · exact handleMessage_bridge_small p join conn _ sh

theorem Inv.serverAdvance (hb : b.RoundTrips) (hc : b.Compact) (htags : ShortTags p)
    {s : Switchover} (h : s.Inv p b key authNonce bus addr) {env : ServerEnv W} {server : ServerPc}
    {reply : Option Message} (hadv : s.server.advance p b env = some (some (server, reply))) :
    ({ s with server, replies := s.replies ++ reply.toList } : Switchover).Inv p b key authNonce
      bus addr := by
  obtain ⟨client, clientLive, pc, serverLive, up, down, replies⟩ := s
  have hsame : replies ++ (none : Option Message).toList = replies := List.append_nil _
  cases pc with
  | serving conn f =>
      simp only [ServerPc.advance] at hadv
      split at hadv
      · cases hadv
      · cases hadv
      · rename_i m rest hdec
        have hsmall : m = Mount.helloMessage p key authNonce ∨ m = Mount.bridgeRequest bus addr →
            (conn.handleMessage p env.join m env.shared).1.message.Small :=
          reply_small htags env.join conn env.shared
        cases hm : conn.handleMessage p env.join m env.shared with
        | mk action r =>
        obtain ⟨conn', sh'⟩ := r
        rw [hm] at hadv hsmall
        split at hadv
        · cases hadv
        · rename_i bytes henc
          cases hadv
          have hwrite : f.write = [] := h.server
          rw [hwrite] at henc
          obtain ⟨tail, hdrop, hleft, hup⟩ := h.up.item (h.clientRaw_nil rfl) rfl hdec
          have hmem := clientItems_mem (List.mem_of_mem_drop (hdrop ▸ List.mem_cons_self))
          have hdown := balanced_encode hb hc h.down rfl hwrite (hsmall hmem) henc
          have hhandled : (replies ++ [action.message]).length = replies.length + 1 :=
            List.length_append
          have hup : Balanced (Codec.decoder b) (Codec.bytesOf b) up
              (client.outbound p key authNonce bus addr)
              { handled := replies.length + 1, buffer := rest } :=
            hup
          rw [← hhandled] at hup
          have haccepted : client.inbound.handled = 2 →
              ∃ resp, .bridgeAccepted resp ∈ replies ++ [action.message] := by
            intro htwo
            obtain ⟨resp, hresp⟩ := h.accepted htwo
            exact ⟨resp, List.mem_append_left _ hresp⟩
          cases action with
          | reply r =>
              have hno : ∀ resp, .bridgeAccepted resp ∉ replies ++ [r] := by
                intro resp hresp
                rcases List.mem_append.mp hresp with hold | hnew
                · exact h.serving rfl resp hold
                · exact Connection.reply_ne_bridgeAccepted hm resp (List.mem_singleton.mp hnew).symm
              exact ⟨h.client, nofun, hup, hdown, nofun, fun _ => hno, haccepted⟩
          | bridge r target =>
              -- the client waits for this answer and has sent nothing after its request
              obtain ⟨rfl, -, -⟩ := Connection.handleMessage_bridge p hm
              obtain ⟨hone, rfl⟩ := clientItems_bridge hdrop
              have hrest : rest = [] := (List.append_eq_nil_iff.mp hleft).1
              have htwo : (replies ++ [r]).length = 2 := by
                have hone : replies.length = 1 := hone
                rw [List.length_append, hone]
                rfl
              exact ⟨h.client, fun _ => hrest, hup, hdown, fun _ => htwo, nofun, haccepted⟩
  | replying conn f target =>
      simp only [ServerPc.advance] at hadv
      split at hadv
      · rename_i hwrite
        cases target with
        | none =>
            cases hadv
            rw [hsame]
            exact ⟨h.client, hwrite, h.up, h.down, h.handedOff, h.serving, h.accepted⟩
        | some target =>
            cases hadv
            rw [hsame]
            exact ⟨h.client, ⟨h.server rfl, hwrite⟩, h.up, h.down, h.handedOff, h.serving,
              h.accepted⟩
      · cases hadv
  | switching f target =>
      cases hadv
      rw [hsame]
      obtain ⟨read, write⟩ := f
      obtain ⟨rfl, rfl⟩ := h.server
      exact ⟨h.client, Bridging.ok_start, h.up, h.down, h.handedOff, h.serving, h.accepted⟩
  | bridging g =>
      obtain ⟨g', hop, heq⟩ := Option.map_eq_some_iff.mp hadv
      cases heq
      rw [hsame]
      have hkept := Bridging.Ok.operate h.server hop
      obtain ⟨more, hunsent, hraw⟩ := hkept.owed
      have hin : (ServerPc.bridging g').inbound replies = (ServerPc.bridging g).inbound replies := by
        simp only [ServerPc.inbound, hkept.req, hkept.got]
      exact ⟨h.client, hkept.ok, hin ▸ h.up, h.down.owe hunsent hraw, h.handedOff, h.serving,
        h.accepted⟩

/-! ## Runs -/

theorem Inv.clientStep (hb : b.RoundTrips) (hc : b.Compact) (htags : ShortTags p)
    {s s' : Switchover} (h : s.Inv p b key authNonce bus addr) {e : SwitchEvent W}
    (hstep : s.clientStep p debug b key authNonce bus addr e = some s') :
    s'.Inv p b key authNonce bus addr := by
  cases e with
  | client =>
      obtain ⟨pc, hadv, rfl⟩ := Option.map_eq_some_iff.mp hstep
      cases pc with
      | none => exact ⟨h.client, h.server, h.up, h.down, h.handedOff, h.serving, h.accepted⟩
      | some pc => exact h.clientAdvance hb hc htags hadv
  | clientRead n =>
      obtain ⟨pc, hread, rfl⟩ := Option.map_eq_some_iff.mp hstep
      obtain ⟨hok, hout, hin⟩ := ClientPc.books_receive p key authNonce bus addr hread h.client
      have hhandled : pc.inbound.handled = s.client.inbound.handled := by rw [hin]
      have hdown := h.down.read n
      rw [← hin] at hdown
      exact ⟨hok, h.server, hout ▸ h.up, hdown, h.handedOff, h.serving, hhandled ▸ h.accepted⟩
  | clientWrite n =>
      obtain ⟨⟨bytes, pc⟩, hwrite, rfl⟩ := Option.map_eq_some_iff.mp hstep
      obtain ⟨hok, hin, hout⟩ := ClientPc.books_write p key authNonce bus addr hwrite h.client
      have hup := h.up
      rw [hout] at hup
      exact ⟨hok, h.server, hup.write, hin ▸ h.down, h.handedOff, h.serving, hin ▸ h.accepted⟩
  | clientKernel bytes =>
      obtain ⟨pc, hsend, rfl⟩ := Option.map_eq_some_iff.mp hstep
      obtain ⟨hok, hin, hunsent, hout⟩ :=
        ClientPc.books_kernelSend p key authNonce bus addr hsend h.client
      have hup := h.up.writeRaw hunsent bytes
      rw [← hout] at hup
      exact ⟨hok, h.server, hup, hin ▸ h.down, h.handedOff, h.serving, hin ▸ h.accepted⟩
  | clientFails =>
      obtain rfl := Option.some.inj hstep
      exact ⟨h.client, h.server, h.up, h.down, h.handedOff, h.serving, h.accepted⟩
  | _ => cases hstep

theorem Inv.serverStep (hb : b.RoundTrips) (hc : b.Compact) (htags : ShortTags p)
    {s s' : Switchover} (h : s.Inv p b key authNonce bus addr) {e : SwitchEvent W}
    (hstep : s.serverStep p b e = some s') : s'.Inv p b key authNonce bus addr := by
  cases e with
  | server env =>
      obtain ⟨r, hadv, rfl⟩ := Option.map_eq_some_iff.mp hstep
      cases r with
      | none => exact ⟨h.client, h.server, h.up, h.down, h.handedOff, h.serving, h.accepted⟩
      | some r => exact h.serverAdvance hb hc htags hadv
  | serverRead n =>
      obtain ⟨server, hread, rfl⟩ := Option.map_eq_some_iff.mp hstep
      obtain ⟨hok, hoff, hout, hin⟩ := ServerPc.books_receive s.replies hread h.server
      have hup := h.up.read n
      rw [← hin] at hup
      exact ⟨h.client, hok, hup, hout ▸ h.down, hoff ▸ h.handedOff, hoff ▸ h.serving, h.accepted⟩
  | serverWrite n =>
      obtain ⟨⟨bytes, server⟩, hwrite, rfl⟩ := Option.map_eq_some_iff.mp hstep
      obtain ⟨hok, hoff, hin, hout⟩ := ServerPc.books_write s.replies hwrite h.server
      have hdown := h.down
      rw [hout] at hdown
      exact ⟨h.client, hok, hin ▸ h.up, hdown.write, hoff ▸ h.handedOff, hoff ▸ h.serving,
        h.accepted⟩
  | serverKernel bytes =>
      obtain ⟨server, hsend, rfl⟩ := Option.map_eq_some_iff.mp hstep
      obtain ⟨hok, hoff, hin, hunsent, hout⟩ :=
        ServerPc.books_kernelSend s.replies hsend h.server
      have hdown := h.down.writeRaw hunsent bytes
      rw [← hout] at hdown
      exact ⟨h.client, hok, hin ▸ h.up, hdown, hoff ▸ h.handedOff, hoff ▸ h.serving, h.accepted⟩
  | serverFails =>
      obtain rfl := Option.some.inj hstep
      exact ⟨h.client, h.server, h.up, h.down, h.handedOff, h.serving, h.accepted⟩
  | _ => cases hstep

theorem Inv.step (hb : b.RoundTrips) (hc : b.Compact) (htags : ShortTags p) {s s' : Switchover}
    (h : s.Inv p b key authNonce bus addr) {e : SwitchEvent W}
    (hstep : s.step p debug b key authNonce bus addr e = some s') :
    s'.Inv p b key authNonce bus addr := by
  unfold Switchover.step at hstep
  split at hstep
  all_goals
    split at hstep
    · first
        | exact h.clientStep hb hc htags hstep
        | exact h.serverStep hb hc htags hstep
    · cases hstep

end Switchover

/-! ## Nothing is lost -/

/-- The OP_REQ_IMPORT the client has made. -/
def ClientPc.request : ClientPc → Option Bytes
  | .sendImport _ req _ | .readHeader _ req _ | .readDevice req _ _ | .attaching req _
  | .handed req _ _ _ => some req
  | _ => none

/-- The OP_REP_IMPORT the client has read. -/
def ClientPc.reply : ClientPc → Option Bytes
  | .attaching _ rep | .handed _ rep _ _ => some rep
  | _ => none

/-- What the client's kernel has sent. -/
def ClientPc.kernelSent : ClientPc → Bytes
  | .handed _ _ sent _ => sent
  | _ => []

/-- **No byte is lost at the switch.** Where a side drops its codec, the
buffers are empty. The 40 bytes the server reads are the client's request
and the 320 the client reads are the server's reply. What a kernel has
received, followed by what it has not yet, is what the other kernel has
sent. -/
structure Seamless (s : Switchover) : Prop where
  client_empty : ∀ f busid, s.client = .switching f busid → f.read = [] ∧ f.write = []
  server_empty : ∀ f target, s.server = .switching f target → f.read = [] ∧ f.write = []
  request : ∀ g, s.server = .bridging g → g.req.length = 40 → s.client.request = some g.req
  reply : ∀ rep, s.client.reply = some rep →
    rep.length = 320 ∧ ∃ g, s.server = .bridging g ∧ g.reply = rep
  client_handed : ∀ req rep sent got, s.client = .handed req rep sent got →
    ∃ g, s.server = .bridging g ∧ got ++ s.down.pending = g.sent
  server_handed : ∀ g, s.server = .bridging g → g.task = .wait →
    g.got ++ s.up.pending = s.client.kernelSent

namespace Switchover

variable {p : Platform W} {debug : Message → String} {b : Bincode} {key : Option Bytes}
  {authNonce : Vector UInt8 32} {bus addr : UInt8} {s : Switchover}

/-- The raw bytes of the client are its request and what its kernel sent,
and the request is sent before the kernel sends. -/
theorem clientRaw_eq {pc : ClientPc} (hok : pc.Ok)
    (hne : (pc.outbound p key authNonce bus addr).raw ≠ []) :
    ∃ req, pc.request = some req ∧ req.length = 40 ∧
      (pc.outbound p key authNonce bus addr).raw = req ++ pc.kernelSent ∧
      (pc.kernelSent ≠ [] → (pc.outbound p key authNonce bus addr).unsent = []) := by
  cases pc with
  | sendImport busid req unsent =>
      exact ⟨req, rfl, Mount.importRequest_length hok, (List.append_nil req).symm,
        fun h => absurd rfl h⟩
  | readHeader busid req hdr =>
      exact ⟨req, rfl, Mount.importRequest_length hok.1, (List.append_nil req).symm, fun _ => rfl⟩
  | readDevice req hdr dev =>
      obtain ⟨busid, hreq⟩ := hok.1
      exact ⟨req, rfl, Mount.importRequest_length hreq, (List.append_nil req).symm, fun _ => rfl⟩
  | attaching req rep =>
      obtain ⟨busid, hreq⟩ := hok.1
      exact ⟨req, rfl, Mount.importRequest_length hreq, (List.append_nil req).symm, fun _ => rfl⟩
  | handed req rep sent got =>
      obtain ⟨busid, hreq⟩ := hok.1
      exact ⟨req, rfl, Mount.importRequest_length hreq, rfl, fun _ => rfl⟩
  | _ => exact absurd rfl hne

section

variable (h : s.Inv p b key authNonce bus addr)
include h

/-- The request the server has read is the client's, and what follows it
is what the client's kernel sent. -/
theorem Inv.request_read {g : Bridging} (hg : s.server = .bridging g) (hlen : g.req.length = 40) :
    s.client.request = some g.req ∧ g.got ++ s.up.pending = s.client.kernelSent := by
  have hup := h.up
  rw [hg] at hup
  have htwo := h.handedOff (by rw [hg]; rfl)
  have hall : (ServerPc.inbound s.replies (.bridging g)).handled
      = (s.client.outbound p key authNonce bus addr).items.length :=
    Nat.le_antisymm hup.handled_le (Nat.le_trans (clientItems_le _) (Nat.le_of_eq htwo.symm))
  have hrest : g.req ++ g.got ++ (s.up.pending ++ (s.client.outbound p key authNonce bus addr).unsent)
      = (s.client.outbound p key authNonce bus addr).raw := hup.rawRest hall
  have hne : (s.client.outbound p key authNonce bus addr).raw ≠ [] := by
    intro hnil
    rw [hnil, List.append_assoc] at hrest
    rw [(List.append_eq_nil_iff.mp hrest).1] at hlen
    cases hlen
  obtain ⟨req, hreq, hreqlen, hraw, hkernel⟩ := clientRaw_eq h.client hne
  rw [hraw, List.append_assoc] at hrest
  obtain ⟨rfl, hmore⟩ := List.append_inj hrest (hlen.trans hreqlen.symm)
  refine ⟨hreq, ?_⟩
  -- nothing is unsent when the kernel has sent something
  by_cases hsent : s.client.kernelSent = []
  · rw [hsent] at hmore ⊢
    obtain ⟨hgot, hmore⟩ := List.append_eq_nil_iff.mp hmore
    rw [hgot, (List.append_eq_nil_iff.mp hmore).1]
    rfl
  · rw [hkernel hsent, List.append_nil] at hmore
    exact hmore

/-- The reply the client has read is the server's, and what follows it is
what the server's kernel sent. -/
theorem Inv.reply_read (rep got : Bytes) (hhandled : s.client.inbound.handled = 2)
    (hbuffer : s.client.inbound.buffer = rep ++ got) (hlen : rep.length = 320) :
    ∃ g, s.server = .bridging g ∧ g.reply = rep ∧ got ++ s.down.pending = g.sent := by
  have hall : s.client.inbound.handled = (s.server.outbound s.replies).items.length := by
    have hle := h.down.handled_le
    have htwo : s.replies.length ≤ 2 := by
      rw [← ServerPc.inbound_handled s.server s.replies]
      exact Nat.le_trans h.up.handled_le (clientItems_le _)
    rw [ServerPc.outbound_items] at hle ⊢
    omega
  have hrest := h.down.rawRest hall
  rw [hbuffer] at hrest
  cases hserver : s.server with
  | bridging g =>
      rw [hserver] at hrest
      have hrest : rep ++ got ++ (s.down.pending ++ g.unsent) = g.reply ++ g.sent := hrest
      have hok : g.Ok := by
        have := h.server
        rwa [hserver] at this
      have hne : g.reply ≠ [] := by
        intro hnil
        rw [hnil, (hok.unmade hnil).2.1, List.append_assoc] at hrest
        rw [(List.append_eq_nil_iff.mp hrest).1] at hlen
        cases hlen
      obtain ⟨-, info, -, hreply⟩ := hok.made hne
      have hreplylen : g.reply.length = 320 := by
        rw [hreply]
        exact Bridge.importReply_length info
      rw [List.append_assoc] at hrest
      obtain ⟨rfl, hmore⟩ := List.append_inj hrest (hlen.trans hreplylen.symm)
      refine ⟨g, rfl, rfl, ?_⟩
      by_cases hsent : g.sent = []
      · rw [hsent] at hmore ⊢
        obtain ⟨hgot, hmore⟩ := List.append_eq_nil_iff.mp hmore
        rw [hgot, (List.append_eq_nil_iff.mp hmore).1]
        rfl
      · rw [hok.settled hsent, List.append_nil] at hmore
        exact hmore
  | _ =>
      rw [hserver, List.append_assoc] at hrest
      rw [(List.append_eq_nil_iff.mp hrest).1] at hlen
      cases hlen

theorem Inv.seamless : Seamless s where
  client_empty f busid hf := by
    have hok := h.client
    rw [hf] at hok
    exact hok
  server_empty f target hf := by
    have hok := h.server
    rw [hf] at hok
    exact hok
  request g hg hlen := (h.request_read hg hlen).1
  reply rep hrep := by
    cases hpc : s.client with
    | attaching req rep' =>
        have hok := h.client
        rw [hpc] at hok hrep
        obtain rfl := Option.some.inj hrep
        obtain ⟨g, hg, hreply, -⟩ := h.reply_read rep' [] (by rw [hpc]; rfl)
          (by rw [hpc]; exact (List.append_nil _).symm) hok.2
        exact ⟨hok.2, g, hg, hreply⟩
    | handed req rep' sent got =>
        have hok := h.client
        rw [hpc] at hok hrep
        obtain rfl := Option.some.inj hrep
        obtain ⟨g, hg, hreply, -⟩ := h.reply_read rep' got (by rw [hpc]; rfl)
          (by rw [hpc]; rfl) hok.2
        exact ⟨hok.2, g, hg, hreply⟩
    | _ =>
        rw [hpc] at hrep
        cases hrep
  client_handed req rep sent got hpc := by
    have hok := h.client
    rw [hpc] at hok
    obtain ⟨g, hg, -, hkernel⟩ := h.reply_read rep got (by rw [hpc]; rfl)
      (by rw [hpc]; rfl) hok.2
    exact ⟨g, hg, hkernel⟩
  server_handed g hg htask := by
    have hok : g.Ok := by
      have := h.server
      rwa [hg] at this
    have hne := (hok.handing (by rw [htask]; rfl)).1
    exact (h.request_read hg (hok.made hne).1).2

end

end Switchover

/-- **The mode switch loses no byte**, in every run of the mount handshake
against a connection of the server: for every key on either side, every
shared state the messages are handled with, every segmentation of the two
directions and every order of the steps. -/
theorem mode_switch_loses_no_byte (p : Platform W) (debug : Message → String) (b : Bincode)
    (hb : b.RoundTrips) (hc : b.Compact) (htags : ShortTags p) (key sharedKey : Option Bytes)
    (authNonce : Vector UInt8 32) (bus addr : UInt8) (peerAddr : SocketAddr)
    {es : List (SwitchEvent W)} {s : Switchover}
    (hrun : Run (Guarded fun s e => Switchover.step p debug b key authNonce bus addr s e)
      (.start peerAddr sharedKey) es s) : Seamless s :=
  (hrun.preserves (I := fun s : Switchover => s.Inv p b key authNonce bus addr)
    (fun _ _ _ h hstep => h.step hb hc htags hstep)
    (Switchover.inv_start p b key authNonce bus addr peerAddr sharedKey)).seamless

/-! ## A whole run -/

def exportedCamera : KernelUsbip.DeviceInfo :=
  ⟨"1-4", 1, 2, 3, 0x46d, 0xc52b, 0x100, 0, 0, 0, 1, 1, 1⟩

/-- A step of the server while the camera is bound to `driver`. -/
def cameraStep (driver : KernelUsbip.Driver) : SwitchEvent Nat :=
  .server {
    shared := ⟨.new, ⟨0, []⟩⟩
    bridge := { request := some Bridge.importRequest }
    device := ⟨driver, false, 1⟩
    info := exportedCamera }

/-- Hello, Bridge and the import, with some reads cut short; then the
server's kernel sends two bytes, of which one arrives, and the client's
kernel sends one. -/
def onceThrough : List (SwitchEvent Nat) :=
  [.client, .clientWrite 1000, .client, .serverRead 3, .serverRead 1000, cameraStep .normal,
    .serverWrite 1000, cameraStep .normal, .clientRead 5, .clientRead 1000, .client] ++
  [.clientWrite 1000, .client, .serverRead 1000, cameraStep .normal, .serverWrite 1000,
    cameraStep .normal, .clientRead 1000, .client, .client] ++
  [.clientWrite 13, .clientWrite 27, .client, cameraStep .normal, cameraStep .normal,
    cameraStep .normal, cameraStep .normal, cameraStep .usbipHost, .serverRead 40,
    cameraStep .usbipHost, .serverWrite 100, .clientRead 8, .client, .serverWrite 220] ++
  List.replicate 5 (cameraStep .usbipHost) ++
  [.clientRead 312, .client, .client, .serverKernel [1, 2], .clientRead 1, .clientKernel [3]]

/-- What the client's kernel has received, and what is on its way in the
two directions. -/
def Switchover.kernelTraffic (s : Switchover) : Option Bytes × Bytes × Bytes :=
  (match s.client with
    | .handed _ _ _ got => some got
    | _ => none,
  s.down.pending, s.up.pending)

theorem mode_switch_loses_no_byte_once :
    ∃ s, Run (Guarded fun s e => Switchover.step twoDeviceHost (fun _ => "") .standard none
        (.replicate 32 0) 1 2 s e) (.start ⟨"10.0.0.1", 4000⟩ none) onceThrough s ∧
      s.kernelTraffic = (some [1], [2], [3]) ∧ Seamless s := by
  have hplay : (play (fun s e => Switchover.step twoDeviceHost (fun _ => "") .standard none
      (.replicate 32 0) 1 2 s e) (.start ⟨"10.0.0.1", 4000⟩ none) onceThrough).map
        Switchover.kernelTraffic = some (some [1], [2], [3]) := by
    decide +kernel
  obtain ⟨s, hplay, htraffic⟩ := Option.map_eq_some_iff.mp hplay
  have hrun := play_iff_run.mp hplay
  exact ⟨s, hrun, htraffic, mode_switch_loses_no_byte twoDeviceHost (fun _ => "") .standard
    Bincode.standard_roundTrips Bincode.standard_compact (fun _ _ => Nat.zero_le _) none none
    (.replicate 32 0) 1 2 ⟨"10.0.0.1", 4000⟩ hrun⟩

end WolfUsb
