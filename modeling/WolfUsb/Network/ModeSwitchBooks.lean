/-
WolfUsb.Network.ModeSwitchBooks — what the two sides of a mount handshake
have sent and taken.

The place a side has reached says which messages it has framed, which raw
bytes follow them, what of it is unsent, and what it holds of what the
other side sent. Reading and writing keep these books, and so does an
operation of the bridge task.
-/
import WolfUsb.Lib.FrameStream
import WolfUsb.Network.ModeSwitch

namespace WolfUsb

open WolfUsb.Lib

variable {W : Type}

/-! ## Frames -/

namespace Codec

variable (b : Bincode)

/-- The frame of a message, if it can be encoded. -/
def bytesOf (m : Message) : Bytes :=
  match encode b m [] with
  | .ok bytes => bytes
  | .error _ => []

theorem bytesOf_of_encode {m : Message} {bytes : Bytes} (h : encode b m [] = .ok bytes) :
    bytesOf b m = bytes := by
  rw [bytesOf, h]

end Codec

/-! ## The raw part -/

theorem Bridge.importReply_length (info : KernelUsbip.DeviceInfo) :
    (importReply info).length = 320 := by
  simp [importReply, KernelUsbip.DeviceInfo.toWireBytes_length]

theorem Mount.importRequest_length {busid : String} {req : Bytes}
    (h : importRequest busid = .ok req) : req.length = 40 := by
  rw [importRequest] at h
  split at h
  · cases h
  · obtain rfl := Except.ok.inj h
    simp

/-- The parts of the bridge task that the stream sees: until the request
is read, while the reply is written, until the kernel is done with the
socket, and after that or a failure. -/
inductive Bridge.Phase where
  | reading
  | sending
  | handing
  | over
  deriving DecidableEq

def Bridge.Pc.phase : Bridge.Pc → Bridge.Phase
  | .lookup | .isBound | .release _ | .settle _ | .readInfo | .bind _ | .readRequest => .reading
  | .sendReply => .sending
  | .flush | .intoStd | .setBlocking | .attachSocket | .wait => .handing
  | .rollback _ | .finish _ | .done _ => .over

/-- The other operations stay in their part or end it all. -/
theorem Bridge.phase_step (env : BridgeEnv) (pc : Pc) (d : KernelUsbip.SysfsDevice)
    (hread : pc ≠ .readRequest) (hsend : pc ≠ .sendReply) :
    (step env pc d).1.phase = pc.phase ∨ (step env pc d).1.phase = .over := by
  cases pc with
  | readRequest => exact absurd rfl hread
  | sendReply => exact absurd rfl hsend
  | done r => exact Or.inl rfl
  | bind u =>
      simp only [step]
      split
      · exact Or.inl rfl
      · exact Or.inl rfl
      · exact Or.inr rfl
  | settle n =>
      simp only [step]
      split
      · split <;> exact Or.inl rfl
      · exact Or.inl rfl
  | _ =>
      simp only [step]
      split <;> first | exact Or.inl rfl | exact Or.inr rfl

theorem Bridge.phase_readRequest (env : BridgeEnv) (d : KernelUsbip.SysfsDevice) :
    (step env .readRequest d).1 = .sendReply ∨ (step env .readRequest d).1.phase = .over := by
  simp only [step]
  split
  · exact Or.inr rfl
  · split
    · exact Or.inr rfl
    · exact Or.inl rfl

/-- What is true of the bridge task's side of the stream. -/
structure Bridging.Ok (g : Bridging) : Prop where
  req_le : g.req.length ≤ 40
  /-- A reply is made of the info when the whole request was read. -/
  made : g.reply ≠ [] → g.req.length = 40 ∧ ∃ info, g.info = some info ∧
    g.reply = Bridge.importReply info
  unmade : g.reply = [] → g.unsent = [] ∧ g.sent = [] ∧ g.got = []
  reading : g.task.phase = .reading → g.reply = []
  sending : g.task.phase = .sending → g.reply ≠ [] ∧ g.sent = []
  handing : g.task.phase = .handing → g.reply ≠ [] ∧ g.unsent = []
  /-- The kernel has sent nothing while the reply is unsent. -/
  settled : g.sent ≠ [] → g.unsent = []

theorem Bridging.ok_start : Bridging.Ok { task := .lookup } where
  req_le := Nat.zero_le _
  made h := absurd rfl h
  unmade _ := ⟨rfl, rfl, rfl⟩
  reading _ := rfl
  sending h := nomatch h
  handing h := nomatch h
  settled h := absurd rfl h

/-- The task goes on in the same part, or ends. -/
theorem Bridging.Ok.goOn {g : Bridging} (h : g.Ok) (task : Bridge.Pc)
    (hphase : task.phase = g.task.phase ∨ task.phase = .over) : Ok { g with task } where
  req_le := h.req_le
  made := h.made
  unmade := h.unmade
  reading ht := by
    rcases hphase with hp | hp
    · exact h.reading (hp ▸ ht)
    · cases hp.symm.trans ht
  sending ht := by
    rcases hphase with hp | hp
    · exact h.sending (hp ▸ ht)
    · cases hp.symm.trans ht
  handing ht := by
    rcases hphase with hp | hp
    · exact h.handing (hp ▸ ht)
    · cases hp.symm.trans ht
  settled := h.settled

/-- An operation keeps the books: the bytes read stay, and what it adds to
the reply is unsent. -/
structure Bridging.Kept (g g' : Bridging) : Prop where
  ok : g'.Ok
  req : g'.req = g.req
  got : g'.got = g.got
  owed : ∃ more, g'.unsent = g.unsent ++ more ∧ g'.reply ++ g'.sent = g.reply ++ g.sent ++ more

theorem Bridging.kept_task {g : Bridging} {task : Bridge.Pc} (h : Ok { g with task }) :
    g.Kept { g with task } :=
  ⟨h, rfl, rfl, [], (List.append_nil _).symm, (List.append_nil _).symm⟩

/-- The request is read, and the reply made of the info. -/
theorem Bridging.Ok.requestRead {g g' : Bridging} (h : g.Ok) (hphase : g.task.phase = .reading)
    (hlen : g.req.length = 40) {task : Bridge.Pc} (htask : task = .sendReply ∨ task.phase = .over)
    (hop : ServerPc.requestRead g task = some g') : g.Kept g' := by
  rcases htask with rfl | hover
  · obtain ⟨info, hinfo, rfl⟩ := Option.map_eq_some_iff.mp hop
    have hne : Bridge.importReply info ≠ [] := by
      intro hnil
      have hlen := Bridge.importReply_length info
      rw [hnil] at hlen
      cases hlen
    have hreply := h.reading hphase
    obtain ⟨hunsent, hsent, hgot⟩ := h.unmade hreply
    refine ⟨⟨h.req_le, fun _ => ⟨hlen, info, hinfo, rfl⟩, fun hnil => absurd hnil hne, nofun,
      fun _ => ⟨hne, hsent⟩, nofun, fun hne' => absurd hsent hne'⟩, rfl, rfl,
      Bridge.importReply info, ?_, ?_⟩
    · show Bridge.importReply info = g.unsent ++ Bridge.importReply info
      rw [hunsent, List.nil_append]
    · show Bridge.importReply info ++ g.sent = g.reply ++ g.sent ++ Bridge.importReply info
      rw [hreply, hsent, List.nil_append, List.append_nil, List.nil_append]
  · have hgo : g' = { g with task } := by
      unfold ServerPc.requestRead at hop
      split at hop
      · cases hover
      · exact (Option.some.inj hop).symm
    rw [hgo]
    exact kept_task (h.goOn _ (Or.inr hover))

theorem Bridging.Ok.operate {env : ServerEnv W} {g g' : Bridging} (h : g.Ok)
    (hop : ServerPc.operate env g = some g') : g.Kept g' := by
  unfold ServerPc.operate at hop
  split at hop
  · -- `from_sysfs` comes before the request
    rename_i htask
    obtain rfl := Option.some.inj hop
    have hphase : g.task.phase = .reading := by
      rw [htask]
      rfl
    have hreply := h.reading hphase
    have hok : Bridging.Ok { g with info := some env.info } :=
      ⟨h.req_le, fun hne => absurd hreply hne, h.unmade, h.reading, h.sending, h.handing,
        h.settled⟩
    have hstep := Bridge.phase_step env.bridge .readInfo env.device nofun nofun
    have hgo := hok.goOn (Bridge.step env.bridge .readInfo env.device).1
      (by rw [hphase]; exact hstep)
    exact ⟨hgo, rfl, rfl, [], (List.append_nil _).symm, (List.append_nil _).symm⟩
  · rename_i htask
    split at hop
    · rename_i hnone
      obtain rfl := Option.some.inj hop
      have hfail : (Bridge.step env.bridge .readRequest env.device).1.phase = .over := by
        simp only [Bridge.step, hnone]
        rfl
      exact kept_task (h.goOn _ (Or.inr hfail))
    · split at hop
      · rename_i hlen
        exact h.requestRead (by rw [htask]; rfl) hlen (Bridge.phase_readRequest _ _) hop
      · cases hop
  · rename_i htask
    split at hop
    · cases hop
    · rename_i hsent
      obtain rfl := Option.some.inj hop
      by_cases hok : env.bridge.replySent = true
      · have hunsent : g.unsent = [] := by simpa [hok] using hsent
        have hflush : (Bridge.step env.bridge .sendReply env.device).1 = .flush := by
          simp only [Bridge.step, hok, if_true]
        refine kept_task ?_
        rw [hflush]
        exact ⟨h.req_le, h.made, h.unmade, nofun, nofun,
          fun _ => ⟨(h.sending (by rw [htask]; rfl)).1, hunsent⟩, fun _ => hunsent⟩
      · have hfail : (Bridge.step env.bridge .sendReply env.device).1.phase = .over := by
          simp only [Bridge.step, hok]
          rfl
        exact kept_task (h.goOn _ (Or.inr hfail))
  · rename_i hinfo hread hsend
    obtain rfl := Option.some.inj hop
    exact kept_task (h.goOn _ (Bridge.phase_step env.bridge g.task env.device hread hsend))

/-! ## The books -/

section Books

variable (p : Platform W) (key : Option Bytes) (authNonce : Vector UInt8 32) (bus addr : UInt8)

/-- What the client has sent, by its place. -/
def ClientPc.outbound : ClientPc → Outbound UInt8 Message
  | .start => {}
  | .sendHello f | .awaitHello f =>
      { items := [Mount.helloMessage p key authNonce], unsent := f.write }
  | .sendBridge f | .awaitBridge f | .switching f _ =>
      { items := [Mount.helloMessage p key authNonce, Mount.bridgeRequest bus addr],
        unsent := f.write }
  | .sendImport _ req unsent =>
      { items := [Mount.helloMessage p key authNonce, Mount.bridgeRequest bus addr],
        raw := req, unsent }
  | .readHeader _ req _ | .readDevice req _ _ | .attaching req _ =>
      { items := [Mount.helloMessage p key authNonce, Mount.bridgeRequest bus addr], raw := req }
  | .handed req _ sent _ =>
      { items := [Mount.helloMessage p key authNonce, Mount.bridgeRequest bus addr],
        raw := req ++ sent }

/-- What the client has taken. -/
def ClientPc.inbound : ClientPc → Inbound UInt8
  | .start => {}
  | .sendHello f | .awaitHello f => { buffer := f.read }
  | .sendBridge f | .awaitBridge f => { handled := 1, buffer := f.read }
  | .switching f _ => { handled := 2, buffer := f.read }
  | .sendImport _ _ _ => { handled := 2 }
  | .readHeader _ _ hdr => { handled := 2, buffer := hdr }
  | .readDevice _ hdr dev => { handled := 2, buffer := hdr ++ dev }
  | .attaching _ rep => { handled := 2, buffer := rep }
  | .handed _ rep _ got => { handled := 2, buffer := rep ++ got }

/-- What the server has sent: its replies, and what the bridge task and the
kernel add. -/
def ServerPc.outbound (replies : List Message) : ServerPc → Outbound UInt8 Message
  | .serving _ f | .replying _ f _ | .switching f _ => { items := replies, unsent := f.write }
  | .bridging g => { items := replies, raw := g.reply ++ g.sent, unsent := g.unsent }

/-- What the server has taken: a message for each of its replies. -/
def ServerPc.inbound (replies : List Message) : ServerPc → Inbound UInt8
  | .serving _ f | .replying _ f _ | .switching f _ =>
      { handled := replies.length, buffer := f.read }
  | .bridging g => { handled := replies.length, buffer := g.req ++ g.got }

@[simp] theorem ServerPc.outbound_items (server : ServerPc) (replies : List Message) :
    (server.outbound replies).items = replies := by
  cases server <;> rfl

@[simp] theorem ServerPc.inbound_handled (server : ServerPc) (replies : List Message) :
    (server.inbound replies).handled = replies.length := by
  cases server <;> rfl

/-- What holds of a place of the client by itself. -/
def ClientPc.Ok : ClientPc → Prop
  | .start | .sendHello _ | .sendBridge _ => True
  | .awaitHello f | .awaitBridge f => f.write = []
  | .switching f _ => f.read = [] ∧ f.write = []
  | .sendImport busid req _ => Mount.importRequest busid = .ok req
  | .readHeader busid req hdr => Mount.importRequest busid = .ok req ∧ hdr.length ≤ 8
  | .readDevice req hdr dev =>
      (∃ busid, Mount.importRequest busid = .ok req) ∧ hdr.length = 8 ∧ dev.length ≤ 312
  | .attaching req rep | .handed req rep _ _ =>
      (∃ busid, Mount.importRequest busid = .ok req) ∧ rep.length = 320

def ServerPc.Ok : ServerPc → Prop
  | .serving _ f => f.write = []
  | .replying _ f target => target.isSome = true → f.read = []
  | .switching f _ => f.read = [] ∧ f.write = []
  | .bridging g => g.Ok

/-- The server has accepted a bridge. -/
def ServerPc.handsOff : ServerPc → Bool
  | .serving _ _ => false
  | .replying _ _ target => target.isSome
  | .switching _ _ | .bridging _ => true

/-! ## Reading and writing -/

variable {b : Bincode} {pc pc' : ClientPc}

/-- Bytes that arrive go to the buffer. -/
theorem ClientPc.books_receive {chunk : Bytes} (h : pc.receive b chunk = some pc') (hok : pc.Ok) :
    pc'.Ok ∧ pc'.outbound p key authNonce bus addr = pc.outbound p key authNonce bus addr ∧
      pc'.inbound = { pc.inbound with buffer := pc.inbound.buffer ++ chunk } := by
  cases pc with
  | awaitHello f =>
      simp only [receive] at h
      split at h
      · obtain rfl := Option.some.inj h
        exact ⟨hok, rfl, rfl⟩
      · cases h
  | awaitBridge f =>
      simp only [receive] at h
      split at h
      · obtain rfl := Option.some.inj h
        exact ⟨hok, rfl, rfl⟩
      · cases h
  | readHeader busid req hdr =>
      simp only [receive] at h
      split at h
      · rename_i hlen
        obtain rfl := Option.some.inj h
        exact ⟨⟨hok.1, hlen⟩, rfl, rfl⟩
      · cases h
  | readDevice req hdr dev =>
      simp only [receive] at h
      split at h
      · rename_i hlen
        obtain rfl := Option.some.inj h
        refine ⟨⟨hok.1, hok.2.1, hlen⟩, rfl, ?_⟩
        simp only [inbound, List.append_assoc]
      · cases h
  | handed req rep sent got =>
      obtain rfl := Option.some.inj h
      refine ⟨hok, rfl, ?_⟩
      simp only [inbound, List.append_assoc]
  | _ => cases h

/-- Bytes that are written were unsent. -/
theorem ClientPc.books_write {n : Nat} {bytes : Bytes} (h : pc.write n = some (bytes, pc'))
    (hok : pc.Ok) :
    pc'.Ok ∧ pc'.inbound = pc.inbound ∧ pc.outbound p key authNonce bus addr =
      { pc'.outbound p key authNonce bus addr with
        unsent := bytes ++ (pc'.outbound p key authNonce bus addr).unsent } := by
  cases pc with
  | sendHello f =>
      cases h
      refine ⟨trivial, rfl, ?_⟩
      simp only [outbound, List.take_append_drop]
  | sendBridge f =>
      cases h
      refine ⟨trivial, rfl, ?_⟩
      simp only [outbound, List.take_append_drop]
  | sendImport busid req unsent =>
      cases h
      refine ⟨hok, rfl, ?_⟩
      simp only [outbound, List.take_append_drop]
  | _ => cases h

/-- The kernel's bytes are sent at once. -/
theorem ClientPc.books_kernelSend {bytes : Bytes} (h : pc.kernelSend bytes = some pc')
    (hok : pc.Ok) :
    pc'.Ok ∧ pc'.inbound = pc.inbound ∧ (pc.outbound p key authNonce bus addr).unsent = [] ∧
      pc'.outbound p key authNonce bus addr =
        { pc.outbound p key authNonce bus addr with
          raw := (pc.outbound p key authNonce bus addr).raw ++ bytes } := by
  cases pc with
  | handed req rep sent got =>
      obtain rfl := Option.some.inj h
      refine ⟨hok, rfl, rfl, ?_⟩
      simp only [outbound, List.append_assoc]
  | _ => cases h

section Server

variable {server server' : ServerPc} (replies : List Message)

theorem ServerPc.books_receive {chunk : Bytes} (h : server.receive b chunk = some server')
    (hok : server.Ok) :
    server'.Ok ∧ server'.handsOff = server.handsOff ∧
      server'.outbound replies = server.outbound replies ∧
      server'.inbound replies =
        { server.inbound replies with buffer := (server.inbound replies).buffer ++ chunk } := by
  cases server with
  | serving conn f =>
      simp only [receive] at h
      split at h
      · obtain rfl := Option.some.inj h
        exact ⟨hok, rfl, rfl, rfl⟩
      · cases h
  | bridging g =>
      simp only [receive] at h
      split at h
      · rename_i htask
        split at h
        · rename_i hlen
          obtain rfl := Option.some.inj h
          have hphase : g.task.phase = .reading := by
            rw [htask]
            rfl
          have hreply := hok.reading hphase
          refine ⟨⟨hlen, fun hne => absurd hreply hne, hok.unmade, hok.reading, hok.sending,
            hok.handing, hok.settled⟩, rfl, rfl, ?_⟩
          simp only [inbound, (hok.unmade hreply).2.2, List.append_nil]
        · cases h
      · rename_i htask
        obtain rfl := Option.some.inj h
        have hphase : g.task.phase = .handing := by
          rw [htask]
          rfl
        have hne := (hok.handing hphase).1
        refine ⟨⟨hok.req_le, hok.made, fun hnil => absurd hnil hne, hok.reading, hok.sending,
          hok.handing, hok.settled⟩, rfl, rfl, ?_⟩
        simp only [inbound, List.append_assoc]
      · cases h
  | _ => cases h

theorem ServerPc.books_write {n : Nat} {bytes : Bytes} (h : server.write n = some (bytes, server'))
    (hok : server.Ok) :
    server'.Ok ∧ server'.handsOff = server.handsOff ∧
      server'.inbound replies = server.inbound replies ∧
      server.outbound replies =
        { server'.outbound replies with unsent := bytes ++ (server'.outbound replies).unsent } := by
  cases server with
  | replying conn f target =>
      cases h
      refine ⟨hok, rfl, rfl, ?_⟩
      simp only [outbound, List.take_append_drop]
  | bridging g =>
      simp only [write] at h
      split at h
      · rename_i htask
        cases h
        have hphase : g.task.phase = .sending := by
          rw [htask]
          rfl
        obtain ⟨hne, hsent⟩ := hok.sending hphase
        refine ⟨⟨hok.req_le, hok.made, fun hnil => absurd hnil hne, hok.reading, hok.sending,
          fun hh => (nomatch hphase.symm.trans hh), fun hne' => absurd hsent hne'⟩, rfl, rfl, ?_⟩
        simp only [outbound, List.take_append_drop]
      · cases h
  | _ => cases h

theorem ServerPc.books_kernelSend {bytes : Bytes} (h : server.kernelSend bytes = some server')
    (hok : server.Ok) :
    server'.Ok ∧ server'.handsOff = server.handsOff ∧
      server'.inbound replies = server.inbound replies ∧ (server.outbound replies).unsent = [] ∧
      server'.outbound replies =
        { server.outbound replies with raw := (server.outbound replies).raw ++ bytes } := by
  cases server with
  | bridging g =>
      simp only [kernelSend] at h
      split at h
      · rename_i htask
        obtain rfl := Option.some.inj h
        have hphase : g.task.phase = .handing := by
          rw [htask]
          rfl
        obtain ⟨hne, hunsent⟩ := hok.handing hphase
        refine ⟨⟨hok.req_le, hok.made, fun hnil => absurd hnil hne, hok.reading,
          fun hs => (nomatch hphase.symm.trans hs), hok.handing, fun _ => hunsent⟩, rfl, rfl,
          hunsent, ?_⟩
        simp only [outbound, List.append_assoc]
      · cases h
  | _ => cases h

end Server

end Books

end WolfUsb
