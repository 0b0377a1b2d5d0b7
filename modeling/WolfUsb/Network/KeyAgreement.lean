/-
WolfUsb.Network.KeyAgreement — who gets past the Hello.

Without an adversary the exchange is decided by the two keys: a side that
has one compares the other's proof with its own, a side that has none
sends an empty proof and compares nothing. `KeysAgree` is that both
comparisons hold. The server's reply admits the client exactly then,
whichever of the two handshakes reads it (`hello_admits_iff`), and a mount
that has sent its Bridge request has keys that agree (`Checked`).
-/
import WolfUsb.Client.HelloTheorems
import WolfUsb.Network.MountEnds

namespace WolfUsb

open WolfUsb.Lib

variable {W : Type}

section

variable (p : Platform W) (key sharedKey : Option Bytes) (authNonce : Vector UInt8 32)

/-! ## Two keys -/

/-- The proof a server answers with: nothing without a key. -/
def Connection.serverProof : Bytes :=
  match sharedKey with
  | some key => Connection.proof p key authNonce Connection.serverSuffix
  | none => []

/-- A server with a key gets the proof it expects, and a client with one. -/
structure KeysAgree : Prop where
  server : ∀ k ∈ sharedKey,
    Connection.proof p k authNonce Connection.clientSuffix = Session.authProof p key authNonce
  client : ∀ k ∈ key,
    Connection.proof p k authNonce Connection.serverSuffix =
      Connection.serverProof p sharedKey authNonce

end

section

variable {p : Platform W} {key sharedKey : Option Bytes} {authNonce : Vector UInt8 32}

/-- Equal keys agree, whatever the hash. -/
theorem KeysAgree.refl : KeysAgree p key key authNonce := by
  constructor
  · intro k hk
    rw [Option.mem_def.mp hk]
    rfl
  · intro k hk
    rw [Option.mem_def.mp hk]
    rfl

/-- Where a tag has at least one byte, one side cannot do without a key. -/
theorem KeysAgree.isSome_eq (h : KeysAgree p key sharedKey authNonce)
    (htags : ∀ k m, p.hmacSha256 k m ≠ []) : key.isSome = sharedKey.isSome := by
  cases key with
  | none =>
      cases sharedKey with
      | none => rfl
      | some k => exact absurd (h.server k rfl) (htags _ _)
  | some k =>
      cases sharedKey with
      | none => exact absurd (h.client k rfl) (htags _ _)
      | some k' => rfl

/-! ## One exchange -/

/-- The server accepts a Hello of its version exactly if the proof is the
one it expects, and then answers with its own. -/
theorem handleHello_reply {conn : Connection} (hkey : conn.sharedKey = sharedKey)
    {req : HelloRequest} (hversion : req.protocolVersion = protocolVersion) :
    ((∀ k ∈ sharedKey, Connection.proof p k req.authNonce Connection.clientSuffix
        = req.authProof) ∧
      conn.handleHello p req = (Connection.helloAccepted
        (Connection.serverProof p sharedKey req.authNonce), { conn with authenticated := true })) ∨
    ((¬ ∀ k ∈ sharedKey, Connection.proof p k req.authNonce Connection.clientSuffix
        = req.authProof) ∧
      conn.handleHello p req = (Connection.helloRefused "Authentication failed", conn)) := by
  subst hkey
  unfold Connection.handleHello
  rw [if_neg (not_not.mpr hversion)]
  cases hkey : conn.sharedKey with
  | none =>
      refine Or.inl ⟨?_, rfl⟩
      intro k hk
      cases hk
  | some k =>
      by_cases hproof : Connection.proof p k req.authNonce Connection.clientSuffix = req.authProof
      · refine Or.inl ⟨?_, ?_⟩
        · intro k' hk'
          cases hk'
          exact hproof
        · simp [hproof, Connection.serverProof]
      · refine Or.inr ⟨fun hall => hproof (hall k rfl), ?_⟩
        simp [hproof]

theorem badServerProof_eq_false_iff {response : Bytes} :
    Session.badServerProof p key authNonce response = false ↔
      ∀ k ∈ key, Connection.proof p k authNonce Connection.serverSuffix = response := by
  cases key with
  | none => simp [Session.badServerProof]
  | some k => simp [Session.badServerProof]

/-- **The server's reply admits the client exactly if the keys agree**, and
it is always of the client's version. -/
theorem hello_admits_iff {conn : Connection} (hkey : conn.sharedKey = sharedKey)
    {req : HelloRequest} (hversion : req.protocolVersion = protocolVersion)
    (hproof : req.authProof = Session.authProof p key req.authNonce) :
    ∃ resp, (conn.handleHello p req).1 = .helloResponse resp ∧
      resp.protocolVersion = protocolVersion ∧
      (resp.Admits p key req.authNonce ↔ KeysAgree p key sharedKey req.authNonce) := by
  rcases handleHello_reply (p := p) hkey hversion with ⟨hserver, hreply⟩ | ⟨hserver, hreply⟩
  · rw [hreply]
    refine ⟨_, rfl, rfl, ?_⟩
    constructor
    · rintro ⟨-, hclient⟩
      rw [hproof] at hserver
      exact ⟨hserver, badServerProof_eq_false_iff.mp hclient⟩
    · rintro ⟨-, hclient⟩
      exact ⟨rfl, badServerProof_eq_false_iff.mpr hclient⟩
  · rw [hreply]
    refine ⟨_, rfl, rfl, ?_⟩
    rw [hproof] at hserver
    constructor
    · rintro ⟨haccepted, -⟩
      cases haccepted
    · intro hagree
      exact absurd hagree.server hserver

end

/-! ## A mount -/

namespace Switchover

/-- The server's answer to the Hello of the mount. -/
def helloReply (p : Platform W) (key sharedKey : Option Bytes) (authNonce : Vector UInt8 32)
    (peerAddr : SocketAddr) : Message :=
  ((Connection.new .plain peerAddr sharedKey).handleHello p
    { protocolVersion, clientName := "wolfusb-mount", authNonce,
      authProof := Session.authProof p key authNonce }).1

/-- The first message is the Hello, to a connection that is new, its answer
is the server's, and the client goes on only if the keys agree. -/
structure Checked (p : Platform W) (key sharedKey : Option Bytes) (authNonce : Vector UInt8 32)
    (peerAddr : SocketAddr) (s : Switchover) : Prop where
  fresh : s.replies = [] → ∃ f, s.server = .serving (.new .plain peerAddr sharedKey) f
  first : ∀ reply, s.replies[0]? = some reply →
    reply = helloReply p key sharedKey authNonce peerAddr
  passed : 0 < s.client.inbound.handled → KeysAgree p key sharedKey authNonce

variable {p : Platform W} {debug : Message → String} {b : Bincode} {key sharedKey : Option Bytes}
  {authNonce : Vector UInt8 32} {bus addr : UInt8} {peerAddr : SocketAddr} {s s' : Switchover}

theorem helloReply_admits (p : Platform W) (key sharedKey : Option Bytes)
    (authNonce : Vector UInt8 32) (peerAddr : SocketAddr) :
    ∃ resp, helloReply p key sharedKey authNonce peerAddr = .helloResponse resp ∧
      resp.protocolVersion = protocolVersion ∧
      (resp.Admits p key authNonce ↔ KeysAgree p key sharedKey authNonce) :=
  hello_admits_iff rfl rfl rfl

theorem doHello_helloReply :
    (Mount.doHello p debug key authNonce (.ok ())
        (some (.ok (helloReply p key sharedKey authNonce peerAddr)))).isOk = true ↔
      KeysAgree p key sharedKey authNonce := by
  obtain ⟨resp, hreply, -, hadmits⟩ := helloReply_admits p key sharedKey authNonce peerAddr
  rw [hreply, doHello_isOk_iff, ← hadmits]
  constructor
  · rintro ⟨-, resp', hresp', h⟩
    cases hresp'
    exact h
  · intro h
    exact ⟨rfl, resp, rfl, h⟩

theorem checked_start : (start peerAddr sharedKey).Checked p key sharedKey authNonce peerAddr where
  fresh _ := ⟨⟨[], []⟩, rfl⟩
  first reply h := by cases h
  passed h := by cases h

/-! ### The client -/

/-- What the client takes from the stream is a message only where it
decodes one. -/
theorem handled_receive {chunk : Bytes} {pc pc' : ClientPc}
    (h : pc.receive b chunk = some pc') : pc'.inbound.handled = pc.inbound.handled := by
  cases pc with
  | awaitHello f =>
      simp only [ClientPc.receive] at h
      split at h <;> cases h
      rfl
  | awaitBridge f =>
      simp only [ClientPc.receive] at h
      split at h <;> cases h
      rfl
  | readHeader busid req hdr =>
      simp only [ClientPc.receive] at h
      split at h <;> cases h
      rfl
  | readDevice req hdr dev =>
      simp only [ClientPc.receive] at h
      split at h <;> cases h
      rfl
  | handed req rep sent got =>
      cases h
      rfl
  | _ => cases h

theorem handled_write {n : Nat} {bytes : Bytes} {pc pc' : ClientPc}
    (h : pc.write n = some (bytes, pc')) : pc'.inbound.handled = pc.inbound.handled := by
  cases pc with
  | sendHello f => cases h; rfl
  | sendBridge f => cases h; rfl
  | sendImport busid req unsent => cases h; rfl
  | _ => cases h

theorem handled_kernelSend {bytes : Bytes} {pc pc' : ClientPc}
    (h : pc.kernelSend bytes = some pc') : pc'.inbound.handled = pc.inbound.handled := by
  cases pc with
  | handed req rep sent got => cases h; rfl
  | _ => cases h

/-- **The client passes the Hello** on the server's answer to it. -/
theorem Checked.clientAdvance (h : s.Checked p key sharedKey authNonce peerAddr)
    (hinv : s.Inv p b key authNonce bus addr) {pc : ClientPc}
    (hadv : s.client.advance p debug b key authNonce bus addr = some (some pc)) :
    0 < pc.inbound.handled → KeysAgree p key sharedKey authNonce := by
  intro hpc
  by_cases hpassed : 0 < s.client.inbound.handled
  · exact h.passed hpassed
  · obtain ⟨client, clientLive, server, serverLive, up, down, replies⟩ := s
    cases client with
    | start =>
        obtain ⟨bytes, -, rfl⟩ := send_eq_some (Option.some.inj hadv) rfl
        cases hpc
    | sendHello f =>
        simp only [ClientPc.advance] at hadv
        split at hadv
        · cases hadv
          cases hpc
        · cases hadv
    | awaitHello f =>
        simp only [ClientPc.advance] at hadv
        split at hadv
        · cases hadv
        · cases hadv
        · rename_i m rest hdec
          split at hadv
          · cases hadv
          · rename_i hhello
            obtain ⟨tail, hdrop, -, -⟩ :=
              hinv.down.item (hinv.raw_nil (by simp [ClientPc.inbound])).2 rfl hdec
            have hfirst : replies[0]? = some m := by
              rw [ServerPc.outbound_items] at hdrop
              rw [show replies = m :: tail from hdrop]
              rfl
            obtain rfl := h.first m hfirst
            have hok := congrArg Except.isOk hhello
            exact doHello_helloReply.mp hok
    | _ => exact absurd (by simp [ClientPc.inbound]) hpassed

/-! ### The server -/

theorem Checked.serverAdvance (h : s.Checked p key sharedKey authNonce peerAddr)
    (hinv : s.Inv p b key authNonce bus addr) {env : ServerEnv W} {server : ServerPc}
    {reply : Option Message} (hadv : s.server.advance p b env = some (some (server, reply))) :
    ({ s with server, replies := s.replies ++ reply.toList } : Switchover).Checked p key sharedKey
      authNonce peerAddr := by
  obtain ⟨client, clientLive, pc, serverLive, up, down, replies⟩ := s
  by_cases hnone : replies = []
  · -- a new connection decodes its first message
    subst hnone
    obtain ⟨f, rfl⟩ : ∃ f, pc = .serving (.new .plain peerAddr sharedKey) f := h.fresh rfl
    simp only [ServerPc.advance] at hadv
    split at hadv
    · cases hadv
    · cases hadv
    · rename_i m rest hdec
      obtain ⟨tail, hdrop, -, -⟩ := hinv.up.item (hinv.clientRaw_nil rfl) rfl hdec
      obtain rfl : m = Mount.helloMessage p key authNonce := by
        have hitems : (client.outbound p key authNonce bus addr).items = m :: tail := hdrop
        rcases clientItems_cases p key authNonce bus addr client with hno | hone | htwo
        · cases hno.symm.trans hitems
        · cases hone.symm.trans hitems
          rfl
        · cases htwo.symm.trans hitems
          rfl
      split at hadv
      · cases hadv
      · cases hadv
        refine ⟨fun hempty => (by cases hempty), ?_, h.passed⟩
        intro reply hreply
        obtain rfl := Option.some.inj hreply
        rfl
  · have hfirst : ∀ more : List Message, (replies ++ more)[0]? = replies[0]? := by
      intro more
      exact List.getElem?_append_left (List.length_pos_iff.mpr hnone)
    refine ⟨?_, ?_, h.passed⟩
    · intro hempty
      exact absurd (List.append_eq_nil_iff.mp hempty).1 hnone
    · intro r hr
      rw [show (replies ++ reply.toList)[0]? = replies[0]? from hfirst _] at hr
      exact h.first r hr

/-! ### Runs -/

/-- A connection that is served goes on being served while it reads. -/
theorem serving_receive {chunk : Bytes} {pc pc' : ServerPc} (h : pc.receive b chunk = some pc')
    {conn : Connection} {f : Framed} (hpc : pc = .serving conn f) :
    ∃ f', pc' = .serving conn f' := by
  subst hpc
  simp only [ServerPc.receive] at h
  split at h
  · exact ⟨_, (Option.some.inj h).symm⟩
  · cases h

/-- Nothing is replied, and the client has not decoded anything. -/
theorem Checked.same (h : s.Checked p key sharedKey authNonce peerAddr)
    (hreplies : s'.replies = s.replies)
    (hserver : ∀ conn f, s.server = .serving conn f → ∃ f', s'.server = .serving conn f')
    (hclient : s'.client.inbound.handled = s.client.inbound.handled) :
    s'.Checked p key sharedKey authNonce peerAddr where
  fresh hnone := by
    obtain ⟨f, hf⟩ := h.fresh (hreplies ▸ hnone)
    exact hserver _ f hf
  first := by
    rw [hreplies]
    exact h.first
  passed := by
    rw [hclient]
    exact h.passed

theorem Checked.step (h : s.Checked p key sharedKey authNonce peerAddr)
    (hinv : s.Inv p b key authNonce bus addr) {e : SwitchEvent W}
    (hstep : s.step p debug b key authNonce bus addr e = some s') :
    s'.Checked p key sharedKey authNonce peerAddr := by
  have hstays : ∀ conn f, s.server = .serving conn f → ∃ f', s.server = .serving conn f' :=
    fun conn f hf => ⟨f, hf⟩
  rcases step_cases hstep with ⟨-, hclient⟩ | ⟨-, hserver⟩
  · cases e with
    | client =>
        obtain ⟨r, hadv, rfl⟩ := Option.map_eq_some_iff.mp hclient
        cases r with
        | none => exact h.same rfl hstays rfl
        | some pc => exact ⟨h.fresh, h.first, h.clientAdvance hinv hadv⟩
    | clientRead n =>
        obtain ⟨client, hread, rfl⟩ := Option.map_eq_some_iff.mp hclient
        exact h.same rfl hstays (handled_receive hread)
    | clientWrite n =>
        obtain ⟨⟨bytes, client⟩, hwrite, rfl⟩ := Option.map_eq_some_iff.mp hclient
        exact h.same rfl hstays (handled_write hwrite)
    | clientKernel bytes =>
        obtain ⟨client, hsend, rfl⟩ := Option.map_eq_some_iff.mp hclient
        exact h.same rfl hstays (handled_kernelSend hsend)
    | clientFails =>
        obtain rfl := Option.some.inj hclient
        exact h.same rfl hstays rfl
    | _ => cases hclient
  · cases e with
    | server env =>
        obtain ⟨r, hadv, rfl⟩ := Option.map_eq_some_iff.mp hserver
        cases r with
        | none => exact h.same rfl hstays rfl
        | some r => exact h.serverAdvance hinv hadv
    | serverRead n =>
        obtain ⟨server, hread, rfl⟩ := Option.map_eq_some_iff.mp hserver
        exact h.same rfl (fun _ _ hf => serving_receive hread hf) rfl
    | serverWrite n =>
        obtain ⟨⟨bytes, server⟩, hwrite, rfl⟩ := Option.map_eq_some_iff.mp hserver
        refine h.same rfl (fun conn f hf => ?_) rfl
        rw [hf] at hwrite
        cases hwrite
    | serverKernel bytes =>
        obtain ⟨server, hsend, rfl⟩ := Option.map_eq_some_iff.mp hserver
        refine h.same rfl (fun conn f hf => ?_) rfl
        rw [hf] at hsend
        cases hsend
    | serverFails =>
        obtain rfl := Option.some.inj hserver
        exact h.same rfl hstays rfl
    | _ => cases hserver

end Switchover

/-- **The keys decide.** In every run of `cmd_mount` against a connection
of the server, with any keys on the two sides: the client gets past its
Hello only if the keys agree, so its Bridge request is sent and served
only then; and the first reply of the server is one on which `do_hello`
succeeds exactly if they agree, as `connect` would on it. Equal keys do,
and a key does not agree with none where tags are not empty. -/
theorem keys_decide (p : Platform W) (debug : Message → String) (b : Bincode)
    (hb : b.RoundTrips) (hc : b.Compact) (htags : ShortTags p) (key sharedKey : Option Bytes)
    (authNonce : Vector UInt8 32) (bus addr : UInt8) (peerAddr : SocketAddr)
    {es : List (SwitchEvent W)} {s : Switchover}
    (hrun : Run (Guarded fun s e => Switchover.step p debug b key authNonce bus addr s e)
      (.start peerAddr sharedKey) es s) :
    ((0 < s.client.inbound.handled ∨ 1 < s.replies.length) →
      KeysAgree p key sharedKey authNonce) ∧
    (∀ reply, s.replies[0]? = some reply →
      ((Mount.doHello p debug key authNonce (.ok ()) (some (.ok reply))).isOk = true ↔
        KeysAgree p key sharedKey authNonce) ∧
      ((Session.connect p debug key authNonce (.ok ()) (some (.ok reply))).isOk = true ↔
        KeysAgree p key sharedKey authNonce)) ∧
    (key = sharedKey → KeysAgree p key sharedKey authNonce) ∧
    (KeysAgree p key sharedKey authNonce → (∀ k m, p.hmacSha256 k m ≠ []) →
      key.isSome = sharedKey.isSome) := by
  have hboth : s.Inv p b key authNonce bus addr ∧
      s.Checked p key sharedKey authNonce peerAddr := by
    refine hrun.preserves (I := fun s : Switchover => s.Inv p b key authNonce bus addr ∧
      s.Checked p key sharedKey authNonce peerAddr) ?_ ?_
    · intro s e s' h hstep
      exact ⟨h.1.step hb hc htags hstep, h.2.step h.1 hstep⟩
    · exact ⟨Switchover.inv_start p b key authNonce bus addr peerAddr sharedKey,
        Switchover.checked_start⟩
  obtain ⟨hinv, hchecked⟩ := hboth
  refine ⟨?_, ?_, ?_, KeysAgree.isSome_eq⟩
  · rintro (hpassed | htwo)
    · exact hchecked.passed hpassed
    · -- the second message of the client follows its Hello
      refine hchecked.passed ?_
      have hle := hinv.up.handled_le
      rw [ServerPc.inbound_handled] at hle
      have hlong := Nat.lt_of_lt_of_le htwo hle
      cases hclient : s.client with
      | start => simp [hclient, ClientPc.outbound] at hlong
      | sendHello f => simp [hclient, ClientPc.outbound] at hlong
      | awaitHello f => simp [hclient, ClientPc.outbound] at hlong
      | _ => simp [ClientPc.inbound]
  · intro reply hreply
    obtain rfl := hchecked.first reply hreply
    refine ⟨Switchover.doHello_helloReply, ?_⟩
    obtain ⟨resp, hresp, hversion, hadmits⟩ :=
      Switchover.helloReply_admits p key sharedKey authNonce peerAddr
    rw [hresp, connect_isOk_iff, ← hadmits]
    constructor
    · rintro ⟨-, resp', heq, h, -⟩
      cases heq
      exact h
    · intro h
      exact ⟨rfl, resp, rfl, h, hversion⟩
  · rintro rfl
    exact KeysAgree.refl

/-- A host whose hash is the key. -/
def keyHost : Platform Nat := { twoDeviceHost with hmacSha256 := fun key _ => key.take 32 }

theorem keyHost_shortTags : ShortTags keyHost := by
  intro key m
  exact List.length_take_le 32 key

/-- A client with another key than the server's: it has the answer, and
does not get past it. -/
theorem keys_decide_wrong_key :
    ∃ s, Run (Guarded fun s e => Switchover.step keyHost (fun _ => "") .standard (some [1])
        (.replicate 32 0) 1 2 s e) (.start ⟨"10.0.0.1", 4000⟩ (some [2]))
        [.client, .clientWrite 1000, .client, .serverRead 1000,
          cameraStep .normal, .serverWrite 1000, .clientRead 1000, .client] s ∧
      s.replies.length = 1 ∧ s.client.inbound.handled = 0 ∧ s.clientLive = false ∧
      ¬ KeysAgree keyHost (some [1]) (some [2]) (.replicate 32 0) := by
  have hplay : (play (fun s e => Switchover.step keyHost (fun _ => "") .standard (some [1])
      (.replicate 32 0) 1 2 s e) (.start ⟨"10.0.0.1", 4000⟩ (some [2]))
      [.client, .clientWrite 1000, .client, .serverRead 1000,
        cameraStep .normal, .serverWrite 1000, .clientRead 1000, .client]).map
        (fun s => (s.replies, s.client.inbound.handled, s.clientLive))
      = some ([Connection.helloRefused "Authentication failed"], 0, false) := by
    decide +kernel
  obtain ⟨s, hs, hend⟩ := Option.map_eq_some_iff.mp hplay
  obtain ⟨hreplies, hrest⟩ := Prod.mk.inj hend
  obtain ⟨hhandled, hlive⟩ := Prod.mk.inj hrest
  have hrun := play_iff_run.mp hs
  have hdecides := keys_decide keyHost (fun _ => "") .standard Bincode.standard_roundTrips
    Bincode.standard_compact keyHost_shortTags (some [1]) (some [2]) (.replicate 32 0) 1 2
    ⟨"10.0.0.1", 4000⟩ hrun
  refine ⟨s, hrun, by rw [hreplies]; rfl, hhandled, hlive, ?_⟩
  rw [← (hdecides.2.1 _ (by rw [hreplies]; rfl)).1]
  decide +kernel

end WolfUsb
