/-
WolfUsb.Network.HandshakeTheorems — what the handshake authenticates.

`Sound` is the invariant over runs in which a valid tag is one that has
been seen: every tag that has is the client proof of a nonce some client
sent, the server proof of a Hello some server accepted, or the empty tag of
a refusal, and every fact of the history is justified by older ones
(`Justified`). The nonce has a fixed length, so the two suffixes keep the
messages apart, and the messages of one run have different proofs.

A client that verified a proof for its nonce was answered by a server
that accepted a Hello with that nonce (`client_authenticates_server`). The
server contributes no nonce: a recorded Hello is accepted on every
connection it reaches (`recorded_hello_accepted_again`), and the accepted
connections belong to distinct sessions in the runs without such a replay
(`accepted_connections_injective`).
-/
import WolfUsb.Lib.History
import WolfUsb.Network.Handshake
import WolfUsb.Server.ReplyTheorems

namespace WolfUsb

open WolfUsb.Lib

variable {W : Type} (p : Platform W) (debug : Message → String) (key : Bytes)

/-! ## Proofs under an ideal HMAC -/

/-- Nonces have one length, so a message determines nonce and suffix. -/
theorem nonce_append_inj {n n' : Vector UInt8 32} {suffix suffix' : Bytes}
    (h : n.toList ++ suffix = n'.toList ++ suffix') : n = n' ∧ suffix = suffix' := by
  have hlen : n.toList.length = n'.toList.length := by simp
  obtain ⟨hn, hs⟩ := List.append_inj h hlen
  exact ⟨Vector.toList_inj.mp hn, hs⟩

namespace Network

theorem client_mem_messagesOf (n : Vector UInt8 32) :
    n.toList ++ Connection.clientSuffix ∈ messagesOf n := List.mem_cons_self

theorem server_mem_messagesOf (n : Vector UInt8 32) :
    n.toList ++ Connection.serverSuffix ∈ messagesOf n :=
  List.mem_cons_of_mem _ List.mem_cons_self

namespace IdealHmac

variable {p key} {messages : List Bytes} (hideal : IdealHmac p key messages)
include hideal

theorem proof_ne_nil (n : Vector UInt8 32) (suffix : Bytes) :
    Connection.proof p key n suffix ≠ [] := by
  intro h
  have hlen := hideal.length (n.toList ++ suffix)
  rw [show p.hmacSha256 key (n.toList ++ suffix) = [] from h] at hlen
  cases hlen

/-- A proof of the run determines nonce and suffix. -/
theorem proof_inj {n n' : Vector UInt8 32} {suffix suffix' : Bytes}
    (hm : n.toList ++ suffix ∈ messages) (hm' : n'.toList ++ suffix' ∈ messages)
    (h : Connection.proof p key n suffix = Connection.proof p key n' suffix') :
    n = n' ∧ suffix = suffix' :=
  nonce_append_inj (hideal.noCollision _ hm _ hm' h)

/-- **Domain separation.** -/
theorem clientProof_ne_serverProof {n n' : Vector UInt8 32}
    (hm : n.toList ++ Connection.clientSuffix ∈ messages)
    (hm' : n'.toList ++ Connection.serverSuffix ∈ messages) :
    Connection.proof p key n Connection.clientSuffix
      ≠ Connection.proof p key n' Connection.serverSuffix := by
  intro h
  have hsuffix := (hideal.proof_inj hm hm' h).2
  revert hsuffix
  decide +kernel

end IdealHmac

end Network

/-! ## A server with the key -/

/-- Only a HelloResponse among the replies carries a tag, and only a Hello
is answered by one. -/
theorem tag_of_answers {msg reply : Message} (hhello : ∀ req, msg ≠ .hello req)
    (h : Answers msg reply) : reply.tag = none := by
  cases reply with
  | hello req => cases msg <;> exact False.elim h
  | helloResponse resp =>
      cases msg with
      | hello req => exact absurd rfl (hhello req)
      | _ => exact False.elim h
  | _ => rfl

namespace Connection

variable {p key}

theorem handleHello_keyed {conn : Connection} (hkey : conn.sharedKey = some key)
    (req : HelloRequest) :
    ValidHello p key (.hello req) ∧
        (handleHello p conn req).1 = helloAccepted (proof p key req.authNonce serverSuffix) ∨
      ¬ ValidHello p key (.hello req) ∧ ∃ text, (handleHello p conn req).1 = helloRefused text := by
  unfold handleHello
  rw [hkey]
  split
  · rename_i hversion
    refine Or.inr ⟨?_, _, rfl⟩
    rintro ⟨req', hreq, hv, -⟩
    cases hreq
    exact hversion hv
  · rename_i hversion
    by_cases hproof : proof p key req.authNonce clientSuffix = req.authProof
    · refine Or.inl ⟨⟨req, rfl, not_not.mp hversion, hproof⟩, ?_⟩
      simp [hproof]
    · refine Or.inr ⟨?_, "Authentication failed", by simp [hproof]⟩
      rintro ⟨req', hreq, -, hp⟩
      cases hreq
      exact hproof hp

end Connection

namespace Server

/-- The server has the key, and so have its connections. -/
structure Keyed (key : Bytes) (sv : Server W) : Prop where
  sharedKey : sv.sharedKey = some key
  connections : ∀ c conn, sv.connections.lookup c = some conn → conn.sharedKey = some key

theorem keyed_start (tls : Bool) (world : W) : Keyed key (.start (some key) tls world) where
  sharedKey := rfl
  connections c _ h := nomatch (Finmap.lookup_empty c).symm.trans h

variable {p key} {sv sv' : Server W} {e : Event} {out : Output}

theorem Keyed.step (h : sv.Keyed key) (hstep : StepsTo p sv e sv' out) : sv'.Keyed key where
  sharedKey := by cases hstep <;> exact h.sharedKey
  connections c conn hconn := by
    rcases hstep.connection_after hconn with ⟨addr, -, -, rfl⟩ | hold |
      ⟨msg, o, conn₀, sh, -, hc, resp, hm, -⟩
    · exact h.sharedKey
    · exact h.connections c conn hold
    · have hkept := (Connection.handleMessage_authenticated p o.join conn₀ msg sv.shared).1
      rw [hm] at hkept
      exact hkept.trans (h.connections c conn₀ hc)

/-- What an event is to the handshake. -/
inductive Greets (p : Platform W) (key : Bytes) : Event → Output → Prop
  /-- A valid Hello was answered with a proof. -/
  | accepted {c : Nat} {req : HelloRequest} {o : Outcome} {out : Output}
      (hvalid : Connection.ValidHello p key (.hello req))
      (hreply : out.reply = some
        (Connection.helloAccepted (Connection.proof p key req.authNonce Connection.serverSuffix))) :
      Greets p key (.receive c (.hello req) o) out
  | refused {c : Nat} {req : HelloRequest} {o : Outcome} {out : Output} {text : String}
      (hinvalid : ¬ Connection.ValidHello p key (.hello req))
      (hreply : out.reply = some (Connection.helloRefused text)) :
      Greets p key (.receive c (.hello req) o) out
  /-- The event is no Hello and its reply carries no tag. -/
  | other {e : Event} {out : Output} (hhello : ∀ c req o, e ≠ .receive c (.hello req) o)
      (htag : out.reply.bind Message.tag = none) : Greets p key e out

theorem Keyed.greets (h : sv.Keyed key) (hstep : StepsTo p sv e sv' out) : Greets p key e out := by
  by_cases hhello : ∃ c req o, e = .receive c (.hello req) o
  · obtain ⟨c, req, o, rfl⟩ := hhello
    obtain ⟨conn, hc, hreply⟩ := hstep.reply_eq
    have hreply : out.reply = some (Connection.handleHello p conn req).1 := hreply
    rcases Connection.handleHello_keyed (p := p) (h.connections c conn hc) req with
      ⟨hvalid, hr⟩ | ⟨hinvalid, text, hr⟩
    · exact .accepted hvalid (hr ▸ hreply)
    · exact .refused hinvalid (hr ▸ hreply)
  · have hhello : ∀ c req o, e ≠ .receive c (.hello req) o :=
      fun c req o he => hhello ⟨c, req, o, he⟩
    refine .other hhello ?_
    cases e with
    | accept addr =>
        cases hstep
        rfl
    | hangup c o =>
        cases hstep
        rfl
    | receive c msg o =>
        obtain ⟨conn, hc, hreply⟩ := hstep.reply_eq
        rw [hreply]
        exact tag_of_answers (fun req hreq => hhello c req o (hreq ▸ rfl))
          (Connection.handleMessage_answers p o.join conn msg sv.shared)

end Server

namespace Network

/-! ## What the history says -/

/-- What must be older than a fact. -/
def Justified (older : List Fact) : Fact → Prop
  | .sent _ _ => True
  | .delivered d =>
      Connection.ValidHello p key (.hello d.req) → ∃ i, .sent i d.req.authNonce ∈ older
  | .accepted k c n b =>
      b = Connection.proof p key n Connection.serverSuffix ∧
      ∃ req, Connection.ValidHello p key (.hello req) ∧ req.authNonce = n ∧
        .delivered ⟨k, c, req⟩ ∈ older
  | .verified i n b =>
      b = Connection.proof p key n Connection.serverSuffix ∧ .sent i n ∈ older ∧
      ∃ k c, .accepted k c n b ∈ older

/-- A tag the honest parties have let out. -/
inductive Known (log : List Fact) : Bytes → Prop
  | client {i : Nat} {n : Vector UInt8 32} (h : .sent i n ∈ log) :
      Known log (Connection.proof p key n Connection.clientSuffix)
  | server {k c : Nat} {n : Vector UInt8 32} {b : Bytes} (h : .accepted k c n b ∈ log) :
      Known log b
  | refusal : Known log []

theorem Known.mono {log log' : List Fact} {b : Bytes} (h : Known p key log b)
    (hsub : log ⊆ log') : Known p key log' b := by
  cases h with
  | client h => exact .client (hsub h)
  | server h => exact .server (hsub h)
  | refusal => exact .refusal

/-- What the history says of client session `i` in each of its states. -/
def Tracks (log : List Fact) (i : Nat) : ClientState → Prop
  | .idle => ∀ n, .sent i n ∉ log
  | .waiting _ n => .sent i n ∈ log
  | .connected _ n => ∃ b, .verified i n b ∈ log
  | .failed => True

theorem Tracks.mono {log log' : List Fact} {i : Nat} {st : ClientState} (h : Tracks log i st)
    (hsub : log ⊆ log') (hsent : ∀ n, .sent i n ∈ log' → .sent i n ∈ log) : Tracks log' i st := by
  cases st with
  | idle => exact fun n hn => h n (hsent n hn)
  | waiting kind n => exact hsub h
  | connected kind n =>
      obtain ⟨b, hb⟩ := h
      exact ⟨b, hsub hb⟩
  | failed => trivial

/-- The authenticated connections of server `k` accepted a Hello. -/
def Vouched (log : List Fact) (k : Nat) (sv : Server W) : Prop :=
  ∀ c conn, sv.connections.lookup c = some conn → conn.authenticated = true →
    ∃ n b, .accepted k c n b ∈ log

theorem Vouched.mono {log log' : List Fact} {k : Nat} {sv : Server W} (h : Vouched log k sv)
    (hsub : log ⊆ log') : Vouched log' k sv := by
  intro c conn hc hflag
  obtain ⟨n, b, hb⟩ := h c conn hc hflag
  exact ⟨n, b, hsub hb⟩

/-- The invariant of the runs in which a valid tag has been seen, where
`messages` are those of the run. -/
structure Sound (messages : List Bytes) (s : Network W) : Prop where
  keyed : ∀ k, (s.servers k).Keyed key
  log : Founded (Justified p key) s.log
  tagged : ∀ i n, .sent i n ∈ s.log → ∀ m ∈ messagesOf n, m ∈ messages
  seen : ∀ b ∈ s.seen, Known p key s.log b
  clients : ∀ i, Tracks s.log i (s.clients i)
  /-- A session sends one Hello. -/
  once : ∀ i n n', .sent i n ∈ s.log → .sent i n' ∈ s.log → n = n'
  servers : ∀ k, Vouched s.log k (s.servers k)

theorem sound_start (messages : List Bytes) (tls : Nat → Bool) (worlds : Nat → W) :
    Sound p key messages (start key tls worlds) where
  keyed k := Server.keyed_start key (tls k) (worlds k)
  log := trivial
  tagged _ _ h := nomatch h
  seen _ h := nomatch h
  clients _ _ h := nomatch h
  once _ _ _ h := nomatch h
  servers _ c _ h := nomatch (Finmap.lookup_empty c).symm.trans h

variable {p key} {messages : List Bytes}

/-- The proof of an acceptance, its Hello, and the session that sent it. -/
theorem Sound.origin {s : Network W} (h : Sound p key messages s) {k c : Nat}
    {n : Vector UInt8 32} {b : Bytes} (hacc : .accepted k c n b ∈ s.log) :
    b = Connection.proof p key n Connection.serverSuffix ∧
    ∃ req i, Connection.ValidHello p key (.hello req) ∧ req.authNonce = n ∧
      .delivered ⟨k, c, req⟩ ∈ s.log ∧ .sent i n ∈ s.log := by
  obtain ⟨newer, older, hlog, hproof, req, hvalid, hnonce, hdelivered⟩ := h.log.split hacc
  have hmem : .delivered ⟨k, c, req⟩ ∈ s.log := by
    rw [hlog]
    exact List.mem_append_right _ (List.mem_cons_of_mem _ hdelivered)
  obtain ⟨newer', older', hlog', hjust⟩ := h.log.split hmem
  obtain ⟨i, hi⟩ := hjust hvalid
  refine ⟨hproof, req, i, hvalid, hnonce, hmem, ?_⟩
  rw [hlog', ← hnonce]
  exact List.mem_append_right _ (List.mem_cons_of_mem _ hi)

section Tags

variable {s : Network W} (hideal : IdealHmac p key messages) (h : Sound p key messages s)
include h

theorem Sound.client_mem {i : Nat} {n : Vector UInt8 32} (hsent : .sent i n ∈ s.log) :
    n.toList ++ Connection.clientSuffix ∈ messages :=
  h.tagged i n hsent _ (client_mem_messagesOf n)

theorem Sound.server_mem {i : Nat} {n : Vector UInt8 32} (hsent : .sent i n ∈ s.log) :
    n.toList ++ Connection.serverSuffix ∈ messages :=
  h.tagged i n hsent _ (server_mem_messagesOf n)

include hideal

/-- A client proof that has been seen is of a nonce some client sent. -/
theorem Sound.sent_of_clientProof {n : Vector UInt8 32}
    (hm : n.toList ++ Connection.clientSuffix ∈ messages)
    (hseen : Connection.proof p key n Connection.clientSuffix ∈ s.seen) :
    ∃ i, .sent i n ∈ s.log := by
  generalize hb : Connection.proof p key n Connection.clientSuffix = b at hseen
  cases h.seen b hseen with
  | client hsent =>
      obtain ⟨rfl, -⟩ := hideal.proof_inj hm (h.client_mem hsent) hb
      exact ⟨_, hsent⟩
  | server hacc =>
      obtain ⟨rfl, req, i, -, -, -, hsent⟩ := h.origin hacc
      exact absurd hb (hideal.clientProof_ne_serverProof hm (h.server_mem hsent))
  | refusal => exact absurd hb (hideal.proof_ne_nil _ _)

/-- A server proof that has been seen is the answer to a Hello that was
accepted. -/
theorem Sound.accepted_of_serverProof {n : Vector UInt8 32}
    (hm : n.toList ++ Connection.serverSuffix ∈ messages)
    (hseen : Connection.proof p key n Connection.serverSuffix ∈ s.seen) :
    ∃ k c, .accepted k c n (Connection.proof p key n Connection.serverSuffix) ∈ s.log := by
  generalize hb : Connection.proof p key n Connection.serverSuffix = b at hseen
  cases h.seen b hseen with
  | client hsent =>
      exact absurd hb.symm (hideal.clientProof_ne_serverProof (h.client_mem hsent) hm)
  | server hacc =>
      obtain ⟨hproof, req, i, -, -, -, hsent⟩ := h.origin hacc
      obtain ⟨rfl, -⟩ := hideal.proof_inj hm (h.server_mem hsent) (hb.trans hproof)
      exact ⟨_, _, hacc⟩
  | refusal => exact absurd hb (hideal.proof_ne_nil _ _)

end Tags

/-! ## A client begins -/

theorem tag_helloOf (kind : ClientKind) (n : Vector UInt8 32) :
    (helloOf p key kind n).tag = some (Connection.proof p key n Connection.clientSuffix) := by
  cases kind <;> rfl

theorem Sound.hello {s : Network W} (h : Sound p key messages s) {i : Nat} {kind : ClientKind}
    {n : Vector UInt8 32} (hidle : s.clients i = .idle) (htag : ∀ m ∈ messagesOf n, m ∈ messages) :
    Sound p key messages { s with
      clients := Function.update s.clients i (.waiting kind n)
      seen := (helloOf p key kind n).tag.toList ++ s.seen
      log := .sent i n :: s.log } := by
  have hsub : s.log ⊆ .sent i n :: s.log := List.subset_cons_self _ _
  have hnone : ∀ m, .sent i m ∉ s.log := by
    have htracks := h.clients i
    rwa [hidle] at htracks
  -- no other session has sent anything new
  have hother : ∀ j, j ≠ i → ∀ m, .sent j m ∈ Fact.sent i n :: s.log → .sent j m ∈ s.log := by
    intro j hj m hm
    rcases List.mem_cons.mp hm with heq | hold
    · cases heq
      exact absurd rfl hj
    · exact hold
  have hmine : ∀ m, .sent i m ∈ Fact.sent i n :: s.log → m = n := by
    intro m hm
    rcases List.mem_cons.mp hm with heq | hold
    · cases heq
      rfl
    · exact absurd hold (hnone m)
  exact {
    keyed := h.keyed
    log := ⟨trivial, h.log⟩
    tagged := by
      intro j m hm
      rcases List.mem_cons.mp hm with heq | hold
      · cases heq
        exact htag
      · exact h.tagged j m hold
    seen := by
      intro b hb
      rw [tag_helloOf] at hb
      rcases List.mem_cons.mp hb with rfl | hold
      · exact .client List.mem_cons_self
      · exact (h.seen b hold).mono p key hsub
    clients := (Function.forall_update_iff s.clients (fun j st => Tracks _ j st)).mpr
      ⟨List.mem_cons_self, fun j hj => (h.clients j).mono hsub (hother j hj)⟩
    once := by
      intro j m m' hm hm'
      by_cases hj : j = i
      · subst hj
        exact (hmine m hm).trans (hmine m' hm').symm
      · exact h.once j m m' (hother j hj m hm) (hother j hj m' hm')
    servers := fun k => (h.servers k).mono hsub }

/-! ## A client is answered -/

/-- What a client that succeeded was given. -/
theorem serverProof_of_succeeds {kind : ClientKind} {n : Vector UInt8 32} {next : NextFrame}
    (h : succeeds p debug key kind n next = true) :
    ∃ resp, next = some (.ok (.helloResponse resp)) ∧
      resp.authChallengeResponse = Connection.proof p key n Connection.serverSuffix := by
  have ok_of : ∀ resp : HelloResponse,
      Session.badServerProof p (some key) n resp.authChallengeResponse = false →
      resp.authChallengeResponse = Connection.proof p key n Connection.serverSuffix := by
    intro resp hbad
    exact (bne_eq_false_iff_eq.mp hbad).symm
  cases kind with
  | session clientName =>
      simp only [succeeds, Session.connect] at h
      split at h
      · cases h
      · cases h
      · rename_i resp
        refine ⟨resp, rfl, ok_of resp ?_⟩
        simp only [Session.checkHello] at h
        split at h
        · cases h
        · split at h
          · cases h
          · rename_i hbad
            exact Bool.eq_false_iff.mpr hbad
      · cases h
  | mount =>
      simp only [succeeds, Mount.doHello] at h
      split at h
      · rename_i resp
        refine ⟨resp, rfl, ok_of resp ?_⟩
        split at h
        · cases h
        · split at h
          · cases h
          · rename_i hbad
            exact Bool.eq_false_iff.mpr hbad
      · cases h
      · cases h
      · cases h

theorem Sound.answer {s : Network W} (hideal : IdealHmac p key messages)
    (h : Sound p key messages s) {i : Nat} {kind : ClientKind} {n : Vector UInt8 32}
    {next : NextFrame} (hwait : s.clients i = .waiting kind n)
    (hpres : Presents p key s (.answer i next)) (hok : succeeds p debug key kind n next = true) :
    Sound p key messages { s with
      clients := Function.update s.clients i (.connected kind n)
      log := .verified i n next.serverProof :: s.log } := by
  have hsub : s.log ⊆ .verified i n next.serverProof :: s.log := List.subset_cons_self _ _
  have hsent : .sent i n ∈ s.log := by
    have htracks := h.clients i
    rwa [hwait] at htracks
  have hold : ∀ j m, .sent j m ∈ Fact.verified i n next.serverProof :: s.log →
      .sent j m ∈ s.log := by
    intro j m hm
    rcases List.mem_cons.mp hm with heq | hold
    · cases heq
    · exact hold
  obtain ⟨resp, rfl, hproof⟩ := serverProof_of_succeeds debug hok
  have hproof : NextFrame.serverProof (some (.ok (.helloResponse resp)))
      = Connection.proof p key n Connection.serverSuffix := hproof
  have hcheck : checkedBy s (.answer i (some (.ok (.helloResponse resp))))
      = some (n.toList ++ Connection.serverSuffix, resp.authChallengeResponse) := by
    rw [checkedBy, hwait]
    rfl
  have hseen := hpres _ hcheck hproof
  have hseen : Connection.proof p key n Connection.serverSuffix ∈ s.seen := hproof ▸ hseen
  exact {
    keyed := h.keyed
    log := by
      refine ⟨⟨hproof, hsent, ?_⟩, h.log⟩
      rw [hproof]
      exact h.accepted_of_serverProof hideal (h.server_mem hsent) hseen
    tagged := fun j m hm => h.tagged j m (hold j m hm)
    seen := fun b hb => (h.seen b hb).mono p key hsub
    clients := (Function.forall_update_iff s.clients (fun j st => Tracks _ j st)).mpr
      ⟨⟨_, List.mem_cons_self⟩, fun j _ => (h.clients j).mono hsub (hold j)⟩
    once := fun j m m' hm hm' => h.once j m m' (hold j m hm) (hold j m' hm')
    servers := fun k => (h.servers k).mono hsub }

theorem Sound.fail {s : Network W} (h : Sound p key messages s) (i : Nat) :
    Sound p key messages { s with clients := Function.update s.clients i .failed } where
  keyed := h.keyed
  log := h.log
  tagged := h.tagged
  seen := h.seen
  clients := (Function.forall_update_iff s.clients (fun j st => Tracks _ j st)).mpr
    ⟨trivial, fun j _ => h.clients j⟩
  once := h.once
  servers := h.servers

/-! ## A server is given a frame -/

theorem sent_of_factsOf {k i : Nat} {e : Event} {out : Output} {n : Vector UInt8 32}
    {log : List Fact} (h : .sent i n ∈ factsOf k e out ++ log) : .sent i n ∈ log := by
  rcases List.mem_append.mp h with hnew | hold
  · unfold factsOf at hnew
    split at hnew
    · split at hnew
      · split at hnew <;> simp at hnew
      · simp at hnew
    · cases hnew
  · exact hold

theorem factsOf_of_not_hello {k : Nat} {e : Event} {out : Output}
    (h : ∀ c req o, e ≠ .receive c (.hello req) o) : factsOf k e out = [] := by
  unfold factsOf
  split
  · exact absurd rfl (h _ _ _)
  · rfl

/-- A connection that is authenticated now was before, or its Hello has
just been accepted. -/
theorem accepted_of_authenticated {k : Nat} {sv sv' : Server W} {e : Event} {out : Output}
    {c : Nat} {conn' : Connection} (hkeyed : sv.Keyed key) (hstep : Server.StepsTo p sv e sv' out)
    (hc' : sv'.connections.lookup c = some conn') (hflag : conn'.authenticated = true) :
    (∃ conn, sv.connections.lookup c = some conn ∧ conn.authenticated = true) ∨
      ∃ n b, .accepted k c n b ∈ factsOf k e out := by
  rcases hstep.connection_after hc' with
    ⟨addr, -, -, rfl⟩ | hold | ⟨msg, o, conn, sh, rfl, hc, resp, hm, hreply⟩
  · cases hflag
  · exact Or.inl ⟨conn', hold, hflag⟩
  · have hauth := (Connection.handleMessage_authenticated p o.join conn msg sv.shared).2
    rw [hm] at hauth
    have hauth : conn'.authenticated
        = (conn.authenticated || Connection.verdict resp == some true) := hauth
    rw [hflag] at hauth
    rcases Bool.or_eq_true_iff.mp hauth.symm with hwas | hverdict
    · exact Or.inl ⟨conn, hc, hwas⟩
    · have hverdict : Connection.verdict resp = some true := beq_iff_eq.mp hverdict
      cases hkeyed.greets hstep with
      | @accepted _ req _ _ hvalid hreply' =>
          rw [factsOf, hreply']
          exact Or.inr ⟨req.authNonce, _, List.mem_cons_self⟩
      | refused hinvalid hreply' =>
          rw [hreply'] at hreply
          obtain rfl := Option.some.inj hreply
          cases hverdict
      | other hhello htag =>
          rw [hreply] at htag
          cases resp with
          | helloResponse r => cases htag
          | _ => cases hverdict

theorem Sound.serve {s : Network W} (hideal : IdealHmac p key messages)
    (h : Sound p key messages s) {k : Nat} {e : Event} {sv : Server W} {out : Output}
    (hstep : (s.servers k).step p e = some (sv, out)) (hpres : Presents p key s (.serve k e))
    (htag : ∀ m ∈ taggedBy (.serve k e), m ∈ messages) :
    Sound p key messages { s with
      servers := Function.update s.servers k sv
      seen := (out.reply.bind Message.tag).toList ++ s.seen
      log := factsOf k e out ++ s.log } := by
  have hcases := Server.step_cases p hstep
  have hsub : s.log ⊆ factsOf k e out ++ s.log := List.subset_append_right _ _
  -- the new facts are justified, and a tag that is let out is known
  have hnew : Founded (Justified p key) (factsOf k e out ++ s.log) ∧
      ∀ b ∈ out.reply.bind Message.tag, Known p key (factsOf k e out ++ s.log) b := by
    cases (h.keyed k).greets hcases with
    | @accepted c req o _ hvalid hreply =>
        have hfacts : factsOf k (.receive c (.hello req) o) out
            = [.accepted k c req.authNonce
                (Connection.proof p key req.authNonce Connection.serverSuffix),
              .delivered ⟨k, c, req⟩] := by
          rw [factsOf, hreply]
          rfl
        obtain ⟨req', hreq, -, hproof⟩ := id hvalid
        cases hreq
        have hseen := hpres _ rfl hproof.symm
        obtain ⟨i, hi⟩ := h.sent_of_clientProof hideal (htag _ (client_mem_messagesOf _))
          (hproof ▸ hseen)
        rw [hfacts, hreply]
        refine ⟨⟨⟨rfl, req, hvalid, rfl, List.mem_cons_self⟩, fun _ => ⟨i, hi⟩, h.log⟩, ?_⟩
        intro b hb
        obtain rfl := Option.some.inj hb
        exact .server List.mem_cons_self
    | @refused c req o _ text hinvalid hreply =>
        have hfacts : factsOf k (.receive c (.hello req) o) out = [.delivered ⟨k, c, req⟩] := by
          rw [factsOf, hreply]
          rfl
        rw [hfacts, hreply]
        refine ⟨⟨fun hvalid => absurd hvalid hinvalid, h.log⟩, ?_⟩
        intro b hb
        obtain rfl := Option.some.inj hb
        exact .refusal
    | other hhello htag =>
        rw [factsOf_of_not_hello hhello, htag]
        exact ⟨h.log, fun b hb => nomatch hb⟩
  exact {
    keyed := (Function.forall_update_iff s.servers (fun _ sv => sv.Keyed key)).mpr
      ⟨(h.keyed k).step hcases, fun j _ => h.keyed j⟩
    log := hnew.1
    tagged := fun i n hn => h.tagged i n (sent_of_factsOf hn)
    seen := by
      intro b hb
      rcases List.mem_append.mp hb with hb | hold
      · exact hnew.2 b (Option.mem_toList.mp hb)
      · exact (h.seen b hold).mono p key hsub
    clients := fun i => (h.clients i).mono hsub fun _ => sent_of_factsOf
    once := fun i n n' hn hn' => h.once i n n' (sent_of_factsOf hn) (sent_of_factsOf hn')
    servers := by
      refine (Function.forall_update_iff s.servers (fun j sv => Vouched _ j sv)).mpr
        ⟨fun c conn' hc' hflag => ?_, fun j _ => (h.servers j).mono hsub⟩
      rcases accepted_of_authenticated (k := k) (h.keyed k) hcases hc' hflag with
        ⟨conn, hc, hwas⟩ | ⟨n, b, hb⟩
      · obtain ⟨n, b, hb⟩ := h.servers k c conn hc hwas
        exact ⟨n, b, hsub hb⟩
      · exact ⟨n, b, List.mem_append_left _ hb⟩ }

/-! ## Runs -/

theorem Sound.step {s s' : Network W} {e : NetEvent} (hideal : IdealHmac p key messages)
    (h : Sound p key messages s) (hpres : Presents p key s e)
    (htag : ∀ m ∈ taggedBy e, m ∈ messages) (hstep : Steps p debug key s e s') :
    Sound p key messages s' := by
  have hstep : s.step p debug key e = some s' := hstep
  cases e with
  | hello i kind n =>
      simp only [Network.step] at hstep
      split at hstep
      · rename_i hidle
        obtain rfl := Option.some.inj hstep
        exact h.hello hidle htag
      · cases hstep
  | serve k e =>
      simp only [Network.step] at hstep
      split at hstep
      · cases hstep
      · rename_i sv out hserver
        obtain rfl := Option.some.inj hstep
        exact h.serve hideal hserver hpres htag
  | answer i next =>
      simp only [Network.step] at hstep
      split at hstep
      · rename_i kind n hwait
        split at hstep
        · rename_i hok
          obtain rfl := Option.some.inj hstep
          exact h.answer debug hideal hwait hpres hok
        · obtain rfl := Option.some.inj hstep
          exact h.fail i
      · cases hstep

/-- What a step adds to the history: the Hello of a client, what a server
does, a verified proof, or nothing. -/
theorem log_after {s s' : Network W} {e : NetEvent} (hstep : Steps p debug key s e s') :
    (∃ i kind n, e = .hello i kind n ∧ s'.log = .sent i n :: s.log) ∨
    (∃ k e₀ out, e = .serve k e₀ ∧ s'.log = factsOf k e₀ out ++ s.log) ∨
    (∃ i n b, s'.log = .verified i n b :: s.log) ∨ s'.log = s.log := by
  have hstep : s.step p debug key e = some s' := hstep
  cases e with
  | hello i kind n =>
      simp only [Network.step] at hstep
      split at hstep
      · obtain rfl := Option.some.inj hstep
        exact Or.inl ⟨i, kind, n, rfl, rfl⟩
      · cases hstep
  | serve k e =>
      simp only [Network.step] at hstep
      split at hstep
      · cases hstep
      · rename_i sv out hserver
        obtain rfl := Option.some.inj hstep
        exact Or.inr (Or.inl ⟨k, e, out, rfl, rfl⟩)
  | answer i next =>
      simp only [Network.step] at hstep
      split at hstep
      · rename_i kind n hwait
        split at hstep
        · obtain rfl := Option.some.inj hstep
          exact Or.inr (Or.inr (Or.inl ⟨i, n, _, rfl⟩))
        · obtain rfl := Option.some.inj hstep
          exact Or.inr (Or.inr (Or.inr rfl))
      · cases hstep

theorem sent_after {s s' : Network W} {e : NetEvent} (hstep : Steps p debug key s e s') {j : Nat}
    {n : Vector UInt8 32} (h : .sent j n ∈ s'.log) :
    .sent j n ∈ s.log ∨ ∃ kind, e = .hello j kind n := by
  rcases log_after debug hstep with ⟨i, kind, m, rfl, hlog⟩ | ⟨k, e₀, out, -, hlog⟩ |
    ⟨i, m, b, hlog⟩ | hlog
  · rw [hlog] at h
    rcases List.mem_cons.mp h with heq | hold
    · cases heq
      exact Or.inr ⟨kind, rfl⟩
    · exact Or.inl hold
  · rw [hlog] at h
    exact Or.inl (sent_of_factsOf h)
  · rw [hlog] at h
    rcases List.mem_cons.mp h with heq | hold
    · cases heq
    · exact Or.inl hold
  · exact Or.inl (hlog ▸ h)

theorem delivered_of_factsOf {k : Nat} {e : Event} {out : Output} {d : Delivery}
    (h : .delivered d ∈ factsOf k e out) : deliveryBy (.serve k e) = some d := by
  unfold factsOf at h
  split at h
  · rename_i out c req o
    have hd : d = ⟨k, c, req⟩ := by
      split at h
      · split at h <;> simpa using h
      · simpa using h
    rw [hd]
    rfl
  · cases h

theorem delivered_after {s s' : Network W} {e : NetEvent} (hstep : Steps p debug key s e s')
    {d : Delivery} (h : .delivered d ∈ s'.log) :
    .delivered d ∈ s.log ∨ deliveryBy e = some d := by
  rcases log_after debug hstep with ⟨i, kind, m, -, hlog⟩ | ⟨k, e₀, out, rfl, hlog⟩ |
    ⟨i, m, b, hlog⟩ | hlog
  · rw [hlog] at h
    rcases List.mem_cons.mp h with heq | hold
    · cases heq
    · exact Or.inl hold
  · rw [hlog] at h
    rcases List.mem_append.mp h with hnew | hold
    · exact Or.inr (delivered_of_factsOf hnew)
    · exact Or.inl hold
  · rw [hlog] at h
    rcases List.mem_cons.mp h with heq | hold
    · cases heq
    · exact Or.inl hold
  · exact Or.inl (hlog ▸ h)

/-- No two sessions sent the same nonce. -/
def Distinct (s : Network W) : Prop :=
  ∀ i j n, .sent i n ∈ s.log → .sent j n ∈ s.log → i = j

theorem Distinct.step {s s' : Network W} {e : NetEvent} (h : Distinct s) (hfresh : FreshNonce s e)
    (hstep : Steps p debug key s e s') : Distinct s' := by
  intro i j n hi hj
  rcases sent_after debug hstep hi with hi | ⟨kind, rfl⟩
  · rcases sent_after debug hstep hj with hj | ⟨kind, rfl⟩
    · exact h i j n hi hj
    · exact absurd rfl (hfresh n rfl _ hi)
  · rcases sent_after debug hstep hj with hj | ⟨kind', heq⟩
    · exact absurd rfl (hfresh n rfl _ hj)
    · cases heq
      rfl

/-- The valid Hellos with one nonce have all reached one connection. -/
def Unreplayed (p : Platform W) (key : Bytes) (s : Network W) : Prop :=
  ∀ d d', .delivered d ∈ s.log → .delivered d' ∈ s.log →
    Connection.ValidHello p key (.hello d.req) → Connection.ValidHello p key (.hello d'.req) →
    d.req.authNonce = d'.req.authNonce → d.k = d'.k ∧ d.c = d'.c

theorem Unreplayed.step {s s' : Network W} {e : NetEvent} (h : Unreplayed p key s)
    (honce : NotReplayed p key s e) (hstep : Steps p debug key s e s') : Unreplayed p key s' := by
  intro d d' hd hd' hvalid hvalid' hnonce
  rcases delivered_after debug hstep hd with hd | hd
  · rcases delivered_after debug hstep hd' with hd' | hd'
    · exact h d d' hd hd' hvalid hvalid' hnonce
    · exact honce d' hd' hvalid' _ hd d rfl hvalid hnonce
  · rcases delivered_after debug hstep hd' with hd' | hd'
    · obtain ⟨hk, hc⟩ := honce d hd hvalid _ hd' d' rfl hvalid' hnonce.symm
      exact ⟨hk.symm, hc.symm⟩
    · cases hd.symm.trans hd'
      exact ⟨rfl, rfl⟩

end Network

/-! ## Results -/

open Network

/-- The messages of a run's events are those of the run. -/
theorem stepsAlong_taggedBy {es : List NetEvent} {s : Network W} :
    StepsAlong (Steps p debug key) (fun _ e => ∀ m ∈ taggedBy e, m ∈ es.flatMap taggedBy) s es := by
  refine StepsAlong.of_forall ?_
  intro e he m hm
  exact List.mem_flatMap.mpr ⟨e, he, hm⟩

/-- **The client authenticates the server.** When `connect` or `do_hello`
has returned success for nonce `n`, a server with the key accepted a Hello
with exactly that nonce, after this client had sent it, and produced the
proof the client verified. That proof is none that a client sent, and none
that a server produced for another nonce. -/
theorem client_authenticates_server (tls : Nat → Bool) (worlds : Nat → W) {es : List NetEvent}
    {s : Network W} (hideal : IdealHmac p key (es.flatMap taggedBy))
    (hrun : Run (Steps p debug key) (start key tls worlds) es s)
    (hpres : StepsAlong (Steps p debug key) (Presents p key) (start key tls worlds) es)
    (hfresh : StepsAlong (Steps p debug key) FreshNonce (start key tls worlds) es) {i : Nat}
    {kind : ClientKind} {n : Vector UInt8 32} (hi : s.clients i = .connected kind n) :
    ∃ newer mid rest b k c req, s.log
        = newer ++ .verified i n b :: (mid ++ .accepted k c n b :: rest) ∧
      Connection.ValidHello p key (.hello req) ∧ req.authNonce = n ∧
      .delivered ⟨k, c, req⟩ ∈ rest ∧ .sent i n ∈ rest ∧
      b = Connection.proof p key n Connection.serverSuffix ∧
      (∀ j n', .sent j n' ∈ s.log → b ≠ Connection.proof p key n' Connection.clientSuffix) ∧
      ∀ k' c' n' b', .accepted k' c' n' b' ∈ s.log → n' ≠ n → b ≠ b' := by
  have hsound : Sound p key (es.flatMap taggedBy) s :=
    hrun.preserves_along (fun _ _ _ h hC hs => h.step debug hideal hC.1 hC.2 hs)
      (hpres.and (stepsAlong_taggedBy p debug key)) (sound_start p key _ tls worlds)
  have hdistinct : Distinct s :=
    hrun.preserves_along (fun _ _ _ h hC hs => @Distinct.step _ p debug key _ _ _ h hC hs)
      hfresh (fun _ _ _ h => nomatch h)
  have htracks := hsound.clients i
  rw [hi] at htracks
  obtain ⟨b, hverified⟩ := htracks
  obtain ⟨newer, older, hlog, hproof, hsent, k, c, hacc⟩ := hsound.log.split hverified
  obtain ⟨mid, rest, rfl⟩ := List.append_of_mem hacc
  -- the acceptance is justified by what is older than it
  have hfounded := hsound.log
  rw [hlog] at hfounded
  obtain ⟨⟨-, req, hvalid, hnonce, hdelivered⟩, hrest⟩ := hfounded.older.2.older
  obtain ⟨newer', older', rfl, hjust⟩ := hrest.split hdelivered
  obtain ⟨j, hj⟩ := hjust hvalid
  rw [hnonce] at hj
  have hj : .sent j n ∈ newer' ++ .delivered ⟨k, c, req⟩ :: older' :=
    List.mem_append_right _ (List.mem_cons_of_mem _ hj)
  -- its Hello is this client's: no other sent the nonce
  have hji : j = i := by
    refine hdistinct j i n ?_ ?_ <;> rw [hlog]
    · exact List.mem_append_right _ (List.mem_cons_of_mem _
        (List.mem_append_right _ (List.mem_cons_of_mem _ hj)))
    · exact List.mem_append_right _ (List.mem_cons_of_mem _ hsent)
  have hmine : n.toList ++ Connection.serverSuffix ∈ es.flatMap taggedBy := by
    refine hsound.server_mem (i := i) ?_
    rw [hlog]
    exact List.mem_append_right _ (List.mem_cons_of_mem _ hsent)
  refine ⟨newer, mid, _, b, k, c, req, hlog, hvalid, hnonce, hdelivered, hji ▸ hj, hproof, ?_, ?_⟩
  · intro j' n' hsent' hb
    exact hideal.clientProof_ne_serverProof (hsound.client_mem hsent') hmine
      (hb.symm.trans hproof)
  · intro k' c' n' b' hacc' hn' hb
    obtain ⟨hproof', req', j', -, -, -, hsent'⟩ := hsound.origin hacc'
    exact hn' (hideal.proof_inj (hsound.server_mem hsent') hmine
      (hproof'.symm.trans (hb.symm.trans hproof))).1

/-- The HMAC-SHA256 tags of the messages of two nonces, under the key of
one byte 1. -/
def macTags : List (Bytes × Nat) :=
  (messagesOf (.replicate 32 0)).zip
      [0xbfb3394288b9e1379f4f5a4459123b073d3f8385fb4ce30b6444de8274b4a78a,
        0x2a5d51cdf00a8266533f1cc6b560d4510294338b3c5f2ba61043ed0696e44ac8] ++
    (messagesOf (.replicate 32 1)).zip
      [0xa7962e0a7777f50ea5cb5566bd8b53d2bd0e43fa938fe345b11ae41107a7db58,
        0x48b182e4e08de3694ce8e81bacca6a9be71133b966cc4c95857849e7168d332e]

/-- A number as 32 bytes, the highest first. -/
def tagBytes (n : Nat) : Bytes := (List.range 32).map fun i => UInt8.ofNat (n >>> (8 * (31 - i)))

/-- A platform with these tags. -/
def macHost : Platform Nat :=
  { twoDeviceHost with
    hmacSha256 := fun key m => tagBytes (if key = [1] then (macTags.lookup m).getD 0 else 0) }

theorem macHost_ideal {messages : List Bytes}
    (h : ∀ m ∈ messages, ∀ m' ∈ messages,
      macHost.hmacSha256 [1] m = macHost.hmacSha256 [1] m' → m = m') :
    IdealHmac macHost [1] messages where
  length m := by simp [macHost, tagBytes]
  noCollision := h

/-- A client's handshake with a server. -/
def oneHandshake : List NetEvent :=
  [.hello 0 (.session "c") (.replicate 32 0), .serve 0 (.accept ⟨"10.0.0.1", 4000⟩),
    .serve 0 (.receive 0 (helloOf macHost [1] (.session "c") (.replicate 32 0)) {}),
    .answer 0 (some (.ok (Connection.helloAccepted
      (Connection.proof macHost [1] (.replicate 32 0) Connection.serverSuffix))))]

theorem client_authenticates_server_once :
    ∃ s, Run (Steps macHost (fun _ => "") [1]) (start [1] (fun _ => false) fun _ => 0)
        oneHandshake s ∧
      s.clients 0 = .connected (.session "c") (.replicate 32 0) ∧
      ∃ k c, .accepted k c (.replicate 32 0)
        (Connection.proof macHost [1] (.replicate 32 0) Connection.serverSuffix) ∈ s.log := by
  obtain ⟨s, hplay, hi⟩ := Option.map_eq_some_iff.mp
    (show (play (Network.step macHost (fun _ => "") [1]) (start [1] (fun _ => false) fun _ => 0)
        oneHandshake).map (fun s => s.clients 0)
      = some (.connected (.session "c") (.replicate 32 0)) by decide +kernel)
  have hrun := play_iff_run.mp hplay
  obtain ⟨newer, mid, rest, b, k, c, req, hlog, -, -, -, -, rfl, -⟩ :=
    client_authenticates_server macHost (fun _ => "") [1] (fun _ => false) (fun _ => 0)
      (macHost_ideal (by decide +kernel)) hrun (by decide +kernel) (by decide +kernel) hi
  refine ⟨s, hrun, hi, k, c, ?_⟩
  rw [hlog]
  exact List.mem_append_right _ (List.mem_cons_of_mem _
    (List.mem_append_right _ List.mem_cons_self))

/-- **Injective agreement.** The connections that are authenticated have
accepted a Hello, those that have accepted one belong one to one to client
sessions that sent it, and no Hello is accepted on two connections. -/
structure InjectiveAgreement (s : Network W) : Prop where
  authenticated : ∀ k, Vouched s.log k (s.servers k)
  sessions : ∃ session : Nat × Nat → Nat,
    (∀ k c n b, .accepted k c n b ∈ s.log →
      ∃ n' b', .accepted k c n' b' ∈ s.log ∧ .sent (session (k, c)) n' ∈ s.log) ∧
    Set.InjOn session {x | ∃ n b, .accepted x.1 x.2 n b ∈ s.log}
  once : ∀ k c k' c' n b b', .accepted k c n b ∈ s.log → .accepted k' c' n b' ∈ s.log →
    (k, c) = (k', c')

namespace Network

variable {p key}

theorem Sound.injective {messages : List Bytes} {s : Network W} (h : Sound p key messages s)
    (hu : Unreplayed p key s) : InjectiveAgreement s := by
  have once : ∀ k c k' c' n b b', .accepted k c n b ∈ s.log → .accepted k' c' n b' ∈ s.log →
      (k, c) = (k', c') := by
    intro k c k' c' n b b' hacc hacc'
    obtain ⟨-, req, -, hvalid, hnonce, hdelivered, -⟩ := h.origin hacc
    obtain ⟨-, req', -, hvalid', hnonce', hdelivered', -⟩ := h.origin hacc'
    obtain ⟨hk, hc⟩ := hu _ _ hdelivered hdelivered' hvalid hvalid' (hnonce.trans hnonce'.symm)
    exact Prod.ext hk hc
  -- each connection with one of the sessions that sent what it accepted
  have hchoice : ∀ x : Nat × Nat, ∃ i, (∃ n b, .accepted x.1 x.2 n b ∈ s.log) →
      ∃ n b, .accepted x.1 x.2 n b ∈ s.log ∧ .sent i n ∈ s.log := by
    intro x
    by_cases hx : ∃ n b, .accepted x.1 x.2 n b ∈ s.log
    · obtain ⟨n, b, hacc⟩ := hx
      obtain ⟨-, req, i, -, -, -, hi⟩ := h.origin hacc
      exact ⟨i, fun _ => ⟨n, b, hacc, hi⟩⟩
    · exact ⟨0, fun hx' => absurd hx' hx⟩
  choose session hsession using hchoice
  refine ⟨h.servers, ⟨session, fun k c n b hacc => hsession (k, c) ⟨n, b, hacc⟩, ?_⟩, once⟩
  intro x hx y hy hxy
  obtain ⟨n, b, hacc, hsent⟩ := hsession x hx
  obtain ⟨n', b', hacc', hsent'⟩ := hsession y hy
  -- one session sent both nonces, so they are one
  obtain rfl := h.once _ n n' hsent (hxy ▸ hsent')
  exact once _ _ _ _ n b b' hacc hacc'

end Network

/-- One client's Hello, delivered to two connections. -/
def recordedHello : List NetEvent :=
  [.hello 0 (.session "c") (.replicate 32 0),
    .serve 0 (.accept ⟨"10.0.0.1", 4000⟩), .serve 0 (.accept ⟨"10.0.0.66", 4000⟩),
    .serve 0 (.receive 0 (helloOf macHost [1] (.session "c") (.replicate 32 0)) {}),
    .serve 0 (.receive 1 (helloOf macHost [1] (.session "c") (.replicate 32 0)) {})]

/-- The server takes the nonce from the Hello, so the adversary
authenticates a connection of its own with a Hello it has recorded: two
connections are authenticated, and only one session has sent anything. -/
theorem recorded_hello_accepted_again :
    IdealHmac macHost [1] (recordedHello.flatMap taggedBy) ∧
    ∃ s, Run (Steps macHost (fun _ => "") [1]) (start [1] (fun _ => false) fun _ => 0)
        recordedHello s ∧
      StepsAlong (Steps macHost (fun _ => "") [1])
        (fun s e => Presents macHost [1] s e ∧ FreshNonce s e)
        (start [1] (fun _ => false) fun _ => 0) recordedHello ∧
      (∀ c ∈ ([0, 1] : List Nat),
        ((s.servers 0).connections.lookup c).map Connection.authenticated = some true) ∧
      (∀ i n, .sent i n ∈ s.log → i = 0) ∧ ¬ InjectiveAgreement s := by
  obtain ⟨s, hplay, hs⟩ := Option.map_eq_some_iff.mp
    (show (play (Network.step macHost (fun _ => "") [1]) (start [1] (fun _ => false) fun _ => 0)
        recordedHello).map (fun s => (s.log,
          decide (∀ c ∈ ([0, 1] : List Nat),
            ((s.servers 0).connections.lookup c).map Connection.authenticated = some true)))
      = some ([1, 0].flatMap (fun c => [.accepted 0 c (.replicate 32 0)
            (Connection.proof macHost [1] (.replicate 32 0) Connection.serverSuffix),
          .delivered ⟨0, c, ⟨protocolVersion, "c", .replicate 32 0,
            Connection.proof macHost [1] (.replicate 32 0) Connection.clientSuffix⟩⟩])
          ++ [.sent 0 (.replicate 32 0)], true) by decide +kernel)
  obtain ⟨hlog, hflags⟩ := Prod.mk.inj hs
  have hsent : ∀ i n, .sent i n ∈ s.log → i = 0 := by
    intro i n hi
    rw [hlog] at hi
    simp at hi
    exact hi.1
  refine ⟨macHost_ideal (by decide +kernel), s, play_iff_run.mp hplay, by decide +kernel,
    of_decide_eq_true hflags, hsent, fun h => ?_⟩
  · -- both connections go to session 0
    obtain ⟨session, hsession, hinj⟩ := h.sessions
    have hacc : ∀ c ∈ [1, 0], .accepted 0 c (.replicate 32 0)
        (Connection.proof macHost [1] (.replicate 32 0) Connection.serverSuffix) ∈ s.log := by
      intro c hc
      rw [hlog]
      exact List.mem_append_left _ (List.mem_flatMap.mpr ⟨c, hc, List.mem_cons_self⟩)
    have hzero : ∀ c ∈ [1, 0], session (0, c) = 0 := by
      intro c hc
      obtain ⟨n, b, -, hsent'⟩ := hsession 0 c _ _ (hacc c hc)
      exact hsent _ _ hsent'
    have heq : ((0, 1) : Nat × Nat) = (0, 0) :=
      hinj ⟨_, _, hacc 1 (by simp)⟩ ⟨_, _, hacc 0 (by simp)⟩
        ((hzero 1 (by simp)).trans (hzero 0 (by simp)).symm)
    cases heq

/-- **Agreement without replay.** In a run in which no valid Hello reaches
a second connection, injective agreement holds in every state. -/
theorem accepted_connections_injective (tls : Nat → Bool) (worlds : Nat → W) {es : List NetEvent}
    (hideal : IdealHmac p key (es.flatMap taggedBy))
    (hrun : StepsAlong (Steps p debug key)
      (fun s e => Presents p key s e ∧ NotReplayed p key s e) (start key tls worlds) es) :
    StatesAlong (Steps p debug key) InjectiveAgreement (start key tls worlds) es := by
  have hinv := statesAlong_of_stepsAlong
    (I := fun s => Sound p key (es.flatMap taggedBy) s ∧ Unreplayed p key s)
    (fun s e s' h hC hs =>
      ⟨h.1.step debug hideal hC.1.1 hC.2 hs, h.2.step debug hC.1.2 hs⟩)
    ⟨sound_start p key _ tls worlds, fun _ _ h => nomatch h⟩
    (hrun.and (stepsAlong_taggedBy p debug key))
  exact hinv.mono fun s h => h.1.injective h.2

/-- Two clients and two servers, each Hello delivered where it was meant. -/
theorem accepted_connections_injective_two_clients :
    StatesAlong (Steps macHost (fun _ => "") [1]) InjectiveAgreement
      (start [1] (fun _ => false) fun _ => 0)
      [.hello 0 (.session "c") (.replicate 32 0), .serve 0 (.accept ⟨"10.0.0.1", 4000⟩),
        .hello 1 .mount (.replicate 32 1), .serve 1 (.accept ⟨"10.0.0.1", 4000⟩),
        .serve 0 (.receive 0 (helloOf macHost [1] (.session "c") (.replicate 32 0)) {}),
        .serve 1 (.receive 0 (helloOf macHost [1] .mount (.replicate 32 1)) {})] :=
  accepted_connections_injective macHost (fun _ => "") [1] _ _
    (macHost_ideal (by decide +kernel)) (by decide +kernel)

end WolfUsb
