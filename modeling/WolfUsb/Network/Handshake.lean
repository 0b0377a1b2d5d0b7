/-
WolfUsb.Network.Handshake — the Hello exchange on a network with an
adversary.

Any number of servers and clients share a key; the adversary does not have
it and controls the network. What arrives at a party is whatever the
adversary delivers: a recorded frame, an altered one, one of its own, in
any order and as often as it likes, or nothing. What limits it is the
HMAC, taken as ideal: a tag that its recipient finds valid is one that has
been seen (`Presents`), and the messages that the parties of the run put
through the HMAC, two for each nonce, do not collide (`IdealHmac`).

The tags it has seen are those the honest parties have sent, whether or
not the frames arrived. `log` is the history, newest first; the parties do
not see it.
-/
import WolfUsb.Lib.Runs
import WolfUsb.Client.Session
import WolfUsb.Server.AuthTheorems

namespace WolfUsb

/-- The two functions that perform the client's handshake. -/
inductive ClientKind where
  | session (clientName : String)
  | mount
  deriving DecidableEq

/-- A client session: the handshake has not begun, waits for its answer
with the nonce it sent, or is over. -/
inductive ClientState where
  | idle
  | waiting (kind : ClientKind) (authNonce : Vector UInt8 32)
  | connected (kind : ClientKind) (authNonce : Vector UInt8 32)
  | failed
  deriving DecidableEq

/-- A Hello that reaches connection `c` of server `k`. -/
structure Delivery where
  k : Nat
  c : Nat
  req : HelloRequest
  deriving DecidableEq

/-- What happened: client session `i` sent a Hello with nonce `n`, a Hello
reached a connection, server `k` accepted the Hello of `n` on connection
`c` and answered with a proof, or client session `i` verified a proof for
its nonce. -/
inductive Fact where
  | sent (i : Nat) (n : Vector UInt8 32)
  | delivered (d : Delivery)
  | accepted (k c : Nat) (n : Vector UInt8 32) (serverProof : Bytes)
  | verified (i : Nat) (n : Vector UInt8 32) (serverProof : Bytes)
  deriving DecidableEq

/-- The nonce a client drew. -/
def Fact.drawn : Fact → Option (Vector UInt8 32)
  | .sent _ n => some n
  | _ => none

/-- The Hello that reached a connection. -/
def Fact.delivery : Fact → Option Delivery
  | .delivered d => some d
  | _ => none

structure Network (W : Type) where
  servers : Nat → Server W
  clients : Nat → ClientState
  seen : List Bytes
  log : List Fact

inductive NetEvent where
  /-- Client session `i` begins its handshake with a nonce it drew. -/
  | hello (i : Nat) (kind : ClientKind) (authNonce : Vector UInt8 32)
  /-- Something happens at server `k`; a message it receives is what the
  adversary delivers. -/
  | serve (k : Nat) (e : Event)
  /-- The adversary delivers a frame, an error or the end of the stream to
  client session `i`. -/
  | answer (i : Nat) (next : NextFrame)

/-- The tag a message carries. -/
def Message.tag : Message → Option Bytes
  | .hello req => some req.authProof
  | .helloResponse resp => some resp.authChallengeResponse
  | _ => none

/-- The proof in the HelloResponse a client was given. -/
def NextFrame.serverProof : NextFrame → Bytes
  | some (.ok (.helloResponse resp)) => resp.authChallengeResponse
  | _ => []

namespace Network

variable {W : Type} (p : Platform W) (debug : Message → String) (key : Bytes)

/-- Servers with the key, on hosts of their own, and no client yet. -/
def start (tls : Nat → Bool) (worlds : Nat → W) : Network W where
  servers k := .start (some key) (tls k) (worlds k)
  clients _ := .idle
  seen := []
  log := []

/-- The function a client runs returned success. -/
def succeeds (kind : ClientKind) (authNonce : Vector UInt8 32) (next : NextFrame) : Bool :=
  match kind with
  | .session _ => (Session.connect p debug (some key) authNonce (.ok ()) next).isOk
  | .mount => (Mount.doHello p debug (some key) authNonce (.ok ()) next).isOk

/-- The Hello a client sends. -/
def helloOf (kind : ClientKind) (authNonce : Vector UInt8 32) : Message :=
  match kind with
  | .session clientName => Session.helloMessage p clientName (some key) authNonce
  | .mount => Mount.helloMessage p (some key) authNonce

/-- What an event at a server adds to the history. -/
def factsOf (k : Nat) : Event → Output → List Fact
  | .receive c (.hello req) _, out =>
      match out.reply with
      | some (.helloResponse resp) =>
          if resp.authAccepted then
            [.accepted k c req.authNonce resp.authChallengeResponse, .delivered ⟨k, c, req⟩]
          else [.delivered ⟨k, c, req⟩]
      | _ => [.delivered ⟨k, c, req⟩]
  | _, _ => []

def step (s : Network W) : NetEvent → Option (Network W)
  | .hello i kind authNonce =>
      match s.clients i with
      | .idle =>
          some { s with
            clients := Function.update s.clients i (.waiting kind authNonce)
            seen := (helloOf p key kind authNonce).tag.toList ++ s.seen
            log := .sent i authNonce :: s.log }
      | _ => none
  | .serve k e =>
      match (s.servers k).step p e with
      | none => none
      | some (sv, out) =>
          some { s with
            servers := Function.update s.servers k sv
            seen := (out.reply.bind Message.tag).toList ++ s.seen
            log := factsOf k e out ++ s.log }
  | .answer i next =>
      match s.clients i with
      | .waiting kind authNonce =>
          if succeeds p debug key kind authNonce next then
            some { s with
              clients := Function.update s.clients i (.connected kind authNonce)
              log := .verified i authNonce next.serverProof :: s.log }
          else some { s with clients := Function.update s.clients i .failed }
      | _ => none

/-- A run of the network. -/
abbrev Steps : Network W → NetEvent → Network W → Prop := Lib.Guarded (step p debug key)

/-! ## What is assumed of a run -/

/-- The two messages that the handshake of a nonce puts through the HMAC. -/
def messagesOf (n : Vector UInt8 32) : List Bytes :=
  [n.toList ++ Connection.clientSuffix, n.toList ++ Connection.serverSuffix]

/-- The messages whose tags are computed for an event: by the client for
its Hello and the answer to it, by the server for a Hello it is given. -/
def taggedBy : NetEvent → List Bytes
  | .hello _ _ authNonce => messagesOf authNonce
  | .serve _ (.receive _ (.hello req) _) => messagesOf req.authNonce
  | _ => []

/-- **Ideal HMAC**, as a function: a tag has 32 bytes, and no two of the
messages have one tag under the key. -/
structure IdealHmac (messages : List Bytes) : Prop where
  length : ∀ m, (p.hmacSha256 key m).length = 32
  noCollision : ∀ m ∈ messages, ∀ m' ∈ messages,
    p.hmacSha256 key m = p.hmacSha256 key m' → m = m'

/-- The message for which the recipient of what is delivered expects a
tag, and the tag it is given. -/
def checkedBy (s : Network W) : NetEvent → Option (Bytes × Bytes)
  | .serve _ (.receive _ (.hello req) _) =>
      some (req.authNonce.toList ++ Connection.clientSuffix, req.authProof)
  | .answer i next =>
      match s.clients i with
      | .waiting _ authNonce =>
          some (authNonce.toList ++ Connection.serverSuffix, next.serverProof)
      | _ => none
  | _ => none

/-- **Ideal HMAC**, against the adversary: a tag that is valid for the
message it is presented for has been seen. -/
def Presents (s : Network W) (e : NetEvent) : Prop :=
  ∀ x ∈ checkedBy s e, x.2 = p.hmacSha256 key x.1 → x.2 ∈ s.seen

/-- The nonce drawn in an event. -/
def drawnBy : NetEvent → Option (Vector UInt8 32)
  | .hello _ _ authNonce => some authNonce
  | _ => none

/-- A client draws a nonce that no client drew before. -/
def FreshNonce (s : Network W) (e : NetEvent) : Prop :=
  ∀ n ∈ drawnBy e, ∀ f ∈ s.log, f.drawn ≠ some n

/-- The Hello that reaches a server in an event. -/
def deliveryBy : NetEvent → Option Delivery
  | .serve k (.receive c (.hello req) _) => some ⟨k, c, req⟩
  | _ => none

/-- A valid Hello reaches a connection only if no other connection was
given a valid Hello with its nonce. -/
def NotReplayed (s : Network W) (e : NetEvent) : Prop :=
  ∀ d ∈ deliveryBy e, Connection.ValidHello p key (.hello d.req) →
    ∀ f ∈ s.log, ∀ d' ∈ f.delivery, Connection.ValidHello p key (.hello d'.req) →
      d'.req.authNonce = d.req.authNonce → d'.k = d.k ∧ d'.c = d.c

instance (s : Network W) (e : NetEvent) : Decidable (Presents p key s e) :=
  inferInstanceAs (Decidable (∀ x ∈ checkedBy s e, x.2 = p.hmacSha256 key x.1 → x.2 ∈ s.seen))

instance (s : Network W) (e : NetEvent) : Decidable (FreshNonce s e) :=
  inferInstanceAs (Decidable (∀ n ∈ drawnBy e, ∀ f ∈ s.log, f.drawn ≠ some n))

instance (s : Network W) (e : NetEvent) : Decidable (NotReplayed p key s e) :=
  inferInstanceAs (Decidable (∀ d ∈ deliveryBy e, Connection.ValidHello p key (.hello d.req) →
    ∀ f ∈ s.log, ∀ d' ∈ f.delivery, _ → _ → _))

end Network

end WolfUsb
