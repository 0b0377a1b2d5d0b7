/-
WolfUsb.Network.HandshakeSizes — the messages of the mount handshake are
small.

`encode` writes the length of a payload truncated to 32 bits, so a frame
is decoded to its message only if the payload is not larger than 16 MiB.
Every message the mount handshake can bring forth is far below: a hundred
bytes and its texts, which the code makes itself.
-/
import WolfUsb.Client.Mount
import WolfUsb.Client.Session
import WolfUsb.Protocol.Codec
import WolfUsb.Server.ConnectionTheorems

namespace WolfUsb

open WolfUsb.Lib

/-- The bytes of the texts and byte strings in a message of the mount
handshake. -/
def Message.textSize : Message → Option Nat
  | .hello req => some (req.clientName.utf8ByteSize + req.authProof.length)
  | .helloResponse resp =>
      some (resp.serverName.utf8ByteSize + resp.authChallengeResponse.length +
        (resp.errorMessage.getD "").utf8ByteSize)
  | .bridge _ => some 0
  | .bridgeAccepted resp => some resp.busid.utf8ByteSize
  | .bridgeRejected resp => some resp.errorMessage.utf8ByteSize
  | .error e => some e.message.utf8ByteSize
  | _ => none

namespace Bincode

/-- The other fields of these messages and the length prefixes take at
most a hundred bytes. -/
def Compact (b : Bincode) : Prop :=
  ∀ m n payload, m.textSize = some n → b.encodeToVec m = .ok payload → payload.length ≤ n + 100

section Lengths

open Format

variable {α β : Type}

theorem seq_length (f : Format α) (g : Format β) (x : α × β) :
    ((f.seq g).write x).length = (f.write x.1).length + (g.write x.2).length :=
  List.length_append

theorem imap_length (f : Format α) (pack : α → β) (unpack : β → α) (h : ∀ b, pack (unpack b) = b)
    (v : β) : ((f.imap pack unpack h).write v).length = (f.write (unpack v)).length := rfl

theorem byte_length (v : UInt8) : (byte.write v).length = 1 := rfl

theorem bool_length (v : Bool) : (bool.write v).length = 1 := rfl

theorem array_length {n : Nat} (v : Vector UInt8 n) : ((array n).write v).length = n :=
  v.length_toList

theorem writeVarint_length_le (n : Nat) : (writeVarint n).length ≤ 9 := by
  rw [writeVarint_length]
  exact varintSize_le n

theorem uint16_length_le (v : UInt16) : (uint16.write v).length ≤ 9 := writeVarint_length_le _

theorem uint32_length_le (v : UInt32) : (uint32.write v).length ≤ 9 := writeVarint_length_le _

theorem errorCode_length_le (v : ErrorCode) : (errorCode.write v).length ≤ 9 :=
  writeVarint_length_le _

theorem bytes_length_le (bs : Bytes) : (bytes.write bs).length ≤ bs.length + 9 := by
  have hprefix := writeVarint_length_le bs.length
  have hlen : (bytes.write bs).length = (writeVarint bs.length).length + bs.length :=
    List.length_append
  omega

theorem string_length_le (s : String) : (string.write s).length ≤ s.utf8ByteSize + 9 :=
  bytes_length_le s.toUTF8.data.toList

theorem optionString_length_le (s : Option String) :
    (string.option.write s).length ≤ (s.getD "").utf8ByteSize + 10 := by
  cases s with
  | none => exact Nat.succ_le_succ (Nat.zero_le _)
  | some s => exact Nat.succ_le_succ (string_length_le s)

end Lengths

theorem standard_compact : standard.Compact := by
  intro m n payload hn henc
  have hwrite : payload = message.write m := by
    unfold standard at henc
    dsimp only at henc
    split at henc
    · exact (Except.ok.inj henc).symm
    · cases henc
  subst hwrite
  have hlen : (message.write m).length
      = (Format.writeVarint (writeVariant m).1).length + (writeVariant m).2.2.length :=
    List.length_append
  rw [hlen]
  refine Nat.le_trans (Nat.add_le_add_right (writeVarint_length_le _) _) ?_
  cases m with
  | hello req =>
      obtain rfl := Option.some.inj hn
      have hversion := uint32_length_le req.protocolVersion
      have hname := string_length_le req.clientName
      have hproof := bytes_length_le req.authProof
      simp only [writeVariant, variant, helloRequest, imap_length, seq_length, array_length]
      omega
  | helloResponse resp =>
      obtain rfl := Option.some.inj hn
      have hversion := uint32_length_le resp.protocolVersion
      have hname := string_length_le resp.serverName
      have hproof := bytes_length_le resp.authChallengeResponse
      have herror := optionString_length_le resp.errorMessage
      simp only [writeVariant, variant, helloResponse, imap_length, seq_length, bool_length]
      omega
  | bridge req =>
      have hbody : (writeVariant (.bridge req)).2.2.length = 2 := rfl
      omega
  | bridgeAccepted resp =>
      obtain rfl := Option.some.inj hn
      have hbusid := string_length_le resp.busid
      have hdevid := uint32_length_le resp.devid
      have hvendor := uint16_length_le resp.vendorId
      have hproduct := uint16_length_le resp.productId
      have hbcd := uint16_length_le resp.bcdDevice
      have hdevice : (Bincode.deviceId.write resp.deviceId).length = 2 := rfl
      simp only [writeVariant, variant, bridgeAcceptedResponse, imap_length, seq_length,
        byte_length]
      omega
  | bridgeRejected resp =>
      obtain rfl := Option.some.inj hn
      have herror := string_length_le resp.errorMessage
      simp only [writeVariant, variant, bridgeRejectedResponse, imap_length]
      omega
  | error e =>
      obtain rfl := Option.some.inj hn
      have hcode := errorCode_length_le e.code
      have htext := string_length_le e.message
      simp only [writeVariant, variant, errorResponse, imap_length, seq_length]
      omega
  | _ => cases hn

end Bincode

/-! ## The messages of the handshake -/

/-- A message of the mount handshake with less than 300 bytes of text. -/
def Message.Small (m : Message) : Prop := ∃ n ≤ 300, m.textSize = some n

/-- The tags of HMAC-SHA256 have 32 bytes. -/
def ShortTags {W : Type} (p : Platform W) : Prop :=
  ∀ key m, (p.hmacSha256 key m).length ≤ 32

theorem Message.Small.fits {b : Bincode} (hc : b.Compact) {m : Message} (hsmall : m.Small) :
    Codec.Fits b m := by
  obtain ⟨n, hn, hsize⟩ := hsmall
  intro payload henc
  have := hc m n payload hsize henc
  omega

/-- **A small message is framed.** -/
theorem frameOf_of_small {b : Bincode} (hb : b.RoundTrips) (hc : b.Compact) {m : Message}
    (hsmall : m.Small) {bytes : Bytes} (h : Codec.encode b m [] = .ok bytes) :
    (Codec.decoder b).FrameOf m bytes :=
  Codec.frameOf_of_encode b hb (hsmall.fits hc) h

theorem toString_uint8_size (n : UInt8) : (toString n).utf8ByteSize ≤ 3 := by
  have hall : ∀ k : Fin 256, (toString k.val).utf8ByteSize ≤ 3 := by decide +kernel
  exact hall ⟨n.toNat, n.toNat_lt⟩

section Handshake

variable {W : Type} {p : Platform W} (htags : ShortTags p)
include htags

theorem helloMessage_small (key : Option Bytes) (authNonce : Vector UInt8 32) :
    (Mount.helloMessage p key authNonce).Small := by
  refine ⟨_, ?_, rfl⟩
  have hname : "wolfusb-mount".utf8ByteSize = 13 := by decide +kernel
  have hproof : (Session.authProof p key authNonce).length ≤ 32 := by
    cases key with
    | none => exact Nat.zero_le _
    | some key => exact htags _ _
  show "wolfusb-mount".utf8ByteSize + (Session.authProof p key authNonce).length ≤ 300
  omega

theorem handleHello_small (conn : Connection) {req : HelloRequest}
    (hversion : req.protocolVersion = protocolVersion) :
    (conn.handleHello p req).1.Small := by
  have hname : "wolfusb".utf8ByteSize = 7 := by decide +kernel
  have hempty : ("" : String).utf8ByteSize = 0 := rfl
  have hno : "Authentication failed".utf8ByteSize = 21 := by decide +kernel
  have accepted : ∀ b : Bytes, b.length ≤ 32 → (Connection.helloAccepted b).Small := by
    intro b hb
    refine ⟨_, ?_, rfl⟩
    show "wolfusb".utf8ByteSize + b.length + ("" : String).utf8ByteSize ≤ 300
    omega
  unfold Connection.handleHello
  rw [if_neg (not_not.mpr hversion)]
  cases conn.sharedKey with
  | none => exact accepted [] (Nat.zero_le _)
  | some key =>
      dsimp only
      split
      · refine ⟨_, ?_, rfl⟩
        show "wolfusb".utf8ByteSize + 0 + "Authentication failed".utf8ByteSize ≤ 300
        omega
      · exact accepted _ (htags _ _)

end Handshake

theorem bridgeRequest_small (bus addr : UInt8) : (Mount.bridgeRequest bus addr).Small :=
  ⟨0, Nat.zero_le _, rfl⟩

/-- What `handle_bridge` sends. -/
theorem handleBridge_small {W : Type} (p : Platform W) (join : Option String)
    (req : BridgeRequest) (sh : Shared W) :
    (Connection.handleBridge p join req sh).1.message.Small := by
  have hrejected : (Message.bridgeRejected
      { errorMessage := "Device not found at bus=" ++ toString req.deviceId.busNumber ++
          " addr=" ++ toString req.deviceId.address }).Small := by
    refine ⟨_, ?_, rfl⟩
    have hbus := toString_uint8_size req.deviceId.busNumber
    have haddr := toString_uint8_size req.deviceId.address
    have htext : "Device not found at bus=".utf8ByteSize + " addr=".utf8ByteSize = 30 := by
      decide +kernel
    simp only [String.utf8ByteSize_append]
    omega
  have haccepted : ∀ device : UsbDevice,
      (Connection.bridgeAccepted req.deviceId (Connection.bridgeBusid device)).Small := by
    intro device
    refine ⟨_, ?_, rfl⟩
    have hbus := toString_uint8_size device.busNumber
    have haddr := toString_uint8_size device.address
    have hport := toString_uint8_size device.portNumber
    have hdash : "-".utf8ByteSize = 1 := by decide +kernel
    simp only [Connection.bridgeBusid, String.utf8ByteSize_append]
    omega
  unfold Connection.handleBridge
  dsimp only
  split
  · exact hrejected
  · rename_i busid hbusid
    cases join with
    | some e => cases hbusid
    | none =>
        obtain ⟨device, -, -, rfl⟩ := Connection.lookupBridgeBusid_some p hbusid
        exact haccepted device

/-- The answers to a Bridge request. -/
theorem handleMessage_bridge_small {W : Type} (p : Platform W) (join : Option String)
    (conn : Connection) (req : BridgeRequest) (sh : Shared W) :
    (conn.handleMessage p join (.bridge req) sh).1.message.Small := by
  have hgate : Connection.notAuthenticated.Small := by
    have htext : "Not authenticated. Send Hello first.".utf8ByteSize = 36 := by decide +kernel
    exact ⟨36, by decide, congrArg some htext⟩
  show (if conn.gated then (Action.reply Connection.notAuthenticated, conn, sh)
    else Connection.dispatch p join conn (.bridge req) sh).1.message.Small
  split
  · exact hgate
  · exact handleBridge_small p join req sh

end WolfUsb
