/-
WolfUsb.Client.HelloTheorems — the handshake, written out twice.

`connect` and `do_hello` send the same Hello under two names and look at
the response in the same order, but only `connect` looks at its version
(`connect_isOk_iff`, `doHello_isOk_iff`). So the two agree unless a server
of another version answers and all else is in order
(`handshakes_agree_iff`).
-/
import WolfUsb.Client.Session
import WolfUsb.Protocol.Codec

namespace WolfUsb

open Lib

/-! ## The first frame -/

/-- What `framed.next()` first yields, from a stream that arrives in these
pieces and then ends, or fails with an I/O error. -/
def firstFrame (b : Bincode) (pieces : List Bytes) (ending : Except String Unit) : NextFrame :=
  match (Codec.decoder b).readLoop pieces with
  | (m :: _, _) => some (.ok m)
  | ([], .failed e) => some (.error e)
  | ([], .clean) =>
      match ending with
      | .ok () => none
      | .error e => some (.error (.connectionFailed e))
  | ([], .remaining) =>
      match ending with
      | .ok () => some (.error (.connectionFailed "bytes remaining on stream"))
      | .error e => some (.error (.connectionFailed e))

/-- A frame in front of the stream is what is read first. -/
theorem firstFrame_of_item {b : Bincode} {pieces : List Bytes} {m : Message} {rest : Bytes}
    (h : Codec.decode b pieces.flatten = .item m rest) (ending : Except String Unit) :
    firstFrame b pieces ending = some (.ok m) := by
  have hloop : (Codec.decoder b).readLoop pieces = FrameDecoder.endOf
      (m :: ((Codec.decoder b).drain rest).1, ((Codec.decoder b).drain rest).2) := by
    rw [FrameDecoder.readLoop_eq, FrameDecoder.feed, FrameDecoder.resume, List.nil_append,
      List.nil_append, FrameDecoder.drain_of_item (Codec.decoder b) h]
  unfold firstFrame
  rw [hloop]
  rcases ((Codec.decoder b).drain rest).2 with (_ | _) | _ <;> rfl

/-! ## What each handshake accepts -/

/-- The response says yes and proves the key. -/
structure HelloResponse.Admits {W : Type} (p : Platform W) (key : Option Bytes)
    (n : Vector UInt8 32) (resp : HelloResponse) : Prop where
  accepted : resp.authAccepted = true
  proof : Session.badServerProof p key n resp.authChallengeResponse = false

variable {W : Type} {p : Platform W} {debug : Message → String} {key : Option Bytes}
  {n : Vector UInt8 32}

theorem checkHello_isOk_iff {resp : HelloResponse} :
    (Session.checkHello p key n resp).isOk = true ↔
      resp.Admits p key n ∧ resp.protocolVersion = protocolVersion := by
  unfold Session.checkHello
  constructor
  · intro h
    split at h
    · cases h
    · rename_i haccepted
      split at h
      · cases h
      · rename_i hproof
        split at h
        · cases h
        · rename_i hversion
          refine ⟨⟨?_, ?_⟩, ?_⟩
          · simpa using haccepted
          · simpa using hproof
          · exact Decidable.not_not.mp hversion
  · rintro ⟨⟨haccepted, hproof⟩, hversion⟩
    simp [haccepted, hproof, hversion, Except.isOk, Except.toBool]

/-- **`connect` succeeds** on an admitting response of its own version. -/
theorem connect_isOk_iff {sent : Except WolfUsbError Unit} {next : NextFrame} :
    (Session.connect p debug key n sent next).isOk = true ↔
      sent = .ok () ∧ ∃ resp, next = some (.ok (.helloResponse resp)) ∧
        resp.Admits p key n ∧ resp.protocolVersion = protocolVersion := by
  unfold Session.connect
  cases sent with
  | error e => exact iff_of_false nofun nofun
  | ok _ =>
      constructor
      · intro h
        dsimp only at h
        split at h
        · cases h
        · cases h
        · rename_i resp
          exact ⟨rfl, resp, rfl, checkHello_isOk_iff.mp h⟩
        · cases h
      · rintro ⟨-, resp, rfl, hresp⟩
        exact checkHello_isOk_iff.mpr hresp

/-- **`do_hello` succeeds** on an admitting response of any version. -/
theorem doHello_isOk_iff {sent : Except WolfUsbError Unit} {next : NextFrame} :
    (Mount.doHello p debug key n sent next).isOk = true ↔
      sent = .ok () ∧ ∃ resp, next = some (.ok (.helloResponse resp)) ∧ resp.Admits p key n := by
  unfold Mount.doHello
  cases sent with
  | error e => exact iff_of_false nofun nofun
  | ok _ =>
      constructor
      · intro h
        dsimp only at h
        split at h
        · rename_i resp
          split at h
          · cases h
          · rename_i haccepted
            split at h
            · cases h
            · rename_i hproof
              exact ⟨rfl, resp, rfl, by simpa using haccepted, by simpa using hproof⟩
        · cases h
        · cases h
        · cases h
      · rintro ⟨-, resp, rfl, haccepted, hproof⟩
        simp [haccepted, hproof, Except.isOk, Except.toBool]

/-! ## The two together -/

section

variable (p debug key n) (sent : Except WolfUsbError Unit) (next : NextFrame)

/-- The Hellos differ in the client's name only, and the answers are
accepted or refused together. -/
structure HandshakesAgree : Prop where
  hello : ∀ clientName, ∃ request : HelloRequest,
    Session.helloMessage p clientName key n = .hello { request with clientName } ∧
      Mount.helloMessage p key n = .hello { request with clientName := "wolfusb-mount" }
  success : (Session.connect p debug key n sent next).isOk = true ↔
    (Mount.doHello p debug key n sent next).isOk = true

end

/-- The Hellos are one but for the name. -/
theorem hello_but_name (clientName : String) : ∃ request : HelloRequest,
    Session.helloMessage p clientName key n = .hello { request with clientName } ∧
      Mount.helloMessage p key n = .hello { request with clientName := "wolfusb-mount" } :=
  ⟨⟨protocolVersion, clientName, n, Session.authProof p key n⟩, rfl, rfl⟩

/-- **The handshakes agree** unless the Hello was sent and the first frame
of the stream is an admitting response of another version. -/
theorem handshakes_agree_iff (p : Platform W) (debug : Message → String) (b : Bincode)
    (key : Option Bytes) (n : Vector UInt8 32) (sent : Except WolfUsbError Unit)
    (pieces : List Bytes) (ending : Except String Unit) :
    HandshakesAgree p debug key n sent (firstFrame b pieces ending) ↔
      ¬ (sent = .ok () ∧ ∃ resp, firstFrame b pieces ending = some (.ok (.helloResponse resp)) ∧
        resp.Admits p key n ∧ resp.protocolVersion ≠ protocolVersion) := by
  generalize firstFrame b pieces ending = next
  constructor
  · rintro ⟨-, hsuccess⟩ ⟨hsent, resp, hresp, hadmits, hversion⟩
    rw [connect_isOk_iff, doHello_isOk_iff] at hsuccess
    obtain ⟨-, resp', hresp', -, hversion'⟩ := hsuccess.mpr ⟨hsent, resp, hresp, hadmits⟩
    rw [hresp] at hresp'
    cases hresp'
    exact hversion hversion'
  · intro hsame
    refine ⟨hello_but_name, ?_⟩
    rw [connect_isOk_iff, doHello_isOk_iff]
    constructor
    · rintro ⟨hsent, resp, hresp, hadmits, -⟩
      exact ⟨hsent, resp, hresp, hadmits⟩
    · rintro ⟨hsent, resp, hresp, hadmits⟩
      refine ⟨hsent, resp, hresp, hadmits, ?_⟩
      by_contra hversion
      exact hsame ⟨hsent, resp, hresp, hadmits, hversion⟩

/-- A server of version 2, named `s`, without a key. -/
theorem other_version_mounts :
    firstFrame Bincode.standard [[0, 0, 0, 7, 1, 2], [1, 115, 1, 0, 0]] (.ok ())
        = some (.ok (.helloResponse ⟨2, "s", true, [], none⟩)) ∧
      ¬ HandshakesAgree twoDeviceHost (fun _ => "") none (.replicate 32 0) (.ok ())
        (firstFrame Bincode.standard [[0, 0, 0, 7, 1, 2], [1, 115, 1, 0, 0]] (.ok ())) := by
  have hdecode : Codec.decode Bincode.standard [0, 0, 0, 7, 1, 2, 1, 115, 1, 0, 0]
      = .item (.helloResponse ⟨2, "s", true, [], none⟩) [] := rfl
  have hfirst : firstFrame Bincode.standard [[0, 0, 0, 7, 1, 2], [1, 115, 1, 0, 0]] (.ok ())
      = some (.ok (.helloResponse ⟨2, "s", true, [], none⟩)) :=
    firstFrame_of_item hdecode _
  refine ⟨hfirst, fun hagree => ?_⟩
  rw [hfirst] at hagree
  have hmount : (Mount.doHello twoDeviceHost (fun _ => "") none (.replicate 32 0) (.ok ())
      (some (.ok (.helloResponse ⟨2, "s", true, [], none⟩)))).isOk = true := rfl
  exact absurd (hagree.success.mpr hmount) (by decide)

end WolfUsb
