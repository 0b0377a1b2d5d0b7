/-
WolfUsb.Protocol.CodecTheorems — the byte stream under a connection: what
the codec delivers does not depend on how TCP cuts the stream, and what
was encoded is delivered.
-/
import WolfUsb.Protocol.Codec

namespace WolfUsb

open WolfUsb.Lib Codec

/-- **Framing.** Two ways of cutting a byte string into chunks deliver the
same messages and end the same way. If the string is what `encode` made of
messages with payloads of at most 16 MiB, they are what is delivered, the
stream ends cleanly and the buffer is empty. -/
theorem framing_independent_of_segmentation (b : Bincode) (hb : b.RoundTrips) :
    (∀ chunks chunks' : List Bytes, chunks.flatten = chunks'.flatten →
      (decoder b).readLoop chunks = (decoder b).readLoop chunks') ∧
    ∀ (ms : List Message) (stream : Bytes), encodeAll b ms [] = .ok stream →
      (∀ m ∈ ms, ∀ payload, b.encodeToVec m = .ok payload →
        payload.length ≤ maxFrameSize.toNat) →
      ∀ chunks : List Bytes, chunks.flatten = stream →
        (decoder b).readLoop chunks = (ms, .clean) ∧
        chunks.foldl (decoder b).feed ([], .more []) = (ms, .more []) := by
  refine ⟨fun chunks chunks' h => ?_, fun ms stream henc hsmall chunks hchunks => ?_⟩
  · rw [FrameDecoder.readLoop_eq, FrameDecoder.readLoop_eq, h]
  · obtain ⟨frames, hframes, rfl⟩ := encodeAll_frames b hb henc hsmall
    exact ⟨(decoder b).readLoop_encoded hframes (decode_nil b) hchunks,
      (decoder b).feed_encoded hframes (decode_nil b) hchunks⟩

/-- Ping and ListDevices, cut inside the first prefix and after the second. -/
theorem framing_independent_of_segmentation_two_messages :
    (decoder Bincode.standard).readLoop [[0, 0], [0, 1, 24, 0, 0, 0, 1], [2]]
      = ([.ping, .listDevices], .clean) :=
  ((framing_independent_of_segmentation Bincode.standard Bincode.standard_roundTrips).2
    [.ping, .listDevices] [0, 0, 0, 1, 24, 0, 0, 0, 1, 2] (by decide +kernel)
    (by
      intro m hm payload henc
      have hpayload : payload.length = 1 := by
        rcases List.mem_pair.mp hm with rfl | rfl <;> cases henc <;> rfl
      rw [hpayload]
      decide)
    [[0, 0], [0, 1, 24, 0, 0, 0, 1], [2]] rfl).1

end WolfUsb
