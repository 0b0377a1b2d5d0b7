/-
WolfUsb.Protocol.Codec — `WolfUsbCodec` (`protocol/codec.rs`): a message
behind the length of its payload in four big-endian bytes.

`decode` and `encode` are the two trait functions, with the buffer as a
byte string; `reserve` only allocates. A decoding error leaves a buffer
that nothing reads any more, so it is not kept. `as u32` truncates, so
`encode` compares the length of the payload modulo 2^32.
-/
import WolfUsb.Error
import WolfUsb.Lib.Framing
import WolfUsb.Lib.Wire
import WolfUsb.Protocol.Bincode

namespace WolfUsb.Codec

open WolfUsb.Lib

/-- 16 MiB. -/
def maxFrameSize : UInt32 := 16 * 1024 * 1024

def lengthPrefixSize : Nat := 4

variable (b : Bincode)

def decode (src : Bytes) : Decoded UInt8 Message WolfUsbError :=
  match src with
  | b₀ :: b₁ :: b₂ :: b₃ :: rest =>
      let length := fromBe32 b₀ b₁ b₂ b₃
      if length > maxFrameSize then .failed (.frameTooLarge length maxFrameSize)
      else if src.length < lengthPrefixSize + length.toNat then .more
      else
        match b.decodeFromSlice (rest.take length.toNat) with
        | .error e => .failed (.deserializationError e)
        | .ok (message, _) => .item message (rest.drop length.toNat)
  | _ => .more

def encode (item : Message) (dst : Bytes) : Except WolfUsbError Bytes :=
  match b.encodeToVec item with
  | .error e => .error (.serializationError e)
  | .ok payload =>
      let length := UInt32.ofNat payload.length
      if length > maxFrameSize then .error (.frameTooLarge length maxFrameSize)
      else .ok (dst ++ be32 length ++ payload)

/-- `encode` with the buffer it leaves, also where it fails. -/
def encodeInto (item : Message) (dst : Bytes) : Except WolfUsbError Unit × Bytes :=
  match b.encodeToVec item with
  | .error e => (.error (.serializationError e), dst)
  | .ok payload =>
      let length := UInt32.ofNat payload.length
      if length > maxFrameSize then (.error (.frameTooLarge length maxFrameSize), dst)
      else
        let dst := dst ++ be32 length
        let dst := dst ++ payload
        (.ok (), dst)

/-- Several messages sent one after the other into the same buffer. -/
def encodeAll : List Message → Bytes → Except WolfUsbError Bytes
  | [], dst => .ok dst
  | item :: rest, dst =>
      match encode b item dst with
      | .error e => .error e
      | .ok dst => encodeAll rest dst

/-! ## The decoder as a decoder of frames -/

/-- A buffer that has its whole first frame. -/
theorem length_prefix_le {b₀ b₁ b₂ b₃ : UInt8} {rest : Bytes} {length : Nat}
    (h : ¬ (b₀ :: b₁ :: b₂ :: b₃ :: rest).length < lengthPrefixSize + length) :
    length ≤ rest.length := by
  simp only [List.length_cons, lengthPrefixSize] at h
  omega

theorem decode_shorter {buffer rest : Bytes} {m : Message}
    (h : decode b buffer = .item m rest) : rest.length < buffer.length := by
  unfold decode at h
  split at h
  · dsimp only at h
    split at h
    · cases h
    · split at h
      · cases h
      · split at h
        · cases h
        · cases h
          simp only [List.length_drop, List.length_cons]
          omega
  · cases h

/-- What a decoder has decided, more bytes do not change. -/
theorem decode_append {buffer : Bytes} (h : decode b buffer ≠ .more) (more : Bytes) :
    decode b (buffer ++ more) =
      match decode b buffer with
      | .more => .more
      | .failed e => .failed e
      | .item m rest => .item m (rest ++ more) := by
  unfold decode at h ⊢
  match buffer with
  | b₀ :: b₁ :: b₂ :: b₃ :: rest =>
      dsimp only [List.cons_append] at h ⊢
      by_cases hlarge : fromBe32 b₀ b₁ b₂ b₃ > maxFrameSize
      · simp only [if_pos hlarge]
      · simp only [if_neg hlarge] at h ⊢
        by_cases hwait : (b₀ :: b₁ :: b₂ :: b₃ :: rest).length
            < lengthPrefixSize + (fromBe32 b₀ b₁ b₂ b₃).toNat
        · exact absurd (if_pos hwait) h
        · -- the frame is there, and longer input has the same frame in front
          have hwhole := length_prefix_le hwait
          have hwait' : ¬ (b₀ :: b₁ :: b₂ :: b₃ :: (rest ++ more)).length
              < lengthPrefixSize + (fromBe32 b₀ b₁ b₂ b₃).toNat := by
            simp only [List.length_cons, List.length_append, lengthPrefixSize]
            omega
          rw [if_neg hwait, if_neg hwait', List.take_append_of_le_length hwhole,
            List.drop_append_of_le_length hwhole]
          cases b.decodeFromSlice (rest.take (fromBe32 b₀ b₁ b₂ b₃).toNat) <;> rfl
  | [] => exact absurd rfl h
  | [_] => exact absurd rfl h
  | [_, _] => exact absurd rfl h
  | [_, _, _] => exact absurd rfl h

/-- `WolfUsbCodec` as `Framed` uses it. -/
def decoder : FrameDecoder UInt8 Message WolfUsbError where
  decode := decode b
  shorter := decode_shorter b
  item_append h more := by
    rw [decode_append b (by rw [h]; exact nofun) more, h]
  failed_append h more := by
    rw [decode_append b (by rw [h]; exact nofun) more, h]

/-! ## Encoding and decoding -/

/-- The frame of a payload. -/
def frame (payload : Bytes) : Bytes := be32 (UInt32.ofNat payload.length) ++ payload

/-- A payload of at most 16 MiB is framed; its length is not truncated. -/
theorem encode_small {m : Message} {payload : Bytes} (h : b.encodeToVec m = .ok payload)
    (hsmall : payload.length ≤ maxFrameSize.toNat) (dst : Bytes) :
    encode b m dst = .ok (dst ++ frame payload) := by
  have hlen : (UInt32.ofNat payload.length).toNat = payload.length := by
    rw [UInt32.toNat_ofNat']
    exact Nat.mod_eq_of_lt (Nat.lt_of_le_of_lt hsmall (by decide))
  have hle : ¬ UInt32.ofNat payload.length > maxFrameSize := by
    rw [gt_iff_lt, UInt32.lt_iff_toNat_lt, hlen]
    omega
  simp only [encode, h, if_neg hle, frame, List.append_assoc]

/-- The frame of an encoded message is decoded to the message. -/
theorem decode_frame (hb : b.RoundTrips) {m : Message} {payload : Bytes}
    (h : b.encodeToVec m = .ok payload) (hsmall : payload.length ≤ maxFrameSize.toNat) :
    (decoder b).FrameOf m (frame payload) := by
  intro more
  obtain ⟨n, hdec⟩ := hb m payload h
  have hlen : (UInt32.ofNat payload.length).toNat = payload.length := by
    rw [UInt32.toNat_ofNat']
    exact Nat.mod_eq_of_lt (Nat.lt_of_le_of_lt hsmall (by decide))
  have hle : ¬ UInt32.ofNat payload.length > maxFrameSize := by
    rw [gt_iff_lt, UInt32.lt_iff_toNat_lt, hlen]
    omega
  show decode b (be32 (UInt32.ofNat payload.length) ++ payload ++ more) = .item m more
  simp only [be32, List.cons_append, List.nil_append, decode, fromBe32_be32, if_neg hle, hlen,
    List.take_left, List.drop_left, hdec]
  exact if_neg (by
    simp only [List.length_cons, List.length_append, lengthPrefixSize]
    omega)

/-- The length of the payload is below 4 GiB: `as u32` keeps it. -/
def Fits (m : Message) : Prop :=
  ∀ payload, b.encodeToVec m = .ok payload → payload.length < 2 ^ 32

instance (m : Message) : Decidable (Fits b m) :=
  match h : b.encodeToVec m with
  | .error _ => isTrue fun payload henc => by cases h.symm.trans henc
  | .ok payload =>
      decidable_of_iff (payload.length < 2 ^ 32)
        ⟨fun hlt payload' henc => by cases h.symm.trans henc; exact hlt, fun hfits => hfits _ h⟩

theorem encode_eq (m : Message) (dst : Bytes) :
    encode b m dst = (encodeInto b m dst).1.map fun _ => (encodeInto b m dst).2 := by
  unfold encode encodeInto
  split
  · rfl
  · dsimp only
    split <;> rfl

theorem encode_ok {m : Message} {dst bytes : Bytes} (h : encode b m dst = .ok bytes) :
    ∃ payload, b.encodeToVec m = .ok payload ∧
      (UInt32.ofNat payload.length).toNat ≤ maxFrameSize.toNat ∧ bytes = dst ++ frame payload := by
  unfold encode at h
  split at h
  · cases h
  · rename_i payload henc
    dsimp only at h
    split at h
    · cases h
    · rename_i hle
      obtain rfl := Except.ok.inj h
      rw [gt_iff_lt, UInt32.lt_iff_toNat_lt, Nat.not_lt] at hle
      exact ⟨payload, henc, hle, by rw [frame, List.append_assoc]⟩

/-- What `encode` appends is a frame, if the length was kept. -/
theorem frameOf_of_encode (hb : b.RoundTrips) {m : Message} (hfits : Fits b m) {bytes : Bytes}
    (h : encode b m [] = .ok bytes) : (decoder b).FrameOf m bytes := by
  obtain ⟨payload, henc, hle, rfl⟩ := encode_ok b h
  rw [UInt32.toNat_ofNat', Nat.mod_eq_of_lt (hfits payload henc)] at hle
  exact decode_frame b hb henc hle

/-- A frame whose length was truncated is not decoded to anything: the
decoder is given a strict part of the payload. -/
theorem decode_truncated (hp : b.RefusesPrefixes) {m : Message} (hcut : ¬ Fits b m)
    {bytes buffer more tail : Bytes} (h : encode b m [] = .ok bytes)
    (hstream : buffer ++ more = bytes ++ tail) (m' : Message) (rest : Bytes) :
    decode b buffer ≠ .item m' rest := by
  intro hdec
  obtain ⟨payload, henc, hle, rfl⟩ := encode_ok b h
  have hlarge : 2 ^ 32 ≤ payload.length := by
    by_contra hlt
    refine hcut fun payload' henc' => ?_
    cases henc.symm.trans henc'
    exact Nat.lt_of_not_le hlt
  have hshort : (UInt32.ofNat payload.length).toNat < payload.length := by
    have hmax : maxFrameSize.toNat < 2 ^ 32 := by decide
    omega
  obtain ⟨e, hrefused⟩ := hp m payload _ henc hshort
  -- the whole stream fails to decode, so the buffer cannot be decoded
  have hfails : decode b (buffer ++ more) = .failed (.deserializationError e) := by
    rw [hstream]
    have hnot : ¬ UInt32.ofNat payload.length > maxFrameSize := by
      rw [gt_iff_lt, UInt32.lt_iff_toNat_lt]
      omega
    have htake : (payload ++ tail).take (UInt32.ofNat payload.length).toNat
        = payload.take (UInt32.ofNat payload.length).toNat :=
      List.take_append_of_le_length (Nat.le_of_lt hshort)
    simp only [frame, be32, List.nil_append, List.cons_append, decode, fromBe32_be32, if_neg hnot,
      htake, hrefused]
    exact if_neg (by
      simp only [List.length_cons, List.length_append, lengthPrefixSize]
      omega)
  have hitem := decode_append b (by rw [hdec]; exact nofun) more
  rw [hdec, hfails] at hitem
  cases hitem

/-- A buffer with all of such a frame is not waited on: the length in front
is too small. -/
theorem decode_truncated_ne_more {m : Message} {bytes : Bytes} (h : encode b m [] = .ok bytes)
    (tail : Bytes) : decode b (bytes ++ tail) ≠ .more := by
  obtain ⟨payload, -, -, rfl⟩ := encode_ok b h
  have hle : (UInt32.ofNat payload.length).toNat ≤ payload.length := by
    rw [UInt32.toNat_ofNat']
    exact Nat.mod_le _ _
  simp only [frame, be32, List.nil_append, List.cons_append, decode, fromBe32_be32]
  split
  · exact nofun
  · rw [if_neg (by
      simp only [List.length_cons, List.length_append, lengthPrefixSize]
      omega)]
    split <;> exact nofun

theorem decode_nil : (decoder b).decode [] = .more := rfl

/-- What `encodeAll` appends is a frame for each message. -/
theorem encodeAll_frames (hb : b.RoundTrips) {ms : List Message} {dst stream : Bytes}
    (h : encodeAll b ms dst = .ok stream)
    (hsmall : ∀ m ∈ ms, ∀ payload, b.encodeToVec m = .ok payload →
      payload.length ≤ maxFrameSize.toNat) :
    ∃ frames, List.Forall₂ (decoder b).FrameOf ms frames ∧ stream = dst ++ frames.flatten := by
  induction ms generalizing dst with
  | nil =>
      obtain rfl := Except.ok.inj h
      exact ⟨[], .nil, (List.append_nil dst).symm⟩
  | cons m rest ih =>
      cases henc : b.encodeToVec m with
      | error e => simp [encodeAll, encode, henc] at h
      | ok payload =>
          have hm := hsmall m List.mem_cons_self payload henc
          rw [encodeAll, encode_small b henc hm] at h
          obtain ⟨frames, hframes, rfl⟩ := ih h fun m' hm' => hsmall m' (List.mem_cons_of_mem m hm')
          exact ⟨frame payload :: frames, .cons (decode_frame b hb henc hm) hframes,
            by rw [List.flatten_cons, List.append_assoc]⟩

end WolfUsb.Codec
