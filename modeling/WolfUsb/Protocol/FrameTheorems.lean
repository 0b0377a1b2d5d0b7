/-
WolfUsb.Protocol.FrameTheorems — the length in front of a frame, and the
message in it.

`encode` compares the length of the payload after it has cut it to 32
bits, so the length and the payload agree up to 4 GiB and again where the
cut length is still above the limit (`encode_whole_iff`). `decode` gives
the whole payload to bincode and drops the number of bytes that it used:
what a frame holds behind its message is ignored
(`decode_item_iff`).
-/
import WolfUsb.Protocol.Sizes

namespace WolfUsb

open WolfUsb.Lib Codec

variable (b : Bincode)

/-! ## The length of what is encoded -/

/-- The buffer has grown by the payload and its length. -/
def Codec.Appended (dst payload dst' : Bytes) : Prop :=
  payload.length ≤ maxFrameSize.toNat ∧ ∃ b₀ b₁ b₂ b₃,
    dst' = dst ++ b₀ :: b₁ :: b₂ :: b₃ :: payload ∧ (fromBe32 b₀ b₁ b₂ b₃).toNat = payload.length

/-- `encode` appends a frame or does nothing, and it refuses every payload
above the limit. -/
structure Codec.EncodesWhole (m : Message) (dst : Bytes) : Prop where
  appended : (encodeInto b m dst).1 = .ok () →
    ∃ payload, b.encodeToVec m = .ok payload ∧ Appended dst payload (encodeInto b m dst).2
  unchanged : ∀ e, (encodeInto b m dst).1 = .error e → (encodeInto b m dst).2 = dst
  refused : ∀ payload, b.encodeToVec m = .ok payload → maxFrameSize.toNat < payload.length →
    ∃ size, (encodeInto b m dst).1 = .error (.frameTooLarge size maxFrameSize)

variable {b}

/-- What `encode` compares with the limit. -/
theorem encodeInto_of_le {m : Message} {payload : Bytes} (h : b.encodeToVec m = .ok payload)
    (hle : payload.length % 2 ^ 32 ≤ maxFrameSize.toNat) (dst : Bytes) :
    encodeInto b m dst = (.ok (), dst ++ frame payload) := by
  have hnot : ¬ UInt32.ofNat payload.length > maxFrameSize := by
    rw [gt_iff_lt, UInt32.lt_iff_toNat_lt, UInt32.toNat_ofNat']
    omega
  simp [encodeInto, h, hnot, frame]

theorem encodeInto_of_lt {m : Message} {payload : Bytes} (h : b.encodeToVec m = .ok payload)
    (hlt : maxFrameSize.toNat < payload.length % 2 ^ 32) (dst : Bytes) :
    encodeInto b m dst
      = (.error (.frameTooLarge (UInt32.ofNat payload.length) maxFrameSize), dst) := by
  have hgt : UInt32.ofNat payload.length > maxFrameSize := by
    rw [gt_iff_lt, UInt32.lt_iff_toNat_lt, UInt32.toNat_ofNat']
    exact hlt
  simp [encodeInto, h, hgt]

/-- A failed `encode` leaves the buffer as it was. -/
theorem encodeInto_error {m : Message} {dst : Bytes} {e : WolfUsbError}
    (h : (encodeInto b m dst).1 = .error e) : (encodeInto b m dst).2 = dst := by
  cases henc : b.encodeToVec m with
  | error e' => simp [encodeInto, henc]
  | ok payload =>
    rcases Nat.lt_or_ge maxFrameSize.toNat (payload.length % 2 ^ 32) with hlt | hle
    · rw [encodeInto_of_lt henc hlt]
    · rw [encodeInto_of_le henc hle] at h
      cases h

/-- **`encode` is well-formed or has no effect** exactly for the messages
whose payload is shorter than 2^32 bytes, or of a length that is above the
limit when it is cut to 32 bits. -/
theorem encode_whole_iff (b : Bincode) (m : Message) (dst : Bytes) :
    EncodesWhole b m dst ↔ ∀ payload, b.encodeToVec m = .ok payload →
      payload.length < 2 ^ 32 ∨ maxFrameSize.toNat < payload.length % 2 ^ 32 := by
  constructor
  · intro h payload henc
    by_contra hcut
    obtain ⟨hlarge, hle⟩ := not_or.mp hcut
    have hmax : maxFrameSize.toNat < 2 ^ 32 := maxFrameSize.toNat_lt
    obtain ⟨size, hrefused⟩ := h.refused payload henc (by omega)
    rw [encodeInto_of_le henc (by omega)] at hrefused
    cases hrefused
  · intro h
    refine ⟨?_, fun e => encodeInto_error, ?_⟩
    · intro hok
      cases henc : b.encodeToVec m with
      | error e => simp [encodeInto, henc] at hok
      | ok payload =>
        rcases Nat.lt_or_ge maxFrameSize.toNat (payload.length % 2 ^ 32) with hlt | hle
        · rw [encodeInto_of_lt henc hlt] at hok
          cases hok
        · have hshort : payload.length < 2 ^ 32 := by
            rcases h payload henc with hshort | hlt
            · exact hshort
            · omega
          rw [Nat.mod_eq_of_lt hshort] at hle
          refine ⟨payload, rfl, hle, ?_⟩
          rw [encodeInto_of_le henc (by rwa [Nat.mod_eq_of_lt hshort])]
          refine ⟨_, _, _, _, rfl, ?_⟩
          rw [fromBe32_be32, UInt32.toNat_ofNat', Nat.mod_eq_of_lt hshort]
    · intro payload henc hlarge
      rcases h payload henc with hshort | hlt
      · exact ⟨_, by rw [encodeInto_of_lt henc (by rwa [Nat.mod_eq_of_lt hshort])]⟩
      · exact ⟨_, by rw [encodeInto_of_lt henc hlt]⟩

/-- A reply with 4 GiB of data is framed as a payload of 16 bytes. -/
theorem huge_payload_cut :
    ∃ (data payload : Bytes), data.length = 2 ^ 32 ∧
      Bincode.standard.encodeToVec (.transferResult ⟨1, ⟨1, 2⟩, true, data, 0, none⟩)
        = .ok payload ∧ payload.length = 2 ^ 32 + 16 ∧
      encodeInto Bincode.standard (.transferResult ⟨1, ⟨1, 2⟩, true, data, 0, none⟩) []
        = (.ok (), [0, 0, 0, 16] ++ payload) ∧
      ¬ EncodesWhole Bincode.standard (.transferResult ⟨1, ⟨1, 2⟩, true, data, 0, none⟩) [] := by
  obtain ⟨data, hdata⟩ : ∃ data : Bytes, data.length = 2 ^ 32 :=
    ⟨List.replicate (2 ^ 32) 0, List.length_replicate⟩
  obtain ⟨payload, henc, hsize⟩ := Bincode.standard_documentedSize
    ⟨1, ⟨1, 2⟩, true, data, 0, none⟩ rfl (by rw [hdata]; decide)
  have hlen : payload.length = 2 ^ 32 + 16 := by
    rw [hsize]
    simp only [Bincode.resultSize, hdata]
    decide
  have hmax := maxFrameSize_toNat
  have hcut := encodeInto_of_le henc (by omega) []
  have hframe : frame payload = [0, 0, 0, 16] ++ payload := by
    rw [frame, hlen]
    rfl
  rw [hframe, List.nil_append] at hcut
  refine ⟨data, payload, hdata, henc, hlen, hcut, ?_⟩
  intro h
  have := (encode_whole_iff _ _ _).mp h payload henc
  omega

/-! ## The message in a frame -/

/-- The payload of the frame that was consumed is what bincode read to make
the message. -/
def Codec.WholePayload (b : Bincode) (src : Bytes) : Prop :=
  ∀ m rest, decode b src = .item m rest → ∃ b₀ b₁ b₂ b₃ payload,
    src = b₀ :: b₁ :: b₂ :: b₃ :: (payload ++ rest) ∧
      b.decodeFromSlice payload = .ok (m, payload.length)

/-- The frame that `decode` has consumed. -/
theorem decode_item {src : Bytes} {m : Message} {rest : Bytes} (h : decode b src = .item m rest) :
    ∃ b₀ b₁ b₂ b₃ payload n, src = b₀ :: b₁ :: b₂ :: b₃ :: (payload ++ rest) ∧
      (fromBe32 b₀ b₁ b₂ b₃).toNat = payload.length ∧ payload.length ≤ maxFrameSize.toNat ∧
      b.decodeFromSlice payload = .ok (m, n) := by
  unfold decode at h
  split at h
  · rename_i b₀ b₁ b₂ b₃ behind
    dsimp only at h
    split at h
    · cases h
    · rename_i hsmall
      split at h
      · cases h
      · rename_i hwhole
        split at h
        · cases h
        · rename_i m' n hpayload
          cases h
          have hlen := length_prefix_le hwhole
          have htake : (behind.take (fromBe32 b₀ b₁ b₂ b₃).toNat).length
              = (fromBe32 b₀ b₁ b₂ b₃).toNat := by
            simp [hlen]
          rw [gt_iff_lt, UInt32.lt_iff_toNat_lt, Nat.not_lt] at hsmall
          refine ⟨b₀, b₁, b₂, b₃, _, n, ?_, htake.symm, ?_, hpayload⟩
          · rw [List.take_append_drop]
          · rwa [htake]
  · cases h

/-- A whole frame with a message in front. -/
theorem decode_payload {b₀ b₁ b₂ b₃ : UInt8} {payload : Bytes} {m : Message} {n : Nat}
    (hlen : (fromBe32 b₀ b₁ b₂ b₃).toNat = payload.length)
    (hsmall : payload.length ≤ maxFrameSize.toNat)
    (hpayload : b.decodeFromSlice payload = .ok (m, n)) (rest : Bytes) :
    decode b (b₀ :: b₁ :: b₂ :: b₃ :: (payload ++ rest)) = .item m rest := by
  have hnot : ¬ fromBe32 b₀ b₁ b₂ b₃ > maxFrameSize := by
    rw [gt_iff_lt, UInt32.lt_iff_toNat_lt, hlen]
    omega
  simp [decode, hnot, hlen, hpayload, lengthPrefixSize]
  omega

/-- A Ping in a frame of two bytes. -/
theorem trailing_byte_accepted :
    decode Bincode.standard [0, 0, 0, 2, 24, 7] = .item .ping [] ∧
      Bincode.standard.decodeFromSlice [24, 7] = .ok (.ping, 1) ∧
      ¬ WholePayload Bincode.standard [0, 0, 0, 2, 24, 7] := by
  have hdecode : decode Bincode.standard [0, 0, 0, 2, 24, 7] = .item .ping [] := rfl
  have hused : Bincode.standard.decodeFromSlice [24, 7] = .ok (.ping, 1) := by
    decide +kernel
  refine ⟨hdecode, hused, ?_⟩
  intro h
  obtain ⟨b₀, b₁, b₂, b₃, payload, hsrc, hpayload⟩ := h .ping [] hdecode
  simp only [List.append_nil, List.cons.injEq] at hsrc
  obtain ⟨-, -, -, -, rfl⟩ := hsrc
  rw [hused] at hpayload
  cases hpayload

/-- **What `decode` accepts.** The frame that is consumed is a length of at
most 16 MiB and as many bytes; the message is what bincode reads from the
front of these, which is encoded in full there; and what the frame has
behind the message, of whatever length, is ignored. -/
theorem decode_item_iff (b : Bincode) (hb : b.CountsUsed) (src : Bytes) (m : Message)
    (rest : Bytes) :
    decode b src = .item m rest ↔ ∃ b₀ b₁ b₂ b₃ used extra,
      src = b₀ :: b₁ :: b₂ :: b₃ :: (used ++ extra ++ rest) ∧
        (fromBe32 b₀ b₁ b₂ b₃).toNat = (used ++ extra).length ∧
        (used ++ extra).length ≤ maxFrameSize.toNat ∧
        b.decodeFromSlice used = .ok (m, used.length) := by
  constructor
  · intro h
    obtain ⟨b₀, b₁, b₂, b₃, payload, n, rfl, hlen, hsmall, hpayload⟩ := decode_item h
    obtain ⟨hn, hfront⟩ := hb payload m n hpayload
    have hused : (payload.take n).length = n := by simp [hn]
    have halone := hfront []
    rw [List.append_nil] at halone
    refine ⟨b₀, b₁, b₂, b₃, payload.take n, payload.drop n, ?_, ?_, ?_, ?_⟩
    · rw [List.take_append_drop]
    · rw [List.take_append_drop, hlen]
    · rwa [List.take_append_drop]
    · rw [halone, hused]
  · rintro ⟨b₀, b₁, b₂, b₃, used, extra, rfl, hlen, hsmall, hused⟩
    have hpayload := (hb used m used.length hused).2 extra
    rw [List.take_length] at hpayload
    exact decode_payload hlen hsmall hpayload rest

/-- Of the two bytes of the frame the Ping is the first. -/
theorem decode_item_iff_ping :
    ∃ b₀ b₁ b₂ b₃ used extra, [0, 0, 0, 2, 24, 7] = b₀ :: b₁ :: b₂ :: b₃ :: (used ++ extra ++ []) ∧
      (fromBe32 b₀ b₁ b₂ b₃).toNat = (used ++ extra).length ∧
      (used ++ extra).length ≤ maxFrameSize.toNat ∧
      Bincode.standard.decodeFromSlice used = .ok (.ping, used.length) :=
  (decode_item_iff Bincode.standard Bincode.standard_countsUsed [0, 0, 0, 2, 24, 7] .ping []).mp rfl

end WolfUsb
