/-
WolfUsb.Network.AnyPeer — a connection of the server and whoever is at the
other end of its socket.

The peer need not be a client of this program: it sends what it likes, in
pieces of any size. The codec refuses a length prefix above 16 MiB and
waits for no more than it announces, and the loop reads no further message
before the reply to the last one is written. So what a connection keeps in
its buffers is bounded, however long it lives (`connection_buffers_bounded`).
-/
import WolfUsb.Network.ExchangeTheorems

namespace WolfUsb

open WolfUsb.Lib

variable {W : Type} (p : Platform W) (b : Bincode)

/-! ## The connection -/

inductive PeerEvent (W : Type) where
  /-- An operation of the connection. -/
  | operate (env : ServerEnv W)
  /-- A piece of what the peer has sent is read. -/
  | read (chunk : Bytes)
  /-- Some of what is to be sent is written. -/
  | write (n : Nat)

namespace ServerPc

/-- A step of a connection; the operation that ends it leads nowhere. -/
def serve (pc : ServerPc) : PeerEvent W → Option ServerPc
  | .operate env => (pc.advance p b env).bind fun r => r.map Prod.fst
  | .read chunk => pc.receive b chunk
  | .write n => (pc.write n).map Prod.snd

/-- The bytes in the buffers of a connection, or of its bridge task. -/
def buffered : ServerPc → Nat
  | .serving _ f | .replying _ f _ | .switching f _ => f.read.length + f.write.length
  | .bridging g => g.req.length + g.unsent.length

end ServerPc

/-! ## The codec -/

namespace Codec

variable {b}

/-- The longest frame. -/
abbrev longestFrame : Nat := lengthPrefixSize + maxFrameSize.toNat

/-- A decoder that waits has less than a frame. -/
theorem length_of_more {buffer : Bytes} (h : decode b buffer = .more) :
    buffer.length < longestFrame := by
  have hmax : 0 < maxFrameSize.toNat := by decide
  unfold decode at h
  split at h
  · rename_i b₀ b₁ b₂ b₃ rest
    dsimp only at h
    split at h
    · cases h
    · rename_i hle
      split at h
      · rename_i hshort
        have hlength : (fromBe32 b₀ b₁ b₂ b₃).toNat ≤ maxFrameSize.toNat :=
          UInt32.le_iff_toNat_le.mp (UInt32.not_lt.mp hle)
        simp only [longestFrame]
        omega
      · split at h <;> cases h
  · rename_i hnot
    match buffer with
    | [] | [_] | [_, _] | [_, _, _] =>
        simp only [List.length_cons, List.length_nil, longestFrame, lengthPrefixSize]
        omega
    | b₀ :: b₁ :: b₂ :: b₃ :: rest => exact absurd rfl (hnot b₀ b₁ b₂ b₃ rest)

/-- A message that weighs less than 4 GiB is encoded to a frame. -/
theorem length_of_encode {m : Message} (hfits : Fits b m) {bytes : Bytes}
    (h : encode b m [] = .ok bytes) : bytes.length ≤ longestFrame := by
  obtain ⟨payload, henc, hle, rfl⟩ := encode_ok b h
  have hsmall := hfits payload henc
  have hlength : (UInt32.ofNat payload.length).toNat = payload.length := by
    simp only [UInt32.toNat_ofNat']
    exact Nat.mod_eq_of_lt hsmall
  rw [hlength] at hle
  simp only [frame, List.nil_append, List.length_append, be32_length, longestFrame,
    lengthPrefixSize]
  omega

end Codec

/-! ## The invariant -/

namespace ServerPc

variable {p b}

/-- With pieces of at most `k` bytes: the read buffer holds less than a
frame and a piece, the write buffer one reply, and the bridge task its
request and its reply. -/
def Within (k : Nat) : ServerPc → Prop
  | .serving _ f => f.read.length < Codec.longestFrame + k ∧ f.write = []
  | .replying _ f _ | .switching f _ =>
      f.read.length < Codec.longestFrame + k ∧ f.write.length ≤ Codec.longestFrame
  | .bridging g => g.req.length ≤ 40 ∧ g.unsent.length ≤ 320

/-- No piece is longer than `k`, and the error of a lost task is short. -/
def Pieces (k : Nat) : PeerEvent W → Prop
  | .operate env => ShortJoin env.join
  | .read chunk => chunk.length ≤ k
  | .write _ => True

theorem within_start (conn : Connection) (k : Nat) : (serving conn ⟨[], []⟩).Within k := by
  have hpos : 0 < Codec.longestFrame := by decide
  refine ⟨?_, rfl⟩
  simp only [List.length_nil]
  omega

variable {k : Nat} {pc pc' : ServerPc}

theorem Within.receive (h : pc.Within k) {chunk : Bytes} (hk : chunk.length ≤ k)
    (hstep : pc.receive b chunk = some pc') : pc'.Within k := by
  cases pc with
  | serving conn f =>
      cases hdec : Codec.decode b f.read with
      | more =>
          simp only [ServerPc.receive, hdec, Option.some.injEq] at hstep
          subst hstep
          have hlt := Codec.length_of_more hdec
          refine ⟨?_, h.2⟩
          simp only [List.length_append]
          omega
      | item m rest => simp [ServerPc.receive, hdec] at hstep
      | failed e => simp [ServerPc.receive, hdec] at hstep
  | replying conn f target => cases hstep
  | switching f target => cases hstep
  | bridging g =>
      simp only [ServerPc.receive] at hstep
      split at hstep
      · split at hstep
        · rename_i hle
          cases hstep
          exact ⟨hle, h.2⟩
        · cases hstep
      · cases hstep
        exact h
      · cases hstep

theorem Within.write (h : pc.Within k) {n : Nat} {r : Bytes × ServerPc}
    (hstep : pc.write n = some r) : r.2.Within k := by
  cases pc with
  | serving conn f => cases hstep
  | replying conn f target =>
      cases hstep
      refine ⟨h.1, ?_⟩
      have hle := h.2
      simp only [List.length_drop]
      omega
  | switching f target => cases hstep
  | bridging g =>
      simp only [ServerPc.write] at hstep
      split at hstep
      · cases hstep
        refine ⟨h.1, ?_⟩
        have hle := h.2
        simp only [List.length_drop]
        omega
      · cases hstep

theorem Within.requestRead {g g' : Bridging} (h : (bridging g).Within k) {task : Bridge.Pc}
    (hstep : ServerPc.requestRead g task = some g') : (bridging g').Within k := by
  unfold ServerPc.requestRead at hstep
  split at hstep
  · obtain ⟨info, -, rfl⟩ := Option.map_eq_some_iff.mp hstep
    exact ⟨h.1, Nat.le_of_eq (Bridge.importReply_length info)⟩
  · cases hstep
    exact h

/-- The bridge task reads the request once and makes one reply. -/
theorem Within.operate {env : ServerEnv W} {g g' : Bridging} (h : (bridging g).Within k)
    (hstep : ServerPc.operate env g = some g') : (bridging g').Within k := by
  have hkeep (task : Bridge.Pc) : (bridging { g with task }).Within k := h
  unfold ServerPc.operate at hstep
  split at hstep
  · cases hstep
    exact h
  · split at hstep
    · cases hstep
      exact hkeep _
    · split at hstep
      · exact h.requestRead hstep
      · cases hstep
  · split at hstep
    · cases hstep
    · cases hstep
      exact hkeep _
  · cases hstep
    exact hkeep _

theorem Within.advance (hsize : b.Proportionate) (hw : p.WithinUsb) (h : pc.Within k)
    {env : ServerEnv W} (hjoin : ShortJoin env.join) {r : ServerPc × Option Message}
    (hstep : pc.advance p b env = some (some r)) : r.1.Within k := by
  have hbounded := Exchange.advance_bounded hw hjoin hstep
  cases pc with
  | serving conn f =>
      obtain ⟨hread, hwrite⟩ := h
      cases hdec : Codec.decode b f.read with
      | more => simp [ServerPc.advance, hdec] at hstep
      | failed e => simp [ServerPc.advance, hdec] at hstep
      | item m rest =>
          have hshorter := Codec.decode_shorter b hdec
          simp only [ServerPc.advance, hdec, hwrite] at hstep
          split at hstep
          · cases hstep
          · rename_i bytes henc
            cases hstep
            refine ⟨?_, Codec.length_of_encode ((hbounded _ rfl).fits hsize) henc⟩
            show rest.length < _
            omega
  | replying conn f target =>
      simp only [ServerPc.advance] at hstep
      split at hstep
      · rename_i hempty
        cases target with
        | none =>
            cases hstep
            exact ⟨h.1, hempty⟩
        | some target =>
            cases hstep
            exact h
      · cases hstep
  | switching f target =>
      cases hstep
      exact ⟨Nat.zero_le _, Nat.zero_le _⟩
  | bridging g =>
      obtain ⟨g', hop, hr⟩ := Option.map_eq_some_iff.mp hstep
      cases hr
      exact h.operate hop

theorem Within.step (hsize : b.Proportionate) (hw : p.WithinUsb) (h : pc.Within k)
    {e : PeerEvent W} (he : Pieces k e) (hstep : pc.serve p b e = some pc') : pc'.Within k := by
  cases e with
  | operate env =>
      obtain ⟨r, hadv, hr⟩ := Option.bind_eq_some_iff.mp hstep
      obtain ⟨r', rfl, rfl⟩ := Option.map_eq_some_iff.mp hr
      exact h.advance hsize hw he hadv
  | read chunk => exact h.receive he hstep
  | write n =>
      obtain ⟨r, hwrite, rfl⟩ := Option.map_eq_some_iff.mp hstep
      exact h.write hwrite

theorem Within.buffered_lt (h : pc.Within k) : pc.buffered < 2 * Codec.longestFrame + k := by
  have hframe : 360 < Codec.longestFrame := by decide
  cases pc with
  | serving conn f =>
      obtain ⟨hread, hwrite⟩ := h
      simp only [buffered, hwrite, List.length_nil]
      omega
  | replying conn f target =>
      obtain ⟨hread, hwrite⟩ := h
      simp only [buffered]
      omega
  | switching f target =>
      obtain ⟨hread, hwrite⟩ := h
      simp only [buffered]
      omega
  | bridging g =>
      obtain ⟨hreq, hunsent⟩ := h
      simp only [buffered]
      omega

end ServerPc

/-- **The buffers of a connection are bounded**, whatever the peer sends and
for however long: with reads of at most `k` bytes a connection never has
more in its buffers than two of the longest frames and one read. -/
theorem connection_buffers_bounded {p : Platform W} {b : Bincode} (hsize : b.Proportionate)
    (hw : p.WithinUsb) (conn : Connection) (k : Nat) {es : List (PeerEvent W)} {pc : ServerPc}
    (hrun : Run (Guarded fun pc e => ServerPc.serve p b pc e) (.serving conn ⟨[], []⟩) es pc)
    (hes : ∀ e ∈ es, ServerPc.Pieces k e) :
    pc.buffered < 2 * (4 + 16 * 1024 * 1024) + k := by
  have hwithin : pc.Within k := by
    refine hrun.preserves_along (I := ServerPc.Within k) ?_ (.of_forall hes)
      (ServerPc.within_start conn k)
    intro pc e pc' h he hstep
    exact h.step hsize hw he hstep
  exact hwithin.buffered_lt

/-- A peer that announces a frame of 16 MiB and sends the first bytes of it. -/
theorem connection_buffers_bounded_large_frame :
    ∃ pc, Run (Guarded fun pc e => ServerPc.serve twoDeviceHost .standard pc e)
        (.serving (.new .plain ⟨"10.0.0.1", 4000⟩ none) ⟨[], []⟩)
        [.read [1, 0, 0, 0, 7, 7], .read [7, 7, 7]] pc ∧
      pc.buffered = 9 ∧ pc.buffered < 2 * (4 + 16 * 1024 * 1024) + 6 := by
  have hplay : (play (fun pc e => ServerPc.serve twoDeviceHost .standard pc e)
      (.serving (.new .plain ⟨"10.0.0.1", 4000⟩ none) ⟨[], []⟩)
      [.read [1, 0, 0, 0, 7, 7], .read [7, 7, 7]]).map ServerPc.buffered = some 9 := by
    decide +kernel
  obtain ⟨pc, hpc, hbuffered⟩ := Option.map_eq_some_iff.mp hplay
  have hrun := play_iff_run.mp hpc
  refine ⟨pc, hrun, hbuffered, ?_⟩
  exact connection_buffers_bounded Bincode.standard_proportionate twoDeviceHost_withinUsb _ 6 hrun
    (by simp [ServerPc.Pieces])

end WolfUsb
