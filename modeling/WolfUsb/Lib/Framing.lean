/-
WolfUsb.Lib.Framing — a decoder of frames, read from a stream that
arrives in chunks.

A `FrameDecoder` looks at a buffer and waits for more, takes an item off
the front, or fails. Its fields are what makes it a decoder of frames: an
item takes at least one symbol, and an item or a failure does not depend
on what comes after. `readLoop` is the usual loop around a decoder: append
a chunk, decode until the decoder waits or fails, and at the end of the
stream complain about what is left over.

* `drain_append`: draining `x ++ y` is draining `x`, then what it left
  followed by `y`.
* `readLoop_eq`: so the loop does to the chunks what it does to the whole
  stream.
* `drain_encoded`: a concatenation of encoded items is read back.
-/
import Mathlib.Data.List.Basic

namespace WolfUsb.Lib

/-- What a decoder makes of a buffer. -/
inductive Decoded (β μ ε : Type) where
  | more
  | item (m : μ) (rest : List β)
  | failed (e : ε)
  deriving Repr

structure FrameDecoder (β μ ε : Type) where
  decode : List β → Decoded β μ ε
  shorter : ∀ {buffer m rest}, decode buffer = .item m rest → rest.length < buffer.length
  item_append : ∀ {buffer m rest}, decode buffer = .item m rest →
    ∀ more, decode (buffer ++ more) = .item m (rest ++ more)
  failed_append : ∀ {buffer e}, decode buffer = .failed e →
    ∀ more, decode (buffer ++ more) = .failed e

/-- What decoding leaves: a buffer the decoder waits on, or an error. -/
inductive Pending (β ε : Type) where
  | more (buffer : List β)
  | failed (e : ε)
  deriving Repr

/-- How a stream ended. -/
inductive StreamEnd (ε : Type) where
  | clean
  /-- "bytes remaining on stream" -/
  | remaining
  | failed (e : ε)
  deriving Repr

namespace FrameDecoder

variable {β μ ε : Type} (d : FrameDecoder β μ ε)

/-! ## Draining a buffer -/

/-- Decode until the decoder waits or fails. -/
def drain (buffer : List β) : List μ × Pending β ε :=
  match _h : d.decode buffer with
  | .more => ([], .more buffer)
  | .failed e => ([], .failed e)
  | .item m rest =>
      let r := drain rest
      (m :: r.1, r.2)
termination_by buffer.length
decreasing_by exact d.shorter _h

theorem drain_of_more {buffer : List β} (h : d.decode buffer = .more) :
    d.drain buffer = ([], .more buffer) := by
  rw [drain]
  split <;> rename_i heq <;> cases heq.symm.trans h
  rfl

theorem drain_of_failed {buffer : List β} {e : ε} (h : d.decode buffer = .failed e) :
    d.drain buffer = ([], .failed e) := by
  rw [drain]
  split <;> rename_i heq <;> cases heq.symm.trans h
  rfl

theorem drain_of_item {buffer rest : List β} {m : μ} (h : d.decode buffer = .item m rest) :
    d.drain buffer = (m :: (d.drain rest).1, (d.drain rest).2) := by
  rw [drain]
  split <;> rename_i heq <;> cases heq.symm.trans h
  rfl

/-- Items already delivered, and what is to be read after them. -/
def resume (done : List μ) : Pending β ε → List β → List μ × Pending β ε
  | .failed e, _ => (done, .failed e)
  | .more buffer, more => (done ++ (d.drain (buffer ++ more)).1, (d.drain (buffer ++ more)).2)

/-- **Draining is independent of where the buffer is cut.** -/
theorem drain_append (x y : List β) :
    d.drain (x ++ y) = d.resume (d.drain x).1 (d.drain x).2 y := by
  -- induction on the length of `x`, along the items taken off it
  induction hlen : x.length using Nat.strongRecOn generalizing x with
  | _ n ih =>
      cases hx : d.decode x with
      | more =>
          rw [d.drain_of_more hx]
          rfl
      | failed e =>
          rw [d.drain_of_failed hx, d.drain_of_failed (d.failed_append hx y)]
          rfl
      | item m rest =>
          have hrest := ih rest.length (hlen ▸ d.shorter hx) rest rfl
          rw [d.drain_of_item hx, d.drain_of_item (d.item_append hx y), hrest]
          cases (d.drain rest).2 <;> rfl

/-- What more symbols add comes after the items that are there. -/
theorem drain_mono (x y : List β) : (d.drain x).1 <+: (d.drain (x ++ y)).1 := by
  rw [d.drain_append]
  cases (d.drain x).2 with
  | failed e => exact List.prefix_refl _
  | more buffer => exact List.prefix_append _ _

/-! ## The read loop -/

/-- One chunk is read. After an error nothing is. -/
def feed (s : List μ × Pending β ε) (chunk : List β) : List μ × Pending β ε :=
  d.resume s.1 s.2 chunk

/-- The verdict at the end of the stream: nothing may be left over. -/
def endOf : List μ × Pending β ε → List μ × StreamEnd ε
  | (done, .failed e) => (done, .failed e)
  | (done, .more []) => (done, .clean)
  | (done, .more (_ :: _)) => (done, .remaining)

/-- Read the chunks; at the end of the stream what is left is decoded once
more. -/
def readLoop (chunks : List (List β)) : List μ × StreamEnd ε :=
  endOf (d.feed (chunks.foldl d.feed ([], .more [])) [])

/-- Feeding is associative: two chunks are one. -/
theorem feed_feed (s : List μ × Pending β ε) (x y : List β) :
    d.feed (d.feed s x) y = d.feed s (x ++ y) := by
  obtain ⟨done, pending⟩ := s
  cases pending with
  | failed e => rfl
  | more buffer =>
      have hcut := d.drain_append (buffer ++ x) y
      rw [List.append_assoc] at hcut
      simp only [feed, resume, hcut]
      cases (d.drain (buffer ++ x)).2 with
      | failed e => rfl
      | more left => simp only [List.append_assoc]

/-- Many chunks are one, after one that may be empty. -/
theorem foldl_feed (chunks : List (List β)) (s : List μ × Pending β ε) (x : List β) :
    chunks.foldl d.feed (d.feed s x) = d.feed s (x ++ chunks.flatten) := by
  induction chunks generalizing x with
  | nil => rw [List.foldl_nil, List.flatten_nil, List.append_nil]
  | cons chunk rest ih =>
      rw [List.foldl_cons, d.feed_feed, ih, List.flatten_cons, List.append_assoc]

/-- **The loop is independent of the segmentation.** -/
theorem readLoop_eq (chunks : List (List β)) :
    d.readLoop chunks = endOf (d.feed ([], .more []) chunks.flatten) := by
  have hfold : d.feed (chunks.foldl d.feed ([], .more [])) []
      = d.feed ([], .more []) chunks.flatten := by
    cases chunks with
    | nil => rfl
    | cons chunk rest =>
        rw [List.foldl_cons, d.foldl_feed, d.feed_feed, List.append_nil, List.flatten_cons]
  exact congrArg endOf hfold

/-! ## Encoded items -/

/-- The frame decodes to the item, whatever comes after it. -/
def FrameOf (m : μ) (frame : List β) : Prop := ∀ more, d.decode (frame ++ more) = .item m more

/-- What is decoded from a part of a stream with a frame in front is that
frame's item, and the part holds the whole frame. -/
theorem item_of_prefix {m m' : μ} {frame buffer rest more stream : List β}
    (hframe : d.FrameOf m frame) (hdec : d.decode buffer = .item m' rest)
    (hstream : buffer ++ more = frame ++ stream) :
    m' = m ∧ buffer = frame ++ rest ∧ rest ++ more = stream := by
  have hitem := d.item_append hdec more
  rw [hstream, hframe stream] at hitem
  cases hitem
  rw [← List.append_assoc] at hstream
  exact ⟨rfl, List.append_cancel_right hstream, rfl⟩

/-- Frames of items, one after the other, are drained to the items. -/
theorem drain_encoded {ms : List μ} {frames : List (List β)}
    (h : List.Forall₂ d.FrameOf ms frames) (hempty : d.decode [] = .more) :
    d.drain frames.flatten = (ms, .more []) := by
  induction h with
  | nil => exact d.drain_of_more hempty
  | cons hframe _ ih =>
      rw [List.flatten_cons, d.drain_of_item (hframe _), ih]

section Streams

variable {ms : List μ} {frames chunks : List (List β)}

/-- Chunks of a stream of frames are fed to the items and an empty buffer. -/
theorem feed_encoded (h : List.Forall₂ d.FrameOf ms frames) (hempty : d.decode [] = .more)
    (hchunks : chunks.flatten = frames.flatten) :
    chunks.foldl d.feed ([], .more []) = (ms, .more []) := by
  have hnil : d.feed ([], .more []) [] = ([], .more []) := by
    show ([] ++ (d.drain []).1, (d.drain []).2) = _
    rw [d.drain_of_more hempty]
    rfl
  rw [← hnil, d.foldl_feed, hchunks]
  show ([] ++ (d.drain frames.flatten).1, (d.drain frames.flatten).2) = _
  rw [d.drain_encoded h hempty, List.nil_append]

/-- A stream of frames is read back item by item and ends cleanly, however
it was cut. -/
theorem readLoop_encoded (h : List.Forall₂ d.FrameOf ms frames) (hempty : d.decode [] = .more)
    (hchunks : chunks.flatten = frames.flatten) : d.readLoop chunks = (ms, .clean) := by
  rw [readLoop, d.feed_encoded h hempty hchunks]
  show endOf ((ms ++ (d.drain ([] ++ [])).1, (d.drain ([] ++ [])).2)) = _
  rw [List.append_nil, d.drain_of_more hempty, List.append_nil]
  rfl

end Streams

end FrameDecoder

end WolfUsb.Lib
