/-
WolfUsb.Lib.FrameStream — the books of a stream that carries frames and
raw symbols after them.

A sender accounts for the items it has framed and the raw symbols it has
put after them, with what of both is unsent (`Outbound`); a receiver for
how many items it has handled, and for what it holds of the stream beyond
their frames (`Inbound`). A channel is `Balanced` between the two when
what the sender wrote and what the receiver took are what their books say.

`Balanced.rest` says what is still to come, and so what a buffer can
hold; the other rules keep the balance at a read, a write, a new item, a
decoded item and a change from frames to raw symbols.
-/
import WolfUsb.Lib.Channel
import WolfUsb.Lib.Framing

namespace WolfUsb.Lib

variable {β μ ε : Type}

structure Outbound (β μ : Type) where
  items : List μ := []
  raw : List β := []
  unsent : List β := []

structure Inbound (β : Type) where
  handled : Nat := 0
  buffer : List β := []

/-- The frames of items, one after the other. -/
def stream (frame : μ → List β) (items : List μ) : List β := items.flatMap frame

section Stream

variable (frame : μ → List β)

theorem stream_append (xs ys : List μ) :
    stream frame (xs ++ ys) = stream frame xs ++ stream frame ys :=
  List.flatMap_append

theorem stream_singleton (m : μ) : stream frame [m] = frame m := List.append_nil _

theorem stream_cons (m : μ) (items : List μ) :
    stream frame (m :: items) = frame m ++ stream frame items := List.flatMap_cons

theorem stream_take_drop (n : Nat) (items : List μ) :
    stream frame items = stream frame (items.take n) ++ stream frame (items.drop n) := by
  rw [← stream_append, List.take_append_drop]

/-- The frames up to the first of those that are left. -/
theorem stream_take_succ {n : Nat} {items tail : List μ} {m : μ} (h : items.drop n = m :: tail) :
    stream frame (items.take (n + 1)) = stream frame (items.take n) ++ frame m := by
  rw [List.take_add, h, stream_append, List.take_succ_cons, List.take_zero, stream_singleton]

end Stream

variable (d : FrameDecoder β μ ε) (frame : μ → List β)

structure Balanced (c : Channel β) (sender : Outbound β μ) (receiver : Inbound β) : Prop where
  written : c.written ++ sender.unsent = stream frame sender.items ++ sender.raw
  taken : c.taken = stream frame (sender.items.take receiver.handled) ++ receiver.buffer
  handled_le : receiver.handled ≤ sender.items.length
  frames : ∀ m ∈ sender.items, d.FrameOf m (frame m)

namespace Balanced

variable {d frame} {c : Channel β} {sender : Outbound β μ}
  {receiver : Inbound β}

/-- What the receiver holds, what is on its way and what is unsent are the
frames it has not handled and the raw symbols. -/
theorem rest (h : Balanced d frame c sender receiver) :
    receiver.buffer ++ (c.pending ++ sender.unsent)
      = stream frame (sender.items.drop receiver.handled) ++ sender.raw := by
  have hwritten := h.written
  rw [Channel.written, h.taken, stream_take_drop frame receiver.handled sender.items,
    List.append_assoc, List.append_assoc, List.append_assoc, List.append_cancel_left_eq] at hwritten
  exact hwritten

/-- Nothing is unhandled and nothing raw: nothing is there at all. -/
theorem quiet (h : Balanced d frame c sender receiver)
    (hall : receiver.handled = sender.items.length) (hraw : sender.raw = []) :
    receiver.buffer = [] ∧ c.pending = [] ∧ sender.unsent = [] := by
  have hrest := h.rest
  rw [hall, List.drop_length, hraw] at hrest
  obtain ⟨hbuffer, hmore⟩ := List.append_eq_nil_iff.mp hrest
  obtain ⟨hpending, hunsent⟩ := List.append_eq_nil_iff.mp hmore
  exact ⟨hbuffer, hpending, hunsent⟩

/-- Nothing is unhandled: what is there is raw. -/
theorem rawRest (h : Balanced d frame c sender receiver)
    (hall : receiver.handled = sender.items.length) :
    receiver.buffer ++ (c.pending ++ sender.unsent) = sender.raw := by
  have hrest := h.rest
  rw [hall, List.drop_length] at hrest
  exact hrest

theorem read (h : Balanced d frame c sender receiver) (n : Nat) :
    Balanced d frame (c.read n) sender
      { receiver with buffer := receiver.buffer ++ c.pending.take n } where
  written := by
    rw [Channel.written_read]
    exact h.written
  taken := by
    rw [Channel.taken_read, h.taken, List.append_assoc]
  handled_le := h.handled_le
  frames := h.frames

theorem write {bytes : List β}
    (h : Balanced d frame c { sender with unsent := bytes ++ sender.unsent } receiver) :
    Balanced d frame (c.write bytes) sender receiver where
  written := by
    rw [Channel.written_write, List.append_assoc]
    exact h.written
  taken := h.taken
  handled_le := h.handled_le
  frames := h.frames

/-- Raw symbols are sent at once, when nothing else is unsent. -/
theorem writeRaw (h : Balanced d frame c sender receiver) (hunsent : sender.unsent = [])
    (bytes : List β) :
    Balanced d frame (c.write bytes) { sender with raw := sender.raw ++ bytes } receiver where
  written := by
    have hwritten := h.written
    rw [hunsent, List.append_nil] at hwritten
    show (c.write bytes).written ++ sender.unsent = _
    rw [Channel.written_write, hunsent, List.append_nil, hwritten, List.append_assoc]
  taken := h.taken
  handled_le := h.handled_le
  frames := h.frames

/-- The sender owes more raw symbols. -/
theorem owe (h : Balanced d frame c sender receiver) {raw unsent more : List β}
    (hunsent : unsent = sender.unsent ++ more) (hraw : raw = sender.raw ++ more) :
    Balanced d frame c { sender with raw, unsent } receiver where
  written := by
    show c.written ++ unsent = _ ++ raw
    rw [hunsent, hraw, ← List.append_assoc, h.written, List.append_assoc]
  taken := h.taken
  handled_le := h.handled_le
  frames := h.frames

/-- The sender frames another item. -/
theorem send (h : Balanced d frame c sender receiver) (hraw : sender.raw = [])
    (hunsent : sender.unsent = []) {m : μ} (hframe : d.FrameOf m (frame m)) :
    Balanced d frame c { sender with items := sender.items ++ [m], unsent := frame m } receiver where
  written := by
    have hwritten := h.written
    rw [hunsent, hraw, List.append_nil, List.append_nil] at hwritten
    show c.written ++ frame m = stream frame (sender.items ++ [m]) ++ sender.raw
    rw [hwritten, stream_append, stream_singleton, hraw, List.append_nil]
  taken := by
    show c.taken = stream frame ((sender.items ++ [m]).take receiver.handled) ++ receiver.buffer
    rw [List.take_append_of_le_length h.handled_le]
    exact h.taken
  handled_le := by
    show receiver.handled ≤ (sender.items ++ [m]).length
    rw [List.length_append]
    exact Nat.le_add_right_of_le h.handled_le
  frames x hx := by
    rcases List.mem_append.mp hx with hold | hnew
    · exact h.frames x hold
    · obtain rfl := List.mem_singleton.mp hnew
      exact hframe

/-- **What is decoded is the next item**, when there is one. -/
theorem next (h : Balanced d frame c sender receiver)
    (hmore : receiver.handled < sender.items.length) {m : μ} {left : List β}
    (hdec : d.decode receiver.buffer = .item m left) :
    ∃ tail, sender.items.drop receiver.handled = m :: tail ∧
      left ++ (c.pending ++ sender.unsent) = stream frame tail ++ sender.raw ∧
      Balanced d frame c sender
        { receiver with handled := receiver.handled + 1, buffer := left } := by
  have hrest := h.rest
  have hdrop := List.drop_eq_getElem_cons hmore
  have hmem : sender.items[receiver.handled] ∈ sender.items := List.getElem_mem hmore
  rw [hdrop, stream_cons, List.append_assoc] at hrest
  obtain ⟨rfl, hbuffer, hleft⟩ := d.item_of_prefix (h.frames _ hmem) hdec hrest
  refine ⟨_, hdrop, hleft, ⟨h.written, ?_, hmore, h.frames⟩⟩
  show c.taken = stream frame (sender.items.take (receiver.handled + 1)) ++ left
  rw [stream_take_succ frame hdrop, List.append_assoc, ← hbuffer]
  exact h.taken

/-- **The whole next frame is there**, when there is one and nothing is
unsent or on its way. -/
theorem ready (h : Balanced d frame c sender receiver)
    (hmore : receiver.handled < sender.items.length) (hunsent : sender.unsent = [])
    (hpending : c.pending = []) : ∃ m left, d.decode receiver.buffer = .item m left := by
  have hrest := h.rest
  rw [hunsent, hpending, List.append_nil, List.append_nil, List.drop_eq_getElem_cons hmore,
    stream_cons, List.append_assoc] at hrest
  have hframe := h.frames _ (List.getElem_mem hmore)
    (stream frame (sender.items.drop (receiver.handled + 1)) ++ sender.raw)
  rw [← hrest] at hframe
  exact ⟨_, _, hframe⟩

/-- An empty buffer yields nothing, so while the sender has sent nothing
raw, what is decoded is an item. -/
theorem item (h : Balanced d frame c sender receiver) (hraw : sender.raw = []) {m : μ}
    {left : List β} (hempty : d.decode [] = .more) (hdec : d.decode receiver.buffer = .item m left) :
    ∃ tail, sender.items.drop receiver.handled = m :: tail ∧
      left ++ (c.pending ++ sender.unsent) = stream frame tail ∧
      Balanced d frame c sender
        { receiver with handled := receiver.handled + 1, buffer := left } := by
  have hmore : receiver.handled < sender.items.length := by
    refine Nat.lt_of_le_of_ne h.handled_le fun hall => ?_
    rw [(h.quiet hall hraw).1, hempty] at hdec
    cases hdec
  obtain ⟨tail, hdrop, hleft, hbalanced⟩ := h.next hmore hdec
  rw [hraw, List.append_nil] at hleft
  exact ⟨tail, hdrop, hleft, hbalanced⟩

/-- A stream of whole frames never fails to decode. -/
theorem decode_ne_failed (h : Balanced d frame c sender receiver) (hraw : sender.raw = [])
    (hempty : d.decode [] = .more) (e : ε) : d.decode receiver.buffer ≠ .failed e := by
  intro hdec
  by_cases hall : receiver.handled = sender.items.length
  · rw [(h.quiet hall hraw).1, hempty] at hdec
    cases hdec
  · have hmore := Nat.lt_of_le_of_ne h.handled_le hall
    have hrest := h.rest
    have hmem : sender.items[receiver.handled] ∈ sender.items := List.getElem_mem hmore
    rw [List.drop_eq_getElem_cons hmore, stream_cons, List.append_assoc] at hrest
    have hfailed := d.failed_append hdec (c.pending ++ sender.unsent)
    rw [hrest, h.frames _ hmem] at hfailed
    cases hfailed

end Balanced

end WolfUsb.Lib
