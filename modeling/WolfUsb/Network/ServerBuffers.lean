/-
WolfUsb.Network.ServerBuffers — the buffers of the server byte by byte.

Every connection keeps to the bound of `AnyPeer`, in its loop, in its
bridge task and until its cleanup is over, whatever the other connections
do in between. So the bytes that the peers can make the server's buffers
hold grow with the number of its connections and with nothing else. What
the manager notes of an attachment is not counted: its list of claimed
interfaces grows with every claim (`repeated_claim_listed_twice`).
-/
import Mathlib.Algebra.Order.BigOperators.Group.Finset
import WolfUsb.Network.AnyPeer
import WolfUsb.Network.ByteServerRefinement

namespace WolfUsb

open WolfUsb.Lib

variable {W : Type} {p : Platform W} {b : Bincode} {k : Nat}

namespace Loop

/-- The bytes in the buffers of a connection that has not ended. -/
def buffered : Loop → Nat
  | .running pc => pc.buffered
  | .closing _ f => f.read.length + f.write.length

/-- With pieces of at most `k` bytes. -/
def Within (k : Nat) : Loop → Prop
  | .running pc => pc.Within k
  | .closing _ f =>
      f.read.length < Codec.longestFrame + k ∧ f.write.length ≤ Codec.longestFrame

variable {loop : Loop}

theorem Within.buffered_le (h : loop.Within k) : loop.buffered ≤ 2 * Codec.longestFrame + k := by
  cases loop with
  | running pc => exact Nat.le_of_lt (ServerPc.Within.buffered_lt h)
  | closing conn f =>
      obtain ⟨hread, hwrite⟩ := h
      simp only [buffered]
      omega

end Loop

/-- No piece is longer than `k`, and the error of a lost task is short. -/
def ByteEvent.Short (k : Nat) : ByteEvent W → Prop
  | .read _ chunk => chunk.length ≤ k
  | .operate _ env => ShortJoin env.join
  | _ => True

namespace ByteServer

variable {w w' : ByteServer W}

/-- Every connection keeps to the bound. -/
def Within (k : Nat) (w : ByteServer W) : Prop :=
  ∀ c loop, w.connections.lookup c = some loop → loop.Within k

theorem within_start (sharedKey : Option Bytes) (tls : Bool) (world : W) :
    (start sharedKey tls world).Within k := by
  intro c loop h
  rw [show (start sharedKey tls world).connections.lookup c = none from Finmap.lookup_empty c] at h
  cases h

theorem Within.insert (h : w.Within k) {c : Nat} {loop : Loop}
    (hconn : w'.connections = w.connections.insert c loop) (hloop : loop.Within k) :
    w'.Within k := by
  intro x loop' hx
  rw [hconn, lookup_insert_eq] at hx
  split at hx
  · obtain rfl := Option.some.inj hx
    exact hloop
  · exact h x loop' hx

theorem Within.erase (h : w.Within k) {c : Nat}
    (hconn : w'.connections = w.connections.erase c) : w'.Within k := by
  intro x loop hx
  rw [hconn] at hx
  exact h x loop (lookup_of_erase hx)

/-- A message is handled: either its reply is in the write buffer, as
`ServerPc.advance` has it, or nothing is. -/
theorem within_replyWith (hsize : b.Proportionate) (hw : p.WithinUsb) (env : ServerEnv W)
    (hjoin : ShortJoin env.join) {conn conn' : Connection} {f : Framed} {m : Message}
    {rest : Bytes} {action : Action} {sh : Shared W}
    (h : (ServerPc.serving conn f).Within k) (hdec : Codec.decode b f.read = .item m rest)
    (hm : conn.handleMessage p env.join m env.shared = (action, conn', sh)) :
    (replyWith b conn' rest f.write action).Within k := by
  unfold replyWith
  split
  · obtain ⟨hread, hwrite⟩ := h
    have hshorter := Codec.decode_shorter b hdec
    refine ⟨?_, ?_⟩
    · show rest.length < _
      omega
    · show f.write.length ≤ _
      rw [hwrite]
      exact Nat.zero_le _
  · rename_i write henc
    have hadv : (ServerPc.serving conn f).advance p b env =
        some (some (.replying conn' ⟨rest, write⟩ (ServerPc.targetOf action),
          some action.message)) := by
      simp only [ServerPc.advance, hdec, hm, henc]
    exact h.advance hsize hw hjoin hadv

/-- **The step lemma.** -/
theorem Within.step (hsize : b.Proportionate) (hw : p.WithinUsb) (h : w.Within k)
    {e : ByteEvent W} (he : e.Short k) (hstep : w.step p b e = some w') : w'.Within k := by
  cases step_cases hstep with
  | accept addr =>
      exact h.insert rfl (ServerPc.within_start (.new w.socket addr w.sharedKey) k)
  | read hc hr => exact h.insert rfl (ServerPc.Within.receive (h _ _ hc) he hr)
  | write hc hwrite => exact h.insert rfl (ServerPc.Within.write (h _ _ hc) hwrite)
  | @handle c env conn conn' f m rest action sh hc hdec hm =>
      exact h.insert rfl (within_replyWith hsize hw { env with shared := w.shared } he (h _ _ hc)
        hdec hm)
  | @advance c env pc pc' hc hadv =>
      have hjoin : ShortJoin ({ env with shared := w.shared } : ServerEnv W).join := he
      exact h.insert rfl (ServerPc.Within.advance hsize hw (h _ _ hc) hjoin hadv)
  | refuse hc => exact h.erase rfl
  | @stopReading e c conn f hc =>
      obtain ⟨hread, hwrite⟩ : (ServerPc.serving conn f).Within k := h _ _ hc
      refine h.insert rfl ⟨hread, ?_⟩
      rw [hwrite]
      exact Nat.zero_le _
  | @stopWriting c conn f target hc =>
      have hreplying : (ServerPc.replying conn f target).Within k := h _ _ hc
      exact h.insert rfl hreplying
  | cleanup hc hk => exact h.erase rfl

/-- The bytes in the buffers of all connections that have not ended. -/
def buffered (w : ByteServer W) : Nat :=
  w.connections.keys.sum fun c => ((w.connections.lookup c).map Loop.buffered).getD 0

theorem Within.buffered_le (h : w.Within k) :
    w.buffered ≤ w.connections.keys.card * (2 * Codec.longestFrame + k) := by
  refine Finset.sum_le_card_nsmul _ _ _ fun c _ => ?_
  cases hc : w.connections.lookup c with
  | none => exact Nat.zero_le _
  | some loop => exact (h c loop hc).buffered_le

end ByteServer

/-- **The buffers of the server are bounded by its connections.** In every
state of every run of the whole server, with any peers, any pieces of at
most `k` bytes a read and any order of the connections' steps: the buffers
of all connections together hold at most two of the longest frames and one
read for each connection that has not ended. -/
theorem server_buffers_bounded {p : Platform W} {b : Bincode} (hsize : b.Proportionate)
    (hw : p.WithinUsb) (sharedKey : Option Bytes) (tls : Bool) (world : W) (k : Nat)
    {es : List (ByteEvent W)} (hes : ∀ e ∈ es, e.Short k) :
    StatesAlong (Guarded (ByteServer.step p b))
      (fun w => w.buffered ≤ w.connections.keys.card * (2 * (4 + 16 * 1024 * 1024) + k))
      (.start sharedKey tls world) es := by
  have hwithin : StatesAlong (Guarded (ByteServer.step p b)) (ByteServer.Within k)
      (.start sharedKey tls world) es :=
    statesAlong_of_stepsAlong (fun _ _ _ hI he hstep => hI.step hsize hw he hstep)
      (ByteServer.within_start sharedKey tls world) (.of_forall hes)
  exact hwithin.mono fun _ h => h.buffered_le

/-- Two peers announce a frame of 16 MiB each, and a third is answered. -/
def twoLargeFrames : List (ByteEvent Nat) :=
  [.accept ⟨"10.0.0.1", 4000⟩, .accept ⟨"10.0.0.2", 4000⟩, .accept ⟨"10.0.0.3", 4000⟩,
    .read 0 [1, 0, 0, 0, 7, 7], .read 2 [0, 0, 0, 1, 24], .operate 2 twoDeviceEnv,
    .read 1 [1, 0, 0, 0, 7]]

theorem server_buffers_bounded_three_peers :
    (play (ByteServer.step twoDeviceHost .standard) (.start none false 0) twoLargeFrames).map
        ByteServer.buffered = some 16 ∧
      StatesAlong (Guarded (ByteServer.step twoDeviceHost .standard))
        (fun w => w.buffered ≤ w.connections.keys.card * (2 * (4 + 16 * 1024 * 1024) + 6))
        (.start none false 0) twoLargeFrames :=
  ⟨by decide +kernel,
    server_buffers_bounded Bincode.standard_proportionate twoDeviceHost_withinUsb none false 0 6
      (by simp [twoLargeFrames, ByteEvent.Short, twoDeviceEnv, ShortJoin])⟩

end WolfUsb
