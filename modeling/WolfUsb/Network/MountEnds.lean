/-
WolfUsb.Network.MountEnds — the mount handshake never hangs.

`cmd_mount` and the server's connection alternate: who waits for bytes
waits for a message or a part of a message that the other side owes. The
books of `ModeSwitchBooks` say who owes what, so where both wait, the
client's kernel has the socket or the bridge task is done
(`Inv.goes_on`). Every step of the two programs lowers `Switchover.rank`:
the server decodes no more than the two messages of the client, and the
bridge task comes to its end (`Bridge.step_left`).

What the kernels send is not a step here: the one at the server answers
requests of the other, which has no socket before the handshake is over.
-/
import WolfUsb.Lib.Progress
import WolfUsb.Network.ModeSwitchTheorems
import WolfUsb.Server.BridgeEnds

namespace WolfUsb

open WolfUsb.Lib

variable {W : Type}

/-! ## Steps that count -/

namespace Switchover

/-- The event moves something: a piece that is read or written is not
empty, and an operation of the bridge task is not a look at a device in
use. -/
def Moves (s : Switchover) : SwitchEvent W → Prop
  | .clientRead n => s.down.pending.take n ≠ []
  | .serverRead n => s.up.pending.take n ≠ []
  | .clientWrite n => ∀ piece ∈ s.client.write n, piece.1 ≠ []
  | .serverWrite n => ∀ piece ∈ s.server.write n, piece.1 ≠ []
  | .server env => ∀ g, s.server = .bridging g → ¬ Bridge.Looks env.bridge g.task env.device
  | .clientKernel _ | .serverKernel _ => False
  | _ => True

/-- An I/O error, or the end of the stream. -/
def Fails : SwitchEvent W → Prop
  | .clientFails | .serverFails => True
  | _ => False

/-- A side has ended, or the client's kernel has the socket. -/
def Over (s : Switchover) : Prop :=
  s.clientLive = false ∨ s.serverLive = false ∨
    (∃ g r, s.server = .bridging g ∧ g.task = .done r) ∨
    ∃ req rep sent got, s.client = .handed req rep sent got

section

variable (p : Platform W) (debug : Message → String) (b : Bincode) (key : Option Bytes)
  (authNonce : Vector UInt8 32) (bus addr : UInt8)

/-- A step of one of the two programs that moves something. -/
def Handshakes (s : Switchover) (e : SwitchEvent W) (s' : Switchover) : Prop :=
  s.step p debug b key authNonce bus addr e = some s' ∧ s.Moves e

/-- There is such a step that is not a failure. -/
def GoesOn (s : Switchover) : Prop :=
  ∃ e s', ¬ Fails e ∧ s.Handshakes p debug b key authNonce bus addr e s'

end

end Switchover

/-! ## The rank -/

/-- The operations the client has left. -/
def ClientPc.left : ClientPc → Nat
  | .start => 10
  | .sendHello _ => 9
  | .awaitHello _ => 8
  | .sendBridge _ => 7
  | .awaitBridge _ => 6
  | .switching _ _ => 5
  | .sendImport _ _ _ => 4
  | .readHeader _ _ _ => 3
  | .readDevice _ _ _ => 2
  | .attaching _ _ => 1
  | .handed _ _ _ _ => 0

/-- The operations the server has left, when it has made so many replies:
two messages are all it decodes. -/
def ServerPc.left (replies : Nat) : ServerPc → Nat
  | .serving _ _ => 70 + 2 * (2 - replies)
  | .replying _ _ none => 71 + 2 * (2 - replies)
  | .replying _ _ (some _) => 69
  | .switching _ _ => 68
  | .bridging g => g.task.left

theorem ClientPc.left_advance {p : Platform W} {debug : Message → String} {b : Bincode}
    {key : Option Bytes} {authNonce : Vector UInt8 32} {bus addr : UInt8} {pc pc' : ClientPc}
    (h : pc.advance p debug b key authNonce bus addr = some (some pc')) : pc'.left < pc.left := by
  have hsend {m : Message} {f : Framed} {next : Framed → ClientPc} {n : Nat}
      (h : send b m f next = some pc') (hnext : ∀ f, (next f).left = n) : pc'.left = n := by
    unfold send at h
    split at h
    · cases h
    · obtain rfl := Option.some.inj h
      exact hnext _
  cases pc with
  | start =>
      rw [hsend (Option.some.inj h) fun _ => rfl]
      exact Nat.lt_succ_self 9
  | sendHello f =>
      simp only [advance] at h
      split at h
      · cases h; simp [left]
      · cases h
  | awaitHello f =>
      simp only [advance] at h
      split at h
      · cases h
      · cases h
      · split at h
        · cases h
        · rw [hsend (Option.some.inj h) fun _ => rfl]
          exact Nat.lt_succ_self 7
  | sendBridge f =>
      simp only [advance] at h
      split at h
      · cases h; simp [left]
      · cases h
  | awaitBridge f =>
      simp only [advance] at h
      split at h
      · cases h
      · cases h
      · split at h
        · cases h
        · cases h; simp [left]
  | switching f busid =>
      simp only [advance] at h
      split at h
      · cases h
      · cases h; simp [left]
  | sendImport busid req unsent =>
      simp only [advance] at h
      split at h
      · cases h; simp [left]
      · cases h
  | readHeader busid req hdr =>
      simp only [advance] at h
      split at h
      · split at h
        · cases h
        · cases h; simp [left]
      · cases h
  | readDevice req hdr dev =>
      simp only [advance] at h
      split at h
      · cases h; simp [left]
      · cases h
  | attaching req rep => cases h; simp [left]
  | handed req rep sent got => cases h

theorem ClientPc.left_receive {b : Bincode} {chunk : Bytes} {pc pc' : ClientPc}
    (h : pc.receive b chunk = some pc') : pc'.left = pc.left := by
  unfold receive at h
  split at h
  · split at h <;> cases h
    rfl
  · split at h <;> cases h
    rfl
  · split at h <;> cases h
    rfl
  · split at h <;> cases h
    rfl
  · cases h
    rfl
  · cases h

theorem ClientPc.left_write {n : Nat} {bytes : Bytes} {pc pc' : ClientPc}
    (h : pc.write n = some (bytes, pc')) : pc'.left = pc.left := by
  unfold write at h
  split at h <;> cases h <;> rfl

theorem ServerPc.left_receive {b : Bincode} {chunk : Bytes} {pc pc' : ServerPc}
    (h : pc.receive b chunk = some pc') (n : Nat) : pc'.left n = pc.left n := by
  cases pc with
  | serving conn f =>
      simp only [receive] at h
      split at h
      · cases h
        rfl
      · cases h
  | bridging g =>
      simp only [receive] at h
      split at h
      · split at h
        · cases h
          rfl
        · cases h
      · cases h
        rfl
      · cases h
  | _ => cases h

theorem ServerPc.left_write {k : Nat} {bytes : Bytes} {pc pc' : ServerPc}
    (h : pc.write k = some (bytes, pc')) (n : Nat) : pc'.left n = pc.left n := by
  cases pc with
  | replying conn f target =>
      cases h
      cases target <;> rfl
  | bridging g =>
      simp only [write] at h
      split at h
      · cases h
        rfl
      · cases h
  | _ => cases h

theorem ServerPc.requestRead_keeps {g g' : Bridging} {task : Bridge.Pc}
    (h : requestRead g task = some g') : g'.task = task ∧ g'.info = g.info := by
  unfold requestRead at h
  split at h
  · obtain ⟨info, -, rfl⟩ := Option.map_eq_some_iff.mp h
    exact ⟨rfl, rfl⟩
  · cases h
    exact ⟨rfl, rfl⟩

theorem ServerPc.requestRead_isSome {g : Bridging} (h : g.info.isSome = true) (task : Bridge.Pc) :
    (requestRead g task).isSome = true := by
  unfold requestRead
  split
  · simpa using h
  · rfl

/-- An operation of the bridge task leaves less to do. -/
theorem ServerPc.left_operate {env : ServerEnv W} {g g' : Bridging}
    (h : operate env g = some g') (hdone : 0 < g.task.left)
    (hlooks : ¬ Bridge.Looks env.bridge g.task env.device) : g'.task.left < g.task.left := by
  have hstep := Bridge.step_left env.bridge g.task env.device hdone hlooks
  unfold operate at h
  split at h
  · rename_i htask
    cases h
    rwa [htask] at hstep ⊢
  · rename_i htask
    rw [htask] at hstep ⊢
    split at h
    · cases h
      exact hstep
    · split at h
      · -- the request read stands for that of the environment
        rw [(requestRead_keeps h).1]
        refine Bridge.step_left _ .readRequest env.device (by simp [Bridge.Pc.left]) fun hl => ?_
        cases hl.1
      · cases h
  · rename_i htask
    rw [htask] at hstep ⊢
    split at h
    · cases h
    · cases h
      exact hstep
  · cases h
    exact hstep

/-- An operation of the server leaves less to do, or ends the connection.
It has no more than two messages to decode. -/
theorem ServerPc.left_advance {p : Platform W} {b : Bincode} {env : ServerEnv W}
    {pc pc' : ServerPc} {replies : List Message} {reply : Option Message}
    (h : pc.advance p b env = some (some (pc', reply)))
    (htwo : (replies ++ reply.toList).length ≤ 2)
    (hbridge : ∀ g, pc = .bridging g →
      0 < g.task.left ∧ ¬ Bridge.Looks env.bridge g.task env.device) :
    pc'.left (replies ++ reply.toList).length < pc.left replies.length := by
  cases pc with
  | serving conn f =>
      simp only [advance] at h
      split at h
      · cases h
      · cases h
      · split at h
        · cases h
        · obtain ⟨rfl, rfl⟩ := Prod.mk.inj (Option.some.inj (Option.some.inj h))
          rw [Option.toList_some, List.length_append, List.length_singleton] at htwo ⊢
          cases targetOf (conn.handleMessage p env.join _ env.shared).1 with
          | none =>
              simp only [left]
              omega
          | some target =>
              simp only [left]
              omega
  | replying conn f target =>
      simp only [advance] at h
      split at h
      · cases target with
        | none =>
            cases h
            simp [left]
        | some target =>
            cases h
            simp [left]
      · cases h
  | switching f target =>
      cases h
      simp [left, Bridge.Pc.left]
  | bridging g =>
      obtain ⟨hdone, hlooks⟩ := hbridge g rfl
      obtain ⟨g', hop, heq⟩ := Option.map_eq_some_iff.mp h
      cases heq
      exact left_operate hop hdone hlooks

/-! ## The device info is read before the request -/

/-- A task that has the info of the device needs it: it binds the device,
or reads the request. -/
def Bridge.Pc.NeedsInfo (pc : Bridge.Pc) : Prop := (∃ u, pc = .bind u) ∨ pc = .readRequest

def Bridging.Informed (g : Bridging) : Prop := g.task.NeedsInfo → g.info.isSome = true

/-- The info is read before it is needed. -/
theorem Bridge.needsInfo_step {env : BridgeEnv} {pc : Pc} {d : KernelUsbip.SysfsDevice}
    (h : (step env pc d).1.NeedsInfo) : pc = .readInfo ∨ pc.NeedsInfo := by
  cases pc with
  | readInfo => exact Or.inl rfl
  | bind u => exact Or.inr (Or.inl ⟨u, rfl⟩)
  | readRequest => exact Or.inr (Or.inr rfl)
  | settle n =>
      simp only [step] at h
      split at h
      · split at h <;> simp [Pc.NeedsInfo] at h
      · simp [Pc.NeedsInfo] at h
  | done r => simp [step, Pc.NeedsInfo] at h
  | _ =>
      simp only [step] at h
      split at h <;> simp [Pc.NeedsInfo] at h

theorem Bridging.Informed.operate {env : ServerEnv W} {g g' : Bridging} (h : g.Informed)
    (hop : ServerPc.operate env g = some g') : g'.Informed := by
  have hkeep {g'' : Bridging} (htask : g''.task = (Bridge.step env.bridge g.task env.device).1)
      (hinfo : g''.info = g.info) (hread : g.task ≠ .readInfo) : g''.Informed := by
    intro hneeds
    rw [htask] at hneeds
    rcases Bridge.needsInfo_step hneeds with hpc | hpc
    · exact absurd hpc hread
    · rw [hinfo]
      exact h hpc
  unfold ServerPc.operate at hop
  split at hop
  · cases hop
    exact fun _ => rfl
  · rename_i htask
    split at hop
    · cases hop
      exact hkeep (by rw [htask]) rfl (by simp [htask])
    · split at hop
      · intro _
        rw [(ServerPc.requestRead_keeps hop).2]
        exact h (Or.inr htask)
      · cases hop
  · rename_i htask
    split at hop
    · cases hop
    · cases hop
      exact hkeep (by rw [htask]) rfl (by simp [htask])
  · rename_i hread _ _
    cases hop
    exact hkeep rfl rfl hread

namespace ServerPc

variable {p : Platform W} {b : Bincode} {pc pc' : ServerPc}

def Informed (pc : ServerPc) : Prop := ∀ g, pc = .bridging g → g.Informed

theorem Informed.advance {env : ServerEnv W} {reply : Option Message} (h : pc.Informed)
    (hadv : pc.advance p b env = some (some (pc', reply))) : pc'.Informed := by
  rintro g rfl
  cases pc with
  | serving conn f =>
      simp only [ServerPc.advance] at hadv
      split at hadv
      · cases hadv
      · cases hadv
      · split at hadv <;> cases hadv
  | replying conn f target =>
      simp only [ServerPc.advance] at hadv
      split at hadv
      · split at hadv <;> cases hadv
      · cases hadv
  | switching f target =>
      cases hadv
      rintro (⟨u, hu⟩ | hu) <;> cases hu
  | bridging g₀ =>
      obtain ⟨g', hop, heq⟩ := Option.map_eq_some_iff.mp hadv
      cases heq
      exact (h g₀ rfl).operate hop

theorem Informed.receive {chunk : Bytes} (h : pc.Informed) (hread : pc.receive b chunk = some pc') :
    pc'.Informed := by
  rintro g rfl
  cases pc with
  | serving conn f =>
      simp only [ServerPc.receive] at hread
      split at hread <;> cases hread
  | bridging g₀ =>
      have hg := h g₀ rfl
      simp only [ServerPc.receive] at hread
      split at hread
      · split at hread
        · cases hread
          exact hg
        · cases hread
      · cases hread
        exact hg
      · cases hread
  | _ => cases hread

theorem Informed.write {n : Nat} {bytes : Bytes} (h : pc.Informed)
    (hwrite : pc.write n = some (bytes, pc')) : pc'.Informed := by
  rintro g rfl
  cases pc with
  | bridging g₀ =>
      have hg := h g₀ rfl
      simp only [ServerPc.write] at hwrite
      split at hwrite
      · cases hwrite
        exact hg
      · cases hwrite
  | _ => cases hwrite

theorem Informed.kernelSend {bytes : Bytes} (h : pc.Informed)
    (hsend : pc.kernelSend bytes = some pc') : pc'.Informed := by
  rintro g rfl
  cases pc with
  | bridging g₀ =>
      have hg := h g₀ rfl
      simp only [ServerPc.kernelSend] at hsend
      split at hsend
      · cases hsend
        exact hg
      · cases hsend
  | _ => cases hsend

end ServerPc

/-! ## Somebody can go on -/

namespace Switchover

variable {p : Platform W} {debug : Message → String} {b : Bincode} {key : Option Bytes}
  {authNonce : Vector UInt8 32} {bus addr : UInt8} {s s' : Switchover}

/-- A step is that of a living client, or of a living server. -/
theorem step_cases {e : SwitchEvent W}
    (hstep : s.step p debug b key authNonce bus addr e = some s') :
    s.clientLive = true ∧ s.clientStep p debug b key authNonce bus addr e = some s' ∨
      s.serverLive = true ∧ s.serverStep p b e = some s' := by
  unfold Switchover.step at hstep
  split at hstep
  case h_6 =>
    split at hstep
    · rename_i hlive
      exact Or.inr ⟨hlive, hstep⟩
    · cases hstep
  all_goals
    split at hstep
    · rename_i hlive
      exact Or.inl ⟨hlive, hstep⟩
    · cases hstep

/-- What the client does leaves the server as it is. -/
theorem clientStep_keeps {e : SwitchEvent W}
    (hstep : s.clientStep p debug b key authNonce bus addr e = some s') :
    s'.server = s.server ∧ s'.serverLive = s.serverLive ∧ s'.replies = s.replies := by
  cases e with
  | client =>
      obtain ⟨r, -, rfl⟩ := Option.map_eq_some_iff.mp hstep
      cases r <;> exact ⟨rfl, rfl, rfl⟩
  | clientRead n =>
      obtain ⟨_, -, rfl⟩ := Option.map_eq_some_iff.mp hstep
      exact ⟨rfl, rfl, rfl⟩
  | clientWrite n =>
      obtain ⟨_, -, rfl⟩ := Option.map_eq_some_iff.mp hstep
      exact ⟨rfl, rfl, rfl⟩
  | clientKernel bytes =>
      obtain ⟨_, -, rfl⟩ := Option.map_eq_some_iff.mp hstep
      exact ⟨rfl, rfl, rfl⟩
  | clientFails =>
      obtain rfl := Option.some.inj hstep
      exact ⟨rfl, rfl, rfl⟩
  | _ => cases hstep

theorem informed_step (h : s.server.Informed) {e : SwitchEvent W}
    (hstep : s.step p debug b key authNonce bus addr e = some s') : s'.server.Informed := by
  rcases step_cases hstep with ⟨-, hclient⟩ | ⟨-, hserver⟩
  · rw [(clientStep_keeps hclient).1]
    exact h
  · cases e with
    | server env =>
        obtain ⟨r, hadv, rfl⟩ := Option.map_eq_some_iff.mp hserver
        cases r with
        | none => exact h
        | some r => exact h.advance hadv
    | serverRead n =>
        obtain ⟨server, hread, rfl⟩ := Option.map_eq_some_iff.mp hserver
        exact h.receive hread
    | serverWrite n =>
        obtain ⟨⟨bytes, server⟩, hwrite, rfl⟩ := Option.map_eq_some_iff.mp hserver
        exact h.write hwrite
    | serverKernel bytes =>
        obtain ⟨server, hsend, rfl⟩ := Option.map_eq_some_iff.mp hserver
        exact h.kernelSend hsend
    | serverFails =>
        obtain rfl := Option.some.inj hserver
        exact h
    | _ => cases hserver

/-- A possible step that moves something and is not a failure. -/
theorem possible {e : SwitchEvent W} (hfails : ¬ Fails e) (hmoves : s.Moves e)
    (hstep : (s.step p debug b key authNonce bus addr e).isSome = true) :
    s.GoesOn p debug b key authNonce bus addr := by
  obtain ⟨s', hs'⟩ := Option.isSome_iff_exists.mp hstep
  exact ⟨e, s', hfails, hs', hmoves⟩

/-- The client waits for a message or a part of one. -/
def ClientWaits (b : Bincode) : ClientPc → Prop
  | .awaitHello f | .awaitBridge f => Codec.decode b f.read = .more
  | .readHeader _ _ hdr => hdr.length < 8
  | .readDevice _ _ dev => dev.length < 312
  | _ => False

/-- The server waits for a message, for the request, or for the kernel. -/
def ServerWaits (b : Bincode) : ServerPc → Prop
  | .serving _ f => Codec.decode b f.read = .more
  | .bridging g => g.task = .readRequest ∧ g.req.length < 40 ∨ g.task = .wait
  | _ => False

/-- **The client goes on**, or waits with nothing to read. -/
theorem Inv.client_goes_on (h : s.Inv p b key authNonce bus addr) (hlive : s.clientLive = true) :
    s.Over ∨ s.GoesOn p debug b key authNonce bus addr ∨
      ClientWaits b s.client ∧ s.down.pending = [] := by
  have hok := h.client
  -- an operation, and a piece of what is to be written or read
  have hoperation (hadv : (s.client.advance p debug b key authNonce bus addr).isSome = true) :
      s.GoesOn p debug b key authNonce bus addr :=
    possible (e := .client) id trivial
      (by simpa [Switchover.step, hlive, Switchover.clientStep] using hadv)
  have hwrite {piece : Bytes × ClientPc} (hpiece : s.client.write 1 = some piece)
      (hne : piece.1 ≠ []) :
      s.GoesOn p debug b key authNonce bus addr := by
    refine possible (e := .clientWrite 1) id ?_ ?_
    · simpa [Moves, hpiece] using hne
    · simp [Switchover.step, hlive, Switchover.clientStep, hpiece]
  have hread (hpending : s.down.pending ≠ [])
      (hreceive : (s.client.receive b (s.down.pending.take 1)).isSome = true) :
      s.GoesOn p debug b key authNonce bus addr := by
    refine possible (e := .clientRead 1) id ?_ ?_
    · simpa [Moves] using hpending
    · simpa [Switchover.step, hlive, Switchover.clientStep] using hreceive
  have hone : (s.down.pending.take 1).length ≤ 1 := by
    rw [List.length_take]
    exact Nat.min_le_left _ _
  cases hpc : s.client with
  | start => exact Or.inr (Or.inl (hoperation (by rw [hpc]; rfl)))
  | sendHello f =>
      by_cases hf : f.write = []
      · exact Or.inr (Or.inl (hoperation (by simp [hpc, ClientPc.advance, hf])))
      · exact Or.inr (Or.inl (hwrite (by rw [hpc]; rfl) (by simpa using hf)))
  | awaitHello f =>
      cases hdec : Codec.decode b f.read with
      | more =>
          by_cases hpending : s.down.pending = []
          · exact Or.inr (Or.inr ⟨hdec, hpending⟩)
          · exact Or.inr (Or.inl (hread hpending (by simp [hpc, ClientPc.receive, hdec])))
      | failed e => exact Or.inr (Or.inl (hoperation (by simp [hpc, ClientPc.advance, hdec])))
      | item m rest =>
          refine Or.inr (Or.inl (hoperation ?_))
          simp only [hpc, ClientPc.advance, hdec]
          split <;> rfl
  | sendBridge f =>
      by_cases hf : f.write = []
      · exact Or.inr (Or.inl (hoperation (by simp [hpc, ClientPc.advance, hf])))
      · exact Or.inr (Or.inl (hwrite (by rw [hpc]; rfl) (by simpa using hf)))
  | awaitBridge f =>
      cases hdec : Codec.decode b f.read with
      | more =>
          by_cases hpending : s.down.pending = []
          · exact Or.inr (Or.inr ⟨hdec, hpending⟩)
          · exact Or.inr (Or.inl (hread hpending (by simp [hpc, ClientPc.receive, hdec])))
      | failed e => exact Or.inr (Or.inl (hoperation (by simp [hpc, ClientPc.advance, hdec])))
      | item m rest =>
          refine Or.inr (Or.inl (hoperation ?_))
          simp only [hpc, ClientPc.advance, hdec]
          split <;> rfl
  | switching f busid =>
      refine Or.inr (Or.inl (hoperation ?_))
      simp only [hpc, ClientPc.advance]
      split <;> rfl
  | sendImport busid req unsent =>
      by_cases hunsent : unsent = []
      · exact Or.inr (Or.inl (hoperation (by simp [hpc, ClientPc.advance, hunsent])))
      · exact Or.inr (Or.inl (hwrite (by rw [hpc]; rfl) (by simpa using hunsent)))
  | readHeader busid req hdr =>
      rw [hpc] at hok
      by_cases hlen : hdr.length = 8
      · refine Or.inr (Or.inl (hoperation ?_))
        simp only [hpc, ClientPc.advance, if_pos hlen]
        split <;> rfl
      · have hlt : hdr.length < 8 := Nat.lt_of_le_of_ne hok.2 hlen
        by_cases hpending : s.down.pending = []
        · exact Or.inr (Or.inr ⟨hlt, hpending⟩)
        · refine Or.inr (Or.inl (hread hpending ?_))
          simp only [hpc, ClientPc.receive]
          rw [if_pos (by rw [List.length_append]; omega)]
          rfl
  | readDevice req hdr dev =>
      rw [hpc] at hok
      by_cases hlen : dev.length = 312
      · exact Or.inr (Or.inl (hoperation (by simp [hpc, ClientPc.advance, hlen])))
      · have hlt : dev.length < 312 := Nat.lt_of_le_of_ne hok.2.2 hlen
        by_cases hpending : s.down.pending = []
        · exact Or.inr (Or.inr ⟨hlt, hpending⟩)
        · refine Or.inr (Or.inl (hread hpending ?_))
          simp only [hpc, ClientPc.receive]
          rw [if_pos (by rw [List.length_append]; omega)]
          rfl
  | attaching req rep => exact Or.inr (Or.inl (hoperation (by rw [hpc]; rfl)))
  | handed req rep sent got => exact Or.inl (Or.inr (Or.inr (Or.inr ⟨_, _, _, _, hpc⟩)))

/-- **The server goes on**, or waits with nothing to read. -/
theorem Inv.server_goes_on (env : ServerEnv W) (h : s.Inv p b key authNonce bus addr)
    (hinfo : s.server.Informed) (hlive : s.serverLive = true) :
    s.Over ∨ s.GoesOn p debug b key authNonce bus addr ∨
      ServerWaits b s.server ∧
        ((∃ g, s.server = .bridging g ∧ g.task = .wait) ∨ s.up.pending = []) := by
  have hok := h.server
  have hoperation (env : ServerEnv W) (hadv : (s.server.advance p b env).isSome = true)
      (hwait : ∀ g, s.server = .bridging g → g.task ≠ .wait) :
      s.GoesOn p debug b key authNonce bus addr := by
    refine possible (e := .server env) id (fun g hg hlooks => hwait g hg hlooks.1) ?_
    simpa [Switchover.step, hlive, Switchover.serverStep] using hadv
  have hwrite {piece : Bytes × ServerPc} (hpiece : s.server.write 1 = some piece)
      (hne : piece.1 ≠ []) : s.GoesOn p debug b key authNonce bus addr := by
    refine possible (e := .serverWrite 1) id ?_ ?_
    · simpa [Moves, hpiece] using hne
    · simp [Switchover.step, hlive, Switchover.serverStep, hpiece]
  have hread (hpending : s.up.pending ≠ [])
      (hreceive : (s.server.receive b (s.up.pending.take 1)).isSome = true) :
      s.GoesOn p debug b key authNonce bus addr := by
    refine possible (e := .serverRead 1) id ?_ ?_
    · simpa [Moves] using hpending
    · simpa [Switchover.step, hlive, Switchover.serverStep] using hreceive
  have hone : (s.up.pending.take 1).length ≤ 1 := by
    rw [List.length_take]
    exact Nat.min_le_left _ _
  cases hserver : s.server with
  | serving conn f =>
      rw [hserver] at hoperation
      cases hdec : Codec.decode b f.read with
      | more =>
          by_cases hpending : s.up.pending = []
          · exact Or.inr (Or.inr ⟨hdec, Or.inr hpending⟩)
          · exact Or.inr (Or.inl (hread hpending (by simp [hserver, ServerPc.receive, hdec])))
      | failed e =>
          exact Or.inr (Or.inl (hoperation env (by simp [ServerPc.advance, hdec])
            fun g hg => by cases hg))
      | item m rest =>
          refine Or.inr (Or.inl (hoperation env ?_ fun g hg => by cases hg))
          simp only [ServerPc.advance, hdec]
          split <;> rfl
  | replying conn f target =>
      rw [hserver] at hoperation
      by_cases hf : f.write = []
      · refine Or.inr (Or.inl (hoperation env ?_ fun g hg => by cases hg))
        simp only [ServerPc.advance, if_pos hf]
        cases target <;> rfl
      · exact Or.inr (Or.inl (hwrite (by rw [hserver]; rfl) (by simpa using hf)))
  | switching f target =>
      rw [hserver] at hoperation
      exact Or.inr (Or.inl (hoperation env rfl fun g hg => by cases hg))
  | bridging g =>
      rw [hserver] at hoperation hok
      have hoperate (env : ServerEnv W) (hop : (ServerPc.operate env g).isSome = true)
          (hwait : g.task ≠ .wait) : s.GoesOn p debug b key authNonce bus addr := by
        refine hoperation env ?_ fun g' hg' => ?_
        · simpa [ServerPc.advance] using hop
        · cases hg'
          exact hwait
      cases htask : g.task with
      | wait => exact Or.inr (Or.inr ⟨Or.inr htask, Or.inl ⟨g, rfl, htask⟩⟩)
      | done r => exact Or.inl (Or.inr (Or.inr (Or.inl ⟨g, r, hserver, htask⟩)))
      | readRequest =>
          by_cases hlen : g.req.length = 40
          · -- the info that the reply is made of has been read
            have hsome := hinfo g hserver (Or.inr htask)
            refine Or.inr (Or.inl (hoperate
              { env with bridge := { env.bridge with request := some Bridge.importRequest } } ?_
              (by simp [htask])))
            simp only [ServerPc.operate, htask, dif_pos hlen]
            exact ServerPc.requestRead_isSome hsome _
          · have hlt : g.req.length < 40 := Nat.lt_of_le_of_ne hok.req_le hlen
            by_cases hpending : s.up.pending = []
            · exact Or.inr (Or.inr ⟨Or.inl ⟨htask, hlt⟩, Or.inr hpending⟩)
            · refine Or.inr (Or.inl (hread hpending ?_))
              simp only [hserver, ServerPc.receive, htask]
              rw [if_pos (by rw [List.length_append]; omega)]
              rfl
      | sendReply =>
          by_cases hunsent : g.unsent = []
          · refine Or.inr (Or.inl (hoperate env ?_ (by simp [htask])))
            simp [ServerPc.operate, htask, hunsent]
          · refine Or.inr (Or.inl (hwrite (by rw [hserver, ServerPc.write, htask]) ?_))
            simpa using hunsent
      | _ =>
          refine Or.inr (Or.inl (hoperate env ?_ (by simp [htask])))
          simp [ServerPc.operate, htask]

/-- A client that waits for a message has one to come: not both sides
wait with nothing on its way. -/
theorem Inv.message_to_come (h : s.Inv p b key authNonce bus addr) {f : Framed}
    (hpc : s.client = .awaitHello f ∨ s.client = .awaitBridge f)
    (hmore : Codec.decode b f.read = .more) (hdown : s.down.pending = [])
    (hwaits : ServerWaits b s.server)
    (hup : (∃ g, s.server = .bridging g ∧ g.task = .wait) ∨ s.up.pending = []) : False := by
  have hclient := h.client
  have hne : s.client.inbound.handled ≠ 2 := by
    rcases hpc with hpc | hpc <;> simp [hpc, ClientPc.inbound]
  have hfacts : s.client.inbound.buffer = f.read ∧
      (s.client.outbound p key authNonce bus addr).unsent = [] ∧
      s.client.inbound.handled + 1 = (s.client.outbound p key authNonce bus addr).items.length := by
    rcases hpc with hpc | hpc
    · rw [hpc] at hclient ⊢
      exact ⟨rfl, hclient, rfl⟩
    · rw [hpc] at hclient ⊢
      exact ⟨rfl, hclient, rfl⟩
  obtain ⟨hbuffer, hunsent, hitems⟩ := hfacts
  obtain ⟨hcraw, hsraw⟩ := h.raw_nil hne
  have hfirst : s.client.inbound.handled ≤ 1 := by
    have hle : (s.client.outbound p key authNonce bus addr).items.length ≤ 2 := clientItems_le _
    omega
  -- the server has answered every message of the client, and sent the answers
  have hanswered : s.client.inbound.handled < s.replies.length ∧
      (s.server.outbound s.replies).unsent = [] := by
    have hok := h.server
    cases hserver : s.server with
    | serving conn f' =>
        rw [hserver] at hwaits hok
        refine ⟨?_, hok⟩
        have hpending : s.up.pending = [] := by
          rcases hup with ⟨g, hg, -⟩ | hpending
          · cases hserver.symm.trans hg
          · exact hpending
        have hbalanced := h.up
        rw [hserver] at hbalanced
        by_contra hnot
        have hlt : (ServerPc.inbound s.replies (.serving conn f')).handled
            < (s.client.outbound p key authNonce bus addr).items.length := by
          rw [ServerPc.inbound_handled]
          omega
        obtain ⟨m, left, hitem⟩ := hbalanced.ready hlt hunsent hpending
        cases hwaits.symm.trans hitem
    | bridging g =>
        have htwo := h.handedOff (by rw [hserver]; rfl)
        rw [hserver] at hsraw hok
        obtain ⟨hreply, -⟩ := List.append_eq_nil_iff.mp hsraw
        exact ⟨by omega, (hok.unmade hreply).1⟩
    | _ =>
        rw [hserver] at hwaits
        exact False.elim hwaits
  have hlt : s.client.inbound.handled < (s.server.outbound s.replies).items.length := by
    rw [ServerPc.outbound_items]
    exact hanswered.1
  obtain ⟨m, left, hitem⟩ := h.down.ready hlt hanswered.2 hdown
  rw [hbuffer] at hitem
  cases hmore.symm.trans hitem

/-- A client that waits for the import reply has sent its request, and the
server has not sent the whole reply: not both sides wait with nothing on
its way. -/
theorem Inv.reply_to_come (h : s.Inv p b key authNonce bus addr) (req : Bytes)
    (hhandled : s.client.inbound.handled = 2)
    (hshort : s.client.inbound.buffer.length < 320)
    (hunsent : (s.client.outbound p key authNonce bus addr).unsent = [])
    (hraw : (s.client.outbound p key authNonce bus addr).raw = req) (hreq : req.length = 40)
    (hdown : s.down.pending = []) (hwaits : ServerWaits b s.server)
    (hup : (∃ g, s.server = .bridging g ∧ g.task = .wait) ∨ s.up.pending = []) : False := by
  have hhands : s.server.handsOff = true := by
    by_contra hnot
    obtain ⟨resp, hresp⟩ := h.accepted hhandled
    exact h.serving (Bool.not_eq_true _ ▸ hnot) resp hresp
  have htwo := h.handedOff hhands
  have hok := h.server
  cases hserver : s.server with
  | bridging g =>
      rw [hserver] at hwaits hok
      have hwaits : g.task = .readRequest ∧ g.req.length < 40 ∨ g.task = .wait := hwaits
      rcases hwaits with ⟨htask, hlt⟩ | htask
      · -- all of the request has arrived
        have hpending : s.up.pending = [] := by
          rcases hup with ⟨g', hg', hwait⟩ | hpending
          · cases hserver.symm.trans hg'
            cases htask.symm.trans hwait
          · exact hpending
        have hbalanced := h.up
        rw [hserver] at hbalanced
        have hall : (ServerPc.inbound s.replies (.bridging g)).handled
            = (s.client.outbound p key authNonce bus addr).items.length :=
          Nat.le_antisymm hbalanced.handled_le
            (Nat.le_trans (clientItems_le _) (Nat.le_of_eq htwo.symm))
        have hrest : g.req ++ g.got ++ (s.up.pending
            ++ (s.client.outbound p key authNonce bus addr).unsent) = _ := hbalanced.rawRest hall
        have hgot := (hok.unmade (hok.reading (by rw [htask]; rfl))).2.2
        rw [hpending, hunsent, hraw, hgot, List.append_nil, List.append_nil] at hrest
        rw [List.append_nil] at hrest
        rw [hrest, hreq] at hlt
        exact Nat.lt_irrefl 40 hlt
      · -- all of the reply has arrived
        obtain ⟨hne, hsent⟩ := hok.handing (by rw [htask]; rfl)
        obtain ⟨-, info, -, hreply⟩ := hok.made hne
        have hbalanced := h.down
        rw [hserver] at hbalanced
        have hall : s.client.inbound.handled
            = (ServerPc.outbound s.replies (.bridging g)).items.length := by
          rw [ServerPc.outbound_items, hhandled, htwo]
        have hrest : s.client.inbound.buffer ++ (s.down.pending ++ g.unsent)
            = g.reply ++ g.sent := hbalanced.rawRest hall
        rw [hdown, hsent, List.append_nil, List.append_nil] at hrest
        rw [hrest, List.length_append, hreply, Bridge.importReply_length] at hshort
        omega
  | switching f target =>
      rw [hserver] at hwaits
      exact hwaits
  | replying conn f target =>
      rw [hserver] at hwaits
      exact hwaits
  | serving conn f =>
      rw [hserver] at hhands
      cases hhands

/-- **Somebody can go on**, also if nothing fails, until the handshake is
over. -/
theorem Inv.goes_on (env : ServerEnv W) (h : s.Inv p b key authNonce bus addr)
    (hinfo : s.server.Informed) : s.Over ∨ s.GoesOn p debug b key authNonce bus addr := by
  cases hclive : s.clientLive with
  | false => exact Or.inl (Or.inl hclive)
  | true =>
      cases hslive : s.serverLive with
      | false => exact Or.inl (Or.inr (Or.inl hslive))
      | true =>
          rcases h.client_goes_on hclive with hover | hgoes | ⟨hcwaits, hdown⟩
          · exact Or.inl hover
          · exact Or.inr hgoes
          · rcases h.server_goes_on env hinfo hslive with hover | hgoes | ⟨hswaits, hup⟩
            · exact Or.inl hover
            · exact Or.inr hgoes
            · -- not both wait
              have hclient := h.client
              cases hpc : s.client with
              | awaitHello f =>
                  rw [hpc] at hcwaits
                  exact (h.message_to_come (Or.inl hpc) hcwaits hdown hswaits hup).elim
              | awaitBridge f =>
                  rw [hpc] at hcwaits
                  exact (h.message_to_come (Or.inr hpc) hcwaits hdown hswaits hup).elim
              | readHeader busid req hdr =>
                  rw [hpc] at hcwaits hclient
                  have hshort : hdr.length < 8 := hcwaits
                  refine (h.reply_to_come req (by rw [hpc]; rfl) ?_ (by rw [hpc]; rfl)
                    (by rw [hpc]; rfl) (Mount.importRequest_length hclient.1) hdown hswaits
                    hup).elim
                  rw [hpc]
                  show hdr.length < 320
                  omega
              | readDevice req hdr dev =>
                  rw [hpc] at hcwaits hclient
                  have hshort : dev.length < 312 := hcwaits
                  obtain ⟨⟨busid, hreq⟩, hhdr, -⟩ := hclient
                  refine (h.reply_to_come req (by rw [hpc]; rfl) ?_ (by rw [hpc]; rfl)
                    (by rw [hpc]; rfl) (Mount.importRequest_length hreq) hdown hswaits hup).elim
                  rw [hpc]
                  show (hdr ++ dev).length < 320
                  rw [List.length_append]
                  omega
              | _ =>
                  rw [hpc] at hcwaits
                  exact hcwaits.elim

/-! ## Every step lowers the rank -/

/-- The operations the two sides have left, the bytes they have not
written, and the bytes on their way. -/
def rank (p : Platform W) (key : Option Bytes) (authNonce : Vector UInt8 32) (bus addr : UInt8)
    (s : Switchover) : Work :=
  .of (s.client.left + s.server.left s.replies.length)
    ((s.client.outbound p key authNonce bus addr).unsent.length
      + (s.server.outbound s.replies).unsent.length)
    (s.up.pending.length + s.down.pending.length)

theorem Inv.client_lowers (h : s.Inv p b key authNonce bus addr) {e : SwitchEvent W}
    (hmoves : s.Moves e) (hstep : s.clientStep p debug b key authNonce bus addr e = some s') :
    s'.Over ∨ s'.rank p key authNonce bus addr < s.rank p key authNonce bus addr := by
  cases e with
  | client =>
      obtain ⟨r, hadv, rfl⟩ := Option.map_eq_some_iff.mp hstep
      cases r with
      | none => exact Or.inl (Or.inl rfl)
      | some pc =>
          exact Or.inr (Work.of_lt.mpr (Or.inl
            (Nat.add_lt_add_right (ClientPc.left_advance hadv) _)))
  | clientRead n =>
      obtain ⟨pc, hread, rfl⟩ := Option.map_eq_some_iff.mp hstep
      obtain ⟨-, hout, -⟩ := ClientPc.books_receive p key authNonce bus addr hread h.client
      have hlen : 0 < (s.down.pending.take n).length := List.length_pos_of_ne_nil hmoves
      rw [List.length_take] at hlen
      refine Or.inr (Work.of_lt.mpr (Or.inr ⟨?_, Or.inr ⟨?_, ?_⟩⟩))
      · simp only [ClientPc.left_receive hread]
      · simp only [hout]
      · simp only [Channel.pending_read, List.length_drop]
        omega
  | clientWrite n =>
      obtain ⟨⟨bytes, pc⟩, hwrite, rfl⟩ := Option.map_eq_some_iff.mp hstep
      obtain ⟨-, -, hout⟩ := ClientPc.books_write p key authNonce bus addr hwrite h.client
      have hlen : 0 < bytes.length := List.length_pos_of_ne_nil (hmoves _ hwrite)
      refine Or.inr (Work.of_lt.mpr (Or.inr ⟨?_, Or.inl ?_⟩))
      · simp only [ClientPc.left_write hwrite]
      · simp only [hout, List.length_append]
        omega
  | clientKernel bytes => exact hmoves.elim
  | clientFails =>
      obtain rfl := Option.some.inj hstep
      exact Or.inl (Or.inl rfl)
  | _ => cases hstep

theorem Inv.server_lowers (h : s.Inv p b key authNonce bus addr)
    (h' : s'.Inv p b key authNonce bus addr) (hover : ¬ s.Over) {e : SwitchEvent W}
    (hmoves : s.Moves e) (hstep : s.serverStep p b e = some s') :
    s'.Over ∨ s'.rank p key authNonce bus addr < s.rank p key authNonce bus addr := by
  cases e with
  | server env =>
      obtain ⟨r, hadv, rfl⟩ := Option.map_eq_some_iff.mp hstep
      cases r with
      | none => exact Or.inl (Or.inr (Or.inl rfl))
      | some r =>
          obtain ⟨server, reply⟩ := r
          have htwo : (s.replies ++ reply.toList).length ≤ 2 := by
            have hle := h'.up.handled_le
            rw [ServerPc.inbound_handled] at hle
            exact Nat.le_trans hle (clientItems_le _)
          have hleft := ServerPc.left_advance hadv htwo fun g hg => by
            refine ⟨Nat.pos_of_ne_zero fun hzero => ?_, hmoves g hg⟩
            obtain ⟨r, hr⟩ := Bridge.Pc.left_eq_zero hzero
            exact hover (Or.inr (Or.inr (Or.inl ⟨g, r, hg, hr⟩)))
          exact Or.inr (Work.of_lt.mpr (Or.inl (Nat.add_lt_add_left hleft _)))
  | serverRead n =>
      obtain ⟨server, hread, rfl⟩ := Option.map_eq_some_iff.mp hstep
      obtain ⟨-, -, hout, -⟩ := ServerPc.books_receive s.replies hread h.server
      have hlen : 0 < (s.up.pending.take n).length := List.length_pos_of_ne_nil hmoves
      rw [List.length_take] at hlen
      refine Or.inr (Work.of_lt.mpr (Or.inr ⟨?_, Or.inr ⟨?_, ?_⟩⟩))
      · simp only [ServerPc.left_receive hread]
      · simp only [hout]
      · simp only [Channel.pending_read, List.length_drop]
        omega
  | serverWrite n =>
      obtain ⟨⟨bytes, server⟩, hwrite, rfl⟩ := Option.map_eq_some_iff.mp hstep
      obtain ⟨-, -, -, hout⟩ := ServerPc.books_write s.replies hwrite h.server
      have hlen : 0 < bytes.length := List.length_pos_of_ne_nil (hmoves _ hwrite)
      refine Or.inr (Work.of_lt.mpr (Or.inr ⟨?_, Or.inl ?_⟩))
      · simp only [ServerPc.left_write hwrite]
      · simp only [hout, List.length_append]
        omega
  | serverKernel bytes => exact hmoves.elim
  | serverFails =>
      obtain rfl := Option.some.inj hstep
      exact Or.inl (Or.inr (Or.inl rfl))
  | _ => cases hstep

end Switchover

/-- **The mount handshake never hangs**, in every run of `cmd_mount`
against a connection of the server: from whatever state it has come to,
whatever the two programs do next, in whatever order and in whatever
pieces, and whatever fails, the client's kernel gets the socket or a side
ends; and no I/O error is needed for it. Steps that move nothing are not
counted. -/
theorem mount_handshake_ends (p : Platform W) (debug : Message → String) (b : Bincode)
    (hb : b.RoundTrips) (hc : b.Compact) (htags : ShortTags p) (key sharedKey : Option Bytes)
    (authNonce : Vector UInt8 32) (bus addr : UInt8) (peerAddr : SocketAddr) (env : ServerEnv W)
    {es : List (SwitchEvent W)} {s : Switchover}
    (hrun : Run (Guarded fun s e => Switchover.step p debug b key authNonce bus addr s e)
      (.start peerAddr sharedKey) es s) :
    Inevitable (fun s e s' => Switchover.Handshakes p debug b key authNonce bus addr s e s')
      (fun e => ¬ Switchover.Fails e) Switchover.Over s := by
  have hinv : s.Inv p b key authNonce bus addr ∧ s.server.Informed := by
    refine hrun.preserves
      (I := fun s : Switchover => s.Inv p b key authNonce bus addr ∧ s.server.Informed) ?_
      ⟨Switchover.inv_start p b key authNonce bus addr peerAddr sharedKey, fun _ hg => by cases hg⟩
    rintro s e s' ⟨h, hinfo⟩ hstep
    exact ⟨h.step hb hc htags hstep, Switchover.informed_step hinfo hstep⟩
  refine inevitable_of_rank
    (I := fun s : Switchover => s.Inv p b key authNonce bus addr ∧ s.server.Informed)
    (Switchover.rank p key authNonce bus addr) ?_ ?_ hinv
  · rintro s ⟨h, hinfo⟩
    exact h.goes_on env hinfo
  · rintro s e s' ⟨h, hinfo⟩ hover ⟨hstep, hmoves⟩
    have h' := h.step hb hc htags hstep
    have hinfo' := Switchover.informed_step hinfo hstep
    rcases Switchover.step_cases hstep with ⟨-, hclient⟩ | ⟨-, hserver⟩
    · exact (h.client_lowers hmoves hclient).imp id fun hlt => ⟨⟨h', hinfo'⟩, hlt⟩
    · exact (h.server_lowers h' hover hmoves hserver).imp id fun hlt => ⟨⟨h', hinfo'⟩, hlt⟩

/-- The Hello is written, and the server has read three bytes of it. -/
def helloUnderWay : List (SwitchEvent Nat) := [.client, .clientWrite 1000, .client, .serverRead 3]

theorem mount_handshake_ends_hello :
    ∃ s, Run (Guarded fun s e => Switchover.step twoDeviceHost (fun _ => "") .standard none
        (.replicate 32 0) 1 2 s e) (.start ⟨"10.0.0.1", 4000⟩ none) helloUnderWay s ∧
      s.client = .awaitHello ⟨[], []⟩ ∧
      Inevitable (fun s e s' => Switchover.Handshakes twoDeviceHost (fun _ => "") .standard none
        (.replicate 32 0) 1 2 s e s') (fun e => ¬ Switchover.Fails e) Switchover.Over s := by
  have hplay : (play (fun s e => Switchover.step twoDeviceHost (fun _ => "") .standard none
      (.replicate 32 0) 1 2 s e) (.start ⟨"10.0.0.1", 4000⟩ none) helloUnderWay).map
        Switchover.client = some (.awaitHello ⟨[], []⟩) := by
    decide +kernel
  obtain ⟨s, hplay, hclient⟩ := Option.map_eq_some_iff.mp hplay
  have hrun := play_iff_run.mp hplay
  exact ⟨s, hrun, hclient, mount_handshake_ends twoDeviceHost (fun _ => "") .standard
    Bincode.standard_roundTrips Bincode.standard_compact (fun _ _ => Nat.zero_le _) none none
    (.replicate 32 0) 1 2 ⟨"10.0.0.1", 4000⟩
    ⟨none, ⟨.new, ⟨0, []⟩⟩, { request := none }, ⟨.normal, false, 1⟩, exportedCamera⟩ hrun⟩

end WolfUsb
