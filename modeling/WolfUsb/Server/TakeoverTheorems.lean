/-
WolfUsb.Server.TakeoverTheorems — two bridge tasks on one device.

A client that reconnects makes the server start a second task while the
first still waits for the kernel to let go. The second finds the device
bound, releases it and binds it again. The first learns of this only by
reading `usbip_status`, which does not say whose binding it is about, and
then unbinds by busid (`older_task_undoes_new_binding`).

`Takeover` is the two tasks and the device, with notes of which binding
and which allow-list entry the newer task made. The argument is one of
mutual exclusion: while the older task is in its final `unbind` nothing on
the device is the newer's, as long as it enters that `unbind` when nothing
is, and the newer task makes nothing meanwhile (`takeover_safe`).
-/
import WolfUsb.Lib.Runs
import WolfUsb.Server.Bridge

namespace WolfUsb.Bridge

open WolfUsb.Lib KernelUsbip

/-! ## Phases of a task -/

/-- In the `unbind` a task ends with. -/
def Pc.unbinding : Pc → Bool
  | .rollback _ => true
  | .finish _ => true
  | _ => false

/-- The operation enters the `unbind` a task ends with: the wait is over,
or the kernel rejects the socket. -/
def Pc.entersUnbind (env : BridgeEnv) (d : SysfsDevice) : Pc → Bool
  | .wait => env.waitLost || d.status != 2
  | .attachSocket => !(env.socketAccepted && d.isBound)
  | _ => false

/-- The operation writes to the allow-list or to `bind`. -/
def Pc.binding : Pc → Bool
  | .bind .add => true
  | .bind .writeBind => true
  | _ => false

variable {env : BridgeEnv} {pc : Pc} {d : SysfsDevice}

/-- A task comes to the `unbind` it ends with by entering it. -/
theorem step_unbinding (hu : (step env pc d).1.unbinding = true) :
    pc.unbinding = true ∨ pc.entersUnbind env d = true := by
  cases pc with
  | rollback u => exact Or.inl rfl
  | finish u => exact Or.inl rfl
  | attachSocket =>
      simp only [step] at hu
      split at hu
      · cases hu
      · rename_i hno
        exact Or.inr (by simp [Pc.entersUnbind, hno])
  | wait =>
      simp only [step] at hu
      split at hu
      · rename_i hyes
        exact Or.inr hyes
      · cases hu
  | release u => cases u <;> cases hu
  | bind b =>
      simp only [step] at hu
      split at hu <;> cases hu
  | settle n =>
      simp only [step] at hu
      split at hu
      · split at hu <;> cases hu
      · cases hu
  | readRequest =>
      simp only [step] at hu
      split at hu
      · cases hu
      · split at hu <;> cases hu
  | lookup => simp only [step] at hu; split at hu <;> cases hu
  | isBound => simp only [step] at hu; split at hu <;> cases hu
  | readInfo => simp only [step] at hu; split at hu <;> cases hu
  | sendReply => simp only [step] at hu; split at hu <;> cases hu
  | flush => simp only [step] at hu; split at hu <;> cases hu
  | intoStd => simp only [step] at hu; split at hu <;> cases hu
  | setBlocking => simp only [step] at hu; split at hu <;> cases hu
  | done result => cases hu

theorem unbindStep_isBound {u : UnbindPc} (h : d.isBound = false) :
    (unbindStep u d).2.isBound = false := by
  cases u with
  | isBound => exact h
  | write => simp [unbindStep, SysfsDevice.unbindHost, h]
  | del => exact h
  | probe =>
      simp only [unbindStep, SysfsDevice.reprobe]
      split
      · rfl
      · exact h

theorem bindStep_isBound {env : ExportEnv} {b : BindPc} (h : d.isBound = false)
    (hb : (bindStep env b d).2.isBound = true) : b = .writeBind := by
  have hkeep : d.isBound = true → b = .writeBind := fun hd => by
    rw [h] at hd
    cases hd
  cases b with
  | writeBind => rfl
  | add =>
      simp only [bindStep] at hb
      split at hb <;> exact hkeep hb
  | unbindDriver =>
      simp only [bindStep] at hb
      split at hb
      · cases hb
      · exact hkeep hb
  | poll n =>
      simp only [bindStep] at hb
      split at hb <;> exact hkeep hb
  | _ => exact hkeep hb

/-- Only the write to `bind` binds the device to usbip-host. -/
theorem step_isBound (h : d.isBound = false) (hb : (step env pc d).2.isBound = true) :
    pc = .bind .writeBind := by
  have hkeep : d.isBound = true → pc = .bind .writeBind := fun hd => by
    rw [h] at hd
    cases hd
  have hun : ∀ u, (unbindStep u d).2.isBound = true → pc = .bind .writeBind := fun u hu => by
    rw [unbindStep_isBound h] at hu
    cases hu
  cases pc with
  | release u => exact hun u (by cases u <;> exact hb)
  | rollback u => exact hun u (by cases u <;> exact hb)
  | finish u => exact hun u (by cases u <;> exact hb)
  | bind b =>
      have hdev : (step env (.bind b) d).2 = (bindStep env.toExportEnv b d).2 := by
        simp only [step]
        split <;> rename_i heq <;> rw [heq]
      rw [hdev] at hb
      rw [bindStep_isBound h hb]
  | readRequest =>
      simp only [step] at hb
      split at hb <;> exact hkeep hb
  | attachSocket =>
      simp only [step] at hb
      split at hb <;> exact hkeep hb
  | _ => exact hkeep hb

/-! ## Two tasks -/

/-- The two tasks and their device. -/
structure Takeover where
  device : SysfsDevice
  older : Pc
  newer : Pc
  /-- The binding in place was made by the newer task. -/
  boundByNewer : Bool
  /-- The allow-list entry in place was made by the newer task. -/
  listedByNewer : Bool

/-- An operation of one of the tasks, with its outcomes, or the kernel
lets go of the socket. -/
inductive TakeoverEvent where
  | older (env : BridgeEnv)
  | newer (env : BridgeEnv)
  | letGo

/-- The operation adds the busid to the allow-list. -/
def Pc.adds (env : BridgeEnv) : Pc → Bool
  | .bind .add => env.added
  | _ => false

namespace Takeover

/-- Neither task has begun. -/
def start (device : SysfsDevice) : Takeover where
  device := device
  older := .lookup
  newer := .lookup
  boundByNewer := false
  listedByNewer := false

/-- The state after an operation of the older task. -/
def stepOlder (s : Takeover) (env : BridgeEnv) : Takeover :=
  let r := Bridge.step env s.older s.device
  { s with
    device := r.2
    older := r.1
    boundByNewer := s.boundByNewer && r.2.isBound
    listedByNewer := s.listedByNewer && r.2.allowed }

/-- The state after an operation of the newer task. -/
def stepNewer (s : Takeover) (env : BridgeEnv) : Takeover :=
  let r := Bridge.step env s.newer s.device
  { s with
    device := r.2
    newer := r.1
    boundByNewer := (s.boundByNewer || !s.device.isBound) && r.2.isBound
    listedByNewer := (s.listedByNewer || s.newer.adds env) && r.2.allowed }

def step (s : Takeover) : TakeoverEvent → Option Takeover
  | .older env => some (s.stepOlder env)
  | .newer env => some (s.stepNewer env)
  | .letGo => some { s with device := s.device.letGo }

/-- The event is an operation of the `unbind` the older task ends with,
and takes away the newer task's binding or allow-list entry. -/
def Undoes (s : Takeover) (e : TakeoverEvent) : Prop :=
  ∃ env s', e = .older env ∧ s.older.unbinding = true ∧ s.step e = some s' ∧
    (s.boundByNewer = true ∧ s'.boundByNewer = false ∨
      s.listedByNewer = true ∧ s'.listedByNewer = false)

/-- The older task enters its `unbind` only while neither the binding nor
the allow-list entry is the newer task's, and the newer task makes neither
while the older one is in its `unbind`. -/
def TakesTurns (s : Takeover) : TakeoverEvent → Prop
  | .older env => s.older.entersUnbind env s.device = true →
      s.boundByNewer = false ∧ s.listedByNewer = false
  | .newer _ => s.newer.binding = true → s.older.unbinding = false
  | .letGo => True

instance (s : Takeover) : ∀ e, Decidable (s.TakesTurns e)
  | .older _ => inferInstanceAs (Decidable (_ → _ ∧ _))
  | .newer _ => inferInstanceAs (Decidable (_ → _))
  | .letGo => isTrue trivial

/-- While the older task is in its `unbind` nothing is the newer's. -/
def Safe (s : Takeover) : Prop :=
  s.older.unbinding = true → s.boundByNewer = false ∧ s.listedByNewer = false

theorem safe_start (device : SysfsDevice) : (start device).Safe := fun h => nomatch h

theorem Safe.step {s s' : Takeover} {e : TakeoverEvent} (h : s.Safe) (hC : s.TakesTurns e)
    (hstep : s.step e = some s') : s'.Safe := by
  cases e with
  | older env =>
      obtain rfl : s.stepOlder env = s' := Option.some.inj hstep
      intro hu
      have hmine : s.boundByNewer = false ∧ s.listedByNewer = false := by
        rcases step_unbinding hu with hin | henter
        · exact h hin
        · exact hC henter
      simp [stepOlder, hmine]
  | newer env =>
      obtain rfl : s.stepNewer env = s' := Option.some.inj hstep
      intro hu
      have hu : s.older.unbinding = true := hu
      obtain ⟨hbound, hlisted⟩ := h hu
      have hidle : s.newer.binding = false := by
        cases hbind : s.newer.binding with
        | false => rfl
        | true =>
            rw [hC hbind] at hu
            cases hu
      have hadds : s.newer.adds env = false := by
        cases hpc : s.newer with
        | bind b =>
            rw [hpc] at hidle
            cases b with
            | add => cases hidle
            | _ => rfl
        | _ => rfl
      have hfree : (!s.device.isBound && (Bridge.step env s.newer s.device).2.isBound) = false := by
        -- a device it finds free stays free
        cases hdev : s.device.isBound with
        | true => rfl
        | false =>
            cases hb : (Bridge.step env s.newer s.device).2.isBound with
            | false => rfl
            | true =>
                rw [step_isBound hdev hb] at hidle
                cases hidle
      exact ⟨by simpa [stepNewer, hbound] using hfree, by simp [stepNewer, hlisted, hadds]⟩
  | letGo =>
      cases hstep
      exact h

/-- In a safe state the older task undoes nothing. -/
theorem Safe.not_undoes {s : Takeover} {e : TakeoverEvent} (h : s.Safe) : ¬ s.Undoes e := by
  rintro ⟨env, s', rfl, hu, -, hcase⟩
  obtain ⟨hbound, hlisted⟩ := h hu
  rcases hcase with ⟨hb, -⟩ | ⟨hl, -⟩
  · simp [hbound] at hb
  · simp [hlisted] at hl

/-! ## Runs -/

/-- The older task hands its socket over and waits; the newer one releases
the device and binds it again; the older one sees that the status is not 2. -/
def takeoverRun : List TakeoverEvent :=
  List.replicate 17 (.older { request := some importRequest }) ++
    List.replicate 15 (.newer { request := some importRequest }) ++
    List.replicate 2 (.older { request := some importRequest })

/-- The next operation of the older task unbinds the newer task's binding. -/
theorem older_task_undoes_new_binding :
    ∃ s, Run (Guarded step) (start ⟨.normal, false, 0⟩) takeoverRun s ∧
      s.Undoes (.older { request := some importRequest }) := by
  have hplay : play step (start ⟨.normal, false, 0⟩) takeoverRun = some
      { device := { driver := .usbipHost, allowed := true, status := 1 }
        older := .finish .write
        newer := .bind (.poll 0)
        boundByNewer := true
        listedByNewer := true } := rfl
  exact ⟨_, play_iff_run.mp hplay, _, _, rfl, rfl, rfl, Or.inl ⟨rfl, rfl⟩⟩

/-- **Safe takeover.** In every run of the two tasks, on a device in any
state, in which they take turns, the `unbind` the older task ends with
never takes away the binding or the allow-list entry the newer one made. -/
theorem takeover_safe (device : SysfsDevice) {es : List TakeoverEvent}
    (hC : StepsAlong (Guarded step) (fun s e => s.TakesTurns e) (start device) es) :
    StepsAlong (Guarded step) (fun s e => ¬ s.Undoes e) (start device) es := by
  have hsafe : StatesAlong (Guarded step) (fun s => s.Safe) (start device) es :=
    statesAlong_of_stepsAlong (fun _ _ _ h hturn hstep => h.step hturn hstep)
      (safe_start device) hC
  exact (hC.and_states hsafe).mono fun s e h => h.2.not_undoes

/-- The older task ends before the newer one binds. -/
theorem takeover_safe_in_turn :
    StepsAlong (Guarded step) (fun s e => ¬ s.Undoes e) (start ⟨.normal, false, 0⟩)
      (List.replicate 17 (.older { request := some importRequest }) ++
        List.replicate 6 (.newer { request := some importRequest }) ++
        List.replicate 5 (.older { request := some importRequest }) ++
        List.replicate 9 (.newer { request := some importRequest })) :=
  takeover_safe ⟨.normal, false, 0⟩ (by decide +kernel)

end Takeover

end WolfUsb.Bridge
