/-
WolfUsb.Server.BridgeTheorems — when a bridge task leaves the device as a
normal device.

One task runs alone on its device, the kernel may let go of the socket at
any time, and every other outcome is the environment's. `Inv` says what
the device is like at each operation of the task, in terms of the device
the task found and the environment; `bridge_restores_iff` reads the answer
off it at the return. Every `?` between `bind` and `attach_socket` returns
without undoing the bind, and `bind` itself returns without undoing what
it has done (`short_read_leaves_device_bound`).
-/
import WolfUsb.Lib.Runs
import WolfUsb.Server.Bridge

namespace WolfUsb

open WolfUsb.Lib KernelUsbip

namespace KernelUsbip

/-! ## `unbind` -/

/-- What the device is like during an `unbind` that found it bound. -/
def Unbinding : UnbindPc → SysfsDevice → Prop
  | .isBound, d => d.isBound = true
  | .write, d => d.isBound = true
  | .del, d => d.driver = .none
  | .probe, d => d.driver = .none ∧ d.allowed = false

/-- One operation of `unbind`; the last one leaves the device clean. -/
theorem unbindStep_cases {u : UnbindPc} {d : SysfsDevice} (h : Unbinding u d) :
    (∃ u' d', unbindStep u d = (some u', d') ∧ Unbinding u' d') ∨
    (∃ d', unbindStep u d = (none, d') ∧ d'.Clean) := by
  cases u with
  | isBound =>
      have h : d.isBound = true := h
      exact Or.inl ⟨.write, d, by simp [unbindStep, h], h⟩
  | write =>
      have h : d.isBound = true := h
      refine Or.inl ⟨.del, d.unbindHost, by simp [unbindStep], ?_⟩
      simp [SysfsDevice.unbindHost, h, Unbinding]
  | del => exact Or.inl ⟨.probe, { d with allowed := false }, rfl, h, rfl⟩
  | probe =>
      obtain ⟨hdriver, hallowed⟩ := h
      refine Or.inr ⟨d.reprobe, rfl, ?_⟩
      simp [SysfsDevice.reprobe, hdriver, SysfsDevice.Clean, hallowed]

/-! ## `bind` -/

/-- The environment in which `bind` exports a device that is like `r`. -/
def ExportEnv.Binds (env : ExportEnv) (r : SysfsDevice) : Prop :=
  env.moduleLoaded = true ∧ (r.driver = .normal → env.driverUnbound = true) ∧
    env.bindOpened = true ∧ env.bindWritten = .bound

instance (env : ExportEnv) (r : SysfsDevice) : Decidable (env.Binds r) :=
  inferInstanceAs (Decidable (_ ∧ (_ → _) ∧ _ ∧ _))

/-- The environment in which `bind` fails before it has changed anything. -/
def ExportEnv.Harmless (env : ExportEnv) : Prop :=
  env.moduleLoaded = false ∨ (env.driverUnbound = false ∧ env.added = false)

instance (env : ExportEnv) : Decidable env.Harmless :=
  inferInstanceAs (Decidable (_ ∨ (_ ∧ _)))

/-- What the device is like during a `bind` that found it like `r`. -/
def Binding (env : ExportEnv) (r : SysfsDevice) : BindPc → SysfsDevice → Prop
  | .isBound, d => d.driver = r.driver ∧ d.allowed = r.allowed
  | .loadModule, d => d.driver = r.driver ∧ d.allowed = r.allowed
  | .add, d => env.moduleLoaded = true ∧ d.driver = r.driver ∧ d.allowed = r.allowed
  | .readDriver, d => env.moduleLoaded = true ∧ d.driver = r.driver ∧
      d.allowed = (r.allowed || env.added)
  | .unbindDriver, d => env.moduleLoaded = true ∧ r.driver = .normal ∧ d.driver = .normal ∧
      d.allowed = (r.allowed || env.added)
  | .openBind, d => env.moduleLoaded = true ∧ d.driver = .none ∧
      (r.driver = .normal → env.driverUnbound = true)
  | .writeBind, d => env.moduleLoaded = true ∧ d.driver = .none ∧
      (r.driver = .normal → env.driverUnbound = true) ∧ env.bindOpened = true
  | .poll n, d => env.moduleLoaded = true ∧ (r.driver = .normal → env.driverUnbound = true) ∧
      env.bindOpened = true ∧
      (env.bindWritten = .bound ∧ d.isBound = true ∧ n < 20 ∨
        env.bindWritten = .ineffective ∧ d.driver = .none)

/-- A bind that stopped with an error: it was no `Binds`, and left the
device clean exactly if it was clean and nothing had been changed. -/
structure BindFailed (env : ExportEnv) (r d : SysfsDevice) : Prop where
  notBinds : ¬ env.Binds r
  clean : d.Clean ↔ r.Clean ∧ env.Harmless

/-- A device without a driver was left behind. -/
theorem BindFailed.of_none {env : ExportEnv} {r d : SysfsDevice} (hload : env.moduleLoaded = true)
    (hdriver : d.driver = .none) (hun : r.driver = .normal → env.driverUnbound = true)
    (hnot : ¬ env.Binds r) : BindFailed env r d where
  notBinds := hnot
  clean := by
    constructor
    · intro h
      rw [h.1] at hdriver
      cases hdriver
    · rintro ⟨hr, hfalse | ⟨hfalse, -⟩⟩
      · rw [hload] at hfalse
        cases hfalse
      · rw [hun hr.1] at hfalse
        cases hfalse

/-- One operation of `bind` on a device that was not bound when it began. -/
theorem bindStep_binding {env : ExportEnv} {r : SysfsDevice} (hr : r.isBound = false)
    {b : BindPc} {d : SysfsDevice} (h : Binding env r b d) :
    match bindStep env b d with
    | (.inl b', d') => Binding env r b' d'
    | (.inr (.ok ()), d') => env.Binds r ∧ d'.isBound = true
    | (.inr (.error _), d') => BindFailed env r d' := by
  cases b with
  | isBound =>
      have hd : d.isBound = false := by
        rw [SysfsDevice.isBound, h.1]
        exact hr
      simp only [bindStep, hd]
      exact h
  | loadModule =>
      obtain ⟨hdriver, hallowed⟩ := h
      simp only [bindStep]
      cases hload : env.moduleLoaded with
      | true => exact ⟨hload, hdriver, hallowed⟩
      | false =>
          refine ⟨fun hb => by simp [ExportEnv.Binds, hload] at hb, ?_⟩
          simp [SysfsDevice.Clean, hdriver, hallowed, ExportEnv.Harmless, hload]
  | add =>
      obtain ⟨hload, hdriver, hallowed⟩ := h
      simp only [bindStep]
      cases hadd : env.added with
      | true => exact ⟨hload, hdriver, by simp [hadd]⟩
      | false => exact ⟨hload, hdriver, by simp [hadd, hallowed]⟩
  | readDriver =>
      obtain ⟨hload, hdriver, hallowed⟩ := h
      simp only [bindStep]
      split
      · rename_i hn
        exact ⟨hload, hdriver ▸ hn, hn, hallowed⟩
      · rename_i hn
        have hnone : d.driver = .none := by
          cases hcase : d.driver with
          | none => rfl
          | normal => exact absurd hcase hn
          | usbipHost =>
              rw [hdriver] at hcase
              simp [SysfsDevice.isBound, hcase] at hr
        exact ⟨hload, hnone, fun hrn => absurd (hdriver.trans hrn) hn⟩
  | unbindDriver =>
      obtain ⟨hload, hrn, hdn, hallowed⟩ := h
      simp only [bindStep, hdn]
      cases hun : env.driverUnbound with
      | true => exact ⟨hload, rfl, fun _ => hun⟩
      | false =>
          refine ⟨fun hb => by simp [ExportEnv.Binds, hrn, hun] at hb, ?_⟩
          simp [SysfsDevice.Clean, ExportEnv.Harmless, hdn, hrn, hallowed, hload, hun]
  | openBind =>
      obtain ⟨hload, hnone, hun⟩ := h
      simp only [bindStep]
      cases hopen : env.bindOpened with
      | true => exact ⟨hload, hnone, hun, hopen⟩
      | false => exact .of_none hload hnone hun (fun hb => by simp [ExportEnv.Binds, hopen] at hb)
  | writeBind =>
      obtain ⟨hload, hnone, hun, hopen⟩ := h
      simp only [bindStep]
      cases hw : env.bindWritten with
      | refused => exact .of_none hload hnone hun (fun hb => by simp [ExportEnv.Binds, hw] at hb)
      | ineffective => exact ⟨hload, hun, hopen, Or.inr ⟨hw, hnone⟩⟩
      | bound =>
          simp only [hnone, if_true]
          exact ⟨hload, hun, hopen, Or.inl ⟨hw, rfl, by omega⟩⟩
  | poll n =>
      obtain ⟨hload, hun, hopen, hcase⟩ := h
      simp only [bindStep]
      rcases hcase with ⟨hw, hbound, hn⟩ | ⟨hw, hnone⟩
      · simp only [if_pos hn, hbound, if_true]
        exact ⟨⟨hload, hun, hopen, hw⟩, trivial⟩
      · have hd : d.isBound = false := by simp [SysfsDevice.isBound, hnone]
        by_cases hn : n < 20
        · simp only [if_pos hn, hd]
          exact ⟨hload, hun, hopen, Or.inr ⟨hw, hnone⟩⟩
        · simp only [if_neg hn]
          exact .of_none hload hnone hun (fun hb => by simp [ExportEnv.Binds, hw] at hb)

end KernelUsbip

namespace Bridge

/-! ## The task -/

/-- The device `bind` finds: a device bound to usbip-host was released. -/
def released (init : SysfsDevice) : SysfsDevice :=
  if init.isBound then { driver := .normal, allowed := false, status := 0 } else init

theorem released_isBound (init : SysfsDevice) : (released init).isBound = false := by
  unfold released
  cases h : init.isBound with
  | true => rfl
  | false => exact h

/-- The client sends OP_REQ_IMPORT. -/
def BridgeEnv.Requested (env : BridgeEnv) : Prop :=
  ∃ req ∈ env.request, reqCode req = opReqImport

/-- The handshake gets as far as handing the socket to the kernel. -/
def BridgeEnv.Handshake (env : BridgeEnv) : Prop :=
  env.Requested ∧ env.replySent = true ∧ env.flushed = true ∧ env.intoStd = true ∧
    env.blocking = true

instance (env : BridgeEnv) : Decidable env.Requested :=
  inferInstanceAs (Decidable (∃ req ∈ env.request, _))

instance (env : BridgeEnv) : Decidable env.Handshake :=
  inferInstanceAs (Decidable (_ ∧ _ ∧ _ ∧ _ ∧ _))

/-- The task stops before it looks at a clean device; or it binds the
device and hands the socket to the kernel; or it stops, on a device that
is clean then, before it has changed anything. -/
def BridgeEnv.Restores (env : BridgeEnv) (init : SysfsDevice) : Prop :=
  if env.pathFound = false then init.Clean
  else if env.infoRead = false then (released init).Clean
  else if env.Binds (released init) then env.Handshake
  else (released init).Clean ∧ env.Harmless

instance (env : BridgeEnv) (init : SysfsDevice) : Decidable (env.Restores init) := by
  unfold BridgeEnv.Restores
  infer_instance

/-- The task has bound the device. -/
def BridgeEnv.Exports (env : BridgeEnv) (init : SysfsDevice) : Prop :=
  env.pathFound = true ∧ env.infoRead = true ∧ env.Binds (released init)

variable {env : BridgeEnv} {init d : SysfsDevice}

theorem BridgeEnv.Exports.restores (h : env.Exports init) :
    env.Restores init ↔ env.Handshake := by
  obtain ⟨hpath, hinfo, hbinds⟩ := h
  simp [Restores, hpath, hinfo, hbinds]

/-- A bound device left behind after a handshake that failed. -/
theorem not_clean_of_bound (h : env.Exports init) (hd : d.isBound = true)
    (hnot : ¬ env.Handshake) : d.Clean ↔ env.Restores init := by
  rw [h.restores]
  refine iff_of_false (fun hc => ?_) hnot
  simp [SysfsDevice.isBound, hc.1] at hd

/-- What the device is like at each operation of the task. -/
def Inv (env : BridgeEnv) (init : SysfsDevice) : Pc → SysfsDevice → Prop
  | .lookup, d => d.driver = init.driver ∧ d.allowed = init.allowed
  | .isBound, d => env.pathFound = true ∧ d.driver = init.driver ∧ d.allowed = init.allowed
  | .release u, d => env.pathFound = true ∧ init.isBound = true ∧ Unbinding u d
  | .settle _, d => env.pathFound = true ∧ d.driver = (released init).driver ∧
      d.allowed = (released init).allowed
  | .readInfo, d => env.pathFound = true ∧ d.driver = (released init).driver ∧
      d.allowed = (released init).allowed
  | .bind b, d => env.pathFound = true ∧ env.infoRead = true ∧
      Binding env.toExportEnv (released init) b d
  | .readRequest, d => env.Exports init ∧ d.isBound = true
  | .sendReply, d => env.Exports init ∧ d.isBound = true ∧ env.Requested
  | .flush, d => env.Exports init ∧ d.isBound = true ∧ env.Requested ∧ env.replySent = true
  | .intoStd, d => env.Exports init ∧ d.isBound = true ∧ env.Requested ∧ env.replySent = true ∧
      env.flushed = true
  | .setBlocking, d => env.Exports init ∧ d.isBound = true ∧ env.Requested ∧
      env.replySent = true ∧ env.flushed = true ∧ env.intoStd = true
  | .attachSocket, d => env.Exports init ∧ d.isBound = true ∧ env.Handshake
  | .rollback u, d => env.Exports init ∧ env.Handshake ∧ Unbinding u d
  | .wait, d => env.Exports init ∧ env.Handshake ∧ d.isBound = true
  | .finish u, d => env.Exports init ∧ env.Handshake ∧ Unbinding u d
  | .done _, d => d.Clean ↔ env.Restores init

theorem inv_start (env : BridgeEnv) (init : SysfsDevice) : Inv env init .lookup init := ⟨rfl, rfl⟩

/-- The status plays no part in it. -/
theorem inv_status {driver : Driver} {allowed : Bool} {s s' : Nat} {pc : Pc}
    (h : Inv env init pc ⟨driver, allowed, s⟩) : Inv env init pc ⟨driver, allowed, s'⟩ := by
  cases pc with
  | release u => cases u <;> exact h
  | bind b => cases b <;> exact h
  | rollback u => cases u <;> exact h
  | finish u => cases u <;> exact h
  | _ => exact h

theorem inv_letGo {pc : Pc} (h : Inv env init pc d) : Inv env init pc d.letGo := by
  unfold SysfsDevice.letGo
  split
  · exact inv_status h
  · exact h

/-- **One operation of the task.** -/
theorem inv_step {pc : Pc} (h : Inv env init pc d) :
    Inv env init (step env pc d).1 (step env pc d).2 := by
  cases pc with
  | lookup =>
      obtain ⟨hdriver, hallowed⟩ := h
      simp only [step]
      cases hpath : env.pathFound with
      | true => exact ⟨hpath, hdriver, hallowed⟩
      | false => simp [Inv, BridgeEnv.Restores, SysfsDevice.Clean, hpath, hdriver, hallowed]
  | isBound =>
      obtain ⟨hpath, hdriver, hallowed⟩ := h
      have hsame : d.isBound = init.isBound := by rw [SysfsDevice.isBound, hdriver]; rfl
      simp only [step]
      cases hb : d.isBound with
      | true => exact ⟨hpath, hsame ▸ hb, hb⟩
      | false =>
          have hrel : released init = init := by simp [released, ← hsame, hb]
          simp only [Inv, hrel, Bool.false_eq_true, if_false]
          exact ⟨hpath, hdriver, hallowed⟩
  | release u =>
      obtain ⟨hpath, hinit, hu⟩ := h
      rcases unbindStep_cases hu with ⟨u', d', hstep, hu'⟩ | ⟨d', hstep, hclean⟩
      · simp only [step, hstep]
        exact ⟨hpath, hinit, hu'⟩
      · simp only [step, hstep, Inv, released, hinit, if_true]
        exact ⟨hpath, hclean.1, hclean.2⟩
  | settle n =>
      simp only [step]
      split
      · split <;> exact h
      · exact h
  | readInfo =>
      obtain ⟨hpath, hdriver, hallowed⟩ := h
      simp only [step]
      cases hinfo : env.infoRead with
      | true => exact ⟨hpath, hinfo, hdriver, hallowed⟩
      | false => simp [Inv, BridgeEnv.Restores, SysfsDevice.Clean, hpath, hinfo, hdriver, hallowed]
  | bind b =>
      obtain ⟨hpath, hinfo, hb⟩ := h
      have hnext := bindStep_binding (released_isBound init) hb
      rcases hb' : bindStep env.toExportEnv b d with ⟨b' | (e | _), d'⟩
      · rw [hb'] at hnext
        simp only [step, hb']
        exact ⟨hpath, hinfo, hnext⟩
      · rw [hb'] at hnext
        simp only [step, hb', Inv, BridgeEnv.Restores, hpath, hinfo, hnext.notBinds]
        exact hnext.clean
      · rw [hb'] at hnext
        simp only [step, hb']
        exact ⟨⟨hpath, hinfo, hnext.1⟩, hnext.2⟩
  | readRequest =>
      obtain ⟨hexp, hbound⟩ := h
      simp only [step]
      split
      · rename_i hreq
        refine not_clean_of_bound hexp hbound fun hh => ?_
        obtain ⟨req, hmem, -⟩ := hh.1
        rw [hreq] at hmem
        cases hmem
      · rename_i req hreq
        by_cases hcode : reqCode req = opReqImport
        · simp only [hcode, ne_eq, not_true_eq_false, if_false]
          exact ⟨hexp, hbound, req, hreq, hcode⟩
        · simp only [hcode, ne_eq, not_false_eq_true, if_true]
          refine not_clean_of_bound hexp hbound fun hh => ?_
          obtain ⟨req', hmem, hcode'⟩ := hh.1
          obtain rfl : req = req' := Option.some.inj (hreq.symm.trans hmem)
          exact hcode hcode'
  | sendReply =>
      obtain ⟨hexp, hbound, hreq⟩ := h
      simp only [step]
      cases hsent : env.replySent with
      | true => exact ⟨hexp, hbound, hreq, hsent⟩
      | false =>
          refine not_clean_of_bound hexp hbound fun hh => ?_
          cases hsent.symm.trans hh.2.1
  | flush =>
      obtain ⟨hexp, hbound, hreq, hsent⟩ := h
      simp only [step]
      cases hfl : env.flushed with
      | true => exact ⟨hexp, hbound, hreq, hsent, hfl⟩
      | false =>
          refine not_clean_of_bound hexp hbound fun hh => ?_
          cases hfl.symm.trans hh.2.2.1
  | intoStd =>
      obtain ⟨hexp, hbound, hreq, hsent, hfl⟩ := h
      simp only [step]
      cases hstd : env.intoStd with
      | true => exact ⟨hexp, hbound, hreq, hsent, hfl, hstd⟩
      | false =>
          refine not_clean_of_bound hexp hbound fun hh => ?_
          cases hstd.symm.trans hh.2.2.2.1
  | setBlocking =>
      obtain ⟨hexp, hbound, hreq, hsent, hfl, hstd⟩ := h
      simp only [step]
      cases hblk : env.blocking with
      | true => exact ⟨hexp, hbound, hreq, hsent, hfl, hstd, hblk⟩
      | false =>
          refine not_clean_of_bound hexp hbound fun hh => ?_
          cases hblk.symm.trans hh.2.2.2.2
  | attachSocket =>
      obtain ⟨hexp, hbound, hshake⟩ := h
      simp only [step]
      split
      · exact ⟨hexp, hshake, hbound⟩
      · exact ⟨hexp, hshake, hbound⟩
  | rollback u =>
      obtain ⟨hexp, hshake, hu⟩ := h
      rcases unbindStep_cases hu with ⟨u', d', hstep, hu'⟩ | ⟨d', hstep, hclean⟩
      · simp only [step, hstep]
        exact ⟨hexp, hshake, hu'⟩
      · simp only [step, hstep]
        exact iff_of_true hclean (hexp.restores.mpr hshake)
  | wait =>
      obtain ⟨hexp, hshake, hbound⟩ := h
      simp only [step]
      split
      · exact ⟨hexp, hshake, hbound⟩
      · exact ⟨hexp, hshake, hbound⟩
  | finish u =>
      obtain ⟨hexp, hshake, hu⟩ := h
      rcases unbindStep_cases hu with ⟨u', d', hstep, hu'⟩ | ⟨d', hstep, hclean⟩
      · simp only [step, hstep]
        exact ⟨hexp, hshake, hu'⟩
      · simp only [step, hstep]
        exact iff_of_true hclean (hexp.restores.mpr hshake)
  | done result => exact h

/-! ## Runs -/

/-- What can happen to a task and its device: the next operation, or the
kernel lets go of the socket. -/
inductive Event where
  | operation
  | letGo

/-- A task alone on its device. -/
def alone (env : BridgeEnv) : Pc × SysfsDevice → Event → Option (Pc × SysfsDevice)
  | (.done _, _), .operation => none
  | (pc, d), .operation => some (step env pc d)
  | (pc, d), .letGo => some (pc, d.letGo)

theorem inv_alone {s s' : Pc × SysfsDevice} {e : Event} (h : Inv env init s.1 s.2)
    (hstep : alone env s e = some s') : Inv env init s'.1 s'.2 := by
  obtain ⟨pc, d⟩ := s
  cases e with
  | letGo =>
      have heq : s' = (pc, d.letGo) := by cases pc <;> exact (Option.some.inj hstep).symm
      rw [heq]
      exact inv_letGo h
  | operation =>
      have hnext : ∀ s', some (step env pc d) = some s' → Inv env init s'.1 s'.2 := by
        rintro _ ⟨⟩
        exact inv_step h
      cases pc with
      | done result => cases hstep
      | _ => exact hnext s' hstep

/-- The client sends nothing and disconnects. -/
theorem short_read_leaves_device_bound :
    ∃ d, Run (Guarded (alone { request := none }))
        (.lookup, { driver := .normal, allowed := false, status := 0 })
        (List.replicate 12 .operation) (.done (.error .requestNotRead), d) ∧
      d.isBound = true ∧ d.allowed = true ∧ ¬ d.Clean :=
  ⟨{ driver := .usbipHost, allowed := true, status := 1 }, play_iff_run.mp rfl, rfl, rfl,
    by decide⟩

/-- **When a bridge restores the device.** Whatever the task found, and
whatever the outcomes of its operations and the client's behaviour, the
device is left with a normal driver and off the allow-list if and only if
`Restores` holds. -/
theorem bridge_restores_iff {env : BridgeEnv} {init d : SysfsDevice} {events : List Event}
    {result : Except BridgeError Unit}
    (hrun : Run (Guarded (alone env)) (.lookup, init) events (.done result, d)) :
    d.Clean ↔ env.Restores init := by
  have hinv : Inv env init (.done result) d :=
    hrun.preserves (I := fun s : Pc × SysfsDevice => Inv env init s.1 s.2)
      (fun _ _ _ h hstep => inv_alone h hstep) (inv_start env init)
  exact hinv

/-- The run of a client that imports the device and goes away. -/
def importRun : List Event :=
  List.replicate 18 .operation ++ [.letGo] ++ List.replicate 5 .operation

/-- It leaves the device as it was. -/
theorem bridge_restores_iff_import :
    ∃ d, play (alone { request := some importRequest }) (.lookup, ⟨.normal, false, 0⟩) importRun
      = some (.done (.ok ()), d) ∧ d.Clean := by
  have hplay : play (alone { request := some importRequest }) (.lookup, ⟨.normal, false, 0⟩)
      importRun = some (.done (.ok ()), ⟨.normal, false, 0⟩) := rfl
  exact ⟨_, hplay, (bridge_restores_iff (play_iff_run.mp hplay)).mpr (by decide)⟩

end Bridge

end WolfUsb
