/-
WolfUsb.Server.OperationTheorems — a manager operation that fails has
done nothing: the maps are as they were and no kernel driver has been
detached.
-/
import WolfUsb.Server.CallTheorems
import WolfUsb.Server.DeviceManagerTheorems
import WolfUsb.Server.Operations

namespace WolfUsb

open Bus

variable {W : Type} (p : Platform W)

/-! ## The calls of an operation -/

theorem TransferRequest.execute_spares (request : TransferRequest) (handle : Handle)
    (u : Bus W) : Spares p u (request.execute p handle u).2 := by
  cases request with
  | control req => exact Transfer.executeControlTransfer_spares p handle req u
  | bulk req => exact Transfer.executeBulkTransfer_spares p handle req u
  | interrupt req => exact Transfer.executeInterruptTransfer_spares p handle req u

theorem TransferRequest.run_spares (request : TransferRequest) (m : DeviceManager) (u : Bus W) :
    Spares p u (request.run p m u).2 := by
  have hhandle := (DeviceManager.getHandle_asks p m request.deviceId u).spares
  unfold TransferRequest.run
  split
  · rename_i h
    rwa [h] at hhandle
  · rename_i handle u₁ h
    rw [h] at hhandle
    exact hhandle.trans (request.execute_spares p handle u₁)

namespace DeviceManager

variable {p} {m m' : DeviceManager} {d : DeviceId} {u u' : Bus W} {e : WolfUsbError}

theorem detach_error_same {s : UInt64} (h : m.detach p d s u = (.error e, m', u')) :
    m' = m ∧ u' = u := by
  unfold detach at h
  split at h
  · cases h
    exact ⟨rfl, rfl⟩
  · cases h

/-- An operation on a handle that fails has at most made its own call. -/
theorem OnHandle.error_same {run : Handle → Bus W → Except RusbError Unit × Bus W}
    {after : AttachmentInfo → DeviceManager} {P : UsbCall → Prop}
    {r : Except WolfUsbError Unit × DeviceManager × Bus W} (h : OnHandle m d u run after r)
    (hrun : ∀ handle u, Makes p P u (run handle u).2) (he : r.1 = .error e) :
    r.2.1 = m ∧ Makes p P u r.2.2 := by
  cases h with
  | absent hd => exact ⟨rfl, .done u⟩
  | @failed info e' u' hd hcall =>
    have hmakes := hrun info.handle u
    rw [hcall] at hmakes
    exact ⟨rfl, hmakes⟩
  | done hd hcall => cases he

end DeviceManager

/-! ## Failure -/

/-- Between the two states no kernel driver has been detached. -/
abbrev Bus.KeepsDrivers (p : Platform W) : Bus W → Bus W → Prop :=
  Makes p fun c => c.detachesDriver = false

theorem Bus.Makes.keepsDrivers {u u' : Bus W} (h : Spares p u u') : KeepsDrivers p u u' := by
  refine h.mono ?_
  intro c hc
  cases c with
  | detachKernelDriver handle i => cases hc
  | _ => rfl

/-- What an operation that fails leaves behind. -/
theorem ManagerOp.perform_error {op : ManagerOp} {sh : Shared W} {e : WolfUsbError}
    (h : (op.perform p sh).1 = .error e) :
    (op.perform p sh).2.manager = sh.manager ∧
      KeepsDrivers p sh.bus (op.perform p sh).2.bus := by
  cases op with
  | listDevices => exact ⟨rfl, (DeviceManager.listDevices_asks p sh.bus).spares.keepsDrivers p⟩
  | getDescriptors d =>
    exact ⟨rfl, (DeviceManager.getDescriptors_asks p d sh.bus).spares.keepsDrivers p⟩
  | transfer request => exact ⟨rfl, (request.run_spares p sh.manager sh.bus).keepsDrivers p⟩
  | detachAllForSessions keys => cases h
  | attach d addr =>
    obtain ⟨r, m', u', hop⟩ : ∃ r m' u', sh.manager.attach p d addr sh.bus = (r, m', u') :=
      ⟨_, _, _, rfl⟩
    simp only [perform, hop] at h ⊢
    cases r with
    | ok s => cases h
    | error e' =>
      obtain ⟨rfl, hasks⟩ := DeviceManager.attach_error_asks p hop
      exact ⟨rfl, hasks.spares.keepsDrivers p⟩
  | detach d s =>
    obtain ⟨r, m', u', hop⟩ : ∃ r m' u', sh.manager.detach p d s sh.bus = (r, m', u') :=
      ⟨_, _, _, rfl⟩
    simp only [perform, hop] at h ⊢
    obtain rfl := h
    obtain ⟨rfl, rfl⟩ := DeviceManager.detach_error_same hop
    exact ⟨rfl, .done _⟩
  | claimInterface d i =>
    exact (DeviceManager.claimInterface_onHandle p sh.manager d i sh.bus).error_same
      (fun _ _ => .one rfl) h
  | releaseInterface d i =>
    exact (DeviceManager.releaseInterface_onHandle p sh.manager d i sh.bus).error_same
      (fun _ _ => .one rfl) h
  | setConfiguration d i =>
    exact (DeviceManager.setConfiguration_onHandle p sh.manager d i sh.bus).error_same
      (fun _ _ => .one rfl) h

/-- **A failed operation changes nothing.** In every state of the manager
and for every outcome of the USB calls, an operation that returns an error
leaves the attachments, the sessions and the session counter as they were,
and among the calls it has made none detaches a kernel driver. -/
theorem manager_operations_atomic (op : ManagerOp) (sh : Shared W) {e : WolfUsbError}
    (h : (op.perform p sh).1 = .error e) :
    (op.perform p sh).2.manager.attachments = sh.manager.attachments ∧
      (op.perform p sh).2.manager.sessionToDevice = sh.manager.sessionToDevice ∧
      (op.perform p sh).2.manager.nextSessionId = sh.manager.nextSessionId ∧
      ∃ new, (op.perform p sh).2.bus.calls = sh.bus.calls ++ new ∧
        ∀ handle i, .detachKernelDriver handle i ∉ new := by
  obtain ⟨hmanager, hkeeps⟩ := op.perform_error p h
  obtain ⟨new, hcalls, hnew⟩ := hkeeps.calls
  rw [hmanager]
  refine ⟨rfl, rfl, rfl, new, hcalls, ?_⟩
  intro handle i hmem
  cases hnew _ hmem

/-- A host on which no device can be opened. -/
def lockedHost : Platform Nat :=
  { twoDeviceHost with
    usb
      | .openDevice _, w => (.error .access, w)
      | call, w => twoDeviceHost.usb call w }

/-- An Attach that has found the device and cannot open it. -/
theorem manager_operations_atomic_no_access :
    ((ManagerOp.attach ⟨1, 2⟩ ⟨"10.0.0.1", 4000⟩).perform lockedHost (.fresh 0)).2.manager.attachments
        = (Shared.fresh 0).manager.attachments ∧
      ((ManagerOp.attach ⟨1, 2⟩ ⟨"10.0.0.1", 4000⟩).perform lockedHost
        (.fresh 0)).2.manager.sessionToDevice = (Shared.fresh 0).manager.sessionToDevice ∧
      ((ManagerOp.attach ⟨1, 2⟩ ⟨"10.0.0.1", 4000⟩).perform lockedHost
        (.fresh 0)).2.manager.nextSessionId = (Shared.fresh 0).manager.nextSessionId ∧
      ∃ new, ((ManagerOp.attach ⟨1, 2⟩ ⟨"10.0.0.1", 4000⟩).perform lockedHost (.fresh 0)).2.bus.calls
          = (Shared.fresh 0).bus.calls ++ new ∧
        ∀ handle i, .detachKernelDriver handle i ∉ new :=
  manager_operations_atomic lockedHost (.attach ⟨1, 2⟩ ⟨"10.0.0.1", 4000⟩) (.fresh 0)
    (e := .usbError .access) rfl

end WolfUsb
