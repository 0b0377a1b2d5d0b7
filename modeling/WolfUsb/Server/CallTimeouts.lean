/-
WolfUsb.Server.CallTimeouts — which USB calls of a message have a timeout.

Only a transfer has one: it is that of its request, as `rusb` passes it on,
and every other call that serving a message leads to has none
(`Connection.handleMessage_timed`). So a message can keep libusb waiting
for ever only if it is a transfer whose timeout arrives as 0
(`Message.Unbounded`).
-/
import WolfUsb.Server.InFlight
import WolfUsb.Server.TransferTheorems

namespace WolfUsb

open Bus Transfer

variable {W : Type} {p : Platform W}

/-- The message is a transfer that libusb is told to wait for without end. -/
def Message.Unbounded (msg : Message) : Prop :=
  ∃ request : TransferRequest, msg = request.message ∧ ¬ request.overCap ∧
    libusbTimeout (safeTimeout request.timeoutMs) = 0

/-! ## Calls without a timeout -/

theorem UsbCall.timeout_of_asks {c : UsbCall} (h : c.asks = true) : c.timeout = none := by
  cases c <;> first | rfl | cases h

/-- No call has a timeout. -/
abbrev Bus.Untimed (p : Platform W) : Bus W → Bus W → Prop := Makes p fun c => c.timeout = none

theorem Bus.Makes.untimed {u u' : Bus W} (h : Asks p u u') : Untimed p u u' :=
  h.mono fun _ => UsbCall.timeout_of_asks

theorem Bus.untimed_of_eq {u u' : Bus W} {c : UsbCall} {r : c.Res} (hc : c.timeout = none)
    (h : p.call c u = (r, u')) : Untimed p u u' :=
  .of_eq hc h

namespace DeviceManager

theorem detachKernelDrivers_untimed (handle : Handle) (interfaces : List Interface) (u : Bus W) :
    Untimed p u (detachKernelDrivers p handle interfaces u).2 := by
  induction interfaces generalizing u with
  | nil => exact .done u
  | cons interface rest ih =>
      unfold detachKernelDrivers
      split
      · rename_i h
        exact (untimed_of_eq rfl h).trans (ih _)
      · rename_i h
        exact (untimed_of_eq rfl h).trans (ih _)

theorem detachActiveDrivers_untimed (device : UsbDevice) (handle : Handle) (u : Bus W) :
    Untimed p u (detachActiveDrivers p device handle u).2 := by
  unfold detachActiveDrivers
  split
  · rename_i h
    exact (untimed_of_eq rfl h).trans (detachKernelDrivers_untimed handle _ _)
  · rename_i h
    exact untimed_of_eq rfl h

theorem attach_untimed (m : DeviceManager) (d : DeviceId) (addr : SocketAddr) (u : Bus W) :
    Untimed p u (m.attach p d addr u).2.2 := by
  have hfind := (findDevice_asks p d u).untimed
  unfold attach
  split
  · exact .done u
  · split
    · rename_i hfound
      rwa [hfound] at hfind
    · rename_i hfound
      rw [hfound] at hfind
      refine hfind.trans ?_
      split
      · rename_i hcall
        exact untimed_of_eq rfl hcall
      · rename_i hcall
        refine (untimed_of_eq rfl hcall).trans ?_
        split
        · rename_i hopen
          exact untimed_of_eq rfl hopen
        · rename_i hopen
          exact (untimed_of_eq rfl hopen).trans (detachActiveDrivers_untimed _ _ _)

theorem releaseInterfaces_untimed (handle : Handle) (claimed : List UInt8) (u : Bus W) :
    Untimed p u (releaseInterfaces p handle claimed u) := by
  induction claimed generalizing u with
  | nil => exact .done u
  | cons i rest ih => exact .call rfl (ih _)

theorem reattachDrivers_untimed (handle : Handle) (detached : List UInt8) (u : Bus W) :
    Untimed p u (reattachDrivers p handle detached u) := by
  induction detached generalizing u with
  | nil => exact .done u
  | cons i rest ih => exact .call rfl (ih _)

theorem detach_untimed (m : DeviceManager) (d : DeviceId) (s : UInt64) (u : Bus W) :
    Untimed p u (m.detach p d s u).2.2 := by
  unfold detach
  split
  · exact .done u
  · exact (releaseInterfaces_untimed _ _ u).trans (reattachDrivers_untimed _ _ _)

/-- An operation on a handle makes its own call. -/
theorem OnHandle.untimed {m : DeviceManager} {d : DeviceId} {u : Bus W}
    {run : Handle → Bus W → Except RusbError Unit × Bus W}
    {after : AttachmentInfo → DeviceManager}
    {r : Except WolfUsbError Unit × DeviceManager × Bus W} (h : OnHandle m d u run after r)
    (hrun : ∀ handle u, Untimed p u (run handle u).2) : Untimed p u r.2.2 := by
  cases h with
  | absent hd => exact .done u
  | @failed info e u' hd hcall =>
      have hmakes := hrun info.handle u
      rwa [hcall] at hmakes
  | @done info u' hd hcall =>
      have hmakes := hrun info.handle u
      rwa [hcall] at hmakes

end DeviceManager

/-! ## The call of a transfer -/

/-- A timeout is that of the transfer, which is not refused. -/
def TransferRequest.Times (request : TransferRequest) (c : UsbCall) : Prop :=
  ∀ t, c.timeout = some t →
    ¬ request.overCap ∧ t = libusbTimeout (safeTimeout request.timeoutMs)

theorem TransferRequest.times_of_untimed (request : TransferRequest) {c : UsbCall}
    (h : c.timeout = none) : request.Times c := by
  intro t ht
  cases h.symm.trans ht

theorem TransferRequest.execute_timed (request : TransferRequest) (handle : Handle) (u : Bus W) :
    Makes p request.Times u (request.execute p handle u).2 := by
  cases request with
  | control req =>
      simp only [TransferRequest.execute, executeControlTransfer]
      split
      · exact .one fun t ht => ⟨id, (Option.some.inj ht).symm⟩
      · exact .one fun t ht => ⟨id, (Option.some.inj ht).symm⟩
  | bulk req =>
      simp only [TransferRequest.execute, executeBulkTransfer]
      split
      · split
        · exact .done u
        · rename_i len hlen
          refine .one fun t ht => ⟨fun hover => ?_, (Option.some.inj ht).symm⟩
          rw [cappedLength, if_pos hover.2] at hlen
          cases hlen
      · rename_i hout
        exact .one fun t ht => ⟨fun hover => hout hover.1, (Option.some.inj ht).symm⟩
  | interrupt req =>
      simp only [TransferRequest.execute, executeInterruptTransfer]
      split
      · split
        · exact .done u
        · rename_i len hlen
          refine .one fun t ht => ⟨fun hover => ?_, (Option.some.inj ht).symm⟩
          rw [cappedLength, if_pos hover.2] at hlen
          cases hlen
      · rename_i hout
        exact .one fun t ht => ⟨fun hover => hout hover.1, (Option.some.inj ht).symm⟩

theorem TransferRequest.run_timed (request : TransferRequest) (m : DeviceManager) (u : Bus W) :
    Makes p request.Times u (request.run p m u).2 := by
  have hhandle := ((m.getHandle_asks p request.deviceId u).untimed).mono
    fun _ => request.times_of_untimed
  unfold run
  split
  · rename_i h
    rwa [h] at hhandle
  · rename_i h
    rw [h] at hhandle
    exact hhandle.trans (request.execute_timed _ _)

/-! ## Messages -/

/-- A timeout is that of the transfer the operation is. -/
def ManagerOp.Times (op : Option ManagerOp) (c : UsbCall) : Prop :=
  ∀ t, c.timeout = some t → ∃ request : TransferRequest, op = some (.transfer request) ∧
    ¬ request.overCap ∧ t = libusbTimeout (safeTimeout request.timeoutMs)

theorem ManagerOp.times_of_untimed (op : Option ManagerOp) {c : UsbCall} (h : c.timeout = none) :
    Times op c := by
  intro t ht
  cases h.symm.trans ht

/-- The operations a message stands for; the end of a connection detaches
its sessions in another. -/
theorem ManagerOp.perform_timed {op : ManagerOp} (hop : ∀ keys, op ≠ .detachAllForSessions keys)
    (sh : Shared W) : Makes p (Times (some op)) sh.bus (op.perform p sh).2.bus := by
  have huntimed {u : Bus W} (h : Untimed p sh.bus u) : Makes p (Times (some op)) sh.bus u :=
    h.mono fun _ => times_of_untimed (some op)
  cases op with
  | listDevices => exact huntimed (DeviceManager.listDevices_asks p sh.bus).untimed
  | getDescriptors d => exact huntimed (DeviceManager.getDescriptors_asks p d sh.bus).untimed
  | attach d addr => exact huntimed (sh.manager.attach_untimed d addr sh.bus)
  | detach d s => exact huntimed (sh.manager.detach_untimed d s sh.bus)
  | detachAllForSessions keys => exact absurd rfl (hop keys)
  | claimInterface d i =>
      exact huntimed ((DeviceManager.claimInterface_onHandle p sh.manager d i sh.bus).untimed
        fun _ _ => .one rfl)
  | releaseInterface d i =>
      exact huntimed ((DeviceManager.releaseInterface_onHandle p sh.manager d i sh.bus).untimed
        fun _ _ => .one rfl)
  | setConfiguration d i =>
      exact huntimed ((DeviceManager.setConfiguration_onHandle p sh.manager d i sh.bus).untimed
        fun _ _ => .one rfl)
  | transfer request =>
      exact (request.run_timed sh.manager sh.bus).mono fun c hc t ht => ⟨request, rfl, hc t ht⟩

theorem Message.operation_ne_detachAll (msg : Message) (peer : SocketAddr) (keys : List UInt64) :
    msg.operation peer ≠ some (.detachAllForSessions keys) := by
  cases msg <;> simp [Message.operation]

theorem Message.eq_transfer {msg : Message} {peer : SocketAddr} {request : TransferRequest}
    (h : msg.operation peer = some (.transfer request)) : msg = request.message := by
  cases msg <;> simp only [Message.operation, reduceCtorEq, Option.some.injEq,
    ManagerOp.transfer.injEq] at h <;> subst h <;> rfl

theorem Shared.Does.timed {op : Option ManagerOp} {sh sh' : Shared W} (h : sh.Does p op sh')
    (hop : ∀ keys, op ≠ some (.detachAllForSessions keys)) :
    Makes p (ManagerOp.Times op) sh.bus sh'.bus := by
  cases h with
  | idle => exact .done sh.bus
  | @handle request ho =>
      exact (sh.manager.getHandle_asks p request.deviceId sh.bus).untimed.mono
        fun _ => ManagerOp.times_of_untimed op
  | lookup d ho =>
      exact (Connection.lookupBridgeBusid_asks p d sh.bus).untimed.mono
        fun _ => ManagerOp.times_of_untimed op
  | performed ho =>
      subst ho
      exact ManagerOp.perform_timed (fun keys hkeys => hop keys (hkeys ▸ rfl)) sh

/-- **The only timeout is that of the transfer.** Of the calls that serving
a message leads to, in whatever state, only that of a transfer has a
timeout, and it has the one of its request. -/
theorem Connection.handleMessage_timed (join : Option String) (conn : Connection) (msg : Message)
    (sh : Shared W) :
    ∃ new, (conn.handleMessage p join msg sh).2.2.bus.calls = sh.bus.calls ++ new ∧
      ∀ c ∈ new, ∀ t, c.timeout = some t → ∃ request : TransferRequest,
        msg = request.message ∧ ¬ request.overCap ∧
          t = libusbTimeout (safeTimeout request.timeoutMs) := by
  have hdoes := Connection.handleMessage_does p join conn msg sh
  obtain ⟨new, hcalls, hnew⟩ := (hdoes.timed (msg.operation_ne_detachAll conn.peerAddr)).calls
  refine ⟨new, hcalls, fun c hc t ht => ?_⟩
  obtain ⟨request, hrequest, hover, hequal⟩ := hnew c hc t ht
  exact ⟨request, Message.eq_transfer hrequest, hover, hequal⟩

/-- A message that is not such a transfer leads to no call that may wait
for ever. -/
theorem Connection.calls_of_bounded {join : Option String} {conn : Connection} {msg : Message}
    {sh : Shared W} (hmsg : ¬ msg.Unbounded) {c : UsbCall}
    (hc : c ∈ (conn.handleMessage p join msg sh).2.2.bus.calls.drop sh.bus.calls.length) :
    c.timeout ≠ some 0 := by
  obtain ⟨new, hcalls, hnew⟩ := conn.handleMessage_timed (p := p) join msg sh
  rw [hcalls, List.drop_left] at hc
  intro hzero
  obtain ⟨request, rfl, hover, hequal⟩ := hnew c hc 0 hzero
  exact hmsg ⟨request, rfl, hover, hequal.symm⟩

end WolfUsb
