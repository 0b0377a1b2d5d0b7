/-
WolfUsb.Server.Confinement — a request for one device touches no other.

`Bus.Confined` says of a stretch of calls that each of them, when it was
made, was about the device `d`: it asked for the device list, or looked at
or opened a device at the address of `d`, or used a handle open on `d`. A
handle stays open on its device, so this is still so when the request has
been served (`Confined.calls`).

That an attachment's handle is open on the attachment's device holds in
every reachable state (`Server.linked_along`); the rest is one lemma for
each function of the manager, in the order of its calls.
`requests_confined` is the result.
-/
import WolfUsb.Server.ManagerRuns

namespace WolfUsb

open WolfUsb.Lib

variable {W : Type} {p : Platform W} {view : W → Interfaces} {d : DeviceId}

/-! ## Calls about a device -/

/-- The call asks for the device list, or is about the device `d`. -/
def UsbCall.About (s : Interfaces) (d : DeviceId) : UsbCall → Prop
  | .devices | .globalDevices => True
  | .deviceDescriptor device | .openDevice device | .activeConfigDescriptor device
  | .configDescriptor device _ => (⟨device.busNumber, device.address⟩ : DeviceId) = d
  | .readStringDescriptorAscii h _ | .detachKernelDriver h _ | .attachKernelDriver h _
  | .claimInterface h _ | .releaseInterface h _ | .setActiveConfiguration h _
  | .readControl h _ _ _ _ _ _ | .writeControl h _ _ _ _ _ _
  | .readBulk h _ _ _ | .writeBulk h _ _ _ | .readInterrupt h _ _ _ | .writeInterrupt h _ _ _ =>
      s.device h = some d

/-- A handle stays open on its device, whatever is called. -/
theorem Interfaces.Keeps.device_call (hp : Interfaces.Keeps p view) (c : UsbCall) (w : W)
    {h : Handle} {x : DeviceId} (hopen : (view w).device h = some x) :
    (view (p.usb c w).2).device h = some x := by
  have hans := hp c w
  cases hc : c.manages with
  | false => exact (hp.grows_call hc w).device h x hopen
  | true =>
      cases c with
      | detachKernelDriver handle i =>
          cases hr : (p.usb (.detachKernelDriver handle i) w).1 with
          | ok _ =>
              rw [hr] at hans
              obtain ⟨y, -, -, hview⟩ := hans
              rw [hview]
              exact hopen
          | error e =>
              rw [hr] at hans
              have hview : view (p.usb (.detachKernelDriver handle i) w).2 = view w := hans
              rw [hview]
              exact hopen
      | attachKernelDriver handle i =>
          cases hr : (p.usb (.attachKernelDriver handle i) w).1 with
          | ok _ =>
              rw [hr] at hans
              obtain ⟨y, -, -, -, hview⟩ := hans
              rw [hview]
              exact hopen
          | error e =>
              rw [hr] at hans
              rw [hans.2]
              exact hopen
      | claimInterface handle i =>
          cases hr : (p.usb (.claimInterface handle i) w).1 with
          | ok _ =>
              rw [hr] at hans
              rw [hans.2]
              exact hopen
          | error e =>
              rw [hr] at hans
              rw [hans.2]
              exact hopen
      | releaseInterface handle i =>
          cases hr : (p.usb (.releaseInterface handle i) w).1 with
          | ok _ =>
              rw [hr] at hans
              rw [hans.2]
              exact hopen
          | error e =>
              rw [hr] at hans
              rw [hans.2]
              exact hopen
      | setActiveConfiguration handle i =>
          have hdevice : (view (p.usb (.setActiveConfiguration handle i) w).2).device
              = (view w).device := by
            cases hr : (p.usb (.setActiveConfiguration handle i) w).1 with
            | ok _ =>
                rw [hr] at hans
                exact hans.1
            | error e =>
                rw [hr] at hans
                exact hans.1
          rw [hdevice]
          exact hopen
      | _ => cases hc

/-- Some calls about `d`, one after the other. -/
inductive Bus.Confined (p : Platform W) (view : W → Interfaces) (d : DeviceId) :
    Bus W → Bus W → Prop
  | done (u : Bus W) : Confined p view d u u
  | call {u u' : Bus W} {c : UsbCall} (hc : c.About (view u.world) d)
      (rest : Confined p view d (p.call c u).2 u') : Confined p view d u u'

namespace Bus.Confined

variable {u u' u'' : Bus W}

theorem trans (h : Confined p view d u u') (h' : Confined p view d u' u'') :
    Confined p view d u u'' := by
  induction h with
  | done u => exact h'
  | call hc _ ih => exact .call hc (ih h')

theorem one {c : UsbCall} (hc : c.About (view u.world) d) : Confined p view d u (p.call c u).2 :=
  .call hc (.done _)

/-- A call whose answer is looked at. -/
theorem of_eq {c : UsbCall} {r : c.Res} (h : p.call c u = (r, u'))
    (hc : c.About (view u.world) d) : Confined p view d u u' := by
  have hu : u' = (p.call c u).2 := by rw [h]
  rw [hu]
  exact one hc

theorem device (hp : Interfaces.Keeps p view) (h : Confined p view d u u') {handle : Handle}
    {x : DeviceId} (hopen : (view u.world).device handle = some x) :
    (view u'.world).device handle = some x := by
  induction h with
  | done u => exact hopen
  | call hc _ ih => exact ih (hp.device_call _ _ hopen)

theorem about (hp : Interfaces.Keeps p view) (h : Confined p view d u u') {c : UsbCall}
    (hc : c.About (view u.world) d) : c.About (view u'.world) d := by
  cases c with
  | devices => trivial
  | globalDevices => trivial
  | deviceDescriptor device => exact hc
  | openDevice device => exact hc
  | activeConfigDescriptor device => exact hc
  | configDescriptor device index => exact hc
  | _ => exact h.device hp hc

/-- The calls are recorded, and are about `d` also in the end. -/
theorem calls (hp : Interfaces.Keeps p view) (h : Confined p view d u u') :
    ∃ new, u'.calls = u.calls ++ new ∧ ∀ c ∈ new, c.About (view u'.world) d := by
  induction h with
  | done u => exact ⟨[], by simp, by simp⟩
  | @call u u' c hc rest ih =>
      obtain ⟨new, hcalls, hnew⟩ := ih
      refine ⟨c :: new, by simp [hcalls], ?_⟩
      intro c' hc'
      rcases List.mem_cons.mp hc' with rfl | hmem
      · exact (one hc |>.trans rest).about hp hc
      · exact hnew c' hmem

end Bus.Confined

open Bus

/-! ## Descriptors -/

namespace DeviceManager

variable {u u' : Bus W}

/-- The handle, if there is one, is open on `d`. -/
def OpenOn (view : W → Interfaces) (d : DeviceId) (u : Bus W) (handle : Option Handle) : Prop :=
  ∀ h ∈ handle, (view u.world).device h = some d

theorem OpenOn.after (hp : Interfaces.Keeps p view) {handle : Option Handle}
    (h : OpenOn view d u handle) (hcalls : Confined p view d u u') : OpenOn view d u' handle :=
  fun x hx => hcalls.device hp (h x hx)

theorem findDevice_confined (d : DeviceId) (u : Bus W) :
    Confined p view d u (findDevice p d u).2 := by
  unfold findDevice
  split
  · rename_i h
    exact .of_eq h trivial
  · rename_i h
    split <;> exact .of_eq h trivial

theorem readStringDescOpt_confined {handle : Option Handle} (index : Option UInt8)
    (h : OpenOn view d u handle) : Confined p view d u (readStringDescOpt p handle index u).2 := by
  cases handle with
  | none => exact .done u
  | some x =>
      have hx : (view u.world).device x = some d := h x rfl
      simp only [readStringDescOpt]
      unfold readStringDesc
      split
      · exact .done u
      · split
        · exact .done u
        · split
          · rename_i hcall
            exact .of_eq hcall hx
          · rename_i hcall
            exact .of_eq hcall hx

theorem openOk_confined (hp : Interfaces.Keeps p view) {device : UsbDevice} (u : Bus W)
    (hid : (⟨device.busNumber, device.address⟩ : DeviceId) = d) :
    Confined p view d u (openOk p device u).2 ∧
      OpenOn view d (openOk p device u).2 (openOk p device u).1 := by
  unfold openOk
  split
  · rename_i h u₁ hcall
    refine ⟨.of_eq hcall hid, ?_⟩
    rintro x hx
    obtain rfl := Option.some.inj hx
    obtain ⟨-, hview⟩ := hp.answers hcall
    rw [hview, hid]
    simp [Interfaces.opened]
  · rename_i hcall
    refine ⟨.of_eq hcall hid, ?_⟩
    intro x hx
    cases hx

theorem deviceInfo_confined (hp : Interfaces.Keeps p view) (device : UsbDevice)
    (desc : DeviceDescriptor) {handle : Option Handle} (deviceId : DeviceId)
    (h : OpenOn view d u handle) :
    Confined p view d u (deviceInfo p device desc handle deviceId u).2 := by
  have h₁ := readStringDescOpt_confined (p := p) desc.manufacturerStringIndex h
  have hopen₁ := h.after hp h₁
  have h₂ := readStringDescOpt_confined (p := p) desc.productStringIndex hopen₁
  have hopen₂ := hopen₁.after hp h₂
  have h₃ := readStringDescOpt_confined (p := p) desc.serialNumberStringIndex hopen₂
  exact (h₁.trans h₂).trans h₃

theorem interfaceInfos_confined (hp : Interfaces.Keeps p view) {handle : Option Handle}
    (settings : List InterfaceDescriptor) (h : OpenOn view d u handle) :
    Confined p view d u (interfaceInfos p handle settings u).2 := by
  induction settings generalizing u with
  | nil => exact .done u
  | cons setting rest ih =>
      have hread := readStringDescOpt_confined (p := p) setting.descriptionStringIndex h
      exact hread.trans (ih (h.after hp hread))

theorem configurationInfos_confined (hp : Interfaces.Keeps p view) {device : UsbDevice}
    (hid : (⟨device.busNumber, device.address⟩ : DeviceId) = d) {handle : Option Handle}
    (indexes : List Nat) (h : OpenOn view d u handle) :
    Confined p view d u (configurationInfos p device handle indexes u).2 := by
  induction indexes generalizing u with
  | nil => exact .done u
  | cons index rest ih =>
      unfold configurationInfos
      split
      · rename_i hcall
        have hasked : Confined p view d u _ := .of_eq hcall hid
        exact hasked.trans (ih (h.after hp hasked))
      · rename_i config u₁ hcall
        have hasked : Confined p view d u _ := .of_eq hcall hid
        have hopen := h.after hp hasked
        have hread := readStringDescOpt_confined (p := p) config.descriptionStringIndex hopen
        have hopen₂ := hopen.after hp hread
        have hinfos := interfaceInfos_confined hp (config.interfaces.flatMap Interface.descriptors)
          hopen₂
        exact hasked.trans (hread.trans (hinfos.trans (ih (hopen₂.after hp hinfos))))

theorem getDescriptors_confined (hp : Interfaces.Keeps p view) (d : DeviceId) (u : Bus W) :
    Confined p view d u (getDescriptors p d u).2 := by
  have hfind : Confined p view d u _ := findDevice_confined d u
  unfold getDescriptors
  split
  · rename_i h
    rwa [h] at hfind
  · rename_i device u₁ h
    rw [h] at hfind
    have hid := findDevice_ok h
    refine hfind.trans ?_
    split
    · rename_i hcall
      exact .of_eq hcall hid
    · rename_i desc u₂ hcall
      obtain ⟨hopening, hopen⟩ := openOk_confined hp u₂ hid
      have hinfo := deviceInfo_confined hp device desc d hopen
      have hconfigs := configurationInfos_confined hp hid
        (List.range desc.numConfigurations.toNat) (hopen.after hp hinfo)
      exact (Confined.of_eq hcall hid).trans (hopening.trans (hinfo.trans hconfigs))

/-! ## Attach and detach -/

theorem detachKernelDrivers_confined (hp : Interfaces.Keeps p view) {h : Handle}
    (interfaces : List Interface) (hopen : (view u.world).device h = some d) :
    Confined p view d u (detachKernelDrivers p h interfaces u).2 := by
  induction interfaces generalizing u with
  | nil => exact .done u
  | cons iface rest ih =>
      unfold detachKernelDrivers
      split
      · rename_i hcall
        have hcalled : Confined p view d u _ := .of_eq hcall hopen
        exact hcalled.trans (ih (hcalled.device hp hopen))
      · rename_i hcall
        have hcalled : Confined p view d u _ := .of_eq hcall hopen
        exact hcalled.trans (ih (hcalled.device hp hopen))

theorem detachActiveDrivers_confined (hp : Interfaces.Keeps p view) {device : UsbDevice}
    {h : Handle} (hid : (⟨device.busNumber, device.address⟩ : DeviceId) = d)
    (hopen : (view u.world).device h = some d) :
    Confined p view d u (detachActiveDrivers p device h u).2 := by
  unfold detachActiveDrivers
  split
  · rename_i config u₁ hcall
    have hasked : Confined p view d u _ := .of_eq hcall hid
    exact hasked.trans (detachKernelDrivers_confined hp config.interfaces (hasked.device hp hopen))
  · rename_i hcall
    exact .of_eq hcall hid

theorem attach_confined (hp : Interfaces.Keeps p view) (m : DeviceManager) (d : DeviceId)
    (addr : SocketAddr) (u : Bus W) : Confined p view d u (m.attach p d addr u).2.2 := by
  have hfind : Confined p view d u _ := findDevice_confined d u
  unfold attach
  split
  · exact .done u
  · split
    · rename_i h
      rwa [h] at hfind
    · rename_i device u₁ h
      rw [h] at hfind
      have hid := findDevice_ok h
      refine hfind.trans ?_
      split
      · rename_i hcall
        exact .of_eq hcall hid
      · rename_i hcall
        refine (Confined.of_eq hcall hid).trans ?_
        split
        · rename_i hopening
          exact .of_eq hopening hid
        · rename_i handle u₃ hopening
          obtain ⟨-, hview⟩ := hp.answers hopening
          have hopen : (view u₃.world).device handle = some d := by
            rw [hview, hid]
            simp [Interfaces.opened]
          exact (Confined.of_eq hopening hid).trans (detachActiveDrivers_confined hp hid hopen)

theorem releaseInterfaces_confined (hp : Interfaces.Keeps p view) {h : Handle}
    (listed : List UInt8) (hopen : (view u.world).device h = some d) :
    Confined p view d u (releaseInterfaces p h listed u) := by
  induction listed generalizing u with
  | nil => exact .done u
  | cons i rest ih =>
      have hcalled : Confined p view d u (p.call (.releaseInterface h i) u).2 := .one hopen
      exact hcalled.trans (ih (hcalled.device hp hopen))

theorem reattachDrivers_confined (hp : Interfaces.Keeps p view) {h : Handle}
    (listed : List UInt8) (hopen : (view u.world).device h = some d) :
    Confined p view d u (reattachDrivers p h listed u) := by
  induction listed generalizing u with
  | nil => exact .done u
  | cons i rest ih =>
      have hcalled : Confined p view d u (p.call (.attachKernelDriver h i) u).2 := .one hopen
      exact hcalled.trans (ih (hcalled.device hp hopen))

theorem detach_confined (hp : Interfaces.Keeps p view) {m : DeviceManager} (d : DeviceId)
    (s : UInt64) (hl : (m.custody view u).Linked) :
    Confined p view d u (m.detach p d s u).2.2 := by
  unfold detach
  split
  · exact .done u
  · rename_i info hinfo
    have hopen := hl d info hinfo
    have hreleased := releaseInterfaces_confined hp info.claimedInterfaces hopen
    exact hreleased.trans
      (reattachDrivers_confined hp info.detachedKernelDrivers (hreleased.device hp hopen))

/-! ## Handles -/

/-- One call on the handle of the attachment. -/
theorem OnHandle.confined {run : Handle → Bus W → Except RusbError Unit × Bus W}
    {after : AttachmentInfo → DeviceManager} {m : DeviceManager}
    {r : Except WolfUsbError Unit × DeviceManager × Bus W} (h : OnHandle m d u run after r)
    (hl : (m.custody view u).Linked)
    (hrun : ∀ handle, (view u.world).device handle = some d →
      Confined p view d u (run handle u).2) : Confined p view d u r.2.2 := by
  cases h with
  | absent hd => exact .done u
  | @failed info e u' hd hcall =>
      have hcalled := hrun info.handle (hl d info hd)
      rwa [hcall] at hcalled
  | @done info u' hd hcall =>
      have hcalled := hrun info.handle (hl d info hd)
      rwa [hcall] at hcalled

theorem getHandle_confined (m : DeviceManager) (d : DeviceId) (u : Bus W) :
    Confined p view d u (m.getHandle p d u).2 := by
  unfold getHandle
  split
  · exact .done u
  · rename_i info hinfo
    have hchanged : Confined p view d u (identityChanged p d info u).2 := by
      have hfind : Confined p view d u _ := findDevice_confined d u
      unfold identityChanged
      split
      · rename_i h
        rwa [h] at hfind
      · rename_i device u₁ h
        rw [h] at hfind
        have hid := findDevice_ok h
        refine hfind.trans ?_
        split
        · rename_i hcall
          exact .of_eq hcall hid
        · rename_i hcall
          exact .of_eq hcall hid
    split
    · rename_i h
      rwa [h] at hchanged
    · rename_i h
      rwa [h] at hchanged

end DeviceManager

theorem TransferRequest.execute_confined (request : TransferRequest) {handle : Handle} {u : Bus W}
    (hopen : (view u.world).device handle = some d) :
    Confined p view d u (request.execute p handle u).2 := by
  cases request with
  | control req =>
      simp only [TransferRequest.execute, Transfer.executeControlTransfer]
      split <;> exact .one hopen
  | bulk req =>
      simp only [TransferRequest.execute, Transfer.executeBulkTransfer]
      split
      · split
        · exact .done u
        · exact .one hopen
      · exact .one hopen
  | interrupt req =>
      simp only [TransferRequest.execute, Transfer.executeInterruptTransfer]
      split
      · split
        · exact .done u
        · exact .one hopen
      · exact .one hopen

/-- The handle of a transfer is that of the attachment, so it is open on
the device. -/
theorem TransferRequest.run_confined (hp : Interfaces.Keeps p view) (request : TransferRequest)
    {m : DeviceManager} {u : Bus W} (hl : (m.custody view u).Linked) :
    Confined p view request.deviceId u (request.run p m u).2 := by
  have hlooked : Confined p view _ u _ := m.getHandle_confined request.deviceId u
  unfold run
  split
  · rename_i h
    rwa [h] at hlooked
  · rename_i handle u₁ h
    obtain ⟨info, hinfo, rfl⟩ := DeviceManager.getHandle_ok p (by rw [h])
    rw [h] at hlooked
    exact hlooked.trans (request.execute_confined (hlooked.device hp (hl _ info hinfo)))

/-! ## Operations and messages -/

/-- The device an operation is for. -/
def ManagerOp.device : ManagerOp → Option DeviceId
  | listDevices | detachAllForSessions _ => none
  | getDescriptors d | attach d _ | detach d _ | claimInterface d _ | releaseInterface d _
  | setConfiguration d _ => some d
  | transfer request => some request.deviceId

/-- The device a message names. -/
def Message.device : Message → Option DeviceId
  | .getDescriptors req => some req.deviceId
  | .attach req => some req.deviceId
  | .detach req => some req.deviceId
  | .controlTransfer req => some req.deviceId
  | .bulkTransfer req => some req.deviceId
  | .interruptTransfer req => some req.deviceId
  | .claimInterface req => some req.deviceId
  | .releaseInterface req => some req.deviceId
  | .setConfiguration req => some req.deviceId
  | .bridge req => some req.deviceId
  | _ => none

theorem Message.device_operation {msg : Message} {peer : SocketAddr} {o : ManagerOp}
    (hd : msg.device = some d) (ho : msg.operation peer = some o) : o.device = some d := by
  cases msg <;> simp only [Message.operation, reduceCtorEq, Option.some.injEq] at ho <;>
    subst ho <;> exact hd

theorem ManagerOp.perform_confined (hp : Interfaces.Keeps p view) {o : ManagerOp}
    {sh : Shared W} (hd : o.device = some d) (hl : (sh.custody view).Linked) :
    Confined p view d sh.bus (o.perform p sh).2.bus := by
  cases o with
  | listDevices => cases hd
  | detachAllForSessions keys => cases hd
  | getDescriptors x =>
      cases hd
      exact DeviceManager.getDescriptors_confined hp d sh.bus
  | attach x addr =>
      cases hd
      exact DeviceManager.attach_confined hp sh.manager d addr sh.bus
  | detach x s =>
      cases hd
      exact DeviceManager.detach_confined hp d s hl
  | transfer request =>
      cases hd
      exact request.run_confined hp hl
  | claimInterface x i =>
      cases hd
      exact (DeviceManager.claimInterface_onHandle p sh.manager d i sh.bus).confined hl
        fun _ hopen => .one hopen
  | releaseInterface x i =>
      cases hd
      exact (DeviceManager.releaseInterface_onHandle p sh.manager d i sh.bus).confined hl
        fun _ hopen => .one hopen
  | setConfiguration x i =>
      cases hd
      exact (DeviceManager.setConfiguration_onHandle p sh.manager d i sh.bus).confined hl
        fun _ hopen => .one hopen

theorem Connection.lookupBridgeBusid_confined (x : DeviceId) (u : Bus W) :
    Confined p view d u (lookupBridgeBusid p x u).2 := by
  unfold lookupBridgeBusid
  split
  · rename_i h
    exact .of_eq h trivial
  · rename_i h
    exact .of_eq h trivial

theorem Shared.Does.confined {op : Option ManagerOp} {sh sh' : Shared W}
    (hp : Interfaces.Keeps p view) (h : sh.Does p op sh')
    (hop : ∀ o, op = some o → o.device = some d) (hl : (sh.custody view).Linked) :
    Confined p view d sh.bus sh'.bus := by
  cases h with
  | idle => exact .done sh.bus
  | @handle request ho =>
      obtain rfl := Option.some.inj (hop _ ho)
      exact sh.manager.getHandle_confined request.deviceId sh.bus
  | lookup x ho => exact Connection.lookupBridgeBusid_confined x sh.bus
  | performed ho => exact ManagerOp.perform_confined hp (hop _ ho) hl

/-! ## Runs -/

/-- In every state of a run the handles of the attachments are open on
their devices. -/
theorem Server.linked_along (hp : Interfaces.Keeps p view) (sharedKey : Option Bytes) (tls : Bool)
    (world : W) (es : List Event) :
    StatesAlong (Guarded (Server.next p)) (fun sv => (sv.shared.custody view).Linked)
      (.start sharedKey tls world) es := by
  refine statesAlong_of_stepsAlong (C := fun _ _ => True) ?_ (Shared.linked_fresh world)
    (.of_forall fun _ _ => trivial)
  intro sv e sv' hl _ hstep
  exact linked_step hp hstep hl

/-- **A request for a device touches no other.** In every state of every
run of the server, whichever connection sends whatever message: if the
message names the device `d`, each USB call made while it is served asks
for the device list, looks at or opens a device at the address of `d`, or
uses a handle that is open on `d`. -/
theorem requests_confined (hp : Interfaces.Keeps p view) (sharedKey : Option Bytes) (tls : Bool)
    (world : W) (es : List Event) :
    StatesAlong (Guarded (Server.next p))
      (fun sv => ∀ (join : Option String) (conn : Connection) (msg : Message) (d : DeviceId),
        msg.device = some d →
          ∀ call ∈ (conn.handleMessage p join msg sv.shared).2.2.bus.calls,
            call.About (view (conn.handleMessage p join msg sv.shared).2.2.bus.world) d)
      (.start sharedKey tls world) es := by
  refine (Server.linked_along hp sharedKey tls world es).mono ?_
  intro sv hl join conn msg d hd
  have hdoes := conn.handleMessage_does p join msg sv.shared
  have hconfined := hdoes.confined hp (fun o ho => Message.device_operation hd ho) hl
  obtain ⟨new, hcalls, hnew⟩ := hconfined.calls hp
  have hnone : sv.shared.bus.calls = [] := rfl
  rw [hcalls, hnone, List.nil_append]
  exact hnew

/-- Two devices are attached, by two clients. -/
theorem requests_confined_two_clients :
    StatesAlong (Guarded (Server.next hub))
      (fun sv => ∀ (join : Option String) (conn : Connection) (msg : Message) (d : DeviceId),
        msg.device = some d →
          ∀ call ∈ (conn.handleMessage hub join msg sv.shared).2.2.bus.calls,
            call.About (conn.handleMessage hub join msg sv.shared).2.2.bus.world.2 d)
      (.start none false hubStart)
      [.accept ⟨"10.0.0.1", 4000⟩, .accept ⟨"10.0.0.2", 4000⟩, .receive 0 (.attach ⟨⟨1, 2⟩⟩) {},
        .receive 1 (.attach ⟨⟨1, 3⟩⟩) {}] :=
  requests_confined hub_keeps none false hubStart _

end WolfUsb
