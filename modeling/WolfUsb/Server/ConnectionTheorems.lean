/-
WolfUsb.Server.ConnectionTheorems — what serving one message can do to
the connection's table and to the manager's maps.

`handleMessage_effect` is the one case analysis over the message
constructors. Whatever the message and the outcomes, the effect is one of
four: the tables stay (the entry of an attached device may be rewritten),
a device is attached under the next session id, a device is detached
together with a session of this connection, or a session is dropped from
the connection's table alone because the device it was to be detached
from is not attached.
-/
import WolfUsb.Server.DeviceManagerTheorems
import WolfUsb.Server.Connection

namespace WolfUsb.Connection

variable {W : Type} (p : Platform W)

/-- The effects of one message on the connection and the manager, with the
action it is answered by. -/
inductive Effect (join : Option String) (conn : Connection) (m : DeviceManager) :
    Message → Action → Connection → DeviceManager → Prop
  | keep {msg : Message} {action : Action} {conn' : Connection} {m' : DeviceManager}
      (hs : conn'.sessions = conn.sessions) (hm : m.Touches m')
      (hr : ∀ r, action.message = .attachResult r → r.success = false) :
      Effect join conn m msg action conn' m'
  | attach (d : DeviceId) (info : AttachmentInfo) (hd : d ∉ m.attachments) :
      Effect join conn m (.attach ⟨d⟩)
        (.reply (.attachResult ⟨d, true, none, some m.nextSessionId⟩))
        { conn with sessions := conn.sessions.insert m.nextSessionId d } (m.register d info)
  | detach (d : DeviceId) (s : UInt64) (hj : join = none) (hs : s ∈ conn.sessions)
      (hd : d ∈ m.attachments) :
      Effect join conn m (.detach ⟨d, s⟩) (.reply (.detachResult ⟨d, true, none⟩))
        { conn with sessions := conn.sessions.erase s } (m.forget d s)
  | refuse (d : DeviceId) (s : UInt64) (e : String) (hj : join = none) (hs : s ∈ conn.sessions)
      (hd : d ∉ m.attachments) :
      Effect join conn m (.detach ⟨d, s⟩) (.reply (detachRefused d e))
        { conn with sessions := conn.sessions.erase s } m

/-- A Detach answered with `success: false` leaves the table, or drops
its own session from it because its device is not attached. -/
theorem Effect.refused {join : Option String} {conn conn' : Connection} {m m' : DeviceManager}
    {req : DetachRequest} {resp : DetachResponse}
    (h : Effect join conn m (.detach req) (.reply (.detachResult resp)) conn' m')
    (hfail : resp.success = false) :
    conn'.sessions = conn.sessions ∨
      (join = none ∧ req.deviceId ∉ m.attachments ∧ m' = m ∧
        conn'.sessions = conn.sessions.erase req.sessionId) := by
  cases h with
  | keep hs hm hr => exact Or.inl hs
  | detach d s hj hs hd => cases hfail
  | refuse d s e hj hs hd => exact Or.inr ⟨hj, hd, rfl, rfl⟩

/-! ## The handlers, one by one -/

theorem spawnBlocking_reading_manager {α : Type} (join : Option String)
    (op : Bus W → α × Bus W) (sh : Shared W) :
    (spawnBlocking join (Shared.reading op) sh).2.manager = sh.manager := by
  cases join <;> rfl

theorem handleHello_sessions (conn : Connection) (req : HelloRequest) :
    (handleHello p conn req).2.sessions = conn.sessions := by
  unfold handleHello
  split
  · rfl
  · split
    · split <;> rfl
    · rfl

theorem handleHello_reply (conn : Connection) (req : HelloRequest) :
    ∃ resp, (handleHello p conn req).1 = .helloResponse resp := by
  unfold handleHello
  split
  · exact ⟨_, rfl⟩
  · split
    · split <;> exact ⟨_, rfl⟩
    · exact ⟨_, rfl⟩

theorem handleListDevices_keeps (join : Option String) (sh : Shared W) :
    (handleListDevices p join sh).2.manager = sh.manager ∧
      ∀ r, (handleListDevices p join sh).1 ≠ .attachResult r := by
  have hm := spawnBlocking_reading_manager join (DeviceManager.listDevices p) sh
  unfold handleListDevices
  split <;> rename_i heq <;> rw [heq] at hm <;> exact ⟨hm, fun r h => by cases h⟩

theorem handleGetDescriptors_keeps (join : Option String) (req : GetDescriptorsRequest)
    (sh : Shared W) :
    (handleGetDescriptors p join req sh).2.manager = sh.manager ∧
      ∀ r, (handleGetDescriptors p join req sh).1 ≠ .attachResult r := by
  have hm := spawnBlocking_reading_manager join (DeviceManager.getDescriptors p req.deviceId) sh
  unfold handleGetDescriptors
  split <;> rename_i heq <;> rw [heq] at hm <;> exact ⟨hm, fun r h => by cases h⟩

theorem handleAttach_effect (join : Option String) (conn : Connection) (req : AttachRequest)
    (sh : Shared W) :
    Effect join conn sh.manager (.attach req) (.reply (handleAttach p join conn req sh).1)
      (handleAttach p join conn req sh).2.1 (handleAttach p join conn req sh).2.2.manager := by
  unfold handleAttach
  cases join with
  | some e => exact .keep rfl .same (fun r h => by cases h; rfl)
  | none =>
      rcases DeviceManager.attach_cases p sh.manager req.deviceId conn.peerAddr sh.bus with
        ⟨e, hr, hm⟩ | ⟨info, hr, hd, hm, -⟩
      · simp only [spawnBlocking, Shared.locked, hr, hm]
        exact .keep rfl .same (fun r h => by cases h; rfl)
      · simp only [spawnBlocking, Shared.locked, hr, hm]
        exact .attach req.deviceId info hd

theorem handleDetach_effect (join : Option String) (conn : Connection) (req : DetachRequest)
    (sh : Shared W) :
    Effect join conn sh.manager (.detach req) (.reply (handleDetach p join conn req sh).1)
      (handleDetach p join conn req sh).2.1 (handleDetach p join conn req sh).2.2.manager := by
  unfold handleDetach
  split
  · exact .keep rfl .same (fun r h => by cases h)
  · rename_i hs
    have hs : req.sessionId ∈ conn.sessions := not_not.mp hs
    cases join with
    | some e => exact .keep rfl .same (fun r h => by cases h)
    | none =>
        by_cases hd : req.deviceId ∈ sh.manager.attachments
        · obtain ⟨hr, hm⟩ := DeviceManager.detach_of_mem p req.sessionId sh.bus hd
          simp only [spawnBlocking, Shared.locked, hr, hm]
          exact .detach req.deviceId req.sessionId rfl hs hd
        · simp only [spawnBlocking, Shared.locked,
            DeviceManager.detach_of_notMem p req.sessionId sh.bus hd]
          exact .refuse req.deviceId req.sessionId _ rfl hs hd

theorem transferHandle_manager (conn : Connection) (s : UInt64) (d : DeviceId) (sh : Shared W) :
    (transferHandle p conn s d sh).2.manager = sh.manager := by
  unfold transferHandle
  split
  · rfl
  · split
    · rfl
    · split <;> rfl

/-- A transfer that obtains a handle passed both tables, and its handle is
that of the device's attachment. -/
theorem transferHandle_ok {conn : Connection} {s : UInt64} {d : DeviceId} {sh : Shared W}
    {h : Handle} (hok : (transferHandle p conn s d sh).1 = .ok h) :
    s ∈ conn.sessions ∧ sh.manager.sessionToDevice.lookup s = some d ∧
      ∃ info, sh.manager.attachments.lookup d = some info ∧ info.handle = h := by
  unfold transferHandle at hok
  split at hok
  · cases hok
  · rename_i hs
    split at hok
    · cases hok
    · rename_i hvalid
      have hget : (sh.manager.getHandle p d sh.bus).1 = .ok h := by
        split at hok
        · cases hok
        · rename_i heq
          cases hok
          rw [heq]
      exact ⟨not_not.mp hs, DeviceManager.validateSession_ok.mp hvalid,
        DeviceManager.getHandle_ok p hget⟩

theorem handleTransfer_keeps (join : Option String) (conn : Connection) (s : UInt64)
    (d : DeviceId) (execute : Handle → Bus W → TransferResponse × Bus W) (sh : Shared W) :
    (handleTransfer p join conn s d execute sh).2.manager = sh.manager ∧
      ∀ r, (handleTransfer p join conn s d execute sh).1 ≠ .attachResult r := by
  have hm := transferHandle_manager p conn s d sh
  unfold handleTransfer
  split
  · rename_i heq
    rw [heq] at hm
    exact ⟨hm, fun r h => by cases h⟩
  · rename_i handle sh₁ heq
    rw [heq] at hm
    have hm₁ := spawnBlocking_reading_manager join (execute handle) sh₁
    split <;> rename_i heq₁ <;> rw [heq₁] at hm₁ <;>
      exact ⟨hm₁.trans hm, fun r h => by cases h⟩

/-- What a handler of the interface family leaves: its operation's result,
or everything as it was. -/
theorem handleInterface_shared (join : Option String) (conn : Connection) (s : UInt64)
    (op : DeviceManager → Bus W → Except WolfUsbError Unit × DeviceManager × Bus W)
    (result : Bool → Option String → Message) (sh : Shared W) :
    (handleInterface p join conn s op result sh).2 =
      if s ∈ conn.sessions ∧ join = none then
        ⟨(op sh.manager sh.bus).2.1, (op sh.manager sh.bus).2.2⟩
      else sh := by
  unfold handleInterface
  by_cases hs : s ∈ conn.sessions
  · rw [if_neg (not_not.mpr hs)]
    cases join with
    | some e => simp [spawnBlocking]
    | none =>
        rw [if_pos ⟨hs, rfl⟩]
        simp only [spawnBlocking, Shared.locked]
        cases (op sh.manager sh.bus).1 <;> rfl
  · rw [if_pos hs, if_neg (fun h => hs h.1)]

/-- A handler of the interface family touches at most one entry, whatever
its operation does to the manager. -/
theorem handleInterface_touches (join : Option String) (conn : Connection) (s : UInt64)
    {op : DeviceManager → Bus W → Except WolfUsbError Unit × DeviceManager × Bus W}
    (result : Bool → Option String → Message)
    (hop : ∀ (m : DeviceManager) (u : Bus W), m.Touches (op m u).2.1) (sh : Shared W) :
    sh.manager.Touches (handleInterface p join conn s op result sh).2.manager := by
  rw [handleInterface_shared]
  split
  · exact hop sh.manager sh.bus
  · exact .same

theorem handleInterface_reply (join : Option String) (conn : Connection) (s : UInt64)
    (op : DeviceManager → Bus W → Except WolfUsbError Unit × DeviceManager × Bus W)
    (result : Bool → Option String → Message) (sh : Shared W) :
    ∃ ok text, (handleInterface p join conn s op result sh).1 = result ok text := by
  unfold handleInterface
  split
  · exact ⟨_, _, rfl⟩
  · split <;> exact ⟨_, _, rfl⟩

theorem handleBridge_manager (join : Option String) (req : BridgeRequest) (sh : Shared W) :
    (handleBridge p join req sh).2.manager = sh.manager := by
  have hm := spawnBlocking_reading_manager join (lookupBridgeBusid p req.deviceId) sh
  unfold handleBridge
  dsimp only
  split <;> exact hm

/-- The busid of an accepted bridge is made from a device that libusb has
at the requested bus and address. -/
theorem lookupBridgeBusid_some {id : DeviceId} {u : Bus W} {busid : String}
    (h : (lookupBridgeBusid p id u).1 = some busid) :
    ∃ device : UsbDevice, device.busNumber = id.busNumber ∧ device.address = id.address ∧
      busid = bridgeBusid device := by
  rw [lookupBridgeBusid] at h
  split at h
  · cases h
  · obtain ⟨device, hfind, rfl⟩ := Option.map_eq_some_iff.mp h
    have hmatch := List.find?_some hfind
    rw [Bool.and_eq_true, beq_iff_eq, beq_iff_eq] at hmatch
    exact ⟨device, hmatch.1, hmatch.2, rfl⟩

/-- `handle_bridge` answers with a rejection or with the hand-off of the
requested device. -/
theorem handleBridge_action (join : Option String) (req : BridgeRequest) (sh : Shared W) :
    (∃ resp, (handleBridge p join req sh).1 = .reply (.bridgeRejected resp)) ∨
    (∃ device : UsbDevice, device.busNumber = req.deviceId.busNumber ∧
      device.address = req.deviceId.address ∧ (handleBridge p join req sh).1
        = .bridge (bridgeAccepted req.deviceId (bridgeBusid device)) req.deviceId) := by
  unfold handleBridge
  dsimp only
  split
  · exact Or.inl ⟨_, rfl⟩
  · rename_i busid hbusid
    cases join with
    | some e => cases hbusid
    | none =>
        obtain ⟨device, hbus, haddr, rfl⟩ := lookupBridgeBusid_some p hbusid
        exact Or.inr ⟨device, hbus, haddr, rfl⟩

/-! ## Every message -/

theorem dispatch_effect (join : Option String) (conn : Connection) (msg : Message)
    (sh : Shared W) :
    Effect join conn sh.manager msg (dispatch p join conn msg sh).1
      (dispatch p join conn msg sh).2.1 (dispatch p join conn msg sh).2.2.manager := by
  have keep : ∀ {msg' : Message} {r : Message × Shared W},
      r.2.manager = sh.manager → (∀ a, r.1 ≠ .attachResult a) →
      Effect join conn sh.manager msg' (.reply r.1) conn r.2.manager := by
    intro msg' r hm hr
    exact .keep rfl (hm ▸ .same) (fun a h => absurd h (hr a))
  have touch : ∀ {msg' : Message} {r : Message × Shared W},
      sh.manager.Touches r.2.manager → (∀ a, r.1 ≠ .attachResult a) →
      Effect join conn sh.manager msg' (.reply r.1) conn r.2.manager := by
    intro msg' r hm hr
    exact .keep rfl hm (fun a h => absurd h (hr a))
  cases msg with
  | listDevices =>
      have h := handleListDevices_keeps p join sh
      exact keep h.1 h.2
  | getDescriptors req =>
      have h := handleGetDescriptors_keeps p join req sh
      exact keep h.1 h.2
  | attach req => exact handleAttach_effect p join conn req sh
  | detach req => exact handleDetach_effect p join conn req sh
  | controlTransfer req =>
      have h := handleTransfer_keeps p join conn req.sessionId req.deviceId
        (fun handle => Transfer.executeControlTransfer p handle req) sh
      exact keep h.1 h.2
  | bulkTransfer req =>
      have h := handleTransfer_keeps p join conn req.sessionId req.deviceId
        (fun handle => Transfer.executeBulkTransfer p handle req) sh
      exact keep h.1 h.2
  | interruptTransfer req =>
      have h := handleTransfer_keeps p join conn req.sessionId req.deviceId
        (fun handle => Transfer.executeInterruptTransfer p handle req) sh
      exact keep h.1 h.2
  | claimInterface req =>
      refine touch (handleInterface_touches p join conn req.sessionId _
        (fun m u => DeviceManager.claimInterface_touches p m _ _ u) sh) (fun a h => ?_)
      obtain ⟨ok, text, hr⟩ := handleInterface_reply p join conn req.sessionId
        (fun m => m.claimInterface p req.deviceId req.interfaceNumber)
        (fun success errorMessage => .claimInterfaceResult { success, errorMessage }) sh
      cases hr.symm.trans h
  | releaseInterface req =>
      refine touch (handleInterface_touches p join conn req.sessionId _
        (fun m u => DeviceManager.releaseInterface_touches p m _ _ u) sh) (fun a h => ?_)
      obtain ⟨ok, text, hr⟩ := handleInterface_reply p join conn req.sessionId
        (fun m => m.releaseInterface p req.deviceId req.interfaceNumber)
        (fun success errorMessage => .releaseInterfaceResult { success, errorMessage }) sh
      cases hr.symm.trans h
  | setConfiguration req =>
      refine touch (handleInterface_touches p join conn req.sessionId _
        (fun m u => DeviceManager.setConfiguration_touches p m _ _ u) sh) (fun a h => ?_)
      obtain ⟨ok, text, hr⟩ := handleInterface_reply p join conn req.sessionId
        (fun m => m.setConfiguration p req.deviceId req.configuration)
        (fun success errorMessage => .setConfigurationResult { success, errorMessage }) sh
      cases hr.symm.trans h
  | bridge req =>
      have hm := handleBridge_manager p join req sh
      refine .keep rfl (hm ▸ .same) (fun a h => ?_)
      rcases handleBridge_action p join req sh with ⟨resp, hr⟩ | ⟨device, -, -, hr⟩
      · exact absurd (hr ▸ h) (by simp [Action.message])
      · exact absurd (hr ▸ h) (by simp [Action.message, bridgeAccepted])
  | _ => exact .keep rfl .same (fun a h => by cases h)

/-- **The effects of a message.** -/
theorem handleMessage_effect (join : Option String) (conn : Connection) (msg : Message)
    (sh : Shared W) :
    Effect join conn sh.manager msg (handleMessage p join conn msg sh).1
      (handleMessage p join conn msg sh).2.1 (handleMessage p join conn msg sh).2.2.manager := by
  unfold handleMessage
  split
  · rename_i req
    refine .keep (handleHello_sessions p conn req) .same (fun a h => ?_)
    obtain ⟨resp, hr⟩ := handleHello_reply p conn req
    cases hr.symm.trans h
  · exact .keep rfl .same (fun a h => by cases h)
  · split
    · exact .keep rfl .same (fun a h => by cases h)
    · exact dispatch_effect p join conn msg sh

/-- Only a Bridge request is answered by a hand-off, with the busid of a
device libusb has there, and it leaves the connection as it is. -/
theorem handleMessage_bridge {join : Option String} {conn conn' : Connection} {msg : Message}
    {sh sh' : Shared W} {reply : Message} {target : DeviceId}
    (h : handleMessage p join conn msg sh = (.bridge reply target, conn', sh')) :
    msg = .bridge ⟨target⟩ ∧ conn' = conn ∧ ∃ device : UsbDevice,
      device.busNumber = target.busNumber ∧ device.address = target.address ∧
        reply = bridgeAccepted target (bridgeBusid device) := by
  unfold handleMessage at h
  split at h
  · cases h
  · cases h
  · split at h
    · cases h
    · cases msg with
      | bridge req =>
          obtain ⟨haction, hrest⟩ := Prod.mk.inj h
          rcases handleBridge_action p join req sh with ⟨resp, hr⟩ | ⟨device, hbus, haddr, hr⟩
          · cases hr.symm.trans haction
          · cases hr.symm.trans haction
            exact ⟨rfl, (Prod.mk.inj hrest).1.symm, device, hbus, haddr, rfl⟩
      | _ => cases h

end WolfUsb.Connection
