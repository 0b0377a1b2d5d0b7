/-
WolfUsb.Server.ReplyTheorems — which replies answer which request.

`Answers` pairs each request with the replies a client of it can use: its
own result, with the ids of the request where the result has them, or an
error. `handleMessage_answers` is the case analysis over the dispatch:
whatever the state, the device and the blocking task do, the reply
answers the message. A message changes nothing of the connection but its
table, and a Hello its flag.
-/
import WolfUsb.Server.ConnectionTheorems

namespace WolfUsb

variable {W : Type} (p : Platform W)

/-- The reply answers the request: a HelloResponse to a Hello, a Pong to a
Ping, and to any other request its own result, for the session and the
device it names, or an error. -/
def Answers : Message → Message → Prop
  | .hello _, .helloResponse _ => True
  | .hello _, _ => False
  | .ping, .pong => True
  | .ping, _ => False
  | _, .error _ => True
  | .listDevices, .deviceList _ => True
  | .getDescriptors req, .descriptorData resp => resp.deviceId = req.deviceId
  | .attach req, .attachResult resp =>
      resp.deviceId = req.deviceId ∧ (resp.success = true → resp.sessionId.isSome = true)
  | .detach req, .detachResult resp => resp.deviceId = req.deviceId
  | .controlTransfer req, .transferResult resp =>
      resp.sessionId = req.sessionId ∧ resp.deviceId = req.deviceId
  | .bulkTransfer req, .transferResult resp =>
      resp.sessionId = req.sessionId ∧ resp.deviceId = req.deviceId
  | .interruptTransfer req, .transferResult resp =>
      resp.sessionId = req.sessionId ∧ resp.deviceId = req.deviceId
  | .claimInterface _, .claimInterfaceResult _ => True
  | .releaseInterface _, .releaseInterfaceResult _ => True
  | .setConfiguration _, .setConfigurationResult _ => True
  | .bridge req, .bridgeAccepted resp => resp.deviceId = req.deviceId
  | .bridge _, .bridgeRejected _ => True
  | _, _ => False

/-! ## Transfers -/

namespace Transfer

/-- The response is for this session and device. -/
def For (s : UInt64) (d : DeviceId) (resp : TransferResponse) : Prop :=
  resp.sessionId = s ∧ resp.deviceId = d

theorem readResponse_for (s : UInt64) (d : DeviceId) (length : Nat)
    (r : Except RusbError (Nat × Bytes)) : For s d (readResponse p s d length r) := by
  cases r <;> exact ⟨rfl, rfl⟩

theorem writeResponse_for (s : UInt64) (d : DeviceId) (r : Except RusbError Nat) :
    For s d (writeResponse p s d r) := by
  cases r <;> exact ⟨rfl, rfl⟩

theorem cappedLength_for {length : UInt32} {s : UInt64} {d : DeviceId} {resp : TransferResponse}
    (h : cappedLength length s d = .error resp) : For s d resp := by
  unfold cappedLength at h
  split at h
  · cases h
    exact ⟨rfl, rfl⟩
  · cases h

theorem executeControlTransfer_for (handle : Handle) (req : ControlTransferRequest) (u : Bus W) :
    For req.sessionId req.deviceId (executeControlTransfer p handle req u).1 := by
  unfold executeControlTransfer
  dsimp only
  split
  · exact readResponse_for p ..
  · exact writeResponse_for p ..

theorem executeBulkTransfer_for (handle : Handle) (req : BulkTransferRequest) (u : Bus W) :
    For req.sessionId req.deviceId (executeBulkTransfer p handle req u).1 := by
  unfold executeBulkTransfer
  dsimp only
  split
  · split
    · rename_i hcap
      exact cappedLength_for hcap
    · exact readResponse_for p ..
  · exact writeResponse_for p ..

theorem executeInterruptTransfer_for (handle : Handle) (req : InterruptTransferRequest)
    (u : Bus W) : For req.sessionId req.deviceId (executeInterruptTransfer p handle req u).1 := by
  unfold executeInterruptTransfer
  dsimp only
  split
  · split
    · rename_i hcap
      exact cappedLength_for hcap
    · exact readResponse_for p ..
  · exact writeResponse_for p ..

end Transfer

namespace Connection

/-! ## The handlers -/

/-- A transfer is answered for its own session and device. -/
theorem handleTransfer_answers (join : Option String) (conn : Connection) {s : UInt64}
    {d : DeviceId} {execute : Handle → Bus W → TransferResponse × Bus W}
    (hfor : ∀ handle u, Transfer.For s d (execute handle u).1) (sh : Shared W) :
    (∃ resp, (handleTransfer p join conn s d execute sh).1 = .transferResult resp ∧
      Transfer.For s d resp) ∨
    ∃ e, (handleTransfer p join conn s d execute sh).1 = .error e := by
  unfold handleTransfer
  split
  · exact Or.inl ⟨_, rfl, rfl, rfl⟩
  · rename_i handle sh₁ hhandle
    cases join with
    | some e => exact Or.inr ⟨_, rfl⟩
    | none => exact Or.inl ⟨_, rfl, hfor handle sh₁.bus⟩

theorem handleListDevices_answers (join : Option String) (sh : Shared W) :
    Answers .listDevices (handleListDevices p join sh).1 := by
  unfold handleListDevices
  split <;> trivial

theorem handleGetDescriptors_answers (join : Option String) (req : GetDescriptorsRequest)
    (sh : Shared W) : Answers (.getDescriptors req) (handleGetDescriptors p join req sh).1 := by
  unfold handleGetDescriptors
  split
  · exact rfl
  · trivial
  · trivial

theorem handleAttach_answers (join : Option String) (conn : Connection) (req : AttachRequest)
    (sh : Shared W) : Answers (.attach req) (handleAttach p join conn req sh).1 := by
  unfold handleAttach
  split
  · exact ⟨rfl, fun _ => rfl⟩
  · exact ⟨rfl, nofun⟩
  · exact ⟨rfl, nofun⟩

theorem handleDetach_answers (join : Option String) (conn : Connection) (req : DetachRequest)
    (sh : Shared W) : Answers (.detach req) (handleDetach p join conn req sh).1 := by
  unfold handleDetach
  split
  · exact rfl
  · split <;> exact rfl

theorem handleBridge_answers (join : Option String) (req : BridgeRequest) (sh : Shared W) :
    Answers (.bridge req) (handleBridge p join req sh).1.message := by
  rcases handleBridge_action p join req sh with ⟨resp, hr⟩ | ⟨device, -, -, hr⟩
  · rw [hr]
    trivial
  · rw [hr]
    exact rfl

/-! ## Every message -/

theorem dispatch_answers (join : Option String) (conn : Connection) {msg : Message}
    (hhello : ∀ req, msg ≠ .hello req) (hping : msg ≠ .ping) (sh : Shared W) :
    Answers msg (dispatch p join conn msg sh).1.message := by
  cases msg with
  | hello req => exact absurd rfl (hhello req)
  | ping => exact absurd rfl hping
  | listDevices => exact handleListDevices_answers p join sh
  | getDescriptors req => exact handleGetDescriptors_answers p join req sh
  | attach req => exact handleAttach_answers p join conn req sh
  | detach req => exact handleDetach_answers p join conn req sh
  | controlTransfer req =>
      have h := handleTransfer_answers p join conn
        (fun handle u => Transfer.executeControlTransfer_for p handle req u) sh
      rcases h with ⟨resp, hr, hfor⟩ | ⟨e, hr⟩
      · exact (show Answers _ (handleControlTransfer p join conn req sh).1 from hr ▸ hfor)
      · exact (show Answers _ (handleControlTransfer p join conn req sh).1 from hr ▸ trivial)
  | bulkTransfer req =>
      have h := handleTransfer_answers p join conn
        (fun handle u => Transfer.executeBulkTransfer_for p handle req u) sh
      rcases h with ⟨resp, hr, hfor⟩ | ⟨e, hr⟩
      · exact (show Answers _ (handleBulkTransfer p join conn req sh).1 from hr ▸ hfor)
      · exact (show Answers _ (handleBulkTransfer p join conn req sh).1 from hr ▸ trivial)
  | interruptTransfer req =>
      have h := handleTransfer_answers p join conn
        (fun handle u => Transfer.executeInterruptTransfer_for p handle req u) sh
      rcases h with ⟨resp, hr, hfor⟩ | ⟨e, hr⟩
      · exact (show Answers _ (handleInterruptTransfer p join conn req sh).1 from hr ▸ hfor)
      · exact (show Answers _ (handleInterruptTransfer p join conn req sh).1 from hr ▸ trivial)
  | claimInterface req =>
      obtain ⟨ok, text, hr⟩ := handleInterface_reply p join conn req.sessionId
        (fun m => m.claimInterface p req.deviceId req.interfaceNumber)
        (fun success errorMessage => .claimInterfaceResult { success, errorMessage }) sh
      exact (show Answers _ (handleClaimInterface p join conn req sh).1 from hr ▸ trivial)
  | releaseInterface req =>
      obtain ⟨ok, text, hr⟩ := handleInterface_reply p join conn req.sessionId
        (fun m => m.releaseInterface p req.deviceId req.interfaceNumber)
        (fun success errorMessage => .releaseInterfaceResult { success, errorMessage }) sh
      exact (show Answers _ (handleReleaseInterface p join conn req sh).1 from hr ▸ trivial)
  | setConfiguration req =>
      obtain ⟨ok, text, hr⟩ := handleInterface_reply p join conn req.sessionId
        (fun m => m.setConfiguration p req.deviceId req.configuration)
        (fun success errorMessage => .setConfigurationResult { success, errorMessage }) sh
      exact (show Answers _ (handleSetConfiguration p join conn req sh).1 from hr ▸ trivial)
  | bridge req => exact handleBridge_answers p join req sh
  | _ => trivial

/-- **The reply answers the message**, whatever the state. -/
theorem handleMessage_answers (join : Option String) (conn : Connection) (msg : Message)
    (sh : Shared W) : Answers msg (conn.handleMessage p join msg sh).1.message := by
  unfold handleMessage
  split
  · rename_i req
    obtain ⟨resp, hr⟩ := handleHello_reply p conn req
    exact (show Answers (.hello req) (handleHello p conn req).1 from hr ▸ trivial)
  · trivial
  · rename_i hhello hping
    split
    · cases msg <;> first | trivial | exact absurd rfl (hhello _)
    · exact dispatch_answers p join conn hhello hping sh

/-! ## What a message leaves of the connection -/

theorem dispatch_connection (join : Option String) (conn : Connection) (msg : Message)
    (sh : Shared W) :
    ∃ t, (dispatch p join conn msg sh).2.1 = { conn with sessions := t } := by
  cases msg with
  | attach req =>
      simp only [dispatch, handleAttach]
      split <;> exact ⟨_, rfl⟩
  | detach req =>
      simp only [dispatch, handleDetach]
      split
      · exact ⟨_, rfl⟩
      · split <;> exact ⟨_, rfl⟩
  | _ => exact ⟨conn.sessions, rfl⟩

/-- The verdict a reply carries: that of a HelloResponse. -/
def verdict : Message → Option Bool
  | .helloResponse resp => some resp.authAccepted
  | _ => none

theorem verdict_of_answers {msg reply : Message} (hhello : ∀ req, msg ≠ .hello req)
    (h : Answers msg reply) : verdict reply = none := by
  cases reply with
  | helloResponse resp =>
      cases msg with
      | hello req => exact absurd rfl (hhello req)
      | _ => exact False.elim h
  | _ => rfl

/-- A Hello is answered with the verdict it leaves in the flag, unless the
flag was set before. -/
theorem handleHello_verdict (conn : Connection) (req : HelloRequest) :
    ∃ v, verdict (handleHello p conn req).1 = some v ∧
      (handleHello p conn req).2 = { conn with authenticated := conn.authenticated || v } := by
  have keep : conn = { conn with authenticated := conn.authenticated || false } := by
    rw [Bool.or_false]
  have set : { conn with authenticated := true }
      = { conn with authenticated := conn.authenticated || true } := by
    rw [Bool.or_true]
  unfold handleHello
  split
  · exact ⟨false, rfl, keep⟩
  · split
    · split
      · exact ⟨false, rfl, keep⟩
      · exact ⟨true, rfl, set⟩
    · exact ⟨true, rfl, set⟩

/-- The flag and the key after a message. -/
theorem handleMessage_authenticated (join : Option String) (conn : Connection) (msg : Message)
    (sh : Shared W) :
    (conn.handleMessage p join msg sh).2.1.sharedKey = conn.sharedKey ∧
      (conn.handleMessage p join msg sh).2.1.authenticated =
        (conn.authenticated ||
          verdict (conn.handleMessage p join msg sh).1.message == some true) := by
  have hans := handleMessage_answers p join conn msg sh
  by_cases hhello : ∃ req, msg = .hello req
  · obtain ⟨req, rfl⟩ := hhello
    obtain ⟨v, hv, hconn⟩ := handleHello_verdict p conn req
    show (handleHello p conn req).2.sharedKey = conn.sharedKey ∧
      (handleHello p conn req).2.authenticated
        = (conn.authenticated || verdict (handleHello p conn req).1 == some true)
    rw [hconn, hv]
    refine ⟨rfl, ?_⟩
    cases v <;> rfl
  · have hhello : ∀ req, msg ≠ .hello req := fun req h => hhello ⟨req, h⟩
    rw [verdict_of_answers hhello hans]
    have hrest : (conn.handleMessage p join msg sh).2.1.sharedKey = conn.sharedKey ∧
        (conn.handleMessage p join msg sh).2.1.authenticated = conn.authenticated := by
      unfold handleMessage
      split
      · exact absurd rfl (hhello _)
      · exact ⟨rfl, rfl⟩
      · split
        · exact ⟨rfl, rfl⟩
        · obtain ⟨t, ht⟩ := dispatch_connection p join conn msg sh
          rw [ht]
          exact ⟨rfl, rfl⟩
    exact ⟨hrest.1, by rw [hrest.2]; exact (Bool.or_false _).symm⟩

end Connection

end WolfUsb
