/-
WolfUsb.Server.AuthorityTheorems — who may claim, release and configure.

The interface handlers check that the session is in the connection's
table and then act on the device the request names, without the check of
`validate_session` that it is the session's device. So a client with a
session of its own acts on any attached device
(`interface_request_acts_on_foreign_device`). `interface_authority` says
exactly when a request is authorized, and that in runs whose requests all
are, interface requests act on the connection's own attachments only.
-/
import WolfUsb.Server.Coherence

namespace WolfUsb

open WolfUsb.Lib

variable {W : Type} (p : Platform W)

/-! ## The manager's operations -/

/-- The operation acts on the device `d`: it makes one configuring call
when `d` is attached, and does nothing when it is not. -/
structure DeviceManager.ActsOn (d : DeviceId)
    (op : DeviceManager → Bus W → Except WolfUsbError Unit × DeviceManager × Bus W) : Prop where
  attached : ∀ m u, d ∈ m.attachments →
    ∃ call, call.configures = true ∧ (op m u).2.2.calls = u.calls ++ [call]
  absent : ∀ m u, d ∉ m.attachments → (op m u).2 = (m, u)

namespace DeviceManager

/-- An operation on the handle of `d` that makes one configuring call. -/
theorem actsOn_of_onHandle {d : DeviceId}
    {op : DeviceManager → Bus W → Except WolfUsbError Unit × DeviceManager × Bus W}
    {run : Handle → Bus W → Except RusbError Unit × Bus W} {call : Handle → UsbCall}
    (after : DeviceManager → AttachmentInfo → DeviceManager)
    (h : ∀ m u, OnHandle m d u run (after m) (op m u))
    (hrun : ∀ handle u, (run handle u).2.calls = u.calls ++ [call handle])
    (hcall : ∀ handle, (call handle).configures = true) : ActsOn d op where
  attached m u hd := by
    obtain ⟨info, hinfo⟩ := Finmap.mem_iff.mp hd
    refine ⟨call info.handle, hcall _, ?_⟩
    have hop := h m u
    generalize op m u = r at hop ⊢
    cases hop with
    | absent hnone =>
      rw [hinfo] at hnone
      cases hnone
    | failed hd' hfailed =>
      cases hinfo.symm.trans hd'
      rw [← hrun, hfailed]
    | done hd' hdone =>
      cases hinfo.symm.trans hd'
      rw [← hrun, hdone]
  absent m u hd := by
    have hnone := Finmap.lookup_eq_none.mpr hd
    have hop := h m u
    generalize op m u = r at hop ⊢
    cases hop with
    | absent _ => rfl
    | failed hd' _ =>
      rw [hnone] at hd'
      cases hd'
    | done hd' _ =>
      rw [hnone] at hd'
      cases hd'

theorem claimInterface_actsOn (d : DeviceId) (n : UInt8) :
    ActsOn d (fun m (u : Bus W) => m.claimInterface p d n u) :=
  actsOn_of_onHandle _ (fun m u => claimInterface_onHandle p m d n u) (fun _ _ => rfl) fun _ => rfl

theorem releaseInterface_actsOn (d : DeviceId) (n : UInt8) :
    ActsOn d (fun m (u : Bus W) => m.releaseInterface p d n u) :=
  actsOn_of_onHandle _ (fun m u => releaseInterface_onHandle p m d n u) (fun _ _ => rfl) fun _ => rfl

theorem setConfiguration_actsOn (d : DeviceId) (n : UInt8) :
    ActsOn d (fun m (u : Bus W) => m.setConfiguration p d n u) :=
  actsOn_of_onHandle (fun m _ => m) (fun m u => setConfiguration_onHandle p m d n u)
    (fun _ _ => rfl) fun _ => rfl

end DeviceManager

/-! ## The handlers -/

/-- The session and the device an interface or configuration request names. -/
def Message.configuring : Message → Option (UInt64 × DeviceId)
  | .claimInterface req => some (req.sessionId, req.deviceId)
  | .releaseInterface req => some (req.sessionId, req.deviceId)
  | .setConfiguration req => some (req.sessionId, req.deviceId)
  | _ => none

/-- A handler that found `sh` and left `sh'` made a configuring call, or
changed an attachment. -/
def Shared.Configured (sh sh' : Shared W) : Prop :=
  (∃ call ∈ sh'.bus.calls, call ∉ sh.bus.calls ∧ call.configures = true) ∨
    sh'.manager.attachments ≠ sh.manager.attachments

instance (sh sh' : Shared W) : Decidable (sh.Configured sh') :=
  inferInstanceAs (Decidable ((∃ call ∈ sh'.bus.calls, _ ∧ _) ∨ _))

theorem Shared.not_configured_self (sh : Shared W) : ¬ sh.Configured sh := by
  rintro (⟨call, hcall, hnew, -⟩ | hne)
  · exact hnew hcall
  · exact hne rfl

namespace Connection

/-- An interface handler acts exactly when the session is in the table, its
task runs and the device is attached. -/
theorem handleInterface_configured {join : Option String} {conn : Connection} {s : UInt64}
    {d : DeviceId} {op : DeviceManager → Bus W → Except WolfUsbError Unit × DeviceManager × Bus W}
    (hop : DeviceManager.ActsOn d op) (result : Bool → Option String → Message) {sh : Shared W}
    (hsh : sh.bus.calls = []) :
    sh.Configured (handleInterface p join conn s op result sh).2 ↔
      s ∈ conn.sessions ∧ join = none ∧ d ∈ sh.manager.attachments := by
  have idle := sh.not_configured_self
  rw [handleInterface_shared]
  split
  · rename_i hrun
    by_cases hd : d ∈ sh.manager.attachments
    · obtain ⟨call, hcall, hcalls⟩ := hop.attached sh.manager sh.bus hd
      refine iff_of_true (Or.inl ⟨call, ?_, ?_, hcall⟩) ⟨hrun.1, hrun.2, hd⟩
      · simp [hcalls]
      · simp [hsh]
    · rw [hop.absent sh.manager sh.bus hd]
      exact iff_of_false idle (fun h => hd h.2.2)
  · rename_i hrun
    exact iff_of_false idle (fun h => hrun ⟨h.1, h.2.1⟩)

/-- **When an interface request reaches a device.** -/
theorem handleMessage_configured {join : Option String} {conn : Connection} {msg : Message}
    {s : UInt64} {d : DeviceId} {sh : Shared W} (hmsg : msg.configuring = some (s, d))
    (hsh : sh.bus.calls = []) :
    sh.Configured (conn.handleMessage p join msg sh).2.2 ↔
      conn.gated = false ∧ s ∈ conn.sessions ∧ join = none ∧ d ∈ sh.manager.attachments := by
  -- behind the gate the message is one interface handler
  have gate : ∀ {op} (result : Bool → Option String → Message), DeviceManager.ActsOn d op →
      (conn.handleMessage p join msg sh).2.2 =
        (if conn.gated then sh else (handleInterface p join conn s op result sh).2) →
      (sh.Configured (conn.handleMessage p join msg sh).2.2 ↔
        conn.gated = false ∧ s ∈ conn.sessions ∧ join = none ∧ d ∈ sh.manager.attachments) := by
    intro op result hop hr
    rw [hr]
    cases conn.gated with
    | true => simpa using sh.not_configured_self
    | false => simpa using handleInterface_configured p hop result hsh
  cases msg with
  | claimInterface req =>
      cases hmsg
      refine gate (fun success errorMessage => .claimInterfaceResult { success, errorMessage })
        (DeviceManager.claimInterface_actsOn p req.deviceId req.interfaceNumber) ?_
      simp only [handleMessage]
      split <;> rfl
  | releaseInterface req =>
      cases hmsg
      refine gate (fun success errorMessage => .releaseInterfaceResult { success, errorMessage })
        (DeviceManager.releaseInterface_actsOn p req.deviceId req.interfaceNumber) ?_
      simp only [handleMessage]
      split <;> rfl
  | setConfiguration req =>
      cases hmsg
      refine gate (fun success errorMessage => .setConfigurationResult { success, errorMessage })
        (DeviceManager.setConfiguration_actsOn p req.deviceId req.configuration) ?_
      simp only [handleMessage]
      split <;> rfl
  | _ => cases hmsg

end Connection

/-! ## Authority -/

namespace Server

/-- Connection `conn` of the server is authorized for the session and the
device: if it gets to the manager's operation with this session and the
device is attached, the session is that of the device. -/
def Authorized (sv : Server W) (conn : Connection) (join : Option String) (s : UInt64)
    (d : DeviceId) : Prop :=
  conn.gated = false → join = none → s ∈ conn.sessions → d ∈ sv.manager.attachments →
    sv.manager.sessionToDevice.lookup s = some d

/-- The interface request an event carries, if any, is authorized. -/
def InterfaceAuthorized (sv : Server W) : Event → Prop
  | .receive c msg o => ∀ q ∈ msg.configuring, ∀ conn ∈ sv.connections.lookup c,
      sv.Authorized conn o.join q.1 q.2
  | _ => True

/-- The interface request an event carries, if any, acts only on an
attachment of the connection it came from. -/
def ConfiguresOwn (a : Audited W) (e : Event) : Prop :=
  ∀ c conn msg o s d, e = .receive c msg o → a.server.connections.lookup c = some conn →
    msg.configuring = some (s, d) →
    a.server.shared.Configured (conn.handleMessage p o.join msg a.server.shared).2.2 →
    ∃ h, a.audit.grants d = some ⟨c, s, h⟩

instance (sv : Server W) (conn : Connection) (join : Option String) (s : UInt64) (d : DeviceId) :
    Decidable (sv.Authorized conn join s d) :=
  inferInstanceAs (Decidable (_ → _ → _ → _ → _))

instance (sv : Server W) : ∀ e, Decidable (sv.InterfaceAuthorized e)
  | .accept _ => isTrue trivial
  | .hangup _ _ => isTrue trivial
  | .receive c msg o => inferInstanceAs (Decidable (∀ q ∈ msg.configuring,
      ∀ conn ∈ sv.connections.lookup c, sv.Authorized conn o.join q.1 q.2))

end Server

/-- What an interface request reaches is its session's device exactly when
the request is authorized. -/
theorem configured_iff_authorized {sv : Server W} {conn : Connection} {join : Option String}
    {msg : Message} {s : UInt64} {d : DeviceId} (hmsg : msg.configuring = some (s, d)) :
    (sv.shared.Configured (conn.handleMessage p join msg sv.shared).2.2 →
        s ∈ conn.sessions ∧ sv.manager.sessionToDevice.lookup s = some d) ↔
      sv.Authorized conn join s d := by
  have hreach : sv.shared.Configured (conn.handleMessage p join msg sv.shared).2.2 ↔ _ :=
    Connection.handleMessage_configured p hmsg rfl
  constructor
  · intro h hgate hj hs hd
    exact (h (hreach.mpr ⟨hgate, hs, hj, hd⟩)).2
  · intro h hconf
    obtain ⟨hgate, hs, hj, hd⟩ := hreach.mp hconf
    exact ⟨hs, h hgate hj hs hd⟩

/-- In a coherent state an authorized request acts on an attachment of its
own connection. -/
theorem authorized_own {a : Audited W} {e : Event} (ha : a.registry.Coherent)
    (h : a.server.InterfaceAuthorized e) : Server.ConfiguresOwn p a e := by
  rintro c conn msg o s d rfl hconn hmsg hconf
  obtain ⟨hs, hsd⟩ := (configured_iff_authorized p hmsg).mpr (h (s, d) hmsg conn hconn) hconf
  obtain ⟨info, -, hg⟩ := ha.own (Audited.registry_table hconn) hs hsd
  exact ⟨info.handle, hg⟩

/-- Connections 0 and 1 have 1:2 and 1:3. -/
def oneDeviceEach : List Event :=
  [.accept ⟨"10.0.0.1", 4000⟩, .accept ⟨"10.0.0.2", 4000⟩, .receive 0 (.attach ⟨⟨1, 2⟩⟩) {},
    .receive 1 (.attach ⟨⟨1, 3⟩⟩) {}]

/-- A ClaimInterface of connection 0 with its own session 1 reaches 1:3,
which connection 1 attached and which is not the device of session 1. -/
theorem interface_request_acts_on_foreign_device :
    ∃ a conn, Run (Audited.Steps twoDeviceHost) (.start none false 0) oneDeviceEach a ∧
      a.server.connections.lookup 0 = some conn ∧
      a.server.shared.Configured
        (conn.handleMessage twoDeviceHost none (.claimInterface ⟨1, ⟨1, 3⟩, 0⟩)
          a.server.shared).2.2 ∧
      a.server.manager.sessionToDevice.lookup 1 = some ⟨1, 2⟩ ∧
      a.audit.grants ⟨1, 3⟩ = some ⟨1, 2, 1⟩ := by
  have hplay : (play (Audited.step twoDeviceHost) (.start none false 0) oneDeviceEach).map
      (fun a => ((a.server.connections.lookup 0).map fun conn =>
          decide (a.server.shared.Configured (conn.handleMessage twoDeviceHost none
            (.claimInterface ⟨1, ⟨1, 3⟩, 0⟩) a.server.shared).2.2),
        a.server.manager.sessionToDevice.lookup 1, a.audit.grants ⟨1, 3⟩))
      = some (some true, some ⟨1, 2⟩, some ⟨1, 2, 1⟩) := by decide +kernel
  obtain ⟨a, ha, heq⟩ := Option.map_eq_some_iff.mp hplay
  obtain ⟨hclaim, hrest⟩ := Prod.mk.inj heq
  obtain ⟨conn, hconn, hconf⟩ := Option.map_eq_some_iff.mp hclaim
  obtain ⟨hsession, hgrant⟩ := Prod.mk.inj hrest
  exact ⟨a, conn, play_iff_run.mp ha, hconn, of_decide_eq_true hconf, hsession, hgrant⟩

/-- **Authority of interface and configuration requests.** A request that
reaches a device names a session of its connection and that session's
device exactly when it is authorized; and in a run whose interface
requests are authorized, whose Detach requests match the manager's
sessions and whose session counter does not come round, every one that
reaches a device acts on an attachment of its own connection. -/
theorem interface_authority :
    (∀ (sv : Server W) (conn : Connection) (join : Option String) (msg : Message) (s : UInt64)
      (d : DeviceId), msg.configuring = some (s, d) →
      ((sv.shared.Configured (conn.handleMessage p join msg sv.shared).2.2 →
          s ∈ conn.sessions ∧ sv.manager.sessionToDevice.lookup s = some d) ↔
        sv.Authorized conn join s d)) ∧
    ∀ (sharedKey : Option Bytes) (tls : Bool) (world : W) (es : List Event),
      StepsAlong (Audited.Steps p)
        (fun a e => a.server.InterfaceAuthorized e ∧ a.server.DetachMatches e ∧
          a.server.TicketUnused e) (.start sharedKey tls world) es →
      StepsAlong (Audited.Steps p) (fun a e => Server.ConfiguresOwn p a e)
        (.start sharedKey tls world) es := by
  refine ⟨fun sv conn join msg s d hmsg => configured_iff_authorized p hmsg,
    fun sharedKey tls world es hC => ?_⟩
  have hcoherent := coherent_along p sharedKey tls world (hC.mono fun a e h => h.2)
  exact (hC.and_states hcoherent).mono fun a e h => authorized_own p h.2 h.1.1

/-- A connection with session 1 of device 1:2, and the server it is on. -/
def ownerConnection : Connection :=
  { Connection.new .plain ⟨"10.0.0.1", 4000⟩ none with
    sessions := Finmap.insert 1 ⟨1, 2⟩ ∅ }

def ownerServer : Server Nat :=
  { Server.start none false 1 with
    manager := DeviceManager.new.register ⟨1, 2⟩ ⟨0, 0x046d, 0xc52b, [], [], ⟨"10.0.0.1", 4000⟩⟩
    connections := Finmap.insert 0 ownerConnection ∅
    accepted := 1 }

/-- The owner claims an interface of its own device. -/
theorem interface_authority_own_device :
    (ownerServer.shared.Configured (ownerConnection.handleMessage twoDeviceHost none
        (.claimInterface ⟨1, ⟨1, 2⟩, 0⟩) ownerServer.shared).2.2 →
      (1 : UInt64) ∈ ownerConnection.sessions ∧
        ownerServer.manager.sessionToDevice.lookup 1 = some ⟨1, 2⟩) ∧
    StepsAlong (Audited.Steps twoDeviceHost) (fun a e => Server.ConfiguresOwn twoDeviceHost a e)
      (.start none false 0)
      (oneDeviceEach ++ [.receive 0 (.claimInterface ⟨1, ⟨1, 2⟩, 0⟩) {}]) :=
  ⟨((interface_authority twoDeviceHost).1 ownerServer ownerConnection none
      (.claimInterface ⟨1, ⟨1, 2⟩, 0⟩) 1 ⟨1, 2⟩ rfl).mpr (by decide +kernel),
    (interface_authority twoDeviceHost).2 none false 0 _ (by decide +kernel)⟩

end WolfUsb
