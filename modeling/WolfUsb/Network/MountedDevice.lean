/-
WolfUsb.Network.MountedDevice — the device `cmd_mount` attaches is the one
it was asked for.

On its way from the command line to the kernel's vhci port the device is
named four times: by bus and address in the Bridge request, by the
target of the hand-off, by a directory entry of sysfs, and by the numbers
of OP_REP_IMPORT. `Switchover.Aimed` says that the target is the device of
the request, in every order of the steps, and `Bridging.Sourced` that the
reply is made of the entry found for the target. The busid the client
sends back takes no part in it.
-/
import WolfUsb.Bridge.Attach
import WolfUsb.Client.ImportReplyTheorems
import WolfUsb.Client.ImportTheorems
import WolfUsb.Network.MountEnds
import WolfUsb.Server.SysfsTheorems

namespace WolfUsb

open WolfUsb.Lib KernelUsbip

variable {W : Type}

/-! ## The entry -/

/-- The two lookups of the task found an entry and read it. -/
theorem Bridge.exportInfo_ok {before after : Sysfs} {target : DeviceId}
    {info : KernelUsbip.DeviceInfo} (h : exportInfo before after target = .ok info) :
    ∃ path, portPathForAddress before target.busNumber target.address = .ok path ∧
      DeviceInfo.fromSysfs after (sysfsBusid target.busNumber path) = .ok info := by
  rw [exportInfo] at h
  split at h
  · cases h
  · rename_i busid hbusid
    rw [exportBusid] at hbusid
    split at hbusid
    · rename_i path hpath
      obtain rfl := Except.ok.inj hbusid
      split at h
      · rename_i info' hinfo
        obtain rfl := Except.ok.inj h
        exact ⟨path, hpath, hinfo⟩
      · cases h
    · cases hbusid

/-- The numbers and the speed are those in the entry's files. -/
theorem KernelUsbip.DeviceInfo.fromSysfs_numbers {sysfs : Sysfs} {busid : String}
    {info : KernelUsbip.DeviceInfo} (h : fromSysfs sysfs busid = .ok info) :
    sysfs.readSysfsU32 busid "busnum" = some info.busNum ∧
      sysfs.readSysfsU32 busid "devnum" = some info.devNum ∧
      ∃ text, sysfs.readSysfsString busid "speed" = some text ∧ info.speed = speedValue text := by
  have number : ∀ {file : String} {n : UInt32}, sysfs.dec busid file = .ok n →
      sysfs.readSysfsU32 busid file = some n := by
    intro file n hdec
    rw [Sysfs.dec] at hdec
    split at hdec
    · cases hdec
    · rename_i hread
      rw [hread, Except.ok.inj hdec]
  obtain ⟨speed, hspeed, h⟩ := bind_eq_ok h
  obtain ⟨busNum, hbus, h⟩ := bind_eq_ok h
  obtain ⟨devNum, hdev, h⟩ := bind_eq_ok h
  obtain ⟨vendorId, -, h⟩ := bind_eq_ok h
  obtain ⟨productId, -, h⟩ := bind_eq_ok h
  obtain ⟨deviceClass, -, h⟩ := bind_eq_ok h
  obtain ⟨deviceSubclass, -, h⟩ := bind_eq_ok h
  obtain ⟨deviceProtocol, -, h⟩ := bind_eq_ok h
  obtain ⟨configurationValue, -, h⟩ := bind_eq_ok h
  obtain ⟨numConfigurations, -, h⟩ := bind_eq_ok h
  obtain ⟨numInterfaces, -, h⟩ := bind_eq_ok h
  obtain rfl := Except.ok.inj h
  refine ⟨number hbus, number hdev, ?_⟩
  rw [Sysfs.speed] at hspeed
  split at hspeed
  · cases hspeed
  · rename_i text htext
    exact ⟨text, htext, (Except.ok.inj hspeed).symm⟩

/-- The values of the kernel fit the byte the client keeps. -/
theorem KernelUsbip.speedValue_lt (text : String) : (speedValue text).toNat < 2 ^ 8 := by
  unfold speedValue
  split <;> decide

/-! ## What the bridge task makes of it -/

section Sourced

variable (before after : Sysfs) (target : DeviceId)

/-- What the task has read, and what its reply is made of, is the entry of
the target. A task that could not read it is over. -/
structure Bridging.Sourced (g : Bridging) : Prop where
  info : ∀ info, g.info = some info →
    Bridge.exportInfo before after target = .ok info ∨ ∃ r, g.task = .done r
  reply : g.reply ≠ [] → ∃ info, Bridge.exportInfo before after target = .ok info ∧
    g.reply = Bridge.importReply info

/-- What sysfs shows the task: `before` at the lookup and `after` at
`from_sysfs`. -/
structure ServerEnv.Shows (env : ServerEnv W) : Prop where
  pathFound : env.bridge.pathFound = (Bridge.exportBusid before target).isOk
  infoRead : env.bridge.infoRead = (Bridge.exportInfo before after target).isOk
  info : ∀ info, Bridge.exportInfo before after target = .ok info → env.info = info

end Sourced

section

variable {before after : Sysfs} {target : DeviceId}

theorem Bridging.sourced_start : Bridging.Sourced before after target { task := .lookup } where
  info info h := by cases h
  reply h := absurd rfl h

/-- The task goes on; a task that is over stays so. -/
theorem Bridging.Sourced.goOn {g : Bridging} (h : g.Sourced before after target)
    (env : ServerEnv W) :
    Sourced before after target
      { g with task := (Bridge.step env.bridge g.task env.device).1 } where
  info info hinfo := by
    rcases h.info info hinfo with hread | ⟨r, hdone⟩
    · exact Or.inl hread
    · refine Or.inr ⟨r, ?_⟩
      simp only [hdone, Bridge.step]
  reply := h.reply

theorem Bridging.Sourced.requestRead {g g' : Bridging} (h : g.Sourced before after target)
    (htask : g.task = .readRequest) {task : Bridge.Pc}
    (hop : ServerPc.requestRead g task = some g') : g'.Sourced before after target := by
  have hread : ∀ info, g.info = some info → Bridge.exportInfo before after target = .ok info := by
    intro info hinfo
    rcases h.info info hinfo with hread | ⟨r, hdone⟩
    · exact hread
    · cases htask.symm.trans hdone
  unfold ServerPc.requestRead at hop
  split at hop
  · obtain ⟨info, hinfo, rfl⟩ := Option.map_eq_some_iff.mp hop
    constructor
    · intro info' hinfo'
      exact Or.inl (hread info' hinfo')
    · intro _
      exact ⟨info, hread info hinfo, rfl⟩
  · obtain rfl := Option.some.inj hop
    constructor
    · intro info' hinfo'
      exact Or.inl (hread info' hinfo')
    · exact h.reply

/-- **One operation of the task** keeps to the entry it is shown. -/
theorem Bridging.Sourced.operate {env : ServerEnv W} {g g' : Bridging}
    (h : g.Sourced before after target) (henv : env.Shows before after target)
    (hop : ServerPc.operate env g = some g') : g'.Sourced before after target := by
  unfold ServerPc.operate at hop
  split at hop
  · obtain rfl := Option.some.inj hop
    constructor
    · intro info hinfo
      obtain rfl := Option.some.inj hinfo
      cases hread : Bridge.exportInfo before after target with
      | ok info => exact Or.inl (by rw [henv.info info hread])
      | error e =>
          have hnot : env.bridge.infoRead = false := by simp [henv.infoRead, hread]; rfl
          exact Or.inr ⟨.error .noDeviceInfo, by simp [Bridge.step, hnot]⟩
    · exact h.reply
  · rename_i htask
    split at hop
    · obtain rfl := Option.some.inj hop
      have hgo := h.goOn env
      rwa [htask] at hgo
    · split at hop
      · exact h.requestRead htask hop
      · cases hop
  · rename_i htask
    split at hop
    · cases hop
    · obtain rfl := Option.some.inj hop
      have hgo := h.goOn env
      rwa [htask] at hgo
  · obtain rfl := Option.some.inj hop
    exact h.goOn env

end

/-! ## The target -/

/-- The device of a hand-off that is under way. -/
def ServerPc.handedTo : ServerPc → Option DeviceId
  | .replying _ _ target => target
  | .switching _ target => some target
  | _ => none

namespace Switchover

/-- The server has sent BridgeAccepted for this device. -/
def Target (s : Switchover) (target : DeviceId) : Prop :=
  ∃ r : BridgeAcceptedResponse, .bridgeAccepted r ∈ s.replies ∧ r.deviceId = target

/-- The connection is handed off for the device the client asked for, and
for no other. -/
structure Aimed (bus addr : UInt8) (s : Switchover) : Prop where
  target : ∀ t, s.Target t → t = ⟨bus, addr⟩
  handedTo : ∀ t, s.server.handedTo = some t → s.Target t
  bridging : ∀ g, s.server = .bridging g → s.Target ⟨bus, addr⟩

variable {p : Platform W} {debug : Message → String} {b : Bincode} {key : Option Bytes}
  {authNonce : Vector UInt8 32} {bus addr : UInt8} {s s' : Switchover}

theorem aimed_start (peerAddr : SocketAddr) (sharedKey : Option Bytes) :
    (start peerAddr sharedKey).Aimed bus addr where
  target t h := by
    obtain ⟨r, hr, -⟩ := h
    cases hr
  handedTo t h := by cases h
  bridging g h := by cases h

/-- What the server has not sent changes nothing. -/
theorem Aimed.same (h : s.Aimed bus addr) (hreplies : s'.replies = s.replies)
    (hhanded : ∀ t, s'.server.handedTo = some t → s.server.handedTo = some t)
    (hbridging : ∀ g, s'.server = .bridging g → s.Target ⟨bus, addr⟩) : s'.Aimed bus addr := by
  have htarget : ∀ t, s'.Target t ↔ s.Target t := by
    intro t
    rw [Target, Target, hreplies]
  constructor
  · intro t ht
    exact h.target t ((htarget t).mp ht)
  · intro t ht
    exact (htarget t).mpr (h.handedTo t (hhanded t ht))
  · intro g hg
    exact (htarget _).mpr (hbridging g hg)

/-- The next place of the server. A message it decodes is one the client
sent, so a target is the client's. -/
theorem Aimed.advance (h : s.Aimed bus addr) (hinv : s.Inv p b key authNonce bus addr)
    {env : ServerEnv W} {server : ServerPc} {reply : Option Message}
    (hadv : s.server.advance p b env = some (some (server, reply))) :
    ({ s with server, replies := s.replies ++ reply.toList } : Switchover).Aimed bus addr := by
  obtain ⟨client, clientLive, pc, serverLive, up, down, replies⟩ := s
  cases pc with
  | serving conn f =>
      simp only [ServerPc.advance] at hadv
      split at hadv
      · cases hadv
      · cases hadv
      · rename_i m rest hdec
        cases hm : conn.handleMessage p env.join m env.shared with
        | mk action r =>
        obtain ⟨conn', sh'⟩ := r
        rw [hm] at hadv
        split at hadv
        · cases hadv
        · cases hadv
          cases action with
          | reply r =>
              refine ⟨?_, fun t ht => (by cases ht), fun g hg => by cases hg⟩
              rintro t ⟨resp, hresp, rfl⟩
              rcases List.mem_append.mp hresp with hold | hnew
              · exact h.target _ ⟨resp, hold, rfl⟩
              · exact absurd (List.mem_singleton.mp hnew).symm
                  (Connection.reply_ne_bridgeAccepted hm resp)
          | bridge r target =>
              obtain ⟨rfl, -, device, -, -, rfl⟩ := Connection.handleMessage_bridge p hm
              obtain ⟨tail, hdrop, -, -⟩ := hinv.up.item (hinv.clientRaw_nil rfl) rfl hdec
              have hmem := clientItems_mem (List.mem_of_mem_drop (hdrop ▸ List.mem_cons_self))
              have htarget : target = ⟨bus, addr⟩ := by
                rcases hmem with hhello | hbridge
                · cases hhello
                · exact congrArg BridgeRequest.deviceId (Message.bridge.inj hbridge)
              subst htarget
              refine ⟨?_, ?_, fun g hg => by cases hg⟩
              · rintro t ⟨resp, hresp, rfl⟩
                rcases List.mem_append.mp hresp with hold | hnew
                · exact h.target _ ⟨resp, hold, rfl⟩
                · cases List.mem_singleton.mp hnew
                  rfl
              · intro t ht
                obtain rfl := Option.some.inj ht
                exact ⟨_, List.mem_append_right _ List.mem_cons_self, rfl⟩
  | replying conn f target =>
      simp only [ServerPc.advance] at hadv
      split at hadv
      · cases target with
        | none =>
            cases hadv
            exact h.same (List.append_nil _) (fun t ht => by cases ht) (fun g hg => by cases hg)
        | some target =>
            cases hadv
            exact h.same (List.append_nil _) (fun t ht => ht) (fun g hg => by cases hg)
      · cases hadv
  | switching f target =>
      cases hadv
      have ht := h.handedTo target rfl
      refine h.same (List.append_nil _) (fun t ht => by cases ht) (fun g _ => ?_)
      rwa [h.target target ht] at ht
  | bridging g =>
      obtain ⟨g', -, heq⟩ := Option.map_eq_some_iff.mp hadv
      cases heq
      exact h.same (List.append_nil _) (fun t ht => by cases ht) (fun _ _ => h.bridging g rfl)

end Switchover

/-! ## Reads and writes -/

/-- The socket has moved, but not the task. -/
structure ServerPc.Moved (pc pc' : ServerPc) : Prop where
  handedTo : pc'.handedTo = pc.handedTo
  bridging : ∀ g', pc' = .bridging g' →
    ∃ g, pc = .bridging g ∧ g'.task = g.task ∧ g'.info = g.info ∧ g'.reply = g.reply

namespace ServerPc

variable {b : Bincode} {pc pc' : ServerPc}

theorem moved_receive {chunk : Bytes} (h : pc.receive b chunk = some pc') : pc.Moved pc' := by
  cases pc with
  | serving conn f =>
      simp only [receive] at h
      split at h
      · obtain rfl := Option.some.inj h
        exact ⟨rfl, fun g' hg => by cases hg⟩
      · cases h
  | bridging g =>
      simp only [receive] at h
      split at h
      · split at h
        · cases h
          refine ⟨rfl, fun g' hg => ?_⟩
          cases hg
          exact ⟨g, rfl, rfl, rfl, rfl⟩
        · cases h
      · cases h
        refine ⟨rfl, fun g' hg => ?_⟩
        cases hg
        exact ⟨g, rfl, rfl, rfl, rfl⟩
      · cases h
  | _ => cases h

theorem moved_write {n : Nat} {bytes : Bytes} (h : pc.write n = some (bytes, pc')) :
    pc.Moved pc' := by
  cases pc with
  | replying conn f target =>
      cases h
      exact ⟨rfl, fun g' hg => by cases hg⟩
  | bridging g =>
      simp only [write] at h
      split at h
      · cases h
        refine ⟨rfl, fun g' hg => ?_⟩
        cases hg
        exact ⟨g, rfl, rfl, rfl, rfl⟩
      · cases h
  | _ => cases h

theorem moved_kernelSend {bytes : Bytes} (h : pc.kernelSend bytes = some pc') :
    pc.Moved pc' := by
  cases pc with
  | bridging g =>
      simp only [kernelSend] at h
      split at h
      · obtain rfl := Option.some.inj h
        refine ⟨rfl, fun g' hg => ?_⟩
        cases hg
        exact ⟨g, rfl, rfl, rfl, rfl⟩
      · cases h
  | _ => cases h

end ServerPc

/-! ## Runs -/

namespace Switchover

section

variable (before after : Sysfs) (bus addr : UInt8)

/-- The bridge task reads the two directories. -/
def ReadsSysfs (s : Switchover) : SwitchEvent W → Prop
  | .server env => ∀ target, s.Target target → env.Shows before after target
  | _ => True

/-- The hand-off is for the device the client asked for, and what the
bridge task has of it is its entry's. -/
structure Tracked (s : Switchover) : Prop where
  aimed : s.Aimed bus addr
  sourced : ∀ g, s.server = .bridging g → g.Sourced before after ⟨bus, addr⟩

end

variable {p : Platform W} {debug : Message → String} {b : Bincode} {key : Option Bytes}
  {authNonce : Vector UInt8 32} {bus addr : UInt8} {before after : Sysfs} {s s' : Switchover}

theorem tracked_start (peerAddr : SocketAddr) (sharedKey : Option Bytes) :
    (start peerAddr sharedKey).Tracked before after bus addr where
  aimed := aimed_start peerAddr sharedKey
  sourced g h := by cases h

/-- A step leaves the task where it is, or is one of the server to its next
place. -/
theorem step_server {e : SwitchEvent W}
    (hstep : s.step p debug b key authNonce bus addr e = some s') :
    (s'.replies = s.replies ∧ s.server.Moved s'.server) ∨
      ∃ env server reply, e = .server env ∧
        s.server.advance p b env = some (some (server, reply)) ∧
        s' = { s with server, replies := s.replies ++ reply.toList } := by
  have hstays : s.server.Moved s.server := ⟨rfl, fun g hg => ⟨g, hg, rfl, rfl, rfl⟩⟩
  rcases step_cases hstep with ⟨-, hclient⟩ | ⟨-, hserver⟩
  · obtain ⟨hsame, -, hreplies⟩ := clientStep_keeps hclient
    refine Or.inl ⟨hreplies, ?_⟩
    rw [hsame]
    exact hstays
  · cases e with
    | server env =>
        obtain ⟨r, hadv, rfl⟩ := Option.map_eq_some_iff.mp hserver
        cases r with
        | none => exact Or.inl ⟨rfl, hstays⟩
        | some r => exact Or.inr ⟨env, r.1, r.2, rfl, hadv, rfl⟩
    | serverRead n =>
        obtain ⟨server, hread, rfl⟩ := Option.map_eq_some_iff.mp hserver
        exact Or.inl ⟨rfl, ServerPc.moved_receive hread⟩
    | serverWrite n =>
        obtain ⟨⟨bytes, server⟩, hwrite, rfl⟩ := Option.map_eq_some_iff.mp hserver
        exact Or.inl ⟨rfl, ServerPc.moved_write hwrite⟩
    | serverKernel bytes =>
        obtain ⟨server, hsend, rfl⟩ := Option.map_eq_some_iff.mp hserver
        exact Or.inl ⟨rfl, ServerPc.moved_kernelSend hsend⟩
    | serverFails =>
        obtain rfl := Option.some.inj hserver
        exact Or.inl ⟨rfl, hstays⟩
    | _ => cases hserver

/-- **The target is the client's** after every step of either side. -/
theorem Aimed.step (h : s.Aimed bus addr) (hinv : s.Inv p b key authNonce bus addr)
    {e : SwitchEvent W} (hstep : s.step p debug b key authNonce bus addr e = some s') :
    s'.Aimed bus addr := by
  rcases step_server hstep with ⟨hreplies, hmoved⟩ | ⟨env, server, reply, -, hadv, rfl⟩
  · refine h.same hreplies (fun t ht => ?_) fun g' hg' => ?_
    · rwa [hmoved.handedTo] at ht
    · obtain ⟨g, hg, -⟩ := hmoved.bridging g' hg'
      exact h.bridging g hg
  · exact h.advance hinv hadv

/-- The server's next place, with the task that begins there or goes on. -/
theorem sourced_advance (haimed : s.Aimed bus addr)
    (hsourced : ∀ g, s.server = .bridging g → g.Sourced before after ⟨bus, addr⟩)
    {env : ServerEnv W} {g' : Bridging} {reply : Option Message}
    (hreads : s.ReadsSysfs before after (.server env))
    (hadv : s.server.advance p b env = some (some (.bridging g', reply))) :
    g'.Sourced before after ⟨bus, addr⟩ := by
  cases hpc : s.server with
  | serving conn f =>
      rw [hpc] at hadv
      simp only [ServerPc.advance] at hadv
      split at hadv
      · cases hadv
      · cases hadv
      · split at hadv <;> cases hadv
  | replying conn f target =>
      rw [hpc] at hadv
      simp only [ServerPc.advance] at hadv
      split at hadv
      · cases target <;> cases hadv
      · cases hadv
  | switching f target =>
      rw [hpc] at hadv
      cases hadv
      exact Bridging.sourced_start
  | bridging g =>
      rw [hpc] at hadv
      obtain ⟨g₁, hop, heq⟩ := Option.map_eq_some_iff.mp hadv
      cases heq
      exact (hsourced g hpc).operate (hreads _ (haimed.bridging g hpc)) hop

/-- **One step**, of either side, when the task reads the directories. -/
theorem Tracked.step (h : s.Tracked before after bus addr)
    (hinv : s.Inv p b key authNonce bus addr) {e : SwitchEvent W}
    (hreads : s.ReadsSysfs before after e)
    (hstep : s.step p debug b key authNonce bus addr e = some s') :
    s'.Tracked before after bus addr := by
  refine ⟨h.aimed.step hinv hstep, fun g' hg' => ?_⟩
  rcases step_server hstep with ⟨-, hmoved⟩ | ⟨env, server, reply, rfl, hadv, rfl⟩
  · obtain ⟨g, hg, htask, hinfo, hreply⟩ := hmoved.bridging g' hg'
    have hsourced := h.sourced g hg
    constructor
    · rw [hinfo, htask]
      exact hsourced.info
    · rw [hreply]
      exact hsourced.reply
  · obtain rfl : server = .bridging g' := hg'
    exact sourced_advance h.aimed h.sourced hreads hadv

/-- The reply the client has read is made of the entry. -/
theorem Tracked.reply (h : s.Tracked before after bus addr)
    (hinv : s.Inv p b key authNonce bus addr) {rep : Bytes} (hrep : s.client.reply = some rep) :
    ∃ info, Bridge.exportInfo before after ⟨bus, addr⟩ = .ok info ∧
      rep = Bridge.importReply info := by
  obtain ⟨hlen, g, hg, hreply⟩ := hinv.seamless.reply rep hrep
  have hne : g.reply ≠ [] := by
    intro hnil
    rw [← hreply, hnil] at hlen
    cases hlen
  obtain ⟨info, hinfo, hmade⟩ := (h.sourced g hg).reply hne
  exact ⟨info, hinfo, hreply.symm.trans hmade⟩

end Switchover

/-! ## What is attached -/

/-- What `op_req_import` has returned: the device behind the 8 bytes of the
header. -/
def ClientPc.imported (pc : ClientPc) : Option Mount.ImportReply :=
  pc.reply.map fun rep => Mount.parseDevice (rep.drop 8)

/-- `attach` writes the socket, the device and the speed it is given. -/
theorem Mount.attachReply_request {reply : ImportReply} {v : Vhci.View} {modprobe : Vhci.Modprobe}
    {fd : Int32} {written : Except Vhci.IoError Unit} {i : Nat} {req : Vhci.AttachRequest}
    (h : (attachReply reply v modprobe fd written).1 = some (i, req)) :
    req.sockfd = fd ∧ req.devid = reply.devid ∧ req.speed = speedOf reply.speed := by
  have h : (Vhci.attach v modprobe fd reply.devid (speedOf reply.speed) written).1
    = some (i, req) := h
  unfold Vhci.attach at h
  split at h
  · cases h
  · split at h
    · cases h
    · cases h
      exact ⟨rfl, rfl, rfl⟩

/-- The reply is of the entry that `before` has for the bus and the
address, with the numbers, the speed and the ids that `after` has for it. -/
structure Mount.ImportReply.Of (reply : Mount.ImportReply) (before after : Sysfs)
    (bus addr : UInt8) (path : String) : Prop where
  found : portPathForAddress before bus addr = .ok path
  read : ∃ info, DeviceInfo.fromSysfs after (sysfsBusid bus path) = .ok info ∧
    reply.vendorId = info.vendorId ∧ reply.productId = info.productId ∧
    reply.devid = info.busNum <<< 16 ||| info.devNum &&& 0xffff
  speed : ∃ text, after.readSysfsString (sysfsBusid bus path) "speed" = some text ∧
    reply.speed.toUInt32 = speedValue text
  /-- The device has not been replugged between the two reads. -/
  devid : after.hasAddress (sysfsBusid bus path) bus addr = true →
    reply.devid.toNat = bus.toNat * 2 ^ 16 + addr.toNat

theorem Mount.importReply_of {before after : Sysfs} {bus addr : UInt8}
    {info : KernelUsbip.DeviceInfo}
    (h : Bridge.exportInfo before after ⟨bus, addr⟩ = .ok info) :
    ∃ path, ImportReply.Of (parseDevice info.toWireBytes) before after bus addr path := by
  obtain ⟨path, hpath, hinfo⟩ := Bridge.exportInfo_ok h
  obtain ⟨hbus, hdev, text, htext, hspeed⟩ := DeviceInfo.fromSysfs_numbers hinfo
  rw [parseDevice_toWireBytes]
  refine ⟨path, hpath, ⟨info, hinfo, rfl, rfl, rfl⟩, ⟨text, htext, ?_⟩, fun haddr => ?_⟩
  · refine UInt32.toNat_inj.mp ?_
    rw [UInt8.toNat_toUInt32, UInt32.toNat_toUInt8, hspeed]
    exact Nat.mod_eq_of_lt (speedValue_lt text)
  · obtain ⟨hbusNum, hdevNum⟩ : info.busNum = bus.toUInt32 ∧ info.devNum = addr.toUInt32 := by
      simpa [Sysfs.hasAddress, hbus, hdev] using haddr
    have hsmall : ∀ n : UInt8, n.toUInt32.toNat < 2 ^ 16 := by
      intro n
      have := n.toNat_lt
      rw [UInt8.toNat_toUInt32]
      omega
    have hpacked := toNat_devid (hsmall bus) (hsmall addr)
    rw [UInt8.toNat_toUInt32, UInt8.toNat_toUInt32] at hpacked
    show (info.busNum <<< 16 ||| info.devNum &&& 0xffff).toNat = _
    rw [hbusNum, hdevNum, hpacked]

/-- **The device that is mounted is the one asked for.** In every run of
`cmd_mount` for a bus and an address, in which the server's bridge task
reads two directories of sysfs, what `op_req_import` returns and what is
written to the vhci port are those of the entry found for that bus and
address. -/
theorem mounted_device_is_requested (p : Platform W) (debug : Message → String) (b : Bincode)
    (hb : b.RoundTrips) (hc : b.Compact) (htags : ShortTags p) (key sharedKey : Option Bytes)
    (authNonce : Vector UInt8 32) (bus addr : UInt8) (peerAddr : SocketAddr)
    (before after : Sysfs) {es : List (SwitchEvent W)} {s : Switchover}
    (hrun : Run (Guarded fun s e => Switchover.step p debug b key authNonce bus addr s e)
      (.start peerAddr sharedKey) es s)
    (hreads : StepsAlong (Guarded fun s e => Switchover.step p debug b key authNonce bus addr s e)
      (Switchover.ReadsSysfs before after) (.start peerAddr sharedKey) es)
    {reply : Mount.ImportReply} (hreply : s.client.imported = some reply) :
    ∃ path, reply.Of before after bus addr path ∧
      ∀ (v : Vhci.View) (modprobe : Vhci.Modprobe) (fd : Int32)
        (written : Except Vhci.IoError Unit) (i : Nat) (req : Vhci.AttachRequest),
        (Mount.attachReply reply v modprobe fd written).1 = some (i, req) →
          req.sockfd = fd ∧ req.devid = reply.devid ∧ req.speed = Mount.speedOf reply.speed := by
  have htracked : s.Inv p b key authNonce bus addr ∧ s.Tracked before after bus addr := by
    refine hrun.preserves_along (I := fun s : Switchover => s.Inv p b key authNonce bus addr ∧
      s.Tracked before after bus addr) ?_ hreads ?_
    · intro s e s' h hreads hstep
      exact ⟨h.1.step hb hc htags hstep, h.2.step h.1 hreads hstep⟩
    · exact ⟨Switchover.inv_start p b key authNonce bus addr peerAddr sharedKey,
        Switchover.tracked_start peerAddr sharedKey⟩
  obtain ⟨hinv, htracked⟩ := htracked
  obtain ⟨rep, hrep, rfl⟩ := Option.map_eq_some_iff.mp hreply
  obtain ⟨info, hinfo, rfl⟩ := htracked.reply hinv hrep
  have hdevice : (Bridge.importReply info).drop 8 = info.toWireBytes :=
    List.drop_left' (by rfl)
  rw [hdevice]
  obtain ⟨path, hof⟩ := Mount.importReply_of hinfo
  exact ⟨path, hof, fun _ _ _ _ _ _ => Mount.attachReply_request⟩

/-- The directory of the exported camera. -/
def cameraDir : Sysfs := deviceDir exportedCamera "480"

theorem exportInfo_camera :
    Bridge.exportInfo cameraDir cameraDir ⟨1, 2⟩ = .ok exportedCamera := by
  decide +kernel

/-- A server's step that is shown the camera. -/
def showsCamera : SwitchEvent Nat → Bool
  | .server env =>
      env.bridge.pathFound && env.bridge.infoRead && decide (env.info = exportedCamera)
  | _ => true

theorem shows_of_showsCamera {env : ServerEnv Nat} (h : showsCamera (.server env) = true) :
    env.Shows cameraDir cameraDir ⟨1, 2⟩ := by
  obtain ⟨⟨hpath, hinfo⟩, hcamera⟩ : (env.bridge.pathFound = true ∧ env.bridge.infoRead = true) ∧
      env.info = exportedCamera := by
    simpa [showsCamera] using h
  have hbusid : Bridge.exportBusid cameraDir ⟨1, 2⟩ = .ok exportedCamera.busid :=
    Bridge.exportInfo_busid exportInfo_camera
  constructor
  · rw [hpath, hbusid]
    rfl
  · rw [hinfo, exportInfo_camera]
    rfl
  · intro info hread
    rw [exportInfo_camera] at hread
    rw [hcamera, Except.ok.inj hread]

/-- The whole run of the mode switch reads the camera's directory. -/
theorem onceThrough_reads : StepsAlong (Guarded fun s e => Switchover.step twoDeviceHost
      (fun _ => "") .standard none (.replicate 32 0) 1 2 s e)
    (Switchover.ReadsSysfs cameraDir cameraDir) (.start ⟨"10.0.0.1", 4000⟩ none) onceThrough := by
  have hshows : ∀ e ∈ onceThrough, showsCamera e = true :=
    List.all_eq_true.mp (by decide +kernel)
  have haimed : StatesAlong (Guarded fun s e => Switchover.step twoDeviceHost
        (fun _ => "") .standard none (.replicate 32 0) 1 2 s e)
      (fun s => s.Inv twoDeviceHost .standard none (.replicate 32 0) 1 2 ∧ s.Aimed 1 2)
      (.start ⟨"10.0.0.1", 4000⟩ none) onceThrough := by
    refine statesAlong_of_stepsAlong (C := fun _ e => showsCamera e = true) ?_ ?_
      (.of_forall hshows)
    · intro s e s' h _ hstep
      exact ⟨h.1.step Bincode.standard_roundTrips Bincode.standard_compact
        (fun _ _ => Nat.zero_le _) hstep, h.2.step h.1 hstep⟩
    · exact ⟨Switchover.inv_start twoDeviceHost .standard none (.replicate 32 0) 1 2
        ⟨"10.0.0.1", 4000⟩ none, Switchover.aimed_start ⟨"10.0.0.1", 4000⟩ none⟩
  refine ((StepsAlong.of_forall hshows).and_states haimed).mono ?_
  rintro s e ⟨hshows, -, haimed⟩
  cases e with
  | server env =>
      intro target htarget
      obtain rfl := haimed.target target htarget
      exact shows_of_showsCamera hshows
  | _ => trivial

/-- The camera of bus 1, address 2. -/
theorem mounted_device_is_requested_camera :
    ∃ (s : Switchover) (reply : Mount.ImportReply) (path : String),
      Run (Guarded fun s e => Switchover.step twoDeviceHost (fun _ => "") .standard none
        (.replicate 32 0) 1 2 s e) (.start ⟨"10.0.0.1", 4000⟩ none) onceThrough s ∧
      s.client.imported = some reply ∧ reply.devid = 0x10002 ∧
      reply.Of cameraDir cameraDir 1 2 path := by
  have hplay : (play (fun s e => Switchover.step twoDeviceHost (fun _ => "") .standard none
      (.replicate 32 0) 1 2 s e) (.start ⟨"10.0.0.1", 4000⟩ none) onceThrough).map
        (fun s => s.client.imported) = some (some ⟨0x10002, 3, 0x46d, 0xc52b⟩) := by
    decide +kernel
  obtain ⟨s, hs, himported⟩ := Option.map_eq_some_iff.mp hplay
  have hrun := play_iff_run.mp hs
  obtain ⟨path, hof, -⟩ := mounted_device_is_requested twoDeviceHost (fun _ => "") .standard
    Bincode.standard_roundTrips Bincode.standard_compact (fun _ _ => Nat.zero_le _) none none
    (.replicate 32 0) 1 2 ⟨"10.0.0.1", 4000⟩ cameraDir cameraDir hrun onceThrough_reads himported
  exact ⟨s, _, path, hrun, himported, rfl, hof⟩

end WolfUsb
