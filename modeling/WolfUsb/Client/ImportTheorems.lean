/-
WolfUsb.Client.ImportTheorems — the busid of OP_REQ_IMPORT against that
of OP_REP_IMPORT.

The client sends the busid of BridgeAccepted, which `handle_bridge` makes
from libusb's view of the device: bus, address and port number, with a dash
between each two. The server exports and reports the name of the device in
sysfs, which the kernel makes from the bus and the port path, with one
dash. The number of dashes survives the padding of the wire fields, so the
two never agree (`import_busids_never_agree`); nothing notices, since the
server does not compare them.
-/
import WolfUsb.Client.Mount
import WolfUsb.Server.BridgeTheorems
import WolfUsb.Server.ConnectionTheorems
import WolfUsb.Server.Import

namespace WolfUsb

open Lib KernelUsbip

/-! ## Counting dashes -/

/-- The name the kernel gives the device at the end of a port path:
`<bus>-<port>[.<port>]*`. -/
def kernelName (bus : Nat) (ports : List Nat) : String :=
  toString bus ++ "-" ++ ".".intercalate (ports.map fun port => toString port)

theorem count_dash_portPath (ports : List Nat) :
    (".".intercalate (ports.map fun port => toString port)).toList.count '-' = 0 := by
  induction ports with
  | nil => rfl
  | cons port rest ih =>
      have hport : (toString port).toList.count '-' = 0 := count_toString rfl port
      cases rest with
      | nil => simpa using hport
      | cons next rest =>
          rw [List.map_cons, List.map_cons, String.intercalate_cons_cons, ← List.map_cons]
          simp only [String.toList_append, List.count_append, hport, ih]
          rfl

theorem count_dash_kernelName (bus : Nat) (ports : List Nat) :
    (kernelName bus ports).toList.count '-' = 1 := by
  have hbus : (toString bus).toList.count '-' = 0 := count_toString rfl bus
  simp only [kernelName, String.toList_append, List.count_append, hbus, count_dash_portPath]
  rfl

theorem count_dash_bridgeBusid (device : UsbDevice) :
    (Connection.bridgeBusid device).toList.count '-' = 2 := by
  have hnum (n : UInt8) : (toString n).toList.count '-' = 0 := count_toString rfl n.toNat
  simp only [Connection.bridgeBusid, String.toList_append, List.count_append, hnum]
  rfl

theorem count_dash_asBytes (s : String) : (asBytes s).count 0x2d = s.toList.count '-' :=
  count_asBytes (c := '-') (by decide) s

/-! ## The two messages -/

/-- The entries of the directory that are neither interfaces nor root hubs
are devices under their kernel names. -/
def KernelUsbip.Sysfs.KernelNamed (sysfs : Sysfs) : Prop :=
  ∀ entries, sysfs.entries = .ok entries → ∀ name, some name ∈ entries →
    isDeviceName name = true → ∃ bus ports, name = kernelName bus ports

namespace Bridge

theorem exportBusid_dashes {sysfs : Sysfs} {target : DeviceId} {busid : String}
    (hnames : sysfs.KernelNamed) (h : exportBusid sysfs target = .ok busid) :
    busid.toList.count '-' = 1 := by
  rw [exportBusid, portPathForAddress] at h
  split at h
  · rename_i path hpath
    obtain rfl := Except.ok.inj h
    split at hpath
    · cases hpath
    · rename_i entries hentries
      split at hpath
      · rename_i found hfound
        obtain rfl := Except.ok.inj hpath
        obtain ⟨hmem, hname, -⟩ := Sysfs.findPortPath_sound hfound
        obtain ⟨bus, ports, hkernel⟩ := hnames entries hentries _ hmem hname
        rw [hkernel]
        exact count_dash_kernelName bus ports
      · cases hpath
  · cases h

theorem exportInfo_busid {before after : Sysfs} {target : DeviceId}
    {info : KernelUsbip.DeviceInfo} (h : exportInfo before after target = .ok info) :
    exportBusid before target = .ok info.busid := by
  rw [exportInfo] at h
  split at h
  · cases h
  · rename_i busid hbusid
    split at h
    · rename_i info' hinfo
      obtain rfl := Except.ok.inj h
      rw [hbusid, DeviceInfo.fromSysfs_busid hinfo]
    · cases h

theorem requestedBusid_importRequest {busid : String} {request : List UInt8}
    (h : Mount.importRequest busid = .ok request) :
    requestedBusid request = padded 32 (asBytes busid) ∧ (asBytes busid).length < 32 := by
  rw [Mount.importRequest] at h
  split at h
  · cases h
  · rename_i hlen
    obtain rfl := Except.ok.inj h
    have hhead : (be16 Mount.usbipVersion ++ be16 Mount.opReqImport ++ be32 0).length = 8 := rfl
    rw [requestedBusid, List.drop_left' hhead]
    exact ⟨List.take_of_length_le (by simp), by omega⟩

theorem reportedBusid_importReply (info : KernelUsbip.DeviceInfo) :
    reportedBusid (importReply info) = padded 32 (asBytes info.busid) := by
  have hhead (path : List UInt8) :
      (be16 usbipVersion ++ be16 opRepImport ++ be32 0 ++ padded 256 path).length = 8 + 256 := by
    simp
  simp only [reportedBusid, importReply, DeviceInfo.toWireBytes, List.append_assoc]
  simp only [← List.append_assoc (be32 0), ← List.append_assoc (be16 _)]
  rw [List.drop_left' (hhead _), List.take_left' (padded_length _ _)]

/-- A task that has sent OP_REP_IMPORT has read the info. -/
theorem infoRead_of_sent {env : BridgeEnv} {init d : SysfsDevice} {events : List Event}
    (hrun : Run (Guarded (alone env)) (.lookup, init) events (.flush, d)) :
    env.infoRead = true := by
  have hinv : Inv env init .flush d :=
    hrun.preserves (I := fun s : Pc × SysfsDevice => Inv env init s.1 s.2)
      (fun _ _ _ h hstep => inv_alone h hstep) (inv_start env init)
  exact hinv.1.2.1

/-! ## Imports -/

/-- An import up to OP_REP_IMPORT: the server's answer to the Bridge
request, the client's OP_REQ_IMPORT made from it, and a run of the bridge
task up to the reply. -/
structure Import {W : Type} (p : Platform W) where
  target : DeviceId
  join : Option String
  conn : Connection
  shared : Shared W
  debug : Message → String
  /-- The busid the client asks for. -/
  busid : String
  request : Vector UInt8 40
  /-- The directory at the lookup. -/
  before : Sysfs
  /-- The directory at `from_sysfs`. -/
  after : Sysfs
  env : BridgeEnv
  init : SysfsDevice
  device : SysfsDevice
  events : List Event
  accepted : ∃ answer conn' shared',
    conn.handleMessage p join (Mount.bridgeRequest target.busNumber target.address) shared
      = (.bridge answer target, conn', shared') ∧
    Mount.sendBridge debug (.ok ()) (some (.ok answer)) = .ok busid
  requested : ∃ sent pieces short,
    (Mount.opReqImportExchange busid sent pieces short).1 = request.toList
  sent : Run (Guarded (alone (env.reading target before after request)))
    (.lookup, init) events (.flush, device)

variable {W : Type} {p : Platform W}

/-- The client asks for a busid of two dashes. -/
theorem Import.busid_dashes (i : Import p) : i.busid.toList.count '-' = 2 := by
  obtain ⟨answer, conn', shared', hbridge, hclient⟩ := i.accepted
  obtain ⟨-, -, device, -, -, rfl⟩ := Connection.handleMessage_bridge p hbridge
  have hbusid : Connection.bridgeBusid device = i.busid := Except.ok.inj hclient
  rw [← hbusid]
  exact count_dash_bridgeBusid device

theorem Import.importRequest_eq (i : Import p) :
    Mount.importRequest i.busid = .ok i.request.toList := by
  obtain ⟨sent, pieces, short, hreq⟩ := i.requested
  refine Mount.importRequest_of_exchange hreq fun hempty => ?_
  have hlen := congrArg List.length hempty
  rw [Vector.length_toList] at hlen
  cases hlen

/-- The task has read the info it reports. -/
theorem Import.exists_info (i : Import p) :
    ∃ info, exportInfo i.before i.after i.target = .ok info := by
  have hread : (exportInfo i.before i.after i.target).isOk = true := infoRead_of_sent i.sent
  cases hinfo : exportInfo i.before i.after i.target with
  | error e =>
      rw [hinfo] at hread
      cases hread
  | ok info => exact ⟨info, rfl⟩

/-- **The two busids never agree.** In every import of a device from a
directory with the kernel's names, the busid the client asks for is not
that of the entry the server exports and reports, nor are the 32 bytes the
same on the wire. -/
theorem import_busids_never_agree (i : Import p) (hnames : i.before.KernelNamed) :
    ∃ info, exportInfo i.before i.after i.target = .ok info ∧
      exportBusid i.before i.target = .ok info.busid ∧ i.busid ≠ info.busid ∧
      requestedBusid i.request.toList ≠ reportedBusid (importReply info) := by
  obtain ⟨info, hinfo⟩ := i.exists_info
  have hexport := exportInfo_busid hinfo
  have hclient := i.busid_dashes
  have hserver := exportBusid_dashes hnames hexport
  refine ⟨info, hinfo, hexport, fun heq => ?_, fun heq => ?_⟩
  · rw [heq, hserver] at hclient
    cases hclient
  · obtain ⟨hfield, hlen⟩ := requestedBusid_importRequest i.importRequest_eq
    rw [hfield, reportedBusid_importReply] at heq
    have htwo : (padded 32 (asBytes i.busid)).count 0x2d = 2 := by
      rw [count_padded (by decide), List.take_of_length_le (by omega), count_dash_asBytes, hclient]
    have hone : (padded 32 (asBytes info.busid)).count 0x2d ≤ 1 := by
      rw [count_padded (by decide), ← hserver, ← count_dash_asBytes]
      exact (List.take_sublist 32 _).count_le _
    rw [← heq, htwo] at hone
    omega

/-! ## A device without a hub -/

/-- The device at bus 1 address 2 on port 1, with its root hub and one
interface. -/
def oneDevice : Sysfs where
  entries := .ok [some "usb1", some "1-1", some "1-1:1.0"]
  attr
    | "1-1", "busnum" => some "1\n"
    | "1-1", "devnum" => some "2\n"
    | "1-1", "speed" => some "480\n"
    | "1-1", "idVendor" => some "046d\n"
    | "1-1", "idProduct" => some "c52b\n"
    | "1-1", "bcdDevice" => some "1.00\n"
    | "1-1", "bDeviceClass" => some "00\n"
    | "1-1", "bDeviceSubClass" => some "00\n"
    | "1-1", "bDeviceProtocol" => some "00\n"
    | "1-1", "bConfigurationValue" => some "1\n"
    | "1-1", "bNumConfigurations" => some "1\n"
    | "1-1", "bNumInterfaces" => some " 1\n"
    | _, _ => none

theorem oneDevice_kernelNamed : oneDevice.KernelNamed := by
  intro entries hentries name hmem hname
  obtain rfl := Except.ok.inj hentries
  simp only [List.mem_cons, Option.some.injEq, List.not_mem_nil, or_false] at hmem
  rcases hmem with rfl | rfl | rfl
  · exact absurd hname (by decide +kernel)
  · exact ⟨1, [1], rfl⟩
  · exact absurd hname (by decide +kernel)

/-- What the client sends for the busid `1-2-1`. -/
def oneDeviceRequest : Vector UInt8 40 :=
  ⟨(be16 Mount.usbipVersion ++ be16 Mount.opReqImport ++ be32 0 ++
    padded 32 (asBytes "1-2-1")).toArray, by decide +kernel⟩

theorem oneDevice_reading : BridgeEnv.reading { request := none } ⟨1, 2⟩ oneDevice oneDevice
    oneDeviceRequest = { request := some oneDeviceRequest } := by
  have hpath : (exportBusid oneDevice ⟨1, 2⟩).isOk = true := by decide +kernel
  have hinfo : (exportInfo oneDevice oneDevice ⟨1, 2⟩).isOk = true := by decide +kernel
  simp [BridgeEnv.reading, hpath, hinfo]

def oneDeviceImport : Import twoDeviceHost where
  target := ⟨1, 2⟩
  join := none
  conn := .new .plain ⟨"10.0.0.1", 4000⟩ none
  shared := ⟨DeviceManager.new, ⟨0, []⟩⟩
  debug := fun _ => ""
  busid := "1-2-1"
  request := oneDeviceRequest
  before := oneDevice
  after := oneDevice
  env := { request := none }
  init := ⟨.normal, false, 0⟩
  device := ⟨.usbipHost, true, 1⟩
  events := List.replicate 13 .operation
  accepted := ⟨_, _, _, rfl, rfl⟩
  requested := ⟨.ok (), [], "", by decide +kernel⟩
  sent := by
    rw [oneDevice_reading]
    exact play_iff_run.mp rfl

/-- The client asks for `1-2-1`, and the server exports `1-1`. -/
theorem request_names_other_busid :
    oneDeviceImport.before.KernelNamed ∧ oneDeviceImport.busid = "1-2-1" ∧
      ∃ info, exportInfo oneDeviceImport.before oneDeviceImport.after oneDeviceImport.target
        = .ok info ∧ info.busid = "1-1" ∧ oneDeviceImport.busid ≠ info.busid := by
  have hbusid : (exportInfo oneDevice oneDevice ⟨1, 2⟩).map KernelUsbip.DeviceInfo.busid
      = .ok "1-1" := by decide +kernel
  refine ⟨oneDevice_kernelNamed, rfl, ?_⟩
  cases hinfo : exportInfo oneDevice oneDevice ⟨1, 2⟩ with
  | error e =>
      rw [hinfo] at hbusid
      cases hbusid
  | ok info =>
      rw [hinfo] at hbusid
      have hinfoBusid : info.busid = "1-1" := Except.ok.inj hbusid
      refine ⟨info, hinfo, hinfoBusid, ?_⟩
      rw [hinfoBusid]
      decide +kernel

/-- The two fields differ on the wire as well. -/
theorem import_busids_never_agree_one_device :
    ∃ info, exportInfo oneDevice oneDevice ⟨1, 2⟩ = .ok info ∧
      exportBusid oneDevice ⟨1, 2⟩ = .ok info.busid ∧ "1-2-1" ≠ info.busid ∧
      requestedBusid oneDeviceRequest.toList ≠ reportedBusid (importReply info) :=
  import_busids_never_agree oneDeviceImport oneDevice_kernelNamed

end Bridge

end WolfUsb
