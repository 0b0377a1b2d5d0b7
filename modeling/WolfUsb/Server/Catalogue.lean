/-
WolfUsb.Server.Catalogue — what ListDevices and GetDescriptors show of a
host that holds still.

A `Catalogue` is what there is to see: the devices of the host, their
descriptors and strings, and which of them can be opened. A platform is
`Still` with a catalogue when it answers every call that looks at a device
from it; the calls that do something are not restricted, and a handle is a
new one each time.

The server's two requests then show the catalogue, each in its own way,
and agree (`list_and_descriptors_agree`).
-/
import WolfUsb.Server.ConnectionTheorems

namespace WolfUsb

/-! ## The host -/

structure Catalogue where
  devices : List UsbDevice
  descriptor : UsbDevice → Except RusbError DeviceDescriptor
  opens : UsbDevice → Bool
  string : UsbDevice → UInt8 → Except RusbError String
  config : UsbDevice → UInt8 → Except RusbError ConfigDescriptor

/-- The bus and address of a device. -/
def UsbDevice.id (device : UsbDevice) : DeviceId := ⟨device.busNumber, device.address⟩

namespace Catalogue

variable (cat : Catalogue)

/-- What a call may answer when `opened` is the device of every handle, and
the handles after it. -/
def Answers (opened : Handle → Option UsbDevice) :
    (call : UsbCall) → call.Res → (Handle → Option UsbDevice) → Prop
  | .devices, r, opened' => r = .ok cat.devices ∧ opened' = opened
  | .deviceDescriptor device, r, opened' => r = cat.descriptor device ∧ opened' = opened
  | .openDevice device, .ok h, opened' => cat.opens device = true ∧ opened' h = some device
  | .openDevice device, .error _, opened' => cat.opens device = false ∧ opened' = opened
  | .configDescriptor device i, r, opened' => r = cat.config device i ∧ opened' = opened
  | .readStringDescriptorAscii h i, r, opened' =>
      (∀ device, opened h = some device → r = cat.string device i) ∧ opened' = opened
  | _, _, _ => True

/-- The platform shows the catalogue at all times. -/
def Still {W : Type} (p : Platform W) (view : W → Handle → Option UsbDevice) : Prop :=
  ∀ call w, cat.Answers (view w) call (p.usb call w).1 (view (p.usb call w).2)

/-! ## What there is to show -/

/-- A string of a device, when it can be read. -/
def text (device : UsbDevice) (index : Option UInt8) : Option String :=
  if cat.opens device then
    index.bind fun i => if i = 0 then none else (cat.string device i).toOption
  else none

def info (device : UsbDevice) (desc : DeviceDescriptor) : DeviceInfo where
  deviceId := device.id
  vendorId := desc.vendorId
  productId := desc.productId
  classCode := desc.classCode
  subClassCode := desc.subClassCode
  protocolCode := desc.protocolCode
  maxPacketSizeEp0 := desc.maxPacketSize
  numConfigurations := desc.numConfigurations
  usbVersion := desc.usbVersion
  deviceVersion := desc.deviceVersion
  speed := .ofRusb device.speed
  portNumber := device.portNumber
  manufacturer := cat.text device desc.manufacturerStringIndex
  product := cat.text device desc.productStringIndex
  serialNumber := cat.text device desc.serialNumberStringIndex

def interface (device : UsbDevice) (setting : InterfaceDescriptor) : InterfaceInfo where
  interfaceNumber := setting.interfaceNumber
  settingNumber := setting.settingNumber
  classCode := setting.classCode
  subClassCode := setting.subClassCode
  protocolCode := setting.protocolCode
  numEndpoints := setting.numEndpoints
  description := cat.text device setting.descriptionStringIndex
  endpoints := setting.endpointDescriptors

def configuration (device : UsbDevice) (config : ConfigDescriptor) : ConfigurationInfo where
  number := config.number
  numInterfaces := config.numInterfaces
  maxPowerMa := config.maxPower
  selfPowered := config.selfPowered
  remoteWakeup := config.remoteWakeup
  description := cat.text device config.descriptionStringIndex
  interfaces := (config.interfaces.flatMap Interface.descriptors).map (cat.interface device)

/-- Each device whose descriptor can be read, in the host's order. -/
def listed : List DeviceInfo :=
  cat.devices.filterMap fun device => (cat.descriptor device).toOption.map (cat.info device)

/-- A device with each of its configurations that can be read. -/
def tree (device : UsbDevice) (desc : DeviceDescriptor) : DeviceDescriptorTree where
  device := cat.info device desc
  configurations := (List.range desc.numConfigurations.toNat).filterMap fun i =>
    (cat.config device (UInt8.ofNat i)).toOption.map (cat.configuration device)

def find (d : DeviceId) : Option UsbDevice :=
  cat.devices.find? fun device => device.busNumber == d.busNumber && device.address == d.address

/-! ## The manager shows it -/

/-- The handle the manager reads a device's strings through, if it has one. -/
def Through (opened : Handle → Option UsbDevice) (device : UsbDevice) : Option Handle → Prop
  | some h => cat.opens device = true ∧ opened h = some device
  | none => cat.opens device = false

section Manager

open DeviceManager

variable {cat} {W : Type} {p : Platform W} {view : W → Handle → Option UsbDevice} {u : Bus W}
  {device : UsbDevice} {handle : Option Handle}

theorem Still.call (hp : cat.Still p view) (call : UsbCall) (u : Bus W) :
    cat.Answers (view u.world) call (p.call call u).1 (view (p.call call u).2.world) :=
  hp call u.world

theorem readStringDescOpt_shows (hp : cat.Still p view)
    (hthrough : cat.Through (view u.world) device handle) (index : Option UInt8) :
    (readStringDescOpt p handle index u).1 = cat.text device index ∧
      view (readStringDescOpt p handle index u).2.world = view u.world := by
  cases handle with
  | none =>
      have hopens : cat.opens device = false := hthrough
      simp [readStringDescOpt, text, hopens]
  | some h =>
      obtain ⟨hopens, hopened⟩ := hthrough
      cases index with
      | none => simp [readStringDescOpt, readStringDesc, text, hopens]
      | some i =>
          by_cases hi : i = 0
          · simp [readStringDescOpt, readStringDesc, text, hopens, hi]
          · obtain ⟨hr, hview⟩ := hp.call (.readStringDescriptorAscii h i) u
            have htext := hr device hopened
            simp only [readStringDescOpt, readStringDesc, if_neg hi]
            split
            · rename_i s u' hcall
              rw [hcall] at htext hview
              simp [text, hopens, hi, ← htext, Except.toOption, hview]
            · rename_i e u' hcall
              rw [hcall] at htext hview
              simp [text, hopens, hi, ← htext, Except.toOption, hview]

theorem openOk_through (hp : cat.Still p view) (device : UsbDevice) (u : Bus W) :
    cat.Through (view (openOk p device u).2.world) device (openOk p device u).1 := by
  have hanswers := hp.call (.openDevice device) u
  unfold openOk
  split
  · rename_i h u' hcall
    rw [hcall] at hanswers
    exact hanswers
  · rename_i e u' hcall
    rw [hcall] at hanswers
    exact hanswers.1

theorem deviceInfo_shows (hp : cat.Still p view)
    (hthrough : cat.Through (view u.world) device handle) (desc : DeviceDescriptor) :
    (deviceInfo p device desc handle device.id u).1 = cat.info device desc ∧
      view (deviceInfo p device desc handle device.id u).2.world = view u.world := by
  obtain ⟨hmfr, hview₁⟩ := readStringDescOpt_shows hp hthrough desc.manufacturerStringIndex
  rw [← hview₁] at hthrough
  obtain ⟨hprod, hview₂⟩ := readStringDescOpt_shows hp hthrough desc.productStringIndex
  rw [← hview₂] at hthrough
  obtain ⟨hserial, hview₃⟩ := readStringDescOpt_shows hp hthrough desc.serialNumberStringIndex
  refine ⟨?_, hview₃.trans (hview₂.trans hview₁)⟩
  simp only [deviceInfo, info, hmfr, hprod, hserial]

theorem interfaceInfos_shows (hp : cat.Still p view)
    (hthrough : cat.Through (view u.world) device handle) (settings : List InterfaceDescriptor) :
    (interfaceInfos p handle settings u).1 = settings.map (cat.interface device) ∧
      view (interfaceInfos p handle settings u).2.world = view u.world := by
  induction settings generalizing u with
  | nil => exact ⟨rfl, rfl⟩
  | cons setting rest ih =>
      obtain ⟨htext, hview⟩ := readStringDescOpt_shows hp hthrough setting.descriptionStringIndex
      rw [← hview] at hthrough
      obtain ⟨hrest, hview'⟩ := ih hthrough
      refine ⟨?_, hview'.trans hview⟩
      simp only [interfaceInfos, List.map_cons, htext, hrest, interface]

theorem configurationInfos_shows (hp : cat.Still p view)
    (hthrough : cat.Through (view u.world) device handle) (indices : List Nat) :
    (configurationInfos p device handle indices u).1 = indices.filterMap fun i =>
      (cat.config device (UInt8.ofNat i)).toOption.map (cat.configuration device) := by
  induction indices generalizing u with
  | nil => rfl
  | cons i rest ih =>
      obtain ⟨hconfig, hview⟩ := hp.call (.configDescriptor device (UInt8.ofNat i)) u
      rw [configurationInfos]
      split
      · rename_i e u' hcall
        rw [hcall] at hconfig hview
        rw [← hview] at hthrough
        rw [ih hthrough, List.filterMap_cons, ← hconfig]
        rfl
      · rename_i config u' hcall
        rw [hcall] at hconfig hview
        rw [← hview] at hthrough
        obtain ⟨htext, hview₁⟩ := readStringDescOpt_shows hp hthrough config.descriptionStringIndex
        rw [← hview₁] at hthrough
        obtain ⟨hinterfaces, hview₂⟩ := interfaceInfos_shows hp hthrough
          (config.interfaces.flatMap Interface.descriptors)
        rw [← hview₂] at hthrough
        rw [List.filterMap_cons, ← hconfig]
        simp only [ih hthrough, htext, hinterfaces, Except.toOption, Option.map_some,
          configuration]

theorem listDevicesFrom_shows (hp : cat.Still p view) (devices : List UsbDevice) (u : Bus W) :
    (listDevicesFrom p devices u).1 = devices.filterMap fun device =>
      (cat.descriptor device).toOption.map (cat.info device) := by
  induction devices generalizing u with
  | nil => rfl
  | cons device rest ih =>
      obtain ⟨hdesc, -⟩ := hp.call (.deviceDescriptor device) u
      rw [listDevicesFrom]
      split
      · rename_i e u' hcall
        rw [hcall] at hdesc
        rw [ih, List.filterMap_cons, ← hdesc]
        rfl
      · rename_i desc u' hcall
        rw [hcall] at hdesc
        obtain ⟨hinfo, -⟩ := deviceInfo_shows hp (openOk_through hp device u') desc
        rw [List.filterMap_cons, ← hdesc]
        simp only [ih, Except.toOption, Option.map_some]
        rw [← hinfo]
        rfl

/-- ListDevices shows what is listed. -/
theorem listDevices_shows (hp : cat.Still p view) (u : Bus W) :
    (listDevices p u).1 = .ok cat.listed := by
  obtain ⟨hdevices, -⟩ := hp.call .devices u
  unfold listDevices
  split
  · rename_i e u' hcall
    rw [hcall] at hdevices
    cases hdevices
  · rename_i devices u' hcall
    rw [hcall] at hdevices
    cases hdevices
    exact congrArg Except.ok (listDevicesFrom_shows hp cat.devices u')

theorem findDevice_shows (hp : cat.Still p view) (d : DeviceId) (u : Bus W) :
    (findDevice p d u).1 = match cat.find d with
      | some device => .ok device
      | none => .error (.deviceNotFound d.busNumber d.address) := by
  obtain ⟨hdevices, -⟩ := hp.call .devices u
  unfold findDevice
  split
  · rename_i e u' hcall
    rw [hcall] at hdevices
    cases hdevices
  · rename_i devices u' hcall
    rw [hcall] at hdevices
    cases hdevices
    cases hfind : cat.find d with
    | none =>
        rw [find] at hfind
        rw [hfind]
    | some device =>
        rw [find] at hfind
        rw [hfind]

theorem id_of_find {d : DeviceId} (h : cat.find d = some device) : device.id = d := by
  have hid := List.find?_some h
  obtain ⟨hbus, haddress⟩ : device.busNumber = d.busNumber ∧ device.address = d.address := by
    simpa using hid
  rw [UsbDevice.id, hbus, haddress]

/-- GetDescriptors shows the tree of the first device of that bus and
address. -/
theorem getDescriptors_shows (hp : cat.Still p view) (d : DeviceId) (u : Bus W) :
    (getDescriptors p d u).1 = match cat.find d with
      | none => .error (.deviceNotFound d.busNumber d.address)
      | some device =>
          match cat.descriptor device with
          | .error e => .error (.usbError e)
          | .ok desc => .ok (cat.tree device desc) := by
  have hfound := findDevice_shows hp d u
  unfold getDescriptors
  cases hfind : cat.find d with
  | none =>
      rw [hfind] at hfound
      split
      · rename_i e u' hcall
        rw [hcall] at hfound
        cases hfound
        rfl
      · rename_i device u' hcall
        rw [hcall] at hfound
        cases hfound
  | some device =>
      rw [hfind] at hfound
      split
      · rename_i e u' hcall
        rw [hcall] at hfound
        cases hfound
      · rename_i device' u' hcall
        rw [hcall] at hfound
        cases hfound
        obtain ⟨hdesc, -⟩ := hp.call (.deviceDescriptor device) u'
        split
        · rename_i e u'' hcall'
          rw [hcall'] at hdesc
          simp only [← hdesc]
        · rename_i desc u'' hcall'
          rw [hcall'] at hdesc
          have hthrough := openOk_through hp device u''
          obtain ⟨hinfo, hview⟩ := deviceInfo_shows hp hthrough desc
          rw [← hview, id_of_find hfind] at hthrough
          rw [id_of_find hfind] at hinfo
          have hconfigs := configurationInfos_shows hp hthrough
            (List.range desc.numConfigurations.toNat)
          simp only [← hdesc, tree, ← hinfo, ← hconfigs]

end Manager

/-! ## The two agree -/

variable {cat}

/-- Bus and address tell the devices apart, so the first at them is the
only one. -/
theorem find_of_mem (hids : (cat.devices.map UsbDevice.id).Nodup) {device : UsbDevice}
    (hmem : device ∈ cat.devices) : cat.find device.id = some device := by
  cases hfind : cat.find device.id with
  | none =>
      have hnot := List.find?_eq_none.mp hfind device hmem
      simp [UsbDevice.id] at hnot
  | some device' =>
      have hmem' := List.mem_of_find?_eq_some hfind
      exact congrArg some (List.inj_on_of_nodup_map hids hmem' hmem (id_of_find hfind))

/-- What is listed is exactly what a lookup by bus and address shows. -/
theorem mem_listed (hids : (cat.devices.map UsbDevice.id).Nodup) (i : DeviceInfo) :
    i ∈ cat.listed ↔ ∃ device desc, cat.find i.deviceId = some device ∧
      cat.descriptor device = .ok desc ∧ (cat.tree device desc).device = i := by
  rw [listed, List.mem_filterMap]
  constructor
  · rintro ⟨device, hmem, hinfo⟩
    obtain ⟨desc, hdesc, rfl⟩ := Option.map_eq_some_iff.mp hinfo
    refine ⟨device, desc, find_of_mem hids hmem, ?_, rfl⟩
    cases h : cat.descriptor device with
    | error e => simp [h, Except.toOption] at hdesc
    | ok desc' =>
        rw [h] at hdesc
        cases hdesc
        rfl
  · rintro ⟨device, desc, hfind, hdesc, rfl⟩
    exact ⟨device, List.mem_of_find?_eq_some hfind, by rw [hdesc]; rfl⟩

/-- Every device is listed once. -/
theorem nodup_listed (hids : (cat.devices.map UsbDevice.id).Nodup) :
    (cat.listed.map DeviceInfo.deviceId).Nodup := by
  have hsub : (cat.listed.map DeviceInfo.deviceId).Sublist (cat.devices.map UsbDevice.id) := by
    rw [listed]
    generalize cat.devices = devices
    induction devices with
    | nil => exact .slnil
    | cons device rest ih =>
        cases hdesc : cat.descriptor device with
        | error e =>
            simp only [List.filterMap_cons, hdesc, Except.toOption, Option.map_none, List.map_cons]
            exact ih.cons _
        | ok desc =>
            simp only [List.filterMap_cons, hdesc, Except.toOption, Option.map_some, List.map_cons]
            exact ih.cons_cons _
  exact hids.sublist hsub

/-! ## The two requests -/

section Requests

variable {W : Type} {p : Platform W} {view : W → Handle → Option UsbDevice} {conn : Connection}

theorem handleMessage_listDevices (hp : cat.Still p view) (hopen : conn.gated = false)
    (sh : Shared W) :
    (conn.handleMessage p none .listDevices sh).1 = .reply (.deviceList ⟨cat.listed⟩) := by
  have hlisted := listDevices_shows hp sh.bus
  simp only [Connection.handleMessage, hopen, Bool.false_eq_true, if_false, Connection.dispatch,
    Connection.handleListDevices, spawnBlocking, Shared.reading, hlisted]

/-- The answer to GetDescriptors: a tree, or an error. -/
theorem handleMessage_getDescriptors (hp : cat.Still p view) (hopen : conn.gated = false)
    (d : DeviceId) (sh : Shared W) :
    (∃ device desc, cat.find d = some device ∧ cat.descriptor device = .ok desc ∧
      (conn.handleMessage p none (.getDescriptors ⟨d⟩) sh).1
        = .reply (.descriptorData ⟨d, cat.tree device desc⟩)) ∨
    (∀ device desc, cat.find d = some device → cat.descriptor device ≠ .ok desc) ∧
      ∃ message, (conn.handleMessage p none (.getDescriptors ⟨d⟩) sh).1
        = .reply (.error ⟨.deviceNotFound, message⟩) := by
  have hshown := getDescriptors_shows hp d sh.bus
  simp only [Connection.handleMessage, hopen, Bool.false_eq_true, if_false, Connection.dispatch,
    Connection.handleGetDescriptors, spawnBlocking, Shared.reading, hshown]
  cases hfind : cat.find d with
  | none => exact Or.inr ⟨fun _ _ h => (by cases h), _, rfl⟩
  | some device =>
      cases hdesc : cat.descriptor device with
      | error e =>
          simp only [hdesc]
          refine Or.inr ⟨fun device' desc h h' => ?_, _, rfl⟩
          cases h
          rw [hdesc] at h'
          cases h'
      | ok desc =>
          simp only [hdesc]
          exact Or.inl ⟨device, desc, rfl, hdesc, rfl⟩

end Requests

end Catalogue

/-- **`list` and `info` agree.** On a host that holds still, whose devices
differ in bus or address, two connections that may ask get answers that
agree, whatever state the server is in when it answers and whatever was
done on it before: ListDevices names no device twice, GetDescriptors
answers for exactly the devices it names, and shows each as it lists it. -/
theorem list_and_descriptors_agree {W : Type} {p : Platform W} {cat : Catalogue}
    {view : W → Handle → Option UsbDevice} (hp : cat.Still p view)
    (hids : (cat.devices.map UsbDevice.id).Nodup) {conn conn' : Connection}
    (hopen : conn.gated = false) (hopen' : conn'.gated = false) (sh sh' : Shared W) :
    ∃ devices, (conn.handleMessage p none .listDevices sh).1 = .reply (.deviceList ⟨devices⟩) ∧
      (devices.map DeviceInfo.deviceId).Nodup ∧
      (∀ i ∈ devices, ∃ tree,
        (conn'.handleMessage p none (.getDescriptors ⟨i.deviceId⟩) sh').1
          = .reply (.descriptorData ⟨i.deviceId, tree⟩) ∧ tree.device = i) ∧
      ∀ d, (∀ i ∈ devices, i.deviceId ≠ d) → ∃ message,
        (conn'.handleMessage p none (.getDescriptors ⟨d⟩) sh').1
          = .reply (.error ⟨.deviceNotFound, message⟩) := by
  refine ⟨cat.listed, cat.handleMessage_listDevices hp hopen sh, ?_, ?_, ?_⟩
  · exact cat.nodup_listed hids
  · intro i hi
    obtain ⟨device, desc, hfind, hdesc, rfl⟩ := (Catalogue.mem_listed hids i).mp hi
    rcases Catalogue.handleMessage_getDescriptors hp hopen' (cat.tree device desc).device.deviceId
      sh' with ⟨device', desc', hfind', hdesc', hreply⟩ | ⟨hnone, -⟩
    · rw [hfind] at hfind'
      cases hfind'
      rw [hdesc] at hdesc'
      cases hdesc'
      exact ⟨_, hreply, rfl⟩
    · exact absurd hdesc (hnone device desc hfind)
  · intro d hd
    rcases Catalogue.handleMessage_getDescriptors hp hopen' d sh' with
      ⟨device, desc, hfind, hdesc, -⟩ | ⟨-, hmessage⟩
    · have hid : (cat.tree device desc).device.deviceId = d := Catalogue.id_of_find hfind
      exact absurd hid (hd _ ((Catalogue.mem_listed hids _).mpr
        ⟨device, desc, hid ▸ hfind, hdesc, rfl⟩))
    · exact hmessage

/-- A host that shows a catalogue. Its world is the device opened last,
through the one handle there is. -/
def Catalogue.host (cat : Catalogue) : Platform (Option UsbDevice) where
  usb
    | .devices, w => (.ok cat.devices, w)
    | .deviceDescriptor device, w => (cat.descriptor device, w)
    | .openDevice device, w =>
        if cat.opens device then (.ok (0 : Handle), some device) else (.error .access, w)
    | .configDescriptor device i, w => (cat.config device i, w)
    | .readStringDescriptorAscii _ i, w =>
        match w with
        | some device => (cat.string device i, w)
        | none => (.error .noDevice, w)
    | call, w => ((twoDeviceHost.usb call 0).1, w)
  usbErrorText := twoDeviceHost.usbErrorText
  hmacSha256 := twoDeviceHost.hmacSha256

theorem Catalogue.host_still (cat : Catalogue) : cat.Still cat.host fun w _ => w := by
  intro call w
  cases call with
  | openDevice device =>
      cases hopens : cat.opens device with
      | true => simp [host, Answers, hopens]
      | false => simp [host, Answers, hopens]
  | readStringDescriptorAscii h i =>
      cases w with
      | none => exact ⟨fun device hdevice => (by cases hdevice), rfl⟩
      | some device =>
          refine ⟨fun device' hdevice => ?_, rfl⟩
          cases hdevice
          rfl
  | devices => exact ⟨rfl, rfl⟩
  | deviceDescriptor device => exact ⟨rfl, rfl⟩
  | configDescriptor device i => exact ⟨rfl, rfl⟩
  | _ => trivial

/-- A camera with a name, a device that cannot be opened, and one whose
descriptor cannot be read. -/
def threeDevices : Catalogue where
  devices := [⟨1, 2, 1, .high⟩, ⟨1, 3, 4, .full⟩, ⟨2, 2, 1, .super⟩]
  descriptor device :=
    if device.busNumber = 2 then .error .io
    else .ok ⟨0x046d, 0xc52b, 0, 0, 0, 64, 1, (2, 0, 0), (1, 0, 0), some 0, some 2, none⟩
  opens device := device.address == 2
  string _ _ := .ok "Camera"
  config _ _ := .ok ⟨1, 1, 50, false, false, none, [⟨0, []⟩]⟩

theorem list_and_descriptors_agree_three_devices :
    ∃ devices, (Connection.handleMessage threeDevices.host none
        (.new .plain ⟨"10.0.0.1", 4000⟩ none) .listDevices ⟨.new, ⟨none, []⟩⟩).1
          = .reply (.deviceList ⟨devices⟩) ∧
      devices.map DeviceInfo.product = [some "Camera", none] ∧
      ∀ i ∈ devices, ∃ tree, (Connection.handleMessage threeDevices.host none
        (.new .tls ⟨"10.0.0.2", 4000⟩ none) (.getDescriptors ⟨i.deviceId⟩)
        ⟨.new, ⟨some ⟨1, 3, 4, .full⟩, []⟩⟩).1
          = .reply (.descriptorData ⟨i.deviceId, tree⟩) ∧ tree.device = i := by
  obtain ⟨devices, hlist, -, hinfo, -⟩ := list_and_descriptors_agree threeDevices.host_still
    (by decide) (show (Connection.new .plain ⟨"10.0.0.1", 4000⟩ none).gated = false from rfl)
    (show (Connection.new .tls ⟨"10.0.0.2", 4000⟩ none).gated = false from rfl) ⟨.new, ⟨none, []⟩⟩
    ⟨.new, ⟨some ⟨1, 3, 4, .full⟩, []⟩⟩
  refine ⟨devices, hlist, ?_, hinfo⟩
  have hlisted := hlist.symm.trans
    (threeDevices.handleMessage_listDevices threeDevices.host_still rfl ⟨.new, ⟨none, []⟩⟩)
  cases hlisted
  decide +kernel

end WolfUsb
