/-
WolfUsb.Server.DeviceManager — the server's device manager
(`server/device_manager.rs`): the attachments, the sessions, and the
operations on them, as the source computes them.

A method that takes `&mut self` returns the manager after it, also when
it returns an error, so an operation that changed a map before failing
would show here. Logging is left out, and with it the one use of
`AttachmentInfo::client_addr`, which is stored as the source stores it.
-/
import WolfUsb.Error

namespace WolfUsb

structure SocketAddr where
  ip : String
  port : UInt16
  deriving DecidableEq, Repr

structure AttachmentInfo where
  handle : Handle
  vendorId : UInt16
  productId : UInt16
  detachedKernelDrivers : List UInt8
  claimedInterfaces : List UInt8
  clientAddr : SocketAddr
  deriving DecidableEq, Repr

/-- `DeviceManager`. Its `context` field is the platform's. -/
structure DeviceManager where
  attachments : HashMap DeviceId AttachmentInfo
  nextSessionId : UInt64
  sessionToDevice : HashMap UInt64 DeviceId
  deriving DecidableEq

namespace DeviceManager

variable {W : Type} (p : Platform W)

def new : DeviceManager where
  attachments := ∅
  nextSessionId := 1
  sessionToDevice := ∅

/-! ## Reading descriptors -/

def readStringDesc (handle : Handle) (index : Option UInt8) (u : Bus W) :
    Option String × Bus W :=
  match index with
  | none => (none, u)
  | some idx =>
      if idx = 0 then (none, u)
      else
        match p.call (.readStringDescriptorAscii handle idx) u with
        | (.ok s, u) => (some s, u)
        | (.error _, u) => (none, u)

/-- `handle.as_ref().and_then(|h| read_string_desc(h, index))`. -/
def readStringDescOpt (handle : Option Handle) (index : Option UInt8) (u : Bus W) :
    Option String × Bus W :=
  match handle with
  | some h => readStringDesc p h index u
  | none => (none, u)

/-- `device.open().ok()`. -/
def openOk (device : UsbDevice) (u : Bus W) : Option Handle × Bus W :=
  match p.call (.openDevice device) u with
  | (.ok h, u) => (some h, u)
  | (.error _, u) => (none, u)

/-- The `DeviceInfo` that `list_devices` and `get_descriptors` both build,
its three strings read through a handle opened for it if one opens. -/
def deviceInfo (device : UsbDevice) (desc : DeviceDescriptor) (handle : Option Handle)
    (deviceId : DeviceId) (u : Bus W) : DeviceInfo × Bus W :=
  let (manufacturer, u) := readStringDescOpt p handle desc.manufacturerStringIndex u
  let (product, u) := readStringDescOpt p handle desc.productStringIndex u
  let (serialNumber, u) := readStringDescOpt p handle desc.serialNumberStringIndex u
  ({ deviceId, vendorId := desc.vendorId, productId := desc.productId,
     classCode := desc.classCode, subClassCode := desc.subClassCode,
     protocolCode := desc.protocolCode, maxPacketSizeEp0 := desc.maxPacketSize,
     numConfigurations := desc.numConfigurations, usbVersion := desc.usbVersion,
     deviceVersion := desc.deviceVersion, speed := .ofRusb device.speed,
     portNumber := device.portNumber, manufacturer, product, serialNumber }, u)

/-- The loop of `list_devices`; a device whose descriptor cannot be read
is skipped. -/
def listDevicesFrom : List UsbDevice → Bus W → List DeviceInfo × Bus W
  | [], u => ([], u)
  | device :: rest, u =>
      match p.call (.deviceDescriptor device) u with
      | (.error _, u) => listDevicesFrom rest u
      | (.ok desc, u) =>
          let (handle, u) := openOk p device u
          let (info, u) := deviceInfo p device desc handle
            ⟨device.busNumber, device.address⟩ u
          let (result, u) := listDevicesFrom rest u
          (info :: result, u)

def listDevices (u : Bus W) : Except WolfUsbError (List DeviceInfo) × Bus W :=
  match p.call .devices u with
  | (.error e, u) => (.error (.usbError e), u)
  | (.ok devices, u) =>
      let (result, u) := listDevicesFrom p devices u
      (.ok result, u)

def findDevice (deviceId : DeviceId) (u : Bus W) : Except WolfUsbError UsbDevice × Bus W :=
  match p.call .devices u with
  | (.error e, u) => (.error (.usbError e), u)
  | (.ok devices, u) =>
      match devices.find?
          (fun d => d.busNumber == deviceId.busNumber && d.address == deviceId.address) with
      | some d => (.ok d, u)
      | none => (.error (.deviceNotFound deviceId.busNumber deviceId.address), u)

def interfaceInfos (handle : Option Handle) :
    List InterfaceDescriptor → Bus W → List InterfaceInfo × Bus W
  | [], u => ([], u)
  | setting :: rest, u =>
      let (description, u) := readStringDescOpt p handle setting.descriptionStringIndex u
      let (result, u) := interfaceInfos handle rest u
      ({ interfaceNumber := setting.interfaceNumber, settingNumber := setting.settingNumber,
         classCode := setting.classCode, subClassCode := setting.subClassCode,
         protocolCode := setting.protocolCode, numEndpoints := setting.numEndpoints,
         description, endpoints := setting.endpointDescriptors } :: result, u)

/-- The loop over the configurations; one that cannot be read is skipped. -/
def configurationInfos (device : UsbDevice) (handle : Option Handle) :
    List Nat → Bus W → List ConfigurationInfo × Bus W
  | [], u => ([], u)
  | cfgIdx :: rest, u =>
      match p.call (.configDescriptor device (UInt8.ofNat cfgIdx)) u with
      | (.error _, u) => configurationInfos device handle rest u
      | (.ok config, u) =>
          let (description, u) := readStringDescOpt p handle config.descriptionStringIndex u
          let (interfaces, u) := interfaceInfos p handle
            (config.interfaces.flatMap Interface.descriptors) u
          let (result, u) := configurationInfos device handle rest u
          ({ number := config.number, numInterfaces := config.numInterfaces,
             maxPowerMa := config.maxPower, selfPowered := config.selfPowered,
             remoteWakeup := config.remoteWakeup, description, interfaces } :: result, u)

def getDescriptors (deviceId : DeviceId) (u : Bus W) :
    Except WolfUsbError DeviceDescriptorTree × Bus W :=
  match findDevice p deviceId u with
  | (.error e, u) => (.error e, u)
  | (.ok device, u) =>
      match p.call (.deviceDescriptor device) u with
      | (.error e, u) => (.error (.usbError e), u)
      | (.ok desc, u) =>
          let (handle, u) := openOk p device u
          let (info, u) := deviceInfo p device desc handle deviceId u
          let (configurations, u) := configurationInfos p device handle
            (List.range desc.numConfigurations.toNat) u
          (.ok { device := info, configurations }, u)

/-! ## Attach and detach -/

/-- The loop that detaches the kernel drivers of the active configuration
and lists the interfaces where that worked; every error is passed over. -/
def detachKernelDrivers (handle : Handle) : List Interface → Bus W → List UInt8 × Bus W
  | [], u => ([], u)
  | iface :: rest, u =>
      match p.call (.detachKernelDriver handle iface.number) u with
      | (.ok (), u) =>
          let (detached, u) := detachKernelDrivers handle rest u
          (iface.number :: detached, u)
      | (.error _, u) => detachKernelDrivers handle rest u

/-- `if let Ok(config) = device.active_config_descriptor() { .. }`. -/
def detachActiveDrivers (device : UsbDevice) (handle : Handle) (u : Bus W) :
    List UInt8 × Bus W :=
  match p.call (.activeConfigDescriptor device) u with
  | (.ok config, u) => detachKernelDrivers p handle config.interfaces u
  | (.error _, u) => ([], u)

/-- The map updates at the end of `attach`. The counter is a `u64` that
wraps. -/
def register (m : DeviceManager) (deviceId : DeviceId) (info : AttachmentInfo) : DeviceManager where
  attachments := m.attachments.insert deviceId info
  nextSessionId := m.nextSessionId + 1
  sessionToDevice := m.sessionToDevice.insert m.nextSessionId deviceId

def attach (m : DeviceManager) (deviceId : DeviceId) (clientAddr : SocketAddr) (u : Bus W) :
    Except WolfUsbError UInt64 × DeviceManager × Bus W :=
  if deviceId ∈ m.attachments then (.error .deviceAlreadyAttached, m, u)
  else
    match findDevice p deviceId u with
    | (.error e, u) => (.error e, m, u)
    | (.ok device, u) =>
        match p.call (.deviceDescriptor device) u with
        | (.error e, u) => (.error (.usbError e), m, u)
        | (.ok desc, u) =>
            match p.call (.openDevice device) u with
            | (.error e, u) => (.error (.usbError e), m, u)
            | (.ok handle, u) =>
                let (detachedDrivers, u) := detachActiveDrivers p device handle u
                (.ok m.nextSessionId,
                  m.register deviceId
                    { handle, vendorId := desc.vendorId, productId := desc.productId,
                      detachedKernelDrivers := detachedDrivers, claimedInterfaces := [],
                      clientAddr },
                  u)

/-- The two loops of `detach`; their errors are logged and passed over. -/
def releaseInterfaces (handle : Handle) : List UInt8 → Bus W → Bus W
  | [], u => u
  | ifaceNum :: rest, u =>
      releaseInterfaces handle rest (p.call (.releaseInterface handle ifaceNum) u).2

def reattachDrivers (handle : Handle) : List UInt8 → Bus W → Bus W
  | [], u => u
  | ifaceNum :: rest, u =>
      reattachDrivers handle rest (p.call (.attachKernelDriver handle ifaceNum) u).2

/-- The map updates of `detach`: the attachment of the device and the
session it was called with, whatever device that session is for. -/
def forget (m : DeviceManager) (deviceId : DeviceId) (sessionId : UInt64) : DeviceManager :=
  { m with
    attachments := m.attachments.erase deviceId
    sessionToDevice := m.sessionToDevice.erase sessionId }

def detach (m : DeviceManager) (deviceId : DeviceId) (sessionId : UInt64) (u : Bus W) :
    Except WolfUsbError Unit × DeviceManager × Bus W :=
  match m.attachments.lookup deviceId with
  | none => (.error .deviceNotAttached, m, u)
  | some attachment =>
      let u := releaseInterfaces p attachment.handle attachment.claimedInterfaces u
      let u := reattachDrivers p attachment.handle attachment.detachedKernelDrivers u
      (.ok (), m.forget deviceId sessionId, u)

def detachAllForSessions : List UInt64 → DeviceManager → Bus W → DeviceManager × Bus W
  | [], m, u => (m, u)
  | sessionId :: rest, m, u =>
      match m.sessionToDevice.lookup sessionId with
      | none => detachAllForSessions rest m u
      | some deviceId =>
          let (_, m, u) := m.detach p deviceId sessionId u
          detachAllForSessions rest m u

/-! ## Interfaces, configuration, transfers -/

/-- Write an attachment back after `get_mut`. -/
def update (m : DeviceManager) (deviceId : DeviceId) (info : AttachmentInfo) : DeviceManager :=
  { m with attachments := m.attachments.insert deviceId info }

def claimInterface (m : DeviceManager) (deviceId : DeviceId) (interfaceNumber : UInt8)
    (u : Bus W) : Except WolfUsbError Unit × DeviceManager × Bus W :=
  match m.attachments.lookup deviceId with
  | none => (.error .deviceNotAttached, m, u)
  | some attachment =>
      match p.call (.claimInterface attachment.handle interfaceNumber) u with
      | (.error e, u) => (.error (.usbError e), m, u)
      | (.ok (), u) =>
          (.ok (), m.update deviceId
            { attachment with
              claimedInterfaces := attachment.claimedInterfaces ++ [interfaceNumber] }, u)

def releaseInterface (m : DeviceManager) (deviceId : DeviceId) (interfaceNumber : UInt8)
    (u : Bus W) : Except WolfUsbError Unit × DeviceManager × Bus W :=
  match m.attachments.lookup deviceId with
  | none => (.error .deviceNotAttached, m, u)
  | some attachment =>
      match p.call (.releaseInterface attachment.handle interfaceNumber) u with
      | (.error e, u) => (.error (.usbError e), m, u)
      | (.ok (), u) =>
          (.ok (), m.update deviceId
            { attachment with
              claimedInterfaces := attachment.claimedInterfaces.filter (· != interfaceNumber) }, u)

def setConfiguration (m : DeviceManager) (deviceId : DeviceId) (configuration : UInt8)
    (u : Bus W) : Except WolfUsbError Unit × DeviceManager × Bus W :=
  match m.attachments.lookup deviceId with
  | none => (.error .deviceNotAttached, m, u)
  | some attachment =>
      match p.call (.setActiveConfiguration attachment.handle configuration) u with
      | (.error e, u) => (.error (.usbError e), m, u)
      | (.ok (), u) => (.ok (), m, u)

/-- The replug check of `get_handle`: the device is there, its descriptor
can be read, and it is not the one that was attached. -/
def identityChanged (deviceId : DeviceId) (attachment : AttachmentInfo) (u : Bus W) :
    Bool × Bus W :=
  match findDevice p deviceId u with
  | (.error _, u) => (false, u)
  | (.ok device, u) =>
      match p.call (.deviceDescriptor device) u with
      | (.error _, u) => (false, u)
      | (.ok desc, u) =>
          (desc.vendorId != attachment.vendorId || desc.productId != attachment.productId, u)

def getHandle (m : DeviceManager) (deviceId : DeviceId) (u : Bus W) :
    Except WolfUsbError Handle × Bus W :=
  match m.attachments.lookup deviceId with
  | none => (.error .deviceNotAttached, u)
  | some attachment =>
      match identityChanged p deviceId attachment u with
      | (true, u) => (.error (.deviceNotFound deviceId.busNumber deviceId.address), u)
      | (false, u) => (.ok attachment.handle, u)

def validateSession (m : DeviceManager) (sessionId : UInt64) (deviceId : DeviceId) :
    Except WolfUsbError Unit :=
  match m.sessionToDevice.lookup sessionId with
  | some id => if id = deviceId then .ok () else .error (.invalidSession sessionId)
  | none => .error (.invalidSession sessionId)

end DeviceManager

end WolfUsb
