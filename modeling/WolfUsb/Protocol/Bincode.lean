/-
WolfUsb.Protocol.Bincode — the serialization of the messages.

The `bincode` crate is not part of the repository, so what it does is a
parameter, `Bincode`: an encoder and a decoder of messages, which may
fail. `Bincode.standard` is the format the crate documents for
`bincode::config::standard()`: fields in order, integers of more than a
byte as `varint`, a `Vec` and a `String` behind their length, an enum as
the index of its variant and the variant's fields. Its round trip comes
with the format.
-/
import WolfUsb.Lib.Format
import WolfUsb.Protocol.Messages

namespace WolfUsb

open WolfUsb.Lib

/-- `bincode::encode_to_vec` and `bincode::decode_from_slice` at `Message`,
with the texts of their errors. Decoding also says how many bytes it read. -/
structure Bincode where
  encodeToVec : Message → Except String Bytes
  decodeFromSlice : Bytes → Except String (Message × Nat)

namespace Bincode

/-- What was encoded is decoded. -/
def RoundTrips (b : Bincode) : Prop :=
  ∀ m payload, b.encodeToVec m = .ok payload → ∃ n, b.decodeFromSlice payload = .ok (m, n)

/-- Of a strict part of what was encoded nothing is decoded. -/
def RefusesPrefixes (b : Bincode) : Prop :=
  ∀ m payload k, b.encodeToVec m = .ok payload → k < payload.length →
    ∃ e, b.decodeFromSlice (payload.take k) = .error e

/-- The number of bytes used comes with the message, and what follows them
does not matter. -/
def CountsUsed (b : Bincode) : Prop :=
  ∀ payload m n, b.decodeFromSlice payload = .ok (m, n) →
    n ≤ payload.length ∧ ∀ more, b.decodeFromSlice (payload.take n ++ more) = .ok (m, n)

/-! ## The descriptor types -/

section Types

open Format

def usbSpeed : Format UsbSpeed :=
  enumeration
    (fun | .unknown => 0 | .low => 1 | .full => 2 | .high => 3 | .super => 4 | .superPlus => 5)
    (fun
      | 0 => some .unknown | 1 => some .low | 2 => some .full | 3 => some .high
      | 4 => some .super | 5 => some .superPlus | _ => none)
    (fun s => by cases s <;> rfl)

def usbTransferType : Format UsbTransferType :=
  enumeration (fun | .control => 0 | .isochronous => 1 | .bulk => 2 | .interrupt => 3)
    (fun
      | 0 => some .control | 1 => some .isochronous | 2 => some .bulk | 3 => some .interrupt
      | _ => none)
    (fun t => by cases t <;> rfl)

def usbDirection : Format UsbDirection :=
  enumeration (fun | .input => 0 | .output => 1)
    (fun | 0 => some .input | 1 => some .output | _ => none) (fun d => by cases d <;> rfl)

def deviceId : Format DeviceId :=
  (byte.seq byte).imap (fun (bus, addr) => ⟨bus, addr⟩) (fun d => (d.busNumber, d.address))
    fun _ => rfl

def version : Format (UInt8 × UInt8 × UInt8) := byte.seq (byte.seq byte)

def deviceInfo : Format DeviceInfo :=
  (deviceId.seq (uint16.seq (uint16.seq (byte.seq (byte.seq (byte.seq (byte.seq (byte.seq
    (version.seq (version.seq (usbSpeed.seq (byte.seq (string.option.seq
      (string.option.seq string.option)))))))))))))).imap
    (fun (d, vid, pid, cls, sub, proto, ep0, cfgs, usb, dev, speed, port, man, prod, serial) =>
      ⟨d, vid, pid, cls, sub, proto, ep0, cfgs, usb, dev, speed, port, man, prod, serial⟩)
    (fun i => (i.deviceId, i.vendorId, i.productId, i.classCode, i.subClassCode, i.protocolCode,
      i.maxPacketSizeEp0, i.numConfigurations, i.usbVersion, i.deviceVersion, i.speed,
      i.portNumber, i.manufacturer, i.product, i.serialNumber))
    fun _ => rfl

def endpointInfo : Format EndpointInfo :=
  (byte.seq (byte.seq (usbDirection.seq (usbTransferType.seq (uint16.seq byte))))).imap
    (fun (addr, num, dir, ty, size, interval) => ⟨addr, num, dir, ty, size, interval⟩)
    (fun e => (e.address, e.number, e.direction, e.transferType, e.maxPacketSize, e.interval))
    fun _ => rfl

def interfaceInfo : Format InterfaceInfo :=
  (byte.seq (byte.seq (byte.seq (byte.seq (byte.seq (byte.seq
    (string.option.seq endpointInfo.list))))))).imap
    (fun (num, alt, cls, sub, proto, eps, desc, list) =>
      ⟨num, alt, cls, sub, proto, eps, desc, list⟩)
    (fun i => (i.interfaceNumber, i.settingNumber, i.classCode, i.subClassCode, i.protocolCode,
      i.numEndpoints, i.description, i.endpoints))
    fun _ => rfl

def configurationInfo : Format ConfigurationInfo :=
  (byte.seq (byte.seq (uint16.seq (bool.seq (bool.seq
    (string.option.seq interfaceInfo.list)))))).imap
    (fun (num, count, power, self, wake, desc, list) => ⟨num, count, power, self, wake, desc, list⟩)
    (fun c => (c.number, c.numInterfaces, c.maxPowerMa, c.selfPowered, c.remoteWakeup,
      c.description, c.interfaces))
    fun _ => rfl

def deviceDescriptorTree : Format DeviceDescriptorTree :=
  (deviceInfo.seq configurationInfo.list).imap (fun (device, configs) => ⟨device, configs⟩)
    (fun t => (t.device, t.configurations)) fun _ => rfl

/-! ## Requests and responses -/

def helloRequest : Format HelloRequest :=
  (uint32.seq (string.seq ((array 32).seq bytes))).imap
    (fun (version, name, nonce, proof) => ⟨version, name, nonce, proof⟩)
    (fun r => (r.protocolVersion, r.clientName, r.authNonce, r.authProof)) fun _ => rfl

def helloResponse : Format HelloResponse :=
  (uint32.seq (string.seq (bool.seq (bytes.seq string.option)))).imap
    (fun (version, name, ok, proof, err) => ⟨version, name, ok, proof, err⟩)
    (fun r => (r.protocolVersion, r.serverName, r.authAccepted, r.authChallengeResponse,
      r.errorMessage))
    fun _ => rfl

def deviceListResponse : Format DeviceListResponse :=
  deviceInfo.list.imap (fun ds => ⟨ds⟩) (·.devices) fun _ => rfl

def getDescriptorsRequest : Format GetDescriptorsRequest :=
  deviceId.imap (fun d => ⟨d⟩) (·.deviceId) fun _ => rfl

def descriptorDataResponse : Format DescriptorDataResponse :=
  (deviceId.seq deviceDescriptorTree).imap (fun (d, tree) => ⟨d, tree⟩)
    (fun r => (r.deviceId, r.descriptors)) fun _ => rfl

def attachRequest : Format AttachRequest := deviceId.imap (fun d => ⟨d⟩) (·.deviceId) fun _ => rfl

def attachResponse : Format AttachResponse :=
  (deviceId.seq (bool.seq (string.option.seq uint64.option))).imap
    (fun (d, ok, err, s) => ⟨d, ok, err, s⟩)
    (fun r => (r.deviceId, r.success, r.errorMessage, r.sessionId)) fun _ => rfl

def detachRequest : Format DetachRequest :=
  (deviceId.seq uint64).imap (fun (d, s) => ⟨d, s⟩) (fun r => (r.deviceId, r.sessionId)) fun _ => rfl

def detachResponse : Format DetachResponse :=
  (deviceId.seq (bool.seq string.option)).imap (fun (d, ok, err) => ⟨d, ok, err⟩)
    (fun r => (r.deviceId, r.success, r.errorMessage)) fun _ => rfl

def controlTransferRequest : Format ControlTransferRequest :=
  (uint64.seq (deviceId.seq (byte.seq (byte.seq (uint16.seq (uint16.seq
    (bytes.seq (uint16.seq uint64)))))))).imap
    (fun (s, d, ty, req, value, index, data, length, timeout) =>
      ⟨s, d, ty, req, value, index, data, length, timeout⟩)
    (fun r => (r.sessionId, r.deviceId, r.requestType, r.request, r.value, r.index, r.data,
      r.length, r.timeoutMs))
    fun _ => rfl

def bulkTransferRequest : Format BulkTransferRequest :=
  (uint64.seq (deviceId.seq (byte.seq (bytes.seq (uint32.seq uint64))))).imap
    (fun (s, d, ep, data, length, timeout) => ⟨s, d, ep, data, length, timeout⟩)
    (fun r => (r.sessionId, r.deviceId, r.endpoint, r.data, r.length, r.timeoutMs)) fun _ => rfl

def interruptTransferRequest : Format InterruptTransferRequest :=
  (uint64.seq (deviceId.seq (byte.seq (bytes.seq (uint32.seq uint64))))).imap
    (fun (s, d, ep, data, length, timeout) => ⟨s, d, ep, data, length, timeout⟩)
    (fun r => (r.sessionId, r.deviceId, r.endpoint, r.data, r.length, r.timeoutMs)) fun _ => rfl

def transferResponse : Format TransferResponse :=
  (uint64.seq (deviceId.seq (bool.seq (bytes.seq (uint32.seq string.option))))).imap
    (fun (s, d, ok, data, n, err) => ⟨s, d, ok, data, n, err⟩)
    (fun r => (r.sessionId, r.deviceId, r.success, r.data, r.bytesTransferred, r.errorMessage))
    fun _ => rfl

def claimInterfaceRequest : Format ClaimInterfaceRequest :=
  (uint64.seq (deviceId.seq byte)).imap (fun (s, d, n) => ⟨s, d, n⟩)
    (fun r => (r.sessionId, r.deviceId, r.interfaceNumber)) fun _ => rfl

def claimInterfaceResponse : Format ClaimInterfaceResponse :=
  (bool.seq string.option).imap (fun (ok, err) => ⟨ok, err⟩)
    (fun r => (r.success, r.errorMessage)) fun _ => rfl

def releaseInterfaceRequest : Format ReleaseInterfaceRequest :=
  (uint64.seq (deviceId.seq byte)).imap (fun (s, d, n) => ⟨s, d, n⟩)
    (fun r => (r.sessionId, r.deviceId, r.interfaceNumber)) fun _ => rfl

def releaseInterfaceResponse : Format ReleaseInterfaceResponse :=
  (bool.seq string.option).imap (fun (ok, err) => ⟨ok, err⟩)
    (fun r => (r.success, r.errorMessage)) fun _ => rfl

def setConfigurationRequest : Format SetConfigurationRequest :=
  (uint64.seq (deviceId.seq byte)).imap (fun (s, d, n) => ⟨s, d, n⟩)
    (fun r => (r.sessionId, r.deviceId, r.configuration)) fun _ => rfl

def setConfigurationResponse : Format SetConfigurationResponse :=
  (bool.seq string.option).imap (fun (ok, err) => ⟨ok, err⟩)
    (fun r => (r.success, r.errorMessage)) fun _ => rfl

def bridgeRequest : Format BridgeRequest := deviceId.imap (fun d => ⟨d⟩) (·.deviceId) fun _ => rfl

def bridgeAcceptedResponse : Format BridgeAcceptedResponse :=
  (deviceId.seq (string.seq (uint32.seq (byte.seq (uint16.seq (uint16.seq (uint16.seq
    (byte.seq (byte.seq (byte.seq (byte.seq (byte.seq byte)))))))))))).imap
    (fun (d, busid, devid, speed, vid, pid, bcd, cls, sub, proto, cfgs, ifs, cfg) =>
      ⟨d, busid, devid, speed, vid, pid, bcd, cls, sub, proto, cfgs, ifs, cfg⟩)
    (fun r => (r.deviceId, r.busid, r.devid, r.speed, r.vendorId, r.productId, r.bcdDevice,
      r.deviceClass, r.deviceSubclass, r.deviceProtocol, r.numConfigurations, r.numInterfaces,
      r.configValue))
    fun _ => rfl

def bridgeRejectedResponse : Format BridgeRejectedResponse :=
  string.imap (fun e => ⟨e⟩) (·.errorMessage) fun _ => rfl

def errorCode : Format ErrorCode :=
  enumeration
    (fun
      | .protocolVersionMismatch => 0 | .authenticationFailed => 1 | .deviceNotFound => 2
      | .deviceAlreadyAttached => 3 | .deviceNotAttached => 4 | .invalidSession => 5
      | .transferFailed => 6 | .usbError => 7 | .internalError => 8)
    (fun
      | 0 => some .protocolVersionMismatch | 1 => some .authenticationFailed
      | 2 => some .deviceNotFound | 3 => some .deviceAlreadyAttached
      | 4 => some .deviceNotAttached | 5 => some .invalidSession | 6 => some .transferFailed
      | 7 => some .usbError | 8 => some .internalError | _ => none)
    (fun c => by cases c <;> rfl)

def errorResponse : Format ErrorResponse :=
  (errorCode.seq string).imap (fun (code, text) => ⟨code, text⟩)
    (fun r => (r.code, r.message)) fun _ => rfl

end Types

/-! ## Messages -/

/-- The index of a variant, whether its fields fit, and their bytes. -/
def variant {α : Type} (index : Nat) (f : Format α) (a : α) : Nat × Bool × Bytes :=
  (index, f.fits a, f.write a)

def writeVariant : Message → Nat × Bool × Bytes
  | .hello req => variant 0 helloRequest req
  | .helloResponse resp => variant 1 helloResponse resp
  | .listDevices => variant 2 .unit ()
  | .deviceList resp => variant 3 deviceListResponse resp
  | .getDescriptors req => variant 4 getDescriptorsRequest req
  | .descriptorData resp => variant 5 descriptorDataResponse resp
  | .attach req => variant 6 attachRequest req
  | .attachResult resp => variant 7 attachResponse resp
  | .detach req => variant 8 detachRequest req
  | .detachResult resp => variant 9 detachResponse resp
  | .controlTransfer req => variant 10 controlTransferRequest req
  | .bulkTransfer req => variant 11 bulkTransferRequest req
  | .interruptTransfer req => variant 12 interruptTransferRequest req
  | .transferResult resp => variant 13 transferResponse resp
  | .claimInterface req => variant 14 claimInterfaceRequest req
  | .claimInterfaceResult resp => variant 15 claimInterfaceResponse resp
  | .releaseInterface req => variant 16 releaseInterfaceRequest req
  | .releaseInterfaceResult resp => variant 17 releaseInterfaceResponse resp
  | .setConfiguration req => variant 18 setConfigurationRequest req
  | .setConfigurationResult resp => variant 19 setConfigurationResponse resp
  | .bridge req => variant 20 bridgeRequest req
  | .bridgeAccepted resp => variant 21 bridgeAcceptedResponse resp
  | .bridgeRejected resp => variant 22 bridgeRejectedResponse resp
  | .error resp => variant 23 errorResponse resp
  | .ping => variant 24 .unit ()
  | .pong => variant 25 .unit ()

def readVariant : Nat → Bytes → Option (Message × Bytes)
  | 0 => helloRequest.readAs .hello
  | 1 => helloResponse.readAs .helloResponse
  | 2 => Format.unit.readAs fun _ => .listDevices
  | 3 => deviceListResponse.readAs .deviceList
  | 4 => getDescriptorsRequest.readAs .getDescriptors
  | 5 => descriptorDataResponse.readAs .descriptorData
  | 6 => attachRequest.readAs .attach
  | 7 => attachResponse.readAs .attachResult
  | 8 => detachRequest.readAs .detach
  | 9 => detachResponse.readAs .detachResult
  | 10 => controlTransferRequest.readAs .controlTransfer
  | 11 => bulkTransferRequest.readAs .bulkTransfer
  | 12 => interruptTransferRequest.readAs .interruptTransfer
  | 13 => transferResponse.readAs .transferResult
  | 14 => claimInterfaceRequest.readAs .claimInterface
  | 15 => claimInterfaceResponse.readAs .claimInterfaceResult
  | 16 => releaseInterfaceRequest.readAs .releaseInterface
  | 17 => releaseInterfaceResponse.readAs .releaseInterfaceResult
  | 18 => setConfigurationRequest.readAs .setConfiguration
  | 19 => setConfigurationResponse.readAs .setConfigurationResult
  | 20 => bridgeRequest.readAs .bridge
  | 21 => bridgeAcceptedResponse.readAs .bridgeAccepted
  | 22 => bridgeRejectedResponse.readAs .bridgeRejected
  | 23 => errorResponse.readAs .error
  | 24 => Format.unit.readAs fun _ => .ping
  | 25 => Format.unit.readAs fun _ => .pong
  | _ => fun _ => none

theorem readVariant_write (m : Message) (rest : Bytes) (h : (writeVariant m).2.1 = true) :
    readVariant (writeVariant m).1 ((writeVariant m).2.2 ++ rest) = some (m, rest) := by
  cases m with
  | listDevices => rfl
  | ping => rfl
  | pong => rfl
  | _ => exact Format.readAs_write _ _ _ rest h

theorem variant_lt (m : Message) : (writeVariant m).1 < 26 := by
  cases m <;> exact of_decide_eq_true rfl

def message : Format Message where
  fits m := (writeVariant m).2.1
  write m := Format.writeVarint (writeVariant m).1 ++ (writeVariant m).2.2
  read bytes :=
    match Format.readVarint 4 bytes with
    | none => none
    | some (index, rest) => readVariant index rest
  read_write m rest h := by
    have hindex : (writeVariant m).1 < 256 ^ 4 :=
      Nat.lt_trans (variant_lt m) (by decide)
    rw [List.append_assoc, Format.readVarint_write (Or.inr (Or.inl rfl)) hindex]
    exact readVariant_write m rest h

/-- The crate's documented format. A value without a representation has a
length that no Rust value has. -/
def standard : Bincode where
  encodeToVec m := if message.fits m then .ok (message.write m) else .error "length"
  decodeFromSlice payload :=
    match message.read payload with
    | none => .error "invalid"
    | some (m, rest) => .ok (m, payload.length - rest.length)

theorem standard_roundTrips : standard.RoundTrips := by
  intro m payload h
  unfold standard at h ⊢
  dsimp only at h ⊢
  split at h
  · rename_i hfits
    obtain rfl := Except.ok.inj h
    have hread := message.read_write m [] hfits
    rw [List.append_nil] at hread
    rw [hread]
    exact ⟨_, rfl⟩
  · cases h

/-! ## Fronts -/

instance : Format.SelfDelimiting deviceId.read := by
  unfold deviceId
  infer_instance

instance : Format.SelfDelimiting deviceInfo.read := by
  unfold deviceInfo version usbSpeed
  infer_instance

instance : Format.SelfDelimiting interfaceInfo.read := by
  unfold interfaceInfo endpointInfo usbDirection usbTransferType
  infer_instance

instance : Format.SelfDelimiting configurationInfo.read := by
  unfold configurationInfo
  infer_instance

instance (n : Nat) : Format.SelfDelimiting (readVariant n) := by
  unfold readVariant helloRequest helloResponse deviceListResponse getDescriptorsRequest
    descriptorDataResponse deviceDescriptorTree attachRequest attachResponse detachRequest
    detachResponse controlTransferRequest bulkTransferRequest interruptTransferRequest
    transferResponse claimInterfaceRequest claimInterfaceResponse releaseInterfaceRequest
    releaseInterfaceResponse setConfigurationRequest setConfigurationResponse bridgeRequest
    bridgeAcceptedResponse bridgeRejectedResponse errorResponse errorCode
  split
  case h_27 => exact ⟨fun _ _ _ h => nomatch h⟩
  all_goals infer_instance

instance : Format.SelfDelimiting message.read :=
  Format.bind_selfDelimiting (Format.readVarint 4) readVariant fun bytes => by
    cases h : Format.readVarint 4 bytes <;> simp [message, h]

theorem standard_refusesPrefixes : standard.RefusesPrefixes := by
  intro m payload k h hk
  unfold standard at h ⊢
  dsimp only at h ⊢
  split at h
  · rename_i hfits
    obtain rfl := Except.ok.inj h
    rw [Format.read_take_eq_none message hfits hk]
    exact ⟨_, rfl⟩
  · cases h

theorem standard_countsUsed : standard.CountsUsed := by
  intro payload m n h
  simp only [standard] at h ⊢
  split at h
  · cases h
  · rename_i m' rest hread
    cases h
    obtain ⟨front, rfl, hfront⟩ := Format.SelfDelimiting.read_front payload m rest hread
    have hused : (front ++ rest).length - rest.length = front.length := by simp
    rw [hused]
    refine ⟨by simp, fun more => ?_⟩
    rw [List.take_left, hfront]
    simp

end Bincode

end WolfUsb
