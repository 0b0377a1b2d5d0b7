/-
WolfUsb.Network.ReplySizes — every reply of the server is below 4 GiB, so
`encode` does not truncate its length.

The texts of a reply are the server's own or those of `rusb` and of a lost
task, and its lists are as long as what libusb returns: `WithinUsb` has the
limits of USB and of the crates, and `Bincode.Proportionate` says that an
encoding is not much longer than what it encodes.
-/
import WolfUsb.Network.HandshakeSizes

namespace WolfUsb

open WolfUsb.Lib

/-! ## The weight of a reply -/

def optionSize (s : Option String) : Nat := (s.getD "").utf8ByteSize

def DeviceInfo.weight (i : DeviceInfo) : Nat :=
  optionSize i.manufacturer + optionSize i.product + optionSize i.serialNumber + 100

def InterfaceInfo.weight (i : InterfaceInfo) : Nat :=
  optionSize i.description + 100 * i.endpoints.length + 100

def ConfigurationInfo.weight (c : ConfigurationInfo) : Nat :=
  optionSize c.description + (c.interfaces.map InterfaceInfo.weight).sum + 100

/-- The texts and byte strings of a reply, and a hundred bytes for each
record in it. -/
def Message.weight : Message → Option Nat
  | .deviceList resp => some ((resp.devices.map DeviceInfo.weight).sum + 100)
  | .descriptorData resp =>
      some (resp.descriptors.device.weight +
        (resp.descriptors.configurations.map ConfigurationInfo.weight).sum + 100)
  | .attachResult resp => some (optionSize resp.errorMessage + 100)
  | .detachResult resp => some (optionSize resp.errorMessage + 100)
  | .transferResult resp => some (optionSize resp.errorMessage + resp.data.length + 100)
  | .claimInterfaceResult resp => some (optionSize resp.errorMessage + 100)
  | .releaseInterfaceResult resp => some (optionSize resp.errorMessage + 100)
  | .setConfigurationResult resp => some (optionSize resp.errorMessage + 100)
  | .pong => some 100
  | m => m.textSize.map (· + 100)

namespace Bincode

/-- A reply is encoded in no more bytes than its weight. -/
def Proportionate (b : Bincode) : Prop :=
  ∀ m n payload, m.weight = some n → b.encodeToVec m = .ok payload → payload.length ≤ n

section Lengths

open Format

theorem list_length_le {α : Type} (f : Format α) (weight : α → Nat)
    (h : ∀ a, (f.write a).length ≤ weight a) (xs : List α) :
    (f.list.write xs).length ≤ (xs.map weight).sum + 9 := by
  have hprefix := writeVarint_length_le xs.length
  have hlen : (f.list.write xs).length = (writeVarint xs.length).length +
      (xs.flatMap f.write).length := List.length_append
  have hsum : (xs.flatMap f.write).length ≤ (xs.map weight).sum := by
    induction xs with
    | nil => exact Nat.le_refl 0
    | cons x rest ih =>
        have hx := h x
        have hrest := ih (writeVarint_length_le _) List.length_append
        rw [List.flatMap_cons, List.length_append, List.map_cons, List.sum_cons]
        omega
  omega

theorem uint64_length_le (v : UInt64) : (uint64.write v).length ≤ 9 := writeVarint_length_le _

theorem deviceId_length (d : DeviceId) : (Bincode.deviceId.write d).length = 2 := rfl

theorem version_length (v : UInt8 × UInt8 × UInt8) : (Bincode.version.write v).length = 3 := rfl

theorem option_uint64_length_le (v : Option UInt64) : (uint64.option.write v).length ≤ 10 := by
  cases v with
  | none => exact Nat.succ_le_succ (Nat.zero_le _)
  | some v => exact Nat.succ_le_succ (uint64_length_le v)

theorem deviceInfo_length_le (i : DeviceInfo) : (Bincode.deviceInfo.write i).length ≤ i.weight := by
  have hvendor := uint16_length_le i.vendorId
  have hproduct := uint16_length_le i.productId
  have hspeed : (Bincode.usbSpeed.write i.speed).length ≤ 9 := writeVarint_length_le _
  have hmanufacturer := optionString_length_le i.manufacturer
  have hname := optionString_length_le i.product
  have hserial := optionString_length_le i.serialNumber
  simp only [Bincode.deviceInfo, imap_length, seq_length, deviceId_length, version_length,
    byte_length, DeviceInfo.weight, optionSize]
  grind

theorem endpointInfo_length_le (e : EndpointInfo) :
    (Bincode.endpointInfo.write e).length ≤ 100 := by
  have hdirection : (Bincode.usbDirection.write e.direction).length ≤ 9 := writeVarint_length_le _
  have htype : (Bincode.usbTransferType.write e.transferType).length ≤ 9 :=
    writeVarint_length_le _
  have hsize := uint16_length_le e.maxPacketSize
  simp only [Bincode.endpointInfo, imap_length, seq_length, byte_length]
  omega

theorem interfaceInfo_length_le (i : InterfaceInfo) :
    (Bincode.interfaceInfo.write i).length ≤ i.weight := by
  have hdescription := optionString_length_le i.description
  have hendpoints := list_length_le _ (fun _ => 100) endpointInfo_length_le i.endpoints
  rw [List.map_const', List.sum_replicate_nat] at hendpoints
  simp only [Bincode.interfaceInfo, imap_length, seq_length, byte_length, InterfaceInfo.weight,
    optionSize]
  omega

theorem configurationInfo_length_le (c : ConfigurationInfo) :
    (Bincode.configurationInfo.write c).length ≤ c.weight := by
  have hpower := uint16_length_le c.maxPowerMa
  have hdescription := optionString_length_le c.description
  have hinterfaces := list_length_le _ _ interfaceInfo_length_le c.interfaces
  simp only [Bincode.configurationInfo, imap_length, seq_length, byte_length, bool_length,
    ConfigurationInfo.weight, optionSize]
  omega

end Lengths

theorem standard_proportionate : standard.Proportionate := by
  intro m n payload hn henc
  have hwrite : payload = message.write m := by
    unfold standard at henc
    dsimp only at henc
    split at henc
    · exact (Except.ok.inj henc).symm
    · cases henc
  have hlen : (message.write m).length
      = (Format.writeVarint (writeVariant m).1).length + (writeVariant m).2.2.length :=
    List.length_append
  have hindex := writeVarint_length_le (writeVariant m).1
  have hbody : (writeVariant m).2.2.length + 9 ≤ n ∨ ∃ k, m.textSize = some k ∧ n = k + 100 := by
    cases m with
    | deviceList resp =>
        obtain rfl := Option.some.inj hn
        have hdevices := list_length_le _ _ deviceInfo_length_le resp.devices
        simp only [writeVariant, variant, deviceListResponse, imap_length]
        omega
    | descriptorData resp =>
        obtain rfl := Option.some.inj hn
        have hdevice := deviceInfo_length_le resp.descriptors.device
        have hconfigs := list_length_le _ _ configurationInfo_length_le
          resp.descriptors.configurations
        simp only [writeVariant, variant, descriptorDataResponse, deviceDescriptorTree,
          imap_length, seq_length, deviceId_length]
        omega
    | attachResult resp =>
        obtain rfl := Option.some.inj hn
        have herror := optionString_length_le resp.errorMessage
        have hsession := option_uint64_length_le resp.sessionId
        simp only [writeVariant, variant, attachResponse, imap_length, seq_length,
          deviceId_length, bool_length, optionSize]
        omega
    | detachResult resp =>
        obtain rfl := Option.some.inj hn
        have herror := optionString_length_le resp.errorMessage
        simp only [writeVariant, variant, detachResponse, imap_length, seq_length,
          deviceId_length, bool_length, optionSize]
        omega
    | transferResult resp =>
        obtain rfl := Option.some.inj hn
        have hsession := uint64_length_le resp.sessionId
        have hdata := bytes_length_le resp.data
        have hcount := uint32_length_le resp.bytesTransferred
        have herror := optionString_length_le resp.errorMessage
        simp only [writeVariant, variant, transferResponse, imap_length, seq_length,
          deviceId_length, bool_length, optionSize]
        omega
    | claimInterfaceResult resp =>
        obtain rfl := Option.some.inj hn
        have herror := optionString_length_le resp.errorMessage
        simp only [writeVariant, variant, claimInterfaceResponse, imap_length, seq_length,
          bool_length, optionSize]
        omega
    | releaseInterfaceResult resp =>
        obtain rfl := Option.some.inj hn
        have herror := optionString_length_le resp.errorMessage
        simp only [writeVariant, variant, releaseInterfaceResponse, imap_length, seq_length,
          bool_length, optionSize]
        omega
    | setConfigurationResult resp =>
        obtain rfl := Option.some.inj hn
        have herror := optionString_length_le resp.errorMessage
        simp only [writeVariant, variant, setConfigurationResponse, imap_length, seq_length,
          bool_length, optionSize]
        omega
    | pong =>
        obtain rfl := Option.some.inj hn
        exact Or.inl (by decide)
    | _ =>
        simp only [Message.weight, Option.map_eq_some_iff] at hn
        obtain ⟨k, hk, rfl⟩ := hn
        exact Or.inr ⟨k, hk, rfl⟩
  rcases hbody with hbody | ⟨k, hk, rfl⟩
  · rw [hwrite, hlen]
    omega
  · exact standard_compact m k payload hk henc

end Bincode

/-! ## What the host returns -/

/-- The bytes of the interface and endpoint descriptors of a
configuration. -/
def ConfigDescriptor.size (c : ConfigDescriptor) : Nat :=
  ((c.interfaces.flatMap Interface.descriptors).map fun setting =>
    7 * setting.endpointDescriptors.length + 9).sum

/-- The limits of what the server is given: a device for each bus and
address, 16 bits for the total length of a configuration, 8 for that of a
string descriptor, and short error texts and tags. -/
structure Platform.WithinUsb {W : Type} (p : Platform W) : Prop where
  devices : ∀ w ds, (p.usb .devices w).1 = (.ok ds : Except RusbError (List UsbDevice)) →
    ds.length ≤ 2 ^ 16
  configs : ∀ device index w c,
    (p.usb (.configDescriptor device index) w).1 = (.ok c : Except RusbError ConfigDescriptor) →
      c.size < 2 ^ 16
  strings : ∀ handle index w s,
    (p.usb (.readStringDescriptorAscii handle index) w).1 = (.ok s : Except RusbError String) →
      s.utf8ByteSize < 2 ^ 8
  errors : ∀ e, (p.usbErrorText e).utf8ByteSize ≤ 1000
  tags : ShortTags p

section Descriptors

open DeviceManager

variable {W : Type} {p : Platform W} (hp : p.WithinUsb)
include hp

theorem readStringDescOpt_size (handle : Option Handle) (index : Option UInt8) (u : Bus W) :
    optionSize (readStringDescOpt p handle index u).1 ≤ 255 := by
  have hnone : optionSize none ≤ 255 := Nat.zero_le _
  unfold readStringDescOpt
  split
  · rename_i h
    unfold readStringDesc
    split
    · exact hnone
    · rename_i idx
      split
      · exact hnone
      · split
        · rename_i s u' hcall
          have hs := hp.strings h idx u.world s (congrArg Prod.fst hcall)
          exact Nat.le_of_lt_succ hs
        · exact hnone
  · exact hnone

theorem deviceInfo_weight (device : UsbDevice) (desc : DeviceDescriptor) (handle : Option Handle)
    (deviceId : DeviceId) (u : Bus W) :
    (deviceInfo p device desc handle deviceId u).1.weight ≤ 865 := by
  have hmanufacturer := readStringDescOpt_size hp handle desc.manufacturerStringIndex u
  generalize hu₁ : (readStringDescOpt p handle desc.manufacturerStringIndex u).2 = u₁
  have hproduct := readStringDescOpt_size hp handle desc.productStringIndex u₁
  generalize hu₂ : (readStringDescOpt p handle desc.productStringIndex u₁).2 = u₂
  have hserial := readStringDescOpt_size hp handle desc.serialNumberStringIndex u₂
  subst hu₁ hu₂
  simp only [deviceInfo, DeviceInfo.weight]
  omega

theorem listDevicesFrom_weight (ds : List UsbDevice) (u : Bus W) :
    ((listDevicesFrom p ds u).1.map DeviceInfo.weight).sum ≤ 865 * ds.length := by
  induction ds generalizing u with
  | nil => exact Nat.zero_le _
  | cons device rest ih =>
      unfold listDevicesFrom
      rw [List.length_cons]
      split
      · rename_i e u' hcall
        have hrest := ih u'
        omega
      · rename_i desc u' hcall
        have hdevice := deviceInfo_weight hp device desc (openOk p device u').1
          ⟨device.busNumber, device.address⟩ (openOk p device u').2
        have hrest := ih (deviceInfo p device desc (openOk p device u').1
          ⟨device.busNumber, device.address⟩ (openOk p device u').2).2
        dsimp only
        rw [List.map_cons, List.sum_cons]
        omega

theorem listDevices_weight {u u' : Bus W} {ds : List DeviceInfo}
    (h : listDevices p u = (.ok ds, u')) : (ds.map DeviceInfo.weight).sum ≤ 865 * 2 ^ 16 := by
  unfold listDevices at h
  split at h
  · cases h
  · rename_i found u₁ hcall
    have hcount := hp.devices u.world found (congrArg Prod.fst hcall)
    have hweight := listDevicesFrom_weight hp found u₁
    obtain rfl := Except.ok.inj (Prod.mk.inj h).1
    omega

/-- The settings of a configuration weigh in proportion to the bytes they
were read from. -/
theorem interfaceInfos_weight (handle : Option Handle) (settings : List InterfaceDescriptor)
    (u : Bus W) :
    ((interfaceInfos p handle settings u).1.map InterfaceInfo.weight).sum
      ≤ 40 * (settings.map fun setting => 7 * setting.endpointDescriptors.length + 9).sum := by
  induction settings generalizing u with
  | nil => exact Nat.zero_le _
  | cons setting rest ih =>
      have hdescription := readStringDescOpt_size hp handle setting.descriptionStringIndex u
      have hrest := ih (readStringDescOpt p handle setting.descriptionStringIndex u).2
      simp only [interfaceInfos, List.map_cons, List.sum_cons, InterfaceInfo.weight]
      omega

theorem configurationInfos_weight (device : UsbDevice) (handle : Option Handle)
    (indexes : List Nat) (u : Bus W) :
    ((configurationInfos p device handle indexes u).1.map ConfigurationInfo.weight).sum
      ≤ 2700000 * indexes.length := by
  induction indexes generalizing u with
  | nil => exact Nat.zero_le _
  | cons index rest ih =>
      unfold configurationInfos
      rw [List.length_cons]
      split
      · rename_i e u' hcall
        have hrest := ih u'
        omega
      · rename_i config u₁ hcall
        have hsize : config.size < 2 ^ 16 :=
          hp.configs device (UInt8.ofNat index) u.world config (congrArg Prod.fst hcall)
        have hdescription := readStringDescOpt_size hp handle config.descriptionStringIndex u₁
        generalize hu₂ : (readStringDescOpt p handle config.descriptionStringIndex u₁).2 = u₂
        have hinterfaces := interfaceInfos_weight hp handle
          (config.interfaces.flatMap Interface.descriptors) u₂
        generalize hu₃ : (interfaceInfos p handle
          (config.interfaces.flatMap Interface.descriptors) u₂).2 = u₃
        have hrest := ih u₃
        subst hu₂ hu₃
        unfold ConfigDescriptor.size at hsize
        simp only [List.map_cons, List.sum_cons, ConfigurationInfo.weight]
        omega

theorem getDescriptors_weight {deviceId : DeviceId} {u u' : Bus W} {tree : DeviceDescriptorTree}
    (h : getDescriptors p deviceId u = (.ok tree, u')) :
    tree.device.weight + (tree.configurations.map ConfigurationInfo.weight).sum
      ≤ 2700000 * 256 := by
  unfold getDescriptors at h
  split at h
  · cases h
  · rename_i device u₁ hfind
    split at h
    · cases h
    · rename_i desc u₂ hcall
      have hdevice := deviceInfo_weight hp device desc (openOk p device u₂).1 deviceId
        (openOk p device u₂).2
      have hconfigs := configurationInfos_weight hp device (openOk p device u₂).1
        (List.range desc.numConfigurations.toNat)
        (deviceInfo p device desc (openOk p device u₂).1 deviceId (openOk p device u₂).2).2
      have hcount := desc.numConfigurations.toNat_lt
      rw [List.length_range] at hconfigs
      have htree := Except.ok.inj (Prod.mk.inj h).1
      rw [← htree]
      refine Nat.le_trans (Nat.add_le_add hdevice hconfigs) ?_
      omega

end Descriptors

/-! ## Error texts -/

/-- The errors the manager's operations end with. -/
def WolfUsbError.FromManager : WolfUsbError → Prop
  | usbError _ | deviceNotFound _ _ | deviceAlreadyAttached | deviceNotAttached
  | invalidSession _ => True
  | _ => False

/-- A character takes at most four bytes. -/
theorem utf8ByteSize_le (s : String) : s.utf8ByteSize ≤ 4 * s.length := by
  have hlist : ∀ cs : List Char, (String.ofList cs).utf8ByteSize ≤ 4 * cs.length := by
    intro cs
    induction cs with
    | nil => exact Nat.zero_le _
    | cons c rest ih =>
        have hc := c.utf8Size_le_four
        have hsplit : String.ofList (c :: rest) = String.singleton c ++ String.ofList rest := by
          rw [String.singleton_eq_ofList, ← String.ofList_append]
          rfl
        rw [hsplit, String.utf8ByteSize_append, String.utf8ByteSize_singleton, List.length_cons]
        omega
  have h := hlist s.toList
  rwa [String.ofList_toList, String.length_toList] at h

/-- A decimal numeral is as long as it has digits. -/
theorem toString_size {n k : Nat} (hk : 0 < k) (h : n < 10 ^ k) :
    (toString n).utf8ByteSize ≤ 4 * k := by
  have hlen : (toString n).length ≤ k := (Nat.length_repr_le_iff hk).mpr h
  have hsize := utf8ByteSize_le (toString n)
  omega

namespace WolfUsbError.FromManager

theorem text_size {W : Type} {p : Platform W} (hp : p.WithinUsb) {e : WolfUsbError}
    (h : e.FromManager) : (e.text p).utf8ByteSize ≤ 2000 := by
  cases e with
  | usbError source =>
      have hlabel : "USB error: ".utf8ByteSize = 11 := by decide +kernel
      have hsource := hp.errors source
      show ("USB error: " ++ p.usbErrorText source).utf8ByteSize ≤ 2000
      rw [String.utf8ByteSize_append]
      omega
  | deviceNotFound bus addr =>
      have hlabel : "Device not found: bus=".utf8ByteSize + " addr=".utf8ByteSize = 28 := by
        decide +kernel
      have hbus := toString_uint8_size bus
      have haddr := toString_uint8_size addr
      show ("Device not found: bus=" ++ toString bus ++ " addr=" ++ toString addr).utf8ByteSize
        ≤ 2000
      simp only [String.utf8ByteSize_append]
      omega
  | deviceAlreadyAttached =>
      show "Device already attached by another client".utf8ByteSize ≤ 2000
      decide +kernel
  | deviceNotAttached =>
      show "Device not attached (no active session)".utf8ByteSize ≤ 2000
      decide +kernel
  | invalidSession s =>
      have hlabel : "Invalid session ID: ".utf8ByteSize = 20 := by decide +kernel
      have hs : (toString s).utf8ByteSize ≤ 4 * 20 :=
        toString_size (by decide) (Nat.lt_trans s.toNat_lt (by decide))
      show ("Invalid session ID: " ++ toString s).utf8ByteSize ≤ 2000
      rw [String.utf8ByteSize_append]
      omega
  | _ => exact h.elim

end WolfUsbError.FromManager

namespace DeviceManager

variable {W : Type} {p : Platform W} {m m' : DeviceManager} {d : DeviceId} {u u' : Bus W}
  {e : WolfUsbError}

theorem findDevice_error (h : findDevice p d u = (.error e, u')) : e.FromManager := by
  unfold findDevice at h
  split at h
  · cases h
    trivial
  · split at h
    · cases h
    · cases h
      trivial

theorem listDevices_error (h : listDevices p u = (.error e, u')) : e.FromManager := by
  unfold listDevices at h
  split at h
  · cases h
    trivial
  · cases h

theorem getDescriptors_error (h : getDescriptors p d u = (.error e, u')) : e.FromManager := by
  unfold getDescriptors at h
  split at h
  · rename_i e' u₁ hfind
    cases h
    exact findDevice_error hfind
  · split at h
    · cases h
      trivial
    · cases h

theorem attach_error {addr : SocketAddr} (h : m.attach p d addr u = (.error e, m', u')) :
    e.FromManager := by
  unfold attach at h
  split at h
  · cases h
    trivial
  · split at h
    · rename_i e' u₁ hfind
      cases h
      exact findDevice_error hfind
    · split at h
      · cases h
        trivial
      · split at h
        · cases h
          trivial
        · cases h

theorem detach_error {s : UInt64} (h : m.detach p d s u = (.error e, m', u')) :
    e.FromManager := by
  unfold detach at h
  split at h
  · cases h
    trivial
  · cases h

theorem OnHandle.error_fromManager {run : Handle → Bus W → Except RusbError Unit × Bus W}
    {after : AttachmentInfo → DeviceManager}
    (h : OnHandle m d u run after (.error e, m', u')) : e.FromManager := by
  cases h with
  | absent hd => trivial
  | failed hd hcall => trivial

theorem claimInterface_error {i : UInt8} (h : m.claimInterface p d i u = (.error e, m', u')) :
    e.FromManager :=
  (h ▸ claimInterface_onHandle p m d i u).error_fromManager

theorem releaseInterface_error {i : UInt8} (h : m.releaseInterface p d i u = (.error e, m', u')) :
    e.FromManager :=
  (h ▸ releaseInterface_onHandle p m d i u).error_fromManager

theorem setConfiguration_error {i : UInt8} (h : m.setConfiguration p d i u = (.error e, m', u')) :
    e.FromManager :=
  (h ▸ setConfiguration_onHandle p m d i u).error_fromManager

theorem getHandle_error (h : m.getHandle p d u = (.error e, u')) : e.FromManager := by
  unfold getHandle at h
  split at h
  · cases h
    trivial
  · split at h
    · cases h
      trivial
    · cases h

theorem validateSession_error {s : UInt64} (h : m.validateSession s d = .error e) :
    e.FromManager := by
  unfold validateSession at h
  split at h
  · split at h
    · cases h
    · cases h
      trivial
  · cases h
    trivial

end DeviceManager

/-! ## Replies -/

/-- The reply weighs less than 4 GiB. -/
def Message.Bounded (m : Message) : Prop := ∃ n, m.weight = some n ∧ n < 2 ^ 32

theorem Message.Bounded.fits {b : Bincode} (hb : b.Proportionate) {m : Message}
    (h : m.Bounded) : Codec.Fits b m := by
  obtain ⟨n, hn, hlt⟩ := h
  intro payload henc
  exact Nat.lt_of_le_of_lt (hb m n payload hn henc) hlt

theorem Message.Small.bounded {m : Message} (h : m.Small) : m.Bounded := by
  obtain ⟨n, hle, hn⟩ := h
  have hweight : m.weight = some (n + 100) := by
    cases m with
    | hello req => exact congrArg (Option.map (· + 100)) hn
    | helloResponse resp => exact congrArg (Option.map (· + 100)) hn
    | bridge req => exact congrArg (Option.map (· + 100)) hn
    | bridgeAccepted resp => exact congrArg (Option.map (· + 100)) hn
    | bridgeRejected resp => exact congrArg (Option.map (· + 100)) hn
    | error e => exact congrArg (Option.map (· + 100)) hn
    | _ => cases hn
  exact ⟨n + 100, hweight, by omega⟩

/-- A text of at most a megabyte. -/
def ShortText (s : String) : Prop := s.utf8ByteSize ≤ 2 ^ 20

instance (s : String) : Decidable (ShortText s) := inferInstanceAs (Decidable (_ ≤ _))

/-- The error of a lost task is short. -/
def ShortJoin (join : Option String) : Prop := ∀ e, join = some e → ShortText e

theorem WolfUsbError.FromManager.short {W : Type} {p : Platform W} (hp : p.WithinUsb)
    {e : WolfUsbError} (h : e.FromManager) : ShortText (e.text p) :=
  Nat.le_trans (h.text_size hp) (by decide)

theorem error_bounded {code : ErrorCode} {text : String} (h : ShortText text) :
    (Message.error { code, message := text }).Bounded := by
  unfold ShortText at h
  exact ⟨text.utf8ByteSize + 100, rfl, by omega⟩

/-- A response of which the session's ids, flags and a short text go into
the weight. -/
theorem bounded_of_text {m : Message} {text : String}
    (hm : m.weight = some (optionSize (some text) + 100)) (h : ShortText text) : m.Bounded := by
  refine ⟨_, hm, ?_⟩
  have hsize : optionSize (some text) ≤ 2 ^ 20 := h
  omega

theorem bounded_of_none {m : Message} (hm : m.weight = some (optionSize none + 100)) :
    m.Bounded :=
  ⟨_, hm, by decide⟩

/-- A transfer's response: at most 16 MiB of data and a short text. -/
def Transfer.Light (resp : TransferResponse) : Prop :=
  resp.data.length ≤ 2 ^ 24 ∧ optionSize resp.errorMessage ≤ 2 ^ 20

theorem Transfer.Light.bounded {resp : TransferResponse} (h : Transfer.Light resp) :
    (Message.transferResult resp).Bounded := by
  obtain ⟨hdata, htext⟩ := h
  exact ⟨optionSize resp.errorMessage + resp.data.length + 100, rfl, by omega⟩

namespace Transfer

variable {W : Type} {p : Platform W}

theorem failure_light (s : UInt64) (d : DeviceId) {text : String} (h : ShortText text) :
    Light (failure s d text) :=
  ⟨Nat.zero_le _, h⟩

theorem errors_short (hp : p.WithinUsb) (e : RusbError) : ShortText (p.usbErrorText e) :=
  Nat.le_trans (hp.errors e) (by decide)

theorem readResponse_light (hp : p.WithinUsb) (s : UInt64) (d : DeviceId) {length : Nat}
    (hlength : length ≤ 2 ^ 24) (r : Except RusbError (Nat × Bytes)) :
    Light (readResponse p s d length r) := by
  cases r with
  | error e => exact failure_light s d (errors_short hp e)
  | ok r =>
      obtain ⟨n, bytes⟩ := r
      refine ⟨?_, Nat.zero_le _⟩
      simp only [readResponse, success, filledBuffer, List.length_take, List.length_append,
        List.length_replicate]
      omega

theorem writeResponse_light (hp : p.WithinUsb) (s : UInt64) (d : DeviceId)
    (r : Except RusbError Nat) : Light (writeResponse p s d r) := by
  cases r with
  | error e => exact failure_light s d (errors_short hp e)
  | ok n => exact ⟨Nat.zero_le _, Nat.zero_le _⟩

theorem cappedLength_light {length : UInt32} {s : UInt64} {d : DeviceId} :
    (∀ resp, cappedLength length s d = .error resp → Light resp) ∧
      ∀ len, cappedLength length s d = .ok len → len ≤ 2 ^ 24 := by
  unfold cappedLength
  split
  · refine ⟨fun resp h => ?_, nofun⟩
    obtain rfl := Except.error.inj h
    refine failure_light s d ?_
    have hlabel : "Requested length ".utf8ByteSize + " exceeds maximum ".utf8ByteSize = 34 := by
      decide +kernel
    have hlen : (toString length).utf8ByteSize ≤ 4 * 10 :=
      toString_size (by decide) (Nat.lt_trans length.toNat_lt (by decide))
    have hmax : (toString maxTransferBuffer).utf8ByteSize ≤ 4 * 10 :=
      toString_size (by decide) (Nat.lt_trans maxTransferBuffer.toNat_lt (by decide))
    simp only [ShortText, String.utf8ByteSize_append]
    omega
  · rename_i hle
    refine ⟨nofun, fun len h => ?_⟩
    obtain rfl := Except.ok.inj h
    rw [gt_iff_lt, UInt32.lt_iff_toNat_lt] at hle
    have hmax : maxTransferBuffer.toNat = 2 ^ 24 := by decide
    omega

theorem executeControlTransfer_light (hp : p.WithinUsb) (handle : Handle)
    (req : ControlTransferRequest) (u : Bus W) :
    Light (executeControlTransfer p handle req u).1 := by
  unfold executeControlTransfer
  dsimp only
  split
  · exact readResponse_light hp _ _ (Nat.le_trans (Nat.le_of_lt req.length.toNat_lt) (by decide)) _
  · exact writeResponse_light hp _ _ _

theorem executeBulkTransfer_light (hp : p.WithinUsb) (handle : Handle)
    (req : BulkTransferRequest) (u : Bus W) : Light (executeBulkTransfer p handle req u).1 := by
  unfold executeBulkTransfer
  dsimp only
  split
  · split
    · rename_i resp hcap
      exact cappedLength_light.1 resp hcap
    · rename_i len hcap
      exact readResponse_light hp _ _ (cappedLength_light.2 len hcap) _
  · exact writeResponse_light hp _ _ _

theorem executeInterruptTransfer_light (hp : p.WithinUsb) (handle : Handle)
    (req : InterruptTransferRequest) (u : Bus W) :
    Light (executeInterruptTransfer p handle req u).1 := by
  unfold executeInterruptTransfer
  dsimp only
  split
  · split
    · rename_i resp hcap
      exact cappedLength_light.1 resp hcap
    · rename_i len hcap
      exact readResponse_light hp _ _ (cappedLength_light.2 len hcap) _
  · exact writeResponse_light hp _ _ _

end Transfer

namespace Connection

variable {W : Type}

/-- What `spawn_blocking` yields is the task's own. -/
theorem spawnBlocking_ok {α : Type} {join : Option String} {task : Shared W → α × Shared W}
    {sh sh' : Shared W} {a : α} (h : spawnBlocking join task sh = (.ok a, sh')) :
    (task sh).1 = a := by
  cases join with
  | none => exact Except.ok.inj (Prod.mk.inj h).1
  | some e => cases h

theorem spawnBlocking_error {α : Type} {join : Option String} (hjoin : ShortJoin join)
    {task : Shared W → α × Shared W} {sh sh' : Shared W} {e : String}
    (h : spawnBlocking join task sh = (.error e, sh')) : ShortText e := by
  cases join with
  | none => cases h
  | some e' =>
      cases h
      exact hjoin _ rfl

variable {p : Platform W} (hp : p.WithinUsb)
include hp

theorem handleHello_bounded (conn : Connection) (req : HelloRequest) :
    (conn.handleHello p req).1.Bounded := by
  by_cases hversion : req.protocolVersion = protocolVersion
  · exact (handleHello_small hp.tags conn hversion).bounded
  · unfold handleHello
    rw [if_pos hversion]
    have hname : "wolfusb".utf8ByteSize = 7 := by decide +kernel
    have hlabel : "Protocol version mismatch: server=".utf8ByteSize + ", client=".utf8ByteSize
        = 43 := by decide +kernel
    have hserver : (toString protocolVersion).utf8ByteSize ≤ 4 * 10 :=
      toString_size (by decide) (Nat.lt_trans protocolVersion.toNat_lt (by decide))
    have hclient : (toString req.protocolVersion).utf8ByteSize ≤ 4 * 10 :=
      toString_size (by decide) (Nat.lt_trans req.protocolVersion.toNat_lt (by decide))
    refine Message.Small.bounded ⟨_, ?_, rfl⟩
    show "wolfusb".utf8ByteSize + 0 + ("Protocol version mismatch: server=" ++
      toString protocolVersion ++ ", client=" ++ toString req.protocolVersion).utf8ByteSize ≤ 300
    simp only [String.utf8ByteSize_append]
    omega

theorem transferHandle_short {conn : Connection} {s : UInt64} {d : DeviceId} {sh sh' : Shared W}
    {e : String} (h : transferHandle p conn s d sh = (.error e, sh')) : ShortText e := by
  unfold transferHandle at h
  split at h
  · cases h
    decide +kernel
  · split at h
    · rename_i e' hvalid
      cases h
      exact (DeviceManager.validateSession_error hvalid).short hp
    · split at h
      · rename_i e' u hhandle
        cases h
        exact (DeviceManager.getHandle_error hhandle).short hp
      · cases h

section Handlers

variable {join : Option String} (hjoin : ShortJoin join)
include hjoin

theorem handleListDevices_bounded (sh : Shared W) : (handleListDevices p join sh).1.Bounded := by
  unfold handleListDevices
  split
  · rename_i devices sh' htask
    have hlist := spawnBlocking_ok htask
    have hweight := listDevices_weight hp (u := sh.bus) (Prod.ext hlist rfl)
    refine ⟨_, rfl, ?_⟩
    dsimp only
    omega
  · rename_i e sh' htask
    have hlist := spawnBlocking_ok htask
    have herror := DeviceManager.listDevices_error (p := p) (u := sh.bus) (Prod.ext hlist rfl)
    exact error_bounded (herror.short hp)
  · rename_i e sh' htask
    exact error_bounded (spawnBlocking_error hjoin htask)

theorem handleGetDescriptors_bounded (req : GetDescriptorsRequest) (sh : Shared W) :
    (handleGetDescriptors p join req sh).1.Bounded := by
  unfold handleGetDescriptors
  split
  · rename_i tree sh' htask
    have hread := spawnBlocking_ok htask
    have hweight := getDescriptors_weight hp (u := sh.bus) (Prod.ext hread rfl)
    refine ⟨_, rfl, ?_⟩
    dsimp only
    omega
  · rename_i e sh' htask
    have hread := spawnBlocking_ok htask
    have herror := DeviceManager.getDescriptors_error (p := p) (u := sh.bus) (Prod.ext hread rfl)
    exact error_bounded (herror.short hp)
  · rename_i e sh' htask
    exact error_bounded (spawnBlocking_error hjoin htask)

theorem handleAttach_bounded (conn : Connection) (req : AttachRequest) (sh : Shared W) :
    (handleAttach p join conn req sh).1.Bounded := by
  unfold handleAttach
  split
  · exact bounded_of_none rfl
  · rename_i e sh' htask
    have hattach := spawnBlocking_ok htask
    have herror := DeviceManager.attach_error (p := p) (m := sh.manager) (u := sh.bus)
      (Prod.ext hattach rfl)
    exact bounded_of_text rfl (herror.short hp)
  · rename_i e sh' htask
    exact bounded_of_text rfl (spawnBlocking_error hjoin htask)

theorem handleDetach_bounded (conn : Connection) (req : DetachRequest) (sh : Shared W) :
    (handleDetach p join conn req sh).1.Bounded := by
  unfold handleDetach
  split
  · exact bounded_of_text rfl (by decide +kernel)
  · split
    · exact bounded_of_none rfl
    · rename_i e sh' htask
      have hdetach := spawnBlocking_ok htask
      have herror := DeviceManager.detach_error (p := p) (m := sh.manager) (u := sh.bus)
        (Prod.ext hdetach rfl)
      exact bounded_of_text rfl (herror.short hp)
    · rename_i e sh' htask
      exact bounded_of_text rfl (spawnBlocking_error hjoin htask)

theorem handleTransfer_bounded (conn : Connection) {s : UInt64} {d : DeviceId}
    {execute : Handle → Bus W → TransferResponse × Bus W}
    (hlight : ∀ handle u, Transfer.Light (execute handle u).1) (sh : Shared W) :
    (handleTransfer p join conn s d execute sh).1.Bounded := by
  unfold handleTransfer
  split
  · rename_i e sh₁ hhandle
    exact (Transfer.failure_light s d (transferHandle_short hp hhandle)).bounded
  · rename_i handle sh₁ hhandle
    split
    · rename_i resp sh₂ htask
      have hexecute := spawnBlocking_ok htask
      rw [← hexecute]
      exact (hlight handle sh₁.bus).bounded
    · rename_i e sh₂ htask
      exact error_bounded (spawnBlocking_error hjoin htask)

theorem handleInterface_bounded (conn : Connection) (s : UInt64)
    {op : DeviceManager → Bus W → Except WolfUsbError Unit × DeviceManager × Bus W}
    (hop : ∀ m u e m' u', op m u = (.error e, m', u') → e.FromManager)
    {result : Bool → Option String → Message}
    (hresult : ∀ ok text, (result ok text).weight = some (optionSize text + 100))
    (sh : Shared W) : (handleInterface p join conn s op result sh).1.Bounded := by
  unfold handleInterface
  split
  · exact bounded_of_text (hresult _ _) (by decide +kernel)
  · split
    · exact bounded_of_none (hresult _ _)
    · rename_i e sh' htask
      have hdone := spawnBlocking_ok htask
      have herror := hop sh.manager sh.bus e _ _ (Prod.ext hdone rfl)
      exact bounded_of_text (hresult _ _) (herror.short hp)
    · rename_i e sh' htask
      exact bounded_of_text (hresult _ _) (spawnBlocking_error hjoin htask)

/-- The arms behind the gate. -/
theorem dispatch_bounded (conn : Connection) (msg : Message) (sh : Shared W) :
    (dispatch p join conn msg sh).1.message.Bounded := by
  have hunexpected : (internalError "Unexpected message type").Bounded :=
    error_bounded (by decide +kernel)
  cases msg with
  | listDevices => exact handleListDevices_bounded hp hjoin sh
  | getDescriptors req => exact handleGetDescriptors_bounded hp hjoin req sh
  | attach req => exact handleAttach_bounded hp hjoin conn req sh
  | detach req => exact handleDetach_bounded hp hjoin conn req sh
  | controlTransfer req =>
      exact handleTransfer_bounded hp hjoin conn
        (fun handle u => Transfer.executeControlTransfer_light hp handle req u) sh
  | bulkTransfer req =>
      exact handleTransfer_bounded hp hjoin conn
        (fun handle u => Transfer.executeBulkTransfer_light hp handle req u) sh
  | interruptTransfer req =>
      exact handleTransfer_bounded hp hjoin conn
        (fun handle u => Transfer.executeInterruptTransfer_light hp handle req u) sh
  | claimInterface req =>
      exact handleInterface_bounded hp hjoin conn req.sessionId
        (fun m u e m' u' h => DeviceManager.claimInterface_error h) (fun ok text => rfl) sh
  | releaseInterface req =>
      exact handleInterface_bounded hp hjoin conn req.sessionId
        (fun m u e m' u' h => DeviceManager.releaseInterface_error h) (fun ok text => rfl) sh
  | setConfiguration req =>
      exact handleInterface_bounded hp hjoin conn req.sessionId
        (fun m u e m' u' h => DeviceManager.setConfiguration_error h) (fun ok text => rfl) sh
  | bridge req => exact (handleBridge_small p join req sh).bounded
  | _ => exact hunexpected

/-- **No reply is of 4 GiB or more**, whatever the state and the message. -/
theorem handleMessage_bounded (conn : Connection) (msg : Message) (sh : Shared W) :
    (conn.handleMessage p join msg sh).1.message.Bounded := by
  unfold handleMessage
  split
  · rename_i req
    exact handleHello_bounded hp conn req
  · exact ⟨100, rfl, by decide⟩
  · split
    · exact error_bounded (by decide +kernel)
    · exact dispatch_bounded hp hjoin conn msg sh

end Handlers

end Connection

end WolfUsb
