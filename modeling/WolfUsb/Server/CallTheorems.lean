/-
WolfUsb.Server.CallTheorems — which libusb calls each function of the
server makes.

`Bus.Makes p P u u'` says that `u'` is `u` after calls that are all in `P`.
Enumeration, `find_device` and the replug check only ask for what is there
(`Asks`), and so does an `attach` that fails; the transfers, too, make no
call that manages an interface (`Spares`). What no call of a kind changes,
a function that makes only calls of that kind leaves as it is
(`Makes.preserves`).
-/
import WolfUsb.Server.DeviceManager
import WolfUsb.Server.Transfer

namespace WolfUsb

variable {W : Type} (p : Platform W)

/-- The calls that detach or attach a driver, claim or release an
interface, or set a configuration. -/
def UsbCall.manages : UsbCall → Bool
  | .detachKernelDriver _ _ | .attachKernelDriver _ _ | .claimInterface _ _
  | .releaseInterface _ _ | .setActiveConfiguration _ _ => true
  | _ => false

/-- The calls that list devices, read descriptors or open a device. -/
def UsbCall.asks : UsbCall → Bool
  | .devices | .globalDevices | .deviceDescriptor _ | .openDevice _ | .activeConfigDescriptor _
  | .configDescriptor _ _ | .readStringDescriptorAscii _ _ => true
  | _ => false

theorem UsbCall.manages_of_asks {c : UsbCall} (h : c.asks = true) : c.manages = false := by
  cases c with
  | devices | globalDevices | deviceDescriptor | openDevice | activeConfigDescriptor
  | configDescriptor | readStringDescriptorAscii => rfl
  | _ => cases h

/-- The calls that detach a kernel driver. -/
def UsbCall.detachesDriver : UsbCall → Bool
  | .detachKernelDriver _ _ => true
  | _ => false

namespace Bus

/-- Some calls in `P`, one after the other. -/
inductive Makes (P : UsbCall → Prop) : Bus W → Bus W → Prop
  | done (u : Bus W) : Makes P u u
  | call {u u' : Bus W} {c : UsbCall} (hc : P c) (rest : Makes P (p.call c u).2 u') : Makes P u u'

variable {p} {P Q : UsbCall → Prop} {u u' u'' : Bus W}

namespace Makes

theorem trans (h : Makes p P u u') (h' : Makes p P u' u'') : Makes p P u u'' := by
  induction h with
  | done u => exact h'
  | call hc _ ih => exact .call hc (ih h')

theorem mono (hPQ : ∀ c, P c → Q c) (h : Makes p P u u') : Makes p Q u u' := by
  induction h with
  | done u => exact .done u
  | call hc _ ih => exact .call (hPQ _ hc) ih

/-- One call. -/
theorem one {c : UsbCall} (hc : P c) : Makes p P u (p.call c u).2 := .call hc (.done _)

/-- A call whose answer is looked at. -/
theorem of_eq {c : UsbCall} {r : c.Res} (hc : P c) (h : p.call c u = (r, u')) :
    Makes p P u u' := by
  have hu : u' = (p.call c u).2 := by rw [h]
  rw [hu]
  exact .one hc

/-- The calls are recorded. -/
theorem calls (h : Makes p P u u') : ∃ new, u'.calls = u.calls ++ new ∧ ∀ c ∈ new, P c := by
  induction h with
  | done u => exact ⟨[], by simp, by simp⟩
  | @call u u' c hc _ ih =>
    obtain ⟨new, hcalls, hnew⟩ := ih
    refine ⟨c :: new, by simp [hcalls], ?_⟩
    intro c' hc'
    rcases List.mem_cons.mp hc' with rfl | hmem
    · exact hc
    · exact hnew c' hmem

/-- **What no call in `P` changes** is as it was. -/
theorem preserves {R : W → W → Prop} (hrefl : ∀ w, R w w)
    (htrans : ∀ w w' w'', R w w' → R w' w'' → R w w'')
    (hcall : ∀ c w, P c → R w (p.usb c w).2) (h : Makes p P u u') : R u.world u'.world := by
  induction h with
  | done u => exact hrefl u.world
  | @call u u' c hc _ ih => exact htrans _ _ _ (hcall c u.world hc) ih

end Makes

/-- No call manages an interface. -/
abbrev Spares (p : Platform W) : Bus W → Bus W → Prop := Makes p fun c => c.manages = false

/-- The calls only ask. -/
abbrev Asks (p : Platform W) : Bus W → Bus W → Prop := Makes p fun c => c.asks = true

theorem Makes.spares (h : Asks p u u') : Spares p u u' := h.mono fun _ => UsbCall.manages_of_asks

theorem asks_of_eq {u u' : Bus W} {c : UsbCall} {r : c.Res} (hc : c.asks = true)
    (h : p.call c u = (r, u')) : Asks p u u' :=
  .of_eq hc h

end Bus

open Bus

/-! ## Enumeration -/

namespace DeviceManager

theorem readStringDesc_asks (handle : Handle) (index : Option UInt8) (u : Bus W) :
    Asks p u (readStringDesc p handle index u).2 := by
  unfold readStringDesc
  split
  · exact .done u
  · split
    · exact .done u
    · split
      · rename_i h
        exact asks_of_eq rfl h
      · rename_i h
        exact asks_of_eq rfl h

theorem readStringDescOpt_asks (handle : Option Handle) (index : Option UInt8) (u : Bus W) :
    Asks p u (readStringDescOpt p handle index u).2 := by
  cases handle with
  | none => exact .done u
  | some h => exact readStringDesc_asks p h index u

theorem openOk_asks (device : UsbDevice) (u : Bus W) : Asks p u (openOk p device u).2 := by
  unfold openOk
  split
  · rename_i h
    exact asks_of_eq rfl h
  · rename_i h
    exact asks_of_eq rfl h

theorem deviceInfo_asks (device : UsbDevice) (desc : DeviceDescriptor) (handle : Option Handle)
    (deviceId : DeviceId) (u : Bus W) : Asks p u (deviceInfo p device desc handle deviceId u).2 :=
  ((readStringDescOpt_asks p handle _ u).trans (readStringDescOpt_asks p handle _ _)).trans
    (readStringDescOpt_asks p handle _ _)

theorem listDevicesFrom_asks (devices : List UsbDevice) (u : Bus W) :
    Asks p u (listDevicesFrom p devices u).2 := by
  induction devices generalizing u with
  | nil => exact .done u
  | cons device rest ih =>
    unfold listDevicesFrom
    split
    · rename_i h
      exact (asks_of_eq rfl h).trans (ih _)
    · rename_i h
      refine (asks_of_eq rfl h).trans ?_
      exact (openOk_asks p device _).trans ((deviceInfo_asks p device _ _ _ _).trans (ih _))

theorem listDevices_asks (u : Bus W) : Asks p u (listDevices p u).2 := by
  unfold listDevices
  split
  · rename_i h
    exact asks_of_eq rfl h
  · rename_i h
    exact (asks_of_eq rfl h).trans (listDevicesFrom_asks p _ _)

theorem findDevice_asks (deviceId : DeviceId) (u : Bus W) :
    Asks p u (findDevice p deviceId u).2 := by
  unfold findDevice
  split
  · rename_i h
    exact asks_of_eq rfl h
  · rename_i h
    split <;> exact asks_of_eq rfl h

theorem interfaceInfos_asks (handle : Option Handle) (settings : List InterfaceDescriptor)
    (u : Bus W) : Asks p u (interfaceInfos p handle settings u).2 := by
  induction settings generalizing u with
  | nil => exact .done u
  | cons setting rest ih => exact (readStringDescOpt_asks p handle _ u).trans (ih _)

theorem configurationInfos_asks (device : UsbDevice) (handle : Option Handle) (indexes : List Nat)
    (u : Bus W) : Asks p u (configurationInfos p device handle indexes u).2 := by
  induction indexes generalizing u with
  | nil => exact .done u
  | cons index rest ih =>
    unfold configurationInfos
    split
    · rename_i h
      exact (asks_of_eq rfl h).trans (ih _)
    · rename_i h
      refine (asks_of_eq rfl h).trans ?_
      exact (readStringDescOpt_asks p handle _ _).trans
        ((interfaceInfos_asks p handle _ _).trans (ih _))

theorem getDescriptors_asks (deviceId : DeviceId) (u : Bus W) :
    Asks p u (getDescriptors p deviceId u).2 := by
  have hfind := findDevice_asks p deviceId u
  unfold getDescriptors
  split
  · rename_i h
    rwa [h] at hfind
  · rename_i device u₁ h
    rw [h] at hfind
    refine hfind.trans ?_
    split
    · rename_i hcall
      exact asks_of_eq rfl hcall
    · rename_i hcall
      refine (asks_of_eq rfl hcall).trans ?_
      exact (openOk_asks p device _).trans ((deviceInfo_asks p device _ _ _ _).trans
        (configurationInfos_asks p device _ _ _))

/-! ## Handles -/

theorem identityChanged_asks (deviceId : DeviceId) (attachment : AttachmentInfo) (u : Bus W) :
    Asks p u (identityChanged p deviceId attachment u).2 := by
  have hfind := findDevice_asks p deviceId u
  unfold identityChanged
  split
  · rename_i h
    rwa [h] at hfind
  · rename_i h
    rw [h] at hfind
    refine hfind.trans ?_
    split
    · rename_i hcall
      exact asks_of_eq rfl hcall
    · rename_i hcall
      exact asks_of_eq rfl hcall

theorem getHandle_asks (m : DeviceManager) (deviceId : DeviceId) (u : Bus W) :
    Asks p u (m.getHandle p deviceId u).2 := by
  unfold getHandle
  split
  · exact .done u
  · rename_i attachment _
    have hchanged := identityChanged_asks p deviceId attachment u
    split
    · rename_i h
      rwa [h] at hchanged
    · rename_i h
      rwa [h] at hchanged

/-! ## Attach -/

/-- An Attach that fails has not come to the drivers. -/
theorem attach_error_asks {m m' : DeviceManager} {d : DeviceId} {addr : SocketAddr}
    {u u' : Bus W} {e : WolfUsbError} (h : m.attach p d addr u = (.error e, m', u')) :
    m' = m ∧ Asks p u u' := by
  have hfind := findDevice_asks p d u
  unfold attach at h
  split at h
  · cases h
    exact ⟨rfl, .done u⟩
  · split at h
    · rename_i hfound
      cases h
      rw [hfound] at hfind
      exact ⟨rfl, hfind⟩
    · rename_i hfound
      rw [hfound] at hfind
      split at h
      · rename_i hcall
        cases h
        exact ⟨rfl, hfind.trans (asks_of_eq rfl hcall)⟩
      · rename_i hcall
        split at h
        · rename_i hopen
          cases h
          exact ⟨rfl, (hfind.trans (asks_of_eq rfl hcall)).trans (asks_of_eq rfl hopen)⟩
        · cases h

end DeviceManager

/-! ## Transfers -/

namespace Transfer

theorem executeControlTransfer_spares (handle : Handle) (req : ControlTransferRequest)
    (u : Bus W) : Spares p u (executeControlTransfer p handle req u).2 := by
  unfold executeControlTransfer
  dsimp only
  split
  · exact .one rfl
  · exact .one rfl

theorem executeBulkTransfer_spares (handle : Handle) (req : BulkTransferRequest) (u : Bus W) :
    Spares p u (executeBulkTransfer p handle req u).2 := by
  unfold executeBulkTransfer
  dsimp only
  split
  · split
    · exact .done u
    · exact .one rfl
  · exact .one rfl

theorem executeInterruptTransfer_spares (handle : Handle) (req : InterruptTransferRequest)
    (u : Bus W) : Spares p u (executeInterruptTransfer p handle req u).2 := by
  unfold executeInterruptTransfer
  dsimp only
  split
  · split
    · exact .done u
    · exact .one rfl
  · exact .one rfl

end Transfer

end WolfUsb
