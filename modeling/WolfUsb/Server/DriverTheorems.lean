/-
WolfUsb.Server.DriverTheorems — what a client's Attach does to the
interfaces of a device, and what is left of it after the Detach.

The list of detached drivers says exactly which bindings changed, and the
list of claimed interfaces covers every claim of the handle, whatever the
clients do in between (`Custody.Restorable`); so Detach restores every
binding (`detach_restores_drivers`). The second list is not the set of the
claims: a claim of an interface that is held succeeds and is listed again
(`repeated_claim_listed_twice`), and it is exact as long as no interface is
claimed while it is held (`claimed_interfaces_exact_iff`).
-/
import WolfUsb.Server.InterfaceTheorems

namespace WolfUsb

open WolfUsb.Lib Custody

variable {W : Type} {p : Platform W} {view : W → Interfaces}

/-! ## Bindings -/

/-- The bindings of `d` are the original ones, apart from those the books
list as detached; and every claim is in the books. -/
structure Custody.Restorable (d : DeviceId) (original : UInt8 → DriverState) (c : Custody) :
    Prop where
  gone : d ∉ c.attachments → c.interfaces.driver d = original
  claims : ∀ info, c.attachments.lookup d = some info →
    ∀ i, c.interfaces.claimed info.handle i = true → i ∈ info.claimedInterfaces
  detached : ∀ info, c.attachments.lookup d = some info → ∀ i, c.interfaces.driver d i =
    if i ∈ info.detachedKernelDrivers then .detached else original i
  bound : ∀ info, c.attachments.lookup d = some info →
    ∀ i ∈ info.detachedKernelDrivers, original i = .bound

namespace Custody.Restorable

variable {c c' : Custody} {d : DeviceId} {original : UInt8 → DriverState}

/-- A device that is not attached. -/
theorem start (hd : d ∉ c.attachments) : c.Restorable d (c.interfaces.driver d) := by
  have hnone := Finmap.lookup_eq_none.mpr hd
  constructor
  · intro _
    rfl
  all_goals
    intro info hinfo
    rw [hnone] at hinfo
    cases hinfo

/-- What changes nothing of `d` or its attachment. -/
theorem frame (h : c.Restorable d original)
    (hlook : c'.attachments.lookup d = c.attachments.lookup d)
    (hdriver : c'.interfaces.driver d = c.interfaces.driver d)
    (hclaims : ∀ info, c.attachments.lookup d = some info →
      c'.interfaces.claimed info.handle = c.interfaces.claimed info.handle) :
    c'.Restorable d original := by
  constructor
  · intro hd
    rw [hdriver]
    exact h.gone (by rwa [← Finmap.lookup_eq_none, ← hlook, Finmap.lookup_eq_none])
  · intro info hinfo i hi
    rw [hlook] at hinfo
    rw [hclaims info hinfo] at hi
    exact h.claims info hinfo i hi
  · intro info hinfo i
    rw [hlook] at hinfo
    rw [hdriver]
    exact h.detached info hinfo i
  · intro info hinfo
    rw [hlook] at hinfo
    exact h.bound info hinfo

/-- The attachment of `d` lists other claims, and the claims are others. -/
theorem reclaim (h : c.Restorable d original) {info : AttachmentInfo} {claims : List UInt8}
    {s : Interfaces} (hd : c.attachments.lookup d = some info)
    (hdriver : s.driver = c.interfaces.driver)
    (hclaims : ∀ i, s.claimed info.handle i = true → i ∈ claims) :
    Restorable d original
      ⟨c.attachments.insert d { info with claimedInterfaces := claims }, s⟩ := by
  constructor
  · intro hgone
    exact absurd (Finmap.mem_insert.mpr (Or.inl rfl)) hgone
  all_goals
    intro info' hinfo'
    rw [Finmap.lookup_insert] at hinfo'
    cases hinfo'
  · exact hclaims
  · intro i
    show s.driver d i = _
    rw [hdriver]
    exact h.detached info hd i
  · exact h.bound info hd

/-- `d` is attached: the list is what was detached. -/
theorem attach (h : c.Restorable d original) (hd : d ∉ c.attachments) {info : AttachmentInfo}
    {s : Interfaces} (hgrows : c.interfaces.Grows s)
    (hclaims : ∀ i, s.claimed info.handle i = false)
    (hbound : ∀ i ∈ info.detachedKernelDrivers, s.driver d i = .bound) :
    Restorable d original
      ⟨c.attachments.insert d info, detachedDrivers s d info.detachedKernelDrivers⟩ := by
  have horiginal : s.driver d = original := by rw [hgrows.driver, h.gone hd]
  constructor
  · intro hgone
    exact absurd (Finmap.mem_insert.mpr (Or.inl rfl)) hgone
  all_goals
    intro info' hinfo'
    rw [Finmap.lookup_insert] at hinfo'
    cases hinfo'
  · intro i hi
    have hfree : s.claimed info.handle i = true := hi
    rw [hclaims i] at hfree
    cases hfree
  · intro i
    simp [detachedDrivers, horiginal]
  · intro i hi
    rw [← horiginal]
    exact hbound i hi

/-- `d` is detached: no claim of the handle is left to keep a driver from
being bound. -/
theorem detach (h : c.Restorable d original) {info : AttachmentInfo}
    (hd : c.attachments.lookup d = some info) :
    Restorable d original ⟨c.attachments.erase d, returned c.interfaces d info⟩ := by
  have hnone : (c.attachments.erase d).lookup d = none := Finmap.lookup_erase ..
  constructor
  · intro _
    funext i
    have hfree : (c.interfaces.claimed info.handle i && decide (i ∉ info.claimedInterfaces))
        = false := by
      cases hclaim : c.interfaces.claimed info.handle i with
      | false => rfl
      | true => simp [h.claims info hd i hclaim]
    have hdriver := h.detached info hd i
    by_cases hi : i ∈ info.detachedKernelDrivers
    · rw [if_pos hi] at hdriver
      simp only [returned, Function.update_self]
      rw [if_pos ⟨hi, hdriver, hfree⟩, h.bound info hd i hi]
    · rw [if_neg hi] at hdriver
      simp [returned, hi, hdriver]
  all_goals
    intro info' hinfo'
    rw [hnone] at hinfo'
    cases hinfo'

/-- Another device has other claims. -/
theorem reclaimOther (hl : c.Linked) (h : c.Restorable d original) {x : DeviceId}
    {info new : AttachmentInfo} (hx : c.attachments.lookup x = some info) (hxd : x ≠ d) (i : UInt8)
    (on : Bool) :
    Restorable d original
      ⟨c.attachments.insert x new, c.interfaces.setClaim info.handle i on⟩ := by
  have hdx : d ≠ x := Ne.symm hxd
  refine h.frame (Finmap.lookup_insert_of_ne _ hdx) rfl ?_
  intro other hother
  simp [Interfaces.setClaim, hl.handle_ne hx hother hdx]

/-- **Every step but a new configuration keeps the bindings restorable.** -/
theorem step (hl : c.Linked) (h : c.Restorable d original) {e : Custodial}
    (he : e ≠ .configure d) (hstep : c.Step e c') : c'.Restorable d original := by
  cases hstep with
  | inspect hgrows =>
    refine h.frame rfl (by rw [hgrows.driver]) ?_
    intro info hinfo
    exact hgrows.claimed _ _ (hl d info hinfo)
  | @attach x info s' hx hgrows hopen hnew hclaims hbound hlist =>
    by_cases hxd : x = d
    · subst hxd
      exact h.attach hx hgrows hclaims hbound
    · have hdx : d ≠ x := Ne.symm hxd
      refine h.frame (Finmap.lookup_insert_of_ne _ hdx) ?_ ?_
      · simp [detachedDrivers, hdx, hgrows.driver]
      · intro other hother
        exact hgrows.claimed _ _ (hl d other hother)
  | @detach x info hx =>
    by_cases hxd : x = d
    · subst hxd
      exact h.detach hx
    · have hdx : d ≠ x := Ne.symm hxd
      refine h.frame (Finmap.lookup_erase_ne hdx) (by simp [returned, hdx]) ?_
      intro other hother
      have hne := hl.handle_ne hx hother hdx
      simp [returned, hne]
  | @claim x info i hx =>
    by_cases hxd : x = d
    · subst hxd
      refine h.reclaim hx rfl ?_
      intro j hj
      by_cases hji : j = i
      · simp [hji]
      · simp [Interfaces.setClaim, hji] at hj
        exact List.mem_append_left _ (h.claims info hx j hj)
    · exact h.reclaimOther hl hx hxd i true
  | @release x info i hx =>
    by_cases hxd : x = d
    · subst hxd
      refine h.reclaim hx rfl ?_
      intro j hj
      by_cases hji : j = i
      · simp [Interfaces.setClaim, hji] at hj
      · simp [Interfaces.setClaim, hji] at hj
        simpa [hji] using h.claims info hx j hj
    · exact h.reclaimOther hl hx hxd i false
  | @configure x info s' hx hdevice hclaimed hother =>
    have hdx : x ≠ d := by
      rintro rfl
      exact he rfl
    refine h.frame rfl (hother d ?_) ?_
    · rw [hl x info hx]
      simpa using hdx
    · intro other _
      rw [hclaimed]

end Custody.Restorable

/-- Every operation but a new configuration of the device. -/
theorem restorable_perform (hp : Interfaces.Keeps p view) {d : DeviceId}
    {original : UInt8 → DriverState} (op : ManagerOp) (hop : ∀ c, op ≠ .setConfiguration d c)
    {sh : Shared W} (hl : (sh.custody view).Linked)
    (h : (sh.custody view).Restorable d original) :
    ((op.perform p sh).2.custody view).Linked ∧
      ((op.perform p sh).2.custody view).Restorable d original := by
  refine op.perform_preserves hp ?_ hl h
  intro c e c' hlc hc hcause hstep
  refine hc.step hlc ?_ hstep
  rintro rfl
  cases op with
  | setConfiguration x i => exact hop i (by cases hcause; rfl)
  | attach x addr => rcases hcause with h | h <;> cases h
  | detachAllForSessions keys =>
    obtain ⟨x, hx⟩ := hcause
    cases hx
  | _ => cases hcause

/-- The claims of a detached handle are released. -/
theorem detach_releases (hp : Interfaces.Keeps p view) {d : DeviceId}
    {original : UInt8 → DriverState} {s : UInt64} {sh : Shared W}
    (hl : (sh.custody view).Linked) (h : (sh.custody view).Restorable d original)
    {info : AttachmentInfo} (hinfo : sh.manager.attachments.lookup d = some info) (i : UInt8) :
    (view ((ManagerOp.detach d s).perform p sh).2.bus.world).claimed info.handle i = false := by
  have hreleased := hp.releaseInterfaces info.handle info.claimedInterfaces sh.bus
  have hreattached := hp.reattachDrivers (h := info.handle) (d := d) info.detachedKernelDrivers
    (u := DeviceManager.releaseInterfaces p info.handle info.claimedInterfaces sh.bus)
    (by rw [hreleased]; exact hl d info hinfo)
  have hclaims := h.claims info hinfo i
  simp only [ManagerOp.perform, DeviceManager.detach, hinfo]
  rw [hreattached, hreleased]
  cases hclaim : (view sh.bus.world).claimed info.handle i with
  | false => simp [hclaim]
  | true => simp [hclaim, hclaims hclaim]

/-- **Detach restores the kernel drivers.** A device is attached in any
state of any run, and then the clients do what they like with it and with
every other device, short of setting its configuration, and whichever
driver detaches and claims fail. After the Detach each interface of the
device has the binding it had before the Attach, and the handle has no
claim on it. -/
theorem detach_restores_drivers (hp : Interfaces.Keeps p view) {world : W}
    {before after : List ManagerOp} {sh₀ sh : Shared W} {d : DeviceId} {addr : SocketAddr}
    {s : UInt64} (hreach : Run (Shared.Steps p) (.fresh world) before sh₀)
    (hattach : ((ManagerOp.attach d addr).perform p sh₀).1 = .ok ())
    (hrun : Run (Shared.Steps p) ((ManagerOp.attach d addr).perform p sh₀).2 after sh)
    (hops : ∀ op ∈ after, ∀ c, op ≠ .setConfiguration d c) :
    (∀ i, (view ((ManagerOp.detach d s).perform p sh).2.bus.world).driver d i
        = (view sh₀.bus.world).driver d i) ∧
      ∀ info, sh.manager.attachments.lookup d = some info → ∀ i,
        (view ((ManagerOp.detach d s).perform p sh).2.bus.world).claimed info.handle i = false := by
  have hnew : d ∉ sh₀.manager.attachments := by
    intro hmem
    have hrefused : sh₀.manager.attach p d addr sh₀.bus
        = (.error .deviceAlreadyAttached, sh₀.manager, sh₀.bus) := if_pos hmem
    simp only [ManagerOp.perform, hrefused] at hattach
    cases hattach
  have hattachOp : ∀ c, ManagerOp.attach d addr ≠ .setConfiguration d c := by
    intro c h
    cases h
  have hdetachOp : ∀ c, ManagerOp.detach d s ≠ .setConfiguration d c := by
    intro c h
    cases h
  have hattached := restorable_perform hp (.attach d addr) hattachOp (Shared.linked hp hreach)
    (Restorable.start (c := sh₀.custody view) hnew)
  have hused := hrun.preserves_along
    (I := fun sh => (sh.custody view).Linked ∧
      (sh.custody view).Restorable d ((view sh₀.bus.world).driver d))
    (C := fun _ op => ∀ c, op ≠ .setConfiguration d c)
    (fun sh op sh' h hop hstep => by
      rw [hstep.eq]
      exact restorable_perform hp op hop h.1 h.2)
    (.of_forall hops) hattached
  have hdetached := restorable_perform hp (.detach d s) hdetachOp hused.1 hused.2
  refine ⟨?_, ?_⟩
  · intro i
    have hgone : d ∉ ((ManagerOp.detach d s).perform p sh).2.manager.attachments := by
      by_cases hmem : d ∈ sh.manager.attachments
      · simp only [ManagerOp.perform, (DeviceManager.detach_of_mem p s sh.bus hmem).2]
        simp
      · simp only [ManagerOp.perform, DeviceManager.detach_of_notMem p s sh.bus hmem]
        exact hmem
    exact congrFun (hdetached.2.gone hgone) i
  · intro info hinfo i
    exact detach_releases hp hused.1 hused.2 hinfo i

/-! ## A host with drivers -/

/-- A host with the two devices of `twoDeviceHost`, two interfaces each,
that does to its interfaces what libusb documents. Handles are numbered. -/
def hub : Platform (Handle × Interfaces) where
  usb
    | .openDevice device, (next, s) =>
        if s.device next = none then
          (.ok next, next + 1, s.opened ⟨device.busNumber, device.address⟩ next)
        else (.error .noMem, next, s)
    | .activeConfigDescriptor _, w =>
        (.ok ⟨1, 2, 50, false, false, none, [⟨0, []⟩, ⟨1, []⟩]⟩, w)
    | .detachKernelDriver h i, (next, s) =>
        match s.device h with
        | none => (.error .noDevice, next, s)
        | some d =>
            if s.driver d i = .bound then (.ok (), next, s.setDriver d i .detached)
            else (.error .notFound, next, s)
    | .attachKernelDriver h i, (next, s) =>
        match s.device h with
        | none => (.error .noDevice, next, s)
        | some d =>
            if s.driver d i = .detached ∧ s.claimed h i = false then
              (.ok (), next, s.setDriver d i .bound)
            else (.error .notFound, next, s)
    | .claimInterface h i, (next, s) =>
        if s.claimed h i = true then (.ok (), next, s.setClaim h i true)
        else
          match s.device h with
          | none => (.error .noDevice, next, s)
          | some d =>
              if s.driver d i = .bound then (.error .busy, next, s)
              else (.ok (), next, s.setClaim h i true)
    | .releaseInterface h i, (next, s) =>
        if s.claimed h i = true then (.ok (), next, s.setClaim h i false)
        else (.error .notFound, next, s)
    | call, w => ((twoDeviceHost.usb call 0).1, w)
  usbErrorText := twoDeviceHost.usbErrorText
  hmacSha256 := twoDeviceHost.hmacSha256

theorem hub_keeps : Interfaces.Keeps hub Prod.snd := by
  rintro call ⟨next, s⟩
  cases call with
  | openDevice device =>
    by_cases hnew : s.device next = none
    · simp [hub, Interfaces.Answers, hnew]
    · simp [hub, Interfaces.Answers, hnew]
  | detachKernelDriver h i =>
    cases hd : s.device h with
    | none => simp [hub, Interfaces.Answers, hd]
    | some d => by_cases hb : s.driver d i = .bound <;> simp [hub, Interfaces.Answers, hd, hb]
  | attachKernelDriver h i =>
    cases hd : s.device h with
    | none => simp [hub, Interfaces.Answers, hd]
    | some d =>
      by_cases hb : s.driver d i = .detached <;> cases hc : s.claimed h i <;>
        simp [hub, Interfaces.Answers, hd, hb, hc]
  | claimInterface h i =>
    cases hc : s.claimed h i with
    | true => simp [hub, Interfaces.Answers, hc]
    | false =>
      cases hd : s.device h with
      | none => simp [hub, Interfaces.Answers, hd, hc]
      | some d =>
        by_cases hb : s.driver d i = .bound <;> simp [hub, Interfaces.Answers, hd, hb, hc]
  | releaseInterface h i =>
    cases hc : s.claimed h i <;> simp [hub, Interfaces.Answers, hc]
  | setActiveConfiguration h i => exact ⟨rfl, rfl, fun _ _ => rfl⟩
  | _ => rfl

/-- A driver on interface 1 of each device. -/
def hubStart : Handle × Interfaces :=
  (0, ⟨fun _ => none, fun _ i => if i = 1 then .bound else .none, fun _ _ => false⟩)

/-- Interface 1 is claimed twice and interface 0 claimed and released, and
after the Detach the driver of interface 1 is back. -/
theorem detach_restores_drivers_two_claims :
    ∃ sh, Run (Shared.Steps hub)
        ((ManagerOp.attach ⟨1, 2⟩ ⟨"10.0.0.1", 4000⟩).perform hub (.fresh hubStart)).2
        [.claimInterface ⟨1, 2⟩ 1, .claimInterface ⟨1, 2⟩ 1, .claimInterface ⟨1, 2⟩ 0,
          .releaseInterface ⟨1, 2⟩ 0] sh ∧
      sh.bus.world.2.driver ⟨1, 2⟩ 1 = .detached ∧ sh.bus.world.2.claimed 0 1 = true ∧
      ∀ i, ((ManagerOp.detach ⟨1, 2⟩ 1).perform hub sh).2.bus.world.2.driver ⟨1, 2⟩ i
        = hubStart.2.driver ⟨1, 2⟩ i := by
  have hplay : (play (Shared.step hub)
      ((ManagerOp.attach ⟨1, 2⟩ ⟨"10.0.0.1", 4000⟩).perform hub (.fresh hubStart)).2
      [.claimInterface ⟨1, 2⟩ 1, .claimInterface ⟨1, 2⟩ 1, .claimInterface ⟨1, 2⟩ 0,
        .releaseInterface ⟨1, 2⟩ 0]).map (fun sh =>
          (sh.bus.world.2.driver ⟨1, 2⟩ 1, sh.bus.world.2.claimed 0 1)) =
      some (.detached, true) := by
    decide +kernel
  obtain ⟨sh, hsh, heq⟩ := Option.map_eq_some_iff.mp hplay
  obtain ⟨hdriver, hclaim⟩ := Prod.mk.inj heq
  have hrun := play_iff_run.mp hsh
  have hattach : ((ManagerOp.attach ⟨1, 2⟩ ⟨"10.0.0.1", 4000⟩).perform hub (.fresh hubStart)).1
      = .ok () := by
    decide +kernel
  exact ⟨sh, hrun, hdriver, hclaim,
    (detach_restores_drivers hub_keeps (.nil _) hattach hrun (by simp)).1⟩

/-! ## Claims -/

/-- The calls of a detach of the device. -/
def detachCalls (p : Platform W) (sh : Shared W) (d : DeviceId) (s : UInt64) : List UsbCall :=
  (sh.manager.detach p d s sh.bus).2.2.calls.drop sh.bus.calls.length

/-- The claimed interfaces an attachment lists are those its handle holds,
each listed once: the list is no longer than there are interfaces, and a
detach releases each of them once. -/
structure ClaimsExact (p : Platform W) (view : W → Interfaces) (sh : Shared W) (d : DeviceId)
    (info : AttachmentInfo) : Prop where
  once : ∀ i, info.claimedInterfaces.count i =
    if (view sh.bus.world).claimed info.handle i = true then 1 else 0
  bounded : ∀ interfaces : Finset UInt8,
    (∀ i, (view sh.bus.world).claimed info.handle i = true → i ∈ interfaces) →
      info.claimedInterfaces.length ≤ interfaces.card
  released : ∀ s i, (detachCalls p sh d s).count (.releaseInterface info.handle i) =
    if (view sh.bus.world).claimed info.handle i = true then 1 else 0

/-- Every attachment lists each claim of its handle once. -/
def Custody.Exact (c : Custody) : Prop :=
  ∀ d info, c.attachments.lookup d = some info → ∀ i, info.claimedInterfaces.count i =
    if c.interfaces.claimed info.handle i = true then 1 else 0

theorem releaseInterfaces_calls (h : Handle) (listed : List UInt8) (u : Bus W) :
    (DeviceManager.releaseInterfaces p h listed u).calls
      = u.calls ++ listed.map (.releaseInterface h ·) := by
  induction listed generalizing u with
  | nil => simp [DeviceManager.releaseInterfaces]
  | cons i rest ih => simp [DeviceManager.releaseInterfaces, ih]

theorem reattachDrivers_calls (h : Handle) (listed : List UInt8) (u : Bus W) :
    (DeviceManager.reattachDrivers p h listed u).calls
      = u.calls ++ listed.map (.attachKernelDriver h ·) := by
  induction listed generalizing u with
  | nil => simp [DeviceManager.reattachDrivers]
  | cons i rest ih => simp [DeviceManager.reattachDrivers, ih]

/-- A detach makes a release for each entry of the list. -/
theorem count_detachCalls {sh : Shared W} {d : DeviceId} {info : AttachmentInfo}
    (hinfo : sh.manager.attachments.lookup d = some info) (s : UInt64) (i : UInt8) :
    (detachCalls p sh d s).count (.releaseInterface info.handle i)
      = info.claimedInterfaces.count i := by
  have hcalls : detachCalls p sh d s =
      info.claimedInterfaces.map (.releaseInterface info.handle ·) ++
        info.detachedKernelDrivers.map (.attachKernelDriver info.handle ·) := by
    simp [detachCalls, DeviceManager.detach, hinfo, releaseInterfaces_calls, reattachDrivers_calls]
  have hinj : Function.Injective (UsbCall.releaseInterface info.handle) := by
    intro i j hij
    exact (UsbCall.releaseInterface.inj hij).2
  have hnone : (info.detachedKernelDrivers.map (UsbCall.attachKernelDriver info.handle ·)).count
      (.releaseInterface info.handle i) = 0 := by
    simp [List.count_eq_zero]
  rw [hcalls, List.count_append, hnone, List.count_map_of_injective _ _ hinj, Nat.add_zero]

/-- The list alone decides. -/
theorem claimsExact_iff {sh : Shared W} :
    (∀ d info, sh.manager.attachments.lookup d = some info → ClaimsExact p view sh d info) ↔
      (sh.custody view).Exact := by
  constructor
  · intro h d info hinfo
    exact (h d info hinfo).once
  · intro h d info hinfo
    have honce := h d info hinfo
    refine ⟨honce, ?_, ?_⟩
    · intro interfaces hall
      have hnodup : info.claimedInterfaces.Nodup := by
        rw [List.nodup_iff_count_le_one]
        intro i
        rw [honce i]
        split <;> omega
      rw [← List.toFinset_card_of_nodup hnodup]
      refine Finset.card_le_card ?_
      intro i hi
      refine hall i ?_
      by_contra hfree
      have hcount := honce i
      rw [show (sh.custody view).interfaces = view sh.bus.world from rfl, if_neg hfree] at hcount
      exact List.count_eq_zero.mp hcount (List.mem_toFinset.mp hi)
    · intro s i
      rw [count_detachCalls hinfo]
      exact honce i

namespace Custody.Exact

variable {c c' : Custody}

/-- A step that leaves the claims of every attachment but that of `d` as
they were. -/
theorem update (h : c.Exact) (hl : c.Linked) {d : DeviceId} {info : AttachmentInfo}
    {claims : List UInt8} {s : Interfaces} (hd : c.attachments.lookup d = some info)
    (hother : ∀ x, x ≠ info.handle → s.claimed x = c.interfaces.claimed x)
    (hclaims : ∀ i, claims.count i = if s.claimed info.handle i = true then 1 else 0) :
    Exact ⟨c.attachments.insert d { info with claimedInterfaces := claims }, s⟩ := by
  intro x other hx
  dsimp only at hx
  rw [lookup_insert_eq] at hx
  split at hx
  · cases hx
    exact hclaims
  · rename_i hxd
    dsimp only
    rw [hother _ (hl.handle_ne hd hx hxd)]
    exact h x other hx

/-- **Every step but a claim of what is held keeps the lists exact.** -/
theorem step (h : c.Exact) (hl : c.Linked) {e : Custodial} (hstep : c.Step e c')
    (hfree : ∀ d i info, e = .claim d i → c.attachments.lookup d = some info →
      c.interfaces.claimed info.handle i = false) : c'.Exact := by
  cases hstep with
  | inspect hgrows =>
    intro d info hd
    dsimp only
    rw [hgrows.claimed _ _ (hl d info hd)]
    exact h d info hd
  | @attach x info s' hx hgrows hopen hnew hclaims hbound hlist =>
    intro d other hd i
    dsimp only at hd
    rw [lookup_insert_eq] at hd
    split at hd
    · cases hd
      simp [detachedDrivers, hclaims, hlist]
    · have hclaimed := hgrows.claimed _ _ (hl d other hd)
      simp only [detachedDrivers, hclaimed]
      exact h d other hd i
  | @detach x info hx =>
    intro d other hd i
    have hold : c.attachments.lookup d = some other := lookup_of_erase hd
    have hdx : d ≠ x := by
      rintro rfl
      rw [Finmap.lookup_erase] at hd
      cases hd
    have hne := hl.handle_ne hx hold hdx
    have hsame : (returned c.interfaces x info).claimed other.handle
        = c.interfaces.claimed other.handle := by
      simp [returned, hne]
    simp only [hsame]
    exact h d other hold i
  | @claim x info i hx =>
    refine h.update hl hx ?_ ?_
    · intro y hy
      simp [Interfaces.setClaim, hy]
    · intro j
      have hcount := h x info hx j
      by_cases hji : j = i
      · subst hji
        rw [hfree x j info rfl hx] at hcount
        simp [Interfaces.setClaim, hcount]
      · simp [Interfaces.setClaim, hji, hcount, Ne.symm hji]
  | @release x info i hx =>
    refine h.update hl hx ?_ ?_
    · intro y hy
      simp [Interfaces.setClaim, hy]
    · intro j
      by_cases hji : j = i
      · subst hji
        simp [Interfaces.setClaim, List.count_eq_zero]
      · have hcount := h x info hx j
        have hkeep : (j != i) = true := by simpa using hji
        rw [List.count_filter (p := (· != i)) hkeep, hcount]
        simp [Interfaces.setClaim, hji]
  | @configure x info s' hx hdevice hclaimed hother =>
    intro d other hd
    dsimp only
    rw [hclaimed]
    exact h d other hd

end Custody.Exact

/-- No interface is claimed while the handle holds it. -/
def Shared.ClaimsFree (view : W → Interfaces) (sh : Shared W) (op : ManagerOp) : Prop :=
  ∀ d i, op = .claimInterface d i → ∀ info, sh.manager.attachments.lookup d = some info →
    (view sh.bus.world).claimed info.handle i = false

theorem exact_perform (hp : Interfaces.Keeps p view) {op : ManagerOp} {sh : Shared W}
    (hl : (sh.custody view).Linked) (h : (sh.custody view).Exact)
    (hfree : sh.ClaimsFree view op) : ((op.perform p sh).2.custody view).Exact := by
  by_cases hclaim : ∃ d i, op = .claimInterface d i
  · obtain ⟨d, i, rfl⟩ := hclaim
    rcases DeviceManager.claimInterface_custody hp (m := sh.manager) (u := sh.bus) d i with
      hsame | hstep
    · show Custody.Exact _
      rw [show ((ManagerOp.claimInterface d i).perform p sh).2.custody view = sh.custody view
        from hsame.symm]
      exact h
    · refine h.step hl hstep ?_
      intro x j info heq hinfo
      cases heq
      exact hfree d i rfl info hinfo
  · refine (op.perform_preserves hp (I := Exact) ?_ hl h).2
    intro c e c' hlc hc hcause hstep
    refine hc.step hlc hstep ?_
    rintro d i info rfl -
    cases op with
    | claimInterface x j => exact absurd ⟨x, j, rfl⟩ hclaim
    | attach x addr => rcases hcause with h | h <;> cases h
    | detachAllForSessions keys =>
      obtain ⟨x, hx⟩ := hcause
      cases hx
    | _ => cases hcause

/-- A claim after which the lists are exact was of an interface that was
not held: it would have succeeded and been listed again. -/
theorem claimsFree_of_exact (hp : Interfaces.Keeps p view) {op : ManagerOp} {sh : Shared W}
    (h : (sh.custody view).Exact) (hafter : ((op.perform p sh).2.custody view).Exact) :
    sh.ClaimsFree view op := by
  rintro d i rfl info hinfo
  by_contra hheld
  obtain ⟨r, u, hcall⟩ : ∃ r u, p.call (.claimInterface info.handle i) sh.bus = (r, u) :=
    ⟨_, _, rfl⟩
  cases r with
  | error e => exact hheld (hp.answers hcall).1
  | ok _ =>
    have hlook : ((ManagerOp.claimInterface d i).perform p sh).2.manager.attachments.lookup d
        = some { info with claimedInterfaces := info.claimedInterfaces ++ [i] } := by
      simp [ManagerOp.perform, DeviceManager.claimInterface, hinfo, hcall]
    have hbefore := h d info hinfo i
    have hnow := hafter d _ hlook i
    rw [show (sh.custody view).interfaces = view sh.bus.world from rfl,
      if_pos (by simpa using hheld)] at hbefore
    rw [List.count_append, hbefore, List.count_singleton_self] at hnow
    split at hnow <;> omega

/-- Interface 0 is claimed twice. -/
def claimedTwice : List ManagerOp :=
  [.attach ⟨1, 2⟩ ⟨"10.0.0.1", 4000⟩, .claimInterface ⟨1, 2⟩ 0, .claimInterface ⟨1, 2⟩ 0]

/-- It is listed twice, and a detach releases it twice. -/
theorem repeated_claim_listed_twice :
    ∃ sh info, Run (Shared.Steps hub) (.fresh hubStart) claimedTwice sh ∧
      sh.manager.attachments.lookup ⟨1, 2⟩ = some info ∧ info.claimedInterfaces = [0, 0] ∧
      detachCalls hub sh ⟨1, 2⟩ 1 = [.releaseInterface 0 0, .releaseInterface 0 0,
        .attachKernelDriver 0 1] ∧
      ¬ ClaimsExact hub Prod.snd sh ⟨1, 2⟩ info := by
  have hplay : (play (Shared.step hub) (.fresh hubStart) claimedTwice).map (fun sh =>
      ((sh.manager.attachments.lookup ⟨1, 2⟩).map AttachmentInfo.claimedInterfaces,
        detachCalls hub sh ⟨1, 2⟩ 1)) =
      some (some [0, 0], [.releaseInterface 0 0, .releaseInterface 0 0,
        .attachKernelDriver 0 1]) := by
    decide +kernel
  obtain ⟨sh, hsh, heq⟩ := Option.map_eq_some_iff.mp hplay
  obtain ⟨hlisted, hcalls⟩ := Prod.mk.inj heq
  obtain ⟨info, hinfo, hclaims⟩ := Option.map_eq_some_iff.mp hlisted
  refine ⟨sh, info, play_iff_run.mp hsh, hinfo, hclaims, hcalls, ?_⟩
  intro h
  have honce := h.once 0
  rw [hclaims] at honce
  split at honce <;> cases honce

/-- **The list of claimed interfaces is the exact set of the claims** of
every attachment in every state of a run exactly when the run claims no
interface while it is held. -/
theorem claimed_interfaces_exact_iff (hp : Interfaces.Keeps p view) (world : W)
    (ops : List ManagerOp) :
    StatesAlong (Shared.Steps p)
        (fun sh => ∀ d info, sh.manager.attachments.lookup d = some info →
          ClaimsExact p view sh d info) (.fresh world) ops ↔
      StepsAlong (Shared.Steps p) (Shared.ClaimsFree view) (.fresh world) ops := by
  constructor
  · intro h
    have hexact := h.mono fun sh hsh => claimsExact_iff.mp hsh
    refine stepsAlong_of_statesAlong ?_ hexact
    intro sh op sh' hsh hstep hsh'
    rw [hstep.eq] at hsh'
    exact claimsFree_of_exact hp hsh hsh'
  · intro h
    have hempty : ((Shared.fresh world).custody view).Exact := by
      intro d info hd
      have hnone : (∅ : HashMap DeviceId AttachmentInfo).lookup d = some info := hd
      rw [Finmap.lookup_empty] at hnone
      cases hnone
    have hstates := statesAlong_of_stepsAlong
      (I := fun sh : Shared W => (sh.custody view).Linked ∧ (sh.custody view).Exact)
      (fun sh op sh' hsh hfree hstep => by
        rw [hstep.eq]
        exact ⟨(op.perform_preserves hp (I := fun _ => True) (fun _ _ _ _ _ _ _ => trivial) hsh.1
          trivial).1, exact_perform hp hsh.1 hsh.2 hfree⟩)
      ⟨Shared.linked_fresh world, hempty⟩ h
    exact hstates.mono fun sh hsh => claimsExact_iff.mpr hsh.2

/-- Interface 0 is claimed, released and claimed again. -/
theorem claimed_interfaces_exact_reclaimed :
    StatesAlong (Shared.Steps hub)
      (fun sh => ∀ d info, sh.manager.attachments.lookup d = some info →
        ClaimsExact hub Prod.snd sh d info) (.fresh hubStart)
      [.attach ⟨1, 2⟩ ⟨"10.0.0.1", 4000⟩, .claimInterface ⟨1, 2⟩ 0, .releaseInterface ⟨1, 2⟩ 0,
        .claimInterface ⟨1, 2⟩ 0] := by
  have hfree : ∀ (sh : Shared (Handle × Interfaces)) d i,
      ((sh.manager.attachments.lookup d).all fun info => !sh.bus.world.2.claimed info.handle i)
        = true → sh.ClaimsFree Prod.snd (.claimInterface d i) := by
    intro sh d i hall d' i' heq info hinfo
    cases heq
    rw [hinfo] at hall
    simpa using hall
  refine (claimed_interfaces_exact_iff hub_keeps hubStart _).mpr ?_
  intro s₁ h₁
  refine ⟨nofun, ?_⟩
  intro s₂ h₂
  obtain rfl := h₁.eq
  refine ⟨hfree _ _ _ (by decide +kernel), ?_⟩
  intro s₃ h₃
  obtain rfl := h₂.eq
  refine ⟨nofun, ?_⟩
  intro s₄ h₄
  obtain rfl := h₃.eq
  exact ⟨hfree _ _ _ (by decide +kernel), trivial⟩

end WolfUsb
