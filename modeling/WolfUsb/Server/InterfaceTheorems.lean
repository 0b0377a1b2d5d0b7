/-
WolfUsb.Server.InterfaceTheorems — the manager's operations as steps of
custody.

On a platform that keeps to libusb's behaviour every operation of the
manager is a sequence of steps of `Custody` (`perform_custody`), and which
steps an operation may take is `ManagerOp.Causes`. What follows about
drivers and claims is proved of one small step at a time.
-/
import WolfUsb.Server.DeviceManagerTheorems
import WolfUsb.Server.Interfaces
import WolfUsb.Server.OperationTheorems

namespace WolfUsb

open WolfUsb.Lib Bus

variable {W : Type} {p : Platform W} {view : W → Interfaces}

/-! ## Calls -/

namespace Interfaces

/-- A call that is no claim, release, driver or configuration call at most
opens a handle. -/
theorem Keeps.grows_call (hp : Keeps p view) {c : UsbCall} (hc : c.manages = false) (w : W) :
    (view w).Grows (view (p.usb c w).2) := by
  have hans := hp c w
  cases c with
  | openDevice device =>
    cases hr : (p.usb (.openDevice device) w).1 with
    | error e =>
      rw [hr] at hans
      have hsame : view (p.usb (.openDevice device) w).2 = view w := hans
      rw [hsame]
      exact Grows.refl _
    | ok h =>
      rw [hr] at hans
      obtain ⟨hnew, hopened⟩ := hans
      rw [hopened]
      exact grows_opened hnew _
  | detachKernelDriver h i => cases hc
  | attachKernelDriver h i => cases hc
  | claimInterface h i => cases hc
  | releaseInterface h i => cases hc
  | setActiveConfiguration h i => cases hc
  | _ =>
    have hsame : view _ = view w := hans
    rw [hsame]
    exact Grows.refl _

theorem Keeps.grows (hp : Keeps p view) {u u' : Bus W} (h : Spares p u u') :
    (view u.world).Grows (view u'.world) :=
  h.preserves (R := fun w w' => (view w).Grows (view w')) (fun _ => Grows.refl _)
    (fun _ _ _ h h' => h.trans h') (fun _ _ hc => hp.grows_call hc _)

/-- The answer of a call that was made. -/
theorem Keeps.answers (hp : Keeps p view) {c : UsbCall} {r : c.Res} {u u' : Bus W}
    (h : p.call c u = (r, u')) : (view u.world).Answers c r (view u'.world) := by
  have hr : (p.usb c u.world).1 = r := congrArg Prod.fst h
  have hu : (p.usb c u.world).2 = u'.world := congrArg (fun x => x.2.world) h
  have hans := hp c u.world
  rwa [hr, hu] at hans

/-! ## The loops -/

open Custody in
/-- The loop of `attach` detaches drivers that are bound, and lists where. -/
theorem Keeps.detachKernelDrivers (hp : Keeps p view) {h : Handle} {d : DeviceId}
    (interfaces : List Interface) {u u' : Bus W} {detached : List UInt8}
    (hopen : (view u.world).device h = some d)
    (hrun : DeviceManager.detachKernelDrivers p h interfaces u = (detached, u')) :
    view u'.world = detachedDrivers (view u.world) d detached ∧
      ∀ i ∈ detached, (view u.world).driver d i = .bound := by
  induction interfaces generalizing u detached with
  | nil =>
    cases hrun
    simp [detachedDrivers]
  | cons iface rest ih =>
    unfold DeviceManager.detachKernelDrivers at hrun
    split at hrun
    · rename_i u₁ hcall
      obtain ⟨d', hd', hbound, hview⟩ := hp.answers hcall
      obtain rfl : d = d' := Option.some.inj (hopen.symm.trans hd')
      obtain ⟨more, u₂, hrest⟩ : ∃ more u₂,
          DeviceManager.detachKernelDrivers p h rest u₁ = (more, u₂) := ⟨_, _, rfl⟩
      rw [hrest] at hrun
      cases hrun
      obtain ⟨hafter, hmore⟩ := ih (by rw [hview]; exact hopen) hrest
      rw [hview] at hafter hmore
      have hne : ∀ i ∈ more, i ≠ iface.number ∧ (view u.world).driver d i = .bound := by
        intro i hi
        have hi := hmore i hi
        by_cases heq : i = iface.number
        · simp [setDriver, heq] at hi
        · simp [setDriver, heq] at hi
          exact ⟨heq, hi⟩
      constructor
      · rw [hafter]
        ext x i
        · rfl
        · by_cases hx : x = d
          · subst hx
            by_cases hi : i = iface.number <;> simp [detachedDrivers, setDriver, hi]
          · simp [detachedDrivers, setDriver, hx]
        · rfl
      · intro i hi
        rcases List.mem_cons.mp hi with rfl | hi
        · exact hbound
        · exact (hne i hi).2
    · rename_i e u₁ hcall
      have hview : view u₁.world = view u.world := hp.answers hcall
      have hrest := ih (by rw [hview]; exact hopen) hrun
      rwa [hview] at hrest

/-- The first loop of `detach` releases every listed interface. -/
theorem Keeps.releaseInterfaces (hp : Keeps p view) (h : Handle) (listed : List UInt8)
    (u : Bus W) :
    view (DeviceManager.releaseInterfaces p h listed u).world =
      { view u.world with
        claimed := Function.update (view u.world).claimed h fun i =>
          (view u.world).claimed h i && decide (i ∉ listed) } := by
  induction listed generalizing u with
  | nil => simp [DeviceManager.releaseInterfaces]
  | cons i rest ih =>
    rw [DeviceManager.releaseInterfaces, ih]
    obtain ⟨r, u₁, hcall⟩ : ∃ r u₁, p.call (.releaseInterface h i) u = (r, u₁) := ⟨_, _, rfl⟩
    have hans := hp.answers hcall
    rw [hcall]
    cases r with
    | ok _ =>
      obtain ⟨hheld, hview⟩ := hans
      rw [hview]
      ext x j
      · rfl
      · rfl
      · by_cases hx : x = h
        · subst hx
          by_cases hj : j = i <;> simp [setClaim, hj]
        · simp [setClaim, hx]
    | error e =>
      obtain ⟨hfree, hview⟩ := hans
      rw [hview]
      ext x j
      · rfl
      · rfl
      · by_cases hx : x = h
        · subst hx
          by_cases hj : j = i <;> simp [hj, hfree]
        · simp [hx]

/-- The second loop of `detach` binds the listed drivers again that were
detached, where the handle has no claim. -/
theorem Keeps.reattachDrivers (hp : Keeps p view) {h : Handle} {d : DeviceId}
    (listed : List UInt8) {u : Bus W} (hopen : (view u.world).device h = some d) :
    view (DeviceManager.reattachDrivers p h listed u).world =
      { view u.world with
        driver := Function.update (view u.world).driver d fun i =>
          if i ∈ listed ∧ (view u.world).driver d i = .detached ∧
              (view u.world).claimed h i = false then .bound
          else (view u.world).driver d i } := by
  induction listed generalizing u with
  | nil => simp [DeviceManager.reattachDrivers]
  | cons i rest ih =>
    rw [DeviceManager.reattachDrivers]
    obtain ⟨r, u₁, hcall⟩ : ∃ r u₁, p.call (.attachKernelDriver h i) u = (r, u₁) := ⟨_, _, rfl⟩
    have hans := hp.answers hcall
    rw [hcall]
    cases r with
    | ok _ =>
      obtain ⟨d', hd', hfree, hdetached, hview⟩ := hans
      obtain rfl : d = d' := Option.some.inj (hopen.symm.trans hd')
      rw [ih (by rw [hview]; exact hopen), hview]
      ext x j
      · rfl
      · by_cases hx : x = d
        · subst hx
          by_cases hj : j = i
          · subst hj
            simp [setDriver, hdetached, hfree]
          · simp [setDriver, hj]
        · simp [setDriver, hx]
      · rfl
    | error e =>
      obtain ⟨hrefused, hview⟩ := hans
      have hnot : ¬ ((view u.world).driver d i = .detached ∧
          (view u.world).claimed h i = false) := by
        rintro ⟨hdetached, hfree⟩
        rw [hrefused d hopen hdetached] at hfree
        cases hfree
      rw [ih (by rw [hview]; exact hopen), hview]
      ext x j
      · rfl
      · by_cases hx : x = d
        · subst hx
          by_cases hj : j = i
          · subst hj
            simp [hnot]
          · simp [hj]
        · simp [hx]
      · rfl

end Interfaces

/-! ## Links -/

namespace Custody

open Interfaces

variable {c c' : Custody}

/-- Two devices are not attached with one handle. -/
theorem Linked.handle_ne (h : c.Linked) {d x : DeviceId} {info other : AttachmentInfo}
    (hd : c.attachments.lookup d = some info) (hx : c.attachments.lookup x = some other)
    (hne : x ≠ d) : other.handle ≠ info.handle := by
  intro heq
  have hdevice := h x other hx
  rw [heq, h d info hd] at hdevice
  exact hne (Option.some.inj hdevice.symm)

theorem Linked.step {e : Custodial} (h : c.Linked) (hstep : c.Step e c') : c'.Linked := by
  intro x other hx
  cases hstep with
  | inspect hgrows => exact hgrows.device _ _ (h x other hx)
  | @attach d info s' hd hgrows hopen hnew hclaims hbound hlist =>
    dsimp only at hx
    rw [lookup_insert_eq] at hx
    split at hx
    · rename_i heq
      subst heq
      cases hx
      exact hopen
    · exact hgrows.device _ _ (h x other hx)
  | @detach d info hd => exact h x other (lookup_of_erase hx)
  | @claim d info i hd =>
    dsimp only at hx
    rw [lookup_insert_eq] at hx
    split at hx
    · rename_i heq
      subst heq
      cases hx
      exact h x info hd
    · exact h x other hx
  | @release d info i hd =>
    dsimp only at hx
    rw [lookup_insert_eq] at hx
    split at hx
    · rename_i heq
      subst heq
      cases hx
      exact h x info hd
    · exact h x other hx
  | @configure d info s' hd hdevice hclaimed hother =>
    show s'.device other.handle = some x
    rw [hdevice]
    exact h x other hx

end Custody

/-! ## Operations -/

/-- The books of a server and the interfaces of its host. -/
def Shared.custody (view : W → Interfaces) (sh : Shared W) : Custody :=
  ⟨sh.manager.attachments, view sh.bus.world⟩

/-- The steps an operation may take. -/
def ManagerOp.Causes : ManagerOp → Custodial → Prop
  | attach d _, e => e = .inspect ∨ e = .attach d
  | detach d _, e => e = .detach d
  | detachAllForSessions _, e => ∃ d, e = .detach d
  | claimInterface d i, e => e = .claim d i
  | releaseInterface d i, e => e = .release d i
  | setConfiguration d _, e => e = .configure d
  | _, e => e = .inspect

namespace DeviceManager

open Custody

variable {m m' : DeviceManager} {d : DeviceId} {u u' : Bus W}

/-- Books and interfaces after a bus has been used. -/
abbrev custody (m : DeviceManager) (view : W → Interfaces) (u : Bus W) : Custody :=
  ⟨m.attachments, view u.world⟩

theorem inspect_custody (hp : Interfaces.Keeps p view) (h : Spares p u u') :
    Step (m.custody view u) .inspect (m.custody view u') :=
  .inspect (hp.grows h)

theorem detach_custody (hp : Interfaces.Keeps p view) (hl : (m.custody view u).Linked)
    (d : DeviceId) (s : UInt64) :
    (m.detach p d s u).2 = (m, u) ∨
      Step (m.custody view u) (.detach d)
        ((m.detach p d s u).2.1.custody view (m.detach p d s u).2.2) := by
  unfold detach
  split
  · exact Or.inl rfl
  · rename_i info hd
    have hopen := hl d info hd
    have hreleased := hp.releaseInterfaces info.handle info.claimedInterfaces u
    have hreattached := hp.reattachDrivers (h := info.handle) (d := d) info.detachedKernelDrivers
      (u := releaseInterfaces p info.handle info.claimedInterfaces u)
      (by rw [hreleased]; exact hopen)
    have hafter : view (reattachDrivers p info.handle info.detachedKernelDrivers
        (releaseInterfaces p info.handle info.claimedInterfaces u)).world
        = returned (view u.world) d info := by
      rw [hreattached, hreleased]
      ext x i
      · rfl
      · simp [returned]
      · simp [returned]
    refine Or.inr ?_
    show Step _ _ ⟨_, view (reattachDrivers p info.handle info.detachedKernelDrivers
        (releaseInterfaces p info.handle info.claimedInterfaces u)).world⟩
    rw [hafter]
    exact .detach hd

/-- `detach` of `detach_all_for_sessions` after the other. -/
theorem detachAll_custody (hp : Interfaces.Keeps p view) (keys : List UInt64)
    (hl : (m.custody view u).Linked) :
    ∃ es, (∀ e ∈ es, ∃ d, e = .detach d) ∧
      Run Step (m.custody view u) es
        ((detachAllForSessions p keys m u).1.custody view (detachAllForSessions p keys m u).2) := by
  induction keys generalizing m u with
  | nil => exact ⟨[], by simp, .nil _⟩
  | cons s rest ih =>
    rw [detachAllForSessions]
    cases hs : m.sessionToDevice.lookup s with
    | none => exact ih hl
    | some d =>
      rcases detach_custody hp hl d s with hsame | hstep
      · obtain ⟨r, hr⟩ : ∃ r, m.detach p d s u = (r, m, u) := ⟨_, Prod.ext rfl hsame⟩
        simp only [hr]
        exact ih hl
      · obtain ⟨es, hes, hrun⟩ := ih (hl.step hstep)
        refine ⟨.detach d :: es, ?_, .cons hstep hrun⟩
        intro e he
        rcases List.mem_cons.mp he with rfl | he
        · exact ⟨d, rfl⟩
        · exact hes e he

/-- The device found is at the address asked for. -/
theorem findDevice_ok {device : UsbDevice} (h : findDevice p d u = (.ok device, u')) :
    ⟨device.busNumber, device.address⟩ = d := by
  unfold findDevice at h
  split at h
  · cases h
  · split at h
    · rename_i found hfound
      cases h
      have hat := List.find?_some hfound
      simp only [Bool.and_eq_true, beq_iff_eq] at hat
      rw [hat.1, hat.2]
    · cases h

open Interfaces in
/-- The drivers of the active configuration are detached on an open handle
without claims. -/
theorem detachActiveDrivers_view (hp : Interfaces.Keeps p view) {device : UsbDevice}
    {h : Handle} {detached : List UInt8} (hopen : (view u.world).device h = some d)
    (hrun : detachActiveDrivers p device h u = (detached, u')) :
    ∃ s, (view u.world).Grows s ∧ view u'.world = detachedDrivers s d detached ∧
      ∀ i ∈ detached, s.driver d i = .bound := by
  unfold detachActiveDrivers at hrun
  split at hrun
  · rename_i config u₁ hcall
    have hgrows := hp.grows (asks_of_eq rfl hcall).spares
    exact ⟨view u₁.world, hgrows,
      hp.detachKernelDrivers config.interfaces (hgrows.device _ _ hopen) hrun⟩
  · rename_i e u₁ hcall
    cases hrun
    exact ⟨view u'.world, hp.grows (asks_of_eq rfl hcall).spares, by simp [detachedDrivers],
      by simp⟩

/-- The handle of an Attach that succeeds is new, and its drivers are
detached on it. -/
theorem attach_custody (hp : Interfaces.Keeps p view) (d : DeviceId) (addr : SocketAddr) :
    Step (m.custody view u) .inspect
        ((m.attach p d addr u).2.1.custody view (m.attach p d addr u).2.2) ∨
      Step (m.custody view u) (.attach d)
        ((m.attach p d addr u).2.1.custody view (m.attach p d addr u).2.2) := by
  have hfind := (findDevice_asks p d u).spares
  unfold attach
  split
  · exact Or.inl (.inspect (Interfaces.Grows.refl _))
  · rename_i hd
    split
    · rename_i e u₁ hfound
      rw [hfound] at hfind
      exact Or.inl (inspect_custody hp hfind)
    · rename_i device u₁ hfound
      rw [hfound] at hfind
      have hid := findDevice_ok hfound
      split
      · rename_i e u₂ hdesc
        exact Or.inl (inspect_custody hp (hfind.trans (asks_of_eq rfl hdesc).spares))
      · rename_i desc u₂ hdesc
        have hasks := hfind.trans (asks_of_eq rfl hdesc).spares
        split
        · rename_i e u₃ hopen
          exact Or.inl (inspect_custody hp (hasks.trans (asks_of_eq rfl hopen).spares))
        · rename_i handle u₃ hopen
          obtain ⟨hnew, hopened⟩ := hp.answers hopen
          rw [hid] at hopened
          have hgrows := (hp.grows hasks).trans (Interfaces.grows_opened hnew d)
          rw [← hopened] at hgrows
          have hdevice : (view u₃.world).device handle = some d := by
            rw [hopened]
            exact Function.update_self ..
          obtain ⟨detached, u₄, hdrivers⟩ : ∃ detached u₄,
              detachActiveDrivers p device handle u₃ = (detached, u₄) := ⟨_, _, rfl⟩
          obtain ⟨s, hmore, hview, hbound⟩ := detachActiveDrivers_view hp hdevice hdrivers
          have hunused : (view u.world).device handle = none := by
            cases hold : (view u.world).device handle with
            | none => rfl
            | some x =>
              rw [(hp.grows hasks).device _ _ hold] at hnew
              cases hnew
          have hfree : ∀ i, s.claimed handle i = false := by
            intro i
            rw [hmore.claimed handle d hdevice, hopened]
            simp [Interfaces.opened]
          simp only [hdrivers]
          refine Or.inr ?_
          show Step _ _ ⟨m.attachments.insert d _, view u₄.world⟩
          rw [hview]
          exact .attach hd (hgrows.trans hmore) (hmore.device _ _ hdevice) hunused hfree hbound rfl

/-- An operation on a handle whose call changes nothing if it fails. -/
theorem OnHandle.custody_step {run : Handle → Bus W → Except RusbError Unit × Bus W}
    {after : AttachmentInfo → DeviceManager}
    {r : Except WolfUsbError Unit × DeviceManager × Bus W} {e : Custodial}
    (h : OnHandle m d u run after r)
    (hfailed : ∀ handle e u', run handle u = (.error e, u') → view u'.world = view u.world)
    (hdone : ∀ info u', m.attachments.lookup d = some info → run info.handle u = (.ok (), u') →
      Step (m.custody view u) e ((after info).custody view u')) :
    m.custody view u = r.2.1.custody view r.2.2 ∨
      Step (m.custody view u) e (r.2.1.custody view r.2.2) := by
  cases h with
  | absent hd => exact Or.inl rfl
  | failed hd hcall => exact Or.inl (by rw [custody, custody, hfailed _ _ _ hcall])
  | done hd hcall => exact Or.inr (hdone _ _ hd hcall)

/-- One claim, one release, one configuration. -/
theorem claimInterface_custody (hp : Interfaces.Keeps p view) (d : DeviceId) (i : UInt8) :
    m.custody view u = (m.claimInterface p d i u).2.1.custody view (m.claimInterface p d i u).2.2 ∨
      Step (m.custody view u) (.claim d i)
        ((m.claimInterface p d i u).2.1.custody view (m.claimInterface p d i u).2.2) := by
  refine (claimInterface_onHandle p m d i u).custody_step ?_ ?_
  · intro handle e u' hcall
    exact (hp.answers hcall).2
  · intro info u' hd hcall
    have hview : view u'.world = (view u.world).setClaim info.handle i true :=
      (hp.answers hcall).2
    rw [custody, custody, hview]
    exact .claim hd

theorem releaseInterface_custody (hp : Interfaces.Keeps p view) (d : DeviceId) (i : UInt8) :
    m.custody view u
        = (m.releaseInterface p d i u).2.1.custody view (m.releaseInterface p d i u).2.2 ∨
      Step (m.custody view u) (.release d i)
        ((m.releaseInterface p d i u).2.1.custody view (m.releaseInterface p d i u).2.2) := by
  refine (releaseInterface_onHandle p m d i u).custody_step ?_ ?_
  · intro handle e u' hcall
    exact (hp.answers hcall).2
  · intro info u' hd hcall
    have hview : view u'.world = (view u.world).setClaim info.handle i false :=
      (hp.answers hcall).2
    rw [custody, custody, hview]
    exact .release hd

theorem setConfiguration_custody (hp : Interfaces.Keeps p view) (d : DeviceId) (i : UInt8) :
    m.custody view u
        = (m.setConfiguration p d i u).2.1.custody view (m.setConfiguration p d i u).2.2 ∨
      Step (m.custody view u) (.configure d)
        ((m.setConfiguration p d i u).2.1.custody view (m.setConfiguration p d i u).2.2) := by
  unfold setConfiguration
  split
  · exact Or.inl rfl
  · rename_i info hd
    split
    · rename_i e u₁ hcall
      obtain ⟨hdevice, hclaimed, hother⟩ := hp.answers hcall
      exact Or.inr (.configure hd hdevice hclaimed hother)
    · rename_i u₁ hcall
      obtain ⟨hdevice, hclaimed, hother⟩ := hp.answers hcall
      exact Or.inr (.configure hd hdevice hclaimed hother)

end DeviceManager

namespace ManagerOp

open Custody DeviceManager

/-- At most one step is a run. -/
theorem run_of_step {op : ManagerOp} {c c' : Custody} {e : Custodial} (he : op.Causes e)
    (h : c = c' ∨ c.Step e c') : ∃ es, (∀ e ∈ es, op.Causes e) ∧ Run Step c es c' := by
  rcases h with rfl | hstep
  · exact ⟨[], by simp, .nil c⟩
  · exact ⟨[e], by simpa using he, .single hstep⟩

/-- **The operations are sequences of the steps they may take.** -/
theorem perform_custody (hp : Interfaces.Keeps p view) (op : ManagerOp) {sh : Shared W}
    (hl : (sh.custody view).Linked) :
    ∃ es, (∀ e ∈ es, op.Causes e) ∧
      Run Step (sh.custody view) es ((op.perform p sh).2.custody view) := by
  cases op with
  | listDevices =>
    exact run_of_step rfl (Or.inr (inspect_custody hp (listDevices_asks p sh.bus).spares))
  | getDescriptors d =>
    exact run_of_step rfl (Or.inr (inspect_custody hp (getDescriptors_asks p d sh.bus).spares))
  | transfer request =>
    exact run_of_step rfl (Or.inr (inspect_custody hp (request.run_spares p sh.manager sh.bus)))
  | attach d addr =>
    rcases attach_custody hp (m := sh.manager) (u := sh.bus) d addr with hstep | hstep
    · exact run_of_step (Or.inl rfl) (Or.inr hstep)
    · exact run_of_step (Or.inr rfl) (Or.inr hstep)
  | detach d s =>
    refine run_of_step rfl ((detach_custody hp hl d s).imp ?_ id)
    intro hsame
    show sh.custody view = (sh.manager.detach p d s sh.bus).2.1.custody view
      (sh.manager.detach p d s sh.bus).2.2
    rw [hsame]
    rfl
  | detachAllForSessions keys => exact detachAll_custody hp keys hl
  | claimInterface d i => exact run_of_step rfl (claimInterface_custody hp d i)
  | releaseInterface d i => exact run_of_step rfl (releaseInterface_custody hp d i)
  | setConfiguration d i => exact run_of_step rfl (setConfiguration_custody hp d i)

/-- What every step an operation may take preserves, the operation does. -/
theorem perform_preserves (hp : Interfaces.Keeps p view) {I : Custody → Prop} (op : ManagerOp)
    (hI : ∀ c e c', c.Linked → I c → op.Causes e → c.Step e c' → I c') {sh : Shared W}
    (hl : (sh.custody view).Linked) (h : I (sh.custody view)) :
    ((op.perform p sh).2.custody view).Linked ∧ I ((op.perform p sh).2.custody view) := by
  obtain ⟨es, hes, hrun⟩ := perform_custody hp op hl
  refine hrun.preserves_along (I := fun c => c.Linked ∧ I c) ?_ (.of_forall hes) ⟨hl, h⟩
  intro c e c' hc hcause hstep
  exact ⟨hc.1.step hstep, hI c e c' hc.1 hc.2 hcause hstep⟩

end ManagerOp

theorem Shared.linked_fresh (world : W) : ((Shared.fresh world).custody view).Linked := by
  intro d info hd
  have hempty : (∅ : HashMap DeviceId AttachmentInfo).lookup d = some info := hd
  rw [Finmap.lookup_empty] at hempty
  cases hempty

/-- Along every run the handles of the attachments are open on their
devices. -/
theorem Shared.linked (hp : Interfaces.Keeps p view) {world : W} {ops : List ManagerOp}
    {sh : Shared W} (hrun : Run (Shared.Steps p) (.fresh world) ops sh) :
    (sh.custody view).Linked := by
  refine hrun.preserves (I := fun sh => (sh.custody view).Linked) ?_ (linked_fresh world)
  intro sh op sh' hl hstep
  rw [hstep.eq]
  exact (op.perform_preserves hp (I := fun _ => True) (fun _ _ _ _ _ _ _ => trivial) hl
    trivial).1

end WolfUsb
