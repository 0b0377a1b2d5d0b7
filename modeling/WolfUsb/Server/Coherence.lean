/-
WolfUsb.Server.Coherence — the connections' tables, the manager and the
grants tell one story.

`Registry.Coherent` says that a session in the manager is that of the
grant of its device, and that a session in a live table is in the manager
for the same device and is that of the connection's own grant. Operations
that fit the manager's maps (`Registry.Fits`) keep it, so it holds along
every run that meets the conditions of `Server.RegistryTheorems`
(`coherent_along`). What a client can do with a session it holds is then
read off its grant (`Coherent.own`).
-/
import WolfUsb.Server.RegistryTheorems

namespace WolfUsb

open WolfUsb.Lib

variable {W : Type} (p : Platform W)

namespace Registry

/-- The tables, the manager and the grants agree. -/
structure Coherent (r : Registry) : Prop where
  consistent : r.manager.Consistent
  tight : ∀ d, d ∉ r.manager.attachments → r.grants d = none
  granted : ∀ s d, r.manager.sessionToDevice.lookup s = some d →
    ∃ info c, r.manager.attachments.lookup d = some info ∧
      r.grants d = some ⟨c, s, info.handle⟩
  owned : ∀ c t s d, r.tables c = some t → t.lookup s = some d →
    r.manager.sessionToDevice.lookup s = some d ∧ ∃ h, r.grants d = some ⟨c, s, h⟩

variable {r r' : Registry}

/-! ## What coherence gives -/

theorem Coherent.attached (h : r.Coherent) {s : UInt64} {d : DeviceId}
    (hs : r.manager.sessionToDevice.lookup s = some d) : d ∈ r.manager.attachments :=
  (h.consistent.range d).mpr ⟨s, hs⟩

/-- The session of a grant is the manager's session of the device. -/
theorem Coherent.session_of_grant (h : r.Coherent) {d : DeviceId} {g : Grant}
    (hg : r.grants d = some g) : r.manager.sessionToDevice.lookup g.session = some d := by
  have hd : d ∈ r.manager.attachments := by
    by_contra hd
    rw [h.tight d hd] at hg
    cases hg
  obtain ⟨s, hs⟩ := (h.consistent.range d).mp hd
  obtain ⟨info, c, -, hg'⟩ := h.granted s d hs
  rw [hg] at hg'
  cases hg'
  exact hs

/-- A session in a live table that the manager has for the device `d` is
the session of `d`'s attachment, made by this very connection. -/
theorem Coherent.own (h : r.Coherent) {c : Nat} {t : HashMap UInt64 DeviceId} {s : UInt64}
    {d : DeviceId} (ht : r.tables c = some t) (hs : s ∈ t)
    (hsd : r.manager.sessionToDevice.lookup s = some d) :
    ∃ info, r.manager.attachments.lookup d = some info ∧
      r.grants d = some ⟨c, s, info.handle⟩ := by
  obtain ⟨d', hd'⟩ := Finmap.mem_iff.mp hs
  obtain ⟨hsd', handle, hg'⟩ := h.owned c t s d' ht hd'
  obtain rfl : d' = d := Option.some.inj (hsd'.symm.trans hsd)
  obtain ⟨info, c', hinfo, hg⟩ := h.granted s d' hsd
  obtain ⟨rfl, -, -⟩ := Grant.mk.inj (Option.some.inj (hg.symm.trans hg'))
  exact ⟨info, hinfo, hg⟩

/-! ## The operations -/

theorem coherent_empty : Registry.empty.Coherent where
  consistent := DeviceManager.consistent_new
  tight _ _ := rfl
  granted s d h := by cases h
  owned c t s d h := by cases h

/-- Tables may lose entries. -/
theorem Coherent.retable (h : r.Coherent) {tables : Nat → Option (HashMap UInt64 DeviceId)}
    (hsub : ∀ c t s d, tables c = some t → t.lookup s = some d →
      ∃ t', r.tables c = some t' ∧ t'.lookup s = some d) :
    Coherent { r with tables := tables } where
  consistent := h.consistent
  tight := h.tight
  granted := h.granted
  owned c t s d ht hs := by
    obtain ⟨t', ht', hs'⟩ := hsub c t s d ht hs
    exact h.owned c t' s d ht' hs'

/-- A table replaced by one without new entries. -/
theorem Coherent.replace (h : r.Coherent) {c : Nat} {t' : Option (HashMap UInt64 DeviceId)}
    (hsub : ∀ u s d, t' = some u → u.lookup s = some d →
      ∃ t, r.tables c = some t ∧ t.lookup s = some d) :
    Coherent { r with tables := r.withTable c t' } := by
  refine h.retable fun x u s d hu hs => ?_
  by_cases hx : x = c
  · subst hx
    rw [withTable_self] at hu
    exact hsub u s d hu hs
  · rw [withTable_of_ne _ _ _ hx] at hu
    exact ⟨u, hu, hs⟩

theorem Coherent.attach (h : r.Coherent) {c : Nat} {t : HashMap UInt64 DeviceId} {d : DeviceId}
    {info : AttachmentInfo} (hc : r.tables c = some t) (hd : d ∉ r.manager.attachments)
    (hfree : r.manager.sessionToDevice.lookup r.manager.nextSessionId = none) :
    Coherent
      { tables := r.withTable c (some (t.insert r.manager.nextSessionId d))
        manager := r.manager.register d info
        grants := Function.update r.grants d (some ⟨c, r.manager.nextSessionId, info.handle⟩)
        issued := r.issued ++ [(c, r.manager.nextSessionId)] } := by
  -- an old session is not the new one, and its device is not the new one
  have old : ∀ {s x}, r.manager.sessionToDevice.lookup s = some x →
      s ≠ r.manager.nextSessionId ∧ x ≠ d := by
    intro s x hs
    constructor
    · rintro rfl
      rw [hfree] at hs
      cases hs
    · rintro rfl
      exact hd (h.attached hs)
  refine ⟨(DeviceManager.consistent_register_iff h.consistent hd info).mpr hfree, ?_, ?_, ?_⟩
  · intro x hx
    rw [DeviceManager.register_mem, not_or] at hx
    show Function.update r.grants d _ x = none
    rw [Function.update_of_ne hx.1]
    exact h.tight x hx.2
  · intro s x hs
    show ∃ info' c', (r.manager.register d info).attachments.lookup x = some info' ∧
      Function.update r.grants d _ x = some ⟨c', s, info'.handle⟩
    rw [DeviceManager.register_session] at hs
    split at hs
    · rename_i heq
      subst heq
      cases hs
      exact ⟨info, c, by simp, by simp⟩
    · obtain ⟨info', c', hinfo, hg⟩ := h.granted s x hs
      have hxd := (old hs).2
      exact ⟨info', c', by simpa [hxd] using hinfo, by simpa [hxd] using hg⟩
  · intro x u s y hu hs
    show (r.manager.register d info).sessionToDevice.lookup s = some y ∧
      ∃ handle, Function.update r.grants d _ y = some ⟨x, s, handle⟩
    have keep : ∀ {t'}, r.tables x = some t' → t'.lookup s = some y →
        (r.manager.register d info).sessionToDevice.lookup s = some y ∧
          ∃ handle, Function.update r.grants d
            (some ⟨c, r.manager.nextSessionId, info.handle⟩) y = some ⟨x, s, handle⟩ := by
      intro t' ht' hs'
      obtain ⟨hsy, handle, hg⟩ := h.owned x t' s y ht' hs'
      obtain ⟨hsn, hyd⟩ := old hsy
      exact ⟨by simpa [hsn] using hsy, handle, by simpa [hyd] using hg⟩
    by_cases hx : x = c
    · subst hx
      obtain rfl : u = t.insert r.manager.nextSessionId d := by simpa using hu.symm
      rw [lookup_insert_eq] at hs
      split at hs
      · rename_i heq
        subst heq
        cases hs
        exact ⟨by simp, info.handle, by simp⟩
      · exact keep hc hs
    · exact keep (by simpa [hx] using hu) hs

theorem Coherent.detach (h : r.Coherent) {c : Nat} {t : HashMap UInt64 DeviceId} {d : DeviceId}
    {s : UInt64} (hc : r.tables c = some t) (hs : s ∈ t) (hd : d ∈ r.manager.attachments)
    (hsd : r.manager.sessionToDevice.lookup s = some d) :
    Coherent
      { r with
        tables := r.withTable c (some (t.erase s))
        manager := r.manager.forget d s
        grants := Function.update r.grants d none } := by
  -- a session other than `s` is of another device
  have other : ∀ {s' x}, r.manager.sessionToDevice.lookup s' = some x → s' ≠ s → x ≠ d := by
    rintro s' x hs' hne rfl
    exact hne (h.consistent.inj s' s x hs' hsd)
  refine ⟨(DeviceManager.consistent_forget_iff h.consistent hd s).mpr hsd, ?_, ?_, ?_⟩
  · intro x hx
    show Function.update r.grants d none x = none
    by_cases hxd : x = d
    · simp [hxd]
    · rw [Function.update_of_ne hxd]
      exact h.tight x (fun hmem => hx ((DeviceManager.forget_mem ..).mpr ⟨hxd, hmem⟩))
  · intro s' x hs'
    rw [DeviceManager.forget_session] at hs'
    split at hs'
    · cases hs'
    · rename_i hne
      obtain ⟨info, c', hinfo, hg⟩ := h.granted s' x hs'
      have hxd := other hs' hne
      exact ⟨info, c', by simpa [hxd] using hinfo, by simpa [hxd] using hg⟩
  · intro x u s' y hu hs'
    -- the entry is an old one, and not that of the session that went
    have hold : s' ≠ s ∧ ∃ t', r.tables x = some t' ∧ t'.lookup s' = some y := by
      by_cases hx : x = c
      · subst hx
        obtain rfl : u = t.erase s := by simpa using hu.symm
        rw [lookup_erase_eq] at hs'
        split at hs'
        · cases hs'
        · exact ⟨by assumption, t, hc, hs'⟩
      · have hu' : r.tables x = some u := by simpa [hx] using hu
        refine ⟨?_, u, hu', hs'⟩
        rintro rfl
        -- two connections do not hold one session
        obtain ⟨hsy, handle, hg⟩ := h.owned x u s' y hu' hs'
        obtain rfl : y = d := Option.some.inj (hsy.symm.trans hsd)
        obtain ⟨info, -, hg'⟩ := h.own hc hs hsd
        exact hx (Grant.mk.inj (Option.some.inj (hg.symm.trans hg'))).1
    obtain ⟨hne, t', ht', hlook⟩ := hold
    obtain ⟨hsy, handle, hg⟩ := h.owned x t' s' y ht' hlook
    exact ⟨by simpa [hne] using hsy, handle, by simpa [other hsy hne] using hg⟩

theorem Coherent.touch (h : r.Coherent) {m : DeviceManager} (hm : r.manager.Touches m) :
    Coherent { r with manager := m } := by
  cases hm with
  | same => exact h
  | @entry d info info' hinfo hh =>
      have hmem : d ∈ r.manager.attachments := Finmap.mem_of_lookup_eq_some hinfo
      refine ⟨DeviceManager.consistent_touches h.consistent (.entry hinfo hh), ?_, ?_, h.owned⟩
      · intro x hx
        rw [DeviceManager.update_mem, not_or] at hx
        exact h.tight x hx.2
      · intro s x hs
        obtain ⟨info₀, c, hinfo₀, hg⟩ := h.granted s x hs
        show ∃ i c, (r.manager.update d info').attachments.lookup x = some i ∧ _
        rw [DeviceManager.update_lookup]
        split
        · rename_i heq
          subst heq
          obtain rfl : info₀ = info := Option.some.inj (hinfo₀.symm.trans hinfo)
          exact ⟨info', c, rfl, by rw [hh]; exact hg⟩
        · exact ⟨info₀, c, hinfo₀, hg⟩

/-- **Fitting operations keep the registry coherent.** -/
theorem Coherent.step {op : RegOp} (h : r.Coherent) (hfit : r.Fits op) (hstep : r.Step op r') :
    r'.Coherent := by
  cases hstep with
  | accept hc =>
      refine h.replace fun u s d hu hs => ?_
      cases hu
      rw [Finmap.lookup_empty] at hs
      cases hs
  | attach hc hd => exact h.attach hc hd hfit
  | detach hc hs hd => exact h.detach hc hs hd hfit
  | refuse hc hs hd =>
      refine h.replace fun u s' d hu hs' => ?_
      cases hu
      rw [lookup_erase_eq] at hs'
      split at hs'
      · cases hs'
      · exact ⟨_, hc, hs'⟩
  | touch hm => exact h.touch hm
  | close hc =>
      refine h.replace fun u s d hu hs => ?_
      cases hu

end Registry

/-! ## Runs -/

theorem Audited.registry_start (sharedKey : Option Bytes) (tls : Bool) (world : W) :
    (Audited.start sharedKey tls world).registry = .empty := by
  refine Registry.ext (funext fun c => ?_) rfl rfl rfl
  show ((∅ : HashMap Nat Connection).lookup c).map Connection.sessions = none
  rw [Finmap.lookup_empty]
  rfl

/-- **Coherence along a run** whose Detach requests match the manager's
sessions and whose session counter does not come round. -/
theorem coherent_along (sharedKey : Option Bytes) (tls : Bool) (world : W) {es : List Event}
    (hC : StepsAlong (Audited.Steps p)
      (fun a e => a.server.DetachMatches e ∧ a.server.TicketUnused e)
      (.start sharedKey tls world) es) :
    StatesAlong (Audited.Steps p) (fun a => a.registry.Coherent)
      (.start sharedKey tls world) es := by
  have hempty := Registry.coherent_empty
  rw [← Audited.registry_start sharedKey tls world] at hempty
  exact (registry_invariant p
    (fun a e r op r' hC' hcause hstep hr => hr.step (hcause.fits hC'.1 hC'.2 hstep) hstep)
    (Audited.ok_start sharedKey tls world) hempty hC).mono fun a ha => ha.2

end WolfUsb
