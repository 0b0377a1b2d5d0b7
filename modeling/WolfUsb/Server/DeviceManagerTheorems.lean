/-
WolfUsb.Server.DeviceManagerTheorems — what each operation of the device
manager can do to its maps, once for each operation.

The callers' proofs use these and never unfold an operation: `attach`
either leaves the manager alone or is one `register` of a device that was
not attached; `detach` refuses a device that is not attached and is one
`forget` otherwise; the interface and configuration operations at most
rewrite the entry of an attached device and keep its handle.
`detachAllForSessions_induct` packages the cleanup loop.
-/
import WolfUsb.Lib.Finmaps
import WolfUsb.Server.DeviceManager

namespace WolfUsb.DeviceManager

open WolfUsb.Lib

variable {W : Type} (p : Platform W)

/-! ## The map updates -/

section Updates

variable (m : DeviceManager) (d x : DeviceId) (s t : UInt64) (info : AttachmentInfo)

@[simp] theorem register_lookup :
    (m.register d info).attachments.lookup x =
      if x = d then some info else m.attachments.lookup x :=
  lookup_insert_eq ..

@[simp] theorem register_session :
    (m.register d info).sessionToDevice.lookup t =
      if t = m.nextSessionId then some d else m.sessionToDevice.lookup t :=
  lookup_insert_eq ..

@[simp] theorem register_mem : x ∈ (m.register d info).attachments ↔ x = d ∨ x ∈ m.attachments :=
  Finmap.mem_insert

@[simp] theorem register_next : (m.register d info).nextSessionId = m.nextSessionId + 1 := rfl

@[simp] theorem forget_lookup :
    (m.forget d s).attachments.lookup x = if x = d then none else m.attachments.lookup x :=
  lookup_erase_eq ..

@[simp] theorem forget_session :
    (m.forget d s).sessionToDevice.lookup t =
      if t = s then none else m.sessionToDevice.lookup t :=
  lookup_erase_eq ..

@[simp] theorem forget_mem : x ∈ (m.forget d s).attachments ↔ x ≠ d ∧ x ∈ m.attachments :=
  Finmap.mem_erase

@[simp] theorem forget_next : (m.forget d s).nextSessionId = m.nextSessionId := rfl

@[simp] theorem update_lookup :
    (m.update d info).attachments.lookup x =
      if x = d then some info else m.attachments.lookup x :=
  lookup_insert_eq ..

@[simp] theorem update_session : (m.update d info).sessionToDevice = m.sessionToDevice := rfl

@[simp] theorem update_mem : x ∈ (m.update d info).attachments ↔ x = d ∨ x ∈ m.attachments :=
  Finmap.mem_insert

@[simp] theorem update_next : (m.update d info).nextSessionId = m.nextSessionId := rfl

end Updates

/-! ## Attach -/

/-- `attach` leaves the manager alone, or takes the next session id for a
device that was not attached. -/
theorem attach_cases (m : DeviceManager) (d : DeviceId) (addr : SocketAddr) (u : Bus W) :
    (∃ e, (m.attach p d addr u).1 = .error e ∧ (m.attach p d addr u).2.1 = m) ∨
    (∃ info, (m.attach p d addr u).1 = .ok m.nextSessionId ∧ d ∉ m.attachments ∧
      (m.attach p d addr u).2.1 = m.register d info ∧ info.claimedInterfaces = []) := by
  unfold attach
  split
  · exact Or.inl ⟨_, rfl, rfl⟩
  · rename_i hd
    split
    · exact Or.inl ⟨_, rfl, rfl⟩
    · split
      · exact Or.inl ⟨_, rfl, rfl⟩
      · split
        · exact Or.inl ⟨_, rfl, rfl⟩
        · exact Or.inr ⟨_, rfl, hd, rfl, rfl⟩

/-! ## Detach -/

theorem detach_of_notMem {m : DeviceManager} {d : DeviceId} (s : UInt64) (u : Bus W)
    (h : d ∉ m.attachments) : m.detach p d s u = (.error .deviceNotAttached, m, u) := by
  unfold detach
  rw [Finmap.lookup_eq_none.mpr h]

theorem detach_of_mem {m : DeviceManager} {d : DeviceId} (s : UInt64) (u : Bus W)
    (h : d ∈ m.attachments) :
    (m.detach p d s u).1 = .ok () ∧ (m.detach p d s u).2.1 = m.forget d s := by
  obtain ⟨info, hinfo⟩ := Finmap.mem_iff.mp h
  unfold detach
  rw [hinfo]
  exact ⟨rfl, rfl⟩

/-- **Cleanup loop.** A predicate on the manager that survives the removal
of an attached device together with a listed session that names it
survives `detach_all_for_sessions`. -/
theorem detachAllForSessions_induct {I : DeviceManager → Prop} {keys : List UInt64}
    (hI : ∀ m s d, s ∈ keys → I m → m.sessionToDevice.lookup s = some d →
      d ∈ m.attachments → I (m.forget d s)) :
    ∀ (m : DeviceManager) (u : Bus W), I m → I (detachAllForSessions p keys m u).1 := by
  induction keys with
  | nil =>
      intro m u hm
      exact hm
  | cons s rest ih =>
      have ih := ih fun m t d ht => hI m t d (List.mem_cons_of_mem s ht)
      intro m u hm
      rw [detachAllForSessions]
      cases hs : m.sessionToDevice.lookup s with
      | none => exact ih m u hm
      | some d =>
          by_cases hd : d ∈ m.attachments
          · obtain ⟨-, hforget⟩ := detach_of_mem p s u hd
            have hm' := hI m s d List.mem_cons_self hm hs hd
            rw [← hforget] at hm'
            exact ih _ _ hm'
          · simp only [detach_of_notMem p s u hd]
            exact ih m u hm

/-- `m'` has no attachment and no session that `m` does not have. -/
structure Shrinks (m m' : DeviceManager) : Prop where
  attachments : ∀ d info, m'.attachments.lookup d = some info →
    m.attachments.lookup d = some info
  sessions : ∀ s d, m'.sessionToDevice.lookup s = some d → m.sessionToDevice.lookup s = some d

theorem Shrinks.mem {m m' : DeviceManager} (h : m.Shrinks m') {d : DeviceId}
    (hd : d ∈ m'.attachments) : d ∈ m.attachments := by
  obtain ⟨info, hinfo⟩ := Finmap.mem_iff.mp hd
  exact Finmap.mem_iff.mpr ⟨info, h.attachments d info hinfo⟩

theorem Shrinks.refl (m : DeviceManager) : m.Shrinks m := ⟨fun _ _ h => h, fun _ _ h => h⟩

theorem Shrinks.trans {m m' m'' : DeviceManager} (h : m.Shrinks m') (h' : m'.Shrinks m'') :
    m.Shrinks m'' :=
  ⟨fun d info hd => h.attachments d info (h'.attachments d info hd),
    fun s d hs => h.sessions s d (h'.sessions s d hs)⟩

theorem shrinks_forget (m : DeviceManager) (d : DeviceId) (s : UInt64) :
    m.Shrinks (m.forget d s) := by
  constructor
  · intro x info hx
    rw [forget_lookup] at hx
    split at hx
    · cases hx
    · exact hx
  · intro t x hx
    rw [forget_session] at hx
    split at hx
    · cases hx
    · exact hx

theorem detachAllForSessions_shrinks (keys : List UInt64) (m : DeviceManager) (u : Bus W) :
    m.Shrinks (detachAllForSessions p keys m u).1 :=
  detachAllForSessions_induct p
    (fun m' s d _ hm' _ _ => hm'.trans (shrinks_forget m' d s)) m u (Shrinks.refl m)

/-- Cleanup leaves nothing of a listed session to detach: what it still
maps to is not attached. -/
theorem detachAllForSessions_swept {keys : List UInt64} {s : UInt64} (hs : s ∈ keys) :
    ∀ (m : DeviceManager) (u : Bus W) (d : DeviceId),
      (detachAllForSessions p keys m u).1.sessionToDevice.lookup s = some d →
      d ∉ (detachAllForSessions p keys m u).1.attachments := by
  induction keys with
  | nil => cases hs
  | cons t rest ih =>
      -- a session that is swept after the first step stays so
      have done : ∀ (m₁ : DeviceManager) (u₁ : Bus W) (d : DeviceId),
          (∀ d', m₁.sessionToDevice.lookup t = some d' → d' ∉ m₁.attachments) →
          (detachAllForSessions p rest m₁ u₁).1.sessionToDevice.lookup s = some d →
          d ∉ (detachAllForSessions p rest m₁ u₁).1.attachments := by
        intro m₁ u₁ d ht hd hmem
        have hshrink := detachAllForSessions_shrinks p rest m₁ u₁
        rcases List.mem_cons.mp hs with rfl | hs'
        · exact ht d (hshrink.sessions s d hd) (hshrink.mem hmem)
        · exact ih hs' m₁ u₁ d hd hmem
      intro m u d
      rw [detachAllForSessions]
      cases ht : m.sessionToDevice.lookup t with
      | none => exact done m u d (fun d' h => by rw [ht] at h; cases h)
      | some d₀ =>
          by_cases hd₀ : d₀ ∈ m.attachments
          · obtain ⟨-, hforget⟩ := detach_of_mem p t u hd₀
            refine done (m.detach p d₀ t u).2.1 (m.detach p d₀ t u).2.2 d (fun d' h => ?_)
            rw [hforget, forget_session, if_pos rfl] at h
            cases h
          · simp only [detach_of_notMem p t u hd₀]
            refine done m u d (fun d' h => ?_)
            rw [ht] at h
            cases h
            exact hd₀

/-! ## Interfaces and configuration -/

/-- `m'` is `m` with at most the entry of one attached device rewritten,
its handle and identity kept. -/
inductive Touches (m : DeviceManager) : DeviceManager → Prop
  | same : Touches m m
  | entry {d : DeviceId} {info info' : AttachmentInfo} (hd : m.attachments.lookup d = some info)
      (hh : info'.handle = info.handle) : Touches m (m.update d info')

theorem Touches.session {m m' : DeviceManager} (h : m.Touches m') :
    m'.sessionToDevice = m.sessionToDevice := by
  cases h with
  | same => rfl
  | entry _ _ => rfl

/-- The outcomes of an operation on the handle of a device: the device is
not attached, the call fails, or it succeeds and the manager is `after`. -/
inductive OnHandle (m : DeviceManager) (d : DeviceId) (u : Bus W)
    (run : Handle → Bus W → Except RusbError Unit × Bus W) (after : AttachmentInfo → DeviceManager) :
    Except WolfUsbError Unit × DeviceManager × Bus W → Prop
  | absent (hd : m.attachments.lookup d = none) :
      OnHandle m d u run after (.error .deviceNotAttached, m, u)
  | failed {info : AttachmentInfo} {e : RusbError} {u' : Bus W}
      (hd : m.attachments.lookup d = some info) (hcall : run info.handle u = (.error e, u')) :
      OnHandle m d u run after (.error (.usbError e), m, u')
  | done {info : AttachmentInfo} {u' : Bus W} (hd : m.attachments.lookup d = some info)
      (hcall : run info.handle u = (.ok (), u')) : OnHandle m d u run after (.ok (), after info, u')

section Outcomes

variable (m : DeviceManager) (d : DeviceId) (n : UInt8) (u : Bus W)

theorem claimInterface_onHandle :
    OnHandle m d u (fun handle => p.call (.claimInterface handle n))
      (fun info => m.update d { info with claimedInterfaces := info.claimedInterfaces ++ [n] })
      (m.claimInterface p d n u) := by
  unfold claimInterface
  split
  · rename_i hd
    exact .absent hd
  · rename_i info hd
    split
    · rename_i hcall
      exact .failed hd hcall
    · rename_i hcall
      exact .done hd hcall

theorem releaseInterface_onHandle :
    OnHandle m d u (fun handle => p.call (.releaseInterface handle n))
      (fun info => m.update d
        { info with claimedInterfaces := info.claimedInterfaces.filter (· != n) })
      (m.releaseInterface p d n u) := by
  unfold releaseInterface
  split
  · rename_i hd
    exact .absent hd
  · rename_i info hd
    split
    · rename_i hcall
      exact .failed hd hcall
    · rename_i hcall
      exact .done hd hcall

theorem setConfiguration_onHandle :
    OnHandle m d u (fun handle => p.call (.setActiveConfiguration handle n)) (fun _ => m)
      (m.setConfiguration p d n u) := by
  unfold setConfiguration
  split
  · rename_i hd
    exact .absent hd
  · rename_i info hd
    split
    · rename_i hcall
      exact .failed hd hcall
    · rename_i hcall
      exact .done hd hcall

end Outcomes

theorem OnHandle.touches {m : DeviceManager} {d : DeviceId} {u : Bus W}
    {run : Handle → Bus W → Except RusbError Unit × Bus W} {after : AttachmentInfo → DeviceManager}
    {r : Except WolfUsbError Unit × DeviceManager × Bus W} (h : OnHandle m d u run after r)
    (hafter : ∀ info, m.attachments.lookup d = some info → Touches m (after info)) :
    Touches m r.2.1 := by
  cases h with
  | absent hd => exact .same
  | failed hd hcall => exact .same
  | done hd hcall => exact hafter _ hd

theorem claimInterface_touches (m : DeviceManager) (d : DeviceId) (n : UInt8) (u : Bus W) :
    Touches m (m.claimInterface p d n u).2.1 :=
  (claimInterface_onHandle p m d n u).touches fun _ hd => .entry hd rfl

theorem releaseInterface_touches (m : DeviceManager) (d : DeviceId) (n : UInt8) (u : Bus W) :
    Touches m (m.releaseInterface p d n u).2.1 :=
  (releaseInterface_onHandle p m d n u).touches fun _ hd => .entry hd rfl

theorem setConfiguration_touches (m : DeviceManager) (d : DeviceId) (n : UInt8) (u : Bus W) :
    Touches m (m.setConfiguration p d n u).2.1 :=
  (setConfiguration_onHandle p m d n u).touches fun _ _ => .same

/-! ## Transfers -/

theorem getHandle_ok {m : DeviceManager} {d : DeviceId} {u : Bus W} {h : Handle}
    (hok : (m.getHandle p d u).1 = .ok h) :
    ∃ info, m.attachments.lookup d = some info ∧ info.handle = h := by
  unfold getHandle at hok
  split at hok
  · cases hok
  · rename_i info hd
    split at hok
    · cases hok
    · cases hok
      exact ⟨info, hd, rfl⟩

theorem validateSession_ok {m : DeviceManager} {s : UInt64} {d : DeviceId} :
    m.validateSession s d = .ok () ↔ m.sessionToDevice.lookup s = some d := by
  unfold validateSession
  cases hs : m.sessionToDevice.lookup s with
  | none => simp
  | some d' => by_cases hd : d' = d <;> simp [hd]

end WolfUsb.DeviceManager
