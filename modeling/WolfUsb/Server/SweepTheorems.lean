/-
WolfUsb.Server.SweepTheorems — what `detach_all_for_sessions` leaves of
the sessions it is given.

It detaches the device of each session in turn, and `detach` refuses a
device that is not attached before it comes to the session. So a session
stays when its device is gone: that of an attachment that was detached
with another session, or the second of two sessions of one device, and
then the order of the list decides which of them
(`stale_session_survives_cleanup`). `Sweepable` lists go completely and in
any order (`cleansUp_iff`), and every list is sweepable along a run exactly
when each Detach of the run names the session of its device
(`cleanup_complete_iff`).
-/
import WolfUsb.Lib.Indexing
import WolfUsb.Server.DeviceManagerTheorems
import WolfUsb.Server.Operations

namespace WolfUsb

open WolfUsb.Lib

variable {W : Type} (p : Platform W)

namespace DeviceManager

/-! ## The claim about one cleanup -/

/-- After the cleanup of the listed sessions none of them is left, an
attachment none of them names is as it was, and the order of the list has
not mattered. -/
structure CleansUp (m : DeviceManager) (keys : List UInt64) : Prop where
  gone : ∀ u, ∀ s ∈ keys, s ∉ (detachAllForSessions p keys m u).1.sessionToDevice
  kept : ∀ u d, (∀ s ∈ keys, m.sessionToDevice.lookup s ≠ some d) →
    (detachAllForSessions p keys m u).1.attachments.lookup d = m.attachments.lookup d
  order : ∀ u keys', keys'.Perm keys →
    (detachAllForSessions p keys' m u).1 = (detachAllForSessions p keys m u).1

/-- The listed sessions name attached devices, no two of them the same. -/
structure Sweepable (m : DeviceManager) (keys : List UInt64) : Prop where
  attached : ∀ s ∈ keys, ∀ d, m.sessionToDevice.lookup s = some d → d ∈ m.attachments
  single : ∀ s ∈ keys, ∀ t ∈ keys, ∀ d, m.sessionToDevice.lookup s = some d →
    m.sessionToDevice.lookup t = some d → s = t

variable {m : DeviceManager} {keys : List UInt64}

/-- A manager is what its lookups and its counter are. -/
theorem eq_of_lookups {m' : DeviceManager}
    (ha : ∀ d, m.attachments.lookup d = m'.attachments.lookup d)
    (hs : ∀ s, m.sessionToDevice.lookup s = m'.sessionToDevice.lookup s)
    (hn : m.nextSessionId = m'.nextSessionId) : m = m' := by
  cases m
  cases m'
  simp only [mk.injEq]
  exact ⟨Finmap.ext_lookup ha, hn, Finmap.ext_lookup hs⟩

/-! ## What goes -/

/-- An attachment that no listed session names is kept, whatever else
happens. -/
theorem detachAllForSessions_kept (u : Bus W) {d : DeviceId}
    (h : ∀ s ∈ keys, m.sessionToDevice.lookup s ≠ some d) :
    (detachAllForSessions p keys m u).1.attachments.lookup d = m.attachments.lookup d := by
  refine (detachAllForSessions_induct p
    (I := fun m' => m.Shrinks m' ∧ m'.attachments.lookup d = m.attachments.lookup d)
    ?_ m u ⟨Shrinks.refl m, rfl⟩).2
  intro m' s x hs hm' hx _
  have hxd : x ≠ d := by
    rintro rfl
    exact h s hs (hm'.1.sessions s x hx)
  refine ⟨hm'.1.trans (shrinks_forget m' x s), ?_⟩
  rw [forget_lookup, if_neg (Ne.symm hxd), hm'.2]

/-- A session that is not listed stays. -/
theorem detachAllForSessions_unlisted (u : Bus W) {t : UInt64} (ht : t ∉ keys) :
    (detachAllForSessions p keys m u).1.sessionToDevice.lookup t = m.sessionToDevice.lookup t := by
  refine detachAllForSessions_induct p
    (I := fun m' => m'.sessionToDevice.lookup t = m.sessionToDevice.lookup t) ?_ m u rfl
  intro m' s x hs hm' _ _
  have hts : t ≠ s := by
    rintro rfl
    exact ht hs
  rw [forget_session, if_neg hts, hm']

theorem detachAllForSessions_next (u : Bus W) :
    (detachAllForSessions p keys m u).1.nextSessionId = m.nextSessionId :=
  detachAllForSessions_induct p (I := fun m' => m'.nextSessionId = m.nextSessionId)
    (fun _ _ _ _ hm' _ _ => hm') m u rfl

/-- A listed session whose device is not attached stays. -/
theorem detachAllForSessions_stale (u : Bus W) {s : UInt64} {d : DeviceId}
    (hs : m.sessionToDevice.lookup s = some d) (hd : d ∉ m.attachments) :
    (detachAllForSessions p keys m u).1.sessionToDevice.lookup s = some d := by
  refine (detachAllForSessions_induct p
    (I := fun m' => m'.sessionToDevice.lookup s = some d ∧ d ∉ m'.attachments)
    ?_ m u ⟨hs, hd⟩).1
  intro m' t x _ hm' hx hmem
  have hxd : x ≠ d := by
    rintro rfl
    exact hm'.2 hmem
  have hst : s ≠ t := by
    rintro rfl
    exact hxd (Option.some.inj (hx.symm.trans hm'.1))
  refine ⟨by rw [forget_session, if_neg hst, hm'.1], ?_⟩
  rw [forget_mem]
  exact fun h => hm'.2 h.2

/-- Of two sessions of one device the second stays. -/
theorem detachAllForSessions_double (keys : List UInt64) (u : Bus W) {s t : UInt64}
    {d : DeviceId} (hne : s ≠ t) (hs : m.sessionToDevice.lookup s = some d)
    (ht : m.sessionToDevice.lookup t = some d) :
    (detachAllForSessions p keys m u).1.sessionToDevice.lookup s = some d ∨
      (detachAllForSessions p keys m u).1.sessionToDevice.lookup t = some d := by
  -- both are there while the device is attached, and one of them after that
  refine (detachAllForSessions_induct p
    (I := fun m' => (m'.sessionToDevice.lookup s = some d ∨ m'.sessionToDevice.lookup t = some d) ∧
      (d ∈ m'.attachments →
        m'.sessionToDevice.lookup s = some d ∧ m'.sessionToDevice.lookup t = some d))
    ?_ m u ⟨Or.inl hs, fun _ => ⟨hs, ht⟩⟩).1
  intro m' k x _ hm' hx hmem
  simp only [forget_session, forget_mem]
  by_cases hxd : x = d
  · subst hxd
    obtain ⟨hs', ht'⟩ := hm'.2 hmem
    refine ⟨?_, fun h => absurd rfl h.1⟩
    by_cases hsk : s = k
    · have htk : t ≠ k := fun h => hne (hsk.trans h.symm)
      exact Or.inr (by rw [if_neg htk, ht'])
    · exact Or.inl (by rw [if_neg hsk, hs'])
  · have hother : ∀ r, m'.sessionToDevice.lookup r = some d → r ≠ k := by
      rintro r hr rfl
      exact hxd (Option.some.inj (hx.symm.trans hr))
    refine ⟨?_, ?_⟩
    · rcases hm'.1 with hs' | ht'
      · exact Or.inl (by rw [if_neg (hother s hs'), hs'])
      · exact Or.inr (by rw [if_neg (hother t ht'), ht'])
    · intro h
      obtain ⟨hs', ht'⟩ := hm'.2 h.2
      exact ⟨by rw [if_neg (hother s hs'), hs'], by rw [if_neg (hother t ht'), ht']⟩

/-! ## Sweepable lists -/

theorem Sweepable.perm {keys' : List UInt64} (h : m.Sweepable keys) (hperm : keys'.Perm keys) :
    m.Sweepable keys' where
  attached s hs := h.attached s (hperm.subset hs)
  single s hs t ht := h.single s (hperm.subset hs) t (hperm.subset ht)

/-- A device that is detached is detached with a listed session that names
it, which goes with it. -/
theorem detachAllForSessions_detached (u : Bus W) {d : DeviceId} (hd : d ∈ m.attachments)
    (hgone : d ∉ (detachAllForSessions p keys m u).1.attachments) :
    ∃ s ∈ keys, m.sessionToDevice.lookup s = some d ∧
      (detachAllForSessions p keys m u).1.sessionToDevice.lookup s = none := by
  refine (detachAllForSessions_induct p
    (I := fun m' => m.Shrinks m' ∧ (d ∉ m'.attachments →
      ∃ s ∈ keys, m.sessionToDevice.lookup s = some d ∧ m'.sessionToDevice.lookup s = none))
    ?_ m u ⟨Shrinks.refl m, fun h => absurd hd h⟩).2 hgone
  intro m' k x hk hm' hx _
  refine ⟨hm'.1.trans (shrinks_forget m' x k), ?_⟩
  intro hd'
  by_cases hxd : x = d
  · subst hxd
    exact ⟨k, hk, hm'.1.sessions k x hx, by rw [forget_session, if_pos rfl]⟩
  · have hold : d ∉ m'.attachments := fun h =>
      hd' ((forget_mem m' x d k).mpr ⟨Ne.symm hxd, h⟩)
    obtain ⟨s, hs, hsd, hnone⟩ := hm'.2 hold
    refine ⟨s, hs, hsd, ?_⟩
    rw [forget_session, hnone, ite_self]

/-- A device is attached as long as a listed session that names it is there. -/
theorem detachAllForSessions_named (u : Bus W) {s : UInt64} {d : DeviceId}
    (hs : m.sessionToDevice.lookup s = some d)
    (hmem : d ∈ (detachAllForSessions p keys m u).1.attachments) :
    (detachAllForSessions p keys m u).1.sessionToDevice.lookup s = some d := by
  refine detachAllForSessions_induct p
    (I := fun m' => d ∈ m'.attachments → m'.sessionToDevice.lookup s = some d) ?_ m u
    (fun _ => hs) hmem
  intro m' k x _ hm' hx _ hd
  obtain ⟨hdx, hold⟩ := (forget_mem m' x d k).mp hd
  have hsk : s ≠ k := by
    rintro rfl
    exact hdx (Option.some.inj ((hm' hold).symm.trans hx))
  rw [forget_session, if_neg hsk, hm' hold]

/-- The sessions of a sweepable list go. -/
theorem Sweepable.sessions (h : m.Sweepable keys) (u : Bus W) (s : UInt64) :
    (detachAllForSessions p keys m u).1.sessionToDevice.lookup s =
      if s ∈ keys then none else m.sessionToDevice.lookup s := by
  split
  · rename_i hs
    cases hleft : (detachAllForSessions p keys m u).1.sessionToDevice.lookup s with
    | none => rfl
    | some d =>
      -- its device was detached, and that with the one session that names it
      have hsd := (detachAllForSessions_shrinks p keys m u).sessions s d hleft
      obtain ⟨t, ht, htd, hnone⟩ := detachAllForSessions_detached p u (h.attached s hs d hsd)
        (detachAllForSessions_swept p hs m u d hleft)
      obtain rfl := h.single t ht s hs d htd hsd
      rw [hnone] at hleft
      cases hleft
  · rename_i hs
    exact detachAllForSessions_unlisted p u hs

/-- The devices a sweepable list names go. -/
theorem Sweepable.attachments (h : m.Sweepable keys) (u : Bus W) (d : DeviceId) :
    (detachAllForSessions p keys m u).1.attachments.lookup d =
      if ∃ s ∈ keys, m.sessionToDevice.lookup s = some d then none
      else m.attachments.lookup d := by
  split
  · rename_i hnamed
    obtain ⟨s, hs, hsd⟩ := hnamed
    rw [Finmap.lookup_eq_none]
    intro hmem
    have hleft := detachAllForSessions_named p u hsd hmem
    rw [h.sessions p u s, if_pos hs] at hleft
    cases hleft
  · rename_i hnamed
    refine detachAllForSessions_kept p u ?_
    intro s hs hsd
    exact hnamed ⟨s, hs, hsd⟩

/-- **A cleanup is complete and orderless exactly for sweepable lists.** -/
theorem cleansUp_iff (m : DeviceManager) (keys : List UInt64) (u : Bus W) :
    m.CleansUp p keys ↔ m.Sweepable keys := by
  constructor
  · intro h
    constructor
    · intro s hs d hsd
      by_contra hd
      refine h.gone u s hs (Finmap.mem_iff.mpr ⟨d, ?_⟩)
      exact detachAllForSessions_stale p u hsd hd
    · intro s hs t ht d hsd htd
      by_contra hne
      rcases detachAllForSessions_double p keys u hne hsd htd with hleft | hleft
      · exact h.gone u s hs (Finmap.mem_iff.mpr ⟨d, hleft⟩)
      · exact h.gone u t ht (Finmap.mem_iff.mpr ⟨d, hleft⟩)
  · intro h
    constructor
    · intro u s hs
      rw [← Finmap.lookup_eq_none, h.sessions p u s, if_pos hs]
    · intro u d hnamed
      exact detachAllForSessions_kept p u hnamed
    · intro u keys' hperm
      have h' := h.perm hperm
      refine eq_of_lookups ?_ ?_ ?_
      · intro d
        simp only [h.attachments p, h'.attachments p, hperm.mem_iff]
      · intro s
        simp only [h.sessions p, h'.sessions p, hperm.mem_iff]
      · rw [detachAllForSessions_next, detachAllForSessions_next]

/-! ## Managers whose every cleanup is complete -/

/-- The sessions number attached devices, none of them twice. -/
def Tidy (m : DeviceManager) : Prop :=
  Numbers (fun s => m.sessionToDevice.lookup s) {d | d ∈ m.attachments}

/-- Every list is sweepable. -/
theorem tidy_iff : m.Tidy ↔ ∀ keys, m.Sweepable keys := by
  constructor
  · intro h keys
    exact ⟨fun s _ d hs => h.sound s d hs, fun s _ t _ d hs ht => h.inj s t d hs ht⟩
  · intro h
    constructor
    · intro s t d hs ht
      exact (h [s, t]).single s (by simp) t (by simp) d hs ht
    · intro s d hs
      exact (h [s]).attached s (by simp) d hs

theorem tidy_new : DeviceManager.new.Tidy := by
  have hset : {d | d ∈ DeviceManager.new.attachments} = (∅ : Set DeviceId) :=
    Set.eq_empty_of_forall_notMem fun d => Finmap.notMem_empty
  rw [Tidy, hset]
  exact numbers_empty

/-- An Attach keeps the manager tidy, also under a session id in use. -/
theorem Tidy.register (h : m.Tidy) {d : DeviceId} (hd : d ∉ m.attachments)
    (info : AttachmentInfo) : (m.register d info).Tidy := by
  have hset : {x | x ∈ (m.register d info).attachments} = insert d {x | x ∈ m.attachments} := by
    ext x
    exact register_mem m d x info
  have hlook : (fun s => (m.register d info).sessionToDevice.lookup s)
      = Function.update (fun s => m.sessionToDevice.lookup s) m.nextSessionId (some d) :=
    lookup_insert_fun ..
  rw [Tidy, hset, hlook]
  exact Numbers.insert h m.nextSessionId hd

/-- A detach keeps it tidy when no session but the one it is given names
the device. -/
theorem Tidy.forget_iff (h : m.Tidy) (d : DeviceId) (s : UInt64) :
    (m.forget d s).Tidy ↔ ∀ t, m.sessionToDevice.lookup t = some d → t = s := by
  have hset : {x | x ∈ (m.forget d s).attachments} = {x | x ∈ m.attachments} \ {d} := by
    ext x
    exact (forget_mem m d x s).trans and_comm
  have hlook : (fun t => (m.forget d s).sessionToDevice.lookup t)
      = Function.update (fun t => m.sessionToDevice.lookup t) s none :=
    lookup_erase_fun ..
  rw [Tidy, hset, hlook]
  exact Numbers.erase_iff h s d

theorem Tidy.touch (h : m.Tidy) {m' : DeviceManager} (ht : m.Touches m') : m'.Tidy := by
  cases ht with
  | same => exact h
  | @entry d info info' hd hh =>
    have hmem : d ∈ m.attachments := Finmap.mem_of_lookup_eq_some hd
    constructor
    · exact h.inj
    · intro s x hs
      exact (update_mem m d x info').mpr (Or.inr (h.sound s x hs))

/-- The cleanup itself keeps it tidy. -/
theorem Tidy.sweep (h : m.Tidy) (keys : List UInt64) (u : Bus W) :
    (detachAllForSessions p keys m u).1.Tidy := by
  refine detachAllForSessions_induct p (I := Tidy) ?_ m u h
  intro m' s d _ hm' hs _
  rw [hm'.forget_iff]
  intro t ht
  exact hm'.inj t s d ht hs

end DeviceManager

/-! ## Runs -/

/-- A Detach of an attached device is asked for with its session, if the
device has one. -/
def Shared.DetachNamesSession (sh : Shared W) : ManagerOp → Prop
  | .detach d s => d ∈ sh.manager.attachments →
      ∀ t, sh.manager.sessionToDevice.lookup t = some d → t = s
  | _ => True

theorem tidy_step {sh : Shared W} {op : ManagerOp} (h : sh.manager.Tidy)
    (hop : sh.DetachNamesSession op) : (op.perform p sh).2.manager.Tidy := by
  cases op with
  | attach d addr =>
    rcases DeviceManager.attach_cases p sh.manager d addr sh.bus with
      ⟨e, -, hm⟩ | ⟨info, -, hd, hm, -⟩
    · show (sh.manager.attach p d addr sh.bus).2.1.Tidy
      rwa [hm]
    · show (sh.manager.attach p d addr sh.bus).2.1.Tidy
      rw [hm]
      exact h.register hd info
  | detach d s =>
    show (sh.manager.detach p d s sh.bus).2.1.Tidy
    by_cases hd : d ∈ sh.manager.attachments
    · rw [(DeviceManager.detach_of_mem p s sh.bus hd).2, h.forget_iff]
      exact hop hd
    · rwa [DeviceManager.detach_of_notMem p s sh.bus hd]
  | detachAllForSessions keys => exact h.sweep p keys sh.bus
  | claimInterface d i =>
    exact h.touch (DeviceManager.claimInterface_touches p sh.manager d i sh.bus)
  | releaseInterface d i =>
    exact h.touch (DeviceManager.releaseInterface_touches p sh.manager d i sh.bus)
  | setConfiguration d c =>
    exact h.touch (DeviceManager.setConfiguration_touches p sh.manager d c sh.bus)
  | listDevices => exact h
  | getDescriptors d => exact h
  | transfer request => exact h

/-- A Detach after which the manager is tidy named the device's session. -/
theorem detachNamesSession_of_tidy {sh : Shared W} {op : ManagerOp}
    (h : (op.perform p sh).2.manager.Tidy) : sh.DetachNamesSession op := by
  cases op with
  | detach d s =>
    intro hd t ht
    by_contra hts
    have hm : (sh.manager.detach p d s sh.bus).2.1 = sh.manager.forget d s :=
      (DeviceManager.detach_of_mem p s sh.bus hd).2
    have hkept : (sh.manager.forget d s).sessionToDevice.lookup t = some d := by
      rw [DeviceManager.forget_session, if_neg hts, ht]
    have hmem : d ∈ (sh.manager.detach p d s sh.bus).2.1.attachments :=
      h.sound t d (by rw [← hkept, ← hm]; rfl)
    rw [hm, DeviceManager.forget_mem] at hmem
    exact hmem.1 rfl
  | _ => trivial

/-- Session 1 outlives its attachment, and session 2 is made for the same
device. -/
def detachedWithOther : List ManagerOp :=
  [.attach ⟨1, 2⟩ ⟨"10.0.0.1", 4000⟩, .detach ⟨1, 2⟩ 7, .attach ⟨1, 2⟩ ⟨"10.0.0.1", 4000⟩]

/-- Of the sessions 1 and 2 the cleanup leaves the one that is listed
last. -/
theorem stale_session_survives_cleanup :
    ∃ sh, Run (Shared.Steps twoDeviceHost) (.fresh 0) detachedWithOther sh ∧
      (sh.manager.detachAllForSessions twoDeviceHost [1, 2] sh.bus).1.sessionToDevice.keys = {2} ∧
      (sh.manager.detachAllForSessions twoDeviceHost [2, 1] sh.bus).1.sessionToDevice.keys = {1} ∧
      ¬ sh.manager.CleansUp twoDeviceHost [1, 2] := by
  have hplay : (play (Shared.step twoDeviceHost) (.fresh 0) detachedWithOther).map
      (fun sh =>
        ((sh.manager.detachAllForSessions twoDeviceHost [1, 2] sh.bus).1.sessionToDevice.keys,
          (sh.manager.detachAllForSessions twoDeviceHost [2, 1] sh.bus).1.sessionToDevice.keys)) =
      some ({2}, {1}) := by
    decide +kernel
  obtain ⟨sh, hrun, hkeys⟩ := Option.map_eq_some_iff.mp hplay
  obtain ⟨h12, h21⟩ := Prod.mk.inj hkeys
  refine ⟨sh, play_iff_run.mp hrun, h12, h21, ?_⟩
  intro h
  refine h.gone sh.bus 2 (by simp) (Finmap.mem_keys.mp ?_)
  rw [h12]
  exact Finset.mem_singleton_self 2

/-- **Cleanup is complete and independent of order** in every state of a
run exactly when each Detach of the run that finds its device attached is
asked for with the session of the device. -/
theorem cleanup_complete_iff (world : W) (es : List ManagerOp) :
    StatesAlong (Shared.Steps p) (fun sh => ∀ keys, sh.manager.CleansUp p keys) (.fresh world) es ↔
      StepsAlong (Shared.Steps p) Shared.DetachNamesSession (.fresh world) es := by
  have htidy : ∀ sh : Shared W, sh.manager.Tidy ↔ ∀ keys, sh.manager.CleansUp p keys := by
    intro sh
    rw [DeviceManager.tidy_iff]
    exact forall_congr' fun keys => (DeviceManager.cleansUp_iff p sh.manager keys sh.bus).symm
  constructor
  · intro h
    have hstates := h.mono fun sh hsh => (htidy sh).mpr hsh
    refine stepsAlong_of_statesAlong ?_ hstates
    intro sh op sh' _ hstep hsh'
    rw [hstep.eq] at hsh'
    exact detachNamesSession_of_tidy p hsh'
  · intro h
    have hstates := statesAlong_of_stepsAlong (I := fun sh : Shared W => sh.manager.Tidy)
      (fun sh op sh' hsh hop hstep => by rw [hstep.eq]; exact tidy_step p hsh hop)
      DeviceManager.tidy_new h
    exact hstates.mono fun sh hsh => (htidy sh).mp hsh

end WolfUsb
