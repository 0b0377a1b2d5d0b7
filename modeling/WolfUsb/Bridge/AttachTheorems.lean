/-
WolfUsb.Bridge.AttachTheorems — which port `attach` picks.

`attach` takes the first free row of the first controller
(`attach_cases`). It looks at the hub type of no row, so the port fits the
speed exactly if the rows that fit come first
(`port_matches_speed_iff`); and at no other controller, so a free port of
another one is missed exactly if the first has none
(`all_controllers_used_iff`).
-/
import WolfUsb.Bridge.Attach
import WolfUsb.Bridge.VhciTheorems

namespace WolfUsb

open Lib

namespace Vhci

/-! ## The first free row -/

theorem exists_firstFree {rows : List StatusRow} {r : StatusRow} (hr : r ∈ rows)
    (hfree : r.status = 4) : ∃ q, FirstFree rows q := by
  cases hfind : rows.find? (·.status = 4) with
  | some q => exact ⟨q, find?_free_iff.mp hfind⟩
  | none =>
    rw [List.find?_eq_none] at hfind
    exact absurd (decide_eq_true hfree) (hfind r hr)

/-- The first free row is not behind another free row. -/
theorem FirstFree.eq_or_mem {rows before after : List StatusRow} {r q : StatusRow}
    (hq : FirstFree rows q) (hrows : rows = before ++ r :: after) (hfree : r.status = 4) :
    q = r ∨ q ∈ before := by
  obtain ⟨hstatus, front, back, hsplit, hfront⟩ := hq
  rw [hrows, List.append_eq_append_iff] at hsplit
  rcases hsplit with ⟨more, rfl, hback⟩ | ⟨more, rfl, hback⟩
  · -- the front reaches as far as `r`, which is free
    cases more with
    | nil => exact Or.inl (List.cons.inj hback).1.symm
    | cons s more =>
      obtain rfl := (List.cons.inj hback).1
      exact absurd hfree (hfront r (by simp))
  · cases more with
    | nil => exact Or.inl (List.cons.inj hback).1
    | cons s more =>
      obtain rfl := (List.cons.inj hback).1
      exact Or.inr (by simp)

/-! ## Attach -/

theorem findVhciPath_of_present {v : View} (h : v.present 0 = true) : findVhciPath v = .ok 0 := by
  have hrange : List.range 32 = 0 :: (List.range 31).map Nat.succ := List.range_succ_eq_map
  rw [findVhciPath, hrange, List.find?_cons_of_pos h]

theorem ensureModuleLoaded_of_present {v : View} (h : v.present 0 = true) (modprobe : Modprobe) :
    ensureModuleLoaded v modprobe = .ok v := if_pos h

/-- `attach` goes on only where `vhci_hcd.0` is. -/
theorem ensureModuleLoaded_ok {v loaded : View} {modprobe : Modprobe}
    (h : ensureModuleLoaded v modprobe = .ok loaded) : loaded.present 0 = true := by
  unfold ensureModuleLoaded at h
  split at h
  · rename_i hpresent
    obtain rfl := Except.ok.inj h
    exact hpresent
  · split at h
    · cases h
    · split at h
      · rename_i hpresent
        obtain rfl := Except.ok.inj h
        exact hpresent
      · cases h

theorem Controllers.findVhciPath_view (c : Controllers) : findVhciPath c.view = .ok 0 :=
  findVhciPath_of_present c.first

def noFreePort : IoError := .notFound "No free vhci_hcd ports available"

section

variable {t : StatusTable} {layout : StatusLayout} {v loaded : View} {modprobe : Modprobe}
  (hload : ensureModuleLoaded v modprobe = .ok loaded)
  (hstatus : loaded.status 0 = .ok (statusFile layout t.rows)) (sockfd : Int32) (devid : UInt32)
  (speed : Speed) (written : Except IoError Unit)
include hload hstatus

/-- **What `attach` does**: it writes the port of the first free row of the
first controller, or finds none. -/
theorem attach_cases :
    (∃ r, FirstFree t.rows r ∧ attach v modprobe sockfd devid speed written
      = (some (0, ⟨r.port, sockfd, devid, speed⟩), written.map fun () => r.port)) ∨
    (∀ r ∈ t.rows, r.status ≠ 4) ∧
      attach v modprobe sockfd devid speed written = (none, .error noFreePort) := by
  have hchoose : choosePort loaded
      = (findFreePort (statusFile layout t.rows)).map fun port => (0, port) :=
    choosePort_eq (findVhciPath_of_present (ensureModuleLoaded_ok hload)) hstatus
  rw [findFreePort_statusFile] at hchoose
  cases hfind : t.rows.find? (·.status = 4) with
  | some r =>
    rw [hfind] at hchoose
    refine Or.inl ⟨r, find?_free_iff.mp hfind, ?_⟩
    simp only [attach, hload, hchoose, Except.map]
  | none =>
    rw [hfind] at hchoose
    refine Or.inr ⟨by simpa using hfind, ?_⟩
    simp only [attach, hload, hchoose, Except.map, noFreePort]

end

/-! ## The speed -/

/-- The port written is a free one of the hub type for the speed; and if
none is reported to be free, none of that type is. -/
structure PortMatches (t : StatusTable) (speed : Speed)
    (out : Option (Nat × AttachRequest) × Except IoError UInt32) : Prop where
  port : ∀ i req, out.1 = some (i, req) →
    ∃ r ∈ t.rows, r.port = req.port ∧ r.status = 4 ∧ r.hub = speed.hub
  none_left : out = (none, .error noFreePort) → ∀ r ∈ t.rows, r.status = 4 → r.hub ≠ speed.hub

/-- Every free row of the other hub type has one that fits before it. -/
def FittingFirst (t : StatusTable) (speed : Speed) : Prop :=
  ∀ before r after, t.rows = before ++ r :: after → r.status = 4 → r.hub ≠ speed.hub →
    ∃ q ∈ before, q.status = 4 ∧ q.hub = speed.hub

/-- The first free row fits. -/
theorem fittingFirst_iff {t : StatusTable} {speed : Speed} :
    FittingFirst t speed ↔ ∀ r, FirstFree t.rows r → r.hub = speed.hub := by
  constructor
  · rintro hfit r ⟨hfree, before, after, hrows, hbefore⟩
    by_contra hhub
    obtain ⟨q, hq, hqfree, -⟩ := hfit before r after hrows hfree hhub
    exact hbefore q hq hqfree
  · intro hfirst before r after hrows hfree hhub
    have hr : r ∈ t.rows := by simp [hrows]
    obtain ⟨q, hq⟩ := exists_firstFree hr hfree
    rcases hq.eq_or_mem hrows hfree with rfl | hmem
    · exact absurd (hfirst q hq) hhub
    · exact ⟨q, hmem, hq.1, hfirst q hq⟩

/-- **The port fits the speed** exactly if every free row of the other hub
type has a free row that fits before it. -/
theorem port_matches_speed_iff (t : StatusTable) (layout : StatusLayout) (v loaded : View)
    (modprobe : Modprobe) (hload : ensureModuleLoaded v modprobe = .ok loaded)
    (hstatus : loaded.status 0 = .ok (statusFile layout t.rows)) (sockfd : Int32)
    (devid : UInt32) (speed : Speed) (written : Except IoError Unit) :
    PortMatches t speed (attach v modprobe sockfd devid speed written) ↔
      FittingFirst t speed := by
  rw [fittingFirst_iff]
  rcases attach_cases hload hstatus sockfd devid speed written with
    ⟨r, hfirst, hout⟩ | ⟨hnone, hout⟩
  · rw [hout]
    constructor
    · intro h q hq
      obtain ⟨q', hmem, hport, -, hhub⟩ := h.port 0 _ rfl
      -- the port is listed once
      have hrow := List.inj_on_of_nodup_map t.distinct hmem hfirst.mem hport
      have hsame := (find?_free_iff.mpr hq).symm.trans (find?_free_iff.mpr hfirst)
      rw [Option.some.inj hsame, ← hrow, hhub]
    · intro h
      refine ⟨fun i req heq => ?_, fun heq => ?_⟩
      · cases heq
        exact ⟨r, hfirst.mem, rfl, hfirst.1, h r hfirst⟩
      · cases heq
  · rw [hout]
    refine iff_of_true ⟨fun i req heq => ?_, fun _ r hr hfree => ?_⟩ fun r hfirst => ?_
    · cases heq
    · exact absurd hfree (hnone r hr)
    · exact absurd hfirst.1 (hnone r hfirst.mem)

/-- A controller with a free HS port and a free SS port. -/
def twoPorts : Controllers where
  present i := i = 0
  first := rfl
  table _ := ⟨[⟨.hs, 0, 4⟩, ⟨.ss, 8, 4⟩], by decide⟩

theorem port_matches_speed_iff_high :
    PortMatches (twoPorts.table 0) .high
      (attach twoPorts.view ⟨.ok true, twoPorts.view⟩ 3 0x10002 .high (.ok ())) := by
  refine (port_matches_speed_iff (twoPorts.table 0) {} _ _ _ (ensureModuleLoaded_of_present rfl _)
    rfl 3 0x10002 .high (.ok ())).mpr (fittingFirst_iff.mpr fun r hfirst => ?_)
  have hrow : (twoPorts.table 0).rows.find? (·.status = 4) = some ⟨.hs, 0, 4⟩ := rfl
  have hsame := hrow.symm.trans (find?_free_iff.mpr hfirst)
  rw [← Option.some.inj hsame]
  rfl

/-- A SuperSpeed device is put on the HS port. -/
theorem super_speed_on_high_speed_port :
    (attach twoPorts.view ⟨.ok true, twoPorts.view⟩ 3 0x10002 .super (.ok ())).1
        = some (0, ⟨0, 3, 0x10002, .super⟩) ∧
      ¬ PortMatches (twoPorts.table 0) .super
        (attach twoPorts.view ⟨.ok true, twoPorts.view⟩ 3 0x10002 .super (.ok ())) := by
  have hout : (attach twoPorts.view ⟨.ok true, twoPorts.view⟩ 3 0x10002 .super (.ok ())).1
      = some (0, ⟨0, 3, 0x10002, .super⟩) := by
    decide +kernel
  refine ⟨hout, fun h => ?_⟩
  obtain ⟨r, hr, hport, -, hhub⟩ := h.port 0 _ hout
  simp only [twoPorts, List.mem_cons, List.not_mem_nil, or_false] at hr
  rcases hr with rfl | rfl
  · exact absurd hhub (by decide)
  · exact absurd hport (by decide)

/-! ## The other controllers -/

/-- A device is on the port of the controller. -/
def Controllers.InUse (c : Controllers) (i : Nat) (port : UInt32) : Prop :=
  ∃ r ∈ (c.table i).rows, r.port = port ∧ r.status ≠ 4

theorem Controllers.portInUse_view (c : Controllers) (port : UInt32) :
    portInUse c.view port = true ↔ c.InUse 0 port := by
  rw [portInUse_eq c.findVhciPath_view rfl, portStatusFromContent_statusFile]
  constructor
  · intro huse
    simp only [Option.any_map, Option.any_eq_true] at huse
    obtain ⟨r, hfind, hstatus⟩ := huse
    exact ⟨r, List.mem_of_find?_eq_some hfind, by simpa using List.find?_some hfind,
      by simpa using hstatus⟩
  · rintro ⟨r, hr, rfl, hstatus⟩
    rw [(c.table 0).find?_port hr]
    simpa using hstatus

/-- `attach` finds no port only if no controller has one; and `detach` and
`port_in_use` later act on the controller it has written to. -/
structure AllUsed (c : Controllers) : Prop where
  exhausted : ∀ modprobe sockfd devid speed written,
    attach c.view modprobe sockfd devid speed written = (none, .error noFreePort) →
      ∀ i < 32, c.present i = true → ∀ r ∈ (c.table i).rows, r.status ≠ 4
  same : ∀ modprobe sockfd devid speed written i req port,
    attach c.view modprobe sockfd devid speed written = (some (i, req), .ok port) →
      req.port = port ∧ ∀ later : Controllers,
        (∀ written', (detach later.view port written').1 = some (i, port)) ∧
          (portInUse later.view port = true ↔ later.InUse i port)

/-- What is attached is detached and watched where it is. -/
theorem detach_same {c : Controllers} {modprobe : Modprobe} {sockfd : Int32} {devid : UInt32}
    {speed : Speed} {written : Except IoError Unit} {i : Nat} {req : AttachRequest} {port : UInt32}
    (h : attach c.view modprobe sockfd devid speed written = (some (i, req), .ok port)) :
    req.port = port ∧ ∀ later : Controllers,
      (∀ written', (detach later.view port written').1 = some (i, port)) ∧
        (portInUse later.view port = true ↔ later.InUse i port) := by
  have hload := ensureModuleLoaded_of_present (v := c.view) c.first modprobe
  rcases attach_cases hload rfl sockfd devid speed written with ⟨r, -, hout⟩ | ⟨-, hout⟩
  · rw [hout] at h
    cases written with
    | error e => cases h
    | ok _ =>
      cases h
      refine ⟨rfl, fun later => ⟨fun written' => ?_, later.portInUse_view r.port⟩⟩
      rw [detach, later.findVhciPath_view]
  · rw [hout] at h
    cases h

/-- **All controllers are used** exactly if the first has a free port, or
no controller has one. -/
theorem all_controllers_used_iff (c : Controllers) :
    AllUsed c ↔ (∃ r ∈ (c.table 0).rows, r.status = 4) ∨
      ∀ i < 32, c.present i = true → ∀ r ∈ (c.table i).rows, r.status ≠ 4 := by
  have hload (modprobe : Modprobe) : ensureModuleLoaded c.view modprobe = .ok c.view :=
    ensureModuleLoaded_of_present c.first modprobe
  constructor
  · intro h
    rcases attach_cases (hload ⟨.ok true, c.view⟩) rfl 0 0 .high (.ok ()) with
      ⟨r, hfirst, -⟩ | ⟨-, hout⟩
    · exact Or.inl ⟨r, hfirst.mem, hfirst.1⟩
    · exact Or.inr (h.exhausted _ _ _ _ _ hout)
  · intro h
    refine ⟨fun modprobe sockfd devid speed written hout => ?_, fun _ _ _ _ _ _ _ _ => detach_same⟩
    rcases h with ⟨r, hr, hfree⟩ | hnone
    · -- the first controller has a free port, so a port is written
      rcases attach_cases (hload modprobe) rfl sockfd devid speed written with
        ⟨q, -, hport⟩ | ⟨hnone, -⟩
      · rw [hport] at hout
        cases hout
      · exact absurd hfree (hnone r hr)
    · exact hnone

/-- Two controllers, the first of them full. -/
def fullFirst : Controllers where
  present i := i < 2
  first := rfl
  table i := if i = 0 then ⟨[⟨.hs, 0, 6⟩], by decide⟩ else ⟨[⟨.hs, 0, 4⟩], by decide⟩

/-- The free port of the second is not looked for. -/
theorem second_controller_ignored :
    attach fullFirst.view ⟨.ok true, fullFirst.view⟩ 3 0x10002 .high (.ok ())
        = (none, .error noFreePort) ∧
      ¬ AllUsed fullFirst := by
  have hout : attach fullFirst.view ⟨.ok true, fullFirst.view⟩ 3 0x10002 .high (.ok ())
      = (none, .error noFreePort) := by
    decide +kernel
  refine ⟨hout, fun h => ?_⟩
  exact h.exhausted _ _ _ _ _ hout 1 (by decide) rfl ⟨.hs, 0, 4⟩ (by simp [fullFirst]) rfl

end Vhci

/-! ## The mount command -/

namespace Mount

open Vhci

/-- SS ports are for the speeds 5 and 6. -/
theorem hub_speedOf (speed : UInt8) :
    (speedOf speed).hub = if speed = 5 ∨ speed = 6 then .ss else .hs := by
  unfold speedOf
  split <;> first | rfl | simp_all [Speed.hub]

/-- A device that is mounted gets a port for the speed in the reply, where
such ports come first. -/
theorem attachReply_port {t : StatusTable} {layout : StatusLayout} {v loaded : View}
    {modprobe : Modprobe} (hload : ensureModuleLoaded v modprobe = .ok loaded)
    (hstatus : loaded.status 0 = .ok (statusFile layout t.rows)) {reply : ImportReply} {fd : Int32}
    {written : Except IoError Unit} (hfit : FittingFirst t (speedOf reply.speed)) {i : Nat}
    {req : Vhci.AttachRequest} (h : (attachReply reply v modprobe fd written).1 = some (i, req)) :
    ∃ r ∈ t.rows, r.port = req.port ∧ r.status = 4 ∧
      r.hub = if reply.speed = 5 ∨ reply.speed = 6 then .ss else .hs := by
  rcases attach_cases hload hstatus fd reply.devid (speedOf reply.speed) written with
    ⟨r, hfirst, hout⟩ | ⟨-, hout⟩
  · simp only [attachReply, hout] at h
    cases h
    refine ⟨r, hfirst.mem, rfl, hfirst.1, ?_⟩
    rw [← hub_speedOf, fittingFirst_iff.mp hfit r hfirst]
  · simp only [attachReply, hout] at h
    cases h

end Mount

end WolfUsb
