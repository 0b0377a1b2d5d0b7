/-
WolfUsb.Client.PortLostTheorems — when `cmd_mount` takes its port for lost.

A poll reads the port as in use or not, and no matter why it reads it as
not in use (`portInUse_eq_false_iff`), two such polls in a row end the
loop and nothing else does (`port_lost_exact`). The loop is a debounce of
two readings whose counter has 8 bits (`toDebounce_portLost`).
-/
import WolfUsb.Bridge.AttachTheorems
import WolfUsb.Client.MountPort
import WolfUsb.Lib.Debounce

namespace WolfUsb

open Lib

/-! ## What a poll reads -/

namespace Vhci

/-- A port is read as not in use: there is no controller, its status file
cannot be read or says nothing of the port, or the port is free. -/
inductive ReadsFree (v : View) (port : UInt32) : Prop
  | absent (h : ∀ i < 32, v.present i = false)
  | unreadable {i : Nat} {e : IoError} (hpath : findVhciPath v = .ok i) (h : v.status i = .error e)
  | unlisted {i : Nat} {content : String} (hpath : findVhciPath v = .ok i)
      (hstatus : v.status i = .ok content) (h : portStatusFromContent content port = none)
  | free {i : Nat} {content : String} (hpath : findVhciPath v = .ok i)
      (hstatus : v.status i = .ok content) (h : portStatusFromContent content port = some 4)

theorem findVhciPath_error_iff {v : View} :
    (∃ e, findVhciPath v = .error e) ↔ ∀ i < 32, v.present i = false := by
  have hnone : (List.range 32).find? v.present = none ↔ ∀ i < 32, v.present i = false := by
    simp [List.find?_eq_none]
  rw [← hnone]
  unfold findVhciPath
  cases (List.range 32).find? v.present with
  | none => exact iff_of_true ⟨_, rfl⟩ rfl
  | some i => exact iff_of_false nofun nofun

theorem portInUse_eq_false_iff {v : View} {port : UInt32} :
    portInUse v port = false ↔ ReadsFree v port := by
  constructor
  · intro h
    cases hpath : findVhciPath v with
    | error e => exact .absent (findVhciPath_error_iff.mp ⟨e, hpath⟩)
    | ok i =>
      cases hstatus : v.status i with
      | error e => exact .unreadable hpath hstatus
      | ok content =>
        rw [portInUse_eq hpath hstatus] at h
        cases hcode : portStatusFromContent content port with
        | none => exact .unlisted hpath hstatus hcode
        | some code =>
          have hfour : code = 4 := by simpa [hcode] using h
          exact .free hpath hstatus (hfour ▸ hcode)
  · intro h
    cases h with
    | absent h =>
      obtain ⟨e, hpath⟩ := findVhciPath_error_iff.mpr h
      simp only [portInUse, hpath]
    | unreadable hpath h => simp only [portInUse, hpath, h]
    | unlisted hpath hstatus h => rw [portInUse_eq hpath hstatus, h, Option.any_none]
    | free hpath hstatus h =>
      rw [portInUse_eq hpath hstatus, h]
      rfl

/-- Where the kernel prints its tables, no device is on a port that is read
as not in use. -/
theorem Controllers.readsFree_view (c : Controllers) (port : UInt32) :
    ReadsFree c.view port ↔ ¬ c.InUse 0 port := by
  rw [← portInUse_eq_false_iff, ← c.portInUse_view, Bool.not_eq_true]

end Vhci

namespace Mount

open Vhci (ReadsFree View portInUse_eq_false_iff)

/-! ## The loop -/

/-- A process that is polled takes a turn of the loop. -/
theorem pollPort_eq {s : PortLost} (h : s.stopped = false) (inUse : Bool) :
    pollPort inUse s.consecutiveFree
      = if (s.poll inUse).stopped then none else some (s.poll inUse).consecutiveFree := by
  cases inUse with
  | true => simp [pollPort, PortLost.poll, h]
  | false => simp [pollPort, PortLost.poll, h]

/-- The loop as a debounce. -/
def PortLost.toDebounce (s : PortLost) : Debounce := ⟨s.consecutiveFree.toNat, s.stopped⟩

/-- A turn of the loop is a reading, as long as the counter is not at its
end. -/
theorem PortLost.toDebounce_poll {s : PortLost} (h : s.consecutiveFree.toNat < 255) (inUse : Bool) :
    (s.poll inUse).toDebounce = s.toDebounce.next consecutiveFreeToExit.toNat (!inUse) := by
  have hadd : (s.consecutiveFree + 1).toNat = s.consecutiveFree.toNat + 1 := by
    rw [UInt8.toNat_add]
    exact Nat.mod_eq_of_lt (by simpa using Nat.succ_lt_succ h)
  unfold PortLost.poll Debounce.next
  cases hstopped : s.stopped with
  | true => simp [toDebounce, hstopped]
  | false =>
    cases inUse with
    | true => simp [toDebounce, hstopped]
    | false => simp [toDebounce, hstopped, hadd, UInt8.le_iff_toNat_le]

theorem two_pos : 0 < consecutiveFreeToExit.toNat := by decide

/-- The signal the loop waits for. -/
def notInUse (polls : Nat → View) (port : UInt32) (i : Nat) : Bool :=
  !Vhci.portInUse (polls i) port

/-- **The loop is a debounce** of the polls that read the port as not in
use. -/
theorem toDebounce_portLost (polls : Nat → View) (port : UInt32) (n : Nat) :
    (portLost polls port n).toDebounce
      = debounce consecutiveFreeToExit.toNat (notInUse polls port) n := by
  induction n with
  | zero => rfl
  | succ n ih =>
    have hcount := (tracks_debounce two_pos (notInUse polls port) n).count_le
    rw [← ih] at hcount
    have hlt : (portLost polls port n).consecutiveFree.toNat < 255 :=
      Nat.lt_of_le_of_lt hcount (by decide)
    rw [portLost, PortLost.toDebounce_poll hlt, ih]
    rfl

/-! ## The disconnect -/

section

variable (polls : Nat → View) (port : UInt32)

/-- Polls `n - 1` and `n` both read the port as not in use. -/
def FreePair (n : Nat) : Prop :=
  0 < n ∧ ReadsFree (polls (n - 1)) port ∧ ReadsFree (polls n) port

/-- The loop comes to `break` in poll `n`. -/
def StopsIn (n : Nat) : Prop :=
  (portLost polls port n).stopped = false ∧ (portLost polls port (n + 1)).stopped = true

/-- The loop stops in the poll that ends the first pair, and without a
pair, so with single readings only, never; and its counter stays at 2 or
below. -/
structure DetectsLoss : Prop where
  stops : ∀ n, StopsIn polls port n ↔
    FreePair polls port n ∧ ∀ m < n, ¬ FreePair polls port m
  never : (∀ n, ¬ FreePair polls port n) → ∀ n, (portLost polls port n).stopped = false
  isolated : (∀ n, ReadsFree (polls n) port → ¬ ReadsFree (polls (n + 1)) port) →
    ∀ n, (portLost polls port n).stopped = false
  counter_le : ∀ n, (portLost polls port n).consecutiveFree ≤ 2

end

variable {polls : Nat → View} {port : UInt32}

/-- A pair is a run of two. -/
theorem lastOn_iff_freePair (n : Nat) :
    LastOn (notInUse polls port) consecutiveFreeToExit.toNat (n + 1) ↔ FreePair polls port n := by
  have htwo : consecutiveFreeToExit.toNat = 2 := rfl
  simp only [LastOn, FreePair, notInUse, htwo, Bool.not_eq_true', portInUse_eq_false_iff]
  constructor
  · rintro ⟨m, hm, hrun⟩
    obtain rfl : n = m + 1 := by omega
    exact ⟨Nat.succ_pos m, hrun 0 (by decide), hrun 1 (by decide)⟩
  · rintro ⟨hpos, hbefore, hnow⟩
    obtain ⟨m, rfl⟩ := Nat.exists_eq_succ_of_ne_zero (Nat.ne_of_gt hpos)
    refine ⟨m, rfl, fun i hi => ?_⟩
    rcases Nat.lt_succ_iff_lt_or_eq.mp hi with hlt | rfl
    · obtain rfl := Nat.lt_one_iff.mp hlt
      exact hbefore
    · exact hnow

/-- The runs of two among the first `n` readings are the pairs before poll
`n`. -/
theorem exists_lastOn_iff (polls : Nat → View) (port : UInt32) (n : Nat) :
    (∃ m < n + 1, LastOn (notInUse polls port) consecutiveFreeToExit.toNat m) ↔
      ∃ m < n, FreePair polls port m := by
  constructor
  · rintro ⟨m, hm, hrun⟩
    cases m with
    | zero => exact absurd (lastOn_start.mp hrun) (Nat.not_le_of_lt two_pos)
    | succ m => exact ⟨m, Nat.lt_of_succ_lt_succ hm, (lastOn_iff_freePair m).mp hrun⟩
  · rintro ⟨m, hm, hpair⟩
    exact ⟨m + 1, Nat.succ_lt_succ hm, (lastOn_iff_freePair m).mpr hpair⟩

/-- The loop has stopped before poll `n` if there was a pair before. -/
theorem stopped_iff (n : Nat) :
    (portLost polls port n).stopped = true ↔ ∃ m < n, FreePair polls port m := by
  have htracks := tracks_debounce two_pos (notInUse polls port) n
  rw [← toDebounce_portLost] at htracks
  rw [← exists_lastOn_iff]
  exact htracks.fired

theorem not_stopped {n : Nat} (h : ∀ n, ¬ FreePair polls port n) :
    (portLost polls port n).stopped = false := by
  rw [← Bool.not_eq_true, stopped_iff]
  exact fun ⟨m, _, hpair⟩ => h m hpair

/-- **The port is taken for lost in the poll that ends the first pair of
polls that read it as not in use**, whatever the polls find. -/
theorem port_lost_exact (polls : Nat → View) (port : UInt32) : DetectsLoss polls port where
  stops n := by
    have hfires := firesAt_iff two_pos (notInUse polls port) n
    rw [← toDebounce_portLost, ← toDebounce_portLost, lastOn_iff_freePair] at hfires
    refine hfires.trans (and_congr_right fun _ => ?_)
    have hsome := not_congr (exists_lastOn_iff polls port n)
    simpa only [not_exists, not_and] using hsome
  never h n := not_stopped h
  isolated h n := by
    refine not_stopped fun m ⟨hpos, hbefore, hnow⟩ => ?_
    obtain ⟨m, rfl⟩ := Nat.exists_eq_succ_of_ne_zero (Nat.ne_of_gt hpos)
    exact h m hbefore hnow
  counter_le n := by
    have hcount := (tracks_debounce two_pos (notInUse polls port) n).count_le
    rw [← toDebounce_portLost] at hcount
    exact UInt8.le_iff_toNat_le.mpr hcount

end Mount

end WolfUsb
