/-
WolfUsb.Lib.Debounce — a loop that waits until a signal has been on a
number of times in a row.

The loop counts the readings in which the signal is on, starts again at
each one in which it is off, and fires when the count has reached `k`.
`Tracks` ties its state to the readings behind it: as long as it has not
fired, the count is the length of the last run of readings that are on.

* `Debounce.Tracks.next`, `tracks_debounce`: a reading, and any number of
  them.
* `firesAt_iff`: so it fires at the first reading that ends a run of `k`.
-/
import Mathlib.Data.List.Basic

namespace WolfUsb.Lib

/-! ## The last readings -/

/-- The last `k` of the first `n` readings are on. -/
def LastOn (on : Nat → Bool) (k n : Nat) : Prop :=
  ∃ m, n = m + k ∧ ∀ i < k, on (m + i) = true

section

variable {on : Nat → Bool}

theorem lastOn_zero (n : Nat) : LastOn on 0 n := ⟨n, rfl, nofun⟩

/-- There are no readings to be on. -/
theorem lastOn_start {k : Nat} : LastOn on k 0 ↔ k ≤ 0 := by
  constructor
  · rintro ⟨m, hm, -⟩
    omega
  · intro hk
    obtain rfl := Nat.le_zero.mp hk
    exact lastOn_zero 0

/-- A run goes on. -/
theorem lastOn_succ {k n : Nat} (hon : on n = true) :
    LastOn on (k + 1) (n + 1) ↔ LastOn on k n := by
  constructor
  · rintro ⟨m, hm, hrun⟩
    exact ⟨m, by omega, fun i hi => hrun i (by omega)⟩
  · rintro ⟨m, rfl, hrun⟩
    refine ⟨m, rfl, fun i hi => ?_⟩
    rcases Nat.lt_succ_iff_lt_or_eq.mp hi with hlt | rfl
    · exact hrun i hlt
    · exact hon

/-- A run is over. -/
theorem not_lastOn_succ {k n : Nat} (hoff : on n = false) : ¬ LastOn on (k + 1) (n + 1) := by
  rintro ⟨m, hm, hrun⟩
  have hlast := hrun k (Nat.lt_succ_self k)
  obtain rfl : n = m + k := by omega
  rw [hoff] at hlast
  cases hlast

end

/-! ## The loop -/

structure Debounce where
  count : Nat := 0
  fired : Bool := false

/-- One reading. -/
def Debounce.next (k : Nat) (s : Debounce) (on : Bool) : Debounce :=
  if s.fired then s
  else if on then { count := s.count + 1, fired := k ≤ s.count + 1 }
  else { s with count := 0 }

/-- The loop after the first `n` readings. -/
def debounce (k : Nat) (on : Nat → Bool) : Nat → Debounce
  | 0 => {}
  | n + 1 => (debounce k on n).next k (on n)

/-- What the state says about the readings so far. -/
structure Debounce.Tracks (k : Nat) (on : Nat → Bool) (n : Nat) (s : Debounce) : Prop where
  running : s.fired = false → s.count < k ∧ ∀ j, LastOn on j n ↔ j ≤ s.count
  fired : s.fired = true ↔ ∃ m < n + 1, LastOn on k m
  count_le : s.count ≤ k

section

variable {k n : Nat} {on : Nat → Bool} {s : Debounce}

/-- **A reading keeps the books.** -/
theorem Debounce.Tracks.next (hk : 0 < k) (h : s.Tracks k on n) :
    (s.next k (on n)).Tracks k on (n + 1) := by
  unfold Debounce.next
  cases hfired : s.fired with
  | true =>
    obtain ⟨m, hm, hrun⟩ := h.fired.mp hfired
    simp only [if_true]
    refine ⟨fun hnot => ?_, iff_of_true hfired ⟨m, Nat.lt_succ_of_lt hm, hrun⟩, h.count_le⟩
    rw [hfired] at hnot
    cases hnot
  | false =>
    obtain ⟨hlt, hcount⟩ := h.running hfired
    have hbefore : ¬ ∃ m < n + 1, LastOn on k m := by
      rw [← h.fired, hfired]
      nofun
    cases hon : on n with
    | true =>
      have hlonger : ∀ j, LastOn on j (n + 1) ↔ j ≤ s.count + 1 := by
        intro j
        cases j with
        | zero => exact iff_of_true (lastOn_zero _) (Nat.zero_le _)
        | succ j => rw [lastOn_succ hon, hcount, Nat.succ_le_succ_iff]
      simp only [Bool.false_eq_true, if_false, if_true]
      refine ⟨fun hnot => ⟨?_, hlonger⟩, ?_, hlt⟩
      · simpa using hnot
      · rw [Nat.exists_lt_succ_right, hlonger, or_iff_right hbefore]
        exact decide_eq_true_iff
    | false =>
      simp only [Bool.false_eq_true, if_false]
      refine ⟨fun _ => ⟨hk, fun j => ?_⟩, ?_, Nat.zero_le _⟩
      · cases j with
        | zero => exact iff_of_true (lastOn_zero _) (Nat.le_refl _)
        | succ j => exact iff_of_false (not_lastOn_succ hon) (Nat.not_succ_le_zero j)
      · obtain ⟨j, rfl⟩ := Nat.exists_eq_succ_of_ne_zero (Nat.ne_of_gt hk)
        rw [Nat.exists_lt_succ_right, or_iff_left (not_lastOn_succ hon)]
        exact iff_of_false nofun hbefore

/-- **So do all of them.** -/
theorem tracks_debounce (hk : 0 < k) (on : Nat → Bool) (n : Nat) :
    (debounce k on n).Tracks k on n := by
  induction n with
  | zero =>
    refine ⟨fun _ => ⟨hk, fun _ => lastOn_start⟩, iff_of_false nofun ?_, Nat.zero_le k⟩
    rintro ⟨m, hm, hrun⟩
    obtain rfl := Nat.lt_one_iff.mp hm
    exact absurd (lastOn_start.mp hrun) (Nat.not_le_of_lt hk)
  | succ n ih => exact ih.next hk

/-- **The loop fires at the first reading that ends a run of `k`.** -/
theorem firesAt_iff (hk : 0 < k) (on : Nat → Bool) (n : Nat) :
    (debounce k on n).fired = false ∧ (debounce k on (n + 1)).fired = true ↔
      LastOn on k (n + 1) ∧ ∀ m < n + 1, ¬ LastOn on k m := by
  have hbefore := (tracks_debounce hk on n).fired
  have hafter := (tracks_debounce hk on (n + 1)).fired
  rw [Nat.exists_lt_succ_right] at hafter
  rw [← Bool.not_eq_true, hbefore, hafter]
  constructor
  · rintro ⟨hno, hrun | hrun⟩
    · exact absurd hrun hno
    · exact ⟨hrun, fun m hm hearlier => hno ⟨m, hm, hearlier⟩⟩
  · rintro ⟨hrun, hno⟩
    exact ⟨fun ⟨m, hm, hearlier⟩ => hno m hm hearlier, Or.inr hrun⟩

end

end WolfUsb.Lib
