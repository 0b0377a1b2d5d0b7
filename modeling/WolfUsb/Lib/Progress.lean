/-
WolfUsb.Lib.Progress — what a labelled transition system reaches whatever
happens.

`Inevitable step helpful goal s` says that every way to go on from `s`
leads to `goal`: it holds now, or there is a step, one of those that
count as helpful among them, and after every step it is inevitable. A
system of which this is true neither stops before the goal, also when the
unhelpful events stay away, nor goes on for ever without reaching it.

* `inevitable_of_rank` is the rule: outside the goal every step lowers a
  rank, and a helpful step is there.
* `Inevitable.no_infinite`: no infinite sequence of steps avoids it.
* `Work` is the rank of parties on a stream: the operations they have left
  to do, before the symbols they have left to send, before the symbols
  that are on their way.
-/
import Mathlib.Data.Prod.Lex
import Mathlib.Order.WellFounded
import WolfUsb.Lib.Runs

namespace WolfUsb.Lib

variable {σ ε : Type*}

/-- Every way to go on leads to the goal, and the helpful steps alone are
enough to go on. -/
inductive Inevitable (step : σ → ε → σ → Prop) (helpful : ε → Prop) (goal : σ → Prop) : σ → Prop
  | now {s : σ} : goal s → Inevitable step helpful goal s
  | later {s : σ} : (∃ e s', helpful e ∧ step s e s') →
      (∀ e s', step s e s' → Inevitable step helpful goal s') → Inevitable step helpful goal s

variable {step : σ → ε → σ → Prop} {helpful : ε → Prop} {goal : σ → Prop}

/-! ## The rank rule -/

/-- **A rank that every step lowers leads to the goal.** The states in `I`
that are not in the goal have a helpful step, and each of their steps
reaches the goal or leads to a state in `I` of a lower rank. -/
theorem inevitable_of_rank {α : Type*} [LT α] [WellFoundedLT α] {I : σ → Prop} (rank : σ → α)
    (hfree : ∀ s, I s → goal s ∨ ∃ e s', helpful e ∧ step s e s')
    (hlower : ∀ s e s', I s → ¬ goal s → step s e s' → goal s' ∨ I s' ∧ rank s' < rank s) {s : σ}
    (hI : I s) : Inevitable step helpful goal s := by
  -- induction on the rank, which is well-founded
  induction hr : rank s using WellFoundedLT.induction generalizing s with
  | _ r ih =>
      by_cases hgoal : goal s
      · exact .now hgoal
      · refine .later ((hfree s hI).resolve_left hgoal) fun e s' hs => ?_
        rcases hlower s e s' hI hgoal hs with hgoal' | ⟨hI', hlt⟩
        · exact .now hgoal'
        · exact ih (rank s') (hr ▸ hlt) hI' rfl

/-! ## What is inevitable happens -/

/-- Steps without end come to the goal. -/
theorem Inevitable.no_infinite {states : Nat → σ} {events : Nat → ε}
    (hsteps : ∀ n, step (states n) (events n) (states (n + 1))) {n : Nat}
    (h : Inevitable step helpful goal (states n)) : ∃ k, n ≤ k ∧ goal (states k) := by
  generalize hs : states n = s at h
  induction h generalizing n with
  | now hgoal => exact ⟨n, Nat.le_refl n, hs ▸ hgoal⟩
  | later _ _ ih =>
      obtain ⟨k, hk, hgoal⟩ := ih (events n) (states (n + 1)) (hs ▸ hsteps n) rfl
      exact ⟨k, Nat.le_of_succ_le hk, hgoal⟩

/-! ## The rank of parties on a stream -/

/-- Operations, symbols unsent and symbols on their way, in this order. -/
abbrev Work : Type := Nat ×ₗ Nat ×ₗ Nat

def Work.of (operations unsent pending : Nat) : Work := toLex (operations, toLex (unsent, pending))

theorem Work.of_lt {o o' u u' p p' : Nat} :
    Work.of o u p < Work.of o' u' p' ↔ o < o' ∨ o = o' ∧ (u < u' ∨ u = u' ∧ p < p') := by
  simp only [Work.of, Prod.Lex.toLex_lt_toLex]

end WolfUsb.Lib
