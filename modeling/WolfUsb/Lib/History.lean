/-
WolfUsb.Lib.History — histories, newest fact first, in which every fact is
justified by the facts older than it.

`J older f` says what of the older facts justifies `f`. A history grows at
the front, so a system that adds only justified facts keeps its history
founded, and of a founded history one may ask for the justification of any
of its facts at the place where it stands.
-/
import Mathlib.Data.List.Basic

namespace WolfUsb.Lib

variable {φ : Type*} {J : List φ → φ → Prop}

/-- Every fact is justified by the older ones. -/
def Founded (J : List φ → φ → Prop) : List φ → Prop
  | [] => True
  | f :: older => J older f ∧ Founded J older

/-- An older part of a founded history is founded. -/
theorem Founded.older {newer older : List φ} (h : Founded J (newer ++ older)) :
    Founded J older := by
  induction newer with
  | nil => exact h
  | cons g newer ih => exact ih h.2

/-- A fact of the history, with what was older. -/
theorem Founded.split {log : List φ} {f : φ} (h : Founded J log) (hf : f ∈ log) :
    ∃ newer older, log = newer ++ f :: older ∧ J older f := by
  obtain ⟨newer, older, rfl⟩ := List.append_of_mem hf
  exact ⟨newer, older, rfl, h.older.1⟩

end WolfUsb.Lib
