/-
WolfUsb.Lib.Finmaps — lookups after an update of a finite map whose value
type does not depend on the key, as one equation each, and what is left of
a partial function that loses a key.
-/
import Mathlib.Data.Finmap
import Mathlib.Logic.Function.Basic

namespace WolfUsb.Lib

variable {κ ν : Type*} [DecidableEq κ]

theorem lookup_insert_eq (s : Finmap (fun _ : κ => ν)) (a x : κ) (b : ν) :
    (s.insert a b).lookup x = if x = a then some b else s.lookup x := by
  by_cases h : x = a
  · rw [if_pos h, h, Finmap.lookup_insert]
  · rw [if_neg h, Finmap.lookup_insert_of_ne s h]

theorem lookup_erase_eq (s : Finmap (fun _ : κ => ν)) (a x : κ) :
    (s.erase a).lookup x = if x = a then none else s.lookup x := by
  by_cases h : x = a
  · rw [if_pos h, h, Finmap.lookup_erase]
  · rw [if_neg h, Finmap.lookup_erase_ne h]

/-- The lookup function of an insertion. -/
theorem lookup_insert_fun (s : Finmap (fun _ : κ => ν)) (a : κ) (b : ν) :
    (fun x => (s.insert a b).lookup x) = Function.update (fun x => s.lookup x) a (some b) := by
  funext x
  rw [lookup_insert_eq, Function.update_apply]

/-- The lookup function of a removal. -/
theorem lookup_erase_fun (s : Finmap (fun _ : κ => ν)) (a : κ) :
    (fun x => (s.erase a).lookup x) = Function.update (fun x => s.lookup x) a none := by
  funext x
  rw [lookup_erase_eq, Function.update_apply]

theorem lookup_of_erase {s : Finmap (fun _ : κ => ν)} {a x : κ} {b : ν}
    (h : (s.erase a).lookup x = some b) : s.lookup x = some b := by
  rw [lookup_erase_eq] at h
  split at h
  · cases h
  · exact h

theorem update_none_eq_some {f : κ → Option ν} {a x : κ} {b : ν} :
    Function.update f a none x = some b ↔ x ≠ a ∧ f x = some b := by
  by_cases h : x = a
  · simp [h]
  · simp [h]

end WolfUsb.Lib
