/-
WolfUsb.Lib.Channel — one direction of a stream between two parties.

A channel remembers what its reader has taken and holds what is on its
way; `written` is both. A reader takes any number of symbols off the
front, so every segmentation is a run.
-/
import Mathlib.Data.List.Basic

namespace WolfUsb.Lib

structure Channel (β : Type) where
  taken : List β := []
  pending : List β := []

namespace Channel

variable {β : Type} (c : Channel β)

/-- Everything that was ever put in. -/
def written : List β := c.taken ++ c.pending

def write (xs : List β) : Channel β := { c with pending := c.pending ++ xs }

/-- The reader takes the first `n` symbols. -/
def read (n : Nat) : Channel β := ⟨c.taken ++ c.pending.take n, c.pending.drop n⟩

@[simp] theorem taken_write (xs : List β) : (c.write xs).taken = c.taken := rfl

@[simp] theorem written_write (xs : List β) : (c.write xs).written = c.written ++ xs :=
  (List.append_assoc _ _ _).symm

@[simp] theorem pending_write (xs : List β) : (c.write xs).pending = c.pending ++ xs := rfl

@[simp] theorem pending_read (n : Nat) : (c.read n).pending = c.pending.drop n := rfl

@[simp] theorem taken_read (n : Nat) : (c.read n).taken = c.taken ++ c.pending.take n := rfl

@[simp] theorem written_read (n : Nat) : (c.read n).written = c.written := by
  show (c.taken ++ c.pending.take n) ++ c.pending.drop n = _
  rw [List.append_assoc, List.take_append_drop]
  rfl

end Channel

end WolfUsb.Lib
