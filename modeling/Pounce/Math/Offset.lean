/-
# Offsets of a cut

A stream is cut into pieces of given sizes. `offset sizes count` is where the
piece after the first `count` begins. Two parties that cut the same stream in
their own way, one into messages and one into the reads they arrive in, are
compared through the offsets of their cuts.
-/

import Mathlib.Algebra.BigOperators.Group.List.Basic
import Mathlib.Algebra.GroupWithZero.Nat
import Mathlib.Algebra.Order.BigOperators.Group.List
import Mathlib.Data.List.TakeDrop

namespace Pounce.Math

/-- Where the piece after the first `count` begins. -/
def offset (sizes : List ℕ) (count : ℕ) : ℕ := (sizes.take count).sum

@[simp]
theorem offset_zero (sizes : List ℕ) : offset sizes 0 = 0 := rfl

@[simp]
theorem offset_cons_succ (size : ℕ) (sizes : List ℕ) (count : ℕ) :
    offset (size :: sizes) (count + 1) = size + offset sizes count := by
  simp [offset]

/-- Offsets past a piece are offsets of the rest of the cut. -/
theorem offset_add (sizes : List ℕ) (first second : ℕ) :
    offset sizes (first + second) = offset sizes first + offset (sizes.drop first) second := by
  rw [offset, List.take_add, List.sum_append, offset, offset]

/-- Offsets grow along the cut. -/
theorem offset_mono (sizes : List ℕ) {first second : ℕ} (hle : first ≤ second) :
    offset sizes first ≤ offset sizes second := by
  obtain ⟨more, rfl⟩ := Nat.exists_eq_add_of_le hle
  rw [offset_add]
  exact Nat.le_add_right _ _

/-- Offsets of the pieces of a list are lengths of its prefixes. -/
theorem length_flatten_take {α : Type*} (pieces : List (List α)) (count : ℕ) :
    (pieces.take count).flatten.length = offset (pieces.map List.length) count := by
  rw [List.length_flatten, List.map_take, offset]

end Pounce.Math
