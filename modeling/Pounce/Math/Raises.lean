/-
# What a computation raises

A handler takes some errors and lets the others through. `RaisesOnly` says of a computation
that whatever it raises is taken; of a sequence it says so for the first part, and for the
second as far as it is reached.
-/

import Mathlib.Tactic.Common

namespace Pounce.Math

universe u v

variable {Error : Type u} {Value Next : Type v} {handled : Error → Prop}

/-- Whatever the computation raises is handled. -/
def RaisesOnly (handled : Error → Prop) (computation : Except Error Value) : Prop :=
  ∀ error, computation = .error error → handled error

@[simp]
theorem raisesOnly_ok (value : Value) :
    RaisesOnly handled (.ok value : Except Error Value) := by
  intro error herror
  cases herror

@[simp]
theorem raisesOnly_error {error : Error} :
    RaisesOnly handled (.error error : Except Error Value) ↔ handled error := by
  constructor
  · intro hraises
    exact hraises error rfl
  · intro hhandled other hother
    cases hother
    exact hhandled

/-- A sequence raises what its first part does, and what its second does if that is reached. -/
theorem raisesOnly_bind {computation : Except Error Value} {next : Value → Except Error Next} :
    RaisesOnly handled (computation >>= next) ↔
      RaisesOnly handled computation ∧
        ∀ value, computation = .ok value → RaisesOnly handled (next value) := by
  cases computation with
  | error error =>
      change RaisesOnly handled (.error error) ↔ _
      rw [raisesOnly_error, raisesOnly_error, iff_self_and]
      intro _ value hvalue
      cases hvalue
  | ok value =>
      change RaisesOnly handled (next value) ↔ _
      constructor
      · intro hnext
        refine ⟨raisesOnly_ok value, ?_⟩
        intro other hother
        cases hother
        exact hnext
      · intro hboth
        exact hboth.2 value rfl

/-- The computation raises nothing at all. -/
abbrev RaisesNothing (computation : Except Error Value) : Prop :=
  RaisesOnly (fun _ => False) computation

/-- What raises nothing has a value. -/
theorem raisesNothing_iff {computation : Except Error Value} :
    RaisesNothing computation ↔ ∃ value, computation = .ok value := by
  cases computation with
  | ok value => simp
  | error error => simp

/-- A sequence whose second part raises nothing, or does, whatever the first part gives. -/
theorem raisesNothing_bind {computation : Except Error Value} {next : Value → Except Error Next}
    {Holds : Prop} (hnext : ∀ value, RaisesNothing (next value) ↔ Holds) :
    RaisesNothing (computation >>= next) ↔ RaisesNothing computation ∧ Holds := by
  cases computation with
  | ok value => exact (hnext value).trans (and_iff_right (raisesOnly_ok value)).symm
  | error error =>
      change RaisesNothing (.error error) ↔ _
      simp

end Pounce.Math
