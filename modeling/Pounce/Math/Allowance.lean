/-
# The allowance of a token bucket

A bucket holds tokens, gets new ones at a fixed rate, and is never fuller than its capacity.
Every grant takes a token. Between any two moments there are then no more grants than a full
bucket and the tokens that are new since the first of them.

The invariant behind it counts, for every moment in the past, what has been granted since
together with what is still in the bucket. Time, tokens and rate are numbers of any ordered
ring.
-/

import Mathlib.Algebra.Order.Ring.Defs
import Mathlib.Data.Nat.Cast.Order.Ring
import Mathlib.Tactic.Linarith

namespace Pounce.Math

variable {Num : Type*} [CommRing Num] [LinearOrder Num]

/-- The number of grants between two moments, both included. -/
def grantsIn (first last : Num) (grants : List Num) : ℕ :=
  grants.countP fun time => decide (first ≤ time ∧ time ≤ last)

/-- What has been granted, and what may still be: with so many tokens left at the clock. -/
structure Allowance (rate capacity : Num) (grants : List Num) (clock level : Num) : Prop where
  past : ∀ time ∈ grants, time ≤ clock
  bounded : ∀ first last, first ≤ last →
    (grantsIn first last grants : Num) ≤ capacity + rate * (last - first)
  spent : ∀ first, first ≤ clock →
    (grantsIn first clock grants : Num) + level ≤ capacity + rate * (clock - first)

omit [CommRing Num] in
/-- A grant counts where it lies between the two moments. -/
theorem grantsIn_append (first last : Num) (grants : List Num) (time : Num) :
    grantsIn first last (grants ++ [time]) =
      grantsIn first last grants + if first ≤ time ∧ time ≤ last then 1 else 0 := by
  rw [grantsIn, grantsIn, List.countP_append, List.countP_singleton]
  simp only [decide_eq_true_eq]

omit [CommRing Num] in
/-- Later than all grants there is none to count. -/
theorem grantsIn_eq_of_past {first last clock : Num} {grants : List Num}
    (hpast : ∀ time ∈ grants, time ≤ clock) (hlast : clock ≤ last) :
    grantsIn first last grants = grantsIn first clock grants := by
  apply List.countP_congr
  intro time htime
  have hle := hpast time htime
  simp only [decide_eq_true_eq]
  exact and_congr_right fun _ => ⟨fun _ => hle, fun _ => hle.trans hlast⟩

omit [CommRing Num] in
theorem grantsIn_eq_zero {first last clock : Num} {grants : List Num}
    (hpast : ∀ time ∈ grants, time ≤ clock) (hfirst : clock < first) :
    grantsIn first last grants = 0 := by
  rw [grantsIn, List.countP_eq_zero]
  intro time htime
  simp only [decide_eq_true_eq, not_and]
  intro hnot
  exact absurd (hnot.trans (hpast time htime)) (not_le_of_gt hfirst)

namespace Allowance

variable [IsStrictOrderedRing Num] {rate capacity clock level : Num} {grants : List Num}

/-- Before the first grant the bucket may be as full as it gets. -/
theorem start (hrate : 0 ≤ rate) (hcapacity : 0 ≤ capacity) (hlevel : level ≤ capacity) :
    Allowance rate capacity [] clock level where
  past time hnot := absurd hnot List.not_mem_nil
  bounded first last hle := by
    have hnew : 0 ≤ rate * (last - first) := mul_nonneg hrate (sub_nonneg.mpr hle)
    show ((0 : ℕ) : Num) ≤ _
    rw [Nat.cast_zero]
    exact add_nonneg hcapacity hnew
  spent first hle := by
    have hnew : 0 ≤ rate * (clock - first) := mul_nonneg hrate (sub_nonneg.mpr hle)
    show ((0 : ℕ) : Num) + level ≤ _
    rw [Nat.cast_zero]
    linarith

/-- With time tokens are gained, up to the capacity. -/
theorem advance (hallowance : Allowance rate capacity grants clock level) (hrate : 0 ≤ rate)
    {later more : Num} (hlater : clock ≤ later) (hcapacity : more ≤ capacity)
    (hmore : more ≤ level + rate * (later - clock)) :
    Allowance rate capacity grants later more where
  past time htime := (hallowance.past time htime).trans hlater
  bounded := hallowance.bounded
  spent first hle := by
    by_cases hfirst : first ≤ clock
    case pos =>
      rw [grantsIn_eq_of_past hallowance.past hlater]
      have hspent := hallowance.spent first hfirst
      linarith
    case neg =>
      -- nothing has been granted since, and the bucket is not over its capacity
      rw [grantsIn_eq_zero hallowance.past (not_le.mp hfirst), Nat.cast_zero]
      have hnew : 0 ≤ rate * (later - first) := mul_nonneg hrate (sub_nonneg.mpr hle)
      linarith

/-- A grant takes a token. -/
theorem grant (hallowance : Allowance rate capacity grants clock level) (hrate : 0 ≤ rate)
    (htoken : 1 ≤ level) :
    Allowance rate capacity (grants ++ [clock]) clock (level - 1) where
  past time htime := by
    rcases List.mem_append.mp htime with htime | htime
    · exact hallowance.past time htime
    · exact (List.mem_singleton.mp htime).le
  bounded first last hle := by
    rw [grantsIn_append]
    split
    case isFalse => exact hallowance.bounded first last hle
    case isTrue hwithin =>
      rw [grantsIn_eq_of_past hallowance.past hwithin.2, Nat.cast_add, Nat.cast_one]
      have hspent := hallowance.spent first hwithin.1
      have hnew : 0 ≤ rate * (last - clock) := mul_nonneg hrate (sub_nonneg.mpr hwithin.2)
      linarith
  spent first hle := by
    rw [grantsIn_append, if_pos ⟨hle, le_refl _⟩, Nat.cast_add, Nat.cast_one]
    have hspent := hallowance.spent first hle
    linarith

end Allowance

end Pounce.Math
