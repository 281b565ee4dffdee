/-
# Buckets

Values are counted in buckets: every bucket has a bound, and a value counts in the first one
whose bound it fits. Summed up from the first bucket on, the counts say how many values fit
some bound up to there, provided that no bound comes twice (`getElem?_cumulative`).
-/

import Pounce.Math.Dict

namespace Pounce.Math

universe u v

/-! ## Dictionaries of counts -/

namespace Dict

variable {Key : Type u} {Value : Type v} [DecidableEq Key]

/-- All keys with the same value. -/
def fromKeys (keys : List Key) (value : Value) : Dict Key Value :=
  keys.foldl (fun dict key => dict.set key value) .empty

/-- The count of a key, zero if it has none. -/
def count (dict : Dict Key ℕ) (key : Key) : ℕ := (dict.get key).getD 0

theorem count_set (dict : Dict Key ℕ) (key other : Key) (value : ℕ) :
    (dict.set key value).count other = if key = other then value else dict.count other := by
  rw [count]
  split
  case isTrue hsame =>
    subst hsame
    rw [get_set_self, Option.getD_some]
  case isFalse hother => rw [get_set_of_ne (Ne.symm hother), count]

theorem count_fromKeys (keys : List Key) (key : Key) : (fromKeys keys 0).count key = 0 := by
  have hrun : ∀ dict : Dict Key ℕ, dict.count key = 0 →
      (keys.foldl (fun dict key => dict.set key 0) dict).count key = 0 := by
    induction keys with
    | nil => exact fun _ hzero => hzero
    | cons first keys ih =>
        intro dict hzero
        apply ih
        rw [count_set, hzero, ite_self]
  exact hrun .empty rfl

end Dict

/-! ## Observing -/

section Buckets

variable {Bound : Type u} {Value : Type v} {fits : Value → Bound → Bool}
  {bounds before after : List Bound} {bound : Bound}

/-- A bound is the first one a value fits if the value fits it and none before it. -/
theorem find?_eq_some_bound (hnew : bound ∉ before) (value : Value) :
    (before ++ bound :: after).find? (fits value) = some bound ↔
      before.any (fits value) = false ∧ fits value bound = true := by
  rw [List.find?_append, List.find?_cons]
  cases hbefore : before.find? (fits value) with
  | some first =>
      have hmem := List.mem_of_find?_eq_some hbefore
      have hfits : before.any (fits value) = true :=
        List.any_eq_true.mpr ⟨first, hmem, List.find?_some hbefore⟩
      have hne : first ≠ bound := fun heq => hnew (heq ▸ hmem)
      simp [hfits, hne]
  | none =>
      have hfits : before.any (fits value) = false := by
        simpa using List.find?_eq_none.mp hbefore
      cases hown : fits value bound with
      | true => simp [hfits]
      | false =>
          have hafter : after.find? (fits value) ≠ some bound := by
            intro hfound
            rw [List.find?_some hfound] at hown
            cases hown
          simp [hafter]

variable [DecidableEq Bound] {tally : Dict Bound ℕ}

/-- Count a value in the first bucket it fits in, if there is one. -/
def observe (fits : Value → Bound → Bool) (bounds : List Bound) (tally : Dict Bound ℕ)
    (value : Value) : Dict Bound ℕ :=
  match bounds.find? (fits value) with
  | none => tally
  | some bound => tally.set bound (tally.count bound + 1)

/-- The counts, summed up from the first bound on. -/
def cumulative (tally : Dict Bound ℕ) (total : ℕ) : List Bound → List (Bound × ℕ)
  | [] => []
  | bound :: bounds =>
      (bound, total + tally.count bound) :: cumulative tally (total + tally.count bound) bounds

theorem count_observe (value : Value) : (observe fits bounds tally value).count bound =
    tally.count bound + if bounds.find? (fits value) = some bound then 1 else 0 := by
  rw [observe]
  split
  case h_1 hnone => simp [hnone]
  case h_2 first hfirst =>
    rw [Dict.count_set, hfirst]
    by_cases hsame : first = bound
    case pos => simp [hsame]
    case neg => simp [hsame]

/-- A bucket counts the values for which it is the first. -/
theorem count_observed (values : List Value) :
    (values.foldl (observe fits bounds) tally).count bound =
      tally.count bound + values.countP fun value => bounds.find? (fits value) = some bound := by
  induction values generalizing tally with
  | nil => rfl
  | cons value values ih =>
      rw [List.foldl_cons, ih, count_observe, List.countP_cons]
      simp only [decide_eq_true_eq]
      omega

/-- With one bound more, those are added for which it is the first. -/
theorem countP_any_concat (hnew : bound ∉ before) (values : List Value) :
    (values.countP fun value => (before ++ [bound]).any (fits value)) =
      (values.countP fun value => before.any (fits value)) +
        values.countP fun value => (before ++ bound :: after).find? (fits value) = some bound := by
  induction values with
  | nil => rfl
  | cons value values ih =>
      rw [List.countP_cons, List.countP_cons, List.countP_cons, ih]
      have hfirst := @find?_eq_some_bound _ _ fits _ after _ hnew value
      have hany : (before ++ [bound]).any (fits value) =
          (before.any (fits value) || fits value bound) := by simp
      rw [hany]
      simp only [decide_eq_true_eq, hfirst]
      cases before.any (fits value) <;> cases fits value bound <;> simp <;> omega

/-- Bucket by bucket: what has been summed up are the values that fit a bound up to there. -/
theorem getElem?_cumulative_of_before {values : List Value}
    (hcount : ∀ bound, tally.count bound =
      values.countP fun value => (before ++ after).find? (fits value) = some bound)
    (hnodup : (before ++ after).Nodup) (index : ℕ) :
    (cumulative tally (values.countP fun value => before.any (fits value)) after)[index]? =
      after[index]?.map fun bound =>
        (bound, values.countP fun value =>
          (before ++ after.take (index + 1)).any (fits value)) := by
  induction after generalizing before index with
  | nil => rfl
  | cons bound after ih =>
      have hnew : bound ∉ before := fun hmem =>
        (List.nodup_append.mp hnodup).2.2 bound hmem bound (List.mem_cons_self ..) rfl
      have htotal : (values.countP fun value => before.any (fits value)) + tally.count bound =
          values.countP fun value => (before ++ [bound]).any (fits value) := by
        rw [hcount bound, countP_any_concat hnew]
      rw [cumulative, htotal]
      cases index with
      | zero => rfl
      | succ index =>
          rw [List.getElem?_cons_succ, List.getElem?_cons_succ, List.take_succ_cons,
            List.append_cons before bound (after.take (index + 1))]
          have hsplit : before ++ bound :: after = before ++ [bound] ++ after := by simp
          exact ih (hsplit ▸ hcount) (hsplit ▸ hnodup) index

/-- What the sum for a bucket says about the values that were counted. -/
theorem getElem?_cumulative {values : List Value} (hnodup : bounds.Nodup) (index : ℕ) :
    (cumulative (values.foldl (observe fits bounds) (Dict.fromKeys bounds 0)) 0 bounds)[index]? =
      bounds[index]?.map fun bound =>
        (bound, values.countP fun value => (bounds.take (index + 1)).any (fits value)) := by
  have hcount : ∀ bound, (values.foldl (observe fits bounds) (Dict.fromKeys bounds 0)).count bound =
      values.countP fun value => ([] ++ bounds).find? (fits value) = some bound := by
    intro bound
    rw [count_observed, Dict.count_fromKeys, Nat.zero_add]
    rfl
  have hsums := getElem?_cumulative_of_before hcount hnodup index
  simpa using hsums

theorem map_fst_cumulative (tally : Dict Bound ℕ) (total : ℕ) (bounds : List Bound) :
    (cumulative tally total bounds).map Prod.fst = bounds := by
  induction bounds generalizing total with
  | nil => rfl
  | cons bound bounds ih => rw [cumulative, List.map_cons, ih]

/-- The sums never fall. -/
theorem cumulative_nondecreasing (tally : Dict Bound ℕ) (total : ℕ) (bounds : List Bound) :
    ((cumulative tally total bounds).map Prod.snd).Pairwise (· ≤ ·) ∧
      ∀ sum ∈ (cumulative tally total bounds).map Prod.snd, total ≤ sum := by
  induction bounds generalizing total with
  | nil => exact ⟨List.Pairwise.nil, by simp [cumulative]⟩
  | cons bound bounds ih =>
      obtain ⟨hpairs, hleast⟩ := ih (total + tally.count bound)
      rw [cumulative, List.map_cons]
      refine ⟨List.pairwise_cons.mpr ⟨hleast, hpairs⟩, ?_⟩
      intro sum hmem
      rcases List.mem_cons.mp hmem with rfl | hmem
      · exact Nat.le_add_right ..
      · exact Nat.le_trans (Nat.le_add_right ..) (hleast sum hmem)

end Buckets

end Pounce.Math
