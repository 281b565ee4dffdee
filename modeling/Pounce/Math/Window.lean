/-
# Counting events in a sliding window

Events happen at times, in order. If each event of a kind comes when fewer than
`bound` events of the kind lie in the window that ends with it, then no window of that
length, wherever it starts, holds more than `bound` of them.
-/

import Mathlib.Data.List.Induction
import Mathlib.Order.Basic

namespace Pounce.Math

variable {Event : Type*} (time : Event → ℕ) (kind : Event → Prop) [DecidablePred kind]

/-- The events of a kind that lie less than a window before a time. -/
def recent (window : ℕ) (history : List Event) (now : ℕ) : List Event :=
  history.filter fun event => kind event ∧ now - time event < window

/-- The events of a kind in the window from a time on. -/
def within (window : ℕ) (history : List Event) (start : ℕ) : List Event :=
  history.filter fun event => kind event ∧ start ≤ time event ∧ time event < start + window

variable {time kind}

/-- The earlier events of a window that contains an event are recent to it. -/
theorem length_within_le_recent {window start : ℕ} {history : List Event} {event : Event}
    (horder : ∀ earlier ∈ history, time earlier ≤ time event)
    (hstop : time event < start + window) :
    (within time kind window history start).length ≤
      (recent time kind window history (time event)).length := by
  rw [within, recent, ← List.countP_eq_length_filter, ← List.countP_eq_length_filter]
  apply List.countP_mono_left
  intro earlier hmem hearlier
  simp only [decide_eq_true_eq] at hearlier ⊢
  obtain ⟨hkind, hstart, -⟩ := hearlier
  have hle := horder earlier hmem
  exact ⟨hkind, by omega⟩

/-- A bound on the recent events at every event bounds every window. -/
theorem length_within_le {window bound : ℕ} {history : List Event}
    (horder : history.Pairwise fun earlier later => time earlier ≤ time later)
    (hrecent : ∀ earlier event later, history = earlier ++ event :: later → kind event →
      (recent time kind window earlier (time event)).length < bound) (start : ℕ) :
    (within time kind window history start).length ≤ bound := by
  induction history using List.reverseRec with
  | nil => exact Nat.zero_le _
  | append_singleton earlier event ih =>
      rw [List.pairwise_append] at horder
      obtain ⟨hbefore, -, hlast⟩ := horder
      have hprefix := ih hbefore fun first other later heq hkind =>
        hrecent first other (later ++ [event]) (by simp [heq]) hkind
      rw [within, List.filter_append, List.length_append]
      by_cases hinside : kind event ∧ start ≤ time event ∧ time event < start + window
      · obtain ⟨hkind, -, hstop⟩ := hinside
        have hcount := hrecent earlier event [] rfl hkind
        have hle : (within time kind window earlier start).length ≤
            (recent time kind window earlier (time event)).length :=
          length_within_le_recent
            (fun other hother => hlast other hother event (List.mem_singleton_self _)) hstop
        have hone : ([event].filter fun event => decide (kind event ∧ start ≤ time event ∧
            time event < start + window)).length ≤ 1 := List.length_filter_le _ _
        rw [within] at hle
        omega
      · rw [List.filter_cons_of_neg (by simpa using hinside)]
        exact hprefix

end Pounce.Math
