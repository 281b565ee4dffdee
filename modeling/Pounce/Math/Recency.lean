/-
# Order of last occurrence

In a history of accesses, what was accessed last is the most recent. `since` counts
the accesses since an item was last seen, and `Recent` says of a list that its items
stand in the order in which they were last seen, the most recent at the end. A cache
keeps its keys so by moving whatever it touches to the end, and what stands first is
then what was least recently seen.
-/

import Mathlib.Data.List.Basic

namespace Pounce.Math

universe u

variable {α : Type u} [DecidableEq α] {history items kept : List α} {item other : α}

/-- The number of accesses since an item was last seen. For an item that never was, it
is the number of all accesses. -/
def since (history : List α) (item : α) : ℕ := history.reverse.idxOf item

/-- The items stand in the order in which they were last seen. -/
def Recent (history items : List α) : Prop :=
  items.Pairwise fun earlier later => since history later < since history earlier

theorem since_append_self : since (history ++ [item]) item = 0 := by
  rw [since, List.reverse_append, List.reverse_singleton, List.singleton_append,
    List.idxOf_cons_self]

theorem since_append_of_ne (hne : other ≠ item) :
    since (history ++ [item]) other = since history other + 1 := by
  rw [since, List.reverse_append, List.reverse_singleton, List.singleton_append,
    List.idxOf_cons_ne _ (Ne.symm hne), since]

/-- What is forgotten leaves the rest in order. -/
theorem Recent.sublist (hrecent : Recent history items) (hkept : kept.Sublist items) :
    Recent history kept := List.Pairwise.sublist hkept hrecent

/-- What is accessed goes to the end. -/
theorem Recent.touch (hrecent : Recent history items) (hitem : item ∉ items) :
    Recent (history ++ [item]) (items ++ [item]) := by
  have hne : ∀ other ∈ items, other ≠ item := fun other hmem heq => hitem (heq ▸ hmem)
  apply List.pairwise_append.mpr
  refine ⟨?_, List.pairwise_singleton _ _, ?_⟩
  · apply List.Pairwise.imp_of_mem ?_ hrecent
    intro earlier later hearlier hlater hless
    rw [since_append_of_ne (hne earlier hearlier), since_append_of_ne (hne later hlater)]
    exact Nat.succ_lt_succ hless
  · intro earlier hearlier later hlater
    rw [List.mem_singleton.mp hlater, since_append_self, since_append_of_ne (hne earlier hearlier)]
    exact Nat.succ_pos _

/-- The first item is the least recently seen one. -/
theorem Recent.first (hrecent : Recent history (item :: items)) (hother : other ∈ items) :
    since history other < since history item := List.rel_of_pairwise_cons hrecent hother

end Pounce.Math
