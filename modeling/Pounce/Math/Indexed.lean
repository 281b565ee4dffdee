/-
# Predicates on the positions of a list

`Indexed P items` says `P` of every item together with its position. A list that only grows
at its end keeps the positions of its items, so they serve as names: the operations here are
the ones such a table of items is changed with.
-/

import Mathlib.Data.List.Basic

namespace Pounce.Math

variable {α : Type*} {items : List α}

/-- Every item satisfies the predicate at its position. -/
def Indexed (P : ℕ → α → Prop) (items : List α) : Prop :=
  ∀ index item, items[index]? = some item → P index item

namespace Indexed

variable {P Q : ℕ → α → Prop}

theorem nil : Indexed P [] := by
  intro index item hitem
  rw [List.getElem?_nil] at hitem
  cases hitem

theorem imp (hitems : Indexed P items)
    (himp : ∀ index item, items[index]? = some item → P index item → Q index item) :
    Indexed Q items :=
  fun index item hitem => himp index item hitem (hitems index item hitem)

/-- A new item is named by the length of the table. -/
theorem concat (hitems : Indexed P items) {item : α} (hitem : P items.length item) :
    Indexed P (items ++ [item]) := by
  intro index found hfound
  rw [List.getElem?_append] at hfound
  split at hfound
  case isTrue => exact hitems index found hfound
  case isFalse hlarge =>
    rw [List.getElem?_singleton] at hfound
    split at hfound
    case isTrue hzero =>
      obtain rfl := Option.some.inj hfound
      have hindex : index = items.length := by omega
      rw [hindex]
      exact hitem
    case isFalse => cases hfound

/-- Changing an item leaves the others alone. -/
theorem modify (hitems : Indexed P items) {change : α → α} {position : ℕ}
    (hchange : ∀ item, items[position]? = some item → P position item →
      P position (change item)) :
    Indexed P (items.modify position change) := by
  intro index found hfound
  rw [List.getElem?_modify] at hfound
  obtain ⟨item, hitem, rfl⟩ := Option.map_eq_some_iff.mp hfound
  have hbefore := hitems index item hitem
  split
  case isTrue hsame =>
    subst hsame
    exact hchange item hitem hbefore
  case isFalse => exact hbefore

/-- Replacing an item leaves the others alone. -/
theorem set (hitems : Indexed P items) {position : ℕ} {item : α} (hitem : P position item) :
    Indexed P (items.set position item) := by
  intro index found hfound
  rw [List.getElem?_set] at hfound
  split at hfound
  case isTrue hsame =>
    subst hsame
    split at hfound
    case isTrue =>
      obtain rfl := Option.some.inj hfound
      exact hitem
    case isFalse => cases hfound
  case isFalse => exact hitems index found hfound

end Indexed

end Pounce.Math
