/-
# Locating a slice in a list

`findSlice` is the left-to-right search every delimiter-driven parser is built
on: the first index at which a pattern occurs. Two facts carry its clients. A
search that succeeds is not disturbed by what follows, so a parser may look at a
buffer before the rest of it has arrived; and a search over a truncated buffer
succeeds exactly when the truncation keeps the whole occurrence.
-/

import Mathlib.Data.List.Infix

namespace Pounce.Math

universe u

variable {α : Type u} [DecidableEq α]

/-- The first index of `items` at which `pattern` occurs. -/
def findSlice (pattern : List α) : List α → Option ℕ
  | [] => if pattern.isPrefixOf [] then some 0 else none
  | item :: items =>
      if pattern.isPrefixOf (item :: items) then some 0
      else (findSlice pattern items).map (· + 1)

theorem findSlice_nil (pattern : List α) :
    findSlice pattern [] = if pattern.isPrefixOf [] then some 0 else none := rfl

theorem findSlice_cons (pattern : List α) (item : α) (items : List α) :
    findSlice pattern (item :: items) =
      if pattern.isPrefixOf (item :: items) then some 0
      else (findSlice pattern items).map (· + 1) := rfl

/-- The first index is an occurrence, and no earlier index is one. -/
theorem findSlice_eq_some {pattern items : List α} {index : ℕ} :
    findSlice pattern items = some index ↔
      index ≤ items.length ∧ pattern <+: items.drop index ∧
        ∀ earlier < index, ¬ pattern <+: items.drop earlier := by
  induction items generalizing index with
  | nil =>
      by_cases hhere : pattern <+: []
      · simp only [findSlice_nil, List.isPrefixOf_iff_prefix, hhere, if_true, Option.some.injEq]
        constructor
        · rintro rfl
          simpa using hhere
        · rintro ⟨hle, -, -⟩
          exact (Nat.le_zero.mp hle).symm
      · simp [findSlice_nil, hhere]
  | cons item items ih =>
      by_cases hhere : pattern <+: item :: items
      · simp only [findSlice_cons, List.isPrefixOf_iff_prefix, hhere, if_true, Option.some.injEq]
        constructor
        · rintro rfl
          exact ⟨Nat.zero_le _, hhere, fun _ hlt => absurd hlt (Nat.not_lt_zero _)⟩
        · rintro ⟨-, -, hfirst⟩
          by_contra hne
          exact hfirst 0 (Nat.pos_of_ne_zero (Ne.symm hne)) hhere
      · simp only [findSlice_cons, List.isPrefixOf_iff_prefix, hhere, if_false,
          Option.map_eq_some_iff]
        constructor
        · rintro ⟨later, hlater, rfl⟩
          obtain ⟨hle, hat, hfirst⟩ := ih.mp hlater
          refine ⟨by simpa using hle, by simpa using hat, ?_⟩
          rintro (_ | earlier) hlt
          · exact hhere
          · simpa using hfirst earlier (Nat.lt_of_succ_lt_succ hlt)
        · rintro ⟨hle, hat, hfirst⟩
          cases index with
          | zero => exact absurd hat hhere
          | succ later =>
              refine ⟨later, ih.mpr ⟨by simpa using hle, by simpa using hat, ?_⟩, rfl⟩
              intro earlier hlt
              simpa using hfirst (earlier + 1) (Nat.succ_lt_succ hlt)

/-- The search fails exactly when the pattern occurs nowhere. -/
theorem findSlice_eq_none {pattern items : List α} :
    findSlice pattern items = none ↔ ¬ pattern <:+: items := by
  induction items with
  | nil => simp [findSlice_nil]
  | cons item items ih =>
      by_cases hhere : pattern <+: item :: items
      · simp [findSlice_cons, hhere, hhere.isInfix]
      · simp only [findSlice_cons, List.isPrefixOf_iff_prefix, hhere, if_false,
          Option.map_eq_none_iff, ih, List.infix_cons_iff, false_or]

/-- An occurrence ends inside the list it was found in. -/
theorem findSlice_add_length_le {pattern items : List α} {index : ℕ}
    (hfound : findSlice pattern items = some index) :
    index + pattern.length ≤ items.length := by
  rw [findSlice_eq_some] at hfound
  obtain ⟨hle, hat, -⟩ := hfound
  have hlength := hat.length_le
  rw [List.length_drop] at hlength
  omega

/-- A truncation finds the same occurrence when it keeps all of it, and nothing
otherwise. -/
theorem findSlice_take {pattern items : List α} {index : ℕ}
    (hfound : findSlice pattern items = some index) (count : ℕ) :
    findSlice pattern (items.take count) =
      if index + pattern.length ≤ count then some index else none := by
  rw [findSlice_eq_some] at hfound
  obtain ⟨hle, hat, hfirst⟩ := hfound
  split
  case isTrue hkept =>
    rw [findSlice_eq_some]
    refine ⟨?_, ?_, ?_⟩
    · rw [List.length_take]
      omega
    · rw [List.drop_take, List.prefix_take_iff]
      exact ⟨hat, by omega⟩
    · intro earlier hlt hocc
      rw [List.drop_take, List.prefix_take_iff] at hocc
      exact hfirst earlier hlt hocc.1
  case isFalse hcut =>
    rw [findSlice_eq_none]
    intro hinfix
    obtain ⟨before, after, hsplit⟩ := hinfix
    have hocc : pattern <+: (items.take count).drop before.length := by
      rw [← hsplit, List.append_assoc, List.drop_left]
      exact List.prefix_append _ _
    rw [List.drop_take, List.prefix_take_iff] at hocc
    refine hfirst before.length ?_ hocc.1
    have hlength := congrArg List.length hsplit
    simp only [List.length_append, List.length_take] at hlength
    omega

/-- What follows an occurrence does not move it. -/
theorem findSlice_append {pattern items : List α} {index : ℕ}
    (hfound : findSlice pattern items = some index) (more : List α) :
    findSlice pattern (items ++ more) = some index := by
  have hend := findSlice_add_length_le hfound
  rw [findSlice_eq_some] at hfound ⊢
  obtain ⟨hle, hat, hfirst⟩ := hfound
  refine ⟨by simp; omega, ?_, ?_⟩
  · rw [List.drop_append_of_le_length hle]
    exact hat.trans (List.prefix_append _ _)
  · intro earlier hlt hocc
    rw [List.drop_append_of_le_length (by omega)] at hocc
    refine hfirst earlier hlt (List.prefix_of_prefix_length_le hocc (List.prefix_append _ _) ?_)
    rw [List.length_drop]
    omega

/-- Splitting at an occurrence: what stands before it, the pattern, the rest. -/
theorem findSlice_split {pattern items : List α} {index : ℕ}
    (hfound : findSlice pattern items = some index) :
    items = items.take index ++ (pattern ++ items.drop (index + pattern.length)) := by
  rw [findSlice_eq_some] at hfound
  obtain ⟨-, ⟨rest, hrest⟩, -⟩ := hfound
  have hdrop : items.drop (index + pattern.length) = rest := by
    rw [← List.drop_drop, ← hrest, List.drop_left]
  rw [hdrop, hrest, List.take_append_drop]

/-- What does not contain the first item of the pattern is skipped. -/
theorem findSlice_skip {first : α} {pattern before : List α} (hnot : first ∉ before)
    (after : List α) : findSlice (first :: pattern) (before ++ after) =
      (findSlice (first :: pattern) after).map (· + before.length) := by
  induction before with
  | nil => simp
  | cons item before ih =>
      rw [List.mem_cons, not_or] at hnot
      have hhere : ¬ (first :: pattern) <+: item :: (before ++ after) := by
        intro hleading
        exact hnot.1 (List.cons_prefix_cons.mp hleading).1
      rw [List.cons_append, findSlice_cons, if_neg (mt List.isPrefixOf_iff_prefix.mp hhere),
        ih hnot.2, Option.map_map]
      congr 1

/-- A one-item pattern is found at the first position holding that item. -/
theorem findSlice_singleton {item : α} {items : List α} {index : ℕ} :
    findSlice [item] items = some index ↔
      item ∉ items.take index ∧ items[index]? = some item := by
  induction items generalizing index with
  | nil => simp [findSlice_nil]
  | cons first items ih =>
      by_cases heq : item = first
      · subst heq
        cases index <;> simp [findSlice_cons]
      · have hne : first ≠ item := fun h => heq h.symm
        cases index with
        | zero => simp [findSlice_cons, heq, hne]
        | succ later => simp [findSlice_cons, heq, ih, List.take_succ_cons]

/-- A one-item pattern is missing exactly when the item is. -/
theorem findSlice_singleton_eq_none {item : α} {items : List α} :
    findSlice [item] items = none ↔ item ∉ items := by
  rw [findSlice_eq_none, List.singleton_infix_iff]

/-- The search for an item stops behind what does not contain it. -/
theorem findSlice_singleton_append {item : α} {before : List α} (hnot : item ∉ before)
    (after : List α) : findSlice [item] (before ++ item :: after) = some before.length := by
  rw [findSlice_singleton, List.take_left]
  exact ⟨hnot, by simp⟩

/-- What a search for one item found, written as a split. -/
theorem eq_append_of_findSlice_singleton {item : α} {items : List α} {index : ℕ}
    (hfound : findSlice [item] items = some index) :
    items = items.take index ++ item :: items.drop (index + 1) ∧ item ∉ items.take index := by
  refine ⟨findSlice_split hfound, ?_⟩
  rw [findSlice_singleton] at hfound
  exact hfound.1

omit [DecidableEq α] in
/-- A match cannot begin inside padding the pattern does not begin with. -/
theorem infix_padded {first : α} {pattern padding items : List α} (hfirst : first ∉ padding) :
    first :: pattern <:+: padding ++ items ↔ first :: pattern <:+: items := by
  induction padding with
  | nil => simp
  | cons pad padding ih =>
      have hpad : first ≠ pad := fun heq => hfirst (heq ▸ List.mem_cons_self ..)
      have hrest : first ∉ padding := fun hmem => hfirst (List.mem_cons_of_mem _ hmem)
      rw [List.cons_append, List.infix_cons_iff, ih hrest, List.cons_prefix_cons]
      simp [hpad]

end Pounce.Math
