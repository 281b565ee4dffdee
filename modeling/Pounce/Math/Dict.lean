/-
# Ordered dictionaries

A dictionary keeps its keys in the order they were first set in, has one value for each, and
may move a key to the end or drop keys from the front, which is all a cache needs to forget
what was used least recently.
-/

import Mathlib.Data.List.Nodup

namespace Pounce.Math

universe u v

/-- Entries in order, one for each key. -/
structure Dict (Key : Type u) (Value : Type v) where
  entries : List (Key × Value) := []
  nodup : (entries.map Prod.fst).Nodup := by exact List.nodup_nil

namespace Dict

variable {Key : Type u} {Value : Type v} [DecidableEq Key] (dict : Dict Key Value)

/-- No entries. -/
def empty : Dict Key Value := {}

/-- The value of a key. -/
def get (key : Key) : Option Value := (dict.entries.find? fun entry => entry.1 = key).map (·.2)

/-- The number of keys. -/
def size : ℕ := dict.entries.length

/-- The keys, in order. -/
def keys : List Key := dict.entries.map Prod.fst

/-- Forget a key. -/
def pop (key : Key) : Dict Key Value where
  entries := dict.entries.filter fun entry => entry.1 ≠ key
  nodup := dict.nodup.sublist (List.filter_sublist.map _)

theorem not_mem_pop (key : Key) : key ∉ (dict.pop key).entries.map Prod.fst := by
  intro hmem
  obtain ⟨entry, hentry, rfl⟩ := List.mem_map.mp hmem
  simp [pop] at hentry

/-- Forget a key and set it at the end. -/
def append (key : Key) (value : Value) : Dict Key Value where
  entries := (dict.pop key).entries ++ [(key, value)]
  nodup := by
    rw [List.map_append]
    exact (dict.pop key).nodup.append (List.nodup_singleton _)
      (List.disjoint_singleton.mpr (dict.not_mem_pop key))

/-- Set the value of a key, where it is or at the end. -/
def set (key : Key) (value : Value) : Dict Key Value :=
  if key ∈ dict.entries.map Prod.fst then
    { entries := dict.entries.map fun entry => if entry.1 = key then (key, value) else entry
      nodup := by
        have hkeys : (dict.entries.map fun entry => if entry.1 = key then (key, value) else entry).map
            Prod.fst = dict.entries.map Prod.fst := by
          rw [List.map_map]
          apply List.map_congr_left
          intro entry _
          show (if entry.1 = key then (key, value) else entry).1 = entry.1
          split
          · next heq => exact heq.symm
          · rfl
        rw [hkeys]
        exact dict.nodup }
  else dict.append key value

/-- Move a key to the end. -/
def moveToEnd (key : Key) : Dict Key Value :=
  match dict.get key with
  | none => dict
  | some value => dict.append key value

/-- Drop keys from the front until no more than so many are left. -/
def shrink (limit : ℕ) : Dict Key Value where
  entries := dict.entries.drop (dict.size - limit)
  nodup := dict.nodup.sublist ((List.drop_sublist _ _).map _)

/-- Keep the entries that pass a test. -/
def filter (test : Key × Value → Bool) : Dict Key Value where
  entries := dict.entries.filter test
  nodup := dict.nodup.sublist (List.filter_sublist.map _)

variable {dict} {key other : Key} {value : Value}

/-- The entries are what the dictionary has for its keys. -/
theorem mem_entries_iff : (key, value) ∈ dict.entries ↔ dict.get key = some value := by
  rw [get]
  obtain ⟨entries, hnodup⟩ := dict
  induction entries with
  | nil => simp
  | cons entry entries ih =>
      obtain ⟨first, own⟩ := entry
      rw [List.map_cons, List.nodup_cons] at hnodup
      rw [List.mem_cons, List.find?_cons]
      by_cases hfirst : first = key
      case pos =>
        subst hfirst
        simp only [decide_true, Option.map_some, Option.some.injEq, Prod.mk.injEq, true_and]
        refine ⟨?_, fun heq => .inl heq.symm⟩
        rintro (heq | hmem)
        · exact heq.symm
        · exact absurd (List.mem_map_of_mem hmem) hnodup.1
      case neg =>
        simp only [hfirst, decide_false]
        rw [← ih hnodup.2]
        simp [Ne.symm hfirst]

theorem mem_keys_iff : key ∈ dict.entries.map Prod.fst ↔ (dict.get key).isSome := by
  rw [Option.isSome_iff_exists]
  constructor
  · intro hmem
    obtain ⟨⟨_, value⟩, hentry, rfl⟩ := List.mem_map.mp hmem
    exact ⟨value, mem_entries_iff.mp hentry⟩
  · rintro ⟨value, hvalue⟩
    exact List.mem_map_of_mem (mem_entries_iff.mpr hvalue)

theorem mem_keys : key ∈ dict.keys ↔ (dict.get key).isSome := mem_keys_iff

/-- Two dictionaries with the same entries give the same values. -/
theorem get_eq_of_mem_iff {second : Dict Key Value}
    (hentries : ∀ value, (key, value) ∈ dict.entries ↔ (key, value) ∈ second.entries) :
    dict.get key = second.get key := by
  apply Option.ext
  intro value
  rw [← mem_entries_iff, ← mem_entries_iff]
  exact hentries value

@[simp]
theorem get_pop_self : (dict.pop key).get key = none := by
  rw [← Option.not_isSome_iff_eq_none, ← mem_keys_iff]
  exact dict.not_mem_pop key

theorem get_pop_of_ne (hother : other ≠ key) : (dict.pop key).get other = dict.get other := by
  apply get_eq_of_mem_iff
  simp [pop, hother]

/-- What is left after a key is forgotten. -/
theorem get_pop_eq_some : (dict.pop key).get other = some value ↔
    other ≠ key ∧ dict.get other = some value := by
  by_cases hother : other = key
  case pos => simp [hother]
  case neg => simp [get_pop_of_ne hother, hother]

@[simp]
theorem get_append_self : (dict.append key value).get key = some value := by
  rw [← mem_entries_iff]
  simp [append]

theorem get_append_of_ne (hother : other ≠ key) :
    (dict.append key value).get other = dict.get other := by
  apply get_eq_of_mem_iff
  simp [append, pop, hother]

@[simp]
theorem get_set_self : (dict.set key value).get key = some value := by
  rw [set]
  split
  case isFalse => exact get_append_self
  case isTrue hmem =>
    rw [← mem_entries_iff]
    obtain ⟨⟨_, own⟩, hentry, rfl⟩ := List.mem_map.mp hmem
    exact List.mem_map.mpr ⟨_, hentry, if_pos rfl⟩

theorem get_set_of_ne (hother : other ≠ key) :
    (dict.set key value).get other = dict.get other := by
  rw [set]
  split
  case isFalse => exact get_append_of_ne hother
  case isTrue hmem =>
    apply get_eq_of_mem_iff
    intro own
    show (other, own) ∈ dict.entries.map (fun entry => if entry.1 = key then (key, value) else entry) ↔ _
    rw [List.mem_map]
    constructor
    · rintro ⟨entry, hentry, heq⟩
      split at heq
      case isTrue => exact absurd (congrArg Prod.fst heq).symm hother
      case isFalse => exact heq ▸ hentry
    · exact fun hentry => ⟨_, hentry, if_neg hother⟩

@[simp]
theorem get_moveToEnd : (dict.moveToEnd key).get other = dict.get other := by
  rw [moveToEnd]
  split
  case h_1 => rfl
  case h_2 value hvalue =>
    by_cases hother : other = key
    case pos =>
      subst hother
      rw [get_append_self, hvalue]
    case neg => exact get_append_of_ne hother

/-- What is dropped from the front is gone, and the rest stays as it is. -/
theorem get_shrink {limit : ℕ} (hvalue : (dict.shrink limit).get key = some value) :
    dict.get key = some value :=
  mem_entries_iff.mp ((List.drop_sublist _ _).subset (mem_entries_iff.mpr hvalue))

theorem get_filter {test : Key × Value → Bool} : (dict.filter test).get key = some value ↔
    dict.get key = some value ∧ test (key, value) = true := by
  rw [← mem_entries_iff, ← mem_entries_iff]
  exact List.mem_filter

/-! ## Keys -/

theorem keys_pop : (dict.pop key).keys = dict.keys.filter (· ≠ key) := by
  rw [keys, keys, pop, List.filter_map]
  rfl

theorem keys_pop_sublist : (dict.pop key).keys.Sublist dict.keys :=
  List.filter_sublist.map _

theorem keys_append : (dict.append key value).keys = dict.keys.filter (· ≠ key) ++ [key] := by
  rw [← keys_pop, keys, append, List.map_append]
  rfl

/-- A key that is there is moved to the end. -/
theorem keys_moveToEnd (hmem : (dict.get key).isSome) :
    (dict.moveToEnd key).keys = dict.keys.filter (· ≠ key) ++ [key] := by
  obtain ⟨value, hvalue⟩ := Option.isSome_iff_exists.mp hmem
  rw [moveToEnd, hvalue]
  exact keys_append

/-- A key that is not there is set at the end. -/
theorem keys_set (hnone : dict.get key = none) : (dict.set key value).keys = dict.keys ++ [key] := by
  have hkey : key ∉ dict.entries.map Prod.fst := by
    rw [mem_keys_iff, hnone]
    exact Bool.false_ne_true
  have hkept : dict.keys.filter (· ≠ key) = dict.keys := by
    apply List.filter_eq_self.mpr
    intro other hother
    rw [decide_eq_true_eq]
    exact fun heq => hkey (heq ▸ hother)
  rw [set, if_neg hkey, keys_append, hkept]

omit [DecidableEq Key] in
theorem keys_shrink {limit : ℕ} :
    (dict.shrink limit).keys = dict.keys.drop (dict.keys.length - limit) := by
  rw [keys, keys, shrink, List.length_map, List.map_drop]
  rfl

/-! ## Sizes -/

theorem size_pop_le : (dict.pop key).size ≤ dict.size := List.length_filter_le ..

omit [DecidableEq Key] in
theorem size_filter_le {test : Key × Value → Bool} : (dict.filter test).size ≤ dict.size :=
  List.length_filter_le ..

theorem size_append_le : (dict.append key value).size ≤ dict.size + 1 := by
  have hpop : (dict.pop key).size ≤ dict.size := size_pop_le
  simp only [size, append, List.length_append, List.length_singleton] at hpop ⊢
  omega

/-- Forgetting a key that is there makes room for one. -/
theorem size_pop_lt (hmem : (dict.get key).isSome) : (dict.pop key).size < dict.size := by
  obtain ⟨value, hvalue⟩ := Option.isSome_iff_exists.mp hmem
  apply List.length_filter_lt_length_iff_exists.mpr
  exact ⟨_, mem_entries_iff.mpr hvalue, by simp⟩

theorem size_set_le : (dict.set key value).size ≤ dict.size + 1 := by
  rw [set]
  split
  · simp [size]
  · exact size_append_le

/-- Moving a key adds none. -/
theorem size_moveToEnd_le : (dict.moveToEnd key).size ≤ dict.size := by
  rw [moveToEnd]
  split
  case h_1 => exact Nat.le_refl _
  case h_2 value hvalue =>
    have hpop : (dict.pop key).size < dict.size := size_pop_lt (hvalue ▸ rfl)
    simp only [size, append, List.length_append, List.length_singleton] at hpop ⊢
    omega

omit [DecidableEq Key] in
theorem size_shrink_le (limit : ℕ) : (dict.shrink limit).size ≤ limit := by
  simp only [size, shrink, List.length_drop]
  omega

omit [DecidableEq Key] in
/-- Nothing is dropped where there is room. -/
theorem shrink_of_size_le {limit : ℕ} (hroom : dict.size ≤ limit) : dict.shrink limit = dict := by
  have hdrop : dict.size - limit = 0 := Nat.sub_eq_zero_of_le hroom
  cases dict
  simp only [shrink, hdrop, List.drop_zero]

end Dict

end Pounce.Math
