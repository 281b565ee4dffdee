/-
# Byte range sets

A Range header asks for a set of positions, as up to ten specs: from one position to another, from
a position on, or so many bytes at the end. What the file has of them is served as ranges that are
sorted, apart from each other and together have the positions of the specs. If the file has none of
them the request is not satisfiable, and a header that is no valid set is ignored.

The parser reads the numbers with `int`, which is more lenient than the grammar, and it ignores a
header with a spec that is open-ended and begins behind the end of the file. `range_header_iff` says
for which headers that makes no difference.
-/

import Mathlib.Data.List.Forall2
import Pounce.Static.Responses

namespace Pounce.Static

open Pounce.Math Pounce.Math.Bytes

/-! ## Specs -/

/-- What a header asks for. -/
inductive Spec where
  | bounded (first last : ℕ) (first_le_last : first ≤ last)
  | onwards (first : ℕ)
  | suffix (length : ℕ) (length_pos : 0 < length)

/-- The spec asks for the position, and the file has it. -/
def Spec.Covers (size position : ℕ) : Spec → Prop
  | bounded first last _ => position < size ∧ first ≤ position ∧ position ≤ last
  | onwards first => position < size ∧ first ≤ position
  | suffix length _ => position < size ∧ size ≤ position + length

/-- The file has some position the spec asks for. -/
def Spec.Satisfiable (size : ℕ) (spec : Spec) : Prop := ∃ position, spec.Covers size position

/-- The spec is open-ended and begins behind the end of the file. -/
def Spec.Beyond (size : ℕ) : Spec → Prop
  | onwards first => size ≤ first
  | _ => False

/-- The text of a spec, by what counts as a number. -/
inductive SpecText (number : Bytes → Option ℕ) : Bytes → Spec → Prop
  | bounded {before after : Bytes} {first last : ℕ} (hdash : 45 ∉ before)
      (hfirst : number before = some first) (hlast : number after = some last)
      (hle : first ≤ last) : SpecText number (before ++ 45 :: after) (.bounded first last hle)
  | onwards {before : Bytes} {first : ℕ} (hdash : 45 ∉ before)
      (hfirst : number before = some first) : SpecText number (before ++ [45]) (.onwards first)
  | suffix {after : Bytes} {length : ℕ} (hlength : number after = some length)
      (hpos : 0 < length) : SpecText number (45 :: after) (.suffix length hpos)

/-- A list of specs in digits, with optional white space around the commas. -/
inductive SpecList : Bytes → List Spec → Prop
  | single {text : Bytes} {spec : Spec} (htext : SpecText decimal? text spec) :
      SpecList text [spec]
  | cons {text before after rest : Bytes} {spec : Spec} {specs : List Spec}
      (htext : SpecText decimal? text spec) (hbefore : ∀ byte ∈ before, isOws byte)
      (hafter : ∀ byte ∈ after, isOws byte) (hrest : SpecList rest specs) :
      SpecList (text ++ (before ++ 44 :: (after ++ rest))) (spec :: specs)

/-- The header is a valid set of byte ranges: a list of specs for the unit, which has no case. -/
def RangeSet (header : Bytes) (specs : List Spec) : Prop :=
  specs.length ≤ maxRanges ∧
    ∃ unit body, lower unit = ascii "bytes" ∧ header = unit ++ 61 :: body ∧ SpecList body specs

/-! ## Reading a spec -/

variable {size : ℕ}

/-- A number that `int` reads, and that is not negative. -/
def lenient? (text : Bytes) : Option ℕ :=
  (readStrInt text).bind fun value => if 0 ≤ value then some value.toNat else none

/-- The parser can make sense of the part: `strip` and `int` read it as a spec, and it is not an
open-ended one that begins behind the end of the file. -/
def Tolerated (size : ℕ) (part : Bytes) : Prop :=
  ∃ spec, SpecText lenient? (stripWhile isStrSpace part) spec ∧ ¬ spec.Beyond size

/-- What the parser makes of a spec. -/
def Spec.outcome (size : ℕ) : Spec → RangeSpec size
  | bounded first last _ => .clamp size first last
  | onwards first => .clamp size first (size - 1)
  | suffix length _ => .clamp size (max 0 (size - length)) (size - 1)

/-- The positions of a range. -/
def ByteRange.Has (range : ByteRange size) (position : ℕ) : Prop :=
  range.start ≤ position ∧ position ≤ range.stop

/-- What is before and after the first dash. -/
theorem split_dash {before : Bytes} (hdash : 45 ∉ before) (after : Bytes) :
    (before ++ 45 :: after).takeWhile (· ≠ 45) = before ∧
      ((before ++ 45 :: after).dropWhile (· ≠ 45)).tail = after := by
  have hall : ∀ byte ∈ before, decide (byte ≠ 45) = true := by
    intro byte hmem
    exact decide_eq_true fun heq => hdash (heq ▸ hmem)
  constructor
  · rw [List.takeWhile_append_of_pos hall]
    simp
  · rw [List.dropWhile_append_of_pos hall]
    simp

/-- There is no number without a digit. -/
theorem lenient?_nil : lenient? [] = none := by
  decide +kernel

/-- Numbers that are not negative are read by `int`. -/
theorem lenient?_eq_some {text : Bytes} {value : ℕ} :
    lenient? text = some value ↔ readStrInt text = some (value : ℤ) := by
  rw [lenient?, Option.bind_eq_some_iff]
  constructor
  · rintro ⟨read, hread, hvalue⟩
    split at hvalue
    case isTrue hnonneg =>
      obtain rfl := Option.some.inj hvalue
      rw [hread, Int.toNat_of_nonneg hnonneg]
    case isFalse => cases hvalue
  · intro hread
    refine ⟨value, hread, ?_⟩
    rw [if_pos (Int.natCast_nonneg value), Int.toNat_natCast]

/-- A text that reads as a spec is parsed as that. -/
theorem parseRangeSpec_of_specText {part : Bytes} {spec : Spec}
    (htext : SpecText lenient? (stripWhile isStrSpace part) spec) :
    parseRangeSpec size part = spec.outcome size := by
  rw [parseRangeSpec]
  generalize stripWhile isStrSpace part = text at htext
  have hne : ∀ {number : Bytes} {value : ℕ}, lenient? number = some value → number ≠ [] := by
    rintro number value hvalue rfl
    cases lenient?_nil.symm.trans hvalue
  cases htext with
  | bounded hdash hfirst hlast hle =>
      rename_i before after first last
      obtain ⟨htake, hdrop⟩ := split_dash hdash after
      rw [htake, hdrop, if_neg (by simp), if_pos ⟨hne hfirst, hne hlast⟩,
        lenient?_eq_some.mp hfirst, lenient?_eq_some.mp hlast]
      rfl
  | onwards hdash hfirst =>
      rename_i before first
      obtain ⟨htake, hdrop⟩ := split_dash hdash []
      rw [htake, hdrop, if_neg (by simp), if_neg fun hboth => hboth.2 rfl, if_pos (hne hfirst),
        lenient?_eq_some.mp hfirst]
      rfl
  | suffix hlength hpos =>
      rename_i after length
      obtain ⟨htake, hdrop⟩ := split_dash (List.not_mem_nil : 45 ∉ ([] : Bytes)) after
      rw [List.nil_append] at htake hdrop
      rw [htake, hdrop, if_neg (by simp), if_neg fun hboth => hboth.1 rfl, if_neg fun hnot => hnot rfl,
        if_pos (hne hlength), lenient?_eq_some.mp hlength]
      dsimp only
      rw [if_neg (by omega)]
      rfl

/-- Any other text is malformed. -/
theorem parseRangeSpec_of_not_specText {part : Bytes}
    (hnot : ∀ spec, ¬ SpecText lenient? (stripWhile isStrSpace part) spec) :
    parseRangeSpec size part = .malformed := by
  rw [parseRangeSpec]
  generalize stripWhile isStrSpace part = text at hnot
  by_cases hmem : 45 ∈ text
  case neg => rw [if_pos hmem]
  case pos =>
    obtain ⟨before, after, rfl, hdash⟩ := List.eq_append_cons_of_mem hmem
    obtain ⟨htake, hdrop⟩ := split_dash hdash after
    rw [htake, hdrop, if_neg (by simp)]
    have hread : ∀ {text : Bytes} {value : ℤ}, readStrInt text = some value → 0 ≤ value →
        lenient? text = some value.toNat := by
      intro text value hvalue hnonneg
      rw [lenient?_eq_some, hvalue, Int.toNat_of_nonneg hnonneg]
    have hclamp : ∀ {start stop : ℤ}, start < 0 ∨ stop < start →
        RangeSpec.clamp size start stop = .malformed := by
      intro start stop hbad
      rw [RangeSpec.clamp, dif_pos hbad]
    split
    case isTrue hboth =>
      split
      case h_1 start stop hstart hstop =>
        apply hclamp
        by_contra hgood
        rw [not_or, not_lt, not_lt] at hgood
        exact hnot _ (.bounded hdash (hread hstart hgood.1) (hread hstop (hgood.1.trans hgood.2))
          (by omega))
      case h_2 => rfl
    case isFalse hnotBoth =>
      split
      case isTrue hbefore =>
        obtain rfl : after = [] := by
          by_contra hafter
          exact hnotBoth ⟨hbefore, hafter⟩
        split
        case h_1 start hstart =>
          apply hclamp
          by_contra hgood
          rw [not_or, not_lt, not_lt] at hgood
          exact hnot _ (.onwards hdash (hread hstart hgood.1))
        case h_2 => rfl
      case isFalse hbefore =>
        obtain rfl : before = [] := by simpa using hbefore
        split
        case isTrue hafter =>
          split
          case h_1 suffix hsuffix =>
            split
            case isTrue => rfl
            case isFalse hpos =>
              rw [not_le] at hpos
              exact absurd (.suffix (hread hsuffix hpos.le) (by omega)) (hnot _)
          case h_2 => rfl
        case isFalse => rfl

/-- A spec comes to nothing if it begins behind the end, and to the positions it asks for
otherwise. -/
theorem outcome_cases (hsize : 0 < size) (spec : Spec) :
    match spec.outcome size with
    | .malformed => spec.Beyond size
    | .unsatisfiable => ¬ spec.Beyond size ∧ ∀ position, ¬ spec.Covers size position
    | .satisfiable range =>
        ¬ spec.Beyond size ∧ ∀ position, range.Has position ↔ spec.Covers size position := by
  cases spec with
  | bounded first last hle =>
      rw [Spec.outcome, RangeSpec.clamp, dif_neg (by omega)]
      by_cases hbeyond : (size : ℤ) ≤ (first : ℤ)
      · rw [dif_pos hbeyond]
        refine ⟨id, ?_⟩
        rintro position ⟨hlt, hfirst, -⟩
        omega
      · rw [dif_neg hbeyond]
        refine ⟨id, ?_⟩
        intro position
        simp only [ByteRange.Has, Spec.Covers, Int.toNat_natCast]
        omega
  | onwards first =>
      rw [Spec.outcome, RangeSpec.clamp]
      by_cases hbeyond : size ≤ first
      · rw [dif_pos (by omega)]
        exact hbeyond
      · rw [dif_neg (by omega), dif_neg (by omega)]
        refine ⟨hbeyond, ?_⟩
        intro position
        simp only [ByteRange.Has, Spec.Covers, Int.toNat_natCast]
        omega
  | suffix length hpos =>
      rw [Spec.outcome, RangeSpec.clamp, dif_neg (by omega), dif_neg (by omega)]
      refine ⟨id, ?_⟩
      intro position
      simp only [ByteRange.Has, Spec.Covers]
      omega

/-- A part is malformed if the parser can make no sense of it. -/
theorem parseRangeSpec_malformed_iff (hsize : 0 < size) (part : Bytes) :
    parseRangeSpec size part = .malformed ↔ ¬ Tolerated size part := by
  by_cases hread : ∃ spec, SpecText lenient? (stripWhile isStrSpace part) spec
  · obtain ⟨spec, htext⟩ := hread
    have hcases := outcome_cases hsize spec
    rw [parseRangeSpec_of_specText htext]
    constructor
    · rintro hmalformed ⟨other, hother, hwithin⟩
      have hsame : parseRangeSpec size part = other.outcome size := parseRangeSpec_of_specText hother
      have hotherCases := outcome_cases hsize other
      rw [← hsame, parseRangeSpec_of_specText htext, hmalformed] at hotherCases
      exact hwithin hotherCases
    · intro hnot
      have hbeyond : spec.Beyond size := by
        by_contra hwithin
        exact hnot ⟨spec, htext, hwithin⟩
      cases houtcome : spec.outcome size with
      | malformed => rfl
      | unsatisfiable =>
          rw [houtcome] at hcases
          exact absurd hbeyond hcases.1
      | satisfiable range =>
          rw [houtcome] at hcases
          exact absurd hbeyond hcases.1
  · have hnone := not_exists.mp hread
    apply iff_of_true (parseRangeSpec_of_not_specText hnone)
    rintro ⟨spec, htext, -⟩
    exact hnone spec htext

/-! ## Reading a list -/

/-- A list is malformed if a part of it is. -/
theorem parseSpecs_eq_none (parts : List Bytes) :
    parseSpecs size parts = none ↔ ∃ part ∈ parts, parseRangeSpec size part = .malformed := by
  induction parts with
  | nil => simp [parseSpecs]
  | cons part parts ih =>
      rw [parseSpecs]
      cases hpart : parseRangeSpec size part with
      | malformed => simp [hpart]
      | unsatisfiable => simp [hpart, ih]
      | satisfiable range => simp [hpart, ih]

/-- From a list that is not empty comes a range, or the note that there is one beyond the file. -/
theorem parseSpecs_cons {part : Bytes} {parts : List Bytes} {ranges : List (ByteRange size)}
    {beyond : Bool} (hparsed : parseSpecs size (part :: parts) = some (ranges, beyond)) :
    ranges ≠ [] ∨ beyond = true := by
  rw [parseSpecs] at hparsed
  cases hpart : parseRangeSpec size part with
  | malformed =>
      rw [hpart] at hparsed
      cases hparsed
  | unsatisfiable =>
      rw [hpart] at hparsed
      obtain ⟨⟨found, seen⟩, -, hfound⟩ := Option.map_eq_some_iff.mp hparsed
      exact .inr (Prod.mk.inj hfound).2.symm
  | satisfiable range =>
      rw [hpart] at hparsed
      obtain ⟨⟨found, seen⟩, -, hfound⟩ := Option.map_eq_some_iff.mp hparsed
      left
      rw [← (Prod.mk.inj hfound).1]
      exact List.cons_ne_nil _ _

/-- The ranges that come from a list have the positions that are asked for. -/
theorem parseSpecs_covers (hsize : 0 < size) {parts : List Bytes} {specs : List Spec}
    (hall : List.Forall₂ (fun part spec => parseRangeSpec size part = spec.outcome size ∧
      ¬ spec.Beyond size) parts specs) :
    ∃ ranges beyond, parseSpecs size parts = some (ranges, beyond) ∧
      ∀ position, (∃ range ∈ ranges, range.Has position) ↔
        ∃ spec ∈ specs, spec.Covers size position := by
  induction hall with
  | nil => exact ⟨[], false, rfl, by simp⟩
  | @cons part spec parts specs hhead htail ih =>
      obtain ⟨hpart, hwithin⟩ := hhead
      obtain ⟨ranges, beyond, hparsed, hcovers⟩ := ih
      have hcases := outcome_cases hsize spec
      rw [parseSpecs, hpart]
      cases houtcome : spec.outcome size with
      | malformed =>
          rw [houtcome] at hcases
          exact absurd hcases hwithin
      | unsatisfiable =>
          rw [houtcome] at hcases
          refine ⟨ranges, true, by rw [hparsed]; rfl, ?_⟩
          intro position
          rw [hcovers, List.exists_mem_cons_iff, or_iff_right (hcases.2 position)]
      | satisfiable range =>
          rw [houtcome] at hcases
          refine ⟨range :: ranges, beyond, by rw [hparsed]; rfl, ?_⟩
          intro position
          rw [List.exists_mem_cons_iff, List.exists_mem_cons_iff, hcovers, hcases.2 position]

/-! ## Merging -/

/-- Merging keeps the positions, if no range begins before the one it is merged with. -/
theorem mergeRanges_has (last : ByteRange size) (ranges : List (ByteRange size))
    (hsorted : (last :: ranges).Pairwise fun first second => first.start ≤ second.start)
    (position : ℕ) :
    (∃ range ∈ mergeRanges last ranges, range.Has position) ↔
      ∃ range ∈ last :: ranges, range.Has position := by
  induction ranges generalizing last with
  | nil => rfl
  | cons range ranges ih =>
      rw [List.pairwise_cons] at hsorted
      obtain ⟨hlast, hranges⟩ := hsorted
      have hstart := hlast range (List.mem_cons_self ..)
      rw [mergeRanges]
      split
      case isTrue hnear =>
        rw [ih]
        · simp only [List.exists_mem_cons_iff, ← or_assoc]
          apply or_congr_left
          simp only [ByteRange.Has]
          omega
        · rw [List.pairwise_cons] at hranges ⊢
          exact ⟨fun other hother => hlast other (List.mem_cons_of_mem _ hother), hranges.2⟩
      case isFalse =>
        rw [List.exists_mem_cons_iff, ih range hranges, List.exists_mem_cons_iff (l := range :: ranges)]

/-- Coalescing keeps the positions. -/
theorem coalesceRanges_has (ranges : List (ByteRange size)) (position : ℕ) :
    (∃ range ∈ coalesceRanges ranges, range.Has position) ↔
      ∃ range ∈ ranges, range.Has position := by
  have : Std.Total (@ByteRange.before size) := ⟨ByteRange.before_total⟩
  have : IsTrans (ByteRange size) ByteRange.before := ⟨fun _ _ _ => ByteRange.before_trans⟩
  have hsorted := List.pairwise_insertionSort ByteRange.before ranges
  have hperm := List.perm_insertionSort ByteRange.before ranges
  simp only [← hperm.mem_iff]
  rw [coalesceRanges]
  cases heq : ranges.insertionSort ByteRange.before with
  | nil => rfl
  | cons first rest =>
      rw [heq] at hsorted
      exact mergeRanges_has first rest
        (hsorted.imp fun hbefore => hbefore.elim Nat.le_of_lt fun heq => heq.1.le) position

/-- Every range has a position. -/
theorem ByteRange.has_start (range : ByteRange size) : range.Has range.start :=
  ⟨le_refl _, range.start_le_stop⟩

/-- There is nothing to coalesce if there are no ranges. -/
theorem coalesceRanges_eq_nil (ranges : List (ByteRange size)) :
    coalesceRanges ranges = [] ↔ ranges = [] := by
  constructor
  · intro hnil
    apply List.eq_nil_iff_forall_not_mem.mpr
    intro range hmem
    have hhas := (coalesceRanges_has ranges range.start).mpr ⟨range, hmem, range.has_start⟩
    rw [hnil] at hhas
    obtain ⟨other, hother, -⟩ := hhas
    cases hother
  · rintro rfl
    rfl

/-- Ranges in order are pairwise apart. -/
theorem pairwise_apart {ranges : List (ByteRange size)}
    (hchain : ranges.IsChain ByteRange.Apart) : ranges.Pairwise ByteRange.Apart := by
  have : IsTrans (ByteRange size) ByteRange.Apart := by
    constructor
    intro first second third hfirst hsecond
    have hsecondStart := second.start_le_stop
    rw [ByteRange.Apart] at *
    omega
  exact List.isChain_iff_pairwise.mp hchain

/-! ## Texts of digits -/

/-- A digit is no white space. -/
theorem not_isStrSpace_of_isDigit {byte : UInt8} (hdigit : isDigit byte) : ¬ isStrSpace byte := by
  have hspace := not_isSpace_of_isDigit hdigit
  simp only [isDigit, Bool.and_eq_true, decide_eq_true_eq, UInt8.le_iff_toNat_le] at hdigit
  simp only [isStrSpace, Bool.or_eq_true, Bool.and_eq_true, decide_eq_true_eq, hspace,
    UInt8.le_iff_toNat_le, ← UInt8.toNat_inj, Bool.false_eq_true, false_or, UInt8.reduceToNat]
  simp only [UInt8.reduceToNat] at hdigit
  omega

theorem isStrSpace_of_isIntSpace {byte : UInt8} (hspace : isIntSpace byte) : isStrSpace byte := by
  simp only [isIntSpace, Bool.or_eq_true] at hspace
  simp only [isStrSpace, Bool.or_eq_true]
  exact hspace.imp_left (Or.imp_left .inl)

/-- Digits are read by `int` as what they denote, if at all. -/
theorem eq_of_lenient? {text : Bytes} {value read : ℕ} (hdecimal : decimal? text = some value)
    (hread : lenient? text = some read) : read = value := by
  obtain ⟨hne, hdigits, -⟩ := decimal?_eq_some.mp hdecimal
  have hspace : ∀ byte ∈ text, ¬ isIntSpace byte := fun byte hmem hspace =>
    not_isStrSpace_of_isDigit (hdigits byte hmem) (isStrSpace_of_isIntSpace hspace)
  have hstrip : stripWhile isIntSpace text = text := by
    simpa using @stripWhile_padded isIntSpace [] text [] (by simp) (by simp) hne hspace
  rw [lenient?_eq_some, readStrInt, hstrip, readInt_of_decimal? hdecimal] at hread
  split at hread
  case isTrue => exact (Int.ofNat.inj (Option.some.inj hread)).symm
  case isFalse => cases hread

/-- A text is a spec by what is before and after its first dash. -/
theorem specText_iff {number : Bytes → Option ℕ} {before after : Bytes}
    (hdash : 45 ∉ before) {spec : Spec} :
    SpecText number (before ++ 45 :: after) spec ↔
      match spec with
      | .bounded first last _ => number before = some first ∧ number after = some last
      | .onwards first => number before = some first ∧ after = []
      | .suffix length _ => before = [] ∧ number after = some length := by
  have hsame : ∀ {other rest : Bytes}, 45 ∉ other → before ++ 45 :: after = other ++ 45 :: rest →
      before = other ∧ after = rest := by
    intro other rest hother heq
    obtain ⟨hbefore, hafter⟩ := split_dash hdash after
    obtain ⟨hotherBefore, hotherAfter⟩ := split_dash hother rest
    rw [heq] at hbefore hafter
    exact ⟨hbefore.symm.trans hotherBefore, hafter.symm.trans hotherAfter⟩
  constructor
  · intro htext
    generalize htextEq : before ++ 45 :: after = text at htext
    cases htext with
    | bounded hother hfirst hlast hle =>
        obtain ⟨rfl, rfl⟩ := hsame hother htextEq
        exact ⟨hfirst, hlast⟩
    | onwards hother hfirst =>
        obtain ⟨rfl, rfl⟩ := hsame hother htextEq
        exact ⟨hfirst, rfl⟩
    | suffix hlength hpos =>
        obtain ⟨rfl, rfl⟩ := hsame (List.not_mem_nil : 45 ∉ ([] : Bytes)) htextEq
        exact ⟨rfl, hlength⟩
  · intro hspec
    cases spec with
    | bounded first last hle => exact .bounded hdash hspec.1 hspec.2 hle
    | onwards first =>
        obtain ⟨hfirst, rfl⟩ := hspec
        exact .onwards hdash hfirst
    | suffix length hpos =>
        obtain ⟨rfl, hlength⟩ := hspec
        exact .suffix hlength hpos

/-- What the parser takes a valid text for is what it says. -/
theorem SpecText.unique {text : Bytes} {spec read : Spec} (hstrict : SpecText decimal? text spec)
    (hread : SpecText lenient? text read) : read = spec := by
  have hnone : ∀ {value : ℕ}, ¬ (decimal? [] = some value) := nofun
  have hnoneRead : ∀ {value : ℕ}, ¬ (lenient? [] = some value) := by
    intro value hvalue
    cases lenient?_nil.symm.trans hvalue
  cases hstrict with
  | bounded hdash hfirst hlast hle =>
      rw [specText_iff hdash] at hread
      cases read with
      | bounded first last hreadLe =>
          obtain rfl := eq_of_lenient? hfirst hread.1
          obtain rfl := eq_of_lenient? hlast hread.2
          rfl
      | onwards first =>
          rw [hread.2] at hlast
          exact absurd hlast hnone
      | suffix length hpos =>
          rw [hread.1] at hfirst
          exact absurd hfirst hnone
  | onwards hdash hfirst =>
      rw [specText_iff hdash] at hread
      cases read with
      | bounded first last hreadLe => exact absurd hread.2 hnoneRead
      | onwards first =>
          obtain rfl := eq_of_lenient? hfirst hread.1
          rfl
      | suffix length hpos =>
          rw [hread.1] at hfirst
          exact absurd hfirst hnone
  | suffix hlength hpos =>
      rw [← List.nil_append (45 :: _), specText_iff List.not_mem_nil] at hread
      cases read with
      | bounded first last hreadLe => exact absurd hread.1 hnoneRead
      | onwards first => exact absurd hread.1 hnoneRead
      | suffix length hreadPos =>
          obtain rfl := eq_of_lenient? hlength hread.2
          rfl

/-- A valid text consists of digits and dashes. -/
theorem SpecText.bytes {text : Bytes} {spec : Spec} (htext : SpecText decimal? text spec) :
    text ≠ [] ∧ ∀ byte ∈ text, isDigit byte ∨ byte = 45 := by
  have hdigits : ∀ {number : Bytes} {value : ℕ}, decimal? number = some value →
      ∀ byte ∈ number, isDigit byte ∨ byte = 45 := fun hdecimal byte hmem =>
    .inl ((decimal?_eq_some.mp hdecimal).2.1 byte hmem)
  cases htext with
  | bounded _ hfirst hlast _ =>
      refine ⟨by simp, ?_⟩
      intro byte hmem
      rcases List.mem_append.mp hmem with hbefore | hrest
      · exact hdigits hfirst byte hbefore
      · rcases List.mem_cons.mp hrest with rfl | hafter
        · exact .inr rfl
        · exact hdigits hlast byte hafter
  | onwards _ hfirst =>
      refine ⟨by simp, ?_⟩
      intro byte hmem
      rcases List.mem_append.mp hmem with hbefore | hrest
      · exact hdigits hfirst byte hbefore
      · exact .inr (List.mem_singleton.mp hrest)
  | suffix hlength _ =>
      refine ⟨by simp, ?_⟩
      intro byte hmem
      rcases List.mem_cons.mp hmem with rfl | hafter
      · exact .inr rfl
      · exact hdigits hlength byte hafter

/-- The parts of a valid list are the texts of its specs, but for white space. -/
theorem SpecList.parts {body : Bytes} {specs : List Spec} (hlist : SpecList body specs)
    {padding : Bytes} (hpadding : ∀ byte ∈ padding, isOws byte) :
    List.Forall₂ (fun part spec => SpecText decimal? (stripWhile isStrSpace part) spec)
      ((padding ++ body).splitOn 44) specs := by
  have hows : ∀ byte, isOws byte → isStrSpace byte ∧ byte ≠ 44 := by
    intro byte hbyte
    rcases (by simpa [isOws] using hbyte : byte = 32 ∨ byte = 9) with rfl | rfl <;> decide
  have hplain : ∀ byte, (isDigit byte ∨ byte = 45) → ¬ isStrSpace byte ∧ byte ≠ 44 := by
    rintro byte (hdigit | rfl)
    · refine ⟨not_isStrSpace_of_isDigit hdigit, ?_⟩
      rintro rfl
      cases hdigit
    · decide
  have hstrip : ∀ {text : Bytes} {spec : Spec} {before after : Bytes},
      SpecText decimal? text spec → (∀ byte ∈ before, isOws byte) →
      (∀ byte ∈ after, isOws byte) → stripWhile isStrSpace (before ++ (text ++ after)) = text ∧
        44 ∉ before ++ (text ++ after) := by
    intro text spec before after htext hbefore hafter
    obtain ⟨hne, hbytes⟩ := htext.bytes
    constructor
    · apply stripWhile_padded _ _ hne
      · exact fun byte hmem => (hplain byte (hbytes byte hmem)).1
      · exact fun byte hmem => (hows byte (hbefore byte hmem)).1
      · exact fun byte hmem => (hows byte (hafter byte hmem)).1
    · intro hmem
      rcases List.mem_append.mp hmem with hcomma | hmem
      · exact (hows 44 (hbefore 44 hcomma)).2 rfl
      rcases List.mem_append.mp hmem with hcomma | hcomma
      · exact (hplain 44 (hbytes 44 hcomma)).2 rfl
      · exact (hows 44 (hafter 44 hcomma)).2 rfl
  induction hlist generalizing padding with
  | single htext =>
      have hnothing : ∀ byte ∈ ([] : Bytes), isOws byte :=
        fun _ hmem => absurd hmem List.not_mem_nil
      obtain ⟨hpart, hcomma⟩ := hstrip htext hpadding hnothing
      rw [List.append_nil] at hpart hcomma
      rw [List.splitOn_eq_singleton hcomma]
      exact .cons (by rwa [hpart]) .nil
  | @cons text before after rest spec specs htext hbefore hafter hrest ih =>
      obtain ⟨hpart, hcomma⟩ := hstrip htext hpadding hbefore
      have hsplit : padding ++ (text ++ (before ++ 44 :: (after ++ rest))) =
          (padding ++ (text ++ before)) ++ 44 :: (after ++ rest) := by
        simp only [List.append_assoc]
      rw [hsplit, List.splitOn_append_cons_self_of_not_mem hcomma]
      exact .cons (by rwa [hpart]) (ih hafter)

/-! ## Headers -/

/-- The parts of a header, for the parser. -/
def partsOf (header : Bytes) : List Bytes := (header.drop 6).splitOn 44

/-- The header comes to what it says: the positions that the file has of the ones it asks for, as
ranges in order and apart, or that there are none. If it is not valid it is ignored. -/
structure ReadsRange (size : ℕ) (header : Bytes) : Prop where
  satisfiable : ∀ specs, RangeSet header specs → (∃ spec ∈ specs, spec.Satisfiable size) →
    ∃ first rest, parseRangeHeader size header = .satisfiable first rest ∧
      (first :: rest).Pairwise ByteRange.Apart ∧
      ∀ position, (∃ range ∈ first :: rest, range.Has position) ↔
        ∃ spec ∈ specs, spec.Covers size position
  unsatisfiable : parseRangeHeader size header = .unsatisfiable ↔
    ∃ specs, RangeSet header specs ∧ ∀ spec ∈ specs, ¬ spec.Satisfiable size
  ignored : (∀ specs, ¬ RangeSet header specs) → parseRangeHeader size header = .ignored

/-- The parser tolerates a valid header: its unit is in lower case, and it can make sense of the
parts, unless the file is empty. -/
def HonoursValid (size : ℕ) (header : Bytes) : Prop :=
  ascii "bytes=" <+: header ∧ (size = 0 ∨ ∀ part ∈ partsOf header, Tolerated size part)

/-- The parser does not tolerate any other header: the unit is another one, or there are too many
parts, or a part it can make no sense of, and the file is not empty. -/
def RefusesInvalid (size : ℕ) (header : Bytes) : Prop :=
  ascii "bytes=" <+: header → 0 < size ∧
    (maxRanges < (partsOf header).length ∨ ∃ part ∈ partsOf header, ¬ Tolerated size part)

variable {header : Bytes}

/-- Headers for other units are ignored. -/
theorem parseRangeHeader_of_not_bytes (hunit : ¬ ascii "bytes=" <+: header) :
    parseRangeHeader size header = .ignored := by
  rw [parseRangeHeader, if_pos hunit]

/-- An empty file has nothing to ask for. -/
theorem parseRangeHeader_empty (hunit : ascii "bytes=" <+: header) :
    parseRangeHeader 0 header = .unsatisfiable := by
  rw [parseRangeHeader, if_neg (not_not.mpr hunit), if_pos rfl]

/-- Otherwise a header is read part by part. -/
theorem parseRangeHeader_eq (hunit : ascii "bytes=" <+: header) (hsize : 0 < size) :
    parseRangeHeader size header =
      if maxRanges < (partsOf header).length then .ignored
      else
        match parseSpecs size (partsOf header) with
        | none => .ignored
        | some (ranges, beyond) =>
            match coalesceRanges ranges with
            | [] => if beyond then .unsatisfiable else .ignored
            | first :: rest => .satisfiable first rest := by
  rw [parseRangeHeader, if_neg (not_not.mpr hunit), if_neg hsize.ne']
  rfl

/-- A header is ignored if it has too many parts, or a part the parser can make no sense of. -/
theorem parseRangeHeader_ignored_iff (hunit : ascii "bytes=" <+: header) (hsize : 0 < size) :
    parseRangeHeader size header = .ignored ↔
      maxRanges < (partsOf header).length ∨ ∃ part ∈ partsOf header, ¬ Tolerated size part := by
  simp only [← parseRangeSpec_malformed_iff hsize]
  rw [← parseSpecs_eq_none, parseRangeHeader_eq hunit hsize]
  by_cases hmany : maxRanges < (partsOf header).length
  · rw [if_pos hmany]
    exact iff_of_true rfl (.inl hmany)
  · rw [if_neg hmany, or_iff_right hmany]
    cases hparsed : parseSpecs size (partsOf header) with
    | none => exact iff_of_true rfl rfl
    | some pair =>
        obtain ⟨ranges, beyond⟩ := pair
        apply iff_of_false
        · dsimp only
          cases hranges : coalesceRanges ranges with
          | nil =>
              have hne : partsOf header ≠ [] := List.splitOn_ne_nil _ _
              obtain ⟨part, parts, hparts⟩ := List.exists_cons_of_ne_nil hne
              rw [hparts] at hparsed
              have hbeyond : beyond = true := by
                apply (parseSpecs_cons hparsed).resolve_left
                exact not_not.mpr ((coalesceRanges_eq_nil ranges).mp hranges)
              simp [hbeyond]
          | cons first rest => nofun
        · nofun

/-- What follows the unit of a valid header. -/
theorem drop_unit {unit body : Bytes} (hunit : lower unit = ascii "bytes") :
    (unit ++ 61 :: body).drop 6 = body := by
  have hlength : unit.length = 5 := by
    have hlower := congrArg List.length hunit
    rw [lower, List.length_map] at hlower
    exact hlower
  rw [List.drop_append, hlength, List.drop_eq_nil_of_le (by omega)]
  rfl

/-- What a valid header comes to where the parser tolerates it. -/
theorem parseRangeHeader_of_rangeSet {specs : List Spec} (hset : RangeSet header specs)
    (hhonours : HonoursValid size header) :
    (parseRangeHeader size header = .unsatisfiable ∧ ∀ spec ∈ specs, ¬ spec.Satisfiable size) ∨
      ∃ first rest, parseRangeHeader size header = .satisfiable first rest ∧
        (first :: rest).Pairwise ByteRange.Apart ∧
        ∀ position, (∃ range ∈ first :: rest, range.Has position) ↔
          ∃ spec ∈ specs, spec.Covers size position := by
  obtain ⟨hunit, hparts⟩ := hhonours
  obtain rfl | hsize := Nat.eq_zero_or_pos size
  · left
    refine ⟨parseRangeHeader_empty hunit, ?_⟩
    rintro spec - ⟨position, hcovers⟩
    cases spec <;> exact absurd hcovers.1 (Nat.not_lt_zero _)
  · have htolerated := hparts.resolve_left hsize.ne'
    obtain ⟨hmany, unit, body, hlower, rfl, hlist⟩ := hset
    have hforall := hlist.parts (show ∀ byte ∈ ([] : Bytes), isOws byte from nofun)
    rw [List.nil_append] at hforall
    have hpartsOf : partsOf (unit ++ 61 :: body) = body.splitOn 44 := by
      rw [partsOf, drop_unit hlower]
    rw [hpartsOf] at htolerated
    have hread : List.Forall₂ (fun part spec => parseRangeSpec size part = spec.outcome size ∧
        ¬ spec.Beyond size) (body.splitOn 44) specs := by
      apply List.Forall₂.imp _ ((List.forall₂_and_left _ _).mpr ⟨htolerated, hforall⟩)
      rintro part spec ⟨⟨read, htext, hwithin⟩, hstrict⟩
      obtain rfl := hstrict.unique htext
      exact ⟨parseRangeSpec_of_specText htext, hwithin⟩
    obtain ⟨ranges, beyond, hparsed, hcovers⟩ := parseSpecs_covers hsize hread
    have hresult := parseRangeHeader_eq hunit hsize
    rw [hpartsOf, hforall.length_eq, if_neg (by omega), hparsed] at hresult
    dsimp only at hresult
    cases hranges : coalesceRanges ranges with
    | nil =>
        left
        obtain rfl := (coalesceRanges_eq_nil ranges).mp hranges
        have hbeyond : beyond = true := by
          obtain ⟨part, parts, hcons⟩ := List.exists_cons_of_ne_nil (List.splitOn_ne_nil 44 body)
          rw [hcons] at hparsed
          exact (parseSpecs_cons hparsed).resolve_left (not_not.mpr rfl)
        rw [hranges, hbeyond] at hresult
        refine ⟨hresult, ?_⟩
        rintro spec hmem ⟨position, hposition⟩
        obtain ⟨range, hrange, -⟩ := (hcovers position).mpr ⟨spec, hmem, hposition⟩
        cases hrange
    | cons first rest =>
        right
        rw [hranges] at hresult
        refine ⟨first, rest, hresult, pairwise_apart (parseRangeHeader_apart hresult), ?_⟩
        intro position
        rw [← hranges, coalesceRanges_has, hcovers]

/-- A header comes to what it says exactly if the parser tolerates it where it is valid, and only
there. -/
theorem range_header_iff (size : ℕ) (header : Bytes) :
    ReadsRange size header ↔
      ((∃ specs, RangeSet header specs) → HonoursValid size header) ∧
        ((∀ specs, ¬ RangeSet header specs) → RefusesInvalid size header) := by
  constructor
  · intro hreads
    constructor
    · rintro ⟨specs, hset⟩
      have hhonoured : parseRangeHeader size header ≠ .ignored := by
        by_cases hsatisfiable : ∃ spec ∈ specs, spec.Satisfiable size
        · obtain ⟨first, rest, hparsed, -⟩ := hreads.satisfiable specs hset hsatisfiable
          rw [hparsed]
          nofun
        · have hnone : ∀ spec ∈ specs, ¬ spec.Satisfiable size := by
            intro spec hmem hspec
            exact hsatisfiable ⟨spec, hmem, hspec⟩
          rw [hreads.unsatisfiable.mpr ⟨specs, hset, hnone⟩]
          nofun
      have hunit : ascii "bytes=" <+: header := by
        by_contra hother
        exact hhonoured (parseRangeHeader_of_not_bytes hother)
      refine ⟨hunit, ?_⟩
      obtain hempty | hsize := Nat.eq_zero_or_pos size
      · exact .inl hempty
      · right
        intro part hmem
        by_contra hmalformed
        exact hhonoured ((parseRangeHeader_ignored_iff hunit hsize).mpr
          (.inr ⟨part, hmem, hmalformed⟩))
    · intro hinvalid hunit
      have hignored := hreads.ignored hinvalid
      obtain rfl | hsize := Nat.eq_zero_or_pos size
      · rw [parseRangeHeader_empty hunit] at hignored
        cases hignored
      · exact ⟨hsize, (parseRangeHeader_ignored_iff hunit hsize).mp hignored⟩
  · rintro ⟨hvalid, hinvalid⟩
    have hignored : (∀ specs, ¬ RangeSet header specs) →
        parseRangeHeader size header = .ignored := by
      intro hnone
      by_cases hunit : ascii "bytes=" <+: header
      · obtain ⟨hsize, hrefused⟩ := hinvalid hnone hunit
        exact (parseRangeHeader_ignored_iff hunit hsize).mpr hrefused
      · exact parseRangeHeader_of_not_bytes hunit
    constructor
    case satisfiable =>
      rintro specs hset ⟨spec, hmem, hspec⟩
      obtain ⟨-, hnone⟩ | hparsed := parseRangeHeader_of_rangeSet hset (hvalid ⟨specs, hset⟩)
      · exact absurd hspec (hnone spec hmem)
      · exact hparsed
    case unsatisfiable =>
      constructor
      · intro hparsed
        by_cases hset : ∃ specs, RangeSet header specs
        · obtain ⟨specs, hspecs⟩ := hset
          obtain ⟨-, hnone⟩ | ⟨first, rest, hother, -⟩ :=
            parseRangeHeader_of_rangeSet hspecs (hvalid ⟨specs, hspecs⟩)
          · exact ⟨specs, hspecs, hnone⟩
          · rw [hparsed] at hother
            cases hother
        · rw [hignored (not_exists.mp hset)] at hparsed
          cases hparsed
      · rintro ⟨specs, hset, hnone⟩
        obtain ⟨hparsed, -⟩ | ⟨first, rest, -, -, hcovers⟩ :=
          parseRangeHeader_of_rangeSet hset (hvalid ⟨specs, hset⟩)
        · exact hparsed
        · obtain ⟨spec, hmem, hspec⟩ := (hcovers first.start).mp
            ⟨first, List.mem_cons_self .., first.has_start⟩
          exact absurd ⟨_, hspec⟩ (hnone spec hmem)
    case ignored => exact hignored

/-- An open-ended spec that begins behind the end is ignored, not refused. -/
theorem range_header_onwards : ¬ ∀ (size : ℕ) (header : Bytes), ReadsRange size header := by
  intro hall
  have hset : RangeSet (ascii "bytes=5-") [.onwards 5] := by
    refine ⟨by decide, ascii "bytes", ascii "5-", rfl, rfl, ?_⟩
    have htext : SpecText decimal? (ascii "5" ++ [45]) (.onwards 5) := .onwards (by decide) rfl
    exact .single htext
  have hnone : ∀ spec ∈ [Spec.onwards 5], ¬ spec.Satisfiable 3 := by
    rintro spec hmem ⟨position, hcovers⟩
    obtain rfl := List.mem_singleton.mp hmem
    exact absurd (hcovers.2.trans_lt hcovers.1) (by decide)
  have hrefused := (hall 3 (ascii "bytes=5-")).unsatisfiable.mpr ⟨_, hset, hnone⟩
  have hignored : parseRangeHeader 3 (ascii "bytes=5-") = .ignored := by
    rfl
  rw [hignored] at hrefused
  cases hrefused

end Pounce.Static
