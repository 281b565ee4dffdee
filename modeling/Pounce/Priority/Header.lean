/-
# The Priority header

A Priority header is a dictionary of structured fields, of which RFC 9218 reads two keys: `u`, an
integer between 0 and 7, and `i`, a boolean. `parsePriority` does not read dictionaries. It splits
the text at its commas and compares the pieces with two spellings, so that a member with
parameters, or with a boolean written out, says nothing to it, an earlier member counts if a later
one of the same key says nothing, and a piece of a quoted string may count.

`heard` is what the parser takes a dictionary to say, and `assigned` is what the dictionary says.
`parsePriority_iff` compares the two.
-/

import Pounce.Math.StructuredFields
import Pounce.Priority

namespace Pounce

open Pounce.Math Pounce.Math.Bytes Pounce.Math.StructuredFields

/-! ## What a dictionary says -/

/-- An integer in the range of urgencies. -/
def urgencyOf (value : ℤ) : Option ℕ := if 0 ≤ value ∧ value ≤ 7 then some value.toNat else none

/-- The priority that RFC 9218 assigns. -/
def assigned (dictionary : Dictionary) : StreamPriority where
  urgency :=
    match (dictionary.lookup (ascii "u")).bind Member.bare with
    | some (.integer value) => (urgencyOf value.toInt).getD 3
    | _ => 3
  incremental := (dictionary.lookup (ascii "i")).bind Member.bare = some (.boolean true)

/-! ## What the parser hears -/

/-- What a piece between commas can say to the parser. -/
inductive Cue where
  | urgency (value : ℕ)
  | incremental
  deriving DecidableEq, Repr

/-- The urgency in what follows `u=`. -/
def urgencyCue? (text : Bytes) : Option Cue :=
  ((readInt (stripWhile isTextSpace text)).bind urgencyOf).map .urgency

/-- What a piece says. -/
def cue? (piece : Bytes) : Option Cue :=
  let part := stripWhile isTextSpace piece
  if (ascii "u=").isPrefixOf part then urgencyCue? (part.drop 2)
  else if part = ascii "i" then some .incremental
  else none

/-- What a member says as it is spelled: `u` with an integer and `i` without a value, both without
parameters. -/
def literal : Member → Option Cue
  | .item key ⟨.integer value, []⟩ =>
      if key.text = ascii "u" then (urgencyOf value.toInt).map .urgency else none
  | .flag key [] => if key.text = ascii "i" then some .incremental else none
  | _ => none

/-- What is heard of a dictionary: the members as they are spelled, and what is between two commas
of one string. -/
def heard (dictionary : Dictionary) : List Cue :=
  dictionary.toList.flatMap fun member =>
    (literal member).toList ++ readInside cue? member.segments

/-- The urgencies among cues. -/
def urgencies (cues : List Cue) : List ℕ :=
  cues.filterMap fun
    | .urgency value => some value
    | .incremental => none

/-- A priority after a cue. -/
def StreamPriority.hear (priority : StreamPriority) : Cue → StreamPriority
  | .urgency value => { priority with urgency := value }
  | .incremental => { priority with incremental := true }

theorem StreamPriority.readMember_eq (priority : StreamPriority) (piece : Bytes) :
    priority.readMember piece = ((cue? piece).map priority.hear).getD priority := by
  rw [readMember, cue?]
  split
  case isTrue =>
    simp only [urgencyCue?]
    cases readInt (stripWhile isTextSpace ((stripWhile isTextSpace piece).drop 2)) with
    | none => rfl
    | some value =>
        simp only [urgencyOf, Option.bind_some]
        split <;> rfl
  case isFalse =>
    split <;> rfl

/-- The last urgency counts, and any cue of an incremental response. -/
theorem foldl_hear (cues : List Cue) (priority : StreamPriority) :
    cues.foldl StreamPriority.hear priority =
      { urgency := (urgencies cues).getLast?.getD priority.urgency,
        incremental := priority.incremental || decide (.incremental ∈ cues) } := by
  induction cues generalizing priority with
  | nil => simp [urgencies]
  | cons cue cues ih =>
      rw [List.foldl_cons, ih]
      cases cue with
      | urgency value => simp [urgencies, StreamPriority.hear, List.getLast?_cons]
      | incremental => simp [urgencies, StreamPriority.hear]

theorem parsePriority_eq (value : Bytes) :
    parsePriority value = ((value.splitOn 44).filterMap cue?).foldl StreamPriority.hear {} := by
  rw [parsePriority, List.foldl_filterMap]
  congr 1
  funext priority piece
  rw [priority.readMember_eq]
  cases cue? piece <;> rfl

/-! ## Pieces -/

section Pieces

/-- A byte that no integer is read with, however lenient the reader. -/
def Unreadable (byte : UInt8) : Prop :=
  isDigit byte = false ∧ byte ≠ 95 ∧ byte ≠ 43 ∧ byte ≠ 45 ∧ isTextSpace byte = false

instance (byte : UInt8) : Decidable (Unreadable byte) := inferInstanceAs (Decidable (_ ∧ _))

theorem unreadable_of_isTokenStart {byte : UInt8} (hstart : isTokenStart byte = true) :
    Unreadable byte := by
  simp only [isTokenStart, isAlpha, isLower, Unreadable, isDigit, isTextSpace, isSpace,
    Bool.or_eq_true, Bool.and_eq_true, Bool.or_eq_false_iff, Bool.and_eq_false_iff,
    decide_eq_true_eq, decide_eq_false_iff_not, UInt8.le_iff_toNat_le, ← UInt8.toNat_inj, ne_eq,
    UInt8.reduceToNat] at hstart ⊢
  omega

theorem not_isTextSpace_of_isKeyByte {byte : UInt8} (hkey : isKeyByte byte = true) :
    isTextSpace byte = false := by
  simp only [isKeyByte, isKeyStart, isLower, isDigit, isTextSpace, isSpace, Bool.or_eq_true,
    Bool.and_eq_true, Bool.or_eq_false_iff, Bool.and_eq_false_iff, decide_eq_true_eq,
    decide_eq_false_iff_not, UInt8.le_iff_toNat_le, ← UInt8.toNat_inj,
    UInt8.reduceToNat] at hkey ⊢
  omega

theorem not_isTextSpace_of_isKeyStart {byte : UInt8} (hkey : isKeyStart byte = true) :
    isTextSpace byte = false :=
  not_isTextSpace_of_isKeyByte (by simp [isKeyByte, hkey])

/-- Stripping keeps every byte that is no padding. -/
theorem mem_stripWhile {pad : UInt8 → Bool} {byte : UInt8} {text : Bytes} (hmem : byte ∈ text)
    (hbyte : pad byte = false) : byte ∈ stripWhile pad text := by
  obtain ⟨before, after, htext, hbefore, hafter⟩ := stripWhile_split pad text
  rw [htext, List.mem_append, List.mem_append] at hmem
  rcases hmem with hmem | hmem | hmem
  · exact absurd (hbefore byte hmem) (by simp [hbyte])
  · exact hmem
  · exact absurd (hafter byte hmem) (by simp [hbyte])

theorem stripWhile_append_right {pad : UInt8 → Bool} {after : Bytes}
    (hafter : ∀ byte ∈ after, pad byte = true) (text : Bytes) :
    stripWhile pad (text ++ after) = stripWhile pad text := by
  rw [stripWhile, stripWhile, List.rdropWhile, List.rdropWhile, List.reverse_append,
    List.dropWhile_append_of_pos (by simpa using hafter)]

/-- Of a text that does not begin with padding, only its end goes. -/
theorem stripWhile_cons {pad : UInt8 → Bool} {first : UInt8} (hfirst : pad first = false)
    (rest : Bytes) :
    ∃ kept after, stripWhile pad (first :: rest) = first :: kept ∧ rest = kept ++ after ∧
      ∀ byte ∈ after, pad byte = true := by
  have hright : (first :: rest).rdropWhile pad = first :: rest.rdropWhile pad := by
    rw [← List.singleton_append, List.rdropWhile, List.reverse_append, List.dropWhile_append]
    split
    case isTrue hnil =>
      have hrest : rest.rdropWhile pad = [] := by
        rw [List.rdropWhile, List.isEmpty_iff.mp hnil]
        rfl
      simp [hrest, hfirst]
    case isFalse => simp [List.rdropWhile]
  refine ⟨rest.rdropWhile pad, rest.rtakeWhile pad, ?_, ?_, ?_⟩
  · rw [stripWhile, hright, List.dropWhile_cons_of_neg (by simp [hfirst])]
  · rw [List.rdropWhile_append_rtakeWhile]
  · exact fun byte hmem => List.mem_rtakeWhile_imp hmem

/-- No integer is read where there is an unreadable byte. -/
theorem readInt_unreadable {byte : UInt8} {text : Bytes} (hmem : byte ∈ text)
    (hbyte : Unreadable byte) : readInt text = none := by
  obtain ⟨hdigit, hseparator, hplus, hminus, hspace⟩ := hbyte
  have hstripped : byte ∈ strip text := by
    apply mem_stripWhile hmem
    rw [isTextSpace, Bool.or_eq_false_iff] at hspace
    exact hspace.1
  have hnone : ∀ digits : Bytes, byte ∈ digits → readMagnitude digits = none := by
    intro digits hdigits
    rw [readMagnitude, readDigits_eq_none hdigits (by simp [hdigit]) hseparator, ite_self]
  rw [readInt]
  split
  case h_1 rest heq =>
    rw [heq] at hstripped
    rw [hnone rest ((List.mem_cons.mp hstripped).resolve_left hplus)]
    rfl
  case h_2 rest heq =>
    rw [heq] at hstripped
    rw [hnone rest ((List.mem_cons.mp hstripped).resolve_left hminus)]
    rfl
  case h_3 =>
    rw [hnone _ hstripped]
    rfl

theorem urgencyCue?_unreadable {byte : UInt8} {text : Bytes} (hmem : byte ∈ text)
    (hbyte : Unreadable byte) : urgencyCue? text = none := by
  rw [urgencyCue?, readInt_unreadable (mem_stripWhile hmem hbyte.2.2.2.2) hbyte]
  rfl

/-- The bytes of an integer are no padding. -/
theorem not_isTextSpace_of_integer (value : Integer) :
    ∀ byte ∈ value.text, isTextSpace byte = false := by
  intro byte hmem
  have hdigit : ∀ byte, isDigit byte = true → isTextSpace byte = false := by
    intro byte hdigit
    simp only [isDigit, isTextSpace, isSpace, Bool.and_eq_true, Bool.or_eq_false_iff,
      Bool.and_eq_false_iff, decide_eq_true_eq, decide_eq_false_iff_not, UInt8.le_iff_toNat_le,
      ← UInt8.toNat_inj, UInt8.reduceToNat] at hdigit ⊢
    omega
  rw [Integer.text, List.mem_append] at hmem
  rcases hmem with hsign | hmem
  · rw [sign] at hsign
    split at hsign
    · rw [List.mem_singleton.mp hsign]
      rfl
    · cases hsign
  · exact hdigit byte (List.all_eq_true.mp value.all byte hmem)

/-- An integer is read as what it is. -/
theorem readInt_integer (value : Integer) : readInt value.text = some value.toInt := by
  have hdecimal : decimal? value.digits = some (decimalFrom 0 value.digits) :=
    decimal?_eq_some.mpr ⟨value.nonempty, List.all_eq_true.mp value.all, rfl⟩
  have hread := readInt_of_decimal? hdecimal
  have hshort : value.digits.length ≤ maxIntDigits := value.length.2.trans (by decide)
  rw [if_pos hshort] at hread
  cases hnegative : value.negative with
  | false => simpa [Integer.text, sign, hnegative, Integer.toInt] using hread
  | true =>
      have htext : value.text = 45 :: value.digits := by simp [Integer.text, sign, hnegative]
      have hbytes : ∀ byte ∈ value.text, ¬ isSpace byte = true := by
        intro byte hmem
        have hspace := not_isTextSpace_of_integer value byte hmem
        rw [isTextSpace, Bool.or_eq_false_iff] at hspace
        simp [hspace.1]
      have hstrip : strip value.text = 45 :: value.digits := by
        rw [← htext]
        simpa [strip] using @stripWhile_padded isSpace [] value.text [] (by simp) (by simp)
          (by simp [htext]) hbytes
      have hmagnitude : readMagnitude value.digits = some (decimalFrom 0 value.digits) := by
        rw [readMagnitude, List.countP_eq_length.mpr (List.all_eq_true.mp value.all),
          if_pos hshort,
          readDigits_of_isDigit (List.all_eq_true.mp value.all) 0 false (.inr value.nonempty)]
      rw [readInt, hstrip]
      simp [hmagnitude, Integer.toInt, hnegative]

theorem urgencyCue?_integer (value : Integer) :
    urgencyCue? value.text = (urgencyOf value.toInt).map .urgency := by
  have hne : value.text ≠ [] := by simp [Integer.text, value.nonempty]
  have hstrip : stripWhile isTextSpace value.text = value.text := by
    simpa using @stripWhile_padded isTextSpace [] value.text [] (by simp) (by simp) hne
      (by simpa using not_isTextSpace_of_integer value)
  rw [urgencyCue?, hstrip, readInt_integer]
  rfl

/-- A piece with a quotation mark says nothing. -/
theorem cue?_quotation {piece : Bytes} (hmem : 34 ∈ piece) : cue? piece = none := by
  have hpart : 34 ∈ stripWhile isTextSpace piece := mem_stripWhile hmem rfl
  rw [cue?]
  split
  case isTrue hstarts =>
    obtain ⟨more, hmore⟩ := List.isPrefixOf_iff_prefix.mp hstarts
    rw [← hmore, List.mem_append] at hpart
    rw [← hmore]
    exact urgencyCue?_unreadable (hpart.resolve_left (by decide)) (by decide)
  case isFalse =>
    have hne : stripWhile isTextSpace piece ≠ ascii "i" := by
      intro heq
      rw [heq] at hpart
      exact absurd hpart (by decide)
    rw [if_neg hne]

section Stripped

variable {rest kept after : Bytes} (key : Key) (hsplit : key.rest ++ rest = kept ++ after)
  (hafter : ∀ byte ∈ after, isTextSpace byte = true)

include hsplit hafter

/-- A piece without the spaces at its end begins with `u=` if its key is `u` and has a value. -/
theorem isPrefixOf_member :
    (ascii "u=").isPrefixOf (key.first :: kept) = true ↔
      key.text = ascii "u" ∧ rest.head? = some 61 := by
  constructor
  · intro hstarts
    -- the key is `u`, since no key has an equals sign
    have hequals : 61 ∉ key.rest := fun hmem =>
      absurd (List.all_eq_true.mp key.all 61 hmem) (by decide)
    obtain ⟨more, hmore⟩ := List.isPrefixOf_iff_prefix.mp hstarts
    obtain ⟨hfirst, hkept⟩ := List.cons.inj hmore
    rw [← hkept] at hsplit
    cases hnone : key.rest with
    | cons byte bytes =>
        rw [hnone] at hsplit hequals
        exact absurd (List.cons.inj hsplit).1 fun heq => hequals (heq ▸ List.mem_cons_self ..)
    | nil =>
        rw [hnone] at hsplit
        exact ⟨by rw [Key.text, hnone, ← hfirst]; rfl, by rw [show rest = _ from hsplit]; rfl⟩
  · rintro ⟨hu, hhead⟩
    obtain ⟨hfirst, hnone⟩ : key.first = 117 ∧ key.rest = [] := List.cons.inj hu
    rw [hnone, List.nil_append] at hsplit
    cases hkept : kept with
    | nil =>
        rw [hkept, List.nil_append] at hsplit
        rw [hsplit] at hhead
        exact absurd (hafter 61 (List.mem_of_mem_head? hhead)) (by decide)
    | cons byte bytes =>
        rw [hsplit, hkept] at hhead
        obtain rfl : byte = 61 := Option.some.inj hhead
        rw [hfirst]
        rfl

/-- It is `i` if there is nothing but this key. -/
theorem eq_incremental_member (hrest : ∀ byte ∈ rest.head?, byte = 59 ∨ byte = 61) :
    key.first :: kept = ascii "i" ↔ key.text = ascii "i" ∧ rest = [] := by
  constructor
  · intro hi
    obtain ⟨hfirst, hkept⟩ : key.first = 105 ∧ kept = [] := List.cons.inj hi
    rw [hkept, List.nil_append] at hsplit
    have hpadding : ∀ byte ∈ key.rest ++ rest, isTextSpace byte = true := hsplit ▸ hafter
    have hnone : key.rest = [] := by
      refine List.eq_nil_iff_forall_not_mem.mpr fun byte hmem => ?_
      have hspace := hpadding byte (List.mem_append_left _ hmem)
      rw [not_isTextSpace_of_isKeyByte (List.all_eq_true.mp key.all byte hmem)] at hspace
      cases hspace
    refine ⟨by rw [Key.text, hnone, hfirst]; rfl, ?_⟩
    cases hcons : rest with
    | nil => rfl
    | cons byte bytes =>
        have hspace := hpadding byte (by simp [hcons])
        have hbyte := hrest byte (by simp [hcons])
        rcases hbyte with rfl | rfl <;> exact absurd hspace (by decide)
  · rintro ⟨hi, rfl⟩
    obtain ⟨hfirst, hnone⟩ : key.first = 105 ∧ key.rest = [] := List.cons.inj hi
    rw [hnone] at hsplit
    obtain ⟨hkept, -⟩ := List.append_eq_nil_iff.mp hsplit.symm
    rw [hfirst, hkept]
    rfl

end Stripped

/-- Of a member, it depends on what is behind the key. -/
theorem cue?_member (key : Key) {rest : Bytes}
    (hrest : ∀ byte ∈ rest.head?, byte = 59 ∨ byte = 61) :
    cue? (key.text ++ rest) =
      if key.text = ascii "u" ∧ rest.head? = some 61 then urgencyCue? rest.tail
      else if key.text = ascii "i" ∧ rest = [] then some .incremental
      else none := by
  have hkey : isTextSpace key.first = false := not_isTextSpace_of_isKeyStart key.start
  obtain ⟨kept, after, hstrip, hsplit, hafter⟩ := stripWhile_cons hkey (key.rest ++ rest)
  have htext : key.text ++ rest = key.first :: (key.rest ++ rest) := rfl
  have hstarts := isPrefixOf_member key hsplit hafter
  rw [cue?, htext, hstrip]
  simp only [hstarts, eq_incremental_member key hsplit hafter hrest]
  split
  case isFalse => rfl
  case isTrue hcondition =>
    -- what is left of the value is the value, up to spaces
    obtain ⟨more, hmore⟩ := List.isPrefixOf_iff_prefix.mp (hstarts.mpr hcondition)
    obtain ⟨-, hkept⟩ := List.cons.inj hmore
    obtain ⟨-, hnone⟩ : key.first = 117 ∧ key.rest = [] := List.cons.inj hcondition.1
    rw [hnone, ← hkept] at hsplit
    have htail : rest.tail = more ++ after := by
      rw [show rest = _ from hsplit]
      rfl
    rw [htail, urgencyCue?, urgencyCue?, stripWhile_append_right hafter, ← hkept]
    rfl

end Pieces

/-! ## Members -/

section Members

/-- Behind a key comes a semicolon, an equals sign or nothing. -/
theorem head?_valueSegments (member : Member) :
    ∀ byte ∈ (textOf member.valueSegments).head?, byte = 59 ∨ byte = 61 := by
  intro byte hhead
  cases member with
  | flag key parameters =>
      cases parameters with
      | nil => cases hhead
      | cons parameter parameters => exact .inl (Option.some.inj hhead).symm
  | item | innerList => exact .inr (Option.some.inj hhead).symm

/-- An urgency is read from an integer without parameters, and from no other item. -/
theorem urgencyCue?_item (item : Item) :
    urgencyCue? (textOf item.segments) =
      match item with
      | ⟨.integer value, []⟩ => (urgencyOf value.toInt).map .urgency
      | _ => none := by
  obtain ⟨bare, parameters⟩ := item
  have hbare : ∀ byte ∈ textOf bare.segments, byte ∈ textOf (Item.segments ⟨bare, parameters⟩) := by
    intro byte hmem
    rw [Item.segments, textOf, List.flatMap_append]
    exact List.mem_append_left _ hmem
  cases parameters with
  | cons parameter parameters =>
      have hnone : urgencyCue? (textOf (Item.segments ⟨bare, parameter :: parameters⟩)) = none := by
        refine @urgencyCue?_unreadable 59 _ ?_ (by decide)
        simp [Item.segments, textOf, Parameter.segments, Segment.text]
      cases bare <;> exact hnone
  | nil =>
      cases bare with
      | integer value =>
          have htext : textOf (Item.segments ⟨.integer value, []⟩) = value.text := by
            simp [Item.segments, BareItem.segments, textOf, Segment.text]
          rw [htext]
          exact urgencyCue?_integer value
      | decimal value =>
          refine @urgencyCue?_unreadable 46 _ (hbare 46 ?_) (by decide)
          simp [BareItem.segments, textOf, Segment.text]
      | string content =>
          refine @urgencyCue?_unreadable 34 _ (hbare 34 ?_) (by decide)
          simp [BareItem.segments, textOf, Segment.text]
      | token value =>
          refine urgencyCue?_unreadable (hbare value.first ?_) (unreadable_of_isTokenStart value.start)
          simp [BareItem.segments, textOf, Segment.text]
      | binary encoded =>
          refine @urgencyCue?_unreadable 58 _ (hbare 58 ?_) (by decide)
          simp [BareItem.segments, textOf, Segment.text]
      | boolean value =>
          refine @urgencyCue?_unreadable 63 _ (hbare 63 ?_) (by decide)
          simp [BareItem.segments, textOf, Segment.text]

/-- What the text of a member says, taken as one piece. -/
theorem cue?_text (member : Member) : cue? member.text = literal member := by
  have htext : member.text = member.key.text ++ textOf member.valueSegments := rfl
  rw [htext, cue?_member member.key (head?_valueSegments member)]
  cases member with
  | flag key parameters =>
      cases parameters with
      | nil => simp [Member.key, Member.valueSegments, textOf, literal]
      | cons parameter parameters =>
          simp [Member.valueSegments, textOf, Parameter.segments, Segment.text, literal]
  | innerList key opening items parameters =>
      have hparenthesis : urgencyCue?
          (textOf (Member.innerList key opening items parameters).valueSegments).tail = none := by
        refine @urgencyCue?_unreadable 40 _ ?_ (by decide)
        simp [Member.valueSegments, textOf, Segment.text]
      rw [hparenthesis]
      simp [Member.valueSegments, textOf, Segment.text, literal]
  | item key value =>
      have hvalue : textOf (Member.item key value).valueSegments = 61 :: textOf value.segments := rfl
      rw [hvalue, List.tail_cons, urgencyCue?_item]
      obtain ⟨bare, parameters⟩ := value
      cases parameters <;> cases bare <;> simp [literal, Member.key]

/-- A member with a string is not spelled literally. -/
theorem literal_of_quoted {member : Member} {content : Bytes}
    (hquoted : .quoted content ∈ member.segments) : literal member = none := by
  unfold literal
  split
  case h_1 => simp [Member.segments, Member.valueSegments, Item.segments, BareItem.segments] at hquoted
  case h_2 => simp [Member.segments, Member.valueSegments] at hquoted
  case h_3 => rfl

/-- What is heard of a member between white space. -/
theorem filterMap_member {before after : Bytes} (hbefore : ∀ byte ∈ before, isOws byte = true)
    (hafter : ∀ byte ∈ after, isOws byte = true) (member : Member) :
    ((before ++ (member.text ++ after)).splitOn 44).filterMap cue? =
      (literal member).toList ++ readInside cue? member.segments := by
  have hpadding : ∀ byte, isOws byte = true → byte ≠ 44 ∧ isTextSpace byte = true := by
    intro byte hows
    refine ⟨?_, by rw [isTextSpace, isSpace_of_isOws hows]; rfl⟩
    rintro rfl
    cases hows
  have hbeforeComma : 44 ∉ before := fun hmem => (hpadding 44 (hbefore 44 hmem)).1 rfl
  have hafterComma : 44 ∉ after := fun hmem => (hpadding 44 (hafter 44 hmem)).1 rfl
  by_cases hquoted : ∃ content, .quoted content ∈ member.segments
  case pos =>
    obtain ⟨content, hmem⟩ := hquoted
    have htext : member.text ++ after = textOf (member.segments ++ [.plain after]) := by
      simp [Member.text, textOf, Segment.text]
    have hplain : CommasQuoted (member.segments ++ [.plain after]) :=
      member.commasQuoted.append (commasQuoted_single hafterComma)
    rw [literal_of_quoted hmem, htext, filterMap_splitOn (fun _ => cue?_quotation) hplain
      ⟨content, List.mem_append_left _ hmem⟩ hbeforeComma]
    simp [readInside]
  case neg =>
    have hplain : ∀ segment ∈ member.segments, ∃ text, segment = .plain text := by
      intro segment hmem
      cases segment with
      | plain text => exact ⟨text, rfl⟩
      | quoted content => exact absurd ⟨content, hmem⟩ hquoted
    have hinside : readInside cue? member.segments = [] := by
      rw [readInside, List.flatMap_eq_nil_iff]
      intro segment hmem
      obtain ⟨text, rfl⟩ := hplain segment hmem
      rfl
    have hcomma : 44 ∉ member.text := by
      intro hmem
      obtain ⟨segment, hsegment, hbyte⟩ := List.mem_flatMap.mp hmem
      obtain ⟨text, rfl⟩ := hplain segment hsegment
      exact member.commasQuoted text hsegment hbyte
    have hpiece : cue? (before ++ (member.text ++ after)) = literal member := by
      rw [← cue?_text, cue?, cue?,
        stripWhile_append_left fun byte hmem => (hpadding byte (hbefore byte hmem)).2,
        stripWhile_append_right fun byte hmem => (hpadding byte (hafter byte hmem)).2]
    rw [List.splitOn_eq_singleton (by simp [hbeforeComma, hcomma, hafterComma]), hinside,
      List.append_nil]
    cases hliteral : literal member with
    | none => rw [List.filterMap_cons_none (hpiece.trans hliteral)]; rfl
    | some cue => rw [List.filterMap_cons_some (hpiece.trans hliteral)]; rfl

end Members

/-! ## Dictionaries -/

/-- What is heard of the members of a dictionary. -/
theorem filterMap_members {before trailing : Bytes} (hbefore : ∀ byte ∈ before, isOws byte = true)
    (htrailing : ∀ byte ∈ trailing, isOws byte = true) (first : Member)
    (others : List (Ows × Ows × Member)) :
    ((before ++ (first.text ++ (Dictionary.othersText others ++ trailing))).splitOn 44).filterMap
        cue? =
      (first :: others.map fun (_, _, member) => member).flatMap fun member =>
        (literal member).toList ++ readInside cue? member.segments := by
  induction others generalizing before first with
  | nil =>
      rw [Dictionary.othersText, List.flatMap_nil, List.nil_append,
        filterMap_member hbefore htrailing]
      simp
  | cons other others ih =>
      obtain ⟨ahead, behind, member⟩ := other
      have htext : before ++ (first.text ++
            (Dictionary.othersText ((ahead, behind, member) :: others) ++ trailing)) =
          (before ++ (first.text ++ ahead.1)) ++
            44 :: (behind.1 ++ (member.text ++ (Dictionary.othersText others ++ trailing))) := by
        simp [Dictionary.othersText]
      rw [htext, List.splitOn_append_cons_self, List.filterMap_append,
        filterMap_member hbefore (List.all_eq_true.mp ahead.2), ih (List.all_eq_true.mp behind.2)]
      rfl

/-- What the parser hears is what is heard of the members. -/
theorem filterMap_text (dictionary : Dictionary) :
    (dictionary.text.splitOn 44).filterMap cue? = heard dictionary := by
  have hspaces : ∀ count, ∀ byte ∈ spaces count, isOws byte = true := by
    intro count byte hmem
    rw [List.eq_of_mem_replicate hmem]
    rfl
  obtain ⟨leading, members, trailing⟩ := dictionary
  rw [heard, Dictionary.toList, Dictionary.text]
  cases members with
  | none =>
      have hcomma : 44 ∉ spaces leading ++ [] ++ spaces trailing := by simp [spaces]
      have hsilent : cue? (spaces leading ++ [] ++ spaces trailing) = none := by
        have hspace : ∀ count, ∀ byte ∈ spaces count, isTextSpace byte = true := by
          intro count byte hmem
          rw [List.eq_of_mem_replicate hmem]
          rfl
        rw [cue?, stripWhile_append_right (hspace trailing), stripWhile_append_left (hspace leading)]
        rfl
      rw [List.splitOn_eq_singleton hcomma, List.filterMap_cons_none hsilent]
      rfl
  | some members =>
      obtain ⟨first, others⟩ := members
      simp only [List.append_assoc]
      exact filterMap_members (hspaces leading) (hspaces trailing) first others

theorem parsePriority_text (dictionary : Dictionary) :
    parsePriority dictionary.text =
      { urgency := (urgencies (heard dictionary)).getLast?.getD 3,
        incremental := decide (.incremental ∈ heard dictionary) } := by
  rw [parsePriority_eq, filterMap_text, foldl_hear]
  rfl

/-- An urgency is always in range. -/
theorem parsePriority_urgency_le (value : Bytes) : (parsePriority value).urgency ≤ 7 := by
  have hmember : ∀ (priority : StreamPriority) piece, priority.urgency ≤ 7 →
      (priority.readMember piece).urgency ≤ 7 := by
    intro priority piece hle
    rw [StreamPriority.readMember]
    split
    · split
      · exact hle
      case h_2 value _ =>
        split
        · show value.toNat ≤ 7
          omega
        · exact hle
    · split <;> exact hle
  have hbase : ({} : StreamPriority).urgency ≤ 7 := by decide
  rw [parsePriority]
  exact List.foldlRecOn (motive := fun priority : StreamPriority => priority.urgency ≤ 7) _ _ hbase
    fun priority hle piece _ => hmember priority piece hle

/-- A dictionary is read right exactly if the last urgency heard is the one assigned, and an
incremental response is heard of if one is assigned. Any text gives an urgency in range. -/
theorem parsePriority_iff (dictionary : Dictionary) (value : Bytes) :
    (parsePriority dictionary.text = assigned dictionary ↔
      (urgencies (heard dictionary)).getLast?.getD 3 = (assigned dictionary).urgency ∧
        (.incremental ∈ heard dictionary ↔ (assigned dictionary).incremental = true)) ∧
      (parsePriority value).urgency ≤ 7 := by
  refine ⟨?_, parsePriority_urgency_le value⟩
  rw [parsePriority_text]
  obtain ⟨urgency, incremental⟩ := assigned dictionary
  rw [StreamPriority.mk.injEq]
  cases incremental <;> simp

/-- `i=?1` assigns an incremental response, and the parser does not hear of it. -/
theorem parsePriority_boolean :
    ¬ ((∀ dictionary : Dictionary, parsePriority dictionary.text = assigned dictionary) ∧
      ∀ value : Bytes, (parsePriority value).urgency ≤ 7) := by
  intro hclaim
  have hwrong := hclaim.1
    { members := some (.item { first := 105, rest := [] } { bare := .boolean true }, []) }
  revert hwrong
  decide

end Pounce
