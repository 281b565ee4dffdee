/-
# Byte strings

The byte-string vocabulary of a line-oriented wire protocol: ASCII literals and
letter case, CRLF lines, optional white space, decimal numerals, and the lenient
integer reader a dynamic language offers in their place. The last two are kept
apart on purpose. `decimal?` reads one or more digits and nothing else;
`readInt` also takes a sign, digit separators and any ASCII white space around
the numeral, so every strict numeral is a lenient one and the converse fails.
-/

import Mathlib.Data.List.DropRight
import Mathlib.Tactic.Common
import Pounce.Math.Slice

namespace Pounce.Math

/-- A byte string. -/
abbrev Bytes := List UInt8

/-- Byte strings are compared lawfully; the lists of names below are searched with this. -/
instance : LawfulBEq Bytes := inferInstanceAs (LawfulBEq (List UInt8))

namespace Bytes

/-- The bytes of an ASCII literal. -/
def ascii (text : String) : Bytes := text.toList.map fun char => UInt8.ofNat char.toNat

/-- The character of a byte has its value. -/
theorem toNat_charOfByte (byte : UInt8) : (Char.ofNat byte.toNat).toNat = byte.toNat := by
  have hvalid : byte.toNat.isValidChar := .inl (by have := byte.toNat_lt; omega)
  rw [Char.ofNat, dif_pos hvalid]
  rfl

/-- The byte of a small character has its value. -/
theorem toNat_byteOfChar {char : Char} (hlt : char.toNat < 256) :
    (UInt8.ofNat char.toNat).toNat = char.toNat := by
  rw [UInt8.toNat_ofNat']
  omega

/-- The UTF-8 encoding of a text. -/
def utf8 (text : String) : Bytes := text.toList.flatMap String.utf8EncodeChar

/-- The ASCII lower-case form of one byte. -/
def lowerByte (byte : UInt8) : UInt8 :=
  if 65 ≤ byte ∧ byte ≤ 90 then byte + 32 else byte

/-- ASCII lower case; bytes outside `A`–`Z` are unchanged. -/
def lower (bytes : Bytes) : Bytes := bytes.map lowerByte

/-- A byte below the letters has no other case. -/
theorem lowerByte_eq_iff {low : UInt8} (hlow : low < 65) {byte : UInt8} :
    lowerByte byte = low ↔ byte = low := by
  simp only [lowerByte]
  split
  case isTrue hupper =>
    simp only [UInt8.le_iff_toNat_le, UInt8.lt_iff_toNat_lt, ← UInt8.toNat_inj, UInt8.toNat_add,
      UInt8.reduceToNat] at *
    omega
  case isFalse => exact Iff.rfl

/-- Lowering creates and removes no byte below the letters. -/
theorem mem_lower_iff {low : UInt8} (hlow : low < 65) {bytes : Bytes} :
    low ∈ lower bytes ↔ low ∈ bytes := by
  simp [lower, lowerByte_eq_iff hlow]

theorem lowerByte_lowerByte (byte : UInt8) : lowerByte (lowerByte byte) = lowerByte byte := by
  simp only [lowerByte]
  split
  case isTrue hupper =>
    apply if_neg
    simp only [UInt8.le_iff_toNat_le, UInt8.toNat_add, UInt8.reduceToNat] at *
    omega
  case isFalse => rfl

@[simp]
theorem lower_lower (name : Bytes) : lower (lower name) = lower name := by
  rw [lower, lower, List.map_map]
  apply List.map_congr_left
  intro byte _
  exact lowerByte_lowerByte byte

/-- `needle` occurs in `bytes`. -/
def contains (needle bytes : Bytes) : Bool := (findSlice needle bytes).isSome

theorem contains_iff {needle bytes : Bytes} : contains needle bytes = true ↔ needle <:+: bytes := by
  rw [contains, ← Option.not_isNone, Bool.not_eq_true', ← Bool.not_eq_true,
    Option.isNone_iff_eq_none, findSlice_eq_none, not_not]

/-- What occurs in a byte string occurs in lower case in its lower-case form. -/
theorem contains_lower {needle bytes : Bytes} (hcontains : contains needle bytes = true) :
    contains (lower needle) (lower bytes) = true :=
  contains_iff.mpr ((contains_iff.mp hcontains).map lowerByte)

/-- ASCII white space: space, tab, line feed, vertical tab, form feed, return. -/
def isSpace (byte : UInt8) : Bool := byte = 32 || (9 ≤ byte && byte ≤ 13)

/-- Drop leading ASCII white space. -/
def lstrip (bytes : Bytes) : Bytes := bytes.dropWhile isSpace

/-- Optional white space of a header field: space or horizontal tab. -/
def isOws (byte : UInt8) : Bool := byte = 32 || byte = 9

/-- Drop the bytes satisfying `pad` at both ends. -/
def stripWhile (pad : UInt8 → Bool) (bytes : Bytes) : Bytes :=
  (bytes.rdropWhile pad).dropWhile pad

/-- Drop ASCII white space at both ends. -/
def strip (bytes : Bytes) : Bytes := stripWhile isSpace bytes

/-- Drop optional white space at both ends. -/
def trimOws (bytes : Bytes) : Bytes := stripWhile isOws bytes

theorem isSpace_of_isOws {byte : UInt8} (hows : isOws byte) : isSpace byte := by
  simp only [isOws, Bool.or_eq_true, decide_eq_true_eq] at hows
  rcases hows with rfl | rfl <;> decide

/-- Stripping removes padding only: what is left is surrounded by what went. -/
theorem stripWhile_split (pad : UInt8 → Bool) (bytes : Bytes) :
    ∃ before after : Bytes, bytes = before ++ (stripWhile pad bytes ++ after) ∧
      (∀ byte ∈ before, pad byte) ∧ ∀ byte ∈ after, pad byte := by
  refine ⟨(bytes.rdropWhile pad).takeWhile pad, bytes.rtakeWhile pad, ?_, ?_, ?_⟩
  · rw [stripWhile, ← List.append_assoc, List.takeWhile_append_dropWhile,
      List.rdropWhile_append_rtakeWhile]
  · exact fun byte hmem => List.mem_takeWhile_imp hmem
  · exact fun byte hmem => List.mem_rtakeWhile_imp hmem

/-- Stripping recovers a core that carries no padding of its own. -/
theorem stripWhile_padded {pad : UInt8 → Bool} {before core after : Bytes}
    (hbefore : ∀ byte ∈ before, pad byte) (hafter : ∀ byte ∈ after, pad byte)
    (hne : core ≠ []) (hcore : ∀ byte ∈ core, ¬ pad byte) :
    stripWhile pad (before ++ (core ++ after)) = core := by
  have hright : (before ++ (core ++ after)).rdropWhile pad = before ++ core := by
    rw [← List.append_assoc, List.rdropWhile, List.reverse_append,
      List.dropWhile_append_of_pos (by simpa using hafter)]
    refine List.rdropWhile_eq_self_iff.mpr fun hl => ?_
    rw [List.getLast_append_of_ne_nil _ hne]
    exact hcore _ (List.getLast_mem hne)
  rw [stripWhile, hright, List.dropWhile_append_of_pos (by simpa using hbefore)]
  cases core with
  | nil => exact absurd rfl hne
  | cons first rest =>
      rw [List.dropWhile_cons_of_neg (by simpa using hcore first (List.mem_cons_self ..))]

/-- Leading padding does not change what stripping leaves. -/
theorem stripWhile_append_left {pad : UInt8 → Bool} {before : Bytes}
    (hbefore : ∀ byte ∈ before, pad byte) (bytes : Bytes) :
    stripWhile pad (before ++ bytes) = stripWhile pad bytes := by
  have hright : (before ++ bytes).rdropWhile pad =
      if bytes.rdropWhile pad = [] then [] else before ++ bytes.rdropWhile pad := by
    simp only [List.rdropWhile, List.reverse_append, List.dropWhile_append, List.reverse_eq_nil_iff,
      List.isEmpty_iff]
    split
    · rw [List.reverse_eq_nil_iff, List.dropWhile_eq_nil_iff]
      simpa using hbefore
    · simp
  rw [stripWhile, stripWhile, hright]
  split
  case isTrue hnil => rw [hnil]
  case isFalse => exact List.dropWhile_append_of_pos hbefore

/-- Where neither end is padding there is nothing to strip. -/
theorem stripWhile_eq_self {pad : UInt8 → Bool} {bytes : Bytes}
    (hhead : ∀ byte ∈ bytes.head?, ¬ pad byte) (hlast : ∀ byte ∈ bytes.getLast?, ¬ pad byte) :
    stripWhile pad bytes = bytes := by
  have hright : bytes.rdropWhile pad = bytes := by
    refine List.rdropWhile_eq_self_iff.mpr fun hne => ?_
    exact hlast _ (List.getLast?_eq_some_getLast hne)
  rw [stripWhile, hright]
  cases bytes with
  | nil => rfl
  | cons first rest => exact List.dropWhile_cons_of_neg (hhead first rfl)

/-- There is nothing more to strip. -/
theorem stripWhile_stripWhile (pad : UInt8 → Bool) (bytes : Bytes) :
    stripWhile pad (stripWhile pad bytes) = stripWhile pad bytes := by
  have hright : (stripWhile pad bytes).rdropWhile pad = stripWhile pad bytes := by
    refine List.rdropWhile_eq_self_iff.mpr fun hne => ?_
    have hsuffix : stripWhile pad bytes <:+ bytes.rdropWhile pad := List.dropWhile_suffix _
    have hne' : bytes.rdropWhile pad ≠ [] := fun hnil => hne (List.suffix_nil.mp (hnil ▸ hsuffix))
    rw [hsuffix.getLast hne]
    exact List.rdropWhile_last_not pad bytes hne'
  rw [stripWhile, hright]
  exact List.dropWhile_idempotent ..

/-! ## Lines -/

/-- The line terminator. -/
def crlf : Bytes := [13, 10]

/-- Cut at every CRLF. A terminator at the very end does not open an empty last
line, and the empty string has no lines. -/
def lines : Bytes → List Bytes
  | [] => []
  | 13 :: 10 :: rest => [] :: lines rest
  | byte :: rest =>
      match lines rest with
      | [] => [[byte]]
      | line :: others => (byte :: line) :: others

/-- A byte that does not open a terminator moves the search one byte on. -/
private theorem findSlice_crlf_cons {byte : UInt8} {rest : Bytes}
    (hnot : ∀ tail, byte = 13 → rest = 10 :: tail → False) :
    findSlice crlf (byte :: rest) = (findSlice crlf rest).map (· + 1) := by
  have hhere : ¬ crlf <+: byte :: rest := by
    rintro ⟨tail, htail⟩
    simp only [crlf, List.cons_append, List.nil_append, List.cons.injEq] at htail
    exact hnot tail htail.1.symm htail.2.symm
  simp [findSlice, hhere]

/-- Lines are cut from the left: the first one ends at the first CRLF. -/
theorem lines_eq (bytes : Bytes) :
    lines bytes =
      if bytes = [] then []
      else match findSlice crlf bytes with
        | none => [bytes]
        | some index => bytes.take index :: lines (bytes.drop (index + 2)) := by
  induction bytes using lines.induct with
  | case1 => simp [lines]
  | case2 rest ih => simp [lines, crlf, findSlice]
  | case3 byte rest hnot hlines ih =>
      have hrest : rest = [] := by
        by_contra hne
        rw [if_neg hne, hlines] at ih
        split at ih <;> cases ih
      subst hrest
      simp [lines, findSlice, crlf]
  | case4 byte rest hnot line others hlines ih =>
      have hrest : rest ≠ [] := by
        rintro rfl
        simp [lines] at hlines
      rw [if_neg hrest, hlines] at ih
      rw [lines, hlines, if_neg (List.cons_ne_nil _ _), findSlice_crlf_cons hnot]
      · cases hfind : findSlice crlf rest with
        | none =>
            rw [hfind] at ih
            obtain ⟨rfl, rfl⟩ := List.cons.inj ih
            rfl
        | some index =>
            rw [hfind] at ih
            obtain ⟨rfl, rfl⟩ := List.cons.inj ih
            simp
      · exact hnot

/-- A line without CR ends at the line end that follows it. -/
theorem lines_append {line : Bytes} (hline : 13 ∉ line) (rest : Bytes) :
    lines (line ++ (crlf ++ rest)) = line :: lines rest := by
  have hfind : findSlice crlf (line ++ (crlf ++ rest)) = some line.length := by
    rw [crlf, findSlice_skip hline]
    simp [findSlice]
  rw [lines_eq, if_neg (by simp [crlf]), hfind]
  simp [crlf]

/-- A line without CR is the only one. -/
theorem lines_single {line : Bytes} (hline : 13 ∉ line) (hne : line ≠ []) : lines line = [line] := by
  have hfind : findSlice crlf line = none := by
    rw [findSlice_eq_none]
    intro hcrlf
    exact hline (hcrlf.subset (by decide))
  rw [lines_eq, if_neg hne, hfind]

/-! ## Numerals -/

/-- An ASCII digit. -/
def isDigit (byte : UInt8) : Bool := 48 ≤ byte && byte ≤ 57

/-- The value of an ASCII digit. -/
def digitValue (byte : UInt8) : ℕ := byte.toNat - 48

/-- Fold a run of digits into its value. -/
def decimalFrom (value : ℕ) (digits : Bytes) : ℕ :=
  digits.foldl (fun total digit => total * 10 + digitValue digit) value

/-- The value of a `1*DIGIT` numeral; anything else has none. -/
def decimal? (bytes : Bytes) : Option ℕ :=
  if bytes ≠ [] ∧ bytes.all isDigit then some (decimalFrom 0 bytes) else none

/-- The decimal numeral of a natural number. -/
def ofNat (value : ℕ) : Bytes :=
  (Nat.toDigits 10 value).map fun char => UInt8.ofNat char.toNat

/-- Read digits with single underscores between them. `afterDigit` records
whether the previous byte was a digit: an underscore and the end of the numeral
both require one. -/
def readDigits (value : ℕ) (afterDigit : Bool) : Bytes → Option ℕ
  | [] => if afterDigit then some value else none
  | byte :: rest =>
      if isDigit byte then readDigits (value * 10 + digitValue byte) true rest
      else if byte = 95 ∧ afterDigit then readDigits value false rest
      else none

/-- The largest number of digits an integer literal may carry at run time. -/
def maxIntDigits : ℕ := 4300

/-- Read the digits of an integer literal, within the run-time digit limit. -/
def readMagnitude (bytes : Bytes) : Option ℕ :=
  if bytes.countP isDigit ≤ maxIntDigits then readDigits 0 false bytes else none

/-- The lenient integer reader: white space around an optionally signed run of
digits and underscores. -/
def readInt (bytes : Bytes) : Option ℤ :=
  match strip bytes with
  | 43 :: rest => (readMagnitude rest).map fun value => (value : ℤ)
  | 45 :: rest => (readMagnitude rest).map fun value => -(value : ℤ)
  | rest => (readMagnitude rest).map fun value => (value : ℤ)

/-- Digits are not white space. -/
theorem not_isSpace_of_isDigit {byte : UInt8} (hdigit : isDigit byte) : ¬ isSpace byte := by
  simp only [isDigit, Bool.and_eq_true, decide_eq_true_eq] at hdigit
  simp only [isSpace, Bool.or_eq_true, Bool.and_eq_true, decide_eq_true_eq, not_or, not_and]
  have hlow := UInt8.le_iff_toNat_le.mp hdigit.1
  refine ⟨?_, fun _ hle => ?_⟩
  · rintro rfl
    exact absurd hlow (by decide)
  · have hhigh := UInt8.le_iff_toNat_le.mp hle
    exact absurd (hlow.trans hhigh) (by decide)

theorem decimal?_eq_some {bytes : Bytes} {value : ℕ} :
    decimal? bytes = some value ↔
      bytes ≠ [] ∧ (∀ byte ∈ bytes, isDigit byte) ∧ decimalFrom 0 bytes = value := by
  simp only [decimal?, Option.ite_none_right_eq_some, List.all_eq_true, Option.some.injEq,
    and_assoc]

/-- A run of digits reads as its decimal value. -/
theorem readDigits_of_isDigit {digits : Bytes} (hdigits : ∀ byte ∈ digits, isDigit byte)
    (value : ℕ) (afterDigit : Bool) (hnonempty : afterDigit ∨ digits ≠ []) :
    readDigits value afterDigit digits = some (decimalFrom value digits) := by
  induction digits generalizing value afterDigit with
  | nil =>
      have hafter : afterDigit = true := by simpa using hnonempty
      simp [readDigits, decimalFrom, hafter]
  | cons digit digits ih =>
      have hfirst : isDigit digit := hdigits digit (List.mem_cons_self ..)
      rw [readDigits, if_pos hfirst,
        ih (fun byte hmem => hdigits byte (List.mem_cons_of_mem _ hmem)) _ true (Or.inl rfl)]
      rfl

/-- A byte that is neither a digit nor a separator ends the reading. -/
theorem readDigits_eq_none {bytes : Bytes} {byte : UInt8} (hmem : byte ∈ bytes)
    (hdigit : ¬ isDigit byte) (hseparator : byte ≠ 95) (value : ℕ) (afterDigit : Bool) :
    readDigits value afterDigit bytes = none := by
  induction bytes generalizing value afterDigit with
  | nil => cases hmem
  | cons first rest ih =>
      rw [readDigits]
      obtain rfl | hrest := List.mem_cons.mp hmem
      · rw [if_neg hdigit, if_neg fun hboth => hseparator hboth.1]
      · rw [ih hrest, ih hrest, ite_self, ite_self]

/-- Without white space and sign, the lenient reader reads the digits. -/
theorem readInt_bare {bytes : Bytes} (hne : bytes ≠ [])
    (hspace : ∀ byte ∈ bytes, ¬ isSpace byte) (hplus : 43 ∉ bytes) (hminus : 45 ∉ bytes) :
    readInt bytes = (readMagnitude bytes).map fun value => (value : ℤ) := by
  have hstrip : strip bytes = bytes := by
    simpa [strip] using @stripWhile_padded isSpace [] bytes [] (by simp) (by simp) hne hspace
  rw [readInt, hstrip]
  split
  case h_1 rest => exact absurd (List.mem_cons_self ..) hplus
  case h_2 rest => exact absurd (List.mem_cons_self ..) hminus
  case h_3 => rfl

/-- The lenient reader reads a strict numeral, unless it is too long. -/
theorem readInt_of_decimal? {digits : Bytes} {value : ℕ} (hdecimal : decimal? digits = some value) :
    readInt digits = if digits.length ≤ maxIntDigits then some (value : ℤ) else none := by
  obtain ⟨hne, hdigits, rfl⟩ := decimal?_eq_some.mp hdecimal
  have hplus : 43 ∉ digits := fun hmem => absurd (hdigits 43 hmem) (by decide)
  have hminus : 45 ∉ digits := fun hmem => absurd (hdigits 45 hmem) (by decide)
  rw [readInt_bare hne (fun byte hmem => not_isSpace_of_isDigit (hdigits byte hmem)) hplus hminus,
    readMagnitude, List.countP_eq_length.mpr hdigits]
  split
  · rw [readDigits_of_isDigit hdigits 0 false (.inr hne)]
    rfl
  · rfl

/-- The lenient reader agrees with a strict numeral it accepts, whatever white
space surrounds it. -/
theorem readInt_padded {before digits after : Bytes} {value : ℕ} {read : ℤ}
    (hbefore : ∀ byte ∈ before, isSpace byte) (hafter : ∀ byte ∈ after, isSpace byte)
    (hdecimal : decimal? digits = some value)
    (hread : readInt (before ++ (digits ++ after)) = some read) : read = value := by
  obtain ⟨hne, hdigits, -⟩ := decimal?_eq_some.mp hdecimal
  have hspace : ∀ byte ∈ digits, ¬ isSpace byte := fun byte hmem =>
    not_isSpace_of_isDigit (hdigits byte hmem)
  have hpadded : strip (before ++ (digits ++ after)) = digits :=
    stripWhile_padded hbefore hafter hne hspace
  have hbare : strip digits = digits := by
    simpa [strip] using @stripWhile_padded isSpace [] digits [] (by simp) (by simp) hne hspace
  have hsame : readInt (before ++ (digits ++ after)) = readInt digits := by
    rw [readInt, readInt, hpadded, hbare]
  rw [hsame, readInt_of_decimal? hdecimal] at hread
  split at hread
  · exact (Option.some.inj hread).symm
  · cases hread

/-- The byte of a digit character is a digit, of the same value. -/
private theorem digit_of_isDigit_char {char : Char} (hdigit : char.isDigit) :
    isDigit (UInt8.ofNat char.toNat) ∧
      digitValue (UInt8.ofNat char.toNat) = char.toNat - '0'.toNat := by
  have hbounds := Char.isDigit_iff_toNat.mp hdigit
  obtain ⟨hlow, hhigh⟩ : 48 ≤ char.toNat ∧ char.toNat ≤ 57 := hbounds
  have hbyte : (UInt8.ofNat char.toNat).toNat = char.toNat := toNat_byteOfChar (by omega)
  constructor
  · simp only [isDigit, Bool.and_eq_true, decide_eq_true_eq, UInt8.le_iff_toNat_le, hbyte]
    exact ⟨hlow, hhigh⟩
  · rw [digitValue, hbyte]
    rfl

/-- Reading the bytes of digit characters is reading the characters. -/
private theorem decimalFrom_map_ofNat (chars : List Char) (hdigits : ∀ char ∈ chars, char.isDigit)
    (value : ℕ) :
    decimalFrom value (chars.map fun char => UInt8.ofNat char.toNat) =
      Nat.ofDigitChars 10 chars value := by
  induction chars generalizing value with
  | nil => simp [decimalFrom]
  | cons char chars ih =>
      have hfirst := (digit_of_isDigit_char (hdigits char (List.mem_cons_self ..))).2
      have hrest := ih (fun other hmem => hdigits other (List.mem_cons_of_mem _ hmem))
      rw [Nat.ofDigitChars_cons, ← hrest, ← hfirst, Nat.mul_comm 10 value]
      rfl

/-- Writing a number in decimal and reading it back gives the number. -/
theorem decimal?_ofNat (value : ℕ) : decimal? (ofNat value) = some value := by
  have hdigits : ∀ char ∈ Nat.toDigits 10 value, char.isDigit := fun char hmem =>
    Nat.isDigit_of_mem_toDigits (by decide) (by decide) hmem
  refine decimal?_eq_some.mpr ⟨?_, ?_, ?_⟩
  · simp [ofNat]
  · intro byte hmem
    obtain ⟨char, hchar, rfl⟩ := List.mem_map.mp hmem
    exact (digit_of_isDigit_char (hdigits char hchar)).1
  · rw [ofNat, decimalFrom_map_ofNat _ hdigits,
      Nat.ofDigitChars_toDigits (by decide) (by decide)]

end Bytes

end Pounce.Math
