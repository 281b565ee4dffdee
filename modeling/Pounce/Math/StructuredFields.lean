/-
# Structured fields

Dictionaries of structured field values (RFC 8941), as they are spelled: members, each a key with
a value and parameters, with commas between them. A value is taken apart as far as its spelling
goes, so that a dictionary has one text and every valid text comes from a dictionary.

Commas separate members, but a quoted string may have commas of its own. `filterMap_splitOn` says
what a reader gets that splits at all of them: apart from the pieces that hold a quotation mark,
it reads the pieces inside single strings.
-/

import Pounce.Math.Bytes

namespace Pounce.Math.StructuredFields

open Pounce.Math.Bytes

/-! ## Bytes -/

def isLower (byte : UInt8) : Bool := 97 ≤ byte && byte ≤ 122

def isAlpha (byte : UInt8) : Bool := isLower byte || (65 ≤ byte && byte ≤ 90)

/-- `lcalpha / "*"`. -/
def isKeyStart (byte : UInt8) : Bool := isLower byte || byte = 42

/-- `lcalpha / DIGIT / "_" / "-" / "." / "*"`. -/
def isKeyByte (byte : UInt8) : Bool :=
  isKeyStart byte || isDigit byte || byte = 95 || byte = 45 || byte = 46

/-- `ALPHA / "*"`. -/
def isTokenStart (byte : UInt8) : Bool := isAlpha byte || byte = 42

/-- `tchar / ":" / "/"`. -/
def isTokenByte (byte : UInt8) : Bool :=
  isAlpha byte || isDigit byte || byte ∈ ascii "!#$%&'*+-.^_|~:/" || byte = 96

/-- `ALPHA / DIGIT / "+" / "/" / "="`. -/
def isBase64 (byte : UInt8) : Bool := isAlpha byte || isDigit byte || byte ∈ ascii "+/="

/-- `%x20-21 / %x23-5B / %x5D-7E`. -/
def isUnescaped (byte : UInt8) : Bool := 32 ≤ byte && byte ≤ 126 && byte ≠ 34 && byte ≠ 92

/-! ## Syntax -/

/-- `key`. -/
structure Key where
  first : UInt8
  rest : Bytes
  start : isKeyStart first = true := by decide
  all : rest.all isKeyByte = true := by decide
  deriving DecidableEq

/-- `sf-integer`. -/
structure Integer where
  negative : Bool := false
  digits : Bytes
  all : digits.all isDigit = true := by decide
  length : 1 ≤ digits.length ∧ digits.length ≤ 15 := by decide
  deriving DecidableEq

theorem Integer.nonempty (value : Integer) : value.digits ≠ [] :=
  List.ne_nil_of_length_pos value.length.1

/-- `sf-decimal`. -/
structure Decimal where
  negative : Bool := false
  whole : Bytes
  fraction : Bytes
  all : (whole ++ fraction).all isDigit = true := by decide
  wholeLength : 1 ≤ whole.length ∧ whole.length ≤ 12 := by decide
  fractionLength : 1 ≤ fraction.length ∧ fraction.length ≤ 3 := by decide
  deriving DecidableEq

/-- `chr`: a byte as it is, or a quotation mark or a backslash behind a backslash. -/
inductive StringByte where
  | unescaped (byte : UInt8) (plain : isUnescaped byte = true)
  | escaped (byte : UInt8) (special : byte = 34 ∨ byte = 92)
  deriving DecidableEq

/-- `sf-token`. -/
structure Token where
  first : UInt8
  rest : Bytes
  start : isTokenStart first = true := by decide
  all : rest.all isTokenByte = true := by decide
  deriving DecidableEq

/-- What is between the colons of `sf-binary`. -/
structure Encoded where
  text : Bytes
  all : text.all isBase64 = true := by decide
  deriving DecidableEq

/-- `bare-item`. -/
inductive BareItem where
  | integer (value : Integer)
  | decimal (value : Decimal)
  | string (content : List StringByte)
  | token (value : Token)
  | binary (encoded : Encoded)
  | boolean (value : Bool)
  deriving DecidableEq

/-- A parameter, behind a semicolon and some spaces. -/
structure Parameter where
  padding : ℕ := 0
  key : Key
  value : Option BareItem := none
  deriving DecidableEq

/-- `sf-item`. -/
structure Item where
  bare : BareItem
  parameters : List Parameter := []
  deriving DecidableEq

/-- The inside of an inner list: the first item and the others, each with the spaces before it
that there are besides the one there has to be. -/
structure InnerItems where
  first : Item
  others : List (ℕ × Item) := []
  closing : ℕ := 0
  deriving DecidableEq

/-- `dict-member`. -/
inductive Member where
  | flag (key : Key) (parameters : List Parameter)
  | item (key : Key) (value : Item)
  | innerList (key : Key) (opening : ℕ) (items : Option InnerItems) (parameters : List Parameter)
  deriving DecidableEq

/-- `OWS`. -/
abbrev Ows := { bytes : Bytes // bytes.all isOws = true }

/-- `sf-dictionary`, with spaces around it. The members after the first have a comma before them,
and optional white space on both sides of that. -/
structure Dictionary where
  leading : ℕ := 0
  members : Option (Member × List (Ows × Ows × Member)) := none
  trailing : ℕ := 0

/-! ## Text -/

/-- A part of a text: one without quotation marks, or a quoted string. -/
inductive Segment where
  | plain (text : Bytes)
  | quoted (content : Bytes)
  deriving DecidableEq

def Segment.text : Segment → Bytes
  | .plain text => text
  | .quoted content => 34 :: (content ++ [34])

/-- The text of segments. -/
def textOf (segments : List Segment) : Bytes := segments.flatMap Segment.text

/-- `SP`, so many times. -/
def spaces (count : ℕ) : Bytes := List.replicate count 32

def Key.text (key : Key) : Bytes := key.first :: key.rest

/-- A minus sign, or none. -/
def sign (negative : Bool) : Bytes := if negative then [45] else []

def Integer.text (value : Integer) : Bytes := sign value.negative ++ value.digits

def Integer.toInt (value : Integer) : ℤ :=
  if value.negative then -(decimalFrom 0 value.digits : ℤ) else decimalFrom 0 value.digits

def StringByte.text : StringByte → Bytes
  | .unescaped byte _ => [byte]
  | .escaped byte _ => [92, byte]

def BareItem.segments : BareItem → List Segment
  | .integer value => [.plain value.text]
  | .decimal value => [.plain (sign value.negative ++ value.whole ++ 46 :: value.fraction)]
  | .string content => [.quoted (content.flatMap StringByte.text)]
  | .token value => [.plain (value.first :: value.rest)]
  | .binary encoded => [.plain (58 :: (encoded.text ++ [58]))]
  | .boolean value => [.plain [63, if value then 49 else 48]]

def Parameter.segments (parameter : Parameter) : List Segment :=
  .plain (59 :: (spaces parameter.padding ++ parameter.key.text)) ::
    match parameter.value with
    | none => []
    | some value => .plain [61] :: value.segments

def Item.segments (item : Item) : List Segment :=
  item.bare.segments ++ item.parameters.flatMap Parameter.segments

def InnerItems.segments (items : InnerItems) : List Segment :=
  items.first.segments ++
    items.others.flatMap (fun (count, item) => .plain (spaces (count + 1)) :: item.segments) ++
    [.plain (spaces items.closing)]

namespace Member

def key : Member → Key
  | .flag key _ | .item key _ | .innerList key _ _ _ => key

/-- What a member has behind its key. -/
def valueSegments : Member → List Segment
  | .flag _ parameters => parameters.flatMap Parameter.segments
  | .item _ value => .plain [61] :: value.segments
  | .innerList _ opening items parameters =>
      .plain (61 :: 40 :: spaces opening) :: ((items.map InnerItems.segments).getD [] ++
        .plain [41] :: parameters.flatMap Parameter.segments)

def segments (member : Member) : List Segment := .plain member.key.text :: member.valueSegments

def text (member : Member) : Bytes := textOf member.segments

/-- The value of a member that has no inner list; without a value it is true. -/
def bare : Member → Option BareItem
  | .flag _ _ => some (.boolean true)
  | .item _ value => some value.bare
  | .innerList .. => none

end Member

namespace Dictionary

variable (dictionary : Dictionary)

/-- The text behind the first member. -/
def othersText (others : List (Ows × Ows × Member)) : Bytes :=
  others.flatMap fun (before, after, member) => before.1 ++ 44 :: (after.1 ++ member.text)

def text : Bytes :=
  spaces dictionary.leading ++
    (match dictionary.members with
      | none => []
      | some (first, others) => first.text ++ othersText others) ++
    spaces dictionary.trailing

/-- The members in order. -/
def toList : List Member :=
  match dictionary.members with
  | none => []
  | some (first, others) => first :: others.map fun (_, _, member) => member

/-- The member of a key is the last one with it. -/
def lookup (key : Bytes) : Option Member :=
  (dictionary.toList.filter fun member => member.key.text = key).getLast?

end Dictionary

/-! ## Splitting at commas -/

section Commas

/-- The commas are inside of strings. -/
def CommasQuoted (segments : List Segment) : Prop := ∀ text, .plain text ∈ segments → 44 ∉ text

theorem CommasQuoted.cons {text : Bytes} (htext : 44 ∉ text) {segments : List Segment}
    (hsegments : CommasQuoted segments) : CommasQuoted (.plain text :: segments) := by
  intro other hmem
  rcases List.mem_cons.mp hmem with heq | hmem
  · rwa [Segment.plain.inj heq]
  · exact hsegments other hmem

theorem CommasQuoted.append {first second : List Segment} (hfirst : CommasQuoted first)
    (hsecond : CommasQuoted second) : CommasQuoted (first ++ second) := fun text hmem =>
  (List.mem_append.mp hmem).elim (hfirst text) (hsecond text)

theorem CommasQuoted.flatMap {α : Type*} {parts : List α} {segments : α → List Segment}
    (hparts : ∀ part ∈ parts, CommasQuoted (segments part)) :
    CommasQuoted (parts.flatMap segments) := by
  intro text hmem
  obtain ⟨part, hpart, hmem⟩ := List.mem_flatMap.mp hmem
  exact hparts part hpart text hmem

theorem commasQuoted_nil : CommasQuoted [] := fun _ hmem => by cases hmem

theorem commasQuoted_single {text : Bytes} (htext : 44 ∉ text) : CommasQuoted [.plain text] :=
  commasQuoted_nil.cons htext

theorem not_mem_spaces (count : ℕ) : 44 ∉ spaces count := by simp [spaces]

theorem not_mem_sign (negative : Bool) : 44 ∉ sign negative := by cases negative <;> decide

theorem not_mem_of_all {allowed : UInt8 → Bool} (hcomma : allowed 44 = false) {text : Bytes}
    (hall : text.all allowed = true) : 44 ∉ text := by
  intro hmem
  rw [List.all_eq_true.mp hall 44 hmem] at hcomma
  cases hcomma

theorem Key.not_mem_text (key : Key) : 44 ∉ key.text := by
  intro hmem
  rcases List.mem_cons.mp hmem with heq | hmem
  · exact absurd (heq ▸ key.start) (by decide)
  · exact not_mem_of_all rfl key.all hmem

theorem BareItem.commasQuoted (bare : BareItem) : CommasQuoted bare.segments := by
  cases bare with
  | integer value =>
      apply commasQuoted_single
      rw [Integer.text, List.mem_append]
      exact fun hmem => hmem.elim (not_mem_sign value.negative) (not_mem_of_all rfl value.all)
  | decimal value =>
      have hdigits : 44 ∉ value.whole ++ value.fraction := not_mem_of_all rfl value.all
      apply commasQuoted_single
      simpa [not_mem_sign] using hdigits
  | string content =>
      intro text hmem
      cases List.mem_singleton.mp hmem
  | token value =>
      apply commasQuoted_single
      intro hmem
      rcases List.mem_cons.mp hmem with heq | hmem
      · exact absurd (heq ▸ value.start) (by decide)
      · exact not_mem_of_all (by decide) value.all hmem
  | binary encoded =>
      have htext : 44 ∉ encoded.text := not_mem_of_all (by decide) encoded.all
      apply commasQuoted_single
      simpa using htext
  | boolean value => cases value <;> exact commasQuoted_single (by decide)

theorem Parameter.commasQuoted (parameter : Parameter) : CommasQuoted parameter.segments := by
  have hkey : 44 ∉ (59 : UInt8) :: (spaces parameter.padding ++ parameter.key.text) := by
    simp [not_mem_spaces, Key.not_mem_text]
  rw [Parameter.segments]
  cases parameter.value with
  | none => exact commasQuoted_single hkey
  | some value => exact (value.commasQuoted.cons (by decide)).cons hkey

theorem commasQuoted_parameters (parameters : List Parameter) :
    CommasQuoted (parameters.flatMap Parameter.segments) :=
  .flatMap fun parameter _ => parameter.commasQuoted

theorem Item.commasQuoted (item : Item) : CommasQuoted item.segments :=
  item.bare.commasQuoted.append (commasQuoted_parameters item.parameters)

theorem InnerItems.commasQuoted (items : InnerItems) : CommasQuoted items.segments := by
  have hothers : CommasQuoted (items.others.flatMap fun (count, item) =>
      .plain (spaces (count + 1)) :: item.segments) :=
    .flatMap fun (count, item) _ => item.commasQuoted.cons (not_mem_spaces (count + 1))
  exact (items.first.commasQuoted.append hothers).append
    (commasQuoted_single (not_mem_spaces items.closing))

/-- A member has its commas inside of strings. -/
theorem Member.commasQuoted (member : Member) : CommasQuoted member.segments := by
  have hvalue : CommasQuoted member.valueSegments := by
    cases member with
    | flag key parameters => exact commasQuoted_parameters parameters
    | item key value => exact value.commasQuoted.cons (by decide)
    | innerList key opening items parameters =>
        have hitems : CommasQuoted ((items.map InnerItems.segments).getD []) := by
          cases items with
          | none => exact commasQuoted_nil
          | some items => exact items.commasQuoted
        exact (hitems.append ((commasQuoted_parameters parameters).cons (by decide))).cons
          (by simp [not_mem_spaces])
  exact hvalue.cons member.key.not_mem_text

end Commas

section Pieces

/-- More text goes to the last piece. -/
theorem splitOn_append (text more : Bytes) :
    ∃ pieces last, text.splitOn 44 = pieces ++ [last] ∧ 44 ∉ last ∧
      (text ++ more).splitOn 44 = pieces ++ (last ++ more).splitOn 44 := by
  induction hlength : text.length using Nat.strong_induction_on generalizing text with
  | _ length ih =>
      by_cases hcomma : 44 ∈ text
      case neg => exact ⟨[], text, List.splitOn_eq_singleton hcomma, hcomma, rfl⟩
      case pos =>
        obtain ⟨first, rest, rfl, hfirst⟩ := List.eq_append_cons_of_mem hcomma
        have hshorter : rest.length < length := by
          rw [← hlength, List.length_append, List.length_cons]
          omega
        obtain ⟨pieces, last, hrest, hlast, hmore⟩ := ih rest.length hshorter rest rfl
        refine ⟨first :: pieces, last, ?_, hlast, ?_⟩
        · rw [List.splitOn_append_cons_self_of_not_mem hfirst, hrest, List.cons_append]
        · rw [List.append_assoc, List.cons_append, List.splitOn_append_cons_self_of_not_mem hfirst,
            hmore, List.cons_append]

/-- Text before the first comma goes to the first piece. -/
theorem splitOn_prepend {before : Bytes} (hbefore : 44 ∉ before) (text : Bytes) :
    ∃ first others, text.splitOn 44 = first :: others ∧
      (before ++ text).splitOn 44 = (before ++ first) :: others := by
  by_cases hcomma : 44 ∈ text
  case neg =>
    refine ⟨text, [], List.splitOn_eq_singleton hcomma, List.splitOn_eq_singleton ?_⟩
    exact fun hmem => (List.mem_append.mp hmem).elim hbefore hcomma
  case pos =>
    obtain ⟨first, rest, rfl, hfirst⟩ := List.eq_append_cons_of_mem hcomma
    refine ⟨first, rest.splitOn 44, List.splitOn_append_cons_self_of_not_mem hfirst rest, ?_⟩
    rw [← List.append_assoc]
    apply List.splitOn_append_cons_self_of_not_mem
    exact fun hmem => (List.mem_append.mp hmem).elim hbefore hfirst

/-- The pieces of a text between its first and its last comma. -/
def innerPieces (text : Bytes) : List Bytes := (text.splitOn 44).tail.dropLast

universe u

variable {Value : Type u} (read : Bytes → Option Value)

/-- What a reader reads inside the strings. -/
def readInside (segments : List Segment) : List Value :=
  segments.flatMap fun
    | .plain _ => []
    | .quoted content => (innerPieces content).filterMap read

variable {read} (hread : ∀ piece, 34 ∈ piece → read piece = none)
include hread

/-- A string closes the piece before it and opens one, both of which hold a quotation mark. -/
theorem filterMap_splitOn_quoted {before : Bytes} (hbefore : 44 ∉ before) (content rest : Bytes) :
    ∃ opened, 34 ∈ opened ∧ 44 ∉ opened ∧
      ((before ++ ((Segment.quoted content).text ++ rest)).splitOn 44).filterMap read =
        (innerPieces content).filterMap read ++
          ((opened ++ rest).splitOn 44).filterMap read := by
  obtain ⟨pieces, last, hcontent, hlast, hmore⟩ := splitOn_append content (34 :: rest)
  have hopen : 44 ∉ before ++ [34] := by
    simpa using hbefore
  have htext : before ++ ((Segment.quoted content).text ++ rest) =
      (before ++ [34]) ++ (content ++ 34 :: rest) := by simp [Segment.text]
  rw [htext]
  cases pieces with
  | nil =>
      -- no comma in the string: the piece stays open
      have hjoined : [44].intercalate (content.splitOn 44) = content :=
        List.intercalate_splitOn 44
      have hsame : content = last := by
        rw [← hjoined, hcontent]
        simp
      subst hsame
      refine ⟨before ++ [34] ++ (content ++ [34]), by simp, by simp [hbefore, hlast], ?_⟩
      rw [innerPieces, hcontent]
      simp
  | cons first pieces =>
      refine ⟨last ++ [34], by simp, by simp [hlast], ?_⟩
      obtain ⟨head, others, hsplit, hwhole⟩ := splitOn_prepend hopen (content ++ 34 :: rest)
      rw [hmore, List.cons_append] at hsplit
      obtain ⟨rfl, rfl⟩ := List.cons.inj hsplit
      have hsilent : read (before ++ [34] ++ first) = none := hread _ (by simp)
      have hinner : innerPieces content = pieces := by
        rw [innerPieces, hcontent]
        simp
      rw [hwhole, hinner, List.filterMap_cons_none hsilent, List.filterMap_append,
        List.append_assoc last [34] rest]
      rfl

/-- Behind a quotation mark, only what is inside of strings is read. -/
theorem filterMap_splitOn_opened {segments : List Segment}
    (hplain : CommasQuoted segments) {opened : Bytes}
    (hquote : 34 ∈ opened) (hopened : 44 ∉ opened) :
    ((opened ++ textOf segments).splitOn 44).filterMap read = readInside read segments := by
  induction segments generalizing opened with
  | nil =>
      rw [textOf, List.flatMap_nil, List.append_nil, List.splitOn_eq_singleton hopened,
        List.filterMap_cons_none (hread _ hquote)]
      rfl
  | cons segment segments ih =>
      have hrest : CommasQuoted segments := fun text hmem =>
        hplain text (List.mem_cons_of_mem _ hmem)
      rw [textOf, List.flatMap_cons]
      cases segment with
      | plain text =>
          have htext : 44 ∉ text := hplain text (List.mem_cons_self ..)
          rw [← List.append_assoc]
          exact ih hrest (List.mem_append_left _ hquote)
            fun hmem => (List.mem_append.mp hmem).elim hopened htext
      | quoted content =>
          obtain ⟨next, hnext, hcomma, hread⟩ :=
            filterMap_splitOn_quoted hread hopened content (textOf segments)
          rw [← textOf, hread, ih hrest hnext hcomma]
          rfl

/-- Of segments with a string among them, only what is inside of strings is read. -/
theorem filterMap_splitOn {segments : List Segment}
    (hplain : CommasQuoted segments)
    (hquoted : ∃ content, .quoted content ∈ segments) {before : Bytes} (hbefore : 44 ∉ before) :
    ((before ++ textOf segments).splitOn 44).filterMap read = readInside read segments := by
  induction segments generalizing before with
  | nil =>
      obtain ⟨content, hmem⟩ := hquoted
      cases hmem
  | cons segment segments ih =>
      have hrest : CommasQuoted segments := fun text hmem =>
        hplain text (List.mem_cons_of_mem _ hmem)
      rw [textOf, List.flatMap_cons]
      cases segment with
      | plain text =>
          have htext : 44 ∉ text := hplain text (List.mem_cons_self ..)
          have hlater : ∃ content, .quoted content ∈ segments := by simpa using hquoted
          rw [← List.append_assoc]
          exact ih hrest hlater fun hmem => (List.mem_append.mp hmem).elim hbefore htext
      | quoted content =>
          obtain ⟨opened, hopened, hcomma, hread⟩ :=
            filterMap_splitOn_quoted hread hbefore content (textOf segments)
          rw [← textOf, hread, filterMap_splitOn_opened ‹_› hrest hopened hcomma]
          rfl

end Pieces

end Pounce.Math.StructuredFields
