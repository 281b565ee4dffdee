/-
# Multipart bodies

A multipart body has parts, each with fields of its own and its content. A delimiter that holds
the boundary stands before each part, and one that is marked as the last after all of them. What
the boundary is has been told elsewhere; it must not begin a line of a content.

This is the form of a body as it is read, whatever has written it. No text may precede the
parts, and anything may follow them.
-/

import Pounce.Math.Bytes

namespace Pounce.Math

open Bytes

/-- A byte of the name of a field. -/
def isFieldNameByte (byte : UInt8) : Bool := 33 ≤ byte && byte ≤ 126 && byte ≠ 58

/-- The byte does not break a line. -/
def isLineByte (byte : UInt8) : Bool := byte ≠ 13 && byte ≠ 10

/-- The lines of fields. -/
inductive FieldLines : Bytes → List (Bytes × Bytes) → Prop
  | nil : FieldLines [] []
  | cons {name before value after text : Bytes} {fields : List (Bytes × Bytes)} (hne : name ≠ [])
      (hname : ∀ byte ∈ name, isFieldNameByte byte) (hbefore : ∀ byte ∈ before, isOws byte)
      (hvalue : ∀ byte ∈ value, isLineByte byte) (hafter : ∀ byte ∈ after, isOws byte)
      (htrimmed : trimOws value = value) (hrest : FieldLines text fields) :
      FieldLines (name ++ 58 :: (before ++ (value ++ (after ++ (crlf ++ text)))))
        ((name, value) :: fields)

/-- A byte of a boundary that is not quoted. -/
def isBoundaryByte (byte : UInt8) : Bool :=
  isDigit byte || (65 ≤ byte && byte ≤ 90) || (97 ≤ byte && byte ≤ 122) || byte ∈ ascii "'+-._"

/-- A part of a body. -/
structure MimePart where
  fields : List (Bytes × Bytes)
  content : Bytes

/-- What begins the delimiter of a boundary. -/
def dashBoundary (boundary : Bytes) : Bytes := ascii "--" ++ boundary

/-- A content has no line that begins like the delimiter. -/
def Undelimited (boundary content : Bytes) : Prop :=
  ¬ crlf ++ dashBoundary boundary <:+: crlf ++ content

/-- What follows a boundary: the parts from there on. -/
inductive PartsAfter (boundary : Bytes) : Bytes → List MimePart → Prop
  | close {epilogue : Bytes} (hepilogue : epilogue = [] ∨ crlf <+: epilogue) :
      PartsAfter boundary (ascii "--" ++ epilogue) []
  | part {lines content text : Bytes} {fields : List (Bytes × Bytes)} {parts : List MimePart}
      (hfields : FieldLines lines fields) (hcontent : Undelimited boundary content)
      (hrest : PartsAfter boundary text parts) :
      PartsAfter boundary
        (crlf ++ (lines ++ (crlf ++ (content ++ (crlf ++ (dashBoundary boundary ++ text))))))
        (⟨fields, content⟩ :: parts)

/-- A body has these parts. -/
def IsMultipart (boundary body : Bytes) (parts : List MimePart) : Prop :=
  ∃ text, body = dashBoundary boundary ++ text ∧ PartsAfter boundary text parts

variable {boundary body text : Bytes} {fields : List (Bytes × Bytes)} {parts : List MimePart}

/-- The value of a field is in one line. -/
theorem FieldLines.value (hlines : FieldLines text fields) :
    ∀ field ∈ fields, ∀ byte ∈ field.2, isLineByte byte := by
  induction hlines with
  | nil => exact fun field hnot => absurd hnot List.not_mem_nil
  | cons _ _ _ hvalue _ _ _ ih =>
      intro field hmem
      rcases List.mem_cons.mp hmem with rfl | hmem
      · exact hvalue
      · exact ih field hmem

/-- A part can be told from what follows it, and so can its fields. -/
theorem PartsAfter.part_mem (hparts : PartsAfter boundary text parts) :
    ∀ part ∈ parts, Undelimited boundary part.content ∧
      ∀ field ∈ part.fields, ∀ byte ∈ field.2, isLineByte byte := by
  induction hparts with
  | close => exact fun part hnot => absurd hnot List.not_mem_nil
  | part hfields hcontent _ ih =>
      intro part hmem
      rcases List.mem_cons.mp hmem with rfl | hmem
      · exact ⟨hcontent, hfields.value⟩
      · exact ih part hmem

/-- A value that is trimmed is one without white space around it. -/
theorem FieldLines.cons_padded {name value text : Bytes} {fields : List (Bytes × Bytes)}
    (hne : name ≠ []) (hname : ∀ byte ∈ name, isFieldNameByte byte)
    (hvalue : ∀ byte ∈ value, isLineByte byte) (hrest : FieldLines text fields) :
    FieldLines (name ++ 58 :: (32 :: (value ++ (crlf ++ text))))
      ((name, trimOws value) :: fields) := by
  obtain ⟨before, after, hsplit, hbefore, hafter⟩ := stripWhile_split isOws value
  have htrimmed : trimOws (trimOws value) = trimOws value := stripWhile_stripWhile ..
  have hspace : ∀ byte ∈ 32 :: before, isOws byte := by
    intro byte hmem
    rcases List.mem_cons.mp hmem with rfl | hmem
    · rfl
    · exact hbefore byte hmem
  have hcore : ∀ byte ∈ trimOws value, isLineByte byte := by
    intro byte hmem
    apply hvalue byte
    rw [hsplit]
    exact List.mem_append_right _ (List.mem_append_left _ hmem)
  have hline := FieldLines.cons hne hname hspace hcore hafter htrimmed hrest
  rw [trimOws] at hline ⊢
  have hsame : 32 :: (value ++ (crlf ++ text)) =
      (32 :: before) ++ (stripWhile isOws value ++ (after ++ (crlf ++ text))) := by
    conv_lhs => rw [hsplit]
    simp only [List.cons_append, List.append_assoc]
  rw [hsame]
  exact hline

end Pounce.Math
