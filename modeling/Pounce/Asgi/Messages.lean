/-
# Application messages

What an application hands to a `send` callable, and the header sanitizer every
bridge applies to it.
-/

import Pounce.Protocols.Base

namespace Pounce.Asgi

open Pounce.Math Pounce.Math.Bytes

/-- A message of an HTTP application. The last one is an extension that sends
`count` bytes of a file from `offset` on. -/
inductive SendMessage
  | responseStart (status : ℕ) (headers : List Header)
  | responseBody (body : Bytes) (moreBody : Bool)
  | responseSendfile (content : Bytes) (offset count : ℕ) (moreBody : Bool)
  deriving DecidableEq, Repr

/-- Drop carriage returns and line feeds. -/
def stripCrlf (bytes : Bytes) : Bytes := bytes.filter fun byte => byte ≠ 13 ∧ byte ≠ 10

/-- Strip CR and LF from header names and values; a name left empty drops the
header. -/
def sanitizeHeaders (headers : List Header) : List Header :=
  (headers.map fun header => (stripCrlf header.1, stripCrlf header.2)).filter fun header =>
    header.1 ≠ []

/-- The headers of one name, compared without case. -/
def fields (name : Bytes) (headers : List Header) : List Header :=
  headers.filter fun header => lower header.1 = name

/-- The values of the headers of one name. -/
def fieldValues (name : Bytes) (headers : List Header) : List Bytes :=
  (fields name headers).map (·.2)

@[simp]
theorem fields_append (name : Bytes) (first second : List Header) :
    fields name (first ++ second) = fields name first ++ fields name second :=
  List.filter_append ..

@[simp]
theorem fieldValues_append (name : Bytes) (first second : List Header) :
    fieldValues name (first ++ second) = fieldValues name first ++ fieldValues name second := by
  simp [fieldValues]

@[simp]
theorem fieldValues_nil (name : Bytes) : fieldValues name [] = [] := rfl

/-- A header of another name contributes no value. -/
theorem fieldValues_of_ne {name : Bytes} (header : Header) (hne : lower header.1 ≠ name) :
    fieldValues name [header] = [] := by
  simp [fieldValues, fields, hne]

/-- The header names a Content-Encoding. -/
def isContentEncoding (header : Header) : Bool := lower header.1 = ascii "content-encoding"

end Pounce.Asgi
