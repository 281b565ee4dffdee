/-
# Content encoders

A response is compressed by an encoder object that is created for it, fed the
body in pieces and flushed. What an encoder returns from one of its operations
depends on all operations so far, so a `Compressor` is a function of that
history. An encoder frames its output: even an empty body has a non-empty
encoding.
-/

import Pounce.Protocols.Base

namespace Pounce

open Pounce.Math Pounce.Math.Bytes

/-- An operation on an encoder. -/
inductive CompressOp
  | compress (data : Bytes)
  | syncFlush
  | flush
  deriving DecidableEq, Repr

/-- A content encoder: its Content-Encoding value, and what the last of a
sequence of operations on a fresh instance returns. -/
structure Compressor where
  encoding : Bytes
  output : List CompressOp → Bytes
  /-- A one-shot encoding is never empty: the format has a header. -/
  oneShot_ne_nil : ∀ data, output [.compress data] ++ output [.compress data, .flush] ≠ []

/-- Encode a whole body at once. -/
def Compressor.oneShot (compressor : Compressor) (data : Bytes) : Bytes :=
  compressor.output [.compress data] ++ compressor.output [.compress data, .flush]

/-- A dictionary the server has loaded: its hash and the targets it is for. -/
structure CompressionDictionary where
  sfHash : Bytes
  urlMatch : Bytes
  deriving DecidableEq, Repr

/-- A trailing star matches any continuation. -/
def matchPattern (pattern target : Bytes) : Bool :=
  if pattern.getLast? = some 42 then pattern.dropLast.isPrefixOf target else target = pattern

/-- The headers that advertise the dictionaries for a target. -/
def useAsDictionaryHeaders (dictionaries : List CompressionDictionary) (target : Bytes) :
    List Header :=
  dictionaries.flatMap fun dictionary =>
    if dictionary.urlMatch ≠ [] ∧ matchPattern dictionary.urlMatch target then
      [(ascii "use-as-dictionary", ascii "match=\"" ++ dictionary.urlMatch ++ ascii "\""),
        (ascii "link", ascii "</.well-known/compression-dictionary/" ++ dictionary.sfHash ++
          ascii ">; rel=\"dictionary\"")]
    else []

/-- A body of known size is compressed from the threshold on, a body of unknown
size always. -/
def shouldCompressBody (knownSize : Option ℕ) (minSize : ℕ) : Bool :=
  match knownSize with
  | none => true
  | some size => minSize ≤ size

end Pounce
