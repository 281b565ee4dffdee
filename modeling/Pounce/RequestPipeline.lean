/-
# Negotiating the content coding

`negotiate_compressor_from_meta` picks the encoder of a response from the values of
Accept-Encoding and Available-Dictionary: a dictionary the client has comes first, then zstd,
then gzip. The asynchronous workers look the values up in the header list, where the first
header of a name counts; the synchronous worker brings those its own pass has found.

Quality values are floating point numbers, but all that is asked of one is whether it is
positive, and `floatIsPositive` reads that off the numeral.
-/

import Pounce.Compression
import Pounce.Config
import Pounce.Priority

namespace Pounce

open Pounce.Math Pounce.Math.Bytes

/-! ## Quality values -/

/-- A numeral without its digit separators, which stand between two digits. `afterDigit` says
that the byte before is one. -/
def dropUnderscores (afterDigit : Bool) : Bytes → Option Bytes
  | [] => some []
  | byte :: rest =>
      if byte = 95 then
        if afterDigit ∧ rest.head?.any isDigit then dropUnderscores false rest else none
      else (dropUnderscores (isDigit byte) rest).map (byte :: ·)

/-- A sign, if there is one, and the rest: the sign is a minus. -/
def takeSign : Bytes → Bool × Bytes
  | [] => (false, [])
  | byte :: rest =>
      if byte = 45 then (true, rest) else if byte = 43 then (false, rest) else (false, byte :: rest)

/-- The exponent of a numeral, if it is well formed. -/
def readExponent : Bytes → Option ℤ
  | [] => some 0
  | mark :: rest =>
      if lowerByte mark = 101 then
        let (negative, digits) := takeSign rest
        (decimal? digits).map fun value => if negative then -(value : ℤ) else value
      else none

/-- Whether an unsigned decimal numeral is a positive number. At most half of the least
positive number is rounded to zero. -/
def decimalIsPositive (text : Bytes) : Option Bool :=
  let whole := text.takeWhile isDigit
  let rest := text.dropWhile isDigit
  let point := rest.head? = some 46
  let fraction := if point then (rest.drop 1).takeWhile isDigit else []
  let exponent := if point then (rest.drop 1).dropWhile isDigit else rest
  if whole ++ fraction = [] then none
  else (readExponent exponent).map fun exponent =>
    let mantissa := decimalFrom 0 (whole ++ fraction)
    let scale := exponent - (fraction.length : ℤ)
    mantissa ≠ 0 && (0 ≤ scale || Nat.pow 10 scale.natAbs < mantissa * Nat.pow 2 1075)

/-- `float(text) > 0`. `none` is the error raised for a text that is no number. Unlike
`str.strip`, `float` takes only the white space of C for that. -/
def floatIsPositive (text : Bytes) : Option Bool := do
  let text ← dropUnderscores false (strip text)
  let (negative, unsigned) := takeSign text
  let positive ←
    if lower unsigned ∈ [ascii "inf", ascii "infinity"] then some true
    else if lower unsigned = ascii "nan" then some false
    else decimalIsPositive unsigned
  return !negative && positive

example :
    [ascii "0.5", ascii "1_0e-2", ascii "0.000", ascii "-1", ascii "nan", ascii "1e-400",
      ascii "x"].map floatIsPositive =
      [some true, some true, some false, some false, some false, some false, none] := by
  decide +kernel

/-! ## Accept-Encoding -/

/-- One parameter of a coding. The last quality value counts. -/
def readQuality (accepted : Bool) (segment : Bytes) : Bool :=
  let segment := stripWhile isTextSpace segment
  if (ascii "q=").isPrefixOf segment then (floatIsPositive (segment.drop 2)).getD false
  else accepted

/-- The coding one part of an Accept-Encoding value accepts. -/
def acceptedCoding (part : Bytes) : Option Bytes :=
  let part := stripWhile isTextSpace part
  let segments := part.splitOn 59
  if part ≠ [] ∧ segments.tail.foldl readQuality true then
    some (lower (stripWhile isTextSpace (segments.headD [])))
  else none

/-- The keys of `_parse_accept_encoding`: all values are positive. -/
def parseAcceptEncoding (acceptEncoding : Bytes) : List Bytes :=
  (acceptEncoding.splitOn 44).filterMap acceptedCoding

/-- The content codings of the server. -/
inductive ContentCoding
  | dcz
  | zstd
  | gzip
  deriving DecidableEq, Repr

/-- The name of a coding in header fields. -/
def ContentCoding.token : ContentCoding → Bytes
  | .dcz => ascii "dcz"
  | .zstd => ascii "zstd"
  | .gzip => ascii "gzip"

/-- What the standard library provides: whether it has zstd, and `create_compressor`. An
encoder reports the coding it was created for. -/
structure Encoders where
  hasZstd : Bool := true
  createCompressor : ContentCoding → Option CompressionDictionary → Compressor
  encoding_createCompressor : ∀ coding dictionary,
    (createCompressor coding dictionary).encoding = coding.token

/-- `_ENCODING_PRIORITY`. -/
def encodingPriority (hasZstd : Bool) : List ContentCoding :=
  if hasZstd then [.zstd, .gzip] else [.gzip]

/-- `accepted_encodings`. -/
def acceptedEncodings (hasZstd : Bool) (acceptEncoding : Bytes) : List ContentCoding :=
  let encodings := parseAcceptEncoding acceptEncoding
  (encodingPriority hasZstd).filter fun encoding =>
    encoding.token ∈ encodings || ascii "*" ∈ encodings

/-- `negotiate_encoding`. -/
def negotiateEncoding (hasZstd : Bool) (acceptEncoding : Bytes) : Option ContentCoding :=
  let encodings := parseAcceptEncoding acceptEncoding
  (encodingPriority hasZstd).find? fun encoding =>
    encoding.token ∈ encodings || ascii "*" ∈ encodings

example :
    negotiateEncoding true (ascii "gzip, br, zstd;q=0.9") = some .zstd ∧
      negotiateEncoding true (ascii "zstd;q=0, *;q=0.1") = some .zstd ∧
      negotiateEncoding true (ascii "identity") = none := by
  decide +kernel

/-! ## Dictionaries -/

/-- `negotiate_dictionary`: the first dictionary with the hash that is for the target. -/
def negotiateDictionary (availableDictionary : Bytes) (dictionaries : List CompressionDictionary)
    (requestTarget : Bytes) : Option CompressionDictionary :=
  let available := stripWhile isTextSpace availableDictionary
  if available = [] then none
  else dictionaries.find? fun dictionary =>
    dictionary.sfHash = available ∧
      (dictionary.urlMatch = [] ∨ requestTarget = [] ∨
        matchPattern dictionary.urlMatch requestTarget)

/-! ## Encoders -/

variable (encoders : Encoders) (config : ServerConfig)

/-- `negotiate_compressor_from_meta`. -/
def negotiateCompressorFromMeta (acceptEncoding availableDictionary : Option Bytes)
    (requestTarget : Bytes) : Option Compressor × Option CompressionDictionary :=
  match acceptEncoding with
  | none => (none, none)
  | some acceptEncoding =>
      if !config.compression ∨ acceptEncoding = [] then (none, none)
      else
        let dictionary :=
          match availableDictionary with
          | none => none
          | some available =>
              if available ≠ [] ∧ contains (ascii "zstd") acceptEncoding then
                negotiateDictionary available config.compressionDictionaries requestTarget
              else none
        match dictionary with
        | some dictionary => (some (encoders.createCompressor .dcz dictionary), some dictionary)
        | none =>
            ((negotiateEncoding encoders.hasZstd acceptEncoding).map fun encoding =>
              encoders.createCompressor encoding none, none)

/-- `negotiate_compressor`. -/
def negotiateCompressor (headers : List Header) (requestTarget : Bytes) :
    Option Compressor × Option CompressionDictionary :=
  match getHeader headers (ascii "accept-encoding") with
  | none => (none, none)
  | some acceptEncoding =>
      negotiateCompressorFromMeta encoders config (some acceptEncoding)
        (getHeader headers (ascii "available-dictionary")) requestTarget

end Pounce
