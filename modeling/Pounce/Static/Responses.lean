/-
# Responses of the static file handler

`StaticFiles` answers with a whole file, a range of it or several ranges, which are then the
parts of a multipart body. The lengths are computed before anything is read, and the bytes are
read in pieces or handed over as a region of the file.

A response is faithful when it is complete, its declared length is that of its body, its body
reads as what was asked for, and it names the coding of a precompressed variant whenever it is
one. An empty file is read in no pieces at all, so that nothing says that its body is over, and
a multipart response does not name the coding. A multipart body is also misread if the random
boundary happens to begin a line of a range, and if the type of the file breaks the line it is
in.
-/

import Mathlib.Algebra.GroupWithZero.Nat
import Mathlib.Data.List.Sort
import Pounce.Math.Multipart
import Pounce.Static

namespace Pounce.Static

open Pounce.Math Pounce.Math.Bytes Pounce.Asgi

/-! ## Range headers -/

/-- The white space of a `str` whose characters are bytes. -/
def isStrSpace (byte : UInt8) : Bool :=
  isSpace byte || (28 ≤ byte && byte ≤ 31) || byte = 0x85 || byte = 0xa0

/-- The white space that `int` takes around a numeral in such a `str`: that of C, and what is no
ASCII. -/
def isIntSpace (byte : UInt8) : Bool := isSpace byte || byte = 0x85 || byte = 0xa0

/-- `int` of a `str`. -/
def readStrInt (text : Bytes) : Option ℤ := readInt (stripWhile isIntSpace text)

/-- What one range of a header comes to. -/
inductive RangeSpec (size : ℕ) where
  | malformed
  | unsatisfiable
  | satisfiable (range : ByteRange size)

/-- A range from its first and last position. What starts inside the file is cut to it. -/
def RangeSpec.clamp (size : ℕ) (start stop : ℤ) : RangeSpec size :=
  if hmalformed : start < 0 ∨ stop < start then .malformed
  else if hbeyond : (size : ℤ) ≤ start then .unsatisfiable
  else
    .satisfiable {
      start := start.toNat
      stop := min stop.toNat (size - 1)
      start_le_stop := by omega
      stop_lt_size := by omega }

/-- One range of a header, by what is before and after its first `-`. -/
def parseRangeSpec (size : ℕ) (spec : Bytes) : RangeSpec size :=
  let spec := stripWhile isStrSpace spec
  let first := spec.takeWhile (· ≠ 45)
  let last := (spec.dropWhile (· ≠ 45)).tail
  if 45 ∉ spec then .malformed
  else if first ≠ [] ∧ last ≠ [] then
    match readStrInt first, readStrInt last with
    | some start, some stop => .clamp size start stop
    | _, _ => .malformed
  else if first ≠ [] then
    match readStrInt first with
    | some start => .clamp size start (size - 1)
    | none => .malformed
  else if last ≠ [] then
    match readStrInt last with
    | some suffix =>
        if suffix ≤ 0 then .malformed else .clamp size (max 0 (size - suffix)) (size - 1)
    | none => .malformed
  else .malformed

/-- What a Range header comes to. Satisfiable ranges are at least one. -/
inductive ParsedRange (size : ℕ) where
  | ignored
  | unsatisfiable
  | satisfiable (first : ByteRange size) (rest : List (ByteRange size))

/-- The ranges of a header, and whether one of them is beyond the file. -/
def parseSpecs (size : ℕ) : List Bytes → Option (List (ByteRange size) × Bool)
  | [] => some ([], false)
  | spec :: specs =>
      match parseRangeSpec size spec with
      | .malformed => none
      | .unsatisfiable => (parseSpecs size specs).map fun (ranges, _) => (ranges, true)
      | .satisfiable range =>
          (parseSpecs size specs).map fun (ranges, beyond) => (range :: ranges, beyond)

/-- Merge ranges, ordered by their starts, with those that overlap them or follow at once. -/
def mergeRanges {size : ℕ} (last : ByteRange size) : List (ByteRange size) → List (ByteRange size)
  | [] => [last]
  | range :: ranges =>
      if range.start ≤ last.stop + 1 then
        mergeRanges {
          start := last.start
          stop := max last.stop range.stop
          start_le_stop := last.start_le_stop.trans (le_max_left ..)
          stop_lt_size := max_lt last.stop_lt_size range.stop_lt_size } ranges
      else last :: mergeRanges range ranges

/-- Ranges are sorted as pairs. -/
def ByteRange.before {size : ℕ} (first second : ByteRange size) : Prop :=
  first.start < second.start ∨ (first.start = second.start ∧ first.stop ≤ second.stop)

instance {size : ℕ} : DecidableRel (@ByteRange.before size) := fun first second =>
  inferInstanceAs (Decidable (first.start < second.start ∨ _))

/-- `_coalesce_ranges`. -/
def coalesceRanges {size : ℕ} (ranges : List (ByteRange size)) : List (ByteRange size) :=
  match ranges.insertionSort ByteRange.before with
  | [] => []
  | first :: rest => mergeRanges first rest

/-- The most ranges that are honoured. -/
def maxRanges : ℕ := 10

/-- `_parse_range_header`. -/
def parseRangeHeader (size : ℕ) (header : Bytes) : ParsedRange size :=
  if ¬ ascii "bytes=" <+: header then .ignored
  else if size = 0 then .unsatisfiable
  else
    let specs := (header.drop 6).splitOn 44
    if maxRanges < specs.length then .ignored
    else
      match parseSpecs size specs with
      | none => .ignored
      | some (ranges, beyond) =>
          match coalesceRanges ranges with
          | [] => if beyond then .unsatisfiable else .ignored
          | first :: rest => .satisfiable first rest

/-- A range is over before the next one begins, with something in between. -/
def ByteRange.Apart {size : ℕ} (first second : ByteRange size) : Prop :=
  first.stop + 1 < second.start

/-- Ranges that are merged are apart, and the first one starts where it did. -/
theorem mergeRanges_apart {size : ℕ} (last : ByteRange size) (ranges : List (ByteRange size))
    (hsorted : (last :: ranges).Pairwise fun first second => first.start ≤ second.start) :
    ∃ first rest, mergeRanges last ranges = first :: rest ∧ first.start = last.start ∧
      (first :: rest).IsChain ByteRange.Apart := by
  induction ranges generalizing last with
  | nil => exact ⟨last, [], rfl, rfl, .singleton last⟩
  | cons range ranges ih =>
      rw [List.pairwise_cons] at hsorted
      obtain ⟨hlast, hranges⟩ := hsorted
      rw [mergeRanges]
      split
      case isTrue =>
        apply ih
        rw [List.pairwise_cons] at hranges ⊢
        exact ⟨fun other hother => hlast other (List.mem_cons_of_mem _ hother), hranges.2⟩
      case isFalse hapart =>
        obtain ⟨first, rest, hmerged, hstart, hchain⟩ := ih range hranges
        refine ⟨last, first :: rest, by rw [hmerged], rfl, ?_⟩
        apply List.IsChain.cons_cons _ hchain
        show last.stop + 1 < first.start
        omega

theorem ByteRange.before_total {size : ℕ} (first second : ByteRange size) :
    first.before second ∨ second.before first := by
  rw [before, before]
  omega

theorem ByteRange.before_trans {size : ℕ} {first second third : ByteRange size}
    (hfirst : first.before second) (hsecond : second.before third) : first.before third := by
  rw [before] at *
  omega

/-- The ranges a header comes to are in order and apart. -/
theorem parseRangeHeader_apart {size : ℕ} {header : Bytes} {first : ByteRange size}
    {rest : List (ByteRange size)} (hparsed : parseRangeHeader size header = .satisfiable first rest) :
    (first :: rest).IsChain ByteRange.Apart := by
  have hcoalesced : ∃ ranges, coalesceRanges ranges = first :: rest := by
    rw [parseRangeHeader] at hparsed
    dsimp only at hparsed
    split at hparsed
    · cases hparsed
    split at hparsed
    · cases hparsed
    split at hparsed
    · cases hparsed
    split at hparsed
    · cases hparsed
    case h_2 ranges beyond _ =>
      split at hparsed
      · split at hparsed
        · cases hparsed
        · cases hparsed
      case h_2 heq =>
        cases hparsed
        exact ⟨ranges, heq⟩
  obtain ⟨ranges, hcoalesced⟩ := hcoalesced
  have : Std.Total (@ByteRange.before size) := ⟨ByteRange.before_total⟩
  have : IsTrans (ByteRange size) ByteRange.before := ⟨fun _ _ _ => ByteRange.before_trans⟩
  have hsorted := List.pairwise_insertionSort ByteRange.before ranges
  rw [coalesceRanges] at hcoalesced
  split at hcoalesced
  · cases hcoalesced
  case h_2 start others heq =>
    rw [heq] at hsorted
    obtain ⟨_, _, hmerged, -, hchain⟩ := mergeRanges_apart start others
      (hsorted.imp fun hbefore => hbefore.elim Nat.le_of_lt fun heq => heq.1.le)
    rw [← hcoalesced, hmerged]
    exact hchain

/-! ## Messages -/

/-- The headers of a whole file. -/
def fileHeaders (file : StaticFile) : List Header :=
  [(ascii "content-type", file.mimeType),
    (ascii "content-length", ofNat file.size),
    (ascii "accept-ranges", ascii "bytes"),
    (ascii "etag", file.etag),
    (ascii "last-modified", file.lastModified),
    (ascii "cache-control", file.cacheControl)] ++
  optionalHeader (ascii "content-encoding") file.encoding ++
  if file.vary then [(ascii "vary", ascii "accept-encoding")] else []

/-- The methods files are served for. -/
inductive FileMethod where
  | get
  | head
  deriving DecidableEq, Repr

/-- `_send_file`. -/
def sendFile (file : StaticFile) (method : FileMethod) (sendfileEnabled : Bool) :
    List SendMessage :=
  .responseStart 200 (fileHeaders file) ::
    match method with
    | .head => [.responseBody [] false]
    | .get => sendFileBody file.content 0 file.size sendfileEnabled

/-- `secrets.token_hex(16)`. -/
structure HexToken where
  text : Bytes
  length_text : text.length = 32
  isHex : ∀ byte ∈ text, isDigit byte || (97 ≤ byte && byte ≤ 102)

/-- The delimiter of the parts, with what precedes it. -/
def delimiter (boundary : Bytes) : Bytes := ascii "--" ++ boundary

/-- The header of a part. -/
def partHeader (file : StaticFile) (boundary : Bytes) (range : ByteRange file.size) : Bytes :=
  delimiter boundary ++ crlf ++ ascii "Content-Type: " ++ file.mimeType ++ crlf ++
    ascii "Content-Range: bytes " ++ ofNat range.start ++ ascii "-" ++ ofNat range.stop ++
      ascii "/" ++ ofNat file.size ++ crlf ++ crlf

/-- The end of a multipart body. -/
def closing (boundary : Bytes) : Bytes := crlf ++ delimiter boundary ++ ascii "--" ++ crlf

/-- The length that is declared for a multipart body. -/
def multipartLength (file : StaticFile) (boundary : Bytes) (ranges : List (ByteRange file.size)) :
    ℕ :=
  (ranges.map fun range => (partHeader file boundary range).length + range.count).sum +
    2 * (ranges.length - 1) + (closing boundary).length

/-- The headers of a multipart response. -/
def multipartHeaders (file : StaticFile) (boundary : Bytes) (ranges : List (ByteRange file.size)) :
    List Header :=
  [(ascii "content-type", ascii "multipart/byteranges; boundary=" ++ boundary),
    (ascii "content-length", ofNat (multipartLength file boundary ranges)),
    (ascii "accept-ranges", ascii "bytes"),
    (ascii "etag", file.etag),
    (ascii "last-modified", file.lastModified),
    (ascii "cache-control", file.cacheControl)] ++
  if file.vary then [(ascii "vary", ascii "accept-encoding")] else []

/-- Send `remaining` bytes of what is left of a file, with more to come after each piece. -/
def sendPartChunks (left : Bytes) (remaining : ℕ) : List SendMessage :=
  let chunk := left.take (min chunkSize remaining)
  if chunk = [] then []
  else
    .responseBody chunk true :: sendPartChunks (left.drop chunk.length) (remaining - chunk.length)
termination_by left.length
decreasing_by
  rename_i hchunk
  have hpos : 0 < (left.take (min chunkSize remaining)).length := List.length_pos_iff.mpr hchunk
  rw [List.length_drop]
  rw [List.length_take] at hpos ⊢
  omega

/-- The parts, each after its header. All but the first are separated from the one before. -/
def sendParts (file : StaticFile) (boundary separator : Bytes) :
    List (ByteRange file.size) → List SendMessage
  | [] => []
  | range :: ranges =>
      .responseBody (separator ++ partHeader file boundary range) true ::
        (sendPartChunks (file.content.drop range.start) range.count ++
          sendParts file boundary crlf ranges)

/-- `_send_206_multipart`. -/
def send206Multipart (file : StaticFile) (boundary : Bytes) (ranges : List (ByteRange file.size)) :
    List SendMessage :=
  .responseStart 206 (multipartHeaders file boundary ranges) ::
    (sendParts file boundary [] ranges ++ [.responseBody (closing boundary) false])

/-- `_send_206`. -/
def send206 (file : StaticFile) (boundary : Bytes) (first : ByteRange file.size)
    (rest : List (ByteRange file.size)) (sendfileEnabled : Bool) : List SendMessage :=
  if rest = [] then send206Single file first sendfileEnabled
  else send206Multipart file boundary (first :: rest)

/-- `_send_416`. -/
def send416 (file : StaticFile) : List SendMessage :=
  [.responseStart 416
    ([(ascii "content-range", ascii "bytes */" ++ ofNat file.size),
      (ascii "content-length", ascii "0"),
      (ascii "accept-ranges", ascii "bytes"),
      (ascii "etag", file.etag),
      (ascii "cache-control", file.cacheControl)] ++
    if file.vary then [(ascii "vary", ascii "accept-encoding")] else []),
    .responseBody [] false]

/-- What is sent for a file whose representation is asked for. -/
def respond (file : StaticFile) (method : FileMethod) (parsed : ParsedRange file.size)
    (boundary : Bytes) (sendfileEnabled : Bool) : List SendMessage :=
  match method, parsed with
  | .get, .unsatisfiable => send416 file
  | .get, .satisfiable first rest => send206 file boundary first rest sendfileEnabled
  | _, _ => sendFile file method sendfileEnabled

/-! ## What is promised -/

/-- Whether more is to come, of what belongs to a body. -/
def moreOf : SendMessage → Option Bool
  | .responseStart .. => none
  | .responseBody _ more => some more
  | .responseSendfile _ _ _ more => some more

/-- The bytes a message brings. -/
def bytesOf : SendMessage → Bytes
  | .responseStart .. => []
  | .responseBody body _ => body
  | .responseSendfile content offset count _ => (content.drop offset).take count

/-- The body messages end with the one that says so. -/
def Ended (body : List SendMessage) : Prop :=
  ∃ before last, body = before ++ [last] ∧ (∀ message ∈ before, moreOf message = some true) ∧
    moreOf last = some false

/-- The value of Content-Range names a range of so many bytes. -/
def NamesRange {size : ℕ} (value : Bytes) (range : ByteRange size) : Prop :=
  ∃ first last total, value = ascii "bytes " ++ first ++ ascii "-" ++ last ++ ascii "/" ++ total ∧
    decimal? first = some range.start ∧ decimal? last = some range.stop ∧
    decimal? total = some size

/-- The value of Content-Type names the boundary of a multipart body. -/
structure NamesBoundary (value boundary : Bytes) : Prop where
  parameter : ∃ space, (∀ byte ∈ space, isOws byte) ∧
    value = ascii "multipart/byteranges;" ++ (space ++ (ascii "boundary=" ++ boundary))
  length : 0 < boundary.length ∧ boundary.length ≤ 70
  chars : ∀ byte ∈ boundary, isBoundaryByte byte

/-- A part of a body is a range of the file, and says so. -/
structure IsPartOf (file : StaticFile) (range : ByteRange file.size) (part : MimePart) : Prop where
  content : part.content = file.named range
  position : ∃ value, fieldValues (ascii "content-range") part.fields = [value] ∧
    NamesRange value range
  type : fieldValues (ascii "content-type") part.fields = [trimOws file.mimeType]

/-- The body is what was asked for, as it is read by the headers. -/
def Represents (file : StaticFile) (headers : List Header) : ParsedRange file.size → Bytes → Prop
  | .ignored, body => body = file.content
  | .unsatisfiable, body => body = []
  | .satisfiable first [], body => body = file.named first ∧
      ∃ value, fieldValues (ascii "content-range") headers = [value] ∧ NamesRange value first
  | .satisfiable first (second :: rest), body => ∃ value boundary parts,
      fieldValues (ascii "content-type") headers = [value] ∧ NamesBoundary value boundary ∧
      IsMultipart boundary body parts ∧
      List.Forall₂ (IsPartOf file) (first :: second :: rest) parts

/-- A response that keeps what it declares. -/
structure Keeps (file : StaticFile) (method : FileMethod) (parsed : ParsedRange file.size)
    (status : ℕ) (headers : List Header) (body : List SendMessage) : Prop where
  ended : Ended body
  declared : method = .get →
    fieldValues (ascii "content-length") headers = [ofNat (body.flatMap bytesOf).length]
  bytes : method = .get → Represents file headers parsed (body.flatMap bytesOf)
  encoded : status = 200 ∨ status = 206 →
    fieldValues (ascii "content-encoding") headers = file.encoding.toList

/-- The messages are one response that keeps what it declares. -/
def Faithful (file : StaticFile) (method : FileMethod) (parsed : ParsedRange file.size)
    (messages : List SendMessage) : Prop :=
  ∃ status headers body, messages = .responseStart status headers :: body ∧
    Keeps file method parsed status headers body

/-- The parts of a multipart body can be told apart. -/
structure Separable (file : StaticFile) (boundary : Bytes) (ranges : List (ByteRange file.size)) :
    Prop where
  /-- The type of the file is in one line. -/
  type : ∀ byte ∈ file.mimeType, isLineByte byte
  /-- No line of a range begins with the boundary. -/
  content : ∀ range ∈ ranges, Undelimited boundary (file.named range)

/-! ## Bodies -/

/-- A part of a multipart body as it is sent. -/
def part (file : StaticFile) (boundary : Bytes) (range : ByteRange file.size) : Bytes :=
  partHeader file boundary range ++ file.named range

/-- The pieces of a part add up to it, and more is to come after each. -/
theorem sendPartChunks_eq (left : Bytes) (remaining : ℕ) :
    (sendPartChunks left remaining).flatMap bytesOf = left.take remaining ∧
      ∀ message ∈ sendPartChunks left remaining, moreOf message = some true := by
  fun_induction sendPartChunks left remaining with
  | case1 left remaining chunk hchunk =>
      refine ⟨?_, fun message hnot => absurd hnot List.not_mem_nil⟩
      have hsize : chunkSize ≠ 0 := by decide
      rcases List.take_eq_nil_iff.mp hchunk with hremaining | hleft
      · rw [show remaining = 0 by omega, List.take_zero, List.flatMap_nil]
      · rw [hleft, List.take_nil, List.flatMap_nil]
  | case2 left remaining chunk hchunk ih =>
      obtain ⟨hbytes, hmore⟩ := ih
      have htake : left.take chunk.length = chunk :=
        (List.prefix_iff_eq_take.mp (List.take_prefix ..)).symm
      have hlength : chunk.length ≤ remaining := by
        rw [List.length_take]
        omega
      constructor
      · rw [List.flatMap_cons, hbytes, bytesOf]
        conv_rhs => rw [← Nat.add_sub_of_le hlength, List.take_add, htake]
      · intro message hmem
        rcases List.mem_cons.mp hmem with rfl | hmem
        · rfl
        · exact hmore message hmem

/-- The parts are sent in order, with a line break before all but the first. -/
theorem sendParts_eq (file : StaticFile) (boundary : Bytes) (ranges : List (ByteRange file.size))
    (separator : Bytes) (range : ByteRange file.size) :
    (sendParts file boundary separator (range :: ranges)).flatMap bytesOf =
        separator ++ crlf.intercalate ((range :: ranges).map (part file boundary)) ∧
      ∀ message ∈ sendParts file boundary separator (range :: ranges),
        moreOf message = some true := by
  induction ranges generalizing separator range with
  | nil =>
      obtain ⟨hbytes, hmore⟩ := sendPartChunks_eq (file.content.drop range.start) range.count
      rw [sendParts, sendParts, List.append_nil]
      constructor
      · rw [List.flatMap_cons, hbytes, ← StaticFile.named, bytesOf, List.append_assoc,
          List.map_singleton, List.intercalate, List.intersperse_singleton,
          List.flatten_singleton, part]
      · intro message hmem
        rcases List.mem_cons.mp hmem with rfl | hmem
        · rfl
        · exact hmore message hmem
  | cons next ranges ih =>
      obtain ⟨hbytes, hmore⟩ := sendPartChunks_eq (file.content.drop range.start) range.count
      obtain ⟨hrest, hmoreRest⟩ := ih crlf next
      rw [sendParts]
      constructor
      · rw [List.flatMap_cons, List.flatMap_append, hbytes, hrest, ← StaticFile.named]
        simp only [bytesOf, List.map_cons, List.intercalate_cons_cons, part, List.append_assoc]
      · intro message hmem
        rcases List.mem_cons.mp hmem with rfl | hmem
        · rfl
        rcases List.mem_append.mp hmem with hmem | hmem
        · exact hmore message hmem
        · exact hmoreRest message hmem

/-- Bytes that are there are sent up to the last of them. -/
theorem sendFileBody_eq (content : Bytes) (offset count : ℕ) (sendfileEnabled : Bool)
    (hpos : 0 < count) (hcount : offset + count ≤ content.length) :
    Ended (sendFileBody content offset count sendfileEnabled) ∧
      (sendFileBody content offset count sendfileEnabled).flatMap bytesOf =
        (content.drop offset).take count := by
  rw [sendFileBody]
  split
  case isTrue =>
    refine ⟨⟨[], _, rfl, fun message hnot => absurd hnot List.not_mem_nil, rfl⟩, ?_⟩
    rw [List.flatMap_singleton]
    rfl
  case isFalse =>
    obtain ⟨chunks, last, hsend, hbody, -⟩ := sendChunks_eq (content.drop offset) count hpos
      (by rw [List.length_drop]; omega)
    rw [hsend]
    constructor
    · refine ⟨_, _, rfl, ?_, rfl⟩
      intro message hmem
      obtain ⟨chunk, -, rfl⟩ := List.mem_map.mp hmem
      rfl
    · rw [List.flatMap_append, List.flatMap_map, List.flatMap_singleton, ← hbody]
      simp only [bytesOf, List.flatMap_id']

/-- Nothing is sent of an empty file. -/
theorem sendFileBody_empty (sendfileEnabled : Bool) :
    sendFileBody [] 0 0 sendfileEnabled = [] := by
  rw [sendFileBody, if_neg fun hnot => absurd hnot.2 (by decide), sendChunks]
  rfl

/-- A range has so many bytes. -/
theorem length_named (file : StaticFile) (range : ByteRange file.size) :
    (file.named range).length = range.count := by
  have hstop : range.stop < file.content.length := range.stop_lt_size
  have hstart := range.start_le_stop
  rw [StaticFile.named, List.length_take, List.length_drop, ByteRange.count]
  omega

/-- The length of what is joined. -/
theorem length_intercalate (separator first : Bytes) (rest : List Bytes) :
    (separator.intercalate (first :: rest)).length =
      ((first :: rest).map List.length).sum + separator.length * rest.length := by
  induction rest generalizing first with
  | nil => simp [List.intercalate]
  | cons second rest ih =>
      have hjoin : separator.intercalate (first :: second :: rest) =
          first ++ (separator ++ separator.intercalate (second :: rest)) := rfl
      rw [hjoin, List.length_append, List.length_append, ih, List.map_cons (l := second :: rest),
        List.sum_cons, List.length_cons, Nat.mul_succ]
      omega

/-- What is declared for a multipart body is its length. -/
theorem length_multipart (file : StaticFile) (boundary : Bytes) (first : ByteRange file.size)
    (rest : List (ByteRange file.size)) :
    (crlf.intercalate ((first :: rest).map (part file boundary)) ++ closing boundary).length =
      multipartLength file boundary (first :: rest) := by
  have hparts : ((first :: rest).map (part file boundary)).map List.length =
      (first :: rest).map fun range => (partHeader file boundary range).length + range.count := by
    rw [List.map_map]
    apply List.map_congr_left
    intro range _
    rw [Function.comp_apply, part, List.length_append, length_named]
  rw [multipartLength, ← hparts, List.length_append, List.map_cons, length_intercalate,
    List.length_map, List.length_cons]
  rfl

/-! ## Headers -/

theorem fileHeaders_length (file : StaticFile) :
    fieldValues (ascii "content-length") (fileHeaders file) = [ofNat file.size] := by
  rw [fileHeaders]
  cases file.encoding <;> cases file.vary <;>
    simp +decide [fieldValues, fields, optionalHeader]

theorem fileHeaders_encoding (file : StaticFile) :
    fieldValues (ascii "content-encoding") (fileHeaders file) = file.encoding.toList := by
  rw [fileHeaders]
  cases file.encoding <;> cases file.vary <;>
    simp +decide [fieldValues, fields, optionalHeader]

theorem rangeHeaders_length (file : StaticFile) (range : ByteRange file.size) :
    fieldValues (ascii "content-length") (rangeHeaders file range) = [ofNat range.count] := by
  rw [rangeHeaders]
  cases file.encoding <;> cases file.vary <;>
    simp +decide [fieldValues, fields, optionalHeader]

theorem rangeHeaders_encoding (file : StaticFile) (range : ByteRange file.size) :
    fieldValues (ascii "content-encoding") (rangeHeaders file range) = file.encoding.toList := by
  rw [rangeHeaders]
  cases file.encoding <;> cases file.vary <;>
    simp +decide [fieldValues, fields, optionalHeader]

theorem multipartHeaders_length (file : StaticFile) (boundary : Bytes)
    (ranges : List (ByteRange file.size)) :
    fieldValues (ascii "content-length") (multipartHeaders file boundary ranges) =
      [ofNat (multipartLength file boundary ranges)] := by
  rw [multipartHeaders]
  cases file.vary <;> simp +decide [fieldValues, fields]

/-- A multipart response names no coding. -/
theorem multipartHeaders_encoding (file : StaticFile) (boundary : Bytes)
    (ranges : List (ByteRange file.size)) :
    fieldValues (ascii "content-encoding") (multipartHeaders file boundary ranges) = [] := by
  rw [multipartHeaders]
  cases file.vary <;> simp +decide [fieldValues, fields]

theorem multipartHeaders_type (file : StaticFile) (boundary : Bytes)
    (ranges : List (ByteRange file.size)) :
    fieldValues (ascii "content-type") (multipartHeaders file boundary ranges) =
      [ascii "multipart/byteranges; boundary=" ++ boundary] := by
  rw [multipartHeaders]
  cases file.vary <;> simp +decide [fieldValues, fields]

/-- The value of Content-Range. -/
def rangeValue {size : ℕ} (range : ByteRange size) : Bytes :=
  ascii "bytes " ++ ofNat range.start ++ ascii "-" ++ ofNat range.stop ++ ascii "/" ++ ofNat size

theorem rangeHeaders_range (file : StaticFile) (range : ByteRange file.size) :
    fieldValues (ascii "content-range") (rangeHeaders file range) = [rangeValue range] := by
  rw [rangeHeaders]
  cases file.encoding <;> cases file.vary <;>
    simp +decide [fieldValues, fields, optionalHeader, rangeValue]

theorem namesRange_rangeValue {size : ℕ} (range : ByteRange size) :
    NamesRange (rangeValue range) range :=
  ⟨_, _, _, rfl, decimal?_ofNat _, decimal?_ofNat _, decimal?_ofNat _⟩

/-! ## Multipart bodies -/

section

variable {file : StaticFile} {boundary : Bytes}

/-- The bytes of a decimal numeral do not break a line. -/
theorem isLineByte_ofNat (value : ℕ) : ∀ byte ∈ ofNat value, isLineByte byte := by
  intro byte hmem
  have hdigit := (decimal?_eq_some.mp (decimal?_ofNat value)).2.1 byte hmem
  rw [isLineByte, Bool.and_eq_true, decide_eq_true_eq, decide_eq_true_eq]
  constructor
  · rintro rfl
    exact absurd hdigit (by decide)
  · rintro rfl
    exact absurd hdigit (by decide)

/-- Nor do those of Content-Range, and there is nothing to trim. -/
theorem rangeValue_valid {size : ℕ} (range : ByteRange size) :
    (∀ byte ∈ rangeValue range, isLineByte byte) ∧
      trimOws (rangeValue range) = rangeValue range := by
  constructor
  · intro byte hmem
    simp only [rangeValue, List.mem_append] at hmem
    rcases hmem with ((((hmem | hmem) | hmem) | hmem) | hmem) | hmem
    · exact List.all_eq_true.mp (by decide : (ascii "bytes ").all isLineByte) byte hmem
    · exact isLineByte_ofNat _ byte hmem
    · exact List.all_eq_true.mp (by decide : (ascii "-").all isLineByte) byte hmem
    · exact isLineByte_ofNat _ byte hmem
    · exact List.all_eq_true.mp (by decide : (ascii "/").all isLineByte) byte hmem
    · exact isLineByte_ofNat _ byte hmem
  · obtain ⟨hne, hdigits, -⟩ := decimal?_eq_some.mp (decimal?_ofNat size)
    apply stripWhile_eq_self
    · intro byte hhead
      obtain rfl := Option.some.inj hhead
      decide
    · intro byte hlast
      rw [rangeValue, List.getLast?_append_of_ne_nil _ hne] at hlast
      have hdigit := hdigits byte (List.mem_of_getLast? hlast)
      rw [isOws, Bool.or_eq_true, decide_eq_true_eq, decide_eq_true_eq]
      rintro (rfl | rfl)
      · exact absurd hdigit (by decide)
      · exact absurd hdigit (by decide)

/-- The fields of a part. -/
def partFields (file : StaticFile) (range : ByteRange file.size) : List Header :=
  [(ascii "Content-Type", trimOws file.mimeType), (ascii "Content-Range", rangeValue range)]

/-- The lines of the fields, as they are sent. -/
def partLines (file : StaticFile) (range : ByteRange file.size) : Bytes :=
  ascii "Content-Type" ++ 58 :: (32 :: (file.mimeType ++ (crlf ++
    (ascii "Content-Range" ++ 58 :: (32 :: (rangeValue range ++ (crlf ++ [])))))))

theorem fieldLines_partLines (htype : ∀ byte ∈ file.mimeType, isLineByte byte)
    (range : ByteRange file.size) : FieldLines (partLines file range) (partFields file range) := by
  obtain ⟨hvalue, htrimmed⟩ := rangeValue_valid range
  have hrange : FieldLines _ _ :=
    FieldLines.cons_padded (by decide : ascii "Content-Range" ≠ [])
      (List.all_eq_true.mp (by decide)) hvalue .nil
  rw [htrimmed] at hrange
  exact FieldLines.cons_padded (by decide) (List.all_eq_true.mp (by decide)) htype hrange

/-- A part begins with the boundary and has its fields and its range. -/
theorem part_append (range : ByteRange file.size) (text : Bytes) :
    part file boundary range ++ text = dashBoundary boundary ++
      (crlf ++ (partLines file range ++ (crlf ++ (file.named range ++ text)))) := by
  have htype : ascii "Content-Type: " = ascii "Content-Type" ++ [58, 32] := rfl
  have hrange : ascii "Content-Range: bytes " =
      ascii "Content-Range" ++ 58 :: 32 :: ascii "bytes " := rfl
  simp only [part, partHeader, partLines, rangeValue, dashBoundary, delimiter, htype, hrange,
    List.append_assoc, List.cons_append, List.nil_append]

theorem isPartOf_sent (range : ByteRange file.size) :
    IsPartOf file range ⟨partFields file range, file.named range⟩ where
  content := rfl
  position := ⟨rangeValue range, by simp +decide [partFields, fieldValues, fields],
    namesRange_rangeValue range⟩
  type := by simp +decide [partFields, fieldValues, fields]

/-- The parts that are sent are read as such if they can be told apart. -/
theorem isMultipart_sent (first : ByteRange file.size) (rest : List (ByteRange file.size))
    (hseparable : Separable file boundary (first :: rest)) :
    IsMultipart boundary
      (crlf.intercalate ((first :: rest).map (part file boundary)) ++ closing boundary)
      ((first :: rest).map fun range => ⟨partFields file range, file.named range⟩) := by
  have hlines := fieldLines_partLines hseparable.type
  induction rest generalizing first with
  | nil =>
      refine ⟨_, ?_, .part (hlines first) (hseparable.content first (List.mem_cons_self ..))
        (.close (.inr (List.prefix_refl crlf)))⟩
      rw [List.map_singleton, List.intercalate_singleton, part_append, closing]
      simp only [dashBoundary, delimiter, List.append_assoc]
  | cons second rest ih =>
      obtain ⟨text, htext, hparts⟩ := ih second
        ⟨hseparable.type, fun range hmem => hseparable.content range (List.mem_cons_of_mem _ hmem)⟩
      refine ⟨_, ?_, .part (hlines first) (hseparable.content first (List.mem_cons_self ..))
        hparts⟩
      rw [← htext, List.map_cons, List.map_cons, List.intercalate_cons_cons, List.append_assoc,
        List.append_assoc, part_append]

/-- A boundary is named as it is. -/
theorem namesBoundary_token (token : HexToken) :
    NamesBoundary (ascii "multipart/byteranges; boundary=" ++ token.text) token.text where
  parameter := ⟨[32], List.all_eq_true.mp (by decide), rfl⟩
  length := by
    rw [token.length_text]
    decide
  chars := by
    intro byte hmem
    have hhex := token.isHex byte hmem
    rw [Bool.or_eq_true, Bool.and_eq_true, decide_eq_true_eq, decide_eq_true_eq] at hhex
    rw [isBoundaryByte, Bool.or_eq_true, Bool.or_eq_true, Bool.or_eq_true]
    rcases hhex with hdigit | ⟨hlow, hhigh⟩
    · exact .inl (.inl (.inl hdigit))
    · refine .inl (.inr ?_)
      rw [Bool.and_eq_true, decide_eq_true_eq, decide_eq_true_eq]
      exact ⟨hlow, UInt8.le_trans hhigh (by decide)⟩

/-- No other boundary is named. -/
theorem NamesBoundary.unique {first second : Bytes}
    (hnames : NamesBoundary (ascii "multipart/byteranges; boundary=" ++ first) second) :
    second = first := by
  obtain ⟨space, hspace, hvalue⟩ := hnames.parameter
  have hsplit : ascii "multipart/byteranges; boundary=" ++ first =
      ascii "multipart/byteranges;" ++ (32 :: (ascii "boundary=" ++ first)) := rfl
  rw [hsplit, List.append_cancel_left_eq] at hvalue
  cases space with
  | nil => cases hvalue
  | cons byte space =>
      obtain ⟨-, hrest⟩ := List.cons.inj hvalue
      cases space with
      | nil =>
          replace hrest : ascii "boundary=" ++ first = ascii "boundary=" ++ second := hrest
          exact (List.append_cancel_left hrest).symm
      | cons next space =>
          obtain ⟨hnext, -⟩ := List.cons.inj
            (show 98 :: (ascii "oundary=" ++ first) = next :: (space ++ _) from hrest)
          have hows := hspace next (by simp)
          rw [← hnext] at hows
          exact absurd hows (by decide)

/-- What is read as the ranges of the file has them separated. -/
theorem Separable.of_read {body : Bytes} {first : ByteRange file.size}
    {rest : List (ByteRange file.size)} {parts : List MimePart}
    (hread : IsMultipart boundary body parts)
    (hparts : List.Forall₂ (IsPartOf file) (first :: rest) parts) :
    Separable file boundary (first :: rest) := by
  obtain ⟨text, -, hafter⟩ := hread
  have hmem := hafter.part_mem
  constructor
  · obtain ⟨part, parts, hpart, -, rfl⟩ := List.forall₂_cons_left_iff.mp hparts
    have hvalues := (hmem part (List.mem_cons_self ..)).2
    obtain ⟨before, after, hsplit, hbefore, hafter⟩ := stripWhile_split isOws file.mimeType
    have hows {byte : UInt8} (hows : isOws byte = true) : isLineByte byte = true := by
      rw [isOws, Bool.or_eq_true, decide_eq_true_eq, decide_eq_true_eq] at hows
      rcases hows with rfl | rfl
      · rfl
      · rfl
    have hcore : ∀ byte ∈ trimOws file.mimeType, isLineByte byte := by
      have hfield : trimOws file.mimeType ∈ fieldValues (ascii "content-type") part.fields := by
        rw [hpart.type]
        exact List.mem_singleton_self _
      obtain ⟨field, hfield, hvalue⟩ := List.mem_map.mp hfield
      rw [← hvalue]
      exact hvalues field (List.mem_of_mem_filter hfield)
    intro byte hbyte
    rw [hsplit] at hbyte
    rcases List.mem_append.mp hbyte with hbyte | hbyte
    · exact hows (hbefore byte hbyte)
    rcases List.mem_append.mp hbyte with hbyte | hbyte
    · exact hcore byte hbyte
    · exact hows (hafter byte hbyte)
  · have hfound : ∀ range ∈ first :: rest, ∃ part ∈ parts, IsPartOf file range part := by
      clear hmem hafter
      generalize first :: rest = ranges at hparts
      induction hparts with
      | nil => exact fun range hnot => absurd hnot List.not_mem_nil
      | cons hhere _ ih =>
          intro range hrange
          rcases List.mem_cons.mp hrange with rfl | hrange
          · exact ⟨_, List.mem_cons_self .., hhere⟩
          · obtain ⟨part, hpart, hof⟩ := ih range hrange
            exact ⟨part, List.mem_cons_of_mem _ hpart, hof⟩
    intro range hrange
    obtain ⟨part, hpart, hof⟩ := hfound range hrange
    rw [← hof.content]
    exact (hmem part hpart).1

end

/-! ## Responses -/

variable (file : StaticFile) (boundary : Bytes) (sendfileEnabled : Bool)

/-- A whole file is served faithfully unless it is empty and its body is asked for. -/
theorem sendFile_faithful (method : FileMethod) (parsed : ParsedRange file.size)
    (hparsed : method = .get → parsed = .ignored) :
    Faithful file method parsed (sendFile file method sendfileEnabled) ↔
      ¬ (method = .get ∧ file.size = 0) := by
  cases method with
  | head =>
      refine iff_of_true ?_ fun hnot => (by cases hnot.1)
      refine ⟨200, _, _, rfl, ?_⟩
      constructor
      case ended => exact ⟨[], _, rfl, fun _ hnot => absurd hnot List.not_mem_nil, rfl⟩
      case declared => exact fun hnot => (by cases hnot)
      case bytes => exact fun hnot => (by cases hnot)
      case encoded => exact fun _ => fileHeaders_encoding file
  | get =>
      obtain rfl := hparsed rfl
      by_cases hsize : file.size = 0
      case pos =>
        refine iff_of_false ?_ fun hnot => hnot ⟨rfl, hsize⟩
        rintro ⟨status, headers, body, heq, hkeeps⟩
        obtain ⟨before, last, hbody, -⟩ := hkeeps.ended
        have hcontent : file.content = [] := List.length_eq_zero_iff.mp hsize
        have hempty : sendFileBody file.content 0 file.size sendfileEnabled = [] := by
          rw [hcontent, hsize, sendFileBody_empty]
        rw [sendFile.eq_def] at heq
        rw [hempty, List.cons.injEq, hbody] at heq
        exact List.append_ne_nil_of_right_ne_nil before (List.cons_ne_nil last []) heq.2.symm
      case neg =>
        refine iff_of_true ?_ fun hnot => hsize hnot.2
        obtain ⟨hended, hbytes⟩ := sendFileBody_eq file.content 0 file.size
          sendfileEnabled (Nat.pos_of_ne_zero hsize) (Nat.zero_add _).le
        rw [List.drop_zero, List.take_of_length_le (show file.content.length ≤ file.size from
          Nat.le_refl _)] at hbytes
        refine ⟨200, _, _, rfl, hended, ?_, fun _ => hbytes, fun _ => fileHeaders_encoding file⟩
        intro _
        dsimp only
        rw [hbytes, fileHeaders_length, StaticFile.size]

/-- A range is served faithfully. -/
theorem send206Single_faithful (range : ByteRange file.size) :
    Faithful file .get (.satisfiable range []) (send206Single file range sendfileEnabled) := by
  have hstop : range.stop < file.content.length := range.stop_lt_size
  have hstart := range.start_le_stop
  obtain ⟨hended, hbytes⟩ := sendFileBody_eq file.content range.start range.count
    sendfileEnabled (Nat.succ_pos _) (by rw [ByteRange.count]; omega)
  refine ⟨206, _, _, rfl, hended, ?_, ?_, fun _ => rangeHeaders_encoding file range⟩
  · intro _
    have hlength := length_named file range
    rw [StaticFile.named] at hlength
    rw [hbytes, hlength, rangeHeaders_length]
  · intro _
    exact ⟨hbytes, rangeValue range, rangeHeaders_range file range, namesRange_rangeValue range⟩

/-- Several ranges are served faithfully unless they are those of a precompressed variant, or the
parts cannot be told apart. -/
theorem send206Multipart_faithful (token : HexToken) (first second : ByteRange file.size)
    (rest : List (ByteRange file.size)) :
    Faithful file .get (.satisfiable first (second :: rest))
        (send206Multipart file token.text (first :: second :: rest)) ↔
      file.encoding = none ∧ Separable file token.text (first :: second :: rest) := by
  obtain ⟨hbytes, hmore⟩ := sendParts_eq file token.text (second :: rest) [] first
  have hbody : (sendParts file token.text [] (first :: second :: rest) ++
      [SendMessage.responseBody (closing token.text) false]).flatMap bytesOf =
        crlf.intercalate ((first :: second :: rest).map (part file token.text)) ++
          closing token.text := by
    rw [List.flatMap_append, hbytes, List.flatMap_singleton, List.nil_append]
    rfl
  have hencoding := multipartHeaders_encoding file token.text (first :: second :: rest)
  have htype := multipartHeaders_type file token.text (first :: second :: rest)
  constructor
  · rintro ⟨status, headers, body, heq, hkeeps⟩
    rw [send206Multipart, List.cons.injEq, SendMessage.responseStart.injEq] at heq
    obtain ⟨⟨rfl, rfl⟩, -⟩ := heq
    have hnone := hkeeps.encoded (.inr rfl)
    rw [hencoding] at hnone
    obtain ⟨value, boundary, parts, hvalue, hnames, hread, hparts⟩ := hkeeps.bytes rfl
    rw [htype] at hvalue
    obtain rfl := List.singleton_inj.mp hvalue
    rw [hnames.unique] at hread
    exact ⟨Option.toList_eq_nil_iff.mp hnone.symm, .of_read hread hparts⟩
  · rintro ⟨hnone, hseparable⟩
    refine ⟨206, _, _, rfl, ⟨_, _, rfl, hmore, rfl⟩, ?_, ?_, ?_⟩
    · intro _
      rw [hbody, length_multipart, multipartHeaders_length]
    · intro _
      rw [hbody]
      refine ⟨_, token.text, _, htype, namesBoundary_token token,
        isMultipart_sent first (second :: rest) hseparable, ?_⟩
      rw [List.forall₂_map_right_iff, List.forall₂_same]
      exact fun range _ => isPartOf_sent range
    · intro _
      rw [hencoding, hnone]
      rfl

/-- What cannot be satisfied is refused. -/
theorem send416_faithful : Faithful file .get .unsatisfiable (send416 file) := by
  refine ⟨416, _, _, rfl, ?_⟩
  constructor
  case ended => exact ⟨[], _, rfl, fun _ hnot => absurd hnot List.not_mem_nil, rfl⟩
  case declared =>
    intro _
    cases file.vary <;> simp +decide [fieldValues, fields, bytesOf]
  case bytes => exact fun _ => rfl
  case encoded => exact fun hnot => absurd hnot (by decide)

/-- An empty file. -/
def emptyFile : StaticFile where
  content := []
  mimeType := ascii "text/css"
  etag := ascii "W/\"0-0\""
  lastModified := ascii "Thu, 01 Jan 1970 00:00:00 GMT"

end Pounce.Static
