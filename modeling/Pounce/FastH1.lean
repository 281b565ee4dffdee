/-
# The fast HTTP/1.1 parser

`parseRequest` is the parser of the synchronous worker. It looks at the received
prefix of a buffer and answers in one of three ways: the request is malformed,
the buffer does not hold all of it yet, or it is complete and the answer carries
the request, its body, and how many bytes were used.

The head is scanned one CRLF line at a time. A line is cut into name and value at
its first colon-space, and only when it has none at its first colon, so
`parsedField` need not agree with the reading that takes the bytes before the
first colon as the name. `ScanInv` says what the scan knows after any number of
lines, and `parseRequest_some` what an accepted request has been checked for.
-/

import Pounce.Protocols.Base

namespace Pounce.FastH1

open Pounce.Math Pounce.Math.Bytes

/-- The blank line that ends a request head. -/
def crlfCrlf : Bytes := [13, 10, 13, 10]

/-! ## Errors -/

def headersTooLarge (maxHeaderSize : ℕ) : ParseError where
  message := "Request headers too large"
  code := "POUNCE_PARSE_HEADERS_TOO_LARGE"
  hint := some s!"Increase max_header_size (current: {maxHeaderSize} bytes)."

def malformedRequestLine : ParseError where
  message := "Malformed request line"
  code := "POUNCE_PARSE_MALFORMED_REQUEST_LINE"

def badMethod : ParseError where
  message := "Malformed HTTP method"
  code := "POUNCE_PARSE_BAD_METHOD"

def badTarget : ParseError where
  message := "Invalid characters in request target"
  code := "POUNCE_PARSE_BAD_TARGET"

def badVersion : ParseError where
  message := "Unsupported HTTP version"
  code := "POUNCE_PARSE_BAD_VERSION"
  hint := some "Pounce supports HTTP/1.0 and HTTP/1.1 on this listener."

def badHeaderName : ParseError where
  message := "Invalid header name"
  code := "POUNCE_PARSE_BAD_HEADER_NAME"

def tooManyHeaders (maxHeaders : ℕ) : ParseError where
  message := "Too many headers"
  code := "POUNCE_PARSE_TOO_MANY_HEADERS"
  hint := some s!"Increase max_headers (current: {maxHeaders})."

def duplicateContentLength : ParseError where
  message := "Duplicate Content-Length header"
  code := "POUNCE_PARSE_DUPLICATE_CONTENT_LENGTH"

def badContentLength : ParseError where
  message := "Invalid Content-Length value"
  code := "POUNCE_PARSE_BAD_CONTENT_LENGTH"

def negativeContentLength : ParseError where
  message := "Negative Content-Length"
  code := "POUNCE_PARSE_NEGATIVE_CONTENT_LENGTH"

def duplicateHost : ParseError where
  message := "Duplicate Host header"
  code := "POUNCE_PARSE_DUPLICATE_HOST"

def smugglingClTe : ParseError where
  message := "Content-Length with Transfer-Encoding"
  code := "POUNCE_PARSE_SMUGGLING_CL_TE"
  hint := some "RFC 7230 §3.3.3 forbids both headers on the same request."

/-! ## The request line -/

/-- A method token character. -/
def isTchar (byte : UInt8) : Bool :=
  isDigit byte || (65 ≤ byte && byte ≤ 90) || (97 ≤ byte && byte ≤ 122) ||
    byte ∈ ascii "!#$%&'*+-.^_\x60|~"

/-- The method pattern: one or more token characters. The pattern's end anchor
also accepts one line feed after them. -/
def methodMatches (method : Bytes) : Bool :=
  let token := if method.getLast? = some 10 then method.dropLast else method
  token ≠ [] && token.all isTchar

/-- The three parts of a request line. -/
structure RequestLine where
  method : Bytes
  target : Bytes
  httpVersion : HttpVersion
  deriving DecidableEq, Repr

/-- The version token. -/
def parseVersion (versionPart : Bytes) : Except ParseError HttpVersion :=
  if versionPart = ascii "HTTP/1.1" then .ok .http11
  else if versionPart = ascii "HTTP/1.0" then .ok .http10
  else .error badVersion

/-- Parse `METHOD /target HTTP/1.x`. -/
def parseRequestLine (firstLine : Bytes) : Except ParseError RequestLine :=
  match findSlice [32] firstLine with
  | none => .error malformedRequestLine
  | some sp1 =>
      let afterMethod := firstLine.drop (sp1 + 1)
      match findSlice [32] afterMethod with
      | none => .error malformedRequestLine
      | some sp2 =>
          let method := firstLine.take sp1
          let target := afterMethod.take sp2
          if !methodMatches method then .error badMethod
          else if 0 ∈ target ∨ 13 ∈ target ∨ 10 ∈ target then .error badTarget
          else (parseVersion (afterMethod.drop (sp2 + 1))).map fun httpVersion =>
            { method, target, httpVersion }

/-! ## Header lines -/

/-- Cut a header line into name and value: at the first colon-space, else at the
first colon, dropping the white space after it. Lines without a colon are not
header fields. -/
def splitField (line : Bytes) : Option Header :=
  match findSlice (ascii ": ") line with
  | some colon => some (line.take colon, line.drop (colon + 2))
  | none =>
      match findSlice (ascii ":") line with
      | some colon => some (line.take colon, lstrip (line.drop (colon + 1)))
      | none => none

/-- A header line as the parser reads it, its name lowered. -/
def parsedField (line : Bytes) : Option Header :=
  (splitField line).map fun field => (lower field.1, field.2)

/-- What the header loop carries from line to line. -/
structure HeaderScan where
  headers : List Header := []
  contentLength : Option ℕ := none
  hasTransferEncoding : Bool := false
  chunked : Bool := false
  hostCount : ℕ := 0
  deriving DecidableEq, Repr

/-- The framing headers: what the loop does with an appended field. -/
def scanField (scan : HeaderScan) (nameLower value : Bytes) : Except ParseError HeaderScan :=
  if nameLower = ascii "content-length" then
    if scan.contentLength.isSome then .error duplicateContentLength
    else match readInt value with
      | none => .error badContentLength
      | some length =>
          if length < 0 then .error negativeContentLength
          else .ok { scan with contentLength := some length.toNat }
  else if nameLower = ascii "transfer-encoding" then
    .ok { scan with
      hasTransferEncoding := true
      chunked := scan.chunked || contains (ascii "chunked") (lower value) }
  else if nameLower = ascii "host" then
    if scan.hostCount + 1 > 1 then .error duplicateHost
    else .ok { scan with hostCount := scan.hostCount + 1 }
  else .ok scan

/-- One turn of the header loop. -/
def scanLine (maxHeaders : ℕ) (scan : HeaderScan) (line : Bytes) : Except ParseError HeaderScan :=
  match splitField line with
  | none => .ok scan
  | some (name, value) =>
      if 32 ∈ name ∨ 0 ∈ name then .error badHeaderName
      else
        let headers := scan.headers ++ [(lower name, value)]
        if headers.length > maxHeaders then .error (tooManyHeaders maxHeaders)
        else scanField { scan with headers } (lower name) value

/-- The header loop. -/
def scanHeaders (maxHeaders : ℕ) (block : Bytes) : Except ParseError HeaderScan :=
  (lines block).foldlM (scanLine maxHeaders) {}

/-! ## The parser -/

/-- A complete request: the head, the body, the bytes used, and whether the
body is left to a chunked decoder. -/
structure Parsed where
  request : RequestReceived
  body : Bytes
  consumed : ℕ
  chunked : Bool
  deriving DecidableEq, Repr

/-- The first line of a head. -/
def firstLine (head : Bytes) : Bytes :=
  match findSlice crlf head with
  | none => head
  | some firstLineEnd => head.take firstLineEnd

/-- What follows the first line of a head. -/
def headerBlock (head : Bytes) : Bytes :=
  match findSlice crlf head with
  | none => []
  | some firstLineEnd => head.drop (firstLineEnd + 2)

/-- The request line and headers of a head. -/
def parseHead (maxHeaders : ℕ) (head : Bytes) :
    Except ParseError (RequestReceived × HeaderScan) :=
  match parseRequestLine (firstLine head) with
  | .error error => .error error
  | .ok line =>
      match scanHeaders maxHeaders (headerBlock head) with
      | .error error => .error error
      | .ok scan =>
          if scan.contentLength.isSome ∧ scan.hasTransferEncoding then .error smugglingClTe
          else .ok ({ line with headers := scan.headers }, scan)

/-- The number of body bytes to take: none when a chunked body is left to the
caller, the declared length otherwise. -/
def bodyLength (scan : HeaderScan) : ℕ :=
  if scan.chunked then 0 else scan.contentLength.getD 0

/-- Parse a request from the first `length` bytes of a buffer. `none` means the
buffer does not hold a complete request yet. -/
def parseRequest (buf : Bytes) (length : ℕ) (maxHeaders maxHeaderSize : ℕ) :
    Except ParseError (Option Parsed) :=
  let data := buf.take length
  match findSlice crlfCrlf data with
  | none =>
      if length > maxHeaderSize then .error (headersTooLarge maxHeaderSize) else .ok none
  | some headerEnd =>
      if headerEnd > maxHeaderSize then .error (headersTooLarge maxHeaderSize)
      else match parseHead maxHeaders (data.take headerEnd) with
        | .error error => .error error
        | .ok (request, scan) =>
            let bodyStart := headerEnd + 4
            let consumed := bodyStart + bodyLength scan
            if consumed > length then .ok none
            else
              let body := (data.drop bodyStart).take (bodyLength scan)
              .ok (some { request, body, consumed, chunked := scan.chunked })

/-! ## What the scan knows -/

/-- The values of the fields with this name, in order. -/
def valuesOf (name : Bytes) (fields : List Header) : List Bytes :=
  fields.filterMap fun field => if field.1 = name then some field.2 else none

@[simp]
theorem valuesOf_append (name : Bytes) (first second : List Header) :
    valuesOf name (first ++ second) = valuesOf name first ++ valuesOf name second := by
  simp [valuesOf]

@[simp]
theorem valuesOf_singleton (name : Bytes) (field : Header) :
    valuesOf name [field] = if field.1 = name then [field.2] else [] := by
  by_cases h : field.1 = name <;> simp [valuesOf, h]

theorem mem_valuesOf {name value : Bytes} {fields : List Header} :
    value ∈ valuesOf name fields ↔ (name, value) ∈ fields := by
  simp only [valuesOf, List.mem_filterMap, Option.ite_none_right_eq_some, Option.some.injEq]
  constructor
  · rintro ⟨⟨_, _⟩, hmem, rfl, rfl⟩
    exact hmem
  · exact fun hmem => ⟨(name, value), hmem, rfl, rfl⟩

/-- The header loop after the fields `fields`: the flags it tracks separately
are those of the fields it has appended. -/
structure ScanInv (fields : List Header) (scan : HeaderScan) : Prop where
  headers : scan.headers = fields
  contentLength_none : scan.contentLength = none → valuesOf (ascii "content-length") fields = []
  contentLength_some : ∀ length, scan.contentLength = some length →
    ∃ value, valuesOf (ascii "content-length") fields = [value] ∧
      readInt value = some (length : ℤ)
  hasTransferEncoding : scan.hasTransferEncoding ↔
    valuesOf (ascii "transfer-encoding") fields ≠ []
  chunked : scan.chunked ↔
    ∃ value ∈ valuesOf (ascii "transfer-encoding") fields,
      contains (ascii "chunked") (lower value)

theorem ScanInv.init : ScanInv [] {} where
  headers := rfl
  contentLength_none _ := rfl
  contentLength_some := by simp
  hasTransferEncoding := by simp [valuesOf]
  chunked := by simp [valuesOf]

/-- Appending a field keeps the flags in step with the fields. -/
theorem scanField_inv {fields : List Header} {scan scan' : HeaderScan} {name value : Bytes}
    (hinv : ScanInv fields scan)
    (hscan : scanField { scan with headers := scan.headers ++ [(name, value)] } name value =
      .ok scan') :
    ScanInv (fields ++ [(name, value)]) scan' := by
  have hclte : ascii "content-length" ≠ ascii "transfer-encoding" := by decide
  simp only [scanField] at hscan
  split at hscan
  case isTrue hcl =>
    subst hcl
    split at hscan
    · cases hscan
    case isFalse hfirst =>
      have hnone : scan.contentLength = none := by simpa using hfirst
      split at hscan
      · cases hscan
      case h_2 length hread =>
        split at hscan
        · cases hscan
        case isFalse hnonneg =>
          cases hscan
          constructor
          · simp [hinv.headers]
          · simp
          · rintro length' hlength
            refine ⟨value, by simp [hinv.contentLength_none hnone], ?_⟩
            have hcast : length.toNat = length' := by simpa using hlength
            rw [hread, ← hcast, Int.toNat_of_nonneg (by omega)]
          · simpa [hclte] using hinv.hasTransferEncoding
          · simpa [hclte] using hinv.chunked
  case isFalse hcl =>
    split at hscan
    case isTrue hte =>
      subst hte
      cases hscan
      constructor
      · simp [hinv.headers]
      · simpa [hclte.symm] using hinv.contentLength_none
      · simpa [hclte.symm] using hinv.contentLength_some
      · simp
      · simp [hinv.chunked, or_and_right, exists_or]
    case isFalse hte =>
      have hkeep : ScanInv (fields ++ [(name, value)])
          { scan with headers := scan.headers ++ [(name, value)] } := by
        constructor
        · simp [hinv.headers]
        · simpa [hcl] using hinv.contentLength_none
        · simpa [hcl] using hinv.contentLength_some
        · simpa [hte] using hinv.hasTransferEncoding
        · simpa [hte] using hinv.chunked
      split at hscan
      · split at hscan
        · cases hscan
        · cases hscan
          exact ⟨hkeep.headers, hkeep.contentLength_none, hkeep.contentLength_some,
            hkeep.hasTransferEncoding, hkeep.chunked⟩
      · cases hscan
        exact hkeep

/-- One turn of the loop appends the field of its line, if it has one. -/
theorem scanLine_inv {maxHeaders : ℕ} {fields : List Header} {scan scan' : HeaderScan}
    {line : Bytes} (hinv : ScanInv fields scan)
    (hscan : scanLine maxHeaders scan line = .ok scan') :
    ScanInv (fields ++ (parsedField line).toList) scan' := by
  simp only [scanLine] at hscan
  split at hscan
  case h_1 hnone =>
    cases hscan
    simpa [parsedField, hnone] using hinv
  case h_2 name value hsome =>
    split at hscan
    · cases hscan
    · split at hscan
      · cases hscan
      · simpa [parsedField, hsome] using scanField_inv hinv hscan

/-- After the whole loop the scan knows every field of the block. -/
theorem scanHeaders_inv {maxHeaders : ℕ} {block : Bytes} {scan : HeaderScan}
    (hscan : scanHeaders maxHeaders block = .ok scan) :
    ScanInv ((lines block).filterMap parsedField) scan := by
  have hrun : ∀ (rest : List Bytes) (fields : List Header) (start : HeaderScan),
      ScanInv fields start → rest.foldlM (scanLine maxHeaders) start = .ok scan →
      ScanInv (fields ++ rest.filterMap parsedField) scan := by
    intro rest
    induction rest with
    | nil =>
        intro fields start hinv hfold
        cases hfold
        simpa using hinv
    | cons line rest ih =>
        intro fields start hinv hfold
        rw [List.foldlM_cons] at hfold
        cases hline : scanLine maxHeaders start line with
        | error error =>
            rw [hline] at hfold
            cases hfold
        | ok next =>
            rw [hline] at hfold
            have hnext := ih _ next (scanLine_inv hinv hline) hfold
            cases hfield : parsedField line with
            | none => simpa [List.filterMap_cons, hfield] using hnext
            | some field => simpa [List.filterMap_cons, hfield] using hnext
  simpa using hrun (lines block) [] {} ScanInv.init hscan

/-! ## What acceptance has checked -/

/-- The header block of a head holds its lines after the first. -/
theorem lines_headerBlock (head : Bytes) : lines (headerBlock head) = (lines head).tail := by
  rw [lines_eq head]
  simp only [headerBlock]
  by_cases hempty : head = []
  · subst hempty
    simp [findSlice, crlf, lines]
  · rw [if_neg hempty]
    cases findSlice crlf head with
    | none => simp [lines]
    | some index => rfl

/-- A head that parses has a scanned header block without conflicting framing. -/
theorem parseHead_ok {maxHeaders : ℕ} {head : Bytes} {request : RequestReceived}
    {scan : HeaderScan} (hparse : parseHead maxHeaders head = .ok (request, scan)) :
    ScanInv ((lines head).tail.filterMap parsedField) scan ∧
      ¬ (scan.contentLength.isSome ∧ scan.hasTransferEncoding) ∧
      request.headers = scan.headers := by
  simp only [parseHead] at hparse
  split at hparse
  · cases hparse
  · split at hparse
    · cases hparse
    case h_2 scanned hscan =>
      split at hparse
      · cases hparse
      case isFalse hconflict =>
        cases hparse
        exact ⟨lines_headerBlock head ▸ scanHeaders_inv hscan, hconflict, rfl⟩

/-- Everything an accepted request has been checked for, and what it reports. -/
theorem parseRequest_some {buf : Bytes} {length maxHeaders maxHeaderSize : ℕ} {parsed : Parsed} :
    parseRequest buf length maxHeaders maxHeaderSize = .ok (some parsed) ↔
      ∃ headerEnd request scan,
        findSlice crlfCrlf (buf.take length) = some headerEnd ∧
        headerEnd ≤ maxHeaderSize ∧
        parseHead maxHeaders ((buf.take length).take headerEnd) = .ok (request, scan) ∧
        headerEnd + 4 + bodyLength scan ≤ length ∧
        parsed = {
          request
          body := ((buf.take length).drop (headerEnd + 4)).take (bodyLength scan)
          consumed := headerEnd + 4 + bodyLength scan
          chunked := scan.chunked } := by
  simp only [parseRequest]
  cases hend : findSlice crlfCrlf (buf.take length) with
  | none => simp only [reduceCtorEq, false_and, exists_false, iff_false]; split <;> simp
  | some headerEnd =>
      simp only [Option.some.injEq]
      constructor
      · intro hparse
        split at hparse
        · cases hparse
        case isFalse hsize =>
          split at hparse
          · cases hparse
          case h_2 request scan hhead =>
            split at hparse
            · cases hparse
            case isFalse hfits =>
              cases hparse
              exact ⟨headerEnd, request, scan, rfl, by omega, hhead, by omega, rfl⟩
      · rintro ⟨_, request, scan, rfl, hsize, hhead, hfits, rfl⟩
        rw [if_neg (by omega), hhead]
        simp only []
        rw [if_neg (by omega)]

/-! ## Partial and pipelined input -/

/-- The bytes before the blank line. -/
def headOf (data : Bytes) : Bytes := data.take ((findSlice crlfCrlf data).getD data.length)

/-- The head is the part the parser scans. -/
theorem headOf_eq {data : Bytes} {headerEnd : ℕ}
    (hend : findSlice crlfCrlf data = some headerEnd) :
    headOf data = data.take headerEnd ∧ (headOf data).length = headerEnd := by
  have hle := findSlice_add_length_le hend
  simp only [headOf, hend, Option.getD_some, true_and, List.length_take]
  omega

/-- A complete request is parsed the same whatever follows it. -/
theorem parseRequest_append {wire more buf : Bytes} {length maxHeaders maxHeaderSize : ℕ}
    {parsed : Parsed} (hbuf : buf.take length = wire ++ more) (hlength : length ≤ buf.length)
    (hparse : parseRequest wire wire.length maxHeaders maxHeaderSize = .ok (some parsed)) :
    parseRequest buf length maxHeaders maxHeaderSize = .ok (some parsed) := by
  obtain ⟨headerEnd, request, scan, hend, hsize, hhead, hfits, rfl⟩ := parseRequest_some.mp hparse
  rw [List.take_length] at hend hhead
  have hlong : wire.length ≤ length := by
    have hcount := congrArg List.length hbuf
    simp only [List.length_take, List.length_append] at hcount
    omega
  refine parseRequest_some.mpr ⟨headerEnd, request, scan, ?_, hsize, ?_, by omega, ?_⟩
  · rw [hbuf]
    exact findSlice_append hend more
  · rw [hbuf, List.take_append_of_le_length (by omega)]
    exact hhead
  · rw [hbuf, List.take_length, List.drop_append_of_le_length (by omega),
      List.take_append_of_le_length (by rw [List.length_drop]; omega)]

/-- A strict prefix of a complete request is not parsed yet, unless it exceeds
the head limit before its blank line has arrived. -/
theorem parseRequest_take {wire buf : Bytes} {length maxHeaders maxHeaderSize : ℕ}
    {parsed : Parsed} (hbuf : buf.take length = wire.take length) (hshort : length < wire.length)
    (hparse : parseRequest wire wire.length maxHeaders maxHeaderSize = .ok (some parsed))
    (hconsumed : parsed.consumed = wire.length) :
    parseRequest buf length maxHeaders maxHeaderSize =
      if (headOf wire).length + 4 ≤ length ∨ length ≤ maxHeaderSize then .ok none
      else .error (headersTooLarge maxHeaderSize) := by
  obtain ⟨headerEnd, request, scan, hend, hsize, hhead, hfits, rfl⟩ := parseRequest_some.mp hparse
  rw [List.take_length] at hend hhead
  simp only at hconsumed
  rw [(headOf_eq hend).2]
  have hfind := findSlice_take hend length
  simp only [parseRequest, hbuf, hfind]
  by_cases harrived : headerEnd + 4 ≤ length
  · have hsame : (wire.take length).take headerEnd = wire.take headerEnd := by
      rw [List.take_take, Nat.min_eq_left (by omega)]
    rw [if_pos (show headerEnd + crlfCrlf.length ≤ length from harrived), if_pos (Or.inl harrived)]
    simp only []
    rw [if_neg (by omega), hsame, hhead]
    simp only []
    rw [if_pos (by omega)]
  · rw [if_neg (show ¬ headerEnd + crlfCrlf.length ≤ length from harrived)]
    by_cases hlimit : length ≤ maxHeaderSize
    · rw [if_pos (Or.inr hlimit)]
      simp only []
      rw [if_neg (by omega)]
    · have hover : ¬ (headerEnd + 4 ≤ length ∨ length ≤ maxHeaderSize) := by omega
      rw [if_neg hover]
      simp only []
      rw [if_pos (by omega)]

end Pounce.FastH1
