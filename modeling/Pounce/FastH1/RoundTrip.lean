/-
# Parsing what was serialized

A well-formed request is written as a request line, one `name: value` line for each header, a
blank line and the body. The parser finds its way back by searching: for the blank line, for line
ends, for a colon-space. None of the searches is misled, since the parts before the place it looks
for do not contain what it looks for; values and bodies come after it and may contain anything the
grammar allows.

So the parser returns the request that was written, with its header names in lower case, and the
number of bytes it was written in, whatever follows. The one thing that can go wrong is a declared
length with so many digits that no integer is read from it.
-/

import Pounce.FastH1.Lexical
import Pounce.Math.Message

namespace Pounce.FastH1

open Pounce.Math Pounce.Math.Bytes
open Pounce.Math.Message (fieldLine)

variable {line : Bytes} {request : RequestReceived} {body : Bytes}
  {maxHeaders maxHeaderSize : ℕ}

/-! ## Writing a request -/

/-- The version token of a request line. -/
def versionToken : HttpVersion → Bytes
  | .http10 => ascii "HTTP/1.0"
  | _ => ascii "HTTP/1.1"

/-- The request line. -/
def requestLine (request : RequestReceived) : Bytes :=
  request.method ++ 32 :: (request.target ++ 32 :: versionToken request.httpVersion)

/-- The lines of the head. -/
def headLines (request : RequestReceived) : List Bytes :=
  requestLine request :: request.headers.map fieldLine

/-- Lines with a line end between any two of them. -/
def joinLines (block : List Bytes) : Bytes := crlf.intercalate block

/-- A request as it is sent. -/
def serializeRequest (request : RequestReceived) (body : Bytes) : Bytes :=
  joinLines (headLines request) ++ (crlfCrlf ++ body)

/-- The header names as the parser reports them. -/
def lowerNames (headers : List Header) : List Header :=
  headers.map fun header => (lower header.1, header.2)

/-- A request that is well formed, with its body. -/
structure WellFormed (maxHeaders maxHeaderSize : ℕ) (request : RequestReceived) (body : Bytes) :
    Prop where
  method : Token request.method
  target : ∀ byte ∈ request.target, byte ∉ [0, 10, 13, 32]
  version : request.httpVersion = .http10 ∨ request.httpVersion = .http11
  names : ∀ header ∈ request.headers, Token header.1
  /-- No NUL, CR or LF in a value, and no white space around it. -/
  values : ∀ header ∈ request.headers, Clean header.2 ∧ strip header.2 = header.2
  count : request.headers.length ≤ maxHeaders
  hosts : (valuesOf (ascii "host") (lowerNames request.headers)).length ≤ 1
  unchunked : valuesOf (ascii "transfer-encoding") (lowerNames request.headers) = []
  /-- The length of the body is declared, or there is none. -/
  declared : valuesOf (ascii "content-length") (lowerNames request.headers) = [] ∧ body = [] ∨
    ∃ numeral, valuesOf (ascii "content-length") (lowerNames request.headers) = [numeral] ∧
      decimal? numeral = some body.length
  size : (joinLines (headLines request)).length ≤ maxHeaderSize

/-- A declared length of which an integer is read: one of 4300 digits at most. -/
def ShortLength (request : RequestReceived) : Prop :=
  ∀ numeral ∈ valuesOf (ascii "content-length") (lowerNames request.headers),
    numeral.length ≤ maxIntDigits

instance (request : RequestReceived) : Decidable (ShortLength request) :=
  inferInstanceAs (Decidable (∀ _ ∈ _, _))

/-- What the parser has to say about a request that was written. -/
def readBack (request : RequestReceived) (body : Bytes) : Parsed where
  request := { request with headers := lowerNames request.headers }
  body := body
  consumed := (serializeRequest request body).length
  chunked := false

/-! ## Searching -/

@[simp]
theorem joinLines_single (line : Bytes) : joinLines [line] = line := by
  simp [joinLines, List.intercalate]

theorem joinLines_cons {line next : Bytes} {block : List Bytes} :
    joinLines (line :: next :: block) = line ++ (crlf ++ joinLines (next :: block)) := by
  simp [joinLines, List.intercalate, List.intersperse]

/-- The lines that were joined are the lines of the whole. -/
theorem lines_joinLines {block : List Bytes} (hblock : ∀ line ∈ block, 13 ∉ line ∧ line ≠ []) :
    lines (joinLines block) = block := by
  induction block with
  | nil => rfl
  | cons line block ih =>
      obtain ⟨hline, hne⟩ := hblock line (List.mem_cons_self ..)
      cases block with
      | nil =>
          rw [joinLines_single]
          exact lines_single hline hne
      | cons next block =>
          rw [joinLines_cons, lines_append hline, ih]
          intro other hother
          exact hblock other (List.mem_cons_of_mem _ hother)

/-- The first blank line is the one behind the lines. -/
theorem findSlice_joinLines {block : List Bytes} (hne : block ≠ [])
    (hblock : ∀ line ∈ block, 13 ∉ line ∧ line ≠ []) (after : Bytes) :
    findSlice crlfCrlf (joinLines block ++ (crlfCrlf ++ after)) =
      some (joinLines block).length := by
  induction block with
  | nil => exact absurd rfl hne
  | cons line block ih =>
      have hline := (hblock line (List.mem_cons_self ..)).1
      cases block with
      | nil =>
          rw [joinLines_single, crlfCrlf, findSlice_skip hline]
          simp [findSlice]
      | cons next block =>
          obtain ⟨hnext, hopens⟩ := hblock next (List.mem_cons_of_mem _ (List.mem_cons_self ..))
          have hlater := ih (List.cons_ne_nil _ _) fun other hother =>
            hblock other (List.mem_cons_of_mem _ hother)
          -- a line end is not a blank line when the next line begins with another byte
          obtain ⟨byte, others, rfl⟩ := List.exists_cons_of_ne_nil hopens
          have hbyte : byte ≠ 13 := by
            rintro rfl
            exact hnext (List.mem_cons_self ..)
          obtain ⟨tail, htail⟩ : ∃ tail, joinLines ((byte :: others) :: block) = byte :: tail := by
            cases block with
            | nil => exact ⟨others, joinLines_single _⟩
            | cons => exact ⟨_, joinLines_cons⟩
          rw [htail] at hlater
          rw [joinLines_cons, List.append_assoc, htail, crlfCrlf, findSlice_skip hline, ← crlfCrlf]
          have hstep : findSlice crlfCrlf (crlf ++ byte :: tail ++ (crlfCrlf ++ after)) =
              some ((byte :: tail).length + 2) := by
            rw [show crlf ++ byte :: tail ++ (crlfCrlf ++ after) =
              13 :: 10 :: (byte :: tail ++ (crlfCrlf ++ after)) by simp [crlf]]
            rw [findSlice, findSlice, hlater]
            simp [crlfCrlf, hbyte.symm]
          rw [hstep, Option.map_some]
          simp [crlf]
          omega

/-! ## Reading the lines back -/

/-- A header line is cut where its name ends. -/
theorem parsedField_fieldLine {header : Header} (hname : Token header.1) :
    parsedField (fieldLine header) = some (lower header.1, header.2) := by
  have hcolon : findSlice (ascii ": ") (fieldLine header) = some header.1.length := by
    rw [fieldLine, List.append_assoc, show ascii ": " = [58, 32] from rfl,
      findSlice_skip hname.colon_notMem]
    simp [findSlice]
  have htake : (fieldLine header).take header.1.length = header.1 := by
    rw [fieldLine, List.append_assoc, List.take_left]
  have hdrop : (fieldLine header).drop (header.1.length + 2) = header.2 := by
    rw [fieldLine, List.append_assoc, ← List.drop_drop, List.drop_left]
    rfl
  simp only [parsedField, splitField, hcolon, htake, hdrop, Option.map_some]

/-- All header lines give their headers back. -/
theorem filterMap_parsedField {headers : List Header}
    (hnames : ∀ header ∈ headers, Token header.1) :
    (headers.map fieldLine).filterMap parsedField = lowerNames headers := by
  induction headers with
  | nil => rfl
  | cons header headers ih =>
      have hfirst := parsedField_fieldLine (hnames header (List.mem_cons_self ..))
      rw [List.map_cons, List.filterMap_cons_some hfirst,
        ih fun other hother => hnames other (List.mem_cons_of_mem _ hother)]
      rfl

/-- The request line is read back. -/
theorem parseRequestLine_requestLine (hmethod : Token request.method)
    (htarget : ∀ byte ∈ request.target, byte ∉ [0, 10, 13, 32])
    (hversion : request.httpVersion = .http10 ∨ request.httpVersion = .http11) :
    parseRequestLine (requestLine request) =
      .ok { method := request.method, target := request.target,
            httpVersion := request.httpVersion } := by
  have htoken : parseVersion (versionToken request.httpVersion) = .ok request.httpVersion := by
    rcases hversion with hold | hnew
    · rw [hold]
      decide
    · rw [hnew]
      decide
  exact parseRequestLine_append (methodMatches_of_token hmethod) htarget htoken

/-! ## The head -/

/-- The first line of a head is the first of its lines. -/
theorem firstLine_of_lines {head : Bytes} {block : List Bytes}
    (hlines : lines head = line :: block) : firstLine head = line := by
  rw [lines_eq] at hlines
  split at hlines
  · cases hlines
  · rw [firstLine]
    cases hfind : findSlice crlf head with
    | none =>
        rw [hfind] at hlines
        exact (List.cons.inj hlines).1
    | some index =>
        rw [hfind] at hlines
        exact (List.cons.inj hlines).1

/-- A head that is valid is parsed into its first line and its fields. -/
theorem parseHead_of_valid {head : Bytes} {parts : RequestLine}
    (hline : parseRequestLine (firstLine head) = .ok parts) (hvalid : ValidHead maxHeaders head) :
    ∃ scan, parseHead maxHeaders head = .ok ({ parts with headers := parsedFields head }, scan) ∧
      ScanInv (parsedFields head) scan := by
  obtain ⟨⟨parsed, scan⟩, hparse⟩ := parseHead_ok_iff.mpr hvalid
  obtain ⟨hinv, -, hheaders⟩ := parseHead_ok hparse
  refine ⟨scan, ?_, hinv⟩
  rw [hparse]
  simp only [parseHead, hline] at hparse
  split at hparse
  · cases hparse
  · split at hparse
    · cases hparse
    · cases hparse
      rw [hinv.headers]
      rfl

namespace WellFormed

/-- No line of the head is blank or contains a line end. -/
theorem headLines_clean (hwell : WellFormed maxHeaders maxHeaderSize request body) :
    ∀ line ∈ headLines request, 13 ∉ line ∧ line ≠ [] := by
  have htoken {bytes : Bytes} (htoken : Token bytes) : 13 ∉ bytes := fun hmem =>
    absurd (htoken.2 13 hmem) (by decide)
  intro line hmem
  rw [headLines, List.mem_cons, List.mem_map] at hmem
  rcases hmem with rfl | ⟨header, hheader, rfl⟩
  · constructor
    · have htarget : 13 ∉ request.target := fun hmem => hwell.target 13 hmem (by decide)
      have hversion : 13 ∉ versionToken request.httpVersion := by
        rcases hwell.version with hold | hnew
        · rw [hold]
          decide
        · rw [hnew]
          decide
      simp [requestLine, htoken hwell.method, htarget, hversion]
    · simp [requestLine]
  · obtain ⟨hclean, -⟩ := hwell.values header hheader
    constructor
    · have hvalue : 13 ∉ header.2 := fun hmem => hclean 13 hmem (by decide)
      have hcolon : (13 : UInt8) ∉ ascii ": " := by decide
      simp [fieldLine, htoken (hwell.names header hheader), hvalue, hcolon]
    · simp [fieldLine, (hwell.names header hheader).1]

/-- The fields of the head are the headers. -/
theorem parsedFields_head (hwell : WellFormed maxHeaders maxHeaderSize request body) :
    parsedFields (joinLines (headLines request)) = lowerNames request.headers := by
  rw [parsedFields, lines_joinLines hwell.headLines_clean, headLines, List.tail_cons,
    filterMap_parsedField hwell.names]

/-- The length of the body is read from the head, unless it has too many digits. -/
theorem readInt_numeral (hwell : WellFormed maxHeaders maxHeaderSize request body) {numeral : Bytes}
    (hmem : numeral ∈ valuesOf (ascii "content-length") (lowerNames request.headers)) :
    readInt numeral =
      if numeral.length ≤ maxIntDigits then some (body.length : ℤ) else none := by
  rcases hwell.declared with ⟨hnone, -⟩ | ⟨found, hfound, hdecimal⟩
  · rw [hnone] at hmem
    cases hmem
  · rw [hfound, List.mem_singleton] at hmem
    rw [hmem]
    exact readInt_of_decimal? hdecimal

/-- The head is one the parser takes. -/
theorem validHead (hwell : WellFormed maxHeaders maxHeaderSize request body)
    (hshort : ShortLength request)
    (hline : firstLine (joinLines (headLines request)) = requestLine request) :
    ValidHead maxHeaders (joinLines (headLines request)) where
  requestLine := by
    rw [hline]
    exact parseRequestLine_ok_iff.mp
      ⟨_, parseRequestLine_requestLine hwell.method hwell.target hwell.version⟩
  fields := by
    rw [hwell.parsedFields_head]
    constructor
    case names =>
      intro field hfield
      obtain ⟨header, hheader, rfl⟩ := List.mem_map.mp hfield
      have hname := hwell.names header hheader
      constructor
      · intro hmem
        exact absurd ((token_lower.mpr hname).2 32 hmem) (by decide)
      · intro hmem
        exact absurd ((token_lower.mpr hname).2 0 hmem) (by decide)
    case count =>
      rw [lowerNames, List.length_map]
      exact hwell.count
    case lengths =>
      rcases hwell.declared with ⟨hnone, -⟩ | ⟨numeral, hone, -⟩
      · rw [hnone]
        exact Nat.zero_le 1
      · rw [hone]
        exact le_rfl
    case readable =>
      intro value hvalue
      refine ⟨body.length, ?_⟩
      rw [hwell.readInt_numeral hvalue, if_pos (hshort value hvalue)]
    case hosts => exact hwell.hosts
  framing := by
    rw [hwell.parsedFields_head]
    exact .inr hwell.unchunked

/-- What the scan of the head has found. -/
theorem bodyLength_eq (hwell : WellFormed maxHeaders maxHeaderSize request body)
    {scan : HeaderScan} (hinv : ScanInv (lowerNames request.headers) scan) :
    scan.chunked = false ∧ bodyLength scan = body.length := by
  have hchunked : scan.chunked = false := by
    rw [Bool.eq_false_iff]
    intro hchunked
    obtain ⟨value, hvalue, -⟩ := hinv.chunked.mp hchunked
    rw [hwell.unchunked] at hvalue
    cases hvalue
  refine ⟨hchunked, ?_⟩
  rw [bodyLength, hchunked, if_neg (by simp)]
  cases hlength : scan.contentLength with
  | none =>
      rcases hwell.declared with ⟨-, hbody⟩ | ⟨numeral, hone, -⟩
      · rw [hbody]
        rfl
      · rw [hinv.contentLength_none hlength] at hone
        cases hone
  | some length =>
      obtain ⟨value, hvalue, hread⟩ := hinv.contentLength_some length hlength
      have hbody := hwell.readInt_numeral (hvalue ▸ List.mem_singleton_self value)
      rw [hread] at hbody
      split at hbody
      · exact Int.ofNat_inj.mp (Option.some.inj hbody)
      · cases hbody

end WellFormed

/-! ## The whole -/

/-- The head of what was written. -/
theorem findSlice_serializeRequest (hwell : WellFormed maxHeaders maxHeaderSize request body)
    (suffix : Bytes) :
    findSlice crlfCrlf (serializeRequest request body ++ suffix) =
      some (joinLines (headLines request)).length := by
  rw [serializeRequest, List.append_assoc, List.append_assoc]
  exact findSlice_joinLines (List.cons_ne_nil _ _) hwell.headLines_clean (body ++ suffix)

/-- What is written for a well-formed request is parsed as that request, whatever follows. -/
theorem parseRequest_serializeRequest (hwell : WellFormed maxHeaders maxHeaderSize request body)
    (hshort : ShortLength request) (suffix : Bytes) :
    parseRequest (serializeRequest request body ++ suffix)
        (serializeRequest request body ++ suffix).length maxHeaders maxHeaderSize =
      .ok (some (readBack request body)) := by
  have hlines := lines_joinLines hwell.headLines_clean
  have hfirst := firstLine_of_lines hlines
  obtain ⟨scan, hhead, hinv⟩ := parseHead_of_valid
    (by rw [hfirst]; exact parseRequestLine_requestLine hwell.method hwell.target hwell.version)
    (hwell.validHead hshort hfirst)
  rw [hwell.parsedFields_head] at hhead hinv
  obtain ⟨hchunked, hbody⟩ := hwell.bodyLength_eq hinv
  have hend := findSlice_serializeRequest hwell []
  rw [List.append_nil] at hend
  have hlength : (serializeRequest request body).length =
      (joinLines (headLines request)).length + 4 + body.length := by
    rw [serializeRequest, List.length_append, List.length_append, ← Nat.add_assoc]
    rfl
  refine parseRequest_append (List.take_length ..) le_rfl ?_
  rw [parseRequest_some, List.take_length]
  refine ⟨_, { request with headers := lowerNames request.headers }, scan, hend, hwell.size,
    ?_, ?_, ?_⟩
  · rw [serializeRequest, List.take_left]
    exact hhead
  · rw [hbody, hlength]
  · have hafter : (serializeRequest request body).drop
        ((joinLines (headLines request)).length + 4) = body := by
      rw [serializeRequest, ← List.drop_drop, List.drop_left]
      rfl
    rw [hafter, hbody, List.take_length, hchunked, readBack, hlength]

/-- What is parsed had a length of which an integer is read. -/
theorem shortLength_of_parseRequest (hwell : WellFormed maxHeaders maxHeaderSize request body)
    {suffix : Bytes} {parsed : Parsed}
    (hparse : parseRequest (serializeRequest request body ++ suffix)
      (serializeRequest request body ++ suffix).length maxHeaders maxHeaderSize =
        .ok (some parsed)) :
    ShortLength request := by
  obtain ⟨headerEnd, found, scan, hend, -, hhead, -⟩ := parseRequest_some.mp hparse
  rw [List.take_length, findSlice_serializeRequest hwell suffix, Option.some.injEq] at hend
  rw [List.take_length, ← hend, serializeRequest, List.append_assoc, List.take_left] at hhead
  have hvalid := (parseHead_ok_iff.mp ⟨_, hhead⟩).fields.readable
  rw [hwell.parsedFields_head] at hvalid
  intro numeral hmem
  obtain ⟨size, hsize⟩ := hvalid numeral hmem
  by_contra hlong
  rw [hwell.readInt_numeral hmem, if_neg hlong] at hsize
  cases hsize

/-- What is written for a well-formed request is parsed as that request, whatever follows, exactly
when an integer is read from the length it declares. -/
theorem parseRequest_serializeRequest_iff (request : RequestReceived) (body suffix : Bytes)
    (maxHeaders maxHeaderSize : ℕ) (hwell : WellFormed maxHeaders maxHeaderSize request body) :
    parseRequest (serializeRequest request body ++ suffix)
        (serializeRequest request body ++ suffix).length maxHeaders maxHeaderSize =
      .ok (some (readBack request body)) ↔ ShortLength request :=
  ⟨shortLength_of_parseRequest hwell, fun hshort => parseRequest_serializeRequest hwell hshort suffix⟩

/-! ## Two requests -/

/-- A request with a value that contains a colon-space, and a body that contains a blank line. -/
def colonRequest : RequestReceived where
  method := ascii "POST"
  target := ascii "/a"
  headers := [(ascii "X-Note", ascii "a: b"), (ascii "Content-Length", ascii "5")]
  httpVersion := .http11

theorem parseRequest_serializeRequest_colon :
    parseRequest (serializeRequest colonRequest (ascii "\r\n\r\nx") ++ ascii "GET")
        (serializeRequest colonRequest (ascii "\r\n\r\nx") ++ ascii "GET").length 100 16384 =
      .ok (some (readBack colonRequest (ascii "\r\n\r\nx"))) := by
  refine (parseRequest_serializeRequest_iff colonRequest (ascii "\r\n\r\nx") (ascii "GET")
    100 16384 ?_).mpr (by decide +kernel)
  constructor
  case method =>
    unfold Token
    decide +kernel
  case target => decide +kernel
  case version => decide
  case names =>
    unfold Token
    decide +kernel
  case values =>
    unfold Clean
    decide +kernel
  case count => decide
  case hosts => decide +kernel
  case unchunked => decide +kernel
  case declared => exact .inr ⟨ascii "5", by decide +kernel, by decide +kernel⟩
  case size => decide +kernel

/-- A length of five, written with 4301 digits. -/
def paddedFive : Bytes := List.replicate maxIntDigits 48 ++ [53]

theorem isDigit_paddedFive : ∀ byte ∈ paddedFive, isDigit byte := by
  intro byte hmem
  rcases List.mem_append.mp hmem with hzero | hfive
  · rw [List.eq_of_mem_replicate hzero]
    decide
  · rw [List.mem_singleton.mp hfive]
    decide

/-- Zeros in front of a numeral do not change its value. -/
theorem decimalFrom_zeros (count : ℕ) (digits : Bytes) :
    decimalFrom 0 (List.replicate count 48 ++ digits) = decimalFrom 0 digits := by
  induction count with
  | zero => rfl
  | succ count ih =>
      rw [List.replicate_succ, List.cons_append]
      exact ih

theorem decimal?_paddedFive : decimal? paddedFive = some 5 :=
  decimal?_eq_some.mpr ⟨by simp [paddedFive], isDigit_paddedFive, decimalFrom_zeros _ _⟩

theorem strip_paddedFive : strip paddedFive = paddedFive := by
  have hpadded := @stripWhile_padded isSpace [] paddedFive [] (by simp) (by simp)
    (by simp [paddedFive]) fun byte hmem => not_isSpace_of_isDigit (isDigit_paddedFive byte hmem)
  simpa [strip] using hpadded

/-- A request that declares it. -/
def paddedRequest : RequestReceived where
  method := ascii "POST"
  target := ascii "/a"
  headers := [(ascii "Content-Length", paddedFive)]
  httpVersion := .http11

/-- It is well formed, and refused. -/
theorem paddedRequest_refused :
    ¬ ∀ (request : RequestReceived) (body suffix : Bytes) (maxHeaders maxHeaderSize : ℕ),
      WellFormed maxHeaders maxHeaderSize request body →
        parseRequest (serializeRequest request body ++ suffix)
            (serializeRequest request body ++ suffix).length maxHeaders maxHeaderSize =
          .ok (some (readBack request body)) := by
  intro hclaim
  have hwell : WellFormed 100 16384 paddedRequest (ascii "hello") := by
    constructor
    case method =>
      unfold Token
      decide +kernel
    case target => decide +kernel
    case version => decide
    case names =>
      unfold Token
      decide +kernel
    case values =>
      intro header hmem
      rw [List.mem_singleton.mp hmem]
      refine ⟨fun byte hbyte hbad => ?_, strip_paddedFive⟩
      have hdigit := isDigit_paddedFive byte hbyte
      simp only [List.mem_cons, List.not_mem_nil, or_false] at hbad
      rcases hbad with rfl | rfl | rfl <;> exact absurd hdigit (by decide)
    case count => decide
    case hosts => decide +kernel
    case unchunked => decide +kernel
    case declared => exact .inr ⟨paddedFive, rfl, decimal?_paddedFive⟩
    case size => decide +kernel
  have hshort := shortLength_of_parseRequest hwell (hclaim _ _ [] _ _ hwell)
  exact absurd hshort (by decide +kernel)

end Pounce.FastH1
