/-
# Heads written by hand

Three places put the bytes of an HTTP/1.1 head together themselves: the serializer of the
synchronous workers, the response that accepts a WebSocket, and the head of one that rejects it.
They look after line ends in three ways. The first raises, the last strips them, and the one in
between does not look.

What is written is read line by line. `emission_read` says that a reader finds the status line and
one line for each header, as the place cleans them, and finds the end of the head where it was
written. It leaves out what no place looks after: line ends in the server's own header and in the
values of the acceptance, and colons in the names of a rejection.
-/

import Pounce.Asgi.Messages
import Pounce.Math.HeadLines
import Pounce.ResponseFrame

namespace Pounce.WebSocket.Heads

open Pounce.Math Pounce.Math.Bytes Pounce.Math.HeadLines
open Pounce.Asgi (sanitizeHeaders stripCrlf)
open Pounce.Math.Message (fieldLine)
open Pounce.ResponseFrame (headerLine reasonOr serializeRawResponseParts validHeader)

/-! ## The places -/

/-- What `formatdate` returns. -/
structure DateText where
  text : Bytes
  unbroken : Unbroken text

/-- `get_date_header_bytes`. -/
def getDateHeaderBytes (date : DateText) : Bytes := ascii "date: " ++ date.text ++ crlf

/-- The letters of base64. -/
def base64Alphabet : Bytes :=
  ascii "ABCDEFGHIJKLMNOPQRSTUVWXYZabcdefghijklmnopqrstuvwxyz0123456789+/"

/-- The letter for six bits. -/
def base64Letter (value : ℕ) : UInt8 := base64Alphabet.getD (value % 64) 65

/-- `base64.b64encode`. -/
def b64encode : Bytes → Bytes
  | [] => []
  | [first] =>
      [base64Letter (first.toNat / 4), base64Letter (first.toNat * 16), 61, 61]
  | [first, second] =>
      [base64Letter (first.toNat / 4), base64Letter (first.toNat * 16 + second.toNat / 16),
        base64Letter (second.toNat * 4), 61]
  | first :: second :: third :: rest =>
      base64Letter (first.toNat / 4) :: base64Letter (first.toNat * 16 + second.toNat / 16) ::
        base64Letter (second.toNat * 4 + third.toNat / 64) :: base64Letter third.toNat ::
        b64encode rest

/-- The constant of the handshake. -/
def wsMagic : Bytes := ascii "258EAFA5-E914-47DA-95CA-5AB5353BE70A"

/-- `build_ws_accept_key`, over the digest. -/
def buildWsAcceptKey (sha1 : Bytes → Bytes) (wsKey : Bytes) : Bytes :=
  b64encode (sha1 (strip wsKey ++ wsMagic))

/-- `str.encode("ascii")`. `none` is the error it raises. -/
def encodeAscii (text : String) : Option Bytes :=
  if text.toList.all fun char => char.toNat < 128 then some (ascii text) else none

/-- A header that is left out where the value is missing or empty. -/
def optionalHeader (name : Bytes) : Option String → Option (List Header)
  | none => some []
  | some value =>
      if value = "" then some [] else (encodeAscii value).map fun value => [(name, value)]

/-- `build_101_response`. -/
def build101Response (sha1 : Bytes → Bytes) (wsKey : Bytes)
    (subprotocol extensions : Option String) : Option Bytes :=
  (optionalHeader (ascii "Sec-WebSocket-Protocol") subprotocol).bind fun subprotocol =>
    (optionalHeader (ascii "Sec-WebSocket-Extensions") extensions).map fun extensions =>
      crlf.intercalate
        ([ascii "HTTP/1.1 101 Switching Protocols", ascii "Upgrade: websocket",
            ascii "Connection: Upgrade",
            ascii "Sec-WebSocket-Accept: " ++ buildWsAcceptKey sha1 wsKey] ++
          subprotocol.map fieldLine ++ extensions.map fieldLine ++ [[], []])

/-- The status of a rejection, as the application gives it. -/
inductive RawStatus where
  | int (value : ℤ)
  | bool (value : Bool)
  /-- Something that is no `int`. -/
  | other
  deriving DecidableEq, Repr

/-- The status in the status line. A `bool` is an `int` as well, and is written as its name. -/
def RawStatus.text : RawStatus → Bytes
  | .int (.ofNat value) => ofNat value
  | .int (.negSucc value) => ascii "-" ++ ofNat (value + 1)
  | .bool true => ascii "True"
  | .bool false => ascii "False"
  | .other => ascii "403"

/-- A header name or value, as the application gives it. -/
inductive HeaderText where
  | bytes (data : Bytes)
  | str (text : String)
  deriving DecidableEq, Repr

/-- The bytes of a header name or value. -/
def HeaderText.encode : HeaderText → Bytes
  | .bytes data => data
  | .str text => utf8 text

/-- The headers of a rejection as bytes. -/
def decodedHeaders (headers : List (HeaderText × HeaderText)) : List Header :=
  headers.map fun header => (header.1.encode, header.2.encode)

/-- What `create_ws_send.send` writes for `websocket.http.response.start`. -/
def rejectionHead (status : RawStatus) (headers : List (HeaderText × HeaderText)) : Bytes :=
  ascii "HTTP/1.1 " ++ status.text ++ ascii " Rejected" ++ crlf ++
    (sanitizeHeaders (decodedHeaders headers)).flatMap headerLine ++ crlf

/-! ## What is written and what is meant -/

/-- A call of one of the places. -/
inductive Emission where
  | response (status : ℕ) (headers : List Header) (body : Bytes) (serverHeader : String)
      (dateHeader : Option DateText)
  | acceptance (wsKey : Bytes) (subprotocol extensions : Option String)
  | rejection (status : RawStatus) (headers : List (HeaderText × HeaderText))

namespace Emission

variable (sha1 : Bytes → Bytes)

/-- The head that is written. `none` is an error raised before. -/
def head : Emission → Option Bytes
  | .response status headers body serverHeader dateHeader =>
      (serializeRawResponseParts status headers body serverHeader
        (dateHeader.map getDateHeaderBytes)).map (·.1)
  | .acceptance wsKey subprotocol extensions =>
      build101Response sha1 wsKey subprotocol extensions
  | .rejection status headers => some (rejectionHead status headers)

/-- The status line that is meant. -/
def statusLine : Emission → Bytes
  | .response status _ _ _ _ =>
      ascii "HTTP/1.1 " ++ ofNat status ++ ascii " " ++ reasonOr (ascii "OK") status
  | .acceptance _ _ _ => ascii "HTTP/1.1 101 Switching Protocols"
  | .rejection status _ => ascii "HTTP/1.1 " ++ status.text ++ ascii " Rejected"

/-- A header with a value that is neither missing nor empty. -/
def given (name : Bytes) (value : Option String) : List Header :=
  (value.filter (· ≠ "")).toList.map fun value => (name, ascii value)

/-- The headers that are meant, the server's own among them. -/
def supplied : Emission → List Header
  | .response _ headers _ serverHeader dateHeader =>
      (ascii "server", utf8 serverHeader) ::
        (dateHeader.toList.map (fun date => (ascii "date", date.text)) ++ headers)
  | .acceptance wsKey subprotocol extensions =>
      [(ascii "Upgrade", ascii "websocket"), (ascii "Connection", ascii "Upgrade"),
          (ascii "Sec-WebSocket-Accept", buildWsAcceptKey sha1 wsKey)] ++
        given (ascii "Sec-WebSocket-Protocol") subprotocol ++
        given (ascii "Sec-WebSocket-Extensions") extensions
  | .rejection _ headers => decodedHeaders headers

/-- The headers as the place cleans them. -/
def cleaned : Emission → List Header
  | .rejection _ headers => sanitizeHeaders (decodedHeaders headers)
  | emission => emission.supplied sha1

/-- An error is raised before anything is written, or a reader finds the status line, a line for
each of the headers and the end of the head. -/
def Reads (headers : List Header) (emission : Emission) : Prop :=
  emission.head sha1 = none ∨
    ∃ head, emission.head sha1 = some head ∧
      ∀ rest, readHead (head ++ rest) = some (emission.statusLine, headers, rest)

/-- No line ends in what no place looks after. -/
def Unbroken : Emission → Prop
  | .response _ _ _ serverHeader _ => HeadLines.Unbroken (utf8 serverHeader)
  | .acceptance _ subprotocol extensions =>
      (∀ text ∈ subprotocol, HeadLines.Unbroken (ascii text)) ∧
        ∀ text ∈ extensions, HeadLines.Unbroken (ascii text)
  | .rejection _ _ => True

/-- No colons in names that no place looks at. -/
def ColonFree : Emission → Prop
  | .rejection _ headers => ∀ header ∈ headers, 58 ∉ header.1.encode
  | _ => True

end Emission

/-! ## Clean parts -/

/-- The digits of a numeral are no line ends. -/
theorem unbroken_ofNat (value : ℕ) : Unbroken (ofNat value) := by
  obtain ⟨-, hdigits, -⟩ := decimal?_eq_some.mp (decimal?_ofNat value)
  apply unbroken_iff.mpr
  exact ⟨fun hmem => absurd (hdigits _ hmem) (by decide),
    fun hmem => absurd (hdigits _ hmem) (by decide)⟩

theorem RawStatus.unbroken_text (status : RawStatus) : Unbroken status.text := by
  cases status with
  | int value =>
      cases value with
      | ofNat value => exact unbroken_ofNat value
      | negSucc value => exact unbroken_append.mpr ⟨by decide, unbroken_ofNat _⟩
  | bool value => cases value <;> decide
  | other => decide

/-- No letter of base64 is a line end. -/
theorem isBreak_base64Letter (value : ℕ) : isBreak (base64Letter value) = false := by
  have hall : ∀ index < 64, isBreak (base64Alphabet.getD index 65) = false := by decide +kernel
  exact hall _ (Nat.mod_lt value (by decide))

theorem unbroken_b64encode (data : Bytes) : Unbroken (b64encode data) := by
  induction data using b64encode.induct with
  | case1 => exact fun _ hmem => absurd hmem List.not_mem_nil
  | case2 first =>
      intro byte hmem
      simp only [b64encode, List.mem_cons, List.not_mem_nil, or_false] at hmem
      rcases hmem with rfl | rfl | rfl | rfl
      · exact isBreak_base64Letter _
      · exact isBreak_base64Letter _
      · rfl
      · rfl
  | case3 first second =>
      intro byte hmem
      simp only [b64encode, List.mem_cons, List.not_mem_nil, or_false] at hmem
      rcases hmem with rfl | rfl | rfl | rfl
      · exact isBreak_base64Letter _
      · exact isBreak_base64Letter _
      · exact isBreak_base64Letter _
      · rfl
  | case4 first second third rest ih =>
      intro byte hmem
      simp only [b64encode, List.mem_cons] at hmem
      rcases hmem with rfl | rfl | rfl | rfl | hmem
      · exact isBreak_base64Letter _
      · exact isBreak_base64Letter _
      · exact isBreak_base64Letter _
      · exact isBreak_base64Letter _
      · exact ih byte hmem

theorem unbroken_stripCrlf (bytes : Bytes) : Unbroken (stripCrlf bytes) := by
  intro byte hmem
  have hkept := (List.mem_filter.mp hmem).2
  simpa [isBreak] using hkept

/-- No reason phrase has a line end. -/
theorem unbroken_reasonOr {fallback : Bytes} (hfallback : Unbroken fallback) (status : ℕ) :
    Unbroken (reasonOr fallback status) := by
  have hall : ∀ entry ∈ ResponseFrame.statusReasons, Unbroken entry.2 := by decide +kernel
  rw [reasonOr]
  cases hlookup : ResponseFrame.statusReasons.lookup status with
  | none => exact hfallback
  | some reason =>
      obtain ⟨before, after, hentries, -⟩ := List.lookup_eq_some_iff.mp hlookup
      apply hall (status, reason)
      rw [hentries]
      exact List.mem_append_right _ (List.mem_cons_self ..)

/-- A header that validates is plain. -/
theorem plain_of_validHeader {header : Header} (hvalid : validHeader header = true) :
    Plain header := by
  simp only [validHeader, Bool.and_eq_true, Bool.not_eq_true', Bool.or_eq_false_iff,
    decide_eq_false_iff_not] at hvalid
  obtain ⟨⟨⟨hreturn, hfeed⟩, hcolon⟩, hvalue⟩ := hvalid
  exact ⟨unbroken_iff.mpr ⟨hreturn, hfeed⟩, hcolon, unbroken_iff.mpr hvalue⟩

/-- A header that has been sanitized has no line ends, and its name is that of a supplied one
without them. -/
theorem sanitized {headers : List Header} {header : Header}
    (hmem : header ∈ sanitizeHeaders headers) :
    Unbroken header.1 ∧ Unbroken header.2 ∧ ∃ given ∈ headers, header.1 = stripCrlf given.1 := by
  obtain ⟨given, hgiven, rfl⟩ := List.mem_map.mp (List.mem_filter.mp hmem).1
  exact ⟨unbroken_stripCrlf _, unbroken_stripCrlf _, given, hgiven, rfl⟩

/-! ## Heads -/

/-- Lines joined with their ends, two empty ones last, are lines up to an empty one. -/
theorem intercalate_crlf (lines : List Bytes) :
    crlf.intercalate (lines ++ [[], []]) = writeLines lines := by
  induction lines with
  | nil => rfl
  | cons line lines ih =>
      have hcons : ∀ more : List Bytes, more ≠ [] →
          crlf.intercalate (line :: more) = line ++ (crlf ++ crlf.intercalate more) := by
        intro more hne
        cases more with
        | nil => exact absurd rfl hne
        | cons second rest => rfl
      rw [List.cons_append, hcons _ (by simp), ih]
      simp [writeLines]

/-- The headers of a value that can be encoded are those of the value. -/
theorem eq_given_of_optionalHeader {name : Bytes} {value : Option String} {headers : List Header}
    (hheaders : optionalHeader name value = some headers) :
    headers = Emission.given name value := by
  cases value with
  | none =>
      cases hheaders
      rfl
  | some text =>
      rw [optionalHeader] at hheaders
      by_cases hempty : text = ""
      · rw [if_pos hempty] at hheaders
        cases hheaders
        simp [Emission.given, Option.filter, hempty]
      · rw [if_neg hempty] at hheaders
        obtain ⟨encoded, hencoded, rfl⟩ := Option.map_eq_some_iff.mp hheaders
        rw [encodeAscii] at hencoded
        split at hencoded
        · cases hencoded
          simp [Emission.given, Option.filter, hempty]
        · cases hencoded

namespace Emission

variable (sha1 : Bytes → Bytes) {emission : Emission}

/-- The head that is written is that of the cleaned headers. -/
theorem head_eq {head : Bytes} (hhead : emission.head sha1 = some head) :
    head = writeHead emission.statusLine (emission.cleaned sha1) := by
  cases emission with
  | response status headers body serverHeader dateHeader =>
      obtain ⟨parts, hparts, rfl⟩ := Option.map_eq_some_iff.mp hhead
      rw [serializeRawResponseParts] at hparts
      split at hparts
      · cases hparts
        have hserver : fieldLine (ascii "server", utf8 serverHeader) =
            ascii "server: " ++ utf8 serverHeader := rfl
        have hdate : (dateHeader.toList.map fun date => (ascii "date", date.text)).flatMap
            (fun header => fieldLine header ++ crlf) =
              (dateHeader.map getDateHeaderBytes).getD [] := by
          cases dateHeader with
          | none => rfl
          | some date => exact List.append_nil _
        rw [writeHead_eq, cleaned, supplied, List.flatMap_cons, List.flatMap_append, hserver, hdate]
        · simp only [statusLine, List.append_assoc]
          rfl
        · intro status headers heq
          cases heq
      · cases hparts
  | acceptance wsKey subprotocol extensions =>
      obtain ⟨protocolHeaders, hprotocol, hrest⟩ := Option.bind_eq_some_iff.mp hhead
      obtain ⟨extensionHeaders, hextensions, rfl⟩ := Option.map_eq_some_iff.mp hrest
      rw [eq_given_of_optionalHeader hprotocol, eq_given_of_optionalHeader hextensions,
        intercalate_crlf]
      simp only [writeHead, statusLine, cleaned, supplied, List.map_append, List.map_cons,
        List.cons_append, List.nil_append]
      rfl
  | rejection status headers =>
      cases hhead
      rw [writeHead_eq]
      rfl

/-- A status line has no line ends, and something in it. -/
theorem unbroken_statusLine (emission : Emission) :
    HeadLines.Unbroken emission.statusLine ∧ emission.statusLine ≠ [] := by
  cases emission with
  | response status headers body serverHeader dateHeader =>
      constructor
      · apply unbroken_append.mpr
        refine ⟨unbroken_append.mpr ⟨unbroken_append.mpr ⟨?_, unbroken_ofNat _⟩, ?_⟩, ?_⟩
        · decide
        · decide
        · exact unbroken_reasonOr (by decide) status
      · simp [statusLine, ascii]
  | acceptance wsKey subprotocol extensions =>
      have hline : HeadLines.Unbroken (ascii "HTTP/1.1 101 Switching Protocols") := by decide
      exact ⟨hline, by simp [statusLine, ascii]⟩
  | rejection status headers =>
      constructor
      · apply unbroken_append.mpr
        refine ⟨unbroken_append.mpr ⟨?_, status.unbroken_text⟩, ?_⟩
        · decide
        · decide
      · simp [statusLine, ascii]

/-- What is given of a value without line ends is plain. -/
theorem plain_given {name : Bytes} (hname : HeadLines.Unbroken name) (hcolon : 58 ∉ name)
    {value : Option String} (hvalue : ∀ text ∈ value, HeadLines.Unbroken (ascii text)) :
    ∀ header ∈ given name value, Plain header := by
  intro header hmem
  obtain ⟨text, htext, rfl⟩ := List.mem_map.mp hmem
  have hsome := (Option.filter_eq_some_iff.mp (Option.mem_toList.mp htext)).1
  exact plain_mk hname hcolon (hvalue text hsome)

/-- Where nothing was overlooked the cleaned headers have no line ends, and are plain unless a name
has a colon. -/
theorem plain_cleaned (hunbroken : emission.Unbroken)
    (hwritten : (emission.head sha1).isSome) :
    (∀ header ∈ emission.cleaned sha1,
        HeadLines.Unbroken header.1 ∧ HeadLines.Unbroken header.2) ∧
      (emission.ColonFree → ∀ header ∈ emission.cleaned sha1, Plain header) := by
  have hplain : (∀ header ∈ emission.cleaned sha1, Plain header) →
      (∀ header ∈ emission.cleaned sha1,
        HeadLines.Unbroken header.1 ∧ HeadLines.Unbroken header.2) ∧
      (emission.ColonFree → ∀ header ∈ emission.cleaned sha1, Plain header) := by
    intro hplain
    exact ⟨fun header hmem => ⟨(hplain header hmem).name, (hplain header hmem).value⟩,
      fun _ => hplain⟩
  cases emission with
  | response status headers body serverHeader dateHeader =>
      apply hplain
      intro header hmem
      rcases List.mem_cons.mp hmem with rfl | hmem
      · exact plain_mk (by decide) (by decide) hunbroken
      rcases List.mem_append.mp hmem with hmem | hmem
      · obtain ⟨date, -, rfl⟩ := List.mem_map.mp hmem
        exact plain_mk (by decide) (by decide) date.unbroken
      · have hvalid : headers.all validHeader = true := by
          by_contra hinvalid
          rw [head, serializeRawResponseParts, if_neg hinvalid] at hwritten
          cases hwritten
        exact plain_of_validHeader (List.all_eq_true.mp hvalid header hmem)
  | acceptance wsKey subprotocol extensions =>
      apply hplain
      intro header hmem
      rcases List.mem_append.mp hmem with hmem | hmem
      · rcases List.mem_append.mp hmem with hmem | hmem
        · simp only [List.mem_cons, List.not_mem_nil, or_false] at hmem
          rcases hmem with rfl | rfl | rfl
          · exact plain_mk (by decide) (by decide) (by decide)
          · exact plain_mk (by decide) (by decide) (by decide)
          · exact plain_mk (by decide) (by decide) (unbroken_b64encode _)
        · exact plain_given (by decide) (by decide) hunbroken.1 header hmem
      · exact plain_given (by decide) (by decide) hunbroken.2 header hmem
  | rejection status headers =>
      constructor
      · intro header hmem
        obtain ⟨hname, hvalue, -⟩ := sanitized hmem
        exact ⟨hname, hvalue⟩
      · intro hcolon header hmem
        obtain ⟨hname, hvalue, given, hgiven, heq⟩ := sanitized hmem
        refine ⟨hname, ?_, hvalue⟩
        intro hin
        rw [heq] at hin
        obtain ⟨header, hheader, rfl⟩ := List.mem_map.mp hgiven
        exact hcolon header hheader (List.mem_filter.mp hin).1

end Emission

/-- Where nothing was overlooked, an error is raised before anything is written, or a reader finds
the status line, one line for each cleaned header and then the end of the head. Each line is read
as its header, unless the name of one in a rejection has a colon. -/
theorem emission_read (sha1 : Bytes → Bytes) (emission : Emission)
    (hunbroken : emission.Unbroken) :
    emission.head sha1 = none ∨
      ∃ head, emission.head sha1 = some head ∧ ∀ rest,
        readLines (head ++ rest) =
            some (emission.statusLine :: (emission.cleaned sha1).map fieldLine, rest) ∧
          (emission.ColonFree →
            readHead (head ++ rest) =
              some (emission.statusLine, emission.cleaned sha1, rest)) := by
  cases hhead : emission.head sha1 with
  | none => exact .inl rfl
  | some head =>
      right
      have hwritten : (emission.head sha1).isSome := by
        rw [hhead]
        rfl
      obtain ⟨hlines, hplain⟩ := Emission.plain_cleaned sha1 hunbroken hwritten
      obtain ⟨hstatus, hne⟩ := emission.unbroken_statusLine
      refine ⟨head, rfl, fun rest => ?_⟩
      rw [Emission.head_eq sha1 hhead]
      exact ⟨readLines_writeHead hstatus hne hlines rest,
        fun hcolon => readHead_writeHead hstatus hne (hplain hcolon) rest⟩

/-- The digest of the key that the protocol gives as an example, with the constant above. -/
def exampleDigest (_ : Bytes) : Bytes :=
  [0x21, 0x61, 0x65, 0xee, 0x36, 0xff, 0x71, 0x0a, 0xfa, 0x19, 0x15, 0x1c, 0x73, 0x52, 0xac, 0xf1,
    0x39, 0x0c, 0x00, 0xd0]

/-- The acceptance of that key, with a subprotocol. -/
theorem acceptance_read :
    (Emission.acceptance (ascii "dGhlIHNhbXBsZSBub25jZQ==") (some "chat") none).head
        exampleDigest = none ∨
      ∃ head, (Emission.acceptance (ascii "dGhlIHNhbXBsZSBub25jZQ==") (some "chat") none).head
          exampleDigest = some head ∧ ∀ rest,
        readLines (head ++ rest) =
            some ([ascii "HTTP/1.1 101 Switching Protocols", ascii "Upgrade: websocket",
              ascii "Connection: Upgrade",
              ascii "Sec-WebSocket-Accept: IWFl7jb/cQr6GRUcc1Ks8TkMANA=",
              ascii "Sec-WebSocket-Protocol: chat"], rest) ∧
          (True →
            readHead (head ++ rest) =
              some (ascii "HTTP/1.1 101 Switching Protocols",
                [(ascii "Upgrade", ascii "websocket"), (ascii "Connection", ascii "Upgrade"),
                  (ascii "Sec-WebSocket-Accept", ascii "IWFl7jb/cQr6GRUcc1Ks8TkMANA="),
                  (ascii "Sec-WebSocket-Protocol", ascii "chat")], rest)) :=
  emission_read exampleDigest
    (.acceptance (ascii "dGhlIHNhbXBsZSBub25jZQ==") (some "chat") none)
    ⟨by decide +kernel, by decide +kernel⟩

/-- A rejection does not have the value of a header with line ends, which it strips. -/
theorem rejection_strips :
    ¬ ∃ sha1 : Bytes → Bytes, ∀ emission : Emission,
      emission.Reads sha1 (emission.supplied sha1) := by
  rintro ⟨sha1, hall⟩
  rcases hall (.rejection (.int 403)
    [(.bytes (ascii "x-reason"), .bytes (ascii "no\r\nx-other: yes"))]) with hnone |
      ⟨head, -, hread⟩
  · cases hnone
  · have hplain := plain_of_readHead (hread []) _ (List.mem_cons_self ..)
    exact absurd hplain.value (by decide)

end Pounce.WebSocket.Heads
