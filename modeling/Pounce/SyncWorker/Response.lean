/-
# Writing a response

The synchronous worker serializes responses itself. An application answers
either with a raw response, from the fused path, or with messages, from the
inline path, and `finalizeResponseHeaders` rewrites the headers in one pass,
compressing the body when an encoder was negotiated and nothing speaks against
it.

A client can tell where a response ends when it is `SelfDelimiting`.
`serve_selfDelimiting_iff` says for which answers the worker writes such a
response: the encoder also runs on the empty body of a bodyless response, the
fused path does not drop the body of a HEAD response, and application-supplied
framing headers are passed on unchecked.
-/

import Pounce.Asgi.Messages
import Pounce.Compression
import Pounce.SyncWorker.Recv

namespace Pounce.SyncWorker

open Pounce.Math Pounce.Math.Bytes Pounce.Asgi

/-! ## Finalizing headers -/

/-- What the header pass carries: whether compression is still on, the last
Content-Length met, and the headers kept. -/
structure FinalizeScan where
  shouldCompress : Bool
  contentLength : Option Header := none
  headers : List Header := []
  deriving DecidableEq, Repr

/-- One turn of the header pass. -/
def finalizeHeader (scan : FinalizeScan) (header : Header) : FinalizeScan :=
  let nameLower := lower header.1
  if nameLower = ascii "content-encoding" then
    -- the application has encoded the body itself
    { scan with shouldCompress := false, headers := scan.headers ++ [header] }
  else if nameLower = ascii "content-length" then
    { scan with
      contentLength := some header
      headers := if scan.shouldCompress then scan.headers else scan.headers ++ [header] }
  else { scan with headers := scan.headers ++ [header] }

/-- A Content-Length for a body. -/
def contentLengthHeader (body : Bytes) : Header := (ascii "content-length", ofNat body.length)

/-- An encoder was negotiated and the body is not below the threshold, where
there is one. -/
def compressionOffered (config : ServerConfig) (body : Bytes) (compressor : Option Compressor)
    (applyMinSize : Bool) : Bool :=
  compressor.isSome && !(applyMinSize && body.length < config.compressionMinSize)

/-- The headers of a response sent as it is: the Content-Length the pass met is
put back if it was dropped, and the length of the body added if there was none. -/
def restoreLength (scan : FinalizeScan) (body : Bytes) : List Header :=
  match scan.contentLength with
  | none => scan.headers ++ [contentLengthHeader body]
  | some header =>
      if header ∈ scan.headers then scan.headers else scan.headers ++ [header]

/-- Rewrite headers and body for the wire. -/
def finalizeResponseHeaders (config : ServerConfig) (responseHeaders : List Header) (body : Bytes)
    (compressor : Option Compressor) (dictionary : Option CompressionDictionary)
    (applyMinSize : Bool) : List Header × Bytes :=
  let shouldCompress := compressionOffered config body compressor applyMinSize
  let scan := responseHeaders.foldl finalizeHeader { shouldCompress }
  match compressor, scan.shouldCompress with
  | some compressor, true =>
      let bodyOut := compressor.oneShot body
      (scan.headers ++ [(ascii "content-encoding", compressor.encoding),
          contentLengthHeader bodyOut] ++
        dictionary.toList.map fun dictionary => (ascii "used-dictionary", dictionary.sfHash),
        bodyOut)
  | _, _ => (restoreLength scan body, body)

/-! ## The two paths -/

/-- A response of the fused path. -/
structure RawResponse where
  status : ℕ
  headers : List Header
  body : Bytes
  deriving DecidableEq, Repr

/-- A response collected from an application's messages. -/
structure SyncResponse where
  status : ℕ := 200
  headers : List Header := []
  body : Bytes := []
  needsAsync : Bool := false
  deriving DecidableEq, Repr

/-- What a message does to the response being collected. -/
def collectMessage (method : Bytes) (response : SyncResponse) : SendMessage → SyncResponse
  | .responseStart status headers =>
      if 100 ≤ status ∧ status < 200 then { response with needsAsync := true }
      else { response with status, headers := sanitizeHeaders headers }
  | .responseBody body moreBody =>
      let response :=
        if method ≠ ascii "HEAD" then { response with body := response.body ++ body } else response
      if moreBody then { response with needsAsync := true } else response
  | .responseSendfile .. => response

/-- Collect an application's messages. -/
def callAsgiSync (method : Bytes) (messages : List SendMessage) : SyncResponse :=
  messages.foldl (collectMessage method) {}

/-- How the application answers: on the fused path with a raw response, on the
inline path by sending messages and then returning or raising. -/
inductive Answer
  | fused (response : RawResponse)
  | inline (messages : List SendMessage) (raised : Bool)
  deriving DecidableEq, Repr

/-- The request being answered and what was negotiated for it. -/
structure Exchange where
  method : Bytes
  target : Bytes
  /-- The client or a drain asks for the connection to be closed. -/
  closeAfter : Bool
  /-- The connection has served its last request. -/
  atLimit : Bool
  compressor : Option Compressor
  dictionary : Option CompressionDictionary
  requestId : Option Bytes
  dateHeader : Option Bytes
  /-- Streaming responses can be handed to an asynchronous worker. -/
  asyncPool : Bool

/-- A response on the wire, and whether the connection is closed right after. -/
structure Written where
  status : ℕ
  headers : List Header
  body : Bytes
  closed : Bool
  deriving DecidableEq, Repr

/-- Serialize and send. A header that does not validate raises, and nothing is
written. -/
def serializeAndSend (config : ServerConfig) (exchange : Exchange) (status : ℕ)
    (headers : List Header) (body : Bytes) (closed : Bool) : Option Written :=
  (ResponseFrame.serializeRawResponseParts status headers body config.serverHeader
    exchange.dateHeader).map fun _ => { status, headers, body, closed }

/-- An error response: plain text, and the end of the connection. -/
def errorWritten (config : ServerConfig) (status : ℕ) (message code : String)
    (hint : Option String) : Written :=
  let body := errorBody config message code hint
  { status
    headers := [(ascii "content-type", ascii "text/plain; charset=utf-8"),
      contentLengthHeader body, (ascii "connection", ascii "close"),
      (ascii "x-pounce-error-code", utf8 code)]
    body
    closed := true }

/-- The response of the fused path. The connection is always closed. -/
def serveFused (config : ServerConfig) (exchange : Exchange) (response : RawResponse) :
    Option Written :=
  let out := finalizeResponseHeaders config response.headers response.body
    exchange.compressor exchange.dictionary true
  let headers := out.1 ++
    useAsDictionaryHeaders config.compressionDictionaries exchange.target ++
    [(ascii "connection", ascii "close")]
  serializeAndSend config exchange response.status headers out.2 true

/-- The response of the inline path. -/
def serveInline (config : ServerConfig) (exchange : Exchange) (response : SyncResponse) :
    Option Written :=
  let closed := exchange.closeAfter || exchange.atLimit
  let out := finalizeResponseHeaders config response.headers response.body
    exchange.compressor exchange.dictionary false
  let headers := out.1 ++
    exchange.requestId.toList.map (fun requestId => (ascii "x-request-id", requestId)) ++
    useAsDictionaryHeaders config.compressionDictionaries exchange.target ++
    [(ascii "connection", if closed then ascii "close" else ascii "keep-alive")]
  serializeAndSend config exchange response.status headers out.2 closed

/-- The final response written for an application's answer, if one is. A
streaming response is handed over instead where that is possible. -/
def serve (config : ServerConfig) (exchange : Exchange) : Answer → Option Written
  | .fused response => serveFused config exchange response
  | .inline messages raised =>
      let response := callAsgiSync exchange.method messages
      if raised then
        some (errorWritten config 500 "Internal Server Error" "POUNCE_APP_E"
          (some "Check worker logs for the application traceback."))
      else if response.needsAsync then
        if exchange.asyncPool then none
        else some (errorWritten config 501 "Streaming responses require worker_mode=async or handoff"
          "POUNCE_WORKER_STREAMING_NEEDS_ASYNC"
          (some "Set worker_mode='async' or enable the async handoff pool."))
      else serveInline config exchange response

/-! ## Self-delimiting responses -/

/-- Responses that have no body whatever their headers say. -/
def Bodyless (method : Bytes) (status : ℕ) : Prop :=
  method = ascii "HEAD" ∨ status = 204 ∨ status = 304

instance (method : Bytes) (status : ℕ) : Decidable (Bodyless method status) :=
  inferInstanceAs (Decidable (_ ∨ _ ∨ _))

/-- Exactly one Content-Length, and it is `size`. -/
def DeclaresLength (size : ℕ) (values : List Bytes) : Prop :=
  ∃ value, values = [value] ∧ decimal? (trimOws value) = some size

/-- The client can tell where the response ends. -/
def SelfDelimiting (method : Bytes) (written : Written) : Prop :=
  if Bodyless method written.status then written.body = []
  else written.closed ∨
    (fieldValues (ascii "transfer-encoding") written.headers = [] ∧
      DeclaresLength written.body.length (fieldValues (ascii "content-length") written.headers))

/-- The body will be compressed: the application has not encoded it itself. -/
def compressionActive (config : ServerConfig) (headers : List Header) (body : Bytes)
    (compressor : Option Compressor) (applyMinSize : Bool) : Bool :=
  compressionOffered config body compressor applyMinSize && !headers.any isContentEncoding

/-- The headers whose Content-Length the pass keeps: all of them, or, where
compression was on offer, those from the first Content-Encoding on. -/
def keptHeaders (offered : Bool) (headers : List Header) : List Header :=
  if offered then headers.dropWhile (!isContentEncoding ·) else headers

/-- The Content-Length values that are passed on when the body is not
compressed: those kept, or the last one if none was. -/
def declaredLengths (offered : Bool) (headers : List Header) : List Bytes :=
  if fields (ascii "content-length") (keptHeaders offered headers) = [] then
    (fields (ascii "content-length") headers).getLast?.toList.map (·.2)
  else fieldValues (ascii "content-length") (keptHeaders offered headers)

/-- The answers for which the written response is self-delimiting. -/
def Framed (config : ServerConfig) (exchange : Exchange) : Answer → Prop
  | .fused response =>
      Bodyless exchange.method response.status → response.body = [] ∧
        ¬ compressionActive config response.headers response.body exchange.compressor true
  | .inline messages raised =>
      let response := callAsgiSync exchange.method messages
      if raised ∨ response.needsAsync then exchange.method ≠ ascii "HEAD"
      else if Bodyless exchange.method response.status then
        response.body = [] ∧
          ¬ compressionActive config response.headers response.body exchange.compressor false
      else exchange.closeAfter ∨ exchange.atLimit ∨
        (fieldValues (ascii "transfer-encoding") response.headers = [] ∧
          (compressionActive config response.headers response.body exchange.compressor false ∨
            let declared := declaredLengths
              (compressionOffered config response.body exchange.compressor false) response.headers
            declared = [] ∨ DeclaresLength response.body.length declared))

/-! ## What finalizing does -/

/-- The header pass keeps every header but the Content-Length ones it meets while
compression is on. -/
theorem foldl_finalizeHeader (headers : List Header) (scan : FinalizeScan) :
    (headers.foldl finalizeHeader scan).shouldCompress =
        (scan.shouldCompress && !headers.any isContentEncoding) ∧
      (headers.foldl finalizeHeader scan).contentLength =
        (fields (ascii "content-length") headers).getLast?.or scan.contentLength ∧
      fields (ascii "content-length") (headers.foldl finalizeHeader scan).headers =
        fields (ascii "content-length") scan.headers ++ fields (ascii "content-length")
          (if scan.shouldCompress then headers.dropWhile (!isContentEncoding ·) else headers) ∧
      ∀ name ≠ ascii "content-length",
        fields name (headers.foldl finalizeHeader scan).headers =
          fields name scan.headers ++ fields name headers := by
  have hne : ascii "content-encoding" ≠ ascii "content-length" := by decide
  induction headers generalizing scan with
  | nil => simp [fields]
  | cons header headers ih =>
      obtain ⟨hcompress, hlength, hkept, hothers⟩ := ih (finalizeHeader scan header)
      simp only [List.foldl_cons, hcompress, hlength, hkept]
      by_cases hencoding : lower header.1 = ascii "content-encoding"
      · refine ⟨?_, ?_, ?_, fun name hname => ?_⟩
        · simp [finalizeHeader, isContentEncoding, hencoding]
        · simp [finalizeHeader, fields, hencoding, hne]
        · simp [finalizeHeader, fields, isContentEncoding, hencoding, hne]
        · rw [hothers name hname]
          by_cases hsame : ascii "content-encoding" = name <;>
            simp [finalizeHeader, fields, hencoding, hsame]
      · by_cases hlengthName : lower header.1 = ascii "content-length"
        · refine ⟨?_, ?_, ?_, fun name hname => ?_⟩
          · simp [finalizeHeader, isContentEncoding, hlengthName, hne.symm]
          · simp [finalizeHeader, fields, hlengthName, hne.symm, List.getLast?_cons]
          · cases hscan : scan.shouldCompress <;>
              simp [finalizeHeader, fields, isContentEncoding, hlengthName, hne.symm, hscan]
          · rw [hothers name hname]
            cases hscan : scan.shouldCompress <;>
              simp [finalizeHeader, fields, hlengthName, hne.symm, hname.symm, hscan]
        · refine ⟨?_, ?_, ?_, fun name hname => ?_⟩
          · simp [finalizeHeader, isContentEncoding, hencoding, hlengthName]
          · simp [finalizeHeader, fields, hencoding, hlengthName]
          · cases hscan : scan.shouldCompress <;>
              simp [finalizeHeader, fields, isContentEncoding, hencoding, hlengthName, hscan]
          · have hkeep : finalizeHeader scan header =
                { scan with headers := scan.headers ++ [header] } := by
              simp [finalizeHeader, hencoding, hlengthName]
            rw [hothers name hname, hkeep]
            by_cases hsame : lower header.1 = name <;> simp [fields, hsame]

/-- What the whole pass leaves. -/
theorem finalizeScan (offered : Bool) (headers : List Header) :
    let scan := headers.foldl finalizeHeader { shouldCompress := offered }
    scan.shouldCompress = (offered && !headers.any isContentEncoding) ∧
      scan.contentLength = (fields (ascii "content-length") headers).getLast? ∧
      fields (ascii "content-length") scan.headers =
        fields (ascii "content-length") (keptHeaders offered headers) ∧
      ∀ name ≠ ascii "content-length", fieldValues name scan.headers = fieldValues name headers := by
  obtain ⟨hcompress, hlast, hkept, hothers⟩ :=
    foldl_finalizeHeader headers { shouldCompress := offered }
  refine ⟨hcompress, by rw [hlast, Option.or_none], hkept, fun name hname => ?_⟩
  rw [fieldValues, hothers name hname]
  rfl

theorem keptHeaders_suffix (offered : Bool) (headers : List Header) :
    keptHeaders offered headers <:+ headers := by
  rw [keptHeaders]
  split
  · exact List.dropWhile_suffix _
  · exact List.suffix_refl _

/-- The last Content-Length is among those kept exactly when any are. -/
theorem getLast_mem_kept {kept headers : List Header} {header : Header}
    (hsuffix : kept <:+ headers)
    (hlast : (fields (ascii "content-length") headers).getLast? = some header) :
    header ∈ fields (ascii "content-length") kept ↔
      fields (ascii "content-length") kept ≠ [] := by
  refine ⟨List.ne_nil_of_mem, fun hne => ?_⟩
  have hfields : fields (ascii "content-length") kept <:+ fields (ascii "content-length") headers :=
    hsuffix.filter _
  obtain ⟨before, hsplit⟩ := hfields
  rw [← hsplit, List.getLast?_append_of_ne_nil _ hne] at hlast
  exact List.mem_of_getLast? hlast

/-- Finalizing with compression active: the encoded body, its length as the only
Content-Length, the encoding as the only Content-Encoding, and the
Transfer-Encoding headers untouched. -/
theorem finalizeResponseHeaders_active {config : ServerConfig} {headers : List Header}
    {body : Bytes} {compressor : Option Compressor} {applyMinSize : Bool}
    (dictionary : Option CompressionDictionary)
    (hactive : compressionActive config headers body compressor applyMinSize) :
    ∃ encoder, compressor = some encoder ∧
      let out := finalizeResponseHeaders config headers body compressor dictionary applyMinSize
      out.2 = encoder.oneShot body ∧
        fieldValues (ascii "content-length") out.1 = [ofNat out.2.length] ∧
        fieldValues (ascii "content-encoding") out.1 = [encoder.encoding] ∧
        fieldValues (ascii "transfer-encoding") out.1 =
          fieldValues (ascii "transfer-encoding") headers := by
  simp only [compressionActive, Bool.and_eq_true, Bool.not_eq_true'] at hactive
  obtain ⟨hoffered, hencoding⟩ := hactive
  cases compressor with
  | none => simp [compressionOffered] at hoffered
  | some encoder =>
      refine ⟨encoder, rfl, ?_⟩
      obtain ⟨hcompress, -, hkept, hothers⟩ := finalizeScan true headers
      have hdrop : keptHeaders true headers = [] := by
        rw [keptHeaders, if_pos rfl, List.dropWhile_eq_nil_iff]
        intro header hmem
        simpa using List.any_eq_false.mp hencoding header hmem
      simp only [finalizeResponseHeaders, hoffered]
      generalize headers.foldl finalizeHeader _ = scan at *
      rw [hencoding, Bool.not_false, Bool.and_self] at hcompress
      simp only [hcompress]
      refine ⟨trivial, ?_, ?_, ?_⟩
      · have hnone : fieldValues (ascii "content-length") scan.headers = [] := by
          rw [fieldValues, hkept, hdrop]
          rfl
        rw [List.append_assoc, fieldValues_append, hnone]
        cases dictionary <;> rfl
      · have hnone : fieldValues (ascii "content-encoding") headers = [] := by
          rw [fieldValues, List.map_eq_nil_iff, fields, List.filter_eq_nil_iff]
          intro header hmem
          simpa [isContentEncoding] using List.any_eq_false.mp hencoding header hmem
        rw [List.append_assoc, fieldValues_append, hothers _ (by decide), hnone]
        cases dictionary <;> rfl
      · have hadded : fieldValues (ascii "transfer-encoding")
            ([(ascii "content-encoding", encoder.encoding),
              contentLengthHeader (encoder.oneShot body)] ++
              dictionary.toList.map fun dictionary =>
                (ascii "used-dictionary", dictionary.sfHash)) = [] := by
          cases dictionary <;> rfl
        rw [List.append_assoc, fieldValues_append, hothers _ (by decide), hadded, List.append_nil]

/-- Membership of a Content-Length header among all headers or among those of
its name is the same. -/
theorem mem_fields {name : Bytes} {header : Header} {headers : List Header}
    (hname : lower header.1 = name) : header ∈ fields name headers ↔ header ∈ headers := by
  simp [fields, hname]

/-- Putting the Content-Length back gives exactly the declared lengths, or the
length of the body. -/
theorem restoreLength_fieldValues {offered : Bool} {headers : List Header} {scan : FinalizeScan}
    (body : Bytes)
    (hlast : scan.contentLength = (fields (ascii "content-length") headers).getLast?)
    (hkept : fields (ascii "content-length") scan.headers =
      fields (ascii "content-length") (keptHeaders offered headers)) :
    fieldValues (ascii "content-length") (restoreLength scan body) =
        (if declaredLengths offered headers = [] then [ofNat body.length]
          else declaredLengths offered headers) ∧
      ∀ name ≠ ascii "content-length",
        fieldValues name (restoreLength scan body) = fieldValues name scan.headers := by
  have hsuffix := keptHeaders_suffix offered headers
  cases hlength : (fields (ascii "content-length") headers).getLast? with
  | none =>
      have hnone : fields (ascii "content-length") headers = [] := by simpa using hlength
      have hkeptNone : fields (ascii "content-length") (keptHeaders offered headers) = [] := by
        have hsub : fields (ascii "content-length") (keptHeaders offered headers) <:+
          fields (ascii "content-length") headers := hsuffix.filter _
        exact List.suffix_nil.mp (hnone ▸ hsub)
      have hdeclared : declaredLengths offered headers = [] := by
        rw [declaredLengths, if_pos hkeptNone, hlength]
        rfl
      have hout : restoreLength scan body = scan.headers ++ [contentLengthHeader body] := by
        simp only [restoreLength, hlast, hlength]
      refine ⟨?_, fun name hname => ?_⟩
      · rw [if_pos hdeclared, hout, fieldValues_append, fieldValues, hkept, hkeptNone]
        rfl
      · have hother : fieldValues name [contentLengthHeader body] = [] :=
          fieldValues_of_ne (contentLengthHeader body) hname.symm
        rw [hout, fieldValues_append, hother, List.append_nil]
  | some header =>
      have hname : lower header.1 = ascii "content-length" := by
        have hmem := List.mem_of_getLast? hlength
        simpa using (List.mem_filter.mp hmem).2
      have hmem := getLast_mem_kept hsuffix hlength
      rw [← hkept, mem_fields hname, hkept] at hmem
      by_cases hnone : fields (ascii "content-length") (keptHeaders offered headers) = []
      · have hdeclared : declaredLengths offered headers = [header.2] := by
          rw [declaredLengths, if_pos hnone, hlength]
          rfl
        have hdropped : header ∉ scan.headers := fun hin => hmem.mp hin hnone
        have hout : restoreLength scan body = scan.headers ++ [header] := by
          simp only [restoreLength, hlast, hlength, if_neg hdropped]
        refine ⟨?_, fun name hother => ?_⟩
        · rw [hdeclared, if_neg (List.cons_ne_nil _ _), hout, fieldValues_append, fieldValues, hkept,
            hnone]
          simp [fieldValues, fields, hname]
        · rw [hout, fieldValues_append, fieldValues_of_ne header (hname ▸ hother.symm), List.append_nil]
      · have hdeclared : declaredLengths offered headers =
            fieldValues (ascii "content-length") (keptHeaders offered headers) := by
          rw [declaredLengths, if_neg hnone]
        have hsome : declaredLengths offered headers ≠ [] := by
          rw [hdeclared]
          simpa [fieldValues] using hnone
        have hstays : header ∈ scan.headers := hmem.mpr hnone
        have hout : restoreLength scan body = scan.headers := by
          simp only [restoreLength, hlast, hlength, if_pos hstays]
        rw [if_neg hsome, hout, hdeclared, fieldValues, hkept]
        exact ⟨rfl, fun _ _ => rfl⟩

/-- Finalizing without compression: the body as it is, and the Content-Length
headers that were kept, or the length of the body if there were none. -/
theorem finalizeResponseHeaders_inactive {config : ServerConfig} {headers : List Header}
    {body : Bytes} {compressor : Option Compressor} {applyMinSize : Bool}
    (dictionary : Option CompressionDictionary)
    (hinactive : ¬ compressionActive config headers body compressor applyMinSize) :
    let out := finalizeResponseHeaders config headers body compressor dictionary applyMinSize
    let declared := declaredLengths (compressionOffered config body compressor applyMinSize) headers
    out.2 = body ∧
      fieldValues (ascii "content-length") out.1 =
        (if declared = [] then [ofNat body.length] else declared) ∧
      ∀ name ≠ ascii "content-length", fieldValues name out.1 = fieldValues name headers := by
  obtain ⟨hcompress, hlast, hkept, hothers⟩ :=
    finalizeScan (compressionOffered config body compressor applyMinSize) headers
  rw [compressionActive, Bool.not_eq_true] at hinactive
  rw [hinactive] at hcompress
  have hout : finalizeResponseHeaders config headers body compressor dictionary applyMinSize =
      (restoreLength (headers.foldl finalizeHeader
        { shouldCompress := compressionOffered config body compressor applyMinSize }) body,
        body) := by
    simp only [finalizeResponseHeaders, hcompress]
  obtain ⟨hlengths, hsame⟩ := restoreLength_fieldValues body hlast hkept
  rw [hout]
  exact ⟨rfl, hlengths, fun name hname => (hsame name hname).trans (hothers name hname)⟩

/-! ## Served responses -/

/-- The headers appended after finalizing frame nothing. -/
theorem fieldValues_appended {name : Bytes} (config : ServerConfig) (exchange : Exchange)
    (connection : Bytes)
    (hname : name = ascii "content-length" ∨ name = ascii "transfer-encoding") :
    fieldValues name (useAsDictionaryHeaders config.compressionDictionaries exchange.target) = [] ∧
      fieldValues name (exchange.requestId.toList.map fun requestId =>
        (ascii "x-request-id", requestId)) = [] ∧
      fieldValues name [(ascii "connection", connection)] = [] := by
  have hfield : ∀ other value, (other = ascii "use-as-dictionary" ∨ other = ascii "link" ∨
      other = ascii "x-request-id" ∨ other = ascii "connection") →
      fieldValues name [(other, value)] = [] := by
    rintro other value (rfl | rfl | rfl | rfl) <;> rcases hname with rfl | rfl <;> rfl
  refine ⟨?_, ?_, hfield _ _ (by simp)⟩
  · rw [useAsDictionaryHeaders]
    induction config.compressionDictionaries with
    | nil => rfl
    | cons dictionary dictionaries ih =>
        rw [List.flatMap_cons, fieldValues_append, ih]
        split
        · rw [← List.singleton_append, fieldValues_append, hfield _ _ (by simp),
            hfield _ _ (by simp)]
          rfl
        · rfl
  · cases exchange.requestId with
    | none => rfl
    | some requestId => exact hfield _ _ (by simp)

/-- A decimal numeral declares its own value. -/
theorem declaresLength_ofNat (size : ℕ) : DeclaresLength size [ofNat size] := by
  refine ⟨ofNat size, rfl, ?_⟩
  obtain ⟨hne, hdigits, -⟩ := decimal?_eq_some.mp (decimal?_ofNat size)
  have hclean : ∀ byte ∈ ofNat size, ¬ isOws byte := fun byte hmem hows =>
    not_isSpace_of_isDigit (hdigits byte hmem) (isSpace_of_isOws hows)
  have htrim : trimOws (ofNat size) = ofNat size := by
    simpa [trimOws] using @stripWhile_padded isOws [] _ []
      (by simp) (by simp) hne hclean
  rw [htrim, decimal?_ofNat]

/-- The finalized body is empty only where the body was and is not encoded. -/
theorem finalizeResponseHeaders_body_nil {config : ServerConfig} {headers : List Header}
    {body : Bytes} {compressor : Option Compressor} {applyMinSize : Bool}
    (dictionary : Option CompressionDictionary) :
    (finalizeResponseHeaders config headers body compressor dictionary applyMinSize).2 = [] ↔
      body = [] ∧ ¬ compressionActive config headers body compressor applyMinSize := by
  by_cases hactive : compressionActive config headers body compressor applyMinSize
  · obtain ⟨encoder, -, hbody, -⟩ := finalizeResponseHeaders_active dictionary hactive
    rw [hbody]
    simp [hactive, Compressor.oneShot, encoder.oneShot_ne_nil]
  · obtain ⟨hbody, -⟩ := finalizeResponseHeaders_inactive dictionary hactive
    rw [hbody]
    simp [hactive]

/-- The finalized headers declare the length of the finalized body where it is
encoded, and otherwise where what is passed on declares it. -/
theorem finalizeResponseHeaders_declares (config : ServerConfig) (headers : List Header)
    (body : Bytes) (compressor : Option Compressor) (dictionary : Option CompressionDictionary)
    (applyMinSize : Bool) :
    let out := finalizeResponseHeaders config headers body compressor dictionary applyMinSize
    let declared := declaredLengths (compressionOffered config body compressor applyMinSize) headers
    DeclaresLength out.2.length (fieldValues (ascii "content-length") out.1) ↔
      compressionActive config headers body compressor applyMinSize ∨
        declared = [] ∨ DeclaresLength body.length declared := by
  by_cases hactive : compressionActive config headers body compressor applyMinSize
  · obtain ⟨encoder, -, -, hlengths, -⟩ := finalizeResponseHeaders_active dictionary hactive
    simp only [hlengths, hactive, true_or, iff_true]
    exact declaresLength_ofNat _
  · obtain ⟨hbody, hlengths, -⟩ := finalizeResponseHeaders_inactive dictionary hactive
    simp only [hlengths, hbody, hactive, false_or, Bool.false_eq_true]
    split
    case isTrue hnone => simp [hnone, declaresLength_ofNat]
    case isFalse hsome => simp [hsome]

/-- Finalizing leaves the Transfer-Encoding headers alone. -/
theorem finalizeResponseHeaders_encodings {config : ServerConfig} {headers : List Header}
    {body : Bytes} {compressor : Option Compressor} {applyMinSize : Bool}
    (dictionary : Option CompressionDictionary) :
    fieldValues (ascii "transfer-encoding")
        (finalizeResponseHeaders config headers body compressor dictionary applyMinSize).1 =
      fieldValues (ascii "transfer-encoding") headers := by
  by_cases hactive : compressionActive config headers body compressor applyMinSize
  · obtain ⟨_, -, -, -, -, hencodings⟩ := finalizeResponseHeaders_active dictionary hactive
    exact hencodings
  · exact (finalizeResponseHeaders_inactive dictionary hactive).2.2 _ (by decide)

theorem serializeAndSend_eq_some {config : ServerConfig} {exchange : Exchange} {status : ℕ}
    {headers : List Header} {body : Bytes} {closed : Bool} {written : Written}
    (hsent : serializeAndSend config exchange status headers body closed = some written) :
    written = { status, headers, body, closed } := by
  obtain ⟨_, -, rfl⟩ := Option.map_eq_some_iff.mp hsent
  rfl

/-- An error response has a body, so it is self-delimiting for all but HEAD. -/
theorem errorWritten_selfDelimiting {config : ServerConfig} {method : Bytes} {status : ℕ}
    {message code : String} {hint : Option String} (hstatus : status ≠ 204 ∧ status ≠ 304)
    (hmessage : utf8 message ≠ []) :
    SelfDelimiting method (errorWritten config status message code hint) ↔
      method ≠ ascii "HEAD" := by
  have hbody : errorBody config message code hint ≠ [] := by
    rw [errorBody]
    split
    · simp [List.intercalate, hmessage]
    · exact hmessage
  by_cases hhead : method = ascii "HEAD" <;>
    simp [SelfDelimiting, Bodyless, errorWritten, hstatus, hhead, hbody]

/-- The fused path closes the connection, so only bodyless responses matter. -/
theorem serveFused_selfDelimiting {config : ServerConfig} {exchange : Exchange}
    {response : RawResponse} {written : Written}
    (hserve : serveFused config exchange response = some written) :
    SelfDelimiting exchange.method written ↔ Framed config exchange (.fused response) := by
  rw [serializeAndSend_eq_some hserve]
  simp only [SelfDelimiting, Framed, finalizeResponseHeaders_body_nil]
  split
  case isTrue hbodyless => simp [hbodyless]
  case isFalse hbody => simp [hbody]

/-- The inline path relies on the headers unless the connection is closed. -/
theorem serveInline_selfDelimiting {config : ServerConfig} {exchange : Exchange}
    {response : SyncResponse} {written : Written}
    (hserve : serveInline config exchange response = some written) :
    SelfDelimiting exchange.method written ↔
      if Bodyless exchange.method response.status then
        response.body = [] ∧
          ¬ compressionActive config response.headers response.body exchange.compressor false
      else exchange.closeAfter ∨ exchange.atLimit ∨
        (fieldValues (ascii "transfer-encoding") response.headers = [] ∧
          (compressionActive config response.headers response.body exchange.compressor false ∨
            let declared := declaredLengths
              (compressionOffered config response.body exchange.compressor false) response.headers
            declared = [] ∨ DeclaresLength response.body.length declared)) := by
  rw [serializeAndSend_eq_some hserve]
  simp only [SelfDelimiting]
  split
  case isTrue hbodyless => rw [finalizeResponseHeaders_body_nil]
  case isFalse hbody =>
    obtain ⟨hads, hid, hconnection⟩ := fieldValues_appended config exchange
      (if exchange.closeAfter || exchange.atLimit then ascii "close" else ascii "keep-alive")
      (Or.inl rfl)
    obtain ⟨hads', hid', hconnection'⟩ := fieldValues_appended config exchange
      (if exchange.closeAfter || exchange.atLimit then ascii "close" else ascii "keep-alive")
      (Or.inr rfl)
    have hdeclares := finalizeResponseHeaders_declares config
      response.headers response.body exchange.compressor exchange.dictionary false
    simp only [fieldValues_append, hads, hid, hconnection, hads', hid', hconnection',
      List.append_nil, finalizeResponseHeaders_encodings, hdeclares]
    simp only [Bool.or_eq_true, or_assoc]

/-- The responses the worker writes are self-delimiting for exactly the answers
that are `Framed`. -/
theorem serve_selfDelimiting_iff {config : ServerConfig} {exchange : Exchange} {answer : Answer}
    {written : Written} (hserve : serve config exchange answer = some written) :
    SelfDelimiting exchange.method written ↔ Framed config exchange answer := by
  cases answer with
  | fused response => exact serveFused_selfDelimiting hserve
  | inline messages raised =>
      simp only [serve] at hserve
      simp only [Framed]
      split at hserve
      case isTrue hraised =>
        cases hserve
        rw [if_pos (Or.inl hraised)]
        exact errorWritten_selfDelimiting (by decide) (by decide)
      case isFalse hreturned =>
        split at hserve
        case isTrue hasync =>
          rw [if_pos (Or.inr hasync)]
          split at hserve
          · cases hserve
          · cases hserve
            exact errorWritten_selfDelimiting (by decide) (by decide)
        case isFalse hsync =>
          rw [if_neg (by simp [hreturned, hsync])]
          exact serveInline_selfDelimiting hserve

/-- A keep-alive request for the root that negotiated `compressor`. -/
def rootExchange (method : Bytes) (compressor : Option Compressor) : Exchange where
  method
  target := ascii "/"
  closeAfter := false
  atLimit := false
  compressor
  dictionary := none
  requestId := none
  dateHeader := none
  asyncPool := false

/-- A response without framing headers gets the length of its body. -/
theorem serve_selfDelimiting_iff_plain :
    SelfDelimiting (ascii "GET")
        { status := 200
          headers := [(ascii "content-length", ascii "2"), (ascii "connection", ascii "keep-alive")]
          body := ascii "ok"
          closed := false } ↔
      Framed {} (rootExchange (ascii "GET") none)
        (.inline [.responseStart 200 [], .responseBody (ascii "ok") false] false) :=
  @serve_selfDelimiting_iff _ (rootExchange (ascii "GET") none) _ _ (by decide)

/-- A gzip encoder, as it treats the empty body: a header when it is created,
an empty block and the trailer when it is flushed. -/
def gzipOfEmpty : Compressor where
  encoding := ascii "gzip"
  output
    | [.compress _] => [0x1f, 0x8b, 8, 0, 0, 0, 0, 0, 0, 3]
    | _ => [3, 0, 0, 0, 0, 0, 0, 0, 0, 0]
  oneShot_ne_nil _ := List.cons_ne_nil _ _

/-- A HEAD response that negotiated gzip is written with the twenty bytes of an
empty gzip stream behind it, on a connection that stays open. -/
theorem serve_head_gzip :
    ¬ ∀ (config : ServerConfig) (exchange : Exchange) (answer : Answer) (written : Written),
      serve config exchange answer = some written → SelfDelimiting exchange.method written := by
  intro hclaim
  have hdelimited := hclaim {} (rootExchange (ascii "HEAD") (some gzipOfEmpty))
    (.inline [.responseStart 200 [], .responseBody (ascii "ok") false] false)
    { status := 200
      headers := [(ascii "content-encoding", ascii "gzip"), (ascii "content-length", ascii "20"),
        (ascii "connection", ascii "keep-alive")]
      body := gzipOfEmpty.oneShot []
      closed := false } (by decide)
  have hbodyless : Bodyless (rootExchange (ascii "HEAD") (some gzipOfEmpty)).method 200 := Or.inl rfl
  exact gzipOfEmpty.oneShot_ne_nil [] ((if_pos hbodyless).mp hdelimited)

end Pounce.SyncWorker
