/-
# The send bridges

A bridge turns an application's messages into a response on one protocol. All
bridges share one state machine: hints pass through, the head is committed once,
either with the start message or, when the size of the body decides about
compression and is not declared, with the first body message, and body messages
follow, through the encoder while there is one.

The protocols differ in what they add to the headers, in how they inject the
encoding, and in whether they send files; these are the fields of a `Bridge`.
`LawfulBridge` says what the shared results need of them.
-/

import Pounce.Asgi.Messages
import Pounce.Compression

namespace Pounce.Asgi

open Pounce.Math Pounce.Math.Bytes

/-! ## The state machine -/

/-- What a bridge hands to its protocol. -/
inductive WireEvent
  | informational (headers : List Header)
  | head (status : ℕ) (headers : List Header)
  | data (bytes : Bytes) (endStream : Bool)
  deriving DecidableEq, Repr

/-- What a response is sent with. -/
structure SendEnv where
  requestMethod : Bytes
  compressor : Option Compressor
  dictionaryHash : Option Bytes := none
  compressionMinSize : ℕ := 500
  requestId : Option Bytes := none
  altSvc : Option Bytes := none
  serverTiming : Option Bytes := none
  requestTarget : Bytes := []
  dictionaries : List CompressionDictionary := []

/-- What a protocol's bridge does in its own way. -/
structure Bridge where
  /-- The headers of a response before the encoding is decided. -/
  startHeaders : SendEnv → List Header → List Header
  /-- A Content-Type value marks an event stream. -/
  isEventStream : Bytes → Bool
  /-- The headers to commit, and the encoder that stays on. -/
  buildHead : SendEnv → Option Compressor → List Header → Option Compressor × List Header
  /-- Whether the file extension is served, ignored or refused. -/
  sendfile : Option Bool

/-- The state of a response. `ops` is the history of its encoder. -/
structure SendState where
  responseStarted : Bool := false
  responseComplete : Bool := false
  compressor : Option Compressor
  ops : List CompressOp := []
  deferredStart : Option (ℕ × List Header) := none
  wire : List WireEvent := []

/-- Responses of these statuses have no body. -/
def bodylessStatus (status : ℕ) : Bool :=
  (100 ≤ status && status ≤ 199) || status = 204 || status = 304

/-- The declared length of a response is below the threshold. -/
def declaredBelow (minSize : ℕ) (declared : Bytes) : Bool :=
  match readInt declared with
  | none => false
  | some length => length < minSize

/-- Add the encoder's headers and drop the Content-Length it invalidates, unless
the response is an event stream or already encoded. -/
def encodeHead (isEventStream : Bytes → Bool) (env : SendEnv) (compressor : Compressor)
    (headers : List Header) : Option Compressor × List Header :=
  if headers.any (fun header => lower header.1 = ascii "content-type" && isEventStream header.2) ∨
      headers.any isContentEncoding then (none, headers)
  else
    (some compressor,
      headers.filter (fun header => lower header.1 ≠ ascii "content-length") ++
        [(ascii "content-encoding", compressor.encoding)] ++
        env.dictionaryHash.toList.map fun hash => (ascii "used-dictionary", hash))

namespace Bridge

variable (bridge : Bridge) (env : SendEnv)

/-- Commit a head. -/
def commitHead (state : SendState) (status : ℕ) (headers : List Header) : SendState :=
  let built := bridge.buildHead env state.compressor headers
  { state with compressor := built.1, wire := state.wire ++ [.head status built.2] }

/-- Start a response. -/
def start (state : SendState) (status : ℕ) (headers : List Header) : SendState :=
  if status = 103 then
    { state with wire := state.wire ++ [.informational (sanitizeHeaders headers)] }
  else
    let headers := bridge.startHeaders env headers
    let state := { state with
      responseStarted := true
      compressor :=
        if bodylessStatus status ∨ env.requestMethod = ascii "HEAD" then none
        else state.compressor }
    if state.compressor.isSome ∧ 0 < env.compressionMinSize then
      match getHeader headers (ascii "content-length") with
      | some declared =>
          let compressor :=
            if declaredBelow env.compressionMinSize declared then none else state.compressor
          bridge.commitHead env { state with compressor } status headers
      | none => { state with deferredStart := some (status, headers) }
    else bridge.commitHead env state status headers

/-- Commit a deferred head, now that the first body message is known. -/
def resolveDeferred (state : SendState) (body : Bytes) (moreBody : Bool) : SendState :=
  match state.deferredStart with
  | none => state
  | some (status, headers) =>
      let knownSize := if moreBody then none else some body.length
      let compressor :=
        if shouldCompressBody knownSize env.compressionMinSize then state.compressor else none
      bridge.commitHead env { state with compressor, deferredStart := none } status headers

end Bridge

/-- Pass a piece of the body through the encoder. -/
def encodeBody (state : SendState) (body : Bytes) (moreBody : Bool) : Bytes × List CompressOp :=
  match state.compressor with
  | none => (body, state.ops)
  | some compressor =>
      let last := if moreBody then CompressOp.syncFlush else .flush
      if body ≠ [] then
        let compressed := state.ops ++ [.compress body]
        (compressor.output compressed ++ compressor.output (compressed ++ [last]),
          compressed ++ [last])
      else if !moreBody then (compressor.output (state.ops ++ [.flush]), state.ops ++ [.flush])
      else (body, state.ops)

namespace Bridge

variable (bridge : Bridge) (env : SendEnv)

/-- Send a piece of the body. `none` is the error raised before a start message
and after the last piece. -/
def sendBody (state : SendState) (body : Bytes) (moreBody : Bool) : Option SendState :=
  if !state.responseStarted || state.responseComplete then none
  else
    let body := if env.requestMethod = ascii "HEAD" then [] else body
    let state := bridge.resolveDeferred env state body moreBody
    let encoded := encodeBody state body moreBody
    some { state with
      ops := encoded.2
      wire := state.wire ++ [.data encoded.1 !moreBody]
      responseComplete := !moreBody }

/-- Handle one message. `none` is an error raised into the application. -/
def send (state : SendState) : SendMessage → Option SendState
  | .responseStart status headers => some (bridge.start env state status headers)
  | .responseBody body moreBody => bridge.sendBody env state body moreBody
  | .responseSendfile content offset count moreBody =>
      match bridge.sendfile with
      | none => none
      | some false => some state
      | some true =>
          if !state.responseStarted || state.responseComplete || state.compressor.isSome then none
          else some { state with
            wire := state.wire ++ [.data ((content.drop offset).take count) !moreBody]
            responseComplete := !moreBody }

/-- Handle the messages of a response. -/
def run (messages : List SendMessage) : Option SendState :=
  messages.foldlM (bridge.send env) { compressor := env.compressor }

end Bridge

/-! ## The protocols -/

/-- The application's headers with the request identifier, sanitized. -/
def requestHeaders (env : SendEnv) (headers : List Header) : List Header :=
  sanitizeHeaders (headers ++ env.requestId.toList.map fun id => (ascii "x-request-id", id))

/-- A header that is present when its value is. -/
def optionalHeader (name : Bytes) (value : Option Bytes) : List Header :=
  value.toList.map fun value => (name, value)

/-- Close a response's framing: chunked coding unless the application has framed
it. -/
def injectChunked (headers : List Header) (framing : List Bytes) : List Header :=
  if headers.any (fun header => lower header.1 ∈ framing) then headers
  else headers ++ [(ascii "transfer-encoding", ascii "chunked")]

/-- The head of an HTTP/1.1 response. -/
def h1BuildHead (env : SendEnv) (compressor : Option Compressor) (headers : List Header) :
    Option Compressor × List Header :=
  let built : Option Compressor × List Header :=
    match compressor with
    | some compressor =>
        let encoded := encodeHead (fun value => contains (ascii "text/event-stream") value) env
          compressor headers
        (encoded.1,
          if encoded.1.isSome then injectChunked encoded.2 [ascii "transfer-encoding"]
          else encoded.2)
    | none =>
        (none, injectChunked headers [ascii "content-length", ascii "transfer-encoding"])
  (built.1, built.2 ++ optionalHeader (ascii "server-timing") env.serverTiming)

/-- The bridge of an HTTP/1.1 connection. -/
def h1 : Bridge where
  startHeaders env headers :=
    requestHeaders env headers ++ optionalHeader (ascii "alt-svc") env.altSvc ++
      useAsDictionaryHeaders env.dictionaries env.requestTarget
  isEventStream value := contains (ascii "text/event-stream") value
  buildHead := h1BuildHead
  sendfile := some true

/-- The head of a response on a multiplexed protocol: no chunked coding there. -/
def multiplexedHead (env : SendEnv) (compressor : Option Compressor) (headers : List Header) :
    Option Compressor × List Header :=
  match compressor with
  | some compressor =>
      encodeHead (fun value => contains (ascii "text/event-stream") (lower value)) env compressor
        headers
  | none => (none, headers)

/-- The bridge of an HTTP/2 stream. It knows no file extension and ignores it. -/
def h2 : Bridge where
  startHeaders := requestHeaders
  isEventStream value := contains (ascii "text/event-stream") (lower value)
  buildHead env compressor headers :=
    let built := multiplexedHead env compressor headers
    (built.1, built.2 ++ optionalHeader (ascii "server-timing") env.serverTiming ++
      optionalHeader (ascii "alt-svc") env.altSvc)
  sendfile := some false

/-- The bridge of an HTTP/3 stream. -/
def h3 : Bridge where
  startHeaders := requestHeaders
  isEventStream value := contains (ascii "text/event-stream") (lower value)
  buildHead env compressor headers :=
    let built := multiplexedHead env compressor headers
    (built.1, built.2 ++ optionalHeader (ascii "server-timing") env.serverTiming)
  sendfile := none

/-! ## Laws -/

/-- The header names that bear on compression. -/
def compressionNames : List Bytes :=
  [ascii "content-encoding", ascii "content-type", ascii "content-length"]

/-- Some header marks the response as an event stream. -/
def Bridge.isSse (bridge : Bridge) (headers : List Header) : Bool :=
  headers.any fun header => lower header.1 = ascii "content-type" && bridge.isEventStream header.2

/-- What the results about bridges use of one: what it adds to the headers does
not bear on compression, and its heads name an encoding of their own exactly
when an encoder stays on. -/
structure LawfulBridge (bridge : Bridge) : Prop where
  start_fields : ∀ env headers, ∀ name ∈ compressionNames,
    fields name (bridge.startHeaders env headers) = fields name (sanitizeHeaders headers)
  buildHead_none : ∀ env headers, (bridge.buildHead env none headers).1 = none ∧
    fieldValues (ascii "content-encoding") (bridge.buildHead env none headers).2 =
      fieldValues (ascii "content-encoding") headers
  buildHead_off : ∀ env compressor headers,
    bridge.isSse headers ∨ headers.any isContentEncoding →
      (bridge.buildHead env (some compressor) headers).1 = none ∧
        fieldValues (ascii "content-encoding") (bridge.buildHead env (some compressor) headers).2 =
          fieldValues (ascii "content-encoding") headers
  buildHead_on : ∀ env compressor headers,
    ¬ (bridge.isSse headers ∨ headers.any isContentEncoding) →
      fieldValues (ascii "content-encoding") (bridge.buildHead env (some compressor) headers).2 =
        [compressor.encoding]

/-- An optional header of another name adds no field. -/
theorem fields_optionalHeader {name other : Bytes} (value : Option Bytes)
    (hother : lower other ≠ name) : fields name (optionalHeader other value) = [] := by
  cases value <;> simp [fields, optionalHeader, hother]

/-- Dictionary advertisements are neither encodings, types nor lengths. -/
theorem fields_useAsDictionaryHeaders {name : Bytes} (dictionaries : List CompressionDictionary)
    (target : Bytes) (huse : lower (ascii "use-as-dictionary") ≠ name)
    (hlink : lower (ascii "link") ≠ name) :
    fields name (useAsDictionaryHeaders dictionaries target) = [] := by
  rw [useAsDictionaryHeaders, fields, List.filter_eq_nil_iff]
  intro header hmem
  obtain ⟨dictionary, -, hin⟩ := List.mem_flatMap.mp hmem
  split at hin
  · simp only [List.mem_cons, List.not_mem_nil, or_false] at hin
    rcases hin with rfl | rfl
    · simpa using huse
    · simpa using hlink
  · cases hin

/-- Looking a header up by a lower-case name finds the first field of that name. -/
theorem getHeader_eq {name : Bytes} (hname : lower name = name) (headers : List Header) :
    getHeader headers name = (fields name headers).head?.map (·.2) := by
  rw [getHeader, fields, List.head?_filter, hname]

/-- Event streams are recognised among the Content-Type fields. -/
theorem Bridge.isSse_eq (bridge : Bridge) (headers : List Header) :
    bridge.isSse headers =
      (fields (ascii "content-type") headers).any fun header => bridge.isEventStream header.2 := by
  rw [Bridge.isSse, fields, List.any_filter]

/-- Encoded responses are recognised by their Content-Encoding fields. -/
theorem any_isContentEncoding (headers : List Header) :
    headers.any isContentEncoding = !(fields (ascii "content-encoding") headers).isEmpty := by
  rw [Bool.eq_iff_iff]
  simp [fields, isContentEncoding]

/-- The request identifier does not bear on compression. -/
theorem fields_requestHeaders {name : Bytes} (env : SendEnv) (headers : List Header)
    (hname : lower (ascii "x-request-id") ≠ name) :
    fields name (requestHeaders env headers) = fields name (sanitizeHeaders headers) := by
  have happend : requestHeaders env headers = sanitizeHeaders headers ++
      sanitizeHeaders (optionalHeader (ascii "x-request-id") env.requestId) := by
    simp [requestHeaders, sanitizeHeaders, optionalHeader]
  have hid : sanitizeHeaders (optionalHeader (ascii "x-request-id") env.requestId) =
      optionalHeader (ascii "x-request-id") (env.requestId.map stripCrlf) := by
    cases env.requestId <;> rfl
  rw [happend, hid, fields_append, fields_optionalHeader _ hname, List.append_nil]

/-- Chunked coding is no content coding. -/
theorem fieldValues_injectChunked (headers : List Header) (framing : List Bytes) :
    fieldValues (ascii "content-encoding") (injectChunked headers framing) =
      fieldValues (ascii "content-encoding") headers := by
  rw [injectChunked]
  split
  · rfl
  · rw [fieldValues_append]
    exact List.append_nil _

theorem fieldValues_optionalHeader {name other : Bytes} (value : Option Bytes)
    (hother : lower other ≠ name) : fieldValues name (optionalHeader other value) = [] := by
  rw [fieldValues, fields_optionalHeader value hother, List.map_nil]

/-- An encoded head names its encoding and nothing else does. -/
theorem encodeHead_on (isEventStream : Bytes → Bool) (env : SendEnv) (compressor : Compressor)
    {headers : List Header}
    (hon : ¬ (headers.any (fun header => lower header.1 = ascii "content-type" &&
      isEventStream header.2) ∨ headers.any isContentEncoding)) :
    (encodeHead isEventStream env compressor headers).1 = some compressor ∧
      fieldValues (ascii "content-encoding") (encodeHead isEventStream env compressor headers).2 =
        [compressor.encoding] := by
  rw [encodeHead, if_neg hon]
  refine ⟨rfl, ?_⟩
  have hnone : fieldValues (ascii "content-encoding")
      (headers.filter fun header => lower header.1 ≠ ascii "content-length") = [] := by
    rw [fieldValues, List.map_eq_nil_iff, fields, List.filter_eq_nil_iff]
    intro header hmem
    have hplain : ¬ isContentEncoding header := fun hce =>
      hon (Or.inr (List.any_eq_true.mpr ⟨header, List.mem_of_mem_filter hmem, hce⟩))
    simpa [isContentEncoding] using hplain
  rw [fieldValues_append, fieldValues_append, hnone]
  cases env.dictionaryHash <;> rfl

theorem encodeHead_off {isEventStream : Bytes → Bool} (env : SendEnv) (compressor : Compressor)
    {headers : List Header}
    (hoff : headers.any (fun header => lower header.1 = ascii "content-type" &&
      isEventStream header.2) ∨ headers.any isContentEncoding) :
    encodeHead isEventStream env compressor headers = (none, headers) := by
  rw [encodeHead, if_pos hoff]

theorem lawful_h1 : LawfulBridge h1 where
  start_fields env headers name hname := by
    simp only [compressionNames, List.mem_cons, List.not_mem_nil, or_false] at hname
    simp only [h1, fields_append]
    rcases hname with rfl | rfl | rfl
    all_goals
      rw [fields_requestHeaders env headers (by decide), fields_optionalHeader _ (by decide),
        fields_useAsDictionaryHeaders _ _ (by decide) (by decide), List.append_nil, List.append_nil]
  buildHead_none env headers := by
    refine ⟨rfl, ?_⟩
    simp only [h1, h1BuildHead]
    rw [fieldValues_append, fieldValues_optionalHeader _ (by decide), List.append_nil,
      fieldValues_injectChunked]
  buildHead_off env compressor headers hoff := by
    have hencode : encodeHead (fun value => contains (ascii "text/event-stream") value) env
      compressor headers = (none, headers) := encodeHead_off env compressor hoff
    simp only [h1, h1BuildHead, hencode]
    refine ⟨trivial, ?_⟩
    rw [fieldValues_append, fieldValues_optionalHeader _ (by decide), List.append_nil]
    rfl
  buildHead_on env compressor headers hon := by
    obtain ⟨hsome, hencoding⟩ :=
      encodeHead_on h1.isEventStream env compressor hon
    simp only [h1] at hsome hencoding
    simp only [h1, h1BuildHead, hsome, Option.isSome_some, if_true]
    rw [fieldValues_append, fieldValues_optionalHeader _ (by decide), List.append_nil,
      fieldValues_injectChunked, hencoding]

/-- Multiplexed heads obey the laws, whatever is put behind them. -/
theorem multiplexedHead_spec (env : SendEnv) (compressor : Compressor) (headers : List Header) :
    multiplexedHead env none headers = (none, headers) ∧
      (h2.isSse headers ∨ headers.any isContentEncoding →
        multiplexedHead env (some compressor) headers = (none, headers)) ∧
      (¬ (h2.isSse headers ∨ headers.any isContentEncoding) →
        fieldValues (ascii "content-encoding") (multiplexedHead env (some compressor) headers).2 =
          [compressor.encoding]) :=
  ⟨rfl, fun hoff => encodeHead_off env compressor hoff,
    fun hon => (encodeHead_on _ env compressor hon).2⟩

theorem lawful_h2 : LawfulBridge h2 where
  start_fields env headers name hname := by
    simp only [compressionNames, List.mem_cons, List.not_mem_nil, or_false] at hname
    rcases hname with rfl | rfl | rfl <;> exact fields_requestHeaders env headers (by decide)
  buildHead_none env headers := by
    refine ⟨rfl, ?_⟩
    simp only [h2, multiplexedHead, fieldValues_append]
    rw [fieldValues_optionalHeader _ (by decide), fieldValues_optionalHeader _ (by decide),
      List.append_nil, List.append_nil]
  buildHead_off env compressor headers hoff := by
    obtain ⟨-, hmultiplexed, -⟩ := multiplexedHead_spec env compressor headers
    simp only [h2, hmultiplexed hoff, fieldValues_append]
    rw [fieldValues_optionalHeader _ (by decide), fieldValues_optionalHeader _ (by decide),
      List.append_nil, List.append_nil]
    exact ⟨trivial, rfl⟩
  buildHead_on env compressor headers hon := by
    obtain ⟨-, -, hmultiplexed⟩ := multiplexedHead_spec env compressor headers
    simp only [h2, fieldValues_append, hmultiplexed hon]
    rw [fieldValues_optionalHeader _ (by decide), fieldValues_optionalHeader _ (by decide),
      List.append_nil, List.append_nil]

theorem lawful_h3 : LawfulBridge h3 where
  start_fields := lawful_h2.start_fields
  buildHead_none env headers := by
    refine ⟨rfl, ?_⟩
    simp only [h3, multiplexedHead, fieldValues_append]
    rw [fieldValues_optionalHeader _ (by decide), List.append_nil]
  buildHead_off env compressor headers hoff := by
    obtain ⟨-, hmultiplexed, -⟩ := multiplexedHead_spec env compressor headers
    simp only [h3, hmultiplexed hoff, fieldValues_append]
    rw [fieldValues_optionalHeader _ (by decide), List.append_nil]
    exact ⟨trivial, rfl⟩
  buildHead_on env compressor headers hon := by
    obtain ⟨-, -, hmultiplexed⟩ := multiplexedHead_spec env compressor headers
    simp only [h3, fieldValues_append, hmultiplexed hon]
    rw [fieldValues_optionalHeader _ (by decide), List.append_nil]

end Pounce.Asgi
