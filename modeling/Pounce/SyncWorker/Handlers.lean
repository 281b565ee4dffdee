/-
# What the handlers of a connection take

A turn of the loop raises nothing its handlers let through exactly if it is `CycleContained`:
the fused application raises no exception but `OSError`, all headers of a response validate, no
response is sent in parts through a TLS socket, and a forwarded host has no port that is no
numeral. `handled_serveCycle` puts this together from one equivalence for each stage.
-/

import Pounce.SyncWorker.Connection

namespace Pounce.SyncWorker

open Pounce.Math Pounce.Math.Bytes Pounce.Asgi

variable {capacity : ℕ} (env : Env)

/-! ## Headers that validate -/

/-- The headers an encoded response is given. -/
def encodingHeaders (exchange : Exchange) : List Header :=
  exchange.compressor.toList.map (fun encoder => (ascii "content-encoding", encoder.encoding)) ++
    exchange.dictionary.toList.map fun dictionary => (ascii "used-dictionary", dictionary.sfHash)

/-- The headers of the server's own making that do not depend on the response. -/
def ownHeaders (config : ServerConfig) (exchange : Exchange) : List Header :=
  exchange.requestId.toList.map (fun requestId => (ascii "x-request-id", requestId)) ++
    useAsDictionaryHeaders config.compressionDictionaries exchange.target

/-- All headers that are sent for a response validate: those the application has set, but for
the Content-Length headers that are dropped, and those the server adds. -/
structure HeadersValid (config : ServerConfig) (exchange : Exchange) (headers : List Header)
    (body : Bytes) (applyMinSize : Bool) : Prop where
  given : ∀ header ∈ headers, lower header.1 ≠ ascii "content-length" →
    ResponseFrame.validHeader header
  declared : ¬ compressionActive config headers body exchange.compressor applyMinSize →
    ∀ value ∈ declaredLengths (compressionOffered config body exchange.compressor applyMinSize)
      headers, cleanValue value
  encoding : compressionActive config headers body exchange.compressor applyMinSize →
    ∀ header ∈ encodingHeaders exchange, ResponseFrame.validHeader header
  own : ∀ header ∈ ownHeaders config exchange, ResponseFrame.validHeader header

/-- A header whose name is lowered to one that validates does so if its value does. -/
theorem validHeader_of_lower {header : Header} {name : Bytes} (hname : lower header.1 = name)
    (hvalid : 13 ∉ name ∧ 10 ∉ name ∧ 58 ∉ name) :
    ResponseFrame.validHeader header = cleanValue header.2 := by
  have hlower : ∀ byte, lowerByte byte = byte → byte ∉ name → byte ∉ header.1 := by
    intro byte hsame hnot hmem
    apply hnot
    rw [← hname, lower, List.mem_map]
    exact ⟨byte, hmem, hsame⟩
  have hreturn : (13 : UInt8) ∉ header.1 := hlower 13 rfl hvalid.1
  have hfeed : (10 : UInt8) ∉ header.1 := hlower 10 rfl hvalid.2.1
  have hcolon : (58 : UInt8) ∉ header.1 := hlower 58 rfl hvalid.2.2
  simp [ResponseFrame.validHeader, cleanValue, hreturn, hfeed, hcolon]

/-- A decimal numeral is clean. -/
theorem cleanValue_ofNat (value : ℕ) : cleanValue (ofNat value) := by
  obtain ⟨-, hdigits, -⟩ := decimal?_eq_some.mp (decimal?_ofNat value)
  have hreturn : (13 : UInt8) ∉ ofNat value := fun hmem => absurd (hdigits 13 hmem) (by decide)
  have hfeed : (10 : UInt8) ∉ ofNat value := fun hmem => absurd (hdigits 10 hmem) (by decide)
  simp [cleanValue, hreturn, hfeed]

/-- All headers validate if those that are no Content-Length do and the lengths are clean. -/
theorem all_valid_iff {headers : List Header} :
    (∀ header ∈ headers, ResponseFrame.validHeader header) ↔
      (∀ header ∈ headers, lower header.1 ≠ ascii "content-length" →
        ResponseFrame.validHeader header) ∧
      ∀ value ∈ fieldValues (ascii "content-length") headers, cleanValue value := by
  have hlength : ∀ header : Header, lower header.1 = ascii "content-length" →
      ResponseFrame.validHeader header = cleanValue header.2 :=
    fun header hname => validHeader_of_lower hname (by decide)
  constructor
  · intro hall
    refine ⟨fun header hmem _ => hall header hmem, ?_⟩
    intro value hvalue
    obtain ⟨header, hfield, rfl⟩ := List.mem_map.mp hvalue
    obtain ⟨hmem, hname⟩ := List.mem_filter.mp hfield
    rw [← hlength header (of_decide_eq_true hname)]
    exact hall header hmem
  · intro hboth header hmem
    by_cases hname : lower header.1 = ascii "content-length"
    · rw [hlength header hname]
      apply hboth.2
      exact List.mem_map_of_mem ((mem_fields hname).mpr hmem)
    · exact hboth.1 header hmem hname

/-- The header pass keeps all headers but Content-Length ones. -/
theorem mem_finalizeScan {offered : Bool} {headers : List Header} {header : Header}
    (hname : lower header.1 ≠ ascii "content-length") :
    header ∈ (headers.foldl finalizeHeader { shouldCompress := offered }).headers ↔
      header ∈ headers := by
  have hfields := (foldl_finalizeHeader headers { shouldCompress := offered }).2.2.2
    (lower header.1) hname
  rw [← mem_fields (rfl : lower header.1 = lower header.1), hfields, List.mem_append,
    mem_fields rfl, mem_fields rfl]
  exact or_iff_right (List.not_mem_nil)

/-- Restoring the Content-Length adds nothing else. -/
theorem mem_restoreLength {scan : FinalizeScan} {body : Bytes} {header : Header}
    (hname : lower header.1 ≠ ascii "content-length")
    (hlength : ∀ length, scan.contentLength = some length →
      lower length.1 = ascii "content-length") :
    header ∈ restoreLength scan body ↔ header ∈ scan.headers := by
  have hother : ∀ length : Header, lower length.1 = ascii "content-length" → header ≠ length := by
    rintro length hsame rfl
    exact hname hsame
  unfold restoreLength
  split
  case h_1 =>
    rw [List.mem_append, List.mem_singleton,
      or_iff_left (hother (contentLengthHeader body) rfl)]
  case h_2 length hsome =>
    split
    case isTrue => rfl
    case isFalse =>
      rw [List.mem_append, List.mem_singleton, or_iff_left (hother length (hlength length hsome))]

/-- With compression active, what is sent besides Content-Length headers is what was given
and what describes the encoding. -/
theorem mem_finalize_active {config : ServerConfig} {exchange : Exchange} {headers : List Header}
    {body : Bytes} {applyMinSize : Bool}
    (hactive : compressionActive config headers body exchange.compressor applyMinSize = true)
    {header : Header} (hname : lower header.1 ≠ ascii "content-length") :
    header ∈ (finalizeResponseHeaders config headers body exchange.compressor exchange.dictionary
      applyMinSize).1 ↔ header ∈ headers ∨ header ∈ encodingHeaders exchange := by
  obtain ⟨encoder, hencoder, -⟩ := finalizeResponseHeaders_active exchange.dictionary hactive
  obtain ⟨hcompress, -⟩ :=
    finalizeScan (compressionOffered config body exchange.compressor applyMinSize) headers
  rw [compressionActive] at hactive
  rw [hactive] at hcompress
  have hlength : header ≠ contentLengthHeader (encoder.oneShot body) := by
    rintro rfl
    exact hname rfl
  rw [hencoder] at hcompress ⊢
  simp only [finalizeResponseHeaders, hcompress, encodingHeaders, hencoder, List.mem_append,
    mem_finalizeScan hname, Option.toList_some, List.map_cons, List.map_nil, List.mem_cons,
    List.not_mem_nil, or_false]
  rw [or_iff_left hlength, or_assoc]

/-- With compression inactive, it is what was given. -/
theorem mem_finalize_inactive {config : ServerConfig} {exchange : Exchange}
    {headers : List Header} {body : Bytes} {applyMinSize : Bool}
    (hinactive : compressionActive config headers body exchange.compressor applyMinSize = false)
    {header : Header} (hname : lower header.1 ≠ ascii "content-length") :
    header ∈ (finalizeResponseHeaders config headers body exchange.compressor exchange.dictionary
      applyMinSize).1 ↔ header ∈ headers := by
  obtain ⟨hcompress, hlast, -⟩ :=
    finalizeScan (compressionOffered config body exchange.compressor applyMinSize) headers
  rw [compressionActive] at hinactive
  rw [hinactive] at hcompress
  have hrestored : ∀ scan : FinalizeScan, scan.contentLength =
      (fields (ascii "content-length") headers).getLast? →
        (header ∈ restoreLength scan body ↔ header ∈ scan.headers) := by
    intro scan hscan
    apply mem_restoreLength hname
    intro length hlength
    rw [hscan] at hlength
    exact of_decide_eq_true (List.mem_filter.mp (List.mem_of_getLast? hlength)).2
  have hout : (finalizeResponseHeaders config headers body exchange.compressor
      exchange.dictionary applyMinSize).1 = restoreLength (headers.foldl finalizeHeader
        { shouldCompress := compressionOffered config body exchange.compressor applyMinSize })
          body := by
    simp only [finalizeResponseHeaders, hcompress]
    generalize exchange.compressor = compressor
    cases compressor <;> rfl
  rw [hout]
  exact (hrestored _ hlast).trans (mem_finalizeScan hname)

/-- The Content-Length headers that are sent are clean if those passed on are. -/
theorem cleanValue_finalize (config : ServerConfig) (exchange : Exchange)
    (headers : List Header) (body : Bytes) (applyMinSize : Bool) :
    (∀ value ∈ fieldValues (ascii "content-length") (finalizeResponseHeaders config headers body
        exchange.compressor exchange.dictionary applyMinSize).1, cleanValue value) ↔
      (¬ compressionActive config headers body exchange.compressor applyMinSize →
        ∀ value ∈ declaredLengths (compressionOffered config body exchange.compressor applyMinSize)
          headers, cleanValue value) := by
  by_cases hactive : compressionActive config headers body exchange.compressor applyMinSize
  · obtain ⟨encoder, hencoder, -, hlengths, -⟩ :=
      finalizeResponseHeaders_active exchange.dictionary hactive
    rw [hlengths]
    simp [hactive, cleanValue_ofNat]
  · obtain ⟨-, hlengths, -⟩ := finalizeResponseHeaders_inactive exchange.dictionary hactive
    rw [hlengths, forall_prop_of_true hactive]
    split
    case isTrue hnone => simp [hnone, cleanValue_ofNat]
    case isFalse => rfl

/-- No header about an encoding is a Content-Length. -/
theorem encodingHeaders_ne {exchange : Exchange} {header : Header}
    (hheader : header ∈ encodingHeaders exchange) :
    lower header.1 ≠ ascii "content-length" := by
  obtain hencoding | hdictionary := List.mem_append.mp hheader
  · obtain ⟨_, -, rfl⟩ := List.mem_map.mp hencoding
    exact of_decide_eq_true rfl
  · obtain ⟨_, -, rfl⟩ := List.mem_map.mp hdictionary
    exact of_decide_eq_true rfl

/-- The finalized headers validate if what is passed on and what is added does. -/
theorem finalizeResponseHeaders_valid (config : ServerConfig) (exchange : Exchange)
    (headers : List Header) (body : Bytes) (applyMinSize : Bool) :
    (∀ header ∈ (finalizeResponseHeaders config headers body exchange.compressor
        exchange.dictionary applyMinSize).1, ResponseFrame.validHeader header) ↔
      (∀ header ∈ headers, lower header.1 ≠ ascii "content-length" →
        ResponseFrame.validHeader header) ∧
      (¬ compressionActive config headers body exchange.compressor applyMinSize →
        ∀ value ∈ declaredLengths (compressionOffered config body exchange.compressor applyMinSize)
          headers, cleanValue value) ∧
      (compressionActive config headers body exchange.compressor applyMinSize →
        ∀ header ∈ encodingHeaders exchange, ResponseFrame.validHeader header) := by
  rw [all_valid_iff, cleanValue_finalize, and_left_comm]
  apply and_comm.trans
  apply and_congr_right'
  cases hactive : compressionActive config headers body exchange.compressor applyMinSize with
  | true =>
      constructor
      · intro hall
        constructor
        · intro header hheader hname
          exact hall header ((mem_finalize_active hactive hname).mpr (.inl hheader)) hname
        · intro _ header hheader
          have hname := encodingHeaders_ne hheader
          exact hall header ((mem_finalize_active hactive hname).mpr (.inr hheader)) hname
      · intro hboth header hheader hname
        obtain hgiven | hadded := (mem_finalize_active hactive hname).mp hheader
        · exact hboth.1 header hgiven hname
        · exact hboth.2 rfl header hadded
  | false =>
      constructor
      · intro hall
        constructor
        · intro header hheader hname
          exact hall header ((mem_finalize_inactive hactive hname).mpr hheader) hname
        · intro hfalse
          cases hfalse
      · intro hboth header hheader hname
        exact hboth.1 header ((mem_finalize_inactive hactive hname).mp hheader) hname

theorem serializeAndSend_isSome {config : ServerConfig} {exchange : Exchange} {status : ℕ}
    {headers : List Header} {body : Bytes} {closed : Bool} :
    (serializeAndSend config exchange status headers body closed).isSome ↔
      ∀ header ∈ headers, ResponseFrame.validHeader header := by
  rw [serializeAndSend, Option.isSome_map, ResponseFrame.serializeRawResponseParts,
    ← List.all_eq_true]
  split
  case isTrue hall => simp [hall]
  case isFalse hall => simp [hall]

/-- A response of the fused path is serialized if its headers validate. -/
theorem serveFused_isSome {config : ServerConfig} {exchange : Exchange} {response : RawResponse}
    (hrequestId : exchange.requestId = none) :
    (serveFused config exchange response).isSome ↔
      HeadersValid config exchange response.headers response.body true := by
  have hconnection : ResponseFrame.validHeader (ascii "connection", ascii "close") := by decide
  rw [serveFused, serializeAndSend_isSome]
  simp only [List.forall_mem_append, List.forall_mem_singleton, hconnection, and_true,
    finalizeResponseHeaders_valid]
  constructor
  · intro hall
    constructor
    case given => exact hall.1.1
    case declared => exact hall.1.2.1
    case encoding => exact hall.1.2.2
    case own =>
      rw [ownHeaders, hrequestId]
      exact hall.2
  · intro hvalid
    have hown := hvalid.own
    rw [ownHeaders, hrequestId] at hown
    exact ⟨⟨hvalid.given, hvalid.declared, hvalid.encoding⟩, hown⟩

/-- So is one of the inline path. -/
theorem serveInline_isSome {config : ServerConfig} {exchange : Exchange}
    {response : SyncResponse} :
    (serveInline config exchange response).isSome ↔
      HeadersValid config exchange response.headers response.body false := by
  have hconnection : ∀ closed : Bool, ResponseFrame.validHeader
      (ascii "connection", if closed then ascii "close" else ascii "keep-alive") := by decide
  rw [serveInline, serializeAndSend_isSome]
  simp only [List.forall_mem_append, List.forall_mem_singleton, hconnection, and_true,
    finalizeResponseHeaders_valid]
  constructor
  · intro hall
    constructor
    case given => exact hall.1.1.1
    case declared => exact hall.1.1.2.1
    case encoding => exact hall.1.1.2.2
    case own => exact List.forall_mem_append.mpr ⟨hall.1.2, hall.2⟩
  · intro hvalid
    obtain ⟨hrequestId, hadvertised⟩ := List.forall_mem_append.mp hvalid.own
    exact ⟨⟨⟨hvalid.given, hvalid.declared, hvalid.encoding⟩, hrequestId⟩, hadvertised⟩

/-- The headers of a built-in response validate. -/
theorem Builtin.validHeaders (builtin : Builtin) :
    ∀ header ∈ builtin.response.2.1, ResponseFrame.validHeader header := by
  have hlength : ∀ body : Bytes, ResponseFrame.validHeader (contentLengthHeader body) := by
    intro body
    have hname : lower (contentLengthHeader body).1 = ascii "content-length" := rfl
    rw [validHeader_of_lower hname (by decide)]
    exact cleanValue_ofNat body.length
  cases builtin with
  | health draining payload => simp [Builtin.response, hlength]; decide
  | introspection body => simp [Builtin.response, hlength]; decide
  | dictionary content => simp [Builtin.response, hlength]; decide
  | dictionaryMissing => simp [Builtin.response]; decide

/-! ## Cycles that raise nothing else -/

/-- The response has been taken, by the first send or the second. -/
def Cycle.Delivered (cycle : Cycle) : Prop :=
  cycle.send = .done ∨ (cycle.send = .failed ∧ cycle.resend = .done)

/-- The filter of the access log raises nothing, or an `OSError`. -/
def Cycle.LogContained (cycle : Cycle) : Prop :=
  ∀ error, cycle.logFilter = some error → error.isOSError

/-- Sending and logging a serialized response is contained. -/
def SendContained (cycle : Cycle) : Prop :=
  env.tls = false ∧ (cycle.Delivered → cycle.LogContained)

/-- What the fused application does is contained. -/
def FusedContained (exchange : Exchange) (cycle : Cycle) : FusedResult → Prop
  | .raised error => error.isOSError
  | .unusable error => error.isOSError
  | .response response =>
      HeadersValid env.config exchange response.headers response.body true ∧
        SendContained env cycle

/-- The port of a forwarded host, if the peer is believed, is a numeral `int` takes. -/
def ForwardedContained (client : String) (request : RequestReceived) : Prop :=
  isTrustedPeer env client → ∀ host port, forwardedHost request.headers = some host →
    (splitHost host).2 = some port → (∀ byte ∈ port, isDigit byte) ∧ port.length ≤ maxIntDigits

/-- What the application does on the inline path is contained. -/
def InlineContained (exchange : Exchange) (cycle : Cycle) : Prop :=
  let response := callAsgiSync exchange.method cycle.messages
  ¬ cycle.raised → ¬ response.needsAsync →
    HeadersValid env.config exchange response.headers response.body false ∧
      SendContained env cycle

/-- Answering a prepared request is contained. -/
def PreparedContained (request : RequestReceived) (requestId : Bytes) (exchange : Exchange)
    (cycle : Cycle) : Prop :=
  match env.builtin request with
  | some builtin => builtin.logs → cycle.send = .done → cycle.LogContained
  | none => InlineContained env { exchange with requestId := some requestId } cycle

/-- Answering through the scope is contained. -/
def ScopedContained (client : String) (request : RequestReceived) (exchange : Exchange)
    (cycle : Cycle) : Prop :=
  ForwardedContained env client request ∧
    PreparedContained env request
      (extractOrGenerate request.headers (isTrustedPeer env client) cycle.uuid) exchange cycle

/-- Answering a request is contained. -/
def RequestContained (client : String) (request : RequestReceived) (count : ℕ)
    (cycle : Cycle) : Prop :=
  ¬ (classifyRequest request).isWebsocket →
    let exchange := exchangeOf env request count cycle
    match fusedResult env cycle with
    | some result => FusedContained env exchange cycle result
    | none => ScopedContained env client request exchange cycle

/-- A turn of the loop is contained. -/
def CycleContained (session : Session capacity) (cycle : Cycle) : Prop :=
  ¬ (0 < session.requestCount ∧ cycle.shuttingDown) →
    ∀ request body, (recvRequestFast env.config (session.receiving cycle)).1 =
      .request request body →
        RequestContained env session.client.1 request session.requestCount cycle

variable {env}

/-- A TLS socket does not take a response in parts; any other failure is an `OSError`. -/
theorem handled_sendParts {cycle : Cycle} : Handled (sendParts env cycle) ↔ env.tls = false := by
  unfold sendParts
  cases htls : env.tls with
  | true => simp [PyError.isOSError]
  | false =>
      cases hsend : cycle.send <;> cases hresend : cycle.resend <;>
        simp [SendOutcome.run, PyError.isOSError]

theorem sendParts_ok {cycle : Cycle} (htls : env.tls = false) :
    sendParts env cycle = .ok () ↔ cycle.Delivered := by
  unfold sendParts Cycle.Delivered
  rw [htls]
  cases hsend : cycle.send <;> cases hresend : cycle.resend <;> simp [SendOutcome.run]

theorem handled_logRequest {cycle : Cycle} : Handled (logRequest cycle) ↔ cycle.LogContained := by
  unfold logRequest Cycle.LogContained
  cases cycle.logFilter with
  | none => simp
  | some error => simp

/-- Serializing, sending and logging. -/
theorem handled_serializeSendAndLog {cycle : Cycle} {ending : Ending} {written : Option Written} :
    Handled (serializeSendAndLog env cycle ending written) ↔
      written.isSome ∧ SendContained env cycle := by
  cases written with
  | none => simp [serializeSendAndLog, PyError.isOSError]
  | some written =>
      simp only [serializeSendAndLog, raisesOnly_bind, handled_sendParts, handled_logRequest,
        raisesOnly_ok, implies_true, and_true, Option.isSome_some, true_and, SendContained]
      apply and_congr_right
      intro htls
      constructor
      · intro hall hdelivered
        exact hall () ((sendParts_ok htls).mpr hdelivered)
      · intro hlog value hsent
        exact hlog ((sendParts_ok htls).mp hsent)

theorem handled_serveBuiltin {exchange : Exchange} {cycle : Cycle} {ending : Ending}
    {builtin : Builtin} :
    Handled (serveBuiltin env exchange cycle ending builtin) ↔
      (builtin.logs → cycle.send = .done → cycle.LogContained) := by
  have hconnection : ∀ closed : Bool, ResponseFrame.validHeader
      (ascii "connection", if closed then ascii "close" else ascii "keep-alive") := by decide
  have hvalid : (builtin.response.2.1 ++ [(ascii "connection",
      if exchange.closeAfter || exchange.atLimit then ascii "close"
        else ascii "keep-alive")]).all ResponseFrame.validHeader := by
    rw [List.all_eq_true, List.forall_mem_append, List.forall_mem_singleton]
    exact ⟨builtin.validHeaders, hconnection _⟩
  unfold serveBuiltin
  simp only [ResponseFrame.serializeRawResponseParts, hvalid, if_true, raisesOnly_bind]
  cases hsend : cycle.send with
  | timeout => simp [SendOutcome.run, PyError.isOSError]
  | failed => simp [SendOutcome.run, PyError.isOSError]
  | done =>
      cases hlogs : builtin.logs with
      | false => simp [SendOutcome.run]
      | true => simp [SendOutcome.run, raisesOnly_bind, handled_logRequest]

theorem handled_answerFused {exchange : Exchange} {cycle : Cycle} {result : FusedResult}
    (hrequestId : exchange.requestId = none) :
    Handled (answerFused env exchange cycle result) ↔ FusedContained env exchange cycle result := by
  cases result with
  | raised error => exact raisesOnly_error
  | unusable error => exact raisesOnly_error
  | response response =>
      rw [answerFused, handled_serializeSendAndLog, serveFused_isSome hrequestId, FusedContained]

theorem handled_answerInline {exchange : Exchange} {cycle : Cycle} {ending : Ending} :
    Handled (answerInline env exchange cycle ending) ↔ InlineContained env exchange cycle := by
  simp only [answerInline, InlineContained]
  by_cases hraised : cycle.raised
  · simp [hraised]
  · by_cases hasync : (callAsgiSync exchange.method cycle.messages).needsAsync
    · simp [hraised, hasync]
    · rw [if_neg hraised, if_neg hasync, handled_serializeSendAndLog, serveInline_isSome]
      simp [hraised, hasync]

/-- A digit text is read as a numeral if its digits are decimal and not too many. -/
theorem readInt_isDigitText {text : Bytes} (htext : isDigitText text) :
    (readInt text).isSome ↔ (∀ byte ∈ text, isDigit byte) ∧ text.length ≤ maxIntDigits := by
  obtain ⟨hne, hbytes⟩ : text ≠ [] ∧ ∀ byte ∈ text, isDigit byte ∨ byte ∈ [178, 179, 185] := by
    simpa [isDigitText] using htext
  have hother : ∀ byte ∈ text, ¬ isSpace byte ∧ byte ≠ 43 ∧ byte ≠ 45 ∧ byte ≠ 95 := by
    intro byte hmem
    obtain hdigit | hsuperscript := hbytes byte hmem
    · refine ⟨not_isSpace_of_isDigit hdigit, ?_, ?_, ?_⟩
      all_goals
        rintro rfl
        exact absurd hdigit (by decide)
    · obtain rfl | rfl | rfl : byte = 178 ∨ byte = 179 ∨ byte = 185 := by
        simpa using hsuperscript
      all_goals decide
  rw [readInt_bare hne (fun byte hmem => (hother byte hmem).1)
    (fun hmem => (hother 43 hmem).2.1 rfl) (fun hmem => (hother 45 hmem).2.2.1 rfl),
    Option.isSome_map, readMagnitude]
  by_cases hdigits : ∀ byte ∈ text, isDigit byte
  · rw [List.countP_eq_length.mpr hdigits, readDigits_of_isDigit hdigits 0 false (.inr hne),
      and_iff_right hdigits]
    split
    case isTrue hshort => simp [hshort]
    case isFalse hlong => simp [hlong]
  · obtain ⟨byte, hmem, hdigit⟩ : ∃ byte ∈ text, ¬ isDigit byte := by simpa using hdigits
    rw [readDigits_eq_none hmem hdigit (hother byte hmem).2.2.2, ite_self]
    simp [hdigits]

/-- The text of a port is a digit text. -/
theorem isDigitText_splitHost {host name port : Bytes}
    (hsplit : splitHost host = (name, some port)) : isDigitText port := by
  unfold splitHost at hsplit
  split at hsplit
  case h_1 close hbracket hclose =>
    obtain ⟨-, hport⟩ := Prod.mk.inj hsplit
    split at hport
    case isTrue hdigits =>
      obtain rfl := Option.some.inj hport
      exact hdigits.2
    case isFalse => cases hport
  case h_2 =>
    split at hsplit
    case h_1 => cases hsplit
    case h_2 colon hcolon =>
      split at hsplit
      case isTrue hdigits =>
        obtain ⟨-, hport⟩ := Prod.mk.inj hsplit
        obtain rfl := Option.some.inj hport
        exact hdigits.2.2
      case isFalse => cases hsplit

/-- Splitting a forwarded host raises where the port is no numeral for `int`. -/
theorem handled_splitHostPort {host : Bytes} {defaultPort : ℕ} :
    Handled (splitHostPort host defaultPort) ↔ ∀ port, (splitHost host).2 = some port →
      (∀ byte ∈ port, isDigit byte) ∧ port.length ≤ maxIntDigits := by
  unfold splitHostPort
  split
  case h_1 name hsplit => simp [hsplit]
  case h_2 name port hsplit =>
    rw [hsplit]
    have hread := readInt_isDigitText (isDigitText_splitHost hsplit)
    cases hint : readInt port with
    | none =>
        rw [hint] at hread
        simpa [PyError.isOSError] using hread
    | some value =>
        rw [hint] at hread
        simpa using hread

theorem handled_prepareRequest {client : String} {server : String × ℕ}
    {request : RequestReceived} {uuid : Uuid} :
    Handled (prepareRequest env client server request uuid) ↔
      ForwardedContained env client request := by
  simp only [prepareRequest, raisesOnly_bind, raisesOnly_ok, implies_true, and_true,
    applyProxyHeaders, ForwardedContained]
  by_cases htrusted : isTrustedPeer env client
  · rw [if_pos htrusted]
    cases hhost : forwardedHost request.headers with
    | none => simp
    | some host =>
        simp only [handled_splitHostPort, htrusted, true_imp_iff, Option.some.injEq]
        constructor
        · rintro hport _ port rfl
          exact hport port
        · intro hport port
          exact hport host port rfl
  · simp [htrusted]

/-- Splitting a host raises nothing but a `ValueError`. -/
theorem splitHostPort_error {host : Bytes} {defaultPort : ℕ} {error : PyError}
    (herror : splitHostPort host defaultPort = .error error) : error = .other := by
  unfold splitHostPort at herror
  split at herror
  case h_1 => cases herror
  case h_2 =>
    split at herror
    case h_1 => cases herror
    case h_2 =>
      cases herror
      rfl

variable (env) in
/-- Preparing a request raises, or gives it its identifier. -/
theorem prepareRequest_cases (client : String) (server : String × ℕ) (request : RequestReceived)
    (uuid : Uuid) :
    prepareRequest env client server request uuid = .error .other ∨
      ∃ rewritten, prepareRequest env client server request uuid = .ok (rewritten,
        extractOrGenerate request.headers (isTrustedPeer env client) uuid) := by
  unfold prepareRequest
  cases hserver : applyProxyHeaders env client server request.headers with
  | error error =>
      unfold applyProxyHeaders at hserver
      split at hserver
      case h_1 => cases hserver
      case h_2 =>
        left
        rw [splitHostPort_error hserver]
        rfl
  | ok rewritten => exact .inr ⟨rewritten, rfl⟩

theorem handled_answerPrepared {request : RequestReceived} {requestId : Bytes}
    {exchange : Exchange} {cycle : Cycle} :
    Handled (answerPrepared env request requestId exchange cycle) ↔
      PreparedContained env request requestId exchange cycle := by
  unfold answerPrepared PreparedContained
  cases env.builtin request with
  | some builtin => exact handled_serveBuiltin
  | none => exact handled_answerInline

theorem handled_answerScoped {client : String} {server : String × ℕ} {request : RequestReceived}
    {exchange : Exchange} {cycle : Cycle} :
    Handled (answerScoped env client server request exchange cycle) ↔
      ScopedContained env client request exchange cycle := by
  unfold ScopedContained
  rw [← handled_answerPrepared, ← handled_prepareRequest, answerScoped]
  obtain hraised | ⟨rewritten, hprepared⟩ :=
    prepareRequest_cases env client server request cycle.uuid
  · rw [hraised]
    change Handled (.error .other : Except PyError Ending) ↔ _
    simp [PyError.isOSError]
  · rw [hprepared]
    exact (and_iff_right (raisesOnly_ok _)).symm

theorem handled_answerRequest {client : String} {server : String × ℕ}
    {request : RequestReceived} {count : ℕ} {cycle : Cycle} :
    Handled (answerRequest env client server request count cycle) ↔
      RequestContained env client request count cycle := by
  unfold answerRequest RequestContained
  by_cases hwebsocket : (classifyRequest request).isWebsocket
  · rw [if_pos hwebsocket]
    simp [hwebsocket]
  · rw [if_neg hwebsocket, forall_prop_of_true hwebsocket]
    have hrequestId : (exchangeOf env request count cycle).requestId = none := rfl
    cases fusedResult env cycle with
    | some result => exact handled_answerFused hrequestId
    | none => exact handled_answerScoped

/-- The exceptions of a turn of the loop are handled exactly if the turn is contained. -/
theorem handled_serveCycle {session : Session capacity} {cycle : Cycle} :
    Handled (serveCycle env session cycle) ↔ CycleContained env session cycle := by
  unfold serveCycle CycleContained
  by_cases hstop : 0 < session.requestCount ∧ cycle.shuttingDown
  · rw [if_pos hstop]
    simp [hstop]
  · rw [if_neg hstop]
    simp only [hstop, not_false_eq_true, true_imp_iff]
    cases hreceived : (recvRequestFast env.config (session.receiving cycle)).1 with
    | request request body =>
        simp [raisesOnly_bind, handled_answerRequest]
    | stopped => simp
    | waiting => simp

/-- Reading a name raises `ValueError` where the second character of a path is no digit. -/
theorem handled_readName {Value : Type} (convert : Option (String × ℕ) → Value)
    {name : SockName} :
    Handled ((readName env name).map convert) ↔ name.Readable env := by
  unfold readName SockName.Readable
  split
  case h_1 => simp [Except.map, PyError.isOSError]
  case h_2 => simp [Except.map]
  case h_3 first second rest =>
    cases hdigit : env.decimalValue second with
    | none => simp [Except.map, PyError.isOSError, hdigit]
    | some value => simp [Except.map, hdigit]
  case h_4 name hshort =>
    split
    case h_1 first second rest hname => exact (hshort _ _ _ (SockName.path.inj hname)).elim
    case h_2 => simp [Except.map]
  case h_5 => simp [Except.map]
  case h_6 => simp [Except.map]

/-- Opening raises nothing if the names of both ends can be taken for a pair. -/
theorem raisesNothing_openConnection {peername sockname : SockName} :
    RaisesNothing (openConnection env peername sockname) ↔
      peername.Readable env ∧ sockname.Readable env := by
  have hread : ∀ (name : SockName) (convert : Option (String × ℕ) → String × ℕ) fallback,
      RaisesNothing (exceptOSError ((readName env name).map convert) fallback) ↔
        name.Readable env := by
    intro name convert fallback
    rw [raisesNothing_exceptOSError, handled_readName]
  unfold openConnection
  apply (raisesNothing_bind _).trans (and_congr (hread peername _ _) Iff.rfl)
  intro client
  apply (raisesNothing_bind fun _ => iff_of_true (raisesOnly_ok _) trivial).trans
  exact (and_iff_left trivial).trans (hread sockname _ _)

end Pounce.SyncWorker
