/-
# Streaming handoffs

A request whose response is streamed is handed from the synchronous worker to the pool,
which runs the application again: with an HTTP/1.1 protocol object that has never received
the request, with the plain encoding negotiation, without the dictionaries, the timing
header and the file extension, and with error handling of its own.

The asynchronous worker answers the same request on the connection that received it. Here
are both, as the bytes they write for a request and an application, and what a client
decodes from such bytes.
-/

import Pounce.Asgi.Transmission
import Pounce.Protocols.H11Sending
import Pounce.SyncWorker.Response
import Pounce.Worker

namespace Pounce.AsyncPool

open Pounce.Math Pounce.Math.Bytes Pounce.Math.Message Pounce.Asgi

universe u

/-! ## A request and its application -/

/-- A request, what is negotiated for it, and the application that answers it. -/
structure Stream where
  request : RequestReceived
  requestId : Option Bytes := none
  compressionMinSize : ℕ := 500
  /-- The encoder `negotiate_encoding` selects. -/
  encoder : Option Compressor := none
  /-- The encoder of a dictionary the client has, and the hash of the dictionary. -/
  dictionary : Option (Compressor × Bytes) := none
  dictionaries : List CompressionDictionary := []
  serverTiming : Option Bytes := none
  /-- The `Alt-Svc` values; a handoff takes the port from the scope. -/
  altSvc : Option Bytes := none
  handoffAltSvc : Option Bytes := none
  /-- The worker's transport can send files. -/
  canSendfile : Bool := false
  /-- The text of the page `format_exception_html` renders. -/
  debugPage : String := ""
  /-- The listener speaks TLS. -/
  tls : Bool := false
  /-- What the application sends. -/
  messages : List SendMessage
  /-- The application ends with an error of its own. -/
  raises : Bool := false

namespace Stream

variable (stream : Stream)

/-- The synchronous worker hands the connection over. -/
def handedOff : Bool :=
  (SyncWorker.callAsgiSync stream.request.method stream.messages).needsAsync

/-- What the asynchronous worker sends with. -/
def workerEnv : SendEnv where
  requestMethod := stream.request.method
  compressor := (stream.dictionary.map (·.1)).or stream.encoder
  dictionaryHash := stream.dictionary.map (·.2)
  compressionMinSize := stream.compressionMinSize
  requestId := stream.requestId
  altSvc := stream.altSvc
  serverTiming := stream.serverTiming
  requestTarget := stream.request.target
  dictionaries := stream.dictionaries

/-- What a handoff sends with. -/
def handoffEnv : SendEnv where
  requestMethod := stream.request.method
  compressor := stream.encoder
  compressionMinSize := stream.compressionMinSize
  requestId := stream.requestId
  altSvc := stream.handoffAltSvc

/-- The bridge without the file extension. -/
def plainH1 : Bridge := { h1 with sendfile := none }

/-- The bridge of the asynchronous worker. -/
def workerBridge : Bridge := if stream.canSendfile then h1 else plainH1

end Stream

/-! ## The asynchronous worker -/

section

variable {Conn : Type u} (env : Worker.Env Conn) (stream : Stream)

/-- Write a whole response. Its head is written before its body is serialized. -/
def writeResponse (transmission : Transmission Conn) (status : ℕ) (headers : List Header)
    (body : Bytes) : Transmission Conn :=
  match H1Protocol.sendResponse env.h11 transmission.conn status headers with
  | (none, conn) => { transmission with conn, raised := true }
  | (some head, conn) =>
      match H1Protocol.sendBody env.h11 conn body false with
      | (none, conn) =>
          { transmission with conn, written := transmission.written ++ head, raised := true }
      | (some raw, conn) =>
          { transmission with
            conn
            written := transmission.written ++ head ++ raw
            raised := false }

/-- The fields of an error response. -/
def errorHeaders (body : Bytes) (code : String) : List Header :=
  [(ascii "content-type", ascii "text/plain; charset=utf-8"),
    (ascii "content-length", ofNat body.length),
    (ascii "connection", ascii "close"),
    (ascii "x-pounce-error-code", ascii code)]

/-- Write an error response, as far as h11 allows. -/
def writeError (transmission : Transmission Conn) (message code : String) (hint : String) :
    Transmission Conn :=
  let body := Worker.errorBody env message code (some hint)
  writeResponse env transmission 500 (errorHeaders body code) body

/-- The fields of `create_debug_error_response`: the length counts characters. -/
def debugHeaders (page : String) : List Header :=
  [(ascii "content-type", ascii "text/html; charset=utf-8"),
    (ascii "content-length", ofNat page.length)]

/-- Answer an error the application has raised. -/
def answerError (transmission : Transmission Conn) : Transmission Conn :=
  if env.config.debug then
    let shown := writeResponse env transmission 500 (debugHeaders stream.debugPage)
      (utf8 stream.debugPage)
    if shown.raised then
      writeError env shown "Internal Server Error" "POUNCE_APP_DEBUG_PAGE_FAILED"
        "Debug error page rendering failed; see worker logs."
    else shown
  else
    writeError env transmission "Internal Server Error" "POUNCE_APP_E"
      "Check worker logs for the application traceback."

/-- What the worker does when the application is done. -/
def finishRequest (transmission : Transmission Conn) : Transmission Conn :=
  let transmission :=
    if transmission.raised || stream.raises then answerError env stream transmission
    else transmission
  if transmission.state.responseStarted then transmission
  else
    writeError env transmission "Internal Server Error" "POUNCE_APP_NO_RESPONSE"
      "The ASGI app returned without sending http.response.start."

/-- What the asynchronous worker writes on a connection that has received the request. -/
def workerBytes (conn : Conn) : Bytes :=
  (finishRequest env stream
    (Transmission.run env.h11 stream.workerBridge stream.workerEnv conn stream.messages)).written

/-! ## The handoff -/

/-- The fields of the handoff's error response. -/
def plainHeaders : List Header := [(ascii "content-type", ascii "text/plain")]

/-- The text of an error response. -/
def errorText : Bytes := ascii "Internal Server Error"

/-- What the pool does when the application is done: an error before the response is
answered with a response of its own, written at once. -/
def finishHandoff (transmission : Transmission Conn) : Bytes :=
  if (transmission.raised || stream.raises) && !transmission.state.responseStarted then
    match H1Protocol.sendResponse env.h11 transmission.conn 500 plainHeaders with
    | (none, _) => transmission.written
    | (some head, conn) =>
        match (H1Protocol.sendBody env.h11 conn errorText false).1 with
        | none => transmission.written
        | some raw => transmission.written ++ (head ++ raw)
  else transmission.written

/-- What `_handle_streaming_handoff` writes. A TLS socket is not accepted by
`connect_accepted_socket`, and the connection is closed. -/
def handoffBytes : Bytes :=
  if stream.tls then []
  else
    finishHandoff env stream
      (Transmission.run env.h11 Stream.plainH1 stream.handoffEnv env.h11.new stream.messages)

end

/-! ## What the client decodes -/

/-- The names of the fields with which the application starts its response. -/
def startNames : List SendMessage → List Bytes
  | .responseStart _ headers :: messages =>
      ((sanitizeHeaders headers).map fun header => lower header.1) ++ startNames messages
  | _ => []

namespace Stream

variable (stream : Stream)

/-- The names of the fields the servers add to a response, and of those that are about the
connection it travels on. -/
def serverNames : List Bytes :=
  [ascii "transfer-encoding", ascii "connection"] ++
    (if stream.workerEnv.compressor.isSome ∨ stream.handoffEnv.compressor.isSome then
      [ascii "content-encoding", ascii "used-dictionary"] else []) ++
    (if stream.dictionaries = [] then [] else [ascii "use-as-dictionary", ascii "link"]) ++
    (if stream.serverTiming.isSome then [ascii "server-timing"] else []) ++
    if stream.altSvc.isSome ∨ stream.handoffAltSvc.isSome then [ascii "alt-svc"] else []

/-- The field is one of the application's. -/
def isApp (header : Header) : Bool :=
  lower header.1 ∈ startNames stream.messages ∧ lower header.1 ∉ stream.serverNames

/-- A field of the application, but for the length. -/
def keeps (header : Header) : Bool :=
  stream.isApp header && lower header.1 ≠ ascii "content-length"

end Stream

/-- What a client makes of a final response. -/
structure Decoded where
  status : ℕ
  /-- The application's fields, but for the length. -/
  headers : List Header
  /-- The length, where the application declares one. -/
  lengths : List Bytes
  /-- The body without its content coding, if that can be undone. -/
  body : Option Bytes
  complete : Bool
  deriving DecidableEq, Repr

/-- Interim responses and the final one. -/
structure Received where
  interims : List (ℕ × List Header)
  final : Option Decoded
  deriving DecidableEq, Repr

/-- What a client decodes from the bytes it has received; `contentDecode` undoes content
codings. -/
def decode (contentDecode : List Bytes → Bytes → Option Bytes) (stream : Stream)
    (bytes : Bytes) : Received :=
  let reading := readResponse stream.request.method bytes
  { interims := reading.interims
    final := reading.final.map fun final =>
      { status := final.status
        headers := final.fields.filter stream.keeps
        lengths :=
          if ascii "content-length" ∈ startNames stream.messages then
            valuesOf (ascii "content-length") final.fields
          else []
        body := contentDecode (valuesOf (ascii "content-encoding") final.fields) final.body
        complete := final.complete } }

/-! ## Encoders -/

/-- All an encoder has returned. -/
def transcript (compressor : Compressor) (ops : List CompressOp) : Bytes :=
  (List.range ops.length).flatMap fun index => compressor.output (ops.take (index + 1))

/-- All an encoder has been given. -/
def inputs (ops : List CompressOp) : Bytes :=
  ops.flatMap fun op =>
    match op with
    | .compress data => data
    | .syncFlush => []
    | .flush => []

/-- Nothing is left inside the encoder. -/
def Flushed (ops : List CompressOp) : Prop :=
  ops = [] ∨ ops.getLast? = some .syncFlush ∨ ops.getLast? = some .flush

/-- What has been flushed out of an encoder decodes to what was put in. -/
def Undoes (contentDecode : List Bytes → Bytes → Option Bytes) (compressor : Compressor) : Prop :=
  ∀ ops, Flushed ops →
    contentDecode [compressor.encoding] (transcript compressor ops) = some (inputs ops)

end Pounce.AsyncPool
