/-
# Serving a connection

A synchronous worker answers the requests of a connection one after the other. Nearly every
stage of this can raise: reading the names of the socket, the fused application, the port in a
forwarded host, the serializer, the send, the filter of the access log. The handlers around the
loop take `OSError` and nothing else, and the application of the inline path has a handler of
its own.

A `Cycle` is what the outside world contributes to one turn of the loop, and `serveCycle` what
the turn makes of it.
-/

import Pounce.Math.Raises
import Pounce.SyncWorker.Response

namespace Pounce.SyncWorker

open Pounce.Math Pounce.Math.Bytes Pounce.Asgi

/-! ## Exceptions -/

/-- The exceptions that handlers tell apart. -/
inductive PyError
  | timeout
  /-- Another `OSError`, for instance a `ConnectionError`. -/
  | osError
  /-- An `Exception` that is no `OSError`. -/
  | other
  deriving DecidableEq, Repr

/-- A `TimeoutError` is an `OSError`, too. -/
def PyError.isOSError : PyError → Bool
  | .timeout => true
  | .osError => true
  | .other => false

/-- The exceptions of a computation are all of kinds that are handled. -/
abbrev Handled {Value : Type} (computation : Except PyError Value) : Prop :=
  RaisesOnly (fun error => error.isOSError) computation

/-- A computation with a handler for `OSError`. -/
def exceptOSError {Value : Type} (computation : Except PyError Value) (fallback : Value) :
    Except PyError Value :=
  match computation with
  | .ok value => .ok value
  | .error error => if error.isOSError then .ok fallback else .error error

/-- With its handler, a computation raises nothing if all it raises is handled. -/
theorem raisesNothing_exceptOSError {Value : Type} {computation : Except PyError Value}
    {fallback : Value} :
    RaisesNothing (exceptOSError computation fallback) ↔ Handled computation := by
  cases computation with
  | ok value => simp [exceptOSError]
  | error error => cases error <;> simp [exceptOSError, PyError.isOSError]

/-! ## The application and the socket -/

/-- What the name of a socket is: nothing but an `OSError`, a host and a port, or for a Unix
socket its path, or the bytes of an abstract name. -/
inductive SockName
  | unavailable
  | inet (host : String) (port : ℕ)
  | path (name : List Char)
  | abstract (name : Bytes)
  deriving DecidableEq, Repr

/-- What calling `handle_sync` comes to, unless it declines: the result may also be a value
that is no response, and using it raises. -/
inductive FusedResult
  | raised (error : PyError)
  | unusable (error : PyError)
  | response (response : RawResponse)
  deriving DecidableEq, Repr

/-- What a send comes to. -/
inductive SendOutcome
  | done
  | timeout
  | failed
  deriving DecidableEq, Repr

/-- A send, as a computation. -/
def SendOutcome.run : SendOutcome → Except PyError Unit
  | .done => .ok ()
  | .timeout => .error .timeout
  | .failed => .error .osError

/-- No CR or LF in a header value. -/
def cleanValue (value : Bytes) : Bool := !(13 ∈ value || 10 ∈ value)

/-- A generated request identifier. -/
structure Uuid where
  hex : Bytes
  clean : cleanValue hex

/-- What the outside world contributes to one turn of the loop of a connection. -/
structure Cycle where
  /-- The shared shutdown event is set. -/
  shuttingDown : Bool := false
  /-- The drain event of the worker is set. -/
  draining : Bool := false
  /-- The further results of the receives of the socket. -/
  recvs : List RecvResult := []
  /-- `none` where the fused application declines. -/
  fused : Option FusedResult := none
  /-- The messages of the application on the inline path. -/
  messages : List SendMessage := []
  /-- It raised something of its own. -/
  raised : Bool := false
  send : SendOutcome := .done
  /-- The `sendall` that is tried when the send has failed. -/
  resend : SendOutcome := .done
  /-- What the filter of the access log raises. -/
  logFilter : Option PyError := none
  uuid : Uuid

/-- The header values a worker looks at. -/
structure RequestMeta where
  wantsClose : Bool := false
  isWebsocket : Bool := false
  acceptEncoding : Option Bytes := none
  availableDictionary : Option Bytes := none
  deriving DecidableEq, Repr

/-- The responses of the built-in endpoints. -/
inductive Builtin
  | health (draining : Bool) (payload : Bytes)
  | introspection (body : Bytes)
  | dictionary (content : Bytes)
  | dictionaryMissing
  deriving DecidableEq, Repr

/-- What a worker is started with. -/
structure Env where
  config : ServerConfig := {}
  /-- The connections are wrapped in TLS. -/
  tls : Bool := false
  syncApp : Bool := false
  asyncPool : Bool := false
  /-- The values of the decimal digits of all scripts. -/
  decimalValue : Char → Option ℕ
  /-- The encoder negotiated for a request. -/
  negotiate : RequestMeta → Bytes → Option Compressor × Option CompressionDictionary
  /-- The built-in endpoint a request is for. -/
  builtin : RequestReceived → Option Builtin
  dateHeader : Option Bytes := none

/-! ## Opening -/

variable (env : Env)

/-- Take a name for a pair, if it is long enough. -/
def readName : SockName → Except PyError (Option (String × ℕ))
  | .unavailable => .error .osError
  | .inet host port => .ok (some (host, port))
  | .path (first :: second :: _) =>
      -- `int` of the second character of the path
      match env.decimalValue second with
      | some value => .ok (some (first.toString, value))
      | none => .error .other
  | .path _ => .ok none
  | .abstract (first :: second :: _) => .ok (some (toString first.toNat, second.toNat))
  | .abstract _ => .ok none

/-- Resolve the addresses of client and server. -/
def openConnection (peername sockname : SockName) :
    Except PyError ((String × ℕ) × (String × ℕ)) := do
  let client ← exceptOSError ((readName env peername).map (·.getD ("unix", 0))) ("unknown", 0)
  let bound := (env.config.host, env.config.port)
  let server ← exceptOSError ((readName env sockname).map (·.getD bound)) bound
  .ok (client, (env.config.uds.map fun path => (path, 0)).getD server)

/-- A name that can be taken for a pair, or is too short. -/
def SockName.Readable : SockName → Prop
  | .path (_ :: second :: _) => (env.decimalValue second).isSome
  | _ => True

/-! ## Classifying -/

/-- What the scan of the request headers has found. -/
structure RequestScan where
  requestMeta : RequestMeta := {}
  upgradeConn : Bool := false
  wsUpgrade : Bool := false
  hasConnectionHeader : Bool := false
  deriving DecidableEq, Repr

/-- One turn of the scan. The names have been lowered by the parser. -/
def scanHeader (scan : RequestScan) (header : Header) : RequestScan :=
  if header.1 = ascii "connection" then
    { scan with
      hasConnectionHeader := true
      requestMeta := { scan.requestMeta with
        wantsClose := scan.requestMeta.wantsClose || contains (ascii "close") (lower header.2) }
      upgradeConn := scan.upgradeConn || contains (ascii "upgrade") (lower header.2) }
  else if header.1 = ascii "upgrade" ∧ lower header.2 = ascii "websocket" then
    { scan with wsUpgrade := true }
  else if header.1 = ascii "accept-encoding" then
    { scan with requestMeta := { scan.requestMeta with acceptEncoding := some header.2 } }
  else if header.1 = ascii "available-dictionary" then
    { scan with requestMeta := { scan.requestMeta with availableDictionary := some header.2 } }
  else scan

/-- Extract what the worker needs in one pass. -/
def classifyRequest (request : RequestReceived) : RequestMeta :=
  let scan := request.headers.foldl scanHeader {}
  { scan.requestMeta with
    isWebsocket := scan.upgradeConn && scan.wsUpgrade
    wantsClose := scan.requestMeta.wantsClose ||
      (!scan.hasConnectionHeader && request.httpVersion = .http10) }

/-! ## Proxy headers -/

/-- `str.isdigit` of Latin-1 text: the superscripts count, too. -/
def isDigitText (text : Bytes) : Bool :=
  text ≠ [] && text.all fun byte => isDigit byte || byte ∈ [178, 179, 185]

/-- A host and the text of its port, if there is one. -/
def splitHost (host : Bytes) : Bytes × Option Bytes :=
  match host.head?, findSlice (ascii "]") host with
  | some 91, some close =>
      let remainder := host.drop (close + 1)
      ((host.take close).drop 1,
        if remainder.head? = some 58 ∧ isDigitText (remainder.drop 1) then some (remainder.drop 1)
        else none)
  | _, _ =>
      match findSlice (ascii ":") host with
      | none => (host, none)
      | some colon =>
          if host.count 58 = 1 ∧ colon ≠ 0 ∧ isDigitText (host.drop (colon + 1)) then
            (host.take colon, some (host.drop (colon + 1)))
          else (host, none)

/-- Split a host from its port. -/
def splitHostPort (host : Bytes) (defaultPort : ℕ) : Except PyError (Bytes × ℕ) :=
  match splitHost host with
  | (name, none) => .ok (name, defaultPort)
  | (name, some port) =>
      match readInt port with
      | some value => .ok (name, value.toNat)
      | none => .error .other

/-- The forwarded host of a request: the last one counts. -/
def forwardedHost (headers : List Header) : Option Bytes :=
  let values := headers.filterMap fun header =>
    if lower header.1 = ascii "x-forwarded-host" then some (stripCrlf (strip header.2)) else none
  values.getLast?.filter (· ≠ [])

/-- The direct peer is believed. -/
def isTrustedPeer (client : String) : Bool :=
  "*" ∈ env.config.trustedHosts || client ∈ env.config.trustedHosts

/-- Rewrite the server of the scope, for a trusted peer. -/
def applyProxyHeaders (client : String) (server : String × ℕ) (headers : List Header) :
    Except PyError (Bytes × ℕ) :=
  match if isTrustedPeer env client then forwardedHost headers else none with
  | none => .ok (utf8 server.1, server.2)
  | some host => splitHostPort host server.2

/-- White space that `str.strip` removes from Latin-1 text. -/
def isTextSpace (byte : UInt8) : Bool :=
  isSpace byte || (28 ≤ byte && byte ≤ 31) || byte = 133 || byte = 160

/-- The identifier a trusted peer sends, or a new one. -/
def extractOrGenerate (headers : List Header) (trusted : Bool) (uuid : Uuid) : Bytes :=
  let incoming := headers.filterMap fun header =>
    if lower header.1 = ascii "x-request-id" then
      some (stripCrlf (stripWhile isTextSpace header.2))
    else none
  if trusted then (incoming.find? (· ≠ [])).getD uuid.hex else uuid.hex

/-- Build the scope of a request: here its server, and the request identifier. -/
def prepareRequest (client : String) (server : String × ℕ) (request : RequestReceived)
    (uuid : Uuid) : Except PyError ((Bytes × ℕ) × Bytes) := do
  let server ← applyProxyHeaders env client server request.headers
  .ok (server, extractOrGenerate request.headers (isTrustedPeer env client) uuid)

/-! ## Answering -/

variable {capacity : ℕ}

/-- Send a serialized response. A failed `sendmsg` is tried again as a `sendall`. -/
def sendParts (cycle : Cycle) : Except PyError Unit :=
  -- a TLS socket has the method, which raises `NotImplementedError`
  match if env.tls then .error .other else cycle.send.run with
  | .error .osError => cycle.resend.run
  | result => result

/-- Log a request, unless the filter of the access log raises. -/
def logRequest (cycle : Cycle) : Except PyError Unit :=
  match cycle.logFilter with
  | none => .ok ()
  | some error => .error error

/-- How a turn of the loop ends. -/
inductive Ending
  | again
  | stop
  | handedOff
  deriving DecidableEq, Repr

/-- Send a response that has been serialized, and log it. `none` is the
`HeaderInjectionError` of the serializer, which is a `ValueError`. -/
def serializeSendAndLog (cycle : Cycle) (ending : Ending) :
    Option Written → Except PyError Ending
  | none => .error .other
  | some _ => do
      sendParts env cycle
      logRequest cycle
      .ok ending

/-- The status, headers and body of a built-in response. -/
def Builtin.response : Builtin → ℕ × List Header × Bytes
  | .health draining payload =>
      (if draining then 503 else 200,
        [(ascii "content-type", ascii "application/json"), contentLengthHeader payload,
          (ascii "cache-control", ascii "no-cache, no-store")],
        payload)
  | .introspection body =>
      (200,
        [(ascii "content-type", ascii "application/json"), contentLengthHeader body,
          (ascii "cache-control", ascii "no-cache, no-store")],
        body)
  | .dictionary content =>
      (200,
        [(ascii "content-type", ascii "application/dictionary"), contentLengthHeader content,
          (ascii "cache-control", ascii "public, max-age=604800, immutable")],
        content)
  | .dictionaryMissing =>
      (404, [(ascii "content-type", ascii "text/plain"), (ascii "content-length", ascii "9")],
        ascii "Not Found")

/-- Only the health endpoint logs. -/
def Builtin.logs : Builtin → Bool
  | .health .. => true
  | _ => false

/-- Serve a built-in response. It goes out with `sendall`. -/
def serveBuiltin (exchange : Exchange) (cycle : Cycle) (ending : Ending) (builtin : Builtin) :
    Except PyError Ending :=
  let response := builtin.response
  let connection :=
    if exchange.closeAfter || exchange.atLimit then ascii "close" else ascii "keep-alive"
  let body := if exchange.method = ascii "HEAD" then [] else response.2.2
  match ResponseFrame.serializeRawResponseParts response.1
      (response.2.1 ++ [(ascii "connection", connection)]) body env.config.serverHeader
      exchange.dateHeader with
  | none => .error .other
  | some _ => do
      cycle.send.run
      if builtin.logs then logRequest cycle
      .ok ending

/-- Answer with what the fused application returned. -/
def answerFused (exchange : Exchange) (cycle : Cycle) : FusedResult → Except PyError Ending
  | .raised error => .error error
  | .unusable error => .error error
  | .response response =>
      serializeSendAndLog env cycle .stop (serveFused env.config exchange response)

/-- Answer with what the application sends on the inline path. What it raises, and a
streaming response without a pool, are answered with an error. -/
def answerInline (exchange : Exchange) (cycle : Cycle) (ending : Ending) :
    Except PyError Ending :=
  let response := callAsgiSync exchange.method cycle.messages
  if cycle.raised then .ok .stop
  else if response.needsAsync then .ok (if env.asyncPool then .handedOff else .stop)
  else serializeSendAndLog env cycle ending (serveInline env.config exchange response)

/-- The fused result a request is answered with, if there is one. -/
def fusedResult (cycle : Cycle) : Option FusedResult := if env.syncApp then cycle.fused else none

/-- The exchange of a request, after `count` others on the connection. -/
def exchangeOf (request : RequestReceived) (count : ℕ) (cycle : Cycle) : Exchange :=
  let requestMeta := classifyRequest request
  let limit := env.config.maxRequestsPerConnection
  let negotiated := env.negotiate requestMeta request.target
  { method := request.method
    target := request.target
    closeAfter := requestMeta.wantsClose || cycle.draining
    atLimit := 0 < limit && limit ≤ count + 1
    compressor := negotiated.1
    dictionary := negotiated.2
    requestId := none
    dateHeader := env.dateHeader
    asyncPool := env.asyncPool }

/-- Answer a prepared request: at a built-in endpoint or by the application. -/
def answerPrepared (request : RequestReceived) (requestId : Bytes) (exchange : Exchange)
    (cycle : Cycle) : Except PyError Ending :=
  let ending := if exchange.closeAfter || exchange.atLimit then Ending.stop else .again
  match env.builtin request with
  | some builtin => serveBuiltin env exchange cycle ending builtin
  | none => answerInline env { exchange with requestId := some requestId } cycle ending

/-- Answer a request through the scope. -/
def answerScoped (client : String) (server : String × ℕ) (request : RequestReceived)
    (exchange : Exchange) (cycle : Cycle) : Except PyError Ending := do
  let prepared ← prepareRequest env client server request cycle.uuid
  answerPrepared env request prepared.2 exchange cycle

/-- Answer a request. -/
def answerRequest (client : String) (server : String × ℕ) (request : RequestReceived)
    (count : ℕ) (cycle : Cycle) : Except PyError Ending :=
  if (classifyRequest request).isWebsocket then
    -- without a pool there is an error response, and failing to send it is no error
    .ok (if env.asyncPool then .handedOff else .stop)
  else
    let exchange := exchangeOf env request count cycle
    match fusedResult env cycle with
    | some result => answerFused env exchange cycle result
    | none => answerScoped env client server request exchange cycle

/-- A connection that is being served. -/
structure Session (capacity : ℕ) where
  conn : Conn capacity
  client : String × ℕ
  server : String × ℕ
  requestCount : ℕ := 0

/-- The connection with the receives of a turn. -/
def Session.receiving (session : Session capacity) (cycle : Cycle) : Conn capacity :=
  { session.conn with
    socket := { session.conn.socket with recvs := session.conn.socket.recvs ++ cycle.recvs } }

/-- A turn of the loop. Where the results of the receives end, the receive times out. -/
def serveCycle (session : Session capacity) (cycle : Cycle) :
    Except PyError (Ending × Session capacity) :=
  if 0 < session.requestCount ∧ cycle.shuttingDown then .ok (.stop, session)
  else
    let received := recvRequestFast env.config (session.receiving cycle)
    match received.1 with
    | .request request _ => do
        let ending ← answerRequest env session.client.1 session.server request
          session.requestCount cycle
        .ok (ending, { session with
          conn := received.2, requestCount := session.requestCount + 1 })
    | _ => .ok (.stop, { session with conn := received.2 })

end Pounce.SyncWorker
