/-
# Scopes

The scope an application is called with names the request, the two ends of the connection
and the headers. The builders for HTTP/1.1, HTTP/2 and WebSocket share `build_base_scope`;
the one for HTTP/3 reads the pseudo-headers itself. All of them end with
`apply_proxy_headers`, which rewrites client, scheme, server and Host from the forwarding
headers of a trusted peer and removes those of any other.

The decoded path is `Scope.path`, the same function of the raw path everywhere.
-/

import Pounce.Math.Message
import Pounce.Protocols.H2
import Pounce.SyncWorker.Connection

namespace Pounce.Asgi

open Pounce.Math Pounce.Math.Bytes
open Pounce.Math.Message (hexValue)
open Pounce.SyncWorker (PyError splitHostPort)
open Pounce.H2 (HeaderScan isPseudo effectiveAuthority contradicts)

/-! ## Text -/

/-- `bytes.decode("latin-1")`. -/
def latin1 (bytes : Bytes) : String := String.ofList (bytes.map fun byte => Char.ofNat byte.toNat)

/-- `bytes.decode("ascii")`, which raises on any other byte. -/
def decodeAscii (bytes : Bytes) : Except PyError String :=
  if bytes.all (· < 128) then .ok (latin1 bytes) else .error .other

/-- `bytes.decode("ascii", errors="replace")`. -/
def replaceAscii (bytes : Bytes) : String :=
  String.ofList (bytes.map fun byte =>
    if byte < 128 then Char.ofNat byte.toNat else Char.ofNat 0xFFFD)

/-- The parts before and after the first question mark. -/
def splitTarget (target : Bytes) : Bytes × Bytes :=
  match findSlice (ascii "?") target with
  | none => (target, [])
  | some index => (target.take index, target.drop (index + 1))

/-- `unquote`, on the bytes of the text: an escape stands for the byte it names. -/
def unquote : Bytes → Bytes
  | [] => []
  | [byte] => [byte]
  | [first, second] => [first, second]
  | byte :: high :: low :: rest =>
      if byte = 37 then
        match hexValue high, hexValue low with
        | some upper, some lower => UInt8.ofNat (16 * upper + lower) :: unquote rest
        | _, _ => byte :: unquote (high :: low :: rest)
      else byte :: unquote (high :: low :: rest)

/-- The decoded path of a raw path, in UTF-8. What the escapes spell is taken as it is. -/
def decodePath (rawPath : Bytes) : Bytes := unquote (utf8 (replaceAscii rawPath))

/-! ## Scopes -/

/-- A scope, as far as the builders differ in it or rewrite it. -/
structure Scope where
  httpVersion : HttpVersion
  method : String
  rawPath : Bytes
  queryString : Bytes
  rootPath : String
  scheme : String
  server : String × ℕ
  client : String × ℕ
  headers : List Header
  deriving DecidableEq, Repr

/-- The decoded path of a scope. -/
def Scope.path (scope : Scope) : Bytes := decodePath scope.rawPath

/-- `build_base_scope`. -/
def buildBaseScope (request : RequestReceived) (httpVersion : HttpVersion) (scheme : String)
    (server client : String × ℕ) (rootPath : String) : Except PyError Scope := do
  let (rawPath, queryString) := splitTarget request.target
  let method ← decodeAscii request.method
  .ok {
    httpVersion, method, rawPath, queryString, rootPath, scheme, server, client
    headers := request.headers.map fun header => (lower header.1, header.2) }

/-! ## Forwarding headers -/

/-- The header is one of the forwarding family. -/
def isForwarded (name : Bytes) : Bool := (ascii "x-forwarded-").isPrefixOf name

/-- `_strip_forwarded_headers`. -/
def stripForwardedHeaders (headers : List Header) : List Header :=
  headers.filter fun header => !isForwarded header.1

/-- The value a pass over the headers is left with: the last one of the name. -/
def lastValue (name : Bytes) (headers : List Header) : Option Bytes :=
  headers.foldl (fun found header => if header.1 = name then some header.2 else found) none

/-- `_replace_header`, once the header has been replaced. -/
def dropHeader (name : Bytes) (headers : List Header) : List Header :=
  headers.filter fun header => header.1 ≠ name

/-- `_replace_header`: the first header of the name gets the value, further ones go. -/
def replaceHeader (name value : Bytes) : List Header → List Header
  | [] => [(name, value)]
  | header :: headers =>
      if header.1 = name then (name, value) :: dropHeader name headers
      else header :: replaceHeader name value headers

/-- `_select_forwarded_for`. -/
def selectForwardedFor (forwardedFor : Bytes) (trustedHops : ℕ) : Bytes :=
  let parts := ((forwardedFor.splitOn 44).map fun part => stripCrlf (strip part)).filter (· ≠ [])
  let hops := max 1 trustedHops
  if parts.length ≤ hops then parts.headD [] else parts.getD (parts.length - hops) []

/-- The peer is one of the trusted hosts. -/
def trusts (trustedHosts : List String) (client : String) : Bool :=
  trustedHosts ≠ [] && ("*" ∈ trustedHosts || client ∈ trustedHosts)

/-- The forwarded host of a request, if there is one that is not blank. -/
def forwardedHost (headers : List Header) : Option Bytes :=
  ((lastValue (ascii "x-forwarded-host") headers).map fun host => stripCrlf (strip host)).filter
    (· ≠ [])

/-- The client of a request that came through proxies. -/
def forwardedClient (headers : List Header) (trustedHops : ℕ) (client : String × ℕ) :
    String × ℕ :=
  match lastValue (ascii "x-forwarded-for") headers with
  | none => client
  | some forwardedFor =>
      let realIp := selectForwardedFor forwardedFor trustedHops
      if realIp ≠ [] then (latin1 realIp, client.2) else client

/-- The scheme of a request that came through proxies. -/
def forwardedScheme (headers : List Header) (scheme : String) : String :=
  match lastValue (ascii "x-forwarded-proto") headers with
  | none => scheme
  | some forwardedProto =>
      let proto := lower (strip forwardedProto)
      if proto ∈ [ascii "http", ascii "https", ascii "ws", ascii "wss"] then latin1 proto
      else scheme

/-- `apply_proxy_headers`. -/
def applyProxyHeaders (config : ServerConfig) (scope : Scope) : Except PyError Scope :=
  if trusts config.trustedHosts scope.client.1 then
    let rewritten :=
      { scope with
        client := forwardedClient scope.headers config.forwardedForTrustedHops scope.client
        scheme := forwardedScheme scope.headers scope.scheme }
    match forwardedHost scope.headers with
    | none => .ok rewritten
    | some host => do
        let (name, port) ← splitHostPort host scope.server.2
        .ok { rewritten with
          server := (latin1 name, port)
          headers := replaceHeader (ascii "host") host scope.headers }
  else .ok { scope with headers := stripForwardedHeaders scope.headers }

/-! ## Builders -/

/-- The server terminates TLS itself. -/
def isTls (config : ServerConfig) : Bool := config.sslCertfile.any (· ≠ "")

/-- `build_scope`. -/
def buildScope (config : ServerConfig) (client server : String × ℕ)
    (request : RequestReceived) : Except PyError Scope := do
  let scheme := if isTls config then "https" else "http"
  let scope ← buildBaseScope request request.httpVersion scheme server client config.rootPath
  applyProxyHeaders config scope

/-- `build_h2_scope`. -/
def buildH2Scope (config : ServerConfig) (client server : String × ℕ)
    (request : RequestReceived) : Except PyError Scope := do
  let scheme := if isTls config then "https" else "http"
  let scope ← buildBaseScope request .http2 scheme server client config.rootPath
  applyProxyHeaders config scope

/-- `build_ws_scope`; a WebSocket scope then loses its method. -/
def buildWsScope (config : ServerConfig) (client server : String × ℕ)
    (request : RequestReceived) : Except PyError Scope := do
  let scheme := if isTls config then "wss" else "ws"
  let scope ← buildBaseScope request request.httpVersion scheme server client config.rootPath
  applyProxyHeaders config scope

/-- What building a scope for HTTP/3 raises: for the first kind the handler answers with 400. -/
inductive H3Error where
  | pseudoHeader (message : String)
  | raised (error : PyError)
  deriving DecidableEq, Repr

/-- The pseudo-headers HTTP/3 requests may have. -/
def h3PseudoHeaders : List Bytes :=
  [ascii ":method", ascii ":path", ascii ":scheme", ascii ":authority"]

/-- One turn of the pass over an HTTP/3 header list. It goes by the names in lower case and
takes note of what the one for HTTP/2 does; method and scheme are decoded in the end. -/
def scanH3Header (scan : HeaderScan) (header : Header) : Except H3Error HeaderScan :=
  let name := lower header.1
  if isPseudo name ∧ name ∈ scan.seenPseudoHeaders then
    .error (.pseudoHeader "duplicate HTTP/3 pseudo-header")
  else if isPseudo name ∧ name ∉ h3PseudoHeaders then
    .error (.pseudoHeader "unknown HTTP/3 pseudo-header")
  else .ok (scan.record (name, header.2))

/-- The scope an HTTP/3 header list stands for, before the forwarding headers are applied. -/
def readH3Scope (config : ServerConfig) (client server : String × ℕ) (headers : List Header) :
    Except H3Error Scope := do
  let scan ← headers.foldlM scanH3Header {}
  if contradicts scan.authority scan.host then
    .error (.pseudoHeader "HTTP/3 host does not match :authority")
  else
    match scan.method, scan.target, scan.scheme, effectiveAuthority scan.authority scan.host with
    | some method, some target, some scheme, some authority =>
        let (rawPath, queryString) := splitTarget target
        .ok {
          httpVersion := .http3
          method := replaceAscii method
          rawPath, queryString
          rootPath := config.rootPath
          scheme := replaceAscii scheme
          server, client
          headers :=
            if scan.host.isNone then (ascii "host", authority) :: scan.headers
            else scan.headers }
    | _, _, _, _ => .error (.pseudoHeader "missing required HTTP/3 pseudo-header")

/-- `build_h3_scope`. -/
def buildH3Scope (config : ServerConfig) (client server : String × ℕ) (headers : List Header) :
    Except H3Error Scope := do
  let scope ← readH3Scope config client server headers
  (applyProxyHeaders config scope).mapError .raised

end Pounce.Asgi
