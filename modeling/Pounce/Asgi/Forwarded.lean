/-
# Forwarding headers of untrusted peers

Forwarding headers are for proxies to set. Those of a peer that is not trusted must not reach
the application, neither as headers nor through the addresses and the scheme. Requests enter an
application by several doors (`Entry`), and `Entry.input` is what each of them hands to it.

All doors but one build a scope, and `apply_proxy_headers` removes the forwarding headers in the
end: what such a door hands on is a function of the request without them (`input_plain`). The
synchronous worker offers the request to a `SyncApp` first, before there is a scope. That door
hands on what the parser has found, so there it depends on the request.
-/

import Pounce.Asgi.Requests
import Pounce.Priority

namespace Pounce.Asgi

open Pounce.Math Pounce.Math.Bytes
open Pounce.SyncWorker (PyError splitHostPort)
open Pounce.H2 (readRequest isPseudo)

/-! ## Doors -/

/-- The ways a request reaches an application. -/
inductive Entry
  | syncApp
  | inlineAsgi
  | asyncH1
  | h2
  | h3
  | webSocket
  | webSocketOverH2
  deriving DecidableEq, Repr

/-- `RawRequest`. -/
structure RawRequest where
  method : Bytes
  path : Bytes
  queryString : Bytes
  headers : List Header
  body : Bytes
  client : String × ℕ
  server : String × ℕ
  httpVersion : HttpVersion
  deriving DecidableEq, Repr

/-- What an application is called with. A WebSocket scope has no method, but subprotocols. -/
inductive AppInput
  | raw (request : RawRequest)
  | http (scope : Scope) (body : Bytes)
  | webSocket (scope : Scope) (subprotocols : List Bytes)
  deriving DecidableEq, Repr

/-- The headers an application reads. -/
def AppInput.headers : AppInput → List Header
  | .raw request => request.headers
  | .http scope _ => scope.headers
  | .webSocket scope _ => scope.headers

/-- The subprotocols a client offers. -/
def offeredSubprotocols (headers : List Header) : List Bytes :=
  match getHeader headers (ascii "sec-websocket-protocol") with
  | none => []
  | some value => (value.splitOn 44).map (stripWhile isTextSpace)

variable (config : ServerConfig) (client server : String × ℕ)

/-- What the fused path hands on. The parser has lowered the names. -/
def rawRequest (request : RequestReceived) (body : Bytes) : RawRequest where
  method := request.method
  path := (splitTarget request.target).1
  queryString := (splitTarget request.target).2
  headers := lowered request.headers
  body := body
  client := client
  server := server
  httpVersion := request.httpVersion

/-- The WebSocket input of a request. -/
def webSocketInput (request : RequestReceived) : Option AppInput :=
  (buildWsScope config client server request).toOption.map fun scope =>
    .webSocket { scope with method := "" } (offeredSubprotocols request.headers)

/-- What a door hands to the application, if it comes to that. -/
def Entry.input (request : LogicalRequest) (body : Bytes) : Entry → Option AppInput
  | .syncApp => some (.raw (rawRequest client server request.overH1 body))
  | .inlineAsgi | .asyncH1 =>
      (buildScope config client server request.overH1).toOption.map (.http · body)
  | .h2 =>
      (readRequest request.sent).bind fun read =>
        (buildH2Scope config client server read.1).toOption.map (.http · body)
  | .h3 => (buildH3Scope config client server request.sent).toOption.map (.http · body)
  | .webSocket => webSocketInput config client server request.overH1
  | .webSocketOverH2 =>
      (readRequest request.sent).bind fun read => webSocketInput config client server read.1

/-! ## Requests without forwarding headers -/

/-- The headers that are none of the forwarding family, whatever their case. -/
def ordinary (headers : List Header) : List Header :=
  headers.filter fun header => !isForwarded (lower header.1)

/-- The request without its forwarding headers. -/
def LogicalRequest.plain (request : LogicalRequest) : LogicalRequest :=
  { request with
    headers := ordinary request.headers
    regular := fun header hmem => request.regular header (List.mem_of_mem_filter hmem) }

/-- The requests differ in forwarding headers only. -/
def SameButForwarding (first second : LogicalRequest) : Prop := first.plain = second.plain

/-- Nothing of the forwarding family reaches the application, and forwarding headers make no
difference to what does. -/
def Entry.Ignores (entry : Entry) (body : Bytes) (first second : LogicalRequest) : Prop :=
  (∀ input, entry.input config client server first body = some input →
    ∀ header ∈ input.headers, ¬ isForwarded header.1) ∧
  entry.input config client server first body = entry.input config client server second body

/-- Stripping the forwarding headers of a lowered list leaves the ordinary ones. -/
theorem stripForwardedHeaders_lowered (headers : List Header) :
    stripForwardedHeaders (lowered headers) = lowered (ordinary headers) := by
  rw [stripForwardedHeaders, lowered, List.filter_map]
  rfl

/-- A Host header is an ordinary one. -/
theorem hostValues_ordinary (headers : List Header) :
    hostValues (ordinary headers) = hostValues headers := by
  rw [← hostValues_lowered, ← stripForwardedHeaders_lowered, hostValues_stripForwardedHeaders,
    hostValues_lowered]

/-- Forwarding headers have no part in giving a request its Host. -/
theorem ordinary_acceptedHeaders (headers : List Header) (authority : Bytes) :
    ordinary (acceptedHeaders headers authority) =
      acceptedHeaders (ordinary headers) authority := by
  have hregular : ordinary (regular headers) = regular (ordinary headers) := by
    rw [ordinary, regular, ordinary, regular, List.filter_comm]
  have hhost : ordinary ((ascii "host", authority) :: regular headers) =
      (ascii "host", authority) :: ordinary (regular headers) :=
    List.filter_cons_of_pos (show (!isForwarded (lower (ascii "host"))) = true by decide)
  rw [acceptedHeaders, acceptedHeaders, hostValues_ordinary, ← hregular, ← hhost]
  split <;> rfl

namespace LogicalRequest

variable (request : LogicalRequest)

theorem ordinary_withHost : ordinary request.withHost = request.plain.withHost :=
  ordinary_acceptedHeaders request.headers request.authority

theorem accepted_plain : request.plain.Accepted ↔ request.Accepted := by
  have hhosts : hostValues request.plain.headers = hostValues request.headers :=
    hostValues_ordinary request.headers
  rw [Accepted, Accepted, hhosts]
  exact Iff.rfl

/-- Without its forwarding headers a request has none. -/
theorem plain_plain : request.plain.plain = request.plain := by
  have hagain : ordinary (ordinary request.headers) = ordinary request.headers := by
    rw [ordinary, ordinary, List.filter_filter]
    simp only [Bool.and_self]
  simp only [plain, hagain]

end LogicalRequest

/-! ## What the doors hand on -/

variable {config client server} {request : LogicalRequest} {body : Bytes}

/-- The scope of an untrusted peer loses its forwarding headers, and nothing else. -/
theorem applyProxyHeaders_untrusted {scope : Scope}
    (huntrusted : trusts config.trustedHosts scope.client.1 = false) :
    applyProxyHeaders config scope =
      .ok { scope with headers := stripForwardedHeaders scope.headers } :=
  if_neg (by rw [huntrusted]; exact Bool.false_ne_true)

/-- A scope built from a request of an untrusted peer is one of the request without its
forwarding headers, and keeps none of them. -/
theorem built_untrusted
    (huntrusted : trusts config.trustedHosts client.1 = false) (version : HttpVersion)
    (scheme : String) :
    request.built config client server version scheme =
      (decodeAscii request.method).map fun method =>
        { request.plain.h3Scope config client server with
          httpVersion := version, method, scheme } := by
  rw [LogicalRequest.built, request.buildBaseScope_overH1 config client server]
  cases decodeAscii request.method with
  | error error => rfl
  | ok method =>
      change applyProxyHeaders config { request.h3Scope config client server with
        httpVersion := version, method, scheme } = _
      rw [applyProxyHeaders_untrusted huntrusted]
      change Except.ok { request.h3Scope config client server with
        httpVersion := version, method, scheme,
        headers := stripForwardedHeaders (lowered request.withHost) } = _
      rw [stripForwardedHeaders_lowered, request.ordinary_withHost]
      rfl

/-- What reaches an application comes from a request without forwarding headers. -/
theorem not_isForwarded_of_mem {header : Header}
    (hmem : header ∈ lowered request.plain.withHost) : ¬ isForwarded header.1 := by
  rw [← request.ordinary_withHost] at hmem
  obtain ⟨original, hold, rfl⟩ := List.mem_map.mp hmem
  simpa using (List.mem_filter.mp hold).2

/-- Looking up a header that is not of the family does not see those that are. -/
theorem getHeader_ordinary {name : Bytes} (hordinary : isForwarded (lower name) = false)
    (headers : List Header) : getHeader (ordinary headers) name = getHeader headers name := by
  rw [getHeader, getHeader, ordinary, List.find?_filter]
  congr 2
  funext header
  by_cases hname : lower header.1 = lower name <;> simp [hname, hordinary]

/-- A subprotocol is offered by an ordinary header. -/
theorem offeredSubprotocols_withHost :
    offeredSubprotocols request.withHost = offeredSubprotocols request.plain.withHost := by
  rw [offeredSubprotocols, offeredSubprotocols, ← request.ordinary_withHost,
    getHeader_ordinary (by decide)]

section Untrusted

variable (huntrusted : trusts config.trustedHosts client.1 = false)
include huntrusted

/-- What a door that builds its scope from a request hands on. -/
theorem headers_built {version : HttpVersion} {scheme : String} {scope : Scope}
    (hscope : request.built config client server version scheme = .ok scope) :
    scope.headers = lowered request.plain.withHost := by
  rw [built_untrusted huntrusted] at hscope
  cases hmethod : decodeAscii request.method with
  | error error =>
      rw [hmethod] at hscope
      cases hscope
  | ok method =>
      rw [hmethod] at hscope
      obtain rfl := Except.ok.inj hscope
      rfl

/-- The scope of a request is that of the request without its forwarding headers. -/
theorem built_plain (version : HttpVersion) (scheme : String) :
    request.built config client server version scheme =
      request.plain.built config client server version scheme := by
  rw [built_untrusted huntrusted, built_untrusted huntrusted,
    request.plain_plain]
  rfl

variable (server request) in
/-- The scope HTTP/3 builds, if the request is accepted. -/
theorem h3Scope_untrusted :
    (request.Accepted → buildH3Scope config client server request.sent =
      .ok (request.plain.h3Scope config client server)) ∧
    (¬ request.Accepted →
      (buildH3Scope config client server request.sent).toOption = none) := by
  obtain ⟨hread, hrefuse⟩ := request.readH3Scope_sent config client server
  constructor
  · intro haccepted
    rw [buildH3Scope, hread haccepted]
    change (applyProxyHeaders config (request.h3Scope config client server)).mapError _ = _
    rw [applyProxyHeaders_untrusted huntrusted]
    change Except.ok { request.h3Scope config client server with
      headers := stripForwardedHeaders (lowered request.withHost) } = _
    rw [stripForwardedHeaders_lowered, request.ordinary_withHost]
    rfl
  · intro hrefused
    obtain ⟨error, herror⟩ := hrefuse hrefused
    rw [buildH3Scope, herror]
    rfl

/-- A WebSocket door hands on what it would for the request without its forwarding headers. -/
theorem webSocketInput_plain (version : HttpVersion) :
    webSocketInput config client server { request.overH1 with httpVersion := version } =
      webSocketInput config client server { request.plain.overH1 with httpVersion := version } := by
  have hscope : buildWsScope config client server
      { request.overH1 with httpVersion := version } = buildWsScope config client server
      { request.plain.overH1 with httpVersion := version } :=
    built_plain huntrusted version _
  have hoffered : offeredSubprotocols request.overH1.headers =
      offeredSubprotocols request.plain.overH1.headers := offeredSubprotocols_withHost
  simp only [webSocketInput, hscope, hoffered]

/-- And no forwarding header. -/
theorem webSocketInput_headers (version : HttpVersion) {input : AppInput}
    (hinput : webSocketInput config client server { request.overH1 with httpVersion := version } =
      some input) : input.headers = lowered request.plain.withHost := by
  obtain ⟨scope, hscope, rfl⟩ := Option.map_eq_some_iff.mp hinput
  cases hbuilt : buildWsScope config client server
      { request.overH1 with httpVersion := version } with
  | error error =>
      rw [hbuilt] at hscope
      cases hscope
  | ok built =>
      rw [hbuilt] at hscope
      obtain rfl := Option.some.inj hscope
      have hheaders : built.headers = lowered request.plain.withHost :=
        headers_built huntrusted hbuilt
      exact hheaders

/-- Behind the fused path, a door hands on what it would for the request without its forwarding
headers. -/
theorem Entry.input_plain {entry : Entry} (hdoor : entry ≠ .syncApp) :
    entry.input config client server request body =
      entry.input config client server request.plain body := by
  have hread : ∀ next : RequestReceived → Option AppInput,
      next { request.overH1 with httpVersion := .http2 } =
        next { request.plain.overH1 with httpVersion := .http2 } →
      ((readRequest request.sent).bind fun read => next read.1) =
        (readRequest request.plain.sent).bind fun read => next read.1 := by
    intro next hsame
    by_cases haccepted : request.Accepted
    · obtain ⟨protocol, hsome⟩ := request.readRequest_sent haccepted
      obtain ⟨protocol', hplain⟩ :=
        request.plain.readRequest_sent (request.accepted_plain.mpr haccepted)
      rwa [hsome, hplain]
    · rw [request.readRequest_refused haccepted,
        request.plain.readRequest_refused (request.accepted_plain.not.mpr haccepted)]
  have hhttp : ∀ version,
      (request.built config client server version
        (if isTls config then "https" else "http")).toOption.map (AppInput.http · body) =
      (request.plain.built config client server version
        (if isTls config then "https" else "http")).toOption.map (AppInput.http · body) := by
    intro version
    rw [built_plain huntrusted]
  cases entry with
  | syncApp => exact absurd rfl hdoor
  | inlineAsgi => exact hhttp .http11
  | asyncH1 => exact hhttp .http11
  | h2 =>
      apply hread fun read =>
        (buildH2Scope config client server read).toOption.map (AppInput.http · body)
      exact hhttp .http2
  | h3 =>
      obtain ⟨hok, hnone⟩ := h3Scope_untrusted server request huntrusted
      obtain ⟨hplainOk, hplainNone⟩ := h3Scope_untrusted server request.plain huntrusted
      rw [Entry.input, Entry.input]
      by_cases haccepted : request.Accepted
      · rw [hok haccepted, hplainOk (request.accepted_plain.mpr haccepted), request.plain_plain]
      · rw [hnone haccepted, hplainNone (request.accepted_plain.not.mpr haccepted)]
  | webSocket => exact webSocketInput_plain huntrusted .http11
  | webSocketOverH2 => exact hread _ (webSocketInput_plain huntrusted .http2)

/-- Its headers are those of the request without the forwarding ones. -/
theorem Entry.headers_input {entry : Entry} (hdoor : entry ≠ .syncApp) {input : AppInput}
    (hinput : entry.input config client server request body = some input) :
    input.headers = lowered request.plain.withHost := by
  have hhttp : ∀ version, ((request.built config client server version
      (if isTls config then "https" else "http")).toOption.map (AppInput.http · body)) =
        some input → input.headers = lowered request.plain.withHost := by
    intro version hsome
    obtain ⟨scope, hscope, rfl⟩ := Option.map_eq_some_iff.mp hsome
    cases hbuilt : request.built config client server version
        (if isTls config then "https" else "http") with
    | error error =>
        rw [hbuilt] at hscope
        cases hscope
    | ok built =>
        rw [hbuilt] at hscope
        obtain rfl := Option.some.inj hscope
        exact headers_built huntrusted hbuilt
  have hread : ∀ read, readRequest request.sent = some read →
      read.1 = { request.overH1 with httpVersion := .http2 } := by
    intro read hread
    by_cases haccepted : request.Accepted
    · obtain ⟨protocol, hsome⟩ := request.readRequest_sent haccepted
      rw [← Option.some.inj (hsome.symm.trans hread)]
    · rw [request.readRequest_refused haccepted] at hread
      cases hread
  cases entry with
  | syncApp => exact absurd rfl hdoor
  | inlineAsgi => exact hhttp .http11 hinput
  | asyncH1 => exact hhttp .http11 hinput
  | h2 =>
      obtain ⟨read, hsome, hscope⟩ := Option.bind_eq_some_iff.mp hinput
      rw [hread read hsome] at hscope
      exact hhttp .http2 hscope
  | h3 =>
      obtain ⟨hok, hnone⟩ := h3Scope_untrusted server request huntrusted
      rw [Entry.input] at hinput
      by_cases haccepted : request.Accepted
      · rw [hok haccepted] at hinput
        obtain rfl := Option.some.inj hinput
        rfl
      · rw [hnone haccepted] at hinput
        cases hinput
  | webSocket => exact webSocketInput_headers huntrusted .http11 hinput
  | webSocketOverH2 =>
      obtain ⟨read, hsome, hscope⟩ := Option.bind_eq_some_iff.mp hinput
      rw [hread read hsome] at hscope
      exact webSocketInput_headers huntrusted .http2 hscope

end Untrusted

/-! ## The fused path -/

/-- A request without forwarding headers is the one without its forwarding headers. -/
theorem LogicalRequest.plain_eq_self
    (hnone : ∀ header ∈ request.headers, ¬ isForwarded (Bytes.lower header.1)) :
    request.plain = request := by
  have hsame : ordinary request.headers = request.headers := by
    rw [ordinary, List.filter_eq_self]
    intro header hmem
    simpa using hnone header hmem
  simp only [LogicalRequest.plain, hsame]

/-- The forwarding headers of a request are among those it is sent with. -/
theorem mem_withHost {header : Header} (hmem : header ∈ request.headers) :
    header ∈ request.withHost := by
  rw [LogicalRequest.withHost, acceptedHeaders, request.regular_headers]
  split
  · exact List.mem_cons_of_mem _ hmem
  · exact hmem

/-- For every untrusted peer and all requests that differ in forwarding headers only: a door
hands on none of these, and the same for both requests, exactly when it is not the fused path or
they have none. -/
theorem forwarding_ignored_iff (config : ServerConfig) (client server : String × ℕ)
    (entry : Entry) (body : Bytes) (first second : LogicalRequest)
    (huntrusted : trusts config.trustedHosts client.1 = false)
    (hsame : SameButForwarding first second) :
    entry.Ignores config client server body first second ↔
      (entry = .syncApp →
        ∀ header ∈ first.headers ++ second.headers, ¬ isForwarded (lower header.1)) := by
  by_cases hdoor : entry = .syncApp
  · subst hdoor
    rw [Entry.Ignores]
    simp only [true_implies]
    constructor
    · rintro ⟨hclean, hequal⟩ header hmem
      have hlists : lowered first.withHost = lowered second.withHost := by
        have hraw := AppInput.raw.inj (Option.some.inj hequal)
        exact congrArg RawRequest.headers hraw
      have hfound : (lower header.1, header.2) ∈ lowered first.withHost := by
        rcases List.mem_append.mp hmem with hmem | hmem
        · exact List.mem_map_of_mem (mem_withHost hmem)
        · rw [hlists]
          exact List.mem_map_of_mem (mem_withHost hmem)
      exact hclean _ rfl _ hfound
    · intro hnone
      have hfirst : first.plain = first := LogicalRequest.plain_eq_self fun header hmem =>
        hnone header (List.mem_append_left _ hmem)
      have hsecond : second.plain = second := LogicalRequest.plain_eq_self fun header hmem =>
        hnone header (List.mem_append_right _ hmem)
      have hequal : first = second := hfirst.symm.trans (hsame.trans hsecond)
      refine ⟨?_, by rw [hequal]⟩
      intro input hinput header hmem
      obtain rfl := Option.some.inj hinput
      have hplain : header ∈ lowered first.plain.withHost := by rwa [hfirst]
      exact not_isForwarded_of_mem hplain
  · refine iff_of_true ⟨?_, ?_⟩ fun hfused => absurd hfused hdoor
    · intro input hinput header hmem
      rw [Entry.headers_input huntrusted hdoor hinput] at hmem
      exact not_isForwarded_of_mem hmem
    · rw [Entry.input_plain huntrusted hdoor, hsame, ← Entry.input_plain huntrusted hdoor]

/-- A request for the root with these headers. -/
def plainRequest (headers : List Header)
    (hregular : ∀ header ∈ headers, isPseudo header.1 = false) : LogicalRequest where
  method := ascii "GET"
  target := ascii "/"
  scheme := ascii "http"
  authority := ascii "localhost"
  headers := headers
  regular := hregular

/-- A request that claims to come from a proxy. -/
def spoofed : LogicalRequest :=
  plainRequest [(ascii "X-Forwarded-For", ascii "10.0.0.1")] (by decide)

theorem forwarding_ignored_inline :
    Entry.inlineAsgi.Ignores {} ("203.0.113.9", 5000) ("127.0.0.1", 8000) [] spoofed
      (plainRequest [] (by simp)) :=
  (forwarding_ignored_iff {} ("203.0.113.9", 5000) ("127.0.0.1", 8000) .inlineAsgi [] spoofed
    (plainRequest [] (by simp)) (by decide) rfl).mpr fun hfused => by cases hfused

/-- A `SyncApp` reads the forwarding headers of any peer. -/
theorem forwarding_reaches_syncApp :
    ¬ ∀ (config : ServerConfig) (client server : String × ℕ) (entry : Entry) (body : Bytes)
      (first second : LogicalRequest), trusts config.trustedHosts client.1 = false →
        SameButForwarding first second →
          entry.Ignores config client server body first second := by
  intro hclaim
  obtain ⟨hclean, -⟩ := hclaim {} ("203.0.113.9", 5000) ("127.0.0.1", 8000) .syncApp [] spoofed
    spoofed (by decide) rfl
  apply hclean _ rfl (ascii "x-forwarded-for", ascii "10.0.0.1")
  · decide
  · decide

end Pounce.Asgi
