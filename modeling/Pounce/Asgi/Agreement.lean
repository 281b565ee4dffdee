/-
# The scopes of one request

An application should not have to know which protocol a request came over. `h1View`, `h2View`
and `h3View` are what the three builders make of one logical request, up to the version. They
agree on everything but two things. HTTP/1.1 and HTTP/2 take the scheme from the configuration,
HTTP/3 from the client. And a method that is not ASCII is an error there and a replacement here.

X-Forwarded-Proto of a trusted proxy is applied to all scopes alike, whether they are scopes of
HTTP or of WebSocket, so the schemes of either kind end up in scopes of the other.
`scopes_agree_iff` says for which requests none of this happens.
-/

import Mathlib.Data.Multiset.Basic
import Pounce.Asgi.Requests

namespace Pounce.Asgi

open Pounce.Math Pounce.Math.Bytes
open Pounce.SyncWorker (PyError splitHostPort)
open Pounce.H2 (readRequest isPseudo)

/-! ## Views -/

/-- A scope without its version, and with its headers in any order. -/
structure ScopeView where
  method : String
  path : Bytes
  rawPath : Bytes
  queryString : Bytes
  rootPath : String
  scheme : String
  server : String × ℕ
  client : String × ℕ
  headers : Multiset Header
  deriving DecidableEq

/-- What an application makes of a scope. -/
def Scope.view (scope : Scope) : ScopeView where
  method := scope.method
  path := scope.path
  rawPath := scope.rawPath
  queryString := scope.queryString
  rootPath := scope.rootPath
  scheme := scope.scheme
  server := scope.server
  client := scope.client
  headers := ↑scope.headers

variable (config : ServerConfig) (client server : String × ℕ) (request : LogicalRequest)

/-- The scope of the request over HTTP/1.1, if there is one. -/
def h1View : Option ScopeView :=
  (buildScope config client server request.overH1).toOption.map Scope.view

/-- Over HTTP/2 the request is read from its list first. -/
def h2View : Option ScopeView :=
  (readRequest request.sent).bind fun read =>
    (buildH2Scope config client server read.1).toOption.map Scope.view

def h3View : Option ScopeView :=
  (buildH3Scope config client server request.sent).toOption.map Scope.view

/-- The builders produce the same, and it has a scheme of HTTP. -/
def HttpScopesAgree : Prop :=
  h1View config client server request = h2View config client server request ∧
    h2View config client server request = h3View config client server request ∧
    ∀ view, h1View config client server request = some view ∨
        h2View config client server request = some view ∨
        h3View config client server request = some view →
      view.scheme ∈ ["http", "https"]

/-- WebSocket scopes of the request have a scheme of WebSocket. -/
def WsScopesFit : Prop :=
  ∀ scope, (buildWsScope config client server request.overH1 = .ok scope ∨
      ∃ read, readRequest request.sent = some read ∧
        buildWsScope config client server read.1 = .ok scope) →
    scope.scheme ∈ ["ws", "wss"]

/-! ## When they agree -/

/-- The scheme the configuration stands for. -/
def configuredScheme (config : ServerConfig) (plain secure : String) : String :=
  if isTls config then secure else plain

/-- The scheme a trusted proxy has forwarded. -/
def trustedProto (headers : List Header) : Option Bytes :=
  if trusts config.trustedHosts client.1 then
    ((lastValue (ascii "x-forwarded-proto") headers).map fun proto => lower (strip proto)).filter
      (· ∈ [ascii "http", ascii "https", ascii "ws", ascii "wss"])
  else none

/-- The port of a forwarded host is none or a number. -/
def PortReads (headers : List Header) : Prop :=
  ∀ host, trustedHost config client headers = some host → (splitHostPort host server.2).isOk = true

/-- The forwarded scheme is one of HTTP; without one, the client claims the configured one. -/
def SchemeFits (headers : List Header) : Prop :=
  match trustedProto config client headers with
  | some proto => proto ∈ [ascii "http", ascii "https"]
  | none => replaceAscii request.scheme = configuredScheme config "http" "https"

/-- The method is ASCII. -/
def AsciiMethod : Prop := (decodeAscii request.method).isOk = true

/-- The builders agree on the request: no one gets as far as a scope, or all do with a scheme
that fits. -/
def HttpAgreeWhen : Prop :=
  PortReads config client server (lowered request.withHost) →
    (¬ AsciiMethod request ∧ ¬ request.Accepted) ∨
      (AsciiMethod request ∧ request.Accepted ∧
        SchemeFits config client request (lowered request.withHost))

/-- No scheme of HTTP is forwarded. -/
def WsFitWhen : Prop :=
  PortReads config client server (lowered request.withHost) → AsciiMethod request →
    ∀ proto, trustedProto config client (lowered request.withHost) = some proto →
      proto ∈ [ascii "ws", ascii "wss"]

/-! ## What the builders produce -/

variable {config client server request}

/-- The forwarded scheme replaces the one that was there. -/
theorem schemeAfter_eq (headers : List Header) (scheme : String) :
    schemeAfter config client headers scheme =
      ((trustedProto config client headers).map latin1).getD scheme := by
  rw [schemeAfter, trustedProto]
  by_cases htrusted : trusts config.trustedHosts client.1
  · rw [if_pos htrusted, if_pos htrusted, forwardedScheme]
    cases lastValue (ascii "x-forwarded-proto") headers with
    | none => rfl
    | some proto =>
        by_cases hvalid :
            lower (strip proto) ∈ [ascii "http", ascii "https", ascii "ws", ascii "wss"]
        · simp only [Option.map_some, Option.filter_some, hvalid, decide_true, if_true,
            Option.getD_some]
        · simp only [Option.map_some, Option.filter_some, hvalid, decide_false, if_false,
            Bool.false_eq_true, Option.map_none, Option.getD_none]
  · rw [if_neg htrusted, if_neg htrusted]
    rfl

/-- A forwarded scheme is one of the four. -/
theorem trustedProto_cases {headers : List Header} {proto : Bytes}
    (hproto : trustedProto config client headers = some proto) :
    proto ∈ [ascii "http", ascii "https", ascii "ws", ascii "wss"] := by
  rw [trustedProto] at hproto
  split at hproto
  case isTrue => simpa using (Option.filter_eq_some_iff.mp hproto).2
  case isFalse => cases hproto

/-- The forwarding headers are applied unless a port does not read. -/
theorem proxied_isOk (headers : List Header) :
    (proxied config client server headers).isOk = true ↔
      PortReads config client server headers := by
  rw [proxied, PortReads, trustedHost]
  by_cases htrusted : trusts config.trustedHosts client.1
  · simp only [if_pos htrusted]
    cases forwardedHost headers with
    | none => exact iff_of_true rfl fun host hhost => by cases hhost
    | some host =>
        simp only [Option.some.injEq, forall_eq']
        cases splitHostPort host server.2 <;> exact Iff.rfl
  · simp only [if_neg htrusted]
    exact iff_of_true rfl fun host hhost => by cases hhost

variable (config client server request) in
/-- The view of a scope of the request with this method and scheme, once the forwarding headers
have been applied to it. -/
def viewAfter (method scheme : String)
    (after : (String × ℕ) × (String × ℕ) × List Header) : ScopeView :=
  Scope.view
    { request.h3Scope config client server with
      method, client := after.1, server := after.2.1, headers := after.2.2
      scheme := schemeAfter config client (lowered request.withHost) scheme }

variable (config client server request) in
/-- A scope of the request under the forwarding headers. -/
theorem applyProxyHeaders_h3Scope (version : HttpVersion) (method scheme : String) :
    (applyProxyHeaders config { request.h3Scope config client server with
        httpVersion := version, method, scheme }).toOption.map Scope.view =
      (proxied config client server (lowered request.withHost)).toOption.map
        (viewAfter config client server request method scheme) := by
  rw [applyProxyHeaders_eq_proxied]
  change Option.map _ (Except.toOption (Except.map _
    (proxied config client server (lowered request.withHost)))) = _
  cases proxied config client server (lowered request.withHost) with
  | error error => rfl
  | ok after => rfl

/-- A request with an ASCII method has a view unless a port does not read. -/
theorem view_of_request (version : HttpVersion) (plain secure : String) :
    (request.built config client server version
        (configuredScheme config plain secure)).toOption.map Scope.view =
      (decodeAscii request.method).toOption.bind fun method =>
        (proxied config client server (lowered request.withHost)).toOption.map
          (viewAfter config client server request method
            (configuredScheme config plain secure)) := by
  rw [LogicalRequest.built, request.buildBaseScope_overH1 config client server]
  cases decodeAscii request.method with
  | error error => rfl
  | ok method => exact applyProxyHeaders_h3Scope config client server request version method _

theorem h1View_eq : h1View config client server request =
    (decodeAscii request.method).toOption.bind fun method =>
      (proxied config client server (lowered request.withHost)).toOption.map
        (viewAfter config client server request method
          (configuredScheme config "http" "https")) :=
  view_of_request .http11 "http" "https"

theorem h2View_eq : h2View config client server request =
    if request.Accepted then h1View config client server request else none := by
  rw [h2View]
  split
  case isTrue haccepted =>
    obtain ⟨protocol, hread⟩ := request.readRequest_sent haccepted
    rw [hread, h1View_eq, Option.bind_some]
    exact view_of_request .http2 "http" "https"
  case isFalse hrefused =>
    rw [request.readRequest_refused hrefused]
    rfl

theorem h3View_eq : h3View config client server request =
    if request.Accepted then
      (proxied config client server (lowered request.withHost)).toOption.map
        (viewAfter config client server request (replaceAscii request.method)
          (replaceAscii request.scheme))
    else none := by
  obtain ⟨hread, hrefuse⟩ := request.readH3Scope_sent config client server
  rw [h3View, buildH3Scope]
  split
  case isTrue haccepted =>
    rw [hread haccepted]
    have happlied := applyProxyHeaders_h3Scope config client server request .http3
      (replaceAscii request.method) (replaceAscii request.scheme)
    rw [← happlied]
    change Option.map _ (Except.toOption (Except.mapError H3Error.raised
        (applyProxyHeaders config (request.h3Scope config client server)))) =
      Option.map _ (Except.toOption
        (applyProxyHeaders config (request.h3Scope config client server)))
    cases applyProxyHeaders config (request.h3Scope config client server) with
    | error error => rfl
    | ok scope => rfl
  case isFalse hrefused =>
    obtain ⟨error, herror⟩ := hrefuse hrefused
    rw [herror]
    rfl

/-- A decoded method is the one HTTP/3 decodes. -/
theorem replaceAscii_of_decodeAscii {bytes : Bytes} {text : String}
    (htext : decodeAscii bytes = .ok text) : replaceAscii bytes = text := by
  rw [decodeAscii] at htext
  split at htext
  case isFalse => cases htext
  case isTrue hascii =>
    obtain rfl := Except.ok.inj htext
    rw [replaceAscii, latin1]
    congr 1
    apply List.map_congr_left
    intro byte hmem
    exact if_pos (by simpa using List.all_eq_true.mp hascii byte hmem)

/-- Two views of a request are the same when their schemes are. -/
theorem viewAfter_inj (method first second : String)
    (after : (String × ℕ) × (String × ℕ) × List Header) :
    viewAfter config client server request method first after =
        viewAfter config client server request method second after ↔
      schemeAfter config client (lowered request.withHost) first =
        schemeAfter config client (lowered request.withHost) second := by
  simp [viewAfter, Scope.view, Scope.path]

/-- The scheme after the forwarding headers is one of HTTP, and the one of HTTP/3, exactly when
it fits. -/
theorem schemeFits_iff (headers : List Header) :
    SchemeFits config client request headers ↔
      schemeAfter config client headers (configuredScheme config "http" "https") ∈
          ["http", "https"] ∧
        schemeAfter config client headers (configuredScheme config "http" "https") =
          schemeAfter config client headers (replaceAscii request.scheme) := by
  rw [schemeAfter_eq, schemeAfter_eq, SchemeFits]
  cases hproto : trustedProto config client headers with
  | none =>
      have hconfigured : configuredScheme config "http" "https" ∈ ["http", "https"] := by
        rw [configuredScheme]
        split <;> decide
      simp only [Option.map_none, Option.getD_none]
      exact ⟨fun hsame => ⟨hconfigured, hsame.symm⟩, fun hboth => hboth.2.symm⟩
  | some proto =>
      have hvalid := trustedProto_cases hproto
      simp only [Option.map_some, Option.getD_some, and_true]
      simp only [List.mem_cons, List.not_mem_nil, or_false] at hvalid
      rcases hvalid with rfl | rfl | rfl | rfl <;> decide

/-- The scopes of HTTP agree on a request when it has none or when its scheme fits. -/
theorem httpScopesAgree_iff :
    HttpScopesAgree config client server request ↔ HttpAgreeWhen config client server request := by
  rw [HttpScopesAgree, HttpAgreeWhen, h3View_eq, h2View_eq, h1View_eq, ← proxied_isOk]
  cases proxied config client server (lowered request.withHost) with
  | error error =>
      -- no builder gets as far as a scope
      refine iff_of_true ?_ fun hok => by cases hok
      cases decodeAscii request.method <;> simp [Except.toOption]
  | ok after =>
      have hreads : (Except.ok after : Except PyError _).isOk = true := rfl
      simp only [hreads, true_implies, AsciiMethod]
      cases hmethod : decodeAscii request.method with
      | error error =>
          by_cases haccepted : request.Accepted <;>
            simp [Except.toOption, Except.isOk, Except.toBool, haccepted]
      | ok method =>
          rw [schemeFits_iff, replaceAscii_of_decodeAscii hmethod]
          have hscheme : ∀ scheme, (viewAfter config client server request method scheme
              after).scheme = schemeAfter config client (lowered request.withHost) scheme :=
            fun scheme => rfl
          by_cases haccepted : request.Accepted
          · simp only [haccepted, if_true, Except.toOption, Option.bind_some, Option.map_some,
              Option.some.injEq, viewAfter_inj, true_and]
            constructor
            · rintro ⟨hsame, hfits⟩
              refine Or.inr ⟨rfl, ?_, hsame⟩
              have hview := hfits _ (Or.inl rfl)
              rwa [hscheme] at hview
            · rintro (⟨hnot, -⟩ | ⟨-, hfits, hsame⟩)
              · exact absurd rfl hnot
              · refine ⟨hsame, ?_⟩
                rintro view (rfl | rfl | rfl)
                · exact hfits
                · exact hfits
                · rw [hscheme, ← hsame]
                  exact hfits
          · simp [haccepted, Except.toOption, Except.isOk, Except.toBool]

/-- The forwarded scheme, or the configured one, is one of WebSocket. -/
theorem wsScheme_iff (headers : List Header) :
    schemeAfter config client headers (configuredScheme config "ws" "wss") ∈ ["ws", "wss"] ↔
      ∀ proto, trustedProto config client headers = some proto →
        proto ∈ [ascii "ws", ascii "wss"] := by
  rw [schemeAfter_eq]
  cases hproto : trustedProto config client headers with
  | none =>
      refine iff_of_true ?_ fun proto hnone => by cases hnone
      rw [Option.map_none, Option.getD_none, configuredScheme]
      split <;> decide
  | some proto =>
      have hvalid := trustedProto_cases hproto
      simp only [Option.some.injEq, forall_eq', Option.map_some, Option.getD_some]
      simp only [List.mem_cons, List.not_mem_nil, or_false] at hvalid
      rcases hvalid with rfl | rfl | rfl | rfl <;> decide

/-- A WebSocket scope of the request, over either protocol, fits unless a scheme of HTTP is
forwarded. -/
theorem wsScope_iff (version : HttpVersion) :
    (∀ scope, buildWsScope config client server { request.overH1 with httpVersion := version } =
        .ok scope → scope.scheme ∈ ["ws", "wss"]) ↔
      WsFitWhen config client server request := by
  have hview : (buildWsScope config client server
      { request.overH1 with httpVersion := version }).toOption.map Scope.view = _ :=
    view_of_request version "ws" "wss"
  rw [WsFitWhen, ← proxied_isOk, AsciiMethod]
  have hscheme : ∀ scope, buildWsScope config client server
      { request.overH1 with httpVersion := version } = .ok scope →
      ∃ method after, decodeAscii request.method = .ok method ∧
        proxied config client server (lowered request.withHost) = .ok after ∧
        scope.scheme = schemeAfter config client (lowered request.withHost)
          (configuredScheme config "ws" "wss") := by
    intro scope hscope
    rw [hscope] at hview
    cases hmethod : decodeAscii request.method with
    | error error =>
        rw [hmethod] at hview
        cases hview
    | ok method =>
        cases hafter : proxied config client server (lowered request.withHost) with
        | error error =>
            rw [hmethod, hafter] at hview
            cases hview
        | ok after =>
            rw [hmethod, hafter] at hview
            exact ⟨method, after, rfl, rfl, congrArg ScopeView.scheme (Option.some.inj hview)⟩
  constructor
  · intro hfits hport hascii
    cases hscope : buildWsScope config client server
        { request.overH1 with httpVersion := version } with
    | error error =>
        rw [hscope] at hview
        cases hmethod : decodeAscii request.method with
        | error error =>
            rw [hmethod] at hascii
            cases hascii
        | ok method =>
            cases hafter : proxied config client server (lowered request.withHost) with
            | error error =>
                rw [hafter] at hport
                cases hport
            | ok after =>
                rw [hmethod, hafter] at hview
                cases hview
    | ok scope =>
        obtain ⟨-, -, -, -, hsame⟩ := hscheme scope hscope
        exact (wsScheme_iff _).mp (hsame ▸ hfits scope hscope)
  · intro hwhen scope hscope
    obtain ⟨method, after, hmethod, hafter, hsame⟩ := hscheme scope hscope
    rw [hsame]
    apply (wsScheme_iff _).mpr
    exact hwhen (by rw [hafter]; rfl) (by rw [hmethod]; rfl)

/-- The scopes of WebSocket fit unless a scheme of HTTP is forwarded. -/
theorem wsScopesFit_iff :
    WsScopesFit config client server request ↔ WsFitWhen config client server request := by
  constructor
  · intro hfits
    exact (wsScope_iff .http11).mp fun scope hscope => hfits scope (Or.inl hscope)
  · rintro hwhen scope (hscope | ⟨read, hread, hscope⟩)
    · exact (wsScope_iff .http11).mpr hwhen scope hscope
    · by_cases haccepted : request.Accepted
      · obtain ⟨protocol, hsome⟩ := request.readRequest_sent haccepted
        obtain rfl := Option.some.inj (hsome.symm.trans hread)
        exact (wsScope_iff .http2).mpr hwhen scope hscope
      · rw [request.readRequest_refused haccepted] at hread
        cases hread

variable (config client server request) in
/-- For every request, configuration and peer: the builders of the three protocols produce the
same with a scheme of HTTP, and those of WebSocket a scheme of WebSocket, exactly when the
scheme that is forwarded, or the one the client claims, is the one to use and the method and
authority are read everywhere or nowhere. -/
theorem scopes_agree_iff :
    (HttpScopesAgree config client server request ↔
        HttpAgreeWhen config client server request) ∧
      (WsScopesFit config client server request ↔ WsFitWhen config client server request) :=
  ⟨httpScopesAgree_iff, wsScopesFit_iff⟩

/-! ## Where they differ -/

/-- A request for the root from a client that claims this scheme. -/
def claiming (scheme : String) (headers : List Header)
    (hregular : ∀ header ∈ headers, isPseudo header.1 = false) : LogicalRequest where
  method := ascii "GET"
  target := ascii "/?"
  scheme := ascii scheme
  authority := ascii "localhost"
  headers := headers
  regular := hregular

/-- The scheme of HTTP/3 is the one the client claims. -/
theorem scopes_differ_claimed :
    ¬ ∀ (config : ServerConfig) (client server : String × ℕ) (request : LogicalRequest),
      HttpScopesAgree config client server request ∧
        WsScopesFit config client server request := by
  intro hclaim
  have hagree := (hclaim { sslCertfile := some "cert.pem" } ("127.0.0.1", 5000)
    ("127.0.0.1", 8443) (claiming "gopher" [] (by simp))).1
  rw [httpScopesAgree_iff] at hagree
  rcases hagree (fun host hhost => by cases hhost) with ⟨hascii, -⟩ | ⟨-, -, hfits⟩
  · exact hascii (show (decodeAscii (ascii "GET")).isOk = true by decide)
  · -- nobody is trusted, so the claimed scheme stays
    have hsame : replaceAscii (ascii "gopher") = "https" := hfits
    revert hsame
    decide +kernel

end Pounce.Asgi
