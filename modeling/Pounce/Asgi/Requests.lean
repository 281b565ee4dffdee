/-
# One request on three protocols

A logical request has a method, a target, an authority and headers. HTTP/1.1 carries the
authority as Host, the other protocols as a pseudo-header beside `:method`, `:path` and
`:scheme`. This module says what the readers of the protocols make of one logical request:
HTTP/2 and HTTP/3 accept it under the same condition (`LogicalRequest.Accepted`) and hand on
the headers that HTTP/1.1 hands on.

`apply_proxy_headers` comes last everywhere. It only looks at the headers and the two
addresses, so it is split here into what it makes of these (`proxied`) and the scheme.
-/

import Pounce.Asgi.Host

namespace Pounce.Asgi

open Pounce.Math Pounce.Math.Bytes
open Pounce.SyncWorker (PyError splitHostPort)
open Pounce.H2 (HeaderScan readRequest isPseudo effectiveAuthority contradicts)

/-! ## Logical requests -/

/-- A request as the client means it. Its headers may name a Host besides the authority. -/
structure LogicalRequest where
  method : Bytes
  target : Bytes
  /-- The scheme the client claims, where the protocol has it say so. -/
  scheme : Bytes
  authority : Bytes
  headers : List Header
  regular : ∀ header ∈ headers, isPseudo header.1 = false

namespace LogicalRequest

variable (request : LogicalRequest)

/-- The headers with a Host. -/
def withHost : List Header := acceptedHeaders request.headers request.authority

/-- The request over HTTP/1.1. -/
def overH1 : RequestReceived where
  method := request.method
  target := request.target
  headers := request.withHost
  httpVersion := .http11

/-- The pseudo-headers of the request. -/
def pseudoHeaders : List Header :=
  [(ascii ":method", request.method), (ascii ":scheme", request.scheme),
    (ascii ":path", request.target), (ascii ":authority", request.authority)]

/-- The header list of the request over HTTP/2 and HTTP/3. -/
def sent : List Header := request.pseudoHeaders ++ request.headers

/-- The authority of the request, next to its last Host, is one that the readers accept. -/
def Accepted : Prop :=
  (effectiveAuthority (some request.authority) (hostValues request.headers).getLast?).isSome ∧
    contradicts (some request.authority) (hostValues request.headers).getLast? = false

instance : Decidable request.Accepted := inferInstanceAs (Decidable (_ ∧ _))

/-- The request with its header names in lower case. -/
def lower : LogicalRequest :=
  { request with
    headers := lowered request.headers
    regular := by
      intro header hmem
      obtain ⟨original, hold, rfl⟩ := List.mem_map.mp hmem
      exact (isPseudo_lower _).trans (request.regular original hold) }

/-! ## What a pass over its list finds -/

theorem regular_headers : Asgi.regular request.headers = request.headers := by
  rw [Asgi.regular, List.filter_eq_self]
  intro header hmem
  rw [request.regular header hmem]
  rfl

theorem regular_sent : Asgi.regular request.sent = request.headers := by
  rw [sent, Asgi.regular, List.filter_append]
  exact congrArg _ request.regular_headers

theorem pseudoNames_headers : pseudoNames request.headers = [] := by
  rw [pseudoNames, List.filter_eq_nil_iff]
  intro name hmem
  obtain ⟨header, hheader, rfl⟩ := List.mem_map.mp hmem
  rw [request.regular header hheader]
  exact Bool.false_ne_true

theorem pseudoNames_sent : pseudoNames request.sent =
    [ascii ":method", ascii ":scheme", ascii ":path", ascii ":authority"] := by
  have hnames := request.pseudoNames_headers
  rw [pseudoNames] at hnames ⊢
  rw [sent, List.map_append, List.filter_append, hnames]
  rfl

/-- The Host values of the list are those of the headers. -/
theorem hostValues_sent : hostValues request.sent = hostValues request.headers := by
  rw [sent, hostValues, fieldValues_append]
  rfl

/-- A pass that looks for a pseudo-header finds the one in front. -/
theorem lastValue_sent {name : Bytes} (hpseudo : isPseudo name = true) :
    lastValue name request.sent = lastValue name request.pseudoHeaders := by
  have hpast : ∀ (headers : List Header) (found : Option Bytes),
      (∀ header ∈ headers, isPseudo header.1 = false) →
        headers.foldl (fun found header => if header.1 = name then some header.2 else found)
          found = found := by
    intro headers
    induction headers with
    | nil => exact fun found _ => rfl
    | cons header headers ih =>
        intro found hregular
        have hother : header.1 ≠ name := by
          rintro rfl
          cases (hregular header (List.mem_cons_self ..)).symm.trans hpseudo
        rw [List.foldl_cons, if_neg hother]
        exact ih found fun later hmem => hregular later (List.mem_cons_of_mem _ hmem)
  rw [lastValue, sent, List.foldl_append]
  exact hpast request.headers _ request.regular

/-- With an authority that is accepted the request gets the headers that HTTP/1.1 sends. -/
theorem acceptedHeaders_sent {authority : Bytes}
    (hauthority : effectiveAuthority (some request.authority)
      (hostValues request.headers).getLast? = some authority) :
    acceptedHeaders request.sent authority = request.withHost := by
  rw [withHost, acceptedHeaders, acceptedHeaders, request.hostValues_sent, request.regular_sent,
    request.regular_headers]
  by_cases hnone : (hostValues request.headers).getLast?.isNone
  · rw [Option.isNone_iff_eq_none.mp hnone] at hauthority ⊢
    have hsame : authority = request.authority := by
      by_cases hempty : request.authority = [] <;>
        simp_all [effectiveAuthority]
    rw [hsame]
  · rw [if_neg hnone, if_neg hnone]

/-! ## What the readers make of it -/

/-- What the pass over the list of a request leaves. -/
theorem foldl_record_sent :
    let found := request.sent.foldl HeaderScan.record {}
    found.method = some request.method ∧ found.target = some request.target ∧
      found.scheme = some request.scheme ∧ found.authority = some request.authority ∧
      found.host = (hostValues request.headers).getLast? ∧ found.headers = request.headers := by
  obtain ⟨hmethod, htarget, hscheme, hauthority, hhost, hheaders⟩ := foldl_record request.sent
  rw [request.lastValue_sent (by decide)] at hmethod htarget hscheme hauthority
  rw [request.hostValues_sent] at hhost
  rw [request.regular_sent] at hheaders
  exact ⟨hmethod, htarget, hscheme, hauthority, hhost, hheaders⟩

/-- HTTP/2 reads an accepted request as HTTP/1.1 does. -/
theorem readRequest_sent (haccepted : request.Accepted) :
    ∃ protocol, readRequest request.sent =
      some ({ request.overH1 with httpVersion := .http2 }, protocol) := by
  obtain ⟨hmethod, htarget, hscheme, hauthority, hhost, hheaders⟩ := request.foldl_record_sent
  have hnodup : (pseudoNames request.sent).Nodup := by
    rw [request.pseudoNames_sent]
    decide
  obtain ⟨authority, hsome⟩ := Option.isSome_iff_exists.mp haccepted.1
  have hwith := request.acceptedHeaders_sent hsome
  rw [acceptedHeaders, request.hostValues_sent, request.regular_sent] at hwith
  refine ⟨(request.sent.foldl HeaderScan.record {}).protocol, ?_⟩
  simp only [readRequest, foldlM_scanHeader, if_pos hnodup, Option.bind_eq_bind, Option.bind_some,
    hmethod, htarget, hscheme, hauthority, hhost, hheaders, haccepted.2, hsome, hwith]
  rfl

/-- It refuses any other. -/
theorem readRequest_refused (hrefused : ¬ request.Accepted) : readRequest request.sent = none := by
  obtain ⟨hmethod, htarget, hscheme, hauthority, hhost, hheaders⟩ := request.foldl_record_sent
  have hnodup : (pseudoNames request.sent).Nodup := by
    rw [request.pseudoNames_sent]
    decide
  simp only [readRequest, foldlM_scanHeader, if_pos hnodup, Option.bind_eq_bind, Option.bind_some,
    hmethod, htarget, hscheme, hauthority, hhost, hheaders]
  split
  case isTrue => rfl
  case isFalse hconsistent =>
    cases hsome : effectiveAuthority (some request.authority)
        (hostValues request.headers).getLast? with
    | none => rfl
    | some authority =>
        exact absurd ⟨Option.isSome_of_eq_some hsome, Bool.eq_false_iff.mpr hconsistent⟩ hrefused

theorem lowered_sent : lowered request.sent = request.lower.sent := by
  rw [sent, lowered, List.map_append]
  rfl

theorem accepted_lower : request.lower.Accepted ↔ request.Accepted := by
  have hhosts : hostValues request.lower.headers = hostValues request.headers :=
    hostValues_lowered request.headers
  rw [Accepted, Accepted, hhosts]
  exact Iff.rfl

theorem withHost_lower : request.lower.withHost = lowered request.withHost :=
  (lowered_acceptedHeaders request.headers request.authority).symm

variable (config : ServerConfig) (client server : String × ℕ)

/-- The scope HTTP/3 reads from an accepted request. -/
def h3Scope : Scope where
  httpVersion := .http3
  method := replaceAscii request.method
  rawPath := (splitTarget request.target).1
  queryString := (splitTarget request.target).2
  rootPath := config.rootPath
  scheme := replaceAscii request.scheme
  server := server
  client := client
  headers := lowered request.withHost

/-- HTTP/3 reads the scope from an accepted request, and none from any other. -/
theorem readH3Scope_sent :
    (request.Accepted →
      readH3Scope config client server request.sent = .ok (request.h3Scope config client server)) ∧
    (¬ request.Accepted →
      ∃ error, readH3Scope config client server request.sent = .error error) := by
  obtain ⟨hmethod, htarget, hscheme, hauthority, hhost, hheaders⟩ :=
    request.lower.foldl_record_sent
  have hknown : KnownPseudoHeaders (lowered request.sent) := by
    rw [request.lowered_sent, KnownPseudoHeaders, request.lower.pseudoNames_sent]
    decide
  have hscan := foldlM_scanH3Header request.sent
  rw [if_pos hknown, request.lowered_sent] at hscan
  constructor
  · intro haccepted
    rw [← request.accepted_lower] at haccepted
    obtain ⟨authority, hsome⟩ := Option.isSome_iff_exists.mp haccepted.1
    have hwith := request.lower.acceptedHeaders_sent hsome
    rw [acceptedHeaders, request.lower.hostValues_sent, request.lower.regular_sent,
      request.withHost_lower] at hwith
    simp only [readH3Scope, hscan, bind, Except.bind, hmethod, htarget, hscheme, hauthority, hhost,
      hheaders, haccepted.2, hsome, hwith]
    rfl
  · intro hrefused
    rw [← request.accepted_lower] at hrefused
    simp only [readH3Scope, hscan, bind, Except.bind, hmethod, htarget, hscheme, hauthority, hhost,
      hheaders]
    split
    case isTrue => exact ⟨_, rfl⟩
    case isFalse hconsistent =>
      cases hsome : effectiveAuthority (some request.lower.authority)
          (hostValues request.lower.headers).getLast? with
      | none => exact ⟨_, rfl⟩
      | some authority =>
          exact absurd ⟨Option.isSome_of_eq_some hsome, Bool.eq_false_iff.mpr hconsistent⟩ hrefused

/-- The scope over HTTP/1.1 before the forwarding headers are applied. -/
theorem buildBaseScope_overH1 (version : HttpVersion) (scheme : String) :
    buildBaseScope { request.overH1 with httpVersion := version } version scheme server client
        config.rootPath =
      (decodeAscii request.method).map fun method =>
        { request.h3Scope config client server with httpVersion := version, method, scheme } := by
  simp only [buildBaseScope, overH1]
  cases decodeAscii request.method with
  | error error => rfl
  | ok method => rfl

/-- What the builders that read a request have in common. -/
def built (version : HttpVersion) (scheme : String) : Except PyError Scope := do
  let scope ← buildBaseScope { request.overH1 with httpVersion := version } version scheme server
    client config.rootPath
  applyProxyHeaders config scope

end LogicalRequest

/-! ## Forwarding headers -/

/-- The scheme after the forwarding headers. -/
def schemeAfter (config : ServerConfig) (client : String × ℕ) (headers : List Header)
    (scheme : String) : String :=
  if trusts config.trustedHosts client.1 then forwardedScheme headers scheme else scheme

/-- Client, server and headers after the forwarding headers. -/
def proxied (config : ServerConfig) (client server : String × ℕ) (headers : List Header) :
    Except PyError ((String × ℕ) × (String × ℕ) × List Header) :=
  if trusts config.trustedHosts client.1 then
    let forwarded := forwardedClient headers config.forwardedForTrustedHops client
    match forwardedHost headers with
    | none => .ok (forwarded, server, headers)
    | some host =>
        (splitHostPort host server.2).map fun found =>
          (forwarded, (latin1 found.1, found.2), replaceHeader (ascii "host") host headers)
  else .ok (client, server, stripForwardedHeaders headers)

/-- Applying the forwarding headers changes the scheme and these. -/
theorem applyProxyHeaders_eq_proxied (config : ServerConfig) (scope : Scope) :
    applyProxyHeaders config scope =
      (proxied config scope.client scope.server scope.headers).map fun after =>
        { scope with
          client := after.1, server := after.2.1, headers := after.2.2
          scheme := schemeAfter config scope.client scope.headers scope.scheme } := by
  rw [applyProxyHeaders, proxied, schemeAfter]
  by_cases htrusted : trusts config.trustedHosts scope.client.1
  · simp only [if_pos htrusted]
    cases forwardedHost scope.headers with
    | none => rfl
    | some host =>
        dsimp only
        cases splitHostPort host scope.server.2 with
        | error error => rfl
        | ok found => rfl
  · simp only [if_neg htrusted]
    rfl

end Pounce.Asgi
