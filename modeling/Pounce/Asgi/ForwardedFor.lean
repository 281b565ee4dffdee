/-
# The client of a forwarded request

Every proxy appends the peer it saw to X-Forwarded-For, so the element as many places from the
right as there are trusted proxies is the client, and nothing a client sends in advance of them can
change it. A list header may be sent in several lines, which together make one list.

`apply_proxy_headers` looks at the last line only. That is enough where the last line has as many
elements as there are trusted proxies, or the lines before it have none. Otherwise the count ends
at the left of the last line and does not go on into the line before.
-/

import Pounce.Asgi.Scope

namespace Pounce.Asgi

open Pounce.Math Pounce.Math.Bytes
open Pounce.SyncWorker (PyError splitHostPort)

/-! ## Chains -/

/-- The elements of a line: its parts that are not blank. -/
def elementsOf (line : Bytes) : List Bytes :=
  ((line.splitOn 44).map fun part => stripCrlf (strip part)).filter (· ≠ [])

/-- The X-Forwarded-For lines of a request, in order. -/
def forwardedLines (headers : List Header) : List Bytes :=
  headers.filterMap fun header =>
    if header.1 = ascii "x-forwarded-for" then some header.2 else none

/-- The elements of all lines. -/
def forwardedChain (headers : List Header) : List Bytes :=
  (forwardedLines headers).flatMap elementsOf

/-- The elements of the last line. -/
def lastElements (headers : List Header) : List Bytes :=
  ((forwardedLines headers).getLast?.map elementsOf).getD []

/-- The elements of the lines before it. -/
def earlierElements (headers : List Header) : List Bytes :=
  (forwardedLines headers).dropLast.flatMap elementsOf

/-- The element so many places from the right, or the leftmost one if there are fewer. -/
def fromRight (hops : ℕ) (chain : List Bytes) : Option Bytes := chain[chain.length - hops]?

/-- The client that a chain names; its port is the one of the peer. -/
def clientOf (chain : List Bytes) (hops : ℕ) (peer : String × ℕ) : String × ℕ :=
  match fromRight hops chain with
  | none => peer
  | some element => (latin1 element, peer.2)

/-- The last line decides: it has enough elements, or there are no others. Or else the element
where the count ends in the lines before it reads the same as what is taken instead, the leftmost
element of the last line or the peer. -/
def LastLineDecides (headers : List Header) (hops : ℕ) (peer : String × ℕ) : Prop :=
  hops ≤ (lastElements headers).length ∨ earlierElements headers = [] ∨
    ∃ element, fromRight (hops - (lastElements headers).length) (earlierElements headers) =
      some element ∧ latin1 element = ((lastElements headers).head?.map latin1).getD peer.1

/-! ## Selecting -/

variable {headers : List Header} {hops : ℕ} {chain first second : List Bytes}

/-- Elements are not empty. -/
theorem ne_nil_of_mem_elementsOf {line element : Bytes} (hmem : element ∈ elementsOf line) :
    element ≠ [] := by
  rw [elementsOf, List.mem_filter] at hmem
  exact of_decide_eq_true hmem.2

/-- Far enough from the left, the elements before do not matter. -/
theorem fromRight_append_of_le (hle : hops ≤ second.length) :
    fromRight hops (first ++ second) = fromRight hops second := by
  rw [fromRight, fromRight, List.length_append, List.getElem?_append_right (by omega)]
  congr 1
  omega

/-- Further to the left, the count goes on. -/
theorem fromRight_append_of_lt (hlt : second.length < hops) (hne : first ≠ []) :
    fromRight hops (first ++ second) = fromRight (hops - second.length) first := by
  have hpos := List.length_pos_of_ne_nil hne
  rw [fromRight, fromRight, List.length_append, List.getElem?_append_left (by omega)]
  congr 1
  omega

/-- With too few elements the leftmost is taken. -/
theorem fromRight_of_le (hle : chain.length ≤ hops) : fromRight hops chain = chain.head? := by
  rw [fromRight, Nat.sub_eq_zero_of_le hle, List.head?_eq_getElem?]

/-- Some element is selected from a chain that has any. -/
theorem fromRight_isSome (hpos : 0 < hops) (hne : chain ≠ []) : (fromRight hops chain).isSome := by
  have hlength := List.length_pos_of_ne_nil hne
  rw [fromRight, List.getElem?_eq_getElem (by omega)]
  rfl

/-- What is selected from a line. -/
theorem selectForwardedFor_eq (line : Bytes) (hpos : 0 < hops) :
    selectForwardedFor line hops = (fromRight hops (elementsOf line)).getD [] := by
  rw [selectForwardedFor, ← elementsOf, Nat.max_eq_right hpos]
  split
  case isTrue hle =>
    rw [fromRight_of_le hle, List.headD_eq_head?_getD]
  case isFalse => rw [fromRight, List.getD_eq_getElem?_getD]

/-- The value a pass over the headers is left with is the last line. -/
theorem lastValue_eq_getLast? (headers : List Header) :
    lastValue (ascii "x-forwarded-for") headers = (forwardedLines headers).getLast? := by
  induction headers using List.reverseRecOn with
  | nil => rfl
  | append_singleton headers header ih =>
      rw [lastValue, List.foldl_append, ← lastValue, ih]
      by_cases hname : header.1 = ascii "x-forwarded-for"
      · simp [forwardedLines, hname]
      · simp [forwardedLines, hname]

/-- The client is named by the last line. -/
theorem forwardedClient_eq (headers : List Header) (hpos : 0 < hops) (peer : String × ℕ) :
    forwardedClient headers hops peer = clientOf (lastElements headers) hops peer := by
  rw [forwardedClient, lastValue_eq_getLast?, lastElements, clientOf]
  cases (forwardedLines headers).getLast? with
  | none => rfl
  | some line =>
      simp only [Option.map_some, Option.getD_some, selectForwardedFor_eq line hpos]
      cases hfound : fromRight hops (elementsOf line) with
      | none => rfl
      | some element =>
          have hne := ne_nil_of_mem_elementsOf (List.mem_of_getElem? hfound)
          simp [hne]

/-- The chain is what the last line adds to the others. -/
theorem forwardedChain_eq (headers : List Header) :
    forwardedChain headers = earlierElements headers ++ lastElements headers := by
  rw [forwardedChain, earlierElements, lastElements]
  cases hlast : (forwardedLines headers).getLast? with
  | none =>
      rw [List.getLast?_eq_none_iff.mp hlast]
      rfl
  | some line =>
      have hsplit := List.dropLast_append_getLast? line hlast
      conv => left; rw [← hsplit]
      rw [List.flatMap_append]
      simp

/-- The last line and the whole chain name the same client where the last line decides. -/
theorem clientOf_last_iff (headers : List Header) (hops : ℕ) (peer : String × ℕ) :
    clientOf (lastElements headers) hops peer = clientOf (forwardedChain headers) hops peer ↔
      LastLineDecides headers hops peer := by
  rw [forwardedChain_eq, LastLineDecides]
  generalize lastElements headers = last
  generalize earlierElements headers = earlier
  by_cases hle : hops ≤ last.length
  · apply iff_of_true _ (.inl hle)
    rw [clientOf, clientOf, fromRight_append_of_le hle]
  · by_cases hearlier : earlier = []
    · apply iff_of_true _ (.inr (.inl hearlier))
      rw [hearlier, List.nil_append]
    · obtain ⟨element, helement⟩ := Option.isSome_iff_exists.mp
        (fromRight_isSome (show 0 < hops - last.length by omega) hearlier)
      have htaken : clientOf last hops peer = ((last.head?.map latin1).getD peer.1, peer.2) := by
        rw [clientOf, fromRight_of_le (by omega)]
        cases last.head? with
        | none => rfl
        | some first => rfl
      have hchain : clientOf (earlier ++ last) hops peer = (latin1 element, peer.2) := by
        rw [clientOf, fromRight_append_of_lt (by omega) hearlier, helement]
      rw [htaken, hchain, helement]
      constructor
      · intro hsame
        exact .inr (.inr ⟨element, rfl, (congrArg Prod.fst hsame).symm⟩)
      · rintro (hlong | hnone | ⟨found, hfound, hsame⟩)
        · exact absurd hlong hle
        · exact absurd hnone hearlier
        · rw [← hsame, Option.some.inj hfound]

/-! ## The client of a scope -/

/-- The client that a scope from a trusted peer is given. -/
theorem client_applyProxyHeaders {config : ServerConfig} {scope result : Scope}
    (htrusted : trusts config.trustedHosts scope.client.1 = true)
    (happlied : applyProxyHeaders config scope = .ok result) :
    result.client =
      forwardedClient scope.headers config.forwardedForTrustedHops scope.client := by
  rw [applyProxyHeaders, if_pos htrusted] at happlied
  dsimp only at happlied
  split at happlied
  case h_1 =>
    cases happlied
    rfl
  case h_2 host hhost =>
    cases hsplit : splitHostPort host scope.server.2 with
    | error error =>
        rw [hsplit] at happlied
        cases happlied
    | ok pair =>
        rw [hsplit] at happlied
        cases happlied
        rfl

/-- The client of a scope from a trusted peer is the one the chain of all lines names exactly if
the last line decides. Where it does, what comes before the elements of the trusted proxies cannot
change the client. -/
theorem forwarded_client_iff (config : ServerConfig) (scope result : Scope)
    (hhops : 1 ≤ config.forwardedForTrustedHops)
    (htrusted : trusts config.trustedHosts scope.client.1 = true)
    (happlied : applyProxyHeaders config scope = .ok result) :
    (result.client =
        clientOf (forwardedChain scope.headers) config.forwardedForTrustedHops scope.client ↔
      LastLineDecides scope.headers config.forwardedForTrustedHops scope.client) ∧
    ∀ (other otherResult : Scope) (chosen otherChosen trusted : List Bytes),
      other.client = scope.client → applyProxyHeaders config other = .ok otherResult →
      forwardedChain scope.headers = chosen ++ trusted →
      forwardedChain other.headers = otherChosen ++ trusted →
      config.forwardedForTrustedHops ≤ trusted.length →
      LastLineDecides scope.headers config.forwardedForTrustedHops scope.client →
      LastLineDecides other.headers config.forwardedForTrustedHops scope.client →
        otherResult.client = result.client := by
  have hclient := client_applyProxyHeaders htrusted happlied
  rw [forwardedClient_eq _ hhops] at hclient
  constructor
  · rw [hclient]
    exact clientOf_last_iff scope.headers _ scope.client
  · intro other otherResult chosen otherChosen trusted hpeer hother hchain hotherChain hlength
      hdecides hotherDecides
    have hotherClient := client_applyProxyHeaders (by rw [hpeer]; exact htrusted) hother
    rw [forwardedClient_eq _ hhops, hpeer,
      (clientOf_last_iff other.headers _ scope.client).mpr hotherDecides, hotherChain,
      clientOf, fromRight_append_of_le hlength] at hotherClient
    rw [(clientOf_last_iff scope.headers _ scope.client).mpr hdecides, hchain, clientOf,
      fromRight_append_of_le hlength] at hclient
    exact hotherClient.trans hclient.symm

/-- A request that a proxy has passed on, with these lines. -/
def passedOn (lines : List Bytes) : Scope where
  httpVersion := .http11
  method := "GET"
  rawPath := ascii "/"
  queryString := []
  rootPath := ""
  scheme := "http"
  server := ("server", 80)
  client := ("proxy", 1)
  headers := lines.map fun line => (ascii "x-forwarded-for", line)

/-- The proxy is trusted, with those behind it. -/
def behindProxies (hops : ℕ) : ServerConfig where
  trustedHosts := ["proxy"]
  forwardedForTrustedHops := hops

theorem forwarded_client_appended :
    ∃ result,
      applyProxyHeaders (behindProxies 1) (passedOn [ascii "evil, 203.0.113.9"]) = .ok result ∧
        (result.client = clientOf (forwardedChain [(ascii "x-forwarded-for",
            ascii "evil, 203.0.113.9")]) 1 ("proxy", 1) ↔
          LastLineDecides [(ascii "x-forwarded-for", ascii "evil, 203.0.113.9")] 1 ("proxy", 1)) := by
  refine ⟨_, rfl, ?_⟩
  exact (forwarded_client_iff (behindProxies 1) (passedOn [ascii "evil, 203.0.113.9"]) _
    (le_refl 1) (by decide) rfl).1

/-- The count does not go on into the line before. -/
theorem forwarded_client_two_lines :
    ¬ ∀ (config : ServerConfig) (scope result : Scope), 1 ≤ config.forwardedForTrustedHops →
      trusts config.trustedHosts scope.client.1 = true →
      applyProxyHeaders config scope = .ok result →
        result.client =
          clientOf (forwardedChain scope.headers) config.forwardedForTrustedHops scope.client := by
  intro hall
  have hclient := hall (behindProxies 2) (passedOn [ascii "203.0.113.9", ascii "10.0.0.1"]) _
    (by decide) (by decide) rfl
  exact absurd hclient (by decide)

end Pounce.Asgi
