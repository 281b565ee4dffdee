/-
# The Host an application reads

Requests name their host twice: in `:authority` and in a Host header. The readers for HTTP/2
and HTTP/3 compare the two, but of several Host headers only the last one. So a list with
two of them is accepted, and the application finds both, possibly different ones; the parser
for HTTP/1.1 refuses such a request. With at most one Host header the application reads one
Host, and it is the one the client sent as `:authority` (`host_agrees_iff`), unless a trusted
proxy has forwarded another.

A pass over a header list keeps the last value of each name it looks for. `lastValue` is
that, and the first part shows that the two readers find nothing else.
-/

import Mathlib.Data.List.Nodup
import Pounce.Asgi.Scope

namespace Pounce.Asgi

open Pounce.Math Pounce.Math.Bytes
open Pounce.SyncWorker (PyError splitHostPort)
open Pounce.H2 (HeaderScan scanHeader readRequest isPseudo effectiveAuthority contradicts)

/-! ## Names -/

@[simp]
theorem isPseudo_lower (name : Bytes) : isPseudo (lower name) = isPseudo name := by
  cases name with
  | nil => rfl
  | cons byte rest => simp [isPseudo, lower, lowerByte_eq_iff (show (58 : UInt8) < 65 by decide)]

/-- The header list with its names in lower case. -/
def lowered (headers : List Header) : List Header :=
  headers.map fun header => (lower header.1, header.2)

/-- The names of the pseudo-headers in the list. -/
def pseudoNames (headers : List Header) : List Bytes := (headers.map (·.1)).filter isPseudo

/-- The headers that are no pseudo-headers. -/
def regular (headers : List Header) : List Header := headers.filter fun header => !isPseudo header.1

/-- The values of the Host headers. -/
def hostValues (headers : List Header) : List Bytes := fieldValues (ascii "host") headers

/-- A Host header is no pseudo-header. -/
theorem not_isPseudo_of_host {name : Bytes} (hhost : lower name = ascii "host") :
    isPseudo name = false := by
  rw [← isPseudo_lower, hhost]
  rfl

theorem hostValues_cons (header : Header) (headers : List Header) :
    hostValues (header :: headers) =
      if lower header.1 = ascii "host" then header.2 :: hostValues headers
      else hostValues headers := by
  simp only [hostValues, fieldValues, fields, List.filter_cons, decide_eq_true_eq]
  split <;> rfl

theorem hostValues_append (headers : List Header) (header : Header) :
    hostValues (headers ++ [header]) =
      hostValues headers ++ if lower header.1 = ascii "host" then [header.2] else [] := by
  rw [hostValues, fieldValues_append]
  exact congrArg _ (hostValues_cons header [])

theorem regular_append (headers : List Header) (header : Header) :
    regular (headers ++ [header]) =
      regular headers ++ if isPseudo header.1 then [] else [header] := by
  rw [regular, List.filter_append]
  cases hpseudo : isPseudo header.1 <;> simp [regular, hpseudo]

@[simp]
theorem hostValues_lowered (headers : List Header) :
    hostValues (lowered headers) = hostValues headers := by
  induction headers with
  | nil => rfl
  | cons header headers ih =>
      rw [hostValues_cons, ← ih]
      exact (hostValues_cons ..).trans (by rw [lower_lower]; rfl)

@[simp]
theorem hostValues_regular (headers : List Header) :
    hostValues (regular headers) = hostValues headers := by
  induction headers with
  | nil => rfl
  | cons header headers ih =>
      rw [hostValues_cons, ← ih, regular, List.filter_cons]
      cases hpseudo : isPseudo header.1 with
      | true =>
          rw [if_neg, if_neg]
          · rfl
          · intro hhost
            rw [not_isPseudo_of_host hhost] at hpseudo
            cases hpseudo
          · simp
      | false =>
          rw [Bool.not_false, if_pos rfl, hostValues_cons]
          rfl

/-! ## What the passes find -/

@[simp]
theorem lastValue_append (name : Bytes) (headers : List Header) (header : Header) :
    lastValue name (headers ++ [header]) =
      if header.1 = name then some header.2 else lastValue name headers := by
  rw [lastValue, List.foldl_append]
  rfl

section Record

variable (scan : HeaderScan) (header : Header)

/-- The values of the pseudo-headers are noted, each by its name. -/
theorem record_fields :
    (scan.record header).method =
        (if header.1 = ascii ":method" then some header.2 else scan.method) ∧
      (scan.record header).target =
        (if header.1 = ascii ":path" then some header.2 else scan.target) ∧
      (scan.record header).scheme =
        (if header.1 = ascii ":scheme" then some header.2 else scan.scheme) ∧
      (scan.record header).authority =
        if header.1 = ascii ":authority" then some header.2 else scan.authority := by
  obtain ⟨name, value⟩ := header
  refine ⟨?_, ?_, ?_, ?_⟩
  all_goals
    split
    case isTrue hname =>
      change name = _ at hname
      subst hname
      rfl
    case isFalse hname =>
      simp only [HeaderScan.record, hname, if_false]
      (repeat' split) <;> rfl

/-- A header that is no pseudo-header is kept, and only a Host header is noted as one. -/
theorem record_regular (hpseudo : isPseudo header.1 = false) :
    (scan.record header).headers = scan.headers ++ [header] ∧
      (scan.record header).host =
        if lower header.1 = ascii "host" then some header.2 else scan.host := by
  obtain ⟨name, value⟩ := header
  have hname : ∀ pseudo, isPseudo pseudo = true → name ≠ pseudo := by
    rintro pseudo htrue rfl
    cases hpseudo.symm.trans htrue
  change isPseudo name = false at hpseudo
  simp [HeaderScan.record, hpseudo, hname (ascii ":method") rfl, hname (ascii ":path") rfl,
    hname (ascii ":authority") rfl, hname (ascii ":scheme") rfl, hname (ascii ":protocol") rfl]

theorem record_pseudo (hpseudo : isPseudo header.1 = true) :
    (scan.record header).headers = scan.headers ∧ (scan.record header).host = scan.host := by
  obtain ⟨name, value⟩ := header
  change isPseudo name = true at hpseudo
  simp only [HeaderScan.record, hpseudo, if_true]
  (repeat' split) <;> exact ⟨rfl, rfl⟩

theorem record_seen : (scan.record header).seenPseudoHeaders =
    if isPseudo header.1 then header.1 :: scan.seenPseudoHeaders else scan.seenPseudoHeaders := by
  simp only [HeaderScan.record]
  cases isPseudo header.1 <;> (repeat' split) <;> rfl

end Record

/-- What the pass over a header list has found in the end. -/
theorem foldl_record (headers : List Header) :
    let found := headers.foldl HeaderScan.record {}
    found.method = lastValue (ascii ":method") headers ∧
      found.target = lastValue (ascii ":path") headers ∧
      found.scheme = lastValue (ascii ":scheme") headers ∧
      found.authority = lastValue (ascii ":authority") headers ∧
      found.host = (hostValues headers).getLast? ∧
      found.headers = regular headers := by
  induction headers using List.reverseRecOn with
  | nil => exact ⟨rfl, rfl, rfl, rfl, rfl, rfl⟩
  | append_singleton headers header ih =>
      obtain ⟨hmethod, htarget, hscheme, hauthority, hhost, hheaders⟩ := ih
      simp only [List.foldl_append, List.foldl_cons, List.foldl_nil, lastValue_append]
      obtain ⟨hm, ht, hs, ha⟩ := record_fields (headers.foldl HeaderScan.record {}) header
      refine ⟨by rw [hm, hmethod], by rw [ht, htarget], by rw [hs, hscheme], by rw [ha, hauthority],
        ?_⟩
      rw [hostValues_append, regular_append]
      cases hpseudo : isPseudo header.1 with
      | true =>
          have hne : lower header.1 ≠ ascii "host" := by
            intro hname
            cases (not_isPseudo_of_host hname).symm.trans hpseudo
          obtain ⟨hkept, hsame⟩ :=
            record_pseudo (headers.foldl HeaderScan.record {}) header hpseudo
          simp [hkept, hsame, hhost, hheaders, hne]
      | false =>
          obtain ⟨hkept, hnoted⟩ :=
            record_regular (headers.foldl HeaderScan.record {}) header hpseudo
          rw [hkept, hnoted, hheaders, hhost]
          split <;> simp

theorem pseudoNames_append (headers : List Header) (header : Header) :
    pseudoNames (headers ++ [header]) =
      pseudoNames headers ++ if isPseudo header.1 then [header.1] else [] := by
  simp only [pseudoNames, List.map_append, List.filter_append]
  cases hpseudo : isPseudo header.1 <;> simp [hpseudo]

/-- The pass has seen the pseudo-headers there are. -/
theorem foldl_record_seen (headers : List Header) :
    (headers.foldl HeaderScan.record {}).seenPseudoHeaders = (pseudoNames headers).reverse := by
  induction headers using List.reverseRecOn with
  | nil => rfl
  | append_singleton headers header ih =>
      rw [List.foldl_append, List.foldl_cons, List.foldl_nil, record_seen, ih, pseudoNames_append]
      split <;> simp

/-- A further pseudo-header must be a new one. -/
theorem nodup_pseudoNames_append (headers : List Header) (header : Header) :
    (pseudoNames (headers ++ [header])).Nodup ↔
      (pseudoNames headers).Nodup ∧
        ¬ (isPseudo header.1 = true ∧ header.1 ∈ pseudoNames headers) := by
  rw [pseudoNames_append]
  split
  case isTrue hpseudo =>
    rw [← List.concat_eq_append, List.nodup_concat, and_comm]
    simp [hpseudo]
  case isFalse hpseudo => simp [hpseudo]

/-- The pass for HTTP/2 goes to the end unless a pseudo-header is repeated. -/
theorem foldlM_scanHeader (headers : List Header) :
    headers.foldlM scanHeader {} =
      if (pseudoNames headers).Nodup then some (headers.foldl HeaderScan.record {}) else none := by
  induction headers using List.reverseRecOn with
  | nil => rfl
  | append_singleton headers header ih =>
      rw [List.foldlM_append, ih]
      simp only [nodup_pseudoNames_append, List.foldl_append, List.foldl_cons, List.foldl_nil]
      by_cases hnodup : (pseudoNames headers).Nodup
      case neg => simp [hnodup]
      case pos =>
        simp only [hnodup, if_true, true_and, ite_not]
        change scanHeader _ _ >>= pure = _
        rw [bind_pure, scanHeader, foldl_record_seen]
        simp only [List.mem_reverse]

/-- The pseudo-headers of an HTTP/3 request are known and not repeated. -/
def KnownPseudoHeaders (headers : List Header) : Prop :=
  (pseudoNames headers).Nodup ∧ ∀ name ∈ pseudoNames headers, name ∈ h3PseudoHeaders

instance (headers : List Header) : Decidable (KnownPseudoHeaders headers) :=
  inferInstanceAs (Decidable (_ ∧ _))

theorem knownPseudoHeaders_append (headers : List Header) (header : Header) :
    KnownPseudoHeaders (headers ++ [header]) ↔
      KnownPseudoHeaders headers ∧
        ¬ (isPseudo header.1 = true ∧ header.1 ∈ pseudoNames headers) ∧
        ¬ (isPseudo header.1 = true ∧ header.1 ∉ h3PseudoHeaders) := by
  have hknown : (∀ name ∈ pseudoNames (headers ++ [header]), name ∈ h3PseudoHeaders) ↔
      (∀ name ∈ pseudoNames headers, name ∈ h3PseudoHeaders) ∧
        ¬ (isPseudo header.1 = true ∧ header.1 ∉ h3PseudoHeaders) := by
    rw [pseudoNames_append, List.forall_mem_append]
    cases hpseudo : isPseudo header.1 <;> simp
  rw [KnownPseudoHeaders, nodup_pseudoNames_append, hknown, KnownPseudoHeaders]
  exact and_and_and_comm

/-- The pass for HTTP/3 goes to the end if the pseudo-headers are known and not repeated. -/
theorem foldlM_scanH3Header (headers : List Header) :
    if KnownPseudoHeaders (lowered headers) then
      headers.foldlM scanH3Header {} = .ok ((lowered headers).foldl HeaderScan.record {})
    else ∃ message, headers.foldlM scanH3Header {} = .error (.pseudoHeader message) := by
  induction headers using List.reverseRecOn with
  | nil =>
      rw [if_pos (by simp [KnownPseudoHeaders, pseudoNames, lowered])]
      rfl
  | append_singleton headers header ih =>
      have hlowered : lowered (headers ++ [header]) =
          lowered headers ++ [(lower header.1, header.2)] := List.map_append
      rw [List.foldlM_append, hlowered, List.foldl_append]
      simp only [knownPseudoHeaders_append]
      by_cases hknown : KnownPseudoHeaders (lowered headers)
      case neg =>
        rw [if_neg hknown] at ih
        obtain ⟨message, hmessage⟩ := ih
        rw [if_neg fun hboth => hknown hboth.1, hmessage]
        exact ⟨message, rfl⟩
      case pos =>
        rw [if_pos hknown] at ih
        rw [ih]
        change ite _ (scanH3Header _ header >>= pure = _) (∃ _, scanH3Header _ header >>= pure = _)
        rw [bind_pure, scanH3Header, foldl_record_seen]
        simp only [hknown, true_and, List.mem_reverse]
        by_cases hseen : isPseudo (lower header.1) = true ∧
            lower header.1 ∈ pseudoNames (lowered headers)
        case pos =>
          rw [if_neg fun hboth => hboth.1 hseen, if_pos hseen]
          exact ⟨_, rfl⟩
        case neg =>
          rw [if_neg hseen]
          by_cases hunknown : isPseudo (lower header.1) = true ∧
              lower header.1 ∉ h3PseudoHeaders
          case pos =>
            rw [if_neg fun hboth => hboth.2 hunknown, if_pos hunknown]
            exact ⟨_, rfl⟩
          case neg =>
            rw [if_pos ⟨hseen, hunknown⟩, if_neg hunknown]
            rfl

/-! ## What is accepted -/

/-- The list has what a request needs, and does not contradict itself. -/
structure WellFormed (headers : List Header) : Prop where
  nodup : (pseudoNames headers).Nodup
  method : (lastValue (ascii ":method") headers).isSome
  path : (lastValue (ascii ":path") headers).isSome
  scheme : (lastValue (ascii ":scheme") headers).isSome
  authority :
    (effectiveAuthority (lastValue (ascii ":authority") headers) (hostValues headers).getLast?).isSome
  consistent :
    contradicts (lastValue (ascii ":authority") headers) (hostValues headers).getLast? = false

/-- The headers of the request: the list without its pseudo-headers, but with a Host. -/
def acceptedHeaders (headers : List Header) (authority : Bytes) : List Header :=
  if (hostValues headers).getLast?.isNone then (ascii "host", authority) :: regular headers
  else regular headers

/-- The authority a list of headers names. -/
def authorityOf (headers : List Header) : Option Bytes :=
  effectiveAuthority (lastValue (ascii ":authority") headers) (hostValues headers).getLast?

/-- HTTP/2 accepts the lists that are well-formed. -/
theorem readRequest_eq (headers : List Header) :
    (WellFormed headers → ∃ request protocol, readRequest headers = some (request, protocol)) ∧
      ∀ request protocol, readRequest headers = some (request, protocol) →
        WellFormed headers ∧ lastValue (ascii ":method") headers = some request.method ∧
          ∃ authority, authorityOf headers = some authority ∧
            request.headers = acceptedHeaders headers authority := by
  obtain ⟨hmethod, htarget, hscheme, hauthority, hhost, hheaders⟩ := foldl_record headers
  have hread : readRequest headers = (if (pseudoNames headers).Nodup then
      some (headers.foldl HeaderScan.record {}) else none) >>= _ :=
    congrArg (· >>= _) (foldlM_scanHeader headers)
  constructor
  · intro hwell
    obtain ⟨method, hm⟩ := Option.isSome_iff_exists.mp hwell.method
    obtain ⟨target, ht⟩ := Option.isSome_iff_exists.mp hwell.path
    obtain ⟨scheme, hs⟩ := Option.isSome_iff_exists.mp hwell.scheme
    obtain ⟨authority, ha⟩ := Option.isSome_iff_exists.mp hwell.authority
    rw [hread, if_pos hwell.nodup]
    simp only [Option.bind_eq_bind, Option.bind_some, hmethod, htarget, hscheme, hauthority, hhost,
      hwell.consistent, hm, ht, hs, ha]
    exact ⟨_, _, rfl⟩
  · intro request protocol hrequest
    rw [hread] at hrequest
    split at hrequest
    case isFalse => cases hrequest
    case isTrue hnodup =>
      simp only [Option.bind_eq_bind, Option.bind_some, hmethod, htarget, hscheme, hauthority,
        hhost] at hrequest
      split at hrequest
      case isTrue => cases hrequest
      case isFalse hconsistent =>
        split at hrequest
        case h_2 => cases hrequest
        case h_1 method target scheme authority hm ht hs ha =>
          obtain ⟨rfl, -⟩ := Prod.mk.inj (Option.some.inj hrequest)
          refine ⟨⟨hnodup, Option.isSome_of_eq_some hm, Option.isSome_of_eq_some ht,
            Option.isSome_of_eq_some hs, Option.isSome_of_eq_some ha,
            Bool.eq_false_iff.mpr hconsistent⟩, hm, authority, ha, ?_⟩
          simp only [acceptedHeaders, hheaders]

/-- HTTP/3 accepts the lists that are well-formed and have no pseudo-headers of their own. -/
theorem readH3Scope_eq (config : ServerConfig) (client server : String × ℕ)
    (headers : List Header) :
    (WellFormed (lowered headers) ∧ KnownPseudoHeaders (lowered headers) →
        ∃ scope, readH3Scope config client server headers = .ok scope) ∧
      ∀ scope, readH3Scope config client server headers = .ok scope →
        WellFormed (lowered headers) ∧ KnownPseudoHeaders (lowered headers) ∧
          scope.client = client ∧ scope.server = server ∧
          ∃ authority, authorityOf (lowered headers) = some authority ∧
            scope.headers = acceptedHeaders (lowered headers) authority := by
  obtain ⟨hmethod, htarget, hscheme, hauthority, hhost, hheaders⟩ :=
    foldl_record (lowered headers)
  have hscan := foldlM_scanH3Header headers
  constructor
  · rintro ⟨hwell, hknown⟩
    obtain ⟨method, hm⟩ := Option.isSome_iff_exists.mp hwell.method
    obtain ⟨target, ht⟩ := Option.isSome_iff_exists.mp hwell.path
    obtain ⟨scheme, hs⟩ := Option.isSome_iff_exists.mp hwell.scheme
    obtain ⟨authority, ha⟩ := Option.isSome_iff_exists.mp hwell.authority
    rw [if_pos hknown] at hscan
    simp only [readH3Scope, hscan, bind, Except.bind, hmethod, htarget, hscheme,
      hauthority, hhost, hwell.consistent, hm, ht, hs, ha]
    exact ⟨_, rfl⟩
  · intro scope hscope
    by_cases hknown : KnownPseudoHeaders (lowered headers)
    case neg =>
      rw [if_neg hknown] at hscan
      obtain ⟨message, hmessage⟩ := hscan
      rw [readH3Scope, hmessage] at hscope
      cases hscope
    case pos =>
      rw [if_pos hknown] at hscan
      simp only [readH3Scope, hscan, bind, Except.bind, hmethod, htarget, hscheme,
        hauthority, hhost] at hscope
      split at hscope
      case isTrue => cases hscope
      case isFalse hconsistent =>
        split at hscope
        case h_2 => cases hscope
        case h_1 method target scheme authority hm ht hs ha =>
          obtain rfl := Except.ok.inj hscope
          refine ⟨⟨hknown.1, Option.isSome_of_eq_some hm, Option.isSome_of_eq_some ht,
            Option.isSome_of_eq_some hs, Option.isSome_of_eq_some ha,
            Bool.eq_false_iff.mpr hconsistent⟩, hknown, rfl, rfl, authority, ha, ?_⟩
          simp only [acceptedHeaders, hheaders]

/-! ## What the application reads -/

/-- A request that names no Host gets one from its authority. -/
theorem hostValues_acceptedHeaders (headers : List Header) (authority : Bytes) :
    hostValues (acceptedHeaders headers authority) =
      if hostValues headers = [] then [authority] else hostValues headers := by
  rw [acceptedHeaders]
  by_cases hnone : hostValues headers = []
  case pos =>
    rw [if_pos (by rw [hnone]; rfl), if_pos hnone, hostValues_cons, hostValues_regular, hnone]
    rfl
  case neg =>
    rw [if_neg (by simpa using hnone), if_neg hnone, hostValues_regular]

/-- The forwarding headers of a request are those of its list. -/
theorem lastValue_acceptedHeaders {name : Bytes} (hpseudo : isPseudo name = false)
    (hhost : name ≠ ascii "host") (headers : List Header) (authority : Bytes) :
    lastValue name (acceptedHeaders headers authority) = lastValue name headers := by
  have hregular : lastValue name (regular headers) = lastValue name headers := by
    induction headers using List.reverseRecOn with
    | nil => rfl
    | append_singleton headers header ih =>
        rw [regular_append, lastValue_append, ← ih]
        cases hheader : isPseudo header.1 with
        | true =>
            have hne : header.1 ≠ name := by
              rintro rfl
              cases hpseudo.symm.trans hheader
            simp [hne]
        | false => simp
  rw [acceptedHeaders]
  split
  case isTrue =>
    rw [lastValue, List.foldl_cons, if_neg (Ne.symm hhost)]
    exact hregular
  case isFalse => exact hregular

theorem lowered_acceptedHeaders (headers : List Header) (authority : Bytes) :
    lowered (acceptedHeaders headers authority) = acceptedHeaders (lowered headers) authority := by
  have hregular : lowered (regular headers) = regular (lowered headers) := by
    simp only [lowered, regular, List.filter_map]
    congr 1
    apply List.filter_congr
    intro header _
    simp
  rw [acceptedHeaders, acceptedHeaders, hostValues_lowered, ← hregular]
  split <;> rfl

/-- A forwarding header is no Host header. -/
theorem lower_ne_host_of_isForwarded {name : Bytes} (hforwarded : isForwarded name = true) :
    lower name ≠ ascii "host" := by
  obtain ⟨rest, rfl⟩ := List.isPrefixOf_iff_prefix.mp hforwarded
  intro heq
  rw [lower, List.map_append] at heq
  cases heq

/-- Removing the forwarding headers leaves Host alone. -/
theorem hostValues_stripForwardedHeaders (headers : List Header) :
    hostValues (stripForwardedHeaders headers) = hostValues headers := by
  induction headers using List.reverseRecOn with
  | nil => rfl
  | append_singleton headers header ih =>
      rw [stripForwardedHeaders, List.filter_append, hostValues_append, ← ih]
      cases hforwarded : isForwarded header.1 with
      | true =>
          rw [if_neg (lower_ne_host_of_isForwarded hforwarded)]
          simp [hforwarded, stripForwardedHeaders]
      | false =>
          rw [List.filter_cons_of_pos (by simp [hforwarded]), List.filter_nil, hostValues_append]
          rfl

/-- Dropping all Host headers leaves none. -/
theorem hostValues_dropHeader {headers : List Header}
    (hlower : ∀ header ∈ headers, lower header.1 = header.1) :
    hostValues (dropHeader (ascii "host") headers) = [] := by
  rw [hostValues, fieldValues, List.map_eq_nil_iff, fields, List.filter_eq_nil_iff]
  intro header hmem
  obtain ⟨hold, hne⟩ := List.mem_filter.mp hmem
  rw [hlower header hold]
  simpa using hne

/-- Replacing Host leaves the new one only. -/
theorem hostValues_replaceHeader {headers : List Header} (host : Bytes)
    (hlower : ∀ header ∈ headers, lower header.1 = header.1) :
    hostValues (replaceHeader (ascii "host") host headers) = [host] := by
  induction headers with
  | nil => rfl
  | cons header headers ih =>
      have hrest : ∀ other ∈ headers, lower other.1 = other.1 := fun other hmem =>
        hlower other (List.mem_cons_of_mem _ hmem)
      rw [replaceHeader]
      split
      case isTrue =>
        rw [hostValues_cons, hostValues_dropHeader hrest]
        rfl
      case isFalse hne =>
        rw [hostValues_cons, hlower header (List.mem_cons_self ..), if_neg hne]
        exact ih hrest

/-- The host a trusted proxy has forwarded. -/
def trustedHost (config : ServerConfig) (client : String × ℕ) (headers : List Header) :
    Option Bytes :=
  if trusts config.trustedHosts client.1 then forwardedHost headers else none

/-- The forwarding headers are applied unless the port of the forwarded host is no number, and
the Host is then the forwarded one, or what it was. -/
theorem applyProxyHeaders_eq (config : ServerConfig) {scope : Scope}
    (hlower : ∀ header ∈ scope.headers, lower header.1 = header.1) :
    match trustedHost config scope.client scope.headers with
    | none => ∃ next, applyProxyHeaders config scope = .ok next ∧
        hostValues next.headers = hostValues scope.headers
    | some host => ((splitHostPort host scope.server.2).isOk = true →
          ∃ next, applyProxyHeaders config scope = .ok next) ∧
        ∀ next, applyProxyHeaders config scope = .ok next →
          (splitHostPort host scope.server.2).isOk = true ∧ hostValues next.headers = [host] := by
  rw [trustedHost, applyProxyHeaders]
  cases htrusted : trusts config.trustedHosts scope.client.1 with
  | false => exact ⟨_, rfl, hostValues_stripForwardedHeaders _⟩
  | true =>
      simp only [if_true]
      cases hhost : forwardedHost scope.headers with
      | none => exact ⟨_, rfl, rfl⟩
      | some host =>
          cases hsplit : splitHostPort host scope.server.2 with
          | error error =>
              constructor
              · intro hok
                rw [hsplit] at hok
                cases hok
              · intro next hnext
                simp only [hsplit] at hnext
                cases hnext
          | ok pair =>
              simp only [hsplit]
              refine ⟨fun _ => ⟨_, rfl⟩, ?_⟩
              intro next hnext
              obtain rfl := Except.ok.inj hnext
              exact ⟨rfl, hostValues_replaceHeader host hlower⟩

/-! ## Agreement -/

/-- A list accepted as a request has at most one Host header, which is the authority if one
was sent, and in any scope built from it the application reads one Host, and the same. -/
structure HostAgrees (headers : List Header) (scopes : Scope → Prop) : Prop where
  single : (hostValues headers).length ≤ 1
  same : ∀ sent, lastValue (ascii ":authority") headers = some sent →
    ∀ host ∈ hostValues headers, host = sent
  read : ∀ scope, scopes scope → ∃ host, hostValues scope.headers = [host] ∧
    ∀ sent, lastValue (ascii ":authority") headers = some sent → host = sent

/-- A Host that a trusted proxy has forwarded is the authority, if one was sent. -/
def HostKept (config : ServerConfig) (client server : String × ℕ) (headers : List Header) : Prop :=
  ∀ sent forwarded, lastValue (ascii ":authority") headers = some sent →
    trustedHost config client (lowered headers) = some forwarded →
    (splitHostPort forwarded server.2).isOk = true → forwarded = sent

/-- The scope of a request, before the forwarding headers are applied. -/
structure Reads (headers : List Header) (client server : String × ℕ) (scope : Scope) : Prop where
  lower : ∀ header ∈ scope.headers, lower header.1 = header.1
  client : scope.client = client
  server : scope.server = server
  hosts : ∃ authority, authorityOf headers = some authority ∧
    hostValues scope.headers = if hostValues headers = [] then [authority] else hostValues headers
  forwarded : forwardedHost scope.headers = forwardedHost (lowered headers)

/-- A single Host header is the authority that was sent. -/
theorem WellFormed.same {headers : List Header} (hwell : WellFormed headers)
    (hsingle : (hostValues headers).length ≤ 1) {sent : Bytes}
    (hsent : lastValue (ascii ":authority") headers = some sent) :
    ∀ host ∈ hostValues headers, host = sent := by
  intro host hhost
  have hconsistent := hwell.consistent
  cases hvalues : hostValues headers with
  | nil =>
      rw [hvalues] at hhost
      cases hhost
  | cons first rest =>
      rw [hvalues] at hsingle hhost
      obtain rfl : rest = [] := by simpa using hsingle
      obtain rfl := List.mem_singleton.mp hhost
      rw [hsent, hvalues] at hconsistent
      have heq : sent = host := by simpa [contradicts] using hconsistent
      exact heq.symm

/-- With at most one Host header, the one that is read is the authority that was sent. -/
theorem Reads.single {headers : List Header} {client server : String × ℕ} {scope : Scope}
    (hreads : Reads headers client server scope) (hwell : WellFormed headers)
    (hsingle : (hostValues headers).length ≤ 1) :
    ∃ host, hostValues scope.headers = [host] ∧
      ∀ sent, lastValue (ascii ":authority") headers = some sent → host = sent := by
  obtain ⟨authority, hauthority, hhosts⟩ := hreads.hosts
  have hsame : ∀ sent, lastValue (ascii ":authority") headers = some sent →
      ∀ host ∈ hostValues headers, host = sent := fun _ hsent => hwell.same hsingle hsent
  rw [authorityOf] at hauthority
  rw [hhosts]
  cases hvalues : hostValues headers with
  | nil =>
      rw [hvalues] at hauthority
      refine ⟨authority, if_pos rfl, ?_⟩
      intro sent hsent
      rw [hsent, effectiveAuthority, List.getLast?_nil, Option.or_none,
        Option.filter_eq_some_iff] at hauthority
      exact (Option.some.inj hauthority.1).symm
  | cons host rest =>
      rw [hvalues] at hsingle hsame
      obtain rfl : rest = [] := by simpa using hsingle
      refine ⟨host, if_neg (by simp), ?_⟩
      intro sent hsent
      exact hsame sent hsent host (List.mem_singleton_self host)

/-- The scopes of a request agree with it on the host if it has at most one Host header and a
trusted proxy forwards no other. -/
theorem Reads.agrees_iff {config : ServerConfig} {headers : List Header}
    {client server : String × ℕ} {scope : Scope} (hreads : Reads headers client server scope)
    (hwell : WellFormed headers) :
    HostAgrees headers (fun next => applyProxyHeaders config scope = .ok next) ↔
      (hostValues headers).length ≤ 1 ∧ HostKept config client server headers := by
  have happly := applyProxyHeaders_eq config hreads.lower
  have htrusted : trustedHost config scope.client scope.headers =
      trustedHost config client (lowered headers) := by
    rw [trustedHost, trustedHost, hreads.client, hreads.forwarded]
  rw [htrusted] at happly
  constructor
  · intro hagrees
    refine ⟨hagrees.single, ?_⟩
    intro sent forwarded hsent hforwarded hok
    rw [hforwarded, hreads.server] at happly
    obtain ⟨next, hnext⟩ := happly.1 hok
    obtain ⟨host, hhost, hsame⟩ := hagrees.read next hnext
    rw [(happly.2 next hnext).2] at hhost
    rw [List.cons.inj hhost |>.1]
    exact hsame sent hsent
  · rintro ⟨hsingle, hkept⟩
    obtain ⟨host, hhost, hread⟩ := hreads.single hwell hsingle
    refine ⟨hsingle, fun sent hsent => hwell.same hsingle hsent, ?_⟩
    intro next hnext
    cases hforwarded : trustedHost config client (lowered headers) with
    | none =>
        rw [hforwarded] at happly
        obtain ⟨other, hother, hhosts⟩ := happly
        obtain rfl := Except.ok.inj (hother.symm.trans hnext)
        exact ⟨host, hhosts.trans hhost, hread⟩
    | some forwarded =>
        rw [hforwarded, hreads.server] at happly
        obtain ⟨hok, hhosts⟩ := happly.2 next hnext
        exact ⟨forwarded, hhosts, fun sent hsent => hkept sent forwarded hsent hforwarded hok⟩

theorem lower_lowered (headers : List Header) :
    ∀ header ∈ lowered headers, lower header.1 = header.1 := by
  intro header hmem
  obtain ⟨original, -, rfl⟩ := List.mem_map.mp hmem
  exact lower_lower _

theorem forwardedHost_acceptedHeaders (headers : List Header) (authority : Bytes) :
    forwardedHost (acceptedHeaders headers authority) = forwardedHost headers := by
  rw [forwardedHost, lastValue_acceptedHeaders (by decide) (by decide)]
  rfl

/-- A base scope for HTTP/2 or WebSocket reads its request. -/
theorem reads_buildBaseScope {headers : List Header} {request : RequestReceived}
    {authority : Bytes} {httpVersion : HttpVersion} {scheme rootPath : String}
    {client server : String × ℕ} {scope : Scope} (hauthority : authorityOf headers = some authority)
    (hheaders : request.headers = acceptedHeaders headers authority)
    (hscope : buildBaseScope request httpVersion scheme server client rootPath = .ok scope) :
    Reads headers client server scope := by
  rw [buildBaseScope] at hscope
  cases hmethod : decodeAscii request.method with
  | error error =>
      rw [hmethod] at hscope
      cases hscope
  | ok method =>
      rw [hmethod] at hscope
      obtain rfl := Except.ok.inj hscope
      constructor
      case lower => exact lower_lowered request.headers
      case client => rfl
      case server => rfl
      case hosts =>
        refine ⟨authority, hauthority, ?_⟩
        rw [← hostValues_acceptedHeaders, ← hheaders]
        exact hostValues_lowered request.headers
      case forwarded =>
        change forwardedHost (lowered request.headers) = _
        rw [hheaders, lowered_acceptedHeaders, forwardedHost_acceptedHeaders]

/-- A scope for HTTP/3 reads its list. -/
theorem reads_readH3Scope {config : ServerConfig} {headers : List Header}
    {client server : String × ℕ} {scope : Scope}
    (hscope : readH3Scope config client server headers = .ok scope) :
    Reads (lowered headers) client server scope := by
  obtain ⟨-, -, hclient, hserver, authority, hauthority, hheaders⟩ :=
    (readH3Scope_eq config client server headers).2 scope hscope
  have hlower : lowered (lowered headers) = lowered headers := by
    simp [lowered]
  constructor
  case lower =>
    have hall := lower_lowered (acceptedHeaders headers authority)
    rw [lowered_acceptedHeaders, ← hheaders] at hall
    exact hall
  case client => exact hclient
  case server => exact hserver
  case hosts => exact ⟨authority, hauthority, by rw [hheaders, hostValues_acceptedHeaders]⟩
  case forwarded => rw [hheaders, forwardedHost_acceptedHeaders, hlower]

/-- An HTTP/2 header list that is accepted gives the application the host it was accepted for,
in a scope for HTTP or for WebSocket. -/
def H2HostAgrees (config : ServerConfig) (client server : String × ℕ) (headers : List Header) :
    Prop :=
  ∀ request protocol, readRequest headers = some (request, protocol) →
    HostAgrees headers fun scope =>
      buildH2Scope config client server request = .ok scope ∨
        buildWsScope config client server request = .ok scope

/-- An HTTP/3 header list that is accepted gives the application the host it was accepted
for. -/
def H3HostAgrees (config : ServerConfig) (client server : String × ℕ) (headers : List Header) :
    Prop :=
  ∀ accepted, readH3Scope config client server headers = .ok accepted →
    HostAgrees (lowered headers) fun scope => buildH3Scope config client server headers = .ok scope

/-- The method of a request can be decoded. -/
def MethodDecodes (headers : List Header) : Prop :=
  ∀ method, lastValue (ascii ":method") headers = some method → (decodeAscii method).isOk = true

/-- A scope built from a request that was accepted agrees with its list on the host. -/
theorem agrees_buildBaseScope (config : ServerConfig) {headers : List Header}
    {request : RequestReceived} {authority : Bytes} (httpVersion : HttpVersion)
    (scheme rootPath : String) (client server : String × ℕ) (hwell : WellFormed headers)
    (hmethod : lastValue (ascii ":method") headers = some request.method)
    (hauthority : authorityOf headers = some authority)
    (hheaders : request.headers = acceptedHeaders headers authority) :
    HostAgrees headers (fun scope =>
        (buildBaseScope request httpVersion scheme server client rootPath >>=
          applyProxyHeaders config) = .ok scope) ↔
      (hostValues headers).length ≤ 1 ∧
        (MethodDecodes headers → HostKept config client server headers) := by
  cases hscope : buildBaseScope request httpVersion scheme server client rootPath with
  | ok base =>
      have hdecodes : MethodDecodes headers := by
        intro method hsent
        obtain rfl := Option.some.inj (hmethod.symm.trans hsent)
        cases hdecoded : decodeAscii request.method with
        | ok => rfl
        | error error =>
            rw [buildBaseScope, hdecoded] at hscope
            cases hscope
      rw [forall_prop_of_true hdecodes]
      exact (reads_buildBaseScope hauthority hheaders hscope).agrees_iff hwell
  | error error =>
      have hfails : ¬ MethodDecodes headers := by
        intro hdecodes
        have hdecoded := hdecodes request.method hmethod
        cases hresult : decodeAscii request.method with
        | ok method =>
            rw [buildBaseScope, hresult] at hscope
            cases hscope
        | error =>
            rw [hresult] at hdecoded
            cases hdecoded
      constructor
      · intro hagrees
        exact ⟨hagrees.single, fun hdecodes => absurd hdecodes hfails⟩
      · rintro ⟨hsingle, -⟩
        refine ⟨hsingle, fun sent hsent => hwell.same hsingle hsent, ?_⟩
        intro scope hraised
        cases hraised

/-- The application reads the host a list was accepted for exactly if the list has at most one
Host header and a trusted proxy forwards no other host, or it is not well-formed anyway. -/
theorem host_agrees_iff (config : ServerConfig) (client server : String × ℕ)
    (headers : List Header) :
    (H2HostAgrees config client server headers ↔
      (WellFormed headers → (hostValues headers).length ≤ 1 ∧
        (MethodDecodes headers → HostKept config client server headers))) ∧
    (H3HostAgrees config client server headers ↔
      (WellFormed (lowered headers) ∧ KnownPseudoHeaders (lowered headers) →
        (hostValues headers).length ≤ 1 ∧ HostKept config client server (lowered headers))) := by
  constructor
  case left =>
    obtain ⟨haccepted, hread⟩ := readRequest_eq headers
    have hagrees : ∀ request protocol, readRequest headers = some (request, protocol) →
        (HostAgrees headers (fun scope =>
            buildH2Scope config client server request = .ok scope ∨
              buildWsScope config client server request = .ok scope) ↔
          (hostValues headers).length ≤ 1 ∧
            (MethodDecodes headers → HostKept config client server headers)) := by
      intro request protocol hrequest
      obtain ⟨hwell, hmethod, authority, hauthority, hheaders⟩ := hread request protocol hrequest
      have hhttp := agrees_buildBaseScope config .http2 (if isTls config then "https" else "http")
        config.rootPath client server hwell hmethod hauthority hheaders
      have hws := agrees_buildBaseScope config request.httpVersion
        (if isTls config then "wss" else "ws") config.rootPath client server hwell hmethod
        hauthority hheaders
      constructor
      · intro hboth
        exact hhttp.mp ⟨hboth.single, hboth.same, fun scope hscope =>
          hboth.read scope (.inl hscope)⟩
      · intro hcondition
        have hfirst := hhttp.mpr hcondition
        refine ⟨hfirst.single, hfirst.same, ?_⟩
        rintro scope (hscope | hscope)
        · exact hfirst.read scope hscope
        · exact (hws.mpr hcondition).read scope hscope
    constructor
    · rintro hall hwell
      obtain ⟨request, protocol, hrequest⟩ := haccepted hwell
      exact (hagrees request protocol hrequest).mp (hall request protocol hrequest)
    · intro hcondition request protocol hrequest
      obtain ⟨hwell, -⟩ := hread request protocol hrequest
      exact (hagrees request protocol hrequest).mpr (hcondition hwell)
  case right =>
    obtain ⟨haccepted, hread⟩ := readH3Scope_eq config client server headers
    have hagrees : ∀ accepted, readH3Scope config client server headers = .ok accepted →
        (HostAgrees (lowered headers)
            (fun scope => buildH3Scope config client server headers = .ok scope) ↔
          (hostValues headers).length ≤ 1 ∧ HostKept config client server (lowered headers)) := by
      intro accepted hscope
      rw [← hostValues_lowered headers,
        ← (reads_readH3Scope hscope).agrees_iff (hread accepted hscope).1]
      have hbuild : ∀ scope, buildH3Scope config client server headers = .ok scope ↔
          applyProxyHeaders config accepted = .ok scope := by
        intro scope
        simp only [buildH3Scope, hscope, bind, Except.bind]
        cases applyProxyHeaders config accepted <;> simp [Except.mapError]
      simp only [hbuild]
    constructor
    · rintro hall hwell
      obtain ⟨accepted, hscope⟩ := haccepted hwell
      exact (hagrees accepted hscope).mp (hall accepted hscope)
    · intro hcondition accepted hscope
      obtain ⟨hwell, hknown, -⟩ := hread accepted hscope
      exact (hagrees accepted hscope).mpr (hcondition ⟨hwell, hknown⟩)

/-- A request with two Host headers, of which the last is its authority. -/
def twoHosts : List Header :=
  [(ascii ":method", ascii "GET"), (ascii ":scheme", ascii "https"), (ascii ":path", ascii "/"),
    (ascii ":authority", ascii "good"), (ascii "host", ascii "evil"), (ascii "host", ascii "good")]

theorem host_agrees_twoHosts :
    ¬ H2HostAgrees {} ("client", 1) ("server", 2) twoHosts ∧
      ¬ H3HostAgrees {} ("client", 1) ("server", 2) twoHosts := by
  constructor
  · intro hagrees
    have hsingle := (hagrees
      { method := ascii "GET", target := ascii "/", httpVersion := .http2
        headers := [(ascii "host", ascii "evil"), (ascii "host", ascii "good")] } []
      (by decide)).single
    exact absurd hsingle (by decide)
  · intro hagrees
    have hsingle := (hagrees
      { httpVersion := .http3, method := "GET", rawPath := ascii "/", queryString := []
        rootPath := "", scheme := "https", server := ("server", 2), client := ("client", 1)
        headers := [(ascii "host", ascii "evil"), (ascii "host", ascii "good")] }
      (by rfl)).single
    exact absurd hsingle (by decide)

end Pounce.Asgi
