/-
# The server of a forwarded request

A trusted proxy names the host that the client asked for in X-Forwarded-Host. The scope gets it
twice: as its Host header, and split into a host and a port as its server. The value is whatever
bytes arrive, so splitting it must not raise, and the two must agree.

They do where the port is a number for `int` within the range of ports (`forwarded_host_iff`).
`str.isdigit` lets superscripts through, on which `int` raises, and the range is not looked at. A
colon with no port after it stays part of the host.
-/

import Pounce.Asgi.Host
import Pounce.SyncWorker.Handlers

namespace Pounce.Asgi

open Pounce.Math Pounce.Math.Bytes
open Pounce.SyncWorker (PyError splitHost splitHostPort isDigitText readInt_isDigitText
  isDigitText_splitHost)

/-! ## What a value denotes -/

/-- The part of a value behind its host. -/
inductive PortPart : Bytes → Option ℕ → Prop
  | absent : PortPart [] none
  | empty : PortPart [58] none
  | number {digits : Bytes} {port : ℕ} (hdecimal : decimal? digits = some port) :
      PortPart (58 :: digits) (some port)

/-- The host and the port a value denotes: an address in brackets or a name, with a port if there
is one, or an address with colons of its own. Any other value denotes nothing. -/
inductive Denotes : Bytes → Bytes → Option ℕ → Prop
  | bracketed {address part : Bytes} {port : Option ℕ} (haddress : 93 ∉ address)
      (hpart : PortPart part port) : Denotes (91 :: (address ++ 93 :: part)) address port
  | named {name part : Bytes} {port : Option ℕ} (hne : name ≠ []) (hopen : name.head? ≠ some 91)
      (hname : 58 ∉ name) (hpart : PortPart part port) : Denotes (name ++ part) name port
  | address {value : Bytes} (hopen : value.head? ≠ some 91) (hcolons : 2 ≤ value.count 58) :
      Denotes value value none

/-- The value begins with an address in brackets. -/
def Bracketed (value : Bytes) : Prop := value.head? = some 91 ∧ 93 ∈ value

/-- Where a value has a port, and `str.isdigit` holds of it. -/
inductive PortDigits : Bytes → Bytes → Prop
  | bracketed {address digits : Bytes} (haddress : 93 ∉ address) (hdigits : isDigitText digits) :
      PortDigits (91 :: (address ++ 93 :: 58 :: digits)) digits
  | named {name digits : Bytes} (hne : name ≠ []) (hname : 58 ∉ name)
      (hopen : ¬ Bracketed (name ++ 58 :: digits)) (hdigits : isDigitText digits) :
      PortDigits (name ++ 58 :: digits) digits

/-- The port of the value is a numeral that `int` reads, within the range of ports, and there is no
colon without a port after a name. -/
structure ReadablePort (value : Bytes) (original : ℕ) : Prop where
  number : ∀ digits, PortDigits value digits → digits.length ≤ maxIntDigits ∧
    ∃ port, decimal? digits = some port ∧ (port ≤ 65535 ∨ port = original)
  named : ∀ name, name ≠ [] → name.head? ≠ some 91 → 58 ∉ name → value ≠ name ++ [58]

/-! ## Splitting -/

variable {value name address digits rest : Bytes} {port : Option ℕ} {original : ℕ}

/-- There is no colon among digits. -/
theorem colon_notMem_of_isDigitText (hdigits : isDigitText digits) : 58 ∉ digits := by
  intro hmem
  have hall : ∀ byte ∈ digits, isDigit byte ∨ byte ∈ [178, 179, 185] := by
    simpa [isDigitText] using And.right (by simpa [isDigitText] using hdigits)
  exact absurd (hall 58 hmem) (by decide)

/-- A numeral is a text of digits. -/
theorem isDigitText_of_decimal? {number : ℕ} (hdecimal : decimal? digits = some number) :
    isDigitText digits := by
  obtain ⟨hne, hall, -⟩ := decimal?_eq_some.mp hdecimal
  simp only [isDigitText, Bool.and_eq_true, decide_eq_true_eq, List.all_eq_true, Bool.or_eq_true]
  exact ⟨hne, fun byte hmem => .inl (hall byte hmem)⟩

/-- What is in brackets is the host. -/
theorem splitHost_bracketed (haddress : 93 ∉ address) (rest : Bytes) :
    splitHost (91 :: (address ++ 93 :: rest)) =
      (address, if rest.head? = some 58 ∧ isDigitText (rest.drop 1) then some (rest.drop 1)
        else none) := by
  have hclose : findSlice (ascii "]") (91 :: (address ++ 93 :: rest)) =
      some (address.length + 1) := by
    have hnot : (93 : UInt8) ∉ 91 :: address := by simpa using haddress
    exact findSlice_singleton_append hnot rest
  have hrest : (91 :: (address ++ 93 :: rest)).drop (address.length + 1 + 1) = rest := by
    simp [List.drop_append]
  have hhost : ((91 :: (address ++ 93 :: rest)).take (address.length + 1)).drop 1 = address := by
    simp
  unfold splitHost
  rw [hclose]
  simp only [List.head?_cons]
  rw [hrest, hhost]

/-- Other values are split at their colon. -/
theorem splitHost_of_not_bracketed (hopen : ¬ Bracketed value) :
    splitHost value =
      match findSlice (ascii ":") value with
      | none => (value, none)
      | some colon =>
          if value.count 58 = 1 ∧ colon ≠ 0 ∧ isDigitText (value.drop (colon + 1)) then
            (value.take colon, some (value.drop (colon + 1)))
          else (value, none) := by
  unfold splitHost
  split
  case h_1 close hhead hclose =>
    have hmem : 93 ∈ value := by
      by_contra hnot
      have hnone := findSlice_singleton_eq_none.mpr hnot
      rw [show ascii "]" = [93] from rfl, hnone] at hclose
      cases hclose
    exact absurd ⟨hhead, hmem⟩ hopen
  case h_2 => rfl

/-- Without exactly one colon the value is the host. -/
theorem splitHost_of_count (hopen : ¬ Bracketed value) (hcolons : value.count 58 ≠ 1) :
    splitHost value = (value, none) := by
  rw [splitHost_of_not_bracketed hopen]
  split
  case h_1 => rfl
  case h_2 => rw [if_neg fun hboth => hcolons hboth.1]

/-- A name is split from the digits after it, and from nothing else. -/
theorem splitHost_named (hne : name ≠ []) (hname : 58 ∉ name)
    (hopen : ¬ Bracketed (name ++ 58 :: rest)) :
    splitHost (name ++ 58 :: rest) =
      if isDigitText rest then (name, some rest) else (name ++ 58 :: rest, none) := by
  have hcolon : findSlice (ascii ":") (name ++ 58 :: rest) = some name.length :=
    findSlice_singleton_append hname rest
  have hlength : name.length ≠ 0 := by simpa using hne
  have hdrop : (name ++ 58 :: rest).drop (name.length + 1) = rest := by simp [List.drop_append]
  rw [splitHost_of_not_bracketed hopen, hcolon]
  simp only [hdrop, List.take_left]
  by_cases hdigits : isDigitText rest
  · have hcount : (name ++ 58 :: rest).count 58 = 1 := by
      rw [List.count_append, List.count_eq_zero_of_not_mem hname, List.count_cons_self,
        List.count_eq_zero_of_not_mem (colon_notMem_of_isDigitText hdigits)]
    rw [if_pos ⟨hcount, hlength, hdigits⟩, if_pos hdigits]
  · rw [if_neg fun hall => hdigits hall.2.2, if_neg hdigits]

/-- A port that is split off stands behind the host. -/
theorem portDigits_of_splitHost (hsplit : splitHost value = (name, some digits)) :
    PortDigits value digits := by
  have hdigits := isDigitText_splitHost hsplit
  by_cases hopen : Bracketed value
  · obtain ⟨hhead, hmem⟩ := hopen
    obtain ⟨tail, rfl⟩ := List.head?_eq_some_iff.mp hhead
    have htail : 93 ∈ tail := by simpa using hmem
    obtain ⟨address, rest, rfl, haddress⟩ := List.eq_append_cons_of_mem htail
    rw [splitHost_bracketed haddress] at hsplit
    obtain ⟨-, hport⟩ := Prod.mk.inj hsplit
    split at hport
    case isFalse => cases hport
    case isTrue hboth =>
      obtain ⟨text, rfl⟩ := List.head?_eq_some_iff.mp hboth.1
      obtain rfl : text = digits := Option.some.inj hport
      exact .bracketed haddress hdigits
  · rw [splitHost_of_not_bracketed hopen] at hsplit
    cases hcolon : findSlice (ascii ":") value with
    | none =>
        rw [hcolon] at hsplit
        cases hsplit
    | some colon =>
        rw [hcolon] at hsplit
        dsimp only at hsplit
        split at hsplit
        case isFalse => cases hsplit
        case isTrue hport =>
          obtain ⟨rfl, hsame⟩ := Prod.mk.inj hsplit
          obtain rfl := Option.some.inj hsame
          obtain ⟨hvalue, hname⟩ : value = value.take colon ++ 58 :: value.drop (colon + 1) ∧
              58 ∉ value.take colon := eq_append_of_findSlice_singleton hcolon
          have hne : value.take colon ≠ [] := by
            intro hnil
            rw [hnil] at hvalue
            cases colon with
            | zero => exact hport.2.1 rfl
            | succ before =>
                rw [List.take_eq_nil_iff] at hnil
                rcases hnil with hzero | hnil
                · cases hzero
                · rw [hnil] at hvalue
                  cases hvalue
          rw [hvalue] at hopen
          have hfound := PortDigits.named hne hname hopen hdigits
          rwa [← hvalue] at hfound

/-- Where there is a port it is split off. -/
theorem splitHost_of_portDigits (hport : PortDigits value digits) :
    ∃ name, splitHost value = (name, some digits) := by
  cases hport with
  | bracketed haddress hdigits =>
      rw [splitHost_bracketed haddress]
      exact ⟨_, by rw [if_pos ⟨rfl, hdigits⟩]; rfl⟩
  | named hne hname hopen hdigits =>
      rw [splitHost_named hne hname hopen, if_pos hdigits]
      exact ⟨_, rfl⟩

/-- A value is split into what it denotes. -/
theorem splitHost_of_denotes (hdenotes : Denotes value name port)
    (hnamed : ∀ name, name ≠ [] → name.head? ≠ some 91 → 58 ∉ name → value ≠ name ++ [58]) :
    ∃ text, splitHost value = (name, text) ∧ text.map decimal? = port.map some := by
  cases hdenotes with
  | bracketed haddress hpart =>
      rw [splitHost_bracketed haddress]
      cases hpart with
      | absent => exact ⟨none, rfl, rfl⟩
      | empty => exact ⟨none, rfl, rfl⟩
      | number hdecimal =>
          rw [if_pos ⟨rfl, isDigitText_of_decimal? hdecimal⟩]
          exact ⟨_, rfl, by simpa using hdecimal⟩
  | named hne hopen hname hpart =>
      have hplain : ∀ part, ¬ Bracketed (name ++ part) := by
        intro part hbracketed
        rw [Bracketed, List.head?_append_of_ne_nil _ hne] at hbracketed
        exact hopen hbracketed.1
      cases hpart with
      | absent =>
          have hnone : List.count 58 (name ++ []) ≠ 1 := by
            rw [List.append_nil, List.count_eq_zero_of_not_mem hname]
            decide
          rw [splitHost_of_count (hplain []) hnone, List.append_nil]
          exact ⟨none, rfl, rfl⟩
      | empty => exact absurd rfl (hnamed name hne hopen hname)
      | number hdecimal =>
          rw [splitHost_named hne hname (hplain _), if_pos (isDigitText_of_decimal? hdecimal)]
          exact ⟨_, rfl, congrArg some hdecimal⟩
  | address hopen hcolons =>
      rw [splitHost_of_count (fun hbracketed => hopen hbracketed.1) (by omega)]
      exact ⟨none, rfl, rfl⟩

/-- A name that ends in a colon stays as it is. -/
theorem splitHost_colon (hne : name ≠ []) (hopen : name.head? ≠ some 91) (hname : 58 ∉ name) :
    splitHost (name ++ [58]) = (name ++ [58], none) := by
  have hplain : ¬ Bracketed (name ++ [58]) := by
    intro hbracketed
    rw [Bracketed, List.head?_append_of_ne_nil _ hne] at hbracketed
    exact hopen hbracketed.1
  rw [splitHost_named hne hname hplain, if_neg (by decide)]

/-! ## Rewriting -/

/-- A scope as the builders make it, before the forwarding headers are applied. -/
inductive Built : Scope → Prop
  | base {request : RequestReceived} {httpVersion : HttpVersion} {scheme rootPath : String}
      {server client : String × ℕ} {scope : Scope}
      (hscope : buildBaseScope request httpVersion scheme server client rootPath = .ok scope) :
      Built scope
  | h3 {config : ServerConfig} {client server : String × ℕ} {headers : List Header} {scope : Scope}
      (hscope : readH3Scope config client server headers = .ok scope) : Built scope

/-- The server of a scope is the one its Host denotes. -/
structure ServerAgrees (host : Bytes) (original server : String × ℕ) : Prop where
  range : server.2 ≤ 65535 ∨ server.2 = original.2
  denotes : ∀ name port, Denotes host name port → server = (latin1 name, port.getD original.2)

/-- The rewritten scope differs in client, scheme, server and headers only. A forwarded host that
is honoured is its one Host, on one line, and its server. -/
structure Rewritten (config : ServerConfig) (scope next : Scope) : Prop where
  frame : next = { scope with
    client := next.client, scheme := next.scheme, server := next.server, headers := next.headers }
  honoured : ∀ host, trustedHost config scope.client scope.headers = some host →
    hostValues next.headers = [host] ∧ 13 ∉ host ∧ 10 ∉ host ∧
      ServerAgrees host scope.server next.server

/-- Names are in lower case in a scope that has been built. -/
theorem Built.lower {scope : Scope} (hbuilt : Built scope) :
    ∀ header ∈ scope.headers, Bytes.lower header.1 = header.1 := by
  cases hbuilt with
  | base hscope =>
      rename_i request _ _ _ _ _
      rw [buildBaseScope] at hscope
      cases hmethod : decodeAscii request.method with
      | error error =>
          rw [hmethod] at hscope
          cases hscope
      | ok method =>
          rw [hmethod] at hscope
          obtain rfl := Except.ok.inj hscope
          exact lower_lowered request.headers
  | h3 hscope => exact (reads_readH3Scope hscope).lower

/-- Texts are different if their bytes are. -/
theorem length_latin1 (bytes : Bytes) : (latin1 bytes).length = bytes.length := by
  rw [latin1, String.length_ofList, List.length_map]

/-- A forwarded host has no line break. -/
theorem clean_trustedHost {config : ServerConfig} {client : String × ℕ} {headers : List Header}
    {host : Bytes} (hhost : trustedHost config client headers = some host) :
    13 ∉ host ∧ 10 ∉ host := by
  rw [trustedHost] at hhost
  split at hhost
  case isFalse => cases hhost
  case isTrue =>
    obtain ⟨hsome, -⟩ := Option.filter_eq_some_iff.mp hhost
    obtain ⟨line, -, rfl⟩ := Option.map_eq_some_iff.mp hsome
    constructor
    · intro hmem
      simpa using (List.mem_filter.mp hmem).2
    · intro hmem
      simpa using (List.mem_filter.mp hmem).2

/-- What a forwarded host is split into is the server exactly if its port reads. -/
theorem serverAgrees_splitHostPort (host : Bytes) (original : String × ℕ) :
    (∃ pair, splitHostPort host original.2 = .ok pair ∧
        ServerAgrees host original (latin1 pair.1, pair.2)) ↔ ReadablePort host original.2 := by
  constructor
  · rintro ⟨pair, hok, hagrees⟩
    constructor
    case number =>
      intro digits hport
      obtain ⟨name, hsplit⟩ := splitHost_of_portDigits hport
      rw [splitHostPort, hsplit] at hok
      dsimp only at hok
      cases hread : readInt digits with
      | none =>
          rw [hread] at hok
          cases hok
      | some value =>
          obtain ⟨hall, hlength⟩ := (readInt_isDigitText (isDigitText_splitHost hsplit)).mp
            (Option.isSome_of_eq_some hread)
          have hne : digits ≠ [] := by
            rintro rfl
            cases isDigitText_splitHost hsplit
          have hdecimal : decimal? digits = some (decimalFrom 0 digits) :=
            decimal?_eq_some.mpr ⟨hne, hall, rfl⟩
          rw [readInt_of_decimal? hdecimal, if_pos hlength] at hread
          rw [readInt_of_decimal? hdecimal, if_pos hlength] at hok
          obtain rfl := Except.ok.inj hok
          exact ⟨hlength, _, hdecimal, hagrees.range⟩
    case named =>
      rintro name hne hopen hname rfl
      rw [splitHostPort, splitHost_colon hne hopen hname] at hok
      obtain rfl := Except.ok.inj hok
      have hserver := hagrees.denotes name none (.named hne hopen hname .empty)
      have hlength := congrArg (fun server => server.1.length) hserver
      simp [length_latin1] at hlength
  · intro hreads
    cases hsplit : splitHost host with
    | mk name text =>
        have hdenotes : ∀ other port, Denotes host other port →
            other = name ∧ text.map decimal? = port.map some := by
          intro other port hother
          obtain ⟨found, hfound, hdecimal⟩ := splitHost_of_denotes hother hreads.named
          rw [hsplit] at hfound
          obtain ⟨rfl, rfl⟩ := Prod.mk.inj hfound
          exact ⟨rfl, hdecimal⟩
        rw [splitHostPort, hsplit]
        cases text with
        | none =>
            refine ⟨_, rfl, .inr rfl, ?_⟩
            intro other port hother
            obtain ⟨rfl, hport⟩ := hdenotes other port hother
            cases port with
            | none => rfl
            | some value => cases hport
        | some digits =>
            obtain ⟨hlength, value, hdecimal, hrange⟩ :=
              hreads.number digits (portDigits_of_splitHost hsplit)
            dsimp only
            rw [readInt_of_decimal? hdecimal, if_pos hlength]
            refine ⟨_, rfl, hrange, ?_⟩
            intro other port hother
            obtain ⟨rfl, hport⟩ := hdenotes other port hother
            rw [Option.map_some, hdecimal] at hport
            cases port with
            | none => cases hport
            | some same =>
                obtain rfl := Option.some.inj (Option.some.inj hport)
                rfl

/-- Applying the forwarding headers to a scope that has been built does not raise, leaves the rest
of the scope alone and gives it the server that its Host denotes, exactly if the port of the
forwarded host reads. -/
theorem forwarded_host_iff (config : ServerConfig) (scope : Scope) (hbuilt : Built scope) :
    (∃ next, applyProxyHeaders config scope = .ok next ∧ Rewritten config scope next) ↔
      ∀ host, trustedHost config scope.client scope.headers = some host →
        ReadablePort host scope.server.2 := by
  cases htrusted : trusts config.trustedHosts scope.client.1 with
  | false =>
      have hnone : trustedHost config scope.client scope.headers = none := by
        rw [trustedHost, htrusted, if_neg Bool.false_ne_true]
      apply iff_of_true
      · refine ⟨_, by rw [applyProxyHeaders, htrusted, if_neg Bool.false_ne_true], rfl, ?_⟩
        intro host hhost
        cases hnone.symm.trans hhost
      · intro host hhost
        cases hnone.symm.trans hhost
  | true =>
      have hsame : trustedHost config scope.client scope.headers = forwardedHost scope.headers := by
        rw [trustedHost, htrusted, if_pos rfl]
      cases hhost : forwardedHost scope.headers with
      | none =>
          rw [hhost] at hsame
          apply iff_of_true
          · refine ⟨_, by rw [applyProxyHeaders, htrusted, if_pos rfl, hhost], rfl, ?_⟩
            intro host hother
            cases hsame.symm.trans hother
          · intro host hother
            cases hsame.symm.trans hother
      | some host =>
          rw [hhost] at hsame
          have happly : applyProxyHeaders config scope =
              (splitHostPort host scope.server.2).map fun pair => { scope with
                client := forwardedClient scope.headers config.forwardedForTrustedHops scope.client
                scheme := forwardedScheme scope.headers scope.scheme
                server := (latin1 pair.1, pair.2)
                headers := replaceHeader (ascii "host") host scope.headers } := by
            rw [applyProxyHeaders, htrusted, if_pos rfl, hhost]
            dsimp only
            cases splitHostPort host scope.server.2 <;> rfl
          have hforwarded : (∀ other, trustedHost config scope.client scope.headers = some other →
              ReadablePort other scope.server.2) ↔ ReadablePort host scope.server.2 := by
            rw [hsame]
            constructor
            · intro hall
              exact hall host rfl
            · rintro hreads other hother
              obtain rfl := Option.some.inj hother
              exact hreads
          rw [hforwarded, ← serverAgrees_splitHostPort host scope.server, happly]
          constructor
          · rintro ⟨next, hnext, hrewritten⟩
            cases hsplit : splitHostPort host scope.server.2 with
            | error error =>
                rw [hsplit] at hnext
                cases hnext
            | ok pair =>
                rw [hsplit] at hnext
                obtain rfl := Except.ok.inj hnext
                exact ⟨pair, rfl, (hrewritten.honoured host hsame).2.2.2⟩
          · rintro ⟨pair, hsplit, hagrees⟩
            rw [hsplit]
            refine ⟨_, rfl, rfl, ?_⟩
            intro other hother
            obtain rfl := Option.some.inj (hsame.symm.trans hother)
            obtain ⟨hcr, hlf⟩ := clean_trustedHost hother
            exact ⟨hostValues_replaceHeader host hbuilt.lower, hcr, hlf, hagrees⟩

/-- A request for which a proxy names this host. -/
def askedFor (host : Bytes) : RequestReceived where
  method := ascii "GET"
  target := ascii "/"
  headers := [(ascii "Host", ascii "inner"), (ascii "X-Forwarded-Host", host)]
  httpVersion := .http11

/-- Its scope. -/
def askedScope (host : Bytes) : Scope where
  httpVersion := .http11
  method := "GET"
  rawPath := ascii "/"
  queryString := []
  rootPath := ""
  scheme := "http"
  server := ("server", 80)
  client := ("proxy", 1)
  headers := [(ascii "host", ascii "inner"), (ascii "x-forwarded-host", host)]

theorem built_askedScope (host : Bytes) : Built (askedScope host) := by
  have hscope : buildBaseScope (askedFor host) .http11 "http" ("server", 80) ("proxy", 1) "" =
      .ok (askedScope host) := rfl
  exact .base hscope

theorem forwarded_host_example :
    (∃ next, applyProxyHeaders { trustedHosts := ["proxy"] }
          (askedScope (ascii "example.com:8443")) = .ok next ∧
        Rewritten { trustedHosts := ["proxy"] } (askedScope (ascii "example.com:8443")) next) ↔
      ∀ host, trustedHost { trustedHosts := ["proxy"] } ("proxy", 1)
          (askedScope (ascii "example.com:8443")).headers = some host →
        ReadablePort host 80 :=
  forwarded_host_iff { trustedHosts := ["proxy"] } (askedScope (ascii "example.com:8443"))
    (built_askedScope (ascii "example.com:8443"))

/-- A superscript is a digit for `str.isdigit`, but no number for `int`. -/
theorem forwarded_host_superscript :
    ¬ ∀ (config : ServerConfig) (scope : Scope), Built scope →
      ∃ next, applyProxyHeaders config scope = .ok next ∧ Rewritten config scope next := by
  intro hall
  obtain ⟨next, hnext, -⟩ :=
    hall { trustedHosts := ["proxy"] } (askedScope [97, 58, 178]) (built_askedScope [97, 58, 178])
  have hraised : applyProxyHeaders { trustedHosts := ["proxy"] } (askedScope [97, 58, 178]) =
      .error .other := by
    decide +kernel
  rw [hraised] at hnext
  cases hnext

end Pounce.Asgi
