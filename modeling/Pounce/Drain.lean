/-
# The drain boundary

A worker that drains turns new connections away. It reads the head of the first request and
answers with a fixed 503, except for probes of the health path, which get the readiness response.
To tell these, the boundary cuts the request line apart itself and compares the raw path; a live
worker parses the whole head, builds a scope and compares the decoded path.

`LiveWorker` is any worker whose parser reads plain request lines as they stand, and
`syncWorker` is the one with the fast parser. `selectDrainResponse_iff` says for which heads
the boundary and the worker agree.
-/

import Pounce.FastH1.Prefixes
import Pounce.RequestPipeline.Endpoints
import Pounce.SyncWorker.Recv

namespace Pounce

open Pounce.Math Pounce.Math.Bytes Pounce.Asgi
open Pounce.FastH1 (crlfCrlf firstLine parseHead bodyLength)
open Pounce.SyncWorker (Builtin classifyRequest recvCapacity)

/-! ## Responses -/

/-- `_DRAIN_503_BODY`. -/
def drain503Body : Bytes := ascii "Server shutting down..."

/-- `DRAIN_503_RESPONSE`. -/
def drain503Response : Bytes :=
  ascii "HTTP/1.1 503 Service Unavailable\r\n" ++
    ascii "Connection: close\r\n" ++
    ascii "Retry-After: 1\r\n" ++
    ascii "Content-Type: text/plain; charset=utf-8\r\n" ++
    ascii "Content-Length: " ++ ofNat drain503Body.length ++ ascii "\r\n" ++
    ascii "\r\n" ++ drain503Body

/-- `bytes.title`: a letter is in upper case if there is no letter before it. -/
def title (afterLetter : Bool) : Bytes → Bytes
  | [] => []
  | byte :: rest =>
      let lowered := lowerByte byte
      let letter : Bool := 97 ≤ lowered && lowered ≤ 122
      (if letter && !afterLetter then lowered - 32 else lowered) :: title letter rest

/-- The head that `_draining_health_response` writes. -/
def drainingHealthHead (state : EndpointState) : Bytes :=
  let (status, headers, _) := { state with draining := true }.health.response
  let wireHeaders := headers ++ [(ascii "connection", ascii "close"), (ascii "retry-after", ascii "1")]
  ascii "HTTP/1.1 " ++ ofNat status ++ ascii " Service Unavailable\r\n" ++
    (wireHeaders.flatMap fun (name, value) =>
      title false name ++ ascii ": " ++ value ++ ascii "\r\n") ++
    ascii "\r\n"

/-- `_draining_health_response`. -/
def drainingHealthResponse (method : Bytes) (state : EndpointState) : Bytes :=
  let (_, _, body) := { state with draining := true }.health.response
  drainingHealthHead state ++ if method = ascii "HEAD" then [] else body

/-! ## The boundary -/

/-- `line.split(b" ", 2)`, if that has three parts. -/
def requestParts (line : Bytes) : Option (Bytes × Bytes × Bytes) :=
  match findSlice [32] line with
  | none => none
  | some first =>
      let rest := line.drop (first + 1)
      match findSlice [32] rest with
      | none => none
      | some second => some (line.take first, rest.take second, rest.drop (second + 1))

/-- `str.encode("ascii")`; `none` is the error it raises. -/
def encodeAscii (text : String) : Option Bytes :=
  if text.toList.all fun char => char.toNat < 128 then some (ascii text) else none

/-- `_draining_health_method`. -/
def drainingHealthMethod (requestHead : Bytes) (healthCheckPath : Option String) : Option Bytes :=
  match healthCheckPath with
  | none => none
  | some expected =>
      if !contains crlfCrlf requestHead then none
      else
        match requestParts (firstLine requestHead) with
        | none => none
        | some (method, target, version) =>
            if method ∉ [ascii "GET", ascii "HEAD"] ∨
                version ∉ [ascii "HTTP/1.0", ascii "HTTP/1.1"] then none
            else
              let path := (splitTarget target).1
              match encodeAscii expected with
              | none => none
              | some expectedPath => if path = expectedPath then some method else none

/-- `_select_drain_response`. -/
def selectDrainResponse (requestHead : Bytes) (config : ServerConfig) (state : EndpointState) :
    Bytes :=
  match drainingHealthMethod requestHead config.healthCheckPath with
  | none => drain503Response
  | some method => drainingHealthResponse method state

/-! ## Request lines -/

/-- The line is a request line of HTTP/1, cut at its first two spaces. -/
def RequestLine (line method target : Bytes) : Prop :=
  ∃ version, line = method ++ 32 :: (target ++ 32 :: version) ∧ 32 ∉ method ∧ 32 ∉ target ∧
    version ∈ [ascii "HTTP/1.0", ascii "HTTP/1.1"]

theorem requestParts_iff {line method target version : Bytes} :
    requestParts line = some (method, target, version) ↔
      line = method ++ 32 :: (target ++ 32 :: version) ∧ 32 ∉ method ∧ 32 ∉ target := by
  constructor
  · intro hparts
    rw [requestParts] at hparts
    split at hparts
    case h_1 => cases hparts
    case h_2 first hfirst =>
      obtain ⟨hline, hmethod⟩ := eq_append_of_findSlice_singleton hfirst
      simp only at hparts
      split at hparts
      case h_1 => cases hparts
      case h_2 second hsecond =>
        obtain ⟨hrest, htarget⟩ := eq_append_of_findSlice_singleton hsecond
        obtain ⟨rfl, hothers⟩ := Prod.mk.inj (Option.some.inj hparts)
        obtain ⟨rfl, rfl⟩ := Prod.mk.inj hothers
        exact ⟨by rw [← hrest, ← hline], hmethod, htarget⟩
  · rintro ⟨rfl, hmethod, htarget⟩
    rw [requestParts, findSlice_singleton_append hmethod]
    have hrest : (method ++ 32 :: (target ++ 32 :: version)).drop (method.length + 1) =
        target ++ 32 :: version := by
      rw [← List.drop_drop, List.drop_left, List.drop_one, List.tail_cons]
    have hversion : (target ++ 32 :: version).drop (target.length + 1) = version := by
      rw [← List.drop_drop, List.drop_left, List.drop_one, List.tail_cons]
    simp only [hrest, findSlice_singleton_append htarget, List.take_left, hversion]

/-- A line is cut in one way. -/
theorem RequestLine.unique {line method target otherMethod otherTarget : Bytes}
    (hline : RequestLine line method target) (hother : RequestLine line otherMethod otherTarget) :
    method = otherMethod ∧ target = otherTarget := by
  obtain ⟨version, hparts, hmethod, htarget, -⟩ := hline
  obtain ⟨otherVersion, hotherParts, hotherMethod, hotherTarget, -⟩ := hother
  have hfirst := requestParts_iff.mpr ⟨hparts, hmethod, htarget⟩
  have hsecond := requestParts_iff.mpr ⟨hotherParts, hotherMethod, hotherTarget⟩
  obtain ⟨rfl, hrest⟩ := Prod.mk.inj (Option.some.inj (hfirst.symm.trans hsecond))
  exact ⟨rfl, (Prod.mk.inj hrest).1⟩

/-- The boundary goes by the request line of a head that has a blank line. -/
theorem drainingHealthMethod_iff {head method : Bytes} {healthCheckPath : Option String} :
    drainingHealthMethod head healthCheckPath = some method ↔
      crlfCrlf <:+: head ∧ method ∈ [ascii "GET", ascii "HEAD"] ∧
        ∃ target, RequestLine (firstLine head) method target ∧
          healthCheckPath.bind encodeAscii = some (splitTarget target).1 := by
  constructor
  · intro hmethod
    unfold drainingHealthMethod at hmethod
    split at hmethod
    case h_1 => cases hmethod
    case h_2 expected =>
      split at hmethod
      case isTrue => cases hmethod
      case isFalse hblank =>
        split at hmethod
        case h_1 => cases hmethod
        case h_2 found target version hparts =>
          split at hmethod
          case isTrue => cases hmethod
          case isFalse hallowed =>
            simp only at hmethod
            split at hmethod
            case h_1 => cases hmethod
            case h_2 expectedPath hencode =>
              split at hmethod
              case isFalse => cases hmethod
              case isTrue hpath =>
                obtain rfl := Option.some.inj hmethod
                rw [not_or, not_not, not_not] at hallowed
                obtain ⟨hline, hspaces⟩ := requestParts_iff.mp hparts
                refine ⟨contains_iff.mp (by simpa using hblank), hallowed.1, target, ?_, ?_⟩
                · exact ⟨version, hline, hspaces.1, hspaces.2, hallowed.2⟩
                · rw [Option.bind_some, hencode, hpath]
  · rintro ⟨hblank, hallowed, target, ⟨version, hline, hmethod, htarget, hversion⟩, hencode⟩
    cases healthCheckPath with
    | none => cases hencode
    | some expected =>
        rw [Option.bind_some] at hencode
        have hparts := requestParts_iff.mpr ⟨hline, hmethod, htarget⟩
        simp [drainingHealthMethod, contains_iff.mpr hblank, hparts, hallowed, hversion, hencode]

/-! ## Live workers -/

/-- A worker that is not draining, as far as its way from a head to the scope goes. -/
structure LiveWorker where
  config : ServerConfig
  client : String × ℕ
  server : String × ℕ
  /-- The request that a scope is built for: none if the parser refuses the head, or if the request
  is answered or handed on before that. -/
  read : Bytes → Option RequestReceived
  /-- Where there is a request line, its parts are the method and the target. -/
  reads_line : ∀ {head method target : Bytes} {request : RequestReceived},
    read head = some request → RequestLine (firstLine head) method target →
      request.method = method ∧ request.target = target

namespace LiveWorker

variable (worker : LiveWorker) (state : EndpointState)

/-- The request, and the scope that is built for it. -/
def scopeOf (head : Bytes) : Option (RequestReceived × Scope) :=
  match worker.read head with
  | none => none
  | some request =>
      match buildScope worker.config worker.client worker.server request with
      | .error _ => none
      | .ok scope => some (request, scope)

/-- The method of a request for which the health endpoint is selected. -/
def selectsHealth (head : Bytes) : Option Bytes :=
  match worker.scopeOf head with
  | none => none
  | some (request, scope) =>
      match maybeBuildBuiltinResponse worker.config state request.method (pathText scope.rawPath) with
      | some (.health ..) => some request.method
      | _ => none

/-- The boundary answers with the readiness response if the worker would select the health
endpoint, and with the drain 503 otherwise. -/
def Agrees (head : Bytes) : Prop :=
  selectDrainResponse head worker.config state =
    match worker.selectsHealth state head with
    | some method => drainingHealthResponse method state
    | none => drain503Response

end LiveWorker

/-! ## Agreement -/

section Agreement

variable {worker : LiveWorker} {state : EndpointState} {head : Bytes}

/-- The health path, spelled in ASCII, is this raw path. -/
def Spells (healthCheckPath : Option String) (rawPath : Bytes) : Prop :=
  healthCheckPath.bind encodeAscii = some rawPath

/-- The decoded path is the health path. -/
def Matches (healthCheckPath : Option String) (rawPath : Bytes) : Prop :=
  healthCheckPath.map String.toList = some (pathText rawPath)

/-- The head has a blank line and a request line. -/
def Framed (head : Bytes) : Prop :=
  crlfCrlf <:+: head ∧ ∃ method target, RequestLine (firstLine head) method target

/-- Boundary and worker cannot disagree about a head: no scope is built for it and it does not name
the health path for GET or HEAD; or the method is another one; or there is a request line and
nothing in the path is decoded; or neither the path, as far as there is a request line, nor its text
is the health path. -/
def LiveWorker.Undisputed (worker : LiveWorker) (head : Bytes) : Prop :=
  let healthCheckPath := worker.config.healthCheckPath
  match worker.scopeOf head with
  | none =>
      ¬∃ method target, crlfCrlf <:+: head ∧ RequestLine (firstLine head) method target ∧
        method ∈ [ascii "GET", ascii "HEAD"] ∧ Spells healthCheckPath (splitTarget target).1
  | some (request, scope) =>
      request.method ∉ [ascii "GET", ascii "HEAD"] ∨
        Framed head ∧ IsLiteral scope.rawPath ∨
        ¬(Framed head ∧ Spells healthCheckPath scope.rawPath) ∧
          ¬Matches healthCheckPath scope.rawPath

/-- A literal path is spelled like the health path exactly if it is the health path. -/
theorem spells_iff_matches {healthCheckPath : Option String} {rawPath : Bytes}
    (hliteral : IsLiteral rawPath) :
    Spells healthCheckPath rawPath ↔ Matches healthCheckPath rawPath := by
  rw [Spells, Matches, pathText_of_isLiteral hliteral]
  cases healthCheckPath with
  | none => simp
  | some expected =>
      rw [Option.bind_some, Option.map_some, Option.some.injEq, encodeAscii,
        Option.ite_none_right_eq_some, Option.some.injEq, List.all_eq_true]
      constructor
      · rintro ⟨hascii, rfl⟩
        have hback : ∀ char ∈ expected.toList,
            Char.ofNat (UInt8.ofNat char.toNat).toNat = id char := by
          intro char hmem
          have hlt : char.toNat < 128 := by simpa using hascii char hmem
          rw [toNat_byteOfChar (by omega), Char.ofNat_toNat, id]
        rw [ascii, List.map_map]
        exact ((List.map_congr_left hback).trans (List.map_id _)).symm
      · intro htext
        have hback : ∀ byte ∈ rawPath,
            UInt8.ofNat (Char.ofNat byte.toNat).toNat = id byte := by
          intro byte _
          rw [toNat_charOfByte, UInt8.ofNat_toNat, id]
        constructor
        · intro char hmem
          rw [htext] at hmem
          obtain ⟨byte, hbyteMem, rfl⟩ := List.mem_map.mp hmem
          have hlt := UInt8.lt_iff_toNat_lt.mp (hliteral.1 byte hbyteMem)
          simpa [toNat_charOfByte] using hlt
        · rw [ascii, htext, List.map_map]
          exact (List.map_congr_left hback).trans (List.map_id _)

/-- No other path is both. -/
theorem not_spells_and_matches {healthCheckPath : Option String} {rawPath : Bytes}
    (hliteral : ¬IsLiteral rawPath) (hspells : Spells healthCheckPath rawPath) :
    ¬Matches healthCheckPath rawPath := by
  intro hmatches
  cases healthCheckPath with
  | none => cases hspells
  | some expected =>
      rw [Spells, Option.bind_some, encodeAscii, Option.ite_none_right_eq_some,
        Option.some.injEq] at hspells
      obtain ⟨hall, rfl⟩ := hspells
      rw [Matches, Option.map_some, Option.some.injEq] at hmatches
      have hascii : ∀ byte ∈ ascii expected, byte < 128 := by
        intro byte hmem
        obtain ⟨char, hchar, rfl⟩ := List.mem_map.mp hmem
        have hlt : char.toNat < 128 := by simpa using List.all_eq_true.mp hall char hchar
        rw [UInt8.lt_iff_toNat_lt, toNat_byteOfChar (by omega)]
        exact hlt
      have hescape : HasEscape (ascii expected) := by
        by_contra hnone
        exact hliteral ⟨hascii, hnone⟩
      have hshorter := length_pathText_lt hascii hescape
      rw [← hmatches, ascii, List.length_map] at hshorter
      exact Nat.lt_irrefl _ hshorter

/-- The scope keeps the raw path. -/
theorem rawPath_of_buildScope {config : ServerConfig} {client server : String × ℕ}
    {request : RequestReceived} {scope : Scope}
    (hscope : buildScope config client server request = .ok scope) :
    scope.rawPath = (splitTarget request.target).1 := by
  rw [buildScope, buildBaseScope] at hscope
  cases hmethod : decodeAscii request.method with
  | error error =>
      rw [hmethod] at hscope
      cases hscope
  | ok method =>
      rw [hmethod] at hscope
      simp only [bind, Except.bind, applyProxyHeaders] at hscope
      split at hscope
      case isFalse =>
        obtain rfl := Except.ok.inj hscope
        rfl
      case isTrue =>
        split at hscope
        case h_1 =>
          obtain rfl := Except.ok.inj hscope
          rfl
        case h_2 =>
          split at hscope
          case h_1 => cases hscope
          case h_2 =>
            obtain rfl := Except.ok.inj hscope
            rfl

theorem scopeOf_eq_some {request : RequestReceived} {scope : Scope}
    (hscope : worker.scopeOf head = some (request, scope)) :
    worker.read head = some request ∧ scope.rawPath = (splitTarget request.target).1 := by
  rw [LiveWorker.scopeOf] at hscope
  split at hscope
  case h_1 => cases hscope
  case h_2 found hread =>
    split at hscope
    case h_1 => cases hscope
    case h_2 built hbuilt =>
      obtain ⟨rfl, rfl⟩ := Prod.mk.inj (Option.some.inj hscope)
      exact ⟨hread, rawPath_of_buildScope hbuilt⟩

/-- The health endpoint comes first. -/
theorem maybeBuildBuiltinResponse_health {config : ServerConfig} {method : Bytes}
    {path : List Char} :
    (∃ draining payload, maybeBuildBuiltinResponse config state method path =
        some (.health draining payload)) ↔
      method ∈ [ascii "GET", ascii "HEAD"] ∧
        config.healthCheckPath.map String.toList = some path := by
  have hmethod : (method = ascii "GET" ∨ method = ascii "HEAD") ↔
      method ∈ [ascii "GET", ascii "HEAD"] := by simp
  rw [maybeBuildBuiltinResponse, ← hmethod]
  split
  case isFalse hother => simp [hother]
  case isTrue hallowed =>
    split
    case isTrue hpath => simp [hallowed, hpath, EndpointState.health]
    case isFalse hpath =>
      have hnone : ∀ draining payload,
          buildDictionaryResponse config.compressionDictionaries state path ≠
            some (.health draining payload) := by
        intro draining payload hhealth
        rw [buildDictionaryResponse] at hhealth
        split at hhealth
        case isFalse => cases hhealth
        case isTrue =>
          simp only at hhealth
          split at hhealth
          case isTrue => cases hhealth
          case isFalse => split at hhealth <;> cases hhealth
      split
      case isTrue => simp [hpath]
      case isFalse =>
        split
        case isTrue => simp [hpath, hnone]
        case isFalse => simp [hpath]

theorem selectsHealth_iff {method : Bytes} :
    worker.selectsHealth state head = some method ↔
      ∃ request scope, worker.scopeOf head = some (request, scope) ∧ request.method = method ∧
        method ∈ [ascii "GET", ascii "HEAD"] ∧
          Matches worker.config.healthCheckPath scope.rawPath := by
  rw [LiveWorker.selectsHealth]
  cases hscope : worker.scopeOf head with
  | none => simp
  | some found =>
      obtain ⟨request, scope⟩ := found
      have hhealth := @maybeBuildBuiltinResponse_health state worker.config request.method
        (pathText scope.rawPath)
      simp only [Option.some.injEq, Prod.mk.injEq]
      split
      case h_1 draining payload hbuiltin =>
        obtain ⟨hallowed, hpath⟩ := hhealth.mp ⟨draining, payload, hbuiltin⟩
        constructor
        · intro hmethod
          obtain rfl := Option.some.inj hmethod
          exact ⟨request, scope, ⟨rfl, rfl⟩, rfl, hallowed, hpath⟩
        · rintro ⟨_, _, ⟨rfl, rfl⟩, rfl, -⟩
          rfl
      case h_2 hother =>
        constructor
        · intro hmethod
          cases hmethod
        · rintro ⟨_, _, ⟨rfl, rfl⟩, rfl, hallowed, hpath⟩
          obtain ⟨draining, payload, hbuiltin⟩ := hhealth.mpr ⟨hallowed, hpath⟩
          exact absurd hbuiltin (hother draining payload)

/-- The two answers differ. -/
theorem drainingHealthResponse_ne (method : Bytes) (state : EndpointState) :
    drainingHealthResponse method state ≠ drain503Response := by
  intro heq
  have htake := congrArg (List.take 38) heq
  have hready : (drainingHealthResponse method state).take 38 =
      ascii "HTTP/1.1 503 Service Unavailable\r\nCont" := by
    rw [drainingHealthResponse, drainingHealthHead]
    simp only [EndpointState.health, Builtin.response, if_true]
    rfl
  rw [hready] at htake
  revert htake
  decide

/-- The health endpoint is selected only for the request line of a head. -/
theorem selectsHealth_eq_some {method : Bytes} (hselects : worker.selectsHealth state head = some method)
    (hframed : Framed head) :
    ∃ target, RequestLine (firstLine head) method target ∧ method ∈ [ascii "GET", ascii "HEAD"] ∧
      Matches worker.config.healthCheckPath (splitTarget target).1 := by
  obtain ⟨request, scope, hscope, rfl, hallowed, hmatches⟩ := selectsHealth_iff.mp hselects
  obtain ⟨hread, hpath⟩ := scopeOf_eq_some hscope
  obtain ⟨-, method, target, hline⟩ := hframed
  obtain ⟨rfl, rfl⟩ := worker.reads_line hread hline
  exact ⟨request.target, hline, hallowed, hpath ▸ hmatches⟩

/-- Boundary and worker agree if they pick the same method, or none. -/
theorem agrees_iff :
    worker.Agrees state head ↔
      drainingHealthMethod head worker.config.healthCheckPath = worker.selectsHealth state head := by
  rw [LiveWorker.Agrees, selectDrainResponse]
  cases hdrain : drainingHealthMethod head worker.config.healthCheckPath with
  | none =>
      cases hlive : worker.selectsHealth state head with
      | none => simp
      | some method => simp [(drainingHealthResponse_ne method state).symm]
  | some method =>
      cases hlive : worker.selectsHealth state head with
      | none => simp [drainingHealthResponse_ne]
      | some other =>
          obtain ⟨hblank, -, target, hline, -⟩ := drainingHealthMethod_iff.mp hdrain
          obtain ⟨otherTarget, hother, -⟩ :=
            selectsHealth_eq_some hlive ⟨hblank, method, target, hline⟩
          obtain ⟨rfl, -⟩ := hline.unique hother
          simp

/-- Of a head that a scope is built for, the boundary goes by the request and the raw path. -/
theorem drainingHealthMethod_of_scope {request : RequestReceived} {scope : Scope} {method : Bytes}
    {healthCheckPath : Option String} (hscope : worker.scopeOf head = some (request, scope)) :
    drainingHealthMethod head healthCheckPath = some method ↔
      request.method = method ∧ method ∈ [ascii "GET", ascii "HEAD"] ∧ Framed head ∧
        Spells healthCheckPath scope.rawPath := by
  obtain ⟨hread, hpath⟩ := scopeOf_eq_some hscope
  rw [drainingHealthMethod_iff, hpath]
  constructor
  · rintro ⟨hblank, hallowed, target, hline, hspells⟩
    obtain ⟨rfl, rfl⟩ := worker.reads_line hread hline
    exact ⟨rfl, hallowed, ⟨hblank, request.method, request.target, hline⟩, hspells⟩
  · rintro ⟨rfl, hallowed, ⟨hblank, method, target, hline⟩, hspells⟩
    obtain ⟨rfl, rfl⟩ := worker.reads_line hread hline
    exact ⟨hblank, hallowed, request.target, hline, hspells⟩

/-- Where a scope is built, boundary and worker pick the same if both comparisons of the path come
out the same. -/
theorem picks_iff {request : RequestReceived} {scope : Scope}
    (hscope : worker.scopeOf head = some (request, scope)) :
    drainingHealthMethod head worker.config.healthCheckPath = worker.selectsHealth state head ↔
      (request.method ∈ [ascii "GET", ascii "HEAD"] →
        (Framed head ∧ Spells worker.config.healthCheckPath scope.rawPath ↔
          Matches worker.config.healthCheckPath scope.rawPath)) := by
  have hlive : ∀ method, worker.selectsHealth state head = some method ↔
      request.method = method ∧ method ∈ [ascii "GET", ascii "HEAD"] ∧
        Matches worker.config.healthCheckPath scope.rawPath := by
    intro method
    rw [selectsHealth_iff, hscope]
    simp
  constructor
  · intro hsame hallowed
    have hdrain := @drainingHealthMethod_of_scope worker head request scope request.method
      worker.config.healthCheckPath hscope
    rw [hsame, hlive] at hdrain
    simpa [hallowed] using hdrain.symm
  · intro hpaths
    apply Option.ext
    intro method
    rw [drainingHealthMethod_of_scope hscope, hlive]
    constructor
    · rintro ⟨rfl, hallowed, hspells⟩
      exact ⟨rfl, hallowed, (hpaths hallowed).mp hspells⟩
    · rintro ⟨rfl, hallowed, hmatches⟩
      exact ⟨rfl, hallowed, (hpaths hallowed).mpr hmatches⟩

/-- For every worker and every head: the boundary answers a probe of the health path as the worker
would have, and everything else with the drain 503, exactly if the head is `Undisputed`. HEAD gets
what GET gets, without the payload. -/
theorem selectDrainResponse_iff (worker : LiveWorker) (state : EndpointState) (head : Bytes) :
    (worker.Agrees state head ↔ worker.Undisputed head) ∧
      drainingHealthResponse (ascii "GET") state =
        drainingHealthResponse (ascii "HEAD") state ++
          { state with draining := true }.healthPayload := by
  refine ⟨?_, by simp [drainingHealthResponse, EndpointState.health, Builtin.response, ascii]⟩
  rw [agrees_iff, LiveWorker.Undisputed]
  cases hscope : worker.scopeOf head with
  | none =>
      have hnone : worker.selectsHealth state head = none := by
        rw [LiveWorker.selectsHealth, hscope]
      rw [hnone, Option.eq_none_iff_forall_ne_some]
      constructor
      · rintro hnot ⟨method, target, hblank, hline, hallowed, hspells⟩
        exact hnot method (drainingHealthMethod_iff.mpr ⟨hblank, hallowed, target, hline, hspells⟩)
      · rintro hnot method hmethod
        obtain ⟨hblank, hallowed, target, hline, hspells⟩ := drainingHealthMethod_iff.mp hmethod
        exact hnot ⟨method, target, hblank, hline, hallowed, hspells⟩
  | some found =>
      obtain ⟨request, scope⟩ := found
      rw [picks_iff hscope]
      by_cases hallowed : request.method ∈ [ascii "GET", ascii "HEAD"]
      case neg => exact ⟨fun _ => .inl hallowed, fun _ hin => absurd hin hallowed⟩
      case pos =>
        by_cases hliteral : IsLiteral scope.rawPath
        case pos =>
          have hpath := @spells_iff_matches worker.config.healthCheckPath _ hliteral
          simp only [hallowed, hliteral, hpath]
          tauto
        case neg =>
          have hpath := @not_spells_and_matches worker.config.healthCheckPath _ hliteral
          simp only [hallowed, hliteral]
          tauto

end Agreement

/-! ## The synchronous worker -/

section SyncWorker

/-- The line is before the blank line, if there is one. -/
theorem firstLine_take {head : Bytes} {headerEnd : ℕ}
    (hend : findSlice crlfCrlf head = some headerEnd) :
    firstLine (head.take headerEnd) = firstLine head := by
  obtain ⟨hle, ⟨rest, hrest⟩, -⟩ := findSlice_eq_some.mp hend
  have hcrlf : crlf <+: head.drop headerEnd := ⟨[13, 10] ++ rest, hrest⟩
  cases hfirst : findSlice crlf head with
  | none =>
      have hinfix : crlf <:+: head := hcrlf.isInfix.trans (List.drop_suffix _ _).isInfix
      exact absurd hinfix (findSlice_eq_none.mp hfirst)
  | some index =>
      obtain ⟨-, ⟨after, hafter⟩, hearlier⟩ := findSlice_eq_some.mp hfirst
      have hindex : index ≤ headerEnd := Nat.le_of_not_lt fun hlt => hearlier headerEnd hlt hcrlf
      rw [firstLine, firstLine, findSlice_take hfirst, hfirst]
      by_cases hfits : index + crlf.length ≤ headerEnd
      · rw [if_pos hfits]
        simp only [List.take_take, Nat.min_eq_left hindex]
      · rw [if_neg hfits]
        -- one byte before the blank line there is no line end, since the next byte is no LF
        have hnext : head[headerEnd]? = some 13 := by
          have hbyte := congrArg List.head? hrest
          rw [List.head?_drop] at hbyte
          exact hbyte.symm
        have hsame : index = headerEnd := by
          by_contra hne
          have hbyte := congrArg (fun bytes => bytes[1]?) hafter
          have hlf : head[index + 1]? = some 10 := by
            rw [List.getElem?_drop] at hbyte
            exact hbyte.symm
          have hlength : crlf.length = 2 := rfl
          rw [show index + 1 = headerEnd by omega, hnext] at hlf
          exact absurd hlf (by decide)
        rw [hsame]

/-- An accepted head has a request line. -/
theorem requestLine_of_parseHead {maxHeaders : ℕ} {head : Bytes} {request : RequestReceived}
    {scan : FastH1.HeaderScan} (hparse : parseHead maxHeaders head = .ok (request, scan)) :
    RequestLine (firstLine head) request.method request.target := by
  rw [parseHead] at hparse
  split at hparse
  case h_1 => cases hparse
  case h_2 line hline =>
    split at hparse
    case h_1 => cases hparse
    case h_2 =>
      split at hparse
      case isTrue => cases hparse
      case isFalse =>
        obtain ⟨rfl, -⟩ := Prod.mk.inj (Except.ok.inj hparse)
        obtain ⟨version, hparts, hmethod, htarget, hversion⟩ := FastH1.parseRequestLine_ok hline
        refine ⟨version, hparts, FastH1.space_notMem_of_methodMatches hmethod, ?_, ?_⟩
        · exact fun hmem => htarget 32 hmem (by decide)
        · rcases hversion with rfl | rfl <;> simp

/-- The synchronous worker: chunked requests, and those with a body that does not fit into the
buffer, are answered with an error, WebSocket handshakes are handed on, and a fused application may
answer first. -/
def syncRead (config : ServerConfig) (fused : RequestReceived → Bool) (head : Bytes) :
    Option RequestReceived :=
  match findSlice crlfCrlf head with
  | none => none
  | some headerEnd =>
      if headerEnd > config.maxHeaderSize then none
      else
        match parseHead config.maxHeaders (head.take headerEnd) with
        | .error _ => none
        | .ok (request, scan) =>
            if scan.chunked || recvCapacity < headerEnd + 4 + bodyLength scan ||
                (classifyRequest request).isWebsocket || fused request then none
            else some request

theorem syncRead_eq_some {config : ServerConfig} {fused : RequestReceived → Bool} {head : Bytes}
    {request : RequestReceived} (hread : syncRead config fused head = some request) :
    ∃ headerEnd scan, findSlice crlfCrlf head = some headerEnd ∧
      headerEnd ≤ config.maxHeaderSize ∧
      parseHead config.maxHeaders (head.take headerEnd) = .ok (request, scan) := by
  rw [syncRead] at hread
  split at hread
  case h_1 => cases hread
  case h_2 headerEnd hend =>
    split at hread
    case isTrue => cases hread
    case isFalse hsize =>
      split at hread
      case h_1 => cases hread
      case h_2 parsed scan hparse =>
        split at hread
        case isTrue => cases hread
        case isFalse =>
          obtain rfl := Option.some.inj hread
          exact ⟨headerEnd, scan, hend, Nat.le_of_not_lt hsize, hparse⟩

/-- The synchronous worker, up to the scope. -/
def syncWorker (config : ServerConfig) (client server : String × ℕ)
    (fused : RequestReceived → Bool) : LiveWorker where
  config
  client
  server
  read := syncRead config fused
  reads_line := by
    intro head method target request hread hline
    obtain ⟨headerEnd, scan, hend, -, hparse⟩ := syncRead_eq_some hread
    have hown := requestLine_of_parseHead hparse
    rw [firstLine_take hend] at hown
    exact hown.unique hline

/-- A probe of the health path with an escape in it gets the drain 503. -/
theorem selectDrainResponse_escaped :
    ¬∀ (worker : LiveWorker) (state : EndpointState) (head : Bytes), worker.Agrees state head := by
  intro hclaim
  have hagrees := hclaim
    (syncWorker { healthCheckPath := some "/readyz" } ("10.0.0.1", 40000) ("10.0.0.2", 8000)
      fun _ => false) {}
    (ascii "GET /%72eadyz HTTP/1.1\r\n\r\n")
  have hsame := agrees_iff.mp hagrees
  revert hsame
  decide

end SyncWorker

end Pounce
