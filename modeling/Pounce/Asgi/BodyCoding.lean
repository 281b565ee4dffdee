/-
# The body as it is sent

The send callables of the three protocols pass the body on as it comes, or through an encoder: a
piece is compressed and the encoder synchronized, or flushed with the last one, and an empty piece
that is not the last leaves the encoder alone. Whether there is an encoder is settled with the head.

What is assumed of an encoder is that a decoder reads what it was fed, once it has been synchronized
or flushed (`Decoder`). `body_coded` says that then the bytes that have been sent after any number
of pieces are read as these pieces, or are these pieces if the head names no encoding of the
server's own. The answer to HEAD has no body. On HTTP/2 the bytes are sent in the chunks that the
window allows.
-/

import Pounce.Asgi.Coding
import Pounce.H2.Connection

namespace Pounce

open Pounce.Math Pounce.Math.Bytes

/-! ## Encoders -/

/-- What an operation feeds the encoder. -/
def CompressOp.data : CompressOp → Bytes
  | .compress data => data
  | .syncFlush | .flush => []

/-- What the encoder has been fed. -/
def fedData (ops : List CompressOp) : Bytes := ops.flatMap CompressOp.data

/-- All that the operations have returned. -/
def Compressor.emitted (compressor : Compressor) (ops : List CompressOp) : Bytes :=
  (List.range ops.length).flatMap fun count => compressor.output (ops.take (count + 1))

/-- A decoder for an encoder: what it reads from bytes, and whether they are a whole stream. -/
structure Decoder (compressor : Compressor) where
  read : Bytes → Option (Bytes × Bool)
  read_nil : read [] = some ([], false)
  /-- What was fed before a synchronization can be read. -/
  read_syncFlush : ∀ ops, .flush ∉ ops →
    read (compressor.emitted (ops ++ [.syncFlush])) = some (fedData ops, false)
  /-- What was fed before the flush can be read, and is all there is. -/
  read_flush : ∀ ops, .flush ∉ ops →
    read (compressor.emitted (ops ++ [.flush])) = some (fedData ops, true)

/-- The encoder was fed the content, and everything of it can be read. It was flushed at most at
the end. -/
structure Fed (ops : List CompressOp) (content : Bytes) (complete : Bool) : Prop where
  data : fedData ops = content
  once : .flush ∉ ops.dropLast
  settled : if complete then ops.getLast? = some .flush
    else ops = [] ∨ ops.getLast? = some .syncFlush

theorem fedData_append (first second : List CompressOp) :
    fedData (first ++ second) = fedData first ++ fedData second := List.flatMap_append

theorem Compressor.emitted_concat (compressor : Compressor) (ops : List CompressOp)
    (op : CompressOp) :
    compressor.emitted (ops ++ [op]) =
      compressor.emitted ops ++ compressor.output (ops ++ [op]) := by
  rw [emitted, emitted, List.length_append, List.length_singleton, List.range_succ,
    List.flatMap_append, List.flatMap_singleton]
  congr 1
  · apply List.flatMap_congr
    intro count hcount
    rw [List.take_append_of_le_length (List.mem_range.mp hcount)]
  · rw [List.take_of_length_le (by simp)]

section

variable {ops : List CompressOp} {content : Bytes} {complete : Bool}

/-- An encoder that has not been flushed at the end has not been flushed. -/
theorem Fed.not_flushed (hfed : Fed ops content false) : .flush ∉ ops := by
  rcases hfed.settled with hnil | hlast
  · rw [hnil]
    exact List.not_mem_nil
  · have hops : ops.dropLast ++ [.syncFlush] = ops :=
      List.dropLast_append_getLast? _ hlast
    rw [← hops]
    intro hmem
    rcases List.mem_append.mp hmem with hmem | hmem
    · exact hfed.once hmem
    · cases List.mem_singleton.mp hmem

/-- What an encoder that was fed the content has returned is read as the content. -/
theorem Decoder.read_fed {compressor : Compressor} (decoder : Decoder compressor)
    (hfed : Fed ops content complete) :
    decoder.read (compressor.emitted ops) = some (content, complete) := by
  have hlast : ∀ op : CompressOp, op.data = [] → ops.getLast? = some op →
      ops.dropLast ++ [op] = ops ∧ fedData ops.dropLast = content := by
    intro op hop hlast
    have hops := List.dropLast_append_getLast? _ hlast
    refine ⟨hops, ?_⟩
    rw [← hfed.data]
    conv => rhs; rw [← hops]
    simp [fedData, hop]
  have hsettled := hfed.settled
  cases complete with
  | true =>
      rw [if_pos rfl] at hsettled
      obtain ⟨hops, hdata⟩ := hlast .flush rfl hsettled
      have hread := decoder.read_flush ops.dropLast hfed.once
      rwa [hops, hdata] at hread
  | false =>
      rw [if_neg Bool.false_ne_true] at hsettled
      rcases hsettled with rfl | hsync
      · rw [← hfed.data]
        exact decoder.read_nil
      · obtain ⟨hops, hdata⟩ := hlast .syncFlush rfl hsync
        have hread := decoder.read_syncFlush ops.dropLast hfed.once
        rwa [hops, hdata] at hread

/-- One more operation that leaves everything to be read. -/
theorem Fed.concat (hflush : .flush ∉ ops) (hdata : fedData ops = content) (moreBody : Bool) :
    Fed (ops ++ [if moreBody then .syncFlush else .flush]) content (!moreBody) := by
  constructor
  case data =>
    rw [fedData_append, hdata]
    cases moreBody <;> exact List.append_nil _
  case once =>
    rw [List.dropLast_concat]
    exact hflush
  case settled =>
    rw [List.getLast?_concat]
    cases moreBody with
    | true => exact .inr rfl
    | false => rfl

end

namespace Asgi

/-! ## The body messages -/

/-- A body message, and what surrounds it. -/
structure BodyCall where
  body : Bytes
  moreBody : Bool
  /-- `writer.is_closing()` of an HTTP/1.1 connection. -/
  closing : Bool := false
  /-- The library of the protocol raises. -/
  refused : Bool := false
  /-- The window and the frame size that the rounds of the loop of HTTP/2 find, up to its
  deadline. -/
  rounds : List (ℤ × ℕ) := []
  deriving DecidableEq, Repr

/-- The protocols with a send callable of their own. -/
inductive Carrier where
  | h1
  | h2
  | h3
  deriving DecidableEq, Repr

namespace Carrier

/-- The bridge of the protocol. -/
def bridge : Carrier → Bridge
  | h1 => Asgi.h1
  | h2 => Asgi.h2
  | h3 => Asgi.h3

/-- The chunks that the loop of HTTP/2 sends, and what is left at its end. In a round without a
window it waits. -/
def loopChunks (sender : H2.Sender) : List (ℤ × ℕ) → List Bytes × Bytes
  | [] => ([], sender.remaining)
  | (window, maxOutboundFrameSize) :: rounds =>
      if sender.remaining = [] then ([], [])
      else if window ≤ 0 then loopChunks sender rounds
      else
        let chunk := sender.chunk window maxOutboundFrameSize
        let more := loopChunks
          { sender with remaining := sender.remaining.drop chunk.length } rounds
        (chunk :: more.1, more.2)

/-- The pieces in which the bytes are handed to the library of the protocol. `none` means that
some of them are not: the library raises, or the deadline of the loop passes. -/
def handOver (call : BodyCall) (encoded : Bytes) : Carrier → Option (List Bytes)
  | h1 | h3 => if call.refused then none else some [encoded]
  | h2 =>
      if call.refused then none
      else if encoded = [] then some (if call.moreBody then [] else [[]])
      else
        let sent := loopChunks
          { streamId := 1, remaining := encoded, endStream := !call.moreBody, phase := .looping }
          call.rounds
        if sent.2 = [] then some sent.1 else none

/-- The state of a send callable, and the pieces that were sent. -/
structure Carriage where
  state : SendState
  sent : List Bytes := []

variable (carrier : Carrier) (env : SendEnv)

/-- `send` with `http.response.body`. `none` means that it raises or does not send everything. -/
def sendBody (carriage : Carriage) (call : BodyCall) : Option Carriage :=
  if carrier = h1 ∧ call.closing then none
  else
    (carrier.bridge.sendBody env carriage.state call.body call.moreBody).bind fun state =>
      let encoded := bodyOf (state.wire.drop carriage.state.wire.length)
      (carrier.handOver call encoded).map fun pieces =>
        { state, sent := carriage.sent ++ pieces }

/-- The state after the hints and the start message. -/
def start (hints : List (List Header)) (status : ℕ) (headers : List Header) : SendState :=
  carrier.bridge.start env
    (hints.foldl (fun state headers => carrier.bridge.start env state 103 headers)
      { compressor := env.compressor })
    status headers

/-- A response, up to some body message. -/
def run (hints : List (List Header)) (status : ℕ) (headers : List Header)
    (calls : List BodyCall) : Option Carriage :=
  calls.foldlM (carrier.sendBody env) { state := carrier.start env hints status headers }

/-- What the messages have of a body: the answer to HEAD has none. -/
def content (calls : List BodyCall) : Bytes :=
  if env.requestMethod = ascii "HEAD" then [] else calls.flatMap BodyCall.body

end Carrier

/-! ## Heads -/

section Bridges

variable (bridge : Bridge) (env : SendEnv) (status : ℕ) (headers : List Header)

/-- One head was sent. It names the encoding of the encoder that is on, and otherwise the encodings
of the application. -/
def Advertised (state : SendState) : Prop :=
  ∃ head, headsOf state.wire = [(status, head)] ∧
    fieldValues (ascii "content-encoding") head =
      match state.compressor with
      | some compressor => [compressor.encoding]
      | none => fieldValues (ascii "content-encoding") (sanitizeHeaders headers)

/-- A response under way, with nothing of its body sent: its head is sent or deferred. -/
structure Begun (state : SendState) : Prop where
  started : state.responseStarted = true
  incomplete : state.responseComplete = false
  silent : bodyOf state.wire = []
  unused : state.ops = []
  method : env.requestMethod = ascii "HEAD" → state.compressor = none
  head : (state.deferredStart = none ∧ Advertised status headers state) ∨
    (state.deferredStart = some (status, bridge.startHeaders env headers) ∧
      headsOf state.wire = [])

/-- A response under way whose head is sent, with so much of its body. -/
structure Underway (state : SendState) (content : Bytes) : Prop where
  started : state.responseStarted = true
  committed : state.deferredStart = none
  method : env.requestMethod = ascii "HEAD" → state.compressor = none
  head : Advertised status headers state
  plain : state.compressor = none → bodyOf state.wire = content
  coded : ∀ compressor, state.compressor = some compressor →
    bodyOf state.wire = compressor.emitted state.ops ∧
      Fed state.ops content state.responseComplete

variable {bridge env status headers}

/-- A head that is committed names what it has to. -/
theorem advertised_commitHead (hlawful : LawfulBridge bridge) (hkeeps : bridge.KeepsEncoder)
    {state : SendState} (hheads : headsOf state.wire = []) :
    Advertised status headers
      (bridge.commitHead env state status (bridge.startHeaders env headers)) := by
  have hown : fieldValues (ascii "content-encoding") (bridge.startHeaders env headers) =
      fieldValues (ascii "content-encoding") (sanitizeHeaders headers) := by
    rw [fieldValues, fieldValues, hlawful.start_fields _ _ _ (by decide)]
  refine ⟨(bridge.buildHead env state.compressor (bridge.startHeaders env headers)).2, ?_, ?_⟩
  · rw [Bridge.commitHead, headsOf_append, hheads]
    rfl
  rw [Bridge.commitHead]
  cases hcompressor : state.compressor with
  | none =>
      obtain ⟨hoff, hsame⟩ := hlawful.buildHead_none env (bridge.startHeaders env headers)
      simp only [hoff, hsame, hown]
  | some compressor =>
      by_cases hruled : bridge.isSse (bridge.startHeaders env headers) ∨
          (bridge.startHeaders env headers).any isContentEncoding
      · obtain ⟨hoff, hsame⟩ := hlawful.buildHead_off env compressor _ hruled
        simp only [hoff, hsame, hown]
      · simp only [hkeeps env compressor _ hruled, hlawful.buildHead_on env compressor _ hruled]

/-- An encoder that is not on offer is not on after the head. -/
theorem commitHead_none (hlawful : LawfulBridge bridge) {state : SendState}
    (hnone : state.compressor = none) :
    (bridge.commitHead env state status headers).compressor = none := by
  rw [Bridge.commitHead, hnone]
  exact (hlawful.buildHead_none env headers).1

/-- After the start message nothing of the body is sent. -/
theorem begun_start (hlawful : LawfulBridge bridge) (hkeeps : bridge.KeepsEncoder)
    (hfinal : status ≠ 103) {state : SendState} (hincomplete : state.responseComplete = false)
    (hsilent : bodyOf state.wire = []) (hunused : state.ops = [])
    (hheads : headsOf state.wire = []) (hopen : state.deferredStart = none) :
    Begun bridge env status headers (bridge.start env state status headers) := by
  have hcommit : ∀ ready : SendState, ready.responseStarted = true →
      ready.responseComplete = false → bodyOf ready.wire = [] → ready.ops = [] →
      headsOf ready.wire = [] → ready.deferredStart = none →
      (env.requestMethod = ascii "HEAD" → ready.compressor = none) →
      Begun bridge env status headers
        (bridge.commitHead env ready status (bridge.startHeaders env headers)) := by
    intro ready hstarted hincomplete hsilent hunused hheads hopen hmethod
    constructor
    case started => exact hstarted
    case incomplete => exact hincomplete
    case silent => rw [Bridge.commitHead, bodyOf_append, hsilent]; rfl
    case unused => exact hunused
    case method => exact fun hhead => commitHead_none hlawful (hmethod hhead)
    case head => exact .inl ⟨hopen, advertised_commitHead hlawful hkeeps hheads⟩
  have hmethod : env.requestMethod = ascii "HEAD" →
      (if bodylessStatus status ∨ env.requestMethod = ascii "HEAD" then none
        else state.compressor) = none := fun hhead => if_pos (.inr hhead)
  simp only [Bridge.start, if_neg hfinal]
  generalize (if bodylessStatus status ∨ env.requestMethod = ascii "HEAD" then none
    else state.compressor) = offered at hmethod ⊢
  by_cases hdefer : offered.isSome ∧ 0 < env.compressionMinSize
  · rw [if_pos hdefer]
    cases getHeader (bridge.startHeaders env headers) (ascii "content-length") with
    | some declared =>
        dsimp only
        refine hcommit _ rfl hincomplete hsilent hunused hheads hopen fun hhead => ?_
        dsimp only
        rw [hmethod hhead, ite_self]
    | none => exact ⟨rfl, hincomplete, hsilent, hunused, hmethod, .inr ⟨rfl, hheads⟩⟩
  · rw [if_neg hdefer]
    exact hcommit _ rfl hincomplete hsilent hunused hheads hopen hmethod

/-- With the first body message the head is sent. -/
theorem underway_resolveDeferred (hlawful : LawfulBridge bridge) (hkeeps : bridge.KeepsEncoder)
    {state : SendState} (hbegun : Begun bridge env status headers state) (body : Bytes)
    (moreBody : Bool) :
    Underway env status headers (bridge.resolveDeferred env state body moreBody) [] ∧
      (bridge.resolveDeferred env state body moreBody).responseComplete = false := by
  have hunused : ∀ ready : SendState, ready.ops = [] → bodyOf ready.wire = [] →
      ready.responseComplete = false → ∀ compressor : Compressor,
      bodyOf ready.wire = compressor.emitted ready.ops ∧
        Fed ready.ops [] ready.responseComplete := by
    intro ready hops hsilent hincomplete compressor
    rw [hops, hsilent, hincomplete]
    exact ⟨rfl, rfl, List.not_mem_nil, .inl rfl⟩
  rcases hbegun.head with ⟨hopen, hadvertised⟩ | ⟨hdeferred, hheads⟩
  · have hsame : bridge.resolveDeferred env state body moreBody = state := by
      rw [Bridge.resolveDeferred, hopen]
    rw [hsame]
    exact ⟨⟨hbegun.started, hopen, hbegun.method, hadvertised, fun _ => hbegun.silent,
      fun compressor _ => hunused state hbegun.unused hbegun.silent hbegun.incomplete compressor⟩,
      hbegun.incomplete⟩
  · have hsilent : bodyOf (bridge.resolveDeferred env state body moreBody).wire = [] := by
      rw [Bridge.resolveDeferred, hdeferred]
      dsimp only [Bridge.commitHead]
      rw [bodyOf_append, hbegun.silent]
      rfl
    have hops : (bridge.resolveDeferred env state body moreBody).ops = [] := by
      rw [Bridge.resolveDeferred, hdeferred]
      exact hbegun.unused
    have hincomplete :
        (bridge.resolveDeferred env state body moreBody).responseComplete = false := by
      rw [Bridge.resolveDeferred, hdeferred]
      exact hbegun.incomplete
    refine ⟨?_, hincomplete⟩
    constructor
    case started =>
      rw [Bridge.resolveDeferred, hdeferred]
      exact hbegun.started
    case committed =>
      rw [Bridge.resolveDeferred, hdeferred]
      rfl
    case method =>
      intro hhead
      rw [Bridge.resolveDeferred, hdeferred]
      apply commitHead_none hlawful
      dsimp only
      rw [hbegun.method hhead, ite_self]
    case head =>
      rw [Bridge.resolveDeferred, hdeferred]
      exact advertised_commitHead hlawful hkeeps hheads
    case plain => exact fun _ => hsilent
    case coded => exact fun compressor _ => hunused _ hops hsilent hincomplete compressor

/-! ## Pieces -/

/-- Passing a piece through the encoder keeps what was returned readable as what was fed. -/
theorem encodeBody_spec {state : SendState} {content : Bytes} (body : Bytes) (moreBody : Bool)
    (hplain : state.compressor = none → bodyOf state.wire = content)
    (hcoded : ∀ compressor, state.compressor = some compressor →
      bodyOf state.wire = compressor.emitted state.ops ∧ Fed state.ops content false) :
    (state.compressor = none →
        bodyOf state.wire ++ (encodeBody state body moreBody).1 = content ++ body) ∧
      ∀ compressor, state.compressor = some compressor →
        bodyOf state.wire ++ (encodeBody state body moreBody).1 =
            compressor.emitted (encodeBody state body moreBody).2 ∧
          Fed (encodeBody state body moreBody).2 (content ++ body) (!moreBody) := by
  constructor
  · intro hnone
    rw [encodeBody, hnone, hplain hnone]
  · intro compressor hsome
    obtain ⟨hbody, hfed⟩ := hcoded compressor hsome
    have hflush := hfed.not_flushed
    by_cases hempty : body = []
    · cases moreBody with
      | true =>
          -- the encoder is left alone
          have hsame : encodeBody state body true = (body, state.ops) := by
            simp [encodeBody, hsome, hempty]
          rw [hsame, hempty, List.append_nil, List.append_nil]
          exact ⟨hbody, hfed⟩
      | false =>
          have hencoded : encodeBody state body false =
              (compressor.output (state.ops ++ [.flush]), state.ops ++ [.flush]) := by
            simp [encodeBody, hsome, hempty]
          rw [hencoded, hempty, List.append_nil, hbody, compressor.emitted_concat]
          exact ⟨rfl, Fed.concat hflush hfed.data false⟩
    · have hencoded : encodeBody state body moreBody =
          (compressor.output (state.ops ++ [.compress body]) ++
              compressor.output (state.ops ++ [.compress body] ++
                [if moreBody then .syncFlush else .flush]),
            state.ops ++ [.compress body] ++ [if moreBody then .syncFlush else .flush]) := by
        simp [encodeBody, hsome, hempty]
      rw [hencoded, hbody, compressor.emitted_concat, compressor.emitted_concat]
      refine ⟨(List.append_assoc ..).symm, Fed.concat ?_ ?_ moreBody⟩
      · intro hmem
        rcases List.mem_append.mp hmem with hmem | hmem
        · exact hflush hmem
        · cases List.mem_singleton.mp hmem
      · rw [fedData_append, hfed.data]
        simp [fedData, CompressOp.data]

/-- What a body message adds to the content. -/
def piece (env : SendEnv) (body : Bytes) : Bytes :=
  if env.requestMethod = ascii "HEAD" then [] else body

/-- A piece of the body is sent in one way or the other. -/
theorem underway_data {ready : SendState} {content : Bytes}
    (hready : Underway env status headers ready content)
    (hincomplete : ready.responseComplete = false) (body : Bytes) (moreBody : Bool) :
    Underway env status headers
      { ready with
        ops := (encodeBody ready body moreBody).2
        wire := ready.wire ++ [.data (encodeBody ready body moreBody).1 !moreBody]
        responseComplete := !moreBody } (content ++ body) := by
  have hcoded : ∀ compressor, ready.compressor = some compressor →
      bodyOf ready.wire = compressor.emitted ready.ops ∧ Fed ready.ops content false := by
    intro compressor hsome
    rw [← hincomplete]
    exact hready.coded compressor hsome
  have hwire : bodyOf (ready.wire ++ [.data (encodeBody ready body moreBody).1 !moreBody]) =
      bodyOf ready.wire ++ (encodeBody ready body moreBody).1 := by
    rw [bodyOf_append]
    exact congrArg _ (List.append_nil _)
  obtain ⟨hplain, hencoded⟩ := encodeBody_spec body moreBody hready.plain hcoded
  constructor
  case started => exact hready.started
  case committed => exact hready.committed
  case method => exact hready.method
  case head =>
    obtain ⟨head, hheads, hencoding⟩ := hready.head
    refine ⟨head, ?_, hencoding⟩
    rw [headsOf_append, hheads]
    rfl
  case plain =>
    intro hnone
    rw [hwire]
    exact hplain hnone
  case coded =>
    intro compressor hsome
    rw [hwire]
    exact hencoded compressor hsome

/-- A body message of a response that is under way. -/
theorem underway_sendBody {state next : SendState} {content body : Bytes} {moreBody : Bool}
    (hunderway : Underway env status headers state content)
    (hsend : bridge.sendBody env state body moreBody = some next) :
    Underway env status headers next (content ++ piece env body) ∧
      next.responseComplete = !moreBody ∧ state.wire <+: next.wire := by
  rw [Bridge.sendBody] at hsend
  cases hincomplete : state.responseComplete with
  | true =>
      rw [hincomplete, Bool.or_true, if_pos rfl] at hsend
      cases hsend
  | false =>
      rw [hincomplete, hunderway.started, if_neg (by decide)] at hsend
      have hsame : bridge.resolveDeferred env state (piece env body) moreBody = state := by
        rw [Bridge.resolveDeferred, hunderway.committed]
      change some _ = some next at hsend
      obtain rfl := Option.some.inj hsend
      rw [show (if env.requestMethod = ascii "HEAD" then [] else body) = piece env body from rfl,
        hsame]
      exact ⟨underway_data hunderway hincomplete _ moreBody, rfl, List.prefix_append _ _⟩

/-- The first body message of a response. -/
theorem begun_sendBody (hlawful : LawfulBridge bridge) (hkeeps : bridge.KeepsEncoder)
    {state next : SendState} {body : Bytes} {moreBody : Bool}
    (hbegun : Begun bridge env status headers state)
    (hsend : bridge.sendBody env state body moreBody = some next) :
    Underway env status headers next (piece env body) ∧
      next.responseComplete = !moreBody ∧ state.wire <+: next.wire := by
  rw [Bridge.sendBody, hbegun.incomplete, hbegun.started, if_neg (by decide)] at hsend
  obtain ⟨hready, hincomplete⟩ :=
    underway_resolveDeferred hlawful hkeeps hbegun (piece env body) moreBody
  have hwire : state.wire <+:
      (bridge.resolveDeferred env state (piece env body) moreBody).wire := by
    rw [Bridge.resolveDeferred]
    split
    case h_1 => exact List.prefix_rfl
    case h_2 => exact List.prefix_append _ _
  change some _ = some next at hsend
  obtain rfl := Option.some.inj hsend
  exact ⟨underway_data hready hincomplete _ moreBody, rfl,
    hwire.trans (List.prefix_append _ _)⟩

end Bridges

/-! ## Responses -/

namespace Carrier

variable (carrier : Carrier) {env : SendEnv}

theorem lawful_bridge : LawfulBridge carrier.bridge := by
  cases carrier with
  | h1 => exact lawful_h1
  | h2 => exact lawful_h2
  | h3 => exact lawful_h3

theorem keepsEncoder_bridge : carrier.bridge.KeepsEncoder := by
  cases carrier with
  | h1 => exact Bridge.keepsEncoder_h1
  | h2 => exact Bridge.keepsEncoder_h2
  | h3 => exact Bridge.keepsEncoder_h3

/-- What the loop of HTTP/2 sends and what it leaves is what it was given. -/
theorem flatten_loopChunks (sender : H2.Sender) (rounds : List (ℤ × ℕ)) :
    (loopChunks sender rounds).1.flatten ++ (loopChunks sender rounds).2 = sender.remaining := by
  induction rounds generalizing sender with
  | nil => rfl
  | cons round rounds ih =>
      cases round with
      | mk window maxOutboundFrameSize =>
          rw [loopChunks]
          split
          case isTrue hempty => exact hempty.symm
          case isFalse =>
            split
            case isTrue => exact ih sender
            case isFalse =>
              dsimp only
              rw [List.flatten_cons, List.append_assoc, ih]
              have hlength : (sender.chunk window maxOutboundFrameSize).length =
                  min sender.remaining.length (min window.toNat maxOutboundFrameSize) := by
                rw [H2.Sender.chunk, List.length_take]
                omega
              dsimp only
              rw [hlength]
              exact List.take_append_drop _ _

/-- What is handed over is everything. -/
theorem flatten_handOver {call : BodyCall} {encoded : Bytes} {pieces : List Bytes}
    (hpieces : carrier.handOver call encoded = some pieces) : pieces.flatten = encoded := by
  have hsingle : (if call.refused then none else some [encoded]) = some pieces →
      pieces.flatten = encoded := by
    intro hpieces
    split at hpieces
    · cases hpieces
    · cases hpieces
      exact List.append_nil _
  cases carrier with
  | h1 => exact hsingle hpieces
  | h3 => exact hsingle hpieces
  | h2 =>
      rw [handOver] at hpieces
      split at hpieces
      case isTrue => cases hpieces
      case isFalse =>
        split at hpieces
        case isTrue hempty =>
          cases hpieces
          rw [hempty]
          cases call.moreBody <;> rfl
        case isFalse =>
          dsimp only at hpieces
          split at hpieces
          case isTrue hleft =>
            cases hpieces
            have hall := flatten_loopChunks
              { streamId := 1, remaining := encoded, endStream := !call.moreBody
                phase := .looping }
              call.rounds
            rwa [hleft, List.append_nil] at hall
          case isFalse => cases hpieces

/-- A body message that is sent in full is one of the bridge. -/
theorem sendBody_spec {carriage next : Carriage} {call : BodyCall}
    (hsend : carrier.sendBody env carriage call = some next) :
    carrier.bridge.sendBody env carriage.state call.body call.moreBody = some next.state ∧
      next.sent.flatten =
        carriage.sent.flatten ++ bodyOf (next.state.wire.drop carriage.state.wire.length) := by
  rw [sendBody] at hsend
  split at hsend
  case isTrue => cases hsend
  case isFalse =>
    obtain ⟨state, hstate, hmap⟩ := Option.bind_eq_some_iff.mp hsend
    obtain ⟨pieces, hpieces, rfl⟩ := Option.map_eq_some_iff.mp hmap
    refine ⟨hstate, ?_⟩
    rw [List.flatten_append, carrier.flatten_handOver hpieces]

/-- The bytes sent stay those of the bridge. -/
theorem sent_of_prefix {carriage next : Carriage}
    (hsent : carriage.sent.flatten = bodyOf carriage.state.wire)
    (hwire : carriage.state.wire <+: next.state.wire)
    (hnext : next.sent.flatten =
      carriage.sent.flatten ++ bodyOf (next.state.wire.drop carriage.state.wire.length)) :
    next.sent.flatten = bodyOf next.state.wire := by
  obtain ⟨rest, hrest⟩ := hwire
  rw [hnext, hsent, ← hrest, List.drop_left, bodyOf_append]

/-- After the hints and the start message nothing of the body is sent. -/
theorem begun (hints : List (List Header)) {status : ℕ} (hfinal : status ≠ 103)
    (headers : List Header) :
    Begun carrier.bridge env status headers (carrier.start env hints status headers) := by
  have hhints : ∀ state : SendState, state.responseComplete = false → bodyOf state.wire = [] →
      state.ops = [] → headsOf state.wire = [] → state.deferredStart = none →
      Begun carrier.bridge env status headers (carrier.bridge.start env
        (hints.foldl (fun state headers => carrier.bridge.start env state 103 headers) state)
        status headers) := by
    induction hints with
    | nil =>
        intro state hincomplete hsilent hunused hheads hopen
        exact begun_start carrier.lawful_bridge carrier.keepsEncoder_bridge hfinal hincomplete
          hsilent hunused hheads hopen
    | cons hint hints ih =>
        intro state hincomplete hsilent hunused hheads hopen
        have hstart : carrier.bridge.start env state 103 hint =
            { state with wire := state.wire ++ [.informational (sanitizeHeaders hint)] } := rfl
        rw [List.foldl_cons, hstart]
        apply ih
        case _ => exact hincomplete
        case _ =>
          rw [bodyOf_append, hsilent]
          rfl
        case _ => exact hunused
        case _ =>
          rw [headsOf_append, hheads]
          rfl
        case _ => exact hopen
  exact hhints _ rfl rfl rfl rfl rfl

/-- A response with at least one body message is under way with the content of the messages, which
is sent. -/
theorem run_underway {hints : List (List Header)} {status : ℕ} (hfinal : status ≠ 103)
    {headers : List Header} {calls : List BodyCall} {last : BodyCall} {carriage : Carriage}
    (hrun : carrier.run env hints status headers (calls ++ [last]) = some carriage) :
    Underway env status headers carriage.state (content env (calls ++ [last])) ∧
      carriage.state.responseComplete = !last.moreBody ∧
        carriage.sent.flatten = bodyOf carriage.state.wire := by
  have hpiece : ∀ (calls : List BodyCall) (call : BodyCall),
      content env (calls ++ [call]) = content env calls ++ piece env call.body := by
    intro calls call
    rw [content, content, piece]
    by_cases hhead : env.requestMethod = ascii "HEAD"
    · simp only [if_pos hhead, List.append_nil]
    · simp only [if_neg hhead]
      simp
  induction calls using List.reverseRecOn generalizing last carriage with
  | nil =>
      have hbegun : Begun carrier.bridge env status headers
          (carrier.start env hints status headers) := carrier.begun hints hfinal headers
      have hsend : carrier.sendBody env { state := carrier.start env hints status headers } last =
          some carriage := by
        rw [run, List.nil_append, List.foldlM_cons] at hrun
        obtain ⟨next, hnext, hnil⟩ := Option.bind_eq_some_iff.mp hrun
        cases hnil
        exact hnext
      obtain ⟨hstate, hsent⟩ := carrier.sendBody_spec hsend
      obtain ⟨hunderway, hcomplete, hwire⟩ :=
        begun_sendBody carrier.lawful_bridge carrier.keepsEncoder_bridge hbegun hstate
      have hbytes : ({ state := carrier.start env hints status headers } : Carriage).sent.flatten =
          bodyOf (carrier.start env hints status headers).wire := hbegun.silent.symm
      refine ⟨?_, hcomplete, sent_of_prefix hbytes hwire hsent⟩
      have hnil : content env [] = [] := by
        rw [content]
        exact ite_self _
      rw [hpiece, hnil, List.nil_append]
      exact hunderway
  | append_singleton calls previous ih =>
      rw [run, List.foldlM_append] at hrun
      obtain ⟨before, hbefore, hlast⟩ := Option.bind_eq_some_iff.mp hrun
      have hsend : carrier.sendBody env before last = some carriage := by
        rw [List.foldlM_cons] at hlast
        obtain ⟨next, hnext, hnil⟩ := Option.bind_eq_some_iff.mp hlast
        cases hnil
        exact hnext
      obtain ⟨hunderway, -, hbytes⟩ := ih hbefore
      obtain ⟨hstate, hsent⟩ := carrier.sendBody_spec hsend
      obtain ⟨hnext, hcomplete, hwire⟩ := underway_sendBody hunderway hstate
      refine ⟨?_, hcomplete, sent_of_prefix hbytes hwire hsent⟩
      rw [hpiece]
      exact hnext

end Carrier

/-- One head has been sent. If it names the encoding of the server's encoder, any decoder for it
reads the bytes sent as the content, and as a whole stream at its end; the encoder was flushed
once, at the end. Otherwise the head names the encodings of the application, and the bytes sent are
the content. -/
def CodedBody (status : ℕ) (headers : List Header) (content : Bytes) (whole : Bool)
    (carriage : Carrier.Carriage) : Prop :=
  ∃ head, headsOf carriage.state.wire = [(status, head)] ∧
    ((∃ compressor, carriage.state.compressor = some compressor ∧
        fieldValues (ascii "content-encoding") head = [compressor.encoding] ∧
        (∀ decoder : Decoder compressor,
          decoder.read carriage.sent.flatten = some (content, whole)) ∧
        .flush ∉ carriage.state.ops.dropLast ∧
        (whole = true → carriage.state.ops.getLast? = some .flush)) ∨
      (carriage.state.compressor = none ∧
        fieldValues (ascii "content-encoding") head =
          fieldValues (ascii "content-encoding") (sanitizeHeaders headers) ∧
        carriage.sent.flatten = content))

/-- After each body message that was sent in full, with all before it, the body is coded as the
head says, or sent as it is. -/
theorem body_coded (carrier : Carrier) (env : SendEnv) (hints : List (List Header)) (status : ℕ)
    (headers : List Header) (calls : List BodyCall) (last : BodyCall)
    (carriage : Carrier.Carriage) (hfinal : status ≠ 103)
    (hrun : carrier.run env hints status headers (calls ++ [last]) = some carriage) :
    CodedBody status headers (Carrier.content env (calls ++ [last])) (!last.moreBody) carriage := by
  obtain ⟨hunderway, hcomplete, hsent⟩ := carrier.run_underway hfinal hrun
  obtain ⟨head, hheads, hencoding⟩ := hunderway.head
  refine ⟨head, hheads, ?_⟩
  cases hcompressor : carriage.state.compressor with
  | none =>
      right
      rw [hcompressor] at hencoding
      refine ⟨rfl, hencoding, ?_⟩
      rw [hsent]
      exact hunderway.plain hcompressor
  | some compressor =>
      left
      rw [hcompressor] at hencoding
      obtain ⟨hbytes, hfed⟩ := hunderway.coded compressor hcompressor
      rw [hcomplete] at hfed
      refine ⟨compressor, rfl, hencoding, fun decoder => ?_, hfed.once, ?_⟩
      · rw [hsent, hbytes]
        exact decoder.read_fed hfed
      · intro hwhole
        have hsettled := hfed.settled
        rwa [hwhole, if_pos rfl] at hsettled

/-! ## A codec -/

/-- The header of a zstd frame whose size is not known ahead. -/
def zstdHeader : Bytes := [0x28, 0xb5, 0x2f, 0xfd, 0x00, 0x58]

/-- Raw blocks of one byte each. -/
def rawBlocks (data : Bytes) : Bytes := data.flatMap fun byte => [8, 0, 0, byte]

/-- Raw blocks that end the frame. -/
def lastBlocks : Bytes → Bytes
  | [] => [1, 0, 0]
  | [byte] => [9, 0, 0, byte]
  | byte :: next :: rest => [8, 0, 0, byte] ++ lastBlocks (next :: rest)

/-- What an encoder of raw blocks keeps. -/
structure ZstdState where
  /-- The header has been returned. -/
  begun : Bool := false
  /-- What it was fed since it was synchronized. -/
  pending : Bytes := []

/-- The state after an operation, and what that returns. Data is kept until it is asked for. -/
def ZstdState.apply (state : ZstdState) : CompressOp → ZstdState × Bytes
  | .compress data => ({ state with pending := state.pending ++ data }, [])
  | .syncFlush =>
      ({ begun := true }, (if state.begun then [] else zstdHeader) ++ rawBlocks state.pending)
  | .flush =>
      ({ begun := true }, (if state.begun then [] else zstdHeader) ++ lastBlocks state.pending)

/-- The state after some operations. -/
def zstdState (ops : List CompressOp) : ZstdState :=
  ops.foldl (fun state op => (state.apply op).1) {}

theorem zstdState_concat (ops : List CompressOp) (op : CompressOp) :
    zstdState (ops ++ [op]) = ((zstdState ops).apply op).1 := by
  rw [zstdState, List.foldl_concat, ← zstdState]

theorem lastBlocks_ne_nil (data : Bytes) : lastBlocks data ≠ [] := by
  cases data with
  | nil => exact List.cons_ne_nil _ _
  | cons byte data => cases data <;> exact List.cons_ne_nil _ _

/-- An encoder of zstd that never finds anything to compress. For messages of one byte zstd returns
the same. -/
def rawZstd : Compressor where
  encoding := ascii "zstd"
  output ops := (ops.getLast?.map fun op => ((zstdState ops.dropLast).apply op).2).getD []
  oneShot_ne_nil _ := List.append_ne_nil_of_right_ne_nil _
    (List.append_ne_nil_of_right_ne_nil _ (lastBlocks_ne_nil _))

/-- Read the blocks of a frame, and whether its end is among them. -/
def readBlocks : Bytes → Option (Bytes × Bool)
  | [] => some ([], false)
  | size :: _ :: _ :: rest =>
      if size = 1 then some ([], true)
      else
        match rest with
        | [] => none
        | byte :: rest =>
            if size = 9 then some ([byte], true)
            else (readBlocks rest).map fun more => (byte :: more.1, more.2)
  | _ => none

theorem readBlocks_cons (byte : UInt8) (rest : Bytes) :
    readBlocks (8 :: 0 :: 0 :: byte :: rest) =
      (readBlocks rest).map fun more => (byte :: more.1, more.2) := by
  rw [readBlocks, if_neg (by decide)]
  exact if_neg (by decide)

theorem readBlocks_rawBlocks (data rest : Bytes) :
    readBlocks (rawBlocks data ++ rest) =
      (readBlocks rest).map fun more => (data ++ more.1, more.2) := by
  induction data with
  | nil => exact Option.map_id'.symm
  | cons byte data ih =>
      have hblock : rawBlocks (byte :: data) ++ rest =
          8 :: 0 :: 0 :: byte :: (rawBlocks data ++ rest) := rfl
      rw [hblock, readBlocks_cons, ih, Option.map_map]
      rfl

theorem readBlocks_lastBlocks (data : Bytes) : readBlocks (lastBlocks data) = some (data, true) := by
  induction data with
  | nil => rfl
  | cons byte data ih =>
      cases data with
      | nil => rfl
      | cons next data =>
          rw [lastBlocks, List.cons_append, List.cons_append, List.cons_append, List.cons_append,
            List.nil_append, readBlocks_cons, ih]
          rfl

theorem output_rawZstd (ops : List CompressOp) (op : CompressOp) :
    rawZstd.output (ops ++ [op]) = ((zstdState ops).apply op).2 := by
  change ((ops ++ [op]).getLast?.map fun last =>
    ((zstdState (ops ++ [op]).dropLast).apply last).2).getD [] = _
  rw [List.getLast?_concat, List.dropLast_concat]
  rfl

/-- What has been returned are the blocks of what was fed, up to what is still kept. -/
theorem emitted_rawZstd {ops : List CompressOp} (hflush : .flush ∉ ops) :
    ∃ settled, fedData ops = settled ++ (zstdState ops).pending ∧
      rawZstd.emitted ops =
        (if (zstdState ops).begun then zstdHeader else []) ++ rawBlocks settled ∧
      ((zstdState ops).begun = false → settled = []) := by
  induction ops using List.reverseRecOn with
  | nil => exact ⟨[], rfl, rfl, fun _ => rfl⟩
  | append_singleton ops op ih =>
      obtain ⟨settled, hfed, hemitted, hnothing⟩ :=
        ih fun hmem => hflush (List.mem_append_left _ hmem)
      rw [Compressor.emitted_concat, output_rawZstd, zstdState_concat, fedData_append, hemitted,
        hfed]
      cases op with
      | compress data =>
          refine ⟨settled, ?_, List.append_nil _, hnothing⟩
          rw [List.append_assoc]
          congr 2
          exact List.append_nil data
      | syncFlush =>
          refine ⟨settled ++ (zstdState ops).pending, rfl, ?_, fun hnot => (by cases hnot)⟩
          have hblocks : rawBlocks (settled ++ (zstdState ops).pending) =
              rawBlocks settled ++ rawBlocks (zstdState ops).pending := List.flatMap_append
          rw [hblocks]
          cases hbegun : (zstdState ops).begun with
          | true => simp [ZstdState.apply, hbegun]
          | false => simp [ZstdState.apply, hbegun, hnothing hbegun, rawBlocks]
      | flush => exact absurd (List.mem_append_right _ List.mem_cons_self) hflush

/-- It has a decoder. -/
def zstdDecoder : Decoder rawZstd where
  read bytes :=
    if bytes = [] then some ([], false)
    else if zstdHeader.isPrefixOf bytes then readBlocks (bytes.drop zstdHeader.length)
    else none
  read_nil := rfl
  read_syncFlush ops hflush := by
    have hflush' : .flush ∉ ops ++ [.syncFlush] := by simpa using hflush
    obtain ⟨settled, hfed, hemitted, -⟩ := emitted_rawZstd hflush'
    rw [zstdState_concat] at hfed hemitted
    rw [hemitted, ZstdState.apply, if_pos rfl, if_neg (by simp [zstdHeader]), if_pos (by simp),
      List.drop_left, ← List.append_nil (rawBlocks settled), readBlocks_rawBlocks]
    have hsettled : settled = fedData ops := by
      simpa [ZstdState.apply, fedData, CompressOp.data] using hfed.symm
    simp [readBlocks, hsettled]
  read_flush ops hflush := by
    obtain ⟨settled, hfed, hemitted, hnothing⟩ := emitted_rawZstd hflush
    have hall : rawZstd.emitted (ops ++ [.flush]) =
        zstdHeader ++ (rawBlocks settled ++ lastBlocks (zstdState ops).pending) := by
      rw [Compressor.emitted_concat, output_rawZstd, hemitted]
      cases hbegun : (zstdState ops).begun with
      | true => simp [ZstdState.apply, hbegun]
      | false => simp [ZstdState.apply, hbegun, hnothing hbegun, rawBlocks]
    rw [hall, if_neg (by simp [zstdHeader]), if_pos (by simp), List.drop_left,
      readBlocks_rawBlocks, readBlocks_lastBlocks, hfed]
    rfl

/-- A response in three messages, the second without data, for which zstd was negotiated. -/
def codedCalls : List BodyCall :=
  [{ body := ascii "o", moreBody := true, rounds := [(4, 16384), (0, 16384), (100, 16384)] },
    { body := [], moreBody := true }]

/-- Over HTTP/2 it is sent in three chunks, from which the data is read again. -/
theorem body_coded_ok :
    ∃ carriage, Carrier.h2.run
        { requestMethod := ascii "GET", compressor := some rawZstd, compressionMinSize := 0 }
        [] 200 [] (codedCalls ++
          [{ body := ascii "k", moreBody := false, rounds := [(100, 16384)] }]) = some carriage ∧
      carriage.sent = [[0x28, 0xb5, 0x2f, 0xfd], [0x00, 0x58, 8, 0, 0, 111], [9, 0, 0, 107]] ∧
      CodedBody 200 [] (ascii "ok") true carriage ∧
      zstdDecoder.read carriage.sent.flatten = some (ascii "ok", true) := by
  refine ⟨_, rfl, rfl, body_coded .h2
    { requestMethod := ascii "GET", compressor := some rawZstd, compressionMinSize := 0 }
    [] 200 [] codedCalls { body := ascii "k", moreBody := false, rounds := [(100, 16384)] } _
    (by decide) rfl, by decide⟩

/-- The answer to HEAD does not have the body of the messages. -/
theorem body_dropped :
    ¬ ∀ (carrier : Carrier) (env : SendEnv) (hints : List (List Header)) (status : ℕ)
      (headers : List Header) (calls : List BodyCall) (last : BodyCall)
      (carriage : Carrier.Carriage), status ≠ 103 →
      carrier.run env hints status headers (calls ++ [last]) = some carriage →
        CodedBody status headers ((calls ++ [last]).flatMap BodyCall.body) (!last.moreBody)
          carriage := by
  intro hall
  have hcoded := hall .h1 { requestMethod := ascii "HEAD", compressor := none } [] 200 [] []
    { body := ascii "a", moreBody := false } _ (by decide) rfl
  obtain ⟨-, -, ⟨compressor, hsome, -⟩ | ⟨-, -, hsent⟩⟩ := hcoded
  · cases hsome
  · cases hsent

end Asgi

end Pounce
