/-
# What the workers report

The asynchronous worker, the synchronous worker and the pool for streaming responses each
report what they do to the collector. For each of them this module gives the events of a
connection, with the marks where a request starts and where it ends: an end may be reported
with an event, or with none.

What decides about the events is data: whether the body exceeds the limit, whether an endpoint of
the server answers, where an error gets out, whether the client is found gone, what the
application does. A request that is handed to the pool goes on there, beside the rest of the
connection.
-/

import Pounce.Lifecycle

namespace Pounce.Metrics

open Pounce.Math

/-! ## The pool -/

/-- A streaming response in `_handle_streaming_handoff`. -/
structure StreamingRun where
  method : Bytes
  path : Bytes
  /-- The socket gets no transport, or the task ends before it calls the application. -/
  fails : Bool := false
  /-- The stream is opened, and why it ends. -/
  stream : Option StreamReason := none
  status : ℕ := 200
  bytesSent : ℕ := 0
  streaming : Bool := false
  deriving DecidableEq, Repr

/-- What is handed to the pool. -/
inductive Handoff
  | streaming (run : StreamingRun)
  | webSocket
  deriving DecidableEq, Repr

/-- A step of a handler that matters to the collector, or to the requests in flight. -/
inductive Mark
  | note (event : LifecycleEvent)
  /-- A request starts. -/
  | start (event : LifecycleEvent)
  /-- It ends. -/
  | finish (event : Option LifecycleEvent)
  /-- It goes on in the pool. -/
  | handOff (connectionId : ℕ) (handoff : Handoff)
  deriving DecidableEq, Repr

/-- `_handle_streaming_handoff`, from where it takes over the request. -/
def StreamingRun.marks (connectionId : ℕ) (run : StreamingRun) : List Mark :=
  if run.fails then [.finish none]
  else
    (match run.stream with
      | some reason =>
          [.note (.streamOpened connectionId run.method run.path),
            .note (.streamClosed connectionId reason)]
      | none => []) ++
      [.finish (some (.responseCompleted connectionId
        (if run.status = 0 then 500 else run.status) run.bytesSent run.method run.streaming))]

/-- `_handle_handoff_async`. Nothing is reported of a WebSocket. -/
def Handoff.marks (connectionId : ℕ) : Handoff → List Mark
  | .streaming run => run.marks connectionId
  | .webSocket => [.finish none]

/-! ## The asynchronous worker -/

/-- Where an error or a cancellation leaves `_handle_request`. -/
inductive RequestFailure
  /-- Before the limit is checked. -/
  | preparing
  /-- Where the interim response is sent. -/
  | continuing
  /-- While the application runs; this can only be a cancellation. -/
  | running
  deriving DecidableEq, Repr

/-- A request in `_handle_request`. -/
structure RequestRun where
  method : Bytes
  target : Bytes
  path : Bytes
  failure : Option RequestFailure := none
  /-- `_body_exceeds_limit`. -/
  exceedsLimit : Bool := false
  /-- An endpoint of the server answers, and whether sending its answer raises an error. -/
  builtin : Option Bool := none
  /-- The client is found gone before the application is done, during streaming or not. -/
  disconnect : Option Bool := none
  /-- The stream is opened, after that or before, and why it ends. -/
  stream : Option (Bool × StreamReason) := none
  responseStarted : Bool := true
  status : ℕ := 200
  bytesSent : ℕ := 0
  streaming : Bool := false
  deriving DecidableEq, Repr

namespace RequestRun

variable (connectionId : ℕ) (run : RequestRun)

/-- The stream is opened. -/
def opened (late : Bool) : List Mark :=
  if run.stream.any (·.1 = late) then
    [.note (.streamOpened connectionId run.method run.path)]
  else []

/-- The client is found gone. -/
def gone : List Mark :=
  match run.disconnect with
  | some duringStreaming => [.note (.clientDisconnected connectionId duringStreaming)]
  | none => []

/-- What is reported while the application runs. -/
def running : List Mark :=
  run.opened connectionId false ++ run.gone connectionId ++ run.opened connectionId true

/-- What is reported when it has run. -/
def completed : List Mark :=
  (match run.stream with
    | some (_, reason) => [.note (.streamClosed connectionId reason)]
    | none => []) ++
    [.finish (some (.responseCompleted connectionId
      (if run.responseStarted then run.status else 500) run.bytesSent run.method run.streaming))]

/-- `_handle_request` from the event on, and whether it raises an error. -/
def outcome : List Mark × Bool :=
  if run.failure = some .preparing then ([.finish none], true)
  else if run.exceedsLimit then ([.finish none], false)
  else
    match run.builtin with
    | some raises => ([.finish none], raises)
    | none =>
        if run.failure = some .continuing then ([.finish none], true)
        else if run.failure = some .running then
          (run.running connectionId ++ [.finish none], true)
        else (run.running connectionId ++ run.completed connectionId, false)

/-- `_handle_request`. -/
def marks : List Mark :=
  .start (.requestStarted connectionId run.method run.target) :: (run.outcome connectionId).1

end RequestRun

/-- What a connection asks for. -/
inductive Turn
  | request (run : RequestRun)
  /-- An upgrade, of which nothing is reported. It takes over the connection. -/
  | webSocket
  deriving DecidableEq, Repr

/-- A connection in `_handle_connection`, past admission. -/
structure ConnectionRun where
  protocol : ConnectionProtocol := .h1
  turns : List Turn
  /-- Why the loop ends. -/
  reason : CloseReason := .complete
  deriving DecidableEq, Repr

/-- The loop of `_handle_connection`, and how many requests it counts. -/
def serveTurns (connectionId : ℕ) : List Turn → List Mark × ℕ
  | [] => ([], 0)
  | .webSocket :: _ => ([], 1)
  | .request run :: turns =>
      if (run.outcome connectionId).2 then (run.marks connectionId, 1)
      else
        let others := serveTurns connectionId turns
        (run.marks connectionId ++ others.1, others.2 + 1)

/-- `_handle_connection`. Of the requests of HTTP/2 nothing is reported. -/
def ConnectionRun.marks (connectionId : ℕ) (run : ConnectionRun) : List Mark :=
  let served : List Mark × ℕ :=
    match run.protocol with
    | .h1 => serveTurns connectionId run.turns
    | .h2 => ([], 0)
  .note (.connectionOpened connectionId run.protocol) :: served.1 ++
    [.note (.connectionCompleted connectionId served.2 0 run.reason)]

/-! ## The synchronous worker -/

/-- What is raised, as `_handle_connection_impl` tells it apart. -/
inductive ErrorKind
  | timeout
  | os
  | other
  deriving DecidableEq, Repr

/-- A response, and whether writing it raises an error. -/
structure Reply where
  status : ℕ := 200
  bytesSent : ℕ := 0
  streaming : Bool := false
  error : Option ErrorKind := none
  deriving DecidableEq, Repr

/-- What becomes of a request in `_handle_connection_impl`. -/
inductive SyncFate
  | webSocket
  /-- An error gets out before there is a response. -/
  | raised (error : ErrorKind)
  /-- `handle_sync` answers. -/
  | fused (reply : Reply)
  /-- An endpoint of the server answers; nothing is reported but of the health endpoint. -/
  | builtin (health : Bool) (reply : Reply)
  /-- The application raises an error. -/
  | appError
  /-- The application streams its response. -/
  | needsAsync (run : StreamingRun)
  /-- The application answers. -/
  | inline (reply : Reply)
  deriving DecidableEq, Repr

/-- A request in `_handle_connection_impl`. -/
structure SyncRequest where
  method : Bytes
  target : Bytes
  fate : SyncFate
  deriving DecidableEq, Repr

/-- The `except` clauses of `_handle_connection_impl`. -/
def ErrorKind.outcome (connectionId : ℕ) : ErrorKind → List Mark × Option CloseReason
  | .timeout => ([.finish none], some .writeTimeout)
  | .os =>
      ([.finish (some (.clientDisconnected connectionId false))], some .clientDisconnect)
  | .other => ([.finish none], some .complete)

/-- `_serialize_send_and_log`. -/
def Reply.outcome (connectionId : ℕ) (method : Bytes) (reply : Reply)
    (ending : Option CloseReason) : List Mark × Option CloseReason :=
  match reply.error with
  | some error => error.outcome connectionId
  | none =>
      ([.finish (some (.responseCompleted connectionId reply.status reply.bytesSent method
        reply.streaming))], ending)

/-- The body of the loop of `_handle_connection_impl` from the event on, and how the connection
ends, if it does. -/
def SyncRequest.outcome (connectionId : ℕ) (hasPool : Bool) (request : SyncRequest) :
    List Mark × Option CloseReason :=
  match request.fate with
  | .webSocket =>
      (if hasPool then [.handOff connectionId .webSocket] else [.finish none], some .complete)
  | .raised error => error.outcome connectionId
  | .fused reply => reply.outcome connectionId request.method (some .complete)
  | .builtin health reply =>
      if health then { reply with streaming := false }.outcome connectionId request.method none
      else
        match reply.error with
        | some error => error.outcome connectionId
        | none => ([.finish none], none)
  | .appError => ([.finish none], some .complete)
  | .needsAsync run =>
      (if hasPool then [.handOff connectionId (.streaming run)] else [.finish none],
        some .complete)
  | .inline reply => reply.outcome connectionId request.method none

/-- The loop of `_handle_connection_impl`, how many requests it counts, and how it ends. -/
def serveSync (connectionId : ℕ) (hasPool : Bool) :
    List SyncRequest → List Mark × ℕ × CloseReason
  | [] => ([], 0, .complete)
  | request :: requests =>
      let handled := request.outcome connectionId hasPool
      let marks :=
        .start (.requestStarted connectionId request.method request.target) :: handled.1
      match handled.2 with
      | some reason => (marks, 1, reason)
      | none =>
          let others := serveSync connectionId hasPool requests
          (marks ++ others.1, others.2.1 + 1, others.2.2)

/-- `_handle_connection_impl`. -/
def syncMarks (connectionId : ℕ) (hasPool : Bool) (requests : List SyncRequest) : List Mark :=
  let served := serveSync connectionId hasPool requests
  .note (.connectionOpened connectionId .h1) :: served.1 ++
    [.note (.connectionCompleted connectionId served.2.1 0 served.2.2)]

end Pounce.Metrics
