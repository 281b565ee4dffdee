/-
# The handler of an HTTP/2 connection

`handle_h2_connection` reads from the connection in a loop, hands the bytes to the h2 library
and dispatches the events it gets for them. Every stream has a task of its own, which takes
itself out of the tables of the handler at its end. A read is dispatched in one go, event by
event; the tasks run while the loop waits for the next read or for the transport. However
the loop is left, the tasks that are then in the table are cancelled.

The h2 library is a parameter. What a stream's application does in between is a sequence of
calls on the objects all tasks share, in any order: which ones a send makes, and how it waits
for its turn and for credit, is the subject of `Pounce.H2.Connection`. A send callable
outlives its task, and so may the calls. The bodies in the queues are left to
`Pounce.StreamBody`. Besides the variables of the source a state has records that nothing
depends on: what was sent, which events were gone through or left out, and how each stream
came to its end.
-/

import Mathlib.Data.Finset.Basic
import Pounce.Asgi.Scope
import Pounce.Math.Transition
import Pounce.Priority
import Pounce.Sending

namespace Pounce.H2

open Pounce.Math Pounce.Math.Bytes Pounce.Asgi

/-! ## The library -/

/-- What the handler asks of the connection of the h2 library. A call that sends tells
whether the frame was taken; otherwise it has raised. -/
structure Codec (Conn : Type) extends Library Conn where
  /-- `receive_data`, which raises where the peer breaks the protocol. -/
  receiveData : Conn → Bytes → Option (Conn × List LibraryEvent)
  sendHeaders : Conn → (streamId status : ℕ) → List Header → (endStream : Bool) → Conn × Bool
  sendData : Conn → (streamId : ℕ) → Bytes → (endStream : Bool) → Conn × Bool

/-- What a connection is served with. -/
structure Env (Conn : Type) where
  codec : Codec Conn
  config : ServerConfig := {}
  client : String × ℕ := ("127.0.0.1", 50000)
  server : String × ℕ := ("127.0.0.1", 8000)

/-! ## State -/

/-- Why a task is cancelled. -/
inductive Cancellation where
  /-- The body of the request exceeds the limit. -/
  | tooLarge
  /-- The stream was reset. -/
  | reset
  /-- The handler has left its loop. -/
  | leaving
  deriving DecidableEq, Repr

/-- The task of a stream, until it is done. -/
structure StreamTask where
  request : RequestReceived
  webSocket : Bool := false
  /-- It has taken its first step. -/
  started : Bool := false
  /-- `send_state.status`. -/
  status : ℕ := 0
  cancelled : Option Cancellation := none
  deriving DecidableEq, Repr

/-- Why the loop was left. -/
inductive Cause where
  | goAway
  /-- No read for `keep_alive_timeout`, and no stream. -/
  | idle
  /-- The connection is gone, or the transport cannot be drained. -/
  | disconnected
  /-- The peer has broken the protocol. -/
  | invalid
  /-- What was done for a stream has raised. -/
  | failed
  deriving DecidableEq, Repr

/-- Where the loop stands. -/
inductive Loop where
  | reading
  | dispatching (events : List H2Event)
  | draining
  | leaving (cause : Cause)
  deriving DecidableEq, Repr

/-- How a stream came to its end. -/
inductive Fate where
  /-- Its task ran to its end. -/
  | completed
  /-- It was answered with 413. -/
  | refused
  | reset
  /-- Its task was cancelled because the loop was left. -/
  | cutOff
  deriving DecidableEq, Repr

/-- The state of a connection. -/
structure Handler (Conn : Type) where
  h2 : H2Connection Conn
  scheduler : PriorityScheduler := {}
  streamTasks : Finset ℕ := ∅
  streamBodyBytes : ℕ → Option ℕ := fun _ => none
  streamBodyRejected : Finset ℕ := ∅
  /-- The tasks that are not done. -/
  tasks : ℕ → Option StreamTask := fun _ => none
  loop : Loop := .reading
  /-- The frames the library has taken. -/
  sent : List SentFrame := []
  /-- The streams that have been given a send callable, and whether for a WebSocket. -/
  begun : ℕ → Option Bool := fun _ => none
  fates : ℕ → Option Fate := fun _ => none
  /-- The events that were gone through. -/
  dispatched : List H2Event := []
  /-- The events the loop was left with. -/
  skipped : List H2Event := []

/-! ## What is sent -/

/-- `_content_length_exceeds_limit`. -/
def contentLengthExceedsLimit (limit : ℕ) (request : RequestReceived) : Bool :=
  ((getHeader request.headers (ascii "content-length")).bind readInt).any fun length =>
    (limit : ℤ) < length

/-- The headers of a 413 response. -/
def tooLargeHeaders : List Header :=
  [(ascii "content-type", ascii "text/plain"),
    (ascii "x-pounce-error-code", ascii "POUNCE_LIMIT_REQUEST_TOO_LARGE")]

/-- The headers of a 408 response. -/
def timeoutHeaders : List Header :=
  [(ascii "content-type", ascii "text/plain"),
    (ascii "x-pounce-error-code", ascii "POUNCE_TIMEOUT_REQUEST_BODY")]

/-- `_H2_ERROR_ENHANCE_YOUR_CALM`. -/
def enhanceYourCalm : ℕ := 0xB

/-- The error code CANCEL. -/
def cancelCode : ℕ := 0x8

namespace Handler

variable {Conn : Type} (env : Env Conn) (handler : Handler Conn)

/-- `H2Connection.send_response_headers`, and whether it did not raise. -/
def sendHeaders (streamId status : ℕ) (headers : List Header) (endStream : Bool) :
    Handler Conn × Bool :=
  let (conn, taken) := env.codec.sendHeaders handler.h2.conn streamId status headers endStream
  let frames := if taken then [.headers streamId status headers endStream] else []
  ({ handler with h2 := { handler.h2 with conn }, sent := handler.sent ++ frames }, taken)

/-- `H2Connection.send_data`, and whether it did not raise. -/
def sendData (streamId : ℕ) (data : Bytes) (endStream : Bool) : Handler Conn × Bool :=
  if data = [] ∧ ¬ endStream then (handler, true)
  else
    let (conn, taken) := env.codec.sendData handler.h2.conn streamId data endStream
    let frames := if taken then [.data streamId data endStream] else []
    ({ handler with h2 := { handler.h2 with conn }, sent := handler.sent ++ frames }, taken)

/-- `H2Connection.reset_stream`, and whether it did not raise. -/
def resetStream (streamId errorCode : ℕ) : Handler Conn × Bool :=
  match handler.h2.resetStream env.codec.toLibrary streamId errorCode with
  | none => (handler, false)
  | some h2 =>
      ({ handler with h2, sent := handler.sent ++ [.resetStream streamId errorCode] }, true)

/-- `_send_request_too_large`. -/
def sendRequestTooLarge (streamId : ℕ) : Handler Conn × Bool :=
  let inboundOpen := !handler.h2.streamEnded streamId
  match handler.sendHeaders env streamId 413 tooLargeHeaders true with
  | (raised, false) => (raised, false)
  | (answered, true) =>
      match
        if inboundOpen then answered.resetStream env streamId enhanceYourCalm
        else ({ answered with h2 := answered.h2.removeStream streamId }, true) with
      | (raised, false) => (raised, false)
      | (closed, true) =>
          ({ closed with
            scheduler := closed.scheduler.removeStream streamId
            streamBodyBytes := Function.update closed.streamBodyBytes streamId none
            streamBodyRejected := insert streamId closed.streamBodyRejected }, true)

/-- `_send_request_timeout`. -/
def sendRequestTimeout (streamId : ℕ) : Handler Conn :=
  let inboundOpen := !handler.h2.streamEnded streamId
  match handler.sendHeaders env streamId 408 timeoutHeaders true with
  | (raised, false) => raised
  | (answered, true) =>
      if inboundOpen then (answered.resetStream env streamId cancelCode).1 else answered

/-- The 500 response of a failed application. -/
def sendServerError (streamId : ℕ) : Handler Conn :=
  match handler.sendHeaders env streamId 500 [(ascii "content-type", ascii "text/plain")] false with
  | (raised, false) => raised
  | (answered, true) => (answered.sendData env streamId (ascii "Internal Server Error") true).1

/-! ## Events -/

/-- The first end a stream comes to is its fate. -/
def settle (streamId : ℕ) (fate : Fate) : Handler Conn :=
  { handler with
    fates := Function.update handler.fates streamId ((handler.fates streamId).or (some fate)) }

/-- Cancel the task of a stream, if it is not done. -/
def cancel (streamId : ℕ) (cancellation : Cancellation) : Handler Conn :=
  { handler with
    tasks := Function.update handler.tasks streamId ((handler.tasks streamId).map fun task =>
      { task with cancelled := task.cancelled.or (some cancellation) }) }

/-- Make a task for a stream. -/
def createTask (streamId : ℕ) (task : StreamTask) : Handler Conn :=
  { handler with
    tasks := Function.update handler.tasks streamId (some task)
    streamTasks := insert streamId handler.streamTasks }

/-- A body event. What is within the limit goes into the queue of the stream. -/
def dispatchBody (streamId : ℕ) (body : BodyReceived) : Handler Conn × Bool :=
  if streamId ∈ handler.streamBodyRejected then (handler, true)
  else if streamId ∈ handler.streamTasks then
    let bodyBytes := (handler.streamBodyBytes streamId).getD 0 + body.data.length
    let counted :=
      { handler with
        streamBodyBytes := Function.update handler.streamBodyBytes streamId (some bodyBytes) }
    if env.config.maxRequestSize < bodyBytes then
      let cancelled := (counted.cancel streamId .tooLarge).settle streamId .refused
      { cancelled with streamTasks := cancelled.streamTasks.erase streamId }.sendRequestTooLarge
        env streamId
    else (counted, true)
  else (handler, true)

/-- A reset of a stream. -/
def dispatchReset (streamId : ℕ) : Handler Conn :=
  let cancelled :=
    if streamId ∈ handler.streamTasks then (handler.cancel streamId .reset).settle streamId .reset
    else handler
  { cancelled with
    streamBodyBytes := Function.update cancelled.streamBodyBytes streamId none
    streamBodyRejected := cancelled.streamBodyRejected.erase streamId
    streamTasks := cancelled.streamTasks.erase streamId }

/-- One event, and whether it did not raise. -/
def dispatchEvent : H2Event → Handler Conn × Bool
  | .requestReceived streamId request =>
      if contentLengthExceedsLimit env.config.maxRequestSize request then
        (handler.settle streamId .refused).sendRequestTooLarge env streamId
      else (handler.createTask streamId { request }, true)
  | .webSocketRequest streamId request _ =>
      (handler.createTask streamId { request, webSocket := true }, true)
  | .bodyReceived streamId body => handler.dispatchBody env streamId body
  | .streamReset streamId _ => (handler.dispatchReset streamId, true)
  | .windowUpdated _ => (handler, true)
  | .goAway _ _ => (handler, true)

/-- Leave the loop: its `finally` cancels the tasks in the table. -/
def leave (cause : Cause) : Handler Conn :=
  { handler with
    loop := .leaving cause
    tasks := fun streamId => (handler.tasks streamId).map fun task =>
      if streamId ∈ handler.streamTasks then
        { task with cancelled := task.cancelled.or (some .leaving) }
      else task
    fates := fun streamId =>
      if streamId ∈ handler.streamTasks then (handler.fates streamId).or (some .cutOff)
      else handler.fates streamId }

/-- The next event of a read. After GOAWAY the rest is not looked at. -/
def dispatchNext (event : H2Event) (events : List H2Event) : Handler Conn :=
  match handler.dispatchEvent env event with
  | (raised, false) =>
      { raised with
        dispatched := raised.dispatched ++ [event]
        skipped := raised.skipped ++ events }.leave .failed
  | (done, true) =>
      let done := { done with dispatched := done.dispatched ++ [event] }
      match event with
      | .goAway _ _ => { done with loop := .draining, skipped := done.skipped ++ events }
      | _ => { done with loop := .dispatching events }

/-- A read. What a `receive_data` that raises half way has done to the streams is lost with
the connection. -/
def receive (data : Bytes) : Handler Conn :=
  match env.codec.receiveData handler.h2.conn data with
  | none => handler.leave .invalid
  | some (conn, libraryEvents) =>
      match { handler.h2 with conn }.receiveData env.codec.toLibrary libraryEvents with
      | none => handler.leave .failed
      | some (h2, events) => { handler with h2, loop := .dispatching events }

/-! ## Tasks -/

/-- The handler without a task that is done. -/
def dropTask (streamId : ℕ) : Handler Conn :=
  { handler.settle streamId .completed with
    tasks := Function.update handler.tasks streamId none }

/-- The scope for the request of a task. -/
def buildScope (task : StreamTask) : Except SyncWorker.PyError Scope :=
  if task.webSocket then buildWsScope env.config env.client env.server task.request
  else buildH2Scope env.config env.client env.server task.request

/-- The first step of a task. If no scope can be built for its request, it fails there and
leaves the tables as they are. -/
def start (streamId : ℕ) (task : StreamTask) : Handler Conn :=
  match buildScope env task with
  | .error _ => handler.dropTask streamId
  | .ok _ =>
      let scheduler :=
        match task.webSocket, getHeader task.request.headers (ascii "priority") with
        | false, some value => handler.scheduler.setPriority streamId (parsePriority value)
        | _, _ => handler.scheduler
      { handler with
        scheduler
        tasks := Function.update handler.tasks streamId (some { task with started := true })
        begun := Function.update handler.begun streamId (some task.webSocket) }

/-- The `finally` of a task. -/
def cleanUp (streamId : ℕ) : Handler Conn :=
  { handler with
    h2 := handler.h2.removeStream streamId
    scheduler := handler.scheduler.removeStream streamId
    streamTasks := handler.streamTasks.erase streamId
    streamBodyBytes := Function.update handler.streamBodyBytes streamId none
    streamBodyRejected := handler.streamBodyRejected.erase streamId }

end Handler

/-- How the application of a task comes to its end. -/
inductive Ending where
  /-- It returns, or lets something pass that is not caught. -/
  | returned
  | raised
  /-- The body of its request was not complete in time. -/
  | bodyTimeout
  deriving DecidableEq, Repr

/-- The calls of an application, or of a send it has called, on what the tasks share. -/
inductive Call where
  /-- `http.response.start` is taken note of. -/
  | respond (status : ℕ)
  | schedule
  | unschedule
  | markWrote
  | sendHeaders (status : ℕ) (headers : List Header) (endStream : Bool)
  | sendData (data : Bytes) (endStream : Bool)
  | resetStream (errorCode : ℕ)
  deriving DecidableEq, Repr

namespace Handler

variable {Conn : Type} (env : Env Conn) (handler : Handler Conn)

/-- The end of a task, by how its application ended. Before the first step, and for a
WebSocket, there is nothing that would clean up. -/
def finish (streamId : ℕ) (task : StreamTask) (ending : Ending) : Handler Conn :=
  if task.started ∧ ¬ task.webSocket then
    let answered :=
      match ending with
      | .returned => handler
      | .raised => handler.sendServerError env streamId
      | .bodyTimeout =>
          if task.status = 0 then handler.sendRequestTimeout env streamId else handler
    (answered.cleanUp streamId).dropTask streamId
  else handler.dropTask streamId

/-- A call. Only the tasks of HTTP requests know the scheduler. -/
def call (streamId : ℕ) (webSocket : Bool) : Call → Option (Handler Conn)
  | .respond status =>
      some { handler with
        tasks := Function.update handler.tasks streamId
          ((handler.tasks streamId).map fun task => { task with status }) }
  | .schedule =>
      if webSocket then none
      else some { handler with scheduler := handler.scheduler.schedule streamId }
  | .unschedule =>
      if webSocket then none
      else some { handler with scheduler := handler.scheduler.unschedule streamId }
  | .markWrote =>
      if webSocket then none
      else
        some { handler with
          scheduler := (handler.scheduler.markWrote streamId).getD handler.scheduler }
  | .sendHeaders status headers endStream =>
      some (handler.sendHeaders env streamId status headers endStream).1
  | .sendData data endStream => some (handler.sendData env streamId data endStream).1
  | .resetStream errorCode => some (handler.resetStream env streamId errorCode).1

/-- What happens on a connection. -/
inductive Action where
  /-- The loop reads bytes. -/
  | read (data : Bytes)
  /-- The connection is gone. -/
  | readFails
  /-- No read for `keep_alive_timeout`. -/
  | readTimeout
  /-- The loop goes on with the events of the read. -/
  | dispatch
  /-- The transport is drained after a read. -/
  | drained
  | drainFails
  /-- A task takes its first step. -/
  | start (streamId : ℕ)
  | call (streamId : ℕ) (call : Call)
  | finish (streamId : ℕ) (ending : Ending)
  deriving DecidableEq, Repr

/-- The loop waits, so that tasks may run. -/
def awaits : Bool :=
  match handler.loop with
  | .dispatching _ => false
  | _ => true

/-- One step. -/
def step : Action → Option (Handler Conn)
  | .read data => if handler.loop = .reading then some (handler.receive env data) else none
  | .readFails => if handler.loop = .reading then some (handler.leave .disconnected) else none
  | .readTimeout =>
      if handler.loop = .reading then
        some (if handler.streamTasks = ∅ then handler.leave .idle else handler)
      else none
  | .dispatch =>
      match handler.loop with
      | .dispatching [] => some { handler with loop := .draining }
      | .dispatching (event :: events) => some (handler.dispatchNext env event events)
      | _ => none
  | .drained =>
      if handler.loop = .draining then
        some (if handler.h2.closed then handler.leave .goAway else { handler with loop := .reading })
      else none
  | .drainFails =>
      if handler.loop = .draining then some (handler.leave .disconnected) else none
  | .start streamId =>
      (handler.tasks streamId).bind fun task =>
        if handler.awaits ∧ task.started = false ∧ task.cancelled = none then
          some (handler.start env streamId task)
        else none
  | .call streamId call =>
      (handler.begun streamId).bind fun webSocket =>
        if handler.awaits then handler.call env streamId webSocket call else none
  | .finish streamId ending =>
      (handler.tasks streamId).bind fun task =>
        if handler.awaits ∧ (task.started = true ∨ task.cancelled ≠ none) then
          some (handler.finish env streamId task ending)
        else none

end Handler

/-- A connection, from its preface on. -/
def handlerMachine {Conn : Type} (env : Env Conn) (conn : Conn) :
    Machine (Handler Conn) Handler.Action where
  init handler := handler = { h2 := { conn } }
  step handler action := handler.step env action

end Pounce.H2
