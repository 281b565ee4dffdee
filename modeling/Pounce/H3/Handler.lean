/-
# The handler of HTTP/3 connections

`ZoomiesDatagramProtocol` hands every datagram to the zoomies library and goes through the
events it gets for it in one go: requests get a task of their own, bodies are counted and put
into their queues, and some requests are answered on the spot. The tasks run between the
datagrams. Their send callables share nothing with the handler but the connection, and they
outlive the tasks.

The model is that of one connection. The library is a parameter, as are the built-in
endpoints and what a send callable is made with. The bodies in the queues are left out.
Besides the variables of the source a state has records that nothing depends on: what was
sent, which task a stream was given, which streams the handler has answered itself, what was
gone through, and whether any of that has raised.
-/

import Mathlib.Data.Finset.Basic
import Pounce.Asgi.Bridge
import Pounce.Asgi.Scope
import Pounce.Math.Transition
import Pounce.Sending

namespace Pounce.H3

open Pounce.Math Pounce.Math.Bytes Pounce.Asgi
open Pounce.SyncWorker (PyError)

/-! ## The library -/

/-- What QUIC reports of a connection. A datum is what has arrived on a stream. -/
inductive QuicEvent (Datum : Type) where
  | connectionClosed
  /-- `StreamReset`, or `StopSendingReceived`. -/
  | streamReset (streamId : ℕ)
  | streamDataReceived (datum : Datum)
  deriving DecidableEq, Repr

/-- What HTTP/3 makes of the data of a stream. -/
inductive H3Event where
  | headersReceived (streamId : ℕ) (headers : List Header) (endStream is0rtt : Bool)
  | dataReceived (streamId : ℕ) (data : Bytes) (endStream : Bool)
  deriving DecidableEq, Repr

/-- What the handler asks of a connection of zoomies. -/
structure Codec (Conn Datum : Type) where
  datagramReceived : Conn → Bytes → Except PyError (Conn × List (QuicEvent Datum))
  handleEvent : Conn → Datum → Except PyError (Conn × List H3Event)
  sendHeaders : Conn → (streamId status : ℕ) → List Header → Except PyError Conn
  sendData : Conn → (streamId : ℕ) → Bytes → (endStream : Bool) → Except PyError Conn
  /-- `_signal_stop_sending`, by whatever method the library has for it. -/
  signalStopSending : Conn → (streamId : ℕ) → Except PyError Conn

/-- What connections are served with. -/
structure Env (Conn Datum : Type) where
  codec : Codec Conn Datum
  config : ServerConfig := {}
  client : String × ℕ := ("127.0.0.1", 50000)
  server : String × ℕ := ("127.0.0.1", 8000)
  /-- `maybe_build_builtin_response`, by whether the worker is draining. -/
  builtin : Bool → Scope → Option (ℕ × List Header × Bytes) := fun _ _ => none
  /-- What the send callable for a scope is made with. -/
  sendEnv : Scope → SendEnv := fun _ => { requestMethod := ascii "GET", compressor := none }

/-! ## State -/

/-- Why a task is cancelled. -/
inductive Cancellation where
  | tooLarge
  | reset
  | closing
  deriving DecidableEq, Repr

/-- The task of a stream, until it is done. -/
structure StreamTask where
  streamId : ℕ
  scope : Scope
  /-- It has taken its first step. -/
  started : Bool := false
  cancelled : Option Cancellation := none

/-- A send callable, with what it keeps. -/
structure SendCallable where
  streamId : ℕ
  env : SendEnv
  state : SendState
  /-- `send_state.status`. -/
  status : ℕ := 0

/-- What is still to be gone through of a datagram. -/
inductive Pending (Datum : Type) where
  | quic (event : QuicEvent Datum)
  | h3 (event : H3Event)
  deriving DecidableEq, Repr

/-- The state of a connection. Tasks and send callables go by the number of the task. -/
structure Handler (Conn Datum : Type) where
  conn : Conn
  streamTasks : ℕ → Option ℕ := fun _ => none
  streamBodyBytes : ℕ → Option ℕ := fun _ => none
  streamBodyEnded : Finset ℕ := ∅
  draining : Bool := false
  /-- The tasks that are not done. -/
  tasks : ℕ → Option StreamTask := fun _ => none
  sends : ℕ → Option SendCallable := fun _ => none
  nextTask : ℕ := 0
  pending : List (Pending Datum) := []
  /-- No datagram is given to this connection any more. -/
  closed : Bool := false
  /-- The frames the library has taken. -/
  sent : List SentFrame := []
  /-- The last task a stream was given. -/
  begun : ℕ → Option ℕ := fun _ => none
  /-- The streams the handler has answered itself. -/
  answered : Finset ℕ := ∅
  /-- What was gone through. -/
  dispatched : List (Pending Datum) := []
  /-- What was done for a stream has raised out of the loop. -/
  failed : Bool := false

/-! ## What is sent -/

/-- The type of the handler's own responses. -/
def plainText : Header := (ascii "content-type", ascii "text/plain")

namespace Handler

variable {Conn Datum : Type} (env : Env Conn Datum) (handler : Handler Conn Datum)

/-- `H3Connection.send_headers`, and what it raises. -/
def sendHeaders (streamId status : ℕ) (headers : List Header) :
    Handler Conn Datum × Option PyError :=
  match env.codec.sendHeaders handler.conn streamId status headers with
  | .error error => (handler, some error)
  | .ok conn =>
      ({ handler with conn, sent := handler.sent ++ [.headers streamId status headers false] },
        none)

/-- `H3Connection.send_data`, and what it raises. -/
def sendData (streamId : ℕ) (data : Bytes) (endStream : Bool) :
    Handler Conn Datum × Option PyError :=
  match env.codec.sendData handler.conn streamId data endStream with
  | .error error => (handler, some error)
  | .ok conn =>
      ({ handler with conn, sent := handler.sent ++ [.data streamId data endStream] }, none)

/-- A whole response of the handler itself. -/
def respond (streamId status : ℕ) (headers : List Header) (body : Bytes) :
    Handler Conn Datum × Option PyError :=
  let answered := { handler with answered := insert streamId handler.answered }
  match answered.sendHeaders env streamId status headers with
  | (raised, some error) => (raised, some error)
  | (begun, none) => begun.sendData env streamId body true

/-- A response after which the peer is asked to send no more. -/
def refuse (streamId status : ℕ) (headers : List Header) (body : Bytes) :
    Handler Conn Datum × Option PyError :=
  match handler.respond env streamId status headers body with
  | (raised, some error) => (raised, some error)
  | (answered, none) =>
      match env.codec.signalStopSending answered.conn streamId with
      | .error error => (answered, some error)
      | .ok conn => ({ answered with conn }, none)

/-- `_send_request_too_large`. -/
def sendRequestTooLarge (streamId : ℕ) : Handler Conn Datum × Option PyError :=
  handler.refuse env streamId 413
    [plainText, (ascii "x-pounce-error-code", ascii "POUNCE_LIMIT_REQUEST_TOO_LARGE")]
    (ascii "Content Too Large")

/-- `_send_request_timeout`. -/
def sendRequestTimeout (streamId : ℕ) : Handler Conn Datum × Option PyError :=
  handler.refuse env streamId 408
    [plainText, (ascii "x-pounce-error-code", ascii "POUNCE_TIMEOUT_REQUEST_BODY")]
    (ascii "Request Timeout")

/-- `_send_bad_request`. -/
def sendBadRequest (streamId : ℕ) : Handler Conn Datum × Option PyError :=
  handler.respond env streamId 400 [plainText] (ascii "Bad Request")

/-- `_send_service_unavailable`, which lets no `OSError` out. -/
def sendServiceUnavailable (streamId : ℕ) : Handler Conn Datum × Option PyError :=
  let (answered, raised) := handler.respond env streamId 503
    [plainText, (ascii "connection", ascii "close")] (ascii "Service Unavailable")
  (answered, raised.filter fun error => !error.isOSError)

/-- `_send_error_response`. Whatever it raises ends the task, which ends anyway. -/
def sendErrorResponse (streamId : ℕ) : Handler Conn Datum :=
  (handler.respond env streamId 500 [plainText] (ascii "Internal Server Error")).1

/-- The response to a request that might be replayed. It is HEADERS only. -/
def sendTooEarly (streamId : ℕ) : Handler Conn Datum × Option PyError :=
  { handler with answered := insert streamId handler.answered }.sendHeaders env streamId 425 []

/-! ## Events -/

/-- Cancel a task, if it is not done. -/
def cancel (id : ℕ) (cancellation : Cancellation) : Handler Conn Datum :=
  { handler with
    tasks := Function.update handler.tasks id ((handler.tasks id).map fun task =>
      { task with cancelled := task.cancelled.or (some cancellation) }) }

/-- `_cancel_stream`. -/
def cancelStream (streamId : ℕ) (cancellation : Cancellation) : Handler Conn Datum :=
  let cancelled :=
    match handler.streamTasks streamId with
    | some id => handler.cancel id cancellation
    | none => handler
  { cancelled with
    streamTasks := Function.update handler.streamTasks streamId none
    streamBodyBytes := Function.update handler.streamBodyBytes streamId none
    streamBodyEnded := handler.streamBodyEnded.erase streamId }

/-- `_cancel_all_streams`, for a connection that is not used any more. -/
def cancelAllStreams : Handler Conn Datum :=
  { handler with
    streamTasks := fun _ => none
    streamBodyBytes := fun streamId =>
      if (handler.streamTasks streamId).isSome then none else handler.streamBodyBytes streamId
    streamBodyEnded := handler.streamBodyEnded.filter fun streamId =>
      (handler.streamTasks streamId).isNone
    tasks := fun id => (handler.tasks id).map fun task =>
      if handler.streamTasks task.streamId = some id then
        { task with cancelled := task.cancelled.or (some .closing) }
      else task
    closed := true }

/-- Make a task for a request. -/
def createTask (streamId : ℕ) (scope : Scope) : Handler Conn Datum :=
  { handler with
    tasks := Function.update handler.tasks handler.nextTask (some { streamId, scope })
    streamTasks := Function.update handler.streamTasks streamId (some handler.nextTask)
    begun := Function.update handler.begun streamId (some handler.nextTask)
    nextTask := handler.nextTask + 1 }

/-- The methods that are not served from early data. -/
def unsafeMethods : List String := ["POST", "PUT", "DELETE", "PATCH"]

/-- The declared length of the body is over the limit. -/
def exceedsLimit (limit : ℕ) (headers : List Header) : Bool :=
  ((getHeader headers (ascii "content-length")).bind readInt).any fun length =>
    (limit : ℤ) < length

/-- `_handle_headers`. -/
def handleHeaders (streamId : ℕ) (headers : List Header) (is0rtt : Bool) :
    Handler Conn Datum × Option PyError :=
  if (handler.streamTasks streamId).isSome then (handler, none)
  else if handler.draining then handler.sendServiceUnavailable env streamId
  else
    match buildH3Scope env.config env.client env.server headers with
    | .error (.pseudoHeader _) => handler.sendBadRequest env streamId
    | .error (.raised error) => (handler, some error)
    | .ok scope =>
        if is0rtt ∧ scope.method ∈ unsafeMethods then handler.sendTooEarly env streamId
        else if exceedsLimit env.config.maxRequestSize scope.headers then
          match handler.sendRequestTooLarge env streamId with
          | (raised, some error) => (raised, some error)
          | (refused, none) =>
              ({ refused with streamBodyEnded := insert streamId refused.streamBodyEnded }, none)
        else (handler.createTask streamId scope, none)

/-- `_handle_data`. What is within the limit goes into the queue of the stream. -/
def handleData (streamId : ℕ) (data : Bytes) : Handler Conn Datum × Option PyError :=
  match handler.streamTasks streamId with
  | none => (handler, none)
  | some id =>
      if streamId ∈ handler.streamBodyEnded then (handler, none)
      else
        let bodyBytes := (handler.streamBodyBytes streamId).getD 0 + data.length
        if env.config.maxRequestSize < bodyBytes then
          { handler.cancel id .tooLarge with
            streamTasks := Function.update handler.streamTasks streamId none
            streamBodyBytes := Function.update handler.streamBodyBytes streamId none
            streamBodyEnded := insert streamId handler.streamBodyEnded }.sendRequestTooLarge
              env streamId
        else
          ({ handler with
            streamBodyBytes := Function.update handler.streamBodyBytes streamId (some bodyBytes) },
            none)

/-- `_handle_h3_event`. -/
def handleH3Event : H3Event → Handler Conn Datum × Option PyError
  | .headersReceived streamId headers _ is0rtt => handler.handleHeaders env streamId headers is0rtt
  | .dataReceived streamId data _ => handler.handleData env streamId data

/-- The next part of a datagram. If it raises, the rest is lost. -/
def dispatchNext (next : Pending Datum) (rest : List (Pending Datum)) : Handler Conn Datum :=
  match next with
  | .quic .connectionClosed =>
      { handler.cancelAllStreams with
        pending := []
        dispatched := handler.dispatched ++ [next] }
  | .quic (.streamReset streamId) =>
      { handler.cancelStream streamId .reset with
        pending := rest
        dispatched := handler.dispatched ++ [next] }
  | .quic (.streamDataReceived datum) =>
      match env.codec.handleEvent handler.conn datum with
      | .error _ => { handler with pending := [], dispatched := handler.dispatched ++ [next] }
      | .ok (conn, events) =>
          { handler with
            conn
            pending := events.map .h3 ++ rest
            dispatched := handler.dispatched ++ [next] }
  | .h3 event =>
      match handler.handleH3Event env event with
      | (raised, some _) =>
          { raised with
            pending := []
            dispatched := raised.dispatched ++ [next]
            failed := true }
      | (handled, none) =>
          { handled with pending := rest, dispatched := handled.dispatched ++ [next] }

/-- `datagram_received`, up to the events. -/
def datagramReceived (data : Bytes) : Handler Conn Datum :=
  match env.codec.datagramReceived handler.conn data with
  | .error _ => handler
  | .ok (conn, events) => { handler with conn, pending := events.map .quic }

/-! ## Tasks -/

/-- The handler without a task that is done. -/
def dropTask (id : ℕ) : Handler Conn Datum :=
  { handler with tasks := Function.update handler.tasks id none }

/-- `_maybe_handle_builtin_endpoint`, once there is a response. If it raises, the task ends
there. -/
def serveBuiltin (id : ℕ) (task : StreamTask) (status : ℕ) (headers : List Header)
    (body : Bytes) : Handler Conn Datum :=
  let body := if task.scope.method = "HEAD" then [] else body
  match handler.respond env task.streamId status headers body with
  | (raised, some _) => raised.dropTask id
  | (answered, none) =>
      { answered.dropTask id with
        streamTasks := Function.update answered.streamTasks task.streamId none
        streamBodyBytes := Function.update answered.streamBodyBytes task.streamId none }

/-- The first step of a task. -/
def start (id : ℕ) (task : StreamTask) : Handler Conn Datum :=
  match env.builtin handler.draining task.scope with
  | some (status, headers, body) => handler.serveBuiltin env id task status headers body
  | none =>
      let sendEnv := env.sendEnv task.scope
      { handler with
        tasks := Function.update handler.tasks id (some { task with started := true })
        sends := Function.update handler.sends id (some {
          streamId := task.streamId
          env := sendEnv
          state := { compressor := sendEnv.compressor } }) }

/-- Hand one event of a bridge to the library. -/
def hand (streamId : ℕ) : WireEvent → Handler Conn Datum × Option PyError
  | .informational headers => handler.sendHeaders env streamId 103 headers
  | .head status headers => handler.sendHeaders env streamId status headers
  | .data data endStream => handler.sendData env streamId data endStream

/-- Hand the events to the library until one is refused, and tell which are left. -/
def deliver (handler : Handler Conn Datum) (streamId : ℕ) :
    List WireEvent → Handler Conn Datum × List WireEvent
  | [] => (handler, [])
  | event :: events =>
      match handler.hand env streamId event with
      | (raised, some _) => (raised, event :: events)
      | (handed, none) => handed.deliver streamId events

/-- The state of a bridge after a message, by the events that are left. What is refused raises
before the response is noted as complete, and a head before the encoder is used. -/
def settled (before after : SendState) : List WireEvent → SendState
  | [] => after
  | .data _ _ :: _ => { after with responseComplete := before.responseComplete }
  | _ => { after with responseComplete := before.responseComplete, ops := before.ops }

/-- The status a message sets. -/
def statusAfter (status : ℕ) : SendMessage → ℕ
  | .responseStart given _ => if given = 103 then status else given
  | _ => status

/-- A call of a send callable. -/
def send (id : ℕ) (callable : SendCallable) (message : SendMessage) : Handler Conn Datum :=
  match Asgi.h3.send callable.env callable.state message with
  | none => handler
  | some after =>
      let (delivered, left) :=
        handler.deliver env callable.streamId (after.wire.drop callable.state.wire.length)
      { delivered with
        sends := Function.update delivered.sends id (some { callable with
          state := settled callable.state after left
          status := statusAfter callable.status message }) }

end Handler

/-- How the application of a task comes to its end. -/
inductive Ending where
  /-- It returns, or lets something pass that is not caught. -/
  | returned
  | raised
  /-- The body of its request was not complete in time. -/
  | bodyTimeout
  deriving DecidableEq, Repr

/-- What happens on a connection. -/
inductive Action where
  | datagram (data : Bytes)
  /-- The events of a datagram are gone through. -/
  | dispatch
  /-- The worker begins to drain. -/
  | drain
  /-- The connection is closed for a shutdown. -/
  | close
  /-- The connection has been idle for too long. -/
  | prune
  /-- A task takes its first step. -/
  | start (id : ℕ)
  | send (id : ℕ) (message : SendMessage)
  | finish (id : ℕ) (ending : Ending)
  deriving DecidableEq, Repr

namespace Handler

variable {Conn Datum : Type} (env : Env Conn Datum) (handler : Handler Conn Datum)

/-- What is sent for the end of an application, by its `send_state.status`. -/
def answerEnding (streamId status : ℕ) : Ending → Handler Conn Datum
  | .returned => handler
  | .raised => handler.sendErrorResponse env streamId
  | .bodyTimeout =>
      if status = 0 then (handler.sendRequestTimeout env streamId).1 else handler

/-- The end of a task. Before the first step there is nothing that would clean up. -/
def finish (id : ℕ) (task : StreamTask) (ending : Ending) : Handler Conn Datum :=
  if task.started then
    let status := ((handler.sends id).map (·.status)).getD 0
    let answered := handler.answerEnding env task.streamId status ending
    { answered.dropTask id with
      streamTasks := Function.update answered.streamTasks task.streamId none
      streamBodyBytes := Function.update answered.streamBodyBytes task.streamId none
      streamBodyEnded := answered.streamBodyEnded.erase task.streamId }
  else handler.dropTask id

/-- One step. Tasks run between the datagrams. -/
def step : Action → Option (Handler Conn Datum)
  | .datagram data =>
      if handler.pending = [] ∧ ¬ handler.closed then some (handler.datagramReceived env data)
      else none
  | .dispatch =>
      match handler.pending with
      | [] => none
      | next :: rest => some (handler.dispatchNext env next rest)
  | .drain => if handler.pending = [] then some { handler with draining := true } else none
  | .close => if handler.pending = [] then some handler.cancelAllStreams else none
  | .prune => if handler.pending = [] then some { handler with closed := true } else none
  | .start id =>
      (handler.tasks id).bind fun task =>
        if handler.pending = [] ∧ task.started = false ∧ task.cancelled = none then
          some (handler.start env id task)
        else none
  | .send id message =>
      (handler.sends id).bind fun callable =>
        if handler.pending = [] then some (handler.send env id callable message) else none
  | .finish id ending =>
      (handler.tasks id).bind fun task =>
        if handler.pending = [] ∧ (task.started = true ∨ task.cancelled ≠ none) then
          some (handler.finish env id task ending)
        else none

end Handler

/-- A connection, from its first datagram on. -/
def handlerMachine {Conn Datum : Type} (env : Env Conn Datum) (conn : Conn) :
    Machine (Handler Conn Datum) Action where
  init handler := handler = { conn }
  step handler action := handler.step env action

end Pounce.H3
