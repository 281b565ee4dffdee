/-
# An HTTP/1.1 connection of the asynchronous worker

One task reads requests from a connection in a loop. A request is handed to the
application, and while the application runs a second task reads from the same connection:
`_read_body` where the body is still arriving, `_monitor_disconnect` where it is not. When
the application is done this companion is cancelled and the loop goes on, with the rest of
the events of the read that brought the request, then with the next cycle of h11.

A `Machine` describes this, with h11 and the built-in endpoints as parameters of the
environment. What the client, the application and the scheduler do are its actions. Besides
the variables of the source a state has records that nothing in it depends on: the bytes
taken from the socket and those fed to h11, the requests parsed, and for the request being
served what h11 reported and what `receive` returned.
-/

import Pounce.Asgi.Receive
import Pounce.Config
import Pounce.Math.Transition
import Pounce.Protocols.H1

namespace Pounce.Worker

open Pounce.Math Pounce.Math.Bytes Pounce.Asgi

universe u

/-! ## Headers of a request -/

/-- The declared Content-Length, if present and parseable. -/
def declaredContentLength (headers : List Header) : Option ℤ :=
  match headers.find? fun header => lower header.1 = ascii "content-length" with
  | none => none
  | some header => readInt (strip header.2)

/-- The headers indicate that a request body may still arrive. -/
def requestBodyExpected (headers : List Header) : Bool :=
  match declaredContentLength headers with
  | some length => 0 < length
  | none => headers.any fun header =>
      lower header.1 = ascii "transfer-encoding" ∧ lower (strip header.2) ≠ ascii "identity"

/-- One turn of the scan for an upgrade: whether `Connection: Upgrade` and
`Upgrade: websocket` were the last of their name. -/
def upgradeScan (found : Bool × Bool) (header : Header) : Bool × Bool :=
  -- both found: the scan has stopped
  if found.1 && found.2 then found
  else if lower header.1 = ascii "connection" then
    (contains (ascii "upgrade") (lower header.2), found.2)
  else if lower header.1 = ascii "upgrade" then
    (found.1, lower header.2 = ascii "websocket")
  else found

/-- The request asks for a WebSocket. -/
def isWebsocketUpgrade (request : RequestReceived) : Bool :=
  let found := request.headers.foldl upgradeScan (false, false)
  found.1 && found.2

/-! ## State -/

/-- The task beside the application. -/
inductive Companion where
  /-- `_read_body`, with the body bytes it has counted. -/
  | reader (totalBytesRead : ℕ)
  /-- `_monitor_disconnect`. -/
  | monitor
  /-- Over. -/
  | ended
  /-- `_read_body` has waited for too long. -/
  | timedOut
  deriving DecidableEq, Repr

/-- A request the application is serving. -/
structure Serving where
  request : RequestReceived
  receiver : Receiver
  intake : Intake
  companion : Companion
  /-- `body_complete`: nothing of the body was to come when the application was set up. -/
  bodyComplete : Bool := false
  responseStarted : Bool := false
  /-- What h11 reported of the body. -/
  reported : List H11Event := []
  /-- What `receive` has returned. -/
  received : List ReceiveMessage := []
  deriving DecidableEq, Repr

/-- What the connection task is doing. -/
inductive Phase where
  /-- Waiting for data. -/
  | reading
  /-- Running the application; the events are those of the read that come after. -/
  | serving (serving : Serving) (events : List ProtocolEvent)
  | closed
  deriving DecidableEq, Repr

/-- A request parsed on a connection, with what had been read from the socket and what
had been fed to h11 by then. -/
structure Parsed where
  request : RequestReceived
  taken : Bytes
  fed : Bytes
  deriving DecidableEq, Repr

/-- A connection. -/
structure State (Conn : Type u) where
  conn : Conn
  phase : Phase := .reading
  requestCount : ℕ := 0
  /-- The worker is draining. -/
  draining : Bool := false
  /-- The client has closed or reset its side. -/
  clientGone : Bool := false
  taken : Bytes := []
  fed : Bytes := []
  parsed : List Parsed := []
  deriving DecidableEq, Repr

/-- What a read from the connection ends with. -/
inductive ReadOutcome where
  | data (data : Bytes)
  | eof
  | connectionError
  | timeout
  deriving DecidableEq, Repr

/-- What happens on a connection. -/
inductive Action where
  /-- The read of the connection loop. -/
  | read (outcome : ReadOutcome)
  /-- The read of the companion. -/
  | companionRead (outcome : ReadOutcome)
  /-- A `receive` of the application returns. -/
  | receive
  /-- `send` of the application hands h11 something. -/
  | send (event : H11Send)
  /-- The application is done, with an exception or without. -/
  | appReturns (raised : Bool)
  /-- The companion is cancelled while the application is running. -/
  | cancel
  | clientLeaves
  | drain
  deriving DecidableEq, Repr

/-- What a connection is served with. -/
structure Env (Conn : Type u) where
  h11 : H11 Conn
  config : ServerConfig := {}
  /-- What a built-in endpoint sends, for a request that is for one. -/
  builtin : RequestReceived → Option (List H11Send) := fun _ => none

section

variable {Conn : Type u} (env : Env Conn)

/-! ## Error responses -/

/-- The body of an error response. -/
def errorBody (message code : String) (hint : Option String) : Bytes :=
  if env.config.debug then
    utf8 ("\n".intercalate ([message, "", "Pounce error code: " ++ code] ++
      (hint.filter (· ≠ "")).toList.map ("Hint: " ++ ·)))
  else utf8 message

/-- Send a plain-text error response, as far as h11 allows. -/
def sendError (conn : Conn) (status : ℕ) (message code : String) (hint : Option String) : Conn :=
  let body := errorBody env message code hint
  (H1Protocol.sendAll env.h11 conn
    [.response status [
        (ascii "content-type", ascii "text/plain; charset=utf-8"),
        (ascii "content-length", ofNat body.length),
        (ascii "connection", ascii "close"),
        (ascii "x-pounce-error-code", ascii code)],
      .data body, .endOfMessage]).2

/-! ## Events of a read -/

/-- The body events at the front of a batch. -/
def initialBody : List ProtocolEvent → List BodyReceived
  | .bodyReceived body :: events => body :: initialBody events
  | _ => []

/-- What h11 reported where these events were made of it. -/
def reportedBody (body : List BodyReceived) : List H11Event :=
  body.flatMap fun event =>
    (if event.data = [] then [] else [.data event.data]) ++
      if event.more then [] else [.endOfMessage]

/-- The request body is known to exceed the limit before the application is called. -/
def bodyExceedsLimit (request : RequestReceived) (body : List BodyReceived) : Bool :=
  ((declaredContentLength request.headers).any fun declared =>
      decide ((env.config.maxRequestSize : ℤ) < declared)) ||
    decide (env.config.maxRequestSize <
      body.foldl (fun total event => total + event.data.length) 0)

/-- Set up the application for a request. A body of which nothing has arrived yet is
expected if the headers say so. -/
def serve (request : RequestReceived) (body : List BodyReceived) : Serving :=
  if body ≠ [] then
    { request
      receiver := createReceiveWithDisconnect
      intake := { bodyEvents := body }
      companion := if body.any (! ·.more) then .monitor else .reader 0
      bodyComplete := body.any (! ·.more)
      reported := reportedBody body }
  else if requestBodyExpected request.headers then
    { request, receiver := createReceiveWithDisconnect, intake := {}, companion := .reader 0 }
  else
    { request
      receiver := createDisconnectReceive
      intake := {}
      companion := .monitor
      bodyComplete := true }

/-- What became of the events of a read. -/
inductive Progress (Conn : Type u) where
  /-- They are used up. -/
  | done (conn : Conn) (requestCount : ℕ)
  /-- The application runs; the events are left. -/
  | serving (conn : Conn) (requestCount : ℕ) (serving : Serving) (events : List ProtocolEvent)
  | closed (conn : Conn) (requestCount : ℕ)

/-- Go through the events up to a request for the application. Body events that were
taken along with a request answered otherwise, or that belong to no request, are passed
over. -/
def processEvents (conn : Conn) (requestCount : ℕ) : List ProtocolEvent → Progress Conn
  | [] => .done conn requestCount
  | .bodyReceived _ :: events => processEvents conn requestCount events
  | .connectionClosed :: _ => .closed conn requestCount
  | .requestReceived request :: events =>
      if isWebsocketUpgrade request then .closed conn (requestCount + 1)
      else if bodyExceedsLimit env request (initialBody events) then
        processEvents
          (sendError env conn 413 "Request body exceeds max_request_size"
            "POUNCE_LIMIT_REQUEST_TOO_LARGE"
            (some ("Reduce the request body size or raise ServerConfig.max_request_size " ++
              "for this deployment.")))
          (requestCount + 1) events
      else
        match env.builtin request with
        | some sends =>
            match H1Protocol.sendAll env.h11 conn sends with
            | (none, conn) => .closed conn (requestCount + 1)
            | (some _, conn) => processEvents conn (requestCount + 1) events
        | none =>
            if env.h11.clientIsWaitingFor100Continue conn then
              match env.h11.send conn (.informational 100 []) with
              | (none, conn) => .closed conn (requestCount + 1)
              | (some _, conn) =>
                  .serving conn (requestCount + 1) (serve request (initialBody events)) events
            else .serving conn (requestCount + 1) (serve request (initialBody events)) events

/-- The end of a batch: close, or start the next cycle. -/
def nextCycle (state : State Conn) : State Conn :=
  if state.draining then { state with phase := .closed }
  else if 0 < env.config.maxRequestsPerConnection ∧
      env.config.maxRequestsPerConnection ≤ state.requestCount then
    { state with phase := .closed }
  else
    match env.h11.startNextCycle state.conn with
    | none => { state with phase := .closed }
    | some conn => { state with phase := .reading, conn }

/-- Go on with the events. -/
def advance (state : State Conn) (events : List ProtocolEvent) : State Conn :=
  match processEvents env state.conn state.requestCount events with
  | .done conn requestCount => nextCycle env { state with conn, requestCount }
  | .serving conn requestCount serving events =>
      { state with conn, requestCount, phase := .serving serving events }
  | .closed conn requestCount => { state with conn, requestCount, phase := .closed }

/-- The requests among the events. -/
def requestsOf (events : List ProtocolEvent) : List RequestReceived :=
  events.filterMap fun
    | .requestReceived request => some request
    | _ => none

/-- The connection loop has read data. -/
def readData (state : State Conn) (data : Bytes) : State Conn :=
  let taken := state.taken ++ data
  let fed := state.fed ++ data
  match H1Protocol.receiveData env.h11 state.conn data with
  | (.error error, conn) =>
      { state with
        conn := sendError env conn 400 error.message error.code error.hint
        phase := .closed
        taken
        fed }
  | (.ok events, conn) =>
      advance env
        { state with
          conn
          taken
          fed
          parsed := state.parsed ++
            (requestsOf events).map fun request => { request, taken, fed } }
        events

/-! ## The companions -/

/-- Put a body event into the queue. -/
def Serving.put (serving : Serving) (event : BodyReceived) : Serving :=
  { serving with
    intake := { serving.intake with bodyEvents := serving.intake.bodyEvents ++ [event] } }

/-- The companion is over and has set the disconnect event. -/
def Serving.signal (serving : Serving) : Serving :=
  { serving with
    companion := .ended
    intake := { serving.intake with disconnect := true } }

/-- The reader gives up: an empty last chunk, then the disconnect event. -/
def Serving.abandon (serving : Serving) : Serving :=
  (serving.put { data := [], more := false }).signal

/-- What the reader does with the events of a read. -/
def readBodyEvents (serving : Serving) (totalBytesRead : ℕ) : List ProtocolEvent → Serving
  | [] => { serving with companion := .reader totalBytesRead }
  | .bodyReceived event :: events =>
      let totalBytesRead := totalBytesRead + event.data.length
      if env.config.maxRequestSize < totalBytesRead then serving.abandon
      else if event.more then readBodyEvents (serving.put event) totalBytesRead events
      else (serving.put event).signal
  | _ :: events => readBodyEvents serving totalBytesRead events

/-- A read of the reader, with the connection it leaves behind. -/
def readBody (conn : Conn) (serving : Serving) (totalBytesRead : ℕ) :
    ReadOutcome → Serving × Conn
  | .timeout => ({ serving with companion := .timedOut }, conn)
  | .eof => (serving.abandon, conn)
  | .connectionError => (serving.abandon, conn)
  | .data data =>
      let reported :=
        serving.reported ++ (env.h11.drain (env.h11.receiveData conn data)).events
      match H1Protocol.receiveData env.h11 conn data with
      | (.error _, conn) => ({ serving.abandon with reported }, conn)
      | (.ok events, conn) =>
          (readBodyEvents env { serving with reported } totalBytesRead events, conn)

/-- A read of the monitor: data is dropped. -/
def monitorDisconnect (serving : Serving) : ReadOutcome → Serving
  | .data _ => serving
  | _ => serving.signal

/-! ## Steps -/

/-- The client and the reads it makes possible: an end or an error is read after the client
has left, and data is never empty. -/
def ReadOutcome.possible (clientGone : Bool) : ReadOutcome → Bool
  | .data bytes => bytes ≠ []
  | .eof => clientGone
  | .connectionError => clientGone
  | .timeout => true

/-- A read of the companion. The monitor reads single bytes and never times out. -/
def companionRead (state : State Conn) (serving : Serving) (events : List ProtocolEvent)
    (outcome : ReadOutcome) : Option (State Conn) :=
  match serving.companion with
  | .ended | .timedOut => none
  | .reader totalBytesRead =>
      let (serving, conn) := readBody env state.conn serving totalBytesRead outcome
      let read := match outcome with | .data data => data | _ => []
      some { state with
        conn
        phase := .serving serving events
        taken := state.taken ++ read
        fed := state.fed ++ read }
  | .monitor =>
      match outcome with
      | .timeout => none
      | .data data =>
          if data.length = 1 then
            some { state with
              phase := .serving (monitorDisconnect serving outcome) events
              taken := state.taken ++ data }
          else none
      | _ => some { state with phase := .serving (monitorDisconnect serving outcome) events }

/-- The companion is cancelled. -/
def cancelCompanion (serving : Serving) : Option Serving :=
  match serving.companion with
  | .reader _ => some serving.abandon
  | .monitor => some serving.signal
  | .ended | .timedOut => none

/-- The connection after the application: error responses where they are due. -/
def afterApp (conn : Conn) (serving : Serving) (raised : Bool) : Conn :=
  let conn :=
    if raised then
      sendError env conn 500 "Internal Server Error" "POUNCE_APP_E"
        (some "Check worker logs for the application traceback.")
    else if serving.companion = .timedOut ∧ !serving.responseStarted then
      sendError env conn 408 "Request Timeout" "POUNCE_TIMEOUT_REQUEST_BODY"
        (some "Increase request_timeout only for clients that legitimately upload slowly.")
    else conn
  if serving.responseStarted then conn
  else sendError env conn 500 "Internal Server Error" "POUNCE_APP_NO_RESPONSE"
    (some "The ASGI app returned without sending http.response.start.")

/-- What an action does to a connection that is serving a request. -/
def servingStep (state : State Conn) (serving : Serving) (events : List ProtocolEvent) :
    Action → Option (State Conn)
  | .companionRead outcome =>
      if outcome.possible state.clientGone then companionRead env state serving events outcome
      else none
  | .receive =>
      match serving.receiver.receive serving.intake with
      | none => none
      | some (message, receiver, intake) =>
          some { state with
            phase := .serving
              { serving with receiver, intake, received := serving.received ++ [message] } events }
  | .send event =>
      let (sent, conn) := env.h11.send state.conn event
      let started := match event with | .response .. => sent.isSome | _ => false
      some { state with
        conn
        phase := .serving
          { serving with responseStarted := serving.responseStarted || started } events }
  | .appReturns raised =>
      some (advance env { state with conn := afterApp env state.conn serving raised } events)
  | .cancel => (cancelCompanion serving).map fun serving =>
      { state with phase := .serving serving events }
  | _ => none

/-- What an action does where it is enabled. -/
def step (state : State Conn) : Action → Option (State Conn)
  | .clientLeaves => some { state with clientGone := true }
  | .drain => some { state with draining := true }
  | .read outcome =>
      match state.phase with
      | .reading =>
          if outcome.possible state.clientGone then
            match outcome with
            | .data data => some (readData env state data)
            | _ => some { state with phase := .closed }
          else none
      | _ => none
  | action =>
      match state.phase with
      | .serving serving events => servingStep env state serving events action
      | _ => none

/-- A connection of the worker. -/
def machine : Machine (State Conn) Action where
  init state := state = { conn := env.h11.new }
  step := step env

end

end Pounce.Worker
