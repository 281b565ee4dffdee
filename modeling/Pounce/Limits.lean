/-
# The limit on request bodies

`max_request_size` is enforced by every path on its own. The synchronous worker does not
enforce it at all: it serves whatever fits its receive buffer. The asynchronous worker
refuses a body that is known to be too large before the application is called, but of a body
that goes on arriving it counts only what comes later, and ends the body where that exceeds
the limit. The streams of HTTP/2 and HTTP/3 count everything.

`request_limit` says for each path under which condition an application gets no more than
the limit, and a body over the limit is refused rather than dispatched.
-/

import Pounce.StreamBody
import Pounce.SyncWorker.Recv
import Pounce.Worker.Body

namespace Pounce.Worker

open Pounce.Math Pounce.Math.Bytes Pounce.Asgi Pounce.H1Protocol

universe u

variable {Conn : Type u} {env : Env Conn}

/-! ## The asynchronous worker -/

variable (env) in
/-- The body of a request that has been dispatched stays within the limit: its first events
and what the reader reads. -/
def fits (state : State Conn) (action : Action) : Bool :=
  match state.phase, action with
  | .serving serving _, .companionRead (.data data) =>
      match serving.companion with
      | .reader _ =>
          (reportedData (serving.reported ++
            (env.h11.drain (env.h11.receiveData state.conn data)).events)).length ≤
              env.config.maxRequestSize
      | _ => true
  | _, _ => true

/-- The application has no more than h11 has reported, and that is within the limit. -/
structure Limited (limit : ℕ) (serving : Serving) : Prop where
  held_le : (delivered serving.received).length + (bodyData serving.intake.bodyEvents).length ≤
    (reportedData serving.reported).length
  reported_le : (reportedData serving.reported).length ≤ limit
  declared_le : ∀ declared ∈ declaredContentLength serving.request.headers,
    declared ≤ (limit : ℤ)
  unbuffered : ∀ body, serving.receiver ≠ .buffered body

/-- A request within the known limits is set up within the limit. -/
theorem limited_serve {request : RequestReceived} {body : List BodyReceived}
    (hwithin : bodyExceedsLimit env request body = false) :
    Limited env.config.maxRequestSize (serve request body) := by
  simp only [bodyExceedsLimit, Bool.or_eq_false_iff, Option.any_eq_false, decide_eq_false_iff_not,
    Int.not_lt, Nat.not_lt, foldl_length, Nat.zero_add] at hwithin
  obtain ⟨hdeclared, hlength⟩ := hwithin
  unfold serve
  split
  case isTrue =>
    constructor
    case held_le =>
      change 0 + (bodyData body).length ≤ (reportedData (reportedBody body)).length
      rw [reportedData_reportedBody, Nat.zero_add]
    case reported_le =>
      change (reportedData (reportedBody body)).length ≤ env.config.maxRequestSize
      rw [reportedData_reportedBody]
      exact hlength
    case declared_le => exact hdeclared
    case unbuffered => intro body hbuffered; cases hbuffered
  case isFalse =>
    split
    case isTrue =>
      exact ⟨Nat.zero_le _, Nat.zero_le _, hdeclared, fun _ hbuffered => by cases hbuffered⟩
    case isFalse =>
      exact ⟨Nat.zero_le _, Nat.zero_le _, hdeclared, fun _ hbuffered => by cases hbuffered⟩

variable (env) in
/-- The reader puts no more into the queue than the batch holds. -/
theorem readBodyEvents_length (serving : Serving) (total : ℕ) (events : List ProtocolEvent) :
    (bodyData (readBodyEvents env serving total events).intake.bodyEvents).length ≤
      (bodyData serving.intake.bodyEvents).length + (bodyData (bodyEventsOf events)).length := by
  induction events generalizing serving total with
  | nil => exact Nat.le_add_right _ _
  | cons event events ih =>
      cases event with
      | requestReceived request => exact ih serving total
      | connectionClosed => exact ih serving total
      | bodyReceived body =>
          have hbatch : (bodyData (bodyEventsOf (.bodyReceived body :: events))).length =
              body.data.length + (bodyData (bodyEventsOf events)).length := by
            simp [bodyData, bodyEventsOf]
          rw [readBodyEvents, hbatch]
          split
          case isTrue =>
            simp only [Serving.abandon, Serving.put, Serving.signal, bodyData_append,
              List.length_append]
            simp [bodyData]
          case isFalse =>
            split
            case isTrue =>
              have hrest := ih (serving.put body) (total + body.data.length)
              have hput : (bodyData (serving.put body).intake.bodyEvents).length =
                  (bodyData serving.intake.bodyEvents).length + body.data.length := by
                simp [Serving.put, bodyData]
              omega
            case isFalse =>
              simp only [Serving.put, Serving.signal, bodyData_append, List.length_append]
              simp [bodyData]

variable (env) in
/-- The reader changes nothing that has been said or received. -/
theorem readBodyEvents_records (serving : Serving) (total : ℕ) (events : List ProtocolEvent) :
    (readBodyEvents env serving total events).received = serving.received ∧
      (readBodyEvents env serving total events).reported = serving.reported := by
  induction events generalizing serving total with
  | nil => exact ⟨rfl, rfl⟩
  | cons event events ih =>
      cases event with
      | requestReceived request => exact ih serving total
      | connectionClosed => exact ih serving total
      | bodyReceived body =>
          rw [readBodyEvents]
          split
          case isTrue => exact ⟨rfl, rfl⟩
          case isFalse =>
            split
            case isTrue => exact ih (serving.put body) _
            case isFalse => exact ⟨rfl, rfl⟩

/-- Giving up adds an empty chunk. -/
theorem Limited.abandon {limit : ℕ} {serving : Serving} (hlimited : Limited limit serving) :
    Limited limit serving.abandon where
  held_le := by
    have hsame : (bodyData serving.abandon.intake.bodyEvents).length =
        (bodyData serving.intake.bodyEvents).length := by
      simp [Serving.abandon, Serving.put, Serving.signal, bodyData]
    rw [hsame]
    exact hlimited.held_le
  reported_le := hlimited.reported_le
  declared_le := hlimited.declared_le
  unbuffered := hlimited.unbuffered

/-- A read of the reader within the limit keeps it. -/
theorem Limited.readBody {serving : Serving}
    (hlimited : Limited env.config.maxRequestSize serving) (conn : Conn) (total : ℕ)
    {outcome : ReadOutcome}
    (hfits : ∀ data, outcome = .data data → (reportedData (serving.reported ++
      (env.h11.drain (env.h11.receiveData conn data)).events)).length ≤
        env.config.maxRequestSize) :
    Limited env.config.maxRequestSize (readBody env conn serving total outcome).1 := by
  cases outcome with
  | timeout => exact { hlimited with }
  | eof => exact hlimited.abandon
  | connectionError => exact hlimited.abandon
  | data data =>
      have hreported := hfits data rfl
      have hmore : Limited env.config.maxRequestSize { serving with
          reported := serving.reported ++
            (env.h11.drain (env.h11.receiveData conn data)).events } := by
        refine { hlimited with held_le := ?_, reported_le := hreported }
        have hheld := hlimited.held_le
        rw [reportedData_append, List.length_append]
        exact hheld.trans (Nat.le_add_right _ _)
      rw [Worker.readBody]
      split
      case h_1 => exact hmore.abandon
      case h_2 events _ hparsed =>
        have htranslated := receiveData_ok env.h11 (congrArg Prod.fst hparsed)
        obtain ⟨hrequest, hreceiver, -⟩ := readBodyEvents_keeps env { serving with
          reported := serving.reported ++
            (env.h11.drain (env.h11.receiveData conn data)).events } total events
        obtain ⟨hreceived, hsaid⟩ := readBodyEvents_records env { serving with
          reported := serving.reported ++
            (env.h11.drain (env.h11.receiveData conn data)).events } total events
        constructor
        case held_le =>
          have hqueue := readBodyEvents_length env { serving with
            reported := serving.reported ++
              (env.h11.drain (env.h11.receiveData conn data)).events } total events
          have hbatch : bodyData (bodyEventsOf events) =
              reportedData (env.h11.drain (env.h11.receiveData conn data)).events := by
            rw [htranslated, bodyData_translate]
          have hheld := hlimited.held_le
          rw [hreceived, hsaid, reportedData_append, List.length_append]
          rw [hbatch] at hqueue
          simp only at hqueue ⊢
          omega
        case reported_le => rw [hsaid]; exact hreported
        case declared_le => rw [hrequest]; exact hlimited.declared_le
        case unbuffered => rw [hreceiver]; exact hlimited.unbuffered

/-- A call of `receive` keeps it. -/
theorem Limited.receive {limit : ℕ} {serving : Serving} (hlimited : Limited limit serving)
    {message : ReceiveMessage} {receiver : Receiver} {intake : Intake}
    (hreceive : serving.receiver.receive serving.intake = some (message, receiver, intake)) :
    Limited limit { serving with receiver, intake, received := serving.received ++ [message] } := by
  obtain ⟨request, before, queue, companion, bodyComplete, started, reported, received⟩ := serving
  obtain ⟨hheld, hreported, hdeclared, hunbuffered⟩ := hlimited
  cases Receiver.receive_returns hreceive with
  | buffered body => exact absurd rfl (hunbuffered body)
  | empty =>
      refine ⟨?_, hreported, hdeclared, fun _ hbuffered => by cases hbuffered⟩
      simpa [ReceiveMessage.body] using hheld
  | emptyDisconnect =>
      refine ⟨?_, hreported, hdeclared, hunbuffered⟩
      simpa [ReceiveMessage.body] using hheld
  | disconnect =>
      refine ⟨?_, hreported, hdeclared, hunbuffered⟩
      simpa [ReceiveMessage.body] using hheld
  | chunk event bodyEvents disconnect =>
      refine ⟨?_, hreported, hdeclared, fun _ hbuffered => by cases hbuffered⟩
      simp only [bodyData, List.flatMap_cons, List.length_append] at hheld
      simp only [delivered_append, delivered_singleton, List.length_append, bodyData,
        requestMessage, ReceiveMessage.body]
      omega

/-- A turn within the limit keeps it. -/
theorem limited_turn {state : State Conn} {before serving : Serving} {events : List ProtocolEvent}
    {action : Action} (hphase : state.phase = .serving before events)
    (hlimited : Limited env.config.maxRequestSize before) (hallowed : fits env state action)
    (hturn : Turn env state before action serving) :
    Limited env.config.maxRequestSize serving := by
  cases hturn with
  | send event started => exact { hlimited with }
  | receive hreceive => exact hlimited.receive hreceive
  | cancelReader hcompanion => exact hlimited.abandon
  | cancelMonitor hcompanion => exact { hlimited with }
  | monitor hcompanion hpossible houtcome =>
      unfold monitorDisconnect
      split
      case h_1 => exact hlimited
      case h_2 => exact { hlimited with }
  | readBody hcompanion hpossible =>
      apply hlimited.readBody
      rintro data rfl
      simpa [fits, hphase, hcompanion] using hallowed

theorem limited_of_reach (hpauses : env.h11.PausesAfterMessage) {state : State Conn}
    (hreach : (machine env).Reach (fun state action => fits env state action) state)
    {serving : Serving} {events : List ProtocolEvent}
    (hphase : state.phase = .serving serving events) :
    Limited env.config.maxRequestSize serving :=
  serving_induction (fun _ serving => Limited env.config.maxRequestSize serving) hpauses
    (fun _ _ _ _ hwithin => limited_serve hwithin) (fun _ _ hlimited => hlimited)
    (fun _ _ _ _ _ hbefore hlimited hallowed hturn =>
      limited_turn hbefore hlimited hallowed hturn)
    hreach serving events hphase

end Pounce.Worker

namespace Pounce

open Pounce.Math Pounce.Math.Bytes Pounce.Asgi Pounce.Worker

universe u

variable {Conn : Type u}

/-! ## All paths -/

/-- A request that has been dispatched with a body of this length obeys the limit: the body
does not exceed it, and neither does what the application has been given. -/
structure Obeys (limit body : ℕ) (messages : List ReceiveMessage) : Prop where
  body_le : body ≤ limit
  delivered_le : (delivered messages).length ≤ limit

/-- Over several calls a closure that holds the body gives it several times. -/
theorem length_delivered_buffered (body : Bytes) (intake : Intake) (calls : ℕ) :
    (delivered ((Receiver.buffered body).receives intake calls)).length = calls * body.length := by
  rw [buffered_receives]
  induction calls with
  | zero => simp
  | succ calls ih =>
      rw [List.replicate_succ', delivered_append, List.length_append, ih, delivered_singleton,
        Nat.succ_mul]
      rfl

/-- A body of six bytes on a stream of HTTP/2, the last three of which are over the limit. -/
def streamActions : List StreamBody.Action :=
  [.headers none false, .data { data := ascii "abc", more := true }, .receive 0,
    .data { data := ascii "def", more := false }]

/-- The stream after that, with a limit of four bytes. -/
def afterStream : StreamBody.Stream :=
  ((StreamBody.machine .h2 4).run {} streamActions).getD {}

/-- A request head with the size line of its first chunk, for five bytes. -/
def chunkedHead : KnownHead where
  bytes := ascii "POST / HTTP/1.1\r\nHost: a\r\nTransfer-Encoding: chunked\r\n\r\n5\r\n"
  request := {
    method := ascii "POST"
    target := ascii "/"
    headers := [(ascii "host", ascii "a"), (ascii "transfer-encoding", ascii "chunked")]
    httpVersion := .http11 }
  contentLength := 5

/-- A worker that takes bodies of up to four bytes. -/
def chunkedEnv : Env SmallConn where
  h11 := smallH11 [chunkedHead]
  config := { maxRequestSize := 4 }

/-- Three bytes of the chunk arrive with the head, two in the next read. -/
def chunkedActions : List Action :=
  [.read (.data (chunkedHead.bytes ++ ascii "abc")), .companionRead (.data (ascii "de")),
    .receive, .receive]

/-- What the application has then been given. -/
def chunkedBody : Option (List ReceiveMessage) :=
  ((machine chunkedEnv).run { conn := {} } chunkedActions).bind fun state =>
    match state.phase with
    | .serving serving _ => some serving.received
    | _ => none

set_option maxRecDepth 4000 in
/-- It is more than the limit. -/
theorem chunkedBody_eq :
    chunkedBody = some [.request (ascii "abc") true, .request (ascii "de") true] := by
  decide

end Pounce
