/-
# What one HTTP/3 stream does to the others

Neither the handler nor the library keeps a stream from being answered twice: a send callable
knows what it has sent itself, and the handler's own responses are sent whatever has gone
before. So a stream gets one response as long as the handler answers only where nothing has
been begun, and applications start their responses once and not after the handler; and the
loop goes on as long as the library takes those answers. In such runs no stream is answered
twice, nothing raises out of the loop, and a task is cancelled for its own stream or with the
connection (`isolated`).
-/

import Pounce.H3.Handler

namespace Pounce.H3

open Pounce.Math Pounce.Math.Bytes Pounce.Asgi
open Pounce.SyncWorker (PyError)

/-- What has to have happened for a task to be cancelled. -/
def Handler.Warranted {Conn Datum : Type} (handler : Handler Conn Datum) (streamId : ℕ) :
    Cancellation → Prop
  | .tooLarge => ∃ data endStream, .h3 (.dataReceived streamId data endStream) ∈ handler.dispatched
  | .reset => .quic (.streamReset streamId) ∈ handler.dispatched
  | .closing => handler.closed = true

/-- No stream has got two responses or ends, no failure of a stream has raised out of the loop,
and no task has been cancelled for another stream. -/
structure Handler.Isolated {Conn Datum : Type} (handler : Handler Conn Datum) : Prop where
  answered : AnsweredOnce handler.sent
  stays : handler.failed = false
  own : ∀ id task cancellation, handler.tasks id = some task →
    task.cancelled = some cancellation → handler.Warranted task.streamId cancellation

/-- The library takes a whole response on the stream, and that no more is wanted. -/
def Codec.Takes {Conn Datum : Type} (codec : Codec Conn Datum) (conn : Conn) (streamId : ℕ) :
    Prop :=
  ∀ status headers body, ∃ begun ended stopped,
    codec.sendHeaders conn streamId status headers = .ok begun ∧
      codec.sendData begun streamId body true = .ok ended ∧
        codec.signalStopSending ended streamId = .ok stopped

/-- The message starts a response. -/
def isStart : SendMessage → Bool
  | .responseStart status _ => status ≠ 103
  | _ => false

namespace Handler

variable {Conn Datum : Type} (env : Env Conn Datum) (handler : Handler Conn Datum)

/-- HEADERS on a stream without a task come once, can be read, and what the handler says to
them is taken. -/
def SparesHeaders (streamId : ℕ) (headers : List Header) (is0rtt : Bool) : Prop :=
  handler.begun streamId = none ∧ streamId ∉ handler.answered ∧
    if handler.draining then env.codec.Takes handler.conn streamId
    else
      match buildH3Scope env.config env.client env.server headers with
      | .error (.raised _) => False
      | .error (.pseudoHeader _) => env.codec.Takes handler.conn streamId
      | .ok scope =>
          (is0rtt = true ∧ scope.method ∈ unsafeMethods) ∨
              exceedsLimit env.config.maxRequestSize scope.headers = true →
            env.codec.Takes handler.conn streamId

/-- A body goes over the limit only before a response is begun, and the library takes what the
handler says to it. -/
def SparesData (streamId : ℕ) (data : Bytes) : Prop :=
  (handler.streamTasks streamId).isSome → streamId ∉ handler.streamBodyEnded →
    env.config.maxRequestSize < (handler.streamBodyBytes streamId).getD 0 + data.length →
      halfOf handler.sent streamId = .fresh ∧ env.codec.Takes handler.conn streamId

/-- An application starts its response once and sends nothing after the handler has answered,
and the handler answers for an application only before a response is begun. -/
def Spares : Action → Prop
  | .dispatch =>
      match handler.pending.head? with
      | some (.h3 (.headersReceived streamId headers _ is0rtt)) =>
          handler.streamTasks streamId = none →
            handler.SparesHeaders env streamId headers is0rtt
      | some (.h3 (.dataReceived streamId data _)) => handler.SparesData env streamId data
      | _ => True
  | .send id message => ∀ callable, handler.sends id = some callable →
      callable.streamId ∉ handler.answered ∧
        (isStart message = true → callable.state.responseStarted = false)
  | .finish id ending => ∀ task, handler.tasks id = some task → task.started = true →
      ending = .raised ∨
          ending = .bodyTimeout ∧ ((handler.sends id).map (·.status)).getD 0 = 0 →
        halfOf handler.sent task.streamId = .fresh
  | _ => True

end Handler

/-! ## Send callables -/

/-- The frame an event of a bridge becomes. -/
def frameOf (streamId : ℕ) : WireEvent → SentFrame
  | .informational headers => .headers streamId 103 headers false
  | .head status headers => .headers streamId status headers false
  | .data data endStream => .data streamId data endStream

/-- A send callable knows how far it has brought its stream. -/
structure Fits (state : SendState) (half : Half) : Prop where
  unstarted : state.responseStarted = false → half = .fresh ∧ state.deferredStart = none
  deferred : state.deferredStart.isSome → half = .fresh
  ongoing : state.responseComplete = false → half ≠ .ended

/-- What a message makes of the state of a send callable, what it sends, and whether it starts
the response. -/
inductive Effect (state after : SendState) : Bool → List WireEvent → Prop where
  | hint (headers : List Header) (hstarted : after.responseStarted = state.responseStarted)
      (hdeferred : after.deferredStart = state.deferredStart)
      (hcomplete : after.responseComplete = state.responseComplete) :
      Effect state after false [.informational headers]
  | start (status : ℕ) (headers : List Header) (hstarted : after.responseStarted = true)
      (hdeferred : after.deferredStart = state.deferredStart)
      (hcomplete : after.responseComplete = state.responseComplete) :
      Effect state after true [.head status headers]
  | defer (hstarted : after.responseStarted = true)
      (hcomplete : after.responseComplete = state.responseComplete) : Effect state after true []
  | body (data : Bytes) (endStream : Bool) (hongoing : state.responseComplete = false)
      (hstarted : after.responseStarted = true) (hdeferred : after.deferredStart = none)
      (hcomplete : after.responseComplete = endStream) :
      Effect state after false [.data data endStream]
  | headAndBody (status : ℕ) (headers : List Header) (data : Bytes) (endStream : Bool)
      (hongoing : state.responseComplete = false) (hsome : state.deferredStart.isSome)
      (hstarted : after.responseStarted = true) (hdeferred : after.deferredStart = none)
      (hcomplete : after.responseComplete = endStream) :
      Effect state after false [.head status headers, .data data endStream]

/-- A start message commits its head or defers it. -/
theorem h3_start_effect (env : SendEnv) (state : SendState) {status : ℕ} (headers : List Header)
    (hfinal : status ≠ 103) :
    ∃ events, (Asgi.h3.start env state status headers).wire = state.wire ++ events ∧
      Effect state (Asgi.h3.start env state status headers) true events := by
  have hcommit : ∀ committed : SendState, committed.wire = state.wire →
      committed.responseStarted = true → committed.deferredStart = state.deferredStart →
      committed.responseComplete = state.responseComplete → ∀ headers,
        ∃ events, (Asgi.h3.commitHead env committed status headers).wire = state.wire ++ events ∧
          Effect state (Asgi.h3.commitHead env committed status headers) true events := by
    intro committed hwire hstarted hdeferred hcomplete headers
    refine ⟨[.head status (Asgi.h3.buildHead env committed.compressor headers).2], ?_,
      .start status _ hstarted hdeferred hcomplete⟩
    rw [Bridge.commitHead, ← hwire]
  rw [Bridge.start, if_neg hfinal]
  dsimp only
  generalize (if bodylessStatus status ∨ env.requestMethod = ascii "HEAD" then none
    else state.compressor) = compressor
  split
  case isTrue =>
    split
    case h_1 =>
      exact hcommit ⟨true, state.responseComplete, _, state.ops, state.deferredStart, state.wire⟩
        rfl rfl rfl rfl _
    case h_2 => exact ⟨[], (List.append_nil _).symm, .defer rfl rfl⟩
  case isFalse =>
    exact hcommit ⟨true, state.responseComplete, _, state.ops, state.deferredStart, state.wire⟩
      rfl rfl rfl rfl _

/-- A body message commits the head that was deferred, if any. -/
theorem h3_body_effect {env : SendEnv} {state after : SendState} {body : Bytes} {moreBody : Bool}
    (hsend : Asgi.h3.sendBody env state body moreBody = some after) :
    ∃ events, after.wire = state.wire ++ events ∧ Effect state after false events := by
  rw [Bridge.sendBody] at hsend
  split at hsend
  case isTrue => cases hsend
  case isFalse hnot =>
    obtain ⟨hstarted, hongoing⟩ : state.responseStarted = true ∧ state.responseComplete = false := by
      simpa using hnot
    obtain rfl := Option.some.inj hsend
    rw [Bridge.resolveDeferred]
    split
    case h_1 hnone => exact ⟨_, rfl, .body _ _ hongoing hstarted hnone rfl⟩
    case h_2 status headers hsome =>
      refine ⟨_, List.append_assoc .., .headAndBody _ _ _ _ hongoing ?_ hstarted rfl rfl⟩
      rw [hsome]
      rfl

/-- Every message has one of the effects, and only a start starts a response. -/
theorem h3_send_effect {env : SendEnv} {state after : SendState} {message : SendMessage}
    (hsend : Asgi.h3.send env state message = some after) :
    ∃ events, after.wire = state.wire ++ events ∧
      Effect state after (isStart message) events := by
  cases message with
  | responseStart status headers =>
      obtain rfl := Option.some.inj hsend
      by_cases hhint : status = 103
      case pos =>
        subst hhint
        rw [Bridge.start, if_pos rfl]
        exact ⟨_, rfl, .hint _ rfl rfl rfl⟩
      case neg =>
        rw [show isStart (.responseStart status headers) = true from decide_eq_true hhint]
        exact h3_start_effect env state headers hhint
  | responseBody body moreBody => exact h3_body_effect hsend
  | responseSendfile content offset count moreBody => cases hsend

/-! ## Frames -/

/-- The frames were sent in order: one final block of HEADERS, and nothing after an end. -/
def InOrder (frames : List SentFrame) : Prop := Within (halfOf frames) frames

/-- The stream may be sent the frame. -/
def Admits (half : Half) : SentFrame → Prop
  | .headers _ status _ endStream => (endStream = true → half ≠ .ended) ∧
      (isInformational status = false → half = .fresh)
  | .data _ _ _ => half ≠ .ended
  | .resetStream _ _ => True

variable {frames : List SentFrame} {frame : SentFrame} {streamId : ℕ}

theorem halfOf_append_of_ne (hne : frame.streamId ≠ streamId) :
    halfOf (frames ++ [frame]) streamId = halfOf frames streamId := by
  rw [halfOf_append, Half.after_of_ne _ hne]

/-- A frame that is admitted keeps the order. -/
theorem InOrder.push (horder : InOrder frames)
    (hadmits : Admits (halfOf frames frame.streamId) frame) : InOrder (frames ++ [frame]) := by
  cases frame with
  | headers id status headers endStream =>
      apply Within.headers horder hadmits.1 hadmits.2
      · exact fun other hother => halfOf_append_of_ne (Ne.symm hother)
      · rw [halfOf_append]
        exact if_pos rfl
  | data id data endStream =>
      apply Within.data horder hadmits
      · exact fun other hother => halfOf_append_of_ne (Ne.symm hother)
      · rw [halfOf_append]
        exact if_pos rfl
  | resetStream id errorCode =>
      apply Within.reset horder errorCode
      intro other
      by_cases hother : id = other
      case pos =>
        subst hother
        rw [halfOf_append]
        exact .inr (if_pos rfl)
      case neg => exact .inl (halfOf_append_of_ne hother)

namespace Handler

variable {Conn Datum : Type} {env : Env Conn Datum} {handler next : Handler Conn Datum}

/-- Only the connection has changed, and frames of the stream have been sent on it. -/
structure Sent (streamId : ℕ) (handler next : Handler Conn Datum) : Prop where
  same : ∃ conn sent, next = { handler with conn, sent }
  others : ∀ id, id ≠ streamId → halfOf next.sent id = halfOf handler.sent id

theorem Sent.refl (streamId : ℕ) (handler : Handler Conn Datum) : Sent streamId handler handler :=
  ⟨⟨handler.conn, handler.sent, rfl⟩, fun _ _ => rfl⟩

theorem Sent.trans {first second third : Handler Conn Datum} (hfirst : Sent streamId first second)
    (hsecond : Sent streamId second third) : Sent streamId first third where
  same := by
    obtain ⟨_, _, rfl⟩ := hfirst.same
    obtain ⟨conn, sent, rfl⟩ := hsecond.same
    exact ⟨conn, sent, rfl⟩
  others id hid := (hsecond.others id hid).trans (hfirst.others id hid)

variable (env handler) in
/-- HEADERS are taken, or refused. -/
theorem sendHeaders_cases (streamId status : ℕ) (headers : List Header) :
    (∃ error, handler.sendHeaders env streamId status headers = (handler, some error)) ∨
      ∃ conn, handler.sendHeaders env streamId status headers =
        ({ handler with conn, sent := handler.sent ++ [.headers streamId status headers false] },
          none) := by
  rw [sendHeaders]
  split
  case h_1 error _ => exact .inl ⟨error, rfl⟩
  case h_2 conn _ => exact .inr ⟨conn, rfl⟩

variable (env handler) in
/-- So is DATA. -/
theorem sendData_cases (streamId : ℕ) (data : Bytes) (endStream : Bool) :
    (∃ error, handler.sendData env streamId data endStream = (handler, some error)) ∨
      ∃ conn, handler.sendData env streamId data endStream =
        ({ handler with conn, sent := handler.sent ++ [.data streamId data endStream] }, none) := by
  rw [sendData]
  split
  case h_1 error _ => exact .inl ⟨error, rfl⟩
  case h_2 conn _ => exact .inr ⟨conn, rfl⟩

variable (env handler) in
/-- And every event of a bridge. -/
theorem hand_cases (streamId : ℕ) (event : WireEvent) :
    (∃ error, handler.hand env streamId event = (handler, some error)) ∨
      ∃ conn, handler.hand env streamId event =
        ({ handler with conn, sent := handler.sent ++ [frameOf streamId event] }, none) := by
  cases event with
  | informational headers => exact sendHeaders_cases env handler streamId 103 headers
  | head status headers => exact sendHeaders_cases env handler streamId status headers
  | data data endStream => exact sendData_cases env handler streamId data endStream

theorem frameOf_streamId (streamId : ℕ) (event : WireEvent) :
    (frameOf streamId event).streamId = streamId := by
  cases event with
  | informational | head | data => rfl

/-- A frame has been sent. -/
theorem sent_push (conn : Conn) (hframe : frame.streamId = streamId) :
    Sent streamId handler { handler with conn, sent := handler.sent ++ [frame] } where
  same := ⟨_, _, rfl⟩
  others id hid := halfOf_append_of_ne (by rw [hframe]; exact Ne.symm hid)

variable (env) in
/-- One event is taken, or left. -/
theorem deliver_one (handler : Handler Conn Datum) (streamId : ℕ) (event : WireEvent) :
    handler.deliver env streamId [event] = (handler, [event]) ∨
      ∃ conn, handler.deliver env streamId [event] =
        ({ handler with conn, sent := handler.sent ++ [frameOf streamId event] }, []) := by
  rcases hand_cases env handler streamId event with ⟨error, heq⟩ | ⟨conn, heq⟩
  · exact .inl (by simp [deliver, heq])
  · exact .inr ⟨conn, by simp [deliver, heq]⟩

variable (env) in
/-- Of two events the second is taken only after the first. -/
theorem deliver_cons (handler : Handler Conn Datum) (streamId : ℕ) (first : WireEvent)
    (rest : List WireEvent) :
    handler.deliver env streamId (first :: rest) = (handler, first :: rest) ∨
      ∃ conn, handler.deliver env streamId (first :: rest) =
        { handler with conn, sent := handler.sent ++ [frameOf streamId first] }.deliver env
          streamId rest := by
  rcases hand_cases env handler streamId first with ⟨error, heq⟩ | ⟨conn, heq⟩
  · exact .inl (by simp [deliver, heq])
  · exact .inr ⟨conn, by simp [deliver, heq]⟩

variable (env) in
/-- What is delivered is sent on the stream. -/
theorem sent_deliver (handler : Handler Conn Datum) (streamId : ℕ) (events : List WireEvent) :
    Sent streamId handler (handler.deliver env streamId events).1 := by
  induction events generalizing handler with
  | nil => exact .refl streamId handler
  | cons event events ih =>
      rcases deliver_cons env handler streamId event events with heq | ⟨conn, heq⟩
      · rw [heq]
        exact .refl streamId handler
      · rw [heq]
        exact (sent_push conn (frameOf_streamId streamId event)).trans (ih _)

/-- A block of HEADERS that does not end its stream leaves it open. -/
theorem afterHeaders_ne_ended {half : Half} (hhalf : half ≠ .ended) (status : ℕ) :
    half.afterHeaders status false ≠ .ended := by
  rw [Half.afterHeaders, if_neg Bool.false_ne_true]
  split
  · exact hhalf
  · decide

/-- How far an event moves its stream. -/
theorem halfOf_frameOf (frames : List SentFrame) (streamId : ℕ) (event : WireEvent) :
    halfOf (frames ++ [frameOf streamId event]) streamId =
      match event with
      | .informational _ => halfOf frames streamId
      | .head status _ => (halfOf frames streamId).afterHeaders status false
      | .data _ endStream => (halfOf frames streamId).afterData endStream := by
  rw [halfOf_append]
  cases event with
  | informational | head | data => exact if_pos rfl

/-- An event that is admitted keeps the order. -/
theorem inOrder_frameOf (horder : InOrder frames) {event : WireEvent}
    (hadmits : Admits (halfOf frames streamId) (frameOf streamId event)) :
    InOrder (frames ++ [frameOf streamId event]) :=
  horder.push ((frameOf_streamId streamId event).symm ▸ hadmits)

/-- What a callable knows once its response has begun and its head is out. -/
theorem fits_of_begun {state : SendState} {half : Half} (hstarted : state.responseStarted = true)
    (hdeferred : state.deferredStart = none)
    (hongoing : state.responseComplete = false → half ≠ .ended) : Fits state half where
  unstarted hnot := absurd (hstarted.symm.trans hnot) (by decide)
  deferred hsome := by
    rw [hdeferred] at hsome
    cases hsome
  ongoing := hongoing

/-- DATA on an open stream, with or without its end. -/
theorem deliver_data {state after : SendState} {data : Bytes} {endStream : Bool}
    (horder : InOrder handler.sent) (hopen : halfOf handler.sent streamId ≠ .ended)
    (hstarted : after.responseStarted = true) (hdeferred : after.deferredStart = none)
    (hcomplete : after.responseComplete = endStream) :
    InOrder (handler.deliver env streamId [.data data endStream]).1.sent ∧
      Fits (settled state after (handler.deliver env streamId [.data data endStream]).2)
        (halfOf (handler.deliver env streamId [.data data endStream]).1.sent streamId) := by
  rcases deliver_one env handler streamId (.data data endStream) with heq | ⟨conn, heq⟩
  · rw [heq]
    exact ⟨horder, fits_of_begun hstarted hdeferred fun _ => hopen⟩
  · rw [heq]
    refine ⟨inOrder_frameOf horder hopen, fits_of_begun hstarted hdeferred fun hgoes => ?_⟩
    rw [halfOf_frameOf]
    obtain rfl : endStream = false := hcomplete.symm.trans hgoes
    exact hopen

variable (env) in
/-- What a callable sends on a stream that it knows about fits what it knows afterwards. -/
theorem deliver_effect {state after : SendState} {starts : Bool} {events : List WireEvent}
    (heffect : Effect state after starts events) (horder : InOrder handler.sent)
    (hfits : Fits state (halfOf handler.sent streamId))
    (hstart : starts = true → state.responseStarted = false) :
    InOrder (handler.deliver env streamId events).1.sent ∧
      Fits (settled state after (handler.deliver env streamId events).2)
        (halfOf (handler.deliver env streamId events).1.sent streamId) := by
  cases heffect with
  | hint headers hstarted hdeferred hcomplete =>
      have hafter : ∀ half, half = halfOf handler.sent streamId → ∀ ops,
          Fits { after with responseComplete := state.responseComplete, ops } half := by
        rintro half rfl ops
        refine ⟨fun hnot => ?_, fun hsome => ?_, hfits.ongoing⟩
        · exact (hfits.unstarted (hstarted.symm.trans hnot)).imp_right hdeferred.trans
        · exact hfits.deferred (hdeferred ▸ hsome)
      rcases deliver_one env handler streamId (.informational headers) with heq | ⟨conn, heq⟩
      · rw [heq]
        exact ⟨horder, hafter _ rfl _⟩
      · rw [heq]
        refine ⟨inOrder_frameOf horder ⟨fun hnot => (by cases hnot), fun hnot => (by cases hnot)⟩, ?_⟩
        have hsettled := hafter _ (halfOf_frameOf handler.sent streamId (.informational headers))
          after.ops
        rw [← hcomplete] at hsettled
        exact hsettled
  | start status headers hstarted hdeferred hcomplete =>
      obtain ⟨hfresh, hnone⟩ := hfits.unstarted (hstart rfl)
      have hopen : halfOf handler.sent streamId ≠ .ended := by simp [hfresh]
      have hbegun : after.deferredStart = none := hdeferred.trans hnone
      rcases deliver_one env handler streamId (.head status headers) with heq | ⟨conn, heq⟩
      · rw [heq]
        exact ⟨horder, fits_of_begun hstarted hbegun fun _ => hopen⟩
      · rw [heq]
        refine ⟨inOrder_frameOf horder ⟨fun hnot => (by cases hnot), fun _ => hfresh⟩,
          fits_of_begun hstarted hbegun fun _ => ?_⟩
        rw [halfOf_frameOf]
        exact afterHeaders_ne_ended hopen status
  | defer hstarted hcomplete =>
      obtain ⟨hfresh, -⟩ := hfits.unstarted (hstart rfl)
      refine ⟨horder, fun hnot => ?_, fun _ => hfresh, fun _ hended => ?_⟩
      · exact absurd (hstarted.symm.trans hnot) (by decide)
      · rw [show halfOf handler.sent streamId = .ended from hended] at hfresh
        cases hfresh
  | body data endStream hongoing hstarted hdeferred hcomplete =>
      exact deliver_data horder (hfits.ongoing hongoing) hstarted hdeferred hcomplete
  | headAndBody status headers data endStream hongoing hsome hstarted hdeferred hcomplete =>
      have hfresh := hfits.deferred hsome
      have hopen : halfOf handler.sent streamId ≠ .ended := by simp [hfresh]
      rcases deliver_cons env handler streamId (.head status headers) [.data data endStream] with
        heq | ⟨conn, heq⟩
      · rw [heq]
        exact ⟨horder, fits_of_begun hstarted hdeferred fun _ => hopen⟩
      · rw [heq]
        apply deliver_data
        · exact inOrder_frameOf horder ⟨fun hnot => (by cases hnot), fun _ => hfresh⟩
        · show halfOf (handler.sent ++ [frameOf streamId (.head status headers)]) streamId ≠ .ended
          rw [halfOf_frameOf]
          exact afterHeaders_ne_ended hopen status
        · exact hstarted
        · exact hdeferred
        · exact hcomplete

/-! ## Responses of the handler -/

/-- The handler has answered a stream. -/
structure Answered (streamId : ℕ) (handler next : Handler Conn Datum) : Prop where
  sent : Sent streamId { handler with answered := insert streamId handler.answered } next
  inOrder : InOrder handler.sent → halfOf handler.sent streamId = .fresh → InOrder next.sent

variable (env handler) in
/-- A response is HEADERS and DATA, as far as they are taken. -/
theorem answered_respond (streamId status : ℕ) (headers : List Header) (body : Bytes) :
    Answered streamId handler (handler.respond env streamId status headers body).1 := by
  have hhead : ∀ frames, InOrder frames → halfOf frames streamId = .fresh →
      InOrder (frames ++ [.headers streamId status headers false]) := by
    intro frames horder hfresh
    exact horder.push ⟨fun hnot => (by cases hnot), fun _ => hfresh⟩
  rw [respond]
  rcases sendHeaders_cases env { handler with answered := insert streamId handler.answered }
    streamId status headers with ⟨error, heq⟩ | ⟨conn, heq⟩
  · rw [heq]
    exact ⟨.refl .., fun horder _ => horder⟩
  · rw [heq]
    dsimp only
    have hbegun : Sent streamId { handler with answered := insert streamId handler.answered } _ :=
      sent_push conn (show (SentFrame.headers streamId status headers false).streamId = streamId
        from rfl)
    rcases sendData_cases env { handler with
      conn
      answered := insert streamId handler.answered
      sent := handler.sent ++ [.headers streamId status headers false] } streamId body true with
      ⟨error, heq⟩ | ⟨conn, heq⟩
    · rw [heq]
      exact ⟨hbegun, hhead _⟩
    · rw [heq]
      refine ⟨hbegun.trans (sent_push conn rfl), fun horder hfresh => ?_⟩
      apply (hhead _ horder hfresh).push
      show halfOf (handler.sent ++ [.headers streamId status headers false]) streamId ≠ .ended
      rw [halfOf_append, hfresh]
      show (if streamId = streamId then Half.fresh.afterHeaders status false else .fresh) ≠ .ended
      rw [if_pos rfl]
      exact afterHeaders_ne_ended (by decide) status

variable (env handler) in
theorem answered_refuse (streamId status : ℕ) (headers : List Header) (body : Bytes) :
    Answered streamId handler (handler.refuse env streamId status headers body).1 := by
  have hanswered := answered_respond env handler streamId status headers body
  rw [refuse]
  split
  case h_1 raised error heq =>
    rw [heq] at hanswered
    exact hanswered
  case h_2 answered heq =>
    rw [heq] at hanswered
    split
    case h_1 => exact hanswered
    case h_2 conn _ =>
      exact ⟨hanswered.sent.trans ⟨⟨conn, answered.sent, rfl⟩, fun _ _ => rfl⟩, hanswered.inOrder⟩

variable (env handler) in
theorem answered_sendTooEarly (streamId : ℕ) :
    Answered streamId handler (handler.sendTooEarly env streamId).1 := by
  rw [sendTooEarly]
  rcases sendHeaders_cases env { handler with answered := insert streamId handler.answered }
    streamId 425 [] with ⟨error, heq⟩ | ⟨conn, heq⟩
  · rw [heq]
    exact ⟨.refl .., fun horder _ => horder⟩
  · rw [heq]
    refine ⟨sent_push conn rfl, fun horder hfresh => ?_⟩
    exact horder.push ⟨fun hnot => (by cases hnot), fun _ => hfresh⟩

/-- An answer changes the connection, what is written and who is answered. -/
theorem Answered.same {streamId : ℕ} (hanswered : Answered streamId handler next) :
    ∃ conn sent answered, next = { handler with conn, sent, answered } := by
  obtain ⟨conn, sent, rfl⟩ := hanswered.sent.same
  exact ⟨conn, sent, _, rfl⟩

variable (env handler) in
/-- What answers for a task at its end changes no more than an answer. -/
theorem answerEnding_same (streamId status : ℕ) (ending : Ending) :
    ∃ conn sent answered,
      handler.answerEnding env streamId status ending = { handler with conn, sent, answered } := by
  rw [answerEnding.eq_def]
  cases ending with
  | returned => exact ⟨handler.conn, handler.sent, handler.answered, rfl⟩
  | raised => exact (answered_respond ..).same
  | bodyTimeout =>
      dsimp only
      split
      · exact (answered_refuse ..).same
      · exact ⟨handler.conn, handler.sent, handler.answered, rfl⟩

variable (env handler) in
/-- A call of the send callable changes the connection, what is written and the callable. -/
theorem send_same (id : ℕ) (callable : SendCallable) (message : SendMessage) :
    ∃ conn sent sends,
      handler.send env id callable message = { handler with conn, sent, sends } := by
  rw [Handler.send]
  split
  case h_1 => exact ⟨handler.conn, handler.sent, handler.sends, rfl⟩
  case h_2 after _ =>
    obtain ⟨conn, sent, heq⟩ := (sent_deliver env handler callable.streamId
      (after.wire.drop callable.state.wire.length)).same
    generalize handler.deliver env callable.streamId
      (after.wire.drop callable.state.wire.length) = delivered at *
    obtain ⟨delivered, left⟩ := delivered
    obtain rfl : delivered = { handler with conn, sent } := heq
    exact ⟨conn, sent, _, rfl⟩

/-- What is taken does not raise. -/
theorem refuse_raises {streamId : ℕ} (htakes : env.codec.Takes handler.conn streamId)
    (status : ℕ) (headers : List Header) (body : Bytes) :
    (handler.refuse env streamId status headers body).2 = none ∧
      (handler.respond env streamId status headers body).2 = none := by
  obtain ⟨begun, ended, stopped, hheaders, hdata, hstop⟩ := htakes status headers body
  simp [refuse, respond, sendHeaders, sendData, hheaders, hdata, hstop]

theorem sendTooEarly_raises {streamId : ℕ} (htakes : env.codec.Takes handler.conn streamId) :
    (handler.sendTooEarly env streamId).2 = none := by
  obtain ⟨begun, -, -, hheaders, -⟩ := htakes 425 [] []
  simp [sendTooEarly, sendHeaders, hheaders]

/-! ## Who owns a stream -/

/-- Tasks and send callables belong to the streams they were made for, and a stream that the
handler has answered has no task but a cancelled one. -/
structure Owned (handler : Handler Conn Datum) : Prop where
  task : ∀ id task, handler.tasks id = some task → handler.begun task.streamId = some id
  callable : ∀ id callable, handler.sends id = some callable →
    handler.begun callable.streamId = some id
  waiting : ∀ id task, handler.tasks id = some task → task.started = false →
    handler.sends id = none
  registered : ∀ streamId id, handler.streamTasks streamId = some id →
    handler.begun streamId = some id
  single : ∀ streamId other id, handler.begun streamId = some id →
    handler.begun other = some id → streamId = other
  bounded : ∀ streamId id, handler.begun streamId = some id → id < handler.nextTask
  live : ∀ id task, handler.tasks id = some task → task.cancelled = none →
    task.streamId ∉ handler.answered

/-- Every cancellation has its reason. -/
def Own (handler : Handler Conn Datum) : Prop :=
  ∀ id task cancellation, handler.tasks id = some task → task.cancelled = some cancellation →
    handler.Warranted task.streamId cancellation

/-- A task is as it was, or has been cancelled with reason. -/
def SameTask (next : Handler Conn Datum) (task after : StreamTask) : Prop :=
  after.streamId = task.streamId ∧ after.started = task.started ∧
    (after.cancelled = task.cancelled ∨
      ∃ cancellation, after.cancelled = some cancellation ∧
        next.Warranted after.streamId cancellation)

/-- No task and no send callable has been made. -/
structure Kept (handler next : Handler Conn Datum) : Prop where
  begun : next.begun = handler.begun
  nextTask : next.nextTask = handler.nextTask
  sends : next.sends = handler.sends
  registered : ∀ streamId id, next.streamTasks streamId = some id →
    handler.streamTasks streamId = some id
  tasks : ∀ id after, next.tasks id = some after →
    ∃ task, handler.tasks id = some task ∧ SameTask next task after
  answered : ∀ id after, next.tasks id = some after → after.cancelled = none →
    after.streamId ∈ next.answered → after.streamId ∈ handler.answered
  dispatched : ∀ pending ∈ handler.dispatched, pending ∈ next.dispatched
  closed : handler.closed = true → next.closed = true

theorem Owned.mono (howned : Owned handler) (hkept : Kept handler next) : Owned next where
  task id after hafter := by
    obtain ⟨task, htask, hstream, -⟩ := hkept.tasks id after hafter
    rw [hkept.begun, hstream]
    exact howned.task id task htask
  callable id callable hcallable := by
    rw [hkept.begun]
    exact howned.callable id callable (hkept.sends ▸ hcallable)
  waiting id after hafter hwaits := by
    obtain ⟨task, htask, -, hstarted, -⟩ := hkept.tasks id after hafter
    rw [hkept.sends]
    exact howned.waiting id task htask (hstarted ▸ hwaits)
  registered streamId id hregistered := by
    rw [hkept.begun]
    exact howned.registered streamId id (hkept.registered streamId id hregistered)
  single := by
    rw [hkept.begun]
    exact howned.single
  bounded := by
    rw [hkept.begun, hkept.nextTask]
    exact howned.bounded
  live id after hafter hcancelled hanswered := by
    obtain ⟨task, htask, hstream, -, hsame | ⟨cancellation, hsome, -⟩⟩ :=
      hkept.tasks id after hafter
    · apply howned.live id task htask (hsame.symm.trans hcancelled)
      rw [← hstream]
      exact hkept.answered id after hafter hcancelled hanswered
    · rw [hsome] at hcancelled
      cases hcancelled

/-- A reason stays a reason. -/
theorem Warranted.mono {streamId : ℕ} {cancellation : Cancellation}
    (hwarranted : handler.Warranted streamId cancellation)
    (hdispatched : ∀ pending ∈ handler.dispatched, pending ∈ next.dispatched)
    (hclosed : handler.closed = true → next.closed = true) :
    next.Warranted streamId cancellation := by
  cases cancellation with
  | tooLarge =>
      obtain ⟨data, endStream, hmem⟩ := hwarranted
      exact ⟨data, endStream, hdispatched _ hmem⟩
  | reset => exact hdispatched _ hwarranted
  | closing => exact hclosed hwarranted

theorem Own.mono (hown : Own handler) (hkept : Kept handler next) : Own next := by
  intro id after cancellation hafter hcancelled
  obtain ⟨task, htask, hstream, -, hsame | ⟨other, hother, hwarranted⟩⟩ := hkept.tasks id after hafter
  · rw [hstream]
    exact (hown id task cancellation htask (hsame.symm.trans hcancelled)).mono hkept.dispatched
      hkept.closed
  · obtain rfl : cancellation = other := Option.some.inj (hcancelled.symm.trans hother)
    exact hwarranted

/-- A stream that nothing was done for is fresh, and a send callable knows about its stream. -/
structure Framed (handler : Handler Conn Datum) : Prop where
  inOrder : InOrder handler.sent
  untouched : ∀ streamId, streamId ∉ handler.answered →
    (∀ id, handler.begun streamId = some id → handler.sends id = none) →
      halfOf handler.sent streamId = .fresh
  fits : ∀ id callable, handler.sends id = some callable → callable.streamId ∉ handler.answered →
    Fits callable.state (halfOf handler.sent callable.streamId)

/-- A fresh stream may be answered. -/
theorem Framed.answer (hframed : Framed handler) {streamId : ℕ}
    (hanswered : Answered streamId handler next)
    (hfresh : halfOf handler.sent streamId = .fresh) : Framed next := by
  obtain ⟨⟨⟨conn, sent, rfl⟩, hothers⟩, horder⟩ := hanswered
  have hne : ∀ {other}, other ∉ insert streamId handler.answered → other ≠ streamId ∧
      other ∉ handler.answered := by
    intro other hother
    exact ⟨fun heq => hother (heq ▸ Finset.mem_insert_self ..),
      fun hmem => hother (Finset.mem_insert_of_mem hmem)⟩
  refine ⟨horder hframed.inOrder hfresh, fun other hother hnone => ?_,
    fun id callable hcallable hother => ?_⟩
  · obtain ⟨hdistinct, hunanswered⟩ := hne hother
    exact (hothers other hdistinct).trans (hframed.untouched other hunanswered hnone)
  · obtain ⟨hdistinct, hunanswered⟩ := hne hother
    show Fits callable.state (halfOf sent callable.streamId)
    rw [show halfOf sent callable.streamId = halfOf handler.sent callable.streamId from
      hothers callable.streamId hdistinct]
    exact hframed.fits id callable hcallable hunanswered

/-- What a connection keeps in runs that spare its streams. -/
structure Safe (handler : Handler Conn Datum) : Prop where
  owned : Owned handler
  framed : Framed handler
  own : Own handler
  stays : handler.failed = false

/-- A stream without a task that was not answered is fresh. -/
theorem Framed.unbegun (hframed : Framed handler) {streamId : ℕ}
    (hanswered : streamId ∉ handler.answered) (hbegun : handler.begun streamId = none) :
    halfOf handler.sent streamId = .fresh := by
  apply hframed.untouched streamId hanswered
  intro id hid
  rw [hbegun] at hid
  cases hid

/-! ## Steps -/

theorem cancel_tasks (handler : Handler Conn Datum) (id : ℕ) (cancellation : Cancellation) :
    (handler.cancel id cancellation).tasks =
      Function.update handler.tasks id ((handler.tasks id).map fun task =>
        { task with cancelled := task.cancelled.or (some cancellation) }) := rfl

theorem createTask_tasks (handler : Handler Conn Datum) (streamId : ℕ) (scope : Scope) :
    (handler.createTask streamId scope).tasks =
      Function.update handler.tasks handler.nextTask (some { streamId, scope }) := rfl

theorem createTask_begun (handler : Handler Conn Datum) (streamId : ℕ) (scope : Scope) :
    (handler.createTask streamId scope).begun =
      Function.update handler.begun streamId (some handler.nextTask) := rfl

theorem createTask_streamTasks (handler : Handler Conn Datum) (streamId : ℕ) (scope : Scope) :
    (handler.createTask streamId scope).streamTasks =
      Function.update handler.streamTasks streamId (some handler.nextTask) := rfl

/-- A task that is registered for a stream is that stream's. -/
theorem Owned.streamId_eq (howned : Owned handler) {streamId id : ℕ} {task : StreamTask}
    (hregistered : handler.streamTasks streamId = some id) (htask : handler.tasks id = some task) :
    task.streamId = streamId :=
  howned.single _ _ id (howned.task id task htask) (howned.registered streamId id hregistered)

/-- Cancelling the task of a stream leaves the other tasks alone. -/
theorem sameTask_cancel (howned : Owned handler) {streamId id : ℕ} {cancellation : Cancellation}
    (hregistered : handler.streamTasks streamId = some id)
    (hwarranted : next.Warranted streamId cancellation) {other : ℕ} {after : StreamTask}
    (hafter : (handler.cancel id cancellation).tasks other = some after) :
    ∃ task, handler.tasks other = some task ∧ SameTask next task after := by
  by_cases hother : other = id
  case neg =>
    refine ⟨after, ?_, rfl, rfl, .inl rfl⟩
    simpa [cancel, hother] using hafter
  case pos =>
    subst hother
    rw [cancel_tasks, Function.update_self, Option.map_eq_some_iff] at hafter
    obtain ⟨task, htask, rfl⟩ := hafter
    refine ⟨task, htask, rfl, rfl, ?_⟩
    cases hcancelled : task.cancelled with
    | some earlier => exact .inl rfl
    | none =>
        refine .inr ⟨cancellation, rfl, ?_⟩
        show next.Warranted task.streamId cancellation
        rw [howned.streamId_eq hregistered htask]
        exact hwarranted

/-- A task that is cancelled is not left running. -/
theorem cancel_cancelled {id : ℕ} {cancellation : Cancellation} {after : StreamTask}
    (hafter : (handler.cancel id cancellation).tasks id = some after) : after.cancelled ≠ none := by
  rw [cancel_tasks, Function.update_self, Option.map_eq_some_iff] at hafter
  obtain ⟨task, -, rfl⟩ := hafter
  show task.cancelled.or (some cancellation) ≠ none
  cases task.cancelled <;> simp

/-- What does not touch tasks keeps everything but the frames. -/
theorem kept_of_same {next : Handler Conn Datum} (hbegun : next.begun = handler.begun)
    (hnextTask : next.nextTask = handler.nextTask) (hsends : next.sends = handler.sends)
    (hregistered : next.streamTasks = handler.streamTasks) (htasks : next.tasks = handler.tasks)
    (hanswered : ∀ streamId, streamId ∈ next.answered → streamId ∈ handler.answered ∨
      handler.begun streamId = none) (howned : Owned handler)
    (hdispatched : ∀ pending ∈ handler.dispatched, pending ∈ next.dispatched)
    (hclosed : handler.closed = true → next.closed = true) : Kept handler next where
  begun := hbegun
  nextTask := hnextTask
  sends := hsends
  registered streamId id hid := hregistered ▸ hid
  tasks id after hafter := ⟨after, htasks ▸ hafter, rfl, rfl, .inl rfl⟩
  answered id after hafter _ hmem := by
    apply (hanswered _ hmem).resolve_right
    rw [howned.task id after (htasks ▸ hafter)]
    exact fun hnot => by cases hnot
  dispatched := hdispatched
  closed := hclosed

variable (handler) in
/-- A connection that is not used any more cancels what it has. -/
theorem kept_cancelAllStreams (dispatched : List (Pending Datum)) (pending : List (Pending Datum)) :
    Kept handler { handler.cancelAllStreams with
      pending
      dispatched := handler.dispatched ++ dispatched } where
  begun := rfl
  nextTask := rfl
  sends := rfl
  registered streamId id hid := by cases hid
  tasks id after hafter := by
    obtain ⟨task, htask, hsame⟩ := Option.map_eq_some_iff.mp hafter
    refine ⟨task, htask, ?_⟩
    split at hsame
    case isFalse => exact hsame ▸ ⟨rfl, rfl, .inl rfl⟩
    case isTrue =>
      subst hsame
      refine ⟨rfl, rfl, ?_⟩
      cases hcancelled : task.cancelled with
      | some earlier => exact .inl rfl
      | none => exact .inr ⟨.closing, rfl, rfl⟩
  answered _ _ _ _ hmem := hmem
  dispatched _ hmem := List.mem_append_left _ hmem
  closed _ := rfl

/-- A reset cancels the task of its stream. -/
theorem kept_cancelStream (howned : Owned handler) (streamId : ℕ)
    (pending : List (Pending Datum)) :
    Kept handler { handler.cancelStream streamId .reset with
      pending
      dispatched := handler.dispatched ++ [.quic (.streamReset streamId)] } := by
  have hregistered : ∀ other id,
      Function.update handler.streamTasks streamId none other = some id →
        handler.streamTasks other = some id := by
    intro other id hid
    by_cases hother : other = streamId
    case pos => simp [hother] at hid
    case neg => simpa [hother] using hid
  have hmem : .quic (.streamReset streamId) ∈
      handler.dispatched ++ [Pending.quic (.streamReset streamId)] := List.mem_append_right _ (.head _)
  rw [cancelStream]
  split
  case h_1 id hid =>
    exact {
      begun := rfl
      nextTask := rfl
      sends := rfl
      registered := hregistered
      tasks := by
        intro other after hafter
        refine sameTask_cancel howned hid ?_ hafter
        exact hmem
      answered := fun _ _ _ _ hanswered => hanswered
      dispatched := fun _ hpending => List.mem_append_left _ hpending
      closed := fun hclosed => hclosed }
  case h_2 =>
    exact {
      begun := rfl
      nextTask := rfl
      sends := rfl
      registered := hregistered
      tasks := fun _ after hafter => ⟨after, hafter, rfl, rfl, .inl rfl⟩
      answered := fun _ _ _ _ hanswered => hanswered
      dispatched := fun _ hpending => List.mem_append_left _ hpending
      closed := fun hclosed => hclosed }

/-- A new task has its stream to itself. -/
theorem Owned.createTask (howned : Owned handler) {streamId : ℕ}
    (hbegun : handler.begun streamId = none) (hanswered : streamId ∉ handler.answered)
    (scope : Scope) : Owned (handler.createTask streamId scope) := by
  have hne : ∀ {other id}, handler.begun other = some id → other ≠ streamId ∧
      id ≠ handler.nextTask := by
    intro other id hid
    refine ⟨?_, (howned.bounded other id hid).ne⟩
    rintro rfl
    rw [hbegun] at hid
    cases hid
  have hother : ∀ {other id}, handler.begun other = some id →
      (handler.createTask streamId scope).begun other = some id := by
    intro other id hid
    exact (Function.update_of_ne (hne hid).1 ..).trans hid
  have htask : ∀ {id task}, (handler.createTask streamId scope).tasks id = some task →
      (id = handler.nextTask ∧ task.streamId = streamId) ∨ handler.tasks id = some task := by
    intro id task htask
    by_cases hid : id = handler.nextTask
    case pos =>
      subst hid
      rw [createTask_tasks, Function.update_self, Option.some.injEq] at htask
      exact .inl ⟨rfl, htask ▸ rfl⟩
    case neg => exact .inr ((Function.update_of_ne hid ..).symm.trans htask)
  have hbegins : ∀ {other id}, (handler.createTask streamId scope).begun other = some id →
      (other = streamId ∧ id = handler.nextTask) ∨ handler.begun other = some id := by
    intro other id hid
    by_cases hstream : other = streamId
    case pos =>
      subst hstream
      rw [createTask_begun, Function.update_self, Option.some.injEq] at hid
      exact .inl ⟨rfl, hid.symm⟩
    case neg => exact .inr ((Function.update_of_ne hstream ..).symm.trans hid)
  constructor
  case task =>
    intro id task hid
    rcases htask hid with ⟨rfl, hstream⟩ | hold
    · rw [hstream]
      exact Function.update_self ..
    · exact hother (howned.task id task hold)
  case callable => exact fun id callable hcallable => hother (howned.callable id callable hcallable)
  case waiting =>
    intro id task hid hwaits
    rcases htask hid with ⟨rfl, -⟩ | hold
    · rw [Option.eq_none_iff_forall_ne_some]
      exact fun callable hcallable => (hne (howned.callable _ callable hcallable)).2 rfl
    · exact howned.waiting id task hold hwaits
  case registered =>
    intro other id hid
    by_cases hstream : other = streamId
    case pos =>
      subst hstream
      rw [createTask_streamTasks, Function.update_self, Option.some.injEq] at hid
      exact hid ▸ Function.update_self ..
    case neg =>
      exact hother (howned.registered other id ((Function.update_of_ne hstream ..).symm.trans hid))
  case single =>
    intro first second id hfirst hsecond
    rcases hbegins hfirst with ⟨hfirst, hid⟩ | hleft <;>
      rcases hbegins hsecond with ⟨hsecond, hid'⟩ | hright
    · exact hfirst.trans hsecond.symm
    · exact absurd hid (hne hright).2
    · exact absurd hid' (hne hleft).2
    · exact howned.single first second id hleft hright
  case bounded =>
    intro other id hid
    show id < handler.nextTask + 1
    rcases hbegins hid with ⟨-, rfl⟩ | hold
    · exact Nat.lt_succ_self _
    · exact Nat.lt_succ_of_lt (howned.bounded other id hold)
  case live =>
    intro id task hid hcancelled
    rcases htask hid with ⟨-, hstream⟩ | hold
    · rw [hstream]
      exact hanswered
    · exact howned.live id task hold hcancelled

/-- `_handle_headers` on a stream without a task: it answers, or makes a task. -/
theorem handleHeaders_cases {streamId : ℕ} {headers : List Header} {is0rtt : Bool}
    (hnone : handler.streamTasks streamId = none)
    (hspares : handler.SparesHeaders env streamId headers is0rtt) :
    (∃ answered ended, Answered streamId handler answered ∧
        handler.handleHeaders env streamId headers is0rtt =
          ({ answered with streamBodyEnded := ended }, none)) ∨
      ∃ scope, handler.handleHeaders env streamId headers is0rtt =
        (handler.createTask streamId scope, none) := by
  obtain ⟨-, -, hspares⟩ := hspares
  have hanswers : ∀ {answered : Handler Conn Datum × Option PyError},
      Answered streamId handler answered.1 → answered.2 = none →
        ∃ after ended, Answered streamId handler after ∧
          answered = ({ after with streamBodyEnded := ended }, none) := by
    rintro ⟨answered, raised⟩ hanswered rfl
    exact ⟨answered, answered.streamBodyEnded, hanswered, rfl⟩
  rw [handleHeaders, if_neg (by simp [hnone])]
  split at hspares
  case isTrue hdraining =>
    rw [if_pos hdraining, sendServiceUnavailable]
    left
    apply hanswers
    · exact answered_respond ..
    · show Option.filter _ (handler.respond env streamId 503 _ _).2 = none
      rw [(refuse_raises hspares 503 _ _).2]
      rfl
  case isFalse hdraining =>
    rw [if_neg hdraining]
    split at hspares
    case h_1 => exact hspares.elim
    case h_2 hscope =>
      left
      simp only [hscope]
      exact hanswers (answered_respond ..) (refuse_raises hspares ..).2
    case h_3 scope hscope =>
      simp only [hscope]
      split
      case isTrue hearly =>
        left
        exact hanswers (answered_sendTooEarly ..) (sendTooEarly_raises (hspares (.inl hearly)))
      case isFalse =>
        split
        case isFalse => exact .inr ⟨scope, rfl⟩
        case isTrue hexceeds =>
          left
          have hraises := (refuse_raises (hspares (.inr hexceeds)) 413 [plainText,
            (ascii "x-pounce-error-code", ascii "POUNCE_LIMIT_REQUEST_TOO_LARGE")]
              (ascii "Content Too Large")).1
          have hanswered := answered_refuse env handler streamId 413 [plainText,
            (ascii "x-pounce-error-code", ascii "POUNCE_LIMIT_REQUEST_TOO_LARGE")]
              (ascii "Content Too Large")
          rw [sendRequestTooLarge]
          split
          case h_1 heq =>
            rw [heq] at hraises
            cases hraises
          case h_2 refused heq =>
            rw [heq] at hanswered
            exact ⟨refused, _, hanswered, rfl⟩

/-- The handler when a body has gone over the limit, before it says so. -/
def overLimit (handler : Handler Conn Datum) (streamId id : ℕ) : Handler Conn Datum :=
  { handler.cancel id .tooLarge with
    streamTasks := Function.update handler.streamTasks streamId none
    streamBodyBytes := Function.update handler.streamBodyBytes streamId none
    streamBodyEnded := insert streamId handler.streamBodyEnded }

/-- `_handle_data` within the limit, and over it. -/
theorem handleData_cases {streamId : ℕ} {data : Bytes}
    (hspares : handler.SparesData env streamId data) :
    (∃ bodyBytes, handler.handleData env streamId data =
        ({ handler with streamBodyBytes := bodyBytes }, none)) ∨
      ∃ id answered, handler.streamTasks streamId = some id ∧
        halfOf handler.sent streamId = .fresh ∧
        Answered streamId (handler.overLimit streamId id) answered ∧
        handler.handleData env streamId data = (answered, none) := by
  rw [handleData]
  split
  case h_1 => exact .inl ⟨handler.streamBodyBytes, rfl⟩
  case h_2 id hid =>
    split
    case isTrue => exact .inl ⟨handler.streamBodyBytes, rfl⟩
    case isFalse hended =>
      dsimp only
      split
      case isFalse => exact .inl ⟨_, rfl⟩
      case isTrue hover =>
        obtain ⟨hfresh, htakes⟩ := hspares (hid ▸ rfl) hended hover
        have htaken : env.codec.Takes (handler.overLimit streamId id).conn streamId := htakes
        have hraises : ((handler.overLimit streamId id).sendRequestTooLarge env streamId).2 = none :=
          (refuse_raises htaken ..).1
        exact .inr ⟨id, _, hid, hfresh, answered_refuse .., Prod.ext rfl hraises⟩

/-- What sends nothing and makes no task keeps a connection safe. -/
theorem Safe.kept (hsafe : Safe handler) (hkept : Kept handler next)
    (hsent : next.sent = handler.sent) (hanswered : next.answered = handler.answered)
    (hfailed : next.failed = handler.failed) : Safe next where
  owned := hsafe.owned.mono hkept
  framed := by
    constructor
    case inOrder =>
      rw [hsent]
      exact hsafe.framed.inOrder
    case untouched =>
      rw [hsent, hanswered, hkept.begun, hkept.sends]
      exact hsafe.framed.untouched
    case fits =>
      rw [hsent, hanswered, hkept.sends]
      exact hsafe.framed.fits
  own := hsafe.own.mono hkept
  stays := hfailed.trans hsafe.stays

/-- What leaves the tasks alone keeps a connection safe. -/
theorem Safe.same (hsafe : Safe handler) (hbegun : next.begun = handler.begun)
    (hnextTask : next.nextTask = handler.nextTask) (hsends : next.sends = handler.sends)
    (hregistered : next.streamTasks = handler.streamTasks) (htasks : next.tasks = handler.tasks)
    (hsent : next.sent = handler.sent) (hanswered : next.answered = handler.answered)
    (hdispatched : ∀ pending ∈ handler.dispatched, pending ∈ next.dispatched)
    (hclosed : handler.closed = true → next.closed = true)
    (hfailed : next.failed = handler.failed) : Safe next :=
  hsafe.kept (kept_of_same hbegun hnextTask hsends hregistered htasks
    (fun _ hmem => .inl (hanswered ▸ hmem)) hsafe.owned hdispatched hclosed) hsent hanswered hfailed

/-- Going over the limit cancels the task of the stream, and of no other. -/
theorem Safe.overLimit (hsafe : Safe handler) {streamId id : ℕ} {data : Bytes} {endStream : Bool}
    {answered : Handler Conn Datum} (hid : handler.streamTasks streamId = some id)
    (hfresh : halfOf handler.sent streamId = .fresh)
    (hanswered : Answered streamId (handler.overLimit streamId id) answered)
    (pending : List (Pending Datum)) :
    Safe { answered with
      pending
      dispatched := answered.dispatched ++ [.h3 (.dataReceived streamId data endStream)] } := by
  have hframed : Framed (handler.overLimit streamId id) :=
    ⟨hsafe.framed.inOrder, hsafe.framed.untouched, hsafe.framed.fits⟩
  have hafter := hframed.answer hanswered hfresh
  obtain ⟨conn, sent, rfl⟩ := hanswered.sent.same
  have hmem : Pending.h3 (.dataReceived streamId data endStream) ∈ handler.dispatched ++
      [Pending.h3 (.dataReceived streamId data endStream)] := List.mem_append_right _ (.head _)
  have hkept : Kept handler
      { { handler.overLimit streamId id with
          conn
          sent
          answered := insert streamId handler.answered } with
        pending
        dispatched := handler.dispatched ++ [.h3 (.dataReceived streamId data endStream)] } := {
    begun := rfl
    nextTask := rfl
    sends := rfl
    registered := by
      intro other task htask
      by_cases hother : other = streamId
      case pos => simp [Handler.overLimit, hother] at htask
      case neg => simpa [Handler.overLimit, hother] using htask
    tasks := by
      intro other after hafter
      refine sameTask_cancel hsafe.owned hid ?_ hafter
      exact ⟨data, endStream, hmem⟩
    answered := by
      intro other after hafter hcancelled hinsert
      apply (Finset.mem_insert.mp hinsert).resolve_left
      intro hstream
      -- the other task would be that of the stream, which is cancelled
      have hother : other = id := by
        by_contra hne
        have htask : handler.tasks other = some after := by
          simpa [Handler.overLimit, cancel_tasks, hne] using hafter
        have hbegun := hsafe.owned.task other after htask
        rw [hstream, hsafe.owned.registered streamId id hid] at hbegun
        exact hne (Option.some.inj hbegun).symm
      subst hother
      exact cancel_cancelled hafter hcancelled
    dispatched := fun _ hpending => List.mem_append_left _ hpending
    closed := fun hclosed => hclosed }
  exact ⟨hsafe.owned.mono hkept, ⟨hafter.inOrder, hafter.untouched, hafter.fits⟩,
    hsafe.own.mono hkept, hsafe.stays⟩

/-- HEADERS are answered, or become a task. -/
theorem Safe.handleHeaders (hsafe : Safe handler) {streamId : ℕ} {headers : List Header}
    {endStream is0rtt : Bool} (hspares : handler.streamTasks streamId = none →
      handler.SparesHeaders env streamId headers is0rtt) (rest : List (Pending Datum)) :
    Safe (handler.dispatchNext env (.h3 (.headersReceived streamId headers endStream is0rtt))
      rest) := by
  have hmem : ∀ pending ∈ handler.dispatched, pending ∈
      handler.dispatched ++ [.h3 (.headersReceived streamId headers endStream is0rtt)] :=
    fun _ hpending => List.mem_append_left _ hpending
  rw [dispatchNext, handleH3Event]
  cases hregistered : handler.streamTasks streamId with
  | some id =>
      rw [Handler.handleHeaders, if_pos (by rw [hregistered]; rfl)]
      exact hsafe.same rfl rfl rfl rfl rfl rfl rfl hmem (fun hclosed => hclosed) rfl
  | none =>
      have hspared := hspares hregistered
      have hfresh := hsafe.framed.unbegun hspared.2.1 hspared.1
      rcases handleHeaders_cases hregistered hspared with
        ⟨answered, ended, hanswered, heq⟩ | ⟨scope, heq⟩
      · rw [heq]
        have hframed := hsafe.framed.answer hanswered hfresh
        obtain ⟨conn, sent, rfl⟩ := hanswered.sent.same
        have hkept : Kept handler
            { handler with
              conn
              sent
              answered := insert streamId handler.answered
              streamBodyEnded := ended
              pending := rest
              dispatched := handler.dispatched ++
                [.h3 (.headersReceived streamId headers endStream is0rtt)] } := by
          refine kept_of_same rfl rfl rfl rfl rfl (fun other hinsert => ?_) hsafe.owned hmem
            fun hclosed => hclosed
          rcases Finset.mem_insert.mp hinsert with rfl | hold
          · exact .inr hspared.1
          · exact .inl hold
        exact ⟨hsafe.owned.mono hkept, ⟨hframed.inOrder, hframed.untouched, hframed.fits⟩,
          hsafe.own.mono hkept, hsafe.stays⟩
      · rw [heq]
        have howned := hsafe.owned.createTask hspared.1 hspared.2.1 scope
        refine ⟨⟨howned.task, howned.callable, howned.waiting, howned.registered, howned.single,
          howned.bounded, howned.live⟩, ⟨hsafe.framed.inOrder, ?_, hsafe.framed.fits⟩, ?_,
          hsafe.stays⟩
        · intro other hother hnone
          by_cases hstream : other = streamId
          case pos => exact hstream ▸ hfresh
          case neg =>
            apply hsafe.framed.untouched other hother
            intro id hid
            exact hnone id ((Function.update_of_ne hstream ..).trans hid)
        · intro id task cancellation htask hcancelled
          have hadded : Function.update handler.tasks handler.nextTask
            (some { streamId, scope }) id = some task := htask
          by_cases hid : id = handler.nextTask
          case pos =>
            rw [hid, Function.update_self, Option.some.injEq] at hadded
            subst hadded
            cases hcancelled
          case neg =>
            rw [Function.update_of_ne hid] at hadded
            exact (hsafe.own id task cancellation hadded hcancelled).mono hmem fun hclosed => hclosed

/-- The next part of a datagram is gone through without raising. -/
theorem Safe.dispatchNext (hsafe : Safe handler) {part : Pending Datum}
    {rest : List (Pending Datum)} (hpending : handler.pending = part :: rest)
    (hspares : handler.Spares env .dispatch) : Safe (handler.dispatchNext env part rest) := by
  have hmem : ∀ pending ∈ handler.dispatched, pending ∈ handler.dispatched ++ [part] :=
    fun _ hpending => List.mem_append_left _ hpending
  rw [Spares, hpending, List.head?_cons] at hspares
  cases part with
  | quic event =>
      cases event with
      | connectionClosed => exact hsafe.kept (kept_cancelAllStreams _ _ _) rfl rfl rfl
      | streamReset streamId =>
          have hkept := kept_cancelStream hsafe.owned streamId rest
          rw [Handler.dispatchNext]
          apply hsafe.kept hkept
          all_goals
            rw [cancelStream]
            split <;> rfl
      | streamDataReceived datum =>
          rw [Handler.dispatchNext]
          split
          · exact hsafe.same rfl rfl rfl rfl rfl rfl rfl hmem (fun hclosed => hclosed) rfl
          · exact hsafe.same rfl rfl rfl rfl rfl rfl rfl hmem (fun hclosed => hclosed) rfl
  | h3 event =>
      cases event with
      | headersReceived streamId headers endStream is0rtt => exact hsafe.handleHeaders hspares rest
      | dataReceived streamId data endStream =>
          rw [Handler.dispatchNext, handleH3Event]
          rcases handleData_cases hspares with
            ⟨bodyBytes, heq⟩ | ⟨id, answered, hid, hfresh, hanswered, heq⟩
          · rw [heq]
            exact hsafe.same rfl rfl rfl rfl rfl rfl rfl hmem (fun hclosed => hclosed) rfl
          · rw [heq]
            exact hsafe.overLimit hid hfresh hanswered rest

/-- A task is done, and what answers it has been sent. -/
theorem Safe.dropped (hsafe : Safe handler) {id : ℕ} {task : StreamTask}
    (htask : handler.tasks id = some task) {answered : Handler Conn Datum}
    (hanswered : answered = handler ∨ Answered task.streamId handler answered ∧
      halfOf handler.sent task.streamId = .fresh) {streamTasks streamBodyBytes : ℕ → Option ℕ}
    (hregistered : ∀ streamId other, streamTasks streamId = some other →
      answered.streamTasks streamId = some other) (streamBodyEnded : Finset ℕ) :
    Safe { answered.dropTask id with streamTasks, streamBodyBytes, streamBodyEnded } := by
  have hframed : Framed answered := by
    rcases hanswered with rfl | ⟨hanswered, hfresh⟩
    · exact hsafe.framed
    · exact hsafe.framed.answer hanswered hfresh
  obtain ⟨conn, sent, streams, rfl, hstreams⟩ : ∃ conn sent streams,
      answered = { handler with conn, sent, answered := streams } ∧
        ∀ streamId ∈ streams, streamId = task.streamId ∨ streamId ∈ handler.answered := by
    rcases hanswered with rfl | ⟨hanswered, -⟩
    · exact ⟨_, _, _, rfl, fun _ hmem => .inr hmem⟩
    · obtain ⟨conn, sent, heq⟩ := hanswered.sent.same
      exact ⟨conn, sent, _, heq, fun _ hmem => Finset.mem_insert.mp hmem⟩
  have hold : ∀ {other after}, Function.update handler.tasks id none other = some after →
      other ≠ id ∧ handler.tasks other = some after := by
    intro other after hafter
    by_cases hother : other = id
    case pos => simp [hother] at hafter
    case neg => exact ⟨hother, (Function.update_of_ne hother ..).symm.trans hafter⟩
  have hkept : Kept handler { { handler with conn, sent, answered := streams }.dropTask id with
      streamTasks
      streamBodyBytes
      streamBodyEnded } := {
    begun := rfl
    nextTask := rfl
    sends := rfl
    registered := hregistered
    tasks := fun other after hafter => ⟨after, (hold hafter).2, rfl, rfl, .inl rfl⟩
    answered := by
      intro other after hafter hcancelled hmem
      apply (hstreams _ hmem).resolve_left
      intro hstream
      have hbegun := hsafe.owned.task other after (hold hafter).2
      rw [hstream, hsafe.owned.task id task htask] at hbegun
      exact (hold hafter).1 (Option.some.inj hbegun).symm
    dispatched := fun _ hmem => hmem
    closed := fun hclosed => hclosed }
  exact ⟨hsafe.owned.mono hkept, ⟨hframed.inOrder, hframed.untouched, hframed.fits⟩,
    hsafe.own.mono hkept, hsafe.stays⟩

/-- No entry of a map comes about by taking one away. -/
theorem update_none_eq_some {map : ℕ → Option ℕ} {key other id : ℕ}
    (hentry : Function.update map key none other = some id) : map other = some id := by
  by_cases hother : other = key
  case pos => simp [hother] at hentry
  case neg => exact (Function.update_of_ne hother ..).symm.trans hentry

/-- The first step of a task finds its stream fresh. -/
theorem Safe.start (hsafe : Safe handler) {id : ℕ} {task : StreamTask}
    (htask : handler.tasks id = some task) (hstarted : task.started = false)
    (hcancelled : task.cancelled = none) : Safe (handler.start env id task) := by
  have hanswered := hsafe.owned.live id task htask hcancelled
  have hbegun := hsafe.owned.task id task htask
  have hfresh : halfOf handler.sent task.streamId = .fresh := by
    apply hsafe.framed.untouched task.streamId hanswered
    intro other hother
    obtain rfl : id = other := Option.some.inj (hbegun.symm.trans hother)
    exact hsafe.owned.waiting id task htask hstarted
  rw [Handler.start]
  split
  case h_1 status headers body _ =>
    rw [serveBuiltin]
    generalize (if task.scope.method = "HEAD" then [] else body) = content
    have hresponse := answered_respond env handler task.streamId status headers content
    split
    case h_1 raised error heq =>
      rw [heq] at hresponse
      exact hsafe.dropped htask (.inr ⟨hresponse, hfresh⟩) (fun _ _ hentry => hentry)
        raised.streamBodyEnded
    case h_2 answered heq =>
      rw [heq] at hresponse
      exact hsafe.dropped htask (.inr ⟨hresponse, hfresh⟩) (fun _ _ => update_none_eq_some)
        answered.streamBodyEnded
  case h_2 =>
    have htasks : ∀ {other after}, Function.update handler.tasks id
        (some { task with started := true }) other = some after →
          ∃ before, handler.tasks other = some before ∧ after.streamId = before.streamId ∧
            after.cancelled = before.cancelled ∧ (after.started = false → other ≠ id ∧
              before.started = false) := by
      intro other after hafter
      by_cases hother : other = id
      case pos =>
        rw [hother, Function.update_self, Option.some.injEq] at hafter
        subst hafter
        exact ⟨task, hother ▸ htask, rfl, rfl, fun hnot => by cases hnot⟩
      case neg =>
        rw [Function.update_of_ne hother] at hafter
        exact ⟨after, hafter, rfl, rfl, fun hwaits => ⟨hother, hwaits⟩⟩
    refine ⟨⟨fun other after hafter => ?_, fun other callable hcallable => ?_,
      fun other after hafter hwaits => ?_, hsafe.owned.registered, hsafe.owned.single,
      hsafe.owned.bounded, fun other after hafter hrunning => ?_⟩,
      ⟨hsafe.framed.inOrder, fun other hother hnone => ?_, fun other callable hcallable hother => ?_⟩,
      fun other after cancellation hafter hreason => ?_, hsafe.stays⟩
    · obtain ⟨before, hbefore, hstream, -⟩ := htasks hafter
      rw [hstream]
      exact hsafe.owned.task other before hbefore
    · by_cases hid : other = id
      case pos =>
        simp only [hid, Function.update_self, Option.some.injEq] at hcallable
        rw [hid, ← hcallable]
        exact hbegun
      case neg =>
        simp only [Function.update_of_ne hid] at hcallable
        exact hsafe.owned.callable other callable hcallable
    · obtain ⟨before, hbefore, -, -, hstill⟩ := htasks hafter
      obtain ⟨hid, hunstarted⟩ := hstill hwaits
      exact (Function.update_of_ne hid ..).trans
        (hsafe.owned.waiting other before hbefore hunstarted)
    · obtain ⟨before, hbefore, hstream, hsame, -⟩ := htasks hafter
      rw [hstream]
      exact hsafe.owned.live other before hbefore (hsame ▸ hrunning)
    · apply hsafe.framed.untouched other hother
      intro own hown
      have hnot := hnone own hown
      by_cases hid : own = id
      case pos => simp [hid] at hnot
      case neg => exact (Function.update_of_ne hid ..).symm.trans hnot
    · by_cases hid : other = id
      case pos =>
        simp only [hid, Function.update_self, Option.some.injEq] at hcallable
        subst hcallable
        show Fits _ (halfOf handler.sent task.streamId)
        rw [hfresh]
        exact ⟨fun _ => ⟨rfl, rfl⟩, fun _ => rfl, fun _ => by decide⟩
      case neg =>
        simp only [Function.update_of_ne hid] at hcallable
        exact hsafe.framed.fits other callable hcallable hother
    · obtain ⟨before, hbefore, hstream, hsame, -⟩ := htasks hafter
      rw [hstream]
      exact hsafe.own other before cancellation hbefore (hsame ▸ hreason)

/-- A send callable has brought its stream further. -/
theorem Safe.moved (hsafe : Safe handler) {id : ℕ} {callable moved : SendCallable}
    (hcallable : handler.sends id = some callable) (hstream : moved.streamId = callable.streamId)
    {sent : List SentFrame} (horder : InOrder sent)
    (hothers : ∀ other, other ≠ callable.streamId → halfOf sent other = halfOf handler.sent other)
    (hfits : Fits moved.state (halfOf sent callable.streamId)) (conn : Conn) :
    Safe { handler with conn, sent, sends := Function.update handler.sends id (some moved) } := by
  have hbegun := hsafe.owned.callable id callable hcallable
  have hsends : ∀ {other after}, Function.update handler.sends id (some moved) other = some after →
      (other = id ∧ after = moved) ∨ (other ≠ id ∧ handler.sends other = some after) := by
    intro other after hafter
    by_cases hother : other = id
    case pos =>
      rw [hother, Function.update_self, Option.some.injEq] at hafter
      exact .inl ⟨hother, hafter.symm⟩
    case neg => exact .inr ⟨hother, (Function.update_of_ne hother ..).symm.trans hafter⟩
  have hnone : ∀ {other}, Function.update handler.sends id (some moved) other = none →
      other ≠ id ∧ handler.sends other = none := by
    intro other hother
    by_cases hid : other = id
    case pos => simp [hid] at hother
    case neg => exact ⟨hid, (Function.update_of_ne hid ..).symm.trans hother⟩
  constructor
  case owned =>
    refine ⟨hsafe.owned.task, fun other after hafter => ?_, fun other task htask hwaits => ?_,
      hsafe.owned.registered, hsafe.owned.single, hsafe.owned.bounded, hsafe.owned.live⟩
    · rcases hsends hafter with ⟨rfl, rfl⟩ | ⟨-, hold⟩
      · rw [hstream]
        exact hbegun
      · exact hsafe.owned.callable other after hold
    · have hnot := hsafe.owned.waiting other task htask hwaits
      have hother : other ≠ id := by
        rintro rfl
        rw [hcallable] at hnot
        cases hnot
      exact (Function.update_of_ne hother ..).trans hnot
  case framed =>
    refine ⟨horder, fun other hother hunsent => ?_, fun other after hafter hother => ?_⟩
    · by_cases hsame : other = callable.streamId
      case pos =>
        rw [hsame] at hunsent
        exact absurd rfl (hnone (hunsent id hbegun)).1
      case neg =>
        apply (hothers other hsame).trans
        exact hsafe.framed.untouched other hother fun own hown => (hnone (hunsent own hown)).2
    · rcases hsends hafter with ⟨rfl, rfl⟩ | ⟨hid, hold⟩
      · rw [hstream]
        exact hfits
      · have hdistinct : after.streamId ≠ callable.streamId := by
          intro hsame
          have hown := hsafe.owned.callable other after hold
          rw [hsame, hbegun] at hown
          exact hid (Option.some.inj hown).symm
        show Fits after.state (halfOf sent after.streamId)
        rw [hothers after.streamId hdistinct]
        exact hsafe.framed.fits other after hold hother
  case own => exact hsafe.own
  case stays => exact hsafe.stays

/-- A send callable that has its stream to itself keeps the order. -/
theorem Safe.send (hsafe : Safe handler) {id : ℕ} {callable : SendCallable}
    (hcallable : handler.sends id = some callable) {message : SendMessage}
    (hanswered : callable.streamId ∉ handler.answered)
    (hstarts : isStart message = true → callable.state.responseStarted = false) :
    Safe (handler.send env id callable message) := by
  rw [Handler.send]
  split
  case h_1 => exact hsafe
  case h_2 after hsend =>
    obtain ⟨events, hwire, heffect⟩ := h3_send_effect hsend
    have hdrop : after.wire.drop callable.state.wire.length = events := by
      rw [hwire, List.drop_left]
    obtain ⟨horder, hfits⟩ := deliver_effect env heffect hsafe.framed.inOrder
      (hsafe.framed.fits id callable hcallable hanswered) hstarts
    obtain ⟨⟨conn, sent, heq⟩, hothers⟩ := sent_deliver env handler callable.streamId events
    rw [hdrop]
    generalize handler.deliver env callable.streamId events = delivered at *
    obtain ⟨delivered, left⟩ := delivered
    obtain rfl : delivered = { handler with conn, sent } := heq
    refine hsafe.moved hcallable ?_ horder hothers ?_ conn
    · rfl
    · exact hfits

/-- The end of a task is answered before a response is begun. -/
theorem Safe.finish (hsafe : Safe handler) {id : ℕ} {task : StreamTask}
    (htask : handler.tasks id = some task) {ending : Ending}
    (hspares : task.started = true → ending = .raised ∨
        ending = .bodyTimeout ∧ ((handler.sends id).map (·.status)).getD 0 = 0 →
      halfOf handler.sent task.streamId = .fresh) :
    Safe (handler.finish env id task ending) := by
  unfold Handler.finish
  split
  case isFalse =>
    exact hsafe.dropped htask (.inl rfl) (fun _ _ hentry => hentry) handler.streamBodyEnded
  case isTrue hstarted =>
    apply hsafe.dropped htask
    · rw [answerEnding.eq_def]
      cases ending with
      | returned => exact .inl rfl
      | raised => exact .inr ⟨answered_respond .., hspares hstarted (.inl rfl)⟩
      | bodyTimeout =>
          dsimp only
          split
          case isTrue hstatus =>
            exact .inr ⟨answered_refuse .., hspares hstarted (.inr ⟨rfl, hstatus⟩)⟩
          case isFalse => exact .inl rfl
    · exact fun _ _ => update_none_eq_some

/-- Every step keeps a connection safe. -/
theorem safe_step {action : Action} (hsafe : Safe handler) (hspares : handler.Spares env action)
    (hstep : handler.step env action = some next) : Safe next := by
  have hsame : ∀ pending ∈ handler.dispatched, pending ∈ handler.dispatched := fun _ hmem => hmem
  cases action with
  | datagram data =>
      obtain ⟨-, rfl⟩ := Machine.of_guard hstep
      rw [datagramReceived]
      split
      · exact hsafe
      · exact hsafe.same rfl rfl rfl rfl rfl rfl rfl hsame (fun hclosed => hclosed) rfl
  | dispatch =>
      rw [step] at hstep
      split at hstep
      case h_1 => cases hstep
      case h_2 part rest hpending =>
        obtain rfl := Option.some.inj hstep
        exact hsafe.dispatchNext hpending hspares
  | drain =>
      obtain ⟨-, rfl⟩ := Machine.of_guard hstep
      exact hsafe.same rfl rfl rfl rfl rfl rfl rfl hsame (fun hclosed => hclosed) rfl
  | close =>
      obtain ⟨-, rfl⟩ := Machine.of_guard hstep
      have hkept := kept_cancelAllStreams handler [] handler.pending
      rw [List.append_nil] at hkept
      exact hsafe.kept hkept rfl rfl rfl
  | prune =>
      obtain ⟨-, rfl⟩ := Machine.of_guard hstep
      exact hsafe.same rfl rfl rfl rfl rfl rfl rfl hsame (fun _ => rfl) rfl
  | start id =>
      obtain ⟨task, htask, hguard⟩ := Option.bind_eq_some_iff.mp hstep
      obtain ⟨⟨-, hstarted, hcancelled⟩, rfl⟩ := Machine.of_guard hguard
      exact hsafe.start htask hstarted hcancelled
  | send id message =>
      obtain ⟨callable, hcallable, hguard⟩ := Option.bind_eq_some_iff.mp hstep
      obtain ⟨-, rfl⟩ := Machine.of_guard hguard
      obtain ⟨hanswered, hstarts⟩ := hspares callable hcallable
      exact hsafe.send hcallable hanswered hstarts
  | finish id ending =>
      obtain ⟨task, htask, hguard⟩ := Option.bind_eq_some_iff.mp hstep
      obtain ⟨-, rfl⟩ := Machine.of_guard hguard
      exact hsafe.finish htask (hspares task htask)

/-- In every run that spares its streams, what happens on one stream stays there. -/
theorem isolated_of_reach {conn : Conn}
    (hreach : (handlerMachine env conn).Reach (fun handler action => handler.Spares env action)
      handler) : handler.Isolated := by
  have hsafe : Safe handler := by
    apply hreach.invariant
    · rintro handler rfl
      refine ⟨⟨?_, ?_, ?_, ?_, ?_, ?_, ?_⟩, ⟨within_nil _, fun _ _ _ => rfl, ?_⟩,
        fun _ _ _ hnot => (by cases hnot), rfl⟩
      all_goals
        intros
        contradiction
    · exact fun handler action next hsafe hspares hstep => safe_step hsafe hspares hstep
  exact ⟨hsafe.framed.inOrder.answeredOnce, hsafe.stays, hsafe.own⟩

end Handler

end Pounce.H3
