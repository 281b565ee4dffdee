/-
# What a step of the handler changes

The handler keeps its tables apart from what it sends: sending changes the connection of the
library, and nothing that the loop or the tasks go by (`Wrote`). The lemmas here say for each
operation what it leaves alone, and for a rejection when the library lets it through, so
that the invariants of the handler need not look into them again.
-/

import Pounce.H2.Handler

namespace Pounce.H2

open Pounce.Math Pounce.Math.Bytes

namespace Handler

variable {Conn : Type} {env : Env Conn} {handler next : Handler Conn} {streamId : ℕ}

/-! ## Sending -/

/-- At most the connection, the scheduler and the counts of the bodies have changed, and frames
have been sent. -/
structure Wrote (handler next : Handler Conn) : Prop where
  streamTasks : next.streamTasks = handler.streamTasks
  tasks : next.tasks = handler.tasks
  loop : next.loop = handler.loop
  begun : next.begun = handler.begun
  fates : next.fates = handler.fates
  dispatched : next.dispatched = handler.dispatched
  skipped : next.skipped = handler.skipped
  closed : next.h2.closed = handler.h2.closed
  sent : handler.sent <+: next.sent

theorem Wrote.refl (handler : Handler Conn) : Wrote handler handler :=
  ⟨rfl, rfl, rfl, rfl, rfl, rfl, rfl, rfl, List.prefix_refl _⟩

theorem Wrote.trans {first second third : Handler Conn} (hfirst : Wrote first second)
    (hsecond : Wrote second third) : Wrote first third where
  streamTasks := hsecond.streamTasks.trans hfirst.streamTasks
  tasks := hsecond.tasks.trans hfirst.tasks
  loop := hsecond.loop.trans hfirst.loop
  begun := hsecond.begun.trans hfirst.begun
  fates := hsecond.fates.trans hfirst.fates
  dispatched := hsecond.dispatched.trans hfirst.dispatched
  skipped := hsecond.skipped.trans hfirst.skipped
  closed := hsecond.closed.trans hfirst.closed
  sent := hfirst.sent.trans hsecond.sent

variable (env handler) in
theorem wrote_sendHeaders (streamId status : ℕ) (headers : List Header) (endStream : Bool) :
    Wrote handler (handler.sendHeaders env streamId status headers endStream).1 :=
  ⟨rfl, rfl, rfl, rfl, rfl, rfl, rfl, rfl, List.prefix_append ..⟩

variable (env handler) in
theorem wrote_sendData (streamId : ℕ) (data : Bytes) (endStream : Bool) :
    Wrote handler (handler.sendData env streamId data endStream).1 := by
  rw [sendData]
  split
  case isTrue => exact .refl handler
  case isFalse => exact ⟨rfl, rfl, rfl, rfl, rfl, rfl, rfl, rfl, List.prefix_append ..⟩

variable (env handler) in
theorem wrote_resetStream (streamId errorCode : ℕ) :
    Wrote handler (handler.resetStream env streamId errorCode).1 := by
  rw [resetStream]
  split
  case h_1 => exact .refl handler
  case h_2 h2 hreset =>
    obtain ⟨conn, -, rfl⟩ := Option.map_eq_some_iff.mp hreset
    exact ⟨rfl, rfl, rfl, rfl, rfl, rfl, rfl, rfl, List.prefix_append ..⟩

variable (env handler) in
/-- A rejection drops all that is kept of the stream, unless it raises. -/
theorem sendRequestTooLarge_cases (streamId : ℕ) : ∃ conn sent, handler.sent <+: sent ∧
    (handler.sendRequestTooLarge env streamId =
        ({ handler with h2 := { handler.h2 with conn }, sent }, false) ∨
      handler.sendRequestTooLarge env streamId =
        ({ handler with
            h2 := { handler.h2 with conn }.removeStream streamId
            sent
            scheduler := handler.scheduler.removeStream streamId
            streamBodyBytes := Function.update handler.streamBodyBytes streamId none
            streamBodyRejected := insert streamId handler.streamBodyRejected }, true)) := by
  cases hheaders : env.codec.sendHeaders handler.h2.conn streamId 413 tooLargeHeaders true with
  | mk conn taken =>
      cases taken with
      | false =>
          refine ⟨conn, handler.sent ++ [], List.prefix_append .., .inl ?_⟩
          simp [sendRequestTooLarge, sendHeaders, hheaders]
      | true =>
          cases hended : handler.h2.streamEnded streamId with
          | true =>
              refine ⟨conn, handler.sent ++ [.headers streamId 413 tooLargeHeaders true],
                List.prefix_append .., .inr ?_⟩
              simp [sendRequestTooLarge, sendHeaders, hheaders, hended]
          | false =>
              cases hreset : env.codec.resetStream conn streamId enhanceYourCalm with
              | none =>
                  refine ⟨conn, handler.sent ++ [.headers streamId 413 tooLargeHeaders true],
                    List.prefix_append .., .inl ?_⟩
                  simp [sendRequestTooLarge, sendHeaders, hheaders, hended, resetStream,
                    H2Connection.resetStream, hreset]
              | some reset =>
                  refine ⟨reset, handler.sent ++ [.headers streamId 413 tooLargeHeaders true] ++
                    [.resetStream streamId enhanceYourCalm], ?_, .inr ?_⟩
                  · rw [List.append_assoc]
                    exact List.prefix_append ..
                  simp [sendRequestTooLarge, sendHeaders, hheaders, hended, resetStream,
                    H2Connection.resetStream, hreset]

variable (env handler) in
theorem wrote_sendRequestTooLarge (streamId : ℕ) :
    Wrote handler (handler.sendRequestTooLarge env streamId).1 := by
  obtain ⟨conn, sent, hsent, heq | heq⟩ := sendRequestTooLarge_cases env handler streamId <;>
    rw [heq] <;>
    exact ⟨rfl, rfl, rfl, rfl, rfl, rfl, rfl, rfl, hsent⟩

variable (env) in
/-- What a late request is answered is a head, and a reset where the request goes on. -/
theorem sendRequestTimeout_induction {motive : Handler Conn → Prop}
    (hheaders : motive (handler.sendHeaders env streamId 408 timeoutHeaders true).1)
    (hreset : ∀ answered, motive answered →
      motive (answered.resetStream env streamId cancelCode).1) :
    motive (handler.sendRequestTimeout env streamId) := by
  rw [sendRequestTimeout]
  split
  case h_1 raised hraised =>
    rw [hraised] at hheaders
    exact hheaders
  case h_2 answered hanswered =>
    rw [hanswered] at hheaders
    split
    · exact hreset answered hheaders
    · exact hheaders

variable (env) in
/-- What a request is answered that has failed is a head and the text. -/
theorem sendServerError_induction {motive : Handler Conn → Prop}
    (hheaders : motive (handler.sendHeaders env streamId 500
      [(ascii "content-type", ascii "text/plain")] false).1)
    (hdata : ∀ answered, motive answered →
      motive (answered.sendData env streamId (ascii "Internal Server Error") true).1) :
    motive (handler.sendServerError env streamId) := by
  rw [sendServerError]
  split
  case h_1 raised hraised =>
    rw [hraised] at hheaders
    exact hheaders
  case h_2 answered hanswered =>
    rw [hanswered] at hheaders
    exact hdata answered hheaders

variable (env handler) in
theorem wrote_sendRequestTimeout (streamId : ℕ) :
    Wrote handler (handler.sendRequestTimeout env streamId) :=
  sendRequestTimeout_induction env (wrote_sendHeaders ..)
    fun _ hanswered => hanswered.trans (wrote_resetStream ..)

variable (env handler) in
theorem wrote_sendServerError (streamId : ℕ) :
    Wrote handler (handler.sendServerError env streamId) :=
  sendServerError_induction env (wrote_sendHeaders ..)
    fun _ hanswered => hanswered.trans (wrote_sendData ..)

/-- Nothing but the connection has changed. -/
def Touched (handler next : Handler Conn) : Prop := ∃ h2 sent, next = { handler with h2, sent }

theorem Touched.trans {first second third : Handler Conn} (hfirst : Touched first second)
    (hsecond : Touched second third) : Touched first third := by
  obtain ⟨_, _, rfl⟩ := hfirst
  obtain ⟨h2, sent, rfl⟩ := hsecond
  exact ⟨h2, sent, rfl⟩

variable (env handler) in
theorem touched_sendHeaders (streamId status : ℕ) (headers : List Header) (endStream : Bool) :
    Touched handler (handler.sendHeaders env streamId status headers endStream).1 := ⟨_, _, rfl⟩

variable (env handler) in
theorem touched_sendData (streamId : ℕ) (data : Bytes) (endStream : Bool) :
    Touched handler (handler.sendData env streamId data endStream).1 := by
  rw [sendData]
  split <;> exact ⟨_, _, rfl⟩

variable (env handler) in
theorem touched_resetStream (streamId errorCode : ℕ) :
    Touched handler (handler.resetStream env streamId errorCode).1 := by
  rw [resetStream]
  split <;> exact ⟨_, _, rfl⟩

variable (env handler) in
theorem touched_sendRequestTimeout (streamId : ℕ) :
    Touched handler (handler.sendRequestTimeout env streamId) :=
  sendRequestTimeout_induction env (touched_sendHeaders ..)
    fun _ hanswered => hanswered.trans (touched_resetStream ..)

variable (env handler) in
theorem touched_sendServerError (streamId : ℕ) :
    Touched handler (handler.sendServerError env streamId) :=
  sendServerError_induction env (touched_sendHeaders ..)
    fun _ hanswered => hanswered.trans (touched_sendData ..)

/-! ## Tasks and fates -/

variable (handler streamId)

@[simp]
theorem cancel_tasks_self (cancellation : Cancellation) :
    (handler.cancel streamId cancellation).tasks streamId =
      (handler.tasks streamId).map fun task =>
        { task with cancelled := task.cancelled.or (some cancellation) } :=
  Function.update_self ..

theorem cancel_tasks_of_ne (cancellation : Cancellation) {id : ℕ} (hid : id ≠ streamId) :
    (handler.cancel streamId cancellation).tasks id = handler.tasks id :=
  Function.update_of_ne hid ..

@[simp]
theorem createTask_tasks_self (task : StreamTask) :
    (handler.createTask streamId task).tasks streamId = some task := Function.update_self ..

theorem createTask_tasks_of_ne (task : StreamTask) {id : ℕ} (hid : id ≠ streamId) :
    (handler.createTask streamId task).tasks id = handler.tasks id :=
  Function.update_of_ne hid ..

@[simp]
theorem dropTask_tasks_self : (handler.dropTask streamId).tasks streamId = none :=
  Function.update_self ..

theorem dropTask_tasks_of_ne {id : ℕ} (hid : id ≠ streamId) :
    (handler.dropTask streamId).tasks id = handler.tasks id := Function.update_of_ne hid ..

variable {handler streamId}

/-! ## Rejections -/

/-- The stream whose request body an event finds to be over the limit. -/
def rejects (env : Env Conn) (handler : Handler Conn) : H2Event → Option ℕ
  | .requestReceived streamId request =>
      if contentLengthExceedsLimit env.config.maxRequestSize request then some streamId else none
  | .bodyReceived streamId body =>
      if streamId ∉ handler.streamBodyRejected ∧ streamId ∈ handler.streamTasks ∧
          env.config.maxRequestSize <
            (handler.streamBodyBytes streamId).getD 0 + body.data.length then
        some streamId
      else none
  | _ => none

/-- The library takes a 413 response on the stream and, where its body has not ended, the
reset that follows. -/
def TakesRejection (env : Env Conn) (h2 : H2Connection Conn) (streamId : ℕ) : Prop :=
  (env.codec.sendHeaders h2.conn streamId 413 tooLargeHeaders true).2 = true ∧
    (h2.streamEnded streamId = false →
      (env.codec.resetStream (env.codec.sendHeaders h2.conn streamId 413 tooLargeHeaders true).1
        streamId enhanceYourCalm).isSome)

instance (env : Env Conn) (h2 : H2Connection Conn) (streamId : ℕ) :
    Decidable (TakesRejection env h2 streamId) := inferInstanceAs (Decidable (_ ∧ _))

/-- A rejection raises unless the library takes it. -/
theorem sendRequestTooLarge_snd :
    (handler.sendRequestTooLarge env streamId).2 = true ↔ TakesRejection env handler.h2 streamId := by
  rw [sendRequestTooLarge, TakesRejection, sendHeaders]
  cases htaken : env.codec.sendHeaders handler.h2.conn streamId 413 tooLargeHeaders true with
  | mk conn taken =>
      cases taken with
      | false => simp
      | true =>
          cases hended : handler.h2.streamEnded streamId with
          | true => simp
          | false =>
              simp only [Bool.not_false, if_true, resetStream, H2Connection.resetStream]
              cases hreset : env.codec.resetStream conn streamId enhanceYourCalm with
              | none => simp
              | some reset => simp

/-- An event raises only if it is a rejection that the library refuses. -/
theorem dispatchEvent_snd {event : H2Event}
    (htakes : ∀ id, rejects env handler event = some id → TakesRejection env handler.h2 id) :
    (handler.dispatchEvent env event).2 = true := by
  cases event with
  | requestReceived id request =>
      rw [dispatchEvent]
      split
      case isTrue hexceeds => exact sendRequestTooLarge_snd.mpr (htakes id (if_pos hexceeds))
      case isFalse => rfl
  | bodyReceived id body =>
      rw [dispatchEvent, dispatchBody]
      split
      case isTrue => rfl
      case isFalse hopen =>
        split
        case isFalse => rfl
        case isTrue hregistered =>
          dsimp only
          split
          case isFalse => rfl
          case isTrue hexceeds =>
            exact sendRequestTooLarge_snd.mpr (htakes id (if_pos ⟨hopen, hregistered, hexceeds⟩))
  | _ => rfl

/-- What the loop goes by, and what only it writes. -/
structure LoopKept (handler next : Handler Conn) : Prop where
  loop : next.loop = handler.loop
  dispatched : next.dispatched = handler.dispatched
  skipped : next.skipped = handler.skipped
  closed : next.h2.closed = handler.h2.closed

theorem Wrote.loopKept (hwrote : Wrote handler next) : LoopKept handler next where
  loop := hwrote.loop
  dispatched := hwrote.dispatched
  skipped := hwrote.skipped
  closed := hwrote.closed

theorem LoopKept.refl (handler : Handler Conn) : LoopKept handler handler :=
  (Wrote.refl handler).loopKept

variable (env handler) in
/-- An event leaves to the loop what is the loop's. -/
theorem loopKept_dispatchEvent (event : H2Event) :
    LoopKept handler (handler.dispatchEvent env event).1 := by
  cases event with
  | requestReceived id request =>
      rw [dispatchEvent]
      split
      case isTrue =>
        obtain ⟨hloop, hdispatched, hskipped, hclosed⟩ :=
          (wrote_sendRequestTooLarge env (handler.settle id .refused) id).loopKept
        exact ⟨hloop, hdispatched, hskipped, hclosed⟩
      case isFalse => exact ⟨rfl, rfl, rfl, rfl⟩
  | webSocketRequest id request path => exact ⟨rfl, rfl, rfl, rfl⟩
  | bodyReceived id body =>
      rw [dispatchEvent, dispatchBody]
      split
      case isTrue => exact .refl handler
      case isFalse =>
        split
        case isFalse => exact .refl handler
        case isTrue =>
          dsimp only
          split
          case isFalse => exact ⟨rfl, rfl, rfl, rfl⟩
          case isTrue =>
            obtain ⟨hloop, hdispatched, hskipped, hclosed⟩ :=
              (wrote_sendRequestTooLarge env _ id).loopKept
            exact ⟨hloop, hdispatched, hskipped, hclosed⟩
  | streamReset id errorCode =>
      rw [dispatchEvent, dispatchReset]
      split <;> exact ⟨rfl, rfl, rfl, rfl⟩
  | windowUpdated | goAway => exact .refl handler

/-- What is sent at the end of a task: nothing, or the response to a failure or a timeout. -/
inductive Concluded (env : Env Conn) (handler : Handler Conn) (streamId : ℕ) : Handler Conn → Prop
  | silent : Concluded env handler streamId handler
  | failed : Concluded env handler streamId (handler.sendServerError env streamId)
  | late : Concluded env handler streamId (handler.sendRequestTimeout env streamId)

theorem Concluded.wrote (hconcluded : Concluded env handler streamId next) :
    Wrote handler next := by
  cases hconcluded with
  | silent => exact .refl handler
  | failed => exact wrote_sendServerError env handler streamId
  | late => exact wrote_sendRequestTimeout env handler streamId

theorem Concluded.touched (hconcluded : Concluded env handler streamId next) :
    Touched handler next := by
  cases hconcluded with
  | silent => exact ⟨_, _, rfl⟩
  | failed => exact touched_sendServerError env handler streamId
  | late => exact touched_sendRequestTimeout env handler streamId

variable (env handler) in
/-- The end of a task: what is sent for it, and then its `finally` if there is one. -/
theorem finish_eq (streamId : ℕ) (task : StreamTask) (ending : Ending) :
    ∃ answered, Concluded env handler streamId answered ∧
      handler.finish env streamId task ending =
        if task.started ∧ ¬ task.webSocket then (answered.cleanUp streamId).dropTask streamId
        else handler.dropTask streamId := by
  cases ending with
  | returned => exact ⟨handler, .silent, rfl⟩
  | raised => exact ⟨_, .failed, rfl⟩
  | bodyTimeout =>
      refine ⟨if task.status = 0 then handler.sendRequestTimeout env streamId else handler, ?_, rfl⟩
      split
      · exact .late
      · exact .silent

variable (env handler) in
/-- A task leaves to the loop what is the loop's, at its end and at its start. -/
theorem loopKept_finish (streamId : ℕ) (task : StreamTask) (ending : Ending) :
    LoopKept handler (handler.finish env streamId task ending) := by
  obtain ⟨answered, hconcluded, heq⟩ := finish_eq env handler streamId task ending
  have hwrote := hconcluded.wrote
  rw [heq]
  split
  case isTrue => exact ⟨hwrote.loop, hwrote.dispatched, hwrote.skipped, hwrote.closed⟩
  case isFalse => exact ⟨rfl, rfl, rfl, rfl⟩

variable (env handler) in
theorem loopKept_start (streamId : ℕ) (task : StreamTask) :
    LoopKept handler (handler.start env streamId task) := by
  rw [start]
  split <;> exact ⟨rfl, rfl, rfl, rfl⟩

/-- What a call does: it takes note of a status, moves its stream in the scheduler, or sends. -/
inductive Called (handler : Handler Conn) (streamId : ℕ) : Handler Conn → Prop
  | noted (status : ℕ) : Called handler streamId { handler with
      tasks := Function.update handler.tasks streamId
        ((handler.tasks streamId).map fun task => { task with status }) }
  | scheduled (scheduler : PriorityScheduler) : Called handler streamId { handler with scheduler }
  | sent {next : Handler Conn} (hwrote : Wrote handler next) (htouched : Touched handler next) :
      Called handler streamId next

theorem called_of_call {webSocket : Bool} {call : Call}
    (hcall : handler.call env streamId webSocket call = some next) :
    Called handler streamId next := by
  cases call with
  | respond status =>
      obtain rfl := Option.some.inj hcall
      exact .noted status
  | schedule | unschedule | markWrote =>
      rw [Handler.call] at hcall
      split at hcall
      case isTrue => cases hcall
      case isFalse =>
        obtain rfl := Option.some.inj hcall
        exact .scheduled _
  | sendHeaders status headers endStream =>
      obtain rfl := Option.some.inj hcall
      exact .sent (wrote_sendHeaders ..) (touched_sendHeaders ..)
  | sendData data endStream =>
      obtain rfl := Option.some.inj hcall
      exact .sent (wrote_sendData ..) (touched_sendData ..)
  | resetStream errorCode =>
      obtain rfl := Option.some.inj hcall
      exact .sent (wrote_resetStream ..) (touched_resetStream ..)

/-- A call changes nothing for the loop, and no fate. -/
theorem call_kept {webSocket : Bool} {call : Call}
    (hcall : handler.call env streamId webSocket call = some next) :
    LoopKept handler next ∧ next.streamTasks = handler.streamTasks ∧
      next.fates = handler.fates ∧ ∀ id, (next.tasks id).isSome = (handler.tasks id).isSome := by
  cases called_of_call hcall with
  | noted status =>
      refine ⟨⟨rfl, rfl, rfl, rfl⟩, rfl, rfl, fun id => ?_⟩
      by_cases hid : id = streamId
      case pos => simp [hid]
      case neg => simp [hid]
  | scheduled scheduler => exact ⟨⟨rfl, rfl, rfl, rfl⟩, rfl, rfl, fun _ => rfl⟩
  | sent hwrote _ =>
      exact ⟨hwrote.loopKept, hwrote.streamTasks, hwrote.fates, fun id => by rw [hwrote.tasks]⟩

/-- A call cancels nothing. -/
theorem call_cancelled {webSocket : Bool} {call : Call}
    (hcall : handler.call env streamId webSocket call = some next) (id : ℕ) (task : StreamTask)
    (htask : next.tasks id = some task) :
    ∃ before, handler.tasks id = some before ∧ before.cancelled = task.cancelled := by
  cases called_of_call hcall with
  | noted status =>
      by_cases hid : id = streamId
      case pos =>
        subst hid
        simp only [Function.update_self, Option.map_eq_some_iff] at htask
        obtain ⟨before, hbefore, rfl⟩ := htask
        exact ⟨before, hbefore, rfl⟩
      case neg =>
        simp only [Function.update_of_ne hid] at htask
        exact ⟨task, htask, rfl⟩
  | scheduled scheduler => exact ⟨task, htask, rfl⟩
  | sent hwrote _ => exact ⟨task, hwrote.tasks ▸ htask, rfl⟩

end Handler

end Pounce.H2
