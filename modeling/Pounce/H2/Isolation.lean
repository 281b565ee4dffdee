/-
# What one stream does to the others

The tasks of a connection share one library, and a call that the library refuses raises where
it is made: in a task that is the end of this task, in the loop it is the end of all. The loop
makes such calls when it rejects a body or a malformed request. They are taken as long as no
response has been begun on the stream, and neither a reset of the stream has come with the
malformed request nor a GOAWAY with what is rejected; in such runs every stream gets one response at most, the loop is not left for a stream's failure,
and a task is cancelled for its own stream or with the connection (`isolated`).
-/

import Pounce.H2.Streams

namespace Pounce.H2

open Pounce.Math Pounce.Math.Bytes

namespace Handler

variable {Conn : Type} {env : Env Conn} {view : View Conn} {handler next : Handler Conn}
  {streamId : ℕ} {event : H2Event} {events : List H2Event}

/-- What has to have happened for a task to be cancelled. -/
def Warranted (handler : Handler Conn) (streamId : ℕ) : Cancellation → Prop
  | .tooLarge => ∃ body, .bodyReceived streamId body ∈ handler.dispatched
  | .reset => ∃ errorCode, .streamReset streamId errorCode ∈ handler.dispatched
  | .leaving => ∃ cause, handler.loop = .leaving cause

/-- No stream has got two responses or ends, no failure of a stream has ended the loop, and no
task has been cancelled for another stream. -/
structure Isolated (handler : Handler Conn) : Prop where
  answered : AnsweredOnce handler.sent
  stays : handler.loop ≠ .leaving .failed
  own : ∀ streamId task cancellation, handler.tasks streamId = some task →
    task.cancelled = some cancellation → handler.Warranted streamId cancellation

/-- A body is rejected only before a response is begun, a malformed request is not reset by the
peer in the same read, and neither comes in one read with a GOAWAY. -/
def spares (view : View Conn) (env : Env Conn) (handler : Handler Conn) : Action → Bool
  | .dispatch =>
      match handler.loop with
      | .dispatching (event :: _) => (rejects env handler event).all fun streamId =>
          view.half handler.h2.conn streamId = .fresh && !view.terminated handler.h2.conn
      | _ => true
  | .read data =>
      match env.codec.receiveData handler.h2.conn data with
      | some (conn, libraryEvents) => libraryEvents.all fun event =>
          match event with
          | .requestReceived streamId headers _ =>
              (readRequest headers).isSome ||
                view.phase conn streamId ≠ .reset && !view.terminated conn
          | _ => true
      | none => true
  | _ => true

/-! ## What is taken -/

/-- A stream that is known and fresh takes a rejection. -/
theorem takesRejection_of_fresh (hobeys : env.codec.Obeys view) (hserves : env.codec.Serves view)
    (htracked : Tracked view handler events streamId)
    (hknown : streamId ∈ handler.streamTasks ∨ Requested streamId events)
    (hfresh : view.half handler.h2.conn streamId = .fresh)
    (hterminated : view.terminated handler.h2.conn = false) :
    TakesRejection env handler.h2 streamId := by
  have hnotIdle : view.phase handler.h2.conn streamId ≠ .idle :=
    htracked.known (hknown.imp_right fun hrequested => .inr (.inr hrequested))
  have hnotReset : view.phase handler.h2.conn streamId ≠ .reset := by
    intro hreset
    rw [hobeys.reset _ _ hreset] at hfresh
    cases hfresh
  have htaken := hserves.takes handler.h2.conn streamId hterminated hnotIdle hfresh
  refine ⟨htaken, fun hopen => ?_⟩
  obtain ⟨hphase, -, -⟩ := (hobeys.sendHeaders ..).accepted htaken
  refine hserves.resets _ _ _ ((hserves.answered ..).trans hterminated) ?_
  left
  rw [hphase]
  obtain ⟨state, hentry⟩ :=
    Option.isSome_iff_exists.mp ((htracked.entry hknown).resolve_left hnotReset)
  rw [H2Connection.streamEnded, hentry, Option.any_some] at hopen
  cases hcases : view.phase handler.h2.conn streamId with
  | receiving => rfl
  | idle => exact absurd hcases hnotIdle
  | reset => exact absurd hcases hnotReset
  | ending => exact absurd hcases htracked.settled
  | ended =>
      rw [(htracked.agrees state hentry).1 hcases] at hopen
      cases hopen

/-- A request brought by a read is on a stream that was idle, and is not idle by then. -/
theorem requested_conforms {events : List LibraryEvent} {phase last : StreamPhase}
    (hconforms : events.foldlM (advance streamId) phase = some last) {headers : List Header}
    {ended : Bool} (hmem : .requestReceived streamId headers ended ∈ events) :
    phase = .idle ∧ last ≠ .idle := by
  constructor
  · by_contra hphase
    exact (foldlM_advance hphase hconforms).2 headers ended hmem
  · induction events generalizing phase with
    | nil => cases hmem
    | cons event events ih =>
        rw [List.foldlM_cons, Option.bind_eq_bind, Option.bind_eq_some_iff] at hconforms
        obtain ⟨after, hadvance, hrest⟩ := hconforms
        rcases List.mem_cons.mp hmem with rfl | hmem
        · have hnext : phase.next (.requestReceived streamId headers ended) = some after := by
            simpa [advance, LibraryEvent.streamId?] using hadvance
          have hafter : after ≠ .idle := fun hidle => next_ne_idle _ _ (hidle ▸ hnext)
          exact (foldlM_advance hafter hrest).1
        · exact ih hrest hmem

/-- A read goes through if no malformed request is reset by it, or comes with a GOAWAY. -/
theorem receive_isSome (hobeys : env.codec.Obeys view) (hserves : env.codec.Serves view)
    {conn : Conn}
    {libraryEvents : List LibraryEvent} {data : Bytes}
    (hparsed : env.codec.receiveData handler.h2.conn data = some (conn, libraryEvents))
    (hspared : ∀ streamId headers last, .requestReceived streamId headers last ∈ libraryEvents →
      readRequest headers = none →
        view.phase conn streamId ≠ .reset ∧ view.terminated conn = false) :
    ({ handler.h2 with conn }.receiveData env.codec.toLibrary libraryEvents).isSome := by
  apply hserves.receiveData_isSome hobeys
  · exact fun streamId => ⟨_, _, (hobeys.receiveData _ _ _ _ hparsed streamId).1⟩
  · intro event hmem streamId hown
    exact foldlM_ne_idle (hobeys.receiveData _ _ _ _ hparsed streamId).1 hmem hown
  · intro streamId headers last hmem hmalformed
    obtain ⟨hadvances, hending, hhalf⟩ := hobeys.receiveData _ _ _ _ hparsed streamId
    obtain ⟨hidle, hnotIdle⟩ := requested_conforms hadvances hmem
    obtain ⟨hnotReset, hterminated⟩ := hspared streamId headers last hmem hmalformed
    have hfresh : view.half conn streamId = .fresh :=
      (hhalf hnotReset).trans (hobeys.idle _ _ hidle)
    refine ⟨hterminated, ?_⟩
    show view.Open conn streamId
    rw [View.Open, hfresh]
    cases hcases : view.phase conn streamId with
    | idle => exact absurd hcases hnotIdle
    | reset => exact absurd hcases hnotReset
    | receiving | ending | ended => simp

/-- A read sends nothing, and ends the halves of streams that are reset. -/
theorem counted_receive (hobeys : env.codec.Obeys view)
    (hcounted : view.Counted handler.h2.conn handler.sent) {conn : Conn}
    {libraryEvents : List LibraryEvent} {data : Bytes} {h2 : H2Connection Conn}
    (hparsed : env.codec.receiveData handler.h2.conn data = some (conn, libraryEvents))
    (hreceived : { handler.h2 with conn }.receiveData env.codec.toLibrary libraryEvents =
      some (h2, events)) : view.Counted h2.conn handler.sent := by
  apply hcounted.mono
  intro streamId
  obtain ⟨hadvances, -, hhalf⟩ := hobeys.receiveData _ _ _ _ hparsed streamId
  have htold : ([] : List H2Event).any (·.isReset streamId) →
      view.phase handler.h2.conn streamId = .reset ∨ view.phase conn streamId = .reset :=
    fun hnot => by cases hnot
  rcases (hobeys.receiveAll hadvances hreceived htold).1 with hsame | ⟨hreset, -⟩
  · rw [hsame.2]
    by_cases hreset : view.phase conn streamId = .reset
    case pos => exact .inr (hobeys.reset _ _ hreset)
    case neg => exact .inl (hhalf hreset)
  · exact .inr (hobeys.reset _ _ hreset)

/-! ## What is transmitted -/

section Transmits

variable (hobeys : env.codec.Obeys view)

include hobeys

theorem transmitted_dispatchEvent (handler : Handler Conn) (event : H2Event) :
    Transmitted view handler (handler.dispatchEvent env event).1 := by
  have hrejected : ∀ (own : ℕ) (counted : Handler Conn), counted.h2 = handler.h2 →
      counted.sent = handler.sent →
        Transmitted view handler (counted.sendRequestTooLarge env own).1 := by
    intro own counted hh2 hsame
    obtain ⟨hpushed, hcounted⟩ := hobeys.transmitted_sendRequestTooLarge counted own
    rw [hh2] at hpushed
    rw [hh2, hsame] at hcounted
    exact ⟨hpushed, hcounted⟩
  cases event with
  | requestReceived own request =>
      rw [Handler.dispatchEvent]
      split
      case isTrue => exact hrejected own _ rfl rfl
      case isFalse => exact ⟨.refl _, id⟩
  | bodyReceived own body =>
      rw [Handler.dispatchEvent, dispatchBody]
      split
      case isTrue => exact .refl handler
      case isFalse =>
        split
        case isFalse => exact .refl handler
        case isTrue =>
          dsimp only
          split
          case isFalse => exact ⟨.refl _, id⟩
          case isTrue => exact hrejected own _ rfl rfl
  | streamReset own errorCode =>
      rw [Handler.dispatchEvent, dispatchReset]
      split <;> exact ⟨.refl _, id⟩
  | webSocketRequest | windowUpdated | goAway => exact ⟨.refl _, id⟩

theorem transmitted_call {own : ℕ} {webSocket : Bool} {call : Call}
    (hcall : handler.call env own webSocket call = some next) : Transmitted view handler next := by
  cases call with
  | respond status =>
      obtain rfl := Option.some.inj hcall
      exact ⟨.refl _, id⟩
  | schedule | unschedule | markWrote =>
      rw [Handler.call] at hcall
      split at hcall
      case isTrue => cases hcall
      case isFalse =>
        obtain rfl := Option.some.inj hcall
        exact ⟨.refl _, id⟩
  | sendHeaders status headers endStream =>
      obtain rfl := Option.some.inj hcall
      exact hobeys.transmitted_sendHeaders ..
  | sendData data endStream =>
      obtain rfl := Option.some.inj hcall
      exact hobeys.transmitted_sendData ..
  | resetStream errorCode =>
      obtain rfl := Option.some.inj hcall
      exact hobeys.transmitted_resetStream ..

theorem transmitted_finish (handler : Handler Conn) (own : ℕ) (task : StreamTask)
    (ending : Ending) : Transmitted view handler (handler.finish env own task ending) := by
  obtain ⟨answered, hconcluded, heq⟩ := finish_eq env handler own task ending
  have hsent := concluded_transmitted hobeys hconcluded
  rw [heq]
  split
  case isTrue => exact ⟨hsent.pushed, hsent.counted⟩
  case isFalse => exact ⟨.refl _, id⟩

end Transmits

/-! ## Cancellations -/

/-- Every task that is cancelled is cancelled for its own stream, or with the connection. -/
def Own (handler : Handler Conn) : Prop :=
  ∀ streamId task cancellation, handler.tasks streamId = some task →
    task.cancelled = some cancellation → handler.Warranted streamId cancellation

/-- The task of the stream had been cancelled before, for this reason. -/
def WasCancelled (handler : Handler Conn) (streamId : ℕ) (cancellation : Cancellation) : Prop :=
  ∃ task, handler.tasks streamId = some task ∧ task.cancelled = some cancellation

/-- No task is cancelled while the loop stays where it is. -/
theorem Own.mono (hown : handler.Own) (hkept : LoopKept handler next)
    (htasks : ∀ streamId task cancellation, next.tasks streamId = some task →
      task.cancelled = some cancellation → handler.WasCancelled streamId cancellation) :
    next.Own := by
  intro streamId task cancellation htask hcancelled
  obtain ⟨before, hbefore, hsame⟩ := htasks streamId task cancellation htask hcancelled
  have hwarranted := hown streamId before cancellation hbefore hsame
  cases cancellation with
  | tooLarge | reset =>
      rw [Warranted, hkept.dispatched]
      exact hwarranted
  | leaving =>
      rw [Warranted, hkept.loop]
      exact hwarranted

/-- A loop that is not being left goes on. -/
theorem Own.moved (hown : handler.Own) (hloop : ∀ cause, handler.loop ≠ .leaving cause)
    (loop : Loop) : Own { handler with loop } := by
  intro streamId task cancellation htask hcancelled
  have hwarranted := hown streamId task cancellation htask hcancelled
  cases cancellation with
  | tooLarge | reset => exact hwarranted
  | leaving =>
      obtain ⟨cause, hleaving⟩ := hwarranted
      exact absurd hleaving (hloop cause)

/-- The way out of the loop cancels what is in the table. -/
theorem Own.leave (hown : handler.Own) (cause : Cause) : (handler.leave cause).Own := by
  intro streamId task cancellation htask hcancelled
  obtain ⟨before, hbefore, heq⟩ := Option.map_eq_some_iff.mp htask
  by_cases hleaving : cancellation = .leaving
  case pos =>
    subst hleaving
    exact ⟨cause, rfl⟩
  case neg =>
    have hsame : before.cancelled = some cancellation := by
      subst heq
      split at hcancelled
      case isFalse => exact hcancelled
      case isTrue =>
        rcases Option.or_eq_some_iff.mp hcancelled with hsame | ⟨-, hnew⟩
        · exact hsame
        · exact absurd (Option.some.inj hnew).symm hleaving
    have hwarranted := hown streamId before cancellation hbefore hsame
    cases cancellation with
    | tooLarge | reset => exact hwarranted
    | leaving => exact absurd rfl hleaving

/-- What a cancellation does. -/
theorem cancel_wasCancelled {own : ℕ} {reason cancellation : Cancellation} {task : StreamTask}
    (htask : (handler.cancel own reason).tasks streamId = some task)
    (hcancelled : task.cancelled = some cancellation) :
    handler.WasCancelled streamId cancellation ∨ streamId = own ∧ cancellation = reason := by
  by_cases hown : streamId = own
  case neg =>
    rw [cancel_tasks_of_ne _ _ _ hown] at htask
    exact .inl ⟨task, htask, hcancelled⟩
  case pos =>
    subst hown
    rw [cancel_tasks_self, Option.map_eq_some_iff] at htask
    obtain ⟨before, hbefore, rfl⟩ := htask
    rcases Option.or_eq_some_iff.mp hcancelled with hsame | ⟨-, hnew⟩
    · exact .inl ⟨before, hbefore, hsame⟩
    · exact .inr ⟨rfl, (Option.some.inj hnew).symm⟩

/-- An event cancels the task of its own stream at most. -/
theorem dispatchEvent_wasCancelled {cancellation : Cancellation} {task : StreamTask}
    (htask : (handler.dispatchEvent env event).1.tasks streamId = some task)
    (hcancelled : task.cancelled = some cancellation) :
    handler.WasCancelled streamId cancellation ∨
      cancellation = .tooLarge ∧ (∃ body, event = .bodyReceived streamId body) ∨
      cancellation = .reset ∧ ∃ errorCode, event = .streamReset streamId errorCode := by
  have hcreated : ∀ (own : ℕ) (made : StreamTask), made.cancelled = none →
      (handler.createTask own made).tasks streamId = some task →
        handler.WasCancelled streamId cancellation := by
    intro own made hnone hmade
    by_cases hown : streamId = own
    case pos =>
      subst hown
      rw [createTask_tasks_self] at hmade
      obtain rfl := Option.some.inj hmade
      cases hnone.symm.trans hcancelled
    case neg =>
      rw [createTask_tasks_of_ne _ _ _ hown] at hmade
      exact ⟨task, hmade, hcancelled⟩
  cases event with
  | requestReceived own request =>
      rw [Handler.dispatchEvent] at htask
      split at htask
      case isTrue =>
        rw [(wrote_sendRequestTooLarge ..).tasks] at htask
        exact .inl ⟨task, htask, hcancelled⟩
      case isFalse => exact .inl (hcreated own { request } rfl htask)
  | webSocketRequest own request path =>
      exact .inl (hcreated own { request, webSocket := true } rfl htask)
  | bodyReceived own body =>
      rw [Handler.dispatchEvent, dispatchBody] at htask
      split at htask
      case isTrue => exact .inl ⟨task, htask, hcancelled⟩
      case isFalse =>
        split at htask
        case isFalse => exact .inl ⟨task, htask, hcancelled⟩
        case isTrue =>
          dsimp only at htask
          split at htask
          case isFalse => exact .inl ⟨task, htask, hcancelled⟩
          case isTrue =>
            rw [(wrote_sendRequestTooLarge ..).tasks] at htask
            rcases cancel_wasCancelled htask hcancelled with hbefore | ⟨rfl, hreason⟩
            · exact .inl hbefore
            · exact .inr (.inl ⟨hreason, body, rfl⟩)
  | streamReset own errorCode =>
      rw [Handler.dispatchEvent, dispatchReset] at htask
      split at htask
      case isFalse => exact .inl ⟨task, htask, hcancelled⟩
      case isTrue =>
        rcases cancel_wasCancelled htask hcancelled with hbefore | ⟨rfl, hreason⟩
        · exact .inl hbefore
        · exact .inr (.inr ⟨hreason, errorCode, rfl⟩)
  | windowUpdated | goAway => exact .inl ⟨task, htask, hcancelled⟩

variable (env event) in
/-- An event is dispatched, and noted. -/
theorem Own.dispatchEvent (hown : handler.Own) (hloop : ∀ cause, handler.loop ≠ .leaving cause) :
    Own { (handler.dispatchEvent env event).1 with
      dispatched := (handler.dispatchEvent env event).1.dispatched ++ [event] } := by
  intro streamId task cancellation htask hcancelled
  have hdispatched := (loopKept_dispatchEvent env handler event).dispatched
  rcases dispatchEvent_wasCancelled htask hcancelled with
    ⟨before, hbefore, hsame⟩ | ⟨rfl, body, rfl⟩ | ⟨rfl, errorCode, rfl⟩
  · have hwarranted := hown streamId before cancellation hbefore hsame
    cases cancellation with
    | tooLarge =>
        obtain ⟨body, hmem⟩ := hwarranted
        refine ⟨body, List.mem_append_left _ ?_⟩
        rwa [hdispatched]
    | reset =>
        obtain ⟨errorCode, hmem⟩ := hwarranted
        refine ⟨errorCode, List.mem_append_left _ ?_⟩
        rwa [hdispatched]
    | leaving =>
        obtain ⟨cause, hleaving⟩ := hwarranted
        exact absurd hleaving (hloop cause)
  · exact ⟨body, by simp⟩
  · exact ⟨errorCode, by simp⟩

/-! ## Every step -/

/-- What holds of a connection in a run that spares its streams. -/
structure Safe (view : View Conn) (handler : Handler Conn) : Prop where
  tracked : ∀ streamId, Tracked view handler handler.pending streamId
  counted : view.Counted handler.h2.conn handler.sent
  stays : handler.loop ≠ .leaving .failed
  own : handler.Own

/-- The next event of a read does not raise. -/
theorem Safe.dispatchNext (hobeys : env.codec.Obeys view) (hserves : env.codec.Serves view)
    (hsafe : Safe view handler)
    (hloop : handler.loop = .dispatching (event :: events))
    (hfresh : ∀ own, rejects env handler event = some own →
      view.half handler.h2.conn own = .fresh ∧ view.terminated handler.h2.conn = false) :
    view.Counted (handler.dispatchNext env event events).h2.conn
        (handler.dispatchNext env event events).sent ∧
      (handler.dispatchNext env event events).loop ≠ .leaving .failed ∧
        (handler.dispatchNext env event events).Own := by
  have hpending : handler.pending = event :: events := by rw [pending, hloop]
  have htracked := hsafe.tracked
  rw [hpending] at htracked
  have hsucceeds : (handler.dispatchEvent env event).2 = true := by
    apply dispatchEvent_snd
    intro own hrejects
    obtain ⟨hhalf, hterminated⟩ := hfresh own hrejects
    apply takesRejection_of_fresh hobeys hserves (htracked own) _ hhalf hterminated
    cases event with
    | requestReceived id request =>
        rw [rejects] at hrejects
        split at hrejects
        case isTrue =>
          obtain rfl := Option.some.inj hrejects
          exact .inr (by simp [Requested, H2Event.isRequest])
        case isFalse => cases hrejects
    | bodyReceived id body =>
        rw [rejects] at hrejects
        split at hrejects
        case isTrue hover =>
          obtain rfl := Option.some.inj hrejects
          exact .inl hover.2.1
        case isFalse => cases hrejects
    | _ => cases hrejects
  have hcounted := (transmitted_dispatchEvent hobeys handler event).counted hsafe.counted
  have hown := hsafe.own.dispatchEvent env event (by simp [hloop])
  have hkept := loopKept_dispatchEvent env handler event
  rw [Handler.dispatchNext]
  split
  case h_1 raised hraised =>
    rw [hraised] at hsucceeds
    cases hsucceeds
  case h_2 done hdone =>
    rw [hdone] at hcounted hown hkept
    have hopen : ∀ cause, done.loop ≠ .leaving cause := by
      rw [show done.loop = handler.loop from hkept.loop, hloop]
      exact fun cause hnot => by cases hnot
    dsimp only
    split
    case h_1 => exact ⟨hcounted, by simp, hown.moved hopen .draining⟩
    case h_2 => exact ⟨hcounted, by simp, hown.moved hopen (.dispatching events)⟩

/-- A task that is done is not cancelled any more. -/
theorem dropTask_wasCancelled {own : ℕ} {task : StreamTask} {cancellation : Cancellation}
    (htask : (handler.dropTask own).tasks streamId = some task)
    (hcancelled : task.cancelled = some cancellation) :
    handler.WasCancelled streamId cancellation := by
  by_cases hown : streamId = own
  case pos =>
    subst hown
    rw [dropTask_tasks_self] at htask
    cases htask
  case neg =>
    rw [dropTask_tasks_of_ne _ _ hown] at htask
    exact ⟨task, htask, hcancelled⟩

/-- Every step keeps a connection safe. -/
theorem safe_step (hobeys : env.codec.Obeys view) (hserves : env.codec.Serves view) {action : Action} (hsafe : Safe view handler)
    (hallowed : spares view env handler action = true)
    (hstep : handler.step env action = some next) : Safe view next := by
  have htracked : ∀ streamId, Tracked view next next.pending streamId :=
    fun streamId => tracked_step hobeys (hsafe.tracked streamId) hstep
  have hleave : ∀ cause, cause ≠ .failed → handler.leave cause = next → Safe view next := by
    rintro cause hcause rfl
    refine ⟨htracked, hsafe.counted, ?_, hsafe.own.leave cause⟩
    intro hfailed
    exact hcause (Loop.leaving.inj hfailed)
  cases action with
  | read data =>
      obtain ⟨hreading, hnext⟩ := Machine.of_guard hstep
      rw [receive] at hnext
      rw [spares] at hallowed
      split at hnext
      case h_1 => exact hleave .invalid (by decide) hnext
      case h_2 conn libraryEvents hparsed =>
        simp only [hparsed, List.all_eq_true] at hallowed
        have hsome := receive_isSome hobeys hserves hparsed
          fun streamId headers last hmem hmalformed => by
            simpa [hmalformed] using hallowed _ hmem
        split at hnext
        case h_1 hfails =>
          rw [hfails] at hsome
          cases hsome
        case h_2 h2 events hreceived =>
          subst hnext
          refine ⟨htracked, counted_receive hobeys hsafe.counted hparsed hreceived, by simp, ?_⟩
          exact hsafe.own.moved (by simp [hreading]) (.dispatching events)
  | readFails =>
      obtain ⟨-, hnext⟩ := Machine.of_guard hstep
      exact hleave .disconnected (by decide) hnext
  | readTimeout =>
      obtain ⟨-, hnext⟩ := Machine.of_guard hstep
      split at hnext
      case isTrue => exact hleave .idle (by decide) hnext
      case isFalse => exact hnext ▸ hsafe
  | dispatch =>
      rw [step] at hstep
      rw [spares] at hallowed
      split at hstep
      case h_1 hloop =>
        obtain rfl := Option.some.inj hstep
        exact ⟨htracked, hsafe.counted, by simp, hsafe.own.moved (by simp [hloop]) .draining⟩
      case h_2 event events hloop =>
        obtain rfl := Option.some.inj hstep
        simp only [hloop] at hallowed
        obtain ⟨hcounted, hstays, hown⟩ := hsafe.dispatchNext hobeys hserves hloop
          fun own hrejects => by
            rw [hrejects, Option.all_some] at hallowed
            simpa using hallowed
        exact ⟨htracked, hcounted, hstays, hown⟩
      case h_3 => cases hstep
  | drained =>
      obtain ⟨hdraining, hnext⟩ := Machine.of_guard hstep
      split at hnext
      case isTrue => exact hleave .goAway (by decide) hnext
      case isFalse =>
        subst hnext
        exact ⟨htracked, hsafe.counted, by simp, hsafe.own.moved (by simp [hdraining]) .reading⟩
  | drainFails =>
      obtain ⟨-, hnext⟩ := Machine.of_guard hstep
      exact hleave .disconnected (by decide) hnext
  | start own =>
      obtain ⟨task, htask, hguard⟩ := Option.bind_eq_some_iff.mp hstep
      obtain ⟨-, rfl⟩ := Machine.of_guard hguard
      have hkept := loopKept_start env handler own task
      have hsame : (handler.start env own task).h2 = handler.h2 ∧
          (handler.start env own task).sent = handler.sent := by
        rw [Handler.start]
        split <;> exact ⟨rfl, rfl⟩
      refine ⟨htracked, by rw [hsame.1, hsame.2]; exact hsafe.counted,
        hkept.loop ▸ hsafe.stays, ?_⟩
      apply hsafe.own.mono hkept
      intro streamId after cancellation hafter hcancelled
      rw [Handler.start] at hafter
      split at hafter
      case h_1 => exact dropTask_wasCancelled hafter hcancelled
      case h_2 =>
        by_cases hown : streamId = own
        case pos =>
          subst hown
          simp only [Function.update_self, Option.some.injEq] at hafter
          subst hafter
          exact ⟨task, htask, hcancelled⟩
        case neg =>
          simp only [Function.update_of_ne hown] at hafter
          exact ⟨after, hafter, hcancelled⟩
  | call own call =>
      obtain ⟨webSocket, -, hguard⟩ := Option.bind_eq_some_iff.mp hstep
      obtain ⟨-, hcall⟩ := Option.ite_none_right_eq_some.mp hguard
      have hkept := (call_kept hcall).1
      refine ⟨htracked, (transmitted_call hobeys hcall).counted hsafe.counted,
        hkept.loop ▸ hsafe.stays, ?_⟩
      apply hsafe.own.mono hkept
      intro streamId after cancellation hafter hcancelled
      obtain ⟨before, hbefore, hsame⟩ := call_cancelled hcall streamId after hafter
      exact ⟨before, hbefore, hsame.trans hcancelled⟩
  | finish own ending =>
      obtain ⟨task, -, hguard⟩ := Option.bind_eq_some_iff.mp hstep
      obtain ⟨-, rfl⟩ := Machine.of_guard hguard
      obtain ⟨answered, hconcluded, heq⟩ := finish_eq env handler own task ending
      have hkept := loopKept_finish env handler own task ending
      refine ⟨htracked, (transmitted_finish hobeys handler own task ending).counted hsafe.counted,
        hkept.loop ▸ hsafe.stays, ?_⟩
      apply hsafe.own.mono hkept
      intro streamId after cancellation hafter hcancelled
      rw [heq] at hafter
      split at hafter
      case isTrue =>
        obtain ⟨before, hbefore, hsame⟩ := dropTask_wasCancelled hafter hcancelled
        exact ⟨before, hconcluded.wrote.tasks ▸ hbefore, hsame⟩
      case isFalse => exact dropTask_wasCancelled hafter hcancelled

/-- In every run that spares its streams, what happens on one stream stays there. -/
theorem isolated_of_reach (hobeys : env.codec.Obeys view) (hserves : env.codec.Serves view)
    {conn : Conn}
    (hidle : ∀ streamId, view.phase conn streamId = .idle)
    (hreach : (handlerMachine env conn).Reach
      (fun handler action => spares view env handler action = true) handler) :
    handler.Isolated := by
  have hsafe : Safe view handler := by
    apply hreach.invariant
    · rintro handler rfl
      refine ⟨tracked_init hidle, within_nil _, by simp, ?_⟩
      exact fun streamId task cancellation hnot => by cases hnot
    · exact fun handler action next hsafe hallowed hstep => safe_step hobeys hserves hsafe hallowed hstep
  exact ⟨hsafe.counted.answeredOnce, hsafe.stays, hsafe.own⟩

end Handler

end Pounce.H2
