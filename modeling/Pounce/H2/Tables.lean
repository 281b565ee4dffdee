/-
# What the tables keep of a stream that is done

Whatever a stream leaves in the tables of the handler, in the connection and in the scheduler
is cleared by the `finally` of its task or by a reset from the peer. A task without that
`finally` (a WebSocket, one whose scope cannot be built, one cancelled before its first step)
leaves what it had, and so does a request that is refused before it gets a task. In runs in
which none of these comes to its end the tables mention no stream that is done, so that an
idle connection can be told from a busy one (`tables_clean`).
-/

import Pounce.H2.Streams
import Pounce.Priority.Ready

namespace Pounce.H2

open Pounce.Math Pounce.Math.Bytes

namespace Handler

variable {Conn : Type} {env : Env Conn} {view : View Conn} {handler next : Handler Conn}
  {streamId : ℕ} {event : H2Event} {events unseen : List H2Event}

/-! ## What is kept of a stream -/

/-- One of the tables mentions the stream. -/
def Mentions (handler : Handler Conn) (streamId : ℕ) : Prop :=
  streamId ∈ handler.streamTasks ∨ (handler.streamBodyBytes streamId).isSome ∨
    streamId ∈ handler.streamBodyRejected ∨ (handler.h2.streams streamId).isSome ∨
      handler.scheduler.Mentions streamId

/-- The events that were read and not dispatched. -/
def unprocessed (handler : Handler Conn) : List H2Event := handler.pending ++ handler.skipped

/-- No stream is mentioned whose task is done and whose events are processed. -/
def Clean (handler : Handler Conn) : Prop :=
  ∀ streamId, handler.tasks streamId = none →
    (∀ event ∈ handler.unprocessed, event.streamId? ≠ some streamId) → ¬ handler.Mentions streamId

/-- There is nothing that only the end of the task would not clear: a request is not refused
by its declared length, a scope is built for every request, only a task with a `finally` ends
unless the peer has reset its stream, and nothing schedules a stream once its task is done. -/
def tidies (env : Env Conn) (handler : Handler Conn) : Action → Bool
  | .dispatch =>
      match handler.loop with
      | .dispatching (.requestReceived _ request :: _) =>
          !contentLengthExceedsLimit env.config.maxRequestSize request
      | _ => true
  | .start streamId => (handler.tasks streamId).all fun task => (buildScope env task).toBool
  | .call streamId .schedule => (handler.tasks streamId).isSome
  | .finish streamId _ => (handler.tasks streamId).all fun task =>
      task.started && !task.webSocket || task.cancelled = some .reset
  | _ => true

/-- The task of the stream is at work, and the stream has not been reset. -/
def Live (handler : Handler Conn) (streamId : ℕ) : Prop :=
  ∃ task, handler.tasks streamId = some task ∧ task.cancelled ≠ some .reset

/-- What is kept of a stream is kept for a task that will clear it, or for a request that is
among the events not seen yet. -/
structure Tidy (handler : Handler Conn) (unseen : List H2Event) (streamId : ℕ) : Prop where
  registered : streamId ∈ handler.streamTasks → handler.Live streamId
  bytes : (handler.streamBodyBytes streamId).isSome → handler.Live streamId
  rejected : streamId ∈ handler.streamBodyRejected → handler.Live streamId
  entry : (handler.h2.streams streamId).isSome →
    handler.Live streamId ∨ Requested streamId unseen
  scheduled : handler.scheduler.Mentions streamId →
    ∃ task, handler.tasks streamId = some task ∧ task.started = true ∧ task.webSocket = false
  begun : ∀ task, handler.tasks streamId = some task →
    handler.begun streamId = if task.started then some task.webSocket else none

/-- A task has gone on, but has not been reset by it. -/
structure Alike (task next : StreamTask) : Prop where
  started : next.started = task.started
  webSocket : next.webSocket = task.webSocket
  reset : next.cancelled = some .reset → task.cancelled = some .reset

theorem Alike.refl (task : StreamTask) : Alike task task := ⟨rfl, rfl, id⟩

theorem rel_alike_refl (task : Option StreamTask) : Option.Rel Alike task task := by
  cases task with
  | none => exact .none
  | some task => exact .some (.refl task)

/-- A task that is there goes on. -/
theorem rel_alike_map {change : StreamTask → StreamTask} (hchange : ∀ task, Alike task (change task))
    (task : Option StreamTask) : Option.Rel Alike task (task.map change) := by
  cases task with
  | none => exact .none
  | some task => exact .some (hchange task)

/-- A cancellation that is not for a reset. -/
theorem alike_cancelled {cancellation : Cancellation} (hnot : cancellation ≠ .reset)
    (task : StreamTask) :
    Alike task { task with cancelled := task.cancelled.or (some cancellation) } where
  started := rfl
  webSocket := rfl
  reset := by
    intro hreset
    cases hcancelled : task.cancelled with
    | none =>
        simp only [hcancelled, Option.none_or, Option.some.injEq] at hreset
        exact absurd hreset hnot
    | some before => simpa [hcancelled] using hreset

/-- The tables of a stream keep at most what they had. -/
theorem Tidy.mono (htidy : Tidy handler unseen streamId)
    (htasks : Option.Rel Alike (handler.tasks streamId) (next.tasks streamId))
    (hbegun : next.begun streamId = handler.begun streamId)
    (htable : streamId ∈ next.streamTasks → handler.Live streamId)
    (hbytes : (next.streamBodyBytes streamId).isSome → handler.Live streamId)
    (hrejected : streamId ∈ next.streamBodyRejected → handler.Live streamId)
    (hentry : (next.h2.streams streamId).isSome → (handler.h2.streams streamId).isSome)
    (hscheduled : next.scheduler.Mentions streamId → handler.scheduler.Mentions streamId) :
    Tidy next unseen streamId := by
  have hlive : handler.Live streamId → next.Live streamId := by
    rintro ⟨task, htask, hnot⟩
    cases hnext : next.tasks streamId with
    | none =>
        rw [htask, hnext] at htasks
        cases htasks
    | some after =>
        rw [htask, hnext] at htasks
        cases htasks with
        | some halike => exact ⟨after, hnext, fun hreset => hnot (halike.reset hreset)⟩
  constructor
  case registered => exact fun hmem => hlive (htable hmem)
  case bytes => exact fun hsome => hlive (hbytes hsome)
  case rejected => exact fun hmem => hlive (hrejected hmem)
  case entry => exact fun hsome => (htidy.entry (hentry hsome)).imp_left hlive
  case scheduled =>
    intro hmentions
    obtain ⟨task, htask, hstarted, hwebSocket⟩ := htidy.scheduled (hscheduled hmentions)
    rw [htask] at htasks
    cases hnext : next.tasks streamId with
    | none =>
        rw [hnext] at htasks
        cases htasks
    | some after =>
        rw [hnext] at htasks
        cases htasks with
        | some halike =>
            exact ⟨after, rfl, halike.started.trans hstarted, halike.webSocket.trans hwebSocket⟩
  case begun =>
    intro after hnext
    rw [hnext] at htasks
    cases htask : handler.tasks streamId with
    | none =>
        rw [htask] at htasks
        cases htasks
    | some task =>
        rw [htask] at htasks
        cases htasks with
        | some halike => rw [hbegun, htidy.begun task htask, halike.started, halike.webSocket]

/-- More events may be unseen. -/
theorem Tidy.weaken {other : List H2Event} (htidy : Tidy handler unseen streamId)
    (hrequested : Requested streamId unseen → Requested streamId other) :
    Tidy handler other streamId where
  registered := htidy.registered
  bytes := htidy.bytes
  rejected := htidy.rejected
  entry hsome := (htidy.entry hsome).imp_right hrequested
  scheduled := htidy.scheduled
  begun := htidy.begun

/-- An event that is no request of the stream need not be waited for. -/
theorem Tidy.tail (htidy : Tidy handler (event :: unseen) streamId)
    (hother : event.isRequest streamId = false) : Tidy handler unseen streamId := by
  apply htidy.weaken
  rw [Requested, List.any_cons, hother, Bool.false_or]
  exact id

/-- An operation on another stream. -/
theorem Tidy.frame (htidy : Tidy handler unseen streamId)
    (htasks : next.tasks streamId = handler.tasks streamId)
    (hbegun : next.begun streamId = handler.begun streamId)
    (htable : streamId ∈ next.streamTasks → streamId ∈ handler.streamTasks)
    (hbytes : (next.streamBodyBytes streamId).isSome → (handler.streamBodyBytes streamId).isSome)
    (hrejected : streamId ∈ next.streamBodyRejected → streamId ∈ handler.streamBodyRejected)
    (hentry : (next.h2.streams streamId).isSome → (handler.h2.streams streamId).isSome)
    (hscheduled : next.scheduler.Mentions streamId → handler.scheduler.Mentions streamId) :
    Tidy next unseen streamId := by
  apply htidy.mono
  · rw [htasks]
    exact rel_alike_refl _
  · exact hbegun
  · exact fun hmem => htidy.registered (htable hmem)
  · exact fun hsome => htidy.bytes (hbytes hsome)
  · exact fun hmem => htidy.rejected (hrejected hmem)
  · exact hentry
  · exact hscheduled

/-- Where the loop stands is no matter to the tables. -/
theorem Tidy.moved (htidy : Tidy handler unseen streamId) (loop : Loop)
    (dispatched skipped : List H2Event) :
    Tidy { handler with loop, dispatched, skipped } unseen streamId :=
  htidy.frame rfl rfl id id id id id

/-! ## Events -/

/-- An event is a request of one stream only. -/
theorem isRequest_of_ne {own : ℕ} (hrequest : event.isRequest own) (hown : streamId ≠ own) :
    event.isRequest streamId = false := by
  rw [Bool.eq_false_iff]
  intro hnot
  have hsame := (streamId?_of_isRequest hnot).symm.trans (streamId?_of_isRequest hrequest)
  exact hown (Option.some.inj hsame)

/-- The task for a request is made. -/
theorem Tidy.createTask (htracked : Tracked view handler (event :: events) streamId)
    (htidy : Tidy handler (event :: unseen) streamId) {own : ℕ} (hrequest : event.isRequest own)
    {task : StreamTask} (hstarted : task.started = false) (hcancelled : task.cancelled = none) :
    Tidy (handler.createTask own task) unseen streamId := by
  by_cases hown : streamId = own
  case neg =>
    apply (htidy.tail (isRequest_of_ne hrequest hown)).frame
    · exact createTask_tasks_of_ne _ _ _ hown
    · rfl
    · exact fun hmem => Finset.mem_of_mem_insert_of_ne hmem hown
    · exact id
    · exact id
    · exact id
    · exact id
  case pos =>
    subst hown
    obtain ⟨-, hnone, hbegun⟩ := htracked.new (by simp [Requested, hrequest])
    have hlive : (handler.createTask streamId task).Live streamId := by
      refine ⟨task, createTask_tasks_self .., ?_⟩
      rw [hcancelled]
      exact fun hnot => by cases hnot
    constructor
    case registered => exact fun _ => hlive
    case bytes => exact fun _ => hlive
    case rejected => exact fun _ => hlive
    case entry => exact fun _ => .inl hlive
    case scheduled =>
      intro hmentions
      obtain ⟨before, hbefore, -⟩ := htidy.scheduled hmentions
      cases hnone.symm.trans hbefore
    case begun =>
      intro made hmade
      rw [createTask_tasks_self] at hmade
      obtain rfl := Option.some.inj hmade
      rw [hstarted]
      exact hbegun

/-- A rejection of a stream whose task is at work. -/
theorem Tidy.sendRequestTooLarge (htidy : Tidy handler unseen streamId)
    (hfiled : handler.scheduler.Filed) {own : ℕ} (hlive : handler.Live own) :
    Tidy (handler.sendRequestTooLarge env own).1 unseen streamId := by
  obtain ⟨conn, sent, -, heq | heq⟩ := sendRequestTooLarge_cases env handler own <;> rw [heq]
  · exact htidy.frame rfl rfl id id id id id
  · apply htidy.mono
    · exact rel_alike_refl _
    · rfl
    · exact htidy.registered
    · intro hsome
      by_cases hown : streamId = own
      case pos =>
        subst hown
        exact hlive
      case neg => exact htidy.bytes (by simpa [hown] using hsome)
    · intro hmem
      rcases Finset.mem_insert.mp hmem with rfl | hmem
      · exact hlive
      · exact htidy.rejected hmem
    · intro hsome
      by_cases hown : streamId = own
      case pos =>
        subst hown
        simp [H2Connection.removeStream, H2Connection.setStream] at hsome
      case neg => simpa [H2Connection.removeStream, H2Connection.setStream, hown] using hsome
    · exact fun hmentions => (hfiled.mentions_removeStream hmentions).2

/-- A task goes on when it is cancelled, but for a reset. -/
theorem live_cancel {own : ℕ} {cancellation : Cancellation} (hnot : cancellation ≠ .reset)
    (hlive : handler.Live streamId) : (handler.cancel own cancellation).Live streamId := by
  obtain ⟨task, htask, hreset⟩ := hlive
  by_cases hown : streamId = own
  case pos =>
    subst hown
    refine ⟨_, by rw [cancel_tasks_self, htask]; rfl, ?_⟩
    exact fun hcancelled => hreset ((alike_cancelled hnot task).reset hcancelled)
  case neg => exact ⟨task, by rw [cancel_tasks_of_ne _ _ _ hown, htask], hreset⟩

theorem Tidy.cancel (htidy : Tidy handler unseen streamId) (own : ℕ) {cancellation : Cancellation}
    (hnot : cancellation ≠ .reset) : Tidy (handler.cancel own cancellation) unseen streamId := by
  apply htidy.mono
  · by_cases hown : streamId = own
    case pos =>
      subst hown
      rw [cancel_tasks_self]
      exact rel_alike_map (alike_cancelled hnot) _
    case neg =>
      rw [cancel_tasks_of_ne _ _ _ hown]
      exact rel_alike_refl _
  · rfl
  · exact htidy.registered
  · exact htidy.bytes
  · exact htidy.rejected
  · exact id
  · exact id

/-- A body event. -/
theorem Tidy.dispatchBody (htidy : Tidy handler unseen streamId)
    (hfiled : handler.scheduler.Filed) {own : ℕ}
    (hregistered : own ∈ handler.streamTasks → handler.Live own) (body : BodyReceived) :
    Tidy (handler.dispatchBody env own body).1 unseen streamId := by
  rw [Handler.dispatchBody]
  split
  case isTrue => exact htidy
  case isFalse =>
    split
    case isFalse => exact htidy
    case isTrue hmem =>
      have hlive := hregistered hmem
      have hcounted : ∀ bodyBytes, Tidy { handler with
          streamBodyBytes := Function.update handler.streamBodyBytes own (some bodyBytes) }
            unseen streamId := by
        intro bodyBytes
        refine htidy.mono (rel_alike_refl _) rfl htidy.registered (fun hsome => ?_) htidy.rejected
          id id
        by_cases hown : streamId = own
        case pos =>
          subst hown
          exact hlive
        case neg => exact htidy.bytes (by simpa [hown] using hsome)
      dsimp only
      split
      case isFalse => exact hcounted _
      case isTrue =>
        have hcancelled := (hcounted ((handler.streamBodyBytes own).getD 0 + body.data.length)).cancel
          own (by decide : Cancellation.tooLarge ≠ .reset)
        apply Tidy.sendRequestTooLarge
        · exact hcancelled.frame rfl rfl (fun hmem => Finset.mem_of_mem_erase hmem) id id id id
        · exact hfiled
        · exact live_cancel (by decide) hlive

variable (handler) in
/-- A reset clears the tables of the stream; its task may be cancelled by that. -/
theorem dispatchReset_eq (own : ℕ) : ∃ (cancelled : StreamTask → Option Cancellation) (fates : _),
    handler.dispatchReset own = { handler with
      streamTasks := handler.streamTasks.erase own
      streamBodyBytes := Function.update handler.streamBodyBytes own none
      streamBodyRejected := handler.streamBodyRejected.erase own
      tasks := Function.update handler.tasks own ((handler.tasks own).map fun task =>
        { task with cancelled := cancelled task })
      fates } := by
  rw [Handler.dispatchReset]
  split
  case isTrue => exact ⟨fun task => task.cancelled.or (some .reset), _, rfl⟩
  case isFalse =>
    refine ⟨fun task => task.cancelled, handler.fates, ?_⟩
    simp

/-- A reset. The connection has dropped the stream when it was read. -/
theorem Tidy.dispatchReset (htidy : Tidy handler unseen streamId) {own : ℕ}
    (hentry : streamId = own → handler.h2.streams streamId = none) :
    Tidy (handler.dispatchReset own) unseen streamId := by
  obtain ⟨cancelled, fates, heq⟩ := handler.dispatchReset_eq own
  rw [heq]
  by_cases hown : streamId = own
  case neg =>
    apply htidy.frame
    · exact Function.update_of_ne hown ..
    · rfl
    · exact fun hmem => Finset.mem_of_mem_erase hmem
    · simp [hown]
    · exact fun hmem => Finset.mem_of_mem_erase hmem
    · exact id
    · exact id
  case pos =>
    subst hown
    constructor
    case registered => exact fun hmem => absurd rfl (Finset.mem_erase.mp hmem).1
    case bytes => exact fun hsome => by simp at hsome
    case rejected => exact fun hmem => absurd rfl (Finset.mem_erase.mp hmem).1
    case entry =>
      intro hsome
      rw [hentry rfl] at hsome
      cases hsome
    case scheduled =>
      intro hmentions
      obtain ⟨task, htask, hstarted⟩ := htidy.scheduled hmentions
      exact ⟨{ task with cancelled := cancelled task }, by simp [htask], hstarted⟩
    case begun =>
      intro task htask
      simp only [Function.update_self, Option.map_eq_some_iff] at htask
      obtain ⟨before, hbefore, rfl⟩ := htask
      exact htidy.begun before hbefore

/-- An event that is no request refused by its declared length. -/
theorem Tidy.dispatchEvent (htracked : ∀ streamId, Tracked view handler (event :: events) streamId)
    (htidy : ∀ streamId, Tidy handler (event :: unseen) streamId)
    (hfiled : handler.scheduler.Filed)
    (hdeclared : ∀ own request, event = .requestReceived own request →
      contentLengthExceedsLimit env.config.maxRequestSize request = false) (streamId : ℕ) :
    Tidy (handler.dispatchEvent env event).1 unseen streamId := by
  cases event with
  | requestReceived own request =>
      rw [Handler.dispatchEvent, hdeclared own request rfl]
      exact Tidy.createTask (htracked streamId) (htidy streamId) (by simp [H2Event.isRequest])
        rfl rfl
  | webSocketRequest own request path =>
      exact Tidy.createTask (htracked streamId) (htidy streamId) (by simp [H2Event.isRequest])
        rfl rfl
  | bodyReceived own body =>
      exact ((htidy streamId).tail rfl).dispatchBody hfiled (htidy own).registered body
  | streamReset own errorCode =>
      apply ((htidy streamId).tail rfl).dispatchReset
      rintro rfl
      exact (htracked streamId).reset (by simp [H2Event.isReset])
  | windowUpdated | goAway => exact (htidy streamId).tail rfl

/-! ## Every step -/

variable (env) in
/-- The scheduler stays in order. -/
theorem filed_dispatchEvent (hfiled : handler.scheduler.Filed) (event : H2Event) :
    (handler.dispatchEvent env event).1.scheduler.Filed := by
  have htooLarge : ∀ (handler : Handler Conn) (own : ℕ), handler.scheduler.Filed →
      (handler.sendRequestTooLarge env own).1.scheduler.Filed := by
    intro handler own hfiled
    obtain ⟨conn, sent, -, heq | heq⟩ := sendRequestTooLarge_cases env handler own <;> rw [heq]
    · exact hfiled
    · exact hfiled.removeStream own
  cases event with
  | requestReceived own request =>
      rw [Handler.dispatchEvent]
      split
      case isTrue => exact htooLarge _ _ hfiled
      case isFalse => exact hfiled
  | bodyReceived own body =>
      rw [Handler.dispatchEvent, Handler.dispatchBody]
      split
      case isTrue => exact hfiled
      case isFalse =>
        split
        case isFalse => exact hfiled
        case isTrue =>
          dsimp only
          split
          case isTrue => exact htooLarge _ _ hfiled
          case isFalse => exact hfiled
  | streamReset own errorCode =>
      obtain ⟨cancelled, fates, heq⟩ := handler.dispatchReset_eq own
      rw [Handler.dispatchEvent, heq]
      exact hfiled
  | webSocketRequest | windowUpdated | goAway => exact hfiled

/-- What holds of a connection all along. -/
structure Kept (view : View Conn) (handler : Handler Conn) : Prop where
  tracked : ∀ streamId, Tracked view handler handler.pending streamId
  filed : handler.scheduler.Filed
  tidy : ∀ streamId, Tidy handler handler.unprocessed streamId

/-- The loop may be left. -/
theorem Tidy.leave (htidy : Tidy handler unseen streamId) (cause : Cause) :
    Tidy (handler.leave cause) unseen streamId := by
  apply htidy.mono
  · rw [Handler.leave]
    apply rel_alike_map
    intro task
    split
    case isTrue => exact alike_cancelled (by decide) task
    case isFalse => exact .refl task
  · rfl
  · exact htidy.registered
  · exact htidy.bytes
  · exact htidy.rejected
  · exact id
  · exact id

variable (env) in
/-- The next event of a read: the rest is still to be dispatched, or skipped. -/
theorem tidy_dispatchNext
    (htracked : ∀ streamId, Tracked view handler (event :: events) streamId)
    (htidy : ∀ streamId, Tidy handler (event :: events ++ handler.skipped) streamId)
    (hfiled : handler.scheduler.Filed)
    (hdeclared : ∀ own request, event = .requestReceived own request →
      contentLengthExceedsLimit env.config.maxRequestSize request = false) :
    (handler.dispatchNext env event events).scheduler.Filed ∧
      ∀ streamId, Tidy (handler.dispatchNext env event events)
        (handler.dispatchNext env event events).unprocessed streamId := by
  have hevent : ∀ streamId, Tidy (handler.dispatchEvent env event).1
      (events ++ (handler.dispatchEvent env event).1.skipped) streamId := by
    rw [(loopKept_dispatchEvent env handler event).skipped]
    exact Tidy.dispatchEvent htracked htidy hfiled hdeclared
  have hnext := filed_dispatchEvent env hfiled event
  have hswap : ∀ (streamId : ℕ) (skipped : List H2Event),
      Requested streamId (events ++ skipped) → Requested streamId ([] ++ (skipped ++ events)) := by
    intro streamId skipped
    rw [Requested, Requested, List.any_append, List.nil_append, List.any_append, Bool.or_comm]
    exact id
  rw [Handler.dispatchNext]
  split
  case h_1 raised hraised =>
    rw [hraised] at hevent hnext
    refine ⟨hnext, fun streamId => ?_⟩
    have hleft := ((hevent streamId).moved raised.loop (raised.dispatched ++ [event])
      (raised.skipped ++ events)).leave .failed
    exact hleft.weaken (hswap streamId _)
  case h_2 done hdone =>
    rw [hdone] at hevent hnext
    dsimp only
    split
    case h_1 =>
      refine ⟨hnext, fun streamId => ?_⟩
      exact ((hevent streamId).moved .draining _ _).weaken (hswap streamId _)
    case h_2 => exact ⟨hnext, fun streamId => (hevent streamId).moved (.dispatching events) _ _⟩

/-- A read. -/
theorem tidy_receive {conn : Conn} {libraryEvents : List LibraryEvent} {data : Bytes}
    {h2 : H2Connection Conn} (hobeys : env.codec.Obeys view)
    (htidy : Tidy handler handler.skipped streamId)
    (hparsed : env.codec.receiveData handler.h2.conn data = some (conn, libraryEvents))
    (hreceived : { handler.h2 with conn }.receiveData env.codec.toLibrary libraryEvents =
      some (h2, events)) :
    Tidy { handler with h2, loop := .dispatching events } (events ++ handler.skipped) streamId where
  registered := htidy.registered
  bytes := htidy.bytes
  rejected := htidy.rejected
  entry hsome := by
    rcases receive_made hobeys hparsed hreceived hsome with hbefore | hrequested
    · rcases htidy.entry hbefore with hlive | hskipped
      · exact .inl hlive
      · exact .inr (by rw [Requested, List.any_append, hskipped, Bool.or_true])
    · exact .inr (by rw [Requested, List.any_append, hrequested, Bool.true_or])
  scheduled := htidy.scheduled
  begun := htidy.begun

/-- A task that is done, when nothing is kept of its stream. -/
theorem Tidy.dropTask (htidy : Tidy handler unseen streamId) {own : ℕ}
    (hnot : streamId = own → ¬ handler.Live streamId)
    (hscheduled : streamId = own → ¬ handler.scheduler.Mentions streamId) :
    Tidy (handler.dropTask own) unseen streamId := by
  by_cases hown : streamId = own
  case neg => exact htidy.frame (dropTask_tasks_of_ne _ _ hown) rfl id id id id id
  case pos =>
    subst hown
    have hdead := hnot rfl
    constructor
    case registered => exact fun hmem => absurd (htidy.registered hmem) hdead
    case bytes => exact fun hsome => absurd (htidy.bytes hsome) hdead
    case rejected => exact fun hmem => absurd (htidy.rejected hmem) hdead
    case entry => exact fun hsome => .inr ((htidy.entry hsome).resolve_left hdead)
    case scheduled => exact fun hmentions => absurd hmentions (hscheduled rfl)
    case begun =>
      intro task htask
      rw [dropTask_tasks_self] at htask
      cases htask

/-- The `finally` of a task, and its end. -/
theorem Tidy.cleanUp (htidy : Tidy handler unseen streamId) (hfiled : handler.scheduler.Filed)
    (own : ℕ) : Tidy ((handler.cleanUp own).dropTask own) unseen streamId := by
  by_cases hown : streamId = own
  case neg =>
    apply htidy.frame
    · exact dropTask_tasks_of_ne _ _ hown
    · rfl
    · exact fun hmem => Finset.mem_of_mem_erase hmem
    · intro hsome
      rwa [show ((handler.cleanUp own).dropTask own).streamBodyBytes streamId =
        handler.streamBodyBytes streamId from Function.update_of_ne hown ..] at hsome
    · exact fun hmem => Finset.mem_of_mem_erase hmem
    · intro hsome
      rwa [show ((handler.cleanUp own).dropTask own).h2.streams streamId =
        handler.h2.streams streamId from Function.update_of_ne hown ..] at hsome
    · exact fun hmentions => (hfiled.mentions_removeStream hmentions).2
  case pos =>
    subst hown
    constructor
    case registered => exact fun hmem => absurd rfl (Finset.mem_erase.mp hmem).1
    case bytes =>
      intro hsome
      rw [show ((handler.cleanUp streamId).dropTask streamId).streamBodyBytes streamId = none
        from Function.update_self ..] at hsome
      cases hsome
    case rejected => exact fun hmem => absurd rfl (Finset.mem_erase.mp hmem).1
    case entry =>
      intro hsome
      rw [show ((handler.cleanUp streamId).dropTask streamId).h2.streams streamId = none
        from Function.update_self ..] at hsome
      cases hsome
    case scheduled =>
      exact fun hmentions => absurd rfl (hfiled.mentions_removeStream hmentions).1
    case begun =>
      intro task htask
      rw [dropTask_tasks_self] at htask
      cases htask

/-- The first step of a task whose scope can be built. -/
theorem tidy_start (htidy : ∀ streamId, Tidy handler unseen streamId)
    (hfiled : handler.scheduler.Filed) {own : ℕ} {task : StreamTask}
    (htask : handler.tasks own = some task) (hstarted : task.started = false)
    (hscope : (buildScope env task).toBool = true) :
    (handler.start env own task).scheduler.Filed ∧
      ∀ streamId, Tidy (handler.start env own task) unseen streamId := by
  rw [Handler.start]
  split
  case h_1 hfails =>
    rw [hfails] at hscope
    cases hscope
  case h_2 =>
    have hscheduler : ∀ scheduler : PriorityScheduler,
        (∀ streamId, scheduler.Mentions streamId →
          streamId = own ∧ task.webSocket = false ∨ handler.scheduler.Mentions streamId) →
        ∀ streamId, Tidy { handler with
          scheduler
          tasks := Function.update handler.tasks own (some { task with started := true })
          begun := Function.update handler.begun own (some task.webSocket) } unseen streamId := by
      intro scheduler hmentions streamId
      by_cases hown : streamId = own
      case neg =>
        apply (htidy streamId).frame
        · exact Function.update_of_ne hown ..
        · exact Function.update_of_ne hown ..
        · exact id
        · exact id
        · exact id
        · exact id
        · exact fun hmention => (hmentions streamId hmention).resolve_left fun hor => hown hor.1
      case pos =>
        subst hown
        have hlive : handler.Live streamId → Live { handler with
            scheduler
            tasks := Function.update handler.tasks streamId (some { task with started := true })
            begun := Function.update handler.begun streamId (some task.webSocket) } streamId := by
          rintro ⟨before, hbefore, hnot⟩
          obtain rfl := Option.some.inj (htask.symm.trans hbefore)
          exact ⟨_, Function.update_self .., hnot⟩
        constructor
        case registered => exact fun hmem => hlive ((htidy streamId).registered hmem)
        case bytes => exact fun hsome => hlive ((htidy streamId).bytes hsome)
        case rejected => exact fun hmem => hlive ((htidy streamId).rejected hmem)
        case entry => exact fun hsome => ((htidy streamId).entry hsome).imp_left hlive
        case scheduled =>
          intro hmention
          refine ⟨_, Function.update_self .., rfl, ?_⟩
          rcases hmentions streamId hmention with ⟨-, hwebSocket⟩ | hbefore
          · exact hwebSocket
          · obtain ⟨before, hbefore, hran, -⟩ := (htidy streamId).scheduled hbefore
            obtain rfl := Option.some.inj (htask.symm.trans hbefore)
            rw [hstarted] at hran
            cases hran
        case begun =>
          intro after hafter
          simp only [Function.update_self, Option.some.injEq] at hafter
          subst hafter
          simp
    dsimp only
    split
    case h_1 value hwebSocket _ =>
      refine ⟨hfiled.setPriority _ _, hscheduler _ fun streamId hmention => ?_⟩
      exact (PriorityScheduler.mentions_setPriority hmention).imp_left fun hown => ⟨hown, hwebSocket⟩
    case h_2 => exact ⟨hfiled, hscheduler _ fun streamId hmention => .inr hmention⟩

/-- A send changes no table. -/
theorem Tidy.touched (htidy : Tidy handler unseen streamId) (htouched : Touched handler next)
    (hdropped : Dropped view handler next streamId) : Tidy next unseen streamId := by
  obtain ⟨h2, sent, rfl⟩ := htouched
  refine htidy.frame rfl rfl id id id (fun hsome => ?_) id
  rcases hdropped with hsame | ⟨hnone, -⟩
  · rwa [← hsame]
  · rw [hnone] at hsome
    cases hsome

/-- A call of a task. Only a task that is at work schedules its stream. -/
theorem tidy_call (hobeys : env.codec.Obeys view) (htidy : ∀ streamId, Tidy handler unseen streamId)
    (hfiled : handler.scheduler.Filed) {own : ℕ} {webSocket : Bool} {call : Call}
    (hbegun : handler.begun own = some webSocket)
    (hscheduled : call = .schedule → (handler.tasks own).isSome)
    (hcall : handler.call env own webSocket call = some next) :
    next.scheduler.Filed ∧ ∀ streamId, Tidy next unseen streamId := by
  have hsent : ∀ {next : Handler Conn}, Touched handler next →
      (∀ streamId, Dropped view handler next streamId) →
        next.scheduler.Filed ∧ ∀ streamId, Tidy next unseen streamId := by
    intro next htouched hdropped
    refine ⟨?_, fun streamId => (htidy streamId).touched htouched (hdropped streamId)⟩
    obtain ⟨h2, sent, rfl⟩ := htouched
    exact hfiled
  cases call with
  | respond status =>
      obtain rfl := Option.some.inj hcall
      refine ⟨hfiled, fun streamId => ?_⟩
      refine (htidy streamId).mono ?_ rfl (htidy streamId).registered (htidy streamId).bytes
        (htidy streamId).rejected id id
      by_cases hown : streamId = own
      case pos =>
        subst hown
        have halike : ∀ task : StreamTask, Alike task { task with status } :=
          fun task => ⟨rfl, rfl, id⟩
        simp only [Function.update_self]
        exact rel_alike_map halike _
      case neg =>
        simp only [Function.update_of_ne hown]
        exact rel_alike_refl _
  | schedule =>
      rw [Handler.call] at hcall
      split at hcall
      case isTrue => cases hcall
      case isFalse hnot =>
        obtain rfl := Option.some.inj hcall
        refine ⟨hfiled.schedule own, fun streamId => ?_⟩
        constructor
        case registered => exact (htidy streamId).registered
        case bytes => exact (htidy streamId).bytes
        case rejected => exact (htidy streamId).rejected
        case entry => exact (htidy streamId).entry
        case begun => exact (htidy streamId).begun
        case scheduled =>
          intro hmention
          rcases PriorityScheduler.mentions_schedule hmention with rfl | hbefore
          · obtain ⟨task, htask⟩ := Option.isSome_iff_exists.mp (hscheduled rfl)
            have hkind := (htidy streamId).begun task htask
            rw [hbegun] at hkind
            split at hkind
            case isTrue hstarted =>
              refine ⟨task, htask, hstarted, ?_⟩
              rw [← Option.some.inj hkind]
              exact Bool.eq_false_iff.mpr hnot
            case isFalse => cases hkind
          · exact (htidy streamId).scheduled hbefore
  | unschedule =>
      rw [Handler.call] at hcall
      split at hcall
      case isTrue => cases hcall
      case isFalse =>
        obtain rfl := Option.some.inj hcall
        refine ⟨hfiled.unschedule own, fun streamId => ?_⟩
        exact (htidy streamId).frame rfl rfl id id id id PriorityScheduler.mentions_unschedule
  | markWrote =>
      rw [Handler.call] at hcall
      split at hcall
      case isTrue => cases hcall
      case isFalse =>
        obtain rfl := Option.some.inj hcall
        constructor
        · cases hmark : handler.scheduler.markWrote own with
          | none => exact hfiled
          | some scheduler => exact hfiled.markWrote hmark
        · intro streamId
          exact (htidy streamId).frame rfl rfl id id id id PriorityScheduler.mentions_markWrote
  | sendHeaders status headers endStream =>
      obtain rfl := Option.some.inj hcall
      exact hsent (touched_sendHeaders ..) fun _ => dropped_sendHeaders ..
  | sendData data endStream =>
      obtain rfl := Option.some.inj hcall
      exact hsent (touched_sendData ..) fun _ => dropped_sendData ..
  | resetStream errorCode =>
      obtain rfl := Option.some.inj hcall
      exact hsent (touched_resetStream ..) fun _ => dropped_resetStream hobeys ..

/-- The end of a task that has a `finally`, or whose stream was reset. -/
theorem tidy_finish (hobeys : env.codec.Obeys view)
    (htidy : ∀ streamId, Tidy handler unseen streamId) (hfiled : handler.scheduler.Filed) {own : ℕ}
    {task : StreamTask} (htask : handler.tasks own = some task)
    (hallowed : (task.started && !task.webSocket || task.cancelled = some .reset) = true)
    (ending : Ending) :
    (handler.finish env own task ending).scheduler.Filed ∧
      ∀ streamId, Tidy (handler.finish env own task ending) unseen streamId := by
  obtain ⟨answered, hconcluded, heq⟩ := finish_eq env handler own task ending
  rw [heq]
  split
  case isTrue =>
    have hanswered : answered.scheduler.Filed := by
      obtain ⟨h2, sent, rfl⟩ := hconcluded.touched
      exact hfiled
    refine ⟨hanswered.removeStream own, fun streamId => ?_⟩
    have hdropped := concluded_dropped hobeys hconcluded streamId
    exact ((htidy streamId).touched hconcluded.touched hdropped).cleanUp hanswered own
  case isFalse hbare =>
    refine ⟨hfiled, fun streamId => (htidy streamId).dropTask ?_ ?_⟩
    · rintro rfl ⟨before, hbefore, hnot⟩
      obtain rfl := Option.some.inj (htask.symm.trans hbefore)
      rw [Bool.or_eq_true, Bool.and_eq_true, Bool.not_eq_true', decide_eq_true_eq] at hallowed
      rcases hallowed with ⟨hstarted, hwebSocket⟩ | hreset
      · exact hbare ⟨hstarted, by simp [hwebSocket]⟩
      · exact hnot hreset
    · rintro rfl hmention
      obtain ⟨before, hbefore, hstarted, hwebSocket⟩ := (htidy streamId).scheduled hmention
      obtain rfl := Option.some.inj (htask.symm.trans hbefore)
      exact hbare ⟨hstarted, by simp [hwebSocket]⟩

/-- What is unprocessed is the loop's. -/
theorem unprocessed_congr (hkept : LoopKept handler next) :
    next.unprocessed = handler.unprocessed := by
  rw [unprocessed, unprocessed, pending_congr hkept.loop, hkept.skipped]

/-- Every step keeps the tables tidy. -/
theorem kept_step (hobeys : env.codec.Obeys view) {action : Action} (hkept : Kept view handler)
    (hallowed : tidies env handler action = true)
    (hstep : handler.step env action = some next) : Kept view next := by
  have htracked : ∀ streamId, Tracked view next next.pending streamId :=
    fun streamId => tracked_step hobeys (hkept.tracked streamId) hstep
  obtain ⟨htrackedBefore, hfiled, htidy⟩ := hkept
  have hleave : ∀ cause, handler.pending = [] → handler.leave cause = next → Kept view next := by
    rintro cause hnone rfl
    refine ⟨htracked, hfiled, fun streamId => ?_⟩
    have hsame : handler.unprocessed = (handler.leave cause).unprocessed := by
      rw [unprocessed, hnone]
      rfl
    rw [← hsame]
    exact (htidy streamId).leave cause
  have hmoved : ∀ loop, handler.pending = [] → pending { handler with loop } = [] →
      { handler with loop } = next → Kept view next := by
    rintro loop hnone hstill rfl
    refine ⟨htracked, hfiled, fun streamId => ?_⟩
    rw [unprocessed, hstill]
    have hbefore := htidy streamId
    rw [unprocessed, hnone] at hbefore
    exact hbefore.moved loop _ _
  cases action with
  | read data =>
      obtain ⟨hreading, hnext⟩ := Machine.of_guard hstep
      have hnone : handler.pending = [] := by rw [pending, hreading]
      rw [receive] at hnext
      split at hnext
      case h_1 => exact hleave .invalid hnone hnext
      case h_2 conn libraryEvents hparsed =>
        split at hnext
        case h_1 => exact hleave .failed hnone hnext
        case h_2 h2 events hreceived =>
          subst hnext
          refine ⟨htracked, hfiled, fun streamId => ?_⟩
          have hbefore := htidy streamId
          rw [unprocessed, hnone] at hbefore
          exact tidy_receive hobeys hbefore hparsed hreceived
  | readFails =>
      obtain ⟨hreading, hnext⟩ := Machine.of_guard hstep
      exact hleave .disconnected (by rw [pending, hreading]) hnext
  | readTimeout =>
      obtain ⟨hreading, hnext⟩ := Machine.of_guard hstep
      split at hnext
      case isTrue => exact hleave .idle (by rw [pending, hreading]) hnext
      case isFalse =>
        subst hnext
        exact ⟨htracked, hfiled, htidy⟩
  | dispatch =>
      rw [step] at hstep
      rw [tidies] at hallowed
      split at hstep
      case h_1 hloop =>
        exact hmoved .draining (by rw [pending, hloop]) rfl (Option.some.inj hstep)
      case h_2 event events hloop =>
        obtain rfl := Option.some.inj hstep
        have hpending : handler.pending = event :: events := by rw [pending, hloop]
        rw [hpending] at htrackedBefore
        simp only [unprocessed, hpending] at htidy
        obtain ⟨hnext, htidied⟩ := tidy_dispatchNext env htrackedBefore htidy hfiled (by
          rintro own request rfl
          rw [hloop] at hallowed
          exact (Bool.not_eq_true' _).mp hallowed)
        exact ⟨htracked, hnext, htidied⟩
      case h_3 => cases hstep
  | drained =>
      obtain ⟨hdraining, hnext⟩ := Machine.of_guard hstep
      have hnone : handler.pending = [] := by rw [pending, hdraining]
      split at hnext
      case isTrue => exact hleave .goAway hnone hnext
      case isFalse => exact hmoved .reading hnone rfl hnext
  | drainFails =>
      obtain ⟨hdraining, hnext⟩ := Machine.of_guard hstep
      exact hleave .disconnected (by rw [pending, hdraining]) hnext
  | start own =>
      obtain ⟨task, htask, hguard⟩ := Option.bind_eq_some_iff.mp hstep
      obtain ⟨⟨-, hstarted, -⟩, rfl⟩ := Machine.of_guard hguard
      have hscope : (buildScope env task).toBool = true := by simpa [tidies, htask] using hallowed
      obtain ⟨hnext, htidied⟩ := tidy_start htidy hfiled htask hstarted hscope
      rw [← unprocessed_congr (loopKept_start env handler own task)] at htidied
      exact ⟨htracked, hnext, htidied⟩
  | call own call =>
      obtain ⟨webSocket, hbegun, hguard⟩ := Option.bind_eq_some_iff.mp hstep
      obtain ⟨-, hcall⟩ := Option.ite_none_right_eq_some.mp hguard
      obtain ⟨hnext, htidied⟩ := tidy_call hobeys htidy hfiled hbegun (by
        rintro rfl
        exact hallowed) hcall
      rw [← unprocessed_congr (call_kept hcall).1] at htidied
      exact ⟨htracked, hnext, htidied⟩
  | finish own ending =>
      obtain ⟨task, htask, hguard⟩ := Option.bind_eq_some_iff.mp hstep
      obtain ⟨-, rfl⟩ := Machine.of_guard hguard
      have hends : (task.started && !task.webSocket || task.cancelled = some .reset) = true := by
        simpa [tidies, htask] using hallowed
      obtain ⟨hnext, htidied⟩ := tidy_finish hobeys htidy hfiled htask hends ending
      rw [← unprocessed_congr (loopKept_finish env handler own task ending)] at htidied
      exact ⟨htracked, hnext, htidied⟩

/-- A stream that is tidy, has no task and no event that was not dispatched leaves no trace. -/
theorem Tidy.not_mentions (htidy : Tidy handler unseen streamId)
    (hdone : handler.tasks streamId = none)
    (hprocessed : ∀ event ∈ unseen, event.streamId? ≠ some streamId) :
    ¬ handler.Mentions streamId := by
  have hdead : ¬ handler.Live streamId := by
    rintro ⟨task, htask, -⟩
    cases hdone.symm.trans htask
  rintro (hmem | hbytes | hrejected | hentry | hmentions)
  · exact hdead (htidy.registered hmem)
  · exact hdead (htidy.bytes hbytes)
  · exact hdead (htidy.rejected hrejected)
  · obtain ⟨event, hmem, hrequest⟩ := List.any_eq_true.mp ((htidy.entry hentry).resolve_left hdead)
    exact hprocessed event hmem (streamId?_of_isRequest hrequest)
  · obtain ⟨task, htask, -⟩ := htidy.scheduled hmentions
    cases hdone.symm.trans htask

/-- In every run in which each stream comes to an end that clears it, the tables mention no
stream whose task is done and whose events are processed; and a connection without a task is
closed when no read comes. -/
theorem tables_clean {Conn : Type} (env : Env Conn) {view : View Conn}
    (hobeys : env.codec.Obeys view) {conn : Conn}
    (hidle : ∀ streamId, view.phase conn streamId = .idle) {handler : Handler Conn}
    (hreach : (handlerMachine env conn).Reach
      (fun handler action => tidies env handler action = true) handler) :
    handler.Clean ∧ ((∀ streamId, handler.tasks streamId = none) → handler.loop = .reading →
      handler.step env .readTimeout = some (handler.leave .idle)) := by
  have hkept : Kept view handler := by
    apply hreach.invariant
    · rintro handler rfl
      refine ⟨tracked_init hidle, PriorityScheduler.filed_empty, fun streamId => ?_⟩
      constructor
      case registered => exact fun hnot => absurd hnot (Finset.notMem_empty streamId)
      case bytes => exact fun hnot => by cases hnot
      case rejected => exact fun hnot => absurd hnot (Finset.notMem_empty streamId)
      case entry => exact fun hnot => by cases hnot
      case begun => exact fun task hnot => by cases hnot
      case scheduled =>
        rintro (hpriority | ⟨priority, hmem⟩)
        · simp at hpriority
        · rw [PriorityScheduler.readyQueue] at hmem
          split at hmem <;> cases hmem
    · exact fun handler action next hkept hallowed hstep => kept_step hobeys hkept hallowed hstep
  constructor
  · exact fun streamId => (hkept.tidy streamId).not_mentions
  · intro hdone hreading
    have hempty : handler.streamTasks = ∅ := by
      rw [Finset.eq_empty_iff_forall_notMem]
      intro streamId hmem
      obtain ⟨task, htask, -⟩ := (hkept.tidy streamId).registered hmem
      cases (hdone streamId).symm.trans htask
    rw [step, if_pos hreading, if_pos hempty]

end Handler

/-! ## A request and a WebSocket -/

/-- The head of a request for a WebSocket. -/
def socketHead : List Header :=
  [(ascii ":method", ascii "CONNECT"), (ascii ":protocol", ascii "websocket"),
    (ascii ":path", ascii "/"), (ascii ":scheme", ascii "https"), (ascii ":authority", ascii "a")]

/-- The first byte stands for a request, the second for a WebSocket. -/
def mixedEnv : Env SmallConn where
  codec := smallH2
    [([1], [.requestReceived 1 pageHead true, .streamEnded 1]),
      ([2], [.requestReceived 3 socketHead false])]

/-- The request is served. -/
def mixedServed : List Handler.Action :=
  [.read [1], .dispatch, .dispatch, .dispatch, .drained, .start 1, .call 1 .schedule,
    .call 1 (.sendHeaders 200 [] true), .call 1 .unschedule, .finish 1 .returned]

/-- The WebSocket is accepted, and its application returns. -/
def mixedSocket : List Handler.Action :=
  [.read [2], .dispatch, .dispatch, .drained, .start 3, .call 3 (.sendHeaders 200 [] false),
    .call 3 (.sendData (ascii "bye") true), .finish 3 .returned]

/-- What is left of a stream: its task, its place in the table of tasks and its entry. -/
def mixedLeft (streamId : ℕ) (actions : List Handler.Action) :
    Option (Loop × Bool × Bool × Bool × Bool) :=
  ((handlerMachine mixedEnv idleConn).run { h2 := { conn := idleConn } } actions).map fun handler =>
    (handler.loop, (handler.tasks streamId).isSome, streamId ∈ handler.streamTasks,
      (handler.h2.streams streamId).isSome, handler.unprocessed.isEmpty)

set_option maxRecDepth 8000 in
theorem mixedLeft_served : mixedLeft 1 mixedServed = some (.reading, false, false, false, true) := by
  decide

set_option maxRecDepth 8000 in
theorem mixedLeft_socket : mixedLeft 3 mixedSocket = some (.reading, false, true, true, true) := by
  decide

theorem tables_clean_served :
    ∃ handler, (handlerMachine mixedEnv idleConn).run { h2 := { conn := idleConn } } mixedServed =
      some handler ∧ handler.Clean := by
  obtain ⟨handler, hrun, -⟩ := Option.map_eq_some_iff.mp mixedLeft_served
  have hguarded : (handlerMachine mixedEnv idleConn).Along
      (fun handler action => handler.tidies mixedEnv action = true)
      { h2 := { conn := idleConn } } mixedServed :=
    Machine.along_of_guarded (by decide)
  exact ⟨handler, hrun, (Handler.tables_clean mixedEnv (smallH2_obeys _) (fun _ => rfl)
    (Machine.Reach.run (.init rfl) hguarded hrun)).1⟩

/-- A WebSocket stays in the tables when its task is done. -/
theorem tables_socket :
    ¬ ∀ handler, (handlerMachine mixedEnv idleConn).Reachable handler → handler.Clean := by
  intro hclaim
  obtain ⟨handler, hrun, hleft⟩ := Option.map_eq_some_iff.mp mixedLeft_socket
  obtain ⟨-, hdone, hmem, -, hempty⟩ : _ ∧ _ ∧ _ ∧ _ ∧ _ := by simpa using hleft
  have hclean := hclaim handler (Machine.reachable_run rfl hrun) 3 hdone
  apply hclean
  · rw [hempty]
    exact fun event hnot => absurd hnot List.not_mem_nil
  · exact .inl hmem

end Pounce.H2
