/-
# The requests of an HTTP/3 connection

Whether HEADERS bring a request or trailers is decided by the table of tasks, which a stream
leaves when its task is done or its request is rejected. The events that a connection has gone
through are recorded here with what became of each: a task was made, a message was put into
the queue of a task, the request was rejected, or nothing happened.

In runs where HEADERS without a task come once, trailers do not end a stream that was still
open, and no DATA follow the end, every stream is served or rejected once, and an application
whose request has ended finds the end at the end of its queue (`served`).
-/

import Pounce.H3.Isolation

namespace Pounce.H3

open Pounce.Math Pounce.Math.Bytes Pounce.Asgi

/-! ## What becomes of an event -/

/-- The stream of an event. -/
def H3Event.streamId : H3Event → ℕ
  | .headersReceived streamId _ _ _ => streamId
  | .dataReceived streamId _ _ => streamId

/-- The event ends its stream. -/
def H3Event.endStream : H3Event → Bool
  | .headersReceived _ _ endStream _ => endStream
  | .dataReceived _ _ endStream => endStream

/-- What becomes of an event. -/
inductive Outcome where
  /-- A task was made for a request. -/
  | created (id : ℕ)
  /-- A message was put into the queue of a task. -/
  | queued (id : ℕ)
  /-- The handler has answered itself. -/
  | rejected
  | ignored
  deriving DecidableEq, Repr

/-- An event, and what became of it. -/
structure Note where
  event : H3Event
  outcome : Outcome
  deriving DecidableEq, Repr

/-- The message an event puts into the queue of a task. -/
def Note.message (id : ℕ) (note : Note) : Option BodyReceived :=
  match note.event, note.outcome with
  | .headersReceived _ _ endStream _, .created own =>
      if own = id ∧ endStream = true then some { data := [], more := false } else none
  | .dataReceived _ data endStream, .queued own =>
      if own = id then some { data, more := !endStream } else none
  | _, _ => none

/-- What has been put into the queue of a task. -/
def queueOf (id : ℕ) (history : List Note) : List BodyReceived := history.filterMap (·.message id)

/-- A task was made for a request on the stream. -/
def Note.creates (streamId : ℕ) (note : Note) : Bool :=
  note.event.streamId = streamId && match note.outcome with | .created _ => true | _ => false

/-- A request on the stream was rejected. -/
def Note.rejects (streamId : ℕ) (note : Note) : Bool :=
  note.event.streamId = streamId && note.outcome = .rejected

/-- The last event of the stream has ended it. -/
def peerEnded (streamId : ℕ) (history : List Note) : Bool :=
  (history.filter (·.event.streamId = streamId)).getLast?.any (·.event.endStream)

/-- The queue holds one end, and holds it last. -/
def Terminated (queue : List BodyReceived) : Prop :=
  ∃ before last, queue = before ++ [last] ∧ last.more = false ∧ ∀ body ∈ before, body.more = true

namespace Handler

variable {Conn Datum : Type} (env : Env Conn Datum) (handler : Handler Conn Datum)

/-- What `_handle_headers` and `_handle_data` do with an event, queues included. -/
def outcome : H3Event → Outcome
  | .headersReceived streamId headers _ is0rtt =>
      if (handler.streamTasks streamId).isSome then .ignored
      else if handler.draining then .rejected
      else
        match buildH3Scope env.config env.client env.server headers with
        | .error (.pseudoHeader _) => .rejected
        | .error (.raised _) => .ignored
        | .ok scope =>
            if is0rtt ∧ scope.method ∈ unsafeMethods then .rejected
            else if exceedsLimit env.config.maxRequestSize scope.headers then .rejected
            else .created handler.nextTask
  | .dataReceived streamId data _ =>
      match handler.streamTasks streamId with
      | none => .ignored
      | some id =>
          if streamId ∈ handler.streamBodyEnded then .ignored
          else if env.config.maxRequestSize <
              (handler.streamBodyBytes streamId).getD 0 + data.length then .rejected
          else .queued id

/-- What is noted of an action. -/
def note : Action → Option Note
  | .dispatch =>
      match handler.pending.head? with
      | some (.h3 event) => some { event, outcome := handler.outcome env event }
      | _ => none
  | _ => none

end Handler

/-- A connection with what became of its events. -/
abbrev Recorded (Conn Datum : Type) := Machine.Recorded (Handler Conn Datum) Note

/-- A connection that keeps a record. -/
def recordedMachine {Conn Datum : Type} (env : Env Conn Datum) (conn : Conn) :
    Machine (Recorded Conn Datum) Action :=
  (handlerMachine env conn).recording fun handler action => handler.note env action

namespace Recorded

variable {Conn Datum : Type} (recorded : Recorded Conn Datum)

/-- A stream is served or rejected once, and the end of its request is in the queue of its
task. -/
structure Served (streamId : ℕ) : Prop where
  created : recorded.history.countP (·.creates streamId) ≤ 1
  rejected : recorded.history.countP (·.rejects streamId) ≤ 1
  ended : ∀ id, recorded.state.streamTasks streamId = some id →
    peerEnded streamId recorded.history = true → Terminated (queueOf id recorded.history)

/-- HEADERS on a stream without a task come once, trailers do not end a stream that was open,
and no DATA come after the end. -/
def Orderly : Action → Prop
  | .dispatch =>
      match recorded.state.pending.head? with
      | some (.h3 (.headersReceived streamId _ endStream _)) =>
          match recorded.state.streamTasks streamId with
          | some id => endStream = true →
              ∃ body ∈ queueOf id recorded.history, body.more = false
          | none => ∀ note ∈ recorded.history, note.event.streamId = streamId →
              note.outcome = .ignored
      | some (.h3 (.dataReceived streamId _ _)) =>
          ∀ id, recorded.state.streamTasks streamId = some id →
            ∀ body ∈ queueOf id recorded.history, body.more = true
      | _ => True
  | _ => True

end Recorded

/-! ## Records -/

variable {history : List Note} {note : Note} {streamId id : ℕ}

theorem queueOf_append (id : ℕ) (history : List Note) (note : Note) :
    queueOf id (history ++ [note]) = queueOf id history ++ (note.message id).toList := by
  rw [queueOf, List.filterMap_append, ← queueOf]
  cases hmessage : note.message id with
  | none | some => simp [hmessage]

theorem peerEnded_append (streamId : ℕ) (history : List Note) (note : Note) :
    peerEnded streamId (history ++ [note]) =
      if note.event.streamId = streamId then note.event.endStream
      else peerEnded streamId history := by
  rw [peerEnded, List.filter_append]
  split
  case isTrue hown => simp [hown]
  case isFalse hother => simp [hother, peerEnded]

theorem countP_append (test : Note → Bool) (history : List Note) (note : Note) :
    (history ++ [note]).countP test = history.countP test + if test note then 1 else 0 := by
  rw [List.countP_append]
  simp [List.countP_singleton]

/-! ## Tables -/

namespace Handler

variable {Conn Datum : Type} {env : Env Conn Datum} {handler next : Handler Conn Datum}

/-- Streams leave the tables, and no task is made. -/
structure Shrinks (handler next : Handler Conn Datum) : Prop where
  streamTasks : ∀ streamId id, next.streamTasks streamId = some id →
    handler.streamTasks streamId = some id
  streamBodyEnded : next.streamBodyEnded ⊆ handler.streamBodyEnded
  nextTask : next.nextTask = handler.nextTask

theorem shrinks_cancelStream (handler : Handler Conn Datum) (streamId : ℕ)
    (cancellation : Cancellation) : Shrinks handler (handler.cancelStream streamId cancellation) := by
  rw [cancelStream]
  split
  · exact ⟨fun _ _ => update_none_eq_some, Finset.erase_subset .., rfl⟩
  · exact ⟨fun _ _ => update_none_eq_some, Finset.erase_subset .., rfl⟩

theorem shrinks_cancelAllStreams (handler : Handler Conn Datum) :
    Shrinks handler handler.cancelAllStreams :=
  ⟨fun _ _ hnot => (by cases hnot), Finset.filter_subset .., rfl⟩

/-- A response changes no table. -/
theorem Answered.shrinks {streamId : ℕ} (hanswered : Answered streamId handler next) :
    Shrinks handler next := by
  obtain ⟨conn, sent, rfl⟩ := hanswered.sent.same
  exact ⟨fun _ _ hentry => hentry, Finset.Subset.refl _, rfl⟩

theorem shrinks_start (handler : Handler Conn Datum) (id : ℕ) (task : StreamTask) :
    Shrinks handler (handler.start env id task) := by
  rw [Handler.start]
  split
  case h_2 => exact ⟨fun _ _ hentry => hentry, Finset.Subset.refl _, rfl⟩
  case h_1 status headers body _ =>
    rw [serveBuiltin]
    generalize (if task.scope.method = "HEAD" then [] else body) = content
    have hresponse := (answered_respond env handler task.streamId status headers content).shrinks
    split
    case h_1 heq =>
      rw [heq] at hresponse
      exact ⟨hresponse.streamTasks, hresponse.streamBodyEnded, hresponse.nextTask⟩
    case h_2 heq =>
      rw [heq] at hresponse
      exact ⟨fun _ _ hentry => hresponse.streamTasks _ _ (update_none_eq_some hentry),
        hresponse.streamBodyEnded, hresponse.nextTask⟩

theorem shrinks_send (handler : Handler Conn Datum) (id : ℕ) (callable : SendCallable)
    (message : SendMessage) : Shrinks handler (handler.send env id callable message) := by
  obtain ⟨conn, sent, sends, heq⟩ := send_same env handler id callable message
  rw [heq]
  exact ⟨fun _ _ hentry => hentry, Finset.Subset.refl _, rfl⟩

theorem shrinks_finish (handler : Handler Conn Datum) (id : ℕ) (task : StreamTask)
    (ending : Ending) : Shrinks handler (handler.finish env id task ending) := by
  unfold Handler.finish
  split
  case isFalse => exact ⟨fun _ _ hentry => hentry, Finset.Subset.refl _, rfl⟩
  case isTrue =>
    obtain ⟨conn, sent, answered, heq⟩ := answerEnding_same env handler task.streamId
      (((handler.sends id).map (·.status)).getD 0) ending
    dsimp only
    rw [heq]
    exact ⟨fun _ _ hentry => update_none_eq_some hentry, Finset.erase_subset .., rfl⟩

/-- What is not noted only takes streams out of the tables. -/
theorem shrinks_step {action : Action} (hnote : handler.note env action = none)
    (hstep : handler.step env action = some next) : Shrinks handler next := by
  have hsame : Shrinks handler handler := ⟨fun _ _ hentry => hentry, Finset.Subset.refl _, rfl⟩
  cases action with
  | datagram data =>
      obtain ⟨-, rfl⟩ := Machine.of_guard hstep
      rw [datagramReceived]
      split
      · exact hsame
      · exact ⟨hsame.streamTasks, hsame.streamBodyEnded, rfl⟩
  | dispatch =>
      rw [step] at hstep
      split at hstep
      case h_1 => cases hstep
      case h_2 part rest hpending =>
        obtain rfl := Option.some.inj hstep
        rw [Handler.note, hpending, List.head?_cons] at hnote
        cases part with
        | h3 event => cases hnote
        | quic event =>
            cases event with
            | connectionClosed =>
                have hshrinks := shrinks_cancelAllStreams handler
                exact ⟨hshrinks.streamTasks, hshrinks.streamBodyEnded, rfl⟩
            | streamReset streamId =>
                have hshrinks := shrinks_cancelStream handler streamId .reset
                exact ⟨hshrinks.streamTasks, hshrinks.streamBodyEnded, hshrinks.nextTask⟩
            | streamDataReceived datum =>
                rw [dispatchNext]
                split
                · exact ⟨hsame.streamTasks, hsame.streamBodyEnded, rfl⟩
                · exact ⟨hsame.streamTasks, hsame.streamBodyEnded, rfl⟩
  | drain | prune =>
      obtain ⟨-, rfl⟩ := Machine.of_guard hstep
      exact ⟨hsame.streamTasks, hsame.streamBodyEnded, rfl⟩
  | close =>
      obtain ⟨-, rfl⟩ := Machine.of_guard hstep
      exact shrinks_cancelAllStreams handler
  | start id =>
      obtain ⟨task, -, hguard⟩ := Option.bind_eq_some_iff.mp hstep
      obtain ⟨-, rfl⟩ := Machine.of_guard hguard
      exact shrinks_start handler id task
  | send id message =>
      obtain ⟨callable, -, hguard⟩ := Option.bind_eq_some_iff.mp hstep
      obtain ⟨-, rfl⟩ := Machine.of_guard hguard
      exact shrinks_send handler id callable message
  | finish id ending =>
      obtain ⟨task, -, hguard⟩ := Option.bind_eq_some_iff.mp hstep
      obtain ⟨-, rfl⟩ := Machine.of_guard hguard
      exact shrinks_finish handler id task ending

/-- What an event does to the tables, by what becomes of it. -/
def Becomes (handler next : Handler Conn Datum) (streamId : ℕ) : Outcome → Prop
  | .created id => id = handler.nextTask ∧ next.nextTask = id + 1 ∧
      handler.streamTasks streamId = none ∧
      next.streamTasks = Function.update handler.streamTasks streamId (some id) ∧
      next.streamBodyEnded ⊆ handler.streamBodyEnded
  | .queued id => handler.streamTasks streamId = some id ∧ Shrinks handler next
  | .rejected => next.nextTask = handler.nextTask ∧
      (∀ other id, next.streamTasks other = some id →
        other ≠ streamId ∧ handler.streamTasks other = some id) ∧
      next.streamBodyEnded ⊆ insert streamId handler.streamBodyEnded
  | .ignored => Shrinks handler next

variable (env handler) in
/-- Whether an event raises makes no difference to the tables. -/
theorem dispatchNext_tables (event : H3Event) (rest : List (Pending Datum)) :
    (handler.dispatchNext env (.h3 event) rest).streamTasks =
        (handler.handleH3Event env event).1.streamTasks ∧
      (handler.dispatchNext env (.h3 event) rest).streamBodyEnded =
        (handler.handleH3Event env event).1.streamBodyEnded ∧
      (handler.dispatchNext env (.h3 event) rest).nextTask =
        (handler.handleH3Event env event).1.nextTask := by
  rw [dispatchNext]
  split <;> simp_all

/-- A stream without a task is answered. -/
theorem becomes_rejected {streamId : ℕ} {answered : Handler Conn Datum}
    (hnone : handler.streamTasks streamId = none) (hanswered : Answered streamId handler answered)
    (htasks : next.streamTasks = answered.streamTasks)
    (hended : next.streamBodyEnded ⊆ insert streamId answered.streamBodyEnded)
    (hnextTask : next.nextTask = answered.nextTask) : Becomes handler next streamId .rejected := by
  have hshrinks := hanswered.shrinks
  refine ⟨hnextTask.trans hshrinks.nextTask, fun other id hentry => ?_,
    hended.trans (Finset.insert_subset_insert _ hshrinks.streamBodyEnded)⟩
  rw [htasks] at hentry
  have hold := hshrinks.streamTasks other id hentry
  refine ⟨?_, hold⟩
  rintro rfl
  rw [hnone] at hold
  cases hold

variable (env handler) in
/-- `_handle_headers` does to the tables what becomes of the event. -/
theorem becomes_handleHeaders (streamId : ℕ) (headers : List Header) (endStream is0rtt : Bool) :
    Becomes handler (handler.handleHeaders env streamId headers is0rtt).1 streamId
      (handler.outcome env (.headersReceived streamId headers endStream is0rtt)) := by
  have hsame : Shrinks handler handler := ⟨fun _ _ hentry => hentry, Finset.Subset.refl _, rfl⟩
  rw [handleHeaders, outcome]
  split
  case isTrue => exact hsame
  case isFalse hregistered =>
    have hnone : handler.streamTasks streamId = none := by simpa using hregistered
    split
    case isTrue =>
      rw [sendServiceUnavailable]
      exact becomes_rejected hnone (answered_respond ..) rfl (Finset.subset_insert ..) rfl
    case isFalse =>
      cases buildH3Scope env.config env.client env.server headers with
      | error error =>
          cases error with
          | pseudoHeader message =>
              exact becomes_rejected hnone (answered_respond ..) rfl (Finset.subset_insert ..) rfl
          | raised error => exact hsame
      | ok scope =>
          dsimp only
          split
          case isTrue =>
            exact becomes_rejected hnone (answered_sendTooEarly ..) rfl (Finset.subset_insert ..) rfl
          case isFalse =>
            split
            case isFalse => exact ⟨rfl, rfl, hnone, rfl, Finset.Subset.refl _⟩
            case isTrue =>
              have hanswered : Answered streamId handler
                  (handler.sendRequestTooLarge env streamId).1 := answered_refuse ..
              split
              case h_1 raised error heq =>
                rw [heq] at hanswered
                exact becomes_rejected hnone hanswered rfl (Finset.subset_insert ..) rfl
              case h_2 refused heq =>
                rw [heq] at hanswered
                refine becomes_rejected hnone hanswered rfl ?_ rfl
                exact Finset.Subset.refl _

variable (env handler) in
/-- So does `_handle_data`. -/
theorem becomes_handleData (streamId : ℕ) (data : Bytes) (endStream : Bool) :
    Becomes handler (handler.handleData env streamId data).1 streamId
      (handler.outcome env (.dataReceived streamId data endStream)) := by
  have hsame : Shrinks handler handler := ⟨fun _ _ hentry => hentry, Finset.Subset.refl _, rfl⟩
  rw [handleData, outcome]
  cases hid : handler.streamTasks streamId with
  | none => exact hsame
  | some id =>
      dsimp only
      split
      case isTrue => exact hsame
      case isFalse hended =>
        split
        case isFalse => exact ⟨hid, hsame.streamTasks, hsame.streamBodyEnded, rfl⟩
        case isTrue =>
          have hanswered : Answered streamId (handler.overLimit streamId id)
              ((handler.overLimit streamId id).sendRequestTooLarge env streamId).1 :=
            answered_refuse ..
          have hshrinks := hanswered.shrinks
          refine ⟨hshrinks.nextTask, fun other own hentry => ?_, hshrinks.streamBodyEnded⟩
          have hrest : Function.update handler.streamTasks streamId none other = some own :=
            hshrinks.streamTasks other own hentry
          refine ⟨?_, update_none_eq_some hrest⟩
          rintro rfl
          simp at hrest

variable (env handler) in
/-- An event does to the tables what becomes of it. -/
theorem becomes_dispatchNext (event : H3Event) (rest : List (Pending Datum)) :
    Becomes handler (handler.dispatchNext env (.h3 event) rest) event.streamId
      (handler.outcome env event) := by
  obtain ⟨htasks, hended, hnextTask⟩ := dispatchNext_tables env handler event rest
  have hbecomes : Becomes handler (handler.handleH3Event env event).1 event.streamId
      (handler.outcome env event) := by
    cases event with
    | headersReceived streamId headers endStream is0rtt =>
        exact becomes_handleHeaders env handler streamId headers endStream is0rtt
    | dataReceived streamId data endStream =>
        exact becomes_handleData env handler streamId data endStream
  generalize handler.outcome env event = outcome at *
  cases outcome with
  | created id =>
      rw [Becomes, htasks, hended, hnextTask]
      exact hbecomes
  | queued id =>
      exact ⟨hbecomes.1, htasks ▸ hbecomes.2.streamTasks, hended ▸ hbecomes.2.streamBodyEnded,
        hnextTask.trans hbecomes.2.nextTask⟩
  | rejected =>
      rw [Becomes, htasks, hended, hnextTask]
      exact hbecomes
  | ignored =>
      exact ⟨htasks ▸ hbecomes.streamTasks, hended ▸ hbecomes.streamBodyEnded,
        hnextTask.trans hbecomes.nextTask⟩

variable (env handler) in
/-- HEADERS of a stream with a task are ignored, and never go into a queue. -/
theorem outcome_headers (streamId : ℕ) (headers : List Header) (endStream is0rtt : Bool) :
    ((handler.streamTasks streamId).isSome = true →
        handler.outcome env (.headersReceived streamId headers endStream is0rtt) = .ignored) ∧
      ∀ id, handler.outcome env (.headersReceived streamId headers endStream is0rtt) ≠
        .queued id := by
  rw [outcome]
  refine ⟨fun hregistered => if_pos hregistered, fun id => ?_⟩
  repeat' split
  all_goals exact Outcome.noConfusion

variable (env handler) in
/-- DATA go into the queue of the task, or over the limit, or are ignored. -/
theorem outcome_data (streamId : ℕ) (data : Bytes) (endStream : Bool) :
    (handler.outcome env (.dataReceived streamId data endStream) = .ignored ∧
        (handler.streamTasks streamId = none ∨ streamId ∈ handler.streamBodyEnded)) ∨
      ∃ id, handler.streamTasks streamId = some id ∧
        (handler.outcome env (.dataReceived streamId data endStream) = .rejected ∨
          handler.outcome env (.dataReceived streamId data endStream) = .queued id) := by
  rw [outcome]
  cases handler.streamTasks streamId with
  | none => exact .inl ⟨rfl, .inl rfl⟩
  | some id =>
      dsimp only
      split
      case isTrue hended => exact .inl ⟨rfl, .inr hended⟩
      case isFalse =>
        refine .inr ⟨id, rfl, ?_⟩
        split
        · exact .inl rfl
        · exact .inr rfl

end Handler

/-! ## Every step -/

namespace Recorded

variable {Conn Datum : Type} {env : Env Conn Datum} {recorded next : Recorded Conn Datum}

/-- No end has been put into the queue. -/
def Open (queue : List BodyReceived) : Prop := ∀ body ∈ queue, body.more = true

/-- What the tables say about the record. -/
structure Tally (recorded : Recorded Conn Datum) : Prop where
  registered : ∀ streamId id, recorded.state.streamTasks streamId = some id →
    id < recorded.state.nextTask ∧ recorded.history.countP (·.creates streamId) = 1 ∧
      recorded.history.countP (·.rejects streamId) = 0
  single : ∀ streamId other id, recorded.state.streamTasks streamId = some id →
    recorded.state.streamTasks other = some id → streamId = other
  unmade : ∀ id, recorded.state.nextTask ≤ id → queueOf id recorded.history = []
  once : ∀ streamId, recorded.history.countP (·.creates streamId) ≤ 1 ∧
    recorded.history.countP (·.rejects streamId) ≤ 1
  marked : ∀ streamId ∈ recorded.state.streamBodyEnded,
    recorded.history.countP (·.rejects streamId) ≠ 0
  queues : ∀ id, Terminated (queueOf id recorded.history) ∨ Open (queueOf id recorded.history)
  complete : ∀ streamId id, recorded.state.streamTasks streamId = some id →
    peerEnded streamId recorded.history = true → Terminated (queueOf id recorded.history)

/-- What is not noted keeps the tally. -/
theorem Tally.shrink (htally : Tally recorded) {state : Handler Conn Datum}
    (hshrinks : Handler.Shrinks recorded.state state) :
    Tally { state, history := recorded.history } where
  registered streamId id hid := by
    rw [hshrinks.nextTask]
    exact htally.registered streamId id (hshrinks.streamTasks streamId id hid)
  single streamId other id hid hother :=
    htally.single streamId other id (hshrinks.streamTasks streamId id hid)
      (hshrinks.streamTasks other id hother)
  unmade id hid := htally.unmade id (hshrinks.nextTask ▸ hid)
  once := htally.once
  marked streamId hmem := htally.marked streamId (hshrinks.streamBodyEnded hmem)
  queues := htally.queues
  complete streamId id hid := htally.complete streamId id (hshrinks.streamTasks streamId id hid)

/-- A queue that is not open is terminated. -/
theorem Tally.terminated (htally : Tally recorded) {id : ℕ}
    (hended : ∃ body ∈ queueOf id recorded.history, body.more = false) :
    Terminated (queueOf id recorded.history) := by
  obtain ⟨body, hmem, hmore⟩ := hended
  apply (htally.queues id).resolve_right
  intro hopen
  rw [hopen body hmem] at hmore
  cases hmore

/-- An event that is ignored keeps the tally, unless it ends a stream with an open queue. -/
theorem Tally.ignored (htally : Tally recorded) {state : Handler Conn Datum} {event : H3Event}
    (hshrinks : Handler.Shrinks recorded.state state)
    (hends : ∀ id, recorded.state.streamTasks event.streamId = some id → event.endStream = true →
      Terminated (queueOf id recorded.history)) :
    Tally { state, history := recorded.history ++ [{ event, outcome := .ignored }] } := by
  have hmessage : ∀ id, ({ event, outcome := .ignored } : Note).message id = none := by
    intro id
    cases event <;> rfl
  have hqueue : ∀ id, queueOf id (recorded.history ++ [{ event, outcome := .ignored }]) =
      queueOf id recorded.history := by
    intro id
    rw [queueOf_append, hmessage, Option.toList_none, List.append_nil]
  have hcreates : ∀ streamId, ({ event, outcome := .ignored } : Note).creates streamId = false :=
    fun streamId => Bool.and_false _
  have hrejects : ∀ streamId, ({ event, outcome := .ignored } : Note).rejects streamId = false :=
    fun streamId => Bool.and_false _
  have hshrunk := htally.shrink hshrinks
  constructor
  case registered =>
    intro streamId id hid
    simp only [countP_append, hcreates, hrejects]
    exact hshrunk.registered streamId id hid
  case single => exact hshrunk.single
  case unmade =>
    intro id hid
    rw [hqueue]
    exact hshrunk.unmade id hid
  case once =>
    intro streamId
    simp only [countP_append, hcreates, hrejects]
    exact htally.once streamId
  case marked =>
    intro streamId hmem
    simp only [countP_append, hrejects]
    exact hshrunk.marked streamId hmem
  case queues =>
    intro id
    rw [hqueue]
    exact htally.queues id
  case complete =>
    intro streamId id hid hended
    rw [hqueue]
    rw [peerEnded_append] at hended
    split at hended
    case isTrue hown =>
      subst hown
      exact hends id (hshrinks.streamTasks _ _ hid) hended
    case isFalse => exact hshrunk.complete streamId id hid hended

/-- The next message of an open queue. -/
theorem Open.push {queue : List BodyReceived} (hopen : Open queue) (body : BodyReceived) :
    (body.more = false → Terminated (queue ++ [body])) ∧
      (Terminated (queue ++ [body]) ∨ Open (queue ++ [body])) := by
  have hends : body.more = false → Terminated (queue ++ [body]) :=
    fun hmore => ⟨queue, body, rfl, hmore, hopen⟩
  refine ⟨hends, ?_⟩
  cases hmore : body.more with
  | false => exact .inl (hends hmore)
  | true =>
      right
      intro other hmem
      rcases List.mem_append.mp hmem with hmem | hmem
      · exact hopen other hmem
      · rw [List.mem_singleton.mp hmem]
        exact hmore

/-- DATA within the limit keep the tally while the queue is open. -/
theorem Tally.queued (htally : Tally recorded) {state : Handler Conn Datum} {streamId id : ℕ}
    {data : Bytes} {endStream : Bool} (hid : recorded.state.streamTasks streamId = some id)
    (hshrinks : Handler.Shrinks recorded.state state)
    (hopen : Open (queueOf id recorded.history)) :
    Tally { state, history := recorded.history ++
      [.mk (.dataReceived streamId data endStream) (.queued id)] } := by
  have hmessage : ∀ other, (Note.mk (.dataReceived streamId data endStream) (.queued id)).message other =
        if id = other then some { data, more := !endStream } else none := fun _ => rfl
  have hself : queueOf id (recorded.history ++
      [.mk (.dataReceived streamId data endStream) (.queued id)]) =
        queueOf id recorded.history ++ [{ data, more := !endStream }] := by
    rw [queueOf_append, hmessage, if_pos rfl]
    rfl
  have hothers : ∀ other, other ≠ id → queueOf other (recorded.history ++
      [.mk (.dataReceived streamId data endStream) (.queued id)]) =
        queueOf other recorded.history := by
    intro other hother
    rw [queueOf_append, hmessage, if_neg (Ne.symm hother), Option.toList_none, List.append_nil]
  have hcreates : ∀ other,
      (Note.mk (.dataReceived streamId data endStream) (.queued id)).creates other = false :=
    fun other => Bool.and_false _
  have hrejects : ∀ other,
      (Note.mk (.dataReceived streamId data endStream) (.queued id)).rejects other = false :=
    fun other => Bool.and_false _
  have hshrunk := htally.shrink hshrinks
  have hpush := hopen.push { data, more := !endStream }
  have hbound := (htally.registered streamId id hid).1
  constructor
  case registered =>
    intro other own hown
    simp only [countP_append, hcreates, hrejects]
    exact hshrunk.registered other own hown
  case single => exact hshrunk.single
  case unmade =>
    intro other hother
    have hle : recorded.state.nextTask ≤ other := hshrinks.nextTask ▸ hother
    rw [hothers other (by omega)]
    exact htally.unmade other hle
  case once =>
    intro other
    simp only [countP_append, hcreates, hrejects]
    exact htally.once other
  case marked =>
    intro other hmem
    simp only [countP_append, hrejects]
    exact hshrunk.marked other hmem
  case queues =>
    intro other
    by_cases hother : other = id
    case pos =>
      rw [hother, hself]
      exact hpush.2
    case neg =>
      rw [hothers other hother]
      exact htally.queues other
  case complete =>
    intro other own hown hended
    have hold := hshrinks.streamTasks other own hown
    rw [peerEnded_append] at hended
    split at hended
    case isTrue hstream =>
      obtain rfl : streamId = other := hstream
      obtain rfl : id = own := Option.some.inj (hid.symm.trans hold)
      rw [hself]
      apply hpush.1
      show (!endStream) = false
      rw [show endStream = true from hended]
      rfl
    case isFalse hstream =>
      have hne : own ≠ id := by
        rintro rfl
        exact hstream (htally.single _ _ _ hid hold)
      rw [hothers own hne]
      exact htally.complete other own hold hended

/-- A task made for the first HEADERS of a stream keeps the tally. -/
theorem Tally.created (htally : Tally recorded) {state : Handler Conn Datum} {streamId id : ℕ}
    {headers : List Header} {endStream is0rtt : Bool}
    (hbecomes : Handler.Becomes recorded.state state streamId (.created id))
    (hfirst : ∀ note ∈ recorded.history, note.event.streamId = streamId →
      note.outcome = .ignored) :
    Tally { state, history := recorded.history ++
      [.mk (.headersReceived streamId headers endStream is0rtt) (.created id)] } := by
  obtain ⟨rfl, hnextTask, hnone, htasks, hended⟩ := hbecomes
  have hcounts : recorded.history.countP (·.creates streamId) = 0 ∧
      recorded.history.countP (·.rejects streamId) = 0 := by
    constructor <;> rw [List.countP_eq_zero] <;> intro note hmem hcount
    · rw [Note.creates, Bool.and_eq_true, decide_eq_true_eq] at hcount
      rw [hfirst note hmem hcount.1] at hcount
      exact absurd hcount.2 (by decide)
    · rw [Note.rejects, Bool.and_eq_true, decide_eq_true_eq] at hcount
      rw [hfirst note hmem hcount.1] at hcount
      exact absurd hcount.2 (by decide)
  have hentry : ∀ {other own}, state.streamTasks other = some own →
      (other = streamId ∧ own = recorded.state.nextTask) ∨
        (other ≠ streamId ∧ recorded.state.streamTasks other = some own) := by
    intro other own hown
    rw [htasks] at hown
    by_cases hother : other = streamId
    case pos =>
      rw [hother, Function.update_self, Option.some.injEq] at hown
      exact .inl ⟨hother, hown.symm⟩
    case neg =>
      rw [Function.update_of_ne hother] at hown
      exact .inr ⟨hother, hown⟩
  have hothers : ∀ {own}, own ≠ recorded.state.nextTask → queueOf own (recorded.history ++
      [.mk (.headersReceived streamId headers endStream is0rtt) (.created recorded.state.nextTask)]) =
        queueOf own recorded.history := by
    intro own hown
    rw [queueOf_append]
    simp [Note.message, Ne.symm hown]
  have hself : queueOf recorded.state.nextTask (recorded.history ++
      [.mk (.headersReceived streamId headers endStream is0rtt) (.created recorded.state.nextTask)]) =
        if endStream then [{ data := [], more := false }] else [] := by
    rw [queueOf_append, htally.unmade _ le_rfl]
    cases endStream <;> simp [Note.message]
  have hcreates : ∀ other, (Note.mk (.headersReceived streamId headers endStream is0rtt)
      (.created recorded.state.nextTask)).creates other =
        decide (streamId = other) := fun other => Bool.and_true _
  have hrejects : ∀ other, (Note.mk (.headersReceived streamId headers endStream is0rtt)
      (.created recorded.state.nextTask)).rejects other = false :=
    fun other => Bool.and_false _
  constructor
  case registered =>
    intro other own hown
    simp only [countP_append, hcreates, hrejects, hnextTask]
    rcases hentry hown with ⟨rfl, rfl⟩ | ⟨hother, hold⟩
    · simp [hcounts.1, hcounts.2]
    · obtain ⟨hbound, hcreated, hrejected⟩ := htally.registered other own hold
      simp [hcreated, hrejected, Ne.symm hother, Nat.lt_succ_of_lt hbound]
  case single =>
    intro first second own hown hown'
    rcases hentry hown with ⟨rfl, hid⟩ | ⟨-, hold⟩ <;>
      rcases hentry hown' with ⟨hsecond, hid'⟩ | ⟨-, hold'⟩
    · exact hsecond.symm
    · exact absurd hid (htally.registered _ _ hold').1.ne
    · exact absurd hid' (htally.registered _ _ hold).1.ne
    · exact htally.single first second own hold hold'
  case unmade =>
    intro own hown
    rw [show state.nextTask = recorded.state.nextTask + 1 from hnextTask] at hown
    rw [hothers (by omega)]
    exact htally.unmade own (by omega)
  case once =>
    intro other
    simp only [countP_append, hcreates, hrejects]
    obtain ⟨hcreated, hrejected⟩ := htally.once other
    by_cases hother : streamId = other
    case pos =>
      subst hother
      simp [hcounts.1, hcounts.2]
    case neg => simp [hother, hcreated, hrejected]
  case marked =>
    intro other hmem
    simp only [countP_append, hrejects]
    exact htally.marked other (hended hmem)
  case queues =>
    intro own
    by_cases hown : own = recorded.state.nextTask
    case pos =>
      rw [hown, hself]
      cases endStream with
      | true => exact .inl ⟨[], _, rfl, rfl, fun _ hnot => absurd hnot List.not_mem_nil⟩
      | false => exact .inr fun _ hnot => absurd hnot List.not_mem_nil
    case neg =>
      rw [hothers hown]
      exact htally.queues own
  case complete =>
    intro other own hown hpeer
    rw [peerEnded_append] at hpeer
    rcases hentry hown with ⟨rfl, rfl⟩ | ⟨hother, hold⟩
    · have hends : endStream = true := by simpa [H3Event.streamId, H3Event.endStream] using hpeer
      rw [hself, if_pos hends]
      exact ⟨[], _, rfl, rfl, fun _ hnot => absurd hnot List.not_mem_nil⟩
    · have hstream : (H3Event.headersReceived streamId headers endStream is0rtt).streamId ≠ other :=
        Ne.symm hother
      rw [if_neg hstream] at hpeer
      rw [hothers (htally.registered _ _ hold).1.ne]
      exact htally.complete other own hold hpeer

/-- The first rejection on a stream keeps the tally. -/
theorem Tally.rejected (htally : Tally recorded) {state : Handler Conn Datum} {event : H3Event}
    (hbecomes : Handler.Becomes recorded.state state event.streamId .rejected)
    (hfirst : recorded.history.countP (·.rejects event.streamId) = 0) :
    Tally { state, history := recorded.history ++ [{ event, outcome := .rejected }] } := by
  obtain ⟨hnextTask, htasks, hended⟩ := hbecomes
  have hqueue : ∀ id, queueOf id (recorded.history ++ [{ event, outcome := .rejected }]) =
      queueOf id recorded.history := by
    intro id
    rw [queueOf_append]
    cases event <;> exact List.append_nil _
  have hcreates : ∀ streamId, ({ event, outcome := .rejected } : Note).creates streamId = false :=
    fun streamId => Bool.and_false _
  have hrejects : ∀ streamId, ({ event, outcome := .rejected } : Note).rejects streamId =
      decide (event.streamId = streamId) := fun streamId => Bool.and_true _
  constructor
  case registered =>
    intro streamId id hid
    obtain ⟨hother, hold⟩ := htasks streamId id hid
    obtain ⟨hbound, hcreated, hrejected⟩ := htally.registered streamId id hold
    simp only [countP_append, hcreates, hrejects]
    simp [hcreated, hrejected, Ne.symm hother, hnextTask, hbound]
  case single =>
    exact fun streamId other id hid hother =>
      htally.single streamId other id (htasks _ _ hid).2 (htasks _ _ hother).2
  case unmade =>
    intro id hid
    rw [hqueue]
    exact htally.unmade id (hnextTask ▸ hid)
  case once =>
    intro streamId
    simp only [countP_append, hcreates, hrejects]
    obtain ⟨hcreated, hrejected⟩ := htally.once streamId
    by_cases hstream : event.streamId = streamId
    case pos =>
      subst hstream
      simp [hcreated, hfirst]
    case neg => simp [hstream, hcreated, hrejected]
  case marked =>
    intro streamId hmem
    simp only [countP_append, hrejects]
    rcases Finset.mem_insert.mp (hended hmem) with rfl | hold
    · simp
    · have hmarked := htally.marked streamId hold
      omega
  case queues =>
    intro id
    rw [hqueue]
    exact htally.queues id
  case complete =>
    intro streamId id hid hpeer
    obtain ⟨hother, hold⟩ := htasks streamId id hid
    rw [peerEnded_append, if_neg (Ne.symm hother)] at hpeer
    rw [hqueue]
    exact htally.complete streamId id hold hpeer

/-- An event that is in order keeps the tally. -/
theorem Tally.dispatch (htally : Tally recorded) {event : H3Event} {rest : List (Pending Datum)}
    (hpending : recorded.state.pending = .h3 event :: rest)
    (horderly : recorded.Orderly .dispatch) :
    Tally { state := recorded.state.dispatchNext env (.h3 event) rest,
            history :=
              recorded.history ++ [{ event, outcome := recorded.state.outcome env event }] } := by
  have hbecomes := Handler.becomes_dispatchNext env recorded.state event rest
  rw [Orderly, hpending, List.head?_cons] at horderly
  cases event with
  | headersReceived streamId headers endStream is0rtt =>
      obtain ⟨hignored, hnotQueued⟩ :=
        Handler.outcome_headers env recorded.state streamId headers endStream is0rtt
      cases hid : recorded.state.streamTasks streamId with
      | some id =>
          simp only [hid] at horderly
          rw [hignored (hid ▸ rfl)] at hbecomes ⊢
          apply htally.ignored hbecomes
          intro own hown hends
          obtain rfl : id = own := Option.some.inj (hid.symm.trans hown)
          exact htally.terminated (horderly hends)
      | none =>
          simp only [hid] at horderly
          cases houtcome : recorded.state.outcome env
            (.headersReceived streamId headers endStream is0rtt) with
          | created id =>
              rw [houtcome] at hbecomes
              exact htally.created hbecomes horderly
          | queued id => exact absurd houtcome (hnotQueued id)
          | rejected =>
              rw [houtcome] at hbecomes
              apply htally.rejected hbecomes
              rw [List.countP_eq_zero]
              intro note hmem hcount
              rw [Note.rejects, Bool.and_eq_true, decide_eq_true_eq] at hcount
              rw [horderly note hmem hcount.1] at hcount
              exact absurd hcount.2 (by decide)
          | ignored =>
              rw [houtcome] at hbecomes
              apply htally.ignored hbecomes
              intro own hown
              rw [show recorded.state.streamTasks streamId = some own from hown] at hid
              cases hid
  | dataReceived streamId data endStream =>
      rcases Handler.outcome_data env recorded.state streamId data endStream with
        ⟨houtcome, hwhy⟩ | ⟨id, hid, houtcome | houtcome⟩
      · rw [houtcome] at hbecomes ⊢
        apply htally.ignored hbecomes
        intro own hown
        rcases hwhy with hnone | hmem
        · rw [show recorded.state.streamTasks streamId = some own from hown] at hnone
          cases hnone
        · exact absurd (htally.registered _ _ hown).2.2 (htally.marked _ hmem)
      · rw [houtcome] at hbecomes ⊢
        exact htally.rejected hbecomes (htally.registered _ _ hid).2.2
      · rw [houtcome] at hbecomes ⊢
        exact htally.queued hid hbecomes.2 (horderly id hid)

/-- Every step of an orderly run keeps the tally. -/
theorem tally_step {conn : Conn} {action : Action} (htally : Tally recorded)
    (horderly : recorded.Orderly action)
    (hstep : (recordedMachine env conn).step recorded action = some next) : Tally next := by
  obtain ⟨htaken, hhistory⟩ := Machine.recording_step hstep
  obtain ⟨state, history⟩ := next
  obtain rfl : history = recorded.history ++ (recorded.state.note env action).toList := hhistory
  cases hnote : recorded.state.note env action with
  | none =>
      rw [Option.toList_none, List.append_nil]
      exact htally.shrink (Handler.shrinks_step hnote htaken)
  | some note =>
      cases action with
      | dispatch =>
          rw [Handler.note] at hnote
          split at hnote
          case h_2 => cases hnote
          case h_1 event hhead =>
            obtain rfl := Option.some.inj hnote
            obtain ⟨rest, hpending⟩ := List.head?_eq_some_iff.mp hhead
            have hdispatched : some (recorded.state.dispatchNext env (.h3 event) rest) = some state := by
              simpa [handlerMachine, Handler.step, hpending] using htaken
            obtain rfl := Option.some.inj hdispatched
            exact htally.dispatch hpending horderly
      | datagram | drain | close | prune | start | send | finish => cases hnote

end Recorded

/-- In every orderly run a stream is served or rejected once, and an application whose request
has ended finds the end at the end of its queue. -/
theorem served {Conn Datum : Type} (env : Env Conn Datum) {conn : Conn}
    {recorded : Recorded Conn Datum}
    (hreach : (recordedMachine env conn).Reach (fun recorded action => recorded.Orderly action)
      recorded) (streamId : ℕ) : recorded.Served streamId := by
  have htally : recorded.Tally := by
    apply hreach.invariant
    · rintro ⟨state, history⟩ ⟨hinit, hhistory⟩
      obtain rfl : state = { conn } := hinit
      obtain rfl : history = [] := hhistory
      constructor
      case once => exact fun _ => ⟨Nat.zero_le _, Nat.zero_le _⟩
      case queues => exact fun _ => .inr fun _ hnot => absurd hnot List.not_mem_nil
      case unmade => exact fun _ _ => rfl
      case registered | single | marked | complete =>
        intros
        contradiction
    · exact fun recorded action next htally horderly hstep =>
        Recorded.tally_step htally horderly hstep
  exact ⟨(htally.once streamId).1, (htally.once streamId).2, htally.complete streamId⟩

/-! ## An upload -/

/-- A library that takes everything, and knows what a few datagrams bring. -/
def smallQuic (datagrams : List (Bytes × List H3Event)) : Codec Unit (List H3Event) where
  datagramReceived conn data :=
    .ok (conn, (datagrams.lookup data).toList.map .streamDataReceived)
  handleEvent conn events := .ok (conn, events)
  sendHeaders conn _ _ _ := .ok conn
  sendData conn _ _ _ := .ok conn
  signalStopSending conn _ := .ok conn

/-- The head of an upload. -/
def uploadHead : List Header :=
  [(ascii ":method", ascii "POST"), (ascii ":path", ascii "/"), (ascii ":scheme", ascii "https"),
    (ascii ":authority", ascii "a")]

/-- The upload, the body that ends it, and trailers that end it. -/
def uploadEnv : Env Unit (List H3Event) where
  codec := smallQuic
    [([1], [.headersReceived 0 uploadHead false false]),
      ([2], [.dataReceived 0 (ascii "body") true]),
      ([3], [.headersReceived 0 [(ascii "etag", ascii "x")] true false])]

/-- A connection before its first datagram. -/
def opened : Recorded Unit (List H3Event) := { state := { conn := () }, history := [] }

theorem opened_init : (recordedMachine uploadEnv ()).init opened := ⟨rfl, rfl⟩

/-- The body follows the head. -/
def uploaded : List Action :=
  [.datagram [1], .dispatch, .dispatch, .datagram [2], .dispatch, .dispatch]

/-- Trailers follow the head. -/
def trailed : List Action :=
  [.datagram [1], .dispatch, .dispatch, .datagram [3], .dispatch, .dispatch]

/-- The task of the first stream, whether the stream has been ended, and the queue. -/
def uploadState (actions : List Action) : Option (Option ℕ × Bool × List BodyReceived) :=
  ((recordedMachine uploadEnv ()).run opened actions).map fun recorded =>
    (recorded.state.streamTasks 0, peerEnded 0 recorded.history, queueOf 0 recorded.history)

theorem served_uploaded :
    ∃ recorded, (recordedMachine uploadEnv ()).run opened uploaded = some recorded ∧
      recorded.Served 0 := by
  have halong : (recordedMachine uploadEnv ()).Along (fun recorded action => recorded.Orderly action)
      opened uploaded := by
    refine .cons trivial rfl (.cons trivial rfl (.cons ?_ rfl (.cons trivial rfl
      (.cons trivial rfl (.cons ?_ rfl trivial)))))
    · exact fun _ hnot => absurd hnot List.not_mem_nil
    · intro id hid body hmem
      obtain rfl : 0 = id := Option.some.inj hid
      exact absurd hmem List.not_mem_nil
  exact ⟨_, rfl, served uploadEnv (Machine.Reach.run (.init opened_init) halong rfl) 0⟩

set_option maxRecDepth 8000 in
theorem uploadState_trailed : uploadState trailed = some (some 0, true, []) := by
  decide

/-- Trailers end the stream, and the application waits for the rest of its body. -/
theorem served_trailed :
    ¬ ∀ recorded, (recordedMachine uploadEnv ()).Reachable recorded → recorded.Served 0 := by
  intro hclaim
  obtain ⟨recorded, hrun, hstate⟩ := Option.map_eq_some_iff.mp uploadState_trailed
  obtain ⟨htask, hended, hqueue⟩ : _ ∧ _ ∧ _ := by simpa using hstate
  have hserved := hclaim recorded (Machine.reachable_run opened_init hrun)
  obtain ⟨before, last, hlast, -⟩ := hserved.ended 0 htask hended
  rw [hqueue] at hlast
  exact absurd hlast (by simp)

end Pounce.H3
