/-
# WebSocket sessions and the limit on request bodies

The frames of a WebSocket come in the DATA frames of its stream, and the loop dispatches these
as it does the body of a request: it counts their bytes for as long as the stream is open and
cancels the task of a stream that brings more than `max_request_size`. So a session ends by the
number of bytes it has received in all, however small its messages are; and it ends with the
connection where the refusal of another body raises. In runs in which no session receives more than the limit, and
every refusal is taken by the library, the limit ends no session (`sessions_endure`).
-/

import Pounce.H2.Isolation
import Pounce.H2.Tables
import Pounce.WebSocket

namespace Pounce.H2

open Pounce.Math Pounce.Math.Bytes

/-! ## What a session receives -/

/-- The bytes an event brings for the body of a stream. -/
def H2Event.bodyBytes (streamId : ℕ) : H2Event → Bytes
  | .bodyReceived id body => if id = streamId then body.data else []
  | _ => []

namespace Handler

variable {Conn : Type} {env : Env Conn} {handler next : Handler Conn} {streamId : ℕ}
  {event : H2Event} {events : List H2Event}

/-- The bytes the loop has dispatched for the body of a stream. -/
def received (handler : Handler Conn) (streamId : ℕ) : Bytes :=
  handler.dispatched.flatMap (·.bodyBytes streamId)

/-- With what was read and is still to be dispatched. -/
def arrived (handler : Handler Conn) (streamId : ℕ) : Bytes :=
  handler.received streamId ++ handler.pending.flatMap (·.bodyBytes streamId)

/-- The task of a WebSocket is at work on the stream. -/
def InSession (handler : Handler Conn) (streamId : ℕ) : Prop :=
  ∃ task, handler.tasks streamId = some task ∧ task.webSocket = true ∧ task.cancelled = none

instance (handler : Handler Conn) (streamId : ℕ) : Decidable (handler.InSession streamId) :=
  decidable_of_iff
    ((handler.tasks streamId).any fun task => task.webSocket && task.cancelled.isNone) (by
      simp [InSession, Option.any_eq_true])

/-- The limit ends the session on the stream: as the loop goes on with a read, the task is
cancelled for a body that is too large, or with all others since a refusal has raised. -/
def LimitEnds (env : Env Conn) (handler : Handler Conn) (streamId : ℕ) : Prop :=
  handler.InSession streamId ∧ ∃ next, handler.step env .dispatch = some next ∧
    (next.WasCancelled streamId .tooLarge ∨ next.WasCancelled streamId .leaving)

/-- No session receives more than the limit, and the library takes the refusal of a body. -/
def withinLimit (env : Env Conn) (handler : Handler Conn) : Action → Bool
  | .dispatch =>
      match handler.loop with
      | .dispatching (event :: _) =>
          (match event with
          | .bodyReceived streamId body => (handler.tasks streamId).all fun task =>
              !task.webSocket || (handler.received streamId).length + body.data.length ≤
                env.config.maxRequestSize
          | _ => true) &&
            (rejects env handler event).all fun id => TakesRejection env handler.h2 id
      | _ => true
  | _ => true

/-! ## The count -/

/-- The bytes counted for a stream were received on it. -/
def Counts (handler : Handler Conn) : Prop :=
  ∀ streamId, (handler.streamBodyBytes streamId).getD 0 ≤ (handler.received streamId).length

/-- Nothing is dispatched, and at most the count of a stream is dropped. -/
structure Uncounted (handler next : Handler Conn) : Prop where
  dispatched : next.dispatched = handler.dispatched
  bytes : ∀ streamId, next.streamBodyBytes streamId = handler.streamBodyBytes streamId ∨
    next.streamBodyBytes streamId = none

theorem Touched.uncounted (htouched : Touched handler next) : Uncounted handler next := by
  obtain ⟨h2, sent, rfl⟩ := htouched
  exact ⟨rfl, fun _ => .inl rfl⟩

theorem Counts.mono (hcounts : handler.Counts) (huncounted : Uncounted handler next) :
    next.Counts := by
  intro streamId
  rw [received, huncounted.dispatched]
  rcases huncounted.bytes streamId with hsame | hnone
  · rw [hsame]
    exact hcounts streamId
  · rw [hnone]
    exact Nat.zero_le _

theorem uncounted_updated {bytes : ℕ → Option ℕ} {own : ℕ}
    (hbytes : bytes = Function.update handler.streamBodyBytes own none) (streamId : ℕ) :
    bytes streamId = handler.streamBodyBytes streamId ∨ bytes streamId = none := by
  rw [hbytes]
  by_cases hown : streamId = own
  case pos =>
    subst hown
    exact .inr (Function.update_self ..)
  case neg => exact .inl (Function.update_of_ne hown ..)

theorem uncounted_sendRequestTooLarge (env : Env Conn) (handler : Handler Conn) (own : ℕ) :
    Uncounted handler (handler.sendRequestTooLarge env own).1 := by
  obtain ⟨conn, sent, -, heq | heq⟩ := sendRequestTooLarge_cases env handler own <;> rw [heq]
  · exact ⟨rfl, fun _ => .inl rfl⟩
  · exact ⟨rfl, uncounted_updated rfl⟩

theorem uncounted_finish (env : Env Conn) (handler : Handler Conn) (own : ℕ) (task : StreamTask)
    (ending : Ending) : Uncounted handler (handler.finish env own task ending) := by
  obtain ⟨answered, hconcluded, heq⟩ := finish_eq env handler own task ending
  obtain ⟨h2, sent, rfl⟩ := hconcluded.touched
  rw [heq]
  split
  case isTrue => exact ⟨rfl, uncounted_updated rfl⟩
  case isFalse => exact ⟨rfl, fun _ => .inl rfl⟩

theorem uncounted_call {own : ℕ} {webSocket : Bool} {call : Call}
    (hcall : handler.call env own webSocket call = some next) : Uncounted handler next := by
  cases called_of_call hcall with
  | noted | scheduled => exact ⟨rfl, fun _ => .inl rfl⟩
  | sent _ htouched => exact htouched.uncounted

/-- A body adds its length to the count of its stream, and no other event adds to any. -/
theorem Counts.dispatchEvent (hcounts : handler.Counts) (env : Env Conn) (event : H2Event)
    (streamId : ℕ) : ((handler.dispatchEvent env event).1.streamBodyBytes streamId).getD 0 ≤
      (handler.received streamId).length + (event.bodyBytes streamId).length := by
  have hfewer : ∀ {counted : Handler Conn}, Uncounted handler counted →
      (counted.streamBodyBytes streamId).getD 0 ≤
        (handler.received streamId).length + (event.bodyBytes streamId).length := by
    intro counted huncounted
    have hcounted := hcounts.mono huncounted streamId
    rw [received, huncounted.dispatched] at hcounted
    exact hcounted.trans (Nat.le_add_right ..)
  cases event with
  | requestReceived own request =>
      rw [Handler.dispatchEvent]
      split
      case isTrue =>
        obtain ⟨hdispatched, hbytes⟩ :=
          uncounted_sendRequestTooLarge env (handler.settle own .refused) own
        exact hfewer ⟨hdispatched, hbytes⟩
      case isFalse => exact hfewer ⟨rfl, fun _ => .inl rfl⟩
  | webSocketRequest own request path => exact hfewer ⟨rfl, fun _ => .inl rfl⟩
  | bodyReceived own body =>
      rw [Handler.dispatchEvent, dispatchBody]
      split
      case isTrue => exact hfewer ⟨rfl, fun _ => .inl rfl⟩
      case isFalse =>
        split
        case isFalse => exact hfewer ⟨rfl, fun _ => .inl rfl⟩
        case isTrue =>
          have hadded : (Function.update handler.streamBodyBytes own
              (some ((handler.streamBodyBytes own).getD 0 + body.data.length)) streamId).getD 0 ≤
                (handler.received streamId).length +
                  ((H2Event.bodyReceived own body).bodyBytes streamId).length := by
            have hbefore := hcounts streamId
            by_cases hown : streamId = own
            case pos =>
              subst hown
              simp only [Function.update_self, Option.getD_some, H2Event.bodyBytes, if_true]
              omega
            case neg =>
              rw [Function.update_of_ne hown]
              omega
          dsimp only
          split
          case isFalse => exact hadded
          case isTrue =>
            rcases (uncounted_sendRequestTooLarge env _ own).bytes streamId with hsame | hnone
            · rw [hsame]
              exact hadded
            · rw [hnone]
              exact Nat.zero_le _
  | streamReset own errorCode =>
      rw [Handler.dispatchEvent, dispatchReset]
      split <;> exact hfewer ⟨rfl, uncounted_updated rfl⟩
  | windowUpdated | goAway => exact hfewer ⟨rfl, fun _ => .inl rfl⟩

/-- An event is dispatched, and noted. -/
theorem Counts.dispatchNext (hcounts : handler.Counts) (env : Env Conn) (event : H2Event)
    (events : List H2Event) : (handler.dispatchNext env event events).Counts := by
  have hnoted : ∀ noted : Handler Conn,
      noted.streamBodyBytes = (handler.dispatchEvent env event).1.streamBodyBytes →
        noted.dispatched = (handler.dispatchEvent env event).1.dispatched ++ [event] →
          noted.Counts := by
    intro noted hbytes hdispatched streamId
    rw [hbytes, received, hdispatched, (loopKept_dispatchEvent env handler event).dispatched]
    simpa [received] using hcounts.dispatchEvent env event streamId
  rw [Handler.dispatchNext]
  split
  case h_1 raised hraised => exact hnoted _ (by rw [hraised]; rfl) (by rw [hraised]; rfl)
  case h_2 done hdone =>
    dsimp only
    split <;> exact hnoted _ (by rw [hdone]) (by rw [hdone])

/-- Every step keeps the count. -/
theorem counts_step {action : Action} (hcounts : handler.Counts)
    (hstep : handler.step env action = some next) : next.Counts := by
  have hsame : next.dispatched = handler.dispatched →
      next.streamBodyBytes = handler.streamBodyBytes → next.Counts :=
    fun hdispatched hbytes =>
      hcounts.mono ⟨hdispatched, fun streamId => .inl (congrFun hbytes streamId)⟩
  cases action with
  | read data =>
      obtain ⟨-, hnext⟩ := Machine.of_guard hstep
      rw [receive] at hnext
      split at hnext
      case h_1 =>
        subst hnext
        exact hsame rfl rfl
      case h_2 =>
        split at hnext
        all_goals
          subst hnext
          exact hsame rfl rfl
  | readFails | drainFails =>
      obtain ⟨-, rfl⟩ := Machine.of_guard hstep
      exact hsame rfl rfl
  | readTimeout | drained =>
      obtain ⟨-, hnext⟩ := Machine.of_guard hstep
      split at hnext
      all_goals
        subst hnext
        exact hsame rfl rfl
  | dispatch =>
      rw [step] at hstep
      split at hstep
      case h_1 =>
        obtain rfl := Option.some.inj hstep
        exact hsame rfl rfl
      case h_2 event events hloop =>
        obtain rfl := Option.some.inj hstep
        exact hcounts.dispatchNext env event events
      case h_3 => cases hstep
  | start own =>
      obtain ⟨task, -, hguard⟩ := Option.bind_eq_some_iff.mp hstep
      obtain ⟨-, hnext⟩ := Machine.of_guard hguard
      rw [Handler.start] at hnext
      split at hnext
      all_goals
        subst hnext
        exact hsame rfl rfl
  | call own call =>
      obtain ⟨webSocket, -, hguard⟩ := Option.bind_eq_some_iff.mp hstep
      exact hcounts.mono (uncounted_call (Option.ite_none_right_eq_some.mp hguard).2)
  | finish own ending =>
      obtain ⟨task, -, hguard⟩ := Option.bind_eq_some_iff.mp hstep
      obtain ⟨-, rfl⟩ := Machine.of_guard hguard
      exact hcounts.mono (uncounted_finish env handler own task ending)

/-! ## The queue of a session -/

/-! ## The end of a session -/

/-- A body that is within the limit leaves the tasks alone. -/
theorem dispatchBody_tasks {own : ℕ} {body : BodyReceived}
    (hwithin : rejects env handler (.bodyReceived own body) = none) :
    (handler.dispatchBody env own body).1.tasks = handler.tasks := by
  rw [dispatchBody]
  split
  case isTrue => rfl
  case isFalse hopen =>
    split
    case isFalse => rfl
    case isTrue hregistered =>
      dsimp only
      split
      case isFalse => rfl
      case isTrue hexceeds =>
        rw [rejects, if_pos ⟨hopen, hregistered, hexceeds⟩] at hwithin
        cases hwithin

variable (events) in
/-- Where an event does not raise, the loop does not touch the tasks after it. -/
theorem dispatchNext_tasks (htaken : (handler.dispatchEvent env event).2 = true) :
    (handler.dispatchNext env event events).tasks = (handler.dispatchEvent env event).1.tasks := by
  rw [Handler.dispatchNext]
  split
  case h_1 raised hraised =>
    rw [hraised] at htaken
    cases htaken
  case h_2 done hdone =>
    rw [hdone]
    dsimp only
    split <;> rfl

/-- What cancels a task, other than a reset, is the refusal of a body of its stream. -/
theorem body_of_cancels {cancellation : Cancellation}
    (hrunning : ¬ handler.WasCancelled streamId cancellation)
    (hcancels : (handler.dispatchEvent env event).1.WasCancelled streamId cancellation)
    (hnot : cancellation ≠ .reset) : ∃ body, event = .bodyReceived streamId body ∧
      ∃ id, rejects env handler event = some id := by
  obtain ⟨cut, hmem, hsome⟩ := hcancels
  rcases dispatchEvent_wasCancelled hmem hsome with hbefore | ⟨-, body, rfl⟩ | ⟨hreset, -⟩
  · exact absurd hbefore hrunning
  · refine ⟨body, rfl, Option.ne_none_iff_exists'.mp fun hwithin => ?_⟩
    rw [Handler.dispatchEvent, dispatchBody_tasks hwithin] at hmem
    exact hrunning ⟨cut, hmem, hsome⟩
  · exact absurd hreset hnot

/-- The limit ends a session by the refusal of what it has sent, or by one that raises. -/
theorem rejects_of_limitEnds (hends : LimitEnds env handler streamId) :
    ∃ event events, handler.loop = .dispatching (event :: events) ∧
      ∃ id, rejects env handler event = some id ∧
        ((∃ body, event = .bodyReceived streamId body) ∨ ¬ TakesRejection env handler.h2 id) := by
  obtain ⟨⟨task, htask, -, hcancelled⟩, next, hstep, hcut⟩ := hends
  have hrunning : ∀ cancellation, ¬ handler.WasCancelled streamId cancellation := by
    rintro cancellation ⟨before, hbefore, hnot⟩
    obtain rfl := Option.some.inj (htask.symm.trans hbefore)
    cases hcancelled.symm.trans hnot
  rw [step] at hstep
  split at hstep
  case h_1 =>
    obtain rfl := Option.some.inj hstep
    exact absurd hcut (not_or.mpr ⟨hrunning _, hrunning _⟩)
  case h_2 event events hloop =>
    obtain rfl := Option.some.inj hstep
    refine ⟨event, events, hloop, ?_⟩
    by_cases hrefused : ∃ id, rejects env handler event = some id ∧
        ¬ TakesRejection env handler.h2 id
    case pos =>
      obtain ⟨id, hrejects, hnot⟩ := hrefused
      exact ⟨id, hrejects, .inr hnot⟩
    case neg =>
      have htaken : (handler.dispatchEvent env event).2 = true :=
        dispatchEvent_snd fun id hrejects =>
          not_not.mp fun hnot => hrefused ⟨id, hrejects, hnot⟩
      have hcancels : ∃ cancellation, cancellation ≠ .reset ∧
          (handler.dispatchEvent env event).1.WasCancelled streamId cancellation := by
        rcases hcut with ⟨cut, hmem, hsome⟩ | ⟨cut, hmem, hsome⟩ <;>
          rw [dispatchNext_tasks events htaken] at hmem
        · exact ⟨.tooLarge, by decide, cut, hmem, hsome⟩
        · exact ⟨.leaving, by decide, cut, hmem, hsome⟩
      obtain ⟨cancellation, hnot, hcancels⟩ := hcancels
      obtain ⟨body, rfl, id, hrejects⟩ := body_of_cancels (hrunning _) hcancels hnot
      exact ⟨id, hrejects, .inl ⟨body, rfl⟩⟩
  case h_3 => cases hstep

/-- In every run in which no session receives more than the limit, and the library takes every
refusal, the limit ends no session. -/
theorem sessions_endure {Conn : Type} (env : Env Conn) {conn : Conn} {handler : Handler Conn}
    (hreach : (handlerMachine env conn).Reach
      (fun handler action => withinLimit env handler action = true) handler)
    (hallowed : withinLimit env handler .dispatch = true) (streamId : ℕ) :
    ¬ LimitEnds env handler streamId := by
  have hcounts : handler.Counts := by
    apply hreach.invariant
    · rintro handler rfl
      exact fun streamId => Nat.zero_le _
    · exact fun handler action next hcounts _ hstep => counts_step hcounts hstep
  intro hends
  -- What ends the session is refused by the count, which is not above what was received.
  obtain ⟨event, events, hloop, id, hrejects, hrefused⟩ := rejects_of_limitEnds hends
  obtain ⟨task, htask, hwebSocket, -⟩ := hends.1
  rw [withinLimit, hloop, Bool.and_eq_true] at hallowed
  obtain ⟨hwithin, htaken⟩ := hallowed
  rw [hrejects, Option.all_some, decide_eq_true_eq] at htaken
  rcases hrefused with ⟨body, rfl⟩ | hraises
  · obtain ⟨⟨-, -, hexceeds⟩, -⟩ := Machine.of_guard hrejects
    have hcounted := hcounts streamId
    simp only [htask, Option.all_some, hwebSocket, Bool.not_true, Bool.false_or,
      decide_eq_true_eq] at hwithin
    omega
  · exact hraises htaken

end Handler

/-! ## Messages -/

/-- A frame of a WebSocket, unmasked. -/
structure Frame where
  fin : Bool
  opcode : ℕ
  payload : Bytes
  deriving DecidableEq, Repr

/-- The next bytes, if there are so many. -/
def takeBytes (count : ℕ) (data : Bytes) : Option (Bytes × Bytes) :=
  if count ≤ data.length then some (data.take count, data.drop count) else none

/-- A number, its highest byte first. -/
def bigEndian (data : Bytes) : ℕ := data.foldl (fun value byte => value * 256 + byte.toNat) 0

/-- The length of a payload: in the second byte of the frame, or in the two or eight bytes that
follow it. -/
def readLength (second : UInt8) (data : Bytes) : Option (ℕ × Bytes) :=
  match second.toNat % 128 with
  | 126 => (takeBytes 2 data).map fun (length, rest) => (bigEndian length, rest)
  | 127 => (takeBytes 8 data).map fun (length, rest) => (bigEndian length, rest)
  | length => some (length, data)

/-- The payload of a client's frame is masked by a key of four bytes. -/
def unmask (key payload : Bytes) : Bytes :=
  payload.zipIdx.map fun (byte, index) => byte ^^^ key.getD (index % 4) 0

/-- A frame of a client, and what follows it. -/
def readFrame : Bytes → Option (Frame × Bytes)
  | first :: second :: data => do
      let (length, data) ← readLength second data
      let (key, data) ← takeBytes 4 data
      let (payload, rest) ← takeBytes length data
      some ({ fin := 128 ≤ first, opcode := first.toNat % 16, payload := unmask key payload }, rest)
  | _ => none

/-- The frames of a client that are complete, no more than there are bytes. -/
def clientFrames (data : Bytes) : ℕ → List Frame
  | 0 => []
  | count + 1 =>
      match readFrame data with
      | none => []
      | some (frame, rest) => frame :: clientFrames rest count

/-- The messages of data frames: one may come in several, with control frames in between. -/
def assemble (part : Bytes) : List Frame → List Bytes
  | [] => []
  | frame :: frames =>
      if 8 ≤ frame.opcode then assemble part frames
      else if frame.fin then (part ++ frame.payload) :: assemble [] frames
      else assemble (part ++ frame.payload) frames

/-- The messages a client has sent in the bytes of its stream. -/
def clientMessages (data : Bytes) : List Bytes := assemble [] (clientFrames data data.length)

/-! ## A session of small messages -/

/-- A message of two bytes, in one frame of a client. -/
def pairFrame (first second : UInt8) : Bytes := [130, 130, 1, 2, 3, 4, first ^^^ 1, second ^^^ 2]

/-- The first byte stands for the request for a WebSocket, the others for a message each. -/
def sessionEnv (maxRequestSize : ℕ) : Env SmallConn where
  codec := smallH2
    [([1], [.requestReceived 3 socketHead false]),
      ([2], [.dataReceived 3 (pairFrame 7 8) 8 false]),
      ([3], [.dataReceived 3 (pairFrame 9 10) 8 false])]
  config := { maxRequestSize }

/-- The WebSocket is accepted, a message has come, and another one is read. -/
def sessionRun : List Handler.Action :=
  [.read [1], .dispatch, .dispatch, .drained, .start 3, .call 3 (.sendHeaders 200 [] false),
    .read [2], .dispatch, .dispatch, .drained, .read [3]]

/-- What is seen of the session: whether it is at work and within the limit, its messages, and
why the next step cancels it. -/
def sessionSeen (env : Env SmallConn) : Option (Bool × Bool × List Bytes × Option Cancellation) :=
  ((handlerMachine env idleConn).run { h2 := { conn := idleConn } } sessionRun).bind fun handler =>
    (handler.step env .dispatch).map fun next =>
      (handler.InSession 3, handler.withinLimit env .dispatch,
        clientMessages (handler.arrived 3), (next.tasks 3).bind (·.cancelled))

set_option maxRecDepth 8000 in
theorem sessionSeen_within :
    sessionSeen (sessionEnv 16) = some (true, true, [[7, 8], [9, 10]], none) := by
  decide

set_option maxRecDepth 8000 in
theorem sessionSeen_over :
    sessionSeen (sessionEnv 10) = some (true, false, [[7, 8], [9, 10]], some .tooLarge) := by
  decide

theorem sessions_endure_pair :
    ∃ handler, (handlerMachine (sessionEnv 16) idleConn).run { h2 := { conn := idleConn } }
        sessionRun = some handler ∧
      handler.InSession 3 ∧ ¬ Handler.LimitEnds (sessionEnv 16) handler 3 := by
  obtain ⟨handler, hrun, hseen⟩ := Option.bind_eq_some_iff.mp sessionSeen_within
  obtain ⟨next, -, hnext⟩ := Option.map_eq_some_iff.mp hseen
  obtain ⟨hsession, hwithin, -⟩ : _ ∧ _ ∧ _ := by simpa using hnext
  have hguarded : (handlerMachine (sessionEnv 16) idleConn).Along
      (fun handler action => handler.withinLimit (sessionEnv 16) action = true)
      { h2 := { conn := idleConn } } sessionRun :=
    Machine.along_of_guarded (by decide)
  exact ⟨handler, hrun, hsession, Handler.sessions_endure (sessionEnv 16)
    (Machine.Reach.run (.init rfl) hguarded hrun) hwithin 3⟩

/-- Two messages of two bytes each are over a limit of ten bytes. -/
theorem sessions_cut :
    ¬ ∀ env : Env SmallConn, env.codec.Obeys smallView →
      ∀ handler, (handlerMachine env idleConn).Reachable handler → ∀ streamId,
        (∀ message ∈ clientMessages (handler.arrived streamId),
          message.length ≤ env.config.websocketMaxMessageSize) →
            ¬ Handler.LimitEnds env handler streamId := by
  intro hclaim
  obtain ⟨handler, hrun, hseen⟩ := Option.bind_eq_some_iff.mp sessionSeen_over
  obtain ⟨next, hstep, hnext⟩ := Option.map_eq_some_iff.mp hseen
  obtain ⟨hsession, -, hmessages, hcut⟩ : _ ∧ _ ∧ _ ∧ _ := by simpa using hnext
  apply hclaim (sessionEnv 10) (smallH2_obeys _) handler (Machine.reachable_run rfl hrun) 3
  · rw [hmessages]
    decide
  · exact ⟨hsession, next, hstep, .inl (Option.bind_eq_some_iff.mp hcut)⟩

end Pounce.H2
