/-
# What becomes of the streams after GOAWAY

A GOAWAY is meant to stop the reading and let the streams finish. It does stop the reading:
the rest of the read is not looked at, and the loop is left once the transport has been
drained, which cancels all tasks in the table. Nothing would be sent for them anyway, since
the library takes no frame once it has read the GOAWAY. So a request gets its whole response
only if it has it by then, and everything that was read is dispatched only if nothing follows
the GOAWAY and no request comes with it (`goAway_outlived`).
-/

import Pounce.H2.Isolation

namespace Pounce.H2

open Pounce.Math Pounce.Math.Bytes

/-- The peer has ended the connection. -/
def LibraryEvent.isTermination : LibraryEvent → Bool
  | .connectionTerminated _ _ => true
  | _ => false

/-- The event brings a request, well formed or not. -/
def LibraryEvent.isRequest : LibraryEvent → Bool
  | .requestReceived _ _ _ => true
  | _ => false

namespace Handler

variable {Conn : Type} {env : Env Conn} {view : View Conn} {handler next : Handler Conn}
  {streamId : ℕ}

/-! ## Responses -/

/-- A whole response has been sent: a final block of HEADERS, and the end. -/
def Responded (streamId : ℕ) (frames : List SentFrame) : Prop :=
  frames.any (·.isFinal streamId) ∧ frames.any (·.ends streamId)

instance (streamId : ℕ) (frames : List SentFrame) : Decidable (Responded streamId frames) :=
  inferInstanceAs (Decidable (_ ∧ _))

/-- The stream has its whole response, or has been reset. -/
def Done (handler : Handler Conn) (streamId : ℕ) : Prop :=
  handler.dispatched.any (·.isReset streamId) ∨ Responded streamId handler.sent

instance (handler : Handler Conn) (streamId : ℕ) : Decidable (handler.Done streamId) :=
  inferInstanceAs (Decidable (_ ∨ _))

/-- All events that were read have been dispatched, and every request among them has got its
whole response, unless its stream was reset. -/
def Outlived (handler : Handler Conn) : Prop :=
  handler.skipped = [] ∧ ∀ streamId, Requested streamId handler.dispatched → handler.Done streamId

/-- What has been sent stays sent. -/
theorem Responded.mono {frames more : List SentFrame} (hresponded : Responded streamId frames)
    (hmore : frames <+: more) : Responded streamId more := by
  obtain ⟨later, rfl⟩ := hmore
  simp only [Responded, List.any_append, Bool.or_eq_true]
  exact ⟨.inl hresponded.1, .inl hresponded.2⟩

/-- A stream that is done stays so. -/
theorem Done.mono (hdone : handler.Done streamId) (hsent : handler.sent <+: next.sent)
    (hdispatched : handler.dispatched <+: next.dispatched) : next.Done streamId := by
  refine hdone.imp ?_ fun hresponded => hresponded.mono hsent
  obtain ⟨later, hlater⟩ := hdispatched
  intro hreset
  rw [← hlater, List.any_append, hreset, Bool.true_or]

/-! ## Runs that let the streams finish -/

/-- Every request that has been dispatched is done. -/
def quiet (handler : Handler Conn) : Bool :=
  handler.dispatched.all fun event => event.streamId?.all fun streamId =>
    !event.isRequest streamId || decide (handler.Done streamId)

/-- When the GOAWAY is read all requests have their responses, and none comes with it; nothing
follows it in its read, and no body of that read has to be rejected. -/
def letsFinish (env : Env Conn) (handler : Handler Conn) : Action → Bool
  | .read data =>
      match env.codec.receiveData handler.h2.conn data with
      | some (_, libraryEvents) => libraryEvents.any (·.isTermination) →
          libraryEvents.all (!·.isRequest) ∧ handler.quiet
      | none => true
  | .dispatch =>
      match handler.loop with
      | .dispatching (event :: events) =>
          (event.isGoAway → events = []) ∧ (handler.h2.closed → rejects env handler event = none)
      | _ => true
  | _ => true

theorem quiet_iff : handler.quiet = true ↔
    ∀ streamId, Requested streamId handler.dispatched → handler.Done streamId := by
  simp only [quiet, List.all_eq_true, Requested, List.any_eq_true]
  constructor
  · rintro hall streamId ⟨event, hmem, hrequest⟩
    have hid : event.streamId? = some streamId := by
      cases event with
      | requestReceived id request | webSocketRequest id request path =>
          simpa [H2Event.isRequest, H2Event.streamId?] using hrequest
      | _ => cases hrequest
    simpa [hid, hrequest] using hall event hmem
  · intro hall event hmem
    cases hid : event.streamId? with
    | none => rfl
    | some streamId =>
        rw [Option.all_some, Bool.or_eq_true, Bool.not_eq_true', decide_eq_true_eq]
        cases hrequest : event.isRequest streamId with
        | false => exact .inl rfl
        | true => exact .inr (hall streamId ⟨event, hmem, hrequest⟩)

/-! ## Reads -/

variable {library : Library Conn} {h2 after : H2Connection Conn} {out : List H2Event}
  {events : List LibraryEvent}

/-- An event of the library closes the connection exactly if it ends it, and brings the handler a
request only if it is one. -/
theorem receiveEvent_closed {event : LibraryEvent}
    (hevent : h2.receiveEvent library event = some (after, out)) :
    (after.closed = true ↔ h2.closed = true ∨ event.isTermination = true) ∧
      (event.isRequest = false → ∀ streamId, ¬ Requested streamId out) := by
  cases event with
  | requestReceived id headers last =>
      refine ⟨?_, fun hnot => by cases hnot⟩
      rw [H2Connection.receiveEvent, H2Connection.receiveRequest] at hevent
      split at hevent
      case h_1 =>
        obtain ⟨reset, hreset, heq⟩ := Option.map_eq_some_iff.mp hevent
        obtain ⟨rfl, rfl⟩ := Prod.mk.inj heq
        obtain ⟨conn, hconn, rfl⟩ := Option.map_eq_some_iff.mp hreset
        simp [LibraryEvent.isTermination, H2Connection.removeStream, H2Connection.setStream]
      case h_2 =>
        split at hevent
        · obtain ⟨rfl, rfl⟩ := Prod.mk.inj (Option.some.inj hevent)
          simp [LibraryEvent.isTermination, H2Connection.setStream]
        · split at hevent <;>
            obtain ⟨rfl, rfl⟩ := Prod.mk.inj (Option.some.inj hevent) <;>
            simp [LibraryEvent.isTermination, H2Connection.setStream]
  | dataReceived id data length last =>
      obtain ⟨conn, hconn, heq⟩ := Option.map_eq_some_iff.mp hevent
      obtain ⟨rfl, rfl⟩ := Prod.mk.inj heq
      refine ⟨?_, fun _ streamId => by simp [Requested, H2Event.isRequest]⟩
      split <;> simp [LibraryEvent.isTermination, H2Connection.setStream]
  | streamEnded id =>
      have heq : h2.receiveEnd id = (after, out) := Option.some.inj hevent
      rw [H2Connection.receiveEnd] at heq
      split at heq
      case h_1 =>
        obtain ⟨rfl, rfl⟩ := Prod.mk.inj heq
        simp [LibraryEvent.isTermination, Requested]
      case h_2 =>
        split at heq <;>
          obtain ⟨rfl, rfl⟩ := Prod.mk.inj heq <;>
          simp [LibraryEvent.isTermination, Requested, H2Connection.setStream, H2Event.isRequest]
  | streamReset | trailersReceived | windowUpdated | remoteSettingsChanged
  | connectionTerminated =>
      obtain ⟨rfl, rfl⟩ := Prod.mk.inj (Option.some.inj hevent)
      simp [LibraryEvent.isTermination, Requested, H2Connection.removeStream,
        H2Connection.setStream, H2Event.isRequest]

/-- So does a read. -/
theorem receiveData_closed (hreceived : h2.receiveData library events = some (after, out)) :
    (after.closed = true ↔ h2.closed = true ∨ events.any (·.isTermination) = true) ∧
      (events.all (!·.isRequest) = true → ∀ streamId, ¬ Requested streamId out) := by
  induction events generalizing h2 out with
  | nil =>
      obtain ⟨rfl, rfl⟩ := Prod.mk.inj (Option.some.inj hreceived)
      simp [Requested]
  | cons event events ih =>
      simp only [H2Connection.receiveData, Option.bind_eq_bind, Option.bind_eq_some_iff] at hreceived
      obtain ⟨⟨middle, first⟩, hfirst, ⟨last, rest⟩, hrest, heq⟩ := hreceived
      obtain ⟨rfl, rfl⟩ := Prod.mk.inj (Option.some.inj heq)
      obtain ⟨hclosed, hnone⟩ := receiveEvent_closed hfirst
      obtain ⟨hlater, hnoneLater⟩ := ih hrest
      constructor
      · rw [hlater, hclosed, List.any_cons, Bool.or_eq_true, or_assoc]
      · intro hall streamId hrequested
        rw [List.all_cons, Bool.and_eq_true, Bool.not_eq_true'] at hall
        rw [Requested, List.any_append, Bool.or_eq_true] at hrequested
        exact hrequested.elim (hnone hall.1 streamId) (hnoneLater hall.2 streamId)

/-! ## Every step -/

/-- What holds of a connection in a run that lets its streams finish. -/
structure Patient (handler : Handler Conn) : Prop where
  skipped : (∀ cause, handler.loop ≠ .leaving cause) → handler.skipped = []
  reading : handler.loop = .reading → handler.h2.closed = false
  quiet : handler.h2.closed = true → (∀ streamId, ¬ Requested streamId handler.pending) ∧
    ∀ streamId, Requested streamId handler.dispatched → handler.Done streamId
  left : ∀ cause, handler.loop = .leaving cause → handler.h2.closed = true →
    cause ≠ .disconnected → handler.skipped = []

/-- The tasks go on, and the loop stays where it is. -/
theorem Patient.mono (hpatient : handler.Patient) (hloop : LoopKept handler next)
    (hsent : handler.sent <+: next.sent) : next.Patient where
  skipped := by
    rw [hloop.loop, hloop.skipped]
    exact hpatient.skipped
  reading := by
    rw [hloop.loop, hloop.closed]
    exact hpatient.reading
  quiet := by
    rw [hloop.closed, pending, hloop.loop, hloop.dispatched]
    intro hclosed
    obtain ⟨hpending, hdone⟩ := hpatient.quiet hclosed
    refine ⟨hpending, fun streamId hrequested => (hdone streamId hrequested).mono hsent ?_⟩
    rw [hloop.dispatched]
  left := by
    rw [hloop.loop, hloop.closed, hloop.skipped]
    exact hpatient.left

/-- The loop moves on and leaves nothing out, with no request ahead of it. -/
theorem Patient.moved (hpatient : handler.Patient) (hskipped : handler.skipped = []) {loop : Loop}
    (hreading : loop = .reading → handler.h2.closed = false)
    (hpending : ∀ events, loop ≠ .dispatching events) : Patient { handler with loop } where
  skipped _ := hskipped
  reading := hreading
  quiet hclosed := by
    refine ⟨fun streamId hrequested => ?_, (hpatient.quiet hclosed).2⟩
    cases loop with
    | dispatching events => exact hpending events rfl
    | reading | draining | leaving => cases hrequested
  left _ _ _ _ := hskipped

/-- The loop is left. -/
theorem Patient.leave (hpatient : handler.Patient) {cause : Cause}
    (hskipped : handler.h2.closed = true → cause ≠ .disconnected → handler.skipped = []) :
    (handler.leave cause).Patient where
  skipped hnot := absurd rfl (hnot cause)
  reading hreading := by cases hreading
  quiet hclosed := ⟨fun streamId hrequested => (by cases hrequested), (hpatient.quiet hclosed).2⟩
  left := by
    rintro own hleaving hclosed hcause
    obtain rfl : cause = own := by simpa [Handler.leave] using hleaving
    exact hskipped hclosed hcause

/-- An event is dispatched, and what was sent before stays sent. -/
theorem sent_dispatchEvent (env : Env Conn) (handler : Handler Conn) (event : H2Event) :
    handler.sent <+: (handler.dispatchEvent env event).1.sent := by
  cases event with
  | requestReceived id request =>
      rw [Handler.dispatchEvent]
      split
      case isTrue => exact (wrote_sendRequestTooLarge env (handler.settle id .refused) id).sent
      case isFalse => exact List.prefix_refl _
  | bodyReceived id body =>
      rw [Handler.dispatchEvent, dispatchBody]
      split
      case isTrue => exact List.prefix_refl _
      case isFalse =>
        split
        case isFalse => exact List.prefix_refl _
        case isTrue =>
          dsimp only
          split
          case isFalse => exact List.prefix_refl _
          case isTrue =>
            refine List.IsPrefix.trans ?_ (wrote_sendRequestTooLarge ..).sent
            exact List.prefix_refl _
  | streamReset id errorCode =>
      rw [Handler.dispatchEvent, dispatchReset]
      split <;> exact List.prefix_refl _
  | webSocketRequest | windowUpdated | goAway => exact List.prefix_refl _

/-- The next event of a read. -/
theorem Patient.dispatchNext (hpatient : handler.Patient) {event : H2Event}
    {events : List H2Event} (hloop : handler.loop = .dispatching (event :: events))
    (hlast : event.isGoAway → events = [])
    (hrejects : handler.h2.closed = true → rejects env handler event = none) :
    (handler.dispatchNext env event events).Patient := by
  have hopen : ∀ cause, handler.loop ≠ .leaving cause := by
    rw [hloop]
    exact fun cause hnot => by cases hnot
  have hskipped := hpatient.skipped hopen
  have hkept := loopKept_dispatchEvent env handler event
  have hsent := sent_dispatchEvent env handler event
  have hsucceeds : handler.h2.closed = true → (handler.dispatchEvent env event).2 = true :=
    fun hclosed => dispatchEvent_snd fun id hsome => by
      cases (hrejects hclosed).symm.trans hsome
  have hpending : handler.pending = event :: events := by rw [pending, hloop]
  -- with the connection closed neither this event nor a later one is a request
  have hquiet : handler.h2.closed = true → (∀ id, ¬ Requested id events) ∧
      ∀ id, Requested id (handler.dispatched ++ [event]) → handler.Done id := by
    intro hclosed
    obtain ⟨hnone, hdone⟩ := hpatient.quiet hclosed
    rw [hpending] at hnone
    simp only [Requested, List.any_cons, Bool.or_eq_true, not_or] at hnone
    refine ⟨fun id => (hnone id).2, fun id hrequested => ?_⟩
    rw [Requested, List.any_append, Bool.or_eq_true] at hrequested
    exact hdone id (hrequested.resolve_right (by simpa using (hnone id).1))
  rw [Handler.dispatchNext]
  split
  case h_1 raised hraised =>
    rw [hraised] at hkept hsucceeds
    have hnotClosed : handler.h2.closed = false := by
      rw [Bool.eq_false_iff]
      exact fun hclosed => by cases hsucceeds hclosed
    have hclosed : raised.h2.closed = false := hkept.closed.trans hnotClosed
    constructor
    case skipped => exact fun hnot => absurd rfl (hnot .failed)
    case reading => exact fun hnot => by cases hnot
    case quiet => exact fun hnot => by cases hclosed.symm.trans hnot
    case left => exact fun _ _ hnot => by cases hclosed.symm.trans hnot
  case h_2 done hdone =>
    rw [hdone] at hkept hsent
    have hnone : done.skipped = [] := hkept.skipped.trans hskipped
    have hdoneLater : ∀ {next : Handler Conn}, next.h2 = done.h2 → next.sent = done.sent →
        next.dispatched = done.dispatched ++ [event] → next.h2.closed = true →
          ∀ id, Requested id next.dispatched → next.Done id := by
      intro next hh2 hnextSent hdispatched hclosed id hrequested
      rw [hh2, show done.h2.closed = _ from hkept.closed] at hclosed
      rw [hdispatched, show done.dispatched = _ from hkept.dispatched] at hrequested
      refine ((hquiet hclosed).2 id hrequested).mono (hnextSent ▸ hsent) ?_
      rw [hdispatched, show done.dispatched = _ from hkept.dispatched]
      exact List.prefix_append ..
    dsimp only
    split
    case h_1 lastStreamId errorCode =>
      constructor
      case skipped => exact fun _ => by simp [hnone, hlast rfl]
      case reading => exact fun hnot => by cases hnot
      case quiet =>
        exact fun hclosed => ⟨fun id hrequested => (by cases hrequested),
          hdoneLater rfl rfl rfl hclosed⟩
      case left => exact fun _ hnot => by cases hnot
    case h_2 =>
      constructor
      case skipped => exact fun _ => hnone
      case reading => exact fun hnot => by cases hnot
      case quiet =>
        exact fun hclosed => ⟨(hquiet (hkept.closed.symm.trans hclosed)).1,
          hdoneLater rfl rfl rfl hclosed⟩
      case left => exact fun _ hnot => by cases hnot

/-- A read keeps a connection patient. -/
theorem Patient.receive (hpatient : handler.Patient) (hreading : handler.loop = .reading)
    {data : Bytes} (hallowed : letsFinish env handler (.read data) = true) :
    (handler.receive env data).Patient := by
  have hclosed := hpatient.reading hreading
  have hskipped := hpatient.skipped (by simp [hreading])
  rw [Handler.receive]
  rw [letsFinish] at hallowed
  split
  case h_1 => exact hpatient.leave fun _ _ => hskipped
  case h_2 conn libraryEvents hparsed =>
    simp only [hparsed] at hallowed
    have hspared := of_decide_eq_true hallowed
    split
    case h_1 => exact hpatient.leave fun _ _ => hskipped
    case h_2 after told hreceived =>
      obtain ⟨hcloses, hnone⟩ := receiveData_closed hreceived
      constructor
      case skipped => exact fun _ => hskipped
      case reading => exact fun hnot => by cases hnot
      case quiet =>
        intro hafter
        obtain ⟨hrequests, hquiet⟩ := hspared ((hcloses.mp hafter).resolve_left (by simp [hclosed]))
        exact ⟨hnone hrequests, quiet_iff.mp hquiet⟩
      case left => exact fun _ hnot => by cases hnot

/-- Every step keeps a connection patient. -/
theorem patient_step {action : Action} (hpatient : handler.Patient)
    (hallowed : letsFinish env handler action = true) (hstep : handler.step env action = some next) :
    next.Patient := by
  cases action with
  | read data =>
      obtain ⟨hreading, rfl⟩ := Machine.of_guard hstep
      exact hpatient.receive hreading hallowed
  | readFails =>
      obtain ⟨-, rfl⟩ := Machine.of_guard hstep
      exact hpatient.leave fun _ hcause => absurd rfl hcause
  | readTimeout =>
      obtain ⟨hreading, rfl⟩ := Machine.of_guard hstep
      split
      case isTrue =>
        apply hpatient.leave
        intro hclosed
        cases (hpatient.reading hreading).symm.trans hclosed
      case isFalse => exact hpatient
  | dispatch =>
      rw [step] at hstep
      rw [letsFinish] at hallowed
      split at hstep
      case h_1 hloop =>
        obtain rfl := Option.some.inj hstep
        exact hpatient.moved (hpatient.skipped (by simp [hloop])) (by simp) (by simp)
      case h_2 event events hloop =>
        obtain rfl := Option.some.inj hstep
        simp only [hloop] at hallowed
        obtain ⟨hlast, hrejects⟩ := of_decide_eq_true hallowed
        exact hpatient.dispatchNext hloop hlast hrejects
      case h_3 => cases hstep
  | drained =>
      obtain ⟨hdraining, rfl⟩ := Machine.of_guard hstep
      have hskipped := hpatient.skipped (by simp [hdraining])
      split
      case isTrue => exact hpatient.leave fun _ _ => hskipped
      case isFalse hopen => exact hpatient.moved hskipped (fun _ => by simpa using hopen) (by simp)
  | drainFails =>
      obtain ⟨-, rfl⟩ := Machine.of_guard hstep
      exact hpatient.leave fun _ hcause => absurd rfl hcause
  | start streamId =>
      obtain ⟨task, -, hguard⟩ := Option.bind_eq_some_iff.mp hstep
      obtain ⟨-, rfl⟩ := Machine.of_guard hguard
      refine hpatient.mono (loopKept_start env handler streamId task) ?_
      rw [Handler.start]
      split <;> exact List.prefix_refl _
  | call streamId call =>
      obtain ⟨webSocket, -, hguard⟩ := Option.bind_eq_some_iff.mp hstep
      obtain ⟨-, hcall⟩ := Option.ite_none_right_eq_some.mp hguard
      refine hpatient.mono (call_kept hcall).1 ?_
      cases called_of_call hcall with
      | noted | scheduled => exact List.prefix_refl _
      | sent hwrote _ => exact hwrote.sent
  | finish streamId ending =>
      obtain ⟨task, -, hguard⟩ := Option.bind_eq_some_iff.mp hstep
      obtain ⟨-, rfl⟩ := Machine.of_guard hguard
      refine hpatient.mono (loopKept_finish env handler streamId task ending) ?_
      obtain ⟨answered, hconcluded, heq⟩ := finish_eq env handler streamId task ending
      rw [heq]
      split
      case isTrue => exact hconcluded.wrote.sent
      case isFalse => exact List.prefix_refl _

/-- The read that brings a GOAWAY does not raise if no request comes with it. -/
theorem receive_goAway (hobeys : env.codec.Obeys view) (hserves : env.codec.Serves view)
    {data : Bytes} {conn : Conn} (hparsed : env.codec.receiveData handler.h2.conn data =
      some (conn, events)) (hrequests : events.all (!·.isRequest) = true) :
    ∃ told, (handler.receive env data).loop = .dispatching told := by
  have hsome := receive_isSome hobeys hserves hparsed fun streamId headers last hmem _ => by
    have hnot := List.all_eq_true.mp hrequests _ hmem
    cases hnot
  obtain ⟨⟨after, told⟩, hreceived⟩ := Option.isSome_iff_exists.mp hsome
  exact ⟨told, by simp [Handler.receive, hparsed, hreceived]⟩

/-- In runs that let the streams finish, a read that brings a GOAWAY is dispatched, and once it has
been received the loop is left without a loss: all events that were read with it or before it have
been dispatched, and every request among them has got its whole response. -/
theorem goAway_outlived (env : Env Conn) {view : View Conn} (hobeys : env.codec.Obeys view)
    (hserves : env.codec.Serves view) (conn : Conn) {handler : Handler Conn}
    (hreach : (handlerMachine env conn).Reach
      (fun handler action => letsFinish env handler action = true) handler) :
    (∀ data parsed events, letsFinish env handler (.read data) = true →
        env.codec.receiveData handler.h2.conn data = some (parsed, events) →
        events.any (·.isTermination) →
          ∃ told, (handler.receive env data).loop = .dispatching told) ∧
      (handler.h2.closed = true → ∀ cause, handler.loop = .leaving cause →
        cause ≠ .disconnected → handler.Outlived) := by
  have hpatient : handler.Patient := by
    apply hreach.invariant
    · rintro handler rfl
      constructor
      case skipped => exact fun _ => rfl
      case reading => exact fun _ => rfl
      case quiet => exact fun hnot => by cases hnot
      case left => exact fun _ hnot => by cases hnot
    · exact fun handler action next hpatient hallowed hstep => patient_step hpatient hallowed hstep
  constructor
  · intro data parsed events hallowed hparsed hterminates
    rw [letsFinish] at hallowed
    simp only [hparsed] at hallowed
    exact receive_goAway hobeys hserves hparsed (of_decide_eq_true hallowed hterminates).1
  · intro hclosed cause hleft hcause
    exact ⟨hpatient.left cause hleft hclosed hcause, (hpatient.quiet hclosed).2⟩

end Handler

/-! ## A connection with two requests -/

/-- The first byte stands for a request, the second for the GOAWAY, the third for another
request. -/
def pageEnv : Env SmallConn where
  codec := smallH2
    [([1], [.requestReceived 1 pageHead true, .streamEnded 1]),
      ([2], [.connectionTerminated none none]),
      ([3], [.requestReceived 3 pageHead true, .streamEnded 3])]

/-- The request is read, and its application started. -/
def pageStarted : List Handler.Action :=
  [.read [1], .dispatch, .dispatch, .dispatch, .drained, .start 1]

/-- Both requests are answered, and then the client says goodbye. -/
def pageServed : List Handler.Action :=
  pageStarted ++ [.read [3], .dispatch, .dispatch, .dispatch, .drained, .start 3,
    .call 1 (.respond 200), .call 1 (.sendHeaders 200 [] false), .finish 3 .raised,
    .call 1 (.sendData (ascii "hello") true), .finish 1 .returned, .read [2], .dispatch, .drained]

/-- The client says goodbye at once. -/
def pageCutOff : List Handler.Action := pageStarted ++ [.read [2], .dispatch, .drained]

/-- The connection before its first step. -/
def pageOpened : Handler SmallConn := { h2 := { conn := idleConn } }

/-- How a run ends: where the loop stands, whether a GOAWAY was received and the request
dispatched, and whether it is done. -/
def pageOutcome (actions : List Handler.Action) : Option (Loop × Bool × Bool × Bool) :=
  ((handlerMachine pageEnv idleConn).run pageOpened actions).map fun handler =>
    (handler.loop, handler.h2.closed, handler.dispatched.any (·.isRequest 1),
      decide (handler.Done 1))

set_option maxRecDepth 8000 in
/-- The request is answered. -/
theorem pageOutcome_served :
    pageOutcome pageServed = some (.leaving .goAway, true, true, true) := by
  decide

set_option maxRecDepth 8000 in
/-- The application is cancelled. -/
theorem pageOutcome_cutOff :
    pageOutcome pageCutOff = some (.leaving .goAway, true, true, false) := by
  decide

set_option maxRecDepth 8000 in
theorem goAway_outlived_page :
    ∃ handler, (handlerMachine pageEnv idleConn).run pageOpened pageServed = some handler ∧
      handler.loop = .leaving .goAway ∧ handler.Outlived := by
  obtain ⟨handler, hrun, houtcome⟩ := Option.map_eq_some_iff.mp pageOutcome_served
  obtain ⟨hloop, hclosed, -⟩ : _ ∧ _ ∧ _ := by simpa using houtcome
  have hguarded : (handlerMachine pageEnv idleConn).Along
      (fun handler action => handler.letsFinish pageEnv action = true) pageOpened pageServed :=
    Machine.along_of_guarded (by decide)
  exact ⟨handler, hrun, hloop, (Handler.goAway_outlived pageEnv (smallH2_obeys _)
    (smallH2_serves _) idleConn (Machine.Reach.run (.init rfl) hguarded hrun)).2
      hclosed _ hloop (by decide)⟩

/-- The request is cut off although it came before the GOAWAY. -/
theorem goAway_cutOff :
    ¬ ∀ handler, (handlerMachine pageEnv idleConn).Reachable handler → handler.h2.closed = true →
      ∀ cause, handler.loop = .leaving cause → cause ≠ .disconnected → handler.Outlived := by
  intro hclaim
  obtain ⟨handler, hrun, houtcome⟩ := Option.map_eq_some_iff.mp pageOutcome_cutOff
  obtain ⟨hloop, hclosed, hrequested, hnotDone⟩ : _ ∧ _ ∧ _ ∧ _ := by simpa using houtcome
  have houtlived := hclaim handler (Machine.reachable_run rfl hrun) hclosed .goAway hloop (by decide)
  exact hnotDone (houtlived.2 1 (by simpa [Handler.Requested] using hrequested))

end Pounce.H2
