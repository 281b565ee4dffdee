/-
# Every request once, and every body ended once

A peer multiplexes its requests, and the events of the h2 library arrive in batches that no
stream has a say in. Seen from one stream, though, they follow a simple order
(`StreamPhase`): a request, its data, and an end or a reset. `Followed` relates what the
library has reported of a stream to what `receive_data` has told the handler and to the two
flags it keeps. From it `receive_once` reads off that a request which is accepted is
announced once and first, that its data is passed on unchanged, and that exactly one body
event, the last, says that no more follows.
-/

import Pounce.Protocols.H2

namespace Pounce.H2

open Pounce.Math Pounce.Math.Bytes

/-! ## What the library may report -/

/-- How far a stream has come, as the library reports it. -/
inductive StreamPhase where
  | idle
  | receiving
  /-- END_STREAM was on the last frame, and its event is still to come. -/
  | ending
  | ended
  | reset
  deriving DecidableEq, Repr

/-- The stream an event is about. -/
def LibraryEvent.streamId? : LibraryEvent → Option ℕ
  | .requestReceived streamId _ _ => some streamId
  | .dataReceived streamId _ _ _ => some streamId
  | .trailersReceived streamId => some streamId
  | .streamEnded streamId => some streamId
  | .streamReset streamId _ => some streamId
  | .windowUpdated _ | .remoteSettingsChanged | .connectionTerminated _ _ => none

/-- The events of a stream in their order. -/
def StreamPhase.next : StreamPhase → LibraryEvent → Option StreamPhase
  | .idle, .requestReceived _ _ last => some (if last then .ending else .receiving)
  | .receiving, .dataReceived _ _ _ last => some (if last then .ending else .receiving)
  | .receiving, .trailersReceived _ => some .ending
  | .receiving, .streamEnded _ => some .ended
  | .ending, .streamEnded _ => some .ended
  | _, .streamReset _ _ => some .reset
  | _, _ => none

/-- What an event means for a stream. -/
def advance (streamId : ℕ) (phase : StreamPhase) (event : LibraryEvent) : Option StreamPhase :=
  if event.streamId? = some streamId then phase.next event else some phase

/-- The events are such as a conforming library reports: on every stream in order. -/
def Conforming (events : List LibraryEvent) : Prop :=
  ∀ streamId, (events.foldlM (advance streamId) .idle).isSome

/-- The DATA payloads of a stream. -/
def payloads (streamId : ℕ) (events : List LibraryEvent) : Bytes :=
  events.flatMap fun
    | .dataReceived id data _ _ => if id = streamId then data else []
    | _ => []

/-! ## What the handler is told -/

/-- What an event of the connection tells of one stream. -/
inductive Notice where
  | request (request : RequestReceived)
  | body (body : BodyReceived)
  deriving DecidableEq, Repr

/-- What an event tells of a stream. -/
def H2Event.notice (streamId : ℕ) : H2Event → Option Notice
  | .requestReceived id request => if id = streamId then some (.request request) else none
  | .webSocketRequest id request _ => if id = streamId then some (.request request) else none
  | .bodyReceived id body => if id = streamId then some (.body body) else none
  | .streamReset _ _ | .goAway _ _ | .windowUpdated _ => none

/-- What the events tell of a stream, in order. -/
def noticesOf (streamId : ℕ) (events : List H2Event) : List Notice :=
  events.filterMap (H2Event.notice streamId)

@[simp]
theorem noticesOf_append (streamId : ℕ) (first second : List H2Event) :
    noticesOf streamId (first ++ second) = noticesOf streamId first ++ noticesOf streamId second :=
  List.filterMap_append

@[simp]
theorem payloads_append (streamId : ℕ) (first second : List LibraryEvent) :
    payloads streamId (first ++ second) = payloads streamId first ++ payloads streamId second :=
  List.flatMap_append

/-- More is to follow after each of the body events. -/
def Continues (bodies : List BodyReceived) : Prop := ∀ body ∈ bodies, body.more = true

/-- The last body event, and no other, says that no more follows. -/
def EndsOnce (bodies : List BodyReceived) : Prop :=
  ∃ chunks last, bodies = chunks ++ [last] ∧ last.more = false ∧ Continues chunks

theorem not_endsOnce_of_continues {bodies : List BodyReceived} (hcontinues : Continues bodies) :
    ¬ EndsOnce bodies := by
  rintro ⟨chunks, last, rfl, hlast, -⟩
  have hmore := hcontinues last (by simp)
  rw [hlast] at hmore
  cases hmore

theorem Continues.snoc {bodies : List BodyReceived} (hcontinues : Continues bodies)
    {body : BodyReceived} (hmore : body.more = true) : Continues (bodies ++ [body]) := by
  intro other hother
  rcases List.mem_append.mp hother with hold | hnew
  · exact hcontinues other hold
  · rw [List.mem_singleton.mp hnew]
    exact hmore

/-! ## Sessions -/

/-- What is done with a connection: a read is parsed, which leaves the library as it then is, or
the server resets or removes a stream. -/
inductive Operation (Conn : Type) where
  | receive (conn : Conn) (events : List LibraryEvent)
  | resetStream (streamId errorCode : ℕ)
  | removeStream (streamId : ℕ)

/-- What the library has reported in an operation. -/
def Operation.events {Conn : Type} : Operation Conn → List LibraryEvent
  | .receive _ events => events
  | _ => []

/-- The server lets go of the stream. -/
def Operation.drops {Conn : Type} (streamId : ℕ) : Operation Conn → Bool
  | .receive _ _ => false
  | .resetStream id _ => id = streamId
  | .removeStream id => id = streamId

variable {Conn : Type} (library : Library Conn)

/-- Do it, and collect the events for the handler. A reset that the library refuses raises where
the server asked for it, and leaves the connection alone. -/
def H2Connection.perform (h2 : H2Connection Conn) :
    Operation Conn → Option (H2Connection Conn × List H2Event)
  | .receive conn events => { h2 with conn }.receiveData library events
  | .resetStream streamId errorCode =>
      some ((h2.resetStream library streamId errorCode).getD h2, [])
  | .removeStream streamId => some (h2.removeStream streamId, [])

/-- One operation after the other. -/
def H2Connection.session (h2 : H2Connection Conn) :
    List (Operation Conn) → Option (H2Connection Conn × List H2Event)
  | [] => some (h2, [])
  | operation :: operations => do
      let (h2, first) ← h2.perform library operation
      let (h2, rest) ← session h2 operations
      some (h2, first ++ rest)

/-- What the library has reported in all of them. -/
def eventsOf (operations : List (Operation Conn)) : List LibraryEvent :=
  operations.flatMap Operation.events

/-! ## What the library refuses -/

/-- What the library knows of a stream: nothing yet, that it is there, or that it is closed, be it
on its own or with the connection. -/
inductive Standing where
  | idle
  | live
  | closed
  deriving DecidableEq, Repr

/-- The library credits the data of streams it knows, and resets those that are there. -/
structure Library.Ruled (standing : Conn → ℕ → Standing) : Prop where
  credits : ∀ conn length streamId, standing conn streamId ≠ .idle →
    (library.acknowledgeReceivedData conn length streamId).isSome
  acknowledge : ∀ conn length streamId next,
    library.acknowledgeReceivedData conn length streamId = some next →
      standing next = standing conn
  resets : ∀ conn streamId errorCode,
    (library.resetStream conn streamId errorCode).isSome ↔ standing conn streamId = .live
  reset : ∀ conn streamId errorCode next,
    library.resetStream conn streamId errorCode = some next →
      standing next = Function.update (standing conn) streamId .closed

/-- How a read that brought these events leaves the library. -/
structure Reported (standing : Conn → ℕ → Standing) (conn : Conn) (events : List LibraryEvent) :
    Prop where
  known : ∀ event ∈ events, ∀ streamId, event.streamId? = some streamId →
    standing conn streamId ≠ .idle
  reset : ∀ streamId errorCode, .streamReset streamId errorCode ∈ events →
    standing conn streamId = .closed
  terminated : ∀ lastStreamId errorCode, .connectionTerminated lastStreamId errorCode ∈ events →
    ∀ streamId, standing conn streamId ≠ .live
  /-- A stream that the read has opened is there, unless the read has closed it as well. -/
  opened : ∀ streamId headers last, .requestReceived streamId headers last ∈ events →
    (∀ errorCode, .streamReset streamId errorCode ∉ events) →
      (∀ lastStreamId errorCode, .connectionTerminated lastStreamId errorCode ∉ events) →
        standing conn streamId = .live

/-- No malformed request comes in one read with a reset of its stream or the end of the
connection. -/
def Rejectable (events : List LibraryEvent) : Prop :=
  ∀ streamId headers last, .requestReceived streamId headers last ∈ events →
    readRequest headers = none →
      (∀ errorCode, .streamReset streamId errorCode ∉ events) ∧
        ∀ lastStreamId errorCode, .connectionTerminated lastStreamId errorCode ∉ events

/-! ## The invariant -/

/-- The body events of an accepted request, so far. -/
structure Delivered (streamId : ℕ) (heard : List LibraryEvent) (dropped : Bool)
    (phase : StreamPhase) (entry : Option StreamState) (bodies : List BodyReceived) : Prop where
  data : (bodies.map (·.data)).flatten = payloads streamId heard
  atMostOnce : Continues bodies ∨ EndsOnce bodies
  unfinished : phase = .receiving → Continues bodies
  /-- The flag tells whether the end has been announced. -/
  flagged : ∀ state, entry = some state → if state.ended then EndsOnce bodies else Continues bodies
  known : dropped = false → phase ≠ .reset → entry.isSome
  finished : dropped = false → .streamEnded streamId ∈ heard → EndsOnce bodies

/-- What the handler has been told of a stream whose request had these headers. -/
def Answered (streamId : ℕ) (heard : List LibraryEvent) (dropped : Bool) (phase : StreamPhase)
    (entry : Option StreamState) (notices : List Notice) (headers : List Header) : Prop :=
  match readRequest headers with
  | none => ∀ request, .request request ∉ notices
  | some (request, _) => ∃ bodies, notices = .request request :: bodies.map .body ∧
      Delivered streamId heard dropped phase entry bodies

/-- What the handler has been told of a stream matches what the library has reported. -/
structure Followed (streamId : ℕ) (heard : List LibraryEvent) (dropped : Bool)
    (phase : StreamPhase) (entry : Option StreamState) (notices : List Notice) : Prop where
  fresh : phase = .idle → notices = [] ∧ payloads streamId heard = [] ∧ entry = none ∧
    .streamEnded streamId ∉ heard ∧
    ∀ headers ended, .requestReceived streamId headers ended ∉ heard
  answered : ∀ headers ended, .requestReceived streamId headers ended ∈ heard →
    Answered streamId heard dropped phase entry notices headers

/-! ## One event -/

variable {library}

@[simp]
theorem setStream_streams_self (h2 : H2Connection Conn) (streamId : ℕ)
    (state : Option StreamState) : (h2.setStream streamId state).streams streamId = state :=
  Function.update_self ..

@[simp]
theorem setStream_streams_of_ne (h2 : H2Connection Conn) {streamId other : ℕ}
    (state : Option StreamState) (hne : other ≠ streamId) :
    (h2.setStream streamId state).streams other = h2.streams other :=
  Function.update_of_ne hne ..

/-- A reset drops the entry of its stream, and no other. -/
theorem resetStream_streams {h2 next : H2Connection Conn} {streamId errorCode : ℕ}
    (hreset : h2.resetStream library streamId errorCode = some next) :
    next.streams = Function.update h2.streams streamId none := by
  obtain ⟨conn, -, rfl⟩ := Option.map_eq_some_iff.mp hreset
  rfl

/-- What a request head does to the streams, and what the handler is told. -/
theorem receiveRequest_eq {h2 next : H2Connection Conn} {streamId : ℕ} {headers : List Header}
    {last : Bool} {out : List H2Event}
    (hreceived : h2.receiveRequest library streamId headers last = some (next, out)) :
    (∀ other, other ≠ streamId → next.streams other = h2.streams other ∧
        noticesOf other out = []) ∧
      match readRequest headers with
      | none => next.streams streamId = none ∧ noticesOf streamId out = []
      | some (request, _) => ∃ state bodies, next.streams streamId = some state ∧
          noticesOf streamId out = .request request :: bodies.map .body ∧
          (bodies.map (·.data)).flatten = [] ∧
          (if state.ended then EndsOnce bodies else Continues bodies) ∧
          (last = false → Continues bodies) := by
  rw [H2Connection.receiveRequest] at hreceived
  cases hread : readRequest headers with
  | none =>
      simp only [hread] at hreceived
      obtain ⟨reset, hreset, heq⟩ := Option.map_eq_some_iff.mp hreceived
      obtain ⟨rfl, rfl⟩ := Prod.mk.inj heq
      have hstreams := resetStream_streams hreset
      constructor
      · intro other hne
        simp [hstreams, hne, noticesOf, H2Event.notice]
      · simp [hstreams, noticesOf, H2Event.notice]
  | some read =>
      obtain ⟨request, protocol⟩ := read
      simp only [hread] at hreceived
      split at hreceived
      case isTrue =>
        obtain ⟨rfl, rfl⟩ := Prod.mk.inj (Option.some.inj hreceived)
        constructor
        · intro other hne
          simp [hne, noticesOf, H2Event.notice, hne.symm]
        · exact ⟨_, [], setStream_streams_self .., by simp [noticesOf, H2Event.notice], rfl,
            by simp [Continues], by simp [Continues]⟩
      case isFalse =>
        split at hreceived
        case isTrue hlast =>
          obtain ⟨rfl, rfl⟩ := Prod.mk.inj (Option.some.inj hreceived)
          constructor
          · intro other hne
            simp [hne, noticesOf, H2Event.notice, hne.symm]
          · refine ⟨_, [H2Connection.endOfBody], setStream_streams_self ..,
              by simp [noticesOf, H2Event.notice], rfl, ?_, by simp [hlast]⟩
            exact ⟨[], H2Connection.endOfBody, rfl, rfl, by simp [Continues]⟩
        case isFalse =>
          obtain ⟨rfl, rfl⟩ := Prod.mk.inj (Option.some.inj hreceived)
          constructor
          · intro other hne
            simp [hne, noticesOf, H2Event.notice, hne.symm]
          · exact ⟨_, [], setStream_streams_self .., by simp [noticesOf, H2Event.notice], rfl,
              by simp [Continues], by simp [Continues]⟩

/-- What a DATA frame does to the streams, and what the handler is told. -/
theorem receiveBody_eq {h2 next : H2Connection Conn} {streamId length : ℕ} {data : Bytes}
    {last : Bool} {out : List H2Event}
    (hreceived : h2.receiveBody library streamId data length last = some (next, out)) :
    (∀ other, other ≠ streamId → next.streams other = h2.streams other) ∧
      next.streams streamId =
        (if last then (h2.streams streamId).map ({ · with ended := true })
          else h2.streams streamId) ∧
      out = [.bodyReceived streamId { data, more := !last }] := by
  obtain ⟨conn, -, heq⟩ := Option.map_eq_some_iff.mp hreceived
  obtain ⟨rfl, rfl⟩ := Prod.mk.inj heq
  refine ⟨?_, ?_, rfl⟩
  · intro other hne
    split
    case isTrue => exact setStream_streams_of_ne _ _ hne
    case isFalse => rfl
  · split
    case isTrue => exact setStream_streams_self ..
    case isFalse => rfl

/-- What the end of a stream does to its entry, and what the handler is told. -/
theorem receiveEnd_eq (h2 : H2Connection Conn) (streamId : ℕ) :
    (∀ other, other ≠ streamId → (h2.receiveEnd streamId).1.streams other = h2.streams other) ∧
      (h2.receiveEnd streamId).1.streams streamId =
        (h2.streams streamId).map ({ · with ended := true }) ∧
      (h2.receiveEnd streamId).2 =
        if (h2.streams streamId).any (!·.ended) then
          [.bodyReceived streamId H2Connection.endOfBody]
        else [] := by
  rw [H2Connection.receiveEnd]
  cases hentry : h2.streams streamId with
  | none => simp [hentry]
  | some state =>
      cases hended : state.ended with
      | true =>
          have hsame : { state with ended := true } = state := by
            rw [← hended]
          simp [hended, hentry, hsame]
      | false =>
          simp only [hended, Bool.false_eq_true, if_false]
          refine ⟨?_, ?_, ?_⟩
          · intro other hne
            exact setStream_streams_of_ne _ _ hne
          · exact setStream_streams_self ..
          · simp [hended]

/-- An event of no concern to the stream tells nothing of it and leaves its entry alone. -/
theorem receiveEvent_other {h2 next : H2Connection Conn} {event : LibraryEvent}
    {out : List H2Event} {streamId : ℕ} (hother : event.streamId? ≠ some streamId)
    (hevent : h2.receiveEvent library event = some (next, out)) :
    next.streams streamId = h2.streams streamId ∧ noticesOf streamId out = [] := by
  cases event with
  | requestReceived id headers last =>
      have hne : streamId ≠ id := fun heq => hother (congrArg some heq.symm)
      exact (receiveRequest_eq hevent).1 streamId hne
  | dataReceived id data length last =>
      have hne : streamId ≠ id := fun heq => hother (congrArg some heq.symm)
      obtain ⟨hsame, -, rfl⟩ := receiveBody_eq hevent
      exact ⟨hsame streamId hne, by simp [noticesOf, H2Event.notice, hne.symm]⟩
  | streamEnded id =>
      have hne : streamId ≠ id := fun heq => hother (congrArg some heq.symm)
      obtain ⟨hsame, -, hout⟩ := receiveEnd_eq h2 id
      have heq : h2.receiveEnd id = (next, out) := Option.some.inj hevent
      rw [heq] at hsame hout
      refine ⟨hsame streamId hne, ?_⟩
      rw [show out = _ from hout]
      split <;> simp [noticesOf, H2Event.notice, hne.symm]
  | streamReset id errorCode =>
      have hne : streamId ≠ id := fun heq => hother (congrArg some heq.symm)
      obtain ⟨rfl, rfl⟩ := Prod.mk.inj (Option.some.inj hevent)
      exact ⟨setStream_streams_of_ne _ _ hne, rfl⟩
  | trailersReceived | windowUpdated | remoteSettingsChanged | connectionTerminated =>
      obtain ⟨rfl, rfl⟩ := Prod.mk.inj (Option.some.inj hevent)
      exact ⟨rfl, rfl⟩

/-- Further body events leave the answer to a request what it was, if they go with what was
delivered before. -/
theorem Answered.extend {streamId : ℕ} {heard later : List LibraryEvent}
    {dropped droppedLater : Bool} {phase after : StreamPhase} {entry next : Option StreamState}
    {notices : List Notice} {headers : List Header}
    (hanswered : Answered streamId heard dropped phase entry notices headers)
    (more : List BodyReceived)
    (hdelivered : ∀ bodies, Delivered streamId heard dropped phase entry bodies →
      Delivered streamId later droppedLater after next (bodies ++ more)) :
    Answered streamId later droppedLater after next (notices ++ more.map .body) headers := by
  unfold Answered at hanswered ⊢
  split at hanswered
  case h_1 =>
    intro request hmem
    rcases List.mem_append.mp hmem with hold | hnew
    · exact hanswered request hold
    · obtain ⟨_, _, heq⟩ := List.mem_map.mp hnew
      cases heq
  case h_2 =>
    obtain ⟨bodies, rfl, hbodies⟩ := hanswered
    exact ⟨bodies ++ more, by simp, hdelivered bodies hbodies⟩

/-- A stream is followed on, whatever is reported of others. -/
theorem Followed.other {streamId : ℕ} {heard : List LibraryEvent} {dropped : Bool}
    {phase : StreamPhase} {entry : Option StreamState} {notices : List Notice}
    (hfollowed : Followed streamId heard dropped phase entry notices) {event : LibraryEvent}
    (hother : event.streamId? ≠ some streamId) :
    Followed streamId (heard ++ [event]) dropped phase entry notices := by
  have hpayloads : payloads streamId (heard ++ [event]) = payloads streamId heard := by
    rw [payloads_append]
    cases event with
    | dataReceived id =>
        have hne : id ≠ streamId := fun heq => hother (congrArg some heq)
        simp [payloads, hne]
    | _ => simp [payloads]
  have hended : .streamEnded streamId ∈ heard ++ [event] ↔ .streamEnded streamId ∈ heard := by
    simp only [List.mem_append, List.mem_singleton, or_iff_left_iff_imp]
    rintro rfl
    exact absurd rfl hother
  have hrequest : ∀ headers last, .requestReceived streamId headers last ∈ heard ++ [event] ↔
      .requestReceived streamId headers last ∈ heard := by
    intro headers last
    simp only [List.mem_append, List.mem_singleton, or_iff_left_iff_imp]
    rintro rfl
    exact absurd rfl hother
  constructor
  case fresh =>
    simpa only [hpayloads, hended, hrequest] using hfollowed.fresh
  case answered =>
    intro headers last hmem
    have hanswered := hfollowed.answered headers last ((hrequest headers last).mp hmem)
    have hextended := hanswered.extend [] fun bodies hdelivered => by
      rw [List.append_nil]
      exact { hdelivered with
        data := hdelivered.data.trans hpayloads.symm
        finished := by rw [hended]; exact hdelivered.finished }
    simpa using hextended

/-- The request of a stream is followed. -/
theorem Followed.request {streamId : ℕ} {heard : List LibraryEvent} {dropped : Bool}
    {phase after : StreamPhase} {entry : Option StreamState} {notices : List Notice}
    (hfollowed : Followed streamId heard dropped phase entry notices) {headers : List Header}
    {last : Bool} (hafter : phase.next (.requestReceived streamId headers last) = some after)
    {h2 next : H2Connection Conn} {out : List H2Event}
    (hevent : h2.receiveRequest library streamId headers last = some (next, out)) :
    Followed streamId (heard ++ [.requestReceived streamId headers last]) dropped after
      (next.streams streamId) (notices ++ noticesOf streamId out) := by
  obtain ⟨rfl, rfl⟩ : phase = .idle ∧ (if last then .ending else .receiving) = after := by
    cases phase <;> simp_all [StreamPhase.next]
  obtain ⟨rfl, hpayloads, -, hended, hnone⟩ := hfollowed.fresh rfl
  have hpayloads : payloads streamId (heard ++ [.requestReceived streamId headers last]) = [] := by
    rw [payloads_append, hpayloads]
    rfl
  constructor
  case fresh => intro hidle; split at hidle <;> cases hidle
  case answered =>
    intro other lastOther hmem
    obtain rfl : other = headers := by
      rcases List.mem_append.mp hmem with hold | hnew
      · exact absurd hold (hnone other lastOther)
      · exact (LibraryEvent.requestReceived.inj (List.mem_singleton.mp hnew)).2.1
    have hreceived := (receiveRequest_eq hevent).2
    unfold Answered
    split at hreceived
    case h_1 =>
      rw [hreceived.2]
      simp
    case h_2 =>
      obtain ⟨state, bodies, hstate, hnotices, hdata, hflagged, hopen⟩ := hreceived
      refine ⟨bodies, by rw [hnotices]; rfl, ?_⟩
      constructor
      case data => rw [hdata, hpayloads]
      case atMostOnce =>
        split at hflagged
        case isTrue => exact .inr hflagged
        case isFalse => exact .inl hflagged
      case unfinished =>
        intro hphase
        apply hopen
        cases last with
        | false => rfl
        | true => cases hphase
      case flagged =>
        intro other hother
        rw [hstate] at hother
        obtain rfl := Option.some.inj hother
        exact hflagged
      case known => simp [hstate]
      case finished =>
        intro _ hmem
        rcases List.mem_append.mp hmem with hold | hnew
        · exact absurd hold hended
        · cases List.mem_singleton.mp hnew

/-- What is reported of a stream later on is no request. -/
theorem Followed.later {streamId : ℕ} {heard : List LibraryEvent} {dropped : Bool}
    {phase after : StreamPhase} {entry next : Option StreamState} {notices : List Notice}
    (hfollowed : Followed streamId heard dropped phase entry notices) {event : LibraryEvent}
    (hevent : ∀ headers last, event ≠ .requestReceived streamId headers last)
    (hafter : after ≠ .idle) (more : List BodyReceived)
    (hdelivered : ∀ bodies, Delivered streamId heard dropped phase entry bodies →
      Delivered streamId (heard ++ [event]) dropped after next (bodies ++ more)) :
    Followed streamId (heard ++ [event]) dropped after next (notices ++ more.map .body) where
  fresh hidle := absurd hidle hafter
  answered headers last hmem := by
    rcases List.mem_append.mp hmem with hold | hnew
    · exact (hfollowed.answered headers last hold).extend more hdelivered
    · exact absurd (List.mem_singleton.mp hnew).symm (hevent headers last)

/-- Data of a stream is followed. -/
theorem Delivered.chunk {streamId : ℕ} {heard : List LibraryEvent} {dropped : Bool}
    {entry : Option StreamState} {bodies : List BodyReceived}
    (hdelivered : Delivered streamId heard dropped .receiving entry bodies) (data : Bytes)
    (length : ℕ) (last : Bool) :
    Delivered streamId (heard ++ [.dataReceived streamId data length last]) dropped
      (if last then .ending else .receiving)
      (if last then entry.map ({ · with ended := true }) else entry)
      (bodies ++ [{ data := data, more := !last }]) := by
  have hopen := hdelivered.unfinished rfl
  have hunended : dropped = false →
      .streamEnded streamId ∉ heard ++ [.dataReceived streamId data length last] := by
    intro hkept hmem
    rcases List.mem_append.mp hmem with hold | hnew
    · exact not_endsOnce_of_continues hopen (hdelivered.finished hkept hold)
    · cases List.mem_singleton.mp hnew
  have hdata : ((bodies ++ [({ data, more := !last } : BodyReceived)]).map (·.data)).flatten =
      payloads streamId (heard ++ [.dataReceived streamId data length last]) := by
    rw [payloads_append, ← hdelivered.data]
    simp [payloads]
  cases last with
  | false =>
      have hcontinues : Continues (bodies ++ [{ data := data, more := !false }]) :=
        hopen.snoc rfl
      constructor
      case data => exact hdata
      case atMostOnce => exact .inl hcontinues
      case unfinished => exact fun _ => hcontinues
      case flagged =>
        intro state hstate
        have hflag := hdelivered.flagged state hstate
        split at hflag
        case isTrue => exact absurd hflag (not_endsOnce_of_continues hopen)
        case isFalse hstays =>
          rw [if_neg hstays]
          exact hcontinues
      case known => exact hdelivered.known
      case finished => exact fun hkept hmem => absurd hmem (hunended hkept)
  | true =>
      have hends : EndsOnce (bodies ++ [{ data := data, more := !true }]) :=
        ⟨bodies, _, rfl, rfl, hopen⟩
      constructor
      case data => exact hdata
      case atMostOnce => exact .inr hends
      case unfinished => intro hphase; cases hphase
      case flagged =>
        intro state hstate
        obtain ⟨_, -, rfl⟩ := Option.map_eq_some_iff.mp hstate
        exact hends
      case known =>
        intro hkept _
        have hknown := hdelivered.known hkept (by decide)
        simpa using hknown
      case finished => exact fun _ _ => hends

/-- The end of a stream is followed. -/
theorem Delivered.ended {streamId : ℕ} {heard : List LibraryEvent} {dropped : Bool}
    {phase : StreamPhase} {entry : Option StreamState} {bodies : List BodyReceived}
    (hdelivered : Delivered streamId heard dropped phase entry bodies) (hphase : phase ≠ .reset) :
    Delivered streamId (heard ++ [.streamEnded streamId]) dropped .ended
      (entry.map ({ · with ended := true }))
      (bodies ++ if entry.any (!·.ended) then [H2Connection.endOfBody] else []) := by
  have hpayloads : payloads streamId (heard ++ [.streamEnded streamId]) =
      payloads streamId heard := by
    simp [payloads]
  cases entry with
  | none =>
      have hdropped : dropped ≠ false := by
        intro hkept
        simpa using hdelivered.known hkept hphase
      rw [Option.any_none, if_neg Bool.false_ne_true, List.append_nil]
      constructor
      case data => rw [hpayloads, hdelivered.data]
      case atMostOnce => exact hdelivered.atMostOnce
      case unfinished => intro hopen; cases hopen
      case flagged => intro _ hstate; cases hstate
      case known => exact fun hkept => absurd hkept hdropped
      case finished => exact fun hkept => absurd hkept hdropped
  | some state =>
      have hflag := hdelivered.flagged state rfl
      have hends : EndsOnce (bodies ++
          if (some state).any (!·.ended) then [H2Connection.endOfBody] else []) := by
        cases hended : state.ended with
        | true => simpa [hended] using hflag
        | false =>
            rw [hended, if_neg Bool.false_ne_true] at hflag
            simp only [Option.any_some, hended, Bool.not_false, if_true]
            exact ⟨bodies, _, rfl, rfl, hflag⟩
      constructor
      case data =>
        rw [hpayloads, ← hdelivered.data]
        split <;> simp [H2Connection.endOfBody]
      case atMostOnce => exact .inr hends
      case unfinished => intro hopen; cases hopen
      case flagged =>
        intro other hother
        obtain rfl := Option.some.inj hother
        exact hends
      case known => intro _ _; rfl
      case finished => exact fun _ _ => hends

/-- An event of a stream is followed. -/
theorem Followed.own {streamId : ℕ} {heard : List LibraryEvent} {dropped : Bool}
    {phase after : StreamPhase} {h2 next : H2Connection Conn} {notices : List Notice}
    (hfollowed : Followed streamId heard dropped phase (h2.streams streamId) notices)
    {event : LibraryEvent} (hown : event.streamId? = some streamId)
    (hafter : phase.next event = some after) {out : List H2Event}
    (hevent : h2.receiveEvent library event = some (next, out)) :
    Followed streamId (heard ++ [event]) dropped after (next.streams streamId)
      (notices ++ noticesOf streamId out) := by
  cases event with
  | requestReceived id headers last =>
      obtain rfl := Option.some.inj hown
      exact hfollowed.request hafter hevent
  | dataReceived id data length last =>
      obtain rfl := Option.some.inj hown
      obtain ⟨rfl, rfl⟩ : phase = .receiving ∧ (if last then .ending else .receiving) = after := by
        cases phase <;> simp_all [StreamPhase.next]
      obtain ⟨-, hentry, rfl⟩ := receiveBody_eq hevent
      rw [hentry, show noticesOf id [.bodyReceived id { data, more := !last }] =
        [{ data, more := !last }].map .body from by simp [noticesOf, H2Event.notice]]
      apply hfollowed.later
      · intro _ _ heq
        cases heq
      · split <;> decide
      · exact fun bodies hdelivered => hdelivered.chunk data length last
  | trailersReceived id =>
      obtain rfl := Option.some.inj hown
      obtain ⟨rfl, rfl⟩ : phase = .receiving ∧ .ending = after := by
        cases phase <;> simp_all [StreamPhase.next]
      obtain ⟨rfl, rfl⟩ := Prod.mk.inj (Option.some.inj hevent)
      apply hfollowed.later _ _ []
      · intro bodies hdelivered
        rw [List.append_nil]
        exact { hdelivered with
          data := hdelivered.data.trans (by simp [payloads])
          unfinished := fun hphase => by cases hphase
          known := fun hkept _ => hdelivered.known hkept (by decide)
          finished := fun hkept hmem => hdelivered.finished hkept (by simpa using hmem) }
      · intro _ _ heq
        cases heq
      · decide
  | streamEnded id =>
      obtain rfl := Option.some.inj hown
      obtain ⟨hphase, rfl⟩ : phase ≠ .reset ∧ .ended = after := by
        cases phase <;> simp_all [StreamPhase.next]
      obtain ⟨-, hentry, hout⟩ := receiveEnd_eq h2 id
      have heq : h2.receiveEnd id = (next, out) := Option.some.inj hevent
      rw [heq] at hentry hout
      rw [show next.streams id = _ from hentry, show out = _ from hout]
      rw [show noticesOf id (if (h2.streams id).any (!·.ended) then
            [.bodyReceived id H2Connection.endOfBody] else []) =
          (if (h2.streams id).any (!·.ended) then [H2Connection.endOfBody] else []).map .body from by
        split <;> simp [noticesOf, H2Event.notice]]
      apply hfollowed.later
      · intro _ _ heq
        cases heq
      · decide
      · exact fun bodies hdelivered => hdelivered.ended hphase
  | streamReset id errorCode =>
      obtain rfl := Option.some.inj hown
      obtain rfl : .reset = after := by
        cases phase <;> simp_all [StreamPhase.next]
      obtain ⟨rfl, rfl⟩ := Prod.mk.inj (Option.some.inj hevent)
      rw [show (h2.removeStream id).streams id = none from setStream_streams_self ..]
      apply hfollowed.later _ _ []
      · intro bodies hdelivered
        rw [List.append_nil]
        exact { hdelivered with
          data := hdelivered.data.trans (by simp [payloads])
          unfinished := fun hphase => by cases hphase
          flagged := fun _ hstate => by cases hstate
          known := fun _ hphase => absurd rfl hphase
          finished := fun hkept hmem => hdelivered.finished hkept (by simpa using hmem) }
      · intro _ _ heq
        cases heq
      · decide
  | windowUpdated | remoteSettingsChanged | connectionTerminated => cases hown

/-! ## Whole sessions -/

/-- What holds of every stream after some operations. -/
def AllFollowed (heard : List LibraryEvent) (dropped : ℕ → Bool) (h2 : H2Connection Conn)
    (emitted : List H2Event) : Prop :=
  ∀ streamId phase, heard.foldlM (advance streamId) .idle = some phase →
    Followed streamId heard (dropped streamId) phase (h2.streams streamId)
      (noticesOf streamId emitted)

/-- One event keeps all streams followed. -/
theorem AllFollowed.event {heard : List LibraryEvent} {dropped : ℕ → Bool}
    {h2 next : H2Connection Conn} {emitted out : List H2Event} {event : LibraryEvent}
    (hall : AllFollowed heard dropped h2 emitted)
    (hevent : h2.receiveEvent library event = some (next, out)) :
    AllFollowed (heard ++ [event]) dropped next (emitted ++ out) := by
  intro streamId after hafter
  rw [List.foldlM_append, Option.bind_eq_bind, Option.bind_eq_some_iff] at hafter
  obtain ⟨phase, hphase, hadvance⟩ := hafter
  have hnext : advance streamId phase event = some after := by simpa using hadvance
  have hfollowed := hall streamId phase hphase
  rw [noticesOf_append]
  rw [advance] at hnext
  split at hnext
  case isTrue hown => exact hfollowed.own hown hnext hevent
  case isFalse hother =>
    obtain rfl := Option.some.inj hnext
    obtain ⟨hentry, hnotices⟩ := receiveEvent_other hother hevent
    rw [hentry, hnotices, List.append_nil]
    exact hfollowed.other hother

/-- A batch of events keeps all streams followed. -/
theorem AllFollowed.receive {events heard : List LibraryEvent} {dropped : ℕ → Bool}
    {h2 next : H2Connection Conn} {emitted out : List H2Event}
    (hall : AllFollowed heard dropped h2 emitted)
    (hreceived : h2.receiveData library events = some (next, out)) :
    AllFollowed (heard ++ events) dropped next (emitted ++ out) := by
  induction events generalizing heard h2 emitted out with
  | nil =>
      obtain ⟨rfl, rfl⟩ := Prod.mk.inj (Option.some.inj hreceived)
      simpa using hall
  | cons event events ih =>
      simp only [H2Connection.receiveData, Option.bind_eq_bind, Option.bind_eq_some_iff] at hreceived
      obtain ⟨⟨middle, first⟩, hfirst, ⟨last, rest⟩, hrest, heq⟩ := hreceived
      obtain ⟨rfl, rfl⟩ := Prod.mk.inj (Option.some.inj heq)
      have htail := ih (hall.event hfirst) hrest
      simpa using htail

/-- Letting go of a stream keeps all streams followed. -/
theorem AllFollowed.drop {heard : List LibraryEvent} {dropped : ℕ → Bool}
    {h2 next : H2Connection Conn} {emitted : List H2Event} {streamId : ℕ}
    (hall : AllFollowed heard dropped h2 emitted)
    (hnext : next.streams = Function.update h2.streams streamId none) :
    AllFollowed heard (fun id => dropped id || decide (streamId = id)) next emitted := by
  intro id phase hphase
  have hfollowed := hall id phase hphase
  rw [hnext]
  by_cases hid : streamId = id
  case neg =>
    rw [Function.update_of_ne (Ne.symm hid)]
    simpa [hid] using hfollowed
  case pos =>
    subst hid
    change Followed streamId heard (dropped streamId || decide (streamId = streamId)) phase _ _
    rw [Function.update_self, decide_eq_true rfl, Bool.or_true]
    constructor
    case fresh =>
      intro hidle
      obtain ⟨hnotices, hpayloads, -, hrest⟩ := hfollowed.fresh hidle
      exact ⟨hnotices, hpayloads, rfl, hrest⟩
    case answered =>
      intro headers last hmem
      have hextended : Answered streamId heard true phase none
          (noticesOf streamId emitted ++ [].map .body) headers := by
        apply (hfollowed.answered headers last hmem).extend
        intro bodies hdelivered
        rw [List.append_nil]
        exact { hdelivered with
          flagged := fun _ hstate => by cases hstate
          known := fun hkept => Bool.noConfusion hkept
          finished := fun hkept => Bool.noConfusion hkept }
      simpa using hextended

/-- The connection of the library has no part in what is followed. -/
theorem AllFollowed.withConn {heard : List LibraryEvent} {dropped : ℕ → Bool}
    {h2 : H2Connection Conn} {emitted : List H2Event}
    (hall : AllFollowed heard dropped h2 emitted) (conn : Conn) :
    AllFollowed heard dropped { h2 with conn } emitted := hall

/-- A stream the server has tried to let go of is followed on. -/
theorem Followed.loosen {streamId : ℕ} {heard : List LibraryEvent} {dropped droppedLater : Bool}
    {phase : StreamPhase} {entry : Option StreamState} {notices : List Notice}
    (hfollowed : Followed streamId heard dropped phase entry notices)
    (hdropped : droppedLater = false → dropped = false) :
    Followed streamId heard droppedLater phase entry notices := by
  refine ⟨hfollowed.fresh, fun headers last hmem => ?_⟩
  have hextended := (hfollowed.answered headers last hmem).extend []
    fun bodies hdelivered => by
      rw [List.append_nil]
      exact { hdelivered with
        known := fun hkept => hdelivered.known (hdropped hkept)
        finished := fun hkept => hdelivered.finished (hdropped hkept) }
  simpa using hextended

/-- One operation keeps all streams followed. -/
theorem AllFollowed.perform {heard : List LibraryEvent} {dropped : ℕ → Bool}
    {h2 next : H2Connection Conn} {emitted out : List H2Event} {operation : Operation Conn}
    (hall : AllFollowed heard dropped h2 emitted)
    (hperformed : h2.perform library operation = some (next, out)) :
    AllFollowed (heard ++ operation.events)
      (fun streamId => dropped streamId || operation.drops streamId) next (emitted ++ out) := by
  cases operation with
  | receive conn events =>
      simpa [Operation.events, Operation.drops] using (hall.withConn conn).receive hperformed
  | resetStream streamId errorCode =>
      obtain ⟨rfl, rfl⟩ := Prod.mk.inj (Option.some.inj hperformed)
      cases hreset : h2.resetStream library streamId errorCode with
      | none =>
          have hloose : AllFollowed heard
              (fun id => dropped id || decide (streamId = id)) h2 emitted :=
            fun id phase hphase => (hall id phase hphase).loosen
              fun hkept => (Bool.or_eq_false_iff.mp hkept).1
          simpa [Operation.events, Operation.drops] using hloose
      | some reset =>
          simpa [Operation.events, Operation.drops] using hall.drop (resetStream_streams hreset)
  | removeStream streamId =>
      obtain ⟨rfl, rfl⟩ := Prod.mk.inj (Option.some.inj hperformed)
      have hdropped : AllFollowed heard (fun id => dropped id || decide (streamId = id))
          (h2.removeStream streamId) emitted := hall.drop rfl
      simpa [Operation.events, Operation.drops] using hdropped

/-- A session keeps all streams followed. -/
theorem AllFollowed.session {operations : List (Operation Conn)} {heard : List LibraryEvent}
    {dropped : ℕ → Bool} {h2 next : H2Connection Conn} {emitted out : List H2Event}
    (hall : AllFollowed heard dropped h2 emitted)
    (hsession : h2.session library operations = some (next, out)) :
    AllFollowed (heard ++ eventsOf operations)
      (fun streamId => dropped streamId || operations.any (Operation.drops streamId)) next
      (emitted ++ out) := by
  induction operations generalizing heard dropped h2 emitted out with
  | nil =>
      obtain ⟨rfl, rfl⟩ := Prod.mk.inj (Option.some.inj hsession)
      simpa [eventsOf] using hall
  | cons operation operations ih =>
      simp only [H2Connection.session, Option.bind_eq_bind, Option.bind_eq_some_iff] at hsession
      obtain ⟨⟨middle, first⟩, hfirst, ⟨last, rest⟩, hrest, heq⟩ := hsession
      obtain ⟨rfl, rfl⟩ := Prod.mk.inj (Option.some.inj heq)
      have htail := ih (hall.perform hfirst) hrest
      simpa [eventsOf, Bool.or_assoc] using htail

/-- Initially nothing has been reported, and nothing told. -/
theorem allFollowed_nil (conn : Conn) :
    AllFollowed [] (fun _ => false) ({ conn } : H2Connection Conn) [] := by
  intro streamId phase hphase
  obtain rfl : .idle = phase := by simpa using hphase
  refine ⟨fun _ => ⟨rfl, rfl, rfl, by simp, by simp⟩, ?_⟩
  intro headers last hmem
  cases hmem

/-! ## Reads that are refused -/

/-- No event leads back to idle. -/
theorem next_ne_idle (phase : StreamPhase) (event : LibraryEvent) :
    phase.next event ≠ some .idle := by
  intro hidle
  cases event with
  | requestReceived streamId headers last | dataReceived streamId data length last =>
      cases phase <;> cases last <;> cases hidle
  | _ => cases phase <;> cases hidle

/-- A stream that is not idle stays so, and brings no other request. -/
theorem foldlM_advance {streamId : ℕ} {phase last : StreamPhase} {events : List LibraryEvent}
    (hphase : phase ≠ .idle) (hconforms : events.foldlM (advance streamId) phase = some last) :
    last ≠ .idle ∧ ∀ headers ended, .requestReceived streamId headers ended ∉ events := by
  induction events generalizing phase with
  | nil =>
      obtain rfl := Option.some.inj hconforms
      exact ⟨hphase, by simp⟩
  | cons event events ih =>
      rw [List.foldlM_cons, Option.bind_eq_bind, Option.bind_eq_some_iff] at hconforms
      obtain ⟨after, hadvance, hrest⟩ := hconforms
      rw [advance] at hadvance
      split at hadvance
      case isTrue hown =>
        have hafter : after ≠ .idle := fun hidle => next_ne_idle phase event (hidle ▸ hadvance)
        obtain ⟨hlast, hnone⟩ := ih hafter hrest
        refine ⟨hlast, fun headers ended hmem => ?_⟩
        rcases List.mem_cons.mp hmem with rfl | hmem
        · cases phase <;> first | exact hphase rfl | cases hadvance
        · exact hnone headers ended hmem
      case isFalse hother =>
        obtain rfl := Option.some.inj hadvance
        obtain ⟨hlast, hnone⟩ := ih hphase hrest
        refine ⟨hlast, fun headers ended hmem => ?_⟩
        rcases List.mem_cons.mp hmem with rfl | hmem
        · exact hother rfl
        · exact hnone headers ended hmem

section

variable {standing : Conn → ℕ → Standing}

/-- An event that is read moves no stream of the library but one whose request is malformed,
which it closes. -/
theorem Library.Ruled.receiveEvent (hruled : library.Ruled standing)
    {h2 next : H2Connection Conn} {event : LibraryEvent} {out : List H2Event}
    (hevent : h2.receiveEvent library event = some (next, out)) (streamId : ℕ) :
    standing next.conn streamId = standing h2.conn streamId ∨
      (∃ headers last, event = .requestReceived streamId headers last) ∧
        standing next.conn streamId = .closed := by
  cases event with
  | requestReceived id headers last =>
      rw [H2Connection.receiveEvent, H2Connection.receiveRequest] at hevent
      split at hevent
      case h_1 =>
        obtain ⟨reset, hreset, heq⟩ := Option.map_eq_some_iff.mp hevent
        obtain ⟨rfl, rfl⟩ := Prod.mk.inj heq
        obtain ⟨conn, hconn, rfl⟩ := Option.map_eq_some_iff.mp hreset
        have hstanding : standing conn streamId =
            Function.update (standing h2.conn) id .closed streamId :=
          congrFun (hruled.reset _ _ _ _ hconn) streamId
        by_cases hid : streamId = id
        case pos =>
          subst hid
          rw [Function.update_self] at hstanding
          exact .inr ⟨⟨headers, last, rfl⟩, hstanding⟩
        case neg =>
          rw [Function.update_of_ne hid] at hstanding
          exact .inl hstanding
      case h_2 =>
        left
        split at hevent
        · obtain ⟨rfl, rfl⟩ := Prod.mk.inj (Option.some.inj hevent)
          rfl
        · split at hevent <;>
            obtain ⟨rfl, rfl⟩ := Prod.mk.inj (Option.some.inj hevent) <;>
            rfl
  | dataReceived id data length last =>
      left
      obtain ⟨conn, hconn, heq⟩ := Option.map_eq_some_iff.mp hevent
      obtain ⟨rfl, rfl⟩ := Prod.mk.inj heq
      have hsame := congrFun (hruled.acknowledge _ _ _ _ hconn) streamId
      split <;> exact hsame
  | streamEnded id =>
      left
      have heq : h2.receiveEnd id = (next, out) := Option.some.inj hevent
      rw [H2Connection.receiveEnd] at heq
      split at heq
      case h_1 =>
        obtain ⟨rfl, rfl⟩ := Prod.mk.inj heq
        rfl
      case h_2 =>
        split at heq <;>
          obtain ⟨rfl, rfl⟩ := Prod.mk.inj heq <;>
          rfl
  | streamReset | trailersReceived | windowUpdated | remoteSettingsChanged
  | connectionTerminated =>
      obtain ⟨rfl, rfl⟩ := Prod.mk.inj (Option.some.inj hevent)
      exact .inl rfl

/-- An event is read unless it is a malformed request on a stream that cannot be reset. -/
theorem Library.Ruled.receiveEvent_isSome (hruled : library.Ruled standing)
    (h2 : H2Connection Conn) (event : LibraryEvent)
    (hknown : ∀ streamId, event.streamId? = some streamId → standing h2.conn streamId ≠ .idle) :
    (h2.receiveEvent library event).isSome ↔
      ∀ streamId headers last, event = .requestReceived streamId headers last →
        readRequest headers = none → standing h2.conn streamId = .live := by
  cases event with
  | requestReceived id headers last =>
      have hresets := hruled.resets h2.conn id protocolError
      simp only [H2Connection.receiveEvent, H2Connection.receiveRequest]
      cases hread : readRequest headers with
      | none =>
          simp only [Option.isSome_map, H2Connection.resetStream]
          constructor
          · rintro hsome _ _ _ heq -
            cases heq
            exact hresets.mp hsome
          · exact fun hlive => hresets.mpr (hlive id headers last rfl hread)
      | some read =>
          have hsome : (if read.1.method = ascii "CONNECT" ∧ read.2 = ascii "websocket" then
              some (h2.setStream id (some { headersReceived := true }),
                [H2Event.webSocketRequest id read.1 read.1.target])
            else if last then
              some (h2.setStream id (some { headersReceived := true, ended := true }),
                [.requestReceived id read.1, .bodyReceived id H2Connection.endOfBody])
            else
              some (h2.setStream id (some { headersReceived := true }),
                [.requestReceived id read.1])).isSome := by
            split
            · rfl
            · split <;> rfl
          refine iff_of_true hsome ?_
          intro _ _ _ heq hnone
          cases heq
          cases hread.symm.trans hnone
  | dataReceived id data length last =>
      refine iff_of_true ?_ fun _ _ _ heq => by cases heq
      rw [H2Connection.receiveEvent, H2Connection.receiveBody, Option.isSome_map]
      exact hruled.credits _ _ _ (hknown id rfl)
  | _ => exact iff_of_true rfl fun _ _ _ heq => by cases heq

/-- A read goes through exactly if every malformed request in it is on a stream that can be
reset. -/
theorem Library.Ruled.receiveData_isSome (hruled : library.Ruled standing)
    (h2 : H2Connection Conn) {events : List LibraryEvent}
    (hconforms : ∀ streamId, ∃ phase last, events.foldlM (advance streamId) phase = some last)
    (hknown : ∀ event ∈ events, ∀ streamId, event.streamId? = some streamId →
      standing h2.conn streamId ≠ .idle) :
    (h2.receiveData library events).isSome ↔
      ∀ streamId headers last, .requestReceived streamId headers last ∈ events →
        readRequest headers = none → standing h2.conn streamId = .live := by
  induction events generalizing h2 with
  | nil => simp [H2Connection.receiveData]
  | cons event events ih =>
      have hfirst := hruled.receiveEvent_isSome h2 event
        (hknown event (List.mem_cons_self ..))
      cases hevent : h2.receiveEvent library event with
      | none =>
          rw [hevent] at hfirst
          refine iff_of_false (by simp [H2Connection.receiveData, hevent]) fun hall => ?_
          have hnone := hfirst.mpr fun streamId headers last heq =>
            hall streamId headers last (heq ▸ List.mem_cons_self ..)
          cases hnone
      | some result =>
          obtain ⟨middle, first⟩ := result
          rw [hevent] at hfirst
          have hlive := hfirst.mp rfl
          have hmoved := hruled.receiveEvent hevent
          have hafter : ∀ streamId, ∃ phase last,
              events.foldlM (advance streamId) phase = some last := by
            intro streamId
            obtain ⟨phase, last, hfold⟩ := hconforms streamId
            rw [List.foldlM_cons, Option.bind_eq_bind, Option.bind_eq_some_iff] at hfold
            obtain ⟨after, -, hrest⟩ := hfold
            exact ⟨after, last, hrest⟩
          have hrest := ih middle hafter fun other hmem streamId hid => by
            rcases hmoved streamId with hsame | ⟨-, hclosed⟩
            · rw [hsame]
              exact hknown other (List.mem_cons_of_mem _ hmem) streamId hid
            · rw [hclosed]
              decide
          have hboth : (h2.receiveData library (event :: events)).isSome ↔
              (middle.receiveData library events).isSome := by
            simp only [H2Connection.receiveData, hevent, Option.bind_eq_bind, Option.bind_some]
            cases middle.receiveData library events <;> simp
          -- the request of a stream comes once, so that no other event has moved its stream
          have hsame : ∀ streamId headers last, .requestReceived streamId headers last ∈ events →
              standing middle.conn streamId = standing h2.conn streamId := by
            intro streamId headers last hmem
            refine (hmoved streamId).resolve_right ?_
            rintro ⟨⟨own, ownLast, rfl⟩, -⟩
            obtain ⟨phase, final, hfold⟩ := hconforms streamId
            rw [List.foldlM_cons, Option.bind_eq_bind, Option.bind_eq_some_iff] at hfold
            obtain ⟨after, hadvance, hfold⟩ := hfold
            have hnext : phase.next (.requestReceived streamId own ownLast) = some after := by
              simpa [advance, LibraryEvent.streamId?] using hadvance
            have hnotIdle : after ≠ .idle := fun hidle => next_ne_idle _ _ (hidle ▸ hnext)
            exact (foldlM_advance hnotIdle hfold).2 headers last hmem
          rw [hboth, hrest]
          constructor
          · intro hall streamId headers last hmem hmalformed
            rcases List.mem_cons.mp hmem with heq | hmem
            · exact hlive streamId headers last heq.symm hmalformed
            · rw [← hsame streamId headers last hmem]
              exact hall streamId headers last hmem hmalformed
          · intro hall streamId headers last hmem hmalformed
            rw [hsame streamId headers last hmem]
            exact hall streamId headers last (List.mem_cons_of_mem _ hmem) hmalformed

/-- A malformed request can be reset as long as the read has not closed its stream. -/
theorem Reported.rejectable_iff {conn : Conn} {events : List LibraryEvent}
    (hreported : Reported standing conn events) :
    Rejectable events ↔ ∀ streamId headers last, .requestReceived streamId headers last ∈ events →
      readRequest headers = none → standing conn streamId = .live := by
  constructor
  · intro hspared streamId headers last hmem hmalformed
    obtain ⟨hreset, hterminated⟩ := hspared streamId headers last hmem hmalformed
    exact hreported.opened streamId headers last hmem hreset hterminated
  · intro hall streamId headers last hmem hmalformed
    have hlive := hall streamId headers last hmem hmalformed
    constructor
    · intro errorCode hreset
      cases hlive.symm.trans (hreported.reset streamId errorCode hreset)
    · intro lastStreamId errorCode hterminated
      exact hreported.terminated lastStreamId errorCode hterminated streamId hlive

/-- A session runs to its end exactly if every malformed request can be reset. -/
theorem Library.Ruled.session_isSome (hruled : library.Ruled standing)
    (h2 : H2Connection Conn) {operations : List (Operation Conn)}
    (hconforms : ∀ streamId, ∃ phase last,
      (eventsOf operations).foldlM (advance streamId) phase = some last)
    (hreported : ∀ conn events, .receive conn events ∈ operations →
      Reported standing conn events) :
    (h2.session library operations).isSome ↔
      ∀ conn events, .receive conn events ∈ operations → Rejectable events := by
  induction operations generalizing h2 with
  | nil => simp [H2Connection.session]
  | cons operation operations ih =>
      have hsplit : ∀ streamId, (∃ phase last,
          operation.events.foldlM (advance streamId) phase = some last) ∧
          ∃ phase last, (eventsOf operations).foldlM (advance streamId) phase = some last := by
        intro streamId
        obtain ⟨phase, last, hfold⟩ := hconforms streamId
        rw [eventsOf, List.flatMap_cons, List.foldlM_append, Option.bind_eq_bind,
          Option.bind_eq_some_iff] at hfold
        obtain ⟨after, hfirst, hrest⟩ := hfold
        exact ⟨⟨phase, after, hfirst⟩, after, last, hrest⟩
      have hperform : (h2.perform library operation).isSome ↔
          ∀ conn events, operation = .receive conn events → Rejectable events := by
        cases operation with
        | receive conn events =>
            have hown := hreported conn events (List.mem_cons_self ..)
            have hread := hruled.receiveData_isSome { h2 with conn }
              (fun streamId => (hsplit streamId).1) hown.known
            refine hread.trans (hown.rejectable_iff.symm.trans ?_)
            constructor
            · rintro hspared _ _ heq
              cases heq
              exact hspared
            · exact fun hall => hall conn events rfl
        | resetStream | removeStream => exact iff_of_true rfl fun _ _ heq => by cases heq
      have hmem : (∀ conn events, .receive conn events ∈ operation :: operations →
          Rejectable events) ↔
          (∀ conn events, operation = .receive conn events → Rejectable events) ∧
            ∀ conn events, .receive conn events ∈ operations → Rejectable events := by
        simp only [List.mem_cons, or_imp, forall_and, eq_comm]
      rw [hmem, ← hperform]
      cases hfirst : h2.perform library operation with
      | none => simp [H2Connection.session, hfirst]
      | some result =>
          rw [← ih result.1 (fun streamId => (hsplit streamId).2)
            fun conn events hlater => hreported conn events (List.mem_cons_of_mem _ hlater)]
          simp only [H2Connection.session, hfirst, Option.bind_eq_bind, Option.bind_some,
            Option.isSome_some, true_and]
          cases result.1.session library operations <;> simp

end

/-- What is told of every stream in a session: nothing of a request that is refused; an accepted
request once, and first, then its data, and of the end at most once, with the last body event. The
end is not lost either, unless the server itself has let go of the stream. -/
def ToldOnce (operations : List (Operation Conn)) (emitted : List H2Event) : Prop :=
  ∀ streamId headers last, .requestReceived streamId headers last ∈ eventsOf operations →
    match readRequest headers with
    | none => ∀ request, .request request ∉ noticesOf streamId emitted
    | some (request, _) => ∃ bodies,
        noticesOf streamId emitted = .request request :: bodies.map .body ∧
        (bodies.map (·.data)).flatten = payloads streamId (eventsOf operations) ∧
        (Continues bodies ∨ EndsOnce bodies) ∧
        (.streamEnded streamId ∈ eventsOf operations →
          (∀ operation ∈ operations, operation.drops streamId = false) →
          EndsOnce bodies)

/-- A session that runs to its end tells everything once. -/
theorem toldOnce_session {conn : Conn} {operations : List (Operation Conn)}
    {next : H2Connection Conn} {emitted : List H2Event}
    (hconforming : Conforming (eventsOf operations))
    (hsession : H2Connection.session library { conn } operations = some (next, emitted)) :
    ToldOnce operations emitted := by
  intro streamId headers last hmem
  obtain ⟨phase, hphase⟩ := Option.isSome_iff_exists.mp (hconforming streamId)
  have hfollowed := (allFollowed_nil conn).session hsession streamId phase hphase
  have hanswered := hfollowed.answered headers last hmem
  unfold Answered at hanswered
  split at hanswered
  case h_1 => exact hanswered
  case h_2 =>
    obtain ⟨bodies, hnotices, hdelivered⟩ := hanswered
    refine ⟨bodies, hnotices, hdelivered.data, hdelivered.atMostOnce, ?_⟩
    intro hended hkept
    apply hdelivered.finished _ hended
    simpa using hkept

/-- The events are read to the end, and everything is told once, exactly if no malformed request
comes in one read with a reset of its stream or the end of the connection. -/
theorem receive_once (library : Library Conn) (standing : Conn → ℕ → Standing)
    (hruled : library.Ruled standing) (conn : Conn) (operations : List (Operation Conn))
    (hconforming : Conforming (eventsOf operations))
    (hreported : ∀ conn events, .receive conn events ∈ operations →
      Reported standing conn events) :
    (∃ next emitted, H2Connection.session library { conn } operations = some (next, emitted) ∧
        ToldOnce operations emitted) ↔
      ∀ conn events, .receive conn events ∈ operations → Rejectable events := by
  have hsession := hruled.session_isSome { conn }
    (fun streamId => ⟨_, Option.isSome_iff_exists.mp (hconforming streamId)⟩) hreported
  rw [← hsession]
  constructor
  · rintro ⟨next, emitted, hrun, -⟩
    rw [hrun]
    rfl
  · intro hsome
    obtain ⟨⟨next, emitted⟩, hrun⟩ := Option.isSome_iff_exists.mp hsome
    exact ⟨next, emitted, hrun, toldOnce_session hconforming hrun⟩

/-! ## Two sessions -/

/-- A library that knows of its streams where they stand, and nothing else. -/
def Library.standing : Library (ℕ → Standing) where
  acknowledgeReceivedData conn _ streamId := if conn streamId = .idle then none else some conn
  resetStream conn streamId _ :=
    if conn streamId = .live then some (Function.update conn streamId .closed) else none

theorem ruled_standing : Library.standing.Ruled fun conn => conn where
  credits conn length streamId hknown := by simp [Library.standing, hknown]
  acknowledge conn length streamId next hacknowledged := by
    simp only [Library.standing] at hacknowledged
    split at hacknowledged
    · cases hacknowledged
    · exact (Option.some.inj hacknowledged).symm
  resets conn streamId errorCode := by simp [Library.standing]
  reset conn streamId errorCode next hreset := by
    simp only [Library.standing] at hreset
    split at hreset
    · exact (Option.some.inj hreset).symm
    · cases hreset

/-- Two streams are there. -/
def twoStreams : ℕ → Standing := fun streamId =>
  if streamId = 1 ∨ streamId = 3 then .live else .idle

/-- The head of an upload. -/
def uploadHead : List Header :=
  [(ascii ":method", ascii "PUT"), (ascii ":scheme", ascii "https"),
    (ascii ":authority", ascii "a"), (ascii ":path", ascii "/f")]

/-- The request it stands for. -/
def uploadRequest : RequestReceived where
  method := ascii "PUT"
  target := ascii "/f"
  headers := [(ascii "host", ascii "a")]
  httpVersion := .http2

/-- An upload in two reads, with a request for no authority on another stream in between. -/
def upload : List (Operation (ℕ → Standing)) :=
  [.receive twoStreams [.requestReceived 1 uploadHead false,
      .dataReceived 1 (ascii "ab") 2 false, .requestReceived 3 (uploadHead.eraseIdx 2) true],
    .receive twoStreams [.streamEnded 3, .dataReceived 1 (ascii "c") 1 true, .streamEnded 1]]

/-- The events of streams 1 and 3 conform if they do on these two. -/
theorem conforming_of_two {events : List LibraryEvent}
    (hone : (events.foldlM (advance 1) .idle).isSome)
    (hthree : (events.foldlM (advance 3) .idle).isSome)
    (honly : ∀ event ∈ events, event.streamId? = some 1 ∨ event.streamId? = some 3) :
    Conforming events := by
  intro streamId
  by_cases hfirst : streamId = 1
  case pos => rwa [hfirst]
  case neg =>
    by_cases hsecond : streamId = 3
    case pos => rwa [hsecond]
    case neg =>
      suffices hidle : events.foldlM (advance streamId) .idle = some .idle by simp [hidle]
      clear hone hthree
      induction events with
      | nil => rfl
      | cons event events ih =>
          have hother : event.streamId? ≠ some streamId := by
            rcases honly event (List.mem_cons_self ..) with hid | hid <;>
              simp [hid, Ne.symm hfirst, Ne.symm hsecond]
          rw [List.foldlM_cons, advance, if_neg hother]
          exact ih fun other hmem => honly other (List.mem_cons_of_mem _ hmem)

theorem receive_once_upload :
    ∃ next emitted,
      H2Connection.session .standing { conn := twoStreams } upload = some (next, emitted) ∧
        ∃ bodies, noticesOf 1 emitted = .request uploadRequest :: bodies.map .body ∧
          (bodies.map (·.data)).flatten = ascii "abc" ∧ EndsOnce bodies := by
  have hconforming : Conforming (eventsOf upload) :=
    conforming_of_two (by decide) (by decide) (by decide)
  have hreported : ∀ conn events, .receive conn events ∈ upload →
      Reported (fun conn => conn) conn events := by
    intro conn events hmem
    have hboth : conn = twoStreams ∧ (∀ event ∈ events, event.streamId? = some 1 ∨
        event.streamId? = some 3) ∧ (∀ streamId errorCode,
        .streamReset streamId errorCode ∉ events) := by
      simp only [upload, List.mem_cons, Operation.receive.injEq, List.not_mem_nil, or_false] at hmem
      rcases hmem with ⟨rfl, rfl⟩ | ⟨rfl, rfl⟩ <;>
        exact ⟨rfl, by decide, by simp⟩
    obtain ⟨rfl, honly, hnone⟩ := hboth
    have hthere : ∀ event ∈ events, ∀ streamId, event.streamId? = some streamId →
        twoStreams streamId = .live := by
      intro event hevent streamId hid
      rcases honly event hevent with hfirst | hsecond
      · rw [← Option.some.inj (hfirst.symm.trans hid)]
        rfl
      · rw [← Option.some.inj (hsecond.symm.trans hid)]
        rfl
    constructor
    case known =>
      intro event hevent streamId hid
      rw [hthere event hevent streamId hid]
      decide
    case reset => exact fun streamId errorCode hreset => absurd hreset (hnone streamId errorCode)
    case terminated =>
      intro lastStreamId errorCode hterminated
      rcases honly _ hterminated with hid | hid <;> cases hid
    case opened =>
      intro streamId headers last hopened _ _
      exact hthere _ hopened streamId rfl
  have hspared : ∀ conn events, .receive conn events ∈ upload → Rejectable events := by
    intro conn events hmem
    simp only [upload, List.mem_cons, Operation.receive.injEq, List.not_mem_nil, or_false] at hmem
    rcases hmem with ⟨-, rfl⟩ | ⟨-, rfl⟩ <;>
      exact fun _ _ _ _ _ => ⟨by simp, by simp⟩
  obtain ⟨next, emitted, hsession, htold⟩ :=
    (receive_once .standing (fun conn => conn) ruled_standing twoStreams upload hconforming
      hreported).mpr hspared
  have hupload := htold 1 uploadHead false (by decide)
  rw [show readRequest uploadHead = some (uploadRequest, []) from by decide] at hupload
  obtain ⟨bodies, hnotices, hdata, -, hends⟩ := hupload
  exact ⟨next, emitted, hsession, bodies, hnotices, hdata.trans (by decide),
    hends (by decide) (by decide)⟩

/-- An upload on stream 1, and a request for no authority on stream 3 that its client resets, all
in one read, by the end of which stream 3 is closed. -/
def resetUpload : List (Operation (ℕ → Standing)) :=
  [.receive (Function.update twoStreams 3 .closed)
    [.requestReceived 1 uploadHead true, .streamEnded 1,
      .requestReceived 3 (uploadHead.eraseIdx 2) false, .streamReset 3 8]]

/-- The malformed request cannot be reset, and the upload is lost with it. -/
theorem receive_once_reset :
    ¬ ∀ (operations : List (Operation (ℕ → Standing))), Conforming (eventsOf operations) →
      (∀ conn events, .receive conn events ∈ operations →
        Reported (fun conn => conn) conn events) →
      ∃ next emitted, H2Connection.session .standing { conn := fun _ => .idle } operations =
        some (next, emitted) ∧ ToldOnce operations emitted := by
  intro hclaim
  have hconforming : Conforming (eventsOf resetUpload) :=
    conforming_of_two (by decide) (by decide) (by decide)
  have hreported : ∀ conn events, .receive conn events ∈ resetUpload →
      Reported (fun conn => conn) conn events := by
    intro conn events hmem
    simp only [resetUpload, List.mem_singleton, Operation.receive.injEq] at hmem
    obtain ⟨rfl, rfl⟩ := hmem
    constructor
    case known =>
      intro event hevent streamId hid
      simp only [List.mem_cons, List.not_mem_nil, or_false] at hevent
      rcases hevent with rfl | rfl | rfl | rfl <;> obtain rfl := Option.some.inj hid <;> decide
    case reset =>
      intro streamId errorCode hreset
      simp only [List.mem_cons, reduceCtorEq, LibraryEvent.streamReset.injEq, List.not_mem_nil,
        or_false, false_or] at hreset
      obtain ⟨rfl, -⟩ := hreset
      decide
    case terminated => exact fun _ _ hterminated => by simp at hterminated
    case opened =>
      intro streamId headers last hopened hreset _
      simp only [List.mem_cons, reduceCtorEq, LibraryEvent.requestReceived.injEq,
        List.not_mem_nil, or_false, false_or] at hopened
      rcases hopened with ⟨rfl, -⟩ | ⟨rfl, -⟩
      · decide
      · exact absurd (by simp) (hreset 8)
  obtain ⟨next, emitted, hsession, -⟩ := hclaim resetUpload hconforming hreported
  have hnone : (H2Connection.session .standing { conn := fun _ => .idle } resetUpload).isSome =
      false := by decide
  rw [hsession] at hnone
  cases hnone

end Pounce.H2
