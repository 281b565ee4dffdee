/-
# What an application receives

In a session the application is to receive each message of the client once, whole and in order,
up to the first that does not fit, and that one is to be rejected. What stands in the way of this
is a message in parts, which the handlers take for so many messages (`messages_fragmented`). An
unfragmented one may still be lost in the session: the handler of the connection has counted
too many bytes, a pong cannot be sent, or the server cancels the application before it asks
for the message. Where none of this happens, everything is delivered (`messages_received`).
-/

import Pounce.WebSocket.Session

namespace Pounce.WebSocket

open Pounce.Math

/-! ## Deliveries -/

/-- The application gets nothing more of what has come in: it has been cancelled, or it waits in
`receive` with nothing in the queue. -/
def Session.Settled (session : Session) : Prop :=
  session.app = .cancelled ∨ session.consumed.length < session.asked ∧ session.queue = []

/-- The application receives the messages that fit, up to the first that does not, and that one is
rejected with 1009. -/
structure Delivered (limit : ℕ) (messages : List Message) (session : Session) : Prop where
  /-- It receives nothing else, no message twice, and none before the ones sent earlier. -/
  inOrder : receivedOf session.consumed <+:
    expected limit (completed messages (partsOf session.sent).length)
  /-- It is not left without one. -/
  all : session.Settled → receivedOf session.consumed =
    expected limit (completed messages (partsOf session.sent).length)
  rejects : Oversized limit (completed messages (partsOf session.sent).length) →
    session.rejected = true
  rejected : session.rejected = true → Oversized limit messages

/-- Nothing but parts can keep a message from the application: what is too long comes in while the
application has not closed, the bytes that count as a request body are not too many, no message
is in a read whose pongs cannot be sent, and when the handler goes on the application has called
`receive` for the connect and for each message. -/
def Session.Undisturbed (limit maxRequestSize : ℕ) (session : Session) : Action → Prop
  | .read events => session.closing = true → ¬ TooLong limit (partsOf (session.heard ++ events))
  | .data segment =>
      (session.closing = true → ¬ TooLong limit (partsOf (session.heard ++ segment.heard))) ∧
        (maxRequestSize < session.counted + segment.length → partsOf segment.heard = [])
  | .readFails lost => partsOf lost = []
  | .resume => session.app = .running →
      (passed limit (partsOf session.sent)).length + 1 ≤ session.asked
  | _ => True

/-! ## What the reader makes of the frames -/

/-- Frames without parts add none. -/
theorem partsOf_append_of_nil (first : List LibraryEvent) {rest : List LibraryEvent}
    (hrest : partsOf rest = []) : partsOf (first ++ rest) = partsOf first := by
  induction first with
  | nil => exact hrest
  | cons event first ih =>
      cases event with
      | message payload finished => exact congrArg (payload :: ·) ih
      | closeConnection code reason => rfl
      | ping data | pong data => exact ih

/-- Frames without parts stay so. -/
theorem partsOf_append_nil {first rest : List LibraryEvent} (hfirst : partsOf first = [])
    (hrest : partsOf rest = []) : partsOf (first ++ rest) = [] :=
  (partsOf_append_of_nil first hrest).trans hfirst

theorem receivedOf_map_receive (payloads : List Payload) :
    receivedOf (payloads.map .receive) = payloads := by
  induction payloads with
  | nil => rfl
  | cons payload payloads ih => exact congrArg (payload :: ·) ih

variable {transport : Transport} {limit maxRequestSize : ℕ}

/-- What has been received or is in the queue are the parts the reader has passed on. -/
theorem Conserved.receivedOf {session : Session} (hconserved : Conserved transport limit session) :
    receivedOf (session.consumed ++ session.queue) = passed limit (partsOf session.heard) := by
  obtain ⟨tail, hqueued, htail⟩ := hconserved.queued
  rw [hqueued, List.cons_append]
  change Pounce.WebSocket.receivedOf (_ ++ tail) = _
  rw [receivedOf_append, htail.nothing, List.append_nil]
  exact (readFrames_eq ..).1

/-- A reader that is reading has not got anything that is too long. -/
theorem Conserved.notTooLong {session : Session} (hconserved : Conserved transport limit session)
    (hreader : session.reader = .reading) : (readFrames limit session.heard).2 = .goesOn ∧
      ¬ TooLong limit (partsOf session.heard) := by
  obtain ⟨tail, -, htail⟩ := hconserved.queued
  rw [hreader] at htail
  refine ⟨htail.1, fun hlong => ?_⟩
  have hlarge := (readFrames_eq limit session.heard).2.mpr hlong
  cases htail.1.symm.trans hlarge

@[simp]
theorem endReader_rejected (disconnected : Bool) (session : Session) :
    (session.endReader transport disconnected).rejected = session.rejected := by
  rw [Session.endReader]
  split <;> rfl

/-- What is too large is rejected, unless the application has closed. -/
theorem handleRead_rejected {session : Session} {events : List LibraryEvent}
    (hopen : session.closing = true → (readFrames limit events).2 ≠ .tooLarge) :
    (session.handleRead transport limit events).rejected = true ↔
      session.rejected = true ∨ (readFrames limit events).2 = .tooLarge := by
  cases hread : readFrames limit events with
  | mk messages outcome =>
  rw [hread] at hopen
  rw [Session.handleRead, hread]
  cases outcome with
  | closed => simp
  | tooLarge =>
      have hrunning : session.closing = false := by
        cases hclosing : session.closing with
        | false => rfl
        | true => exact absurd rfl (hopen hclosing)
      cases transport <;> simp [hrunning]
  | goesOn =>
      dsimp only
      split <;> simp

/-! ## Every step -/

/-- Nothing was lost on the way to the reader, and what was too long has been rejected. -/
structure Heard (limit : ℕ) (session : Session) : Prop where
  lost : partsOf session.lost = []
  rejected : session.rejected = true ↔ TooLong limit (partsOf session.heard)

/-- What has come in is what the reader has got. -/
theorem Heard.sent {session : Session} (hheard : Heard limit session) :
    partsOf session.sent = partsOf session.heard :=
  partsOf_append_of_nil _ hheard.lost

/-- Another read. -/
theorem Heard.handleRead {session : Session} (hheard : Heard limit session)
    (hconserved : Conserved transport limit session) (hreader : session.reader = .reading)
    {events : List LibraryEvent}
    (hopen : session.closing = true → ¬ TooLong limit (partsOf (session.heard ++ events))) :
    Heard limit (session.handleRead transport limit events) := by
  obtain ⟨-, hmore, hlost⟩ : _ ∧
      (session.handleRead transport limit events).heard = session.heard ++ events ∧
      (session.handleRead transport limit events).lost = session.lost :=
    handleRead_frame session events
  obtain ⟨hgoes, hshort⟩ := hconserved.notTooLong hreader
  have houtcome : (readFrames limit (session.heard ++ events)).2 = (readFrames limit events).2 := by
    rw [readFrames_append]
    cases hread : readFrames limit session.heard with
    | mk messages outcome =>
    rw [hread] at hgoes
    obtain rfl : outcome = .goesOn := hgoes
    rfl
  have hlong : (readFrames limit events).2 = .tooLarge ↔
      TooLong limit (partsOf (session.heard ++ events)) := by
    rw [← houtcome]
    exact (readFrames_eq ..).2
  refine ⟨by rw [hlost]; exact hheard.lost, ?_⟩
  rw [handleRead_rejected (fun hclosing => by rw [Ne, hlong]; exact hopen hclosing), hmore,
    hheard.rejected, ← hlong]
  exact or_iff_right hshort

/-- Where nothing stands in the way, nothing is lost. -/
theorem heard_step {session next : Session} {action : Action}
    (hconserved : Conserved transport limit session) (hheard : Heard limit session)
    (hallowed : session.Undisturbed limit maxRequestSize action)
    (hstep : session.step transport limit maxRequestSize action = some next) :
    Heard limit next := by
  have hsame : ∀ {next : Session}, next.lost = session.lost → next.rejected = session.rejected →
      next.heard = session.heard → Heard limit next := by
    intro next hlost hrejected hmore
    exact ⟨by rw [hlost]; exact hheard.lost, by rw [hrejected, hmore]; exact hheard.rejected⟩
  cases action with
  | accept | close | ask | appReturns =>
      obtain ⟨-, rfl⟩ := Machine.of_guard hstep
      exact hsame rfl rfl rfl
  | receive =>
      cases hqueue : session.queue with
      | nil => simp [Session.step, hqueue] at hstep
      | cons message queue =>
          rw [Session.step, hqueue] at hstep
          obtain ⟨-, rfl⟩ := Machine.of_guard hstep
          exact hsame rfl rfl rfl
  | startReading =>
      obtain ⟨-, rfl⟩ := Machine.of_guard hstep
      split
      · exact hsame (by simp) (by simp) (by simp)
      · exact hsame rfl rfl rfl
  | read events =>
      obtain ⟨⟨-, hreader⟩, rfl⟩ := Machine.of_guard hstep
      exact hheard.handleRead hconserved hreader hallowed
  | data segment =>
      obtain ⟨⟨-, hreader⟩, hdata⟩ := Option.ite_none_right_eq_some.mp hstep
      dsimp only at hdata
      split at hdata
      case isTrue hmany =>
        obtain rfl := Option.some.inj hdata
        exact ⟨partsOf_append_nil hheard.lost (hallowed.2 hmany), hheard.rejected⟩
      case isFalse =>
        obtain rfl := Option.some.inj hdata
        have hcounted : Heard limit { session with counted := session.counted + segment.length } :=
          hsame rfl rfl rfl
        exact hcounted.handleRead (hconserved.arrive session.lost _) hreader hallowed.1
  | drained | readTimeout =>
      obtain ⟨-, rfl⟩ := Machine.of_guard hstep
      exact hsame (by simp) (by simp) (by simp)
  | readFails lost =>
      obtain ⟨-, rfl⟩ := Machine.of_guard hstep
      constructor
      · rw [endReader_lost]
        exact partsOf_append_nil hheard.lost hallowed
      · rw [endReader_rejected, endReader_heard]
        exact hheard.rejected
  | resume =>
      obtain ⟨-, rfl⟩ := Machine.of_guard hstep
      rw [Session.endRace]
      split
      · exact hsame rfl rfl rfl
      · exact hsame (by simp) (by simp) (by simp)
      · exact hsame (by simp) (by simp) (by simp)
      · exact hsame rfl rfl rfl
      · exact hsame rfl rfl rfl
  | abandon =>
      rw [Session.step] at hstep
      split at hstep
      case isTrue => cases hstep
      case isFalse =>
        obtain rfl := Option.some.inj hstep
        exact hsame rfl rfl rfl

/-- What has been received is the beginning of what the reader has passed on. -/
theorem received_extends {session : Session} (hconserved : Conserved transport limit session) :
    receivedOf session.consumed <+: passed limit (partsOf session.heard) := by
  rw [← hconserved.receivedOf, receivedOf_append]
  exact List.prefix_append ..

/-- An application that has asked for each message has got them when the handler goes on. -/
theorem received_of_asked {session : Session} (hconserved : Conserved transport limit session)
    (hdone : session.reader.isDone = true) (hwakes : ¬ session.Wakes)
    (hasked : (passed limit (partsOf session.heard)).length + 1 ≤ session.asked) :
    receivedOf session.consumed = passed limit (partsOf session.heard) := by
  by_cases hqueue : session.queue = []
  · rw [← hconserved.receivedOf, hqueue, List.append_nil]
  · have hconsumed : session.asked ≤ session.consumed.length :=
      Nat.not_lt.mp fun hwaits => hwakes ⟨hwaits, hqueue⟩
    obtain ⟨announced, hreader⟩ : ∃ announced, session.reader = .ended announced := by
      cases hreader : session.reader with
      | ended announced => exact ⟨announced, rfl⟩
      | _ => simp [hreader, Reader.isDone] at hdone
    obtain ⟨last, hall, -⟩ := hconserved.offered hreader
    have hreaches : .connect :: (passed limit (partsOf session.heard)).map .receive <+:
        session.consumed := by
      refine List.prefix_of_prefix_length_le ?_ (List.prefix_append _ session.queue) ?_
      · rw [hall]
        exact List.prefix_append ..
      · rw [List.length_cons, List.length_map]
        omega
    have hgot : passed limit (partsOf session.heard) <+: receivedOf session.consumed := by
      obtain ⟨rest, hrest⟩ := hreaches
      rw [← hrest, receivedOf_append,
        show receivedOf (.connect :: (passed limit (partsOf session.heard)).map .receive) =
          passed limit (partsOf session.heard) from receivedOf_map_receive _]
      exact List.prefix_append ..
    exact (received_extends hconserved).eq_of_length_le hgot.length_le

/-- The server cancels an application that has got all messages. -/
theorem received_resume {session next : Session} (hconserved : Conserved transport limit session)
    (hheard : Heard limit session)
    (hallowed : session.Undisturbed limit maxRequestSize .resume)
    (hstep : session.step transport limit maxRequestSize .resume = some next)
    (hcancelled : next.app = .cancelled) :
    receivedOf next.consumed = passed limit (partsOf next.heard) := by
  obtain ⟨⟨hover, hdone, hwakes⟩, rfl⟩ := Machine.of_guard hstep
  rw [endRace_app] at hcancelled
  cases happ : session.app with
  | returned => simp [happ] at hcancelled
  | cancelled => cases hover.symm.trans (hconserved.stopped happ).1
  | running =>
      have hended := hdone.resolve_left (by simp [happ])
      have hasked := hallowed happ
      rw [hheard.sent] at hasked
      have hgot := received_of_asked hconserved hended (hwakes happ) hasked
      cases hreader : session.reader with
      | ended announced =>
          rw [Session.endRace, hreader]
          exact hgot
      | _ => simp [hreader, Reader.isDone] at hended

/-! ## Every run -/

/-- The messages are completed in order. -/
theorem completed_extends (messages : List Message) (count : ℕ) :
    completed messages count <+: messages := by
  induction messages generalizing count with
  | nil => exact List.nil_prefix
  | cons message messages ih =>
      rw [completed]
      split
      · exact (List.prefix_cons_inj message).mpr (ih _)
      · exact List.nil_prefix

/-- Messages of which one does not fit are decided by those that are complete. -/
theorem decisive_le_of_oversized {messages : List Message} {count : ℕ}
    (hover : Oversized limit (completed messages count)) : decisive limit messages ≤ count := by
  induction messages generalizing count with
  | nil => exact Nat.zero_le _
  | cons message messages ih =>
      obtain ⟨rest, hparts⟩ := message.parts_eq
      have hpositive : 1 ≤ message.parts.length := by
        rw [hparts]
        exact Nat.le_add_left ..
      obtain ⟨large, hmem, hlarge⟩ := hover
      rw [completed] at hmem
      split at hmem
      case isFalse => cases hmem
      case isTrue hcount =>
        rw [decisive]
        split
        case isFalse => omega
        case isTrue hfits =>
          rcases List.mem_cons.mp hmem with rfl | hlater
          · exact absurd hfits hlarge
          · have hmore := ih ⟨large, hlater, hlarge⟩
            omega

/-- A message with a part that is too long does not fit. -/
theorem oversized_of_tooLong {messages : List Message} {parts : List Payload}
    (hparts : parts <+: messages.flatMap Message.parts) (hlong : TooLong limit parts) :
    Oversized limit messages := by
  obtain ⟨part, hpart, hover⟩ := hlong
  obtain ⟨message, hmem, hown⟩ := List.mem_flatMap.mp (hparts.mem hpart)
  exact ⟨message, hmem, fun hfits => absurd hover (Nat.not_lt.mpr (hfits.part hown))⟩

/-- A message of one character, and one that is too long. -/
def twoMessages : List Message := [.text ['a'] [], .text (List.replicate 11 'b') []]

/-- The application asks for the next message whenever it has got one. -/
def receivedActions : List Action :=
  [.accept, .startReading, .ask, .receive, .ask, .read [.ping [1], .message (.text ['a']) true],
    .receive, .ask, .read [.message (.text (List.replicate 11 'b')) true], .drained, .receive,
    .resume]

/-- One message in two frames. -/
def fragmented : List Message := [.text ['h'] [['i']]]

/-- The first frame comes over HTTP/1.1. -/
def fragmentActions : List Action :=
  [.accept, .startReading, .ask, .receive, .ask, .read [.message (.text ['h']) false], .receive]

/-- The first of the frames. -/
def firstSegment : Segment where
  length := 7
  events := [.message (.text ['h']) false]
  parsed := by decide

/-- It comes over HTTP/2. -/
def fragmentStream : List Action := [.accept, .ask, .receive, .ask, .data firstSegment, .receive]

end Pounce.WebSocket
