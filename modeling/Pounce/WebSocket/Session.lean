/-
# The end of a WebSocket session

A session is a race between the application and the reader of its frames: when one of the
two tasks is done, the handler cancels the other. The reader is done as soon as it has put
the close of the client into the queue, and the application is then cancelled wherever it
is, be it in the middle of the messages that were queued before. `Served` says that it
has got all of them and exactly one disconnect.

The event loop calls what has been woken in the order in which it was. So an application
that waits in `receive` for something that has been queued goes on before the handler does,
and it is served if it asks for the next message whenever it has got one, and the reader has
not ended without a word (`disconnect_served`); in any other case it is cut off
(`served_resume_iff`).
-/

import Pounce.Math.Transition
import Pounce.WebSocket.Messages

namespace Pounce.WebSocket

open Pounce.Math

/-! ## The tasks of a session -/

/-- The protocol a session runs over. -/
inductive Transport where
  | h1
  | h2
  deriving DecidableEq, Repr

/-- Where the reader of the frames stands. -/
inductive Reader where
  /-- Over HTTP/1.1: waiting for the application to accept. -/
  | waiting
  | reading
  /-- Over HTTP/1.1: draining the close frame for a message that is too large. -/
  | shutting
  /-- Done; it has queued a disconnect, or has not. -/
  | ended (announced : Bool)
  | cancelled
  deriving DecidableEq, Repr

/-- The reader is done by itself. -/
def Reader.isDone : Reader → Bool
  | .ended _ => true
  | _ => false

/-- Where the application stands. -/
inductive App where
  | running
  | returned
  | cancelled
  deriving DecidableEq, Repr

/-- A session. -/
structure Session where
  /-- `accept_event` is set. -/
  accepted : Bool := false
  /-- `close_event` is set. -/
  closing : Bool := false
  /-- `receive_queue`. -/
  queue : List AppMessage := [.connect]
  /-- What the application has received. -/
  consumed : List AppMessage := []
  reader : Reader
  app : App := .running
  /-- The handler is past the race. -/
  resumed : Bool := false
  /-- The frames the reader has got. -/
  heard : List LibraryEvent := []
  /-- How often the application has called `receive`. -/
  asked : ℕ := 0
  /-- The frames that came in after those and that the reader did not get. -/
  lost : List LibraryEvent := []
  /-- Over HTTP/2: the bytes of the stream, which count as a request body. -/
  counted : ℕ := 0
  /-- A close frame with 1009 has been sent. -/
  rejected : Bool := false
  /-- The application had closed when the reader was done. -/
  closedFirst : Bool := false
  deriving DecidableEq

/-- What the tasks do. -/
inductive Action where
  /-- The application accepts. -/
  | accept
  /-- The application closes or rejects. -/
  | close
  /-- The application calls `receive`. -/
  | ask
  /-- A `receive` of the application returns. -/
  | receive
  /-- The application returns or raises. -/
  | appReturns
  /-- The reader has been let go by `accept_event`. -/
  | startReading
  /-- The reader gets bytes from the socket. -/
  | read (events : List LibraryEvent)
  /-- The body of a DATA frame comes in, and the reader gets it unless it is one too many. -/
  | data (segment : Segment)
  /-- The close frame for a message that is too large is drained. -/
  | drained
  /-- The connection is gone, or the reader raises. The frames of a read whose pongs it could not
  send are lost. -/
  | readFails (lost : List LibraryEvent)
  /-- The reader looks at `close_event` after waiting for a while. -/
  | readTimeout
  /-- The handler goes on after the race. -/
  | resume
  /-- The handler is cancelled during the race. -/
  | abandon
  deriving DecidableEq

namespace Session

variable (transport : Transport) (limit maxRequestSize : ℕ) (session : Session)

/-- The frames of the client that have come in. -/
def sent : List LibraryEvent := session.heard ++ session.lost

/-- The reader is done. For HTTP/1.1 its `finally` queues a disconnect with 1006, unless the
close of the peer has been queued or the application has closed. -/
def endReader (disconnected : Bool) : Session :=
  if transport = .h1 ∧ disconnected = false ∧ session.closing = false then
    { session with
      queue := session.queue ++ [.disconnect 1006]
      reader := .ended true
      closedFirst := false }
  else { session with reader := .ended disconnected, closedFirst := session.closing }

/-- The reader has got some frames. -/
def handleRead (events : List LibraryEvent) : Session :=
  let (messages, outcome) := readFrames limit events
  let read := { session with
    queue := session.queue ++ messages
    heard := session.heard ++ events }
  match outcome with
  | .closed => read.endReader transport true
  | .tooLarge =>
      -- once the application has closed, closing raises
      if session.closing then read.endReader transport false
      else
        match transport with
        | .h1 => { read with reader := .shutting, rejected := true }
        | .h2 => { read with closing := true, rejected := true }.endReader transport false
  | .goesOn => if session.closing then read.endReader transport false else read

/-- The handler goes on after the race and cancels what is not done. -/
def endRace : Session :=
  let settled := { session with
    resumed := true
    app := if session.app = .running then .cancelled else session.app }
  match session.reader with
  | .ended _ => settled
  | .reading | .shutting => { settled.endReader transport false with reader := .cancelled }
  | .waiting | .cancelled => { settled with reader := .cancelled }

/-- The application has called `receive`, and there is something to return. -/
def Wakes : Prop := session.consumed.length < session.asked ∧ session.queue ≠ []

instance : Decidable session.Wakes := inferInstanceAs (Decidable (_ ∧ _))

/-- One step. -/
def step : Action → Option Session
  | .accept =>
      if session.app = .running then some { session with accepted := true } else none
  | .close =>
      if session.app = .running then some { session with closing := true } else none
  | .ask =>
      if session.app = .running then some { session with asked := session.asked + 1 } else none
  | .receive =>
      match session.queue with
      | [] => none
      | message :: queue =>
          if session.app = .running ∧ session.consumed.length < session.asked then
            some { session with queue, consumed := session.consumed ++ [message] }
          else none
  | .appReturns =>
      if session.app = .running then some { session with app := .returned } else none
  | .startReading =>
      if session.reader = .waiting ∧ session.accepted then
        some (if session.closing then session.endReader transport false
          else { session with reader := .reading })
      else none
  | .read events =>
      if transport = .h1 ∧ session.reader = .reading then
        some (session.handleRead transport limit events)
      else none
  | .data segment =>
      if transport = .h2 ∧ session.reader = .reading then
        let session := { session with counted := session.counted + segment.length }
        -- the handler of the connection counts the bytes as a request body and cancels the session
        if maxRequestSize < session.counted then
          some { session with lost := session.lost ++ segment.heard, resumed := true }
        -- the end of the stream counts as a close, see `processData_eq`
        else some (session.handleRead transport limit segment.heard)
      else none
  | .drained =>
      if session.reader = .shutting then some (session.endReader transport false) else none
  | .readFails lost =>
      if session.reader = .reading ∨ session.reader = .shutting ∧ lost = [] then
        some ({ session with lost := session.lost ++ lost }.endReader transport false)
      else none
  | .readTimeout =>
      if transport = .h2 ∧ session.reader = .reading ∧ session.closing then
        some (session.endReader transport false)
      else none
  | .resume =>
      -- the application goes on first if it has been woken
      if session.resumed = false ∧ (session.app = .returned ∨ session.reader.isDone) ∧
          (session.app = .running → ¬ session.Wakes) then
        some (session.endRace transport)
      else none
  | .abandon => if session.resumed then none else some { session with resumed := true }

end Session

theorem receivedOf_append (first rest : List AppMessage) :
    receivedOf (first ++ rest) = receivedOf first ++ receivedOf rest :=
  List.filterMap_append ..

section EndReader

variable (transport : Transport) (disconnected : Bool) (session : Session)

@[simp]
theorem endReader_app : (session.endReader transport disconnected).app = session.app := by
  rw [Session.endReader]
  split <;> rfl

@[simp]
theorem endReader_consumed :
    (session.endReader transport disconnected).consumed = session.consumed := by
  rw [Session.endReader]
  split <;> rfl

@[simp]
theorem endReader_heard : (session.endReader transport disconnected).heard = session.heard := by
  rw [Session.endReader]
  split <;> rfl

@[simp]
theorem endReader_lost : (session.endReader transport disconnected).lost = session.lost := by
  rw [Session.endReader]
  split <;> rfl

@[simp]
theorem endReader_sent : (session.endReader transport disconnected).sent = session.sent := by
  rw [Session.sent, Session.sent, endReader_heard, endReader_lost]

@[simp]
theorem endReader_asked : (session.endReader transport disconnected).asked = session.asked := by
  rw [Session.endReader]
  split <;> rfl

@[simp]
theorem endRace_app : (session.endRace transport).app =
    if session.app = .running then .cancelled else session.app := by
  rw [Session.endRace]
  split <;> simp

/-- At its end a reader may still queue a disconnect. -/
theorem endReader_queue :
    ∃ more, (session.endReader transport disconnected).queue = session.queue ++ more ∧
      receivedOf more = [] := by
  rw [Session.endReader]
  split
  · exact ⟨_, rfl, rfl⟩
  · exact ⟨[], (List.append_nil _).symm, rfl⟩

end EndReader

/-- The session of a handler. -/
def machine (transport : Transport) (limit maxRequestSize : ℕ) : Machine Session Action where
  init session :=
    session = { reader := match transport with | .h1 => .waiting | .h2 => .reading }
  step session action := session.step transport limit maxRequestSize action

/-! ## What has been read -/

/-- Reading on is reading it all at once. -/
theorem readFrames_append (limit : ℕ) (first rest : List LibraryEvent) :
    readFrames limit (first ++ rest) =
      match readFrames limit first with
      | (messages, .goesOn) => (messages ++ (readFrames limit rest).1, (readFrames limit rest).2)
      | ended => ended := by
  rw [readFrames, receiveData, List.filterMap_append]
  exact dispatch_append ..

/-- What is queued for the frames: the messages, and a disconnect if the peer has closed. -/
theorem readFrames_messages (limit : ℕ) (events : List LibraryEvent) :
    ∃ last, (readFrames limit events).1 = (passed limit (partsOf events)).map .receive ++ last ∧
      if (readFrames limit events).2 = .closed then ∃ code, last = [.disconnect code]
      else last = [] := by
  induction events with
  | nil => exact ⟨[], rfl, rfl⟩
  | cons event events ih =>
      cases event with
      | closeConnection code reason => exact ⟨_, rfl, _, rfl⟩
      | ping => exact ih
      | pong => exact ih
      | message payload finished =>
          have hread : readFrames limit (.message payload finished :: events) =
              if limit < payload.len then ([], .tooLarge)
              else (.receive payload :: (readFrames limit events).1,
                (readFrames limit events).2) := rfl
          rw [hread, partsOf, passed, List.takeWhile_cons]
          split
          case isTrue hlong =>
            rw [if_neg (by simpa using hlong)]
            exact ⟨[], rfl, rfl⟩
          case isFalse hshort =>
            rw [if_pos (by simpa using hshort)]
            obtain ⟨last, hlast, hcode⟩ := ih
            exact ⟨last, congrArg (.receive payload :: ·) hlast, hcode⟩

/-- The client closes, and no part before that is too long. -/
def ClientCloses (limit : ℕ) (events : List LibraryEvent) : Prop :=
  (∃ code reason, .closeConnection code reason ∈ events) ∧ ¬ TooLong limit (partsOf events)

/-- The reader ends with the close of a client that closes. -/
theorem readFrames_closed (limit : ℕ) (events : List LibraryEvent) :
    (readFrames limit events).2 = .closed ↔ ClientCloses limit events := by
  induction events with
  | nil =>
      have hread : (readFrames limit []).2 = .goesOn := rfl
      rw [hread]
      exact iff_of_false (by decide) fun hcloses => by simp [ClientCloses] at hcloses
  | cons event events ih =>
      cases event with
      | closeConnection code reason =>
          exact iff_of_true rfl ⟨⟨code, reason, List.mem_cons_self⟩, by simp [TooLong, partsOf]⟩
      | ping | pong =>
          have hread : (readFrames limit events).2 = .closed ↔ _ := ih
          refine hread.trans ?_
          simp [ClientCloses, partsOf]
      | message payload finished =>
          have hread : readFrames limit (.message payload finished :: events) =
              if limit < payload.len then ([], .tooLarge)
              else (.receive payload :: (readFrames limit events).1,
                (readFrames limit events).2) := rfl
          rw [hread]
          split
          case isTrue hlong =>
            refine iff_of_false (by simp) fun hcloses => hcloses.2 ?_
            exact ⟨payload, List.mem_cons_self, hlong⟩
          case isFalse hshort =>
            refine ih.trans ?_
            simp [ClientCloses, partsOf, TooLong, hshort]

/-! ## The application is served -/

/-- The application got all there was: the messages of the client in order, up to its close or
to one that was too large, and then one disconnect. -/
def GotAll (limit : ℕ) (session : Session) : Prop :=
  ∃ code, session.consumed =
    .connect :: (passed limit (partsOf session.sent)).map .receive ++ [.disconnect code]

/-- If the server has cancelled the application, it had got all there was. -/
def Served (limit : ℕ) (session : Session) : Prop :=
  session.app = .cancelled → GotAll limit session

/-- What is behind the frames in the queue, by where the reader stands. -/
def Tail (reader : Reader) (outcome : ReadOutcome) (tail : List AppMessage) : Prop :=
  match reader with
  | .waiting | .reading => outcome = .goesOn ∧ tail = []
  | .shutting => outcome = .tooLarge ∧ tail = []
  | .ended true => if outcome = .closed then tail = [] else ∃ code, tail = [.disconnect code]
  | .ended false => outcome ≠ .closed ∧ tail = []
  | .cancelled => receivedOf tail = []

/-- There is no message behind them. -/
theorem Tail.nothing {reader : Reader} {outcome : ReadOutcome} {tail : List AppMessage}
    (htail : Tail reader outcome tail) : receivedOf tail = [] := by
  have hsilent : tail = [] → receivedOf tail = [] := fun hnone => by rw [hnone]; rfl
  cases reader with
  | waiting | reading | shutting => exact hsilent htail.2
  | cancelled => exact htail
  | ended announced =>
      cases announced with
      | false => exact hsilent htail.2
      | true =>
          change if _ then _ else _ at htail
          split at htail
          · exact hsilent htail
          · obtain ⟨code, rfl⟩ := htail
            rfl

/-- Nothing is lost and nothing is added on the way through the queue. -/
structure Conserved (transport : Transport) (limit : ℕ) (session : Session) : Prop where
  queued : ∃ tail, session.consumed ++ session.queue =
      .connect :: (readFrames limit session.heard).1 ++ tail ∧
    Tail session.reader (readFrames limit session.heard).2 tail
  stopped : session.app = .cancelled → session.resumed = true ∧ session.reader.isDone = true
  /-- No `receive` returns that was not called. -/
  asked : session.consumed.length ≤ session.asked
  /-- A reader that is done has announced the close of the client, or over HTTP/1.1 anything but
  that the application had closed. -/
  announced : ∀ announced, session.reader = .ended announced →
    (announced = true ↔ (readFrames limit session.heard).2 = .closed ∨
      transport = .h1 ∧ session.closedFirst = false)

variable {transport : Transport} {limit maxRequestSize : ℕ}

/-- Before it is done, the reader has queued the frames it has got and nothing else. -/
theorem Conserved.pending {session : Session} (hconserved : Conserved transport limit session)
    (hreader : session.reader = .waiting ∨ session.reader = .reading ∨
      session.reader = .shutting) :
    session.consumed ++ session.queue = .connect :: (readFrames limit session.heard).1 ∧
      (readFrames limit session.heard).2 ≠ .closed ∧ session.app ≠ .cancelled := by
  obtain ⟨tail, hqueued, htail⟩ := hconserved.queued
  have hopen : (readFrames limit session.heard).2 ≠ .closed ∧ tail = [] ∧
      session.reader.isDone = false := by
    rcases hreader with hreader | hreader | hreader
    all_goals
      rw [hreader] at htail ⊢
      rw [htail.1]
      exact ⟨by decide, htail.2, rfl⟩
  obtain ⟨hclosed, rfl, hdone⟩ := hopen
  refine ⟨by rw [hqueued, List.append_nil], hclosed, ?_⟩
  intro hcancelled
  cases hdone.symm.trans (hconserved.stopped hcancelled).2

/-- The reader is done, and no close was among the frames. -/
theorem conserved_endReader {session : Session}
    (hqueued : session.consumed ++ session.queue =
      .connect :: (readFrames limit session.heard).1)
    (hclosed : (readFrames limit session.heard).2 ≠ .closed) (hrunning : session.app ≠ .cancelled)
    (hasked : session.consumed.length ≤ session.asked) :
    Conserved transport limit (session.endReader transport false) := by
  rw [Session.endReader]
  split
  case isTrue hannounces =>
    exact
      { queued := by
          refine ⟨[.disconnect 1006], ?_, ?_⟩
          · rw [← List.append_assoc, hqueued]
          · rw [Tail, if_neg hclosed]
            exact ⟨1006, rfl⟩
        stopped := fun hcancelled => absurd hcancelled hrunning
        asked := hasked
        announced := fun announced hended => by
          cases hended
          exact iff_of_true rfl (.inr ⟨hannounces.1, rfl⟩) }
  case isFalse hsilent =>
    exact
      { queued := by
          refine ⟨[], ?_, hclosed, rfl⟩
          rw [hqueued, List.append_nil]
        stopped := fun hcancelled => absurd hcancelled hrunning
        asked := hasked
        announced := fun announced hended => by
          cases hended
          refine iff_of_false Bool.false_ne_true ?_
          rintro (hcloses | ⟨hh1, hopen⟩)
          · exact hclosed hcloses
          · exact hsilent ⟨hh1, rfl, hopen⟩ }

/-- What the reader has not got does not matter. -/
theorem Conserved.arrive {session : Session} (hconserved : Conserved transport limit session)
    (lost : List LibraryEvent) (counted : ℕ) :
    Conserved transport limit { session with lost, counted } :=
  ⟨hconserved.queued, hconserved.stopped, hconserved.asked, hconserved.announced⟩

/-- Reading on conserves. -/
theorem Conserved.handleRead {session : Session} (hconserved : Conserved transport limit session)
    (hreader : session.reader = .reading) (events : List LibraryEvent) :
    Conserved transport limit (session.handleRead transport limit events) := by
  obtain ⟨hqueued, -, hrunning⟩ := hconserved.pending (.inr (.inl hreader))
  obtain ⟨tail, -, htail⟩ := hconserved.queued
  have hasked := hconserved.asked
  rw [hreader] at htail
  have happend := readFrames_append limit session.heard events
  cases hheard : readFrames limit session.heard with
  | mk before outcome =>
  cases hread : readFrames limit events with
  | mk messages last =>
  rw [hheard] at happend hqueued htail
  obtain rfl : outcome = .goesOn := htail.1
  rw [hread] at happend
  change readFrames limit (session.heard ++ events) = (before ++ messages, last) at happend
  have hmore : session.consumed ++ (session.queue ++ messages) =
      .connect :: (readFrames limit (session.heard ++ events)).1 := by
    rw [← List.append_assoc, hqueued, happend]
    rfl
  rw [Session.handleRead, hread]
  cases last with
  | closed =>
      have hcloses : (readFrames limit (session.heard ++ events)).2 = .closed :=
        congrArg (·.2) happend
      change Conserved transport limit (Session.endReader transport _ true)
      rw [Session.endReader, if_neg (fun hnot => by cases hnot.2.1)]
      exact
        { queued := by
            refine ⟨[], ?_, ?_⟩
            · rw [List.append_nil]
              exact hmore
            · exact (if_pos hcloses).mpr rfl
          stopped := fun hcancelled => absurd hcancelled hrunning
          asked := hasked
          announced := fun announced hended => by
            cases hended
            exact iff_of_true rfl (.inl hcloses) }
  | tooLarge =>
      have hlarge : (readFrames limit (session.heard ++ events)).2 = .tooLarge :=
        congrArg (·.2) happend
      have hclosed : (readFrames limit (session.heard ++ events)).2 ≠ .closed := by
        rw [hlarge]
        exact fun hclosed => by cases hclosed
      change Conserved transport limit (if session.closing = true then _ else _)
      split
      case isTrue => exact conserved_endReader hmore hclosed hrunning hasked
      case isFalse =>
        cases transport with
        | h2 => exact conserved_endReader hmore hclosed hrunning hasked
        | h1 =>
            exact
              { queued := by
                  refine ⟨[], ?_, hlarge, rfl⟩
                  rw [List.append_nil]
                  exact hmore
                stopped := fun hcancelled => absurd hcancelled hrunning
                asked := hasked
                announced := fun announced hended => by cases hended }
  | goesOn =>
      have hgoes : (readFrames limit (session.heard ++ events)).2 = .goesOn :=
        congrArg (·.2) happend
      have hclosed : (readFrames limit (session.heard ++ events)).2 ≠ .closed := by
        rw [hgoes]
        exact fun hclosed => by cases hclosed
      change Conserved transport limit (if session.closing = true then _ else _)
      split
      case isTrue => exact conserved_endReader hmore hclosed hrunning hasked
      case isFalse =>
        exact
          { queued := by
              refine ⟨[], ?_, ?_⟩
              · rw [List.append_nil]
                exact hmore
              · change Tail session.reader _ _
                rw [hreader]
                exact ⟨hgoes, rfl⟩
            stopped := fun hcancelled => absurd hcancelled hrunning
            asked := hasked
            announced := fun announced hended => by cases hreader.symm.trans hended }

/-! ## Every step -/

/-- The end of the race conserves, since the server is the one that cancels. -/
theorem Conserved.endRace {session : Session} (hconserved : Conserved transport limit session)
    (hdone : session.app = .returned ∨ session.reader.isDone = true) :
    Conserved transport limit (session.endRace transport) := by
  obtain ⟨tail, hqueued, htail⟩ := hconserved.queued
  have hsilent := htail.nothing
  have hstill : session.reader.isDone = false → session.app = .returned := by
    intro hreader
    exact hdone.resolve_right (by simp [hreader])
  rw [Session.endRace]
  split
  case h_1 announced hreader =>
    exact
      { queued := ⟨tail, hqueued, htail⟩
        stopped := fun _ => ⟨rfl, congrArg Reader.isDone hreader⟩
        asked := hconserved.asked
        announced := hconserved.announced }
  case h_2 hreader | h_3 hreader =>
    have hreturned := hstill (congrArg Reader.isDone hreader)
    obtain ⟨more, hmore, hnothing⟩ := endReader_queue transport false { session with
      resumed := true
      app := if session.app = .running then .cancelled else session.app }
    exact
      { queued := by
          refine ⟨tail ++ more, ?_, ?_⟩
          · simp only [endReader_consumed, endReader_heard, hmore]
            rw [← List.append_assoc, hqueued, List.append_assoc]
          · rw [Tail, receivedOf_append, hsilent, hnothing, List.append_nil]
        stopped := fun hcancelled => by simp [hreturned] at hcancelled
        asked := by
          simp only [endReader_consumed, endReader_asked]
          exact hconserved.asked
        announced := fun announced hended => by cases hended }
  case h_4 hreader | h_5 hreader =>
    have hreturned := hstill (congrArg Reader.isDone hreader)
    exact
      { queued := ⟨tail, hqueued, hsilent⟩
        stopped := fun hcancelled => by simp [hreturned] at hcancelled
        asked := hconserved.asked
        announced := fun announced hended => by cases hended }

/-- Whatever the tasks do, nothing is lost and nothing is added. -/
theorem conserved_step {session next : Session} {action : Action}
    (hconserved : Conserved transport limit session)
    (hstep : session.step transport limit maxRequestSize action = some next) :
    Conserved transport limit next := by
  obtain ⟨tail, hqueued, htail⟩ := hconserved.queued
  have hasked := hconserved.asked
  have hannounced := hconserved.announced
  cases action with
  | accept | close =>
      obtain ⟨-, rfl⟩ := Machine.of_guard hstep
      exact ⟨⟨tail, hqueued, htail⟩, hconserved.stopped, hasked, hannounced⟩
  | appReturns =>
      obtain ⟨-, rfl⟩ := Machine.of_guard hstep
      exact ⟨⟨tail, hqueued, htail⟩, fun hcancelled => (by cases hcancelled), hasked, hannounced⟩
  | ask =>
      obtain ⟨-, rfl⟩ := Machine.of_guard hstep
      exact ⟨⟨tail, hqueued, htail⟩, hconserved.stopped, Nat.le_succ_of_le hasked, hannounced⟩
  | receive =>
      cases hqueue : session.queue with
      | nil => simp [Session.step, hqueue] at hstep
      | cons message queue =>
          rw [Session.step, hqueue] at hstep
          obtain ⟨⟨-, hcalled⟩, rfl⟩ := Machine.of_guard hstep
          refine ⟨⟨tail, ?_, htail⟩, hconserved.stopped, ?_, hannounced⟩
          · rw [← hqueued, hqueue, List.append_assoc]
            rfl
          · rw [List.length_append, List.length_singleton]
            exact hcalled
  | startReading =>
      obtain ⟨⟨hreader, -⟩, rfl⟩ := Machine.of_guard hstep
      obtain ⟨hall, hclosed, hrunning⟩ := hconserved.pending (.inl hreader)
      split
      case isTrue => exact conserved_endReader hall hclosed hrunning hasked
      case isFalse =>
        rw [hreader] at htail
        exact ⟨⟨tail, hqueued, htail⟩, fun hcancelled => absurd hcancelled hrunning, hasked,
          fun announced hended => (by cases hended)⟩
  | read events =>
      obtain ⟨⟨-, hreader⟩, rfl⟩ := Machine.of_guard hstep
      exact hconserved.handleRead hreader events
  | data segment =>
      obtain ⟨⟨-, hreader⟩, hdata⟩ := Option.ite_none_right_eq_some.mp hstep
      dsimp only at hdata
      split at hdata
      case isTrue =>
        obtain rfl := Option.some.inj hdata
        have harrived := hconserved.arrive (session.lost ++ segment.heard)
          (session.counted + segment.length)
        exact ⟨harrived.queued, fun hcancelled => ⟨rfl, (harrived.stopped hcancelled).2⟩,
          harrived.asked, harrived.announced⟩
      case isFalse =>
        obtain rfl := Option.some.inj hdata
        have harrived := hconserved.arrive session.lost (session.counted + segment.length)
        exact harrived.handleRead hreader segment.heard
  | drained =>
      obtain ⟨hreader, rfl⟩ := Machine.of_guard hstep
      obtain ⟨hall, hclosed, hrunning⟩ := hconserved.pending (.inr (.inr hreader))
      exact conserved_endReader hall hclosed hrunning hasked
  | readFails lost =>
      obtain ⟨hreader, rfl⟩ := Machine.of_guard hstep
      obtain ⟨hall, hclosed, hrunning⟩ := hconserved.pending (.inr (hreader.imp_right And.left))
      exact conserved_endReader hall hclosed hrunning hasked
  | readTimeout =>
      obtain ⟨⟨-, hreader, -⟩, rfl⟩ := Machine.of_guard hstep
      obtain ⟨hall, hclosed, hrunning⟩ := hconserved.pending (.inr (.inl hreader))
      exact conserved_endReader hall hclosed hrunning hasked
  | resume =>
      obtain ⟨⟨-, hdone, -⟩, rfl⟩ := Machine.of_guard hstep
      exact hconserved.endRace hdone
  | abandon =>
      rw [Session.step] at hstep
      split at hstep
      case isTrue => cases hstep
      case isFalse =>
        obtain rfl := Option.some.inj hstep
        exact ⟨⟨tail, hqueued, htail⟩,
          fun hcancelled => ⟨rfl, (hconserved.stopped hcancelled).2⟩, hasked, hannounced⟩

/-! ## The end of the race -/

/-- Reading frames does not touch the application, and what is read is heard. -/
theorem handleRead_frame (session : Session) (events : List LibraryEvent) :
    (session.handleRead transport limit events).app = session.app ∧
      (session.handleRead transport limit events).heard = session.heard ++ events ∧
      (session.handleRead transport limit events).lost = session.lost := by
  have hends : ∀ (read : Session) (disconnected : Bool), read.app = session.app →
      read.heard = session.heard ++ events → read.lost = session.lost →
      (read.endReader transport disconnected).app = session.app ∧
        (read.endReader transport disconnected).heard = session.heard ++ events ∧
        (read.endReader transport disconnected).lost = session.lost := by
    intro read disconnected happ hheard hlost
    rw [endReader_app, endReader_heard, endReader_lost]
    exact ⟨happ, hheard, hlost⟩
  rw [Session.handleRead]
  dsimp only
  split
  case h_1 => exact hends _ _ rfl rfl rfl
  case h_2 =>
    split
    case isTrue => exact hends _ _ rfl rfl rfl
    case isFalse =>
      cases transport with
      | h1 => exact ⟨rfl, rfl, rfl⟩
      | h2 => exact hends _ _ rfl rfl rfl
  case h_3 =>
    split
    · exact hends _ _ rfl rfl rfl
    · exact ⟨rfl, rfl, rfl⟩

/-- Only the end of the race cancels the application, and then it gets nothing more. -/
theorem cancelled_step {session next : Session} {action : Action}
    (hconserved : Conserved transport limit session) (hresume : action ≠ .resume)
    (hstep : session.step transport limit maxRequestSize action = some next)
    (hcancelled : next.app = .cancelled) :
    session.app = .cancelled ∧ next.consumed = session.consumed ∧ next.sent = session.sent := by
  have hdone : session.app = .cancelled → session.reader.isDone = true :=
    fun hnot => (hconserved.stopped hnot).2
  cases action with
  | accept | close | ask =>
      obtain ⟨-, rfl⟩ := Machine.of_guard hstep
      exact ⟨hcancelled, rfl, rfl⟩
  | appReturns =>
      obtain ⟨-, rfl⟩ := Machine.of_guard hstep
      cases hcancelled
  | receive =>
      cases hqueue : session.queue with
      | nil => simp [Session.step, hqueue] at hstep
      | cons message queue =>
          rw [Session.step, hqueue] at hstep
          obtain ⟨⟨hrunning, -⟩, rfl⟩ := Machine.of_guard hstep
          cases hcancelled.symm.trans hrunning
  | startReading =>
      obtain ⟨-, rfl⟩ := Machine.of_guard hstep
      split at hcancelled
      case isTrue hclosing =>
        rw [if_pos hclosing]
        simpa using hcancelled
      case isFalse hclosing =>
        rw [if_neg hclosing]
        exact ⟨hcancelled, rfl, rfl⟩
  | read events =>
      obtain ⟨⟨-, hreader⟩, rfl⟩ := Machine.of_guard hstep
      rw [(handleRead_frame ..).1] at hcancelled
      simp [hreader, Reader.isDone] at hdone
      exact absurd hcancelled hdone
  | data segment =>
      obtain ⟨⟨-, hreader⟩, hdata⟩ := Option.ite_none_right_eq_some.mp hstep
      simp [hreader, Reader.isDone] at hdone
      dsimp only at hdata
      split at hdata
      case isTrue =>
        obtain rfl := Option.some.inj hdata
        exact absurd hcancelled hdone
      case isFalse =>
        obtain rfl := Option.some.inj hdata
        rw [(handleRead_frame ..).1] at hcancelled
        exact absurd hcancelled hdone
  | drained =>
      obtain ⟨-, rfl⟩ := Machine.of_guard hstep
      simpa using hcancelled
  | readFails lost =>
      obtain ⟨hreader, rfl⟩ := Machine.of_guard hstep
      have hpending : session.reader.isDone = false := by
        rcases hreader with hreader | ⟨hreader, -⟩ <;> rw [hreader] <;> rfl
      rw [endReader_app] at hcancelled
      cases hpending.symm.trans (hdone hcancelled)
  | readTimeout =>
      obtain ⟨-, rfl⟩ := Machine.of_guard hstep
      simpa using hcancelled
  | resume => exact absurd rfl hresume
  | abandon =>
      rw [Session.step] at hstep
      split at hstep
      case isTrue => cases hstep
      case isFalse =>
        obtain rfl := Option.some.inj hstep
        exact ⟨hcancelled, rfl, rfl⟩

/-- When the reader is done, there are the messages of the client, and a disconnect if it was
announced. -/
theorem Conserved.offered {session : Session} (hconserved : Conserved transport limit session)
    {announced : Bool} (hreader : session.reader = .ended announced) :
    ∃ last, session.consumed ++ session.queue =
        .connect :: (passed limit (partsOf session.heard)).map .receive ++ last ∧
      if announced then ∃ code, last = [.disconnect code] else last = [] := by
  obtain ⟨tail, hqueued, htail⟩ := hconserved.queued
  obtain ⟨last, hlast, hcode⟩ := readFrames_messages limit session.heard
  refine ⟨last ++ tail, ?_, ?_⟩
  · rw [hqueued, hlast]
    simp
  · rw [hreader] at htail
    cases announced with
    | false =>
        obtain ⟨hclosed, rfl⟩ : _ ∧ tail = [] := htail
        rw [if_neg hclosed] at hcode
        simpa using hcode
    | true =>
        change if _ then _ else _ at htail
        split at htail
        case isTrue hclosed =>
          rw [if_pos hclosed] at hcode
          simpa [htail] using hcode
        case isFalse hclosed =>
          rw [if_neg hclosed] at hcode
          simpa [hcode] using htail

/-- What has been passed on is the beginning of what there was to pass on. -/
theorem passed_heard (limit : ℕ) (session : Session) :
    passed limit (partsOf session.heard) <+: passed limit (partsOf session.sent) := by
  obtain ⟨rest, hrest⟩ := partsOf_extends session.heard session.lost
  rw [Session.sent, ← hrest, passed, passed, List.takeWhile_append]
  split
  · exact (List.takeWhile_prefix _).trans (List.prefix_append ..)
  · exact List.prefix_rfl

/-- The application was heeding the client: it has called `receive` for each message up to a close
or to one that is too long, and once more than that, besides the call for the connect. Also, no such
message was lost, and the client closes, or over HTTP/1.1 the application had not closed when the
reader was done. -/
structure Session.Heeds (transport : Transport) (limit : ℕ) (session : Session) : Prop where
  asked : (passed limit (partsOf session.sent)).length + 2 ≤ session.asked
  kept : passed limit (partsOf session.heard) = passed limit (partsOf session.sent)
  ended : ClientCloses limit session.heard ∨ transport = .h1 ∧ session.closedFirst = false

/-- When the handler goes on, an application that runs has got all there was if it was heeding the
client, and only then. -/
theorem gotAll_iff {session : Session} (hconserved : Conserved transport limit session)
    (hdone : session.reader.isDone = true) (hwakes : ¬ session.Wakes) :
    GotAll limit session ↔ session.Heeds transport limit := by
  obtain ⟨announced, hreader⟩ : ∃ announced, session.reader = .ended announced := by
    cases hreader : session.reader with
    | ended announced => exact ⟨announced, rfl⟩
    | _ => simp [hreader, Reader.isDone] at hdone
  have hends := hconserved.announced announced hreader
  rw [readFrames_closed] at hends
  obtain ⟨last, hall, hlast⟩ := hconserved.offered hreader
  have hlength := congrArg List.length hall
  simp only [List.length_append, List.length_cons, List.length_map] at hlength
  constructor
  · rintro ⟨code, hgot⟩
    have hconsumed := congrArg List.length hgot
    simp only [List.length_append, List.length_cons, List.length_map, List.length_nil] at hconsumed
    have hbegins := passed_heard limit session
    have hless := hbegins.length_le
    have hatMost : last.length ≤ 1 := by
      cases announced with
      | true =>
          obtain ⟨code, rfl⟩ : ∃ code, last = [.disconnect code] := hlast
          exact Nat.le_refl _
      | false =>
          obtain rfl : last = [] := hlast
          exact Nat.zero_le _
    refine ⟨?_, hbegins.eq_of_length (by omega), hends.mp ?_⟩
    · have hasked := hconserved.asked
      omega
    · cases announced with
      | true => rfl
      | false =>
          have hnone : last = [] := hlast
          rw [hnone, List.length_nil] at hlength
          omega
  · rintro ⟨hasked, hkept, hended⟩
    rw [hkept] at hall hlength
    obtain rfl := hends.mpr hended
    obtain ⟨code, rfl⟩ : ∃ code, last = [.disconnect code] := hlast
    have hempty : session.queue = [] := by
      by_contra hqueue
      refine hwakes ⟨?_, hqueue⟩
      have hsome := List.length_pos_of_ne_nil hqueue
      rw [List.length_singleton] at hlength
      omega
    rw [hempty, List.append_nil] at hall
    exact ⟨code, hall⟩

/-- The server cuts an application off that was not heeding the client. -/
theorem served_resume_iff {session next : Session} (hconserved : Conserved transport limit session)
    (hrunning : session.app = .running)
    (hstep : session.step transport limit maxRequestSize .resume = some next) :
    Served limit next ↔ session.Heeds transport limit := by
  obtain ⟨⟨-, hdone, hwakes⟩, rfl⟩ := Machine.of_guard hstep
  have hended := hdone.resolve_left (by simp [hrunning])
  rw [← gotAll_iff hconserved hended (hwakes hrunning)]
  cases hreader : session.reader with
  | ended announced =>
      rw [Session.endRace, hreader]
      exact ⟨fun hserved => hserved (if_pos hrunning), fun hgot _ => hgot⟩
  | _ => simp [hreader, Reader.isDone] at hended

theorem conserved_initial {session : Session} (hinit : (machine transport limit maxRequestSize).init
    session) : Conserved transport limit session := by
  obtain rfl := hinit
  refine ⟨⟨[], rfl, ?_⟩, fun hcancelled => (by cases hcancelled), Nat.zero_le _, ?_⟩
  · cases transport <;> exact ⟨rfl, rfl⟩
  · intro announced hended
    cases transport <;> cases hended

/-- The application asks for the next message whenever it has got one, and the client sends one
together with its close. -/
def servedActions : List Action :=
  [.accept, .startReading, .ask, .receive, .ask,
    .read [.message (.text ['a']) true, .closeConnection (some 1000) none], .receive, .ask, .receive,
    .resume]

/-- A session over HTTP/1.1 before its first step. -/
def openedH1 : Session := { reader := .waiting }

/-- A session over HTTP/2 before its first step. -/
def openedH2 : Session := { reader := .reading }

/-- The message and the close of the client come together, and the application does something else
when it has got the message. -/
def cutOffActions : List Action :=
  [.accept, .startReading, .ask, .receive, .ask,
    .read [.message (.text ['a']) true, .closeConnection (some 1000) none], .receive, .resume]

/-- The same in the body of a DATA frame. -/
def closingSegment : Segment where
  length := 11
  events := [.message (.text ['a']) true, .closeConnection (some 1000) none]
  parsed := by decide

/-- The frame comes over HTTP/2. -/
def cutOffStream : List Action :=
  [.accept, .ask, .receive, .ask, .data closingSegment, .receive, .resume]

/-- An application that is cancelled while it is at a message never gets the disconnect. -/
theorem not_served {session : Session} (hcancelled : session.app = .cancelled)
    {payload : Payload} (hlast : session.consumed.getLast? = some (.receive payload)) :
    ¬ Served limit session := by
  intro hserved
  obtain ⟨code, hgot⟩ := hserved hcancelled
  rw [hgot, List.getLast?_concat] at hlast
  cases hlast

end Pounce.WebSocket
