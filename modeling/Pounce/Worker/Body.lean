/-
# The body the application receives

Body events reach the application through the queue. They come from h11, with the request
head or through the reader, except for one: whatever makes the reader stop early, the end of
the stream, an error of the connection or of h11, the size limit or a cancellation, it puts
an empty last chunk into the queue, and the application cannot tell it from the end of the
body.

So the reader has to be left `undisturbed` for the application to be given the body it is
told it has: `final_reported` for the last chunk, `receive_deliversOnce` for all of them. A
request of whose body h11 has reported nothing with the head has no reader at all unless its
headers announce a body, which is not so for a `Content-Length: 0` beside a
`Transfer-Encoding` (`framed`).
-/

import Pounce.Worker.Serving

namespace Pounce.Worker

open Pounce.Math Pounce.Math.Bytes Pounce.Asgi Pounce.H1Protocol

universe u

variable {Conn : Type u} {env : Env Conn}

/-! ## Data on its way -/

/-- The body data h11 has reported. -/
def reportedData (events : List H11Event) : Bytes :=
  events.flatMap fun
    | .data data => data
    | _ => []

/-- The body events of a batch. -/
def bodyEventsOf (events : List ProtocolEvent) : List BodyReceived :=
  events.filterMap fun
    | .bodyReceived body => some body
    | _ => none

@[simp]
theorem reportedData_append (first second : List H11Event) :
    reportedData (first ++ second) = reportedData first ++ reportedData second :=
  List.flatMap_append

/-- The lengths of body events add up to the length of their data. -/
theorem foldl_length (body : List BodyReceived) (total : ℕ) :
    body.foldl (fun total event => total + event.data.length) total =
      total + (bodyData body).length := by
  induction body generalizing total with
  | nil => rfl
  | cons event body ih =>
      rw [List.foldl_cons, ih]
      simp [bodyData, Nat.add_assoc]

/-- What was reported of the first events is their data. -/
theorem reportedData_reportedBody (body : List BodyReceived) :
    reportedData (reportedBody body) = bodyData body := by
  induction body with
  | nil => rfl
  | cons event body ih =>
      have hhead : reportedData ((if event.data = [] then [] else [.data event.data]) ++
          if event.more then [] else [.endOfMessage]) = event.data := by
        split <;> split <;> simp_all [reportedData]
      rw [reportedBody, List.flatMap_cons, reportedData_append, hhead]
      exact congrArg (event.data ++ ·) ih

/-- The end of the message was reported if the first events have a last one. -/
theorem endOfMessage_mem_reportedBody {body : List BodyReceived}
    (hfinal : ∃ event ∈ body, event.more = false) : .endOfMessage ∈ reportedBody body := by
  obtain ⟨event, hevent, hmore⟩ := hfinal
  apply List.mem_flatMap.mpr
  refine ⟨event, hevent, List.mem_append_right _ ?_⟩
  simp [hmore]

/-- Translation keeps the data. -/
theorem bodyData_translate (events : List H11Event) :
    bodyData (bodyEventsOf (events.map translate)) = reportedData events := by
  induction events with
  | nil => rfl
  | cons event events ih =>
      cases event with
      | request request => exact ih
      | connectionClosed => exact ih
      | data data => exact congrArg (data ++ ·) ih
      | endOfMessage => exact ih

/-- A last body event is the end of the message. -/
theorem endOfMessage_mem_of_final {events : List H11Event}
    (hfinal : ∃ event ∈ bodyEventsOf (events.map translate), event.more = false) :
    .endOfMessage ∈ events := by
  obtain ⟨body, hbody, hmore⟩ := hfinal
  obtain ⟨event, hevent, hsome⟩ := List.mem_filterMap.mp hbody
  obtain ⟨reported, hreported, rfl⟩ := List.mem_map.mp hevent
  have hend : reported = .endOfMessage := by
    apply isFinal_translate.mp
    cases htranslated : translate reported with
    | bodyReceived found =>
        rw [htranslated] at hsome
        obtain rfl := Option.some.inj hsome
        simp [isFinal, hmore]
    | requestReceived request => rw [htranslated] at hsome; cases hsome
    | connectionClosed => rw [htranslated] at hsome; cases hsome
  rw [← hend]
  exact hreported

/-! ## Reading a batch -/

/-- Within the limit the reader puts all body events of a tidy batch into the queue, and it
stops if the last one ends the body. -/
theorem readBodyEvents_within (serving : Serving) {total : ℕ} {events : List ProtocolEvent}
    (htidy : Tidy events)
    (hlimit : total + (bodyData (bodyEventsOf events)).length ≤ env.config.maxRequestSize) :
    readBodyEvents env serving total events =
      if (bodyEventsOf events).any (! ·.more) then
        { serving with
          companion := .ended
          intake := {
            bodyEvents := serving.intake.bodyEvents ++ bodyEventsOf events, disconnect := true } }
      else
        { serving with
          companion := .reader (total + (bodyData (bodyEventsOf events)).length)
          intake := {
            serving.intake with
            bodyEvents := serving.intake.bodyEvents ++ bodyEventsOf events } } := by
  induction events generalizing serving total with
  | nil => simp [readBodyEvents, bodyEventsOf, bodyData]
  | cons event events ih =>
      obtain ⟨hhead, htail⟩ := List.pairwise_cons.mp htidy
      cases event with
      | requestReceived request => exact ih serving htail hlimit
      | connectionClosed => exact ih serving htail hlimit
      | bodyReceived body =>
          have hdata : (bodyData (bodyEventsOf (.bodyReceived body :: events))).length =
              body.data.length + (bodyData (bodyEventsOf events)).length := by
            simp [bodyData, bodyEventsOf]
          have hcons : bodyEventsOf (.bodyReceived body :: events) =
              body :: bodyEventsOf events := rfl
          have hfits : ¬ env.config.maxRequestSize < total + body.data.length := by omega
          rw [readBodyEvents, if_neg hfits]
          cases hmore : body.more with
          | true =>
              rw [if_pos rfl, ih (serving.put body) htail (by omega), hdata, hcons]
              simp [Serving.put, hmore, Nat.add_assoc]
          | false =>
              -- nothing follows the last event
              have hnil : events = [] := by
                cases events with
                | nil => rfl
                | cons next events =>
                    have hopen := hhead next List.mem_cons_self
                    simp [isFinal, hmore] at hopen
              subst hnil
              simp [bodyEventsOf, Serving.put, Serving.signal, hmore]

/-! ## An undisturbed reader -/

variable (env) in
/-- A read of the reader that neither ends the stream nor is rejected nor exceeds the
limit. -/
def bodyArrives (conn : Conn) (totalBytesRead : ℕ) : ReadOutcome → Bool
  | .timeout => true
  | .eof => false
  | .connectionError => false
  | .data data =>
      match (receiveData env.h11 conn data).1 with
      | .error _ => false
      | .ok events =>
          totalBytesRead + (bodyData (bodyEventsOf events)).length ≤ env.config.maxRequestSize

variable (env) in
/-- Nothing happens that makes the reader stop before the end of the body. -/
def undisturbed (state : State Conn) (action : Action) : Bool :=
  match state.phase, action with
  | .serving serving _, .companionRead outcome =>
      match serving.companion with
      | .reader totalBytesRead => bodyArrives env state.conn totalBytesRead outcome
      | _ => true
  | .serving serving _, .cancel =>
      match serving.companion with
      | .reader _ => false
      | _ => true
  | _, _ => true

/-- What holds of a request whose reader has been left undisturbed. -/
structure Whole (serving : Serving) : Prop where
  /-- No closure of the worker holds the body. -/
  unbuffered : ∀ body, serving.receiver ≠ .buffered body
  /-- A request without a body has no queue and no reader. -/
  bodyless : ∀ called, serving.receiver = .disconnectReceive called →
    serving.intake.bodyEvents = [] ∧ ∀ total, serving.companion ≠ .reader total
  /-- What h11 reported has been received or is in the queue. -/
  account : delivered serving.received ++ bodyData serving.intake.bodyEvents =
    reportedData serving.reported
  /-- Only the last event of the queue may end the body. -/
  ordered : serving.intake.bodyEvents.Pairwise fun earlier _ => earlier.more = true
  /-- While the reader reads, the body is open. -/
  reading : ∀ total, serving.companion = .reader total →
    (∀ event ∈ serving.intake.bodyEvents, event.more = true) ∧ serving.receiver.finished = false
  /-- After the last event the queue is empty. -/
  drained : serving.receiver.finished = true → serving.intake.bodyEvents = []
  /-- The last event of the queue is the end of the message. -/
  queued : (∃ event ∈ serving.intake.bodyEvents, event.more = false) →
    .endOfMessage ∈ serving.reported
  /-- The closure is finished with the last event. -/
  finished : serving.receiver = .receiveWithDisconnect true → .endOfMessage ∈ serving.reported
  /-- The closure knows whether a last message was received. -/
  known : (∃ message ∈ serving.received, message.isFinal) → serving.receiver.finished = true
  settled : Settled serving.received

/-- It holds when the application is set up. -/
theorem whole_serve {request : RequestReceived} {events : List ProtocolEvent}
    (htidy : Tidy events) : Whole (serve request (initialBody events)) := by
  unfold serve
  split
  case isTrue hbody =>
    have hordered := pairwise_initialBody htidy
    constructor
    case unbuffered => intro body hbuffered; cases hbuffered
    case bodyless => intro called hbodyless; cases hbodyless
    case account => exact (reportedData_reportedBody _).symm
    case ordered => exact hordered
    case reading =>
      intro total hreader
      refine ⟨?_, rfl⟩
      intro event hevent
      by_contra hmore
      have hany : (initialBody events).any (! ·.more) = true := by
        apply List.any_eq_true.mpr
        exact ⟨event, hevent, by simpa using hmore⟩
      simp only [hany, if_true] at hreader
      cases hreader
    case drained => intro hfinished; cases hfinished
    case queued => exact endOfMessage_mem_reportedBody
    case finished => intro hfinished; cases hfinished
    case known => rintro ⟨message, hmessage, -⟩; exact absurd hmessage List.not_mem_nil
    case settled => exact List.Pairwise.nil
  case isFalse =>
    split
    case isTrue =>
      constructor
      case unbuffered => intro body hbuffered; cases hbuffered
      case bodyless => intro called hbodyless; cases hbodyless
      case account => rfl
      case ordered => exact List.Pairwise.nil
      case reading => exact fun total _ => ⟨List.forall_mem_nil _, rfl⟩
      case drained => intro hfinished; cases hfinished
      case queued => rintro ⟨event, hevent, -⟩; exact absurd hevent List.not_mem_nil
      case finished => intro hfinished; cases hfinished
      case known => rintro ⟨message, hmessage, -⟩; exact absurd hmessage List.not_mem_nil
      case settled => exact List.Pairwise.nil
    case isFalse =>
      constructor
      case unbuffered => intro body hbuffered; cases hbuffered
      case bodyless => exact fun _ _ => ⟨rfl, fun _ hreader => Companion.noConfusion hreader⟩
      case account => rfl
      case ordered => exact List.Pairwise.nil
      case reading => intro total hreader; cases hreader
      case drained => intro _; rfl
      case queued => rintro ⟨event, hevent, -⟩; exact absurd hevent List.not_mem_nil
      case finished => intro hfinished; cases hfinished
      case known => rintro ⟨message, hmessage, -⟩; exact absurd hmessage List.not_mem_nil
      case settled => exact List.Pairwise.nil

/-- It does not depend on a companion that does not read the body. -/
theorem Whole.release {serving : Serving} (hwhole : Whole serving) (companion : Companion)
    (hcompanion : ∀ total, companion ≠ .reader total) (disconnect : Bool) :
    Whole { serving with companion, intake := { serving.intake with disconnect } } where
  unbuffered := hwhole.unbuffered
  bodyless called hbodyless := ⟨(hwhole.bodyless called hbodyless).1, hcompanion⟩
  account := hwhole.account
  ordered := hwhole.ordered
  reading total hreader := absurd hreader (hcompanion total)
  drained := hwhole.drained
  queued := hwhole.queued
  finished := hwhole.finished
  known := hwhole.known
  settled := hwhole.settled

/-- A batch of body events keeps it. -/
theorem Whole.arrive {serving : Serving} (hwhole : Whole serving) {total : ℕ}
    (hcompanion : serving.companion = .reader total) {events : List H11Event}
    (htidy : Tidy (events.map translate))
    (hlimit : total + (bodyData (bodyEventsOf (events.map translate))).length ≤
      env.config.maxRequestSize) :
    Whole (readBodyEvents env { serving with reported := serving.reported ++ events } total
      (events.map translate)) := by
  obtain ⟨hopen, hunfinished⟩ := hwhole.reading total hcompanion
  have hbodies : (bodyEventsOf (events.map translate)).Pairwise
      fun earlier _ => earlier.more = true := by
    apply List.Pairwise.filterMap _ _ htidy
    intro earlier later hearlier body hbody other hother
    cases earlier with
    | bodyReceived found =>
        obtain rfl := Option.some.inj hbody
        simpa [isFinal] using hearlier
    | requestReceived request => cases hbody
    | connectionClosed => cases hbody
  have haccount : delivered serving.received ++
      bodyData (serving.intake.bodyEvents ++ bodyEventsOf (events.map translate)) =
        reportedData (serving.reported ++ events) := by
    rw [bodyData_append, ← List.append_assoc, hwhole.account, bodyData_translate,
      reportedData_append]
  have hordered : (serving.intake.bodyEvents ++ bodyEventsOf (events.map translate)).Pairwise
      fun earlier _ => earlier.more = true := by
    apply List.pairwise_append.mpr
    exact ⟨hwhole.ordered, hbodies, fun earlier hearlier _ _ => hopen earlier hearlier⟩
  have hqueued : (∃ event ∈ serving.intake.bodyEvents ++ bodyEventsOf (events.map translate),
      event.more = false) → .endOfMessage ∈ serving.reported ++ events := by
    rintro ⟨event, hevent, hmore⟩
    obtain hold | hnew := List.mem_append.mp hevent
    · rw [hopen event hold] at hmore
      cases hmore
    · exact List.mem_append_right _ (endOfMessage_mem_of_final ⟨event, hnew, hmore⟩)
  rw [readBodyEvents_within _ htidy hlimit]
  split
  case isTrue =>
    constructor
    case unbuffered => exact hwhole.unbuffered
    case bodyless =>
      intro called hbodyless
      exact absurd hcompanion ((hwhole.bodyless called hbodyless).2 total)
    case account => exact haccount
    case ordered => exact hordered
    case reading => intro total hreader; cases hreader
    case drained => intro hfinished; exact absurd hfinished (by simp [hunfinished])
    case queued => exact hqueued
    case finished => exact fun hfinished => List.mem_append_left _ (hwhole.finished hfinished)
    case known => exact hwhole.known
    case settled => exact hwhole.settled
  case isFalse hnone =>
    constructor
    case unbuffered => exact hwhole.unbuffered
    case bodyless =>
      intro called hbodyless
      exact absurd hcompanion ((hwhole.bodyless called hbodyless).2 total)
    case account => exact haccount
    case ordered => exact hordered
    case reading =>
      intro _ _
      refine ⟨?_, hunfinished⟩
      intro event hevent
      obtain hold | hnew := List.mem_append.mp hevent
      · exact hopen event hold
      · by_contra hmore
        apply hnone
        apply List.any_eq_true.mpr
        exact ⟨event, hnew, by simpa using hmore⟩
    case drained => intro hfinished; exact absurd hfinished (by simp [hunfinished])
    case queued => exact hqueued
    case finished => exact fun hfinished => List.mem_append_left _ (hwhole.finished hfinished)
    case known => exact hwhole.known
    case settled => exact hwhole.settled

/-- A call of `receive` keeps it. -/
theorem Whole.receive {serving : Serving} (hwhole : Whole serving) {message : ReceiveMessage}
    {receiver : Receiver} {intake : Intake}
    (hreceive : serving.receiver.receive serving.intake = some (message, receiver, intake)) :
    Whole { serving with receiver, intake, received := serving.received ++ [message] } := by
  obtain ⟨request, before, queue, companion, bodyComplete, started, reported, received⟩ := serving
  have hreturns := Receiver.receive_returns hreceive
  obtain ⟨hunbuffered, hbodyless, haccount, hordered, hreading, hdrained, hqueued, hfinished, hknown,
    hsettled⟩ := hwhole
  cases hreturns with
  | buffered body => exact absurd rfl (hunbuffered body)
  | emptyDisconnect hdisconnect =>
      constructor
      case unbuffered => exact hunbuffered
      case bodyless => exact hbodyless
      case account => simpa [ReceiveMessage.body] using haccount
      case ordered => exact hordered
      case reading => exact hreading
      case drained => exact hdrained
      case queued => exact hqueued
      case finished => exact hfinished
      case known => exact fun _ => rfl
      case settled => exact hsettled.concat fun _ => rfl
  | disconnect hdisconnect =>
      constructor
      case unbuffered => exact hunbuffered
      case bodyless => exact hbodyless
      case account => simpa [ReceiveMessage.body] using haccount
      case ordered => exact hordered
      case reading => exact hreading
      case drained => exact hdrained
      case queued => exact hqueued
      case finished => exact hfinished
      case known => exact fun _ => rfl
      case settled => exact hsettled.concat fun _ => rfl
  | empty =>
      obtain ⟨hqueue, hreader⟩ := hbodyless false rfl
      have hnone : ¬ ∃ message ∈ received, message.isFinal = true := by
        intro hfinal
        exact absurd (hknown hfinal) (by simp [Receiver.finished])
      constructor
      case unbuffered => intro body hbuffered; cases hbuffered
      case bodyless => exact fun _ _ => ⟨hqueue, hreader⟩
      case account => simpa [ReceiveMessage.body] using haccount
      case ordered => exact hordered
      case reading => exact fun total hreading => absurd hreading (hreader total)
      case drained => exact fun _ => hqueue
      case queued => exact hqueued
      case finished => intro hdone; cases hdone
      case known => exact fun _ => rfl
      case settled => exact hsettled.concat fun hfinal => absurd hfinal hnone
  | chunk event bodyEvents disconnect =>
      have hnone : ¬ ∃ message ∈ received, message.isFinal = true := by
        intro hfinal
        exact absurd (hknown hfinal) (by simp [Receiver.finished])
      obtain ⟨hhead, htail⟩ := List.pairwise_cons.mp hordered
      have hlast : event.more = false → bodyEvents = [] := by
        intro hmore
        cases bodyEvents with
        | nil => rfl
        | cons next rest =>
            have hopen := hhead next List.mem_cons_self
            rw [hmore] at hopen
            cases hopen
      constructor
      case unbuffered => intro body hbuffered; cases hbuffered
      case bodyless => intro called hbodyless; cases hbodyless
      case account =>
        rw [delivered_append, delivered_singleton, List.append_assoc]
        exact haccount
      case ordered => exact htail
      case reading =>
        intro total hreader
        obtain ⟨hopen, -⟩ := hreading total hreader
        refine ⟨fun next hnext => hopen next (List.mem_cons_of_mem _ hnext), ?_⟩
        simp [Receiver.finished, hopen event List.mem_cons_self]
      case drained =>
        intro hdone
        exact hlast (by simpa [Receiver.finished] using hdone)
      case queued =>
        rintro ⟨next, hnext, hmore⟩
        exact hqueued ⟨next, List.mem_cons_of_mem _ hnext, hmore⟩
      case finished =>
        intro hdone
        have hmore : event.more = false := by simpa using hdone
        exact hqueued ⟨event, List.mem_cons_self, hmore⟩
      case known =>
        rintro ⟨last, hmem, hfinal⟩
        obtain hold | hnew := List.mem_append.mp hmem
        · exact absurd ⟨last, hold, hfinal⟩ hnone
        · obtain rfl := List.mem_singleton.mp hnew
          simpa [requestMessage, ReceiveMessage.isFinal, Receiver.finished] using hfinal
      case settled => exact hsettled.concat fun hfinal => absurd hfinal hnone

/-- An undisturbed turn keeps it. -/
theorem whole_turn (hpauses : env.h11.PausesAfterMessage) {state : State Conn}
    {before serving : Serving} {events : List ProtocolEvent} {action : Action}
    (hphase : state.phase = .serving before events) (hwhole : Whole before)
    (hallowed : undisturbed env state action) (hturn : Turn env state before action serving) :
    Whole serving := by
  cases hturn with
  | send event started => exact { hwhole with }
  | receive hreceive => exact hwhole.receive hreceive
  | cancelMonitor hcompanion => exact hwhole.release .ended (fun _ hreader => by cases hreader) true
  | cancelReader hcompanion =>
      simp [undisturbed, hphase, hcompanion] at hallowed
  | monitor hcompanion hpossible houtcome =>
      unfold monitorDisconnect
      split
      case h_1 => exact hwhole
      case h_2 => exact hwhole.release .ended (fun _ hreader => by cases hreader) true
  | @readBody total outcome hcompanion hpossible =>
      simp only [undisturbed, hphase, hcompanion] at hallowed
      cases outcome with
      | timeout =>
          exact hwhole.release .timedOut (fun _ hreader => by cases hreader)
            before.intake.disconnect
      | eof => cases hallowed
      | connectionError => cases hallowed
      | data data =>
          simp only [bodyArrives] at hallowed
          rw [readBody]
          split at hallowed
          case h_1 => cases hallowed
          case h_2 events hparsed =>
            have htidy := tidy_receiveData hpauses hparsed
            have htranslated := receiveData_ok env.h11 hparsed
            split
            case h_1 error conn herror =>
              rw [herror] at hparsed
              cases hparsed
            case h_2 parsed conn hok =>
              rw [hok] at hparsed
              obtain rfl := Except.ok.inj hparsed
              subst htranslated
              exact hwhole.arrive hcompanion htidy (of_decide_eq_true hallowed)

/-- Requests whose reader is left undisturbed are whole. -/
theorem whole_of_reach (hpauses : env.h11.PausesAfterMessage) {state : State Conn}
    (hreach : (machine env).Reach (fun state action => undisturbed env state action) state)
    {serving : Serving}
    {events : List ProtocolEvent} (hphase : state.phase = .serving serving events) :
    Whole serving :=
  serving_induction (fun _ serving => Whole serving) hpauses
    (fun _ _ _ htidy _ => whole_serve htidy) (fun _ _ hwhole => hwhole)
    (fun _ _ _ _ _ hbefore hwhole hallowed hturn => whole_turn hpauses hbefore hwhole hallowed hturn)
    hreach serving events hphase

/-! ## What stays -/

variable (env) in
/-- The reader changes neither the request nor the closure. -/
theorem readBodyEvents_keeps (serving : Serving) (total : ℕ) (events : List ProtocolEvent) :
    (readBodyEvents env serving total events).request = serving.request ∧
      (readBodyEvents env serving total events).receiver = serving.receiver ∧
      (readBodyEvents env serving total events).bodyComplete = serving.bodyComplete := by
  induction events generalizing serving total with
  | nil => exact ⟨rfl, rfl, rfl⟩
  | cons event events ih =>
      cases event with
      | requestReceived request => exact ih serving total
      | connectionClosed => exact ih serving total
      | bodyReceived body =>
          rw [readBodyEvents]
          split
          case isTrue => exact ⟨rfl, rfl, rfl⟩
          case isFalse =>
            split
            case isTrue => exact ih (serving.put body) _
            case isFalse => exact ⟨rfl, rfl, rfl⟩

variable (env) in
theorem readBody_keeps (conn : Conn) (serving : Serving) (total : ℕ) (outcome : ReadOutcome) :
    (readBody env conn serving total outcome).1.request = serving.request ∧
      (readBody env conn serving total outcome).1.receiver = serving.receiver ∧
      (readBody env conn serving total outcome).1.bodyComplete = serving.bodyComplete := by
  cases outcome with
  | timeout => exact ⟨rfl, rfl, rfl⟩
  | eof => exact ⟨rfl, rfl, rfl⟩
  | connectionError => exact ⟨rfl, rfl, rfl⟩
  | data data =>
      rw [readBody]
      split
      case h_1 => exact ⟨rfl, rfl, rfl⟩
      case h_2 => exact readBodyEvents_keeps env _ _ _

/-- The kind of a closure. -/
def queueBacked : Receiver → Prop
  | .receiveWithDisconnect _ => True
  | _ => False

/-- A turn changes neither the request nor the kind of the closure. -/
theorem Turn.keeps {state : State Conn} {before serving : Serving} {action : Action}
    (hturn : Turn env state before action serving) :
    serving.request = before.request ∧
      (queueBacked before.receiver → queueBacked serving.receiver) := by
  cases hturn with
  | send event started => exact ⟨rfl, id⟩
  | cancelReader hcompanion => exact ⟨rfl, id⟩
  | cancelMonitor hcompanion => exact ⟨rfl, id⟩
  | readBody hcompanion hpossible =>
      obtain ⟨hrequest, hreceiver, -⟩ := readBody_keeps env state.conn before _ _
      exact ⟨hrequest, fun hbacked => by rw [hreceiver]; exact hbacked⟩
  | monitor hcompanion hpossible houtcome =>
      unfold monitorDisconnect
      split
      case h_1 => exact ⟨rfl, id⟩
      case h_2 => exact ⟨rfl, id⟩
  | @receive message receiver intake hreceive =>
      refine ⟨rfl, fun hbacked => ?_⟩
      change queueBacked receiver
      obtain ⟨request, closure, queue, companion, bodyComplete, started, reported, received⟩ := before
      cases Receiver.receive_returns hreceive with
      | empty => exact hbacked
      | emptyDisconnect => exact hbacked
      | chunk => trivial
      | disconnect => trivial
      | buffered => exact hbacked

/-- A request that declares a body is answered from the queue. -/
theorem queueBacked_of_bodyExpected (hpauses : env.h11.PausesAfterMessage) {state : State Conn}
    {allowed : State Conn → Action → Prop} (hreach : (machine env).Reach allowed state)
    {serving : Serving} {events : List ProtocolEvent}
    (hphase : state.phase = .serving serving events)
    (hbody : requestBodyExpected serving.request.headers) : queueBacked serving.receiver := by
  apply serving_induction
    (fun _ serving => requestBodyExpected serving.request.headers →
      queueBacked serving.receiver) hpauses _ _ _ hreach serving events hphase hbody
  · intro _ request events _ _ hexpected
    unfold serve at hexpected ⊢
    split
    case isTrue => trivial
    case isFalse hnone =>
      split
      case isTrue => trivial
      case isFalse hunexpected =>
        rw [if_neg hnone, if_neg hunexpected] at hexpected
        exact absurd hexpected hunexpected
  · exact fun _ _ hinv => hinv
  · intro state before _ action serving _ hinv _ hturn hexpected
    obtain ⟨hrequest, hbacked⟩ := hturn.keeps
    rw [hrequest] at hexpected
    exact hbacked (hinv hexpected)

/-- In a batch, where a request comes without any of its body its headers announce one. -/
def announced : List ProtocolEvent → Bool
  | [] => true
  | .requestReceived request :: events =>
      (initialBody events ≠ [] || requestBodyExpected request.headers) && announced events
  | _ :: events => announced events

/-- It is the same for the end of a batch. -/
theorem announced_suffix {events rest : List ProtocolEvent} (hsuffix : rest <:+ events)
    (hannounced : announced events = true) : announced rest = true := by
  induction events with
  | nil =>
      obtain rfl := List.suffix_nil.mp hsuffix
      rfl
  | cons event events ih =>
      obtain rfl | hlater := List.suffix_cons_iff.mp hsuffix
      · exact hannounced
      · apply ih hlater
        cases event with
        | requestReceived request =>
            rw [announced, Bool.and_eq_true] at hannounced
            exact hannounced.2
        | bodyReceived body | connectionClosed => exact hannounced

variable (env) in
/-- A request that is read without any of its body announces one. -/
def framed (state : State Conn) (action : Action) : Bool :=
  match action with
  | .read (.data data) =>
      match (receiveData env.h11 state.conn data).1 with
      | .ok events => announced events
      | .error _ => true
  | _ => true

/-- A request with a body to be read is answered from the queue. -/
theorem queueBacked_of_framed {state : State Conn} {allowed : State Conn → Action → Prop}
    (hframed : ∀ state action, allowed state action → framed env state action)
    (hreach : (machine env).Reach allowed state) :
    ∀ serving events, state.phase = .serving serving events →
      announced events = true ∧ queueBacked serving.receiver := by
  induction hreach with
  | init hinit =>
      intro serving events hphase
      rw [show _ = _ from hinit] at hphase
      cases hphase
  | step _ hallowed hstep ih =>
      intro serving events hphase
      obtain ⟨before, hbefore, hturn, -⟩ | ⟨hbefore, -⟩ |
        ⟨request, ⟨source, hsuffix, hsource⟩, rfl, -⟩ := step_serving hstep hphase
      · obtain ⟨hannounced, hbacked⟩ := ih before events hbefore
        exact ⟨hannounced, hturn.keeps.2 hbacked⟩
      · exact ih serving events hbefore
      · have hbatch : announced source = true := by
          obtain ⟨before, hbefore⟩ | ⟨data, rfl, hparsed⟩ := hsource
          · exact (ih before source hbefore).1
          · simpa [framed, hparsed] using hframed _ _ hallowed
        have hrest := announced_suffix hsuffix hbatch
        rw [announced, Bool.and_eq_true, Bool.or_eq_true] at hrest
        refine ⟨hrest.2, ?_⟩
        unfold serve
        split
        case isTrue => trivial
        case isFalse hnone =>
          rw [if_pos (hrest.1.resolve_left (by simpa using hnone))]
          trivial

/-! ## The last message -/

/-- The application that got a last message is finished, and what h11 reported has been
delivered. -/
theorem Whole.complete {serving : Serving} (hwhole : Whole serving)
    (hfinal : ∃ message ∈ serving.received, message.isFinal) :
    delivered serving.received = reportedData serving.reported := by
  have hdrained := hwhole.drained (hwhole.known hfinal)
  have haccount := hwhole.account
  rw [hdrained] at haccount
  simpa [bodyData] using haccount

/-- What h11 reported is delivered once. -/
theorem Whole.deliversOnce {serving : Serving} (hwhole : Whole serving) :
    DeliversOnce (reportedData serving.reported) serving.received where
  delivered_initial := ⟨_, hwhole.account⟩
  complete := hwhole.complete
  settled := hwhole.settled

/-- For a request answered from the queue the end of the message has been reported. -/
theorem Whole.endOfMessage {serving : Serving} (hwhole : Whole serving)
    (hbacked : queueBacked serving.receiver)
    (hfinal : ∃ message ∈ serving.received, message.isFinal) :
    .endOfMessage ∈ serving.reported := by
  have hdone := hwhole.known hfinal
  cases hreceiver : serving.receiver with
  | receiveWithDisconnect bodyDone =>
      rw [hreceiver] at hdone
      obtain rfl : bodyDone = true := hdone
      exact hwhole.finished hreceiver
  | disconnectReceive called => rw [hreceiver] at hbacked; exact hbacked.elim
  | buffered body => rw [hreceiver] at hbacked; exact hbacked.elim

/-- If the readers of a connection are left undisturbed, an application that is told its body
is complete has been given all of it: h11 has reported the end of the message. -/
theorem final_reported (env : Env Conn) (hpauses : env.h11.PausesAfterMessage)
    {state : State Conn}
    (hreach : (machine env).Reach (fun state action => undisturbed env state action) state)
    {serving : Serving} {events : List ProtocolEvent}
    (hphase : state.phase = .serving serving events)
    (hbody : requestBodyExpected serving.request.headers)
    (hfinal : ∃ message ∈ serving.received, message.isFinal) :
    .endOfMessage ∈ serving.reported ∧
      delivered serving.received = reportedData serving.reported := by
  have hwhole := whole_of_reach hpauses hreach hphase
  exact ⟨hwhole.endOfMessage (queueBacked_of_bodyExpected hpauses hreach hphase hbody) hfinal,
    hwhole.complete hfinal⟩

/-! ## A request with a body, by way of example -/

/-- A request head that announces four bytes. -/
def uploadHead : KnownHead where
  bytes := ascii "POST / HTTP/1.1\r\nHost: a\r\nContent-Length: 4\r\n\r\n"
  request := {
    method := ascii "POST"
    target := ascii "/"
    headers := [(ascii "host", ascii "a"), (ascii "content-length", ascii "4")]
    httpVersion := .http11 }
  contentLength := 4

/-- A worker for such requests. -/
def uploadEnv : Env SmallConn where
  h11 := smallH11 [uploadHead]

/-- A request whose body has been received in two reads. -/
def uploaded : Serving where
  request := uploadHead.request
  receiver := .receiveWithDisconnect true
  intake := { disconnect := true }
  companion := .ended
  reported := [.data (ascii "ab"), .data (ascii "cd"), .endOfMessage]
  received := [.request (ascii "ab") true, .request (ascii "cd") true, .request [] false]

/-- The upload, chunk by chunk. -/
def uploadActions : List Action :=
  [.read (.data uploadHead.bytes), .companionRead (.data (ascii "ab")), .receive,
    .companionRead (.data (ascii "cd")), .receive, .receive]

/-- The state at its end. -/
def afterUpload : State SmallConn where
  conn := { client := .done, server := .sendResponse }
  phase := .serving uploaded []
  requestCount := 1
  taken := uploadHead.bytes ++ ascii "abcd"
  fed := uploadHead.bytes ++ ascii "abcd"
  parsed := [{
    request := uploadHead.request, taken := uploadHead.bytes, fed := uploadHead.bytes }]

set_option maxRecDepth 4000 in
theorem run_upload : (machine uploadEnv).run { conn := {} } uploadActions = some afterUpload := by
  decide

set_option maxRecDepth 4000 in
/-- Nothing disturbs it. -/
theorem along_upload : (machine uploadEnv).Along
    (fun state action => undisturbed uploadEnv state action) { conn := {} } uploadActions :=
  Machine.along_of_guarded (by decide)

theorem reach_upload : (machine uploadEnv).Reach
    (fun state action => undisturbed uploadEnv state action) afterUpload :=
  Machine.Reach.run (.init rfl) along_upload run_upload

/-- The upload is reported and delivered. -/
theorem final_reported_upload : .endOfMessage ∈ uploaded.reported ∧
    delivered uploaded.received = reportedData uploaded.reported :=
  final_reported uploadEnv (smallH11_pausesAfterMessage [uploadHead]) reach_upload rfl
    (by decide) (by decide)

/-- The same request, left by its client after two bytes. -/
def truncated : Serving where
  request := uploadHead.request
  receiver := .receiveWithDisconnect true
  intake := { disconnect := true }
  companion := .ended
  reported := [.data (ascii "ab")]
  received := [.request (ascii "ab") true, .request [] false]

/-- The client leaves, and the application asks on. -/
def truncatedActions : List Action :=
  [.read (.data uploadHead.bytes), .companionRead (.data (ascii "ab")), .receive, .clientLeaves,
    .companionRead .eof, .receive]

/-- The state at the end. -/
def afterTruncated : State SmallConn where
  conn := { client := .sendBody 2, server := .sendResponse }
  phase := .serving truncated []
  requestCount := 1
  clientGone := true
  taken := uploadHead.bytes ++ ascii "ab"
  fed := uploadHead.bytes ++ ascii "ab"
  parsed := [{
    request := uploadHead.request, taken := uploadHead.bytes, fed := uploadHead.bytes }]

set_option maxRecDepth 4000 in
theorem run_truncated :
    (machine uploadEnv).run { conn := {} } truncatedActions = some afterTruncated := by
  decide

/-- The application takes the body for complete although two of its bytes never came. -/
theorem truncated_final : ¬ ∀ (env : Env SmallConn), env.h11.PausesAfterMessage →
    ∀ state, (machine env).Reachable state → ∀ serving events,
      state.phase = .serving serving events → requestBodyExpected serving.request.headers →
        (∃ message ∈ serving.received, message.isFinal) → .endOfMessage ∈ serving.reported := by
  intro hclaim
  have hmem : H11Event.endOfMessage ∈ truncated.reported :=
    hclaim uploadEnv (smallH11_pausesAfterMessage [uploadHead]) afterTruncated
      (Machine.reachable_run rfl run_truncated) truncated [] rfl (by decide) (by decide)
  simp [truncated] at hmem

/-! ## All messages -/

set_option maxRecDepth 4000 in
/-- Nothing disturbs the upload, and its head announces it. -/
theorem along_upload_framed : (machine uploadEnv).Along
    (fun state action => undisturbed uploadEnv state action ∧ framed uploadEnv state action)
    { conn := {} } uploadActions :=
  Machine.along_of_guarded (by decide)

end Pounce.Worker
