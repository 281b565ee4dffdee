/-
# How a stream is cut

A client sends requests back to back, and the network cuts the stream into reads where it likes.
The application should not see the difference: the requests it is called for, with their bodies,
are those of the stream.

The connection loop starts the next cycle after every read, whether or not the read has brought a
request, and h11 refuses unless both sides are done: a read with half a head closes the
connection. What h11 holds back behind a message waits for another read, which is not to come once
the stream is at its end. And what arrives while an application runs that has all of its body is
taken by the disconnect monitor. `dispatched_of_aligned` says that nothing else goes wrong.
-/

import Pounce.Worker.Batches

namespace Pounce.Worker

open Pounce.Math Pounce.Math.Bytes Pounce.Asgi Pounce.H1Protocol
open Pounce.H11 (Place BodyDrained persistent)

universe u

deriving instance DecidableEq for Machine.Recorded

/-! ## What is dispatched -/

section

variable {Conn : Type u} (env : Env Conn)

/-- The stream is one of requests the worker serves, and none of them is one too many. -/
structure KeptAlive (reading : env.h11.Reading) (messages : List ClientMessage) : Prop where
  endpoints : AnswersEndpoints env reading
  valid : ∀ message ∈ messages, reading.valid message
  servable : ∀ message ∈ messages, Servable env message
  count_lt : 0 < env.config.maxRequestsPerConnection →
    messages.length < env.config.maxRequestsPerConnection

/-- The requests of a stream that are for the application, with their bodies. -/
def dispatches (messages : List ClientMessage) : List (RequestReceived × Bytes) :=
  (messages.filter fun message => (env.builtin message.request).isNone).map fun message =>
    (message.request, message.content)

/-- The body the application has received, and what it can still receive. -/
def Serving.body (serving : Serving) : Bytes :=
  delivered serving.received ++ bodyData serving.intake.bodyEvents

/-- The request an application returns from, with its body. -/
def dispatched (state : State Conn) (action : Action) : Option (RequestReceived × Bytes) :=
  match state.phase, action with
  | .serving serving _, .appReturns _ => some (serving.request, serving.body)
  | _, _ => none

/-- A connection with the requests dispatched on it. -/
def dispatching : Machine (Machine.Recorded (State Conn) (RequestReceived × Bytes)) Action :=
  (machine env).recording dispatched

/-- The connection is closed, or the stream is at its end and nothing is being served. -/
def Over (messages : List ClientMessage) (state : State Conn) : Prop :=
  state.phase = .closed ∨ state.phase = .reading ∧ state.taken = streamBytes messages

/-! ## What the worker can rely on -/

/-- The read brings what comes next in the stream. -/
def continues (messages : List ClientMessage) (state : State Conn) : ReadOutcome → Bool
  | .data data => (state.taken ++ data).isPrefixOf (streamBytes messages)
  | _ => false

/-- The client sends the stream and stays, no timeout fires, the worker is not drained, and every
call of the application completes its response and leaves the connection open. -/
def provided (reading : env.h11.Reading) (messages : List ClientMessage) (state : State Conn)
    (action : Action) : Bool :=
  match state.phase, action with
  | _, .read outcome => continues messages state outcome
  | _, .companionRead outcome => continues messages state outcome
  | _, .send event => persistent event && (env.h11.send state.conn event).1.isSome
  | .serving serving _, .appReturns raised =>
      !raised && serving.responseStarted && reading.responded state.conn
  | _, .clientLeaves => false
  | _, .drain => false
  | _, _ => true

/-! ## Where the stream may be cut -/

/-- What the loop needs of a message in one read: its head, and all of it for an endpoint. -/
def needed (message : ClientMessage) : Bytes :=
  if (env.builtin message.request).isSome then message.bytes else message.head

/-- If the read takes the last of the stream, so many messages are all there are. -/
def lastOf (messages : List ClientMessage) (state : State Conn) (data : Bytes) (count : ℕ) : Bool :=
  state.taken ++ data ≠ streamBytes messages || count = messages.length

/-- A read of the loop brings the head of the next message, the last read is for the last message,
the monitor reads nothing, and the reader is left alone until the body is complete. -/
def aligned (messages : List ClientMessage) (state : State Conn) (action : Action) : Bool :=
  match state.phase, action with
  | .reading, .read (.data data) =>
      (messages[state.parsed.length]?.any fun message =>
        (streamBytes (messages.take state.parsed.length) ++ needed env message).isPrefixOf
          (state.taken ++ data)) &&
      lastOf messages state data (state.parsed.length + 1)
  | .serving serving _, .companionRead (.data data) =>
      serving.companion.reads && lastOf messages state data state.parsed.length
  | .serving serving _, .appReturns _ => !serving.companion.reads
  | .serving serving _, .cancel => !serving.companion.reads
  | _, _ => true

end

variable {Conn : Type u} {env : Env Conn} {reading : env.h11.Reading}

/-! ## Where a run stands -/

variable (reading) in
/-- So many messages have been served, and the loop waits for the next one. -/
structure Between (messages served later : List ClientMessage) (buffer : Bytes)
    (state : State Conn) : Prop where
  messages_eq : messages = served ++ later
  phase : state.phase = .reading
  at_head : reading.At state.conn .head buffer
  taken : state.taken = streamBytes served ++ buffer
  parsed : state.parsed.length = served.length
  count : state.requestCount = served.length
  last : state.taken = streamBytes messages → later = []

variable (reading) in
/-- A message is being served: what h11 has reported of its body and what is left of it make its
content, and what h11 has reported the application has or can still receive. -/
structure During (messages served : List ClientMessage) (message : ClientMessage)
    (later : List ClientMessage) (place : Place) (buffer : Bytes) (serving : Serving)
    (state : State Conn) : Prop where
  messages_eq : messages = served ++ message :: later
  phase : ∃ events, state.phase = .serving serving events ∧ OfBody events
  at_place : reading.At state.conn place buffer
  consumed : ∃ past, state.taken = past ++ buffer ∧
    streamBytes served ++ message.bytes = past ++ place.left
  request : serving.request = message.request
  forApp : env.builtin message.request = none
  whole : Whole serving
  content : reportedData serving.reported ++ place.content = message.content
  companion : serving.companion.Matches env.config.maxRequestSize place
  parsed : state.parsed.length = served.length + 1
  count : state.requestCount = served.length + 1
  last : state.taken = streamBytes messages → later = []

/-- A read that takes the last of the stream takes it for the last message. -/
theorem eq_nil_of_lastOf {messages before later : List ClientMessage} {state : State Conn}
    {data : Bytes} (hmessages : messages = before ++ later)
    (hlast : lastOf messages state data before.length = true)
    (htaken : state.taken ++ data = streamBytes messages) : later = [] := by
  simp only [lastOf, htaken, ne_eq, not_true_eq_false, decide_false, Bool.false_or,
    decide_eq_true_eq] at hlast
  rw [hmessages, List.length_append] at hlast
  exact List.length_eq_zero_iff.mp (by omega)

/-- What comes next in a stream agrees with what is next in it. -/
theorem agrees_of_within (past : Bytes) {next rest more : Bytes}
    (hwithin : past ++ more <+: past ++ (next ++ rest)) : H11.Agrees next more := by
  rw [List.prefix_append_right_inj] at hwithin
  exact List.prefix_or_prefix_of_prefix (List.prefix_append next rest) hwithin

section

variable {messages served later : List ClientMessage} {buffer data : Bytes} {state : State Conn}

/-- The read brings what the loop needs of the next message. -/
theorem Between.brings (hbetween : Between reading messages served later buffer state)
    (haligned : aligned env messages state (.read (.data data)) = true) :
    ∃ message rest, later = message :: rest ∧ needed env message <+: buffer ++ data ∧
      lastOf messages state data (served.length + 1) = true := by
  obtain ⟨rfl, hphase, -, htaken, hparsed, -, -⟩ := hbetween
  simp only [aligned, hphase, hparsed, Bool.and_eq_true] at haligned
  obtain ⟨hneeded, hlast⟩ := haligned
  rw [List.getElem?_append_right le_rfl, Nat.sub_self, List.take_left] at hneeded
  cases later with
  | nil => cases hneeded
  | cons message rest =>
      refine ⟨message, rest, rfl, ?_, hlast⟩
      rw [List.getElem?_cons_zero, Option.any_some, List.isPrefixOf_iff_prefix, htaken,
        List.append_assoc, List.prefix_append_right_inj] at hneeded
      exact hneeded

/-- What h11 makes of such a read: the request of the next message and what is there of its body,
which is all of it if the message is for an endpoint. -/
theorem Between.drains (hbetween : Between reading messages served later buffer state)
    (hkept : KeptAlive env reading messages)
    (hwithin : state.taken ++ data <+: streamBytes messages)
    (haligned : aligned env messages state (.read (.data data)) = true) :
    ∃ message rest behind events conn place buffer', later = message :: rest ∧
      lastOf messages state data (served.length + 1) = true ∧
      state.taken ++ data = streamBytes served ++ message.head ++ behind ∧
      env.h11.drain (env.h11.receiveData state.conn data) =
        { events := .request message.request :: events, rejected := none, conn } ∧
      BodyDrained message.wire message.content behind events place buffer' ∧
      reading.At conn place buffer' ∧ reading.unanswered conn ∧
      ((env.builtin message.request).isSome → place = .ended) := by
  obtain ⟨message, rest, rfl, hneeded, hlast⟩ := hbetween.brings haligned
  have hmem : message ∈ messages := by
    rw [hbetween.messages_eq]
    exact List.mem_append_right _ List.mem_cons_self
  -- the head is there, and something of the body behind it
  obtain ⟨behind, hbehind⟩ : message.head <+: buffer ++ data := by
    refine List.IsPrefix.trans ?_ hneeded
    unfold needed
    split
    · exact List.prefix_append _ _
    · exact List.prefix_rfl
  have htakes : state.taken ++ data = streamBytes served ++ message.head ++ behind := by
    rw [hbetween.taken, List.append_assoc, ← hbehind, List.append_assoc]
  have hagrees : H11.Agrees message.wire behind := by
    apply agrees_of_within (streamBytes served ++ message.head)
    rw [← htakes]
    simpa [hbetween.messages_eq, ClientMessage.bytes] using hwithin
  have hfed : reading.At (env.h11.receiveData state.conn data) .head (message.head ++ behind) := by
    rw [hbehind]
    exact reading.at_receiveData state.conn .head buffer data hbetween.at_head
  obtain ⟨events, conn, place, buffer', hdrain, hdrained, hafter, hunanswered⟩ :=
    reading.drain_head (hkept.valid message hmem) hfed hagrees
  refine ⟨message, rest, behind, events, conn, place, buffer', rfl, hlast, htakes, hdrain,
    hdrained, hafter, hunanswered, fun hbuiltin => hdrained.ended ?_⟩
  rw [needed, if_pos hbuiltin, ClientMessage.bytes, ← hbehind,
    List.prefix_append_right_inj] at hneeded
  exact hneeded

/-- A read that brings the head of the next message has it served, by the application or by an
endpoint. -/
theorem Between.read (hbetween : Between reading messages served later buffer state)
    (hkept : KeptAlive env reading messages) (hdraining : state.draining = false)
    (hwithin : state.taken ++ data <+: streamBytes messages)
    (haligned : aligned env messages state (.read (.data data)) = true) {next : State Conn}
    (hread : readData env state data = next) :
    (next.clientGone = state.clientGone ∧ next.draining = state.draining ∧
        next.taken = state.taken ++ data) ∧
      ((∃ message later place buffer serving,
          During reading messages served message later place buffer serving next) ∨
        ∃ message later buffer, (env.builtin message.request).isSome ∧
          Between reading messages (served ++ [message]) later buffer next) := by
  obtain ⟨message, rest, behind, events, conn, place, buffer', rfl, hlast, htakes, hdrain, hdrained,
    hafter, hunanswered, hended⟩ := hbetween.drains hkept hwithin haligned
  have hmessages := hbetween.messages_eq
  have hbefore : messages = (served ++ [message]) ++ rest := by
    rw [hmessages, List.append_assoc, List.singleton_append]
  have hlength : (served ++ [message]).length = served.length + 1 := by simp
  have hservable : Servable env message := by
    apply hkept.servable
    rw [hmessages]
    exact List.mem_append_right _ List.mem_cons_self
  obtain ⟨eaten, hwire, hrest⟩ := hdrained.eaten
  have hbody := ofBody_drained hdrained
  rw [readData_request hbody hdrain, advance] at hread
  dsimp only at hread
  rcases processEvents_request hkept.endpoints hservable hdrained hafter hunanswered
    state.requestCount with ⟨hbuiltin, after, hnext, hprogress⟩ |
      ⟨hbuiltin, after, hnext, hresponded, hprogress⟩
  · -- the application is called
    rw [hprogress] at hread
    obtain ⟨hrequest, hcontent, hcompanion⟩ := hservable.serve hdrained
    subst hread
    refine ⟨⟨rfl, rfl, rfl⟩, .inl ⟨message, rest, place, buffer',
      serve message.request (initialBody (events.map translate)), ?_⟩⟩
    constructor
    case messages_eq => exact hmessages
    case phase => exact ⟨_, rfl, hbody⟩
    case at_place => exact hnext
    case consumed =>
      refine ⟨streamBytes served ++ message.head ++ eaten, ?_, ?_⟩
      · rw [htakes, hrest, List.append_assoc _ eaten]
      · rw [ClientMessage.bytes, hwire]
        simp only [List.append_assoc]
    case request => exact hrequest
    case forApp => exact hbuiltin
    case whole => exact whole_serve (tidy_drained hdrained)
    case content => exact hcontent
    case companion => exact hcompanion
    case parsed => rw [List.length_append, hbetween.parsed, List.length_singleton]
    case count => exact congrArg (· + 1) hbetween.count
    case last => exact eq_nil_of_lastOf hbefore (by rw [hlength]; exact hlast)
  · -- an endpoint has answered
    obtain rfl := hended hbuiltin
    rw [hprogress] at hread
    have hcount : 0 < env.config.maxRequestsPerConnection →
        state.requestCount + 1 < env.config.maxRequestsPerConnection := by
      intro hpos
      have hless := hkept.count_lt hpos
      rw [hmessages, List.length_append, List.length_cons] at hless
      rw [hbetween.count]
      omega
    obtain ⟨last, rfl, hhead⟩ := nextCycle_done hread hdraining hcount hnext hresponded
    refine ⟨⟨rfl, rfl, rfl⟩, .inr ⟨message, rest, buffer', hbuiltin, ?_⟩⟩
    constructor
    case messages_eq => exact hbefore
    case phase => rfl
    case at_head => exact hhead
    case taken =>
      rw [htakes, hrest, streamBytes_append]
      simp [ClientMessage.bytes, hwire, Place.left]
    case parsed => rw [List.length_append, hbetween.parsed, List.length_singleton, hlength]
    case count => rw [hlength, hbetween.count]
    case last => exact eq_nil_of_lastOf hbefore (by rw [hlength]; exact hlast)

section

variable {message : ClientMessage} {place : Place} {serving : Serving}

/-- What is left of the body comes next in the stream. -/
theorem During.agrees
    (hduring : During reading messages served message later place buffer serving state)
    (hwithin : state.taken ++ data <+: streamBytes messages) :
    H11.Agrees place.left (buffer ++ data) := by
  obtain ⟨past, htaken, hpast⟩ := hduring.consumed
  have hstream : streamBytes messages = past ++ (place.left ++ streamBytes later) := by
    rw [hduring.messages_eq, streamBytes_append, streamBytes_cons, ← List.append_assoc, hpast,
      List.append_assoc]
  apply agrees_of_within past
  rwa [htaken, List.append_assoc, hstream] at hwithin

/-- A read of the reader brings more of the body. -/
theorem During.read
    (hduring : During reading messages served message later place buffer serving state)
    (hwithin : state.taken ++ data <+: streamBytes messages) {total : ℕ}
    (hcompanion : serving.companion = .reader total)
    (hlast : lastOf messages state data (served.length + 1) = true) {events : List ProtocolEvent}
    (hphase : state.phase = .serving serving events) :
    ∃ place buffer, During reading messages served message later place buffer
      (readBody env state.conn serving total (.data data)).1 { state with
        conn := (readBody env state.conn serving total (.data data)).2
        phase := .serving (readBody env state.conn serving total (.data data)).1 events
        taken := state.taken ++ data
        fed := state.fed ++ data } := by
  -- the reader goes with a body of which something is left
  obtain ⟨left, content, rfl, hfits⟩ : ∃ left content, place = .body left content ∧
      total + content.length ≤ env.config.maxRequestSize := by
    have hmatches := hduring.companion
    rw [hcompanion] at hmatches
    cases place with
    | head => exact hmatches.elim
    | body left content =>
        obtain ⟨_, hsame, hfits⟩ := hmatches
        obtain rfl := Companion.reader.inj hsame
        exact ⟨left, content, rfl, hfits⟩
    | ended => cases hmatches
  have hbefore : messages = (served ++ [message]) ++ later := by
    rw [hduring.messages_eq, List.append_assoc, List.singleton_append]
  obtain ⟨past, htaken, hpast⟩ := hduring.consumed
  obtain ⟨reported, conn, place, buffer', hdrain, hdrained, hafter, -⟩ :=
    reading.drain_body (reading.at_receiveData _ _ _ data hduring.at_place)
      (hduring.agrees hwithin)
  obtain ⟨eaten, hleft, hbuffer⟩ := hdrained.eaten
  have hdata := content_drained hdrained
  have hlength := congrArg List.length hdata
  rw [List.length_append] at hlength
  have hlimit : total + (bodyData (bodyEventsOf (reported.map translate))).length ≤
      env.config.maxRequestSize := by
    rw [bodyData_translate]
    omega
  have hread : readBody env state.conn serving total (.data data) =
      (readBodyEvents env { serving with reported := serving.reported ++ reported } total
        (reported.map translate), conn) := by
    rw [readBody]
    dsimp only
    rw [receiveData_drained hdrain, hdrain]
  rw [hread]
  have htidy := tidy_drained hdrained
  have hresult : readBodyEvents env { serving with reported := serving.reported ++ reported } total
      (reported.map translate) = _ := readBodyEvents_within _ htidy hlimit
  rw [any_drained hdrained] at hresult
  obtain ⟨_, hstarted, hbody⟩ := hduring.phase
  obtain rfl := (Phase.serving.inj (hstarted.symm.trans hphase)).2
  refine ⟨place, buffer', ?_⟩
  constructor
  case messages_eq => exact hduring.messages_eq
  case phase => exact ⟨_, rfl, hbody⟩
  case at_place => exact hafter
  case consumed =>
    refine ⟨past ++ eaten, ?_, ?_⟩
    · rw [htaken, List.append_assoc, hbuffer, List.append_assoc]
    · rw [hpast, List.append_assoc, ← hleft, Place.left_body]
  case request => exact (readBodyEvents_keeps env _ _ _).1.trans hduring.request
  case forApp => exact hduring.forApp
  case whole => exact hduring.whole.arrive hcompanion htidy hlimit
  case content =>
    have hreported : (readBodyEvents env { serving with reported := serving.reported ++ reported }
        total (reported.map translate)).reported = serving.reported ++ reported := by
      rw [hresult]
      split <;> rfl
    rw [hreported, reportedData_append, List.append_assoc, hdata]
    exact hduring.content
  case companion =>
    rw [hresult]
    cases hdrained with
    | complete => rfl
    | short =>
        refine ⟨_, rfl, ?_⟩
        rw [bodyData_translate]
        rw [Place.content_body] at hlength
        omega
  case parsed => exact hduring.parsed
  case count => exact hduring.count
  case last => exact eq_nil_of_lastOf hbefore (by simpa using hlast)

/-- An application that has all of the body and whose response is complete returns. -/
theorem During.returns
    (hduring : During reading messages served message later place buffer serving state)
    (hkept : KeptAlive env reading messages) (hdraining : state.draining = false)
    (hreads : serving.companion.reads = false)
    (hstarted : serving.responseStarted = true) (hresponded : reading.responded state.conn)
    {events : List ProtocolEvent} (hbody : OfBody events) {next : State Conn}
    (hreturns : advance env { state with conn := afterApp env state.conn serving false } events =
      next) :
    (next.clientGone = state.clientGone ∧ next.draining = state.draining ∧
        next.taken = state.taken) ∧
      Between reading messages (served ++ [message]) later buffer next ∧
        serving.body = message.content := by
  obtain rfl := hduring.companion.ended hreads
  obtain ⟨past, htaken, hpast⟩ := hduring.consumed
  have hbefore : messages = (served ++ [message]) ++ later := by
    rw [hduring.messages_eq, List.append_assoc, List.singleton_append]
  have hlength : (served ++ [message]).length = served.length + 1 := by simp
  have hconn : afterApp env state.conn serving false = state.conn := by
    simp [afterApp, hstarted]
  rw [hconn, advance, processEvents_ofBody env hbody] at hreturns
  dsimp only at hreturns
  have hcount : 0 < env.config.maxRequestsPerConnection →
      state.requestCount < env.config.maxRequestsPerConnection := by
    intro hpos
    have hless := hkept.count_lt hpos
    rw [hbefore, List.length_append, hlength] at hless
    rw [hduring.count]
    omega
  obtain ⟨conn, rfl, hhead⟩ := nextCycle_done hreturns hdraining hcount hduring.at_place hresponded
  refine ⟨⟨rfl, rfl, rfl⟩, ?_, ?_⟩
  · constructor
    case messages_eq => exact hbefore
    case phase => rfl
    case at_head => exact hhead
    case taken =>
      rw [htaken, streamBytes_append, streamBytes_cons, streamBytes_nil, List.append_nil, hpast,
        Place.left_ended, List.append_nil]
    case parsed => rw [hduring.parsed, hlength]
    case count => rw [hduring.count, hlength]
    case last => exact hduring.last
  · rw [← hduring.content, Serving.body, hduring.whole.account, Place.content_ended,
      List.append_nil]

end

end

/-! ## Runs -/

variable (reading) in
/-- The run stands between two messages or is at one, and what has been dispatched is what was
before. -/
structure Follows (messages : List ClientMessage)
    (recorded : Machine.Recorded (State Conn) (RequestReceived × Bytes)) : Prop where
  clientGone : recorded.state.clientGone = false
  draining : recorded.state.draining = false
  within : recorded.state.taken <+: streamBytes messages
  stands : (∃ served later buffer, Between reading messages served later buffer recorded.state ∧
      recorded.history = dispatches env served) ∨
    ∃ served message later place buffer serving,
      During reading messages served message later place buffer serving recorded.state ∧
        recorded.history = dispatches env served

/-- A message for an endpoint adds nothing to what is dispatched. -/
theorem dispatches_endpoint {message : ClientMessage}
    (hbuiltin : (env.builtin message.request).isSome) (served : List ClientMessage) :
    dispatches env (served ++ [message]) = dispatches env served := by
  simp [dispatches, Option.isNone_eq_false_iff.mpr hbuiltin]

/-- A message for the application is dispatched. -/
theorem dispatches_forApp {message : ClientMessage} (hforApp : env.builtin message.request = none)
    (served : List ClientMessage) :
    dispatches env (served ++ [message]) =
      dispatches env served ++ [(message.request, message.content)] := by
  simp [dispatches, hforApp]

section

variable {messages served later : List ClientMessage} {buffer : Bytes}
  {recorded next : Machine.Recorded (State Conn) (RequestReceived × Bytes)} {action : Action}

/-- Only the return of an application is recorded. -/
theorem history_of_ne (hstep : (dispatching env).step recorded action = some next)
    (hother : ∀ raised, action ≠ .appReturns raised) : next.history = recorded.history := by
  have hnone : dispatched recorded.state action = none := by
    rw [dispatched]
    exact fun _ _ raised _ hreturns => hother raised hreturns
  rw [(Machine.recording_step hstep).2, hnone]
  exact List.append_nil _

/-- A read is the only step between two messages. -/
theorem Follows.between (hfollows : Follows reading messages recorded)
    (hkept : KeptAlive env reading messages)
    (hbetween : Between reading messages served later buffer recorded.state)
    (hserved : recorded.history = dispatches env served)
    (hprovided : provided env reading messages recorded.state action = true)
    (haligned : aligned env messages recorded.state action = true)
    (hstep : (dispatching env).step recorded action = some next) :
    Follows reading messages next := by
  obtain ⟨htaken, -⟩ := Machine.recording_step hstep
  have hphase := hbetween.phase
  change step env recorded.state action = some next.state at htaken
  cases action with
  | read outcome =>
      cases outcome with
      | data data =>
          simp only [provided, continues, List.isPrefixOf_iff_prefix] at hprovided
          simp only [step, hphase] at htaken
          obtain ⟨-, hread⟩ := Option.ite_none_right_eq_some.mp htaken
          obtain ⟨⟨hgone, hdraining, htook⟩, hnext⟩ := hbetween.read hkept hfollows.draining
            hprovided haligned (Option.some.inj hread)
          have hsame : next.history = dispatches env served := by
            rw [history_of_ne hstep (by simp), hserved]
          refine ⟨hgone.trans hfollows.clientGone, hdraining.trans hfollows.draining, ?_, ?_⟩
          · rw [htook]
            exact hprovided
          · rcases hnext with ⟨message, later, place, buffer, serving, hduring⟩ |
              ⟨message, later, buffer, hbuiltin, hafter⟩
            · exact .inr ⟨served, message, later, place, buffer, serving, hduring, hsame⟩
            · exact .inl ⟨_, later, buffer, hafter,
                hsame.trans (dispatches_endpoint hbuiltin served).symm⟩
      | eof => simp [provided, continues] at hprovided
      | connectionError => simp [provided, continues] at hprovided
      | timeout => simp [provided, continues] at hprovided
  | clientLeaves => simp [provided] at hprovided
  | drain => simp [provided] at hprovided
  | companionRead outcome => simp [step, hphase] at htaken
  | receive => simp [step, hphase] at htaken
  | send event => simp [step, hphase] at htaken
  | appReturns raised => simp [step, hphase] at htaken
  | cancel => simp [step, hphase] at htaken

/-- While a message is being served, only the return of the application changes what has been
dispatched. -/
theorem Follows.during (hfollows : Follows reading messages recorded)
    (hkept : KeptAlive env reading messages) {message : ClientMessage} {place : Place}
    {serving : Serving}
    (hduring : During reading messages served message later place buffer serving recorded.state)
    (hserved : recorded.history = dispatches env served)
    (hprovided : provided env reading messages recorded.state action = true)
    (haligned : aligned env messages recorded.state action = true)
    (hstep : (dispatching env).step recorded action = some next) :
    Follows reading messages next := by
  obtain ⟨htaken, hhistory⟩ := Machine.recording_step hstep
  obtain ⟨events, hphase, hbody⟩ := hduring.phase
  obtain ⟨hgone, hdraining, hwithin, -⟩ := hfollows
  have hplace := hduring.companion.ne_head
  have hother := history_of_ne hstep
  obtain ⟨after, history⟩ := next
  change step env recorded.state action = some after at htaken
  cases action with
  | read outcome => simp [step, hphase] at htaken
  | clientLeaves => simp [provided] at hprovided
  | drain => simp [provided] at hprovided
  | companionRead outcome =>
      cases outcome with
      | eof => simp [provided, continues] at hprovided
      | connectionError => simp [provided, continues] at hprovided
      | timeout => simp [provided, continues] at hprovided
      | data data =>
          simp only [provided, continues, List.isPrefixOf_iff_prefix] at hprovided
          simp only [aligned, hphase, Bool.and_eq_true, hduring.parsed] at haligned
          simp only [step, hphase, servingStep, companionRead] at htaken
          obtain ⟨-, hread⟩ := Option.ite_none_right_eq_some.mp htaken
          cases hcompanion : serving.companion with
          | reader total =>
              rw [hcompanion] at hread
              obtain rfl := Option.some.inj hread
              obtain ⟨place, buffer, hafter⟩ :=
                hduring.read hprovided hcompanion haligned.2 hphase
              exact ⟨hgone, hdraining, hprovided, .inr ⟨served, message, later, place, buffer, _,
                hafter, (hother (by simp)).trans hserved⟩⟩
          | monitor => rw [hcompanion] at haligned; cases haligned.1
          | ended => rw [hcompanion] at haligned; cases haligned.1
          | timedOut => rw [hcompanion] at haligned; cases haligned.1
  | receive =>
      simp only [step, hphase, servingStep] at htaken
      split at htaken
      case h_1 => cases htaken
      case h_2 given receiver intake hreceive =>
        obtain rfl := Option.some.inj htaken
        refine ⟨hgone, hdraining, hwithin, .inr ⟨served, message, later, place, buffer, _,
          { hduring with
            phase := ⟨events, rfl, hbody⟩
            whole := hduring.whole.receive hreceive }, (hother (by simp)).trans hserved⟩⟩
  | send event =>
      simp only [provided, Bool.and_eq_true] at hprovided
      obtain ⟨hpersistent, hsent⟩ := hprovided
      obtain ⟨bytes, hbytes⟩ := Option.isSome_iff_exists.mp hsent
      simp only [step, hphase, servingStep] at htaken
      obtain rfl := Option.some.inj htaken
      refine ⟨hgone, hdraining, hwithin, .inr ⟨served, message, later, place, buffer, _,
        { hduring with
          phase := ⟨events, rfl, hbody⟩
          at_place := reading.at_send _ place buffer event bytes _ hduring.at_place hplace
            hpersistent (Prod.ext hbytes rfl)
          whole := { hduring.whole with } }, (hother (by simp)).trans hserved⟩⟩
  | appReturns raised =>
      simp only [provided, hphase, Bool.and_eq_true, Bool.not_eq_true'] at hprovided
      obtain ⟨⟨rfl, hstarted⟩, hresponded⟩ := hprovided
      simp only [aligned, hphase, Bool.not_eq_true'] at haligned
      simp only [step, hphase, servingStep] at htaken
      obtain ⟨⟨hgone', hdraining', htook⟩, hafter, hcontent⟩ := hduring.returns hkept hdraining
        haligned hstarted hresponded hbody (Option.some.inj htaken)
      refine ⟨hgone'.trans hgone, hdraining'.trans hdraining, ?_,
        .inl ⟨_, later, buffer, hafter, ?_⟩⟩
      · rw [htook]
        exact hwithin
      · rw [hhistory, dispatches_forApp hduring.forApp, hserved, ← hduring.request, ← hcontent]
        simp [dispatched, hphase]
  | cancel =>
      simp only [aligned, hphase, Bool.not_eq_true'] at haligned
      simp only [step, hphase, servingStep] at htaken
      obtain ⟨cancelled, hcancel, rfl⟩ := Option.map_eq_some_iff.mp htaken
      obtain rfl := hduring.companion.ended haligned
      unfold cancelCompanion at hcancel
      split at hcancel
      case h_1 total hcompanion => rw [hcompanion] at haligned; cases haligned
      case h_2 hcompanion =>
        obtain rfl := Option.some.inj hcancel
        refine ⟨hgone, hdraining, hwithin, .inr ⟨served, message, later, .ended, buffer, _,
          { hduring with
            phase := ⟨events, rfl, hbody⟩
            whole := hduring.whole.release .ended (fun _ hreader => by cases hreader) true
            companion := rfl }, (hother (by simp)).trans hserved⟩⟩
      case h_3 => cases hcancel
      case h_4 => cases hcancel

/-- Runs that are provided for and aligned follow the stream. -/
theorem follows_of_reach (hkept : KeptAlive env reading messages)
    (hreach : (dispatching env).Reach (fun recorded action =>
      provided env reading messages recorded.state action ∧
        aligned env messages recorded.state action) recorded) :
    Follows reading messages recorded := by
  apply hreach.invariant
  · rintro ⟨state, history⟩ ⟨hinit, hhistory⟩
    obtain rfl : state = { conn := env.h11.new } := hinit
    refine ⟨rfl, rfl, List.nil_prefix, .inl ⟨[], messages, [], ?_, hhistory⟩⟩
    constructor
    case messages_eq => rfl
    case phase => rfl
    case at_head => exact reading.at_new
    case taken => rfl
    case parsed => rfl
    case count => rfl
    case last => exact fun hnil => streamBytes_eq_nil.mp hnil.symm
  · rintro recorded action next hfollows ⟨hprovided, haligned⟩ hstep
    rcases hfollows.stands with ⟨served, later, buffer, hbetween, hserved⟩ |
      ⟨served, message, later, place, buffer, serving, hduring, hserved⟩
    · exact hfollows.between hkept hbetween hserved hprovided haligned hstep
    · exact hfollows.during hkept hduring hserved hprovided haligned hstep

variable (env) in
/-- The requests dispatched are those of the stream, in order and with their bodies, and all of
them once the connection is over. -/
def Dispatched (messages : List ClientMessage)
    (recorded : Machine.Recorded (State Conn) (RequestReceived × Bytes)) : Prop :=
  recorded.history <+: dispatches env messages ∧
    (Over messages recorded.state → recorded.history = dispatches env messages)

/-- However a stream of requests is cut, those for the application are dispatched with their
bodies, if every read of the loop brings the head of the next request, the last of the stream is
not read before the last request is due, the monitor reads nothing, and the reader is left alone
until the body is complete. -/
theorem dispatched_of_aligned (env : Env Conn) (reading : env.h11.Reading)
    (messages : List ClientMessage) (hkept : KeptAlive env reading messages)
    {recorded : Machine.Recorded (State Conn) (RequestReceived × Bytes)}
    (hreach : (dispatching env).Reach (fun recorded action =>
      provided env reading messages recorded.state action ∧
        aligned env messages recorded.state action) recorded) :
    Dispatched env messages recorded := by
  rcases (follows_of_reach hkept hreach).stands with ⟨served, later, buffer, hbetween, hserved⟩ |
    ⟨served, message, later, place, buffer, serving, hduring, hserved⟩
  · have hmessages : dispatches env messages = dispatches env served ++ dispatches env later := by
      rw [hbetween.messages_eq]
      simp [dispatches]
    refine ⟨⟨dispatches env later, by rw [hserved, hmessages]⟩, ?_⟩
    rintro (hclosed | ⟨-, hall⟩)
    · rw [hbetween.phase] at hclosed
      cases hclosed
    · rw [hserved, hmessages, hbetween.last hall]
      exact (List.append_nil _).symm
  · obtain ⟨events, hphase, -⟩ := hduring.phase
    refine ⟨⟨dispatches env (message :: later), ?_⟩, ?_⟩
    · rw [hserved, hduring.messages_eq]
      simp [dispatches]
    · rintro (hclosed | ⟨hreading, -⟩)
      · rw [hphase] at hclosed
        cases hclosed
      · rw [hphase] at hreading
        cases hreading

end

/-! ## Two requests, by way of example -/

/-- A request head without a body. -/
def pageHead : KnownHead where
  bytes := ascii "GET / HTTP/1.1\r\nHost: a\r\n\r\n"
  request := {
    method := ascii "GET"
    target := ascii "/"
    headers := [(ascii "host", ascii "a")]
    httpVersion := .http11 }

/-- A worker for pages and uploads. -/
def pageEnv : Env SmallConn where
  h11 := smallH11 [pageHead, uploadHead]

/-- The request of a page. -/
def pageMessage : ClientMessage where
  request := pageHead.request
  head := pageHead.bytes
  wire := []
  content := []
  head_ne_nil := by decide

/-- An upload of four bytes. -/
def uploadMessage : ClientMessage where
  request := uploadHead.request
  head := uploadHead.bytes
  wire := ascii "abcd"
  content := ascii "abcd"
  head_ne_nil := by decide

/-- The worker reads with the small connection object. -/
def pageReading : pageEnv.h11.Reading := SmallConn.reading [pageHead, uploadHead]

theorem understands_page : SmallConn.Understands [pageHead, uploadHead] pageMessage := by
  refine ⟨fun buffer => ?_, rfl⟩
  have hprefix : pageHead.bytes.isPrefixOf (pageMessage.head ++ buffer) = true :=
    List.isPrefixOf_iff_prefix.mpr (List.prefix_append _ _)
  rw [List.find?, hprefix]
  rfl

theorem understands_upload : SmallConn.Understands [pageHead, uploadHead] uploadMessage := by
  refine ⟨fun buffer => ?_, rfl⟩
  have hother : pageHead.bytes.isPrefixOf (uploadMessage.head ++ buffer) = false := rfl
  have hprefix : uploadHead.bytes.isPrefixOf (uploadMessage.head ++ buffer) = true :=
    List.isPrefixOf_iff_prefix.mpr (List.prefix_append _ _)
  rw [List.find?, hother, List.find?, hprefix]
  rfl

theorem keptAlive_pages :
    KeptAlive pageEnv pageReading [pageMessage, uploadMessage] where
  endpoints := {
    persistent := fun _ _ hbuiltin => by cases hbuiltin
    complete := fun _ _ hbuiltin => by cases hbuiltin }
  valid := by
    intro message hmem
    rcases List.mem_pair.mp hmem with rfl | rfl
    · exact understands_page
    · exact understands_upload
  servable := by
    intro message hmem
    rcases List.mem_pair.mp hmem with rfl | rfl
    · refine ⟨by decide +kernel, ?_, by decide +kernel, fun hwire => absurd rfl hwire⟩
      intro length hdeclared
      have hnone : declaredContentLength pageMessage.request.headers = none := by decide +kernel
      rw [hnone] at hdeclared
      cases hdeclared
    · refine ⟨by decide +kernel, ?_, by decide +kernel, fun _ => by decide +kernel⟩
      intro length hdeclared
      have hfour : declaredContentLength uploadMessage.request.headers = some 4 := by
        decide +kernel
      rw [hfour] at hdeclared
      obtain rfl := Option.some.inj hdeclared
      decide +kernel
  count_lt := by decide +kernel

/-- The second head comes in two reads, the second body as well. -/
def pageActions : List Action :=
  [.read (.data (pageHead.bytes ++ uploadHead.bytes.take 10)),
    .send (.response 200 []), .send .endOfMessage, .appReturns false,
    .read (.data (uploadHead.bytes.drop 10 ++ ascii "ab")), .receive,
    .companionRead (.data (ascii "cd")),
    .send (.response 200 []), .send .endOfMessage, .appReturns false]

/-- What the application was called for. -/
def afterPages : Machine.Recorded (State SmallConn) (RequestReceived × Bytes) where
  state := {
    conn := {}
    requestCount := 2
    taken := pageHead.bytes ++ uploadHead.bytes ++ ascii "abcd"
    fed := pageHead.bytes ++ uploadHead.bytes ++ ascii "abcd"
    parsed := [
      ⟨pageHead.request, pageHead.bytes ++ uploadHead.bytes.take 10,
        pageHead.bytes ++ uploadHead.bytes.take 10⟩,
      ⟨uploadHead.request, pageHead.bytes ++ uploadHead.bytes ++ ascii "ab",
        pageHead.bytes ++ uploadHead.bytes ++ ascii "ab"⟩] }
  history := [(pageHead.request, []), (uploadHead.request, ascii "abcd")]

theorem run_pages :
    (dispatching pageEnv).run ⟨{ conn := {} }, []⟩ pageActions = some afterPages := by
  decide +kernel

theorem along_pages : (dispatching pageEnv).Along (fun recorded action =>
    provided pageEnv pageReading [pageMessage, uploadMessage] recorded.state action ∧
      aligned pageEnv [pageMessage, uploadMessage] recorded.state action)
    ⟨{ conn := {} }, []⟩ pageActions :=
  Machine.along_of_guarded (by decide +kernel)

theorem reach_pages : (dispatching pageEnv).Reach (fun recorded action =>
    provided pageEnv pageReading [pageMessage, uploadMessage] recorded.state action ∧
      aligned pageEnv [pageMessage, uploadMessage] recorded.state action) afterPages :=
  Machine.Reach.run
    (.init (show (dispatching pageEnv).init ⟨{ conn := {} }, []⟩ from ⟨rfl, rfl⟩))
    along_pages run_pages

/-- Both are dispatched, the upload with its body. -/
theorem dispatched_of_aligned_pages :
    Dispatched pageEnv [pageMessage, uploadMessage] afterPages :=
  dispatched_of_aligned pageEnv pageReading _ keptAlive_pages reach_pages

/-- The connection after the first four bytes of a head. -/
def afterSplit : Machine.Recorded (State SmallConn) (RequestReceived × Bytes) where
  state := {
    conn := { buffer := ascii "GET " }
    phase := .closed
    taken := ascii "GET "
    fed := ascii "GET " }
  history := []

theorem run_split : (dispatching pageEnv).run ⟨{ conn := {} }, []⟩
    [.read (.data (ascii "GET "))] = some afterSplit := by
  decide +kernel

theorem along_split : (dispatching pageEnv).Along (fun recorded action =>
    provided pageEnv pageReading [pageMessage, uploadMessage] recorded.state action)
    ⟨{ conn := {} }, []⟩ [.read (.data (ascii "GET "))] :=
  Machine.along_of_guarded (by decide +kernel)

/-- A head that comes in two reads is lost with all that follows: the first of them closes the
connection. -/
theorem split_closes : ¬ ∀ (env : Env SmallConn) (reading : env.h11.Reading)
    (messages : List ClientMessage), KeptAlive env reading messages → ∀ first second,
      (dispatching env).Reach
        (fun recorded action => provided env reading messages recorded.state action) first →
      (dispatching env).Reach
        (fun recorded action => provided env reading messages recorded.state action) second →
      Over messages first.state → Over messages second.state →
        first.history = second.history := by
  intro hclaim
  have hsplit : (dispatching pageEnv).Reach (fun recorded action =>
      provided pageEnv pageReading [pageMessage, uploadMessage] recorded.state action)
      afterSplit :=
    Machine.Reach.run
      (.init (show (dispatching pageEnv).init ⟨{ conn := {} }, []⟩ from ⟨rfl, rfl⟩))
      along_split run_split
  have hsame := hclaim pageEnv pageReading _ keptAlive_pages afterPages afterSplit
    (reach_pages.mono fun _ _ hallowed => hallowed.1) hsplit
    (.inr ⟨rfl, by decide +kernel⟩) (.inl rfl)
  cases hsame

end Pounce.Worker
