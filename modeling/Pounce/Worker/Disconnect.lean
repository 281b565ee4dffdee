/-
# Disconnects and the bytes read beside the application

The companion of an application sets the disconnect event when it is over, whatever the
reason. The monitor is over when the client has left; the reader is over already when the
body is complete, so an application that goes on asking is told of a disconnect while its
client is waiting for the response. Whether it is the one or the other depends on whether the
body was complete with the head (`disconnect_clientGone`).

The monitor finds out about the client by reading from the connection, and it drops what it
reads. A request the client sends ahead is lost this way, and the requests after it are
parsed from a stream with a gap. There is none as long as nothing arrives while a monitor
is reading (`parsed_complete`).
-/

import Pounce.Worker.Segmentation

namespace Pounce.Worker

open Pounce.Math Pounce.Math.Bytes Pounce.Asgi Pounce.H1Protocol

universe u

variable {Conn : Type u} {env : Env Conn}

/-! ## The disconnect event -/

/-- The event is set by a companion that is over. -/
def Serving.Signalled (serving : Serving) : Prop :=
  serving.intake.disconnect = true → serving.companion = .ended

/-- A companion that still reads has not set the event. -/
theorem Serving.Signalled.silent {serving : Serving} (hsignalled : serving.Signalled)
    (hcompanion : serving.companion ≠ .ended) : serving.intake.disconnect = false := by
  by_contra hdisconnect
  exact hcompanion (hsignalled (by simpa using hdisconnect))

theorem readBodyEvents_signalled {serving : Serving} (hsilent : serving.intake.disconnect = false)
    (total : ℕ) (events : List ProtocolEvent) :
    (readBodyEvents env serving total events).Signalled := by
  induction events generalizing serving total with
  | nil =>
      intro hdisconnect
      rw [readBodyEvents, hsilent] at hdisconnect
      cases hdisconnect
  | cons event events ih =>
      cases event with
      | requestReceived request => exact ih hsilent total
      | connectionClosed => exact ih hsilent total
      | bodyReceived body =>
          rw [readBodyEvents]
          split
          case isTrue => exact fun _ => rfl
          case isFalse =>
            split
            case isTrue =>
              apply ih
              exact hsilent
            case isFalse => exact fun _ => rfl

theorem readBody_signalled (conn : Conn) {serving : Serving}
    (hsilent : serving.intake.disconnect = false) (total : ℕ) (outcome : ReadOutcome) :
    (readBody env conn serving total outcome).1.Signalled := by
  cases outcome with
  | timeout =>
      intro hdisconnect
      rw [readBody, hsilent] at hdisconnect
      cases hdisconnect
  | eof => exact fun _ => rfl
  | connectionError => exact fun _ => rfl
  | data data =>
      rw [readBody]
      split
      case h_1 => exact fun _ => rfl
      case h_2 =>
        apply readBodyEvents_signalled
        exact hsilent

/-- A turn keeps it. -/
theorem Turn.signalled {state : State Conn} {before serving : Serving} {action : Action}
    (hsignalled : before.Signalled) (hturn : Turn env state before action serving) :
    serving.Signalled := by
  cases hturn with
  | send event started => exact hsignalled
  | cancelReader hcompanion => exact fun _ => rfl
  | cancelMonitor hcompanion => exact fun _ => rfl
  | readBody hcompanion hpossible =>
      exact readBody_signalled _ (hsignalled.silent (by rw [hcompanion]; simp)) _ _
  | monitor hcompanion hpossible houtcome =>
      unfold monitorDisconnect
      split
      case h_1 => exact hsignalled
      case h_2 => exact fun _ => rfl
  | receive hreceive =>
      obtain ⟨request, closure, queue, companion, bodyComplete, started, reported, received⟩ := before
      cases Receiver.receive_returns hreceive with
      | empty => exact hsignalled
      | emptyDisconnect => exact hsignalled
      | chunk => exact hsignalled
      | disconnect => exact hsignalled
      | buffered => exact hsignalled

/-! ## Being told of a disconnect -/

/-- The application that has got its last body message calls `receive` again only if the body was
complete with the head, or after the client has left. No monitor is cancelled before that. -/
def restrained (state : State Conn) (action : Action) : Bool :=
  match state.phase, action with
  | .serving serving _, .receive =>
      !serving.receiver.finished || serving.bodyComplete || state.clientGone
  | .serving serving _, .cancel => !serving.bodyComplete || state.clientGone
  | _, _ => true

/-- What is known of the disconnects an application has been told of. -/
structure Told (gone : Bool) (serving : Serving) : Prop where
  signalled : serving.Signalled
  /-- A complete body has a monitor, which is at work while the client stays. -/
  monitored : serving.bodyComplete = true → gone = false → serving.companion = .monitor
  told : .disconnect ∈ serving.received → gone = true

/-- Nothing has been told when the application is set up. -/
theorem told_serve (gone : Bool) (request : RequestReceived) (body : List BodyReceived) :
    Told gone (serve request body) := by
  unfold serve
  split
  case isTrue =>
    exact ⟨fun hdisconnect => Bool.noConfusion hdisconnect, fun hcomplete _ => if_pos hcomplete,
      fun hmem => by cases hmem⟩
  case isFalse =>
    split
    case isTrue =>
      exact ⟨fun hdisconnect => Bool.noConfusion hdisconnect,
        fun hcomplete => Bool.noConfusion hcomplete, fun hmem => by cases hmem⟩
    case isFalse =>
      exact ⟨fun hdisconnect => Bool.noConfusion hdisconnect, fun _ _ => rfl,
        fun hmem => by cases hmem⟩

/-- The reader leaves what has been received alone. -/
theorem readBodyEvents_received (serving : Serving) (total : ℕ) (events : List ProtocolEvent) :
    (readBodyEvents env serving total events).received = serving.received := by
  induction events generalizing serving total with
  | nil => rfl
  | cons event events ih =>
      cases event with
      | requestReceived request => exact ih serving total
      | connectionClosed => exact ih serving total
      | bodyReceived body =>
          rw [readBodyEvents]
          split
          case isTrue => rfl
          case isFalse =>
            split
            case isTrue => exact ih (serving.put body) _
            case isFalse => rfl

theorem readBody_received (conn : Conn) (serving : Serving) (total : ℕ) (outcome : ReadOutcome) :
    (readBody env conn serving total outcome).1.received = serving.received := by
  cases outcome with
  | timeout => rfl
  | eof => rfl
  | connectionError => rfl
  | data data =>
      rw [readBody]
      split
      case h_1 => rfl
      case h_2 => exact readBodyEvents_received _ _ _

/-- A turn of a restrained application keeps the monitor. -/
theorem monitored_turn {state : State Conn} {before serving : Serving}
    {events : List ProtocolEvent} {action : Action} (hphase : state.phase = .serving before events)
    (hmonitored : before.bodyComplete = true → state.clientGone = false →
      before.companion = .monitor)
    (hallowed : restrained state action) (hturn : Turn env state before action serving)
    (hcomplete : serving.bodyComplete = true) (hstays : state.clientGone = false) :
    serving.companion = .monitor := by
  cases hturn with
  | send event started => exact hmonitored hcomplete hstays
  | receive hreceive => exact hmonitored hcomplete hstays
  | cancelReader hcompanion | cancelMonitor hcompanion =>
      simp [restrained, hphase, hstays] at hallowed
      cases hallowed.symm.trans hcomplete
  | readBody hcompanion hpossible =>
      rw [(readBody_keeps env state.conn before _ _).2.2] at hcomplete
      cases hcompanion.symm.trans (hmonitored hcomplete hstays)
  | @monitor outcome hcompanion hpossible houtcome =>
      cases outcome with
      | data data => exact hcompanion
      | timeout => exact absurd rfl houtcome
      | eof | connectionError => cases hstays.symm.trans hpossible

/-- A turn of a restrained application keeps what is known. -/
theorem told_turn {state : State Conn} {before serving : Serving} {events : List ProtocolEvent}
    {action : Action} (hphase : state.phase = .serving before events)
    (htold : Told state.clientGone before) (hallowed : restrained state action)
    (hturn : Turn env state before action serving) : Told state.clientGone serving := by
  refine ⟨hturn.signalled htold.signalled,
    monitored_turn hphase htold.monitored hallowed hturn, ?_⟩
  cases hturn with
  | send event started => exact htold.told
  | cancelReader hcompanion => exact htold.told
  | cancelMonitor hcompanion => exact htold.told
  | readBody hcompanion hpossible => rw [readBody_received]; exact htold.told
  | monitor hcompanion hpossible houtcome =>
      unfold monitorDisconnect
      split
      case h_1 => exact htold.told
      case h_2 => exact htold.told
  | @receive message receiver intake hreceive =>
      intro hmem
      obtain hold | hnew := List.mem_append.mp hmem
      · exact htold.told hold
      · obtain rfl := List.mem_singleton.mp hnew
        have hdone : before.receiver.finished = true ∧ before.intake.disconnect = true := by
          obtain ⟨request, closure, queue, companion, bodyComplete, started, reported, received⟩ :=
            before
          cases Receiver.receive_returns hreceive with
          | emptyDisconnect hdisconnect => exact ⟨rfl, hdisconnect⟩
          | disconnect hdisconnect => exact ⟨rfl, hdisconnect⟩
        have hover := htold.signalled hdone.2
        by_contra hgone
        have hstays : state.clientGone = false := by simpa using hgone
        have hcomplete : before.bodyComplete = true := by
          simpa [restrained, hphase, hdone.1, hstays] using hallowed
        cases hover.symm.trans (htold.monitored hcomplete hstays)

theorem told_of_reach (hpauses : env.h11.PausesAfterMessage)
    {allowed : State Conn → Action → Prop}
    (hrestrained : ∀ state action, allowed state action → restrained state action)
    {state : State Conn} (hreach : (machine env).Reach allowed state) {serving : Serving}
    {events : List ProtocolEvent} (hphase : state.phase = .serving serving events) :
    Told state.clientGone serving :=
  serving_induction Told hpauses (fun gone request _ _ _ => told_serve gone request _)
    (fun _ _ htold => ⟨htold.signalled, fun _ hstays => Bool.noConfusion hstays, fun _ => rfl⟩)
    (fun state _ _ action _ hbefore htold hallowed hturn =>
      told_turn hbefore htold (hrestrained state action hallowed) hturn)
    hreach serving events hphase

/-- A restrained application is told of a disconnect only after its client has left. So if the
client stays, the reader is undisturbed and the request framed, two applications that have
received a request with the same body to its end have received the same, in however many reads it
has arrived: all of it once and nothing else. -/
theorem disconnect_clientGone (env : Env Conn) (hpauses : env.h11.PausesAfterMessage) :
    (∀ state, (machine env).Reach (fun state action => restrained state action) state →
      ∀ serving events, state.phase = .serving serving events →
        .disconnect ∈ serving.received → state.clientGone = true) ∧
    ∀ first second, (machine env).Reach
        (fun state action => restrained state action ∧ undisturbed env state action ∧
          framed env state action) first →
      (machine env).Reach
        (fun state action => restrained state action ∧ undisturbed env state action ∧
          framed env state action) second →
      ∀ serving other events rest, first.phase = .serving serving events →
        second.phase = .serving other rest →
        first.clientGone = false → second.clientGone = false →
        reportedData serving.reported = reportedData other.reported →
        (∃ message ∈ serving.received, message.isFinal) →
        (∃ message ∈ other.received, message.isFinal) →
        (.endOfMessage ∈ serving.reported ∧ .endOfMessage ∈ other.reported) ∧
          delivered serving.received = delivered other.received ∧
          (Settled serving.received ∧ Settled other.received) ∧
          .disconnect ∉ serving.received ∧ .disconnect ∉ other.received := by
  constructor
  · intro state hreach serving events hphase
    exact (told_of_reach hpauses (fun _ _ => id) hreach hphase).told
  · intro first second hfirst hsecond serving other events rest hserving hother hstays hremains
      hsame hfinal hlast
    have hweaker : ∀ {state : State Conn}, (machine env).Reach
        (fun state action => restrained state action ∧ undisturbed env state action ∧
          framed env state action) state →
        (machine env).Reach (fun state action => undisturbed env state action) state :=
      fun hreach => hreach.mono fun _ _ hallowed => hallowed.2.1
    have htold := told_of_reach hpauses (fun _ _ hallowed => hallowed.1) hfirst hserving
    have htoldOther := told_of_reach hpauses (fun _ _ hallowed => hallowed.1) hsecond hother
    have hwhole := whole_of_reach hpauses (hweaker hfirst) hserving
    have hwholeOther := whole_of_reach hpauses (hweaker hsecond) hother
    have hbacked := (queueBacked_of_framed (fun _ _ hallowed => hallowed.2.2) hfirst serving events
      hserving).2
    have hbackedOther := (queueBacked_of_framed (fun _ _ hallowed => hallowed.2.2) hsecond other
      rest hother).2
    refine ⟨⟨hwhole.endOfMessage hbacked hfinal, hwholeOther.endOfMessage hbackedOther hlast⟩, ?_,
      ⟨hwhole.settled, hwholeOther.settled⟩, ?_, ?_⟩
    · calc delivered serving.received
          _ = reportedData serving.reported := hwhole.complete hfinal
          _ = reportedData other.reported := hsame
          _ = delivered other.received := (hwholeOther.complete hlast).symm
    · intro hmem
      rw [htold.told hmem] at hstays
      cases hstays
    · intro hmem
      rw [htoldOther.told hmem] at hremains
      cases hremains

/-- The upload, head and body in one read. -/
def bundledActions : List Action :=
  [.read (.data (uploadHead.bytes ++ ascii "abcd")), .receive, .receive]

/-- The request at its end. -/
def bundled : Serving where
  request := uploadHead.request
  receiver := .receiveWithDisconnect true
  intake := {}
  companion := .monitor
  bodyComplete := true
  reported := [.data (ascii "abcd"), .endOfMessage]
  received := [.request (ascii "abcd") true, .request [] false]

/-- The state at its end. -/
def afterBundled : State SmallConn where
  conn := { client := .done, server := .sendResponse }
  phase := .serving bundled [
    .bodyReceived { data := ascii "abcd", more := true },
    .bodyReceived { data := [], more := false }]
  requestCount := 1
  taken := uploadHead.bytes ++ ascii "abcd"
  fed := uploadHead.bytes ++ ascii "abcd"
  parsed := [{
    request := uploadHead.request
    taken := uploadHead.bytes ++ ascii "abcd"
    fed := uploadHead.bytes ++ ascii "abcd" }]

set_option maxRecDepth 4000 in
theorem run_bundled :
    (machine uploadEnv).run { conn := {} } bundledActions = some afterBundled := by
  decide

set_option maxRecDepth 4000 in
theorem along_bundled : (machine uploadEnv).Along
    (fun state action => restrained state action ∧ undisturbed uploadEnv state action ∧
      framed uploadEnv state action)
    { conn := {} } bundledActions :=
  Machine.along_of_guarded (by decide)

set_option maxRecDepth 4000 in
theorem along_upload_restrained : (machine uploadEnv).Along
    (fun state action => restrained state action ∧ undisturbed uploadEnv state action ∧
      framed uploadEnv state action)
    { conn := {} } uploadActions :=
  Machine.along_of_guarded (by decide)

/-- In one read or in three, the application gets the same. -/
theorem disconnect_clientGone_upload :
    (.endOfMessage ∈ uploaded.reported ∧ .endOfMessage ∈ bundled.reported) ∧
      delivered uploaded.received = delivered bundled.received ∧
      (Settled uploaded.received ∧ Settled bundled.received) ∧
      .disconnect ∉ uploaded.received ∧ .disconnect ∉ bundled.received :=
  (disconnect_clientGone uploadEnv (smallH11_pausesAfterMessage [uploadHead])).2
    afterUpload afterBundled
    (Machine.Reach.run (.init rfl) along_upload_restrained run_upload)
    (Machine.Reach.run (.init rfl) along_bundled run_bundled)
    uploaded bundled _ _ rfl rfl rfl rfl (by decide) (by decide) (by decide)

/-- The upload in three reads, after one more call. -/
def afterImpatient : State SmallConn :=
  { afterUpload with
    phase := .serving { uploaded with received := uploaded.received ++ [.disconnect] } [] }

set_option maxRecDepth 4000 in
theorem run_impatient :
    (machine uploadEnv).run { conn := {} } (uploadActions ++ [.receive]) = some afterImpatient := by
  decide

/-- It is told of a disconnect though the client is waiting for the response. -/
theorem upload_disconnect : ¬ ∀ (env : Env SmallConn), env.h11.PausesAfterMessage →
    ∀ state, (machine env).Reachable state → ∀ serving events,
      state.phase = .serving serving events → .disconnect ∈ serving.received →
        state.clientGone = true := by
  intro hclaim
  have hgone : afterImpatient.clientGone = true :=
    hclaim uploadEnv (smallH11_pausesAfterMessage [uploadHead]) afterImpatient
      (Machine.reachable_run rfl run_impatient) _ _ rfl
      (List.mem_append_right _ List.mem_cons_self)
  cases hgone

/-! ## Bytes read beside the application -/

/-- Nothing arrives while a monitor is reading. -/
def quiet (state : State Conn) (action : Action) : Bool :=
  match state.phase, action with
  | .serving serving _, .companionRead (.data _) => serving.companion ≠ .monitor
  | _, _ => true

/-- All bytes read from the connection have been fed to h11, now and when the requests were
parsed. -/
structure Gapless (state : State Conn) : Prop where
  fed_eq : state.fed = state.taken
  parsed : ∀ parsed ∈ state.parsed, parsed.fed = parsed.taken

/-- What leaves the records alone keeps it. -/
theorem Gapless.of_eq {state next : State Conn} (hgapless : Gapless state)
    (hfed : next.fed = state.fed) (htaken : next.taken = state.taken)
    (hparsed : next.parsed = state.parsed) : Gapless next where
  fed_eq := by rw [hfed, htaken, hgapless.fed_eq]
  parsed := by rw [hparsed]; exact hgapless.parsed

/-- Going on with events parses nothing. -/
theorem Gapless.advance {state : State Conn} (hgapless : Gapless state)
    (events : List ProtocolEvent) : Gapless (advance env state events) := by
  unfold Worker.advance
  split
  case h_1 =>
    unfold nextCycle
    split
    case isTrue => exact hgapless.of_eq rfl rfl rfl
    case isFalse =>
      split
      case isTrue => exact hgapless.of_eq rfl rfl rfl
      case isFalse =>
        split
        case h_1 => exact hgapless.of_eq rfl rfl rfl
        case h_2 => exact hgapless.of_eq rfl rfl rfl
  case h_2 => exact hgapless.of_eq rfl rfl rfl
  case h_3 => exact hgapless.of_eq rfl rfl rfl

/-- A read of the connection loop feeds what it reads. -/
theorem Gapless.readData {state : State Conn} (hgapless : Gapless state) (data : Bytes) :
    Gapless (readData env state data) := by
  have hmore : state.fed ++ data = state.taken ++ data := by rw [hgapless.fed_eq]
  unfold Worker.readData
  split
  case h_1 => exact ⟨hmore, hgapless.parsed⟩
  case h_2 events conn _ =>
    apply Gapless.advance
    refine ⟨hmore, ?_⟩
    intro parsed hmem
    obtain hold | hnew := List.mem_append.mp hmem
    · exact hgapless.parsed parsed hold
    · obtain ⟨request, -, rfl⟩ := List.mem_map.mp hnew
      exact hmore

/-- A read of the companion feeds what it reads, unless it is a monitor's. -/
theorem Gapless.companionRead {state next : State Conn} (hgapless : Gapless state)
    {serving : Serving} {events : List ProtocolEvent} {outcome : ReadOutcome}
    (hquiet : ∀ data, outcome = .data data → serving.companion ≠ .monitor)
    (hstep : companionRead env state serving events outcome = some next) : Gapless next := by
  unfold Worker.companionRead at hstep
  split at hstep
  case h_1 => cases hstep
  case h_2 => cases hstep
  case h_3 total hcompanion =>
    obtain rfl := Option.some.inj hstep
    exact ⟨by simp only [hgapless.fed_eq], hgapless.parsed⟩
  case h_4 hcompanion =>
    split at hstep
    case h_1 => cases hstep
    case h_2 data => exact absurd hcompanion (hquiet data rfl)
    case h_3 =>
      obtain rfl := Option.some.inj hstep
      exact hgapless.of_eq rfl rfl rfl

/-- A step keeps it while no monitor reads data. -/
theorem gapless_step {state next : State Conn} {action : Action} (hgapless : Gapless state)
    (hallowed : quiet state action) (hstep : step env state action = some next) :
    Gapless next := by
  cases action with
  | clientLeaves =>
      obtain rfl := Option.some.inj hstep
      exact hgapless.of_eq rfl rfl rfl
  | drain =>
      obtain rfl := Option.some.inj hstep
      exact hgapless.of_eq rfl rfl rfl
  | read outcome =>
      simp only [step] at hstep
      split at hstep
      case h_2 => cases hstep
      case h_1 =>
        split at hstep
        case isFalse => cases hstep
        case isTrue =>
          cases outcome with
          | data data =>
              obtain rfl := Option.some.inj hstep
              exact hgapless.readData data
          | eof =>
              obtain rfl := Option.some.inj hstep
              exact hgapless.of_eq rfl rfl rfl
          | connectionError =>
              obtain rfl := Option.some.inj hstep
              exact hgapless.of_eq rfl rfl rfl
          | timeout =>
              obtain rfl := Option.some.inj hstep
              exact hgapless.of_eq rfl rfl rfl
  | companionRead outcome =>
      simp only [step] at hstep
      split at hstep
      case h_2 => cases hstep
      case h_1 serving rest hserving =>
        rw [servingStep] at hstep
        split at hstep
        case isFalse => cases hstep
        case isTrue =>
          apply hgapless.companionRead _ hstep
          rintro data rfl
          simpa [quiet, hserving] using hallowed
  | receive =>
      simp only [step] at hstep
      split at hstep
      case h_2 => cases hstep
      case h_1 =>
        rw [servingStep] at hstep
        split at hstep
        case h_1 => cases hstep
        case h_2 =>
          obtain rfl := Option.some.inj hstep
          exact hgapless.of_eq rfl rfl rfl
  | send event =>
      simp only [step] at hstep
      split at hstep
      case h_2 => cases hstep
      case h_1 =>
        obtain rfl := Option.some.inj hstep
        exact hgapless.of_eq rfl rfl rfl
  | appReturns raised =>
      simp only [step] at hstep
      split at hstep
      case h_2 => cases hstep
      case h_1 =>
        obtain rfl := Option.some.inj hstep
        apply Gapless.advance
        exact hgapless.of_eq rfl rfl rfl
  | cancel =>
      simp only [step] at hstep
      split at hstep
      case h_2 => cases hstep
      case h_1 =>
        obtain ⟨serving, -, rfl⟩ := Option.map_eq_some_iff.mp hstep
        exact hgapless.of_eq rfl rfl rfl

/-- As long as nothing arrives while a monitor is reading, h11 is fed all that is read from
the connection, and every request is parsed from a stream without a gap. -/
theorem parsed_complete (env : Env Conn) {state : State Conn}
    (hreach : (machine env).Reach (fun state action => quiet state action) state) :
    state.fed = state.taken ∧ ∀ parsed ∈ state.parsed, parsed.fed = parsed.taken := by
  have hgapless : Gapless state := by
    apply hreach.invariant
    · rintro state rfl
      exact ⟨rfl, List.forall_mem_nil _⟩
    · exact fun _ _ _ hgapless hallowed hstep => gapless_step hgapless hallowed hstep
  exact ⟨hgapless.fed_eq, hgapless.parsed⟩

theorem run_pageActions :
    (machine pageEnv).run { conn := {} } pageActions = some afterPages.state := by
  decide +kernel

/-- A page and an upload, each cut by the reads, are parsed from all that was read. -/
theorem parsed_complete_pages : afterPages.state.fed = afterPages.state.taken ∧
    ∀ parsed ∈ afterPages.state.parsed, parsed.fed = parsed.taken :=
  parsed_complete pageEnv
    (Machine.Reach.run (.init rfl) (Machine.along_of_guarded (by decide +kernel)) run_pageActions)

/-- Three requests: the second arrives while the first is being answered, the third when the
loop is reading again. -/
def pipelinedActions : List Action :=
  [.read (.data pageHead.bytes)] ++
    pageHead.bytes.map (fun byte => .companionRead (.data [byte])) ++
    [.send (.response 200 []), .send .endOfMessage, .appReturns false, .read (.data pageHead.bytes)]

set_option maxRecDepth 4000 in
/-- The third is parsed with the second missing before it. -/
theorem run_pipelined :
    ((machine pageEnv).run { conn := {} } pipelinedActions).map (·.parsed) =
      some [
        { request := pageHead.request, taken := pageHead.bytes, fed := pageHead.bytes },
        { request := pageHead.request
          taken := pageHead.bytes ++ pageHead.bytes ++ pageHead.bytes
          fed := pageHead.bytes ++ pageHead.bytes }] := by
  decide

/-- A request is parsed from a stream with a gap. -/
theorem pipelined_gap : ¬ ∀ (env : Env SmallConn) state, (machine env).Reachable state →
    ∀ parsed ∈ state.parsed, parsed.fed = parsed.taken := by
  intro hclaim
  obtain ⟨state, hrun, hparsed⟩ := Option.map_eq_some_iff.mp run_pipelined
  have hgap := hclaim pageEnv state (Machine.reachable_run rfl hrun)
    { request := pageHead.request
      taken := pageHead.bytes ++ pageHead.bytes ++ pageHead.bytes
      fed := pageHead.bytes ++ pageHead.bytes } (by rw [hparsed]; simp)
  have hlength := congrArg List.length hgap
  revert hlength
  decide

end Pounce.Worker
