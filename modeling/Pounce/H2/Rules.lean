/-
# What is relied on of the h2 library

The library keeps, for every stream, how far the peer has come with it and how far the
server has. A `View` reads both off its connection, and `Codec.Obeys` collects what the
handler relies on: events are reported in order, every stream gets one final block of
HEADERS and one end, and a call for a stream leaves the others alone. A call that is refused
may close its stream. As long as no GOAWAY has ended the connection, a stream that is fresh
takes a response, and one that is open can be reset (`Codec.Serves`).

The small library at the end obeys these rules and knows only the bytes it is told about.
-/

import Pounce.H2.Handler
import Pounce.H2.Reading

namespace Pounce.H2

open Pounce.Math Pounce.Math.Bytes

/-! ## The rules -/

/-- How far peer and server have come with the streams of a connection. -/
structure View (Conn : Type) where
  phase : Conn → ℕ → StreamPhase
  half : Conn → ℕ → Half
  /-- The connection has been ended by GOAWAY, after which nothing is sent. -/
  terminated : Conn → Bool

namespace View

variable {Conn : Type} (view : View Conn)

/-- The stream is where it was. -/
def Same (conn next : Conn) (streamId : ℕ) : Prop :=
  view.phase next streamId = view.phase conn streamId ∧
    view.half next streamId = view.half conn streamId

/-- The stream is known, and not closed on both sides. -/
def Open (conn : Conn) (streamId : ℕ) : Prop :=
  view.phase conn streamId = .receiving ∨
    (view.phase conn streamId = .ending ∨ view.phase conn streamId = .ended) ∧
      view.half conn streamId ≠ .ended

instance (conn : Conn) (streamId : ℕ) : Decidable (view.Open conn streamId) :=
  inferInstanceAs (Decidable (_ ∨ _))

/-- A call for a stream: if it is taken the half becomes what it should, and otherwise the
stream is closed if anything. -/
structure Sends (conn next : Conn) (streamId : ℕ) (taken : Bool) (half : Half) : Prop where
  others : ∀ id, id ≠ streamId → view.Same conn next id
  accepted : taken = true → view.phase next streamId = view.phase conn streamId ∧
    view.half conn streamId ≠ .ended ∧ view.half next streamId = half
  refused : taken = false → view.Same conn next streamId ∨ view.phase next streamId = .reset

variable {view}

theorem Same.trans {first second third : Conn} {streamId : ℕ}
    (hfirst : view.Same first second streamId) (hsecond : view.Same second third streamId) :
    view.Same first third streamId :=
  ⟨hsecond.1.trans hfirst.1, hsecond.2.trans hfirst.2⟩

end View

/-- The library keeps to the protocol. -/
structure Codec.Obeys {Conn : Type} (codec : Codec Conn) (view : View Conn) : Prop where
  idle : ∀ conn streamId, view.phase conn streamId = .idle → view.half conn streamId = .fresh
  reset : ∀ conn streamId, view.phase conn streamId = .reset → view.half conn streamId = .ended
  /-- Events are reported in order, and a read does not stop between the last frame of a
  stream and its end. -/
  receiveData : ∀ conn data next events, codec.receiveData conn data = some (next, events) →
    ∀ streamId, events.foldlM (advance streamId) (view.phase conn streamId) =
        some (view.phase next streamId) ∧
      (view.phase next streamId = .ending → view.phase conn streamId = .ending) ∧
      (view.phase next streamId ≠ .reset → view.half next streamId = view.half conn streamId)
  acknowledge : ∀ conn length streamId next,
    codec.acknowledgeReceivedData conn length streamId = some next → ∀ id, view.Same conn next id
  resetStream : ∀ conn streamId errorCode next,
    codec.resetStream conn streamId errorCode = some next →
      view.phase next streamId = .reset ∧ ∀ id, id ≠ streamId → view.Same conn next id
  sendHeaders : ∀ conn streamId status headers endStream,
    view.Sends conn (codec.sendHeaders conn streamId status headers endStream).1 streamId
      (codec.sendHeaders conn streamId status headers endStream).2
      ((view.half conn streamId).afterHeaders status endStream)
  /-- There is one final block of HEADERS. -/
  final : ∀ conn streamId status headers endStream, isInformational status = false →
    (codec.sendHeaders conn streamId status headers endStream).2 = true →
      view.half conn streamId = .fresh
  sendData : ∀ conn streamId data endStream,
    view.Sends conn (codec.sendData conn streamId data endStream).1 streamId
      (codec.sendData conn streamId data endStream).2
      ((view.half conn streamId).afterData endStream)

/-- The library serves the streams of a connection that has not been ended. -/
structure Codec.Serves {Conn : Type} (codec : Codec Conn) (view : View Conn) : Prop where
  credits : ∀ conn length streamId, view.phase conn streamId ≠ .idle →
    (codec.acknowledgeReceivedData conn length streamId).isSome
  acknowledged : ∀ conn length streamId next,
    codec.acknowledgeReceivedData conn length streamId = some next →
      view.terminated next = view.terminated conn
  resets : ∀ conn streamId errorCode, view.terminated conn = false → view.Open conn streamId →
    (codec.resetStream conn streamId errorCode).isSome
  wasReset : ∀ conn streamId errorCode next,
    codec.resetStream conn streamId errorCode = some next →
      view.terminated next = view.terminated conn
  /-- The response of the handler that a stream is too large. -/
  takes : ∀ conn streamId, view.terminated conn = false → view.phase conn streamId ≠ .idle →
    view.half conn streamId = .fresh →
      (codec.sendHeaders conn streamId 413 tooLargeHeaders true).2 = true
  answered : ∀ conn streamId status headers endStream,
    view.terminated (codec.sendHeaders conn streamId status headers endStream).1 =
      view.terminated conn

/-! ## Reads -/

variable {Conn : Type} {codec : Codec Conn} {view : View Conn} {h2 next : H2Connection Conn}
  {event : LibraryEvent} {out : List H2Event}

/-- What an event does to the streams of the library: nothing, but a malformed request is
reset. -/
theorem Codec.Obeys.receiveEvent (hobeys : codec.Obeys view)
    (hevent : h2.receiveEvent codec.toLibrary event = some (next, out)) (streamId : ℕ) :
    view.Same h2.conn next.conn streamId ∧
        (out.any (·.isReset streamId) → ∃ errorCode, event = .streamReset streamId errorCode) ∨
      view.phase next.conn streamId = .reset ∧ out.any (·.isReset streamId) ∧
        ∃ headers last, event = .requestReceived streamId headers last := by
  cases event with
  | requestReceived id headers last =>
      rw [H2Connection.receiveEvent, H2Connection.receiveRequest] at hevent
      cases hread : readRequest headers with
      | none =>
          simp only [hread] at hevent
          obtain ⟨reset, hreset, heq⟩ := Option.map_eq_some_iff.mp hevent
          obtain ⟨rfl, rfl⟩ := Prod.mk.inj heq
          obtain ⟨conn, hconn, rfl⟩ := Option.map_eq_some_iff.mp hreset
          obtain ⟨hphase, hothers⟩ := hobeys.resetStream _ _ _ _ hconn
          by_cases hid : streamId = id
          case pos =>
            subst hid
            exact .inr ⟨hphase, by simp [H2Event.isReset], headers, last, rfl⟩
          case neg =>
            refine .inl ⟨hothers streamId hid, ?_⟩
            simp [H2Event.isReset, Ne.symm hid]
      | some read =>
          simp only [hread] at hevent
          left
          split at hevent
          case isTrue =>
            obtain ⟨rfl, rfl⟩ := Prod.mk.inj (Option.some.inj hevent)
            exact ⟨⟨rfl, rfl⟩, by simp [H2Event.isReset]⟩
          case isFalse =>
            split at hevent <;>
              obtain ⟨rfl, rfl⟩ := Prod.mk.inj (Option.some.inj hevent) <;>
              exact ⟨⟨rfl, rfl⟩, by simp [H2Event.isReset]⟩
  | dataReceived id data length last =>
      obtain ⟨conn, hconn, heq⟩ := Option.map_eq_some_iff.mp hevent
      obtain ⟨rfl, rfl⟩ := Prod.mk.inj heq
      have hsame := hobeys.acknowledge _ _ _ _ hconn
      refine .inl ⟨?_, by simp [H2Event.isReset]⟩
      split <;> exact hsame streamId
  | streamEnded id =>
      have heq : h2.receiveEnd id = (next, out) := Option.some.inj hevent
      rw [H2Connection.receiveEnd] at heq
      left
      split at heq
      case h_1 =>
        obtain ⟨rfl, rfl⟩ := Prod.mk.inj heq
        exact ⟨⟨rfl, rfl⟩, by simp⟩
      case h_2 =>
        split at heq <;>
          obtain ⟨rfl, rfl⟩ := Prod.mk.inj heq <;>
          exact ⟨⟨rfl, rfl⟩, by simp [H2Event.isReset]⟩
  | streamReset id errorCode =>
      obtain ⟨rfl, rfl⟩ := Prod.mk.inj (Option.some.inj hevent)
      refine .inl ⟨⟨rfl, rfl⟩, fun hreset => ⟨errorCode, ?_⟩⟩
      rw [show id = streamId by simpa [H2Event.isReset] using hreset]
  | trailersReceived | windowUpdated | remoteSettingsChanged | connectionTerminated =>
      obtain ⟨rfl, rfl⟩ := Prod.mk.inj (Option.some.inj hevent)
      exact .inl ⟨⟨rfl, rfl⟩, by simp [H2Event.isReset]⟩

/-- A stream that has been reset stays so. -/
theorem advance_reset {streamId : ℕ} {after : StreamPhase}
    (hadvance : advance streamId .reset event = some after) : after = .reset := by
  rw [advance] at hadvance
  split at hadvance
  case isTrue =>
    cases event with
    | streamReset => exact (Option.some.inj hadvance).symm
    | _ => cases hadvance
  case isFalse => exact (Option.some.inj hadvance).symm

theorem foldlM_reset {streamId : ℕ} {events : List LibraryEvent} {last : StreamPhase}
    (hconforms : events.foldlM (advance streamId) .reset = some last) : last = .reset := by
  induction events with
  | nil => exact (Option.some.inj hconforms).symm
  | cons event events ih =>
      rw [List.foldlM_cons, Option.bind_eq_bind, Option.bind_eq_some_iff] at hconforms
      obtain ⟨after, hadvance, hrest⟩ := hconforms
      rw [advance_reset hadvance] at hrest
      exact ih hrest

/-- What a read does to the streams of the library besides what its events say: nothing, but
a stream with a malformed request is reset. In either case the handler is told of a reset
only if the stream is reset. -/
theorem Codec.Obeys.receiveAll (hobeys : codec.Obeys view) {streamId : ℕ}
    {events : List LibraryEvent} {phase last : StreamPhase} {told : List H2Event}
    (hconforms : events.foldlM (advance streamId) phase = some last)
    (hreceived : h2.receiveData codec.toLibrary events = some (next, out))
    (htold : told.any (·.isReset streamId) →
      phase = .reset ∨ view.phase h2.conn streamId = .reset) :
    (view.Same h2.conn next.conn streamId ∨
        view.phase next.conn streamId = .reset ∧ (told ++ out).any (·.isReset streamId)) ∧
      ((told ++ out).any (·.isReset streamId) →
        last = .reset ∨ view.phase next.conn streamId = .reset) := by
  induction events generalizing h2 phase told out with
  | nil =>
      obtain ⟨rfl, rfl⟩ := Prod.mk.inj (Option.some.inj hreceived)
      obtain rfl := Option.some.inj hconforms
      exact ⟨.inl ⟨rfl, rfl⟩, by simpa using htold⟩
  | cons event events ih =>
      simp only [H2Connection.receiveData, Option.bind_eq_bind, Option.bind_eq_some_iff] at hreceived
      obtain ⟨⟨middle, first⟩, hfirst, ⟨final, rest⟩, hrest, heq⟩ := hreceived
      obtain ⟨rfl, rfl⟩ := Prod.mk.inj (Option.some.inj heq)
      rw [List.foldlM_cons, Option.bind_eq_bind, Option.bind_eq_some_iff] at hconforms
      obtain ⟨after, hadvance, hconforms⟩ := hconforms
      rw [← List.append_assoc]
      have hevent := hobeys.receiveEvent hfirst streamId
      have hmiddle : (told ++ first).any (·.isReset streamId) →
          after = .reset ∨ view.phase middle.conn streamId = .reset := by
        intro hany
        rw [List.any_append, Bool.or_eq_true] at hany
        rcases hevent with ⟨hsame, honly⟩ | ⟨hphase, -⟩
        · rcases hany with hany | hany
          · rcases htold hany with rfl | hphase
            · exact .inl (advance_reset hadvance)
            · exact .inr (hsame.1.trans hphase)
          · obtain ⟨errorCode, rfl⟩ := honly hany
            have hnext : phase.next (.streamReset streamId errorCode) = some after := by
              simpa [advance, LibraryEvent.streamId?] using hadvance
            cases phase <;> exact .inl (Option.some.inj hnext).symm
        · exact .inr hphase
      obtain ⟨hsame, hreset⟩ := ih hconforms hrest hmiddle
      refine ⟨?_, hreset⟩
      rcases hsame with hsame | hdropped
      · rcases hevent with ⟨hfirst, -⟩ | ⟨hphase, hany, -⟩
        · exact .inl (hfirst.trans hsame)
        · refine .inr ⟨hsame.1.trans hphase, ?_⟩
          rw [List.any_append, List.any_append, hany, Bool.or_true, Bool.true_or]
      · exact .inr hdropped

/-- A stream that events are about is not idle by then. -/
theorem foldlM_ne_idle {streamId : ℕ} {phase last : StreamPhase} {events : List LibraryEvent}
    (hconforms : events.foldlM (advance streamId) phase = some last) {event : LibraryEvent}
    (hmem : event ∈ events) (hown : event.streamId? = some streamId) : last ≠ .idle := by
  induction events generalizing phase with
  | nil => cases hmem
  | cons first events ih =>
      rw [List.foldlM_cons, Option.bind_eq_bind, Option.bind_eq_some_iff] at hconforms
      obtain ⟨after, hadvance, hrest⟩ := hconforms
      rcases List.mem_cons.mp hmem with rfl | hmem
      · rw [advance, if_pos hown] at hadvance
        have hafter : after ≠ .idle := fun hidle => next_ne_idle phase event (hidle ▸ hadvance)
        exact (foldlM_advance hafter hrest).1
      · exact ih hrest hmem

/-- No event of the peer ends the connection on its own account. -/
theorem Codec.Serves.receiveEvent (hserves : codec.Serves view)
    (hevent : h2.receiveEvent codec.toLibrary event = some (next, out)) :
    view.terminated next.conn = view.terminated h2.conn := by
  cases event with
  | requestReceived id headers last =>
      rw [H2Connection.receiveEvent, H2Connection.receiveRequest] at hevent
      split at hevent
      case h_1 =>
        obtain ⟨reset, hreset, heq⟩ := Option.map_eq_some_iff.mp hevent
        obtain ⟨rfl, rfl⟩ := Prod.mk.inj heq
        obtain ⟨conn, hconn, rfl⟩ := Option.map_eq_some_iff.mp hreset
        exact hserves.wasReset _ _ _ _ hconn
      case h_2 =>
        split at hevent
        · obtain ⟨rfl, rfl⟩ := Prod.mk.inj (Option.some.inj hevent)
          rfl
        · split at hevent <;>
            obtain ⟨rfl, rfl⟩ := Prod.mk.inj (Option.some.inj hevent) <;>
            rfl
  | dataReceived id data length last =>
      obtain ⟨conn, hconn, heq⟩ := Option.map_eq_some_iff.mp hevent
      obtain ⟨rfl, rfl⟩ := Prod.mk.inj heq
      have hsame := hserves.acknowledged _ _ _ _ hconn
      split <;> exact hsame
  | streamEnded id =>
      have heq : h2.receiveEnd id = (next, out) := Option.some.inj hevent
      rw [H2Connection.receiveEnd] at heq
      split at heq
      case h_1 =>
        obtain ⟨rfl, rfl⟩ := Prod.mk.inj heq
        rfl
      case h_2 =>
        split at heq <;>
          obtain ⟨rfl, rfl⟩ := Prod.mk.inj heq <;>
          rfl
  | streamReset | trailersReceived | windowUpdated | remoteSettingsChanged
  | connectionTerminated =>
      obtain ⟨rfl, rfl⟩ := Prod.mk.inj (Option.some.inj hevent)
      rfl

/-- A read goes through if every stream with a malformed request can be reset by then. -/
theorem Codec.Serves.receiveData_isSome (hserves : codec.Serves view) (hobeys : codec.Obeys view)
    {events : List LibraryEvent}
    (hconforms : ∀ streamId, ∃ phase last, events.foldlM (advance streamId) phase = some last)
    (hknown : ∀ event ∈ events, ∀ streamId, event.streamId? = some streamId →
      view.phase h2.conn streamId ≠ .idle)
    (hopen : ∀ streamId headers last, .requestReceived streamId headers last ∈ events →
      readRequest headers = none →
        view.terminated h2.conn = false ∧ view.Open h2.conn streamId) :
    (h2.receiveData codec.toLibrary events).isSome := by
  induction events generalizing h2 with
  | nil => rfl
  | cons event events ih =>
      have hfirst : (h2.receiveEvent codec.toLibrary event).isSome := by
        cases event with
        | requestReceived id headers last =>
            rw [H2Connection.receiveEvent, H2Connection.receiveRequest]
            cases hread : readRequest headers with
            | none =>
                obtain ⟨hterminated, hstream⟩ := hopen id headers last (by simp) hread
                simp only [Option.isSome_map, H2Connection.resetStream]
                exact hserves.resets _ _ _ hterminated hstream
            | some read =>
                dsimp only
                split
                · rfl
                · split <;> rfl
        | dataReceived id data length last =>
            rw [H2Connection.receiveEvent, H2Connection.receiveBody, Option.isSome_map]
            exact hserves.credits _ _ _ (hknown _ (List.mem_cons_self ..) id rfl)
        | _ => rfl
      obtain ⟨⟨middle, first⟩, hfirst⟩ := Option.isSome_iff_exists.mp hfirst
      have hmoved := hobeys.receiveEvent hfirst
      -- a stream that the event has reset brings no other request
      have hrest : (middle.receiveData codec.toLibrary events).isSome := by
        apply ih
        · intro streamId
          obtain ⟨phase, last, hfold⟩ := hconforms streamId
          rw [List.foldlM_cons, Option.bind_eq_bind, Option.bind_eq_some_iff] at hfold
          obtain ⟨after, -, hfold⟩ := hfold
          exact ⟨after, last, hfold⟩
        · intro other hmem streamId hid
          rcases hmoved streamId with ⟨⟨hphase, -⟩, -⟩ | ⟨hreset, -⟩
          · rw [hphase]
            exact hknown other (List.mem_cons_of_mem _ hmem) streamId hid
          · rw [hreset]
            decide
        · intro streamId headers last hmem hread
          rw [hserves.receiveEvent hfirst]
          rcases hmoved streamId with ⟨⟨hphase, hhalf⟩, -⟩ | ⟨-, -, own, ownLast, rfl⟩
          · rw [View.Open, hphase, hhalf]
            exact hopen streamId headers last (List.mem_cons_of_mem _ hmem) hread
          · obtain ⟨phase, final, hfold⟩ := hconforms streamId
            rw [List.foldlM_cons, Option.bind_eq_bind, Option.bind_eq_some_iff] at hfold
            obtain ⟨after, hadvance, hfold⟩ := hfold
            have hnext : phase.next (.requestReceived streamId own ownLast) = some after := by
              simpa [advance, LibraryEvent.streamId?] using hadvance
            have hafter : after ≠ .idle := fun hidle => next_ne_idle _ _ (hidle ▸ hnext)
            exact absurd hmem ((foldlM_advance hafter hfold).2 headers last)
      obtain ⟨⟨final, rest⟩, hrest⟩ := Option.isSome_iff_exists.mp hrest
      simp [H2Connection.receiveData, hfirst, hrest]

/-! ## A small library -/

/-- The streams of the small library: how far peer and server have come. -/
abbrev SmallConn := ℕ → StreamPhase × Half

/-- A stream that is idle is fresh, and one that was reset is ended. The connection is for reads
without a GOAWAY, or with one that nothing is sent after. -/
def smallView : View SmallConn where
  phase conn streamId := (conn streamId).1
  half conn streamId :=
    match (conn streamId).1 with
    | .idle => .fresh
    | .reset => .ended
    | _ => (conn streamId).2
  terminated _ := false

/-- An event is reported. -/
def SmallConn.report (conn : SmallConn) (event : LibraryEvent) : Option SmallConn :=
  match event.streamId? with
  | none => some conn
  | some streamId => ((conn streamId).1.next event).map fun phase =>
      Function.update conn streamId (phase, smallView.half conn streamId)

/-- No stream of these events is left between its last frame and its end. -/
def SmallConn.atRest (conn : SmallConn) (events : List LibraryEvent) : Bool :=
  events.all fun event => event.streamId?.all fun streamId => (conn streamId).1 ≠ .ending

/-- Take a frame of a stream, if it may be sent. -/
def SmallConn.take (conn : SmallConn) (streamId : ℕ) (allowed : Bool) (half : Half) :
    SmallConn × Bool :=
  if allowed ∧ smallView.Open conn streamId ∧ smallView.half conn streamId ≠ .ended then
    (Function.update conn streamId ((conn streamId).1, half), true)
  else (conn, false)

/-- A library that reads the events of a few known reads, and nothing in others. -/
def smallH2 (reads : List (Bytes × List LibraryEvent)) : Codec SmallConn where
  acknowledgeReceivedData conn _ _ := some conn
  resetStream conn streamId _ :=
    if smallView.Open conn streamId then some (Function.update conn streamId (.reset, .ended))
    else none
  receiveData conn data :=
    match reads.lookup data with
    | none => some (conn, [])
    | some events =>
        ((events.foldlM SmallConn.report conn).filter (·.atRest events)).map (·, events)
  sendHeaders conn streamId status _ endStream :=
    conn.take streamId (isInformational status || smallView.half conn streamId = .fresh)
      ((smallView.half conn streamId).afterHeaders status endStream)
  sendData conn streamId _ endStream :=
    conn.take streamId (smallView.half conn streamId = .started)
      ((smallView.half conn streamId).afterData endStream)

/-- No stream has been opened. -/
def idleConn : SmallConn := fun _ => (.idle, .fresh)

/-- What is seen of a stream is in its entry. -/
theorem same_of_eq {conn next : SmallConn} {streamId : ℕ} (hsame : next streamId = conn streamId) :
    smallView.Same conn next streamId := by
  simp only [View.Same, smallView, hsame, and_self]

/-- One event is reported of its stream. -/
theorem report_advance {conn next : SmallConn} {event : LibraryEvent}
    (hreport : conn.report event = some next) (streamId : ℕ) :
    advance streamId (conn streamId).1 event = some (next streamId).1 ∧
      ((next streamId).1 ≠ .reset → smallView.half next streamId = smallView.half conn streamId) ∧
      (event.streamId? ≠ some streamId → next streamId = conn streamId) := by
  rw [SmallConn.report] at hreport
  rw [advance]
  split at hreport
  case h_1 hnone =>
    obtain rfl := Option.some.inj hreport
    simp [hnone]
  case h_2 id hid =>
    obtain ⟨phase, hphase, rfl⟩ := Option.map_eq_some_iff.mp hreport
    by_cases hown : id = streamId
    case pos =>
      subst hown
      have hidle : phase ≠ .idle := fun hidle => next_ne_idle _ _ (hidle ▸ hphase)
      rw [if_pos hid, Function.update_self, hphase]
      refine ⟨rfl, fun hreset => ?_, fun hother => absurd hid hother⟩
      cases phase with
      | idle => exact absurd rfl hidle
      | reset => exact absurd rfl hreset
      | _ => simp [smallView]
    case neg =>
      have hother : event.streamId? ≠ some streamId := by
        rw [hid]
        exact fun heq => hown (Option.some.inj heq)
      rw [if_neg hother]
      have hsame : Function.update conn id (phase, smallView.half conn id) streamId =
          conn streamId := Function.update_of_ne (Ne.symm hown) ..
      rw [hsame]
      exact ⟨rfl, fun _ => (same_of_eq hsame).2, fun _ => rfl⟩

/-- What is reported of a stream follows the events. -/
theorem report_foldlM {events : List LibraryEvent} {conn next : SmallConn}
    (hreport : events.foldlM SmallConn.report conn = some next) (streamId : ℕ) :
    events.foldlM (advance streamId) (conn streamId).1 = some (next streamId).1 ∧
      ((next streamId).1 ≠ .reset → smallView.half next streamId = smallView.half conn streamId) ∧
      ((∀ event ∈ events, event.streamId? ≠ some streamId) → next streamId = conn streamId) := by
  induction events generalizing conn with
  | nil =>
      obtain rfl := Option.some.inj hreport
      exact ⟨rfl, fun _ => rfl, fun _ => rfl⟩
  | cons event events ih =>
      rw [List.foldlM_cons, Option.bind_eq_bind, Option.bind_eq_some_iff] at hreport
      obtain ⟨middle, hfirst, hrest⟩ := hreport
      obtain ⟨hadvance, hhalf, hothers⟩ := report_advance hfirst streamId
      obtain ⟨hadvances, hhalves, hothers'⟩ := ih hrest
      refine ⟨?_, fun hreset => ?_, fun hnone => ?_⟩
      · rw [List.foldlM_cons, Option.bind_eq_bind, hadvance]
        exact hadvances
      · rw [hhalves hreset, hhalf]
        intro hmiddle
        rw [hmiddle] at hadvances
        exact hreset (foldlM_reset hadvances)
      · rw [hothers' fun event hmem => hnone event (List.mem_cons_of_mem _ hmem),
          hothers (hnone event (by simp))]

/-- A frame that is taken or refused. -/
theorem take_sends (conn : SmallConn) (streamId : ℕ) (allowed : Bool) (half : Half) :
    smallView.Sends conn (conn.take streamId allowed half).1 streamId
      (conn.take streamId allowed half).2 half := by
  rw [SmallConn.take]
  split
  case isFalse =>
    constructor
    case others => exact fun _ _ => ⟨rfl, rfl⟩
    case accepted => exact fun hnot => by cases hnot
    case refused => exact fun _ => .inl ⟨rfl, rfl⟩
  case isTrue htaken =>
    obtain ⟨-, hopen, hhalf⟩ := htaken
    constructor
    case others =>
      intro id hid
      exact same_of_eq (Function.update_of_ne hid ..)
    case accepted =>
      intro _
      refine ⟨by simp [smallView], hhalf, ?_⟩
      simp only [smallView, Function.update_self]
      rcases hopen with hphase | ⟨hphase | hphase, -⟩
      all_goals
        rw [show (conn streamId).1 = _ from hphase]
    case refused => exact fun hnot => by cases hnot

/-- The small library obeys the rules. -/
theorem smallH2_obeys (reads : List (Bytes × List LibraryEvent)) :
    (smallH2 reads).Obeys smallView where
  idle conn streamId hphase := by
    simp only [smallView] at hphase ⊢
    rw [hphase]
  reset conn streamId hphase := by
    simp only [smallView] at hphase ⊢
    rw [hphase]
  receiveData conn data next events hreceived streamId := by
    simp only [smallH2] at hreceived
    split at hreceived
    case h_1 =>
      obtain ⟨rfl, rfl⟩ := Prod.mk.inj (Option.some.inj hreceived)
      exact ⟨rfl, id, fun _ => rfl⟩
    case h_2 known _ =>
      obtain ⟨conn', hconn, heq⟩ := Option.map_eq_some_iff.mp hreceived
      obtain ⟨rfl, rfl⟩ := Prod.mk.inj heq
      obtain ⟨hreport, hrest⟩ := Option.filter_eq_some_iff.mp hconn
      obtain ⟨hadvances, hhalf, hothers⟩ := report_foldlM hreport streamId
      refine ⟨hadvances, fun hending => ?_, hhalf⟩
      have hnone : ∀ event ∈ known, event.streamId? ≠ some streamId := by
        intro event hmem hid
        have hnot := List.all_eq_true.mp hrest event hmem
        rw [hid] at hnot
        simp only [Option.all_some, decide_eq_true_eq] at hnot
        exact hnot hending
      rw [← hending]
      exact (same_of_eq (hothers hnone)).1.symm
  acknowledge conn length streamId next hacknowledged id := by
    obtain rfl := Option.some.inj hacknowledged
    exact ⟨rfl, rfl⟩
  resetStream conn streamId errorCode next hreset := by
    obtain ⟨-, rfl⟩ := Machine.of_guard hreset
    refine ⟨by simp [smallView], fun id hid => ?_⟩
    exact same_of_eq (Function.update_of_ne hid ..)
  sendHeaders conn streamId status headers endStream := take_sends ..
  final conn streamId status headers endStream hfinal htaken := by
    simp only [smallH2, SmallConn.take, hfinal, Bool.false_or, decide_eq_true_eq] at htaken
    split at htaken
    case isTrue hallowed => exact hallowed.1
    case isFalse => cases htaken
  sendData conn streamId data endStream := take_sends ..

/-- It serves its streams. -/
theorem smallH2_serves (reads : List (Bytes × List LibraryEvent)) :
    (smallH2 reads).Serves smallView where
  credits _ _ _ _ := rfl
  acknowledged _ _ _ _ _ := rfl
  resets conn streamId errorCode _ hopen := by
    simp [smallH2, hopen]
  wasReset _ _ _ _ _ := rfl
  takes conn streamId _ hphase hhalf := by
    have hopen : smallView.Open conn streamId := by
      have hnotReset : smallView.phase conn streamId ≠ .reset := by
        intro hreset
        simp only [smallView] at hreset hhalf
        rw [hreset] at hhalf
        cases hhalf
      rw [View.Open, hhalf]
      cases hcases : smallView.phase conn streamId with
      | idle => exact absurd hcases hphase
      | reset => exact absurd hcases hnotReset
      | _ => simp
    simp [smallH2, SmallConn.take, hhalf, hopen]
  answered _ _ _ _ _ := rfl

/-- The head of a request for a page. -/
def pageHead : List Header :=
  [(ascii ":method", ascii "GET"), (ascii ":path", ascii "/"), (ascii ":scheme", ascii "https"),
    (ascii ":authority", ascii "a")]

end Pounce.H2
