/-
# What a read leaves behind on a stream

Of all the events of a read a stream is touched only by its own. `observe` says what one of
them does to the entry of the stream and what the handler is told, whatever becomes of the
rest of the connection, and `Read` what a whole read comes to: the handler learns of a
request only if the stream was new, the entry lasts unless the handler is told of a reset,
and its flag says whether the end of the body has been read.
-/

import Pounce.H2.RequestEvents

namespace Pounce.H2

open Pounce.Math Pounce.Math.Bytes

/-- The stream an event is about. -/
def H2Event.streamId? : H2Event → Option ℕ
  | .requestReceived streamId _ => some streamId
  | .bodyReceived streamId _ => some streamId
  | .streamReset streamId _ => some streamId
  | .webSocketRequest streamId _ _ => some streamId
  | .goAway _ _ | .windowUpdated _ => none

/-- The event announces a request on the stream. -/
def H2Event.isRequest (streamId : ℕ) : H2Event → Bool
  | .requestReceived id _ => id = streamId
  | .webSocketRequest id _ _ => id = streamId
  | _ => false

/-- The event announces that the stream is reset. -/
def H2Event.isReset (streamId : ℕ) : H2Event → Bool
  | .streamReset id _ => id = streamId
  | _ => false

/-- The peer has sent GOAWAY. -/
def H2Event.isGoAway : H2Event → Bool
  | .goAway _ _ => true
  | _ => false

/-- What an event of the stream does to its entry, and what the handler is told. -/
def observe (streamId : ℕ) (entry : Option StreamState) :
    LibraryEvent → Option StreamState × List H2Event
  | .requestReceived _ headers last =>
      match readRequest headers with
      | none => (none, [.streamReset streamId protocolError])
      | some (request, protocol) =>
          if request.method = ascii "CONNECT" ∧ protocol = ascii "websocket" then
            (some { headersReceived := true },
              [.webSocketRequest streamId request request.target])
          else if last then
            (some { headersReceived := true, ended := true },
              [.requestReceived streamId request, .bodyReceived streamId H2Connection.endOfBody])
          else (some { headersReceived := true }, [.requestReceived streamId request])
  | .dataReceived _ data _ last =>
      (if last then entry.map ({ · with ended := true }) else entry,
        [.bodyReceived streamId { data, more := !last }])
  | .streamEnded _ =>
      (entry.map ({ · with ended := true }),
        if entry.any (!·.ended) then [.bodyReceived streamId H2Connection.endOfBody] else [])
  | .streamReset _ errorCode => (none, [.streamReset streamId errorCode])
  | _ => (entry, [])

variable {Conn : Type} {library : Library Conn} {h2 next : H2Connection Conn}
  {event : LibraryEvent} {out : List H2Event} {streamId : ℕ}

/-- An event touches its own stream as observed. -/
theorem receiveEvent_own (hown : event.streamId? = some streamId)
    (hevent : h2.receiveEvent library event = some (next, out)) :
    (next.streams streamId, out) = observe streamId (h2.streams streamId) event := by
  cases event with
  | requestReceived id headers last =>
      obtain rfl : id = streamId := Option.some.inj hown
      rw [H2Connection.receiveEvent, H2Connection.receiveRequest] at hevent
      rw [observe]
      cases hread : readRequest headers with
      | none =>
          simp only [hread] at hevent ⊢
          obtain ⟨reset, hreset, heq⟩ := Option.map_eq_some_iff.mp hevent
          obtain ⟨rfl, rfl⟩ := Prod.mk.inj heq
          rw [resetStream_streams hreset, Function.update_self]
      | some read =>
          simp only [hread] at hevent ⊢
          split at hevent
          case isTrue hsocket =>
            obtain ⟨rfl, rfl⟩ := Prod.mk.inj (Option.some.inj hevent)
            rw [if_pos hsocket, setStream_streams_self]
          case isFalse hsocket =>
            rw [if_neg hsocket]
            split at hevent
            case isTrue hlast =>
              obtain ⟨rfl, rfl⟩ := Prod.mk.inj (Option.some.inj hevent)
              rw [if_pos hlast, setStream_streams_self]
            case isFalse hlast =>
              obtain ⟨rfl, rfl⟩ := Prod.mk.inj (Option.some.inj hevent)
              rw [if_neg hlast, setStream_streams_self]
  | dataReceived id data length last =>
      obtain rfl : id = streamId := Option.some.inj hown
      obtain ⟨-, hentry, rfl⟩ := receiveBody_eq hevent
      rw [hentry, observe]
  | streamEnded id =>
      obtain rfl : id = streamId := Option.some.inj hown
      obtain ⟨-, hentry, hout⟩ := receiveEnd_eq h2 id
      have heq : h2.receiveEnd id = (next, out) := Option.some.inj hevent
      rw [heq] at hentry hout
      rw [show next.streams id = _ from hentry, show out = _ from hout, observe]
  | streamReset id errorCode =>
      obtain rfl : id = streamId := Option.some.inj hown
      obtain ⟨rfl, rfl⟩ := Prod.mk.inj (Option.some.inj hevent)
      rw [observe, H2Connection.removeStream, setStream_streams_self]
  | trailersReceived id =>
      obtain ⟨rfl, rfl⟩ := Prod.mk.inj (Option.some.inj hevent)
      rfl
  | windowUpdated | remoteSettingsChanged | connectionTerminated => cases hown

/-- Whatever an event tells is about its stream. -/
theorem observe_streamId? (streamId : ℕ) (entry : Option StreamState) (event : LibraryEvent) :
    ∀ told ∈ (observe streamId entry event).2, told.streamId? = some streamId := by
  intro told htold
  cases event with
  | requestReceived id headers last =>
      rw [observe] at htold
      split at htold
      case h_1 =>
        rw [List.mem_singleton.mp htold]
        rfl
      case h_2 =>
        split at htold
        case isTrue =>
          rw [List.mem_singleton.mp htold]
          rfl
        case isFalse =>
          split at htold
          case isTrue =>
            rcases List.mem_pair.mp htold with rfl | rfl <;> rfl
          case isFalse =>
            rw [List.mem_singleton.mp htold]
            rfl
  | dataReceived id data length last =>
      rw [List.mem_singleton.mp htold]
      rfl
  | streamEnded id =>
      rw [observe] at htold
      split at htold
      case isTrue =>
        rw [List.mem_singleton.mp htold]
        rfl
      case isFalse => cases htold
  | streamReset id errorCode =>
      rw [List.mem_singleton.mp htold]
      rfl
  | trailersReceived | windowUpdated | remoteSettingsChanged | connectionTerminated => cases htold

/-- An event of another stream says nothing of this one. -/
theorem receiveEvent_others (hother : event.streamId? ≠ some streamId)
    (hevent : h2.receiveEvent library event = some (next, out)) :
    ∀ told ∈ out, told.streamId? ≠ some streamId := by
  cases hid : event.streamId? with
  | some id =>
      obtain rfl : out = (observe id (h2.streams id) event).2 :=
        congrArg (·.2) (receiveEvent_own hid hevent)
      intro told htold
      rw [observe_streamId? id _ event told htold, ← hid]
      exact hother
  | none =>
      cases event with
      | windowUpdated | remoteSettingsChanged | connectionTerminated =>
          obtain ⟨rfl, rfl⟩ := Prod.mk.inj (Option.some.inj hevent)
          simp [H2Event.streamId?]
      | _ => cases hid

/-! ## A whole read -/

/-- The flag of a stream goes with how far it has come. -/
def Agrees (phase : StreamPhase) (entry : Option StreamState) : Prop :=
  ∀ state, entry = some state →
    (phase = .ended → state.ended = true) ∧ (phase = .receiving → state.ended = false)

/-- What a read comes to for a stream: from the phase and the entry before it to those after
it, with what the handler has been told. -/
structure Read (streamId : ℕ) (start : StreamPhase) (before : Option StreamState)
    (phase : StreamPhase) (entry : Option StreamState) (out : List H2Event) : Prop where
  /-- Only a new stream can bring a request, and only one. -/
  request : (out.any (·.isRequest streamId) → start = .idle) ∧
    out.countP (·.isRequest streamId) ≤ 1
  idle : phase = .idle → start = .idle ∧ ∀ told ∈ out, told.streamId? ≠ some streamId
  /-- An entry is made for a request, and lasts unless the handler is told of a reset. -/
  made : entry.isSome → before.isSome ∨ out.any (·.isRequest streamId)
  kept : before.isSome ∨ out.any (·.isRequest streamId) → entry.isSome ∨
    out.any (·.isReset streamId)
  reset : out.any (·.isReset streamId) → entry = none
  agrees : Agrees start before → Agrees phase entry

/-- Nothing has been read. -/
theorem Read.refl (streamId : ℕ) (start : StreamPhase) (before : Option StreamState) :
    Read streamId start before start before [] := by
  constructor <;> simp

/-- A request is an event of its stream. -/
theorem streamId?_of_isRequest {told : H2Event} (hrequest : told.isRequest streamId) :
    told.streamId? = some streamId := by
  cases told with
  | requestReceived | webSocketRequest => simpa [H2Event.isRequest, H2Event.streamId?] using hrequest
  | _ => cases hrequest

/-- So is a reset. -/
theorem streamId?_of_isReset {told : H2Event} (hreset : told.isReset streamId) :
    told.streamId? = some streamId := by
  cases told with
  | streamReset => simpa [H2Event.isReset, H2Event.streamId?] using hreset
  | _ => cases hreset

/-- Events without a request or a reset of the stream. -/
def Plain (streamId : ℕ) (out : List H2Event) : Prop :=
  ∀ told ∈ out, told.isRequest streamId = false ∧ told.isReset streamId = false

theorem Plain.not_isRequest (hplain : Plain streamId out) :
    out.any (·.isRequest streamId) = false :=
  List.any_eq_false.mpr fun event hmem => by simp [(hplain event hmem).1]

theorem Plain.not_isReset (hplain : Plain streamId out) : out.any (·.isReset streamId) = false :=
  List.any_eq_false.mpr fun event hmem => by simp [(hplain event hmem).2]

theorem Plain.countP_isRequest (hplain : Plain streamId out) :
    out.countP (·.isRequest streamId) = 0 :=
  List.countP_eq_zero.mpr fun event hmem => by simp [(hplain event hmem).1]

/-- Events of other streams neither open nor reset the stream. -/
theorem plain_of_others (hothers : ∀ event ∈ out, event.streamId? ≠ some streamId) :
    Plain streamId out := by
  intro event hmem
  constructor
  · exact Bool.eq_false_iff.mpr fun hrequest => hothers event hmem (streamId?_of_isRequest hrequest)
  · exact Bool.eq_false_iff.mpr fun hreset => hothers event hmem (streamId?_of_isReset hreset)

/-- Events that neither open nor reset the stream keep its entry, up to the flag. -/
theorem Read.plain {start phase after : StreamPhase} {before entry last : Option StreamState}
    {told : List H2Event} (hread : Read streamId start before phase entry told)
    (hplain : Plain streamId out) (hidle : after = .idle → phase = .idle ∧
      ∀ event ∈ out, event.streamId? ≠ some streamId)
    (hentry : last.isSome = entry.isSome) (hagrees : Agrees phase entry → Agrees after last) :
    Read streamId start before after last (told ++ out) where
  request := by
    rw [List.any_append, hplain.not_isRequest, Bool.or_false, List.countP_append,
      hplain.countP_isRequest]
    exact hread.request
  idle hafter := by
    obtain ⟨hphase, hout⟩ := hidle hafter
    obtain ⟨hstart, htold⟩ := hread.idle hphase
    refine ⟨hstart, fun event hmem => ?_⟩
    rcases List.mem_append.mp hmem with hmem | hmem
    · exact htold event hmem
    · exact hout event hmem
  made := by
    rw [List.any_append, hplain.not_isRequest, Bool.or_false, hentry]
    exact hread.made
  kept := by
    rw [List.any_append, hplain.not_isRequest, Bool.or_false, List.any_append, hplain.not_isReset,
      Bool.or_false, hentry]
    exact hread.kept
  reset := by
    rw [List.any_append, hplain.not_isReset, Bool.or_false]
    intro hreset
    rw [hread.reset hreset] at hentry
    simpa using hentry
  agrees hstart := hagrees (hread.agrees hstart)

/-- An event of another stream. -/
theorem Read.other {start phase : StreamPhase} {before entry : Option StreamState}
    {told : List H2Event} (hread : Read streamId start before phase entry told)
    (hothers : ∀ event ∈ out, event.streamId? ≠ some streamId) :
    Read streamId start before phase entry (told ++ out) :=
  hread.plain (plain_of_others hothers) (fun hphase => ⟨hphase, hothers⟩) rfl id

/-- The stream is reset. -/
theorem Read.dropped {start phase after : StreamPhase} {before entry : Option StreamState}
    {told : List H2Event} (hread : Read streamId start before phase entry told)
    (hafter : after ≠ .idle) (errorCode : ℕ) :
    Read streamId start before after none (told ++ [.streamReset streamId errorCode]) where
  request := by simpa [H2Event.isRequest] using hread.request
  idle hphase := absurd hphase hafter
  made := by simp
  kept := by simp [H2Event.isReset]
  reset _ := rfl
  agrees _ := by simp [Agrees]

/-- A request opens the stream. -/
theorem Read.opened {start after : StreamPhase} {before entry : Option StreamState}
    {told : List H2Event} (hread : Read streamId start before .idle entry told)
    {request : H2Event} (hrequest : request.isRequest streamId) (hplain : Plain streamId out)
    {state : StreamState} (hafter : after ≠ .idle)
    (hagrees : (after = .ended → state.ended = true) ∧ (after = .receiving → state.ended = false)) :
    Read streamId start before after (some state) (told ++ request :: out) := by
  obtain ⟨hstart, hothers⟩ := hread.idle rfl
  have htold := plain_of_others hothers
  have hreset : request.isReset streamId = false := by
    cases request with
    | streamReset => cases hrequest
    | _ => rfl
  constructor
  case request =>
    refine ⟨fun _ => hstart, ?_⟩
    rw [List.countP_append, htold.countP_isRequest, List.countP_cons, hplain.countP_isRequest,
      if_pos hrequest]
  case idle => exact fun hphase => absurd hphase hafter
  case made => exact fun _ => .inr (by simp [hrequest])
  case kept => exact fun _ => .inl rfl
  case reset =>
    rw [List.any_append, htold.not_isReset, List.any_cons, hreset, hplain.not_isReset]
    exact fun hnot => Bool.noConfusion hnot
  case agrees =>
    rintro - _ heq
    obtain rfl := Option.some.inj heq
    exact hagrees

/-- An event of the stream. -/
theorem Read.own {start phase after : StreamPhase} {before entry : Option StreamState}
    {told : List H2Event} (hread : Read streamId start before phase entry told)
    (hown : event.streamId? = some streamId) (hnext : phase.next event = some after) :
    Read streamId start before after (observe streamId entry event).1
      (told ++ (observe streamId entry event).2) := by
  cases event with
  | requestReceived id headers last =>
      cases phase with
      | idle =>
          have hafter : after = if last then .ending else .receiving := (Option.some.inj hnext).symm
          rw [observe]
          split
          case h_1 =>
            exact hread.dropped (by rw [hafter]; split <;> decide) protocolError
          case h_2 request protocol _ =>
            have hnotIdle : after ≠ .idle := by rw [hafter]; split <;> decide
            have hnotEnded : after ≠ .ended := by rw [hafter]; split <;> decide
            split
            case isTrue =>
              apply hread.opened (by simp [H2Event.isRequest]) (by simp [Plain]) hnotIdle
              exact ⟨fun hended => absurd hended hnotEnded, fun _ => rfl⟩
            case isFalse =>
              split
              case isTrue hlast =>
                apply hread.opened (by simp [H2Event.isRequest])
                  (by simp [Plain, H2Event.isRequest, H2Event.isReset]) hnotIdle
                refine ⟨fun hended => absurd hended hnotEnded, fun hreceiving => ?_⟩
                rw [hafter, if_pos hlast] at hreceiving
                cases hreceiving
              case isFalse =>
                apply hread.opened (by simp [H2Event.isRequest]) (by simp [Plain]) hnotIdle
                exact ⟨fun hended => absurd hended hnotEnded, fun _ => rfl⟩
      | _ => cases hnext
  | dataReceived id data length last =>
      cases phase with
      | receiving =>
          have hafter : after = if last then .ending else .receiving := (Option.some.inj hnext).symm
          apply hread.plain
          · simp [observe, Plain, H2Event.isRequest, H2Event.isReset]
          · intro hidle
            rw [hafter] at hidle
            split at hidle <;> cases hidle
          · rw [observe]
            split <;> simp
          · intro hagrees
            rw [hafter, observe]
            split
            case isTrue =>
              exact fun state _ =>
                ⟨fun hphase => (by cases hphase), fun hphase => (by cases hphase)⟩
            case isFalse => exact hagrees
      | _ => cases hnext
  | trailersReceived id =>
      cases phase with
      | receiving =>
          obtain rfl := Option.some.inj hnext
          apply hread.plain (by simp [observe, Plain]) (fun hidle => by cases hidle) rfl
          exact fun _ state _ => ⟨fun hphase => (by cases hphase), fun hphase => (by cases hphase)⟩
      | _ => cases hnext
  | streamEnded id =>
      obtain rfl : .ended = after := by
        cases phase with
        | receiving | ending => exact Option.some.inj hnext
        | _ => cases hnext
      apply hread.plain
      · intro told htold
        rw [observe] at htold
        split at htold
        case isTrue =>
          rw [List.mem_singleton.mp htold]
          exact ⟨rfl, rfl⟩
        case isFalse => cases htold
      · intro hidle
        cases hidle
      · rw [observe, Option.isSome_map]
      · intro _ state hstate
        obtain ⟨before, -, rfl⟩ := Option.map_eq_some_iff.mp hstate
        exact ⟨fun _ => rfl, fun hphase => by cases hphase⟩
  | streamReset id errorCode =>
      obtain rfl : .reset = after := by cases phase <;> exact Option.some.inj hnext
      exact hread.dropped (by decide) errorCode
  | windowUpdated | remoteSettingsChanged | connectionTerminated => cases hown

/-- A whole read. -/
theorem Read.receive {events : List LibraryEvent} {start phase last : StreamPhase}
    {before : Option StreamState} {told : List H2Event}
    (hread : Read streamId start before phase (h2.streams streamId) told)
    (hconforms : events.foldlM (advance streamId) phase = some last)
    (hreceived : h2.receiveData library events = some (next, out)) :
    Read streamId start before last (next.streams streamId) (told ++ out) := by
  induction events generalizing h2 phase told out with
  | nil =>
      obtain ⟨rfl, rfl⟩ := Prod.mk.inj (Option.some.inj hreceived)
      obtain rfl := Option.some.inj hconforms
      simpa using hread
  | cons event events ih =>
      simp only [H2Connection.receiveData, Option.bind_eq_bind, Option.bind_eq_some_iff] at hreceived
      obtain ⟨⟨middle, first⟩, hfirst, ⟨final, rest⟩, hrest, heq⟩ := hreceived
      obtain ⟨rfl, rfl⟩ := Prod.mk.inj (Option.some.inj heq)
      rw [List.foldlM_cons, Option.bind_eq_bind, Option.bind_eq_some_iff] at hconforms
      obtain ⟨after, hadvance, hconforms⟩ := hconforms
      rw [← List.append_assoc]
      refine ih ?_ hconforms hrest
      rw [advance] at hadvance
      split at hadvance
      case isTrue hown =>
        obtain ⟨hentry, hout⟩ := Prod.mk.inj (receiveEvent_own hown hfirst)
        rw [hentry, hout]
        exact hread.own hown hadvance
      case isFalse hother =>
        obtain rfl := Option.some.inj hadvance
        rw [(receiveEvent_other hother hfirst).1]
        exact hread.other (receiveEvent_others hother hfirst)

end Pounce.H2
