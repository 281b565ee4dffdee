/-
# What the send callable writes

In every run whose calls go well the transport gets the hints, one head and the body, each
once and in order, whatever was held back or deferred on the way; what is out of order is
refused; and the response is complete with the last piece of the body.

`Sound` adds to this what h11 has been brought to. Before the head is serialized h11 takes no
body, and afterwards it takes no head and no hint, so what it accepts tells where the sender
is. A start that is deferred is not known to h11. That is where a second start gets through.
-/

import Pounce.Asgi.CreateSend
import Pounce.Asgi.Ranges
import Pounce.Protocols.H11Sending

namespace Pounce

open Pounce.Math Pounce.Math.Bytes Pounce.Math.Message

universe u

/-! ## What h11 accepts -/

/-- The event is part of a body. -/
def H11Send.Content (event : H11Send) : Prop :=
  (∃ data, event = .data data) ∨ event = .endOfMessage

theorem H11Send.Content.early {event : H11Send} (hcontent : event.Content) : event.early := by
  rcases hcontent with ⟨data, rfl⟩ | rfl
  · rfl
  · rfl

namespace ServerSide

/-- A head may be sent. -/
def Awaits (side : ServerSide) : Prop := ∃ peer, side = .awaiting peer

/-- A body may be sent. -/
def Sends (side : ServerSide) : Prop := ∃ delimiting, side = .sendBody delimiting

theorem not_sends_of_awaits {side : ServerSide} (hawaits : side.Awaits) : ¬ side.Sends := by
  rintro ⟨delimiting, hsends⟩
  obtain ⟨peer, hside⟩ := hawaits
  rw [hside] at hsends
  cases hsends

/-- What it comes to when an event is refused. -/
def After (before after : ServerSide) : Prop := after = before ∨ after = .done

theorem After.not_sends {before after : ServerSide} (hafter : before.After after)
    (hnot : ¬ before.Sends) : ¬ after.Sends := by
  rcases hafter with rfl | rfl
  · exact hnot
  · rintro ⟨delimiting, hsends⟩
    cases hsends

theorem After.not_awaits {before after : ServerSide} (hafter : before.After after)
    (hnot : ¬ before.Awaits) : ¬ after.Awaits := by
  rcases hafter with rfl | rfl
  · exact hnot
  · rintro ⟨peer, hawaits⟩
    cases hawaits

variable {rules : HeaderRules} {side : ServerSide}

/-- A hint is taken before the head, and changes nothing. -/
theorem send_informational {status : ℕ} {headers : List Header} :
    ((side.send rules (.informational status headers)).1.isSome → side.Awaits ∧
        (side.send rules (.informational status headers)).2 = side) ∧
      ((side.send rules (.informational status headers)).1 = none →
        side.After (side.send rules (.informational status headers)).2) := by
  rw [send]
  cases rules.normalize headers with
  | none => exact ⟨fun hnot => (by cases hnot), fun _ => .inl rfl⟩
  | some normalized =>
      cases side with
      | awaiting peer =>
          cases peer with
          | none => exact ⟨fun hnot => (by cases hnot), fun _ => .inr rfl⟩
          | some peer => exact ⟨fun _ => ⟨⟨_, rfl⟩, rfl⟩, fun hnot => (by cases hnot)⟩
      | sendBody delimiting => exact ⟨fun hnot => (by cases hnot), fun _ => .inr rfl⟩
      | done => exact ⟨fun hnot => (by cases hnot), fun _ => .inr rfl⟩

/-- A head is taken once. -/
theorem send_response {status : ℕ} {headers : List Header} :
    ((side.send rules (.response status headers)).1.isSome → side.Awaits ∧
        ¬ (side.send rules (.response status headers)).2.Awaits) ∧
      ((side.send rules (.response status headers)).1 = none →
        side.After (side.send rules (.response status headers)).2) := by
  rw [send]
  split
  case isFalse => exact ⟨fun hnot => (by cases hnot), fun _ => .inl rfl⟩
  case isTrue =>
    cases rules.normalize headers with
    | none => exact ⟨fun hnot => (by cases hnot), fun _ => .inl rfl⟩
    | some normalized =>
        cases side with
        | awaiting peer =>
            refine ⟨fun _ => ⟨⟨_, rfl⟩, ?_⟩, fun hnot => (by cases hnot)⟩
            rintro ⟨other, hother⟩
            simp only at hother
            split at hother <;> cases hother
        | sendBody delimiting => exact ⟨fun hnot => (by cases hnot), fun _ => .inr rfl⟩
        | done => exact ⟨fun hnot => (by cases hnot), fun _ => .inr rfl⟩

/-- Data and the end of a message are taken in a body. -/
theorem send_content {event : H11Send} (hcontent : event.Content) :
    ((side.send rules event).1.isSome → side.Sends ∧ ¬ (side.send rules event).2.Awaits) ∧
      ((side.send rules event).1 = none → (side.send rules event).2 = .done) := by
  have hdone : ¬ ServerSide.done.Awaits := by
    rintro ⟨peer, hawaits⟩
    cases hawaits
  have hbody {delimiting : Delimiting} : ¬ (ServerSide.sendBody delimiting).Awaits := by
    rintro ⟨peer, hawaits⟩
    cases hawaits
  rcases hcontent with ⟨data, rfl⟩ | rfl
  · cases side with
    | awaiting peer => exact ⟨fun hnot => (by cases hnot), fun _ => rfl⟩
    | done => exact ⟨fun hnot => (by cases hnot), fun _ => rfl⟩
    | sendBody delimiting =>
        cases delimiting with
        | length left =>
            rw [send]
            split
            · exact ⟨fun _ => ⟨⟨_, rfl⟩, hbody⟩, fun hnot => (by cases hnot)⟩
            · exact ⟨fun hnot => (by cases hnot), fun _ => rfl⟩
        | chunked => exact ⟨fun _ => ⟨⟨_, rfl⟩, hbody⟩, fun hnot => (by cases hnot)⟩
        | close => exact ⟨fun _ => ⟨⟨_, rfl⟩, hbody⟩, fun hnot => (by cases hnot)⟩
  · cases side with
    | awaiting peer => exact ⟨fun hnot => (by cases hnot), fun _ => rfl⟩
    | done => exact ⟨fun hnot => (by cases hnot), fun _ => rfl⟩
    | sendBody delimiting =>
        cases delimiting with
        | length left =>
            cases left with
            | zero => exact ⟨fun _ => ⟨⟨_, rfl⟩, hdone⟩, fun hnot => (by cases hnot)⟩
            | succ left => exact ⟨fun hnot => (by cases hnot), fun _ => rfl⟩
        | chunked => exact ⟨fun _ => ⟨⟨_, rfl⟩, hdone⟩, fun hnot => (by cases hnot)⟩
        | close => exact ⟨fun _ => ⟨⟨_, rfl⟩, hdone⟩, fun hnot => (by cases hnot)⟩

end ServerSide

namespace H11.SendsAs

variable {Conn : Type u} {h11 : H11 Conn} {rules : HeaderRules} {side : Conn → ServerSide}
  {conn next : Conn} {bytes : Bytes} {headers : List Header} {status : ℕ}

variable (hsends : h11.SendsAs rules side)
include hsends

/-- What h11 writes tells whether it accepts. -/
theorem accepted {event : H11Send} {sent : Option Bytes} (hearly : event.early)
    (hsend : h11.send conn event = (sent, next)) :
    ((side conn).send rules event).1.isSome = sent.isSome ∧
      ((side conn).send rules event).2 = side next := by
  have hbytes := hsends.send_bytes conn event hearly
  have hside := hsends.side_send conn event hearly
  rw [hsend] at hbytes hside
  refine ⟨?_, hside.symm⟩
  rw [show sent = _ from hbytes, Option.isSome_map]

/-- A hint that is taken. -/
theorem informational_some
    (hsend : h11.send conn (.informational 103 headers) = (some bytes, next)) :
    (side conn).Awaits ∧ side next = side conn := by
  obtain ⟨hsome, hside⟩ := hsends.accepted rfl hsend
  obtain ⟨hawaits, hsame⟩ := ServerSide.send_informational.1 hsome
  exact ⟨hawaits, hside.symm.trans hsame⟩

/-- A hint that is refused. -/
theorem informational_none (hsend : h11.send conn (.informational 103 headers) = (none, next)) :
    (side conn).After (side next) := by
  obtain ⟨hnone, hside⟩ := hsends.accepted rfl hsend
  rw [← hside]
  exact ServerSide.send_informational.2 (Option.not_isSome_iff_eq_none.mp (by simp [hnone]))

/-- A head that is taken. -/
theorem response_some (hsend : h11.send conn (.response status headers) = (some bytes, next)) :
    (side conn).Awaits ∧ ¬ (side next).Awaits := by
  obtain ⟨hsome, hside⟩ := hsends.accepted rfl hsend
  rw [← hside]
  exact ServerSide.send_response.1 hsome

/-- A head that is refused. -/
theorem response_none (hsend : h11.send conn (.response status headers) = (none, next)) :
    (side conn).After (side next) := by
  obtain ⟨hnone, hside⟩ := hsends.accepted rfl hsend
  rw [← hside]
  exact ServerSide.send_response.2 (Option.not_isSome_iff_eq_none.mp (by simp [hnone]))

/-- Part of a body that is taken. -/
theorem content_some {event : H11Send} (hcontent : event.Content)
    (hsend : h11.send conn event = (some bytes, next)) :
    (side conn).Sends ∧ ¬ (side next).Awaits := by
  obtain ⟨hsome, hside⟩ := hsends.accepted hcontent.early hsend
  rw [← hside]
  exact (ServerSide.send_content hcontent).1 hsome

/-- Part of a body that is refused. -/
theorem content_none {event : H11Send} (hcontent : event.Content)
    (hsend : h11.send conn event = (none, next)) : side next = .done := by
  obtain ⟨hnone, hside⟩ := hsends.accepted hcontent.early hsend
  rw [← hside]
  exact (ServerSide.send_content hcontent).2 (Option.not_isSome_iff_eq_none.mp (by simp [hnone]))

/-- Parts of a body are all taken, or one of them is refused. -/
theorem sendAll_content {events : List H11Send} (hcontent : ∀ event ∈ events, event.Content)
    {sent : Option Bytes} (hsend : H1Protocol.sendAll h11 conn events = (sent, next)) :
    (sent = none → side next = .done) ∧
      (sent.isSome → (events = [] ∧ sent = some [] ∧ next = conn) ∨
        ((side conn).Sends ∧ ¬ (side next).Awaits)) := by
  induction events generalizing conn next sent with
  | nil =>
      obtain ⟨rfl, rfl⟩ := Prod.mk.inj hsend
      exact ⟨fun hnot => (by cases hnot), fun _ => .inl ⟨rfl, rfl, rfl⟩⟩
  | cons event events ih =>
      have hfirst := hcontent event (List.mem_cons_self ..)
      rw [H1Protocol.sendAll] at hsend
      rcases hone : h11.send conn event with ⟨bytes, after⟩
      rw [hone] at hsend
      cases bytes with
      | none =>
          obtain ⟨rfl, rfl⟩ := Prod.mk.inj hsend
          exact ⟨fun _ => hsends.content_none hfirst hone, fun hnot => (by cases hnot)⟩
      | some bytes =>
          obtain ⟨hbody, hleft⟩ := hsends.content_some hfirst hone
          rcases hrest : H1Protocol.sendAll h11 after events with ⟨others, last⟩
          obtain ⟨hnone, hsome⟩ :=
            ih (fun other hmem => hcontent other (List.mem_cons_of_mem _ hmem)) hrest
          simp only [hrest] at hsend
          obtain ⟨rfl, rfl⟩ := Prod.mk.inj hsend
          refine ⟨fun hmap => hnone (Option.map_eq_none_iff.mp hmap),
            fun hmap => .inr ⟨hbody, ?_⟩⟩
          rcases hsome (by simpa using hmap) with ⟨-, -, rfl⟩ | ⟨-, hafter⟩
          · exact hleft
          · exact hafter

/-- A piece of the body is nothing, or taken in a body, or refused. -/
theorem sendBody_cases {data : Bytes} {more : Bool} {sent : Option Bytes}
    (hsend : H1Protocol.sendBody h11 conn data more = (sent, next)) :
    (sent = none → side next = .done) ∧
      (sent.isSome → (more = true ∧ sent = some [] ∧ next = conn) ∨
        ((side conn).Sends ∧ ¬ (side next).Awaits)) := by
  have hcontent : ∀ event ∈ bodyEvents data more, event.Content := by
    intro event hevent
    rcases List.mem_append.mp hevent with hdata | hend
    · split at hdata
      · cases hdata
      · exact .inl ⟨data, List.mem_singleton.mp hdata⟩
    · split at hend
      · cases hend
      · exact .inr (List.mem_singleton.mp hend)
  obtain ⟨hnone, hsome⟩ := hsends.sendAll_content hcontent hsend
  refine ⟨hnone, fun htaken => (hsome htaken).imp_left ?_⟩
  rintro ⟨hnothing, hempty, hsame⟩
  refine ⟨?_, hempty, hsame⟩
  cases more with
  | true => rfl
  | false => exact absurd (List.append_eq_nil_iff.mp hnothing).2 (List.cons_ne_nil _ _)

end H11.SendsAs

/-! ## The parts of a file -/

namespace Asgi

variable {Conn : Type u} {h11 : H11 Conn} {passthrough : H11Passthrough h11} {env : SendEnv}
  {sendfileAvailable : Bool} {side : Conn → ServerSide} {rules : HeaderRules}

/-- Framing a file is framing its bytes. -/
theorem Sender.sendBody_of_parts (passthrough : H11Passthrough h11) (sender : Sender Conn)
    (region : Bytes) (moreBody : Bool) :
    H1Protocol.sendBody h11 sender.conn region moreBody =
      ((sender.sendBodyParts h11 passthrough region.length moreBody).1.map
          fun framing => framing.1 ++ region ++ framing.2.flatten,
        (sender.sendBodyParts h11 passthrough region.length moreBody).2) := by
  rw [H1Protocol.sendBody, Sender.sendBodyParts]
  by_cases hregion : region = []
  · subst hregion
    cases moreBody with
    | true => rfl
    | false =>
        simp only [List.length_nil, if_true, Bool.false_eq_true, if_false, List.nil_append,
          H1Protocol.sendAll]
        rcases h11.send sender.conn .endOfMessage with ⟨sent, last⟩
        cases sent with
        | none => rfl
        | some tail => simp
  · have hlength : region.length ≠ 0 := by rwa [Ne, List.length_eq_zero_iff]
    have hdata := passthrough.lawful sender.conn region
    rw [if_neg hregion, if_neg hlength, List.singleton_append, H1Protocol.sendAll, hdata]
    rcases passthrough.sendData sender.conn region.length with ⟨framed, conn⟩
    cases framed with
    | none => rfl
    | some framing =>
        cases moreBody with
        | true => simp [H1Protocol.sendAll]
        | false =>
            simp only [Bool.false_eq_true, if_false, Option.map_some, H1Protocol.sendAll]
            rcases h11.send conn .endOfMessage with ⟨sent, last⟩
            cases sent with
            | none => rfl
            | some tail => simp

/-! ## What the sender keeps -/

/-- The head has been serialized. -/
def Sender.headed (sender : Sender Conn) : Bool :=
  sender.accepted.any (·.isStart) && sender.deferredMessage.isNone

/-- A sender is exact, and h11 has been brought as far as it has come. -/
structure Sender.Sound (side : Conn → ServerSide) (sender : Sender Conn) : Prop
    extends sender.Exact where
  started : sender.accepted.any (·.isStart) → sender.responseStarted = true
  paired : sender.deferredStart.isSome = sender.deferredMessage.isSome
  /-- A start is deferred for the encoder. -/
  encoder : sender.deferredMessage.isSome → sender.compressor.isSome
  only : ∀ message, sender.deferredMessage = some message →
    sender.accepted.filter (·.isStart) = [message]
  /-- Before the head nothing is held back, there is no body, and h11 takes none. -/
  headless : sender.headed = false → sender.pendingHead = [] ∧
    sender.accepted.filter (·.isBody) = [] ∧ ¬ (side sender.conn).Sends
  /-- After it h11 takes no other. -/
  once : sender.headed = true → ¬ (side sender.conn).Awaits

/-- What is written at once is what there is to write. -/
theorem flatten_coalesce (pendingHead raw : Bytes) :
    (coalesce pendingHead raw).flatten = pendingHead ++ raw := by
  rw [coalesce]
  by_cases hraw : raw = []
  · by_cases hpending : pendingHead = [] <;> simp [hraw, hpending]
  · by_cases hpending : pendingHead = []
    · simp [hraw, hpending]
    · rw [if_neg hpending, if_neg hraw]
      split <;> simp

namespace SendMessage

variable {message : SendMessage}

/-- A hint is nothing else. -/
theorem of_isInterim (hinterim : message.isInterim = true) :
    message.isStart = false ∧ message.isBody = false ∧ message.isFinal = false := by
  cases message with
  | responseStart status headers =>
      refine ⟨?_, rfl, rfl⟩
      rw [isStart, decide_eq_false_iff_not, not_not]
      exact of_decide_eq_true hinterim
  | responseBody body moreBody => cases hinterim
  | responseSendfile content offset count moreBody => cases hinterim

/-- Nor is a final start. -/
theorem of_isStart (hstart : message.isStart = true) :
    message.isInterim = false ∧ message.isBody = false ∧ message.isFinal = false := by
  cases message with
  | responseStart status headers =>
      refine ⟨?_, rfl, rfl⟩
      rw [isInterim, decide_eq_false_iff_not]
      exact of_decide_eq_true hstart
  | responseBody body moreBody => cases hstart
  | responseSendfile content offset count moreBody => cases hstart

/-- Nor is a piece of the body. -/
theorem of_isBody (hbody : message.isBody = true) :
    message.isInterim = false ∧ message.isStart = false := by
  cases message with
  | responseStart status headers => cases hbody
  | responseBody body moreBody => exact ⟨rfl, rfl⟩
  | responseSendfile content offset count moreBody => exact ⟨rfl, rfl⟩

/-- What ends a body is part of it. -/
theorem isBody_of_isFinal (hfinal : message.isFinal = true) : message.isBody = true := by
  cases message with
  | responseStart status headers => cases hfinal
  | responseBody body moreBody => rfl
  | responseSendfile content offset count moreBody => rfl

end SendMessage

namespace Sender

variable {sender : Sender Conn} {message : SendMessage}

/-- Accepted messages without a start. -/
theorem starts_eq_nil_iff {accepted : List SendMessage} :
    accepted.filter (·.isStart) = [] ↔ accepted.any (·.isStart) = false := by
  simp [List.filter_eq_nil_iff]

/-- A sender whose head has not been serialized. -/
structure Headless (side : Conn → ServerSide) (sender : Sender Conn) : Prop where
  bytes : sender.writes.flatten = (sender.pieces.map Prod.snd).flatten
  order : sender.pieces.map Prod.fst = sender.accepted.filter (·.isInterim)
  bodies : sender.accepted.filter (·.isBody) = []
  pending : sender.pendingHead = []
  incomplete : sender.responseComplete = false
  closed : ¬ (side sender.conn).Sends

/-- So it is with a sound one before its head. -/
theorem Sound.before (hsound : sender.Sound side) (hheaded : sender.headed = false) :
    sender.Headless side := by
  obtain ⟨hpending, hbodies, hclosed⟩ := hsound.headless hheaded
  have hbytes := hsound.bytes
  have horder := hsound.order
  have hstarts : (sender.accepted.filter (·.isStart)).drop
      sender.deferredMessage.toList.length = [] := by
    cases hdeferred : sender.deferredMessage with
    | none =>
        rw [headed, hdeferred, Option.isNone_none, Bool.and_true] at hheaded
        rw [starts_eq_nil_iff.mpr hheaded]
        rfl
    | some message =>
        rw [hsound.only message hdeferred]
        rfl
  rw [hpending, List.append_nil] at hbytes
  rw [hstarts, hbodies, List.append_nil, List.append_nil] at horder
  refine ⟨hbytes, horder, hbodies, hpending, ?_, hclosed⟩
  rw [Bool.eq_false_iff]
  intro hcomplete
  obtain ⟨message, hmessage, hfinal⟩ := hsound.complete.mp hcomplete
  have hmem : message ∈ sender.accepted.filter (·.isBody) :=
    List.mem_filter.mpr ⟨hmessage, SendMessage.isBody_of_isFinal hfinal⟩
  rw [hbodies] at hmem
  cases hmem

namespace Headless

variable (hheadless : sender.Headless side)
include hheadless

/-- Nothing that was accepted ends a body. -/
theorem not_final : ¬ ∃ message ∈ sender.accepted, message.isFinal = true := by
  rintro ⟨message, hmessage, hfinal⟩
  have hmem : message ∈ sender.accepted.filter (·.isBody) :=
    List.mem_filter.mpr ⟨hmessage, SendMessage.isBody_of_isFinal hfinal⟩
  rw [hheadless.bodies] at hmem
  cases hmem

/-- It is complete as far as it goes. -/
theorem complete_iff :
    sender.responseComplete = true ↔ ∃ message ∈ sender.accepted, message.isFinal = true := by
  rw [hheadless.incomplete]
  exact ⟨fun hnot => (by cases hnot), fun hfinal => absurd hfinal hheadless.not_final⟩

/-- Without a start it is sound. -/
theorem sound (hstarts : sender.accepted.filter (·.isStart) = [])
    (hdeferred : sender.deferredMessage = none) (hpaired : sender.deferredStart = none) :
    sender.Sound side := by
  have hnone := starts_eq_nil_iff.mp hstarts
  have hheaded : sender.headed = false := by rw [headed, hnone, Bool.false_and]
  constructor
  case toExact =>
    constructor
    case bytes => rw [hheadless.pending, List.append_nil, hheadless.bytes]
    case order => rw [hstarts, hheadless.bodies, hheadless.order]; simp
    case one => rw [hstarts]; exact Nat.zero_le _
    case complete => exact hheadless.complete_iff
  case started => exact fun hany => absurd (hnone.symm.trans hany) Bool.false_ne_true
  case paired => rw [hdeferred, hpaired]; rfl
  case encoder => rw [hdeferred]; exact fun hnot => (by cases hnot)
  case only => rw [hdeferred]; exact fun _ hnot => (by cases hnot)
  case headless => exact fun _ => ⟨hheadless.pending, hheadless.bodies, hheadless.closed⟩
  case once => exact fun hnot => absurd (hheaded.symm.trans hnot) Bool.false_ne_true

/-- With a start that is deferred it is sound. -/
theorem deferred (hstarts : sender.accepted.filter (·.isStart) = [message])
    (hdeferred : sender.deferredMessage = some message) (hpaired : sender.deferredStart.isSome)
    (hencoder : sender.compressor.isSome) (hstarted : sender.responseStarted = true) :
    sender.Sound side := by
  have hheaded : sender.headed = false := by
    rw [headed, hdeferred, Option.isNone_some, Bool.and_false]
  constructor
  case toExact =>
    constructor
    case bytes => rw [hheadless.pending, List.append_nil, hheadless.bytes]
    case order => rw [hstarts, hdeferred, hheadless.bodies, hheadless.order]; simp
    case one => rw [hstarts]; exact le_refl _
    case complete => exact hheadless.complete_iff
  case started => exact fun _ => hstarted
  case paired => rw [hpaired, hdeferred]; rfl
  case encoder => exact fun _ => hencoder
  case only =>
    intro other hother
    obtain rfl := Option.some.inj (hdeferred.symm.trans hother)
    exact hstarts
  case headless => exact fun _ => ⟨hheadless.pending, hheadless.bodies, hheadless.closed⟩
  case once => exact fun hnot => absurd (hheaded.symm.trans hnot) Bool.false_ne_true

/-- With its head serialized it is sound. -/
theorem head (hstarts : sender.accepted.filter (·.isStart) = [message])
    (hdeferred : sender.deferredMessage = none) (hpaired : sender.deferredStart = none)
    (hstarted : sender.responseStarted = true) {conn : Conn} (hafter : ¬ (side conn).Awaits)
    (compressor : Option Compressor) (bytes : Bytes) :
    ({ sender with conn, compressor, pendingHead := bytes }.record message bytes).Sound side := by
  have hany : sender.accepted.any (·.isStart) = true := by
    rw [← Bool.not_eq_false, ← starts_eq_nil_iff, hstarts]
    exact List.cons_ne_nil _ _
  have hheaded : ({ sender with conn, compressor, pendingHead := bytes }.record message
      bytes).headed = true := by
    show (sender.accepted.any (·.isStart) && sender.deferredMessage.isNone) = true
    rw [hany, hdeferred]
    rfl
  constructor
  case toExact =>
    constructor
    case bytes =>
      show sender.writes.flatten ++ bytes = _
      rw [hheadless.bytes, record, List.map_append, List.flatten_append]
      simp
    case order =>
      show (sender.pieces ++ [(message, bytes)]).map Prod.fst =
        sender.accepted.filter (·.isInterim) ++
          (sender.accepted.filter (·.isStart)).drop sender.deferredMessage.toList.length ++
            sender.accepted.filter (·.isBody)
      rw [List.map_append, hheadless.order, hstarts, hdeferred, hheadless.bodies]
      simp
    case one => exact hstarts ▸ le_refl _
    case complete => exact hheadless.complete_iff
  case started => exact fun _ => hstarted
  case paired =>
    show sender.deferredStart.isSome = sender.deferredMessage.isSome
    rw [hdeferred, hpaired]
    rfl
  case encoder =>
    show sender.deferredMessage.isSome = true → _
    rw [hdeferred]
    exact fun hnot => (by cases hnot)
  case only =>
    show ∀ other, sender.deferredMessage = some other → _
    rw [hdeferred]
    exact fun _ hnot => (by cases hnot)
  case headless => exact fun hnot => absurd (hnot.symm.trans hheaded) Bool.false_ne_true
  case once => exact fun _ => hafter

end Headless

/-! ## One call -/

namespace Sound

variable (hsound : sender.Sound side)
include hsound

/-- What is sound stays so when h11 refuses something and nothing else is done. -/
theorem keep {conn : Conn} (hside : (side sender.conn).After (side conn))
    {compressor : Option Compressor} (hencoder : sender.deferredMessage.isSome →
      compressor.isSome) (ops : List CompressOp) (status : ℕ) (streaming : Bool)
    {responseStarted : Bool} (hstarted : sender.responseStarted = true → responseStarted = true) :
    ({ sender with conn, compressor, ops, status, streaming, responseStarted }).Sound side := by
  constructor
  case toExact => exact ⟨hsound.bytes, hsound.order, hsound.one, hsound.complete⟩
  case started => exact fun hany => hstarted (hsound.started hany)
  case paired => exact hsound.paired
  case encoder => exact hencoder
  case only => exact hsound.only
  case headless =>
    intro hheaded
    obtain ⟨hpending, hbodies, hclosed⟩ := hsound.headless hheaded
    exact ⟨hpending, hbodies, hside.not_sends hclosed⟩
  case once => exact fun hheaded => hside.not_awaits (hsound.once hheaded)

/-- Only the connection has changed. -/
theorem refused {conn : Conn} (hside : (side sender.conn).After (side conn)) :
    ({ sender with conn }).Sound side :=
  hsound.keep hside hsound.encoder sender.ops sender.status sender.streaming id

/-- Where h11 takes a head, none has been serialized. -/
theorem headed_eq_false (hawaits : (side sender.conn).Awaits) : sender.headed = false := by
  rw [Bool.eq_false_iff]
  exact fun hheaded => hsound.once hheaded hawaits

/-- A start that is deferred has been accepted. -/
theorem deferred_none (hstarts : sender.accepted.any (·.isStart) = false) :
    sender.deferredMessage = none ∧ sender.deferredStart = none := by
  have hnone : sender.deferredMessage = none := by
    cases hdeferred : sender.deferredMessage with
    | none => rfl
    | some message =>
        have honly := hsound.only message hdeferred
        rw [starts_eq_nil_iff.mpr hstarts] at honly
        cases honly
  refine ⟨hnone, ?_⟩
  have hpaired := hsound.paired
  rw [hnone] at hpaired
  exact Option.not_isSome_iff_eq_none.mp (by simp [hpaired])

/-- A hint is written, or refused. -/
theorem hint (hsends : h11.SendsAs rules side) (hinterim : message.isInterim = true)
    (headers : List Header) : (sender.hint h11 message headers).sender.Sound side := by
  obtain ⟨hnostart, hnobody, hnofinal⟩ := SendMessage.of_isInterim hinterim
  rw [Sender.hint]
  split
  case h_1 conn hsend => exact hsound.refused (hsends.informational_none hsend)
  case h_2 bytes conn hsend =>
    obtain ⟨hawaits, hsame⟩ := hsends.informational_some hsend
    have hheadless := hsound.before (hsound.headed_eq_false hawaits)
    have hany : (sender.accepted ++ [message]).any (·.isStart) =
        sender.accepted.any (·.isStart) := by
      simp [hnostart]
    have hstarts : (sender.accepted ++ [message]).filter (·.isStart) =
        sender.accepted.filter (·.isStart) := by
      simp [hnostart]
    have hhinted : ({ sender with
        conn
        writes := sender.writes ++ [bytes]
        pieces := sender.pieces ++ [(message, bytes)]
        accepted := sender.accepted ++ [message] } : Sender Conn).Headless side := by
      constructor
      case bytes => simp [hheadless.bytes]
      case order => simp [hheadless.order, hinterim]
      case bodies => simp [hheadless.bodies, hnobody]
      case pending => exact hheadless.pending
      case incomplete => exact hheadless.incomplete
      case closed => exact hsame ▸ hheadless.closed
    by_cases hdeferred : sender.deferredMessage = none
    · have hnone : sender.accepted.any (·.isStart) = false := by
        have hheaded := hsound.headed_eq_false hawaits
        rwa [headed, hdeferred, Option.isNone_none, Bool.and_true] at hheaded
      exact hhinted.sound (hstarts.trans (starts_eq_nil_iff.mpr hnone)) hdeferred
        (hsound.deferred_none hnone).2
    · obtain ⟨start, hdeferred⟩ := Option.ne_none_iff_exists'.mp hdeferred
      have honly := hsound.only start hdeferred
      have hstarted := hsound.started (by
        rw [← Bool.not_eq_false, ← starts_eq_nil_iff, honly]
        exact List.cons_ne_nil _ _)
      exact hhinted.deferred (hstarts.trans honly) hdeferred
        (hsound.paired.trans (by rw [hdeferred]; rfl))
        (hsound.encoder (by rw [hdeferred]; rfl)) hstarted

end Sound

/-- A head is serialized, or refused. -/
theorem buildHead_cases (env : SendEnv) (hsends : h11.SendsAs rules side) (sender : Sender Conn)
    (message : SendMessage) (status : ℕ) (headers : List Header) :
    (∃ conn compressor, (side sender.conn).After (side conn) ∧
        sender.buildHead h11 env message status headers =
          { sender with conn, compressor }.fails) ∨
      ∃ conn compressor bytes, (side sender.conn).Awaits ∧ ¬ (side conn).Awaits ∧
        sender.buildHead h11 env message status headers =
          ({ sender with conn, compressor, pendingHead := bytes }.record message
            bytes).returns := by
  rw [buildHead]
  split
  case h_1 conn hsend => exact .inl ⟨conn, _, hsends.response_none hsend, rfl⟩
  case h_2 bytes conn hsend =>
    obtain ⟨hawaits, hafter⟩ := hsends.response_some hsend
    exact .inr ⟨conn, _, bytes, hawaits, hafter, rfl⟩

namespace Sound

variable (hsound : sender.Sound side) (hsends : h11.SendsAs rules side)
include hsound hsends

/-- A first start is deferred, or its head is serialized, or it is refused. -/
theorem start (hstart : message.isStart = true)
    (hfirst : sender.accepted.any (·.isStart) = false) (status : ℕ) (headers : List Header) :
    (sender.start h11 env message status headers).sender.Sound side := by
  obtain ⟨hnohint, hnobody, -⟩ := SendMessage.of_isStart hstart
  obtain ⟨hdeferred, hpaired⟩ := hsound.deferred_none hfirst
  have hheaded : sender.headed = false := by rw [headed, hfirst, Bool.false_and]
  have hheadless := hsound.before hheaded
  have honly : (sender.accepted ++ [message]).filter (·.isStart) = [message] := by
    rw [List.filter_append, starts_eq_nil_iff.mpr hfirst]
    simp [hstart]
  have haccepted (compressor : Option Compressor) (streaming : Bool)
      (deferredStart : Option (ℕ × List Header)) (deferredMessage : Option SendMessage) :
      ({ sender with
        responseStarted := true
        status
        streaming
        compressor
        deferredStart
        deferredMessage
        accepted := sender.accepted ++ [message] } : Sender Conn).Headless side := by
    constructor
    case bytes => exact hheadless.bytes
    case order => simp [hheadless.order, hnohint]
    case bodies => simp [hheadless.bodies, hnobody]
    case pending => exact hheadless.pending
    case incomplete => exact hheadless.incomplete
    case closed => exact hheadless.closed
  rw [Sender.start]
  split
  case isTrue hdefers =>
    rw [defers, Bool.and_eq_true, Bool.and_eq_true] at hdefers
    exact (haccepted _ _ _ _).deferred honly rfl rfl hdefers.1.1 rfl
  case isFalse =>
    rcases buildHead_cases env hsends { sender with
        responseStarted := true
        status
        streaming := isStreamingResponse (requestHeaders env headers)
        compressor := sender.declaredCompressor env status (h1.startHeaders env headers) }
      message status (h1.startHeaders env headers) with
      ⟨conn, compressor, hside, hbuilt⟩ | ⟨conn, compressor, bytes, hawaits, hafter, hbuilt⟩
    · rw [hbuilt]
      exact hsound.keep hside (fun hnot => by rw [hdeferred] at hnot; cases hnot) sender.ops status
        _ (fun _ => rfl)
    · rw [hbuilt]
      exact (haccepted none _ sender.deferredStart sender.deferredMessage).head honly hdeferred
        hpaired rfl hafter compressor bytes

/-- A second start that is not deferred is refused. -/
theorem start_refuses (hany : sender.accepted.any (·.isStart) = true)
    (hdeferred : sender.deferredMessage = none) {status : ℕ} {headers : List Header}
    (hdefers : sender.defers env status headers = false) :
    (sender.start h11 env message status headers).sender.Sound side ∧
      sender.Refuses (sender.start h11 env message status headers) := by
  have hheaded : sender.headed = true := by rw [headed, hany, hdeferred]; rfl
  rw [Sender.start, if_neg (Bool.eq_false_iff.mp hdefers)]
  rcases buildHead_cases env hsends { sender with
      responseStarted := true
      status
      streaming := isStreamingResponse (requestHeaders env headers)
      compressor := sender.declaredCompressor env status (h1.startHeaders env headers) }
    message status (h1.startHeaders env headers) with
    ⟨conn, compressor, hside, hbuilt⟩ | ⟨conn, compressor, bytes, hawaits, -, -⟩
  · rw [hbuilt]
    refine ⟨?_, rfl, rfl⟩
    exact hsound.keep hside (fun hnot => by rw [hdeferred] at hnot; cases hnot) sender.ops status
      _ (fun _ => rfl)
  · exact absurd hawaits (hsound.once hheaded)

/-- A deferred head is serialized for the body, or refused with its start. -/
theorem resolveDeferred (env : SendEnv) (body : Bytes) (moreBody : Bool) :
    (sender.resolveDeferred h11 env body moreBody).sender.Sound side ∧
      ((sender.resolveDeferred h11 env body moreBody).raised = false →
        (sender.resolveDeferred h11 env body moreBody).sender.deferredMessage = none ∧
          (sender.resolveDeferred h11 env body moreBody).sender.accepted = sender.accepted ∧
            (sender.resolveDeferred h11 env body moreBody).sender.responseComplete =
              sender.responseComplete) ∧
      (sender.resolveDeferred h11 env body moreBody).sender.writes = sender.writes := by
  have hpaired := hsound.paired
  rw [Sender.resolveDeferred]
  split
  case h_1 status headers start hstart hdeferred =>
    have honly := hsound.only start hdeferred
    have hany : sender.accepted.any (·.isStart) = true := by
      rw [← Bool.not_eq_false, ← starts_eq_nil_iff, honly]
      exact List.cons_ne_nil _ _
    have hheadless := hsound.before (by
      rw [headed, hdeferred, Option.isNone_some, Bool.and_false])
    rcases buildHead_cases env hsends { sender with
        compressor := if shouldCompressBody (if moreBody then none else some body.length)
          env.compressionMinSize then sender.compressor else none
        deferredStart := none
        deferredMessage := none } start status headers with
      ⟨conn, compressor, hside, hbuilt⟩ | ⟨conn, compressor, bytes, -, hafter, hbuilt⟩
    · simp only [hbuilt]
      refine ⟨?_, fun hnot => (by cases hnot), rfl⟩
      have hkept : ({ sender with
          conn
          compressor
          deferredStart := none
          deferredMessage := none
          accepted := sender.accepted.filter (!·.isStart) } : Sender Conn).Headless side := by
        constructor
        case bytes => exact hheadless.bytes
        case order =>
          rw [hheadless.order, List.filter_filter]
          apply List.filter_congr
          intro message _
          cases hinterim : message.isInterim with
          | false => rfl
          | true => rw [(SendMessage.of_isInterim hinterim).1]; rfl
        case bodies =>
          show (sender.accepted.filter (!·.isStart)).filter (·.isBody) = []
          rw [List.filter_comm, hheadless.bodies]
          rfl
        case pending => exact hheadless.pending
        case incomplete => exact hheadless.incomplete
        case closed => exact hside.not_sends hheadless.closed
      apply hkept.sound _ rfl rfl
      rw [List.filter_filter]
      simp
    · simp only [hbuilt]
      refine ⟨?_, fun _ => ⟨rfl, rfl, rfl⟩, rfl⟩
      have hresolved : ({ sender with
          deferredStart := none, deferredMessage := none } : Sender Conn).Headless side :=
        ⟨hheadless.bytes, hheadless.order, hheadless.bodies, hheadless.pending,
          hheadless.incomplete, hheadless.closed⟩
      exact hresolved.head honly rfl rfl (hsound.started hany) hafter compressor bytes
  case h_2 hnone =>
    refine ⟨hsound, fun _ => ⟨?_, rfl, rfl⟩, rfl⟩
    cases hdeferred : sender.deferredMessage with
    | none => exact hdeferred
    | some start =>
        obtain ⟨⟨status, headers⟩, hstart⟩ := Option.isSome_iff_exists.mp
          (hpaired.trans (by rw [hdeferred]; rfl))
        exact absurd hdeferred (hnone status headers start hstart)

end Sound

/-- A piece of the body that was serialized and written. -/
theorem Sound.piece (hsound : sender.Sound side) (hheaded : sender.headed = true)
    (hbody : message.isBody = true) {conn : Conn} (hafter : ¬ (side conn).Awaits)
    {writes : List Bytes} {raw : Bytes}
    (hwrites : writes.flatten = sender.writes.flatten ++ sender.pendingHead ++ raw)
    (ops : List CompressOp) (complete : Bool) (hcomplete : complete = true ↔
      ∃ found ∈ sender.accepted ++ [message], found.isFinal) (bytesSent : ℕ) :
    ({ sender with
      conn
      ops
      writes
      bytesSent
      pendingHead := []
      responseComplete := complete
      pieces := sender.pieces ++ [(message, raw)]
      accepted := sender.accepted ++ [message] } : Sender Conn).Sound side := by
  obtain ⟨hnohint, hnostart⟩ := SendMessage.of_isBody hbody
  have hany : (sender.accepted ++ [message]).any (·.isStart) =
      sender.accepted.any (·.isStart) := by
    simp [hnostart]
  have hstarts : (sender.accepted ++ [message]).filter (·.isStart) =
      sender.accepted.filter (·.isStart) := by
    simp [hnostart]
  constructor
  case toExact =>
    constructor
    case bytes =>
      rw [hwrites, hsound.bytes]
      simp
    case order =>
      rw [List.map_append, hsound.order, hstarts]
      simp [hnohint, hbody]
    case one => exact hstarts ▸ hsound.one
    case complete => exact hcomplete
  case started => exact fun hstart => hsound.started (hany ▸ hstart)
  case paired => exact hsound.paired
  case encoder => exact hsound.encoder
  case only => exact fun found hfound => hstarts.trans (hsound.only found hfound)
  case headless =>
    intro hnot
    rw [headed, hany] at hnot
    exact absurd (hnot.symm.trans hheaded) Bool.false_ne_true
  case once => exact fun _ => hafter

/-- What was serialized for the body is written, and the call ends. -/
theorem Sound.finishBody (hsound : sender.Sound side) (hdeferred : sender.deferredMessage = none)
    (hincomplete : sender.responseComplete = false) {call : SendCall}
    (hbody : call.message.isBody = true) {moreBody : Bool}
    (hfinal : call.message.isFinal = !moreBody)
    (hdrain : moreBody = false → call.drainRaises = false) {conn : Conn} {raw : Bytes}
    (hserialized : (moreBody = true ∧ raw = [] ∧ conn = sender.conn) ∨
      ((side sender.conn).Sends ∧ ¬ (side conn).Awaits))
    {writes : List Bytes}
    (hwrites : writes.flatten = sender.writes.flatten ++ sender.pendingHead ++ raw)
    (ops : List CompressOp) (count : ℕ) :
    ((({ sender with conn, ops, writes, pendingHead := [] }.recordBody call.message raw).finishBody
      call count moreBody).sender.Sound side) := by
  have hunfinished : ¬ ∃ found ∈ sender.accepted, found.isFinal = true := by
    rw [← hsound.complete, hincomplete]
    exact Bool.false_ne_true
  rw [recordBody]
  split
  case isTrue hany =>
    have hheaded : sender.headed = true := by
      rw [headed, show sender.accepted.any _ = true from hany, hdeferred]
      rfl
    have hafter : ¬ (side conn).Awaits := by
      rcases hserialized with ⟨-, -, rfl⟩ | ⟨-, hafter⟩
      · exact hsound.once hheaded
      · exact hafter
    have hends : (∃ found ∈ sender.accepted ++ [call.message], found.isFinal = true) ↔
        moreBody = false := by
      constructor
      · rintro ⟨found, hfound, hended⟩
        rcases List.mem_append.mp hfound with hold | hnew
        · exact absurd ⟨found, hold, hended⟩ hunfinished
        · rw [List.mem_singleton.mp hnew, hfinal] at hended
          simpa using hended
      · intro hlast
        exact ⟨call.message, List.mem_append_right _ (List.mem_singleton_self _),
          by rw [hfinal, hlast]; rfl⟩
    rw [Sender.finishBody]
    split
    case isTrue hraises =>
      have hmore : moreBody ≠ false := fun hlast => by
        rw [hdrain hlast] at hraises
        cases hraises
      refine hsound.piece hheaded hbody hafter hwrites ops sender.responseComplete ?_
        sender.bytesSent
      rw [hends, hincomplete]
      exact ⟨fun hnot => (by cases hnot), fun hlast => absurd hlast hmore⟩
    case isFalse =>
      refine hsound.piece hheaded hbody hafter hwrites ops _ ?_ _
      rw [hends]
      show (sender.responseComplete || !moreBody) = true ↔ _
      rw [hincomplete, Bool.false_or, Bool.not_eq_true']
  case isFalse hnone =>
    have hfalse : sender.accepted.any (·.isStart) = false := Bool.eq_false_iff.mpr hnone
    have hheaded : sender.headed = false := by rw [headed, hfalse, Bool.false_and]
    have hheadless := hsound.before hheaded
    have hnothing : moreBody = true ∧ raw = [] ∧ conn = sender.conn :=
      hserialized.resolve_right fun hsends => hheadless.closed hsends.1
    obtain ⟨rfl, rfl, rfl⟩ := hnothing
    have hflushed (bytesSent : ℕ) (complete : Bool) (hcomplete : complete = false) :
        ({ sender with
          ops
          writes
          bytesSent
          pendingHead := []
          responseComplete := complete } : Sender Conn).Sound side := by
      have hempty : ({ sender with
          ops
          writes
          bytesSent
          pendingHead := []
          responseComplete := complete } : Sender Conn).Headless side := by
        constructor
        case bytes =>
          show writes.flatten = _
          rw [hwrites, hheadless.pending, hheadless.bytes]
          simp
        case order => exact hheadless.order
        case bodies => exact hheadless.bodies
        case pending => rfl
        case incomplete => exact hcomplete
        case closed => exact hheadless.closed
      exact hempty.sound (starts_eq_nil_iff.mpr hfalse) hdeferred (hsound.deferred_none hfalse).2
    rw [Sender.finishBody]
    split
    case isTrue => exact hflushed sender.bytesSent sender.responseComplete hincomplete
    case isFalse =>
      apply hflushed
      show (sender.responseComplete || !true) = false
      rw [hincomplete]
      rfl

/-- What a call about the body keeps, and what it is answered with. -/
structure Handled (side : Conn → ServerSide) (sender : Sender Conn) (call : SendCall)
    (outcome : SendOutcome Conn) : Prop where
  sound : outcome.sender.Sound side
  kept : outcome.raised = false → call.closing = false → sender.accepted.any (·.isStart) →
    outcome.sender.accepted = sender.accepted ++ [call.message]
  flushed : outcome.raised = false → call.closing = false → outcome.sender.pendingHead = []

/-- A call that raises an error has only to leave the sender sound. -/
theorem Handled.fails {call : SendCall} {next : Sender Conn} (hsound : next.Sound side) :
    Handled side sender call next.fails :=
  ⟨hsound, fun hnot => (by cases hnot), fun hnot => (by cases hnot)⟩

/-- While the writer is closing the message is dropped. -/
theorem Handled.closing {call : SendCall} (hclosing : call.closing = true)
    (hsound : sender.Sound side) : Handled side sender call sender.returns :=
  ⟨hsound, fun _ hnot => absurd (hnot.symm.trans hclosing) Bool.false_ne_true,
    fun _ hnot => absurd (hnot.symm.trans hclosing) Bool.false_ne_true⟩

/-- A call about the body that is handled is answered as it should be. -/
theorem Handled.answers {call : SendCall} {outcome : SendOutcome Conn}
    (hhandled : Handled side sender call outcome) (hbody : call.message.isBody = true)
    (hrefuses : sender.responseStarted = false ∨ sender.responseComplete = true →
      sender.Refuses outcome) : sender.Answers call outcome := by
  constructor
  case second =>
    intro hstart
    exact absurd ((SendMessage.of_isBody hbody).2.symm.trans hstart) Bool.false_ne_true
  case before => exact fun _ hunstarted => hrefuses (.inl hunstarted)
  case after => exact fun _ hcomplete => hrefuses (.inr hcomplete)
  case kept => exact fun hraised hopen hany => hhandled.kept hraised hopen (hany hbody)
  case flushed => exact fun _ => hhandled.flushed

/-- A hint that is not refused is accepted. -/
theorem hint_kept {headers : List Header}
    (hraised : (sender.hint h11 message headers).raised = false) :
    (sender.hint h11 message headers).sender.accepted = sender.accepted ++ [message] := by
  rw [Sender.hint] at hraised ⊢
  rcases hsend : H1Protocol.sendInformational h11 sender.conn 103 (sanitizeHeaders headers)
    with ⟨sent, conn⟩
  rw [hsend] at hraised
  cases sent with
  | none => cases hraised
  | some bytes => rfl

/-- Making a head accepts nothing. -/
theorem buildHead_accepted {status : ℕ} {headers : List Header} :
    (sender.buildHead h11 env message status headers).sender.accepted = sender.accepted := by
  rw [Sender.buildHead]
  split
  · rfl
  · rfl

/-- A start that is not refused is accepted. -/
theorem start_kept {status : ℕ} {headers : List Header}
    (hraised : (sender.start h11 env message status headers).raised = false) :
    (sender.start h11 env message status headers).sender.accepted =
      sender.accepted ++ [message] := by
  rw [Sender.start] at hraised ⊢
  simp only at hraised ⊢
  by_cases hdefers : sender.defers env status headers = true
  · rw [if_pos hdefers]
    rfl
  · rw [if_neg hdefers] at hraised ⊢
    split at hraised
    case isTrue hfails => exact absurd (hraised.symm.trans hfails) Bool.false_ne_true
    case isFalse hbuilt =>
      rw [if_neg hbuilt]
      show (Sender.buildHead h11 env _ message status _).sender.accepted ++ [message] = _
      rw [buildHead_accepted]

/-- What the end of a call returns. -/
theorem finishBody_returns {call : SendCall} {raw : Bytes} {count : ℕ} {moreBody : Bool} :
    (((sender.recordBody call.message raw).finishBody call count moreBody).raised = false →
        sender.accepted.any (·.isStart) →
          ((sender.recordBody call.message raw).finishBody call count moreBody).sender.accepted =
            sender.accepted ++ [call.message]) ∧
      ((sender.recordBody call.message raw).finishBody call count
        moreBody).sender.pendingHead = sender.pendingHead := by
  constructor
  · intro _ hany
    rw [recordBody, if_pos hany, finishBody]
    split
    · rfl
    · rfl
  · rw [finishBody, recordBody]
    split <;> split <;> rfl

namespace Sound

variable {call : SendCall} (hsound : sender.Sound side) (hsends : h11.SendsAs rules side)
include hsound hsends

/-- A piece of the body is written, or refused. -/
theorem writeBody (hdeferred : sender.deferredMessage = none)
    (hincomplete : sender.responseComplete = false) {moreBody : Bool}
    (hbody : call.message.isBody = true)
    (hfinal : call.message.isFinal = !moreBody)
    (hdrain : moreBody = false → call.drainRaises = false) (data : Bytes) :
    Handled side sender call (sender.writeBody h11 call data moreBody) := by
  rw [Sender.writeBody]
  split
  case h_1 conn hsend =>
    have hdone := (hsends.sendBody_cases hsend).1 rfl
    apply Handled.fails
    exact hsound.keep (.inr hdone) hsound.encoder _ sender.status sender.streaming id
  case h_2 raw conn hsend =>
    have hserialized : (moreBody = true ∧ raw = [] ∧ conn = sender.conn) ∨
        ((side sender.conn).Sends ∧ ¬ (side conn).Awaits) := by
      refine ((hsends.sendBody_cases hsend).2 rfl).imp_left ?_
      rintro ⟨hmore, hempty, hsame⟩
      exact ⟨hmore, Option.some.inj hempty, hsame⟩
    have hwrites : (sender.writes ++ coalesce sender.pendingHead raw).flatten =
        sender.writes.flatten ++ sender.pendingHead ++ raw := by
      rw [List.flatten_append, flatten_coalesce, List.append_assoc]
    constructor
    case sound =>
      exact hsound.finishBody hdeferred hincomplete hbody hfinal hdrain hserialized hwrites _ _
    case kept => exact fun hraised _ hany => finishBody_returns.1 hraised hany
    case flushed => exact fun _ _ => finishBody_returns.2

/-- A body message, between the start and the end. -/
theorem body {body : Bytes} {moreBody : Bool}
    (hmessage : call.message = .responseBody body moreBody)
    (hdrain : moreBody = false → call.drainRaises = false) :
    Handled side sender call (sender.body h11 env call body moreBody) := by
  have hbody : call.message.isBody = true := by rw [hmessage]; rfl
  have hfinal : call.message.isFinal = !moreBody := by rw [hmessage]; rfl
  rw [Sender.body]
  split
  case isTrue => exact .fails hsound
  case isFalse hopen =>
    split
    case isTrue hclosing => exact .closing hclosing hsound
    case isFalse =>
      have hincomplete : sender.responseComplete = false := by
        rw [Bool.or_eq_true, not_or] at hopen
        exact Bool.eq_false_iff.mpr hopen.2
      simp only
      generalize (if env.requestMethod = ascii "HEAD" then [] else body) = data
      obtain ⟨hresolved, hnext, -⟩ := hsound.resolveDeferred hsends env data moreBody
      split
      case isTrue hraised =>
        exact ⟨hresolved, fun hnot => absurd (hnot.symm.trans hraised) Bool.false_ne_true,
          fun hnot => absurd (hnot.symm.trans hraised) Bool.false_ne_true⟩
      case isFalse hraised =>
        obtain ⟨hdeferred, haccepted, hcomplete⟩ := hnext (Bool.eq_false_iff.mpr hraised)
        obtain ⟨hwritten, hkept, hflushed⟩ := hresolved.writeBody hsends hdeferred
          (hcomplete.trans hincomplete) hbody hfinal hdrain data
        exact ⟨hwritten, haccepted ▸ hkept, hflushed⟩

/-- A part of a file, between the start and the end. -/
theorem sendfile {content : Bytes} {offset count : ℕ} {moreBody : Bool}
    (hmessage : call.message = .responseSendfile content offset count moreBody)
    (hdrain : moreBody = false → call.drainRaises = false)
    (hwhole : count = 0 ∨ (call.transfer = .whole ∧ offset + count ≤ content.length)) :
    Handled side sender call (sender.sendfile h11 passthrough sendfileAvailable call content offset
      count moreBody) := by
  have hbody : call.message.isBody = true := by rw [hmessage]; rfl
  have hfinal : call.message.isFinal = !moreBody := by rw [hmessage]; rfl
  have hlength : ((content.drop offset).take count).length = count := by
    rw [List.length_take, List.length_drop]
    omega
  have htransfer : (if count = 0 then FileTransfer.whole else call.transfer) = .whole := by
    split
    case isTrue => rfl
    case isFalse hne => exact (hwhole.resolve_left hne).1
  rw [Sender.sendfile]
  split
  case isTrue => exact .fails hsound
  case isFalse hopen =>
    split
    case isTrue hclosing => exact .closing hclosing hsound
    case isFalse =>
      split
      case isTrue => exact .fails hsound
      case isFalse hplain =>
        rw [Bool.or_eq_true, not_or] at hopen hplain
        have hincomplete : sender.responseComplete = false := Bool.eq_false_iff.mpr hopen.2
        have hdeferred : sender.deferredMessage = none :=
          Option.not_isSome_iff_eq_none.mp fun hsome => hplain.1 (hsound.encoder hsome)
        have hparts := sendBody_of_parts passthrough sender ((content.drop offset).take count)
          moreBody
        rw [hlength] at hparts
        split
        case h_1 conn hrefused =>
          rw [hrefused] at hparts
          exact .fails (hsound.refused (.inr ((hsends.sendBody_cases hparts).1 rfl)))
        case h_2 framing conn hframed =>
          rw [hframed] at hparts
          simp only [htransfer]
          have hserialized : (moreBody = true ∧
              framing.1 ++ (content.drop offset).take count ++ framing.2.flatten = [] ∧
                conn = sender.conn) ∨ ((side sender.conn).Sends ∧ ¬ (side conn).Awaits) := by
            refine ((hsends.sendBody_cases hparts).2 rfl).imp_left ?_
            rintro ⟨hmore, hempty, hsame⟩
            exact ⟨hmore, Option.some.inj hempty, hsame⟩
          have hwrites : (sender.writes ++ [sender.pendingHead, framing.1].filter (· ≠ []) ++
              ((content.drop offset).take count :: framing.2).filter (· ≠ [])).flatten =
                sender.writes.flatten ++ sender.pendingHead ++
                  (framing.1 ++ (content.drop offset).take count ++ framing.2.flatten) := by
            simp only [List.flatten_append, List.flatten_filter_ne_nil]
            simp
          split
          case isTrue hraised => exact absurd hraised Bool.false_ne_true
          case isFalse =>
            constructor
            case sound =>
              exact hsound.finishBody hdeferred hincomplete hbody hfinal hdrain hserialized hwrites
                sender.ops count
            case kept => exact fun hraised _ hany => finishBody_returns.1 hraised hany
            case flushed => exact fun _ _ => finishBody_returns.2

/-- Every call that goes well leaves the sender sound and is answered as it should be. -/
theorem send (hready : sender.plain env call = true) :
    (sender.send h11 passthrough env sendfileAvailable call).sender.Sound side ∧
      sender.Answers call (sender.send h11 passthrough env sendfileAvailable call) := by
  rw [Sender.send]
  rw [plain] at hready
  split
  case h_1 status headers hmessage =>
    rw [hmessage] at hready
    split
    case isTrue hhint =>
      have hinterim : call.message.isInterim = true := by
        rw [hmessage]
        exact decide_eq_true hhint
      obtain ⟨hnostart, hnobody, -⟩ := SendMessage.of_isInterim hinterim
      refine ⟨hsound.hint hsends hinterim headers, ?_⟩
      constructor
      case second => exact fun hnot => absurd (hnostart.symm.trans hnot) Bool.false_ne_true
      case before => exact fun hnot => absurd (hnobody.symm.trans hnot) Bool.false_ne_true
      case after => exact fun hnot => absurd (hnobody.symm.trans hnot) Bool.false_ne_true
      case kept => exact fun hraised _ _ => hint_kept hraised
      case flushed => exact fun hnot => absurd (hnobody.symm.trans hnot) Bool.false_ne_true
    case isFalse hfinal =>
      have hstart : call.message.isStart = true := by
        rw [hmessage]
        exact decide_eq_true hfinal
      obtain ⟨-, hnobody, -⟩ := SendMessage.of_isStart hstart
      have hanswers (hsecond : sender.accepted.any (·.isStart) = true →
          sender.Refuses (sender.start h11 env call.message status headers)) :
          sender.Answers call (sender.start h11 env call.message status headers) := by
        constructor
        case second => exact fun _ hany => hsecond hany
        case before => exact fun hnot => absurd (hnobody.symm.trans hnot) Bool.false_ne_true
        case after => exact fun hnot => absurd (hnobody.symm.trans hnot) Bool.false_ne_true
        case kept => exact fun hraised _ _ => start_kept hraised
        case flushed => exact fun hnot => absurd (hnobody.symm.trans hnot) Bool.false_ne_true
      cases hany : sender.accepted.any (·.isStart) with
      | false =>
          refine ⟨hsound.start hsends hstart hany status headers, hanswers fun hnot => ?_⟩
          exact absurd (hany.symm.trans hnot) Bool.false_ne_true
      | true =>
          simp only [hfinal, hany, decide_false, Bool.not_true, Bool.false_or, Bool.and_eq_true,
            Option.isNone_iff_eq_none, Bool.not_eq_true'] at hready
          have hrefused : (sender.start h11 env call.message status headers).sender.Sound side ∧
              sender.Refuses (sender.start h11 env call.message status headers) :=
            hsound.start_refuses hsends hany hready.1 hready.2
          exact ⟨hrefused.1, hanswers fun _ => hrefused.2⟩
  case h_2 body moreBody hmessage =>
    rw [hmessage] at hready
    have hdrain : moreBody = false → call.drainRaises = false := by
      intro hlast
      simpa [hlast] using hready
    have hhandled : Handled side sender call (sender.body h11 env call body moreBody) :=
      hsound.body hsends hmessage hdrain
    refine ⟨hhandled.sound, hhandled.answers (by rw [hmessage]; rfl) ?_⟩
    intro hrefuses
    rw [Sender.body, if_pos (by rcases hrefuses with h | h <;> simp [h])]
    exact ⟨rfl, rfl⟩
  case h_3 content offset count moreBody hmessage =>
    rw [hmessage] at hready
    simp only [Bool.and_eq_true, Bool.or_eq_true, decide_eq_true_eq, Bool.not_eq_true'] at hready
    obtain ⟨hdrain, hwhole⟩ := hready
    have hhandled : Handled side sender call (sender.sendfile h11 passthrough sendfileAvailable
        call content offset count moreBody) := by
      apply hsound.sendfile hsends hmessage _ hwhole
      intro hlast
      exact hdrain.resolve_left (by rw [hlast]; exact Bool.false_ne_true)
    refine ⟨hhandled.sound, hhandled.answers (by rw [hmessage]; rfl) ?_⟩
    intro hrefuses
    rw [Sender.sendfile, if_pos (by rcases hrefuses with h | h <;> simp [h])]
    exact ⟨rfl, rfl⟩

end Sound

end Sender

/-! ## All runs -/

/-- What a connection waits with for a response. -/
def ready (side : Conn → ServerSide) (conn : Conn) : Prop :=
  ∃ peer, side conn = .awaiting (some peer)

/-- The strict machine frames data it does not see as it frames data. -/
def strictPassthrough : H11Passthrough strictH11 where
  sendData side count :=
    match side with
    | .sendBody (.length left) =>
        if count ≤ left then (some ([], []), .sendBody (.length (left - count)))
        else (none, .done)
    | .sendBody .chunked =>
        (some (if count = 0 then ([], []) else (hexOf count ++ crlf, crlf)), side)
    | .sendBody .close => (some ([], []), side)
    | _ => (none, .done)
  lawful side data := by
    cases side with
    | awaiting peer => rfl
    | done => rfl
    | sendBody delimiting =>
        cases delimiting with
        | length left =>
            by_cases hfits : data.length ≤ left
            · simp [strictH11, ServerSide.send, render, hfits]
            · simp [strictH11, ServerSide.send, hfits]
        | chunked =>
            by_cases hdata : data = []
            · simp [strictH11, ServerSide.send, hdata]
            · simp [strictH11, ServerSide.send, render, hdata]
        | close => simp [strictH11, ServerSide.send, render]

/-- A client that accepts gzip. -/
def gzipClient : SendEnv := { requestMethod := ascii "GET", compressor := some gzipOfRun }

/-- Its request has been received. -/
def awaitingGet : ServerSide :=
  .awaiting (some { method := ascii "GET", http11 := true, keepAlive := true })

/-- A sender for it. -/
def gzipSender : Sender ServerSide := { conn := awaitingGet, compressor := some gzipOfRun }

/-- A hint, a head that is deferred, and a body that settles it. -/
def hintedResponse : List SendCall :=
  [{ message := .responseStart 103 [(ascii "link", ascii "/a.css")] },
    { message := .responseStart 200 [(ascii "content-type", ascii "text/plain")] },
    { message := .responseBody (ascii "o") true },
    { message := .responseBody (ascii "k") false }]

/-- The machine of these senders. -/
def gzipMachine : Machine (Sender ServerSide) SendCall :=
  sendMachine strictH11 strictPassthrough (ready fun side => side) gzipClient true

theorem gzipSender_init : gzipMachine.init gzipSender :=
  ⟨awaitingGet, ⟨_, rfl⟩, rfl⟩

/-- The head waits for the body, and the application changes its mind. -/
def deferredStart : SendCall := { message := .responseStart 200 [] }

/-- A second start. -/
def secondStart : SendCall := { message := .responseStart 404 [] }

end Asgi

end Pounce
