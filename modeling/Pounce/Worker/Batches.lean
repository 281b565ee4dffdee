/-
# The events of one message

What h11 reports of a message in one read are its request and a part of its body, or more of the
body. This module says what the connection makes of them: the loop serves the request, by the
application or by a built-in endpoint, the application is set up with what has been read of the
body, and there is a reader if and only if some of it is left. With both sides done the loop goes
on with the next message.
-/

import Pounce.Protocols.H11Reading
import Pounce.Worker.Body

namespace Pounce.Worker

open Pounce.Math Pounce.Math.Bytes Pounce.Asgi Pounce.H1Protocol
open Pounce.H11 (Place BodyDrained)

universe u

variable {Conn : Type u} {env : Env Conn} {reading : env.h11.Reading}

/-! ## The events of a body -/

/-- The events are of a body. -/
def OfBody (events : List ProtocolEvent) : Prop :=
  ∀ event ∈ events, ∃ body, event = .bodyReceived body

theorem OfBody.tail {event : ProtocolEvent} {events : List ProtocolEvent}
    (hbody : OfBody (event :: events)) : OfBody events :=
  fun _ hmem => hbody _ (List.mem_cons_of_mem event hmem)

variable (env) in
/-- The loop passes over them. -/
theorem processEvents_ofBody {events : List ProtocolEvent} (hbody : OfBody events) (conn : Conn)
    (count : ℕ) : processEvents env conn count events = .done conn count := by
  induction events with
  | nil => rfl
  | cons event events ih =>
      obtain ⟨body, rfl⟩ := hbody event List.mem_cons_self
      exact ih hbody.tail

/-- They are all taken along with their request. -/
theorem initialBody_ofBody {events : List ProtocolEvent} (hbody : OfBody events) :
    initialBody events = bodyEventsOf events := by
  induction events with
  | nil => rfl
  | cons event events ih =>
      obtain ⟨body, rfl⟩ := hbody event List.mem_cons_self
      exact congrArg (body :: ·) (ih hbody.tail)

/-- There is no request among them. -/
theorem requestsOf_ofBody {events : List ProtocolEvent} (hbody : OfBody events) :
    requestsOf events = [] := by
  rw [requestsOf, List.filterMap_eq_nil_iff]
  intro event hmem
  obtain ⟨body, rfl⟩ := hbody event hmem
  rfl

section

variable {left content buffer buffer' : Bytes} {events : List H11Event} {place : Place}

theorem ofBody_drained (hdrained : BodyDrained left content buffer events place buffer') :
    OfBody (events.map translate) := by
  have hpieces : ∀ pieces : List Bytes, OfBody ((pieces.map H11Event.data).map translate) := by
    intro pieces event hmem
    rw [List.map_map] at hmem
    obtain ⟨data, -, rfl⟩ := List.mem_map.mp hmem
    exact ⟨_, rfl⟩
  cases hdrained with
  | complete pieces =>
      intro event hmem
      rw [List.map_append] at hmem
      rcases List.mem_append.mp hmem with hpiece | hlast
      · exact hpieces pieces event hpiece
      · exact ⟨_, List.mem_singleton.mp hlast⟩
  | short pieces => exact hpieces pieces

/-- The data of the pieces is reported. -/
theorem reportedData_pieces (pieces : List Bytes) :
    reportedData (pieces.map .data) = pieces.flatten := by
  induction pieces with
  | nil => rfl
  | cons piece pieces ih => exact congrArg (piece ++ ·) ih

/-- What has been drained and what is left make the content. -/
theorem content_drained (hdrained : BodyDrained left content buffer events place buffer') :
    reportedData events ++ place.content = content := by
  cases hdrained with
  | complete pieces hbuffer hcontent =>
      rw [reportedData_append, reportedData_pieces, hcontent]
      simp [reportedData, Place.content]
  | short pieces eaten hleft hbuffer hcontent => rw [reportedData_pieces, hcontent, Place.content]

/-- Pieces of data leave the body open. -/
theorem more_pieces (pieces : List Bytes) :
    ∀ event ∈ (pieces.map H11Event.data).map translate, isFinal event = false := by
  intro event hmem
  rw [List.map_map] at hmem
  obtain ⟨data, -, rfl⟩ := List.mem_map.mp hmem
  rfl

/-- The end of the body comes last. -/
theorem tidy_drained (hdrained : BodyDrained left content buffer events place buffer') :
    Tidy (events.map translate) := by
  have hpieces : ∀ pieces : List Bytes, Tidy ((pieces.map H11Event.data).map translate) := by
    intro pieces
    apply List.pairwise_of_forall_mem_list
    exact fun event hmem _ _ => more_pieces pieces event hmem
  cases hdrained with
  | complete pieces =>
      rw [List.map_append]
      apply List.pairwise_append.mpr
      refine ⟨hpieces pieces, List.pairwise_singleton _ _, ?_⟩
      exact fun event hmem _ _ => more_pieces pieces event hmem
  | short pieces => exact hpieces pieces

/-- The end of the body is among the events if the body has been read to its end. -/
theorem any_drained (hdrained : BodyDrained left content buffer events place buffer') :
    (bodyEventsOf (events.map translate)).any (! ·.more) = decide (place = .ended) := by
  have hpieces : ∀ pieces : List Bytes,
      (bodyEventsOf ((pieces.map H11Event.data).map translate)).any (! ·.more) = false := by
    intro pieces
    induction pieces with
    | nil => rfl
    | cons piece pieces ih => exact ih
  cases hdrained with
  | complete pieces =>
      rw [List.map_append, bodyEventsOf, List.filterMap_append, List.any_append]
      exact Bool.or_true _
  | short pieces => exact hpieces pieces

end

/-! ## A request -/

section

variable (env)

/-- The worker takes the message for a request, and serving it leaves the connection open: it is
within the limit and does not ask for a WebSocket. A body on the wire is announced by the head. -/
structure Servable (message : ClientMessage) : Prop where
  notUpgrade : isWebsocketUpgrade message.request = false
  declared_le : ∀ length, declaredContentLength message.request.headers = some length →
    length ≤ env.config.maxRequestSize
  content_le : message.content.length ≤ env.config.maxRequestSize
  expected : message.wire ≠ [] → requestBodyExpected message.request.headers = true

/-- The response of a built-in endpoint is complete and leaves the connection open. -/
structure AnswersEndpoints (reading : env.h11.Reading) : Prop where
  persistent : ∀ request sends, env.builtin request = some sends →
    ∀ event ∈ sends, H11.persistent event
  complete : ∀ request sends, env.builtin request = some sends →
    ∀ conn place buffer, reading.At conn place buffer → place ≠ .head → reading.unanswered conn →
      ∃ bytes next, sendAll env.h11 conn sends = (some bytes, next) ∧ reading.responded next

end

/-- The companion is reading the body. -/
def Companion.reads : Companion → Bool
  | .reader _ => true
  | _ => false

/-- How the companion goes with what h11 has read of the body. -/
def Companion.Matches (limit : ℕ) (companion : Companion) : Place → Prop
  | .head => False
  | .body _ content => ∃ total, companion = .reader total ∧ total + content.length ≤ limit
  | .ended => companion.reads = false

theorem Companion.Matches.ne_head {limit : ℕ} {companion : Companion} {place : Place}
    (hmatches : companion.Matches limit place) : place ≠ .head := by
  rintro rfl
  exact hmatches

/-- A companion that is not the reader goes with a body that has been read. -/
theorem Companion.Matches.ended {limit : ℕ} {companion : Companion} {place : Place}
    (hmatches : companion.Matches limit place) (hreads : companion.reads = false) :
    place = .ended := by
  cases place with
  | head => exact hmatches.elim
  | body left content =>
      obtain ⟨total, rfl, -⟩ := hmatches
      cases hreads
  | ended => rfl

section

variable {message : ClientMessage} {buffer buffer' : Bytes} {events : List H11Event}
  {place : Place}

/-- The body of a message that has been read so far is within the limit. -/
theorem Servable.withinLimit (hservable : Servable env message)
    (hdrained : BodyDrained message.wire message.content buffer events place buffer') :
    bodyExceedsLimit env message.request (initialBody (events.map translate)) = false := by
  have hlength := congrArg List.length (content_drained hdrained)
  rw [List.length_append] at hlength
  have hcontent := hservable.content_le
  rw [initialBody_ofBody (ofBody_drained hdrained), bodyExceedsLimit, Bool.or_eq_false_iff]
  constructor
  · rw [Option.any_eq_false]
    intro length hdeclared
    exact decide_eq_false (Int.not_lt.mpr (hservable.declared_le length hdeclared))
  · apply decide_eq_false
    rw [foldl_length, bodyData_translate]
    omega

/-- The application is set up with what has been read of the body, and with a reader for the
rest. -/
theorem Servable.serve (hservable : Servable env message)
    (hdrained : BodyDrained message.wire message.content buffer events place buffer') :
    let serving := Worker.serve message.request (initialBody (events.map translate))
    serving.request = message.request ∧
      reportedData serving.reported ++ place.content = message.content ∧
        serving.companion.Matches env.config.maxRequestSize place := by
  have hwithin : 0 + place.content.length ≤ env.config.maxRequestSize := by
    have hlength := congrArg List.length (content_drained hdrained)
    have hcontent := hservable.content_le
    rw [List.length_append] at hlength
    omega
  have hfinal := any_drained hdrained
  rw [initialBody_ofBody (ofBody_drained hdrained)]
  have hdata := bodyData_translate events
  generalize bodyEventsOf (events.map translate) = body at *
  unfold Worker.serve
  split
  case isTrue hbody =>
    refine ⟨rfl, ?_, ?_⟩
    · change reportedData (reportedBody body) ++ place.content = message.content
      rw [reportedData_reportedBody, hdata]
      exact content_drained hdrained
    · change Companion.Matches _ (if body.any (! ·.more) then .monitor else .reader 0) place
      rw [hfinal]
      cases hdrained with
      | complete => rfl
      | short => exact ⟨0, rfl, hwithin⟩
  case isFalse hbody =>
    obtain rfl : body = [] := not_not.mp hbody
    -- nothing has come of a body, so there is one to come
    have hopen : place ≠ .ended := by
      intro hended
      simp [hended] at hfinal
    have hwire : message.wire ≠ [] := by
      intro hwire
      apply hopen
      apply hdrained.ended
      rw [hwire]
      exact List.nil_prefix
    rw [if_pos (hservable.expected hwire)]
    have hcontent := content_drained hdrained
    rw [← hdata] at hcontent
    refine ⟨rfl, hcontent, ?_⟩
    cases hdrained with
    | complete => exact absurd rfl hopen
    | short => exact ⟨0, rfl, hwithin⟩

/-- An endpoint's response does not concern the reading. -/
theorem AnswersEndpoints.sendAll (hendpoints : AnswersEndpoints env reading)
    {request : RequestReceived} {sends : List H11Send} (hbuiltin : env.builtin request = some sends)
    {conn : Conn} (hat : reading.At conn place buffer) (hplace : place ≠ .head)
    (hunanswered : reading.unanswered conn) :
    ∃ bytes next, H1Protocol.sendAll env.h11 conn sends = (some bytes, next) ∧
      reading.At next place buffer ∧ reading.responded next := by
  obtain ⟨bytes, next, hsends, hresponded⟩ :=
    hendpoints.complete request sends hbuiltin conn place buffer hat hplace hunanswered
  refine ⟨bytes, next, hsends, ?_, hresponded⟩
  have hpersistent := hendpoints.persistent request sends hbuiltin
  clear hbuiltin hunanswered hresponded
  induction sends generalizing conn bytes with
  | nil =>
      obtain ⟨-, rfl⟩ := Prod.mk.inj hsends
      exact hat
  | cons event sends ih =>
      rw [H1Protocol.sendAll] at hsends
      split at hsends
      case h_1 => cases hsends
      case h_2 first after hfirst =>
        obtain ⟨hbytes, hnext⟩ := Prod.mk.inj hsends
        obtain ⟨rest, hrest, -⟩ := Option.map_eq_some_iff.mp hbytes
        apply ih _ rest (Prod.ext hrest hnext)
          (fun event hmem => hpersistent event (List.mem_cons_of_mem _ hmem))
        exact reading.at_send conn place buffer event first after hat hplace
          (hpersistent event List.mem_cons_self) hfirst

/-- A request of which the head has been read is served by the application, or by an endpoint. -/
theorem processEvents_request (hendpoints : AnswersEndpoints env reading)
    (hservable : Servable env message)
    (hdrained : BodyDrained message.wire message.content buffer events place buffer')
    {conn : Conn} (hat : reading.At conn place buffer') (hunanswered : reading.unanswered conn)
    (count : ℕ) :
    let progress := processEvents env conn count
      (.requestReceived message.request :: events.map translate)
    (env.builtin message.request = none ∧ ∃ next, reading.At next place buffer' ∧
      progress = .serving next (count + 1)
        (Worker.serve message.request (initialBody (events.map translate)))
        (events.map translate)) ∨
    ((env.builtin message.request).isSome ∧ ∃ next, reading.At next place buffer' ∧
      reading.responded next ∧ progress = .done next (count + 1)) := by
  have hlimit := hservable.withinLimit hdrained
  have hplace := hdrained.place_ne_head
  rw [processEvents, if_neg (by simp [hservable.notUpgrade]), if_neg (by simp [hlimit])]
  cases hbuiltin : env.builtin message.request with
  | some sends =>
      obtain ⟨bytes, next, hsends, hafter, hresponded⟩ :=
        hendpoints.sendAll hbuiltin hat hplace hunanswered
      refine .inr ⟨rfl, next, hafter, hresponded, ?_⟩
      dsimp only
      rw [hsends]
      exact processEvents_ofBody env (ofBody_drained hdrained) next (count + 1)
  | none =>
      refine .inl ⟨rfl, ?_⟩
      dsimp only
      split
      case isTrue hwaits =>
        obtain ⟨bytes, hbytes⟩ :=
          Option.isSome_iff_exists.mp (reading.continues conn hwaits hunanswered)
        have hsend : env.h11.send conn (.informational 100 []) =
            (some bytes, (env.h11.send conn (.informational 100 [])).2) := Prod.ext hbytes rfl
        refine ⟨_, reading.at_send conn place buffer' _ bytes _ hat hplace rfl hsend, ?_⟩
        rw [hsend]
      case isFalse => exact ⟨conn, hat, rfl⟩

end

/-- With both sides done the loop goes on with the next message. -/
theorem nextCycle_done {state next : State Conn} {buffer : Bytes}
    (hcycle : nextCycle env state = next) (hdraining : state.draining = false)
    (hcount : 0 < env.config.maxRequestsPerConnection →
      state.requestCount < env.config.maxRequestsPerConnection)
    (hat : reading.At state.conn .ended buffer) (hresponded : reading.responded state.conn) :
    ∃ conn, next = { state with phase := .reading, conn } ∧ reading.At conn .head buffer := by
  obtain ⟨conn, hstart, hhead⟩ := reading.at_startNextCycle state.conn buffer hat hresponded
  refine ⟨conn, ?_, hhead⟩
  rw [← hcycle, nextCycle, if_neg (by simp [hdraining]), if_neg, hstart]
  rintro ⟨hpos, hreached⟩
  exact absurd (hcount hpos) (not_lt.mpr hreached)

/-- What is drained after a read is what the handler returns. -/
theorem receiveData_drained {h11 : H11 Conn} {conn next : Conn} {data : Bytes}
    {events : List H11Event}
    (hdrain : h11.drain (h11.receiveData conn data) = { events, rejected := none, conn := next }) :
    receiveData h11 conn data = (.ok (events.map translate), next) := by
  rw [receiveData, hdrain]

/-- A read that brings a request is recorded, and its events are gone through. -/
theorem readData_request {state : State Conn} {conn : Conn} {data : Bytes}
    {request : RequestReceived} {events : List H11Event} (hbody : OfBody (events.map translate))
    (hdrain : env.h11.drain (env.h11.receiveData state.conn data) =
      { events := .request request :: events, rejected := none, conn }) :
    readData env state data = advance env { state with
      conn
      taken := state.taken ++ data
      fed := state.fed ++ data
      parsed := state.parsed ++ [⟨request, state.taken ++ data, state.fed ++ data⟩] }
        (.requestReceived request :: events.map translate) := by
  have hrequests : requestsOf (.requestReceived request :: events.map translate) = [request] :=
    congrArg (request :: ·) (requestsOf_ofBody hbody)
  rw [readData, receiveData_drained hdrain, List.map_cons, H1Protocol.translate]
  dsimp only
  rw [hrequests]
  rfl

end Pounce.Worker
