/-
# What h11 reads

A client sends its messages back to back, and h11 is fed whatever part of them a read has
brought. This module states what h11 documents about that: where in the stream the client side of
a connection stands, and what `next_event` answers there. It reports a request once its head is in
the buffer, data as it comes, the end of the message once all of it is there, and behind that
nothing until the next cycle is started.

The messages are those of one grammar, which is a parameter: of a message only its head and its
body on the wire matter, the request it stands for and the data in its body. `drain_head` and
`drain_body` say what the handler gets out of one read, however the stream was cut.
-/

import Mathlib.Data.List.Infix
import Pounce.Protocols.H1

namespace Pounce

open Pounce.Math

universe u

/-! ## The stream -/

/-- A message as a client sends it. -/
structure ClientMessage where
  request : RequestReceived
  /-- The head on the wire, with its blank line. -/
  head : Bytes
  /-- The body on the wire, with its framing. -/
  wire : Bytes
  /-- The data in the body. -/
  content : Bytes
  head_ne_nil : head ≠ []
  deriving DecidableEq

/-- The message on the wire. -/
def ClientMessage.bytes (message : ClientMessage) : Bytes := message.head ++ message.wire

/-- Messages sent back to back. -/
def streamBytes (messages : List ClientMessage) : Bytes := messages.flatMap ClientMessage.bytes

@[simp]
theorem streamBytes_nil : streamBytes [] = [] := rfl

@[simp]
theorem streamBytes_cons (message : ClientMessage) (messages : List ClientMessage) :
    streamBytes (message :: messages) = message.bytes ++ streamBytes messages := rfl

@[simp]
theorem streamBytes_append (first second : List ClientMessage) :
    streamBytes (first ++ second) = streamBytes first ++ streamBytes second :=
  List.flatMap_append

/-- Only a stream without messages has nothing on the wire. -/
theorem streamBytes_eq_nil {messages : List ClientMessage} :
    streamBytes messages = [] ↔ messages = [] := by
  cases messages with
  | nil => simp
  | cons message messages => simp [ClientMessage.bytes, message.head_ne_nil]

namespace H11

/-- Where the client side of a connection stands. -/
inductive Place where
  /-- Before a message. -/
  | head
  /-- In a body of which so much is left on the wire, with so much data in it. -/
  | body (left content : Bytes)
  /-- Behind a message. -/
  | ended
  deriving DecidableEq, Repr

/-- What is left of the body on the wire. -/
def Place.left : Place → Bytes
  | .body left _ => left
  | _ => []

/-- The data that has not been reported. -/
def Place.content : Place → Bytes
  | .body _ content => content
  | _ => []

@[simp]
theorem Place.left_body (left content : Bytes) : (Place.body left content).left = left := rfl

@[simp]
theorem Place.content_body (left content : Bytes) : (Place.body left content).content = content :=
  rfl

@[simp]
theorem Place.left_ended : Place.ended.left = [] := rfl

@[simp]
theorem Place.content_ended : Place.ended.content = [] := rfl

/-- What `next_event` answers in a body: data that is there, a request for more bytes unless all of
them are there, or the end of the message. -/
inductive BodyAnswer (left content buffer : Bytes) : NextEvent → Place → Bytes → Prop
  | data (eaten : Bytes) {piece left' content' buffer' : Bytes} (hleft : left = eaten ++ left')
      (hbuffer : buffer = eaten ++ buffer') (hcontent : content = piece ++ content') :
      BodyAnswer left content buffer (.event (.data piece)) (.body left' content') buffer'
  | needData (eaten : Bytes) {left' buffer' : Bytes} (hleft : left = eaten ++ left')
      (hbuffer : buffer = eaten ++ buffer') (hshort : ¬ left <+: buffer) :
      BodyAnswer left content buffer .needData (.body left' content) buffer'
  | endOfMessage {buffer' : Bytes} (hbuffer : buffer = left ++ buffer') (hcontent : content = []) :
      BodyAnswer left content buffer (.event .endOfMessage) .ended buffer'

/-- The buffer agrees with what is left of the body. -/
def Agrees (left buffer : Bytes) : Prop := left <+: buffer ∨ buffer <+: left

/-- A response that leaves the connection open. -/
def persistent : H11Send → Bool
  | .response _ headers => !headers.any fun header =>
      Bytes.lower header.1 = Bytes.ascii "connection" &&
        (header.2.splitOn 44).any fun option =>
          Bytes.lower (Bytes.trimOws option) = Bytes.ascii "close"
  | _ => true

variable {Conn : Type u}

/-- How h11 reads the messages of a stream. -/
structure Reading (h11 : H11 Conn) where
  /-- The messages h11 takes for such: of HTTP/1.1, with connections kept alive. -/
  valid : ClientMessage → Prop
  /-- The client side stands here, with these bytes buffered. -/
  At : Conn → Place → Bytes → Prop
  /-- The server side is about to send a response. -/
  unanswered : Conn → Bool
  /-- The server side is done, and the connection stays open. -/
  responded : Conn → Bool
  at_new : At h11.new .head []
  at_receiveData : ∀ conn place buffer data, At conn place buffer →
    At (h11.receiveData conn data) place (buffer ++ data)
  at_request : ∀ conn message buffer, valid message → At conn .head (message.head ++ buffer) →
    ∃ next, h11.nextEvent conn = (.event (.request message.request), next) ∧
      At next (.body message.wire message.content) buffer ∧ unanswered next
  at_body : ∀ conn left content buffer, At conn (.body left content) buffer →
    Agrees left buffer →
      ∃ answer next place buffer', h11.nextEvent conn = (answer, next) ∧
        BodyAnswer left content buffer answer place buffer' ∧ At next place buffer' ∧
          unanswered next = unanswered conn
  at_ended : ∀ conn buffer, At conn .ended buffer →
    ∃ answer next, h11.nextEvent conn = (answer, next) ∧
      (answer = .needData ∨ answer = .paused) ∧ At next .ended buffer ∧
        unanswered next = unanswered conn
  /-- What is sent while a message is read or has been read does not concern its reading. -/
  at_send : ∀ conn place buffer event bytes next, At conn place buffer → place ≠ .head →
    persistent event → h11.send conn event = (some bytes, next) → At next place buffer
  /-- A client that waits for it can be told to go on. -/
  continues : ∀ conn, h11.clientIsWaitingFor100Continue conn → unanswered conn →
    (h11.send conn (.informational 100 [])).1.isSome
  /-- With both sides done the next cycle can be started; the buffer is kept. -/
  at_startNextCycle : ∀ conn buffer, At conn .ended buffer → responded conn →
    ∃ next, h11.startNextCycle conn = some next ∧ At next .head buffer

/-! ## Draining -/

/-- What one read brings of a body: its data and its end, or data as far as it is there. -/
inductive BodyDrained (left content buffer : Bytes) : List H11Event → Place → Bytes → Prop
  | complete (pieces : List Bytes) {buffer' : Bytes} (hbuffer : buffer = left ++ buffer')
      (hcontent : content = pieces.flatten) :
      BodyDrained left content buffer (pieces.map .data ++ [.endOfMessage]) .ended buffer'
  | short (pieces : List Bytes) (eaten : Bytes) {left' content' buffer' : Bytes}
      (hleft : left = eaten ++ left') (hbuffer : buffer = eaten ++ buffer')
      (hcontent : content = pieces.flatten ++ content') (hshort : ¬ left <+: buffer) :
      BodyDrained left content buffer (pieces.map .data) (.body left' content') buffer'

/-- What has been read goes on agreeing. -/
theorem Agrees.rest {eaten left buffer : Bytes}
    (hagrees : Agrees (eaten ++ left) (eaten ++ buffer)) : Agrees left buffer := by
  simpa [Agrees] using hagrees

/-- Draining a body stops in it or behind it. -/
theorem BodyDrained.place_ne_head {left content buffer buffer' : Bytes} {events : List H11Event}
    {place : Place} (hdrained : BodyDrained left content buffer events place buffer') :
    place ≠ .head := by
  cases hdrained with
  | complete => simp
  | short => simp

/-- The same bytes are gone from what was left of the body and from the buffer. -/
theorem BodyDrained.eaten {left content buffer buffer' : Bytes} {events : List H11Event}
    {place : Place} (hdrained : BodyDrained left content buffer events place buffer') :
    ∃ eaten, left = eaten ++ place.left ∧ buffer = eaten ++ buffer' := by
  cases hdrained with
  | complete pieces hbuffer => exact ⟨left, (List.append_nil left).symm, hbuffer⟩
  | short pieces eaten hleft hbuffer => exact ⟨eaten, hleft, hbuffer⟩

/-- A body of which everything is there is drained. -/
theorem BodyDrained.ended {left content buffer buffer' : Bytes} {events : List H11Event}
    {place : Place} (hdrained : BodyDrained left content buffer events place buffer')
    (hthere : left <+: buffer) : place = .ended := by
  cases hdrained with
  | complete => rfl
  | short _ _ _ _ _ hshort => exact absurd hthere hshort

variable {h11 : H11 Conn} (reading : h11.Reading)

/-- An event is drained before what comes after it. -/
theorem drain_event {conn next last : Conn} {event : H11Event} {events : List H11Event}
    (hnext : h11.nextEvent conn = (.event event, next))
    (hdrain : h11.drain next = { events, rejected := none, conn := last }) :
    h11.drain conn = { events := event :: events, rejected := none, conn := last } := by
  rw [h11.drain_eq, hnext]
  dsimp only
  rw [hdrain]

/-- Behind a message there is nothing to drain. -/
theorem Reading.drain_ended {conn : Conn} {buffer : Bytes} (hat : reading.At conn .ended buffer) :
    ∃ next, h11.drain conn = { events := [], rejected := none, conn := next } ∧
      reading.At next .ended buffer ∧ reading.unanswered next = reading.unanswered conn := by
  obtain ⟨answer, next, hnext, hanswer, hafter, hunanswered⟩ := reading.at_ended conn buffer hat
  refine ⟨next, ?_, hafter, hunanswered⟩
  rw [h11.drain_eq, hnext]
  rcases hanswer with rfl | rfl
  · rfl
  · rfl

/-- In a body, what is there of it is drained, and nothing behind it. -/
theorem Reading.drain_body {conn : Conn} {left content buffer : Bytes}
    (hat : reading.At conn (.body left content) buffer) (hagrees : Agrees left buffer) :
    ∃ events next place buffer',
      h11.drain conn = { events, rejected := none, conn := next } ∧
        BodyDrained left content buffer events place buffer' ∧ reading.At next place buffer' ∧
          reading.unanswered next = reading.unanswered conn := by
  -- every event leaves fewer of them buffered
  induction hfuel : h11.buffered conn using Nat.strong_induction_on
    generalizing conn left content buffer with
  | h fuel ih =>
      obtain ⟨answer, next, place, buffer', hnext, hanswer, hafter, hunanswered⟩ :=
        reading.at_body conn left content buffer hat hagrees
      cases hanswer with
      | needData eaten hleft hbuffer hshort =>
          refine ⟨[], next, _, _, ?_, .short [] eaten hleft hbuffer rfl hshort, hafter,
            hunanswered⟩
          rw [h11.drain_eq, hnext]
      | endOfMessage hbuffer hcontent =>
          obtain ⟨last, hdrain, hlast, hstays⟩ := reading.drain_ended hafter
          exact ⟨_, last, _, _, drain_event hnext hdrain, .complete [] hbuffer hcontent, hlast,
            hstays.trans hunanswered⟩
      | @data eaten piece left' content' _ hleft hbuffer hcontent =>
          subst hleft hbuffer hcontent
          have hless : h11.buffered next < fuel := by
            rw [← hfuel]
            exact h11.buffered_lt conn _ next hnext
          obtain ⟨events, last, place, rest, hdrain, hdrained, hlast, hstays⟩ :=
            ih _ hless hafter hagrees.rest rfl
          refine ⟨_, last, place, rest, drain_event hnext hdrain, ?_, hlast,
            hstays.trans hunanswered⟩
          cases hdrained with
          | complete pieces hbuffer hcontent =>
              refine .complete (piece :: pieces) ?_ ?_
              · rw [hbuffer, List.append_assoc]
              · rw [hcontent, List.flatten_cons]
          | short pieces further hleft hbuffer hcontent hshort =>
              refine .short (piece :: pieces) (eaten ++ further) ?_ ?_ ?_ ?_
              · rw [hleft, List.append_assoc]
              · rw [hbuffer, List.append_assoc]
              · rw [hcontent, List.flatten_cons, List.append_assoc]
              · rwa [List.prefix_append_right_inj]

/-- Before a message whose head is there, the request is drained and what is there of its body. -/
theorem Reading.drain_head {conn : Conn} {message : ClientMessage} {buffer : Bytes}
    (hvalid : reading.valid message) (hat : reading.At conn .head (message.head ++ buffer))
    (hagrees : Agrees message.wire buffer) :
    ∃ events next place buffer',
      h11.drain conn =
          { events := .request message.request :: events, rejected := none, conn := next } ∧
        BodyDrained message.wire message.content buffer events place buffer' ∧
          reading.At next place buffer' ∧ reading.unanswered next := by
  obtain ⟨next, hnext, hbody, hunanswered⟩ := reading.at_request conn message buffer hvalid hat
  obtain ⟨events, last, place, buffer', hdrain, hdrained, hlast, hstays⟩ :=
    reading.drain_body hbody hagrees
  exact ⟨events, last, place, buffer', drain_event hnext hdrain, hdrained, hlast,
    hstays.trans hunanswered⟩

end H11

/-! ## The small connection object -/

namespace SmallConn

open H11

/-- The client stands here. -/
def Stands (client : ClientState) : Place → Prop
  | .head => client = .idle
  | .body left content => client = .sendBody left.length ∧ content = left
  | .ended => client = .done

/-- The client side of the small connection object and its buffer. -/
def At (conn : SmallConn) (place : Place) (buffer : Bytes) : Prop :=
  conn.buffer = buffer ∧ Stands conn.client place

/-- In a body it takes what is there, and then the end. -/
theorem at_body (heads : List KnownHead) (conn : SmallConn) (left content buffer : Bytes)
    (hat : conn.At (.body left content) buffer) (hagrees : Agrees left buffer) :
    ∃ answer next place buffer', conn.nextEvent heads = (answer, next) ∧
      BodyAnswer left content buffer answer place buffer' ∧ next.At place buffer' ∧
        decide (next.server = .sendResponse) = decide (conn.server = .sendResponse) := by
  obtain ⟨rfl, hclient, rfl⟩ := hat
  unfold nextEvent
  cases hleft : content with
  | nil =>
      rw [hleft, List.length_nil] at hclient
      rw [hclient]
      exact ⟨_, _, .ended, conn.buffer, rfl, .endOfMessage rfl rfl, ⟨rfl, rfl⟩, rfl⟩
  | cons byte rest =>
      rw [hleft, List.length_cons] at hclient
      rw [hclient]
      dsimp only
      split
      case isTrue hempty =>
        refine ⟨_, _, .body (byte :: rest) (byte :: rest), [], rfl,
          .needData [] rfl hempty ?_, ⟨hempty, hclient, rfl⟩, rfl⟩
        rw [hempty, List.prefix_nil]
        exact List.cons_ne_nil byte rest
      case isFalse hbuffer =>
        -- what is taken is what comes next in the body
        obtain ⟨after, hafter⟩ : conn.buffer.take (rest.length + 1) <+: byte :: rest := by
          rw [hleft] at hagrees
          rcases hagrees with hprefix | hprefix
          · rw [show conn.buffer.take (rest.length + 1) = byte :: rest from
              (List.prefix_iff_eq_take.mp hprefix).symm]
          · exact (List.take_prefix _ _).trans hprefix
        refine ⟨_, _, .body after after, conn.buffer.drop (rest.length + 1), rfl,
          .data (conn.buffer.take (rest.length + 1)) hafter.symm
            (List.take_append_drop _ _).symm hafter.symm, ⟨rfl, ?_, rfl⟩, rfl⟩
        have hlength := congrArg List.length hafter
        rw [List.length_append, List.length_cons] at hlength
        dsimp only
        congr 1
        omega

/-- Sending changes neither the buffer nor the client side. -/
theorem send_client (conn : SmallConn) (event : H11Send) :
    (conn.send event).2.buffer = conn.buffer ∧ (conn.send event).2.client = conn.client := by
  cases event with
  | informational status headers => rw [send]; split <;> exact ⟨rfl, rfl⟩
  | response status headers => rw [send]; split <;> exact ⟨rfl, rfl⟩
  | data data => rw [send]; split <;> exact ⟨rfl, rfl⟩
  | endOfMessage => rw [send]; split <;> exact ⟨rfl, rfl⟩

/-- It understands a message whose head is the first of those it knows in any stream that begins
with the message, if the body is sent as it is. -/
def Understands (heads : List KnownHead) (message : ClientMessage) : Prop :=
  (∀ buffer, heads.find? (fun head => head.bytes.isPrefixOf (message.head ++ buffer)) =
    some { bytes := message.head, request := message.request,
           contentLength := message.wire.length }) ∧
    message.content = message.wire

/-- A head it understands is reported, and the body comes next. -/
theorem at_request {heads : List KnownHead} {conn : SmallConn} {message : ClientMessage}
    {buffer : Bytes} (hunderstands : Understands heads message)
    (hat : conn.At .head (message.head ++ buffer)) :
    ∃ next, conn.nextEvent heads = (.event (.request message.request), next) ∧
      next.At (.body message.wire message.content) buffer ∧
        decide (next.server = .sendResponse) := by
  obtain ⟨hfind, hcontent⟩ := hunderstands
  have hclient : conn.client = .idle := hat.2
  refine ⟨{ conn with buffer, client := .sendBody message.wire.length, server := .sendResponse },
    ?_, ⟨rfl, rfl, hcontent⟩, decide_eq_true rfl⟩
  unfold nextEvent
  rw [hclient, hat.1]
  dsimp only
  rw [hfind]
  simp

/-- Behind a message it says whether there is more. -/
theorem at_ended (heads : List KnownHead) {conn : SmallConn} {buffer : Bytes}
    (hat : conn.At .ended buffer) :
    ∃ answer, conn.nextEvent heads = (answer, conn) ∧
      (answer = .needData ∨ answer = .paused) := by
  have hclient : conn.client = .done := hat.2
  unfold nextEvent
  rw [hclient]
  refine ⟨_, rfl, ?_⟩
  split
  · exact .inl rfl
  · exact .inr rfl

/-- The small connection object reads the messages it understands. -/
def reading (heads : List KnownHead) : (smallH11 heads).Reading where
  valid := Understands heads
  At := At
  unanswered conn := conn.server = .sendResponse
  responded conn := conn.server = .done ∧ conn.keepAlive
  at_new := ⟨rfl, rfl⟩
  at_receiveData _ _ _ data hat := ⟨congrArg (· ++ data) hat.1, hat.2⟩
  at_request _ _ _ := at_request
  at_body := at_body heads
  at_ended conn _ hat := by
    obtain ⟨answer, hnext, hanswer⟩ := at_ended heads hat
    exact ⟨answer, conn, hnext, hanswer, hat, rfl⟩
  at_send conn place _ event _ _ hat _ _ hsend := by
    obtain ⟨hbuffer, hclient⟩ := send_client conn event
    obtain rfl := congrArg Prod.snd hsend
    refine ⟨hbuffer.trans hat.1, ?_⟩
    change Stands (conn.send event).2.client place
    rw [hclient]
    exact hat.2
  continues _ hwaits _ := by cases hwaits
  at_startNextCycle _ _ hat hresponded := by
    obtain ⟨hserver, hkeep⟩ := of_decide_eq_true hresponded
    exact ⟨_, if_pos ⟨hat.2, hserver, hkeep⟩, hat.1, rfl⟩

end SmallConn

end Pounce
