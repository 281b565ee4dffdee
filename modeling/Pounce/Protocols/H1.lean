/-
# The HTTP/1.1 protocol handler

`H1Protocol` feeds what the socket yields to h11 and translates the events h11 reports.
h11 itself is not part of this development: it is a parameter, the functions of its
connection object the handler calls, together with a bound on the events a connection
still holds, which is why asking for events comes to an end.

What the handler relies on is stated where it is used. That h11 holds back everything
behind the end of a message until the next cycle is `H11.PausesAfterMessage`.
-/

import Pounce.Protocols.Base

namespace Pounce

open Pounce.Math

universe u

/-- An event h11 reports. -/
inductive H11Event where
  | request (request : RequestReceived)
  | data (data : Bytes)
  | endOfMessage
  | connectionClosed
  deriving DecidableEq, Repr

/-- What `next_event` answers. -/
inductive NextEvent where
  | event (event : H11Event)
  | needData
  | paused
  | remoteProtocolError (message : String)
  deriving DecidableEq, Repr

/-- What a server hands to `send`. -/
inductive H11Send where
  | informational (status : ℕ) (headers : List Header)
  | response (status : ℕ) (headers : List Header)
  | data (data : Bytes)
  | endOfMessage
  deriving DecidableEq, Repr

/-- A server-side connection object of h11. -/
structure H11 (Conn : Type u) where
  /-- A connection that has seen nothing. -/
  new : Conn
  receiveData : Conn → Bytes → Conn
  nextEvent : Conn → NextEvent × Conn
  /-- The bytes to write; none is a `LocalProtocolError`. -/
  send : Conn → H11Send → Option Bytes × Conn
  /-- None is a `LocalProtocolError`. -/
  startNextCycle : Conn → Option Conn
  clientIsWaitingFor100Continue : Conn → Bool
  /-- How many events the connection holds at most. -/
  buffered : Conn → ℕ
  buffered_lt : ∀ conn event next, nextEvent conn = (.event event, next) →
    buffered next < buffered conn

namespace H11

variable {Conn : Type u} (h11 : H11 Conn)

/-- Behind the end of a message h11 reports nothing until the next cycle is started. -/
def PausesAfterMessage : Prop :=
  ∀ conn next, h11.nextEvent conn = (.event .endOfMessage, next) →
    ∀ event after, h11.nextEvent next ≠ (.event event, after)

/-- The events up to the point where h11 needs data, pauses or rejects its input. -/
structure Drained (Conn : Type u) where
  events : List H11Event
  /-- The message of a `RemoteProtocolError`. -/
  rejected : Option String
  conn : Conn
  deriving DecidableEq, Repr

/-- Ask for at most so many events. -/
def drainWithin : ℕ → Conn → Drained Conn
  | 0, conn => { events := [], rejected := none, conn }
  | fuel + 1, conn =>
      match h11.nextEvent conn with
      | (.event event, next) =>
          let drained := drainWithin fuel next
          { drained with events := event :: drained.events }
      | (.needData, next) => { events := [], rejected := none, conn := next }
      | (.paused, next) => { events := [], rejected := none, conn := next }
      | (.remoteProtocolError message, next) =>
          { events := [], rejected := some message, conn := next }

/-- Ask for events until there are none. -/
def drain (conn : Conn) : Drained Conn := h11.drainWithin (h11.buffered conn + 1) conn

/-- As long as there are more turns than events, their number is of no account. -/
theorem drainWithin_congr {first second : ℕ} {conn : Conn} (hfirst : h11.buffered conn < first)
    (hsecond : h11.buffered conn < second) :
    h11.drainWithin first conn = h11.drainWithin second conn := by
  induction first generalizing conn second with
  | zero => exact absurd hfirst (Nat.not_lt_zero _)
  | succ first ih =>
      cases second with
      | zero => exact absurd hsecond (Nat.not_lt_zero _)
      | succ second =>
          rw [drainWithin, drainWithin]
          split
          case h_1 event next hnext =>
            have hless := h11.buffered_lt conn event next hnext
            have hrest := ih (show h11.buffered next < first by omega)
              (show h11.buffered next < second by omega)
            rw [hrest]
          case h_2 => rfl
          case h_3 => rfl
          case h_4 => rfl

/-- The loop of the source: ask once, and go on where there was an event. -/
theorem drain_eq (conn : Conn) :
    h11.drain conn =
      match h11.nextEvent conn with
      | (.event event, next) =>
          { h11.drain next with events := event :: (h11.drain next).events }
      | (.needData, next) => { events := [], rejected := none, conn := next }
      | (.paused, next) => { events := [], rejected := none, conn := next }
      | (.remoteProtocolError message, next) =>
          { events := [], rejected := some message, conn := next } := by
  rw [drain, drainWithin]
  split
  case h_1 event next hnext =>
    have hless := h11.buffered_lt conn event next hnext
    have hrest : h11.drainWithin (h11.buffered conn) next = h11.drain next :=
      h11.drainWithin_congr hless (Nat.lt_succ_self _)
    rw [hrest]
  case h_2 => rfl
  case h_3 => rfl
  case h_4 => rfl

/-- Where h11 answers with no event there is nothing to drain. -/
theorem drainWithin_events_nil {fuel : ℕ} {conn : Conn}
    (hnone : ∀ event after, h11.nextEvent conn ≠ (.event event, after)) :
    (h11.drainWithin fuel conn).events = [] := by
  cases fuel with
  | zero => rfl
  | succ fuel =>
      rw [drainWithin]
      split
      case h_1 event next hnext => exact absurd hnext (hnone event next)
      case h_2 => rfl
      case h_3 => rfl
      case h_4 => rfl

/-- If h11 pauses after a message, the end of the message is the last event. -/
theorem drain_pairwise {h11 : H11 Conn} (hpauses : h11.PausesAfterMessage) (conn : Conn) :
    (h11.drain conn).events.Pairwise fun earlier _ => earlier ≠ .endOfMessage := by
  rw [drain]
  generalize h11.buffered conn + 1 = fuel
  induction fuel generalizing conn with
  | zero => exact List.Pairwise.nil
  | succ fuel ih =>
      rw [drainWithin]
      split
      case h_1 event next hnext =>
        apply List.pairwise_cons.mpr
        refine ⟨?_, ih next⟩
        intro later hlater hevent
        subst hevent
        rw [h11.drainWithin_events_nil (hpauses conn next hnext)] at hlater
        exact List.not_mem_nil hlater
      case h_2 => exact List.Pairwise.nil
      case h_3 => exact List.Pairwise.nil
      case h_4 => exact List.Pairwise.nil

end H11

/-! ## The handler -/

namespace H1Protocol

variable {Conn : Type u} (h11 : H11 Conn)

/-- The protocol event for an event of h11. -/
def translate : H11Event → ProtocolEvent
  | .request request => .requestReceived request
  | .data data => .bodyReceived { data, more := true }
  | .endOfMessage => .bodyReceived { data := [], more := false }
  | .connectionClosed => .connectionClosed

/-- Feed raw bytes and return the events parsed from them. A rejection discards the
events h11 had reported before it. -/
def receiveData (conn : Conn) (data : Bytes) :
    Except ParseError (List ProtocolEvent) × Conn :=
  let drained := h11.drain (h11.receiveData conn data)
  match drained.rejected with
  | some message => (.error { message, code := "POUNCE_PARSE_H11_REJECTED" }, drained.conn)
  | none => (.ok (drained.events.map translate), drained.conn)

/-- Serialize a response head. -/
def sendResponse (conn : Conn) (status : ℕ) (headers : List Header) : Option Bytes × Conn :=
  h11.send conn (.response status headers)

/-- Serialize an interim response. -/
def sendInformational (conn : Conn) (status : ℕ) (headers : List Header) :
    Option Bytes × Conn :=
  h11.send conn (.informational status headers)

/-- Serialize one thing after the other; the first that h11 refuses is the last. -/
def sendAll (conn : Conn) : List H11Send → Option Bytes × Conn
  | [] => (some [], conn)
  | event :: events =>
      match h11.send conn event with
      | (none, next) => (none, next)
      | (some bytes, next) =>
          let rest := sendAll next events
          (rest.1.map (bytes ++ ·), rest.2)

/-- Serialize a response body chunk. -/
def sendBody (conn : Conn) (data : Bytes) (more : Bool) : Option Bytes × Conn :=
  sendAll h11 conn
    ((if data = [] then [] else [.data data]) ++ if more then [] else [.endOfMessage])

/-- What a successful call returns is the translation of what h11 reported. -/
theorem receiveData_ok {conn : Conn} {data : Bytes} {events : List ProtocolEvent}
    (hok : (receiveData h11 conn data).1 = .ok events) :
    events = ((h11.drain (h11.receiveData conn data)).events.map translate) := by
  rw [receiveData] at hok
  split at hok
  case h_1 => cases hok
  case h_2 => exact (Except.ok.inj hok).symm

/-- The event ends a body. -/
def isFinal : ProtocolEvent → Bool
  | .bodyReceived body => !body.more
  | _ => false

/-- Only the end of a message becomes an event that ends a body. -/
theorem isFinal_translate {event : H11Event} :
    isFinal (translate event) = true ↔ event = .endOfMessage := by
  cases event with
  | endOfMessage => simp [translate, isFinal]
  | request request => simp [translate, isFinal]
  | data data => simp [translate, isFinal]
  | connectionClosed => simp [translate, isFinal]

/-- Nothing follows the end of a body. -/
def Tidy (events : List ProtocolEvent) : Prop :=
  events.Pairwise fun earlier _ => isFinal earlier = false

/-- If h11 pauses after a message, what it is fed in one call is tidy. -/
theorem tidy_receiveData {h11 : H11 Conn} (hpauses : h11.PausesAfterMessage) {conn : Conn}
    {data : Bytes} {events : List ProtocolEvent}
    (hok : (receiveData h11 conn data).1 = .ok events) : Tidy events := by
  rw [receiveData_ok h11 hok, Tidy, List.pairwise_map]
  apply (H11.drain_pairwise hpauses _).imp
  intro earlier _ hearlier
  rw [Bool.eq_false_iff, ne_eq, isFinal_translate]
  exact hearlier

theorem Tidy.suffix {events rest : List ProtocolEvent} (htidy : Tidy events)
    (hrest : rest <:+ events) : Tidy rest :=
  List.Pairwise.sublist hrest.sublist htidy

end H1Protocol

/-! ## A small connection object

It understands the request heads it is given, with bodies of a declared length, and keeps
track of both sides as far as this takes. -/

/-- A request head, what it stands for and the length of the body after it. -/
structure KnownHead where
  bytes : Bytes
  request : RequestReceived
  contentLength : ℕ := 0
  deriving DecidableEq, Repr

/-- What the client is about to send. -/
inductive ClientState where
  | idle
  | sendBody (left : ℕ)
  | done
  | error
  deriving DecidableEq, Repr

/-- What the server is about to send. -/
inductive ServerState where
  | idle
  | sendResponse
  | sendBody
  | done
  | error
  deriving DecidableEq, Repr

/-- The state of the small connection object. -/
structure SmallConn where
  buffer : Bytes := []
  client : ClientState := .idle
  server : ServerState := .idle
  keepAlive : Bool := true
  deriving DecidableEq, Repr

namespace SmallConn

/-- The next event. -/
def nextEvent (heads : List KnownHead) (conn : SmallConn) : NextEvent × SmallConn :=
  match conn.client with
  | .idle =>
      match heads.find? fun head => head.bytes.isPrefixOf conn.buffer with
      | some head =>
          (.event (.request head.request),
            { conn with
              buffer := conn.buffer.drop head.bytes.length
              client := .sendBody head.contentLength
              server := .sendResponse })
      | none =>
          if heads.any fun head => conn.buffer.isPrefixOf head.bytes then (.needData, conn)
          else (.remoteProtocolError "illegal request line", { conn with client := .error })
  | .sendBody 0 => (.event .endOfMessage, { conn with client := .done })
  | .sendBody (left + 1) =>
      if conn.buffer = [] then (.needData, conn)
      else
        let data := conn.buffer.take (left + 1)
        (.event (.data data),
          { conn with
            buffer := conn.buffer.drop (left + 1)
            client := .sendBody (left + 1 - data.length) })
  | .done => (if conn.buffer = [] then .needData else .paused, conn)
  | .error => (.remoteProtocolError "can't receive data when peer in ERROR state", conn)

/-- Serialize; of the bytes it is only of interest that there are some. -/
def send (conn : SmallConn) : H11Send → Option Bytes × SmallConn
  | .informational .. =>
      if conn.server = .sendResponse then (some [], conn)
      else (none, { conn with server := .error })
  | .response _ headers =>
      if conn.server = .sendResponse ∨ conn.server = .idle then
        (some [], { conn with
          server := .sendBody
          keepAlive := conn.keepAlive &&
            !headers.any fun header => header.1 = Bytes.ascii "connection" &&
              header.2 = Bytes.ascii "close" })
      else (none, { conn with server := .error })
  | .data _ =>
      if conn.server = .sendBody then (some [], conn) else (none, { conn with server := .error })
  | .endOfMessage =>
      if conn.server = .sendBody then (some [], { conn with server := .done })
      else (none, { conn with server := .error })

/-- Start the next cycle if both sides are done. -/
def startNextCycle (conn : SmallConn) : Option SmallConn :=
  if conn.client = .done ∧ conn.server = .done ∧ conn.keepAlive then
    some { conn with client := .idle, server := .idle }
  else none

/-- Every event but the last one of a message takes bytes from the buffer. -/
def buffered (conn : SmallConn) : ℕ :=
  match conn.client with
  | .idle => 2 * conn.buffer.length + 2
  | .sendBody _ => 2 * conn.buffer.length + 1
  | .done => 0
  | .error => 0

theorem buffered_lt (heads : List KnownHead) {conn next : SmallConn} {event : H11Event}
    (hnext : nextEvent heads conn = (.event event, next)) : buffered next < buffered conn := by
  unfold nextEvent at hnext
  split at hnext
  case h_1 hclient =>
    split at hnext
    case h_1 head hfind =>
      obtain ⟨-, rfl⟩ := Prod.mk.inj hnext
      simp only [buffered, hclient, List.length_drop]
      omega
    case h_2 =>
      split at hnext
      case isTrue => cases hnext
      case isFalse => cases hnext
  case h_2 hclient =>
    obtain ⟨-, rfl⟩ := Prod.mk.inj hnext
    simp [buffered, hclient]
  case h_3 left hclient =>
    split at hnext
    case isTrue => cases hnext
    case isFalse hbuffer =>
      obtain ⟨-, rfl⟩ := Prod.mk.inj hnext
      have hpos : 0 < conn.buffer.length := List.length_pos_iff.mpr hbuffer
      simp only [buffered, hclient, List.length_drop]
      omega
  case h_4 => split at hnext <;> cases hnext
  case h_5 => cases hnext

end SmallConn

/-- The small connection object. -/
def smallH11 (heads : List KnownHead) : H11 SmallConn where
  new := {}
  receiveData conn data := { conn with buffer := conn.buffer ++ data }
  nextEvent := SmallConn.nextEvent heads
  send := SmallConn.send
  startNextCycle := SmallConn.startNextCycle
  clientIsWaitingFor100Continue _ := false
  buffered := SmallConn.buffered
  buffered_lt _ _ _ := SmallConn.buffered_lt heads

/-- It pauses behind a message. -/
theorem smallH11_pausesAfterMessage (heads : List KnownHead) :
    (smallH11 heads).PausesAfterMessage := by
  intro conn next hnext event after hafter
  have hdone : next.client = .done := by
    change SmallConn.nextEvent heads conn = _ at hnext
    unfold SmallConn.nextEvent at hnext
    split at hnext
    case h_1 =>
      split at hnext
      case h_1 => cases hnext
      case h_2 =>
        split at hnext
        case isTrue => cases hnext
        case isFalse => cases hnext
    case h_2 =>
      obtain ⟨-, rfl⟩ := Prod.mk.inj hnext
      rfl
    case h_3 =>
      split at hnext
      case isTrue => cases hnext
      case isFalse => cases hnext
    case h_4 => split at hnext <;> cases hnext
    case h_5 => cases hnext
  change SmallConn.nextEvent heads next = _ at hafter
  simp only [SmallConn.nextEvent, hdone] at hafter
  split at hafter <;> cases hafter

end Pounce
