/-
# WebSocket sessions

`WSProtocol` wraps a connection of the wsproto library: it turns the events of the library
into those the two handlers know, and answers pings. The handler for HTTP/1.1 reads frames
from the socket, the one for HTTP/2 from the DATA frames of its stream; both put a message
for the application into a queue for each data event, unless the data is too long, and end
with a close. What the library makes of the bytes of a read is a parameter of the model: a
read is the list of its events.
-/

import Pounce.Math.Bytes

namespace Pounce.WebSocket

open Pounce.Math

/-! ## Protocol -/

/-- A message or a part of one, text decoded. -/
inductive Payload where
  | text (chars : List Char)
  | bytes (data : Bytes)
  deriving DecidableEq, Repr

/-- `len`: the characters of a text, the bytes of other data. -/
def Payload.len : Payload → ℕ
  | .text chars => chars.length
  | .bytes data => data.length

/-- The events of wsproto: a message comes in parts, the last of which is marked. -/
inductive LibraryEvent where
  | message (payload : Payload) (messageFinished : Bool)
  | closeConnection (code : Option ℕ) (reason : Option String)
  | ping (payload : Bytes)
  | pong (payload : Bytes)
  deriving DecidableEq, Repr

/-- The events a handler knows. -/
inductive ProtocolEvent where
  /-- `WebSocketDataReceived`. -/
  | dataReceived (data : Payload)
  /-- `WebSocketDisconnected`. -/
  | disconnected (code : ℕ) (reason : String)
  deriving DecidableEq, Repr

/-- The event of the protocol that an event of the library becomes. -/
def protocolEvent : LibraryEvent → Option ProtocolEvent
  | .message payload _ => some (.dataReceived payload)
  | .closeConnection code reason =>
      some (.disconnected ((code.filter (· ≠ 0)).getD 1000) (reason.getD ""))
  | .ping _ => none
  | .pong _ => none

/-- The payload of the pong that answers a ping. -/
def pongPayload : LibraryEvent → Option Bytes
  | .ping payload => some payload
  | _ => none

/-- `WSProtocol.receive_data`: the events, and the pongs to be sent. -/
def receiveData (events : List LibraryEvent) : List ProtocolEvent × List Bytes :=
  (events.filterMap protocolEvent, events.filterMap pongPayload)

/-! ## Handlers -/

/-- The messages an application receives. -/
inductive AppMessage where
  | connect
  | receive (payload : Payload)
  | disconnect (code : ℕ)
  deriving DecidableEq, Repr

/-- How a handler is left after a read. -/
inductive ReadOutcome where
  /-- It reads on. -/
  | goesOn
  /-- It has closed with 1009. -/
  | tooLarge
  /-- The peer has closed. -/
  | closed
  deriving DecidableEq, Repr

/-- What a handler puts into the queue for the events of a read, and how that leaves it. -/
def dispatch (limit : ℕ) : List ProtocolEvent → List AppMessage × ReadOutcome
  | [] => ([], .goesOn)
  | .dataReceived data :: events =>
      if limit < data.len then ([], .tooLarge)
      else
        let (messages, outcome) := dispatch limit events
        (.receive data :: messages, outcome)
  | .disconnected code _ :: _ => ([.disconnect code], .closed)

/-- One read of `_read_frames`. -/
def readFrames (limit : ℕ) (read : List LibraryEvent) : List AppMessage × ReadOutcome :=
  dispatch limit (receiveData read).1

/-- The body of a DATA frame on the stream of a session. Frames are parsed from bytes only. -/
structure Segment where
  length : ℕ
  events : List LibraryEvent
  endStream : Bool := false
  parsed : length = 0 → events = []
  deriving DecidableEq

/-- One message of the data queue in `_process_data`. -/
def processData (limit : ℕ) (segment : Segment) : List AppMessage × ReadOutcome :=
  let (messages, outcome) :=
    if segment.length = 0 then ([], .goesOn) else readFrames limit segment.events
  if outcome = .goesOn ∧ segment.endStream then (messages ++ [.disconnect 1000], .closed)
  else (messages, outcome)

end Pounce.WebSocket
