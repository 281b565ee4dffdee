/-
# Protocol events

The typed events every protocol handler produces, and the parse error it raises
instead. A handler consumes bytes and yields these; the workers never look below
them, so they are the interface between the wire and the serving loops.
-/

import Pounce.Math.Bytes

namespace Pounce

open Pounce.Math

/-- The protocol version a request was received under. -/
inductive HttpVersion
  | http10
  | http11
  | http2
  | http3
  deriving DecidableEq, Repr

/-- A header field as it travels: name and value. -/
abbrev Header := Bytes × Bytes

/-- A complete request head has been parsed. -/
structure RequestReceived where
  method : Bytes
  target : Bytes
  headers : List Header
  httpVersion : HttpVersion
  deriving DecidableEq, Repr

/-- A chunk of request body data; `more` announces that further chunks follow. -/
structure BodyReceived where
  data : Bytes
  more : Bool
  deriving DecidableEq, Repr

/-- What a protocol handler reports to its worker. -/
inductive ProtocolEvent
  | requestReceived (request : RequestReceived)
  | bodyReceived (body : BodyReceived)
  | connectionClosed
  deriving DecidableEq, Repr

/-- The request is malformed. The code is the stable operator-facing identifier
of the failure, the hint what the operator can do about it. -/
structure ParseError where
  message : String
  code : String
  hint : Option String := none
  deriving DecidableEq, Repr

/-- The value of the first header with this name, compared case-insensitively. -/
def getHeader (headers : List Header) (name : Bytes) : Option Bytes :=
  (headers.find? fun header => Bytes.lower header.1 = Bytes.lower name).map (·.2)

end Pounce
