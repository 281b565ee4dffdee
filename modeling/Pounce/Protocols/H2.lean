/-
# HTTP/2 requests

`H2Connection` wraps the connection of the h2 library, which parses the frames and
reports its own events. `receive_data` turns them into the events the handler of a
connection dispatches: it reads the pseudo-headers of a request, refuses a malformed one by
resetting its stream, and tells where the body of a request ends. For the latter it keeps
two flags for every stream until the server resets or removes it.

The library itself is a parameter: what matters of it here is whether it refuses to credit
received data or to reset a stream.
-/

import Mathlib.Logic.Function.Basic
import Pounce.Protocols.Base

namespace Pounce.H2

open Pounce.Math Pounce.Math.Bytes

/-! ## Events -/

/-- What the h2 library reports. The flag of a request or of data says that the frame
carried END_STREAM. -/
inductive LibraryEvent where
  | requestReceived (streamId : ℕ) (headers : List Header) (streamEnded : Bool)
  | dataReceived (streamId : ℕ) (data : Bytes) (flowControlledLength : ℕ) (streamEnded : Bool)
  | trailersReceived (streamId : ℕ)
  | streamEnded (streamId : ℕ)
  | streamReset (streamId errorCode : ℕ)
  | windowUpdated (streamId : ℕ)
  | remoteSettingsChanged
  | connectionTerminated (lastStreamId errorCode : Option ℕ)
  deriving DecidableEq, Repr

/-- What `receive_data` reports to the handler of the connection. -/
inductive H2Event where
  | requestReceived (streamId : ℕ) (request : RequestReceived)
  | bodyReceived (streamId : ℕ) (body : BodyReceived)
  | streamReset (streamId errorCode : ℕ)
  | goAway (lastStreamId errorCode : ℕ)
  | windowUpdated (streamId : ℕ)
  | webSocketRequest (streamId : ℕ) (request : RequestReceived) (wsPath : Bytes)
  deriving DecidableEq, Repr

/-! ## Reading a request -/

/-- What the pass over the header list of a request has found. -/
structure HeaderScan where
  method : Option Bytes := none
  target : Option Bytes := none
  scheme : Option Bytes := none
  authority : Option Bytes := none
  protocol : Bytes := []
  /-- The value of the last host header. -/
  host : Option Bytes := none
  headers : List Header := []
  seenPseudoHeaders : List Bytes := []
  deriving DecidableEq, Repr

/-- The name of a pseudo-header begins with a colon. -/
def isPseudo (name : Bytes) : Bool := name.head? = some 58

/-- Take note of a header. -/
def HeaderScan.record (scan : HeaderScan) (header : Header) : HeaderScan :=
  let (name, value) := header
  let scan :=
    if isPseudo name then { scan with seenPseudoHeaders := name :: scan.seenPseudoHeaders }
    else scan
  if name = ascii ":method" then { scan with method := some value }
  else if name = ascii ":path" then { scan with target := some value }
  else if name = ascii ":authority" then { scan with authority := some value }
  else if name = ascii ":scheme" then { scan with scheme := some value }
  else if name = ascii ":protocol" then { scan with protocol := value }
  else if isPseudo name then scan
  else
    { scan with
      headers := scan.headers ++ [(name, value)]
      host := if lower name = ascii "host" then some value else scan.host }

/-- One turn of the pass; a pseudo-header seen before ends it. -/
def scanHeader (scan : HeaderScan) (header : Header) : Option HeaderScan :=
  if isPseudo header.1 ∧ header.1 ∈ scan.seenPseudoHeaders then none
  else some (scan.record header)

/-- `authority or host`: an empty authority counts as none. -/
def effectiveAuthority (authority host : Option Bytes) : Option Bytes :=
  (authority.filter (· ≠ [])).or host

/-- Both are there and they differ. -/
def contradicts (authority host : Option Bytes) : Bool :=
  authority.isSome && host.isSome && authority ≠ host

/-- The request a header list stands for, with its `:protocol`, unless it is malformed. -/
def readRequest (headers : List Header) : Option (RequestReceived × Bytes) := do
  let scan ← headers.foldlM scanHeader {}
  if contradicts scan.authority scan.host then none
  else
    match scan.method, scan.target, scan.scheme, effectiveAuthority scan.authority scan.host with
    | some method, some target, some _, some authority =>
        let headers :=
          if scan.host.isNone then (ascii "host", authority) :: scan.headers else scan.headers
        some ({ method, target, headers, httpVersion := .http2 }, scan.protocol)
    | _, _, _, _ => none

/-! ## The connection -/

/-- What `H2Connection` asks of the connection of the h2 library; `none` where it raises. -/
structure Library (Conn : Type) where
  acknowledgeReceivedData : Conn → (length streamId : ℕ) → Option Conn
  resetStream : Conn → (streamId errorCode : ℕ) → Option Conn

/-- `_StreamState`. -/
structure StreamState where
  headersReceived : Bool := false
  ended : Bool := false
  deriving DecidableEq, Repr

/-- `H2Connection`. -/
structure H2Connection (Conn : Type) where
  /-- The connection of the library. -/
  conn : Conn
  streams : ℕ → Option StreamState := fun _ => none
  closed : Bool := false

/-- `PROTOCOL_ERROR`. -/
def protocolError : ℕ := 1

variable {Conn : Type} (library : Library Conn)

namespace H2Connection

/-- Set the entry of a stream, or drop it. -/
def setStream (h2 : H2Connection Conn) (streamId : ℕ) (state : Option StreamState) :
    H2Connection Conn :=
  { h2 with streams := Function.update h2.streams streamId state }

/-- Remove a stream from tracking. -/
def removeStream (h2 : H2Connection Conn) (streamId : ℕ) : H2Connection Conn :=
  h2.setStream streamId none

/-- Send RST_STREAM. -/
def resetStream (h2 : H2Connection Conn) (streamId errorCode : ℕ) :
    Option (H2Connection Conn) :=
  (library.resetStream h2.conn streamId errorCode).map fun conn =>
    { h2 with conn }.removeStream streamId

/-- The request of a stream is complete. -/
def streamEnded (h2 : H2Connection Conn) (streamId : ℕ) : Bool :=
  (h2.streams streamId).any (·.ended)

/-- The terminal body event. -/
def endOfBody : BodyReceived := { data := [], more := false }

/-- A request head. -/
def receiveRequest (h2 : H2Connection Conn) (streamId : ℕ) (headers : List Header)
    (streamEnded : Bool) : Option (H2Connection Conn × List H2Event) :=
  match readRequest headers with
  | none =>
      ((h2.setStream streamId (some {})).resetStream library streamId protocolError).map
        fun h2 => (h2, [.streamReset streamId protocolError])
  | some (request, protocol) =>
      if request.method = ascii "CONNECT" ∧ protocol = ascii "websocket" then
        some (h2.setStream streamId (some { headersReceived := true }),
          [.webSocketRequest streamId request request.target])
      else if streamEnded then
        some (h2.setStream streamId (some { headersReceived := true, ended := true }),
          [.requestReceived streamId request, .bodyReceived streamId endOfBody])
      else
        some (h2.setStream streamId (some { headersReceived := true }),
          [.requestReceived streamId request])

/-- A DATA frame. It is credited in any case. -/
def receiveBody (h2 : H2Connection Conn) (streamId : ℕ) (data : Bytes) (length : ℕ)
    (streamEnded : Bool) : Option (H2Connection Conn × List H2Event) :=
  (library.acknowledgeReceivedData h2.conn length streamId).map fun conn =>
    let credited : H2Connection Conn := { h2 with conn }
    (if streamEnded then
        credited.setStream streamId ((h2.streams streamId).map ({ · with ended := true }))
      else credited,
      [.bodyReceived streamId { data, more := !streamEnded }])

/-- The stream has ended; nothing is left to say if its last body event said so. -/
def receiveEnd (h2 : H2Connection Conn) (streamId : ℕ) : H2Connection Conn × List H2Event :=
  match h2.streams streamId with
  | none => (h2, [])
  | some state =>
      if state.ended then (h2, [])
      else (h2.setStream streamId (some { state with ended := true }),
        [.bodyReceived streamId endOfBody])

/-- One event of the library. -/
def receiveEvent (h2 : H2Connection Conn) :
    LibraryEvent → Option (H2Connection Conn × List H2Event)
  | .requestReceived streamId headers streamEnded =>
      h2.receiveRequest library streamId headers streamEnded
  | .dataReceived streamId data length streamEnded =>
      h2.receiveBody library streamId data length streamEnded
  | .trailersReceived _ => some (h2, [])
  | .streamEnded streamId => some (h2.receiveEnd streamId)
  | .streamReset streamId errorCode =>
      some (h2.removeStream streamId, [.streamReset streamId errorCode])
  | .windowUpdated streamId => some (h2, [.windowUpdated streamId])
  | .remoteSettingsChanged => some (h2, [])
  | .connectionTerminated lastStreamId errorCode =>
      some ({ h2 with closed := true }, [.goAway (lastStreamId.getD 0) (errorCode.getD 0)])

/-- `receive_data`, after the library has parsed the bytes into these events. -/
def receiveData (h2 : H2Connection Conn) :
    List LibraryEvent → Option (H2Connection Conn × List H2Event)
  | [] => some (h2, [])
  | event :: events => do
      let (h2, first) ← h2.receiveEvent library event
      let (h2, rest) ← receiveData h2 events
      some (h2, first ++ rest)

end H2Connection

end Pounce.H2
