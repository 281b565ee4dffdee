/-
# Lifecycle events

Workers report what happens to connections and requests to a collector. The times, the
addresses and the number of the worker are left out here.
-/

import Pounce.Math.Bytes

namespace Pounce

open Pounce.Math

/-- The protocol of a connection when it is opened. -/
inductive ConnectionProtocol
  | h1
  | h2
  deriving DecidableEq, Repr

/-- Why a connection was closed. -/
inductive CloseReason
  | complete
  | timeout
  | clientDisconnect
  | error
  | backpressure
  | writeTimeout
  deriving DecidableEq, Repr

/-- Why a streaming response has ended. -/
inductive StreamReason
  | complete
  | clientDisconnect
  | drain
  | error
  deriving DecidableEq, Repr

/-- An event in the life of a connection. -/
inductive LifecycleEvent
  | connectionOpened (connectionId : ℕ) (protocol : ConnectionProtocol)
  | requestStarted (connectionId : ℕ) (method path : Bytes)
  | responseCompleted (connectionId status bytesSent : ℕ) (method : Bytes) (streaming : Bool)
  | streamOpened (connectionId : ℕ) (method path : Bytes)
  | streamClosed (connectionId : ℕ) (reason : StreamReason)
  | clientDisconnected (connectionId : ℕ) (duringStreaming : Bool)
  | connectionCompleted (connectionId requestsServed totalBytesSent : ℕ) (reason : CloseReason)
  deriving DecidableEq, Repr

end Pounce
