/-
# Flow control of an HTTP/2 connection

The peer grants credit for DATA frames: to the connection as a whole and to each
stream. A frame may carry at most the smaller of the two and at most the frame
size the peer accepts, and uses up both credits by its length. WINDOW_UPDATE frames
add credit; a SETTINGS frame moves the window of every stream by the change of the
initial window, downwards too, so that a window can become negative.

This is the accounting `h2` keeps. The protocol fixes it, and the model takes it
from there.
-/

import Mathlib.Data.Int.Basic
import Mathlib.Logic.Function.Basic
import Pounce.Math.Bytes

namespace Pounce.H2

open Pounce.Math

/-- The credit the peer has granted. -/
structure FlowControl where
  /-- The credit of the connection. -/
  connection : ℤ := 65535
  /-- The credit of each open stream. -/
  streams : ℕ → Option ℤ := fun _ => none
  /-- The credit a new stream starts with. -/
  initialWindow : ℤ := 65535
  /-- The largest payload the peer accepts in one frame. -/
  maxOutboundFrameSize : ℕ := 16384
  /-- The highest stream the peer has opened. -/
  lastStream : ℕ := 0

namespace FlowControl

/-- `local_flow_control_window`: what may be sent on an open stream now. -/
def localFlowControlWindow (flow : FlowControl) (streamId : ℕ) : Option ℤ :=
  (flow.streams streamId).map (min flow.connection)

/-- A DATA frame uses up credit of its stream and of the connection. -/
def spend (flow : FlowControl) (streamId length : ℕ) : FlowControl :=
  { flow with
    connection := flow.connection - length
    streams := Function.update flow.streams streamId
      ((flow.streams streamId).map (· - length)) }

/-- WINDOW_UPDATE, for the connection or for a stream. -/
def windowUpdate (flow : FlowControl) (target : Option ℕ) (increment : ℕ) : FlowControl :=
  match target with
  | none => { flow with connection := flow.connection + increment }
  | some streamId =>
    { flow with
      streams := Function.update flow.streams streamId
        ((flow.streams streamId).map (· + increment)) }

/-- SETTINGS with an initial window and a frame size. -/
def settings (flow : FlowControl) (initialWindow maxFrameSize : ℕ) : FlowControl :=
  { flow with
    streams := fun streamId =>
      (flow.streams streamId).map (· + (initialWindow - flow.initialWindow))
    initialWindow
    maxOutboundFrameSize := maxFrameSize }

/-- The peer opens a stream: stream identifiers only go up. -/
def openStream (flow : FlowControl) (streamId : ℕ) : Option FlowControl :=
  if flow.lastStream < streamId then
    some { flow with
      streams := Function.update flow.streams streamId (some flow.initialWindow)
      lastStream := streamId }
  else none

/-- A stream that was reset takes no more data. -/
def closeStream (flow : FlowControl) (streamId : ℕ) : FlowControl :=
  { flow with streams := Function.update flow.streams streamId none }

end FlowControl

/-- A DATA frame as it is handed to h2, with the credit there is at that time. -/
structure DataFrame where
  streamId : ℕ
  data : Bytes
  endStream : Bool
  /-- The send window of the stream. -/
  window : ℤ
  /-- The frame size the peer accepts. -/
  maxFrameSize : ℕ
  deriving DecidableEq, Repr

/-- The frame is within the credit: h2 raises neither `FlowControlError` nor
`FrameTooLargeError`. -/
def DataFrame.Fits (frame : DataFrame) : Prop :=
  frame.data.length ≤ frame.window ∧ frame.data.length ≤ frame.maxFrameSize

instance (frame : DataFrame) : Decidable frame.Fits := inferInstanceAs (Decidable (_ ∧ _))

end Pounce.H2
