/-
# The streams of an HTTP/2 connection as they send

`handle_h2_connection` runs one task per stream over one `H2Connection`, one
`PriorityScheduler` and one writer. This module follows their DATA frames: the send
coroutines of the bridge, which split a body and wait for their turn and for credit,
the 500 response of a failed application, the WebSocket streams, and the frames of
the peer that change the credit meanwhile.

Tasks interleave where they await. A step is what one of them does from one such
point to the next, or one round of the loop in `create_h2_send.send`, after which
it need not yield. Heads, encoders and the request side are left out; the body of a
`send` is what is left to send after the encoder.
-/

import Pounce.H2.FlowControl
import Pounce.Math.Transition
import Pounce.Priority

namespace Pounce.H2

open Pounce.Math Pounce.Math.Bytes

/-- Where a send coroutine stands in its loop. -/
inductive Phase where
  /-- At the head of the loop, about to look at the window. -/
  | looping
  /-- In `await_turn`, with the window it looked at, and whether it was woken. -/
  | awaitingTurn (window : ℤ) (woken : Bool)
  /-- The window was exhausted: draining the transport. -/
  | draining
  /-- Waiting for `flow_control_updated`, and whether it was set. -/
  | awaitingUpdate (woken : Bool)
  deriving DecidableEq, Repr

/-- A send coroutine in its loop. -/
structure Sender where
  streamId : ℕ
  remaining : Bytes
  endStream : Bool
  phase : Phase
  deriving DecidableEq, Repr

/-- The next chunk, for the window the sender goes by. -/
def Sender.chunk (sender : Sender) (window : ℤ) (maxOutboundFrameSize : ℕ) : Bytes :=
  sender.remaining.take (min sender.remaining.length (min window.toNat maxOutboundFrameSize))

/-- The event of a stream's turn is set. -/
def Sender.wakeTurn (streamId : ℕ) (sender : Sender) : Sender :=
  match sender.phase with
  | .awaitingTurn window _ =>
    if sender.streamId = streamId then { sender with phase := .awaitingTurn window true }
    else sender
  | _ => sender

/-- `flow_control_updated` is set. -/
def Sender.wakeUpdate (sender : Sender) : Sender :=
  match sender.phase with
  | .awaitingUpdate _ => { sender with phase := .awaitingUpdate true }
  | _ => sender

/-- What the tasks of a connection share, and the DATA frames handed to h2. -/
structure Connection where
  flow : FlowControl := {}
  scheduler : PriorityScheduler := {}
  /-- The streams whose response head was sent. -/
  headSent : ℕ → Bool := fun _ => false
  senders : ℕ → Option Sender := fun _ => none
  handed : List DataFrame := []

namespace Connection

variable (conn : Connection)

/-- Wake the send coroutines that wait for the turn of a stream. -/
def wakeTurn (streamId : ℕ) : Connection :=
  { conn with senders := fun id => (conn.senders id).map (Sender.wakeTurn streamId) }

/-- `_wake_current` after a change of the scheduler. -/
def reschedule (scheduler : PriorityScheduler) : Connection :=
  match scheduler.peekLocked with
  | none => { conn with scheduler }
  | some streamId => { conn with scheduler }.wakeTurn streamId

/-- Put a send coroutine into a phase, or take it off when it is over. -/
def setSender (id : ℕ) (sender : Option Sender) : Connection :=
  { conn with senders := Function.update conn.senders id sender }

/-- Leave the loop, through its `finally`. -/
def leave (id : ℕ) (sender : Sender) : Connection :=
  let left := conn.setSender id none
  if sender.endStream then left.reschedule (left.scheduler.unschedule sender.streamId) else left

/-- `H2Connection.send_data`, and whether h2 took the frame. No frame is made of no
data unless it ends the stream. -/
def sendData (streamId : ℕ) (data : Bytes) (endStream : Bool) : Connection × Bool :=
  if data = [] ∧ ¬ endStream then (conn, true)
  else
    match conn.flow.localFlowControlWindow streamId with
    | none => (conn, false)
    | some window =>
      let frame : DataFrame :=
        { streamId, data, endStream, window, maxFrameSize := conn.flow.maxOutboundFrameSize }
      let handed := { conn with handed := conn.handed ++ [frame] }
      if frame.Fits then ({ handed with flow := conn.flow.spend streamId data.length }, true)
      else (handed, false)

/-- Send the next chunk and go back to the head of the loop, or leave it. -/
def writeChunk (id : ℕ) (sender : Sender) (window : ℤ) : Connection :=
  let chunk := sender.chunk window conn.flow.maxOutboundFrameSize
  let remaining := sender.remaining.drop chunk.length
  match conn.sendData sender.streamId chunk 
      (sender.endStream && chunk.length == sender.remaining.length) with
  | (raised, false) => raised.leave id sender
  | (sent, true) =>
    let rotated := match sent.scheduler.markWrote sender.streamId with
      | none => sent
      | some scheduler => sent.reschedule scheduler
    if remaining = [] then rotated.leave id sender
    else rotated.setSender id (some { sender with remaining, phase := .looping })

/-- The body of the 500 response. -/
def internalServerError : Bytes := ascii "Internal Server Error"

end Connection

/-- What the tasks and the peer do. -/
inductive Action where
  /-- The peer opens a stream with a request. -/
  | openStream (streamId : ℕ)
  /-- The request carries a Priority header. -/
  | setPriority (streamId : ℕ) (priority : StreamPriority)
  /-- The response head is sent. -/
  | sendHead (streamId : ℕ)
  /-- The application sends body bytes. -/
  | sendBody (id streamId : ℕ) (body : Bytes) (endStream : Bool)
  /-- One round of the loop of a send coroutine. -/
  | round (id : ℕ)
  /-- A woken send coroutine goes on in `await_turn`. -/
  | turn (id : ℕ)
  /-- The transport is drained. -/
  | drained (id : ℕ)
  /-- A send coroutine goes on after `flow_control_updated`. -/
  | updated (id : ℕ)
  /-- The write deadline of a send coroutine has passed. -/
  | deadline (id : ℕ)
  /-- A waiting send coroutine is cancelled. -/
  | cancel (id : ℕ)
  /-- The application fails before it has sent a head. -/
  | appError (streamId : ℕ)
  /-- WebSocket frames, a close frame or a rejection body are sent. -/
  | webSocketData (streamId : ℕ) (data : Bytes) (endStream : Bool)
  /-- The task of a stream ends. -/
  | finish (streamId : ℕ)
  /-- WINDOW_UPDATE arrives, for the connection or a stream. -/
  | windowUpdate (target : Option ℕ) (increment : ℕ)
  /-- SETTINGS arrives. -/
  | settings (initialWindow maxFrameSize : ℕ)
  /-- The stream is reset, by the peer or by the server. -/
  | reset (streamId : ℕ)
  deriving DecidableEq, Repr

namespace Connection

variable (conn : Connection)

/-- `send` with body bytes, up to the loop; an empty body does not enter it. -/
def sendBody (id streamId : ℕ) (body : Bytes) (endStream : Bool) : Connection :=
  if body = [] then
    let idle := conn.reschedule (conn.scheduler.unschedule streamId)
    (idle.sendData streamId [] endStream).1
  else
    let ready := conn.reschedule (conn.scheduler.schedule streamId)
    ready.setSender id (some { streamId, remaining := body, endStream, phase := .looping })

/-- One round of the loop: look at the window, then wait for credit, wait for the
turn, or write. -/
def round (id : ℕ) (sender : Sender) : Connection :=
  match conn.flow.localFlowControlWindow sender.streamId with
  | none => conn.leave id sender
  | some window =>
    if window ≤ 0 then conn.setSender id (some { sender with phase := .draining })
    else if conn.scheduler.turnGranted sender.streamId then conn.writeChunk id sender window
    else conn.setSender id (some { sender with phase := .awaitingTurn window false })

/-- After the drain: give the turn away, look again and wait for credit. -/
def drained (id : ℕ) (sender : Sender) : Connection :=
  let yielded := conn.reschedule (conn.scheduler.unschedule sender.streamId)
  match conn.flow.localFlowControlWindow sender.streamId with
  | none => yielded.leave id sender
  | some window =>
    if window ≤ 0 then
      yielded.setSender id (some { sender with phase := .awaitingUpdate false })
    else
      let ready := yielded.reschedule (yielded.scheduler.schedule sender.streamId)
      ready.setSender id (some { sender with phase := .looping })

/-- The step of a send coroutine at the action that fits its phase. -/
def senderStep (id : ℕ) (sender : Sender) : Action → Option Connection
  | .round _ => if sender.phase = .looping then some (conn.round id sender) else none
  | .turn _ =>
    match sender.phase with
    | .awaitingTurn window true =>
      if conn.scheduler.turnGranted sender.streamId then some (conn.writeChunk id sender window)
      else some (conn.setSender id (some { sender with phase := .awaitingTurn window false }))
    | _ => none
  | .drained _ => if sender.phase = .draining then some (conn.drained id sender) else none
  | .updated _ =>
    if sender.phase = .awaitingUpdate true then
      let ready := conn.reschedule (conn.scheduler.schedule sender.streamId)
      some (ready.setSender id (some { sender with phase := .looping }))
    else none
  | .deadline _ =>
    let closed := { conn with flow := conn.flow.closeStream sender.streamId }
    match sender.phase with
    | .draining =>
      some ((closed.reschedule (closed.scheduler.unschedule sender.streamId)).leave id sender)
    | .awaitingUpdate _ => some (closed.leave id sender)
    | _ => none
  | .cancel _ => if sender.phase = .looping then none else some (conn.leave id sender)
  | _ => none

/-- One step of the tasks or of the peer. -/
def step (action : Action) : Option Connection :=
  match action with
  | .openStream streamId => (conn.flow.openStream streamId).map fun flow => { conn with flow }
  | .setPriority streamId priority =>
    some (conn.reschedule (conn.scheduler.setPriority streamId priority))
  | .sendHead streamId =>
    if (conn.flow.streams streamId).isSome ∧ ¬ conn.headSent streamId then
      some { conn with headSent := Function.update conn.headSent streamId true }
    else none
  | .sendBody id streamId body endStream =>
    if conn.headSent streamId ∧ conn.senders id = none then
      some (conn.sendBody id streamId body endStream)
    else none
  | .round id | .turn id | .drained id | .updated id | .deadline id | .cancel id =>
    (conn.senders id).bind fun sender => conn.senderStep id sender action
  | .appError streamId =>
    if (conn.flow.streams streamId).isSome ∧ ¬ conn.headSent streamId then
      let failed := { conn with headSent := Function.update conn.headSent streamId true }
      some (failed.sendData streamId internalServerError true).1
    else none
  | .webSocketData streamId data endStream => some (conn.sendData streamId data endStream).1
  | .finish streamId =>
    some ((conn.reschedule (conn.scheduler.removeStream streamId)).wakeTurn streamId)
  | .windowUpdate target increment =>
    some { conn with
      flow := conn.flow.windowUpdate target increment
      senders := fun id => (conn.senders id).map Sender.wakeUpdate }
  | .settings initialWindow maxFrameSize =>
    some { conn with flow := conn.flow.settings initialWindow maxFrameSize }
  | .reset streamId => some { conn with flow := conn.flow.closeStream streamId }

end Connection

/-- The connection after its preface, and the steps of its tasks and its peer. -/
def connection : Machine Connection Action where
  init conn := conn = {}
  step := Connection.step

end Pounce.H2
