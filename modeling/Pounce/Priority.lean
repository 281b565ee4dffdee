/-
# The priority scheduler

`PriorityScheduler` decides which HTTP/2 stream writes next (RFC 9218). It keeps
the priority of every stream that has one and, for each urgency, one queue of
ready streams of each kind. The stream picked is the first non-incremental one of
the most urgent non-empty urgency, or else its first incremental one.

The dictionaries are finite maps. The events of `await_turn` are not part of this
state: clearing and waiting happen at once, so all that an event says is whether
its waiters have been woken, and the send coroutines keep that themselves.
-/

import Mathlib.Data.List.AList
import Mathlib.Data.List.Sort
import Pounce.Math.Bytes

namespace Pounce

open Pounce.Math Pounce.Math.Bytes

/-- Parsed priority for a single HTTP/2 stream. -/
structure StreamPriority where
  urgency : ℕ := 3
  incremental : Bool := false
  deriving DecidableEq, Repr

/-- White space of a text, as far as it is ASCII. -/
def isTextSpace (byte : UInt8) : Bool := isSpace byte || (28 ≤ byte && byte ≤ 31)

/-- One member of a Priority header. -/
def StreamPriority.readMember (priority : StreamPriority) (raw : Bytes) : StreamPriority :=
  let part := stripWhile isTextSpace raw
  if (ascii "u=").isPrefixOf part then
    match readInt (stripWhile isTextSpace (part.drop 2)) with
    | none => priority
    | some urgency =>
      if 0 ≤ urgency ∧ urgency ≤ 7 then { priority with urgency := urgency.toNat } else priority
  else if part = ascii "i" then { priority with incremental := true }
  else priority

/-- `parse_priority`. -/
def parsePriority (value : Bytes) : StreamPriority :=
  (value.splitOn 44).foldl StreamPriority.readMember {}

/-- The queue of ready streams of each urgency. -/
abbrev Buckets := AList fun _ : ℕ => List ℕ

/-- The queue of an urgency, empty if it has none. -/
def Buckets.queue (buckets : Buckets) (urgency : ℕ) : List ℕ := (buckets.lookup urgency).getD []

/-- Per-stream priorities and the ready streams of both kinds. -/
structure PriorityScheduler where
  priorities : AList fun _ : ℕ => StreamPriority := ∅
  readyNoninc : Buckets := ∅
  readyInc : Buckets := ∅
  deriving DecidableEq

namespace PriorityScheduler

/-- The stream at the head: most urgent first, non-incremental before incremental. -/
def peekLocked (scheduler : PriorityScheduler) : Option ℕ :=
  let urgencies := scheduler.readyNoninc.keys ∪ scheduler.readyInc.keys
  (urgencies.insertionSort (· ≤ ·)).findSome? fun urgency =>
    (scheduler.readyNoninc.queue urgency).head? <|> (scheduler.readyInc.queue urgency).head?

/-- Append the stream to the queue of its priority, unless it is in it. -/
def addToReady (scheduler : PriorityScheduler) (streamId : ℕ) (priority : StreamPriority) :
    PriorityScheduler :=
  let enqueue (buckets : Buckets) : Buckets :=
    let queue := buckets.queue priority.urgency
    buckets.insert priority.urgency (if streamId ∈ queue then queue else queue ++ [streamId])
  if priority.incremental then { scheduler with readyInc := enqueue scheduler.readyInc }
  else { scheduler with readyNoninc := enqueue scheduler.readyNoninc }

/-- Take the stream out of the first queue it is in, and tell whether it was in one. -/
def removeFromReady (scheduler : PriorityScheduler) (streamId : ℕ) : PriorityScheduler × Bool :=
  let holding (buckets : Buckets) := buckets.keys.find? fun urgency =>
    streamId ∈ buckets.queue urgency
  let dequeue (buckets : Buckets) (urgency : ℕ) : Buckets :=
    buckets.insert urgency ((buckets.queue urgency).erase streamId)
  match holding scheduler.readyNoninc, holding scheduler.readyInc with
  | some urgency, _ =>
    ({ scheduler with readyNoninc := dequeue scheduler.readyNoninc urgency }, true)
  | none, some urgency =>
    ({ scheduler with readyInc := dequeue scheduler.readyInc urgency }, true)
  | none, none => (scheduler, false)

/-- Set or update the priority of a stream, moving it to its new queue. -/
def setPriority (scheduler : PriorityScheduler) (streamId : ℕ) (priority : StreamPriority) :
    PriorityScheduler :=
  let (removed, wasScheduled) := scheduler.removeFromReady streamId
  let registered := { removed with priorities := removed.priorities.insert streamId priority }
  if wasScheduled then registered.addToReady streamId priority else registered

/-- Mark a stream as ready to send data, at the default priority if it has none. -/
def schedule (scheduler : PriorityScheduler) (streamId : ℕ) : PriorityScheduler :=
  scheduler.addToReady streamId ((scheduler.priorities.lookup streamId).getD {})

/-- Remove a stream from the ready set without forgetting its priority. -/
def unschedule (scheduler : PriorityScheduler) (streamId : ℕ) : PriorityScheduler :=
  (scheduler.removeFromReady streamId).1

/-- Rotate an incremental stream that just wrote a chunk at the head of its
queue; `none` if nothing is rotated. -/
def markWrote (scheduler : PriorityScheduler) (streamId : ℕ) : Option PriorityScheduler :=
  match scheduler.priorities.lookup streamId with
  | none => none
  | some priority =>
    if priority.incremental then
      match scheduler.readyInc.queue priority.urgency with
      | [] => none
      | head :: rest =>
        if head = streamId then
          let rotated := scheduler.readyInc.insert priority.urgency (rest ++ [streamId])
          some { scheduler with readyInc := rotated }
        else none
    else none

/-- Remove a stream entirely, its priority and its ready state. -/
def removeStream (scheduler : PriorityScheduler) (streamId : ℕ) : PriorityScheduler :=
  let forgotten := { scheduler with priorities := scheduler.priorities.erase streamId }
  (forgotten.removeFromReady streamId).1

/-- What `await_turn` checks before it lets the stream write: a stream without a
registered priority is not held back. -/
def turnGranted (scheduler : PriorityScheduler) (streamId : ℕ) : Bool :=
  (scheduler.priorities.lookup streamId).isNone || scheduler.peekLocked = some streamId

end PriorityScheduler

end Pounce
