/-
# The request queue

`create_queue_wrapper` lets a bounded number of requests into an application and answers the
others with 503. A slot is a unit of a semaphore, and the depth is counted beside it: up in
`acquire`, under a lock, and down in `release`, without one.

All requests are tasks of one event loop. Each of them is somewhere in the wrapper when it
waits, and every step takes one of them to the next await: these are the semaphore and the
locks when they are not free, the calls of `send`, and the application, which may wait as it
likes, return or raise. A task may be cancelled wherever it waits.

In a bounded queue no task ever waits for the semaphore or for a lock: the semaphore is only
asked when it is free, and no lock is held at an await. So a slot is taken and counted in one
turn, with the `try` that releases it entered in the same turn.
-/

import Pounce.Asgi.Messages
import Pounce.Math.Asyncio
import Pounce.Math.Indexed
import Pounce.Math.Transition

namespace Pounce

open Pounce.Asgi Pounce.Math Pounce.Math.Asyncio Pounce.Math.Bytes

/-! ## State -/

/-- What a wrapper is created with. -/
structure QueueConfig where
  /-- Zero is for no limit. -/
  maxDepth : ℕ
  hasMetrics : Bool := true

/-- `RequestQueue`. -/
structure RequestQueue where
  semaphore : Semaphore
  queueDepth : ℕ := 0
  queueDepthLock : Lock := {}
  deriving DecidableEq, Repr

/-- `QueueMetrics`, without the times. -/
structure QueueMetrics where
  totalQueued : ℕ := 0
  totalRejected : ℕ := 0
  lock : Lock := {}
  deriving DecidableEq, Repr

/-- Where a request waits. The flag tells that its task is to be cancelled though what it waits
for is done. -/
inductive RequestPhase
  /-- For the semaphore. -/
  | acquiring (mustCancel : Bool)
  /-- For the lock of the depth. -/
  | counting (mustCancel : Bool)
  /-- For the lock of the metrics, in `record_queued`. -/
  | recordingQueued (mustCancel : Bool)
  /-- For the lock of the metrics, in `record_rejected`. -/
  | recordingRejected (mustCancel : Bool)
  /-- For the start of the 503. -/
  | sendingStart
  /-- For its body. -/
  | sendingBody
  /-- In the application, with a slot. -/
  | inside
  /-- In the application, with a scope that is not HTTP. -/
  | direct
  | ended
  deriving DecidableEq, Repr

/-- What can be observed. -/
inductive QueueEvent
  /-- The wrapper is called with an HTTP scope. -/
  | arrived (request : ℕ)
  /-- `acquire` returns `True`. -/
  | acquired (request : ℕ)
  /-- `release` is called. -/
  | released (request : ℕ)
  /-- The wrapper calls `send`. -/
  | sent (request : ℕ) (message : SendMessage)
  deriving DecidableEq, Repr

/-- The start of the answer when the queue is full. -/
def overloadedStart : SendMessage :=
  .responseStart 503 [(ascii "content-type", ascii "text/plain"), (ascii "retry-after", ascii "5")]

/-- Its body. -/
def overloadedBody : SendMessage :=
  .responseBody (ascii "Service Unavailable - Server Overloaded") false

/-- A wrapper and the requests that have come to it. -/
structure QueueWorld where
  queue : RequestQueue
  metrics : QueueMetrics := {}
  requests : List RequestPhase := []
  /-- What has been observed, oldest first. -/
  history : List QueueEvent := []
  deriving DecidableEq, Repr

/-! ## The queue -/

/-- `RequestQueue(max_depth)`. -/
def RequestQueue.create (maxDepth : ℕ) : RequestQueue where
  semaphore := { value := if 0 < maxDepth then maxDepth else 100000 }

/-- `release`. -/
def RequestQueue.release (queue : RequestQueue) : RequestQueue :=
  { queue with
    semaphore := queue.semaphore.release
    queueDepth := queue.queueDepth - 1 }

/-- `get_depth`. -/
def RequestQueue.getDepth (queue : RequestQueue) : ℕ := queue.queueDepth

namespace QueueWorld

variable (config : QueueConfig) (world : QueueWorld) (request : ℕ)

/-- The request waits there. -/
def goTo (phase : RequestPhase) : QueueWorld :=
  { world with requests := world.requests.set request phase }

/-- Something is observed. -/
def observe (event : QueueEvent) : QueueWorld :=
  { world with history := world.history ++ [event] }

/-- Enter the application. -/
def enter : QueueWorld := world.goTo request .inside

/-- Leave with the slot. -/
def release : QueueWorld :=
  ({ world with queue := world.queue.release }.observe (.released request)).goTo request .ended

/-- With the lock of the metrics, take note of a request that was queued. -/
def queued (lock : Lock) : QueueWorld :=
  { world with
    metrics := { world.metrics with
      totalQueued := world.metrics.totalQueued + 1
      lock := lock.release } }.enter request

/-- `record_queued`, and then the application. -/
def recordQueued : QueueWorld :=
  if config.hasMetrics then
    match world.metrics.lock.acquire with
    | some lock => world.queued request lock
    | none =>
        { world with metrics := { world.metrics with lock := world.metrics.lock.park request } }.goTo
          request (.recordingQueued false)
  else world.enter request

/-- With the lock of the depth, count the slot. Then `acquire` returns. -/
def counted (lock : Lock) : QueueWorld :=
  ({ world with
    queue := { world.queue with
      queueDepth := world.queue.queueDepth + 1
      queueDepthLock := lock.release } }.observe (.acquired request)).recordQueued config request

/-- Count the slot, once the lock is free. -/
def count : QueueWorld :=
  match world.queue.queueDepthLock.acquire with
  | some lock => world.counted config request lock
  | none =>
      { world with
        queue := { world.queue with
          queueDepthLock := world.queue.queueDepthLock.park request } }.goTo
        request (.counting false)

/-- Take a unit of the semaphore. -/
def take : QueueWorld :=
  match world.queue.semaphore.acquire with
  | some semaphore =>
      { world with queue := { world.queue with semaphore } }.count config request
  | none =>
      { world with
        queue := { world.queue with
          semaphore := world.queue.semaphore.park request } }.goTo request (.acquiring false)

/-- Send the start of the 503. -/
def answer : QueueWorld :=
  (world.observe (.sent request overloadedStart)).goTo request .sendingStart

/-- With the lock of the metrics, take note of a request that was rejected. -/
def rejected (lock : Lock) : QueueWorld :=
  { world with
    metrics := { world.metrics with
      totalRejected := world.metrics.totalRejected + 1
      lock := lock.release } }.answer request

/-- `record_rejected`, and then the answer. -/
def recordRejected : QueueWorld :=
  if config.hasMetrics then
    match world.metrics.lock.acquire with
    | some lock => world.rejected request lock
    | none =>
        { world with metrics := { world.metrics with lock := world.metrics.lock.park request } }.goTo
          request (.recordingRejected false)
  else world.answer request

/-- `acquire`, and what comes after it. -/
def acquire : QueueWorld :=
  if config.maxDepth = 0 then world.take config request
  else if world.queue.semaphore.locked then world.recordRejected config request
  else world.take config request

/-- A new request. -/
def arrive (http : Bool) : QueueWorld :=
  let request := world.requests.length
  let world := { world with requests := world.requests ++ [.direct] }
  if http then (world.observe (.arrived request)).acquire config request else world

/-! ## Awaits that are over -/

/-- The semaphore has been waited for. -/
def afterAcquiring (mustCancel : Bool) : QueueWorld :=
  let (semaphore, granted) := world.queue.semaphore.resume request mustCancel
  let world := { world with queue := { world.queue with semaphore } }
  if granted then world.count config request else world.goTo request .ended

/-- The lock of the depth has been waited for. The slot is not released when this fails. -/
def afterCounting (mustCancel : Bool) : QueueWorld :=
  let (lock, granted) := world.queue.queueDepthLock.resume request mustCancel
  if granted then world.counted config request lock
  else { world with queue := { world.queue with queueDepthLock := lock } }.goTo request .ended

/-- The lock of the metrics has been waited for, with a slot. -/
def afterRecordingQueued (mustCancel : Bool) : QueueWorld :=
  let (lock, granted) := world.metrics.lock.resume request mustCancel
  if granted then world.queued request lock
  else { world with metrics := { world.metrics with lock } }.release request

/-- The lock of the metrics has been waited for, without a slot. -/
def afterRecordingRejected (mustCancel : Bool) : QueueWorld :=
  let (lock, granted) := world.metrics.lock.resume request mustCancel
  if granted then world.rejected request lock
  else { world with metrics := { world.metrics with lock } }.goTo request .ended

/-- Go on with what was waited for in a queue of waiters, if it is over. -/
def onceDone (waiters : List Waiter) (next : QueueWorld) : Option QueueWorld :=
  if futureOf waiters request = some .pending then none else some next

/-- A task that waits in a queue of waiters goes on. -/
def proceed : Option QueueWorld :=
  match world.requests[request]? with
  | some (.acquiring mustCancel) =>
      onceDone request world.queue.semaphore.waiters (world.afterAcquiring config request mustCancel)
  | some (.counting mustCancel) =>
      onceDone request world.queue.queueDepthLock.waiters
        (world.afterCounting config request mustCancel)
  | some (.recordingQueued mustCancel) =>
      onceDone request world.metrics.lock.waiters (world.afterRecordingQueued request mustCancel)
  | some (.recordingRejected mustCancel) =>
      onceDone request world.metrics.lock.waiters (world.afterRecordingRejected request mustCancel)
  | _ => none

/-- A call of the application or of `send` is over. -/
def finish (raised : Bool) : Option QueueWorld :=
  match world.requests[request]? with
  | some .inside => some (world.release request)
  | some .direct => some (world.goTo request .ended)
  | some .sendingStart =>
      some (if raised then world.goTo request .ended
        else (world.observe (.sent request overloadedBody)).goTo request .sendingBody)
  | some .sendingBody => some (world.goTo request .ended)
  | _ => none

/-- A task that waits in a queue of waiters is cancelled. Elsewhere a cancellation is one of the
exceptions of the call. -/
def cancel : Option QueueWorld :=
  match world.requests[request]? with
  | some (.acquiring _) =>
      let semaphore := world.queue.semaphore
      some ({ world with
        queue := { world.queue with semaphore := semaphore.cancel request } }.goTo request
        (.acquiring (woken semaphore.waiters request)))
  | some (.counting _) =>
      let lock := world.queue.queueDepthLock
      some ({ world with
        queue := { world.queue with queueDepthLock := lock.cancel request } }.goTo request
        (.counting (woken lock.waiters request)))
  | some (.recordingQueued _) =>
      let lock := world.metrics.lock
      some ({ world with
        metrics := { world.metrics with lock := lock.cancel request } }.goTo request
        (.recordingQueued (woken lock.waiters request)))
  | some (.recordingRejected _) =>
      let lock := world.metrics.lock
      some ({ world with
        metrics := { world.metrics with lock := lock.cancel request } }.goTo request
        (.recordingRejected (woken lock.waiters request)))
  | _ => none

end QueueWorld

/-- What happens to a wrapper. -/
inductive QueueAction
  | arrive (http : Bool)
  | proceed (request : ℕ)
  | finish (request : ℕ) (raised : Bool)
  | cancel (request : ℕ)
  deriving DecidableEq, Repr

/-- One turn. -/
def QueueWorld.step (config : QueueConfig) (world : QueueWorld) : QueueAction → Option QueueWorld
  | .arrive http => some (world.arrive config http)
  | .proceed request => world.proceed config request
  | .finish request raised => world.finish request raised
  | .cancel request => world.cancel request

/-- A wrapper and its requests. -/
def queueMachine (config : QueueConfig) : Machine QueueWorld QueueAction where
  init world := world = { queue := .create config.maxDepth }
  step world action := world.step config action

end Pounce
