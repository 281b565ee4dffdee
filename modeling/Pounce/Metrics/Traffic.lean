/-
# A server and its collector

All connections of a server report to one collector, each in its own order and all of them
interleaved in any. `Traffic` is the collector with what every connection has yet to report.
A request that is handed to the pool goes on in a thread of its own.
-/

import Mathlib.Algebra.GroupWithZero.Nat
import Pounce.Math.Transition
import Pounce.Metrics
import Pounce.Metrics.Traces

namespace Pounce.Metrics

open Pounce.Math

/-! ## The machine -/

/-- What a thread has yet to report, and whether it has a request in flight. -/
structure Thread where
  inFlight : Bool := false
  rest : List Mark
  deriving DecidableEq, Repr

/-- A connection past admission, and which kind of worker it is with. -/
inductive Accepted
  | worker (run : ConnectionRun)
  | syncWorker (hasPool : Bool) (requests : List SyncRequest)
  deriving DecidableEq, Repr

/-- What a connection reports. -/
def Accepted.marks (connectionId : ℕ) : Accepted → List Mark
  | .worker run => run.marks connectionId
  | .syncWorker hasPool requests => syncMarks connectionId hasPool requests

namespace Mark

/-- What is reported. -/
def event : Mark → Option LifecycleEvent
  | .note event | .start event => some event
  | .finish event => event
  | .handOff .. => none

/-- Whether a request is in flight afterwards. -/
def after (before : Bool) : Mark → Bool
  | .note _ => before
  | .start _ => true
  | .finish _ | .handOff .. => false

/-- The thread in which a request goes on. -/
def spawned : Mark → List Thread
  | .handOff connectionId handoff => [{ inFlight := true, rest := handoff.marks connectionId }]
  | _ => []

end Mark

/-- A collector and the threads that report to it. -/
structure Traffic where
  collector : PrometheusCollector := {}
  connections : ℕ := 0
  threads : List Thread := []
  /-- What was reported, oldest first. -/
  reported : List LifecycleEvent := []

namespace Traffic

variable (traffic : Traffic)

/-- The requests that have started and not ended. -/
def inFlight : ℕ := traffic.threads.countP (·.inFlight)

/-- The bytes that were reported for finished responses. -/
def bytesReported : ℕ := (traffic.reported.map (·.responseBytes)).sum

/-- Tell the collector, if there is something to tell. -/
def tell : Option LifecycleEvent → Traffic
  | none => traffic
  | some event =>
      { traffic with
        collector := traffic.collector.record event
        reported := traffic.reported ++ [event] }

/-- A connection is accepted. -/
def connect (accepted : Accepted) : Traffic :=
  { traffic with
    connections := traffic.connections + 1
    threads := traffic.threads ++ [{ rest := accepted.marks traffic.connections }] }

/-- A thread makes its next step. -/
def turn (thread : ℕ) : Option Traffic :=
  match traffic.threads[thread]? with
  | some { inFlight, rest := mark :: rest } =>
      some ({ traffic with
        threads := traffic.threads.set thread { inFlight := mark.after inFlight, rest } ++
          mark.spawned }.tell mark.event)
  | _ => none

end Traffic

/-- What happens on a server. -/
inductive TrafficAction
  | connect (accepted : Accepted)
  | turn (thread : ℕ)
  deriving DecidableEq, Repr

/-- A server with its collector. -/
def trafficMachine : Machine Traffic TrafficAction where
  init traffic := traffic = {}
  step traffic
    | .connect accepted => some (traffic.connect accepted)
    | .turn thread => traffic.turn thread

end Pounce.Metrics
