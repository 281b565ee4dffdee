/-
# Metrics

`PrometheusCollector` keeps the counters and gauges of the server, and is told every lifecycle
event. Durations are left out, except for how many there were.
-/

import Pounce.Lifecycle
import Pounce.Math.Dict

namespace Pounce

open Pounce.Math Pounce.Math.Bytes

namespace LifecycleEvent

/-- A request has started. -/
def starts : LifecycleEvent → Bool
  | .requestStarted .. => true
  | _ => false

/-- The collector takes it that a request has ended. -/
def ends : LifecycleEvent → Bool
  | .responseCompleted .. | .clientDisconnected .. => true
  | _ => false

/-- What is reported of a finished response. -/
def responseBytes : LifecycleEvent → ℕ
  | .responseCompleted _ _ bytesSent _ _ => bytesSent
  | _ => 0

/-- What is reported of a finished connection. -/
def connectionBytes : LifecycleEvent → ℕ
  | .connectionCompleted _ _ totalBytesSent _ => totalBytesSent
  | _ => 0

end LifecycleEvent

/-- What `PrometheusCollector` keeps. -/
structure PrometheusCollector where
  /-- By method and status. -/
  requestsTotal : Dict (Bytes × ℕ) ℕ := {}
  durationCount : ℕ := 0
  connectionsActive : ℕ := 0
  requestsInFlight : ℕ := 0
  streamsActive : ℕ := 0
  streamDurationCount : ℕ := 0
  bytesSentTotal : ℕ := 0

namespace PrometheusCollector

variable (collector : PrometheusCollector)

/-- `record`. No gauge falls below zero. -/
def record : LifecycleEvent → PrometheusCollector
  | .connectionOpened .. =>
      { collector with connectionsActive := collector.connectionsActive + 1 }
  | .connectionCompleted _ _ totalBytesSent _ =>
      { collector with
        connectionsActive := collector.connectionsActive - 1
        bytesSentTotal := collector.bytesSentTotal + totalBytesSent }
  | .requestStarted .. => { collector with requestsInFlight := collector.requestsInFlight + 1 }
  | .responseCompleted _ status _ method _ =>
      let key := (if method = [] then ascii "unknown" else method, status)
      { collector with
        requestsInFlight := collector.requestsInFlight - 1
        requestsTotal :=
          collector.requestsTotal.set key ((collector.requestsTotal.get key).getD 0 + 1)
        durationCount := collector.durationCount + 1 }
  | .streamOpened .. => { collector with streamsActive := collector.streamsActive + 1 }
  | .streamClosed .. =>
      { collector with
        streamsActive := collector.streamsActive - 1
        streamDurationCount := collector.streamDurationCount + 1 }
  | .clientDisconnected .. =>
      { collector with requestsInFlight := collector.requestsInFlight - 1 }

variable {collector} {event : LifecycleEvent}

theorem requestsInFlight_of_starts (hstarts : event.starts = true) :
    (collector.record event).requestsInFlight = collector.requestsInFlight + 1 := by
  cases event with
  | requestStarted => rfl
  | _ => cases hstarts

theorem requestsInFlight_of_ends (hends : event.ends = true) :
    (collector.record event).requestsInFlight = collector.requestsInFlight - 1 := by
  cases event with
  | responseCompleted => rfl
  | clientDisconnected => rfl
  | _ => cases hends

/-- Other events leave the gauge alone. -/
theorem requestsInFlight_of_neither (hstarts : event.starts = false) (hends : event.ends = false) :
    (collector.record event).requestsInFlight = collector.requestsInFlight := by
  cases event with
  | requestStarted => cases hstarts
  | responseCompleted => cases hends
  | clientDisconnected => cases hends
  | _ => rfl

/-- Bytes are counted when a connection is done. -/
theorem bytesSentTotal_record :
    (collector.record event).bytesSentTotal = collector.bytesSentTotal + event.connectionBytes := by
  cases event <;> rfl

end PrometheusCollector

end Pounce
