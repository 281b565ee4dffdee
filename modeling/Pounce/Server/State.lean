/-
# Lifecycle actions

What the server and its supervisor report to the lifecycle store. What the store makes of an
action, and what it shows on the screen or in the log, is left out.
-/

import Mathlib.Data.Nat.Notation

namespace Pounce

/-- An action and what the reducer takes of its payload. -/
inductive ServerAction
  | banner (effectiveWorkers : ℕ) (modeLabel : String) (workerModel : Option String)
      (gilStatus : String)
  | ready
  | shutdownStart (connections : Option ℕ)
  | shutdownDrained
  | shutdownTimeout
  | shutdownComplete
  | reloadDetected
  | reloadStart
  | reloadComplete (workers generation : Option ℕ)
  | reloadFailed
  | supervisorStarting (count : ℕ) (mode : String)
  | workerStarted
  | workerCrashed
  | workerMaxRestarts
  | supervisorShutdown
  | supervisorAllStopped
  deriving DecidableEq, Repr

end Pounce
