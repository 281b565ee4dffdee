/-
# Locks and semaphores of one event loop

Tasks of one event loop take turns at their awaits. A `Lock` or a `Semaphore` is acquired
without an await if it is free and nobody is before the task; otherwise the task waits for a
future in a queue. To wake a task is to give its future a result, and to cancel it is to
cancel the future, unless it has a result already: the task goes on in a later turn, and what
has happened since is as it is.
-/

import Mathlib.Data.List.Basic

namespace Pounce.Math.Asyncio

/-- What a task waits for. -/
inductive Future
  | pending
  | done
  | cancelled
  deriving DecidableEq, Repr

/-- A waiting task. -/
structure Waiter where
  task : ℕ
  future : Future := .pending
  deriving DecidableEq, Repr

/-- Wake the first task whose future is not done, if there is one. -/
def wakeFirst : List Waiter → Option (List Waiter)
  | [] => none
  | waiter :: rest =>
      if waiter.future = .pending then some ({ waiter with future := .done } :: rest)
      else (wakeFirst rest).map (waiter :: ·)

/-- Cancel the future of a task. -/
def cancelTask (waiters : List Waiter) (task : ℕ) : List Waiter :=
  waiters.map fun waiter =>
    if waiter.task = task ∧ waiter.future = .pending then { waiter with future := .cancelled }
    else waiter

/-- The future of a task. -/
def futureOf (waiters : List Waiter) (task : ℕ) : Option Future :=
  (waiters.find? (·.task = task)).map (·.future)

/-- A task has been woken. -/
def woken (waiters : List Waiter) (task : ℕ) : Bool := futureOf waiters task = some Future.done

/-- The queue without a task. -/
def leave (waiters : List Waiter) (task : ℕ) : List Waiter :=
  waiters.filter (·.task ≠ task)

/-! ## Semaphores -/

/-- A semaphore. -/
structure Semaphore where
  value : ℕ
  waiters : List Waiter := []
  deriving DecidableEq, Repr

namespace Semaphore

variable (semaphore : Semaphore) (task : ℕ)

/-- It cannot be acquired immediately. -/
def locked : Bool := semaphore.value = 0 || semaphore.waiters.any (·.future ≠ .cancelled)

/-- Acquire it, if this is possible without waiting. -/
def acquire : Option Semaphore :=
  if semaphore.locked then none else some { semaphore with value := semaphore.value - 1 }

/-- Wait for it. -/
def park : Semaphore := { semaphore with waiters := semaphore.waiters ++ [{ task }] }

/-- A task that waits for it is cancelled. -/
def cancel : Semaphore := { semaphore with waiters := cancelTask semaphore.waiters task }

/-- Hand one unit to the first task that waits. -/
def wakeUpNext : Option Semaphore :=
  (wakeFirst semaphore.waiters).map fun waiters => { value := semaphore.value - 1, waiters }

/-- Hand out units, at most so many. -/
def wakeUp : ℕ → Semaphore → Semaphore
  | 0, semaphore => semaphore
  | count + 1, semaphore =>
      match semaphore.wakeUpNext with
      | none => semaphore
      | some next => wakeUp count next

/-- Go on after having waited. A task that is interrupted returns the unit it was handed. -/
def resume (interrupted : Bool) : Semaphore × Bool :=
  let future := futureOf semaphore.waiters task
  let failed := interrupted || future = some .cancelled
  let value :=
    if failed ∧ woken semaphore.waiters task then semaphore.value + 1 else semaphore.value
  let left : Semaphore := { value, waiters := leave semaphore.waiters task }
  (wakeUp left.value left, !failed)

/-- Release it. -/
def release : Semaphore :=
  let released := { semaphore with value := semaphore.value + 1 }
  released.wakeUpNext.getD released

/-- Without waiters only the value counts. -/
theorem locked_iff (hwaiters : semaphore.waiters = []) :
    semaphore.locked = true ↔ semaphore.value = 0 := by
  rw [locked, hwaiters, List.any_nil, Bool.or_false, decide_eq_true_eq]

/-- What is not locked is acquired. -/
theorem acquire_of_not_locked (hlocked : ¬ semaphore.locked = true) :
    semaphore.acquire = some { semaphore with value := semaphore.value - 1 } :=
  if_neg hlocked

/-- Without waiters a unit that is released is free. -/
theorem release_of_no_waiters (hwaiters : semaphore.waiters = []) :
    semaphore.release = { semaphore with value := semaphore.value + 1 } := by
  rw [release, wakeUpNext, hwaiters]
  rfl

end Semaphore

/-! ## Locks -/

/-- A lock. -/
structure Lock where
  locked : Bool := false
  waiters : List Waiter := []
  deriving DecidableEq, Repr

namespace Lock

variable (lock : Lock) (task : ℕ)

/-- Acquire it, if this is possible without waiting. -/
def acquire : Option Lock :=
  if lock.locked = false ∧ ∀ waiter ∈ lock.waiters, waiter.future = .cancelled then
    some { lock with locked := true }
  else none

/-- Wait for it. -/
def park : Lock := { lock with waiters := lock.waiters ++ [{ task }] }

/-- A task that waits for it is cancelled. -/
def cancel : Lock := { lock with waiters := cancelTask lock.waiters task }

/-- Wake the first task, if its future is not done. -/
def wakeUpFirst : Lock :=
  match lock.waiters with
  | [] => lock
  | waiter :: rest =>
      if waiter.future = .pending then
        { lock with waiters := { waiter with future := .done } :: rest }
      else lock

/-- Go on after having waited. -/
def resume (interrupted : Bool) : Lock × Bool :=
  let left := { lock with waiters := leave lock.waiters task }
  if interrupted ∨ futureOf lock.waiters task = some .cancelled then
    (if left.locked then left else left.wakeUpFirst, false)
  else ({ left with locked := true }, true)

/-- Release it. -/
def release : Lock := { lock with locked := false }.wakeUpFirst

/-- A free lock is acquired at once. -/
@[simp]
theorem acquire_free : ({} : Lock).acquire = some { locked := true } := rfl

/-- A lock that nobody waits for is free once it is released. -/
@[simp]
theorem release_held : ({ locked := true } : Lock).release = {} := rfl

end Lock

end Pounce.Math.Asyncio
