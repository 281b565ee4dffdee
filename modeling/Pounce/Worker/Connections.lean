/-
# The connections of an asynchronous worker

A worker has a task for every connection it has accepted. `_handle_connection` turns the
connection away with 503 while the worker drains or is at capacity, and otherwise counts it
as active, serves it, closes it and waits for the transport to detach, however the serving
has ended. Only then it counts the connection out. `_run_connection`, which the task runs,
closes and waits once more.

All tasks run on one event loop, so what a task does between two awaits is one step. What
happens while a connection is served does not touch the count and is left out; it ends with a
return, an error or a cancellation, anywhere. A transport may detach at any time: when its
buffer is flushed after it was closed, or because it was reset or aborted.

To cancel a task that waits for the transport is to cancel the future it waits for, so it
does not wait a second time.

The count is exact for what it counts: the tasks past admission that are not done with their
connection. That is more than the transports that have not detached, since a request may
still run after its client is gone. It is never less, as long as no task is cancelled where
it waits for the transport.
-/

import Mathlib.Algebra.Order.Ring.Int
import Mathlib.Data.List.Count
import Pounce.Lifecycle
import Pounce.Math.Transition

namespace Pounce.Worker

open Pounce.Math

/-! ## Tasks -/

/-- Where the task of a connection is. -/
inductive TaskPhase
  /-- It has not run yet. -/
  | created
  /-- In one of the branches that answer with 503. -/
  | rejecting
  /-- In the `try` of HTTP/1.1 or of HTTP/2. -/
  | serving (protocol : ConnectionProtocol)
  /-- Waiting for the transport, with the connection still counted. -/
  | closing
  /-- Waiting for the transport, with nothing to count. -/
  | leaving
  | ended
  deriving DecidableEq, Repr

/-- The task of a connection. -/
structure ConnectionTask where
  phase : TaskPhase := .created
  /-- The transport has detached. -/
  detached : Bool := false
  /-- The connection has been counted. Nothing depends on this. -/
  admitted : Bool := false
  /-- The task was cancelled while it waited for the transport, to count the connection out.
  Nothing depends on this. -/
  abandoned : Bool := false
  deriving DecidableEq, Repr

/-- The task counts. -/
def TaskPhase.counts : TaskPhase → Bool
  | .serving _ | .closing => true
  | _ => false

/-- What a worker keeps of its connections. -/
structure WorkerConnections where
  draining : Bool := false
  activeConnections : ℤ := 0
  tasks : List ConnectionTask := []
  /-- What the collector was given, oldest first. -/
  lifecycle : List LifecycleEvent := []
  deriving DecidableEq, Repr

namespace WorkerConnections

variable (maxConnections : ℕ) (worker : WorkerConnections) (connection : ℕ)
  (task : ConnectionTask)

/-- `is_idle`. -/
def isIdle : Bool := worker.activeConnections = 0

/-- A task is changed. -/
def put : WorkerConnections := { worker with tasks := worker.tasks.set connection task }

/-- The collector is given an event. -/
def emit (event : LifecycleEvent) : WorkerConnections :=
  { worker with lifecycle := worker.lifecycle ++ [event] }

/-- Close, and wait for the transport unless it has detached. -/
def leave : WorkerConnections :=
  worker.put connection { task with phase := if task.detached then .ended else .leaving }

/-- Count a connection out. -/
def release : WorkerConnections :=
  { worker with activeConnections := worker.activeConnections - 1 }

/-- Close what was counted, and wait for the transport unless it has detached. -/
def close : WorkerConnections :=
  if task.detached then worker.release.leave connection task
  else worker.put connection { task with phase := .closing }

/-- The first turn of a task. Setting the option of the socket may fail. -/
def takeIn (protocol : ConnectionProtocol) (socketFails : Bool) : WorkerConnections :=
  if worker.draining then worker.put connection { task with phase := .rejecting }
  else if 0 < maxConnections ∧ maxConnections ≤ worker.activeConnections then
    worker.put connection { task with phase := .rejecting }
  else if socketFails then worker.leave connection task
  else
    ({ worker with activeConnections := worker.activeConnections + 1 }.emit
      (.connectionOpened connection protocol)).put connection
      { task with phase := .serving protocol, admitted := true }

/-- The event of a connection that is done. HTTP/2 does not say what was served. -/
def completed (requestsServed : ℕ) (reason : CloseReason) : ConnectionProtocol → LifecycleEvent
  | .h1 => .connectionCompleted connection requestsServed 0 reason
  | .h2 => .connectionCompleted connection 0 0 .complete

/-- Serving or rejecting a connection ends, in whichever way. -/
def finish (requestsServed : ℕ) (reason : CloseReason) : Option WorkerConnections :=
  match worker.tasks[connection]? with
  | none => none
  | some task =>
      match task.phase with
      | .rejecting => some (worker.leave connection task)
      | .serving protocol =>
          some ((worker.emit (completed connection requestsServed reason protocol)).close
            connection task)
      | _ => none

/-- The transport detaches. -/
def detach : Option WorkerConnections :=
  match worker.tasks[connection]? with
  | none => none
  | some task => some (worker.put connection { task with detached := true })

/-- A task that has waited for its transport goes on. -/
def wake : Option WorkerConnections :=
  match worker.tasks[connection]? with
  | none => none
  | some task =>
      if task.detached then
        match task.phase with
        | .closing => some (worker.release.leave connection task)
        | .leaving => some (worker.put connection { task with phase := .ended })
        | _ => none
      else none

/-- A task is cancelled. -/
def cancel (requestsServed : ℕ) : Option WorkerConnections :=
  match worker.tasks[connection]? with
  | none => none
  | some task =>
      match task.phase with
      | .created | .leaving => some (worker.put connection { task with phase := .ended })
      | .rejecting => some (worker.leave connection task)
      | .serving protocol =>
          some ((worker.emit (completed connection requestsServed .complete protocol)).close
            connection task)
      | .closing =>
          some (worker.release.put connection
            { task with phase := .ended, abandoned := !task.detached })
      | .ended => none

end WorkerConnections

/-- What happens to the connections of a worker. -/
inductive ConnectionAction
  /-- A connection is accepted. -/
  | accept
  | startDraining
  /-- A task runs for the first time. -/
  | start (connection : ℕ) (protocol : ConnectionProtocol) (socketFails : Bool)
  | finish (connection requestsServed : ℕ) (reason : CloseReason)
  | detach (connection : ℕ)
  | wake (connection : ℕ)
  | cancel (connection requestsServed : ℕ)
  deriving DecidableEq, Repr

/-- One step. -/
def WorkerConnections.step (maxConnections : ℕ) (worker : WorkerConnections) :
    ConnectionAction → Option WorkerConnections
  | .accept => some { worker with tasks := worker.tasks ++ [{}] }
  | .startDraining => some { worker with draining := true }
  | .start connection protocol socketFails =>
      match worker.tasks[connection]? with
      | none => none
      | some task =>
          if task.phase = .created then
            some (worker.takeIn maxConnections connection task protocol socketFails)
          else none
  | .finish connection requestsServed reason => worker.finish connection requestsServed reason
  | .detach connection => worker.detach connection
  | .wake connection => worker.wake connection
  | .cancel connection requestsServed => worker.cancel connection requestsServed

/-- A worker and its connections. -/
def connectionsMachine (maxConnections : ℕ) : Math.Machine WorkerConnections ConnectionAction where
  init worker := worker = {}
  step worker action := worker.step maxConnections action

/-! ## What is promised -/

/-- What the count of a worker tells. -/
structure Counted (maxConnections : ℕ) (worker : WorkerConnections) : Prop where
  /-- It is the number of the tasks past admission that are not done with their connection. -/
  counted : worker.activeConnections =
    worker.tasks.countP fun task => task.admitted && task.phase.counts
  bounded : 0 < maxConnections → worker.activeConnections ≤ maxConnections
  nonneg : 0 ≤ worker.activeConnections
  /-- Nothing is left of it when all tasks have ended. -/
  emptied : (∀ task ∈ worker.tasks, task.phase = .ended) → worker.activeConnections = 0
  idle : worker.isIdle = true ↔
    ∀ task ∈ worker.tasks, task.admitted = true → task.phase.counts = false
  /-- A connection that was counted and whose transport has not detached still counts, unless its
  task was cancelled while it waited for that. -/
  attached : ∀ task ∈ worker.tasks, task.admitted = true → task.detached = false →
    task.abandoned = false → task.phase.counts = true

/-! ## One step -/

/-- What tells the tasks apart. -/
structure ConnectionTask.Sound (task : ConnectionTask) : Prop where
  admitted : task.phase.counts = true → task.admitted = true
  attached : task.admitted = true → task.detached = false → task.abandoned = false →
    task.phase.counts = true

namespace ConnectionTask

variable {task : ConnectionTask} {phase : TaskPhase}

/-- A task that is new. -/
theorem Sound.fresh : ({} : ConnectionTask).Sound :=
  ⟨fun hnot => (by cases hnot), fun hnot => (by cases hnot)⟩

/-- One whose transport detaches. -/
theorem Sound.detach (hsound : task.Sound) : ({ task with detached := true }).Sound :=
  ⟨hsound.admitted, fun _ hnot => (by cases hnot)⟩

/-- One that goes on without being counted before or after. -/
theorem Sound.move (hsound : task.Sound) (hbefore : task.phase.counts = false)
    (hafter : phase.counts = false) : ({ task with phase } : ConnectionTask).Sound := by
  constructor
  case admitted =>
    intro hcounts
    exact absurd (hafter.symm.trans hcounts) Bool.false_ne_true
  case attached =>
    intro hadmitted hdetached habandoned
    have hcounts := hsound.attached hadmitted hdetached habandoned
    exact absurd (hbefore.symm.trans hcounts) Bool.false_ne_true

/-- One that was counted out. -/
theorem sound_of_detached (hdetached : task.detached = true) (hafter : phase.counts = false) :
    ({ task with phase } : ConnectionTask).Sound :=
  ⟨fun hcounts => absurd (hafter.symm.trans hcounts) Bool.false_ne_true,
    fun _ hnot => absurd (hnot.symm.trans hdetached) Bool.false_ne_true⟩

end ConnectionTask

/-- What the steps keep. -/
structure WorkerConnections.Tallied (maxConnections : ℕ) (worker : WorkerConnections) : Prop where
  sound : ∀ task ∈ worker.tasks, task.Sound
  counted : worker.activeConnections = worker.tasks.countP (·.phase.counts)
  bounded : 0 < maxConnections → worker.activeConnections ≤ maxConnections

namespace WorkerConnections

variable {maxConnections : ℕ} {worker next : WorkerConnections} {connection : ℕ}
  {task other : ConnectionTask}

/-- Changing a task changes the number of those that count by what it counts. -/
theorem countP_put (htask : worker.tasks[connection]? = some task) :
    ((worker.tasks.set connection other).countP (·.phase.counts) : ℤ) =
      worker.tasks.countP (·.phase.counts) - (if task.phase.counts then 1 else 0) +
        if other.phase.counts then 1 else 0 := by
  obtain ⟨hlt, rfl⟩ := List.getElem?_eq_some_iff.mp htask
  have hle := List.boole_getElem_le_countP (p := fun task : ConnectionTask => task.phase.counts) hlt
  rw [List.countP_set hlt]
  by_cases hbefore : worker.tasks[connection].phase.counts = true <;>
    by_cases hafter : other.phase.counts = true <;>
      simp only [hbefore, hafter, if_true, if_false, Bool.false_eq_true] at hle ⊢ <;> omega

/-- A worker that changes a task and its count alike. -/
theorem Tallied.alike (htallied : worker.Tallied maxConnections)
    (htask : worker.tasks[connection]? = some task) (hother : other.Sound)
    (htasks : next.tasks = worker.tasks.set connection other)
    (hactive : next.activeConnections = worker.activeConnections -
      (if task.phase.counts then 1 else 0) + if other.phase.counts then 1 else 0)
    (hbounded : 0 < maxConnections → next.activeConnections ≤ maxConnections) :
    next.Tallied maxConnections := by
  constructor
  case sound =>
    intro found hfound
    rw [htasks] at hfound
    rcases List.mem_or_eq_of_mem_set hfound with hold | rfl
    · exact htallied.sound found hold
    · exact hother
  case counted => rw [hactive, htallied.counted, htasks, countP_put htask]
  case bounded => exact hbounded

/-- A worker that changes a task without counting it in or out. -/
theorem Tallied.put (htallied : worker.Tallied maxConnections)
    (htask : worker.tasks[connection]? = some task) (hother : other.Sound)
    (hcounts : other.phase.counts = task.phase.counts) :
    (worker.put connection other).Tallied maxConnections := by
  refine htallied.alike htask hother rfl ?_ htallied.bounded
  rw [hcounts, sub_add_cancel]
  rfl

/-- A worker that counts a connection out. -/
theorem Tallied.countOut (htallied : worker.Tallied maxConnections)
    (htask : worker.tasks[connection]? = some task) (hbefore : task.phase.counts = true)
    (hother : other.Sound) (hafter : other.phase.counts = false) :
    (worker.release.put connection other).Tallied maxConnections := by
  refine htallied.alike htask hother rfl ?_ ?_
  · rw [hbefore, hafter]
    exact (add_zero _).symm
  · intro hpos
    have hbounded := htallied.bounded hpos
    show worker.activeConnections - 1 ≤ maxConnections
    omega

variable (htallied : worker.Tallied maxConnections)
  (htask : worker.tasks[connection]? = some task)
include htallied htask

/-- The task is one of the sound ones. -/
theorem Tallied.sound_task : task.Sound := by
  obtain ⟨hlt, rfl⟩ := List.getElem?_eq_some_iff.mp htask
  exact htallied.sound _ (List.getElem_mem hlt)

/-- A task that does not count leaves. -/
theorem Tallied.leave (hbefore : task.phase.counts = false) :
    (worker.leave connection task).Tallied maxConnections := by
  have hafter : (if task.detached then TaskPhase.ended else .leaving).counts = false := by
    split <;> rfl
  apply htallied.put htask
  · exact (htallied.sound_task htask).move hbefore hafter
  · rw [hbefore]
    exact hafter

/-- A task closes what it has counted. -/
theorem Tallied.close (hbefore : task.phase.counts = true) :
    (worker.close connection task).Tallied maxConnections := by
  have hadmitted := (htallied.sound_task htask).admitted hbefore
  rw [WorkerConnections.close]
  split
  case isTrue hdetached =>
    apply htallied.countOut htask hbefore
    · exact ConnectionTask.sound_of_detached hdetached (by rw [if_pos hdetached]; rfl)
    · show (if task.detached then TaskPhase.ended else .leaving).counts = false
      rw [if_pos hdetached]
      rfl
  case isFalse =>
    apply htallied.put htask
    · exact ⟨fun _ => hadmitted, fun _ _ _ => rfl⟩
    · rw [hbefore]
      rfl

/-- A task runs for the first time. -/
theorem Tallied.takeIn (hcreated : task.phase = .created) (protocol : ConnectionProtocol)
    (socketFails : Bool) :
    (worker.takeIn maxConnections connection task protocol socketFails).Tallied
      maxConnections := by
  have hbefore : task.phase.counts = false := by
    rw [hcreated]
    rfl
  have hrejecting : ({ task with phase := .rejecting } : ConnectionTask).Sound :=
    (htallied.sound_task htask).move hbefore rfl
  rw [WorkerConnections.takeIn]
  split
  case isTrue => exact htallied.put htask hrejecting hbefore.symm
  case isFalse =>
    split
    case isTrue => exact htallied.put htask hrejecting hbefore.symm
    case isFalse hroom =>
      split
      case isTrue => exact htallied.leave htask hbefore
      case isFalse =>
        refine htallied.alike htask ⟨fun _ => rfl, fun _ _ _ => rfl⟩ rfl ?_ ?_
        · rw [hbefore]
          show worker.activeConnections + 1 = worker.activeConnections - 0 + 1
          rw [sub_zero]
        · intro hpos
          show worker.activeConnections + 1 ≤ maxConnections
          have hlt := not_and.mp hroom hpos
          omega

end WorkerConnections

/-- Every step keeps the count. -/
theorem WorkerConnections.Tallied.step {maxConnections : ℕ} {worker next : WorkerConnections}
    (htallied : worker.Tallied maxConnections) {action : ConnectionAction}
    (hstep : worker.step maxConnections action = some next) : next.Tallied maxConnections := by
  cases action with
  | accept =>
      obtain rfl := Option.some.inj hstep
      constructor
      case sound =>
        intro task htask
        rcases List.mem_append.mp htask with hold | hnew
        · exact htallied.sound task hold
        · rw [List.mem_singleton.mp hnew]
          exact .fresh
      case counted =>
        rw [List.countP_append]
        exact htallied.counted
      case bounded => exact htallied.bounded
  | startDraining =>
      obtain rfl := Option.some.inj hstep
      exact ⟨htallied.sound, htallied.counted, htallied.bounded⟩
  | start connection protocol socketFails =>
      rw [WorkerConnections.step] at hstep
      split at hstep
      case h_1 => cases hstep
      case h_2 task htask =>
        obtain ⟨hcreated, rfl⟩ := Machine.of_guard hstep
        exact htallied.takeIn htask hcreated protocol socketFails
  | finish connection requestsServed reason =>
      rw [WorkerConnections.step, WorkerConnections.finish] at hstep
      split at hstep
      case h_1 => cases hstep
      case h_2 task htask =>
        split at hstep
        case h_1 hphase =>
          obtain rfl := Option.some.inj hstep
          exact htallied.leave htask (by rw [hphase]; rfl)
        case h_2 protocol hphase =>
          obtain rfl := Option.some.inj hstep
          have hemitted : (worker.emit (completed connection requestsServed reason protocol)).Tallied
              maxConnections := ⟨htallied.sound, htallied.counted, htallied.bounded⟩
          exact hemitted.close htask (by rw [hphase]; rfl)
        case h_3 => cases hstep
  | detach connection =>
      rw [WorkerConnections.step, WorkerConnections.detach] at hstep
      split at hstep
      case h_1 => cases hstep
      case h_2 task htask =>
        obtain rfl := Option.some.inj hstep
        exact htallied.put htask (htallied.sound_task htask).detach rfl
  | wake connection =>
      rw [WorkerConnections.step, WorkerConnections.wake] at hstep
      split at hstep
      case h_1 => cases hstep
      case h_2 task htask =>
        split at hstep
        case isFalse => cases hstep
        case isTrue hdetached =>
          split at hstep
          case h_1 hphase =>
            obtain rfl := Option.some.inj hstep
            have hafter : (if task.detached then TaskPhase.ended else .leaving).counts = false := by
              rw [if_pos hdetached]
              rfl
            exact htallied.countOut htask (by rw [hphase]; rfl)
              (ConnectionTask.sound_of_detached hdetached hafter) hafter
          case h_2 hphase =>
            obtain rfl := Option.some.inj hstep
            exact htallied.put htask (ConnectionTask.sound_of_detached hdetached rfl)
              (by rw [hphase]; rfl)
          case h_3 => cases hstep
  | cancel connection requestsServed =>
      rw [WorkerConnections.step, WorkerConnections.cancel] at hstep
      split at hstep
      case h_1 => cases hstep
      case h_2 task htask =>
        split at hstep
        case h_1 hphase =>
          obtain rfl := Option.some.inj hstep
          have hbefore : task.phase.counts = false := by rw [hphase]; rfl
          exact htallied.put htask ((htallied.sound_task htask).move hbefore rfl) hbefore.symm
        case h_2 hphase =>
          obtain rfl := Option.some.inj hstep
          have hbefore : task.phase.counts = false := by rw [hphase]; rfl
          exact htallied.put htask ((htallied.sound_task htask).move hbefore rfl) hbefore.symm
        case h_3 hphase =>
          obtain rfl := Option.some.inj hstep
          exact htallied.leave htask (by rw [hphase]; rfl)
        case h_4 protocol hphase =>
          obtain rfl := Option.some.inj hstep
          have hemitted : (worker.emit
              (completed connection requestsServed .complete protocol)).Tallied maxConnections :=
            ⟨htallied.sound, htallied.counted, htallied.bounded⟩
          exact hemitted.close htask (by rw [hphase]; rfl)
        case h_5 hphase =>
          obtain rfl := Option.some.inj hstep
          refine htallied.countOut htask (by rw [hphase]; rfl) ⟨fun hnot => (by cases hnot), ?_⟩ rfl
          intro _ hdetached habandoned
          have hnot : (!task.detached) = false := habandoned
          rw [show task.detached = false from hdetached] at hnot
          cases hnot
        case h_6 => cases hstep

/-- A count that is kept is a good one. -/
theorem WorkerConnections.Tallied.good {maxConnections : ℕ} {worker : WorkerConnections}
    (htallied : worker.Tallied maxConnections) : Counted maxConnections worker := by
  have hcounts : ∀ task ∈ worker.tasks,
      (task.admitted && task.phase.counts) = task.phase.counts := by
    intro task htask
    cases hphase : task.phase.counts with
    | false => exact Bool.and_false _
    | true => rw [(htallied.sound task htask).admitted hphase]; rfl
  have hcounted : worker.activeConnections =
      worker.tasks.countP fun task => task.admitted && task.phase.counts := by
    rw [htallied.counted]
    exact congrArg _ (List.countP_congr fun task htask => by rw [hcounts task htask])
  constructor
  case counted => exact hcounted
  case bounded => exact htallied.bounded
  case nonneg =>
    rw [hcounted]
    exact Int.natCast_nonneg _
  case emptied =>
    intro hended
    rw [htallied.counted, Int.natCast_eq_zero, List.countP_eq_zero]
    intro task htask
    rw [hended task htask]
    exact Bool.false_ne_true
  case idle =>
    rw [isIdle, decide_eq_true_eq, hcounted, Int.natCast_eq_zero, List.countP_eq_zero]
    simp only [Bool.and_eq_true, not_and, Bool.not_eq_true]
  case attached => exact fun task htask => (htallied.sound task htask).attached

/-! ## All runs -/

/-- In every run the count of a worker is right. -/
theorem connections_counted (maxConnections : ℕ) {worker : WorkerConnections}
    (hreach : (connectionsMachine maxConnections).Reachable worker) :
    Counted maxConnections worker := by
  have htallied : worker.Tallied maxConnections := by
    apply hreach.invariant
    · intro start hinit
      rw [show start = _ from hinit]
      exact ⟨fun _ hnot => absurd hnot List.not_mem_nil, rfl, fun _ => Int.natCast_nonneg _⟩
    · intro worker action next htallied _ hstep
      exact htallied.step hstep
  exact htallied.good

/-- A connection is served to its end beside one that is turned away. -/
def turnedAway : List ConnectionAction :=
  [.accept, .accept, .start 0 .h1 false, .start 1 .h1 false, .finish 0 1 .complete, .detach 0,
    .wake 0, .finish 1 0 .complete]

theorem connections_counted_turnedAway :
    ∃ worker, (connectionsMachine 1).run {} turnedAway = some worker ∧
      worker.tasks.map (·.phase) = [.ended, .leaving] ∧ Counted 1 worker :=
  ⟨_, rfl, by decide, connections_counted 1
    (Machine.reachable_run rfl (show (connectionsMachine 1).run {} turnedAway = some _ from rfl))⟩

/-- The client is gone while its request is served. -/
def resetWhileServed : List ConnectionAction := [.accept, .start 0 .h1 false, .detach 0]

/-- The count is not that of the transports: one that has detached counts while its request is
still served. -/
theorem connections_resetWhileServed :
    ¬ ∀ (maxConnections : ℕ) (worker : WorkerConnections),
      (connectionsMachine maxConnections).Reachable worker →
        worker.activeConnections =
          worker.tasks.countP fun task => task.admitted && !task.detached := by
  intro hclaim
  have hcount := hclaim 1 _ (Machine.reachable_run rfl
    (show (connectionsMachine 1).run {} resetWhileServed = some _ from rfl))
  exact absurd hcount (by decide)

end Pounce.Worker
