/-
# The supervisor

The supervisor keeps one handle per worker and runs three kinds of threads over its
fields: the thread of `run`, whose watch loop respawns dead workers, a thread that
calls `restart_workers` or `graceful_reload`, and the workers, which may die at any
time. A second call to reload returns at once while one is in progress, so that one
reload thread is enough.

A step is what a thread does between two points where another one can come in: a
section under the lifecycle lock, one evaluation of the shutdown event, one worker
started and entered in its list. The watch loop walks over the list object that
`_handles` named when the walk began, while a reload may empty that object or let
`_handles` name another; lists are therefore kept under numbers. Targets are
numbered in the order in which they are started.

Left out are the sockets, the queues, the async pool, the distributor and the HTTP/3
workers, and the wording of the logs. Times are in milliseconds.
-/

import Mathlib.Algebra.Group.Nat.Defs
import Mathlib.Data.List.Basic
import Mathlib.Data.List.Range
import Mathlib.Logic.Function.Basic
import Pounce.Math.Transition

namespace Pounce

open Pounce.Math

/-- How workers are run: `WorkerMode`. -/
inductive WorkerMode where
  | thread
  | process
  | subinterpreter
  deriving DecidableEq, Repr

/-- `_WorkerHandle`: a started worker, its id and its generation. -/
structure WorkerHandle where
  workerId : ℕ
  target : ℕ
  generation : ℕ
  deriving DecidableEq, Repr

namespace Supervisor

/-- `_MAX_RESTARTS`. -/
def maxRestarts : ℕ := 5

/-- `_RESTART_WINDOW`. -/
def restartWindow : ℕ := 60000

/-- The wait before a restart that is the `count`-th in its window. -/
def backoff (count : ℕ) : ℕ := min (500 * 2 ^ (count - 1)) 30000

/-- Where a walk over a list of handles stands. -/
structure Cursor where
  list : ℕ
  index : ℕ
  deriving DecidableEq, Repr

/-- The walk goes on with the next handle. -/
def Cursor.next (cursor : Cursor) : Cursor := { cursor with index := cursor.index + 1 }

/-- Where the thread of `run` stands in `_watch` and `_respawn_worker`. -/
inductive Watch where
  /-- At `while not self._shutdown_event.is_set()`. -/
  | top
  /-- In `wait(timeout=_HEALTH_CHECK_INTERVAL)`. -/
  | waiting
  /-- Past the wait, about to look at the event. -/
  | woken
  /-- In the walk over the handles. -/
  | scanning (cursor : Cursor)
  /-- A handle is dead; about to look at the event. -/
  | dead (cursor : Cursor) (handle : WorkerHandle)
  /-- About to enter `_respawn_worker` with the id of the handle. -/
  | respawn (cursor : Cursor) (handle : WorkerHandle)
  /-- Past the locked section, with the handle that has the id. -/
  | budget (cursor : Cursor) (workerId : ℕ) (handle : WorkerHandle)
  /-- In the back-off wait, until a time, and whether the event was set meanwhile. -/
  | backoff (cursor : Cursor) (workerId : ℕ) (handle : WorkerHandle) (deadline : ℕ)
      (notified : Bool)
  /-- About to spawn. -/
  | spawning (cursor : Cursor) (workerId : ℕ) (handle : WorkerHandle)
  /-- Out of `_watch`, in `_drain`. -/
  | left
  deriving DecidableEq, Repr

/-- The locals of `_graceful_reload_impl`. -/
structure Rolling where
  oldHandles : List WorkerHandle
  oldGeneration : ℕ
  newHandles : List WorkerHandle
  deriving DecidableEq, Repr

/-- Where the reload thread stands. -/
inductive Reload where
  | idle
  /-- `restart_workers` has taken the flag. -/
  | restarting
  /-- The event is set, the workers are being joined. -/
  | joining
  /-- Joined and force-stopped, about to look whether all are dead. -/
  | joined
  /-- The event is cleared, the handles are not yet. -/
  | clearing
  /-- Fresh workers are being spawned. -/
  | respawning (next : ℕ)
  /-- `graceful_reload` has taken the flag. -/
  | rolling
  /-- The new generation is being spawned. -/
  | spawning (rolling : Rolling) (next : ℕ)
  /-- The new generation is spawned, and waited for in subinterpreter mode. -/
  | ready (rolling : Rolling)
  /-- A replacement failed: the new generation is being stopped. -/
  | failing (rolling : Rolling)
  /-- The old generation is being drained and joined. -/
  | draining (rolling : Rolling)
  /-- Completed, about to release the flag. -/
  | completed
  /-- Given up, about to release the flag. -/
  | aborted
  deriving DecidableEq, Repr

/-- The fields of the supervisor and the threads that work on them. -/
structure State where
  /-- `_shutdown_event`. -/
  shutdown : Bool := false
  /-- `_generation`. -/
  generation : ℕ := 0
  /-- The list objects. -/
  lists : ℕ → List WorkerHandle
  /-- The list that `_handles` names. -/
  handles : ℕ := 0
  /-- The next list object. -/
  nextList : ℕ := 1
  /-- Which targets are alive. -/
  alive : ℕ → Bool
  /-- The next target. -/
  nextTarget : ℕ
  /-- The recent restarts of each handle, by its target. -/
  restarts : ℕ → List ℕ := fun _ => []
  /-- The clock. -/
  now : ℕ := 0
  watch : Watch := .top
  reload : Reload := .idle
  /-- Workers of a retired generation that were alive when the reload gave them up:
  threads cannot be terminated. -/
  outlived : List WorkerHandle := []

namespace State

variable (state : State)

/-- The content of `_handles`. -/
def current : List WorkerHandle := state.lists state.handles

/-- The content of a list object changes. -/
def setCurrent (list : List WorkerHandle) : State :=
  { state with lists := Function.update state.lists state.handles list }

/-- `_handles` names a new list object. -/
def assign (list : List WorkerHandle) : State :=
  { state with
    lists := Function.update state.lists state.nextList list
    handles := state.nextList
    nextList := state.nextList + 1 }

/-- The handle of the next worker that is started. -/
def fresh (workerId : ℕ) : WorkerHandle :=
  { workerId, target := state.nextTarget, generation := state.generation }

/-- Start a target. -/
def start : State :=
  { state with
    alive := Function.update state.alive state.nextTarget true
    nextTarget := state.nextTarget + 1 }

/-- `_spawn_worker`: start a worker and replace or append its handle. -/
def spawnWorker (workerId : ℕ) : State :=
  let list := state.current
  let handle := state.fresh workerId
  state.start.setCurrent
    (if workerId < list.length then list.set workerId handle else list ++ [handle])

/-- `_force_stop` ends processes and leaves threads alone. -/
def forceStop (mode : WorkerMode) (handles : List WorkerHandle) : State :=
  if mode = .process then
    { state with
      alive := fun target => state.alive target && !(handles.map WorkerHandle.target).contains target }
  else state

/-- `_shutdown_event.set()`, which ends a back-off wait. -/
def setShutdown : State :=
  { state with
    shutdown := true
    watch := match state.watch with
      | .backoff cursor workerId handle deadline _ => .backoff cursor workerId handle deadline true
      | watch => watch }

/-- The handles that are alive. -/
def living (handles : List WorkerHandle) : List WorkerHandle :=
  handles.filter fun handle => state.alive handle.target

/-! ## The thread of `run` -/

/-- `_respawn_worker` after its locked section: prune the restarts, give up beyond the
budget, or wait. -/
def budget (cursor : Cursor) (workerId : ℕ) (handle : WorkerHandle) : State :=
  let recent := (state.restarts handle.target).filter fun time => state.now - time < restartWindow
  if maxRestarts ≤ recent.length then
    { state with
      restarts := Function.update state.restarts handle.target recent
      watch := .scanning cursor.next }
  else
    { state with
      restarts := Function.update state.restarts handle.target (recent ++ [state.now])
      watch := .backoff cursor workerId handle
        (state.now + Supervisor.backoff (recent.length + 1)) false }

/-- The next step of the watch loop; `none` while it waits for the clock. -/
def watchStep : Option State :=
  match state.watch with
  | .top =>
    if state.shutdown then some { state.setShutdown with watch := .left }
    else some { state with watch := .waiting }
  | .waiting => some { state with watch := .woken }
  | .woken =>
    if state.shutdown then some { state.setShutdown with watch := .left }
    else some { state with watch := .scanning { list := state.handles, index := 0 } }
  | .scanning cursor =>
    match (state.lists cursor.list)[cursor.index]? with
    | none => some { state with watch := .top }
    | some handle =>
      if state.alive handle.target then some { state with watch := .scanning cursor.next }
      else some { state with watch := .dead cursor handle }
  | .dead cursor handle =>
    if state.shutdown then some { state with watch := .top }
    else some { state with watch := .respawn cursor handle }
  | .respawn cursor handle =>
    if state.reload ≠ .idle then some { state with watch := .scanning cursor.next }
    else
      match state.current[handle.workerId]? with
      | none => some { state with watch := .scanning cursor.next }
      | some found => some { state with watch := .budget cursor handle.workerId found }
  | .budget cursor workerId handle => some (state.budget cursor workerId handle)
  | .backoff cursor workerId handle deadline notified =>
    if notified ∨ state.shutdown then some { state with watch := .scanning cursor.next }
    else if deadline ≤ state.now then some { state with watch := .spawning cursor workerId handle }
    else none
  | .spawning cursor workerId _ =>
    some { state.spawnWorker workerId with watch := .scanning cursor.next }
  | .left => none

/-! ## The reload thread -/

variable (mode : WorkerMode) (effectiveWorkers : ℕ)

/-- `_graceful_reload_impl` starts one more replacement. Thread workers go into a list
of the reload, subinterpreter workers into `_handles`. -/
def spawnReplacement (rolling : Rolling) (workerId : ℕ) : State :=
  if mode = .subinterpreter then
    { state.spawnWorker workerId with reload := .spawning rolling (workerId + 1) }
  else
    { state.start with
      reload := .spawning
        { rolling with newHandles := rolling.newHandles ++ [state.fresh workerId] }
        (workerId + 1) }

/-- The next step of `_restart_workers_impl` or `_graceful_reload_impl`. -/
def reloadStep : Option State :=
  match state.reload with
  | .idle => none
  | .restarting => some { state.setShutdown with reload := .joining }
  | .joining => some { state.forceStop mode state.current with reload := .joined }
  | .joined =>
    if state.living state.current ≠ [] then some { state with reload := .aborted }
    else some { state with shutdown := false, reload := .clearing }
  | .clearing => some { state.setCurrent [] with reload := .respawning 0 }
  | .respawning next =>
    if next < effectiveWorkers then
      some { state.spawnWorker next with reload := .respawning (next + 1) }
    else some { state with reload := .completed }
  | .rolling =>
    let rolling : Rolling :=
      { oldHandles := state.current, oldGeneration := state.generation, newHandles := [] }
    let begun := if mode = .subinterpreter then state.assign [] else state
    some { begun with generation := state.generation + 1, reload := .spawning rolling 0 }
  | .spawning rolling next =>
    if next < effectiveWorkers then some (state.spawnReplacement mode rolling next)
    else if mode = .subinterpreter then
      some { state with reload := .ready { rolling with newHandles := state.current } }
    else some { state with reload := .ready rolling }
  | .ready rolling => some { state with reload := .draining rolling }
  | .failing rolling =>
    let stopped := state.forceStop mode rolling.newHandles
    some { stopped.assign rolling.oldHandles with
      generation := rolling.oldGeneration
      reload := .aborted
      outlived := stopped.outlived ++ stopped.living rolling.newHandles }
  | .draining rolling =>
    let stopped := state.forceStop mode rolling.oldHandles
    some { stopped.assign rolling.newHandles with
      reload := .completed
      outlived := stopped.outlived ++ stopped.living rolling.oldHandles }
  | .completed | .aborted => some { state with reload := .idle }

end State

/-- What the threads do. -/
inductive Action where
  /-- The thread of `run` takes a step. -/
  | watch
  /-- The reload thread takes a step. -/
  | advance
  /-- A replacement subinterpreter reports an error or is not ready in time. -/
  | replacementFailed
  /-- `restart_workers` is called. -/
  | restartWorkers
  /-- `graceful_reload` is called. -/
  | gracefulReload
  /-- A worker ends, by itself or in a crash. -/
  | die (target : ℕ)
  /-- Time passes. -/
  | tick (elapsed : ℕ)
  deriving DecidableEq, Repr

/-- One step of a thread; a reload that finds one in progress returns at once. -/
def step (mode : WorkerMode) (effectiveWorkers : ℕ) (state : State) : Action → Option State
  | .watch => state.watchStep
  | .advance => state.reloadStep mode effectiveWorkers
  | .replacementFailed =>
    match state.reload with
    | .ready rolling =>
      if mode = .subinterpreter then some { state with reload := .failing rolling } else none
    | _ => none
  | .restartWorkers =>
    if state.reload = .idle then some { state with reload := .restarting } else some state
  | .gracefulReload =>
    if state.reload = .idle then
      some { state with reload := if mode = .process then .restarting else .rolling }
    else some state
  | .die target =>
    if state.alive target then
      some { state with alive := Function.update state.alive target false }
    else none
  | .tick elapsed => some { state with now := state.now + elapsed }

/-- The supervisor when `run` enters `_watch`: one worker per id, of generation zero. -/
def begun (effectiveWorkers : ℕ) : State where
  lists list :=
    if list = 0 then
      (List.range effectiveWorkers).map fun id => { workerId := id, target := id, generation := 0 }
    else []
  alive target := target < effectiveWorkers
  nextTarget := effectiveWorkers

end Supervisor

/-- The supervisor with its threads, in a mode and with a number of workers. -/
def supervisor (mode : WorkerMode) (effectiveWorkers : ℕ) :
    Machine Supervisor.State Supervisor.Action where
  init state := state = Supervisor.begun effectiveWorkers
  step := Supervisor.step mode effectiveWorkers

end Pounce
