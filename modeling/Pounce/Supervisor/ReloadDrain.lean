/-
# The drain of a graceful reload

When the new generation is up, `_graceful_reload_impl` tells every worker of the old one to
drain, and waits for each of them until it is idle or `reload_timeout` is over. Then it lets the
workers of subinterpreters shut down, joins all workers, each for `shutdown_timeout`, and retires
the old pool for streaming responses.

The workers have clocks of their own. An asynchronous worker that is told to drain runs its
draining hook, closes its server and aborts the connections that are left when `shutdown_timeout`
is over. A worker in a subinterpreter does so when its bridge signals shutdown, on a command or
when the bridge's own `shutdown_timeout` is over. A synchronous worker aborts nothing; but it may
hand its request to the pool, and the pool cancels what is left after twice `shutdown_timeout`.

`reloadMachine` runs them all, with a clock that may advance between any two steps. A connection
that the event loop has accepted is attached to the server next, and then counted by its handler,
or told that the worker is draining. To attach one to a server that has been closed fails, and
the connection is reset. What a synchronous worker has taken from the queue and not yet counted
may still come, though the worker is draining. A shutdown of the server while it reloads is left
out, and so are the hooks, except for the time they take.
-/

import Pounce.IicBridge

namespace Pounce.ReloadDrain

open Pounce.Math

/-- How the workers of a generation run. -/
inductive WorkerKind
  | async
  | sync
  | subinterpreter
  deriving DecidableEq, Repr

/-- The timeouts, as they are admitted. -/
structure ReloadConfig (Num : Type) [CommRing Num] [LinearOrder Num] where
  shutdownTimeout : Num
  reloadTimeout : Num
  shutdownTimeout_pos : 0 < shutdownTimeout

/-! ## A worker of the old generation -/

/-- Where `_serve` of an old worker is. -/
inductive OldPhase (Num : Type)
  | serving
  /-- In the draining hook; the drain may last until then. -/
  | draining (deadline : Num)
  /-- In `wait_closed`, until then. -/
  | closing (deadline : Num)
  | stopped
  deriving DecidableEq, Repr

/-- An old worker. -/
structure OldWorker (Num : Type) where
  /-- The connections that were accepted, and whose transports are not attached yet. -/
  arriving : ℕ := 0
  /-- Those that are attached, and not counted by their handlers yet. -/
  attached : ℕ := 0
  /-- The connections that have no request in flight. -/
  waiting : ℕ := 0
  inFlight : ℕ := 0
  phase : OldPhase Num := .serving
  /-- `start_draining` was called. -/
  told : Bool := false
  ctrlQueue : List Command := []
  bridge : IicBridge Num := {}
  /-- How much of the status queue the supervisor has read. -/
  statusesRead : ℕ := 0
  /-- When it was told to drain. Nothing depends on this. -/
  marked : Option Num := none
  deriving DecidableEq, Repr

/-- What a worker does. -/
inductive WorkerAction (Num : Type)
  | accept
  /-- `_accept_connection2` attaches a transport to the server. -/
  | attach
  /-- `_handle_connection` begins. -/
  | begin
  | request
  | respond
  | leave
  /-- `_async_shutdown.wait` returns. -/
  | wake
  /-- The hook is done, and the server is closed, which may raise an error. -/
  | closeServer (fails : Bool)
  /-- `wait_closed` returns. -/
  | detached
  /-- `wait_closed` times out. -/
  | timeOut
  /-- The loop of a synchronous worker ends. -/
  | exit
  | bridge (action : BridgeAction Num)
  deriving DecidableEq, Repr

/-- The bridge does this, and not the world around it. A hook that stops the event loop is left
out. -/
def ofBridge {Num : Type} : BridgeAction Num → Bool
  | .poll | .resume | .detach | .hookEnds .caught | .hookEnds .escaped => true
  | .tick _ | .send _ | .activity _ | .hookEnds .exited => false

namespace OldWorker

variable {Num : Type} [CommRing Num] [LinearOrder Num] (kind : WorkerKind)
  (config : ReloadConfig Num) (clock : Num) (worker : OldWorker Num)

/-- `_active_connections`. -/
def connections : ℕ := worker.waiting + worker.inFlight

/-- `_draining`. -/
def isDraining : Bool := worker.told || worker.bridge.draining

/-- `_async_shutdown` is set. -/
def asyncShutdown : Bool := worker.told || worker.bridge.asyncShutdown

/-- The configuration of its bridge. -/
def iicConfig : IicConfig Num where
  shutdownTimeout := config.shutdownTimeout
  hasServer := true
  shutdownTimeout_pos := config.shutdownTimeout_pos

/-- What its bridge sees. -/
def world : BridgeWorld Num where
  clock
  ctrlQueue := worker.ctrlQueue
  idle := worker.connections = 0
  bridge := worker.bridge

/-- Its server has been closed. -/
def closed : Bool :=
  worker.bridge.acceptor ≠ .serving ||
    match worker.phase with
    | .serving | .draining _ => false
    | .closing _ | .stopped => true

/-- The connections that are left are aborted. Those that are attached count as in flight. -/
def abort : OldWorker Num × ℕ :=
  ({ worker with waiting := 0, inFlight := 0, attached := 0, phase := .stopped },
    worker.inFlight + worker.attached)

/-- What the bridge waits for. The event loop runs what is ready before it looks at its timers,
so that no connection is on its way any more when the pause is over. -/
def allows : BridgeAction Num → Bool
  | .resume => worker.bridge.phase ≠ .pausing || worker.arriving = 0
  | .detach => worker.attached = 0
  | _ => true

/-- What an action leads to, and how many connections with a request in flight it aborts. -/
def act : WorkerAction Num → Option (OldWorker Num × ℕ)
  | .accept =>
      if kind = .sync then
        if worker.phase ≠ .stopped ∧ worker.connections = 0 then
          some ({ worker with waiting := worker.waiting + 1 }, 0)
        else none
      -- in a pause the listener is not read
      else if worker.closed = false ∧ worker.bridge.phase ≠ .pausing then
        some ({ worker with arriving := worker.arriving + 1 }, 0)
      else none
  | .attach =>
      if 0 < worker.arriving then
        if worker.closed then some ({ worker with arriving := worker.arriving - 1 }, 1)
        else some ({ worker with
          arriving := worker.arriving - 1, attached := worker.attached + 1 }, 0)
      else none
  | .begin =>
      if 0 < worker.attached then
        -- a worker that drains answers with 503
        if worker.isDraining then some ({ worker with attached := worker.attached - 1 }, 0)
        else some ({ worker with
          attached := worker.attached - 1, waiting := worker.waiting + 1 }, 0)
      else none
  | .request =>
      if worker.phase ≠ .stopped ∧ 0 < worker.waiting then
        some ({ worker with
          waiting := worker.waiting - 1, inFlight := worker.inFlight + 1 }, 0)
      else none
  | .respond =>
      if 0 < worker.inFlight then
        some ({ worker with
          waiting := worker.waiting + 1, inFlight := worker.inFlight - 1 }, 0)
      else none
  | .leave =>
      if 0 < worker.waiting then some ({ worker with waiting := worker.waiting - 1 }, 0)
      else none
  | .wake =>
      if worker.phase = .serving ∧ worker.asyncShutdown then
        match kind with
        | .async =>
            some ({ worker with phase := .draining (clock + config.shutdownTimeout) }, 0)
        | .subinterpreter =>
            some ({ worker with phase := .closing (clock + config.shutdownTimeout) }, 0)
        | .sync => none
      else none
  | .closeServer fails =>
      match worker.phase with
      | .draining deadline =>
          -- After an error the tasks of the connections are cancelled at once.
          if fails then some worker.abort
          else some ({ worker with phase := .closing (max clock deadline) }, 0)
      | _ => none
  | .detached =>
      match worker.phase with
      | .closing _ =>
          if worker.connections = 0 ∧ worker.attached = 0 then
            some ({ worker with phase := .stopped }, 0)
          else none
      | _ => none
  | .timeOut =>
      match worker.phase with
      | .closing deadline => if deadline ≤ clock then some worker.abort else none
      | _ => none
  | .exit =>
      if kind = .sync ∧ worker.phase = .serving ∧ worker.told ∧ worker.connections = 0 then
        some ({ worker with phase := .stopped }, 0)
      else none
  | .bridge action =>
      if kind = .subinterpreter ∧ worker.phase = .serving ∧ ofBridge action ∧
          worker.allows action then
        ((worker.world clock).step (iicConfig config) action).map fun world =>
          ({ worker with ctrlQueue := world.ctrlQueue, bridge := world.bridge }, 0)
      else none

/-- The supervisor tells it to drain. -/
def mark : OldWorker Num :=
  if kind = .subinterpreter then
    { worker with ctrlQueue := worker.ctrlQueue ++ [.reloadDrain], marked := some clock }
  else { worker with told := true, marked := some clock }

/-- The supervisor lets it shut down. -/
def dismiss : OldWorker Num :=
  if kind = .subinterpreter then
    { worker with ctrlQueue := worker.ctrlQueue ++ [.shutdown] }
  else worker

/-- The supervisor looks whether it is idle, and may take a status from the queue. -/
def look : Bool × OldWorker Num :=
  if kind = .subinterpreter then
    match worker.bridge.statuses[worker.statusesRead]? with
    | none => (false, worker)
    | some status =>
        (status = .idle, { worker with statusesRead := worker.statusesRead + 1 })
  else (worker.connections = 0, worker)

end OldWorker

/-! ## The pool of the old generation -/

/-- Where `_serve` of the old pool is. -/
inductive PoolPhase (Num : Type)
  | serving
  /-- In `_drain_queued_handoffs`, until then. -/
  | draining (deadline : Num)
  /-- In `_drain_handoffs`, until then. -/
  | awaiting (deadline : Num)
  | stopped
  deriving DecidableEq, Repr

/-- The old pool. -/
structure OldPool (Num : Type) where
  /-- The requests that were handed to it and are in flight. -/
  inFlight : ℕ := 0
  /-- `_pool_shutdown`. -/
  retired : Bool := false
  phase : PoolPhase Num := .serving
  deriving DecidableEq, Repr

/-- What the pool does. -/
inductive PoolAction
  /-- A request ends. -/
  | finish
  /-- It sees that it is retired. -/
  | wake
  /-- It goes on to where it next looks. -/
  | goOn
  deriving DecidableEq, Repr

namespace OldPool

variable {Num : Type} [CommRing Num] [LinearOrder Num] (config : ReloadConfig Num) (clock : Num)
  (pool : OldPool Num)

/-- What an action leads to, and how many requests it cancels. -/
def act : PoolAction → Option (OldPool Num × ℕ)
  | .finish =>
      if 0 < pool.inFlight then some ({ pool with inFlight := pool.inFlight - 1 }, 0) else none
  | .wake =>
      if pool.phase = .serving ∧ pool.retired then
        some ({ pool with phase := .draining (clock + config.shutdownTimeout) }, 0)
      else none
  | .goOn =>
      match pool.phase with
      | .draining deadline =>
          if pool.inFlight = 0 then some ({ pool with phase := .stopped }, 0)
          else if deadline ≤ clock then
            some ({ pool with phase := .awaiting (clock + config.shutdownTimeout) }, 0)
          else none
      | .awaiting deadline =>
          if pool.inFlight = 0 then some ({ pool with phase := .stopped }, 0)
          else if deadline ≤ clock then
            some ({ pool with inFlight := 0, phase := .stopped }, pool.inFlight)
          else none
      | _ => none

/-- A request is handed to it, and how many are lost by that: once it does not read its queue any
more, nobody does. -/
def take : OldPool Num × ℕ :=
  match pool.phase with
  | .serving | .draining _ => ({ pool with inFlight := pool.inFlight + 1 }, 0)
  | .awaiting _ | .stopped => (pool, 1)

end OldPool

/-! ## The reload -/

/-- Where `_graceful_reload_impl` is. -/
inductive SupervisorPhase (Num : Type)
  /-- It tells the workers to drain, next this one. -/
  | marking (next : ℕ)
  /-- It waits until then for the workers, now for this one, and has looked at the clock. -/
  | polling (next : ℕ) (deadline : Num) (checked : Bool)
  | polled
  /-- It joins the workers, until then. -/
  | joining (deadline : Num)
  | joined
  | done
  deriving DecidableEq, Repr

/-- It may still read statuses of the old workers. -/
def SupervisorPhase.waits {Num : Type} : SupervisorPhase Num → Bool
  | .marking _ | .polling .. => true
  | _ => false

/-- Connections with a request in flight were aborted. -/
structure Abort (Num : Type) where
  /-- When their drain began. -/
  began : Option Num
  time : Num
  deriving DecidableEq, Repr

/-- An old generation while its successor takes over. -/
structure Reload (Num : Type) where
  clock : Num
  workers : List (OldWorker Num)
  pool : OldPool Num := {}
  supervisor : SupervisorPhase Num := .marking 0
  /-- When the supervisor began to wait. Nothing depends on this. -/
  armed : Option Num := none
  aborts : List (Abort Num) := []
  /-- The active connections of each worker that was taken for idle, when it was. -/
  idles : List ℕ := []
  deriving DecidableEq, Repr

/-- What happens in a reload. -/
inductive ReloadAction (Num : Type)
  | tick (elapsed : Num)
  | worker (index : ℕ) (action : WorkerAction Num)
  /-- A synchronous worker hands its request to the pool. -/
  | handOff (index : ℕ)
  | pool (action : PoolAction)
  | supervise
  deriving DecidableEq, Repr

namespace Reload

variable {Num : Type} [CommRing Num] [LinearOrder Num] (kind : WorkerKind)
  (config : ReloadConfig Num) (reload : Reload Num)

/-- Some connections are aborted. -/
def note (began : Option Num) (aborted : ℕ) : Reload Num :=
  if aborted = 0 then reload
  else { reload with aborts := reload.aborts ++ [{ began, time := reload.clock }] }

/-- A worker has changed. -/
def put (index : ℕ) (worker : OldWorker Num) : Reload Num :=
  { reload with workers := reload.workers.set index worker }

/-- The next step of `_graceful_reload_impl`. -/
def supervise : Option (Reload Num) :=
  match reload.supervisor with
  | .marking index =>
      match reload.workers[index]? with
      | some worker =>
          some { reload.put index (worker.mark kind reload.clock) with
            supervisor := .marking (index + 1) }
      | none =>
          some { reload with
            supervisor := .polling 0 (reload.clock + config.reloadTimeout) false
            armed := some reload.clock }
  | .polling index deadline false =>
      if index < reload.workers.length then
        if reload.clock < deadline then
          some { reload with supervisor := .polling index deadline true }
        else some { reload with supervisor := .polling (index + 1) deadline false }
      else some { reload with supervisor := .polled }
  | .polling index deadline true =>
      match reload.workers[index]? with
      | none => none
      | some worker =>
          let looked := worker.look kind
          if looked.1 then
            some { reload.put index looked.2 with
              supervisor := .polling (index + 1) deadline false
              idles := reload.idles ++ [worker.connections] }
          else
            some { reload.put index looked.2 with
              supervisor := .polling index deadline false }
  | .polled =>
      some { reload with
        workers := reload.workers.map (·.dismiss kind)
        supervisor := .joining (reload.clock + config.shutdownTimeout) }
  | .joining deadline =>
      if (∀ worker ∈ reload.workers, worker.phase = .stopped) ∨ deadline ≤ reload.clock then
        some { reload with supervisor := .joined }
      else none
  | .joined =>
      some { reload with
        supervisor := .done
        pool := { reload.pool with retired := true } }
  | .done => none

/-- One step. -/
def step : ReloadAction Num → Option (Reload Num)
  | .tick elapsed =>
      if 0 ≤ elapsed then some { reload with clock := reload.clock + elapsed } else none
  | .worker index action =>
      match reload.workers[index]? with
      | none => none
      | some worker =>
          (worker.act kind config reload.clock action).map fun outcome =>
            (reload.put index outcome.1).note worker.marked outcome.2
  | .handOff index =>
      match reload.workers[index]? with
      | none => none
      | some worker =>
          if kind = .sync ∧ worker.phase ≠ .stopped ∧ 0 < worker.inFlight then
            let taken := reload.pool.take
            some (({ reload with pool := taken.1 }.put index
              { worker with inFlight := worker.inFlight - 1 }).note reload.armed taken.2)
          else none
  | .pool action =>
      (reload.pool.act config reload.clock action).map fun outcome =>
        { reload with pool := outcome.1 }.note reload.armed outcome.2
  | .supervise => reload.supervise kind config

end Reload

/-- A reload, from where the new generation is up. -/
def reloadMachine {Num : Type} [CommRing Num] [LinearOrder Num] (kind : WorkerKind)
    (config : ReloadConfig Num) : Machine (Reload Num) (ReloadAction Num) where
  init reload := reload.pool.retired = false ∧ reload.pool.phase = .serving ∧
    reload.supervisor = .marking 0 ∧ reload.armed = none ∧ reload.aborts = [] ∧
    reload.idles = [] ∧ ∀ worker ∈ reload.workers, worker.phase = .serving ∧
      worker.told = false ∧ worker.ctrlQueue = [] ∧ worker.bridge = {} ∧
      worker.statusesRead = 0 ∧ worker.marked = none ∧
      (kind = .sync → worker.arriving = 0 ∧ worker.attached = 0)
  step reload action := reload.step kind config action

/-! ## What is promised -/

section

variable {Num : Type} [CommRing Num] [LinearOrder Num]

/-- No request is aborted before `reload_timeout` is over, and no worker is taken for idle that
has an active connection. -/
structure Patient (config : ReloadConfig Num) (reload : Reload Num) : Prop where
  aborts : ∀ abort ∈ reload.aborts, ∃ began, abort.began = some began ∧
    began + config.reloadTimeout ≤ abort.time
  idles : ∀ connections ∈ reload.idles, connections = 0

/-- How long after the beginning of the drain no request is aborted, whatever happens. -/
def ReloadConfig.patience (config : ReloadConfig Num) : WorkerKind → Num
  | .async | .sync => config.shutdownTimeout
  | .subinterpreter => config.shutdownTimeout + config.shutdownTimeout

/-- The deadline of the bridge is over, with a connection still open. -/
def OldWorker.Overdue (clock : Num) (worker : OldWorker Num) : Prop :=
  worker.bridge.phase = .turning ∧ worker.bridge.draining = true ∧
    worker.bridge.Expired clock ∧ worker.connections + worker.attached ≠ 0

instance (clock : Num) (worker : OldWorker Num) : Decidable (worker.Overdue clock) :=
  inferInstanceAs (Decidable (_ ∧ _ ∧ _ ∧ _))

/-- The server of a worker may be closed: no connection is accepted and not yet attached, and
where closing raises an error none has a request in flight. -/
def OldWorker.Closable (worker : OldWorker Num) (fails : Bool) : Prop :=
  worker.arriving = 0 ∧ (fails = true → worker.inFlight + worker.attached = 0)

instance (worker : OldWorker Num) (fails : Bool) : Decidable (worker.Closable fails) :=
  inferInstanceAs (Decidable (_ ∧ _))

/-- A step that goes well: the server of a worker is closed where it may be, and no bridge finds
its deadline over, with a connection still open, while the supervisor waits. -/
def Reload.Smooth (reload : Reload Num) : ReloadAction Num → Prop
  | .worker index action => ∀ worker ∈ reload.workers[index]?,
      (∀ fails, action = .closeServer fails → worker.Closable fails) ∧
      (action = .bridge .resume → reload.supervisor.waits = true →
        ¬ worker.Overdue reload.clock)
  | .tick _ | .handOff _ | .pool _ | .supervise => True

instance (reload : Reload Num) (action : ReloadAction Num) : Decidable (reload.Smooth action) :=
  match action with
  | .worker index action => inferInstanceAs (Decidable (∀ worker ∈ reload.workers[index]?,
      (∀ fails, action = .closeServer fails → worker.Closable fails) ∧
      (action = .bridge .resume → reload.supervisor.waits = true →
        ¬ worker.Overdue reload.clock)))
  | .tick _ | .handOff _ | .pool _ | .supervise => .isTrue trivial

end

end Pounce.ReloadDrain
