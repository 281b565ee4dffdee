/-
# The accept distributor and its queue

Where all synchronous workers share one listening socket, an `AcceptDistributor` accepts the
connections in a thread of its own and puts them into a queue that the workers take them from.
`_restart_workers_impl` replaces the distributor, the queue and the workers, with the event that
shuts everything down set in between; `_graceful_reload_impl` only replaces the workers; `_drain`
ends all of them. Each of these runs in a thread of its own too.

The model takes one step for each look at what is shared, an event or a queue. Connections are
numbered as they are accepted, when the handshake is done: one that does not get that far is
closed and not counted. What waits for a time may go on at any time. Workers that crash, and how
they are replaced, are left out, and so is the pool for streaming responses.
-/

import Mathlib.Data.List.Basic
import Pounce.Math.Transition

namespace Pounce.AcceptDistribution

open Pounce.Math

/-! ## The distributor -/

/-- Where `run` of the distributor is. -/
inductive DistributorPhase
  /-- It looks whether the server shuts down. -/
  | looking
  | accepting
  /-- It has accepted a connection and looks whether it drains. -/
  | greeted (conn : ℕ)
  /-- It puts a connection into the queue. -/
  | enqueuing (conn : ℕ)
  | exited
  deriving DecidableEq, Repr

/-- A distributor, with the queue that it was made with. -/
structure Distributor where
  queue : List ℕ := []
  /-- `_drain_event`. -/
  drain : Bool := false
  phase : DistributorPhase := .looking
  deriving DecidableEq, Repr

namespace Distributor

variable (distributor : Distributor)

/-- The connection it holds. -/
def hand : List ℕ :=
  match distributor.phase with
  | .greeted conn | .enqueuing conn => [conn]
  | .looking | .accepting | .exited => []

/-- It cannot put anything into the queue any more. -/
def Closed : Prop :=
  distributor.phase = .exited ∨
    (distributor.drain = true ∧ ∀ conn ∈ distributor.hand, distributor.phase ≠ .enqueuing conn)

instance : Decidable distributor.Closed := inferInstanceAs (Decidable (_ ∨ _ ∧ _))

end Distributor

/-- What a distributor does. -/
inductive DistributorAction
  | look
  | accept
  /-- Nobody came, or the handshake failed. -/
  | skip
  /-- The socket raises an error. -/
  | fail
  /-- It goes on with the connection it holds. -/
  | goOn
  deriving DecidableEq, Repr

/-! ## The workers -/

/-- Where `run` of a synchronous worker is. -/
inductive WorkerPhase
  /-- In the startup hook. -/
  | starting
  /-- In `_run_from_queue`, about to look whether it should stop. -/
  | looking
  | getting
  | handling (conn : ℕ)
  /-- In `_drain_pending_queue`, about to look whether the server shuts down. -/
  | stopping
  | emptying
  /-- Still in `_drain_pending_queue`. -/
  | finishing (conn : ℕ)
  /-- In the hooks at the end. -/
  | leaving
  | exited
  deriving DecidableEq, Repr

/-- A synchronous worker. -/
structure QueueWorker where
  /-- The distributor whose queue it was made with. -/
  infra : ℕ
  /-- `_drain_event`. -/
  told : Bool := false
  phase : WorkerPhase := .starting
  deriving DecidableEq, Repr

namespace QueueWorker

variable (worker : QueueWorker)

/-- The connection it handles. -/
def hand : List ℕ :=
  match worker.phase with
  | .handling conn | .finishing conn => [conn]
  | _ => []

/-- It still looks into the queue, sooner or later. -/
def Polls (infra : ℕ) : Prop :=
  worker.infra = infra ∧ worker.phase ≠ .leaving ∧ worker.phase ≠ .exited

instance (infra : ℕ) : Decidable (worker.Polls infra) := inferInstanceAs (Decidable (_ ∧ _ ∧ _))

end QueueWorker

/-- What a worker does. -/
inductive WorkerAction
  /-- The startup hook ends, and may fail where that is fatal. -/
  | start (fails : Bool)
  | look
  | get
  /-- `_handle_connection` returns. -/
  | handled
  | check
  /-- `get_nowait` in `_drain_pending_queue`, which may be late. -/
  | take (late : Bool)
  | exit
  deriving DecidableEq, Repr

/-! ## The supervisor -/

/-- Where the thread is that restarts or reloads the workers. -/
inductive ControlPhase
  | idle
  /-- In `_restart_workers_impl`, about to set the event. -/
  | restarting
  /-- It tells these workers to drain. -/
  | telling (handles : List ℕ)
  /-- It tells the distributor to drain. -/
  | closing
  /-- It waits for the distributor and the workers. -/
  | joining
  /-- It makes a distributor and a queue. -/
  | building
  /-- It makes that many more workers. -/
  | spawning (left : ℕ)
  /-- In `_graceful_reload_impl`, about to make that many more workers. -/
  | renewing (fresh : List ℕ) (left : ℕ)
  /-- It tells these old workers to drain. -/
  | retiring (fresh handles : List ℕ)
  deriving DecidableEq, Repr

/-- Where the thread of the server is. -/
inductive MainPhase
  | watching
  /-- In `_drain`, which tells the workers to drain. -/
  | telling
  /-- It tells the distributor to drain. -/
  | closing
  | drained
  deriving DecidableEq, Repr

/-- What the thread that restarts or reloads does. -/
inductive ControlAction
  | restart
  | reload
  | goOn
  /-- Some workers did not end in time. -/
  | giveUp
  deriving DecidableEq, Repr

/-- What the thread of the server does. The workers may be replaced while it goes through them,
so which it gets to is left open, and likewise which distributor it finds. -/
inductive MainAction
  | drain
  | tell (worker : ℕ)
  | told
  | close (infra : ℕ)
  deriving DecidableEq, Repr

/-- What happens. -/
inductive Action
  /-- Someone sets the event. -/
  | shutdown
  | distributor (infra : ℕ) (action : DistributorAction)
  | worker (index : ℕ) (action : WorkerAction)
  | control (action : ControlAction)
  | main (action : MainAction)
  deriving DecidableEq, Repr

/-- A server in shared-socket mode. -/
structure SharedAccept where
  /-- `_shutdown_event`. -/
  shutdown : Bool := false
  /-- All distributors there have been. The last one is `_conn_queue` and what belongs to it. -/
  distributors : List Distributor := []
  /-- All workers there have been. -/
  workers : List QueueWorker := []
  /-- `_handles`. -/
  handles : List ℕ := []
  control : ControlPhase := .building
  main : MainPhase := .watching
  /-- How many connections were accepted. -/
  accepted : ℕ := 0
  /-- The connections that were handled, and by which worker. -/
  handled : List (ℕ × ℕ) := []
  /-- The connections that were answered with 503 for the drain. -/
  refused : List ℕ := []
  deriving DecidableEq, Repr

namespace SharedAccept

variable (effectiveWorkers : ℕ) (state : SharedAccept)

/-- A distributor has changed. -/
def putDistributor (infra : ℕ) (distributor : Distributor) : SharedAccept :=
  { state with distributors := state.distributors.set infra distributor }

/-- A worker has changed. -/
def putWorker (index : ℕ) (worker : QueueWorker) : SharedAccept :=
  { state with workers := state.workers.set index worker }

/-- A worker is told to drain. -/
def tell (index : ℕ) : SharedAccept :=
  { state with workers := state.workers.modify index ({ · with told := true }) }

/-- A distributor is told to drain. -/
def close (infra : ℕ) : SharedAccept :=
  { state with distributors := state.distributors.modify infra ({ · with drain := true }) }

/-- The worker that is made next. -/
def fresh : QueueWorker := { infra := state.distributors.length - 1 }

/-- The next step of a distributor. -/
def distribute (infra : ℕ) (distributor : Distributor) : DistributorAction → Option SharedAccept
  | .look =>
      if distributor.phase = .looking then
        some (state.putDistributor infra { distributor with
          phase := if state.shutdown then .exited else .accepting })
      else none
  | .accept =>
      if distributor.phase = .accepting then
        some { state.putDistributor infra { distributor with phase := .greeted state.accepted } with
          accepted := state.accepted + 1 }
      else none
  | .skip =>
      if distributor.phase = .accepting then
        some (state.putDistributor infra { distributor with phase := .looking })
      else none
  | .fail =>
      if distributor.phase = .accepting then
        some (state.putDistributor infra { distributor with phase := .exited })
      else none
  | .goOn =>
      match distributor.phase with
      | .greeted conn =>
          if distributor.drain then
            some { state.putDistributor infra { distributor with phase := .looking } with
              refused := state.refused ++ [conn] }
          else some (state.putDistributor infra { distributor with phase := .enqueuing conn })
      | .enqueuing conn =>
          some (state.putDistributor infra { distributor with
            queue := distributor.queue ++ [conn], phase := .looking })
      | _ => none

/-- The next step of a worker, with its queue. -/
def work (index : ℕ) (worker : QueueWorker) (distributor : Distributor) :
    WorkerAction → Option SharedAccept
  | .start fails =>
      if worker.phase = .starting then
        if fails then
          some { state.putWorker index { worker with phase := .leaving } with shutdown := true }
        else some (state.putWorker index { worker with phase := .looking })
      else none
  | .look =>
      if worker.phase = .looking then
        some (state.putWorker index { worker with
          phase := if worker.told || state.shutdown then .stopping else .getting })
      else none
  | .get =>
      if worker.phase = .getting then
        match distributor.queue with
        | [] => some (state.putWorker index { worker with phase := .looking })
        | conn :: rest =>
            some ((state.putDistributor worker.infra { distributor with queue := rest }).putWorker
              index { worker with phase := .handling conn })
      else none
  | .handled =>
      match worker.phase with
      | .handling conn =>
          some { state.putWorker index { worker with phase := .looking } with
            handled := state.handled ++ [(conn, index)] }
      | .finishing conn =>
          some { state.putWorker index { worker with phase := .emptying } with
            handled := state.handled ++ [(conn, index)] }
      | _ => none
  | .check =>
      if worker.phase = .stopping then
        -- After a reload the queue is left to the new workers.
        some (state.putWorker index { worker with
          phase := if state.shutdown then .emptying else .leaving })
      else none
  | .take late =>
      if worker.phase = .emptying then
        match distributor.queue with
        | [] => some (state.putWorker index { worker with phase := .leaving })
        | conn :: rest =>
            let taken := state.putDistributor worker.infra { distributor with queue := rest }
            if late then some { taken with refused := state.refused ++ [conn] }
            else some (taken.putWorker index { worker with phase := .finishing conn })
      else none
  | .exit =>
      if worker.phase = .leaving then
        some (state.putWorker index { worker with phase := .exited })
      else none

/-- The workers of these handles have exited. -/
def Joined (handles : List ℕ) : Prop :=
  ∀ index ∈ handles, ∀ worker ∈ state.workers[index]?, worker.phase = .exited

instance (handles : List ℕ) : Decidable (state.Joined handles) :=
  inferInstanceAs (Decidable (∀ index ∈ handles, ∀ worker ∈ state.workers[index]?, _))

/-- The next step of the thread that restarts or reloads. -/
def govern : ControlAction → Option SharedAccept
  | .restart =>
      if state.control = .idle then some { state with control := .restarting } else none
  | .reload =>
      if state.control = .idle then
        some { state with control := .renewing [] effectiveWorkers }
      else none
  | .goOn =>
      match state.control with
      | .idle => none
      | .restarting => some { state with shutdown := true, control := .telling state.handles }
      | .telling [] => some { state with control := .closing }
      | .telling (index :: rest) => some { state.tell index with control := .telling rest }
      | .closing =>
          some { state.close (state.distributors.length - 1) with control := .joining }
      | .joining =>
          if state.Joined state.handles then
            some { state with shutdown := false, handles := [], control := .building }
          else none
      | .building =>
          some { state with
            distributors := state.distributors ++ [{}]
            control := .spawning effectiveWorkers }
      | .spawning 0 => some { state with control := .idle }
      | .spawning (left + 1) =>
          some { state with
            workers := state.workers ++ [state.fresh]
            handles := state.handles ++ [state.workers.length]
            control := .spawning left }
      | .renewing fresh 0 => some { state with control := .retiring fresh state.handles }
      | .renewing fresh (left + 1) =>
          some { state with
            workers := state.workers ++ [state.fresh]
            control := .renewing (fresh ++ [state.workers.length]) left }
      | .retiring fresh [] => some { state with handles := fresh, control := .idle }
      | .retiring fresh (index :: rest) =>
          some { state.tell index with control := .retiring fresh rest }
  | .giveUp =>
      if state.control = .joining then some { state with control := .idle } else none

/-- The next step of the thread of the server. -/
def wind : MainAction → Option SharedAccept
  | .drain =>
      if state.main = .watching then some { state with shutdown := true, main := .telling }
      else none
  | .tell index => if state.main = .telling then some (state.tell index) else none
  | .told => if state.main = .telling then some { state with main := .closing } else none
  | .close infra =>
      if state.main = .closing then some { state.close infra with main := .drained } else none

/-- One step. -/
def step : Action → Option SharedAccept
  | .shutdown => some { state with shutdown := true }
  | .distributor infra action =>
      match state.distributors[infra]? with
      | none => none
      | some distributor => state.distribute infra distributor action
  | .worker index action =>
      match state.workers[index]? with
      | none => none
      | some worker =>
          match state.distributors[worker.infra]? with
          | none => none
          | some distributor => state.work index worker distributor action
  | .control action => state.govern effectiveWorkers action
  | .main action => state.wind action

end SharedAccept

/-- The server, from where it makes its first distributor. There is none for a single worker. -/
def acceptMachine (effectiveWorkers : ℕ) : Machine SharedAccept Action where
  init state := 1 < effectiveWorkers ∧ state = {}
  step state action := state.step effectiveWorkers action

/-! ## What is promised -/

namespace SharedAccept

variable (state : SharedAccept)

/-- Where all connections are. -/
def placed : List ℕ :=
  state.distributors.flatMap (fun distributor => distributor.hand ++ distributor.queue) ++
    state.workers.flatMap (·.hand) ++ state.handled.map (·.1) ++ state.refused

/-- The supervisor is about to make a worker for this queue. -/
def Spawning (infra : ℕ) : Prop :=
  infra + 1 = state.distributors.length ∧ ∃ left, state.control = .spawning (left + 1)

/-- Some live worker polls this queue, or is about to be made for it. -/
def Attended (infra : ℕ) : Prop :=
  state.Spawning infra ∨ ∃ worker ∈ state.workers, worker.Polls infra

/-- Every connection that was accepted is in one place. A queue that is not empty has a live worker
that polls it, so one whose workers have all exited is empty. And whoever holds a connection can
go on with it. -/
structure Conserved : Prop where
  exact : state.placed.Perm (List.range state.accepted)
  attended : ∀ infra distributor, state.distributors[infra]? = some distributor →
    distributor.queue ≠ [] → state.Attended infra
  emptied : ∀ infra distributor, state.distributors[infra]? = some distributor →
    ¬ state.Spawning infra →
      (∀ worker ∈ state.workers, worker.infra = infra → worker.phase = .exited) →
        distributor.queue = []
  distributes : ∀ infra distributor, state.distributors[infra]? = some distributor →
    distributor.hand ≠ [] → (state.distribute infra distributor .goOn).isSome
  handles : ∀ index worker, state.workers[index]? = some worker → worker.hand ≠ [] →
    ∀ distributor, (state.work index worker distributor .handled).isSome

/-- Someone else attends to the queue. -/
def Relieved (index infra : ℕ) : Prop :=
  state.Spawning infra ∨ ∃ other < state.workers.length, other ≠ index ∧
    ∃ worker ∈ state.workers[other]?, worker.Polls infra

instance (infra : ℕ) : Decidable (state.Spawning infra) :=
  match hcontrol : state.control with
  | .spawning (left + 1) => decidable_of_iff (infra + 1 = state.distributors.length)
      ⟨fun hlast => ⟨hlast, left, hcontrol⟩, And.left⟩
  | .spawning 0 | .idle | .restarting | .telling _ | .closing | .joining | .building
  | .renewing .. | .retiring .. => isFalse fun ⟨_, _, hsome⟩ => by
      rw [hcontrol] at hsome
      cases hsome

instance (index infra : ℕ) : Decidable (state.Relieved index infra) :=
  inferInstanceAs (Decidable (_ ∨ ∃ other < state.workers.length, other ≠ index ∧
    ∃ worker ∈ state.workers[other]?, worker.Polls infra))

/-- A worker that is not relieved may leave the queue only when nothing is in it, and nothing
can be put into it any more. -/
def MayLeave (index : ℕ) : Prop :=
  ∀ worker ∈ state.workers[index]?, ∀ distributor ∈ state.distributors[worker.infra]?,
    state.Relieved index worker.infra ∨ (distributor.queue = [] ∧ distributor.Closed)

instance (index : ℕ) : Decidable (state.MayLeave index) :=
  inferInstanceAs (Decidable (∀ worker ∈ state.workers[index]?,
    ∀ distributor ∈ state.distributors[worker.infra]?,
      state.Relieved index worker.infra ∨ (distributor.queue = [] ∧ distributor.Closed)))

/-- What a worker does is to fail to start, or to find its queue empty in the end. -/
def Leaves (index : ℕ) : WorkerAction → Prop
  | .start fails => fails = true
  | .take _ => ∀ worker ∈ state.workers[index]?,
      ∀ distributor ∈ state.distributors[worker.infra]?, distributor.queue = []
  | .look | .get | .handled | .check | .exit => False

instance (index : ℕ) : DecidablePred (state.Leaves index)
  | .start fails => inferInstanceAs (Decidable (fails = true))
  | .take _ => inferInstanceAs (Decidable (∀ worker ∈ state.workers[index]?,
      ∀ distributor ∈ state.distributors[worker.infra]?, distributor.queue = []))
  | .look | .get | .handled | .check | .exit => .isFalse id

/-- A step that goes well. The last worker that polls a queue leaves it only when nothing can be
put into it any more, the event is cleared only when no worker is left, and in the end the workers
are told to drain only while it is set. -/
def Smooth : Action → Prop
  | .worker index action => state.Leaves index action → state.MayLeave index
  | .control action => action = .goOn → state.control = .joining →
      ∀ worker ∈ state.workers, worker.phase = .exited
  | .main (.tell _) => state.shutdown = true
  | .main .drain | .main .told | .main (.close _) | .shutdown | .distributor .. => True

instance : DecidablePred state.Smooth
  | .worker index action =>
      inferInstanceAs (Decidable (state.Leaves index action → state.MayLeave index))
  | .control action => inferInstanceAs (Decidable (action = .goOn → state.control = .joining →
      ∀ worker ∈ state.workers, worker.phase = .exited))
  | .main (.tell _) => inferInstanceAs (Decidable (state.shutdown = true))
  | .main .drain | .main .told | .main (.close _) | .shutdown | .distributor .. => .isTrue trivial

end SharedAccept

end Pounce.AcceptDistribution
