/-
# The queue of the asynchronous pool

Synchronous workers hand connections over to the pool through a thread-safe queue. The pool
takes them out one by one in its serve loop and starts a handler task for each. Retired, it
goes on polling the queue until this has been empty, with no handler at work, for a while or
a deadline has passed; then it waits for the handlers, cancels those that take too long, and
returns.

A handoff is in good hands as long as the pool polls its queue. `handoffs_settled` says that
every handoff is handled once if none comes later than that, and that the sockets of those that
are handled are closed if no handler that has closed its writer still waits for data to be sent
when the stragglers are cancelled. The queue itself does not know that it is no longer read:
what comes later stays in it, with an open socket nobody will close. And `writer.close` closes
the socket only once everything has been sent, so that a handler cancelled in `wait_closed`
leaves it open.

An application that stops the event loop (`SystemExit`) makes `run` raise, and is no run here.
-/

import Pounce.Math.Indexed
import Pounce.Math.Transition

namespace Pounce.AsyncPool

open Pounce.Math

/-- Where a handoff is. -/
inductive Stage where
  | queued
  /-- Its task has been created and not yet been run. -/
  | created
  /-- In `connect_accepted_socket`. -/
  | connecting
  /-- A writer exists; the application or the WebSocket handler runs. -/
  | serving
  /-- In `wait_closed`, with data that has not been sent. -/
  | closing
  | ended
  deriving DecidableEq, Repr

/-- A handoff accepted by the pool. -/
structure Handoff where
  stage : Stage := .queued
  socketOpen : Bool := true
  /-- The handler tasks started for it. -/
  handlers : ℕ := 0
  /-- Its task was cancelled, and has not been told yet. -/
  cancelled : Bool := false
  deriving DecidableEq, Repr

/-- Its task has been started and is not done. -/
def Handoff.inFlight (handoff : Handoff) : Bool :=
  handoff.stage ≠ .queued && handoff.stage ≠ .ended

/-- Where the thread of the pool is. -/
inductive Phase where
  /-- In the loop of `_serve`. -/
  | serving
  /-- In `_drain_queued_handoffs`, with its count of idle polls. -/
  | drainingQueue (idlePolls : ℕ)
  /-- In `_drain_handoffs`, waiting for the tasks. -/
  | drainingHandoffs
  /-- In `_drain_handoffs`, after the stragglers were cancelled. -/
  | cancelling
  /-- `run` has returned. -/
  | returned
  deriving DecidableEq, Repr

/-- The pool with all handoffs it has accepted; a handoff is known by its position. -/
structure Pool where
  handoffs : List Handoff := []
  queue : List ℕ := []
  phase : Phase := .serving
  poolShutdown : Bool := false
  extShutdown : Bool := false
  /-- The safety deadline has been set. -/
  safetyArmed : Bool := false
  deriving DecidableEq, Repr

/-- What the workers, the supervisor and the pool do. -/
inductive Action where
  /-- A synchronous worker calls `accept_handoff`. -/
  | accept
  /-- The supervisor calls `request_shutdown`. -/
  | requestShutdown
  /-- The supervisor sets the shared shutdown event. -/
  | extShutdown
  /-- A turn of the serve loop. -/
  | poll
  /-- The serve loop ends: the pool is retired, or the safety deadline has passed. -/
  | leave
  /-- A turn of the loop in `_drain_queued_handoffs`. -/
  | drainPoll
  /-- That loop ends at its deadline. -/
  | drainDeadline
  /-- All tasks are done. -/
  | tasksDone
  /-- `_drain_handoffs` cancels the tasks that are not done in time. -/
  | cancelStragglers
  /-- The event loop runs a task for the first time. -/
  | start (index : ℕ)
  /-- A task has connected its socket, or failed to. -/
  | connect (index : ℕ) (success : Bool)
  /-- A handler ends and closes its writer, which may still have something to send. -/
  | finish (index : ℕ) (unsent : Bool)
  /-- The transport of a closed writer has sent everything, or lost its connection. -/
  | flushed (index : ℕ)
  /-- `CancelledError` is raised in a task that was cancelled. -/
  | interrupt (index : ℕ)
  deriving DecidableEq, Repr

/-- Polls without a handoff and a task in flight before the queue counts as drained. -/
def idleNeeded : ℕ := 6

/-- Create the task of a handoff. -/
def startHandoff (pool : Pool) (index : ℕ) : Pool :=
  { pool with
    handoffs := pool.handoffs.modify index fun handoff =>
      { handoff with stage := .created, handlers := handoff.handlers + 1 } }

/-- Take a handoff out of the queue, if there is one, and start it. -/
def getNowait (pool : Pool) : Option Pool :=
  match pool.queue with
  | [] => none
  | index :: queue => some (startHandoff { pool with queue } index)

/-- A turn of the drain loop: an idle stretch that is long enough ends it. -/
def drainPoll (pool : Pool) (idlePolls : ℕ) : Pool :=
  match getNowait pool with
  | some pool => { pool with phase := .drainingQueue 0 }
  | none =>
      if pool.handoffs.any (·.inFlight) then { pool with phase := .drainingQueue 0 }
      else if idleNeeded ≤ idlePolls + 1 then { pool with phase := .drainingHandoffs }
      else { pool with phase := .drainingQueue (idlePolls + 1) }

/-- A handoff for which it is time moves on. -/
def move (pool : Pool) (index : ℕ) (ready : Handoff → Bool) (change : Handoff → Handoff) :
    Option Pool :=
  match pool.handoffs[index]? with
  | none => none
  | some handoff =>
      if ready handoff then
        some { pool with handoffs := pool.handoffs.set index (change handoff) }
      else none

/-- The end of a task, with its socket closed. -/
def Handoff.close (handoff : Handoff) : Handoff :=
  { handoff with stage := .ended, socketOpen := false }

/-- A task that was not cancelled is at a stage. -/
def Handoff.isAt (stage : Stage) (handoff : Handoff) : Bool :=
  handoff.stage = stage && !handoff.cancelled

/-- A task is told that it was cancelled. While it connects, the transport is closed and the
task ends; the application gets the error and its handler goes on to close the writer; and
`wait_closed` is left. -/
def Handoff.interrupt (handoff : Handoff) : Handoff :=
  match handoff.stage with
  | .connecting => handoff.close
  | .closing => { handoff with stage := .ended, cancelled := false }
  | _ => { handoff with cancelled := false }

/-- What an action does where it is enabled. -/
def step (pool : Pool) : Action → Option Pool
  | .accept => some { pool with
      handoffs := pool.handoffs ++ [{}], queue := pool.queue ++ [pool.handoffs.length] }
  | .requestShutdown => some { pool with poolShutdown := true }
  | .extShutdown => some { pool with extShutdown := true }
  | .poll =>
      if pool.phase = .serving ∧ !pool.poolShutdown then
        some { (getNowait pool).getD pool with
          safetyArmed := pool.safetyArmed || pool.extShutdown }
      else none
  | .leave =>
      if pool.phase = .serving ∧ (pool.poolShutdown || pool.safetyArmed) then
        some { pool with phase := .drainingQueue 0 }
      else none
  | .drainPoll =>
      match pool.phase with
      | .drainingQueue idlePolls => some (drainPoll pool idlePolls)
      | _ => none
  | .drainDeadline =>
      match pool.phase with
      | .drainingQueue _ => some { pool with phase := .drainingHandoffs }
      | _ => none
  | .tasksDone =>
      if (pool.phase = .drainingHandoffs ∨ pool.phase = .cancelling) ∧
          !pool.handoffs.any (·.inFlight) then
        some { pool with phase := .returned }
      else none
  | .cancelStragglers =>
      -- the event loop runs the tasks that are ready before it looks at its timers
      if pool.phase = .drainingHandoffs ∧ !pool.handoffs.any (·.stage = .created) then
        some { pool with
          phase := .cancelling
          handoffs := pool.handoffs.map fun handoff =>
            { handoff with cancelled := handoff.inFlight } }
      else none
  | .start index =>
      move pool index (·.isAt .created) fun handoff => { handoff with stage := .connecting }
  | .connect index success =>
      move pool index (·.isAt .connecting) fun handoff =>
        if success then { handoff with stage := .serving } else handoff.close
  | .finish index unsent =>
      move pool index (·.isAt .serving) fun handoff =>
        if unsent then { handoff with stage := .closing } else handoff.close
  | .flushed index =>
      if pool.phase = .returned then none
      else move pool index (fun handoff => handoff.stage = .closing || handoff.stage = .ended)
        Handoff.close
  | .interrupt index =>
      move pool index (fun handoff => handoff.cancelled && handoff.inFlight) Handoff.interrupt

/-- The pool, with everything that can come in between. -/
def machine : Machine Pool Action where
  init pool := pool = {}
  step := step

/-! ## In the queue or in a task -/

/-- What holds of the handoff at a position. -/
structure Placed (pool : Pool) (index : ℕ) (handoff : Handoff) : Prop where
  /-- It is in the queue as long as it has no task. -/
  queued : handoff.stage = .queued ↔ index ∈ pool.queue
  unhandled : handoff.stage = .queued → handoff.handlers = 0
  handled : handoff.stage ≠ .queued → handoff.handlers = 1

/-- What holds of the pool in all runs. -/
structure Orderly (pool : Pool) : Prop where
  nodup : pool.queue.Nodup
  bounded : ∀ index ∈ pool.queue, index < pool.handoffs.length
  placed : Indexed (Placed pool) pool.handoffs
  /-- No task is in flight when the pool has returned. -/
  returned : pool.phase = .returned → ∀ handoff ∈ pool.handoffs, handoff.inFlight = false

theorem orderly_init : Orderly {} where
  nodup := List.nodup_nil
  bounded := List.forall_mem_nil _
  placed := Indexed.nil
  returned hreturned := Phase.noConfusion hreturned

/-- It looks at nothing but the handoffs, the queue and whether the pool has returned. -/
theorem Orderly.of_eq {pool next : Pool} (horderly : Orderly pool)
    (hhandoffs : next.handoffs = pool.handoffs) (hqueue : next.queue = pool.queue)
    (hreturned : next.phase = .returned → ∀ handoff ∈ next.handoffs, handoff.inFlight = false) :
    Orderly next where
  nodup := by rw [hqueue]; exact horderly.nodup
  bounded := by rw [hqueue, hhandoffs]; exact horderly.bounded
  placed := by
    rw [hhandoffs]
    intro index handoff hhandoff
    obtain ⟨hplaced, hunhandled, hhandled⟩ := horderly.placed index handoff hhandoff
    exact ⟨by rw [hqueue]; exact hplaced, hunhandled, hhandled⟩
  returned := hreturned

/-- Taking a handoff out of the queue keeps it. -/
theorem Orderly.getNowait {pool next : Pool} (horderly : Orderly pool)
    (hphase : pool.phase ≠ .returned) (hnext : getNowait pool = some next) : Orderly next := by
  unfold AsyncPool.getNowait at hnext
  split at hnext
  case h_1 => cases hnext
  case h_2 first queue hqueue =>
    obtain rfl := Option.some.inj hnext
    have hnodup := horderly.nodup
    rw [hqueue, List.nodup_cons] at hnodup
    constructor
    case nodup => exact hnodup.2
    case bounded =>
      intro index hindex
      have hlength := horderly.bounded index (by rw [hqueue]; exact List.mem_cons_of_mem _ hindex)
      change index < (pool.handoffs.modify first _).length
      rw [List.length_modify]
      exact hlength
    case placed =>
      intro index handoff hhandoff
      change (pool.handoffs.modify first _)[index]? = _ at hhandoff
      rw [List.getElem?_modify] at hhandoff
      obtain ⟨before, hbefore, rfl⟩ := Option.map_eq_some_iff.mp hhandoff
      obtain ⟨hplaced, hunhandled, hhandled⟩ := horderly.placed index before hbefore
      split
      case isTrue hsame =>
        subst hsame
        have hwaiting : before.stage = .queued :=
          hplaced.mpr (by rw [hqueue]; exact List.mem_cons_self)
        constructor
        case queued =>
          constructor
          · exact fun hstage => Stage.noConfusion hstage
          · exact fun hmem => absurd hmem hnodup.1
        case unhandled => exact fun hstage => Stage.noConfusion hstage
        case handled =>
          intro _
          change before.handlers + 1 = 1
          rw [hunhandled hwaiting]
      case isFalse hother =>
        refine ⟨?_, hunhandled, hhandled⟩
        rw [hplaced, hqueue, List.mem_cons]
        constructor
        · rintro (rfl | hmem)
          · exact absurd rfl hother
          · exact hmem
        · exact .inr
    case returned => exact fun hreturned => absurd hreturned hphase

/-- Moving a handoff on that has a task keeps it. -/
theorem Orderly.move {pool next : Pool} (horderly : Orderly pool) {index : ℕ}
    {ready : Handoff → Bool} (change : Handoff → Handoff)
    (hready : ∀ handoff, ready handoff = true → handoff.stage ≠ .queued)
    (hstage : ∀ handoff, handoff.stage ≠ .queued → (change handoff).stage ≠ .queued)
    (hhandlers : ∀ handoff, (change handoff).handlers = handoff.handlers)
    (hreturned : pool.phase = .returned → ∀ handoff, ready handoff = true →
      handoff.inFlight = true)
    (hnext : move pool index ready change = some next) : Orderly next := by
  unfold AsyncPool.move at hnext
  split at hnext
  case h_1 => cases hnext
  case h_2 handoff hhandoff =>
    split at hnext
    case isFalse => cases hnext
    case isTrue hat =>
      obtain rfl := Option.some.inj hnext
      have hentry := horderly.placed index handoff hhandoff
      have hstarted := hready handoff hat
      have hmoved := hstage handoff hstarted
      constructor
      case nodup => exact horderly.nodup
      case bounded =>
        intro other hother
        rw [List.length_set]
        exact horderly.bounded other hother
      case placed =>
        apply Indexed.set
        · exact fun other found hfound => { horderly.placed other found hfound with }
        · constructor
          case queued =>
            constructor
            · exact fun hqueued => absurd hqueued hmoved
            · exact fun hmem => absurd (hentry.queued.mpr hmem) hstarted
          case unhandled => exact fun hqueued => absurd hqueued hmoved
          case handled => exact fun _ => (hhandlers handoff).trans (hentry.handled hstarted)
      case returned =>
        intro hover
        have hnone := horderly.returned hover handoff (List.mem_of_getElem? hhandoff)
        rw [hreturned hover handoff hat] at hnone
        cases hnone

/-- Accepting a handoff keeps it. -/
theorem Orderly.accept {pool : Pool} (horderly : Orderly pool) :
    Orderly { pool with
      handoffs := pool.handoffs ++ [{}], queue := pool.queue ++ [pool.handoffs.length] } := by
  have hnew : pool.handoffs.length ∉ pool.queue := by
    intro hmem
    exact Nat.lt_irrefl _ (horderly.bounded _ hmem)
  constructor
  case nodup =>
    apply List.nodup_append.mpr
    refine ⟨horderly.nodup, by simp, ?_⟩
    rintro index hindex other hother rfl
    obtain rfl := List.mem_singleton.mp hother
    exact hnew hindex
  case bounded =>
    intro index hindex
    rw [List.length_append, List.length_singleton]
    obtain hold | hlast := List.mem_append.mp hindex
    · exact Nat.lt_succ_of_lt (horderly.bounded index hold)
    · obtain rfl := List.mem_singleton.mp hlast
      exact Nat.lt_succ_self _
  case placed =>
    apply Indexed.concat
    · intro index handoff hhandoff
      obtain ⟨hplaced, hunhandled, hhandled⟩ := horderly.placed index handoff hhandoff
      refine ⟨?_, hunhandled, hhandled⟩
      have hless : index < pool.handoffs.length := (List.getElem?_eq_some_iff.mp hhandoff).1
      have hother : index ≠ pool.handoffs.length := Nat.ne_of_lt hless
      rw [hplaced, List.mem_append, List.mem_singleton, or_iff_left hother]
    · constructor
      case queued => simp
      case unhandled => exact fun _ => rfl
      case handled => exact fun hstage => absurd rfl hstage
  case returned =>
    intro hreturned handoff hhandoff
    obtain hold | hlast := List.mem_append.mp hhandoff
    · exact horderly.returned hreturned handoff hold
    · obtain rfl := List.mem_singleton.mp hlast
      rfl

/-- To cancel the tasks in flight moves none of them. -/
theorem Orderly.cancel {pool : Pool} (horderly : Orderly pool) :
    Orderly { pool with
      phase := .cancelling
      handoffs := pool.handoffs.map fun handoff =>
        { handoff with cancelled := handoff.inFlight } } where
  nodup := horderly.nodup
  bounded index hindex := by
    rw [List.length_map]
    exact horderly.bounded index hindex
  placed := by
    intro index handoff hhandoff
    rw [List.getElem?_map] at hhandoff
    obtain ⟨before, hbefore, rfl⟩ := Option.map_eq_some_iff.mp hhandoff
    obtain ⟨hplaced, hunhandled, hhandled⟩ := horderly.placed index before hbefore
    exact ⟨hplaced, hunhandled, hhandled⟩
  returned hreturned := Phase.noConfusion hreturned

/-- A turn of the drain loop keeps it. -/
theorem Orderly.drainPoll {pool : Pool} (horderly : Orderly pool) {idlePolls : ℕ}
    (hphase : pool.phase = .drainingQueue idlePolls) : Orderly (drainPoll pool idlePolls) := by
  unfold AsyncPool.drainPoll
  split
  case h_1 next hnext =>
    have hrunning : pool.phase ≠ .returned := by rw [hphase]; simp
    exact (horderly.getNowait hrunning hnext).of_eq rfl rfl fun hreturned =>
      Phase.noConfusion hreturned
  case h_2 =>
    split
    case isTrue => exact horderly.of_eq rfl rfl fun hreturned => Phase.noConfusion hreturned
    case isFalse =>
      split
      case isTrue => exact horderly.of_eq rfl rfl fun hreturned => Phase.noConfusion hreturned
      case isFalse => exact horderly.of_eq rfl rfl fun hreturned => Phase.noConfusion hreturned

theorem Handoff.started_of_isAt {stage : Stage} (hstage : stage ≠ .queued) (handoff : Handoff)
    (hat : handoff.isAt stage = true) : handoff.stage ≠ .queued := by
  rw [Handoff.isAt, Bool.and_eq_true, decide_eq_true_eq] at hat
  rw [hat.1]
  exact hstage

theorem Handoff.inFlight_of_isAt {stage : Stage} (hqueued : stage ≠ .queued)
    (hended : stage ≠ .ended) (handoff : Handoff) (hat : handoff.isAt stage = true) :
    handoff.inFlight = true := by
  rw [Handoff.isAt, Bool.and_eq_true, decide_eq_true_eq] at hat
  rw [Handoff.inFlight, hat.1]
  simpa using ⟨hqueued, hended⟩

/-- Every step keeps it. -/
theorem orderly_step {pool next : Pool} {action : Action} (horderly : Orderly pool)
    (hstep : step pool action = some next) : Orderly next := by
  cases action with
  | accept =>
      obtain rfl := Option.some.inj hstep
      exact horderly.accept
  | requestShutdown =>
      obtain rfl := Option.some.inj hstep
      exact horderly.of_eq rfl rfl horderly.returned
  | extShutdown =>
      obtain rfl := Option.some.inj hstep
      exact horderly.of_eq rfl rfl horderly.returned
  | poll =>
      obtain ⟨hserving, rfl⟩ := Machine.of_guard hstep
      have hrunning : pool.phase ≠ .returned := by rw [hserving.1]; simp
      cases hnext : getNowait pool with
      | none => exact horderly.of_eq rfl rfl horderly.returned
      | some polled =>
          have hpolled := horderly.getNowait hrunning hnext
          exact hpolled.of_eq rfl rfl hpolled.returned
  | leave =>
      obtain ⟨-, rfl⟩ := Machine.of_guard hstep
      exact horderly.of_eq rfl rfl fun hreturned => Phase.noConfusion hreturned
  | drainPoll =>
      simp only [step] at hstep
      split at hstep
      case h_1 idlePolls hphase =>
        obtain rfl := Option.some.inj hstep
        exact horderly.drainPoll hphase
      case h_2 => cases hstep
  | drainDeadline =>
      simp only [step] at hstep
      split at hstep
      case h_1 =>
        obtain rfl := Option.some.inj hstep
        exact horderly.of_eq rfl rfl fun hreturned => Phase.noConfusion hreturned
      case h_2 => cases hstep
  | tasksDone =>
      obtain ⟨hdone, rfl⟩ := Machine.of_guard hstep
      have hnone : pool.handoffs.any (·.inFlight) = false := by simpa using hdone.2
      exact horderly.of_eq rfl rfl fun _ handoff hhandoff =>
        Bool.eq_false_iff.mpr (List.any_eq_false.mp hnone handoff hhandoff)
  | cancelStragglers =>
      obtain ⟨-, rfl⟩ := Machine.of_guard hstep
      exact horderly.cancel
  | start index =>
      apply horderly.move _ (Handoff.started_of_isAt (by simp)) _ _
        (fun _ => Handoff.inFlight_of_isAt (by simp) (by simp)) hstep
      · exact fun _ _ hstage => Stage.noConfusion hstage
      · exact fun _ => rfl
  | connect index success =>
      apply horderly.move _ (Handoff.started_of_isAt (by simp)) _ _
        (fun _ => Handoff.inFlight_of_isAt (by simp) (by simp)) hstep
      · intro handoff _ hstage
        cases success <;> cases hstage
      · intro handoff
        cases success <;> rfl
  | finish index unsent =>
      apply horderly.move _ (Handoff.started_of_isAt (by simp)) _ _
        (fun _ => Handoff.inFlight_of_isAt (by simp) (by simp)) hstep
      · intro handoff _ hstage
        cases unsent <;> cases hstage
      · intro handoff
        cases unsent <;> rfl
  | flushed index =>
      simp only [step] at hstep
      split at hstep
      case isTrue => cases hstep
      case isFalse hrunning =>
        apply horderly.move Handoff.close _ _ _ (fun hreturned => absurd hreturned hrunning) hstep
        · intro handoff hready hqueued
          simp [hqueued] at hready
        · exact fun _ _ hstage => Stage.noConfusion hstage
        · exact fun _ => rfl
  | interrupt index =>
      apply horderly.move Handoff.interrupt _ _ _ _ hstep
      · intro handoff hready hqueued
        simp [Handoff.inFlight, hqueued] at hready
      · intro handoff hstarted
        rw [Handoff.interrupt]
        split
        · exact fun hstage => Stage.noConfusion hstage
        · exact fun hstage => Stage.noConfusion hstage
        · exact hstarted
      · intro handoff
        rw [Handoff.interrupt]
        split <;> rfl
      · intro _ handoff hready
        rw [Bool.and_eq_true] at hready
        exact hready.2

/-- The pool is in order in all runs. -/
theorem orderly_of_reach {allowed : Pool → Action → Prop} {pool : Pool}
    (hreach : machine.Reach allowed pool) : Orderly pool := by
  apply hreach.invariant
  · rintro pool rfl
    exact orderly_init
  · exact fun _ _ _ horderly _ hstep => orderly_step horderly hstep

/-! ## No handoff too late -/

/-- The queue is still polled. -/
def Phase.polls : Phase → Bool
  | .serving => true
  | .drainingQueue _ => true
  | _ => false

/-- Handoffs are accepted while the queue is polled, and the drain loop does not end at its
deadline with a handoff in the queue. -/
def punctual (pool : Pool) : Action → Bool
  | .accept => pool.phase.polls
  | .drainDeadline => pool.queue = []
  | _ => true

/-- The queue is empty when it is no longer polled. -/
def Emptied (pool : Pool) : Prop := pool.phase.polls = false → pool.queue = []

/-- Only accepting and polling touch the queue. -/
theorem move_keeps {pool next : Pool} {index : ℕ} {ready : Handoff → Bool}
    {change : Handoff → Handoff} (hnext : move pool index ready change = some next) :
    next.queue = pool.queue ∧ next.phase = pool.phase := by
  unfold move at hnext
  split at hnext
  case h_1 => cases hnext
  case h_2 =>
    split at hnext
    case isFalse => cases hnext
    case isTrue =>
      obtain rfl := Option.some.inj hnext
      exact ⟨rfl, rfl⟩

theorem Emptied.of_eq {pool next : Pool} (hemptied : Emptied pool)
    (hkeeps : next.queue = pool.queue ∧ next.phase = pool.phase) : Emptied next := by
  rw [Emptied, hkeeps.1, hkeeps.2]
  exact hemptied

/-- Nothing is taken out of an empty queue. -/
theorem queue_eq_nil_of_getNowait {pool : Pool} (hnone : getNowait pool = none) :
    pool.queue = [] := by
  unfold getNowait at hnone
  split at hnone
  case h_1 hqueue => exact hqueue
  case h_2 => cases hnone

/-- A punctual step keeps it. -/
theorem emptied_step {pool next : Pool} {action : Action} (hemptied : Emptied pool)
    (hallowed : punctual pool action) (hstep : step pool action = some next) :
    Emptied next := by
  cases action with
  | accept =>
      obtain rfl := Option.some.inj hstep
      intro hpolls
      exact absurd (hpolls.symm.trans hallowed) (by simp)
  | requestShutdown =>
      obtain rfl := Option.some.inj hstep
      exact hemptied
  | extShutdown =>
      obtain rfl := Option.some.inj hstep
      exact hemptied
  | poll =>
      obtain ⟨hserving, rfl⟩ := Machine.of_guard hstep
      intro hpolls
      have hphase : ((getNowait pool).getD pool).phase = pool.phase := by
        unfold getNowait
        split <;> rfl
      change ((getNowait pool).getD pool).phase.polls = false at hpolls
      rw [hphase, hserving.1] at hpolls
      cases hpolls
  | leave =>
      obtain ⟨-, rfl⟩ := Machine.of_guard hstep
      exact fun hpolls => Bool.noConfusion hpolls
  | drainPoll =>
      simp only [step] at hstep
      split at hstep
      case h_2 => cases hstep
      case h_1 idlePolls hphase =>
        obtain rfl := Option.some.inj hstep
        unfold drainPoll
        split
        case h_1 => exact fun hpolls => Bool.noConfusion hpolls
        case h_2 hnone =>
          have hqueue := queue_eq_nil_of_getNowait hnone
          split
          case isTrue => exact fun hpolls => Bool.noConfusion hpolls
          case isFalse =>
            split
            case isTrue => exact fun _ => hqueue
            case isFalse => exact fun hpolls => Bool.noConfusion hpolls
  | drainDeadline =>
      simp only [step] at hstep
      split at hstep
      case h_2 => cases hstep
      case h_1 =>
        obtain rfl := Option.some.inj hstep
        exact fun _ => of_decide_eq_true hallowed
  | tasksDone =>
      obtain ⟨hdone, rfl⟩ := Machine.of_guard hstep
      obtain ⟨hphase | hphase, -⟩ := hdone
      · exact fun _ => hemptied (by rw [hphase]; rfl)
      · exact fun _ => hemptied (by rw [hphase]; rfl)
  | cancelStragglers =>
      obtain ⟨hstarted, rfl⟩ := Machine.of_guard hstep
      exact fun _ => hemptied (by rw [hstarted.1]; rfl)
  | start | connect | finish | interrupt => exact hemptied.of_eq (move_keeps hstep)
  | flushed index =>
      simp only [step] at hstep
      split at hstep
      case isTrue => cases hstep
      case isFalse => exact hemptied.of_eq (move_keeps hstep)

/-! ## No socket left open -/

/-- No handler waits for its writer to send what is left when the stragglers are cancelled. -/
def sparing (pool : Pool) : Action → Bool
  | .cancelStragglers => !pool.handoffs.any (·.stage = .closing)
  | _ => true

/-- A task that is done has closed its socket, and one that waits for its writer was not
cancelled. -/
structure Handoff.Tidy (handoff : Handoff) : Prop where
  closed : handoff.stage = .ended → handoff.socketOpen = false
  waits : handoff.stage = .closing → handoff.cancelled = false

/-- All handoffs are. -/
def Tidy (pool : Pool) : Prop := ∀ handoff ∈ pool.handoffs, handoff.Tidy

theorem Tidy.of_eq {pool next : Pool} (htidy : Tidy pool) (hsame : next.handoffs = pool.handoffs) :
    Tidy next := by
  rw [Tidy, hsame]
  exact htidy

theorem Tidy.getNowait {pool next : Pool} (htidy : Tidy pool)
    (hnext : getNowait pool = some next) : Tidy next := by
  unfold AsyncPool.getNowait at hnext
  split at hnext
  case h_1 => cases hnext
  case h_2 first queue hqueue =>
    obtain rfl := Option.some.inj hnext
    intro handoff hhandoff
    obtain ⟨index, hindex⟩ := List.mem_iff_getElem?.mp hhandoff
    change (pool.handoffs.modify first _)[index]? = _ at hindex
    rw [List.getElem?_modify] at hindex
    obtain ⟨before, hbefore, rfl⟩ := Option.map_eq_some_iff.mp hindex
    split
    case isTrue =>
      exact ⟨fun hstage => Stage.noConfusion hstage, fun hstage => Stage.noConfusion hstage⟩
    case isFalse => exact htidy before (List.mem_of_getElem? hbefore)

theorem Tidy.drainPoll {pool : Pool} (htidy : Tidy pool) (idlePolls : ℕ) :
    Tidy (drainPoll pool idlePolls) := by
  unfold AsyncPool.drainPoll
  split
  case h_1 next hnext => exact (htidy.getNowait hnext).of_eq rfl
  case h_2 =>
    split
    · exact htidy.of_eq rfl
    · split <;> exact htidy.of_eq rfl

theorem Tidy.move {pool next : Pool} (htidy : Tidy pool) {index : ℕ} {ready : Handoff → Bool}
    {change : Handoff → Handoff}
    (hchange : ∀ handoff : Handoff, ready handoff = true → handoff.Tidy → (change handoff).Tidy)
    (hnext : move pool index ready change = some next) : Tidy next := by
  unfold AsyncPool.move at hnext
  split at hnext
  case h_1 => cases hnext
  case h_2 handoff hhandoff =>
    split at hnext
    case isFalse => cases hnext
    case isTrue hready =>
      obtain rfl := Option.some.inj hnext
      intro other hother
      rcases List.mem_or_eq_of_mem_set hother with hold | rfl
      · exact htidy other hold
      · exact hchange handoff hready (htidy handoff (List.mem_of_getElem? hhandoff))

theorem Handoff.tidy_close (handoff : Handoff) : handoff.close.Tidy :=
  ⟨fun _ => rfl, fun hstage => Stage.noConfusion hstage⟩

/-- A sparing step keeps it. -/
theorem tidy_step {pool next : Pool} {action : Action} (htidy : Tidy pool)
    (hallowed : sparing pool action) (hstep : step pool action = some next) : Tidy next := by
  cases action with
  | accept =>
      obtain rfl := Option.some.inj hstep
      intro handoff hhandoff
      obtain hold | hlast := List.mem_append.mp hhandoff
      · exact htidy handoff hold
      · obtain rfl := List.mem_singleton.mp hlast
        exact ⟨fun hstage => Stage.noConfusion hstage, fun hstage => Stage.noConfusion hstage⟩
  | requestShutdown | extShutdown =>
      obtain rfl := Option.some.inj hstep
      exact htidy.of_eq rfl
  | poll =>
      obtain ⟨-, rfl⟩ := Machine.of_guard hstep
      cases hnext : getNowait pool with
      | none => exact htidy.of_eq rfl
      | some polled => exact (htidy.getNowait hnext).of_eq rfl
  | leave | tasksDone =>
      obtain ⟨-, rfl⟩ := Machine.of_guard hstep
      exact htidy.of_eq rfl
  | drainPoll =>
      simp only [step] at hstep
      split at hstep
      case h_1 =>
        obtain rfl := Option.some.inj hstep
        exact htidy.drainPoll _
      case h_2 => cases hstep
  | drainDeadline =>
      simp only [step] at hstep
      split at hstep
      case h_1 =>
        obtain rfl := Option.some.inj hstep
        exact htidy.of_eq rfl
      case h_2 => cases hstep
  | cancelStragglers =>
      obtain ⟨-, rfl⟩ := Machine.of_guard hstep
      intro handoff hhandoff
      obtain ⟨before, hbefore, rfl⟩ := List.mem_map.mp hhandoff
      refine ⟨(htidy before hbefore).closed, fun hclosing => ?_⟩
      have hnone : pool.handoffs.any (·.stage = .closing) = false := by
        simpa [sparing] using hallowed
      have hnot := List.any_eq_false.mp hnone before hbefore
      exact absurd (decide_eq_true hclosing) hnot
  | start index =>
      refine htidy.move (fun handoff _ _ => ?_) hstep
      exact ⟨fun hstage => Stage.noConfusion hstage, fun hstage => Stage.noConfusion hstage⟩
  | connect index success =>
      refine htidy.move (fun handoff _ _ => ?_) hstep
      cases success with
      | true =>
          exact ⟨fun hstage => Stage.noConfusion hstage, fun hstage => Stage.noConfusion hstage⟩
      | false => exact handoff.tidy_close
  | finish index unsent =>
      refine htidy.move (fun handoff hready _ => ?_) hstep
      cases unsent with
      | true =>
          rw [Handoff.isAt, Bool.and_eq_true, Bool.not_eq_true'] at hready
          exact ⟨fun hstage => Stage.noConfusion hstage, fun _ => hready.2⟩
      | false => exact handoff.tidy_close
  | flushed index =>
      simp only [step] at hstep
      split at hstep
      case isTrue => cases hstep
      case isFalse => exact htidy.move (fun handoff _ _ => handoff.tidy_close) hstep
  | interrupt index =>
      refine htidy.move (fun handoff hready hbefore => ?_) hstep
      rw [Bool.and_eq_true] at hready
      rw [Handoff.interrupt]
      split
      case h_1 => exact handoff.tidy_close
      case h_2 hclosing =>
        -- who waits for its writer was not cancelled
        have hnot := hbefore.waits hclosing
        rw [hready.1] at hnot
        cases hnot
      case h_3 => exact ⟨hbefore.closed, fun _ => rfl⟩

/-- A handoff that has a task when the pool has returned has ended. -/
theorem Orderly.ended {pool : Pool} (horderly : Orderly pool) (hreturned : pool.phase = .returned)
    {handoff : Handoff} (hhandoff : handoff ∈ pool.handoffs) (hstarted : handoff.stage ≠ .queued) :
    handoff.stage = .ended := by
  have hlanded := horderly.returned hreturned handoff hhandoff
  cases hstage : handoff.stage with
  | ended => rfl
  | queued => exact absurd hstage hstarted
  | created | connecting | serving | closing => simp [Handoff.inFlight, hstage] at hlanded

/-- No handoff is handled twice; if none is accepted after the queue has been polled for the
last time, nor left in it at the deadline, every one has been handled when the pool has
returned; and if none waits for its writer when the stragglers are cancelled, the sockets of
those that were handled are closed then. -/
theorem handoffs_settled (pool : Pool) (hreach : machine.Reachable pool) :
    (∀ handoff ∈ pool.handoffs, handoff.handlers ≤ 1) ∧
    (machine.Reach (fun pool action => punctual pool action) pool →
      pool.phase = .returned →
        pool.queue = [] ∧ ∀ handoff ∈ pool.handoffs, handoff.handlers = 1) ∧
    (machine.Reach (fun pool action => sparing pool action) pool →
      pool.phase = .returned →
        ∀ handoff ∈ pool.handoffs, handoff.handlers = 1 → handoff.socketOpen = false) := by
  have horderly := orderly_of_reach hreach
  refine ⟨?_, ?_, ?_⟩
  · intro handoff hhandoff
    obtain ⟨index, hindex⟩ := List.mem_iff_getElem?.mp hhandoff
    have hplaced := horderly.placed index handoff hindex
    by_cases hstage : handoff.stage = .queued
    · rw [hplaced.unhandled hstage]
      exact Nat.zero_le _
    · exact Nat.le_of_eq (hplaced.handled hstage)
  · intro hpunctual hreturned
    have hemptied : Emptied pool := by
      apply hpunctual.invariant
      · rintro pool rfl
        exact fun hpolls => Bool.noConfusion hpolls
      · exact fun _ _ _ hemptied hallowed hstep => emptied_step hemptied hallowed hstep
    have hqueue : pool.queue = [] := hemptied (by rw [hreturned]; rfl)
    refine ⟨hqueue, ?_⟩
    intro handoff hhandoff
    obtain ⟨index, hindex⟩ := List.mem_iff_getElem?.mp hhandoff
    have hplaced := horderly.placed index handoff hindex
    apply hplaced.handled
    intro hstage
    have hmem := hplaced.queued.mp hstage
    rw [hqueue] at hmem
    exact List.not_mem_nil hmem
  · intro hsparing hreturned handoff hhandoff hhandled
    have htidy : Tidy pool := by
      apply hsparing.invariant
      · rintro pool rfl
        exact List.forall_mem_nil _
      · exact fun _ _ _ htidy hallowed hstep => tidy_step htidy hallowed hstep
    obtain ⟨index, hindex⟩ := List.mem_iff_getElem?.mp hhandoff
    have hplaced := horderly.placed index handoff hindex
    have hstarted : handoff.stage ≠ .queued := by
      intro hstage
      rw [hplaced.unhandled hstage] at hhandled
      cases hhandled
    exact (htidy handoff hhandoff).closed (horderly.ended hreturned hhandoff hstarted)

/-- A pool that is retired while two handlers are at work. One of them ends and waits for its
writer, and the other is cancelled. -/
def retiredActions : List Action :=
  [.accept, .accept, .poll, .poll, .start 0, .start 1, .connect 0 true, .connect 1 true,
    .requestShutdown, .leave, .finish 0 true, .drainPoll, .flushed 0, .drainDeadline,
    .cancelStragglers, .interrupt 1, .finish 1 false, .tasksDone]

/-- The pool after that. -/
def retired : Pool where
  handoffs := [{ stage := .ended, socketOpen := false, handlers := 1 },
    { stage := .ended, socketOpen := false, handlers := 1 }]
  phase := .returned
  poolShutdown := true

theorem run_retired : machine.run {} retiredActions = some retired := by
  decide

/-- Its handoffs are settled. -/
theorem handoffs_settled_retired :
    (retired.queue = [] ∧ ∀ handoff ∈ retired.handoffs, handoff.handlers = 1) ∧
      ∀ handoff ∈ retired.handoffs, handoff.handlers = 1 → handoff.socketOpen = false := by
  obtain ⟨-, hhandled, hclosed⟩ :=
    handoffs_settled retired (Machine.reachable_run rfl run_retired)
  exact ⟨hhandled (Machine.Reach.run (.init rfl) (Machine.along_of_guarded (by decide))
      run_retired) rfl,
    hclosed (Machine.Reach.run (.init rfl) (Machine.along_of_guarded (by decide))
      run_retired) rfl⟩

/-- A pool that is retired, with a handoff while it waits for its tasks. -/
def lateActions : List Action :=
  [.requestShutdown, .leave] ++ List.replicate 6 .drainPoll ++ [.accept, .tasksDone]

/-- The pool after that. -/
def late : Pool where
  handoffs := [{}]
  queue := [0]
  phase := .returned
  poolShutdown := true

theorem run_late : machine.run {} lateActions = some late := by
  decide

/-- A handler whose client does not read is cancelled while it waits for its writer. -/
def unreadActions : List Action :=
  [.accept, .poll, .start 0, .connect 0 true, .finish 0 true, .requestShutdown, .leave,
    .drainDeadline, .cancelStragglers, .interrupt 0, .tasksDone]

/-- The pool after that. -/
def unread : Pool where
  handoffs := [{ stage := .ended, handlers := 1 }]
  phase := .returned
  poolShutdown := true

theorem run_unread : machine.run {} unreadActions = some unread := by
  decide

/-- A late handoff stays in the queue with an open socket. The other one was handled, but its
socket is open as well. -/
theorem late_orphaned :
    (¬ ∀ pool, machine.Reachable pool → pool.phase = .returned →
      ∀ handoff ∈ pool.handoffs, handoff.handlers = 1 ∨ handoff.socketOpen = false) ∧
    ¬ ∀ pool, machine.Reachable pool → pool.phase = .returned →
      ∀ handoff ∈ pool.handoffs, handoff.handlers = 1 → handoff.socketOpen = false := by
  constructor
  · intro hclaim
    have horphan := hclaim late (Machine.reachable_run rfl run_late) rfl {} (by decide)
    revert horphan
    decide
  · intro hclaim
    have hclosed := hclaim unread (Machine.reachable_run rfl run_unread) rfl
      { stage := .ended, handlers := 1 } (by decide) rfl
    revert hclosed
    decide

end Pounce.AsyncPool
