/-
# The lifespan of the application

`run_lifespan` starts the application in a task of its own, asks it to start up, hands control to
its caller, and asks the application to shut down when the caller is done. The application answers
when it likes, and may as well fail, return early, answer twice or ignore that it is cancelled; the
server waits with timeouts, and may be cancelled itself wherever it waits.

`Lifespan` is what the generator and its closures share, with one function for each stretch of the
generator between two awaits, which also returns what the server has done. The lifespan protocol
holds in all interleavings: startup is asked for first and shutdown at most once and after the body,
the body is entered at most once, and never once the application has reported a failure. The context
is left as the body was, or with the failure, unless the server was cancelled in between.

An application that raises `KeyboardInterrupt` or `SystemExit` takes the event loop down with it and
is left out, as are the log messages.
-/

import Mathlib.Data.List.Infix
import Pounce.Math.Trace

namespace Pounce

open Pounce.Math

/-! ## The two sides -/

/-- An event for the application. -/
inductive LifespanEvent
  | startup
  | shutdown
  deriving DecidableEq, Repr

/-- A message of the application. -/
structure LifespanMessage where
  type : String
  message : Option String := none
  deriving DecidableEq, Repr

/-- `LifespanError`, by its text and its code. -/
structure LifespanError where
  message : String
  code : String := "POUNCE_LIFESPAN_STARTUP_FAILED"
  deriving DecidableEq, Repr

/-- How a block is left: normally, with an error of its own, or because it is cancelled. -/
inductive Leaving (Error : Type)
  | returned
  | raised (error : Error)
  | cancelled
  deriving DecidableEq, Repr

/-- How the context is left. -/
inductive LifespanExit (Error : Type)
  | failed (error : LifespanError)
  | left (leaving : Leaving Error)
  deriving DecidableEq, Repr

/-- Where the generator waits. -/
inductive LifespanPhase (Error : Type)
  | created
  /-- For the answer to startup. -/
  | starting
  /-- For the task to be cancelled, after a timeout. -/
  | cancelling
  /-- It has yielded. -/
  | body
  /-- For the answer to shutdown. -/
  | stopping (exit : LifespanExit Error)
  /-- For the task to be cancelled, at the end. -/
  | awaiting (exit : LifespanExit Error)
  | exited (exit : LifespanExit Error)
  deriving DecidableEq, Repr

/-- What the server does. -/
inductive LifespanAct (Error : Type)
  | startup
  /-- The body is entered, when these messages had been sent, and the task had finished or not. -/
  | entered (sent : List LifespanMessage) (finished : Bool)
  | left (leaving : Leaving Error)
  | shutdown
  | exited (exit : LifespanExit Error)
  deriving DecidableEq, Repr

/-- `run_lifespan` -/
structure Lifespan (Error : Type) where
  phase : LifespanPhase Error := .created
  startupComplete : Bool := false
  startupFailed : Bool := false
  failureMessage : String := ""
  shutdownComplete : Bool := false
  /-- `app_finished`, which the task sets last. -/
  appFinished : Bool := false
  receiveQueue : List LifespanEvent := []
  /-- What the application has taken from the queue. -/
  received : List LifespanEvent := []
  /-- What the application has sent. -/
  sent : List LifespanMessage := []
  startupTimedOut : Bool := false
  /-- How often the task has been cancelled. -/
  cancels : ℕ := 0
  /-- The server has been cancelled. -/
  interrupted : Bool := false
  deriving DecidableEq, Repr

namespace Lifespan

variable {Error : Type} (lifespan : Lifespan Error)

/-- `send` -/
def send (message : LifespanMessage) : Lifespan Error :=
  let lifespan := { lifespan with sent := lifespan.sent ++ [message] }
  if message.type = "lifespan.startup.complete" then { lifespan with startupComplete := true }
  else if message.type = "lifespan.startup.failed" then
    { lifespan with
      startupFailed := true
      failureMessage := message.message.getD ""
      -- unblock the waiter
      startupComplete := true }
  else if message.type = "lifespan.shutdown.complete" then
    { lifespan with shutdownComplete := true }
  else lifespan

/-- The application has returned or raised. -/
def finish : Lifespan Error := { lifespan with startupComplete := true, appFinished := true }

/-- Start the task and ask the application to start up. -/
def start : Lifespan Error × List (LifespanAct Error) :=
  ({ lifespan with
      receiveQueue := lifespan.receiveQueue ++ [.startup]
      phase := .starting }, [.startup])

/-- Leave the context. -/
def exit (exit : LifespanExit Error) : Lifespan Error × List (LifespanAct Error) :=
  ({ lifespan with phase := .exited exit }, [.exited exit])

/-- Cancel the task if it is still running, and leave once it is not. -/
def settle (exit : LifespanExit Error) : Lifespan Error × List (LifespanAct Error) :=
  if lifespan.appFinished then lifespan.exit exit
  else ({ lifespan with cancels := lifespan.cancels + 1, phase := .awaiting exit }, [])

/-- The `finally` block. -/
def unwind (exit : LifespanExit Error) : Lifespan Error × List (LifespanAct Error) :=
  if lifespan.appFinished then lifespan.settle exit
  else
    ({ lifespan with
        receiveQueue := lifespan.receiveQueue ++ [.shutdown]
        phase := .stopping exit }, [.shutdown])

/-- The error of a startup that failed. -/
def startupError : LifespanError where
  message :=
    if lifespan.failureMessage ≠ "" then "Lifespan startup failed: " ++ lifespan.failureMessage
    else "Lifespan startup failed"

/-- Raise if startup has failed, and yield if it has not. -/
def enter : Lifespan Error × List (LifespanAct Error) :=
  if lifespan.startupFailed then lifespan.unwind (.failed lifespan.startupError)
  else
    ({ lifespan with phase := .body }, [.entered lifespan.sent lifespan.appFinished])

/-- Startup has timed out. -/
def giveUp : Lifespan Error × List (LifespanAct Error) :=
  let lifespan := { lifespan with startupTimedOut := true }
  if lifespan.appFinished then lifespan.enter
  else ({ lifespan with cancels := lifespan.cancels + 1, phase := .cancelling }, [])

/-- The body is left. -/
def leave (leaving : Leaving Error) : Lifespan Error × List (LifespanAct Error) :=
  ((lifespan.unwind (.left leaving)).1, .left leaving :: (lifespan.unwind (.left leaving)).2)

end Lifespan

/-! ## Interleavings -/

/-- What happens to the application and to the server. -/
inductive LifespanAction (Error : Type)
  /-- The server enters the context. -/
  | start
  /-- The application takes the next event. -/
  | receive
  | send (message : LifespanMessage)
  /-- The application returns, raises, or is cancelled. -/
  | finish
  /-- The server goes on, as what it waits for has happened. -/
  | wake
  /-- A timeout of the server expires. -/
  | timeout
  /-- The body is done. -/
  | leave (leaving : Leaving Error)
  /-- The server is cancelled. -/
  | cancel
  deriving DecidableEq, Repr

namespace Lifespan

variable {Error : Type} (lifespan : Lifespan Error)

/-- The server goes on. -/
def wake : Option (Lifespan Error × List (LifespanAct Error)) :=
  match lifespan.phase with
  | .starting => if lifespan.startupComplete then some lifespan.enter else none
  | .cancelling => if lifespan.appFinished then some lifespan.enter else none
  | .stopping exit => if lifespan.shutdownComplete then some (lifespan.settle exit) else none
  | .awaiting exit => if lifespan.appFinished then some (lifespan.exit exit) else none
  | _ => none

/-- A timeout expires. -/
def timeout : Option (Lifespan Error × List (LifespanAct Error)) :=
  match lifespan.phase with
  | .starting => some lifespan.giveUp
  -- the wait cancels the task once more, and still ends with the task
  | .cancelling => some ({ lifespan with cancels := lifespan.cancels + 1 }, [])
  | .stopping exit => some (lifespan.settle exit)
  | _ => none

/-- The server is cancelled. What waits for the task hands that on to the task, and does not let it
out. -/
def cancel : Option (Lifespan Error × List (LifespanAct Error)) :=
  match lifespan.phase with
  | .starting => some (lifespan.unwind (.left .cancelled))
  | .cancelling | .awaiting _ => some ({ lifespan with cancels := lifespan.cancels + 1 }, [])
  -- the task is left running
  | .stopping _ => some (lifespan.exit (.left .cancelled))
  | _ => none

/-- The task has been created. -/
def running : Bool :=
  match lifespan.phase with
  | .created => false
  | _ => true

/-- One step. -/
def step : LifespanAction Error → Option (Lifespan Error × List (LifespanAct Error))
  | .start => if lifespan.running then none else some lifespan.start
  | .receive =>
      match lifespan.receiveQueue with
      | [] => none
      | event :: events =>
          some ({ lifespan with receiveQueue := events, received := lifespan.received ++ [event] }, [])
  | .send message => if lifespan.running then some (lifespan.send message, []) else none
  | .finish =>
      if lifespan.running && !lifespan.appFinished then some (lifespan.finish, []) else none
  | .wake => lifespan.wake
  | .timeout => lifespan.timeout
  | .leave leaving =>
      match lifespan.phase with
      | .body => some (lifespan.leave leaving)
      | _ => none
  | .cancel => { lifespan with interrupted := true }.cancel

end Lifespan

/-- The context, from before it is entered. -/
def lifespanEmitter (Error : Type) :
    Emitter (Lifespan Error) (LifespanAction Error) (LifespanAct Error) where
  init lifespan := lifespan = {}
  step := Lifespan.step

/-! ## What is promised -/

/-- Where an act belongs. -/
def LifespanAct.rank {Error : Type} : LifespanAct Error → ℕ
  | .startup => 0
  | .entered .. => 1
  | .left _ => 2
  | .shutdown => 3
  | .exited _ => 4

/-- The event an act asks the application for. -/
def LifespanAct.event {Error : Type} : LifespanAct Error → Option LifespanEvent
  | .startup => some .startup
  | .shutdown => some .shutdown
  | .entered .. | .left _ | .exited _ => none

/-- A report that startup has failed. -/
def LifespanMessage.fails (message : LifespanMessage) : Bool :=
  message.type = "lifespan.startup.failed"

/-- A report that startup is complete. -/
def LifespanMessage.completes (message : LifespanMessage) : Bool :=
  message.type = "lifespan.startup.complete"

section

variable {Error : Type}

/-- The text of the error for a report. -/
def LifespanError.of (message : LifespanMessage) : LifespanError :=
  ({ failureMessage := message.message.getD "" } : Lifespan Unit).startupError

/-- A context that is being left may be left like this. -/
structure MayExit (interrupted : Bool) (sent : List LifespanMessage)
    (acts : List (LifespanAct Error)) (exit : LifespanExit Error) : Prop where
  /-- The body has been left, if it has been entered. -/
  closed : ∀ before finished, .entered before finished ∈ acts → ∃ leaving, .left leaving ∈ acts
  /-- The error is that of a failure that was reported, and the body has not been entered. -/
  failed : ∀ error, exit = .failed error →
    (∀ before finished, .entered before finished ∉ acts) ∧
      ∃ message ∈ sent, message.fails = true ∧ error = .of message
  /-- Otherwise the context is left as the body was, or because the server was cancelled. -/
  left : ∀ leaving, exit = .left leaving →
    (leaving = .cancelled ∧ interrupted = true) ∨ .left leaving ∈ acts

/-- The lifespan protocol. -/
structure LifespanLawful (lifespan : Lifespan Error) (acts : List (LifespanAct Error)) : Prop where
  /-- Each thing is done at most once: startup is asked for, the body entered and left, shutdown is
  asked for, and the context left. -/
  order : acts.Pairwise (LifespanAct.rank · < LifespanAct.rank ·)
  /-- Startup is asked for before anything else is done. -/
  first : acts = [] ∨ acts.head? = some .startup
  /-- The application gets what it is asked for, in that order. -/
  fifo : lifespan.received ++ lifespan.receiveQueue = acts.filterMap LifespanAct.event
  /-- When the body is entered, startup has been completed, or the application has finished, or
  startup has timed out; and no failure has been reported. -/
  entered : ∀ before finished, .entered before finished ∈ acts →
    before <+: lifespan.sent ∧ (∀ message ∈ before, message.fails = false) ∧
      (finished = true ∨ lifespan.startupTimedOut = true ∨
        ∃ message ∈ before, message.completes = true)
  /-- The body is left only where it has been entered. -/
  left : ∀ leaving, .left leaving ∈ acts → ∃ before finished, .entered before finished ∈ acts
  /-- Shutdown is not asked for while the body runs. -/
  shutdown : .shutdown ∈ acts → ∀ before finished, .entered before finished ∈ acts →
    ∃ leaving, .left leaving ∈ acts
  /-- The context is left as it may be. -/
  exited : ∀ exit, .exited exit ∈ acts → MayExit lifespan.interrupted lifespan.sent acts exit
  /-- It is left once the application has finished, unless it is cancelled. -/
  finished : ∀ exit, .exited exit ∈ acts → exit ≠ .left .cancelled → lifespan.appFinished = true

/-! ## The order of what is done -/

namespace Lifespan

variable (lifespan : Lifespan Error) {first : ℕ}

/-- The acts up to some state have ranks below its position. -/
def position : ℕ :=
  match lifespan.phase with
  | .created => 0
  | .starting | .cancelling => 1
  | .body => 2
  | .stopping _ | .awaiting _ => 4
  | .exited _ => 5

theorem exit_ascending (exit : LifespanExit Error) (hfirst : first ≤ 4) :
    Ascending LifespanAct.rank first (lifespan.exit exit).1.position (lifespan.exit exit).2 :=
  .singleton hfirst (Nat.lt_succ_self 4)

theorem settle_ascending (exit : LifespanExit Error) (hfirst : first ≤ 4) :
    Ascending LifespanAct.rank first (lifespan.settle exit).1.position (lifespan.settle exit).2 := by
  rw [settle]
  split
  case isTrue => exact lifespan.exit_ascending exit hfirst
  case isFalse => exact .nil hfirst

theorem unwind_ascending (exit : LifespanExit Error) (hfirst : first ≤ 3) :
    Ascending LifespanAct.rank first (lifespan.unwind exit).1.position (lifespan.unwind exit).2 := by
  rw [unwind]
  split
  case isTrue => exact lifespan.settle_ascending exit (hfirst.trans (Nat.le_succ 3))
  case isFalse => exact .singleton hfirst (Nat.lt_succ_self 3)

theorem leave_ascending (leaving : Leaving Error) (hfirst : first ≤ 2) :
    Ascending LifespanAct.rank first (lifespan.leave leaving).1.position (lifespan.leave leaving).2 :=
  .cons hfirst (Nat.lt_succ_self 2) (lifespan.unwind_ascending _ le_rfl)

theorem enter_ascending (hfirst : first ≤ 1) :
    Ascending LifespanAct.rank first lifespan.enter.1.position lifespan.enter.2 := by
  rw [enter]
  split
  case isTrue => exact lifespan.unwind_ascending _ (hfirst.trans (by decide))
  case isFalse => exact .singleton hfirst (Nat.lt_succ_self 1)

theorem giveUp_ascending (hfirst : first ≤ 1) :
    Ascending LifespanAct.rank first lifespan.giveUp.1.position lifespan.giveUp.2 := by
  rw [giveUp]
  split
  case isTrue => exact enter_ascending _ hfirst
  case isFalse => exact .nil hfirst

variable {lifespan} {taken : Lifespan Error × List (LifespanAct Error)}

theorem wake_ascending (hwake : lifespan.wake = some taken) :
    Ascending LifespanAct.rank lifespan.position taken.1.position taken.2 := by
  rw [wake] at hwake
  rw [position]
  cases hphase : lifespan.phase with
  | created | body | exited => simp [hphase] at hwake
  | starting | cancelling =>
      rw [hphase] at hwake
      obtain ⟨_, rfl⟩ := Machine.of_guard hwake
      exact lifespan.enter_ascending le_rfl
  | stopping exit =>
      rw [hphase] at hwake
      obtain ⟨_, rfl⟩ := Machine.of_guard hwake
      exact lifespan.settle_ascending exit le_rfl
  | awaiting exit =>
      rw [hphase] at hwake
      obtain ⟨_, rfl⟩ := Machine.of_guard hwake
      exact lifespan.exit_ascending exit le_rfl

theorem timeout_ascending (htimeout : lifespan.timeout = some taken) :
    Ascending LifespanAct.rank lifespan.position taken.1.position taken.2 := by
  rw [timeout] at htimeout
  rw [position]
  cases hphase : lifespan.phase with
  | created | body | awaiting | exited => simp [hphase] at htimeout
  | starting =>
      rw [hphase] at htimeout
      obtain rfl := Option.some.inj htimeout
      exact lifespan.giveUp_ascending le_rfl
  | cancelling =>
      rw [hphase] at htimeout
      obtain rfl := Option.some.inj htimeout
      exact .nil le_rfl
  | stopping exit =>
      rw [hphase] at htimeout
      obtain rfl := Option.some.inj htimeout
      exact lifespan.settle_ascending exit le_rfl

theorem cancel_ascending (hcancel : lifespan.cancel = some taken) :
    Ascending LifespanAct.rank lifespan.position taken.1.position taken.2 := by
  rw [cancel] at hcancel
  rw [position]
  cases hphase : lifespan.phase with
  | created | body | exited => simp [hphase] at hcancel
  | starting =>
      rw [hphase] at hcancel
      obtain rfl := Option.some.inj hcancel
      exact lifespan.unwind_ascending _ (show 1 ≤ 3 by decide)
  | cancelling | awaiting =>
      rw [hphase] at hcancel
      obtain rfl := Option.some.inj hcancel
      exact .nil le_rfl
  | stopping exit =>
      rw [hphase] at hcancel
      obtain rfl := Option.some.inj hcancel
      exact lifespan.exit_ascending _ le_rfl

/-- A context that has not been entered has done nothing. -/
theorem created_of_not_running (hrunning : lifespan.running = false) :
    lifespan.phase = .created := by
  rw [running] at hrunning
  split at hrunning
  case h_1 hcreated => exact hcreated
  case h_2 => cases hrunning

/-- What the application sends is kept, and moves nothing else. -/
theorem send_frame (message : LifespanMessage) :
    (lifespan.send message).sent = lifespan.sent ++ [message] ∧
      (lifespan.send message).phase = lifespan.phase ∧
      (lifespan.send message).appFinished = lifespan.appFinished ∧
      (lifespan.send message).interrupted = lifespan.interrupted := by
  rw [send]
  split_ifs <;> exact ⟨rfl, rfl, rfl, rfl⟩

/-- The server does things in order. -/
theorem step_ascending {action : LifespanAction Error} (hstep : lifespan.step action = some taken) :
    Ascending LifespanAct.rank lifespan.position taken.1.position taken.2 := by
  cases action with
  | start =>
      rw [step, Option.ite_none_left_eq_some, Bool.not_eq_true] at hstep
      obtain ⟨hrunning, hstart⟩ := hstep
      obtain rfl := Option.some.inj hstart
      rw [position, created_of_not_running hrunning]
      exact .singleton le_rfl (Nat.lt_succ_self 0)
  | receive =>
      rw [step] at hstep
      split at hstep
      case h_1 => cases hstep
      case h_2 =>
        obtain rfl := Option.some.inj hstep
        exact .nil le_rfl
  | send message =>
      obtain ⟨_, rfl⟩ := Machine.of_guard hstep
      refine .nil (le_of_eq ?_)
      rw [position, position, (send_frame message).2.1]
  | finish =>
      obtain ⟨_, rfl⟩ := Machine.of_guard hstep
      exact .nil le_rfl
  | wake => exact wake_ascending hstep
  | timeout => exact timeout_ascending hstep
  | leave leaving =>
      rw [step] at hstep
      split at hstep
      case h_1 hbody =>
        obtain rfl := Option.some.inj hstep
        rw [position, hbody]
        exact lifespan.leave_ascending leaving le_rfl
      case h_2 => cases hstep
  | cancel =>
      have hposition : lifespan.position = { lifespan with interrupted := true }.position := rfl
      rw [hposition]
      exact cancel_ascending hstep

end Lifespan

/-- So does a run. -/
theorem lifespan_ascending {recorded : Machine.Recorded (Lifespan Error) (LifespanAct Error)}
    (hreach : (lifespanEmitter Error).machine.Reachable recorded) :
    Ascending LifespanAct.rank 0 recorded.state.position recorded.history :=
  Emitter.ascending Lifespan.position (fun _ => True) (fun _ _ => trivial) (fun _ _ => Nat.zero_le _)
    (fun _ _ _ _ _ => Lifespan.step_ascending) hreach

/-- A context that has not been entered asks for startup, or does nothing. -/
theorem Lifespan.step_of_created {lifespan : Lifespan Error} {action : LifespanAction Error}
    {taken : Lifespan Error × List (LifespanAct Error)} (hcreated : lifespan.phase = .created)
    (hstep : lifespan.step action = some taken) :
    taken.1.phase = .created ∧ taken.2 = [] ∨ taken.2 = [.startup] := by
  have hrunning : lifespan.running = false := by rw [Lifespan.running, hcreated]
  cases action with
  | start =>
      rw [Lifespan.step, Option.ite_none_left_eq_some] at hstep
      obtain rfl := Option.some.inj hstep.2
      exact .inr rfl
  | receive =>
      rw [Lifespan.step] at hstep
      split at hstep
      case h_1 => cases hstep
      case h_2 =>
        obtain rfl := Option.some.inj hstep
        exact .inl ⟨hcreated, rfl⟩
  | send | finish => simp [Lifespan.step, hrunning] at hstep
  | wake => simp [Lifespan.step, Lifespan.wake, hcreated] at hstep
  | timeout => simp [Lifespan.step, Lifespan.timeout, hcreated] at hstep
  | leave => simp [Lifespan.step, hcreated] at hstep
  | cancel => simp [Lifespan.step, Lifespan.cancel, hcreated] at hstep

/-- A run asks for startup before anything else. -/
theorem lifespan_first {recorded : Machine.Recorded (Lifespan Error) (LifespanAct Error)}
    (hreach : (lifespanEmitter Error).machine.Reachable recorded) :
    (recorded.history = [] ∧ recorded.state.phase = .created) ∨
      recorded.history.head? = some .startup := by
  refine Emitter.invariant (fun (lifespan : Lifespan Error) acts =>
    (acts = [] ∧ lifespan.phase = .created) ∨ acts.head? = some .startup) ?_ ?_ hreach
  · rintro _ rfl
    exact .inl ⟨rfl, rfl⟩
  · rintro lifespan acts action next events (⟨rfl, hcreated⟩ | hstarted) hstep
    · rcases Lifespan.step_of_created hcreated hstep with ⟨hphase, hnone⟩ | hstartup
      · exact .inl ⟨hnone, hphase⟩
      · exact .inr (congrArg List.head? hstartup)
    · cases acts with
      | nil => cases hstarted
      | cons act acts => exact .inr hstarted

/-! ## The invariant -/

/-- How the context will be left, once that is known. -/
def LifespanPhase.exit : LifespanPhase Error → Option (LifespanExit Error)
  | .stopping exit | .awaiting exit | .exited exit => some exit
  | .created | .starting | .cancelling | .body => none

variable {lifespan : Lifespan Error} {acts : List (LifespanAct Error)}

/-- What does not depend on where the server waits. -/
structure LifespanBase (lifespan : Lifespan Error) (acts : List (LifespanAct Error)) : Prop where
  fifo : lifespan.received ++ lifespan.receiveQueue = acts.filterMap LifespanAct.event
  failed : lifespan.startupFailed = true →
    ∃ message ∈ lifespan.sent, message.fails = true ∧ lifespan.startupError = .of message
  healthy : lifespan.startupFailed = false → ∀ message ∈ lifespan.sent, message.fails = false
  complete : lifespan.startupComplete = true → lifespan.startupFailed = true ∨
    lifespan.appFinished = true ∨ ∃ message ∈ lifespan.sent, message.completes = true
  entered : ∀ before finished, .entered before finished ∈ acts →
    before <+: lifespan.sent ∧ (∀ message ∈ before, message.fails = false) ∧
      (finished = true ∨ lifespan.startupTimedOut = true ∨
        ∃ message ∈ before, message.completes = true)
  left : ∀ leaving, .left leaving ∈ acts → ∃ before finished, .entered before finished ∈ acts

/-- The invariant. -/
structure LifespanInv (lifespan : Lifespan Error) (acts : List (LifespanAct Error)) : Prop where
  base : LifespanBase lifespan acts
  body : lifespan.phase = .body → ∃ before finished, .entered before finished ∈ acts
  mayExit : ∀ exit, lifespan.phase.exit = some exit →
    MayExit lifespan.interrupted lifespan.sent acts exit
  exited : ∀ exit, .exited exit ∈ acts → lifespan.phase = .exited exit
  marked : ∀ exit, lifespan.phase = .exited exit → .exited exit ∈ acts
  finished : ∀ exit, lifespan.phase = .exited exit → exit ≠ .left .cancelled →
    lifespan.appFinished = true

namespace LifespanBase

/-- Where the server waits is changed, and perhaps the task cancelled. -/
theorem move (hbase : LifespanBase lifespan acts) (phase : LifespanPhase Error) (cancels : ℕ) :
    LifespanBase { lifespan with phase, cancels } acts :=
  ⟨hbase.fifo, hbase.failed, hbase.healthy, hbase.complete, hbase.entered, hbase.left⟩

/-- Startup times out. -/
theorem timeOut (hbase : LifespanBase lifespan acts) :
    LifespanBase { lifespan with startupTimedOut := true } acts where
  fifo := hbase.fifo
  failed := hbase.failed
  healthy := hbase.healthy
  complete := hbase.complete
  entered before finished hmem :=
    ⟨(hbase.entered before finished hmem).1, (hbase.entered before finished hmem).2.1,
      .inr (.inl rfl)⟩
  left := hbase.left

/-- The application finishes. -/
theorem finish (hbase : LifespanBase lifespan acts) : LifespanBase lifespan.finish acts :=
  ⟨hbase.fifo, hbase.failed, hbase.healthy, fun _ => .inr (.inl rfl), hbase.entered, hbase.left⟩

/-- The application takes an event. -/
theorem receive (hbase : LifespanBase lifespan acts) {event : LifespanEvent}
    {events : List LifespanEvent} (hqueue : lifespan.receiveQueue = event :: events) :
    LifespanBase { lifespan with
      receiveQueue := events, received := lifespan.received ++ [event] } acts where
  fifo := by
    rw [← hbase.fifo, hqueue, List.append_assoc, List.singleton_append]
  failed := hbase.failed
  healthy := hbase.healthy
  complete := hbase.complete
  entered := hbase.entered
  left := hbase.left

/-- What had been sent before is still the beginning of what has been sent. -/
theorem entered_send (hbase : LifespanBase lifespan acts) (message : LifespanMessage)
    (before : List LifespanMessage) (finished : Bool) (hmem : .entered before finished ∈ acts) :
    before <+: lifespan.sent ++ [message] ∧ (∀ message ∈ before, message.fails = false) ∧
      (finished = true ∨ lifespan.startupTimedOut = true ∨
        ∃ message ∈ before, message.completes = true) := by
  obtain ⟨hsent, hhealthy, hready⟩ := hbase.entered before finished hmem
  exact ⟨hsent.trans (List.prefix_append _ _), hhealthy, hready⟩

/-- The application sends a message. -/
theorem send (hbase : LifespanBase lifespan acts) (message : LifespanMessage) :
    LifespanBase (lifespan.send message) acts := by
  have hcomplete (h : lifespan.startupComplete = true) : lifespan.startupFailed = true ∨
      lifespan.appFinished = true ∨ ∃ other ∈ lifespan.sent ++ [message], other.completes = true := by
    rcases hbase.complete h with hfailed | hfinished | ⟨other, hother, hcompletes⟩
    · exact .inl hfailed
    · exact .inr (.inl hfinished)
    · exact .inr (.inr ⟨other, List.mem_append_left _ hother, hcompletes⟩)
  have hfailed (h : lifespan.startupFailed = true) :
      ∃ other ∈ lifespan.sent ++ [message], other.fails = true ∧
        lifespan.startupError = .of other := by
    obtain ⟨other, hother, hfails⟩ := hbase.failed h
    exact ⟨other, List.mem_append_left _ hother, hfails⟩
  have hhealthy (hfails : message.fails = false) (h : lifespan.startupFailed = false) :
      ∀ other ∈ lifespan.sent ++ [message], other.fails = false := by
    simp only [List.mem_append, List.mem_singleton]
    rintro other (hother | rfl)
    · exact hbase.healthy h other hother
    · exact hfails
  rw [Lifespan.send]
  split_ifs with hcompletes hfails hshutdown
  · exact
      { fifo := hbase.fifo
        failed := hfailed
        healthy := hhealthy (by simp [LifespanMessage.fails, hcompletes])
        complete := fun _ => .inr (.inr ⟨message, by simp, by simp [LifespanMessage.completes, hcompletes]⟩)
        entered := hbase.entered_send message
        left := hbase.left }
  · exact
      { fifo := hbase.fifo
        failed := fun _ => ⟨message, by simp, by simp [LifespanMessage.fails, hfails], rfl⟩
        healthy := fun h => absurd h (by simp)
        complete := fun _ => .inl rfl
        entered := hbase.entered_send message
        left := hbase.left }
  · exact
      { fifo := hbase.fifo
        failed := hfailed
        healthy := hhealthy (by simp [LifespanMessage.fails, hfails])
        complete := hcomplete
        entered := hbase.entered_send message
        left := hbase.left }
  · exact
      { fifo := hbase.fifo
        failed := hfailed
        healthy := hhealthy (by simp [LifespanMessage.fails, hfails])
        complete := hcomplete
        entered := hbase.entered_send message
        left := hbase.left }

/-- The server does something that is no event, and does not enter the body. -/
theorem emit {act : LifespanAct Error} (hbase : LifespanBase lifespan acts) (hevent : act.event = none)
    (hentered : ∀ before finished, act ≠ .entered before finished)
    (hleft : ∀ leaving, act = .left leaving → ∃ before finished, .entered before finished ∈ acts) :
    LifespanBase lifespan (acts ++ [act]) where
  fifo := by simpa [hevent] using hbase.fifo
  failed := hbase.failed
  healthy := hbase.healthy
  complete := hbase.complete
  entered before finished hmem := by
    rw [List.mem_append, List.mem_singleton] at hmem
    exact hbase.entered before finished (hmem.resolve_right fun heq => hentered _ _ heq.symm)
  left leaving hmem := by
    rw [List.mem_append, List.mem_singleton] at hmem
    obtain ⟨before, finished, hbefore⟩ := hmem.elim (hbase.left leaving) fun heq => hleft _ heq.symm
    exact ⟨before, finished, List.mem_append_left _ hbefore⟩

/-- The server asks for something. -/
theorem ask {act : LifespanAct Error} (hbase : LifespanBase lifespan acts) {event : LifespanEvent}
    (hevent : act.event = some event) :
    LifespanBase { lifespan with receiveQueue := lifespan.receiveQueue ++ [event] }
      (acts ++ [act]) where
  fifo := by simp [hevent, ← hbase.fifo]
  failed := hbase.failed
  healthy := hbase.healthy
  complete := hbase.complete
  entered before finished hmem := by
    rw [List.mem_append, List.mem_singleton] at hmem
    refine hbase.entered before finished (hmem.resolve_right ?_)
    rintro rfl
    cases hevent
  left leaving hmem := by
    rw [List.mem_append, List.mem_singleton] at hmem
    obtain ⟨before, finished, hbefore⟩ := hbase.left leaving (hmem.resolve_right (by
      rintro rfl
      cases hevent))
    exact ⟨before, finished, List.mem_append_left _ hbefore⟩

/-- The server enters the body. -/
theorem enter (hbase : LifespanBase lifespan acts) (hhealthy : lifespan.startupFailed = false)
    (hready : lifespan.appFinished = true ∨ lifespan.startupTimedOut = true ∨
      ∃ message ∈ lifespan.sent, message.completes = true) :
    LifespanBase lifespan (acts ++ [.entered lifespan.sent lifespan.appFinished]) where
  fifo := by
    rw [List.filterMap_append, hbase.fifo]
    exact (List.append_nil _).symm
  failed := hbase.failed
  healthy := hbase.healthy
  complete := hbase.complete
  entered before finished hmem := by
    rw [List.mem_append, List.mem_singleton] at hmem
    rcases hmem with hmem | heq
    · exact hbase.entered before finished hmem
    · cases heq
      exact ⟨List.prefix_rfl, hbase.healthy hhealthy, hready⟩
  left leaving hmem := by
    rw [List.mem_append, List.mem_singleton] at hmem
    obtain ⟨before, finished, hbefore⟩ := hbase.left leaving (hmem.resolve_right (by simp))
    exact ⟨before, finished, List.mem_append_left _ hbefore⟩

end LifespanBase

namespace MayExit

variable {interrupted : Bool} {sent : List LifespanMessage} {exit : LifespanExit Error}

/-- The server does something else. -/
theorem emit {act : LifespanAct Error} (hexit : MayExit interrupted sent acts exit)
    (hentered : ∀ before finished, act ≠ .entered before finished) :
    MayExit interrupted sent (acts ++ [act]) exit := by
  have hold {before : List LifespanMessage} {finished : Bool}
      (hmem : .entered before finished ∈ acts ++ [act]) : .entered before finished ∈ acts := by
    rw [List.mem_append, List.mem_singleton] at hmem
    exact hmem.resolve_right fun heq => hentered _ _ heq.symm
  refine ⟨fun before finished hmem => ?_, fun error herror => ?_, fun leaving hleaving => ?_⟩
  · obtain ⟨leaving, hleft⟩ := hexit.closed before finished (hold hmem)
    exact ⟨leaving, List.mem_append_left _ hleft⟩
  · obtain ⟨hnone, hreport⟩ := hexit.failed error herror
    exact ⟨fun before finished hmem => hnone before finished (hold hmem), hreport⟩
  · exact (hexit.left leaving hleaving).imp_right (List.mem_append_left _)

/-- The application sends something else, or the server is cancelled. -/
theorem mono {later : Bool} {more : List LifespanMessage} (hexit : MayExit interrupted sent acts exit)
    (hlater : interrupted = true → later = true) : MayExit later (sent ++ more) acts exit where
  closed := hexit.closed
  failed error herror := by
    obtain ⟨hnone, report, hreport, hfails⟩ := hexit.failed error herror
    exact ⟨hnone, report, List.mem_append_left _ hreport, hfails⟩
  left leaving hleaving := (hexit.left leaving hleaving).imp_left (And.imp_right hlater)

/-- A context without a body that was entered may be left for a cancellation. -/
theorem cancelled (hnone : ∀ before finished, .entered before finished ∉ acts) :
    MayExit true sent acts (.left .cancelled) where
  closed before finished hmem := absurd hmem (hnone before finished)
  failed error herror := by cases herror
  left leaving hleaving := by
    cases hleaving
    exact .inl ⟨rfl, rfl⟩

end MayExit

/-- The invariant holds of a state and of what has been done on the way to it. -/
def Keeps (acts : List (LifespanAct Error)) (taken : Lifespan Error × List (LifespanAct Error)) :
    Prop :=
  LifespanInv taken.1 (acts ++ taken.2)

/-- Nothing of a rank that was not reached has been done. -/
theorem not_mem_of_rank {act : LifespanAct Error} {last : ℕ}
    (horder : Ascending LifespanAct.rank 0 last acts) (hrank : last ≤ act.rank) : act ∉ acts :=
  fun hmem => absurd (horder.bounds act hmem).2 (by omega)

section Leave

variable {exit : LifespanExit Error}

/-- The context is left. -/
theorem keeps_exit (hbase : LifespanBase lifespan acts) (horder : Ascending LifespanAct.rank 0 4 acts)
    (hexit : MayExit lifespan.interrupted lifespan.sent acts exit)
    (hfinished : exit ≠ .left .cancelled → lifespan.appFinished = true) :
    Keeps acts (lifespan.exit exit) where
  base := (hbase.move _ _).emit rfl (by simp) (by simp)
  body hbody := by cases hbody
  mayExit other hother := by
    cases hother
    exact hexit.emit (by simp)
  exited other hmem := by
    rw [Lifespan.exit, List.mem_append, List.mem_singleton] at hmem
    cases hmem.resolve_left (not_mem_of_rank horder le_rfl)
    rfl
  marked other hother := by
    cases hother
    exact List.mem_append_right _ List.mem_cons_self
  finished other hother hne := by
    cases hother
    exact hfinished hne

/-- The task is cancelled, or the context left. -/
theorem keeps_settle (hbase : LifespanBase lifespan acts)
    (horder : Ascending LifespanAct.rank 0 4 acts) (hexit : MayExit lifespan.interrupted lifespan.sent acts exit) :
    Keeps acts (lifespan.settle exit) := by
  rw [Lifespan.settle]
  split
  case isTrue hfinished => exact keeps_exit hbase horder hexit fun _ => hfinished
  case isFalse =>
    rw [Keeps, List.append_nil]
    exact
      { base := hbase.move _ _
        body := fun hbody => by cases hbody
        mayExit := fun other hother => by
          cases hother
          exact hexit
        exited := fun other hmem => absurd hmem (not_mem_of_rank horder le_rfl)
        marked := fun other hother => by cases hother
        finished := fun other hother => by cases hother }

/-- Shutdown is asked for, if the application has not finished. -/
theorem keeps_unwind (hbase : LifespanBase lifespan acts)
    (horder : Ascending LifespanAct.rank 0 3 acts) (hexit : MayExit lifespan.interrupted lifespan.sent acts exit) :
    Keeps acts (lifespan.unwind exit) := by
  rw [Lifespan.unwind]
  split
  case isTrue => exact keeps_settle hbase (horder.mono le_rfl (by omega)) hexit
  case isFalse =>
    have horder : Ascending LifespanAct.rank 0 4 (acts ++ [.shutdown]) :=
      horder.append (.singleton le_rfl (Nat.lt_succ_self 3))
    exact
      { base := (hbase.ask rfl).move _ _
        body := fun hbody => by cases hbody
        mayExit := fun other hother => by
          cases hother
          exact hexit.emit (by simp)
        exited := fun other hmem => absurd hmem (not_mem_of_rank horder le_rfl)
        marked := fun other hother => by cases hother
        finished := fun other hother => by cases hother }

/-- The body is left. -/
theorem keeps_leave (hinv : LifespanInv lifespan acts)
    (horder : Ascending LifespanAct.rank 0 lifespan.position acts)
    (hbody : lifespan.phase = .body) (leaving : Leaving Error) :
    Keeps acts (lifespan.leave leaving) := by
  rw [Lifespan.position, hbody] at horder
  obtain ⟨before, finished, hentered⟩ := hinv.body hbody
  have hmem : .left leaving ∈ acts ++ [LifespanAct.left leaving] := List.mem_append_right _ (by simp)
  have hbase : LifespanBase lifespan (acts ++ [.left leaving]) :=
    hinv.base.emit rfl (by simp) fun _ _ => ⟨before, finished, hentered⟩
  have hexit : MayExit lifespan.interrupted lifespan.sent (acts ++ [.left leaving])
      (.left leaving) :=
    { closed := fun _ _ _ => ⟨leaving, hmem⟩
      failed := fun error herror => by cases herror
      left := fun other hother => by
        cases hother
        exact .inr hmem }
  have hunwind := keeps_unwind hbase (horder.append (.singleton le_rfl (Nat.lt_succ_self 2))) hexit
  rw [Keeps, List.append_assoc] at hunwind
  exact hunwind

end Leave

/-- Startup is over, and the body is entered or the context left. -/
theorem keeps_enter (hbase : LifespanBase lifespan acts) (horder : Ascending LifespanAct.rank 0 1 acts)
    (hready : lifespan.startupFailed = true ∨ lifespan.appFinished = true ∨
      lifespan.startupTimedOut = true ∨ ∃ message ∈ lifespan.sent, message.completes = true) :
    Keeps acts lifespan.enter := by
  rw [Lifespan.enter]
  split
  case isTrue hfailed =>
    refine keeps_unwind hbase (horder.mono le_rfl (by omega)) ?_
    have hnone (before : List LifespanMessage) (finished : Bool) :
        .entered before finished ∉ acts := not_mem_of_rank horder le_rfl
    exact
      { closed := fun before finished hmem => absurd hmem (hnone before finished)
        failed := fun error herror => by
          cases herror
          exact ⟨hnone, hbase.failed hfailed⟩
        left := fun leaving hleaving => by cases hleaving }
  case isFalse hhealthy =>
    rw [Bool.not_eq_true] at hhealthy
    have horder : Ascending LifespanAct.rank 0 2
        (acts ++ [.entered lifespan.sent lifespan.appFinished]) :=
      horder.append (.singleton le_rfl (Nat.lt_succ_self 1))
    have hbase := hbase.enter hhealthy (hready.resolve_left (by simp [hhealthy]))
    exact
      { base := hbase.move _ _
        body := fun _ => ⟨_, _, List.mem_append_right _ List.mem_cons_self⟩
        mayExit := fun other hother => by cases hother
        exited := fun other hmem => absurd hmem (not_mem_of_rank horder (by
          rw [LifespanAct.rank]
          omega))
        marked := fun other hother => by cases hother
        finished := fun other hother => by cases hother }

/-! ## Every step -/

/-- The application does something, wherever the server is. -/
theorem LifespanInv.app {next : Lifespan Error} (hinv : LifespanInv lifespan acts)
    (hbase : LifespanBase next acts) (hphase : next.phase = lifespan.phase)
    (hsent : ∃ more, next.sent = lifespan.sent ++ more)
    (hinterrupted : lifespan.interrupted = true → next.interrupted = true)
    (hfinished : lifespan.appFinished = true → next.appFinished = true) :
    LifespanInv next acts where
  base := hbase
  body hbody := hinv.body (hphase ▸ hbody)
  mayExit exit hexit := by
    obtain ⟨more, hmore⟩ := hsent
    rw [hmore]
    exact (hinv.mayExit exit (hphase ▸ hexit)).mono hinterrupted
  exited exit hmem := hphase.trans (hinv.exited exit hmem)
  marked exit hexit := hinv.marked exit (hphase ▸ hexit)
  finished exit hexit hne := hfinished (hinv.finished exit (hphase ▸ hexit) hne)

/-- The server cancels the task once more, where it is waiting for it. -/
theorem LifespanInv.recancel (hinv : LifespanInv lifespan acts) :
    LifespanInv { lifespan with cancels := lifespan.cancels + 1 } acts :=
  hinv.app (hinv.base.move _ _) rfl ⟨[], (List.append_nil _).symm⟩ id id

/-- The server is cancelled. -/
theorem LifespanInv.interrupt (hinv : LifespanInv lifespan acts) :
    LifespanInv { lifespan with interrupted := true } acts :=
  hinv.app ⟨hinv.base.fifo, hinv.base.failed, hinv.base.healthy, hinv.base.complete,
    hinv.base.entered, hinv.base.left⟩ rfl ⟨[], (List.append_nil _).symm⟩ (fun _ => rfl) id

/-- The server goes on. -/
theorem keeps_wake (hinv : LifespanInv lifespan acts)
    (horder : Ascending LifespanAct.rank 0 lifespan.position acts)
    {taken : Lifespan Error × List (LifespanAct Error)} (hwake : lifespan.wake = some taken) :
    Keeps acts taken := by
  have hmay := hinv.mayExit
  rw [Lifespan.position] at horder
  rw [Lifespan.wake] at hwake
  cases hphase : lifespan.phase with
  | created | body | exited => simp [hphase] at hwake
  | starting =>
      rw [hphase] at hwake horder
      obtain ⟨hcomplete, rfl⟩ := Machine.of_guard hwake
      refine keeps_enter hinv.base horder ?_
      rcases hinv.base.complete hcomplete with hfailed | hfinished | hcompletes
      · exact .inl hfailed
      · exact .inr (.inl hfinished)
      · exact .inr (.inr (.inr hcompletes))
  | cancelling =>
      rw [hphase] at hwake horder
      obtain ⟨hfinished, rfl⟩ := Machine.of_guard hwake
      exact keeps_enter hinv.base horder (.inr (.inl hfinished))
  | stopping exit =>
      rw [hphase] at hwake horder hmay
      obtain ⟨_, rfl⟩ := Machine.of_guard hwake
      exact keeps_settle hinv.base horder (hmay exit rfl)
  | awaiting exit =>
      rw [hphase] at hwake horder hmay
      obtain ⟨hfinished, rfl⟩ := Machine.of_guard hwake
      exact keeps_exit hinv.base horder (hmay exit rfl) fun _ => hfinished

/-- A timeout expires. -/
theorem keeps_timeout (hinv : LifespanInv lifespan acts)
    (horder : Ascending LifespanAct.rank 0 lifespan.position acts)
    {taken : Lifespan Error × List (LifespanAct Error)} (htimeout : lifespan.timeout = some taken) :
    Keeps acts taken := by
  have hmay := hinv.mayExit
  rw [Lifespan.position] at horder
  rw [Lifespan.timeout] at htimeout
  cases hphase : lifespan.phase with
  | created | body | awaiting | exited => simp [hphase] at htimeout
  | starting =>
      rw [hphase] at htimeout horder
      obtain rfl := Option.some.inj htimeout
      rw [Lifespan.giveUp]
      split
      case isTrue hfinished =>
        exact keeps_enter hinv.base.timeOut horder (.inr (.inl hfinished))
      case isFalse =>
        rw [Keeps, List.append_nil]
        exact
          { base := hinv.base.timeOut.move _ _
            body := fun hbody => by cases hbody
            mayExit := fun exit hexit => by cases hexit
            exited := fun exit hmem => by simpa [hphase] using hinv.exited exit hmem
            marked := fun exit hexit => by cases hexit
            finished := fun exit hexit => by cases hexit }
  | cancelling =>
      rw [hphase] at htimeout
      obtain rfl := Option.some.inj htimeout
      have hrecancel := hinv.recancel
      rw [hphase] at hrecancel
      rw [Keeps, List.append_nil]
      exact hrecancel
  | stopping exit =>
      rw [hphase] at htimeout horder hmay
      obtain rfl := Option.some.inj htimeout
      exact keeps_settle hinv.base horder (hmay exit rfl)

/-- What a cancellation does to the context. -/
theorem keeps_cancel (hinv : LifespanInv lifespan acts) (hinterrupted : lifespan.interrupted = true)
    (horder : Ascending LifespanAct.rank 0 lifespan.position acts)
    {taken : Lifespan Error × List (LifespanAct Error)} (hcancel : lifespan.cancel = some taken) :
    Keeps acts taken := by
  have hmay := hinv.mayExit
  rw [Lifespan.position] at horder
  rw [Lifespan.cancel] at hcancel
  cases hphase : lifespan.phase with
  | created | body | exited => simp [hphase] at hcancel
  | starting =>
      rw [hphase] at hcancel horder
      obtain rfl := Option.some.inj hcancel
      refine keeps_unwind hinv.base (horder.mono le_rfl (show 1 ≤ 3 by decide)) ?_
      rw [hinterrupted]
      exact .cancelled fun _ _ => not_mem_of_rank horder le_rfl
  | cancelling | awaiting =>
      rw [hphase] at hcancel
      obtain rfl := Option.some.inj hcancel
      have hrecancel := hinv.recancel
      rw [hphase] at hrecancel
      rw [Keeps, List.append_nil]
      exact hrecancel
  | stopping exit =>
      rw [hphase] at hcancel horder hmay
      obtain rfl := Option.some.inj hcancel
      have hclosed := (hmay exit rfl).closed
      refine keeps_exit hinv.base horder ?_ fun hne => absurd rfl hne
      exact
        { closed := hclosed
          failed := fun error herror => by cases herror
          left := fun leaving hleaving => by
            cases hleaving
            exact .inl ⟨rfl, hinterrupted⟩ }

/-- Every step keeps the invariant. -/
theorem LifespanInv.step (hinv : LifespanInv lifespan acts)
    (horder : Ascending LifespanAct.rank 0 lifespan.position acts) {action : LifespanAction Error}
    {taken : Lifespan Error × List (LifespanAct Error)}
    (hstep : lifespan.step action = some taken) : Keeps acts taken := by
  cases action with
  | start =>
      rw [Lifespan.step, Option.ite_none_left_eq_some, Bool.not_eq_true] at hstep
      obtain ⟨hrunning, hstart⟩ := hstep
      obtain rfl := Option.some.inj hstart
      rw [Lifespan.position, Lifespan.created_of_not_running hrunning] at horder
      exact
        { base := (hinv.base.ask rfl).move _ _
          body := fun hbody => by cases hbody
          mayExit := fun exit hexit => by cases hexit
          marked := fun exit hexit => by cases hexit
          exited := fun exit hmem => by
            rw [Lifespan.start, List.mem_append, List.mem_singleton] at hmem
            exact absurd (hmem.resolve_right (by simp)) (not_mem_of_rank horder (Nat.zero_le _))
          finished := fun exit hexit => by cases hexit }
  | receive =>
      rw [Lifespan.step] at hstep
      split at hstep
      case h_1 => cases hstep
      case h_2 event events hqueue =>
        obtain rfl := Option.some.inj hstep
        rw [Keeps, List.append_nil]
        exact hinv.app (hinv.base.receive hqueue) rfl ⟨[], (List.append_nil _).symm⟩ id id
  | send message =>
      obtain ⟨_, rfl⟩ := Machine.of_guard hstep
      obtain ⟨hsent, hphase, hfinished, hinterrupted⟩ := lifespan.send_frame message
      rw [Keeps, List.append_nil]
      exact hinv.app (hinv.base.send message) hphase ⟨[message], hsent⟩ (hinterrupted.trans ·)
        (hfinished.trans ·)
  | finish =>
      obtain ⟨_, rfl⟩ := Machine.of_guard hstep
      rw [Keeps, List.append_nil]
      exact hinv.app hinv.base.finish rfl ⟨[], (List.append_nil _).symm⟩ id fun _ => rfl
  | wake => exact keeps_wake hinv horder hstep
  | timeout => exact keeps_timeout hinv horder hstep
  | leave leaving =>
      rw [Lifespan.step] at hstep
      split at hstep
      case h_1 hbody =>
        obtain rfl := Option.some.inj hstep
        exact keeps_leave hinv horder hbody leaving
      case h_2 => cases hstep
  | cancel => exact keeps_cancel hinv.interrupt rfl horder hstep

theorem lifespanInv_initial : LifespanInv ({} : Lifespan Error) [] where
  base :=
    { fifo := rfl
      failed := fun hfailed => by cases hfailed
      healthy := by simp
      complete := fun hcomplete => by cases hcomplete
      entered := by simp
      left := by simp }
  body hbody := by cases hbody
  mayExit exit hexit := by cases hexit
  exited := by simp
  marked exit hexit := by cases hexit
  finished exit hexit := by cases hexit

/-- The invariant says that the protocol is kept. -/
theorem LifespanInv.lawful (hinv : LifespanInv lifespan acts)
    (horder : Ascending LifespanAct.rank 0 lifespan.position acts)
    (hfirst : acts = [] ∨ acts.head? = some .startup) : LifespanLawful lifespan acts where
  order := horder.sorted
  first := hfirst
  fifo := hinv.base.fifo
  entered := hinv.base.entered
  left := hinv.base.left
  shutdown hmem before finished hentered := by
    have hrank := (horder.bounds _ hmem).2
    rw [Lifespan.position] at hrank
    cases hphase : lifespan.phase with
    | created | starting | cancelling | body => simp [hphase, LifespanAct.rank] at hrank
    | stopping exit | awaiting exit | exited exit =>
        exact (hinv.mayExit exit (by rw [hphase]; rfl)).closed before finished hentered
  exited exit hmem := hinv.mayExit exit (by rw [hinv.exited exit hmem]; rfl)
  finished exit hmem := hinv.finished exit (hinv.exited exit hmem)

theorem lifespanEmitter_init : (lifespanEmitter Error).machine.init ⟨{}, []⟩ := ⟨rfl, rfl⟩

/-- Every run keeps the invariant. -/
theorem lifespan_invariant {recorded : Machine.Recorded (Lifespan Error) (LifespanAct Error)}
    (hreach : (lifespanEmitter Error).machine.Reachable recorded) :
    LifespanInv recorded.state recorded.history := by
  induction hreach with
  | @init recorded hinit =>
      obtain ⟨hstate, hhistory⟩ := hinit
      have hstate : recorded.state = {} := hstate
      rw [hstate, hhistory]
      exact lifespanInv_initial
  | step hreach _ hstep ih =>
      obtain ⟨events, hemitted, hhistory⟩ := Emitter.machine_step hstep
      rw [hhistory]
      exact ih.step (lifespan_ascending hreach) hemitted

/-- Every run keeps the lifespan protocol. -/
theorem lifespan_lawful {recorded : Machine.Recorded (Lifespan Error) (LifespanAct Error)}
    (hreach : (lifespanEmitter Error).machine.Reachable recorded) :
    LifespanLawful recorded.state recorded.history :=
  (lifespan_invariant hreach).lawful (lifespan_ascending hreach)
    ((lifespan_first hreach).imp_left And.left)

end

/-- An application that starts up twice over, and goes on for a while after it was asked to shut
down. -/
def lifespanRun : List (LifespanAction Unit) :=
  [.start, .receive, .send { type := "lifespan.startup.complete" }, .wake,
    .send { type := "lifespan.startup.failed", message := some "too late" }, .leave (.raised ()),
    .receive, .timeout, .send { type := "lifespan.shutdown.complete" }, .finish, .wake]

/-- It gets both events, and the context is left as the body was. -/
theorem lifespan_lawful_lifespanRun :
    ∃ recorded, (lifespanEmitter Unit).machine.run ⟨{}, []⟩ lifespanRun = some recorded ∧
      recorded.history = [.startup, .entered [{ type := "lifespan.startup.complete" }] false,
        .left (.raised ()), .shutdown, .exited (.left (.raised ()))] ∧
      LifespanLawful recorded.state recorded.history := by
  have hrun : (lifespanEmitter Unit).machine.run ⟨{}, []⟩ lifespanRun = some _ := rfl
  exact ⟨_, hrun, rfl, lifespan_lawful (Machine.reachable_run lifespanEmitter_init hrun)⟩

end Pounce
