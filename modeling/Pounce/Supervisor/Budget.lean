/-
# The restart budget

A crashed worker is respawned at most `_MAX_RESTARTS` times in a window, and the longer
it goes on crashing, the longer the wait before the next respawn.

The restarts are kept on the handle of the worker, and a respawn installs a new handle
with no restarts on it. The budget and the back-off are therefore those of the handle
and not those of the worker: they are what they should be as long as the crashes of a
worker are a window apart (`restart_budget`), and a worker that crashes again and again is
respawned every half second without an end (`budget_forgets`).
-/

import Pounce.Math.Window
import Pounce.Supervisor

namespace Pounce.Supervisor

open Pounce.Math

/-- A worker that is respawned after its back-off. -/
structure Respawn where
  workerId : ℕ
  /-- When the crash was taken up. -/
  time : ℕ
  /-- The wait before the respawn. -/
  wait : ℕ
  deriving DecidableEq, Repr

/-- The respawn that a step decides: the back-off ends without the event being set. -/
def respawning (state : State) (action : Action) : Option Respawn :=
  match action, state.watch with
  | .watch, .backoff _ workerId handle deadline notified =>
    if (notified ∨ state.shutdown) ∨ state.now < deadline then none
    else
      let time := (state.restarts handle.target).getLastD 0
      some { workerId := workerId, time := time, wait := deadline - time }
  | _, _ => none

/-- The supervisor with the respawns its watch loop has decided. -/
def respawns (mode : WorkerMode) (effectiveWorkers : ℕ) :
    Machine (Machine.Recorded State Respawn) Action :=
  (supervisor mode effectiveWorkers).recording respawning

/-- The respawns of a worker that are recent at a time. -/
abbrev recentRespawns (history : List Respawn) (workerId now : ℕ) : List Respawn :=
  recent Respawn.time (·.workerId = workerId) restartWindow history now

/-- The respawns of a worker in the window from a time on. -/
abbrev respawnsWithin (history : List Respawn) (workerId start : ℕ) : List Respawn :=
  within Respawn.time (·.workerId = workerId) restartWindow history start

/-- Every respawn is within the budget of its worker and comes after the back-off for
its place in the window. -/
def Budgeted (history : List Respawn) : Prop :=
  ∀ earlier respawn later, history = earlier ++ respawn :: later →
    (recentRespawns earlier respawn.workerId respawn.time).length < maxRestarts ∧
      respawn.wait =
        backoff ((recentRespawns earlier respawn.workerId respawn.time).length + 1)

/-! ## What the threads do to a back-off -/

/-- The worker, the handle and the deadline of a back-off. -/
def Watch.pending : Watch → Option (ℕ × WorkerHandle × ℕ)
  | .backoff _ workerId handle deadline _ => some (workerId, handle, deadline)
  | _ => none

/-- The worker and the handle of a crash that is about to be taken up. -/
def Watch.crashed : Watch → Option (ℕ × WorkerHandle)
  | .budget _ workerId handle => some (workerId, handle)
  | _ => none

/-- When a crash is taken up, the last one for which the worker was respawned lies a window back
at least, and so does the last one of the same target. -/
def Spaced (recorded : Machine.Recorded State Respawn) (action : Action) : Prop :=
  action = .watch → ∀ crashed ∈ recorded.state.watch.crashed,
    (∀ respawn ∈ recorded.history, respawn.workerId = crashed.1 →
      respawn.time + restartWindow ≤ recorded.state.now) ∧
    ∀ time ∈ recorded.state.restarts crashed.2.target, time + restartWindow ≤ recorded.state.now

instance (recorded : Machine.Recorded State Respawn) (action : Action) :
    Decidable (Spaced recorded action) :=
  inferInstanceAs (Decidable (_ → _))

variable {mode : WorkerMode} {effectiveWorkers : ℕ} {state next : State}

@[simp]
theorem pending_setShutdown (state : State) :
    state.setShutdown.watch.pending = state.watch.pending := by
  cases hwatch : state.watch <;> simp [State.setShutdown, Watch.pending, hwatch]

/-- The restarts, the clock and a back-off are left alone. -/
def Untouched (state next : State) : Prop :=
  next.restarts = state.restarts ∧ next.now = state.now ∧
    next.watch.pending = state.watch.pending

theorem untouched_setShutdown (state : State) : Untouched state state.setShutdown :=
  ⟨rfl, rfl, pending_setShutdown state⟩

theorem untouched_forceStop (state : State) (mode : WorkerMode) (handles : List WorkerHandle) :
    Untouched state (state.forceStop mode handles) := by
  rw [State.forceStop]
  split <;> exact ⟨rfl, rfl, rfl⟩

theorem untouched_spawnReplacement (state : State) (mode : WorkerMode) (rolling : Rolling)
    (workerId : ℕ) : Untouched state (state.spawnReplacement mode rolling workerId) := by
  rw [State.spawnReplacement]
  split <;> exact ⟨rfl, rfl, rfl⟩

/-- The reload thread works on other fields. -/
theorem untouched_reloadStep (hstep : state.reloadStep mode effectiveWorkers = some next) :
    Untouched state next := by
  rw [State.reloadStep] at hstep
  cases hreload : state.reload with
  | idle => simp [hreload] at hstep
  | restarting =>
      simp only [hreload, Option.some.injEq] at hstep
      subst hstep
      exact untouched_setShutdown state
  | joining =>
      simp only [hreload, Option.some.injEq] at hstep
      subst hstep
      exact untouched_forceStop state mode _
  | joined | respawning | completed | aborted | clearing | ready | rolling =>
      simp only [hreload] at hstep
      try split at hstep
      all_goals
        obtain rfl := Option.some.inj hstep
        exact ⟨rfl, rfl, rfl⟩
  | spawning rolling count =>
      simp only [hreload] at hstep
      split at hstep
      case isTrue =>
        obtain rfl := Option.some.inj hstep
        exact untouched_spawnReplacement state mode rolling count
      case isFalse =>
        split at hstep <;> obtain rfl := Option.some.inj hstep <;> exact ⟨rfl, rfl, rfl⟩
  | failing rolling =>
      simp only [hreload, Option.some.injEq] at hstep
      subst hstep
      exact untouched_forceStop state mode rolling.newHandles
  | draining rolling =>
      simp only [hreload, Option.some.injEq] at hstep
      subst hstep
      exact untouched_forceStop state mode rolling.oldHandles

/-- A step of the watch loop enters a back-off, leaves one, or has nothing to do with
one. -/
theorem watchStep_pending (hstep : state.watchStep = some next) :
    (∃ cursor workerId handle, state.watch = .budget cursor workerId handle ∧
      next = state.budget cursor workerId handle) ∨
    next.restarts = state.restarts ∧ next.now = state.now ∧ next.watch.pending = none := by
  rw [State.watchStep] at hstep
  cases hwatch : state.watch with
  | budget cursor workerId handle =>
      simp only [hwatch, Option.some.injEq] at hstep
      exact .inl ⟨cursor, workerId, handle, rfl, hstep.symm⟩
  | top | woken | dead =>
      simp only [hwatch] at hstep
      split at hstep <;> obtain rfl := Option.some.inj hstep <;> exact .inr ⟨rfl, rfl, rfl⟩
  | waiting | spawning =>
      simp only [hwatch] at hstep
      obtain rfl := Option.some.inj hstep
      exact .inr ⟨rfl, rfl, rfl⟩
  | scanning cursor =>
      simp only [hwatch] at hstep
      split at hstep
      case h_1 =>
        obtain rfl := Option.some.inj hstep
        exact .inr ⟨rfl, rfl, rfl⟩
      case h_2 =>
        split at hstep <;> obtain rfl := Option.some.inj hstep <;> exact .inr ⟨rfl, rfl, rfl⟩
  | respawn cursor handle =>
      simp only [hwatch] at hstep
      split at hstep
      case isTrue =>
        obtain rfl := Option.some.inj hstep
        exact .inr ⟨rfl, rfl, rfl⟩
      case isFalse =>
        split at hstep <;> obtain rfl := Option.some.inj hstep <;> exact .inr ⟨rfl, rfl, rfl⟩
  | backoff cursor workerId handle deadline notified =>
      simp only [hwatch] at hstep
      split at hstep
      case isTrue =>
        obtain rfl := Option.some.inj hstep
        exact .inr ⟨rfl, rfl, rfl⟩
      case isFalse =>
        obtain ⟨-, rfl⟩ := Machine.of_guard hstep
        exact .inr ⟨rfl, rfl, rfl⟩
  | left => simp [hwatch] at hstep

/-- A respawn is decided when a back-off has ended. -/
theorem respawning_some {action : Action} {respawn : Respawn}
    (hrespawn : respawning state action = some respawn) :
    action = .watch ∧ ∃ cursor workerId handle deadline notified,
      state.watch = .backoff cursor workerId handle deadline notified ∧
      respawn =
        { workerId := workerId
          time := (state.restarts handle.target).getLastD 0
          wait := deadline - (state.restarts handle.target).getLastD 0 } := by
  unfold respawning at hrespawn
  split at hrespawn
  case h_1 cursor workerId handle deadline notified hwatch =>
    split at hrespawn
    case isTrue => cases hrespawn
    case isFalse =>
      exact ⟨rfl, cursor, workerId, handle, deadline, notified, hwatch,
        (Option.some.inj hrespawn).symm⟩
  case h_2 => cases hrespawn

/-! ## The accounts -/

/-- The handle of a back-off knows of no earlier crash, and there was none for which its worker was
respawned. -/
def Waiting (recorded : Machine.Recorded State Respawn) : Prop :=
  ∀ workerId handle deadline,
    recorded.state.watch.pending = some (workerId, handle, deadline) →
    ∃ time, recorded.state.restarts handle.target = [time] ∧ deadline = time + backoff 1 ∧
      time ≤ recorded.state.now ∧ (∀ respawn ∈ recorded.history, respawn.time ≤ time) ∧
      recentRespawns recorded.history workerId time = []

/-- The respawns that are decided, in order and within the budget. -/
structure Accounted (recorded : Machine.Recorded State Respawn) : Prop where
  waiting : Waiting recorded
  past : ∀ respawn ∈ recorded.history, respawn.time ≤ recorded.state.now
  ordered : recorded.history.Pairwise fun earlier later => earlier.time ≤ later.time
  budgeted : Budgeted recorded.history

/-- One more respawn is within the budget if it is the next in its window. -/
theorem Budgeted.append {history : List Respawn} (hbudgeted : Budgeted history)
    {respawn : Respawn}
    (hcount : (recentRespawns history respawn.workerId respawn.time).length < maxRestarts)
    (hwait : respawn.wait =
      backoff ((recentRespawns history respawn.workerId respawn.time).length + 1)) :
    Budgeted (history ++ [respawn]) := by
  intro earlier other later heq
  rcases later.eq_nil_or_concat with rfl | ⟨rest, last, rfl⟩
  · obtain ⟨rfl, hlast⟩ := List.append_inj' heq rfl
    obtain rfl : respawn = other := by simpa using hlast
    exact ⟨hcount, hwait⟩
  · have hsplit : history ++ [respawn] = (earlier ++ other :: rest) ++ [last] := by
      simpa using heq
    obtain ⟨rfl, -⟩ := List.append_inj' hsplit rfl
    exact hbudgeted earlier other rest rfl

variable {recorded following : Machine.Recorded State Respawn}

/-- A step that leaves the accounts alone keeps them. -/
theorem Accounted.untouched (haccounted : Accounted recorded)
    (huntouched : Untouched recorded.state following.state)
    (hhistory : following.history = recorded.history) : Accounted following := by
  obtain ⟨hrestarts, hnow, hpending⟩ := huntouched
  obtain ⟨hwaiting, hpast, hordered, hbudgeted⟩ := haccounted
  constructor
  · intro workerId handle deadline hsome
    rw [hpending] at hsome
    rw [hrestarts, hnow, hhistory]
    exact hwaiting workerId handle deadline hsome
  · rw [hhistory, hnow]
    exact hpast
  · rw [hhistory]
    exact hordered
  · rw [hhistory]
    exact hbudgeted

/-- The locked section of a respawn prunes the restarts of the handle and enters the
back-off for what is left of them. -/
theorem Accounted.budget (haccounted : Accounted recorded) (cursor : Cursor) (workerId : ℕ)
    (handle : WorkerHandle)
    (hrespawns : ∀ respawn ∈ recorded.history, respawn.workerId = workerId →
      respawn.time + restartWindow ≤ recorded.state.now)
    (hcrashes : ∀ time ∈ recorded.state.restarts handle.target,
      time + restartWindow ≤ recorded.state.now)
    (hstate : following.state = recorded.state.budget cursor workerId handle)
    (hhistory : following.history = recorded.history) : Accounted following := by
  obtain ⟨-, hpast, hordered, hbudgeted⟩ := haccounted
  have hnow : following.state.now = recorded.state.now := by
    rw [hstate, State.budget]
    split <;> rfl
  constructor
  · intro id found deadline hsome
    rw [hstate, State.budget] at hsome
    have hpruned : (recorded.state.restarts handle.target).filter
        (fun time => recorded.state.now - time < restartWindow) = [] := by
      rw [List.filter_eq_nil_iff]
      intro time hmem
      have hold := hcrashes time hmem
      simp only [decide_eq_true_eq]
      omega
    rw [hpruned] at hsome
    obtain ⟨rfl, rfl, rfl⟩ : workerId = id ∧ handle = found ∧ _ = deadline := by
      simpa [Watch.pending, maxRestarts] using hsome
    refine ⟨recorded.state.now, ?_, rfl, hnow.ge, ?_, ?_⟩
    · rw [hstate, State.budget, hpruned, if_neg (by decide)]
      exact Function.update_self _ _ _
    · rw [hhistory]
      exact hpast
    · rw [hhistory, recentRespawns, recent, List.filter_eq_nil_iff]
      intro respawn hmem
      simp only [decide_eq_true_eq, not_and]
      intro hworker
      have hold := hrespawns respawn hmem hworker
      omega
  · rw [hhistory, hnow]
    exact hpast
  · rw [hhistory]
    exact hordered
  · rw [hhistory]
    exact hbudgeted

/-- Every step that finds the crashes of a worker a window apart keeps the accounts. -/
theorem Accounted.step (haccounted : Accounted recorded) {action : Action}
    (hspaced : Spaced recorded action)
    (hstep : (respawns mode effectiveWorkers).step recorded action = some following) :
    Accounted following := by
  obtain ⟨htaken, hhistory⟩ := Machine.recording_step hstep
  cases hrespawn : respawning recorded.state action with
  | some respawn =>
      obtain ⟨rfl, cursor, workerId, handle, deadline, notified, hwatch, rfl⟩ :=
        respawning_some hrespawn
      obtain ⟨hwaiting, hpast, hordered, hbudgeted⟩ := haccounted
      obtain ⟨time, hrestarts, rfl, htime, hlatest, hnone⟩ :=
        hwaiting workerId handle deadline (by rw [hwatch]; rfl)
      rw [hrespawn] at hhistory
      have hlast : [time].getLastD 0 = time := rfl
      simp only [hrestarts, hlast, Option.toList_some, Nat.add_sub_cancel_left] at hhistory
      rcases watchStep_pending htaken with ⟨other, id, found, hbudget, -⟩ | ⟨-, hnow, hover⟩
      · rw [hwatch] at hbudget
        cases hbudget
      constructor
      · intro id found deadline hsome
        rw [hover] at hsome
        cases hsome
      · rw [hhistory, hnow]
        intro respawn hmem
        rcases List.mem_append.mp hmem with hold | hnew
        · exact hpast respawn hold
        · rw [List.mem_singleton.mp hnew]
          exact htime
      · rw [hhistory, List.pairwise_append]
        refine ⟨hordered, List.pairwise_singleton _ _, ?_⟩
        intro respawn hmem last hlast
        rw [List.mem_singleton.mp hlast]
        exact hlatest respawn hmem
      · rw [hhistory]
        apply hbudgeted.append
        · rw [hnone]
          decide
        · rw [hnone]
          rfl
  | none =>
      rw [hrespawn, Option.toList_none, List.append_nil] at hhistory
      cases action with
      | watch =>
          rcases watchStep_pending htaken with
            ⟨cursor, workerId, handle, hwatch, hbudget⟩ | ⟨hrestarts, hnow, hnone⟩
          · obtain ⟨hrespawns, hcrashes⟩ :=
              hspaced rfl (workerId, handle) (by rw [hwatch]; rfl)
            exact haccounted.budget cursor workerId handle hrespawns hcrashes hbudget hhistory
          · obtain ⟨-, hpast, hordered, hbudgeted⟩ := haccounted
            constructor
            · intro id found deadline hsome
              rw [hnone] at hsome
              cases hsome
            · rw [hhistory, hnow]
              exact hpast
            · rw [hhistory]
              exact hordered
            · rw [hhistory]
              exact hbudgeted
      | advance => exact haccounted.untouched (untouched_reloadStep htaken) hhistory
      | replacementFailed =>
          apply haccounted.untouched _ hhistory
          simp only [supervisor, Supervisor.step] at htaken
          split at htaken
          case h_1 =>
            split at htaken
            case isTrue => exact Option.some.inj htaken ▸ ⟨rfl, rfl, rfl⟩
            case isFalse => cases htaken
          case h_2 => cases htaken
      | restartWorkers | gracefulReload =>
          apply haccounted.untouched _ hhistory
          simp only [supervisor, Supervisor.step] at htaken
          split at htaken <;> exact Option.some.inj htaken ▸ ⟨rfl, rfl, rfl⟩
      | die target =>
          apply haccounted.untouched _ hhistory
          simp only [supervisor, Supervisor.step] at htaken
          split at htaken
          case isTrue => exact Option.some.inj htaken ▸ ⟨rfl, rfl, rfl⟩
          case isFalse => cases htaken
      | tick elapsed =>
          obtain ⟨hwaiting, hpast, hordered, hbudgeted⟩ := haccounted
          have hnext : following.state = { recorded.state with now := recorded.state.now + elapsed } :=
            (Option.some.inj htaken).symm
          constructor
          · intro workerId handle deadline hsome
            rw [hnext] at hsome
            obtain ⟨time, hrestarts, hdeadline, htime, hlatest, hnone⟩ :=
              hwaiting workerId handle deadline hsome
            rw [hnext, hhistory]
            exact ⟨time, hrestarts, hdeadline, htime.trans (Nat.le_add_right _ _), hlatest, hnone⟩
          · rw [hhistory, hnext]
            intro respawn hmem
            exact (hpast respawn hmem).trans (Nat.le_add_right _ _)
          · rw [hhistory]
            exact hordered
          · rw [hhistory]
            exact hbudgeted

/-! ## Every run -/

/-- While the crashes of each worker are a window apart, a worker is respawned at most
`maxRestarts` times in any window, and the back-off before a respawn is that for its place in
the window. -/
theorem restart_budget {recorded : Machine.Recorded State Respawn}
    (hreach : (respawns mode effectiveWorkers).Reach Spaced recorded) :
    (∀ workerId start,
      (respawnsWithin recorded.history workerId start).length ≤ maxRestarts) ∧
    ∀ earlier respawn later, recorded.history = earlier ++ respawn :: later →
      respawn.wait =
        backoff ((recentRespawns earlier respawn.workerId respawn.time).length + 1) := by
  have haccounted : Accounted recorded := by
    apply hreach.invariant
    · rintro ⟨state, history⟩ ⟨hinit, hhistory⟩
      obtain rfl : state = begun effectiveWorkers := hinit
      obtain rfl : history = [] := hhistory
      constructor
      · intro workerId handle deadline hsome
        cases hsome
      · exact List.forall_mem_nil _
      · exact List.Pairwise.nil
      · intro earlier respawn later heq
        cases earlier <;> cases heq
    · exact fun _ _ _ haccounted hspaced hstep => haccounted.step hspaced hstep
  refine ⟨?_, ?_⟩
  · intro workerId start
    apply length_within_le haccounted.ordered
    rintro earlier respawn later heq rfl
    exact (haccounted.budgeted earlier respawn later heq).1
  · intro earlier respawn later heq
    exact (haccounted.budgeted earlier respawn later heq).2

/-- A crash of a worker that was respawned a moment ago is followed by a shorter wait than it should
be, since the new handle knows of no restart. -/
theorem budget_forgets {recorded : Machine.Recorded State Respawn} {cursor : Cursor} {workerId : ℕ}
    {handle : WorkerHandle} (hfresh : recorded.state.restarts handle.target = [])
    (hrecent : recentRespawns recorded.history workerId recorded.state.now ≠ []) :
    ∃ deadline, (recorded.state.budget cursor workerId handle).watch.pending =
        some (workerId, handle, deadline) ∧
      deadline < recorded.state.now +
        backoff ((recentRespawns recorded.history workerId recorded.state.now).length + 1) := by
  refine ⟨recorded.state.now + backoff 1, ?_, ?_⟩
  · rw [State.budget, hfresh]
    rfl
  · have hsome := List.length_pos_of_ne_nil hrecent
    have hdoubled := Nat.pow_le_pow_right Nat.two_pos hsome
    simp only [backoff, Nat.add_sub_cancel]
    omega

theorem init_respawns (mode : WorkerMode) (effectiveWorkers : ℕ) :
    (respawns mode effectiveWorkers).init { state := begun effectiveWorkers, history := [] } :=
  ⟨rfl, rfl⟩

/-- A crash of the one worker and all the watch loop does about it. -/
def crash (target : ℕ) : List Action :=
  [.die target, .watch, .tick 1000, .watch, .watch, .watch, .watch, .watch, .watch, .tick 500,
    .watch, .watch, .watch]

/-- A supervisor of one thread worker with its respawns after these actions. -/
def recordedAfter (actions : List Action) : Machine.Recorded State Respawn :=
  ((respawns .thread 1).run { state := begun 1, history := [] } actions).getD
    { state := begun 1, history := [] }

/-- Two crashes more than a minute apart. -/
def spacedCrashes : List Action := crash 0 ++ .tick 60000 :: crash 1

/-- They are both respawned after half a second. -/
theorem restart_budget_spaced :
    (recordedAfter spacedCrashes).history.map Respawn.wait = [500, 500] ∧
      (∀ workerId start,
        (respawnsWithin (recordedAfter spacedCrashes).history workerId start).length ≤
          maxRestarts) ∧
      ∀ earlier respawn later,
        (recordedAfter spacedCrashes).history = earlier ++ respawn :: later →
        respawn.wait =
          backoff ((recentRespawns earlier respawn.workerId respawn.time).length + 1) := by
  have hrun : (respawns .thread 1).run { state := begun 1, history := [] } spacedCrashes =
      some (recordedAfter spacedCrashes) := rfl
  have hspaced : (respawns .thread 1).Along Spaced { state := begun 1, history := [] }
      spacedCrashes := Machine.along_of_guarded (by decide)
  have hreach : (respawns .thread 1).Reach Spaced (recordedAfter spacedCrashes) :=
    .run (.init (init_respawns .thread 1)) hspaced hrun
  exact ⟨rfl, restart_budget hreach⟩

set_option maxRecDepth 4000 in
/-- Six crashes in nine seconds are all respawned, each after half a second. -/
theorem crash_loop_unbounded :
    ¬ ∀ recorded, (respawns .thread 1).Reachable recorded →
      (∀ workerId start,
        (respawnsWithin recorded.history workerId start).length ≤ maxRestarts) ∧
      ∀ earlier respawn later, recorded.history = earlier ++ respawn :: later →
        respawn.wait =
          backoff ((recentRespawns earlier respawn.workerId respawn.time).length + 1) := by
  intro hclaim
  have hrun : (respawns .thread 1).run { state := begun 1, history := [] }
      (crash 0 ++ crash 1 ++ crash 2 ++ crash 3 ++ crash 4 ++ crash 5) =
        some (recordedAfter (crash 0 ++ crash 1 ++ crash 2 ++ crash 3 ++ crash 4 ++ crash 5)) := rfl
  exact absurd ((hclaim _ (Machine.reachable_run (init_respawns .thread 1) hrun)).1 0 0) (by decide)

end Pounce.Supervisor
