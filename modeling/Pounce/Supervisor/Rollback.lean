/-
# A rolling reload that fails

`graceful_reload` changes the fields of the supervisor as it goes along: it points
`_async_pool` at a new pool, empties the lists of a subinterpreter supervisor, counts
the generation up and starts the replacements one after the other. It fails where a
replacement cannot be created or started, which raises, or, in subinterpreter mode,
where a replacement reports an error or is not ready in time.

Only the second kind of failure is undone, and only as far as the replacements that
were started stop when they are told to.

The steps of the reload are those of the reload thread of the supervisor; here they are
taken one after the other, together with the fields that thread alone works on.
-/

import Pounce.Supervisor.Tracking

namespace Pounce.Supervisor

/-- The supervisor with the fields that only a reload works on. -/
structure Fleet where
  base : State
  /-- `_iic_queues`, by number. -/
  iicQueues : List ℕ
  nextQueue : ℕ
  /-- `_async_pool`, by number. -/
  asyncPool : Option ℕ
  nextPool : ℕ

/-- A supervisor between reloads: the targets of its handles were started before. -/
structure Settled extends Fleet where
  idle : base.reload = .idle
  started : ∀ handle ∈ base.current, handle.target < base.nextTarget

/-- The course of a rolling reload. -/
inductive Course where
  /-- Creating or starting the replacement for a worker id raises. -/
  | raises (workerId : ℕ)
  /-- A replacement reports an error or is not ready in time. Told to stop, the
  replacements for some worker ids do. -/
  | notReady (stops : ℕ → Bool)
  /-- It succeeds; the old workers for some worker ids stop in time. -/
  | succeeds (stops : ℕ → Bool)

/-- The courses that fail. Only subinterpreter replacements are waited for. -/
def Course.Fails (mode : WorkerMode) (effectiveWorkers : ℕ) : Course → Prop
  | .raises workerId => workerId < effectiveWorkers
  | .notReady _ => mode = .subinterpreter
  | .succeeds _ => False

/-- Whether the call returns or raises. -/
inductive Outcome where
  | returned
  | raised
  deriving DecidableEq, Repr

/-- Join the workers of some handles; those that stop are dead then. -/
def State.join (state : State) (handles : List WorkerHandle) (stops : ℕ → Bool) : State :=
  { state with
    alive := fun target => state.alive target &&
      !handles.any fun handle => decide (handle.target = target) && stops handle.workerId }

namespace Fleet

variable (fleet : Fleet) (mode : WorkerMode) (effectiveWorkers : ℕ)

/-- Everything before the first replacement. There is a pool to build anew where thread
workers run synchronously. -/
def begin (executesSync : Bool) : Fleet :=
  let rolling : Rolling :=
    { oldHandles := fleet.base.current, oldGeneration := fleet.base.generation, newHandles := [] }
  let emptied := if mode = .subinterpreter then fleet.base.assign [] else fleet.base
  let rebuilds := mode = .thread ∧ executesSync
  { base := { emptied with
      generation := fleet.base.generation + 1
      reload := .spawning rolling 0 }
    iicQueues := if mode = .subinterpreter then [] else fleet.iicQueues
    nextQueue := fleet.nextQueue
    asyncPool := if rebuilds then some fleet.nextPool else fleet.asyncPool
    nextPool := if rebuilds then fleet.nextPool + 1 else fleet.nextPool }

/-- Start the replacement for a worker id; a subinterpreter gets its queues. -/
def spawnReplacement (workerId : ℕ) : Fleet :=
  match fleet.base.reload with
  | .spawning rolling _ =>
    let spawned := fleet.base.spawnReplacement mode rolling workerId
    if mode = .subinterpreter then
      { fleet with
        base := spawned
        iicQueues :=
          if workerId < fleet.iicQueues.length then fleet.iicQueues.set workerId fleet.nextQueue
          else fleet.iicQueues ++ [fleet.nextQueue]
        nextQueue := fleet.nextQueue + 1 }
    else { fleet with base := spawned }
  | _ => fleet

/-- The loop over the worker ids; what it leaves behind where it raises is an error. -/
def spawnAll (course : Course) : List ℕ → Fleet → Except Fleet Fleet
  | [], fleet => .ok fleet
  | workerId :: workerIds, fleet =>
    match course with
    | .raises failing =>
      if failing = workerId then .error fleet
      else spawnAll course workerIds (fleet.spawnReplacement mode workerId)
    | .notReady _ | .succeeds _ =>
      spawnAll course workerIds (fleet.spawnReplacement mode workerId)

/-- The replacements are told to stop, and the handles, the queues and the generation
are put back. -/
def abandon (old : Fleet) (stops : ℕ → Bool) : Fleet :=
  let newHandles := fleet.base.current
  let stopped := (fleet.base.join newHandles stops).forceStop mode newHandles
  { fleet with
    base := { stopped.assign old.base.current with
      generation := old.base.generation
      reload := .aborted
      outlived := stopped.outlived ++ stopped.living newHandles }
    iicQueues := old.iicQueues }

/-- The old workers are drained and joined, and the replacements take their place. -/
def handOff (old : Fleet) (stops : ℕ → Bool) : Fleet :=
  let newHandles := match fleet.base.reload with
    | .spawning rolling _ =>
      if mode = .subinterpreter then fleet.base.current else rolling.newHandles
    | _ => []
  let stopped := (fleet.base.join old.base.current stops).forceStop mode old.base.current
  { fleet with
    base := { stopped.assign newHandles with
      reload := .completed
      outlived := stopped.outlived ++ stopped.living old.base.current } }

/-- The flag is released. -/
def release : Fleet := { fleet with base := { fleet.base with reload := .idle } }

/-- `graceful_reload` in thread or subinterpreter mode. -/
def gracefulReload (executesSync : Bool) (course : Course) : Outcome × Fleet :=
  match spawnAll mode course (List.range effectiveWorkers) (fleet.begin mode executesSync) with
  | .error stopped => (.raised, stopped.release)
  | .ok spawned =>
    match course with
    | .raises _ => (.returned, spawned.release)
    | .notReady stops => (.returned, (spawned.abandon mode fleet stops).release)
    | .succeeds stops => (.returned, (spawned.handOff mode fleet stops).release)

/-! ## The steps of the reload thread -/

variable {mode effectiveWorkers}

/-- The reload begins with the first step of the reload thread. -/
theorem begin_base (executesSync : Bool) :
    ({ fleet.base with reload := .rolling } : State).reloadStep mode effectiveWorkers =
      some (fleet.begin mode executesSync).base := by
  simp only [State.reloadStep, begin]
  split <;> rfl

/-- A replacement is started by a step of the reload thread. -/
theorem spawnReplacement_base {rolling : Rolling} {workerId : ℕ}
    (hreload : fleet.base.reload = .spawning rolling workerId)
    (hmore : workerId < effectiveWorkers) :
    fleet.base.reloadStep mode effectiveWorkers =
      some (fleet.spawnReplacement mode workerId).base := by
  simp only [State.reloadStep, hreload, spawnReplacement, if_pos hmore]
  split <;> rfl

/-- The reload is undone by a step of the reload thread. -/
theorem abandon_base (old : Fleet) (stops : ℕ → Bool) :
    ({ fleet.base.join fleet.base.current stops with
        reload := .failing
          { oldHandles := old.base.current
            oldGeneration := old.base.generation
            newHandles := fleet.base.current } } : State).reloadStep mode effectiveWorkers =
      some (fleet.abandon mode old stops).base := by
  simp only [State.reloadStep, abandon, State.forceStop]
  split <;> rfl

/-- So many steps of the reload thread. -/
def reloadSteps (mode : WorkerMode) (effectiveWorkers : ℕ) : ℕ → State → Option State
  | 0, state => some state
  | count + 1, state =>
    (state.reloadStep mode effectiveWorkers).bind (reloadSteps mode effectiveWorkers count)

variable (mode) in
/-- The loop goes on with the next replacement. -/
theorem spawnReplacement_spawning {rolling : Rolling} {workerId : ℕ}
    (hreload : fleet.base.reload = .spawning rolling workerId) :
    ∃ other, (fleet.spawnReplacement mode workerId).base.reload =
      .spawning other (workerId + 1) := by
  have hbase : (fleet.spawnReplacement mode workerId).base =
      fleet.base.spawnReplacement mode rolling workerId := by
    simp only [spawnReplacement, hreload]
    split <;> rfl
  rw [hbase, State.spawnReplacement]
  split <;> exact ⟨_, rfl⟩

variable (mode) in
/-- The loop takes a step for each replacement. -/
theorem spawnAll_steps (stops : ℕ → Bool) {rolling : Rolling} {workerId count : ℕ}
    (hreload : fleet.base.reload = .spawning rolling workerId)
    (hcount : workerId + count ≤ effectiveWorkers) :
    ∃ spawned, spawnAll mode (.notReady stops) (List.range' workerId count) fleet = .ok spawned ∧
      reloadSteps mode effectiveWorkers count fleet.base = some spawned.base := by
  induction count generalizing fleet rolling workerId with
  | zero => exact ⟨fleet, rfl, rfl⟩
  | succ count ih =>
      have hmore : workerId < effectiveWorkers := by omega
      obtain ⟨other, hnext⟩ := spawnReplacement_spawning fleet mode hreload
      obtain ⟨spawned, hok, hsteps⟩ := ih _ hnext (by omega)
      refine ⟨spawned, hok, ?_⟩
      rw [reloadSteps, spawnReplacement_base fleet hreload hmore]
      exact hsteps

/-- A reload whose replacements are not ready takes the steps of the reload thread: one to begin,
one for each replacement and, when they have been joined, one to undo it. -/
theorem gracefulReload_steps (executesSync : Bool) (stops : ℕ → Bool) :
    ∃ spawned : Fleet, fleet.gracefulReload mode effectiveWorkers executesSync (.notReady stops) =
        (.returned, (spawned.abandon mode fleet stops).release) ∧
      reloadSteps mode effectiveWorkers (effectiveWorkers + 1) { fleet.base with reload := .rolling } =
        some spawned.base ∧
      ({ spawned.base.join spawned.base.current stops with
          reload := .failing
            { oldHandles := fleet.base.current
              oldGeneration := fleet.base.generation
              newHandles := spawned.base.current } } : State).reloadStep mode effectiveWorkers =
        some (spawned.abandon mode fleet stops).base := by
  have hreload : ∃ rolling, (fleet.begin mode executesSync).base.reload = .spawning rolling 0 :=
    ⟨_, rfl⟩
  obtain ⟨rolling, hreload⟩ := hreload
  obtain ⟨spawned, hok, hsteps⟩ := spawnAll_steps _ mode stops hreload
    (Nat.zero_add effectiveWorkers).le
  refine ⟨spawned, ?_, ?_, abandon_base spawned fleet stops⟩
  · rw [gracefulReload, List.range_eq_range', hok]
  · rw [reloadSteps, begin_base fleet executesSync]
    exact hsteps

end Fleet

/-! ## What a failure leaves behind -/

/-- After the call everything is what it was before it: the fields, the old workers, and
no replacement runs that has no handle. -/
structure Restored (before after : Fleet) : Prop where
  handles : after.base.current = before.base.current
  iicQueues : after.iicQueues = before.iicQueues
  generation : after.base.generation = before.base.generation
  asyncPool : after.asyncPool = before.asyncPool
  old : ∀ handle ∈ before.base.current,
    after.base.alive handle.target = before.base.alive handle.target
  replacements : ∀ target, before.base.nextTarget ≤ target → target < after.base.nextTarget →
    after.base.alive target → ∃ handle ∈ after.base.current, handle.target = target

namespace Fleet

variable {mode : WorkerMode} {effectiveWorkers : ℕ} {fleet stopped : Fleet} {course : Course}

theorem generation_spawnReplacement (fleet : Fleet) (workerId : ℕ) :
    (fleet.spawnReplacement mode workerId).base.generation = fleet.base.generation := by
  rw [spawnReplacement]
  split
  case h_1 =>
    simp only [State.spawnReplacement]
    split <;> rfl
  case h_2 => rfl

/-- Where the loop raises, the generation stays counted up. -/
theorem generation_spawnAll {workerIds : List ℕ}
    (hraises : spawnAll mode course workerIds fleet = .error stopped) :
    stopped.base.generation = fleet.base.generation := by
  induction workerIds generalizing fleet with
  | nil => cases hraises
  | cons workerId workerIds ih =>
      unfold spawnAll at hraises
      split at hraises
      case h_1 =>
        split at hraises
        case isTrue =>
          cases hraises
          rfl
        case isFalse => rw [ih hraises, generation_spawnReplacement]
      case h_2 => rw [ih hraises, generation_spawnReplacement]
      case h_3 => rw [ih hraises, generation_spawnReplacement]

variable (mode fleet) in
/-- The loop raises where one of its replacements does. -/
theorem spawnAll_raises {failing : ℕ} {workerIds : List ℕ} (hfailing : failing ∈ workerIds) :
    ∃ stopped, spawnAll mode (.raises failing) workerIds fleet = .error stopped := by
  induction workerIds generalizing fleet with
  | nil => cases hfailing
  | cons workerId workerIds ih =>
      rw [spawnAll]
      by_cases hnow : failing = workerId
      · exact ⟨fleet, if_pos hnow⟩
      · rw [if_neg hnow]
        exact ih _ ((List.mem_cons.mp hfailing).resolve_left hnow)

/-- A subinterpreter supervisor that has started some replacements. -/
structure Spawned (old : Fleet) (count : ℕ) (fleet : Fleet) : Prop where
  reload : ∃ rolling next, fleet.base.reload = .spawning rolling next
  current : fleet.base.current = (List.range count).map fun workerId =>
    { workerId, target := old.base.nextTarget + workerId, generation := old.base.generation + 1 }
  generation : fleet.base.generation = old.base.generation + 1
  nextTarget : fleet.base.nextTarget = old.base.nextTarget + count
  alive : ∀ target, fleet.base.alive target =
    (old.base.alive target ||
      decide (old.base.nextTarget ≤ target ∧ target < old.base.nextTarget + count))
  asyncPool : fleet.asyncPool = old.asyncPool

theorem spawned_begin (old : Fleet) (executesSync : Bool) :
    Spawned old 0 (old.begin .subinterpreter executesSync) := by
  constructor
  · exact ⟨_, _, rfl⟩
  · exact State.current_assign old.base []
  · rfl
  · rfl
  · intro target
    have hnone : ¬ (old.base.nextTarget ≤ target ∧ target < old.base.nextTarget) := by omega
    simp [begin, State.assign, hnone]
  · rfl

theorem Spawned.spawnReplacement {old : Fleet} {count : ℕ} (hspawned : Spawned old count fleet) :
    Spawned old (count + 1) (fleet.spawnReplacement .subinterpreter count) := by
  obtain ⟨⟨rolling, next, hreload⟩, hcurrent, hgeneration, htarget, halive, hpool⟩ := hspawned
  have hlength : fleet.base.current.length = count := by rw [hcurrent]; simp
  rw [Fleet.spawnReplacement, hreload]
  constructor
  · exact ⟨_, _, rfl⟩
  · change (fleet.base.spawnWorker count).current = _
    rw [State.current_spawnWorker, hlength, if_neg (lt_irrefl count), hcurrent, List.range_succ,
      List.map_append, State.fresh, htarget, hgeneration]
    rfl
  · exact hgeneration
  · change fleet.base.nextTarget + 1 = _
    rw [htarget, Nat.add_assoc]
  · intro target
    change Function.update fleet.base.alive fleet.base.nextTarget true target = _
    rw [Function.update_apply, halive target, htarget]
    split
    case isTrue hnew =>
      have hin : old.base.nextTarget ≤ target ∧ target < old.base.nextTarget + (count + 1) := by
        omega
      rw [decide_eq_true hin, Bool.or_true]
    case isFalse hother =>
      have hiff : (old.base.nextTarget ≤ target ∧ target < old.base.nextTarget + count) ↔
          (old.base.nextTarget ≤ target ∧ target < old.base.nextTarget + (count + 1)) := by omega
      rw [decide_eq_decide.mpr hiff]
  · exact hpool

theorem Spawned.spawnAll {old : Fleet} {count : ℕ} (hspawned : Spawned old count fleet)
    (stops : ℕ → Bool) (length : ℕ) :
    ∃ spawned, Fleet.spawnAll .subinterpreter (.notReady stops) (List.range' count length) fleet =
        .ok spawned ∧
      Spawned old (count + length) spawned := by
  induction length generalizing count fleet with
  | zero => exact ⟨fleet, rfl, hspawned⟩
  | succ length ih =>
      obtain ⟨spawned, hok, hall⟩ := ih hspawned.spawnReplacement
      refine ⟨spawned, hok, ?_⟩
      rwa [Nat.add_assoc, Nat.add_comm 1 length] at hall

/-- What the abandoned reload leaves alive. -/
theorem alive_abandon (old fleet : Fleet) (stops : ℕ → Bool) (target : ℕ) :
    (fleet.abandon .subinterpreter old stops).base.alive target =
      (fleet.base.alive target && !fleet.base.current.any fun handle =>
        decide (handle.target = target) && stops handle.workerId) := by
  rfl

/-- A failed wait is undone, but for replacements that do not stop. -/
theorem Spawned.restored_abandon {before : Settled}
    (hspawned : Spawned before.toFleet effectiveWorkers fleet) (stops : ℕ → Bool) :
    Restored before.toFleet (fleet.abandon .subinterpreter before.toFleet stops).release ↔
      ∀ workerId < effectiveWorkers, stops workerId := by
  have halive := alive_abandon before.toFleet fleet stops
  have hcurrent : (fleet.abandon .subinterpreter before.toFleet stops).release.base.current =
      before.base.current :=
    State.current_assign ((fleet.base.join fleet.base.current stops).forceStop .subinterpreter
      fleet.base.current) before.base.current
  constructor
  · intro hrestored workerId hworker
    by_contra hruns
    rw [Bool.not_eq_true] at hruns
    have hmine : (fleet.abandon .subinterpreter before.toFleet stops).base.alive
        (before.base.nextTarget + workerId) := by
      rw [halive, hspawned.alive, Bool.and_eq_true, Bool.not_eq_true', List.any_eq_false]
      refine ⟨?_, ?_⟩
      · rw [decide_eq_true (by omega), Bool.or_true]
      · intro handle hmem
        rw [hspawned.current] at hmem
        obtain ⟨other, -, rfl⟩ := List.mem_map.mp hmem
        by_cases hsame : other = workerId
        · simp [hsame, hruns]
        · simp [hsame]
    obtain ⟨handle, hmem, htarget⟩ := hrestored.replacements (before.base.nextTarget + workerId)
      (Nat.le_add_right _ _)
      (by change _ < fleet.base.nextTarget; rw [hspawned.nextTarget]; omega) hmine
    rw [hcurrent] at hmem
    have hold := before.started handle hmem
    omega
  · intro hstops
    constructor
    · exact hcurrent
    · rfl
    · rfl
    · exact hspawned.asyncPool
    · intro handle hmem
      have hold := before.started handle hmem
      change (fleet.abandon .subinterpreter before.toFleet stops).base.alive handle.target = _
      rw [halive, hspawned.alive]
      have hnone : (fleet.base.current.any fun other =>
          decide (other.target = handle.target) && stops other.workerId) = false := by
        rw [List.any_eq_false]
        intro other hother
        rw [hspawned.current] at hother
        obtain ⟨workerId, -, rfl⟩ := List.mem_map.mp hother
        have hne : before.base.nextTarget + workerId ≠ handle.target := by omega
        simp [hne]
      rw [hnone, decide_eq_false (by omega)]
      simp
    · intro target hfrom hto hruns
      exfalso
      change target < fleet.base.nextTarget at hto
      rw [hspawned.nextTarget] at hto
      change (fleet.abandon .subinterpreter before.toFleet stops).base.alive target at hruns
      rw [halive, Bool.and_eq_true, Bool.not_eq_true', List.any_eq_false] at hruns
      have hmem : (WorkerHandle.mk (target - before.base.nextTarget) target
          (before.base.generation + 1)) ∈ fleet.base.current := by
        rw [hspawned.current]
        exact List.mem_map.mpr ⟨target - before.base.nextTarget, List.mem_range.mpr (by omega),
          by simp [Nat.add_sub_cancel' hfrom]⟩
      have hstopped := hstops (target - before.base.nextTarget) (by omega)
      exact absurd (hruns.2 _ hmem) (by simp [hstopped])

/-- A rolling reload that fails leaves everything as it was if and only if it is the
wait for the replacements that fails and all of them stop when they are told to. -/
theorem restored_iff (before : Settled) (mode : WorkerMode) (effectiveWorkers : ℕ)
    (executesSync : Bool) (course : Course) (hfails : course.Fails mode effectiveWorkers) :
    Restored before.toFleet
        (before.toFleet.gracefulReload mode effectiveWorkers executesSync course).2 ↔
      ∃ stops, course = .notReady stops ∧ ∀ workerId < effectiveWorkers, stops workerId := by
  cases course with
  | raises failing =>
      obtain ⟨stopped, hraises⟩ := spawnAll_raises mode
        (before.toFleet.begin mode executesSync) (List.mem_range.mpr hfails)
      have hgeneration := generation_spawnAll hraises
      rw [gracefulReload, hraises]
      constructor
      · intro hrestored
        have hsame : stopped.base.generation = before.base.generation := hrestored.generation
        change stopped.base.generation = before.base.generation + 1 at hgeneration
        omega
      · rintro ⟨stops, hcourse, -⟩
        cases hcourse
  | notReady stops =>
      obtain rfl : mode = .subinterpreter := hfails
      obtain ⟨spawned, hok, hspawned⟩ :=
        (spawned_begin before.toFleet executesSync).spawnAll stops effectiveWorkers
      rw [Nat.zero_add] at hspawned
      rw [gracefulReload, List.range_eq_range', hok]
      rw [hspawned.restored_abandon stops]
      constructor
      · intro hstops
        exact ⟨stops, rfl, hstops⟩
      · rintro ⟨other, hother, hstops⟩
        cases hother
        exact hstops
  | succeeds stops => exact hfails.elim

/-- A supervisor of two workers that has just begun, with a pair of queues for each. -/
def settled : Settled where
  base := Supervisor.begun 2
  iicQueues := [0, 1]
  nextQueue := 2
  asyncPool := some 0
  nextPool := 1
  idle := rfl
  started := by decide

/-- Replacements that are not ready but stop are forgotten without a trace. -/
theorem restored_iff_notReady : Restored settled.toFleet
    (settled.toFleet.gracefulReload .subinterpreter 2 false (.notReady fun _ => true)).2 :=
  (restored_iff settled .subinterpreter 2 false (.notReady fun _ => true) rfl).mpr
    ⟨fun _ => true, rfl, fun _ _ => rfl⟩

/-- When the second thread worker cannot be started, the generation and the pool are
changed and the first one runs on without a handle. -/
theorem raising_not_restored :
    ¬ ∀ (before : Settled) (mode : WorkerMode) (effectiveWorkers : ℕ) (executesSync : Bool)
        (course : Course), course.Fails mode effectiveWorkers →
        Restored before.toFleet
          (before.toFleet.gracefulReload mode effectiveWorkers executesSync course).2 := by
  intro hclaim
  have hrestored := hclaim settled .thread 2 true (.raises 1) Nat.one_lt_two
  exact absurd hrestored.generation (by decide)

end Fleet

end Pounce.Supervisor
