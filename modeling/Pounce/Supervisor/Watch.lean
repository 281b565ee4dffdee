/-
# The watch loop under reloads

`restart_workers` stops the workers through the event that tells the watch loop that
the server is stopping. If the loop looks at the event before the restart clears it,
`run` leaves `_watch` and drains the new workers along with the old ones.

`Undisturbed` singles out the runs in which the loop does not look while the event is
set, no restart has to give up, respawns and reloads are apart, and no replacement dies
before its reload completes. In these the loop goes on, and every completed reload
leaves a whole generation of living workers.
-/

import Pounce.Supervisor.Tracking

namespace Pounce.Supervisor

open Pounce.Math

/-- The loop is about to evaluate the event and to stop if it is set. -/
def Watch.looks : Watch → Prop
  | .top | .woken => True
  | _ => False

/-- The workers that a reload has started so far, with the content of `_handles`. -/
def Reload.replacements (mode : WorkerMode) (current : List WorkerHandle) :
    Reload → List WorkerHandle
  | .respawning _ | .completed => current
  | .spawning locals _ => if mode = .subinterpreter then current else locals.newHandles
  | .ready locals | .draining locals => locals.newHandles
  | _ => []

/-- The watch loop looks at the event only while it is not set, a restart goes on only
with all old workers dead, no replacement dies, and respawns and reloads are apart. -/
def Undisturbed (mode : WorkerMode) (state : State) (action : Action) : Prop :=
  Apart state action ∧
    match action with
    | .watch => state.watch.looks → state.shutdown = false
    | .advance => state.reload = .joined → state.living state.current = []
    | .die target =>
      ∀ handle ∈ state.reload.replacements mode state.current, handle.target ≠ target
    | _ => True

/-- A rolling reload is under way. -/
def Reload.isRolling : Reload → Prop
  | .rolling | .spawning .. | .ready _ | .failing _ | .draining _ => True
  | _ => False

/-- The loop goes on, the event is set only while a restart joins the workers, and the
replacements live. -/
structure Running (mode : WorkerMode) (state : State) : Prop where
  watch : state.watch ≠ .left
  shutdown : state.shutdown → state.reload = .joining ∨ state.reload = .joined
  living : ∀ handle ∈ state.reload.replacements mode state.current, state.alive handle.target
  /-- Process workers are not reloaded by a rolling reload. -/
  rolling : state.reload.isRolling → mode ≠ .process

namespace Running

variable {mode : WorkerMode} {effectiveWorkers : ℕ} {state next : State}

/-- A step of the watch loop that does not find the event set. -/
theorem watchStep (hrunning : Running mode state) (htracked : Tracked mode effectiveWorkers state)
    (hlooks : state.watch.looks → state.shutdown = false)
    (hstep : state.watchStep = some next) : Running mode next := by
  have hmove (restarts : ℕ → List ℕ) {watch : Watch} (hwatch : watch ≠ .left) :
      Running mode { state with restarts, watch } :=
    { watch := hwatch
      shutdown := hrunning.shutdown
      living := hrunning.living
      rolling := hrunning.rolling }
  simp only [State.watchStep] at hstep
  cases hwatch : state.watch with
  | top =>
      simp only [hwatch] at hstep hlooks
      split at hstep
      case isTrue hset =>
        rw [hlooks trivial] at hset
        cases hset
      case isFalse =>
        obtain rfl := Option.some.inj hstep
        exact hmove _ (by simp)
  | waiting =>
      simp only [hwatch] at hstep
      obtain rfl := Option.some.inj hstep
      exact hmove _ (by simp)
  | woken =>
      simp only [hwatch] at hstep hlooks
      split at hstep
      case isTrue hset =>
        rw [hlooks trivial] at hset
        cases hset
      case isFalse =>
        obtain rfl := Option.some.inj hstep
        exact hmove _ (by simp)
  | scanning cursor =>
      simp only [hwatch] at hstep
      split at hstep
      case h_1 =>
        obtain rfl := Option.some.inj hstep
        exact hmove _ (by simp)
      case h_2 =>
        split at hstep <;> obtain rfl := Option.some.inj hstep
        · exact hmove _ (by simp)
        · exact hmove _ (by simp)
  | dead cursor handle =>
      simp only [hwatch] at hstep
      split at hstep <;> obtain rfl := Option.some.inj hstep
      · exact hmove _ (by simp)
      · exact hmove _ (by simp)
  | respawn cursor handle =>
      simp only [hwatch] at hstep
      split at hstep
      case isTrue =>
        obtain rfl := Option.some.inj hstep
        exact hmove _ (by simp)
      case isFalse =>
        split at hstep <;> obtain rfl := Option.some.inj hstep
        · exact hmove _ (by simp)
        · exact hmove _ (by simp)
  | budget cursor workerId handle =>
      simp only [hwatch] at hstep
      obtain rfl := Option.some.inj hstep
      simp only [State.budget]
      split
      · exact hmove _ (by simp)
      · exact hmove _ (by simp)
  | backoff cursor workerId handle deadline notified =>
      simp only [hwatch] at hstep
      split at hstep
      case isTrue =>
        obtain rfl := Option.some.inj hstep
        exact hmove _ (by simp)
      case isFalse =>
        obtain ⟨-, rfl⟩ := Machine.of_guard hstep
        exact hmove _ (by simp)
  | spawning cursor workerId handle =>
      have hidle := (htracked.respawning workerId handle (by rw [hwatch]; rfl)).1
      simp only [hwatch] at hstep
      obtain rfl := Option.some.inj hstep
      refine { watch := by simp, shutdown := hrunning.shutdown, living := ?_,
               rolling := hrunning.rolling }
      change ∀ handle ∈ state.reload.replacements mode (state.spawnWorker workerId).current, _
      rw [hidle]
      exact List.forall_mem_nil _
  | left => exact absurd hwatch hrunning.watch

/-- The reload moves on with living replacements. -/
theorem proceed (hrunning : Running mode state) {reload : Reload}
    (hshutdown : state.shutdown → reload = .joining ∨ reload = .joined)
    (hliving : ∀ handle ∈ reload.replacements mode state.current, state.alive handle.target)
    (hrolling : reload.isRolling → mode ≠ .process) : Running mode { state with reload } where
  watch := hrunning.watch
  shutdown := hshutdown
  living := hliving
  rolling := hrolling

theorem not_shutdown (hrunning : Running mode state) (hjoining : state.reload ≠ .joining)
    (hjoined : state.reload ≠ .joined) : ¬ state.shutdown := by
  intro hset
  rcases hrunning.shutdown hset with h | h
  · exact hjoining h
  · exact hjoined h

/-- A fresh worker of a reload lives. -/
theorem alive_spawned {handles : List WorkerHandle}
    (hliving : ∀ handle ∈ handles, state.alive handle.target) (workerId : ℕ) :
    ∀ handle ∈ handles ++ [state.fresh workerId],
      Function.update state.alive state.nextTarget true handle.target := by
  intro handle hmem
  rw [Function.update_apply]
  split
  case isTrue => rfl
  case isFalse hne =>
    rcases List.mem_append.mp hmem with hold | hnew
    · exact hliving handle hold
    · obtain rfl := List.mem_singleton.mp hnew
      exact absurd rfl hne

/-- The workers are told to stop. -/
theorem restart (hrunning : Running mode state) :
    Running mode { state.setShutdown with reload := .joining } where
  watch := by
    have hwatch := hrunning.watch
    simp only [State.setShutdown]
    split
    · simp
    · exact hwatch
  shutdown _ := .inl rfl
  living := List.forall_mem_nil _
  rolling := False.elim

/-- Workers that have not stopped in time are force-stopped. -/
theorem join (hrunning : Running mode state) :
    Running mode { state.forceStop mode state.current with reload := .joined } where
  watch := by
    simp only [State.forceStop]
    split <;> exact hrunning.watch
  shutdown _ := .inr rfl
  living := List.forall_mem_nil _
  rolling := False.elim

/-- The handles of the old workers are dropped. -/
theorem clear (hrunning : Running mode state) (hclear : ¬ state.shutdown) :
    Running mode { state.setCurrent [] with reload := .respawning 0 } where
  watch := hrunning.watch
  shutdown hset := absurd hset hclear
  living := by
    change ∀ handle ∈ (state.setCurrent []).current, _
    rw [state.current_setCurrent]
    exact List.forall_mem_nil _
  rolling := False.elim

/-- One more worker is started again. -/
theorem restartWorker (hrunning : Running mode state) (hclear : ¬ state.shutdown) {count : ℕ}
    (hreload : state.reload = .respawning count) (hlength : state.current.length = count) :
    Running mode { state.spawnWorker count with reload := .respawning (count + 1) } where
  watch := hrunning.watch
  shutdown hset := absurd hset hclear
  living := by
    have hliving := hrunning.living
    rw [hreload] at hliving
    change ∀ handle ∈ (state.spawnWorker count).current, _
    rw [State.current_spawnWorker, hlength, if_neg (lt_irrefl count)]
    exact alive_spawned hliving count
  rolling := False.elim

/-- A rolling reload begins. -/
theorem roll (hrunning : Running mode state) (hclear : ¬ state.shutdown)
    (hreload : state.reload = .rolling) (generation : ℕ) (rolling : Rolling)
    (hnew : rolling.newHandles = []) :
    Running mode
      { if mode = .subinterpreter then state.assign [] else state with
        generation
        reload := .spawning rolling 0 } := by
  have hrolling := hrunning.rolling
  rw [hreload] at hrolling
  by_cases hmode : mode = .subinterpreter
  · rw [if_pos hmode]
    refine { watch := hrunning.watch, shutdown := fun hset => absurd hset hclear, living := ?_,
             rolling := fun _ => hrolling trivial }
    simp only [Reload.replacements, if_pos hmode]
    change ∀ handle ∈ (state.assign []).current, _
    rw [state.current_assign]
    exact List.forall_mem_nil _
  · rw [if_neg hmode]
    refine { watch := hrunning.watch, shutdown := fun hset => absurd hset hclear, living := ?_,
             rolling := fun _ => hrolling trivial }
    simp only [Reload.replacements, if_neg hmode, hnew]
    exact List.forall_mem_nil _

/-- One more replacement is started. -/
theorem spawnReplacement (hrunning : Running mode state) (hclear : ¬ state.shutdown)
    {rolling : Rolling} {count : ℕ} (hreload : state.reload = .spawning rolling count)
    (hlength : mode = .subinterpreter → state.current.length = count) :
    Running mode (state.spawnReplacement mode rolling count) := by
  have hliving := hrunning.living
  have hrolling := hrunning.rolling
  rw [hreload] at hliving hrolling
  simp only [State.spawnReplacement]
  split
  case isTrue hmode =>
    simp only [Reload.replacements, if_pos hmode] at hliving
    refine { watch := hrunning.watch, shutdown := fun hset => absurd hset hclear, living := ?_,
             rolling := fun _ => hrolling trivial }
    simp only [Reload.replacements, if_pos hmode]
    change ∀ handle ∈ (state.spawnWorker count).current, _
    rw [State.current_spawnWorker, hlength hmode, if_neg (lt_irrefl count)]
    exact alive_spawned hliving count
  case isFalse hmode =>
    simp only [Reload.replacements, if_neg hmode] at hliving
    refine { watch := hrunning.watch, shutdown := fun hset => absurd hset hclear, living := ?_,
             rolling := fun _ => hrolling trivial }
    simp only [Reload.replacements, if_neg hmode]
    exact alive_spawned hliving count

/-- The old workers are force-stopped, and the replacements take their place. -/
theorem drain (hrunning : Running mode state) (hclear : ¬ state.shutdown) {rolling : Rolling}
    (hreload : state.reload = .draining rolling) (outlived : List WorkerHandle) :
    Running mode
      { (state.forceStop mode rolling.oldHandles).assign rolling.newHandles with
        reload := .completed
        outlived } := by
  have hliving := hrunning.living
  have hrolling := hrunning.rolling
  rw [hreload] at hliving hrolling
  rw [State.forceStop, if_neg (hrolling trivial)]
  refine { watch := hrunning.watch, shutdown := fun hset => absurd hset hclear,
           living := ?_, rolling := False.elim }
  change ∀ handle ∈ (state.assign rolling.newHandles).current, _
  rw [state.current_assign]
  exact hliving

/-- A step of the reload thread that does not give up a restart. -/
theorem reloadStep (hrunning : Running mode state) (htracked : Tracked mode effectiveWorkers state)
    (hjoined : state.reload = .joined → state.living state.current = [])
    (hstep : state.reloadStep mode effectiveWorkers = some next) : Running mode next := by
  have hliving := hrunning.living
  have hrolling := hrunning.rolling
  have hshape := htracked.shape
  rw [State.Shape] at hshape
  simp only [State.reloadStep] at hstep
  -- but for the join the event is not set while a reload goes on
  have hclear (hjoining : state.reload ≠ .joining) (hnot : state.reload ≠ .joined) :=
    hrunning.not_shutdown hjoining hnot
  cases hreload : state.reload with
  | idle => simp [hreload] at hstep
  | restarting =>
      simp only [hreload, Option.some.injEq] at hstep
      subst hstep
      exact hrunning.restart
  | joining =>
      simp only [hreload, Option.some.injEq] at hstep
      subst hstep
      exact hrunning.join
  | joined =>
      simp only [hreload] at hstep
      rw [if_neg (not_not.mpr (hjoined hreload))] at hstep
      obtain rfl := Option.some.inj hstep
      exact { watch := hrunning.watch, shutdown := fun hset => absurd hset Bool.false_ne_true,
              living := List.forall_mem_nil _, rolling := False.elim }
  | clearing =>
      simp only [hreload, Option.some.injEq] at hstep
      subst hstep
      exact hrunning.clear (hclear (by simp [hreload]) (by simp [hreload]))
  | respawning count =>
      simp only [hreload] at hstep hshape hliving
      have hunset := hclear (by simp [hreload]) (by simp [hreload])
      split at hstep <;> obtain rfl := Option.some.inj hstep
      case isTrue => exact hrunning.restartWorker hunset hreload hshape.2.length
      case isFalse =>
        exact hrunning.proceed (fun hset => absurd hset hunset) hliving False.elim
  | rolling =>
      simp only [hreload, Option.some.injEq] at hstep
      subst hstep
      exact hrunning.roll (hclear (by simp [hreload]) (by simp [hreload])) hreload _ _ rfl
  | spawning rolling count =>
      simp only [hreload] at hstep hshape hliving hrolling
      have hunset := hclear (by simp [hreload]) (by simp [hreload])
      split at hstep
      case isTrue =>
        obtain rfl := Option.some.inj hstep
        refine hrunning.spawnReplacement hunset hreload fun hmode => ?_
        obtain ⟨-, -, hroster⟩ := hshape
        rw [if_pos hmode] at hroster
        exact hroster.length
      case isFalse =>
        split at hstep <;> obtain rfl := Option.some.inj hstep
        case isTrue hmode =>
          simp only [Reload.replacements, if_pos hmode] at hliving
          exact hrunning.proceed (fun hset => absurd hset hunset) hliving
            fun _ => hrolling trivial
        case isFalse hmode =>
          simp only [Reload.replacements, if_neg hmode] at hliving
          exact hrunning.proceed (fun hset => absurd hset hunset) hliving
            fun _ => hrolling trivial
  | ready rolling =>
      simp only [hreload, Option.some.injEq] at hstep hliving hrolling
      subst hstep
      have hunset := hclear (by simp [hreload]) (by simp [hreload])
      exact hrunning.proceed (fun hset => absurd hset hunset) hliving
        fun _ => hrolling trivial
  | failing rolling =>
      simp only [hreload, Option.some.injEq] at hstep hrolling
      subst hstep
      have hunset := hclear (by simp [hreload]) (by simp [hreload])
      rw [State.forceStop, if_neg (hrolling trivial)]
      exact { watch := hrunning.watch
              shutdown := fun hset => absurd hset hunset
              living := List.forall_mem_nil _
              rolling := False.elim }
  | draining rolling =>
      simp only [hreload, Option.some.injEq] at hstep
      subst hstep
      exact hrunning.drain (hclear (by simp [hreload]) (by simp [hreload])) hreload _
  | completed | aborted =>
      simp only [hreload, Option.some.injEq] at hstep
      subst hstep
      have hunset := hclear (by simp [hreload]) (by simp [hreload])
      exact hrunning.proceed (fun hset => absurd hset hunset) (List.forall_mem_nil _) False.elim

/-- Every undisturbed step keeps the loop going. -/
theorem step (hrunning : Running mode state) (htracked : Tracked mode effectiveWorkers state)
    {action : Action} (hundisturbed : Undisturbed mode state action)
    (hstep : Supervisor.step mode effectiveWorkers state action = some next) :
    Running mode next := by
  obtain ⟨-, hguard⟩ := hundisturbed
  have hidleClear (hidle : state.reload = .idle) : ¬ state.shutdown :=
    hrunning.not_shutdown (by simp [hidle]) (by simp [hidle])
  cases action with
  | watch => exact hrunning.watchStep htracked hguard hstep
  | advance => exact hrunning.reloadStep htracked hguard hstep
  | replacementFailed =>
      simp only [Supervisor.step] at hstep
      split at hstep
      case h_1 rolling hreload =>
        have hclear := hrunning.not_shutdown (by simp [hreload]) (by simp [hreload])
        obtain ⟨-, rfl⟩ := Machine.of_guard hstep
        refine hrunning.proceed (fun h => absurd h hclear) (List.forall_mem_nil _)
          fun _ => ?_
        exact hrunning.rolling (hreload ▸ trivial)
      case h_2 => cases hstep
  | restartWorkers =>
      simp only [Supervisor.step] at hstep
      split at hstep <;> obtain rfl := Option.some.inj hstep
      case isTrue hidle =>
        exact hrunning.proceed (fun h => absurd h (hidleClear hidle)) (List.forall_mem_nil _)
          False.elim
      case isFalse => exact hrunning
  | gracefulReload =>
      simp only [Supervisor.step] at hstep
      split at hstep <;> obtain rfl := Option.some.inj hstep
      case isTrue hidle =>
        apply hrunning.proceed (fun h => absurd h (hidleClear hidle))
        · split <;> exact List.forall_mem_nil _
        · split
          case isTrue => exact False.elim
          case isFalse hmode => exact fun _ => hmode
      case isFalse => exact hrunning
  | die target =>
      simp only [Supervisor.step] at hstep
      obtain ⟨-, rfl⟩ := Machine.of_guard hstep
      refine { watch := hrunning.watch, shutdown := hrunning.shutdown, living := ?_,
               rolling := hrunning.rolling }
      intro handle hmem
      change Function.update state.alive target false handle.target
      rw [Function.update_of_ne (hguard handle hmem)]
      exact hrunning.living handle hmem
  | tick elapsed =>
      obtain rfl := Option.some.inj hstep
      exact { watch := hrunning.watch, shutdown := hrunning.shutdown, living := hrunning.living,
              rolling := hrunning.rolling }

end Running

/-! ## Every run -/

/-- In undisturbed runs `run` never leaves the watch loop, and a completed reload leaves
the event clear and one living worker per id of the current generation, the only living
ones but for workers that outlived the reload that retired them. -/
theorem watch_survives {mode : WorkerMode} {effectiveWorkers : ℕ} {state : State}
    (hreach : (supervisor mode effectiveWorkers).Reach (Undisturbed mode) state) :
    state.watch ≠ .left ∧
      (state.reload = .completed → state.shutdown = false ∧
        Roster effectiveWorkers state.generation state.current ∧
        (∀ handle ∈ state.current, state.alive handle.target) ∧
        ∀ target, state.alive target → ∃ handle ∈ state.current ++ state.outlived,
          handle.target = target) := by
  have hinv : Tracked mode effectiveWorkers state ∧ Running mode state := by
    apply hreach.invariant
    · rintro _ rfl
      exact ⟨Tracked.initial, { watch := by simp [begun]
                                shutdown := fun h => absurd h Bool.false_ne_true
                                living := List.forall_mem_nil _
                                rolling := False.elim }⟩
    · rintro state action next ⟨htracked, hrunning⟩ hundisturbed hstep
      exact ⟨htracked.step hundisturbed.1 hstep, hrunning.step htracked hundisturbed hstep⟩
  obtain ⟨htracked, hrunning⟩ := hinv
  refine ⟨hrunning.watch, fun hcompleted => ⟨?_, ?_, ?_, fun target halive => ?_⟩⟩
  · exact by simpa using hrunning.not_shutdown (by simp [hcompleted]) (by simp [hcompleted])
  · have hshape := htracked.shape
    rw [State.Shape, hcompleted] at hshape
    exact hshape
  · have hliving := hrunning.living
    rw [hcompleted] at hliving
    exact hliving
  · have honce := htracked.ledger.once target halive
    rw [State.entries, hcompleted] at honce
    exact occurrences_pos.mp (honce.symm ▸ Nat.one_pos)

/-- A restart of one thread worker, all of it while the watch loop waits. -/
def restart : List Action :=
  [.watch, .restartWorkers, .advance, .die 0, .advance, .advance, .advance, .advance, .advance]

/-- The loop still waits after it. -/
theorem watch_survives_restart : (after restart).watch ≠ .left := by
  have hrun : (supervisor .thread 1).run (begun 1) restart = some (after restart) := rfl
  have hundisturbed : (supervisor .thread 1).Along (Undisturbed .thread) (begun 1) restart := by
    apply Machine.Along.cons ⟨fun _ _ h => Watch.noConfusion h, fun _ => rfl⟩ rfl
    apply Machine.Along.cons ⟨fun _ => rfl, trivial⟩ rfl
    apply Machine.Along.cons ⟨trivial, fun h => Reload.noConfusion h⟩ rfl
    apply Machine.Along.cons ⟨trivial, List.forall_mem_nil _⟩ rfl
    apply Machine.Along.cons ⟨trivial, fun h => Reload.noConfusion h⟩ rfl
    -- the old worker is dead when the restart looks
    apply Machine.Along.cons ⟨trivial, fun _ => rfl⟩ rfl
    apply Machine.Along.cons ⟨trivial, fun h => Reload.noConfusion h⟩ rfl
    apply Machine.Along.cons ⟨trivial, fun h => Reload.noConfusion h⟩ rfl
    apply Machine.Along.cons ⟨trivial, fun h => Reload.noConfusion h⟩ rfl
    trivial
  exact (watch_survives (.run (.init rfl) hundisturbed hrun)).1

/-- The loop looks at the event while a restart has it set. -/
theorem restart_stops_watch :
    ¬ ∀ state, (supervisor .thread 1).Reachable state → state.watch ≠ .left := by
  intro hclaim
  have hrun : (supervisor .thread 1).run (begun 1) [.restartWorkers, .advance, .watch] =
      some (after [.restartWorkers, .advance, .watch]) := rfl
  exact absurd (hclaim _ (Machine.reachable_run rfl hrun)) (by decide)

end Pounce.Supervisor
