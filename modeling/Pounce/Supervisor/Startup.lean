/-
# The supervisor from its start to its end

`Supervisor.run` spawns the workers, and those for HTTP/3, waits until every worker has reported that
it serves, says that the server is ready, watches the workers until it is told to stop, and drains.
It may fail on the way: there may be more workers than connections, a worker may not be spawned, may
report an error, or not report in time. Workers report when they like, or never, and the supervisor
may be told to stop at any time. It drains only where it was, or where it raises an error that has
its reason.

The respawns and reloads between being ready and draining are left out here, as are the steps of the
drain.
-/

import Mathlib.Algebra.Order.Ring.Rat
import Mathlib.Data.Finset.Sort
import Pounce.Math.Trace
import Pounce.Server.State
import Pounce.Supervisor

namespace Pounce

open Pounce.Math

/-- `WorkerMode`, as it is written. -/
def WorkerMode.label : WorkerMode → String
  | .thread => "thread"
  | .process => "process"
  | .subinterpreter => "subinterpreter"

/-- What the configuration and the platform decide. -/
structure SupervisorConfig where
  workers : ℕ
  workers_pos : 0 < workers
  mode : WorkerMode := .thread
  executionMode : String := "async"
  /-- There are UDP sockets for HTTP/3. -/
  udp : Bool := false
  startupTimeout : ℚ := 30
  /-- Zero is no limit. -/
  maxConnections : ℕ := 10000
  deriving Repr

/-- What a worker reports. -/
inductive WorkerStatus
  | serving
  | error (detail : Option String)
  /-- Some other text. -/
  | other (status : String)
  deriving DecidableEq, Repr

/-- A report of a worker. -/
structure WorkerReport where
  worker : ℕ
  status : WorkerStatus
  deriving DecidableEq, Repr

/-- What `run` raises. -/
inductive SupervisorError
  /-- There are fewer connections than workers. -/
  | maxConnections
  /-- A worker is not spawned. -/
  | spawn (worker : ℕ)
  | spawnH3 (worker : ℕ)
  /-- A worker has reported an error. -/
  | workerFailed (worker : ℕ) (detail : String)
  /-- Some workers have not reported in time. -/
  | notReady (workers : List ℕ)
  deriving DecidableEq, Repr

/-- How far `run` has come. -/
inductive SupervisorStage
  | idle
  | spawning (next : ℕ)
  | spawningH3 (next : ℕ)
  | awaiting (pending : Finset ℕ) (deadline : ℚ)
  | watching
  /-- With what it will raise. -/
  | draining (raised : Option SupervisorError)
  | ended (raised : Option SupervisorError)
  deriving DecidableEq

/-- What the supervisor does. -/
inductive SupervisorAct
  | spawn (worker : ℕ)
  | spawnH3 (worker : ℕ)
  | dispatch (action : ServerAction)
  deriving DecidableEq, Repr

/-- The supervisor, as far as it starts and stops. -/
structure SupervisorRun where
  clock : ℚ
  stage : SupervisorStage := .idle
  /-- The reports that have not been read. -/
  statusQueue : List WorkerReport := []
  /-- All reports. -/
  reports : List WorkerReport := []
  /-- `_shutdown_event` -/
  shutdownEvent : Bool := false
  /-- `shutdown` has been called. -/
  told : Bool := false
  deriving DecidableEq

/-- What happens to the supervisor. -/
inductive SupervisorAction
  | tick (elapsed : ℚ)
  /-- `shutdown` is called. -/
  | shutdown
  /-- `run` is called. -/
  | run
  /-- A worker is spawned, or not. -/
  | spawn (succeeds : Bool)
  | report (report : WorkerReport)
  /-- The next report is read: that of some worker, where every worker has a queue of its own. -/
  | poll (worker : ℕ)
  /-- The deadline has passed. -/
  | giveUp
  /-- The supervisor finds that it is told to stop. -/
  | drain
  /-- The workers have been joined. -/
  | joined
  deriving DecidableEq, Repr

namespace SupervisorRun

variable (config : SupervisorConfig) (run : SupervisorRun)

/-- `run` is called. -/
def start : SupervisorRun × List SupervisorAct :=
  if 0 < config.maxConnections ∧ config.maxConnections < config.workers then
    ({ run with stage := .ended (some .maxConnections) }, [])
  else
    let execLabel := if config.executionMode = "sync" then config.executionMode ++ "+" else ""
    ({ run with stage := .spawning 0 },
      [.dispatch (.supervisorStarting config.workers (execLabel ++ config.mode.label))])

/-- Wait for the reports of all workers. -/
def await : SupervisorStage :=
  .awaiting (Finset.range config.workers) (run.clock + config.startupTimeout)

/-- Spawn a worker. What is raised here is not raised in the `try` block, so that nothing drains. -/
def spawn (succeeds : Bool) : Option (SupervisorRun × List SupervisorAct) :=
  match run.stage with
  | .spawning worker =>
      if succeeds then
        let stage :=
          if worker + 1 < config.workers then .spawning (worker + 1)
          else if config.udp then .spawningH3 0
          else run.await config
        some ({ run with stage }, [.spawn worker])
      else some ({ run with stage := .ended (some (.spawn worker)) }, [])
  | .spawningH3 worker =>
      if succeeds then
        let stage :=
          if worker + 1 < config.workers then .spawningH3 (worker + 1) else run.await config
        some ({ run with stage }, [.spawnH3 worker])
      else some ({ run with stage := .ended (some (.spawnH3 worker)) }, [])
  | _ => none

/-- Drain, and raise in the end. -/
def startDrain (raised : Option SupervisorError) : SupervisorRun × List SupervisorAct :=
  ({ run with stage := .draining raised, shutdownEvent := true }, [.dispatch .supervisorShutdown])

/-- Some worker has been heard of. -/
def heard (pending : Finset ℕ) (deadline : ℚ) : SupervisorRun × List SupervisorAct :=
  if pending = ∅ then ({ run with stage := .watching }, [.dispatch .ready])
  else ({ run with stage := .awaiting pending deadline }, [])

/-- The text of an error that is reported. -/
def detailOr (detail : Option String) : String :=
  if detail.getD "" ≠ "" then detail.getD "" else "unknown error"

/-- Take a report. -/
def take (pending : Finset ℕ) (deadline : ℚ) (report : WorkerReport) :
    SupervisorRun × List SupervisorAct :=
  match report.status with
  | .serving => run.heard (pending.erase report.worker) deadline
  | .error detail => run.startDrain (some (.workerFailed report.worker (detailOr detail)))
  | .other _ => (run, [])

/-- Read the next report. -/
def poll (worker : ℕ) : Option (SupervisorRun × List SupervisorAct) :=
  match run.stage with
  | .awaiting pending deadline =>
      if config.mode = .subinterpreter then
        if worker ∈ pending then
          (run.statusQueue.find? (·.worker = worker)).map fun report =>
            { run with statusQueue := run.statusQueue.erase report }.take pending deadline report
        else none
      else
        match run.statusQueue with
        | [] => none
        | report :: statusQueue => some ({ run with statusQueue }.take pending deadline report)
  | _ => none

/-- The deadline has passed. -/
def giveUp : Option (SupervisorRun × List SupervisorAct) :=
  match run.stage with
  | .awaiting pending deadline =>
      if deadline ≤ run.clock then
        some (run.startDrain (some (.notReady (pending.sort (· ≤ ·)))))
      else none
  | _ => none

/-- The drain is over. -/
def joined : Option (SupervisorRun × List SupervisorAct) :=
  match run.stage with
  | .draining raised =>
      some ({ run with stage := .ended raised }, [.dispatch .supervisorAllStopped])
  | _ => none

/-- One step. -/
def step : SupervisorAction → Option (SupervisorRun × List SupervisorAct)
  | .tick elapsed =>
      if 0 ≤ elapsed then some ({ run with clock := run.clock + elapsed }, []) else none
  | .shutdown => some ({ run with shutdownEvent := true, told := true }, [])
  | .run => if run.stage = .idle then some (run.start config) else none
  | .spawn succeeds => run.spawn config succeeds
  | .report report =>
      some ({ run with
        statusQueue := run.statusQueue ++ [report]
        reports := run.reports ++ [report] }, [])
  | .poll worker => run.poll config worker
  | .giveUp => run.giveUp
  | .drain =>
      if run.stage = .watching ∧ run.shutdownEvent = true then some (run.startDrain none) else none
  | .joined => run.joined

end SupervisorRun

/-- The supervisor, from before it is run. -/
def supervisorEmitter (config : SupervisorConfig) (began : ℚ) :
    Emitter SupervisorRun SupervisorAction SupervisorAct where
  init run := run = { clock := began }
  step := SupervisorRun.step config

/-! ## What is promised -/

section Law

variable (config : SupervisorConfig) (began : ℚ)

/-- Where an act belongs. -/
def SupervisorAct.rank : SupervisorAct → ℕ
  | .spawn worker => 1 + worker
  | .spawnH3 worker => 1 + config.workers + worker
  | .dispatch (.supervisorStarting ..) => 0
  | .dispatch .ready => 1 + 2 * config.workers
  | .dispatch .supervisorShutdown => 2 + 2 * config.workers
  | .dispatch _ => 3 + 2 * config.workers

/-- The first workers have been spawned. -/
def spawned (count : ℕ) : List SupervisorAct :=
  .dispatch (.supervisorStarting config.workers
      ((if config.executionMode = "sync" then config.executionMode ++ "+" else "") ++
        config.mode.label)) ::
    (List.range count).map .spawn

/-- All workers have been, and the first of those for HTTP/3. -/
def spawnedH3 (count : ℕ) : List SupervisorAct :=
  spawned config config.workers ++ (List.range count).map .spawnH3

/-- All have been spawned. -/
def spawnedAll : List SupervisorAct :=
  if config.udp then spawnedH3 config config.workers else spawned config config.workers

/-- What has been done when an error is raised. -/
def doneBefore : SupervisorError → List SupervisorAct
  | .maxConnections => []
  | .spawn worker => spawned config worker
  | .spawnH3 worker => spawnedH3 config worker
  | .workerFailed .. | .notReady _ => spawnedAll config

/-- It has been drained if an error is raised. -/
def SupervisorError.drains : SupervisorError → Bool
  | .maxConnections | .spawn _ | .spawnH3 _ => false
  | .workerFailed .. | .notReady _ => true

/-- What has been done up to a stage. -/
def SupervisorStage.done : SupervisorStage → List SupervisorAct
  | .idle => []
  | .spawning next => spawned config next
  | .spawningH3 next => spawnedH3 config next
  | .awaiting .. => spawnedAll config
  | .watching => spawnedAll config ++ [.dispatch .ready]
  | .draining none => spawnedAll config ++ [.dispatch .ready, .dispatch .supervisorShutdown]
  | .draining (some error) => doneBefore config error ++ [.dispatch .supervisorShutdown]
  | .ended none =>
      spawnedAll config ++
        [.dispatch .ready, .dispatch .supervisorShutdown, .dispatch .supervisorAllStopped]
  | .ended (some error) =>
      doneBefore config error ++
        if error.drains then [.dispatch .supervisorShutdown, .dispatch .supervisorAllStopped] else []

/-- What is raised in the end. -/
def SupervisorStage.raised : SupervisorStage → Option SupervisorError
  | .draining raised | .ended raised => raised
  | .idle | .spawning _ | .spawningH3 _ | .awaiting .. | .watching => none

/-- There is a reason for an error. -/
def Justified (run : SupervisorRun) : SupervisorError → Prop
  | .maxConnections => 0 < config.maxConnections ∧ config.maxConnections < config.workers
  | .spawn worker => worker < config.workers
  | .spawnH3 worker => config.udp = true ∧ worker < config.workers
  | .workerFailed worker detail =>
      ∃ reported, ⟨worker, .error reported⟩ ∈ run.reports ∧
        detail = SupervisorRun.detailOr reported
  -- the workers that are not among them have reported
  | .notReady workers =>
      workers ≠ [] ∧ workers.Pairwise (· < ·) ∧ (∀ worker ∈ workers, worker < config.workers) ∧
        (∀ worker < config.workers, worker ∉ workers → ⟨worker, .serving⟩ ∈ run.reports) ∧
          began + config.startupTimeout ≤ run.clock

/-- What the supervisor does. -/
structure SupervisorLawful (run : SupervisorRun) (acts : List SupervisorAct) : Prop where
  /-- It does things in the order of the ranks, each at most once. -/
  order : acts.Pairwise (SupervisorAct.rank config · < SupervisorAct.rank config ·)
  /-- It leaves nothing out. -/
  done : acts = run.stage.done config
  /-- It says that the server is ready once every worker has reported that it serves. -/
  ready : .dispatch .ready ∈ acts →
    ∀ worker < config.workers, ⟨worker, .serving⟩ ∈ run.reports
  /-- It drains only once `shutdown` has been called, or if it raises an error. -/
  stopped : .dispatch .supervisorShutdown ∈ acts →
    run.shutdownEvent = true ∧ (run.told = true ∨ run.stage.raised.isSome)
  /-- It raises for a reason. -/
  raised : ∀ error, run.stage.raised = some error → Justified config began run error

end Law

/-! ## The invariant -/

section

variable {config : SupervisorConfig} {began : ℚ} {run next : SupervisorRun}
  {acts : List SupervisorAct}

/-- Every worker has reported that it serves. -/
def AllServing (config : SupervisorConfig) (run : SupervisorRun) : Prop :=
  ∀ worker < config.workers, ⟨worker, .serving⟩ ∈ run.reports

/-- What is known in a stage. -/
def Known (config : SupervisorConfig) (began : ℚ) (run : SupervisorRun) : SupervisorStage → Prop
  | .idle => True
  | .spawning next => next < config.workers
  | .spawningH3 next => config.udp = true ∧ next < config.workers
  | .awaiting pending deadline =>
      pending ≠ ∅ ∧ (∀ worker ∈ pending, worker < config.workers) ∧
        (∀ worker < config.workers, worker ∉ pending → ⟨worker, .serving⟩ ∈ run.reports) ∧
          began + config.startupTimeout ≤ deadline
  | .watching => AllServing config run
  | .draining none | .ended none => AllServing config run ∧ run.shutdownEvent = true
  | .draining (some error) =>
      Justified config began run error ∧ error.drains = true ∧ run.shutdownEvent = true
  | .ended (some error) =>
      Justified config began run error ∧ (error.drains = true → run.shutdownEvent = true)

/-- The invariant. -/
structure SupervisorInv (config : SupervisorConfig) (began : ℚ) (run : SupervisorRun)
    (acts : List SupervisorAct) : Prop where
  done : acts = run.stage.done config
  known : Known config began run run.stage
  queued : run.statusQueue ⊆ run.reports
  clock : began ≤ run.clock

/-- Reasons stay reasons. -/
theorem Justified.mono {error : SupervisorError} (hreason : Justified config began run error)
    (hreports : run.reports ⊆ next.reports) (hclock : run.clock ≤ next.clock) :
    Justified config began next error := by
  cases error with
  | maxConnections | spawn | spawnH3 => exact hreason
  | workerFailed worker detail =>
      obtain ⟨reported, hmem, hdetail⟩ := hreason
      exact ⟨reported, hreports hmem, hdetail⟩
  | notReady workers =>
      obtain ⟨hne, hsorted, hworkers, hserving, hdeadline⟩ := hreason
      exact ⟨hne, hsorted, hworkers, fun worker hlt hnot => hreports (hserving worker hlt hnot),
        hdeadline.trans hclock⟩

/-- What is known stays known. -/
theorem Known.mono {stage : SupervisorStage} (hknown : Known config began run stage)
    (hreports : run.reports ⊆ next.reports) (hclock : run.clock ≤ next.clock)
    (hshutdown : run.shutdownEvent = true → next.shutdownEvent = true) :
    Known config began next stage := by
  have hserving (hall : AllServing config run) : AllServing config next :=
    fun worker hlt => hreports (hall worker hlt)
  cases stage with
  | idle | spawning | spawningH3 => exact hknown
  | awaiting pending deadline =>
      obtain ⟨hne, hworkers, hheard, hdeadline⟩ := hknown
      exact ⟨hne, hworkers, fun worker hlt hnot => hreports (hheard worker hlt hnot), hdeadline⟩
  | watching => exact hserving hknown
  | draining raised =>
      cases raised with
      | none => exact ⟨hserving hknown.1, hshutdown hknown.2⟩
      | some error => exact ⟨hknown.1.mono hreports hclock, hknown.2.1, hshutdown hknown.2.2⟩
  | ended raised =>
      cases raised with
      | none => exact ⟨hserving hknown.1, hshutdown hknown.2⟩
      | some error =>
          exact ⟨hknown.1.mono hreports hclock, fun hdrains => hshutdown (hknown.2 hdrains)⟩

theorem spawned_succ (count : ℕ) :
    spawned config (count + 1) = spawned config count ++ [.spawn count] := by
  rw [spawned, List.range_succ, List.map_append]
  rfl

theorem spawnedH3_succ (count : ℕ) :
    spawnedH3 config (count + 1) = spawnedH3 config count ++ [.spawnH3 count] := by
  rw [spawnedH3, List.range_succ, List.map_append, ← List.append_assoc]
  rfl

namespace SupervisorInv

/-- The supervisor stays where it is. -/
theorem frame (hinv : SupervisorInv config began run acts) (hstage : next.stage = run.stage)
    (hreports : run.reports ⊆ next.reports) (hqueue : next.statusQueue ⊆ next.reports)
    (hclock : run.clock ≤ next.clock)
    (hshutdown : run.shutdownEvent = true → next.shutdownEvent = true) :
    SupervisorInv config began next (acts ++ []) where
  done := by
    rw [List.append_nil, hstage]
    exact hinv.done
  known := by
    rw [hstage]
    exact hinv.known.mono hreports hclock hshutdown
  queued := hqueue
  clock := hinv.clock.trans hclock

/-- The supervisor goes on to another stage. -/
theorem advance (hinv : SupervisorInv config began run acts) {stage : SupervisorStage}
    {more : List SupervisorAct} (hdone : run.stage.done config ++ more = stage.done config)
    (hknown : Known config began run stage) :
    SupervisorInv config began { run with stage } (acts ++ more) where
  done := by
    rw [hinv.done]
    exact hdone
  known := hknown.mono (List.Subset.refl _) le_rfl id
  queued := hinv.queued
  clock := hinv.clock

/-- The supervisor is told to stop. -/
theorem shutdown (hinv : SupervisorInv config began run acts) :
    SupervisorInv config began { run with shutdownEvent := true } acts := by
  rw [← List.append_nil acts]
  exact hinv.frame rfl (List.Subset.refl _) hinv.queued le_rfl fun _ => rfl

/-- It starts to drain. -/
theorem startDrain (hinv : SupervisorInv config began run acts) (raised : Option SupervisorError)
    (hdone : run.stage.done config ++ [.dispatch .supervisorShutdown] =
      (SupervisorStage.draining raised).done config)
    (hknown : Known config began { run with shutdownEvent := true } (.draining raised)) :
    SupervisorInv config began (run.startDrain raised).1 (acts ++ (run.startDrain raised).2) :=
  hinv.shutdown.advance hdone hknown

/-- `run` is called. -/
theorem start (hinv : SupervisorInv config began run acts) (hidle : run.stage = .idle) :
    SupervisorInv config began (run.start config).1 (acts ++ (run.start config).2) := by
  rw [SupervisorRun.start]
  split
  case isTrue hmax =>
    refine hinv.advance ?_ ⟨hmax, fun hdrains => by cases hdrains⟩
    rw [hidle]
    rfl
  case isFalse =>
    refine hinv.advance ?_ config.workers_pos
    rw [hidle]
    rfl

/-- The wait for the reports begins. -/
theorem known_await (hinv : SupervisorInv config began run acts) :
    Known config began run (run.await config) := by
  refine ⟨?_, fun worker hmem => Finset.mem_range.mp hmem, ?_, ?_⟩
  · rw [Finset.nonempty_iff_ne_empty.symm, Finset.nonempty_range_iff]
    exact config.workers_pos.ne'
  · intro worker hlt hnot
    exact absurd (Finset.mem_range.mpr hlt) hnot
  · have hclock := hinv.clock
    gcongr

variable {taken : SupervisorRun × List SupervisorAct}

/-- A worker is spawned, or not. -/
theorem spawn (hinv : SupervisorInv config began run acts) {succeeds : Bool}
    (hspawn : run.spawn config succeeds = some taken) :
    SupervisorInv config began taken.1 (acts ++ taken.2) := by
  have hknown := hinv.known
  have hawait := hinv.known_await
  rw [SupervisorRun.spawn] at hspawn
  cases hstage : run.stage with
  | idle | awaiting | watching | draining | ended => simp [hstage] at hspawn
  | spawning worker =>
      simp only [hstage] at hspawn hknown
      have hworker : worker < config.workers := hknown
      cases succeeds with
      | false =>
          obtain rfl := Option.some.inj hspawn
          refine hinv.advance ?_ ⟨hworker, fun hdrains => by cases hdrains⟩
          rw [hstage]
          rfl
      | true =>
          obtain rfl := Option.some.inj hspawn
          have hall : worker + 1 = config.workers →
              spawned config worker ++ [.spawn worker] = spawned config config.workers :=
            fun hlast => by rw [← spawned_succ, hlast]
          refine hinv.advance ?_ ?_
          · rw [hstage]
            split_ifs with hmore hudp
            · exact (spawned_succ worker).symm
            · rw [SupervisorStage.done, hall (by omega), SupervisorStage.done, spawnedH3]
              simp
            · rw [SupervisorStage.done, hall (by omega), SupervisorRun.await, SupervisorStage.done,
                spawnedAll, if_neg hudp]
          · split_ifs with hmore hudp
            · exact hmore
            · exact ⟨hudp, config.workers_pos⟩
            · exact hawait
  | spawningH3 worker =>
      simp only [hstage] at hspawn hknown
      obtain ⟨hudp, hworker⟩ := hknown
      cases succeeds with
      | false =>
          obtain rfl := Option.some.inj hspawn
          refine hinv.advance ?_ ⟨⟨hudp, hworker⟩, fun hdrains => by cases hdrains⟩
          rw [hstage]
          rfl
      | true =>
          obtain rfl := Option.some.inj hspawn
          refine hinv.advance ?_ ?_
          · rw [hstage]
            split_ifs with hmore
            · exact (spawnedH3_succ worker).symm
            · have hlast : worker + 1 = config.workers := by omega
              rw [SupervisorStage.done, ← spawnedH3_succ, hlast, SupervisorRun.await,
                SupervisorStage.done, spawnedAll, if_pos hudp]
          · split_ifs with hmore
            · exact ⟨hudp, hmore⟩
            · exact hawait

/-- A report is taken. -/
theorem take (hinv : SupervisorInv config began run acts) {pending : Finset ℕ} {deadline : ℚ}
    (hstage : run.stage = .awaiting pending deadline) {report : WorkerReport}
    (hreport : report ∈ run.reports) :
    SupervisorInv config began (run.take pending deadline report).1
      (acts ++ (run.take pending deadline report).2) := by
  have hknown := hinv.known
  rw [hstage] at hknown
  obtain ⟨hne, hworkers, hheard, hdeadline⟩ := hknown
  obtain ⟨reporter, status⟩ := report
  rw [SupervisorRun.take]
  cases status with
  | other =>
      exact hinv.frame rfl (List.Subset.refl _) hinv.queued le_rfl id
  | error detail =>
      refine hinv.startDrain _ ?_ ⟨⟨detail, hreport, rfl⟩, rfl, rfl⟩
      rw [hstage]
      rfl
  | serving =>
      have hserving : ∀ worker < config.workers, worker ∉ pending.erase reporter →
          ⟨worker, .serving⟩ ∈ run.reports := by
        intro worker hlt hnot
        by_cases heq : worker = reporter
        case pos =>
          rw [heq]
          exact hreport
        case neg => exact hheard worker hlt fun hmem => hnot (Finset.mem_erase.mpr ⟨heq, hmem⟩)
      simp only [SupervisorRun.heard]
      split
      case isTrue hempty =>
        refine hinv.advance ?_ fun worker hlt => hserving worker hlt (by simp [hempty])
        rw [hstage]
        rfl
      case isFalse hleft =>
        refine hinv.advance ?_ ⟨hleft, ?_, hserving, hdeadline⟩
        · rw [hstage]
          exact List.append_nil _
        · exact fun worker hmem => hworkers worker (Finset.mem_of_mem_erase hmem)

/-- The next report is read. -/
theorem poll (hinv : SupervisorInv config began run acts) {worker : ℕ}
    (hpoll : run.poll config worker = some taken) :
    SupervisorInv config began taken.1 (acts ++ taken.2) := by
  have hread {statusQueue : List WorkerReport} (hsub : statusQueue ⊆ run.statusQueue) :
      SupervisorInv config began { run with statusQueue } acts := by
    rw [← List.append_nil acts]
    exact hinv.frame rfl (List.Subset.refl _) (List.Subset.trans hsub hinv.queued) le_rfl id
  rw [SupervisorRun.poll] at hpoll
  split at hpoll
  case h_2 => cases hpoll
  case h_1 pending deadline hstage =>
    split at hpoll
    case isTrue =>
      obtain ⟨_, hpoll⟩ := Option.ite_none_right_eq_some.mp hpoll
      obtain ⟨report, hfind, rfl⟩ := Option.map_eq_some_iff.mp hpoll
      exact (hread (List.erase_subset)).take hstage (hinv.queued (List.mem_of_find?_eq_some hfind))
    case isFalse =>
      split at hpoll
      case h_1 => cases hpoll
      case h_2 report statusQueue hqueue =>
        obtain rfl := Option.some.inj hpoll
        have hmem : report ∈ run.statusQueue := by simp [hqueue]
        have hsub : statusQueue ⊆ run.statusQueue := by simp [hqueue]
        exact (hread hsub).take hstage (hinv.queued hmem)

/-- The deadline has passed. -/
theorem giveUp (hinv : SupervisorInv config began run acts) (hgiveUp : run.giveUp = some taken) :
    SupervisorInv config began taken.1 (acts ++ taken.2) := by
  have hknown := hinv.known
  rw [SupervisorRun.giveUp] at hgiveUp
  cases hstage : run.stage with
  | idle | spawning | spawningH3 | watching | draining | ended => simp [hstage] at hgiveUp
  | awaiting pending deadline =>
      simp only [hstage] at hgiveUp hknown
      obtain ⟨hpassed, rfl⟩ := Machine.of_guard hgiveUp
      obtain ⟨hne, hworkers, hheard, hdeadline⟩ := hknown
      refine hinv.startDrain _ ?_ ⟨⟨?_, ?_, ?_, ?_, hdeadline.trans hpassed⟩, rfl, rfl⟩
      · rw [hstage]
        rfl
      · intro hnil
        refine hne (Finset.eq_empty_of_forall_notMem fun worker hmem => ?_)
        rw [← Finset.mem_sort (· ≤ ·), hnil] at hmem
        cases hmem
      · exact Finset.sortedLT_sort pending |>.pairwise
      · exact fun worker hmem => hworkers worker ((Finset.mem_sort _).mp hmem)
      · exact fun worker hlt hnot => hheard worker hlt fun hmem => hnot ((Finset.mem_sort _).mpr hmem)

/-- The drain is over. -/
theorem joined (hinv : SupervisorInv config began run acts) (hjoined : run.joined = some taken) :
    SupervisorInv config began taken.1 (acts ++ taken.2) := by
  have hknown := hinv.known
  rw [SupervisorRun.joined] at hjoined
  cases hstage : run.stage with
  | idle | spawning | spawningH3 | awaiting | watching | ended => simp [hstage] at hjoined
  | draining raised =>
      simp only [hstage] at hjoined hknown
      obtain rfl := Option.some.inj hjoined
      cases raised with
      | none =>
          refine hinv.advance ?_ hknown
          rw [hstage]
          exact List.append_assoc _ _ _
      | some error =>
          obtain ⟨hreason, hdrains, hshutdown⟩ := hknown
          refine hinv.advance ?_ ⟨hreason, fun _ => hshutdown⟩
          rw [hstage, SupervisorStage.done, SupervisorStage.done, if_pos hdrains, List.append_assoc]
          rfl

/-- Every step keeps the invariant. -/
theorem step (hinv : SupervisorInv config began run acts) {action : SupervisorAction}
    (hstep : run.step config action = some taken) :
    SupervisorInv config began taken.1 (acts ++ taken.2) := by
  cases action with
  | tick elapsed =>
      obtain ⟨helapsed, rfl⟩ := Machine.of_guard hstep
      exact hinv.frame rfl (List.Subset.refl _) hinv.queued (le_add_of_nonneg_right helapsed) id
  | shutdown =>
      obtain rfl := Option.some.inj hstep
      exact hinv.frame rfl (List.Subset.refl _) hinv.queued le_rfl fun _ => rfl
  | run =>
      obtain ⟨hidle, hstart⟩ := Option.ite_none_right_eq_some.mp hstep
      obtain rfl := Option.some.inj hstart
      exact hinv.start hidle
  | spawn succeeds => exact hinv.spawn hstep
  | report report =>
      obtain rfl := Option.some.inj hstep
      refine hinv.frame rfl (List.subset_append_left _ _) ?_ le_rfl id
      exact List.append_subset.mpr ⟨List.Subset.trans hinv.queued (List.subset_append_left _ _),
        List.subset_append_right _ _⟩
  | poll worker => exact hinv.poll hstep
  | giveUp => exact hinv.giveUp hstep
  | drain =>
      obtain ⟨⟨hstage, _⟩, rfl⟩ := Machine.of_guard hstep
      have hknown := hinv.known
      rw [hstage] at hknown
      refine hinv.startDrain _ ?_ ⟨hknown, rfl⟩
      rw [hstage]
      exact List.append_assoc _ _ _
  | joined => exact hinv.joined hstep

end SupervisorInv

/-! ## Why it drains -/

/-- The event is set only where `shutdown` has been called, or an error is raised. -/
def Told (run : SupervisorRun) : Prop :=
  run.shutdownEvent = true → run.told = true ∨ run.stage.raised.isSome

namespace Told

variable {taken : SupervisorRun × List SupervisorAct}

/-- Where nothing is raised yet, the event stays as it is. -/
theorem frame (htold : Told run) (hraised : run.stage.raised = none)
    (hevent : next.shutdownEvent = run.shutdownEvent) (hsame : next.told = run.told) : Told next := by
  intro hset
  rw [hevent] at hset
  rw [hsame]
  exact .inl ((htold hset).resolve_right (by simp [hraised]))

/-- It drains to raise an error. -/
theorem startDrain (error : SupervisorError) : Told (run.startDrain (some error)).1 :=
  fun _ => .inr rfl

theorem take (htold : Told run) {pending : Finset ℕ} {deadline : ℚ}
    (hraised : run.stage.raised = none) (report : WorkerReport) :
    Told (run.take pending deadline report).1 := by
  rw [SupervisorRun.take]
  split
  case h_1 =>
    rw [SupervisorRun.heard]
    split <;> exact htold.frame hraised rfl rfl
  case h_2 => exact startDrain _
  case h_3 => exact htold

theorem poll (htold : Told run) {worker : ℕ} (hpoll : run.poll config worker = some taken) :
    Told taken.1 := by
  rw [SupervisorRun.poll] at hpoll
  split at hpoll
  case h_2 => cases hpoll
  case h_1 pending deadline hstage =>
    have hraised (statusQueue : List WorkerReport) :
        ({ run with statusQueue } : SupervisorRun).stage.raised = none := by
      show run.stage.raised = none
      rw [hstage]
      rfl
    have hqueue (statusQueue : List WorkerReport) : Told { run with statusQueue } := htold
    split at hpoll
    case isTrue =>
      obtain ⟨_, hpoll⟩ := Option.ite_none_right_eq_some.mp hpoll
      obtain ⟨report, _, rfl⟩ := Option.map_eq_some_iff.mp hpoll
      exact (hqueue _).take (hraised _) report
    case isFalse =>
      split at hpoll
      case h_1 => cases hpoll
      case h_2 report statusQueue _ =>
        obtain rfl := Option.some.inj hpoll
        exact (hqueue _).take (hraised _) report

/-- No worker is spawned where something is raised. -/
theorem spawn (htold : Told run) {succeeds : Bool}
    (hspawn : run.spawn config succeeds = some taken) : Told taken.1 := by
  have hraised : run.stage.raised = none := by
    rw [SupervisorRun.spawn] at hspawn
    cases hstage : run.stage with
    | idle | spawning | spawningH3 | awaiting | watching => rfl
    | draining | ended => simp [hstage] at hspawn
  have hframe : taken.1.shutdownEvent = run.shutdownEvent ∧ taken.1.told = run.told := by
    rw [SupervisorRun.spawn] at hspawn
    split at hspawn
    case h_3 => cases hspawn
    case h_1 | h_2 =>
      split at hspawn <;>
      · obtain rfl := Option.some.inj hspawn
        exact ⟨rfl, rfl⟩
  exact htold.frame hraised hframe.1 hframe.2

theorem step (htold : Told run) {action : SupervisorAction}
    (hstep : run.step config action = some taken) : Told taken.1 := by
  cases action with
  | tick elapsed =>
      obtain ⟨_, rfl⟩ := Machine.of_guard hstep
      exact htold
  | shutdown =>
      obtain rfl := Option.some.inj hstep
      exact fun _ => .inl rfl
  | report =>
      obtain rfl := Option.some.inj hstep
      exact htold
  | run =>
      obtain ⟨hidle, hstart⟩ := Option.ite_none_right_eq_some.mp hstep
      obtain rfl := Option.some.inj hstart
      have hraised : run.stage.raised = none := by rw [hidle, SupervisorStage.raised]
      rw [SupervisorRun.start]
      split <;> exact htold.frame hraised rfl rfl
  | spawn succeeds => exact htold.spawn hstep
  | poll worker => exact htold.poll hstep
  | giveUp =>
      change run.giveUp = some taken at hstep
      rw [SupervisorRun.giveUp] at hstep
      split at hstep
      case h_2 => cases hstep
      case h_1 =>
        obtain ⟨_, rfl⟩ := Machine.of_guard hstep
        exact startDrain _
  | drain =>
      obtain ⟨⟨hstage, hset⟩, rfl⟩ := Machine.of_guard hstep
      have hraised : run.stage.raised = none := by rw [hstage, SupervisorStage.raised]
      exact fun _ => .inl ((htold hset).resolve_right (by simp [hraised]))
  | joined =>
      change run.joined = some taken at hstep
      rw [SupervisorRun.joined] at hstep
      split at hstep
      case h_2 => cases hstep
      case h_1 raised hstage =>
        obtain rfl := Option.some.inj hstep
        intro hset
        have hsame := htold hset
        rw [hstage] at hsame
        exact hsame

end Told

/-! ## The order of what is done -/

/-- The acts up to a stage have ranks below its position. -/
def SupervisorStage.position (config : SupervisorConfig) : SupervisorStage → ℕ
  | .idle => 0
  | .spawning next => 1 + next
  | .spawningH3 next => 1 + config.workers + next
  | .awaiting .. => 1 + 2 * config.workers
  | .watching => 2 + 2 * config.workers
  | .draining _ => 3 + 2 * config.workers
  | .ended _ => 4 + 2 * config.workers

namespace SupervisorInv

variable {taken : SupervisorRun × List SupervisorAct}

/-- Draining comes after all that is done before. -/
theorem startDrain_ascending (raised : Option SupervisorError)
    (hle : run.stage.position config ≤ 2 + 2 * config.workers) :
    Ascending (SupervisorAct.rank config) (run.stage.position config)
      ((run.startDrain raised).1.stage.position config) (run.startDrain raised).2 :=
  .singleton hle (show 2 + 2 * config.workers < 3 + 2 * config.workers by omega)

theorem start_ascending (hidle : run.stage = .idle) :
    Ascending (SupervisorAct.rank config) (run.stage.position config)
      ((run.start config).1.stage.position config) (run.start config).2 := by
  rw [hidle, SupervisorRun.start]
  split
  case isTrue => exact .nil (Nat.zero_le _)
  case isFalse => exact .singleton le_rfl Nat.zero_lt_one

theorem spawn_ascending (hinv : SupervisorInv config began run acts) {succeeds : Bool}
    (hspawn : run.spawn config succeeds = some taken) :
    Ascending (SupervisorAct.rank config) (run.stage.position config)
      (taken.1.stage.position config) taken.2 := by
  have hknown := hinv.known
  rw [SupervisorRun.spawn] at hspawn
  cases hstage : run.stage with
  | idle | awaiting | watching | draining | ended => simp [hstage] at hspawn
  | spawning worker =>
      simp only [hstage] at hspawn hknown
      have hworker : worker < config.workers := hknown
      cases succeeds with
      | false =>
          obtain rfl := Option.some.inj hspawn
          refine .nil ?_
          simp only [SupervisorStage.position]
          omega
      | true =>
          obtain rfl := Option.some.inj hspawn
          refine .singleton le_rfl ?_
          simp only [SupervisorAct.rank]
          split_ifs <;> simp only [SupervisorRun.await, SupervisorStage.position] <;> omega
  | spawningH3 worker =>
      simp only [hstage] at hspawn hknown
      obtain ⟨_, hworker⟩ := hknown
      cases succeeds with
      | false =>
          obtain rfl := Option.some.inj hspawn
          refine .nil ?_
          simp only [SupervisorStage.position]
          omega
      | true =>
          obtain rfl := Option.some.inj hspawn
          refine .singleton le_rfl ?_
          simp only [SupervisorAct.rank]
          split_ifs <;> simp only [SupervisorRun.await, SupervisorStage.position] <;> omega

theorem take_ascending {pending : Finset ℕ} {deadline : ℚ}
    (hstage : run.stage = .awaiting pending deadline) (report : WorkerReport) :
    Ascending (SupervisorAct.rank config) (run.stage.position config)
      ((run.take pending deadline report).1.stage.position config)
      (run.take pending deadline report).2 := by
  have hposition : run.stage.position config = 1 + 2 * config.workers := by
    rw [hstage]
    rfl
  rw [SupervisorRun.take]
  split
  case h_1 =>
    rw [SupervisorRun.heard]
    split
    case isTrue =>
      refine .singleton hposition.le ?_
      simp only [SupervisorAct.rank, SupervisorStage.position]
      omega
    case isFalse => exact .nil hposition.le
  case h_2 => exact startDrain_ascending _ (hposition.le.trans (by omega))
  case h_3 => exact .nil le_rfl

theorem poll_ascending {worker : ℕ} (hpoll : run.poll config worker = some taken) :
    Ascending (SupervisorAct.rank config) (run.stage.position config)
      (taken.1.stage.position config) taken.2 := by
  rw [SupervisorRun.poll] at hpoll
  split at hpoll
  case h_2 => cases hpoll
  case h_1 pending deadline hstage =>
    have htake (statusQueue : List WorkerReport) (report : WorkerReport) :
        Ascending (SupervisorAct.rank config) (run.stage.position config)
          (({ run with statusQueue }.take pending deadline report).1.stage.position config)
          ({ run with statusQueue }.take pending deadline report).2 := by
      have hsame : ({ run with statusQueue } : SupervisorRun).stage = .awaiting pending deadline :=
        hstage
      exact take_ascending hsame report
    split at hpoll
    case isTrue =>
      obtain ⟨_, hpoll⟩ := Option.ite_none_right_eq_some.mp hpoll
      obtain ⟨report, _, rfl⟩ := Option.map_eq_some_iff.mp hpoll
      exact htake (run.statusQueue.erase report) report
    case isFalse =>
      split at hpoll
      case h_1 => cases hpoll
      case h_2 report statusQueue _ =>
        obtain rfl := Option.some.inj hpoll
        exact htake statusQueue report

/-- The supervisor does things in order. -/
theorem step_ascending (hinv : SupervisorInv config began run acts) {action : SupervisorAction}
    (hstep : run.step config action = some taken) :
    Ascending (SupervisorAct.rank config) (run.stage.position config)
      (taken.1.stage.position config) taken.2 := by
  cases action with
  | tick elapsed =>
      obtain ⟨_, rfl⟩ := Machine.of_guard hstep
      exact .nil le_rfl
  | shutdown | report =>
      obtain rfl := Option.some.inj hstep
      exact .nil le_rfl
  | run =>
      obtain ⟨hidle, hstart⟩ := Option.ite_none_right_eq_some.mp hstep
      obtain rfl := Option.some.inj hstart
      exact start_ascending hidle
  | spawn succeeds => exact hinv.spawn_ascending hstep
  | poll worker => exact poll_ascending hstep
  | giveUp =>
      change run.giveUp = some taken at hstep
      rw [SupervisorRun.giveUp] at hstep
      split at hstep
      case h_2 => cases hstep
      case h_1 pending deadline hstage =>
        obtain ⟨_, rfl⟩ := Machine.of_guard hstep
        refine startDrain_ascending _ ?_
        rw [hstage, SupervisorStage.position]
        omega
  | drain =>
      obtain ⟨⟨hstage, _⟩, rfl⟩ := Machine.of_guard hstep
      refine startDrain_ascending _ ?_
      rw [hstage, SupervisorStage.position]
  | joined =>
      change run.joined = some taken at hstep
      rw [SupervisorRun.joined] at hstep
      split at hstep
      case h_2 => cases hstep
      case h_1 raised hstage =>
        obtain rfl := Option.some.inj hstep
        rw [hstage]
        refine .singleton le_rfl ?_
        simp only [SupervisorAct.rank, SupervisorStage.position]
        omega

end SupervisorInv

theorem supervisor_invariant {recorded : Machine.Recorded SupervisorRun SupervisorAct}
    (hreach : (supervisorEmitter config began).machine.Reachable recorded) :
    SupervisorInv config began recorded.state recorded.history := by
  refine Emitter.invariant (SupervisorInv config began) ?_ ?_ hreach
  · rintro run rfl
    exact ⟨rfl, trivial, List.Subset.refl _, le_rfl⟩
  · intro run acts action next more hinv hstep
    exact hinv.step hstep

theorem supervisor_ascending {recorded : Machine.Recorded SupervisorRun SupervisorAct}
    (hreach : (supervisorEmitter config began).machine.Reachable recorded) :
    Ascending (SupervisorAct.rank config) 0 (recorded.state.stage.position config)
      recorded.history := by
  refine Emitter.ascending (fun run => run.stage.position config)
    (fun run => ∃ acts, SupervisorInv config began run acts) ?_ ?_ ?_ hreach
  · exact fun recorded hreach => ⟨_, supervisor_invariant hreach⟩
  · exact fun _ _ => Nat.zero_le _
  · rintro run action next events ⟨acts, hinv⟩ hstep
    exact hinv.step_ascending hstep

/-! ## What is kept -/

/-- What has been spawned before is no report of the supervisor on itself. -/
theorem not_mem_doneBefore (config : SupervisorConfig) {action : ServerAction} (error : SupervisorError)
    (hready : action = .ready ∨ action = .supervisorShutdown) :
    .dispatch action ∉ doneBefore config error ∧ .dispatch action ∉ spawnedAll config := by
  have hspawned (count : ℕ) : .dispatch action ∉ spawned config count := by
    rcases hready with rfl | rfl <;> simp [spawned]
  have hspawnedH3 (count : ℕ) : .dispatch action ∉ spawnedH3 config count := by
    simp [spawnedH3, hspawned]
  have hall : .dispatch action ∉ spawnedAll config := by
    rw [spawnedAll]
    split <;> simp [hspawned, hspawnedH3]
  refine ⟨?_, hall⟩
  cases error with
  | maxConnections => simp [doneBefore]
  | spawn worker => exact hspawned worker
  | spawnH3 worker => exact hspawnedH3 worker
  | workerFailed | notReady => exact hall

/-- The server is said to be ready where every worker has reported. -/
theorem SupervisorInv.ready (hinv : SupervisorInv config began run acts)
    (hmem : .dispatch .ready ∈ acts) : AllServing config run := by
  have hknown := hinv.known
  have hnot (error : SupervisorError) := not_mem_doneBefore config error (.inl rfl)
  rw [hinv.done] at hmem
  cases hstage : run.stage with
  | idle => simp [hstage, SupervisorStage.done] at hmem
  | spawning next =>
      rw [hstage] at hmem
      exact absurd hmem (hnot (.spawn next)).1
  | spawningH3 next =>
      rw [hstage] at hmem
      exact absurd hmem (hnot (.spawnH3 next)).1
  | awaiting =>
      rw [hstage] at hmem
      exact absurd hmem (hnot .maxConnections).2
  | watching =>
      rw [hstage] at hknown
      exact hknown
  | draining raised =>
      rw [hstage] at hmem hknown
      cases raised with
      | none => exact hknown.1
      | some error => simp [SupervisorStage.done, (hnot error).1] at hmem
  | ended raised =>
      rw [hstage] at hmem hknown
      cases raised with
      | none => exact hknown.1
      | some error =>
          simp only [SupervisorStage.done, List.mem_append, (hnot error).1, false_or] at hmem
          split at hmem <;> simp at hmem

/-- It drains where it is told to stop. -/
theorem SupervisorInv.stopped (hinv : SupervisorInv config began run acts)
    (hmem : .dispatch .supervisorShutdown ∈ acts) : run.shutdownEvent = true := by
  have hknown := hinv.known
  have hnot (error : SupervisorError) := not_mem_doneBefore config error (.inr rfl)
  rw [hinv.done] at hmem
  cases hstage : run.stage with
  | idle => simp [hstage, SupervisorStage.done] at hmem
  | spawning next =>
      rw [hstage] at hmem
      exact absurd hmem (hnot (.spawn next)).1
  | spawningH3 next =>
      rw [hstage] at hmem
      exact absurd hmem (hnot (.spawnH3 next)).1
  | awaiting =>
      rw [hstage] at hmem
      exact absurd hmem (hnot .maxConnections).2
  | watching => simp [hstage, SupervisorStage.done, (hnot .maxConnections).2] at hmem
  | draining raised =>
      rw [hstage] at hknown
      cases raised with
      | none => exact hknown.2
      | some error => exact hknown.2.2
  | ended raised =>
      rw [hstage] at hmem hknown
      cases raised with
      | none => exact hknown.2
      | some error =>
          refine hknown.2 ?_
          by_contra hdrains
          simp [SupervisorStage.done, (hnot error).1, hdrains] at hmem

theorem SupervisorInv.lawful (hinv : SupervisorInv config began run acts) (htold : Told run)
    (horder : acts.Pairwise (SupervisorAct.rank config · < SupervisorAct.rank config ·)) :
    SupervisorLawful config began run acts where
  order := horder
  done := hinv.done
  ready := hinv.ready
  stopped hmem := ⟨hinv.stopped hmem, htold (hinv.stopped hmem)⟩
  raised error hraised := by
    have hknown := hinv.known
    cases hstage : run.stage with
    | idle | spawning | spawningH3 | awaiting | watching =>
        rw [hstage] at hraised
        cases hraised
    | draining raised | ended raised =>
        rw [hstage] at hknown hraised
        obtain rfl : raised = some error := hraised
        exact hknown.1

theorem supervisor_told {recorded : Machine.Recorded SupervisorRun SupervisorAct}
    (hreach : (supervisorEmitter config began).machine.Reachable recorded) :
    Told recorded.state := by
  refine Emitter.invariant (fun run _ => Told run) ?_ ?_ hreach
  · rintro run rfl hset
    cases hset
  · intro run acts action next more htold hstep
    exact htold.step hstep

end

/-- Two workers. -/
def twoWorkers : SupervisorConfig where
  workers := 2
  workers_pos := Nat.two_pos
  udp := true

/-- One of two workers reports, and the other does not. -/
def supervisorRun : List SupervisorAction :=
  [.run, .spawn true, .report ⟨0, .other "starting"⟩, .spawn true, .report ⟨0, .serving⟩, .spawn true,
    .spawn true, .poll 0, .tick 31, .poll 0, .giveUp, .joined]

end Pounce
