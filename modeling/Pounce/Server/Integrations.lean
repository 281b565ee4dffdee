/-
# The application the workers serve

`_apply_integrations` builds the configured composition around the application the
server was given. Every worker is meant to serve that composition around the most
recently imported application, and TLS exactly where a certificate is configured.

The composition is built once. A reload that imports the application again, by the
single worker's loop or by the supervisor in thread mode, puts the bare import in its
place, and a subinterpreter imports the bare application and knows no TLS context.
So the workers serve what they should exactly where neither happens or nothing is
configured that could get lost.
-/

import Pounce.Server

namespace Pounce

open Pounce.Math

variable {α : Type} {env : Environment}

/-! ## The configured composition -/

/-- A layer, if it is enabled. -/
def layerIf (enabled : Bool) (layer : Layer) : List Layer := if enabled then [layer] else []

/-- The configured layers, innermost first. The metrics endpoint counts as configured
where its collector is not displaced by another one. -/
def Server.configured (env : Environment) (server : Server α) : List Layer :=
  let config := server.config
  layerIf (config.metricsEnabled && !config.lifecycleLogging && server.lifecycleCollector.isNone)
      (.metrics config.metricsPath) ++
    layerIf (config.staticFiles ≠ []) (.staticFiles (staticMounts config)) ++
    layerIf (config.middleware ≠ []) (.middleware config.middleware) ++
    layerIf config.rateLimitEnabled
      (.rateLimiter config.rateLimitRequestsPerSecond config.rateLimitBurst
        config.rateLimitMaxTrackedIps) ++
    layerIf config.requestQueueEnabled (.requestQueue config.requestQueueMaxDepth) ++
    layerIf (truthy config.sentryDsn && env.sentryAvailable && env.sentryInitialises) .sentry

namespace Server

variable (server : Server α)

@[simp]
theorem wrapIf_app (enabled : Bool) (layer : Layer) :
    (server.wrapIf enabled layer).app = server.app.wrapAll (layerIf enabled layer) := by
  cases enabled <;> rfl

@[simp]
theorem wrapIf_config (enabled : Bool) (layer : Layer) :
    (server.wrapIf enabled layer).config = server.config := by
  cases enabled <;> rfl

@[simp]
theorem wrapIf_appPath (enabled : Bool) (layer : Layer) :
    (server.wrapIf enabled layer).appPath = server.appPath := by
  cases enabled <;> rfl

@[simp]
theorem wrapIf_sslContext (enabled : Bool) (layer : Layer) :
    (server.wrapIf enabled layer).sslContext = server.sslContext := by
  cases enabled <;> rfl

/-- The two integrations that set the lifecycle collector change nothing else but the
application. -/
theorem applyMetrics_frame :
    let metered := server.applyLifecycleLogging.applyMetrics
    metered.config = server.config ∧ metered.appPath = server.appPath ∧
      metered.sslContext = server.sslContext := by
  simp only [applyMetrics, applyLifecycleLogging]
  split <;> split <;> exact ⟨rfl, rfl, rfl⟩

/-- The metrics endpoint is wrapped around the application where no lifecycle logging
and no collector of the caller comes before it. -/
theorem applyMetrics_app :
    server.applyLifecycleLogging.applyMetrics.app =
      server.app.wrapAll (layerIf (server.config.metricsEnabled && !server.config.lifecycleLogging &&
        server.lifecycleCollector.isNone) (.metrics server.config.metricsPath)) := by
  rw [applyMetrics, applyLifecycleLogging]
  cases hcollector : server.lifecycleCollector with
  | none =>
      cases hlogging : server.config.lifecycleLogging <;>
        cases hmetrics : server.config.metricsEnabled <;>
        simp [hcollector, hmetrics, layerIf, wrap]
  | some collector => simp [hcollector, layerIf]

/-- The integrations build the configured composition. -/
theorem applyIntegrations_app :
    (server.applyIntegrations env).app = server.app.wrapAll (server.configured env) := by
  obtain ⟨hconfig, -, -⟩ := server.applyMetrics_frame
  simp only [applyIntegrations, applySentry, applyRequestQueue, applyRateLimiter, applyMiddleware,
    applyStaticFiles, wrapIf_app, wrapIf_config, hconfig, applyMetrics_app, configured,
    ASGIApp.wrapAll_append]

variable (env) in
/-- The integrations leave the configuration, the path and the TLS context alone. -/
theorem applyIntegrations_frame :
    (server.applyIntegrations env).config = server.config ∧
      (server.applyIntegrations env).appPath = server.appPath ∧
      (server.applyIntegrations env).sslContext = server.sslContext := by
  simpa only [applyIntegrations, applySentry, applyRequestQueue, applyRateLimiter, applyMiddleware,
    applyStaticFiles, wrapIf_config, wrapIf_appPath, wrapIf_sslContext] using
    server.applyMetrics_frame

end Server

namespace Serving

variable {deployment : Deployment α} {state next : Serving α} {reimported : Prop}

/-- Every worker serves the configured composition around the most recently imported
application, and TLS exactly where a certificate is configured. -/
def Composed (env : Environment) (deployment : Deployment α) (state : Serving α) : Prop :=
  ∀ worker ∈ state.workers,
    worker.app = (ASGIApp.imported (state.latest worker)).wrapAll (deployment.server.configured env) ∧
      worker.servesTls = deployment.config.isTlsConfigured

/-- The main interpreter imports the application again. -/
def Action.Reimports (mode : Option WorkerMode) (appPath : Option String) : Action α → Prop
  | .reload imported => truthy appPath ∧ mode = none ∧ imported.isSome
  | .restartWorkers imported _ | .gracefulReload imported _ =>
    truthy appPath ∧ mode = some .thread ∧ imported.isSome
  | .respawn _ _ => False

/-- Nothing configured gets lost: there is no other import than the first where one
would replace the composition, and no subinterpreter. -/
def Intact (env : Environment) (deployment : Deployment α) (actions : List (Action α)) : Prop :=
  match deployment.config.runMode env with
  | none | some .thread =>
    deployment.server.configured env = [] ∨
      ∀ action ∈ actions,
        ¬ action.Reimports (deployment.config.runMode env) deployment.appPath
  | some .process => True
  | some .subinterpreter =>
    deployment.server.configured env = [] ∧ deployment.config.isTlsConfigured = false

/-! ## The invariant -/

/-- A worker was started by the main interpreter with what it holds, or it imported the
application itself. -/
def Started (deployment : Deployment α) (state : Serving α) (worker : Worker α) : Prop :=
  match worker.ownImport with
  | none => worker.app = state.server.app ∧
      worker.servesTls = deployment.config.isTlsConfigured
  | some own => state.mode = some .subinterpreter ∧ worker.app = .imported own ∧
      worker.servesTls = false

/-- What holds as long as the server runs. -/
structure Held (env : Environment) (deployment : Deployment α) (reimported : Prop)
    (state : Serving α) : Prop where
  mode : state.mode = deployment.config.runMode env
  effectiveWorkers : state.effectiveWorkers = deployment.config.resolveWorkers env
  config : state.server.config = deployment.config
  appPath : state.server.appPath = deployment.appPath
  sslContext : state.server.sslContext.isSome = deployment.config.isTlsConfigured
  /-- Until the application is imported again, the composition is what is held. -/
  composed : ¬ reimported →
    state.server.app = deployment.server.app.wrapAll (deployment.server.configured env) ∧
      state.lastImport = deployment.app
  /-- From then on it is the bare application. -/
  bare : reimported → state.server.app = .imported state.lastImport

/-- What holds of the workers as long as the server runs. -/
structure Staffed (deployment : Deployment α) (state : Serving α) : Prop where
  started : ∀ worker ∈ state.workers, Started deployment state worker
  /-- There is a worker of the kind the mode asks for. -/
  present : ∃ worker ∈ state.workers,
    worker.ownImport.isSome ↔ state.mode = some .subinterpreter

theorem started_worker (hheld : Held env deployment reimported state) {kind : ServerKind}
    (hkind : kind = .http3 → state.server.config.listensH3 env) (workerId : ℕ) :
    Started deployment state (state.server.worker kind workerId) := by
  rw [Started, Server.worker]
  refine ⟨rfl, ?_⟩
  cases kind with
  | tcp => simpa using hheld.sslContext
  | asyncPool => simpa using hheld.sslContext
  | http3 =>
      have hlistens := hkind rfl
      rw [hheld.config] at hlistens
      simp only [ServerConfig.listensH3, Bool.and_eq_true] at hlistens
      simp [hlistens.1.1.1.2]

theorem started_spawnWorker (hheld : Held env deployment reimported state) {mode : WorkerMode}
    (hmode : state.mode = some mode) (workerId : ℕ) (own : α) :
    Started deployment state (state.spawnWorker mode workerId own) := by
  rw [spawnWorker]
  split
  case isTrue hsub => exact ⟨hsub ▸ hmode, rfl, rfl⟩
  case isFalse => exact started_worker hheld (fun h => ServerKind.noConfusion h) workerId

theorem ownImport_spawnWorker {mode : WorkerMode} (hmode : state.mode = some mode) (workerId : ℕ)
    (own : α) : (state.spawnWorker mode workerId own).ownImport.isSome ↔
      state.mode = some .subinterpreter := by
  rw [spawnWorker, hmode]
  split
  case isTrue hsub => simp [bootstrap, hsub]
  case isFalse hsub => simp [Server.worker, hsub]

theorem started_h3Workers (hheld : Held env deployment reimported state) {worker : Worker α}
    (hworker : worker ∈ state.h3Workers env) : Started deployment state worker := by
  rw [h3Workers] at hworker
  split at hworker
  case isTrue hlistens =>
    obtain ⟨workerId, -, rfl⟩ := List.mem_map.mp hworker
    exact started_worker hheld (fun _ => hlistens) workerId
  case isFalse => exact absurd hworker (List.not_mem_nil)

theorem held_congr {before after : Prop} (hiff : before ↔ after)
    (hheld : Held env deployment before state) : Held env deployment after state := by
  rwa [← propext hiff]

/-- Replacing workers touches nothing that is held. -/
theorem held_workers (hheld : Held env deployment reimported state) (workers : List (Worker α)) :
    Held env deployment reimported { state with workers := workers } :=
  { mode := hheld.mode
    effectiveWorkers := hheld.effectiveWorkers
    config := hheld.config
    appPath := hheld.appPath
    sslContext := hheld.sslContext
    composed := hheld.composed
    bare := hheld.bare }

/-- Workers that are all started afresh are as they should be. -/
theorem staffed_replaceAll (hheld : Held env deployment reimported state) (own : ℕ → α) :
    Staffed deployment (state.replaceAll env own) := by
  have hpos : 0 < state.effectiveWorkers := by
    rw [hheld.effectiveWorkers]
    exact deployment.config.resolveWorkers_pos env
  refine ⟨?_, ?_⟩
  · intro worker hworker
    change worker ∈ state.respawned env own at hworker
    change Started deployment state worker
    rw [respawned] at hworker
    split at hworker
    case h_1 =>
      rcases List.mem_cons.mp hworker with rfl | hh3
      · exact started_worker hheld (fun h => ServerKind.noConfusion h) 0
      · exact started_h3Workers hheld hh3
    case h_2 mode hmode =>
      rw [List.mem_append, List.mem_append] at hworker
      rcases hworker with (hpool | htcp) | hh3
      · rw [asyncPool] at hpool
        split at hpool
        case isTrue =>
          obtain rfl := List.mem_singleton.mp hpool
          exact started_worker hheld (fun h => ServerKind.noConfusion h) 0
        case isFalse => exact absurd hpool (List.not_mem_nil)
      · obtain ⟨workerId, -, rfl⟩ := List.mem_map.mp htcp
        exact started_spawnWorker hheld hmode workerId _
      · exact started_h3Workers hheld hh3
  · change ∃ worker ∈ state.respawned env own, worker.ownImport.isSome ↔
      state.mode = some .subinterpreter
    rw [respawned]
    cases hmode : state.mode with
    | none => exact ⟨_, List.mem_cons_self, by simp [Server.worker]⟩
    | some mode =>
        refine ⟨state.spawnWorker mode 0 (own 0), ?_, ?_⟩
        · apply List.mem_append_left
          apply List.mem_append_right
          exact List.mem_map.mpr ⟨0, List.mem_range.mpr hpos, rfl⟩
        · rw [← hmode]
          exact ownImport_spawnWorker hmode 0 (own 0)

/-- An import that succeeds replaces what is held by the bare application. -/
theorem reimport_some (hpath : truthy state.server.appPath) (app : α) :
    state.reimport (some app) =
      { state with
        server := { state.server with app := .imported app }
        lastImport := app } := by
  simp [reimport, Server.reimport, hpath]

/-- Without an import, or one that succeeds, nothing changes. -/
theorem reimport_eq_self {imported : Option α}
    (hkeep : ¬ (truthy state.server.appPath ∧ imported.isSome)) :
    state.reimport imported = state := by
  cases hpath : truthy state.server.appPath with
  | false => simp [reimport, Server.reimport, hpath]
  | true =>
      cases imported with
      | none => simp [reimport, Server.reimport, hpath]
      | some app => exact absurd ⟨hpath, rfl⟩ hkeep

theorem held_reimport (hheld : Held env deployment reimported state) (imported : Option α) :
    Held env deployment (reimported ∨ truthy deployment.appPath ∧ imported.isSome)
      (state.reimport imported) := by
  rw [← hheld.appPath]
  by_cases himport : truthy state.server.appPath ∧ imported.isSome
  · obtain ⟨hpath, hsome⟩ := himport
    obtain ⟨app, rfl⟩ := Option.isSome_iff_exists.mp hsome
    rw [reimport_some hpath]
    exact
      { mode := hheld.mode
        effectiveWorkers := hheld.effectiveWorkers
        config := hheld.config
        appPath := hheld.appPath
        sslContext := hheld.sslContext
        composed := fun hnot => absurd (.inr ⟨hpath, rfl⟩) hnot
        bare := fun _ => rfl }
  · rw [reimport_eq_self himport]
    apply held_congr _ hheld
    simp [himport]

/-! ## Every event -/

theorem held_restart (hheld : Held env deployment reimported state) {mode : WorkerMode}
    (hmode : state.mode = some mode) (imported : Option α) (own : ℕ → α) :
    Held env deployment
        (reimported ∨ truthy deployment.appPath ∧ state.mode = some .thread ∧ imported.isSome)
        (state.restart env mode imported own) ∧
      Staffed deployment (state.restart env mode imported own) := by
  rw [restart]
  split
  case isTrue hthread =>
    have hafter := held_reimport hheld imported
    refine ⟨?_, staffed_replaceAll hafter own⟩
    apply held_congr _ (held_workers hafter _)
    simp [hmode, hthread]
  case isFalse hthread =>
    refine ⟨?_, staffed_replaceAll hheld own⟩
    apply held_congr _ (held_workers hheld _)
    simp [hmode, hthread]

theorem held_graceful (hheld : Held env deployment reimported state)
    (hstaffed : Staffed deployment state) {mode : WorkerMode} (hmode : state.mode = some mode)
    (imported : Option α) (own : ℕ → α) :
    Held env deployment
        (reimported ∨ truthy deployment.appPath ∧ state.mode = some .thread ∧ imported.isSome)
        (state.graceful env mode imported own) ∧
      Staffed deployment (state.graceful env mode imported own) := by
  cases mode with
  | process => exact held_restart hheld hmode imported own
  | thread =>
      have hafter := held_reimport hheld imported
      refine ⟨?_, staffed_replaceAll hafter own⟩
      apply held_congr _ (held_workers hafter _)
      simp [hmode]
  | subinterpreter =>
      have hpos : 0 < state.effectiveWorkers := by
        rw [hheld.effectiveWorkers]
        exact deployment.config.resolveWorkers_pos env
      refine ⟨?_, ?_, ?_⟩
      · apply held_congr _ (held_workers hheld _)
        simp [hmode]
      · intro worker hworker
        rcases List.mem_append.mp hworker with htcp | hh3
        · obtain ⟨workerId, -, rfl⟩ := List.mem_map.mp htcp
          exact started_spawnWorker hheld hmode workerId _
        · exact hstaffed.started worker (List.mem_of_mem_filter hh3)
      · refine ⟨state.spawnWorker .subinterpreter 0 (own 0), ?_, ?_⟩
        · apply List.mem_append_left
          exact List.mem_map.mpr ⟨0, List.mem_range.mpr hpos, rfl⟩
        · exact ownImport_spawnWorker hmode 0 (own 0)

/-- What one event keeps. -/
theorem held_step (hheld : Held env deployment reimported state)
    (hstaffed : Staffed deployment state) {action : Action α}
    (hstep : step env state action = some next) :
    Held env deployment
        (reimported ∨ action.Reimports (deployment.config.runMode env) deployment.appPath) next ∧
      Staffed deployment next := by
  rw [← hheld.mode]
  cases action with
  | reload imported =>
      simp only [step] at hstep
      obtain ⟨hsingle, rfl⟩ := Machine.of_guard hstep
      have hafter := held_reimport hheld imported
      refine ⟨?_, staffed_replaceAll hafter _⟩
      apply held_congr _ (held_workers hafter _)
      simp [Action.Reimports, hsingle.1]
  | restartWorkers imported own =>
      obtain ⟨mode, hmode, rfl⟩ := Option.map_eq_some_iff.mp hstep
      exact held_restart hheld hmode imported own
  | gracefulReload imported own =>
      obtain ⟨mode, hmode, rfl⟩ := Option.map_eq_some_iff.mp hstep
      exact held_graceful hheld hstaffed hmode imported own
  | respawn workerId own =>
      simp only [step] at hstep
      split at hstep
      case isTrue =>
        obtain ⟨mode, hmode, rfl⟩ := Option.map_eq_some_iff.mp hstep
        refine ⟨?_, ?_, ?_⟩
        · apply held_congr _ (held_workers hheld _)
          simp [Action.Reimports]
        · intro worker hworker
          rcases List.mem_append.mp hworker with hkept | hnew
          · exact hstaffed.started worker (List.mem_of_mem_filter hkept)
          · obtain rfl := List.mem_singleton.mp hnew
            exact started_spawnWorker hheld hmode workerId own
        · exact ⟨_, List.mem_append_right _ (List.mem_singleton_self _),
            ownImport_spawnWorker hmode workerId own⟩
      case isFalse => cases hstep

/-- What a run keeps. -/
theorem held_run (hheld : Held env deployment reimported state)
    (hstaffed : Staffed deployment state) {actions : List (Action α)} {final : Serving α}
    (hrun : (serving env deployment).run state actions = some final) :
    Held env deployment
        (reimported ∨ ∃ action ∈ actions,
          action.Reimports (deployment.config.runMode env) deployment.appPath) final ∧
      Staffed deployment final := by
  induction actions generalizing state reimported with
  | nil =>
      obtain rfl : state = final := by simpa using hrun
      refine ⟨?_, hstaffed⟩
      apply held_congr _ hheld
      simp
  | cons action actions ih =>
      rw [Machine.run_cons, Option.bind_eq_some_iff] at hrun
      obtain ⟨next, hstep, hrest⟩ := hrun
      obtain ⟨hnext, hnextStaffed⟩ := held_step hheld hstaffed hstep
      obtain ⟨hfinal, hfinalStaffed⟩ := ih hnext hnextStaffed hrest
      refine ⟨?_, hfinalStaffed⟩
      apply held_congr _ hfinal
      simp [or_assoc]

/-- A server that has started serves the composition. -/
theorem held_start {own : ℕ → α} (hstart : start env deployment own = some state) :
    Held env deployment False state ∧ Staffed deployment state := by
  have hlaunched (sslContext : Option TLSContext)
      (hssl : sslContext.isSome = deployment.config.isTlsConfigured) :
      Held env deployment False (launched env deployment
        { deployment.server.applyIntegrations env with sslContext := sslContext } own) ∧
      Staffed deployment (launched env deployment
        { deployment.server.applyIntegrations env with sslContext := sslContext } own) := by
    obtain ⟨hconfig, hpath, -⟩ := deployment.server.applyIntegrations_frame env
    have hheld : Held env deployment False
        { server := { deployment.server.applyIntegrations env with sslContext := sslContext }
          mode := deployment.config.runMode env
          effectiveWorkers := deployment.config.resolveWorkers env
          lastImport := deployment.app
          workers := [] } :=
      { mode := rfl
        effectiveWorkers := rfl
        config := hconfig
        appPath := hpath
        sslContext := hssl
        composed := fun _ => ⟨deployment.server.applyIntegrations_app, rfl⟩
        bare := False.elim }
    exact ⟨held_workers hheld _, staffed_replaceAll hheld own⟩
  simp only [start] at hstart
  split at hstart
  case isTrue => cases hstart
  case isFalse =>
    split at hstart
    case isTrue htls =>
      obtain ⟨context, -, rfl⟩ := Option.map_eq_some_iff.mp hstart
      exact hlaunched (some context) htls.symm
    case isFalse htls =>
      obtain rfl := Option.some.inj hstart
      have hssl := (deployment.server.applyIntegrations_frame env).2.2
      have hserver : { deployment.server.applyIntegrations env with sslContext := none } =
          deployment.server.applyIntegrations env := by
        rw [← show (deployment.server.applyIntegrations env).sslContext = none from hssl]
      rw [← hserver]
      exact hlaunched none (Bool.eq_false_iff.mpr htls).symm

/-! ## Every run -/

/-- A worker of the main interpreter serves what is held. -/
theorem Staffed.main (hstaffed : Staffed deployment state)
    (hmode : state.mode ≠ some .subinterpreter) {worker : Worker α}
    (hworker : worker ∈ state.workers) :
    worker.ownImport = none ∧ worker.app = state.server.app ∧
      worker.servesTls = deployment.config.isTlsConfigured := by
  have hstarted := hstaffed.started worker hworker
  rw [Started] at hstarted
  cases hown : worker.ownImport with
  | none => simpa [hown] using hstarted
  | some own =>
      rw [hown] at hstarted
      exact absurd hstarted.1 hmode

/-- Without subinterpreters all is well until the bare application comes to stand where
layers are configured. -/
theorem composed_main (hheld : Held env deployment reimported state)
    (hstaffed : Staffed deployment state) (hmode : state.mode ≠ some .subinterpreter) :
    state.Composed env deployment ↔
      deployment.server.configured env = [] ∨ ¬ reimported := by
  constructor
  · intro hcomposed
    by_cases hagain : reimported
    · left
      obtain ⟨worker, hworker, -⟩ := hstaffed.present
      obtain ⟨hown, happ, -⟩ := hstaffed.main hmode hworker
      have hserved := (hcomposed worker hworker).1
      rw [happ, hheld.bare hagain, latest, hown] at hserved
      exact ASGIApp.wrapAll_eq_self.mp hserved.symm
    · exact .inr hagain
  · intro hfine worker hworker
    obtain ⟨hown, happ, htls⟩ := hstaffed.main hmode hworker
    refine ⟨?_, htls⟩
    rw [happ, latest, hown]
    by_cases hagain : reimported
    · have hnone : deployment.server.configured env = [] := hfine.resolve_right (not_not.mpr hagain)
      rw [hheld.bare hagain, hnone]
      rfl
    · obtain ⟨hserver, himport⟩ := hheld.composed hagain
      rw [hserver, Option.getD_none, himport]
      rfl

/-- A subinterpreter serves the bare application without TLS. -/
theorem composed_subinterpreter (hheld : Held env deployment reimported state)
    (hstaffed : Staffed deployment state) (hmode : state.mode = some .subinterpreter)
    (honce : ¬ reimported) :
    state.Composed env deployment ↔
      deployment.server.configured env = [] ∧ deployment.config.isTlsConfigured = false := by
  constructor
  · intro hcomposed
    obtain ⟨worker, hworker, hkind⟩ := hstaffed.present
    obtain ⟨own, hown⟩ := Option.isSome_iff_exists.mp (hkind.mpr hmode)
    have hstarted := hstaffed.started worker hworker
    rw [Started, hown] at hstarted
    obtain ⟨-, happ, htls⟩ := hstarted
    obtain ⟨hserved, hsecured⟩ := hcomposed worker hworker
    rw [happ, latest, hown] at hserved
    exact ⟨ASGIApp.wrapAll_eq_self.mp hserved.symm, hsecured.symm.trans htls⟩
  · rintro ⟨hnone, hplain⟩ worker hworker
    have hstarted := hstaffed.started worker hworker
    rw [Started] at hstarted
    rw [hnone, latest]
    cases hown : worker.ownImport with
    | none =>
        rw [hown] at hstarted
        obtain ⟨happ, htls⟩ := hstarted
        obtain ⟨hserver, himport⟩ := hheld.composed honce
        refine ⟨?_, htls⟩
        rw [happ, hserver, hnone, Option.getD_none, himport]
        rfl
    | some own =>
        rw [hown] at hstarted
        obtain ⟨-, happ, htls⟩ := hstarted
        exact ⟨happ, htls.trans hplain.symm⟩

/-- Only the single worker's loop and the thread mode import in the main interpreter. -/
theorem not_reimports {mode : Option WorkerMode} (hsingle : mode ≠ none)
    (hthread : mode ≠ some .thread) (appPath : Option String) (action : Action α) :
    ¬ action.Reimports mode appPath := by
  cases action <;> simp [Action.Reimports, hsingle, hthread]

/-- In every run the workers serve the configured composition around the application
imported last, and TLS exactly where a certificate is configured, if and only if
nothing configured gets lost. -/
theorem composed_iff_intact {own : ℕ → α} {actions : List (Action α)} {start state : Serving α}
    (hstart : Serving.start env deployment own = some start)
    (hrun : (serving env deployment).run start actions = some state) :
    state.Composed env deployment ↔ Intact env deployment actions := by
  obtain ⟨hinit, hinitStaffed⟩ := held_start hstart
  obtain ⟨hheld, hstaffed⟩ := held_run hinit hinitStaffed hrun
  simp only [false_or] at hheld
  have hmode := hheld.mode
  rw [Intact]
  split
  case h_1 hnone =>
    rw [composed_main hheld hstaffed (by rw [hmode, hnone]; simp)]
    simp
  case h_2 hthread =>
    rw [composed_main hheld hstaffed (by rw [hmode, hthread]; simp)]
    simp
  case h_3 hprocess =>
    rw [composed_main hheld hstaffed (by rw [hmode, hprocess]; simp), iff_true]
    right
    rintro ⟨action, -, hagain⟩
    exact not_reimports (by simp [hprocess]) (by simp [hprocess]) _ action hagain
  case h_4 hsub =>
    rw [composed_subinterpreter hheld hstaffed (hmode.trans hsub)]
    rintro ⟨action, -, hagain⟩
    exact not_reimports (by simp [hsub]) (by simp [hsub]) _ action hagain

/-- A free-threaded interpreter on two processors. -/
def threaded : Environment :=
  { gilEnabled := false
    cpuCount := some 2
    certChainLoads := true
    sentryAvailable := false
    sentryInitialises := false
    h3Available := false }

/-- Two workers behind a rate limiter, with an application to import from. -/
def limited : Deployment ℕ :=
  { config := { workers := 2, rateLimitEnabled := true }
    app := 1
    appPath := some "shop:app" }

/-- A restart whose import raises keeps the rate limiter. -/
theorem composed_iff_intact_limited :
    ∃ start state,
      Serving.start threaded limited (fun _ => 1) = some start ∧
      (serving threaded limited).run start [.restartWorkers none (fun _ => 1), .respawn 1 1] =
        some state ∧
      (state.Composed threaded limited ↔
        Intact threaded limited [.restartWorkers none (fun _ => 1), .respawn 1 1]) :=
  ⟨_, _, rfl, rfl, composed_iff_intact rfl rfl⟩

/-- After a reload that imports the application the workers serve it without the rate
limiter. -/
theorem reload_drops_limiter :
    ¬ ∀ (env : Environment) (deployment : Deployment ℕ) (own : ℕ → ℕ) (actions : List (Action ℕ))
        (start state : Serving ℕ), Serving.start env deployment own = some start →
        (serving env deployment).run start actions = some state →
        state.Composed env deployment := by
  intro hall
  have hcomposed := hall threaded limited (fun _ => 2) [.gracefulReload (some 2) fun _ => 2] _ _
    rfl rfl
  have hserved := (hcomposed _ List.mem_cons_self).1
  exact absurd hserved (by decide)

end Serving

end Pounce
