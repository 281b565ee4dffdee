/-
# The server and what it hands its workers

`run` wraps the application in the configured integrations once, creates the TLS
context if a certificate is configured, and starts the workers: one worker without a
supervisor, or several under the supervisor in one of its worker modes. From then on
the workers are replaced as a whole by reloads and one at a time by the watch loop.

A worker serves the application it was handed when it was started. Reloads are
modelled by what they leave behind once they have succeeded. A reload whose import
raises goes on with the previous application; one whose old workers do not stop, or
whose replacement interpreters do not come up, has not succeeded.

Left out are sockets, lifespans and hooks, and the OpenTelemetry setup, which wraps
nothing.
-/

import Pounce.Config
import Pounce.Supervisor

namespace Pounce

open Pounce.Math

variable {α : Type}

/-! ## The application and its layers -/

/-- A static mount, built from an entry of `static_files`. -/
structure StaticMount where
  urlPath : String
  directory : String
  cacheControl : String
  precompressed : Bool
  followSymlinks : Bool
  indexFile : Option String
  deriving DecidableEq, Repr

/-- What `_apply_integrations` can put around an application. -/
inductive Layer where
  | metrics (path : String)
  | staticFiles (mounts : List StaticMount)
  | middleware (stack : List Middleware)
  | rateLimiter (rate : ℚ) (burst maxTrackedIps : ℕ)
  | requestQueue (maxDepth : ℕ)
  | sentry
  deriving DecidableEq, Repr

/-- An application as the server holds it. -/
inductive ASGIApp (α : Type) where
  /-- As imported, or as passed to the server. -/
  | imported (app : α)
  /-- Inside a layer. -/
  | wrapped (layer : Layer) (inner : ASGIApp α)
  deriving DecidableEq, Repr

namespace ASGIApp

/-- Wrap an application in layers, the first of which becomes the innermost. -/
def wrapAll (app : ASGIApp α) (layers : List Layer) : ASGIApp α :=
  layers.foldl (fun inner layer => .wrapped layer inner) app

@[simp]
theorem wrapAll_nil (app : ASGIApp α) : app.wrapAll [] = app := rfl

@[simp]
theorem wrapAll_cons (app : ASGIApp α) (layer : Layer) (layers : List Layer) :
    app.wrapAll (layer :: layers) = (wrapped layer app).wrapAll layers := rfl

theorem wrapAll_append (app : ASGIApp α) (inner outer : List Layer) :
    app.wrapAll (inner ++ outer) = (app.wrapAll inner).wrapAll outer :=
  List.foldl_append

/-- The number of layers around the imported application. -/
def depth : ASGIApp α → ℕ
  | imported _ => 0
  | wrapped _ inner => inner.depth + 1

theorem depth_wrapAll (app : ASGIApp α) (layers : List Layer) :
    (app.wrapAll layers).depth = app.depth + layers.length := by
  induction layers generalizing app with
  | nil => rfl
  | cons layer layers ih =>
      rw [wrapAll_cons, ih, depth, List.length_cons]
      omega

/-- Only no layers at all leave an application as it was. -/
theorem wrapAll_eq_self {app : ASGIApp α} {layers : List Layer} :
    app.wrapAll layers = app ↔ layers = [] := by
  constructor
  · intro heq
    have hdepth := congrArg depth heq
    rw [depth_wrapAll] at hdepth
    exact List.length_eq_zero_iff.mp (by omega)
  · rintro rfl
    rfl

end ASGIApp

/-! ## The server -/

/-- What a lifecycle collector is. -/
inductive LifecycleCollector where
  /-- Passed to the server. -/
  | given
  | logging
  | prometheus
  deriving DecidableEq, Repr

/-- A TLS context with its certificate chain loaded. -/
structure TLSContext where
  certfile : String
  keyfile : Option String
  deriving DecidableEq, Repr

/-- What the server finds around it. -/
structure Environment where
  gilEnabled : Bool
  /-- `os.cpu_count()`. -/
  cpuCount : Option ℕ
  /-- The certificate chain and the ALPN protocols can be set up. -/
  certChainLoads : Bool
  sentryAvailable : Bool
  /-- `init_sentry` returns rather than raises. -/
  sentryInitialises : Bool
  h3Available : Bool
  deriving DecidableEq, Repr

/-- The arguments of `Server`. -/
structure Deployment (α : Type) where
  config : ServerConfig
  app : α
  appPath : Option String := none
  lifecycleCollector : Option LifecycleCollector := none
  deriving DecidableEq, Repr

/-- The fields of the server. -/
structure Server (α : Type) where
  config : ServerConfig
  app : ASGIApp α
  appPath : Option String
  lifecycleCollector : Option LifecycleCollector
  sslContext : Option TLSContext
  deriving DecidableEq, Repr

/-- `Server.__init__`. -/
def Deployment.server (deployment : Deployment α) : Server α :=
  { config := deployment.config
    app := .imported deployment.app
    appPath := deployment.appPath
    lifecycleCollector := deployment.lifecycleCollector
    sslContext := none }

/-- Truth of an optional string. -/
def truthy (text : Option String) : Bool := text.any (· ≠ "")

/-- `default_worker_count`. -/
def defaultWorkerCount (env : Environment) : ℕ :=
  match env.cpuCount with
  | some (count + 1) => count + 1
  | _ => 1

/-- `ServerConfig.resolve_workers`. -/
def ServerConfig.resolveWorkers (config : ServerConfig) (env : Environment) : ℕ :=
  if config.workers = 0 then defaultWorkerCount env else config.workers

/-- There is always a worker to start. -/
theorem ServerConfig.resolveWorkers_pos (config : ServerConfig) (env : Environment) :
    0 < config.resolveWorkers env := by
  rw [resolveWorkers]
  split
  · rw [defaultWorkerCount]
    split <;> exact Nat.succ_pos _
  · omega

/-- `detect_worker_mode`. -/
def detectWorkerMode (env : Environment) : WorkerMode :=
  if env.gilEnabled then .process else .thread

/-- `resolve_worker_execution_mode`: whether thread workers run synchronously. -/
def ServerConfig.executesSync (config : ServerConfig) (env : Environment) : Bool :=
  match config.workerMode with
  | .subinterpreter => false
  | .sync => true
  | .async => false
  | .auto => !env.gilEnabled

/-- The worker mode of `run`; `none` for the single worker that has no supervisor. -/
def ServerConfig.runMode (config : ServerConfig) (env : Environment) : Option WorkerMode :=
  let mode := if config.workerMode = .subinterpreter then .subinterpreter else detectWorkerMode env
  if config.resolveWorkers env = 1 ∧ mode ≠ .subinterpreter then none else some mode

/-- `is_tls_configured`. -/
def ServerConfig.isTlsConfigured (config : ServerConfig) : Bool := config.sslCertfile.isSome

/-- `create_tls_context`; `none` where it raises. -/
def createTlsContext (env : Environment) (config : ServerConfig) : Option TLSContext :=
  match config.sslCertfile with
  | none => none
  | some certfile =>
    if certfile ≠ "" ∧ env.certChainLoads then
      some { certfile := certfile, keyfile := config.sslKeyfile }
    else none

/-- Whether there are UDP listeners: `_create_udp_listeners_if_h3`. -/
def ServerConfig.listensH3 (config : ServerConfig) (env : Environment) : Bool :=
  config.http3Enabled && config.isTlsConfigured && truthy config.sslCertfile &&
    truthy config.sslKeyfile && env.h3Available

namespace Server

variable (env : Environment) (server : Server α)

/-- Put a layer around the application. -/
def wrap (layer : Layer) : Server α := { server with app := .wrapped layer server.app }

/-- Put a layer around the application where it is enabled. -/
def wrapIf (enabled : Bool) (layer : Layer) : Server α :=
  if enabled then server.wrap layer else server

/-- `_apply_lifecycle_logging`. -/
def applyLifecycleLogging : Server α :=
  if server.config.lifecycleLogging ∧ server.lifecycleCollector = none then
    { server with lifecycleCollector := some .logging }
  else server

/-- `_apply_metrics`. -/
def applyMetrics : Server α :=
  if server.config.metricsEnabled ∧ server.lifecycleCollector = none then
    { server.wrap (.metrics server.config.metricsPath) with lifecycleCollector := some .prometheus }
  else server

/-- The mounts of `_apply_static_files`. -/
def staticMounts (config : ServerConfig) : List StaticMount :=
  config.staticFiles.map fun (urlPath, directory) =>
    { urlPath := urlPath
      directory := directory
      cacheControl := config.staticCacheControl
      precompressed := config.staticPrecompressed
      followSymlinks := config.staticFollowSymlinks
      indexFile := config.staticIndexFile }

/-- `_apply_static_files`. -/
def applyStaticFiles : Server α :=
  server.wrapIf (server.config.staticFiles ≠ []) (.staticFiles (staticMounts server.config))

/-- `_apply_middleware`. -/
def applyMiddleware : Server α :=
  server.wrapIf (server.config.middleware ≠ []) (.middleware server.config.middleware)

/-- `_apply_rate_limiter`. -/
def applyRateLimiter : Server α :=
  server.wrapIf server.config.rateLimitEnabled
    (.rateLimiter server.config.rateLimitRequestsPerSecond server.config.rateLimitBurst
      server.config.rateLimitMaxTrackedIps)

/-- `_apply_request_queue`. -/
def applyRequestQueue : Server α :=
  server.wrapIf server.config.requestQueueEnabled
    (.requestQueue server.config.requestQueueMaxDepth)

/-- `_apply_sentry`. -/
def applySentry : Server α :=
  server.wrapIf (truthy server.config.sentryDsn && env.sentryAvailable && env.sentryInitialises)
    .sentry

/-- `_apply_integrations`. -/
def applyIntegrations : Server α :=
  server.applyLifecycleLogging.applyMetrics.applyStaticFiles.applyMiddleware.applyRateLimiter
    |>.applyRequestQueue.applySentry env

end Server

/-! ## Workers -/

/-- What serves requests. -/
inductive ServerKind where
  /-- A worker on the listener. -/
  | tcp
  /-- The pool synchronous workers hand streaming requests to. -/
  | asyncPool
  /-- An HTTP/3 worker. -/
  | http3
  deriving DecidableEq, Repr

/-- A started worker. -/
structure Worker (α : Type) where
  kind : ServerKind
  workerId : ℕ
  app : ASGIApp α
  servesTls : Bool
  /-- What it imported itself, in a subinterpreter. -/
  ownImport : Option α
  deriving DecidableEq, Repr

/-- `bootstrap`: a subinterpreter imports the application and builds a worker
without a TLS context. -/
def bootstrap (workerId : ℕ) (app : α) : Worker α :=
  { kind := .tcp, workerId := workerId, app := .imported app, servesTls := false
    ownImport := some app }

namespace Server

/-- A worker that is handed the application and the TLS context. -/
def worker (server : Server α) (kind : ServerKind) (workerId : ℕ) : Worker α :=
  { kind := kind
    workerId := workerId
    app := server.app
    servesTls := kind = .http3 ∨ server.sslContext.isSome
    ownImport := none }

/-- `reimport_app`, where there is a path to import from; a failed import leaves the
application as it was. -/
def reimport (server : Server α) (imported : Option α) : Server α :=
  if truthy server.appPath then
    match imported with
    | some app => { server with app := .imported app }
    | none => server
  else server

end Server

/-! ## Runs -/

/-- The server, or the supervisor with its own copies of the fields, and the workers. -/
structure Serving (α : Type) where
  server : Server α
  /-- The mode of the supervisor, if there is one. -/
  mode : Option WorkerMode
  effectiveWorkers : ℕ
  /-- What was last imported in the main interpreter. -/
  lastImport : α
  workers : List (Worker α)
  deriving DecidableEq, Repr

namespace Serving

variable (env : Environment) (state : Serving α)

/-- The most recently imported application in the interpreter of a worker. -/
def latest (worker : Worker α) : α := worker.ownImport.getD state.lastImport

/-- `_spawn_worker`; in a subinterpreter the worker imports an application of its own. -/
def spawnWorker (mode : WorkerMode) (workerId : ℕ) (own : α) : Worker α :=
  if mode = .subinterpreter then bootstrap workerId own else state.server.worker .tcp workerId

/-- The asynchronous pool of synchronous workers: `_build_async_pool`. -/
def asyncPool (mode : WorkerMode) : List (Worker α) :=
  if mode = .thread ∧ state.server.config.executesSync env then
    [state.server.worker .asyncPool 0]
  else []

/-- The HTTP/3 workers: `_spawn_h3_worker` for every UDP socket. -/
def h3Workers : List (Worker α) :=
  if state.server.config.listensH3 env then
    (List.range state.effectiveWorkers).map (state.server.worker .http3)
  else []

/-- All workers, started afresh. -/
def respawned (own : ℕ → α) : List (Worker α) :=
  match state.mode with
  | none => state.server.worker .tcp 0 :: state.h3Workers env
  | some mode =>
    state.asyncPool env mode ++
      ((List.range state.effectiveWorkers).map fun workerId =>
        state.spawnWorker mode workerId (own workerId)) ++
      state.h3Workers env

/-- Replace all workers. -/
def replaceAll (own : ℕ → α) : Serving α := { state with workers := state.respawned env own }

/-- `_run_single` or `_run_multi`, which start the workers. -/
def launched (deployment : Deployment α) (server : Server α) (own : ℕ → α) : Serving α :=
  replaceAll env
    { server := server
      mode := deployment.config.runMode env
      effectiveWorkers := deployment.config.resolveWorkers env
      lastImport := deployment.app
      workers := [] }
    own

/-- `run` up to the point where its workers serve; `none` where it raises before. -/
def start (deployment : Deployment α) (own : ℕ → α) : Option (Serving α) :=
  let config := deployment.config
  if config.workerMode = .subinterpreter ∧ ¬ truthy deployment.appPath then none
  else
    let server := deployment.server.applyIntegrations env
    if config.isTlsConfigured then
      (createTlsContext env config).map fun context =>
        launched env deployment { server with sslContext := some context } own
    else some (launched env deployment server own)

/-- Import the application again in the main interpreter. -/
def reimport (imported : Option α) : Serving α :=
  { state with
    server := state.server.reimport imported
    lastImport := if truthy state.server.appPath then imported.getD state.lastImport
      else state.lastImport }

/-- `_restart_workers_impl`. -/
def restart (mode : WorkerMode) (imported : Option α) (own : ℕ → α) : Serving α :=
  (if mode = .thread then state.reimport imported else state).replaceAll env own

/-- `graceful_reload`, which replaces the HTTP/3 workers in thread mode only. -/
def graceful (mode : WorkerMode) (imported : Option α) (own : ℕ → α) : Serving α :=
  match mode with
  | .process => state.restart env mode imported own
  | .thread => (state.reimport imported).replaceAll env own
  | .subinterpreter =>
    { state with
      workers :=
        ((List.range state.effectiveWorkers).map fun workerId =>
          state.spawnWorker mode workerId (own workerId)) ++
        state.workers.filter (·.kind = .http3) }

/-- What happens to a server that runs. `imported` is what the main interpreter
imports if it does, `none` if that raises, and `own` what the subinterpreters import. -/
inductive Action (α : Type) where
  /-- A change is detected under `--reload` by the single worker's loop. -/
  | reload (imported : Option α)
  /-- `restart_workers`. -/
  | restartWorkers (imported : Option α) (own : ℕ → α)
  /-- `graceful_reload`. -/
  | gracefulReload (imported : Option α) (own : ℕ → α)
  /-- The watch loop replaces a dead worker. -/
  | respawn (workerId : ℕ) (own : α)

/-- One event; `none` where it does not happen. -/
def step (state : Serving α) : Action α → Option (Serving α)
  | .reload imported =>
    if state.mode = none ∧ state.server.config.reload then
      some ((state.reimport imported).replaceAll env fun _ => state.lastImport)
    else none
  | .restartWorkers imported own => state.mode.map (state.restart env · imported own)
  | .gracefulReload imported own => state.mode.map (state.graceful env · imported own)
  | .respawn workerId own =>
    if workerId < state.effectiveWorkers then
      state.mode.map fun mode =>
        { state with
          workers := state.workers.filter
              (fun worker => ¬ (worker.kind = .tcp ∧ worker.workerId = workerId)) ++
            [state.spawnWorker mode workerId own] }
    else none

end Serving

/-- The runs of a deployment. -/
def serving (env : Environment) (deployment : Deployment α) :
    Machine (Serving α) (Serving.Action α) where
  init state := ∃ own, Serving.start env deployment own = some state
  step := Serving.step env

end Pounce
