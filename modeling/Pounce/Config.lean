/-
# Server configuration

The settings the modelled code reads, with the defaults of the source.
-/

import Mathlib.Data.Rat.Defs
import Pounce.Compression

namespace Pounce

/-- How workers run, as configured: the normalised `worker_mode`. -/
inductive WorkerModeSetting where
  | auto
  | sync
  | async
  | subinterpreter
  deriving DecidableEq, Repr

/-- A middleware callable, known by its name. -/
structure Middleware where
  name : String
  deriving DecidableEq, Repr

/-- The server configuration. -/
structure ServerConfig where
  workers : ℕ := 1
  workerMode : WorkerModeSetting := .auto
  maxHeaderSize : ℕ := 65536
  maxHeaders : ℕ := 100
  maxRequestSize : ℕ := 1048576
  /-- Zero is no limit. -/
  maxRequestsPerConnection : ℕ := 0
  serverHeader : String := "pounce"
  compression : Bool := true
  compressionMinSize : ℕ := 500
  compressionDictionaries : List CompressionDictionary := []
  debug : Bool := false
  healthCheckPath : Option String := none
  introspectionEnabled : Bool := false
  introspectionPath : String := "/_pounce/info"
  reload : Bool := false
  host : String := "127.0.0.1"
  port : ℕ := 8000
  /-- The path of a Unix domain socket, instead of host and port. -/
  uds : Option String := none
  /-- The peers whose forwarding headers are believed; a star is all of them. -/
  trustedHosts : List String := []
  /-- The trusted proxies in front of the server, at least one. -/
  forwardedForTrustedHops : ℕ := 1
  rootPath : String := ""
  sslCertfile : Option String := none
  sslKeyfile : Option String := none
  /-- Directories by URL path, in the order of the mapping. -/
  staticFiles : List (String × String) := []
  staticCacheControl : String := "public, max-age=3600"
  staticPrecompressed : Bool := true
  staticFollowSymlinks : Bool := false
  staticIndexFile : Option String := some "index.html"
  middleware : List Middleware := []
  websocketMaxMessageSize : ℕ := 10485760
  lifecycleLogging : Bool := false
  metricsEnabled : Bool := false
  metricsPath : String := "/metrics"
  rateLimitEnabled : Bool := false
  rateLimitRequestsPerSecond : ℚ := mkRat 100 1
  rateLimitBurst : ℕ := 200
  rateLimitMaxTrackedIps : ℕ := 100000
  requestQueueEnabled : Bool := false
  requestQueueMaxDepth : ℕ := 1000
  http3Enabled : Bool := false
  sentryDsn : Option String := none
  deriving DecidableEq, Repr

end Pounce
