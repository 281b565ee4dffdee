import Pounce.FastH1.Framing
import Pounce.SyncWorker.Segmentation
import Pounce.SyncWorker.Response
import Pounce.Asgi.Bridge
import Pounce.Asgi.Ranges
import Pounce.Supervisor.Watch
import Pounce.H2.SendWindow
import Pounce.Server.Integrations
import Pounce.Supervisor.Budget
import Pounce.Supervisor.Rollback
import Pounce.Supervisor.Descriptor
import Pounce.Worker.Disconnect
import Pounce.Limits
import Pounce.AsyncPool
import Pounce.SyncWorker.AcceptLoop
import Pounce.AsyncPool.Parity
import Pounce.H2.RequestEvents
import Pounce.H2.GoAway
import Pounce.H2.Tables
import Pounce.Isolation
import Pounce.Asgi.Host
import Pounce.Asgi.Agreement
import Pounce.Asgi.Forwarded
import Pounce.Asgi.Coding
import Pounce.Asgi.Requests
import Pounce.WebSocket.Delivery
import Pounce.WebSocket.Sending
import Pounce.H3.Streams
import Pounce.Math.Dict
import Pounce.H3.Routing
import Pounce.RateLimiter
import Pounce.Static.Responses
import Pounce.Math.FileTree
import Pounce.Static.Resolve
import Pounce.Static.Confined
import Pounce.Static.Cache
import Pounce.RequestPipeline
import Pounce.FastH1.Prefixes
import Pounce.FastH1.Lexical
import Pounce.Math.Recency
import Pounce.RateLimiter.Lru
import Pounce.Priority.Order
import Pounce.Priority.Turns
import Pounce.IicBridge
import Pounce.RequestQueue.Slots
import Pounce.Worker.Connections
import Pounce.Asgi.CreateSend
import Pounce.Asgi.Exactness
import Pounce.Metrics
import Pounce.Metrics.Traces
import Pounce.Metrics.Traffic
import Pounce.Metrics.InFlight
import Pounce.Supervisor.ReloadDrain
import Pounce.Supervisor.ReloadPatience
import Pounce.AcceptDistributor
import Pounce.AcceptDistributor.Conservation
import Pounce.H2.WriteTurns
import Pounce.H2.WakeUps
import Pounce.FastH1.RoundTrip
import Pounce.SyncWorker.PartialSends
import Pounce.Asgi.ForwardedFor
import Pounce.Asgi.ForwardedHost
import Pounce.RequestPipeline.Negotiation
import Pounce.Static.RangeSets
import Pounce.Static.Conditional
import Pounce.Worker.Upgrades
import Pounce.Math.HeadLines
import Pounce.WebSocket.Heads
import Pounce.Asgi.BodyCoding
import Pounce.Protocols.H11Reading
import Pounce.Worker.Batches
import Pounce.Worker.Segmentation
import Pounce.Math.Buckets
import Pounce.Metrics.Histograms
import Pounce.Middleware
import Pounce.Math.StructuredFields
import Pounce.Priority.Header
import Pounce.Math.Utf8
import Pounce.RequestPipeline.Endpoints
import Pounce.Drain
import Pounce.H2.SessionLimit
import Pounce.Math.Trace
import Pounce.Asgi.Lifespan
import Pounce.Server.State
import Pounce.Supervisor.Startup
import Pounce.Math.Exposition
import Pounce.Metrics.Exposition
import Pounce.Server.FileWatcher
import Pounce.Server.Reload
