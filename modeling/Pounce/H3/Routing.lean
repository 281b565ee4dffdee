/-
# Routing of HTTP/3 datagrams

`ZoomiesDatagramProtocol` keeps its connections in two dictionaries, by the address a
connection was last heard from and by the connection IDs it goes by. A datagram first drops
the connections that have been idle for too long, then finds its connection by its destination
ID or by its address, or makes a new one while there is room. A connection that is found by its
ID moves to the address of the datagram. What QUIC reports after that is gone through in
order.

The model is that of the whole protocol, which has one `Handler` for each connection and takes
one step for each of these operations. Zoomies is a parameter. The dictionaries hold the
numbers of the connections, and the connections are kept by their numbers, also after they have
left the dictionaries: their tasks may still run.

Nothing but the end of a connection that QUIC itself reports, and `close_all_connections`,
cancels the tasks. An idle connection leaves the dictionaries with its tasks running, and so does
one whose address is taken by another that has moved there. The dictionaries are sound in the runs
in which neither happens, in which the library still knows the IDs a leaving connection was
registered by, and in which the tasks of a connection that ends are the registered ones.
-/

import Pounce.H3.Isolation
import Pounce.Math.Dict

namespace Pounce.H3

open Pounce.Math Pounce.Math.Bytes Pounce.Asgi
open Pounce.SyncWorker (PyError)

/-! ## The library -/

/-- Where a datagram comes from. -/
abbrev Addr : Type := String × ℕ

/-- A connection ID. -/
abbrev Cid : Type := Bytes

/-- What QUIC reports for a datagram. -/
inductive ConnectionEvent (Datum : Type) where
  | stream (event : QuicEvent Datum)
  | connectionIdIssued (connectionId : Cid)
  | connectionIdRetired (connectionId : Cid)
  /-- `ZeroRttAccepted`, or `ZeroRttRejected`. It is logged. -/
  | zeroRtt (accepted : Bool)
  deriving DecidableEq, Repr

/-- What the protocol is run with. -/
structure RoutingEnv (Conn Datum : Type) where
  /-- What a connection is served with. -/
  h3 : Env Conn Datum
  /-- `http3_max_connections`. -/
  maxConnections : ℕ
  /-- `http3_idle_timeout`, in ticks of the monotonic clock. -/
  idleTimeout : ℤ
  /-- The connections that are made, in order. -/
  create : ℕ → Conn
  /-- `QuicConnection.datagram_received`. -/
  datagramReceived : Conn → Bytes → Addr → Except PyError (Conn × List (ConnectionEvent Datum))
  /-- `QuicConnection.our_cids`. -/
  ourCids : Conn → List Cid
  /-- `pull_destination_cid_for_routing`, by the known IDs. -/
  pullDestinationCid : List Cid → Bytes → Except PyError (Option Cid)

/-! ## State -/

/-- `_ZoomiesConnection`. -/
structure ZoomiesConnection (Conn Datum : Type) where
  handler : Handler Conn Datum
  lastActivity : ℤ := 0
  lastAddr : Addr := ("", 0)

/-- What is still to be gone through of a datagram. -/
inductive Delivery (Datum : Type) where
  | event (event : ConnectionEvent Datum)
  | h3 (event : H3Event)
  deriving DecidableEq, Repr

/-- What the protocol is at. -/
inductive Work (Datum : Type) where
  | idle
  /-- The idle connections are gone, and the datagram is to be routed. -/
  | routing (data : Bytes) (addr : Addr)
  /-- What was reported of a connection is gone through. -/
  | delivering (id : ℕ) (rest : List (Delivery Datum))
  deriving DecidableEq, Repr

/-- There is nothing to do before the next datagram. -/
def Work.isIdle {Datum : Type} : Work Datum → Bool
  | .idle => true
  | _ => false

/-- The state of the protocol. Connections go by their numbers. -/
structure DatagramProtocol (Conn Datum : Type) where
  /-- The connections that were made, and those that are still to be made. -/
  connection : ℕ → ZoomiesConnection Conn Datum
  nextConnection : ℕ := 0
  /-- `_connections`. -/
  connections : Dict Addr ℕ := {}
  /-- `_cid_to_conn`. -/
  cidToConn : Dict Cid ℕ := {}
  draining : Bool := false
  work : Work Datum := .idle

namespace DatagramProtocol

variable {Conn Datum : Type} (env : RoutingEnv Conn Datum) (protocol : DatagramProtocol Conn Datum)

/-- The connection is in `_connections`. -/
def Tracked (id : ℕ) : Prop := ∃ addr, protocol.connections.get addr = some id

/-! ## Leaving the dictionaries -/

/-- The IDs the library has for a connection. -/
def ourCids (id : ℕ) : List Cid := env.ourCids (protocol.connection id).handler.conn

/-- The connection has been idle for too long. -/
def isStale (now : ℤ) (id : ℕ) : Bool :=
  env.idleTimeout < now - (protocol.connection id).lastActivity

/-- `_prune_idle_connections`. -/
def pruneIdleConnections (now : ℤ) : DatagramProtocol Conn Datum :=
  let stale := (protocol.connections.entries.map Prod.snd).filter (protocol.isStale env now)
  { protocol with
    connections := protocol.connections.filter fun entry => !protocol.isStale env now entry.2
    cidToConn := protocol.cidToConn.filter fun entry =>
      stale.all fun id => entry.1 ∉ protocol.ourCids env id }

/-- `_remove_connection`. -/
def removeConnection (id : ℕ) : DatagramProtocol Conn Datum :=
  { protocol with
    connections := protocol.connections.pop (protocol.connection id).lastAddr
    cidToConn := protocol.cidToConn.filter fun entry => entry.1 ∉ protocol.ourCids env id }

/-! ## Finding a connection -/

/-- Change what a connection has. -/
def modify (id : ℕ) (change : ZoomiesConnection Conn Datum → ZoomiesConnection Conn Datum) :
    DatagramProtocol Conn Datum :=
  { protocol with
    connection := Function.update protocol.connection id (change (protocol.connection id)) }

/-- Change the handler of a connection. -/
def handle (id : ℕ) (change : Handler Conn Datum → Handler Conn Datum) :
    DatagramProtocol Conn Datum :=
  protocol.modify id fun connection => { connection with handler := change connection.handler }

/-- The connection is heard from an address, and moves there if it was elsewhere. -/
def migrate (id : ℕ) (addr : Addr) : DatagramProtocol Conn Datum :=
  if (protocol.connection id).lastAddr = addr then protocol
  else
    { protocol.modify id fun connection => { connection with lastAddr := addr } with
      connections :=
        (protocol.connections.pop (protocol.connection id).lastAddr).set addr id }

/-- The connection a datagram names by its destination ID. -/
def named (destCid : Option Cid) : Option ℕ :=
  (destCid.filter fun cid => cid ≠ []).bind protocol.cidToConn.get

/-- `_route_connection`, once the destination ID is read. -/
def routeConnection (destCid : Option Cid) (addr : Addr) :
    DatagramProtocol Conn Datum × Option ℕ :=
  match protocol.named destCid with
  | some id => (protocol.migrate id addr, some id)
  | none => (protocol, protocol.connections.get addr)

/-- The IDs a datagram may be routed by. -/
def knownCids : List Cid := (protocol.cidToConn.entries.map Prod.fst).filter (· ≠ [])

/-- Make a connection for an address. -/
def createConnection (addr : Addr) : DatagramProtocol Conn Datum :=
  { protocol.modify protocol.nextConnection fun connection =>
      { connection with lastAddr := addr } with
    nextConnection := protocol.nextConnection + 1
    connections := protocol.connections.set addr protocol.nextConnection }

/-- Register the IDs of a connection that are not registered yet. -/
def registerCids (id : ℕ) (cids : List Cid) : Dict Cid ℕ :=
  cids.foldl (fun dict cid =>
    if cid ≠ [] ∧ dict.get cid = none then dict.set cid id else dict) protocol.cidToConn

/-- Give a datagram to its connection. -/
def receive (id : ℕ) (data : Bytes) (addr : Addr) (now : ℤ) : DatagramProtocol Conn Datum :=
  let active := protocol.modify id fun connection => { connection with lastActivity := now }
  match env.datagramReceived (active.connection id).handler.conn data addr with
  | .error _ => { active with work := .idle }
  | .ok (conn, events) =>
      let received := active.handle id fun handler => { handler with conn }
      { received with
        cidToConn := received.registerCids id (env.ourCids conn)
        work := .delivering id (events.map .event) }

/-- `datagram_received`, from the routing to the library. -/
def route (data : Bytes) (addr : Addr) (now : ℤ) : DatagramProtocol Conn Datum :=
  match env.pullDestinationCid protocol.knownCids data with
  | .error _ => { protocol with work := .idle }
  | .ok destCid =>
      match protocol.routeConnection destCid addr with
      | (routed, some id) => routed.receive env id data addr now
      | (routed, none) =>
          if routed.draining ∨ env.maxConnections ≤ routed.connections.size then
            { routed with work := .idle }
          else (routed.createConnection addr).receive env routed.nextConnection data addr now

/-! ## Events -/

/-- What the streams of a connection are served with. The client is where the connection was
last heard from. -/
def envOf (id : ℕ) : Env Conn Datum :=
  { env.h3 with client := (protocol.connection id).lastAddr }

/-- The next part of what was reported. If it raises, the rest is lost. -/
def deliverNext (id : ℕ) (next : Delivery Datum) (rest : List (Delivery Datum)) :
    DatagramProtocol Conn Datum :=
  match next with
  | .event (.stream .connectionClosed) =>
      { (protocol.handle id Handler.cancelAllStreams).removeConnection env id with work := .idle }
  | .event (.stream (.streamReset streamId)) =>
      { protocol.handle id (Handler.cancelStream · streamId .reset) with
        work := .delivering id rest }
  | .event (.stream (.streamDataReceived datum)) =>
      match env.h3.codec.handleEvent (protocol.connection id).handler.conn datum with
      | .error _ => { protocol with work := .idle }
      | .ok (conn, events) =>
          { protocol.handle id fun handler => { handler with conn } with
            work := .delivering id (events.map .h3 ++ rest) }
  | .event (.connectionIdIssued connectionId) =>
      { protocol with
        cidToConn := protocol.cidToConn.set connectionId id
        work := .delivering id rest }
  | .event (.connectionIdRetired connectionId) =>
      { protocol with
        cidToConn := protocol.cidToConn.pop connectionId
        work := .delivering id rest }
  | .event (.zeroRtt _) => { protocol with work := .delivering id rest }
  | .h3 event =>
      match (protocol.connection id).handler.handleH3Event (protocol.envOf env id) event with
      | (raised, some _) => { protocol.handle id fun _ => raised with work := .idle }
      | (handled, none) => { protocol.handle id fun _ => handled with work := .delivering id rest }

/-! ## Shutdown -/

/-- The worker begins to drain. -/
def drain : DatagramProtocol Conn Datum :=
  { protocol with
    draining := true
    connection := fun id =>
      { protocol.connection id with
        handler := { (protocol.connection id).handler with draining := true } } }

/-- `close_all_connections`. -/
def closeAllConnections : DatagramProtocol Conn Datum :=
  { protocol with
    connection := fun id =>
      if id ∈ protocol.connections.entries.map Prod.snd then
        { protocol.connection id with
          handler := (protocol.connection id).handler.cancelAllStreams }
      else protocol.connection id
    connections := {}
    cidToConn := {} }

end DatagramProtocol

/-! ## The machine -/

/-- What happens to the protocol. -/
inductive RoutingAction where
  /-- A datagram arrives. -/
  | datagram (data : Bytes) (addr : Addr) (now : ℤ)
  /-- It is given to its connection. -/
  | route (now : ℤ)
  /-- What was reported is gone through. -/
  | deliver
  /-- A task of a connection takes its first step. -/
  | start (id taskId : ℕ)
  | send (id taskId : ℕ) (message : SendMessage)
  | finish (id taskId : ℕ) (ending : Ending)
  | drain
  | closeAll
  deriving DecidableEq

namespace DatagramProtocol

variable {Conn Datum : Type} (env : RoutingEnv Conn Datum) (protocol : DatagramProtocol Conn Datum)

/-- A task takes a step between the datagrams. -/
def stepTask (id : ℕ) (action : Action) : Option (DatagramProtocol Conn Datum) :=
  if protocol.work.isIdle then
    ((protocol.connection id).handler.step (protocol.envOf env id) action).map fun next =>
      protocol.handle id fun _ => next
  else none

/-- One step. -/
def step : RoutingAction → Option (DatagramProtocol Conn Datum)
  | .datagram data addr now =>
      if protocol.work.isIdle then
        some { protocol.pruneIdleConnections env now with work := .routing data addr }
      else none
  | .route now =>
      match protocol.work with
      | .routing data addr => some (protocol.route env data addr now)
      | _ => none
  | .deliver =>
      match protocol.work with
      | .delivering _ [] => some { protocol with work := .idle }
      | .delivering id (next :: rest) => some (protocol.deliverNext env id next rest)
      | _ => none
  | .start id taskId => protocol.stepTask env id (.start taskId)
  | .send id taskId message => protocol.stepTask env id (.send taskId message)
  | .finish id taskId ending => protocol.stepTask env id (.finish taskId ending)
  | .drain => if protocol.work.isIdle then some protocol.drain else none
  | .closeAll => if protocol.work.isIdle then some protocol.closeAllConnections else none

end DatagramProtocol

/-- The protocol, from its first datagram on. -/
def routingMachine {Conn Datum : Type} (env : RoutingEnv Conn Datum) :
    Machine (DatagramProtocol Conn Datum) RoutingAction where
  init protocol := protocol = { connection := fun id => { handler := { conn := env.create id } } }
  step protocol action := protocol.step env action

/-! ## What is promised -/

/-- No task is left that has not been cancelled. -/
def Handler.Quiet {Conn Datum : Type} (handler : Handler Conn Datum) : Prop :=
  ∀ taskId task, handler.tasks taskId = some task → task.cancelled ≠ none

/-- The running tasks are those the streams are registered with. -/
def Handler.Registered {Conn Datum : Type} (handler : Handler Conn Datum) : Prop :=
  ∀ taskId task, handler.tasks taskId = some task → task.cancelled = none →
    handler.streamTasks task.streamId = some taskId

namespace DatagramProtocol

variable {Conn Datum : Type} (env : RoutingEnv Conn Datum) (protocol : DatagramProtocol Conn Datum)

/-- The dictionaries agree with the connections, there are not too many of these, and the tasks
of the others are cancelled. -/
structure Sound : Prop where
  stored : ∀ addr id, protocol.connections.get addr = some id →
    (protocol.connection id).lastAddr = addr
  routed : ∀ cid id, protocol.cidToConn.get cid = some id → protocol.Tracked id
  bounded : protocol.connections.size ≤ env.maxConnections
  released : ∀ id, ¬ protocol.Tracked id → (protocol.connection id).handler.Quiet

/-- The library has all the IDs the connection is registered by. -/
def Known (id : ℕ) : Prop :=
  ∀ cid, protocol.cidToConn.get cid = some id → cid ∈ protocol.ourCids env id

/-- Only quiet connections are dropped for being idle, a connection moves to addresses nobody
is at, and a connection that ends is known by its IDs and has its tasks registered. -/
def Tame : RoutingAction → Prop
  | .datagram _ _ now => ∀ id, protocol.Tracked id → protocol.isStale env now id →
      protocol.Known env id ∧ (protocol.connection id).handler.Quiet
  | .route _ => ∀ data addr destCid id, protocol.work = .routing data addr →
      env.pullDestinationCid protocol.knownCids data = .ok destCid →
      protocol.named destCid = some id → (protocol.connection id).lastAddr ≠ addr →
        protocol.connections.get addr = none
  | .deliver => ∀ id rest,
      protocol.work = .delivering id (.event (.stream .connectionClosed) :: rest) →
        protocol.Known env id ∧ (protocol.connection id).handler.Registered
  | .closeAll => ∀ id, protocol.Tracked id → (protocol.connection id).handler.Registered
  | _ => True

end DatagramProtocol

/-! ## One step -/

namespace Handler

variable {Conn Datum : Type} {env : Env Conn Datum} {handler next : Handler Conn Datum}

/-- Where the running tasks are the registered ones, cancelling these leaves none. -/
theorem Registered.cancelAllStreams (hregistered : handler.Registered) :
    handler.cancelAllStreams.Quiet := by
  intro taskId after hafter
  obtain ⟨task, htask, rfl⟩ := Option.map_eq_some_iff.mp hafter
  cases hcancelled : task.cancelled with
  | some cancellation =>
      split
      · simp
      · simp [hcancelled]
  | none =>
      rw [if_pos (hregistered taskId task htask hcancelled)]
      simp

/-- The call of a send callable leaves the tasks alone. -/
theorem send_tasks (handler : Handler Conn Datum) (id : ℕ) (callable : SendCallable)
    (message : SendMessage) : (handler.send env id callable message).tasks = handler.tasks := by
  obtain ⟨conn, sent, sends, heq⟩ := send_same env handler id callable message
  rw [heq]

/-- The end of a task takes that one away. -/
theorem finish_tasks (handler : Handler Conn Datum) (id : ℕ) (task : StreamTask)
    (ending : Ending) :
    (handler.finish env id task ending).tasks = Function.update handler.tasks id none := by
  unfold Handler.finish
  split
  case isFalse => rfl
  case isTrue =>
    obtain ⟨conn, sent, answered, heq⟩ := answerEnding_same env handler task.streamId
      (((handler.sends id).map (·.status)).getD 0) ending
    dsimp only
    rw [heq]
    rfl

/-- A handler without running tasks gets none by itself. -/
theorem Quiet.start (hquiet : handler.Quiet) {taskId : ℕ} :
    handler.step env (.start taskId) = none := by
  rw [step, Option.bind_eq_none_iff]
  intro task htask
  exact if_neg fun hguard => hquiet taskId task htask hguard.2.2

theorem Quiet.send (hquiet : handler.Quiet) {taskId : ℕ} {message : SendMessage}
    (hstep : handler.step env (.send taskId message) = some next) : next.Quiet := by
  obtain ⟨callable, -, hguard⟩ := Option.bind_eq_some_iff.mp hstep
  obtain ⟨-, rfl⟩ := Machine.of_guard hguard
  rw [Quiet, send_tasks]
  exact hquiet

theorem Quiet.finish (hquiet : handler.Quiet) {taskId : ℕ} {ending : Ending}
    (hstep : handler.step env (.finish taskId ending) = some next) : next.Quiet := by
  obtain ⟨task, -, hguard⟩ := Option.bind_eq_some_iff.mp hstep
  obtain ⟨-, rfl⟩ := Machine.of_guard hguard
  intro other left hleft
  rw [finish_tasks] at hleft
  by_cases hother : other = taskId
  case pos =>
    subst hother
    rw [Function.update_self] at hleft
    cases hleft
  case neg =>
    rw [Function.update_of_ne hother] at hleft
    exact hquiet other left hleft

end Handler

namespace DatagramProtocol

variable {Conn Datum : Type} {env : RoutingEnv Conn Datum}
  {protocol next : DatagramProtocol Conn Datum}

variable (env protocol) in
/-- The dictionaries are sound, and hold the connections that are made and worked on. -/
structure Kept : Prop where
  sound : protocol.Sound env
  made : ∀ id, protocol.Tracked id → id < protocol.nextConnection
  delivering : ∀ id rest, protocol.work = .delivering id rest → protocol.Tracked id

/-- A connection is where it was last heard from. -/
theorem Sound.stored_self (hsound : protocol.Sound env) {id : ℕ} (htracked : protocol.Tracked id) :
    protocol.connections.get (protocol.connection id).lastAddr = some id := by
  obtain ⟨addr, haddr⟩ := htracked
  rw [hsound.stored addr id haddr]
  exact haddr

/-- The connections in the dictionary are its values. -/
theorem mem_values_iff {id : ℕ} :
    id ∈ protocol.connections.entries.map Prod.snd ↔ protocol.Tracked id := by
  rw [List.mem_map]
  constructor
  · rintro ⟨⟨addr, _⟩, hentry, rfl⟩
    exact ⟨addr, Dict.mem_entries_iff.mp hentry⟩
  · rintro ⟨addr, haddr⟩
    exact ⟨(addr, id), Dict.mem_entries_iff.mpr haddr, rfl⟩

/-- What leaves the addresses alone, wakes no connection that has left, and registers IDs of
tracked connections only, keeps the dictionaries sound. -/
theorem Kept.same (hkept : protocol.Kept env)
    (hconnections : next.connections = protocol.connections)
    (hnext : next.nextConnection = protocol.nextConnection)
    (hlast : ∀ id, (next.connection id).lastAddr = (protocol.connection id).lastAddr)
    (hcids : ∀ cid id, next.cidToConn.get cid = some id →
      protocol.cidToConn.get cid = some id ∨ protocol.Tracked id)
    (hquiet : ∀ id, ¬ protocol.Tracked id → (protocol.connection id).handler.Quiet →
      (next.connection id).handler.Quiet)
    (hwork : ∀ id rest, next.work = .delivering id rest → protocol.Tracked id) :
    next.Kept env := by
  have htracked : ∀ id, next.Tracked id ↔ protocol.Tracked id := by
    intro id
    rw [Tracked, Tracked, hconnections]
  constructor
  case made =>
    intro id hid
    rw [hnext]
    exact hkept.made id ((htracked id).mp hid)
  case delivering => exact fun id rest heq => (htracked id).mpr (hwork id rest heq)
  case sound =>
    constructor
    case stored =>
      intro addr id haddr
      rw [hconnections] at haddr
      rw [hlast id]
      exact hkept.sound.stored addr id haddr
    case routed =>
      intro cid id hcid
      apply (htracked id).mpr
      rcases hcids cid id hcid with hcid | hid
      · exact hkept.sound.routed cid id hcid
      · exact hid
    case bounded =>
      rw [hconnections]
      exact hkept.sound.bounded
    case released =>
      intro id hid
      have hleft : ¬ protocol.Tracked id := fun hnot => hid ((htracked id).mpr hnot)
      exact hquiet id hleft (hkept.sound.released id hleft)

@[simp]
theorem modify_connection_self (id : ℕ)
    (change : ZoomiesConnection Conn Datum → ZoomiesConnection Conn Datum) :
    (protocol.modify id change).connection id = change (protocol.connection id) :=
  Function.update_self ..

theorem modify_connection_of_ne {id other : ℕ} (hother : other ≠ id)
    (change : ZoomiesConnection Conn Datum → ZoomiesConnection Conn Datum) :
    (protocol.modify id change).connection other = protocol.connection other :=
  Function.update_of_ne hother ..

/-- A connection that has moved is where it has moved to. -/
theorem modify_lastAddr (id : ℕ) (addr : Addr) :
    ((protocol.modify id fun connection => { connection with lastAddr := addr }).connection
      id).lastAddr = addr := by
  rw [modify_connection_self]

/-- A change of a handler does not move its connection. -/
theorem handle_lastAddr (id other : ℕ) (change : Handler Conn Datum → Handler Conn Datum) :
    ((protocol.handle id change).connection other).lastAddr =
      (protocol.connection other).lastAddr := by
  by_cases hother : other = id
  case pos =>
    subst hother
    rw [handle, modify_connection_self]
  case neg => rw [handle, modify_connection_of_ne hother]

/-- A change of a tracked connection wakes none that has left. -/
theorem handle_quiet {id other : ℕ} {change : Handler Conn Datum → Handler Conn Datum}
    (hchange : other = id → (change (protocol.connection id).handler).Quiet)
    (hquiet : (protocol.connection other).handler.Quiet) :
    ((protocol.handle id change).connection other).handler.Quiet := by
  by_cases hother : other = id
  case pos =>
    subst hother
    rw [handle, modify_connection_self]
    exact hchange rfl
  case neg =>
    rw [handle, modify_connection_of_ne hother]
    exact hquiet

/-- To serve a tracked connection keeps the dictionaries sound. -/
theorem Kept.handle (hkept : protocol.Kept env) {id : ℕ} (htracked : protocol.Tracked id)
    (change : Handler Conn Datum → Handler Conn Datum) (work : Work Datum)
    (hwork : ∀ other rest, work = .delivering other rest → other = id) :
    ({ protocol.handle id change with work } : DatagramProtocol Conn Datum).Kept env := by
  apply hkept.same
  · rfl
  · rfl
  · exact fun other => handle_lastAddr id other change
  · exact fun cid other hcid => .inl hcid
  · intro other hother hquiet
    exact handle_quiet (fun heq => absurd (heq ▸ htracked) hother) hquiet
  · intro other rest heq
    exact hwork other rest heq ▸ htracked

/-- The other variables of a tracked connection do not matter. -/
theorem Kept.work (hkept : protocol.Kept env) {work : Work Datum}
    (hwork : ∀ id rest, work = .delivering id rest → protocol.Tracked id) :
    ({ protocol with work } : DatagramProtocol Conn Datum).Kept env :=
  hkept.same rfl rfl (fun _ => rfl) (fun _ _ hcid => .inl hcid) (fun _ _ hquiet => hquiet) hwork

/-- To be idle is always sound. -/
theorem Kept.idle (hkept : protocol.Kept env) :
    ({ protocol with work := .idle } : DatagramProtocol Conn Datum).Kept env :=
  hkept.work fun _ _ heq => (by cases heq)

/-- The idle connections leave with their IDs, and are quiet. -/
theorem Kept.prune (hkept : protocol.Kept env) {now : ℤ} {data : Bytes} {addr : Addr}
    (htame : protocol.Tame env (.datagram data addr now)) :
    ({ protocol.pruneIdleConnections env now with work := .routing data addr } :
      DatagramProtocol Conn Datum).Kept env := by
  have htracked : ∀ id, (protocol.pruneIdleConnections env now).Tracked id ↔
      protocol.Tracked id ∧ protocol.isStale env now id = false := by
    intro id
    constructor
    · rintro ⟨addr, haddr⟩
      obtain ⟨haddr, hfresh⟩ := Dict.get_filter.mp haddr
      exact ⟨⟨addr, haddr⟩, (Bool.not_eq_true' _).mp hfresh⟩
    · rintro ⟨⟨addr, haddr⟩, hfresh⟩
      exact ⟨addr, Dict.get_filter.mpr ⟨haddr, (Bool.not_eq_true' _).mpr hfresh⟩⟩
  constructor
  case made => exact fun id hid => hkept.made id ((htracked id).mp hid).1
  case delivering => exact fun id rest heq => (by cases heq)
  case sound =>
    constructor
    case stored =>
      intro addr id haddr
      exact hkept.sound.stored addr id (Dict.get_filter.mp haddr).1
    case routed =>
      intro cid id hcid
      obtain ⟨hcid, hkeeps⟩ := Dict.get_filter.mp hcid
      have hid : protocol.Tracked id := hkept.sound.routed cid id hcid
      apply (htracked id).mpr
      refine ⟨hid, ?_⟩
      by_contra hstale
      rw [Bool.not_eq_false] at hstale
      have hout := List.all_eq_true.mp hkeeps id
        (List.mem_filter.mpr ⟨mem_values_iff.mpr hid, hstale⟩)
      exact of_decide_eq_true hout ((htame id hid hstale).1 cid hcid)
    case bounded => exact Dict.size_filter_le.trans hkept.sound.bounded
    case released =>
      intro id hid
      by_cases hwas : protocol.Tracked id
      case neg => exact hkept.sound.released id hwas
      case pos =>
        have hstale : protocol.isStale env now id = true := by
          by_contra hfresh
          exact hid ((htracked id).mpr ⟨hwas, Bool.eq_false_iff.mpr hfresh⟩)
        exact (htame id hwas hstale).2

/-- A connection moves to an address nobody is at. -/
theorem Kept.migrate (hkept : protocol.Kept env) {id : ℕ} (hid : protocol.Tracked id)
    {addr : Addr} (hidle : ∀ other rest, protocol.work ≠ .delivering other rest)
    (hfree : (protocol.connection id).lastAddr ≠ addr → protocol.connections.get addr = none) :
    (protocol.migrate id addr).Kept env ∧ (protocol.migrate id addr).Tracked id ∧
      ∀ other rest, (protocol.migrate id addr).work ≠ .delivering other rest := by
  rw [DatagramProtocol.migrate]
  split
  case isTrue => exact ⟨hkept, hid, hidle⟩
  case isFalse haddr =>
    have hself := hkept.sound.stored_self hid
    have hnone := hfree haddr
    have hget : ∀ other,
        ((protocol.connections.pop (protocol.connection id).lastAddr).set addr id).get other =
          if other = addr then some id
          else if other = (protocol.connection id).lastAddr then none
          else protocol.connections.get other := by
      intro other
      split
      case isTrue heq =>
        subst heq
        exact Dict.get_set_self
      case isFalse hother =>
        rw [Dict.get_set_of_ne hother]
        split
        case isTrue heq =>
          subst heq
          exact Dict.get_pop_self
        case isFalse hlast => exact Dict.get_pop_of_ne hlast
    have hentry : ∀ {at_ other},
        ((protocol.connections.pop (protocol.connection id).lastAddr).set addr id).get at_ =
          some other → (at_ = addr ∧ other = id) ∨
            (other ≠ id ∧ protocol.connections.get at_ = some other) := by
      intro at_ other hat
      rw [hget] at hat
      split at hat
      case isTrue heq => exact .inl ⟨heq, (Option.some.inj hat).symm⟩
      case isFalse =>
        split at hat
        case isTrue => cases hat
        case isFalse hlast =>
          refine .inr ⟨?_, hat⟩
          rintro rfl
          exact hlast (hkept.sound.stored at_ _ hat).symm
    have htracked : ∀ other, protocol.Tracked other →
        ∃ at_, ((protocol.connections.pop (protocol.connection id).lastAddr).set addr id).get at_ =
          some other := by
      rintro other ⟨at_, hat⟩
      by_cases hother : other = id
      case pos => exact ⟨addr, hother ▸ Dict.get_set_self⟩
      case neg =>
        refine ⟨at_, ?_⟩
        rw [hget, if_neg, if_neg]
        · exact hat
        · rintro rfl
          rw [hself] at hat
          exact hother (Option.some.inj hat).symm
        · rintro rfl
          rw [hnone] at hat
          cases hat
    have hwas : ∀ {other at_},
        ((protocol.connections.pop (protocol.connection id).lastAddr).set addr id).get at_ =
          some other → protocol.Tracked other := by
      intro other at_ hat
      rcases hentry hat with ⟨-, rfl⟩ | ⟨-, hother⟩
      · exact hid
      · exact ⟨at_, hother⟩
    have hrest : ∀ other, other ≠ id →
        (protocol.modify id fun connection => { connection with lastAddr := addr }).connection
          other = protocol.connection other :=
      fun other hother => modify_connection_of_ne hother _
    refine ⟨?_, htracked id hid, hidle⟩
    constructor
    case made =>
      rintro other ⟨at_, hat⟩
      exact hkept.made other (hwas hat)
    case delivering => exact fun other rest heq => absurd heq (hidle other rest)
    case sound =>
      constructor
      case stored =>
        intro at_ other hat
        rcases hentry hat with ⟨rfl, rfl⟩ | ⟨hother, hat⟩
        · exact modify_lastAddr ..
        · exact (congrArg ZoomiesConnection.lastAddr (hrest other hother)).trans
            (hkept.sound.stored at_ other hat)
      case routed =>
        exact fun cid other hcid => htracked other (hkept.sound.routed cid other hcid)
      case bounded =>
        have hroom : (protocol.connections.pop (protocol.connection id).lastAddr).size <
            protocol.connections.size := Dict.size_pop_lt (hself ▸ rfl)
        have hmoved : ((protocol.connections.pop (protocol.connection id).lastAddr).set addr
          id).size ≤ (protocol.connections.pop (protocol.connection id).lastAddr).size + 1 :=
          Dict.size_set_le
        exact (hmoved.trans hroom).trans hkept.sound.bounded
      case released =>
        intro other hother
        have hleft : ¬ protocol.Tracked other := fun hnot => hother (htracked other hnot)
        have hquiet := hkept.sound.released other hleft
        rw [← hrest other fun heq => hleft (heq ▸ hid)] at hquiet
        exact hquiet

/-- A new connection is stored where there was none. -/
theorem Kept.create (hkept : protocol.Kept env) {addr : Addr}
    (hidle : ∀ other rest, protocol.work ≠ .delivering other rest)
    (hfree : protocol.connections.get addr = none)
    (hroom : protocol.connections.size < env.maxConnections) :
    (protocol.createConnection addr).Kept env ∧
      (protocol.createConnection addr).Tracked protocol.nextConnection := by
  have hnew : ¬ protocol.Tracked protocol.nextConnection :=
    fun hnot => Nat.lt_irrefl _ (hkept.made _ hnot)
  have hentry : ∀ {at_ other},
      (protocol.connections.set addr protocol.nextConnection).get at_ = some other →
        (at_ = addr ∧ other = protocol.nextConnection) ∨
          protocol.connections.get at_ = some other := by
    intro at_ other hat
    by_cases heq : at_ = addr
    case pos =>
      subst heq
      rw [Dict.get_set_self] at hat
      exact .inl ⟨rfl, (Option.some.inj hat).symm⟩
    case neg =>
      rw [Dict.get_set_of_ne heq] at hat
      exact .inr hat
  have htracked : ∀ other, protocol.Tracked other →
      (protocol.createConnection addr).Tracked other := by
    rintro other ⟨at_, hat⟩
    refine ⟨at_, ?_⟩
    have hne : at_ ≠ addr := by
      rintro rfl
      rw [hfree] at hat
      cases hat
    exact (Dict.get_set_of_ne hne).trans hat
  have hrest : ∀ other, other ≠ protocol.nextConnection →
      (protocol.modify protocol.nextConnection fun connection =>
        { connection with lastAddr := addr }).connection other = protocol.connection other :=
    fun other hother => modify_connection_of_ne hother _
  refine ⟨?_, addr, Dict.get_set_self⟩
  constructor
  case made =>
    rintro other ⟨at_, hat⟩
    rcases hentry hat with ⟨-, rfl⟩ | hat
    · exact Nat.lt_succ_self _
    · exact Nat.lt_succ_of_lt (hkept.made other ⟨at_, hat⟩)
  case delivering => exact fun other rest heq => absurd heq (hidle other rest)
  case sound =>
    constructor
    case stored =>
      intro at_ other hat
      rcases hentry hat with ⟨rfl, rfl⟩ | hat
      · exact modify_lastAddr ..
      · have hne : other ≠ protocol.nextConnection := fun heq => hnew (heq ▸ ⟨at_, hat⟩)
        exact (congrArg ZoomiesConnection.lastAddr (hrest other hne)).trans
          (hkept.sound.stored at_ other hat)
    case routed => exact fun cid other hcid => htracked other (hkept.sound.routed cid other hcid)
    case bounded => exact Dict.size_set_le.trans hroom
    case released =>
      intro other hother
      have hleft : ¬ protocol.Tracked other := fun hnot => hother (htracked other hnot)
      have hquiet := hkept.sound.released other hleft
      rw [← hrest other fun heq => hother (heq ▸ ⟨addr, Dict.get_set_self⟩)] at hquiet
      exact hquiet

/-- What is registered was so before, or belongs to the connection. -/
theorem get_registerCids {id other : ℕ} {cids : List Cid} {cid : Cid}
    (hcid : (protocol.registerCids id cids).get cid = some other) :
    protocol.cidToConn.get cid = some other ∨ other = id := by
  have hfold : ∀ (cids : List Cid) (dict : Dict Cid ℕ),
      (cids.foldl (fun dict cid =>
        if cid ≠ [] ∧ dict.get cid = none then dict.set cid id else dict) dict).get cid =
          some other → dict.get cid = some other ∨ other = id := by
    intro cids
    induction cids with
    | nil => exact fun dict hdict => .inl hdict
    | cons first cids ih =>
        intro dict hdict
        rcases ih _ hdict with hnext | heq
        case inr => exact .inr heq
        case inl =>
          dsimp only at hnext
          split at hnext
          case isFalse => exact .inl hnext
          case isTrue =>
            by_cases heq : cid = first
            case pos =>
              subst heq
              rw [Dict.get_set_self] at hnext
              exact .inr (Option.some.inj hnext).symm
            case neg =>
              rw [Dict.get_set_of_ne heq] at hnext
              exact .inl hnext
  exact hfold cids _ hcid

/-- To receive for a tracked connection keeps the dictionaries sound. -/
theorem Kept.receive (hkept : protocol.Kept env) {id : ℕ} (hid : protocol.Tracked id)
    {data : Bytes} {addr : Addr} {now : ℤ} :
    (protocol.receive env id data addr now).Kept env := by
  have hactive : ∀ work : Work Datum,
      (∀ other rest, work = .delivering other rest → other = id) →
        ({ protocol.modify id fun connection => { connection with lastActivity := now } with work } :
          DatagramProtocol Conn Datum).Kept env := by
    intro work hwork
    have hrest : ∀ other, other ≠ id →
        (protocol.modify id fun connection => { connection with lastActivity := now }).connection
          other = protocol.connection other :=
      fun other hother => modify_connection_of_ne hother _
    apply hkept.same
    · rfl
    · rfl
    · intro other
      by_cases hother : other = id
      case pos =>
        subst hother
        show ((protocol.modify other fun connection =>
          { connection with lastActivity := now }).connection other).lastAddr = _
        rw [modify_connection_self]
      case neg => exact congrArg ZoomiesConnection.lastAddr (hrest other hother)
    · exact fun cid other hcid => .inl hcid
    · intro other hother hquiet
      rw [← hrest other fun heq => hother (heq ▸ hid)] at hquiet
      exact hquiet
    · intro other rest heq
      exact hwork other rest heq ▸ hid
  rw [DatagramProtocol.receive]
  split
  case h_1 => exact hactive _ fun _ _ heq => (by cases heq)
  case h_2 conn events _ =>
    have hthere : DatagramProtocol.Tracked { protocol.modify id fun connection =>
        { connection with lastActivity := now } with work := .delivering id (events.map .event) }
          id := hid
    have hserved := (hactive (.delivering id (events.map .event))
      fun other rest heq => (by cases heq; rfl)).handle hthere
        (fun handler => { handler with conn }) (.delivering id (events.map .event))
        fun other rest heq => (by cases heq; rfl)
    apply hserved.same
    · rfl
    · rfl
    · exact fun _ => rfl
    · intro cid other hcid
      rcases get_registerCids hcid with hcid | rfl
      · exact .inl hcid
      · exact .inr hid
    · exact fun _ _ hquiet => hquiet
    · intro other rest heq
      cases heq
      exact hid

/-- To route a datagram keeps the dictionaries sound. -/
theorem Kept.route (hkept : protocol.Kept env) {data : Bytes} {addr : Addr} {now : ℤ}
    (hwork : protocol.work = .routing data addr) (htame : protocol.Tame env (.route now)) :
    (protocol.route env data addr now).Kept env := by
  have hidle : ∀ other rest, protocol.work ≠ .delivering other rest := by
    intro other rest hnot
    rw [hwork] at hnot
    cases hnot
  rw [DatagramProtocol.route]
  split
  case h_1 => exact hkept.idle
  case h_2 destCid hdest =>
    rw [routeConnection]
    cases hnamed : protocol.named destCid with
    | some id =>
        obtain ⟨cid, -, hcid⟩ := Option.bind_eq_some_iff.mp hnamed
        obtain ⟨hmoved, hid, -⟩ := hkept.migrate (hkept.sound.routed cid id hcid) hidle
          (htame data addr destCid id hwork hdest hnamed)
        exact hmoved.receive hid
    | none =>
        dsimp only
        cases haddr : protocol.connections.get addr with
        | some id => exact hkept.receive ⟨addr, haddr⟩
        | none =>
            dsimp only
            split
            case isTrue => exact hkept.idle
            case isFalse hroom =>
              rw [not_or, not_le] at hroom
              obtain ⟨hmade, hid⟩ := hkept.create hidle haddr hroom.2
              exact hmade.receive hid

/-- A connection that ends leaves with its IDs, and its tasks are cancelled. -/
theorem Kept.remove (hkept : protocol.Kept env) {id : ℕ} (hid : protocol.Tracked id)
    (hknown : protocol.Known env id) (hregistered : (protocol.connection id).handler.Registered) :
    ({ (protocol.handle id Handler.cancelAllStreams).removeConnection env id with work := .idle } :
      DatagramProtocol Conn Datum).Kept env := by
  have hlast : ((protocol.handle id Handler.cancelAllStreams).connection id).lastAddr =
      (protocol.connection id).lastAddr := handle_lastAddr ..
  have hcids : (protocol.handle id Handler.cancelAllStreams).ourCids env id =
      protocol.ourCids env id := by
    rw [ourCids, DatagramProtocol.handle, modify_connection_self]
    rfl
  have hentry : ∀ addr other,
      (protocol.connections.pop
        ((protocol.handle id Handler.cancelAllStreams).connection id).lastAddr).get addr =
          some other ↔ other ≠ id ∧ protocol.connections.get addr = some other := by
    intro addr other
    rw [hlast, Dict.get_pop_eq_some]
    refine and_congr_left fun haddr => ?_
    have hself := hkept.sound.stored_self hid
    constructor
    · rintro hne rfl
      exact hne (hkept.sound.stored addr other haddr).symm
    · rintro hne rfl
      rw [hself] at haddr
      exact hne (Option.some.inj haddr).symm
  constructor
  case made =>
    rintro other ⟨addr, haddr⟩
    exact hkept.made other ⟨addr, ((hentry addr other).mp haddr).2⟩
  case delivering => exact fun other rest heq => (by cases heq)
  case sound =>
    constructor
    case stored =>
      intro addr other haddr
      exact (handle_lastAddr ..).trans
        (hkept.sound.stored addr other ((hentry addr other).mp haddr).2)
    case routed =>
      intro cid other hcid
      obtain ⟨hcid, hout⟩ := Dict.get_filter.mp hcid
      obtain ⟨addr, haddr⟩ := hkept.sound.routed cid other hcid
      refine ⟨addr, (hentry addr other).mpr ⟨?_, haddr⟩⟩
      rintro rfl
      apply of_decide_eq_true hout
      rw [hcids]
      exact hknown cid hcid
    case bounded => exact Dict.size_pop_le.trans hkept.sound.bounded
    case released =>
      intro other hother
      by_cases heq : other = id
      case pos =>
        subst heq
        have hquiet := hregistered.cancelAllStreams
        have hself : (protocol.handle other Handler.cancelAllStreams).connection other =
            { protocol.connection other with
              handler := (protocol.connection other).handler.cancelAllStreams } :=
          modify_connection_self ..
        exact hself ▸ hquiet
      case neg =>
        have hleft : ¬ protocol.Tracked other := by
          rintro ⟨addr, haddr⟩
          exact hother ⟨addr, (hentry addr other).mpr ⟨heq, haddr⟩⟩
        exact handle_quiet (fun hnot => absurd hnot heq) (hkept.sound.released other hleft)

/-- What is reported of a connection keeps the dictionaries sound. -/
theorem Kept.deliverNext (hkept : protocol.Kept env) {id : ℕ} {part : Delivery Datum}
    {rest : List (Delivery Datum)} (hwork : protocol.work = .delivering id (part :: rest))
    (htame : protocol.Tame env .deliver) : (protocol.deliverNext env id part rest).Kept env := by
  have hid : protocol.Tracked id := hkept.delivering id _ hwork
  have hon : ∀ {parts : List (Delivery Datum)} other left,
      Work.delivering id parts = Work.delivering other left → other = id := by
    intro parts other left heq
    cases heq
    rfl
  have hdict : ∀ dict : Dict Cid ℕ,
      (∀ cid other, dict.get cid = some other →
        protocol.cidToConn.get cid = some other ∨ protocol.Tracked other) →
      ({ protocol with cidToConn := dict, work := .delivering id rest } :
        DatagramProtocol Conn Datum).Kept env := by
    intro dict hcids
    apply hkept.same
    · rfl
    · rfl
    · exact fun _ => rfl
    · exact hcids
    · exact fun _ _ hquiet => hquiet
    · exact fun other left heq => hon other left heq ▸ hid
  rw [DatagramProtocol.deliverNext.eq_def]
  split
  case h_1 => exact hkept.remove hid (htame id rest hwork).1 (htame id rest hwork).2
  case h_2 => exact hkept.handle hid _ _ hon
  case h_3 =>
    split
    case h_1 => exact hkept.idle
    case h_2 => exact hkept.handle hid _ _ hon
  case h_4 connectionId =>
    apply hdict
    intro cid other hcid
    by_cases heq : cid = connectionId
    case pos =>
      subst heq
      rw [Dict.get_set_self] at hcid
      exact .inr (Option.some.inj hcid ▸ hid)
    case neg =>
      rw [Dict.get_set_of_ne heq] at hcid
      exact .inl hcid
  case h_5 => exact hdict _ fun cid other hcid => .inl (Dict.get_pop_eq_some.mp hcid).2
  case h_6 => exact hdict _ fun cid other hcid => .inl hcid
  case h_7 =>
    split
    case h_1 => exact hkept.handle hid _ _ fun _ _ heq => (by cases heq)
    case h_2 => exact hkept.handle hid _ _ hon

/-- A task keeps the dictionaries sound, and wakes no connection that has left. -/
theorem Kept.stepTask (hkept : protocol.Kept env) {id : ℕ} {action : Action}
    (hquiet : ∀ after, (protocol.connection id).handler.Quiet →
      (protocol.connection id).handler.step (protocol.envOf env id) action = some after →
        after.Quiet)
    (hstep : protocol.stepTask env id action = some next) : next.Kept env := by
  rw [DatagramProtocol.stepTask, Option.ite_none_right_eq_some] at hstep
  obtain ⟨hidle, hstep⟩ := hstep
  obtain ⟨after, hafter, rfl⟩ := Option.map_eq_some_iff.mp hstep
  apply hkept.same
  · rfl
  · rfl
  · exact fun other => handle_lastAddr ..
  · exact fun cid other hcid => .inl hcid
  · intro other hother hother
    apply handle_quiet _ hother
    rintro rfl
    exact hquiet after hother hafter
  · exact fun other rest heq => hkept.delivering other rest heq

/-- At a shutdown all connections leave, and their tasks are cancelled. -/
theorem Kept.closeAll (hkept : protocol.Kept env) (htame : protocol.Tame env .closeAll)
    (hidle : protocol.work.isIdle) : protocol.closeAllConnections.Kept env := by
  have hnone : ∀ id, ¬ protocol.closeAllConnections.Tracked id := by
    rintro id ⟨addr, hnot⟩
    cases hnot
  constructor
  case made => exact fun id hid => absurd hid (hnone id)
  case delivering =>
    intro id rest heq
    rw [show protocol.work = .delivering id rest from heq] at hidle
    cases hidle
  case sound =>
    constructor
    case stored => exact fun addr id haddr => absurd ⟨addr, haddr⟩ (hnone id)
    case routed => exact fun cid id hcid => (by cases hcid)
    case bounded => exact Nat.zero_le _
    case released =>
      intro id _
      rw [closeAllConnections]
      dsimp only
      split
      case isTrue hid => exact (htame id (mem_values_iff.mp hid)).cancelAllStreams
      case isFalse hid => exact hkept.sound.released id fun hnot => hid (mem_values_iff.mpr hnot)

/-- A tame step keeps the dictionaries sound. -/
theorem kept_step {action : RoutingAction} (hkept : protocol.Kept env)
    (htame : protocol.Tame env action) (hstep : protocol.step env action = some next) :
    next.Kept env := by
  cases action with
  | datagram data addr now =>
      obtain ⟨-, rfl⟩ := Machine.of_guard hstep
      exact hkept.prune htame
  | route now =>
      rw [step] at hstep
      split at hstep
      case h_1 data addr hwork =>
        obtain rfl := Option.some.inj hstep
        exact hkept.route hwork htame
      case h_2 => cases hstep
  | deliver =>
      rw [step] at hstep
      split at hstep
      case h_1 =>
        obtain rfl := Option.some.inj hstep
        exact hkept.idle
      case h_2 id part rest hwork =>
        obtain rfl := Option.some.inj hstep
        exact hkept.deliverNext hwork htame
      case h_3 => cases hstep
  | start id taskId =>
      apply hkept.stepTask _ hstep
      intro after hquiet hafter
      rw [hquiet.start] at hafter
      cases hafter
  | send id taskId message => exact hkept.stepTask (fun _ hquiet => hquiet.send) hstep
  | finish id taskId ending => exact hkept.stepTask (fun _ hquiet => hquiet.finish) hstep
  | drain =>
      obtain ⟨-, rfl⟩ := Machine.of_guard hstep
      apply hkept.same
      · rfl
      · rfl
      · exact fun _ => rfl
      · exact fun _ _ hcid => .inl hcid
      · exact fun _ _ hquiet => hquiet
      · exact hkept.delivering
  | closeAll =>
      obtain ⟨hidle, rfl⟩ := Machine.of_guard hstep
      exact hkept.closeAll htame hidle

end DatagramProtocol

/-- In every tame run the dictionaries are sound. -/
theorem routed_sound {Conn Datum : Type} (env : RoutingEnv Conn Datum)
    {protocol : DatagramProtocol Conn Datum}
    (hreach : (routingMachine env).Reach (fun protocol action => protocol.Tame env action)
      protocol) : protocol.Sound env := by
  have hkept : protocol.Kept env := by
    apply hreach.invariant
    · rintro _ rfl
      constructor
      case made => exact fun id ⟨_, hnot⟩ => (by cases hnot)
      case delivering => exact fun _ _ hnot => (by cases hnot)
      case sound =>
        constructor
        case stored => exact fun _ _ hnot => (by cases hnot)
        case routed => exact fun _ _ hnot => (by cases hnot)
        case bounded => exact Nat.zero_le _
        case released => exact fun _ _ _ _ hnot => (by cases hnot)
    · exact fun protocol action next hkept htame hstep =>
        DatagramProtocol.kept_step hkept htame hstep
  exact hkept.sound

/-! ## A slow request -/

/-- The head of a request. -/
def slowHead : List Header :=
  [(ascii ":method", ascii "GET"), (ascii ":path", ascii "/"), (ascii ":scheme", ascii "https"),
    (ascii ":authority", ascii "a")]

/-- A library that takes everything. The first datagram of a connection brings a request, and
the others name the first connection. -/
def slowEnv : RoutingEnv ℕ (List H3Event) where
  h3 := {
    codec := {
      datagramReceived := fun conn _ => .ok (conn, [])
      handleEvent := fun conn events => .ok (conn, events)
      sendHeaders := fun conn _ _ _ => .ok conn
      sendData := fun conn _ _ _ => .ok conn
      signalStopSending := fun conn _ => .ok conn } }
  maxConnections := 100
  idleTimeout := 30
  create := id
  datagramReceived conn data _ := .ok (conn, if data = [1] then
    [.stream (.streamDataReceived [.headersReceived 0 slowHead true false])] else [])
  ourCids conn := [[UInt8.ofNat conn]]
  pullDestinationCid _ data := .ok (if data = [1] then none else some [0])

/-- The protocol before its first datagram. -/
def listening : DatagramProtocol ℕ (List H3Event) :=
  { connection := fun id => { handler := { conn := id } } }

/-- A request, after which the peer is heard from at another address. -/
def moved : List RoutingAction :=
  [.datagram [1] ("10.0.0.1", 4433) 0, .route 0, .deliver, .deliver, .deliver, .start 0 0,
    .datagram [2] ("10.0.0.2", 4433) 1, .route 1, .deliver]

/-- A request that takes long, until a datagram comes from elsewhere. -/
def forgotten : List RoutingAction :=
  [.datagram [1] ("10.0.0.1", 4433) 0, .route 0, .deliver, .deliver, .deliver, .start 0 0,
    .datagram [1] ("10.0.0.2", 4433) 60]

/-- Where the connections are, and whether the task of the first one goes on. -/
def routingState (actions : List RoutingAction) : Option (List (Addr × ℕ) × Option Bool) :=
  ((routingMachine slowEnv).run listening actions).map fun protocol =>
    (protocol.connections.entries,
      ((protocol.connection 0).handler.tasks 0).map (·.cancelled.isNone))

theorem listening_init : (routingMachine slowEnv).init listening := rfl

set_option maxRecDepth 8000 in
theorem routed_sound_moved :
    ∃ protocol, (routingMachine slowEnv).run listening moved = some protocol ∧
      protocol.Sound slowEnv := by
  have halong : (routingMachine slowEnv).Along (fun protocol action => protocol.Tame slowEnv action)
      listening moved := by
    have hnone : ∀ id, ¬ listening.Tracked id := by
      rintro id ⟨addr, hnot⟩
      cases hnot
    refine .cons (fun id hid => absurd hid (hnone id)) rfl (.cons ?_ rfl (.cons ?_ rfl
      (.cons ?_ rfl (.cons ?_ rfl (.cons trivial rfl (.cons ?_ rfl (.cons ?_ rfl
        (.cons ?_ rfl trivial))))))))
    · intro data addr destCid id hwork hdest hnamed
      cases hwork
      cases hdest
      cases hnamed
    · exact fun id rest hnot => (by cases hnot)
    · exact fun id rest hnot => (by cases hnot)
    · exact fun id rest hnot => (by cases hnot)
    · intro id hid hstale
      have hmem := DatagramProtocol.mem_values_iff.mpr hid
      obtain rfl : id = 0 := List.mem_singleton.mp hmem
      exact absurd hstale (by decide)
    · intro data addr destCid id hwork _ _ _
      cases hwork
      decide
    · exact fun id rest hnot => (by cases hnot)
  exact ⟨_, rfl, routed_sound slowEnv (Machine.Reach.run (.init listening_init) halong rfl)⟩

set_option maxRecDepth 8000 in
theorem routingState_forgotten : routingState forgotten = some ([], some true) := by
  decide

/-- The task of a connection that was idle for too long goes on. -/
theorem routed_sound_forgotten :
    ¬ ∀ protocol, (routingMachine slowEnv).Reachable protocol → protocol.Sound slowEnv := by
  intro hclaim
  obtain ⟨protocol, hrun, hstate⟩ := Option.map_eq_some_iff.mp routingState_forgotten
  obtain ⟨hentries, htask⟩ := Prod.mk.inj hstate
  obtain ⟨task, htask, hrunning⟩ := Option.map_eq_some_iff.mp htask
  have hsound := hclaim protocol (Machine.reachable_run listening_init hrun)
  have hleft : ¬ protocol.Tracked 0 := by
    intro hnot
    have hmem := DatagramProtocol.mem_values_iff.mpr hnot
    rw [hentries] at hmem
    cases hmem
  exact hsound.released 0 hleft 0 task htask (Option.isNone_iff_eq_none.mp hrunning)

end Pounce.H3
