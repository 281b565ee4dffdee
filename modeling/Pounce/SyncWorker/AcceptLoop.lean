/-
# The threads that take connections

A synchronous worker accepts connections itself, or takes those a distributor has accepted and
queued. Whatever thread it is, an exception that comes out of its loop ends it: no other turn
follows, and no other connection is taken.

`loop_survives` says when that does not happen. Accepting ends the loop where the socket option
cannot be set, where the TLS handshake fails with anything but an `SSLError`, or where the client
never says anything in it; serving a connection ends it where a turn is not `CycleContained`, or
where the name of a Unix socket is taken for a pair. Otherwise the loop goes on: a turn without a
request closes the connection (`AfterTurn`).
-/

import Pounce.Math.Transition
import Pounce.SyncWorker.Handlers

namespace Pounce.SyncWorker

open Pounce.Math Pounce.Math.Bytes

/-! ## The loops -/

/-- What a thread does: accept and serve, serve what is in the queue, accept for the queue. -/
inductive Role
  | worker
  | queueWorker
  | distributor
  deriving DecidableEq, Repr

/-- What the TLS handshake comes to. -/
inductive Handshake
  | done
  | sslError
  /-- Another `OSError`, for instance a reset. -/
  | osError
  /-- The client says nothing more. The socket is blocking and has no timeout. -/
  | silent
  deriving DecidableEq, Repr

/-- A connection of a client. -/
structure Arrival where
  /-- It is a connection over IP. -/
  inet : Bool := true
  /-- `TCP_NODELAY` can be set on it. -/
  nodelay : Bool := true
  handshake : Handshake := .done
  peername : SockName
  sockname : SockName
  /-- The client takes what is sent while its request is received. -/
  writable : Bool := true
  deriving DecidableEq, Repr

/-- What has become of the socket of a connection. -/
inductive Fate
  | closed
  /-- It belongs to the asynchronous pool. -/
  | handedOff
  /-- It is in the queue of the workers. -/
  | queued
  /-- Nothing closes it. -/
  | abandoned
  deriving DecidableEq, Repr

/-- Where a thread is. -/
inductive Phase (capacity : ℕ)
  /-- At the top of its loop. -/
  | waiting
  /-- In the loop of a connection, before or after the thread was told to stop. -/
  | serving (session : Session capacity) (draining : Bool)
  /-- In the loop that deals with late connections. -/
  | draining
  | stopped
  /-- In the handshake with a client that says nothing. -/
  | handshaking
  /-- An exception has left the loop. -/
  | dead (error : PyError)

/-- A thread with all connections it has taken. -/
structure Thread (capacity : ℕ) where
  phase : Phase capacity
  buffer : RecvBuffer capacity
  activeConnections : ℕ
  /-- The number of connections taken. -/
  taken : ℕ
  /-- What became of those it is through with. -/
  fates : List Fate

/-- What happens to a thread. -/
inductive Action
  /-- No connection comes before the next look at the events. -/
  | timeout
  /-- The listener fails. The thread looks whether it is to stop, and if for good. -/
  | acceptError (stopping : Option Bool)
  /-- The listener has been closed when its timeout is to be set. -/
  | listenerClosed
  /-- A connection is accepted, with the drain event of the distributor. -/
  | accept (arrival : Arrival) (draining : Bool)
  /-- A connection is taken from the queue. -/
  | dequeue (arrival : Arrival)
  /-- A turn of the loop of a connection. -/
  | cycle (cycle : Cycle)
  /-- The thread is to stop, for good or because others take over. -/
  | stop (shutdown : Bool)
  /-- A late connection is answered 503. -/
  | refuse
  /-- There are no more late connections. -/
  | drained

variable {capacity : ℕ}

/-- The number of connections in hand. -/
def Phase.connections : Phase capacity → ℕ
  | .serving .. => 1
  | _ => 0

/-- A connection has been taken and is disposed of. -/
def Thread.dispose (thread : Thread capacity) (fate : Fate) : Thread capacity :=
  { thread with taken := thread.taken + 1, fates := thread.fates ++ [fate] }

/-- The end of `_handle_connection`. -/
def Thread.finish (thread : Thread capacity) (phase : Phase capacity) (fate : Fate) :
    Thread capacity :=
  { thread with
    phase
    activeConnections := thread.activeConnections - 1
    fates := thread.fates ++ [fate] }

/-- A thread that was told to stop deals with late connections if it is for good. A distributor
has no such loop. -/
def stopPhase (role : Role) (shutdown : Bool) : Phase capacity :=
  if shutdown ∧ role ≠ .distributor then .draining else .stopped

variable (role : Role) (env : Env)

/-- The beginning of `_handle_connection`. -/
def beginConnection (thread : Thread capacity) (arrival : Arrival) (draining : Bool) :
    Thread capacity :=
  let thread := { thread with
    activeConnections := thread.activeConnections + 1, taken := thread.taken + 1 }
  match openConnection env arrival.peername arrival.sockname with
  | .error error => thread.finish (.dead error) .closed
  | .ok (client, server) =>
      let socket := { recvs := [], writable := arrival.writable }
      { thread with
        phase := .serving { conn := { buffer := thread.buffer.reset, socket }, client, server }
          draining }

/-- What follows a successful `accept`. -/
def acceptConnection (thread : Thread capacity) (arrival : Arrival) (draining : Bool) :
    Thread capacity :=
  if arrival.inet ∧ !arrival.nodelay then
    { thread.dispose .abandoned with phase := .dead .osError }
  else
    match if env.tls then arrival.handshake else .done with
    -- `wrap_socket` closes the socket when it fails
    | .osError => { thread.dispose .closed with phase := .dead .osError }
    | .sslError => thread.dispose .closed
    | .silent => { thread.dispose .abandoned with phase := .handshaking }
    | .done =>
        if role = .distributor then thread.dispose (if draining then .closed else .queued)
        else beginConnection env thread arrival false

/-- A turn of the loop of a connection, within its handlers. -/
def cycleConnection (thread : Thread capacity) (session : Session capacity) (draining : Bool)
    (cycle : Cycle) : Thread capacity :=
  match exceptOSError (serveCycle env session cycle) (.stop, session) with
  | .error error => thread.finish (.dead error) .closed
  | .ok (.again, session) => { thread with phase := .serving session draining }
  | .ok (.stop, session) =>
      { thread with buffer := session.conn.buffer }.finish
        (if draining then .draining else .waiting) .closed
  | .ok (.handedOff, session) =>
      { thread with buffer := session.conn.buffer }.finish
        (if draining then .draining else .waiting) .handedOff

/-- What an action does where it is enabled. -/
def step (thread : Thread capacity) (action : Action) : Option (Thread capacity) :=
  match thread.phase, action with
  | .waiting, .timeout => some thread
  | .waiting, .acceptError stopping =>
      if role = .queueWorker then none
      else match stopping with
        | some shutdown => some { thread with phase := stopPhase role shutdown }
        | none => some { thread with phase := .dead .osError }
  | .waiting, .listenerClosed =>
      if role = .queueWorker then none else some { thread with phase := .dead .osError }
  | .waiting, .accept arrival draining =>
      if role = .queueWorker then none
      else some (acceptConnection role env thread arrival draining)
  | .waiting, .dequeue arrival =>
      if role = .queueWorker then some (beginConnection env thread arrival false) else none
  | .waiting, .stop shutdown => some { thread with phase := stopPhase role shutdown }
  | .serving session draining, .cycle cycle =>
      some (cycleConnection env thread session draining cycle)
  | .draining, .dequeue arrival =>
      if role = .queueWorker then some (beginConnection env thread arrival true) else none
  | .draining, .refuse => some (thread.dispose .closed)
  | .draining, .drained => some { thread with phase := .stopped }
  | _, _ => none

/-- A thread, with everything clients, application and supervisor do. -/
def machine : Machine (Thread capacity) Action where
  init thread := thread.phase = .waiting ∧ thread.activeConnections = 0 ∧ thread.taken = 0 ∧
    thread.fates = []
  step := step role env

/-! ## What a thread survives -/

/-- The names of both ends can be taken for a pair. -/
def Arrival.Readable (arrival : Arrival) : Prop :=
  arrival.peername.Readable env ∧ arrival.sockname.Readable env

/-- Accepting a connection raises nothing, and comes to an end. -/
structure Arrival.Contained (arrival : Arrival) : Prop where
  nodelay : arrival.inet → arrival.nodelay
  handshake : env.tls → arrival.handshake = .done ∨ arrival.handshake = .sslError
  readable : (env.tls → arrival.handshake = .done) → role ≠ .distributor → arrival.Readable env

/-- An action that raises nothing out of the loop and does not hold it up. -/
def Contained (thread : Thread capacity) : Action → Prop
  | .acceptError stopping => stopping.isSome
  | .listenerClosed => False
  | .accept arrival _ => arrival.Contained role env
  | .dequeue arrival => arrival.Readable env
  | .cycle cycle => ∀ session draining, thread.phase = .serving session draining →
      CycleContained env session cycle
  | _ => True

/-- No exception has left the loop, and nothing holds it up. -/
def Phase.alive : Phase capacity → Bool
  | .dead _ | .handshaking => false
  | _ => true

/-- The accounts of a thread. -/
structure Accounted (thread : Thread capacity) : Prop where
  active : thread.activeConnections = thread.phase.connections
  /-- A connection that has been taken is in hand, or something has become of it. -/
  taken : thread.taken = thread.fates.length + thread.phase.connections
  kept : thread.phase.alive → .abandoned ∉ thread.fates

/-- The thread has no connection in hand and is alive. -/
structure Phase.Idle (phase : Phase capacity) : Prop where
  connections : phase.connections = 0
  alive : phase.alive

variable {role env}

/-- Handling a connection begins unless its names cannot be read. -/
theorem beginConnection_alive {thread : Thread capacity} {arrival : Arrival} {draining : Bool} :
    (beginConnection env thread arrival draining).phase.alive ↔ arrival.Readable env := by
  rw [Arrival.Readable, ← raisesNothing_openConnection, raisesNothing_iff]
  unfold beginConnection
  cases hopen : openConnection env arrival.peername arrival.sockname with
  | error error => simp [Thread.finish, Phase.alive]
  | ok ends => simp [Phase.alive]

/-- A connection is accepted without an exception if it is contained. -/
theorem acceptConnection_alive {thread : Thread capacity} {arrival : Arrival} {draining : Bool}
    (hphase : thread.phase = .waiting) :
    (acceptConnection role env thread arrival draining).phase.alive ↔
      arrival.Contained role env := by
  have hdispose : ∀ fate, (thread.dispose fate).phase.alive = true := by
    intro fate
    rw [Thread.dispose, hphase]
    rfl
  unfold acceptConnection
  split
  case isTrue hoption =>
    simp only [Phase.alive, Bool.false_eq_true, false_iff]
    intro hcontained
    have hnodelay := hcontained.nodelay hoption.1
    rw [hnodelay] at hoption
    exact absurd hoption.2 Bool.false_ne_true
  case isFalse hoption =>
    have hnodelay : arrival.inet → arrival.nodelay := by
      intro hinet
      simpa [hinet] using hoption
    split
    case h_1 hhandshake =>
      simp only [Phase.alive, Bool.false_eq_true, false_iff]
      intro hcontained
      split at hhandshake
      case isTrue htls =>
        obtain hdone | hssl := hcontained.handshake htls
        · cases hdone.symm.trans hhandshake
        · cases hssl.symm.trans hhandshake
      case isFalse => cases hhandshake
    case h_2 hhandshake =>
      rw [hdispose, eq_self, true_iff]
      split at hhandshake
      case isFalse => cases hhandshake
      case isTrue htls =>
        constructor
        case nodelay => exact hnodelay
        case handshake => simp [hhandshake]
        case readable =>
          intro hdone
          rw [hhandshake] at hdone
          cases hdone htls
    case h_3 hhandshake =>
      simp only [Phase.alive, Bool.false_eq_true, false_iff]
      intro hcontained
      split at hhandshake
      case isTrue htls =>
        obtain hdone | hssl := hcontained.handshake htls
        · cases hdone.symm.trans hhandshake
        · cases hssl.symm.trans hhandshake
      case isFalse => cases hhandshake
    case h_4 hhandshake =>
      have hdone : env.tls → arrival.handshake = .done := by
        intro htls
        rwa [if_pos htls] at hhandshake
      have hok : env.tls → arrival.handshake = .done ∨ arrival.handshake = .sslError :=
        fun htls => .inl (hdone htls)
      split
      case isTrue hrole =>
        rw [hdispose, eq_self, true_iff]
        exact ⟨hnodelay, hok, fun _ hother => absurd hrole hother⟩
      case isFalse hrole =>
        rw [beginConnection_alive]
        constructor
        · intro hreadable
          exact ⟨hnodelay, hok, fun _ _ => hreadable⟩
        · intro hcontained
          exact hcontained.readable hdone hrole

/-- A turn of the loop of a connection leaves the thread alive if it is contained. -/
theorem cycleConnection_alive {thread : Thread capacity} {session : Session capacity}
    {draining : Bool} {cycle : Cycle} :
    (cycleConnection env thread session draining cycle).phase.alive ↔
      CycleContained env session cycle := by
  have hquiet : RaisesNothing (exceptOSError (serveCycle env session cycle) (.stop, session)) ↔
      CycleContained env session cycle :=
    raisesNothing_exceptOSError.trans handled_serveCycle
  rw [← hquiet, raisesNothing_iff]
  unfold cycleConnection
  cases exceptOSError (serveCycle env session cycle) (.stop, session) with
  | error error => simp [Thread.finish, Phase.alive]
  | ok turn =>
      obtain ⟨ending, session⟩ := turn
      cases ending with
      | again => simp [Phase.alive]
      | stop => cases draining <;> simp [Thread.finish, Phase.alive]
      | handedOff => cases draining <;> simp [Thread.finish, Phase.alive]

/-- A thread that is told to stop has no connection in hand and is alive. -/
theorem stopPhase_idle (shutdown : Bool) : (stopPhase role shutdown : Phase capacity).Idle := by
  unfold stopPhase
  split
  case isTrue => exact ⟨rfl, rfl⟩
  case isFalse => exact ⟨rfl, rfl⟩

/-- A step leaves the thread alive exactly if it is contained. -/
theorem step_alive {thread next : Thread capacity} {action : Action}
    (hstep : step role env thread action = some next) :
    next.phase.alive ↔ Contained role env thread action := by
  unfold step at hstep
  split at hstep
  case h_1 hphase =>
    obtain rfl := Option.some.inj hstep
    simp [Contained, hphase, Phase.alive]
  case h_2 stopping hphase =>
    split at hstep
    case isTrue => cases hstep
    case isFalse =>
      cases stopping with
      | none =>
          obtain rfl := Option.some.inj hstep
          simp [Contained, Phase.alive]
      | some shutdown =>
          obtain rfl := Option.some.inj hstep
          simp [Contained, (stopPhase_idle shutdown).alive]
  case h_3 hphase =>
    split at hstep
    case isTrue => cases hstep
    case isFalse =>
      obtain rfl := Option.some.inj hstep
      simp [Contained, Phase.alive]
  case h_4 arrival draining hphase =>
    split at hstep
    case isTrue => cases hstep
    case isFalse =>
      obtain rfl := Option.some.inj hstep
      exact acceptConnection_alive hphase
  case h_5 arrival hphase =>
    obtain ⟨-, rfl⟩ := Machine.of_guard hstep
    exact beginConnection_alive
  case h_6 shutdown hphase =>
    obtain rfl := Option.some.inj hstep
    simp [Contained, (stopPhase_idle shutdown).alive]
  case h_7 session draining cycle hphase =>
    obtain rfl := Option.some.inj hstep
    rw [cycleConnection_alive]
    constructor
    · intro hcontained other otherDraining hother
      obtain ⟨rfl, -⟩ := Phase.serving.inj (hphase.symm.trans hother)
      exact hcontained
    · intro hcontained
      exact hcontained session draining hphase
  case h_8 arrival hphase =>
    obtain ⟨-, rfl⟩ := Machine.of_guard hstep
    exact beginConnection_alive
  case h_9 hphase =>
    obtain rfl := Option.some.inj hstep
    simp [Contained, Thread.dispose, hphase, Phase.alive]
  case h_10 hphase =>
    obtain rfl := Option.some.inj hstep
    simp [Contained, Phase.alive]
  case h_11 => cases hstep

/-! ## The accounts -/

/-- Disposing of a connection in another way than by an exception keeps the accounts. -/
theorem Accounted.dispose {thread : Thread capacity} (haccounted : Accounted thread)
    (hidle : thread.phase.Idle) (fate : Fate) {phase : Phase capacity}
    (hphase : phase.connections = 0) (hkept : phase.alive → fate ≠ .abandoned) :
    Accounted { thread.dispose fate with phase } := by
  have hactive := haccounted.active
  have htaken := haccounted.taken
  rw [hidle.connections] at hactive htaken
  constructor
  case active =>
    rw [hphase]
    exact hactive
  case taken =>
    rw [hphase]
    change thread.taken + 1 = (thread.fates ++ [fate]).length + 0
    rw [htaken, List.length_append]
    rfl
  case kept =>
    intro halive hmem
    obtain hold | hnew := List.mem_append.mp hmem
    · exact haccounted.kept hidle.alive hold
    · exact hkept halive (List.mem_singleton.mp hnew).symm

/-- Moving to another phase without a connection keeps them. -/
theorem Accounted.move {thread : Thread capacity} (haccounted : Accounted thread)
    (hidle : thread.phase.Idle) {phase : Phase capacity} (hphase : phase.connections = 0) :
    Accounted { thread with phase } := by
  have hactive := haccounted.active
  have htaken := haccounted.taken
  rw [hidle.connections] at hactive htaken
  constructor
  case active => rw [hphase]; exact hactive
  case taken => rw [hphase]; exact htaken
  case kept => exact fun _ => haccounted.kept hidle.alive

/-- Finishing a connection keeps them. -/
theorem Accounted.finish {thread : Thread capacity} (haccounted : Accounted thread)
    (hserving : thread.phase.connections = 1) (halive : thread.phase.alive)
    {phase : Phase capacity} (hphase : phase.connections = 0) {fate : Fate}
    (hkept : fate ≠ .abandoned) : Accounted (thread.finish phase fate) := by
  have hactive := haccounted.active
  have htaken := haccounted.taken
  rw [hserving] at hactive htaken
  constructor
  case active =>
    change thread.activeConnections - 1 = phase.connections
    rw [hactive, hphase]
  case taken =>
    change thread.taken = (thread.fates ++ [fate]).length + phase.connections
    rw [htaken, hphase, List.length_append]
    rfl
  case kept =>
    intro _ hmem
    obtain hold | hnew := List.mem_append.mp hmem
    · exact haccounted.kept halive hold
    · exact hkept (List.mem_singleton.mp hnew).symm

/-- Beginning with a connection keeps them. -/
theorem Accounted.begin {thread : Thread capacity} (haccounted : Accounted thread)
    (hidle : thread.phase.Idle) (arrival : Arrival) (draining : Bool) :
    Accounted (beginConnection env thread arrival draining) := by
  have hbegun : ∀ session, Accounted { thread with
      phase := .serving session draining
      activeConnections := thread.activeConnections + 1
      taken := thread.taken + 1 } := by
    intro session
    have hactive := haccounted.active
    have htaken := haccounted.taken
    rw [hidle.connections] at hactive htaken
    constructor
    case active => exact congrArg (· + 1) hactive
    case taken => exact congrArg (· + 1) htaken
    case kept => exact fun _ => haccounted.kept hidle.alive
  unfold beginConnection
  split
  case h_1 error _ =>
    have hserving := hbegun
      { conn := { buffer := thread.buffer, socket := { recvs := [] } }, client := ("", 0),
        server := ("", 0) }
    exact (hserving.finish rfl rfl rfl (fun hsame => Fate.noConfusion hsame) :
      Accounted (Thread.finish _ (.dead error) .closed))
  case h_2 => exact hbegun _

/-- Accepting a connection keeps them. -/
theorem Accounted.accept {thread : Thread capacity} (haccounted : Accounted thread)
    (hphase : thread.phase = .waiting) (arrival : Arrival) (draining : Bool) :
    Accounted (acceptConnection role env thread arrival draining) := by
  have hidle : thread.phase.Idle := by
    rw [hphase]
    exact ⟨rfl, rfl⟩
  unfold acceptConnection
  split
  case isTrue => exact haccounted.dispose hidle _ rfl fun halive => Bool.noConfusion halive
  case isFalse =>
    split
    case h_1 => exact haccounted.dispose hidle _ rfl fun halive => Bool.noConfusion halive
    case h_2 =>
      exact haccounted.dispose hidle .closed hidle.connections fun _ hsame => Fate.noConfusion hsame
    case h_3 => exact haccounted.dispose hidle _ rfl fun halive => Bool.noConfusion halive
    case h_4 =>
      split
      case isTrue =>
        apply haccounted.dispose hidle _ hidle.connections
        intro _ hsame
        cases draining <;> cases hsame
      case isFalse => exact haccounted.begin hidle arrival false

/-- A turn of the loop of a connection keeps them. -/
theorem Accounted.cycle {thread : Thread capacity} (haccounted : Accounted thread)
    {session : Session capacity} {draining : Bool}
    (hphase : thread.phase = .serving session draining) (cycle : Cycle) :
    Accounted (cycleConnection env thread session draining cycle) := by
  have hserving : thread.phase.connections = 1 := by rw [hphase]; rfl
  have halive : thread.phase.alive = true := by rw [hphase]; rfl
  have hback : (if draining then .draining else .waiting : Phase capacity).connections = 0 := by
    cases draining <;> rfl
  have hbuffer : ∀ buffer, Accounted { thread with buffer } :=
    fun buffer => ⟨haccounted.active, haccounted.taken, haccounted.kept⟩
  unfold cycleConnection
  split
  case h_1 => exact haccounted.finish hserving halive rfl fun hsame => Fate.noConfusion hsame
  case h_2 =>
    constructor
    case active => exact haccounted.active.trans hserving
    case taken =>
      change thread.taken = thread.fates.length + 1
      rw [haccounted.taken, hserving]
    case kept => exact fun _ => haccounted.kept halive
  case h_3 last _ =>
    exact (hbuffer last.conn.buffer).finish hserving halive hback
      fun hsame => Fate.noConfusion hsame
  case h_4 last _ =>
    exact (hbuffer last.conn.buffer).finish hserving halive hback
      fun hsame => Fate.noConfusion hsame

/-- Every step keeps the accounts. -/
theorem accounted_step {thread next : Thread capacity} {action : Action}
    (haccounted : Accounted thread) (hstep : step role env thread action = some next) :
    Accounted next := by
  have hwaiting : thread.phase = .waiting → thread.phase.Idle := by
    intro hphase
    rw [hphase]
    exact ⟨rfl, rfl⟩
  have hdraining : thread.phase = .draining → thread.phase.Idle := by
    intro hphase
    rw [hphase]
    exact ⟨rfl, rfl⟩
  unfold step at hstep
  split at hstep
  case h_1 =>
    obtain rfl := Option.some.inj hstep
    exact haccounted
  case h_2 stopping hphase =>
    split at hstep
    case isTrue => cases hstep
    case isFalse =>
      cases stopping with
      | none =>
          obtain rfl := Option.some.inj hstep
          exact haccounted.move (hwaiting hphase) rfl
      | some shutdown =>
          obtain rfl := Option.some.inj hstep
          exact haccounted.move (hwaiting hphase) (stopPhase_idle shutdown).connections
  case h_3 hphase =>
    split at hstep
    case isTrue => cases hstep
    case isFalse =>
      obtain rfl := Option.some.inj hstep
      exact haccounted.move (hwaiting hphase) rfl
  case h_4 arrival draining hphase =>
    split at hstep
    case isTrue => cases hstep
    case isFalse =>
      obtain rfl := Option.some.inj hstep
      exact haccounted.accept hphase arrival draining
  case h_5 arrival hphase =>
    obtain ⟨-, rfl⟩ := Machine.of_guard hstep
    exact haccounted.begin (hwaiting hphase) arrival false
  case h_6 shutdown hphase =>
    obtain rfl := Option.some.inj hstep
    exact haccounted.move (hwaiting hphase) (stopPhase_idle shutdown).connections
  case h_7 session draining cycle hphase =>
    obtain rfl := Option.some.inj hstep
    exact haccounted.cycle hphase cycle
  case h_8 arrival hphase =>
    obtain ⟨-, rfl⟩ := Machine.of_guard hstep
    exact haccounted.begin (hdraining hphase) arrival true
  case h_9 hphase =>
    obtain rfl := Option.some.inj hstep
    have hidle := hdraining hphase
    exact haccounted.dispose hidle .closed hidle.connections fun _ hsame => Fate.noConfusion hsame
  case h_10 hphase =>
    obtain rfl := Option.some.inj hstep
    exact haccounted.move (hdraining hphase) rfl
  case h_11 => cases hstep

/-! ## The loop goes on -/

/-- Where a thread is when it is through with a connection. -/
def backPhase (draining : Bool) : Phase capacity := if draining then .draining else .waiting

/-- What a turn has received. -/
def receivedIn (env : Env) (session : Session capacity) (cycle : Cycle) : Received :=
  (recvRequestFast env.config (session.receiving cycle)).1

/-- What a turn makes of the connection in hand. If a request has come, the connection may be
handed over, or be kept for another turn unless that was the last request it is for; in any other
case it is closed. The thread goes back to its loop when it is through with it. -/
def AfterTurn (env : Env) (thread next : Thread capacity) (session : Session capacity)
    (draining : Bool) (cycle : Cycle) : Prop :=
  (∃ request body again, receivedIn env session cycle = .request request body ∧
    next.phase = .serving again draining ∧ next.fates = thread.fates ∧
    again.requestCount = session.requestCount + 1 ∧
    (0 < env.config.maxRequestsPerConnection →
      again.requestCount < env.config.maxRequestsPerConnection)) ∨
  next.phase = backPhase draining ∧
    (next.fates = thread.fates ++ [.closed] ∨ next.fates = thread.fates ++ [.handedOff] ∧
      ∃ request body, receivedIn env session cycle = .request request body)

/-- The next connection is taken: it is disposed of at once or served. -/
def TakesNext (role : Role) (env : Env) (thread : Thread capacity) (action : Action) : Prop :=
  ∃ next, step role env thread action = some next ∧ next.taken = thread.taken + 1 ∧
    (next.phase = .waiting ∧ (∃ fate, fate ≠ .abandoned ∧ next.fates = thread.fates ++ [fate]) ∨
      ∃ session, next.phase = .serving session false ∧ next.fates = thread.fates)

/-- Having sent and logged a response, the turn ends as it was to. -/
theorem serializeSendAndLog_ok {cycle : Cycle} {ending last : Ending} {written : Option Written}
    (hserved : serializeSendAndLog env cycle ending written = .ok last) : last = ending := by
  cases written with
  | none => cases hserved
  | some written =>
      rw [serializeSendAndLog] at hserved
      cases hsent : sendParts env cycle with
      | error error => rw [hsent] at hserved; cases hserved
      | ok _ =>
          cases hlogged : logRequest cycle with
          | error error => rw [hsent, hlogged] at hserved; cases hserved
          | ok _ =>
              rw [hsent, hlogged] at hserved
              exact (Except.ok.inj hserved).symm

theorem serveBuiltin_ok {exchange : Exchange} {cycle : Cycle} {ending last : Ending}
    {builtin : Builtin}
    (hserved : serveBuiltin env exchange cycle ending builtin = .ok last) : last = ending := by
  rw [serveBuiltin] at hserved
  dsimp only at hserved
  split at hserved
  case h_1 => cases hserved
  case h_2 =>
    cases hsent : cycle.send.run with
    | error error => rw [hsent] at hserved; cases hserved
    | ok _ =>
        rw [hsent] at hserved
        split at hserved
        case isTrue =>
          cases hlogged : logRequest cycle with
          | error error => rw [hlogged] at hserved; cases hserved
          | ok _ =>
              rw [hlogged] at hserved
              exact (Except.ok.inj hserved).symm
        case isFalse => exact (Except.ok.inj hserved).symm

/-- A connection is kept for another turn only if it may have another request. -/
theorem answerRequest_again {client : String} {server : String × ℕ} {request : RequestReceived}
    {count : ℕ} {cycle : Cycle}
    (hagain : answerRequest env client server request count cycle = .ok .again) :
    0 < env.config.maxRequestsPerConnection →
      count + 1 < env.config.maxRequestsPerConnection := by
  have hkept : ∀ exchange : Exchange,
      exchange.atLimit = (exchangeOf env request count cycle).atLimit →
      Ending.again = (if exchange.closeAfter || exchange.atLimit then .stop else .again) →
      0 < env.config.maxRequestsPerConnection →
        count + 1 < env.config.maxRequestsPerConnection := by
    intro exchange hsame hending hlimited
    have hroom : exchange.atLimit = false := by
      cases hlimit : exchange.atLimit with
      | false => rfl
      | true => simp [hlimit] at hending
    have hopen : ¬ (0 < env.config.maxRequestsPerConnection ∧
        env.config.maxRequestsPerConnection ≤ count + 1) := by
      simpa [exchangeOf] using hsame.symm.trans hroom
    omega
  rw [answerRequest] at hagain
  split at hagain
  case isTrue => cases hpool : env.asyncPool <;> simp [hpool] at hagain
  case isFalse =>
    dsimp only at hagain
    split at hagain
    case h_1 result _ =>
      cases result with
      | raised error | unusable error => cases hagain
      | response response => cases serializeSendAndLog_ok hagain
    case h_2 =>
      rw [answerScoped] at hagain
      cases hprepared : prepareRequest env client server request cycle.uuid with
      | error error => rw [hprepared] at hagain; cases hagain
      | ok prepared =>
          rw [hprepared] at hagain
          change answerPrepared env request prepared.2 (exchangeOf env request count cycle) cycle =
            .ok .again at hagain
          rw [answerPrepared] at hagain
          split at hagain
          case h_1 => exact hkept _ rfl (serveBuiltin_ok hagain)
          case h_2 =>
            rw [answerInline] at hagain
            dsimp only at hagain
            split at hagain
            case isTrue => cases hagain
            case isFalse =>
              split at hagain
              case isTrue => cases hpool : env.asyncPool <;> simp [hpool] at hagain
              case isFalse => exact hkept _ rfl (serializeSendAndLog_ok hagain)

/-- A turn that is answered has received a request. -/
theorem serveCycle_ok {session after : Session capacity} {cycle : Cycle} {ending : Ending}
    (hserved : serveCycle env session cycle = .ok (ending, after)) :
    ending = .stop ∨ ∃ request body, receivedIn env session cycle = .request request body ∧
      after.requestCount = session.requestCount + 1 ∧
      answerRequest env session.client.1 session.server request session.requestCount cycle =
        .ok ending := by
  rw [serveCycle] at hserved
  split at hserved
  case isTrue => exact .inl (Prod.mk.inj (Except.ok.inj hserved)).1.symm
  case isFalse =>
    dsimp only at hserved
    split at hserved
    case h_1 request body hreceived =>
      cases hanswered : answerRequest env session.client.1 session.server request
        session.requestCount cycle with
      | error error => rw [hanswered] at hserved; cases hserved
      | ok last =>
          rw [hanswered] at hserved
          obtain ⟨rfl, rfl⟩ := Prod.mk.inj (Except.ok.inj hserved)
          exact .inr ⟨request, body, hreceived, rfl, hanswered⟩
    case h_2 => exact .inl (Prod.mk.inj (Except.ok.inj hserved)).1.symm

/-- A turn that raises nothing leaves the connection answered or closed. -/
theorem afterTurn_cycleConnection {thread : Thread capacity} {session : Session capacity}
    {draining : Bool} {cycle : Cycle} (hcontained : CycleContained env session cycle) :
    AfterTurn env thread (cycleConnection env thread session draining cycle) session draining
      cycle := by
  have hquiet : RaisesNothing (exceptOSError (serveCycle env session cycle) (.stop, session)) :=
    raisesNothing_exceptOSError.mpr (handled_serveCycle.mpr hcontained)
  obtain ⟨⟨ending, after⟩, hturn⟩ := raisesNothing_iff.mp hquiet
  have hserved : ending = .stop ∨ serveCycle env session cycle = .ok (ending, after) := by
    cases hcycle : serveCycle env session cycle with
    | ok turn =>
        rw [hcycle] at hturn
        exact .inr hturn
    | error error =>
        rw [hcycle, exceptOSError] at hturn
        split at hturn
        case isTrue => exact .inl (Prod.mk.inj (Except.ok.inj hturn)).1.symm
        case isFalse => cases hturn
  have hanswered := hserved.elim .inl serveCycle_ok
  rw [cycleConnection, hturn]
  cases ending with
  | again =>
      obtain hstop | ⟨request, body, hreceived, hcount, hagain⟩ := hanswered
      · cases hstop
      · refine .inl ⟨request, body, after, hreceived, rfl, rfl, hcount, ?_⟩
        rw [hcount]
        exact answerRequest_again hagain
  | stop => exact .inr ⟨rfl, .inl rfl⟩
  | handedOff =>
      obtain hstop | ⟨request, body, hreceived, -⟩ := hanswered
      · cases hstop
      · exact .inr ⟨rfl, .inr ⟨rfl, request, body, hreceived⟩⟩

/-- A connection that can be read is served. -/
theorem beginConnection_serves (thread : Thread capacity) {arrival : Arrival} (draining : Bool)
    (hreadable : arrival.Readable env) : ∃ session,
      (beginConnection env thread arrival draining).phase = .serving session draining ∧
      (beginConnection env thread arrival draining).fates = thread.fates ∧
      (beginConnection env thread arrival draining).taken = thread.taken + 1 := by
  obtain ⟨ends, hopened⟩ := raisesNothing_iff.mp (raisesNothing_openConnection.mpr hreadable)
  rw [beginConnection, hopened]
  exact ⟨_, rfl, rfl, rfl⟩

/-- At the top of its loop a thread takes the next connection. -/
theorem takesNext_of_waiting {thread : Thread capacity} (hphase : thread.phase = .waiting)
    (arrival : Arrival) (draining : Bool) :
    (role ≠ .queueWorker → arrival.Contained role env →
      TakesNext role env thread (.accept arrival draining)) ∧
    (role = .queueWorker → arrival.Readable env →
      TakesNext role env thread (.dequeue arrival)) := by
  constructor
  · intro hrole hcontained
    refine ⟨acceptConnection role env thread arrival draining, ?_, ?_⟩
    · simp [step, hphase, hrole]
    · have hdisposed : ∀ fate, fate ≠ .abandoned → (thread.dispose fate).taken = thread.taken + 1 ∧
          ((thread.dispose fate).phase = .waiting ∧
            (∃ last, last ≠ .abandoned ∧ (thread.dispose fate).fates = thread.fates ++ [last]) ∨
            ∃ session, (thread.dispose fate).phase = .serving session false ∧
              (thread.dispose fate).fates = thread.fates) :=
        fun fate hkept => ⟨rfl, .inl ⟨hphase, fate, hkept, rfl⟩⟩
      rw [acceptConnection, if_neg (by
        rintro ⟨hinet, hnot⟩
        simp [hcontained.nodelay hinet] at hnot)]
      split
      case h_1 hhandshake | h_3 hhandshake =>
        split at hhandshake
        case isTrue htls =>
          obtain hdone | hssl := hcontained.handshake htls
          · cases hdone.symm.trans hhandshake
          · cases hssl.symm.trans hhandshake
        case isFalse => cases hhandshake
      case h_2 => exact hdisposed .closed (fun hsame => Fate.noConfusion hsame)
      case h_4 hhandshake =>
        split
        case isTrue =>
          apply hdisposed
          cases draining <;> exact fun hsame => Fate.noConfusion hsame
        case isFalse hworker =>
          have hdone : env.tls → arrival.handshake = .done := by
            intro htls
            rwa [if_pos htls] at hhandshake
          obtain ⟨session, hserving, hfates, htaken⟩ := beginConnection_serves thread false
            (hcontained.readable hdone hworker)
          exact ⟨htaken, .inr ⟨session, hserving, hfates⟩⟩
  · intro hrole hreadable
    obtain ⟨session, hserving, hfates, htaken⟩ :=
      beginConnection_serves thread false hreadable
    refine ⟨beginConnection env thread arrival false, ?_, htaken, .inr ⟨session, hserving, hfates⟩⟩
    simp [step, hphase, hrole]

/-! ## The loop survives -/

/-- In all runs whose steps are contained no exception has left the loop, the count of active
connections is right, and the socket of every connection that was taken is in hand, closed,
queued or handed over. A connection in hand is closed or handed over as soon as a turn brings no
further request, and then the next one is taken. A step that is not contained ends the loop. -/
theorem loop_survives (role : Role) (env : Env) (thread : Thread capacity)
    (hreach : (machine role env).Reach (Contained role env) thread) :
    thread.phase.alive ∧
      thread.activeConnections = thread.phase.connections ∧
      thread.taken = thread.fates.length + thread.phase.connections ∧
      .abandoned ∉ thread.fates ∧
      (∀ session draining cycle, thread.phase = .serving session draining →
        CycleContained env session cycle →
        ∃ next, step role env thread (.cycle cycle) = some next ∧
          AfterTurn env thread next session draining cycle) ∧
      (thread.phase = .waiting → ∀ arrival draining,
        (role ≠ .queueWorker → arrival.Contained role env →
          TakesNext role env thread (.accept arrival draining)) ∧
        (role = .queueWorker → arrival.Readable env →
          TakesNext role env thread (.dequeue arrival))) ∧
      ∀ action next, step role env thread action = some next →
        (next.phase.alive ↔ Contained role env thread action) := by
  have hinvariant : thread.phase.alive ∧ Accounted thread := by
    apply hreach.invariant
    · rintro thread ⟨hphase, hactive, htaken, hfates⟩
      refine ⟨by rw [hphase]; rfl, ?_⟩
      constructor
      case active => rw [hphase]; exact hactive
      case taken => rw [hphase, hfates]; exact htaken
      case kept => rw [hfates]; exact fun _ => List.not_mem_nil
    · intro thread action next hinv hcontained hstep
      exact ⟨(step_alive hstep).mpr hcontained, accounted_step hinv.2 hstep⟩
  obtain ⟨halive, haccounted⟩ := hinvariant
  refine ⟨halive, haccounted.active, haccounted.taken, haccounted.kept halive, ?_, ?_, ?_⟩
  · intro session draining cycle hphase hcontained
    refine ⟨cycleConnection env thread session draining cycle, ?_,
      afterTurn_cycleConnection hcontained⟩
    simp [step, hphase]
  · exact takesNext_of_waiting
  · intro action next hstep
    exact step_alive hstep

/-- A worker without TLS, a fused application, a pool and built-in endpoints. -/
def plainEnv : Env where
  decimalValue _ := none
  negotiate _ _ := (none, none)
  builtin _ := none

/-- A thread that has just been started. -/
def freshThread (capacity : ℕ) : Thread capacity where
  phase := .waiting
  buffer :=
    { bytes := List.replicate capacity 0
      len := 0
      length_bytes := List.length_replicate
      len_le := Nat.zero_le _ }
  activeConnections := 0
  taken := 0
  fates := []

/-- A connection over IP. -/
def localArrival : Arrival where
  peername := .inet "127.0.0.1" 50000
  sockname := .inet "127.0.0.1" 8000

/-- A request for the root, answered on the inline path. -/
def getCycle : Cycle where
  recvs := [.data (ascii "GET / HTTP/1.1\r\n\r\n")]
  messages := [.responseStart 200 [(ascii "content-type", ascii "text/plain")],
    .responseBody (ascii "hello") false]
  uuid := { hex := ascii "0", clean := by decide }

/-- The end of the stream. -/
def endCycle : Cycle where
  recvs := [.data []]
  uuid := { hex := ascii "1", clean := by decide }

/-- The connection before its request. -/
def localSession : Session 64 where
  conn := { buffer := (freshThread 64).buffer.reset, socket := { recvs := [] } }
  client := ("127.0.0.1", 50000)
  server := ("127.0.0.1", 8000)

/-- The connection after it. -/
def servedSession : Session 64 :=
  { localSession with
    conn := (recvRequestFast plainEnv.config (localSession.receiving getCycle)).2
    requestCount := 1 }

/-- The turn with the request is contained. -/
theorem getCycle_contained : CycleContained plainEnv localSession getCycle := by
  intro _ request body hrequest
  have hreceived : (recvRequestFast plainEnv.config (localSession.receiving getCycle)).1 =
      .request { method := ascii "GET", target := ascii "/", headers := [], httpVersion := .http11 }
        [] := rfl
  obtain ⟨rfl, -⟩ := Received.request.inj (hreceived.symm.trans hrequest)
  intro _
  constructor
  · intro htrusted
    exact absurd htrusted (by decide)
  · intro _ _
    constructor
    · constructor
      case given => decide
      case declared => decide
      case encoding => decide
      case own => decide
    · refine ⟨rfl, fun _ error herror => ?_⟩
      cases herror

/-- The turn at the end of the stream is, too. -/
theorem endCycle_contained : CycleContained plainEnv servedSession endCycle := by
  intro _ request body hrequest
  have hreceived : (recvRequestFast plainEnv.config (servedSession.receiving endCycle)).1 =
      .stopped := rfl
  cases hreceived.symm.trans hrequest

/-- The thread when it has accepted the connection, answered the request, and found the end. -/
def acceptedThread : Thread 64 :=
  acceptConnection .worker plainEnv (freshThread 64) localArrival false
def answeredThread : Thread 64 :=
  cycleConnection plainEnv acceptedThread localSession false getCycle
def servedThread : Thread 64 :=
  cycleConnection plainEnv answeredThread servedSession false endCycle

/-- The thread gets there by contained steps. -/
theorem reach_servedThread :
    (machine .worker plainEnv).Reach (Contained .worker plainEnv) servedThread := by
  have hstarted : (machine .worker plainEnv).Reach (Contained .worker plainEnv) (freshThread 64) :=
    .init ⟨rfl, rfl, rfl, rfl⟩
  have haccepted : (machine .worker plainEnv).Reach (Contained .worker plainEnv)
      acceptedThread := by
    have hstep : (machine .worker plainEnv).step (freshThread 64) (.accept localArrival false) =
        some acceptedThread := rfl
    apply hstarted.step _ hstep
    exact ⟨fun _ => rfl, fun _ => .inl rfl, fun _ _ => ⟨trivial, trivial⟩⟩
  have hanswered : (machine .worker plainEnv).Reach (Contained .worker plainEnv)
      answeredThread := by
    have hstep : (machine .worker plainEnv).step acceptedThread (.cycle getCycle) =
        some answeredThread := rfl
    apply haccepted.step _ hstep
    intro session draining hphase
    obtain ⟨rfl, -⟩ := Phase.serving.inj hphase
    exact getCycle_contained
  have hstep : (machine .worker plainEnv).step answeredThread (.cycle endCycle) =
      some servedThread := rfl
  apply hanswered.step _ hstep
  intro session draining hphase
  obtain ⟨rfl, -⟩ := Phase.serving.inj hphase
  exact endCycle_contained

/-- A thread that has served a connection, which is closed, and takes the next one. -/
theorem loop_survives_get :
    servedThread.fates = [.closed] ∧ servedThread.activeConnections = 0 ∧
      TakesNext .worker plainEnv servedThread (.accept localArrival false) := by
  obtain ⟨-, hactive, -, -, -, htakes, -⟩ :=
    loop_survives .worker plainEnv servedThread reach_servedThread
  exact ⟨rfl, hactive, (htakes rfl localArrival false).1 (fun hsame => Role.noConfusion hsame)
    ⟨fun _ => rfl, fun _ => .inl rfl, fun _ _ => ⟨trivial, trivial⟩⟩⟩

/-- The listener is sound and the access log raises nothing: what goes wrong is up to the
clients and the application. -/
def undisturbed (_ : Thread capacity) : Action → Prop
  | .acceptError stopping => stopping.isSome
  | .listenerClosed => False
  | .cycle cycle => cycle.logFilter = none
  | _ => True

/-- A worker with TLS. -/
def tlsEnv : Env := { plainEnv with tls := true }

/-- A client that resets the connection during the handshake. -/
def resetArrival : Arrival := { localArrival with handshake := .osError }

/-- It ends the loop. -/
theorem handshake_reset : ¬ ∀ (role : Role) (env : Env) (thread : Thread recvCapacity),
    (machine role env).Reach undisturbed thread → thread.phase.alive := by
  intro hclaim
  have hstarted : (machine .worker tlsEnv).Reach undisturbed (freshThread recvCapacity) :=
    .init ⟨rfl, rfl, rfl, rfl⟩
  have hallowed : undisturbed (freshThread recvCapacity) (.accept resetArrival false) := trivial
  have hstep : (machine .worker tlsEnv).step (freshThread recvCapacity)
      (.accept resetArrival false) = some
        { (freshThread recvCapacity).dispose .closed with phase := .dead .osError } := rfl
  exact absurd (hclaim _ _ _ (hstarted.step hallowed hstep)) Bool.false_ne_true

end Pounce.SyncWorker
