/-
# The server that reloads

`_run_single_with_reload` runs the server with a single worker again and again. Beside it the file
watcher asks it to stop whenever it sees a change, and any thread may ask it to stop for good; both
call `shutdown`, which sets an event and then wakes the event loop, if there is one. In between
the main thread clears the events, binds, runs a new event loop, and imports the application anew.

The threads take their steps in any order. What the main thread does comes in rounds all the same,
the application is the one last imported, and a server that has been told to stop since it cleared
the event does stop.
-/

import Pounce.Math.Trace
import Pounce.Server.FileWatcher

namespace Pounce.Reload

open Pounce.Math

/-! ## The threads -/

/-- What `_run_single_with_reload` does next. -/
inductive Phase
  /-- Clear `_shutdown_event`. -/
  | resetting
  /-- Clear `reload_requested`. -/
  | clearing
  /-- Forget the loop. -/
  | forgetting
  | binding
  /-- Start a loop. -/
  | starting
  /-- Honour a shutdown that has been asked for before there was a loop. -/
  | honouring
  /-- Serve, and drain. -/
  | running
  /-- Look whether a reload is requested. -/
  | deciding
  | importing
  /-- It has returned or raised. -/
  | ended (raised : Bool)
  deriving DecidableEq, Repr

/-- Where a call of `shutdown` is. -/
inductive Call
  /-- About to set `_shutdown_event`. -/
  | setting
  /-- About to look for a loop. -/
  | looking
  /-- About to wake the loop with this number, if there was one. -/
  | posting (loop : Option ℕ)
  deriving DecidableEq, Repr

/-- Where the watcher is. -/
inductive Watcher
  /-- It has not looked yet. -/
  | absent
  | waiting
  | polling
  /-- About to set `reload_requested`. -/
  | requesting
  | calling (call : Call)
  deriving DecidableEq, Repr

/-- It is about to call `shutdown`, or does. -/
def Watcher.tells : Watcher → Bool
  | .requesting | .calling _ => true
  | .absent | .waiting | .polling => false

/-- It is in a call of `shutdown`. -/
def Watcher.calls : Watcher → Bool
  | .calling _ => true
  | .absent | .waiting | .polling | .requesting => false

/-- How an import ends. -/
inductive Imported (App : Type)
  | app (app : App)
  /-- An exception. -/
  | failed
  /-- An exception that is none of an application, such as one that exits. -/
  | exited
  deriving DecidableEq, Repr

/-- What the server and the watcher do. -/
inductive Act (App : Type)
  | bind
  | ready
  | closeSockets
  /-- Changes are reported. -/
  | detected (files : List (List String))
  | reloadStart
  | reimport (imported : Imported App)
  | reloadFailed
  | cleanup
  | shutdownComplete
  deriving DecidableEq, Repr

/-- What the configuration decides. -/
structure Settings where
  /-- There is a UDP listener for HTTP/3. -/
  udp : Bool := false
  /-- The application is known by its path. -/
  appPath : Bool := true
  reloadInclude : List String := []
  deriving DecidableEq, Repr

/-- The `Server`, the events, and the threads. -/
structure Server (App Stamp : Type) where
  phase : Phase := .resetting
  /-- `_shutdown_event` -/
  shutdownEvent : Bool := false
  reloadRequested : Bool := false
  /-- How many loops there have been. -/
  generation : ℕ := 0
  /-- `_loop`, by its number. -/
  loop : Option ℕ := none
  /-- `_async_shutdown` of the newest loop is set. -/
  asyncShutdown : Bool := false
  /-- `_app` -/
  app : App
  watcher : Watcher := .absent
  /-- What the watcher has seen last. -/
  snapshot : WatchedFiles Stamp := .empty
  /-- The files as they are. -/
  files : WatchedFiles Stamp
  /-- The calls of `shutdown` by others than the watcher. -/
  calls : List Call := []

/-- What may happen. -/
inductive Action (App Stamp : Type)
  /-- The files change. -/
  | edit (files : WatchedFiles Stamp)
  /-- Some thread calls `shutdown`. -/
  | call
  /-- Such a call goes on. -/
  | advance (index : ℕ)
  /-- The loop handles a signal. -/
  | signal
  /-- The watcher looks for the first time. -/
  | look
  /-- It has waited long enough. -/
  | wake
  | poll
  | request
  /-- Its call goes on. -/
  | tell
  | reset
  | clear
  | forget
  /-- The listeners are bound, or not. -/
  | bind (tcp udp : Bool)
  | start
  | honour
  /-- The loop ends, as `_async_shutdown` is set. -/
  | stop
  /-- The loop raises, a `KeyboardInterrupt` or something else. -/
  | abort (interrupt : Bool)
  | decide
  | reimport (imported : Imported App)

/-- The end of `_run_single_with_reload`. -/
def farewell {App : Type} : List (Act App) := [.cleanup, .shutdownComplete]

namespace Server

variable {App Stamp : Type} (settings : Settings) (server : Server App Stamp)

/-- The loop has been started and not ended. -/
def live : Bool := server.phase = .honouring || server.phase = .running

/-- `call_soon_threadsafe(async_shutdown.set)`, which does nothing to a loop that is closed. -/
def post (loop : Option ℕ) : Server App Stamp :=
  { server with asyncShutdown :=
      server.asyncShutdown || (server.live && loop = some server.generation) }

/-- What a call of `shutdown` does next. -/
def carryOut : Call → Server App Stamp
  | .setting => { server with shutdownEvent := true }
  | .looking => server
  | .posting loop => server.post loop

/-- Where it is then, unless it has returned. -/
def follow : Call → Option Call
  | .setting => some .looking
  | .looking => some (.posting server.loop)
  | .posting _ => none

section

variable {server}

@[simp]
theorem carryOut_phase (call : Call) : (server.carryOut call).phase = server.phase := by
  cases call <;> rfl

@[simp]
theorem carryOut_app (call : Call) : (server.carryOut call).app = server.app := by
  cases call <;> rfl

@[simp]
theorem carryOut_reloadRequested (call : Call) :
    (server.carryOut call).reloadRequested = server.reloadRequested := by
  cases call <;> rfl

@[simp]
theorem carryOut_watcher (call : Call) : (server.carryOut call).watcher = server.watcher := by
  cases call <;> rfl

end

/-- The watched files as they are. -/
def current : WatchedFiles Stamp :=
  watchedSnapshot (watchedExtensions settings.reloadInclude) server.files

variable [DecidableEq Stamp]

/-- Compare, and tell if something has changed. -/
def poll : Server App Stamp × List (Act App) :=
  let changed := detectChanges (server.current settings) server.snapshot
  if changed = [] then
    ({ server with snapshot := server.current settings, watcher := .waiting }, [])
  else
    ({ server with snapshot := server.current settings, watcher := .requesting }, [.detected changed])

/-- The watcher's call goes on. -/
def tell : Server App Stamp :=
  match server.watcher with
  | .calling call =>
      { server.carryOut call with watcher := (server.follow call).elim .waiting .calling }
  | _ => server

/-- A call of another thread goes on. -/
def advance (index : ℕ) : Server App Stamp :=
  match server.calls[index]? with
  | some call =>
      { server.carryOut call with
        calls := (server.follow call).elim (server.calls.eraseIdx index) (server.calls.set index) }
  | none => server

/-- Bind the listeners. The first is not closed when the second cannot be bound. -/
def bind (tcp udp : Bool) : Server App Stamp × List (Act App) :=
  if !tcp then ({ server with phase := .ended true }, farewell)
  else if settings.udp && !udp then ({ server with phase := .ended true }, .bind :: farewell)
  else ({ server with phase := .starting }, [.bind, .ready])

/-- The loop has ended; go on if a reload is requested. -/
def decide : Server App Stamp × List (Act App) :=
  if server.reloadRequested then
    ({ server with phase := if settings.appPath then .importing else .resetting }, [.reloadStart])
  else ({ server with phase := .ended false }, farewell)

/-- Import the application. If that fails the previous one is served. -/
def reimport (imported : Imported App) : Server App Stamp × List (Act App) :=
  match imported with
  | .app app =>
      ({ server with phase := .resetting, app }, [.reimport (.app app)])
  | .failed => ({ server with phase := .resetting }, [.reimport .failed, .reloadFailed])
  | .exited => ({ server with phase := .ended true }, .reimport .exited :: farewell)

/-- What can happen. -/
def Enabled : Action App Stamp → Prop
  | .edit _ | .call => True
  | .advance index => index < server.calls.length
  | .signal => server.phase = .running
  | .stop => server.phase = .running ∧ server.asyncShutdown = true
  | .look => server.watcher = .absent
  | .wake => server.watcher = .waiting ∧ server.phase ≠ .ended true ∧ server.phase ≠ .ended false
  | .poll => server.watcher = .polling
  | .request => server.watcher = .requesting
  | .tell => server.watcher.calls = true
  | .reset => server.phase = .resetting
  | .clear => server.phase = .clearing
  | .forget => server.phase = .forgetting
  | .bind .. => server.phase = .binding
  | .start => server.phase = .starting
  | .honour => server.phase = .honouring
  | .abort _ => server.phase = .starting ∨ server.live = true
  | .decide => server.phase = .deciding
  | .reimport _ => server.phase = .importing

instance (action : Action App Stamp) : Decidable (server.Enabled action) := by
  cases action <;> unfold Enabled <;> infer_instance

/-- What happens then. -/
def effect : Action App Stamp → Server App Stamp × List (Act App)
  | .edit files => ({ server with files }, [])
  | .call => ({ server with calls := server.calls ++ [.setting] }, [])
  | .advance index => (server.advance index, [])
  | .signal => ({ server with shutdownEvent := true, asyncShutdown := true }, [])
  | .look => ({ server with watcher := .waiting, snapshot := server.current settings }, [])
  | .wake => ({ server with watcher := .polling }, [])
  | .poll => server.poll settings
  | .request => ({ server with reloadRequested := true, watcher := .calling .setting }, [])
  | .tell => (server.tell, [])
  | .reset => ({ server with shutdownEvent := false, phase := .clearing }, [])
  | .clear => ({ server with reloadRequested := false, phase := .forgetting }, [])
  | .forget => ({ server with loop := none, phase := .binding }, [])
  | .bind tcp udp => server.bind settings tcp udp
  | .start =>
      ({ server with
        generation := server.generation + 1, loop := some (server.generation + 1)
        asyncShutdown := false, phase := .honouring }, [])
  | .honour =>
      ({ server with
        asyncShutdown := server.asyncShutdown || server.shutdownEvent, phase := .running }, [])
  | .stop => ({ server with loop := none, phase := .deciding }, [.closeSockets])
  | .abort interrupt =>
      ({ server with phase := .ended !interrupt }, .closeSockets :: farewell)
  | .decide => server.decide settings
  | .reimport imported => server.reimport imported

/-- One step. -/
def step (action : Action App Stamp) : Option (Server App Stamp × List (Act App)) :=
  if server.Enabled action then some (server.effect settings action) else none

end Server

variable {App Stamp : Type}

/-- The server with its first application; it may have been told to stop before. -/
def reloadEmitter [DecidableEq Stamp] (settings : Settings) (app : App) :
    Emitter (Server App Stamp) (Action App Stamp) (Act App) where
  init server := ∃ files shutdownEvent, server = { app, files, shutdownEvent }
  step server := server.step settings

/-! ## What is promised in every run -/

/-- A round that ended in a reload. -/
inductive Round (App : Type)
  /-- There was no path to import the application from. -/
  | restarted
  | failed
  | reloaded (app : App)

namespace Round

/-- What the main thread has done in a round. -/
def acts : Round App → List (Act App)
  | .restarted => [.bind, .ready, .closeSockets, .reloadStart]
  | .failed => [.bind, .ready, .closeSockets, .reloadStart, .reimport .failed, .reloadFailed]
  | .reloaded app => [.bind, .ready, .closeSockets, .reloadStart, .reimport (.app app)]

/-- The application that is served after a round. -/
def served (before : App) : Round App → App
  | .restarted | .failed => before
  | .reloaded app => app

end Round

/-- What the main thread may have done in a round that has ended the server. -/
def Last (raised : Bool) (acts : List (Act App)) : Prop :=
  acts = [.bind, .ready, .closeSockets] ∨ raised = true ∧
    (acts = [] ∨ acts = [.bind] ∨
      acts = [.bind, .ready, .closeSockets, .reloadStart, .reimport .exited])

/-- What it has done of a round. -/
def Partial : Phase → List (Act App) → Prop
  | .resetting, acts | .clearing, acts | .forgetting, acts | .binding, acts => acts = []
  | .starting, acts | .honouring, acts | .running, acts => acts = [.bind, .ready]
  | .deciding, acts => acts = [.bind, .ready, .closeSockets]
  | .importing, acts => acts = [.bind, .ready, .closeSockets, .reloadStart]
  | .ended raised, acts => ∃ done, acts = done ++ farewell ∧ Last raised done

/-- It is done by the main thread. -/
def Act.main : Act App → Bool
  | .detected _ => false
  | _ => true

/-- A change is reported. -/
def Act.detects : Act App → Bool
  | .detected _ => true
  | _ => false

/-- A reload is begun. -/
def Act.reloads : Act App → Bool
  | .reloadStart => true
  | _ => false

/-- A server that reloads. -/
structure ReloadLawful (first : App) (server : Server App Stamp) (acts : List (Act App)) : Prop where
  /-- The main thread binds and closes its sockets in turn, and cleans up once, at the very end. The
  application is the one that was last imported. -/
  rounds : ∃ (rounds : List (Round App)) (done : List (Act App)),
    acts.filter Act.main = rounds.flatMap Round.acts ++ done ∧ Partial server.phase done ∧
      server.app = rounds.foldl Round.served first
  /-- There are no more reloads than reports of changes. -/
  caused : acts.countP Act.reloads ≤ acts.countP Act.detects
  /-- If the server has been told to stop since it was reset, and nobody is still about to wake the
  loop, then the loop knows. -/
  told : server.phase = .running → server.shutdownEvent = true → server.calls = [] →
    server.watcher.tells = false → server.asyncShutdown = true

/-! ## The invariant of every run -/

section

variable {settings : Settings} {server next : Server App Stamp} {first app : App} {phase : Phase}
  {acts more : List (Act App)} {action : Action App Stamp}

/-- What the main thread has done, and the application that is served. -/
def Rounds (first app : App) (phase : Phase) (acts : List (Act App)) : Prop :=
  ∃ (rounds : List (Round App)) (done : List (Act App)),
    acts.filter Act.main = rounds.flatMap Round.acts ++ done ∧ Partial phase done ∧
      app = rounds.foldl Round.served first

/-- The main thread goes on with its round. -/
theorem Rounds.proceed {after : Phase} (hrounds : Rounds first app phase acts)
    (hgoes : ∀ done, Partial phase done → Partial after (done ++ more.filter Act.main)) :
    Rounds first app after (acts ++ more) := by
  obtain ⟨rounds, done, hacts, hdone, happ⟩ := hrounds
  refine ⟨rounds, done ++ more.filter Act.main, ?_, hgoes done hdone, happ⟩
  rw [List.filter_append, hacts, List.append_assoc]

/-- The main thread begins another round. -/
theorem Rounds.restart (round : Round App) (hrounds : Rounds first app phase acts)
    (hround : ∀ done, Partial phase done → done ++ more.filter Act.main = round.acts) :
    Rounds first (round.served app) .resetting (acts ++ more) := by
  obtain ⟨rounds, done, hacts, hdone, happ⟩ := hrounds
  refine ⟨rounds ++ [round], [], ?_, rfl, ?_⟩
  · rw [List.filter_append, hacts, List.append_assoc, hround done hdone, List.flatMap_append,
      List.flatMap_singleton, List.append_nil]
  · rw [List.foldl_append, ← happ]
    rfl

/-- Another thread does something. -/
theorem Rounds.beside (hrounds : Rounds first app phase acts) (hmore : more.filter Act.main = []) :
    Rounds first app phase (acts ++ more) :=
  hrounds.proceed fun done hdone => by rwa [hmore, List.append_nil]

theorem rounds_bind (hphase : server.phase = .binding) (tcp udp : Bool)
    (hrounds : Rounds first server.app server.phase acts) :
    Rounds first (server.bind settings tcp udp).1.app (server.bind settings tcp udp).1.phase
      (acts ++ (server.bind settings tcp udp).2) := by
  rw [hphase] at hrounds
  rw [Server.bind]
  split_ifs
  · refine hrounds.proceed fun done hdone => ⟨[], ?_, .inr ⟨rfl, .inl rfl⟩⟩
    rw [show done = [] from hdone]
    rfl
  · refine hrounds.proceed fun done hdone => ⟨[.bind], ?_, .inr ⟨rfl, .inr (.inl rfl)⟩⟩
    rw [show done = [] from hdone]
    rfl
  · refine hrounds.proceed fun done hdone => ?_
    rw [show done = [] from hdone]
    rfl

theorem rounds_decide (hphase : server.phase = .deciding)
    (hrounds : Rounds first server.app server.phase acts) :
    Rounds first (server.decide settings).1.app (server.decide settings).1.phase
      (acts ++ (server.decide settings).2) := by
  rw [hphase] at hrounds
  rw [Server.decide]
  split_ifs with hrequested hpath
  · refine hrounds.proceed fun done hdone => ?_
    rw [show done = [.bind, .ready, .closeSockets] from hdone]
    rfl
  · refine hrounds.restart .restarted fun done hdone => ?_
    rw [show done = [.bind, .ready, .closeSockets] from hdone]
    rfl
  · exact hrounds.proceed fun done hdone => ⟨done, rfl, .inl hdone⟩

theorem rounds_reimport (hphase : server.phase = .importing) (imported : Imported App)
    (hrounds : Rounds first server.app server.phase acts) :
    Rounds first (server.reimport imported).1.app (server.reimport imported).1.phase
      (acts ++ (server.reimport imported).2) := by
  rw [hphase] at hrounds
  cases imported with
  | app app =>
      refine hrounds.restart (.reloaded app) fun done hdone => ?_
      rw [show done = [.bind, .ready, .closeSockets, .reloadStart] from hdone]
      rfl
  | failed =>
      refine hrounds.restart .failed fun done hdone => ?_
      rw [show done = [.bind, .ready, .closeSockets, .reloadStart] from hdone]
      rfl
  | exited =>
      refine hrounds.proceed fun done hdone => ⟨done ++ [.reimport .exited], ?_, ?_⟩
      · rw [List.append_assoc]
        rfl
      · rw [show done = [.bind, .ready, .closeSockets, .reloadStart] from hdone]
        exact .inr ⟨rfl, .inr (.inr rfl)⟩

/-- A request that is made by now is answered by a reload, as long as the server is not aborted. -/
def Phase.heeds : Phase → Bool
  | .forgetting | .binding | .starting | .honouring | .running | .deciding => true
  | .resetting | .clearing | .importing | .ended _ => false

/-- How many reloads there will be for the changes so far, at most. -/
def owed (watcher : Watcher) (reloadRequested : Bool) (phase : Phase) : ℕ :=
  (if watcher = .requesting then 1 else 0) + if reloadRequested && phase.heeds then 1 else 0

/-- There are no more reloads than changes that were reported, with those that are still to come. -/
def Caused (watcher : Watcher) (reloadRequested : Bool) (phase : Phase) (acts : List (Act App)) : Prop :=
  acts.countP Act.reloads + owed watcher reloadRequested phase ≤ acts.countP Act.detects

/-- Nothing is begun, reported or asked for. -/
theorem Caused.frame {watcher after : Watcher} {before requested : Bool} {later : Phase}
    (hcaused : Caused watcher before phase acts) (hreloads : more.countP Act.reloads = 0)
    (hwatcher : after = .requesting → watcher = .requesting)
    (hrequested : requested = true → before = true)
    (hphase : requested = true → later.heeds = true → phase.heeds = true) :
    Caused after requested later (acts ++ more) := by
  have hfirst : (if after = .requesting then 1 else 0) ≤ if watcher = .requesting then 1 else 0 := by
    split_ifs with hafter hbefore
    · exact le_rfl
    · exact absurd (hwatcher hafter) hbefore
    · exact Nat.zero_le _
    · exact le_rfl
  have hsecond : (if requested && later.heeds then 1 else 0) ≤
      if before && phase.heeds then 1 else 0 := by
    split_ifs with hafter hbefore
    · exact le_rfl
    · rw [Bool.and_eq_true] at hafter hbefore
      exact absurd ⟨hrequested hafter.1, hphase hafter.1 hafter.2⟩ hbefore
    · exact Nat.zero_le _
    · exact le_rfl
  rw [Caused, List.countP_append, List.countP_append, owed] at *
  omega

theorem caused_bind (hphase : server.phase = .binding) (tcp udp : Bool)
    (hcaused : Caused server.watcher server.reloadRequested server.phase acts) :
    Caused (server.bind settings tcp udp).1.watcher (server.bind settings tcp udp).1.reloadRequested
      (server.bind settings tcp udp).1.phase (acts ++ (server.bind settings tcp udp).2) := by
  have hheeds : server.phase.heeds = true := by rw [hphase]; rfl
  rw [Server.bind]
  split_ifs
  · exact hcaused.frame rfl id id fun _ _ => hheeds
  · exact hcaused.frame rfl id id fun _ _ => hheeds
  · exact hcaused.frame rfl id id fun _ _ => hheeds

/-- A reload is begun because it was requested, and the request is not counted again. -/
theorem caused_decide (hphase : server.phase = .deciding)
    (hcaused : Caused server.watcher server.reloadRequested server.phase acts) :
    Caused (server.decide settings).1.watcher (server.decide settings).1.reloadRequested
      (server.decide settings).1.phase (acts ++ (server.decide settings).2) := by
  rw [Server.decide]
  split_ifs with hrequested hpath
  · rw [Caused, owed, hrequested, hphase] at hcaused
    rw [Caused, owed, List.countP_append, List.countP_append, hrequested]
    simp [Phase.heeds, Act.reloads, Act.detects] at hcaused ⊢
    omega
  · rw [Caused, owed, hrequested, hphase] at hcaused
    rw [Caused, owed, List.countP_append, List.countP_append, hrequested]
    simp [Phase.heeds, Act.reloads, Act.detects] at hcaused ⊢
    omega
  · exact hcaused.frame rfl id id fun _ hheeds => by cases hheeds

variable [DecidableEq Stamp] in
/-- A report of changes is followed by a request. -/
theorem caused_poll (hwatcher : server.watcher = .polling)
    (hcaused : Caused server.watcher server.reloadRequested server.phase acts) :
    Caused (server.poll settings).1.watcher (server.poll settings).1.reloadRequested
      (server.poll settings).1.phase (acts ++ (server.poll settings).2) := by
  rw [Server.poll]
  split_ifs
  · exact hcaused.frame rfl (fun hnot => by cases hnot) id fun _ => id
  · rw [Caused, owed, hwatcher] at hcaused
    rw [Caused, owed, List.countP_append, List.countP_append]
    simp [Act.reloads, Act.detects] at hcaused ⊢
    omega

theorem caused_reimport (imported : Imported App)
    (hcaused : Caused server.watcher server.reloadRequested server.phase acts) :
    Caused (server.reimport imported).1.watcher (server.reimport imported).1.reloadRequested
      (server.reimport imported).1.phase (acts ++ (server.reimport imported).2) := by
  cases imported with
  | app | failed | exited => exact hcaused.frame rfl id id fun _ hheeds => by cases hheeds

variable [DecidableEq Stamp]

/-- The main thread's acts come in rounds, whatever happens. -/
theorem rounds_effect (henabled : server.Enabled action)
    (hrounds : Rounds first server.app server.phase acts) :
    Rounds first (server.effect settings action).1.app (server.effect settings action).1.phase
      (acts ++ (server.effect settings action).2) := by
  have hframe {after : Phase} (hgoes : ∀ done : List (Act App), Partial server.phase done →
      Partial after done) : Rounds first server.app after (acts ++ []) :=
    hrounds.proceed fun done hdone => by simpa using hgoes done hdone
  cases action with
  | edit | call | signal | look | wake | request => exact hrounds.beside rfl
  | advance index =>
      rw [Server.effect, Server.advance]
      split
      · rw [Server.carryOut_app, Server.carryOut_phase]
        exact hrounds.beside rfl
      · exact hrounds.beside rfl
  | tell =>
      rw [Server.effect, Server.tell]
      split
      · rw [Server.carryOut_app, Server.carryOut_phase]
        exact hrounds.beside rfl
      · exact hrounds.beside rfl
  | poll =>
      rw [Server.effect, Server.poll]
      split_ifs
      · exact hrounds.beside rfl
      · exact hrounds.beside rfl
  | reset =>
      rw [Server.Enabled] at henabled
      exact hframe fun done hdone => by rwa [henabled] at hdone
  | clear =>
      rw [Server.Enabled] at henabled
      exact hframe fun done hdone => by rwa [henabled] at hdone
  | forget =>
      rw [Server.Enabled] at henabled
      exact hframe fun done hdone => by rwa [henabled] at hdone
  | bind tcp udp => exact rounds_bind henabled tcp udp hrounds
  | start =>
      rw [Server.Enabled] at henabled
      exact hframe fun done hdone => by rwa [henabled] at hdone
  | honour =>
      rw [Server.Enabled] at henabled
      exact hframe fun done hdone => by rwa [henabled] at hdone
  | stop =>
      refine hrounds.proceed fun done hdone => ?_
      rw [henabled.1] at hdone
      rw [show done = [.bind, .ready] from hdone]
      rfl
  | abort interrupt =>
      refine hrounds.proceed fun done hdone => ⟨[.bind, .ready, .closeSockets], ?_, .inl rfl⟩
      have hbound : done = [.bind, .ready] := by
        simp only [Server.Enabled, Server.live, Bool.or_eq_true, decide_eq_true_eq] at henabled
        rcases henabled with hphase | hphase | hphase
        all_goals
          rw [hphase] at hdone
          exact hdone
      rw [hbound]
      rfl
  | decide => exact rounds_decide henabled hrounds
  | reimport imported => exact rounds_reimport henabled imported hrounds

/-- No reload is begun that is not caused by a change. -/
theorem caused_effect (henabled : server.Enabled action)
    (hcaused : Caused server.watcher server.reloadRequested server.phase acts) :
    Caused (server.effect settings action).1.watcher
      (server.effect settings action).1.reloadRequested (server.effect settings action).1.phase
      (acts ++ (server.effect settings action).2) := by
  cases action with
  | edit | call | signal => exact hcaused.frame rfl id id fun _ => id
  | advance index =>
      rw [Server.effect, Server.advance]
      split
      · rw [Server.carryOut_watcher, Server.carryOut_reloadRequested, Server.carryOut_phase]
        exact hcaused.frame rfl id id fun _ => id
      · exact hcaused.frame rfl id id fun _ => id
  | tell =>
      rw [Server.effect, Server.tell]
      split
      · rw [Server.carryOut_reloadRequested, Server.carryOut_phase]
        refine hcaused.frame rfl (fun hnot => ?_) id fun _ => id
        cases hfollow : server.follow _ with
        | none =>
            rw [hfollow] at hnot
            cases hnot
        | some call =>
            rw [hfollow] at hnot
            cases hnot
      · exact hcaused.frame rfl id id fun _ => id
  | look | wake => exact hcaused.frame rfl (fun hnot => by cases hnot) id fun _ => id
  | poll => exact caused_poll henabled hcaused
  | request =>
      rw [Server.Enabled] at henabled
      rw [Caused, owed, henabled] at hcaused
      rw [Caused, owed, Server.effect, List.append_nil]
      simp at hcaused ⊢
      split_ifs <;> omega
  | reset | forget | clear | start | honour =>
      rw [Server.Enabled] at henabled
      refine hcaused.frame rfl id ?_ ?_
      all_goals simp [Server.effect, henabled, Phase.heeds]
  | bind tcp udp => exact caused_bind henabled tcp udp hcaused
  | stop =>
      refine hcaused.frame rfl id id fun _ _ => ?_
      rw [henabled.1]
      rfl
  | abort interrupt => exact hcaused.frame rfl id id fun _ hheeds => by cases hheeds
  | decide => exact caused_decide henabled hcaused
  | reimport imported => exact caused_reimport imported hcaused

/-- A call that has set the event will wake this loop. -/
def Call.Wakes (generation : ℕ) : Call → Prop
  | .setting => False
  | .looking => True
  | .posting loop => loop = some generation

/-- Some thread is in such a call. -/
def Server.InProgress (server : Server App Stamp) (call : Call) : Prop :=
  call ∈ server.calls ∨ server.watcher = .calling call

/-- A loop is known while it runs, and hears of it if the server has been told to stop. -/
structure Heard (server : Server App Stamp) : Prop where
  loop : server.live = true → server.loop = some server.generation
  heard : server.phase = .running → server.shutdownEvent = true →
    server.asyncShutdown = true ∨ ∃ call, server.InProgress call ∧ call.Wakes server.generation

namespace Heard

omit [DecidableEq Stamp] in
/-- Nothing of it changes but that there are more calls. -/
theorem frame (hheard : Heard server) (hphase : next.phase = server.phase)
    (hloop : next.loop = server.loop) (hgeneration : next.generation = server.generation)
    (hevent : next.shutdownEvent = server.shutdownEvent)
    (hasync : next.asyncShutdown = server.asyncShutdown)
    (hcalls : ∀ call, server.InProgress call → next.InProgress call) : Heard next where
  loop := by
    rw [Server.live, hphase, hloop, hgeneration]
    exact hheard.loop
  heard := by
    rw [hphase, hevent, hasync, hgeneration]
    intro hrunning hset
    obtain hdone | ⟨call, hcall, hwakes⟩ := hheard.heard hrunning hset
    · exact .inl hdone
    · exact .inr ⟨call, hcalls call hcall, hwakes⟩

omit [DecidableEq Stamp] in
/-- The main thread does something before or after the loop runs. -/
theorem outside (hphase : next.phase ≠ .running)
    (hloop : next.live = true → next.loop = some next.generation) : Heard next where
  loop := hloop
  heard hrunning := absurd hrunning hphase

omit [DecidableEq Stamp] in
/-- A call goes on, and the others stay as they are. -/
theorem carryOut (hheard : Heard server) {call : Call} {calls : List Call} {watcher : Watcher}
    (hfollow : ∀ after, server.follow call = some after →
      after ∈ calls ∨ watcher = .calling after)
    (hcalls : ∀ other, server.InProgress other → other = call ∨ other ∈ calls ∨
      watcher = .calling other) :
    Heard { server.carryOut call with calls, watcher } := by
  cases call with
  | setting =>
      refine ⟨hheard.loop, fun _ _ => .inr ⟨.looking, hfollow .looking rfl, trivial⟩⟩
  | looking =>
      refine ⟨hheard.loop, fun hrunning hset => ?_⟩
      have hphase : server.phase = .running := hrunning
      have hlive : server.live = true := by simp [Server.live, hphase]
      obtain hdone | ⟨other, hother, hwakes⟩ := hheard.heard hrunning hset
      · exact .inl hdone
      · rcases hcalls other hother with hsame | hkept
        · exact .inr ⟨.posting server.loop, hfollow _ rfl, hheard.loop hlive⟩
        · exact .inr ⟨other, hkept, hwakes⟩
  | posting loop =>
      refine ⟨hheard.loop, fun hrunning hset => ?_⟩
      have hphase : server.phase = .running := hrunning
      have hlive : server.live = true := by simp [Server.live, hphase]
      have hasync : (server.post loop).asyncShutdown =
        (server.asyncShutdown || (server.live && loop = some server.generation)) := rfl
      obtain hdone | ⟨other, hother, hwakes⟩ := hheard.heard hrunning hset
      · refine .inl ?_
        show (server.post loop).asyncShutdown = true
        rw [hasync, hdone]
        rfl
      · rcases hcalls other hother with rfl | hkept
        · refine .inl ?_
          show (server.post loop).asyncShutdown = true
          rw [hasync, hlive, show loop = some server.generation from hwakes]
          simp
        · exact .inr ⟨other, hkept, hwakes⟩

omit [DecidableEq Stamp] in
theorem tell (hheard : Heard server) : Heard server.tell := by
  rw [Server.tell]
  split
  case h_1 call hwatcher =>
    have hsame : ({ server.carryOut call with
        watcher := (server.follow call).elim .waiting .calling } : Server App Stamp) =
        { server.carryOut call with
          calls := server.calls, watcher := (server.follow call).elim .waiting .calling } := by
      cases call <;> rfl
    rw [hsame]
    refine hheard.carryOut (fun after hafter => .inr ?_) fun other hother => ?_
    · rw [hafter]
      rfl
    · rcases hother with hmem | hother
      · exact .inr (.inl hmem)
      · rw [hwatcher] at hother
        exact .inl (Watcher.calling.inj hother).symm
  case h_2 => exact hheard

omit [DecidableEq Stamp] in
theorem advance (hheard : Heard server) (index : ℕ) : Heard (server.advance index) := by
  rw [Server.advance]
  split
  case h_1 call hcall =>
    have hlt : index < server.calls.length := (List.getElem?_eq_some_iff.mp hcall).1
    have hsame : ({ server.carryOut call with
        calls := (server.follow call).elim (server.calls.eraseIdx index)
          (server.calls.set index) } : Server App Stamp) =
        { server.carryOut call with
          calls := (server.follow call).elim (server.calls.eraseIdx index) (server.calls.set index)
          watcher := server.watcher } := by
      cases call <;> rfl
    rw [hsame]
    refine hheard.carryOut (fun after hafter => .inl ?_) fun other hother => ?_
    · rw [hafter]
      exact List.mem_set hlt after
    · rcases hother with hmem | hother
      · obtain ⟨position, hposition⟩ := List.mem_iff_getElem?.mp hmem
        by_cases hindex : position = index
        · rw [hindex, hcall] at hposition
          exact .inl (Option.some.inj hposition).symm
        · refine .inr (.inl ?_)
          cases server.follow call with
          | none => exact List.mem_eraseIdx_iff_getElem?.mpr ⟨position, hindex, hposition⟩
          | some after =>
              refine List.mem_iff_getElem?.mpr ⟨position, ?_⟩
              exact (List.getElem?_set_ne (Ne.symm hindex)).trans hposition
      · exact .inr (.inr hother)
  case h_2 => exact hheard

/-- Whatever happens, the loop hears of it. -/
theorem effect (henabled : server.Enabled action) (hheard : Heard server) :
    Heard (server.effect settings action).1 := by
  cases action with
  | edit => exact hheard.frame rfl rfl rfl rfl rfl fun _ => id
  | call =>
      refine hheard.frame rfl rfl rfl rfl rfl fun call hcall => ?_
      exact hcall.imp_left (List.mem_append_left _)
  | advance index => exact hheard.advance index
  | signal => exact ⟨hheard.loop, fun _ _ => .inl rfl⟩
  | look | wake | request =>
      refine hheard.frame rfl rfl rfl rfl rfl fun call hcall => ?_
      refine hcall.imp_right fun hwatcher => ?_
      simp [Server.Enabled, hwatcher] at henabled
  | poll =>
      rw [Server.Enabled] at henabled
      rw [Server.effect, Server.poll]
      split_ifs
      all_goals
        refine hheard.frame rfl rfl rfl rfl rfl fun call hcall => ?_
        refine hcall.imp_right fun hwatcher => ?_
        rw [henabled] at hwatcher
        cases hwatcher
  | tell => exact hheard.tell
  | reset | clear | forget | stop | abort =>
      refine .outside ?_ ?_
      all_goals simp [Server.effect, Server.live]
  | bind tcp udp =>
      rw [Server.effect, Server.bind]
      split_ifs
      all_goals
        refine .outside ?_ ?_
        all_goals simp [Server.live]
  | start => exact .outside (by simp [Server.effect]) fun _ => rfl
  | honour =>
      rw [Server.Enabled] at henabled
      refine ⟨fun _ => hheard.loop ?_, fun _ hset => .inl ?_⟩
      · simp [Server.live, henabled]
      · have hevent : server.shutdownEvent = true := hset
        simp [Server.effect, hevent]
  | decide =>
      rw [Server.effect, Server.decide]
      split_ifs
      all_goals
        refine .outside ?_ ?_
        all_goals simp [Server.live]
  | reimport imported =>
      cases imported with
      | app | failed | exited =>
          refine .outside ?_ ?_
          all_goals simp [Server.effect, Server.reimport, Server.live]

end Heard

/-- The invariant of every run. -/
structure Inv (first : App) (server : Server App Stamp) (acts : List (Act App)) : Prop where
  rounds : Rounds first server.app server.phase acts
  caused : Caused server.watcher server.reloadRequested server.phase acts
  heard : Heard server

theorem Inv.step {after : Server App Stamp} (hinv : Inv first server acts)
    (hstep : server.step settings action = some (after, more)) : Inv first after (acts ++ more) := by
  obtain ⟨henabled, heffect⟩ := Machine.of_guard hstep
  have hafter : after = (server.effect settings action).1 := (congrArg Prod.fst heffect).symm
  have hmore : more = (server.effect settings action).2 := (congrArg Prod.snd heffect).symm
  rw [hafter, hmore]
  exact ⟨rounds_effect henabled hinv.rounds, caused_effect henabled hinv.caused,
    hinv.heard.effect henabled⟩

theorem inv_of_reachable {recorded : Machine.Recorded (Server App Stamp) (Act App)}
    (hreach : (reloadEmitter settings first).machine.Reachable recorded) :
    Inv first recorded.state recorded.history := by
  refine Emitter.invariant (Inv first) ?_ ?_ hreach
  · rintro server ⟨files, shutdownEvent, rfl⟩
    refine ⟨⟨[], [], rfl, rfl, rfl⟩, le_rfl, .outside ?_ ?_⟩
    all_goals simp [Server.live]
  · intro server acts action after more hinv hstep
    exact hinv.step hstep

end

/-- Whatever the threads do, the server reloads lawfully. -/
theorem reload_lawful [DecidableEq Stamp] (settings : Settings) (first : App)
    {recorded : Machine.Recorded (Server App Stamp) (Act App)}
    (hreach : (reloadEmitter settings first).machine.Reachable recorded) :
    ReloadLawful first recorded.state recorded.history := by
  have hinv := inv_of_reachable hreach
  refine ⟨hinv.rounds, (Nat.le_add_right _ _).trans hinv.caused, fun hrunning hset hcalls htells => ?_⟩
  obtain hdone | ⟨call, hcall | hcall, hwakes⟩ := hinv.heard.heard hrunning hset
  · exact hdone
  · rw [hcalls] at hcall
    cases hcall
  · rw [hcall] at htells
    cases htells

/-- A file, changed so often. -/
def appFile (changes : ℕ) : WatchedFiles ℕ := Dict.empty.set ["srv", "app.py"] changes

/-- The server before it runs. -/
def developed : Server ℕ ℕ where
  app := 0
  files := appFile 0

/-- The application is changed and reloaded, which fails; when it is changed again, the server is told
to stop while the watcher tells it of that. -/
def reloadRun : List (Action ℕ ℕ) :=
  [.look, .reset, .clear, .forget, .bind true true, .start, .honour, .edit (appFile 1), .wake, .poll,
    .request, .tell, .tell, .tell, .stop, .decide, .reimport .failed, .reset, .clear, .forget,
    .bind true true, .start, .honour, .edit (appFile 2), .wake, .poll, .call, .advance 0, .advance 0,
    .request, .advance 0, .tell, .stop, .decide]

/-- It reloads all the same. -/
theorem reload_lawful_reloadRun :
    ∃ recorded, (reloadEmitter {} 0).machine.run ⟨developed, []⟩ reloadRun = some recorded ∧
      recorded.state.phase = .importing ∧ ReloadLawful 0 recorded.state recorded.history := by
  have hrun : ((reloadEmitter {} 0).machine.run ⟨developed, []⟩ reloadRun).isSome = true := by
    decide +kernel
  obtain ⟨recorded, hrun⟩ := Option.isSome_iff_exists.mp hrun
  have hphase : ((reloadEmitter {} 0).machine.run ⟨developed, []⟩ reloadRun).map (·.state.phase) =
      some .importing := by
    decide +kernel
  have hinit : (reloadEmitter {} 0).machine.init ⟨developed, []⟩ := ⟨⟨appFile 0, false, rfl⟩, rfl⟩
  rw [hrun] at hphase
  exact ⟨recorded, hrun, Option.some.inj hphase,
    reload_lawful {} 0 (Machine.reachable_run hinit hrun)⟩

end Pounce.Reload
