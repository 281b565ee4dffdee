/-
# The control bridge of a subinterpreter worker

A worker in a subinterpreter gets its commands through a queue that `_iic_bridge` polls.
A drain command makes it announce that it is draining, run the draining hook of the
application and set a deadline; one for a reload closes the acceptor first. From then on
every poll looks whether the deadline has passed or the worker is idle, besides reading the
next command. A shutdown command ends it, once the hook has had a second to finish.

`IicBridge` is the coroutine, with one function for each stretch between two awaits; a poll
and the checks at the end of its turn are two, since the clock is read again in between.
`bridgeMachine` puts it into a world where commands arrive, the clock runs, the worker gets
busy and idle, and the hook ends as it likes.

The bridge keeps what it says on idleness and shutdown in all runs. That it answers in time
depends on the hook. An `Exception` of the hook is caught, but no other `BaseException`: with a
cancellation, or `GeneratorExit`, the bridge fails where it waits for the hook, and with
`SystemExit` the whole event loop stops. Then neither a command nor the deadline is looked at
again.
-/

import Mathlib.Algebra.Order.Ring.Int
import Mathlib.Data.List.Count
import Pounce.Math.Transition

namespace Pounce

open Pounce.Math

/-- What the bridge knows of its worker. -/
structure IicConfig (Num : Type) [CommRing Num] [LinearOrder Num] where
  shutdownTimeout : Num
  /-- The worker has a server. -/
  hasServer : Bool
  shutdownTimeout_pos : 0 < shutdownTimeout

/-- The commands of the supervisor. -/
inductive Command where
  | shutdown
  | drain
  | reloadDrain
  deriving DecidableEq, Repr

/-- What the bridge puts on the status queue. -/
inductive BridgeStatus where
  | draining
  | idle
  deriving DecidableEq, Repr

/-- `draining_hook_task`. -/
inductive HookTask where
  | running
  | done
  /-- It has raised what is not caught. -/
  | escaped
  deriving DecidableEq, Repr

/-- How the hook of the application ends. -/
inductive HookEnd where
  /-- It returns, raises an `Exception` or takes too long. -/
  | caught
  /-- It raises another `BaseException`, as a `CancelledError`. -/
  | escaped
  /-- It raises `SystemExit` or `KeyboardInterrupt`, and the event loop stops with it. -/
  | exited
  deriving DecidableEq, Repr

/-- The server of the worker, and `acceptor_drained_task`. -/
inductive Acceptor where
  | serving
  /-- It has been closed. There is a task that waits for its transports. -/
  | closing
  /-- That task is done. -/
  | detached
  deriving DecidableEq, Repr

/-- Where the bridge waits. -/
inductive BridgePhase (Num : Type) where
  | sleeping
  /-- At the end of a turn, before the checks. -/
  | turning
  /-- For accepted sockets to be handed to the worker. -/
  | pausing
  /-- For the hook, until some time. -/
  | awaitingHook (limit : Num)
  | returned
  | raised
  deriving DecidableEq, Repr

/-- `_iic_bridge`. -/
structure IicBridge (Num : Type) where
  phase : BridgePhase Num := .sleeping
  /-- The commands that have been read. -/
  taken : List Command := []
  /-- What has been put on the status queue. -/
  statuses : List BridgeStatus := []
  draining : Bool := false
  drainDeadline : Option Num := none
  idleAnnounced : Bool := false
  hook : Option HookTask := none
  acceptor : Acceptor := .serving
  /-- `worker._async_shutdown`. -/
  asyncShutdown : Bool := false
  deriving DecidableEq, Repr

namespace IicBridge

variable {Num : Type} [CommRing Num] [LinearOrder Num] (config : IicConfig Num)
  (bridge : IicBridge Num) (now : Num)

/-- Signal shutdown, and return. -/
def signal : IicBridge Num :=
  { bridge with
    statuses := bridge.statuses ++ [BridgeStatus.draining]
    asyncShutdown := true
    phase := .returned }

/-- Wait for the hook, for a second at most. -/
def awaitHook : IicBridge Num :=
  match bridge.hook with
  | some .running => { bridge with phase := .awaitingHook (now + 1) }
  | some .escaped => { bridge with phase := .raised }
  | _ => bridge.signal

/-- Start the drain. -/
def arm : IicBridge Num :=
  { bridge with
    draining := true
    drainDeadline := some (now + config.shutdownTimeout)
    phase := .turning }

/-- Read a command. -/
def poll (message : Option Command) : IicBridge Num :=
  let read := { bridge with taken := bridge.taken ++ message.toList }
  match message with
  | none => { read with phase := .turning }
  | some .shutdown =>
      (if bridge.draining then read else { read with hook := some .running }).awaitHook now
  | some command =>
      if bridge.draining then { read with phase := .turning }
      else
        let told := { read with
          statuses := bridge.statuses ++ [BridgeStatus.draining]
          hook := some .running }
        if command = .reloadDrain ∧ config.hasServer then { told with phase := .pausing }
        else told.arm config now

/-- The drain has lasted as long as it may. -/
def Expired : Prop := ∃ deadline, bridge.drainDeadline = some deadline ∧ deadline ≤ now

instance : Decidable (bridge.Expired now) :=
  match hdeadline : bridge.drainDeadline with
  | none => isFalse fun ⟨_, hsome, _⟩ => by
      rw [hdeadline] at hsome
      cases hsome
  | some deadline => decidable_of_iff (deadline ≤ now)
      ⟨fun hle => ⟨deadline, hdeadline, hle⟩, fun ⟨other, hsome, hle⟩ => by
        rw [hdeadline] at hsome
        cases hsome
        exact hle⟩

/-- The checks at the end of a turn. -/
def turn (idle : Bool) : IicBridge Num :=
  if bridge.draining then
    if bridge.Expired now then
      { bridge with
        statuses :=
          if bridge.idleAnnounced then bridge.statuses else bridge.statuses ++ [BridgeStatus.idle]
        asyncShutdown := true
        phase := .returned }
    else if bridge.idleAnnounced = false ∧ bridge.acceptor ≠ .closing ∧ idle then
      { bridge with
        statuses := bridge.statuses ++ [BridgeStatus.idle]
        idleAnnounced := true
        phase := .sleeping }
    else { bridge with phase := .sleeping }
  else { bridge with phase := .sleeping }

/-- Go on after a wait other than for the next poll. -/
def resume (idle : Bool) : Option (IicBridge Num) :=
  match bridge.phase with
  | .turning => some (bridge.turn now idle)
  | .pausing => some ({ bridge with acceptor := .closing }.arm config now)
  | .awaitingHook limit =>
      match bridge.hook with
      | some .running => if limit ≤ now then some bridge.signal else none
      | some .escaped => some { bridge with phase := .raised }
      | _ => some bridge.signal
  | _ => none

end IicBridge

/-! ## The bridge in its world -/

/-- The bridge, what it reads and what it looks at. -/
structure BridgeWorld (Num : Type) where
  clock : Num
  /-- The commands that have not been read. -/
  ctrlQueue : List Command := []
  /-- `worker.is_idle()`. -/
  idle : Bool := true
  bridge : IicBridge Num := {}
  deriving DecidableEq, Repr

/-- What happens in the world of a bridge. -/
inductive BridgeAction (Num : Type) where
  | tick (elapsed : Num)
  | send (command : Command)
  | activity (idle : Bool)
  /-- All transports of the closed server are detached. -/
  | detach
  | hookEnds (ending : HookEnd)
  | poll
  | resume
  deriving DecidableEq, Repr

/-- If the hook ends, then with nothing that is not caught. -/
def BridgeAction.Contained {Num : Type} : BridgeAction Num → Prop
  | .hookEnds ending => ending = .caught
  | _ => True

instance {Num : Type} (action : BridgeAction Num) : Decidable action.Contained :=
  match action with
  | .hookEnds ending => inferInstanceAs (Decidable (ending = .caught))
  | .tick _ | .send _ | .activity _ | .detach | .poll | .resume => isTrue trivial

namespace BridgeWorld

variable {Num : Type} [CommRing Num] [LinearOrder Num] (config : IicConfig Num)
  (world : BridgeWorld Num)

/-- One step. -/
def step : BridgeAction Num → Option (BridgeWorld Num)
  | .tick elapsed =>
      if 0 ≤ elapsed then some { world with clock := world.clock + elapsed } else none
  | .send command => some { world with ctrlQueue := world.ctrlQueue ++ [command] }
  | .activity idle => some { world with idle }
  | .detach =>
      if world.bridge.acceptor = .closing then
        some { world with bridge := { world.bridge with acceptor := .detached } }
      else none
  | .hookEnds ending =>
      if world.bridge.hook = some .running then
        some { world with bridge :=
          match ending with
          | .caught => { world.bridge with hook := some .done }
          | .escaped => { world.bridge with hook := some .escaped }
          | .exited => { world.bridge with hook := some .escaped, phase := .raised } }
      else none
  | .poll =>
      if world.bridge.phase = .sleeping then
        some { world with
          ctrlQueue := world.ctrlQueue.tail
          bridge := world.bridge.poll config world.clock world.ctrlQueue.head? }
      else none
  | .resume =>
      (world.bridge.resume config world.clock world.idle).map fun bridge => { world with bridge }

/-- A poll finds a shutdown command, or the deadline passed, while the worker is draining. -/
def Due : BridgeAction Num → Prop
  | .poll => world.bridge.draining = true ∧ world.ctrlQueue.head? = some .shutdown
  | .resume => world.bridge.draining = true ∧ world.bridge.phase = .turning ∧
      world.bridge.Expired world.clock
  | _ => False

instance (action : BridgeAction Num) : Decidable (world.Due action) :=
  match action with
  | .poll => inferInstanceAs (Decidable (_ ∧ _))
  | .resume => inferInstanceAs (Decidable (_ ∧ _ ∧ _))
  | .tick _ | .send _ | .activity _ | .detach | .hookEnds _ => isFalse id

end BridgeWorld

section

variable {Num : Type} [CommRing Num] [LinearOrder Num] (config : IicConfig Num)

/-- A new bridge in a world, and a record of the times at which it has to signal shutdown. -/
def bridgeMachine : Machine (Machine.Recorded (BridgeWorld Num) Num) (BridgeAction Num) :=
  Machine.recording { init := fun world => world.ctrlQueue = [] ∧ world.bridge = {}
                      step := fun world action => world.step config action }
    fun world action => if world.Due action then some world.clock else none

/-! ## What is promised -/

/-- The first command but shutdown that was read. -/
def IicBridge.drainCommand (bridge : IicBridge Num) : Option Command :=
  bridge.taken.find? (· ≠ .shutdown)

/-- What `_iic_bridge` promises. -/
structure BridgeLawful (recorded : Machine.Recorded (BridgeWorld Num) Num) : Prop where
  /-- It announces that the worker is idle at most once. -/
  once : recorded.state.bridge.statuses.count .idle ≤ 1
  /-- It does so while draining, and with the worker idle and, in a reload, the acceptor drained,
  or with the deadline passed. -/
  announced : ∀ action next, recorded.state.step config action = some next →
    next.bridge.statuses.count .idle ≠ recorded.state.bridge.statuses.count .idle →
    recorded.state.bridge.draining = true ∧
      ((recorded.state.idle = true ∧
          (recorded.state.bridge.drainCommand = some .reloadDrain → config.hasServer = true →
            recorded.state.bridge.acceptor = .detached)) ∨
        recorded.state.bridge.Expired recorded.state.clock)
  /-- Since the first poll at which it has to, it has signalled shutdown, or is waiting for the
  hook, no longer than a second. -/
  prompt : ∀ due ∈ recorded.history, recorded.state.bridge.asyncShutdown = true ∨
    ∃ limit ≤ due + 1, recorded.state.bridge.phase = .awaitingHook limit
  /-- After that second it goes on, and signals shutdown. -/
  answered : ∀ limit, recorded.state.bridge.phase = .awaitingHook limit →
    limit ≤ recorded.state.clock → ∃ next, recorded.state.step config .resume = some next ∧
      next.bridge.asyncShutdown = true
  /-- It does not signal shutdown without a command to do so, unless the deadline has passed. -/
  warranted : recorded.state.bridge.asyncShutdown = true →
    .shutdown ∈ recorded.state.bridge.taken ∨
      recorded.state.bridge.Expired recorded.state.clock

end

/-! ## One step -/

section

variable {Num : Type} [CommRing Num] [LinearOrder Num] {config : IicConfig Num}
  {bridge : IicBridge Num} {world next : BridgeWorld Num} {now : Num}

variable (config) in
/-- What is known of a bridge whose hook raises nothing that is not caught. -/
structure BridgeInv (bridge : IicBridge Num) (now : Num) : Prop where
  hook : bridge.hook ≠ some .escaped
  phase : bridge.phase ≠ .raised
  count : bridge.statuses.count .idle ≤ 1
  silent : bridge.phase ≠ .returned → bridge.idleAnnounced = false →
    bridge.statuses.count .idle = 0
  shutdown : bridge.asyncShutdown = true ↔ bridge.phase = .returned
  warranted : bridge.asyncShutdown = true → .shutdown ∈ bridge.taken ∨ bridge.Expired now
  asked : ∀ limit, bridge.phase = .awaitingHook limit → .shutdown ∈ bridge.taken
  untold : bridge.draining = false → bridge.phase ≠ .pausing → bridge.drainCommand = none
  told : bridge.draining = true → bridge.drainCommand.isSome
  paused : bridge.phase = .pausing → bridge.drainCommand.isSome
  retired : bridge.draining = true → bridge.drainCommand = some .reloadDrain →
    config.hasServer = true → bridge.acceptor ≠ .serving

/-- At first nothing has happened. -/
theorem bridgeInv_initial : BridgeInv config {} now where
  hook hnot := (by cases hnot)
  phase hnot := (by cases hnot)
  count := Nat.zero_le 1
  silent _ _ := rfl
  shutdown := iff_of_false Bool.false_ne_true fun hnot => (by cases hnot)
  warranted hnot := (by cases hnot)
  asked _ hnot := (by cases hnot)
  untold _ _ := rfl
  told hnot := (by cases hnot)
  paused hnot := (by cases hnot)
  retired hnot := (by cases hnot)

omit [CommRing Num] in
/-- The deadline stays passed. -/
theorem IicBridge.Expired.mono {later : Num} (hexpired : bridge.Expired now)
    (hlater : now ≤ later) :
    bridge.Expired later := by
  obtain ⟨deadline, hdeadline, hle⟩ := hexpired
  exact ⟨deadline, hdeadline, hle.trans hlater⟩

theorem BridgeInv.later {later : Num} (hinv : BridgeInv config bridge now) (hlater : now ≤ later) :
    BridgeInv config bridge later :=
  { hinv with
    warranted := fun hsignal => (hinv.warranted hsignal).imp_right fun hexpired =>
      hexpired.mono hlater }

/-- What goes on has not signalled. -/
theorem BridgeInv.quiet (hinv : BridgeInv config bridge now) (hphase : bridge.phase ≠ .returned) :
    bridge.asyncShutdown = false := by
  rw [← Bool.not_eq_true, hinv.shutdown]
  exact hphase

/-- What goes on may go on elsewhere. -/
theorem BridgeInv.goOn (hinv : BridgeInv config bridge now) (hphase : bridge.phase ≠ .returned)
    (hpausing : bridge.phase ≠ .pausing) {phase : BridgePhase Num}
    (hnew : phase = .sleeping ∨ phase = .turning) :
    BridgeInv config { bridge with phase } now where
  hook := hinv.hook
  phase := by rcases hnew with rfl | rfl <;> exact fun hnot => (by cases hnot)
  count := hinv.count
  silent _ := hinv.silent hphase
  shutdown := by
    refine iff_of_false (Bool.eq_false_iff.mp (hinv.quiet hphase)) ?_
    rcases hnew with rfl | rfl <;> exact fun hnot => (by cases hnot)
  warranted hsignal := absurd hsignal (Bool.eq_false_iff.mp (hinv.quiet hphase))
  asked limit hlimit := by rcases hnew with rfl | rfl <;> cases hlimit
  untold hdraining _ := hinv.untold hdraining hpausing
  told := hinv.told
  paused hnot := by rcases hnew with rfl | rfl <;> cases hnot
  retired := hinv.retired

/-- A bridge that has read a shutdown command signals it. -/
theorem BridgeInv.signal (hinv : BridgeInv config bridge now) (hpausing : bridge.phase ≠ .pausing)
    (hasked : .shutdown ∈ bridge.taken) : BridgeInv config bridge.signal now where
  hook := hinv.hook
  phase hnot := (by cases hnot)
  count := by
    rw [IicBridge.signal, List.count_append]
    exact hinv.count
  silent hnot := absurd rfl hnot
  shutdown := iff_of_true rfl rfl
  warranted _ := .inl hasked
  asked _ hnot := (by cases hnot)
  untold hdraining _ := hinv.untold hdraining hpausing
  told := hinv.told
  paused hnot := (by cases hnot)
  retired := hinv.retired

/-- A bridge that has read a shutdown command waits for the hook. -/
theorem BridgeInv.awaitHook (hinv : BridgeInv config bridge now) (hphase : bridge.phase ≠ .returned)
    (hpausing : bridge.phase ≠ .pausing) (hasked : .shutdown ∈ bridge.taken) :
    BridgeInv config (bridge.awaitHook now) now := by
  rw [IicBridge.awaitHook]
  split
  case h_1 =>
    refine { hinv with
      phase := fun hnot => (by cases hnot)
      silent := fun _ => hinv.silent hphase
      shutdown := ?_
      asked := fun _ _ => hasked
      untold := fun hdraining _ => hinv.untold hdraining hpausing
      paused := fun hnot => (by cases hnot) }
    exact iff_of_false (Bool.eq_false_iff.mp (hinv.quiet hphase)) fun hnot => (by cases hnot)
  case h_2 hescaped => exact absurd hescaped hinv.hook
  case h_3 => exact hinv.signal hpausing hasked

omit [CommRing Num] [LinearOrder Num] in
/-- A shutdown command tells nothing about the drain. -/
theorem drainCommand_shutdown :
    ({ bridge with taken := bridge.taken ++ [.shutdown] } : IicBridge Num).drainCommand =
      bridge.drainCommand := by
  simp [IicBridge.drainCommand, List.find?_append]

/-- To read a shutdown command changes nothing else. -/
theorem BridgeInv.read_shutdown (hinv : BridgeInv config bridge now) :
    BridgeInv config { bridge with taken := bridge.taken ++ [.shutdown] } now where
  hook := hinv.hook
  phase := hinv.phase
  count := hinv.count
  silent := hinv.silent
  shutdown := hinv.shutdown
  warranted hsignal := (hinv.warranted hsignal).imp_left (List.mem_append_left _)
  asked limit hlimit := List.mem_append_left _ (hinv.asked limit hlimit)
  untold hdraining hpausing := drainCommand_shutdown.trans (hinv.untold hdraining hpausing)
  told hdraining := by
    rw [drainCommand_shutdown]
    exact hinv.told hdraining
  paused hpausing := by
    rw [drainCommand_shutdown]
    exact hinv.paused hpausing
  retired hdraining hretiring := hinv.retired hdraining (drainCommand_shutdown.symm.trans hretiring)

omit [CommRing Num] [LinearOrder Num] in
/-- The drain command is the first one that is read. -/
theorem drainCommand_append {command : Command} (hcommand : command ≠ .shutdown) :
    ({ bridge with taken := bridge.taken ++ [command] } : IicBridge Num).drainCommand =
      bridge.drainCommand.or (some command) := by
  simp [IicBridge.drainCommand, List.find?_append, hcommand]

/-- Another command, while draining, changes nothing. -/
theorem BridgeInv.read_again (hinv : BridgeInv config bridge now) (hdraining : bridge.draining = true)
    {command : Command} (hcommand : command ≠ .shutdown) :
    BridgeInv config { bridge with taken := bridge.taken ++ [command] } now := by
  obtain ⟨first, hfirst⟩ := Option.isSome_iff_exists.mp (hinv.told hdraining)
  have hsame : ({ bridge with taken := bridge.taken ++ [command] } : IicBridge Num).drainCommand =
      bridge.drainCommand := by
    rw [drainCommand_append hcommand, hfirst, Option.some_or]
  exact {
    hook := hinv.hook
    phase := hinv.phase
    count := hinv.count
    silent := hinv.silent
    shutdown := hinv.shutdown
    warranted := fun hsignal => (hinv.warranted hsignal).imp_left (List.mem_append_left _)
    asked := fun limit hlimit => List.mem_append_left _ (hinv.asked limit hlimit)
    untold := fun hnot => absurd hdraining (Bool.eq_false_iff.mp hnot)
    told := fun _ => by
      rw [hsame]
      exact hinv.told hdraining
    paused := fun _ => by
      rw [hsame]
      exact hinv.told hdraining
    retired := fun _ hretiring => hinv.retired hdraining (hsame.symm.trans hretiring) }

variable (bridge) in
/-- The bridge has read its first drain command, and tells the application. -/
def IicBridge.told (command : Command) : IicBridge Num :=
  { bridge with
    taken := bridge.taken ++ [command]
    statuses := bridge.statuses ++ [BridgeStatus.draining]
    hook := some .running
    phase := .pausing }

theorem BridgeInv.told_command (hinv : BridgeInv config bridge now)
    (hphase : bridge.phase = .sleeping) (hdraining : bridge.draining = false) {command : Command}
    (hcommand : command ≠ .shutdown) :
    BridgeInv config (bridge.told command) now ∧
      (bridge.told command).drainCommand = some command := by
  have hother : ∀ {phase : BridgePhase Num}, phase ≠ .sleeping → bridge.phase ≠ phase := by
    intro phase hne
    rw [hphase]
    exact Ne.symm hne
  have hreturned : bridge.phase ≠ .returned := hother fun hnot => (by cases hnot)
  have hquiet := Bool.eq_false_iff.mp (hinv.quiet hreturned)
  have hfirst : (bridge.told command).drainCommand = some command := by
    refine (drainCommand_append hcommand).trans ?_
    rw [hinv.untold hdraining (hother fun hnot => (by cases hnot)), Option.none_or]
  refine ⟨?_, hfirst⟩
  exact {
    hook := fun hnot => (by cases hnot)
    phase := fun hnot => (by cases hnot)
    count := by
      show (bridge.statuses ++ [BridgeStatus.draining]).count .idle ≤ 1
      rw [List.count_append]
      exact hinv.count
    silent := fun _ hannounced => by
      show (bridge.statuses ++ [BridgeStatus.draining]).count .idle = 0
      rw [List.count_append]
      exact hinv.silent hreturned hannounced
    shutdown := iff_of_false hquiet fun hnot => (by cases hnot)
    warranted := fun hsignal => absurd hsignal hquiet
    asked := fun _ hnot => (by cases hnot)
    untold := fun _ hnot => absurd rfl hnot
    told := fun _ => by rw [hfirst, Option.isSome_some]
    paused := fun _ => by rw [hfirst, Option.isSome_some]
    retired := fun hnot => absurd hnot (Bool.eq_false_iff.mp hdraining) }

/-- The drain starts. -/
theorem BridgeInv.arm (hinv : BridgeInv config bridge now) (hphase : bridge.phase = .pausing)
    {acceptor : Acceptor} (hretired : bridge.drainCommand = some .reloadDrain →
      config.hasServer = true → acceptor ≠ .serving) :
    BridgeInv config ({ bridge with acceptor }.arm config now) now := by
  have hreturned : bridge.phase ≠ .returned := by
    rw [hphase]
    exact fun hnot => (by cases hnot)
  have hquiet := Bool.eq_false_iff.mp (hinv.quiet hreturned)
  exact {
    hook := hinv.hook
    phase := fun hnot => (by cases hnot)
    count := hinv.count
    silent := fun _ => hinv.silent hreturned
    shutdown := iff_of_false hquiet fun hnot => (by cases hnot)
    warranted := fun hsignal => absurd hsignal hquiet
    asked := fun _ hnot => (by cases hnot)
    untold := fun hnot => (by cases hnot)
    told := fun _ => hinv.paused hphase
    paused := fun hnot => (by cases hnot)
    retired := fun _ => hretired }

/-- What a poll does when a command has been read that starts the drain. -/
theorem poll_drain (hdraining : bridge.draining = false) {command : Command}
    (hcommand : command ≠ .shutdown) :
    bridge.poll config now (some command) =
      if command = .reloadDrain ∧ config.hasServer then bridge.told command
      else (bridge.told command).arm config now := by
  cases command with
  | shutdown => exact absurd rfl hcommand
  | drain => simp [IicBridge.poll, hdraining, IicBridge.told, IicBridge.arm]
  | reloadDrain => simp [IicBridge.poll, hdraining, IicBridge.told, IicBridge.arm]

/-- A poll keeps what is known. -/
theorem BridgeInv.poll (hinv : BridgeInv config bridge now) (hphase : bridge.phase = .sleeping)
    (message : Option Command) : BridgeInv config (bridge.poll config now message) now := by
  have hreturned : bridge.phase ≠ .returned := by
    rw [hphase]
    exact fun hnot => (by cases hnot)
  have hpausing : bridge.phase ≠ .pausing := by
    rw [hphase]
    exact fun hnot => (by cases hnot)
  have hread : ∀ command, command ≠ .shutdown →
      BridgeInv config (bridge.poll config now (some command)) now := by
    intro command hcommand
    cases hdraining : bridge.draining with
    | true =>
        have hsame : bridge.poll config now (some command) =
            { bridge with taken := bridge.taken ++ [command], phase := .turning } := by
          cases command with
          | shutdown => exact absurd rfl hcommand
          | drain => simp [IicBridge.poll, hdraining]
          | reloadDrain => simp [IicBridge.poll, hdraining]
        rw [hsame]
        exact (hinv.read_again hdraining hcommand).goOn hreturned hpausing (.inr rfl)
    | false =>
        obtain ⟨htold, hfirst⟩ := hinv.told_command hphase hdraining hcommand
        rw [poll_drain hdraining hcommand]
        split
        case isTrue => exact htold
        case isFalse hplain =>
          refine htold.arm rfl fun hretiring hserver => ?_
          rw [hfirst, Option.some.injEq] at hretiring
          exact absurd ⟨hretiring, hserver⟩ hplain
  cases message with
  | none =>
      rw [IicBridge.poll, Option.toList_none, List.append_nil]
      exact hinv.goOn hreturned hpausing (.inr rfl)
  | some command =>
      cases command with
      | drain => exact hread .drain fun hnot => (by cases hnot)
      | reloadDrain => exact hread .reloadDrain fun hnot => (by cases hnot)
      | shutdown =>
          rw [IicBridge.poll, Option.toList_some]
          dsimp only
          split
          case isTrue =>
            exact hinv.read_shutdown.awaitHook hreturned hpausing
              (List.mem_append_right _ (List.mem_singleton_self _))
          case isFalse =>
            have hstarted : BridgeInv config
                { bridge with taken := bridge.taken ++ [.shutdown], hook := some .running } now :=
              { hinv.read_shutdown with hook := fun hnot => (by cases hnot) }
            exact hstarted.awaitHook hreturned hpausing
              (List.mem_append_right _ (List.mem_singleton_self _))

/-- The checks at the end of a turn keep what is known. -/
theorem BridgeInv.turn (hinv : BridgeInv config bridge now) (hphase : bridge.phase = .turning)
    (idle : Bool) : BridgeInv config (bridge.turn now idle) now := by
  have hreturned : bridge.phase ≠ .returned := by
    rw [hphase]
    exact fun hnot => (by cases hnot)
  have hpausing : bridge.phase ≠ .pausing := by
    rw [hphase]
    exact fun hnot => (by cases hnot)
  rw [IicBridge.turn]
  split
  case isFalse => exact hinv.goOn hreturned hpausing (.inl rfl)
  case isTrue hdraining =>
    split
    case isTrue hexpired =>
      exact { hinv with
        phase := fun hnot => (by cases hnot)
        count := by
          dsimp only
          split
          case isTrue => exact hinv.count
          case isFalse hsilent =>
            rw [List.count_append, hinv.silent hreturned (Bool.eq_false_iff.mpr hsilent)]
            exact Nat.le_refl 1
        silent := fun hnot => absurd rfl hnot
        shutdown := iff_of_true rfl rfl
        warranted := fun _ => .inr hexpired
        asked := fun _ hnot => (by cases hnot)
        untold := fun hnot => absurd hdraining (Bool.eq_false_iff.mp hnot)
        paused := fun hnot => (by cases hnot) }
    case isFalse =>
      split
      case isFalse => exact hinv.goOn hreturned hpausing (.inl rfl)
      case isTrue hidle =>
        have hnone := hinv.silent hreturned hidle.1
        exact { hinv.goOn hreturned hpausing (.inl rfl) with
          count := by
            rw [List.count_append, hnone]
            exact Nat.le_refl 1
          silent := fun _ hnot => (by cases hnot) }

/-- To go on after a wait keeps what is known. -/
theorem BridgeInv.resume (hinv : BridgeInv config bridge now) {idle : Bool} {after : IicBridge Num}
    (hresume : bridge.resume config now idle = some after) : BridgeInv config after now := by
  rw [IicBridge.resume] at hresume
  split at hresume
  case h_1 hphase =>
    obtain rfl := Option.some.inj hresume
    exact hinv.turn hphase idle
  case h_2 hphase =>
    obtain rfl := Option.some.inj hresume
    exact hinv.arm hphase fun _ _ hnot => (by cases hnot)
  case h_3 limit hphase =>
    have hsignal : BridgeInv config bridge.signal now := by
      refine hinv.signal ?_ (hinv.asked limit hphase)
      rw [hphase]
      exact fun hnot => (by cases hnot)
    split at hresume
    case h_1 =>
      obtain ⟨-, rfl⟩ := Machine.of_guard hresume
      exact hsignal
    case h_2 hescaped => exact absurd hescaped hinv.hook
    case h_3 =>
      obtain rfl := Option.some.inj hresume
      exact hsignal
  case h_4 => cases hresume

/-- Whatever happens, if the hook ends with nothing that is not caught, keeps what is known. -/
theorem bridgeInv_step [IsStrictOrderedRing Num] {action : BridgeAction Num}
    (hinv : BridgeInv config world.bridge world.clock) (hhook : action.Contained)
    (hstep : world.step config action = some next) : BridgeInv config next.bridge next.clock := by
  cases action with
  | tick elapsed =>
      obtain ⟨helapsed, rfl⟩ := Machine.of_guard hstep
      exact hinv.later (le_add_of_nonneg_right helapsed)
  | send command =>
      obtain rfl := Option.some.inj hstep
      exact hinv
  | activity idle =>
      obtain rfl := Option.some.inj hstep
      exact hinv
  | detach =>
      obtain ⟨-, rfl⟩ := Machine.of_guard hstep
      exact { hinv with retired := fun _ _ _ hnot => (by cases hnot) }
  | hookEnds ending =>
      obtain ⟨-, rfl⟩ := Machine.of_guard hstep
      obtain rfl : ending = .caught := hhook
      exact { hinv with hook := fun hnot => (by cases hnot) }
  | poll =>
      obtain ⟨hphase, rfl⟩ := Machine.of_guard hstep
      exact hinv.poll hphase _
  | resume =>
      obtain ⟨after, hafter, rfl⟩ := Option.map_eq_some_iff.mp hstep
      exact hinv.resume hafter

/-! ## Announcements and signals -/

omit [LinearOrder Num] in
/-- Waiting for the hook announces nothing. -/
theorem count_idle_awaitHook :
    (bridge.awaitHook now).statuses.count .idle = bridge.statuses.count .idle := by
  have hsignal : bridge.signal.statuses.count .idle = bridge.statuses.count .idle := by
    rw [IicBridge.signal, List.count_append]
    rfl
  rw [IicBridge.awaitHook]
  split
  · rfl
  · rfl
  · exact hsignal

/-- A poll announces nothing. -/
theorem count_idle_poll (message : Option Command) :
    (bridge.poll config now message).statuses.count .idle = bridge.statuses.count .idle := by
  have htold : (bridge.statuses ++ [BridgeStatus.draining]).count .idle =
      bridge.statuses.count .idle := by
    rw [List.count_append]
    rfl
  rw [IicBridge.poll.eq_def]
  dsimp only
  split
  case h_1 => rfl
  case h_2 =>
    rw [count_idle_awaitHook]
    split
    · rfl
    · rfl
  case h_3 =>
    split
    case isTrue => rfl
    case isFalse =>
      split
      · exact htold
      · exact htold

omit [CommRing Num] in
/-- The end of a turn announces idleness when it may. -/
theorem announced_turn {idle : Bool}
    (hcount : (bridge.turn now idle).statuses.count .idle ≠ bridge.statuses.count .idle) :
    bridge.draining = true ∧
      ((idle = true ∧ bridge.acceptor ≠ .closing) ∨ bridge.Expired now) := by
  rw [IicBridge.turn] at hcount
  split at hcount
  case isFalse => exact absurd rfl hcount
  case isTrue hdraining =>
    refine ⟨hdraining, ?_⟩
    split at hcount
    case isTrue hexpired => exact .inr hexpired
    case isFalse =>
      split at hcount
      case isTrue hidle => exact .inl ⟨hidle.2.2, hidle.2.1⟩
      case isFalse => exact absurd rfl hcount

/-- Only the end of a turn announces that the worker is idle. -/
theorem announced_step {action : BridgeAction Num} (hstep : world.step config action = some next)
    (hcount : next.bridge.statuses.count .idle ≠ world.bridge.statuses.count .idle) :
    world.bridge.draining = true ∧ ((world.idle = true ∧ world.bridge.acceptor ≠ .closing) ∨
      world.bridge.Expired world.clock) := by
  have hsignal : world.bridge.signal.statuses.count .idle = world.bridge.statuses.count .idle := by
    rw [IicBridge.signal, List.count_append]
    rfl
  cases action with
  | tick | detach =>
      obtain ⟨-, rfl⟩ := Machine.of_guard hstep
      exact absurd rfl hcount
  | hookEnds ending =>
      obtain ⟨-, rfl⟩ := Machine.of_guard hstep
      cases ending <;> exact absurd rfl hcount
  | send | activity =>
      obtain rfl := Option.some.inj hstep
      exact absurd rfl hcount
  | poll =>
      obtain ⟨-, rfl⟩ := Machine.of_guard hstep
      exact absurd (count_idle_poll _) hcount
  | resume =>
      obtain ⟨after, hafter, rfl⟩ := Option.map_eq_some_iff.mp hstep
      rw [IicBridge.resume] at hafter
      split at hafter
      case h_1 =>
        obtain rfl := Option.some.inj hafter
        exact announced_turn hcount
      case h_2 =>
        obtain rfl := Option.some.inj hafter
        exact absurd rfl hcount
      case h_3 =>
        split at hafter
        case h_1 =>
          obtain ⟨-, rfl⟩ := Machine.of_guard hafter
          exact absurd hsignal hcount
        case h_2 =>
          obtain rfl := Option.some.inj hafter
          exact absurd rfl hcount
        case h_3 =>
          obtain rfl := Option.some.inj hafter
          exact absurd hsignal hcount
      case h_4 => cases hafter

omit [LinearOrder Num] in
/-- Waiting for a hook from which nothing escapes leads to the signal within a second. -/
theorem awaitHook_answers (hhook : bridge.hook ≠ some .escaped) :
    (bridge.awaitHook now).asyncShutdown = true ∨
      (bridge.awaitHook now).phase = .awaitingHook (now + 1) := by
  rw [IicBridge.awaitHook]
  split
  case h_1 => exact .inr rfl
  case h_2 hescaped => exact absurd hescaped hhook
  case h_3 => exact .inl rfl

/-- A bridge that waits for its hook signals when it goes on. -/
theorem resume_awaiting (hinv : BridgeInv config bridge now) {limit : Num}
    (hphase : bridge.phase = .awaitingHook limit) {idle : Bool} {after : IicBridge Num}
    (hresume : bridge.resume config now idle = some after) : after.asyncShutdown = true := by
  rw [IicBridge.resume, hphase] at hresume
  dsimp only at hresume
  split at hresume
  case h_1 =>
    obtain ⟨-, rfl⟩ := Machine.of_guard hresume
    rfl
  case h_2 hescaped => exact absurd hescaped hinv.hook
  case h_3 =>
    obtain rfl := Option.some.inj hresume
    rfl

/-- Where it has to, a step leads to the signal within a second. -/
theorem answers_step {action : BridgeAction Num} (hinv : BridgeInv config world.bridge world.clock)
    (hdue : world.Due action) (hstep : world.step config action = some next) :
    next.bridge.asyncShutdown = true ∨ next.bridge.phase = .awaitingHook (world.clock + 1) := by
  cases action with
  | tick | send | activity | detach | hookEnds => exact hdue.elim
  | poll =>
      obtain ⟨hdraining, hhead⟩ := hdue
      obtain ⟨-, rfl⟩ := Machine.of_guard hstep
      rw [hhead]
      simp only [IicBridge.poll, if_pos hdraining]
      exact awaitHook_answers hinv.hook
  | resume =>
      obtain ⟨hdraining, hphase, hexpired⟩ := hdue
      obtain ⟨after, hafter, rfl⟩ := Option.map_eq_some_iff.mp hstep
      rw [IicBridge.resume, hphase] at hafter
      obtain rfl := Option.some.inj hafter
      rw [IicBridge.turn, if_pos hdraining, if_pos hexpired]
      exact .inl rfl

/-- The signal, and the wait for the hook before it, last. -/
theorem prompt_step {action : BridgeAction Num} {limit : Num}
    (hinv : BridgeInv config world.bridge world.clock)
    (hprompt : world.bridge.asyncShutdown = true ∨ world.bridge.phase = .awaitingHook limit)
    (hhook : action.Contained) (hstep : world.step config action = some next) :
    next.bridge.asyncShutdown = true ∨ next.bridge.phase = .awaitingHook limit := by
  have hstill : world.bridge.phase = .returned ∨ world.bridge.phase = .awaitingHook limit :=
    hprompt.imp_left hinv.shutdown.mp
  cases action with
  | tick | detach =>
      obtain ⟨-, rfl⟩ := Machine.of_guard hstep
      exact hprompt
  | hookEnds ending =>
      obtain ⟨-, rfl⟩ := Machine.of_guard hstep
      obtain rfl : ending = .caught := hhook
      exact hprompt
  | send | activity =>
      obtain rfl := Option.some.inj hstep
      exact hprompt
  | poll =>
      obtain ⟨hphase, -⟩ := Machine.of_guard hstep
      rw [hphase] at hstill
      rcases hstill with hnot | hnot <;> cases hnot
  | resume =>
      obtain ⟨after, hafter, rfl⟩ := Option.map_eq_some_iff.mp hstep
      rcases hstill with hphase | hphase
      · rw [IicBridge.resume, hphase] at hafter
        cases hafter
      · exact .inl (resume_awaiting hinv hphase hafter)

end

/-! ## Whole runs -/

section

variable {Num : Type} [CommRing Num] [LinearOrder Num] [IsStrictOrderedRing Num]

/-- As long as its hook raises nothing that is not caught, the bridge keeps its promises. -/
theorem bridge_lawful (config : IicConfig Num)
    {recorded : Machine.Recorded (BridgeWorld Num) Num}
    (hreach : (bridgeMachine config).Reach (fun _ action => action.Contained) recorded) :
    BridgeLawful config recorded := by
  have hkept : BridgeInv config recorded.state.bridge recorded.state.clock ∧
      ∀ due ∈ recorded.history, recorded.state.bridge.asyncShutdown = true ∨
        recorded.state.bridge.phase = .awaitingHook (due + 1) := by
    apply hreach.invariant
    · intro recorded hinit
      obtain ⟨⟨-, hbridge⟩, hhistory⟩ := hinit
      rw [hbridge, hhistory]
      exact ⟨bridgeInv_initial, fun _ hnot => absurd hnot List.not_mem_nil⟩
    · intro recorded action next hinv hhook hstep
      obtain ⟨hinv, hprompt⟩ := hinv
      obtain ⟨htaken, hhistory⟩ := Machine.recording_step hstep
      have htaken : recorded.state.step config action = some next.state := htaken
      refine ⟨bridgeInv_step hinv hhook htaken, fun due hdue => ?_⟩
      rw [hhistory, List.mem_append] at hdue
      rcases hdue with hbefore | hnow
      · exact prompt_step hinv (hprompt due hbefore) hhook htaken
      · split at hnow
        case isTrue hhere =>
          rw [Option.toList_some, List.mem_singleton] at hnow
          rw [hnow]
          exact answers_step hinv hhere htaken
        case isFalse => cases hnow
  obtain ⟨hinv, hprompt⟩ := hkept
  constructor
  case once => exact hinv.count
  case announced =>
    intro action next hstep hcount
    obtain ⟨hdraining, hwhy⟩ := announced_step hstep hcount
    refine ⟨hdraining, hwhy.imp_left fun hidle => ⟨hidle.1, fun hretiring hserver => ?_⟩⟩
    have hclosed := hinv.retired hdraining hretiring hserver
    cases hacceptor : recorded.state.bridge.acceptor with
    | serving => exact absurd hacceptor hclosed
    | closing => exact absurd hacceptor hidle.2
    | detached => rfl
  case prompt =>
    intro due hdue
    exact (hprompt due hdue).imp_right fun hphase => ⟨due + 1, le_rfl, hphase⟩
  case answered =>
    intro limit hphase hlimit
    have hresumed : ∃ after, recorded.state.bridge.resume config recorded.state.clock
        recorded.state.idle = some after := by
      rw [IicBridge.resume, hphase]
      dsimp only
      split
      · exact ⟨_, if_pos hlimit⟩
      · exact ⟨_, rfl⟩
      · exact ⟨_, rfl⟩
    obtain ⟨after, hafter⟩ := hresumed
    refine ⟨{ recorded.state with bridge := after }, ?_, resume_awaiting hinv hphase hafter⟩
    rw [BridgeWorld.step, hafter]
    rfl
  case warranted => exact hinv.warranted

end

/-! ## A drain and a shutdown -/

/-- A worker with a server and ten seconds. -/
def tenSeconds : IicConfig ℤ where
  shutdownTimeout := 10
  hasServer := true
  shutdownTimeout_pos := by decide

/-- A bridge at the start. -/
def startedBridge : Machine.Recorded (BridgeWorld ℤ) ℤ := { state := { clock := 0 }, history := [] }

/-- Drain, the end of the hook, and shutdown. -/
def drainedBridge (ending : HookEnd) : List (BridgeAction ℤ) :=
  [.activity false, .send .drain, .poll, .resume, .hookEnds ending, .send .shutdown, .poll]

theorem startedBridge_init : (bridgeMachine tenSeconds).init startedBridge := ⟨⟨rfl, rfl⟩, rfl⟩

theorem bridge_lawful_drained :
    ∃ recorded, (bridgeMachine tenSeconds).run startedBridge (drainedBridge .caught) =
        some recorded ∧ recorded.state.bridge.asyncShutdown = true ∧
      BridgeLawful tenSeconds recorded :=
  ⟨_, rfl, by decide, bridge_lawful tenSeconds (Machine.Reach.run (.init startedBridge_init)
    (Machine.along_of_guarded (show (bridgeMachine tenSeconds).guarded _ startedBridge
      (drainedBridge .caught) = true by decide)) rfl)⟩

/-- If a cancellation escaped from the hook, a shutdown command that is read is not answered. -/
theorem bridge_unlawful_cancelled :
    ¬ ∀ recorded, (bridgeMachine tenSeconds).Reachable recorded →
      BridgeLawful tenSeconds recorded := by
  intro hclaim
  have hlawful := hclaim _ (Machine.reachable_run startedBridge_init
    (show (bridgeMachine tenSeconds).run startedBridge (drainedBridge .escaped) = some _ from rfl))
  rcases hlawful.prompt 0 (by decide) with hsignal | ⟨limit, -, hphase⟩
  · exact absurd hsignal (by decide)
  · exact absurd hphase (by intro hnot; cases hnot)

end Pounce
