/-
# What a graceful reload promises

No request of the old generation is aborted before `reload_timeout` is over, if it is no longer
than what the workers grant by themselves: `shutdown_timeout` in a thread, and twice of it in a
subinterpreter. And then no worker is taken for idle that is not, unless its bridge gives up
while the supervisor still waits.

What carries this is that every deadline of a worker is counted from a moment after it was told
to drain. A worker of a subinterpreter that is drained stays so, since it accepts nothing any
more, and the supervisor lets it shut down only when it is drained or has had its time. There the
bridge pauses before it closes the server, so that no connection is reset by that. A worker in a
thread closes its server without a pause.
-/

import Mathlib.Tactic.Linarith
import Pounce.Supervisor.ReloadDrain

namespace Pounce

open Pounce.Math

variable {Num : Type} [CommRing Num] [LinearOrder Num]

/-! ## What the bridge does -/

namespace IicBridge

variable {config : IicConfig Num} {bridge : IicBridge Num} {now : Num}

/-- It has shut down, or is about to. -/
def Ending (bridge : IicBridge Num) : Prop :=
  bridge.asyncShutdown = true ∨ ∃ limit, bridge.phase = .awaitingHook limit

/-- It has read no command. -/
structure Asleep (bridge : IicBridge Num) : Prop where
  acceptor : bridge.acceptor = .serving
  draining : bridge.draining = false
  deadline : bridge.drainDeadline = none
  quiet : bridge.asyncShutdown = false
  phase : bridge.phase = .sleeping ∨ bridge.phase = .turning

omit [CommRing Num] [LinearOrder Num] in
theorem Asleep.not_ending (hasleep : bridge.Asleep) : ¬ bridge.Ending := by
  rintro (hshutdown | ⟨limit, hlimit⟩)
  · exact absurd (hasleep.quiet.symm.trans hshutdown) Bool.false_ne_true
  · rcases hasleep.phase with hphase | hphase <;> exact absurd (hphase.symm.trans hlimit) (by simp)

/-- What a step of the bridge changes. A drain starts on a command. The end comes on a command, or
with the deadline, and so does the announcement that the worker is idle, unless it is. -/
structure Moves (config : IicConfig Num) (now : Num) (told ended idle quits : Prop)
    (bridge next : IicBridge Num) : Prop where
  draining : bridge.draining = true → next.draining = true
  deadline : ∀ deadline, next.drainDeadline = some deadline →
    bridge.drainDeadline = some deadline ∨ (told ∧ deadline = now + config.shutdownTimeout)
  ending : next.Ending → bridge.Ending ∨ ended ∨ bridge.Expired now
  idle : .idle ∈ next.statuses → .idle ∈ bridge.statuses ∨
    (bridge.draining = true ∧
      (idle ∧ bridge.acceptor ≠ .closing ∨ quits ∧ bridge.Expired now))

variable {told ended idle quits : Prop}

/-- To wait for the hook, or to signal shutdown, is all that comes of a shutdown command. -/
theorem moves_awaitHook (hended : ended) {taken : List Command} {hook : Option HookTask} :
    Moves config now told ended idle quits bridge
      (({ bridge with taken, hook } : IicBridge Num).awaitHook now) := by
  have hsignal : Moves config now told ended idle quits bridge
      ({ bridge with taken, hook } : IicBridge Num).signal :=
    { draining := id
      deadline := fun _ => .inl
      ending := fun _ => .inr (.inl hended)
      idle := fun hmem => .inl (by simpa [signal] using hmem) }
  rw [awaitHook]
  split
  case h_1 =>
    exact { draining := id, deadline := fun _ => .inl, ending := fun _ => .inr (.inl hended),
            idle := .inl }
  case h_2 =>
    exact { draining := id, deadline := fun _ => .inl, ending := fun _ => .inr (.inl hended),
            idle := .inl }
  case h_3 => exact hsignal

/-- A bridge that only goes on. -/
theorem moves_goOn {phase : BridgePhase Num} (hphase : ∀ limit, phase ≠ .awaitingHook limit)
    {taken : List Command} :
    Moves config now told ended idle quits bridge { bridge with phase, taken } where
  draining := id
  deadline _ := .inl
  ending hending := by
    rcases hending with hshutdown | ⟨limit, hlimit⟩
    · exact .inl (.inl hshutdown)
    · exact absurd hlimit (hphase limit)
  idle := .inl

/-- A drain command is read, and the acceptor is paused. -/
theorem moves_pausing {taken : List Command} {hook : Option HookTask}
    {statuses : List BridgeStatus} (hidle : .idle ∈ statuses → .idle ∈ bridge.statuses) :
    Moves config now told ended idle quits bridge
      { bridge with taken, hook, statuses, phase := .pausing } := by
  refine { draining := id, deadline := fun _ => .inl, ending := ?_, idle := .inl ∘ hidle }
  rintro (hshutdown | ⟨limit, hlimit⟩)
  · exact .inl (.inl hshutdown)
  · cases hlimit

/-- The drain starts. -/
theorem moves_arm (htold : told) {taken : List Command} {hook : Option HookTask}
    {statuses : List BridgeStatus} (hidle : .idle ∈ statuses → .idle ∈ bridge.statuses)
    {acceptor : Acceptor} :
    Moves config now told ended idle quits bridge
      (({ bridge with taken, hook, statuses, acceptor } : IicBridge Num).arm config now) := by
  refine { draining := fun _ => rfl, deadline := ?_, ending := ?_, idle := .inl ∘ hidle }
  · intro deadline hdeadline
    exact .inr ⟨htold, (Option.some.inj hdeadline).symm⟩
  · rintro (hshutdown | ⟨limit, hlimit⟩)
    · exact .inl (.inl hshutdown)
    · cases hlimit

/-- What comes of reading the queue. -/
theorem moves_poll {message : Option Command} (htold : message.isSome → told)
    (hended : message = some .shutdown → ended) :
    Moves config now told ended idle quits bridge (bridge.poll config now message) := by
  have hcommand (command : Command) (hmessage : message = some command) :
      Moves config now told ended idle quits bridge
        (if bridge.draining then
          { bridge with taken := bridge.taken ++ [command], phase := .turning }
        else if command = .reloadDrain ∧ config.hasServer then
          { bridge with
            taken := bridge.taken ++ [command]
            statuses := bridge.statuses ++ [BridgeStatus.draining]
            hook := some .running
            phase := .pausing }
        else ({ bridge with
          taken := bridge.taken ++ [command]
          statuses := bridge.statuses ++ [BridgeStatus.draining]
          hook := some .running } : IicBridge Num).arm config now) := by
    split
    · exact moves_goOn fun limit hnot => (by cases hnot)
    split
    · exact moves_pausing (by simp)
    · exact moves_arm (htold (by rw [hmessage]; rfl)) (by simp)
  cases message with
  | none => exact moves_goOn fun limit hnot => (by cases hnot)
  | some command =>
      cases command with
      | shutdown =>
          show Moves _ _ _ _ _ _ _ (IicBridge.awaitHook (if bridge.draining then _ else _) now)
          split
          · exact moves_awaitHook (hended rfl)
          · exact moves_awaitHook (hended rfl)
      | drain => exact hcommand .drain rfl
      | reloadDrain => exact hcommand .reloadDrain rfl

/-- What comes of the checks. -/
theorem moves_turn (hquits : quits) {isIdle : Bool} (hidle : isIdle = true → idle) :
    Moves config now told ended idle quits bridge (bridge.turn now isIdle) := by
  have hgoOn : Moves config now told ended idle quits bridge { bridge with phase := .sleeping } :=
    moves_goOn fun limit hnot => (by cases hnot)
  rw [turn]
  split
  case isFalse => exact hgoOn
  case isTrue hdraining =>
    split
    case isTrue hexpired =>
      exact { draining := id, deadline := fun _ => .inl, ending := fun _ => .inr (.inr hexpired),
              idle := fun _ => .inr ⟨hdraining, .inr ⟨hquits, hexpired⟩⟩ }
    case isFalse =>
      split
      case isFalse => exact hgoOn
      case isTrue hannounces =>
        refine { draining := id, deadline := fun _ => .inl, ending := ?_,
                 idle := fun _ => .inr ⟨hdraining, .inl ⟨hidle hannounces.2.2, hannounces.2.1⟩⟩ }
        rintro (hshutdown | ⟨limit, hlimit⟩)
        · exact .inl (.inl hshutdown)
        · cases hlimit

/-- What a step of the bridge in its world changes. -/
theorem moves_step {world next : BridgeWorld Num} {action : BridgeAction Num}
    (hof : ReloadDrain.ofBridge action = true) (hstep : world.step config action = some next) :
    Moves config world.clock (world.ctrlQueue ≠ [] ∨ world.bridge.phase = .pausing)
      (.shutdown ∈ world.ctrlQueue) (world.idle = true)
      (action = .resume ∧ world.bridge.phase = .turning) world.bridge next.bridge ∧
    ∀ command ∈ next.ctrlQueue, command ∈ world.ctrlQueue := by
  cases action with
  | tick elapsed => cases hof
  | send command => cases hof
  | activity isIdle => cases hof
  | detach =>
      obtain ⟨-, rfl⟩ := Machine.of_guard hstep
      exact ⟨{ draining := id, deadline := fun _ => .inl, ending := .inl, idle := .inl },
        fun _ => id⟩
  | hookEnds ending =>
      obtain ⟨-, rfl⟩ := Machine.of_guard hstep
      cases ending with
      | exited => cases hof
      | caught | escaped =>
          exact ⟨{ draining := id, deadline := fun _ => .inl, ending := .inl, idle := .inl },
            fun _ => id⟩
  | poll =>
      obtain ⟨-, rfl⟩ := Machine.of_guard hstep
      refine ⟨moves_poll ?_ List.mem_of_head?, fun _ => List.mem_of_mem_tail⟩
      intro hsome
      refine .inl fun hnil => ?_
      rw [hnil] at hsome
      cases hsome
  | resume =>
      obtain ⟨bridge, hresume, rfl⟩ := Option.map_eq_some_iff.mp hstep
      refine ⟨?_, fun _ => id⟩
      rw [resume] at hresume
      split at hresume
      case h_1 hphase =>
        cases hresume
        exact moves_turn ⟨rfl, hphase⟩ id
      case h_2 hphase =>
        cases hresume
        exact moves_arm (.inr hphase) id
      case h_3 limit hphase =>
        have hending : world.bridge.Ending := .inr ⟨limit, hphase⟩
        have hsignal (idle quits told ended : Prop) :
            Moves config world.clock told ended idle quits world.bridge world.bridge.signal :=
          { draining := id
            deadline := fun _ => .inl
            ending := fun _ => .inl hending
            idle := fun hmem => .inl (by simpa [signal] using hmem) }
        split at hresume
        case h_1 =>
          obtain ⟨-, rfl⟩ := Machine.of_guard hresume
          exact hsignal ..
        case h_2 =>
          cases hresume
          exact { draining := id, deadline := fun _ => .inl, ending := fun _ => .inl hending,
                  idle := .inl }
        case h_3 =>
          cases hresume
          exact hsignal ..
      case h_4 => cases hresume

/-- A bridge that has read no command reads none from an empty queue. -/
theorem Asleep.step {world next : BridgeWorld Num} {action : BridgeAction Num}
    (hasleep : world.bridge.Asleep) (hqueue : world.ctrlQueue = [])
    (hof : ReloadDrain.ofBridge action = true) (hstep : world.step config action = some next) :
    next.bridge.Asleep ∧ next.ctrlQueue = [] := by
  cases action with
  | tick elapsed => cases hof
  | send command => cases hof
  | activity isIdle => cases hof
  | detach =>
      obtain ⟨hclosing, rfl⟩ := Machine.of_guard hstep
      cases hasleep.acceptor.symm.trans hclosing
  | hookEnds ending =>
      obtain ⟨-, rfl⟩ := Machine.of_guard hstep
      cases ending with
      | exited => cases hof
      | caught | escaped => exact ⟨{ hasleep with }, hqueue⟩
  | poll =>
      obtain ⟨-, rfl⟩ := Machine.of_guard hstep
      simp only [hqueue, List.head?_nil, List.tail_nil]
      exact ⟨⟨hasleep.acceptor, hasleep.draining, hasleep.deadline, hasleep.quiet, .inr rfl⟩,
        trivial⟩
  | resume =>
      obtain ⟨bridge, hresume, rfl⟩ := Option.map_eq_some_iff.mp hstep
      refine ⟨?_, hqueue⟩
      rw [resume] at hresume
      rcases hasleep.phase with hphase | hphase
      · rw [hphase] at hresume
        cases hresume
      · rw [hphase] at hresume
        cases hresume
        have hturn : world.bridge.turn world.clock world.idle =
            { world.bridge with phase := .sleeping } := by
          rw [turn, if_neg (by rw [hasleep.draining]; exact Bool.false_ne_true)]
        show (world.bridge.turn world.clock world.idle).Asleep
        rw [hturn]
        exact ⟨hasleep.acceptor, hasleep.draining, hasleep.deadline, hasleep.quiet, .inl rfl⟩

/-- The acceptor is closed, or about to be. -/
def Begun (bridge : IicBridge Num) : Prop := bridge.acceptor ≠ .serving ∨ bridge.phase = .pausing

/-- In a reload the acceptor is closed before anything else. -/
structure Retiring (bridge : IicBridge Num) (queue : List Command) : Prop where
  commands : .drain ∉ queue
  draining : bridge.draining = true → bridge.acceptor ≠ .serving
  ending : bridge.Ending → bridge.acceptor ≠ .serving
  begun : queue ≠ [] → bridge.Begun ∨ queue.head? = some .reloadDrain

/-- What a step does to the acceptor. -/
theorem acceptor_step {world next : BridgeWorld Num} {action : BridgeAction Num}
    (hstep : world.step config action = some next) :
    next.bridge.acceptor = world.bridge.acceptor ∨
      (action = .resume ∧ world.bridge.phase = .pausing ∧ next.bridge.acceptor = .closing) ∨
      (action = .detach ∧ world.bridge.acceptor = .closing ∧ next.bridge.acceptor = .detached) := by
  cases action with
  | tick elapsed =>
      obtain ⟨-, rfl⟩ := Machine.of_guard hstep
      exact .inl rfl
  | send | activity =>
      cases hstep
      exact .inl rfl
  | detach =>
      obtain ⟨hclosing, rfl⟩ := Machine.of_guard hstep
      exact .inr (.inr ⟨rfl, hclosing, rfl⟩)
  | hookEnds ending =>
      obtain ⟨-, rfl⟩ := Machine.of_guard hstep
      cases ending <;> exact .inl rfl
  | poll =>
      obtain ⟨-, rfl⟩ := Machine.of_guard hstep
      left
      show (world.bridge.poll config world.clock _).acceptor = _
      rw [poll.eq_def]
      dsimp only
      split
      case h_1 => rfl
      case h_2 =>
        rw [awaitHook]
        repeat' split
        all_goals rfl
      case h_3 =>
        repeat' split
        all_goals rfl
  | resume =>
      obtain ⟨bridge, hresume, rfl⟩ := Option.map_eq_some_iff.mp hstep
      rw [resume] at hresume
      split at hresume
      case h_1 =>
        cases hresume
        left
        show (world.bridge.turn _ _).acceptor = _
        rw [turn]
        repeat' split
        all_goals rfl
      case h_2 hphase =>
        cases hresume
        exact .inr (.inl ⟨rfl, hphase, rfl⟩)
      case h_3 =>
        left
        split at hresume
        case h_1 =>
          obtain ⟨-, rfl⟩ := Machine.of_guard hresume
          rfl
        case h_2 =>
          cases hresume
          rfl
        case h_3 =>
          cases hresume
          rfl
      case h_4 => cases hresume

/-- An acceptor that is closed stays so. -/
theorem closed_step {world next : BridgeWorld Num} {action : BridgeAction Num}
    (hclosed : world.bridge.acceptor ≠ .serving)
    (hstep : world.step config action = some next) : next.bridge.acceptor ≠ .serving := by
  rcases acceptor_step hstep with hsame | ⟨-, -, hnext⟩ | ⟨-, -, hnext⟩
  · rw [hsame]
    exact hclosed
  · rw [hnext]
    exact fun hnot => by cases hnot
  · rw [hnext]
    exact fun hnot => by cases hnot

/-- What has begun goes on. -/
theorem Begun.step {world next : BridgeWorld Num} {action : BridgeAction Num}
    (hbegun : world.bridge.Begun) (hof : ReloadDrain.ofBridge action = true)
    (hstep : world.step config action = some next) : next.bridge.Begun := by
  rcases hbegun with hclosed | hpausing
  · exact .inl (closed_step hclosed hstep)
  cases action with
  | tick elapsed => cases hof
  | send command => cases hof
  | activity isIdle => cases hof
  | detach =>
      obtain ⟨-, rfl⟩ := Machine.of_guard hstep
      exact .inr hpausing
  | hookEnds ending =>
      obtain ⟨-, rfl⟩ := Machine.of_guard hstep
      cases ending with
      | exited => cases hof
      | caught | escaped => exact .inr hpausing
  | poll =>
      obtain ⟨hsleeping, -⟩ := Machine.of_guard hstep
      cases hpausing.symm.trans hsleeping
  | resume =>
      obtain ⟨bridge, hresume, rfl⟩ := Option.map_eq_some_iff.mp hstep
      rw [resume, hpausing] at hresume
      cases hresume
      exact .inl fun hnot => by cases hnot

omit [CommRing Num] [LinearOrder Num] in
/-- A bridge whose acceptor is closed retires. -/
theorem retiring_of_closed {queue : List Command} (hcommands : .drain ∉ queue)
    (hclosed : bridge.acceptor ≠ .serving) : bridge.Retiring queue :=
  ⟨hcommands, fun _ => hclosed, fun _ => hclosed, fun _ => .inl (.inl hclosed)⟩

omit [CommRing Num] [LinearOrder Num] in
/-- A shutdown command comes after the one to drain. -/
theorem Retiring.shutdown {queue : List Command} (hretiring : bridge.Retiring queue)
    (hsent : bridge.Begun ∨ queue ≠ []) : bridge.Retiring (queue ++ [.shutdown]) := by
  refine ⟨?_, hretiring.draining, hretiring.ending, fun _ => ?_⟩
  · rw [List.mem_append, List.mem_singleton]
    rintro (hmem | hnot)
    · exact hretiring.commands hmem
    · cases hnot
  · rcases hsent with hbegun | hne
    · exact .inl hbegun
    · refine (hretiring.begun hne).imp_right fun hfirst => ?_
      rw [List.head?_append, hfirst, Option.some_or]

omit [CommRing Num] [LinearOrder Num] in
/-- A command that a retiring bridge reads is the one to drain, or the acceptor is closed. -/
theorem Retiring.first {command : Command} {rest : List Command}
    (hretiring : bridge.Retiring (command :: rest)) (hsleeping : bridge.phase = .sleeping) :
    bridge.acceptor ≠ .serving ∨ command = .reloadDrain := by
  rcases hretiring.begun (List.cons_ne_nil command rest) with (hclosed | hpausing) | hfirst
  · exact .inl hclosed
  · cases hsleeping.symm.trans hpausing
  · exact .inr (Option.some.inj hfirst)

/-- A bridge that retires polls. -/
theorem Retiring.poll {world next : BridgeWorld Num} (hserver : config.hasServer = true)
    (hretiring : world.bridge.Retiring world.ctrlQueue)
    (hstep : world.step config .poll = some next) :
    next.bridge.Retiring next.ctrlQueue ∧
      (world.bridge.Begun ∨ world.ctrlQueue ≠ [] → next.bridge.Begun) := by
  by_cases hclosed : world.bridge.acceptor = .serving
  case neg =>
    have hnext := closed_step hclosed hstep
    obtain ⟨-, rfl⟩ := Machine.of_guard hstep
    refine ⟨retiring_of_closed ?_ hnext, fun _ => .inl hnext⟩
    exact fun hmem => hretiring.commands (List.mem_of_mem_tail hmem)
  case pos =>
    obtain ⟨hsleeping, rfl⟩ := Machine.of_guard hstep
    cases hqueue : world.ctrlQueue with
    | nil =>
        refine ⟨⟨List.not_mem_nil, hretiring.draining, ?_, fun hnot => absurd rfl hnot⟩, ?_⟩
        · rintro (hshutdown | ⟨limit, hlimit⟩)
          · exact hretiring.ending (.inl hshutdown)
          · cases hlimit
        · rintro ((hnot | hpausing) | hnot)
          · exact absurd hclosed hnot
          · cases hsleeping.symm.trans hpausing
          · exact absurd rfl hnot
    | cons command rest =>
        rw [hqueue] at hretiring
        rcases hretiring.first hsleeping with hnot | rfl
        · exact absurd hclosed hnot
        have hundrained : world.bridge.draining = false := by
          rw [← Bool.not_eq_true]
          exact fun hdraining => hretiring.draining hdraining hclosed
        have hpoll : (world.bridge.poll config world.clock (some .reloadDrain)).phase = .pausing ∧
            (world.bridge.poll config world.clock (some .reloadDrain)).draining = false ∧
            (world.bridge.poll config world.clock (some .reloadDrain)).asyncShutdown =
              world.bridge.asyncShutdown := by
          simp [IicBridge.poll, hundrained, hserver]
        obtain ⟨hpausing, hdraining, hshutdown⟩ := hpoll
        refine ⟨⟨?_, ?_, ?_, fun _ => .inl (.inr hpausing)⟩, fun _ => .inr hpausing⟩
        · exact fun hmem => hretiring.commands (List.mem_cons_of_mem _ hmem)
        · exact fun hnot => absurd (hdraining.symm.trans hnot) Bool.false_ne_true
        · rintro (hnot | ⟨limit, hlimit⟩)
          · exact absurd hclosed (hretiring.ending (.inl (hshutdown.symm.trans hnot)))
          · cases hpausing.symm.trans hlimit

/-- A bridge that retires goes on to. -/
theorem Retiring.step {world next : BridgeWorld Num} {action : BridgeAction Num}
    (hserver : config.hasServer = true) (hretiring : world.bridge.Retiring world.ctrlQueue)
    (hof : ReloadDrain.ofBridge action = true) (hstep : world.step config action = some next) :
    next.bridge.Retiring next.ctrlQueue ∧
      (world.bridge.Begun ∨ world.ctrlQueue ≠ [] → next.bridge.Begun ∨ next.ctrlQueue ≠ []) := by
  have hbegun (hbegun : world.bridge.Begun) : next.bridge.Begun := hbegun.step hof hstep
  cases action with
  | tick elapsed => cases hof
  | send command => cases hof
  | activity isIdle => cases hof
  | poll =>
      obtain ⟨hnext, hgoes⟩ := hretiring.poll hserver hstep
      exact ⟨hnext, fun hold => .inl (hgoes hold)⟩
  | detach =>
      obtain ⟨hclosing, rfl⟩ := Machine.of_guard hstep
      have hnext : Acceptor.detached ≠ .serving := fun hnot => by cases hnot
      exact ⟨retiring_of_closed hretiring.commands hnext, fun _ => .inl (.inl hnext)⟩
  | hookEnds ending =>
      refine ⟨?_, ?_⟩
      · obtain ⟨-, rfl⟩ := Machine.of_guard hstep
        cases ending with
        | exited => cases hof
        | caught | escaped =>
            exact ⟨hretiring.commands, hretiring.draining, hretiring.ending, hretiring.begun⟩
      · obtain ⟨-, rfl⟩ := Machine.of_guard hstep
        exact Or.imp_left hbegun
  | resume =>
      have hqueue : next.ctrlQueue = world.ctrlQueue := by
        obtain ⟨bridge, -, rfl⟩ := Option.map_eq_some_iff.mp hstep
        rfl
      rw [hqueue]
      refine ⟨?_, Or.imp_left hbegun⟩
      by_cases hclosed : world.bridge.acceptor = .serving
      case neg => exact retiring_of_closed hretiring.commands (closed_step hclosed hstep)
      case pos =>
        have hundrained : world.bridge.draining ≠ true :=
          fun hdraining => hretiring.draining hdraining hclosed
        have hunended : ¬ world.bridge.Ending := fun hending => hretiring.ending hending hclosed
        obtain ⟨bridge, hresume, rfl⟩ := Option.map_eq_some_iff.mp hstep
        rw [resume] at hresume
        split at hresume
        case h_1 =>
          rw [turn, if_neg hundrained] at hresume
          cases hresume
          refine ⟨hretiring.commands, hretiring.draining, ?_, ?_⟩
          · rintro (hshutdown | ⟨limit, hlimit⟩)
            · exact absurd (.inl hshutdown) hunended
            · cases hlimit
          · exact fun hne => (hretiring.begun hne).imp_left hbegun
        case h_2 =>
          cases hresume
          exact retiring_of_closed hretiring.commands fun hnot => by cases hnot
        case h_3 limit hphase => exact absurd (.inr ⟨limit, hphase⟩) hunended
        case h_4 => cases hresume

end IicBridge

namespace ReloadDrain

variable {kind : WorkerKind} {config : ReloadConfig Num} {clock : Num} {waits : Bool}

/-! ## What a worker keeps -/

namespace OldWorker

variable {worker next : OldWorker Num}

/-- Its server is closed, and nothing is left of what it has accepted. -/
structure Settled (worker : OldWorker Num) : Prop where
  connections : worker.connections = 0
  attached : worker.attached = 0
  arriving : worker.arriving = 0
  closed : worker.closed = true

/-- It has been let go by the supervisor or by its bridge. -/
def Ending (worker : OldWorker Num) : Prop :=
  .shutdown ∈ worker.ctrlQueue ∨ worker.bridge.Ending

omit [CommRing Num] [LinearOrder Num] in
theorem closed_of_acceptor (hacceptor : worker.bridge.acceptor ≠ .serving) :
    worker.closed = true := by
  rw [closed, decide_eq_true hacceptor, Bool.true_or]

omit [CommRing Num] [LinearOrder Num] in
theorem closed_of_stopped (hphase : worker.phase = .stopped) : worker.closed = true := by
  rw [closed, hphase, Bool.or_true]

omit [CommRing Num] [LinearOrder Num] in
theorem closed_of_closing {deadline : Num} (hphase : worker.phase = .closing deadline) :
    worker.closed = true := by
  rw [closed, hphase, Bool.or_true]

omit [CommRing Num] [LinearOrder Num] in
/-- While the worker serves only its bridge closes the server. -/
theorem acceptor_of_closed (hphase : worker.phase = .serving) (hclosed : worker.closed = true) :
    worker.bridge.acceptor ≠ .serving := by
  rw [closed, hphase, Bool.or_false] at hclosed
  exact of_decide_eq_true hclosed

variable (kind config clock waits) in
/-- Its deadlines are counted from when it was told to drain. -/
structure Sound (worker : OldWorker Num) : Prop where
  /-- Only a worker in a subinterpreter has a bridge, and is told through it. -/
  inert : kind ≠ .subinterpreter → worker.ctrlQueue = [] ∧ worker.bridge = {}
  bridged : kind = .subinterpreter → worker.told = false
  /-- A synchronous worker has no deadlines. -/
  plain : kind = .sync → worker.phase = .serving ∨ worker.phase = .stopped
  asleep : worker.marked = none → worker.told = false ∧ worker.phase = .serving ∧
    worker.ctrlQueue = [] ∧ worker.bridge.Asleep
  since : ∀ began, worker.marked = some began → began ≤ clock
  deadline : ∀ began deadline, worker.marked = some began →
    worker.bridge.drainDeadline = some deadline → began + config.shutdownTimeout ≤ deadline
  ending : ∀ began, worker.marked = some began → worker.Ending → worker.Settled ∨
    began + config.reloadTimeout ≤ clock + config.shutdownTimeout
  draining : ∀ began deadline, worker.marked = some began → worker.phase = .draining deadline →
    began + config.reloadTimeout ≤ deadline
  closing : ∀ began deadline, worker.marked = some began → worker.phase = .closing deadline →
    worker.Settled ∨ began + config.reloadTimeout ≤ deadline
  idle : waits = true → .idle ∈ worker.bridge.statuses → worker.Settled
  /-- A synchronous worker has no event loop. -/
  direct : kind = .sync → worker.arriving = 0
  /-- Its server is closed when no connection is on its way. -/
  gone : worker.closed = true → worker.arriving = 0
  detached : worker.bridge.acceptor = .detached → worker.attached = 0
  retiring : kind = .subinterpreter → worker.bridge.Retiring worker.ctrlQueue
  sent : ∀ began, worker.marked = some began → kind = .subinterpreter →
    worker.bridge.Begun ∨ worker.ctrlQueue ≠ []

variable [IsStrictOrderedRing Num]

/-- Time passes. -/
theorem Sound.later {later : Num} (hsound : worker.Sound kind config clock waits)
    (hlater : clock ≤ later) : worker.Sound kind config later waits :=
  { hsound with
    since := fun began hmarked => (hsound.since began hmarked).trans hlater
    ending := fun began hmarked hending => (hsound.ending began hmarked hending).imp_right
      fun hle => by linarith }

omit [IsStrictOrderedRing Num] in
/-- A worker that was not told yet. -/
theorem Sound.fresh (hphase : worker.phase = .serving) (htold : worker.told = false)
    (hqueue : worker.ctrlQueue = []) (hbridge : worker.bridge = {})
    (hmarked : worker.marked = none) (hdirect : kind = .sync → worker.arriving = 0) :
    worker.Sound kind config clock waits := by
  have hunmarked {began : Num} : worker.marked ≠ some began := by
    rw [hmarked]
    exact fun hnot => by cases hnot
  exact {
    inert := fun _ => ⟨hqueue, hbridge⟩
    bridged := fun _ => htold
    plain := fun _ => .inl hphase
    asleep := by
      refine fun _ => ⟨htold, hphase, hqueue, ?_⟩
      rw [hbridge]
      exact ⟨rfl, rfl, rfl, rfl, .inl rfl⟩
    since := fun _ hsome => absurd hsome hunmarked
    deadline := fun _ _ hsome => absurd hsome hunmarked
    ending := fun _ hsome => absurd hsome hunmarked
    draining := fun _ _ hsome => absurd hsome hunmarked
    closing := fun _ _ hsome => absurd hsome hunmarked
    idle := by
      rw [hbridge]
      exact fun _ hmem => absurd hmem List.not_mem_nil
    direct := hdirect
    gone := by
      intro hclosed
      have hacceptor := acceptor_of_closed hphase hclosed
      rw [hbridge] at hacceptor
      exact absurd rfl hacceptor
    detached := by
      rw [hbridge]
      exact fun hnot => by cases hnot
    retiring := by
      rw [hqueue, hbridge]
      refine fun _ => ⟨List.not_mem_nil, fun hnot => (by cases hnot), ?_, fun hnot => absurd rfl hnot⟩
      rintro (hnot | ⟨limit, hlimit⟩)
      · cases hnot
      · cases hlimit
    sent := fun _ hsome => absurd hsome hunmarked }

omit [IsStrictOrderedRing Num] in
/-- The supervisor goes on. -/
theorem Sound.unwaited (hsound : worker.Sound kind config clock waits) :
    worker.Sound kind config clock false :=
  { hsound with idle := fun hnot => absurd hnot Bool.false_ne_true }

omit [IsStrictOrderedRing Num] in
/-- A worker that is not of a subinterpreter is never let go. -/
theorem Sound.not_ending (hsound : worker.Sound kind config clock waits)
    (hkind : kind ≠ .subinterpreter) :
    ¬ worker.Ending ∧ .idle ∉ worker.bridge.statuses := by
  obtain ⟨hqueue, hbridge⟩ := hsound.inert hkind
  rw [Ending, hqueue, hbridge]
  refine ⟨?_, List.not_mem_nil⟩
  rintro (hmem | hnot | ⟨limit, hlimit⟩)
  · cases hmem
  · cases hnot
  · cases hlimit

omit [IsStrictOrderedRing Num] in
/-- Connections come and go. -/
theorem Sound.traffic (hsound : worker.Sound kind config clock waits)
    {arriving attached waiting inFlight : ℕ}
    (hsettled : worker.Settled → waiting + inFlight = 0 ∧ attached = 0)
    (hdirect : kind = .sync → arriving = 0) (hgone : worker.closed = true → arriving = 0)
    (hdetached : worker.bridge.acceptor = .detached → attached = 0) :
    ({ worker with arriving, attached, waiting, inFlight } : OldWorker Num).Sound kind config clock
      waits := by
  have hkeeps (hold : worker.Settled) :
      ({ worker with arriving, attached, waiting, inFlight } : OldWorker Num).Settled :=
    ⟨(hsettled hold).1, (hsettled hold).2, hgone hold.closed, hold.closed⟩
  exact { hsound with
    ending := fun began hmarked hending =>
      (hsound.ending began hmarked hending).imp_left hkeeps
    closing := fun began deadline hmarked hphase =>
      (hsound.closing began deadline hmarked hphase).imp_left hkeeps
    idle := fun hwaits hmem => hkeeps (hsound.idle hwaits hmem)
    direct := hdirect
    gone := hgone
    detached := hdetached }

omit [IsStrictOrderedRing Num] in
/-- A worker that has got anywhere was told to drain. -/
theorem Sound.marked (hsound : worker.Sound kind config clock waits)
    (hphase : worker.phase ≠ .serving) : ∃ began, worker.marked = some began := by
  cases hmarked : worker.marked with
  | some began => exact ⟨began, rfl⟩
  | none => exact absurd (hsound.asleep hmarked).2.1 hphase

omit [IsStrictOrderedRing Num] in
/-- A worker stops. -/
theorem Sound.stop (hsound : worker.Sound kind config clock waits)
    (hmarked : ∃ began, worker.marked = some began) (harriving : worker.arriving = 0) :
    ({ worker with phase := .stopped } : OldWorker Num).Sound kind config clock waits := by
  obtain ⟨began, hbegan⟩ := hmarked
  have hkeeps (hold : worker.Settled) :
      ({ worker with phase := .stopped } : OldWorker Num).Settled :=
    ⟨hold.connections, hold.attached, harriving, closed_of_stopped rfl⟩
  exact { hsound with
    plain := fun _ => .inr rfl
    asleep := fun hnone => by cases hnone.symm.trans hbegan
    ending := fun began hmarked hending =>
      (hsound.ending began hmarked hending).imp_left hkeeps
    draining := fun _ _ _ hnot => by cases hnot
    closing := fun _ _ _ hnot => by cases hnot
    idle := fun hwaits hmem => hkeeps (hsound.idle hwaits hmem)
    gone := fun _ => harriving }

omit [IsStrictOrderedRing Num] in
/-- A worker aborts what is left. -/
theorem Sound.abort (hsound : worker.Sound kind config clock waits)
    (hmarked : ∃ began, worker.marked = some began) (harriving : worker.arriving = 0) :
    worker.abort.1.Sound kind config clock waits :=
  (hsound.stop hmarked harriving).traffic (fun _ => ⟨rfl, rfl⟩) (fun _ => harriving)
    (fun _ => harriving) fun _ => rfl

/-- What a step of a worker keeps, besides. -/
structure Later (kind : WorkerKind) (worker next : OldWorker Num) : Prop where
  marked : next.marked = worker.marked
  settled : kind = .subinterpreter → worker.Settled → next.Settled
  stopped : worker.phase = .stopped → next.phase = .stopped

omit [CommRing Num] [LinearOrder Num] [IsStrictOrderedRing Num] in
theorem Later.refl : Later kind worker worker := ⟨rfl, fun _ => id, id⟩

/-- What a step of a worker comes to: no request is aborted before its time. -/
structure Stepped (kind : WorkerKind) (config : ReloadConfig Num) (clock : Num) (waits : Bool)
    (worker next : OldWorker Num) (aborted : ℕ) : Prop where
  sound : next.Sound kind config clock waits
  later : Later kind worker next
  timely : aborted ≠ 0 → ∃ began, worker.marked = some began ∧
    began + config.reloadTimeout ≤ clock

omit [IsStrictOrderedRing Num] in
/-- Connections come and go. -/
theorem Stepped.traffic (hsound : worker.Sound kind config clock waits)
    {arriving attached waiting inFlight : ℕ}
    (hsettled : worker.Settled → waiting + inFlight = 0 ∧ attached = 0)
    (hdirect : kind = .sync → arriving = 0) (hgone : worker.closed = true → arriving = 0)
    (hdetached : worker.bridge.acceptor = .detached → attached = 0) :
    Stepped kind config clock waits worker
      { worker with arriving, attached, waiting, inFlight } 0 where
  sound := hsound.traffic hsettled hdirect hgone hdetached
  later := by
    refine ⟨rfl, fun _ hold => ?_, id⟩
    exact ⟨(hsettled hold).1, (hsettled hold).2, hgone hold.closed, hold.closed⟩
  timely hne := absurd rfl hne

omit [IsStrictOrderedRing Num] in
/-- Requests come and go on the connections that are counted. -/
theorem Stepped.requests (hsound : worker.Sound kind config clock waits) {waiting inFlight : ℕ}
    (hnone : worker.Settled → waiting + inFlight = 0) :
    Stepped kind config clock waits worker { worker with waiting, inFlight } 0 :=
  .traffic hsound (fun hsettled => ⟨hnone hsettled, hsettled.attached⟩) hsound.direct hsound.gone
    hsound.detached

omit [IsStrictOrderedRing Num] in
/-- A worker stops with nothing left. -/
theorem Stepped.stop (hsound : worker.Sound kind config clock waits)
    (hmarked : ∃ began, worker.marked = some began) (harriving : worker.arriving = 0) :
    Stepped kind config clock waits worker { worker with phase := .stopped } 0 where
  sound := hsound.stop hmarked harriving
  later := by
    refine ⟨rfl, fun _ hold => ?_, fun _ => rfl⟩
    exact ⟨hold.connections, hold.attached, harriving, closed_of_stopped rfl⟩
  timely hne := absurd rfl hne

omit [IsStrictOrderedRing Num] in
/-- A worker aborts what is left. -/
theorem Stepped.abort (hsound : worker.Sound kind config clock waits)
    (hphase : worker.phase ≠ .serving) (harriving : worker.arriving = 0)
    (htimely : worker.inFlight + worker.attached ≠ 0 → ∃ began, worker.marked = some began ∧
      began + config.reloadTimeout ≤ clock) :
    Stepped kind config clock waits worker worker.abort.1 worker.abort.2 where
  sound := hsound.abort (hsound.marked hphase) harriving
  later := ⟨rfl, fun _ _ => ⟨rfl, rfl, harriving, closed_of_stopped rfl⟩, fun _ => rfl⟩
  timely := htimely

omit [CommRing Num] [LinearOrder Num] [IsStrictOrderedRing Num] in
/-- It goes on, with its server closed. -/
theorem Settled.goOn (hsettled : worker.Settled) {phase : OldPhase Num}
    (hclosed : ({ worker with phase } : OldWorker Num).closed = true) :
    ({ worker with phase } : OldWorker Num).Settled :=
  ⟨hsettled.connections, hsettled.attached, hsettled.arriving, hclosed⟩

omit [CommRing Num] [LinearOrder Num] [IsStrictOrderedRing Num] in
/-- It hears from the supervisor, or is heard. -/
theorem Settled.hears {ctrlQueue : List Command} {statusesRead : ℕ} (hsettled : worker.Settled) :
    ({ worker with ctrlQueue, statusesRead } : OldWorker Num).Settled :=
  ⟨hsettled.connections, hsettled.attached, hsettled.arriving, hsettled.closed⟩

/-- A worker wakes. -/
theorem Stepped.wake (hbound : config.reloadTimeout ≤ config.patience kind)
    (hsound : worker.Sound kind config clock waits) (hphase : worker.phase = .serving)
    (hshutdown : worker.asyncShutdown = true) {aborted : ℕ}
    (hact : worker.act kind config clock .wake = some (next, aborted)) :
    Stepped kind config clock waits worker next aborted := by
  have hstopped {phase : OldPhase Num} (hnot : worker.phase = .stopped) : phase = .stopped := by
    cases hphase.symm.trans hnot
  replace hact := (if_pos (⟨hphase, hshutdown⟩ : _ ∧ worker.asyncShutdown = true)).symm.trans hact
  cases kind with
  | sync => cases hact
  | async =>
      cases hact
      have hsub : WorkerKind.async ≠ .subinterpreter := fun hnot => by cases hnot
      have hbridge := (hsound.inert hsub).2
      have htold : worker.told = true := by
        rw [asyncShutdown, hbridge, Bool.or_false] at hshutdown
        exact hshutdown
      obtain ⟨hunended, hnone⟩ := hsound.not_ending hsub
      refine ⟨?_, ⟨rfl, fun hnot => absurd hnot hsub, hstopped⟩, fun hne => absurd rfl hne⟩
      exact { hsound with
        plain := fun hnot => by cases hnot
        asleep := fun hnone => absurd ((hsound.asleep hnone).1.symm.trans htold) Bool.false_ne_true
        ending := fun _ _ hending => absurd hending hunended
        draining := by
          intro began deadline hmarked hdeadline
          cases hdeadline
          have hbegan := hsound.since began hmarked
          have hpatience : config.reloadTimeout ≤ config.shutdownTimeout := hbound
          linarith
        closing := fun _ _ _ hnot => by cases hnot
        idle := fun _ hmem => absurd hmem hnone
        gone := by
          rw [closed, hbridge]
          exact fun hnot => by cases hnot }
  | subinterpreter =>
      cases hact
      have hending : worker.bridge.Ending := by
        rw [asyncShutdown, hsound.bridged rfl, Bool.false_or] at hshutdown
        exact .inl hshutdown
      have hclosed := closed_of_acceptor ((hsound.retiring rfl).ending hending)
      have hkeeps (hold : worker.Settled) : ({ worker with
          phase := .closing (clock + config.shutdownTimeout) } : OldWorker Num).Settled :=
        hold.goOn (closed_of_closing rfl)
      refine ⟨?_, ⟨rfl, fun _ => hkeeps, hstopped⟩, fun hne => absurd rfl hne⟩
      exact { hsound with
        plain := fun hnot => by cases hnot
        asleep := by
          intro hnone
          obtain ⟨-, -, -, hasleep⟩ := hsound.asleep hnone
          exact absurd hending hasleep.not_ending
        ending := fun began hmarked hold => (hsound.ending began hmarked hold).imp_left hkeeps
        draining := fun _ _ _ hnot => by cases hnot
        closing := by
          intro began deadline hmarked hdeadline
          cases hdeadline
          exact (hsound.ending began hmarked (.inr hending)).imp_left hkeeps
        idle := fun hwaits hmem => hkeeps (hsound.idle hwaits hmem)
        gone := fun _ => hsound.gone hclosed }

/-- The bridge makes a step. -/
theorem Stepped.bridge (hbound : config.reloadTimeout ≤ config.patience kind)
    (hsound : worker.Sound kind config clock waits) (hkind : kind = .subinterpreter)
    (hphase : worker.phase = .serving) {action : BridgeAction Num}
    (hof : ofBridge action = true) (hallows : worker.allows action = true)
    {world : BridgeWorld Num}
    (hquits : action = .resume → waits = true → ¬ worker.Overdue clock)
    (hstep : (worker.world clock).step (iicConfig config) action = some world) :
    Stepped kind config clock waits worker
      { worker with ctrlQueue := world.ctrlQueue, bridge := world.bridge } 0 := by
  obtain ⟨hmoves, hqueue⟩ := IicBridge.moves_step hof hstep
  have htold := hsound.bridged hkind
  have hretiring := hsound.retiring hkind
  obtain ⟨hretires, hgoes⟩ := IicBridge.Retiring.step rfl hretiring hof hstep
  have hkeeps (hold : worker.Settled) :
      ({ worker with ctrlQueue := world.ctrlQueue, bridge := world.bridge } :
        OldWorker Num).Settled :=
    ⟨hold.connections, hold.attached, hold.arriving, closed_of_acceptor
      (IicBridge.closed_step (acceptor_of_closed hphase hold.closed) hstep)⟩
  have hserving {phase : OldPhase Num} (hnot : phase ≠ .serving) : worker.phase ≠ phase :=
    fun heq => hnot (heq.symm.trans hphase)
  refine ⟨?_, ⟨rfl, fun _ => hkeeps, id⟩, fun hne => absurd rfl hne⟩
  constructor
  case inert => exact fun hnot => absurd hkind hnot
  case bridged => exact hsound.bridged
  case plain => exact hsound.plain
  case asleep =>
    intro hnone
    obtain ⟨-, -, hempty, hasleep⟩ := hsound.asleep hnone
    obtain ⟨hnext, hnothing⟩ := IicBridge.Asleep.step hasleep hempty hof hstep
    exact ⟨htold, hphase, hnothing, hnext⟩
  case since => exact hsound.since
  case deadline =>
    intro began deadline hmarked hdeadline
    rcases hmoves.deadline deadline hdeadline with hold | ⟨-, rfl⟩
    · exact hsound.deadline began deadline hmarked hold
    · exact add_le_add_left (hsound.since began hmarked) _
  case ending =>
    intro began hmarked hending
    have hold : worker.Ending ∨ worker.bridge.Expired clock := by
      rcases hending with hmem | hbridge
      · exact .inl (.inl (hqueue _ hmem))
      · rcases hmoves.ending hbridge with hbefore | hmem | hexpired
        · exact .inl (.inr hbefore)
        · exact .inl (.inl hmem)
        · exact .inr hexpired
    rcases hold with hbefore | ⟨deadline, hdeadline, hpassed⟩
    · exact (hsound.ending began hmarked hbefore).imp_left hkeeps
    · have hcounted := hsound.deadline began deadline hmarked hdeadline
      have hpatience : config.reloadTimeout ≤ config.shutdownTimeout + config.shutdownTimeout := by
        rw [hkind] at hbound
        exact hbound
      exact .inr (by linarith)
  case draining =>
    intro began deadline _ hdeadline
    exact absurd hdeadline (hserving fun hnot => by cases hnot)
  case closing =>
    intro began deadline _ hdeadline
    exact absurd hdeadline (hserving fun hnot => by cases hnot)
  case idle =>
    intro hwaits hmem
    rcases hmoves.idle hmem with hold | ⟨hdraining, hwhy⟩
    · exact hkeeps (hsound.idle hwaits hold)
    · have hclosed := hretiring.draining hdraining
      have hnone : worker.connections = 0 ∧ worker.attached = 0 := by
        rcases hwhy with ⟨hidle, hnot⟩ | ⟨⟨haction, hturning⟩, hexpired⟩
        · refine ⟨of_decide_eq_true hidle, hsound.detached ?_⟩
          cases hacceptor : worker.bridge.acceptor with
          | serving => exact absurd hacceptor hclosed
          | closing => exact absurd hacceptor hnot
          | detached => rfl
        · rw [← Nat.add_eq_zero_iff]
          by_contra hactive
          exact hquits haction hwaits ⟨hturning, hdraining, hexpired, hactive⟩
      have hended := closed_of_acceptor hclosed
      exact hkeeps ⟨hnone.1, hnone.2, hsound.gone hended, hended⟩
  case direct => exact hsound.direct
  case gone =>
    intro hclosed
    rcases IicBridge.acceptor_step hstep with hsame | ⟨rfl, hpausing, -⟩ | ⟨-, hclosing, -⟩
    · have hacceptor : world.bridge.acceptor ≠ .serving := by
        rw [closed, hphase, Bool.or_false] at hclosed
        exact of_decide_eq_true hclosed
      rw [hsame] at hacceptor
      exact hsound.gone (closed_of_acceptor hacceptor)
    · replace hpausing : worker.bridge.phase = .pausing := hpausing
      rw [allows, decide_eq_false (not_not_intro hpausing), Bool.false_or] at hallows
      exact of_decide_eq_true hallows
    · apply hsound.gone (closed_of_acceptor _)
      rw [show worker.bridge.acceptor = _ from hclosing]
      exact fun hnot => by cases hnot
  case detached =>
    intro hdetached
    rcases IicBridge.acceptor_step hstep with hsame | ⟨-, -, hclosing⟩ | ⟨rfl, -, -⟩
    · exact hsound.detached (hsame.symm.trans hdetached)
    · cases hclosing.symm.trans hdetached
    · exact of_decide_eq_true hallows
  case retiring => exact fun _ => hretires
  case sent => exact fun began hmarked _ => hgoes (hsound.sent began hmarked hkind)

omit [IsStrictOrderedRing Num] in
/-- A connection is accepted. -/
theorem Stepped.accept (hsound : worker.Sound kind config clock waits) {aborted : ℕ}
    (hact : worker.act kind config clock .accept = some (next, aborted)) :
    Stepped kind config clock waits worker next aborted := by
  rw [OldWorker.act] at hact
  split at hact
  case isTrue hsync =>
    obtain ⟨⟨halive, -⟩, heq⟩ := Machine.of_guard hact
    cases heq
    apply Stepped.requests hsound
    intro hsettled
    have hsub : kind ≠ .subinterpreter := by
      rw [hsync]
      exact fun hnot => by cases hnot
    rcases hsound.plain hsync with hserving | hstopped
    · have hacceptor := acceptor_of_closed hserving hsettled.closed
      rw [(hsound.inert hsub).2] at hacceptor
      exact absurd rfl hacceptor
    · exact absurd hstopped halive
  case isFalse hkind =>
    obtain ⟨⟨hopen, -⟩, heq⟩ := Machine.of_guard hact
    cases heq
    have hnot {conclusion : Prop} (hclosed : worker.closed = true) : conclusion :=
      absurd (hopen.symm.trans hclosed) Bool.false_ne_true
    exact Stepped.traffic hsound (fun hsettled => hnot hsettled.closed)
      (fun hsync => absurd hsync hkind) hnot hsound.detached

omit [IsStrictOrderedRing Num] in
/-- A connection is attached. -/
theorem Stepped.attach (hsound : worker.Sound kind config clock waits) {aborted : ℕ}
    (hact : worker.act kind config clock .attach = some (next, aborted)) :
    Stepped kind config clock waits worker next aborted := by
  obtain ⟨harriving, hmay⟩ := Option.ite_none_right_eq_some.mp hact
  have hopen : worker.closed ≠ true := fun hclosed => by
    rw [hsound.gone hclosed] at harriving
    exact absurd harriving (lt_irrefl 0)
  rw [if_neg hopen] at hmay
  cases hmay
  apply Stepped.traffic hsound
  · exact fun hsettled => absurd hsettled.closed hopen
  · intro hsync
    rw [hsound.direct hsync]
  · exact fun hclosed => absurd hclosed hopen
  · intro hdetached
    refine absurd (closed_of_acceptor ?_) hopen
    rw [hdetached]
    exact fun hnot => by cases hnot

omit [IsStrictOrderedRing Num] in
/-- The handler of a connection begins. -/
theorem Stepped.begin (hsound : worker.Sound kind config clock waits) {aborted : ℕ}
    (hact : worker.act kind config clock .begin = some (next, aborted)) :
    Stepped kind config clock waits worker next aborted := by
  obtain ⟨hattached, hmay⟩ := Option.ite_none_right_eq_some.mp hact
  have hfewer (hdetached : worker.bridge.acceptor = .detached) : worker.attached - 1 = 0 := by
    rw [hsound.detached hdetached]
  have hunsettled : ¬ worker.Settled := by
    intro hsettled
    rw [hsettled.attached] at hattached
    exact absurd hattached (lt_irrefl 0)
  split at hmay
  · cases hmay
    exact Stepped.traffic hsound (fun hsettled => absurd hsettled hunsettled) hsound.direct
      hsound.gone hfewer
  · cases hmay
    exact Stepped.traffic hsound (fun hsettled => absurd hsettled hunsettled) hsound.direct
      hsound.gone hfewer

omit [IsStrictOrderedRing Num] in
/-- Its server is closed, and it waits or stops. -/
theorem Stepped.closeServer (hsound : worker.Sound kind config clock waits) {aborted : ℕ}
    {fails : Bool} (hfails : worker.Closable fails)
    (hact : worker.act kind config clock (.closeServer fails) = some (next, aborted)) :
    Stepped kind config clock waits worker next aborted := by
  rw [OldWorker.act] at hact
  split at hact
  case h_2 => cases hact
  case h_1 deadline hphase =>
    obtain ⟨harriving, hnone⟩ := hfails
    have hnot : worker.phase ≠ .serving := fun hserving => by
      cases hserving.symm.trans hphase
    cases fails with
    | true =>
        cases hact
        exact Stepped.abort hsound hnot harriving fun hne => absurd (hnone rfl) hne
    | false =>
        cases hact
        obtain ⟨began, hbegan⟩ := hsound.marked hnot
        have hkeeps (hold : worker.Settled) : ({ worker with
            phase := .closing (max clock deadline) } : OldWorker Num).Settled :=
          hold.goOn (closed_of_closing rfl)
        refine ⟨?_, ⟨rfl, fun _ => hkeeps, ?_⟩, fun hne => absurd rfl hne⟩
        · exact { hsound with
            plain := by
              intro hsync
              rcases hsound.plain hsync with hserving | hstopped
              · exact absurd hserving hnot
              · cases hstopped.symm.trans hphase
            asleep := fun hnone => by cases hnone.symm.trans hbegan
            ending := fun began hmarked hending =>
              (hsound.ending began hmarked hending).imp_left hkeeps
            draining := fun _ _ _ hother => by cases hother
            closing := by
              intro began _ hmarked hdeadline
              cases hdeadline
              have hcounted := hsound.draining began deadline hmarked hphase
              exact .inr (hcounted.trans (le_max_right _ _))
            idle := fun hwaits hmem => hkeeps (hsound.idle hwaits hmem)
            gone := fun _ => harriving }
        · exact fun hstopped => by cases hphase.symm.trans hstopped

omit [IsStrictOrderedRing Num] in
/-- It has waited for as long as it may. -/
theorem Stepped.timeOut (hsound : worker.Sound kind config clock waits) {aborted : ℕ}
    (hact : worker.act kind config clock .timeOut = some (next, aborted)) :
    Stepped kind config clock waits worker next aborted := by
  rw [OldWorker.act] at hact
  split at hact
  case h_2 => cases hact
  case h_1 deadline hphase =>
    obtain ⟨hpassed, heq⟩ := Machine.of_guard hact
    have hnot : worker.phase ≠ .serving := fun hserving => by
      cases hserving.symm.trans hphase
    cases heq
    apply Stepped.abort hsound hnot (hsound.gone (closed_of_closing hphase))
    intro hleft
    obtain ⟨began, hbegan⟩ := hsound.marked hnot
    refine ⟨began, hbegan, ?_⟩
    rcases hsound.closing began deadline hbegan hphase with hsettled | hcounted
    · have hnone : worker.waiting + worker.inFlight = 0 := hsettled.connections
      have hattached := hsettled.attached
      omega
    · exact hcounted.trans hpassed

/-- Every step of a worker aborts nothing before its time, and keeps its deadlines. -/
theorem Sound.act (hbound : config.reloadTimeout ≤ config.patience kind)
    (hsound : worker.Sound kind config clock waits) {action : WorkerAction Num} {aborted : ℕ}
    (hfails : ∀ fails, action = .closeServer fails → worker.Closable fails)
    (hquits : action = .bridge .resume → waits = true → ¬ worker.Overdue clock)
    (hact : worker.act kind config clock action = some (next, aborted)) :
    Stepped kind config clock waits worker next aborted := by
  cases action with
  | accept => exact Stepped.accept hsound hact
  | attach => exact Stepped.attach hsound hact
  | begin => exact Stepped.begin hsound hact
  | request =>
      obtain ⟨⟨-, hwaiting⟩, heq⟩ := Machine.of_guard hact
      cases heq
      apply Stepped.requests hsound
      intro hsettled
      have hnone : worker.waiting + worker.inFlight = 0 := hsettled.connections
      omega
  | respond =>
      obtain ⟨hinFlight, heq⟩ := Machine.of_guard hact
      cases heq
      apply Stepped.requests hsound
      intro hsettled
      have hnone : worker.waiting + worker.inFlight = 0 := hsettled.connections
      omega
  | leave =>
      obtain ⟨hwaiting, heq⟩ := Machine.of_guard hact
      cases heq
      apply Stepped.requests hsound
      intro hsettled
      have hnone : worker.waiting + worker.inFlight = 0 := hsettled.connections
      omega
  | wake =>
      obtain ⟨⟨hphase, hshutdown⟩, -⟩ := Option.ite_none_right_eq_some.mp hact
      exact Stepped.wake hbound hsound hphase hshutdown hact
  | closeServer fails => exact Stepped.closeServer hsound (hfails fails rfl) hact
  | detached =>
      rw [OldWorker.act] at hact
      split at hact
      case h_2 => cases hact
      case h_1 deadline hphase =>
        obtain ⟨-, heq⟩ := Machine.of_guard hact
        cases heq
        have hnot : worker.phase ≠ .serving := fun hserving => by
          cases hserving.symm.trans hphase
        exact Stepped.stop hsound (hsound.marked hnot) (hsound.gone (closed_of_closing hphase))
  | timeOut => exact Stepped.timeOut hsound hact
  | exit =>
      obtain ⟨⟨hsync, -, htold, -⟩, heq⟩ := Machine.of_guard hact
      cases heq
      refine Stepped.stop hsound ?_ (hsound.direct hsync)
      cases hmarked : worker.marked with
      | some began => exact ⟨began, rfl⟩
      | none => exact absurd ((hsound.asleep hmarked).1.symm.trans htold) Bool.false_ne_true
  | bridge action =>
      obtain ⟨⟨hkind, hphase, hof, hallows⟩, hmap⟩ := Option.ite_none_right_eq_some.mp hact
      obtain ⟨world, hstep, heq⟩ := Option.map_eq_some_iff.mp hmap
      cases heq
      exact Stepped.bridge hbound hsound hkind hphase hof hallows
        (fun haction => hquits (by rw [haction])) hstep

omit [IsStrictOrderedRing Num] in
/-- The supervisor tells it to drain. -/
theorem Sound.mark (hsound : worker.Sound kind config clock true) (hmarked : worker.marked = none) :
    (worker.mark kind clock).Sound kind config clock true := by
  obtain ⟨htold, hphase, hqueue, hasleep⟩ := hsound.asleep hmarked
  have hidle : .idle ∉ worker.bridge.statuses := by
    intro hmem
    exact acceptor_of_closed hphase (hsound.idle rfl hmem).closed hasleep.acceptor
  have hbegan {began : Num} (hsome : some clock = some began) : began ≤ clock :=
    (Option.some.inj hsome).ge
  have hdeadline {deadline : Num} : worker.bridge.drainDeadline ≠ some deadline := by
    rw [hasleep.deadline]
    exact fun hnot => by cases hnot
  have hserving {phase : OldPhase Num} (hnot : phase ≠ .serving) : worker.phase ≠ phase :=
    fun heq => hnot (heq.symm.trans hphase)
  rw [OldWorker.mark]
  split
  case isTrue hkind =>
    exact {
      inert := fun hnot => absurd hkind hnot
      bridged := hsound.bridged
      plain := hsound.plain
      asleep := fun hnot => by cases hnot
      since := fun began hsome => hbegan hsome
      deadline := fun began deadline _ hsome => absurd hsome hdeadline
      ending := by
        rintro began - (hmem | hending)
        · rw [hqueue] at hmem
          cases List.mem_singleton.mp hmem
        · exact absurd hending hasleep.not_ending
      draining := fun _ _ _ hother => absurd hother (hserving fun hnot => by cases hnot)
      closing := fun _ _ _ hother => absurd hother (hserving fun hnot => by cases hnot)
      idle := fun _ hmem => absurd hmem hidle
      direct := hsound.direct
      gone := hsound.gone
      detached := hsound.detached
      retiring := by
        rw [hqueue]
        refine fun _ => ⟨?_, (hsound.retiring hkind).draining, (hsound.retiring hkind).ending,
          fun _ => .inr rfl⟩
        exact fun hmem => by cases List.mem_singleton.mp hmem
      sent := by
        rw [hqueue]
        exact fun _ _ _ => .inr (List.cons_ne_nil _ _) }
  case isFalse hkind =>
    exact {
      inert := hsound.inert
      bridged := fun hsub => absurd hsub hkind
      plain := hsound.plain
      asleep := fun hnot => by cases hnot
      since := fun began hsome => hbegan hsome
      deadline := fun began deadline _ hsome => absurd hsome hdeadline
      ending := fun _ _ hending => absurd hending (hsound.not_ending hkind).1
      draining := fun _ _ _ hother => absurd hother (hserving fun hnot => by cases hnot)
      closing := fun _ _ _ hother => absurd hother (hserving fun hnot => by cases hnot)
      idle := fun _ hmem => absurd hmem hidle
      direct := hsound.direct
      gone := hsound.gone
      detached := hsound.detached
      retiring := fun hsub => absurd hsub hkind
      sent := fun _ _ hsub => absurd hsub hkind }

omit [IsStrictOrderedRing Num] in
/-- The supervisor looks at it. What is idle then is drained. -/
theorem Sound.look (hsound : worker.Sound kind config clock true) :
    (worker.look kind).2.Sound kind config clock true ∧
      Later kind worker (worker.look kind).2 ∧
        ((worker.look kind).1 = true → worker.connections = 0 ∧
          (kind = .subinterpreter → worker.Settled)) := by
  rw [OldWorker.look]
  split
  case isFalse hkind =>
    exact ⟨hsound, .refl, fun hidle => ⟨of_decide_eq_true hidle, fun hsub => absurd hsub hkind⟩⟩
  case isTrue =>
    split
    case h_1 => exact ⟨hsound, .refl, fun hnot => by cases hnot⟩
    case h_2 status hstatus =>
      refine ⟨?_, ⟨rfl, fun _ => .hears, id⟩, ?_⟩
      · exact { hsound with
          ending := fun began hmarked hending => (hsound.ending began hmarked hending).imp_left
            .hears
          closing := fun began deadline hmarked hphase =>
            (hsound.closing began deadline hmarked hphase).imp_left .hears
          idle := fun hwaits hmem => (hsound.idle hwaits hmem).hears }
      intro hidle
      obtain rfl := of_decide_eq_true hidle
      have hsettled := hsound.idle rfl (List.mem_of_getElem? hstatus)
      exact ⟨hsettled.connections, fun _ => hsettled⟩

/-- The supervisor lets it go. -/
theorem Sound.dismiss (hsound : worker.Sound kind config clock false)
    (hpassed : kind = .subinterpreter → worker.Settled ∨
      ∀ began, worker.marked = some began → began + config.reloadTimeout ≤ clock)
    (hmarked : ∃ began, worker.marked = some began) :
    (worker.dismiss kind).Sound kind config clock false := by
  obtain ⟨first, hfirst⟩ := hmarked
  rw [OldWorker.dismiss]
  split
  case isFalse => exact hsound
  case isTrue hkind =>
    exact { hsound with
      inert := fun hnot => absurd hkind hnot
      asleep := fun hnone => by cases hnone.symm.trans hfirst
      ending := by
        intro began hbegan _
        refine (hpassed hkind).imp .hears fun hpast => ?_
        have hpos := config.shutdownTimeout_pos
        have hle := hpast began hbegan
        linarith
      closing := fun began deadline hbegan hphase =>
        (hsound.closing began deadline hbegan hphase).imp_left .hears
      idle := fun hnot => absurd hnot Bool.false_ne_true
      retiring := fun _ => (hsound.retiring hkind).shutdown (hsound.sent first hfirst hkind)
      sent := fun _ _ _ => .inr (List.append_ne_nil_of_right_ne_nil _ (List.cons_ne_nil _ _)) }

end OldWorker

/-! ## What the pool keeps -/

namespace OldPool

variable {pool next : OldPool Num} {armed : Option Num}

/-- Its deadlines are counted from when it was retired, after the supervisor began to wait. -/
structure Sound (config : ReloadConfig Num) (armed : Option Num) (pool : OldPool Num) : Prop where
  woken : pool.phase ≠ .serving → pool.retired = true
  draining : ∀ began deadline, armed = some began → pool.phase = .draining deadline →
    began + config.shutdownTimeout ≤ deadline
  awaiting : ∀ began deadline, armed = some began → pool.phase = .awaiting deadline →
    began + config.shutdownTimeout + config.shutdownTimeout ≤ deadline

/-- The number of its requests does not matter. -/
theorem Sound.traffic (hsound : pool.Sound config armed) (inFlight : ℕ) :
    ({ pool with inFlight } : OldPool Num).Sound config armed :=
  ⟨hsound.woken, hsound.draining, hsound.awaiting⟩

/-- It stops. -/
theorem Sound.stop (hsound : pool.Sound config armed) (hphase : pool.phase ≠ .serving)
    (inFlight : ℕ) :
    ({ pool with inFlight, phase := .stopped } : OldPool Num).Sound config armed :=
  ⟨fun _ => hsound.woken hphase, fun _ _ _ hnot => (by cases hnot),
    fun _ _ _ hnot => (by cases hnot)⟩

variable [IsStrictOrderedRing Num]

/-- Every step of the pool cancels nothing before its time. -/
theorem Sound.act (hsound : pool.Sound config armed)
    (harmed : pool.retired = true → ∃ began, armed = some began ∧ began ≤ clock)
    {action : PoolAction} {aborted : ℕ} (hact : pool.act config clock action = some (next, aborted)) :
    next.Sound config armed ∧ next.retired = pool.retired ∧
      (aborted ≠ 0 → ∃ began, armed = some began ∧
        began + config.shutdownTimeout + config.shutdownTimeout ≤ clock) := by
  cases action with
  | finish =>
      obtain ⟨-, heq⟩ := Machine.of_guard hact
      cases heq
      exact ⟨hsound.traffic _, rfl, fun hne => absurd rfl hne⟩
  | wake =>
      obtain ⟨⟨-, hretired⟩, heq⟩ := Machine.of_guard hact
      cases heq
      refine ⟨⟨fun _ => hretired, ?_, fun _ _ _ hnot => (by cases hnot)⟩, rfl,
        fun hne => absurd rfl hne⟩
      intro began deadline hbegan hphase
      obtain ⟨other, hother, hle⟩ := harmed hretired
      cases hphase
      cases hother.symm.trans hbegan
      linarith
  | goOn =>
      rw [OldPool.act] at hact
      split at hact
      case h_3 => cases hact
      case h_1 deadline hphase =>
        have hnot : pool.phase ≠ .serving := fun hserving => by cases hserving.symm.trans hphase
        split at hact
        case isTrue =>
          cases hact
          exact ⟨hsound.stop hnot _, rfl, fun hne => absurd rfl hne⟩
        case isFalse =>
          obtain ⟨hpassed, heq⟩ := Machine.of_guard hact
          cases heq
          refine ⟨⟨fun _ => hsound.woken hnot, fun _ _ _ hother => (by cases hother), ?_⟩, rfl,
            fun hne => absurd rfl hne⟩
          intro began other hbegan hother
          cases hother
          have hcounted := hsound.draining began deadline hbegan hphase
          linarith
      case h_2 deadline hphase =>
        have hnot : pool.phase ≠ .serving := fun hserving => by cases hserving.symm.trans hphase
        split at hact
        case isTrue =>
          cases hact
          exact ⟨hsound.stop hnot _, rfl, fun hne => absurd rfl hne⟩
        case isFalse =>
          obtain ⟨hpassed, heq⟩ := Machine.of_guard hact
          cases heq
          refine ⟨hsound.stop hnot _, rfl, fun _ => ?_⟩
          obtain ⟨began, hbegan, -⟩ := harmed (hsound.woken hnot)
          exact ⟨began, hbegan, (hsound.awaiting began deadline hbegan hphase).trans hpassed⟩

omit [IsStrictOrderedRing Num] in
/-- A request is lost only to a pool that is retired. -/
theorem Sound.take (hsound : pool.Sound config armed) :
    pool.take.1.Sound config armed ∧ pool.take.1.retired = pool.retired ∧
      (pool.take.2 ≠ 0 → pool.retired = true) := by
  rw [OldPool.take]
  split
  case h_1 => exact ⟨hsound.traffic _, rfl, fun hne => absurd rfl hne⟩
  case h_2 => exact ⟨hsound.traffic _, rfl, fun hne => absurd rfl hne⟩
  case h_3 hphase =>
    exact ⟨hsound, rfl, fun _ => hsound.woken fun hserving => by cases hserving.symm.trans hphase⟩
  case h_4 hphase =>
    exact ⟨hsound, rfl, fun _ => hsound.woken fun hserving => by cases hserving.symm.trans hphase⟩

end OldPool

/-! ## What the supervisor has seen -/

variable {workers others : List (OldWorker Num)} {armed : Option Num}

/-- The workers were told to drain by then. -/
def MarkedBy (began : Num) (workers : List (OldWorker Num)) : Prop :=
  ∀ (index : ℕ) (worker : OldWorker Num), workers[index]? = some worker →
    ∃ first, worker.marked = some first ∧ first ≤ began

/-- The first workers of a subinterpreter are drained, or have had their time. -/
def PassedTo (kind : WorkerKind) (config : ReloadConfig Num) (clock began : Num)
    (workers : List (OldWorker Num)) (bound : ℕ) : Prop :=
  kind = .subinterpreter → ∀ (index : ℕ) (worker : OldWorker Num),
    workers[index]? = some worker → index < bound →
      worker.Settled ∨ began + config.reloadTimeout ≤ clock

variable (kind config clock workers armed) in
/-- How far `_graceful_reload_impl` has come. -/
def Progress : SupervisorPhase Num → Prop
  | .marking next => armed = none ∧ ∀ (index : ℕ) (worker : OldWorker Num),
      workers[index]? = some worker → (worker.marked.isSome ↔ index < next)
  | .polling next deadline _ => ∃ began, armed = some began ∧ began ≤ clock ∧
      MarkedBy began workers ∧ deadline = began + config.reloadTimeout ∧
      PassedTo kind config clock began workers next
  | .polled => ∃ began, armed = some began ∧ began ≤ clock ∧ MarkedBy began workers ∧
      PassedTo kind config clock began workers workers.length
  | .joining deadline => ∃ began, armed = some began ∧ began ≤ clock ∧
      began + config.shutdownTimeout ≤ deadline
  | .joined | .done => ∃ began, armed = some began ∧ began ≤ clock ∧
      ((∀ (index : ℕ) (worker : OldWorker Num), workers[index]? = some worker →
        worker.phase = .stopped) ∨ began + config.shutdownTimeout ≤ clock)

variable (kind) in
/-- Every worker has only made a step, or none. -/
def AllLater (workers others : List (OldWorker Num)) : Prop :=
  others.length = workers.length ∧ ∀ (index : ℕ) (next : OldWorker Num),
    others[index]? = some next →
      ∃ worker, workers[index]? = some worker ∧ OldWorker.Later kind worker next

omit [CommRing Num] [LinearOrder Num] in
theorem AllLater.refl : AllLater kind workers workers :=
  ⟨rfl, fun _ next hnext => ⟨next, hnext, .refl⟩⟩

omit [CommRing Num] [LinearOrder Num] in
/-- One worker makes a step. -/
theorem AllLater.set {index : ℕ} {worker next : OldWorker Num}
    (hworker : workers[index]? = some worker) (hlater : OldWorker.Later kind worker next) :
    AllLater kind workers (workers.set index next) := by
  refine ⟨List.length_set .., ?_⟩
  intro other found hfound
  rw [List.getElem?_set] at hfound
  split at hfound
  case isTrue heq =>
    split at hfound
    · subst heq
      cases hfound
      exact ⟨worker, hworker, hlater⟩
    · cases hfound
  case isFalse => exact ⟨found, hfound, .refl⟩

/-- What the supervisor has seen stays so. -/
theorem Progress.later {phase : SupervisorPhase Num} {later : Num}
    (hprogress : Progress kind config clock workers armed phase)
    (hlater : AllLater kind workers others) (hclock : clock ≤ later) :
    Progress kind config later others armed phase := by
  have hmarkedBy {began : Num} (hmarked : MarkedBy began workers) : MarkedBy began others := by
    intro index next hnext
    obtain ⟨worker, hworker, hstep⟩ := hlater.2 index next hnext
    rw [hstep.marked]
    exact hmarked index worker hworker
  have hpassed {began : Num} {bound : ℕ}
      (hold : PassedTo kind config clock began workers bound) :
      PassedTo kind config later began others bound := by
    intro hkind index next hnext hindex
    obtain ⟨worker, hworker, hstep⟩ := hlater.2 index next hnext
    exact (hold hkind index worker hworker hindex).imp (hstep.settled hkind)
      fun hle => hle.trans hclock
  have hended (hold : ∃ began, armed = some began ∧ began ≤ clock ∧
      ((∀ (index : ℕ) (worker : OldWorker Num), workers[index]? = some worker →
        worker.phase = .stopped) ∨ began + config.shutdownTimeout ≤ clock)) :
      ∃ began, armed = some began ∧ began ≤ later ∧
        ((∀ (index : ℕ) (worker : OldWorker Num), others[index]? = some worker →
          worker.phase = .stopped) ∨ began + config.shutdownTimeout ≤ later) := by
    obtain ⟨began, hbegan, hle, hwhy⟩ := hold
    refine ⟨began, hbegan, hle.trans hclock, hwhy.imp ?_ fun hpast => hpast.trans hclock⟩
    intro hstopped index next hnext
    obtain ⟨worker, hworker, hstep⟩ := hlater.2 index next hnext
    exact hstep.stopped (hstopped index worker hworker)
  cases phase with
  | marking bound =>
      refine ⟨hprogress.1, ?_⟩
      intro index next hnext
      obtain ⟨worker, hworker, hstep⟩ := hlater.2 index next hnext
      rw [hstep.marked]
      exact hprogress.2 index worker hworker
  | polling bound deadline checked =>
      obtain ⟨began, hbegan, hle, hmarked, hdeadline, hold⟩ := hprogress
      exact ⟨began, hbegan, hle.trans hclock, hmarkedBy hmarked, hdeadline, hpassed hold⟩
  | polled =>
      obtain ⟨began, hbegan, hle, hmarked, hold⟩ := hprogress
      refine ⟨began, hbegan, hle.trans hclock, hmarkedBy hmarked, ?_⟩
      rw [hlater.1]
      exact hpassed hold
  | joining deadline =>
      obtain ⟨began, hbegan, hle, hdeadline⟩ := hprogress
      exact ⟨began, hbegan, hle.trans hclock, hdeadline⟩
  | joined => exact hended hprogress
  | done => exact hended hprogress

/-! ## The reload as a whole -/

namespace Reload

variable {reload next : Reload Num}

variable (kind config reload) in
/-- Workers, pool and supervisor keep what they promise each other. -/
structure Sound : Prop extends Patient config reload where
  workers : ∀ (index : ℕ) (worker : OldWorker Num), reload.workers[index]? = some worker →
    worker.Sound kind config reload.clock reload.supervisor.waits
  progress : Progress kind config reload.clock reload.workers reload.armed reload.supervisor
  retired : reload.pool.retired = true → reload.supervisor = .done
  pool : reload.pool.Sound config reload.armed

/-- What was aborted was aborted in time. -/
theorem Sound.note (hsound : reload.Sound kind config) {began : Option Num} {aborted : ℕ}
    (htimely : aborted ≠ 0 → ∃ first, began = some first ∧
      first + config.reloadTimeout ≤ reload.clock) :
    (reload.note began aborted).Sound kind config := by
  rw [Reload.note]
  split
  case isTrue => exact hsound
  case isFalse hne =>
    exact { hsound with
      aborts := by
        intro abort hmem
        rcases List.mem_append.mp hmem with hold | hnew
        · exact hsound.aborts abort hold
        · obtain rfl := List.mem_singleton.mp hnew
          exact htimely hne }

/-- When the pool is retired the supervisor has waited. -/
theorem Sound.waited (hsound : reload.Sound kind config) (hretired : reload.pool.retired = true) :
    ∃ began, reload.armed = some began ∧ began ≤ reload.clock := by
  have hprogress := hsound.progress
  rw [hsound.retired hretired] at hprogress
  obtain ⟨began, hbegan, hle, -⟩ := hprogress
  exact ⟨began, hbegan, hle⟩

variable [IsStrictOrderedRing Num]

/-- Time passes. -/
theorem Sound.tick (hsound : reload.Sound kind config) {elapsed : Num} (helapsed : 0 ≤ elapsed) :
    ({ reload with clock := reload.clock + elapsed } : Reload Num).Sound kind config := by
  have hlater : reload.clock ≤ reload.clock + elapsed := le_add_of_nonneg_right helapsed
  exact { hsound with
    workers := fun index worker hworker => (hsound.workers index worker hworker).later hlater
    progress := hsound.progress.later .refl hlater }

omit [IsStrictOrderedRing Num] in
/-- A worker makes a step. -/
theorem Sound.put (hsound : reload.Sound kind config) {index : ℕ}
    {worker changed : OldWorker Num} (hworker : reload.workers[index]? = some worker)
    (hchanged : changed.Sound kind config reload.clock reload.supervisor.waits)
    (hlater : OldWorker.Later kind worker changed) :
    (reload.put index changed).Sound kind config := by
  refine { hsound with
    workers := ?_
    progress := hsound.progress.later (.set hworker hlater) le_rfl }
  intro other found hfound
  rw [Reload.put, List.getElem?_set] at hfound
  split at hfound
  case isTrue =>
    split at hfound
    · cases hfound
      exact hchanged
    · cases hfound
  case isFalse => exact hsound.workers other found hfound

/-- A request is handed to the pool. -/
theorem Sound.handOff (hbound : config.reloadTimeout ≤ config.patience kind)
    (hsound : reload.Sound kind config) {index : ℕ} {worker : OldWorker Num}
    (hworker : reload.workers[index]? = some worker) (hsync : kind = .sync)
    (halive : worker.phase ≠ .stopped) :
    ((({ reload with pool := reload.pool.take.1 } : Reload Num).put index
      { worker with inFlight := worker.inFlight - 1 }).note reload.armed
        reload.pool.take.2).Sound kind config := by
  obtain ⟨hpool, hsame, hlost⟩ := hsound.pool.take
  have htaken : ({ reload with pool := reload.pool.take.1 } : Reload Num).Sound kind config :=
    { hsound with
      retired := fun hretired => hsound.retired (hsame.symm.trans hretired)
      pool := hpool }
  have hfewer (hsettled : worker.Settled) : worker.waiting + (worker.inFlight - 1) = 0 := by
    have hnone : worker.waiting + worker.inFlight = 0 := hsettled.connections
    omega
  have hstepped := OldWorker.Stepped.requests (hsound.workers index worker hworker) hfewer
  apply (htaken.put hworker hstepped.sound hstepped.later).note
  intro hne
  have hprogress := hsound.progress
  rw [hsound.retired (hlost hne)] at hprogress
  obtain ⟨began, hbegan, -, hwhy⟩ := hprogress
  refine ⟨began, hbegan, ?_⟩
  rcases hwhy with hstopped | hpast
  · exact absurd (hstopped index worker hworker) halive
  · have hpatience : config.reloadTimeout ≤ config.shutdownTimeout := by
      rw [hsync] at hbound
      exact hbound
    exact (add_le_add_right hpatience began).trans hpast

/-- The pool makes a step. -/
theorem Sound.act (hbound : config.reloadTimeout ≤ config.patience kind)
    (hsound : reload.Sound kind config) {action : PoolAction} {outcome : OldPool Num × ℕ}
    (hact : reload.pool.act config reload.clock action = some outcome) :
    (({ reload with pool := outcome.1 } : Reload Num).note reload.armed outcome.2).Sound kind
      config := by
  obtain ⟨hpool, hsame, htimely⟩ := hsound.pool.act hsound.waited hact
  have hpatience : config.reloadTimeout ≤ config.shutdownTimeout + config.shutdownTimeout := by
    have hpos := config.shutdownTimeout_pos
    cases kind with
    | async => exact hbound.trans (by show config.shutdownTimeout ≤ _; linarith)
    | sync => exact hbound.trans (by show config.shutdownTimeout ≤ _; linarith)
    | subinterpreter => exact hbound
  apply Sound.note
  · exact { hsound with
      retired := fun hretired => hsound.retired (hsame.symm.trans hretired)
      pool := hpool }
  · intro hne
    obtain ⟨began, hbegan, hpast⟩ := htimely hne
    refine ⟨began, hbegan, ?_⟩
    show began + config.reloadTimeout ≤ reload.clock
    linarith

omit [IsStrictOrderedRing Num] in
/-- The pool is not retired before the supervisor is done. -/
theorem Sound.not_retired (hsound : reload.Sound kind config)
    (hphase : reload.supervisor ≠ .done) {retired : Prop}
    (hretired : reload.pool.retired = true) : retired :=
  absurd (hsound.retired hretired) hphase

omit [IsStrictOrderedRing Num] in
/-- The supervisor tells the next worker to drain, or begins to wait. -/
theorem Sound.marking (hsound : reload.Sound kind config) {index : ℕ}
    (hphase : reload.supervisor = .marking index)
    (hstep : reload.supervise kind config = some next) : next.Sound kind config := by
  have hprogress := hsound.progress
  have hworkers := hsound.workers
  rw [hphase] at hprogress hworkers
  obtain ⟨harmed, hmarked⟩ := hprogress
  have hnot : reload.supervisor ≠ .done := by
    rw [hphase]
    exact fun hdone => by cases hdone
  rw [Reload.supervise, hphase] at hstep
  simp only at hstep
  split at hstep
  case h_1 worker hworker =>
    cases hstep
    have hunmarked : worker.marked = none := by
      rw [← Option.not_isSome_iff_eq_none, hmarked index worker hworker]
      exact lt_irrefl index
    refine { hsound with
      workers := ?_
      progress := ⟨harmed, ?_⟩
      retired := hsound.not_retired hnot }
    · intro other found hfound
      rw [Reload.put, List.getElem?_set] at hfound
      split at hfound
      case isTrue =>
        split at hfound
        · cases hfound
          exact (hworkers index worker hworker).mark hunmarked
        · cases hfound
      case isFalse => exact hworkers other found hfound
    · intro other found hfound
      rw [Reload.put, List.getElem?_set] at hfound
      split at hfound
      case isTrue heq =>
        split at hfound
        · cases hfound
          subst heq
          rw [OldWorker.mark]
          split
          · exact iff_of_true rfl (Nat.lt_succ_self _)
          · exact iff_of_true rfl (Nat.lt_succ_self _)
        · cases hfound
      case isFalse hne =>
        rw [hmarked other found hfound]
        omega
  case h_2 hnone =>
    cases hstep
    have hend : reload.workers.length ≤ index := List.getElem?_eq_none_iff.mp hnone
    have hserving : reload.pool.phase = .serving := by
      by_contra hother
      exact hsound.not_retired hnot (hsound.pool.woken hother)
    exact { hsound with
      workers := hworkers
      progress := by
        refine ⟨reload.clock, rfl, le_rfl, ?_, rfl, fun _ other _ _ hlt => absurd hlt
          (Nat.not_lt_zero other)⟩
        intro other worker hworker
        have hlt : other < reload.workers.length := (List.getElem?_eq_some_iff.mp hworker).1
        obtain ⟨began, hbegan⟩ := Option.isSome_iff_exists.mp
          ((hmarked other worker hworker).mpr (hlt.trans_le hend))
        exact ⟨began, hbegan, (hworkers other worker hworker).since began hbegan⟩
      retired := hsound.not_retired hnot
      pool :=
        { woken := hsound.pool.woken
          draining := fun _ _ _ hother => by cases hserving.symm.trans hother
          awaiting := fun _ _ _ hother => by cases hserving.symm.trans hother } }

omit [IsStrictOrderedRing Num] in
/-- The supervisor looks at the clock, and may give a worker up. -/
theorem Sound.checking (hsound : reload.Sound kind config) {index : ℕ} {deadline : Num}
    (hphase : reload.supervisor = .polling index deadline false)
    (hstep : reload.supervise kind config = some next) : next.Sound kind config := by
  have hprogress := hsound.progress
  have hworkers := hsound.workers
  rw [hphase] at hprogress hworkers
  obtain ⟨began, hbegan, hle, hmarked, rfl, hpassed⟩ := hprogress
  have hnot : reload.supervisor ≠ .done := by
    rw [hphase]
    exact fun hdone => by cases hdone
  rw [Reload.supervise, hphase] at hstep
  simp only at hstep
  split at hstep
  case isTrue =>
    split at hstep
    case isTrue =>
      cases hstep
      exact { hsound with
        workers := hworkers
        progress := ⟨began, hbegan, hle, hmarked, rfl, hpassed⟩
        retired := hsound.not_retired hnot }
    case isFalse hpast =>
      cases hstep
      exact { hsound with
        workers := hworkers
        progress := by
          refine ⟨began, hbegan, hle, hmarked, rfl, ?_⟩
          intro hkind other worker hworker hlt
          rcases Nat.lt_succ_iff_lt_or_eq.mp hlt with hbefore | rfl
          · exact hpassed hkind other worker hworker hbefore
          · exact .inr (not_lt.mp hpast)
        retired := hsound.not_retired hnot }
  case isFalse hend =>
    cases hstep
    exact { hsound with
      workers := fun other worker hworker => (hworkers other worker hworker).unwaited
      progress := by
        refine ⟨began, hbegan, hle, hmarked, ?_⟩
        intro hkind other worker hworker hlt
        exact hpassed hkind other worker hworker (hlt.trans_le (not_lt.mp hend))
      retired := hsound.not_retired hnot }

omit [IsStrictOrderedRing Num] in
/-- The supervisor looks at a worker, and takes it for idle only if it is. -/
theorem Sound.looking (hsound : reload.Sound kind config) {index : ℕ} {deadline : Num}
    (hphase : reload.supervisor = .polling index deadline true)
    (hstep : reload.supervise kind config = some next) : next.Sound kind config := by
  have hprogress := hsound.progress
  have hworkers := hsound.workers
  rw [hphase] at hprogress hworkers
  have hnot : reload.supervisor ≠ .done := by
    rw [hphase]
    exact fun hdone => by cases hdone
  rw [Reload.supervise, hphase] at hstep
  simp only at hstep
  split at hstep
  case h_1 => cases hstep
  case h_2 worker hworker =>
    obtain ⟨hlooked, hlater, hidle⟩ := (hworkers index worker hworker).look
    have hput : (reload.put index (worker.look kind).2).Sound kind config := by
      apply hsound.put hworker _ hlater
      rw [hphase]
      exact hlooked
    have hafter := hput.progress
    have hkept := hput.workers
    rw [show (reload.put index (worker.look kind).2).supervisor = _ from hphase] at hafter hkept
    split at hstep
    case isFalse =>
      cases hstep
      exact { hput with
        workers := hkept
        progress := hafter
        retired := hsound.not_retired hnot }
    case isTrue hfound =>
      cases hstep
      obtain ⟨hnone, hsettled⟩ := hidle hfound
      obtain ⟨began, hbegan, hle, hmarked, hdeadline, hpassed⟩ := hafter
      exact { hput with
        idles := by
          intro connections hmem
          rcases List.mem_append.mp hmem with hold | hnew
          · exact hsound.idles connections hold
          · rw [List.mem_singleton.mp hnew]
            exact hnone
        workers := hkept
        progress := by
          refine ⟨began, hbegan, hle, hmarked, hdeadline, ?_⟩
          intro hkind other changed hchanged hlt
          rcases Nat.lt_succ_iff_lt_or_eq.mp hlt with hbefore | rfl
          · exact hpassed hkind other changed hchanged hbefore
          · have hsame : changed = (worker.look kind).2 := by
              have hindex : other < reload.workers.length :=
                (List.getElem?_eq_some_iff.mp hworker).1
              rw [show (reload.put other (worker.look kind).2).workers =
                reload.workers.set other (worker.look kind).2 from rfl,
                List.getElem?_set_self hindex] at hchanged
              exact (Option.some.inj hchanged).symm
            rw [hsame]
            exact .inl (hlater.settled hkind (hsettled hkind))
        retired := hsound.not_retired hnot }

/-- The supervisor lets the workers go. -/
theorem Sound.dismissing (hsound : reload.Sound kind config) (hphase : reload.supervisor = .polled)
    (hstep : reload.supervise kind config = some next) : next.Sound kind config := by
  have hprogress := hsound.progress
  have hworkers := hsound.workers
  rw [hphase] at hprogress hworkers
  obtain ⟨began, hbegan, hle, hmarked, hpassed⟩ := hprogress
  have hnot : reload.supervisor ≠ .done := by
    rw [hphase]
    exact fun hdone => by cases hdone
  rw [Reload.supervise, hphase] at hstep
  cases hstep
  exact { hsound with
    workers := by
      intro index found hfound
      obtain ⟨worker, hworker, rfl⟩ := Option.map_eq_some_iff.mp
        ((List.getElem?_map ..).symm.trans hfound)
      obtain ⟨first, hfirst, hbefore⟩ := hmarked index worker hworker
      apply (hworkers index worker hworker).dismiss _ ⟨first, hfirst⟩
      intro hkind
      have hindex : index < reload.workers.length := (List.getElem?_eq_some_iff.mp hworker).1
      refine (hpassed hkind index worker hworker hindex).imp_right fun hpast => ?_
      intro other hother
      cases hfirst.symm.trans hother
      linarith
    progress := ⟨began, hbegan, hle, add_le_add_left hle _⟩
    retired := hsound.not_retired hnot }

omit [IsStrictOrderedRing Num] in
/-- The workers are joined, or have had their time. -/
theorem Sound.joining (hsound : reload.Sound kind config) {deadline : Num}
    (hphase : reload.supervisor = .joining deadline)
    (hstep : reload.supervise kind config = some next) : next.Sound kind config := by
  have hprogress := hsound.progress
  have hworkers := hsound.workers
  rw [hphase] at hprogress hworkers
  obtain ⟨began, hbegan, hle, hcounted⟩ := hprogress
  have hnot : reload.supervisor ≠ .done := by
    rw [hphase]
    exact fun hdone => by cases hdone
  rw [Reload.supervise, hphase] at hstep
  obtain ⟨hended, rfl⟩ := Machine.of_guard hstep
  exact { hsound with
    workers := hworkers
    progress := by
      refine ⟨began, hbegan, hle, hended.imp ?_ hcounted.trans⟩
      intro hstopped index worker hworker
      exact hstopped worker (List.mem_of_getElem? hworker)
    retired := hsound.not_retired hnot }

omit [IsStrictOrderedRing Num] in
/-- The pool is retired. -/
theorem Sound.retiring (hsound : reload.Sound kind config) (hphase : reload.supervisor = .joined)
    (hstep : reload.supervise kind config = some next) : next.Sound kind config := by
  have hprogress := hsound.progress
  have hworkers := hsound.workers
  rw [hphase] at hprogress hworkers
  rw [Reload.supervise, hphase] at hstep
  cases hstep
  exact { hsound with
    workers := hworkers
    progress := hprogress
    retired := fun _ => rfl
    pool := ⟨fun _ => rfl, hsound.pool.draining, hsound.pool.awaiting⟩ }

/-- Every step of the supervisor keeps what is promised. -/
theorem Sound.supervise (hsound : reload.Sound kind config)
    (hstep : reload.supervise kind config = some next) : next.Sound kind config := by
  cases hphase : reload.supervisor with
  | marking index => exact hsound.marking hphase hstep
  | polling index deadline checked =>
      cases checked with
      | false => exact hsound.checking hphase hstep
      | true => exact hsound.looking hphase hstep
  | polled => exact hsound.dismissing hphase hstep
  | joining deadline => exact hsound.joining hphase hstep
  | joined => exact hsound.retiring hphase hstep
  | done =>
      rw [Reload.supervise, hphase] at hstep
      cases hstep

/-- Every step that goes well keeps what is promised. -/
theorem Sound.step (hbound : config.reloadTimeout ≤ config.patience kind)
    (hsound : reload.Sound kind config) {action : ReloadAction Num}
    (hsmooth : reload.Smooth action) (hstep : reload.step kind config action = some next) :
    next.Sound kind config := by
  cases action with
  | tick elapsed =>
      obtain ⟨helapsed, rfl⟩ := Machine.of_guard hstep
      exact hsound.tick helapsed
  | worker index action =>
      rw [Reload.step] at hstep
      split at hstep
      case h_1 => cases hstep
      case h_2 worker hworker =>
        obtain ⟨⟨changed, aborted⟩, hact, rfl⟩ := Option.map_eq_some_iff.mp hstep
        obtain ⟨hfails, hquits⟩ := hsmooth worker hworker
        have hstepped := (hsound.workers index worker hworker).act hbound hfails hquits hact
        exact (hsound.put hworker hstepped.sound hstepped.later).note hstepped.timely
  | handOff index =>
      rw [Reload.step] at hstep
      split at hstep
      case h_1 => cases hstep
      case h_2 worker hworker =>
        obtain ⟨⟨hsync, halive, -⟩, rfl⟩ := Machine.of_guard hstep
        exact hsound.handOff hbound hworker hsync halive
  | pool action =>
      obtain ⟨outcome, hact, rfl⟩ := Option.map_eq_some_iff.mp hstep
      exact hsound.act hbound hact
  | supervise => exact hsound.supervise hstep

omit [IsStrictOrderedRing Num] in
/-- When the new generation is up, nothing was promised yet. -/
theorem Sound.init (hinit : (reloadMachine kind config).init reload) :
    reload.Sound kind config := by
  obtain ⟨hretired, hpool, hsupervisor, harmed, haborts, hidles, hworkers⟩ := hinit
  constructor
  case toPatient =>
    refine ⟨?_, ?_⟩
    · rw [haborts]
      exact fun _ hmem => absurd hmem List.not_mem_nil
    · rw [hidles]
      exact fun _ hmem => absurd hmem List.not_mem_nil
  case workers =>
    intro index worker hworker
    obtain ⟨hphase, htold, hqueue, hbridge, -, hmarked, hdirect⟩ :=
      hworkers worker (List.mem_of_getElem? hworker)
    exact OldWorker.Sound.fresh hphase htold hqueue hbridge hmarked fun hsync => (hdirect hsync).1
  case progress =>
    rw [hsupervisor]
    refine ⟨harmed, ?_⟩
    intro index worker hworker
    rw [(hworkers worker (List.mem_of_getElem? hworker)).2.2.2.2.2.1]
    exact iff_of_false Bool.false_ne_true (Nat.not_lt_zero index)
  case retired => exact fun hnot => absurd (hretired.symm.trans hnot) Bool.false_ne_true
  case pool =>
    exact ⟨fun hnot => absurd hpool hnot, fun _ _ _ hnot => (by cases hpool.symm.trans hnot),
      fun _ _ _ hnot => (by cases hpool.symm.trans hnot)⟩

end Reload

/-! ## What a reload promises -/

/-- A worker with a request in flight that does not end, and a connection on its way. -/
def stuckReload : Reload ℤ where
  clock := 0
  workers := [{ arriving := 1, inFlight := 1 }]

/-- `reload_timeout` is half as long again as `shutdown_timeout`. -/
def lenientConfig : ReloadConfig ℤ where
  shutdownTimeout := tenSeconds.shutdownTimeout
  reloadTimeout := 15
  shutdownTimeout_pos := tenSeconds.shutdownTimeout_pos

/-- The connection is attached while the bridge pauses, and told that the worker is draining. The
supervisor waits in vain for the request and lets the worker shut down, and the request is aborted
ten seconds after that. -/
def lenientActions : List (ReloadAction ℤ) :=
  [.supervise, .worker 0 (.bridge .poll), .worker 0 .attach, .worker 0 (.bridge .resume),
    .worker 0 .begin, .worker 0 (.bridge .detach), .worker 0 (.bridge .resume), .supervise, .supervise, .supervise, .tick 15, .supervise,
    .supervise, .supervise, .worker 0 (.bridge .poll), .worker 0 (.bridge (.hookEnds .caught)),
    .worker 0 (.bridge .resume), .worker 0 .wake, .tick 10, .worker 0 .timeOut]

/-- The timeouts as they are by default. -/
def defaultTimeouts : ReloadConfig ℤ where
  shutdownTimeout := tenSeconds.shutdownTimeout
  reloadTimeout := 30
  shutdownTimeout_pos := tenSeconds.shutdownTimeout_pos

end ReloadDrain

end Pounce
