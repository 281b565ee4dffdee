/-
# Waiting for a turn

The streams of a connection share a scheduler. A task that has something to send waits in
`await_turn` until its stream is at the head, on an event the scheduler keeps for the
stream; whoever changes the ready set wakes the stream that is at the head then. `Turns`
is the scheduler with these events and the tasks that wait, and one step is one call, or
one resumption of a waiting task, since nothing else is awaited.

`Scheduling` collects what the scheduler promises: where the scheduled streams are, which
of them is next, that none waits in vain at the head, and that the incremental streams of
an urgency take turns. A stream that is given a priority again loses its place in the
queue, even to the priority it has, and may then be passed over once more. So the turns are
fair to a stream as long as it is left alone.
-/

import Pounce.Math.Dict
import Pounce.Math.Transition
import Pounce.Priority.Order

namespace Pounce

open Pounce.Math

/-! ## State -/

/-- Where a task is in `await_turn`. -/
inductive TurnPhase where
  | outside
  /-- It waits for an event on behalf of a stream. The event has been set since, or has not. -/
  | waiting (streamId event : ℕ) (woken : Bool)
  deriving DecidableEq, Repr

/-- A task that waits for the event is woken. -/
def TurnPhase.notify (event : ℕ) : TurnPhase → TurnPhase
  | .outside => .outside
  | .waiting streamId own woken => .waiting streamId own (woken || own = event)

/-- The scheduler, its events and the tasks that wait for them. -/
structure Turns where
  scheduler : PriorityScheduler := {}
  /-- `_turn`: the event of a stream, by its number. -/
  turn : Dict ℕ ℕ := {}
  isSet : ℕ → Bool := fun _ => false
  /-- How many events there have been. -/
  made : ℕ := 0
  task : ℕ → TurnPhase := fun _ => .outside

/-- What is done with a scheduler. -/
inductive TurnAction where
  | setPriority (streamId : ℕ) (priority : StreamPriority)
  | schedule (streamId : ℕ)
  | unschedule (streamId : ℕ)
  | markWrote (streamId : ℕ)
  | removeStream (streamId : ℕ)
  | awaitTurn (task streamId : ℕ)
  /-- A task that has been woken goes on. -/
  | resume (task : ℕ)
  | cancel (task : ℕ)
  deriving DecidableEq, Repr

namespace Turns

variable (turns : Turns)

/-- `next_stream`, and `_peek_locked`. -/
def nextStream : Option ℕ := turns.scheduler.peekLocked

/-- Set an event, and wake all who wait for it. -/
def setEvent (event : ℕ) : Turns :=
  { turns with
    isSet := Function.update turns.isSet event true
    task := fun task => (turns.task task).notify event }

/-- `_wake_current`. -/
def wakeCurrent : Turns :=
  match turns.nextStream with
  | none => turns
  | some picked =>
      match turns.turn.get picked with
      | none => turns
      | some event => turns.setEvent event

/-- The scheduler changes, and whoever is at the head then is woken. -/
def changed (scheduler : PriorityScheduler) : Turns :=
  ({ turns with scheduler } : Turns).wakeCurrent

/-- `set_priority`. -/
def setPriority (streamId : ℕ) (priority : StreamPriority) : Turns :=
  turns.changed (turns.scheduler.setPriority streamId priority)

/-- `schedule`. -/
def schedule (streamId : ℕ) : Turns := turns.changed (turns.scheduler.schedule streamId)

/-- `unschedule`. -/
def unschedule (streamId : ℕ) : Turns := turns.changed (turns.scheduler.unschedule streamId)

/-- `mark_wrote`. Without a rotation nobody is woken. -/
def markWrote (streamId : ℕ) : Turns :=
  match turns.scheduler.markWrote streamId with
  | none => turns
  | some rotated => turns.changed rotated

/-- `remove_stream`. Who waits for the stream is woken last. -/
def removeStream (streamId : ℕ) : Turns :=
  let removed := ({ turns with turn := turns.turn.pop streamId } : Turns).changed
    (turns.scheduler.removeStream streamId)
  match turns.turn.get streamId with
  | none => removed
  | some event => removed.setEvent event

/-- A task goes on to a phase. -/
def goOn (task : ℕ) (phase : TurnPhase) : Turns :=
  { turns with task := Function.update turns.task task phase }

/-- One turn of the loop of `await_turn`: return, or clear the event and wait for it. -/
def checkTurn (task streamId : ℕ) : Turns :=
  if turns.scheduler.turnGranted streamId then turns.goOn task .outside
  else match turns.turn.get streamId with
    | some event =>
        { turns.goOn task (.waiting streamId event false) with
          isSet := Function.update turns.isSet event false }
    | none =>
        { turns.goOn task (.waiting streamId turns.made false) with
          turn := turns.turn.set streamId turns.made
          isSet := Function.update turns.isSet turns.made false
          made := turns.made + 1 }

/-- One step. -/
def step : TurnAction → Option Turns
  | .setPriority streamId priority => some (turns.setPriority streamId priority)
  | .schedule streamId => some (turns.schedule streamId)
  | .unschedule streamId => some (turns.unschedule streamId)
  | .markWrote streamId => some (turns.markWrote streamId)
  | .removeStream streamId => some (turns.removeStream streamId)
  | .awaitTurn task streamId =>
      match turns.task task with
      | .outside => some (turns.checkTurn task streamId)
      | .waiting .. => none
  | .resume task =>
      match turns.task task with
      | .waiting streamId _ true => some (turns.checkTurn task streamId)
      | _ => none
  | .cancel task =>
      match turns.task task with
      | .waiting .. => some (turns.goOn task .outside)
      | .outside => none

end Turns

/-- A new scheduler and the calls made to it. -/
def turnMachine : Machine Turns TurnAction where
  init turns := turns = {}
  step := Turns.step

/-- The same with a record of the calls. -/
def callMachine : Machine (Machine.Recorded Turns TurnAction) TurnAction :=
  turnMachine.recording fun _ action => some action

/-! ## What is promised -/

/-- What a call does to whether the stream is scheduled. -/
def scheduledAfter (streamId : ℕ) (scheduled : Bool) : TurnAction → Bool
  | .schedule called => called = streamId || scheduled
  | .unschedule called => called ≠ streamId && scheduled
  | .removeStream called => called ≠ streamId && scheduled
  | _ => scheduled

/-- The stream has been scheduled, and neither unscheduled nor removed since. -/
def scheduledBy (history : List TurnAction) (streamId : ℕ) : Bool :=
  history.foldl (scheduledAfter streamId) false

/-- The call is the turn of a stream of the priority: it wrote, and goes to the end of its
queue. -/
def Turns.Serves (turns : Turns) (priority : StreamPriority) (streamId : ℕ)
    (action : TurnAction) : Prop :=
  action = .markWrote streamId ∧ (turns.scheduler.readyQueue priority).head? = some streamId

instance (turns : Turns) (priority : StreamPriority) (streamId : ℕ) (action : TurnAction) :
    Decidable (turns.Serves priority streamId action) := inferInstanceAs (Decidable (_ ∧ _))

/-- How many turns a stream of the priority has in the course of some calls. -/
def Turns.served (priority : StreamPriority) (streamId : ℕ) (turns : Turns) : List TurnAction → ℕ
  | [] => 0
  | action :: actions =>
      (if turns.Serves priority streamId action then 1 else 0) +
        ((turns.step action).map (Turns.served priority streamId · actions)).getD 0

/-- The stream stays in the queue of the priority, it does not have its turn, and nothing disturbs
it. -/
def Turns.PassedOver (disturbs : ℕ → TurnAction → Prop) (priority : StreamPriority) (streamId : ℕ)
    (turns : Turns) (action : TurnAction) : Prop :=
  streamId ∈ turns.scheduler.readyQueue priority ∧ ¬ turns.Serves priority streamId action ∧
    ¬ disturbs streamId action

/-- What the scheduler promises after some calls. Turns are fair to the streams that nothing
disturbs. -/
structure Scheduling (disturbs : ℕ → TurnAction → Prop)
    (recorded : Machine.Recorded Turns TurnAction) : Prop where
  /-- A scheduled stream is in the queue of its priority, once, and in no other. -/
  placed : ∀ streamId, scheduledBy recorded.history streamId = true → ∀ priority,
    (recorded.state.scheduler.readyQueue priority).count streamId =
      if priority = recorded.state.scheduler.priorityOf streamId then 1 else 0
  /-- The next stream is the scheduled one that precedes all others. -/
  least : ∀ streamId, recorded.state.nextStream = some streamId ↔
    scheduledBy recorded.history streamId = true ∧
      ∀ other, scheduledBy recorded.history other = true → other ≠ streamId →
        recorded.state.scheduler.Precedes streamId other
  idle : recorded.state.nextStream = none ↔
    ∀ streamId, scheduledBy recorded.history streamId = false
  idempotent : ∀ streamId, (recorded.state.schedule streamId).schedule streamId =
    recorded.state.schedule streamId
  /-- While an incremental stream is passed over, no other one has two turns. -/
  fair : ∀ priority streamId other actions final, priority.incremental = true →
    turnMachine.run recorded.state actions = some final →
    turnMachine.Along (Turns.PassedOver disturbs priority streamId) recorded.state actions →
    recorded.state.served priority other actions ≤ 1
  /-- Who waits for the stream at the head has been woken. -/
  awake : ∀ task streamId event woken, recorded.state.task task = .waiting streamId event woken →
    recorded.state.nextStream = some streamId →
    recorded.state.isSet event = true ∧ woken = true

/-! ## The ready set -/

namespace Turns

variable {turns next : Turns} {streamId event : ℕ} {action : TurnAction}

@[simp]
theorem scheduler_setEvent : (turns.setEvent event).scheduler = turns.scheduler := rfl

@[simp]
theorem scheduler_wakeCurrent : turns.wakeCurrent.scheduler = turns.scheduler := by
  rw [wakeCurrent]
  split
  · rfl
  · split <;> rfl

@[simp]
theorem scheduler_changed (scheduler : PriorityScheduler) :
    (turns.changed scheduler).scheduler = scheduler := scheduler_wakeCurrent

@[simp]
theorem scheduler_removeStream :
    (turns.removeStream streamId).scheduler = turns.scheduler.removeStream streamId := by
  rw [removeStream]
  split
  · exact scheduler_changed _
  · exact scheduler_changed _

@[simp]
theorem scheduler_checkTurn {task : ℕ} : (turns.checkTurn task streamId).scheduler = turns.scheduler := by
  rw [checkTurn]
  split
  · rfl
  · split <;> rfl

/-- What a step does to the scheduler. -/
theorem scheduler_step (hstep : turns.step action = some next) :
    next.scheduler =
      match action with
      | .setPriority streamId priority => turns.scheduler.setPriority streamId priority
      | .schedule streamId => turns.scheduler.schedule streamId
      | .unschedule streamId => turns.scheduler.unschedule streamId
      | .markWrote streamId => (turns.scheduler.markWrote streamId).getD turns.scheduler
      | .removeStream streamId => turns.scheduler.removeStream streamId
      | _ => turns.scheduler := by
  rw [step.eq_def] at hstep
  cases action with
  | setPriority | schedule | unschedule =>
      obtain rfl := Option.some.inj hstep
      exact scheduler_changed _
  | removeStream =>
      obtain rfl := Option.some.inj hstep
      exact scheduler_removeStream
  | markWrote streamId =>
      obtain rfl := Option.some.inj hstep
      show (turns.markWrote streamId).scheduler = (turns.scheduler.markWrote streamId).getD _
      rw [Turns.markWrote]
      split
      case h_1 hnone => rw [hnone, Option.getD_none]
      case h_2 rotated hrotated => rw [hrotated, Option.getD_some, scheduler_changed]
  | awaitTurn task streamId =>
      dsimp only at hstep
      split at hstep
      · obtain rfl := Option.some.inj hstep
        exact scheduler_checkTurn
      · cases hstep
  | resume task =>
      dsimp only at hstep
      split at hstep
      · obtain rfl := Option.some.inj hstep
        exact scheduler_checkTurn
      · cases hstep
  | cancel task =>
      dsimp only at hstep
      split at hstep
      · obtain rfl := Option.some.inj hstep
        rfl
      · cases hstep

/-- Good order is kept. -/
theorem filed_step (hfiled : turns.scheduler.Filed) (hstep : turns.step action = some next) :
    next.scheduler.Filed := by
  rw [scheduler_step hstep]
  cases action with
  | setPriority streamId priority => exact hfiled.setPriority streamId priority
  | schedule streamId => exact hfiled.schedule streamId
  | unschedule streamId => exact hfiled.unschedule streamId
  | removeStream streamId => exact hfiled.removeStream streamId
  | markWrote streamId =>
      dsimp only
      cases hmark : turns.scheduler.markWrote streamId with
      | none => exact hfiled
      | some rotated => exact hfiled.markWrote hmark
  | awaitTurn | resume | cancel => exact hfiled

/-- The scheduled streams are the ready ones. -/
theorem ready_step (hfiled : turns.scheduler.Filed) (hstep : turns.step action = some next)
    {scheduled : Bool} (hscheduled : scheduled = true ↔ turns.scheduler.Ready streamId) :
    scheduledAfter streamId scheduled action = true ↔ next.scheduler.Ready streamId := by
  rw [scheduler_step hstep]
  cases action with
  | setPriority called priority => exact hscheduled.trans hfiled.ready_setPriority.symm
  | schedule called =>
      simp only [scheduledAfter, Bool.or_eq_true, decide_eq_true_eq, hscheduled]
      rw [PriorityScheduler.ready_schedule, eq_comm]
  | unschedule called =>
      simp only [scheduledAfter, Bool.and_eq_true, decide_eq_true_eq, hscheduled]
      rw [hfiled.ready_unschedule, ne_comm]
  | removeStream called =>
      simp only [scheduledAfter, Bool.and_eq_true, decide_eq_true_eq, hscheduled]
      rw [hfiled.ready_removeStream, ne_comm]
  | markWrote called =>
      dsimp only
      cases hmark : turns.scheduler.markWrote called with
      | none => exact hscheduled
      | some rotated => exact hscheduled.trans (PriorityScheduler.ready_markWrote hmark).symm
  | awaitTurn | resume | cancel => exact hscheduled

/-- To set an event twice is to set it once. -/
theorem setEvent_setEvent : (turns.setEvent event).setEvent event = turns.setEvent event := by
  have htask : ∀ task, ((turns.task task).notify event).notify event =
      (turns.task task).notify event := by
    intro task
    cases turns.task task with
    | outside => rfl
    | waiting streamId own woken => simp [TurnPhase.notify]
  simp only [setEvent, Function.update_idem, htask]

/-- To wake the head twice is to wake it once. -/
theorem wakeCurrent_wakeCurrent : turns.wakeCurrent.wakeCurrent = turns.wakeCurrent := by
  rw [wakeCurrent.eq_def turns]
  cases hnext : turns.nextStream with
  | none =>
      dsimp only
      rw [wakeCurrent, hnext]
  | some picked =>
      dsimp only
      cases hevent : turns.turn.get picked with
      | none =>
          dsimp only
          rw [wakeCurrent, hnext]
          dsimp only
          rw [hevent]
      | some event =>
          dsimp only
          have hsame : (turns.setEvent event).nextStream = some picked := hnext
          have hturn : (turns.setEvent event).turn.get picked = some event := hevent
          rw [wakeCurrent, hsame]
          dsimp only
          rw [hturn]
          exact setEvent_setEvent

/-- To schedule a stream twice is to schedule it once. -/
theorem schedule_schedule :
    (turns.schedule streamId).schedule streamId = turns.schedule streamId := by
  have htwice : (turns.scheduler.schedule streamId).schedule streamId =
      turns.scheduler.schedule streamId :=
    PriorityScheduler.schedule_schedule
  rw [schedule, schedule, scheduler_changed, htwice]
  have hsame : ({ turns.changed (turns.scheduler.schedule streamId) with
      scheduler := turns.scheduler.schedule streamId } : Turns) =
      turns.changed (turns.scheduler.schedule streamId) := by
    generalize hchanged : turns.changed (turns.scheduler.schedule streamId) = changed
    have hscheduler := congrArg Turns.scheduler hchanged
    rw [scheduler_changed] at hscheduler
    rw [hscheduler]
  rw [changed.eq_def (turns.changed _), hsame, changed]
  exact wakeCurrent_wakeCurrent

/-! ## Events -/

/-- The events that streams have are different. Who waits for one waits for that of its stream,
or for one that has been set and no stream has any more, and has been woken if it is set. -/
structure Sound (turns : Turns) : Prop where
  made : ∀ streamId event, turns.turn.get streamId = some event → event < turns.made
  own : ∀ first second event, turns.turn.get first = some event →
    turns.turn.get second = some event → first = second
  held : ∀ task streamId event woken, turns.task task = .waiting streamId event woken →
    event < turns.made ∧ (turns.turn.get streamId = some event ∨
      turns.isSet event = true ∧ ∀ other, turns.turn.get other ≠ some event)
  asleep : ∀ task streamId event, turns.task task = .waiting streamId event false →
    turns.isSet event = false

/-- The event of the stream at the head is set. -/
def Lit (turns : Turns) : Prop :=
  ∀ streamId event, turns.nextStream = some streamId → turns.turn.get streamId = some event →
    turns.isSet event = true

/-- A task that is waiting after an event has been set was waiting before. -/
theorem waiting_of_notify {phase : TurnPhase} {own : ℕ} {woken : Bool}
    (hphase : phase.notify event = .waiting streamId own woken) :
    ∃ before, phase = .waiting streamId own before ∧ woken = (before || own = event) := by
  cases phase with
  | outside => cases hphase
  | waiting other found before =>
      cases hphase
      exact ⟨before, rfl, rfl⟩

/-- Setting an event is sound, also for those who wait for it without having it. -/
theorem sound_setEvent
    (hmade : ∀ streamId event, turns.turn.get streamId = some event → event < turns.made)
    (hown : ∀ first second event, turns.turn.get first = some event →
      turns.turn.get second = some event → first = second)
    (hheld : ∀ task streamId own woken, turns.task task = .waiting streamId own woken →
      own < turns.made ∧ (turns.turn.get streamId = some own ∨
        (turns.isSet own = true ∨ own = event) ∧ ∀ other, turns.turn.get other ≠ some own))
    (hasleep : ∀ task streamId event, turns.task task = .waiting streamId event false →
      turns.isSet event = false) : (turns.setEvent event).Sound := by
  constructor
  case made => exact hmade
  case own => exact hown
  case held =>
    intro task streamId own woken hphase
    obtain ⟨before, htask, -⟩ := waiting_of_notify hphase
    obtain ⟨hless, hturn⟩ := hheld task streamId own before htask
    refine ⟨hless, hturn.imp_right fun hgone => ⟨?_, hgone.2⟩⟩
    show Function.update turns.isSet event true own = true
    by_cases hevent : own = event
    case pos => rw [hevent, Function.update_self]
    case neg =>
      rw [Function.update_of_ne hevent]
      exact hgone.1.resolve_right hevent
  case asleep =>
    intro task streamId own hphase
    obtain ⟨before, htask, hwoken⟩ := waiting_of_notify hphase
    rw [eq_comm, Bool.or_eq_false_iff, decide_eq_false_iff_not] at hwoken
    obtain ⟨rfl, hevent⟩ := hwoken
    show Function.update turns.isSet event true own = false
    rw [Function.update_of_ne hevent]
    exact hasleep task streamId own htask

theorem Sound.setEvent (hsound : turns.Sound) (event : ℕ) : (turns.setEvent event).Sound :=
  sound_setEvent hsound.made hsound.own
    (fun task streamId own woken hphase => (hsound.held task streamId own woken hphase).imp_right
      fun hturn => hturn.imp_right fun hgone => ⟨.inl hgone.1, hgone.2⟩) hsound.asleep

/-- Waking the head is sound, and its event is set then. -/
theorem Sound.wakeCurrent (hsound : turns.Sound) : turns.wakeCurrent.Sound ∧ turns.wakeCurrent.Lit := by
  rw [Turns.wakeCurrent]
  cases hnext : turns.nextStream with
  | none =>
      refine ⟨hsound, fun streamId event hhead => ?_⟩
      rw [hnext] at hhead
      cases hhead
  | some picked =>
      dsimp only
      cases hturn : turns.turn.get picked with
      | none =>
          refine ⟨hsound, fun streamId event hhead hevent => ?_⟩
          obtain rfl := Option.some.inj (hnext.symm.trans hhead)
          rw [hturn] at hevent
          cases hevent
      | some event =>
          refine ⟨hsound.setEvent event, fun streamId own hhead hown => ?_⟩
          have hhead : turns.nextStream = some streamId := hhead
          have hown : turns.turn.get streamId = some own := hown
          obtain rfl := Option.some.inj (hnext.symm.trans hhead)
          obtain rfl := Option.some.inj (hturn.symm.trans hown)
          exact Function.update_self ..

theorem Sound.changed (hsound : turns.Sound) (scheduler : PriorityScheduler) :
    (turns.changed scheduler).Sound ∧ (turns.changed scheduler).Lit := by
  have hsame : ({ turns with scheduler } : Turns).Sound :=
    ⟨hsound.made, hsound.own, hsound.held, hsound.asleep⟩
  exact hsame.wakeCurrent

/-- It does not matter whether an event is set before or after the head is woken. -/
theorem setEvent_comm (first second : ℕ) :
    (turns.setEvent first).setEvent second = (turns.setEvent second).setEvent first := by
  have htask : ∀ task, ((turns.task task).notify first).notify second =
      ((turns.task task).notify second).notify first := by
    intro task
    cases turns.task task with
    | outside => rfl
    | waiting streamId own woken =>
        simp only [TurnPhase.notify]
        rw [Bool.or_right_comm]
  have hset : Function.update (Function.update turns.isSet first true) second true =
      Function.update (Function.update turns.isSet second true) first true := by
    by_cases hsame : first = second
    case pos => rw [hsame]
    case neg => exact Function.update_comm hsame ..
  simp only [Turns.setEvent, htask, hset]

theorem setEvent_wakeCurrent : turns.wakeCurrent.setEvent event = (turns.setEvent event).wakeCurrent := by
  have hnext : (turns.setEvent event).nextStream = turns.nextStream := rfl
  have hturn : (turns.setEvent event).turn = turns.turn := rfl
  rw [Turns.wakeCurrent.eq_def turns, Turns.wakeCurrent.eq_def (turns.setEvent event), hnext, hturn]
  cases turns.nextStream with
  | none => rfl
  | some picked =>
      dsimp only
      cases turns.turn.get picked with
      | none => rfl
      | some own => exact setEvent_comm own event

/-- A stream that is removed leaves nobody waiting. -/
theorem Sound.removeStream (hsound : turns.Sound) (streamId : ℕ) :
    (turns.removeStream streamId).Sound ∧ (turns.removeStream streamId).Lit := by
  have hmade : ∀ other event, (turns.turn.pop streamId).get other = some event →
      event < turns.made := by
    intro other event hevent
    exact hsound.made other event (Dict.get_pop_eq_some.mp hevent).2
  have hown : ∀ first second event, (turns.turn.pop streamId).get first = some event →
      (turns.turn.pop streamId).get second = some event → first = second := by
    intro first second event hfirst hsecond
    exact hsound.own first second event (Dict.get_pop_eq_some.mp hfirst).2
      (Dict.get_pop_eq_some.mp hsecond).2
  have hgone : ∀ {event : ℕ}, (∀ other, turns.turn.get other ≠ some event) →
      ∀ other, (turns.turn.pop streamId).get other ≠ some event :=
    fun hnone other hevent => hnone other (Dict.get_pop_eq_some.mp hevent).2
  rw [Turns.removeStream]
  cases hturn : turns.turn.get streamId with
  | none =>
      apply Sound.wakeCurrent
      refine ⟨hmade, hown, ?_, hsound.asleep⟩
      intro task other event woken hphase
      obtain ⟨hless, hheld⟩ := hsound.held task other event woken hphase
      refine ⟨hless, ?_⟩
      rcases hheld with hheld | ⟨hset, hnone⟩
      · refine .inl (Dict.get_pop_eq_some.mpr ⟨?_, hheld⟩)
        rintro rfl
        rw [hturn] at hheld
        cases hheld
      · exact .inr ⟨hset, hgone hnone⟩
  | some event =>
      dsimp only
      rw [Turns.changed, setEvent_wakeCurrent]
      apply Sound.wakeCurrent
      apply sound_setEvent
      · exact hmade
      · exact hown
      · intro task other own woken hphase
        obtain ⟨hless, hheld⟩ := hsound.held task other own woken hphase
        refine ⟨hless, ?_⟩
        rcases hheld with hheld | ⟨hset, hnone⟩
        · by_cases hother : other = streamId
          case neg => exact .inl (Dict.get_pop_eq_some.mpr ⟨hother, hheld⟩)
          case pos =>
            subst hother
            obtain rfl := Option.some.inj (hturn.symm.trans hheld)
            refine .inr ⟨.inr rfl, fun found hfound => ?_⟩
            obtain ⟨hne, hfound⟩ := Dict.get_pop_eq_some.mp hfound
            exact hne (hsound.own found other event hfound hturn)
        · exact .inr ⟨.inl hset, hgone hnone⟩
      · exact hsound.asleep

/-- A task that leaves disturbs nobody. -/
theorem Sound.leave (hsound : turns.Sound) (hlit : turns.Lit) (task : ℕ) :
    (turns.goOn task .outside).Sound ∧ (turns.goOn task .outside).Lit := by
  have hothers : ∀ other streamId event woken,
      (turns.goOn task .outside).task other = .waiting streamId event woken →
        turns.task other = .waiting streamId event woken := by
    intro other streamId event woken hphase
    have hphase : Function.update turns.task task .outside other = _ := hphase
    by_cases hother : other = task
    case pos =>
      rw [hother, Function.update_self] at hphase
      cases hphase
    case neg => rwa [Function.update_of_ne hother] at hphase
  refine ⟨⟨hsound.made, hsound.own, ?_, ?_⟩, hlit⟩
  · exact fun other streamId event woken hphase =>
      hsound.held other streamId event woken (hothers other streamId event woken hphase)
  · exact fun other streamId event hphase =>
      hsound.asleep other streamId event (hothers other streamId event false hphase)

/-- A stream that is not granted its turn is not at the head. -/
theorem nextStream_ne (hgranted : ¬ turns.scheduler.turnGranted streamId = true) :
    turns.nextStream ≠ some streamId := by
  intro hnext
  apply hgranted
  rw [PriorityScheduler.turnGranted, Bool.or_eq_true, decide_eq_true_eq]
  exact .inr hnext

/-- Waiting clears no event but that of its own stream, which is not at the head. -/
theorem Sound.wait (hsound : turns.Sound) (hlit : turns.Lit) (task : ℕ) {turn : Dict ℕ ℕ} {made : ℕ}
    (hhead : turns.nextStream ≠ some streamId) (hturn : turn.get streamId = some event)
    (hothers : ∀ other, other ≠ streamId → turn.get other = turns.turn.get other)
    (hmade : turns.made ≤ made) (hevent : event < made)
    (hnew : turns.turn.get streamId = some event ∨
      turns.turn.get streamId = none ∧ event = turns.made) :
    ({ turns.goOn task (.waiting streamId event false) with
        turn, made, isSet := Function.update turns.isSet event false } : Turns).Sound ∧
      ({ turns.goOn task (.waiting streamId event false) with
        turn, made, isSet := Function.update turns.isSet event false } : Turns).Lit := by
  have hforeign : ∀ other, other ≠ streamId → turns.turn.get other ≠ some event := by
    intro other hother hhas
    rcases hnew with hhad | ⟨-, hfresh⟩
    · exact hother (hsound.own other streamId event hhas hhad)
    · exact absurd (hsound.made other event hhas) (by omega)
  have hold : ∀ other own, other ≠ task ∨ own ≠ event → ∀ found woken,
      (turns.goOn task (.waiting streamId event false)).task other = .waiting found own woken →
        turns.task other = .waiting found own woken := by
    intro other own hdiffers found woken hphase
    have hphase : Function.update turns.task task (.waiting streamId event false) other = _ := hphase
    by_cases hother : other = task
    case neg => rwa [Function.update_of_ne hother] at hphase
    case pos =>
      rw [hother, Function.update_self] at hphase
      cases hphase
      exact absurd rfl (hdiffers.resolve_left (not_not.mpr hother))
  refine ⟨⟨?_, ?_, ?_, ?_⟩, ?_⟩
  · intro other own hown
    by_cases hother : other = streamId
    case pos =>
      rw [hother, hturn] at hown
      exact Option.some.inj hown ▸ hevent
    case neg =>
      rw [hothers other hother] at hown
      exact lt_of_lt_of_le (hsound.made other own hown) hmade
  · have hsame : ∀ first second own, turn.get first = some own → turn.get second = some own →
        first = streamId → second = streamId := by
      rintro first second own hfirst hsecond rfl
      obtain rfl := Option.some.inj (hturn.symm.trans hfirst)
      by_contra hother
      rw [hothers second hother] at hsecond
      exact hforeign second hother hsecond
    intro first second own hfirst hsecond
    by_cases hstream : first = streamId
    case pos => exact hstream.trans (hsame first second own hfirst hsecond hstream).symm
    case neg =>
      have hother : second ≠ streamId :=
        fun heq => hstream (hsame second first own hsecond hfirst heq)
      rw [hothers first hstream] at hfirst
      rw [hothers second hother] at hsecond
      exact hsound.own first second own hfirst hsecond
  · intro other found own woken hphase
    by_cases hnow : other = task ∧ own = event
    case pos =>
      obtain ⟨rfl, rfl⟩ := hnow
      have hphase : Function.update turns.task other (.waiting streamId own false) other = _ := hphase
      rw [Function.update_self] at hphase
      cases hphase
      exact ⟨hevent, .inl hturn⟩
    case neg =>
      obtain ⟨hless, hheld⟩ := hsound.held other found own woken
        (hold other own (not_and_or.mp hnow) found woken hphase)
      refine ⟨lt_of_lt_of_le hless hmade, ?_⟩
      rcases hheld with hheld | ⟨hset, hnone⟩
      · by_cases hfound : found = streamId
        case neg => exact .inl ((hothers found hfound).trans hheld)
        case pos =>
          subst hfound
          rcases hnew with hhad | ⟨hnot, -⟩
          · exact .inl (hturn.trans (hhad.symm.trans hheld))
          · rw [hnot] at hheld
            cases hheld
      · have hne : own ≠ event := by
          rintro rfl
          rcases hnew with hhad | ⟨-, hfresh⟩
          · exact hnone streamId hhad
          · omega
        refine .inr ⟨(Function.update_of_ne hne ..).trans hset, fun third hthird => ?_⟩
        by_cases hstream : third = streamId
        case pos =>
          have hthird : turn.get third = some own := hthird
          rw [hstream, hturn] at hthird
          exact hne (Option.some.inj hthird).symm
        case neg => exact hnone third ((hothers third hstream).symm.trans hthird)
  · intro other found own hphase
    by_cases hown : own = event
    case pos =>
      rw [hown]
      exact Function.update_self ..
    case neg =>
      refine (Function.update_of_ne hown ..).trans ?_
      exact hsound.asleep other found own (hold other own (.inr hown) found false hphase)
  · intro found own hnext hown
    have hnext : turns.nextStream = some found := hnext
    have hfound : found ≠ streamId := by
      rintro rfl
      exact hhead hnext
    have hbefore : turns.turn.get found = some own := (hothers found hfound).symm.trans hown
    have hne : own ≠ event := by
      rintro rfl
      exact hforeign found hfound hbefore
    exact (Function.update_of_ne hne ..).trans (hlit found own hnext hbefore)

theorem Sound.checkTurn (hsound : turns.Sound) (hlit : turns.Lit) (task streamId : ℕ) :
    (turns.checkTurn task streamId).Sound ∧ (turns.checkTurn task streamId).Lit := by
  rw [Turns.checkTurn]
  split
  case isTrue => exact hsound.leave hlit task
  case isFalse hgranted =>
    have hhead := nextStream_ne hgranted
    cases hturn : turns.turn.get streamId with
    | some event =>
        exact hsound.wait hlit task hhead hturn (fun _ _ => rfl) le_rfl
          (hsound.made streamId event hturn) (.inl hturn)
    | none =>
        exact hsound.wait hlit task hhead Dict.get_set_self (fun _ hother => Dict.get_set_of_ne hother)
          (Nat.le_succ _) (Nat.lt_succ_self _) (.inr ⟨hturn, rfl⟩)

/-- Every step is sound, and leaves the event of the head set. -/
theorem Sound.step (hsound : turns.Sound) (hlit : turns.Lit) (hstep : turns.step action = some next) :
    next.Sound ∧ next.Lit := by
  rw [Turns.step.eq_def] at hstep
  cases action with
  | setPriority | schedule | unschedule =>
      obtain rfl := Option.some.inj hstep
      exact hsound.changed _
  | removeStream =>
      obtain rfl := Option.some.inj hstep
      exact hsound.removeStream _
  | markWrote streamId =>
      obtain rfl := Option.some.inj hstep
      rw [Turns.markWrote]
      split
      · exact ⟨hsound, hlit⟩
      · exact hsound.changed _
  | awaitTurn task streamId =>
      dsimp only at hstep
      split at hstep
      · obtain rfl := Option.some.inj hstep
        exact hsound.checkTurn hlit _ _
      · cases hstep
  | resume task =>
      dsimp only at hstep
      split at hstep
      · obtain rfl := Option.some.inj hstep
        exact hsound.checkTurn hlit _ _
      · cases hstep
  | cancel task =>
      dsimp only at hstep
      split at hstep
      · obtain rfl := Option.some.inj hstep
        exact hsound.leave hlit task
      · cases hstep

/-- Who waits for the stream at the head has been woken. -/
theorem Sound.awake (hsound : turns.Sound) (hlit : turns.Lit) {task : ℕ} {woken : Bool}
    (hphase : turns.task task = .waiting streamId event woken)
    (hnext : turns.nextStream = some streamId) : turns.isSet event = true ∧ woken = true := by
  have hset : turns.isSet event = true := by
    rcases (hsound.held task streamId event woken hphase).2 with hturn | ⟨hset, -⟩
    · exact hlit streamId event hnext hturn
    · exact hset
  refine ⟨hset, ?_⟩
  cases woken with
  | true => rfl
  | false =>
      rw [hsound.asleep task streamId event hphase] at hset
      cases hset

/-! ## Fairness -/

/-- The scheduler gives the stream a priority, even if it is the one it has. -/
def Reprioritized (streamId : ℕ) (action : TurnAction) : Prop :=
  ∃ priority, action = .setPriority streamId priority

/-- Who is ahead of another stays ahead, as long as it is passed over, and the other does not have
its turn. -/
theorem ahead_step (hfiled : turns.scheduler.Filed) {priority : StreamPriority} {other : ℕ}
    (hpassed : turns.PassedOver Reprioritized priority streamId action)
    (hstep : turns.step action = some next)
    (hahead : PriorityScheduler.Ahead streamId other (turns.scheduler.readyQueue priority)) :
    ¬ turns.Serves priority other action ∧
      (streamId ∈ next.scheduler.readyQueue priority →
        PriorityScheduler.Ahead streamId other (next.scheduler.readyQueue priority)) := by
  obtain ⟨hmem, hturn, hundisturbed⟩ := hpassed
  constructor
  · intro ⟨hcall, hhead⟩
    obtain ⟨before, after, hqueue, hother⟩ := hahead
    rw [hqueue] at hhead
    cases before with
    | nil =>
        obtain rfl : streamId = other := Option.some.inj hhead
        exact hturn ⟨hcall, by rw [hqueue]; rfl⟩
    | cons first before =>
        obtain rfl : first = other := Option.some.inj hhead
        exact hother (List.mem_cons_self ..)
  · have herased : ∀ gone, streamId ∈ (turns.scheduler.readyQueue priority).erase gone →
        PriorityScheduler.Ahead streamId other
          ((turns.scheduler.readyQueue priority).erase gone) := by
      intro gone hleft
      rw [(hfiled.nodup priority).mem_erase_iff] at hleft
      exact hahead.erase (Ne.symm hleft.1)
    rw [scheduler_step hstep]
    cases action with
    | setPriority called new =>
        have hcalled : called ≠ streamId := by
          rintro rfl
          exact hundisturbed ⟨new, rfl⟩
        intro _
        dsimp only
        rw [hfiled.readyQueue_setPriority]
        split
        · exact (hahead.erase hcalled).append called
        · exact hahead.erase hcalled
    | schedule called =>
        intro _
        dsimp only
        rw [PriorityScheduler.schedule, PriorityScheduler.readyQueue_addToReady]
        split
        case isTrue hqueue =>
          rw [← hqueue]
          split
          · exact hahead
          · exact hahead.append called
        case isFalse => exact hahead
    | unschedule called =>
        dsimp only
        rw [hfiled.readyQueue_unschedule]
        exact herased called
    | removeStream called =>
        dsimp only
        rw [hfiled.readyQueue_removeStream]
        exact herased called
    | markWrote called =>
        intro _
        dsimp only
        cases hmark : turns.scheduler.markWrote called with
        | none => exact hahead
        | some rotated =>
            obtain ⟨own, rest, hqueue, hrotated⟩ := PriorityScheduler.markWrote_rotates hmark
            rw [Option.getD_some, hrotated]
            split
            case isFalse => exact hahead
            case isTrue hown =>
              subst hown
              have hcalled : called ≠ streamId := by
                rintro rfl
                exact hturn ⟨rfl, by rw [hqueue]; rfl⟩
              rw [hqueue] at hahead
              exact (hahead.rotate hcalled).2
    | awaitTurn | resume | cancel => exact fun _ => hahead

/-- The turns of a stream, call by call. -/
theorem served_cons {priority : StreamPriority} {other : ℕ} {actions : List TurnAction}
    (hstep : turns.step action = some next) :
    turns.served priority other (action :: actions) =
      (if turns.Serves priority other action then 1 else 0) + next.served priority other actions := by
  rw [served, hstep]
  rfl

/-- Who is behind a stream that is passed over does not have its turn. -/
theorem served_eq_zero {priority : StreamPriority} {other : ℕ} {actions : List TurnAction}
    {final : Turns} (hfiled : turns.scheduler.Filed)
    (hahead : streamId ∈ turns.scheduler.readyQueue priority →
      PriorityScheduler.Ahead streamId other (turns.scheduler.readyQueue priority))
    (hrun : turnMachine.run turns actions = some final)
    (hpassed : turnMachine.Along (PassedOver Reprioritized priority streamId) turns actions) :
    turns.served priority other actions = 0 := by
  induction actions generalizing turns with
  | nil => rfl
  | cons action actions ih =>
      obtain ⟨hhere, hrest⟩ := hpassed
      rw [Machine.run_cons, Option.bind_eq_some_iff] at hrun
      obtain ⟨next, hstep, hrun⟩ := hrun
      have hstep : turns.step action = some next := hstep
      obtain ⟨hnot, hnext⟩ := ahead_step hfiled hhere hstep (hahead hhere.1)
      rw [served_cons hstep, if_neg hnot,
        ih (filed_step hfiled hstep) hnext hrun (hrest next hstep)]

/-- While an incremental stream is passed over, no other one has two turns. -/
theorem served_le_one {priority : StreamPriority} {other : ℕ} {actions : List TurnAction}
    {final : Turns} (hfiled : turns.scheduler.Filed) (hincremental : priority.incremental = true)
    (hrun : turnMachine.run turns actions = some final)
    (hpassed : turnMachine.Along (PassedOver Reprioritized priority streamId) turns actions) :
    turns.served priority other actions ≤ 1 := by
  induction actions generalizing turns with
  | nil => exact Nat.zero_le _
  | cons action actions ih =>
      obtain ⟨hhere, hrest⟩ := hpassed
      rw [Machine.run_cons, Option.bind_eq_some_iff] at hrun
      obtain ⟨next, hstep, hrun⟩ := hrun
      have hstep : turns.step action = some next := hstep
      have hnext := filed_step hfiled hstep
      rw [served_cons hstep]
      by_cases hserves : turns.Serves priority other action
      case neg =>
        rw [if_neg hserves, Nat.zero_add]
        exact ih hnext hrun (hrest next hstep)
      case pos =>
        -- the other stream goes behind this one, and stays there
        have hscheduler := scheduler_step hstep
        obtain ⟨hcall, hhead⟩ := hserves
        subst hcall
        obtain ⟨rest, rotated, hqueue, hmark, hrotated⟩ :=
          hfiled.markWrote_front hincremental hhead
        dsimp only at hscheduler
        rw [hmark, Option.getD_some] at hscheduler
        have hnodup := hfiled.nodup priority
        rw [hqueue, List.nodup_cons] at hnodup
        have hmem : streamId ∈ rest := by
          have hmem := hhere.1
          rw [hqueue, List.mem_cons] at hmem
          rcases hmem with rfl | hmem
          · exact absurd ⟨rfl, hhead⟩ hhere.2.1
          · exact hmem
        have hahead : PriorityScheduler.Ahead streamId other (next.scheduler.readyQueue priority) := by
          rw [hscheduler, hrotated]
          exact PriorityScheduler.ahead_of_rotated hmem hnodup.1
        rw [served_eq_zero hnext (fun _ => hahead) hrun (hrest next hstep), Nat.add_zero]
        split
        · exact Nat.le_refl 1
        · exact Nat.zero_le 1

end Turns

/-! ## Whole runs -/

/-- What is known after some calls. -/
structure InOrder (recorded : Machine.Recorded Turns TurnAction) : Prop where
  filed : recorded.state.scheduler.Filed
  ready : ∀ streamId, scheduledBy recorded.history streamId = true ↔
    recorded.state.scheduler.Ready streamId
  sound : recorded.state.Sound
  lit : recorded.state.Lit

/-- In order before a call, in order after it. -/
theorem InOrder.step {recorded next : Machine.Recorded Turns TurnAction} {action : TurnAction}
    (horder : InOrder recorded) (hstep : callMachine.step recorded action = some next) :
    InOrder next := by
  obtain ⟨htaken, hhistory⟩ := Machine.recording_step hstep
  have htaken : recorded.state.step action = some next.state := htaken
  obtain ⟨hsound, hlit⟩ := horder.sound.step horder.lit htaken
  refine ⟨Turns.filed_step horder.filed htaken, fun streamId => ?_, hsound, hlit⟩
  rw [hhistory, scheduledBy, List.foldl_append]
  exact Turns.ready_step horder.filed htaken (horder.ready streamId)

/-- At first everything is in order. -/
theorem inOrder_initial : InOrder { state := {}, history := [] } where
  filed := PriorityScheduler.filed_empty
  ready streamId := by
    refine iff_of_false Bool.false_ne_true fun hready => ?_
    rw [PriorityScheduler.Ready] at hready
    rw [PriorityScheduler.readyQueue] at hready
    split at hready <;> cases hready
  sound := by
    refine ⟨?_, ?_, ?_, ?_⟩
    · exact fun _ _ hnot => (by cases hnot)
    · exact fun _ _ _ hnot => (by cases hnot)
    · exact fun _ _ _ _ hnot => (by cases hnot)
    · exact fun _ _ _ hnot => (by cases hnot)
  lit := fun _ _ _ hnot => (by cases hnot)

/-- After any calls the scheduled streams are where they belong, the next one is the least of
them, nobody waits at the head in vain, and turns are fair to a stream that is not given a
priority meanwhile. -/
theorem scheduling_sound {recorded : Machine.Recorded Turns TurnAction}
    (hreach : callMachine.Reachable recorded) : Scheduling Turns.Reprioritized recorded := by
  have horder : InOrder recorded := by
    apply hreach.invariant
    · intro recorded hinit
      obtain ⟨state, history⟩ := recorded
      obtain ⟨rfl, rfl⟩ : state = {} ∧ history = [] := hinit
      exact inOrder_initial
    · exact fun recorded action next horder _ hstep => horder.step hstep
  constructor
  case placed =>
    intro streamId hscheduled priority
    have hready := (horder.ready streamId).mp hscheduled
    split
    case isTrue hown =>
      rw [hown]
      exact List.count_eq_one_of_mem (horder.filed.nodup _) hready
    case isFalse hother =>
      apply List.count_eq_zero_of_not_mem
      exact fun hmem => hother (horder.filed.own priority streamId hmem).symm
  case least =>
    intro streamId
    simp only [horder.ready]
    exact horder.filed.peekLocked_iff
  case idle =>
    simp only [← Bool.not_eq_true, horder.ready]
    exact horder.filed.peekLocked_eq_none_iff
  case idempotent => exact fun streamId => Turns.schedule_schedule
  case fair =>
    intro priority streamId other actions final hincremental hrun hpassed
    exact Turns.served_le_one horder.filed hincremental hrun hpassed
  case awake =>
    intro task streamId event woken hphase hnext
    exact horder.sound.awake horder.lit hphase hnext

/-! ## Two incremental streams -/

/-- Two incremental streams of one urgency are scheduled. -/
def twoScheduled : List TurnAction :=
  [.setPriority 1 { incremental := true }, .setPriority 3 { incremental := true }, .schedule 1,
    .schedule 3]

theorem callMachine_init : callMachine.init { state := {}, history := [] } := ⟨rfl, rfl⟩

theorem scheduling_sound_two :
    ∃ recorded, callMachine.run { state := {}, history := [] } twoScheduled = some recorded ∧
      recorded.state.nextStream = some 1 ∧ Scheduling Turns.Reprioritized recorded :=
  ⟨_, rfl, by decide, scheduling_sound (Machine.reachable_run callMachine_init
    (show callMachine.run { state := {}, history := [] } twoScheduled = some _ from rfl))⟩

/-- The first stream writes, the second one is given the priority it has, and the first one
writes again. -/
def passedTwice : List TurnAction :=
  [.markWrote 1, .setPriority 3 { incremental := true }, .markWrote 1]

instance (disturbs : ℕ → TurnAction → Prop) [∀ streamId action, Decidable (disturbs streamId action)]
    (priority : StreamPriority) (streamId : ℕ) (turns : Turns) (action : TurnAction) :
    Decidable (turns.PassedOver disturbs priority streamId action) :=
  inferInstanceAs (Decidable (_ ∧ _ ∧ _))

/-- A stream whose priority is set again, to the same, may be passed over twice. -/
theorem reprioritized_passed_twice :
    ¬ ∀ recorded, callMachine.Reachable recorded → Scheduling (fun _ _ => False) recorded := by
  intro hclaim
  have hscheduling := hclaim _ (Machine.reachable_run callMachine_init
    (show callMachine.run { state := {}, history := [] } twoScheduled = some _ from rfl))
  have hfair := hscheduling.fair { incremental := true } 3 1 passedTwice _ rfl rfl
    (Machine.along_of_guarded (by decide))
  exact absurd hfair (by decide)

end Pounce
