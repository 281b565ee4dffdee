/-
# The listener descriptor of a subinterpreter worker

A subinterpreter worker gets a duplicate of the listener as a bare descriptor number.
The bootstrap closes it, through the socket it builds from the number, when its server
is closed or at the latest when the worker leaves; the host thread then acknowledges
this with an event. The parent has recorded the number on the handle and closes it
itself where it finds no acknowledgement: before a respawn, and after a reload has
waited in vain for the worker.

The acknowledgement comes only after the worker has left. A parent that does not wait
for the end of the thread finds none from a worker that has closed its server and goes
on draining, nor from one that will close later; in both cases the number is closed
twice, the second time when it may stand for something else.
-/

import Pounce.Math.Transition

namespace Pounce.Descriptor

open Pounce.Math

/-- Where the host thread of the worker stands. -/
inductive Phase where
  /-- The descriptor is duplicated, the interpreter is being prepared. -/
  | spawning
  /-- The thread is started, `interp.exec` has run no code yet. -/
  | starting
  /-- In `bootstrap`, before the socket is reconstructed. -/
  | bootstrapping
  /-- The server accepts on the socket. -/
  | serving
  /-- The server and with it the socket is closed, connections are drained. -/
  | draining
  /-- In the `finally` block of `bootstrap`. -/
  | leaving
  /-- Past it. -/
  | left
  /-- `interp.exec` is over; whether the close was reported. -/
  | returned (reported : Bool)
  /-- The thread has ended. -/
  | dead
  deriving DecidableEq, Repr

/-- Who calls `close`. -/
inductive Side where
  | worker
  | parent
  deriving DecidableEq, Repr

/-- What the descriptor number stands for. -/
inductive Number where
  | listener
  | free
  /-- The operating system has given the number away again. -/
  | reused
  deriving DecidableEq, Repr

/-- The descriptor of one worker, with what both sides know of it. -/
structure State where
  phase : Phase := .spawning
  /-- The socket object of the worker is closed. -/
  socketClosed : Bool := false
  /-- `handle.sock_fd` is set. -/
  recorded : Bool := false
  /-- `handle.sock_fd_closed_by_worker`. -/
  acknowledged : Bool := false
  /-- The parent has looked at the event and is about to close. -/
  reclaiming : Bool := false
  /-- The parent has let go of the handle. -/
  dropped : Bool := false
  number : Number := .listener
  /-- The calls of `close` on the number, oldest first. -/
  closes : List Side := []
  deriving DecidableEq, Repr

/-- What the two sides and the system do. -/
inductive Action where
  /-- `prepare_main` raises: the parent closes at once. -/
  | prepareFails
  /-- The thread cannot be started. -/
  | startFails
  | start
  /-- `interp.exec` fails before it reaches the guarded import. -/
  | execFails
  /-- The import of the bootstrap fails, which closes the number. -/
  | importFails
  | bootstrap
  /-- Configuration or application cannot be loaded. -/
  | bootstrapFails
  | serve
  /-- The server is closed, by a drain command or at the end. -/
  | closeServer
  /-- The worker returns or crashes. -/
  | leave
  /-- The `finally` block closes what is not closed yet. -/
  | closeSocket
  /-- The close is reported through the queue. -/
  | report
  /-- The event is set if a close was reported, and the thread ends. -/
  | stop
  /-- A respawn finds the handle: `_reclaim_subinterpreter_fd`. -/
  | respawn
  /-- A reload has waited in vain: `_force_stop` and `_reclaim_subinterpreter_fd`. -/
  | giveUp
  /-- The parent closes what it reclaims. -/
  | reclaim
  /-- A reload or the shutdown lets go of the handle of an ended worker. -/
  | drop
  /-- The number is given to something else. -/
  | reuse
  deriving DecidableEq, Repr

namespace State

/-- A call of `close` on the number. -/
def close (state : State) (side : Side) : State :=
  { state with number := .free, closes := state.closes ++ [side] }

/-- `_reclaim_subinterpreter_fd` up to the call of `close`. -/
def reclaimSubinterpreterFd (state : State) : State :=
  if state.recorded then
    { state with recorded := false, reclaiming := !state.acknowledged }
  else state

end State

/-- One step; `none` where it is not possible. -/
def step (state : State) : Action → Option State
  | .prepareFails =>
    if state.phase = .spawning then some { state.close .parent with phase := .dead } else none
  | .startFails => if state.phase = .spawning then some { state with phase := .dead } else none
  | .start =>
    if state.phase = .spawning then some { state with phase := .starting, recorded := true }
    else none
  | .execFails =>
    if state.phase = .starting then some { state with phase := .returned false } else none
  | .importFails => if state.phase = .starting then some { state with phase := .leaving } else none
  | .bootstrap =>
    if state.phase = .starting then some { state with phase := .bootstrapping } else none
  | .bootstrapFails =>
    if state.phase = .bootstrapping then some { state with phase := .leaving } else none
  | .serve => if state.phase = .bootstrapping then some { state with phase := .serving } else none
  | .closeServer =>
    if state.phase = .serving then
      some { state.close .worker with phase := .draining, socketClosed := true }
    else none
  | .leave =>
    if state.phase = .serving ∨ state.phase = .draining then some { state with phase := .leaving }
    else none
  | .closeSocket =>
    if state.phase = .leaving then
      if state.socketClosed then some { state with phase := .left }
      else some { state.close .worker with phase := .left, socketClosed := true }
    else none
  | .report => if state.phase = .left then some { state with phase := .returned true } else none
  | .stop =>
    match state.phase with
    | .returned reported =>
      some { state with phase := .dead, acknowledged := state.acknowledged || reported }
    | _ => none
  | .respawn =>
    if ¬ state.reclaiming ∧ ¬ state.dropped then some state.reclaimSubinterpreterFd else none
  | .giveUp =>
    if ¬ state.reclaiming ∧ ¬ state.dropped ∧ state.phase ≠ .dead then
      some state.reclaimSubinterpreterFd
    else none
  | .reclaim =>
    if state.reclaiming then some { state.close .parent with reclaiming := false } else none
  | .drop =>
    if state.phase = .dead ∧ ¬ state.reclaiming then some { state with dropped := true } else none
  | .reuse => if state.number = .free then some { state with number := .reused } else none

/-- The descriptor of a worker that is being spawned, and what becomes of it. -/
def descriptor : Machine State Action where
  init state := state = {}
  step := step

/-- The parent reclaims only after the thread has ended, it lets go of no handle that it
would have to reclaim, and threads can be started. -/
def Orderly (state : State) : Action → Prop
  | .respawn | .giveUp => state.phase = .dead
  | .drop => state.recorded → state.acknowledged
  | .startFails => False
  | _ => True

/-! ## Who owns the number -/

/-- The parent has not looked at the handle since the thread was started. -/
def Unattended (state : State) : Prop :=
  state.recorded ∧ ¬ state.acknowledged ∧ ¬ state.reclaiming ∧ ¬ state.dropped

/-- Before the thread is started the parent owns the number, while the thread runs the
worker does, and after its end the parent does unless there is an acknowledgement. -/
def Owned (state : State) : Prop :=
  match state.phase with
  | .spawning => (¬ state.recorded ∧ ¬ state.acknowledged ∧ ¬ state.reclaiming ∧ ¬ state.dropped) ∧
    ¬ state.socketClosed ∧ state.closes = []
  | .starting | .bootstrapping | .serving | .returned false =>
    Unattended state ∧ ¬ state.socketClosed ∧ state.closes = []
  | .leaving => Unattended state ∧ state.closes = if state.socketClosed then [.worker] else []
  | .draining | .left | .returned true =>
    Unattended state ∧ state.socketClosed ∧ state.closes = [.worker]
  | .dead =>
    (if state.acknowledged then ¬ state.reclaiming ∧ state.closes = [.worker]
      else if state.reclaiming then ¬ state.recorded ∧ state.closes = []
      else if state.recorded then state.closes = []
      else state.closes = [.parent]) ∧
    (state.dropped → ¬ state.reclaiming ∧ (state.recorded → state.acknowledged))

variable {state next : State} {action : Action}

/-- Whoever owns it, the number is closed at most once. -/
theorem Owned.closes_length (howned : Owned state) : state.closes.length ≤ 1 := by
  rw [Owned] at howned
  split at howned
  case h_1 | h_2 | h_3 | h_4 | h_5 => rw [howned.2.2]; exact Nat.zero_le _
  case h_6 =>
    rw [howned.2]
    split
    case isTrue => exact Nat.le_refl _
    case isFalse => exact Nat.zero_le _
  case h_7 | h_8 | h_9 => rw [howned.2.2]; exact Nat.le_refl _
  case h_10 =>
    obtain ⟨hcloses, -⟩ := howned
    grind

/-- The parent is about to close only after the end of the thread. -/
theorem Owned.phase_of_reclaiming (howned : Owned state) (hreclaiming : state.reclaiming) :
    state.phase = .dead := by
  rw [Owned] at howned
  split at howned
  case h_1 | h_2 | h_3 | h_4 | h_5 => exact absurd hreclaiming howned.1.2.2.1
  case h_6 => exact absurd hreclaiming howned.1.2.2.1
  case h_7 | h_8 | h_9 => exact absurd hreclaiming howned.1.2.2.1
  case h_10 hdead => exact hdead

/-- What the number stands for does not matter to its owner. -/
theorem Owned.renumber (howned : Owned state) (number : Number) :
    Owned { state with number := number } := by
  rw [Owned] at howned ⊢
  exact howned

/-- Every orderly step leaves the number with its owner or hands it on. -/
theorem Owned.step (howned : Owned state) (horderly : Orderly state action)
    (hstep : Descriptor.step state action = some next) : Owned next := by
  cases action with
  | startFails => exact horderly.elim
  | prepareFails | start =>
      -- the parent owns the number until the thread is started
      simp only [Descriptor.step] at hstep
      obtain ⟨hphase, rfl⟩ := Machine.of_guard hstep
      simp only [Owned, hphase] at howned
      obtain ⟨⟨hrecorded, hacknowledged, hreclaiming, hdropped⟩, hopen, hcloses⟩ := howned
      simp [Owned, Unattended, State.close, hrecorded, hacknowledged, hreclaiming, hdropped,
        hopen, hcloses]
  | execFails | bootstrap | serve | report =>
      -- the worker goes on without touching it
      simp only [Descriptor.step] at hstep
      obtain ⟨hphase, rfl⟩ := Machine.of_guard hstep
      simp only [Owned, hphase] at howned
      simpa [Owned, Unattended] using howned
  | importFails | bootstrapFails =>
      simp only [Descriptor.step] at hstep
      obtain ⟨hphase, rfl⟩ := Machine.of_guard hstep
      simp only [Owned, hphase] at howned
      obtain ⟨hunattended, hopen, hcloses⟩ := howned
      exact ⟨hunattended, hcloses.trans (if_neg hopen).symm⟩
  | closeServer =>
      simp only [Descriptor.step] at hstep
      obtain ⟨hphase, rfl⟩ := Machine.of_guard hstep
      simp only [Owned, hphase] at howned
      obtain ⟨hunattended, -, hcloses⟩ := howned
      exact ⟨hunattended, rfl, by simp [State.close, hcloses]⟩
  | leave =>
      simp only [Descriptor.step] at hstep
      obtain ⟨hphase, rfl⟩ := Machine.of_guard hstep
      rcases hphase with hserving | hdraining
      · simp only [Owned, hserving] at howned
        obtain ⟨hunattended, hopen, hcloses⟩ := howned
        exact ⟨hunattended, hcloses.trans (if_neg hopen).symm⟩
      · simp only [Owned, hdraining] at howned
        obtain ⟨hunattended, hclosed, hcloses⟩ := howned
        exact ⟨hunattended, hcloses.trans (if_pos hclosed).symm⟩
  | closeSocket =>
      simp only [Descriptor.step] at hstep
      split at hstep
      case isTrue hphase =>
        simp only [Owned, hphase] at howned
        obtain ⟨hunattended, hcloses⟩ := howned
        split at hstep <;> obtain rfl := Option.some.inj hstep
        case isTrue hclosed => exact ⟨hunattended, hclosed, hcloses.trans (if_pos hclosed)⟩
        case isFalse hopen =>
          rw [if_neg hopen] at hcloses
          exact ⟨hunattended, rfl, by simp [State.close, hcloses]⟩
      case isFalse => cases hstep
  | stop =>
      -- the worker hands the number back, or has closed it and says so
      simp only [Descriptor.step] at hstep
      split at hstep
      case h_1 reported hphase =>
        obtain rfl := Option.some.inj hstep
        cases reported with
        | true =>
            simp only [Owned, hphase] at howned
            obtain ⟨⟨-, -, hreclaiming, hdropped⟩, -, hcloses⟩ := howned
            simp [Owned, hreclaiming, hdropped, hcloses]
        | false =>
            simp only [Owned, hphase] at howned
            obtain ⟨⟨hrecorded, hacknowledged, hreclaiming, hdropped⟩, -, hcloses⟩ := howned
            simp [Owned, hrecorded, hacknowledged, hreclaiming, hdropped, hcloses]
      case h_2 => cases hstep
  | respawn | giveUp =>
      -- the thread has ended, so that the acknowledgement tells who closes
      have hdead : state.phase = .dead := horderly
      simp only [Descriptor.step] at hstep
      obtain ⟨hfree, rfl⟩ := Machine.of_guard hstep
      simp only [Owned, hdead] at howned
      rw [State.reclaimSubinterpreterFd]
      split
      case isTrue hrecorded =>
        simp only [Owned, hdead]
        grind
      case isFalse =>
        simp only [Owned, hdead]
        exact howned
  | reclaim =>
      simp only [Descriptor.step] at hstep
      obtain ⟨hreclaiming, rfl⟩ := Machine.of_guard hstep
      have hdead := howned.phase_of_reclaiming hreclaiming
      simp only [Owned, hdead, hreclaiming] at howned
      obtain ⟨hcloses, hdropped⟩ := howned
      split at hcloses
      case isTrue => exact absurd trivial hcloses.1
      case isFalse hsilent =>
        obtain ⟨hrecorded, hcloses⟩ := hcloses
        simp only [Owned, State.close, hdead]
        simp [hsilent, hrecorded, hcloses]
  | drop =>
      simp only [Descriptor.step] at hstep
      obtain ⟨hdead, rfl⟩ := Machine.of_guard hstep
      obtain ⟨hphase, hidle⟩ := hdead
      simp only [Owned, hphase] at howned ⊢
      exact ⟨howned.1, fun _ => ⟨hidle, horderly⟩⟩
  | reuse =>
      simp only [Descriptor.step] at hstep
      obtain ⟨-, rfl⟩ := Machine.of_guard hstep
      exact howned.renumber .reused

/-! ## Every run -/

/-- In orderly runs the number is closed at most once, so that neither side closes it
after the other, and exactly once when the thread has ended and the parent is done with
the handle. -/
theorem closed_once (hreach : descriptor.Reach Orderly state) :
    state.closes.length ≤ 1 ∧
      (state.phase = .dead → ¬ state.reclaiming → (¬ state.recorded ∨ state.dropped) →
        state.closes.length = 1) := by
  have howned : Owned state := by
    apply hreach.invariant
    · rintro _ rfl
      simp [Owned]
    · exact fun _ _ _ howned horderly hstep => howned.step horderly hstep
  refine ⟨howned.closes_length, ?_⟩
  intro hdead hidle hdone
  simp only [Owned, hdead] at howned
  obtain ⟨hcloses, hdropped⟩ := howned
  split at hcloses
  case isTrue =>
    rw [hcloses.2]
    rfl
  case isFalse hsilent =>
    have hreclaimed : ¬ state.recorded := by
      intro hrecorded
      rcases hdone with hnot | hdrop
      · exact hnot hrecorded
      · exact hsilent ((hdropped hdrop).2 hrecorded)
    rw [if_neg hreclaimed] at hcloses
    rw [hcloses]
    rfl

/-- The state after these actions. -/
def after (actions : List Action) : State := (descriptor.run {} actions).getD {}

instance (state : State) (action : Action) : Decidable (Orderly state action) :=
  match action with
  | .respawn | .giveUp => inferInstanceAs (Decidable (_ = _))
  | .drop => inferInstanceAs (Decidable (_ → _))
  | .startFails => inferInstanceAs (Decidable False)
  | .prepareFails | .start | .execFails | .importFails | .bootstrap | .bootstrapFails | .serve
  | .closeServer | .leave | .closeSocket | .report | .stop | .reclaim | .reuse =>
    inferInstanceAs (Decidable True)

/-- A worker whose application cannot be imported, and the respawn that finds it. -/
def importError : List Action :=
  [.start, .bootstrap, .bootstrapFails, .closeSocket, .report, .stop, .reuse, .respawn]

/-- The worker has closed the number, and the parent leaves it alone. -/
theorem closed_once_importError : (after importError).closes.length = 1 := by
  have horderly : descriptor.Along Orderly {} importError :=
    Machine.along_of_guarded (by decide)
  have hrun : descriptor.run {} importError = some (after importError) := rfl
  have hreach : descriptor.Reach Orderly (after importError) := .run (.init rfl) horderly hrun
  exact (closed_once hreach).2 rfl (by decide) (.inl (by decide))

/-- A reload that waits in vain for a worker that drains. -/
def slowDrain : List Action :=
  [.start, .bootstrap, .serve, .closeServer, .reuse, .giveUp, .reclaim]

/-- The parent closes the number after the worker has closed it and the system has given
it away. -/
theorem draining_closed_twice :
    ¬ ∀ state, descriptor.Reachable state →
      state.closes.length ≤ 1 ∧
        (state.phase = .dead → ¬ state.reclaiming → (¬ state.recorded ∨ state.dropped) →
          state.closes.length = 1) := by
  intro hclaim
  have hrun : descriptor.run {} slowDrain = some (after slowDrain) := rfl
  have hreach : descriptor.Reachable (after slowDrain) := Machine.reachable_run rfl hrun
  exact absurd (hclaim _ hreach).1 (by decide)

end Pounce.Descriptor
