/-
# Waking the senders that wait for credit

A send coroutine whose window is exhausted drains the transport, gives its turn away, looks at the
window once more and waits for `flow_control_updated`, at most until its write deadline. All of
them share the one event. Who is woken by WINDOW_UPDATE looks at its window again, and between
looking and waiting nothing else runs.

So nobody sleeps while its window is open, as long as only WINDOW_UPDATE opens windows. SETTINGS
opens them as well, and sets nothing. Nor is the deadline ever held back for a sender that has not
looked: one that is still draining, or was woken and has not run yet, is reset all the same.
-/

import Pounce.H2.WriteTurns

namespace Pounce.H2

open Pounce.Math Pounce.Math.Bytes

/-! ## What is promised -/

namespace Connection

variable (conn : Connection)

/-- Nobody sleeps while its window is open. -/
def NoneAsleep : Prop :=
  ∀ (id : ℕ) (sender : Sender), conn.senders id = some sender →
    sender.phase = .awaitingUpdate false → ¬ conn.Open sender.streamId

/-- Whoever waits for its window is woken by the step that opens it. -/
def WakesFor (next : Connection) : Prop :=
  ∀ (id : ℕ) (sender : Sender) (woken : Bool), conn.senders id = some sender →
    sender.phase = .awaitingUpdate woken → ¬ conn.Open sender.streamId →
      next.Open sender.streamId →
        next.senders id = some { sender with phase := .awaitingUpdate true }

/-- No stream is reset at the deadline while its window is open. -/
def ResetsShut (action : Action) : Prop :=
  ∀ (id : ℕ) (sender : Sender), action = .deadline id → conn.senders id = some sender →
    ¬ conn.Open sender.streamId

/-- A step that comes in time. SETTINGS opens no window that somebody waits for, and no deadline
strikes a sender with an open window that is still draining or has been woken. -/
def Timely : Action → Prop
  | .settings initialWindow maxFrameSize => ∀ (id : ℕ) (sender : Sender) (window : ℤ),
      conn.senders id = some sender → sender.phase = .awaitingUpdate false →
        (conn.flow.settings initialWindow maxFrameSize).localFlowControlWindow sender.streamId =
          some window → window ≤ 0
  | .deadline id => ∀ sender, conn.senders id = some sender →
      sender.phase = .draining ∨ sender.phase = .awaitingUpdate true →
        ¬ conn.Open sender.streamId
  | _ => True

end Connection

/-! ## Sleepers -/

/-- The stream a send coroutine sleeps for: it waits for its window and has not been woken. -/
def Sender.sleeping (sender : Sender) : Option ℕ :=
  match sender.phase with
  | .awaitingUpdate false => some sender.streamId
  | _ => none

@[simp]
theorem Sender.sleeping_wakeTurn (streamId : ℕ) (sender : Sender) :
    (sender.wakeTurn streamId).sleeping = sender.sleeping := by
  rw [wakeTurn]
  split
  case h_1 window woken hphase =>
    split
    · simp only [sleeping, hphase]
    · rfl
  case h_2 => rfl

@[simp]
theorem Sender.sleeping_wakeUpdate (sender : Sender) : sender.wakeUpdate.sleeping = none := by
  rw [wakeUpdate]
  split
  case h_1 => rfl
  case h_2 hphase =>
    rw [sleeping]
    split
    case h_1 hasleep => exact absurd hasleep (hphase false)
    case h_2 => rfl

namespace Connection

variable (conn : Connection) (id : ℕ) (sender : Sender)

/-- The stream somebody sleeps for. -/
def sleeping : Option ℕ := (conn.senders id).bind Sender.sleeping

@[simp]
theorem sleeping_wakeTurn (streamId : ℕ) : (conn.wakeTurn streamId).sleeping = conn.sleeping := by
  funext other
  rw [sleeping, sleeping, wakeTurn, Option.bind_map]
  congr 1
  funext sender
  exact sender.sleeping_wakeTurn streamId

@[simp]
theorem sleeping_reschedule (scheduler : PriorityScheduler) :
    (conn.reschedule scheduler).sleeping = conn.sleeping := by
  rw [reschedule]
  split
  case h_1 => rfl
  case h_2 => rw [sleeping_wakeTurn]; rfl

/-- Somebody sleeps on, or falls asleep. -/
theorem sleeping_setSender {entry : Option Sender} {other streamId : ℕ}
    (hsleeping : (conn.setSender id entry).sleeping other = some streamId) :
    entry.bind Sender.sleeping = some streamId ∨ conn.sleeping other = some streamId := by
  simp only [sleeping, setSender, Function.update_apply] at hsleeping
  split at hsleeping
  · exact .inl hsleeping
  · exact .inr hsleeping

variable {conn} {id} {sender} {next : Connection}

/-- A sleeper of the connection. -/
theorem sleeping_of_senders (hsender : conn.senders id = some sender)
    (hphase : sender.phase = .awaitingUpdate false) : conn.sleeping id = some sender.streamId := by
  rw [sleeping, hsender, Option.bind_some, Sender.sleeping, hphase]

/-! ## Steps that open no window -/

variable (conn) (next) in
/-- The step opens no window. -/
structure Narrows : Prop where
  last : next.flow.lastStream = conn.flow.lastStream
  streams : ∀ streamId, (next.flow.streams streamId).isSome →
    (conn.flow.streams streamId).isSome
  opens : ∀ streamId, next.Open streamId → conn.Open streamId

/-- Where the credit stays as it is. -/
theorem Narrows.of_flow (hflow : next.flow = conn.flow) : conn.Narrows next where
  last := by rw [hflow]
  streams streamId hopened := by rwa [← hflow]
  opens streamId hopen := by rwa [Open, ← hflow]

theorem Narrows.trans {mid : Connection} (hfirst : conn.Narrows mid) (hsecond : mid.Narrows next) :
    conn.Narrows next where
  last := hsecond.last.trans hfirst.last
  streams streamId hopened := hfirst.streams streamId (hsecond.streams streamId hopened)
  opens streamId hopen := hfirst.opens streamId (hsecond.opens streamId hopen)

/-- What is sent uses credit up. -/
theorem Narrows.spend (streamId length : ℕ) (hnext : next.flow = conn.flow.spend streamId length) :
    conn.Narrows next where
  last := by rw [hnext]; rfl
  streams other hopened := by
    simp only [hnext, FlowControl.spend, Function.update_apply] at hopened
    split at hopened
    case isTrue heq => rwa [Option.isSome_map, ← heq] at hopened
    case isFalse => exact hopened
  opens other hopen := by
    obtain ⟨window, hwindow, hpos⟩ := hopen
    simp only [hnext, FlowControl.localFlowControlWindow, FlowControl.spend,
      Function.update_apply] at hwindow
    split at hwindow
    case isTrue heq =>
      rw [Option.map_map, Option.map_eq_some_iff] at hwindow
      obtain ⟨credit, hcredit, rfl⟩ := hwindow
      rw [Function.comp_apply] at hpos
      refine ⟨_, by rw [heq, FlowControl.localFlowControlWindow, hcredit, Option.map_some], ?_⟩
      omega
    case isFalse =>
      rw [Option.map_eq_some_iff] at hwindow
      obtain ⟨credit, hcredit, rfl⟩ := hwindow
      refine ⟨_, by rw [FlowControl.localFlowControlWindow, hcredit, Option.map_some], ?_⟩
      omega

/-- A stream is reset. -/
theorem Narrows.closeStream (streamId : ℕ) (hnext : next.flow = conn.flow.closeStream streamId) :
    conn.Narrows next where
  last := by rw [hnext]; rfl
  streams other hopened := by
    simp only [hnext, FlowControl.closeStream, Function.update_apply] at hopened
    split at hopened
    case isTrue => cases hopened
    case isFalse => exact hopened
  opens other hopen := by
    obtain ⟨window, hwindow, hpos⟩ := hopen
    simp only [hnext, FlowControl.localFlowControlWindow, FlowControl.closeStream,
      Function.update_apply] at hwindow
    split at hwindow
    case isTrue => cases hwindow
    case isFalse => exact ⟨window, hwindow, hpos⟩

/-- Whatever is handed over opens no window. -/
theorem narrows_sendData (conn : Connection) (streamId : ℕ) (data : Bytes) (endStream : Bool) :
    conn.Narrows (conn.sendData streamId data endStream).1 := by
  simp only [sendData]
  split
  · exact .of_flow rfl
  split
  · exact .of_flow rfl
  · split
    · exact .spend streamId data.length rfl
    · exact .of_flow rfl

variable (conn) (next) in
/-- The step opens no window and puts nobody to sleep. -/
structure Calms : Prop extends Narrows conn next where
  sleeps : ∀ id streamId, next.sleeping id = some streamId → conn.sleeping id = some streamId

/-- Where neither the credit nor who sleeps changes. -/
theorem Calms.of_eq (hflow : next.flow = conn.flow) (hsleeping : next.sleeping = conn.sleeping) :
    conn.Calms next where
  toNarrows := .of_flow hflow
  sleeps id streamId hasleep := by rwa [← hsleeping]

theorem Calms.trans {mid : Connection} (hfirst : conn.Calms mid) (hsecond : mid.Calms next) :
    conn.Calms next where
  toNarrows := hfirst.toNarrows.trans hsecond.toNarrows
  sleeps id streamId hasleep := hfirst.sleeps id streamId (hsecond.sleeps id streamId hasleep)

theorem calms_reschedule (conn : Connection) (scheduler : PriorityScheduler) :
    conn.Calms (conn.reschedule scheduler) :=
  .of_eq (conn.flow_reschedule scheduler) (conn.sleeping_reschedule scheduler)

/-- A send coroutine goes on awake, or leaves. -/
theorem calms_setSender (conn : Connection) (id : ℕ) {entry : Option Sender}
    (hawake : entry.bind Sender.sleeping = none) : conn.Calms (conn.setSender id entry) where
  toNarrows := .of_flow rfl
  sleeps other streamId hasleep := by
    rcases conn.sleeping_setSender id hasleep with hentry | hold
    · cases hawake.symm.trans hentry
    · exact hold

theorem calms_leave (conn : Connection) (id : ℕ) (sender : Sender) :
    conn.Calms (conn.leave id sender) := by
  have hleft : conn.Calms (conn.setSender id none) := conn.calms_setSender id rfl
  rw [leave]
  split
  · exact hleft.trans (calms_reschedule _ _)
  · exact hleft

/-- What is handed over changes no send coroutine. -/
theorem senders_sendData (conn : Connection) (streamId : ℕ) (data : Bytes) (endStream : Bool) :
    (conn.sendData streamId data endStream).1.senders = conn.senders := by
  simp only [sendData]
  split
  · rfl
  split
  · rfl
  · split
    · rfl
    · rfl

theorem calms_sendData (conn : Connection) (streamId : ℕ) (data : Bytes) (endStream : Bool) :
    conn.Calms (conn.sendData streamId data endStream).1 where
  toNarrows := conn.narrows_sendData streamId data endStream
  sleeps id streamId hasleep := by
    rw [sleeping] at hasleep ⊢
    rwa [senders_sendData] at hasleep

theorem calms_closeStream (conn : Connection) (streamId : ℕ) :
    conn.Calms { conn with flow := conn.flow.closeStream streamId } where
  toNarrows := .closeStream streamId rfl
  sleeps _ _ hasleep := hasleep

theorem calms_writeChunk (conn : Connection) (id : ℕ) (sender : Sender) (window : ℤ) :
    conn.Calms (conn.writeChunk id sender window) := by
  rw [writeChunk]
  generalize (sender.endStream && _) = isLast
  have hcalms := conn.calms_sendData sender.streamId
    (sender.chunk window conn.flow.maxOutboundFrameSize) isLast
  split
  case h_1 raised hsend =>
    rw [hsend] at hcalms
    exact hcalms.trans (calms_leave _ _ _)
  case h_2 sent hsend =>
    rw [hsend] at hcalms
    cases sent.scheduler.markWrote sender.streamId with
    | none =>
        simp only
        split
        · exact hcalms.trans (calms_leave _ _ _)
        · exact hcalms.trans (calms_setSender _ _ rfl)
    | some scheduler =>
        have hrotated := hcalms.trans (sent.calms_reschedule scheduler)
        simp only
        split
        · exact hrotated.trans (calms_leave _ _ _)
        · exact hrotated.trans (calms_setSender _ _ rfl)

theorem calms_round (conn : Connection) (id : ℕ) (sender : Sender) :
    conn.Calms (conn.round id sender) := by
  rw [round]
  split
  · exact conn.calms_leave id sender
  split
  · exact conn.calms_setSender id rfl
  split
  · exact conn.calms_writeChunk id sender _
  · exact conn.calms_setSender id rfl

/-- After the drain a send coroutine may fall asleep, but only while its window is shut. -/
theorem drained_cases (conn : Connection) (id : ℕ) (sender : Sender) :
    conn.Narrows (conn.drained id sender) ∧
      ∀ other streamId, (conn.drained id sender).sleeping other = some streamId →
        conn.sleeping other = some streamId ∨
          (conn.flow.streams streamId).isSome ∧ ¬ conn.Open streamId := by
  have hyielded := conn.calms_reschedule (conn.scheduler.unschedule sender.streamId)
  have hcalm {given : Connection} (hcalms : conn.Calms given) : conn.Narrows given ∧
      ∀ other streamId, given.sleeping other = some streamId →
        conn.sleeping other = some streamId ∨
          (conn.flow.streams streamId).isSome ∧ ¬ conn.Open streamId :=
    ⟨hcalms.toNarrows, fun other streamId hasleep => .inl (hcalms.sleeps other streamId hasleep)⟩
  rw [drained]
  split
  case h_1 => exact hcalm (hyielded.trans (calms_leave _ _ _))
  case h_2 window hwindow =>
    split
    case isTrue hshut =>
      refine ⟨.of_flow (conn.flow_reschedule _), fun other streamId hasleep => ?_⟩
      rcases sleeping_setSender _ id hasleep with hentry | hold
      · right
        obtain rfl : sender.streamId = streamId := Option.some.inj hentry
        constructor
        · obtain ⟨credit, hcredit, -⟩ := Option.map_eq_some_iff.mp hwindow
          rw [hcredit]
          rfl
        · rintro ⟨current, hcurrent, hpos⟩
          obtain rfl : window = current := Option.some.inj (hwindow.symm.trans hcurrent)
          omega
      · left
        exact hyielded.sleeps other streamId hold
    case isFalse =>
      exact hcalm ((hyielded.trans (calms_reschedule _ _)).trans (calms_setSender _ _ rfl))

/-- What the other steps of a send coroutine do. -/
theorem calms_senderStep {action : Action} (hdrained : ∀ id, action ≠ .drained id)
    (hstep : conn.senderStep id sender action = some next) : conn.Calms next := by
  rw [senderStep.eq_def] at hstep
  split at hstep
  case h_1 =>
    obtain ⟨-, rfl⟩ := Machine.of_guard hstep
    exact conn.calms_round id sender
  case h_2 =>
    split at hstep
    case h_1 =>
      split at hstep
      · cases hstep
        exact conn.calms_writeChunk id sender _
      · cases hstep
        exact conn.calms_setSender id rfl
    case h_2 => cases hstep
  case h_3 other => exact absurd rfl (hdrained other)
  case h_4 =>
    obtain ⟨-, rfl⟩ := Machine.of_guard hstep
    exact (conn.calms_reschedule _).trans (calms_setSender _ _ rfl)
  case h_5 =>
    have hclosed := conn.calms_closeStream sender.streamId
    split at hstep
    case h_1 =>
      cases hstep
      exact (hclosed.trans (calms_reschedule _ _)).trans (calms_leave _ _ _)
    case h_2 =>
      cases hstep
      exact hclosed.trans (calms_leave _ _ _)
    case h_3 => cases hstep
  case h_6 =>
    split at hstep
    case isTrue => cases hstep
    case isFalse =>
      cases hstep
      exact conn.calms_leave id sender
  case h_7 => cases hstep

theorem calms_sendBody (conn : Connection) (id streamId : ℕ) (body : Bytes) (endStream : Bool) :
    conn.Calms (conn.sendBody id streamId body endStream) := by
  rw [sendBody]
  split
  · exact (conn.calms_reschedule _).trans (calms_sendData _ _ _ _)
  · exact (conn.calms_reschedule _).trans (calms_setSender _ _ rfl)

/-- Every step opens no window and puts nobody to sleep, but for the frames that open windows and
the end of a drain. -/
theorem calms_step {action : Action} (hstep : conn.step action = some next) :
    conn.Calms next ∨ (∃ streamId, action = .openStream streamId) ∨
      (∃ id, action = .drained id) ∨ (∃ target increment, action = .windowUpdate target increment) ∨
        ∃ initialWindow maxFrameSize, action = .settings initialWindow maxFrameSize := by
  have hsenders {id : ℕ} (hdrained : ∀ id, action ≠ .drained id)
      (hbind : ((conn.senders id).bind fun sender => conn.senderStep id sender action) =
        some next) : conn.Calms next := by
    obtain ⟨sender, hsender, htaken⟩ := Option.bind_eq_some_iff.mp hbind
    exact calms_senderStep hdrained htaken
  cases action with
  | openStream streamId => exact .inr (.inl ⟨streamId, rfl⟩)
  | drained id => exact .inr (.inr (.inl ⟨id, rfl⟩))
  | windowUpdate target increment => exact .inr (.inr (.inr (.inl ⟨target, increment, rfl⟩)))
  | settings initialWindow maxFrameSize =>
      exact .inr (.inr (.inr (.inr ⟨initialWindow, maxFrameSize, rfl⟩)))
  | setPriority streamId priority =>
      cases hstep
      exact .inl (conn.calms_reschedule _)
  | sendHead streamId =>
      obtain ⟨-, rfl⟩ := Machine.of_guard hstep
      exact .inl (.of_eq rfl rfl)
  | sendBody id streamId body endStream =>
      obtain ⟨-, rfl⟩ := Machine.of_guard hstep
      exact .inl (conn.calms_sendBody id streamId body endStream)
  | round id => exact .inl (hsenders (fun _ => nofun) hstep)
  | turn id => exact .inl (hsenders (fun _ => nofun) hstep)
  | updated id => exact .inl (hsenders (fun _ => nofun) hstep)
  | deadline id => exact .inl (hsenders (fun _ => nofun) hstep)
  | cancel id => exact .inl (hsenders (fun _ => nofun) hstep)
  | appError streamId =>
      obtain ⟨-, rfl⟩ := Machine.of_guard hstep
      have hfailed : conn.Calms
          { conn with headSent := Function.update conn.headSent streamId true } := .of_eq rfl rfl
      exact .inl (hfailed.trans (calms_sendData _ _ _ _))
  | webSocketData streamId data endStream =>
      cases hstep
      exact .inl (conn.calms_sendData streamId data endStream)
  | finish streamId =>
      cases hstep
      apply Or.inl
      apply (conn.calms_reschedule (conn.scheduler.removeStream streamId)).trans
      exact .of_eq rfl (sleeping_wakeTurn _ streamId)
  | reset streamId =>
      cases hstep
      exact .inl (conn.calms_closeStream streamId)

/-! ## Nobody oversleeps -/

variable (conn) in
/-- Streams are opened in order, and whoever sleeps does so over a stream that was opened and
whose window is shut. -/
structure Watched : Prop where
  opened : ∀ streamId, (conn.flow.streams streamId).isSome → streamId ≤ conn.flow.lastStream
  shut : ∀ id streamId, conn.sleeping id = some streamId →
    streamId ≤ conn.flow.lastStream ∧ ¬ conn.Open streamId

/-- A step that opens no window and puts to sleep only where the window is shut. -/
theorem Watched.narrow (hwatched : conn.Watched) (hnarrows : conn.Narrows next)
    (hsleeps : ∀ id streamId, next.sleeping id = some streamId →
      conn.sleeping id = some streamId ∨
        (conn.flow.streams streamId).isSome ∧ ¬ conn.Open streamId) : next.Watched where
  opened streamId hopened := by
    rw [hnarrows.last]
    exact hwatched.opened streamId (hnarrows.streams streamId hopened)
  shut id streamId hasleep := by
    rw [hnarrows.last]
    rcases hsleeps id streamId hasleep with hold | ⟨hopened, hshut⟩
    · obtain ⟨hlast, hshut⟩ := hwatched.shut id streamId hold
      exact ⟨hlast, fun hopen => hshut (hnarrows.opens streamId hopen)⟩
    · exact ⟨hwatched.opened streamId hopened, fun hopen => hshut (hnarrows.opens streamId hopen)⟩

/-- A stream that was not there yet is opened. -/
theorem open_openStream {flow : FlowControl} {streamId other : ℕ}
    (hflow : conn.flow.openStream streamId = some flow) (hlast : other ≤ conn.flow.lastStream) :
    ({ conn with flow } : Connection).Open other ↔ conn.Open other := by
  rw [FlowControl.openStream] at hflow
  obtain ⟨hlt, rfl⟩ := Machine.of_guard hflow
  have hne : other ≠ streamId := by omega
  simp only [Open, FlowControl.localFlowControlWindow, Function.update_of_ne hne]

/-- A step in time keeps it so. -/
theorem Watched.step (hwatched : conn.Watched) {action : Action} (htimely : conn.Timely action)
    (hstep : conn.step action = some next) : next.Watched := by
  rcases calms_step hstep with hcalms | ⟨streamId, rfl⟩ | ⟨id, rfl⟩ | ⟨target, increment, rfl⟩ |
    ⟨initialWindow, maxFrameSize, rfl⟩
  · exact hwatched.narrow hcalms.toNarrows fun id streamId hasleep =>
      .inl (hcalms.sleeps id streamId hasleep)
  · obtain ⟨flow, hflow, rfl⟩ := Option.map_eq_some_iff.mp hstep
    have hguard := hflow
    rw [FlowControl.openStream] at hguard
    obtain ⟨hlt, rfl⟩ := Machine.of_guard hguard
    constructor
    case opened =>
      intro other hopened
      simp only [Function.update_apply] at hopened
      split at hopened
      case isTrue heq => exact heq.le
      case isFalse => exact (hwatched.opened other hopened).trans hlt.le
    case shut =>
      intro id other hasleep
      obtain ⟨hlast, hshut⟩ := hwatched.shut id other hasleep
      exact ⟨hlast.trans hlt.le, fun hopen => hshut ((open_openStream hflow hlast).mp hopen)⟩
  · obtain ⟨sender, hsender, htaken⟩ := Option.bind_eq_some_iff.mp hstep
    obtain ⟨-, rfl⟩ := Machine.of_guard htaken
    obtain ⟨hnarrows, hsleeps⟩ := conn.drained_cases id sender
    exact hwatched.narrow hnarrows hsleeps
  · cases hstep
    constructor
    case opened =>
      intro other hopened
      cases target with
      | none => exact hwatched.opened other hopened
      | some streamId =>
          simp only [FlowControl.windowUpdate, Function.update_apply] at hopened
          split at hopened
          case isTrue heq =>
            rw [Option.isSome_map, ← heq] at hopened
            exact hwatched.opened other hopened
          case isFalse => exact hwatched.opened other hopened
    case shut =>
      intro id other hasleep
      -- everybody who waited has just been woken
      simp only [sleeping, Option.bind_map] at hasleep
      obtain ⟨sender, -, hsender⟩ := Option.bind_eq_some_iff.mp hasleep
      rw [Function.comp_apply, Sender.sleeping_wakeUpdate] at hsender
      cases hsender
  · cases hstep
    constructor
    case opened =>
      intro other hopened
      rw [FlowControl.settings, Option.isSome_map] at hopened
      exact hwatched.opened other hopened
    case shut =>
      intro id other hasleep
      refine ⟨(hwatched.shut id other hasleep).1, ?_⟩
      rintro ⟨window, hwindow, hpos⟩
      obtain ⟨sender, hsender, hstream⟩ := Option.bind_eq_some_iff.mp hasleep
      rw [Sender.sleeping] at hstream
      split at hstream
      case h_1 hphase =>
        cases hstream
        have hle := htimely id sender window hsender hphase hwindow
        omega
      case h_2 => cases hstream

/-- Nobody sleeps while its window is open. -/
theorem Watched.noneAsleep (hwatched : conn.Watched) : conn.NoneAsleep :=
  fun id _ hsender hphase => (hwatched.shut id _ (sleeping_of_senders hsender hphase)).2

/-- A step in time wakes those whose window it opens. -/
theorem Watched.wakesFor (hwatched : conn.Watched) {action : Action} (htimely : conn.Timely action)
    (hstep : conn.step action = some next) : conn.WakesFor next := by
  intro id sender woken hsender hphase hshut hopen
  rcases calms_step hstep with hcalms | ⟨streamId, rfl⟩ | ⟨other, rfl⟩ | ⟨target, increment, rfl⟩ |
    ⟨initialWindow, maxFrameSize, rfl⟩
  · exact absurd (hcalms.opens _ hopen) hshut
  · obtain ⟨flow, hflow, rfl⟩ := Option.map_eq_some_iff.mp hstep
    cases woken with
    | true => rw [hsender, ← hphase]
    | false =>
        have hlast := (hwatched.shut id _ (sleeping_of_senders hsender hphase)).1
        exact absurd ((open_openStream hflow hlast).mp hopen) hshut
  · obtain ⟨drained, -, htaken⟩ := Option.bind_eq_some_iff.mp hstep
    obtain ⟨-, rfl⟩ := Machine.of_guard htaken
    exact absurd ((conn.drained_cases other drained).1.opens _ hopen) hshut
  · cases hstep
    show (conn.senders id).map Sender.wakeUpdate = _
    rw [hsender, Option.map_some, Sender.wakeUpdate, hphase]
  · cases hstep
    cases woken with
    | true => rw [hsender, ← hphase]
    | false =>
        obtain ⟨window, hwindow, hpos⟩ := hopen
        have hle := htimely id sender window hsender hphase hwindow
        omega

/-- A deadline in time strikes only where the window is shut. -/
theorem Watched.resetsShut (hwatched : conn.Watched) {action : Action}
    (htimely : conn.Timely action) (hstep : conn.step action = some next) :
    conn.ResetsShut action := by
  rintro id sender rfl hsender
  obtain ⟨found, hfound, htaken⟩ := Option.bind_eq_some_iff.mp hstep
  obtain rfl : sender = found := Option.some.inj (hsender.symm.trans hfound)
  cases hphase : sender.phase with
  | looping => simp only [senderStep, hphase, reduceCtorEq] at htaken
  | awaitingTurn window woken => simp only [senderStep, hphase, reduceCtorEq] at htaken
  | draining => exact htimely sender hsender (.inl hphase)
  | awaitingUpdate woken =>
      cases woken with
      | true => exact htimely sender hsender (.inr hphase)
      | false => exact hwatched.noneAsleep id sender hsender hphase

end Connection

/-! ## Every run -/

/-- In runs whose steps come in time nobody sleeps while its window is open, whoever waits for a
window is woken by the step that opens it, and no stream is reset at the deadline with its window
open. -/
theorem woken_in_time (conn : Connection) (hreach : connection.Reach Connection.Timely conn) :
    conn.NoneAsleep ∧ ∀ action next, conn.Timely action → conn.step action = some next →
      conn.WakesFor next ∧ conn.ResetsShut action := by
  have hwatched : conn.Watched := by
    apply hreach.invariant
    · rintro _ rfl
      exact { opened := fun streamId hopened => by cases hopened
              shut := fun id streamId hasleep => by cases hasleep }
    · exact fun _ _ _ hwatched htimely hstep => hwatched.step htimely hstep
  exact ⟨hwatched.noneAsleep, fun _ _ htimely hstep =>
    ⟨hwatched.wakesFor htimely hstep, hwatched.resetsShut htimely hstep⟩⟩

/-- A sender of five bytes finds no credit. -/
def starved : List Action :=
  [.settings 0 16384, .openStream 1, .sendHead 1, .sendBody 0 1 (ascii "hello") true, .round 0,
    .drained 0]

/-- A sender of five bytes that waits for credit. -/
def helloSender (woken : Bool) : Sender where
  streamId := 1
  remaining := ascii "hello"
  endStream := true
  phase := .awaitingUpdate woken

/-- WINDOW_UPDATE wakes it. -/
theorem woken_in_time_hello : ∃ conn next, connection.run {} starved = some conn ∧
    conn.senders 0 = some (helloSender false) ∧
      conn.step (.windowUpdate (some 1) 5) = some next ∧ next.Open 1 ∧ conn.NoneAsleep ∧
        next.senders 0 = some (helloSender true) := by
  have hrun : (connection.run {} starved).map (fun conn => (conn.senders 0,
      conn.flow.localFlowControlWindow 1, (conn.step (.windowUpdate (some 1) 5)).map (fun next =>
        next.flow.localFlowControlWindow 1))) =
      some (some (helloSender false), some 0, some (some 5)) := by decide
  obtain ⟨conn, htaken, hfinal⟩ := Option.map_eq_some_iff.mp hrun
  obtain ⟨hsender, hrest⟩ := Prod.mk.inj hfinal
  obtain ⟨hwindow, hstep⟩ := Prod.mk.inj hrest
  obtain ⟨next, hnext, hopened⟩ := Option.map_eq_some_iff.mp hstep
  have halong : connection.Along Connection.Timely {} starved := by
    refine ⟨?_, fun _ _ => ⟨trivial, fun _ _ => ⟨trivial, fun _ _ => ⟨trivial, fun _ _ =>
      ⟨trivial, fun _ _ => ⟨trivial, fun _ _ => trivial⟩⟩⟩⟩⟩⟩
    intro id sender window hnobody
    cases hnobody
  obtain ⟨hnone, hsteps⟩ := woken_in_time conn (.run (.init rfl) halong htaken)
  have hopen : next.Open 1 := ⟨5, hopened, by decide⟩
  have hshut : ¬ conn.Open 1 := by
    rintro ⟨window, hfound, hpos⟩
    obtain rfl : 0 = window := Option.some.inj (hwindow.symm.trans hfound)
    omega
  exact ⟨conn, next, htaken, hsender, hnext, hopen, hnone,
    (hsteps (.windowUpdate (some 1) 5) next trivial hnext).1 0 _ false hsender rfl hshut hopen⟩

/-- SETTINGS opens the window of a sender and does not wake it. -/
theorem woken_late : ¬ ∀ conn, connection.Reachable conn → conn.NoneAsleep ∧
    ∀ action next, conn.step action = some next → conn.WakesFor next ∧ conn.ResetsShut action := by
  intro hall
  have hrun : (connection.run {} (starved ++ [.settings 5 16384])).map (fun conn =>
      (conn.senders 0, conn.flow.localFlowControlWindow 1)) =
      some (some (helloSender false), some 5) := by decide
  obtain ⟨conn, htaken, hfinal⟩ := Option.map_eq_some_iff.mp hrun
  obtain ⟨hsender, hwindow⟩ := Prod.mk.inj hfinal
  have hnone := (hall conn (Machine.reachable_run rfl htaken)).1
  exact hnone 0 _ hsender rfl ⟨5, hwindow, by decide⟩

end Pounce.H2
