/-
# DATA frames against the send window

The loop of `create_h2_send.send` looks at the window before it awaits its turn and
cuts the chunk by that window afterwards. A frame therefore fits when the credit the
sender looked at is still there: what other streams spend, and what SETTINGS takes
back, while a sender waits for its turn must leave it its next chunk. The other
paths hand their data over whole and do not look at the window at all.

`Spares` says this of a single step. In the runs whose steps all spare the waiting
senders, every DATA frame fits; the proof carries through the run that every waiting
sender is still covered by the credit.
-/

import Pounce.H2.Connection

namespace Pounce.H2

open Pounce.Math Pounce.Math.Bytes

/-- What a sender in `await_turn` will go by when its turn comes. -/
structure Pending where
  streamId : ℕ
  /-- How much of the body is left. -/
  left : ℕ
  /-- The window it looked at. -/
  window : ℤ

/-- The sender waits for its turn. -/
def Sender.pending (sender : Sender) : Option Pending :=
  match sender.phase with
  | .awaitingTurn window _ =>
    some { streamId := sender.streamId, left := sender.remaining.length, window }
  | _ => none

/-- The credit covers the next chunk of a waiting sender, unless its stream was
closed. -/
def FlowControl.Covers (flow : FlowControl) (pending : Pending) : Prop :=
  ∀ window, flow.localFlowControlWindow pending.streamId = some window →
    min (pending.left : ℤ) (min pending.window flow.maxOutboundFrameSize) ≤ window

namespace Connection

variable (conn : Connection)

/-- What a waiting sender will go by. -/
def pending (id : ℕ) : Option Pending := (conn.senders id).bind Sender.pending

/-- The sender that a round of the loop or the end of `await_turn` lets write, and
the window it goes by. -/
def writer (id : ℕ) : Option (Sender × ℤ) :=
  match conn.senders id with
  | none => none
  | some sender =>
    if conn.scheduler.turnGranted sender.streamId then
      match sender.phase with
      | .looping =>
        match conn.flow.localFlowControlWindow sender.streamId with
        | some window => if 0 < window then some (sender, window) else none
        | none => none
      | .awaitingTurn window true => some (sender, window)
      | _ => none
    else none

/-- The credit covers the waiting senders other than the given one. -/
def CoversOthers (id : Option ℕ) (flow : FlowControl) : Prop :=
  ∀ other waiting, some other ≠ id → conn.pending other = some waiting → flow.Covers waiting

/-- There is credit for data handed over whole, and it leaves the waiting senders
their chunks. -/
def Affords (streamId : ℕ) (data : Bytes) : Prop :=
  ∀ window, conn.flow.localFlowControlWindow streamId = some window →
    data.length ≤ window ∧ data.length ≤ conn.flow.maxOutboundFrameSize ∧
      conn.CoversOthers none (conn.flow.spend streamId data.length)

/-- The step spends only credit that no waiting sender goes by, and hands over data
whole only where there is credit for it. -/
def Spares : Action → Prop
  | .round id | .turn id =>
    ∀ sender window, conn.writer id = some (sender, window) →
      conn.CoversOthers id (conn.flow.spend sender.streamId
        (sender.chunk window conn.flow.maxOutboundFrameSize).length)
  | .sendBody _ streamId body endStream => body = [] ∧ endStream → conn.Affords streamId []
  | .appError streamId => conn.Affords streamId internalServerError
  | .webSocketData streamId data endStream =>
    data ≠ [] ∨ endStream → conn.Affords streamId data
  | .settings initialWindow maxFrameSize =>
    conn.CoversOthers none (conn.flow.settings initialWindow maxFrameSize)
  | _ => True

end Connection

/-! ## What the steps leave alone -/

namespace Connection

variable (conn : Connection) (id : ℕ) (sender : Sender)

@[simp]
theorem pending_wakeTurn (streamId : ℕ) : (conn.wakeTurn streamId).pending = conn.pending := by
  funext other
  simp only [pending, wakeTurn]
  cases conn.senders other with
  | none => rfl
  | some sender =>
      simp only [Option.map_some, Option.bind_some, Sender.wakeTurn]
      split
      case h_1 window woken hphase =>
        split
        case isTrue => simp [Sender.pending, hphase]
        case isFalse => rfl
      case h_2 => rfl

/-- Waking the senders that wait for credit wakes none that waits for its turn. -/
theorem pending_wakeUpdate :
    { conn with senders := fun id => (conn.senders id).map Sender.wakeUpdate }.pending =
      conn.pending := by
  funext other
  simp only [pending]
  cases conn.senders other with
  | none => rfl
  | some sender =>
      simp only [Option.map_some, Option.bind_some, Sender.wakeUpdate]
      split
      case h_1 hphase => simp [Sender.pending, hphase]
      case h_2 => rfl

@[simp]
theorem pending_reschedule (scheduler : PriorityScheduler) :
    (conn.reschedule scheduler).pending = conn.pending := by
  simp only [reschedule]
  split
  case h_1 => rfl
  case h_2 => rw [pending_wakeTurn]; rfl

@[simp]
theorem flow_reschedule (scheduler : PriorityScheduler) :
    (conn.reschedule scheduler).flow = conn.flow := by
  simp only [reschedule]
  split <;> rfl

@[simp]
theorem handed_reschedule (scheduler : PriorityScheduler) :
    (conn.reschedule scheduler).handed = conn.handed := by
  simp only [reschedule]
  split <;> rfl

theorem pending_setSender (entry : Option Sender) (other : ℕ) :
    (conn.setSender id entry).pending other =
      if other = id then entry.bind Sender.pending else conn.pending other := by
  simp only [pending, setSender, Function.update_apply]
  split <;> rfl

@[simp]
theorem handed_leave : (conn.leave id sender).handed = conn.handed := by
  simp only [leave]
  split
  case isTrue => rw [handed_reschedule]; rfl
  case isFalse => rfl

end Connection

/-! ## The invariant -/

/-- Every frame handed over so far fits, and the credit covers every waiting sender,
the given one left out. -/
structure Sound (id : Option ℕ) (conn : Connection) : Prop where
  /-- An open stream was opened. -/
  opened : ∀ streamId, (conn.flow.streams streamId).isSome → streamId ≤ conn.flow.lastStream
  /-- A waiting sender found its window open. -/
  waiting : ∀ other pending, some other ≠ id → conn.pending other = some pending →
    pending.streamId ≤ conn.flow.lastStream ∧ 0 < pending.window
  /-- The credit covers the waiting senders. -/
  covered : conn.CoversOthers id conn.flow
  /-- The frames fit. -/
  fits : ∀ frame ∈ conn.handed, frame.Fits

namespace Sound

variable {conn next : Connection} {id : ℕ} {sender : Sender}

/-- A step that changes neither credit nor frames nor the waiting senders. -/
theorem congr {left : Option ℕ} (hsound : Sound left conn) (hflow : next.flow = conn.flow)
    (hhanded : next.handed = conn.handed) (hpending : next.pending = conn.pending) :
    Sound left next := by
  obtain ⟨hopened, hwaiting, hcovered, hfits⟩ := hsound
  refine ⟨?_, ?_, ?_, ?_⟩
  · rwa [hflow]
  · rwa [hflow, hpending]
  · rwa [Connection.CoversOthers, hflow, hpending]
  · rwa [hhanded]

theorem reschedule {left : Option ℕ} (hsound : Sound left conn) (scheduler : PriorityScheduler) :
    Sound left (conn.reschedule scheduler) := by
  apply hsound.congr <;> simp

/-- What is known of the other senders is known of all once this one does not wait. -/
theorem of_others (hsound : Sound (some id) conn) (hnone : conn.pending id = none) :
    Sound none conn := by
  have hne : ∀ other pending, conn.pending other = some pending → some other ≠ some id := by
    rintro other pending hpending heq
    obtain rfl : other = id := Option.some.inj heq
    rw [hnone] at hpending
    cases hpending
  exact { opened := hsound.opened
          waiting := fun other pending _ h => hsound.waiting other pending (hne _ _ h) h
          covered := fun other pending _ h => hsound.covered other pending (hne _ _ h) h
          fits := hsound.fits }

theorem others (hsound : Sound none conn) (left : Option ℕ) : Sound left conn where
  opened := hsound.opened
  waiting other pending _ := hsound.waiting other pending nofun
  covered other pending _ := hsound.covered other pending nofun
  fits := hsound.fits

/-- A sender is put into a phase in which it does not wait for its turn. -/
theorem setSender (hsound : Sound (some id) conn) {entry : Option Sender}
    (hnone : entry.bind Sender.pending = none) : Sound none (conn.setSender id entry) := by
  refine of_others (?_ : Sound (some id) _) ?_
  · exact { opened := hsound.opened
            waiting := fun other pending hne h => by
              rw [Connection.pending_setSender, if_neg (by simpa using hne)] at h
              exact hsound.waiting other pending hne h
            covered := fun other pending hne h => by
              rw [Connection.pending_setSender, if_neg (by simpa using hne)] at h
              exact hsound.covered other pending hne h
            fits := hsound.fits }
  · rw [Connection.pending_setSender, if_pos rfl, hnone]

theorem leave (hsound : Sound (some id) conn) : Sound none (conn.leave id sender) := by
  have hleft : Sound none (conn.setSender id none) := hsound.setSender rfl
  simp only [Connection.leave]
  split
  case isTrue => exact hleft.reschedule _
  case isFalse => exact hleft

/-- The credit may change as long as it covers the waiting senders. -/
theorem setFlow {left : Option ℕ} (hsound : Sound left conn) {flow : FlowControl}
    (hopened : ∀ streamId, (flow.streams streamId).isSome → streamId ≤ flow.lastStream)
    (hlast : conn.flow.lastStream ≤ flow.lastStream) (hcovers : conn.CoversOthers left flow) :
    Sound left { conn with flow } where
  opened := hopened
  waiting other pending hne h :=
    ⟨(hsound.waiting other pending hne h).1.trans hlast, (hsound.waiting other pending hne h).2⟩
  covered := hcovers
  fits := hsound.fits

/-- Data handed over within the credit, leaving the waiting senders theirs. -/
theorem sendData {left : Option ℕ} (hsound : Sound left conn) (streamId : ℕ) (data : Bytes)
    (endStream : Bool)
    (hcredit : data ≠ [] ∨ endStream → ∀ window,
      conn.flow.localFlowControlWindow streamId = some window → data.length ≤ window ∧
        data.length ≤ conn.flow.maxOutboundFrameSize ∧
        conn.CoversOthers left (conn.flow.spend streamId data.length)) :
    Sound left (conn.sendData streamId data endStream).1 ∧
      (conn.sendData streamId data endStream).1.pending = conn.pending := by
  simp only [Connection.sendData]
  split
  case isTrue => exact ⟨hsound, rfl⟩
  case isFalse hdata =>
    have hdata' : data ≠ [] ∨ endStream = true := by
      by_cases hnil : data = [] <;> simp_all
    cases hwindow : conn.flow.localFlowControlWindow streamId with
    | none => exact ⟨hsound, rfl⟩
    | some window =>
        obtain ⟨hle, hsize, hcovers⟩ := hcredit hdata' window hwindow
        have hspent : ∀ other, ((conn.flow.spend streamId data.length).streams other).isSome =
            (conn.flow.streams other).isSome := by
          intro other
          simp only [FlowControl.spend, Function.update_apply]
          split
          case isTrue heq => simp [heq]
          case isFalse => rfl
        simp only
        rw [if_pos ⟨hle, hsize⟩]
        refine ⟨?_, rfl⟩
        exact { opened := fun other hopen => hsound.opened other (by rwa [← hspent])
                waiting := hsound.waiting
                covered := hcovers
                fits := fun frame hmem => by
                  rcases List.mem_append.mp hmem with hold | hnew
                  · exact hsound.fits frame hold
                  · obtain rfl := List.mem_singleton.mp hnew
                    exact ⟨hle, hsize⟩ }

end Sound

/-! ## Every step keeps it -/

theorem Sender.length_chunk (sender : Sender) (window : ℤ) (maxOutboundFrameSize : ℕ) :
    (sender.chunk window maxOutboundFrameSize).length =
      min sender.remaining.length (min window.toNat maxOutboundFrameSize) := by
  rw [Sender.chunk, List.length_take]
  omega

namespace Sound

variable {conn next : Connection} {id : ℕ} {sender : Sender}

/-- A chunk cut by a window that the credit still covers. -/
theorem writeChunk (hsound : Sound none conn) {window : ℤ} (hpositive : 0 < window)
    (hcovers : conn.flow.Covers
      { streamId := sender.streamId, left := sender.remaining.length, window })
    (hspares : conn.CoversOthers id (conn.flow.spend sender.streamId
      (sender.chunk window conn.flow.maxOutboundFrameSize).length)) :
    Sound none (conn.writeChunk id sender window) := by
  have hlength := sender.length_chunk window conn.flow.maxOutboundFrameSize
  have hcredit (endStream : Bool) : Sound (some id) (conn.sendData sender.streamId
      (sender.chunk window conn.flow.maxOutboundFrameSize) endStream).1 := by
    refine ((hsound.others _).sendData _ _ _ fun _ current hcurrent => ?_).1
    have hle := hcovers current hcurrent
    simp only at hle
    exact ⟨by omega, by omega, hspares⟩
  simp only [Connection.writeChunk]
  generalize (sender.endStream && _) = isLast
  have hsent := hcredit isLast
  split
  case h_1 raised hsend =>
    rw [hsend] at hsent
    exact hsent.leave
  case h_2 sent hsend =>
    rw [hsend] at hsent
    cases sent.scheduler.markWrote sender.streamId with
    | none =>
        simp only
        split
        case isTrue => exact hsent.leave
        case isFalse => exact hsent.setSender rfl
    | some scheduler =>
        simp only
        split
        case isTrue => exact (hsent.reschedule scheduler).leave
        case isFalse => exact (hsent.reschedule scheduler).setSender rfl

/-- A round starts to wait with the window it just looked at. -/
theorem round (hsound : Sound none conn) (hsender : conn.senders id = some sender)
    (hphase : sender.phase = .looping) (hspares : conn.Spares (.round id)) :
    Sound none (conn.round id sender) := by
  simp only [Connection.round]
  cases hwindow : conn.flow.localFlowControlWindow sender.streamId with
  | none => exact (hsound.others _).leave
  | some window =>
      simp only
      split
      case isTrue => exact (hsound.others _).setSender rfl
      case isFalse hopen =>
        have hcovers : conn.flow.Covers
            { streamId := sender.streamId, left := sender.remaining.length, window } := by
          intro current hcurrent
          obtain rfl : window = current := Option.some.inj (hwindow.symm.trans hcurrent)
          exact (min_le_right _ _).trans (min_le_left _ _)
        split
        case isTrue hturn =>
          refine hsound.writeChunk (by omega) hcovers ?_
          refine hspares sender window ?_
          simp only [Connection.writer, hsender, if_pos hturn, hphase, hwindow]
          rw [if_pos (by omega)]
        case isFalse =>
          have hstream : sender.streamId ≤ conn.flow.lastStream := by
            apply hsound.opened
            simp only [FlowControl.localFlowControlWindow, Option.map_eq_some_iff] at hwindow
            obtain ⟨credit, hcredit, -⟩ := hwindow
            rw [hcredit]
            rfl
          refine { opened := hsound.opened, fits := hsound.fits, waiting := ?_, covered := ?_ }
          · intro other pending _ h
            rw [Connection.pending_setSender] at h
            split at h
            case isTrue =>
              obtain rfl := Option.some.inj h
              exact ⟨hstream, by simpa using hopen⟩
            case isFalse => exact hsound.waiting other pending nofun h
          · intro other pending _ h
            rw [Connection.pending_setSender] at h
            split at h
            case isTrue =>
              obtain rfl := Option.some.inj h
              exact hcovers
            case isFalse => exact hsound.covered other pending nofun h

/-- A woken sender writes by the window it looked at, or goes on waiting by it. -/
theorem turn (hsound : Sound none conn) (hsender : conn.senders id = some sender)
    {window : ℤ} (hphase : sender.phase = .awaitingTurn window true)
    (hspares : conn.Spares (.turn id)) :
    Sound none (if conn.scheduler.turnGranted sender.streamId then
        conn.writeChunk id sender window
      else conn.setSender id (some { sender with phase := .awaitingTurn window false })) := by
  have hpending : conn.pending id =
      some { streamId := sender.streamId, left := sender.remaining.length, window } := by
    simp [Connection.pending, hsender, Sender.pending, hphase]
  split
  case isTrue hturn =>
    refine hsound.writeChunk (hsound.waiting id _ nofun hpending).2
      (hsound.covered id _ nofun hpending) ?_
    apply hspares sender window
    simp [Connection.writer, hsender, hturn, hphase]
  case isFalse =>
    refine hsound.congr rfl rfl ?_
    funext other
    rw [Connection.pending_setSender]
    split
    case isTrue heq => rw [heq, hpending]; rfl
    case isFalse => rfl

/-- A sender that gave its turn away waits for credit or starts over. -/
theorem drained (hsound : Sound none conn) : Sound none (conn.drained id sender) := by
  have hyielded := (hsound.others (some id)).reschedule
    (conn.scheduler.unschedule sender.streamId)
  simp only [Connection.drained]
  cases conn.flow.localFlowControlWindow sender.streamId with
  | none => exact hyielded.leave
  | some window =>
      simp only
      split
      case isTrue => exact hyielded.setSender rfl
      case isFalse => exact (hyielded.reschedule _).setSender rfl

/-- Closing a stream takes no credit from the open ones. -/
theorem closeStream {left : Option ℕ} (hsound : Sound left conn) (streamId : ℕ) :
    Sound left { conn with flow := conn.flow.closeStream streamId } := by
  refine hsound.setFlow (fun other hopen => ?_) le_rfl fun other pending hne h window hwindow => ?_
  · simp only [FlowControl.closeStream, Function.update_apply] at hopen
    split at hopen
    case isTrue => cases hopen
    case isFalse => exact hsound.opened other hopen
  · simp only [FlowControl.localFlowControlWindow, FlowControl.closeStream,
      Function.update_apply] at hwindow
    split at hwindow
    case isTrue => cases hwindow
    case isFalse => exact hsound.covered other pending hne h window hwindow

/-- A new stream has no waiting sender yet. -/
theorem openStream (hsound : Sound none conn) {streamId : ℕ} {flow : FlowControl}
    (hopen : conn.flow.openStream streamId = some flow) : Sound none { conn with flow } := by
  simp only [FlowControl.openStream] at hopen
  split at hopen
  case isFalse => cases hopen
  case isTrue hnew =>
    obtain rfl := Option.some.inj hopen
    refine hsound.setFlow (fun other hisSome => ?_) hnew.le fun other pending hne h window hw => ?_
    · simp only [Function.update_apply] at hisSome
      split at hisSome
      case isTrue heq => exact heq.le
      case isFalse => exact (hsound.opened other hisSome).trans hnew.le
    · have hold := (hsound.waiting other pending hne h).1
      simp only [FlowControl.localFlowControlWindow, Function.update_apply] at hw
      rw [if_neg (by omega)] at hw
      exact hsound.covered other pending hne h window hw

/-- Credit that grows covers what it covered. -/
theorem windowUpdate (hsound : Sound none conn) (target : Option ℕ) (increment : ℕ) :
    Sound none { conn with flow := conn.flow.windowUpdate target increment } := by
  cases target with
  | none =>
      refine hsound.setFlow hsound.opened le_rfl fun other pending hne h window hw => ?_
      simp only [FlowControl.localFlowControlWindow, FlowControl.windowUpdate,
        Option.map_eq_some_iff] at hw
      obtain ⟨credit, hcredit, rfl⟩ := hw
      have hle := hsound.covered other pending hne h (min conn.flow.connection credit) (by
        rw [FlowControl.localFlowControlWindow, hcredit]
        rfl)
      simp only [FlowControl.windowUpdate]
      omega
  | some streamId =>
      refine hsound.setFlow (fun other hisSome => ?_) le_rfl fun other pending hne h window hw => ?_
      · simp only [FlowControl.windowUpdate, Function.update_apply] at hisSome
        split at hisSome
        case isTrue heq =>
          rw [Option.isSome_map] at hisSome
          exact heq ▸ hsound.opened streamId hisSome
        case isFalse => exact hsound.opened other hisSome
      · simp only [FlowControl.localFlowControlWindow, FlowControl.windowUpdate,
          Function.update_apply] at hw
        have hcovered := hsound.covered other pending hne h
        simp only [FlowControl.Covers, FlowControl.localFlowControlWindow] at hcovered
        simp only [FlowControl.windowUpdate]
        split at hw
        case isTrue heq =>
          rw [heq] at hcovered
          cases hcredit : conn.flow.streams streamId with
          | none => simp [hcredit] at hw
          | some credit =>
              simp only [hcredit, Option.map_some, Option.some.injEq, forall_eq'] at hw hcovered
              omega
        case isFalse => exact hcovered window hw

/-- An empty body takes no round of the loop; a non-empty one starts it. -/
theorem sendBody (hsound : Sound none conn) {streamId : ℕ} {body : Bytes} {endStream : Bool}
    (hspares : conn.Spares (.sendBody id streamId body endStream)) :
    Sound none (conn.sendBody id streamId body endStream) := by
  simp only [Connection.sendBody]
  split
  case isTrue hbody =>
    refine ((hsound.reschedule _).sendData _ _ _ fun hdata window hwindow => ?_).1
    rw [Connection.flow_reschedule] at hwindow ⊢
    obtain ⟨hle, hsize, hcovers⟩ := hspares ⟨hbody, by simpa using hdata⟩ window hwindow
    refine ⟨hle, hsize, ?_⟩
    rwa [Connection.CoversOthers, Connection.pending_reschedule]
  case isFalse => exact ((hsound.others _).reschedule _).setSender rfl

/-- Steps of the machine keep the invariant where they spare the waiting senders. -/
theorem step {action : Action} (hsound : Sound none conn) (hspares : conn.Spares action)
    (hstep : conn.step action = some next) : Sound none next := by
  cases action with
  | openStream streamId =>
      obtain ⟨flow, hopen, rfl⟩ := Option.map_eq_some_iff.mp hstep
      exact hsound.openStream hopen
  | setPriority streamId priority =>
      obtain rfl := Option.some.inj hstep
      exact hsound.reschedule _
  | sendHead streamId =>
      simp only [Connection.step] at hstep
      obtain ⟨-, rfl⟩ := Machine.of_guard hstep
      exact hsound.congr rfl rfl rfl
  | sendBody id streamId body endStream =>
      simp only [Connection.step] at hstep
      obtain ⟨-, rfl⟩ := Machine.of_guard hstep
      exact hsound.sendBody hspares
  | round id =>
      obtain ⟨sender, hsender, hround⟩ := Option.bind_eq_some_iff.mp hstep
      simp only [Connection.senderStep] at hround
      split at hround
      case isFalse => cases hround
      case isTrue hphase =>
        obtain rfl := Option.some.inj hround
        exact hsound.round hsender hphase hspares
  | turn id =>
      obtain ⟨sender, hsender, hturn⟩ := Option.bind_eq_some_iff.mp hstep
      simp only [Connection.senderStep] at hturn
      split at hturn
      case h_1 window hphase =>
        have hnext := hsound.turn hsender hphase hspares
        split at hturn
        case isTrue hgranted =>
          rw [if_pos hgranted] at hnext
          exact Option.some.inj hturn ▸ hnext
        case isFalse hgranted =>
          rw [if_neg hgranted] at hnext
          exact Option.some.inj hturn ▸ hnext
      case h_2 => cases hturn
  | drained id =>
      obtain ⟨sender, hsender, hdrained⟩ := Option.bind_eq_some_iff.mp hstep
      simp only [Connection.senderStep] at hdrained
      split at hdrained
      case isFalse => cases hdrained
      case isTrue =>
        obtain rfl := Option.some.inj hdrained
        exact hsound.drained
  | updated id =>
      obtain ⟨sender, hsender, hupdated⟩ := Option.bind_eq_some_iff.mp hstep
      simp only [Connection.senderStep] at hupdated
      split at hupdated
      case isFalse => cases hupdated
      case isTrue =>
        obtain rfl := Option.some.inj hupdated
        exact ((hsound.others _).reschedule _).setSender rfl
  | deadline id =>
      obtain ⟨sender, hsender, hdeadline⟩ := Option.bind_eq_some_iff.mp hstep
      have hclosed := (hsound.others (some id)).closeStream sender.streamId
      simp only [Connection.senderStep] at hdeadline
      split at hdeadline
      case h_1 =>
        obtain rfl := Option.some.inj hdeadline
        exact (hclosed.reschedule _).leave
      case h_2 =>
        obtain rfl := Option.some.inj hdeadline
        exact hclosed.leave
      case h_3 => cases hdeadline
  | cancel id =>
      obtain ⟨sender, hsender, hcancel⟩ := Option.bind_eq_some_iff.mp hstep
      simp only [Connection.senderStep] at hcancel
      split at hcancel
      case isTrue => cases hcancel
      case isFalse =>
        obtain rfl := Option.some.inj hcancel
        exact (hsound.others _).leave
  | appError streamId =>
      simp only [Connection.step] at hstep
      obtain ⟨-, rfl⟩ := Machine.of_guard hstep
      have hfailed : Sound none
          { conn with headSent := Function.update conn.headSent streamId true } :=
        hsound.congr rfl rfl rfl
      exact (hfailed.sendData _ _ _ fun _ => hspares).1
  | webSocketData streamId data endStream =>
      obtain rfl := Option.some.inj hstep
      exact (hsound.sendData _ _ _ hspares).1
  | finish streamId =>
      obtain rfl := Option.some.inj hstep
      have hremoved := hsound.reschedule (conn.scheduler.removeStream streamId)
      exact hremoved.congr rfl rfl (Connection.pending_wakeTurn _ _)
  | windowUpdate target increment =>
      obtain rfl := Option.some.inj hstep
      refine (hsound.windowUpdate target increment).congr rfl rfl ?_
      exact Connection.pending_wakeUpdate _
  | settings initialWindow maxFrameSize =>
      obtain rfl := Option.some.inj hstep
      refine hsound.setFlow (fun streamId hopen => ?_) le_rfl hspares
      rw [FlowControl.settings, Option.isSome_map] at hopen
      exact hsound.opened streamId hopen
  | reset streamId =>
      obtain rfl := Option.some.inj hstep
      exact hsound.closeStream streamId

end Sound

/-! ## Every run -/

/-- In the runs whose steps all spare the credit of the waiting senders, every DATA
frame fits the window and the frame size at the time it is handed to h2. -/
theorem handed_fits {conn : Connection} (hreach : connection.Reach Connection.Spares conn) :
    ∀ frame ∈ conn.handed, frame.Fits := by
  have hsound : Sound none conn := by
    apply hreach.invariant
    · rintro _ rfl
      exact { opened := nofun, waiting := nofun, covered := nofun, fits := nofun }
    · exact fun _ _ _ hsound hspares hstep => hsound.step hspares hstep
  exact hsound.fits

/-- A stream waits for its turn behind another one while SETTINGS takes a part of the window
back that it looked at. -/
def sparedWindow : List Action :=
  [.settings 10 16384,
    .openStream 1, .setPriority 1 {}, .sendHead 1, .sendBody 0 1 (ascii "a") false, .round 0,
    .openStream 3, .setPriority 3 {}, .sendHead 3, .sendBody 1 3 (ascii "hello") true, .round 1,
    .settings 6 16384, .sendBody 0 1 (ascii "b") true, .round 0, .turn 1]

/-- What SETTINGS and the other stream leave is enough for the stream that waits. -/
theorem spares_sparedWindow : connection.Along Connection.Spares {} sparedWindow := by
  have hsettings : ({} : Connection).Spares (.settings 10 16384) := by
    rintro other waiting - hwaiting
    cases hwaiting
  refine .cons hsettings rfl (.cons trivial rfl (.cons trivial rfl (.cons trivial rfl
    (.cons (fun hempty => absurd hempty.1 (by decide)) rfl (.cons ?_ rfl
      (.cons trivial rfl (.cons trivial rfl (.cons trivial rfl
        (.cons (fun hempty => absurd hempty.1 (by decide)) rfl (.cons ?_ rfl
          (.cons ?_ rfl (.cons (fun hempty => absurd hempty.1 (by decide)) rfl
            (.cons ?_ rfl (.cons ?_ rfl trivial))))))))))))))
  · rintro sender window - (_ | other) waiting hne hwaiting
    · exact absurd rfl hne
    · cases hwaiting
  · -- the second stream does not write yet: it is not its turn
    rintro sender window hwriter
    cases hwriter
  · rintro (_ | _ | other) waiting - hwaiting
    · cases hwaiting
    · cases hwaiting
      rintro window hwindow
      cases hwindow
      decide
    · cases hwaiting
  · rintro sender window hwriter (_ | _ | other) waiting hne hwaiting
    · exact absurd rfl hne
    · cases hwaiting
      cases hwriter
      rintro window hwindow
      cases hwindow
      decide
    · cases hwaiting
  · rintro sender window - (_ | _ | other) waiting hne hwaiting
    · cases hwaiting
    · exact absurd rfl hne
    · cases hwaiting

/-- Three frames of two streams fit. -/
theorem handed_fits_hello : ∃ conn, connection.run {} sparedWindow = some conn ∧
    conn.handed =
      [{ streamId := 1, data := ascii "a", endStream := false, window := 10,
         maxFrameSize := 16384 },
       { streamId := 1, data := ascii "b", endStream := true, window := 5,
         maxFrameSize := 16384 },
       { streamId := 3, data := ascii "hello", endStream := true, window := 6,
         maxFrameSize := 16384 }] ∧
    ∀ frame ∈ conn.handed, frame.Fits :=
  ⟨_, rfl, by decide, handed_fits (.run (.init rfl) spares_sparedWindow rfl)⟩

/-- The same, but SETTINGS takes most of the window back. -/
def staleWindow : List Action :=
  [.settings 10 16384,
    .openStream 1, .setPriority 1 {}, .sendHead 1, .sendBody 0 1 (ascii "a") false, .round 0,
    .openStream 3, .setPriority 3 {}, .sendHead 3, .sendBody 1 3 (ascii "hello") true, .round 1,
    .settings 2 16384, .sendBody 0 1 (ascii "b") true, .round 0, .turn 1]

/-- The chunk is cut by the stale window and exceeds the current one. -/
theorem staleWindow_exceeds :
    ¬ ∀ conn, connection.Reachable conn → ∀ frame ∈ conn.handed, frame.Fits := by
  intro hclaim
  have hrun : (connection.run {} staleWindow).map (·.handed) = some
      [{ streamId := 1, data := ascii "a", endStream := false, window := 10,
         maxFrameSize := 16384 },
       { streamId := 1, data := ascii "b", endStream := true, window := 1,
         maxFrameSize := 16384 },
       { streamId := 3, data := ascii "hello", endStream := true, window := 2,
         maxFrameSize := 16384 }] := by decide
  obtain ⟨conn, hconn, hhanded⟩ := Option.map_eq_some_iff.mp hrun
  have hfits := hclaim conn (Machine.reachable_run rfl hconn)
  rw [hhanded] at hfits
  exact absurd (hfits _ (List.mem_cons_of_mem _ (List.mem_cons_of_mem _ List.mem_cons_self)))
    (by decide)

end Pounce.H2
