/-
# DATA frames in their turn

A send coroutine schedules its stream, waits in `await_turn` until the scheduler picks it, writes
a chunk and goes on. Chunks are written in the order of the scheduler, and a stream is ready only
as long as it has something to write, if every stream has registered a priority, every body message
with bytes is the last one, an application sends one message at a time, and nobody whose window
has opened again is still to find out about it.

Otherwise they are not. A stream that has no priority of its own does not wait for its turn. One
that has sent a part of its body stays ready until it sends the next, and whoever has less urgent
data waits for it. The 500 of a failed application and the frames of WebSocket streams do not go
through the scheduler.

Of a send coroutine only its claim matters here: what it has to send, and whether it has given
its turn away.
-/

import Pounce.H2.SendWindow
import Pounce.Priority.Order

namespace Pounce.H2

open Pounce.Math Pounce.Math.Bytes

/-! ## What is promised -/

namespace Connection

variable (conn : Connection)

/-- A send coroutine of the stream has bytes to send. -/
def HasBytes (streamId : ℕ) : Prop :=
  ∃ (id : ℕ) (sender : Sender), conn.senders id = some sender ∧ sender.streamId = streamId ∧
    sender.remaining ≠ []

/-- The window of the stream is open. -/
def Open (streamId : ℕ) : Prop :=
  ∃ window, conn.flow.localFlowControlWindow streamId = some window ∧ 0 < window

/-- A frame with data is written by the stream that `next_stream` picks, which precedes every
other one that has bytes to send and an open window. -/
def WritesInTurn (next : Connection) : Prop :=
  ∀ frame, next.handed = conn.handed ++ [frame] → frame.data ≠ [] → frame.Fits →
    conn.scheduler.peekLocked = some frame.streamId ∧ conn.HasBytes frame.streamId ∧
      conn.Open frame.streamId ∧ ∀ other, conn.HasBytes other → conn.Open other →
        other ≠ frame.streamId → conn.scheduler.Precedes frame.streamId other

/-- The streams that are ready have bytes to send. -/
def Warranted : Prop := ∀ streamId, conn.scheduler.Ready streamId → conn.HasBytes streamId

/-- No send coroutine of the stream is in its loop. -/
def Silent (streamId : ℕ) : Prop :=
  ∀ (id : ℕ) (sender : Sender), conn.senders id = some sender → sender.streamId ≠ streamId

/-- A step that goes well. A body message with bytes is the last one, and no other is being sent
on its stream. Who writes has registered a priority, and nobody whose window is open waits for
it to open. A task ends with nothing being sent. Nothing else sends data. -/
def Mannerly : Action → Prop
  | .sendBody _ streamId body endStream => (body ≠ [] → endStream = true) ∧ conn.Silent streamId
  | .round id | .turn id => ∀ sender, conn.senders id = some sender →
      (conn.scheduler.priorities.lookup sender.streamId).isSome ∧
        ∀ (other : ℕ) (waiting : Sender) (woken : Bool), conn.senders other = some waiting →
          waiting.phase = .awaitingUpdate woken → ¬ conn.Open waiting.streamId
  | .finish streamId => conn.Silent streamId
  | .appError _ => False
  | .webSocketData _ data _ => data = []
  | _ => True

end Connection

/-! ## Claims -/

/-- What a send coroutine has to send, and whether it has given its turn away. -/
structure Claim where
  streamId : ℕ
  remaining : Bytes
  endStream : Bool
  waits : Bool

/-- The claim of a send coroutine. -/
def Sender.claim (sender : Sender) : Claim where
  streamId := sender.streamId
  remaining := sender.remaining
  endStream := sender.endStream
  waits :=
    match sender.phase with
    | .awaitingUpdate _ => true
    | _ => false

@[simp]
theorem Sender.claim_wakeTurn (streamId : ℕ) (sender : Sender) :
    (sender.wakeTurn streamId).claim = sender.claim := by
  rw [wakeTurn]
  split
  case h_1 window woken hphase =>
    split
    · simp [claim, hphase]
    · rfl
  case h_2 => rfl

@[simp]
theorem Sender.claim_wakeUpdate (sender : Sender) : sender.wakeUpdate.claim = sender.claim := by
  rw [wakeUpdate]
  split
  case h_1 woken hphase => simp [claim, hphase]
  case h_2 => rfl

/-- The claims of a connection. -/
def Connection.claims (conn : Connection) (id : ℕ) : Option Claim :=
  (conn.senders id).map Sender.claim

/-- The scheduler and the claims go together. -/
structure Claimed (scheduler : PriorityScheduler) (claims : ℕ → Option Claim) : Prop where
  filed : scheduler.Filed
  /-- Whatever is ready is claimed. -/
  owned : ∀ streamId, scheduler.Ready streamId → ∃ (id : ℕ) (claim : Claim),
    claims id = some claim ∧ claim.streamId = streamId
  /-- Whatever is claimed is ready, unless the turn was given away. -/
  held : ∀ (id : ℕ) (claim : Claim), claims id = some claim → claim.remaining ≠ [] ∧
    claim.endStream = true ∧ (claim.waits = false → scheduler.Ready claim.streamId)
  distinct : ∀ (id other : ℕ) (claim rival : Claim), claims id = some claim →
    claims other = some rival → claim.streamId = rival.streamId → id = other

namespace Claimed

variable {scheduler next : PriorityScheduler} {claims : ℕ → Option Claim} {id : ℕ} {claim : Claim}

/-- The scheduler changes, but not what is ready. -/
theorem congr (hclaimed : Claimed scheduler claims) (hfiled : next.Filed)
    (hready : ∀ streamId, next.Ready streamId ↔ scheduler.Ready streamId) :
    Claimed next claims where
  filed := hfiled
  owned streamId hisReady := hclaimed.owned streamId ((hready streamId).mp hisReady)
  held other rival hrival := by
    obtain ⟨hbytes, hend, hheld⟩ := hclaimed.held other rival hrival
    exact ⟨hbytes, hend, fun hwaits => (hready _).mpr (hheld hwaits)⟩
  distinct := hclaimed.distinct

/-- Another claim of the same stream is the same. -/
theorem eq_of_streamId (hclaimed : Claimed scheduler claims) (hclaim : claims id = some claim)
    {other : ℕ} {rival : Claim} (hne : other ≠ id) (hrival : claims other = some rival) :
    rival.streamId ≠ claim.streamId :=
  fun hsame => hne (hclaimed.distinct other id rival claim hrival hclaim hsame)

variable (claim) in
/-- A message is begun. -/
theorem begin (hclaimed : Claimed scheduler claims)
    (hsilent : ∀ (other : ℕ) (rival : Claim), claims other = some rival →
      rival.streamId ≠ claim.streamId)
    (hnone : claims id = none) (hbytes : claim.remaining ≠ []) (hend : claim.endStream = true) :
    Claimed (scheduler.schedule claim.streamId) (Function.update claims id (some claim)) := by
  constructor
  case filed => exact hclaimed.filed.schedule claim.streamId
  case owned =>
    intro streamId hready
    rcases PriorityScheduler.ready_schedule.mp hready with rfl | hold
    · exact ⟨id, claim, Function.update_self .., rfl⟩
    · obtain ⟨other, rival, hrival, hstream⟩ := hclaimed.owned streamId hold
      refine ⟨other, rival, ?_, hstream⟩
      rw [Function.update_of_ne, hrival]
      rintro rfl
      cases hnone.symm.trans hrival
  case held =>
    intro other rival hrival
    rw [Function.update_apply] at hrival
    split at hrival
    case isTrue =>
      cases hrival
      exact ⟨hbytes, hend, fun _ => PriorityScheduler.ready_schedule.mpr (.inl rfl)⟩
    case isFalse =>
      obtain ⟨hleft, hlast, hheld⟩ := hclaimed.held other rival hrival
      exact ⟨hleft, hlast, fun hwaits => PriorityScheduler.ready_schedule.mpr (.inr (hheld hwaits))⟩
  case distinct =>
    intro first second one two hone htwo hsame
    rw [Function.update_apply] at hone htwo
    split at hone
    case isTrue hfirst =>
      split at htwo
      case isTrue hsecond => exact hfirst.trans hsecond.symm
      case isFalse =>
        cases hone
        exact absurd hsame.symm (hsilent second two htwo)
    case isFalse =>
      split at htwo
      case isTrue =>
        cases htwo
        exact absurd hsame (hsilent first one hone)
      case isFalse => exact hclaimed.distinct first second one two hone htwo hsame

/-- A send coroutine leaves its loop. -/
theorem leave (hclaimed : Claimed scheduler claims) (hclaim : claims id = some claim) :
    Claimed (scheduler.unschedule claim.streamId) (Function.update claims id none) := by
  have hkept {other : ℕ} {rival : Claim} (hrival : Function.update claims id none other =
      some rival) : other ≠ id ∧ claims other = some rival := by
    rw [Function.update_apply] at hrival
    split at hrival
    case isTrue => cases hrival
    case isFalse hne => exact ⟨hne, hrival⟩
  constructor
  case filed => exact hclaimed.filed.unschedule claim.streamId
  case owned =>
    intro streamId hready
    obtain ⟨hne, hold⟩ := hclaimed.filed.ready_unschedule.mp hready
    obtain ⟨other, rival, hrival, rfl⟩ := hclaimed.owned streamId hold
    refine ⟨other, rival, ?_, rfl⟩
    rw [Function.update_of_ne, hrival]
    rintro rfl
    cases hclaim.symm.trans hrival
    exact hne rfl
  case held =>
    intro other rival hrival
    obtain ⟨hne, hrival⟩ := hkept hrival
    obtain ⟨hleft, hlast, hheld⟩ := hclaimed.held other rival hrival
    refine ⟨hleft, hlast, fun hwaits => hclaimed.filed.ready_unschedule.mpr ⟨?_, hheld hwaits⟩⟩
    exact hclaimed.eq_of_streamId hclaim hne hrival
  case distinct =>
    intro first second one two hone htwo
    exact hclaimed.distinct first second one two (hkept hone).2 (hkept htwo).2

/-- A send coroutine goes on with what it has left. -/
theorem change (hclaimed : Claimed scheduler claims) (hclaim : claims id = some claim)
    {changed : Claim} (hstream : changed.streamId = claim.streamId)
    (hbytes : changed.remaining ≠ []) (hend : changed.endStream = claim.endStream)
    (hready : ∀ other, next.Ready other ↔
      other = claim.streamId ∧ changed.waits = false ∨
        other ≠ claim.streamId ∧ scheduler.Ready other)
    (hfiled : next.Filed) : Claimed next (Function.update claims id (some changed)) := by
  constructor
  case filed => exact hfiled
  case owned =>
    intro streamId hisReady
    rcases (hready streamId).mp hisReady with ⟨rfl, -⟩ | ⟨hne, hold⟩
    · exact ⟨id, changed, Function.update_self .., hstream⟩
    · obtain ⟨other, rival, hrival, rfl⟩ := hclaimed.owned streamId hold
      refine ⟨other, rival, ?_, rfl⟩
      rw [Function.update_of_ne, hrival]
      rintro rfl
      cases hclaim.symm.trans hrival
      exact hne rfl
  case held =>
    intro other rival hrival
    rw [Function.update_apply] at hrival
    split at hrival
    case isTrue =>
      cases hrival
      refine ⟨hbytes, hend.trans (hclaimed.held id claim hclaim).2.1, fun hwaits => ?_⟩
      exact (hready _).mpr (.inl ⟨hstream, hwaits⟩)
    case isFalse hne =>
      obtain ⟨hleft, hlast, hheld⟩ := hclaimed.held other rival hrival
      refine ⟨hleft, hlast, fun hwaits => (hready _).mpr (.inr ⟨?_, hheld hwaits⟩)⟩
      exact hclaimed.eq_of_streamId hclaim hne hrival
  case distinct =>
    intro first second one two hone htwo hsame
    rw [Function.update_apply] at hone htwo
    split at hone
    case isTrue hfirst =>
      cases hone
      split at htwo
      case isTrue hsecond => exact hfirst.trans hsecond.symm
      case isFalse hne =>
        exact absurd (hsame.symm.trans hstream) (hclaimed.eq_of_streamId hclaim hne htwo)
    case isFalse hne =>
      split at htwo
      case isTrue =>
        cases htwo
        exact absurd (hsame.trans hstream) (hclaimed.eq_of_streamId hclaim hne hone)
      case isFalse => exact hclaimed.distinct first second one two hone htwo hsame

/-- What has not given its turn away goes on without doing so. -/
theorem goOn (hclaimed : Claimed scheduler claims) (hclaim : claims id = some claim)
    (hwaits : claim.waits = false) {changed : Claim} (hstream : changed.streamId = claim.streamId)
    (hbytes : changed.remaining ≠ []) (hend : changed.endStream = claim.endStream)
    (hstays : changed.waits = false) :
    Claimed scheduler (Function.update claims id (some changed)) := by
  apply hclaimed.change hclaim hstream hbytes hend _ hclaimed.filed
  intro other
  by_cases hsame : other = claim.streamId
  case pos =>
    rw [hsame]
    exact iff_of_true ((hclaimed.held id claim hclaim).2.2 hwaits) (.inl ⟨rfl, hstays⟩)
  case neg => simp [hsame]

/-- A stream nobody claims is not ready. -/
theorem not_ready (hclaimed : Claimed scheduler claims) {streamId : ℕ}
    (hsilent : ∀ (other : ℕ) (rival : Claim), claims other = some rival →
      rival.streamId ≠ streamId) : ¬ scheduler.Ready streamId := by
  intro hready
  obtain ⟨other, rival, hrival, hstream⟩ := hclaimed.owned streamId hready
  exact hsilent other rival hrival hstream

end Claimed

/-! ## Every step keeps them together -/

namespace Connection

variable (conn : Connection) (id : ℕ) (sender : Sender)

@[simp]
theorem claims_wakeTurn (streamId : ℕ) : (conn.wakeTurn streamId).claims = conn.claims := by
  funext other
  rw [claims, wakeTurn, claims, Option.map_map]
  congr 1
  funext sender
  exact sender.claim_wakeTurn streamId

@[simp]
theorem claims_reschedule (scheduler : PriorityScheduler) :
    (conn.reschedule scheduler).claims = conn.claims := by
  rw [reschedule]
  split
  case h_1 => rfl
  case h_2 => rw [claims_wakeTurn]; rfl

@[simp]
theorem scheduler_reschedule (scheduler : PriorityScheduler) :
    (conn.reschedule scheduler).scheduler = scheduler := by
  rw [reschedule]
  split <;> rfl

@[simp]
theorem claims_setSender (entry : Option Sender) : (conn.setSender id entry).claims =
    Function.update conn.claims id (entry.map Sender.claim) := by
  funext other
  simp only [claims, setSender, Function.update_apply]
  split <;> rfl

@[simp]
theorem scheduler_setSender (entry : Option Sender) :
    (conn.setSender id entry).scheduler = conn.scheduler := rfl

@[simp]
theorem handed_setSender (entry : Option Sender) :
    (conn.setSender id entry).handed = conn.handed := rfl

/-- To hand data over changes nobody's claim. -/
theorem sendData_keeps (streamId : ℕ) (data : Bytes) (endStream : Bool) :
    (conn.sendData streamId data endStream).1.claims = conn.claims ∧
      (conn.sendData streamId data endStream).1.scheduler = conn.scheduler := by
  simp only [sendData]
  split
  · exact ⟨rfl, rfl⟩
  · split
    · exact ⟨rfl, rfl⟩
    · split
      · exact ⟨rfl, rfl⟩
      · exact ⟨rfl, rfl⟩

variable {conn} {id} {sender} {next : Connection}

variable (conn) in
/-- The scheduler and the send coroutines go together. -/
def Orderly : Prop := Claimed conn.scheduler conn.claims

/-- A connection with the same claims and the same scheduler. -/
theorem Orderly.congr (horderly : conn.Orderly) (hclaims : next.claims = conn.claims)
    (hscheduler : next.scheduler = conn.scheduler) : next.Orderly := by
  rw [Orderly, hclaims, hscheduler]
  exact horderly

/-- The claim of a send coroutine. -/
theorem claims_of_senders (hsender : conn.senders id = some sender) :
    conn.claims id = some sender.claim := by
  rw [claims, hsender, Option.map_some]

/-- Nobody claims a silent stream. -/
theorem Silent.claims {streamId : ℕ} (hsilent : conn.Silent streamId) (other : ℕ) (rival : Claim)
    (hrival : conn.claims other = some rival) : rival.streamId ≠ streamId := by
  obtain ⟨sender, hsender, rfl⟩ := Option.map_eq_some_iff.mp hrival
  exact hsilent other sender hsender

/-- A send coroutine leaves its loop. -/
theorem Orderly.leave (horderly : conn.Orderly) (hclaim : conn.claims id = some sender.claim) :
    (conn.leave id sender).Orderly := by
  have hend : sender.endStream = true := (horderly.held id _ hclaim).2.1
  rw [Orderly, Connection.leave, if_pos hend, scheduler_reschedule, claims_reschedule,
    claims_setSender]
  exact Claimed.leave horderly hclaim

/-- A send coroutine that has its turn goes on in another phase. -/
theorem Orderly.setSender (horderly : conn.Orderly) (hclaim : conn.claims id = some sender.claim)
    (hwaits : sender.claim.waits = false) {remaining : Bytes} {phase : Phase}
    (hbytes : remaining ≠ []) (hstays : ∀ woken, phase ≠ .awaitingUpdate woken) :
    (conn.setSender id (some { sender with remaining, phase })).Orderly := by
  rw [Orderly, claims_setSender]
  apply Claimed.goOn horderly hclaim hwaits
  · rfl
  · exact hbytes
  · rfl
  · cases phase with
    | awaitingUpdate woken => exact absurd rfl (hstays woken)
    | looping => rfl
    | awaitingTurn window woken => rfl
    | draining => rfl

/-- A send coroutine writes a chunk. -/
theorem Orderly.writeChunk (horderly : conn.Orderly) (hsender : conn.senders id = some sender)
    (hwaits : sender.claim.waits = false) (window : ℤ) :
    (conn.writeChunk id sender window).Orderly := by
  have hclaim := claims_of_senders hsender
  rw [Connection.writeChunk]
  generalize hlast : (sender.endStream && _) = isLast
  have hkeeps := conn.sendData_keeps sender.streamId
    (sender.chunk window conn.flow.maxOutboundFrameSize) isLast
  split
  case h_1 raised hsend =>
    rw [hsend] at hkeeps
    have hraised : raised.Orderly := horderly.congr hkeeps.1 hkeeps.2
    exact hraised.leave (by rw [hkeeps.1, hclaim])
  case h_2 sent hsend =>
    rw [hsend] at hkeeps
    have hsent : sent.Orderly := horderly.congr hkeeps.1 hkeeps.2
    have hsame : sent.claims id = some sender.claim := by rw [hkeeps.1, hclaim]
    cases hmark : sent.scheduler.markWrote sender.streamId with
    | none =>
        simp only
        split
        case isTrue => exact hsent.leave hsame
        case isFalse hbytes => exact hsent.setSender hsame hwaits hbytes fun _ => by simp
    | some scheduler =>
        have hrotated : (sent.reschedule scheduler).Orderly := by
          rw [Orderly, scheduler_reschedule, claims_reschedule]
          exact Claimed.congr hsent (hsent.filed.markWrote hmark) fun _ =>
            PriorityScheduler.ready_markWrote hmark
        have hkept : (sent.reschedule scheduler).claims id = some sender.claim := by
          rw [claims_reschedule, hsame]
        simp only
        split
        case isTrue => exact hrotated.leave hkept
        case isFalse hbytes => exact hrotated.setSender hkept hwaits hbytes fun _ => by simp

/-- A round of the loop. -/
theorem Orderly.round (horderly : conn.Orderly) (hsender : conn.senders id = some sender)
    (hphase : sender.phase = .looping) : (conn.round id sender).Orderly := by
  have hclaim := claims_of_senders hsender
  have hwaits : sender.claim.waits = false := by simp only [Sender.claim, hphase]
  have hbytes : sender.remaining ≠ [] := (horderly.held id _ hclaim).1
  rw [Connection.round]
  split
  case h_1 => exact horderly.leave hclaim
  case h_2 window hwindow =>
    split
    · exact horderly.setSender hclaim hwaits hbytes fun _ => by simp
    split
    · exact horderly.writeChunk hsender hwaits window
    · exact horderly.setSender hclaim hwaits hbytes fun _ => by simp

/-- A send coroutine that has given its turn away leaves its loop. -/
theorem Orderly.leave_yielded (horderly : conn.Orderly)
    (hclaim : conn.claims id = some sender.claim) :
    ((conn.reschedule (conn.scheduler.unschedule sender.streamId)).leave id sender).Orderly := by
  have hend : sender.endStream = true := (horderly.held id _ hclaim).2.1
  have hfiled := Claimed.filed horderly
  have hleft : Claimed (conn.scheduler.unschedule sender.streamId)
      (Function.update conn.claims id none) := Claimed.leave horderly hclaim
  rw [Orderly, Connection.leave, if_pos hend, scheduler_reschedule, claims_reschedule,
    scheduler_setSender, scheduler_reschedule, claims_setSender, claims_reschedule]
  apply hleft.congr
  · exact hleft.filed.unschedule sender.streamId
  · intro other
    rw [hleft.filed.ready_unschedule, hfiled.ready_unschedule]
    exact ⟨And.right, fun hboth => ⟨hboth.1, hboth⟩⟩

/-- A send coroutine goes on after the drain. -/
theorem Orderly.drained (horderly : conn.Orderly) (hsender : conn.senders id = some sender) :
    (conn.drained id sender).Orderly := by
  have hclaim := claims_of_senders hsender
  have hbytes : sender.remaining ≠ [] := (horderly.held id _ hclaim).1
  have hfiled := Claimed.filed horderly
  rw [Connection.drained]
  split
  case h_1 => exact horderly.leave_yielded hclaim
  case h_2 window hwindow =>
    split
    case isTrue =>
      rw [Orderly, scheduler_setSender, scheduler_reschedule, claims_setSender,
        claims_reschedule]
      apply Claimed.change horderly hclaim
      · rfl
      · exact hbytes
      · rfl
      · intro other
        rw [hfiled.ready_unschedule]
        simp [Sender.claim]
      · exact hfiled.unschedule sender.streamId
    case isFalse =>
      rw [Orderly, scheduler_setSender, scheduler_reschedule, scheduler_reschedule,
        claims_setSender, claims_reschedule, claims_reschedule]
      apply Claimed.change horderly hclaim
      · rfl
      · exact hbytes
      · rfl
      · intro other
        rw [PriorityScheduler.ready_schedule, hfiled.ready_unschedule]
        by_cases hsame : other = sender.streamId <;> simp [Sender.claim, hsame]
      · exact (hfiled.unschedule sender.streamId).schedule sender.streamId

/-- A send coroutine goes on after its window has changed. -/
theorem Orderly.updated (horderly : conn.Orderly) (hsender : conn.senders id = some sender) :
    ((conn.reschedule (conn.scheduler.schedule sender.streamId)).setSender id
      (some { sender with phase := .looping })).Orderly := by
  have hclaim := claims_of_senders hsender
  rw [Orderly, scheduler_setSender, scheduler_reschedule, claims_setSender, claims_reschedule]
  apply Claimed.change horderly hclaim
  · rfl
  · exact (horderly.held id _ hclaim).1
  · rfl
  · intro other
    rw [PriorityScheduler.ready_schedule]
    by_cases hsame : other = sender.streamId <;> simp [Sender.claim, hsame]
  · exact (Claimed.filed horderly).schedule sender.streamId

/-- A body message is sent. -/
theorem Orderly.sendBody (horderly : conn.Orderly) {streamId : ℕ} {body : Bytes}
    {endStream : Bool} (hnone : conn.senders id = none)
    (hend : body ≠ [] → endStream = true) (hsilent : conn.Silent streamId) :
    (conn.sendBody id streamId body endStream).Orderly := by
  rw [Connection.sendBody]
  split
  case isTrue =>
    have hidle : (conn.reschedule (conn.scheduler.unschedule streamId)).Orderly := by
      rw [Orderly, scheduler_reschedule, claims_reschedule]
      apply Claimed.congr horderly
      · exact (Claimed.filed horderly).unschedule streamId
      · intro other
        rw [(Claimed.filed horderly).ready_unschedule]
        refine ⟨And.right, fun hready => ⟨?_, hready⟩⟩
        rintro rfl
        exact Claimed.not_ready horderly hsilent.claims hready
    obtain ⟨hclaims, hscheduler⟩ := (conn.reschedule (conn.scheduler.unschedule
      streamId)).sendData_keeps streamId [] endStream
    exact hidle.congr hclaims hscheduler
  case isFalse hbytes =>
    rw [Orderly, scheduler_setSender, scheduler_reschedule, claims_setSender,
      claims_reschedule, Option.map_some]
    have hfree : conn.claims id = none := by rw [claims, hnone, Option.map_none]
    exact Claimed.begin { streamId, remaining := body, endStream, waits := false } horderly
      hsilent.claims hfree hbytes (hend hbytes)

/-- The step of a send coroutine. -/
theorem Orderly.senderStep (horderly : conn.Orderly) (hsender : conn.senders id = some sender)
    {action : Action} (hstep : conn.senderStep id sender action = some next) : next.Orderly := by
  have hclaim := claims_of_senders hsender
  rw [Connection.senderStep.eq_def] at hstep
  split at hstep
  case h_1 =>
    obtain ⟨hphase, rfl⟩ := Machine.of_guard hstep
    exact horderly.round hsender hphase
  case h_2 =>
    split at hstep
    case h_1 window hphase =>
      have hwaits : sender.claim.waits = false := by simp only [Sender.claim, hphase]
      split at hstep
      case isTrue =>
        cases hstep
        exact horderly.writeChunk hsender hwaits window
      case isFalse =>
        cases hstep
        exact horderly.setSender hclaim hwaits (horderly.held id _ hclaim).1 fun _ => by simp
    case h_2 => cases hstep
  case h_3 =>
    obtain ⟨-, rfl⟩ := Machine.of_guard hstep
    exact horderly.drained hsender
  case h_4 =>
    obtain ⟨-, rfl⟩ := Machine.of_guard hstep
    exact horderly.updated hsender
  case h_5 =>
    have hclosed : ({ conn with flow := conn.flow.closeStream sender.streamId } :
        Connection).Orderly := horderly
    split at hstep
    case h_1 =>
      cases hstep
      exact hclosed.leave_yielded hclaim
    case h_2 =>
      cases hstep
      exact hclosed.leave hclaim
    case h_3 => cases hstep
  case h_6 =>
    split at hstep
    case isTrue => cases hstep
    case isFalse =>
      cases hstep
      exact horderly.leave hclaim
  case h_7 => cases hstep

/-- Every step that goes well keeps the scheduler and the claims together. -/
theorem Orderly.step (horderly : conn.Orderly) {action : Action}
    (hmannerly : conn.Mannerly action) (hstep : conn.step action = some next) :
    next.Orderly := by
  have hsenders {id : ℕ} (hbind : ((conn.senders id).bind fun sender =>
      conn.senderStep id sender action) = some next) : next.Orderly := by
    obtain ⟨sender, hsender, htaken⟩ := Option.bind_eq_some_iff.mp hbind
    exact horderly.senderStep hsender htaken
  cases action with
  | openStream streamId =>
      obtain ⟨flow, -, rfl⟩ := Option.map_eq_some_iff.mp hstep
      exact horderly
  | setPriority streamId priority =>
      cases hstep
      rw [Orderly, scheduler_reschedule, claims_reschedule]
      exact Claimed.congr horderly ((Claimed.filed horderly).setPriority streamId priority)
        fun _ => (Claimed.filed horderly).ready_setPriority
  | sendHead streamId =>
      obtain ⟨-, rfl⟩ := Machine.of_guard hstep
      exact horderly
  | sendBody id streamId body endStream =>
      obtain ⟨⟨-, hnone⟩, rfl⟩ := Machine.of_guard hstep
      exact horderly.sendBody hnone hmannerly.1 hmannerly.2
  | round id => exact hsenders hstep
  | turn id => exact hsenders hstep
  | drained id => exact hsenders hstep
  | updated id => exact hsenders hstep
  | deadline id => exact hsenders hstep
  | cancel id => exact hsenders hstep
  | appError streamId => exact absurd hmannerly id
  | webSocketData streamId data endStream =>
      cases hstep
      obtain ⟨hclaims, hscheduler⟩ := conn.sendData_keeps streamId data endStream
      exact horderly.congr hclaims hscheduler
  | finish streamId =>
      cases hstep
      rw [Orderly, claims_wakeTurn, claims_reschedule]
      show Claimed (conn.reschedule _).scheduler _
      rw [scheduler_reschedule]
      apply Claimed.congr horderly
      · exact (Claimed.filed horderly).removeStream streamId
      · intro other
        rw [(Claimed.filed horderly).ready_removeStream]
        refine ⟨And.right, fun hready => ⟨?_, hready⟩⟩
        rintro rfl
        exact Claimed.not_ready horderly (Silent.claims hmannerly) hready
  | windowUpdate target increment =>
      cases hstep
      apply horderly.congr
      · funext other
        rw [claims, claims, Option.map_map]
        congr 1
        funext sender
        exact sender.claim_wakeUpdate
      · rfl
  | settings initialWindow maxFrameSize =>
      cases hstep
      exact horderly
  | reset streamId =>
      cases hstep
      exact horderly

/-! ## Writing -/

/-- What is handed over by `sendData`. -/
theorem handed_sendData (conn : Connection) (streamId : ℕ) (data : Bytes) (endStream : Bool) :
    (conn.sendData streamId data endStream).1.handed = conn.handed ∨
      ∃ window, conn.flow.localFlowControlWindow streamId = some window ∧
        (conn.sendData streamId data endStream).1.handed = conn.handed ++
          [{ streamId, data, endStream, window,
             maxFrameSize := conn.flow.maxOutboundFrameSize }] := by
  simp only [sendData]
  split
  · exact .inl rfl
  split
  case h_1 => exact .inl rfl
  case h_2 window hwindow =>
    refine .inr ⟨window, hwindow, ?_⟩
    split
    · rfl
    · rfl

/-- A sender that writes hands over one frame of its stream, or none. -/
theorem handed_writeChunk (conn : Connection) (id : ℕ) (sender : Sender) (window : ℤ) :
    (conn.writeChunk id sender window).handed = conn.handed ∨
      ∃ frame, (conn.writeChunk id sender window).handed = conn.handed ++ [frame] ∧
        frame.streamId = sender.streamId ∧
          conn.flow.localFlowControlWindow sender.streamId = some frame.window := by
  rw [Connection.writeChunk]
  generalize (sender.endStream && _) = isLast
  have hhanded := conn.handed_sendData sender.streamId
    (sender.chunk window conn.flow.maxOutboundFrameSize) isLast
  have hgives {given : Connection} (hsame : given.handed = (conn.sendData sender.streamId
      (sender.chunk window conn.flow.maxOutboundFrameSize) isLast).1.handed) :
      given.handed = conn.handed ∨ ∃ frame, given.handed = conn.handed ++ [frame] ∧
        frame.streamId = sender.streamId ∧
          conn.flow.localFlowControlWindow sender.streamId = some frame.window := by
    rw [hsame]
    rcases hhanded with hnothing | ⟨found, hfound, heq⟩
    · exact .inl hnothing
    · exact .inr ⟨_, heq, rfl, hfound⟩
  split
  case h_1 raised hsend =>
    apply hgives
    rw [handed_leave, hsend]
  case h_2 sent hsend =>
    apply hgives
    rw [hsend]
    cases sent.scheduler.markWrote sender.streamId with
    | none =>
        simp only
        split
        · exact handed_leave sent id sender
        · rfl
    | some scheduler =>
        simp only
        split
        · rw [handed_leave, handed_reschedule]
        · exact handed_reschedule sent scheduler

/-- A frame that fits and carries data needs an open window. -/
theorem open_of_fits {streamId : ℕ} {frame : DataFrame} (hdata : frame.data ≠ [])
    (hfits : frame.Fits)
    (hwindow : conn.flow.localFlowControlWindow streamId = some frame.window) :
    conn.Open streamId := by
  refine ⟨frame.window, hwindow, ?_⟩
  have hlength : 0 < frame.data.length := List.length_pos_of_ne_nil hdata
  have hfit := hfits.1
  omega

/-- A stream that has its turn precedes everybody who could write. -/
theorem Orderly.turn (horderly : conn.Orderly) (hsender : conn.senders id = some sender)
    (hregistered : (conn.scheduler.priorities.lookup sender.streamId).isSome)
    (hgranted : conn.scheduler.turnGranted sender.streamId = true)
    (hnobody : ∀ (other : ℕ) (waiting : Sender) (woken : Bool),
      conn.senders other = some waiting → waiting.phase = .awaitingUpdate woken →
        ¬ conn.Open waiting.streamId) :
    conn.scheduler.peekLocked = some sender.streamId ∧ conn.HasBytes sender.streamId ∧
      ∀ other, conn.HasBytes other → conn.Open other → other ≠ sender.streamId →
        conn.scheduler.Precedes sender.streamId other := by
  have hpeek : conn.scheduler.peekLocked = some sender.streamId := by
    obtain ⟨priority, hpriority⟩ := Option.isSome_iff_exists.mp hregistered
    rw [PriorityScheduler.turnGranted, hpriority, Option.isNone_some, Bool.false_or] at hgranted
    exact of_decide_eq_true hgranted
  refine ⟨hpeek, ⟨id, sender, hsender, rfl, ?_⟩, ?_⟩
  · exact (horderly.held id _ (claims_of_senders hsender)).1
  · rintro other ⟨index, waiting, hwaiting, rfl, hbytes⟩ hopen hne
    apply (horderly.filed.precedes_of_peekLocked hpeek).2 _ _ hne
    apply (horderly.held index _ (claims_of_senders hwaiting)).2.2
    cases hphase : waiting.phase with
    | awaitingUpdate woken => exact absurd hopen (hnobody index waiting woken hwaiting hphase)
    | looping => simp only [Sender.claim, hphase]
    | awaitingTurn window woken => simp only [Sender.claim, hphase]
    | draining => simp only [Sender.claim, hphase]

/-- Where nothing is handed over nothing is written. -/
theorem writesInTurn_of_eq (hsame : next.handed = conn.handed) : conn.WritesInTurn next := by
  intro frame hframe
  have hlength := congrArg List.length (hsame.symm.trans hframe)
  rw [List.length_append, List.length_singleton] at hlength
  omega

/-- A frame without data is not counted. -/
theorem writesInTurn_of_empty {streamId : ℕ} {endStream : Bool} {other : Connection}
    (hother : other.handed = conn.handed) :
    conn.WritesInTurn (other.sendData streamId [] endStream).1 := by
  rcases other.handed_sendData streamId [] endStream with hsame | ⟨window, -, hhanded⟩
  · exact writesInTurn_of_eq (hsame.trans hother)
  · intro frame hframe hdata
    rw [hhanded, hother] at hframe
    have hlast := List.append_cancel_left hframe
    cases hlast
    exact absurd rfl hdata

/-- A sender that has its turn writes in its turn. -/
theorem Orderly.writesInTurn (horderly : conn.Orderly) (hsender : conn.senders id = some sender)
    (hregistered : (conn.scheduler.priorities.lookup sender.streamId).isSome)
    (hgranted : conn.scheduler.turnGranted sender.streamId = true)
    (hnobody : ∀ (other : ℕ) (waiting : Sender) (woken : Bool),
      conn.senders other = some waiting → waiting.phase = .awaitingUpdate woken →
        ¬ conn.Open waiting.streamId) (window : ℤ) :
    conn.WritesInTurn (conn.writeChunk id sender window) := by
  rcases conn.handed_writeChunk id sender window with hsame | ⟨found, hhanded, hstream, hwindow⟩
  · exact writesInTurn_of_eq hsame
  · intro frame hframe hdata hfits
    obtain rfl : found = frame :=
      List.singleton_inj.mp (List.append_cancel_left (hhanded.symm.trans hframe))
    obtain ⟨hpeek, hbytes, hprecedes⟩ := horderly.turn hsender hregistered hgranted hnobody
    rw [hstream]
    exact ⟨hpeek, hbytes, open_of_fits hdata hfits hwindow, hprecedes⟩

/-- Every step that goes well writes in turn. -/
theorem Orderly.step_writes (horderly : conn.Orderly) {action : Action}
    (hmannerly : conn.Mannerly action) (hstep : conn.step action = some next) :
    conn.WritesInTurn next := by
  cases action with
  | openStream streamId =>
      obtain ⟨flow, -, rfl⟩ := Option.map_eq_some_iff.mp hstep
      exact writesInTurn_of_eq rfl
  | setPriority streamId priority =>
      cases hstep
      exact writesInTurn_of_eq (conn.handed_reschedule _)
  | sendHead streamId =>
      obtain ⟨-, rfl⟩ := Machine.of_guard hstep
      exact writesInTurn_of_eq rfl
  | sendBody id streamId body endStream =>
      obtain ⟨-, rfl⟩ := Machine.of_guard hstep
      rw [Connection.sendBody]
      split
      · exact writesInTurn_of_empty (conn.handed_reschedule _)
      · apply writesInTurn_of_eq
        rw [handed_setSender, handed_reschedule]
  | round id =>
      obtain ⟨sender, hsender, htaken⟩ := Option.bind_eq_some_iff.mp hstep
      obtain ⟨hregistered, hnobody⟩ := hmannerly sender hsender
      obtain ⟨-, rfl⟩ := Machine.of_guard htaken
      rw [Connection.round]
      split
      case h_1 => exact writesInTurn_of_eq (conn.handed_leave id sender)
      case h_2 window hwindow =>
        split
        · exact writesInTurn_of_eq rfl
        split
        case isTrue hgranted =>
          exact horderly.writesInTurn hsender hregistered hgranted hnobody window
        case isFalse => exact writesInTurn_of_eq rfl
  | turn id =>
      obtain ⟨sender, hsender, htaken⟩ := Option.bind_eq_some_iff.mp hstep
      obtain ⟨hregistered, hnobody⟩ := hmannerly sender hsender
      simp only [Connection.senderStep] at htaken
      split at htaken
      case h_1 window hphase =>
        split at htaken
        case isTrue hgranted =>
          cases htaken
          exact horderly.writesInTurn hsender hregistered hgranted hnobody window
        case isFalse =>
          cases htaken
          exact writesInTurn_of_eq rfl
      case h_2 => cases htaken
  | drained id =>
      obtain ⟨sender, hsender, htaken⟩ := Option.bind_eq_some_iff.mp hstep
      obtain ⟨-, rfl⟩ := Machine.of_guard htaken
      apply writesInTurn_of_eq
      rw [Connection.drained]
      split
      case h_1 => rw [handed_leave, handed_reschedule]
      case h_2 =>
        split
        · rw [handed_setSender, handed_reschedule]
        · rw [handed_setSender, handed_reschedule, handed_reschedule]
  | updated id =>
      obtain ⟨sender, hsender, htaken⟩ := Option.bind_eq_some_iff.mp hstep
      obtain ⟨-, rfl⟩ := Machine.of_guard htaken
      apply writesInTurn_of_eq
      rw [handed_setSender, handed_reschedule]
  | deadline id =>
      obtain ⟨sender, hsender, htaken⟩ := Option.bind_eq_some_iff.mp hstep
      simp only [Connection.senderStep] at htaken
      split at htaken
      case h_1 =>
        cases htaken
        apply writesInTurn_of_eq
        rw [handed_leave, handed_reschedule]
      case h_2 =>
        cases htaken
        apply writesInTurn_of_eq
        rw [handed_leave]
      case h_3 => cases htaken
  | cancel id =>
      obtain ⟨sender, hsender, htaken⟩ := Option.bind_eq_some_iff.mp hstep
      simp only [Connection.senderStep] at htaken
      split at htaken
      case isTrue => cases htaken
      case isFalse =>
        cases htaken
        exact writesInTurn_of_eq (conn.handed_leave id sender)
  | appError streamId => exact absurd hmannerly id
  | webSocketData streamId data endStream =>
      cases hstep
      obtain rfl : data = [] := hmannerly
      exact writesInTurn_of_empty rfl
  | finish streamId =>
      cases hstep
      exact writesInTurn_of_eq (conn.handed_reschedule _)
  | windowUpdate target increment =>
      cases hstep
      exact writesInTurn_of_eq rfl
  | settings initialWindow maxFrameSize =>
      cases hstep
      exact writesInTurn_of_eq rfl
  | reset streamId =>
      cases hstep
      exact writesInTurn_of_eq rfl

/-- Whatever is ready has bytes to send. -/
theorem Orderly.warranted (horderly : conn.Orderly) : conn.Warranted := by
  intro streamId hready
  obtain ⟨id, claim, hclaim, hstream⟩ := Claimed.owned horderly streamId hready
  have hbytes := (horderly.held id claim hclaim).1
  obtain ⟨sender, hsender, rfl⟩ := Option.map_eq_some_iff.mp hclaim
  exact ⟨id, sender, hsender, hstream, hbytes⟩

end Connection

/-! ## Every run -/

/-- In runs whose steps go well, whatever is ready has bytes to send, and every frame with data is
written by the stream that `next_stream` picks among those that have bytes and an open window. -/
theorem written_in_turn (conn : Connection) (hreach : connection.Reach Connection.Mannerly conn) :
    conn.Warranted ∧ ∀ action next, conn.Mannerly action → conn.step action = some next →
      conn.WritesInTurn next := by
  have horderly : conn.Orderly := by
    apply hreach.invariant
    · rintro _ rfl
      exact {
        filed := PriorityScheduler.filed_empty
        owned := fun streamId hready => by cases hready
        held := fun _ _ hclaim => by cases hclaim
        distinct := fun _ _ _ _ hclaim => by cases hclaim }
    · exact fun _ _ _ horderly hmannerly hstep => horderly.step hmannerly hstep
  exact ⟨horderly.warranted, fun _ _ hmannerly hstep => horderly.step_writes hmannerly hstep⟩

/-- Two streams have registered a priority and answer. The less urgent one has begun first, and
waits for its turn. -/
def helloScheduled : List Action :=
  [.openStream 1, .setPriority 1 { urgency := 5 }, .sendHead 1, .sendBody 0 1 (ascii "later") true,
    .openStream 3, .setPriority 3 { urgency := 1 }, .sendHead 3, .sendBody 1 3 (ascii "hello") true,
    .round 0]

/-- Five bytes that end a stream. -/
def helloFrame (streamId : ℕ) : DataFrame where
  streamId
  data := ascii "hello"
  endStream := true
  window := 65535
  maxFrameSize := 16384

theorem mannerly_helloScheduled : connection.Along Connection.Mannerly {} helloScheduled := by
  refine .cons trivial rfl (.cons trivial rfl (.cons trivial rfl (.cons ⟨fun _ => rfl, ?_⟩ rfl
    (.cons trivial rfl (.cons trivial rfl (.cons trivial rfl (.cons ⟨fun _ => rfl, ?_⟩ rfl
      (.cons ?_ rfl trivial))))))))
  · rintro id sender hsender
    cases hsender
  · rintro (_ | id) sender hsender
    · cases hsender
      decide
    · cases hsender
  · rintro sender hsender
    cases hsender
    refine ⟨by decide, ?_⟩
    rintro (_ | _ | other) waiting woken hwaiting hphase
    · cases hwaiting
      cases hphase
    · cases hwaiting
      cases hphase
    · cases hwaiting

/-- The more urgent stream writes, in its turn. -/
theorem written_in_turn_hello : ∃ conn next, connection.run {} helloScheduled = some conn ∧
    conn.step (.round 1) = some next ∧ next.handed = conn.handed ++ [helloFrame 3] ∧
      conn.Warranted ∧ conn.WritesInTurn next ∧ conn.scheduler.Precedes 3 1 := by
  have hmannerly : ∀ conn, connection.run {} helloScheduled = some conn →
      conn.Mannerly (.round 1) := by
    rintro conn hconn sender hsender
    cases hconn
    cases hsender
    refine ⟨by decide, ?_⟩
    rintro (_ | _ | other) waiting woken hwaiting hphase
    · cases hwaiting
      cases hphase
    · cases hwaiting
      cases hphase
    · cases hwaiting
  obtain ⟨conn, next, hconn, hnext, hhanded, hlater⟩ : ∃ conn next,
      connection.run {} helloScheduled = some conn ∧ conn.step (.round 1) = some next ∧
        next.handed = conn.handed ++ [helloFrame 3] ∧ conn.HasBytes 1 ∧ conn.Open 1 :=
    ⟨_, _, rfl, rfl, by decide, ⟨0, _, rfl, rfl, by decide⟩, 65535, by decide, by decide⟩
  obtain ⟨hwarranted, hwrites⟩ :=
    written_in_turn conn (.run (.init rfl) mannerly_helloScheduled hconn)
  have hturn := hwrites (.round 1) next (hmannerly conn hconn) hnext
  obtain ⟨-, -, -, hprecedes⟩ := hturn _ hhanded (by decide) (by decide)
  exact ⟨conn, next, hconn, hnext, hhanded, hwarranted, hturn,
    hprecedes 1 hlater.1 hlater.2 (by decide)⟩

/-- A stream without a priority of its own writes before one that is more urgent. -/
theorem written_out_of_turn : ¬ ∀ conn, connection.Reachable conn → conn.Warranted ∧
    ∀ action next, conn.step action = some next → conn.WritesInTurn next := by
  intro hall
  have hrun : (connection.run {} [.openStream 1, .sendHead 1, .openStream 3,
      .setPriority 3 { urgency := 0 }, .sendHead 3, .sendBody 0 3 (ascii "urgent") true,
      .sendBody 1 1 (ascii "hello") true]).map (fun conn => (conn.handed,
        conn.scheduler.peekLocked, (conn.step (.round 1)).map (·.handed))) =
      some ([], some 3, some [helloFrame 1]) := by decide
  obtain ⟨conn, htaken, hfinal⟩ := Option.map_eq_some_iff.mp hrun
  obtain ⟨hhanded, hrest⟩ := Prod.mk.inj hfinal
  obtain ⟨hpeek, hstep⟩ := Prod.mk.inj hrest
  obtain ⟨next, hnext, hwritten⟩ := Option.map_eq_some_iff.mp hstep
  have hturn := (hall conn (Machine.reachable_run rfl htaken)).2 (.round 1) next hnext _
    (by rw [hwritten, hhanded]; rfl) (by decide) (by decide)
  cases hpeek.symm.trans hturn.1

end Pounce.H2
