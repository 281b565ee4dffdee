/-
# Up to the body

What the worker and the handoff will have written when the application is done, whatever it
still sends. While the worker has deferred a start, the handoff has deferred it as well, has
opened its response, or is mute (`Held`).
-/

import Pounce.AsyncPool.Pairing

namespace Pounce.AsyncPool

open Pounce.Math Pounce.Math.Bytes Pounce.Math.Message Pounce.Asgi

universe u

section

variable {Conn : Type u} {env : Worker.Env Conn} {rules : HeaderRules}
variable {side : Conn → ServerSide} {stream : Stream} {peer : Peer}
variable {contentDecode : List Bytes → Bytes → Option Bytes}
variable {transmission worker handoff : Transmission Conn}

/-! ## To the end of the application -/

/-- What a client decodes that has received nothing. -/
def nothing : Received := { interims := [], final := none }

theorem decode_nil : decode contentDecode stream [] = nothing := rfl

/-- The worker serves the file extension if its transport does. -/
def workerServes (stream : Stream) : Option Bool := if stream.canSendfile then some true else none

theorem workerServes_ne (stream : Stream) : workerServes stream ≠ some false := by
  rw [workerServes]
  cases stream.canSendfile <;> decide

theorem workerBridge_eq (stream : Stream) :
    stream.workerBridge = fileBridge (workerServes stream) := by
  rw [Stream.workerBridge, workerServes]
  split <;> rfl

/-- The worker sends one message. -/
abbrev workerSend (env : Worker.Env Conn) (stream : Stream) :
    Transmission Conn → SendMessage → Transmission Conn :=
  Transmission.send env.h11 (fileBridge (workerServes stream)) stream.workerEnv

/-- The handoff sends one message. -/
abbrev handoffSend (env : Worker.Env Conn) (stream : Stream) :
    Transmission Conn → SendMessage → Transmission Conn :=
  Transmission.send env.h11 (fileBridge none) stream.handoffEnv

/-- What the worker will have written after these messages. -/
def workerEnds (env : Worker.Env Conn) (stream : Stream) (worker : Transmission Conn)
    (messages : List SendMessage) : Bytes :=
  (finishRequest env stream (messages.foldl (workerSend env stream) worker)).written

/-- What the handoff will have written after these messages. -/
def handoffEnds (env : Worker.Env Conn) (stream : Stream) (handoff : Transmission Conn)
    (messages : List SendMessage) : Bytes :=
  finishHandoff env stream (messages.foldl (handoffSend env stream) handoff)

/-- After an error no message changes anything. -/
theorem run_raised {h11 : H11 Conn} (bridge : Bridge) (sendEnv : SendEnv)
    (hraised : transmission.raised = true) (messages : List SendMessage) :
    messages.foldl (Transmission.send h11 bridge sendEnv) transmission = transmission := by
  induction messages with
  | nil => rfl
  | cons message messages ih => rw [List.foldl_cons, Transmission.send, if_pos hraised, ih]

/-- A client that has received a head has received something. -/
theorem decode_head_ne {status : ℕ} {fields : List Header}
    (hclean : ∀ field ∈ fields, Clean field) (rest : Bytes) :
    decode contentDecode stream (render (.head status fields) ++ rest) ≠ nothing := by
  intro heq
  rw [decode, readResponse, readWithin, readHead_render status hclean] at heq
  simp only [nothing, Received.mk.injEq] at heq
  split at heq
  · cases heq.1
  · cases heq.2

/-- A client decodes the status of an error response. -/
theorem Answered.status {before after : Transmission Conn} (hanswered : Answered side before after)
    (hwritten : before.written = []) :
    ∃ final, (decode contentDecode stream after.written).final = some final ∧
      final.status = 500 := by
  obtain ⟨fields, rest, hclean, hafter⟩ := hanswered.written
  have hfinal : 200 ≤ 500 := by decide
  rw [hafter, hwritten, List.nil_append, decode,
    readResponse_head stream.request.method hfinal hclean]
  exact ⟨_, rfl, rfl⟩

/-- A client that has received an error response has received something. -/
theorem Answered.ne_nothing {before after : Transmission Conn}
    (hanswered : Answered side before after) (hwritten : before.written = []) :
    decode contentDecode stream after.written ≠ nothing := by
  obtain ⟨final, hfinal, -⟩ := hanswered.status hwritten
  intro heq
  rw [heq] at hfinal
  cases hfinal

/-- A reply is something. -/
theorem Reply.decoded_ne_nothing (reply : Reply) (ended : Bool) :
    reply.decoded rules stream contentDecode ended ≠ nothing := by
  simp [Reply.decoded, nothing]

/-- At the end the worker adds nothing to a response. -/
theorem workerEnds_started (hsends : env.h11.SendsAs rules side) {messages : List SendMessage}
    (hstarted : (messages.foldl (workerSend env stream) worker).state.responseStarted = true)
    (hside : ∀ other, side (messages.foldl (workerSend env stream) worker).conn ≠
      .awaiting other) :
    workerEnds env stream worker messages =
      (messages.foldl (workerSend env stream) worker).written :=
  finishRequest_started hsends hstarted hside

section

variable (hsends : env.h11.SendsAs rules side)

include hsends

/-- A silent worker has written all it will. -/
theorem Silent.workerEnds (hsilent : Silent side (workerServes stream) worker)
    (hside : ∀ other, side worker.conn ≠ .awaiting other) (messages : List SendMessage) :
    workerEnds env stream worker messages = worker.written := by
  have hrun := hsilent.run hsends (serves_worker stream) messages
  rw [workerEnds_started hsends hrun.silent.started (hrun.side_ne hside)]
  exact hrun.written

/-- So has a silent handoff. -/
theorem Silent.handoffEnds (hsilent : Silent side none handoff) (messages : List SendMessage) :
    handoffEnds env stream handoff messages = handoff.written := by
  have hrun := hsilent.run hsends (serves_handoff stream) messages
  rw [AsyncPool.handoffEnds, finishHandoff_started hrun.silent.started]
  exact hrun.written

/-- A worker whose head was refused answers the error. -/
theorem Rejected.workerEnds (hrejected : Rejected side (some peer) worker)
    (messages : List SendMessage) :
    ∃ final, (decode contentDecode stream (workerEnds env stream worker messages)).final =
        some final ∧ final.status = 500 := by
  rw [AsyncPool.workerEnds, run_raised _ _ hrejected.raised]
  have herror : (worker.raised || stream.raises) = true := by rw [hrejected.raised, Bool.true_or]
  exact (finishRequest_answers hsends hrejected.side_eq (.inl herror)).status hrejected.written

end

/-- Where no response is awaited the handoff does not answer. -/
theorem finishHandoff_refused (hsends : env.h11.SendsAs rules side)
    (hside : ∀ other, side handoff.conn ≠ .awaiting other) :
    finishHandoff env stream handoff = handoff.written := by
  obtain ⟨conn, hsend, -⟩ := sendResponse_refused hsends hside 500 plainHeaders
  rw [finishHandoff]
  split
  · rw [hsend]
  · rfl

/-- What has been written of an answer is there at its end. -/
theorem written_le_workerEnds (messages : List SendMessage) :
    worker.written <+: workerEnds env stream worker messages :=
  (written_le_run _ _ messages worker).trans written_le_finishRequest

/-- The worker is answered for once it has written a head. -/
theorem workerEnds_ne_nothing {status : ℕ} {fields : List Header}
    (hclean : ∀ field ∈ fields, Clean field)
    (hwritten : worker.written = render (.head status fields)) (messages : List SendMessage) :
    decode contentDecode stream (workerEnds env stream worker messages) ≠ nothing := by
  obtain ⟨rest, hrest⟩ : worker.written <+: workerEnds env stream worker messages :=
    written_le_workerEnds messages
  rw [← hrest, hwritten]
  exact decode_head_ne hclean rest

/-! ## A handoff that writes nothing -/

/-- The handoff has written nothing and will write nothing. -/
structure Mute (side : Conn → ServerSide) (handoff : Transmission Conn) : Prop where
  silent : Silent side none handoff
  written : handoff.written = []

theorem Kept.mute {after : Transmission Conn} (hkept : Kept side none handoff after)
    (hwritten : handoff.written = []) : Mute side after :=
  ⟨hkept.silent, hkept.written.trans hwritten⟩

theorem Rejected.mute (hrejected : Rejected side none handoff) : Mute side handoff :=
  ⟨⟨hrejected.started, .inl hrejected.raised⟩, hrejected.written⟩

/-- A client of a mute handoff decodes nothing. -/
theorem Mute.ends (hsends : env.h11.SendsAs rules side) (hmute : Mute side handoff)
    (messages : List SendMessage) :
    decode contentDecode stream (handoffEnds env stream handoff messages) = nothing := by
  rw [hmute.silent.handoffEnds hsends, hmute.written]
  rfl

/-- What has become of the handoff when the worker has deferred a start. -/
inductive Held (rules : HeaderRules) (side : Conn → ServerSide) (stream : Stream) (status : ℕ)
    (headers : List Header) (handoff : Transmission Conn) : Opening → Prop
  | deferred (hdeferring : Deferring side stream stream.handoffEnv none status headers handoff) :
      Held rules side stream status headers handoff .deferred
  | refused (hmute : Mute side handoff) : Held rules side stream status headers handoff .refused
  | opened (encoder : Option Compressor) (hreplying : Replying rules side stream
        stream.handoffEnv (openReply rules none status headers encoder) true false handoff) :
      Held rules side stream status headers handoff
        (.opened (openReply rules none status headers encoder).encoder.isSome
          (openReply rules none status headers encoder).delimiting)

/-- A handoff does not know of tunnels. -/
theorem Begun.held {status : ℕ} {headers : List Header} {encoder : Option Compressor}
    {opening : Opening} (hbegun : Begun rules side stream stream.handoffEnv none status headers
      encoder true handoff opening) : Held rules side stream status headers handoff opening := by
  cases hbegun with
  | deferred hdeferring => exact .deferred hdeferring
  | refused hrejected => exact .refused hrejected.mute
  | tunnel hswitch => cases hswitch
  | opened _ hreplying => exact .opened encoder hreplying

/-- A handoff that is held has written nothing. -/
theorem Held.written {status : ℕ} {headers : List Header} {opening : Opening}
    (hheld : Held rules side stream status headers handoff opening) :
    handoff.written = [] ∧ handoff.state.responseStarted = true := by
  cases hheld with
  | deferred hdeferring => exact ⟨hdeferring.written, hdeferring.started⟩
  | refused hmute => exact ⟨hmute.written, hmute.silent.started⟩
  | opened encoder hreplying => exact ⟨hreplying.sent, hreplying.started⟩

/-! ## Messages before the body -/

/-- An early hint where a response is awaited. -/
theorem Waiting.hint {h11 : H11 Conn} {sendEnv : SendEnv} (serves : Option Bool)
    {known : Option Peer} (hsends : h11.SendsAs rules side)
    (hwaiting : Waiting side sendEnv known transmission) (headers : List Header) :
    let after := transmission.send h11 (fileBridge serves) sendEnv (.responseStart 103 headers)
    after.state.responseStarted = transmission.state.responseStarted ∧
      match rules.normalize (sanitizeHeaders headers) with
      | none => after.raised = true ∧ after.written = [] ∧ side after.conn = .awaiting known
      | some normalized =>
          if known.isSome then after.written = render (.head 103 normalized)
          else after.raised = true ∧ after.written = [] ∧ side after.conn = .done := by
  intro after
  have hsend : (fileBridge serves).send sendEnv transmission.state (.responseStart 103 headers) =
      some (h1.start sendEnv transmission.state 103 headers) := rfl
  have hafter : after = _ := send_events hwaiting.running hsend rfl
  rw [List.foldl_cons, List.foldl_nil, deliver_state] at hafter
  have hbytes := hsends.send_bytes transmission.conn
    (.informational 103 (sanitizeHeaders headers)) rfl
  have hnext := hsends.side_send transmission.conn
    (.informational 103 (sanitizeHeaders headers)) rfl
  rw [hwaiting.side_eq] at hbytes hnext
  simp only [ServerSide.send] at hbytes hnext
  simp only [Transmission.deliver, hwaiting.running, Bool.false_eq_true, if_false,
    H1Protocol.sendInformational] at hafter
  rcases hstep : h11.send transmission.conn (.informational 103 (sanitizeHeaders headers)) with
    ⟨sent, conn⟩
  rw [hstep] at hbytes hnext hafter
  simp only at hbytes hnext
  cases hnormal : rules.normalize (sanitizeHeaders headers) with
  | none =>
      rw [hnormal] at hbytes hnext
      simp only [Option.map_none] at hbytes hnext
      subst hbytes
      rw [hafter]
      exact ⟨rfl, rfl, hwaiting.written, hnext⟩
  | some normalized =>
      rw [hnormal] at hbytes hnext
      cases known with
      | none =>
          simp only [Option.map_none] at hbytes hnext
          subst hbytes
          rw [hafter]
          exact ⟨rfl, rfl, hwaiting.written, hnext⟩
      | some client =>
          simp only [Option.map_some] at hbytes
          subst hbytes
          rw [hafter]
          refine ⟨rfl, ?_⟩
          show transmission.written ++ _ = _
          rw [hwaiting.written]
          simp

/-- Before the body a file is an error. -/
theorem Waiting.file (h11 : H11 Conn) {sendEnv : SendEnv} {serves : Option Bool}
    {known : Option Peer} (hserved : serves ≠ some false)
    (hwaiting : Waiting side sendEnv known transmission)
    (hnot : transmission.state.responseStarted = false ∨ sendEnv.compressor.isSome)
    (content : Bytes) (offset count : ℕ) (moreBody : Bool) :
    transmission.send h11 (fileBridge serves) sendEnv
        (.responseSendfile content offset count moreBody) =
      { transmission with raised := true } := by
  apply send_error hwaiting.running
  match serves with
  | none => rfl
  | some false => exact absurd rfl hserved
  | some true =>
      rcases hnot with hstarted | hsome
      · simp [Bridge.send, fileBridge, hstarted]
      · simp [Bridge.send, fileBridge, hwaiting.encoder, hsome]

/-- Once it is held, an early hint or a file silences the handoff. -/
theorem Held.mute {status : ℕ} {headers : List Header} {opening : Opening}
    (hsends : env.h11.SendsAs rules side)
    (hheld : Held rules side stream status headers handoff opening) {message : SendMessage}
    (hmessage : (∃ fields, message = .responseStart 103 fields) ∨
      ∃ content offset count more, message = .responseSendfile content offset count more) :
    Mute side (handoffSend env stream handoff message) := by
  have hwritten := hheld.written.1
  cases hheld with
  | deferred hdeferring =>
      rcases hmessage with ⟨fields, rfl⟩ | ⟨content, offset, count, more, rfl⟩
      · have hhint := hdeferring.toWaiting.hint none hsends fields
        obtain ⟨hstarted, hhint⟩ := hhint
        cases hnormal : rules.normalize (sanitizeHeaders fields) with
        | none =>
            rw [hnormal] at hhint
            exact ⟨⟨hstarted.trans hdeferring.started, .inl hhint.1⟩, hhint.2.1⟩
        | some normalized =>
            rw [hnormal] at hhint
            exact ⟨⟨hstarted.trans hdeferring.started, .inl hhint.1⟩, hhint.2.1⟩
      · have hnone : (none : Option Bool) ≠ some false := by decide
        rw [handoffSend, hdeferring.toWaiting.file env.h11 hnone (.inr hdeferring.encodes)]
        exact ⟨⟨hdeferring.started, .inl rfl⟩, hwritten⟩
  | refused hmute =>
      exact (hmute.silent.send hsends (serves_handoff stream) message).mute hwritten
  | opened encoder hreplying =>
      obtain ⟨_, hopened, -⟩ := hreplying.part
      rcases hmessage with ⟨fields, rfl⟩ | ⟨content, offset, count, more, rfl⟩
      · exact (kept_start hsends (serves_handoff stream) hreplying.started hreplying.side_ne
          hopened.running 103 fields).mute hwritten
      · have hsend : (fileBridge none).send stream.handoffEnv handoff.state
            (.responseSendfile content offset count more) = none := rfl
        rw [handoffSend, send_error hopened.running hsend]
        exact ((refused_raised hreplying.side_ne).kept hreplying.started).mute hwritten

/-- Behind a start a second one leaves the handoff mute, unless both are deferred. -/
theorem Held.restart {status : ℕ} {headers : List Header} {opening : Opening}
    (hsends : env.h11.SendsAs rules side)
    (hheld : Held rules side stream status headers handoff opening) {status' : ℕ}
    (hstatus : status' ≠ 103) (headers' : List Header) :
    Held rules side stream status' headers'
      (handoffSend env stream handoff (.responseStart status' headers'))
      (if opening = .deferred ∧
          starts rules stream stream.handoffEnv none status' headers' = .deferred then .deferred
        else .refused) := by
  have hwritten := hheld.written.1
  cases hheld with
  | deferred hdeferring =>
      have hbegun : Begun rules side stream stream.handoffEnv none status' headers' _ _
          (handoffSend env stream handoff (.responseStart status' headers')) _ :=
        hdeferring.toWaiting.start hsends (serves_handoff stream) (by simp) hstatus
      generalize starts rules stream stream.handoffEnv none status' headers' = again at hbegun ⊢
      cases hbegun with
      | deferred hdeferring' =>
          rw [if_pos ⟨rfl, rfl⟩]
          exact .deferred hdeferring'
      | refused hrejected => exact .refused hrejected.mute
      | tunnel hswitch => cases hswitch
      | opened _ hreplying =>
          refine .refused ⟨⟨hreplying.started, .inr ⟨hreplying.side_ne, .inr ⟨?_, .inr ?_⟩⟩⟩,
            hreplying.sent⟩
          · intro hnone
            have hpieces := hreplying.pieces_eq
            rw [hnone, hdeferring.deferred] at hpieces
            cases hpieces
          · decide
  | refused hmute =>
      exact .refused ((hmute.silent.send hsends (serves_handoff stream) _).mute hwritten)
  | opened encoder hreplying =>
      obtain ⟨_, hopened, -⟩ := hreplying.part
      exact .refused ((kept_start hsends (serves_handoff stream) hreplying.started
        hreplying.side_ne hopened.running status' headers').mute hwritten)

end

end Pounce.AsyncPool
