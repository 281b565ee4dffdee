/-
# Handoffs beside the worker

The asynchronous worker and a handoff send the same messages, one after the other. `InStep`
says what has become of both at each stage of `Progress`: one message keeps them in step
(`InStep.next`), and once the stage has decided, its verdict holds however the application
goes on (`Verdict.Holds`).
-/

import Pounce.AsyncPool.Held

namespace Pounce.AsyncPool

open Pounce.Math Pounce.Math.Bytes Pounce.Math.Message Pounce.Asgi

universe u

section

variable {Conn : Type u} {env : Worker.Env Conn} {rules : HeaderRules}
variable {side : Conn → ServerSide} {stream : Stream} {peer : Peer}
variable {contentDecode : List Bytes → Bytes → Option Bytes}
variable {transmission worker handoff : Transmission Conn}

/-! ## Verdicts that hold -/

/-- What a client decodes from the two is as the verdict says. -/
structure Verdict.Holds (verdict : Verdict) (worker handoff : Received) : Prop where
  answered : verdict.answered = true → worker ≠ nothing
  unanswered : verdict.answered = false → verdict.same.isSome → worker = nothing
  same_iff : ∀ same, verdict.same = some same → (handoff = worker ↔ same = true)

section

variable {received received' : Received}

theorem holds_tunnel (received received' : Received) :
    Verdict.Holds ⟨false, none⟩ received received' :=
  ⟨fun heq => Bool.noConfusion heq, fun _ heq => Bool.noConfusion heq,
    fun same heq => by cases heq⟩

theorem holds_open (hworker : received ≠ nothing) :
    Verdict.Holds ⟨true, none⟩ received received' :=
  ⟨fun _ => hworker, fun heq => Bool.noConfusion heq, fun same heq => by cases heq⟩

theorem holds_differ (hworker : received ≠ nothing) (hne : received' ≠ received) :
    Verdict.Holds ⟨true, some false⟩ received received' := by
  refine ⟨fun _ => hworker, fun heq => Bool.noConfusion heq, fun same heq => ?_⟩
  cases heq
  exact ⟨fun heq => absurd heq hne, fun heq => Bool.noConfusion heq⟩

theorem holds_mute (hworker : received ≠ nothing) (hhandoff : received' = nothing) :
    Verdict.Holds ⟨true, some false⟩ received received' :=
  holds_differ hworker (hhandoff ▸ hworker.symm)

theorem holds_same (hworker : received ≠ nothing) (heq : received' = received) :
    Verdict.Holds ⟨true, some true⟩ received received' := by
  refine ⟨fun _ => hworker, fun heq => Bool.noConfusion heq, fun same hsame => ?_⟩
  cases hsame
  exact ⟨fun _ => rfl, fun _ => heq⟩

theorem holds_nothing (hworker : received = nothing) (hhandoff : received' = nothing) :
    Verdict.Holds ⟨false, some true⟩ received received' := by
  refine ⟨fun heq => Bool.noConfusion heq, fun _ _ => hworker, fun same hsame => ?_⟩
  cases hsame
  exact ⟨fun _ => rfl, fun _ => hhandoff.trans hworker.symm⟩

end

/-- Of a reply that was flushed a client decodes the status, and with it something. -/
theorem Left.decode_flushed {reply : Reply}
    (hleft : Left side rules stream contentDecode reply true transmission) :
    ∃ data delimiting ended, decode contentDecode stream transmission.written =
      { reply with data := reply.data ++ data, delimiting := delimiting }.decoded rules stream
        contentDecode ended := by
  rcases hleft.written with ⟨hnot, -⟩ | hdecode
  · cases hnot
  · exact hdecode

/-- The two replies stand as the stage says. -/
structure Stands (current : Sending) (reply reply' : Reply) : Prop where
  worker_eq : reply.delimiting = current.worker
  handoff_eq : reply'.delimiting = current.handoff
  plain_eq : current.plain = reply.encoder.isNone
  coded_eq : current.coded =
    decide (valuesOf (ascii "content-encoding") (sanitizeHeaders reply.headers) ≠ [])

/-- The worker and the handoff have got this far with the messages before these. -/
inductive InStep (env : Worker.Env Conn) (rules : HeaderRules) (side : Conn → ServerSide)
    (stream : Stream) (contentDecode : List Bytes → Bytes → Option Bytes) (peer : Peer)
    (worker handoff : Transmission Conn) : Progress → List SendMessage → Prop
  | unstarted {remaining : List SendMessage} (hremaining : remaining = stream.messages)
      (hworker : Waiting side stream.workerEnv (some peer) worker)
      (hhandoff : Waiting side stream.handoffEnv none handoff)
      (hfresh : worker.state.responseStarted = false ∧ worker.state.deferredStart = none)
      (hfresh' : handoff.state.responseStarted = false ∧ handoff.state.deferredStart = none) :
      InStep env rules side stream contentDecode peer worker handoff .unstarted remaining
  | deferred {status : ℕ} {headers : List Header} {opening : Opening}
      {remaining : List SendMessage}
      (hworker : Deferring side stream stream.workerEnv (some peer) status headers worker)
      (hhandoff : Held rules side stream status headers handoff opening)
      (hplain : ∀ delimiting, opening ≠ .opened true delimiting) :
      InStep env rules side stream contentDecode peer worker handoff
        (.deferred status headers opening) remaining
  | sending {current : Sending} {reply reply' : Reply} {remaining : List SendMessage}
      (hworker : Replying rules side stream stream.workerEnv reply true current.flushed worker)
      (hhandoff : Replying rules side stream stream.handoffEnv reply' true current.flushed handoff)
      (hpair : Alike rules stream reply reply' ∨
        Apart rules stream reply reply' ∧ current.flushed = false)
      (hstands : Stands current reply reply') :
      InStep env rules side stream contentDecode peer worker handoff (.sending current) remaining
  | lone {reply : Reply} {delimiting : Delimiting} {pieces files : Bool}
      {remaining : List SendMessage}
      (hworker : Replying rules side stream stream.workerEnv reply pieces false worker)
      (hhandoff : Mute side handoff) (hdelimiting : reply.delimiting = delimiting)
      (hfiles : files = (stream.canSendfile && reply.encoder.isNone)) :
      InStep env rules side stream contentDecode peer worker handoff
        (.lone delimiting pieces files) remaining
  | decided {verdict : Verdict} {remaining : List SendMessage}
      (hholds : ∀ messages, verdict.Holds
        (decode contentDecode stream (workerEnds env stream worker messages))
        (decode contentDecode stream (handoffEnds env stream handoff messages))) :
      InStep env rules side stream contentDecode peer worker handoff (.decided verdict) remaining

/-- A worker that answers an error with status 500 is answered for. -/
theorem Rejected.ne_nothing (hsends : env.h11.SendsAs rules side)
    (hrejected : Rejected side (some peer) worker) (messages : List SendMessage) :
    decode contentDecode stream (AsyncPool.workerEnds env stream worker messages) ≠ nothing := by
  obtain ⟨final, hfinal, -⟩ := hrejected.workerEnds hsends messages
  intro heq
  rw [heq] at hfinal
  cases hfinal

section

variable (hsends : env.h11.SendsAs rules side) (hundoes : UndoesNegotiated contentDecode stream)
variable (hidentity : ∀ body, contentDecode [] body = some body)

include hsends hundoes hidentity

/-- What the client decodes when the worker has sent a piece that was taken. -/
theorem Replying.worker_taken {reply : Reply} {pieces flushed : Bool}
    (hworker : Replying rules side stream stream.workerEnv reply pieces flushed worker)
    {message : SendMessage} {data : Bytes} {more : Bool}
    (hsend : (fileBridge (workerServes stream)).send stream.workerEnv worker.state message =
      some (withPiece worker.state data more))
    (htakes : reply.delimiting.takes data more = true) (messages : List SendMessage) :
    ∃ rest delimiting ended, decode contentDecode stream
        (workerEnds env stream (workerSend env stream worker message) messages) =
      { reply with data := reply.data ++ data ++ rest, delimiting := delimiting }.decoded rules
        stream contentDecode ended := by
  have hleft := hworker.taken_run (serves_worker stream) hundoes hidentity hsends
    (workerServes_ne stream) hsend htakes messages
  rw [workerEnds_started hsends hleft.started hleft.side_ne]
  exact hleft.decode_flushed

/-- What it decodes when the handoff has. -/
theorem Replying.handoff_taken {reply : Reply} {pieces flushed : Bool}
    (hhandoff : Replying rules side stream stream.handoffEnv reply pieces flushed handoff)
    {message : SendMessage} {data : Bytes} {more : Bool}
    (hsend : (fileBridge none).send stream.handoffEnv handoff.state message =
      some (withPiece handoff.state data more))
    (htakes : reply.delimiting.takes data more = true) (messages : List SendMessage) :
    ∃ rest delimiting ended, decode contentDecode stream
        (handoffEnds env stream (handoffSend env stream handoff message) messages) =
      { reply with data := reply.data ++ data ++ rest, delimiting := delimiting }.decoded rules
        stream contentDecode ended := by
  have hleft := hhandoff.taken_run (serves_handoff stream) hundoes hidentity hsends
    (Option.some_ne_none false).symm hsend htakes messages
  rw [handoffEnds, finishHandoff_started hleft.started]
  exact hleft.decode_flushed

omit hsends in
/-- If nothing more is sent, the client decodes the same unless it misses the end of chunks. -/
theorem Stands.broken {current : Sending} {reply reply' : Reply}
    (hworker : Replying rules side stream stream.workerEnv reply true current.flushed worker)
    (hhandoff : Replying rules side stream stream.handoffEnv reply' true current.flushed handoff)
    (hpair : Alike rules stream reply reply' ∨
      Apart rules stream reply reply' ∧ current.flushed = false)
    (hstands : Stands current reply reply') :
    current.broken.Holds (decode contentDecode stream worker.written)
      (decode contentDecode stream handoff.written) := by
  rw [Sending.broken]
  cases hflushed : current.flushed with
  | false =>
      rw [hflushed] at hworker hhandoff
      have hnone : worker.written = [] := hworker.sent
      have hnone' : handoff.written = [] := hhandoff.sent
      rw [hnone, hnone']
      exact holds_nothing rfl rfl
  | true =>
      rw [hflushed] at hworker hhandoff hpair
      have halike := hpair.resolve_right fun hapart => Bool.noConfusion hapart.2
      have hdecode := hworker.decode_flushed (serves_worker stream) hundoes hidentity
      have hdecode' := hhandoff.decode_flushed (serves_handoff stream) hundoes hidentity
      rw [hdecode, hdecode', Bool.true_and]
      have hsame : reply'.decoded rules stream contentDecode false =
          reply.decoded rules stream contentDecode false ↔ reply.delimiting ≠ .chunked :=
        (halike.decoded_iff false false).trans halike.ends.complete_broken
      rw [hstands.worker_eq] at hsame
      by_cases hchunked : current.worker = .chunked
      · rw [decide_eq_true hchunked]
        exact holds_differ (Reply.decoded_ne_nothing _ _) fun heq => hsame.mp heq hchunked
      · rw [decide_eq_false hchunked]
        exact holds_same (Reply.decoded_ne_nothing _ _) (hsame.mpr hchunked)

/-- What both leave as it is stays so. -/
theorem InStep.of_kept {current : Sending} {reply reply' : Reply} {message : SendMessage}
    {remaining : List SendMessage}
    (hworker : Replying rules side stream stream.workerEnv reply true current.flushed worker)
    (hhandoff : Replying rules side stream stream.handoffEnv reply' true current.flushed handoff)
    (hpair : Alike rules stream reply reply' ∨
      Apart rules stream reply reply' ∧ current.flushed = false)
    (hstands : Stands current reply reply')
    (hkept : Kept side (workerServes stream) worker (workerSend env stream worker message))
    (hkept' : Kept side none handoff (handoffSend env stream handoff message)) :
    InStep env rules side stream contentDecode peer (workerSend env stream worker message)
      (handoffSend env stream handoff message) (.decided current.broken) remaining := by
  refine .decided fun messages => ?_
  rw [hkept.silent.workerEnds hsends (hkept.side_ne hworker.side_ne),
    hkept'.silent.handoffEnds hsends, hkept.written, hkept'.written]
  exact Stands.broken hundoes hidentity hworker hhandoff hpair hstands

/-- A piece of the body behind the heads of both. -/
theorem InStep.sending_piece {current : Sending} {reply reply' : Reply}
    {remaining : List SendMessage}
    (hworker : Replying rules side stream stream.workerEnv reply true current.flushed worker)
    (hhandoff : Replying rules side stream stream.handoffEnv reply' true current.flushed handoff)
    (hpair : Alike rules stream reply reply' ∨
      Apart rules stream reply reply' ∧ current.flushed = false)
    (hstands : Stands current reply reply') (body : Bytes) (moreBody : Bool) :
    InStep env rules side stream contentDecode peer
      (workerSend env stream worker (.responseBody body moreBody))
      (handoffSend env stream handoff (.responseBody body moreBody))
      (current.piece (bodyOf stream body) moreBody) remaining := by
  have hdata : stream.request.method = ascii "HEAD" → bodyOf stream body = [] := fun hhead =>
    if_pos hhead
  have hsend : (fileBridge (workerServes stream)).send stream.workerEnv worker.state
      (.responseBody body moreBody) = _ := hworker.send_body (serves_worker stream) body moreBody
  have hsend' : (fileBridge none).send stream.handoffEnv handoff.state
      (.responseBody body moreBody) = _ := hhandoff.send_body (serves_handoff stream) body moreBody
  rw [Sending.piece, ← hstands.worker_eq, ← hstands.handoff_eq]
  cases htakes : reply.delimiting.takes (bodyOf stream body) moreBody with
  | false =>
      have hrefuses : reply'.delimiting.takes (bodyOf stream body) moreBody = false := by
        rcases hpair with halike | ⟨hapart, -⟩
        · exact halike.ends.refuses hdata htakes
        · rw [Delimiting.takes_unknown hapart.worker_unknown] at htakes
          cases htakes
      exact InStep.of_kept hsends hundoes hidentity hworker hhandoff hpair hstands
        (hworker.piece_refused hsends hsend htakes)
        (hhandoff.piece_refused hsends hsend' hrefuses)
  | true =>
      have hdecode := hworker.worker_taken hsends hundoes hidentity hsend htakes
      have hanswered : ∀ messages, decode contentDecode stream (workerEnds env stream
          (workerSend env stream worker (.responseBody body moreBody)) messages) ≠ nothing := by
        intro messages
        obtain ⟨rest, delimiting, ended, hsome⟩ := hdecode messages
        rw [hsome]
        exact Reply.decoded_ne_nothing _ _
      cases htakes' : reply'.delimiting.takes (bodyOf stream body) moreBody with
      | false =>
          have hkept := hhandoff.piece_refused hsends hsend' htakes'
          refine .decided fun messages => ?_
          rw [hkept.silent.handoffEnds hsends, hkept.written]
          cases hflushed : current.flushed with
          | false =>
              rw [hflushed] at hhandoff
              have hnone : handoff.written = [] := hhandoff.sent
              rw [hnone]
              exact holds_mute (hanswered messages) rfl
          | true =>
              rw [hflushed] at hhandoff hpair
              have halike := hpair.resolve_right fun hapart => Bool.noConfusion hapart.2
              have hbody := halike.ends.bodyless_of_takes htakes htakes'
              apply holds_same (hanswered messages)
              obtain ⟨rest, delimiting, ended, hsome⟩ := hdecode messages
              rw [hsome, hhandoff.decode_flushed (serves_handoff stream) hundoes hidentity,
                Reply.decoded_bodyless hbody _ _ _ false, halike.decoded_iff, hbody]
              rfl
      | true =>
          have hdecode' := hhandoff.handoff_taken hsends hundoes hidentity hsend' htakes'
          have hends : current.alike = !(reply.delimiting.isUnknown && !reply'.delimiting.isUnknown) := by
            rw [Sending.alike, hstands.worker_eq, hstands.handoff_eq]
          cases halike : current.alike with
          | false =>
              rw [halike] at hends
              have hapart : Apart rules stream reply reply' := by
                rcases hpair with hsame | ⟨hapart, -⟩
                · rw [hsame.ends.alike] at hends
                  cases hends
                · exact hapart
              refine .decided fun messages => holds_differ (hanswered messages) ?_
              obtain ⟨rest, delimiting, ended, hsome⟩ := hdecode messages
              obtain ⟨rest', delimiting', ended', hsome'⟩ := hdecode' messages
              rw [hsome, hsome']
              exact hapart.decoded_ne _ _ _ _ _ _
          | true =>
              rw [halike] at hends
              have hsame : Alike rules stream reply reply' := by
                rcases hpair with hsame | ⟨hapart, -⟩
                · exact hsame
                · rw [hapart.worker_unknown, hapart.handoff_known] at hends
                  cases hends
              have htaken := hworker.piece_taken hsends hsend htakes
              have htaken' := hhandoff.piece_taken hsends hsend' htakes'
              have hadd := hsame.add (bodyOf stream body)
              cases moreBody with
              | true =>
                  exact .sending (htaken.1 rfl) (htaken'.1 rfl) (.inl hadd)
                    ⟨rfl, rfl, hstands.plain_eq, hstands.coded_eq⟩
              | false =>
                  obtain ⟨ops, part, htelling, hfinished⟩ := htaken.2 rfl
                  obtain ⟨ops', part', htelling', hfinished'⟩ := htaken'.2 rfl
                  refine .decided fun messages => holds_same (hanswered messages) ?_
                  obtain ⟨hstarted, hside, hworker⟩ := hfinished.run (serves_worker stream) hundoes
                    hidentity hsends htelling messages
                  obtain ⟨hstarted', -, hhandoff⟩ := hfinished'.run (serves_handoff stream) hundoes
                    hidentity hsends htelling' messages
                  rw [workerEnds_started hsends hstarted hside, hworker, handoffEnds,
                    finishHandoff_started hstarted', hhandoff]
                  exact (hadd.decoded_iff true true).mpr hadd.ends.complete_ended.symm

omit hsends hundoes hidentity in
/-- The worker serves a file behind a head of a response that is not encoded. -/
theorem Replying.file_sent {reply : Reply} {pieces flushed : Bool}
    (hworker : Replying rules side stream stream.workerEnv reply pieces flushed worker)
    (hserved : stream.canSendfile = true) (hplain : reply.encoder.isNone = true)
    (content : Bytes) (offset count : ℕ) (moreBody : Bool) :
    (fileBridge (workerServes stream)).send stream.workerEnv worker.state
        (.responseSendfile content offset count moreBody) =
      some (withPiece worker.state ((content.drop offset).take count) moreBody) := by
  rw [workerServes, hserved, if_pos rfl]
  exact hworker.send_file (by simpa using hplain) content offset count moreBody

omit hundoes hidentity in
/-- Any other file is refused. -/
theorem Replying.file_kept {reply : Reply} {pieces flushed : Bool}
    (hworker : Replying rules side stream stream.workerEnv reply pieces flushed worker)
    {content : Bytes} {offset count : ℕ} {moreBody : Bool}
    (hnot : (stream.canSendfile && (reply.encoder.isNone &&
      reply.delimiting.takes ((content.drop offset).take count) moreBody)) = false) :
    Kept side (workerServes stream) worker
      (workerSend env stream worker (.responseSendfile content offset count moreBody)) := by
  obtain ⟨_, hopened, -⟩ := hworker.part
  have herror : (fileBridge (workerServes stream)).send stream.workerEnv worker.state
      (.responseSendfile content offset count moreBody) = none →
      Kept side (workerServes stream) worker
        (workerSend env stream worker (.responseSendfile content offset count moreBody)) := by
    intro hsend
    rw [workerSend, send_error hopened.running hsend]
    exact (refused_raised hworker.side_ne).kept hworker.started
  cases hserved : stream.canSendfile with
  | false =>
      apply herror
      rw [workerServes, hserved]
      rfl
  | true =>
      cases hencoder : reply.encoder with
      | some compressor =>
          apply herror
          rw [workerServes, hserved, if_pos rfl]
          simp [Bridge.send, fileBridge, hworker.encoder.trans hencoder]
      | none =>
          have hplain : reply.encoder.isNone = true := by rw [hencoder]; rfl
          rw [hserved, hplain] at hnot
          exact hworker.piece_refused hsends
            (hworker.file_sent hserved hplain content offset count moreBody) hnot

/-- A file behind the heads of both. -/
theorem InStep.sending_file {current : Sending} {reply reply' : Reply}
    {remaining : List SendMessage}
    (hworker : Replying rules side stream stream.workerEnv reply true current.flushed worker)
    (hhandoff : Replying rules side stream stream.handoffEnv reply' true current.flushed handoff)
    (hpair : Alike rules stream reply reply' ∨
      Apart rules stream reply reply' ∧ current.flushed = false)
    (hstands : Stands current reply reply') (content : Bytes) (offset count : ℕ)
    (moreBody : Bool) :
    InStep env rules side stream contentDecode peer
      (workerSend env stream worker (.responseSendfile content offset count moreBody))
      (handoffSend env stream handoff (.responseSendfile content offset count moreBody))
      (.decided
        (if stream.canSendfile then current.file ((content.drop offset).take count) moreBody
        else current.broken)) remaining := by
  obtain ⟨_, hopened', -⟩ := hhandoff.part
  have hkept' : Kept side none handoff (handoffSend env stream handoff
      (.responseSendfile content offset count moreBody)) := by
    have hsend : (fileBridge none).send stream.handoffEnv handoff.state
        (.responseSendfile content offset count moreBody) = none := rfl
    rw [handoffSend, send_error hopened'.running hsend]
    exact (refused_raised hhandoff.side_ne).kept hhandoff.started
  have hverdict : (if stream.canSendfile then
        current.file ((content.drop offset).take count) moreBody else current.broken) =
      if (stream.canSendfile && (reply.encoder.isNone &&
          reply.delimiting.takes ((content.drop offset).take count) moreBody)) = true then
        { answered := true
          same :=
            if current.flushed && (current.coded || (content.drop offset).take count = []) then none
            else some false }
      else current.broken := by
    rw [Sending.file, hstands.plain_eq, hstands.worker_eq]
    cases stream.canSendfile <;> rfl
  rw [hverdict]
  cases hwritten : stream.canSendfile && (reply.encoder.isNone &&
      reply.delimiting.takes ((content.drop offset).take count) moreBody) with
  | false =>
      exact InStep.of_kept hsends hundoes hidentity hworker hhandoff hpair hstands
        (hworker.file_kept hsends hwritten) hkept'
  | true =>
      rw [Bool.and_eq_true, Bool.and_eq_true] at hwritten
      obtain ⟨hserved, hplain, htakes⟩ := hwritten
      have hsend := hworker.file_sent hserved hplain content offset count moreBody
      generalize (content.drop offset).take count = data at hsend htakes ⊢
      refine .decided fun messages => ?_
      obtain ⟨rest, delimiting, ended, hdecode⟩ :=
        hworker.worker_taken hsends hundoes hidentity hsend htakes messages
      rw [if_pos rfl, hdecode, hkept'.silent.handoffEnds hsends, hkept'.written]
      cases hflushed : current.flushed with
      | false =>
          rw [hflushed] at hhandoff
          have hnone : handoff.written = [] := hhandoff.sent
          rw [hnone]
          exact holds_mute (Reply.decoded_ne_nothing _ _) rfl
      | true =>
          rw [hflushed] at hhandoff hpair
          have halike := hpair.resolve_right fun hapart => Bool.noConfusion hapart.2
          rw [hhandoff.decode_flushed (serves_handoff stream) hundoes hidentity, Bool.true_and]
          split
          case isTrue => exact holds_open (Reply.decoded_ne_nothing _ _)
          case isFalse hcoded =>
            rw [hstands.coded_eq, Bool.or_eq_true, not_or, decide_eq_true_eq, decide_eq_true_eq,
              not_not] at hcoded
            obtain ⟨hidentities, hdata⟩ := hcoded
            have hbody := halike.ends.bodied_of_takes hdata htakes
            apply holds_differ (Reply.decoded_ne_nothing _ _)
            intro heq
            simp only [Reply.decoded, halike.headers_eq, halike.status_eq, halike.data_eq,
              hidentities, hidentity, hbody, Bool.false_eq_true, if_false, Received.mk.injEq,
              Option.some.injEq, Decoded.mk.injEq] at heq
            have hlonger := congrArg List.length heq.2.2.2.2.1
            simp only [List.length_append] at hlonger
            have hpositive := List.length_pos_of_ne_nil hdata
            omega

/-- A piece or a file that only the worker sends. -/
theorem InStep.lone_taken {reply : Reply} {pieces : Bool} {message : SendMessage} {data : Bytes}
    {more : Bool} {remaining : List SendMessage}
    (hworker : Replying rules side stream stream.workerEnv reply pieces false worker)
    (hhandoff : Mute side handoff)
    (hsend : (fileBridge (workerServes stream)).send stream.workerEnv worker.state message =
      some (withPiece worker.state data more))
    (htakes : reply.delimiting.takes data more = true) :
    InStep env rules side stream contentDecode peer (workerSend env stream worker message)
      (handoffSend env stream handoff message) (.decided ⟨true, some false⟩) remaining := by
  refine .decided fun messages => holds_mute ?_ ?_
  · obtain ⟨rest, delimiting, ended, hsome⟩ :=
      hworker.worker_taken hsends hundoes hidentity hsend htakes messages
    rw [hsome]
    exact Reply.decoded_ne_nothing _ _
  · have hkept := hhandoff.silent.send hsends (serves_handoff stream) message
    exact (hkept.mute hhandoff.written).ends hsends messages

omit hundoes hidentity in
/-- A message that leaves the worker's head where it is. -/
theorem InStep.lone_kept {reply : Reply} {pieces : Bool} {message : SendMessage}
    {remaining : List SendMessage}
    (hworker : Replying rules side stream stream.workerEnv reply pieces false worker)
    (hhandoff : Mute side handoff)
    (hkept : Kept side (workerServes stream) worker (workerSend env stream worker message)) :
    InStep env rules side stream contentDecode peer (workerSend env stream worker message)
      (handoffSend env stream handoff message) (.decided ⟨false, some true⟩) remaining := by
  have hnone : worker.written = [] := hworker.sent
  refine .decided fun messages => holds_nothing ?_ ?_
  · rw [hkept.silent.workerEnds hsends (hkept.side_ne hworker.side_ne), hkept.written, hnone]
    rfl
  · have hkept' := hhandoff.silent.send hsends (serves_handoff stream) message
    exact (hkept'.mute hhandoff.written).ends hsends messages

/-- Once both have started the response, they are in step. -/
theorem InStep.of_openings {status : ℕ} {headers : List Header} {encoder : Option Compressor}
    {opening opening' : Opening} {remaining : List SendMessage}
    (hmethod : peer.method = stream.request.method)
    (hworker : Begun rules side stream stream.workerEnv (some peer) status headers encoder true
      worker opening)
    (hhandoff : Held rules side stream status headers handoff opening')
    (hdeferred : opening' = .deferred → opening = .deferred)
    (hplain : ∀ delimiting, opening' = .opened true delimiting → opening ≠ .deferred ∧
      ∀ other, opening ≠ .opened false other)
    (hbodied : (encoderLeft headers encoder).isSome → bodylessStatus status = false ∧
      stream.request.method ≠ ascii "HEAD")
    (hdeclared : valuesOf (ascii "content-length") (sanitizeHeaders headers) ≠ [] →
      ascii "content-length" ∈ startNames stream.messages) :
    InStep env rules side stream contentDecode peer worker handoff
      (Progress.opened stream status headers opening opening') remaining := by
  cases hworker with
  | deferred hdeferring =>
      exact .deferred hdeferring hhandoff fun delimiting heq => (hplain delimiting heq).1 rfl
  | refused hrejected =>
      cases hhandoff with
      | deferred _ => cases hdeferred rfl
      | refused hmute =>
          exact .decided fun messages =>
            holds_mute (hrejected.ne_nothing hsends messages) (hmute.ends hsends messages)
      | opened encoder' hreplying =>
          refine .decided fun messages => ?_
          have hanswered : decode contentDecode stream (workerEnds env stream worker messages) ≠
              nothing := hrejected.ne_nothing hsends messages
          split
          case isTrue => exact holds_open hanswered
          case isFalse hstatus =>
            apply holds_differ hanswered
            intro heq
            obtain ⟨final, hfinal, herror⟩ := hrejected.workerEnds hsends messages
            have hleft := hreplying.run (serves_handoff stream) hundoes hidentity hsends
              (Option.some_ne_none false).symm messages
            rw [← heq, handoffEnds, finishHandoff_started hleft.started] at hfinal
            rcases hleft.written with ⟨-, hnone⟩ | ⟨data, delimiting, ended, hdecode⟩
            · rw [hnone] at hfinal
              cases hfinal
            · rw [hdecode] at hfinal
              cases hfinal
              exact hstatus herror
  | tunnel _ =>
      exact .decided fun messages => holds_tunnel _ _
  | opened hswitch hreplying =>
      cases hhandoff with
      | deferred _ => cases hdeferred rfl
      | refused hmute =>
          refine .lone hreplying hmute rfl ?_
          simp
      | opened encoder' hreplying' =>
          have hmono : (encoderLeft headers encoder').isSome → (encoderLeft headers encoder).isSome := by
            intro hsome
            by_contra hnone
            rw [Bool.not_eq_true] at hnone
            have hsome' : (openReply rules none status headers encoder').encoder.isSome = true :=
              hsome
            have hnone' : (openReply rules (some peer) status headers encoder).encoder.isSome =
              false := hnone
            exact (hplain _ (by rw [hsome'])).2 _ (by rw [hnone'])
          have hpair : Alike rules stream (openReply rules (some peer) status headers encoder)
                (openReply rules none status headers encoder') ∨
              Apart rules stream (openReply rules (some peer) status headers encoder)
                (openReply rules none status headers encoder') :=
            openReply_pair hmethod hswitch hmono hbodied hdeclared
          refine .sending hreplying hreplying' (hpair.imp_right fun hapart => ⟨hapart, rfl⟩)
            ⟨rfl, rfl, ?_, rfl⟩
          simp


/-- A piece of the body, once both have started the response. -/
theorem InStep.piece {progress : Progress} {remaining remaining' : List SendMessage}
    (hinstep : InStep env rules side stream contentDecode peer worker handoff progress remaining)
    (hunstarted : progress ≠ .unstarted)
    (hdeferred : ∀ status headers opening, progress ≠ .deferred status headers opening)
    (body : Bytes) (moreBody : Bool) :
    InStep env rules side stream contentDecode peer
      (workerSend env stream worker (.responseBody body moreBody))
      (handoffSend env stream handoff (.responseBody body moreBody))
      (progress.piece (bodyOf stream body) moreBody) remaining' := by
  cases hinstep with
  | unstarted => exact absurd rfl hunstarted
  | deferred => exact absurd rfl (hdeferred _ _ _)
  | sending hworker hhandoff hpair hstands =>
      exact InStep.sending_piece hsends hundoes hidentity hworker hhandoff hpair hstands body
        moreBody
  | decided hholds =>
      exact .decided fun messages => hholds (.responseBody body moreBody :: messages)
  | @lone reply delimiting pieces files _ hworker hhandoff hdelimiting hfiles =>
      rw [Progress.piece, ← hdelimiting]
      cases pieces with
      | false =>
          obtain ⟨_, hopened, -⟩ := hworker.part
          apply InStep.lone_kept hsends hworker hhandoff
          apply kept_deferred hsends hworker.started hworker.side_ne hopened.running
            hworker.incomplete
          intro hnone
          have hpieces := hworker.pieces_eq
          rw [hnone] at hpieces
          cases hpieces
      | true =>
          have hsend : (fileBridge (workerServes stream)).send stream.workerEnv worker.state
              (.responseBody body moreBody) = _ :=
            hworker.send_body (serves_worker stream) body moreBody
          cases htakes : reply.delimiting.takes (bodyOf stream body) moreBody with
          | false =>
              exact InStep.lone_kept hsends hworker hhandoff
                (hworker.piece_refused hsends hsend htakes)
          | true => exact InStep.lone_taken hsends hundoes hidentity hworker hhandoff hsend htakes

/-- Behind the heads, whatever is sent. -/
theorem InStep.next_started {progress : Progress} {message : SendMessage}
    {remaining : List SendMessage}
    (hinstep : InStep env rules side stream contentDecode peer worker handoff progress
      (message :: remaining))
    (hunstarted : progress ≠ .unstarted)
    (hdeferred : ∀ status headers opening, progress ≠ .deferred status headers opening) :
    InStep env rules side stream contentDecode peer (workerSend env stream worker message)
      (handoffSend env stream handoff message)
      (Progress.next rules env.config.debug stream peer progress message) remaining := by
  have hpiece : ∀ body moreBody, InStep env rules side stream contentDecode peer
      (workerSend env stream worker (.responseBody body moreBody))
      (handoffSend env stream handoff (.responseBody body moreBody))
      (progress.piece (bodyOf stream body) moreBody) remaining := fun body moreBody =>
    hinstep.piece hsends hundoes hidentity hunstarted hdeferred body moreBody
  cases hinstep with
  | unstarted => exact absurd rfl hunstarted
  | deferred => exact absurd rfl (hdeferred _ _ _)
  | @decided verdict _ hholds =>
      have hsame : Progress.next rules env.config.debug stream peer (.decided verdict) message =
          .decided verdict := by
        cases message <;> rfl
      rw [hsame]
      exact .decided fun messages => hholds (message :: messages)
  | sending hworker hhandoff hpair hstands =>
      obtain ⟨_, hopened, -⟩ := hworker.part
      obtain ⟨_, hopened', -⟩ := hhandoff.part
      cases message with
      | responseBody body moreBody => exact hpiece body moreBody
      | responseSendfile content offset count moreBody =>
          exact InStep.sending_file hsends hundoes hidentity hworker hhandoff hpair hstands content
            offset count moreBody
      | responseStart status headers =>
          exact InStep.of_kept hsends hundoes hidentity hworker hhandoff hpair hstands
            (kept_start hsends (serves_worker stream) hworker.started hworker.side_ne
              hopened.running status headers)
            (kept_start hsends (serves_handoff stream) hhandoff.started hhandoff.side_ne
              hopened'.running status headers)
  | @lone reply delimiting pieces files _ hworker hhandoff hdelimiting hfiles =>
      obtain ⟨_, hopened, -⟩ := hworker.part
      cases message with
      | responseBody body moreBody => exact hpiece body moreBody
      | responseStart status headers =>
          exact InStep.lone_kept hsends hworker hhandoff
            (kept_start hsends (serves_worker stream) hworker.started hworker.side_ne
              hopened.running status headers)
      | responseSendfile content offset count moreBody =>
          have hwritten : (files && delimiting.takes ((content.drop offset).take count) moreBody) =
              (stream.canSendfile && (reply.encoder.isNone &&
                reply.delimiting.takes ((content.drop offset).take count) moreBody)) := by
            rw [hfiles, hdelimiting, Bool.and_assoc]
          rw [Progress.next, hwritten]
          cases hfile : stream.canSendfile && (reply.encoder.isNone &&
              reply.delimiting.takes ((content.drop offset).take count) moreBody) with
          | false => exact InStep.lone_kept hsends hworker hhandoff (hworker.file_kept hsends hfile)
          | true =>
              rw [Bool.and_eq_true, Bool.and_eq_true] at hfile
              exact InStep.lone_taken hsends hundoes hidentity hworker hhandoff
                (hworker.file_sent hfile.1 hfile.2.1 content offset count moreBody) hfile.2.2


omit hundoes hidentity in
/-- With a first piece of the body the handoff commits what it has deferred. -/
theorem Held.resolve {status : ℕ} {headers : List Header} {opening : Opening}
    (hheld : Held rules side stream status headers handoff opening)
    (hplain : ∀ delimiting, opening ≠ .opened true delimiting) (body : Bytes) (moreBody : Bool) :
    ∃ committed, ∃ resolved,
      opening.resolved (resolves rules stream stream.handoffEnv none status headers body moreBody) =
        resolved ∧
      Held rules side stream status headers committed resolved ∧
      handoffSend env stream handoff (.responseBody body moreBody) =
        handoffSend env stream committed (.responseBody body moreBody) ∧
      resolved ≠ .deferred ∧
      ∀ delimiting, resolved = .opened true delimiting → (encoderLeft headers
        (resolvedEncoder stream body moreBody stream.handoffEnv.compressor)).isSome := by
  cases hheld with
  | deferred hdeferring =>
      have hpeer : ∀ client : Peer, none = some client →
          client.method = stream.request.method := by
        rintro client ⟨⟩
      obtain ⟨committed, hbegun, hsame⟩ :=
        hdeferring.body hsends (serves_handoff stream) hpeer body moreBody
      refine ⟨committed, resolves rules stream stream.handoffEnv none status headers body moreBody,
        if_pos rfl, hbegun.held, hsame, resolves_ne_deferred _ _ _ _, ?_⟩
      intro delimiting hopened
      rw [hopened] at hbegun
      exact hbegun.encoded.symm
  | refused hmute => exact ⟨handoff, _, rfl, .refused hmute, rfl, Opening.noConfusion,
      fun delimiting heq => Opening.noConfusion heq⟩
  | opened encoder hreplying =>
      exact ⟨handoff, _, rfl, .opened encoder hreplying, rfl, Opening.noConfusion,
        fun delimiting heq => absurd heq (hplain delimiting)⟩

omit hsends hundoes hidentity in
/-- A start that is not deferred has been dealt with. -/
theorem Progress.opened_started (stream : Stream) (status : ℕ) (headers : List Header)
    {opening : Opening} (hopening : opening ≠ .deferred) (opening' : Opening) :
    Progress.opened stream status headers opening opening' ≠ .unstarted ∧
      ∀ status' headers' handoff, Progress.opened stream status headers opening opening' ≠
        .deferred status' headers' handoff := by
  cases opening with
  | deferred => exact absurd rfl hopening
  | refused | tunnel | opened => cases opening' <;> simp [Progress.opened]

/-- A message behind a deferred start. -/
theorem InStep.next_deferred {status : ℕ} {headers : List Header} {opening : Opening}
    {message : SendMessage} {remaining : List SendMessage}
    (hmethod : peer.method = stream.request.method)
    (hworker : Deferring side stream stream.workerEnv (some peer) status headers worker)
    (hhandoff : Held rules side stream status headers handoff opening)
    (hplain : ∀ delimiting, opening ≠ .opened true delimiting) :
    InStep env rules side stream contentDecode peer (workerSend env stream worker message)
      (handoffSend env stream handoff message)
      (Progress.next rules env.config.debug stream peer (.deferred status headers opening) message)
      remaining := by
  have hpeer : ∀ client, some peer = some client → client.method = stream.request.method := by
    rintro client ⟨⟩
    exact hmethod
  cases message with
  | responseSendfile content offset count moreBody =>
      have hmute := hhandoff.mute hsends (.inr ⟨content, offset, count, moreBody, rfl⟩)
      have hfile := hworker.toWaiting.file env.h11 (workerServes_ne stream) (.inr hworker.encodes)
        content offset count moreBody
      have hrejected : Rejected side (some peer) (workerSend env stream worker
          (.responseSendfile content offset count moreBody)) := by
        rw [workerSend, hfile]
        exact ⟨rfl, hworker.started, hworker.written, hworker.side_eq⟩
      exact .decided fun messages =>
        holds_mute (hrejected.ne_nothing hsends messages) (hmute.ends hsends messages)
  | responseStart status' headers' =>
      by_cases hhint : status' = 103
      · subst hhint
        have hmute := hhandoff.mute hsends (.inl ⟨headers', rfl⟩)
        obtain ⟨hstarted, hwritten⟩ :=
          hworker.toWaiting.hint (workerServes stream) hsends headers'
        refine .decided fun messages => holds_mute ?_ (hmute.ends hsends messages)
        cases hnormal : rules.normalize (sanitizeHeaders headers') with
        | none =>
            rw [hnormal] at hwritten
            exact Rejected.ne_nothing hsends ⟨hwritten.1, hstarted.trans hworker.started,
              hwritten.2.1, hwritten.2.2⟩ messages
        | some normalized =>
            rw [hnormal] at hwritten
            exact workerEnds_ne_nothing (rules.normalize_clean _ _ hnormal) hwritten messages
      · have hpieces : worker.state.deferredStart.isNone = false := by
          rw [hworker.deferred]
          rfl
        have hbegun : Begun rules side stream stream.workerEnv (some peer) status' headers' _
            worker.state.deferredStart.isNone
            (workerSend env stream worker (.responseStart status' headers')) _ :=
          hworker.toWaiting.start hsends (serves_worker stream) hpeer hhint
        have hrestart := hhandoff.restart hsends hhint headers'
        have hboth : starts rules stream stream.workerEnv (some peer) status' headers' ≠ .deferred →
            Mute side (handoffSend env stream handoff (.responseStart status' headers')) := by
          intro hne
          rw [if_neg fun hboth => hne (starts_deferred_mono hboth.2)] at hrestart
          cases hrestart with
          | refused hmute => exact hmute
        rw [hpieces] at hbegun
        rw [Progress.next, if_neg hhint]
        generalize starts rules stream stream.workerEnv (some peer) status' headers' = again
          at hbegun hboth ⊢
        cases hbegun with
        | deferred hdeferring =>
            refine .deferred hdeferring hrestart fun delimiting => ?_
            split <;> exact Opening.noConfusion
        | refused hrejected =>
            have hmute := hboth Opening.noConfusion
            exact .decided fun messages =>
              holds_mute (hrejected.ne_nothing hsends messages) (hmute.ends hsends messages)
        | tunnel _ => exact .decided fun messages => holds_tunnel _ _
        | opened _ hreplying =>
            refine .lone hreplying (hboth Opening.noConfusion) rfl ?_
            simp
  | responseBody body moreBody =>
      obtain ⟨committed, hbegun, hsame⟩ : ∃ committed,
          Begun rules side stream stream.workerEnv (some peer) status headers _ true committed _ ∧
            workerSend env stream worker (.responseBody body moreBody) =
              workerSend env stream committed (.responseBody body moreBody) :=
        hworker.body hsends (serves_worker stream) hpeer body moreBody
      obtain ⟨committed', resolved, hresolved, hheld, hsame', hdeferred, hencoded⟩ :=
        hhandoff.resolve hsends hplain body moreBody
      have hopening : resolves rules stream stream.workerEnv (some peer) status headers body
          moreBody ≠ .deferred := resolves_ne_deferred _ _ _ _
      have hinstep : InStep env rules side stream contentDecode peer committed committed'
          (Progress.opened stream status headers
            (resolves rules stream stream.workerEnv (some peer) status headers body moreBody)
            resolved) [] := by
        refine InStep.of_openings hsends hundoes hidentity hmethod hbegun hheld
          (fun heq => absurd heq hdeferred) ?_ (fun _ => hworker.bodied)
          fun hsome => absurd hworker.undeclared hsome
        intro delimiting heq
        refine ⟨hopening, fun other hopened => ?_⟩
        rw [hopened] at hbegun
        have hsome := encoderLeft_mono (resolvedEncoder_mono handoffEnv_compressor)
          (hencoded delimiting heq)
        rw [← hbegun.encoded] at hsome
        cases hsome
      obtain ⟨hunstarted, hnot⟩ := Progress.opened_started stream status headers hopening resolved
      rw [Progress.next, hresolved, hsame, hsame']
      exact hinstep.piece hsends hundoes hidentity hunstarted hnot body moreBody


omit hundoes in
/-- Where both answer an error, `failed` is right. -/
theorem failed_holds (hmethod : peer.method = stream.request.method)
    (hworker : Failing side stream (some peer) worker)
    (hhandoff : Failing side stream none handoff) :
    (failed env.config.debug stream).Holds
      (decode contentDecode stream (finishRequest env stream worker).written)
      (decode contentDecode stream (finishHandoff env stream handoff)) := by
  have hanswered : decode contentDecode stream (finishRequest env stream worker).written ≠
      nothing := (finishRequest_answers hsends hworker.side_eq (.inl hworker.failed)).ne_nothing
        hworker.written
  refine ⟨fun _ => hanswered, fun heq => Bool.noConfusion heq, fun same hsame => ?_⟩
  rw [failed] at hsame
  split at hsame
  case isTrue hregular =>
    cases hsame
    exact errors_agree hsends hidentity hmethod hworker hhandoff hregular
  case isFalse => cases hsame

/-- The first message. -/
theorem InStep.next_unstarted {message : SendMessage} {remaining : List SendMessage}
    (hmethod : peer.method = stream.request.method)
    (hremaining : message :: remaining = stream.messages)
    (hworker : Waiting side stream.workerEnv (some peer) worker)
    (hhandoff : Waiting side stream.handoffEnv none handoff)
    (hfresh : worker.state.responseStarted = false ∧ worker.state.deferredStart = none)
    (hfresh' : handoff.state.responseStarted = false ∧ handoff.state.deferredStart = none) :
    InStep env rules side stream contentDecode peer (workerSend env stream worker message)
      (handoffSend env stream handoff message)
      (Progress.next rules env.config.debug stream peer .unstarted message) remaining := by
  have hboth : ∀ {worker' handoff' : Transmission Conn}, worker'.raised = true →
      worker'.state.responseStarted = false → worker'.written = [] →
      side worker'.conn = .awaiting (some peer) → handoff'.raised = true →
      handoff'.state.responseStarted = false → handoff'.written = [] →
      side handoff'.conn = .awaiting none →
      InStep env rules side stream contentDecode peer worker' handoff'
        (.decided (failed env.config.debug stream)) remaining := by
    intro worker' handoff' hraised hstarted hwritten hside hraised' hstarted' hwritten' hside'
    refine .decided fun messages => ?_
    rw [workerEnds, handoffEnds, run_raised _ _ hraised, run_raised _ _ hraised']
    exact failed_holds hsends hidentity hmethod
      ⟨hside, by rw [hraised, Bool.true_or], hstarted, hwritten⟩
      ⟨hside', by rw [hraised', Bool.true_or], hstarted', hwritten'⟩
  have herror : workerSend env stream worker message = { worker with raised := true } →
      handoffSend env stream handoff message = { handoff with raised := true } →
      InStep env rules side stream contentDecode peer (workerSend env stream worker message)
        (handoffSend env stream handoff message)
        (.decided (failed env.config.debug stream)) remaining := by
    intro hsame hsame'
    rw [hsame, hsame']
    exact hboth rfl hfresh.1 hworker.written hworker.side_eq rfl hfresh'.1 hhandoff.written
      hhandoff.side_eq
  cases message with
  | responseBody body moreBody =>
      apply herror
      · exact send_error hworker.running (by simp [Bridge.send, Bridge.sendBody, hfresh.1])
      · exact send_error hhandoff.running (by simp [Bridge.send, Bridge.sendBody, hfresh'.1])
  | responseSendfile content offset count moreBody =>
      exact herror (hworker.file env.h11 (workerServes_ne stream) (.inl hfresh.1) ..)
        (hhandoff.file env.h11 (Option.some_ne_none false).symm (.inl hfresh'.1) ..)
  | responseStart status headers =>
      by_cases hhint : status = 103
      · subst hhint
        obtain ⟨hstarted, hafter⟩ := hworker.hint (workerServes stream) hsends headers
        obtain ⟨hstarted', hafter'⟩ := hhandoff.hint none hsends headers
        rw [Progress.next, if_pos rfl]
        cases hnormal : rules.normalize (sanitizeHeaders headers) with
        | none =>
            rw [hnormal] at hafter hafter'
            exact hboth hafter.1 (hstarted.trans hfresh.1) hafter.2.1 hafter.2.2 hafter'.1
              (hstarted'.trans hfresh'.1) hafter'.2.1 hafter'.2.2
        | some normalized =>
            rw [hnormal] at hafter hafter'
            refine .decided fun messages => holds_mute ?_ ?_
            · exact workerEnds_ne_nothing (rules.normalize_clean _ _ hnormal) hafter messages
            · obtain ⟨hraised, hwritten, hdone⟩ := hafter'
              rw [handoffEnds, run_raised _ _ hraised, finishHandoff_refused hsends, hwritten]
              · rfl
              · intro other heq
                cases hdone.symm.trans heq
      · have hpeer : ∀ client, some peer = some client →
            client.method = stream.request.method := by
          rintro client ⟨⟩
          exact hmethod
        have hnone : ∀ client : Peer, none = some client →
            client.method = stream.request.method := by
          rintro client ⟨⟩
        have hpieces : worker.state.deferredStart.isNone = true := by
          rw [hfresh.2]
          rfl
        have hpieces' : handoff.state.deferredStart.isNone = true := by
          rw [hfresh'.2]
          rfl
        have hbegun : Begun rules side stream stream.workerEnv (some peer) status headers _
            worker.state.deferredStart.isNone
            (workerSend env stream worker (.responseStart status headers)) _ :=
          hworker.start hsends (serves_worker stream) hpeer hhint
        have hbegun' : Begun rules side stream stream.handoffEnv none status headers _
            handoff.state.deferredStart.isNone
            (handoffSend env stream handoff (.responseStart status headers)) _ :=
          hhandoff.start hsends (serves_handoff stream) hnone hhint
        rw [hpieces] at hbegun
        rw [hpieces'] at hbegun'
        rw [Progress.next, if_neg hhint]
        refine InStep.of_openings hsends hundoes hidentity hmethod hbegun hbegun'.held
          starts_deferred_mono ?_ ?_ ?_
        · intro delimiting hopened
          rw [hopened] at hbegun'
          have hsome' := hbegun'.encoded.symm
          refine ⟨fun hdeferred => ?_, fun other hopened' => ?_⟩
          · rw [starts_deferred] at hdeferred
            have hdeferred' : starts rules stream stream.handoffEnv none status headers =
                .deferred := starts_deferred.mpr ⟨⟨startEncoder_of_committed
              (encoderLeft_isSome hsome'), hdeferred.1.2⟩, hdeferred.2⟩
            rw [hdeferred'] at hopened
            cases hopened
          · rw [hopened'] at hbegun
            have hsome := encoderLeft_mono (committedEncoder_mono handoffEnv_compressor) hsome'
            rw [← hbegun.encoded] at hsome
            cases hsome
        · intro hsome
          obtain ⟨used, hused⟩ := Option.isSome_iff_exists.mp (encoderLeft_isSome hsome)
          exact (committedEncoder_eq hused).2
        · intro hdeclared
          rw [← hremaining]
          exact declared_mem hdeclared

/-- One message for both. -/
theorem InStep.next {progress : Progress} {message : SendMessage} {remaining : List SendMessage}
    (hmethod : peer.method = stream.request.method)
    (hinstep : InStep env rules side stream contentDecode peer worker handoff progress
      (message :: remaining)) :
    InStep env rules side stream contentDecode peer (workerSend env stream worker message)
      (handoffSend env stream handoff message)
      (Progress.next rules env.config.debug stream peer progress message) remaining := by
  cases hinstep with
  | unstarted hremaining hworker hhandoff hfresh hfresh' =>
      exact InStep.next_unstarted hsends hundoes hidentity hmethod hremaining hworker hhandoff hfresh
        hfresh'
  | deferred hworker hhandoff hplain =>
      exact InStep.next_deferred hsends hundoes hidentity hmethod hworker hhandoff hplain
  | sending hworker hhandoff hpair hstands =>
      exact InStep.next_started hsends hundoes hidentity (.sending hworker hhandoff hpair hstands)
        Progress.noConfusion fun _ _ _ => Progress.noConfusion
  | lone hworker hhandoff hdelimiting hfiles =>
      exact InStep.next_started hsends hundoes hidentity (.lone hworker hhandoff hdelimiting hfiles)
        Progress.noConfusion fun _ _ _ => Progress.noConfusion
  | decided hholds =>
      exact InStep.next_started hsends hundoes hidentity (.decided hholds)
        Progress.noConfusion fun _ _ _ => Progress.noConfusion

/-- All messages. -/
theorem InStep.run {progress : Progress} {messages : List SendMessage}
    (hmethod : peer.method = stream.request.method)
    (hinstep : InStep env rules side stream contentDecode peer worker handoff progress messages) :
    InStep env rules side stream contentDecode peer
      (messages.foldl (workerSend env stream) worker)
      (messages.foldl (handoffSend env stream) handoff)
      (messages.foldl (Progress.next rules env.config.debug stream peer) progress) [] := by
  induction messages generalizing worker handoff progress with
  | nil => exact hinstep
  | cons message messages ih => exact ih (hinstep.next hsends hundoes hidentity hmethod)

/-- At the end of the application the verdict holds. -/
theorem InStep.finish {progress : Progress} (hmethod : peer.method = stream.request.method)
    (hinstep : InStep env rules side stream contentDecode peer worker handoff progress []) :
    (progress.atEnd env.config.debug stream).Holds
      (decode contentDecode stream (finishRequest env stream worker).written)
      (decode contentDecode stream (finishHandoff env stream handoff)) := by
  cases hinstep with
  | decided hholds => exact hholds []
  | sending hworker hhandoff hpair hstands =>
      rw [finishRequest_started hsends hworker.started hworker.side_ne,
        finishHandoff_started hhandoff.started]
      exact Stands.broken hundoes hidentity hworker hhandoff hpair hstands
  | lone hworker hhandoff hdelimiting hfiles =>
      have hnone : worker.written = [] := hworker.sent
      rw [finishRequest_started hsends hworker.started hworker.side_ne,
        finishHandoff_started hhandoff.silent.started, hnone, hhandoff.written]
      exact holds_nothing rfl rfl
  | deferred hworker hhandoff hplain =>
      rw [finishHandoff_started hhandoff.written.2, hhandoff.written.1, Progress.atEnd]
      cases hraises : stream.raises with
      | true =>
          have herror : (worker.raised || stream.raises) = true := by rw [hraises, Bool.or_true]
          exact holds_mute ((finishRequest_answers hsends hworker.side_eq (.inl herror)).ne_nothing
            hworker.written) rfl
      | false =>
          have hquiet : (worker.raised || stream.raises) = false := by
            rw [hraises, hworker.running]
            rfl
          have hlast : (finishRequest env stream worker).written = worker.written := by
            rw [finishRequest, hquiet, if_neg Bool.false_ne_true, if_pos hworker.started]
          rw [hlast, hworker.written]
          exact holds_nothing rfl rfl
  | unstarted hremaining hworker hhandoff hfresh hfresh' =>
      rw [Progress.atEnd]
      cases hraises : stream.raises with
      | true =>
          exact failed_holds hsends hidentity hmethod
            ⟨hworker.side_eq, by rw [hraises, Bool.or_true], hfresh.1, hworker.written⟩
            ⟨hhandoff.side_eq, by rw [hraises, Bool.or_true], hfresh'.1, hhandoff.written⟩
      | false =>
          have hquiet : (handoff.raised || stream.raises) = false := by
            rw [hraises, hhandoff.running]
            rfl
          have hlast : finishHandoff env stream handoff = handoff.written := by
            rw [finishHandoff, hquiet, Bool.false_and, if_neg Bool.false_ne_true]
          rw [hlast, hhandoff.written]
          exact holds_mute ((finishRequest_answers hsends hworker.side_eq
            (.inr hfresh.1)).ne_nothing hworker.written) rfl

end

end

end Pounce.AsyncPool
