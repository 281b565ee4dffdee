/-
# Two replies

A reply of the worker and one of a handoff that answer the same messages. They are `Alike` if
a client decodes the same from them, up to the end of chunks that only the worker may miss, or
`Apart` if the client gets a length from the handoff alone.
-/

import Pounce.AsyncPool.Answers

namespace Pounce.AsyncPool

open Pounce.Math Pounce.Math.Bytes Pounce.Math.Message Pounce.Asgi

universe u

/-! ## Replies -/

/-- The ends of two bodies are marked so that a client finds the same body. -/
inductive Ends (method : Bytes) (status : ℕ) : Delimiting → Delimiting → Prop
  | empty (hbody : bodyless method status = true) {handoff : Delimiting}
      (hempty : method = ascii "HEAD" ∨ handoff = .length 0) :
      Ends method status (.length 0) handoff
  | length (hbody : bodyless method status = false) (left : ℕ) :
      Ends method status (.length left) (.length left)
  | unknown (hbody : bodyless method status = false) {worker : Delimiting}
      (hunknown : worker.isUnknown = true) : Ends method status worker .close

namespace Ends

variable {method : Bytes} {status : ℕ} {worker handoff : Delimiting} {data : Bytes} {more : Bool}

/-- What the worker does not take the handoff does not take. -/
theorem refuses (hends : Ends method status worker handoff)
    (hdata : method = ascii "HEAD" → data = []) (hworker : worker.takes data more = false) :
    handoff.takes data more = false := by
  cases hends with
  | empty hbody hempty =>
      rcases hempty with hhead | rfl
      · rw [hdata hhead] at hworker
        simp [Delimiting.takes] at hworker
      · exact hworker
  | length hbody left => exact hworker
  | unknown hbody hunknown =>
      rw [Delimiting.takes_unknown hunknown] at hworker
      cases hworker

/-- The handoff takes what the worker takes if there is a body. -/
theorem bodyless_of_takes (hends : Ends method status worker handoff)
    (hworker : worker.takes data more = true) (hhandoff : handoff.takes data more = false) :
    bodyless method status = true := by
  cases hends with
  | empty hbody _ => exact hbody
  | length hbody left =>
      rw [hworker] at hhandoff
      cases hhandoff
  | unknown hbody hunknown => cases hhandoff

/-- A piece that is not empty is taken only of a body. -/
theorem bodied_of_takes (hends : Ends method status worker handoff) (hdata : data ≠ [])
    (hworker : worker.takes data more = true) : bodyless method status = false := by
  cases hends with
  | empty hbody _ => simp [Delimiting.takes, hdata] at hworker
  | length hbody left => exact hbody
  | unknown hbody hunknown => exact hbody

/-- The ends stay marked alike. -/
theorem after (hends : Ends method status worker handoff) (data : Bytes) :
    Ends method status (worker.after data) (handoff.after data) := by
  cases hends with
  | empty hbody hempty =>
      simp only [Delimiting.after, Nat.zero_sub]
      refine .empty hbody (hempty.imp_right ?_)
      rintro rfl
      simp
  | length hbody left => exact .length hbody _
  | unknown hbody hunknown =>
      refine .unknown hbody ?_
      rw [Delimiting.after_unknown hunknown, hunknown]

/-- The client gets no length from the handoff alone. -/
theorem alike (hends : Ends method status worker handoff) :
    (worker.isUnknown && !handoff.isUnknown) = false := by
  cases hends with
  | empty hbody _ => rfl
  | length hbody left => rfl
  | unknown hbody hunknown => simp [Delimiting.isUnknown]

/-- Bodies that were ended are complete for both. -/
theorem complete_ended (hends : Ends method status worker handoff) :
    (bodyless method status || worker.complete true) =
      (bodyless method status || handoff.complete true) := by
  cases hends with
  | empty hbody _ => rw [hbody, Bool.true_or, Bool.true_or]
  | length hbody left => rfl
  | unknown hbody hunknown =>
      cases worker with
      | length left => cases hunknown
      | chunked | close => rfl

/-- Bodies that were broken off are complete for both but for missing chunks. -/
theorem complete_broken (hends : Ends method status worker handoff) :
    (bodyless method status || handoff.complete false) =
        (bodyless method status || worker.complete false) ↔ worker ≠ .chunked := by
  cases hends with
  | empty hbody _ => simp [hbody]
  | length hbody left => simp
  | unknown hbody hunknown =>
      cases worker with
      | length left => cases hunknown
      | chunked => simp [hbody, Delimiting.complete]
      | close => simp [hbody, Delimiting.complete]

end Ends

/-- A client decodes the same from both. -/
structure Alike (rules : HeaderRules) (stream : Stream) (worker handoff : Reply) : Prop where
  status_eq : handoff.status = worker.status
  headers_eq : handoff.headers = worker.headers
  data_eq : handoff.data = worker.data
  lengths_eq : writtenLengths rules handoff.status handoff.headers handoff.encoder.isSome =
    writtenLengths rules worker.status worker.headers worker.encoder.isSome
  ends : Ends stream.request.method worker.status worker.delimiting handoff.delimiting

/-- The client gets a length from the handoff alone. -/
structure Apart (rules : HeaderRules) (stream : Stream) (worker handoff : Reply) : Prop where
  worker_unknown : worker.delimiting.isUnknown = true
  handoff_known : handoff.delimiting.isUnknown = false
  lengths_ne : writtenLengths rules handoff.status handoff.headers handoff.encoder.isSome ≠
    writtenLengths rules worker.status worker.headers worker.encoder.isSome
  declared : ascii "content-length" ∈ startNames stream.messages

section

variable {rules : HeaderRules} {stream : Stream} {worker handoff : Reply}
variable {contentDecode : List Bytes → Bytes → Option Bytes}

/-- One more piece for both. -/
theorem Alike.add (halike : Alike rules stream worker handoff) (data : Bytes) :
    Alike rules stream (worker.add data) (handoff.add data) where
  status_eq := halike.status_eq
  headers_eq := halike.headers_eq
  data_eq := congrArg (· ++ data) halike.data_eq
  lengths_eq := halike.lengths_eq
  ends := halike.ends.after data

/-- What a client decodes differs at most about the end of the body. -/
theorem Alike.decoded_iff (halike : Alike rules stream worker handoff) (ended ended' : Bool) :
    handoff.decoded rules stream contentDecode ended' =
        worker.decoded rules stream contentDecode ended ↔
      (bodyless stream.request.method worker.status || handoff.delimiting.complete ended') =
        (bodyless stream.request.method worker.status || worker.delimiting.complete ended) := by
  rw [Reply.decoded, Reply.decoded, halike.lengths_eq, halike.status_eq, halike.headers_eq,
    halike.data_eq]
  simp

/-- Without a body neither the data nor the end matter. -/
theorem Reply.decoded_bodyless {reply : Reply}
    (hbody : bodyless stream.request.method reply.status = true) (data : Bytes)
    (delimiting : Delimiting) (ended ended' : Bool) :
    { reply with data := data, delimiting := delimiting }.decoded rules stream contentDecode ended =
      reply.decoded rules stream contentDecode ended' := by
  simp [Reply.decoded, hbody]

/-- A client that gets a length from one of two notices. -/
theorem Apart.decoded_ne (hapart : Apart rules stream worker handoff) (data data' : Bytes)
    (delimiting delimiting' : Delimiting) (ended ended' : Bool) :
    { handoff with data := data', delimiting := delimiting' }.decoded rules stream contentDecode
        ended' ≠
      { worker with data := data, delimiting := delimiting }.decoded rules stream contentDecode
        ended := by
  intro heq
  simp only [Reply.decoded, hapart.declared, if_true, Received.mk.injEq, Option.some.injEq,
    Decoded.mk.injEq] at heq
  exact hapart.lengths_ne heq.2.2.2.1

end

/-! ## How the two open -/

section

variable {rules : HeaderRules} {stream : Stream} {status : ℕ} {headers : List Header}
variable {compressor compressor' encoder encoder' : Option Compressor} {peer : Peer}

/-- A handoff has negotiated an encoder only if the worker has. -/
theorem handoffEnv_compressor (hsome : stream.handoffEnv.compressor.isSome) :
    stream.workerEnv.compressor.isSome := by
  show ((stream.dictionary.map (·.1)).or stream.encoder).isSome = true
  rw [Option.isSome_or, Bool.or_eq_true]
  exact .inr hsome

theorem startEncoder_mono (hmono : compressor'.isSome → compressor.isSome)
    (hsome : (startEncoder stream status compressor').isSome) :
    (startEncoder stream status compressor).isSome := by
  rw [startEncoder] at hsome ⊢
  split at hsome
  case isTrue => cases hsome
  case isFalse hbody =>
    rw [if_neg hbody]
    exact hmono hsome

/-- An encoder that a response is started with was left for its status. -/
theorem startEncoder_of_committed
    (hsome : (committedEncoder stream status headers compressor).isSome) :
    (startEncoder stream status compressor).isSome := by
  obtain ⟨used, hused⟩ := Option.isSome_iff_exists.mp hsome
  have hcommitted := committedEncoder_eq hused
  rw [startEncoder, if_neg (by simp [hcommitted.2]), hcommitted.1]
  rfl

theorem committedEncoder_mono (hmono : compressor'.isSome → compressor.isSome)
    (hsome : (committedEncoder stream status headers compressor').isSome) :
    (committedEncoder stream status headers compressor).isSome := by
  have hstart := startEncoder_of_committed hsome
  have hstart' : (startEncoder stream status compressor).isSome := startEncoder_mono hmono hstart
  simp only [committedEncoder, hstart, hstart', true_and] at hsome ⊢
  split at hsome
  case isTrue hsize =>
    rw [if_pos hsize]
    split at hsome
    case h_1 declared hlength =>
      split at hsome
      case isTrue => cases hsome
      case isFalse hbelow => rwa [if_neg hbelow]
    case h_2 hlength => exact hstart'
  case isFalse hsize => rwa [if_neg hsize]

/-- An encoder that is left is the one there was. -/
theorem encoderLeft_isSome (hsome : (encoderLeft headers encoder).isSome) : encoder.isSome := by
  rw [encoderLeft] at hsome
  split at hsome
  case isTrue => cases hsome
  case isFalse => exact hsome

theorem encoderLeft_mono (hmono : encoder'.isSome → encoder.isSome)
    (hsome : (encoderLeft headers encoder').isSome) : (encoderLeft headers encoder).isSome := by
  rw [encoderLeft] at hsome ⊢
  split at hsome
  case isTrue => cases hsome
  case isFalse hskips =>
    rw [if_neg hskips]
    exact hmono hsome

/-- A head that is committed is not deferred. -/
theorem commits_ne_deferred (env : SendEnv) (peer : Option Peer) (encoder : Option Compressor) :
    commits rules env peer encoder status headers ≠ .deferred := by
  rw [commits]
  split
  · exact Opening.noConfusion
  · split <;> exact Opening.noConfusion

/-- The condition for a start to be deferred. -/
theorem starts_deferred {env : SendEnv} {peer : Option Peer} :
    starts rules stream env peer status headers = .deferred ↔
      ((startEncoder stream status env.compressor).isSome ∧ 0 < stream.compressionMinSize) ∧
        getHeader (sanitizeHeaders headers) (ascii "content-length") = none := by
  rw [starts]
  split
  case isTrue hencodes =>
    cases getHeader (sanitizeHeaders headers) (ascii "content-length") with
    | none => simp [hencodes]
    | some declared => simp [commits_ne_deferred]
  case isFalse hplain => simp [commits_ne_deferred, hplain]

/-- The handoff defers a start only if the worker does. -/
theorem starts_deferred_mono
    (hdeferred : starts rules stream stream.handoffEnv none status headers = .deferred) :
    starts rules stream stream.workerEnv (some peer) status headers = .deferred := by
  rw [starts_deferred] at hdeferred ⊢
  exact ⟨⟨startEncoder_mono handoffEnv_compressor hdeferred.1.1, hdeferred.1.2⟩, hdeferred.2⟩

/-- With a first piece of the body a start is not deferred any longer. -/
theorem resolves_ne_deferred (env : SendEnv) (peer : Option Peer) (body : Bytes) (moreBody : Bool) :
    resolves rules stream env peer status headers body moreBody ≠ .deferred :=
  commits_ne_deferred env peer _

theorem resolvedEncoder_mono {body : Bytes} {moreBody : Bool}
    (hmono : compressor'.isSome → compressor.isSome)
    (hsome : (resolvedEncoder stream body moreBody compressor').isSome) :
    (resolvedEncoder stream body moreBody compressor).isSome := by
  rw [resolvedEncoder] at hsome ⊢
  generalize shouldCompressBody _ _ = compresses at hsome ⊢
  cases compresses with
  | true => exact hmono hsome
  | false => cases hsome

/-- A length that is declared is a name of the application's start. -/
theorem declared_mem {messages : List SendMessage}
    (hsome : valuesOf (ascii "content-length") (sanitizeHeaders headers) ≠ []) :
    ascii "content-length" ∈ startNames (.responseStart status headers :: messages) := by
  obtain ⟨value, hvalue⟩ := List.exists_mem_of_ne_nil _ hsome
  obtain ⟨header, hmem, -⟩ := List.mem_map.mp hvalue
  obtain ⟨hin, hlower⟩ := List.mem_filter.mp hmem
  rw [decide_eq_true_eq] at hlower
  exact List.mem_append_left _ (List.mem_map.mpr ⟨header, hin, hlower⟩)

/-- With a body the end is marked by the length, or else by what the client understands. -/
theorem delimitingOf_bodied {client : Option Peer} (hstatus : status ≠ 204)
    (hstatus' : status ≠ 304) (hhead : client.any (·.method = ascii "HEAD") = false)
    (encoded : Bool) :
    delimitingOf rules client status headers encoded =
      (announcedLength rules headers encoded).elim
        (if client.any (·.http11) then .chunked else .close) .length := by
  rw [delimitingOf, if_neg]
  · cases announcedLength rules headers encoded <;> rfl
  · simp [hstatus, hstatus', hhead]

/-- Two heads that are sent for the same start open two replies that are alike or apart. -/
theorem openReply_pair (hmethod : peer.method = stream.request.method)
    (hswitch : switchesProtocol (some peer.method) status = false)
    (hmono : (encoderLeft headers encoder').isSome → (encoderLeft headers encoder).isSome)
    (hbodied : (encoderLeft headers encoder).isSome → bodylessStatus status = false ∧
      stream.request.method ≠ ascii "HEAD")
    (hdeclared : valuesOf (ascii "content-length") (sanitizeHeaders headers) ≠ [] →
      ascii "content-length" ∈ startNames stream.messages) :
    Alike rules stream (openReply rules (some peer) status headers encoder)
        (openReply rules none status headers encoder') ∨
      Apart rules stream (openReply rules (some peer) status headers encoder)
        (openReply rules none status headers encoder') := by
  have hplain : (encoderLeft headers encoder).isSome = false →
      (encoderLeft headers encoder').isSome = false := fun hnone => by simpa [hnone] using hmono
  by_cases hempty : status = 204 ∨ status = 304 ∨ stream.request.method = ascii "HEAD"
  · have hnone : (encoderLeft headers encoder).isSome = false := by
      by_contra hsome
      rw [Bool.not_eq_false] at hsome
      obtain ⟨hstatus, hhead⟩ := hbodied hsome
      rcases hempty with rfl | rfl | hmethod
      · simp [bodylessStatus] at hstatus
      · simp [bodylessStatus] at hstatus
      · exact hhead hmethod
    have hbody : bodyless stream.request.method status = true := by
      rcases hempty with rfl | rfl | hhead
      · simp [bodyless]
      · simp [bodyless]
      · simp [bodyless, hhead]
    have hworker : (openReply rules (some peer) status headers encoder).delimiting = .length 0 := by
      apply if_pos
      simpa [hmethod] using hempty
    refine .inl ⟨rfl, rfl, rfl, ?_, ?_⟩
    · simp only [openReply, hnone, hplain hnone]
    · rw [hworker]
      refine .empty hbody ?_
      rcases hempty with hstatus | hstatus | hhead
      · exact .inr (if_pos (.inl hstatus))
      · exact .inr (if_pos (.inr (.inl hstatus)))
      · exact .inl hhead
  · obtain ⟨hstatus, hempty⟩ := not_or.mp hempty
    obtain ⟨hstatus', hhead⟩ := not_or.mp hempty
    have hbody : bodyless stream.request.method status = false := by
      rw [hmethod] at hswitch
      simp only [bodyless, hhead, hstatus, hstatus', decide_false, Bool.false_or]
      simpa [switchesProtocol] using hswitch
    have hworker : (openReply rules (some peer) status headers encoder).delimiting =
        (announcedLength rules headers (encoderLeft headers encoder).isSome).elim
          (if peer.http11 then .chunked else .close) .length :=
      delimitingOf_bodied hstatus hstatus' (by simp [hmethod, hhead]) _
    have hhandoff : (openReply rules none status headers encoder').delimiting =
        (announcedLength rules headers (encoderLeft headers encoder').isSome).elim .close
          .length := delimitingOf_bodied hstatus hstatus' rfl _
    have hunknown : ∀ encoded, announcedLength rules headers encoded = none →
        writtenLengths rules status headers encoded = [] := by
      intro encoded hnone
      exact if_pos ⟨hstatus, hstatus', hnone⟩
    cases hwith : announcedLength rules headers (encoderLeft headers encoder).isSome with
    | some length =>
        have hoff : (encoderLeft headers encoder).isSome = false := by
          by_contra hsome
          rw [Bool.not_eq_false] at hsome
          have hnone : announcedLength rules headers (encoderLeft headers encoder).isSome = none :=
            if_pos (.inl hsome)
          rw [hnone] at hwith
          cases hwith
        have hoff' := hplain hoff
        rw [hwith, Option.elim_some] at hworker
        rw [hoff', ← hoff, hwith, Option.elim_some] at hhandoff
        refine .inl ⟨rfl, rfl, rfl, ?_, ?_⟩
        · simp only [openReply, hoff, hoff']
        · rw [hworker, hhandoff]
          exact .length hbody length
    | none =>
        rw [hwith, Option.elim_none] at hworker
        have hends : (openReply rules (some peer) status headers encoder).delimiting.isUnknown =
            true := by
          rw [hworker]
          split <;> rfl
        cases hwith' : announcedLength rules headers (encoderLeft headers encoder').isSome with
        | none =>
            rw [hwith', Option.elim_none] at hhandoff
            refine .inl ⟨rfl, rfl, rfl, (hunknown _ hwith').trans (hunknown _ hwith).symm, ?_⟩
            rw [hhandoff]
            exact .unknown hbody hends
        | some length =>
            rw [hwith', Option.elim_some] at hhandoff
            -- the handoff has found a length among those of the application
            have hlengths : rules.lengths
                (valuesOf (ascii "content-length") (sanitizeHeaders headers)) ≠ [] := by
              intro hnil
              simp [announcedLength, hnil] at hwith'
            have hwritten : writtenLengths rules status headers
                (encoderLeft headers encoder').isSome = rules.lengths
                  (valuesOf (ascii "content-length") (sanitizeHeaders headers)) := by
              apply if_neg
              simp [hwith']
            refine .inr ⟨hends, ?_, ?_, ?_⟩
            · rw [hhandoff]
              rfl
            · show writtenLengths rules status headers (encoderLeft headers encoder').isSome ≠
                writtenLengths rules status headers (encoderLeft headers encoder).isSome
              rw [hwritten, hunknown _ hwith]
              exact hlengths
            · apply hdeclared
              intro hnil
              rw [hnil, lengths_nil] at hlengths
              exact hlengths rfl

end

end Pounce.AsyncPool
