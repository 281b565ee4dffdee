/-
# The end of an application

What the two write when the application is done. The worker answers an error, and a response
that was never started, wherever its connection still awaits a response; the handoff answers
an error only before the response. Where both answer, `errorsAgree` says whether a client
decodes the same (`errors_agree`).
-/

import Pounce.AsyncPool.Replying

namespace Pounce.AsyncPool

open Pounce.Math Pounce.Math.Bytes Pounce.Math.Message Pounce.Asgi

universe u

section

variable {Conn : Type u} {env : Worker.Env Conn} {rules : HeaderRules}
variable {side : Conn → ServerSide} {stream : Stream} {transmission : Transmission Conn}

/-! ## Whole responses -/

/-- Where no response is awaited no error response is written. -/
theorem writeResponse_refused (hsends : env.h11.SendsAs rules side)
    (hside : ∀ peer, side transmission.conn ≠ .awaiting peer) (status : ℕ)
    (headers : List Header) (body : Bytes) :
    Refused side transmission (writeResponse env transmission status headers body) := by
  obtain ⟨conn, hsend, hnext⟩ := sendResponse_refused hsends hside status headers
  rw [writeResponse, hsend]
  exact ⟨rfl, rfl, rfl, hnext⟩

/-- A whole response is written where one is awaited, its body if it is taken. -/
theorem writeResponse_accepted (hsends : env.h11.SendsAs rules side) {peer : Option Peer}
    (hside : side transmission.conn = .awaiting peer) {status : ℕ}
    {headers normalized : List Header} (hfinal : 200 ≤ status ∧ status < 1000)
    (hnormal : rules.normalize headers = some normalized)
    (hswitch : switchesProtocol (peer.map (·.method)) status = false) (body : Bytes) :
    (writeResponse env transmission status headers body).written = transmission.written ++
        (if (openPart rules peer status normalized).delimiting.takes body false then
          ((openPart rules peer status normalized).extend body).bytes status true
        else (openPart rules peer status normalized).bytes status false) ∧
      (writeResponse env transmission status headers body).state = transmission.state ∧
      ∀ other, side (writeResponse env transmission status headers body).conn ≠
        .awaiting other := by
  obtain ⟨conn, hsend, hopen⟩ := sendResponse_accepted hsends hside hfinal hnormal hswitch
  rw [writeResponse, hsend]
  simp only
  cases htakes : (openPart rules peer status normalized).delimiting.takes body false with
  | true =>
      obtain ⟨raw, next, hbody, hextend, hnext⟩ := sendBody_takes hsends hopen status htakes
      rw [hbody]
      refine ⟨?_, rfl, ?_⟩
      · show transmission.written ++ _ ++ raw = _
        rw [List.append_assoc, hextend]
        rfl
      · intro other heq
        cases hnext.symm.trans heq
  | false =>
      obtain ⟨next, hbody, hnext⟩ := sendBody_refused hsends hopen htakes
      rw [hbody]
      refine ⟨rfl, rfl, ?_⟩
      intro other heq
      cases hnext.symm.trans heq

/-- A response whose fields h11 rejects is not written. -/
theorem writeResponse_rejected (hsends : env.h11.SendsAs rules side)
    (transmission : Transmission Conn) (status : ℕ) {headers : List Header}
    (hnormal : rules.normalize headers = none) (body : Bytes) :
    ∃ conn, writeResponse env transmission status headers body =
        { transmission with conn, raised := true } ∧
      side conn = side transmission.conn := by
  have hrejects : acceptsResponse rules status headers = false := by
    simp [acceptsResponse, hnormal]
  obtain ⟨conn, hsend, hnext⟩ := sendResponse_rejected hsends hrejects
  refine ⟨conn, ?_, hnext⟩
  rw [writeResponse, hsend]

/-! ## What is written stays written -/

/-- What has been delivered stays so. -/
theorem written_le_deliver {h11 : H11 Conn} (event : WireEvent) :
    transmission.written <+: (transmission.deliver h11 event).written := by
  rw [Transmission.deliver.eq_def]
  split
  · exact List.prefix_refl _
  · cases event with
    | informational headers =>
        simp only
        split
        · exact List.prefix_refl _
        · exact List.prefix_append _ _
    | head status headers =>
        simp only
        split <;> exact List.prefix_refl _
    | data bytes ended =>
        simp only
        split
        · exact List.prefix_refl _
        · simp only [List.append_assoc]
          exact List.prefix_append _ _

/-- So does what messages have written. -/
theorem written_le_run {h11 : H11 Conn} (bridge : Bridge) (sendEnv : SendEnv)
    (messages : List SendMessage) (transmission : Transmission Conn) :
    transmission.written <+:
      (messages.foldl (Transmission.send h11 bridge sendEnv) transmission).written := by
  have hevents : ∀ (events : List WireEvent) (before : Transmission Conn),
      before.written <+: (events.foldl (Transmission.deliver h11) before).written := by
    intro events
    induction events with
    | nil => exact fun before => List.prefix_refl _
    | cons event events ih => exact fun before => (written_le_deliver event).trans (ih _)
  induction messages generalizing transmission with
  | nil => exact List.prefix_refl _
  | cons message messages ih =>
      refine List.IsPrefix.trans ?_ (ih _)
      rw [Transmission.send]
      split
      · exact List.prefix_refl _
      · cases bridge.send sendEnv transmission.state message with
        | none => exact List.prefix_refl _
        | some state => exact hevents _ { transmission with state }

/-- So does what a response has written. -/
theorem written_le_writeResponse (status : ℕ) (headers : List Header) (body : Bytes) :
    transmission.written <+: (writeResponse env transmission status headers body).written := by
  rw [writeResponse]
  split
  · exact List.prefix_refl _
  · split
    · exact List.prefix_append _ _
    · simp only [List.append_assoc]
      exact List.prefix_append _ _

/-- The end of the application takes nothing back. -/
theorem written_le_finishRequest :
    transmission.written <+: (finishRequest env stream transmission).written := by
  have hanswer : transmission.written <+: (answerError env stream transmission).written := by
    rw [answerError]
    split
    · simp only
      split
      · exact (written_le_writeResponse ..).trans (written_le_writeResponse ..)
      · exact written_le_writeResponse ..
    · exact written_le_writeResponse ..
  rw [finishRequest]
  split
  · split
    · exact hanswer
    · exact hanswer.trans (written_le_writeResponse ..)
  · split
    · exact List.prefix_refl _
    · exact written_le_writeResponse ..

/-! ## The end -/

/-- At the end of the application nothing is written once the response has been sent. -/
theorem finishRequest_started (hsends : env.h11.SendsAs rules side)
    (hstarted : transmission.state.responseStarted = true)
    (hside : ∀ peer, side transmission.conn ≠ .awaiting peer) :
    (finishRequest env stream transmission).written = transmission.written := by
  have hanswer : (answerError env stream transmission).written = transmission.written ∧
      (answerError env stream transmission).state = transmission.state := by
    rw [answerError]
    split
    · have hpage := writeResponse_refused hsends hside 500 (debugHeaders stream.debugPage)
        (utf8 stream.debugPage)
      have hsimple := writeResponse_refused hsends hpage.side_ne
      simp only [hpage.raised, if_true]
      exact ⟨(hsimple ..).written.trans hpage.written, (hsimple ..).state.trans hpage.state⟩
    · have hsimple := writeResponse_refused hsends hside
      exact ⟨(hsimple ..).written, (hsimple ..).state⟩
  rw [finishRequest]
  split
  · rw [if_pos (hanswer.2 ▸ hstarted)]
    exact hanswer.1
  · rfl

/-- Nor by a handoff. -/
theorem finishHandoff_started (hstarted : transmission.state.responseStarted = true) :
    finishHandoff env stream transmission = transmission.written := by
  rw [finishHandoff, hstarted, Bool.not_true, Bool.and_false, if_neg Bool.false_ne_true]

/-- An error response has been written. -/
structure Answered (side : Conn → ServerSide) (before after : Transmission Conn) : Prop where
  state : after.state = before.state
  side_ne : ∀ peer, side after.conn ≠ .awaiting peer
  written : ∃ fields rest, (∀ field ∈ fields, Clean field) ∧
    after.written = before.written ++ (render (.head 500 fields) ++ rest)

/-- No response of status 500 opens a tunnel. -/
theorem switches_error (method : Option Bytes) : switchesProtocol method 500 = false := by
  simp [switchesProtocol]

/-- An error response that h11 accepts is written. -/
theorem writeResponse_answers (hsends : env.h11.SendsAs rules side) {peer : Option Peer}
    (hside : side transmission.conn = .awaiting peer) {headers normalized : List Header}
    (hnormal : rules.normalize headers = some normalized) (body : Bytes) :
    Answered side transmission (writeResponse env transmission 500 headers body) := by
  obtain ⟨hwritten, hstate, hnext⟩ :=
    writeResponse_accepted hsends hside (by decide) hnormal (switches_error _) body
  refine ⟨hstate, hnext, (openPart rules peer 500 normalized).fields, ?_⟩
  rw [hwritten]
  split
  · exact ⟨_, clean_cleanUp hnormal peer 500, rfl⟩
  · exact ⟨_, clean_cleanUp hnormal peer 500, rfl⟩

/-- What is refused behind an answer leaves it. -/
theorem Answered.refused {before after last : Transmission Conn}
    (hanswered : Answered side before after) (hrefused : Refused side after last) :
    Answered side before last := by
  refine ⟨hrefused.state.trans hanswered.state, hrefused.side_ne, ?_⟩
  rw [hrefused.written]
  exact hanswered.written

/-- Fields that pass the checks byte by byte. -/
theorem regular_of_all {headers : List Header}
    (hfields : headers.all (fun header => decide (Clean header ∧ header.1 ≠ []) &&
      (header.1.all (fun byte => decide ((97 ≤ byte ∧ byte ≤ 122) ∨ byte = 45)) &&
        header.2.all fun byte => decide (32 ≤ byte ∧ byte ≤ 126))) = true)
    (hcoding : valuesOf (ascii "transfer-encoding") headers = [])
    (hlength : (valuesOf (ascii "content-length") headers).length ≤ 1)
    (hvalues : ∀ value ∈ valuesOf (ascii "content-length") headers,
      value.length ≤ 20 ∧ (decimal? value).isSome) : Regular headers := by
  refine ⟨fun header hmem => ?_, hcoding, hlength, hvalues⟩
  have hchecked := List.all_eq_true.mp hfields header hmem
  rw [Bool.and_eq_true, Bool.and_eq_true, decide_eq_true_eq, List.all_eq_true,
    List.all_eq_true] at hchecked
  obtain ⟨⟨hclean, hne⟩, hname, hvalue⟩ := hchecked
  exact ⟨hclean, hne, fun byte hbyte => of_decide_eq_true (hname byte hbyte),
    fun byte hbyte => of_decide_eq_true (hvalue byte hbyte)⟩

set_option maxRecDepth 4000 in
/-- h11 takes the fields of the simple error responses as they are. -/
theorem regular_errorHeaders (env : Worker.Env Conn) :
    Regular (errorHeaders (Worker.errorBody env "Internal Server Error" "POUNCE_APP_E"
        (some "Check worker logs for the application traceback.")) "POUNCE_APP_E") ∧
      Regular (errorHeaders (Worker.errorBody env "Internal Server Error"
        "POUNCE_APP_DEBUG_PAGE_FAILED"
        (some "Debug error page rendering failed; see worker logs."))
        "POUNCE_APP_DEBUG_PAGE_FAILED") ∧
      Regular (errorHeaders (Worker.errorBody env "Internal Server Error" "POUNCE_APP_NO_RESPONSE"
        (some "The ASGI app returned without sending http.response.start."))
        "POUNCE_APP_NO_RESPONSE") := by
  rw [Worker.errorBody, Worker.errorBody, Worker.errorBody]
  refine ⟨?_, ?_, ?_⟩
  all_goals
    cases env.config.debug
    all_goals exact regular_of_all (by decide) (by decide) (by decide) (by decide)

/-- An error is answered wherever a response is awaited. -/
theorem answerError_answers (hsends : env.h11.SendsAs rules side) {peer : Option Peer}
    (hside : side transmission.conn = .awaiting peer) :
    Answered side transmission (answerError env stream transmission) := by
  obtain ⟨hsimple, hfailed, -⟩ := regular_errorHeaders env
  rw [answerError]
  split
  · cases hnormal : rules.normalize (debugHeaders stream.debugPage) with
    | none =>
        obtain ⟨conn, hwrite, hnext⟩ :=
          writeResponse_rejected hsends transmission 500 hnormal (utf8 stream.debugPage)
        have hanswer : Answered side { transmission with conn, raised := true }
            (writeError env { transmission with conn, raised := true } "Internal Server Error"
              "POUNCE_APP_DEBUG_PAGE_FAILED"
              "Debug error page rendering failed; see worker logs.") :=
          writeResponse_answers hsends (hnext.trans hside) (rules.normalize_regular _ hfailed) _
        rw [hwrite]
        exact ⟨hanswer.state, hanswer.side_ne, hanswer.written⟩
    | some normalized =>
        have hshown := writeResponse_answers hsends hside hnormal (utf8 stream.debugPage)
        simp only
        split
        · exact hshown.refused (writeResponse_refused hsends hshown.side_ne ..)
        · exact hshown
  · exact writeResponse_answers hsends hside (rules.normalize_regular _ hsimple) _

/-- The worker answers an error and a response that was not started. -/
theorem finishRequest_answers (hsends : env.h11.SendsAs rules side) {peer : Option Peer}
    (hside : side transmission.conn = .awaiting peer)
    (hasks : (transmission.raised || stream.raises) = true ∨
      transmission.state.responseStarted = false) :
    Answered side transmission (finishRequest env stream transmission) := by
  rw [finishRequest]
  cases herror : transmission.raised || stream.raises with
  | true =>
      have hanswer : Answered side transmission (answerError env stream transmission) :=
        answerError_answers hsends hside
      rw [if_pos rfl]
      split
      · exact hanswer
      · exact hanswer.refused (writeResponse_refused hsends hanswer.side_ne ..)
  | false =>
      have hstarted := hasks.resolve_left (by simp [herror])
      rw [if_neg Bool.false_ne_true, hstarted, if_neg Bool.false_ne_true]
      exact writeResponse_answers hsends hside
        (rules.normalize_regular _ (regular_errorHeaders env).2.2) _

/-! ## Errors before the response -/

/-- What the worker writes for an error that came before the response. -/
theorem finishRequest_error (hsends : env.h11.SendsAs rules side) {peer : Peer}
    (hside : side transmission.conn = .awaiting (some peer))
    (herror : (transmission.raised || stream.raises) = true)
    (hstarted : transmission.state.responseStarted = false)
    (hwritten : transmission.written = [])
    (hregular : Regular (errorAnswer env.config.debug stream).1) :
    let answer := errorAnswer env.config.debug stream
    (finishRequest env stream transmission).written =
      if (openPart rules (some peer) 500 answer.1).delimiting.takes answer.2 false then
        ((openPart rules (some peer) 500 answer.1).extend answer.2).bytes 500 true
      else (openPart rules (some peer) 500 answer.1).bytes 500 false := by
  obtain ⟨hanswer, hstate, hnext⟩ := writeResponse_accepted hsends hside (by decide)
    (rules.normalize_regular _ hregular) (switches_error _) (errorAnswer env.config.debug stream).2
  rw [hwritten, List.nil_append] at hanswer
  have hsame : (answerError env stream transmission).written =
        (writeResponse env transmission 500 (errorAnswer env.config.debug stream).1
          (errorAnswer env.config.debug stream).2).written ∧
      (answerError env stream transmission).state = transmission.state ∧
      ∀ other, side (answerError env stream transmission).conn ≠ .awaiting other := by
    rw [answerError]
    cases hdebug : env.config.debug with
    | true =>
        rw [hdebug] at hstate hnext
        simp only [if_true]
        split
        · have hrefused := writeResponse_refused hsends hnext 500
            (errorHeaders (Worker.errorBody env "Internal Server Error"
              "POUNCE_APP_DEBUG_PAGE_FAILED"
              (some "Debug error page rendering failed; see worker logs."))
              "POUNCE_APP_DEBUG_PAGE_FAILED")
            (Worker.errorBody env "Internal Server Error" "POUNCE_APP_DEBUG_PAGE_FAILED"
              (some "Debug error page rendering failed; see worker logs."))
          exact ⟨hrefused.written, hrefused.state.trans hstate, hrefused.side_ne⟩
        · exact ⟨rfl, hstate, hnext⟩
    | false =>
        have htext : Worker.errorBody env "Internal Server Error" "POUNCE_APP_E"
            (some "Check worker logs for the application traceback.") = errorText := by
          rw [Worker.errorBody, hdebug]
          decide
        rw [hdebug] at hstate hnext
        rw [if_neg Bool.false_ne_true, writeError, htext]
        exact ⟨rfl, hstate, hnext⟩
  refine Eq.trans ?_ hanswer
  rw [← hsame.1, finishRequest, if_pos herror, hsame.2.1, hstarted,
    if_neg Bool.false_ne_true]
  exact (writeResponse_refused hsends hsame.2.2 ..).written

set_option maxRecDepth 2000 in
/-- h11 takes the fields of the handoff's answer as they are. -/
theorem regular_plain : Regular plainHeaders :=
  regular_of_all (by decide) (by decide) (by decide) (by decide)

/-- The handoff's answer ends with the connection. -/
theorem openPart_plain (rules : HeaderRules) :
    (openPart rules none 500 plainHeaders).delimiting = .close ∧
      valuesOf (ascii "content-length") (openPart rules none 500 plainHeaders).fields = [] ∧
      valuesOf (ascii "transfer-encoding") (openPart rules none 500 plainHeaders).fields = [] := by
  have hunknown : unknownLength none 500 plainHeaders = true := by decide
  obtain ⟨hlengths, hcodings⟩ := valuesOf_cleanUp_unknown rules hunknown
  refine ⟨?_, hlengths, hcodings⟩
  show bodyFraming none 500 (cleanUp rules none 500 plainHeaders) = .close
  rw [bodyFraming_bodied (by decide) (by decide), hcodings, declaredLength, hlengths]
  rfl

/-- What the handoff writes for it. -/
theorem finishHandoff_error (hsends : env.h11.SendsAs rules side)
    (hside : side transmission.conn = .awaiting none)
    (herror : (transmission.raised || stream.raises) = true)
    (hstarted : transmission.state.responseStarted = false)
    (hwritten : transmission.written = []) :
    finishHandoff env stream transmission =
      ((openPart rules none 500 plainHeaders).extend errorText).bytes 500 true := by
  obtain ⟨conn, hsend, hopen⟩ := sendResponse_accepted hsends hside (by decide)
    (rules.normalize_regular _ regular_plain) (switches_error _)
  have htakes : (openPart rules none 500 plainHeaders).delimiting.takes errorText false = true := by
    rw [(openPart_plain rules).1]
    rfl
  obtain ⟨raw, next, hbody, hextend, -⟩ := sendBody_takes hsends hopen 500 htakes
  rw [finishHandoff, herror, hstarted, Bool.not_false, Bool.and_true, if_pos rfl, hsend]
  simp only [hbody, hwritten, List.nil_append, hextend, Bool.not_false]

/-- What a client decodes from an error response. -/
theorem decode_error {contentDecode : List Bytes → Bytes → Option Bytes}
    (hidentity : ∀ body, contentDecode [] body = some body) {part : Part}
    (hclean : ∀ field ∈ part.fields, Clean field)
    (hcodings : valuesOf (ascii "content-encoding") part.fields = [])
    (hframed : Framed stream.request.method 500 part)
    (hpieces : ∀ piece ∈ part.pieces, piece ≠ []) (ended : Bool) :
    decode contentDecode stream (part.bytes 500 ended) =
      { interims := []
        final := some
          { status := 500
            headers := part.fields.filter stream.keeps
            lengths :=
              if ascii "content-length" ∈ startNames stream.messages then
                valuesOf (ascii "content-length") part.fields
              else []
            body := some
              (if stream.request.method = ascii "HEAD" then [] else part.pieces.flatten)
            complete := decide (stream.request.method = ascii "HEAD") ||
              part.delimiting.complete ended } } := by
  have hread := hframed.read hpieces ended
  have hbodyless : bodyless stream.request.method 500 =
      decide (stream.request.method = ascii "HEAD") := by simp [bodyless]
  rw [hbodyless] at hread
  have hfinal : 200 ≤ 500 := by decide
  rw [decode, Part.bytes, readResponse_head stream.request.method hfinal hclean, hread]
  simp only [Option.map_some, hcodings, hidentity]
  by_cases hhead : stream.request.method = ascii "HEAD"
  · simp [hhead]
  · simp [hhead]

section

variable {headers : List Header} {length : ℕ} (hnormal : rules.normalize headers = some headers)
variable (hcoding : valuesOf (ascii "transfer-encoding") headers = [])
variable (hlength : declaredLength headers = some length)

include hcoding hlength

/-- Nothing is unknown about the length of an error response that declares it. -/
theorem unknownLength_declared (peer : Option Peer) : unknownLength peer 500 headers = false := by
  rw [unknownLength_eq (switches_error _), bodyFraming_bodied (by decide) (by decide),
    if_neg (not_not_intro hcoding), hlength]
  rfl

/-- An error response is framed by the length it declares. -/
theorem framed_declared (rules : HeaderRules) {peer : Peer} (hmethod : peer.method = stream.request.method) :
    Framed stream.request.method 500 (openPart rules (some peer) 500 headers) ∧
      (stream.request.method ≠ ascii "HEAD" →
        (openPart rules (some peer) 500 headers).delimiting = .length length) ∧
      (stream.request.method = ascii "HEAD" →
        (openPart rules (some peer) 500 headers).delimiting = .length 0) := by
  have hknown := unknownLength_declared hcoding hlength (some peer)
  have hcodings : valuesOf (ascii "transfer-encoding")
      (openPart rules (some peer) 500 headers).fields = [] :=
    (valuesOf_cleanUp_known hknown (by decide)).trans hcoding
  have hdeclared : declaredLength (openPart rules (some peer) 500 headers).fields = some length := by
    have hlengths : valuesOf (ascii "content-length")
        (openPart rules (some peer) 500 headers).fields = valuesOf (ascii "content-length") headers :=
      valuesOf_cleanUp_known hknown (by decide)
    rw [declaredLength, hlengths]
    exact hlength
  by_cases hhead : stream.request.method = ascii "HEAD"
  · refine ⟨.empty (by simp [bodyless, hhead]), fun hnot => absurd hhead hnot, fun _ => ?_⟩
    show bodyFraming (some peer.method) 500 _ = .length 0
    rw [hmethod, hhead]
    simp [bodyFraming]
  · have hdelimiting : (openPart rules (some peer) 500 headers).delimiting = .length length := by
      show bodyFraming (some peer.method) 500
        (openPart rules (some peer) 500 headers).fields = .length length
      rw [bodyFraming_method (by rw [hmethod]; simpa using hhead) (switches_error _),
        bodyFraming_bodied (by decide) (by decide), if_neg (not_not_intro hcodings), hdeclared]
    refine ⟨.length length (by simp [bodyless, hhead]) ?_ ?_ hdelimiting, fun _ => hdelimiting,
      fun heq => absurd heq hhead⟩
    · rw [announcesChunks, hcodings]
      rfl
    · rw [hdeclared]
      simp [openPart]

end

/-- The application has failed before its response. -/
structure Failing (side : Conn → ServerSide) (stream : Stream) (peer : Option Peer)
    (transmission : Transmission Conn) : Prop where
  side_eq : side transmission.conn = .awaiting peer
  failed : (transmission.raised || stream.raises) = true
  unstarted : transmission.state.responseStarted = false
  written : transmission.written = []

/-- The worker declares the length of its answer, and encodes nothing. -/
theorem errorAnswer_fields (debug : Bool) (stream : Stream) :
    valuesOf (ascii "content-encoding") (errorAnswer debug stream).1 = [] ∧
      ∃ length, valuesOf (ascii "content-length") (errorAnswer debug stream).1 = [ofNat length] := by
  cases debug with
  | true => exact ⟨rfl, stream.debugPage.length, rfl⟩
  | false => exact ⟨rfl, errorText.length, rfl⟩

section

variable {contentDecode : List Bytes → Bytes → Option Bytes} {peer : Peer}
variable (hsends : env.h11.SendsAs rules side)
variable (hidentity : ∀ body, contentDecode [] body = some body)

include hsends hidentity

/-- What a client decodes from the worker's answer. -/
theorem Failing.decode_worker (hmethod : peer.method = stream.request.method)
    (hfailing : Failing side stream (some peer) transmission)
    (hregular : Regular (errorAnswer env.config.debug stream).1) {length : ℕ}
    (hlength : valuesOf (ascii "content-length") (errorAnswer env.config.debug stream).1 =
      [ofNat length]) :
    let text := (errorAnswer env.config.debug stream).2
    decode contentDecode stream (finishRequest env stream transmission).written =
      { interims := []
        final := some
          { status := 500
            headers := (errorAnswer env.config.debug stream).1.filter stream.keeps
            lengths :=
              if ascii "content-length" ∈ startNames stream.messages then [ofNat length] else []
            body := some
              (if stream.request.method = ascii "HEAD" then []
              else if length = text.length then text else [])
            complete := decide (stream.request.method = ascii "HEAD" ∨ length = text.length ∨
              length = 0) } } := by
  intro text
  have hnormal := rules.normalize_regular _ hregular
  have hdeclared : declaredLength (errorAnswer env.config.debug stream).1 = some length := by
    rw [declaredLength, hlength]
    exact decimal?_ofNat length
  obtain ⟨hframed, hbodied, hhead⟩ := framed_declared hregular.2.1 hdeclared rules hmethod
  have hknown := unknownLength_declared hregular.2.1 hdeclared (some peer)
  have hlengths : valuesOf (ascii "content-length")
      (openPart rules (some peer) 500 (errorAnswer env.config.debug stream).1).fields =
        [ofNat length] := (valuesOf_cleanUp_known hknown (by decide)).trans hlength
  have hcodings : valuesOf (ascii "content-encoding")
      (openPart rules (some peer) 500 (errorAnswer env.config.debug stream).1).fields = [] :=
    (codings_openPart hnormal (some peer)).trans (errorAnswer_fields _ stream).1
  have hkept : (openPart rules (some peer) 500
      (errorAnswer env.config.debug stream).1).fields.filter stream.keeps =
        (errorAnswer env.config.debug stream).1.filter stream.keeps :=
    filter_cleanUp rules stream.blind_keeps (some peer) 500 _
  have hclean : ∀ field ∈ (openPart rules (some peer) 500
      (errorAnswer env.config.debug stream).1).fields, Clean field :=
    clean_cleanUp hnormal (some peer) 500
  rw [finishRequest_error hsends hfailing.side_eq hfailing.failed hfailing.unstarted
    hfailing.written hregular]
  generalize hpart : openPart rules (some peer) 500 (errorAnswer env.config.debug stream).1 = part
    at *
  have hnone : part.pieces = [] := by
    rw [← hpart]
    rfl
  cases htakes : part.delimiting.takes text false with
  | true =>
      have hfits : ∀ left, part.delimiting = .length left → text.length ≤ left := by
        intro left hleft
        rw [hleft] at htakes
        simp only [Delimiting.takes, Bool.and_eq_true, decide_eq_true_eq] at htakes
        exact htakes.1
      rw [if_pos rfl]
      have hpieces : (part.extend text).pieces.flatten = text := by
        rw [Part.flatten_extend, hnone]
        rfl
      have hclean' : ∀ field ∈ (part.extend text).fields, Clean field := hclean
      refine (decode_error hidentity hclean' hcodings (hframed.extend hfits) ?_ true).trans ?_
      · intro piece hmem
        rw [Part.extend, hnone, List.nil_append] at hmem
        split at hmem
        · cases hmem
        case isFalse htext =>
          rw [List.mem_singleton.mp hmem]
          exact htext
      · have hsame : (part.extend text).fields = part.fields := rfl
        rw [hpieces, hsame, hkept, hlengths]
        by_cases hmethod : stream.request.method = ascii "HEAD"
        · simp [hmethod]
        · rw [hbodied hmethod] at htakes
          have hequal : text.length ≤ length ∧ length = text.length := by
            simpa [Delimiting.takes] using htakes
          have hequal := hequal.2
          have hafter : (part.extend text).delimiting = .length 0 := by
            rw [Part.extend, hbodied hmethod]
            simp [Delimiting.after, hequal]
          simp [hmethod, hequal, hafter, Delimiting.complete]
  | false =>
      rw [if_neg Bool.false_ne_true]
      refine (decode_error hidentity hclean hcodings hframed ?_ false).trans ?_
      · rw [hnone]
        exact fun piece hmem => absurd hmem List.not_mem_nil
      · rw [hnone, hkept, hlengths]
        by_cases hmethod : stream.request.method = ascii "HEAD"
        · simp [hmethod]
        · rw [hbodied hmethod] at htakes ⊢
          have hequal : length ≠ text.length := by
            rintro rfl
            simp [Delimiting.takes] at htakes
          simp [hmethod, hequal, Delimiting.complete]

/-- A client decodes the handoff's answer up to the end of the connection. -/
theorem Failing.decode_handoff (hfailing : Failing side stream none transmission) :
    decode contentDecode stream (finishHandoff env stream transmission) =
      { interims := []
        final := some
          { status := 500
            headers := plainHeaders.filter stream.keeps
            lengths := []
            body := some (if stream.request.method = ascii "HEAD" then [] else errorText)
            complete := true } } := by
  have hnormal := rules.normalize_regular _ regular_plain
  obtain ⟨hclose, hlengths, hchunks⟩ := openPart_plain rules
  have hcodings : valuesOf (ascii "content-encoding")
      (openPart rules none 500 plainHeaders).fields = [] :=
    (codings_openPart hnormal none).trans (by decide)
  have hkept : (openPart rules none 500 plainHeaders).fields.filter stream.keeps =
      plainHeaders.filter stream.keeps := filter_cleanUp rules stream.blind_keeps none 500 plainHeaders
  have hclean : ∀ field ∈ ((openPart rules none 500 plainHeaders).extend errorText).fields,
      Clean field := clean_cleanUp hnormal none 500
  have hframed : Framed stream.request.method 500 (openPart rules none 500 plainHeaders) := by
    cases hbody : bodyless stream.request.method 500 with
    | true => exact .empty hbody
    | false =>
        refine .close hbody ?_ ?_ hclose
        · rw [announcesChunks, hchunks]
          rfl
        · rw [declaredLength, hlengths]
          rfl
  have hfits : ∀ left, (openPart rules none 500 plainHeaders).delimiting = .length left →
      errorText.length ≤ left := by
    intro left hleft
    cases hclose.symm.trans hleft
  have hafter : ((openPart rules none 500 plainHeaders).extend errorText).delimiting = .close := by
    rw [Part.extend, hclose]
    rfl
  have hpieces : ((openPart rules none 500 plainHeaders).extend errorText).pieces.flatten =
      errorText := Part.flatten_extend _ errorText
  rw [finishHandoff_error hsends hfailing.side_eq hfailing.failed hfailing.unstarted
    hfailing.written]
  refine (decode_error hidentity hclean hcodings (hframed.extend hfits) ?_ true).trans ?_
  · intro piece hmem
    have hpiece : piece ∈ [errorText] := hmem
    rw [List.mem_singleton.mp hpiece]
    decide
  · have hsame : ((openPart rules none 500 plainHeaders).extend errorText).fields =
        (openPart rules none 500 plainHeaders).fields := rfl
    rw [hpieces, hsame, hkept, hlengths, hafter, ite_self]
    simp [Delimiting.complete]

/-- The client decodes the same from both where `errorsAgree` says so. -/
theorem errors_agree (hmethod : peer.method = stream.request.method) {worker handoff : Transmission Conn}
    (hworker : Failing side stream (some peer) worker)
    (hhandoff : Failing side stream none handoff)
    (hregular : Regular (errorAnswer env.config.debug stream).1) :
    decode contentDecode stream (finishHandoff env stream handoff) =
        decode contentDecode stream (finishRequest env stream worker).written ↔
      errorsAgree env.config.debug stream = true := by
  obtain ⟨-, length, hlength⟩ := errorAnswer_fields env.config.debug stream
  have hdeclared : declaredLength (errorAnswer env.config.debug stream).1 = some length := by
    rw [declaredLength, hlength]
    exact decimal?_ofNat length
  rw [hworker.decode_worker hsends hidentity hmethod hregular hlength,
    hhandoff.decode_handoff hsends hidentity, errorsAgree, hdeclared]
  have htext : errorText ≠ [] := by decide
  generalize errorText = own at *
  generalize plainHeaders = plain at *
  generalize (errorAnswer env.config.debug stream).2 = text at *
  generalize (errorAnswer env.config.debug stream).1 = fields at *
  by_cases hhead : stream.request.method = ascii "HEAD"
  · by_cases hnames : ascii "content-length" ∈ startNames stream.messages
    · simp [hhead, hnames]
    · simp [hhead, hnames, eq_comm]
  · by_cases hnames : ascii "content-length" ∈ startNames stream.messages
    · simp [hhead, hnames]
    · by_cases hequal : length = text.length
      · subst hequal
        simp only [hhead, hnames]
        simpa using and_congr eq_comm eq_comm
      · simp [hhead, hnames, hequal, htext]

end

end

end Pounce.AsyncPool
