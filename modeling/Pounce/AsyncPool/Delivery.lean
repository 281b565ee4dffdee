/-
# Delivering a response

One connection at a time: what h11 writes for the head and the pieces of a response, where
it refuses them, and that a connection that has been refused something, or is done, writes
nothing more whatever else the application sends and however it ends.
-/

import Pounce.AsyncPool.Replies

namespace Pounce.AsyncPool

open Pounce.Math Pounce.Math.Bytes Pounce.Math.Message Pounce.Asgi

universe u

/-! ## One connection -/

section

variable {Conn : Type u} {h11 : H11 Conn} {rules : HeaderRules} {side : Conn → ServerSide}

/-- A response has been opened on a connection and is on its way. -/
structure Opened (side : Conn → ServerSide) (transmission : Transmission Conn) (part : Part)
    (status : ℕ) : Prop where
  running : transmission.raised = false
  side_eq : side transmission.conn = .sendBody part.delimiting
  bytes_eq : transmission.written ++ transmission.pendingHead = part.bytes status false

/-- An error was raised, and nothing has been written. -/
structure Refused (side : Conn → ServerSide) (before after : Transmission Conn) : Prop where
  raised : after.raised = true
  state : after.state = before.state
  written : after.written = before.written
  side_ne : ∀ peer, side after.conn ≠ .awaiting peer

variable {transmission : Transmission Conn}

/-- h11 writes a head it accepts. -/
theorem sendResponse_accepted (hsends : h11.SendsAs rules side) {conn : Conn}
    {peer : Option Peer} (hside : side conn = .awaiting peer) {status : ℕ}
    {headers normalized : List Header} (hfinal : 200 ≤ status ∧ status < 1000)
    (hnormal : rules.normalize headers = some normalized)
    (hswitch : switchesProtocol (peer.map (·.method)) status = false) :
    ∃ next, H1Protocol.sendResponse h11 conn status headers =
        (some ((openPart rules peer status normalized).bytes status false), next) ∧
      side next = .sendBody (openPart rules peer status normalized).delimiting := by
  have hsend : (side conn).send rules (.response status headers) =
      (some [.head status (openPart rules peer status normalized).fields],
        .sendBody (openPart rules peer status normalized).delimiting) := by
    simp only [ServerSide.send, hside, if_pos hfinal, hnormal, hswitch]
    rfl
  have hbytes := hsends.send_bytes conn (.response status headers) rfl
  have hnext := hsends.side_send conn (.response status headers) rfl
  rw [hsend] at hbytes hnext
  refine ⟨(h11.send conn (.response status headers)).2, ?_, hnext⟩
  have hhead : (openPart rules peer status normalized).bytes status false =
      render (.head status (openPart rules peer status normalized).fields) := by
    simp only [Part.bytes, Part.body]
    split <;> simp [chunkElements, rawElements, openPart]
  rw [H1Protocol.sendResponse, hhead]
  apply Prod.ext
  · rw [hbytes]
    simp
  · rfl

/-- Where no response is awaited a head is refused. -/
theorem sendResponse_refused (hsends : h11.SendsAs rules side) {conn : Conn}
    (hside : ∀ peer, side conn ≠ .awaiting peer) (status : ℕ) (headers : List Header) :
    ∃ next, H1Protocol.sendResponse h11 conn status headers = (none, next) ∧
      ∀ peer, side next ≠ .awaiting peer := by
  have hbytes := hsends.send_bytes conn (.response status headers) rfl
  have hnext := hsends.side_send conn (.response status headers) rfl
  have hrefuses : ((side conn).send rules (.response status headers)).1 = none ∧
      ∀ peer, ((side conn).send rules (.response status headers)).2 ≠ .awaiting peer := by
    cases hcurrent : side conn with
    | awaiting peer => exact absurd hcurrent (hside peer)
    | sendBody delimiting =>
        simp only [ServerSide.send]
        split
        · split <;> exact ⟨rfl, fun _ => ServerSide.noConfusion⟩
        · exact ⟨rfl, fun _ => ServerSide.noConfusion⟩
    | done =>
        rw [send_response_done]
        exact ⟨rfl, fun _ => ServerSide.noConfusion⟩
  rw [hrefuses.1] at hbytes
  refine ⟨(h11.send conn (.response status headers)).2, Prod.ext hbytes rfl, ?_⟩
  intro peer heq
  exact hrefuses.2 peer (hnext.symm.trans heq)

/-- A head that is not one of a response is refused, and the connection is left alone. -/
theorem sendResponse_rejected (hsends : h11.SendsAs rules side) {conn : Conn} {status : ℕ}
    {headers : List Header} (hrejects : acceptsResponse rules status headers = false) :
    ∃ next, H1Protocol.sendResponse h11 conn status headers = (none, next) ∧
      side next = side conn := by
  have hsend : (side conn).send rules (.response status headers) = (none, side conn) := by
    simp only [ServerSide.send]
    split
    case isTrue hfinal =>
      cases hnormal : rules.normalize headers with
      | none => rfl
      | some normalized => simp [acceptsResponse, hfinal, hnormal] at hrejects
    case isFalse => rfl
  have hbytes := hsends.send_bytes conn (.response status headers) rfl
  have hnext := hsends.side_send conn (.response status headers) rfl
  rw [hsend] at hbytes hnext
  exact ⟨(h11.send conn (.response status headers)).2, Prod.ext hbytes rfl, hnext⟩

/-- h11 writes a piece that it takes. -/
theorem sendBody_takes (hsends : h11.SendsAs rules side) {conn : Conn} {part : Part}
    (hside : side conn = .sendBody part.delimiting) (status : ℕ) {data : Bytes} {more : Bool}
    (htakes : part.delimiting.takes data more = true) :
    ∃ raw next, H1Protocol.sendBody h11 conn data more = (some raw, next) ∧
      part.bytes status false ++ raw = (part.extend data).bytes status (!more) ∧
      side next = if more then .sendBody (part.extend data).delimiting else .done := by
  obtain ⟨elements, hsend, hextend⟩ := sendAll_takes rules part status htakes
  obtain ⟨hsent, hnext⟩ := hsends.sendBody conn data more
  rw [hside, hsend] at hsent hnext
  exact ⟨elements.flatMap render, (H1Protocol.sendBody h11 conn data more).2,
    Prod.ext hsent rfl, hextend, hnext⟩

/-- A piece that it does not take is refused. -/
theorem sendBody_refused (hsends : h11.SendsAs rules side) {conn : Conn}
    {delimiting : Delimiting} (hside : side conn = .sendBody delimiting) {data : Bytes}
    {more : Bool} (htakes : delimiting.takes data more = false) :
    ∃ next, H1Protocol.sendBody h11 conn data more = (none, next) ∧ side next = .done := by
  obtain ⟨hsent, hnext⟩ := hsends.sendBody conn data more
  rw [hside, sendAll_refuses rules htakes] at hsent hnext
  exact ⟨(H1Protocol.sendBody h11 conn data more).2, Prod.ext hsent rfl, hnext⟩

/-- h11 opens the response with a head it accepts. -/
theorem deliver_head (hsends : h11.SendsAs rules side) (hrunning : transmission.raised = false)
    {peer : Option Peer} (hside : side transmission.conn = .awaiting peer)
    (hwritten : transmission.written = []) {status : ℕ} {headers normalized : List Header}
    (hfinal : 200 ≤ status ∧ status < 1000) (hnormal : rules.normalize headers = some normalized)
    (hswitch : switchesProtocol (peer.map (·.method)) status = false) (state : SendState) :
    Opened side ({ transmission with state }.deliver h11 (.head status headers))
        (openPart rules peer status normalized) status ∧
      ({ transmission with state }.deliver h11 (.head status headers)).state = state ∧
      ({ transmission with state }.deliver h11 (.head status headers)).written = [] := by
  obtain ⟨conn, hsend, hnext⟩ := sendResponse_accepted hsends hside hfinal hnormal hswitch
  have hdeliver : { transmission with state }.deliver h11 (.head status headers) =
      { transmission with
        state
        conn
        pendingHead := (openPart rules peer status normalized).bytes status false } := by
    simp only [Transmission.deliver, hrunning, Bool.false_eq_true, if_false, hsend]
  rw [hdeliver]
  refine ⟨⟨hrunning, hnext, ?_⟩, rfl, hwritten⟩
  rw [hwritten, List.nil_append]

/-- h11 leaves the connection alone when it does not take the head for one. -/
theorem deliver_head_rejected (hsends : h11.SendsAs rules side)
    (hrunning : transmission.raised = false) {status : ℕ} {headers : List Header}
    (hrejects : acceptsResponse rules status headers = false) :
    ∃ conn, transmission.deliver h11 (.head status headers) =
        { transmission with conn, raised := true } ∧
      side conn = side transmission.conn := by
  obtain ⟨conn, hsend, hnext⟩ := sendResponse_rejected hsends hrejects
  refine ⟨conn, ?_, hnext⟩
  simp only [Transmission.deliver, hrunning, Bool.false_eq_true, if_false, hsend]

/-- Delivering does not look at the state of `send`. -/
theorem deliver_state (h11 : H11 Conn) (transmission : Transmission Conn) (state : SendState)
    (event : WireEvent) :
    { transmission with state }.deliver h11 event =
      { transmission.deliver h11 event with state } := by
  cases event with
  | informational headers | head status headers | data bytes ended =>
      simp only [Transmission.deliver]
      split
      · rfl
      · split <;> simp only [*]

/-- After an error nothing is delivered. -/
theorem deliver_raised (hraised : transmission.raised = true) (event : WireEvent) :
    transmission.deliver h11 event = transmission := by
  rw [Transmission.deliver.eq_def, if_pos hraised]

/-- A message is delivered as the events the bridge has for it. -/
theorem send_events {bridge : Bridge} {env : SendEnv} {message : SendMessage}
    {next : SendState} {events : List WireEvent} (hrunning : transmission.raised = false)
    (hsend : bridge.send env transmission.state message = some next)
    (hwire : next.wire = transmission.state.wire ++ events) :
    transmission.send h11 bridge env message =
      events.foldl (Transmission.deliver h11) { transmission with state := next } := by
  rw [Transmission.send, if_neg (by rw [hrunning]; exact Bool.false_ne_true), hsend]
  simp only [hwire, List.drop_left]

/-- A message the bridge has nothing for is an error. -/
theorem send_error {bridge : Bridge} {env : SendEnv} {message : SendMessage}
    (hrunning : transmission.raised = false)
    (hsend : bridge.send env transmission.state message = none) :
    transmission.send h11 bridge env message = { transmission with raised := true } := by
  rw [Transmission.send, if_neg (by rw [hrunning]; exact Bool.false_ne_true), hsend]

/-- Where no response is awaited a head is refused. -/
theorem deliver_head_refused (hsends : h11.SendsAs rules side)
    (hrunning : transmission.raised = false)
    (hside : ∀ peer, side transmission.conn ≠ .awaiting peer) (state : SendState) (status : ℕ)
    (headers : List Header) :
    Refused side { transmission with state }
      ({ transmission with state }.deliver h11 (.head status headers)) := by
  obtain ⟨conn, hsend, hnext⟩ := sendResponse_refused hsends hside status headers
  have hdeliver : { transmission with state }.deliver h11 (.head status headers) =
      { transmission with state, conn, raised := true } := by
    simp only [Transmission.deliver, hrunning, Bool.false_eq_true, if_false, hsend]
  rw [hdeliver]
  exact ⟨rfl, rfl, rfl, hnext⟩

/-- A piece that is taken is written, behind the head if that was held back. -/
theorem deliver_data (hsends : h11.SendsAs rules side) {part : Part} {status : ℕ}
    (hopened : Opened side transmission part status) {data : Bytes} {more : Bool}
    (htakes : part.delimiting.takes data more = true) :
    ∃ conn, transmission.deliver h11 (.data data !more) =
        { transmission with
          conn
          written := (part.extend data).bytes status !more
          pendingHead := [] } ∧
      side conn = if more then .sendBody (part.extend data).delimiting else .done := by
  obtain ⟨hrunning, hside, hbytes⟩ := hopened
  obtain ⟨raw, conn, hsend, hextend, hnext⟩ := sendBody_takes hsends hside status htakes
  refine ⟨conn, ?_, hnext⟩
  simp only [Transmission.deliver, hrunning, Bool.false_eq_true, if_false, Bool.not_not, hsend,
    hbytes, hextend]

/-- A piece that is not taken is refused. -/
theorem deliver_data_refused (hsends : h11.SendsAs rules side) {part : Part} {status : ℕ}
    (hopened : Opened side transmission part status) {data : Bytes} {more : Bool}
    (htakes : part.delimiting.takes data more = false) :
    Refused side transmission (transmission.deliver h11 (.data data !more)) := by
  obtain ⟨hrunning, hside, -⟩ := hopened
  obtain ⟨conn, hsend, hnext⟩ := sendBody_refused hsends hside htakes
  have hdeliver : transmission.deliver h11 (.data data !more) =
      { transmission with conn, raised := true } := by
    simp only [Transmission.deliver, hrunning, Bool.false_eq_true, if_false, Bool.not_not, hsend]
  rw [hdeliver]
  refine ⟨rfl, rfl, rfl, fun peer heq => ?_⟩
  have hdone : side conn = .done := hnext
  rw [hdone] at heq
  cases heq

/-- Where no response is awaited an early hint is refused. -/
theorem deliver_informational_refused (hsends : h11.SendsAs rules side)
    (hrunning : transmission.raised = false)
    (hside : ∀ peer, side transmission.conn ≠ .awaiting peer) (state : SendState)
    (headers : List Header) :
    Refused side { transmission with state }
      ({ transmission with state }.deliver h11 (.informational headers)) := by
  have hbytes := hsends.send_bytes transmission.conn (.informational 103 headers) rfl
  have hnext := hsends.side_send transmission.conn (.informational 103 headers) rfl
  have hrefuses : ((side transmission.conn).send rules (.informational 103 headers)).1 = none ∧
      ∀ peer, ((side transmission.conn).send rules (.informational 103 headers)).2 ≠
        .awaiting peer := by
    cases hcurrent : side transmission.conn with
    | awaiting peer => exact absurd hcurrent (hside peer)
    | sendBody delimiting =>
        simp only [ServerSide.send]
        split <;> exact ⟨rfl, fun _ => ServerSide.noConfusion⟩
    | done =>
        simp only [ServerSide.send]
        split <;> exact ⟨rfl, fun _ => ServerSide.noConfusion⟩
  rw [hrefuses.1] at hbytes
  rcases hstep : h11.send transmission.conn (.informational 103 headers) with ⟨sent, conn⟩
  rw [hstep] at hbytes hnext
  simp only [Option.map_none] at hbytes hnext
  subst hbytes
  have hdeliver : { transmission with state }.deliver h11 (.informational headers) =
      { transmission with state, conn, raised := true } := by
    simp only [Transmission.deliver, hrunning, Bool.false_eq_true, if_false,
      H1Protocol.sendInformational, hstep]
  rw [hdeliver]
  exact ⟨rfl, rfl, rfl, fun peer heq => hrefuses.2 peer (hnext.symm.trans heq)⟩

/-- An error leaves what has been written. -/
theorem refused_raised (hside : ∀ peer, side transmission.conn ≠ .awaiting peer) :
    Refused side transmission { transmission with raised := true } :=
  ⟨rfl, rfl, rfl, hside⟩

/-! ## Silence -/

/-- The bridge of an HTTP/1.1 connection, with or without the file extension. -/
def fileBridge (serves : Option Bool) : Bridge := { h1 with sendfile := serves }

/-- Nothing more will be written: an error was raised, the response is complete, or a start
has been deferred behind a head and is all that a body could be sent with. -/
structure Silent (side : Conn → ServerSide) (serves : Option Bool)
    (transmission : Transmission Conn) : Prop where
  started : transmission.state.responseStarted = true
  quiet : transmission.raised = true ∨ (∀ peer, side transmission.conn ≠ .awaiting peer) ∧
    (transmission.state.responseComplete = true ∨ transmission.state.deferredStart ≠ none ∧
      (transmission.state.compressor.isSome ∨ serves ≠ some true))

variable {serves : Option Bool}

/-- What was refused once the response had been started leaves the connection silent. -/
theorem Refused.silent {before after : Transmission Conn} (hrefused : Refused side before after)
    (hstarted : before.state.responseStarted = true) : Silent side serves after where
  started := by rw [hrefused.state, hstarted]
  quiet := Or.inl hrefused.raised

/-- A silent connection is left silent, with nothing more written and no response awaited. -/
structure Kept (side : Conn → ServerSide) (serves : Option Bool)
    (before after : Transmission Conn) : Prop where
  silent : Silent side serves after
  written : after.written = before.written
  side_ne : (∀ peer, side before.conn ≠ .awaiting peer) → ∀ peer, side after.conn ≠ .awaiting peer

theorem Refused.kept {before after : Transmission Conn} (hrefused : Refused side before after)
    (hstarted : before.state.responseStarted = true) : Kept side serves before after :=
  ⟨hrefused.silent hstarted, hrefused.written, fun _ => hrefused.side_ne⟩

/-- The encoder that is left is the one there was. -/
theorem startEncoder_isSome {stream : Stream} {status : ℕ} {compressor : Option Compressor}
    (hsome : (startEncoder stream status compressor).isSome) :
    (bodylessStatus status = false ∧ stream.request.method ≠ ascii "HEAD") ∧
      startEncoder stream status compressor = compressor := by
  rw [startEncoder] at hsome ⊢
  split at hsome
  case isTrue => cases hsome
  case isFalse hbody =>
    rw [not_or, Bool.not_eq_true] at hbody
    exact ⟨hbody, if_neg (by simpa using hbody)⟩

/-- A start that is not an early hint, by the encoder that is left and the declared length. -/
theorem start_eq {stream : Stream} {env : SendEnv} (hserves : Serves stream env)
    (state : SendState) {status : ℕ} (hstatus : status ≠ 103) (headers : List Header) :
    h1.start env state status headers =
      let started := { state with
        responseStarted := true
        compressor := startEncoder stream status state.compressor }
      if started.compressor.isSome ∧ 0 < stream.compressionMinSize then
        match getHeader (sanitizeHeaders headers) (ascii "content-length") with
        | some declared =>
            let compressor :=
              if declaredBelow stream.compressionMinSize declared then none else started.compressor
            h1.commitHead env { started with compressor } status (h1.startHeaders env headers)
        | none =>
            { started with deferredStart := some (status, h1.startHeaders env headers) }
      else h1.commitHead env started status (h1.startHeaders env headers) := by
  have hlength : getHeader (sanitizeHeaders headers) (ascii "content-length") =
      getHeader (h1.startHeaders env headers) (ascii "content-length") := by
    rw [getHeader_eq (by decide), getHeader_eq (by decide), fields_start (by decide)]
  rw [Bridge.start, if_neg hstatus, hserves.method_eq, hserves.minSize_eq, hlength]
  rfl

/-- A start defers the head or commits one, and completes nothing. -/
theorem start_wire {stream : Stream} {env : SendEnv} (hserves : Serves stream env)
    (state : SendState) {status : ℕ} (hstatus : status ≠ 103) (headers : List Header) :
    (h1.start env state status headers =
        { state with
          responseStarted := true
          deferredStart := some (status, h1.startHeaders env headers) } ∧ state.compressor.isSome) ∨
      (h1.start env state status headers).responseStarted = true ∧
        ∃ head, (h1.start env state status headers).wire = state.wire ++ [.head status head] := by
  rw [start_eq hserves state hstatus]
  simp only
  split
  case isTrue hencodes =>
    obtain ⟨-, hsame⟩ := startEncoder_isSome hencodes.1
    cases getHeader (sanitizeHeaders headers) (ascii "content-length") with
    | none =>
        left
        rw [hsame] at hencodes ⊢
        exact ⟨rfl, hencodes.1⟩
    | some declared => exact Or.inr ⟨rfl, _, rfl⟩
  case isFalse => exact Or.inr ⟨rfl, _, rfl⟩

section

variable {stream : Stream} {env : SendEnv} (hsends : h11.SendsAs rules side)
  (hserves : Serves stream env) (hstarted : transmission.state.responseStarted = true)
  (hside : ∀ peer, side transmission.conn ≠ .awaiting peer)

include hsends hstarted hside

/-- Behind a head an early hint is refused. -/
theorem kept_hint (hrunning : transmission.raised = false) (headers : List Header) :
    Kept side serves transmission
      (transmission.send h11 (fileBridge serves) env (.responseStart 103 headers)) := by
  have hsend : (fileBridge serves).send env transmission.state (.responseStart 103 headers) =
      some (h1.start env transmission.state 103 headers) := rfl
  rw [send_events hrunning hsend rfl]
  have hrefused := deliver_informational_refused hsends hrunning hside
    (h1.start env transmission.state 103 headers) (sanitizeHeaders headers)
  exact ⟨hrefused.silent hstarted, hrefused.written, fun _ => hrefused.side_ne⟩

/-- Behind a head a piece of the body is refused with a start that is still deferred. -/
theorem kept_deferred (hrunning : transmission.raised = false)
    (hcomplete : transmission.state.responseComplete = false)
    (hdeferred : transmission.state.deferredStart ≠ none) (body : Bytes) (moreBody : Bool) :
    Kept side serves transmission
      (transmission.send h11 (fileBridge serves) env (.responseBody body moreBody)) := by
  obtain ⟨⟨status, headers⟩, hdeferred⟩ := Option.ne_none_iff_exists'.mp hdeferred
  have hsend : ∃ next head data,
      (fileBridge serves).send env transmission.state (.responseBody body moreBody) = some next ∧
        next.wire = transmission.state.wire ++ [.head status head, .data data !moreBody] ∧
        next.responseStarted = true := by
    simp [Bridge.send, Bridge.sendBody, hcomplete, hstarted, Bridge.resolveDeferred, hdeferred,
      Bridge.commitHead]
  obtain ⟨next, head, data, hnext, hwire, hdone⟩ := hsend
  rw [send_events hrunning hnext hwire, List.foldl_cons, List.foldl_cons, List.foldl_nil]
  have hrefused := deliver_head_refused hsends hrunning hside next status head
  rw [deliver_raised hrefused.raised]
  exact ⟨hrefused.silent hdone, hrefused.written, fun _ => hrefused.side_ne⟩

/-- Nor is a piece sent by a silent connection. -/
theorem kept_body (hsilent : Silent side serves transmission) (hrunning : transmission.raised = false)
    (body : Bytes) (moreBody : Bool) :
    Kept side serves transmission
      (transmission.send h11 (fileBridge serves) env (.responseBody body moreBody)) := by
  have hquiet := (hsilent.quiet.resolve_left (by simp [hrunning])).2
  cases hcomplete : transmission.state.responseComplete with
  | true =>
      have hsend : (fileBridge serves).send env transmission.state (.responseBody body moreBody) =
          none := by simp [Bridge.send, Bridge.sendBody, hcomplete]
      rw [send_error hrunning hsend]
      exact (refused_raised hside).kept hstarted
  | false =>
      exact kept_deferred hsends hstarted hside hrunning hcomplete
        (hquiet.resolve_left (by simp [hcomplete])).1 body moreBody

omit hsends in
/-- Behind a head a file is refused or ignored. -/
theorem kept_file (hsilent : Silent side serves transmission) (hrunning : transmission.raised = false)
    (content : Bytes) (offset count : ℕ) (moreBody : Bool) :
    Kept side serves transmission
      (transmission.send h11 (fileBridge serves) env
        (.responseSendfile content offset count moreBody)) := by
  have hquiet := (hsilent.quiet.resolve_left (by simp [hrunning])).2
  have herror : (fileBridge serves).send env transmission.state
      (.responseSendfile content offset count moreBody) = none →
      Kept side serves transmission (transmission.send h11 (fileBridge serves) env
        (.responseSendfile content offset count moreBody)) := by
    intro hsend
    rw [send_error hrunning hsend]
    exact (refused_raised hside).kept hstarted
  cases serves with
  | none => exact herror rfl
  | some served =>
      cases served with
      | false =>
          have hsend : (fileBridge (some false)).send env transmission.state
              (.responseSendfile content offset count moreBody) = some transmission.state := rfl
          rw [send_events hrunning hsend (List.append_nil _).symm]
          exact ⟨hsilent, rfl, id⟩
      | true =>
          apply herror
          rcases hquiet with hcomplete | ⟨-, hsome | hnot⟩
          · simp [Bridge.send, fileBridge, hcomplete]
          · simp [Bridge.send, fileBridge, hsome]
          · exact absurd rfl hnot

include hserves

/-- Behind a head another start is refused, or deferred for good. -/
theorem kept_start (hrunning : transmission.raised = false) (status : ℕ) (headers : List Header) :
    Kept side serves transmission
      (transmission.send h11 (fileBridge serves) env (.responseStart status headers)) := by
  by_cases hstatus : status = 103
  · rw [hstatus]
    exact kept_hint hsends hstarted hside hrunning headers
  · have hsend : (fileBridge serves).send env transmission.state (.responseStart status headers) =
        some (h1.start env transmission.state status headers) := rfl
    rcases start_wire hserves transmission.state hstatus headers with
      ⟨hdeferred, hsome⟩ | ⟨hdone, head, hwire⟩
    · rw [send_events hrunning hsend (by rw [hdeferred]; exact (List.append_nil _).symm), hdeferred]
      exact ⟨⟨rfl, .inr ⟨hside, .inr ⟨Option.some_ne_none _, .inl hsome⟩⟩⟩, rfl, id⟩
    · rw [send_events hrunning hsend hwire]
      have hrefused := deliver_head_refused hsends hrunning hside
        (h1.start env transmission.state status headers) status head
      exact ⟨hrefused.silent hdone, hrefused.written, fun _ => hrefused.side_ne⟩

end

/-- A message changes nothing about a silent connection. -/
theorem Silent.send {stream : Stream} {env : SendEnv} (hsends : h11.SendsAs rules side)
    (hserves : Serves stream env) (hsilent : Silent side serves transmission)
    (message : SendMessage) :
    Kept side serves transmission (transmission.send h11 (fileBridge serves) env message) := by
  cases hrunning : transmission.raised with
  | true =>
      rw [Transmission.send, if_pos hrunning]
      exact ⟨hsilent, rfl, id⟩
  | false =>
      have hside := (hsilent.quiet.resolve_left (by simp [hrunning])).1
      cases message with
      | responseStart status headers =>
          exact kept_start hsends hserves hsilent.started hside hrunning status headers
      | responseBody body moreBody =>
          exact kept_body hsends hsilent.started hside hsilent hrunning body moreBody
      | responseSendfile content offset count moreBody =>
          exact kept_file hsilent.started hside hsilent hrunning content offset count moreBody

/-- A silent connection stays silent whatever else is sent. -/
theorem Silent.run {stream : Stream} {env : SendEnv} (hsends : h11.SendsAs rules side)
    (hserves : Serves stream env) (hsilent : Silent side serves transmission)
    (messages : List SendMessage) :
    Kept side serves transmission
      (messages.foldl (Transmission.send h11 (fileBridge serves) env) transmission) := by
  induction messages generalizing transmission with
  | nil => exact ⟨hsilent, rfl, id⟩
  | cons message messages ih =>
      have hkept := hsilent.send hsends hserves message
      have hrest := ih hkept.silent
      exact ⟨hrest.silent, hrest.written.trans hkept.written, hrest.side_ne ∘ hkept.side_ne⟩

end

end Pounce.AsyncPool
