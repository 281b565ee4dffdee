/-
# A response on its way

One connection at a time. What `starts` and `resolves` find about the start of a response is
what becomes of it on a connection that awaits one (`Waiting.start`, `Deferring.body`); an
opened response goes on by pieces as its delimiting takes them (`Replying.piece_taken`,
`Replying.piece_refused`).
-/

import Pounce.AsyncPool.Delivery

namespace Pounce.AsyncPool

open Pounce.Math Pounce.Math.Bytes Pounce.Math.Message Pounce.Asgi

universe u

section

variable {Conn : Type u}

/-! ## Before the body -/

/-- Nothing of a response has been sent. -/
structure Waiting (side : Conn → ServerSide) (env : SendEnv) (peer : Option Peer)
    (transmission : Transmission Conn) : Prop where
  running : transmission.raised = false
  incomplete : transmission.state.responseComplete = false
  encoder : transmission.state.compressor = env.compressor
  ops : transmission.state.ops = []
  written : transmission.written = []
  side_eq : side transmission.conn = .awaiting peer

/-- A start waits for the first piece of the body. -/
structure Deferring (side : Conn → ServerSide) (stream : Stream) (env : SendEnv)
    (peer : Option Peer) (status : ℕ) (headers : List Header)
    (transmission : Transmission Conn) : Prop extends Waiting side env peer transmission where
  started : transmission.state.responseStarted = true
  deferred : transmission.state.deferredStart = some (status, h1.startHeaders env headers)
  encodes : env.compressor.isSome
  bodied : bodylessStatus status = false ∧ stream.request.method ≠ ascii "HEAD"
  undeclared : valuesOf (ascii "content-length") (sanitizeHeaders headers) = []

/-- The head of a response was refused. -/
structure Rejected (side : Conn → ServerSide) (peer : Option Peer)
    (transmission : Transmission Conn) : Prop where
  raised : transmission.raised = true
  started : transmission.state.responseStarted = true
  written : transmission.written = []
  side_eq : side transmission.conn = .awaiting peer

/-- A response has been opened: its head is held back, or has been written with a first piece.
Behind a start that is still deferred no pieces can be sent. -/
structure Replying (rules : HeaderRules) (side : Conn → ServerSide) (stream : Stream)
    (env : SendEnv) (reply : Reply) (pieces flushed : Bool) (transmission : Transmission Conn) :
    Prop where
  started : transmission.state.responseStarted = true
  incomplete : transmission.state.responseComplete = false
  encoder : transmission.state.compressor = reply.encoder
  pieces_eq : transmission.state.deferredStart.isNone = pieces
  sent : if flushed then transmission.pendingHead = [] else transmission.written = []
  part : ∃ part, Opened side transmission part reply.status ∧
    Telling rules stream env reply transmission.state.ops part

/-- The encoder a response is started with if its start is not deferred. -/
def committedEncoder (stream : Stream) (status : ℕ) (headers : List Header)
    (compressor : Option Compressor) : Option Compressor :=
  let encoder := startEncoder stream status compressor
  if encoder.isSome ∧ 0 < stream.compressionMinSize then
    match getHeader (sanitizeHeaders headers) (ascii "content-length") with
    | some declared => if declaredBelow stream.compressionMinSize declared then none else encoder
    | none => encoder
  else encoder

/-- The encoder a deferred response is started with. -/
def resolvedEncoder (stream : Stream) (body : Bytes) (moreBody : Bool)
    (compressor : Option Compressor) : Option Compressor :=
  if shouldCompressBody (if moreBody then none else some body.length) stream.compressionMinSize
  then compressor else none

/-- The reply a head opens. -/
def openReply (rules : HeaderRules) (peer : Option Peer) (status : ℕ) (headers : List Header)
    (encoder : Option Compressor) : Reply where
  status := status
  headers := headers
  encoder := encoderLeft headers encoder
  delimiting := delimitingOf rules peer status headers (encoderLeft headers encoder).isSome

/-- What becomes of the start of a response. -/
inductive Begun (rules : HeaderRules) (side : Conn → ServerSide) (stream : Stream)
    (env : SendEnv) (peer : Option Peer) (status : ℕ) (headers : List Header)
    (encoder : Option Compressor) (pieces : Bool) (transmission : Transmission Conn) :
    Opening → Prop
  | deferred (hdeferring : Deferring side stream env peer status headers transmission) :
      Begun rules side stream env peer status headers encoder pieces transmission .deferred
  | refused (hrejected : Rejected side peer transmission) :
      Begun rules side stream env peer status headers encoder pieces transmission .refused
  | tunnel (hswitch : switchesProtocol (peer.map (·.method)) status = true) :
      Begun rules side stream env peer status headers encoder pieces transmission .tunnel
  | opened (hswitch : switchesProtocol (peer.map (·.method)) status = false)
      (hreplying : Replying rules side stream env
        (openReply rules peer status headers encoder) pieces false transmission) :
      Begun rules side stream env peer status headers encoder pieces transmission
        (.opened (openReply rules peer status headers encoder).encoder.isSome
          (openReply rules peer status headers encoder).delimiting)

/-- The state when a piece of the body has been sent. -/
def withPiece (state : SendState) (data : Bytes) (more : Bool) : SendState :=
  { state with
    ops := (encodeBody state data more).2
    wire := state.wire ++ [.data (encodeBody state data more).1 !more]
    responseComplete := !more }

variable {h11 : H11 Conn} {rules : HeaderRules} {side : Conn → ServerSide} {stream : Stream}
variable {env : SendEnv} {peer : Option Peer} {serves : Option Bool} {status : ℕ}
variable {headers : List Header} {transmission : Transmission Conn}

/-- A piece of the body of a response that is on its way. -/
theorem sendBody_started (bridge : Bridge) {state : SendState} (hserves : Serves stream env)
    (hstarted : state.responseStarted = true) (hincomplete : state.responseComplete = false)
    (body : Bytes) (moreBody : Bool) :
    bridge.sendBody env state body moreBody =
      some (withPiece (bridge.resolveDeferred env state (bodyOf stream body) moreBody)
        (bodyOf stream body) moreBody) := by
  rw [Bridge.sendBody, hstarted, hincomplete, if_neg (by decide), hserves.method_eq]
  rfl

/-- A piece that commits a head is sent behind it, unless the head was refused. -/
theorem send_deferred (h11 : H11 Conn) (serves : Option Bool) {message : SendMessage} {resolved : SendState} {head : List Header}
    {data : Bytes} {more : Bool} (hrunning : transmission.raised = false)
    (hsend : (fileBridge serves).send env transmission.state message =
      some (withPiece resolved data more))
    (hagain : (fileBridge serves).send env resolved message = some (withPiece resolved data more))
    (hwire : resolved.wire = transmission.state.wire ++ [.head status head]) :
    let committed := { transmission with state := resolved }.deliver h11 (.head status head)
    (committed.raised = false → transmission.send h11 (fileBridge serves) env message =
        committed.send h11 (fileBridge serves) env message) ∧
      (committed.raised = true → transmission.send h11 (fileBridge serves) env message =
        { committed with state := withPiece resolved data more }) := by
  have hevents : (withPiece resolved data more).wire = transmission.state.wire ++
      [.head status head, .data (encodeBody resolved data more).1 !more] := by
    rw [withPiece, hwire, List.append_assoc]
    rfl
  intro committed
  have hstate : committed = { transmission.deliver h11 (.head status head) with
      state := resolved } := deliver_state h11 transmission resolved _
  have hfirst := deliver_state h11 transmission (withPiece resolved data more) (.head status head)
  rw [send_events hrunning hsend hevents, List.foldl_cons, List.foldl_cons, List.foldl_nil,
    hfirst, hstate]
  constructor
  · intro hrunning'
    rw [send_events hrunning' hagain rfl]
    rfl
  · intro hraised
    refine deliver_raised ?_ _
    exact hraised

/-- An opening tells whether the response is encoded. -/
theorem Begun.encoded {encoder : Option Compressor} {pieces encoded : Bool}
    {delimiting : Delimiting} (hbegun : Begun rules side stream env peer status headers encoder
      pieces transmission (.opened encoded delimiting)) :
    encoded = (encoderLeft headers encoder).isSome := by
  cases hbegun with
  | opened => rfl

/-- An encoder that is left was negotiated, and for a response with a body. -/
theorem committedEncoder_eq {compressor : Option Compressor} {used : Compressor}
    (hused : committedEncoder stream status headers compressor = some used) :
    compressor = some used ∧ bodylessStatus status = false ∧
      stream.request.method ≠ ascii "HEAD" := by
  have hstart : startEncoder stream status compressor = some used := by
    rw [committedEncoder] at hused
    split at hused
    · split at hused
      · split at hused
        · cases hused
        · exact hused
      · exact hused
    · exact hused
  obtain ⟨hbodied, hsame⟩ := startEncoder_isSome
    (show (startEncoder stream status compressor).isSome by rw [hstart]; rfl)
  exact ⟨hsame.symm.trans hstart, hbodied⟩

section

variable (hsends : h11.SendsAs rules side) (hserves : Serves stream env)
variable (hpeer : ∀ client, peer = some client → client.method = stream.request.method)

include hsends hserves hpeer

/-- A head is committed. -/
theorem Waiting.commit (hwaiting : Waiting side env peer transmission)
    {encoder : Option Compressor}
    (hencoder : ∀ compressor, encoder = some compressor → env.compressor = some compressor ∧
      bodylessStatus status = false ∧ stream.request.method ≠ ascii "HEAD")
    (headers : List Header) (next : SendState) (hstarted : next.responseStarted = true)
    (hincomplete : next.responseComplete = false) (hops : next.ops = []) :
    Begun rules side stream env peer status headers encoder next.deferredStart.isNone
      ({ transmission with
        state := h1.commitHead env { next with compressor := encoder } status
          (h1.startHeaders env headers) }.deliver h11
            (.head status (h1.buildHead env encoder (h1.startHeaders env headers)).2))
      (commits rules env peer encoder status headers) := by
  have hsome : encoder.isSome → env.compressor.isSome := by
    intro hsome
    obtain ⟨compressor, hcompressor⟩ := Option.isSome_iff_exists.mp hsome
    rw [(hencoder compressor hcompressor).1]
    rfl
  obtain ⟨hleft, hbuilt⟩ :
      (h1.buildHead env encoder (h1.startHeaders env headers)).1 = encoderLeft headers encoder ∧
        Built stream headers (encoderLeft headers encoder)
          (h1.buildHead env encoder (h1.startHeaders env headers)).2 :=
    buildHead_built hserves hsome
  rw [commits]
  cases haccepts : acceptsResponse rules status
      (h1.buildHead env encoder (h1.startHeaders env headers)).2 with
  | false =>
      obtain ⟨conn, hdeliver, hside⟩ := deliver_head_rejected hsends hwaiting.running haccepts
      rw [deliver_state, hdeliver]
      exact .refused ⟨rfl, hstarted, hwaiting.written, hside.trans hwaiting.side_eq⟩
  | true =>
      simp only [Bool.not_true, Bool.false_eq_true, if_false]
      cases hswitch : switchesProtocol (peer.map (·.method)) status with
      | true => exact .tunnel hswitch
      | false =>
          simp only [acceptsResponse, Bool.and_eq_true, decide_eq_true_eq] at haccepts
          obtain ⟨hfinal, hnormal⟩ := haccepts
          obtain ⟨normalized, hnormal⟩ := Option.isSome_iff_exists.mp hnormal
          obtain ⟨hopened, hstate, hwritten⟩ := deliver_head hsends hwaiting.running
            hwaiting.side_eq hwaiting.written hfinal hnormal hswitch
            (h1.commitHead env { next with compressor := encoder } status
              (h1.startHeaders env headers))
          have htelling : Telling rules stream env (openReply rules peer status headers encoder) []
              (openPart rules peer status normalized) :=
            Telling.opened hbuilt hnormal hpeer hswitch hfinal.1
              (fun hsome => by
                obtain ⟨compressor, hcompressor⟩ := Option.isSome_iff_exists.mp hsome
                exact (hencoder compressor hcompressor).2)
              fun compressor hcompressor => (hencoder compressor hcompressor).1
          rw [if_neg Bool.false_ne_true, hleft]
          refine .opened hswitch ⟨?_, ?_, ?_, ?_, hwritten, _, hopened, ?_⟩
          · rw [hstate]
            exact hstarted
          · rw [hstate]
            exact hincomplete
          · rw [hstate]
            exact hleft
          · rw [hstate]
            rfl
          · rw [hstate]
            show Telling rules stream env _ next.ops _
            rw [hops]
            exact htelling

/-- A response is started where one is awaited. -/
theorem Waiting.start (hwaiting : Waiting side env peer transmission) (hstatus : status ≠ 103) :
    Begun rules side stream env peer status headers
      (committedEncoder stream status headers env.compressor)
      transmission.state.deferredStart.isNone
      (transmission.send h11 (fileBridge serves) env (.responseStart status headers))
      (starts rules stream env peer status headers) := by
  have hsend : (fileBridge serves).send env transmission.state (.responseStart status headers) =
      some (h1.start env transmission.state status headers) := rfl
  have hcommit : ∀ encoder, committedEncoder stream status headers env.compressor = encoder →
      h1.start env transmission.state status headers = h1.commitHead env
        { transmission.state with responseStarted := true, compressor := encoder } status
          (h1.startHeaders env headers) →
      Begun rules side stream env peer status headers encoder
        transmission.state.deferredStart.isNone
        (transmission.send h11 (fileBridge serves) env (.responseStart status headers))
        (commits rules env peer encoder status headers) := by
    intro encoder hencoder hnext
    rw [hnext] at hsend
    rw [send_events hwaiting.running hsend rfl]
    refine hwaiting.commit hsends hserves hpeer ?_ headers { transmission.state with
      responseStarted := true } rfl hwaiting.incomplete hwaiting.ops
    intro compressor hcompressor
    exact committedEncoder_eq (hencoder.trans hcompressor)
  have hstart := start_eq hserves transmission.state hstatus headers
  rw [hwaiting.encoder] at hstart
  simp only [committedEncoder, starts] at hstart hcommit ⊢
  by_cases hencodes : (startEncoder stream status env.compressor).isSome ∧
      0 < stream.compressionMinSize
  · simp only [if_pos hencodes] at hstart hcommit ⊢
    cases hlength : getHeader (sanitizeHeaders headers) (ascii "content-length") with
    | some declared =>
        rw [hlength] at hstart hcommit
        exact hcommit _ rfl hstart
    | none =>
        rw [hlength] at hstart
        have hbodied := startEncoder_isSome hencodes.1
        rw [hstart] at hsend
        rw [send_events hwaiting.running hsend (List.append_nil _).symm]
        refine .deferred ⟨⟨hwaiting.running, hwaiting.incomplete, hbodied.2, hwaiting.ops,
          hwaiting.written, hwaiting.side_eq⟩, rfl, rfl, hbodied.2 ▸ hencodes.1, hbodied.1, ?_⟩
        rw [getHeader_eq (by decide), Option.map_eq_none_iff, List.head?_eq_none_iff] at hlength
        exact congrArg (List.map fun header : Header => header.2) hlength
  · simp only [if_neg hencodes] at hstart hcommit ⊢
    exact hcommit _ rfl hstart

/-- With a first piece of the body the deferred start is committed. -/
theorem Deferring.body (hdeferring : Deferring side stream env peer status headers transmission)
    (body : Bytes) (moreBody : Bool) :
    ∃ committed, Begun rules side stream env peer status headers
        (resolvedEncoder stream body moreBody env.compressor) true committed
        (resolves rules stream env peer status headers body moreBody) ∧
      transmission.send h11 (fileBridge serves) env (.responseBody body moreBody) =
        committed.send h11 (fileBridge serves) env (.responseBody body moreBody) := by
  have hencoder : ∀ compressor, resolvedEncoder stream body moreBody env.compressor =
      some compressor → env.compressor = some compressor ∧ bodylessStatus status = false ∧
        stream.request.method ≠ ascii "HEAD" := by
    intro compressor hsome
    rw [resolvedEncoder] at hsome
    generalize shouldCompressBody _ _ = compresses at hsome
    cases compresses with
    | true => exact ⟨hsome, hdeferring.bodied⟩
    | false => cases hsome
  have hbegun := hdeferring.toWaiting.commit hsends hserves hpeer hencoder headers
    { transmission.state with deferredStart := none } hdeferring.started hdeferring.incomplete
    hdeferring.ops
  have hbody : bodyOf stream body = body := if_neg hdeferring.bodied.2
  have hresolve : h1.resolveDeferred env transmission.state body moreBody =
      h1.commitHead env { transmission.state with
        compressor := resolvedEncoder stream body moreBody env.compressor
        deferredStart := none } status (h1.startHeaders env headers) := by
    simp only [Bridge.resolveDeferred, hdeferring.deferred, hserves.minSize_eq, hdeferring.encoder]
    rfl
  let resolved := h1.commitHead env { transmission.state with
    compressor := resolvedEncoder stream body moreBody env.compressor
    deferredStart := none } status (h1.startHeaders env headers)
  have hsend : (fileBridge serves).send env transmission.state (.responseBody body moreBody) =
      some (withPiece resolved body moreBody) := by
    have hpiece := sendBody_started h1 hserves hdeferring.started hdeferring.incomplete body moreBody
    rw [hbody, hresolve] at hpiece
    exact hpiece
  have hagain : (fileBridge serves).send env resolved (.responseBody body moreBody) =
      some (withPiece resolved body moreBody) := by
    have hstarted : resolved.responseStarted = true := hdeferring.started
    have hincomplete : resolved.responseComplete = false := hdeferring.incomplete
    have hpiece := sendBody_started h1 hserves hstarted hincomplete body moreBody
    rw [hbody] at hpiece
    exact hpiece
  have hboth := send_deferred h11 serves hdeferring.running hsend hagain rfl
  generalize { transmission with state := resolved }.deliver h11 _ = committed at hbegun hboth
  cases hraised : committed.raised with
  | false => exact ⟨committed, hbegun, hboth.1 hraised⟩
  | true =>
      -- a refused head leaves nothing to send the piece behind
      have hlast := hboth.2 hraised
      have hagain : ({ committed with state := withPiece resolved body moreBody } :
          Transmission Conn).send h11 (fileBridge serves) env (.responseBody body moreBody) =
            { committed with state := withPiece resolved body moreBody } := by
        rw [Transmission.send, if_pos hraised]
      refine ⟨_, ?_, hlast.trans hagain.symm⟩
      have hopening : commits rules env peer (resolvedEncoder stream body moreBody env.compressor)
          status headers = resolves rules stream env peer status headers body moreBody := rfl
      rw [hopening] at hbegun
      generalize resolves rules stream env peer status headers body moreBody = opening at hbegun ⊢
      cases hbegun with
      | deferred hdeferring =>
          rw [hdeferring.running] at hraised
          cases hraised
      | refused hrejected =>
          exact .refused ⟨hraised, hdeferring.started, hrejected.written, hrejected.side_eq⟩
      | tunnel hswitch => exact .tunnel hswitch
      | opened hswitch hreplying =>
          obtain ⟨_, hopened, -⟩ := hreplying.part
          rw [hopened.running] at hraised
          cases hraised

end

/-! ## Behind the head -/

/-- A reply that has been sent as far as it will be. -/
structure Finished (side : Conn → ServerSide) (serves : Option Bool) (status : ℕ)
    (part : Part) (ended : Bool) (transmission : Transmission Conn) : Prop where
  silent : Silent side serves transmission
  side_ne : ∀ peer, side transmission.conn ≠ .awaiting peer
  written : transmission.written = part.bytes status ended

variable {reply : Reply} {pieces flushed : Bool}

/-- Behind an open head no response is awaited. -/
theorem Replying.side_ne
    (hreplying : Replying rules side stream env reply pieces flushed transmission)
    (other : Option Peer) : side transmission.conn ≠ .awaiting other := by
  obtain ⟨part, hopened, -⟩ := hreplying.part
  rw [hopened.side_eq]
  exact ServerSide.noConfusion

/-- Behind a start that is committed a piece of the body is passed on. -/
theorem Replying.send_body (hserves : Serves stream env)
    (hreplying : Replying rules side stream env reply true flushed transmission) (body : Bytes)
    (moreBody : Bool) :
    (fileBridge serves).send env transmission.state (.responseBody body moreBody) =
      some (withPiece transmission.state (bodyOf stream body) moreBody) := by
  have hdeferred : transmission.state.deferredStart = none := by
    simpa using hreplying.pieces_eq
  refine (sendBody_started _ hserves hreplying.started hreplying.incomplete body moreBody).trans ?_
  simp only [Bridge.resolveDeferred, hdeferred]

/-- A response that is not encoded can go on with a file. -/
theorem Replying.send_file
    (hreplying : Replying rules side stream env reply pieces flushed transmission)
    (hplain : reply.encoder = none) (content : Bytes) (offset count : ℕ) (moreBody : Bool) :
    (fileBridge (some true)).send env transmission.state
        (.responseSendfile content offset count moreBody) =
      some (withPiece transmission.state ((content.drop offset).take count) moreBody) := by
  have hencoder := hreplying.encoder.trans hplain
  simp [Bridge.send, fileBridge, hreplying.started, hreplying.incomplete, hencoder, withPiece,
    encodeBody_off hencoder]

section

variable (hsends : h11.SendsAs rules side) {message : SendMessage} {data : Bytes} {more : Bool}
variable (hreplying : Replying rules side stream env reply pieces flushed transmission)
variable (hsend : (fileBridge serves).send env transmission.state message =
  some (withPiece transmission.state data more))

include hsends hreplying hsend

/-- A piece that is taken is sent, behind the head if that was held back. -/
theorem Replying.piece_taken (htakes : reply.delimiting.takes data more = true) :
    (more = true → Replying rules side stream env (reply.add data) pieces true
      (transmission.send h11 (fileBridge serves) env message)) ∧
    (more = false → ∃ ops part, Telling rules stream env (reply.add data) ops part ∧
      Finished side serves reply.status part true
        (transmission.send h11 (fileBridge serves) env message)) := by
  obtain ⟨part, hopened, htelling⟩ := hreplying.part
  rw [send_events hopened.running hsend rfl, List.foldl_cons, List.foldl_nil, deliver_state]
  have htaken := (htelling.takes_eq hreplying.encoder data more).trans htakes
  obtain ⟨conn, hdeliver, hside⟩ := deliver_data hsends hopened htaken
  have hadd := htelling.add hreplying.encoder htakes
  rw [hdeliver]
  constructor
  · rintro rfl
    refine ⟨hreplying.started, rfl, hreplying.encoder, hreplying.pieces_eq, rfl, _,
      ⟨hopened.running, hside, ?_⟩, hadd⟩
    exact List.append_nil _
  · rintro rfl
    have hdone : ∀ peer, side conn ≠ .awaiting peer := by
      intro peer heq
      rw [if_neg Bool.false_ne_true] at hside
      cases hside.symm.trans heq
    exact ⟨_, _, hadd, ⟨hreplying.started, .inr ⟨hdone, .inl rfl⟩⟩, hdone, rfl⟩

/-- A piece that is not taken is refused. -/
theorem Replying.piece_refused (htakes : reply.delimiting.takes data more = false) :
    Kept side serves transmission (transmission.send h11 (fileBridge serves) env message) := by
  obtain ⟨part, hopened, htelling⟩ := hreplying.part
  rw [send_events hopened.running hsend rfl, List.foldl_cons, List.foldl_nil, deliver_state]
  have htaken := (htelling.takes_eq hreplying.encoder data more).trans htakes
  have hrefused := deliver_data_refused hsends hopened htaken
  exact ⟨⟨hreplying.started, .inl hrefused.raised⟩, hrefused.written, fun _ => hrefused.side_ne⟩

end

/-- A message either adds a piece to a reply or leaves it at what has been written. -/
theorem Replying.send (hsends : h11.SendsAs rules side) (hserves : Serves stream env)
    (hserved : serves ≠ some false)
    (hreplying : Replying rules side stream env reply pieces flushed transmission)
    (message : SendMessage) :
    Kept side serves transmission
        (transmission.send h11 (fileBridge serves) env message) ∨
      ∃ data,
        Replying rules side stream env (reply.add data) pieces true
            (transmission.send h11 (fileBridge serves) env message) ∨
          ∃ ops part, Telling rules stream env (reply.add data) ops part ∧
            Finished side serves reply.status part true
              (transmission.send h11 (fileBridge serves) env message) := by
  obtain ⟨_, hopened, -⟩ := hreplying.part
  have hrunning := hopened.running
  have hpiece : ∀ data more, (fileBridge serves).send env transmission.state message =
      some (withPiece transmission.state data more) →
        Kept side serves transmission (transmission.send h11 (fileBridge serves) env message) ∨
          ∃ data, Replying rules side stream env (reply.add data) pieces true
              (transmission.send h11 (fileBridge serves) env message) ∨
            ∃ ops part, Telling rules stream env (reply.add data) ops part ∧
              Finished side serves reply.status part true
                (transmission.send h11 (fileBridge serves) env message) := by
    intro data more hsend
    cases htakes : reply.delimiting.takes data more with
    | false => exact .inl (hreplying.piece_refused hsends hsend htakes)
    | true =>
        have htaken := hreplying.piece_taken hsends hsend htakes
        cases more with
        | true => exact .inr ⟨data, .inl (htaken.1 rfl)⟩
        | false => exact .inr ⟨data, .inr (htaken.2 rfl)⟩
  cases message with
  | responseStart status headers =>
      exact .inl (kept_start hsends hserves hreplying.started hreplying.side_ne hrunning status
        headers)
  | responseBody body moreBody =>
      match pieces, hreplying with
      | true, hreplying => exact hpiece _ _ (hreplying.send_body hserves body moreBody)
      | false, hreplying =>
          apply Or.inl
          apply kept_deferred hsends hreplying.started hreplying.side_ne hrunning
            hreplying.incomplete
          intro hnone
          have hpieces := hreplying.pieces_eq
          rw [hnone] at hpieces
          cases hpieces
  | responseSendfile content offset count moreBody =>
      have herror : (fileBridge serves).send env transmission.state
          (.responseSendfile content offset count moreBody) = none →
          Kept side serves transmission (transmission.send h11 (fileBridge serves) env
            (.responseSendfile content offset count moreBody)) := by
        intro hsend
        rw [send_error hrunning hsend]
        exact (refused_raised hreplying.side_ne).kept hreplying.started
      match serves with
      | none => exact .inl (herror rfl)
      | some false => exact absurd rfl hserved
      | some true =>
          cases hencoder : reply.encoder with
          | none => exact hpiece _ _ (hreplying.send_file hencoder content offset count moreBody)
          | some compressor =>
              apply Or.inl
              apply herror
              simp [Bridge.send, fileBridge, hreplying.encoder.trans hencoder]

/-- What is left of a reply: nothing, if its head was never written, or what a client decodes as
the reply with more data, whether or not it has come to its end. -/
structure Left (side : Conn → ServerSide) (rules : HeaderRules) (stream : Stream)
    (contentDecode : List Bytes → Bytes → Option Bytes) (reply : Reply) (flushed : Bool)
    (transmission : Transmission Conn) : Prop where
  started : transmission.state.responseStarted = true
  side_ne : ∀ peer, side transmission.conn ≠ .awaiting peer
  written : flushed = false ∧ transmission.written = [] ∨
    ∃ data delimiting ended, decode contentDecode stream transmission.written =
      { reply with data := reply.data ++ data, delimiting := delimiting }.decoded rules stream
        contentDecode ended

/-- A reply with one more piece is a reply with more data. -/
theorem Left.of_add {contentDecode : List Bytes → Bytes → Option Bytes} {data : Bytes}
    (hleft : Left side rules stream contentDecode (reply.add data) true transmission) :
    Left side rules stream contentDecode reply flushed transmission := by
  refine ⟨hleft.started, hleft.side_ne, .inr ?_⟩
  rcases hleft.written with ⟨hnot, -⟩ | ⟨more, delimiting, ended, hdecode⟩
  · cases hnot
  · refine ⟨data ++ more, delimiting, ended, hdecode.trans ?_⟩
    rw [← List.append_assoc]
    rfl

section

variable {contentDecode : List Bytes → Bytes → Option Bytes} (hserves : Serves stream env)
variable (hundoes : UndoesNegotiated contentDecode stream)
variable (hidentity : ∀ body, contentDecode [] body = some body)

include hserves hundoes hidentity

/-- A client decodes what has been written of a reply. -/
theorem Replying.decode_flushed
    (hreplying : Replying rules side stream env reply pieces true transmission) :
    decode contentDecode stream transmission.written =
      reply.decoded rules stream contentDecode false := by
  obtain ⟨part, hopened, htelling⟩ := hreplying.part
  have hpending : transmission.pendingHead = [] := hreplying.sent
  have hbytes := hopened.bytes_eq
  rw [hpending, List.append_nil] at hbytes
  rw [hbytes, htelling.decode hserves hundoes hidentity]

/-- If no more is sent, this is left of a reply. -/
theorem Replying.left
    (hreplying : Replying rules side stream env reply pieces flushed transmission) :
    Left side rules stream contentDecode reply flushed transmission := by
  refine ⟨hreplying.started, hreplying.side_ne, ?_⟩
  cases flushed with
  | false => exact .inl ⟨rfl, hreplying.sent⟩
  | true =>
      refine .inr ⟨[], reply.delimiting, false, ?_⟩
      rw [hreplying.decode_flushed hserves hundoes hidentity, List.append_nil]

variable (hsends : h11.SendsAs rules side) {ops : List CompressOp} {part : Part}

include hsends

/-- A finished reply stays as it is. -/
theorem Finished.run (htelling : Telling rules stream env reply ops part)
    (hfinished : Finished side serves reply.status part true transmission)
    (messages : List SendMessage) :
    let last := messages.foldl (Transmission.send h11 (fileBridge serves) env) transmission
    last.state.responseStarted = true ∧ (∀ peer, side last.conn ≠ .awaiting peer) ∧
      decode contentDecode stream last.written =
        reply.decoded rules stream contentDecode true := by
  have hrun := hfinished.silent.run hsends hserves messages
  refine ⟨hrun.silent.started, hrun.side_ne hfinished.side_ne, ?_⟩
  rw [hrun.written, hfinished.written]
  exact htelling.decode hserves hundoes hidentity true

/-- So the whole reply is left of it. -/
theorem Finished.left (htelling : Telling rules stream env reply ops part)
    (hfinished : Finished side serves reply.status part true transmission)
    (messages : List SendMessage) :
    Left side rules stream contentDecode reply true
      (messages.foldl (Transmission.send h11 (fileBridge serves) env) transmission) := by
  obtain ⟨hstarted, hside, hdecode⟩ :=
    hfinished.run hserves hundoes hidentity hsends htelling messages
  refine ⟨hstarted, hside, .inr ⟨[], reply.delimiting, true, ?_⟩⟩
  rw [hdecode, List.append_nil]

/-- Whatever else is sent, this is left of a reply. -/
theorem Replying.run (hserved : serves ≠ some false)
    (hreplying : Replying rules side stream env reply pieces flushed transmission)
    (messages : List SendMessage) :
    Left side rules stream contentDecode reply flushed
      (messages.foldl (Transmission.send h11 (fileBridge serves) env) transmission) := by
  induction messages generalizing reply flushed transmission with
  | nil => exact hreplying.left hserves hundoes hidentity
  | cons message messages ih =>
      rw [List.foldl_cons]
      rcases hreplying.send hsends hserves hserved message with
        hkept | ⟨data, hmore | ⟨ops, part, htelling, hfinished⟩⟩
      · have hrun := hkept.silent.run hsends hserves messages
        have hleft := hreplying.left hserves hundoes hidentity
        refine ⟨hrun.silent.started, hrun.side_ne (hkept.side_ne hleft.side_ne), ?_⟩
        rw [hrun.written, hkept.written]
        exact hleft.written
      · exact (ih hmore).of_add
      · exact (hfinished.left hserves hundoes hidentity hsends htelling messages).of_add

/-- Whatever else is sent behind a piece that is taken, this is left of the reply with it. -/
theorem Replying.taken_run (hserved : serves ≠ some false) {message : SendMessage} {data : Bytes}
    {more : Bool} (hreplying : Replying rules side stream env reply pieces flushed transmission)
    (hsend : (fileBridge serves).send env transmission.state message =
      some (withPiece transmission.state data more))
    (htakes : reply.delimiting.takes data more = true) (messages : List SendMessage) :
    Left side rules stream contentDecode (reply.add data) true
      (messages.foldl (Transmission.send h11 (fileBridge serves) env)
        (transmission.send h11 (fileBridge serves) env message)) := by
  have htaken := hreplying.piece_taken hsends hsend htakes
  cases more with
  | true => exact (htaken.1 rfl).run hserves hundoes hidentity hsends hserved messages
  | false =>
      obtain ⟨ops, part, htelling, hfinished⟩ := htaken.2 rfl
      exact hfinished.left hserves hundoes hidentity hsends htelling messages

end

end

end Pounce.AsyncPool
