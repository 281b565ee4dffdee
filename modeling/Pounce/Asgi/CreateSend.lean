/-
# The send callable of HTTP/1.1

`create_send` makes the callable with which an application answers an HTTP/1.1 request. The
head of the response is serialized with the start message, or with the first body message
when the size of the body decides about compression, and is held back until the first body
message, so that both can be written at once. Early hints are written as they come. A part
of a file is written by the transport itself, between the framing that h11 puts around it.

A `Sender` is the callable with the variables of its closure, and `send` takes one message.
What surrounds a call is part of the call: whether the writer is closing, whether it has to be
waited for and fails, and how far a file was transferred. An application may catch what is
raised and go on, so a call that raises leaves a sender as well.

Besides, a sender records what was serialized for which message, and the messages that were
accepted; nothing depends on these records. A start that is deferred is accepted, unless h11
refuses its head later.
-/

import Pounce.Asgi.Bridge
import Pounce.Math.Transition
import Pounce.Protocols.H1

namespace Pounce

open Pounce.Math Pounce.Math.Bytes

universe u

/-- `send_with_data_passthrough` of h11: what is written before and after data of a certain
length, in place of the data itself. -/
structure H11Passthrough {Conn : Type u} (h11 : H11 Conn) where
  sendData : Conn → ℕ → Option (Bytes × Bytes) × Conn
  /-- It writes what `send` writes. -/
  lawful : ∀ conn data, h11.send conn (.data data) =
    ((sendData conn data.length).1.map fun framing => framing.1 ++ data ++ framing.2,
      (sendData conn data.length).2)

namespace Asgi

/-! ## Calls -/

/-- What becomes of the transfer of a file. -/
inductive FileTransfer
  | whole
  /-- It ends early, since the client is gone or because of an error. -/
  | cut (sent : ℕ) (raises : Bool)
  deriving DecidableEq, Repr

/-- A call of the callable, and what surrounds it. -/
structure SendCall where
  message : SendMessage
  /-- `writer.is_closing()`. -/
  closing : Bool := false
  /-- The transport has more than 64 KB buffered after the call, and waiting for it fails. -/
  drainRaises : Bool := false
  transfer : FileTransfer := .whole
  deriving DecidableEq, Repr

/-- An early hint. -/
def SendMessage.isInterim : SendMessage → Bool
  | .responseStart status _ => status = 103
  | _ => false

/-- A final start. -/
def SendMessage.isStart : SendMessage → Bool
  | .responseStart status _ => status ≠ 103
  | _ => false

/-- A piece of the body. -/
def SendMessage.isBody : SendMessage → Bool
  | .responseStart .. => false
  | _ => true

/-- The last piece of the body. -/
def SendMessage.isFinal : SendMessage → Bool
  | .responseStart .. => false
  | .responseBody _ moreBody | .responseSendfile _ _ _ moreBody => !moreBody

/-! ## State -/

/-- The variables of `create_send`, the `SendState` it fills, and what has been written. -/
structure Sender (Conn : Type u) where
  conn : Conn
  responseStarted : Bool := false
  responseComplete : Bool := false
  pendingHead : Bytes := []
  deferredStart : Option (ℕ × List Header) := none
  compressor : Option Compressor
  /-- What the encoder has been used for. -/
  ops : List CompressOp := []
  status : ℕ := 0
  bytesSent : ℕ := 0
  streaming : Bool := false
  /-- What has been written to the transport, by write. -/
  writes : List Bytes := []
  /-- The message a deferred start was made from. -/
  deferredMessage : Option SendMessage := none
  /-- What was serialized, and for which message. -/
  pieces : List (SendMessage × Bytes) := []
  /-- The messages that were accepted, with something to serialize. -/
  accepted : List SendMessage := []

/-- What a call comes to. -/
structure SendOutcome (Conn : Type u) where
  sender : Sender Conn
  raised : Bool := false

/-- `is_streaming_response`. -/
def isStreamingResponse (headers : List Header) : Bool :=
  (headers.any fun header => lower header.1 = ascii "content-type" &&
      contains (ascii "text/event-stream") (lower header.2)) ||
    !headers.any fun header => lower header.1 = ascii "content-length"

/-- Head and body fit into one write. -/
def coalesceThreshold : ℕ := 16384

/-- The writes of a head that is held back and of what follows it. -/
def coalesce (pendingHead raw : Bytes) : List Bytes :=
  let after := if raw = [] then [] else [raw]
  if pendingHead = [] then after
  else if raw ≠ [] ∧ pendingHead.length + raw.length ≤ coalesceThreshold then
    [pendingHead ++ raw]
  else pendingHead :: after

namespace Sender

variable {Conn : Type u} (h11 : H11 Conn) (passthrough : H11Passthrough h11) (env : SendEnv)
  (sendfileAvailable : Bool) (sender : Sender Conn)

/-- An error is raised. -/
def fails : SendOutcome Conn := { sender, raised := true }

/-- The call returns. -/
def returns : SendOutcome Conn := { sender }

/-- Something was serialized for a message. -/
def record (message : SendMessage) (bytes : Bytes) : Sender Conn :=
  { sender with pieces := sender.pieces ++ [(message, bytes)] }

/-- A message is accepted. -/
def accept (message : SendMessage) : Sender Conn :=
  { sender with accepted := sender.accepted ++ [message] }

/-- `_build_head`. -/
def buildHead (message : SendMessage) (status : ℕ) (headers : List Header) : SendOutcome Conn :=
  let built := h1BuildHead env sender.compressor headers
  match H1Protocol.sendResponse h11 sender.conn status built.2 with
  | (none, conn) => { sender with conn, compressor := built.1 }.fails
  | (some bytes, conn) =>
      ({ sender with conn, compressor := built.1, pendingHead := bytes }.record message
        bytes).returns

/-- An early hint. -/
def hint (message : SendMessage) (headers : List Header) : SendOutcome Conn :=
  match H1Protocol.sendInformational h11 sender.conn 103 (sanitizeHeaders headers) with
  | (none, conn) => { sender with conn }.fails
  | (some bytes, conn) =>
      (({ sender with conn, writes := sender.writes ++ [bytes] }.record message bytes).accept
        message).returns

/-- The encoder a start leaves. -/
def startCompressor (status : ℕ) : Option Compressor :=
  if bodylessStatus status ∨ env.requestMethod = ascii "HEAD" then none else sender.compressor

/-- The head of a start has to wait for the size of the body. -/
def defers (status : ℕ) (headers : List Header) : Bool :=
  (sender.startCompressor env status).isSome && 0 < env.compressionMinSize &&
    (getHeader (h1.startHeaders env headers) (ascii "content-length")).isNone

/-- The encoder once the declared length has been looked at. -/
def declaredCompressor (status : ℕ) (headers : List Header) : Option Compressor :=
  match getHeader headers (ascii "content-length") with
  | some declared =>
      if 0 < env.compressionMinSize ∧ declaredBelow env.compressionMinSize declared then none
      else sender.startCompressor env status
  | none => sender.startCompressor env status

/-- A final start. -/
def start (message : SendMessage) (status : ℕ) (headers : List Header) : SendOutcome Conn :=
  let started := { sender with
    responseStarted := true
    status
    streaming := isStreamingResponse (requestHeaders env headers) }
  let startHeaders := h1.startHeaders env headers
  if sender.defers env status headers then
    ({ started with
      compressor := sender.startCompressor env status
      deferredStart := some (status, startHeaders)
      deferredMessage := some message }.accept message).returns
  else
    let built := { started with
      compressor := sender.declaredCompressor env status startHeaders }.buildHead h11 env message
        status startHeaders
    if built.raised then built else (built.sender.accept message).returns

/-- The head of a deferred start, now that there is a piece of the body. If it is refused, so is
the start. -/
def resolveDeferred (body : Bytes) (moreBody : Bool) : SendOutcome Conn :=
  match sender.deferredStart, sender.deferredMessage with
  | some (status, headers), some message =>
      let knownSize := if moreBody then none else some body.length
      let compressor :=
        if shouldCompressBody knownSize env.compressionMinSize then sender.compressor else none
      let built := { sender with
        compressor, deferredStart := none, deferredMessage := none }.buildHead h11 env message
          status headers
      if built.raised then
        { built.sender with accepted := sender.accepted.filter (!·.isStart) }.fails
      else built
  | _, _ => sender.returns

/-- The end of a call that has written a piece of the body: wait for the transport, and take note
of what was sent. -/
def finishBody (call : SendCall) (count : ℕ) (moreBody : Bool) : SendOutcome Conn :=
  if call.drainRaises then sender.fails
  else { sender with
    bytesSent := sender.bytesSent + count
    responseComplete := sender.responseComplete || !moreBody }.returns

/-- Record a piece of the body, if there is a response for it. -/
def recordBody (message : SendMessage) (raw : Bytes) : Sender Conn :=
  if sender.accepted.any (·.isStart) then (sender.record message raw).accept message else sender

/-- Encode a piece of the body, and write it. -/
def writeBody (call : SendCall) (body : Bytes) (moreBody : Bool) : SendOutcome Conn :=
  let encoded :=
    encodeBody { compressor := sender.compressor, ops := sender.ops } body moreBody
  let sender := { sender with ops := encoded.2 }
  match H1Protocol.sendBody h11 sender.conn encoded.1 moreBody with
  | (none, conn) => { sender with conn }.fails
  | (some raw, conn) =>
      ({ sender with
        conn
        writes := sender.writes ++ coalesce sender.pendingHead raw
        pendingHead := [] }.recordBody call.message raw).finishBody call body.length moreBody

/-- A piece of the body. -/
def body (call : SendCall) (body : Bytes) (moreBody : Bool) : SendOutcome Conn :=
  if !sender.responseStarted || sender.responseComplete then sender.fails
  else if call.closing then sender.returns
  else
    let body := if env.requestMethod = ascii "HEAD" then [] else body
    let resolved := sender.resolveDeferred h11 env body moreBody
    if resolved.raised then resolved else resolved.sender.writeBody h11 call body moreBody

/-- `send_body_parts`: the framing before the file, and what comes after it. -/
def sendBodyParts (count : ℕ) (moreBody : Bool) : Option (Bytes × List Bytes) × Conn :=
  let framed :=
    if count = 0 then (some ([], []), sender.conn) else passthrough.sendData sender.conn count
  match framed with
  | (none, conn) => (none, conn)
  | (some framing, conn) =>
      if moreBody then (some (framing.1, [framing.2]), conn)
      else
        let ended := h11.send conn .endOfMessage
        (ended.1.map fun tail => (framing.1, [framing.2, tail]), ended.2)

/-- `_write_body_parts`: the head that is held back, the framing, and the file in between. -/
def writeBodyParts (transfer : FileTransfer) (framing : Bytes × List Bytes) (region : Bytes) :
    SendOutcome Conn :=
  let begun := { sender with
    writes := sender.writes ++ [sender.pendingHead, framing.1].filter (· ≠ [])
    pendingHead := [] }
  match transfer with
  | .whole =>
      { begun with writes := begun.writes ++ (region :: framing.2).filter (· ≠ []) }.returns
  | .cut sent false =>
      { begun with
        writes := begun.writes ++ (region.take sent :: framing.2).filter (· ≠ []) }.returns
  | .cut sent true => { begun with writes := begun.writes ++ [region.take sent] }.fails

/-- A part of a file. -/
def sendfile (call : SendCall) (content : Bytes) (offset count : ℕ) (moreBody : Bool) :
    SendOutcome Conn :=
  if !sender.responseStarted || sender.responseComplete then sender.fails
  else if call.closing then sender.returns
  else if sender.compressor.isSome || !sendfileAvailable then sender.fails
  else
    match sender.sendBodyParts h11 passthrough count moreBody with
    | (none, conn) => { sender with conn }.fails
    | (some framing, conn) =>
        let region := (content.drop offset).take count
        let transfer := if count = 0 then .whole else call.transfer
        let written := { sender with conn }.writeBodyParts transfer framing region
        let recorded :=
          written.sender.recordBody call.message (framing.1 ++ region ++ framing.2.flatten)
        if written.raised then recorded.fails else recorded.finishBody call count moreBody

/-- `send`. -/
def send (call : SendCall) : SendOutcome Conn :=
  match call.message with
  | .responseStart status headers =>
      if status = 103 then sender.hint h11 call.message headers
      else sender.start h11 env call.message status headers
  | .responseBody body moreBody => sender.body h11 env call body moreBody
  | .responseSendfile content offset count moreBody =>
      sender.sendfile h11 passthrough sendfileAvailable call content offset count moreBody

end Sender

/-- An application that calls `send` as it likes, on a connection that waits for a response. -/
def sendMachine {Conn : Type u} (h11 : H11 Conn) (passthrough : H11Passthrough h11)
    (ready : Conn → Prop) (env : SendEnv) (sendfileAvailable : Bool) :
    Machine (Sender Conn) SendCall where
  init sender := ∃ conn, ready conn ∧ sender = { conn, compressor := env.compressor }
  step sender call := some (sender.send h11 passthrough env sendfileAvailable call).sender

/-! ## What is promised -/

namespace Sender

variable {Conn : Type u}

/-- The transport gets the hints, the head of the response and then its body. -/
structure Exact (sender : Sender Conn) : Prop where
  /-- What was written, and the head that is held back, is what was serialized. -/
  bytes : sender.writes.flatten ++ sender.pendingHead = (sender.pieces.map Prod.snd).flatten
  /-- First the hints, then the head and then the body, all of it as it was sent. -/
  order : sender.pieces.map Prod.fst =
    sender.accepted.filter (·.isInterim) ++
      (sender.accepted.filter (·.isStart) |>.drop sender.deferredMessage.toList.length) ++
        sender.accepted.filter (·.isBody)
  one : (sender.accepted.filter (·.isStart)).length ≤ 1
  complete : sender.responseComplete = true ↔ ∃ message ∈ sender.accepted, message.isFinal

/-- The call raises an error and writes nothing. -/
def Refuses (sender : Sender Conn) (outcome : SendOutcome Conn) : Prop :=
  outcome.raised = true ∧ outcome.sender.writes = sender.writes

/-- What one call is answered with. -/
structure Answers (sender : Sender Conn) (call : SendCall) (outcome : SendOutcome Conn) : Prop where
  /-- A second final start is refused. -/
  second : call.message.isStart → sender.accepted.any (·.isStart) → sender.Refuses outcome
  /-- The body is refused before the start. -/
  before : call.message.isBody → sender.responseStarted = false → sender.Refuses outcome
  /-- It is refused after its end. -/
  after : call.message.isBody → sender.responseComplete = true → sender.Refuses outcome
  /-- Any other message that raises no error is accepted, while the writer is open. -/
  kept : outcome.raised = false → call.closing = false →
    (call.message.isBody → sender.accepted.any (·.isStart)) →
      outcome.sender.accepted = sender.accepted ++ [call.message]
  /-- With the body nothing is held back any more. -/
  flushed : call.message.isBody → outcome.raised = false → call.closing = false →
    outcome.sender.pendingHead = []

/-- A call that goes well: no second start is deferred or follows one that is, the last piece of
the body does not end with an error of the transport, and a file is transferred as a whole. -/
def plain (env : SendEnv) (sender : Sender Conn) (call : SendCall) : Bool :=
  match call.message with
  | .responseStart status headers =>
      status = 103 || !(sender.accepted.any (·.isStart)) ||
        (sender.deferredMessage.isNone && !sender.defers env status headers)
  | .responseBody _ moreBody => moreBody || !call.drainRaises
  | .responseSendfile content offset count moreBody =>
      (moreBody || !call.drainRaises) &&
        (count = 0 || (call.transfer = .whole && offset + count ≤ content.length))

end Sender

end Asgi

end Pounce
