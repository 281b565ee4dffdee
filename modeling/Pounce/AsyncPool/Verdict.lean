/-
# When a handoff answers as the worker does

`verdict` looks at a request and the messages of its application and says whether a client
decodes the same response from a handoff as from the asynchronous worker. It goes through the
messages once. Before the head it asks how each of the two opens the response; behind the
head only how the end of the body is marked on either connection matters, and how much of a
declared length is left.

It leaves little open: a successful response to CONNECT, a file behind a piece of the body
where the application encodes the response itself or the file is empty, a response of status
500 whose head only the handoff sends, and a debug page with more characters than a length
has digits for.
-/

import Pounce.AsyncPool.Streaming

namespace Pounce.AsyncPool

open Pounce.Math Pounce.Math.Bytes Pounce.Math.Message Pounce.Asgi

/-! ## Heads -/

section

variable (rules : HeaderRules) (stream : Stream)

/-- The length a response announces: none if it is encoded or in chunks. -/
def announcedLength (headers : List Header) (encoded : Bool) : Option ℕ :=
  if encoded ∨ valuesOf (ascii "transfer-encoding") (sanitizeHeaders headers) ≠ [] then none
  else
    (rules.lengths (valuesOf (ascii "content-length") (sanitizeHeaders headers))).head?.bind decimal?

/-- How the end of the body is marked, by what is known of the client. -/
def delimitingOf (peer : Option Peer) (status : ℕ) (headers : List Header) (encoded : Bool) :
    Delimiting :=
  if status = 204 ∨ status = 304 ∨ peer.any (·.method = ascii "HEAD") then .length 0
  else
    match announcedLength rules headers encoded with
    | some length => .length length
    | none => if peer.any (·.http11) then .chunked else .close

/-- What becomes of the start of a response. -/
inductive Opening
  /-- It waits for the first piece of the body. -/
  | deferred
  /-- h11 refuses the head. -/
  | refused
  /-- The response to CONNECT makes the connection a tunnel. -/
  | tunnel
  /-- The head is sent. -/
  | opened (encoded : Bool) (delimiting : Delimiting)
  deriving DecidableEq, Repr

/-- A start that was deferred, and what has become of it later. -/
def Opening.resolved (opening later : Opening) : Opening :=
  if opening = .deferred then later else opening

/-- The encoder that is left when a response of this status is started. -/
def startEncoder (status : ℕ) (compressor : Option Compressor) : Option Compressor :=
  if bodylessStatus status ∨ stream.request.method = ascii "HEAD" then none else compressor

/-- The head is committed. -/
def commits (env : SendEnv) (peer : Option Peer) (encoder : Option Compressor) (status : ℕ)
    (headers : List Header) : Opening :=
  let built := h1.buildHead env encoder (h1.startHeaders env headers)
  if !acceptsResponse rules status built.2 then .refused
  else if switchesProtocol (peer.map (·.method)) status then .tunnel
  else .opened built.1.isSome (delimitingOf rules peer status headers built.1.isSome)

/-- The response is started. -/
def starts (env : SendEnv) (peer : Option Peer) (status : ℕ) (headers : List Header) : Opening :=
  let encoder := startEncoder stream status env.compressor
  if encoder.isSome ∧ 0 < stream.compressionMinSize then
    match getHeader (sanitizeHeaders headers) (ascii "content-length") with
    | some declared =>
        commits rules env peer
          (if declaredBelow stream.compressionMinSize declared then none else encoder) status headers
    | none => .deferred
  else commits rules env peer encoder status headers

/-- The deferred start is committed with a first piece of the body. -/
def resolves (env : SendEnv) (peer : Option Peer) (status : ℕ) (headers : List Header)
    (body : Bytes) (moreBody : Bool) : Opening :=
  commits rules env peer
    (if shouldCompressBody (if moreBody then none else some body.length) stream.compressionMinSize
      then env.compressor else none) status headers

end

/-! ## The verdict -/

/-- Whether the worker answers, and whether the client decodes the same from the two, where
that is settled. -/
structure Verdict where
  answered : Bool
  same : Option Bool
  deriving DecidableEq, Repr

/-- Over TLS the handoff sends nothing. -/
def Verdict.overTls (verdict : Verdict) : Verdict :=
  { verdict with
    same := if verdict.answered then some false else verdict.same.map fun _ => true }

/-- A response both have opened. -/
structure Sending where
  worker : Delimiting
  handoff : Delimiting
  /-- The worker does not encode it. -/
  plain : Bool
  /-- The application has encoded it. -/
  coded : Bool
  /-- The heads have been written, with a first piece of the body. -/
  flushed : Bool := false
  deriving DecidableEq, Repr

/-- How far the two have got. -/
inductive Progress
  | unstarted
  /-- The worker has deferred a start. The handoff has deferred it, opened the response, or
  will write nothing. -/
  | deferred (status : ℕ) (headers : List Header) (handoff : Opening)
  | sending (sending : Sending)
  /-- Only the worker may still write something: a piece of the body or a file. -/
  | lone (worker : Delimiting) (pieces files : Bool)
  | decided (verdict : Verdict)

namespace Sending

variable (sending : Sending)

/-- The client gets a length from both or from neither. -/
def alike : Bool := !(sending.worker.isUnknown && !sending.handoff.isUnknown)

/-- Nothing more is sent: the client misses the end of chunks. -/
def broken : Verdict where
  answered := sending.flushed
  same := some !(sending.flushed && sending.worker = .chunked)

/-- A piece of the body. -/
def piece (data : Bytes) (more : Bool) : Progress :=
  if !sending.worker.takes data more then .decided sending.broken
  else if !sending.handoff.takes data more then
    -- behind its head the end of a HEAD response makes no difference
    .decided ⟨true, some sending.flushed⟩
  else if !sending.alike then .decided ⟨true, some false⟩
  else if more then
    .sending
      { sending with
        worker := sending.worker.after data
        handoff := sending.handoff.after data
        flushed := true }
  else .decided ⟨true, some true⟩

/-- A file, which only the worker sends. -/
def file (data : Bytes) (more : Bool) : Verdict :=
  if sending.plain && sending.worker.takes data more then
    { answered := true
      -- the codings of an application may make anything of more data
      same := if sending.flushed && (sending.coded || data = []) then none else some false }
  else sending.broken

end Sending

section

variable (rules : HeaderRules) (debug : Bool) (stream : Stream) (peer : Peer)

/-- What the worker answers an error with. -/
def errorAnswer : List Header × Bytes :=
  if debug then (debugHeaders stream.debugPage, utf8 stream.debugPage)
  else (errorHeaders errorText "POUNCE_APP_E", errorText)

/-- The error responses of the two look the same to the client: they differ in fields the
application does not use, and in a text it does not get or that is the same. -/
def errorsAgree : Bool :=
  let answer := errorAnswer debug stream
  answer.1.filter stream.keeps = plainHeaders.filter stream.keeps &&
    ascii "content-length" ∉ startNames stream.messages &&
    (stream.request.method = ascii "HEAD" ||
      answer.2 = errorText && declaredLength answer.1 = some answer.2.length)

/-- Both answer an error that came before the response. -/
def failed : Verdict where
  answered := true
  same := if Regular (errorAnswer debug stream).1 then some (errorsAgree debug stream) else none

/-- The piece of a body as `send` takes it. -/
def bodyOf (body : Bytes) : Bytes :=
  if stream.request.method = ascii "HEAD" then [] else body

namespace Progress

/-- Both have started the response. -/
def opened (status : ℕ) (headers : List Header) : Opening → Opening → Progress
  | .deferred, handoff => .deferred status headers handoff
  | .opened encoded worker, .opened _ handoff =>
      .sending
        { worker
          handoff
          plain := !encoded
          coded := valuesOf (ascii "content-encoding") (sanitizeHeaders headers) ≠ [] }
  | .opened encoded worker, _ => .lone worker true (stream.canSendfile && !encoded)
  -- the worker answers the error, the handoff takes the response for started
  | .refused, .opened _ _ => .decided ⟨true, if status = 500 then none else some false⟩
  | .refused, _ => .decided ⟨true, some false⟩
  | .tunnel, _ => .decided ⟨false, none⟩

/-- A piece of the body. -/
def piece (data : Bytes) (more : Bool) : Progress → Progress
  | .sending current => current.piece data more
  | .lone worker pieces _ =>
      let written := pieces && worker.takes data more
      .decided ⟨written, some !written⟩
  | progress => progress

/-- One message. -/
def next : Progress → SendMessage → Progress
  | .unstarted, .responseStart status headers =>
      if status = 103 then
        -- a connection without a request rejects interim responses
        if (rules.normalize (sanitizeHeaders headers)).isSome then .decided ⟨true, some false⟩
        else .decided (failed debug stream)
      else
        opened stream status headers (starts rules stream stream.workerEnv (some peer) status headers)
          (starts rules stream stream.handoffEnv none status headers)
  | .unstarted, _ => .decided (failed debug stream)
  | .deferred status headers handoff, .responseBody body moreBody =>
      (opened stream status headers
        (resolves rules stream stream.workerEnv (some peer) status headers body moreBody)
        (handoff.resolved
          (resolves rules stream stream.handoffEnv none status headers body moreBody))).piece
        (bodyOf stream body) moreBody
  | .deferred _ _ handoff, .responseStart status headers =>
      if status = 103 then .decided ⟨true, some false⟩
      else
        match starts rules stream stream.workerEnv (some peer) status headers with
        | .deferred =>
            .deferred status headers
              (if handoff = .deferred ∧
                  starts rules stream stream.handoffEnv none status headers = .deferred then
                .deferred
              else .refused)
        -- a piece of the body would commit the first start
        | .opened encoded worker => .lone worker false (stream.canSendfile && !encoded)
        | .refused => .decided ⟨true, some false⟩
        | .tunnel => .decided ⟨false, none⟩
  | .deferred _ _ _, .responseSendfile .. => .decided ⟨true, some false⟩
  | .sending current, .responseBody body moreBody => current.piece (bodyOf stream body) moreBody
  | .sending current, .responseSendfile content offset count moreBody =>
      .decided
        (if stream.canSendfile then current.file ((content.drop offset).take count) moreBody
        else current.broken)
  | .sending current, .responseStart .. => .decided current.broken
  | .lone worker pieces files, .responseBody body moreBody =>
      (lone worker pieces files).piece (bodyOf stream body) moreBody
  | .lone worker _ files, .responseSendfile content offset count moreBody =>
      let written := files && worker.takes ((content.drop offset).take count) moreBody
      .decided ⟨written, some !written⟩
  | .lone _ _ _, .responseStart .. => .decided ⟨false, some true⟩
  | .decided verdict, _ => .decided verdict

/-- The application is done. -/
def atEnd : Progress → Verdict
  -- without an error only the worker answers in its place
  | .unstarted => if stream.raises then failed debug stream else ⟨true, some false⟩
  | .deferred _ _ _ => if stream.raises then ⟨true, some false⟩ else ⟨false, some true⟩
  | .sending current => current.broken
  | .lone _ _ _ => ⟨false, some true⟩
  | .decided verdict => verdict

end Progress

/-- Whether the client decodes the same. -/
def verdict : Verdict :=
  let plain := (stream.messages.foldl (Progress.next rules debug stream peer) .unstarted).atEnd
    debug stream
  if stream.tls then plain.overTls else plain

end

end Pounce.AsyncPool
