/-
# Receiving a request

`recvRequestFast` reads requests off a blocking socket through one buffer that
is allocated once and reused by every call and every connection. Each turn of
its loop receives first and parses afterwards; a complete request is returned
with the bytes behind it shifted to the front of the buffer for the next call.

`RecvBuffer` carries the bounds of that buffer, so every access the loop makes is
in range by construction. The socket is the list of results its `recv_into` calls
will have: a result that does not fit the free part of the buffer is delivered in
part, the rest staying with the socket.
-/

import Pounce.Config
import Pounce.FastH1
import Pounce.ResponseFrame

namespace Pounce.SyncWorker

open Pounce.Math Pounce.Math.Bytes Pounce.FastH1

/-- The size of a worker's receive buffer. -/
def recvCapacity : ℕ := 65536

/-- The interim response that releases a withheld body. -/
def http100Continue : Bytes := ascii "HTTP/1.1 100 Continue\r\n\r\n"

/-! ## The buffer -/

/-- A receive buffer and the number of bytes at its front that are in use. -/
structure RecvBuffer (capacity : ℕ) where
  bytes : Bytes
  len : ℕ
  length_bytes : bytes.length = capacity
  len_le : len ≤ capacity

namespace RecvBuffer

variable {capacity : ℕ}

/-- The bytes in use. -/
def content (buffer : RecvBuffer capacity) : Bytes := buffer.bytes.take buffer.len

/-- Receive into the free part of the buffer, as much as fits. -/
def recvInto (buffer : RecvBuffer capacity) (data : Bytes) : RecvBuffer capacity where
  bytes :=
    let got := data.take (capacity - buffer.len)
    buffer.content ++ got ++ buffer.bytes.drop (buffer.len + got.length)
  len := buffer.len + (data.take (capacity - buffer.len)).length
  length_bytes := by
    have hbytes := buffer.length_bytes
    have hlen := buffer.len_le
    simp only [content, List.length_append, List.length_take, List.length_drop]
    omega
  len_le := by
    have hlen := buffer.len_le
    simp only [List.length_take]
    omega

/-- Keep what follows the first `consumed` bytes, shifted to the front. -/
def keep (buffer : RecvBuffer capacity) (consumed : ℕ) : RecvBuffer capacity where
  bytes := buffer.content.drop consumed ++ buffer.bytes.drop (buffer.len - consumed)
  len := buffer.len - consumed
  length_bytes := by
    have hbytes := buffer.length_bytes
    have hlen := buffer.len_le
    simp only [content, List.length_append, List.length_take, List.length_drop]
    omega
  len_le := (Nat.sub_le _ _).trans buffer.len_le

/-- Forget the bytes in use. They stay in the buffer, out of use. -/
def reset (buffer : RecvBuffer capacity) : RecvBuffer capacity :=
  { buffer with len := 0, len_le := Nat.zero_le _ }

@[simp]
theorem length_content (buffer : RecvBuffer capacity) : buffer.content.length = buffer.len := by
  have hbytes := buffer.length_bytes
  have hlen := buffer.len_le
  rw [content, List.length_take]
  omega

/-- Receiving appends what fits. -/
theorem content_recvInto (buffer : RecvBuffer capacity) (data : Bytes) :
    (buffer.recvInto data).content = buffer.content ++ data.take (capacity - buffer.len) := by
  have hlength : buffer.len + (data.take (capacity - buffer.len)).length =
      (buffer.content ++ data.take (capacity - buffer.len)).length := by
    rw [List.length_append, length_content]
  rw [content, recvInto]
  simp only [hlength, List.take_left]

/-- Keeping drops the consumed bytes. -/
theorem content_keep (buffer : RecvBuffer capacity) (consumed : ℕ) :
    (buffer.keep consumed).content = buffer.content.drop consumed := by
  have hlength : buffer.len - consumed = (buffer.content.drop consumed).length := by
    rw [List.length_drop, length_content]
  rw [content, keep]
  simp only [hlength, List.take_left]

end RecvBuffer

/-! ## The socket -/

/-- What a `recv_into` on the socket comes to. Receiving no bytes is the peer's
end of the stream. -/
inductive RecvResult
  | data (bytes : Bytes)
  | timeout
  | osError
  deriving DecidableEq, Repr

/-- A socket: the results of its receives, whether its peer still takes what is
sent, and what has been sent. -/
structure Socket where
  recvs : List RecvResult
  writable : Bool := true
  sent : List Bytes := []
  deriving DecidableEq, Repr

/-- Send all bytes. `none` is the error raised when the peer is gone. -/
def Socket.sendall (conn : Socket) (bytes : Bytes) : Option Socket :=
  if conn.writable then some { conn with sent := conn.sent ++ [bytes] } else none

/-- The body of an error response. In debug mode it names the error. -/
def errorBody (config : ServerConfig) (message code : String) (hint : Option String) : Bytes :=
  if config.debug then
    let parts := [message, "", "Pounce error code: " ++ code] ++
      hint.toList.map fun text => "Hint: " ++ text
    (ascii "\n").intercalate (parts.map utf8)
  else utf8 message

/-- An error response. -/
def errorResponse (config : ServerConfig) (status : ℕ) (message code : String)
    (hint : Option String) : Bytes :=
  let body := errorBody config message code hint
  ascii "HTTP/1.1 " ++ ofNat status ++ ascii " " ++
    ResponseFrame.reasonOr (ascii "Error") status ++ crlf ++
    ascii "content-type: text/plain; charset=utf-8\r\n" ++
    ascii "content-length: " ++ ofNat body.length ++ crlf ++
    ascii "connection: close\r\n" ++
    ascii "x-pounce-error-code: " ++ utf8 code ++ crlf ++ crlf ++ body

/-- Send an error response; failing to is not an error. -/
def sendError (conn : Socket) (config : ServerConfig) (status : ℕ) (message code : String)
    (hint : Option String) : Socket :=
  (conn.sendall (errorResponse config status message code hint)).getD conn

/-! ## The receive loop -/

/-- Some line of the header block is `Expect: 100-continue`. -/
def wants100Continue (headerBlock : Bytes) : Bool :=
  (lines headerBlock).any fun line =>
    match findSlice (ascii ":") line with
    | none => false
    | some colon =>
        lower (strip (line.take colon)) = ascii "expect" &&
          lower (strip (line.drop (colon + 1))) = ascii "100-continue"

/-- A worker's view of one connection: its receive buffer and the socket. -/
structure Conn (capacity : ℕ) where
  buffer : RecvBuffer capacity
  socket : Socket

/-- What the loop remembers within one call. -/
structure Awaiting where
  sent100 : Bool := false
  awaitingBody : Bool := false
  deriving DecidableEq, Repr

/-- What a call returns: a request with its body, or nothing because the
connection is to be closed. A call whose socket has no more results waits. -/
inductive Received
  | request (request : RequestReceived) (body : Bytes)
  | stopped
  | waiting
  deriving DecidableEq, Repr

/-- How one turn of the loop ends. -/
inductive Turn (capacity : ℕ)
  | done (outcome : Received) (conn : Conn capacity)
  | again (awaiting : Awaiting) (conn : Conn capacity)

variable {capacity : ℕ}

/-- Give up on the connection. -/
def Conn.stop (conn : Conn capacity) : Conn capacity := { conn with buffer := conn.buffer.reset }

/-- Give up on the connection with an error response. -/
def Conn.reject (conn : Conn capacity) (config : ServerConfig) (status : ℕ)
    (message code : String) (hint : Option String) : Conn capacity :=
  { conn.stop with socket := sendError conn.socket config status message code hint }

/-- Release a body withheld until an interim response. `none` means the peer is
gone. -/
def sendContinue (awaiting : Awaiting) (conn : Conn capacity) :
    Option (Awaiting × Conn capacity) :=
  if awaiting.sent100 then some (awaiting, conn)
  else match findSlice crlfCrlf conn.buffer.content with
    | none => some (awaiting, conn)
    | some headerEnd =>
        let awaiting := { awaiting with awaitingBody := true }
        if wants100Continue (conn.buffer.content.take headerEnd) then
          (conn.socket.sendall http100Continue).map fun socket =>
            ({ awaiting with sent100 := true }, { conn with socket })
        else some (awaiting, conn)

/-- A turn of the loop, once bytes have been received into the buffer. -/
def afterRecv (config : ServerConfig) (awaiting : Awaiting) (conn : Conn capacity) :
    Turn capacity :=
  match parseRequest conn.buffer.bytes conn.buffer.len config.maxHeaders config.maxHeaderSize with
  | .error error =>
      .done .stopped (conn.reject config 400 "Bad Request" error.code error.hint)
  | .ok (some parsed) =>
      if parsed.chunked then
        .done .stopped (conn.reject config 501 "Chunked Transfer-Encoding not supported"
          "POUNCE_PARSE_CHUNKED_UNSUPPORTED"
          (some "The sync worker does not decode chunked bodies; use worker_mode='async'."))
      else
        .done (.request parsed.request parsed.body)
          { conn with buffer := conn.buffer.keep parsed.consumed }
  | .ok none =>
      match sendContinue awaiting conn with
      | none => .done .stopped conn.stop
      | some (awaiting, conn) =>
          if conn.buffer.len ≥ capacity then
            .done .stopped (conn.reject config 413 "Request Too Large"
              "POUNCE_LIMIT_REQUEST_TOO_LARGE"
              (some <| "Increase max_header_size or buffer capacity if clients " ++
                "legitimately need it."))
          else .again awaiting conn

/-- The receive loop, over the results the socket will have. A result that does
not fit fills the buffer, and a full buffer ends the loop: it never turns again
with part of a result left. -/
def recvLoop (config : ServerConfig) :
    List RecvResult → Awaiting → Conn capacity → Received × Conn capacity
  | [], _, conn => (.waiting, { conn with socket := { conn.socket with recvs := [] } })
  | .osError :: rest, _, conn =>
      (.stopped, { conn with socket := { conn.socket with recvs := rest } }.stop)
  | .timeout :: rest, awaiting, conn =>
      let conn := { conn with socket := { conn.socket with recvs := rest } }
      if awaiting.awaitingBody then
        (.stopped, conn.reject config 408 "Request Timeout" "POUNCE_TIMEOUT_REQUEST_BODY"
          (some <| "Increase request_timeout only for clients that " ++
            "legitimately upload slowly."))
      else (.stopped, conn.stop)
  | .data data :: rest, awaiting, conn =>
      let unread := data.drop (capacity - conn.buffer.len)
      let recvs := if unread = [] then rest else .data unread :: rest
      let conn' : Conn capacity :=
        { buffer := conn.buffer.recvInto data, socket := { conn.socket with recvs } }
      if data.take (capacity - conn.buffer.len) = [] then (.stopped, conn'.stop)
      else match afterRecv config awaiting conn' with
        | .done outcome conn => (outcome, conn)
        | .again awaiting conn => recvLoop config rest awaiting conn

/-- Read a complete request: the request and its body, with the bytes behind it
kept for the next call. -/
def recvRequestFast (config : ServerConfig) (conn : Conn capacity) :
    Received × Conn capacity :=
  recvLoop config conn.socket.recvs {} conn

end Pounce.SyncWorker
