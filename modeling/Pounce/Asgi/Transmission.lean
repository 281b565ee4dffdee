/-
# Sending over HTTP/1.1

The `send` callable of an HTTP/1.1 response runs the bridge over an h11 connection and
writes to the transport. The head is held back until the first piece of the body, so that
both can be written at once; whatever h11 refuses is an error raised into the application.
An application is the sequence of messages it sends, and an error raised into it ends it.
-/

import Pounce.Asgi.Bridge
import Pounce.Protocols.H1

namespace Pounce.Asgi

open Pounce.Math

universe u

/-- A response on its way: the state of `send`, the connection, the head that is held
back, what has been written and whether an error has been raised. -/
structure Transmission (Conn : Type u) where
  state : SendState
  conn : Conn
  pendingHead : Bytes := []
  written : Bytes := []
  raised : Bool := false

namespace Transmission

variable {Conn : Type u} (h11 : H11 Conn)

/-- Hand the protocol what the bridge has for it. After an error there is nothing. -/
def deliver (transmission : Transmission Conn) (event : WireEvent) : Transmission Conn :=
  if transmission.raised then transmission
  else
    match event with
    | .informational headers =>
        match H1Protocol.sendInformational h11 transmission.conn 103 headers with
        | (none, conn) => { transmission with conn, raised := true }
        | (some bytes, conn) =>
            { transmission with conn, written := transmission.written ++ bytes }
    | .head status headers =>
        match H1Protocol.sendResponse h11 transmission.conn status headers with
        | (none, conn) => { transmission with conn, raised := true }
        | (some bytes, conn) => { transmission with conn, pendingHead := bytes }
    | .data bytes endStream =>
        match H1Protocol.sendBody h11 transmission.conn bytes (!endStream) with
        | (none, conn) => { transmission with conn, raised := true }
        | (some raw, conn) =>
            { transmission with
              conn
              written := transmission.written ++ transmission.pendingHead ++ raw
              pendingHead := [] }

/-- Send a message of the application. -/
def send (bridge : Bridge) (env : SendEnv) (transmission : Transmission Conn)
    (message : SendMessage) : Transmission Conn :=
  if transmission.raised then transmission
  else
    match bridge.send env transmission.state message with
    | none => { transmission with raised := true }
    | some state =>
        (state.wire.drop transmission.state.wire.length).foldl (deliver h11)
          { transmission with state }

/-- Send the messages of the application. -/
def run (bridge : Bridge) (env : SendEnv) (conn : Conn) (messages : List SendMessage) :
    Transmission Conn :=
  messages.foldl (send h11 bridge env) { state := { compressor := env.compressor }, conn }

end Transmission

end Pounce.Asgi
