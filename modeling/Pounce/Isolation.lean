/-
# Streams leave each other alone

On HTTP/2 and on HTTP/3 alike the handler answers some requests itself, from the loop that
reads and from the end of a task, and neither place asks whether the application has begun a
response. What follows differs: the library of HTTP/2 refuses the second response and the loop
is left, and that of HTTP/3 is only asked. In runs where the handler finds the streams it
answers fresh, and applications start one response each, both protocols keep streams apart.
-/

import Pounce.H2.Isolation
import Pounce.H3.Isolation

namespace Pounce

open Pounce.Math Pounce.Math.Bytes Pounce.Asgi

/-- What happens on one stream of a connection stays there, on HTTP/2 and on HTTP/3. -/
theorem streams_isolated {Conn : Type} (env : H2.Env Conn) {view : H2.View Conn}
    (hobeys : env.codec.Obeys view) (hserves : env.codec.Serves view) {conn : Conn}
    (hidle : ∀ streamId, view.phase conn streamId = .idle) {handler : H2.Handler Conn}
    (hreach : (H2.handlerMachine env conn).Reach
      (fun handler action => H2.Handler.spares view env handler action = true) handler)
    {Quic Datum : Type} (quicEnv : H3.Env Quic Datum) {quic : Quic}
    {quicHandler : H3.Handler Quic Datum} (hquic : (H3.handlerMachine quicEnv quic).Reach
      (fun handler action => handler.Spares quicEnv action) quicHandler) :
    handler.Isolated ∧ quicHandler.Isolated :=
  ⟨H2.Handler.isolated_of_reach hobeys hserves hidle hreach, H3.Handler.isolated_of_reach hquic⟩

/-! ## A page on either protocol -/

namespace Isolation

/-- The first byte stands for a request, the second for a body that is too long, and the third for
a request on another stream. -/
def pageEnv : H2.Env H2.SmallConn where
  codec := H2.smallH2
    [([1], [.requestReceived 1 H2.pageHead false]),
      ([2], [.dataReceived 1 (ascii "body") 4 false]),
      ([3], [.requestReceived 3 H2.pageHead false])]
  config := { maxRequestSize := 3 }

/-- The application begins a response. -/
def pageBegun : List H2.Handler.Action :=
  [.read [1], .dispatch, .dispatch, .drained, .start 1, .call 1 (.respond 200),
    .call 1 (.sendHeaders 200 [] false)]

/-- It gets to the end, although another application fails in the meantime. -/
def pageServed : List H2.Handler.Action :=
  pageBegun ++ [.read [3], .dispatch, .dispatch, .drained, .start 3, .finish 3 .raised,
    .call 1 (.sendData (ascii "page") true), .finish 1 .returned]

/-- What is sent then. -/
def pageSent : List SentFrame :=
  [.headers 1 200 [] false, .headers 3 500 [(ascii "content-type", ascii "text/plain")] false,
    .data 3 (ascii "Internal Server Error") true, .data 1 (ascii "page") true]

/-- The body of the request goes over the limit. -/
def pageOver : List H2.Handler.Action := pageBegun ++ [.read [2], .dispatch]

/-- A connection that nothing has been read from. -/
def pageOpened : H2.Handler H2.SmallConn := { h2 := { conn := H2.idleConn } }

/-- How the loop stands after a run. -/
def pageLoop (actions : List H2.Handler.Action) : Option H2.Loop :=
  ((H2.handlerMachine pageEnv H2.idleConn).run pageOpened actions).map (·.loop)

/-- A library of HTTP/3 that takes everything, and lets the first byte stand for a request. -/
def pageQuic : H3.Codec Unit (List H3.H3Event) where
  datagramReceived conn data :=
    .ok (conn, if data = [1] then
      [.streamDataReceived [.headersReceived 0 H2.pageHead true false]] else [])
  handleEvent conn events := .ok (conn, events)
  sendHeaders conn _ _ _ := .ok conn
  sendData conn _ _ _ := .ok conn
  signalStopSending conn _ := .ok conn

def pageQuicEnv : H3.Env Unit (List H3.H3Event) where
  codec := pageQuic

/-- The request is served. -/
def quicServed : List H3.Action :=
  [.datagram [1], .dispatch, .dispatch, .start 0, .send 0 (.responseStart 200 []),
    .send 0 (.responseBody (ascii "page") false), .finish 0 .returned]

/-- What spares the streams can be looked up where the library takes everything. -/
def quicSpares (handler : H3.Handler Unit (List H3.H3Event)) : H3.Action → Bool
  | .dispatch =>
      match handler.pending.head? with
      | some (.h3 (.headersReceived streamId headers _ _)) =>
          (handler.begun streamId).isNone && streamId ∉ handler.answered && (handler.draining ||
            match buildH3Scope pageQuicEnv.config pageQuicEnv.client pageQuicEnv.server headers with
            | .error (.raised _) => false
            | _ => true)
      | some (.h3 (.dataReceived _ _ _)) => false
      | _ => true
  | .send id message => (handler.sends id).all fun callable =>
      callable.streamId ∉ handler.answered &&
        (!H3.isStart message || !callable.state.responseStarted)
  | .finish _ ending => ending = .returned
  | _ => true

theorem quicSpares_spares {handler : H3.Handler Unit (List H3.H3Event)} {action : H3.Action}
    (hspares : quicSpares handler action = true) : handler.Spares pageQuicEnv action := by
  have htakes : ∀ streamId, pageQuicEnv.codec.Takes handler.conn streamId := by
    intro streamId status headers body
    exact ⟨(), (), (), rfl, rfl, rfl⟩
  cases action with
  | datagram | drain | close | prune | start => trivial
  | dispatch =>
      rw [quicSpares] at hspares
      rw [H3.Handler.Spares]
      split at hspares
      case h_1 streamId headers endStream is0rtt hhead =>
        simp only [hhead]
        simp only [Bool.and_eq_true, Bool.or_eq_true, Option.isNone_iff_eq_none,
          decide_eq_true_eq] at hspares
        obtain ⟨⟨hbegun, hanswered⟩, hread⟩ := hspares
        intro _
        refine ⟨hbegun, hanswered, ?_⟩
        split
        case isTrue => exact htakes streamId
        case isFalse hdraining =>
          have hscope := hread.resolve_left hdraining
          split
          case h_1 error heq =>
            rw [heq] at hscope
            cases hscope
          case h_2 => exact htakes streamId
          case h_3 => exact fun _ => htakes streamId
      case h_2 => cases hspares
      case h_3 hheaders hdata =>
        split
        case h_1 streamId headers endStream is0rtt hhead => exact absurd hhead (hheaders _ _ _ _)
        case h_2 streamId data endStream hhead => exact absurd hhead (hdata _ _ _)
        case h_3 => trivial
  | send id message =>
      intro callable hcallable
      have hboth : callable.streamId ∉ handler.answered ∧
          (H3.isStart message = false ∨ callable.state.responseStarted = false) := by
        simpa [quicSpares, hcallable] using hspares
      exact ⟨hboth.1, fun hstart => hboth.2.resolve_left (by simp [hstart])⟩
  | finish id ending =>
      obtain rfl : ending = .returned := of_decide_eq_true hspares
      rintro task - - (hnot | ⟨hnot, -⟩) <;> cases hnot

set_option maxRecDepth 8000 in
theorem streams_isolated_page :
    ∃ handler quicHandler,
      (H2.handlerMachine pageEnv H2.idleConn).run pageOpened pageServed = some handler ∧
        (H3.handlerMachine pageQuicEnv ()).run { conn := () } quicServed = some quicHandler ∧
          handler.sent = pageSent ∧ handler.Isolated ∧ quicHandler.Isolated := by
  have hserved : ((H2.handlerMachine pageEnv H2.idleConn).run pageOpened pageServed).map (·.sent) =
      some pageSent := by decide
  have hquic : ((H3.handlerMachine pageQuicEnv ()).run { conn := () } quicServed).isSome = true := by
    decide
  obtain ⟨handler, hrun, hsent⟩ := Option.map_eq_some_iff.mp hserved
  obtain ⟨quicHandler, hquicRun⟩ := Option.isSome_iff_exists.mp hquic
  have hguarded : (H2.handlerMachine pageEnv H2.idleConn).Along
      (fun handler action => H2.Handler.spares H2.smallView pageEnv handler action = true)
      pageOpened pageServed :=
    Machine.along_of_guarded (by decide)
  have hquicGuarded : (H3.handlerMachine pageQuicEnv ()).Along
      (fun handler action => quicSpares handler action = true) { conn := () } quicServed :=
    Machine.along_of_guarded (by decide)
  have hquicReach : (H3.handlerMachine pageQuicEnv ()).Reach
      (fun handler action => quicSpares handler action = true) quicHandler :=
    Machine.Reach.run (.init rfl) hquicGuarded hquicRun
  exact ⟨handler, quicHandler, hrun, hquicRun, hsent,
    streams_isolated pageEnv (H2.smallH2_obeys _) (H2.smallH2_serves _) (fun _ => rfl)
      (Machine.Reach.run (.init rfl) hguarded hrun) pageQuicEnv
      (hquicReach.mono fun _ _ => quicSpares_spares)⟩

set_option maxRecDepth 8000 in
/-- A body that goes over the limit after the response has begun ends the connection. -/
theorem pageLoop_over : pageLoop pageOver = some (.leaving .failed) := by
  decide

theorem streams_isolated_over :
    ¬ ∀ handler, (H2.handlerMachine pageEnv H2.idleConn).Reachable handler → handler.Isolated := by
  intro hclaim
  obtain ⟨handler, hrun, hloop⟩ := Option.map_eq_some_iff.mp pageLoop_over
  exact (hclaim handler (Machine.reachable_run rfl hrun)).stays hloop

end Isolation

end Pounce
