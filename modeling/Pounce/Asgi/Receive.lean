/-
# Receiving a request body

An application asks for its request with `receive`, as often as it likes. A `Receiver` is
one of the closures the server hands it, with what the closure remembers; what it shares
with the task beside the application is the `Intake`, a queue of body events and the event
that signals a disconnect. A call that suspends forever, or until someone else acts, does
not return here.

An application has been given its body properly if the calls so far `DeliversOnce`: the
chunks are a beginning of the body, all of it once a chunk was announced as the last, and
after that there is nothing but the disconnect. The closures of the asynchronous worker are
built for this; the two that hold the whole body return it at every call, so
`buffered_deliversOnce_iff` holds for at most one call.
-/

import Pounce.Protocols.Base

namespace Pounce.Asgi

open Pounce.Math

/-- A message `receive` returns. -/
inductive ReceiveMessage where
  | request (body : Bytes) (moreBody : Bool)
  | disconnect
  deriving DecidableEq, Repr

/-- The message a body event becomes. -/
def requestMessage (event : BodyReceived) : ReceiveMessage := .request event.data event.more

/-- What a closure shares with the task that serves it. -/
structure Intake where
  /-- The queue of body events. -/
  bodyEvents : List BodyReceived := []
  /-- The disconnect event is set. -/
  disconnect : Bool := false
  deriving DecidableEq, Repr

/-- The `receive` closures, with what they remember between calls. -/
inductive Receiver where
  | disconnectReceive (called : Bool)
  | receiveWithDisconnect (bodyDone : Bool)
  /-- Holds the whole body and remembers nothing. -/
  | buffered (body : Bytes)
  deriving DecidableEq, Repr

/-- For a request without a body. -/
def createDisconnectReceive : Receiver := .disconnectReceive false

/-- For a request whose body comes through a queue. -/
def createReceiveWithDisconnect : Receiver := .receiveWithDisconnect false

/-- The closure of the inline bridge. -/
def callAsgiSyncReceive (body : Bytes) : Receiver := .buffered body

/-- The closure of the streaming handoff. -/
def handleStreamingHandoffReceive (body : Bytes) : Receiver := .buffered body

/-- A call of `receive`; none while it has to wait. -/
def Receiver.receive (receiver : Receiver) (intake : Intake) :
    Option (ReceiveMessage × Receiver × Intake) :=
  match receiver with
  | .disconnectReceive called =>
      if !called then some (.request [] false, .disconnectReceive true, intake)
      else if intake.disconnect then some (.disconnect, receiver, intake)
      else none
  | .receiveWithDisconnect bodyDone =>
      if !bodyDone then
        match intake.bodyEvents with
        | [] => none
        | event :: bodyEvents =>
            some (requestMessage event, .receiveWithDisconnect (!event.more),
              { intake with bodyEvents })
      else if intake.disconnect then some (.disconnect, receiver, intake)
      else none
  | .buffered body => some (.request body false, receiver, intake)

/-- What a call that returns returns. -/
inductive Receiver.Returns :
    Receiver → Intake → ReceiveMessage → Receiver → Intake → Prop where
  /-- The message of a request without a body. -/
  | empty (intake : Intake) :
      Returns (.disconnectReceive false) intake (.request [] false) (.disconnectReceive true) intake
  /-- The next event of the queue. -/
  | chunk (event : BodyReceived) (bodyEvents : List BodyReceived) (disconnect : Bool) :
      Returns (.receiveWithDisconnect false) { bodyEvents := event :: bodyEvents, disconnect }
        (requestMessage event) (.receiveWithDisconnect (!event.more)) { bodyEvents, disconnect }
  /-- The disconnect, after the last body message of a request without a body. -/
  | emptyDisconnect {intake : Intake} (hdisconnect : intake.disconnect = true) :
      Returns (.disconnectReceive true) intake .disconnect (.disconnectReceive true) intake
  /-- The disconnect, after the last event of the queue. -/
  | disconnect {intake : Intake} (hdisconnect : intake.disconnect = true) :
      Returns (.receiveWithDisconnect true) intake .disconnect (.receiveWithDisconnect true) intake
  /-- The whole body. -/
  | buffered (body : Bytes) (intake : Intake) :
      Returns (.buffered body) intake (.request body false) (.buffered body) intake

theorem Receiver.receive_returns {receiver next : Receiver} {intake rest : Intake}
    {message : ReceiveMessage} (hreceive : receiver.receive intake = some (message, next, rest)) :
    receiver.Returns intake message next rest := by
  unfold Receiver.receive at hreceive
  split at hreceive
  case h_1 called =>
    cases called with
    | false =>
        cases hreceive
        exact .empty _
    | true =>
        split at hreceive
        case isTrue hcalled => cases hcalled
        case isFalse =>
          split at hreceive
          case isTrue hdisconnect =>
            cases hreceive
            exact .emptyDisconnect hdisconnect
          case isFalse => cases hreceive
  case h_2 bodyDone =>
    cases bodyDone with
    | false =>
        obtain ⟨bodyEvents, disconnect⟩ := intake
        cases bodyEvents with
        | nil => cases hreceive
        | cons event bodyEvents =>
            cases hreceive
            exact .chunk event bodyEvents disconnect
    | true =>
        split at hreceive
        case isTrue hdone => cases hdone
        case isFalse =>
          split at hreceive
          case isTrue hdisconnect =>
            cases hreceive
            exact .disconnect hdisconnect
          case isFalse => cases hreceive
  case h_3 body =>
    cases hreceive
    exact .buffered body _

/-- The last body message has been returned. -/
def Receiver.finished : Receiver → Bool
  | .disconnectReceive called => called
  | .receiveWithDisconnect bodyDone => bodyDone
  | .buffered _ => false

/-- The messages of so many calls, as far as they return. -/
def Receiver.receives (receiver : Receiver) (intake : Intake) : ℕ → List ReceiveMessage
  | 0 => []
  | calls + 1 =>
      match receiver.receive intake with
      | none => []
      | some (message, receiver, intake) => message :: receiver.receives intake calls

/-! ## What an application has been given -/

/-- The body chunk of a message. -/
def ReceiveMessage.body : ReceiveMessage → Bytes
  | .request body _ => body
  | .disconnect => []

/-- The message announces that no chunk follows. -/
def ReceiveMessage.isFinal : ReceiveMessage → Bool
  | .request _ moreBody => !moreBody
  | .disconnect => false

/-- The data of body events. -/
def bodyData (body : List BodyReceived) : Bytes := body.flatMap (·.data)

@[simp]
theorem bodyData_append (first second : List BodyReceived) :
    bodyData (first ++ second) = bodyData first ++ bodyData second :=
  List.flatMap_append

/-- The chunks received, joined. -/
def delivered (messages : List ReceiveMessage) : Bytes := messages.flatMap (·.body)

/-- After a message that announces the end comes nothing but the disconnect. -/
def Settled (messages : List ReceiveMessage) : Prop :=
  messages.Pairwise fun earlier later => earlier.isFinal → later = .disconnect

/-- The messages give the body once: never more than it, all of it before the end is
announced, and no request message after that. -/
structure DeliversOnce (body : Bytes) (messages : List ReceiveMessage) : Prop where
  delivered_initial : delivered messages <+: body
  complete : (∃ message ∈ messages, message.isFinal) → delivered messages = body
  settled : Settled messages

@[simp]
theorem delivered_nil : delivered [] = [] := rfl

@[simp]
theorem delivered_append (first second : List ReceiveMessage) :
    delivered (first ++ second) = delivered first ++ delivered second :=
  List.flatMap_append

@[simp]
theorem delivered_singleton (message : ReceiveMessage) : delivered [message] = message.body := by
  simp [delivered]

/-- One more message leaves a list settled if the end has not been announced or the
message is the disconnect. -/
theorem Settled.concat {messages : List ReceiveMessage} {message : ReceiveMessage}
    (hsettled : Settled messages)
    (hmessage : (∃ earlier ∈ messages, earlier.isFinal) → message = .disconnect) :
    Settled (messages ++ [message]) := by
  apply List.pairwise_append.mpr
  refine ⟨hsettled, List.pairwise_singleton _ _, ?_⟩
  intro earlier hearlier later hlater hfinal
  obtain rfl := List.mem_singleton.mp hlater
  exact hmessage ⟨earlier, hearlier, hfinal⟩

/-! ## The closures that hold the body -/

/-- Every call returns the whole body. -/
theorem buffered_receives (body : Bytes) (intake : Intake) (calls : ℕ) :
    (Receiver.buffered body).receives intake calls =
      List.replicate calls (.request body false) := by
  induction calls with
  | zero => rfl
  | succ calls ih =>
      rw [List.replicate_succ, ← ih]
      rfl

/-- They give the body once to an application that calls at most once. -/
theorem buffered_deliversOnce_iff (body : Bytes) (intake : Intake) (calls : ℕ) :
    DeliversOnce body ((Receiver.buffered body).receives intake calls) ↔ calls ≤ 1 := by
  rw [buffered_receives]
  constructor
  case mp =>
    intro honce
    by_contra hmore
    obtain ⟨rest, rfl⟩ : ∃ rest, calls = rest + 2 := ⟨calls - 2, by omega⟩
    have hsettled := honce.settled
    rw [Settled, List.replicate_succ, List.pairwise_cons] at hsettled
    have hdisconnect := hsettled.1 (.request body false) (by simp) rfl
    cases hdisconnect
  case mpr =>
    intro hone
    obtain rfl | rfl : calls = 0 ∨ calls = 1 := by omega
    · exact ⟨List.nil_prefix, by simp, List.Pairwise.nil⟩
    · have hbody : delivered (List.replicate 1 (.request body false)) = body := by
        simp [ReceiveMessage.body]
      exact ⟨by rw [hbody], fun _ => hbody, List.pairwise_singleton _ _⟩

end Pounce.Asgi
