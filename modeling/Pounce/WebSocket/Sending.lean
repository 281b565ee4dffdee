/-
# What a WebSocket application sends

The send callables of the two handlers turn the messages of an application into a handshake
with frames after it, or into a response that rejects it. They keep two flags, and look at
them only for `websocket.send`. What else keeps the order are the libraries: wsproto sends
nothing after a close, and h2 sends one final block of HEADERS and nothing after an end.

The specification is an automaton over what gets on the wire, and says of a message that has
no place in a phase that it raises and writes nothing. On HTTP/1.1, where no library stands in
between, both hold for exactly those applications that keep the order themselves
(`h1_refuses_iff`); on HTTP/2 the library leaves less to them (`h2_lawful`).
-/

import Pounce.Asgi.Messages
import Pounce.H2.Rules
import Pounce.WebSocket

namespace Pounce.WebSocket

open Pounce.Math Pounce.Math.Bytes

/-! ## Messages and the wire -/

/-- The messages of an application. A status that is no number is none. -/
inductive SendMessage where
  | accept (subprotocol : Option (List Char))
  | send (payload : Payload)
  | close (code : ℕ) (reason : String)
  /-- `websocket.http.response.start`. -/
  | responseStart (status : Option ℕ) (headers : List Header)
  /-- `websocket.http.response.body`. -/
  | responseBody (body : Bytes) (moreBody : Bool)
  deriving DecidableEq, Repr

/-- What gets on the wire. -/
inductive WireItem where
  | acceptance (subprotocol : Option (List Char))
  /-- The whole response to an application that closes without having accepted. -/
  | rejection
  | rejectionHead (status : ℕ) (headers : List Header)
  | rejectionBody (data : Bytes)
  /-- No more body follows. HTTP/1.1 has no byte for it. -/
  | bodyEnd
  | frame (data : Bytes)
  | closeFrame (data : Bytes)
  /-- What follows a blank line inside the head of an acceptance. -/
  | smuggled
  deriving DecidableEq, Repr

/-- How far a session has come, by what is on the wire. -/
inductive Phase where
  | undecided
  | accepted
  /-- A close has followed the acceptance. -/
  | closed
  | rejecting
  | rejected
  deriving DecidableEq, Repr

/-- One outcome of the handshake, frames up to a close or a body up to its end. -/
def Phase.next : Phase → WireItem → Option Phase
  | .undecided, .acceptance _ => some .accepted
  | .undecided, .rejection => some .rejected
  | .undecided, .rejectionHead _ _ => some .rejecting
  | .accepted, .frame _ => some .accepted
  | .accepted, .closeFrame _ => some .closed
  | .rejecting, .rejectionBody _ => some .rejecting
  | .rejecting, .bodyEnd => some .rejected
  | phase, .bodyEnd => some phase
  | _, _ => none

/-- The phase a wire has come to, if it is in order. -/
def phaseOf (wire : List WireItem) : Option Phase := wire.foldlM Phase.next .undecided

/-- The wire is in order. -/
def Lawful (wire : List WireItem) : Prop := (phaseOf wire).isSome

instance (wire : List WireItem) : Decidable (Lawful wire) :=
  inferInstanceAs (Decidable (_ = true))

/-- The message has no place in the phase: what it stands for would be out of order. -/
def SendMessage.Misplaced (phase : Phase) : SendMessage → Prop
  | .accept _ => phase ≠ .undecided
  | .send _ => phase ≠ .accepted
  | .close _ _ => phase ≠ .undecided ∧ phase ≠ .accepted
  | .responseStart _ _ => phase ≠ .undecided
  | .responseBody body _ => body ≠ [] ∧ phase ≠ .rejecting

/-! ## The callables -/

/-- The part of wsproto that sends. It raises where a frame may not be sent. -/
structure Framing (Ws : Type) where
  sendMessage : Ws → Payload → Option (Ws × Bytes)
  close : Ws → (code : ℕ) → (reason : String) → Option (Ws × Bytes)

/-- A connection that has sent a close sends nothing more. -/
structure Framing.Obeys {Ws : Type} (framing : Framing Ws) (closed : Ws → Bool) : Prop where
  sendMessage : ∀ ws payload next data, framing.sendMessage ws payload = some (next, data) →
    closed ws = false
  close : ∀ ws code reason next data, framing.close ws code reason = some (next, data) →
    closed ws = false ∧ closed next = true

/-- The state of a send callable, and what it has written. -/
structure Sender (Lib : Type) where
  lib : Lib
  accepted : Bool := false
  closed : Bool := false
  wire : List WireItem := []

/-- `str.encode("ascii")` goes through. -/
def encodable (subprotocol : Option (List Char)) : Bool :=
  subprotocol.all fun chars => chars.all fun char => char.toNat < 128

/-- The line of the subprotocol holds a blank line, also for a client that takes a line feed
alone for the end of a line. `build_101_response` writes the subprotocol as it is. -/
def breaksHead (subprotocol : Option (List Char)) : Bool :=
  subprotocol.any fun chars =>
    (findSlice ['\n', '\n'] (chars ++ ['\r', '\n'])).isSome ||
      (findSlice ['\n', '\r', '\n'] (chars ++ ['\r', '\n'])).isSome

namespace Sender

variable {Lib : Type} (sender : Sender Lib)

/-- Put something on the wire. -/
def write (items : List WireItem) : Sender Lib := { sender with wire := sender.wire ++ items }

/-- The phase of the session. -/
def phase : Option Phase := phaseOf sender.wire

end Sender

variable {Ws : Type} (framing : Framing Ws)

/-- `create_ws_send.send`, and whether it raises. -/
def h1Send (sender : Sender Ws) : SendMessage → Sender Ws × Bool
  | .accept subprotocol =>
      let sender := { sender with accepted := true }
      if encodable subprotocol then
        (sender.write (.acceptance subprotocol ::
          if breaksHead subprotocol then [.smuggled] else []), false)
      else (sender, true)
  | .send payload =>
      if !sender.accepted || sender.closed then (sender, true)
      else
        match framing.sendMessage sender.lib payload with
        | none => (sender, true)
        | some (lib, data) => ({ sender with lib }.write [.frame data], false)
  | .close code reason =>
      let sender := { sender with closed := true }
      if !sender.accepted then (sender.write [.rejection], false)
      else
        match framing.close sender.lib code reason with
        | none => (sender, true)
        | some (lib, data) => ({ sender with lib }.write [.closeFrame data], false)
  | .responseStart status headers =>
      let sender := { sender with closed := true }
      (sender.write [.rejectionHead (status.getD 403) (Asgi.sanitizeHeaders headers)], false)
  | .responseBody body moreBody =>
      (sender.write ((if body = [] then [] else [.rejectionBody body]) ++
        if moreBody then [] else [.bodyEnd]), false)

section H2

variable {Conn : Type} (codec : H2.Codec Conn) (streamId : ℕ)

/-- `H2Connection.send_response_headers`, and what is on the wire if it is taken. -/
def sendResponseHeaders (sender : Sender (Ws × Conn)) (status : ℕ) (headers : List Header)
    (endStream : Bool) (items : List WireItem) : Sender (Ws × Conn) × Bool :=
  let (conn, taken) := codec.sendHeaders sender.lib.2 streamId status headers endStream
  let sender := { sender with lib := (sender.lib.1, conn) }
  if taken then (sender.write items, false) else (sender, true)

/-- `H2Connection.send_data`, likewise. -/
def sendResponseData (sender : Sender (Ws × Conn)) (data : Bytes) (endStream : Bool)
    (items : List WireItem) : Sender (Ws × Conn) × Bool :=
  let (conn, taken) := codec.sendData sender.lib.2 streamId data endStream
  let sender := { sender with lib := (sender.lib.1, conn) }
  if taken then (sender.write items, false) else (sender, true)

/-- `handle_h2_websocket_stream._ws_send`, and whether it raises. The headers of an
acceptance are those that were negotiated. -/
def h2Send (negotiated : Option (List Char) → List Header) (sender : Sender (Ws × Conn)) :
    SendMessage → Sender (Ws × Conn) × Bool
  | .accept subprotocol =>
      let sender := { sender with accepted := true }
      if encodable subprotocol then
        sendResponseHeaders codec streamId sender 200 (negotiated subprotocol) false
          [.acceptance subprotocol]
      else (sender, true)
  | .send payload =>
      if !sender.accepted || sender.closed then (sender, true)
      else
        match framing.sendMessage sender.lib.1 payload with
        | none => (sender, true)
        | some (ws, data) =>
            sendResponseData codec streamId { sender with lib := (ws, sender.lib.2) } data false
              [.frame data]
  | .close code reason =>
      let sender := { sender with closed := true }
      if !sender.accepted then
        sendResponseHeaders codec streamId sender 403 [] true [.rejection]
      else
        match framing.close sender.lib.1 code reason with
        | none => (sender, true)
        | some (ws, data) =>
            sendResponseData codec streamId { sender with lib := (ws, sender.lib.2) } data true
              [.closeFrame data]
  | .responseStart status headers =>
      let sender := { sender with closed := true }
      sendResponseHeaders codec streamId sender (status.getD 403) (Asgi.sanitizeHeaders headers)
        false [.rejectionHead (status.getD 403) (Asgi.sanitizeHeaders headers)]
  | .responseBody body moreBody =>
      sendResponseData codec streamId sender body (!moreBody)
        (.rejectionBody body :: if moreBody then [] else [.bodyEnd])

end H2

/-- What happens to a send callable and its library. -/
inductive SendAction (Lib : Type) where
  | send (message : SendMessage)
  /-- Other parts of the server have used the library. -/
  | elsewhere (lib : Lib)

/-- An HTTP/1.1 session. The reader of frames never opens a connection that was closed. -/
def h1Machine (closed : Ws → Bool) (ws : Ws) : Machine (Sender Ws) (SendAction Ws) where
  init sender := sender = { lib := ws }
  step sender
    | .send message => some (h1Send framing sender message).1
    | .elsewhere lib =>
        if closed sender.lib = true → closed lib = true then some { sender with lib } else none

/-- An HTTP/2 session. Whatever else happens on the connection leaves the half of the stream
where it is, or ends it. -/
def h2Machine {Conn : Type} (codec : H2.Codec Conn) (view : H2.View Conn) (streamId : ℕ)
    (negotiated : Option (List Char) → List Header) (closed : Ws → Bool) (lib : Ws × Conn) :
    Machine (Sender (Ws × Conn)) (SendAction (Ws × Conn)) where
  init sender := sender = { lib }
  step sender
    | .send message => some (h2Send framing codec streamId negotiated sender message).1
    | .elsewhere lib =>
        if (closed sender.lib.1 = true → closed lib.1 = true) ∧
            (view.half lib.2 streamId = view.half sender.lib.2 streamId ∨
              view.half lib.2 streamId = .ended) then some { sender with lib }
        else none

/-! ## Keeping the order -/

/-- What an application has to observe itself on HTTP/1.1: it accepts or starts a rejection
first or not at all, with a subprotocol that stays on its line, and rejects only what it has
not accepted, with a body that it has started. After an acceptance that failed it sends no
frame. -/
def KeepsOrder (sender : Sender Ws) : SendAction Ws → Prop
  | .elsewhere _ => True
  | .send (.accept subprotocol) =>
      encodable subprotocol = true →
        sender.phase = some .undecided ∧ breaksHead subprotocol = false
  | .send (.send payload) =>
      sender.phase = some .undecided → sender.accepted = true → sender.closed = false →
        framing.sendMessage sender.lib payload = none
  | .send (.close code reason) =>
      sender.phase ≠ some .accepted → sender.phase ≠ some .closed →
        if sender.accepted then framing.close sender.lib code reason = none
        else sender.phase = some .undecided
  | .send (.responseStart _ _) => sender.phase = some .undecided
  | .send (.responseBody body _) => body ≠ [] → sender.phase = some .rejecting

/-- What remains of that on HTTP/2, as long as the stream is not ended: a rejection has a final
status and precedes its body, and an acceptance that failed is not followed by frames. -/
def KeepsHalf {Conn : Type} (view : H2.View Conn) (streamId : ℕ) (sender : Sender (Ws × Conn)) :
    SendAction (Ws × Conn) → Prop
  | .elsewhere _ => True
  | .send message => view.half sender.lib.2 streamId ≠ .ended →
      match message with
      | .accept _ => True
      | .send payload =>
          sender.phase = some .undecided → sender.accepted = true → sender.closed = false →
            framing.sendMessage sender.lib.1 payload = none
      | .close code reason =>
          sender.accepted = true → sender.phase ≠ some .accepted →
            framing.close sender.lib.1 code reason = none
      | .responseStart status _ => isInformational (status.getD 403) = false
      | .responseBody _ _ => sender.phase = some .rejecting

/-- A message that has no place in the phase of the session raises and writes nothing. -/
def Refuses {Lib : Type} (send : Sender Lib → SendMessage → Sender Lib × Bool)
    (sender : Sender Lib) : SendAction Lib → Prop
  | .elsewhere _ => True
  | .send message => ∀ phase, sender.phase = some phase → message.Misplaced phase →
      (send sender message).2 = true ∧ (send sender message).1.wire = sender.wire

theorem phaseOf_append (wire items : List WireItem) :
    phaseOf (wire ++ items) = (phaseOf wire).bind (items.foldlM Phase.next) := by
  rw [phaseOf, List.foldlM_append]
  rfl

namespace Sender

variable {Lib : Type} {phase : Phase}

/-- What is written moves the phase on. -/
theorem phase_write (sender : Sender Lib) (hphase : sender.phase = some phase) (items : List WireItem) :
    (sender.write items).phase = items.foldlM Phase.next phase := by
  rw [Sender.phase, write, phaseOf_append, ← Sender.phase, hphase]
  rfl

end Sender

/-! ## HTTP/1.1 -/

/-- What the flags and the library say about the phase. -/
structure Knows (shut : Ws → Bool) (sender : Sender Ws) (phase : Phase) : Prop where
  accepted : phase = .accepted ∨ phase = .closed → sender.accepted = true
  closed : phase = .closed ∨ phase = .rejecting ∨ phase = .rejected → sender.closed = true
  shuts : phase = .closed → shut sender.lib = true

variable {framing} {shut : Ws → Bool} {sender : Sender Ws} {phase : Phase}

/-- A message leads on in order, or it puts the wire out of order. -/
def Leads (shut : Ws → Bool) (next : Sender Ws) (keeps : Prop) : Prop :=
  (keeps → ∃ phase, next.phase = some phase ∧ Knows shut next phase) ∧
    (¬ keeps → next.phase = none)

theorem leads_accept (hphase : sender.phase = some phase) (hknows : Knows shut sender phase)
    (subprotocol : Option (List Char)) :
    Leads shut (h1Send framing sender (.accept subprotocol)).1
      (KeepsOrder framing sender (.send (.accept subprotocol))) := by
  rw [KeepsOrder, h1Send, hphase]
  have hflag : Knows shut { sender with accepted := true } phase :=
    ⟨fun _ => rfl, hknows.closed, hknows.shuts⟩
  split
  case isFalse hnot =>
    exact ⟨fun _ => ⟨phase, hphase, hflag⟩, fun hkeeps => absurd (fun hen => absurd hen hnot) hkeeps⟩
  case isTrue hencodable =>
    have hwrite := Sender.phase_write { sender with accepted := true } hphase
      (.acceptance subprotocol :: if breaksHead subprotocol then [.smuggled] else [])
    refine ⟨fun hkeeps => ⟨.accepted, ?_, fun _ => rfl, fun hnot => ?_, fun hnot => ?_⟩,
      fun hkeeps => ?_⟩
    · obtain ⟨hundecided, hwhole⟩ := hkeeps hencodable
      obtain rfl := Option.some.inj hundecided
      rw [hwhole] at hwrite ⊢
      exact hwrite
    · simp at hnot
    · cases hnot
    · apply hwrite.trans
      cases hbreaks : breaksHead subprotocol with
      | true => cases phase <;> rfl
      | false =>
          cases phase with
          | undecided => exact absurd (fun _ => ⟨rfl, hbreaks⟩) hkeeps
          | accepted | closed | rejecting | rejected => rfl

theorem leads_send (hphase : sender.phase = some phase)
    (hknows : Knows shut sender phase) (payload : Payload) :
    Leads shut (h1Send framing sender (.send payload)).1
      (KeepsOrder framing sender (.send (.send payload))) := by
  rw [KeepsOrder, h1Send, hphase]
  split
  case isTrue hrefused =>
    refine ⟨fun _ => ⟨phase, hphase, hknows⟩, fun hkeeps => absurd ?_ hkeeps⟩
    intro _ haccepted hclosed
    simp [haccepted, hclosed] at hrefused
  case isFalse hgoes =>
    obtain ⟨haccepted, hclosed⟩ : sender.accepted = true ∧ sender.closed = false := by
      simpa using hgoes
    split
    case h_1 hnone =>
      exact ⟨fun _ => ⟨phase, hphase, hknows⟩, fun hkeeps => absurd (fun _ _ _ => hnone) hkeeps⟩
    case h_2 lib data hsome =>
      have hwrite := Sender.phase_write { sender with lib } hphase [.frame data]
      have hopen : ∀ {other : Phase}, (other = .closed ∨ other = .rejecting ∨ other = .rejected) →
          phase ≠ other := by
        rintro other hother rfl
        rw [hknows.closed hother] at hclosed
        cases hclosed
      refine ⟨fun hkeeps => ⟨.accepted, hwrite.trans ?_, fun _ => haccepted, fun hnot => ?_,
        fun hnot => ?_⟩, fun hkeeps => hwrite.trans ?_⟩
      · cases phase with
        | accepted => rfl
        | undecided =>
            have hnot := hkeeps rfl haccepted hclosed
            rw [hsome] at hnot
            cases hnot
        | closed | rejecting | rejected => exact absurd rfl (hopen (by simp))
      · simp at hnot
      · cases hnot
      · cases phase with
        | undecided => rfl
        | accepted => exact absurd (fun hnot => by cases hnot) hkeeps
        | closed | rejecting | rejected => exact absurd rfl (hopen (by simp))

theorem leads_close (hobeys : framing.Obeys shut) (hphase : sender.phase = some phase)
    (hknows : Knows shut sender phase) (code : ℕ) (reason : String) :
    Leads shut (h1Send framing sender (.close code reason)).1
      (KeepsOrder framing sender (.send (.close code reason))) := by
  rw [KeepsOrder, h1Send, hphase]
  have hclosed : Knows shut { sender with closed := true } phase :=
    ⟨hknows.accepted, fun _ => rfl, hknows.shuts⟩
  dsimp only
  split
  case isTrue hnot =>
    have hunaccepted : sender.accepted = false := by simpa using hnot
    have hwrite := Sender.phase_write { sender with closed := true } hphase [.rejection]
    have hneither : phase ≠ .accepted ∧ phase ≠ .closed := by
      constructor
      · rintro rfl
        exact absurd (hknows.accepted (.inl rfl)) (by simp [hunaccepted])
      · rintro rfl
        exact absurd (hknows.accepted (.inr rfl)) (by simp [hunaccepted])
    rw [if_neg (by simp [hunaccepted])]
    refine ⟨fun hkeeps => ⟨.rejected, hwrite.trans ?_, fun hnot => ?_, fun _ => rfl, fun hnot => ?_⟩,
      fun hkeeps => hwrite.trans ?_⟩
    · obtain rfl := Option.some.inj (hkeeps (by simpa using hneither.1) (by simpa using hneither.2))
      rfl
    · simp at hnot
    · cases hnot
    · cases phase with
      | undecided => exact absurd (fun _ _ => rfl) hkeeps
      | accepted | closed | rejecting | rejected => rfl
  case isFalse hgoes =>
    have haccepted : sender.accepted = true := by simpa using hgoes
    rw [if_pos haccepted]
    split
    case h_1 hnone =>
      exact ⟨fun _ => ⟨phase, hphase, hclosed⟩, fun hkeeps => absurd (fun _ _ => hnone) hkeeps⟩
    case h_2 lib data hsome =>
      have hwrite := Sender.phase_write { sender with closed := true, lib } hphase [.closeFrame data]
      obtain ⟨hopen, hshut⟩ := hobeys.close _ _ _ _ _ hsome
      have hne : phase ≠ .closed := by
        rintro rfl
        rw [hknows.shuts rfl] at hopen
        cases hopen
      refine ⟨fun hkeeps => ⟨.closed, hwrite.trans ?_, fun _ => haccepted, fun _ => rfl,
        fun _ => hshut⟩, fun hkeeps => hwrite.trans ?_⟩
      · by_cases hcase : phase = .accepted
        case pos =>
          subst hcase
          rfl
        case neg =>
          have hnot := hkeeps (by simpa using hcase) (by simpa using hne)
          rw [hsome] at hnot
          cases hnot
      · cases phase with
        | accepted => exact absurd (fun hnot => absurd rfl hnot) hkeeps
        | closed => exact absurd rfl hne
        | undecided | rejecting | rejected => rfl

theorem leads_responseStart (hphase : sender.phase = some phase) (status : Option ℕ)
    (headers : List Header) :
    Leads shut (h1Send framing sender (.responseStart status headers)).1
      (KeepsOrder framing sender (.send (.responseStart status headers))) := by
  rw [KeepsOrder, h1Send, hphase]
  have hwrite := Sender.phase_write { sender with closed := true } hphase
    [.rejectionHead (status.getD 403) (Asgi.sanitizeHeaders headers)]
  refine ⟨fun hkeeps => ⟨.rejecting, hwrite.trans ?_, fun hnot => ?_, fun _ => rfl, fun hnot => ?_⟩,
    fun hkeeps => hwrite.trans ?_⟩
  · obtain rfl := Option.some.inj hkeeps
    rfl
  · simp at hnot
  · cases hnot
  · cases phase with
    | undecided => exact absurd rfl hkeeps
    | accepted | closed | rejecting | rejected => rfl

theorem leads_responseBody (hphase : sender.phase = some phase) (hknows : Knows shut sender phase)
    (body : Bytes) (moreBody : Bool) :
    Leads shut (h1Send framing sender (.responseBody body moreBody)).1
      (KeepsOrder framing sender (.send (.responseBody body moreBody))) := by
  rw [KeepsOrder, h1Send, hphase]
  have hwrite := Sender.phase_write sender hphase
    ((if body = [] then [] else [.rejectionBody body]) ++ if moreBody then [] else [.bodyEnd])
  by_cases hrejecting : phase = .rejecting
  case pos =>
    subst hrejecting
    refine ⟨fun _ => ?_, fun hkeeps => absurd (fun _ => rfl) hkeeps⟩
    have hclosed := hknows.closed (.inr (.inl rfl))
    cases moreBody with
    | true =>
        refine ⟨.rejecting, hwrite.trans ?_, hknows.accepted, fun _ => hclosed, hknows.shuts⟩
        split <;> rfl
    | false =>
        refine ⟨.rejected, hwrite.trans ?_, fun hnot => ?_, fun _ => hclosed, fun hnot => ?_⟩
        · split <;> rfl
        · simp at hnot
        · cases hnot
  case neg =>
    have hends : (if moreBody then [] else [.bodyEnd]).foldlM Phase.next phase = some phase := by
      cases moreBody with
      | true => rfl
      | false => cases phase <;> first | rfl | exact absurd rfl hrejecting
    by_cases hempty : body = []
    case pos =>
      refine ⟨fun _ => ⟨phase, hwrite.trans ?_, hknows.accepted, hknows.closed, hknows.shuts⟩,
        fun hkeeps => absurd (absurd hempty) hkeeps⟩
      rw [if_pos hempty]
      exact hends
    case neg =>
      refine ⟨fun hkeeps => absurd (Option.some.inj (hkeeps hempty)) hrejecting,
        fun _ => hwrite.trans ?_⟩
      rw [if_neg hempty]
      cases phase <;> first | rfl | exact absurd rfl hrejecting

/-- Every message leads on in order exactly if it keeps the order. -/
theorem leads_h1Send (hobeys : framing.Obeys shut) (hphase : sender.phase = some phase)
    (hknows : Knows shut sender phase) (message : SendMessage) :
    Leads shut (h1Send framing sender message).1 (KeepsOrder framing sender (.send message)) := by
  cases message with
  | accept subprotocol => exact leads_accept hphase hknows subprotocol
  | send payload => exact leads_send hphase hknows payload
  | close code reason => exact leads_close hobeys hphase hknows code reason
  | responseStart status headers => exact leads_responseStart hphase status headers
  | responseBody body moreBody => exact leads_responseBody hphase hknows body moreBody

theorem refuses_send (hphase : sender.phase = some phase) (hknows : Knows shut sender phase)
    {payload : Payload} (hkeeps : KeepsOrder framing sender (.send (.send payload)))
    (hmisplaced : phase ≠ .accepted) :
    (h1Send framing sender (.send payload)).2 = true ∧
      (h1Send framing sender (.send payload)).1.wire = sender.wire := by
  rw [h1Send]
  split
  case isTrue => exact ⟨rfl, rfl⟩
  case isFalse hgoes =>
    obtain ⟨haccepted, hclosed⟩ : sender.accepted = true ∧ sender.closed = false := by
      simpa using hgoes
    have hundecided : phase = .undecided := by
      cases phase with
      | undecided => rfl
      | accepted => exact absurd rfl hmisplaced
      | closed | rejecting | rejected =>
          rw [hknows.closed (by simp)] at hclosed
          cases hclosed
    subst hundecided
    rw [hkeeps hphase haccepted hclosed]
    exact ⟨rfl, rfl⟩

theorem refuses_close (hobeys : framing.Obeys shut) (hphase : sender.phase = some phase)
    (hknows : Knows shut sender phase) {code : ℕ} {reason : String}
    (hkeeps : KeepsOrder framing sender (.send (.close code reason)))
    (hmisplaced : phase ≠ .undecided ∧ phase ≠ .accepted) :
    (h1Send framing sender (.close code reason)).2 = true ∧
      (h1Send framing sender (.close code reason)).1.wire = sender.wire := by
  obtain ⟨hundecided, hnotAccepted⟩ := hmisplaced
  obtain ⟨haccepted, hnone⟩ : sender.accepted = true ∧
      framing.close sender.lib code reason = none := by
    by_cases hclosed : phase = .closed
    case pos =>
      subst hclosed
      refine ⟨hknows.accepted (.inr rfl), ?_⟩
      cases hframed : framing.close sender.lib code reason with
      | none => rfl
      | some framed =>
          have hopen := (hobeys.close _ _ _ _ _ hframed).1
          rw [hknows.shuts rfl] at hopen
          cases hopen
    case neg =>
      have hrest := hkeeps (by rw [hphase]; simpa using hnotAccepted)
        (by rw [hphase]; simpa using hclosed)
      split at hrest
      case isTrue haccepted => exact ⟨haccepted, hrest⟩
      case isFalse => exact absurd (Option.some.inj (hphase.symm.trans hrest)) hundecided
  rw [h1Send, haccepted, hnone]
  exact ⟨rfl, rfl⟩

/-- Where the order is kept, a message out of place is refused by a flag or by wsproto. -/
theorem refuses_h1Send (hobeys : framing.Obeys shut) (hphase : sender.phase = some phase)
    (hknows : Knows shut sender phase) {action : SendAction Ws}
    (hkeeps : KeepsOrder framing sender action) : Refuses (h1Send framing) sender action := by
  cases action with
  | elsewhere => trivial
  | send message =>
      intro other hother hmisplaced
      obtain rfl := Option.some.inj (hphase.symm.trans hother)
      cases message with
      | accept subprotocol =>
          rw [h1Send]
          split
          case isTrue hencodable =>
            exact absurd (Option.some.inj (hphase.symm.trans (hkeeps hencodable).1)) hmisplaced
          case isFalse => exact ⟨rfl, rfl⟩
      | send payload => exact refuses_send hphase hknows hkeeps hmisplaced
      | close code reason => exact refuses_close hobeys hphase hknows hkeeps hmisplaced
      | responseStart status headers =>
          exact absurd (Option.some.inj (hphase.symm.trans hkeeps)) hmisplaced
      | responseBody body moreBody =>
          exact absurd (Option.some.inj (hphase.symm.trans (hkeeps hmisplaced.1))) hmisplaced.2

variable (framing) in
/-- A message only adds to the wire. -/
theorem h1Send_grows (sender : Sender Ws) (message : SendMessage) :
    ∃ items, (h1Send framing sender message).1.wire = sender.wire ++ items := by
  have hsame : ∃ items, sender.wire = sender.wire ++ items := ⟨[], (List.append_nil _).symm⟩
  cases message with
  | accept | send | close =>
      rw [h1Send]
      repeat' split
      all_goals first | exact hsame | exact ⟨_, rfl⟩
  | responseStart | responseBody => exact ⟨_, rfl⟩

/-- What is out of order stays so. -/
theorem h1_disorder {ws : Ws} {actions : List (SendAction Ws)} {final : Sender Ws}
    (hphase : sender.phase = none) (hrun : (h1Machine framing shut ws).run sender actions = some final) :
    final.phase = none := by
  induction actions generalizing sender with
  | nil =>
      obtain rfl := Option.some.inj hrun
      exact hphase
  | cons action actions ih =>
      rw [Machine.run_cons, Option.bind_eq_some_iff] at hrun
      obtain ⟨next, hstep, hrest⟩ := hrun
      refine ih ?_ hrest
      cases action with
      | send message =>
          obtain rfl := Option.some.inj hstep
          obtain ⟨items, hwire⟩ := h1Send_grows framing sender message
          rw [Sender.phase, hwire, phaseOf_append, ← Sender.phase, hphase]
          rfl
      | elsewhere lib =>
          obtain ⟨-, rfl⟩ := Machine.of_guard hstep
          exact hphase

/-- From a state in order, a run stays in order and refuses what is out of place exactly if all
its messages keep the order. -/
theorem h1_run_iff (hobeys : framing.Obeys shut) {ws : Ws} {actions : List (SendAction Ws)}
    {final : Sender Ws} (hphase : sender.phase = some phase) (hknows : Knows shut sender phase)
    (hrun : (h1Machine framing shut ws).run sender actions = some final) :
    Lawful final.wire ∧
        (h1Machine framing shut ws).Along (Refuses (h1Send framing)) sender actions ↔
      (h1Machine framing shut ws).Along (KeepsOrder framing) sender actions := by
  induction actions generalizing sender phase with
  | nil =>
      obtain rfl := Option.some.inj hrun
      exact ⟨fun _ => trivial, fun _ => ⟨Option.isSome_iff_exists.mpr ⟨phase, hphase⟩, trivial⟩⟩
  | cons action actions ih =>
      rw [Machine.run_cons, Option.bind_eq_some_iff] at hrun
      obtain ⟨next, hstep, hrest⟩ := hrun
      have hrests : ∀ {phase}, next.phase = some phase → Knows shut next phase →
          KeepsOrder framing sender action →
          (Lawful final.wire ∧
              (h1Machine framing shut ws).Along (Refuses (h1Send framing)) sender
                (action :: actions) ↔
            (h1Machine framing shut ws).Along (KeepsOrder framing) sender (action :: actions)) := by
        intro after hnext hafter hkeeps
        constructor
        · rintro ⟨hlawful, hrefuses⟩
          exact .cons hkeeps hstep
            ((ih hnext hafter hrest).mp ⟨hlawful, hrefuses.2 next hstep⟩)
        · intro halong
          obtain ⟨hlawful, hrefuses⟩ := (ih hnext hafter hrest).mpr (halong.2 next hstep)
          exact ⟨hlawful, .cons (refuses_h1Send hobeys hphase hknows hkeeps) hstep hrefuses⟩
      cases action with
      | send message =>
          obtain rfl := Option.some.inj hstep
          obtain ⟨hleads, hbreaks⟩ := leads_h1Send hobeys hphase hknows message
          by_cases hkeeps : KeepsOrder framing sender (.send message)
          case pos =>
            obtain ⟨after, hafter, hknown⟩ := hleads hkeeps
            exact hrests hafter hknown hkeeps
          case neg =>
            have hnone := h1_disorder (hbreaks hkeeps) hrest
            refine ⟨fun ⟨hlawful, _⟩ => ?_, fun halong => absurd halong.1 hkeeps⟩
            rw [Lawful, ← Sender.phase, hnone] at hlawful
            cases hlawful
      | elsewhere lib =>
          obtain ⟨hshut, rfl⟩ := Machine.of_guard hstep
          have hknown : Knows shut { sender with lib } phase :=
            ⟨hknows.accepted, hknows.closed, fun hclosed => hshut (hknows.shuts hclosed)⟩
          exact hrests hphase hknown trivial

/-- On HTTP/1.1 the wire is in order, and what is out of place refused, exactly if the
application keeps the order. -/
theorem h1_refuses_iff (hobeys : framing.Obeys shut) (ws : Ws) {actions : List (SendAction Ws)}
    {final : Sender Ws} (hrun : (h1Machine framing shut ws).run { lib := ws } actions = some final) :
    Lawful final.wire ∧
        (h1Machine framing shut ws).Along (Refuses (h1Send framing)) { lib := ws } actions ↔
      (h1Machine framing shut ws).Along (KeepsOrder framing) { lib := ws } actions := by
  refine h1_run_iff hobeys rfl ⟨fun hnot => ?_, fun hnot => ?_, fun hnot => ?_⟩ hrun
  all_goals simp at hnot

/-! ## HTTP/2 -/

section H2

variable {Conn : Type} {codec : H2.Codec Conn} {view : H2.View Conn} {streamId : ℕ}
  {negotiated : Option (List Char) → List Header} {session : Sender (Ws × Conn)}

/-- What the flags and the half of the stream say about the phase. -/
structure KnowsHalf (view : H2.View Conn) (streamId : ℕ) (session : Sender (Ws × Conn))
    (phase : Phase) : Prop where
  decided : view.half session.lib.2 streamId = .fresh → phase = .undecided
  finished : phase = .closed ∨ phase = .rejected → view.half session.lib.2 streamId = .ended
  accepted : phase = .accepted → session.accepted = true
  closed : phase = .rejecting → session.closed = true

/-- A session in order, in some phase. -/
def InOrder (view : H2.View Conn) (streamId : ℕ) (session : Sender (Ws × Conn)) : Prop :=
  ∃ phase, session.phase = some phase ∧ KnowsHalf view streamId session phase

/-- A half may stay or end. -/
theorem KnowsHalf.moved (hknows : KnowsHalf view streamId session phase) {lib : Ws × Conn}
    (hhalf : view.half lib.2 streamId = view.half session.lib.2 streamId ∨
      view.half lib.2 streamId = .ended) : KnowsHalf view streamId { session with lib } phase := by
  rcases hhalf with hsame | hended
  · refine ⟨fun hfresh => hknows.decided (hsame.symm.trans hfresh), fun hover => ?_,
      hknows.accepted, hknows.closed⟩
    exact hsame.trans (hknows.finished hover)
  · refine ⟨fun hfresh => ?_, fun _ => hended, hknows.accepted, hknows.closed⟩
    rw [hended] at hfresh
    cases hfresh

/-- What is written says nothing more. -/
theorem KnowsHalf.write (hknows : KnowsHalf view streamId session phase)
    (items : List WireItem) : KnowsHalf view streamId (session.write items) phase :=
  ⟨hknows.decided, hknows.finished, hknows.accepted, hknows.closed⟩

/-- A stream that is ended is ended with the session. -/
theorem knowsHalf_of_ended (hended : view.half session.lib.2 streamId = .ended)
    (hphase : phase = .closed ∨ phase = .rejected) : KnowsHalf view streamId session phase where
  decided hfresh := by
    rw [hended] at hfresh
    cases hfresh
  finished _ := hended
  accepted haccepted := by
    subst haccepted
    simp at hphase
  closed hrejecting := by
    subst hrejecting
    simp at hphase

/-- A stream that is started is accepted or about to be rejected. -/
theorem knowsHalf_of_started (hstarted : view.half session.lib.2 streamId = .started)
    (hphase : phase = .accepted ∧ session.accepted = true ∨
      phase = .rejecting ∧ session.closed = true) : KnowsHalf view streamId session phase := by
  have hnotFresh : view.half session.lib.2 streamId ≠ .fresh := by simp [hstarted]
  rcases hphase with ⟨rfl, haccepted⟩ | ⟨rfl, hclosed⟩
  · exact ⟨fun hfresh => absurd hfresh hnotFresh, fun hnot => by simp at hnot,
      fun _ => haccepted, fun hnot => (by cases hnot)⟩
  · exact ⟨fun hfresh => absurd hfresh hnotFresh, fun hnot => by simp at hnot,
      fun hnot => (by cases hnot), fun _ => hclosed⟩

/-- A refused call leaves the half where it is, or ends it. -/
theorem half_of_refused (hobeys : codec.Obeys view) {conn next : Conn} {half : Half}
    (hsends : view.Sends conn next streamId false half) :
    view.half next streamId = view.half conn streamId ∨ view.half next streamId = .ended :=
  (hsends.refused rfl).imp (fun hsame => hsame.2) fun hreset => hobeys.reset next streamId hreset

variable (session) in
/-- HEADERS are refused, or on the wire. -/
theorem sendResponseHeaders_cases (hobeys : codec.Obeys view) (status : ℕ) (headers : List Header)
    (endStream : Bool) (items : List WireItem) :
    ∃ conn, (sendResponseHeaders codec streamId session status headers endStream items =
          ({ session with lib := (session.lib.1, conn) }, true) ∧
        (view.half conn streamId = view.half session.lib.2 streamId ∨
          view.half conn streamId = .ended)) ∨
      (sendResponseHeaders codec streamId session status headers endStream items =
          ({ session with lib := (session.lib.1, conn) }.write items, false) ∧
        view.half session.lib.2 streamId ≠ .ended ∧
        (isInformational status = false → view.half session.lib.2 streamId = .fresh) ∧
        view.half conn streamId =
          (view.half session.lib.2 streamId).afterHeaders status endStream) := by
  have hsends := hobeys.sendHeaders session.lib.2 streamId status headers endStream
  have hfinal := hobeys.final session.lib.2 streamId status headers endStream
  rw [sendResponseHeaders]
  generalize codec.sendHeaders session.lib.2 streamId status headers endStream = answer at *
  obtain ⟨conn, taken⟩ := answer
  refine ⟨conn, ?_⟩
  cases taken with
  | false => exact .inl ⟨rfl, half_of_refused hobeys hsends⟩
  | true =>
      obtain ⟨-, hopen, hhalf⟩ := hsends.accepted rfl
      exact .inr ⟨rfl, hopen, fun hstatus => hfinal hstatus rfl, hhalf⟩

variable (session) in
/-- DATA is refused, or on the wire. -/
theorem sendResponseData_cases (hobeys : codec.Obeys view) (data : Bytes) (endStream : Bool)
    (items : List WireItem) :
    ∃ conn, (sendResponseData codec streamId session data endStream items =
          ({ session with lib := (session.lib.1, conn) }, true) ∧
        (view.half conn streamId = view.half session.lib.2 streamId ∨
          view.half conn streamId = .ended)) ∨
      (sendResponseData codec streamId session data endStream items =
          ({ session with lib := (session.lib.1, conn) }.write items, false) ∧
        view.half session.lib.2 streamId ≠ .ended ∧
        view.half conn streamId = (view.half session.lib.2 streamId).afterData endStream) := by
  have hsends := hobeys.sendData session.lib.2 streamId data endStream
  rw [sendResponseData]
  generalize codec.sendData session.lib.2 streamId data endStream = answer at *
  obtain ⟨conn, taken⟩ := answer
  refine ⟨conn, ?_⟩
  cases taken with
  | false => exact .inl ⟨rfl, half_of_refused hobeys hsends⟩
  | true => exact .inr ⟨rfl, (hsends.accepted rfl).2.1, (hsends.accepted rfl).2.2⟩

variable (session) in
/-- A final block of HEADERS is refused unless the stream is fresh. -/
theorem sendResponseHeaders_refused (hobeys : codec.Obeys view) {status : ℕ}
    (headers : List Header) (endStream : Bool) (items : List WireItem)
    (hstale : view.half session.lib.2 streamId = .ended ∨ isInformational status = false ∧
      view.half session.lib.2 streamId ≠ .fresh) :
    (sendResponseHeaders codec streamId session status headers endStream items).2 = true ∧
      (sendResponseHeaders codec streamId session status headers endStream items).1.wire =
        session.wire := by
  obtain ⟨conn, ⟨heq, -⟩ | ⟨-, hopen, hfresh, -⟩⟩ :=
    sendResponseHeaders_cases session hobeys status headers endStream items
  · rw [heq]
    exact ⟨rfl, rfl⟩
  · rcases hstale with hended | ⟨hfinal, hstale⟩
    · exact absurd hended hopen
    · exact absurd (hfresh hfinal) hstale

variable (session) in
/-- DATA is refused on a stream that has ended. -/
theorem sendResponseData_refused (hobeys : codec.Obeys view) (data : Bytes) (endStream : Bool)
    (items : List WireItem) (hended : view.half session.lib.2 streamId = .ended) :
    (sendResponseData codec streamId session data endStream items).2 = true ∧
      (sendResponseData codec streamId session data endStream items).1.wire = session.wire := by
  obtain ⟨conn, ⟨heq, -⟩ | ⟨-, hopen, -⟩⟩ :=
    sendResponseData_cases session hobeys data endStream items
  · rw [heq]
    exact ⟨rfl, rfl⟩
  · exact absurd hended hopen

theorem inOrder_accept (hobeys : codec.Obeys view) (hphase : session.phase = some phase)
    (hknows : KnowsHalf view streamId session phase) (subprotocol : Option (List Char)) :
    InOrder view streamId
      (h2Send framing codec streamId negotiated session (.accept subprotocol)).1 := by
  have hflag : KnowsHalf view streamId { session with accepted := true } phase :=
    ⟨hknows.decided, hknows.finished, fun _ => rfl, hknows.closed⟩
  rw [h2Send]
  split
  case isFalse => exact ⟨phase, hphase, hflag⟩
  case isTrue =>
    obtain ⟨conn, ⟨heq, hhalf⟩ | ⟨heq, -, hfresh, hhalf⟩⟩ :=
      sendResponseHeaders_cases { session with accepted := true } hobeys 200
        (negotiated subprotocol) false [.acceptance subprotocol]
    · rw [heq]
      exact ⟨phase, hphase, hflag.moved hhalf⟩
    · rw [heq]
      obtain rfl := hknows.decided (hfresh rfl)
      have hstarted : view.half conn streamId = .started := by
        rw [hhalf, hfresh rfl]
        rfl
      exact ⟨.accepted, Sender.phase_write _ hphase _,
        (knowsHalf_of_started hstarted (.inl ⟨rfl, rfl⟩)).write _⟩

theorem inOrder_send (hobeys : codec.Obeys view) (hphase : session.phase = some phase)
    (hknows : KnowsHalf view streamId session phase) {payload : Payload}
    (hkeeps : KeepsHalf framing view streamId session (.send (.send payload))) :
    InOrder view streamId
      (h2Send framing codec streamId negotiated session (.send payload)).1 := by
  rw [h2Send]
  split
  case isTrue => exact ⟨phase, hphase, hknows⟩
  case isFalse hgoes =>
    obtain ⟨haccepted, hclosed⟩ : session.accepted = true ∧ session.closed = false := by
      simpa using hgoes
    split
    case h_1 => exact ⟨phase, hphase, hknows⟩
    case h_2 ws data hsome =>
      have hmoved : KnowsHalf view streamId { session with lib := (ws, session.lib.2) } phase :=
        hknows.moved (.inl rfl)
      obtain ⟨conn, ⟨heq, hhalf⟩ | ⟨heq, hopen, hhalf⟩⟩ :=
        sendResponseData_cases { session with lib := (ws, session.lib.2) } hobeys data false
          [.frame data]
      · rw [heq]
        exact ⟨phase, hphase, hmoved.moved hhalf⟩
      · rw [heq]
        have hgone : phase = .accepted := by
          cases phase with
          | accepted => rfl
          | undecided =>
              have hnot := hkeeps hopen hphase haccepted hclosed
              rw [hsome] at hnot
              cases hnot
          | rejecting =>
              rw [hknows.closed rfl] at hclosed
              cases hclosed
          | closed => exact absurd (hknows.finished (.inl rfl)) hopen
          | rejected => exact absurd (hknows.finished (.inr rfl)) hopen
        subst hgone
        exact ⟨.accepted, Sender.phase_write _ hphase _, (hmoved.moved (.inl hhalf)).write _⟩

theorem inOrder_close (hobeys : codec.Obeys view) (hphase : session.phase = some phase)
    (hknows : KnowsHalf view streamId session phase) {code : ℕ} {reason : String}
    (hkeeps : KeepsHalf framing view streamId session (.send (.close code reason))) :
    InOrder view streamId
      (h2Send framing codec streamId negotiated session (.close code reason)).1 := by
  have hflag : KnowsHalf view streamId { session with closed := true } phase :=
    ⟨hknows.decided, hknows.finished, hknows.accepted, fun _ => rfl⟩
  rw [h2Send]
  dsimp only
  split
  case isTrue =>
    obtain ⟨conn, ⟨heq, hhalf⟩ | ⟨heq, -, hfresh, hhalf⟩⟩ :=
      sendResponseHeaders_cases { session with closed := true } hobeys 403 [] true [.rejection]
    · rw [heq]
      exact ⟨phase, hphase, hflag.moved hhalf⟩
    · rw [heq]
      obtain rfl := hknows.decided (hfresh rfl)
      exact ⟨.rejected, Sender.phase_write _ hphase _,
        (knowsHalf_of_ended hhalf (.inr rfl)).write _⟩
  case isFalse hgoes =>
    have haccepted : session.accepted = true := by simpa using hgoes
    split
    case h_1 => exact ⟨phase, hphase, hflag⟩
    case h_2 ws data hsome =>
      have hmoved : KnowsHalf view streamId
          { session with closed := true, lib := (ws, session.lib.2) } phase :=
        hflag.moved (.inl rfl)
      obtain ⟨conn, ⟨heq, hhalf⟩ | ⟨heq, hopen, hhalf⟩⟩ :=
        sendResponseData_cases { session with closed := true, lib := (ws, session.lib.2) } hobeys
          data true [.closeFrame data]
      · rw [heq]
        exact ⟨phase, hphase, hmoved.moved hhalf⟩
      · rw [heq]
        have hgone : phase = .accepted := by
          by_contra hne
          have hnot := hkeeps hopen haccepted fun heq =>
            hne (Option.some.inj (hphase.symm.trans heq))
          rw [hsome] at hnot
          cases hnot
        subst hgone
        exact ⟨.closed, Sender.phase_write _ hphase _,
          (knowsHalf_of_ended hhalf (.inl rfl)).write _⟩

theorem inOrder_responseStart (hobeys : codec.Obeys view) (hphase : session.phase = some phase)
    (hknows : KnowsHalf view streamId session phase) {status : Option ℕ} {headers : List Header}
    (hkeeps : KeepsHalf framing view streamId session (.send (.responseStart status headers))) :
    InOrder view streamId
      (h2Send framing codec streamId negotiated session (.responseStart status headers)).1 := by
  have hflag : KnowsHalf view streamId { session with closed := true } phase :=
    ⟨hknows.decided, hknows.finished, hknows.accepted, fun _ => rfl⟩
  rw [h2Send]
  obtain ⟨conn, ⟨heq, hhalf⟩ | ⟨heq, hopen, hfresh, hhalf⟩⟩ :=
    sendResponseHeaders_cases { session with closed := true } hobeys (status.getD 403)
      (Asgi.sanitizeHeaders headers) false
      [.rejectionHead (status.getD 403) (Asgi.sanitizeHeaders headers)]
  · rw [heq]
    exact ⟨phase, hphase, hflag.moved hhalf⟩
  · rw [heq]
    have hstatus : isInformational (status.getD 403) = false := hkeeps hopen
    obtain rfl := hknows.decided (hfresh hstatus)
    have hstarted : view.half conn streamId = .started := by
      rw [hhalf, hfresh hstatus, Half.afterHeaders, hstatus]
      rfl
    exact ⟨.rejecting, Sender.phase_write _ hphase _,
      (knowsHalf_of_started hstarted (.inr ⟨rfl, rfl⟩)).write _⟩

theorem inOrder_responseBody (hobeys : codec.Obeys view) (hphase : session.phase = some phase)
    (hknows : KnowsHalf view streamId session phase) {body : Bytes} {moreBody : Bool}
    (hkeeps : KeepsHalf framing view streamId session (.send (.responseBody body moreBody))) :
    InOrder view streamId
      (h2Send framing codec streamId negotiated session (.responseBody body moreBody)).1 := by
  rw [h2Send]
  obtain ⟨conn, ⟨heq, hhalf⟩ | ⟨heq, hopen, hhalf⟩⟩ :=
    sendResponseData_cases session hobeys body (!moreBody)
      (.rejectionBody body :: if moreBody then [] else [.bodyEnd])
  · rw [heq]
    exact ⟨phase, hphase, hknows.moved hhalf⟩
  · rw [heq]
    have hgone : session.phase = some .rejecting := hkeeps hopen
    obtain rfl := Option.some.inj (hphase.symm.trans hgone)
    cases moreBody with
    | true =>
        exact ⟨.rejecting, Sender.phase_write _ hphase _, (hknows.moved (.inl hhalf)).write _⟩
    | false =>
        exact ⟨.rejected, Sender.phase_write _ hphase _,
          (knowsHalf_of_ended hhalf (.inr rfl)).write _⟩

theorem refuses_half_send (hobeys : codec.Obeys view) (hphase : session.phase = some phase)
    (hknows : KnowsHalf view streamId session phase) {payload : Payload}
    (hkeeps : KeepsHalf framing view streamId session (.send (.send payload)))
    (hmisplaced : phase ≠ .accepted) :
    (h2Send framing codec streamId negotiated session (.send payload)).2 = true ∧
      (h2Send framing codec streamId negotiated session (.send payload)).1.wire =
        session.wire := by
  rw [h2Send]
  split
  case isTrue => exact ⟨rfl, rfl⟩
  case isFalse hgoes =>
    obtain ⟨haccepted, hclosed⟩ : session.accepted = true ∧ session.closed = false := by
      simpa using hgoes
    split
    case h_1 => exact ⟨rfl, rfl⟩
    case h_2 ws data hsome =>
      apply sendResponseData_refused { session with lib := (ws, session.lib.2) } hobeys
      by_contra hopen
      cases phase with
      | undecided =>
          have hnone := hkeeps hopen hphase haccepted hclosed
          rw [hsome] at hnone
          cases hnone
      | accepted => exact hmisplaced rfl
      | closed => exact hopen (hknows.finished (.inl rfl))
      | rejecting =>
          rw [hknows.closed rfl] at hclosed
          cases hclosed
      | rejected => exact hopen (hknows.finished (.inr rfl))

theorem refuses_half_close (hobeys : codec.Obeys view) (hphase : session.phase = some phase)
    (hknows : KnowsHalf view streamId session phase) {code : ℕ} {reason : String}
    (hkeeps : KeepsHalf framing view streamId session (.send (.close code reason)))
    (hmisplaced : phase ≠ .undecided ∧ phase ≠ .accepted) :
    (h2Send framing codec streamId negotiated session (.close code reason)).2 = true ∧
      (h2Send framing codec streamId negotiated session (.close code reason)).1.wire =
        session.wire := by
  rw [h2Send]
  dsimp only
  split
  case isTrue =>
    apply sendResponseHeaders_refused { session with closed := true } hobeys
    exact .inr ⟨rfl, fun hfresh => hmisplaced.1 (hknows.decided hfresh)⟩
  case isFalse hgoes =>
    have haccepted : session.accepted = true := by simpa using hgoes
    split
    case h_1 => exact ⟨rfl, rfl⟩
    case h_2 ws data hsome =>
      apply sendResponseData_refused
        { session with closed := true, lib := (ws, session.lib.2) } hobeys
      by_contra hopen
      have hnone := hkeeps hopen haccepted (by rw [hphase]; simpa using hmisplaced.2)
      rw [hsome] at hnone
      cases hnone

/-- On HTTP/2 a message out of place is refused by a flag, by wsproto or by h2. -/
theorem refuses_h2Send (hobeys : codec.Obeys view) (hphase : session.phase = some phase)
    (hknows : KnowsHalf view streamId session phase) {action : SendAction (Ws × Conn)}
    (hkeeps : KeepsHalf framing view streamId session action) :
    Refuses (h2Send framing codec streamId negotiated) session action := by
  cases action with
  | elsewhere => trivial
  | send message =>
      intro other hother hmisplaced
      obtain rfl := Option.some.inj (hphase.symm.trans hother)
      cases message with
      | accept subprotocol =>
          rw [h2Send]
          split
          case isTrue =>
            apply sendResponseHeaders_refused { session with accepted := true } hobeys
            exact .inr ⟨rfl, fun hfresh => hmisplaced (hknows.decided hfresh)⟩
          case isFalse => exact ⟨rfl, rfl⟩
      | send payload => exact refuses_half_send hobeys hphase hknows hkeeps hmisplaced
      | close code reason => exact refuses_half_close hobeys hphase hknows hkeeps hmisplaced
      | responseStart status headers =>
          rw [h2Send]
          apply sendResponseHeaders_refused { session with closed := true } hobeys
          by_cases hended : view.half session.lib.2 streamId = .ended
          case pos => exact .inl hended
          case neg =>
            exact .inr ⟨hkeeps hended, fun hfresh => hmisplaced (hknows.decided hfresh)⟩
      | responseBody body moreBody =>
          rw [h2Send]
          apply sendResponseData_refused session hobeys
          by_contra hopen
          exact hmisplaced.2 (Option.some.inj (hphase.symm.trans (hkeeps hopen)))

/-- On HTTP/2 the wire is in order in every run that keeps the halves apart, and what is out of
place is refused. -/
theorem h2_lawful (hobeys : codec.Obeys view) {lib : Ws × Conn}
    (hreach : (h2Machine framing codec view streamId negotiated shut lib).Reach
      (KeepsHalf framing view streamId) session) :
    Lawful session.wire ∧ ∀ action, KeepsHalf framing view streamId session action →
      Refuses (h2Send framing codec streamId negotiated) session action := by
  have horder : InOrder view streamId session := by
    apply hreach.invariant
    · rintro session rfl
      refine ⟨.undecided, rfl, fun _ => rfl, fun hnot => ?_, fun hnot => (by cases hnot),
        fun hnot => (by cases hnot)⟩
      simp at hnot
    · rintro session action next ⟨phase, hphase, hknows⟩ hkeeps hstep
      cases action with
      | send message =>
          obtain rfl := Option.some.inj hstep
          cases message with
          | accept subprotocol => exact inOrder_accept hobeys hphase hknows subprotocol
          | send payload => exact inOrder_send hobeys hphase hknows hkeeps
          | close code reason => exact inOrder_close hobeys hphase hknows hkeeps
          | responseStart status headers => exact inOrder_responseStart hobeys hphase hknows hkeeps
          | responseBody body moreBody => exact inOrder_responseBody hobeys hphase hknows hkeeps
      | elsewhere lib =>
          obtain ⟨⟨-, hhalf⟩, rfl⟩ := Machine.of_guard hstep
          exact ⟨phase, hphase, hknows.moved hhalf⟩
  obtain ⟨phase, hphase, hknows⟩ := horder
  exact ⟨Option.isSome_iff_exists.mpr ⟨phase, hphase⟩,
    fun action => refuses_h2Send hobeys hphase hknows⟩

end H2

/-- On HTTP/1.1 an application that keeps the order is what puts the wire in order and has
everything else refused, and on HTTP/2 as much of that as the library leaves to it. -/
theorem handshake_lawful {Ws : Type} {framing : Framing Ws} {shut : Ws → Bool}
    (hframing : framing.Obeys shut) :
    (∀ (ws : Ws) (actions : List (SendAction Ws)) (final : Sender Ws),
      (h1Machine framing shut ws).run { lib := ws } actions = some final →
        (Lawful final.wire ∧
            (h1Machine framing shut ws).Along (Refuses (h1Send framing)) { lib := ws } actions ↔
          (h1Machine framing shut ws).Along (KeepsOrder framing) { lib := ws } actions)) ∧
      ∀ {Conn : Type} {codec : H2.Codec Conn} {view : H2.View Conn}, codec.Obeys view →
        ∀ (streamId : ℕ) (negotiated : Option (List Char) → List Header) (lib : Ws × Conn)
          (session : Sender (Ws × Conn)),
          (h2Machine framing codec view streamId negotiated shut lib).Reach
            (KeepsHalf framing view streamId) session →
          Lawful session.wire ∧ ∀ action, KeepsHalf framing view streamId session action →
            Refuses (h2Send framing codec streamId negotiated) session action :=
  ⟨fun ws _ _ hrun => h1_refuses_iff hframing ws hrun, fun hobeys _ _ _ _ => h2_lawful hobeys⟩

/-! ## A short session -/

/-- A library that knows whether it has sent a close, and sends the payload as it is. -/
def plainFraming : Framing Bool where
  sendMessage ws payload :=
    if ws then none
    else
      match payload with
      | .text chars => some (false, chars.map fun char => char.toNat.toUInt8)
      | .bytes data => some (false, data)
  close ws code _ := if ws then none else some (true, [code.toUInt8])

theorem plainFraming_obeys : plainFraming.Obeys id where
  sendMessage ws payload next data hsent := by
    cases ws with
    | false => rfl
    | true => cases hsent
  close ws code reason next data hsent := by
    cases ws with
    | true => cases hsent
    | false =>
        obtain ⟨rfl, -⟩ := Prod.mk.inj (Option.some.inj hsent)
        exact ⟨rfl, rfl⟩

/-- The application accepts, says hello, closes, and says it once more. -/
def hello (Lib : Type) : List (SendAction Lib) :=
  [.send (.accept (some ['x'])), .send (.send (.text ['h', 'i'])), .send (.close 1000 ""),
    .send (.send (.text ['h', 'i']))]

/-- It accepts once more. -/
def helloTwice (Lib : Type) : List (SendAction Lib) :=
  [.send (.accept none), .send (.accept none)]

/-- It accepts with a subprotocol that ends its line and the head. -/
def helloLines (Lib : Type) : List (SendAction Lib) :=
  [.send (.accept (some ['x', '\r', '\n', '\r', '\n', 'H', 'T', 'T', 'P']))]

/-- It accepts, and then sends the body of a rejection. -/
def helloBody (Lib : Type) : List (SendAction Lib) :=
  [.send (.accept none), .send (.responseBody (ascii "no") false)]

/-- The stream of the session has been opened by the peer. -/
def openedConn : H2.SmallConn := Function.update H2.idleConn 1 (.receiving, .fresh)

/-- A session over the first stream. -/
def helloMachine : Machine (Sender (Bool × H2.SmallConn)) (SendAction (Bool × H2.SmallConn)) :=
  h2Machine plainFraming (H2.smallH2 []) H2.smallView 1 (fun _ => []) id (false, openedConn)

theorem handshake_lawful_hello :
    (∃ final, (h1Machine plainFraming id false).run { lib := false } (hello Bool) = some final ∧
        final.wire = [.acceptance (some ['x']), .frame [104, 105], .closeFrame [232]] ∧
        Lawful final.wire ∧ (h1Machine plainFraming id false).Along
          (Refuses (h1Send plainFraming)) { lib := false } (hello Bool)) ∧
      ∃ final, helloMachine.run { lib := (false, openedConn) } (hello _) = some final ∧
        Lawful final.wire ∧
        ∀ action, KeepsHalf plainFraming H2.smallView 1 final action →
          Refuses (h2Send plainFraming (H2.smallH2 []) 1 (fun _ => [])) final action := by
  refine ⟨⟨_, rfl, rfl, ((handshake_lawful plainFraming_obeys).1 false (hello Bool) _ rfl).mpr ?_⟩,
    _, rfl, ?_⟩
  · exact .cons (fun _ => ⟨rfl, by decide⟩) rfl
      (.cons (fun hphase => absurd hphase (by decide)) rfl
        (.cons (fun hphase => absurd rfl hphase) rfl
          (.cons (fun hphase => absurd hphase (by decide)) rfl trivial)))
  · apply (handshake_lawful plainFraming_obeys).2 (H2.smallH2_obeys []) 1 (fun _ => [])
      (false, openedConn)
    have halong : helloMachine.Along (KeepsHalf plainFraming H2.smallView 1)
        { lib := (false, openedConn) } (hello _) :=
      .cons (fun _ => trivial) rfl (.cons (fun _ hphase => absurd hphase (by decide)) rfl
        (.cons (fun _ _ hphase => absurd rfl hphase) rfl
          (.cons (fun _ hphase => absurd hphase (by decide)) rfl trivial)))
    exact Machine.Reach.run (.init rfl) halong rfl

/-- An application that accepts twice upgrades twice on HTTP/1.1, or once if its subprotocol
brings another head along; and on HTTP/2 the body of a rejection gets among the frames of a
session. -/
theorem handshake_disorder :
    (∃ sender, (h1Machine plainFraming id false).run { lib := false } (helloTwice Bool) =
        some sender ∧ ¬ Lawful sender.wire) ∧
      (∃ sender, (h1Machine plainFraming id false).run { lib := false } (helloLines Bool) =
        some sender ∧ ¬ Lawful sender.wire) ∧
      ∃ sender, helloMachine.run { lib := (false, openedConn) } (helloBody _) = some sender ∧
        ¬ Lawful sender.wire := by
  refine ⟨?_, ?_, ?_⟩
  · obtain ⟨sender, hrun, hwire⟩ : ∃ sender,
        (h1Machine plainFraming id false).run { lib := false } (helloTwice Bool) = some sender ∧
          sender.wire = [.acceptance none, .acceptance none] := ⟨_, rfl, rfl⟩
    refine ⟨sender, hrun, ?_⟩
    rw [hwire]
    decide
  · refine ⟨_, rfl, ?_⟩
    decide
  · obtain ⟨sender, hrun, hwire⟩ : ∃ sender,
        helloMachine.run { lib := (false, openedConn) } (helloBody _) = some sender ∧
          sender.wire = [.acceptance none, .rejectionBody (ascii "no"), .bodyEnd] := ⟨_, rfl, rfl⟩
    refine ⟨sender, hrun, ?_⟩
    rw [hwire]
    decide

end Pounce.WebSocket
