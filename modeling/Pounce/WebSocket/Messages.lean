/-
# Messages and their parts

A client may send a message in any number of frames, and wsproto reports a part whenever it
has some of it. The handlers pass every part on as a message of its own, and measure it
alone, a text in characters (`dispatch`). On HTTP/2 the end of the stream counts as a close
(`processData_eq`).
-/

import Pounce.WebSocket

namespace Pounce.WebSocket

open Pounce.Math

/-! ## Messages -/

/-- The bytes of a payload as it is sent. -/
def Payload.size : Payload → ℕ
  | .text chars => (chars.flatMap String.utf8EncodeChar).length
  | .bytes data => data.length

/-- A message of the client, in the parts it is reported in. -/
inductive Message where
  | text (first : List Char) (rest : List (List Char))
  | bytes (first : Bytes) (rest : List Bytes)
  deriving DecidableEq, Repr

namespace Message

/-- The parts, at least one. -/
def parts : Message → List Payload
  | .text first rest => (first :: rest).map .text
  | .bytes first rest => (first :: rest).map .bytes

/-- The whole message. -/
def whole : Message → Payload
  | .text first rest => .text (first :: rest).flatten
  | .bytes first rest => .bytes (first :: rest).flatten

/-- The first part. -/
def first : Message → Payload
  | .text first _ => .text first
  | .bytes first _ => .bytes first

/-- The whole message is within the limit. -/
def Fits (limit : ℕ) (message : Message) : Prop := message.whole.size ≤ limit

instance (limit : ℕ) (message : Message) : Decidable (message.Fits limit) :=
  inferInstanceAs (Decidable (_ ≤ _))

theorem parts_eq (message : Message) : ∃ rest, message.parts = message.first :: rest := by
  cases message <;> exact ⟨_, rfl⟩

/-- A message in one part is that part. -/
theorem whole_eq_first {message : Message} (hsingle : message.parts.length = 1) :
    message.whole = message.first := by
  cases message with
  | text first rest =>
      obtain rfl : rest = [] := by simpa [parts] using hsingle
      simp [whole, Message.first]
  | bytes first rest =>
      obtain rfl : rest = [] := by simpa [parts] using hsingle
      simp [whole, Message.first]

end Message

/-- A text has at most as many characters as bytes. -/
theorem Payload.len_le_size (payload : Payload) : payload.len ≤ payload.size := by
  cases payload with
  | bytes data => exact Nat.le_refl _
  | text chars =>
      change chars.length ≤ (chars.flatMap String.utf8EncodeChar).length
      induction chars with
      | nil => exact Nat.le_refl _
      | cons char chars ih =>
          rw [List.flatMap_cons, List.length_append, List.length_cons, String.length_utf8EncodeChar]
          have hpos := Char.utf8Size_pos char
          omega

/-- A part is no larger than the message. -/
theorem Message.size_le {message : Message} {part : Payload} (hpart : part ∈ message.parts) :
    part.size ≤ message.whole.size := by
  cases message with
  | text first rest =>
      obtain ⟨chars, hmem, rfl⟩ := List.mem_map.mp hpart
      obtain ⟨before, after, hsplit⟩ := List.append_of_mem hmem
      simp only [Payload.size, Message.whole, hsplit, List.flatten_append, List.flatten_cons,
        List.flatMap_append, List.length_append]
      omega
  | bytes first rest =>
      obtain ⟨data, hmem, rfl⟩ := List.mem_map.mp hpart
      obtain ⟨before, after, hsplit⟩ := List.append_of_mem hmem
      simp only [Payload.size, Message.whole, hsplit, List.flatten_append, List.flatten_cons,
        List.length_append]
      omega

/-- What fits is not too long in any of its parts. -/
theorem Message.Fits.part {limit : ℕ} {message : Message} (hfits : message.Fits limit)
    {part : Payload} (hpart : part ∈ message.parts) : part.len ≤ limit :=
  part.len_le_size.trans ((Message.size_le hpart).trans hfits)

/-! ## What is received, and what is to be -/

/-- The parts the handlers see: those before the peer closes. -/
def partsOf : List LibraryEvent → List Payload
  | [] => []
  | .message payload _ :: events => payload :: partsOf events
  | .closeConnection _ _ :: _ => []
  | .ping _ :: events => partsOf events
  | .pong _ :: events => partsOf events

/-- The messages the application receives. -/
def receivedOf (messages : List AppMessage) : List Payload :=
  messages.filterMap fun
    | .receive payload => some payload
    | _ => none

/-- The messages that are complete with some number of parts. -/
def completed : List Message → ℕ → List Message
  | [], _ => []
  | message :: messages, count =>
      if message.parts.length ≤ count then
        message :: completed messages (count - message.parts.length)
      else []

/-- The messages an application is to receive: those that fit, up to the first that does
not. -/
def expected (limit : ℕ) (messages : List Message) : List Payload :=
  (messages.takeWhile fun message => message.Fits limit).map Message.whole

/-- The parts the handlers pass on: those that are not too long, up to the first that is. -/
def passed (limit : ℕ) (parts : List Payload) : List Payload :=
  parts.takeWhile fun part => part.len ≤ limit

/-- The messages come in one part each, up to the first that does not fit, and that is too
long in its first part. -/
def Unfragmented (limit : ℕ) : List Message → Prop
  | [] => True
  | message :: messages =>
      if message.Fits limit then message.parts.length = 1 ∧ Unfragmented limit messages
      else limit < message.first.len

/-- The number of parts of such messages that decide what is received. -/
def decisive (limit : ℕ) : List Message → ℕ
  | [] => 0
  | message :: messages => if message.Fits limit then decisive limit messages + 1 else 1

/-- Some message does not fit. -/
def Oversized (limit : ℕ) (messages : List Message) : Prop :=
  ∃ message ∈ messages, ¬ message.Fits limit

/-- Some part is too long. -/
def TooLong (limit : ℕ) (parts : List Payload) : Prop := ∃ part ∈ parts, limit < part.len

variable {limit : ℕ}

theorem expected_cons (message : Message) (messages : List Message) :
    expected limit (message :: messages) =
      if message.Fits limit then message.whole :: expected limit messages else [] := by
  rw [expected, List.takeWhile_cons]
  simp only [decide_eq_true_eq]
  split <;> rfl

/-- Unfragmented messages are received as soon as they are complete. -/
theorem Unfragmented.passed {messages : List Message} (hwhole : Unfragmented limit messages)
    (count : ℕ) : passed limit ((messages.flatMap Message.parts).take count) =
      expected limit (completed messages count) := by
  induction messages generalizing count with
  | nil => rw [List.flatMap_nil, List.take_nil]; rfl
  | cons message messages ih =>
      obtain ⟨rest, hparts⟩ := message.parts_eq
      cases count with
      | zero =>
          rw [completed, if_neg (by simp [hparts])]
          rfl
      | succ count =>
          rw [Unfragmented] at hwhole
          split at hwhole
          case isTrue hfits =>
            obtain ⟨hsingle, hmore⟩ := hwhole
            obtain rfl : rest = [] := by simpa [hparts] using hsingle
            rw [List.flatMap_cons, hparts, List.singleton_append, List.take_succ_cons,
              completed, if_pos (by rw [hsingle]; omega), expected_cons, if_pos hfits, hsingle,
              Nat.add_sub_cancel, ← ih hmore, Message.whole_eq_first hsingle]
            exact List.takeWhile_cons_of_pos (by simpa using hfits.part (by simp [hparts]))
          case isFalse hlarge =>
            rw [List.flatMap_cons, hparts, List.cons_append, List.take_succ_cons]
            have hnothing : Pounce.WebSocket.passed limit
                (message.first :: (rest ++ messages.flatMap Message.parts).take count) = [] :=
              List.takeWhile_cons_of_neg (by simpa using hwhole)
            rw [hnothing, completed]
            split
            case isTrue => rw [expected_cons, if_neg hlarge]
            case isFalse => rfl

/-- With the parts that decide, what is expected of the messages is complete. -/
theorem Unfragmented.complete {messages : List Message} (hwhole : Unfragmented limit messages)
    {count : ℕ} (hcount : decisive limit messages ≤ count) :
    expected limit (completed messages count) = expected limit messages ∧
      (TooLong limit ((messages.flatMap Message.parts).take count) ↔ Oversized limit messages) := by
  induction messages generalizing count with
  | nil => exact ⟨rfl, by simp [TooLong, Oversized]⟩
  | cons message messages ih =>
      obtain ⟨rest, hparts⟩ := message.parts_eq
      rw [Unfragmented] at hwhole
      rw [decisive] at hcount
      split at hwhole
      case isTrue hfits =>
        obtain ⟨hsingle, hmore⟩ := hwhole
        rw [if_pos hfits] at hcount
        obtain rfl : rest = [] := by simpa [hparts] using hsingle
        obtain ⟨count, rfl⟩ : ∃ less, count = less + 1 := ⟨count - 1, by omega⟩
        obtain ⟨hcomplete, htooLong⟩ := ih hmore (Nat.le_of_succ_le_succ hcount)
        have hfirst : message.first.len ≤ limit := hfits.part (by simp [hparts])
        constructor
        · rw [completed, if_pos (by rw [hsingle]; omega), hsingle, Nat.add_sub_cancel,
            expected_cons, if_pos hfits, hcomplete, expected_cons, if_pos hfits]
        · rw [List.flatMap_cons, hparts, List.singleton_append, List.take_succ_cons]
          simp only [TooLong, Oversized, List.exists_mem_cons_iff] at htooLong ⊢
          rw [htooLong]
          simp [hfits, Nat.not_lt.mpr hfirst]
      case isFalse hlarge =>
        rw [if_neg hlarge] at hcount
        obtain ⟨count, rfl⟩ : ∃ less, count = less + 1 := ⟨count - 1, by omega⟩
        constructor
        · rw [completed]
          split
          case isTrue => rw [expected_cons, expected_cons, if_neg hlarge, if_neg hlarge]
          case isFalse => rw [expected_cons, if_neg hlarge]; rfl
        · rw [List.flatMap_cons, hparts, List.cons_append, List.take_succ_cons]
          simp [TooLong, Oversized, hwhole, hlarge]

/-! ## Reads -/

/-- Reading on, one sees more. -/
theorem partsOf_extends (first rest : List LibraryEvent) :
    partsOf first <+: partsOf (first ++ rest) := by
  induction first with
  | nil => exact List.nil_prefix
  | cons event first ih =>
      cases event with
      | message payload _ => exact List.prefix_cons_inj payload |>.mpr ih
      | closeConnection => exact List.nil_prefix
      | ping => exact ih
      | pong => exact ih

/-- What a read makes of its parts. -/
theorem readFrames_eq (limit : ℕ) (read : List LibraryEvent) :
    receivedOf (readFrames limit read).1 = passed limit (partsOf read) ∧
      ((readFrames limit read).2 = .tooLarge ↔ TooLong limit (partsOf read)) := by
  rw [readFrames, receiveData]
  induction read with
  | nil => exact ⟨rfl, by simp [dispatch, TooLong, partsOf]⟩
  | cons event read ih =>
      cases event with
      | message payload finished =>
          simp only [List.filterMap_cons, protocolEvent, dispatch, partsOf, passed,
            List.takeWhile_cons, decide_eq_true_eq, TooLong, List.exists_mem_cons_iff]
          by_cases hlong : limit < payload.len
          case pos => simp [hlong, Nat.not_le.mpr hlong, receivedOf]
          case neg =>
            simp only [hlong, false_or, Nat.not_lt.mp hlong, if_true]
            exact ⟨congrArg (payload :: ·) ih.1, ih.2⟩
      | closeConnection => exact ⟨rfl, by simp [dispatch, protocolEvent, TooLong, partsOf]⟩
      | ping => exact ih
      | pong => exact ih

/-- Events are dispatched one after the other. -/
theorem dispatch_append (limit : ℕ) (first rest : List ProtocolEvent) :
    dispatch limit (first ++ rest) =
      match dispatch limit first with
      | (messages, .goesOn) =>
          (messages ++ (dispatch limit rest).1, (dispatch limit rest).2)
      | ended => ended := by
  induction first with
  | nil => rfl
  | cons event first ih =>
      cases event with
      | disconnected => rfl
      | dataReceived data =>
          rw [List.cons_append, dispatch, dispatch, ih]
          split
          case isTrue => rfl
          case isFalse =>
            obtain ⟨messages, outcome⟩ := dispatch limit first
            cases outcome <;> rfl

/-- The events of a segment, and a close where the stream ends. -/
def Segment.heard (segment : Segment) : List LibraryEvent :=
  segment.events ++ if segment.endStream then [.closeConnection (some 1000) none] else []

/-- The end of the stream counts as a close. -/
theorem processData_eq (limit : ℕ) (segment : Segment) :
    processData limit segment = readFrames limit segment.heard := by
  have hread : (if segment.length = 0 then ([], .goesOn) else readFrames limit segment.events) =
      readFrames limit segment.events := by
    split
    case isTrue hempty =>
      rw [segment.parsed hempty]
      rfl
    case isFalse => rfl
  rw [processData, hread, Segment.heard]
  cases segment.endStream with
  | false => simp
  | true =>
      rw [if_pos rfl, readFrames, readFrames, receiveData, receiveData, List.filterMap_append,
        dispatch_append]
      obtain ⟨messages, outcome⟩ := dispatch limit (segment.events.filterMap protocolEvent)
      cases outcome <;> rfl

end Pounce.WebSocket
