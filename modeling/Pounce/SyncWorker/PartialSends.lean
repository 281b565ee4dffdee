/-
# Partial sends

A socket may accept a part of what it is handed. `_send_response_parts` hands head and body over at
once and then what is left of them, and `sendall` goes on until everything is accepted. Wherever a
send is cut, by an exception or because the socket has not answered yet, what was accepted is a
prefix of the response.

An `OSError` is taken as a sign that `sendmsg` does not work on the socket, and the response is sent
again from its first byte. If a part of it had been accepted by then, the client gets that part
twice.
-/

import Pounce.SyncWorker.Connection

namespace Pounce.SyncWorker

open Pounce.Math

/-! ## Sockets -/

/-- What a socket answers when it is handed bytes. -/
inductive SocketAnswer where
  /-- It accepts that many of them, or all if they are fewer. -/
  | accepts (count : ℕ)
  | raises (error : PyError)
  deriving DecidableEq, Repr

/-- What has come of a send so far. -/
inductive SendResult where
  | done
  | raised (error : PyError)
  /-- The socket has not answered yet. -/
  | blocked
  deriving DecidableEq, Repr

/-- A send: the bytes the socket has accepted, what has come of it, and the further answers of the
socket. -/
structure Sent where
  accepted : Bytes
  result : SendResult
  answers : List SocketAnswer
  deriving DecidableEq, Repr

/-- Go on with another send once this one is done. -/
def Sent.andThen (sent : Sent) (next : List SocketAnswer → Sent) : Sent :=
  match sent.result with
  | .done => { next sent.answers with accepted := sent.accepted ++ (next sent.answers).accepted }
  | _ => sent

/-- `socket.sendall`. -/
def sendall (data : Bytes) : List SocketAnswer → Sent
  | [] => { accepted := [], result := .blocked, answers := [] }
  | .raises error :: answers => { accepted := [], result := .raised error, answers }
  | .accepts count :: answers =>
      if data.length ≤ count then { accepted := data, result := .done, answers }
      else
        let rest := sendall (data.drop count) answers
        { rest with accepted := data.take count ++ rest.accepted }

/-- `socket.sendmsg` of head and body. -/
def sendmsg (head body : Bytes) : List SocketAnswer → Sent
  | [] => { accepted := [], result := .blocked, answers := [] }
  | .raises error :: answers => { accepted := [], result := .raised error, answers }
  | .accepts count :: answers => { accepted := (head ++ body).take count, result := .done, answers }

/-- `_send_response_parts`. -/
def sendResponseParts (head body : Bytes) (answers : List SocketAnswer) : Sent :=
  let first := sendmsg head body answers
  let sent := first.accepted.length
  if head.length + body.length ≤ sent then first
  else if sent < head.length then
    let rest := first.andThen (sendall (head.drop sent))
    if body = [] then rest else rest.andThen (sendall body)
  else if sent - head.length < body.length then
    first.andThen (sendall (body.drop (sent - head.length)))
  else first

/-- The first attempt of `_serialize_send_and_log`. -/
def firstAttempt (hasSendmsg : Bool) (head body : Bytes) (answers : List SocketAnswer) : Sent :=
  if hasSendmsg then sendResponseParts head body answers else sendall (head ++ body) answers

/-- The sends of `_serialize_send_and_log`. -/
def serializeSend (hasSendmsg : Bool) (head body : Bytes) (answers : List SocketAnswer) : Sent :=
  let first := firstAttempt hasSendmsg head body answers
  match first.result with
  | .raised .osError =>
      let again := sendall (head ++ body) first.answers
      { again with accepted := first.accepted ++ again.accepted }
  | _ => first

/-! ## What is promised -/

/-- The accepted bytes are a prefix of the response, and all of it once the send is done. -/
structure Sent.Delivers (sent : Sent) (data : Bytes) : Prop where
  leading : sent.accepted <+: data
  all : sent.result = .done → sent.accepted = data

/-- What is sent a second time does no harm: nothing had been accepted, or what is accepted now
happens to be what comes next, and is not all. -/
def Sent.Resumes (first again : Sent) (data : Bytes) : Prop :=
  first.accepted = [] ∨
    again.result ≠ .done ∧ again.accepted <+: data.drop first.accepted.length

/-! ## One attempt -/

variable {head body data : Bytes} {answers : List SocketAnswer} {sent : Sent}

/-- A send of the second part after the first one. -/
theorem Sent.Delivers.andThen {first second : Bytes} (hfirst : sent.Delivers first)
    {next : List SocketAnswer → Sent} (hnext : ∀ answers, (next answers).Delivers second) :
    (sent.andThen next).Delivers (first ++ second) := by
  rw [Sent.andThen]
  split
  case h_1 hdone =>
    obtain ⟨hleading, hall⟩ := hnext sent.answers
    rw [hfirst.all hdone]
    constructor
    · exact (List.prefix_append_right_inj first).mpr hleading
    · intro hrest
      show first ++ _ = _
      rw [hall hrest]
  case h_2 hdone =>
    constructor
    · exact hfirst.leading.trans (List.prefix_append first second)
    · intro hrest
      exact absurd hrest hdone

/-- Going on with what is left of the data. -/
theorem Sent.Delivers.resume {count : ℕ} {next : List SocketAnswer → Sent}
    (haccepted : sent.accepted = data.take count) (hnext : ∀ answers,
      (next answers).Delivers (data.drop count)) : (sent.andThen next).Delivers data := by
  rw [Sent.andThen]
  split
  case h_1 =>
    obtain ⟨hleading, hall⟩ := hnext sent.answers
    rw [haccepted]
    constructor
    · have hwhole := (List.prefix_append_right_inj (data.take count)).mpr hleading
      rwa [List.take_append_drop] at hwhole
    · intro hrest
      show data.take count ++ _ = _
      rw [hall hrest, List.take_append_drop]
  case h_2 hdone =>
    constructor
    · rw [haccepted]
      exact List.take_prefix count data
    · intro hrest
      exact absurd hrest hdone

/-- `sendall` delivers. -/
theorem delivers_sendall (data : Bytes) (answers : List SocketAnswer) :
    (sendall data answers).Delivers data := by
  induction answers generalizing data with
  | nil => exact ⟨List.nil_prefix, nofun⟩
  | cons answer answers ih =>
      cases answer with
      | raises error => exact ⟨List.nil_prefix, nofun⟩
      | accepts count =>
          rw [sendall]
          split
          case isTrue => exact ⟨List.prefix_rfl, fun _ => rfl⟩
          case isFalse =>
            obtain ⟨hleading, hall⟩ := ih (data.drop count)
            constructor
            · have hwhole := (List.prefix_append_right_inj (data.take count)).mpr hleading
              rwa [List.take_append_drop] at hwhole
            · intro hdone
              show data.take count ++ _ = _
              rw [hall hdone, List.take_append_drop]

/-- `sendmsg` has a part of the response accepted. -/
theorem accepted_sendmsg (head body : Bytes) (answers : List SocketAnswer) :
    ∃ count, (sendmsg head body answers).accepted = (head ++ body).take count := by
  cases answers with
  | nil => exact ⟨0, rfl⟩
  | cons answer answers =>
      cases answer with
      | raises error => exact ⟨0, rfl⟩
      | accepts count => exact ⟨count, rfl⟩

/-- What `sendmsg` has had accepted is as much of the response as its length says. -/
theorem accepted_eq_take : (sendmsg head body answers).accepted =
    (head ++ body).take (sendmsg head body answers).accepted.length := by
  obtain ⟨count, hcount⟩ := accepted_sendmsg head body answers
  rw [hcount, List.length_take, List.take_eq_take_iff]
  omega

/-- The parts of a response are delivered. -/
theorem delivers_sendResponseParts (head body : Bytes) (answers : List SocketAnswer) :
    (sendResponseParts head body answers).Delivers (head ++ body) := by
  have htake := @accepted_eq_take head body answers
  simp only [sendResponseParts]
  generalize hfirst : sendmsg head body answers = first at htake
  split
  case isTrue htotal =>
    rw [List.take_of_length_le (by rw [List.length_append]; exact htotal)] at htake
    exact ⟨htake ▸ List.prefix_rfl, fun _ => htake⟩
  case isFalse htotal =>
    split
    case isTrue hhead =>
      rw [List.take_append_of_le_length hhead.le] at htake
      have hrest : (first.andThen (sendall (head.drop first.accepted.length))).Delivers head :=
        .resume htake (delivers_sendall _)
      split
      case isTrue hbody =>
        rw [hbody, List.append_nil]
        exact hrest
      case isFalse => exact hrest.andThen (delivers_sendall body)
    case isFalse hhead =>
      have hdrop : (head ++ body).drop first.accepted.length =
          body.drop (first.accepted.length - head.length) := by
        rw [List.drop_append, List.drop_eq_nil_of_le (by omega), List.nil_append]
      split
      case isTrue =>
        apply Sent.Delivers.resume htake
        intro left
        rw [hdrop]
        exact delivers_sendall _ left
      case isFalse hbody => omega

/-- The first attempt delivers. -/
theorem delivers_firstAttempt (hasSendmsg : Bool) (head body : Bytes)
    (answers : List SocketAnswer) :
    (firstAttempt hasSendmsg head body answers).Delivers (head ++ body) := by
  rw [firstAttempt]
  split
  · exact delivers_sendResponseParts head body answers
  · exact delivers_sendall (head ++ body) answers

/-! ## Both attempts -/

/-- Sending again delivers where it does no harm. -/
theorem Sent.Delivers.again_iff {first again : Sent} (hfirst : first.Delivers data)
    (hagain : again.Delivers data) :
    Sent.Delivers { again with accepted := first.accepted ++ again.accepted } data ↔
      first.Resumes again data := by
  obtain ⟨rest, hrest⟩ := hfirst.leading
  have hdrop : data.drop first.accepted.length = rest := by
    rw [← hrest, List.drop_left]
  rw [Sent.Resumes, hdrop]
  constructor
  · rintro ⟨hleading, hall⟩
    by_cases hnone : first.accepted = []
    · exact .inl hnone
    · right
      constructor
      · intro hdone
        have hlength := congrArg List.length (hall hdone)
        rw [List.length_append, hagain.all hdone] at hlength
        have hpos := List.length_pos_of_ne_nil hnone
        omega
      · rw [← hrest] at hleading
        exact (List.prefix_append_right_inj first.accepted).mp hleading
  · rintro (hnone | ⟨hdone, hleading⟩)
    · rw [hnone, List.nil_append]
      exact ⟨hagain.leading, hagain.all⟩
    · constructor
      · rw [← hrest]
        exact (List.prefix_append_right_inj first.accepted).mpr hleading
      · intro hall
        exact absurd hall hdone

/-- What the socket accepts is a prefix of the response, and all of it when nothing is raised,
exactly if a second attempt after an `OSError` does no harm. -/
theorem response_delivered_iff (hasSendmsg : Bool) (head body : Bytes)
    (answers : List SocketAnswer) :
    (serializeSend hasSendmsg head body answers).Delivers (head ++ body) ↔
      ((firstAttempt hasSendmsg head body answers).result = .raised .osError →
        (firstAttempt hasSendmsg head body answers).Resumes
          (sendall (head ++ body) (firstAttempt hasSendmsg head body answers).answers)
          (head ++ body)) := by
  have hfirst := delivers_firstAttempt hasSendmsg head body answers
  rw [serializeSend]
  dsimp only
  split
  case h_1 hraised =>
    rw [forall_prop_of_true hraised]
    exact hfirst.again_iff (delivers_sendall _ _)
  case h_2 hraised =>
    exact iff_of_true hfirst fun heq => absurd heq hraised

/-- The socket accepts a part of the response and fails, and then takes all of it. -/
theorem response_delivered_twice :
    ¬ ∀ (hasSendmsg : Bool) (head body : Bytes) (answers : List SocketAnswer),
      (serializeSend hasSendmsg head body answers).Delivers (head ++ body) := by
  intro hall
  have hdelivers := hall true (Bytes.ascii "HTTP/1.1 200 OK\r\n\r\n") (Bytes.ascii "body")
    [.accepts 7, .raises .osError, .accepts 100]
  exact absurd (hdelivers.all (by decide)) (by decide)

end Pounce.SyncWorker
