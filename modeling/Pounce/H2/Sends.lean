/-
# What the handler sends, as the library sees it

Whatever the handler and its tasks send, a stream stays where the peer has brought it unless
it is closed by that (`Pushed`), and the frames that were taken never get ahead of the half
the library keeps of the stream (`Counted`): a final block of HEADERS is taken once, and the
end once. The lemmas lift both from the calls on the library to the responses of the handler.
-/

import Pounce.H2.Dispatch
import Pounce.H2.Rules

namespace Pounce.H2

open Pounce.Math Pounce.Math.Bytes

namespace View

variable {Conn : Type} (view : View Conn)

/-- The streams are where they were, but for those that were closed. -/
def Pushed (conn next : Conn) : Prop :=
  ∀ streamId, view.phase next streamId = view.phase conn streamId ∨
    view.phase next streamId = .reset

/-- The frames of every stream are within what its half allows for. -/
def Counted (conn : Conn) (sent : List SentFrame) : Prop := Within (view.half conn) sent

variable {view}

theorem Pushed.refl (conn : Conn) : view.Pushed conn conn := fun _ => .inl rfl

theorem Pushed.trans {first second third : Conn} (hfirst : view.Pushed first second)
    (hsecond : view.Pushed second third) : view.Pushed first third := by
  intro streamId
  rcases hsecond streamId with hsame | hreset
  · rw [hsame]
    exact hfirst streamId
  · exact .inr hreset

/-- A stream that is known stays known. -/
theorem Pushed.ne_idle {conn next : Conn} (hpushed : view.Pushed conn next) {streamId : ℕ}
    (hphase : view.phase conn streamId ≠ .idle) : view.phase next streamId ≠ .idle := by
  rcases hpushed streamId with hsame | hreset
  · rwa [hsame]
  · rw [hreset]
    decide

/-- A call that sends keeps the streams where they are. -/
theorem Sends.pushed {conn next : Conn} {streamId : ℕ} {taken : Bool} {half : Half}
    (hsends : view.Sends conn next streamId taken half) : view.Pushed conn next := by
  intro id
  by_cases hid : id = streamId
  case neg => exact .inl (hsends.others id hid).1
  case pos =>
    subst hid
    cases taken with
    | true => exact .inl (hsends.accepted rfl).1
    | false => exact (hsends.refused rfl).imp_left fun hsame => hsame.1

end View

variable {Conn : Type} {env : Env Conn} {view : View Conn} {handler next : Handler Conn}

/-! ## Calls on the library -/

section Calls

variable (hobeys : env.codec.Obeys view)

include hobeys

theorem Codec.Obeys.pushed_sendHeaders (handler : Handler Conn) (streamId status : ℕ)
    (headers : List Header) (endStream : Bool) :
    view.Pushed handler.h2.conn
      (handler.sendHeaders env streamId status headers endStream).1.h2.conn :=
  (hobeys.sendHeaders ..).pushed

theorem Codec.Obeys.pushed_sendData (handler : Handler Conn) (streamId : ℕ) (data : Bytes)
    (endStream : Bool) :
    view.Pushed handler.h2.conn (handler.sendData env streamId data endStream).1.h2.conn := by
  rw [Handler.sendData]
  split
  · exact .refl _
  · exact (hobeys.sendData ..).pushed

theorem Codec.Obeys.pushed_resetStream (handler : Handler Conn) (streamId errorCode : ℕ) :
    view.Pushed handler.h2.conn (handler.resetStream env streamId errorCode).1.h2.conn := by
  rw [Handler.resetStream]
  split
  case h_1 => exact .refl _
  case h_2 h2 hreset =>
    obtain ⟨conn, hconn, rfl⟩ := Option.map_eq_some_iff.mp hreset
    obtain ⟨hphase, hothers⟩ := hobeys.resetStream _ _ _ _ hconn
    intro id
    by_cases hid : id = streamId
    · subst hid
      exact .inr hphase
    · exact .inl (hothers id hid).1

/-- A call that is refused sends nothing and closes the stream if anything. -/
theorem Codec.Obeys.counted_refused {conn next : Conn} {sent : List SentFrame}
    (hcounted : view.Counted conn sent) {streamId : ℕ} {half : Half}
    (hsends : view.Sends conn next streamId false half) : view.Counted next sent := by
  apply hcounted.mono
  intro id
  by_cases hid : id = streamId
  case neg => exact .inl (hsends.others id hid).2
  case pos =>
    subst hid
    rcases hsends.refused rfl with hsame | hreset
    · exact .inl hsame.2
    · exact .inr (hobeys.reset _ _ hreset)

theorem Codec.Obeys.counted_sendHeaders (hcounted : view.Counted handler.h2.conn handler.sent)
    (streamId status : ℕ) (headers : List Header) (endStream : Bool) :
    view.Counted (handler.sendHeaders env streamId status headers endStream).1.h2.conn
      (handler.sendHeaders env streamId status headers endStream).1.sent := by
  have hsends := hobeys.sendHeaders handler.h2.conn streamId status headers endStream
  have hfinal := hobeys.final handler.h2.conn streamId status headers endStream
  rw [Handler.sendHeaders]
  dsimp only
  cases htaken : (env.codec.sendHeaders handler.h2.conn streamId status headers endStream).2 with
  | false =>
      rw [htaken] at hsends
      rw [if_neg Bool.false_ne_true, List.append_nil]
      exact hobeys.counted_refused hcounted hsends
  | true =>
      rw [htaken] at hsends
      obtain ⟨-, hopen, hhalf⟩ := hsends.accepted rfl
      rw [if_pos rfl]
      exact Within.headers hcounted (fun _ => hopen) (fun hstatus => hfinal hstatus htaken)
        (fun id hid => (hsends.others id hid).2) hhalf

theorem Codec.Obeys.counted_sendData (hcounted : view.Counted handler.h2.conn handler.sent)
    (streamId : ℕ) (data : Bytes) (endStream : Bool) :
    view.Counted (handler.sendData env streamId data endStream).1.h2.conn
      (handler.sendData env streamId data endStream).1.sent := by
  have hsends := hobeys.sendData handler.h2.conn streamId data endStream
  rw [Handler.sendData]
  split
  case isTrue => exact hcounted
  case isFalse =>
    dsimp only
    cases htaken : (env.codec.sendData handler.h2.conn streamId data endStream).2 with
    | false =>
        rw [htaken] at hsends
        rw [if_neg Bool.false_ne_true, List.append_nil]
        exact hobeys.counted_refused hcounted hsends
    | true =>
        rw [htaken] at hsends
        obtain ⟨-, hopen, hhalf⟩ := hsends.accepted rfl
        rw [if_pos rfl]
        exact Within.data hcounted hopen (fun id hid => (hsends.others id hid).2) hhalf

theorem Codec.Obeys.counted_resetStream (hcounted : view.Counted handler.h2.conn handler.sent)
    (streamId errorCode : ℕ) :
    view.Counted (handler.resetStream env streamId errorCode).1.h2.conn
      (handler.resetStream env streamId errorCode).1.sent := by
  rw [Handler.resetStream]
  split
  case h_1 => exact hcounted
  case h_2 h2 hreset =>
    obtain ⟨conn, hconn, rfl⟩ := Option.map_eq_some_iff.mp hreset
    obtain ⟨hphase, hothers⟩ := hobeys.resetStream _ _ _ _ hconn
    apply Within.reset hcounted
    intro id
    by_cases hid : id = streamId
    case pos =>
      subst hid
      exact .inr (hobeys.reset _ _ hphase)
    case neg => exact .inl (hothers id hid).2

end Calls

/-! ## Responses of the handler -/

/-- What sending does to a connection, and what it comes to. -/
structure Transmitted (view : View Conn) (handler next : Handler Conn) : Prop where
  pushed : view.Pushed handler.h2.conn next.h2.conn
  counted : view.Counted handler.h2.conn handler.sent → view.Counted next.h2.conn next.sent

theorem Transmitted.refl (handler : Handler Conn) : Transmitted view handler handler := ⟨.refl _, id⟩

theorem Transmitted.trans {first second third : Handler Conn} (hfirst : Transmitted view first second)
    (hsecond : Transmitted view second third) : Transmitted view first third where
  pushed := hfirst.pushed.trans hsecond.pushed
  counted hcounted := hsecond.counted (hfirst.counted hcounted)

section Responses

variable (hobeys : env.codec.Obeys view)

include hobeys

theorem Codec.Obeys.transmitted_sendHeaders (handler : Handler Conn) (streamId status : ℕ)
    (headers : List Header) (endStream : Bool) :
    Transmitted view handler (handler.sendHeaders env streamId status headers endStream).1 where
  pushed := hobeys.pushed_sendHeaders handler streamId status headers endStream
  counted hcounted := hobeys.counted_sendHeaders hcounted streamId status headers endStream

theorem Codec.Obeys.transmitted_sendData (handler : Handler Conn) (streamId : ℕ) (data : Bytes)
    (endStream : Bool) :
    Transmitted view handler (handler.sendData env streamId data endStream).1 where
  pushed := hobeys.pushed_sendData handler streamId data endStream
  counted hcounted := hobeys.counted_sendData hcounted streamId data endStream

theorem Codec.Obeys.transmitted_resetStream (handler : Handler Conn) (streamId errorCode : ℕ) :
    Transmitted view handler (handler.resetStream env streamId errorCode).1 where
  pushed := hobeys.pushed_resetStream handler streamId errorCode
  counted hcounted := hobeys.counted_resetStream hcounted streamId errorCode

theorem Codec.Obeys.transmitted_sendRequestTooLarge (handler : Handler Conn) (streamId : ℕ) :
    Transmitted view handler (handler.sendRequestTooLarge env streamId).1 := by
  have hheaders := hobeys.transmitted_sendHeaders handler streamId 413 tooLargeHeaders true
  rw [Handler.sendRequestTooLarge]
  split
  case h_1 raised hraised =>
    rw [hraised] at hheaders
    exact hheaders
  case h_2 answered hanswered =>
    rw [hanswered] at hheaders
    have hclosed : Transmitted view handler
        (if !handler.h2.streamEnded streamId then
            answered.resetStream env streamId enhanceYourCalm
          else ({ answered with h2 := answered.h2.removeStream streamId }, true)).1 := by
      split
      · exact hheaders.trans (hobeys.transmitted_resetStream ..)
      · exact hheaders.trans ⟨.refl _, id⟩
    split
    case h_1 raised hraised =>
      rw [hraised] at hclosed
      exact hclosed
    case h_2 closed hsettled =>
      rw [hsettled] at hclosed
      exact hclosed.trans ⟨.refl _, id⟩

theorem Codec.Obeys.transmitted_sendRequestTimeout (handler : Handler Conn) (streamId : ℕ) :
    Transmitted view handler (handler.sendRequestTimeout env streamId) :=
  Handler.sendRequestTimeout_induction env (hobeys.transmitted_sendHeaders ..)
    fun _ hanswered => hanswered.trans (hobeys.transmitted_resetStream ..)

theorem Codec.Obeys.transmitted_sendServerError (handler : Handler Conn) (streamId : ℕ) :
    Transmitted view handler (handler.sendServerError env streamId) :=
  Handler.sendServerError_induction env (hobeys.transmitted_sendHeaders ..)
    fun _ hanswered => hanswered.trans (hobeys.transmitted_sendData ..)

end Responses

end Pounce.H2
