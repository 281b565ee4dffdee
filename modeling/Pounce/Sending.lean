/-
# The sending half of a stream

HTTP/2 and HTTP/3 multiplex responses as frames of streams. A response is one final block of
HEADERS, with any number of informational ones before it, and DATA, and one of the frames
ends the half of the stream that belongs to the server. The libraries keep how far a stream
has come; what a connection has handed to them is a list of frames. As long as the frames
never get ahead of the halves (`Within`), every stream gets one response at most.
-/

import Pounce.Protocols.Base

namespace Pounce

open Pounce.Math

/-- How far the server has come with a stream. -/
inductive Half where
  /-- No final block of HEADERS has been sent. -/
  | fresh
  | started
  /-- The stream has been ended by the server, or reset. -/
  | ended
  deriving DecidableEq, Repr

/-- What is sent on streams. -/
inductive SentFrame where
  | headers (streamId status : ℕ) (headers : List Header) (endStream : Bool)
  | data (streamId : ℕ) (data : Bytes) (endStream : Bool)
  | resetStream (streamId errorCode : ℕ)
  deriving DecidableEq, Repr

/-- The status of an informational response. -/
def isInformational (status : ℕ) : Bool := 100 ≤ status && status < 200

/-- The half after a block of HEADERS. -/
def Half.afterHeaders (half : Half) (status : ℕ) (endStream : Bool) : Half :=
  if endStream then .ended else if isInformational status then half else .started

/-- The half after DATA. -/
def Half.afterData (half : Half) (endStream : Bool) : Half := if endStream then .ended else half

/-- The stream of a frame. -/
def SentFrame.streamId : SentFrame → ℕ
  | .headers id _ _ _ => id
  | .data id _ _ => id
  | .resetStream id _ => id

/-- The half of a stream after a frame. -/
def Half.after (half : Half) (streamId : ℕ) : SentFrame → Half
  | .headers id status _ endStream =>
      if id = streamId then half.afterHeaders status endStream else half
  | .data id _ endStream => if id = streamId then half.afterData endStream else half
  | .resetStream id _ => if id = streamId then .ended else half

/-- How far the frames that were sent have brought a stream. -/
def halfOf (frames : List SentFrame) (streamId : ℕ) : Half :=
  frames.foldl (fun half frame => half.after streamId frame) .fresh

/-- The frame is a final block of HEADERS on the stream. -/
def SentFrame.isFinal (streamId : ℕ) : SentFrame → Bool
  | .headers id status _ _ => id = streamId && !isInformational status
  | _ => false

/-- The frame ends the stream, in the way a response ends. -/
def SentFrame.ends (streamId : ℕ) : SentFrame → Bool
  | .headers id _ _ endStream => id = streamId && endStream
  | .data id _ endStream => id = streamId && endStream
  | .resetStream _ _ => false

/-- The final blocks of HEADERS on a stream. -/
def finals (streamId : ℕ) (frames : List SentFrame) : ℕ := frames.countP (·.isFinal streamId)

/-- The ends of a stream. -/
def endings (streamId : ℕ) (frames : List SentFrame) : ℕ := frames.countP (·.ends streamId)

/-- Every stream gets one response at most. -/
def AnsweredOnce (frames : List SentFrame) : Prop :=
  ∀ streamId, finals streamId frames ≤ 1 ∧ endings streamId frames ≤ 1

/-! ## Frames and halves -/

/-- As many final blocks of HEADERS as a half allows for. -/
def Half.finalBound : Half → ℕ
  | .fresh => 0
  | .started | .ended => 1

/-- As many ends as a half allows for. -/
def Half.endingBound : Half → ℕ
  | .fresh | .started => 0
  | .ended => 1

/-- The frames of every stream are within what its half allows for. -/
def Within (half : ℕ → Half) (frames : List SentFrame) : Prop :=
  ∀ streamId, finals streamId frames ≤ (half streamId).finalBound ∧
    endings streamId frames ≤ (half streamId).endingBound

variable {half after : ℕ → Half} {frames : List SentFrame} {frame : SentFrame} {streamId : ℕ}

@[simp]
theorem halfOf_append (frames : List SentFrame) (frame : SentFrame) (streamId : ℕ) :
    halfOf (frames ++ [frame]) streamId = (halfOf frames streamId).after streamId frame := by
  rw [halfOf, List.foldl_append]
  rfl

/-- Nothing has been sent. -/
theorem within_nil (half : ℕ → Half) : Within half [] := by
  intro streamId
  simp [finals, endings]

/-- What a half allows for is a response at most. -/
theorem Within.answeredOnce (hwithin : Within half frames) : AnsweredOnce frames := by
  intro streamId
  obtain ⟨hfinals, hendings⟩ := hwithin streamId
  cases hhalf : half streamId with
  | fresh | started | ended =>
      rw [hhalf] at hfinals hendings
      simp only [Half.finalBound, Half.endingBound] at hfinals hendings
      omega

/-- Where nothing is sent, halves may be ended. -/
theorem Within.mono (hwithin : Within half frames)
    (hafter : ∀ streamId, after streamId = half streamId ∨ after streamId = .ended) :
    Within after frames := by
  intro streamId
  rcases hafter streamId with hsame | hended
  · rw [hsame]
    exact hwithin streamId
  · rw [hended]
    exact hwithin.answeredOnce streamId

/-- A frame may be sent if it moves the half of its stream on far enough. -/
theorem Within.push (hwithin : Within half frames) (hothers : ∀ id, id ≠ streamId →
      after id = half id ∧ finals id [frame] = 0 ∧ endings id [frame] = 0)
    (hfinal : (half streamId).finalBound + finals streamId [frame] ≤ (after streamId).finalBound)
    (hending : (half streamId).endingBound + endings streamId [frame] ≤
      (after streamId).endingBound) : Within after (frames ++ [frame]) := by
  intro id
  obtain ⟨hfinals, hendings⟩ := hwithin id
  rw [finals, endings, List.countP_append, List.countP_append, ← finals, ← endings, ← finals,
    ← endings]
  by_cases hid : id = streamId
  case neg =>
    obtain ⟨hhalf, hnoFinal, hnoEnding⟩ := hothers id hid
    rw [hhalf, hnoFinal, hnoEnding]
    exact ⟨hfinals, hendings⟩
  case pos =>
    subst hid
    omega

/-- A block of HEADERS moves the half on, if only a fresh stream gets a final one. -/
theorem Within.headers (hwithin : Within half frames) {status : ℕ} {headers : List Header}
    {endStream : Bool} (hopen : endStream = true → half streamId ≠ .ended)
    (hfresh : isInformational status = false → half streamId = .fresh)
    (hothers : ∀ id, id ≠ streamId → after id = half id)
    (hafter : after streamId = (half streamId).afterHeaders status endStream) :
    Within after (frames ++ [.headers streamId status headers endStream]) := by
  have hframe : ∀ id, id ≠ streamId → after id = half id ∧
      finals id [.headers streamId status headers endStream] = 0 ∧
        endings id [.headers streamId status headers endStream] = 0 := by
    intro id hid
    exact ⟨hothers id hid, by simp [finals, SentFrame.isFinal, Ne.symm hid],
      by simp [endings, SentFrame.ends, Ne.symm hid]⟩
  cases hinformational : isInformational status with
  | false =>
      apply hwithin.push hframe <;> rw [hafter, hfresh hinformational] <;> cases endStream <;>
        simp [finals, endings, SentFrame.isFinal, SentFrame.ends, hinformational,
          Half.finalBound, Half.endingBound, Half.afterHeaders]
  | true =>
      cases endStream with
      | false =>
          apply hwithin.push hframe <;> rw [hafter] <;>
            simp [finals, endings, SentFrame.isFinal, SentFrame.ends, hinformational,
              Half.afterHeaders]
      | true =>
          cases hhalf : half streamId with
          | ended => exact absurd hhalf (hopen rfl)
          | fresh | started =>
              apply hwithin.push hframe <;> rw [hafter, hhalf] <;>
                simp [finals, endings, SentFrame.isFinal, SentFrame.ends, hinformational,
                  Half.finalBound, Half.endingBound, Half.afterHeaders]

/-- So does DATA. -/
theorem Within.data (hwithin : Within half frames) {data : Bytes} {endStream : Bool}
    (hopen : half streamId ≠ .ended) (hothers : ∀ id, id ≠ streamId → after id = half id)
    (hafter : after streamId = (half streamId).afterData endStream) :
    Within after (frames ++ [.data streamId data endStream]) := by
  have hframe : ∀ id, id ≠ streamId → after id = half id ∧
      finals id [.data streamId data endStream] = 0 ∧
        endings id [.data streamId data endStream] = 0 := by
    intro id hid
    exact ⟨hothers id hid, by simp [finals, SentFrame.isFinal],
      by simp [endings, SentFrame.ends, Ne.symm hid]⟩
  cases hhalf : half streamId with
  | ended => exact absurd hhalf hopen
  | fresh | started =>
      apply hwithin.push hframe <;> rw [hafter, hhalf] <;> cases endStream <;>
        simp [finals, endings, SentFrame.isFinal, SentFrame.ends, Half.finalBound,
          Half.endingBound, Half.afterData]

/-- A frame of another stream moves nothing. -/
theorem Half.after_of_ne (half : Half) (hne : frame.streamId ≠ streamId) :
    half.after streamId frame = half := by
  cases frame with
  | headers | data | resetStream => exact if_neg hne

/-- A reset is no part of a response. -/
theorem Within.reset (hwithin : Within half frames) (errorCode : ℕ)
    (hafter : ∀ id, after id = half id ∨ after id = .ended) :
    Within after (frames ++ [.resetStream streamId errorCode]) := by
  intro id
  simpa [finals, endings, SentFrame.isFinal, SentFrame.ends] using hwithin.mono hafter id

end Pounce
