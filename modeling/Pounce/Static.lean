/-
# Byte ranges of static files

The single-range response of the static file handler. The handler sends the
range itself: in pieces read from the file, or, where the connection offers it
and the range is large, as a file region the protocol transfers. Either way the
body is the range that Content-Range names.
-/

import Pounce.Asgi.Bridge

namespace Pounce.Static

open Pounce.Math Pounce.Math.Bytes Pounce.Asgi

/-- A resolved static file and its content, which does not change while it is
served. -/
structure StaticFile where
  content : Bytes
  mimeType : Bytes
  etag : Bytes
  lastModified : Bytes
  /-- The encoding of a precompressed variant. -/
  encoding : Option Bytes := none
  cacheControl : Bytes := ascii "public, max-age=3600"
  vary : Bool := false
  deriving DecidableEq, Repr

/-- The size of a file. -/
def StaticFile.size (file : StaticFile) : ℕ := file.content.length

/-- A satisfiable byte range: its first and last positions, inside the file. -/
structure ByteRange (size : ℕ) where
  start : ℕ
  stop : ℕ
  start_le_stop : start ≤ stop
  stop_lt_size : stop < size

/-- The number of bytes of a range. -/
def ByteRange.count {size : ℕ} (range : ByteRange size) : ℕ := range.stop - range.start + 1

/-- The bytes a range names. -/
def StaticFile.named (file : StaticFile) (range : ByteRange file.size) : Bytes :=
  (file.content.drop range.start).take range.count

/-- Regions from this size on are sent as regions. -/
def sendfileMinSize : ℕ := 16 * 1024

/-- Files are read in pieces of this size. -/
def chunkSize : ℕ := 65536

/-- Send `remaining` bytes of what is left of a file, piece by piece. -/
def sendChunks (left : Bytes) (remaining : ℕ) : List SendMessage :=
  let chunk := left.take (min chunkSize remaining)
  if chunk = [] then []
  else
    .responseBody chunk (remaining > chunk.length) ::
      sendChunks (left.drop chunk.length) (remaining - chunk.length)
termination_by left.length
decreasing_by
  rename_i hchunk
  have hpos : 0 < (left.take (min chunkSize remaining)).length := List.length_pos_iff.mpr hchunk
  rw [List.length_drop]
  rw [List.length_take] at hpos ⊢
  omega

/-- Send `count` bytes of a file from `offset` on. -/
def sendFileBody (content : Bytes) (offset count : ℕ) (sendfileEnabled : Bool) :
    List SendMessage :=
  if sendfileEnabled ∧ sendfileMinSize ≤ count then
    [.responseSendfile content offset count false]
  else sendChunks (content.drop offset) count

/-- The headers of a single-range response. -/
def rangeHeaders (file : StaticFile) (range : ByteRange file.size) : List Header :=
  [(ascii "content-type", file.mimeType),
    (ascii "content-length", ofNat range.count),
    (ascii "content-range", ascii "bytes " ++ ofNat range.start ++ ascii "-" ++
      ofNat range.stop ++ ascii "/" ++ ofNat file.size),
    (ascii "accept-ranges", ascii "bytes"),
    (ascii "etag", file.etag),
    (ascii "last-modified", file.lastModified),
    (ascii "cache-control", file.cacheControl)] ++
  optionalHeader (ascii "content-encoding") file.encoding ++
  if file.vary then [(ascii "vary", ascii "accept-encoding")] else []

/-- A single-range response. -/
def send206Single (file : StaticFile) (range : ByteRange file.size) (sendfileEnabled : Bool) :
    List SendMessage :=
  .responseStart 206 (rangeHeaders file range) ::
    sendFileBody file.content range.start range.count sendfileEnabled

/-- The pieces read add up to the bytes asked for, only the last one says it is
the last, and it is the only one when a single read suffices. -/
theorem sendChunks_eq (left : Bytes) (remaining : ℕ) (hpos : 0 < remaining)
    (hle : remaining ≤ left.length) :
    ∃ (chunks : List Bytes) (last : Bytes),
      sendChunks left remaining =
        chunks.map (.responseBody · true) ++ [.responseBody last false] ∧
      chunks.flatten ++ last = left.take remaining ∧
      (chunks = [] ↔ remaining ≤ chunkSize) := by
  induction remaining using Nat.strong_induction_on generalizing left with
  | _ remaining ih =>
      have hlength : (left.take (min chunkSize remaining)).length = min chunkSize remaining := by
        rw [List.length_take]
        omega
      have hchunk : left.take (min chunkSize remaining) ≠ [] := by
        rw [← List.length_pos_iff, hlength, chunkSize]
        omega
      rw [sendChunks]
      simp only [if_neg hchunk, hlength]
      by_cases hlast : remaining ≤ chunkSize
      · refine ⟨[], left.take remaining, ?_, by simp, by simpa using hlast⟩
        rw [Nat.min_eq_right hlast, Nat.sub_self, sendChunks]
        simp
      · have hsize : 0 < chunkSize := by decide
        have hmin : min chunkSize remaining = chunkSize := Nat.min_eq_left (by omega)
        obtain ⟨chunks, last, hsend, hbody, -⟩ := ih (remaining - chunkSize) (by omega)
          (left.drop chunkSize) (by omega) (by rw [List.length_drop]; omega)
        refine ⟨left.take chunkSize :: chunks, last, ?_, ?_, by simpa using hlast⟩
        · rw [hmin, hsend]
          simp
          omega
        · rw [List.flatten_cons, List.append_assoc, hbody, ← List.take_add,
            Nat.add_sub_of_le (by omega)]

/-- A range read in pieces is the range it names. -/
theorem send206Single_chunks (file : StaticFile) (range : ByteRange file.size) :
    ∃ (chunks : List Bytes) (last : Bytes),
      send206Single file range false = .responseStart 206 (rangeHeaders file range) ::
        (chunks.map (.responseBody · true) ++ [.responseBody last false]) ∧
      chunks.flatten ++ last = file.named range ∧ (chunks = [] ↔ range.count ≤ chunkSize) := by
  have hle : range.count ≤ (file.content.drop range.start).length := by
    have hstop : range.stop < file.content.length := range.stop_lt_size
    have hstart := range.start_le_stop
    rw [List.length_drop, ByteRange.count]
    omega
  obtain ⟨chunks, last, hsend, hbody, hsingle⟩ :=
    sendChunks_eq (file.content.drop range.start) range.count (Nat.succ_pos _) hle
  refine ⟨chunks, last, ?_, hbody, hsingle⟩
  simp [send206Single, sendFileBody, hsend]

end Pounce.Static
