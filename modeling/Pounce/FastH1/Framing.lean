/-
# Request framing

RFC 9112 reads the head of a request line by line, and takes as a header name
the bytes before the first colon of its line. `RfcFraming` is the framing that
reading prescribes for what the fast parser returns. The parser cuts some lines
elsewhere and reads lengths with the lenient integer reader, so it does not
always follow it. `parseRequest_framing_iff` says exactly when it does: every
Content-Length value must be a plain decimal numeral, and a request that carries
a Transfer-Encoding must carry one the parser recognises as chunked.

The comparison goes line by line. A line whose first colon is where the parser
cuts it is read alike by both, up to leading white space of the value, and a
line the parser reads as one of the framing headers is always of that kind.
-/

import Mathlib.Data.List.Forall2
import Pounce.FastH1

namespace Pounce.FastH1

open Pounce.Math Pounce.Math.Bytes

/-! ## The RFC reading of a head -/

/-- A header line cut at its first colon, its name lowered. -/
def rfcField (line : Bytes) : Option Header :=
  (findSlice (ascii ":") line).map fun colon => (lower (line.take colon), line.drop (colon + 1))

/-- The header fields of a head. -/
def rfcFields (head : Bytes) : List Header := (lines head).tail.filterMap rfcField

/-- The values of the Content-Length lines. -/
def contentLengths (head : Bytes) : List Bytes :=
  valuesOf (ascii "content-length") (rfcFields head)

/-- The values of the Transfer-Encoding lines. -/
def transferEncodings (head : Bytes) : List Bytes :=
  valuesOf (ascii "transfer-encoding") (rfcFields head)

/-- The framing RFC 9112 gives a request at the front of `data`. -/
structure RfcFraming (data : Bytes) (parsed : Parsed) : Prop where
  /-- There is at most one Content-Length line. -/
  single : (contentLengths (headOf data)).length ≤ 1
  /-- Its value is a decimal numeral, and that many bytes after the blank line
  are the body. -/
  declared : ∀ value ∈ contentLengths (headOf data), ∃ size,
    decimal? (trimOws value) = some size ∧ parsed.body.length = size ∧
      parsed.body = (data.drop ((headOf data).length + 4)).take size
  /-- Transfer-Encoding excludes Content-Length and leaves the body to the
  chunked decoder. -/
  encoded : transferEncodings (headOf data) ≠ [] →
    contentLengths (headOf data) = [] ∧ parsed.chunked = true
  /-- Without either header there is no body. -/
  bodyless : contentLengths (headOf data) = [] → transferEncodings (headOf data) = [] →
    parsed.body = []
  /-- The request ends with its body. -/
  consumed : parsed.consumed = (headOf data).length + 4 + parsed.body.length

/-- The first colon of the line is where the parser cuts it: the line has no
colon-space, or its first colon is one. -/
def Delimited (line : Bytes) : Prop :=
  findSlice (ascii ": ") line = none ∨
    findSlice (ascii ": ") line = findSlice (ascii ":") line

instance (line : Bytes) : Decidable (Delimited line) :=
  inferInstanceAs (Decidable (_ ∨ _))

/-- A Transfer-Encoding line the parser cuts at its first colon and whose value
mentions the chunked coding. -/
def ChunkedLine (line : Bytes) : Prop :=
  Delimited line ∧ ∃ value, rfcField line = some (ascii "transfer-encoding", value) ∧
    contains (ascii "chunked") (lower value)

/-- The head spells its framing headers plainly. -/
structure PlainFraming (head : Bytes) : Prop where
  lengths : ∀ value ∈ contentLengths head, (decimal? (trimOws value)).isSome
  encodings : transferEncodings head ≠ [] → ∃ line ∈ (lines head).tail, ChunkedLine line

/-! ## Two readings of one line -/

/-- The colon of a colon-space is a colon: the first colon is no later. -/
theorem findSlice_colon_of_colonSpace {line : Bytes} {index : ℕ}
    (hfound : findSlice (ascii ": ") line = some index) :
    ∃ first ≤ index, findSlice (ascii ":") line = some first := by
  obtain ⟨hle, hat, -⟩ := findSlice_eq_some.mp hfound
  have hcolon : ascii ":" <+: line.drop index :=
    (List.prefix_append (ascii ":") [32]).trans hat
  cases hfirst : findSlice (ascii ":") line with
  | none =>
      have hinfix : ascii ":" <:+: line := hcolon.isInfix.trans (List.drop_suffix _ _).isInfix
      exact absurd hinfix (findSlice_eq_none.mp hfirst)
  | some first =>
      refine ⟨first, ?_, rfl⟩
      by_contra hlate
      exact (findSlice_eq_some.mp hfirst).2.2 index (by omega) hcolon

/-- On a line cut at its first colon the parser reads the same name, and the
same value without some leading white space. -/
theorem parsedField_of_delimited {line name value : Bytes} (hcut : Delimited line)
    (hrfc : rfcField line = some (name, value)) :
    ∃ before read, parsedField line = some (name, read) ∧ value = before ++ read ∧
      ∀ byte ∈ before, isSpace byte := by
  simp only [rfcField, Option.map_eq_some_iff, Prod.mk.injEq] at hrfc
  obtain ⟨colon, hcolon, rfl, rfl⟩ := hrfc
  rcases hcut with hnone | hsame
  · refine ⟨(line.drop (colon + 1)).takeWhile isSpace, lstrip (line.drop (colon + 1)), ?_, ?_, ?_⟩
    · simp [parsedField, splitField, hnone, hcolon]
    · rw [lstrip, List.takeWhile_append_dropWhile]
    · exact fun byte hmem => List.mem_takeWhile_imp hmem
  · rw [hcolon] at hsame
    refine ⟨[32], line.drop (colon + 2), by simp [parsedField, splitField, hsame], ?_, ?_⟩
    · obtain ⟨hle, ⟨rest, hrest⟩, -⟩ := findSlice_eq_some.mp hsame
      rw [show colon + 2 = colon + 1 + 1 from rfl, ← List.drop_drop (i := 1) (j := colon + 1),
        ← List.drop_drop (i := 1) (j := colon), ← hrest]
      rfl
    · intro byte hmem
      rw [List.mem_singleton.mp hmem]
      decide

/-- A line the parser gives a name without a colon was cut at its first colon,
so the RFC reading gives it that name too. -/
theorem delimited_of_parsedField {line name read : Bytes} (hname : 58 ∉ name)
    (hparsed : parsedField line = some (name, read)) :
    Delimited line ∧ ∃ value, rfcField line = some (name, value) := by
  simp only [parsedField, splitField, Option.map_eq_some_iff, Prod.mk.injEq] at hparsed
  obtain ⟨⟨raw, rest⟩, hsplit, rfl, rfl⟩ := hparsed
  rw [mem_lower_iff (show (58 : UInt8) < 65 by decide)] at hname
  split at hsplit
  case h_1 index hindex =>
    obtain ⟨first, hle, hfirst⟩ := findSlice_colon_of_colonSpace hindex
    cases hsplit
    have hsame : first = index := by
      by_contra hne
      have hat : (line.take index)[first]? = some 58 := by
        rw [List.getElem?_take_of_lt (by omega)]
        exact (findSlice_singleton.mp hfirst).2
      exact hname (List.mem_of_getElem? hat)
    subst hsame
    refine ⟨Or.inr (hindex.trans hfirst.symm), line.drop (first + 1), ?_⟩
    simp [rfcField, hfirst]
  case h_2 hnone =>
    refine ⟨Or.inl hnone, ?_⟩
    split at hsplit
    case h_1 colon hcolon =>
      cases hsplit
      exact ⟨line.drop (colon + 1), by simp [rfcField, hcolon]⟩
    case h_2 => cases hsplit

/-- A decimal value contains no further colon, so its line was cut at the first. -/
theorem delimited_of_decimal {line name value : Bytes} {size : ℕ}
    (hrfc : rfcField line = some (name, value)) (hdecimal : decimal? (trimOws value) = some size) :
    Delimited line := by
  simp only [rfcField, Option.map_eq_some_iff, Prod.mk.injEq] at hrfc
  obtain ⟨colon, hcolon, -, rfl⟩ := hrfc
  cases hspace : findSlice (ascii ": ") line with
  | none => exact Or.inl hspace
  | some index =>
      refine Or.inr ?_
      obtain ⟨first, hle, hfirst⟩ := findSlice_colon_of_colonSpace hspace
      obtain rfl : first = colon := Option.some.inj (hfirst.symm.trans hcolon)
      rw [hspace, hcolon]
      by_contra hne
      have hlate : first < index := by
        refine lt_of_le_of_ne hle fun heq => hne (congrArg some heq.symm)
      have hmem : 58 ∈ line.drop (first + 1) := by
        have hat := (findSlice_eq_some.mp hspace).2.1
        have hcolonAt : 58 ∈ line.drop index := hat.subset (by decide)
        rw [show index = first + 1 + (index - (first + 1)) by omega, ← List.drop_drop] at hcolonAt
        exact List.mem_of_mem_drop hcolonAt
      obtain ⟨before, after, hvalue, hbefore, hafter⟩ :=
        stripWhile_split isOws (line.drop (first + 1))
      obtain ⟨-, hdigits, -⟩ := decimal?_eq_some.mp hdecimal
      rw [hvalue, List.mem_append, List.mem_append] at hmem
      rcases hmem with hmem | hmem | hmem
      · exact absurd (hbefore _ hmem) (by decide)
      · exact absurd (hdigits _ hmem) (by decide)
      · exact absurd (hafter _ hmem) (by decide)

/-! ## Two readings of a head -/

/-- `value` is `read` behind some white space: the two readings of one value. -/
def Padded (value read : Bytes) : Prop :=
  ∃ before, value = before ++ read ∧ ∀ byte ∈ before, isSpace byte

/-- Padding does not change the number a decimal value reads as. -/
theorem Padded.readInt_eq {value read : Bytes} (hpadded : Padded value read) {size : ℕ}
    (hdecimal : decimal? (trimOws value) = some size) {number : ℤ}
    (hread : readInt read = some number) : number = size := by
  obtain ⟨before, rfl, hbefore⟩ := hpadded
  have hsame : readInt (before ++ read) = readInt read := by
    rw [readInt, readInt, strip, strip, stripWhile_append_left hbefore]
  obtain ⟨left, right, hvalue, hleft, hright⟩ := stripWhile_split isOws (before ++ read)
  rw [← hsame, hvalue] at hread
  exact readInt_padded (fun byte hmem => isSpace_of_isOws (hleft byte hmem))
    (fun byte hmem => isSpace_of_isOws (hright byte hmem)) hdecimal hread

/-- Padding does not change whether a value mentions the chunked coding. -/
theorem Padded.contains_chunked {value read : Bytes} (hpadded : Padded value read) :
    contains (ascii "chunked") (lower value) = contains (ascii "chunked") (lower read) := by
  obtain ⟨before, rfl, hbefore⟩ := hpadded
  have hspace : ∀ byte, isSpace byte → lowerByte byte ≠ 99 := by
    intro byte hpad hlower
    simp only [isSpace, Bool.or_eq_true, Bool.and_eq_true, decide_eq_true_eq] at hpad
    rcases hpad with rfl | ⟨hlow, hhigh⟩
    · exact absurd hlower (by decide)
    · simp only [lowerByte, UInt8.le_iff_toNat_le, ← UInt8.toNat_inj, UInt8.reduceToNat]
        at hlow hhigh hlower
      rw [if_neg (by omega)] at hlower
      omega
  have hfirst : (99 : UInt8) ∉ lower before := by
    intro hmem
    obtain ⟨byte, hbyte, hlower⟩ := List.mem_map.mp hmem
    exact hspace byte (hbefore byte hbyte) hlower
  have hinfix : ascii "chunked" <:+: lower (before ++ read) ↔
      ascii "chunked" <:+: lower read := by
    rw [lower, List.map_append]
    exact infix_padded hfirst
  rw [Bool.eq_iff_iff]
  simp only [contains, Option.isSome_iff_ne_none, ne_eq, findSlice_eq_none, not_not, hinfix]

/-- The fields of one name, line by line: where every such line is cut at its
first colon, the two readings find the same values up to padding. -/
theorem forall₂_valuesOf {name : Bytes} (hname : 58 ∉ name) (block : List Bytes)
    (hcut : ∀ line ∈ block, ∀ value, rfcField line = some (name, value) → Delimited line) :
    List.Forall₂ Padded (valuesOf name (block.filterMap rfcField))
      (valuesOf name (block.filterMap parsedField)) := by
  induction block with
  | nil => exact List.Forall₂.nil
  | cons line block ih =>
      have hrest := ih fun other hmem => hcut other (List.mem_cons_of_mem _ hmem)
      have hhere : List.Forall₂ Padded (valuesOf name (rfcField line).toList)
          (valuesOf name (parsedField line).toList) := by
        by_cases hrfc : ∃ value, rfcField line = some (name, value)
        · obtain ⟨value, hvalue⟩ := hrfc
          obtain ⟨before, read, hread, hpad, hspace⟩ :=
            parsedField_of_delimited (hcut line (List.mem_cons_self ..) value hvalue) hvalue
          simpa [hvalue, hread] using ⟨before, hpad, hspace⟩
        · have hparsed : ¬ ∃ read, parsedField line = some (name, read) := fun ⟨read, hread⟩ =>
            hrfc (delimited_of_parsedField hname hread).2
          have hnone : ∀ field : Option Header, (¬ ∃ value, field = some (name, value)) →
              valuesOf name field.toList = [] := by
            rintro (_ | ⟨other, value⟩) hother
            · rfl
            · have hne : other ≠ name := fun heq => hother ⟨value, by rw [heq]⟩
              simp [hne]
          rw [hnone _ hrfc, hnone _ hparsed]
          exact List.Forall₂.nil
      have hcons : ∀ field : Bytes → Option Header,
          (line :: block).filterMap field = (field line).toList ++ block.filterMap field := by
        intro field
        cases hfield : field line <;> simp [hfield]
      rw [hcons, hcons, valuesOf_append, valuesOf_append]
      exact List.rel_append hhere hrest

/-- A chunked line is one the parser's scan counts as chunked. -/
theorem chunkedLine_iff {line : Bytes} :
    ChunkedLine line ↔ ∃ read, parsedField line = some (ascii "transfer-encoding", read) ∧
      contains (ascii "chunked") (lower read) := by
  constructor
  · rintro ⟨hcut, value, hrfc, hchunked⟩
    obtain ⟨before, read, hread, hpad, hspace⟩ := parsedField_of_delimited hcut hrfc
    refine ⟨read, hread, ?_⟩
    rwa [← Padded.contains_chunked ⟨before, hpad, hspace⟩]
  · rintro ⟨read, hread, hchunked⟩
    obtain ⟨hcut, value, hrfc⟩ := delimited_of_parsedField (by decide) hread
    obtain ⟨before, again, hagain, hpad, hspace⟩ := parsedField_of_delimited hcut hrfc
    obtain rfl : read = again := by simpa [hread] using hagain
    refine ⟨hcut, value, hrfc, ?_⟩
    rwa [Padded.contains_chunked ⟨before, hpad, hspace⟩]

/-! ## Framing -/

/-- A chunked scan has seen a Transfer-Encoding field. -/
theorem ScanInv.hasTransferEncoding_of_chunked {fields : List Header} {scan : HeaderScan}
    (hinv : ScanInv fields scan) (hchunked : scan.chunked) : scan.hasTransferEncoding := by
  obtain ⟨value, hmem, -⟩ := hinv.chunked.mp hchunked
  exact hinv.hasTransferEncoding.mpr (List.ne_nil_of_mem hmem)

/-- In a plain head the scan and the RFC reading agree on Content-Length. -/
theorem ScanInv.contentLengths {head : Bytes} {scan : HeaderScan}
    (hinv : ScanInv ((lines head).tail.filterMap parsedField) scan) (hplain : PlainFraming head) :
    (scan.contentLength = none ∧ contentLengths head = []) ∨
      ∃ size value, scan.contentLength = some size ∧ contentLengths head = [value] ∧
        decimal? (trimOws value) = some size := by
  have hpairs : List.Forall₂ Padded (FastH1.contentLengths head)
      (valuesOf (ascii "content-length") ((lines head).tail.filterMap parsedField)) := by
    refine forall₂_valuesOf (by decide) _ fun line hline value hrfc => ?_
    have hmem : value ∈ FastH1.contentLengths head :=
      mem_valuesOf.mpr (List.mem_filterMap.mpr ⟨line, hline, hrfc⟩)
    obtain ⟨size, hsize⟩ := Option.isSome_iff_exists.mp (hplain.lengths value hmem)
    exact delimited_of_decimal hrfc hsize
  cases hlength : scan.contentLength with
  | none =>
      rw [hinv.contentLength_none hlength, List.forall₂_nil_right_iff] at hpairs
      exact Or.inl ⟨rfl, hpairs⟩
  | some number =>
      obtain ⟨read, hread, hnumber⟩ := hinv.contentLength_some number hlength
      rw [hread, List.forall₂_cons_right_iff] at hpairs
      obtain ⟨value, rest, hpadded, hnil, hvalues⟩ := hpairs
      rw [List.forall₂_nil_right_iff] at hnil
      subst hnil
      have hmem : value ∈ FastH1.contentLengths head := by
        rw [hvalues]
        exact List.mem_singleton_self value
      obtain ⟨size, hsize⟩ := Option.isSome_iff_exists.mp (hplain.lengths value hmem)
      have hsame : (number : ℤ) = size := hpadded.readInt_eq hsize hnumber
      obtain rfl : number = size := by exact_mod_cast hsame
      exact Or.inr ⟨number, value, rfl, hvalues, hsize⟩

/-- An accepted request is framed as the RFC frames it exactly when its head
spells its framing headers plainly. -/
theorem parseRequest_framing_iff {buf : Bytes} {length maxHeaders maxHeaderSize : ℕ}
    {parsed : Parsed} (hlength : length ≤ buf.length)
    (hparse : parseRequest buf length maxHeaders maxHeaderSize = .ok (some parsed)) :
    RfcFraming (buf.take length) parsed ↔ PlainFraming (headOf (buf.take length)) := by
  obtain ⟨headerEnd, request, scan, hend, -, hhead, hfits, rfl⟩ := parseRequest_some.mp hparse
  obtain ⟨hheadOf, hheadLength⟩ := headOf_eq hend
  rw [← hheadOf] at hhead
  obtain ⟨hinv, hconflict, -⟩ := parseHead_ok hhead
  have hdata : (buf.take length).length = length := by
    rw [List.length_take]
    omega
  constructor
  · intro hrfc
    refine ⟨fun value hmem => ?_, fun hencoded => ?_⟩
    · obtain ⟨size, hsize, -⟩ := hrfc.declared value hmem
      rw [hsize, Option.isSome_some]
    · obtain ⟨value, hmem, hchunked⟩ := hinv.chunked.mp (hrfc.encoded hencoded).2
      obtain ⟨line, hline, hparsed⟩ := List.mem_filterMap.mp (mem_valuesOf.mp hmem)
      exact ⟨line, hline, chunkedLine_iff.mpr ⟨value, hparsed, hchunked⟩⟩
  · intro hplain
    have hbody : (((buf.take length).drop (headerEnd + 4)).take (bodyLength scan)).length =
        bodyLength scan := by
      rw [List.length_take, List.length_drop, hdata]
      omega
    have hchunkedOf : transferEncodings (headOf (buf.take length)) ≠ [] → scan.chunked = true := by
      intro hencoded
      obtain ⟨line, hline, hchunkedLine⟩ := hplain.encodings hencoded
      obtain ⟨read, hread, hchunked⟩ := chunkedLine_iff.mp hchunkedLine
      exact hinv.chunked.mpr
        ⟨read, mem_valuesOf.mpr (List.mem_filterMap.mpr ⟨line, hline, hread⟩), hchunked⟩
    rcases hinv.contentLengths hplain with ⟨hnone, hnil⟩ | ⟨size, value, hsome, hvalues, hdecimal⟩
    · refine ⟨by simp [hnil], by simp [hnil], fun hencoded => ⟨hnil, hchunkedOf hencoded⟩, ?_, ?_⟩
      · intro _ _
        simp [bodyLength, hnone]
      · rw [hbody, hheadLength]
    · have hnotEncoded : ¬ scan.hasTransferEncoding = true := fun hencoded =>
        hconflict ⟨by rw [hsome, Option.isSome_some], hencoded⟩
      have hnotChunked : ¬ scan.chunked = true := fun hchunked =>
        hnotEncoded (hinv.hasTransferEncoding_of_chunked hchunked)
      have hsize : bodyLength scan = size := by
        rw [bodyLength, if_neg hnotChunked, hsome, Option.getD_some]
      refine ⟨by simp [hvalues], ?_, ?_, by simp [hvalues], by rw [hbody, hheadLength]⟩
      · intro other hother
        rw [hvalues, List.mem_singleton] at hother
        subst hother
        exact ⟨size, hdecimal, by rw [hbody, hsize], by rw [hheadLength, hsize]⟩
      · exact fun hencoded => absurd (hchunkedOf hencoded) hnotChunked

/-- A two-byte body declared as `2` is framed as the RFC frames it. -/
theorem parseRequest_framing_iff_declared :
    RfcFraming ((ascii "POST / HTTP/1.1\r\nContent-Length: 2\r\n\r\nok").take 40)
        { request := { method := ascii "POST", target := ascii "/"
                       headers := [(ascii "content-length", ascii "2")], httpVersion := .http11 }
          body := ascii "ok", consumed := 40, chunked := false } ↔
      PlainFraming (headOf ((ascii "POST / HTTP/1.1\r\nContent-Length: 2\r\n\r\nok").take 40)) :=
  @parseRequest_framing_iff _ 40 100 16384 _ (by decide) (by decide)

/-- The parser accepts a Transfer-Encoding without the chunked coding and gives
the request an empty body. -/
theorem parseRequest_gzip_framing :
    ¬ ∀ (buf : Bytes) (maxHeaders maxHeaderSize : ℕ) (parsed : Parsed),
      parseRequest buf buf.length maxHeaders maxHeaderSize = .ok (some parsed) →
        RfcFraming buf parsed := by
  intro hclaim
  have hrfc := hclaim (ascii "POST / HTTP/1.1\r\nTransfer-Encoding: gzip\r\n\r\nhello") 100 16384
    { request := { method := ascii "POST", target := ascii "/"
                   headers := [(ascii "transfer-encoding", ascii "gzip")], httpVersion := .http11 }
      body := [], consumed := 44, chunked := false } (by decide)
  exact absurd (hrfc.encoded (by decide)).2 (by decide)

end Pounce.FastH1
