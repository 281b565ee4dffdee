/-
# What a client decodes

A response as one of the two has sent it so far is a head and the pieces of a body, marked as
h11 marks its end for what it knows of the client. `Telling` connects it with the messages of
the application: the start it was opened with and the data that were sent since. Whichever of
the two sends it, a client decodes the same status, the same fields and the same data;
only the length it is told and the end it sees depend on the marking (`Telling.decode`).
-/

import Pounce.AsyncPool.Heads

namespace Pounce.AsyncPool

open Pounce.Math Pounce.Math.Bytes Pounce.Math.Message Pounce.Asgi

/-! ## Parts -/

/-- A response as it has been sent so far. -/
structure Part where
  fields : List Header
  delimiting : Delimiting
  pieces : List Bytes := []

namespace Part

variable (part : Part)

/-- The elements of the body. -/
def body (ended : Bool) : List Element :=
  if part.delimiting = .chunked then chunkElements part.pieces ended else rawElements part.pieces

/-- The bytes of head and body. -/
def bytes (status : ℕ) (ended : Bool) : Bytes :=
  render (.head status part.fields) ++ (part.body ended).flatMap render

/-- A part with one more piece. -/
def extend (data : Bytes) : Part :=
  { part with
    pieces := part.pieces ++ if data = [] then [] else [data]
    delimiting := part.delimiting.after data }

/-- All pieces, one after the other. -/
theorem flatten_extend (data : Bytes) :
    (part.extend data).pieces.flatten = part.pieces.flatten ++ data := by
  simp only [extend, List.flatten_append]
  split
  case isTrue hdata => simp [hdata]
  case isFalse => simp

end Part

/-- What h11 writes for a piece that it takes. -/
theorem sendAll_takes (rules : HeaderRules) (part : Part) (status : ℕ) {data : Bytes}
    {more : Bool} (htakes : part.delimiting.takes data more = true) :
    ∃ elements,
      (ServerSide.sendBody part.delimiting).sendAll rules (bodyEvents data more) =
        (some elements, if more then .sendBody (part.extend data).delimiting else .done) ∧
      part.bytes status false ++ elements.flatMap render =
        (part.extend data).bytes status (!more) := by
  have hbytes : ∀ elements, part.body false ++ elements = (part.extend data).body (!more) →
      part.bytes status false ++ elements.flatMap render =
        (part.extend data).bytes status (!more) := by
    intro elements hbody
    rw [Part.bytes, Part.bytes, List.append_assoc, ← List.flatMap_append, hbody]
    rfl
  cases hdelimiting : part.delimiting with
  | length left =>
      rw [hdelimiting] at htakes
      have hfits : data.length ≤ left ∧ (more ∨ left = data.length) := by
        simpa [Delimiting.takes] using htakes
      have hsend := (sendAll_length rules left data more).trans (if_pos hfits)
      refine ⟨if data = [] then [] else [.raw data], hsend.trans ?_, hbytes _ ?_⟩
      · simp only [Part.extend, hdelimiting, Delimiting.after]
      · simp only [Part.body, Part.extend, hdelimiting, Delimiting.after, reduceCtorEq, if_false,
          rawElements, List.map_append]
        split <;> rfl
  | chunked =>
      refine ⟨(if data = [] then [] else [.chunk data]) ++ if more then [] else [.lastChunk],
        (sendAll_chunked rules data more).trans ?_, hbytes _ ?_⟩
      · simp only [Part.extend, hdelimiting, Delimiting.after]
      · simp only [Part.body, Part.extend, hdelimiting, Delimiting.after, if_true, chunkElements,
          List.map_append, List.append_assoc]
        by_cases hdata : data = [] <;> cases more <;> simp [hdata]
  | close =>
      refine ⟨if data = [] then [] else [.raw data],
        (sendAll_close rules data more).trans ?_, hbytes _ ?_⟩
      · simp only [Part.extend, hdelimiting, Delimiting.after]
      · simp only [Part.body, Part.extend, hdelimiting, Delimiting.after, reduceCtorEq, if_false,
          rawElements, List.map_append]
        split <;> rfl

/-- A piece that is not taken is refused. -/
theorem sendAll_refuses (rules : HeaderRules) {delimiting : Delimiting} {data : Bytes}
    {more : Bool} (htakes : delimiting.takes data more = false) :
    (ServerSide.sendBody delimiting).sendAll rules (bodyEvents data more) = (none, .done) := by
  cases delimiting with
  | length left =>
      have hfits : ¬ (data.length ≤ left ∧ (more ∨ left = data.length)) := by
        intro hfits
        have htaken : (Delimiting.length left).takes data more = true := by
          simpa [Delimiting.takes] using hfits
        rw [htaken] at htakes
        cases htakes
      rw [sendAll_length, if_neg hfits]
  | chunked | close => cases htakes

/-! ## Framing -/

/-- The end of a response is marked as its head announces. -/
inductive Framed (method : Bytes) (status : ℕ) (part : Part) : Prop
  | empty (hbody : bodyless method status = true)
  | chunked (hbody : bodyless method status = false) (hchunks : announcesChunks part.fields)
      (hdelimiting : part.delimiting = .chunked)
  | close (hbody : bodyless method status = false)
      (hplain : announcesChunks part.fields = false)
      (hlength : declaredLength part.fields = none) (hdelimiting : part.delimiting = .close)
  | length (left : ℕ) (hbody : bodyless method status = false)
      (hplain : announcesChunks part.fields = false)
      (hlength : declaredLength part.fields = some (part.pieces.flatten.length + left))
      (hdelimiting : part.delimiting = .length left)

section

variable {method : Bytes} {status : ℕ} {part : Part}

/-- The client reads the pieces of the body, if there is one. -/
theorem Framed.read (hframed : Framed method status part)
    (hpieces : ∀ piece ∈ part.pieces, piece ≠ []) (ended : Bool) :
    readBody method status part.fields ((part.body ended).flatMap render) =
      if bodyless method status then ([], true)
      else (part.pieces.flatten, part.delimiting.complete ended) := by
  cases hframed with
  | empty hbody => rw [readBody_bodyless hbody, if_pos hbody]
  | chunked hbody hchunks hdelimiting =>
      rw [Part.body, if_pos hdelimiting, readBody_chunks hbody hchunks hpieces, hbody,
        if_neg Bool.false_ne_true, hdelimiting]
      rfl
  | close hbody hplain hlength hdelimiting =>
      rw [Part.body, if_neg (by rw [hdelimiting]; exact Delimiting.noConfusion),
        readBody_close hbody hplain hlength, hbody, if_neg Bool.false_ne_true, hdelimiting]
      rfl
  | length left hbody hplain hlength hdelimiting =>
      rw [Part.body, if_neg (by rw [hdelimiting]; exact Delimiting.noConfusion),
        readBody_length hbody hplain hlength (Nat.le_add_right _ left), hbody,
        if_neg Bool.false_ne_true, hdelimiting]
      congr 1
      rw [Delimiting.complete, decide_eq_decide]
      omega

/-- A piece that fits leaves the framing as it is. -/
theorem Framed.extend (hframed : Framed method status part) {data : Bytes}
    (hfits : ∀ left, part.delimiting = .length left → data.length ≤ left) :
    Framed method status (part.extend data) := by
  cases hframed with
  | empty hbody => exact .empty hbody
  | chunked hbody hchunks hdelimiting =>
      exact .chunked hbody hchunks (by simp [Part.extend, hdelimiting, Delimiting.after])
  | close hbody hplain hlength hdelimiting =>
      exact .close hbody hplain hlength (by simp [Part.extend, hdelimiting, Delimiting.after])
  | length left hbody hplain hlength hdelimiting =>
      have hless := hfits left hdelimiting
      have htotal : (part.extend data).pieces.flatten.length + (left - data.length) =
          part.pieces.flatten.length + left := by
        rw [Part.flatten_extend, List.length_append]
        omega
      refine .length (left - data.length) hbody hplain (hlength.trans (congrArg some htotal.symm)) ?_
      simp [Part.extend, hdelimiting, Delimiting.after]

end

/-! ## The head -/

/-- The part a head opens. -/
def openPart (rules : HeaderRules) (peer : Option Peer) (status : ℕ)
    (normalized : List Header) : Part where
  fields := cleanUp rules peer status normalized
  delimiting := bodyFraming (peer.map (·.method)) status (cleanUp rules peer status normalized)

/-- The lengths a client is told: none where the length of a body is unknown. -/
def writtenLengths (rules : HeaderRules) (status : ℕ) (headers : List Header) (encoded : Bool) :
    List Bytes :=
  if status ≠ 204 ∧ status ≠ 304 ∧ announcedLength rules headers encoded = none then []
  else rules.lengths (valuesOf (ascii "content-length") (sanitizeHeaders headers))

section

variable {rules : HeaderRules} {stream : Stream} {status : ℕ} {peer : Option Peer}
variable {headers head normalized : List Header} {encoder : Option Compressor}

/-- Where there are no lengths h11 finds none. -/
theorem lengths_nil (rules : HeaderRules) : rules.lengths [] = [] := by
  have hnormal := rules.normalize_regular [] (by decide)
  exact (rules.normalize_length [] [] hnormal).1.symm

/-- Apart from HEAD and CONNECT the method does not matter. -/
theorem bodyFraming_method {method : Option Bytes} (hmethod : method ≠ some (ascii "HEAD"))
    (hswitch : switchesProtocol method status = false) (headers : List Header) :
    bodyFraming method status headers = bodyFraming none status headers := by
  have hnone : switchesProtocol none status = false := rfl
  rw [bodyFraming, bodyFraming, hswitch, hnone]
  simp only [hmethod, reduceCtorEq]

/-- A response with a body is framed by its fields. -/
theorem bodyFraming_bodied (hstatus : status ≠ 204) (hstatus' : status ≠ 304)
    (headers : List Header) :
    bodyFraming none status headers =
      if valuesOf (ascii "transfer-encoding") headers ≠ [] then .chunked
      else match declaredLength headers with
        | some length => .length length
        | none => .close := by
  have hnone : switchesProtocol none status = false := rfl
  have hbodied : ¬ (status = 204 ∨ status = 304 ∨ (none : Option Bytes) = some (ascii "HEAD") ∨
      false = true) := by simp [hstatus, hstatus']
  rw [bodyFraming, hnone]
  exact if_neg hbodied

/-- Responses of these statuses have no body. -/
theorem bodyFraming_empty (method : Option Bytes) (hstatus : status = 204 ∨ status = 304)
    (headers : List Header) : bodyFraming method status headers = .length 0 := by
  rw [bodyFraming, if_pos (hstatus.elim Or.inl fun hother => Or.inr (Or.inl hother))]

/-- Whether the length is unknown does not depend on what h11 knows of the client. -/
theorem unknownLength_eq (hswitch : switchesProtocol (peer.map (·.method)) status = false)
    (headers : List Header) :
    unknownLength peer status headers = (bodyFraming none status headers).isUnknown := by
  have hplain : bodyFraming (if peer.map (·.method) = some (ascii "HEAD") then some (ascii "GET")
      else peer.map (·.method)) status headers = bodyFraming none status headers := by
    apply bodyFraming_method
    · split
      · decide
      · assumption
    · split
      · rfl
      · exact hswitch
  rw [← hplain]
  rfl

/-- What the normalized head of a response with a body announces. -/
theorem bodyFraming_announced (hbuilt : Built stream headers encoder head)
    (hnormal : rules.normalize head = some normalized) (hstatus : status ≠ 204)
    (hstatus' : status ≠ 304) :
    match announcedLength rules headers encoder.isSome with
    | some length => bodyFraming none status normalized = .length length ∧
        valuesOf (ascii "transfer-encoding") normalized = [] ∧ declaredLength normalized = some length
    | none => (bodyFraming none status normalized).isUnknown = true := by
  have hcoding := rules.normalize_coding _ _ hnormal
  have hlength := (rules.normalize_length _ _ hnormal).1
  rw [bodyFraming_bodied hstatus hstatus']
  by_cases hunknown : encoder.isSome ∨
      valuesOf (ascii "transfer-encoding") (sanitizeHeaders headers) ≠ []
  · have hchunked : valuesOf (ascii "transfer-encoding") normalized ≠ [] := by
      rw [hcoding, if_neg (hbuilt.chunked hunknown)]
      exact List.cons_ne_nil _ _
    rw [announcedLength, if_pos hunknown, if_pos hchunked]
    rfl
  · rw [announcedLength, if_neg hunknown]
    obtain ⟨hplain, hnone⟩ := not_or.mp hunknown
    rw [not_not] at hnone
    have hencoder : encoder = none := by simpa using hplain
    have hlengths : valuesOf (ascii "content-length") normalized =
        rules.lengths (valuesOf (ascii "content-length") (sanitizeHeaders headers)) := by
      rw [hlength, hbuilt.lengths, hencoder]
      rfl
    by_cases hdeclared : valuesOf (ascii "content-length") (sanitizeHeaders headers) = []
    · rw [hdeclared, lengths_nil]
      rw [hdeclared, lengths_nil] at hlengths
      rw [declaredLength, hlengths]
      simp only [List.head?_nil, Option.bind_none]
      split <;> rfl
    · have hplain' : valuesOf (ascii "transfer-encoding") normalized = [] := by
        rw [hcoding, hbuilt.framed hencoder hdeclared hnone, if_pos rfl]
      have hannounced : declaredLength normalized =
          (rules.lengths (valuesOf (ascii "content-length") (sanitizeHeaders headers))).head?.bind
            decimal? := by
        rw [declaredLength, hlengths]
      rw [if_neg (not_not_intro hplain'), ← hannounced]
      cases hvalue : declaredLength normalized with
      | some length => exact ⟨rfl, hplain', rfl⟩
      | none => rfl

/-- The framing fields h11 writes, where it leaves them as they are. -/
theorem valuesOf_cleanUp_known (hknown : unknownLength peer status headers = false) {name : Bytes}
    (hname : name ≠ ascii "connection") :
    valuesOf name (cleanUp rules peer status headers) = valuesOf name headers := by
  rw [valuesOf_cleanUp hname, hknown, if_neg Bool.false_ne_true]

variable (rules) in
/-- The framing fields h11 writes for a body of unknown length. -/
theorem valuesOf_cleanUp_unknown (hunknown : unknownLength peer status headers = true) :
    valuesOf (ascii "content-length") (cleanUp rules peer status headers) = [] ∧
      valuesOf (ascii "transfer-encoding") (cleanUp rules peer status headers) =
        if peer.any (·.http11) then [ascii "chunked"] else [] := by
  rw [valuesOf_cleanUp (by decide), valuesOf_cleanUp (by decide), hunknown, if_pos rfl]
  exact ⟨lengths_frameUnknown peer headers, codings_frameUnknown peer headers⟩

/-- The content codings are those the head was built with. -/
theorem codings_openPart (hnormal : rules.normalize head = some normalized) (peer : Option Peer) :
    valuesOf (ascii "content-encoding") (openPart rules peer status normalized).fields =
      valuesOf (ascii "content-encoding") head := by
  have hblind : Blind fun header => decide (lower header.1 = ascii "content-encoding") := by
    constructor
    all_goals
      intro header hkeep
      rw [decide_eq_true_eq] at hkeep
      rw [hkeep]
      decide
  have hfilter := (filter_cleanUp rules hblind peer status normalized).trans
    (filter_normalize hblind hnormal)
  exact congrArg (List.map (·.2)) hfilter

/-- A head is framed for what its sender knows of the client: the lengths it tells, how the
end of its body is marked, and that the client can find it. -/
structure Opens (rules : HeaderRules) (stream : Stream) (peer : Option Peer) (status : ℕ)
    (headers : List Header) (encoded : Bool) (part : Part) : Prop where
  lengths : valuesOf (ascii "content-length") part.fields =
    writtenLengths rules status headers encoded
  delimiting : part.delimiting = delimitingOf rules peer status headers encoded
  framed : Framed stream.request.method status part

variable (hbuilt : Built stream headers encoder head)
  (hnormal : rules.normalize head = some normalized)
  (hpeer : ∀ client, peer = some client → client.method = stream.request.method)
  (hswitch : switchesProtocol (peer.map (·.method)) status = false)

include hpeer in
/-- A HEAD request is known for one. -/
theorem any_head (hhead : peer.any (·.method = ascii "HEAD") = true) :
    stream.request.method = ascii "HEAD" ∧ peer.map (·.method) = some (ascii "HEAD") := by
  cases peer with
  | none => cases hhead
  | some client =>
      have hmethod : client.method = ascii "HEAD" := by simpa using hhead
      exact ⟨(hpeer client rfl).symm.trans hmethod, congrArg some hmethod⟩

include hnormal in
/-- h11 writes one transfer coding or none. -/
theorem codings_cleanUp :
    valuesOf (ascii "transfer-encoding") (cleanUp rules peer status normalized) = [] ∨
      valuesOf (ascii "transfer-encoding") (cleanUp rules peer status normalized) =
        [ascii "chunked"] := by
  cases hunknown : unknownLength peer status normalized with
  | true =>
      rw [(valuesOf_cleanUp_unknown rules hunknown).2]
      split
      · exact .inr rfl
      · exact .inl rfl
  | false =>
      rw [valuesOf_cleanUp_known hunknown (by decide), rules.normalize_coding _ _ hnormal]
      split
      · exact .inl rfl
      · exact .inr rfl

include hpeer hswitch in
/-- Unless h11 knows that there is no body, it frames the response by its fields. -/
theorem delimiting_openPart (rules : HeaderRules) (normalized : List Header) :
    (openPart rules peer status normalized).delimiting =
      if status = 204 ∨ status = 304 ∨ peer.any (·.method = ascii "HEAD") then .length 0
      else bodyFraming none status (openPart rules peer status normalized).fields := by
  show bodyFraming (peer.map (·.method)) status _ = _
  split
  case isTrue hempty =>
    rcases hempty with rfl | rfl | hhead
    · rfl
    · rfl
    · rw [(any_head hpeer hhead).2]
      simp [bodyFraming]
  case isFalse hbodied =>
    apply bodyFraming_method _ hswitch
    intro heq
    refine hbodied (.inr (.inr ?_))
    cases peer with
    | none => cases heq
    | some client => simpa using heq

include hbuilt hnormal hswitch in
/-- Where a length is announced, h11 writes it and frames the response by it. -/
theorem openPart_known (hstatus : status ≠ 204) (hstatus' : status ≠ 304) {length : ℕ}
    (hlength : announcedLength rules headers encoder.isSome = some length) :
    bodyFraming none status (openPart rules peer status normalized).fields = .length length ∧
      valuesOf (ascii "content-length") (openPart rules peer status normalized).fields =
        rules.lengths (valuesOf (ascii "content-length") (sanitizeHeaders headers)) := by
  have hannounced := bodyFraming_announced hbuilt hnormal hstatus hstatus'
  rw [hlength] at hannounced
  obtain ⟨hframing, hcoding, hdeclared⟩ := hannounced
  have hknown := unknownLength_eq hswitch normalized
  rw [hframing] at hknown
  have hplain : encoder.isSome = false := by
    cases encoder with
    | none => rfl
    | some compressor =>
        have hnone : announcedLength rules headers (some compressor).isSome = none :=
          if_pos (Or.inl rfl)
        rw [hnone] at hlength
        cases hlength
  have hlengths : valuesOf (ascii "content-length") (openPart rules peer status normalized).fields =
      valuesOf (ascii "content-length") normalized := valuesOf_cleanUp_known hknown (by decide)
  have hcodings : valuesOf (ascii "transfer-encoding")
      (openPart rules peer status normalized).fields = [] :=
    (valuesOf_cleanUp_known hknown (by decide)).trans hcoding
  constructor
  · rw [bodyFraming_bodied hstatus hstatus', if_neg (not_not_intro hcodings), declaredLength,
      hlengths, ← declaredLength, hdeclared]
  · rw [hlengths, (rules.normalize_length _ _ hnormal).1, hbuilt.lengths, hplain,
      if_neg Bool.false_ne_true]

include hbuilt hnormal hswitch in
/-- Where none is, h11 writes chunks for an HTTP/1.1 client, and otherwise up to the end of
the connection. -/
theorem openPart_unknown (hstatus : status ≠ 204) (hstatus' : status ≠ 304)
    (hlength : announcedLength rules headers encoder.isSome = none) :
    bodyFraming none status (openPart rules peer status normalized).fields =
        (if peer.any (·.http11) then .chunked else .close) ∧
      valuesOf (ascii "content-length") (openPart rules peer status normalized).fields = [] := by
  have hannounced := bodyFraming_announced hbuilt hnormal hstatus hstatus'
  rw [hlength] at hannounced
  have hunknown := unknownLength_eq hswitch normalized
  have hfields : valuesOf (ascii "content-length") (openPart rules peer status normalized).fields =
        [] ∧
      valuesOf (ascii "transfer-encoding") (openPart rules peer status normalized).fields =
        if peer.any (·.http11) then [ascii "chunked"] else [] :=
    valuesOf_cleanUp_unknown rules (hunknown.trans hannounced)
  obtain ⟨hlengths, hcodings⟩ := hfields
  refine ⟨?_, hlengths⟩
  rw [bodyFraming_bodied hstatus hstatus', hcodings, declaredLength, hlengths]
  cases peer.any (·.http11) <;> rfl

include hbuilt hnormal hswitch in
/-- The fields of a response with a body frame it as it is announced. -/
theorem bodyFraming_openPart (hstatus : status ≠ 204) (hstatus' : status ≠ 304) :
    bodyFraming none status (openPart rules peer status normalized).fields =
        (match announcedLength rules headers encoder.isSome with
          | some length => .length length
          | none => if peer.any (·.http11) then .chunked else .close) ∧
      valuesOf (ascii "content-length") (openPart rules peer status normalized).fields =
        writtenLengths rules status headers encoder.isSome := by
  rw [writtenLengths]
  cases hlength : announcedLength rules headers encoder.isSome with
  | some length =>
      obtain ⟨hframing, hlengths⟩ :=
        openPart_known hbuilt hnormal hswitch hstatus hstatus' hlength
      exact ⟨hframing, hlengths.trans (if_neg fun hnot => Option.some_ne_none _ hnot.2.2).symm⟩
  | none =>
      obtain ⟨hframing, hlengths⟩ :=
        openPart_unknown hbuilt hnormal hswitch hstatus hstatus' hlength
      exact ⟨hframing, hlengths.trans (if_pos ⟨hstatus, hstatus', rfl⟩).symm⟩

/-- Fields that frame a response are read so. -/
theorem framed_of_fields {method : Bytes} {part : Part} (hstatus : status ≠ 204)
    (hstatus' : status ≠ 304) (hbody : bodyless method status = false)
    (hcodings : valuesOf (ascii "transfer-encoding") part.fields = [] ∨
      valuesOf (ascii "transfer-encoding") part.fields = [ascii "chunked"])
    (hdelimiting : part.delimiting = bodyFraming none status part.fields)
    (hnone : part.pieces = []) : Framed method status part := by
  rw [bodyFraming_bodied hstatus hstatus'] at hdelimiting
  rcases hcodings with hplain | hchunked
  · have hchunks : announcesChunks part.fields = false := by
      rw [announcesChunks, hplain]
      rfl
    rw [if_neg (not_not_intro hplain)] at hdelimiting
    cases hlength : declaredLength part.fields with
    | none =>
        rw [hlength] at hdelimiting
        exact .close hbody hchunks hlength hdelimiting
    | some length =>
        rw [hlength] at hdelimiting
        refine .length length hbody hchunks (hlength.trans ?_) hdelimiting
        simp [hnone]
  · rw [hchunked, if_pos (List.cons_ne_nil _ _)] at hdelimiting
    refine .chunked hbody ?_ hdelimiting
    rw [announcesChunks, hchunked]
    decide

include hbuilt hnormal hpeer hswitch in
/-- A head that h11 takes opens a response. -/
theorem opens_openPart (hplain : status = 204 ∨ status = 304 → encoder = none) :
    Opens rules stream peer status headers encoder.isSome (openPart rules peer status normalized) := by
  have hdelimiting := delimiting_openPart hpeer hswitch rules normalized
  by_cases hempty : status = 204 ∨ status = 304
  · have hknown : unknownLength peer status normalized = false := by
      rw [unknownLength_eq hswitch, bodyFraming_empty _ hempty]
      rfl
    have hskip : ¬ (status ≠ 204 ∧ status ≠ 304 ∧
        announcedLength rules headers encoder.isSome = none) :=
      fun hnot => hempty.elim hnot.1 hnot.2.1
    have hbodyless : status = 204 ∨ status = 304 ∨ peer.any (·.method = ascii "HEAD") :=
      hempty.elim Or.inl fun hother => Or.inr (Or.inl hother)
    constructor
    · rw [writtenLengths, if_neg hskip]
      refine (valuesOf_cleanUp_known hknown (by decide)).trans ?_
      rw [(rules.normalize_length _ _ hnormal).1, hbuilt.lengths, hplain hempty]
      rfl
    · rw [hdelimiting, delimitingOf, if_pos hbodyless, if_pos hbodyless]
    · apply Framed.empty
      rcases hempty with rfl | rfl <;> simp [bodyless]
  · obtain ⟨hstatus, hstatus'⟩ := not_or.mp hempty
    obtain ⟨hframing, hlengths⟩ := bodyFraming_openPart hbuilt hnormal hswitch hstatus hstatus'
    refine ⟨hlengths, ?_, ?_⟩
    · rw [hframing] at hdelimiting
      exact hdelimiting
    · cases hbody : bodyless stream.request.method status with
      | true => exact .empty hbody
      | false =>
          apply framed_of_fields hstatus hstatus' hbody (codings_cleanUp hnormal) _ rfl
          rw [hdelimiting, if_neg]
          rintro (hother | hother | hhead)
          · exact hstatus hother
          · exact hstatus' hother
          · simp [bodyless, (any_head hpeer hhead).1] at hbody

end

/-! ## Replies -/

/-- The client can undo the encoders that were negotiated. -/
def UndoesNegotiated (contentDecode : List Bytes → Bytes → Option Bytes) (stream : Stream) :
    Prop :=
  ∀ compressor, stream.workerEnv.compressor = some compressor ∨
    stream.handoffEnv.compressor = some compressor → Undoes contentDecode compressor

/-- A response, by the messages of the application: its start, the encoder that was left for
it, how the end of its body is marked from here on, and the data that have been sent. -/
structure Reply where
  status : ℕ
  headers : List Header
  encoder : Option Compressor
  delimiting : Delimiting
  data : Bytes := []

/-- More data have been sent. -/
def Reply.add (reply : Reply) (data : Bytes) : Reply :=
  { reply with delimiting := reply.delimiting.after data, data := reply.data ++ data }

/-- What a client decodes. -/
def Reply.decoded (rules : HeaderRules) (stream : Stream)
    (contentDecode : List Bytes → Bytes → Option Bytes) (reply : Reply) (ended : Bool) :
    Received where
  interims := []
  final := some
    { status := reply.status
      headers := stream.ownFields reply.headers
      lengths :=
        if ascii "content-length" ∈ startNames stream.messages then
          writtenLengths rules reply.status reply.headers reply.encoder.isSome
        else []
      body := contentDecode (valuesOf (ascii "content-encoding") (sanitizeHeaders reply.headers))
        (if bodyless stream.request.method reply.status then [] else reply.data)
      complete := bodyless stream.request.method reply.status || reply.delimiting.complete ended }

/-- The encoder of a response, and what it has returned so far. -/
structure Coded (stream : Stream) (env : SendEnv) (reply : Reply) (ops : List CompressOp)
    (part : Part) (compressor : Compressor) : Prop where
  negotiated : env.compressor = some compressor
  flushed : Flushed ops
  pieces : part.pieces.flatten = transcript compressor ops
  inputs_eq : inputs ops = reply.data
  encoding : valuesOf (ascii "content-encoding") part.fields = [compressor.encoding]
  plain : valuesOf (ascii "content-encoding") (sanitizeHeaders reply.headers) = []
  unknown : reply.delimiting.isUnknown = true

/-- A part is what has been sent of a reply. -/
structure Telling (rules : HeaderRules) (stream : Stream) (env : SendEnv) (reply : Reply)
    (ops : List CompressOp) (part : Part) : Prop where
  final : 200 ≤ reply.status
  clean : ∀ field ∈ part.fields, Clean field
  kept : part.fields.filter stream.keeps = stream.ownFields reply.headers
  lengths : valuesOf (ascii "content-length") part.fields =
    writtenLengths rules reply.status reply.headers reply.encoder.isSome
  delimiting : part.delimiting = reply.delimiting
  framed : Framed stream.request.method reply.status part
  pieces_ne_nil : ∀ piece ∈ part.pieces, piece ≠ []
  plain : reply.encoder = none → part.pieces.flatten = reply.data ∧
    valuesOf (ascii "content-encoding") part.fields =
      valuesOf (ascii "content-encoding") (sanitizeHeaders reply.headers)
  coded : ∀ compressor, reply.encoder = some compressor →
    Coded stream env reply ops part compressor

section

variable {rules : HeaderRules} {stream : Stream} {env : SendEnv} {reply : Reply}
variable {ops : List CompressOp} {part : Part}
variable {contentDecode : List Bytes → Bytes → Option Bytes}

/-- A client decodes the reply from its part. -/
theorem Telling.decode (htelling : Telling rules stream env reply ops part)
    (hserves : Serves stream env) (hundoes : UndoesNegotiated contentDecode stream)
    (hidentity : ∀ body, contentDecode [] body = some body) (ended : Bool) :
    decode contentDecode stream (part.bytes reply.status ended) =
      reply.decoded rules stream contentDecode ended := by
  have hread := htelling.framed.read htelling.pieces_ne_nil ended
  rw [AsyncPool.decode, Part.bytes,
    readResponse_head stream.request.method htelling.final htelling.clean, hread]
  simp only [Option.map_some, Reply.decoded, htelling.kept, htelling.lengths,
    htelling.delimiting]
  cases hencoder : reply.encoder with
  | none =>
      obtain ⟨hpieces, hencodings⟩ := htelling.plain hencoder
      rw [hencodings, hpieces]
      cases bodyless stream.request.method reply.status <;> rfl
  | some compressor =>
      have hcoded := htelling.coded compressor hencoder
      have hundo := hundoes compressor (hserves.negotiated _ hcoded.negotiated) ops hcoded.flushed
      have hnone := hundoes compressor (hserves.negotiated _ hcoded.negotiated) [] (.inl rfl)
      have hnothing : transcript compressor [] = [] := rfl
      rw [hnothing] at hnone
      rw [hcoded.encoding, hcoded.plain, hcoded.pieces]
      simp only [hidentity]
      cases bodyless stream.request.method reply.status with
      | true =>
          simp only [if_true, hnone]
          rfl
      | false =>
          simp only [Bool.false_eq_true, if_false, hundo, hcoded.inputs_eq, Bool.false_or]

/-! ## Pieces of the body -/

/-- One more operation returns one more piece. -/
theorem transcript_concat (compressor : Compressor) (ops : List CompressOp) (op : CompressOp) :
    transcript compressor (ops ++ [op]) =
      transcript compressor ops ++ compressor.output (ops ++ [op]) := by
  have hprefixes : ∀ index ∈ List.range ops.length,
      compressor.output ((ops ++ [op]).take (index + 1)) =
        compressor.output (ops.take (index + 1)) := by
    intro index hindex
    rw [List.take_append_of_le_length (List.mem_range.mp hindex)]
  have hwhole : (ops ++ [op]).take (ops.length + 1) = ops ++ [op] :=
    List.take_of_length_le (by simp)
  rw [transcript, transcript, List.length_append, List.length_singleton, List.range_succ,
    List.flatMap_append, List.flatMap_congr hprefixes, List.flatMap_singleton, hwhole]

/-- What an encoder returns for a piece comes behind all it has returned, it has been given
the piece, and nothing is left inside. -/
theorem encodeBody_on {state : SendState} {compressor : Compressor}
    (hsome : state.compressor = some compressor) (hflushed : Flushed state.ops) (body : Bytes)
    (moreBody : Bool) :
    transcript compressor (encodeBody state body moreBody).2 =
        transcript compressor state.ops ++ (encodeBody state body moreBody).1 ∧
      inputs (encodeBody state body moreBody).2 = inputs state.ops ++ body ∧
      Flushed (encodeBody state body moreBody).2 := by
  rw [encodeBody, hsome]
  simp only
  by_cases hbody : body = []
  · cases moreBody with
    | true => simpa [hbody] using hflushed
    | false =>
        simp only [hbody, ne_eq, not_true_eq_false, if_false, Bool.not_false, if_true]
        refine ⟨transcript_concat .., ?_, Or.inr (Or.inr List.getLast?_concat)⟩
        simp [inputs]
  · simp only [ne_eq, hbody, not_false_eq_true, if_true]
    refine ⟨?_, ?_, ?_⟩
    · rw [transcript_concat, transcript_concat, List.append_assoc]
    · cases moreBody <;> simp [inputs]
    · cases moreBody with
      | true => exact Or.inr (Or.inl List.getLast?_concat)
      | false => exact Or.inr (Or.inr List.getLast?_concat)

/-- Without an encoder a piece is passed on. -/
theorem encodeBody_off {state : SendState} (hnone : state.compressor = none) (body : Bytes)
    (moreBody : Bool) : encodeBody state body moreBody = (body, state.ops) := by
  rw [encodeBody, hnone]

variable {state : SendState}

/-- Whether a piece is taken does not depend on its encoding. -/
theorem Telling.takes_eq (htelling : Telling rules stream env reply state.ops part)
    (hencoder : state.compressor = reply.encoder) (data : Bytes) (more : Bool) :
    part.delimiting.takes (encodeBody state data more).1 more = reply.delimiting.takes data more := by
  rw [htelling.delimiting]
  cases hreply : reply.encoder with
  | none => rw [encodeBody_off (hencoder.trans hreply)]
  | some compressor =>
      have hunknown := (htelling.coded compressor hreply).unknown
      rw [Delimiting.takes_unknown hunknown, Delimiting.takes_unknown hunknown]

/-- A piece that is taken is part of the reply. -/
theorem Telling.add (htelling : Telling rules stream env reply state.ops part)
    (hencoder : state.compressor = reply.encoder) {data : Bytes} {more : Bool}
    (htakes : reply.delimiting.takes data more = true) :
    Telling rules stream env (reply.add data) (encodeBody state data more).2
      (part.extend (encodeBody state data more).1) := by
  have hfits : ∀ left, part.delimiting = .length left →
      (encodeBody state data more).1.length ≤ left := by
    intro left hleft
    have htaken := (htelling.takes_eq hencoder data more).trans htakes
    rw [hleft] at htaken
    simp only [Delimiting.takes, Bool.and_eq_true, decide_eq_true_eq] at htaken
    exact htaken.1
  have hdelimiting : (part.extend (encodeBody state data more).1).delimiting =
      (reply.add data).delimiting := by
    show part.delimiting.after _ = reply.delimiting.after data
    rw [htelling.delimiting]
    cases hreply : reply.encoder with
    | none => rw [encodeBody_off (hencoder.trans hreply)]
    | some compressor =>
        have hunknown := (htelling.coded compressor hreply).unknown
        rw [Delimiting.after_unknown hunknown, Delimiting.after_unknown hunknown]
  refine ⟨htelling.final, htelling.clean, htelling.kept, htelling.lengths, hdelimiting,
    htelling.framed.extend hfits, ?_, ?_, ?_⟩
  · intro piece hmem
    rcases List.mem_append.mp hmem with hold | hnew
    · exact htelling.pieces_ne_nil piece hold
    · split at hnew
      · cases hnew
      case isFalse hdata =>
        rw [List.mem_singleton.mp hnew]
        exact hdata
  · intro hnone
    obtain ⟨hpieces, hencodings⟩ := htelling.plain hnone
    refine ⟨?_, hencodings⟩
    rw [Part.flatten_extend, hpieces, encodeBody_off (hencoder.trans hnone)]
    rfl
  · intro compressor hsome
    have hcoded := htelling.coded compressor hsome
    obtain ⟨htranscript, hinputs, hflushed⟩ :=
      encodeBody_on (hencoder.trans hsome) hcoded.flushed data more
    refine ⟨hcoded.negotiated, hflushed, ?_, ?_, hcoded.encoding, hcoded.plain, ?_⟩
    · rw [Part.flatten_extend, hcoded.pieces, htranscript]
    · rw [hinputs, hcoded.inputs_eq]
      rfl
    · show (reply.delimiting.after data).isUnknown = true
      rw [Delimiting.after_unknown hcoded.unknown, hcoded.unknown]

/-- A head that h11 takes opens a reply. -/
theorem Telling.opened {status : ℕ} {peer : Option Peer} {headers head normalized : List Header}
    {encoder : Option Compressor}
    (hbuilt : Built stream headers (encoderLeft headers encoder) head)
    (hnormal : rules.normalize head = some normalized)
    (hpeer : ∀ client, peer = some client → client.method = stream.request.method)
    (hswitch : switchesProtocol (peer.map (·.method)) status = false)
    (hfinal : 200 ≤ status)
    (hbodied : encoder.isSome → bodylessStatus status = false ∧
      stream.request.method ≠ ascii "HEAD")
    (hencoder : ∀ compressor, encoder = some compressor → env.compressor = some compressor) :
    Telling rules stream env
      { status, headers
        encoder := encoderLeft headers encoder
        delimiting := delimitingOf rules peer status headers (encoderLeft headers encoder).isSome }
      [] (openPart rules peer status normalized) := by
  have hleft : ∀ compressor, encoderLeft headers encoder = some compressor →
      encoder = some compressor ∧
        valuesOf (ascii "content-encoding") (sanitizeHeaders headers) = [] := by
    intro compressor hsome
    rw [encoderLeft] at hsome
    split at hsome
    case isTrue => cases hsome
    case isFalse hskips =>
      rw [not_or, any_isContentEncoding] at hskips
      have hfields : fields (ascii "content-encoding") (sanitizeHeaders headers) = [] := by
        simpa using hskips.2
      exact ⟨hsome, congrArg (List.map fun header : Header => header.2) hfields⟩
  have hopens : Opens rules stream peer status headers (encoderLeft headers encoder).isSome
      (openPart rules peer status normalized) := by
    apply opens_openPart hbuilt hnormal hpeer hswitch
    intro hempty
    by_contra hsome
    obtain ⟨compressor, hcompressor⟩ := Option.ne_none_iff_exists'.mp hsome
    have hstatus := (hbodied (by rw [(hleft compressor hcompressor).1]; rfl)).1
    rcases hempty with rfl | rfl <;> simp [bodylessStatus] at hstatus
  have hkept : (openPart rules peer status normalized).fields.filter stream.keeps =
      stream.ownFields headers :=
    (filter_cleanUp rules stream.blind_keeps peer status normalized).trans
      ((filter_normalize stream.blind_keeps hnormal).trans hbuilt.kept)
  refine ⟨hfinal, clean_cleanUp hnormal peer status, hkept, hopens.lengths, hopens.delimiting,
    hopens.framed, ?_, ?_, ?_⟩
  · intro piece hmem
    cases hmem
  · intro hnone
    refine ⟨rfl, (codings_openPart hnormal peer).trans (hbuilt.encodings.trans ?_)⟩
    have hnone' : encoderLeft headers encoder = none := hnone
    rw [hnone']
    rfl
  · intro compressor hsome
    have hsome' : encoderLeft headers encoder = some compressor := hsome
    obtain ⟨hencoded, hplain⟩ := hleft compressor hsome'
    obtain ⟨hstatus, hmethod⟩ := hbodied (by rw [hencoded]; rfl)
    have hempty : ¬ (status = 204 ∨ status = 304 ∨ peer.any (·.method = ascii "HEAD")) := by
      rintro (rfl | rfl | hhead)
      · simp [bodylessStatus] at hstatus
      · simp [bodylessStatus] at hstatus
      · exact hmethod (any_head hpeer hhead).1
    refine ⟨hencoder compressor hencoded, .inl rfl, rfl, rfl, ?_, hplain, ?_⟩
    · refine (codings_openPart hnormal peer).trans (hbuilt.encodings.trans ?_)
      rw [hsome']
      rfl
    · show (delimitingOf rules peer status headers (encoderLeft headers encoder).isSome).isUnknown =
        true
      have hnone : announcedLength rules headers (some compressor).isSome = none :=
        if_pos (Or.inl rfl)
      rw [hsome', delimitingOf, if_neg hempty, hnone]
      simp only
      split <;> rfl

end

end Pounce.AsyncPool
