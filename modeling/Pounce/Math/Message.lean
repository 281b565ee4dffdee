/-
# HTTP/1.1 responses on the wire

A response is written as a sequence of elements: heads, of interim responses and then of
the final one, and after them the body, in pieces as they are or in chunks. `render`
serializes an element, and `readResponse` is what a client makes of the bytes it has
received until the connection was closed. The results say what the client reads from a
response that was written with a certain framing.
-/

import Pounce.Math.Bytes

namespace Pounce.Math.Message

open Pounce.Math.Bytes

/-- A header field: name and value. -/
abbrev Field := Bytes × Bytes

/-- An element of a response. -/
inductive Element
  | head (status : ℕ) (fields : List Field)
  | raw (data : Bytes)
  | chunk (data : Bytes)
  | lastChunk
  deriving DecidableEq, Repr

/-! ## Writing -/

/-- The hexadecimal numeral of a natural number. -/
def hexOf (value : ℕ) : Bytes :=
  (Nat.toDigits 16 value).map fun char => UInt8.ofNat char.toNat

/-- A field line. -/
def fieldLine (field : Field) : Bytes := field.1 ++ ascii ": " ++ field.2

/-- A status line. The reason phrase is empty. -/
def statusLine (status : ℕ) : Bytes := ascii "HTTP/1.1 " ++ ofNat status ++ ascii " "

/-- The serialization of an element. -/
def render : Element → Bytes
  | .head status fields =>
      statusLine status ++ crlf ++ (fields.flatMap fun field => fieldLine field ++ crlf) ++ crlf
  | .raw data => data
  | .chunk data => hexOf data.length ++ crlf ++ data ++ crlf
  | .lastChunk => hexOf 0 ++ crlf ++ crlf

/-! ## Reading -/

/-- The first line and what comes after it. -/
def readLine : Bytes → Option (Bytes × Bytes)
  | [] => none
  | byte :: rest =>
      if byte = 13 ∧ rest.head? = some 10 then some ([], rest.tail)
      else (readLine rest).map fun cut => (byte :: cut.1, cut.2)

/-- A field line, cut at its first colon. -/
def readField (line : Bytes) : Option Field :=
  match line.dropWhile (· ≠ 58) with
  | [] => none
  | _ :: value => some (line.takeWhile (· ≠ 58), trimOws value)

/-- At most so many lines: fields up to an empty line, and what comes after it. -/
def readFields : ℕ → Bytes → Option (List Field × Bytes)
  | 0, _ => none
  | fuel + 1, bytes =>
      match readLine bytes with
      | none => none
      | some (line, rest) =>
          if line = [] then some ([], rest)
          else
            match readField line, readFields fuel rest with
            | some field, some (fields, after) => some (field :: fields, after)
            | _, _ => none

/-- The status of a status line. -/
def readStatus (line : Bytes) : Option ℕ :=
  if (ascii "HTTP/1.1 ").isPrefixOf line then decimal? ((line.drop 9).takeWhile isDigit)
  else none

/-- A head: its status, its fields and what comes after it. -/
def readHead (bytes : Bytes) : Option (ℕ × List Field × Bytes) :=
  match readLine bytes with
  | none => none
  | some (line, rest) =>
      match readStatus line, readFields rest.length rest with
      | some status, some (fields, after) => some (status, fields, after)
      | _, _ => none

/-- The value of a hexadecimal digit. -/
def hexValue (byte : UInt8) : Option ℕ :=
  if isDigit byte then some (digitValue byte)
  else if 97 ≤ lowerByte byte ∧ lowerByte byte ≤ 102 then some ((lowerByte byte).toNat - 87)
  else none

/-- Read hexadecimal digits behind a value. -/
def hexFrom (value : Option ℕ) (digits : Bytes) : Option ℕ :=
  digits.foldl (fun total digit => total.bind fun total =>
    (hexValue digit).map fun value => total * 16 + value) value

/-- The value of a hexadecimal numeral. -/
def hex? (bytes : Bytes) : Option ℕ := if bytes = [] then none else hexFrom (some 0) bytes

/-- At most so many chunks: their data, and whether the last one has arrived. -/
def readChunks : ℕ → Bytes → Bytes × Bool
  | 0, _ => ([], false)
  | fuel + 1, bytes =>
      match readLine bytes with
      | none => ([], false)
      | some (line, rest) =>
          match hex? line with
          | none => ([], false)
          | some 0 => ([], (readFields rest.length rest).isSome)
          | some size =>
              if crlf.isPrefixOf (rest.drop size) then
                let more := readChunks fuel (rest.drop (size + 2))
                (rest.take size ++ more.1, more.2)
              else (rest.take size, false)

/-- Responses that have no body whatever their fields say. -/
def bodyless (method : Bytes) (status : ℕ) : Bool :=
  method = ascii "HEAD" || status = 204 || status = 304 ||
    (method = ascii "CONNECT" && 200 ≤ status && status < 300)

/-- The values of the fields of one name, compared without case. -/
def valuesOf (name : Bytes) (fields : List Field) : List Bytes :=
  (fields.filter fun field => lower field.1 = name).map (·.2)

/-- The length the fields declare. -/
def declaredLength (fields : List Field) : Option ℕ :=
  (valuesOf (ascii "content-length") fields).head?.bind decimal?

/-- The fields announce chunks. -/
def announcesChunks (fields : List Field) : Bool :=
  (valuesOf (ascii "transfer-encoding") fields).any (· = ascii "chunked")

/-- The body behind a head, and whether it is complete. -/
def readBody (method : Bytes) (status : ℕ) (fields : List Field) (rest : Bytes) : Bytes × Bool :=
  if bodyless method status then ([], true)
  else if announcesChunks fields then readChunks (rest.length + 1) rest
  else
    match declaredLength fields with
    | some length => (rest.take length, length ≤ rest.length)
    | none => (rest, true)

/-- A final response. -/
structure Final where
  status : ℕ
  fields : List Field
  body : Bytes
  complete : Bool
  deriving DecidableEq, Repr

/-- What a client has read. -/
structure Reading where
  interims : List (ℕ × List Field) := []
  final : Option Final := none
  deriving DecidableEq, Repr

/-- At most so many heads. -/
def readWithin (method : Bytes) : ℕ → Bytes → Reading
  | 0, _ => {}
  | fuel + 1, bytes =>
      match readHead bytes with
      | none => {}
      | some (status, fields, rest) =>
          if status < 200 then
            let later := readWithin method fuel rest
            { later with interims := (status, fields) :: later.interims }
          else
            let body := readBody method status fields rest
            { final := some { status, fields, body := body.1, complete := body.2 } }

/-- What a client reads as the response to a request of this method. -/
def readResponse (method bytes : Bytes) : Reading := readWithin method (bytes.length + 1) bytes

/-! ## Reading what was written -/

/-- A field that can be written: what is read of its line is the field. -/
def Clean (field : Field) : Prop :=
  13 ∉ field.1 ∧ 58 ∉ field.1 ∧ 13 ∉ field.2 ∧ trimOws field.2 = field.2

instance (field : Field) : Decidable (Clean field) :=
  inferInstanceAs (Decidable (_ ∧ _ ∧ _ ∧ _))

/-- A line without a carriage return is read whole. -/
theorem readLine_append {line : Bytes} (hline : 13 ∉ line) (rest : Bytes) :
    readLine (line ++ crlf ++ rest) = some (line, rest) := by
  induction line with
  | nil => rfl
  | cons byte line ih =>
      simp only [List.mem_cons, not_or] at hline
      have hbyte : byte ≠ 13 := fun heq => hline.1 heq.symm
      simp only [List.cons_append, readLine, hbyte, false_and, if_false, ih hline.2]
      rfl

/-- The line of a field without a colon in its name is cut behind the name. -/
theorem cut_fieldLine {field : Field} (hcolon : 58 ∉ field.1) :
    (fieldLine field).takeWhile (· ≠ 58) = field.1 ∧
      (fieldLine field).dropWhile (· ≠ 58) = 58 :: 32 :: field.2 := by
  have hname : ∀ byte ∈ field.1, decide (byte ≠ 58) = true := by
    intro byte hmem
    rw [decide_eq_true_eq]
    rintro rfl
    exact hcolon hmem
  have hline : fieldLine field = field.1 ++ 58 :: 32 :: field.2 := by
    simp [fieldLine, ascii]
  rw [hline, List.dropWhile_append_of_pos hname, List.takeWhile_append_of_pos hname]
  simp

/-- A clean field is read from its line. -/
theorem readField_fieldLine {field : Field} (hclean : Clean field) :
    readField (fieldLine field) = some field := by
  obtain ⟨-, hcolon, -, htrim⟩ := hclean
  obtain ⟨htake, hdrop⟩ := cut_fieldLine hcolon
  have hspace : trimOws (32 :: field.2) = trimOws field.2 := by
    have hpad : ∀ byte ∈ ([32] : Bytes), isOws byte :=
      fun byte hmem => List.mem_singleton.mp hmem ▸ rfl
    exact stripWhile_append_left hpad field.2
  rw [readField, htake, hdrop]
  simp [hspace, htrim]

/-- A field line holds no carriage return and is not empty. -/
theorem fieldLine_clean {field : Field} (hclean : Clean field) :
    13 ∉ fieldLine field ∧ fieldLine field ≠ [] := by
  obtain ⟨hname, -, hvalue, -⟩ := hclean
  constructor
  · simp only [fieldLine, List.mem_append, not_or]
    exact ⟨⟨hname, by decide⟩, hvalue⟩
  · simp [fieldLine, ascii]

/-- Clean fields are read up to the empty line. -/
theorem readFields_append {fields : List Field} (hclean : ∀ field ∈ fields, Clean field)
    (rest : Bytes) {fuel : ℕ} (hfuel : fields.length < fuel) :
    readFields fuel ((fields.flatMap fun field => fieldLine field ++ crlf) ++ crlf ++ rest) =
      some (fields, rest) := by
  induction fields generalizing fuel with
  | nil =>
      cases fuel with
      | zero => exact absurd hfuel (Nat.not_lt_zero _)
      | succ fuel => rfl
  | cons field fields ih =>
      cases fuel with
      | zero => exact absurd hfuel (Nat.not_lt_zero _)
      | succ fuel =>
          have hfield := hclean field (List.mem_cons_self ..)
          have hrest := ih (fun other hmem => hclean other (List.mem_cons_of_mem _ hmem))
            (show fields.length < fuel by simpa using hfuel)
          obtain ⟨hreturn, hne⟩ := fieldLine_clean hfield
          rw [List.flatMap_cons, List.append_assoc, List.append_assoc, readFields,
            readLine_append hreturn, ← List.append_assoc]
          simp only [hne, if_false, readField_fieldLine hfield, hrest]

/-- The fields of a head take more bytes than there are fields. -/
theorem length_lt_render (fields : List Field) (rest : Bytes) :
    fields.length <
      ((fields.flatMap fun field => fieldLine field ++ crlf) ++ crlf ++ rest).length := by
  induction fields with
  | nil => simp [crlf]
  | cons field fields ih =>
      simp only [List.flatMap_cons, List.length_append, List.length_cons, crlf] at ih ⊢
      omega

/-- The digits of a numeral are no line ends. -/
theorem not_mem_of_all_isDigit {bytes : Bytes} (hdigits : ∀ byte ∈ bytes, isDigit byte) :
    13 ∉ bytes :=
  fun hmem => absurd (hdigits 13 hmem) (by decide)

/-- A status line is read. -/
theorem readStatus_statusLine (status : ℕ) : readStatus (statusLine status) = some status := by
  obtain ⟨hne, hdigits, -⟩ := decimal?_eq_some.mp (decimal?_ofNat status)
  have hprefix : (ascii "HTTP/1.1 ").isPrefixOf (statusLine status) = true := by
    rw [List.isPrefixOf_iff_prefix, statusLine, List.append_assoc]
    exact List.prefix_append _ _
  have hdrop : (statusLine status).drop 9 = ofNat status ++ ascii " " := by
    rw [statusLine, List.append_assoc]
    exact @List.drop_left _ (ascii "HTTP/1.1 ") _
  rw [readStatus, if_pos hprefix, hdrop, List.takeWhile_append_of_pos hdigits]
  simpa [ascii, isDigit] using decimal?_ofNat status

/-- A head of clean fields is read. -/
theorem readHead_render (status : ℕ) {fields : List Field}
    (hclean : ∀ field ∈ fields, Clean field) (rest : Bytes) :
    readHead (render (.head status fields) ++ rest) = some (status, fields, rest) := by
  obtain ⟨-, hdigits, -⟩ := decimal?_eq_some.mp (decimal?_ofNat status)
  have hline : 13 ∉ statusLine status := by
    simp only [statusLine, List.mem_append, not_or]
    exact ⟨⟨by decide, not_mem_of_all_isDigit hdigits⟩, by decide⟩
  have hshape : render (.head status fields) ++ rest = statusLine status ++ crlf ++
      ((fields.flatMap fun field => fieldLine field ++ crlf) ++ crlf ++ rest) := by
    simp [render]
  rw [readHead, hshape, readLine_append hline]
  simp only [readStatus_statusLine, readFields_append hclean rest (length_lt_render fields rest)]

/-! ## Chunks -/

/-- Digits are read one after the other. -/
theorem hexFrom_append (value : Option ℕ) (first second : Bytes) :
    hexFrom value (first ++ second) = hexFrom (hexFrom value first) second :=
  List.foldl_append ..

/-- The byte of a digit is read as its value. -/
theorem hexValue_digitChar {digit : ℕ} (hdigit : digit < 16) :
    hexValue (UInt8.ofNat (Nat.digitChar digit).toNat) = some digit := by
  have hall : ∀ digit < 16,
      hexValue (UInt8.ofNat (Nat.digitChar digit).toNat) = some digit := by decide
  exact hall digit hdigit

/-- Writing a number in hexadecimal and reading the digits gives the number. -/
theorem hexFrom_hexOf (value : ℕ) : hexFrom (some 0) (hexOf value) = some value := by
  induction value using Nat.strong_induction_on with
  | _ value ih =>
      by_cases hsmall : value < 16
      · rw [hexOf, Nat.toDigits_of_lt_base hsmall]
        simp [hexFrom, hexValue_digitChar hsmall]
      · have hlarge : 16 ≤ value := Nat.le_of_not_lt hsmall
        have hshape : hexOf value =
            hexOf (value / 16) ++ [UInt8.ofNat (Nat.digitChar (value % 16)).toNat] := by
          rw [hexOf, Nat.toDigits_of_base_le (by decide) hlarge, List.map_append]
          rfl
        have hdigit := hexValue_digitChar (Nat.mod_lt value (show 0 < 16 by decide))
        rw [hshape, hexFrom_append, ih (value / 16) (Nat.div_lt_self (by omega) (by decide))]
        simp only [hexFrom, List.foldl_cons, List.foldl_nil, Option.bind_some, hdigit,
          Option.map_some, Option.some.injEq]
        omega

/-- A reading that has failed does not recover. -/
theorem hexFrom_none (digits : Bytes) : hexFrom none digits = none := by
  induction digits with
  | nil => rfl
  | cons digit digits ih => exact ih

/-- What reads as a numeral holds no carriage return. -/
theorem not_mem_of_hexFrom {digits : Bytes} {value : Option ℕ} {result : ℕ}
    (hread : hexFrom value digits = some result) : 13 ∉ digits := by
  induction digits generalizing value with
  | nil => exact List.not_mem_nil
  | cons digit digits ih =>
      intro hmem
      obtain rfl | hrest := List.mem_cons.mp hmem
      · have hstuck : hexFrom value (13 :: digits) = hexFrom none digits := by
          cases value <;> rfl
        rw [hstuck, hexFrom_none] at hread
        cases hread
      · exact ih hread hrest

/-- The numeral of a chunk size is read and is a line. -/
theorem hex?_hexOf (value : ℕ) : hex? (hexOf value) = some value := by
  have hne : hexOf value ≠ [] := by simp [hexOf]
  rw [hex?, if_neg hne, hexFrom_hexOf]

/-- The chunks of a body and, where it is complete, the last one. -/
def chunkElements (pieces : List Bytes) (ended : Bool) : List Element :=
  pieces.map .chunk ++ if ended then [.lastChunk] else []

/-- Chunks that are not empty are read up to the last one. -/
theorem readChunks_render {pieces : List Bytes} (hpieces : ∀ piece ∈ pieces, piece ≠ [])
    (ended : Bool) {fuel : ℕ} (hfuel : pieces.length < fuel) :
    readChunks fuel ((chunkElements pieces ended).flatMap render) = (pieces.flatten, ended) := by
  induction pieces generalizing fuel with
  | nil =>
      cases fuel with
      | zero => exact absurd hfuel (Nat.not_lt_zero _)
      | succ fuel => cases ended <;> rfl
  | cons piece pieces ih =>
      cases fuel with
      | zero => exact absurd hfuel (Nat.not_lt_zero _)
      | succ fuel =>
          have hrest := ih (fun other hmem => hpieces other (List.mem_cons_of_mem _ hmem))
            (show pieces.length < fuel by simpa using hfuel)
          obtain ⟨size, hsize⟩ : ∃ size, piece.length = size + 1 :=
            Nat.exists_eq_succ_of_ne_zero fun hzero =>
              hpieces piece (List.mem_cons_self ..) (List.length_eq_zero_iff.mp hzero)
          have hshape : (chunkElements (piece :: pieces) ended).flatMap render =
              hexOf piece.length ++ crlf ++
                (piece ++ (crlf ++ (chunkElements pieces ended).flatMap render)) := by
            simp [chunkElements, render]
          rw [hshape, readChunks, readLine_append (not_mem_of_hexFrom (hexFrom_hexOf _))]
          simp only [hex?_hexOf, hsize]
          rw [← hsize, if_pos (by simp), List.take_left', ← List.drop_drop, List.drop_left,
            show (crlf ++ (chunkElements pieces ended).flatMap render).drop 2 =
              (chunkElements pieces ended).flatMap render from rfl, hrest]
          · rfl
          · rfl

/-- Chunks take more bytes than there are chunks. -/
theorem length_le_chunkElements (pieces : List Bytes) (ended : Bool) :
    pieces.length ≤ ((chunkElements pieces ended).flatMap render).length := by
  induction pieces with
  | nil => exact Nat.zero_le _
  | cons piece pieces ih =>
      have hshape : (chunkElements (piece :: pieces) ended).flatMap render =
          render (.chunk piece) ++ (chunkElements pieces ended).flatMap render := by
        simp [chunkElements]
      have hchunk : 0 < (render (.chunk piece)).length := by
        simp only [render, crlf, List.length_append, List.length_cons]
        omega
      rw [hshape, List.length_append, List.length_cons]
      omega

/-! ## Responses -/

/-- The elements of a body that is written as it is. -/
def rawElements (pieces : List Bytes) : List Element := pieces.map .raw

theorem render_rawElements (pieces : List Bytes) :
    (rawElements pieces).flatMap render = pieces.flatten := by
  induction pieces with
  | nil => rfl
  | cons piece pieces ih =>
      rw [List.flatten_cons, ← ih]
      rfl

/-- A final head is read, and the body behind it as the head says. -/
theorem readResponse_head (method : Bytes) {status : ℕ} (hfinal : 200 ≤ status)
    {fields : List Field} (hclean : ∀ field ∈ fields, Clean field) (rest : Bytes) :
    readResponse method (render (.head status fields) ++ rest) =
      { final := some
          { status, fields, body := (readBody method status fields rest).1
            complete := (readBody method status fields rest).2 } } := by
  rw [readResponse, readWithin, readHead_render status hclean]
  exact if_neg (Nat.not_lt_of_le hfinal)

section

variable {method : Bytes} {status : ℕ} {fields : List Field}

/-- Of a response without a body nothing but the head is read. -/
theorem readBody_bodyless (hbodyless : bodyless method status) (rest : Bytes) :
    readBody method status fields rest = ([], true) := if_pos hbodyless

/-- A body written in chunks is read from them. -/
theorem readBody_chunks (hbody : bodyless method status = false)
    (hchunks : announcesChunks fields) {pieces : List Bytes}
    (hpieces : ∀ piece ∈ pieces, piece ≠ []) (ended : Bool) :
    readBody method status fields ((chunkElements pieces ended).flatMap render) =
      (pieces.flatten, ended) := by
  rw [readBody, hbody, if_neg Bool.false_ne_true, if_pos hchunks]
  exact readChunks_render hpieces ended
    (Nat.lt_succ_of_le (length_le_chunkElements pieces ended))

/-- A body written as it is, within its declared length, is read as it is. -/
theorem readBody_length (hbody : bodyless method status = false)
    (hchunks : announcesChunks fields = false) {length : ℕ}
    (hlength : declaredLength fields = some length) {pieces : List Bytes}
    (hpieces : pieces.flatten.length ≤ length) :
    readBody method status fields ((rawElements pieces).flatMap render) =
      (pieces.flatten, decide (length ≤ pieces.flatten.length)) := by
  rw [readBody, hbody, if_neg Bool.false_ne_true, hchunks, if_neg Bool.false_ne_true, hlength,
    render_rawElements]
  simp only [List.take_of_length_le hpieces]

/-- A body that ends with the connection is read as it is and is never found short. -/
theorem readBody_close (hbody : bodyless method status = false)
    (hchunks : announcesChunks fields = false) (hlength : declaredLength fields = none)
    (pieces : List Bytes) :
    readBody method status fields ((rawElements pieces).flatMap render) =
      (pieces.flatten, true) := by
  rw [readBody, hbody, if_neg Bool.false_ne_true, hchunks, if_neg Bool.false_ne_true, hlength,
    render_rawElements]

end

end Pounce.Math.Message
