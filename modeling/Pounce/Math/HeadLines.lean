/-
# The lines of a head

A head is a first line and field lines, each ended by a carriage return and a line feed, up to an
empty line. The reader here goes line by line and takes nothing on trust: a carriage return or a
line feed that is not part of such an end belongs to no line, and a field line is cut at its first
colon. So what it reads has no such byte in it, and a head of fields without them is read as it was
written, whatever comes after it.
-/

import Pounce.Math.Message

namespace Pounce.Math.HeadLines

open Pounce.Math.Bytes
open Pounce.Math.Message (Field cut_fieldLine fieldLine)

/-! ## Reading -/

/-- A byte at which some reader ends a line. -/
def isBreak (byte : UInt8) : Bool := byte = 13 || byte = 10

/-- There is no carriage return and no line feed. -/
def Unbroken (bytes : Bytes) : Prop := ∀ byte ∈ bytes, isBreak byte = false

instance (bytes : Bytes) : Decidable (Unbroken bytes) :=
  decidable_of_iff (bytes.all fun byte => !isBreak byte) (by simp [Unbroken])

/-- The first line and what comes after it. -/
def cutLine : Bytes → Option (Bytes × Bytes)
  | [] => none
  | byte :: rest =>
      if byte = 13 ∧ rest.head? = some 10 then some ([], rest.tail)
      else if isBreak byte then none
      else (cutLine rest).map fun cut => (byte :: cut.1, cut.2)

/-- At most so many lines up to an empty one, and what comes after it. -/
def cutLines : ℕ → Bytes → Option (List Bytes × Bytes)
  | 0, _ => none
  | fuel + 1, bytes =>
      (cutLine bytes).bind fun cut =>
        if cut.1 = [] then some ([], cut.2)
        else (cutLines fuel cut.2).map fun more => (cut.1 :: more.1, more.2)

/-- The lines up to an empty one, and what comes after it. -/
def readLines (bytes : Bytes) : Option (List Bytes × Bytes) := cutLines (bytes.length + 1) bytes

/-- A field line, cut at its first colon and the space behind it. -/
def splitField (line : Bytes) : Option Field :=
  match line.dropWhile (· ≠ 58) with
  | [] => none
  | _ :: after =>
      some (line.takeWhile (· ≠ 58), if after.head? = some 32 then after.tail else after)

/-- A head: its first line, its fields and what comes after it. -/
def readHead (bytes : Bytes) : Option (Bytes × List Field × Bytes) :=
  match readLines bytes with
  | some (first :: lines, rest) => (lines.mapM splitField).map fun fields => (first, fields, rest)
  | _ => none

/-! ## Writing -/

/-- Lines and an empty one behind them. -/
def writeLines (lines : List Bytes) : Bytes := (lines.flatMap fun line => line ++ crlf) ++ crlf

/-- A first line and a line for each field. -/
def writeHead (first : Bytes) (fields : List Field) : Bytes :=
  writeLines (first :: fields.map fieldLine)

/-- The bytes of a head. -/
theorem writeHead_eq (first : Bytes) (fields : List Field) :
    writeHead first fields =
      first ++ crlf ++ (fields.flatMap fun field => fieldLine field ++ crlf) ++ crlf := by
  rw [writeHead, writeLines, List.flatMap_cons, List.flatMap_map]

/-- A field whose line is read as the field. -/
structure Plain (field : Field) : Prop where
  name : Unbroken field.1
  colon : 58 ∉ field.1
  value : Unbroken field.2

theorem plain_mk {name value : Bytes} (hname : Unbroken name) (hcolon : 58 ∉ name)
    (hvalue : Unbroken value) : Plain (name, value) := ⟨hname, hcolon, hvalue⟩

theorem unbroken_iff {bytes : Bytes} : Unbroken bytes ↔ 13 ∉ bytes ∧ 10 ∉ bytes := by
  constructor
  · intro hbytes
    exact ⟨fun hmem => Bool.noConfusion (hbytes 13 hmem),
      fun hmem => Bool.noConfusion (hbytes 10 hmem)⟩
  · rintro ⟨hreturn, hfeed⟩ byte hmem
    rw [isBreak, Bool.or_eq_false_iff, decide_eq_false_iff_not, decide_eq_false_iff_not]
    exact ⟨fun heq => hreturn (heq ▸ hmem), fun heq => hfeed (heq ▸ hmem)⟩

theorem unbroken_append {first second : Bytes} :
    Unbroken (first ++ second) ↔ Unbroken first ∧ Unbroken second := List.forall_mem_append

/-- A line without breaks is cut off whole. -/
theorem cutLine_append {line : Bytes} (hline : Unbroken line) (rest : Bytes) :
    cutLine (line ++ (crlf ++ rest)) = some (line, rest) := by
  induction line with
  | nil => rfl
  | cons byte line ih =>
      have hbyte : isBreak byte = false := hline byte (List.mem_cons_self ..)
      have hne : byte ≠ 13 := by
        rintro rfl
        cases hbyte
      rw [List.cons_append, cutLine, if_neg fun hend => hne hend.1, hbyte,
        if_neg Bool.false_ne_true, ih fun other hmem => hline other (List.mem_cons_of_mem _ hmem)]
      rfl

/-- What is cut off has no breaks. -/
theorem unbroken_of_cutLine {bytes line rest : Bytes} (hcut : cutLine bytes = some (line, rest)) :
    Unbroken line := by
  induction bytes generalizing line with
  | nil => cases hcut
  | cons byte bytes ih =>
      rw [cutLine] at hcut
      by_cases hend : byte = 13 ∧ bytes.head? = some 10
      · rw [if_pos hend] at hcut
        cases hcut
        exact fun _ hmem => absurd hmem List.not_mem_nil
      · rw [if_neg hend] at hcut
        cases hbyte : isBreak byte with
        | true =>
            rw [hbyte, if_pos rfl] at hcut
            cases hcut
        | false =>
            rw [hbyte, if_neg Bool.false_ne_true] at hcut
            obtain ⟨cut, hmore, heq⟩ := Option.map_eq_some_iff.mp hcut
            cases heq
            intro other hmem
            rcases List.mem_cons.mp hmem with rfl | hmem
            · exact hbyte
            · exact ih hmore other hmem

section

variable {lines : List Bytes}

/-- Lines without breaks are read up to the empty one. -/
theorem cutLines_writeLines (hlines : ∀ line ∈ lines, Unbroken line ∧ line ≠ []) (rest : Bytes)
    {fuel : ℕ} (hfuel : lines.length < fuel) :
    cutLines fuel (writeLines lines ++ rest) = some (lines, rest) := by
  induction lines generalizing fuel with
  | nil =>
      cases fuel with
      | zero => exact absurd hfuel (Nat.not_lt_zero _)
      | succ fuel => rfl
  | cons line lines ih =>
      cases fuel with
      | zero => exact absurd hfuel (Nat.not_lt_zero _)
      | succ fuel =>
          obtain ⟨hline, hne⟩ := hlines line (List.mem_cons_self ..)
          have hrest := ih (fun other hmem => hlines other (List.mem_cons_of_mem _ hmem))
            (Nat.lt_of_succ_lt_succ hfuel)
          have hshape : writeLines (line :: lines) ++ rest =
              line ++ (crlf ++ (writeLines lines ++ rest)) := by
            simp [writeLines]
          rw [cutLines, hshape, cutLine_append hline, Option.bind_some, if_neg hne, hrest]
          rfl

/-- There are more bytes than lines. -/
theorem length_le_writeLines (lines : List Bytes) : lines.length ≤ (writeLines lines).length := by
  induction lines with
  | nil => exact Nat.zero_le _
  | cons line lines ih =>
      simp only [writeLines, List.flatMap_cons, List.length_append, List.length_cons] at ih ⊢
      have hcrlf : crlf.length = 2 := rfl
      omega

/-- Lines without breaks are read as they were written. -/
theorem readLines_writeLines (hlines : ∀ line ∈ lines, Unbroken line ∧ line ≠ [])
    (rest : Bytes) : readLines (writeLines lines ++ rest) = some (lines, rest) := by
  apply cutLines_writeLines hlines
  rw [List.length_append]
  exact Nat.lt_succ_of_le ((length_le_writeLines lines).trans (Nat.le_add_right ..))

/-- Lines that are read have no breaks. -/
theorem unbroken_of_cutLines {fuel : ℕ} {bytes rest : Bytes}
    (hread : cutLines fuel bytes = some (lines, rest)) : ∀ line ∈ lines, Unbroken line := by
  induction fuel generalizing bytes lines with
  | zero => cases hread
  | succ fuel ih =>
      obtain ⟨cut, hcut, hmore⟩ := Option.bind_eq_some_iff.mp hread
      by_cases hempty : cut.1 = []
      · rw [if_pos hempty] at hmore
        cases hmore
        exact fun _ hmem => absurd hmem List.not_mem_nil
      · rw [if_neg hempty] at hmore
        obtain ⟨more, hrest, heq⟩ := Option.map_eq_some_iff.mp hmore
        cases heq
        intro line hmem
        rcases List.mem_cons.mp hmem with rfl | hmem
        · exact unbroken_of_cutLine hcut
        · exact ih hrest line hmem

end

/-! ## Fields -/

/-- The line of a field without a colon in its name is cut into the field. -/
theorem splitField_fieldLine {field : Field} (hcolon : 58 ∉ field.1) :
    splitField (fieldLine field) = some field := by
  obtain ⟨htake, hdrop⟩ := cut_fieldLine hcolon
  rw [splitField, htake, hdrop]
  simp

/-- A field that is cut from a line has no colon in its name and nothing that is not in the line. -/
theorem plain_of_splitField {line : Bytes} {field : Field} (hline : Unbroken line)
    (hsplit : splitField line = some field) : Plain field := by
  rw [splitField] at hsplit
  cases hdrop : line.dropWhile (· ≠ 58) with
  | nil =>
      rw [hdrop] at hsplit
      cases hsplit
  | cons colon after =>
      rw [hdrop] at hsplit
      cases hsplit
      have hafter : ∀ byte ∈ after, byte ∈ line := by
        intro byte hmem
        apply (List.dropWhile_suffix (· ≠ 58)).mem
        rw [hdrop]
        exact List.mem_cons_of_mem _ hmem
      constructor
      case name => exact fun byte hmem => hline byte ((List.takeWhile_prefix _).mem hmem)
      case colon =>
        intro hmem
        have hne := List.mem_takeWhile_imp hmem
        simp at hne
      case value =>
        intro byte hmem
        apply hline byte
        apply hafter
        dsimp only at hmem
        split at hmem
        · exact List.mem_of_mem_tail hmem
        · exact hmem

variable {first : Bytes} {fields : List Field}

/-- The lines of a head without breaks are read as they were written. -/
theorem readLines_writeHead (hfirst : Unbroken first) (hne : first ≠ [])
    (hfields : ∀ field ∈ fields, Unbroken field.1 ∧ Unbroken field.2) (rest : Bytes) :
    readLines (writeHead first fields ++ rest) = some (first :: fields.map fieldLine, rest) := by
  apply readLines_writeLines
  intro line hmem
  rcases List.mem_cons.mp hmem with rfl | hmem
  · exact ⟨hfirst, hne⟩
  · obtain ⟨field, hfield, rfl⟩ := List.mem_map.mp hmem
    obtain ⟨hname, hvalue⟩ := hfields field hfield
    have hcolon : Unbroken (ascii ": ") := by decide
    refine ⟨?_, by simp [fieldLine, ascii]⟩
    exact unbroken_append.mpr ⟨unbroken_append.mpr ⟨hname, hcolon⟩, hvalue⟩

/-- A head of plain fields is read as it was written. -/
theorem readHead_writeHead (hfirst : Unbroken first) (hne : first ≠ [])
    (hfields : ∀ field ∈ fields, Plain field) (rest : Bytes) :
    readHead (writeHead first fields ++ rest) = some (first, fields, rest) := by
  have hsplit : (fields.map fieldLine).mapM splitField = some fields := by
    induction fields with
    | nil => rfl
    | cons field fields ih =>
        have hmore := ih fun other hmem => hfields other (List.mem_cons_of_mem _ hmem)
        rw [List.map_cons, List.mapM_cons,
          splitField_fieldLine (hfields field (List.mem_cons_self ..)).colon, hmore]
        rfl
  rw [readHead, readLines_writeHead hfirst hne
    fun field hmem => ⟨(hfields field hmem).name, (hfields field hmem).value⟩]
  simp only [hsplit, Option.map_some]

/-- The fields of a head that is read are plain. -/
theorem plain_of_readHead {bytes rest : Bytes}
    (hread : readHead bytes = some (first, fields, rest)) : ∀ field ∈ fields, Plain field := by
  have hcut : ∀ {lines : List Bytes} {fields : List Field}, (∀ line ∈ lines, Unbroken line) →
      lines.mapM splitField = some fields → ∀ field ∈ fields, Plain field := by
    intro lines
    induction lines with
    | nil =>
        intro fields _ hnil field hmem
        cases hnil
        cases hmem
    | cons line lines ih =>
        intro fields hlines hmap field hmem
        rw [List.mapM_cons] at hmap
        obtain ⟨head, hhead, hmap⟩ := Option.bind_eq_some_iff.mp hmap
        obtain ⟨tail, htail, heq⟩ := Option.bind_eq_some_iff.mp hmap
        cases heq
        rcases List.mem_cons.mp hmem with rfl | hmem
        · exact plain_of_splitField (hlines line (List.mem_cons_self ..)) hhead
        · exact ih (fun other hmem => hlines other (List.mem_cons_of_mem _ hmem)) htail field hmem
  cases hlines : readLines bytes with
  | none =>
      rw [readHead, hlines] at hread
      cases hread
  | some cut =>
      cases cut with
      | mk lines after =>
          cases lines with
          | nil =>
              rw [readHead, hlines] at hread
              cases hread
          | cons line lines =>
              rw [readHead, hlines] at hread
              obtain ⟨read, hsplit, heq⟩ := Option.map_eq_some_iff.mp hread
              cases heq
              apply hcut _ hsplit
              intro other hmem
              exact unbroken_of_cutLines hlines other (List.mem_cons_of_mem _ hmem)

end Pounce.Math.HeadLines
