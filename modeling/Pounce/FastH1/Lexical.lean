/-
# The lexical content of accepted requests

`Lexical` is what the consumers of an accepted request take for granted about its
bytes: the method and the header names are tokens, nothing carries a control
character that could end a line, and every header line of the head is there.

The target always is clean, and header names always are lower case. The rest
depends on the head. The end anchor of the method pattern lets one line feed
through; a header line is cut at its first colon-space, so the name may hold any
byte but a space and NUL; values are not looked at; a line without a colon is
skipped. `LexicalHead` says which heads avoid all of this, line by line, and
`parseRequest_lexical_iff` that these are exactly the heads whose accepted
requests are lexical.
-/

import Pounce.FastH1.Framing
import Pounce.FastH1.Prefixes

namespace Pounce.FastH1

open Pounce.Math Pounce.Math.Bytes

variable {line : Bytes} {field : Header}

/-! ## Lexical classes -/

/-- A token: one or more token characters. -/
def Token (bytes : Bytes) : Prop := bytes ≠ [] ∧ ∀ byte ∈ bytes, isTchar byte

/-- Free of the characters that end a line or a string: NUL, CR and LF. -/
def Clean (bytes : Bytes) : Prop := ∀ byte ∈ bytes, byte ∉ [0, 10, 13]

/-- The line holds the field: its name in some case, a colon, white space, its value. -/
def Represents (line : Bytes) (field : Header) : Prop :=
  ∃ name before, line = name ++ 58 :: (before ++ field.2) ∧ lower name = field.1 ∧
    ∀ byte ∈ before, isSpace byte

/-- What is expected of the bytes of a request, and of the lines it was read from. -/
structure Lexical (head : Bytes) (request : RequestReceived) : Prop where
  method : Token request.method
  target : ∀ byte ∈ request.target, byte ∉ [0, 10, 13, 32]
  names : ∀ field ∈ request.headers, Token field.1 ∧ lower field.1 = field.1
  values : ∀ field ∈ request.headers, Clean field.2
  /-- The fields are those of the non-empty header lines, one for each, in order. -/
  represented : List.Forall₂ Represents ((lines head).tail.filter (· ≠ [])) request.headers

/-! ## Proper lines -/

/-- A header line with a token before its first colon. Its value follows a colon-space, or the
line has no colon-space and the value follows the colon and any white space. -/
def ProperLine (line : Bytes) : Prop :=
  ∃ name rest, line = name ++ 58 :: rest ∧ Token name ∧
    ((∃ value, rest = 32 :: value ∧ Clean value) ∨ (¬ ascii ": " <:+: line ∧ Clean (lstrip rest)))

/-- A head whose first word holds no line feed, and whose header lines are proper. -/
structure LexicalHead (head : Bytes) : Prop where
  method : 10 ∉ (firstLine head).takeWhile (· ≠ 32)
  lines : ∀ line ∈ (Bytes.lines head).tail, line ≠ [] → ProperLine line

/-- Lowering keeps token characters, and makes none. -/
theorem isTchar_lowerByte (byte : UInt8) : isTchar (lowerByte byte) = isTchar byte := by
  have hall : ∀ code < 256, isTchar (lowerByte (UInt8.ofNat code)) = isTchar (UInt8.ofNat code) := by
    decide +kernel
  simpa using hall byte.toNat byte.toNat_lt

theorem token_lower {bytes : Bytes} : Token (lower bytes) ↔ Token bytes := by
  simp [Token, lower, isTchar_lowerByte]

/-- A token contains no colon. -/
theorem Token.colon_notMem {bytes : Bytes} (htoken : Token bytes) : 58 ∉ bytes :=
  fun hmem => absurd (htoken.2 58 hmem) (by decide)

/-- What stands before a colon, read as a split of the line. -/
theorem eq_append_of_findSlice_colonSpace {index : ℕ}
    (hfound : findSlice (ascii ": ") line = some index) :
    line = line.take index ++ 58 :: (32 :: line.drop (index + 2)) :=
  findSlice_split hfound

/-- A field the parser reads is represented by its line. -/
theorem represents_of_parsedField (hparsed : parsedField line = some field) :
    Represents line field := by
  simp only [parsedField, Option.map_eq_some_iff] at hparsed
  obtain ⟨⟨name, value⟩, hsplit, rfl⟩ := hparsed
  simp only [splitField] at hsplit
  split at hsplit
  case h_1 colon hcolon =>
    cases hsplit
    refine ⟨line.take colon, [32], eq_append_of_findSlice_colonSpace hcolon, rfl, ?_⟩
    intro byte hmem
    rw [List.mem_singleton.mp hmem]
    decide
  case h_2 =>
    split at hsplit
    case h_1 colon hcolon =>
      cases hsplit
      refine ⟨line.take colon, (line.drop (colon + 1)).takeWhile isSpace, ?_, rfl,
        fun byte hmem => List.mem_takeWhile_imp hmem⟩
      show line = line.take colon ++ 58 :: (_ ++ lstrip (line.drop (colon + 1)))
      rw [lstrip, List.takeWhile_append_dropWhile]
      exact (eq_append_of_findSlice_singleton hcolon).1
    case h_2 => cases hsplit

/-- The proper lines are those read as a field with a token and a clean value. -/
theorem properLine_iff :
    ProperLine line ↔ ∃ field, parsedField line = some field ∧ Token field.1 ∧ Clean field.2 := by
  constructor
  · rintro ⟨name, rest, hline, htoken, hvalue⟩
    have hcolon : findSlice (ascii ":") line = some name.length := by
      rw [hline]
      exact findSlice_singleton_append htoken.colon_notMem rest
    have hdrop : line.drop (name.length + 1) = rest := by
      rw [hline, ← List.drop_drop, List.drop_left, List.drop_one, List.tail_cons]
    have htake : line.take name.length = name := by rw [hline, List.take_left]
    rcases hvalue with ⟨value, hrest, hclean⟩ | ⟨hnone, hclean⟩
    · have hsplit : findSlice (ascii ": ") line = some name.length := by
        cases hspace : findSlice (ascii ": ") line with
        | none =>
            refine absurd ?_ (findSlice_eq_none.mp hspace)
            rw [hline, hrest]
            exact ⟨name, value, by simp [ascii]⟩
        | some index =>
            obtain ⟨first, hle, hfirst⟩ := findSlice_colon_of_colonSpace hspace
            obtain rfl : first = name.length := Option.some.inj (hfirst.symm.trans hcolon)
            by_contra hne
            have hat : ascii ": " <+: line.drop name.length := by
              rw [hline, List.drop_left, hrest]
              exact ⟨value, rfl⟩
            have hlt : name.length < index := by
              refine lt_of_le_of_ne hle fun heq => hne (by rw [heq])
            exact (findSlice_eq_some.mp hspace).2.2 name.length hlt hat
      refine ⟨(lower name, value), ?_, token_lower.mpr htoken, hclean⟩
      have hafter : line.drop (name.length + 2) = value := by
        rw [show name.length + 2 = name.length + 1 + 1 from rfl, ← List.drop_drop, hdrop, hrest,
          List.drop_one, List.tail_cons]
      simp [parsedField, splitField, hsplit, htake, hafter]
    · refine ⟨(lower name, lstrip rest), ?_, token_lower.mpr htoken, hclean⟩
      have hmissing := findSlice_eq_none.mpr hnone
      simp [parsedField, splitField, hmissing, hcolon, htake, hdrop]
  · rintro ⟨field, hparsed, htoken, hclean⟩
    simp only [parsedField, Option.map_eq_some_iff] at hparsed
    obtain ⟨⟨name, value⟩, hsplit, rfl⟩ := hparsed
    rw [token_lower] at htoken
    simp only [splitField] at hsplit
    split at hsplit
    case h_1 colon hcolon =>
      cases hsplit
      exact ⟨line.take colon, 32 :: line.drop (colon + 2), eq_append_of_findSlice_colonSpace hcolon,
        htoken, Or.inl ⟨line.drop (colon + 2), rfl, hclean⟩⟩
    case h_2 hnone =>
      split at hsplit
      case h_1 colon hcolon =>
        cases hsplit
        exact ⟨line.take colon, line.drop (colon + 1), (eq_append_of_findSlice_singleton hcolon).1,
          htoken, Or.inr ⟨findSlice_eq_none.mp hnone, hclean⟩⟩
      case h_2 => cases hsplit

/-- The empty line is no field. -/
@[simp]
theorem parsedField_nil : parsedField [] = none := rfl

/-- If as many lines are read as fields as are not empty, every line that is not empty is. -/
theorem isSome_of_length_eq {block : List Bytes}
    (hsame : (block.filter (· ≠ [])).length = (block.filterMap parsedField).length) :
    ∀ line ∈ block, line ≠ [] → (parsedField line).isSome := by
  have hread : ∀ line : Bytes, (parsedField line).isSome = true → decide (line ≠ []) = true := by
    intro line hsome
    by_contra hempty
    rw [show line = [] by simpa using hempty] at hsome
    cases hsome
  rw [← List.countP_eq_length_filter, List.length_filterMap_eq_countP] at hsame
  induction block with
  | nil => exact fun line hmem => absurd hmem List.not_mem_nil
  | cons line block ih =>
      have hle : block.countP (fun line => (parsedField line).isSome) ≤
          block.countP (fun line => decide (line ≠ [])) :=
        List.countP_mono_left fun other _ => hread other
      rw [List.countP_cons, List.countP_cons] at hsame
      have hhere : decide (line ≠ []) = true → (parsedField line).isSome = true := by
        intro hne
        by_contra hnone
        rw [if_pos hne, if_neg hnone] at hsame
        omega
      have hrest : block.countP (fun line => decide (line ≠ [])) =
          block.countP (fun line => (parsedField line).isSome) := by
        by_cases hne : decide (line ≠ []) = true
        · rw [if_pos hne, if_pos (hhere hne)] at hsame
          omega
        · rw [if_neg hne, if_neg fun hsome => hne (hread line hsome)] at hsame
          omega
      intro other hmem hother
      rcases List.mem_cons.mp hmem with rfl | hmem
      · exact hhere (by simpa using hother)
      · exact ih hrest other hmem hother

/-- The fields read from some lines represent the non-empty ones, one for each, exactly when each
of these is read as a field. -/
theorem forall₂_represents_iff (block : List Bytes) :
    List.Forall₂ Represents (block.filter (· ≠ [])) (block.filterMap parsedField) ↔
      ∀ line ∈ block, line ≠ [] → (parsedField line).isSome := by
  constructor
  · intro hall
    exact isSome_of_length_eq hall.length_eq
  · intro hall
    induction block with
    | nil => exact List.Forall₂.nil
    | cons line block ih =>
        have hrest := ih fun other hmem => hall other (List.mem_cons_of_mem _ hmem)
        by_cases hempty : line = []
        · subst hempty
          rw [List.filter_cons_of_neg (by simp), List.filterMap_cons_none parsedField_nil]
          exact hrest
        · obtain ⟨field, hfield⟩ :=
            Option.isSome_iff_exists.mp (hall line (List.mem_cons_self ..) hempty)
          rw [List.filter_cons_of_pos (by simpa using hempty), List.filterMap_cons_some hfield]
          exact List.Forall₂.cons (represents_of_parsedField hfield) hrest

/-! ## Accepted requests -/

/-- A method the pattern matches is a token unless a line feed ends it. -/
theorem token_iff_of_methodMatches {method : Bytes} (hmatches : methodMatches method = true) :
    Token method ↔ 10 ∉ method := by
  constructor
  · exact fun htoken hmem => absurd (htoken.2 10 hmem) (by decide)
  · intro hclean
    have hlast : ¬ method.getLast? = some 10 := fun hlast => hclean (List.mem_of_getLast? hlast)
    simp only [methodMatches, if_neg hlast, Bool.and_eq_true, decide_eq_true_eq,
      List.all_eq_true] at hmatches
    exact ⟨by simpa using hmatches.1, hmatches.2⟩

/-- The pattern matches tokens. -/
theorem methodMatches_of_token {method : Bytes} (htoken : Token method) :
    methodMatches method = true := by
  have hlast : ¬ method.getLast? = some 10 := fun hlast =>
    absurd (htoken.2 10 (List.mem_of_getLast? hlast)) (by decide)
  simp only [methodMatches, if_neg hlast, Bool.and_eq_true, decide_eq_true_eq, List.all_eq_true]
  exact htoken

/-- The method is the first word of the first line. -/
theorem takeWhile_ne_space {method rest : Bytes} (hspace : 32 ∉ method) :
    (method ++ 32 :: rest).takeWhile (· ≠ 32) = method := by
  have hword : ∀ byte ∈ method, decide (byte ≠ 32) = true := by
    intro byte hmem
    rw [decide_eq_true_eq]
    rintro rfl
    exact hspace hmem
  rw [List.takeWhile_append_of_pos hword, List.takeWhile_cons_of_neg (by simp), List.append_nil]

/-- An accepted request is lexical exactly when its head is. -/
theorem parseRequest_lexical_iff {buf : Bytes} {length maxHeaders maxHeaderSize : ℕ}
    {parsed : Parsed}
    (hparse : parseRequest buf length maxHeaders maxHeaderSize = .ok (some parsed)) :
    Lexical (headOf (buf.take length)) parsed.request ↔
      LexicalHead (headOf (buf.take length)) := by
  obtain ⟨headerEnd, request, scan, hend, -, hhead, -, rfl⟩ := parseRequest_some.mp hparse
  rw [← (headOf_eq hend).1] at hhead
  generalize headOf (buf.take length) = head at hhead
  obtain ⟨hinv, -, hheaders⟩ := parseHead_ok hhead
  rw [hinv.headers] at hheaders
  obtain ⟨parts, hparts, hmethod, htarget⟩ : ∃ parts, parseRequestLine (firstLine head) = .ok parts ∧
      request.method = parts.method ∧ request.target = parts.target := by
    simp only [parseHead] at hhead
    cases hparts : parseRequestLine (firstLine head) with
    | error error =>
        rw [hparts] at hhead
        cases hhead
    | ok parts =>
        rw [hparts] at hhead
        simp only [] at hhead
        split at hhead
        · cases hhead
        · split at hhead
          · cases hhead
          · cases hhead
            exact ⟨parts, rfl, rfl, rfl⟩
  obtain ⟨version, hline, hmatches, hclean, -⟩ := parseRequestLine_ok hparts
  have hword : (firstLine head).takeWhile (· ≠ 32) = request.method := by
    rw [hline, hmethod]
    exact takeWhile_ne_space (space_notMem_of_methodMatches hmatches)
  rw [← hmethod] at hmatches
  have hproper : (∀ line ∈ (lines head).tail, line ≠ [] → ProperLine line) ↔
      (∀ line ∈ (lines head).tail, line ≠ [] → (parsedField line).isSome) ∧
        ∀ field ∈ request.headers, Token field.1 ∧ Clean field.2 := by
    rw [hheaders]
    constructor
    · intro hall
      refine ⟨fun line hmem hne => ?_, fun field hmem => ?_⟩
      · obtain ⟨field, hfield, -⟩ := properLine_iff.mp (hall line hmem hne)
        rw [hfield, Option.isSome_some]
      · obtain ⟨line, hline, hfield⟩ := List.mem_filterMap.mp hmem
        have hne : line ≠ [] := by
          rintro rfl
          cases hfield
        obtain ⟨other, hother, hboth⟩ := properLine_iff.mp (hall line hline hne)
        rw [hfield, Option.some.injEq] at hother
        exact hother ▸ hboth
    · rintro ⟨hsome, hfields⟩ line hmem hne
      obtain ⟨field, hfield⟩ := Option.isSome_iff_exists.mp (hsome line hmem hne)
      have hlexical := hfields field (List.mem_filterMap.mpr ⟨line, hmem, hfield⟩)
      exact properLine_iff.mpr ⟨field, hfield, hlexical⟩
  have hlower : ∀ field ∈ request.headers, lower field.1 = field.1 := by
    intro field hmem
    rw [hheaders] at hmem
    obtain ⟨line, -, hfield⟩ := List.mem_filterMap.mp hmem
    obtain ⟨name, -, -, hname, -⟩ := represents_of_parsedField hfield
    rw [← hname, lower_lower]
  constructor
  · intro hlexical
    refine ⟨?_, hproper.mpr ⟨?_, fun field hmem => ?_⟩⟩
    · rw [hword]
      exact (token_iff_of_methodMatches hmatches).mp hlexical.method
    · have hall := hlexical.represented
      rw [hheaders] at hall
      exact (forall₂_represents_iff _).mp hall
    · exact ⟨(hlexical.names field hmem).1, hlexical.values field hmem⟩
  · intro hhead
    obtain ⟨hsome, hfields⟩ := hproper.mp hhead.lines
    refine ⟨(token_iff_of_methodMatches hmatches).mpr (hword ▸ hhead.method), htarget ▸ hclean,
      fun field hmem => ⟨(hfields field hmem).1, hlower field hmem⟩,
      fun field hmem => (hfields field hmem).2, ?_⟩
    rw [hheaders]
    exact (forall₂_represents_iff _).mpr hsome

/-- A request with a Host field. -/
theorem parseRequest_lexical_iff_host :
    Lexical (headOf ((ascii "GET /a HTTP/1.1\r\nHost: a\r\n\r\n").take 28))
        { method := ascii "GET", target := ascii "/a", headers := [(ascii "host", ascii "a")]
          httpVersion := .http11 } ↔
      LexicalHead (headOf ((ascii "GET /a HTTP/1.1\r\nHost: a\r\n\r\n").take 28)) :=
  @parseRequest_lexical_iff _ 28 100 16384
    { request := { method := ascii "GET", target := ascii "/a"
                   headers := [(ascii "host", ascii "a")], httpVersion := .http11 }
      body := [], consumed := 28, chunked := false } (by decide)

/-- The method `GET` with a line feed behind it is accepted. -/
theorem parseRequest_method_lineFeed :
    ¬ ∀ (buf : Bytes) (maxHeaders maxHeaderSize : ℕ) (parsed : Parsed),
      parseRequest buf buf.length maxHeaders maxHeaderSize = .ok (some parsed) →
        Lexical (headOf buf) parsed.request := by
  intro hclaim
  have hlexical := hclaim (ascii "GET\n / HTTP/1.1\r\n\r\n") 100 16384
    { request := { method := ascii "GET\n", target := ascii "/", headers := []
                   httpVersion := .http11 }
      body := [], consumed := 19, chunked := false } (by decide)
  exact absurd (hlexical.method.2 10 (by decide)) (by decide)

end Pounce.FastH1
