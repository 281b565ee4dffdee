/-
# The text exposition of metrics

An exposition is a text of lines: comments that say what a metric is for and of which type it is, and
samples, which have a name, labels and a value. Label values are quoted, with escapes for the quote,
the backslash and the end of a line. What is written is read back, whatever the label values are.
-/

import Mathlib.Data.List.Infix
import Mathlib.Data.List.TakeWhile
import Mathlib.Tactic.Common

namespace Pounce.Math

/-- A line of an exposition. -/
inductive MetricLine
  | help (name text : List Char)
  | type (name kind : List Char)
  | sample (name : List Char) (labels : List (List Char × List Char)) (value : List Char)
  deriving DecidableEq, Repr

namespace Exposition

/-! ## Writing -/

/-- How a character of a label value is written. -/
def escapeChar (char : Char) : List Char :=
  if char = '\\' then ['\\', '\\']
  else if char = '"' then ['\\', '"']
  else if char = '\n' then ['\\', 'n']
  else [char]

/-- A label. -/
def labelText (label : List Char × List Char) : List Char :=
  label.1 ++ '=' :: '"' :: (label.2.flatMap escapeChar ++ ['"'])

/-- The labels behind the first one. -/
def moreLabelsText (labels : List (List Char × List Char)) : List Char :=
  labels.flatMap fun label => ',' :: labelText label

/-- The labels, if there are any. -/
def labelsText : List (List Char × List Char) → List Char
  | [] => []
  | label :: labels => '{' :: (labelText label ++ (moreLabelsText labels ++ ['}']))

/-- A line. -/
def lineText : MetricLine → List Char
  | .help name text => '#' :: ' ' :: 'H' :: 'E' :: 'L' :: 'P' :: ' ' :: (name ++ ' ' :: text)
  | .type name kind => '#' :: ' ' :: 'T' :: 'Y' :: 'P' :: 'E' :: ' ' :: (name ++ ' ' :: kind)
  | .sample name labels value => name ++ (labelsText labels ++ ' ' :: value)

/-- The exposition of some lines, of which each is ended. -/
def text (lines : List MetricLine) : List Char :=
  ['\n'].intercalate (lines.map lineText ++ [[]])

/-! ## Reading -/

/-- What may begin a name. -/
def startsName (char : Char) : Bool := char.isAlpha || char = '_' || char = ':'

/-- What a name may consist of. -/
def isNameChar (char : Char) : Bool := char.isAlphanum || char = '_' || char = ':'

/-- A name at the beginning of a text, and the rest of it. -/
def readName (text : List Char) : Option (List Char × List Char) :=
  match text with
  | [] => none
  | char :: _ =>
      if startsName char then some (text.takeWhile isNameChar, text.dropWhile isNameChar) else none

/-- A label value up to the closing quote, and what follows it. -/
def readQuoted : List Char → Option (List Char × List Char)
  | [] => none
  | '"' :: rest => some ([], rest)
  | '\\' :: '\\' :: rest => (readQuoted rest).map fun read => ('\\' :: read.1, read.2)
  | '\\' :: '"' :: rest => (readQuoted rest).map fun read => ('"' :: read.1, read.2)
  | '\\' :: 'n' :: rest => (readQuoted rest).map fun read => ('\n' :: read.1, read.2)
  | '\\' :: _ => none
  | char :: rest => (readQuoted rest).map fun read => (char :: read.1, read.2)

/-- A label, and what follows it. -/
def readLabel (text : List Char) : Option ((List Char × List Char) × List Char) :=
  match readName text with
  | some (name, '=' :: '"' :: rest) =>
      (readQuoted rest).map fun read => ((name, read.1), read.2)
  | _ => none

/-- The labels behind the first one, up to the closing brace; the fuel bounds how many there are. -/
def readMoreLabels : ℕ → List Char → Option (List (List Char × List Char) × List Char)
  | fuel + 1, ',' :: text =>
      match readLabel text with
      | some (label, rest) =>
          (readMoreLabels fuel rest).map fun read => (label :: read.1, read.2)
      | none => none
  | _ + 1, '}' :: rest => some ([], rest)
  | _, _ => none

/-- The labels, if there are any. -/
def readLabels (text : List Char) : Option (List (List Char × List Char) × List Char) :=
  match text with
  | '{' :: rest =>
      match readLabel rest with
      | some (label, rest) =>
          (readMoreLabels (rest.length + 1) rest).map fun read => (label :: read.1, read.2)
      | none => none
  | _ => some ([], text)

/-- The value at the end of a line. -/
def readValue (text : List Char) : Option (List Char) :=
  match text with
  | ' ' :: value => if value ≠ [] ∧ ' ' ∉ value then some value else none
  | _ => none

/-- The line of a sample. -/
def readSample (text : List Char) : Option MetricLine :=
  match readName text with
  | some (name, rest) =>
      match readLabels rest with
      | some (labels, rest) => (readValue rest).map fun value => .sample name labels value
      | none => none
  | none => none

/-- The name in a comment, and what follows the blank behind it. -/
def readComment (text : List Char) : Option (List Char × List Char) :=
  match readName text with
  | some (name, ' ' :: rest) => some (name, rest)
  | _ => none

/-- A line. Other comments are not read. -/
def readLine : List Char → Option MetricLine
  | '#' :: ' ' :: 'H' :: 'E' :: 'L' :: 'P' :: ' ' :: rest =>
      (readComment rest).map fun read => .help read.1 read.2
  | '#' :: ' ' :: 'T' :: 'Y' :: 'P' :: 'E' :: ' ' :: rest =>
      (readComment rest).map fun read => .type read.1 read.2
  | line => readSample line

/-- The lines of an exposition, but for those that are empty. -/
def read (text : List Char) : Option (List MetricLine) :=
  ((text.splitOn '\n').filter (· ≠ [])).mapM readLine

/-! ## Reading what was written -/

/-- A name. -/
structure IsName (name : List Char) : Prop where
  starts : ∃ char, name.head? = some char ∧ startsName char = true
  chars : ∀ char ∈ name, isNameChar char = true

/-- A line whose names are names, and whose texts stay on the line. -/
def Clean : MetricLine → Prop
  | .help name text => IsName name ∧ '\n' ∉ text
  | .type name kind => IsName name ∧ '\n' ∉ kind
  | .sample name labels value => IsName name ∧ (∀ label ∈ labels, IsName label.1) ∧
      value ≠ [] ∧ ' ' ∉ value ∧ '\n' ∉ value

theorem readName_append {name rest : List Char} (hname : IsName name)
    (hends : ∀ char, rest.head? = some char → isNameChar char = false) :
    readName (name ++ rest) = some (name, rest) := by
  obtain ⟨char, hchar, hstarts⟩ := hname.starts
  have htake : (name ++ rest).takeWhile isNameChar = name := by
    rw [List.takeWhile_append_of_pos hname.chars]
    cases rest with
    | nil => rw [List.takeWhile_nil, List.append_nil]
    | cons first rest =>
        rw [List.takeWhile_cons_of_neg (by simp [hends first rfl]), List.append_nil]
  have hdrop : (name ++ rest).dropWhile isNameChar = rest := by
    rw [List.dropWhile_append_of_pos hname.chars]
    cases rest with
    | nil => rfl
    | cons first rest => rw [List.dropWhile_cons_of_neg (by simp [hends first rfl])]
  cases name with
  | nil => cases hchar
  | cons first name =>
      obtain rfl := Option.some.inj hchar
      rw [List.cons_append, readName, if_pos hstarts, ← List.cons_append, htake, hdrop]

theorem readQuoted_escape (char : Char) (rest : List Char) :
    readQuoted (escapeChar char ++ rest) =
      (readQuoted rest).map fun read => (char :: read.1, read.2) := by
  rw [escapeChar]
  split_ifs with hslash hquote hline
  · rw [hslash]
    rfl
  · rw [hquote]
    rfl
  · rw [hline]
    rfl
  · rw [List.singleton_append, readQuoted]
    all_goals simp_all

theorem readQuoted_flatMap (value rest : List Char) :
    readQuoted (value.flatMap escapeChar ++ '"' :: rest) = some (value, rest) := by
  induction value with
  | nil => rfl
  | cons char value ih =>
      rw [List.flatMap_cons, List.append_assoc, readQuoted_escape, ih]
      rfl

theorem readLabel_labelText {label : List Char × List Char} (hname : IsName label.1)
    (rest : List Char) : readLabel (labelText label ++ rest) = some (label, rest) := by
  have hread : readName (labelText label ++ rest) =
      some (label.1, '=' :: '"' :: (label.2.flatMap escapeChar ++ '"' :: rest)) := by
    rw [labelText, List.append_assoc]
    have hrest : '=' :: '"' :: (label.2.flatMap escapeChar ++ ['"']) ++ rest =
        '=' :: '"' :: (label.2.flatMap escapeChar ++ '"' :: rest) := by simp
    rw [hrest]
    refine readName_append hname fun char hchar => ?_
    obtain rfl := Option.some.inj hchar
    rfl
  rw [readLabel, hread]
  simp only [readQuoted_flatMap]
  rfl

theorem readMoreLabels_text {labels : List (List Char × List Char)}
    (hnames : ∀ label ∈ labels, IsName label.1) (rest : List Char) {fuel : ℕ}
    (hfuel : labels.length < fuel) :
    readMoreLabels fuel (moreLabelsText labels ++ '}' :: rest) = some (labels, rest) := by
  induction labels generalizing fuel with
  | nil =>
      obtain ⟨fuel, rfl⟩ := Nat.exists_eq_add_one.mpr hfuel
      rfl
  | cons label labels ih =>
      obtain ⟨hname, hnames⟩ := List.forall_mem_cons.mp hnames
      obtain ⟨fuel, rfl⟩ := Nat.exists_eq_add_one.mpr (Nat.zero_lt_of_lt hfuel)
      rw [List.length_cons] at hfuel
      have hmore : moreLabelsText (label :: labels) ++ '}' :: rest =
          ',' :: (labelText label ++ (moreLabelsText labels ++ '}' :: rest)) := by
        simp [moreLabelsText]
      rw [hmore, readMoreLabels, readLabel_labelText hname]
      simp only [ih hnames (Nat.lt_of_succ_lt_succ hfuel)]
      rfl

theorem length_le_moreLabelsText (labels : List (List Char × List Char)) :
    labels.length ≤ (moreLabelsText labels).length := by
  induction labels with
  | nil => exact le_rfl
  | cons label labels ih =>
      rw [moreLabelsText, List.flatMap_cons, List.length_append, List.length_cons, List.length_cons]
      rw [moreLabelsText] at ih
      omega

theorem readLabels_text {labels : List (List Char × List Char)}
    (hnames : ∀ label ∈ labels, IsName label.1) (value : List Char) :
    readLabels (labelsText labels ++ ' ' :: value) = some (labels, ' ' :: value) := by
  cases labels with
  | nil => rfl
  | cons label labels =>
      obtain ⟨hname, hnames⟩ := List.forall_mem_cons.mp hnames
      have htext : labelsText (label :: labels) ++ ' ' :: value =
          '{' :: (labelText label ++ (moreLabelsText labels ++ '}' :: ' ' :: value)) := by
        simp [labelsText]
      have hfuel := length_le_moreLabelsText labels
      rw [htext, readLabels, readLabel_labelText hname]
      simp only
      rw [readMoreLabels_text hnames _ (by simp; omega)]
      rfl

/-- What follows a name in a sample is no part of it. -/
theorem head_labelsText (labels : List (List Char × List Char)) (value : List Char) (char : Char)
    (hchar : (labelsText labels ++ ' ' :: value).head? = some char) : isNameChar char = false := by
  cases labels with
  | nil =>
      obtain rfl := Option.some.inj hchar
      rfl
  | cons label labels =>
      obtain rfl := Option.some.inj hchar
      rfl

theorem readComment_append {name : List Char} (hname : IsName name) (text : List Char) :
    readComment (name ++ ' ' :: text) = some (name, text) := by
  have hread : readName (name ++ ' ' :: text) = some (name, ' ' :: text) := by
    refine readName_append hname fun char hchar => ?_
    obtain rfl := Option.some.inj hchar
    rfl
  rw [readComment, hread]
  rfl

/-- A line that begins like a sample is read as one. -/
theorem readLine_of_startsName {char : Char} (hstarts : startsName char = true) (rest : List Char) :
    readLine (char :: rest) = readSample (char :: rest) := by
  have hne : char ≠ '#' := by
    rintro rfl
    cases hstarts
  rw [readLine]
  all_goals simp [hne]

theorem readLine_lineText {line : MetricLine} (hclean : Clean line) :
    readLine (lineText line) = some line := by
  cases line with
  | help name text =>
      obtain ⟨hname, _⟩ := hclean
      rw [lineText, readLine, readComment_append hname]
      rfl
  | type name kind =>
      obtain ⟨hname, _⟩ := hclean
      rw [lineText, readLine, readComment_append hname]
      rfl
  | sample name labels value =>
      obtain ⟨hname, hlabels, hne, hblank, _⟩ := hclean
      have hread : readSample (lineText (.sample name labels value)) =
          some (.sample name labels value) := by
        rw [readSample, lineText, readName_append hname (head_labelsText labels value)]
        simp only
        rw [readLabels_text hlabels]
        simp only [readValue]
        rw [if_pos ⟨hne, hblank⟩]
        rfl
      obtain ⟨char, hchar, hstarts⟩ := hname.starts
      cases name with
      | nil => cases hchar
      | cons first name =>
          obtain rfl := Option.some.inj hchar
          rw [← hread]
          exact readLine_of_startsName hstarts _

theorem not_mem_escape (value : List Char) : '\n' ∉ value.flatMap escapeChar := by
  rw [List.mem_flatMap]
  rintro ⟨char, _, hmem⟩
  rw [escapeChar] at hmem
  split_ifs at hmem with hslash hquote hline
  · simp at hmem
  · simp at hmem
  · simp at hmem
  · exact hline (List.mem_singleton.mp hmem).symm

theorem IsName.not_mem_newline {name : List Char} (hname : IsName name) : '\n' ∉ name := by
  intro hmem
  have hchar := hname.chars _ hmem
  cases hchar

theorem not_mem_labelText {label : List Char × List Char} (hname : IsName label.1) :
    '\n' ∉ labelText label := by
  have hvalue := not_mem_escape label.2
  rw [labelText, List.mem_append, not_or]
  refine ⟨hname.not_mem_newline, ?_⟩
  simp only [List.mem_cons, List.mem_append, hvalue]
  decide

theorem not_mem_labelsText {labels : List (List Char × List Char)}
    (hnames : ∀ label ∈ labels, IsName label.1) : '\n' ∉ labelsText labels := by
  cases labels with
  | nil => exact List.not_mem_nil
  | cons label labels =>
      obtain ⟨hname, hnames⟩ := List.forall_mem_cons.mp hnames
      have hmore : '\n' ∉ moreLabelsText labels := by
        rw [moreLabelsText, List.mem_flatMap]
        rintro ⟨other, hother, hmem⟩
        rw [List.mem_cons] at hmem
        exact not_mem_labelText (hnames other hother) (hmem.resolve_left (by decide))
      simp [labelsText, not_mem_labelText hname, hmore]

/-- A line stays one line. -/
theorem not_mem_lineText {line : MetricLine} (hclean : Clean line) : '\n' ∉ lineText line := by
  cases line with
  | help name text | type name text =>
      obtain ⟨hname, htext⟩ := hclean
      simp [lineText, hname.not_mem_newline, htext]
  | sample name labels value =>
      obtain ⟨hname, hlabels, _, _, hvalue⟩ := hclean
      simp [lineText, hname.not_mem_newline, not_mem_labelsText hlabels, hvalue]

theorem lineText_ne_nil {line : MetricLine} (hclean : Clean line) : lineText line ≠ [] := by
  cases line with
  | help | type => simp [lineText]
  | sample name labels value => simp [lineText]

/-- An exposition is read as it was written. -/
theorem read_text {lines : List MetricLine} (hclean : ∀ line ∈ lines, Clean line) :
    read (text lines) = some lines := by
  have hsplit : (text lines).splitOn '\n' = lines.map lineText ++ [[]] := by
    refine List.splitOn_intercalate _ ?_ (by simp)
    intro part hpart
    rw [List.mem_append, List.mem_map, List.mem_singleton] at hpart
    rcases hpart with ⟨line, hline, rfl⟩ | rfl
    · exact not_mem_lineText (hclean line hline)
    · exact List.not_mem_nil
  have hfilter : (lines.map lineText ++ [[]]).filter (· ≠ []) = lines.map lineText := by
    rw [List.filter_append, List.filter_eq_self.mpr]
    · simp
    · intro part hpart
      obtain ⟨line, hline, rfl⟩ := List.mem_map.mp hpart
      simpa using lineText_ne_nil (hclean line hline)
  rw [read, hsplit, hfilter]
  clear hsplit hfilter
  induction lines with
  | nil => rfl
  | cons line lines ih =>
      obtain ⟨hline, hlines⟩ := List.forall_mem_cons.mp hclean
      rw [List.map_cons, List.mapM_cons, readLine_lineText hline, ih hlines]
      rfl

end Exposition

end Pounce.Math
