/-
# Parsing a growing buffer

The synchronous worker calls the parser on every prefix of a request that has
arrived. `Settled` is what it relies on: a prefix that is accepted or refused
settles the outcome of every longer buffer, and an accepted request uses bytes
that are there.

The head limit is checked twice. Without the blank line the parser compares the
whole buffer with the limit, with it only the head. A head just under the limit
whose blank line has arrived in part is refused on the first count and would be
accepted on the second: `CutHead` is that case, and `settled_iff` says that it is
the only one. `ValidHead` is the grammar of the heads the parser takes, written
without its loop.
-/

import Pounce.FastH1

namespace Pounce.FastH1

open Pounce.Math Pounce.Math.Bytes

variable {maxHeaders maxHeaderSize : ℕ} {data pre head : Bytes}

/-! ## The request line -/

/-- A method token, a target and a supported version, with single spaces between. -/
def ValidRequestLine (line : Bytes) : Prop :=
  ∃ method target version, line = method ++ 32 :: (target ++ 32 :: version) ∧
    methodMatches method = true ∧ (∀ byte ∈ target, byte ∉ [0, 10, 13, 32]) ∧
    (version = ascii "HTTP/1.1" ∨ version = ascii "HTTP/1.0")

/-- A method the pattern matches contains no space. -/
theorem space_notMem_of_methodMatches {method : Bytes} (hmatches : methodMatches method = true) :
    32 ∉ method := by
  intro hmem
  simp only [methodMatches, Bool.and_eq_true, List.all_eq_true] at hmatches
  split at hmatches
  case isTrue hlast =>
    have hne : method ≠ [] := List.ne_nil_of_mem hmem
    have hsplit := List.dropLast_append_getLast hne
    rw [List.getLast?_eq_getLast_of_ne_nil hne, Option.some.injEq] at hlast
    rw [← hsplit, hlast, List.mem_append, List.mem_singleton] at hmem
    rcases hmem with hmem | hmem
    · exact absurd (hmatches.2 32 hmem) (by decide)
    · exact absurd hmem (by decide)
  case isFalse => exact absurd (hmatches.2 32 hmem) (by decide)

/-- The version token is one of two. -/
theorem parseVersion_ok_iff {versionPart : Bytes} :
    (∃ version, parseVersion versionPart = .ok version) ↔
      versionPart = ascii "HTTP/1.1" ∨ versionPart = ascii "HTTP/1.0" := by
  simp only [parseVersion]
  split
  case isTrue hnew => simp [hnew]
  case isFalse hnew =>
    split
    case isTrue hold => simp [hold]
    case isFalse hold => simp [hnew, hold]

/-- The parts of a request line the parser accepts. -/
theorem parseRequestLine_ok {line : Bytes} {parts : RequestLine}
    (hparse : parseRequestLine line = .ok parts) :
    ∃ version, line = parts.method ++ 32 :: (parts.target ++ 32 :: version) ∧
      methodMatches parts.method = true ∧ (∀ byte ∈ parts.target, byte ∉ [0, 10, 13, 32]) ∧
      (version = ascii "HTTP/1.1" ∨ version = ascii "HTTP/1.0") := by
  simp only [parseRequestLine] at hparse
  split at hparse
  · cases hparse
  case h_2 sp1 hsp1 =>
    split at hparse
    · cases hparse
    case h_2 sp2 hsp2 =>
      obtain ⟨hline, -⟩ := eq_append_of_findSlice_singleton hsp1
      obtain ⟨hrest, hspace⟩ := eq_append_of_findSlice_singleton hsp2
      split at hparse
      · cases hparse
      case isFalse hmethod =>
        split at hparse
        · cases hparse
        case isFalse htarget =>
          cases hversion : parseVersion ((line.drop (sp1 + 1)).drop (sp2 + 1)) with
          | error error =>
              rw [hversion] at hparse
              cases hparse
          | ok version =>
              rw [hversion] at hparse
              cases hparse
              refine ⟨(line.drop (sp1 + 1)).drop (sp2 + 1), ?_, by simpa using hmethod, ?_,
                parseVersion_ok_iff.mp ⟨version, hversion⟩⟩
              · rw [← hrest, ← hline]
              · intro byte hbyte hbad
                simp only [List.mem_cons, List.not_mem_nil, or_false] at hbad
                rcases hbad with rfl | rfl | rfl | rfl
                · exact htarget (Or.inl hbyte)
                · exact htarget (Or.inr (Or.inr hbyte))
                · exact htarget (Or.inr (Or.inl hbyte))
                · exact hspace hbyte

/-- What the parser makes of a request line that is valid. -/
theorem parseRequestLine_append {method target versionPart : Bytes} {version : HttpVersion}
    (hmethod : methodMatches method = true) (htarget : ∀ byte ∈ target, byte ∉ [0, 10, 13, 32])
    (hversion : parseVersion versionPart = .ok version) :
    parseRequestLine (method ++ 32 :: (target ++ 32 :: versionPart)) =
      .ok { method, target, httpVersion := version } := by
  have hsp1 : findSlice [32] (method ++ 32 :: (target ++ 32 :: versionPart)) =
      some method.length :=
    findSlice_singleton_append (space_notMem_of_methodMatches hmethod) _
  have hafter : (method ++ 32 :: (target ++ 32 :: versionPart)).drop (method.length + 1) =
      target ++ 32 :: versionPart := by
    rw [← List.drop_drop, List.drop_left, List.drop_one, List.tail_cons]
  have hsp2 : findSlice [32] (target ++ 32 :: versionPart) = some target.length :=
    findSlice_singleton_append (fun hmem => htarget 32 hmem (by decide)) _
  have hclean : ¬ (0 ∈ target ∨ 13 ∈ target ∨ 10 ∈ target) := by
    intro hbad
    rcases hbad with hmem | hmem | hmem <;> exact htarget _ hmem (by decide)
  have hlast : (target ++ 32 :: versionPart).drop (target.length + 1) = versionPart := by
    rw [← List.drop_drop, List.drop_left, List.drop_one, List.tail_cons]
  simp only [parseRequestLine, hsp1, hafter, hsp2]
  rw [List.take_left, List.take_left, hmethod, if_neg (by decide), if_neg hclean, hlast, hversion]
  rfl

/-- The parser accepts the valid request lines. -/
theorem parseRequestLine_ok_iff {line : Bytes} :
    (∃ parts, parseRequestLine line = .ok parts) ↔ ValidRequestLine line := by
  constructor
  · intro ⟨parts, hparse⟩
    obtain ⟨version, hline, hvalid⟩ := parseRequestLine_ok hparse
    exact ⟨parts.method, parts.target, version, hline, hvalid⟩
  · intro ⟨method, target, versionPart, hline, hmethod, htarget, hversion⟩
    obtain ⟨version, hversion⟩ := parseVersion_ok_iff.mpr hversion
    rw [hline]
    exact ⟨_, parseRequestLine_append hmethod htarget hversion⟩

/-! ## The header block -/

/-- The fields of a head, as the parser cuts them. -/
def parsedFields (head : Bytes) : List Header := (lines head).tail.filterMap parsedField

/-- Fields the header loop takes without an error. -/
structure ValidFields (maxHeaders : ℕ) (fields : List Header) : Prop where
  names : ∀ field ∈ fields, 32 ∉ field.1 ∧ 0 ∉ field.1
  count : fields.length ≤ maxHeaders
  /-- At most one Content-Length, which reads as a natural number. -/
  lengths : (valuesOf (ascii "content-length") fields).length ≤ 1
  readable : ∀ value ∈ valuesOf (ascii "content-length") fields,
    ∃ size : ℕ, readInt value = some (size : ℤ)
  hosts : (valuesOf (ascii "host") fields).length ≤ 1

/-- A head the parser takes without an error. -/
structure ValidHead (maxHeaders : ℕ) (head : Bytes) : Prop where
  requestLine : ValidRequestLine (firstLine head)
  fields : ValidFields maxHeaders (parsedFields head)
  /-- Content-Length and Transfer-Encoding exclude each other. -/
  framing : valuesOf (ascii "content-length") (parsedFields head) = [] ∨
    valuesOf (ascii "transfer-encoding") (parsedFields head) = []

/-- The first of several field lists is valid when all together are. -/
theorem ValidFields.of_append {first second : List Header}
    (hvalid : ValidFields maxHeaders (first ++ second)) : ValidFields maxHeaders first := by
  have hlengths := hvalid.lengths
  have hhosts := hvalid.hosts
  have hcount := hvalid.count
  simp only [valuesOf_append, List.length_append] at hlengths hhosts hcount
  refine ⟨fun field hmem => hvalid.names field (List.mem_append_left _ hmem), by omega, by omega,
    fun value hmem => hvalid.readable value ?_, by omega⟩
  rw [valuesOf_append]
  exact List.mem_append_left _ hmem

/-- The scan counts the Host fields. -/
def HostInv (fields : List Header) (scan : HeaderScan) : Prop :=
  scan.hostCount = (valuesOf (ascii "host") fields).length

/-- What the loop does with a field it has appended keeps the count of hosts. -/
theorem scanField_host {fields : List Header} {scan scan' : HeaderScan} {name value : Bytes}
    (hhost : HostInv fields scan)
    (hscan : scanField { scan with headers := scan.headers ++ [(name, value)] } name value =
      .ok scan') : HostInv (fields ++ [(name, value)]) scan' := by
  have hclHost : ascii "content-length" ≠ ascii "host" := by decide
  have hteHost : ascii "transfer-encoding" ≠ ascii "host" := by decide
  unfold HostInv at hhost ⊢
  simp only [scanField] at hscan
  split at hscan
  case isTrue hcl =>
    subst hcl
    split at hscan
    · cases hscan
    · split at hscan
      · cases hscan
      · split at hscan
        · cases hscan
        · cases hscan
          simp [hhost, hclHost]
  case isFalse =>
    split at hscan
    case isTrue hte =>
      subst hte
      cases hscan
      simp [hhost, hteHost]
    case isFalse =>
      split at hscan
      case isTrue hname =>
        split at hscan
        · cases hscan
        · cases hscan
          simp [hhost, hname]
      case isFalse hname =>
        cases hscan
        simp [hhost, hname]

/-- What the loop does with a field it has appended fails only on the framing
headers and a repeated host. -/
theorem scanField_ok_iff {fields : List Header} {scan : HeaderScan} {name value : Bytes}
    (hinv : ScanInv fields scan) (hhost : HostInv fields scan) (headers : List Header) :
    (∃ scan', scanField { scan with headers := headers } name value = .ok scan') ↔
      (name = ascii "content-length" → valuesOf (ascii "content-length") fields = [] ∧
        ∃ size : ℕ, readInt value = some (size : ℤ)) ∧
      (name = ascii "host" → valuesOf (ascii "host") fields = []) := by
  have hclHost : ascii "content-length" ≠ ascii "host" := by decide
  have hteHost : ascii "transfer-encoding" ≠ ascii "host" := by decide
  have hteCl : ascii "transfer-encoding" ≠ ascii "content-length" := by decide
  simp only [scanField]
  by_cases hcl : name = ascii "content-length"
  · rw [if_pos hcl]
    subst hcl
    simp only [hclHost, false_implies, and_true, true_implies]
    cases hlength : scan.contentLength with
    | some length =>
        obtain ⟨other, hother, -⟩ := hinv.contentLength_some length hlength
        simp [hother]
    | none =>
        rw [hinv.contentLength_none hlength]
        simp only [Option.isSome_none, Bool.false_eq_true, if_false, true_and]
        cases hread : readInt value with
        | none => simp
        | some number =>
            simp only [Option.some.injEq]
            split
            case isTrue hneg =>
              simp only [reduceCtorEq, exists_false, false_iff, not_exists]
              intro size hsize
              omega
            case isFalse hneg =>
              exact iff_of_true ⟨_, rfl⟩ ⟨number.toNat, (Int.toNat_of_nonneg (by omega)).symm⟩
  · rw [if_neg hcl]
    simp only [hcl, false_implies, true_and]
    by_cases hte : name = ascii "transfer-encoding"
    · rw [if_pos hte]
      subst hte
      simp [hteHost]
    · rw [if_neg hte]
      by_cases hname : name = ascii "host"
      · rw [if_pos hname]
        simp only [hname, true_implies]
        unfold HostInv at hhost
        rw [hhost]
        cases hvalues : valuesOf (ascii "host") fields with
        | nil => simp
        | cons first rest => simp
      · simp [hname]

/-- One turn of the loop succeeds when the fields so far and the one of its line
are valid together. -/
theorem scanLine_ok_iff {fields : List Header} {scan : HeaderScan} {line : Bytes}
    (hinv : ScanInv fields scan) (hhost : HostInv fields scan)
    (hvalid : ValidFields maxHeaders fields) :
    (∃ scan', scanLine maxHeaders scan line = .ok scan') ↔
      ValidFields maxHeaders (fields ++ (parsedField line).toList) := by
  simp only [scanLine]
  cases hsplit : splitField line with
  | none => simpa [parsedField, hsplit] using hvalid
  | some field =>
      obtain ⟨name, value⟩ := field
      have hparsed : parsedField line = some (lower name, value) := by simp [parsedField, hsplit]
      rw [hparsed, Option.toList_some, hinv.headers]
      simp only []
      by_cases hname : 32 ∈ name ∨ 0 ∈ name
      · rw [if_pos hname]
        simp only [reduceCtorEq, exists_false, false_iff]
        intro hall
        have hclean := hall.names (lower name, value) (by simp)
        simp only [mem_lower_iff (show (32 : UInt8) < 65 by decide),
          mem_lower_iff (show (0 : UInt8) < 65 by decide)] at hclean
        exact hname.elim hclean.1 hclean.2
      · rw [if_neg hname]
        by_cases hcount : (fields ++ [(lower name, value)]).length > maxHeaders
        · rw [if_pos hcount]
          simp only [reduceCtorEq, exists_false, false_iff]
          intro hall
          exact absurd hall.count (by omega)
        · rw [if_neg hcount, scanField_ok_iff hinv hhost]
          constructor
          · rintro ⟨hlength, hhosts⟩
            refine ⟨?_, by omega, ?_, ?_, ?_⟩
            · intro field hmem
              rw [List.mem_append, List.mem_singleton] at hmem
              rcases hmem with hmem | rfl
              · exact hvalid.names field hmem
              · simp only [mem_lower_iff (show (32 : UInt8) < 65 by decide),
                  mem_lower_iff (show (0 : UInt8) < 65 by decide)]
                exact not_or.mp hname
            · rw [valuesOf_append, valuesOf_singleton]
              by_cases hcl : lower name = ascii "content-length"
              · simp [hcl, (hlength hcl).1]
              · simpa [hcl] using hvalid.lengths
            · intro other hother
              rw [valuesOf_append, valuesOf_singleton, List.mem_append] at hother
              rcases hother with hother | hother
              · exact hvalid.readable other hother
              · split at hother
                case isTrue hcl =>
                  rw [List.mem_singleton.mp hother]
                  exact (hlength hcl).2
                case isFalse => cases hother
            · rw [valuesOf_append, valuesOf_singleton]
              by_cases hhost : lower name = ascii "host"
              · simp [hhost, hhosts hhost]
              · simpa [hhost] using hvalid.hosts
          · intro hall
            refine ⟨fun hcl => ?_, fun hhost => ?_⟩
            · have hone := hall.lengths
              have hreadable := hall.readable value
              rw [valuesOf_append, valuesOf_singleton, if_pos hcl] at hone hreadable
              refine ⟨?_, hreadable (by simp)⟩
              rw [List.length_append, List.length_singleton] at hone
              exact List.eq_nil_of_length_eq_zero (by omega)
            · have hone := hall.hosts
              rw [valuesOf_append, valuesOf_singleton, if_pos hhost, List.length_append,
                List.length_singleton] at hone
              exact List.eq_nil_of_length_eq_zero (by omega)

/-- One turn of the loop keeps the count of hosts. -/
theorem scanLine_host {fields : List Header} {scan scan' : HeaderScan} {line : Bytes}
    (hhost : HostInv fields scan) (hscan : scanLine maxHeaders scan line = .ok scan') :
    HostInv (fields ++ (parsedField line).toList) scan' := by
  simp only [scanLine] at hscan
  split at hscan
  case h_1 hnone =>
    cases hscan
    simpa [parsedField, hnone] using hhost
  case h_2 name value hsome =>
    split at hscan
    · cases hscan
    · split at hscan
      · cases hscan
      · simpa [parsedField, hsome] using scanField_host hhost hscan

/-- The header loop succeeds on the valid blocks. -/
theorem scanHeaders_ok_iff {block : Bytes} :
    (∃ scan, scanHeaders maxHeaders block = .ok scan) ↔
      ValidFields maxHeaders ((lines block).filterMap parsedField) := by
  have hrun : ∀ (rest : List Bytes) (fields : List Header) (start : HeaderScan),
      ScanInv fields start → HostInv fields start → ValidFields maxHeaders fields →
      ((∃ scan, rest.foldlM (scanLine maxHeaders) start = .ok scan) ↔
        ValidFields maxHeaders (fields ++ rest.filterMap parsedField)) := by
    intro rest
    induction rest with
    | nil =>
        intro fields start _ _ hvalid
        exact iff_of_true ⟨start, rfl⟩ (by simpa using hvalid)
    | cons line rest ih =>
        intro fields start hinv hhost hvalid
        have hcons : (line :: rest).filterMap parsedField =
            (parsedField line).toList ++ rest.filterMap parsedField := by
          cases hfield : parsedField line <;> simp [hfield]
        rw [hcons, ← List.append_assoc, List.foldlM_cons]
        cases hline : scanLine maxHeaders start line with
        | error error =>
            refine iff_of_false (fun ⟨_, hok⟩ => by cases hok) fun hall => ?_
            obtain ⟨next, hnext⟩ := (scanLine_ok_iff hinv hhost hvalid).mpr hall.of_append
            rw [hline] at hnext
            cases hnext
        | ok next =>
            exact ih _ next (scanLine_inv hinv hline) (scanLine_host hhost hline)
              ((scanLine_ok_iff hinv hhost hvalid).mp ⟨next, hline⟩)
  have hnil : ValidFields maxHeaders [] := by
    refine ⟨?_, Nat.zero_le _, Nat.zero_le _, ?_, Nat.zero_le _⟩ <;> simp [valuesOf]
  exact hrun (lines block) [] {} ScanInv.init rfl hnil

/-- The heads the parser takes are the valid ones. -/
theorem parseHead_ok_iff :
    (∃ result, parseHead maxHeaders head = .ok result) ↔ ValidHead maxHeaders head := by
  have hblock : (lines (headerBlock head)).filterMap parsedField = parsedFields head := by
    rw [parsedFields, lines_headerBlock]
  have hline := @parseRequestLine_ok_iff (firstLine head)
  have hfields := @scanHeaders_ok_iff maxHeaders (headerBlock head)
  rw [hblock] at hfields
  simp only [parseHead]
  cases hparts : parseRequestLine (firstLine head) with
  | error error =>
      rw [hparts] at hline
      refine iff_of_false (by simp) fun hvalid => ?_
      obtain ⟨_, hok⟩ := hline.mpr hvalid.requestLine
      cases hok
  | ok parts =>
      cases hscan : scanHeaders maxHeaders (headerBlock head) with
      | error error =>
          rw [hscan] at hfields
          refine iff_of_false (by simp) fun hvalid => ?_
          obtain ⟨_, hok⟩ := hfields.mpr hvalid.fields
          cases hok
      | ok scan =>
          have hinv : ScanInv (parsedFields head) scan := hblock ▸ scanHeaders_inv hscan
          have hconflict : (scan.contentLength.isSome ∧ scan.hasTransferEncoding) ↔
              ¬ (valuesOf (ascii "content-length") (parsedFields head) = [] ∨
                valuesOf (ascii "transfer-encoding") (parsedFields head) = []) := by
            rw [not_or, hinv.hasTransferEncoding]
            refine and_congr_left fun _ => ?_
            cases hlength : scan.contentLength with
            | none => simp [hinv.contentLength_none hlength]
            | some length =>
                obtain ⟨value, hvalue, -⟩ := hinv.contentLength_some length hlength
                simp [hvalue]
          simp only []
          by_cases hboth : scan.contentLength.isSome ∧ scan.hasTransferEncoding
          · rw [if_pos hboth]
            exact iff_of_false (by simp) fun hvalid => hconflict.mp hboth hvalid.framing
          · rw [if_neg hboth]
            refine iff_of_true ⟨_, rfl⟩ ⟨hline.mp ⟨parts, hparts⟩, hfields.mp ⟨scan, hscan⟩, ?_⟩
            exact not_not.mp fun hframing => hboth (hconflict.mpr hframing)

/-! ## Growing prefixes -/

/-- What parsing the prefix `pre` of `data` settles, and what an accepted request uses. -/
structure Settled (maxHeaders maxHeaderSize : ℕ) (pre data : Bytes) : Prop where
  /-- A request accepted early is the request accepted later. -/
  accepts : ∀ parsed, parseRequest pre pre.length maxHeaders maxHeaderSize = .ok (some parsed) →
    parseRequest data data.length maxHeaders maxHeaderSize = .ok (some parsed)
  /-- What is refused early is refused later. -/
  refuses : ∀ error, parseRequest pre pre.length maxHeaders maxHeaderSize = .error error →
    ∃ later, parseRequest data data.length maxHeaders maxHeaderSize = .error later
  /-- A request uses bytes of the buffer, and its body is what stands between the blank line and
  the end of what it uses. -/
  uses : ∀ parsed, parseRequest data data.length maxHeaders maxHeaderSize = .ok (some parsed) →
    0 < parsed.consumed ∧ parsed.consumed ≤ data.length ∧
      parsed.body = (data.take parsed.consumed).drop ((headOf data).length + 4)

/-- The prefix is over the head limit and ends before the blank line does, but the head itself
is within the limit and well formed. -/
structure CutHead (maxHeaders maxHeaderSize : ℕ) (pre data : Bytes) : Prop where
  incomplete : ¬ crlfCrlf <:+: pre
  long : maxHeaderSize < pre.length
  complete : crlfCrlf <:+: data
  within : (headOf data).length ≤ maxHeaderSize
  valid : ValidHead maxHeaders (headOf data)

/-- A buffer with a blank line is refused for the length of its head or for the head itself. -/
theorem parseRequest_refuses_iff {headerEnd : ℕ} (hend : findSlice crlfCrlf data = some headerEnd) :
    (∃ error, parseRequest data data.length maxHeaders maxHeaderSize = .error error) ↔
      maxHeaderSize < (headOf data).length ∨ ¬ ValidHead maxHeaders (headOf data) := by
  obtain ⟨hhead, hlength⟩ := headOf_eq hend
  rw [hlength, ← parseHead_ok_iff, hhead]
  simp only [parseRequest, List.take_length, hend]
  by_cases hsize : headerEnd > maxHeaderSize
  · rw [if_pos hsize]
    exact iff_of_true ⟨_, rfl⟩ (Or.inl hsize)
  · rw [if_neg hsize]
    cases hparse : parseHead maxHeaders (data.take headerEnd) with
    | error error => exact iff_of_true ⟨error, rfl⟩ (Or.inr (by simp))
    | ok result =>
        refine iff_of_false ?_ (by simp [hsize])
        rintro ⟨error, herror⟩
        simp only [] at herror
        split at herror <;> cases herror

/-- A longer buffer has the blank line where the prefix has it. -/
theorem headOf_eq_of_prefix {headerEnd : ℕ} (hpre : pre <+: data)
    (hend : findSlice crlfCrlf pre = some headerEnd) :
    findSlice crlfCrlf data = some headerEnd ∧ headOf data = headOf pre := by
  obtain ⟨more, rfl⟩ := hpre
  have hlater := findSlice_append hend more
  have hfits := findSlice_add_length_le hend
  refine ⟨hlater, ?_⟩
  rw [(headOf_eq hlater).1, (headOf_eq hend).1, List.take_append_of_le_length (by omega)]

/-- Parsing a prefix settles the outcome except where the prefix cuts a head of nearly the full
size inside its blank line. -/
theorem settled_iff (hpre : pre <+: data) :
    Settled maxHeaders maxHeaderSize pre data ↔ ¬ CutHead maxHeaders maxHeaderSize pre data := by
  constructor
  · intro hsettled hcut
    have hnone : findSlice crlfCrlf pre = none := findSlice_eq_none.mpr hcut.incomplete
    have hrefused : parseRequest pre pre.length maxHeaders maxHeaderSize =
        .error (headersTooLarge maxHeaderSize) := by
      simp only [parseRequest, List.take_length, hnone]
      exact if_pos hcut.long
    have hlater := hsettled.refuses _ hrefused
    cases hend : findSlice crlfCrlf data with
    | none => exact findSlice_eq_none.mp hend hcut.complete
    | some headerEnd =>
        rcases (parseRequest_refuses_iff hend).mp hlater with hlong | hinvalid
        · exact absurd hcut.within (by omega)
        · exact hinvalid hcut.valid
  · intro hwhole
    constructor
    case accepts =>
      intro parsed hparse
      obtain ⟨more, rfl⟩ := hpre
      exact parseRequest_append (List.take_length ..) le_rfl hparse
    case refuses =>
      intro error hparse
      cases hearly : findSlice crlfCrlf pre with
      | some headerEnd =>
          obtain ⟨hlater, hsame⟩ := headOf_eq_of_prefix hpre hearly
          have hwhy := (parseRequest_refuses_iff hearly).mp ⟨error, hparse⟩
          rw [← hsame] at hwhy
          exact (parseRequest_refuses_iff hlater).mpr hwhy
      | none =>
          have hlong : maxHeaderSize < pre.length := by
            simp only [parseRequest, List.take_length, hearly] at hparse
            by_contra hshort
            rw [if_neg hshort] at hparse
            cases hparse
          have hgrown := hpre.length_le
          cases hlater : findSlice crlfCrlf data with
          | none =>
              refine ⟨headersTooLarge maxHeaderSize, ?_⟩
              simp only [parseRequest, List.take_length, hlater]
              exact if_pos (by omega)
          | some headerEnd =>
              apply (parseRequest_refuses_iff hlater).mpr
              by_contra hfine
              rw [not_or, not_not, not_lt] at hfine
              apply hwhole
              refine ⟨findSlice_eq_none.mp hearly, hlong, ?_, hfine.1, hfine.2⟩
              by_contra hmissing
              rw [findSlice_eq_none.mpr hmissing] at hlater
              cases hlater
    case uses =>
      intro parsed hparse
      obtain ⟨headerEnd, request, scan, hend, -, -, hfits, rfl⟩ := parseRequest_some.mp hparse
      rw [List.take_length] at hend
      refine ⟨by simp only []; omega, hfits, ?_⟩
      rw [(headOf_eq hend).2, List.take_length]
      show _ = (data.take (headerEnd + 4 + bodyLength scan)).drop (headerEnd + 4)
      rw [List.drop_take, Nat.add_sub_cancel_left]

/-- A request line and one field, cut behind the first field, are not a cut head. -/
theorem settled_iff_short :
    Settled 100 16384 (ascii "GET / HTTP/1.1\r\nHost: a\r\n")
        (ascii "GET / HTTP/1.1\r\nHost: a\r\n\r\n") ↔
      ¬ CutHead 100 16384 (ascii "GET / HTTP/1.1\r\nHost: a\r\n")
        (ascii "GET / HTTP/1.1\r\nHost: a\r\n\r\n") :=
  settled_iff (by decide)

/-- With a limit of 14 bytes, a head of 14 bytes is refused when two bytes of its blank line have
arrived, and accepted when all of it has. -/
theorem parseRequest_cut_head :
    ¬ ∀ (pre data : Bytes) (maxHeaders maxHeaderSize : ℕ), pre <+: data →
      Settled maxHeaders maxHeaderSize pre data := by
  intro hclaim
  have hsettled := hclaim (ascii "GET / HTTP/1.1\r\n") (ascii "GET / HTTP/1.1\r\n\r\n") 100 14
    (by decide)
  obtain ⟨later, hlater⟩ := hsettled.refuses (headersTooLarge 14) (by decide)
  have haccepted : (parseRequest (ascii "GET / HTTP/1.1\r\n\r\n")
      (ascii "GET / HTTP/1.1\r\n\r\n").length 100 14).isOk = true := by decide
  rw [hlater] at haccepted
  cases haccepted

end Pounce.FastH1
