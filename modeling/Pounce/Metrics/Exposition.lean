/-
# The exported metrics

`PrometheusCollector.export` writes what the collector keeps as a text, which a scraper reads line by
line. The text is put together from the names of methods and from numbers as they are, without
escapes; nothing in a label may be a quote, a backslash or the end of a line, then. As long as that
is so, a scraper gets all that the collector keeps, and after any run what has happened in it.
-/

import Mathlib
import Pounce.Math.Exposition
import Pounce.Metrics.Histograms

namespace Pounce.Metrics

open Pounce.Math

/-! ## What is written -/

/-- `str` and `float` for floating point numbers. -/
structure NumberFormat where
  str : Number → List Char
  float : List Char → Option Number

/-- What may be written between quotes. -/
def Quotable (text : List Char) : Prop := '\\' ∉ text ∧ '"' ∉ text ∧ '\n' ∉ text

/-- A number that can be read where it has been written. -/
structure NumberFormat.Writes (format : NumberFormat) (number : Number) : Prop where
  float_str : format.float (format.str number) = some number
  nonempty : format.str number ≠ []
  solid : ' ' ∉ format.str number
  quotable : Quotable (format.str number)

/-- A method, decoded. -/
def methodText (method : Bytes) : List Char := method.map fun byte => Char.ofNat byte.toNat

/-- The key of the counter of requests, as texts. -/
def keyText (key : Bytes × ℕ) : List Char × List Char :=
  (methodText key.1, Nat.toDigits 10 key.2)

/-- The order of the keys. -/
def keyLe (first second : (List Char × List Char) × ℕ) : Bool :=
  first.1.1 < second.1.1 || (first.1.1 = second.1.1 && first.1.2 ≤ second.1.2)

/-- A sample of the counter of requests. -/
def requestLine (item : (List Char × List Char) × ℕ) : List Char :=
  let labelMethod := if item.1.1 = [] then "unknown".toList else item.1.1
  "http_requests_total\x7bmethod=\"".toList ++ (labelMethod ++ ("\",status=\"".toList ++ (item.1.2 ++
    ("\"\x7d ".toList ++ Nat.toDigits 10 item.2))))

/-- A metric with one sample. -/
def singleLines (name help kind : String) (value : List Char) : List (List Char) :=
  [("# HELP " ++ name ++ " " ++ help).toList, ("# TYPE " ++ name ++ " " ++ kind).toList,
    (name ++ " ").toList ++ value]

namespace NumberFormat

variable (format : NumberFormat)

/-- The label of a bucket. -/
def le (boundary : Number) : List Char :=
  if boundary.isInf then "+Inf".toList else format.str boundary

/-- A bucket of a histogram. -/
def bucketLine (name : String) (bucket : Number × ℕ) : List Char :=
  (name ++ "_bucket\x7ble=\"").toList ++ (format.le bucket.1 ++
    ("\"\x7d ".toList ++ Nat.toDigits 10 bucket.2))

/-- A histogram. -/
def histogramText (name help : String) (boundaries : List Number) (buckets : Dict Number ℕ)
    (sum : Number) (count : ℕ) : List (List Char) :=
  ("# HELP " ++ name ++ " " ++ help).toList :: ("# TYPE " ++ name ++ " histogram").toList ::
    ((cumulative buckets 0 boundaries).map (format.bucketLine name) ++
      [(name ++ "_sum ").toList ++ format.str sum,
        (name ++ "_count ").toList ++ Nat.toDigits 10 count])

end NumberFormat

namespace DurationCollector

variable (format : NumberFormat) (collector : DurationCollector)

/-- The items of the counter of requests. -/
def requestItems : List ((List Char × List Char) × ℕ) :=
  (collector.requestsTotal.entries.map fun entry => (keyText entry.1, entry.2)).mergeSort keyLe

/-- The lines of the export. -/
def exportLines : List (List Char) :=
  "# HELP http_requests_total Total HTTP requests.".toList ::
    "# TYPE http_requests_total counter".toList ::
      (collector.requestItems.map requestLine ++
        (format.histogramText "http_request_duration_seconds" "Request duration in seconds."
            collector.bucketBoundaries collector.durationBuckets collector.durationSum
            collector.durationCount ++
          (singleLines "http_connections_active" "Active TCP connections." "gauge"
              (Nat.toDigits 10 collector.connectionsActive) ++
            (singleLines "http_requests_in_flight" "Requests currently being processed." "gauge"
                (Nat.toDigits 10 collector.requestsInFlight) ++
              (singleLines "http_streams_active" "Open streaming HTTP responses." "gauge"
                  (Nat.toDigits 10 collector.streamsActive) ++
                (format.histogramText "http_stream_duration_seconds"
                    "Completed streaming response lifetime." collector.bucketBoundaries
                    collector.streamDurationBuckets collector.streamDurationSum
                    collector.streamDurationCount ++
                  singleLines "http_bytes_sent_total" "Total bytes sent in responses." "counter"
                    (Nat.toDigits 10 collector.bytesSentTotal)))))))

/-- `export` -/
def exportText : List Char := ['\n'].intercalate (collector.exportLines format ++ [[]])

end DurationCollector

/-! ## What is read -/

/-- What a scraper gets. -/
structure Reading where
  requestsTotal : List ((List Char × List Char) × ℕ)
  duration : Histogram
  connectionsActive : ℕ
  requestsInFlight : ℕ
  streamsActive : ℕ
  streamDuration : Histogram
  bytesSentTotal : ℕ
  deriving DecidableEq

/-- A sample, without its name. -/
abbrev Sample := List (List Char × List Char) × List Char

/-- The samples of a name. -/
def samples (name : String) (lines : List MetricLine) : List Sample :=
  lines.filterMap fun line =>
    match line with
    | .sample other labels value => if other = name.toList then some (labels, value) else none
    | _ => none

/-- A count. -/
def readCount (value : List Char) : Option ℕ :=
  if value ≠ [] ∧ value.all Char.isDigit then some (Nat.ofDigitChars 10 value 0) else none

/-- A sample of the counter of requests. -/
def readRequest : Sample → Option ((List Char × List Char) × ℕ)
  | ([(method, methodValue), (status, statusValue)], value) =>
      if method = "method".toList ∧ status = "status".toList then
        (readCount value).map fun count => ((methodValue, statusValue), count)
      else none
  | _ => none

/-- The value of the only sample of a name. -/
def readSingle (name : String) (lines : List MetricLine) : Option (List Char) :=
  match samples name lines with
  | [([], value)] => some value
  | _ => none

section Reading

variable (format : NumberFormat)

/-- A bucket. -/
def readBucket : Sample → Option (Number × ℕ)
  | ([(le, bound)], value) =>
      if le = "le".toList then
        match format.float bound, readCount value with
        | some bound, some count => some (bound, count)
        | _, _ => none
      else none
  | _ => none

/-- A histogram. -/
def readHistogram (name : String) (lines : List MetricLine) : Option Histogram := do
  let buckets ← (samples (name ++ "_bucket") lines).mapM (readBucket format)
  let sum ← (readSingle (name ++ "_sum") lines).bind format.float
  let count ← (readSingle (name ++ "_count") lines).bind readCount
  return { buckets, sum, count }

/-- What is read of some lines. -/
def readLines (lines : List MetricLine) : Option Reading := do
  let requestsTotal ← (samples "http_requests_total" lines).mapM readRequest
  let duration ← readHistogram format "http_request_duration_seconds" lines
  let connectionsActive ← (readSingle "http_connections_active" lines).bind readCount
  let requestsInFlight ← (readSingle "http_requests_in_flight" lines).bind readCount
  let streamsActive ← (readSingle "http_streams_active" lines).bind readCount
  let streamDuration ← readHistogram format "http_stream_duration_seconds" lines
  let bytesSentTotal ← (readSingle "http_bytes_sent_total" lines).bind readCount
  return { requestsTotal, duration, connectionsActive, requestsInFlight, streamsActive,
           streamDuration, bytesSentTotal }

/-- What a scraper reads of a text. -/
def scrape (text : List Char) : Option Reading := (Exposition.read text).bind (readLines format)

end Reading

/-! ## The lines of the export -/

/-- The line of a sample of the counter of requests. -/
def requestSample (item : (List Char × List Char) × ℕ) : MetricLine :=
  .sample "http_requests_total".toList
    [("method".toList, item.1.1), ("status".toList, item.1.2)] (Nat.toDigits 10 item.2)

/-- The lines of a metric with one sample. -/
def singleSample (name help kind : String) (value : List Char) : List MetricLine :=
  [.help name.toList help.toList, .type name.toList kind.toList, .sample name.toList [] value]

/-- The line of a bucket. -/
def bucketSample (format : NumberFormat) (name : String) (bucket : Number × ℕ) : MetricLine :=
  .sample (name ++ "_bucket").toList [("le".toList, format.le bucket.1)] (Nat.toDigits 10 bucket.2)

/-- The lines of a histogram. -/
def histogramSamples (format : NumberFormat) (name help : String) (boundaries : List Number)
    (buckets : Dict Number ℕ) (sum : Number) (count : ℕ) : List MetricLine :=
  .help name.toList help.toList :: .type name.toList "histogram".toList ::
    ((cumulative buckets 0 boundaries).map (bucketSample format name) ++
      [.sample (name ++ "_sum").toList [] (format.str sum),
        .sample (name ++ "_count").toList [] (Nat.toDigits 10 count)])

/-- All lines. -/
def DurationCollector.metricLines (format : NumberFormat) (collector : DurationCollector) :
    List MetricLine :=
  .help "http_requests_total".toList "Total HTTP requests.".toList ::
    .type "http_requests_total".toList "counter".toList ::
      (collector.requestItems.map requestSample ++
        (histogramSamples format "http_request_duration_seconds" "Request duration in seconds."
            collector.bucketBoundaries collector.durationBuckets collector.durationSum
            collector.durationCount ++
          (singleSample "http_connections_active" "Active TCP connections." "gauge"
              (Nat.toDigits 10 collector.connectionsActive) ++
            (singleSample "http_requests_in_flight" "Requests currently being processed." "gauge"
                (Nat.toDigits 10 collector.requestsInFlight) ++
              (singleSample "http_streams_active" "Open streaming HTTP responses." "gauge"
                  (Nat.toDigits 10 collector.streamsActive) ++
                (histogramSamples format "http_stream_duration_seconds"
                    "Completed streaming response lifetime." collector.bucketBoundaries
                    collector.streamDurationBuckets collector.streamDurationSum
                    collector.streamDurationCount ++
                  singleSample "http_bytes_sent_total" "Total bytes sent in responses." "counter"
                    (Nat.toDigits 10 collector.bytesSentTotal)))))))

open Exposition

theorem flatMap_escapeChar {text : List Char} (htext : Quotable text) :
    text.flatMap escapeChar = text := by
  obtain ⟨hslash, hquote, hline⟩ := htext
  induction text with
  | nil => rfl
  | cons char text ih =>
      rw [List.mem_cons, not_or] at hslash hquote hline
      have hchar : escapeChar char = [char] := by
        rw [escapeChar, if_neg (Ne.symm hslash.1), if_neg (Ne.symm hquote.1),
          if_neg (Ne.symm hline.1)]
      rw [List.flatMap_cons, hchar, ih hslash.2 hquote.2 hline.2]
      rfl

theorem lineText_requestSample {item : (List Char × List Char) × ℕ} (hne : item.1.1 ≠ [])
    (hmethod : Quotable item.1.1) (hstatus : Quotable item.1.2) :
    lineText (requestSample item) = requestLine item := by
  have hopening : "http_requests_total\x7bmethod=\"".toList =
      "http_requests_total".toList ++ '{' :: ("method".toList ++ ['=', '"']) := by decide
  have hmiddle : "\",status=\"".toList = '"' :: ',' :: ("status".toList ++ ['=', '"']) := by decide
  have hclosing : "\"\x7d ".toList = ['"', '}', ' '] := by decide
  unfold requestSample requestLine
  rw [if_neg hne, hopening, hmiddle, hclosing]
  generalize "http_requests_total".toList = name, "method".toList = first,
    "status".toList = second
  simp [lineText, labelsText, labelText, moreLabelsText, flatMap_escapeChar hmethod,
    flatMap_escapeChar hstatus]

theorem lineText_bucketSample {format : NumberFormat} {name : String} {bucket : Number × ℕ}
    (hbound : Quotable (format.le bucket.1)) :
    lineText (bucketSample format name bucket) = format.bucketLine name bucket := by
  have hopening : "_bucket\x7ble=\"".toList = "_bucket".toList ++ '{' :: ("le".toList ++ ['=', '"']) := by
    decide
  have hclosing : "\"\x7d ".toList = ['"', '}', ' '] := by decide
  unfold bucketSample NumberFormat.bucketLine
  rw [String.toList_append, String.toList_append, hopening, hclosing]
  generalize "_bucket".toList = suffix, "le".toList = label
  simp [lineText, labelsText, labelText, moreLabelsText, flatMap_escapeChar hbound]

theorem lineText_singleSample (name help kind : String) (value : List Char) :
    (singleSample name help kind value).map lineText = singleLines name help kind value := by
  simp [singleSample, singleLines, lineText, labelsText]

theorem lineText_histogramSamples {format : NumberFormat} (name help : String)
    {boundaries : List Number} (buckets : Dict Number ℕ) (sum : Number) (count : ℕ)
    (hbounds : ∀ boundary ∈ boundaries, Quotable (format.le boundary)) :
    (histogramSamples format name help boundaries buckets sum count).map lineText =
      format.histogramText name help boundaries buckets sum count := by
  have hbuckets : ((cumulative buckets 0 boundaries).map (bucketSample format name)).map lineText =
      (cumulative buckets 0 boundaries).map (format.bucketLine name) := by
    rw [List.map_map]
    refine List.map_congr_left fun bucket hbucket => lineText_bucketSample (hbounds bucket.1 ?_)
    rw [← map_fst_cumulative buckets 0 boundaries]
    exact List.mem_map_of_mem hbucket
  rw [histogramSamples, NumberFormat.histogramText, List.map_cons, List.map_cons, List.map_append,
    hbuckets]
  simp [lineText, labelsText]

/-- The numbers that are written. -/
def DurationCollector.numbers (collector : DurationCollector) : List Number :=
  collector.durationSum :: collector.streamDurationSum :: collector.bucketBoundaries

/-- What can be exported. -/
structure Exportable (format : NumberFormat) (collector : DurationCollector) : Prop where
  methods : ∀ key ∈ collector.requestsTotal.keys, key.1 ≠ [] ∧ Quotable (methodText key.1)
  numbers : ∀ number ∈ collector.numbers, format.Writes number
  infinite : format.float "+Inf".toList = some .posInf

section Export

variable {format : NumberFormat} {collector : DurationCollector}

theorem quotable_toDigits (count : ℕ) : Quotable (Nat.toDigits 10 count) := by
  have hdigit (char : Char) (hmem : char ∈ Nat.toDigits 10 count) : char.isDigit = true :=
    Nat.isDigit_of_mem_toDigits (by decide) le_rfl hmem
  refine ⟨fun hmem => ?_, fun hmem => ?_, fun hmem => ?_⟩ <;>
  · have hfalse := hdigit _ hmem
    cases hfalse

theorem Exportable.le (hexport : Exportable format collector) {boundary : Number}
    (hmem : boundary ∈ collector.bucketBoundaries) :
    Quotable (format.le boundary) ∧ format.float (format.le boundary) = some (label boundary) := by
  have hwrites := hexport.numbers boundary (by simp [DurationCollector.numbers, hmem])
  rw [NumberFormat.le, label]
  split
  case isTrue => exact ⟨⟨by decide, by decide, by decide⟩, hexport.infinite⟩
  case isFalse => exact ⟨hwrites.quotable, hwrites.float_str⟩

theorem Exportable.items (hexport : Exportable format collector) {item : (List Char × List Char) × ℕ}
    (hmem : item ∈ collector.requestItems) :
    item.1.1 ≠ [] ∧ Quotable item.1.1 ∧ Quotable item.1.2 := by
  rw [DurationCollector.requestItems, (List.mergeSort_perm _ _).mem_iff, List.mem_map] at hmem
  obtain ⟨entry, hentry, rfl⟩ := hmem
  obtain ⟨hne, hquotable⟩ := hexport.methods entry.1 (List.mem_map_of_mem hentry)
  refine ⟨fun hnil => hne ?_, hquotable, quotable_toDigits _⟩
  exact List.map_eq_nil_iff.mp hnil

/-- The export is an exposition. -/
theorem exportText_eq (hexport : Exportable format collector) :
    collector.exportText format = text (collector.metricLines format) := by
  have hrequests : (collector.requestItems.map requestSample).map lineText =
      collector.requestItems.map requestLine := by
    rw [List.map_map]
    refine List.map_congr_left fun item hitem => ?_
    obtain ⟨hne, hmethod, hstatus⟩ := hexport.items hitem
    exact lineText_requestSample hne hmethod hstatus
  have hbounds (boundary : Number) (hmem : boundary ∈ collector.bucketBoundaries) :
      Quotable (format.le boundary) := (hexport.le hmem).1
  have hlines : (collector.metricLines format).map lineText = collector.exportLines format := by
    rw [DurationCollector.metricLines, DurationCollector.exportLines]
    simp only [List.map_cons, List.map_append, hrequests, lineText_histogramSamples _ _ _ _ _ hbounds,
      lineText_singleSample]
    rfl
  rw [DurationCollector.exportText, text, hlines]

theorem isName_toList {name : String} (hstarts : name.toList.head?.any startsName = true)
    (hchars : name.toList.all isNameChar = true) : IsName name.toList :=
  ⟨(Option.any_eq_true _ _).mp hstarts, List.all_eq_true.mp hchars⟩

theorem isName_append {name suffix : String} (hname : IsName name.toList)
    (hsuffix : suffix.toList.all isNameChar = true) : IsName (name ++ suffix).toList := by
  obtain ⟨⟨char, hhead, hstarts⟩, hchars⟩ := hname
  rw [String.toList_append]
  refine ⟨⟨char, ?_, hstarts⟩, fun other hmem => ?_⟩
  · rw [List.head?_append, hhead]
    rfl
  · rw [List.mem_append] at hmem
    rcases hmem with hmem | hmem
    · exact hchars other hmem
    · exact List.all_eq_true.mp hsuffix other hmem

theorem solid_toDigits (count : ℕ) :
    Nat.toDigits 10 count ≠ [] ∧ ' ' ∉ Nat.toDigits 10 count ∧ '\n' ∉ Nat.toDigits 10 count := by
  refine ⟨Nat.toDigits_ne_nil, fun hmem => ?_, (quotable_toDigits count).2.2⟩
  have hfalse := Nat.isDigit_of_mem_toDigits (by decide) le_rfl hmem
  cases hfalse

theorem clean_singleSample {name help kind : String} (hname : IsName name.toList)
    (hhelp : '\n' ∉ help.toList) (hkind : '\n' ∉ kind.toList) (count : ℕ) :
    ∀ line ∈ singleSample name help kind (Nat.toDigits 10 count), Clean line := by
  rw [singleSample, List.forall_mem_cons, List.forall_mem_cons, List.forall_mem_singleton]
  exact ⟨⟨hname, hhelp⟩, ⟨hname, hkind⟩, hname, by simp, solid_toDigits count⟩

theorem clean_histogramSamples (hexport : Exportable format collector) {name help : String}
    (hname : IsName name.toList) (hhelp : '\n' ∉ help.toList) (buckets : Dict Number ℕ) {sum : Number}
    (hsum : sum ∈ collector.numbers) (count : ℕ) :
    ∀ line ∈ histogramSamples format name help collector.bucketBoundaries buckets sum count,
      Clean line := by
  have hbucket : IsName (name ++ "_bucket").toList := isName_append hname (by decide)
  have htotal : IsName (name ++ "_sum").toList := isName_append hname (by decide)
  have hcount : IsName (name ++ "_count").toList := isName_append hname (by decide)
  have hle : IsName "le".toList := isName_toList rfl rfl
  have hwrites := hexport.numbers sum hsum
  rw [histogramSamples, List.forall_mem_cons, List.forall_mem_cons, List.forall_mem_append,
    List.forall_mem_map, List.forall_mem_cons, List.forall_mem_singleton]
  refine ⟨⟨hname, hhelp⟩, ⟨hname, by decide⟩, fun bucket _ => ?_, ?_, ?_⟩
  · refine ⟨hbucket, fun other hother => ?_, solid_toDigits bucket.2⟩
    obtain rfl := List.mem_singleton.mp hother
    exact hle
  · exact ⟨htotal, by simp, hwrites.nonempty, hwrites.solid, hwrites.quotable.2.2⟩
  · exact ⟨hcount, by simp, solid_toDigits count⟩

theorem clean_metricLines (hexport : Exportable format collector) :
    ∀ line ∈ collector.metricLines format, Clean line := by
  have hrequests : IsName "http_requests_total".toList := isName_toList rfl rfl
  have hmethod : IsName "method".toList := isName_toList rfl rfl
  have hstatus : IsName "status".toList := isName_toList rfl rfl
  have hconnections : IsName "http_connections_active".toList := isName_toList rfl rfl
  have hinFlight : IsName "http_requests_in_flight".toList := isName_toList rfl rfl
  have hstreams : IsName "http_streams_active".toList := isName_toList rfl rfl
  have hbytes : IsName "http_bytes_sent_total".toList := isName_toList rfl rfl
  have hduration : IsName "http_request_duration_seconds".toList := isName_toList rfl rfl
  have hlifetime : IsName "http_stream_duration_seconds".toList := isName_toList rfl rfl
  have hsum : collector.durationSum ∈ collector.numbers := by simp [DurationCollector.numbers]
  have hstreamSum : collector.streamDurationSum ∈ collector.numbers := by
    simp [DurationCollector.numbers]
  rw [DurationCollector.metricLines]
  simp only [List.forall_mem_cons, List.forall_mem_append, List.forall_mem_map]
  refine ⟨⟨hrequests, by decide⟩, ⟨hrequests, by decide⟩, fun item _ => ?_,
    clean_histogramSamples hexport hduration (by decide) _ hsum _,
    clean_singleSample hconnections (by decide) (by decide) _,
    clean_singleSample hinFlight (by decide) (by decide) _,
    clean_singleSample hstreams (by decide) (by decide) _,
    clean_histogramSamples hexport hlifetime (by decide) _ hstreamSum _,
    clean_singleSample hbytes (by decide) (by decide) _⟩
  refine ⟨hrequests, ?_, solid_toDigits item.2⟩
  rw [List.forall_mem_cons, List.forall_mem_singleton]
  exact ⟨hmethod, hstatus⟩

/-! ### Samples -/

@[simp]
theorem samples_append (name : String) (first second : List MetricLine) :
    samples name (first ++ second) = samples name first ++ samples name second := by
  simp [samples]

@[simp]
theorem samples_help (name : String) (other text : List Char) (lines : List MetricLine) :
    samples name (.help other text :: lines) = samples name lines := rfl

@[simp]
theorem samples_type (name : String) (other kind : List Char) (lines : List MetricLine) :
    samples name (.type other kind :: lines) = samples name lines := rfl

@[simp]
theorem samples_nil (name : String) : samples name [] = [] := rfl

/-- A sample counts where it has the name. -/
@[simp]
theorem samples_sample (name other : String) (labels : List (List Char × List Char))
    (value : List Char) (lines : List MetricLine) :
    samples name (.sample other.toList labels value :: lines) =
      if other = name then (labels, value) :: samples name lines else samples name lines := by
  rw [samples, List.filterMap_cons]
  simp only [String.toList_inj]
  split_ifs <;> rfl

theorem samples_map {Item : Type*} (name other : String) (items : List Item)
    (labels : Item → List (List Char × List Char)) (value : Item → List Char) :
    samples name (items.map fun item => .sample other.toList (labels item) (value item)) =
      if other = name then items.map fun item => (labels item, value item) else [] := by
  induction items with
  | nil => split_ifs <;> rfl
  | cons item items ih =>
      rw [List.map_cons, samples_sample, ih, List.map_cons]
      split_ifs <;> rfl

theorem readCount_toDigits (count : ℕ) : readCount (Nat.toDigits 10 count) = some count := by
  have hdigits : (Nat.toDigits 10 count).all Char.isDigit = true := by
    rw [List.all_eq_true]
    exact fun char hmem => Nat.isDigit_of_mem_toDigits (by decide) le_rfl hmem
  rw [readCount, if_pos ⟨Nat.toDigits_ne_nil, hdigits⟩, Nat.ofDigitChars_ten_toDigits]

/-- The samples of a histogram have names of their own. -/
theorem samples_histogramSamples (name base help : String) (boundaries : List Number)
    (buckets : Dict Number ℕ) (sum : Number) (count : ℕ) :
    samples name (histogramSamples format base help boundaries buckets sum count) =
      (if base ++ "_bucket" = name then (cumulative buckets 0 boundaries).map fun bucket =>
        ([("le".toList, format.le bucket.1)], Nat.toDigits 10 bucket.2) else []) ++
      ((if base ++ "_sum" = name then [([], format.str sum)] else []) ++
        if base ++ "_count" = name then [([], Nat.toDigits 10 count)] else []) := by
  rw [histogramSamples, samples_help, samples_type, samples_append, samples_sample, samples_sample,
    samples_nil]
  congr 1
  · exact samples_map name (base ++ "_bucket") _ _ _
  · split_ifs <;> rfl

theorem samples_singleSample (name other help kind : String) (value : List Char) :
    samples name (singleSample other help kind value) =
      if other = name then [([], value)] else [] := by
  rw [singleSample, samples_help, samples_type, samples_sample, samples_nil]

theorem mapM_readRequest (items : List ((List Char × List Char) × ℕ)) :
    (items.map fun item => ([("method".toList, item.1.1), ("status".toList, item.1.2)],
      Nat.toDigits 10 item.2)).mapM readRequest = some items := by
  induction items with
  | nil => rfl
  | cons item items ih =>
      have hitem : readRequest ([("method".toList, item.1.1), ("status".toList, item.1.2)],
          Nat.toDigits 10 item.2) = some item := by
        rw [readRequest, if_pos ⟨rfl, rfl⟩, readCount_toDigits]
        rfl
      rw [List.map_cons, List.mapM_cons, hitem, ih]
      rfl

theorem mapM_readBucket {buckets : List (Number × ℕ)}
    (hread : ∀ bucket ∈ buckets, format.float (format.le bucket.1) = some (label bucket.1)) :
    (buckets.map fun bucket => ([("le".toList, format.le bucket.1)],
      Nat.toDigits 10 bucket.2)).mapM (readBucket format) =
        some (buckets.map fun bucket => (label bucket.1, bucket.2)) := by
  induction buckets with
  | nil => rfl
  | cons bucket buckets ih =>
      obtain ⟨hbucket, hbuckets⟩ := List.forall_mem_cons.mp hread
      have hfirst : readBucket format ([("le".toList, format.le bucket.1)],
          Nat.toDigits 10 bucket.2) = some (label bucket.1, bucket.2) := by
        rw [readBucket, if_pos rfl, hbucket, readCount_toDigits]
      rw [List.map_cons, List.mapM_cons, hfirst, ih hbuckets]
      rfl

/-- A histogram is read off the lines that have its samples. -/
theorem readHistogram_eq (hexport : Exportable format collector) {name : String}
    {lines : List MetricLine} {buckets : Dict Number ℕ} {sum : Number} {count : ℕ}
    (hbuckets : samples (name ++ "_bucket") lines =
      (cumulative buckets 0 collector.bucketBoundaries).map fun bucket =>
        ([("le".toList, format.le bucket.1)], Nat.toDigits 10 bucket.2))
    (hsum : samples (name ++ "_sum") lines = [([], format.str sum)])
    (hcount : samples (name ++ "_count") lines = [([], Nat.toDigits 10 count)])
    (hmem : sum ∈ collector.numbers) :
    readHistogram format name lines =
      some (histogramLines collector.bucketBoundaries buckets sum count) := by
  have hread : (samples (name ++ "_bucket") lines).mapM (readBucket format) =
      some ((cumulative buckets 0 collector.bucketBoundaries).map fun bucket =>
        (label bucket.1, bucket.2)) := by
    rw [hbuckets]
    refine mapM_readBucket fun bucket hbucket => (hexport.le ?_).2
    rw [← map_fst_cumulative buckets 0 collector.bucketBoundaries]
    exact List.mem_map_of_mem hbucket
  rw [readHistogram, hread, readSingle, hsum, readSingle, hcount]
  simp only [Option.bind_eq_bind, Option.bind_some, (hexport.numbers sum hmem).float_str,
    readCount_toDigits]
  rfl

theorem readSingle_eq {name : String} {lines : List MetricLine} {count : ℕ}
    (hsingle : samples name lines = [([], Nat.toDigits 10 count)]) :
    (readSingle name lines).bind readCount = some count := by
  rw [readSingle, hsingle]
  exact readCount_toDigits count

/-- What the collector keeps, as a scraper gets it. -/
def DurationCollector.reading (collector : DurationCollector) : Reading where
  requestsTotal := collector.requestItems
  duration := collector.requestHistogram
  connectionsActive := collector.connectionsActive
  requestsInFlight := collector.requestsInFlight
  streamsActive := collector.streamsActive
  streamDuration := collector.streamHistogram
  bytesSentTotal := collector.bytesSentTotal

/-- The samples of a name among all lines. -/
theorem samples_metricLines (name : String) :
    samples name (collector.metricLines format) =
      (if "http_requests_total" = name then collector.requestItems.map fun item =>
        ([("method".toList, item.1.1), ("status".toList, item.1.2)], Nat.toDigits 10 item.2)
        else []) ++
      (samples name (histogramSamples format "http_request_duration_seconds"
          "Request duration in seconds." collector.bucketBoundaries collector.durationBuckets
          collector.durationSum collector.durationCount) ++
        ((if "http_connections_active" = name then
            [([], Nat.toDigits 10 collector.connectionsActive)] else []) ++
          ((if "http_requests_in_flight" = name then
              [([], Nat.toDigits 10 collector.requestsInFlight)] else []) ++
            ((if "http_streams_active" = name then
                [([], Nat.toDigits 10 collector.streamsActive)] else []) ++
              (samples name (histogramSamples format "http_stream_duration_seconds"
                  "Completed streaming response lifetime." collector.bucketBoundaries
                  collector.streamDurationBuckets collector.streamDurationSum
                  collector.streamDurationCount) ++
                if "http_bytes_sent_total" = name then
                  [([], Nat.toDigits 10 collector.bytesSentTotal)] else []))))) := by
  rw [DurationCollector.metricLines, samples_help, samples_type]
  simp only [samples_append, samples_singleSample]
  congr 1
  exact samples_map name "http_requests_total" _ _ _

theorem readLines_metricLines (hexport : Exportable format collector) :
    readLines format (collector.metricLines format) = some collector.reading := by
  have hrequests : (samples "http_requests_total" (collector.metricLines format)).mapM readRequest =
      some collector.requestItems := by
    have hsamples : samples "http_requests_total" (collector.metricLines format) =
        collector.requestItems.map fun item =>
          ([("method".toList, item.1.1), ("status".toList, item.1.2)], Nat.toDigits 10 item.2) := by
      rw [samples_metricLines]
      simp [samples_histogramSamples]
    rw [hsamples, mapM_readRequest]
  have hduration : readHistogram format "http_request_duration_seconds"
      (collector.metricLines format) = some collector.requestHistogram := by
    refine readHistogram_eq hexport ?_ ?_ ?_ (by simp [DurationCollector.numbers]) <;>
    · rw [samples_metricLines]
      simp [samples_histogramSamples]
  have hlifetime : readHistogram format "http_stream_duration_seconds"
      (collector.metricLines format) = some collector.streamHistogram := by
    refine readHistogram_eq hexport ?_ ?_ ?_ (by simp [DurationCollector.numbers]) <;>
    · rw [samples_metricLines]
      simp [samples_histogramSamples]
  have hconnections : (readSingle "http_connections_active" (collector.metricLines format)).bind
      readCount = some collector.connectionsActive := by
    refine readSingle_eq ?_
    rw [samples_metricLines]
    simp [samples_histogramSamples]
  have hinFlight : (readSingle "http_requests_in_flight" (collector.metricLines format)).bind
      readCount = some collector.requestsInFlight := by
    refine readSingle_eq ?_
    rw [samples_metricLines]
    simp [samples_histogramSamples]
  have hstreams : (readSingle "http_streams_active" (collector.metricLines format)).bind
      readCount = some collector.streamsActive := by
    refine readSingle_eq ?_
    rw [samples_metricLines]
    simp [samples_histogramSamples]
  have hbytes : (readSingle "http_bytes_sent_total" (collector.metricLines format)).bind
      readCount = some collector.bytesSentTotal := by
    refine readSingle_eq ?_
    rw [samples_metricLines]
    simp [samples_histogramSamples]
  rw [readLines, hrequests, hduration, hconnections, hinFlight, hstreams, hlifetime, hbytes]
  rfl

/-- A scraper gets what the collector keeps. -/
theorem scrape_exportText (hexport : Exportable format collector) :
    scrape format (collector.exportText format) = some collector.reading := by
  rw [scrape, exportText_eq hexport, read_text (clean_metricLines hexport), Option.bind_some,
    readLines_metricLines hexport]

end Export

/-! ## What a scraper is told of a run -/

/-- A response with this method and this status. -/
def answers (key : Bytes × ℕ) (timed : TimedEvent) : Bool :=
  match timed.event with
  | .responseCompleted _ status _ method _ =>
      (if method = [] then Bytes.ascii "unknown" else method, status) = key
  | _ => false

/-- The method of a response may stand between quotes. -/
def TimedEvent.Plain (timed : TimedEvent) : Prop :=
  match timed.event with
  | .responseCompleted _ _ _ method _ => Quotable (methodText method)
  | _ => True

/-- A gauge that some events raise and others lower, not below zero. -/
def gauge (raises lowers : LifecycleEvent → Bool) (events : List TimedEvent) : ℕ :=
  events.foldl (fun value timed =>
    if raises timed.event then value + 1 else if lowers timed.event then value - 1 else value) 0

/-- A connection is opened. -/
def opensConnection : LifecycleEvent → Bool
  | .connectionOpened .. => true
  | _ => false

/-- A connection is done. -/
def closesConnection : LifecycleEvent → Bool
  | .connectionCompleted .. => true
  | _ => false

/-- A stream is opened. -/
def opensStream : LifecycleEvent → Bool
  | .streamOpened .. => true
  | _ => false

/-- A stream is closed. -/
def closesStream : LifecycleEvent → Bool
  | .streamClosed .. => true
  | _ => false

section Run

variable (arithmetic : NumberArithmetic) (boundaries : List Number) (events : List TimedEvent)

/-- The sum of some durations. -/
def total (durations : List Number) : Number := durations.foldl arithmetic.add (.finite 0)

/-- A histogram of some durations. -/
structure TellsDurations (durations : List Number) (histogram : Histogram) : Prop where
  sum : histogram.sum = total arithmetic durations
  count : histogram.count = durations.length
  bounds : histogram.buckets.map Prod.fst = boundaries.map label
  /-- A bucket has the durations that are at most its boundary. -/
  buckets : histogram.buckets.map Prod.snd =
    boundaries.map fun boundary => durations.countP fun duration => duration.le boundary

/-- What a scraper is told of some events. -/
structure Tells (reading : Reading) : Prop where
  /-- There is one sample for each method and status. -/
  keys : (reading.requestsTotal.map Prod.fst).Nodup
  known : ∀ item ∈ reading.requestsTotal, ∃ key, item.1 = keyText key
  /-- It says how many responses had them. -/
  requests : ∀ key count, (keyText key, count) ∈ reading.requestsTotal ↔
    count = events.countP (answers key) ∧ 0 < count
  duration : TellsDurations arithmetic boundaries
    (events.filterMap (TimedEvent.requestDuration arithmetic)) reading.duration
  streamDuration : TellsDurations arithmetic boundaries
    (events.filterMap (TimedEvent.streamDuration arithmetic)) reading.streamDuration
  connectionsActive : reading.connectionsActive =
    gauge opensConnection closesConnection events
  requestsInFlight : reading.requestsInFlight =
    gauge LifecycleEvent.starts LifecycleEvent.ends events
  streamsActive : reading.streamsActive =
    gauge opensStream closesStream events
  bytesSentTotal : reading.bytesSentTotal = (events.map (·.event.connectionBytes)).sum

end Run

section Told

variable {arithmetic : NumberArithmetic} {boundaries : List Number} {events : List TimedEvent}
  {format : NumberFormat}

theorem record_toPrometheusCollector (collector : DurationCollector) (timed : TimedEvent) :
    (collector.record arithmetic timed).toPrometheusCollector =
      collector.toPrometheusCollector.record timed.event := by
  obtain ⟨event, durationMs⟩ := timed
  cases event <;> rfl

theorem foldl_toPrometheusCollector (collector : DurationCollector) :
    (events.foldl (DurationCollector.record arithmetic) collector).toPrometheusCollector =
      events.foldl (fun kept timed => kept.record timed.event) collector.toPrometheusCollector :=
  (List.foldl_hom DurationCollector.toPrometheusCollector
    fun collector timed => (record_toPrometheusCollector collector timed).symm).symm

/-- The counter of requests says how often a key was counted, before and since. -/
theorem count_requestsTotal (collector : PrometheusCollector) (key : Bytes × ℕ) :
    (events.foldl (fun kept timed => kept.record timed.event) collector).requestsTotal.count key =
      collector.requestsTotal.count key + events.countP (answers key) := by
  induction events generalizing collector with
  | nil => rfl
  | cons timed events ih =>
      have hrecord : (collector.record timed.event).requestsTotal.count key =
          collector.requestsTotal.count key + if answers key timed then 1 else 0 := by
        obtain ⟨event, durationMs⟩ := timed
        cases event with
        | responseCompleted connectionId status bytesSent method streaming =>
            simp only [PrometheusCollector.record, answers, decide_eq_true_eq]
            generalize (if method = [] then Bytes.ascii "unknown" else method, status) = counted
            rw [Dict.count_set]
            split
            case isTrue hsame =>
              rw [hsame]
              rfl
            case isFalse => rfl
        | _ => rfl
      rw [List.foldl_cons, ih, hrecord, List.countP_cons, Nat.add_assoc, Nat.add_comm (events.countP _)]

/-- Nothing is counted zero times, and every method may stand between quotes. -/
structure Counted (tally : Dict (Bytes × ℕ) ℕ) : Prop where
  pos : ∀ key count, tally.get key = some count → 0 < count
  quotable : ∀ key count, tally.get key = some count → key.1 ≠ [] ∧ Quotable (methodText key.1)

theorem counted_record {collector : PrometheusCollector} (hcounted : Counted collector.requestsTotal)
    {timed : TimedEvent} (hplain : timed.Plain) :
    Counted (collector.record timed.event).requestsTotal := by
  obtain ⟨event, durationMs⟩ := timed
  cases event with
  | responseCompleted connectionId status bytesSent method streaming =>
      have hmethod : Quotable (methodText method) := hplain
      have hunknown : Bytes.ascii "unknown" ≠ [] ∧ Quotable (methodText (Bytes.ascii "unknown")) :=
        ⟨by decide, by decide, by decide, by decide⟩
      rw [PrometheusCollector.record]
      generalize hkey : (if method = [] then Bytes.ascii "unknown" else method, status) = key
      have hnamed : key.1 ≠ [] ∧ Quotable (methodText key.1) := by
        rw [← hkey]
        split
        case isTrue => exact hunknown
        case isFalse hne => exact ⟨hne, hmethod⟩
      constructor
      all_goals
        intro other count hget
        by_cases hsame : other = key
      · rw [hsame, Dict.get_set_self, Option.some_inj] at hget
        omega
      · rw [Dict.get_set_of_ne hsame] at hget
        exact hcounted.pos other count hget
      · exact hsame ▸ hnamed
      · rw [Dict.get_set_of_ne hsame] at hget
        exact hcounted.quotable other count hget
  | _ => exact hcounted

theorem counted_foldl {collector : PrometheusCollector} (hcounted : Counted collector.requestsTotal)
    (hplain : ∀ timed ∈ events, timed.Plain) :
    Counted (events.foldl (fun kept timed => kept.record timed.event) collector).requestsTotal := by
  induction events generalizing collector with
  | nil => exact hcounted
  | cons timed events ih =>
      obtain ⟨hfirst, hrest⟩ := List.forall_mem_cons.mp hplain
      exact ih (counted_record hcounted hfirst) hrest

theorem charOfByte_injective : Function.Injective fun byte : UInt8 => Char.ofNat byte.toNat := by
  intro first second hsame
  have hcode := congrArg Char.toNat hsame
  simp only [Bytes.toNat_charOfByte] at hcode
  exact UInt8.toNat_inj.mp hcode

/-- Different keys have different texts. -/
theorem keyText_injective : Function.Injective keyText := by
  rintro ⟨method, status⟩ ⟨otherMethod, otherStatus⟩ hsame
  obtain ⟨hmethod, hstatus⟩ := Prod.mk.inj hsame
  have hmethod : method = otherMethod := List.map_injective_iff.mpr charOfByte_injective hmethod
  have hstatus := congrArg (Nat.ofDigitChars 10 · 0) hstatus
  simp only [Nat.ofDigitChars_ten_toDigits] at hstatus
  rw [hmethod, hstatus]

/-- A gauge of the collector is a gauge of the events. -/
theorem gauge_foldl {raises lowers : LifecycleEvent → Bool} (value : PrometheusCollector → ℕ)
    (hzero : value { requestsTotal := .empty } = 0)
    (hrecord : ∀ kept event, value (kept.record event) =
      if raises event then value kept + 1 else if lowers event then value kept - 1 else value kept) :
    value (events.foldl (fun kept timed => kept.record timed.event) { requestsTotal := .empty }) =
      gauge raises lowers events := by
  generalize ({ requestsTotal := .empty } : PrometheusCollector) = start at hzero ⊢
  rw [gauge, ← hzero]
  symm
  refine List.foldl_hom value ?_
  intro kept timed
  exact (hrecord kept timed.event).symm

theorem bytesSentTotal_foldl (collector : PrometheusCollector) :
    (events.foldl (fun kept timed => kept.record timed.event) collector).bytesSentTotal =
      collector.bytesSentTotal + (events.map (·.event.connectionBytes)).sum := by
  induction events generalizing collector with
  | nil => rfl
  | cons timed events ih =>
      rw [List.foldl_cons, ih, PrometheusCollector.bytesSentTotal_record, List.map_cons,
        List.sum_cons, Nat.add_assoc]

/-- The sums are those of the durations. -/
theorem sums_foldl (collector : DurationCollector) :
    (events.foldl (DurationCollector.record arithmetic) collector).durationSum =
        (events.filterMap (TimedEvent.requestDuration arithmetic)).foldl arithmetic.add
          collector.durationSum ∧
      (events.foldl (DurationCollector.record arithmetic) collector).streamDurationSum =
        (events.filterMap (TimedEvent.streamDuration arithmetic)).foldl arithmetic.add
          collector.streamDurationSum := by
  rw [List.foldl_filterMap, List.foldl_filterMap]
  constructor
  · refine (List.foldl_hom DurationCollector.durationSum fun collector timed => ?_).symm
    obtain ⟨event, durationMs⟩ := timed
    cases event <;> rfl
  · refine (List.foldl_hom DurationCollector.streamDurationSum fun collector timed => ?_).symm
    obtain ⟨event, durationMs⟩ := timed
    cases event <;> rfl

/-- The lines of a histogram tell the durations that were observed. -/
theorem tellsDurations (hincreasing : Increasing boundaries) (durations : List Number) :
    TellsDurations arithmetic boundaries durations
      (histogramLines boundaries (durations.foldl (observe Number.le boundaries)
        (.fromKeys boundaries 0)) (total arithmetic durations) durations.length) where
  sum := rfl
  count := rfl
  bounds := map_fst_buckets _ _ _
  buckets := by
    apply List.ext_getElem?
    intro index
    rw [histogramLines, List.map_map, List.getElem?_map, getElem?_cumulative hincreasing.nodup,
      List.getElem?_map, Option.map_map]
    cases hindex : boundaries[index]? with
    | none => rfl
    | some boundary =>
        simp only [any_take hincreasing hindex]
        rfl

end Told

theorem mem_requestItems {collector : DurationCollector} {item : (List Char × List Char) × ℕ} :
    item ∈ collector.requestItems ↔
      ∃ entry ∈ collector.requestsTotal.entries, (keyText entry.1, entry.2) = item := by
  rw [DurationCollector.requestItems, (List.mergeSort_perm _ _).mem_iff, List.mem_map]

/-- There is one sample for each key. -/
theorem keys_requestItems (collector : DurationCollector) :
    (collector.requestItems.map Prod.fst).Nodup := by
  have hperm := (List.mergeSort_perm
    (collector.requestsTotal.entries.map fun entry => (keyText entry.1, entry.2)) keyLe).map Prod.fst
  rw [DurationCollector.requestItems, hperm.nodup_iff, List.map_map]
  have hkeys : Prod.fst ∘ (fun entry : (Bytes × ℕ) × ℕ => (keyText entry.1, entry.2)) =
      keyText ∘ Prod.fst := rfl
  rw [hkeys, ← List.map_map]
  exact collector.requestsTotal.nodup.map keyText_injective

/-- The numbers that are written for some events. -/
def writtenNumbers (arithmetic : NumberArithmetic) (boundaries : List Number)
    (events : List TimedEvent) : List Number :=
  total arithmetic (events.filterMap (TimedEvent.requestDuration arithmetic)) ::
    total arithmetic (events.filterMap (TimedEvent.streamDuration arithmetic)) :: boundaries

/-- Numbers of a few runs, as they are written and read. -/
def decimals : List (Number × String) :=
  [(.finite 0, "0.0"), (.finite (1 / 2), "0.5"), (.finite 1, "1.0"), (.posInf, "inf"),
    (.posInf, "+Inf")]

/-- A format for these numbers. -/
def decimalFormat : NumberFormat where
  str number := ((decimals.find? (·.1 = number)).map (·.2.toList)).getD []
  float text := (decimals.find? (·.2.toList = text)).map Prod.fst

/-- Two responses, of which one was not parsed, and a stream that has not ended. -/
def scrapedEvents : List TimedEvent :=
  [⟨.connectionOpened 1 .h1, .finite 0⟩, ⟨.requestStarted 1 (Bytes.ascii "GET") [], .finite 0⟩,
    ⟨.streamOpened 1 (Bytes.ascii "GET") [], .finite 0⟩,
    ⟨.responseCompleted 1 200 5 (Bytes.ascii "GET") true, .finite 500⟩,
    ⟨.responseCompleted 2 400 0 [] false, .finite 500⟩]

end Pounce.Metrics
