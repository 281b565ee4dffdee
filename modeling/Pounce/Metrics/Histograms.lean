/-
# The duration histograms

`PrometheusCollector` counts the durations of responses and of streams in buckets, each duration
in the first bucket of the constructor's tuple it fits in, and `export` sums the counts up in
the order of that tuple. The tuple is whatever the caller gave: nothing sorts it, and nothing
adds the bucket of +Inf. What comes out is a histogram for Prometheus exactly if the finite
boundaries increase, an infinite one ends them, and every duration fits some bucket
(`export_valid_iff`).

Durations and boundaries are floating point numbers. All that is asked of them is how they
compare, for which a number is its value; the arithmetic is a parameter.
-/

import Mathlib.Algebra.Order.Ring.Rat
import Pounce.Math.Buckets
import Pounce.Metrics

namespace Pounce.Metrics

open Pounce.Math

/-! ## Floating point numbers -/

/-- A floating point number, by its value. -/
inductive Number
  | nan
  | negInf
  | finite (value : ℚ)
  | posInf
  deriving DecidableEq, Repr

namespace Number

/-- `<=`, which nothing that is not a number satisfies. -/
def le : Number → Number → Bool
  | .nan, _ => false
  | _, .nan => false
  | .negInf, _ => true
  | _, .posInf => true
  | .finite first, .finite second => first ≤ second
  | _, _ => false

/-- `<`. -/
def lt (first second : Number) : Bool := first.le second && !second.le first

/-- `math.isinf`, of either sign. -/
def isInf : Number → Bool
  | .negInf | .posInf => true
  | _ => false

@[simp]
theorem lt_finite (first second : ℚ) : lt (.finite first) (.finite second) = decide (first < second) := by
  rw [lt, le, le, Bool.eq_iff_iff]
  simpa using le_of_lt

@[simp]
theorem finite_lt_posInf (value : ℚ) : lt (.finite value) .posInf = true := rfl

/-- A number below +Inf is finite or -Inf. -/
theorem of_lt_posInf {number : Number} (hlt : number.lt .posInf = true) :
    number = .negInf ∨ ∃ value, number = .finite value := by
  cases number with
  | nan => cases hlt
  | negInf => exact .inl rfl
  | finite value => exact .inr ⟨value, rfl⟩
  | posInf => cases hlt

theorem not_posInf_lt (number : Number) : lt .posInf number = false := by
  cases number <;> rfl

theorem le_trans {first second third : Number} (hfirst : first.le second = true)
    (hsecond : second.le third = true) : first.le third = true := by
  cases first <;> cases second <;> cases third <;> try trivial
  case finite.finite.finite first second third =>
    rw [le, decide_eq_true_eq] at hfirst hsecond ⊢
    exact hfirst.trans hsecond

theorem le_of_lt {first second : Number} (hlt : first.lt second = true) : first.le second = true :=
  (Bool.and_eq_true_iff.mp hlt).1

theorem lt_irrefl (number : Number) : number.lt number = false := by
  rw [lt, Bool.and_not_self]

/-- What is at most some number is a number. -/
theorem le_posInf {number bound : Number} (hle : number.le bound = true) :
    number.le .posInf = true := by
  cases number with
  | nan => cases hle
  | negInf | finite | posInf => rfl

end Number

/-- The arithmetic that is done with durations. -/
structure NumberArithmetic where
  /-- `duration_ms / 1000.0`. -/
  toSeconds : Number → Number
  add : Number → Number → Number

/-! ## The collector -/

/-- An event with its `duration_ms`, which only some events have. -/
structure TimedEvent where
  event : LifecycleEvent
  durationMs : Number
  deriving DecidableEq, Repr

/-- What `PrometheusCollector` keeps, durations included. -/
structure DurationCollector extends PrometheusCollector where
  bucketBoundaries : List Number
  durationSum : Number := .finite 0
  durationBuckets : Dict Number ℕ
  streamDurationSum : Number := .finite 0
  streamDurationBuckets : Dict Number ℕ

/-- The two histogram sections of `export`, as a scraper reads them. -/
structure Histogram where
  /-- The boundary in the label `le` of every bucket line, and its count. -/
  buckets : List (Number × ℕ)
  sum : Number
  count : ℕ
  deriving DecidableEq, Repr

/-- The boundary that a label says: an infinite one is written `+Inf`. -/
def label (boundary : Number) : Number := if boundary.isInf then .posInf else boundary

/-- The lines of one histogram. -/
def histogramLines (boundaries : List Number) (buckets : Dict Number ℕ) (sum : Number) (count : ℕ) :
    Histogram where
  buckets := (cumulative buckets 0 boundaries).map fun bucket => (label bucket.1, bucket.2)
  sum
  count

namespace DurationCollector

/-- `PrometheusCollector(duration_buckets=...)`. -/
def new (durationBuckets : List Number) : DurationCollector where
  requestsTotal := .empty
  bucketBoundaries := durationBuckets
  durationBuckets := .fromKeys durationBuckets 0
  streamDurationBuckets := .fromKeys durationBuckets 0

variable (arithmetic : NumberArithmetic) (collector : DurationCollector)

/-- `record`. -/
def record (timed : TimedEvent) : DurationCollector :=
  let recorded := { collector with
    toPrometheusCollector := collector.toPrometheusCollector.record timed.event }
  let durationS := arithmetic.toSeconds timed.durationMs
  match timed.event with
  | .responseCompleted .. =>
      { recorded with
        durationSum := arithmetic.add collector.durationSum durationS
        durationBuckets :=
          observe Number.le collector.bucketBoundaries collector.durationBuckets durationS }
  | .streamClosed .. =>
      { recorded with
        streamDurationSum := arithmetic.add collector.streamDurationSum durationS
        streamDurationBuckets :=
          observe Number.le collector.bucketBoundaries collector.streamDurationBuckets durationS }
  | _ => recorded

/-- The `http_request_duration_seconds` section of `export`. -/
def requestHistogram : Histogram :=
  histogramLines collector.bucketBoundaries collector.durationBuckets collector.durationSum
    collector.durationCount

/-- The `http_stream_duration_seconds` section of `export`. -/
def streamHistogram : Histogram :=
  histogramLines collector.bucketBoundaries collector.streamDurationBuckets
    collector.streamDurationSum collector.streamDurationCount

end DurationCollector

/-! ## What has been recorded -/

section Recorded

variable (arithmetic : NumberArithmetic)

/-- The duration of a response, in seconds. -/
def TimedEvent.requestDuration (timed : TimedEvent) : Option Number :=
  match timed.event with
  | .responseCompleted .. => some (arithmetic.toSeconds timed.durationMs)
  | _ => none

/-- The duration of a stream, in seconds. -/
def TimedEvent.streamDuration (timed : TimedEvent) : Option Number :=
  match timed.event with
  | .streamClosed .. => some (arithmetic.toSeconds timed.durationMs)
  | _ => none

variable (collector : DurationCollector)

/-- One event counts its duration, if it has one. -/
theorem record_spec (timed : TimedEvent) :
    let next := collector.record arithmetic timed
    next.bucketBoundaries = collector.bucketBoundaries ∧
      next.durationBuckets = (timed.requestDuration arithmetic).toList.foldl
        (observe Number.le collector.bucketBoundaries) collector.durationBuckets ∧
      next.durationCount =
        collector.durationCount + (timed.requestDuration arithmetic).toList.length ∧
      next.streamDurationBuckets = (timed.streamDuration arithmetic).toList.foldl
        (observe Number.le collector.bucketBoundaries) collector.streamDurationBuckets ∧
      next.streamDurationCount =
        collector.streamDurationCount + (timed.streamDuration arithmetic).toList.length := by
  obtain ⟨event, durationMs⟩ := timed
  cases event <;> exact ⟨rfl, rfl, rfl, rfl, rfl⟩

/-- So do all events together. -/
theorem recorded_spec (events : List TimedEvent) :
    let final := events.foldl (DurationCollector.record arithmetic) collector
    final.bucketBoundaries = collector.bucketBoundaries ∧
      final.durationBuckets =
        (events.filterMap (TimedEvent.requestDuration arithmetic)).foldl
          (observe Number.le collector.bucketBoundaries) collector.durationBuckets ∧
      final.durationCount = collector.durationCount +
        (events.filterMap (TimedEvent.requestDuration arithmetic)).length ∧
      final.streamDurationBuckets =
        (events.filterMap (TimedEvent.streamDuration arithmetic)).foldl
          (observe Number.le collector.bucketBoundaries) collector.streamDurationBuckets ∧
      final.streamDurationCount = collector.streamDurationCount +
        (events.filterMap (TimedEvent.streamDuration arithmetic)).length := by
  induction events generalizing collector with
  | nil => exact ⟨rfl, rfl, rfl, rfl, rfl⟩
  | cons timed events ih =>
      obtain ⟨hboundaries, hrequests, hrequestCount, hstreams, hstreamCount⟩ :=
        record_spec arithmetic collector timed
      obtain ⟨hfinal, hbuckets, hcount, hstreamBuckets, hstreamTotal⟩ :=
        ih (collector.record arithmetic timed)
      have hsplit : ∀ duration : TimedEvent → Option Number,
          (timed :: events).filterMap duration =
            (duration timed).toList ++ events.filterMap duration := by
        intro duration
        rw [List.filterMap_cons]
        cases duration timed <;> rfl
      simp only [List.foldl_cons, hsplit, List.foldl_append, List.length_append]
      rw [hboundaries] at hfinal hbuckets hstreamBuckets
      rw [hrequests] at hbuckets
      rw [hstreams] at hstreamBuckets
      refine ⟨hfinal, hbuckets, ?_, hstreamBuckets, ?_⟩
      · rw [hcount, hrequestCount, Nat.add_assoc]
      · rw [hstreamTotal, hstreamCount, Nat.add_assoc]

end Recorded

/-! ## Valid histograms -/

/-- A valid Prometheus histogram of these durations. -/
structure Histogram.Valid (histogram : Histogram) (durations : List Number) : Prop where
  increasing : (histogram.buckets.map Prod.fst).Pairwise fun first second => first.lt second = true
  nondecreasing : (histogram.buckets.map Prod.snd).Pairwise (· ≤ ·)
  inf : (.posInf, histogram.count) ∈ histogram.buckets
  counts : ∀ bucket ∈ histogram.buckets,
    bucket.2 = durations.countP fun duration => duration.le bucket.1

/-- The finite boundaries increase, and one infinite boundary ends them. -/
def Proper (boundaries : List Number) : Prop :=
  ∃ (bounds : List ℚ) (last : Number), boundaries = bounds.map .finite ++ [last] ∧
    last.isInf = true ∧ bounds.Pairwise (· < ·)

/-- Every duration fits some bucket. -/
def Covered (boundaries durations : List Number) : Prop :=
  ∀ duration ∈ durations, ∃ boundary ∈ boundaries, duration.le boundary = true

variable {boundaries durations : List Number}

/-- Nothing comes behind the bucket of +Inf, and before it all boundaries are finite. -/
theorem proper_of_labels
    (hincreasing : (boundaries.map label).Pairwise fun first second => first.lt second = true)
    (hinf : Number.posInf ∈ boundaries.map label) : Proper boundaries := by
  induction boundaries with
  | nil => cases hinf
  | cons boundary boundaries ih =>
      rw [List.map_cons, List.pairwise_cons] at hincreasing
      obtain ⟨hfirst, hrest⟩ := hincreasing
      by_cases hlast : boundary.isInf = true
      case pos =>
        have hnone : boundaries = [] := by
          rw [List.eq_nil_iff_forall_not_mem]
          intro later hmem
          have hless := hfirst (label later) (List.mem_map_of_mem hmem)
          rw [label, if_pos hlast, Number.not_posInf_lt] at hless
          cases hless
        exact ⟨[], boundary, by rw [hnone]; rfl, hlast, List.Pairwise.nil⟩
      case neg =>
        have hlabel : label boundary = boundary := if_neg hlast
        rw [List.map_cons, List.mem_cons, hlabel] at hinf
        rcases hinf with hsame | hmem
        · exact absurd (hsame ▸ rfl) hlast
        · obtain ⟨bounds, last, rfl, hisInf, hbounds⟩ := ih hrest hmem
          have hless := hfirst .posInf hmem
          rw [hlabel] at hless
          rcases Number.of_lt_posInf hless with rfl | ⟨value, rfl⟩
          · exact absurd rfl hlast
          · refine ⟨value :: bounds, last, rfl, hisInf, List.pairwise_cons.mpr ⟨?_, hbounds⟩⟩
            intro bound hbound
            have hvalue := hfirst (label (.finite bound))
              (List.mem_map_of_mem (List.mem_append_left _ (List.mem_map_of_mem hbound)))
            simpa [label, Number.isInf] using hvalue

theorem nodup_of_proper {bounds : List ℚ} {last : Number} (hlast : last.isInf = true)
    (hbounds : bounds.Pairwise (· < ·)) : (bounds.map Number.finite ++ [last]).Nodup := by
  refine List.nodup_append.mpr ⟨?_, List.nodup_singleton _, ?_⟩
  · apply List.Nodup.map (fun _ _ => Number.finite.inj)
    exact hbounds.imp fun hless => ne_of_lt hless
  · intro boundary hmem other hother
    obtain ⟨value, -, rfl⟩ := List.mem_map.mp hmem
    obtain rfl := List.mem_singleton.mp hother
    rintro rfl
    cases hlast

/-- The boundaries increase. -/
def Increasing (boundaries : List Number) : Prop :=
  boundaries.Pairwise fun first second => first.lt second = true

theorem Increasing.nodup (hincreasing : Increasing boundaries) : boundaries.Nodup := by
  refine hincreasing.imp fun {first second} hlt heq => ?_
  rw [heq, Number.lt_irrefl] at hlt
  cases hlt

/-- Of increasing boundaries the last decides what fits one of them. -/
theorem any_take (hincreasing : Increasing boundaries) {index : ℕ} {boundary : Number}
    (hindex : boundaries[index]? = some boundary) (duration : Number) :
    (boundaries.take (index + 1)).any duration.le = duration.le boundary := by
  rw [Bool.eq_iff_iff, List.any_eq_true, List.take_add_one, hindex, Option.toList_some]
  simp only [List.mem_append, List.mem_singleton]
  constructor
  · rintro ⟨other, hbefore | rfl, hle⟩
    · obtain ⟨position, hposition, rfl⟩ := List.mem_take_iff_getElem.mp hbefore
      obtain ⟨hlength, rfl⟩ := List.getElem?_eq_some_iff.mp hindex
      have hlt := List.pairwise_iff_getElem.mp hincreasing position index (by omega) hlength
        (by omega)
      exact Number.le_trans hle (Number.le_of_lt hlt)
    · exact hle
  · exact fun hle => ⟨boundary, .inr rfl, hle⟩

theorem map_fst_buckets (tally : Dict Number ℕ) (sum : Number) (count : ℕ) :
    (histogramLines boundaries tally sum count).buckets.map Prod.fst = boundaries.map label := by
  conv_rhs => rw [← map_fst_cumulative tally 0 boundaries]
  rw [histogramLines, List.map_map, List.map_map]
  rfl

/-- The buckets of proper boundaries: a finite one has the durations that are at most its
boundary, the last one those that fit any bucket. -/
theorem buckets_of_proper {bounds : List ℚ} {last : Number} (hlast : last.isInf = true)
    (hbounds : bounds.Pairwise (· < ·)) (hboundaries : boundaries = bounds.map .finite ++ [last])
    (sum : Number) (count : ℕ) :
    (histogramLines boundaries (durations.foldl (observe Number.le boundaries)
        (.fromKeys boundaries 0)) sum count).buckets =
      bounds.map (fun bound => (Number.finite bound,
        durations.countP fun duration => duration.le (.finite bound))) ++
      [(.posInf, durations.countP fun duration => boundaries.any duration.le)] := by
  have hnodup : boundaries.Nodup := hboundaries ▸ nodup_of_proper hlast hbounds
  apply List.ext_getElem?
  intro index
  rw [histogramLines, List.getElem?_map, getElem?_cumulative hnodup, Option.map_map]
  rcases Nat.lt_trichotomy index bounds.length with hless | rfl | hmore
  · obtain ⟨bound, hbound⟩ : ∃ bound, bounds[index]? = some bound :=
      ⟨_, List.getElem?_eq_getElem hless⟩
    have htake : boundaries.take (index + 1) = (bounds.map Number.finite).take (index + 1) := by
      rw [hboundaries, List.take_append_of_le_length (by rw [List.length_map]; omega)]
    have hincreasing : Increasing (bounds.map Number.finite) :=
      List.pairwise_map.mpr (hbounds.imp fun hlt => by simpa using hlt)
    have hindex : (bounds.map Number.finite)[index]? = some (.finite bound) := by
      rw [List.getElem?_map, hbound, Option.map_some]
    rw [htake, List.getElem?_append_left (by simpa using hless), List.getElem?_map, hbound,
      hboundaries, List.getElem?_append_left (by simpa using hless), hindex]
    simp only [any_take hincreasing hindex]
    rfl
  · have htake : boundaries.take (bounds.length + 1) = boundaries :=
      List.take_of_length_le (by simp [hboundaries])
    have hindex : boundaries[bounds.length]? = some last := by simp [hboundaries]
    rw [htake, hindex]
    simp [label, hlast]
  · rw [List.getElem?_eq_none (by simp [hboundaries]; omega),
      List.getElem?_eq_none (by simp; omega)]
    rfl

/-- The lines are a valid histogram exactly for proper boundaries that every duration fits. -/
theorem valid_iff (sum : Number) :
    (histogramLines boundaries (durations.foldl (observe Number.le boundaries)
        (.fromKeys boundaries 0)) sum durations.length).Valid durations ↔
      Proper boundaries ∧ Covered boundaries durations := by
  have hcovered : Covered boundaries durations ↔
      (durations.countP fun duration => boundaries.any duration.le) = durations.length := by
    simp [Covered, List.countP_eq_length]
  constructor
  · intro hvalid
    have hlabels := hvalid.increasing
    have hmem := List.mem_map_of_mem (f := Prod.fst) hvalid.inf
    rw [map_fst_buckets] at hlabels hmem
    obtain ⟨bounds, last, hboundaries, hlast, hbounds⟩ := proper_of_labels hlabels hmem
    refine ⟨⟨bounds, last, hboundaries, hlast, hbounds⟩, hcovered.mpr ?_⟩
    have hinf := hvalid.inf
    rw [buckets_of_proper hlast hbounds hboundaries] at hinf
    simpa [histogramLines, eq_comm] using hinf
  · rintro ⟨⟨bounds, last, hboundaries, hlast, hbounds⟩, hall⟩
    have hbuckets := @buckets_of_proper _ durations _ _ hlast hbounds hboundaries sum
      durations.length
    rw [hcovered.mp hall] at hbuckets
    constructor
    case increasing =>
      rw [hbuckets, List.map_append, List.map_map]
      refine List.pairwise_append.mpr ⟨?_, List.pairwise_singleton .., ?_⟩
      · exact List.pairwise_map.mpr (hbounds.imp fun hless => by simpa using hless)
      · intro boundary hmem other hother
        obtain ⟨bound, -, rfl⟩ := List.mem_map.mp hmem
        obtain rfl := List.mem_singleton.mp hother
        rfl
    case nondecreasing =>
      rw [histogramLines, List.map_map]
      exact (cumulative_nondecreasing ..).1
    case inf =>
      rw [hbuckets]
      exact List.mem_append_right _ (List.mem_singleton_self _)
    case counts =>
      intro bucket hmem
      rw [hbuckets] at hmem
      rcases List.mem_append.mp hmem with hfinite | hinf
      · obtain ⟨bound, -, rfl⟩ := List.mem_map.mp hfinite
        rfl
      · obtain rfl := List.mem_singleton.mp hinf
        refine (List.countP_eq_length.mpr fun duration hduration => ?_).symm
        obtain ⟨boundary, -, hle⟩ := hall duration hduration
        exact Number.le_posInf hle

/-- Whatever the constructor is given and whatever is recorded, both sections of the export are
valid histograms of the recorded durations exactly if the finite boundaries increase, an infinite
one ends them, and every duration is at most some boundary. -/
theorem export_valid_iff (arithmetic : NumberArithmetic) (boundaries : List Number)
    (events : List TimedEvent) :
    let collector := events.foldl (DurationCollector.record arithmetic) (.new boundaries)
    let durations := events.filterMap (TimedEvent.requestDuration arithmetic)
    let streamDurations := events.filterMap (TimedEvent.streamDuration arithmetic)
    collector.requestHistogram.Valid durations ∧ collector.streamHistogram.Valid streamDurations ↔
      Proper boundaries ∧ Covered boundaries (durations ++ streamDurations) := by
  intro collector durations streamDurations
  obtain ⟨hboundaries, hbuckets, hcount, hstreamBuckets, hstreamCount⟩ :=
    recorded_spec arithmetic (.new boundaries) events
  have hrequest : collector.requestHistogram.Valid durations ↔
      Proper boundaries ∧ Covered boundaries durations := by
    rw [DurationCollector.requestHistogram, hboundaries, hbuckets, hcount,
      ← valid_iff collector.durationSum]
    simp [DurationCollector.new, durations]
  have hstream : collector.streamHistogram.Valid streamDurations ↔
      Proper boundaries ∧ Covered boundaries streamDurations := by
    rw [DurationCollector.streamHistogram, hboundaries, hstreamBuckets, hstreamCount,
      ← valid_iff collector.streamDurationSum]
    simp [DurationCollector.new, streamDurations]
  have hboth : Covered boundaries (durations ++ streamDurations) ↔
      Covered boundaries durations ∧ Covered boundaries streamDurations := List.forall_mem_append
  rw [hrequest, hstream, hboth]
  exact and_and_and_comm.symm.trans (by rw [and_self])

/-- Arithmetic without rounding. -/
def exactArithmetic : NumberArithmetic where
  toSeconds
    | .finite value => .finite (value / 1000)
    | number => number
  add
    | .finite first, .finite second => .finite (first + second)
    | number, _ => number

/-- Without an infinite boundary, a response of two seconds is in no bucket of (0.1, 1.0), and
there is no bucket of +Inf. -/
theorem export_unbounded :
    ¬ ∀ (arithmetic : NumberArithmetic) (boundaries : List Number) (events : List TimedEvent),
      let collector := events.foldl (DurationCollector.record arithmetic) (.new boundaries)
      collector.requestHistogram.Valid
          (events.filterMap (TimedEvent.requestDuration arithmetic)) ∧
        collector.streamHistogram.Valid
          (events.filterMap (TimedEvent.streamDuration arithmetic)) := by
  intro hclaim
  have hvalid := (hclaim exactArithmetic [.finite (1 / 10), .finite 1]
    [{ event := .responseCompleted 0 200 5 [] false, durationMs := .finite 2000 }]).1
  have hmem := List.mem_map_of_mem (f := Prod.fst) hvalid.inf
  rw [DurationCollector.requestHistogram, map_fst_buckets] at hmem
  exact absurd hmem (by decide)

end Pounce.Metrics
