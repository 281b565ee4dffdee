/-
# The heads of a response

The asynchronous worker and a handoff add fields of their own to the head of a response: both a
request identifier, the worker dictionaries and a timing header as well. Under the names of
the application's fields a client finds the same whichever of the two has sent the head; how
long the body is it finds by what has been encoded.
-/

import Pounce.AsyncPool.Verdict

namespace Pounce.AsyncPool

open Pounce.Math Pounce.Math.Bytes Pounce.Math.Message Pounce.Asgi

/-! ## The application's fields -/

namespace Stream

variable {stream : Stream}

/-- A field of the server is not one of the application's. -/
theorem keeps_eq_false (header : Header) (hserver : lower header.1 ∈ stream.serverNames) :
    stream.keeps header = false := by
  simp [keeps, isApp, hserver]

/-- Fields of the server are not among the application's. -/
theorem filter_keeps_eq_nil {headers : List Header}
    (hserver : ∀ header ∈ headers, lower header.1 ∈ stream.serverNames) :
    headers.filter stream.keeps = [] := by
  rw [List.filter_eq_nil_iff]
  intro header hmem
  rw [keeps_eq_false header (hserver header hmem)]
  exact Bool.false_ne_true

/-- An optional field of the server is not among them. -/
theorem filter_keeps_optional {name : Bytes} {value : Option Bytes}
    (hserver : value.isSome → lower name ∈ stream.serverNames) :
    (optionalHeader name value).filter stream.keeps = [] := by
  apply filter_keeps_eq_nil
  intro header hmem
  cases value with
  | none => cases hmem
  | some value =>
      rw [List.mem_singleton.mp hmem]
      exact hserver rfl

/-- The names about framing and connection are the server's. -/
theorem coding_mem : ascii "transfer-encoding" ∈ stream.serverNames := by
  rw [serverNames]
  simp only [List.append_assoc]
  exact List.mem_append_left _ (List.mem_cons_self ..)

theorem connection_mem : ascii "connection" ∈ stream.serverNames := by
  rw [serverNames]
  simp only [List.append_assoc]
  exact List.mem_append_left _ (List.mem_cons_of_mem _ (List.mem_cons_self ..))

variable (stream) in
/-- Chunked coding is not the application's. -/
theorem keeps_chunked : stream.keeps (ascii "transfer-encoding", ascii "chunked") = false :=
  keeps_eq_false _ coding_mem

variable (stream) in
/-- The application's fields are about neither framing nor connection. -/
theorem blind_keeps : Blind stream.keeps := by
  have hserver : ∀ name ∈ stream.serverNames, ∀ header, stream.keeps header →
      lower header.1 ≠ name := by
    intro name hname header hkeeps hlower
    rw [keeps_eq_false header (hlower ▸ hname)] at hkeeps
    exact Bool.false_ne_true hkeeps
  refine ⟨?_, hserver _ coding_mem, hserver _ connection_mem⟩
  intro header hkeeps
  simp only [keeps, Bool.and_eq_true, decide_eq_true_eq] at hkeeps
  exact hkeeps.2

variable (stream) in
/-- The fields of a start that are the application's. -/
def ownFields (headers : List Header) : List Header :=
  (requestHeaders stream.workerEnv headers).filter stream.keeps

end Stream

/-- What a server of the stream sends with is what has been found for the stream, or less. -/
structure Serves (stream : Stream) (env : SendEnv) : Prop where
  method_eq : env.requestMethod = stream.request.method
  minSize_eq : env.compressionMinSize = stream.compressionMinSize
  requestId_eq : env.requestId = stream.requestId
  altSvc : env.altSvc.isSome → stream.altSvc.isSome ∨ stream.handoffAltSvc.isSome
  serverTiming : env.serverTiming.isSome → stream.serverTiming.isSome
  dictionaries : env.dictionaries ≠ [] → stream.dictionaries ≠ []
  negotiated : ∀ compressor, env.compressor = some compressor →
    stream.workerEnv.compressor = some compressor ∨ stream.handoffEnv.compressor = some compressor

theorem serves_worker (stream : Stream) : Serves stream stream.workerEnv :=
  ⟨rfl, rfl, rfl, .inl, id, id, fun _ => .inl⟩

theorem serves_handoff (stream : Stream) : Serves stream stream.handoffEnv :=
  ⟨rfl, rfl, rfl, .inr, Bool.noConfusion, fun hne => absurd rfl hne, fun _ => .inr⟩

/-! ## Heads -/

/-- The names that decide about framing and encoding. -/
def decidingNames : List Bytes :=
  [ascii "content-length", ascii "transfer-encoding", ascii "content-type",
    ascii "content-encoding"]

/-- The encoder a head is committed with: none for event streams and encoded responses. -/
def encoderLeft (headers : List Header) (encoder : Option Compressor) : Option Compressor :=
  if h1.isSse (sanitizeHeaders headers) ∨ (sanitizeHeaders headers).any isContentEncoding then none
  else encoder

section

variable {stream : Stream} {env : SendEnv} {encoder : Option Compressor} {headers : List Header}

/-- The names the servers use are in their list. -/
theorem Serves.encoding_mem (hserves : Serves stream env) (hsome : env.compressor.isSome) :
    ascii "content-encoding" ∈ stream.serverNames ∧
      ascii "used-dictionary" ∈ stream.serverNames := by
  obtain ⟨compressor, hcompressor⟩ := Option.isSome_iff_exists.mp hsome
  have heither : stream.workerEnv.compressor.isSome ∨ stream.handoffEnv.compressor.isSome := by
    rcases hserves.negotiated compressor hcompressor with hworker | hhandoff
    · exact .inl (by rw [hworker]; rfl)
    · exact .inr (by rw [hhandoff]; rfl)
  rw [Stream.serverNames, if_pos heither]
  constructor <;> simp

theorem Serves.timing_mem (hserves : Serves stream env) (hsome : env.serverTiming.isSome) :
    lower (ascii "server-timing") ∈ stream.serverNames := by
  rw [Stream.serverNames, if_pos (hserves.serverTiming hsome)]
  apply List.mem_append_left
  apply List.mem_append_right
  decide

theorem Serves.altSvc_mem (hserves : Serves stream env) (hsome : env.altSvc.isSome) :
    lower (ascii "alt-svc") ∈ stream.serverNames := by
  rw [Stream.serverNames, if_pos (hserves.altSvc hsome)]
  apply List.mem_append_right
  decide

theorem Serves.dictionaries_mem (hserves : Serves stream env) :
    ∀ header ∈ useAsDictionaryHeaders env.dictionaries env.requestTarget,
      lower header.1 ∈ stream.serverNames := by
  intro header hmem
  obtain ⟨dictionary, hdictionary, hin⟩ := List.mem_flatMap.mp hmem
  have hsome : stream.dictionaries ≠ [] := hserves.dictionaries (List.ne_nil_of_mem hdictionary)
  have hnames : ∀ name ∈ [ascii "use-as-dictionary", ascii "link"],
      name ∈ stream.serverNames := by
    intro name hname
    rw [Stream.serverNames, if_neg hsome]
    apply List.mem_append_left
    apply List.mem_append_left
    exact List.mem_append_right _ hname
  split at hin
  · simp only [List.mem_cons, List.not_mem_nil, or_false] at hin
    rcases hin with rfl | rfl
    · exact hnames _ (List.mem_cons_self ..)
    · exact hnames _ (List.mem_cons_of_mem _ (List.mem_cons_self ..))
  · cases hin

/-- A start has the application's fields, whoever sends it. -/
theorem Serves.filter_start (hserves : Serves stream env) (headers : List Header) :
    (h1.startHeaders env headers).filter stream.keeps = stream.ownFields headers := by
  have hrequest : requestHeaders env headers = requestHeaders stream.workerEnv headers := by
    rw [requestHeaders, requestHeaders, hserves.requestId_eq]
    rfl
  show (requestHeaders env headers ++ optionalHeader (ascii "alt-svc") env.altSvc ++
    useAsDictionaryHeaders env.dictionaries env.requestTarget).filter stream.keeps = _
  rw [List.filter_append, List.filter_append, Stream.filter_keeps_optional hserves.altSvc_mem,
    Stream.filter_keeps_eq_nil hserves.dictionaries_mem, List.append_nil, List.append_nil, hrequest]
  rfl

/-- What decides about framing and encoding is the application's. -/
theorem fields_start {name : Bytes} (hname : name ∈ decidingNames) :
    fields name (h1.startHeaders env headers) = fields name (sanitizeHeaders headers) := by
  have hother : lower (ascii "x-request-id") ≠ name ∧ lower (ascii "alt-svc") ≠ name ∧
      lower (ascii "use-as-dictionary") ≠ name ∧ lower (ascii "link") ≠ name := by
    revert name
    decide
  obtain ⟨hid, halt, huse, hlink⟩ := hother
  show fields name (requestHeaders env headers ++ optionalHeader (ascii "alt-svc") env.altSvc ++
    useAsDictionaryHeaders env.dictionaries env.requestTarget) = _
  rw [fields_append, fields_append, fields_requestHeaders env headers hid,
    fields_optionalHeader _ halt, fields_useAsDictionaryHeaders _ _ huse hlink, List.append_nil,
    List.append_nil]

theorem valuesOf_start {name : Bytes} (hname : name ∈ decidingNames) :
    valuesOf name (h1.startHeaders env headers) = valuesOf name (sanitizeHeaders headers) :=
  congrArg (List.map fun header : Header => header.2) (fields_start hname)

/-- Whether an encoder stays on depends on the application's fields. -/
theorem skips_start :
    (h1.isSse (h1.startHeaders env headers) ∨
        (h1.startHeaders env headers).any isContentEncoding) ↔
      (h1.isSse (sanitizeHeaders headers) ∨ (sanitizeHeaders headers).any isContentEncoding) := by
  rw [Bridge.isSse_eq, Bridge.isSse_eq, any_isContentEncoding, any_isContentEncoding,
    fields_start (by decide), fields_start (by decide)]

/-- The content codings of a response: the encoder's, or else those of the application. -/
def encodingsWith (headers : List Header) : Option Compressor → List Bytes
  | none => valuesOf (ascii "content-encoding") (sanitizeHeaders headers)
  | some compressor => [compressor.encoding]

/-- What is known of a head: the application's fields, and those that decide about framing
and encoding. -/
structure Built (stream : Stream) (headers : List Header) (encoder : Option Compressor)
    (head : List Header) : Prop where
  kept : head.filter stream.keeps = stream.ownFields headers
  lengths : valuesOf (ascii "content-length") head =
    if encoder.isSome then [] else valuesOf (ascii "content-length") (sanitizeHeaders headers)
  chunked : encoder.isSome ∨ valuesOf (ascii "transfer-encoding") (sanitizeHeaders headers) ≠ [] →
    valuesOf (ascii "transfer-encoding") head ≠ []
  framed : encoder = none → valuesOf (ascii "content-length") (sanitizeHeaders headers) ≠ [] →
    valuesOf (ascii "transfer-encoding") (sanitizeHeaders headers) = [] →
    valuesOf (ascii "transfer-encoding") head = []
  encodings : valuesOf (ascii "content-encoding") head = encodingsWith headers encoder

/-- Chunked coding is injected where there is no framing of the given names. -/
theorem codings_injectChunked (headers : List Header) (framing : List Bytes) :
    valuesOf (ascii "transfer-encoding") (injectChunked headers framing) =
      valuesOf (ascii "transfer-encoding") headers ++
        if headers.any (fun header => lower header.1 ∈ framing) then [] else [ascii "chunked"] := by
  rw [injectChunked]
  split
  · exact (List.append_nil _).symm
  · rw [valuesOf_append]
    rfl

/-- A field of a name is one of the fields a test for the name finds. -/
theorem any_of_valuesOf {name : Bytes} {headers : List Header} {names : List Bytes}
    (hname : name ∈ names) (hsome : valuesOf name headers ≠ []) :
    headers.any (fun header => lower header.1 ∈ names) = true := by
  obtain ⟨value, hvalue⟩ := List.exists_mem_of_ne_nil _ hsome
  obtain ⟨header, hmem, -⟩ := List.mem_map.mp hvalue
  obtain ⟨hin, hlower⟩ := List.mem_filter.mp hmem
  rw [decide_eq_true_eq] at hlower
  exact List.any_eq_true.mpr ⟨header, hin, decide_eq_true (hlower ▸ hname)⟩

/-- The timing header at the end of a head decides about nothing. -/
theorem Built.timing {head : List Header} (hserves : Serves stream env)
    (hbuilt : Built stream headers encoder head) :
    Built stream headers encoder
      (head ++ optionalHeader (ascii "server-timing") env.serverTiming) := by
  have hnone : ∀ name ∈ decidingNames,
      valuesOf name (head ++ optionalHeader (ascii "server-timing") env.serverTiming) =
        valuesOf name head := by
    intro name hname
    have hother : lower (ascii "server-timing") ≠ name := by
      revert name
      decide
    have hfields := fields_optionalHeader env.serverTiming hother
    rw [valuesOf_append]
    exact (congrArg (_ ++ ·) (congrArg (List.map fun header : Header => header.2) hfields)).trans
      (List.append_nil _)
  constructor
  · rw [List.filter_append, hbuilt.kept, Stream.filter_keeps_optional hserves.timing_mem,
      List.append_nil]
  · rw [hnone _ (by decide), hbuilt.lengths]
  · rw [hnone _ (by decide)]
    exact hbuilt.chunked
  · rw [hnone _ (by decide)]
    exact hbuilt.framed
  · rw [hnone _ (by decide)]
    exact hbuilt.encodings

/-- The head of a response that is sent as it is. -/
theorem built_plain (hserves : Serves stream env) (headers : List Header) (framing : List Bytes)
    (hlength : ascii "content-length" ∈ framing) :
    Built stream headers none (injectChunked (h1.startHeaders env headers) framing) ∧
      Built stream headers none (h1.startHeaders env headers) := by
  have hlengths : valuesOf (ascii "content-length") (h1.startHeaders env headers) =
      valuesOf (ascii "content-length") (sanitizeHeaders headers) := valuesOf_start (by decide)
  have hcodings : valuesOf (ascii "transfer-encoding") (h1.startHeaders env headers) =
      valuesOf (ascii "transfer-encoding") (sanitizeHeaders headers) := valuesOf_start (by decide)
  have hencodings : valuesOf (ascii "content-encoding") (h1.startHeaders env headers) =
      valuesOf (ascii "content-encoding") (sanitizeHeaders headers) := valuesOf_start (by decide)
  constructor
  · constructor
    · rw [← hserves.filter_start headers, injectChunked]
      split
      · rfl
      · rw [List.filter_append]
        simp [stream.keeps_chunked]
    · rw [← hlengths, injectChunked]
      split
      · rfl
      · simp only [valuesOf_append]
        exact List.append_nil _
    · rintro (hnone | hsome)
      · cases hnone
      · rw [codings_injectChunked, hcodings]
        exact List.append_ne_nil_of_left_ne_nil hsome _
    · intro _ hsome hnone
      rw [codings_injectChunked, hcodings, hnone, List.nil_append,
        if_pos (any_of_valuesOf hlength (hlengths ▸ hsome))]
    · refine Eq.trans ?_ hencodings
      rw [injectChunked]
      split
      · rfl
      · simp only [valuesOf_append]
        exact List.append_nil _
  · refine ⟨hserves.filter_start headers, hlengths, ?_, fun _ _ hnone => hcodings.trans hnone,
      hencodings⟩
    rintro (hnone | hsome)
    · cases hnone
    · rwa [hcodings]

/-- What is injected behind a framing of its own announces a coding. -/
theorem codings_injectChunked_ne_nil (headers : List Header) :
    valuesOf (ascii "transfer-encoding")
      (injectChunked headers [ascii "transfer-encoding"]) ≠ [] := by
  rw [codings_injectChunked]
  by_cases hsome : valuesOf (ascii "transfer-encoding") headers = []
  · have hany : headers.any (fun header => lower header.1 ∈ [ascii "transfer-encoding"]) = false := by
      rw [valuesOf, List.map_eq_nil_iff, List.filter_eq_nil_iff] at hsome
      rw [List.any_eq_false]
      intro header hmem
      simpa using hsome header hmem
    rw [hany, if_neg Bool.false_ne_true]
    exact List.append_ne_nil_of_right_ne_nil _ (List.cons_ne_nil _ _)
  · exact List.append_ne_nil_of_left_ne_nil hsome _

/-- The head of an encoded response: the encoder's fields in place of the length. -/
theorem built_encoded (hserves : Serves stream env) (hsome : env.compressor.isSome)
    (compressor : Compressor) (hash : Option Bytes)
    (hplain : valuesOf (ascii "content-encoding") (sanitizeHeaders headers) = []) :
    Built stream headers (some compressor)
      (injectChunked (without (ascii "content-length") (h1.startHeaders env headers) ++
        ([(ascii "content-encoding", compressor.encoding)] ++
          optionalHeader (ascii "used-dictionary") hash)) [ascii "transfer-encoding"]) := by
  obtain ⟨hencoding, hdictionary⟩ := hserves.encoding_mem hsome
  have hfields : ([(ascii "content-encoding", compressor.encoding)] ++
      optionalHeader (ascii "used-dictionary") hash).filter stream.keeps = [] := by
    apply Stream.filter_keeps_eq_nil
    intro header hmem
    rcases List.mem_append.mp hmem with hfirst | hsecond
    · rw [List.mem_singleton.mp hfirst]
      exact hencoding
    · cases hash with
      | none => cases hsecond
      | some hash =>
          rw [List.mem_singleton.mp hsecond]
          exact hdictionary
  have hvalues : ∀ name, lower (ascii "used-dictionary") ≠ name → valuesOf name
      ([(ascii "content-encoding", compressor.encoding)] ++
        optionalHeader (ascii "used-dictionary") hash) =
      valuesOf name [(ascii "content-encoding", compressor.encoding)] := by
    intro name hne
    have hnone := fields_optionalHeader hash hne
    rw [valuesOf_append]
    exact (congrArg (_ ++ ·) (congrArg (List.map fun header : Header => header.2) hnone)).trans
      (List.append_nil _)
  have hlength : valuesOf (ascii "content-length")
      [(ascii "content-encoding", compressor.encoding)] = [] := by
    have hother : lower (ascii "content-encoding") ≠ ascii "content-length" := by decide
    simp [valuesOf, hother]
  constructor
  · have hkept : (without (ascii "content-length") (h1.startHeaders env headers) ++
        ([(ascii "content-encoding", compressor.encoding)] ++
          optionalHeader (ascii "used-dictionary") hash)).filter stream.keeps =
          stream.ownFields headers := by
      rw [List.filter_append, hfields, List.append_nil, filter_without stream.blind_keeps.length,
        hserves.filter_start]
    rw [injectChunked]
    split
    · exact hkept
    · rw [List.filter_append, hkept]
      simp [stream.keeps_chunked]
  · rw [injectChunked]
    split
    · rw [valuesOf_append, valuesOf_without_self, hvalues _ (by decide), hlength]
      rfl
    · rw [valuesOf_append, valuesOf_append, valuesOf_without_self, hvalues _ (by decide), hlength]
      rfl
  · exact fun _ => codings_injectChunked_ne_nil _
  · intro hnone
    cases hnone
  · have hstart : valuesOf (ascii "content-encoding")
        (without (ascii "content-length") (h1.startHeaders env headers)) = [] := by
      rw [valuesOf_without (by decide), valuesOf_start (by decide), hplain]
    rw [injectChunked]
    split
    · rw [valuesOf_append, hstart, hvalues _ (by decide)]
      rfl
    · rw [valuesOf_append, valuesOf_append, hstart, hvalues _ (by decide)]
      rfl

/-- A head is committed with the encoder that is left, and is built for it. -/
theorem buildHead_built (hserves : Serves stream env)
    (hencoder : encoder.isSome → env.compressor.isSome) :
    (h1.buildHead env encoder (h1.startHeaders env headers)).1 = encoderLeft headers encoder ∧
      Built stream headers (encoderLeft headers encoder)
        (h1.buildHead env encoder (h1.startHeaders env headers)).2 := by
  have hplain := built_plain hserves headers [ascii "content-length", ascii "transfer-encoding"]
    (by decide)
  cases encoder with
  | none =>
      have hleft : encoderLeft headers none = none := by
        rw [encoderLeft]
        split <;> rfl
      rw [hleft]
      exact ⟨rfl, hplain.1.timing hserves⟩
  | some compressor =>
      by_cases hskips : h1.isSse (h1.startHeaders env headers) ∨
          (h1.startHeaders env headers).any isContentEncoding
      · have hleft : encoderLeft headers (some compressor) = none := if_pos (skips_start.mp hskips)
        have hencode : encodeHead (fun value => contains (ascii "text/event-stream") value) env
            compressor (h1.startHeaders env headers) = (none, h1.startHeaders env headers) :=
          encodeHead_off env compressor hskips
        have hbuilt : h1.buildHead env (some compressor) (h1.startHeaders env headers) =
            (none, h1.startHeaders env headers ++
              optionalHeader (ascii "server-timing") env.serverTiming) := by
          show h1BuildHead env (some compressor) (h1.startHeaders env headers) = _
          simp only [h1BuildHead, hencode, Option.isSome_none, Bool.false_eq_true, if_false]
        rw [hleft, hbuilt]
        exact ⟨rfl, hplain.2.timing hserves⟩
      · have hskips' := mt skips_start.mpr hskips
        have hleft : encoderLeft headers (some compressor) = some compressor := if_neg hskips'
        have hencode : encodeHead (fun value => contains (ascii "text/event-stream") value) env
            compressor (h1.startHeaders env headers) =
            (some compressor, without (ascii "content-length") (h1.startHeaders env headers) ++
              ([(ascii "content-encoding", compressor.encoding)] ++
                optionalHeader (ascii "used-dictionary") env.dictionaryHash)) := by
          rw [encodeHead]
          apply (if_neg hskips).trans
          rw [List.append_assoc]
          rfl
        have hbuilt : h1.buildHead env (some compressor) (h1.startHeaders env headers) =
            (some compressor, injectChunked
              (without (ascii "content-length") (h1.startHeaders env headers) ++
                ([(ascii "content-encoding", compressor.encoding)] ++
                  optionalHeader (ascii "used-dictionary") env.dictionaryHash))
              [ascii "transfer-encoding"] ++
              optionalHeader (ascii "server-timing") env.serverTiming) := by
          show h1BuildHead env (some compressor) (h1.startHeaders env headers) = _
          simp only [h1BuildHead, hencode, Option.isSome_some, if_true]
        have hnone : valuesOf (ascii "content-encoding") (sanitizeHeaders headers) = [] := by
          rw [not_or, any_isContentEncoding] at hskips'
          have hfields : fields (ascii "content-encoding") (sanitizeHeaders headers) = [] := by
            simpa using hskips'.2
          exact congrArg (List.map fun header : Header => header.2) hfields
        rw [hleft, hbuilt]
        exact ⟨rfl, (built_encoded hserves (hencoder rfl) compressor _ hnone).timing hserves⟩

end

end Pounce.AsyncPool
