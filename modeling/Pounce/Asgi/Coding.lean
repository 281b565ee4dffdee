/-
# One content coding on all paths

A response may be coded by four pieces of code: the header pass of the synchronous worker and
the heads of the three bridges. What they ask is spread over the negotiation, the status, the
method, the type and the size. `Outcome` is what a path does with a response sent in one
piece: whether the encoder stays on and which Content-Encoding the head names.

The bridges ask the same questions, except that the one for HTTP/1.1 looks for event streams
in the letters as they are and that HTTP/3 negotiates for the decoded path. The synchronous
worker only asks whether the application has encoded the body, and it negotiates with the last
Accept-Encoding where the others take the first. `same_coding_iff` says for which requests and
responses this makes no difference.
-/

import Pounce.Asgi.Forwarded
import Pounce.Asgi.Ranges
import Pounce.RequestPipeline

namespace Pounce.Asgi

open Pounce.Math Pounce.Math.Bytes
open Pounce.SyncWorker (callAsgiSync classifyRequest compressionOffered finalizeHeader
  finalizeResponseHeaders)

/-! ## Negotiation on a path -/

/-- A response sent in one piece. -/
structure SingleShot where
  status : ℕ
  headers : List Header
  body : Bytes
  deriving DecidableEq, Repr

/-- The messages of the response. -/
def SingleShot.messages (response : SingleShot) : List SendMessage :=
  [.responseStart response.status response.headers, .responseBody response.body false]

/-- The headers of the response as every path passes them on. -/
def SingleShot.sent (response : SingleShot) : List Header := sanitizeHeaders response.headers

variable (encoders : Encoders) (config : ServerConfig)

/-- What is negotiated for a request. The parser of the synchronous worker lowers the names
before the worker's pass. HTTP/3 names the decoded path where the others name the target, and
looks into the headers of the scope. -/
def Path.negotiated (request : RequestReceived) :
    Path → Option Compressor × Option CompressionDictionary
  | .sync =>
      let found := classifyRequest { request with headers := lowered request.headers }
      negotiateCompressorFromMeta encoders config found.acceptEncoding found.availableDictionary
        request.target
  | .h1 | .h2 => negotiateCompressor encoders config request.headers request.target
  | .h3 =>
      negotiateCompressor encoders config request.headers
        (decodePath (splitTarget request.target).1)

/-- The Content-Encoding an encoder negotiated on the path would give. -/
def Path.token (request : RequestReceived) (path : Path) : Option Bytes :=
  (path.negotiated encoders config request).1.map (·.encoding)

section Scope

variable {encoders config} {client server : String × ℕ} {name : Bytes}

end Scope

/-! ## Outcomes -/

/-- What becomes of a response: it is encoded on the way, and the encodings its head names. -/
structure Outcome where
  coded : Bool
  encodings : List Bytes
  deriving DecidableEq, Repr

/-- A response with these headers, under an encoder if there is one. -/
def Outcome.under (compressor : Option Compressor) (headers : List Header) : Outcome :=
  match compressor with
  | some compressor => { coded := true, encodings := [compressor.encoding] }
  | none => { coded := false, encodings := fieldValues (ascii "content-encoding") headers }

/-- What a bridge does with a response. `none` is an error raised into the application. -/
def Bridge.outcome (bridge : Bridge) (env : SendEnv) (response : SingleShot) : Option Outcome := do
  let state ← bridge.run env response.messages
  let head ← (headsOf state.wire).head?
  some {
    coded := state.compressor.isSome
    encodings := fieldValues (ascii "content-encoding") head.2 }

/-- What the inline path does with a response. `none` is a response it hands over. -/
def syncOutcome (method : Bytes)
    (negotiated : Option Compressor × Option CompressionDictionary) (response : SingleShot) :
    Option Outcome :=
  let collected := callAsgiSync method response.messages
  if collected.needsAsync then none
  else
    let offered := compressionOffered config collected.body negotiated.1 false
    some {
      coded := (collected.headers.foldl finalizeHeader { shouldCompress := offered }).shouldCompress
      encodings := fieldValues (ascii "content-encoding")
        (finalizeResponseHeaders config collected.headers collected.body negotiated.1
          negotiated.2 false).1 }

/-- What a bridge is created with; `extras` is what does not come from the negotiation. -/
def Path.sendEnv (extras : SendEnv) (request : RequestReceived) (path : Path) : SendEnv :=
  { extras with
    requestMethod := request.method
    compressor := (path.negotiated encoders config request).1
    dictionaryHash := (path.negotiated encoders config request).2.map (·.sfHash)
    compressionMinSize := config.compressionMinSize }

/-- What a path does with a response. -/
def Path.outcome (extras : Path → SendEnv) (request : RequestReceived) (response : SingleShot)
    (path : Path) : Option Outcome :=
  let env := path.sendEnv encoders config (extras path) request
  match path with
  | .sync =>
      syncOutcome config request.method (path.negotiated encoders config request) response
  | .h1 => Asgi.h1.outcome env response
  | .h2 => Asgi.h2.outcome env response
  | .h3 => Asgi.h3.outcome env response

/-- All paths that answer do the same. -/
def SameCoding (extras : Path → SendEnv) (request : RequestReceived) (response : SingleShot) :
    Prop :=
  ∃ outcome, ∀ path : Path, ∀ found,
    path.outcome encoders config extras request response = some found → found = outcome

/-! ## The bridges -/

/-- The bridges do not encode the response whatever its type is: status and method rule it
out, or the length it declares. -/
def RuledOut (minSize : ℕ) (method : Bytes) (response : SingleShot) : Prop :=
  bodylessStatus response.status ∨ method = ascii "HEAD" ∨
    (minSize ≠ 0 ∧
      (getHeader response.sent (ascii "content-length")).any (declaredBelow minSize))

instance (minSize : ℕ) (method : Bytes) (response : SingleShot) :
    Decidable (RuledOut minSize method response) :=
  inferInstanceAs (Decidable (_ ∨ _ ∨ _))

namespace Bridge

variable {bridge : Bridge} {env : SendEnv}

/-- The encoder a single-shot response that is large enough is built with. -/
def offered (env : SendEnv) (response : SingleShot) : Option Compressor :=
  if RuledOut env.compressionMinSize env.requestMethod response then none else env.compressor

/-- A response that is large enough is sent under one head, built with the encoder on offer:
where the head is deferred, the size of the body does not rule the encoder out. -/
theorem run_single (hlawful : LawfulBridge bridge) {response : SingleShot}
    (hstatus : response.status ≠ 103)
    (hsize : env.compressionMinSize ≤ response.body.length) :
    let built := bridge.buildHead env (offered env response)
      (bridge.startHeaders env response.headers)
    ∃ state, bridge.run env response.messages = some state ∧ state.compressor = built.1 ∧
      headsOf state.wire = [(response.status, built.2)] := by
  intro built
  let settled := bridge.commitHead env
    { responseStarted := true, compressor := offered env response } response.status
    (bridge.startHeaders env response.headers)
  have hsettled : Settled settled := ⟨rfl, rfl, rfl⟩
  have hrun : bridge.run env response.messages =
      bridge.sendBody env settled response.body false := by
    have hlength : getHeader (bridge.startHeaders env response.headers) (ascii "content-length") =
        getHeader response.sent (ascii "content-length") := by
      rw [getHeader_eq (by decide), getHeader_eq (by decide),
        hlawful.start_fields _ _ _ (by decide)]
      rfl
    simp only [run, SingleShot.messages, List.foldlM_cons, List.foldlM_nil, send, start,
      if_neg hstatus, hlength, Option.bind_eq_bind, Option.bind_some, Option.pure_def,
      Option.bind_fun_some]
    by_cases hoff : bodylessStatus response.status ∨ env.requestMethod = ascii "HEAD"
    · have hnone : offered env response = none := if_pos (by tauto)
      simp [settled, hnone, hoff]
    · simp only [if_neg hoff]
      split
      case isFalse hplain =>
        -- no encoder, or no threshold
        have hsame : offered env response = env.compressor := by
          cases hencoder : env.compressor with
          | none => simp [offered, hencoder]
          | some encoder =>
              have hzero : env.compressionMinSize = 0 := by
                by_contra hpos
                exact hplain ⟨by simp [hencoder], Nat.pos_of_ne_zero hpos⟩
              have hopen : ¬ RuledOut env.compressionMinSize env.requestMethod response := by
                simp only [RuledOut]
                tauto
              rw [offered, if_neg hopen, hencoder]
        simp only [settled, hsame]
      case isTrue hthreshold =>
        have hpos : env.compressionMinSize ≠ 0 := Nat.pos_iff_ne_zero.mp hthreshold.2
        cases hdeclared : getHeader response.sent (ascii "content-length") with
        | some declared =>
            have hsame : offered env response =
                if declaredBelow env.compressionMinSize declared then none
                else env.compressor := by
              simp only [offered, RuledOut, hdeclared, Option.any_some]
              congr 1
              simp only [eq_iff_iff]
              tauto
            simp only [settled, hsame]
        | none =>
            have hsame : offered env response = env.compressor := by
              have hopen : ¬ RuledOut env.compressionMinSize env.requestMethod response := by
                simp only [RuledOut, hdeclared, Option.any_none]
                tauto
              exact if_neg hopen
            have hbig : shouldCompressBody (some response.body.length) env.compressionMinSize =
                true := decide_eq_true hsize
            rw [sendBody_deferred rfl fun hhead => hoff (Or.inr hhead)]
            simp only [settled, hsame, Bool.false_eq_true, if_false, hbig, if_true]
  obtain ⟨state, hsend, hcompressor, hheads, -⟩ :=
    sendBody_settled bridge env hsettled response.body false
  refine ⟨state, hrun.trans hsend, hcompressor, hheads⟩

/-- An encoder that is not ruled out by the headers stays on. -/
def KeepsEncoder (bridge : Bridge) : Prop :=
  ∀ env compressor headers, ¬ (bridge.isSse headers ∨ headers.any isContentEncoding) →
    (bridge.buildHead env (some compressor) headers).1 = some compressor

theorem keepsEncoder_h1 : KeepsEncoder h1 :=
  fun env compressor _ hon => (encodeHead_on h1.isEventStream env compressor hon).1

theorem keepsEncoder_h2 : KeepsEncoder h2 :=
  fun env compressor _ hon => (encodeHead_on h2.isEventStream env compressor hon).1

theorem keepsEncoder_h3 : KeepsEncoder h3 :=
  fun env compressor _ hon => (encodeHead_on h3.isEventStream env compressor hon).1

/-- The encoder a bridge leaves on. -/
def kept (bridge : Bridge) (env : SendEnv) (response : SingleShot) : Option Compressor :=
  if bridge.isSse response.sent ∨ response.sent.any isContentEncoding then none
  else offered env response

/-- What a bridge does with a response is decided by the encoder it leaves on. -/
theorem outcome_eq (hlawful : LawfulBridge bridge) (hkeeps : KeepsEncoder bridge)
    {response : SingleShot} (hstatus : response.status ≠ 103)
    (hsize : env.compressionMinSize ≤ response.body.length) :
    bridge.outcome env response =
      some (Outcome.under (bridge.kept env response) response.sent) := by
  obtain ⟨state, hrun, hcompressor, hheads⟩ := run_single hlawful hstatus hsize
  obtain ⟨hsse, hencoded⟩ := startHeaders_flags env hlawful response.headers
  change _ = bridge.isSse response.sent at hsse
  change _ = response.sent.any isContentEncoding at hencoded
  have hsame : fieldValues (ascii "content-encoding") (bridge.startHeaders env response.headers) =
      fieldValues (ascii "content-encoding") response.sent := by
    rw [fieldValues, fieldValues, hlawful.start_fields _ _ _ (by decide)]
    rfl
  simp only [outcome, hrun, hheads, hcompressor, Option.bind_eq_bind, Option.bind_some,
    List.head?_cons, Option.some.injEq]
  rw [kept]
  cases hoffered : offered env response with
  | none =>
      obtain ⟨hnone, hvalues⟩ :=
        hlawful.buildHead_none env (bridge.startHeaders env response.headers)
      rw [hnone, hvalues, hsame, ite_self]
      rfl
  | some compressor =>
      by_cases hruled : bridge.isSse response.sent ∨ response.sent.any isContentEncoding
      · obtain ⟨hnone, hvalues⟩ := hlawful.buildHead_off env compressor
          (bridge.startHeaders env response.headers) (by rwa [hsse, hencoded])
        rw [hnone, hvalues, hsame, if_pos hruled]
        rfl
      · have hopen : ¬ (bridge.isSse (bridge.startHeaders env response.headers) ∨
            (bridge.startHeaders env response.headers).any isContentEncoding) := by
          rwa [hsse, hencoded]
        rw [hkeeps env compressor _ hopen, hlawful.buildHead_on env compressor _ hopen,
          if_neg hruled]
        rfl

/-- Early hints are no start of a response, so the body behind them is an error. -/
theorem outcome_hints {response : SingleShot} (hstatus : response.status = 103) :
    bridge.outcome env response = none := by
  simp [outcome, run, SingleShot.messages, send, start, hstatus, sendBody]

end Bridge

/-! ## The inline path -/

/-- The inline path collects a response, unless it is an interim one. -/
theorem callAsgiSync_single (method : Bytes) (response : SingleShot) :
    (callAsgiSync method response.messages).needsAsync =
        (100 ≤ response.status && decide (response.status < 200)) ∧
      ((callAsgiSync method response.messages).needsAsync = false →
        (callAsgiSync method response.messages).headers = response.sent) := by
  by_cases hinterim : 100 ≤ response.status ∧ response.status < 200
  · by_cases hhead : method = ascii "HEAD" <;>
      simp [callAsgiSync, SingleShot.messages, SyncWorker.collectMessage, hinterim, hhead]
  · have hfalse : (100 ≤ response.status && decide (response.status < 200)) = false := by
      simpa using hinterim
    by_cases hhead : method = ascii "HEAD" <;>
      simp [callAsgiSync, SingleShot.messages, SyncWorker.collectMessage, hinterim, hfalse, hhead,
        SingleShot.sent]

/-- What the inline path does is decided by the negotiation and by whether the application has
encoded the body. -/
theorem syncOutcome_eq (method : Bytes)
    (negotiated : Option Compressor × Option CompressionDictionary) (response : SingleShot) :
    syncOutcome config method negotiated response =
      if 100 ≤ response.status ∧ response.status < 200 then none
      else some (Outcome.under
        (if response.sent.any isContentEncoding then none else negotiated.1) response.sent) := by
  obtain ⟨hasync, hheaders⟩ := callAsgiSync_single method response
  rw [syncOutcome]
  generalize callAsgiSync method response.messages = collected at *
  by_cases hinterim : 100 ≤ response.status ∧ response.status < 200
  · simp [hasync, hinterim]
  · have hfinal : collected.needsAsync = false := by
      rw [hasync]
      simpa using hinterim
    obtain ⟨hscan, -⟩ := SyncWorker.finalizeScan
      (compressionOffered config collected.body negotiated.1 false) collected.headers
    simp only [hfinal, Bool.false_eq_true, if_false, if_neg hinterim, hscan, Option.some.injEq]
    by_cases hactive : SyncWorker.compressionActive config collected.headers collected.body
        negotiated.1 false
    · obtain ⟨compressor, hsome, -, -, hencoding, -⟩ :=
        SyncWorker.finalizeResponseHeaders_active negotiated.2 hactive
      rw [hencoding]
      simp only [SyncWorker.compressionActive, Bool.and_eq_true, Bool.not_eq_true'] at hactive
      rw [hactive.1, hactive.2, ← hheaders hfinal, hactive.2, hsome]
      rfl
    · obtain ⟨-, -, hvalues⟩ :=
        SyncWorker.finalizeResponseHeaders_inactive negotiated.2 hactive
      rw [hvalues _ (by decide), hheaders hfinal]
      rw [SyncWorker.compressionActive, hheaders hfinal, Bool.not_eq_true] at hactive
      have hnone : (if response.sent.any isContentEncoding then none else negotiated.1) = none := by
        cases hencoder : negotiated.1 with
        | none => exact ite_self _
        | some compressor =>
            rw [hencoder] at hactive
            simp only [compressionOffered, Option.isSome_some, Bool.false_and, Bool.not_false,
              Bool.and_self, Bool.true_and, Bool.not_eq_false'] at hactive
            exact if_pos hactive
      rw [hactive, hnone]
      rfl

/-! ## Agreement -/

/-- An event stream in the letters as they are is one whatever their case. -/
theorem isSse_h2_of_h1 {headers : List Header} (hsse : h1.isSse headers) : h2.isSse headers := by
  simp only [Bridge.isSse, List.any_eq_true, Bool.and_eq_true] at hsse ⊢
  obtain ⟨header, hmem, hname, hvalue⟩ := hsse
  have hlower : contains (lower (ascii "text/event-stream")) (lower header.2) = true :=
    contains_lower hvalue
  exact ⟨header, hmem, hname, hlower⟩

/-- Encoders of one coding make no difference, and no others do. -/
theorem Outcome.under_inj {headers : List Header} (first second : Option Compressor) :
    Outcome.under first headers = Outcome.under second headers ↔
      first.map (·.encoding) = second.map (·.encoding) := by
  cases first <;> cases second <;> simp [Outcome.under]

/-- The response is coded alike. The application has encoded it, or it is an interim one; or
nothing is negotiated on the synchronous path, and on the others nothing either or it is ruled
out; or the same is negotiated on all paths and nothing rules it out. -/
def CodedAlike (request : RequestReceived) (response : SingleShot) : Prop :=
  (100 ≤ response.status ∧ response.status < 200) ∨ response.sent.any isContentEncoding ∨
    (Path.sync.token encoders config request = none ∧
      (RuledOut config.compressionMinSize request.method response ∨ h1.isSse response.sent ∨
        (Path.h1.token encoders config request = none ∧
          (Path.h3.token encoders config request = none ∨ h2.isSse response.sent)))) ∨
    ∃ token, Path.sync.token encoders config request = some token ∧
      Path.h1.token encoders config request = some token ∧
      Path.h3.token encoders config request = some token ∧
      ¬ RuledOut config.compressionMinSize request.method response ∧ ¬ h2.isSse response.sent

variable {encoders config} {extras : Path → SendEnv} {request : RequestReceived}
  {response : SingleShot}

/-- The path does not encode the response itself. -/
def Path.ruled (minSize : ℕ) (method : Bytes) (response : SingleShot) : Path → Prop
  | .sync => False
  | .h1 => RuledOut minSize method response ∨ Asgi.h1.isSse response.sent
  | .h2 | .h3 => RuledOut minSize method response ∨ Asgi.h2.isSse response.sent

instance (minSize : ℕ) (method : Bytes) (response : SingleShot) (path : Path) :
    Decidable (path.ruled minSize method response) :=
  match path with
  | .sync => inferInstanceAs (Decidable False)
  | .h1 => inferInstanceAs (Decidable (_ ∨ _))
  | .h2 => inferInstanceAs (Decidable (_ ∨ _))
  | .h3 => inferInstanceAs (Decidable (_ ∨ _))

/-- The coding a path gives to a response that is not encoded yet. -/
def Path.given (encoders : Encoders) (config : ServerConfig) (request : RequestReceived)
    (response : SingleShot) (path : Path) : Option Bytes :=
  if path.ruled config.compressionMinSize request.method response then none
  else path.token encoders config request

theorem Path.given_eq_none {path : Path} :
    path.given encoders config request response = none ↔
      path.ruled config.compressionMinSize request.method response ∨
        path.token encoders config request = none := by
  rw [Path.given, ite_eq_left_iff, ← or_iff_not_imp_left]

theorem Path.given_eq_some {path : Path} {token : Bytes} :
    path.given encoders config request response = some token ↔
      ¬ path.ruled config.compressionMinSize request.method response ∧
        path.token encoders config request = some token := by
  rw [Path.given, Option.ite_none_left_eq_some]

/-- What a bridge leaves on is what was negotiated, unless something rules it out. -/
theorem Path.under_kept (bridge : Bridge) (path : Path)
    (hruled : path.ruled config.compressionMinSize request.method response ↔
      RuledOut config.compressionMinSize request.method response ∨ bridge.isSse response.sent) :
    bridge.kept (path.sendEnv encoders config (extras path) request) response =
      if path.ruled config.compressionMinSize request.method response ∨
        response.sent.any isContentEncoding then none
      else (path.negotiated encoders config request).1 := by
  have hoffered : Bridge.offered (path.sendEnv encoders config (extras path) request) response =
      if RuledOut config.compressionMinSize request.method response then none
      else (path.negotiated encoders config request).1 := rfl
  rw [Bridge.kept, hoffered]
  by_cases hopen : path.ruled config.compressionMinSize request.method response ∨
      response.sent.any isContentEncoding
  · rw [if_pos hopen]
    rw [hruled, or_assoc] at hopen
    rcases hopen with hopen | hopen
    · rw [if_pos hopen, ite_self]
    · rw [if_pos hopen]
  · rw [if_neg hopen]
    rw [hruled, or_assoc, not_or] at hopen
    rw [if_neg hopen.2, if_neg hopen.1]

/-- What a path does with a final response. -/
theorem Path.outcome_final (hsize : config.compressionMinSize ≤ response.body.length)
    (hfinal : ¬ (100 ≤ response.status ∧ response.status < 200)) (path : Path) :
    path.outcome encoders config extras request response =
      some (Outcome.under
        (if path.ruled config.compressionMinSize request.method response ∨
          response.sent.any isContentEncoding then none
        else (path.negotiated encoders config request).1) response.sent) := by
  have hstatus : response.status ≠ 103 := by
    intro hhints
    exact hfinal (by omega)
  cases path with
  | sync =>
      simp only [Path.outcome, syncOutcome_eq, if_neg hfinal, Path.ruled, false_or]
  | h1 =>
      rw [← Path.under_kept Asgi.h1 .h1 Iff.rfl]
      exact Bridge.outcome_eq lawful_h1 Bridge.keepsEncoder_h1 hstatus hsize
  | h2 =>
      rw [← Path.under_kept Asgi.h2 .h2 Iff.rfl]
      exact Bridge.outcome_eq lawful_h2 Bridge.keepsEncoder_h2 hstatus hsize
  | h3 =>
      rw [← Path.under_kept Asgi.h3 .h3 Iff.rfl]
      exact Bridge.outcome_eq lawful_h3 Bridge.keepsEncoder_h3 hstatus hsize

/-- An interim response is handed over, refused or passed on as it is. -/
theorem Path.outcome_interim (hsize : config.compressionMinSize ≤ response.body.length)
    (hinterim : 100 ≤ response.status ∧ response.status < 200) (path : Path) {found : Outcome}
    (hfound : path.outcome encoders config extras request response = some found) :
    found = Outcome.under none response.sent := by
  have hbodyless : bodylessStatus response.status = true := by
    simp only [bodylessStatus, Bool.or_eq_true, Bool.and_eq_true, decide_eq_true_eq]
    omega
  have hbridge : ∀ bridge : Bridge, LawfulBridge bridge → Bridge.KeepsEncoder bridge →
      bridge.outcome (path.sendEnv encoders config (extras path) request) response = some found →
      found = Outcome.under none response.sent := by
    intro bridge hlawful hkeeps hbridge
    by_cases hhints : response.status = 103
    · rw [Bridge.outcome_hints hhints] at hbridge
      cases hbridge
    · rw [Bridge.outcome_eq hlawful hkeeps hhints hsize] at hbridge
      have hnone : bridge.kept (path.sendEnv encoders config (extras path) request) response =
          none := by
        have hruled : RuledOut config.compressionMinSize request.method response :=
          Or.inl hbodyless
        exact (if_congr Iff.rfl rfl (if_pos hruled)).trans (ite_self _)
      rw [← Option.some.inj hbridge, hnone]
  cases path with
  | sync =>
      simp only [Path.outcome, syncOutcome_eq, if_pos hinterim, reduceCtorEq] at hfound
  | h1 => exact hbridge Asgi.h1 lawful_h1 Bridge.keepsEncoder_h1 hfound
  | h2 => exact hbridge Asgi.h2 lawful_h2 Bridge.keepsEncoder_h2 hfound
  | h3 => exact hbridge Asgi.h3 lawful_h3 Bridge.keepsEncoder_h3 hfound

/-- Final responses that the application has not encoded are coded alike when all paths give
them the coding that the synchronous path gives them. -/
theorem sameCoding_iff_given (hsize : config.compressionMinSize ≤ response.body.length)
    (hfinal : ¬ (100 ≤ response.status ∧ response.status < 200))
    (hplain : ¬ response.sent.any isContentEncoding) :
    SameCoding encoders config extras request response ↔
      ∀ path : Path, path.given encoders config request response =
        Path.sync.given encoders config request response := by
  have hgiven : ∀ path : Path, ((if path.ruled config.compressionMinSize request.method response ∨
      response.sent.any isContentEncoding then none
      else (path.negotiated encoders config request).1).map (·.encoding)) =
        path.given encoders config request response := by
    intro path
    rw [Path.given]
    split_ifs <;> first | rfl | tauto
  constructor
  · rintro ⟨outcome, hsame⟩ path
    have hpath := hsame path _ (Path.outcome_final hsize hfinal path)
    have hsync := hsame .sync _ (Path.outcome_final hsize hfinal .sync)
    have hunder := (Outcome.under_inj _ _).mp (hpath.trans hsync.symm)
    rwa [hgiven, hgiven] at hunder
  · intro hsame
    refine ⟨Outcome.under (if Path.sync.ruled config.compressionMinSize request.method response ∨
      response.sent.any isContentEncoding then none
      else (Path.sync.negotiated encoders config request).1) response.sent, ?_⟩
    intro path found hfound
    rw [Path.outcome_final hsize hfinal path] at hfound
    rw [← Option.some.inj hfound]
    exact (Outcome.under_inj _ _).mpr ((hgiven path).trans ((hsame path).trans (hgiven .sync).symm))

/-- For every request and every response in one piece that is large enough, the four paths
decide alike and name the same Content-Encoding exactly when the response is coded alike. -/
theorem same_coding_iff (encoders : Encoders) (config : ServerConfig) (extras : Path → SendEnv)
    (request : RequestReceived) (response : SingleShot)
    (hsize : config.compressionMinSize ≤ response.body.length) :
    SameCoding encoders config extras request response ↔
      CodedAlike encoders config request response := by
  rw [CodedAlike]
  by_cases hinterim : 100 ≤ response.status ∧ response.status < 200
  · refine iff_of_true ⟨Outcome.under none response.sent, fun path found hfound => ?_⟩
      (Or.inl hinterim)
    exact Path.outcome_interim hsize hinterim path hfound
  by_cases hencoded : response.sent.any isContentEncoding
  · refine iff_of_true ⟨Outcome.under none response.sent, fun path found hfound => ?_⟩
      (Or.inr (Or.inl hencoded))
    rw [Path.outcome_final hsize hinterim path, if_pos (Or.inr hencoded)] at hfound
    exact (Option.some.inj hfound).symm
  rw [sameCoding_iff_given hsize hinterim hencoded]
  have hall : (∀ path : Path, path.given encoders config request response =
      Path.sync.given encoders config request response) ↔
        Path.h1.given encoders config request response =
            Path.sync.given encoders config request response ∧
          Path.h2.given encoders config request response =
            Path.sync.given encoders config request response ∧
          Path.h3.given encoders config request response =
            Path.sync.given encoders config request response := by
    refine ⟨fun hsame => ⟨hsame .h1, hsame .h2, hsame .h3⟩, ?_⟩
    rintro ⟨hone, htwo, hthree⟩ path
    cases path with
    | h1 => exact hone
    | h2 => exact htwo
    | h3 => exact hthree
    | sync => rfl
  have hcase : h1.isSse response.sent → h2.isSse response.sent := isSse_h2_of_h1
  have htwo : Path.h2.token encoders config request = Path.h1.token encoders config request := rfl
  have hsync : Path.sync.given encoders config request response =
      Path.sync.token encoders config request := if_neg id
  rw [hall, hsync]
  clear hall hsync
  cases Path.sync.token encoders config request with
  | none =>
      simp only [Path.given_eq_none, Path.ruled, htwo, hinterim, hencoded, false_or, true_and,
        reduceCtorEq, false_and, exists_false, or_false]
      generalize RuledOut config.compressionMinSize request.method response = ruled
      generalize (Path.h1.token encoders config request = none) = first
      generalize (Path.h3.token encoders config request = none) = decoded
      tauto
  | some token =>
      simp only [Path.given_eq_some, Path.ruled, htwo, hinterim, hencoded, false_or,
        reduceCtorEq, false_and, Option.some.injEq, exists_eq_left']
      generalize RuledOut config.compressionMinSize request.method response = ruled
      generalize (Path.h1.token encoders config request = some token) = first
      generalize (Path.h3.token encoders config request = some token) = decoded
      tauto

/-! ## Where the paths differ -/

/-- The encoders on 550 bytes of `a`, as far as gzip goes. -/
def encodersOfRun : Encoders where
  createCompressor coding _ := { gzipOfRun with encoding := coding.token }
  encoding_createCompressor _ _ := rfl

/-- A request for the root that accepts gzip. -/
def gzipRequest : RequestReceived where
  method := ascii "GET"
  target := ascii "/"
  headers := [(ascii "host", ascii "localhost"), (ascii "accept-encoding", ascii "gzip")]
  httpVersion := .http11

/-- A run of `a` in one piece, with this Content-Type. -/
def runOfType (contentType : String) : SingleShot where
  status := 200
  headers := [(ascii "content-type", ascii contentType)]
  body := List.replicate 550 97

/-- What is created without a request. -/
def noExtras : Path → SendEnv := fun _ => { requestMethod := [], compressor := none }

theorem same_coding_text :
    (500 : ℕ) ≤ 550 ∧
      SameCoding encodersOfRun {} noExtras gzipRequest (runOfType "text/plain") := by
  refine ⟨by decide, (same_coding_iff encodersOfRun {} noExtras gzipRequest
    (runOfType "text/plain") ?_).mpr ?_⟩
  · exact (List.length_replicate ..).symm ▸ (by decide : (500 : ℕ) ≤ 550)
  · refine Or.inr (Or.inr (Or.inr ⟨ascii "gzip", ?_⟩))
    decide +kernel

/-- An event stream is not encoded, except in capitals for HTTP/1.1 and by the synchronous
worker, which encodes it in any letters. -/
theorem stream_coding_differs :
    ¬ ∀ (encoders : Encoders) (config : ServerConfig) (extras : Path → SendEnv)
      (request : RequestReceived) (response : SingleShot),
      config.compressionMinSize ≤ response.body.length →
        SameCoding encoders config extras request response := by
  intro hclaim
  have hsize : ({} : ServerConfig).compressionMinSize ≤
      (runOfType "Text/Event-Stream").body.length :=
    (List.length_replicate ..).symm ▸ (by decide : (500 : ℕ) ≤ 550)
  have hsame := hclaim encodersOfRun {} noExtras gzipRequest (runOfType "Text/Event-Stream") hsize
  rw [sameCoding_iff_given hsize (by decide) (by decide +kernel)] at hsame
  have hdiffer : Path.h2.given encodersOfRun {} gzipRequest (runOfType "Text/Event-Stream") ≠
      Path.sync.given encodersOfRun {} gzipRequest (runOfType "Text/Event-Stream") := by
    decide +kernel
  exact hdiffer (hsame .h2)

end Pounce.Asgi
