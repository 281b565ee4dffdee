/-
# Partial content through the bridges

A byte range is a range of the identity representation: a response to a range
request must reach the client with the bytes the application sent and without an
encoding the application did not choose. `Preserved` states this for a response
on any path. None of the paths looks at the status 206 or at Content-Range, so a
partial response is preserved exactly when compression is not active for some
other reason. `range_preserved_iff` says so for every path and response, and for
the ranges the static file handler serves.
-/

import Pounce.Asgi.Bridge
import Pounce.Static
import Pounce.SyncWorker.Response

namespace Pounce.Asgi

open Pounce.Math Pounce.Math.Bytes Pounce.Static

/-! ## Responses -/

/-- A final response as an application sends it: the pieces of its body, all but
the last announcing more. -/
structure Response where
  status : ℕ
  headers : List Header
  chunks : List Bytes
  last : Bytes
  final : 200 ≤ status

namespace Response

variable (response : Response)

/-- The body messages. -/
def bodyMessages : List SendMessage :=
  response.chunks.map (.responseBody · true) ++ [.responseBody response.last false]

/-- The messages of the response. -/
def messages : List SendMessage :=
  .responseStart response.status response.headers :: response.bodyMessages

/-- The body. -/
def body : Bytes := response.chunks.flatten ++ response.last

/-- The body as it may travel: a HEAD response has none. -/
def wireBody (method : Bytes) : Bytes := if method = ascii "HEAD" then [] else response.body

end Response

/-- The heads sent. -/
def headsOf (wire : List WireEvent) : List (ℕ × List Header) :=
  wire.filterMap fun
    | .head status headers => some (status, headers)
    | _ => none

/-- The body bytes sent. -/
def bodyOf (wire : List WireEvent) : Bytes :=
  wire.flatMap fun
    | .data bytes _ => bytes
    | _ => []

@[simp]
theorem headsOf_append (first second : List WireEvent) :
    headsOf (first ++ second) = headsOf first ++ headsOf second :=
  List.filterMap_append

@[simp]
theorem bodyOf_append (first second : List WireEvent) :
    bodyOf (first ++ second) = bodyOf first ++ bodyOf second :=
  List.flatMap_append

/-! ## Running a response -/

namespace Bridge

variable {bridge : Bridge} {env : SendEnv}

/-- The response is under way with its head committed. -/
structure Settled (state : SendState) : Prop where
  started : state.responseStarted = true
  incomplete : state.responseComplete = false
  committed : state.deferredStart = none

variable (bridge env) in
/-- A body message of a settled response: no new head, and the piece as it is
when no encoder is on. -/
theorem sendBody_settled {state : SendState} (hsettled : Settled state) (body : Bytes)
    (moreBody : Bool) :
    ∃ state', bridge.sendBody env state body moreBody = some state' ∧
      state'.compressor = state.compressor ∧ headsOf state'.wire = headsOf state.wire ∧
      (state.compressor = none → bodyOf state'.wire = bodyOf state.wire ++
        if env.requestMethod = ascii "HEAD" then [] else body) ∧
      state'.responseComplete = !moreBody ∧ (moreBody → Settled state') := by
  have hopen : ¬ (!state.responseStarted || state.responseComplete) := by
    simp [hsettled.started, hsettled.incomplete]
  simp only [sendBody, if_neg hopen, resolveDeferred, hsettled.committed]
  refine ⟨_, rfl, rfl, ?_, fun hnone => ?_, rfl, fun hmore => ⟨?_, ?_, ?_⟩⟩
  · simp [headsOf]
  · simp [encodeBody, hnone, bodyOf]
  · exact hsettled.started
  · simp [hmore]
  · rfl

variable (bridge env) in
/-- The body messages of a settled response complete it. -/
theorem run_settled {state : SendState} (hsettled : Settled state) (response : Response) :
    ∃ state', response.bodyMessages.foldlM (bridge.send env) state = some state' ∧
      state'.responseComplete = true ∧ headsOf state'.wire = headsOf state.wire ∧
      (state.compressor = none → bodyOf state'.wire =
        bodyOf state.wire ++ response.wireBody env.requestMethod) := by
  obtain ⟨status, headers, chunks, last, hfinal⟩ := response
  simp only [Response.bodyMessages]
  induction chunks generalizing state with
  | nil =>
      obtain ⟨state', hsend, -, hheads, hbody, hcomplete, -⟩ :=
        sendBody_settled bridge env hsettled last false
      refine ⟨state', ?_, hcomplete, hheads, ?_⟩
      · simp [send, hsend]
      · simpa [Response.wireBody, Response.body] using hbody
  | cons chunk chunks ih =>
      obtain ⟨next, hsend, hcompressor, hheads, hbody, -, hnext⟩ :=
        sendBody_settled bridge env hsettled chunk true
      obtain ⟨state', hrun, hcomplete, hheads', hbody'⟩ := ih (hnext rfl)
      refine ⟨state', ?_, hcomplete, hheads'.trans hheads, fun hnone => ?_⟩
      · simpa [send, hsend] using hrun
      · rw [hbody' (hcompressor.trans hnone), hbody hnone]
        by_cases hhead : env.requestMethod = ascii "HEAD" <;>
          simp [Response.wireBody, Response.body, hhead]

/-- The size of the response, as far as it is known when the head is committed,
does not rule compression out. -/
def bigEnough (env : SendEnv) (response : Response) : Bool :=
  env.compressionMinSize = 0 ||
    match getHeader (sanitizeHeaders response.headers) (ascii "content-length") with
    | some declared => !declaredBelow env.compressionMinSize declared
    | none =>
        shouldCompressBody (if response.chunks = [] then some response.last.length else none)
          env.compressionMinSize

/-- The encoder with which the head is built. -/
def candidate (env : SendEnv) (response : Response) : Option Compressor :=
  if bodylessStatus response.status ∨ env.requestMethod = ascii "HEAD" then none
  else if bigEnough env response then env.compressor else none

/-- The state in which the head is built. -/
def startState (env : SendEnv) (response : Response) : SendState :=
  { responseStarted := true, compressor := candidate env response }

/-- A piece of the body sent with the head deferred is sent with the head
committed for it. -/
theorem sendBody_deferred {state : SendState} {status : ℕ} {headers : List Header}
    (hdeferred : state.deferredStart = some (status, headers))
    (hmethod : env.requestMethod ≠ ascii "HEAD") (body : Bytes) (moreBody : Bool) :
    bridge.sendBody env state body moreBody =
      bridge.sendBody env (bridge.commitHead env
        { state with
          compressor :=
            if shouldCompressBody (if moreBody then none else some body.length)
              env.compressionMinSize then state.compressor else none
          deferredStart := none } status headers) body moreBody := by
  simp only [sendBody, resolveDeferred, hdeferred, if_neg hmethod, commitHead]

/-- Running a response is running its body messages once the head is built with
the candidate encoder, whether the head was deferred or not. -/
theorem run_messages (hlawful : LawfulBridge bridge) (response : Response) :
    bridge.run env response.messages =
      response.bodyMessages.foldlM (bridge.send env)
        (bridge.commitHead env (startState env response) response.status
          (bridge.startHeaders env response.headers)) := by
  have hfinal : response.status ≠ 103 := by
    have hge := response.final
    omega
  have hlength : getHeader (bridge.startHeaders env response.headers) (ascii "content-length") =
      getHeader (sanitizeHeaders response.headers) (ascii "content-length") := by
    rw [getHeader_eq (by decide), getHeader_eq (by decide), hlawful.start_fields _ _ _ (by decide)]
  rw [run, Response.messages, List.foldlM_cons]
  simp only [send, start, if_neg hfinal, Option.bind_eq_bind, Option.bind_some, hlength]
  by_cases hoff : bodylessStatus response.status ∨ env.requestMethod = ascii "HEAD"
  · have hnone : candidate env response = none := if_pos hoff
    simp [startState, hnone, hoff]
  · have hcandidate : candidate env response =
        if bigEnough env response then env.compressor else none := if_neg hoff
    simp only [if_neg hoff]
    split
    case isFalse hplain =>
      -- no encoder, or no threshold
      have hsame : candidate env response = env.compressor := by
        rw [hcandidate]
        by_cases hsome : env.compressor.isSome
        · have hzero : env.compressionMinSize = 0 := by
            by_contra hpos
            exact hplain ⟨hsome, Nat.pos_of_ne_zero hpos⟩
          simp [bigEnough, hzero]
        · simp [Option.not_isSome_iff_eq_none.mp hsome]
      rw [startState, hsame]
    case isTrue hthreshold =>
      have hpos : env.compressionMinSize ≠ 0 := Nat.pos_iff_ne_zero.mp hthreshold.2
      cases hdeclared : getHeader (sanitizeHeaders response.headers) (ascii "content-length") with
      | some declared =>
          have hsame : candidate env response =
              if declaredBelow env.compressionMinSize declared then none else env.compressor := by
            rw [hcandidate]
            cases hbelow : declaredBelow env.compressionMinSize declared <;>
              simp [bigEnough, hpos, hdeclared, hbelow]
          simp only [startState, hsame]
      | none =>
          have hmethod : env.requestMethod ≠ ascii "HEAD" := fun h => hoff (Or.inr h)
          have hbig : bigEnough env response = shouldCompressBody
              (if response.chunks = [] then some response.last.length else none)
              env.compressionMinSize := by
            simp [bigEnough, hpos, hdeclared]
          have hfirst : ∀ (body : Bytes) (moreBody : Bool), bridge.sendBody env
              { responseStarted := true, compressor := env.compressor
                deferredStart := some
                  (response.status, bridge.startHeaders env response.headers) } body moreBody =
              bridge.sendBody env (bridge.commitHead env
                { responseStarted := true
                  compressor :=
                    if shouldCompressBody (if moreBody then none else some body.length)
                      env.compressionMinSize then env.compressor else none }
                response.status (bridge.startHeaders env response.headers)) body moreBody :=
            fun body moreBody => sendBody_deferred rfl hmethod body moreBody
          rw [startState, hcandidate, hbig]
          obtain ⟨status, headers, chunks, last, hge⟩ := response
          cases chunks with
          | nil =>
              simp only [Response.bodyMessages, List.map_nil, List.nil_append, List.foldlM_cons,
                send, hfirst, if_true]
              rfl
          | cons chunk chunks =>
              simp only [Response.bodyMessages, List.map_cons, List.cons_append, List.foldlM_cons,
                send, hfirst, if_true, reduceCtorEq, if_false]

/-! ## Preservation -/

/-- Compression is active for a response: an encoder was negotiated and neither
the method, the status, the size, the type nor the encoding of the response
rules it out. -/
def compressionActive (bridge : Bridge) (env : SendEnv) (response : Response) : Bool :=
  (candidate env response).isSome && !bridge.isSse (sanitizeHeaders response.headers) &&
    !(sanitizeHeaders response.headers).any isContentEncoding

/-- The response reaches the protocol with the application's body bytes and no
Content-Encoding of the bridge's own. -/
def Preserved (bridge : Bridge) (env : SendEnv) (response : Response) : Prop :=
  ∃ state headers, bridge.run env response.messages = some state ∧
    headsOf state.wire = [(response.status, headers)] ∧
    fieldValues (ascii "content-encoding") headers =
      fieldValues (ascii "content-encoding") (sanitizeHeaders response.headers) ∧
    bodyOf state.wire = response.wireBody env.requestMethod

variable (env) in
/-- Whether the response is an event stream or encoded is decided by the
application's headers. -/
theorem startHeaders_flags (hlawful : LawfulBridge bridge) (headers : List Header) :
    bridge.isSse (bridge.startHeaders env headers) = bridge.isSse (sanitizeHeaders headers) ∧
      (bridge.startHeaders env headers).any isContentEncoding =
        (sanitizeHeaders headers).any isContentEncoding := by
  rw [isSse_eq, isSse_eq, any_isContentEncoding, any_isContentEncoding,
    hlawful.start_fields _ _ _ (by decide), hlawful.start_fields _ _ _ (by decide)]
  exact ⟨rfl, rfl⟩

variable (env) in
/-- A lawful bridge preserves exactly the responses it does not compress. -/
theorem preserved_iff (hlawful : LawfulBridge bridge) (response : Response) :
    Preserved bridge env response ↔ ¬ compressionActive bridge env response := by
  have hsettled : Settled (bridge.commitHead env (startState env response) response.status
      (bridge.startHeaders env response.headers)) := ⟨rfl, rfl, rfl⟩
  obtain ⟨state, hrun, -, hheads, hbody⟩ :=
    run_settled bridge env hsettled response
  rw [← run_messages hlawful] at hrun
  have hstart : fieldValues (ascii "content-encoding") (bridge.startHeaders env response.headers) =
      fieldValues (ascii "content-encoding") (sanitizeHeaders response.headers) := by
    rw [fieldValues, fieldValues, hlawful.start_fields _ _ _ (by decide)]
  obtain ⟨hsse, hencoded⟩ := startHeaders_flags env hlawful response.headers
  -- the head and, without an encoder, the body that are sent
  have hhead : headsOf state.wire = [(response.status, (bridge.buildHead env
      (candidate env response) (bridge.startHeaders env response.headers)).2)] := hheads
  have hplain : (bridge.buildHead env (candidate env response)
      (bridge.startHeaders env response.headers)).1 = none →
      bodyOf state.wire = response.wireBody env.requestMethod := hbody
  have hpreserved : (bridge.buildHead env (candidate env response)
      (bridge.startHeaders env response.headers)).1 = none →
      fieldValues (ascii "content-encoding") (bridge.buildHead env (candidate env response)
        (bridge.startHeaders env response.headers)).2 =
          fieldValues (ascii "content-encoding") (bridge.startHeaders env response.headers) →
      Preserved bridge env response := fun hoff hsame =>
    ⟨state, _, hrun, hhead, hsame.trans hstart, hplain hoff⟩
  rw [compressionActive]
  cases hcandidate : candidate env response with
  | none =>
      obtain ⟨hoff, hsame⟩ := hlawful.buildHead_none env (bridge.startHeaders env response.headers)
      rw [hcandidate] at hpreserved
      simpa using hpreserved hoff hsame
  | some compressor =>
      rw [hcandidate] at hpreserved
      by_cases hruled : bridge.isSse (sanitizeHeaders response.headers) ∨
          (sanitizeHeaders response.headers).any isContentEncoding
      · obtain ⟨hoff, hsame⟩ := hlawful.buildHead_off env compressor
          (bridge.startHeaders env response.headers) (by rwa [hsse, hencoded])
        have hinactive : ¬ (Option.isSome (some compressor) &&
            !bridge.isSse (sanitizeHeaders response.headers) &&
            !(sanitizeHeaders response.headers).any isContentEncoding) := by
          rcases hruled with hruled | hruled <;> simp [hruled]
        exact iff_of_true (hpreserved hoff hsame) hinactive
      · have hon := hlawful.buildHead_on env compressor
          (bridge.startHeaders env response.headers) (by rwa [hsse, hencoded])
        have hnone : fieldValues (ascii "content-encoding") (sanitizeHeaders response.headers) =
            [] := by
          have hempty : ¬ (sanitizeHeaders response.headers).any isContentEncoding :=
            fun hce => hruled (Or.inr hce)
          rw [any_isContentEncoding] at hempty
          simpa [fieldValues] using hempty
        refine iff_of_false ?_ (by simpa using hruled)
        rintro ⟨state', headers, hrun', hheads', hencoding, -⟩
        obtain rfl : state = state' := Option.some.inj (hrun.symm.trans hrun')
        rw [hhead, hcandidate] at hheads'
        obtain rfl : _ = headers := (Prod.mk.inj (List.cons.inj hheads').1).2
        rw [hon, hnone] at hencoding
        exact List.cons_ne_nil _ _ hencoding

end Bridge

/-! ## Ranges of static files -/

/-- A single-range response as one piece. -/
def rangeResponse (file : StaticFile) (range : ByteRange file.size) : Response where
  status := 206
  headers := rangeHeaders file range
  chunks := []
  last := file.named range
  final := by decide

/-- The request of a range is a GET request. -/
def getEnv (env : SendEnv) : SendEnv := { env with requestMethod := ascii "GET" }

namespace Bridge

variable {bridge : Bridge} {env : SendEnv}

/-- A range of a static file reaches the protocol as the bytes Content-Range
names, in the encoding of the file. Regions are offered when no encoder was
negotiated and the connection can transfer them. -/
def RangeDelivered (bridge : Bridge) (env : SendEnv) (file : StaticFile)
    (range : ByteRange file.size) (canSendfile : Bool) : Prop :=
  let sendfileEnabled := bridge.sendfile = some true && env.compressor.isNone && canSendfile
  ∃ state headers, bridge.run (getEnv env) (send206Single file range sendfileEnabled) = some state ∧
    headsOf state.wire = [(206, headers)] ∧
    fieldValues (ascii "content-encoding") headers =
      fieldValues (ascii "content-encoding") (sanitizeHeaders (rangeHeaders file range)) ∧
    bodyOf state.wire = file.named range

/-- A declared length decides about compression, however the body is cut. -/
theorem compressionActive_congr {first second : Response} (hstatus : first.status = second.status)
    (hheaders : first.headers = second.headers)
    (hdeclared : (getHeader (sanitizeHeaders second.headers) (ascii "content-length")).isSome) :
    compressionActive bridge env first = compressionActive bridge env second := by
  obtain ⟨declared, hdeclared⟩ := Option.isSome_iff_exists.mp hdeclared
  have hbig : bigEnough env first = bigEnough env second := by
    simp only [bigEnough, hheaders, hdeclared]
  simp only [compressionActive, candidate, hstatus, hheaders, hbig]

/-- Range responses declare their length. -/
theorem rangeHeaders_declared (file : StaticFile) (range : ByteRange file.size) :
    (getHeader (sanitizeHeaders (rangeHeaders file range)) (ascii "content-length")).isSome := by
  have hmem : (ascii "content-length", stripCrlf (ofNat range.count)) ∈
      fields (ascii "content-length") (sanitizeHeaders (rangeHeaders file range)) := by
    have hname : lower (ascii "content-length") = ascii "content-length" := by decide
    refine List.mem_filter.mpr ⟨List.mem_filter.mpr ⟨List.mem_map.mpr ?_, rfl⟩, by simp [hname]⟩
    exact ⟨(ascii "content-length", ofNat range.count), by simp [rangeHeaders], rfl⟩
  rw [getHeader_eq (by decide), Option.isSome_map, List.isSome_head?]
  simpa using List.ne_nil_of_mem hmem

variable (bridge env) in
/-- Without an encoder the head is committed at once. -/
theorem start_plain {status : ℕ} (hfinal : status ≠ 103) (hcompressor : env.compressor = none)
    (headers : List Header) :
    bridge.start env { compressor := env.compressor } status headers =
      bridge.commitHead env { responseStarted := true, compressor := none } status
        (bridge.startHeaders env headers) := by
  simp [start, hfinal, hcompressor]

/-- A range sent as a region arrives as it is. -/
theorem rangeDelivered_region (hlawful : LawfulBridge bridge) {file : StaticFile}
    {range : ByteRange file.size} (hsendfile : bridge.sendfile = some true)
    (hcompressor : env.compressor = none) (hlarge : sendfileMinSize ≤ range.count) :
    RangeDelivered bridge env file range true := by
  obtain ⟨hoff, hsame⟩ := hlawful.buildHead_none (getEnv env)
    (bridge.startHeaders (getEnv env) (rangeHeaders file range))
  have hmessages : send206Single file range true =
      [.responseStart 206 (rangeHeaders file range),
        .responseSendfile file.content range.start range.count false] := by
    rw [send206Single, sendFileBody, if_pos ⟨rfl, hlarge⟩]
  have hrun : bridge.run (getEnv env) (send206Single file range true) = some
      { bridge.commitHead (getEnv env) { responseStarted := true, compressor := none } 206
          (bridge.startHeaders (getEnv env) (rangeHeaders file range)) with
        wire := [.head 206 (bridge.buildHead (getEnv env) none
            (bridge.startHeaders (getEnv env) (rangeHeaders file range))).2] ++
          [.data (file.named range) true]
        responseComplete := true } := by
    have hstart := start_plain bridge (getEnv env) (by decide : 206 ≠ 103)
      hcompressor (rangeHeaders file range)
    simp only [run, hmessages, List.foldlM_cons, List.foldlM_nil, send, hstart]
    simp [hsendfile, commitHead, hoff, StaticFile.named]
  rw [RangeDelivered]
  simp only [hsendfile, hcompressor, Option.isNone_none, decide_true, Bool.and_self, hrun]
  refine ⟨_, _, rfl, rfl, ?_, ?_⟩
  · rw [hsame, fieldValues, fieldValues, hlawful.start_fields _ _ _ (by decide)]
  · simp [bodyOf]

/-- A lawful bridge delivers exactly the ranges it does not compress. -/
theorem rangeDelivered_iff (hlawful : LawfulBridge bridge) (file : StaticFile)
    (range : ByteRange file.size) (canSendfile : Bool) :
    RangeDelivered bridge env file range canSendfile ↔
      ¬ compressionActive bridge (getEnv env) (rangeResponse file range) := by
  by_cases hregion : (bridge.sendfile = some true && env.compressor.isNone && canSendfile) ∧
      sendfileMinSize ≤ range.count
  · obtain ⟨hoffered, hlarge⟩ := hregion
    simp only [Bool.and_eq_true, decide_eq_true_eq, Option.isNone_iff_eq_none] at hoffered
    obtain ⟨⟨hsendfile, hcompressor⟩, rfl⟩ := hoffered
    have hnone : candidate (getEnv env) (rangeResponse file range) = none := by
      have hcompressor' : (getEnv env).compressor = none := hcompressor
      simp [candidate, hcompressor']
    have hinactive : ¬ compressionActive bridge (getEnv env) (rangeResponse file range) := by
      simp [compressionActive, hnone]
    exact iff_of_true (rangeDelivered_region hlawful hsendfile hcompressor hlarge) hinactive
  · obtain ⟨chunks, last, hsend, hbody, -⟩ := send206Single_chunks file range
    have hmessages : send206Single file range
        (bridge.sendfile = some true && env.compressor.isNone && canSendfile) =
          send206Single file range false := by
      rw [send206Single, send206Single, sendFileBody, sendFileBody, if_neg hregion, if_neg (by simp)]
    let response : Response :=
      { status := 206, headers := rangeHeaders file range, chunks, last, final := by decide }
    have hpreserved := preserved_iff (getEnv env) hlawful response
    have hsame : compressionActive bridge (getEnv env) response =
        compressionActive bridge (getEnv env) (rangeResponse file range) :=
      compressionActive_congr rfl rfl (rangeHeaders_declared file range)
    rw [hsame] at hpreserved
    rw [← hpreserved, RangeDelivered, Preserved, hmessages, hsend]
    have hwire : response.wireBody (getEnv env).requestMethod = file.named range := by
      rw [← hbody]
      rfl
    rw [hwire]
    rfl

end Bridge

/-! ## The synchronous path -/

/-- What the inline path of the synchronous worker makes of messages: headers and
body, or nothing when the response is handed to an asynchronous worker. -/
def syncResponse (env : SendEnv) (messages : List SendMessage) : Option (List Header × Bytes) :=
  let response := SyncWorker.callAsgiSync env.requestMethod messages
  if response.needsAsync then none
  else some (SyncWorker.finalizeResponseHeaders {} response.headers response.body env.compressor
    (env.dictionaryHash.map fun sfHash => { sfHash, urlMatch := [] }) false)

/-- What the inline path writes has the application's body bytes and no
Content-Encoding of its own. -/
def SyncPreserved (env : SendEnv) (headers : List Header) (body : Bytes)
    (messages : List SendMessage) : Prop :=
  ∀ out, syncResponse env messages = some out →
    fieldValues (ascii "content-encoding") out.1 =
      fieldValues (ascii "content-encoding") (sanitizeHeaders headers) ∧ out.2 = body

/-- Collecting the messages of a response. -/
theorem callAsgiSync_messages (method : Bytes) (response : Response) :
    SyncWorker.callAsgiSync method response.messages =
      { status := response.status
        headers := sanitizeHeaders response.headers
        body := response.wireBody method
        needsAsync := response.chunks ≠ [] } := by
  have hbodies : ∀ (chunks : List Bytes) (collected : SyncWorker.SyncResponse),
      (chunks.map (SendMessage.responseBody · true) ++
          [SendMessage.responseBody response.last false]).foldl
            (SyncWorker.collectMessage method) collected =
        { collected with
          body := collected.body ++
            if method = ascii "HEAD" then [] else chunks.flatten ++ response.last
          needsAsync := collected.needsAsync || chunks ≠ [] } := by
    intro chunks
    induction chunks with
    | nil =>
        intro collected
        by_cases hhead : method = ascii "HEAD" <;> simp [SyncWorker.collectMessage, hhead]
    | cons chunk chunks ih =>
        intro collected
        rw [List.map_cons, List.cons_append, List.foldl_cons, ih]
        by_cases hhead : method = ascii "HEAD" <;> simp [SyncWorker.collectMessage, hhead]
  have hfinal : ¬ (100 ≤ response.status ∧ response.status < 200) := by
    have hge := response.final
    omega
  rw [SyncWorker.callAsgiSync, Response.messages, List.foldl_cons, Response.bodyMessages, hbodies]
  simp [SyncWorker.collectMessage, hfinal, Response.wireBody, Response.body]

/-- Compression is active on the inline path: an encoder was negotiated, and the
response is sent there and not encoded already. -/
def syncCompressionActive (env : SendEnv) (response : Response) : Bool :=
  response.chunks = [] && env.compressor.isSome &&
    !(sanitizeHeaders response.headers).any isContentEncoding

/-- The inline path preserves exactly the responses it does not compress. -/
theorem syncPreserved_iff (env : SendEnv) (response : Response) :
    SyncPreserved env response.headers (response.wireBody env.requestMethod) response.messages ↔
      ¬ syncCompressionActive env response := by
  have hcollected := callAsgiSync_messages env.requestMethod response
  by_cases hsingle : response.chunks = []
  · have hout : syncResponse env response.messages =
        some (SyncWorker.finalizeResponseHeaders {} (sanitizeHeaders response.headers)
          (response.wireBody env.requestMethod) env.compressor
          (env.dictionaryHash.map fun sfHash => { sfHash, urlMatch := [] }) false) := by
      simp [syncResponse, hcollected, hsingle]
    have hactive : syncCompressionActive env response =
        SyncWorker.compressionActive {} (sanitizeHeaders response.headers)
          (response.wireBody env.requestMethod) env.compressor false := by
      simp [syncCompressionActive, SyncWorker.compressionActive, SyncWorker.compressionOffered,
        hsingle]
    rw [hactive]
    simp only [SyncPreserved, hout, Option.some.injEq, forall_eq']
    by_cases hon : SyncWorker.compressionActive {} (sanitizeHeaders response.headers)
        (response.wireBody env.requestMethod) env.compressor false
    · obtain ⟨encoder, -, -, -, hencoding, -⟩ := SyncWorker.finalizeResponseHeaders_active
        (env.dictionaryHash.map fun sfHash => { sfHash, urlMatch := [] }) hon
      have hnone : fieldValues (ascii "content-encoding") (sanitizeHeaders response.headers) =
          [] := by
        have hempty : ¬ (sanitizeHeaders response.headers).any isContentEncoding := by
          intro hany
          simp [SyncWorker.compressionActive, hany] at hon
        rw [any_isContentEncoding] at hempty
        simpa [fieldValues] using hempty
      simp [hencoding, hnone, hon]
    · obtain ⟨hbody, -, hothers⟩ := SyncWorker.finalizeResponseHeaders_inactive
        (env.dictionaryHash.map fun sfHash => { sfHash, urlMatch := [] }) hon
      exact iff_of_true ⟨hothers _ (by decide), hbody⟩ hon
  · have hnone : syncResponse env response.messages = none := by
      simp [syncResponse, hcollected, hsingle]
    simp [SyncPreserved, hnone, syncCompressionActive, hsingle]

/-! ## All paths -/

/-- The ways a response can take. -/
inductive Path
  | h1
  | h2
  | h3
  | sync
  deriving DecidableEq, Repr

namespace Path

/-- The response keeps its body bytes and gets no Content-Encoding on the way. -/
def Preserved : Path → SendEnv → Response → Prop
  | h1, env, response => Asgi.h1.Preserved env response
  | h2, env, response => Asgi.h2.Preserved env response
  | h3, env, response => Asgi.h3.Preserved env response
  | sync, env, response =>
      SyncPreserved env response.headers (response.wireBody env.requestMethod) response.messages

/-- Compression is active for the response. -/
def compressionActive : Path → SendEnv → Response → Bool
  | h1, env, response => Asgi.h1.compressionActive env response
  | h2, env, response => Asgi.h2.compressionActive env response
  | h3, env, response => Asgi.h3.compressionActive env response
  | sync, env, response => syncCompressionActive env response

/-- A range of a static file arrives as the bytes Content-Range names. -/
def RangeDelivered (path : Path) (env : SendEnv) (file : StaticFile)
    (range : ByteRange file.size) (canSendfile : Bool) : Prop :=
  match path with
  | h1 => Asgi.h1.RangeDelivered env file range canSendfile
  | h2 => Asgi.h2.RangeDelivered env file range canSendfile
  | h3 => Asgi.h3.RangeDelivered env file range canSendfile
  | sync =>
      SyncPreserved (getEnv env) (rangeHeaders file range) (file.named range)
        (send206Single file range false)

/-- Compression is active for a range. Ranges of more than one piece leave the
synchronous path. -/
def rangeCompressed (path : Path) (env : SendEnv) (file : StaticFile)
    (range : ByteRange file.size) : Bool :=
  path.compressionActive (getEnv env) (rangeResponse file range) &&
    (path ≠ sync || range.count ≤ chunkSize)

end Path

/-- A range leaves the synchronous path in one piece. -/
theorem syncRangeDelivered_iff (env : SendEnv) (file : StaticFile) (range : ByteRange file.size) :
    Path.RangeDelivered .sync env file range false ↔ ¬ Path.rangeCompressed .sync env file range := by
  obtain ⟨chunks, last, hsend, hbody, hsingle⟩ := send206Single_chunks file range
  let response : Response :=
    { status := 206, headers := rangeHeaders file range, chunks, last, final := by decide }
  have hactive : Path.rangeCompressed .sync env file range =
      syncCompressionActive (getEnv env) response := by
    rw [Bool.eq_iff_iff]
    simp [Path.rangeCompressed, Path.compressionActive, syncCompressionActive, rangeResponse,
      response, ← hsingle]
    tauto
  have hwire : response.wireBody (getEnv env).requestMethod = file.named range := by
    rw [← hbody]
    rfl
  rw [hactive, ← syncPreserved_iff, Path.RangeDelivered, hsend, hwire]
  rfl

/-- On every path, responses, partial ones among them, are preserved exactly when
compression is not active for them, and so are the ranges of static files. -/
theorem range_preserved_iff (path : Path) (env : SendEnv) :
    (∀ response : Response,
      path.Preserved env response ↔ ¬ path.compressionActive env response) ∧
    ∀ (file : StaticFile) (range : ByteRange file.size) (canSendfile : Bool),
      path.RangeDelivered env file range canSendfile ↔ ¬ path.rangeCompressed env file range := by
  refine ⟨fun response => ?_, fun file range canSendfile => ?_⟩
  · cases path with
    | h1 => exact Bridge.preserved_iff _ lawful_h1 response
    | h2 => exact Bridge.preserved_iff _ lawful_h2 response
    | h3 => exact Bridge.preserved_iff _ lawful_h3 response
    | sync => exact syncPreserved_iff env response
  · cases path with
    | h1 =>
        simpa [Path.rangeCompressed, Path.RangeDelivered, Path.compressionActive] using
          Bridge.rangeDelivered_iff lawful_h1 file range canSendfile
    | h2 =>
        simpa [Path.rangeCompressed, Path.RangeDelivered, Path.compressionActive] using
          Bridge.rangeDelivered_iff lawful_h2 file range canSendfile
    | h3 =>
        simpa [Path.rangeCompressed, Path.RangeDelivered, Path.compressionActive] using
          Bridge.rangeDelivered_iff lawful_h3 file range canSendfile
    | sync => exact syncRangeDelivered_iff env file range

/-- The response carries a byte range. -/
def Response.isPartial (response : Response) : Prop :=
  response.status = 206 ∨ fieldValues (ascii "content-range") response.headers ≠ []

/-- The gzip encoder on 550 bytes of `a`: header first, the data when flushed. -/
def gzipOfRun : Compressor where
  encoding := ascii "gzip"
  output
    | [.compress _] => [31, 139, 8, 0, 0, 0, 0, 0, 0, 3]
    | _ => [75, 76, 28, 5, 163, 128, 16, 0, 0, 45, 123, 137, 181, 38, 2, 0, 0]
  oneShot_ne_nil _ := List.cons_ne_nil _ _

/-- The first 550 bytes of a file of 600, sent with gzip negotiated. -/
def firstBytes : Response where
  status := 206
  headers := [(ascii "content-length", ascii "550"),
    (ascii "content-range", ascii "bytes 0-549/600")]
  chunks := []
  last := List.replicate 550 97
  final := by decide

/-- A partial response is compressed on the fly when gzip was negotiated. -/
theorem range_compressed :
    ¬ ∀ (path : Path) (env : SendEnv) (response : Response),
      response.isPartial → path.Preserved env response := by
  intro hclaim
  have hpreserved := hclaim .h1 { requestMethod := ascii "GET", compressor := some gzipOfRun }
    firstBytes (Or.inl rfl)
  exact (Bridge.preserved_iff _ lawful_h1 firstBytes).mp hpreserved (by decide)

end Pounce.Asgi
