/-
# What the gauge counts

Where each request that ends is reported as ended once, the gauge is the number of requests in
flight at every moment. A request is not reported as ended when its body exceeds the limit, when
an endpoint of an asynchronous worker answers it, when a WebSocket takes it over, or when an
error gets out; it is reported twice when the client is found gone. Bytes are reported for
responses but counted for connections, and no connection reports any.

A thread is followed through what it has yet to report. As long as every step accounts for the
request of its thread, the gauge is never lowered below the number of the others, so its lower
bound does not matter.
-/

import Pounce.Metrics.Traffic

namespace Pounce.Metrics

open Pounce.Math

/-! ## Requests that are accounted for -/

/-- The pool reports the end of the response. -/
def StreamingRun.regular (run : StreamingRun) : Bool := !run.fails

def Handoff.regular : Handoff → Bool
  | .streaming run => run.regular
  | .webSocket => false

/-- The application runs to its end before the client is found gone. -/
def RequestRun.regular (run : RequestRun) : Bool :=
  run.failure.isNone && !run.exceedsLimit && run.builtin.isNone && run.disconnect.isNone

def Turn.regular : Turn → Bool
  | .request run => run.regular
  | .webSocket => true

/-- The end is reported with this error. -/
def ErrorKind.regular : ErrorKind → Bool
  | .os => true
  | _ => false

/-- The response is written, or the client is gone. -/
def Reply.regular (reply : Reply) : Bool := reply.error.all (·.regular)

def SyncFate.regular (hasPool : Bool) : SyncFate → Bool
  | .webSocket | .appError => false
  | .raised error => error.regular
  | .fused reply | .inline reply => reply.regular
  | .builtin health reply => reply.regular && (health || reply.error.isSome)
  | .needsAsync run => hasPool && run.regular

/-- Every request of the connection is reported as ended once. -/
def Accepted.regular : Accepted → Bool
  | .worker run => run.protocol = .h2 || run.turns.all (·.regular)
  | .syncWorker hasPool requests => requests.all (·.fate.regular hasPool)

def TrafficAction.regular : TrafficAction → Bool
  | .connect accepted => accepted.regular
  | .turn _ => true

/-- Whether a request is in flight afterwards, if what is reported accounts for it. -/
def Mark.advance (inFlight : Bool) : Mark → Option Bool
  | .note event => if event.starts || event.ends then none else some inFlight
  | .start event => if event.starts && !inFlight then some true else none
  | .finish (some event) => if event.ends && inFlight then some false else none
  | .finish none => none
  | .handOff _ handoff => if inFlight && handoff.regular then some false else none

/-- Whether a request is in flight after some steps, if they account for it. -/
def follow (inFlight : Bool) (marks : List Mark) : Option Bool := marks.foldlM Mark.advance inFlight

theorem follow_append {inFlight : Bool} {first second : List Mark} :
    follow inFlight (first ++ second) = (follow inFlight first).bind (follow · second) :=
  List.foldlM_append ..

/-- Streaming accounts for its request if it gets so far. -/
theorem StreamingRun.follow_iff {connectionId : ℕ} {run : StreamingRun} :
    follow true (run.marks connectionId) = some false ↔ run.regular := by
  rw [StreamingRun.marks, StreamingRun.regular]
  cases run.fails with
  | true => exact ⟨fun hnot => (by cases hnot), fun hnot => (by cases hnot)⟩
  | false =>
      cases run.stream with
      | none => exact ⟨fun _ => rfl, fun _ => rfl⟩
      | some reason => exact ⟨fun _ => rfl, fun _ => rfl⟩

namespace RequestRun

variable {connectionId : ℕ} {run : RequestRun}

/-- While the application runs the request stays in flight, unless the client is gone. -/
theorem follow_running :
    follow true (run.running connectionId) = if run.disconnect.isNone then some true else none := by
  have hopened (late : Bool) : follow true (run.opened connectionId late) = some true := by
    rw [opened]
    split
    · rfl
    · rfl
  rw [running, follow_append, follow_append, hopened, gone]
  cases run.disconnect with
  | none => exact hopened true
  | some duringStreaming => rfl

/-- When it has run the request ends. -/
theorem follow_completed : follow true (run.completed connectionId) = some false := by
  rw [completed]
  cases run.stream with
  | none => rfl
  | some stream => rfl

/-- An end that is not reported is not accounted for. -/
theorem follow_unreported {inFlight : Bool} {marks : List Mark} :
    follow inFlight (marks ++ [.finish none]) = none := by
  rw [follow_append]
  cases follow inFlight marks with
  | none => rfl
  | some after => rfl

/-- The asynchronous worker accounts for exactly these requests. -/
theorem follow_iff : follow false (run.marks connectionId) = some false ↔ run.regular := by
  have hstart : follow false (run.marks connectionId) =
      follow true (run.outcome connectionId).1 := rfl
  have hsilent : follow true [.finish none] = none := rfl
  rw [hstart, outcome, regular]
  by_cases hpreparing : run.failure = some .preparing
  · simp [hpreparing, hsilent]
  rw [if_neg hpreparing]
  cases run.exceedsLimit with
  | true => simp [hsilent]
  | false =>
      cases run.builtin with
      | some raises => simp [hsilent]
      | none =>
          by_cases hcontinuing : run.failure = some .continuing
          · simp [hcontinuing, hsilent]
          by_cases hrunning : run.failure = some .running
          · simp [hrunning, follow_unreported]
          have hnone : run.failure = none := by
            cases hfailure : run.failure with
            | none => rfl
            | some failure => cases failure <;> simp_all
          have hran : follow true (run.running connectionId ++ run.completed connectionId) =
              if run.disconnect.isNone then some false else none := by
            rw [follow_append, follow_running]
            cases run.disconnect with
            | none => exact follow_completed
            | some duringStreaming => rfl
          simp [hnone, hran]

/-- A request that is accounted for raises no error. -/
theorem not_raises (hregular : run.regular = true) : (run.outcome connectionId).2 = false := by
  simp only [regular, Bool.and_eq_true, Option.isNone_iff_eq_none, Bool.not_eq_true'] at hregular
  obtain ⟨⟨⟨hfailure, hlimit⟩, hbuiltin⟩, -⟩ := hregular
  simp [outcome, hfailure, hlimit, hbuiltin]

end RequestRun

/-- So are connections with such requests. -/
theorem ConnectionRun.follow_marks {connectionId : ℕ} {run : ConnectionRun}
    (hregular : (Accepted.worker run).regular = true) :
    follow false (run.marks connectionId) = some false := by
  have hserved (turns : List Turn) (hturns : ∀ turn ∈ turns, turn.regular = true) :
      follow false (serveTurns connectionId turns).1 = some false := by
    induction turns with
    | nil => rfl
    | cons turn turns ih =>
        cases turn with
        | webSocket => rfl
        | request run =>
            have hrun : run.regular = true := hturns _ (List.mem_cons_self ..)
            have hrest := ih fun turn hmem => hturns turn (List.mem_cons_of_mem _ hmem)
            rw [serveTurns, if_neg (by rw [RequestRun.not_raises hrun]; exact Bool.false_ne_true)]
            show follow false (run.marks connectionId ++ (serveTurns connectionId turns).1) = _
            rw [follow_append, RequestRun.follow_iff.mpr hrun]
            exact hrest
  have hnoted (marks : List Mark) (hmarks : follow false marks = some false) (count : ℕ) :
      follow false (.note (.connectionOpened connectionId run.protocol) :: marks ++
        [.note (.connectionCompleted connectionId count 0 run.reason)]) = some false := by
    show follow false (marks ++ _) = _
    rw [follow_append, hmarks]
    rfl
  rw [marks]
  apply hnoted
  rw [Accepted.regular, Bool.or_eq_true, decide_eq_true_eq, List.all_eq_true] at hregular
  cases hprotocol : run.protocol with
  | h2 => rfl
  | h1 =>
      apply hserved
      exact hregular.resolve_left (by rw [hprotocol]; exact fun hnot => by cases hnot)

theorem ErrorKind.follow_iff {connectionId : ℕ} {error : ErrorKind} :
    follow true (error.outcome connectionId).1 = some false ↔ error.regular := by
  cases error with
  | timeout => exact ⟨fun hnot => (by cases hnot), fun hnot => (by cases hnot)⟩
  | os => exact ⟨fun _ => rfl, fun _ => rfl⟩
  | other => exact ⟨fun hnot => (by cases hnot), fun hnot => (by cases hnot)⟩

theorem Reply.follow_iff {connectionId : ℕ} {method : Bytes} {reply : Reply}
    {ending : Option CloseReason} :
    follow true (reply.outcome connectionId method ending).1 = some false ↔ reply.regular := by
  rw [Reply.outcome, Reply.regular]
  cases reply.error with
  | none => exact ⟨fun _ => rfl, fun _ => rfl⟩
  | some error => exact ErrorKind.follow_iff

/-- The synchronous worker accounts for exactly these requests. -/
theorem SyncRequest.follow_iff {connectionId : ℕ} {hasPool : Bool} {request : SyncRequest} :
    follow true (request.outcome connectionId hasPool).1 = some false ↔
      request.fate.regular hasPool := by
  have hsilent : follow true [.finish none] ≠ some false := fun hnot => by cases hnot
  rw [SyncRequest.outcome]
  cases request.fate with
  | webSocket =>
      cases hasPool with
      | true => exact ⟨fun hnot => (by cases hnot), fun hnot => (by cases hnot)⟩
      | false => exact ⟨fun hnot => (by cases hnot), fun hnot => (by cases hnot)⟩
  | raised error => exact ErrorKind.follow_iff
  | fused reply => exact Reply.follow_iff
  | builtin health reply =>
      cases health with
      | true =>
          rw [SyncFate.regular, Bool.true_or, Bool.and_true]
          exact Reply.follow_iff
      | false =>
          rw [SyncFate.regular, Bool.false_or, Reply.regular]
          simp only [Bool.false_eq_true, if_false]
          cases reply.error with
          | none => exact ⟨fun hnot => absurd hnot hsilent, fun hnot => (by cases hnot)⟩
          | some error =>
              simp only [Option.all_some, Option.isSome_some, Bool.and_true]
              exact ErrorKind.follow_iff
  | appError => exact ⟨fun hnot => absurd hnot hsilent, fun hnot => (by cases hnot)⟩
  | needsAsync run =>
      cases hasPool with
      | true =>
          cases hrun : run.regular with
          | true => simp [follow, Mark.advance, Handoff.regular, SyncFate.regular, hrun]
          | false => simp [follow, Mark.advance, Handoff.regular, SyncFate.regular, hrun]
      | false => exact ⟨fun hnot => absurd hnot hsilent, fun hnot => (by cases hnot)⟩
  | inline reply => exact Reply.follow_iff

/-- So are connections with such requests. -/
theorem follow_syncMarks {connectionId : ℕ} {hasPool : Bool} {requests : List SyncRequest}
    (hregular : (Accepted.syncWorker hasPool requests).regular = true) :
    follow false (syncMarks connectionId hasPool requests) = some false := by
  have hserved : follow false (serveSync connectionId hasPool requests).1 = some false := by
    rw [Accepted.regular, List.all_eq_true] at hregular
    induction requests with
    | nil => rfl
    | cons request requests ih =>
        have hrequest : follow true (request.outcome connectionId hasPool).1 = some false :=
          SyncRequest.follow_iff.mpr (hregular _ (List.mem_cons_self ..))
        have hrest := ih fun other hmem => hregular other (List.mem_cons_of_mem _ hmem)
        rw [serveSync]
        split
        · exact hrequest
        · show follow true ((request.outcome connectionId hasPool).1 ++ _) = _
          rw [follow_append, hrequest]
          exact hrest
  show follow false ((serveSync connectionId hasPool requests).1 ++ _) = _
  rw [follow_append, hserved]
  rfl

/-- What is accounted for by the requests of a connection is accounted for by it. -/
theorem Accepted.follow_marks {connectionId : ℕ} {accepted : Accepted}
    (hregular : accepted.regular = true) :
    follow false (accepted.marks connectionId) = some false := by
  cases accepted with
  | worker run => exact ConnectionRun.follow_marks hregular
  | syncWorker hasPool requests => exact follow_syncMarks hregular

/-- The pool takes over a request it accounts for. -/
theorem Handoff.follow_marks {connectionId : ℕ} {handoff : Handoff}
    (hregular : handoff.regular = true) :
    follow true (handoff.marks connectionId) = some false := by
  cases handoff with
  | streaming run => exact StreamingRun.follow_iff.mpr hregular
  | webSocket => cases hregular

/-! ## The gauge -/

/-- When a thread changes, so does the number of requests in flight. -/
theorem countP_set {threads : List Thread} {index : ℕ} {old : Thread} (new : Thread)
    (hold : threads[index]? = some old) :
    (threads.set index new).countP (·.inFlight) + old.inFlight.toNat =
      threads.countP (·.inFlight) + new.inFlight.toNat := by
  obtain ⟨hindex, hget⟩ := List.getElem?_eq_some_iff.mp hold
  have hmem : old ∈ threads := List.mem_of_getElem hget
  rw [List.countP_set hindex, hget]
  cases hinFlight : old.inFlight with
  | false => cases new.inFlight <;> simp
  | true =>
      have hpos : 0 < threads.countP (·.inFlight) :=
        List.countP_pos_iff.mpr ⟨old, hmem, hinFlight⟩
      cases new.inFlight <;> simp <;> omega

/-- A step that accounts for its request moves the gauge with the number of requests in flight. -/
theorem Mark.gauge_record {collector : PrometheusCollector} {mark : Mark} {before after : Bool}
    (hadvance : mark.advance before = some after)
    (hpos : before = true → 0 < collector.requestsInFlight) :
    (mark.event.elim collector collector.record).requestsInFlight + before.toNat =
      collector.requestsInFlight + after.toNat + mark.spawned.countP (·.inFlight) := by
  cases mark with
  | note event =>
      rw [advance] at hadvance
      split at hadvance
      case isTrue => cases hadvance
      case isFalse hneither =>
        obtain rfl := Option.some.inj hadvance
        rw [Bool.or_eq_true, not_or, Bool.not_eq_true, Bool.not_eq_true] at hneither
        show (collector.record event).requestsInFlight + _ = _
        rw [PrometheusCollector.requestsInFlight_of_neither hneither.1 hneither.2]
        rfl
  | start event =>
      obtain ⟨hstarts, hafter⟩ := Option.ite_none_right_eq_some.mp hadvance
      rw [Bool.and_eq_true, Bool.not_eq_true'] at hstarts
      obtain rfl := Option.some.inj hafter
      show (collector.record event).requestsInFlight + _ = _
      rw [PrometheusCollector.requestsInFlight_of_starts hstarts.1, hstarts.2]
      rfl
  | finish event =>
      cases event with
      | none => cases hadvance
      | some event =>
          obtain ⟨hends, hafter⟩ := Option.ite_none_right_eq_some.mp hadvance
          rw [Bool.and_eq_true] at hends
          obtain rfl := Option.some.inj hafter
          show (collector.record event).requestsInFlight + _ = collector.requestsInFlight
          rw [PrometheusCollector.requestsInFlight_of_ends hends.1, hends.2, Bool.toNat_true]
          exact Nat.sub_add_cancel (hpos hends.2)
  | handOff connectionId handoff =>
      obtain ⟨hmay, hafter⟩ := Option.ite_none_right_eq_some.mp hadvance
      rw [Bool.and_eq_true] at hmay
      obtain rfl := Option.some.inj hafter
      rw [hmay.1]
      rfl

/-- After such a step the request is as it was taken to be. -/
theorem Mark.after_of_advance {mark : Mark} {before after : Bool}
    (hadvance : mark.advance before = some after) : mark.after before = after := by
  cases mark with
  | note event =>
      rw [advance] at hadvance
      split at hadvance
      · cases hadvance
      · exact Option.some.inj hadvance
  | start event => exact Option.some.inj (Option.ite_none_right_eq_some.mp hadvance).2
  | finish event =>
      cases event with
      | none => cases hadvance
      | some event => exact Option.some.inj (Option.ite_none_right_eq_some.mp hadvance).2
  | handOff connectionId handoff =>
      exact Option.some.inj (Option.ite_none_right_eq_some.mp hadvance).2

namespace Traffic

variable {traffic next : Traffic}

/-- The gauge is right, and every thread accounts for what it has yet to report. -/
structure Accounted (traffic : Traffic) : Prop where
  gauge : traffic.collector.requestsInFlight = traffic.inFlight
  threads : ∀ thread ∈ traffic.threads, (follow thread.inFlight thread.rest).isSome

theorem tell_collector (event : Option LifecycleEvent) :
    (traffic.tell event).collector = event.elim traffic.collector traffic.collector.record := by
  cases event with
  | none => rfl
  | some event => rfl

theorem tell_threads (event : Option LifecycleEvent) :
    (traffic.tell event).threads = traffic.threads := by
  cases event with
  | none => rfl
  | some event => rfl

/-- A thread that makes a step has one to make. -/
theorem turn_cases {thread : ℕ} (hturn : traffic.turn thread = some next) :
    ∃ inFlight mark rest, traffic.threads[thread]? = some { inFlight, rest := mark :: rest } ∧
      next = { traffic with
        threads := traffic.threads.set thread { inFlight := mark.after inFlight, rest } ++
          mark.spawned }.tell mark.event := by
  rw [turn] at hturn
  split at hturn
  case h_1 inFlight mark rest hthread => exact ⟨_, _, _, hthread, (Option.some.inj hturn).symm⟩
  case h_2 => cases hturn

/-- A connection that is accepted has no request in flight. -/
theorem Accounted.connect (haccounted : traffic.Accounted) {accepted : Accepted}
    (hregular : accepted.regular = true) : (traffic.connect accepted).Accounted := by
  constructor
  case gauge =>
    show traffic.collector.requestsInFlight =
      (traffic.threads ++ [({ rest := _ } : Thread)]).countP (·.inFlight)
    rw [List.countP_append]
    exact haccounted.gauge
  case threads =>
    intro thread hmem
    rcases List.mem_append.mp hmem with hold | hnew
    · exact haccounted.threads thread hold
    · obtain rfl := List.mem_singleton.mp hnew
      rw [Accepted.follow_marks hregular]
      rfl

/-- What a thread reports accounts for its request. -/
theorem Accounted.turn (haccounted : traffic.Accounted) {thread : ℕ}
    (hturn : traffic.turn thread = some next) : next.Accounted := by
  obtain ⟨before, mark, rest, hthread, rfl⟩ := turn_cases hturn
  have hfollow := haccounted.threads _ (List.mem_of_getElem? hthread)
  obtain ⟨last, hlast⟩ := Option.isSome_iff_exists.mp hfollow
  obtain ⟨after, hadvance, hrest⟩ := Option.bind_eq_some_iff.mp
    (show (mark.advance before).bind (follow · rest) = some last from hlast)
  have hpos : before = true → 0 < traffic.collector.requestsInFlight := by
    intro hbefore
    rw [haccounted.gauge]
    exact List.countP_pos_iff.mpr ⟨_, List.mem_of_getElem? hthread, hbefore⟩
  have hafter : mark.after before = after := Mark.after_of_advance hadvance
  constructor
  case gauge =>
    have hgauge := Mark.gauge_record hadvance hpos
    have hcount := countP_set { inFlight := mark.after before, rest } hthread
    rw [tell_collector, inFlight, tell_threads, List.countP_append]
    rw [haccounted.gauge, inFlight] at hgauge
    rw [hafter] at hcount ⊢
    simp only at hcount ⊢
    omega
  case threads =>
    intro other hmem
    rw [tell_threads, List.mem_append] at hmem
    rcases hmem with hold | hnew
    · rcases List.mem_or_eq_of_mem_set hold with hsame | rfl
      · exact haccounted.threads other hsame
      · rw [hafter]
        exact Option.isSome_of_eq_some hrest
    · cases mark with
      | handOff connectionId handoff =>
          obtain ⟨hmay, -⟩ := Option.ite_none_right_eq_some.mp hadvance
          rw [Bool.and_eq_true] at hmay
          obtain rfl := List.mem_singleton.mp hnew
          rw [Handoff.follow_marks hmay.2]
          rfl
      | note event => cases hnew
      | start event => cases hnew
      | finish event => cases hnew

end Traffic

/-! ## The bytes -/

/-- The bytes a step reports for a connection. -/
def Mark.connectionBytes (mark : Mark) : ℕ := mark.event.elim 0 (·.connectionBytes)

/-- No bytes are reported for a connection. -/
def Unbilled (marks : List Mark) : Prop := ∀ mark ∈ marks, mark.connectionBytes = 0

theorem Unbilled.append {first second : List Mark} (hfirst : Unbilled first)
    (hsecond : Unbilled second) : Unbilled (first ++ second) := by
  intro mark hmem
  exact (List.mem_append.mp hmem).elim (hfirst mark) (hsecond mark)

theorem unbilled_singleton {mark : Mark} (hmark : mark.connectionBytes = 0) : Unbilled [mark] := by
  intro other hmem
  rw [List.mem_singleton.mp hmem]
  exact hmark

theorem Handoff.unbilled {connectionId : ℕ} {handoff : Handoff} :
    Unbilled (handoff.marks connectionId) := by
  cases handoff with
  | webSocket => exact unbilled_singleton rfl
  | streaming run =>
      show Unbilled (run.marks connectionId)
      rw [StreamingRun.marks]
      split
      · exact unbilled_singleton rfl
      · apply Unbilled.append _ (unbilled_singleton rfl)
        split
        · exact (unbilled_singleton rfl).append (unbilled_singleton rfl)
        · exact List.forall_mem_nil _

theorem RequestRun.unbilled {connectionId : ℕ} {run : RequestRun} :
    Unbilled (run.marks connectionId) := by
  have hopened (late : Bool) : Unbilled (run.opened connectionId late) := by
    rw [opened]
    split
    · exact unbilled_singleton rfl
    · exact List.forall_mem_nil _
  have hgone : Unbilled (run.gone connectionId) := by
    rw [gone]
    split
    · exact unbilled_singleton rfl
    · exact List.forall_mem_nil _
  have hrunning : Unbilled (run.running connectionId) :=
    ((hopened false).append hgone).append (hopened true)
  have hcompleted : Unbilled (run.completed connectionId) := by
    rw [completed]
    apply Unbilled.append _ (unbilled_singleton rfl)
    split
    · exact unbilled_singleton rfl
    · exact List.forall_mem_nil _
  apply (unbilled_singleton rfl).append
  rw [outcome]
  split
  · exact unbilled_singleton rfl
  split
  · exact unbilled_singleton rfl
  split
  · exact unbilled_singleton rfl
  split
  · exact unbilled_singleton rfl
  split
  · exact hrunning.append (unbilled_singleton rfl)
  · exact hrunning.append hcompleted

theorem ConnectionRun.unbilled {connectionId : ℕ} {run : ConnectionRun} :
    Unbilled (run.marks connectionId) := by
  have hserved (turns : List Turn) : Unbilled (serveTurns connectionId turns).1 := by
    induction turns with
    | nil => exact List.forall_mem_nil _
    | cons turn turns ih =>
        cases turn with
        | webSocket => exact List.forall_mem_nil _
        | request run =>
            rw [serveTurns]
            split
            · exact RequestRun.unbilled
            · exact RequestRun.unbilled.append ih
  apply (unbilled_singleton rfl).append
  apply Unbilled.append _ (unbilled_singleton rfl)
  cases run.protocol with
  | h1 => exact hserved run.turns
  | h2 => exact List.forall_mem_nil _

theorem ErrorKind.unbilled {connectionId : ℕ} {error : ErrorKind} :
    Unbilled (error.outcome connectionId).1 := by
  cases error with
  | timeout => exact unbilled_singleton rfl
  | os => exact unbilled_singleton rfl
  | other => exact unbilled_singleton rfl

theorem Reply.unbilled {connectionId : ℕ} {method : Bytes} {reply : Reply}
    {ending : Option CloseReason} : Unbilled (reply.outcome connectionId method ending).1 := by
  rw [Reply.outcome]
  split
  · exact ErrorKind.unbilled
  · exact unbilled_singleton rfl

theorem SyncRequest.unbilled {connectionId : ℕ} {hasPool : Bool} {request : SyncRequest} :
    Unbilled (request.outcome connectionId hasPool).1 := by
  have hhanded (handoff : Handoff) : Unbilled
      (if hasPool then [.handOff connectionId handoff] else [.finish none]) := by
    split
    · exact unbilled_singleton rfl
    · exact unbilled_singleton rfl
  rw [SyncRequest.outcome]
  split
  case h_1 => exact hhanded .webSocket
  case h_2 => exact ErrorKind.unbilled
  case h_3 => exact Reply.unbilled
  case h_4 =>
    split
    · exact Reply.unbilled
    split
    · exact ErrorKind.unbilled
    · exact unbilled_singleton rfl
  case h_5 => exact unbilled_singleton rfl
  case h_6 run _ => exact hhanded (.streaming run)
  case h_7 => exact Reply.unbilled

theorem unbilled_syncMarks {connectionId : ℕ} {hasPool : Bool} {requests : List SyncRequest} :
    Unbilled (syncMarks connectionId hasPool requests) := by
  have hserved : Unbilled (serveSync connectionId hasPool requests).1 := by
    induction requests with
    | nil => exact List.forall_mem_nil _
    | cons request requests ih =>
        rw [serveSync]
        split
        · exact (unbilled_singleton rfl).append SyncRequest.unbilled
        · exact ((unbilled_singleton rfl).append SyncRequest.unbilled).append ih
  exact ((unbilled_singleton rfl).append hserved).append (unbilled_singleton rfl)

/-- No worker reports bytes for a connection. -/
theorem Accepted.unbilled {connectionId : ℕ} {accepted : Accepted} :
    Unbilled (accepted.marks connectionId) := by
  cases accepted with
  | worker run => exact ConnectionRun.unbilled
  | syncWorker hasPool requests => exact unbilled_syncMarks

namespace Traffic

variable {traffic next : Traffic}

/-- No bytes have been counted, and none will be. -/
structure Uncounted (traffic : Traffic) : Prop where
  total : traffic.collector.bytesSentTotal = 0
  threads : ∀ thread ∈ traffic.threads, Unbilled thread.rest

theorem Uncounted.connect (huncounted : traffic.Uncounted) (accepted : Accepted) :
    (traffic.connect accepted).Uncounted := by
  constructor
  case total => exact huncounted.total
  case threads =>
    intro thread hmem
    rcases List.mem_append.mp hmem with hold | hnew
    · exact huncounted.threads thread hold
    · obtain rfl := List.mem_singleton.mp hnew
      exact Accepted.unbilled

theorem Uncounted.turn (huncounted : traffic.Uncounted) {thread : ℕ}
    (hturn : traffic.turn thread = some next) : next.Uncounted := by
  obtain ⟨before, mark, rest, hthread, rfl⟩ := turn_cases hturn
  have hmarks := huncounted.threads _ (List.mem_of_getElem? hthread)
  have hmark : mark.connectionBytes = 0 := hmarks mark (List.mem_cons_self ..)
  constructor
  case total =>
    rw [tell_collector]
    rw [Mark.connectionBytes] at hmark
    cases hevent : mark.event with
    | none => exact huncounted.total
    | some event =>
        rw [hevent] at hmark
        show (traffic.collector.record event).bytesSentTotal = 0
        rw [PrometheusCollector.bytesSentTotal_record, huncounted.total, Nat.zero_add]
        exact hmark
  case threads =>
    intro other hmem
    rw [tell_threads, List.mem_append] at hmem
    rcases hmem with hold | hnew
    · rcases List.mem_or_eq_of_mem_set hold with hsame | rfl
      · exact huncounted.threads other hsame
      · exact fun mark hrest => hmarks mark (List.mem_cons_of_mem _ hrest)
    · cases mark with
      | handOff connectionId handoff =>
          obtain rfl := List.mem_singleton.mp hnew
          exact Handoff.unbilled
      | note event => cases hnew
      | start event => cases hnew
      | finish event => cases hnew

/-- The thread is about to end its request. -/
def Ends (traffic : Traffic) (thread : ℕ) : Prop :=
  ∃ event rest,
    traffic.threads[thread]? = some { inFlight := true, rest := .finish event :: rest }

/-- One request less is in flight when one ends. -/
theorem inFlight_of_ends {thread : ℕ} (hends : traffic.Ends thread)
    (hturn : traffic.turn thread = some next) : next.inFlight + 1 = traffic.inFlight := by
  obtain ⟨event, others, hnext⟩ := hends
  obtain ⟨before, mark, rest, hthread, rfl⟩ := turn_cases hturn
  rw [hnext] at hthread
  obtain ⟨rfl, heq⟩ := Thread.mk.inj (Option.some.inj hthread)
  obtain ⟨rfl, rfl⟩ := List.cons.inj heq
  rw [inFlight, tell_threads, List.countP_append]
  exact countP_set { inFlight := false, rest := others } hnext

/-- Where every request is reported as ended once, the gauge is the number of requests in flight,
and falls by one when a request ends. The bytes are right as long as there are none. -/
theorem collector_exact
    (hreach : trafficMachine.Reach (fun _ action => action.regular = true) traffic) :
    (traffic.collector.requestsInFlight = traffic.inFlight ∧
      ∀ thread next, traffic.Ends thread → traffic.turn thread = some next →
        next.collector.requestsInFlight + 1 = traffic.collector.requestsInFlight) ∧
      (traffic.collector.bytesSentTotal = traffic.bytesReported ↔
        ∀ event ∈ traffic.reported, event.responseBytes = 0) := by
  have haccounted : traffic.Accounted := by
    apply hreach.invariant
    · rintro _ rfl
      exact ⟨rfl, List.forall_mem_nil _⟩
    · intro state action next haccounted hregular hstep
      cases action with
      | connect accepted =>
          obtain rfl := Option.some.inj hstep
          exact haccounted.connect hregular
      | turn thread => exact haccounted.turn hstep
  have huncounted : traffic.Uncounted := by
    apply hreach.invariant
    · rintro _ rfl
      exact ⟨rfl, List.forall_mem_nil _⟩
    · intro state action next huncounted _ hstep
      cases action with
      | connect accepted =>
          obtain rfl := Option.some.inj hstep
          exact huncounted.connect accepted
      | turn thread => exact huncounted.turn hstep
  refine ⟨⟨haccounted.gauge, ?_⟩, ?_⟩
  · intro thread next hends hturn
    rw [(haccounted.turn hturn).gauge, haccounted.gauge]
    exact inFlight_of_ends hends hturn
  · rw [huncounted.total, bytesReported, eq_comm, List.sum_eq_zero_iff_forall_eq_nat]
    exact List.forall_mem_map

/-- A request answered, one whose client is gone when it is answered, and one that streams. -/
def answeredRequests : List TrafficAction :=
  [.connect (.worker { turns := [.request { method := [71], target := [47], path := [47] }] }),
    .connect (.syncWorker true
      [{ method := [71], target := [47], fate := .inline { error := some .os } }]),
    .connect (.syncWorker true
      [{ method := [71], target := [47]
         fate := .needsAsync { method := [71], path := [47], stream := some .complete } }]),
    .turn 0, .turn 1, .turn 2, .turn 0, .turn 1, .turn 2, .turn 2, .turn 1, .turn 3, .turn 0]

theorem collector_exact_answered :
    ∃ traffic, trafficMachine.run {} answeredRequests = some traffic ∧
      ((traffic.collector.requestsInFlight = traffic.inFlight ∧
        ∀ thread next, traffic.Ends thread → traffic.turn thread = some next →
          next.collector.requestsInFlight + 1 = traffic.collector.requestsInFlight) ∧
        (traffic.collector.bytesSentTotal = traffic.bytesReported ↔
          ∀ event ∈ traffic.reported, event.responseBytes = 0)) := by
  obtain ⟨traffic, hrun⟩ := Option.isSome_iff_exists.mp
    (show (trafficMachine.run {} answeredRequests).isSome = true by decide)
  have hregular : trafficMachine.guarded (fun _ action => action.regular = true) {}
      answeredRequests = true := by decide
  exact ⟨traffic, hrun, collector_exact (Machine.Reach.run (.init rfl)
    (Machine.along_of_guarded hregular) hrun)⟩

/-- A request whose body exceeds the limit. -/
def refusedRequest : Accepted :=
  .worker { turns := [.request
    { method := [80], target := [47], path := [47], exceedsLimit := true }] }

/-- It is answered with 413 and stays in the gauge. -/
theorem collector_leaks :
    ¬ ∀ traffic, trafficMachine.Reachable traffic →
      (traffic.collector.requestsInFlight = traffic.inFlight ∧
        ∀ thread next, traffic.Ends thread → traffic.turn thread = some next →
          next.collector.requestsInFlight + 1 = traffic.collector.requestsInFlight) ∧
        traffic.collector.bytesSentTotal = traffic.bytesReported := by
  intro hclaim
  have hgauge := (hclaim _ (Machine.reachable_run rfl
    (show trafficMachine.run {} [.connect refusedRequest, .turn 0, .turn 0, .turn 0] = some _
      from rfl))).1.1
  exact absurd hgauge (by decide)

end Traffic

end Pounce.Metrics
