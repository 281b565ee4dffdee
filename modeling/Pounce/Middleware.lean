/-
# The middleware stack

`MiddlewareStack` puts the hooks of the configuration around an application. Pre-request hooks
come first and may answer themselves; the messages of the application then go through a `send`
of the stack's own, which runs the post-response hooks over the first start message it sees;
an exception of the application is shown to the exception hooks, whose answer is sent if no
start message has been.

The first start message is the final one unless the application has sent interim responses
before it. `call_faithful_iff` says what that means: behind an interim start the final one
passes by the hooks and the CR/LF filter, which have been spent on the interim one.

An application is what it does: the messages it sends, one after the other, and how it ends.
What it makes of a `send` that raises is its own matter, and shows in what it sends after that.
-/

import Pounce.Asgi.Messages
import Pounce.Sending

namespace Pounce

open Pounce.Math Pounce.Math.Bytes Pounce.Asgi

universe u v

/-! ## Hooks -/

/-- What is raised: only exceptions are caught by `except Exception`. -/
inductive Raised (Error : Type v) where
  | exception (error : Error)
  | baseException (error : Error)
  deriving DecidableEq, Repr

/-- The answer of a hook. -/
structure MiddlewareResponse where
  status : ℕ
  headers : List Header := []
  body : Bytes := []
  deriving DecidableEq, Repr

section Hooks

variable (Scope : Type u) (Error : Type v)

/-- `PreRequestMiddleware`: the scope to go on with, or an answer. -/
abbrev PreRequestMiddleware := Scope → Except (Raised Error) (Scope ⊕ MiddlewareResponse)

/-- `PostResponseMiddleware`: the status and the headers to go on with. -/
abbrev PostResponseMiddleware :=
  Scope → ℕ → List Header → Except (Raised Error) (ℕ × List Header)

/-- `ExceptionMiddleware`: an answer, or none. -/
abbrev ExceptionMiddleware := Scope → Error → Except (Raised Error) (Option MiddlewareResponse)

/-- A middleware callable, told apart by the number of its parameters. -/
inductive MiddlewareHook where
  | preRequest (hook : PreRequestMiddleware Scope Error)
  | exceptionHandler (hook : ExceptionMiddleware Scope Error)
  | postResponse (hook : PostResponseMiddleware Scope Error)
  | other (paramCount : ℕ)

/-- `MiddlewareStack`. -/
structure MiddlewareStack where
  preRequest : List (PreRequestMiddleware Scope Error) := []
  postResponse : List (PostResponseMiddleware Scope Error) := []
  exceptionHandlers : List (ExceptionMiddleware Scope Error) := []

/-- The hook of the built-in middleware: it adds the headers it has to a response that has none of
their names. -/
def addMissing (own : List Header) : PostResponseMiddleware Scope Error :=
  fun _ status headers =>
    let existing := headers.map fun header => lower header.1
    .ok (status, headers ++ own.filter fun header => header.1 ∉ existing)

/-- `CORSMiddleware`. -/
def corsMiddleware (allowOrigin : Bytes := ascii "*")
    (allowMethods : Bytes := ascii "GET, POST, PUT, DELETE, OPTIONS")
    (allowHeaders : Bytes := ascii "*") (maxAge : ℕ := 3600) :
    PostResponseMiddleware Scope Error :=
  addMissing Scope Error
    [(ascii "access-control-allow-origin", allowOrigin),
      (ascii "access-control-allow-methods", allowMethods),
      (ascii "access-control-allow-headers", allowHeaders),
      (ascii "access-control-max-age", ofNat maxAge)]

end Hooks

/-- What a `send` raises, by the messages it has been called with before. -/
abbrev SendCallable (Error : Type v) := List SendMessage → SendMessage → Option (Raised Error)

/-! ## Applications -/

/-- A start message with a 1xx status. -/
structure InterimStart where
  status : ℕ
  headers : List Header := []
  informational : isInformational status = true := by decide

/-- A start message with any other status. -/
structure FinalStart where
  status : ℕ
  headers : List Header := []
  final : isInformational status = false := by decide

/-- Some part of a body. -/
inductive BodyPart where
  | bytes (content : Bytes) (moreBody : Bool)
  | sendfile (content : Bytes) (offset count : ℕ) (moreBody : Bool)
  deriving DecidableEq, Repr

def InterimStart.message (start : InterimStart) : SendMessage :=
  .responseStart start.status start.headers

def FinalStart.message (start : FinalStart) : SendMessage :=
  .responseStart start.status start.headers

def BodyPart.message : BodyPart → SendMessage
  | .bytes content moreBody => .responseBody content moreBody
  | .sendfile content offset count moreBody => .responseSendfile content offset count moreBody

/-- What an application does when it is called: it sends interim responses and a response, or
as much of that as it comes to, and returns or raises. -/
structure AppRun (Error : Type v) where
  interims : List InterimStart := []
  response : Option (FinalStart × List BodyPart) := none
  raises : Option (Raised Error) := none

/-- The messages of a response. -/
def responseMessages : Option (FinalStart × List BodyPart) → List SendMessage
  | none => []
  | some (final, bodies) => final.message :: bodies.map BodyPart.message

/-- The messages an application sends. -/
def AppRun.messages {Error : Type v} (run : AppRun Error) : List SendMessage :=
  run.interims.map InterimStart.message ++ responseMessages run.response

namespace MiddlewareStack

/-! ## The stack -/

/-- What the stack does for a request: it calls a post-response hook, the number of which counts
from the first on, or the `send` of the server. -/
inductive Event where
  | hook (index status : ℕ) (headers : List Header)
  | sent (message : SendMessage)
  deriving DecidableEq, Repr

/-- The messages that reached the server. -/
def sentOf (events : List Event) : List SendMessage :=
  events.filterMap fun
    | .sent message => some message
    | .hook .. => none

/-- The calls of the hooks. -/
def hooksOf (events : List Event) : List (ℕ × ℕ × List Header) :=
  events.filterMap fun
    | .hook index status headers => some (index, status, headers)
    | .sent _ => none

/-- The variables of `intercepting_send`, and what has come of its calls. -/
structure Interception where
  responseStarted : Bool := false
  events : List Event := []
  deriving DecidableEq, Repr

/-- What comes of a request. -/
structure Outcome (Error : Type v) where
  /-- What came of the application's messages. -/
  events : List Event := []
  /-- What the stack has then sent on its own. -/
  own : List SendMessage := []
  raised : Option (Raised Error) := none
  deriving DecidableEq, Repr

variable {Scope : Type u} {Error : Type v}

/-- `MiddlewareStack(middleware, app)`; the number of parameters that raises a `TypeError`. -/
def new : List (MiddlewareHook Scope Error) → Except ℕ (MiddlewareStack Scope Error)
  | [] => .ok {}
  | .other paramCount :: _ => .error paramCount
  | .preRequest hook :: hooks => (new hooks).map fun stack =>
      { stack with preRequest := hook :: stack.preRequest }
  | .exceptionHandler hook :: hooks => (new hooks).map fun stack =>
      { stack with exceptionHandlers := hook :: stack.exceptionHandlers }
  | .postResponse hook :: hooks => (new hooks).map fun stack =>
      { stack with postResponse := hook :: stack.postResponse }

/-- The pre-request hooks: the scope for the application, or an answer. -/
def runPreRequest : List (PreRequestMiddleware Scope Error) →
    PreRequestMiddleware Scope Error
  | [], scope => .ok (.inl scope)
  | hook :: hooks, scope =>
      match hook scope with
      | .error raised => .error raised
      | .ok (.inr response) => .ok (.inr response)
      | .ok (.inl modified) => runPreRequest hooks modified

/-- The exception hooks: the first answer there is. -/
def runHandlers : List (ExceptionMiddleware Scope Error) → ExceptionMiddleware Scope Error
  | [], _, _ => .ok none
  | hook :: hooks, scope, error =>
      match hook scope error with
      | .error raised => .error raised
      | .ok (some response) => .ok (some response)
      | .ok none => runHandlers hooks scope error

/-- The post-response hooks from some number on: how they are called, and what they return. -/
def runPostResponse (scope : Scope) (index : ℕ) :
    List (PostResponseMiddleware Scope Error) → ℕ → List Header →
      List Event × Except (Raised Error) (ℕ × List Header)
  | [], status, headers => ([], .ok (status, headers))
  | hook :: hooks, status, headers =>
      match hook scope status headers with
      | .error raised => ([.hook index status headers], .error raised)
      | .ok (modifiedStatus, modifiedHeaders) =>
          let (events, result) :=
            runPostResponse scope (index + 1) hooks modifiedStatus modifiedHeaders
          (.hook index status headers :: events, result)

/-- `_send_response`: the messages that are sent, and what that raises. -/
def sendResponse (send : SendCallable Error) (before : List SendMessage)
    (response : MiddlewareResponse) : List SendMessage × Option (Raised Error) :=
  let start := SendMessage.responseStart response.status response.headers
  match send before start with
  | some raised => ([start], some raised)
  | none =>
      let body := SendMessage.responseBody response.body false
      ([start, body], send (before ++ [start]) body)

variable (stack : MiddlewareStack Scope Error) (send : SendCallable Error)

/-- A call of the server's `send`, and what it raises. -/
def forward (interception : Interception) (message : SendMessage) :
    Interception × Option (Raised Error) :=
  ({ interception with events := interception.events ++ [.sent message] },
    send (sentOf interception.events) message)

/-- `intercepting_send`, and what it raises. -/
def interceptingSend (scope : Scope) (interception : Interception) (message : SendMessage) :
    Interception × Option (Raised Error) :=
  match message with
  | .responseStart status headers =>
      if interception.responseStarted then forward send interception message
      else
        let (calls, result) := runPostResponse scope 0 stack.postResponse status headers
        let started : Interception :=
          { responseStarted := true, events := interception.events ++ calls }
        match result with
        | .error raised => (started, some raised)
        | .ok (modifiedStatus, modifiedHeaders) =>
            forward send started (.responseStart modifiedStatus (sanitizeHeaders modifiedHeaders))
  | _ => forward send interception message

/-- The messages of an application, one after the other. -/
def intercept (scope : Scope) (messages : List SendMessage) : Interception :=
  messages.foldl (fun interception message =>
    (stack.interceptingSend send scope interception message).1) {}

/-- The application, and what is done about its exception. -/
def runApp (app : Scope → AppRun Error) (scope : Scope) : Outcome Error :=
  let interception := stack.intercept send scope (app scope).messages
  let events := interception.events
  match (app scope).raises with
  | some (.exception error) =>
      match runHandlers stack.exceptionHandlers scope error with
      | .error raised => { events, raised := some raised }
      | .ok (some response) =>
          if interception.responseStarted then { events, raised := some (.exception error) }
          else
            let (own, raised) := sendResponse send (sentOf events) response
            { events, own, raised }
      | .ok none => { events, raised := some (.exception error) }
  | raised => { events, raised }

/-- `__call__`. Only requests of HTTP get hooks. -/
def call (isHttp : Scope → Bool) (app : Scope → AppRun Error) (scope : Scope) : Outcome Error :=
  if isHttp scope then
    match runPreRequest stack.preRequest scope with
    | .error raised => { raised := some raised }
    | .ok (.inr response) =>
        let (own, raised) := sendResponse send [] response
        { own, raised }
    | .ok (.inl modified) => stack.runApp send app modified
  else { events := (app scope).messages.map .sent, raised := (app scope).raises }

/-! ## What is to come of the messages -/

/-- The left fold of hooks over a status and headers. -/
def foldHooks (scope : Scope) (hooks : List (PostResponseMiddleware Scope Error)) (status : ℕ)
    (headers : List Header) : Except (Raised Error) (ℕ × List Header) :=
  hooks.foldlM (fun response hook => hook scope response.1 response.2) (status, headers)

/-- The message is a final start. -/
def isFinalStart : SendMessage → Bool
  | .responseStart status _ => !isInformational status
  | _ => false

/-- What is to reach the server for a message: a final start with what the hooks make of it,
unless one of them raises, and any other message as it is. -/
def prescribed (scope : Scope) : SendMessage → List SendMessage
  | .responseStart status headers =>
      if isInformational status then [.responseStart status headers]
      else
        match foldHooks scope stack.postResponse status headers with
        | .ok (status, headers) => [.responseStart status (sanitizeHeaders headers)]
        | .error _ => []
  | message => [message]

/-- The hooks were called in order, each once and with what those before it had made of the
response; all of them, or those up to one that raised. -/
def HooksApplied (scope : Scope) (start : FinalStart) (calls : List (ℕ × ℕ × List Header)) : Prop :=
  let applied (count : ℕ) :=
    foldHooks scope (stack.postResponse.take count) start.status start.headers
  (∃ count, calls.map Prod.fst = List.range count ∧
    (count = stack.postResponse.length ∨ ∃ raised, applied count = .error raised)) ∧
  ∀ index status headers, (index, status, headers) ∈ calls →
    applied index = .ok (status, headers)

/-- The messages of the application reach the server as they are to, and the hooks were applied
to the final start. -/
structure Forwarded (scope : Scope) (run : AppRun Error) (events : List Event) : Prop where
  messages : sentOf events = run.messages.flatMap (stack.prescribed scope)
  hooks : ∀ final bodies, run.response = some (final, bodies) →
    stack.HooksApplied scope final (hooksOf events)

/-- One final start at most is sent, and if the application gets called then its messages are
forwarded. -/
structure Faithful (app : Scope → AppRun Error) (scope : Scope) (outcome : Outcome Error) : Prop where
  once : (sentOf outcome.events ++ outcome.own).countP isFinalStart ≤ 1
  forwarded : ∀ modified, runPreRequest stack.preRequest scope = .ok (.inl modified) →
    stack.Forwarded modified (app modified) outcome.events

/-- The hooks and the CR/LF filter leave a start message as it is. -/
def Leaves (scope : Scope) (start : InterimStart) : Prop :=
  ∃ headers, foldHooks scope stack.postResponse start.status start.headers =
    .ok (start.status, headers) ∧ sanitizeHeaders headers = start.headers

/-- The first start message is the final one; or nothing would have come of it for the interim
one that is, nor of the hooks and the CR/LF filter for the final one. -/
def Undisturbed (scope : Scope) (run : AppRun Error) : Prop :=
  ∀ first ∈ run.interims.head?, stack.Leaves scope first ∧
    ∀ final bodies, run.response = some (final, bodies) →
      stack.postResponse = [] ∧ sanitizeHeaders final.headers = final.headers

/-! ## Events -/

section Events

@[simp]
theorem sentOf_append (first second : List Event) :
    sentOf (first ++ second) = sentOf first ++ sentOf second := List.filterMap_append

@[simp]
theorem hooksOf_append (first second : List Event) :
    hooksOf (first ++ second) = hooksOf first ++ hooksOf second := List.filterMap_append

@[simp]
theorem sentOf_map_sent (messages : List SendMessage) :
    sentOf (messages.map .sent) = messages := by
  rw [sentOf, List.filterMap_map]
  exact List.filterMap_some

@[simp]
theorem hooksOf_map_sent (messages : List SendMessage) :
    hooksOf (messages.map .sent) = [] := by
  rw [hooksOf, List.filterMap_map]
  exact List.filterMap_eq_nil_iff.mpr fun _ _ => rfl

@[simp]
theorem sentOf_cons_sent (message : SendMessage) (events : List Event) :
    sentOf (.sent message :: events) = message :: sentOf events := rfl

@[simp]
theorem hooksOf_cons_sent (message : SendMessage) (events : List Event) :
    hooksOf (.sent message :: events) = hooksOf events := rfl

@[simp]
theorem foldHooks_nil (scope : Scope) (status : ℕ) (headers : List Header) :
    foldHooks scope ([] : List (PostResponseMiddleware Scope Error)) status headers =
      .ok (status, headers) := rfl

/-- What the hooks return is the fold, and while they run nothing is sent. -/
theorem runPostResponse_result (scope : Scope) (hooks : List (PostResponseMiddleware Scope Error))
    (index status : ℕ) (headers : List Header) :
    (runPostResponse scope index hooks status headers).2 = foldHooks scope hooks status headers ∧
      sentOf (runPostResponse scope index hooks status headers).1 = [] := by
  induction hooks generalizing index status headers with
  | nil => exact ⟨rfl, rfl⟩
  | cons hook hooks ih =>
      rw [runPostResponse, foldHooks, List.foldlM_cons]
      cases hresult : hook scope status headers with
      | error raised => exact ⟨rfl, rfl⟩
      | ok modified =>
          obtain ⟨hfold, hsilent⟩ := ih (index + 1) modified.1 modified.2
          exact ⟨hfold, hsilent⟩

/-- The hooks are called one after the other. -/
theorem runPostResponse_calls (scope : Scope) (hooks : List (PostResponseMiddleware Scope Error))
    (index status : ℕ) (headers : List Header) :
    let calls := hooksOf (runPostResponse scope index hooks status headers).1
    (∃ count, calls.map Prod.fst = List.range' index count ∧
      (count = hooks.length ∨
        ∃ raised, foldHooks scope (hooks.take count) status headers = .error raised)) ∧
    ∀ position calledStatus calledHeaders, (position, calledStatus, calledHeaders) ∈ calls →
      index ≤ position ∧ foldHooks scope (hooks.take (position - index)) status headers =
        .ok (calledStatus, calledHeaders) := by
  induction hooks generalizing index status headers with
  | nil => exact ⟨⟨0, rfl, .inl rfl⟩, fun _ _ _ hmem => by cases hmem⟩
  | cons hook hooks ih =>
      have hhere : foldHooks scope ((hook :: hooks).take (index - index)) status headers =
          .ok (status, headers) := by rw [Nat.sub_self]; rfl
      rw [runPostResponse]
      cases hresult : hook scope status headers with
      | error raised =>
          refine ⟨⟨1, rfl, .inr ⟨raised, ?_⟩⟩, ?_⟩
          · simp [foldHooks, hresult, Except.bind, bind]
          · intro position calledStatus calledHeaders hmem
            obtain ⟨rfl, rfl, rfl⟩ : position = index ∧ calledStatus = status ∧
                calledHeaders = headers := by simpa [hooksOf] using hmem
            exact ⟨Nat.le_refl _, hhere⟩
      | ok modified =>
          obtain ⟨⟨count, hrange, hall⟩, hcalls⟩ := ih (index + 1) modified.1 modified.2
          have hlater : ∀ count, foldHooks scope ((hook :: hooks).take (count + 1)) status headers =
              foldHooks scope (hooks.take count) modified.1 modified.2 := by
            intro count
            simp [foldHooks, hresult, Except.bind, bind]
          refine ⟨⟨count + 1, ?_, ?_⟩, ?_⟩
          · rw [List.range'_succ, ← hrange]
            rfl
          · rw [hlater]
            exact hall.imp_left fun hlength => by rw [hlength, List.length_cons]
          · intro position calledStatus calledHeaders hmem
            rcases List.mem_cons.mp hmem with heq | hmem
            · obtain ⟨rfl, rfl, rfl⟩ : position = index ∧ calledStatus = status ∧
                  calledHeaders = headers := by simpa using heq
              exact ⟨Nat.le_refl _, hhere⟩
            · obtain ⟨hle, hfold⟩ := hcalls position calledStatus calledHeaders hmem
              refine ⟨by omega, ?_⟩
              rw [show position - index = position - (index + 1) + 1 by omega, hlater]
              exact hfold

variable {stack send}

/-- Once a start message has been seen, messages go through as they are. -/
theorem intercept_started {scope : Scope} {interception : Interception}
    (hstarted : interception.responseStarted = true) (messages : List SendMessage) :
    messages.foldl (fun interception message =>
        (stack.interceptingSend send scope interception message).1) interception =
      { interception with events := interception.events ++ messages.map .sent } := by
  induction messages generalizing interception with
  | nil => rw [List.foldl_nil, List.map_nil, List.append_nil]
  | cons message messages ih =>
      have hforward : stack.interceptingSend send scope interception message =
          forward send interception message := by
        cases message with
        | responseStart => rw [interceptingSend, if_pos hstarted]
        | responseBody | responseSendfile => rfl
      have hnext : (forward send interception message).1.responseStarted = true := hstarted
      rw [List.foldl_cons, hforward, ih hnext]
      simp [forward]

/-- The messages behind a start message are sent as they are, and it itself with what the hooks
make of it. -/
theorem intercept_start (scope : Scope) (status : ℕ) (headers : List Header)
    (messages : List SendMessage) :
    let interception := stack.intercept send scope (.responseStart status headers :: messages)
    interception.responseStarted = true ∧
      sentOf interception.events =
        (match foldHooks scope stack.postResponse status headers with
          | .ok (status, headers) => [.responseStart status (sanitizeHeaders headers)]
          | .error _ => []) ++ messages ∧
      hooksOf interception.events =
        hooksOf (runPostResponse scope 0 stack.postResponse status headers).1 := by
  intro interception
  obtain ⟨hresult, hsilent⟩ :=
    runPostResponse_result scope stack.postResponse 0 status headers
  have hstart : interception = messages.foldl (fun interception message =>
      (stack.interceptingSend send scope interception message).1)
        (stack.interceptingSend send scope {} (.responseStart status headers)).1 := rfl
  rw [interceptingSend, if_neg (by decide)] at hstart
  rw [← hresult]
  cases hfold : (runPostResponse scope 0 stack.postResponse status headers).2 with
  | error raised =>
      simp only [hfold] at hstart
      rw [intercept_started rfl] at hstart
      rw [hstart]
      exact ⟨rfl, by simp [hsilent], by simp⟩
  | ok modified =>
      simp only [hfold, forward] at hstart
      rw [intercept_started rfl] at hstart
      rw [hstart]
      exact ⟨rfl, by simp [hsilent], by simp⟩

end Events

/-! ## When the messages are forwarded -/

section Forwarded

variable {stack send} {scope : Scope} {run : AppRun Error}

/-- What is to come of interim starts and of the parts of a body is what they are. -/
theorem prescribed_messages (stack : MiddlewareStack Scope Error) (scope : Scope)
    (run : AppRun Error) :
    run.messages.flatMap (stack.prescribed scope) =
      run.interims.map InterimStart.message ++
        (responseMessages run.response).flatMap (stack.prescribed scope) := by
  rw [AppRun.messages, List.flatMap_append, List.flatMap_map, List.map_eq_flatMap]
  congr 1
  apply List.flatMap_congr
  intro start _
  rw [InterimStart.message, prescribed, if_pos start.informational]

theorem prescribed_response (final : FinalStart) (bodies : List BodyPart) :
    (responseMessages (some (final, bodies))).flatMap (stack.prescribed scope) =
      (match foldHooks scope stack.postResponse final.status final.headers with
        | .ok (status, headers) => [.responseStart status (sanitizeHeaders headers)]
        | .error _ => []) ++ bodies.map BodyPart.message := by
  have hbodies : (bodies.map BodyPart.message).flatMap (stack.prescribed scope) =
      bodies.map BodyPart.message := by
    rw [List.flatMap_map, List.map_eq_flatMap]
    apply List.flatMap_congr
    intro part _
    cases part <;> rfl
  have hfinal : ¬ isInformational final.status = true := by simp [final.final]
  rw [responseMessages, List.flatMap_cons, hbodies, FinalStart.message, prescribed, if_neg hfinal]

/-- A response that is the first to start is forwarded as it is to be. -/
theorem forwarded_of_first (hfirst : run.interims = []) :
    stack.Forwarded scope run (stack.intercept send scope run.messages).events := by
  have hmessages : run.messages = responseMessages run.response := by
    rw [AppRun.messages, hfirst]
    rfl
  cases hresponse : run.response with
  | none =>
      rw [hresponse] at hmessages
      refine ⟨by rw [hmessages]; rfl, fun final bodies hsome => ?_⟩
      cases hresponse.symm.trans hsome
  | some response =>
      obtain ⟨final, bodies⟩ := response
      rw [hresponse] at hmessages
      obtain ⟨-, hsent, hhooks⟩ := @intercept_start _ _ stack send scope
        final.status final.headers (bodies.map BodyPart.message)
      constructor
      case messages =>
        rw [hmessages, prescribed_response]
        exact hsent
      case hooks =>
        intro other others hsome
        obtain ⟨rfl, rfl⟩ := Prod.mk.inj (Option.some.inj (hresponse.symm.trans hsome))
        rw [hmessages, responseMessages, FinalStart.message, hhooks]
        obtain ⟨⟨count, hrange, hall⟩, hcalls⟩ := runPostResponse_calls scope stack.postResponse 0
          final.status final.headers
        refine ⟨⟨count, by rw [hrange, List.range_eq_range'], hall⟩, ?_⟩
        intro index status headers hmem
        exact (hcalls index status headers hmem).2

/-- Hooks that have been applied to an interim start have not been to the final one. -/
theorem no_hooks_of_applied {first : InterimStart} {final : FinalStart}
    (happlied : stack.HooksApplied scope final
      (hooksOf (runPostResponse scope 0 stack.postResponse first.status first.headers).1)) :
    stack.postResponse = [] := by
  cases hhooks : stack.postResponse with
  | nil => rfl
  | cons hook hooks =>
      have hcalled : (0, first.status, first.headers) ∈
          hooksOf (runPostResponse scope 0 stack.postResponse first.status first.headers).1 := by
        rw [hhooks, runPostResponse]
        cases hook scope first.status first.headers <;> exact List.mem_cons_self ..
      have hstart : foldHooks scope (stack.postResponse.take 0) final.status final.headers =
          .ok (first.status, first.headers) := happlied.2 0 first.status first.headers hcalled
      have hsame : final.status = first.status := (Prod.mk.inj (Except.ok.inj hstart)).1
      have hinterim := first.informational
      rw [← hsame, final.final] at hinterim
      cases hinterim

/-- The messages are forwarded exactly if the first start message is the final one, or nothing
is to be done about it and about the final one. -/
theorem forwarded_iff :
    stack.Forwarded scope run (stack.intercept send scope run.messages).events ↔
      stack.Undisturbed scope run := by
  cases hinterims : run.interims with
  | nil =>
      refine ⟨fun _ first hnot => ?_, fun _ => forwarded_of_first hinterims⟩
      rw [hinterims] at hnot
      cases hnot
  | cons first rest =>
      have hmessages : run.messages = .responseStart first.status first.headers ::
          (rest.map InterimStart.message ++ responseMessages run.response) := by
        rw [AppRun.messages, hinterims]
        rfl
      have hprescribed : run.messages.flatMap (stack.prescribed scope) =
          .responseStart first.status first.headers :: (rest.map InterimStart.message ++
            (responseMessages run.response).flatMap (stack.prescribed scope)) := by
        rw [prescribed_messages, hinterims]
        rfl
      obtain ⟨-, hsent, hhooks⟩ := @intercept_start _ _ stack send scope
        first.status first.headers (rest.map InterimStart.message ++ responseMessages run.response)
      rw [← hmessages] at hsent hhooks
      have hundisturbed : stack.Undisturbed scope run ↔ stack.Leaves scope first ∧
          ∀ final bodies, run.response = some (final, bodies) →
            stack.postResponse = [] ∧ sanitizeHeaders final.headers = final.headers := by
        simp [Undisturbed, hinterims]
      rw [hundisturbed]
      constructor
      · rintro ⟨hforwarded, happlied⟩
        rw [hsent, hprescribed] at hforwarded
        rw [hhooks] at happlied
        cases hresponse : run.response with
        | none =>
            refine ⟨?_, fun final bodies hsome => by cases hsome⟩
            rw [hresponse] at hforwarded
            cases hfold : foldHooks scope stack.postResponse first.status first.headers with
            | error raised =>
                rw [hfold] at hforwarded
                have hlength := congrArg List.length hforwarded
                simp [responseMessages] at hlength
            | ok modified =>
                obtain ⟨status, headers⟩ := modified
                rw [hfold] at hforwarded
                obtain ⟨hstatus, hheaders⟩ :=
                  SendMessage.responseStart.inj (List.cons.inj hforwarded).1
                exact ⟨headers, by rw [hfold, hstatus], hheaders⟩
        | some response =>
            obtain ⟨final, bodies⟩ := response
            have hnone := no_hooks_of_applied (happlied final bodies hresponse)
            rw [hresponse, prescribed_response, hnone, foldHooks_nil, foldHooks_nil] at hforwarded
            obtain ⟨hstart, hrest⟩ := List.cons.inj hforwarded
            obtain ⟨-, hheaders⟩ := SendMessage.responseStart.inj hstart
            obtain ⟨hfinal, -⟩ := List.cons.inj (List.append_cancel_left hrest)
            obtain ⟨-, hclean⟩ := SendMessage.responseStart.inj hfinal
            refine ⟨⟨first.headers, by rw [hnone, foldHooks_nil], hheaders⟩, ?_⟩
            intro other others hsome
            obtain ⟨rfl, -⟩ := Prod.mk.inj (Option.some.inj hsome)
            exact ⟨hnone, hclean.symm⟩
      · rintro ⟨⟨headers, hfold, hheaders⟩, hfinal⟩
        constructor
        case messages =>
          rw [hsent, hprescribed, hfold]
          cases hresponse : run.response with
          | none => simp [hheaders, responseMessages]
          | some response =>
              obtain ⟨final, bodies⟩ := response
              obtain ⟨hnone, hclean⟩ := hfinal final bodies hresponse
              rw [prescribed_response, hnone, foldHooks_nil]
              simp [hheaders, hclean, responseMessages, FinalStart.message]
        case hooks =>
          intro final bodies hresponse
          obtain ⟨hnone, -⟩ := hfinal final bodies hresponse
          rw [hhooks, hnone]
          exact ⟨⟨0, rfl, .inl (by rw [hnone]; rfl)⟩, fun _ _ _ hmem => by cases hmem⟩

end Forwarded

/-! ## Requests -/

section Requests

variable {stack send} {scope : Scope} {run : AppRun Error}

/-- One final start at most is to reach the server. -/
theorem countP_prescribed (run : AppRun Error) :
    (run.messages.flatMap (stack.prescribed scope)).countP isFinalStart ≤ 1 := by
  have hinterims : (run.interims.map InterimStart.message).countP isFinalStart = 0 := by
    rw [List.countP_eq_zero]
    intro message hmem
    obtain ⟨start, -, rfl⟩ := List.mem_map.mp hmem
    simp [InterimStart.message, isFinalStart, start.informational]
  have hbodies : ∀ bodies : List BodyPart,
      (bodies.map BodyPart.message).countP isFinalStart = 0 := by
    intro bodies
    rw [List.countP_eq_zero]
    intro message hmem
    obtain ⟨part, -, rfl⟩ := List.mem_map.mp hmem
    cases part <;> simp [BodyPart.message, isFinalStart]
  rw [prescribed_messages, List.countP_append, hinterims, Nat.zero_add]
  cases run.response with
  | none => exact Nat.zero_le _
  | some response =>
      rw [prescribed_response, List.countP_append, hbodies]
      split
      · exact List.countP_le_length
      · exact Nat.zero_le _

/-- An answer of a hook is one start message at most. -/
theorem countP_sendResponse (before : List SendMessage) (response : MiddlewareResponse) :
    (sendResponse send before response).1.countP isFinalStart ≤ 1 := by
  have hbody : isFinalStart (.responseBody response.body false) = false := rfl
  rw [sendResponse]
  split
  · exact List.countP_le_length
  · rw [List.countP_cons, List.countP_cons_of_neg (by rw [hbody]; exact Bool.false_ne_true),
      List.countP_nil, Nat.zero_add]
    split
    · exact Nat.le_refl 1
    · exact Nat.zero_le 1

/-- As long as no start message has been seen, nothing has been sent. -/
theorem sentOf_of_not_started
    (hnot : (stack.intercept send scope run.messages).responseStarted = false) :
    sentOf (stack.intercept send scope run.messages).events = [] := by
  have hstarts : ∀ status headers rest, run.messages ≠ .responseStart status headers :: rest := by
    intro status headers rest hmessages
    rw [hmessages, (intercept_start scope status headers rest).1] at hnot
    cases hnot
  have hnone : run.messages = [] := by
    rw [AppRun.messages] at hstarts ⊢
    cases hinterims : run.interims with
    | cons first rest => exact absurd (by rw [hinterims]; rfl) (hstarts first.status first.headers _)
    | nil =>
        cases hresponse : run.response with
        | none => rfl
        | some response =>
            exact absurd (by rw [hinterims, hresponse]; rfl)
              (hstarts response.1.status response.1.headers _)
  rw [hnone]
  rfl

/-- What comes of the messages is not touched any more, and an answer of the stack's own is sent
only if no start message has been seen. -/
theorem runApp_cases (app : Scope → AppRun Error) :
    let interception := stack.intercept send scope (app scope).messages
    (stack.runApp send app scope).events = interception.events ∧
      ((stack.runApp send app scope).own = [] ∨ interception.responseStarted = false ∧
        ∃ response, (stack.runApp send app scope).own =
          (sendResponse send (sentOf interception.events) response).1) := by
  intro interception
  rw [runApp]
  split
  case h_2 => exact ⟨rfl, .inl rfl⟩
  case h_1 error herror =>
    split
    case h_1 => exact ⟨rfl, .inl rfl⟩
    case h_3 => exact ⟨rfl, .inl rfl⟩
    case h_2 response hresponse =>
      split
      case isTrue => exact ⟨rfl, .inl rfl⟩
      case isFalse hstarted => exact ⟨rfl, .inr ⟨Bool.eq_false_iff.mpr hstarted, response, rfl⟩⟩

/-- For every list of middleware, every application and every way of the server's `send` to
raise: the messages of a request are forwarded as they are to be, with one final start at most,
exactly if no interim start comes first, or none that the hooks would change, and then there is
neither a hook nor a CR or LF that the final start would be changed for. -/
theorem call_faithful_iff {Scope : Type u} {Error : Type v} (stack : MiddlewareStack Scope Error)
    (send : SendCallable Error) {isHttp : Scope → Bool} (app : Scope → AppRun Error)
    {scope : Scope} (hhttp : isHttp scope = true) :
    stack.Faithful app scope (stack.call send isHttp app scope) ↔
      ∀ modified, runPreRequest stack.preRequest scope = .ok (.inl modified) →
        stack.Undisturbed modified (app modified) := by
  have hcall : stack.call send isHttp app scope =
      match runPreRequest stack.preRequest scope with
      | .error raised => { raised := some raised }
      | .ok (.inr response) =>
          let (own, raised) := sendResponse send [] response
          { own, raised }
      | .ok (.inl modified) => stack.runApp send app modified := if_pos hhttp
  rw [hcall]
  cases hpre : runPreRequest stack.preRequest scope with
  | error raised =>
      constructor
      · intro _ modified hnot
        cases hnot
      · intro _
        refine ⟨Nat.zero_le _, fun modified hnot => ?_⟩
        cases hpre.symm.trans hnot
  | ok passed =>
      cases passed with
      | inr response =>
          constructor
          · intro _ modified hnot
            cases hnot
          · intro _
            refine ⟨countP_sendResponse [] response, fun modified hnot => ?_⟩
            cases hpre.symm.trans hnot
      | inl modified =>
          obtain ⟨hevents, hown⟩ := @runApp_cases _ _ stack send modified app
          constructor
          · intro hfaithful other hother
            obtain rfl : modified = other := Sum.inl.inj (Except.ok.inj hother)
            have hforwarded := hfaithful.forwarded modified hpre
            rw [hevents] at hforwarded
            exact forwarded_iff.mp hforwarded
          · intro hundisturbed
            have hforwarded := (@forwarded_iff _ _ stack send _ _).mpr (hundisturbed modified rfl)
            constructor
            case once =>
              rw [hevents, List.countP_append]
              rcases hown with hnone | ⟨hnot, response, hresponse⟩
              · rw [hnone, hforwarded.messages]
                exact countP_prescribed (app modified)
              · rw [hresponse, sentOf_of_not_started hnot, List.countP_nil, Nat.zero_add]
                exact countP_sendResponse _ response
            case forwarded =>
              intro other hother
              obtain rfl : modified = other :=
                Sum.inl.inj (Except.ok.inj (hpre.symm.trans hother))
              rw [hevents]
              exact hforwarded

/-- An application with a hint for each response. -/
def hinting : AppRun Empty where
  interims := [{ status := 103, headers := [(ascii "link", ascii "</a.css>; rel=preload")] }]
  response := some ({ status := 200 }, [.bytes [111, 107] false])

/-- One without. -/
def answering : AppRun Empty where
  response := some ({ status := 200 }, [.bytes [111] true, .bytes [107] false])

/-- Without post-response hooks the hint and the response go through as they are, and a response
without a hint gets the headers of the hooks. -/
theorem call_faithful_hinting :
    let bare : MiddlewareStack Unit Empty := {}
    let cors : MiddlewareStack Unit Empty := { postResponse := [corsMiddleware Unit Empty] }
    bare.Faithful (fun _ => hinting) ()
        (bare.call (fun _ _ => none) (fun _ => true) (fun _ => hinting) ()) ∧
      cors.Faithful (fun _ => answering) ()
        (cors.call (fun _ _ => none) (fun _ => true) (fun _ => answering) ()) ∧
      (hooksOf (cors.call (fun _ _ => none) (fun _ => true) (fun _ => answering) ()).events).length =
        1 := by
  intro bare cors
  refine ⟨(@call_faithful_iff _ _ bare _ (fun _ => true) _ _ rfl).mpr ?_,
    (@call_faithful_iff _ _ cors _ (fun _ => true) _ _ rfl).mpr ?_, by decide⟩
  · intro modified _ first hfirst
    obtain rfl := Option.some.inj hfirst
    refine ⟨⟨_, rfl, by decide⟩, fun final bodies hresponse => ⟨rfl, ?_⟩⟩
    obtain ⟨rfl, -⟩ := Prod.mk.inj (Option.some.inj hresponse)
    rfl
  · intro modified _ first hfirst
    cases hfirst

/-- The hint gets the headers of the hook and the response gets none. -/
theorem call_unhooked :
    let cors : MiddlewareStack Unit Empty :=
      { postResponse := [corsMiddleware Unit Empty] }
    ¬cors.Faithful (fun _ => hinting) ()
      (cors.call (fun _ _ => none) (fun _ => true) (fun _ => hinting) ()) := by
  intro cors hfaithful
  have hmessages := (hfaithful.forwarded () rfl).messages
  revert hmessages
  decide

end Requests

end MiddlewareStack

end Pounce
