/-
# Request bodies on a multiplexed connection

HTTP/2 and HTTP/3 serve every stream in a task of its own. The handler of the connection
keeps three tables by stream: the task with its body queue, the body bytes counted so far,
and the streams whose further data is to be ignored. All it does for a stream touches the
entries of that stream only, so a stream is a `Machine` by itself.

A body over the limit is refused on its declared length, without a task, or when its data
exceeds the limit, by cancelling the task: in both cases with 413. The application never
gets more than the limit (`delivered_le`). The answer, though, is only 413 if the
application has neither returned nor begun to answer when the limit is exceeded
(`refused_of_answerable`).
-/

import Pounce.Asgi.Receive
import Pounce.Math.Indexed
import Pounce.Math.Transition

namespace Pounce.StreamBody

open Pounce.Math Pounce.Asgi

/-- The protocol of the connection. -/
inductive Transport where
  | h2
  | h3
  deriving DecidableEq, Repr

/-- A request on the stream. -/
structure Request where
  /-- The declared Content-Length. -/
  declared : Option ℤ
  /-- Its task has not ended. -/
  running : Bool
  bodyQueue : List BodyReceived := []
  /-- The status of the response, once there is one. -/
  answered : Option ℕ := none
  /-- The body bytes that have arrived for it. -/
  arrived : ℕ := 0
  /-- What `receive` has returned. -/
  received : List ReceiveMessage := []
  deriving DecidableEq, Repr

/-- A stream with its entries in the tables of the handler. -/
structure Stream where
  /-- The requests on the stream, oldest first. A peer that keeps to the protocol sends
  one. -/
  requests : List Request := []
  /-- Whose task is in `stream_tasks`. -/
  task : Option ℕ := none
  /-- `stream_body_bytes`. -/
  bodyBytes : Option ℕ := none
  /-- `stream_body_rejected` for HTTP/2, `stream_body_ended` for HTTP/3. -/
  rejected : Bool := false
  deriving DecidableEq, Repr

/-- What happens on a stream. -/
inductive Action where
  /-- The head of a request arrives; for HTTP/3 with the end of the stream or without. -/
  | headers (declared : Option ℤ) (endStream : Bool)
  /-- Body data arrives. -/
  | data (body : BodyReceived)
  | reset
  /-- A `receive` of the application returns. -/
  | receive (index : ℕ)
  /-- A response is begun by the application, or for it. -/
  | respond (index : ℕ) (status : ℕ)
  /-- The task of a request ends. -/
  | finish (index : ℕ)
  deriving DecidableEq, Repr

/-- The declared length exceeds the limit. -/
def declaredExceeds (limit : ℕ) (declared : Option ℤ) : Bool :=
  declared.any fun length => (limit : ℤ) < length

/-- The head of a request has arrived. -/
def handleHeaders (transport : Transport) (limit : ℕ) (stream : Stream) (declared : Option ℤ)
    (endStream : Bool) : Stream :=
  if transport = .h3 ∧ stream.task.isSome then stream
  else if declaredExceeds limit declared then
    { stream with
      requests := stream.requests ++ [{ declared, running := false, answered := some 413 }]
      bodyBytes := if transport = .h2 then none else stream.bodyBytes
      rejected := true }
  else
    { stream with
      requests := stream.requests ++ [{
        declared
        running := true
        bodyQueue := if transport = .h3 ∧ endStream then [{ data := [], more := false }] else [] }]
      task := some stream.requests.length }

/-- Body data counts as arrived for the latest request. -/
def arrive (length : ℕ) (stream : Stream) : Stream :=
  { stream with
    requests := stream.requests.modify (stream.requests.length - 1) fun request =>
      { request with arrived := request.arrived + length } }

/-- Body data has arrived. -/
def handleData (limit : ℕ) (stream : Stream) (body : BodyReceived) : Stream :=
  let stream := arrive body.data.length stream
  if stream.rejected then stream
  else
    match stream.task with
    | none => stream
    | some index =>
        let bodyBytes := stream.bodyBytes.getD 0 + body.data.length
        if limit < bodyBytes then
          { stream with
            requests := stream.requests.modify index fun request =>
              { request with answered := request.answered.or (some 413) }
            task := none
            bodyBytes := none
            rejected := true }
        else
          { stream with
            requests := stream.requests.modify index fun request =>
              { request with bodyQueue := request.bodyQueue ++ [body] }
            bodyBytes := some bodyBytes }

/-- The entries of the stream are removed. -/
def removeStream (stream : Stream) : Stream :=
  { stream with task := none, bodyBytes := none, rejected := false }

/-- A `receive` of the application: the next body event of the queue. -/
def Request.receive (request : Request) : Request :=
  match request.bodyQueue with
  | [] => request
  | event :: bodyQueue =>
      { request with bodyQueue, received := request.received ++ [requestMessage event] }

/-- What an action does where it is enabled. -/
def step (transport : Transport) (limit : ℕ) (stream : Stream) : Action → Option Stream
  | .headers declared endStream =>
      some (handleHeaders transport limit stream declared endStream)
  | .data body => some (handleData limit stream body)
  | .reset => some (removeStream stream)
  | .receive index =>
      match stream.requests[index]? with
      | none => none
      | some request =>
          if request.running ∧ request.bodyQueue ≠ [] then
            some { stream with requests := stream.requests.set index request.receive }
          else none
  | .respond index status =>
      match stream.requests[index]? with
      | none => none
      | some request =>
          if request.running ∧ request.answered = none then
            some { stream with
              requests := stream.requests.set index { request with answered := some status } }
          else none
  | .finish index =>
      match stream.requests[index]? with
      | none => none
      | some request =>
          if request.running then
            some (removeStream { stream with
              requests := stream.requests.set index { request with running := false } })
          else none

/-- A stream of a connection. -/
def machine (transport : Transport) (limit : ℕ) : Machine Stream Action where
  init stream := stream = {}
  step := step transport limit

/-! ## What the tables say -/

/-- The body bytes the application has or can get. -/
def Request.held (request : Request) : ℕ :=
  (delivered request.received).length + (bodyData request.bodyQueue).length

/-- What the tables of a stream say of a request. -/
structure Entry (limit : ℕ) (stream : Stream) (index : ℕ) (request : Request) : Prop where
  held_le : request.held ≤ limit
  /-- For the task in the table all bytes have been counted. -/
  counted : stream.rejected = false → stream.task = some index →
    request.held ≤ stream.bodyBytes.getD 0 ∧ request.arrived ≤ stream.bodyBytes.getD 0
  /-- A declared length over the limit has been refused. -/
  refused : declaredExceeds limit request.declared →
    request.answered = some 413 ∧ request.running = false ∧ request.received = []

/-- What holds of a stream in all runs. -/
structure Tabled (limit : ℕ) (stream : Stream) : Prop where
  bodyBytes_le : stream.bodyBytes.getD 0 ≤ limit
  /-- The task in the table is the one of the latest request. -/
  latest : stream.rejected = false → ∀ index, stream.task = some index →
    index + 1 = stream.requests.length
  entries : Indexed (Entry limit stream) stream.requests

variable {transport : Transport} {limit : ℕ}

/-- An entry looks at the tables only where its task is registered. -/
theorem Entry.unregistered {stream next : Stream} {index : ℕ} {request : Request}
    (hentry : Entry limit stream index request)
    (hunregistered : next.rejected = false → next.task ≠ some index) :
    Entry limit next index request where
  held_le := hentry.held_le
  counted hopen htask := absurd htask (hunregistered hopen)
  refused := hentry.refused

/-- Removing the entries of a stream keeps what is said of the requests. -/
theorem Tabled.removeStream {stream : Stream} (htabled : Tabled limit stream) :
    Tabled limit (removeStream stream) where
  bodyBytes_le := Nat.zero_le _
  latest _ _ htask := by cases htask
  entries := htabled.entries.imp fun _ _ _ hentry =>
    hentry.unregistered fun _ htask => by cases htask

theorem tabled_handleHeaders {stream : Stream} (htabled : Tabled limit stream)
    (declared : Option ℤ) (endStream : Bool) :
    Tabled limit (handleHeaders transport limit stream declared endStream) := by
  unfold handleHeaders
  split
  case isTrue => exact htabled
  case isFalse =>
    split
    case isTrue =>
      constructor
      case bodyBytes_le =>
        change (if transport = .h2 then none else stream.bodyBytes).getD 0 ≤ limit
        split
        case isTrue => exact Nat.zero_le _
        case isFalse => exact htabled.bodyBytes_le
      case latest => intro hopen; cases hopen
      case entries =>
        apply Indexed.concat
        · exact htabled.entries.imp fun _ _ _ hentry =>
            hentry.unregistered fun hopen => Bool.noConfusion hopen
        · exact ⟨Nat.zero_le _, fun hopen => Bool.noConfusion hopen, fun _ => ⟨rfl, rfl, rfl⟩⟩
    case isFalse hdeclared =>
      constructor
      case bodyBytes_le => exact htabled.bodyBytes_le
      case latest =>
        rintro - index htask
        obtain rfl := Option.some.inj htask
        rw [List.length_append, List.length_singleton]
      case entries =>
        apply Indexed.concat
        · intro index request hrequest
          apply (htabled.entries index request hrequest).unregistered
          intro _ htask
          obtain rfl := Option.some.inj htask
          rw [List.getElem?_eq_none (Nat.le_refl _)] at hrequest
          cases hrequest
        · constructor
          case held_le =>
            rw [Request.held]
            split <;> exact Nat.zero_le _
          case counted =>
            intro _ _
            rw [Request.held]
            split <;> exact ⟨Nat.zero_le _, Nat.zero_le _⟩
          case refused => exact fun hexceeds => absurd hexceeds hdeclared

/-- Counting data as arrived leaves the entries of unregistered requests alone. -/
theorem entries_arrive {stream next : Stream} {length : ℕ} (htabled : Tabled limit stream)
    (hunregistered : next.rejected = false → next.task = none) :
    Indexed (Entry limit next) (arrive length stream).requests := by
  have hentries : Indexed (Entry limit next) stream.requests :=
    htabled.entries.imp fun _ _ _ hentry => hentry.unregistered fun hopen htask => by
      rw [hunregistered hopen] at htask
      cases htask
  apply hentries.modify
  intro request _ hentry
  refine ⟨hentry.held_le, ?_, hentry.refused⟩
  intro hopen htask
  rw [hunregistered hopen] at htask
  cases htask

theorem tabled_handleData {stream : Stream} (htabled : Tabled limit stream)
    (body : BodyReceived) : Tabled limit (handleData limit stream body) := by
  unfold handleData
  extract_lets counted bodyBytes
  have hlength : counted.requests.length = stream.requests.length := List.length_modify ..
  split
  case isTrue hrejected =>
    have hclosed : counted.rejected = true := hrejected
    exact ⟨htabled.bodyBytes_le, fun hopen => absurd (hclosed.symm.trans hopen) (by simp),
      entries_arrive htabled fun hopen => absurd (hclosed.symm.trans hopen) (by simp)⟩
  case isFalse hopen =>
    split
    case h_1 hnone =>
      exact ⟨htabled.bodyBytes_le, fun _ _ htask => absurd (hnone.symm.trans htask) (by simp),
        entries_arrive htabled fun _ => hnone⟩
    case h_2 index htask =>
      have hstays : stream.rejected = false := Bool.eq_false_iff.mpr hopen
      have hlast : index = stream.requests.length - 1 := by
        have hlatest := htabled.latest hstays index htask
        omega
      split
      case isTrue hover =>
        constructor
        case bodyBytes_le => exact Nat.zero_le _
        case latest => intro hrejected; cases hrejected
        case entries =>
          apply Indexed.modify
          · exact entries_arrive htabled fun hrejected => Bool.noConfusion hrejected
          · intro request _ hentry
            refine ⟨hentry.held_le, fun hrejected => Bool.noConfusion hrejected, ?_⟩
            intro hexceeds
            obtain ⟨hanswered, hrest⟩ := hentry.refused hexceeds
            refine ⟨?_, hrest⟩
            change request.answered.or (some 413) = some 413
            rw [hanswered]
            rfl
      case isFalse hfits =>
        have hwithin : bodyBytes ≤ limit := Nat.le_of_not_lt hfits
        constructor
        case bodyBytes_le => exact hwithin
        case latest =>
          intro _ other hother
          rw [List.length_modify, hlength]
          exact htabled.latest hstays other hother
        case entries =>
          subst hlast
          change Indexed _ ((stream.requests.modify _ _).modify _ _)
          rw [List.modify_modify_eq]
          intro other request hrequest
          rw [List.getElem?_modify] at hrequest
          obtain ⟨before, hbefore, rfl⟩ := Option.map_eq_some_iff.mp hrequest
          have hentry := htabled.entries other before hbefore
          split
          case isTrue hsame =>
            subst hsame
            obtain ⟨hheld, harrived⟩ := hentry.counted hstays htask
            have hmore : (delivered before.received).length +
                (bodyData (before.bodyQueue ++ [body])).length =
                  before.held + body.data.length := by
              simp [Request.held, bodyData, Nat.add_assoc]
            have hbytes : bodyBytes = stream.bodyBytes.getD 0 + body.data.length := rfl
            constructor
            case held_le =>
              change (delivered before.received).length +
                (bodyData (before.bodyQueue ++ [body])).length ≤ limit
              omega
            case counted =>
              intro _ _
              change (delivered before.received).length +
                (bodyData (before.bodyQueue ++ [body])).length ≤ bodyBytes ∧
                  before.arrived + body.data.length ≤ bodyBytes
              omega
            case refused => exact hentry.refused
          case isFalse hother =>
            apply hentry.unregistered
            intro _ hregistered
            exact hother (Option.some.inj (htask.symm.trans hregistered))

/-- Receiving moves a chunk from the queue to the application. -/
theorem Request.receive_held (request : Request) : request.receive.held = request.held := by
  unfold Request.receive
  split
  case h_1 => rfl
  case h_2 event bodyQueue hqueue =>
    simp only [Request.held, hqueue, delivered_append, delivered_singleton, List.length_append,
      bodyData, List.flatMap_cons, requestMessage, ReceiveMessage.body]
    omega

@[simp]
theorem Request.receive_arrived (request : Request) :
    request.receive.arrived = request.arrived := by
  unfold Request.receive
  split <;> rfl

@[simp]
theorem Request.receive_declared (request : Request) :
    request.receive.declared = request.declared := by
  unfold Request.receive
  split <;> rfl

@[simp]
theorem Request.receive_answered (request : Request) :
    request.receive.answered = request.answered := by
  unfold Request.receive
  split <;> rfl

/-- A running request declares no length over the limit. -/
theorem Entry.not_exceeds {stream : Stream} {index : ℕ} {request : Request}
    (hentry : Entry limit stream index request) (hrunning : request.running = true) :
    ¬ declaredExceeds limit request.declared := by
  intro hexceeds
  rw [(hentry.refused hexceeds).2.1] at hrunning
  cases hrunning

/-- A running request may be replaced by one with the same bytes. -/
theorem Tabled.replace {stream : Stream} (htabled : Tabled limit stream) {index : ℕ}
    {request : Request} (hrequest : stream.requests[index]? = some request)
    (hrunning : request.running = true) (after : Request) (hheld : after.held = request.held)
    (harrived : after.arrived = request.arrived) (hdeclared : after.declared = request.declared) :
    Tabled limit { stream with requests := stream.requests.set index after } := by
  have hentry := htabled.entries index request hrequest
  have hexceeds := hentry.not_exceeds hrunning
  constructor
  case bodyBytes_le => exact htabled.bodyBytes_le
  case latest =>
    intro hopen other hother
    rw [List.length_set]
    exact htabled.latest hopen other hother
  case entries =>
    apply Indexed.set
    · exact fun other found hfound => { htabled.entries other found hfound with }
    · constructor
      case held_le => rw [hheld]; exact hentry.held_le
      case counted => rw [hheld, harrived]; exact hentry.counted
      case refused => rw [hdeclared]; exact fun hover => absurd hover hexceeds

/-- A step keeps the tables in order. -/
theorem tabled_step {stream next : Stream} {action : Action} (htabled : Tabled limit stream)
    (hstep : step transport limit stream action = some next) : Tabled limit next := by
  cases action with
  | headers declared endStream =>
      obtain rfl := Option.some.inj hstep
      exact tabled_handleHeaders htabled declared endStream
  | data body =>
      obtain rfl := Option.some.inj hstep
      exact tabled_handleData htabled body
  | reset =>
      obtain rfl := Option.some.inj hstep
      exact htabled.removeStream
  | receive index =>
      simp only [step] at hstep
      split at hstep
      case h_1 => cases hstep
      case h_2 request hrequest =>
        obtain ⟨hready, rfl⟩ := Machine.of_guard hstep
        exact htabled.replace hrequest hready.1 _ request.receive_held request.receive_arrived
          request.receive_declared
  | respond index status =>
      simp only [step] at hstep
      split at hstep
      case h_1 => cases hstep
      case h_2 request hrequest =>
        obtain ⟨hready, rfl⟩ := Machine.of_guard hstep
        exact htabled.replace hrequest hready.1 { request with answered := some status } rfl rfl rfl
  | finish index =>
      simp only [step] at hstep
      split at hstep
      case h_1 => cases hstep
      case h_2 request hrequest =>
        obtain ⟨hrunning, rfl⟩ := Machine.of_guard hstep
        apply Tabled.removeStream
        exact htabled.replace hrequest hrunning { request with running := false } rfl rfl rfl

/-- They are in order on a fresh stream. -/
theorem tabled_init : Tabled limit {} where
  bodyBytes_le := Nat.zero_le _
  latest _ _ htask := by cases htask
  entries := Indexed.nil

/-- The tables are in order in all runs. -/
theorem tabled_of_reach {allowed : Stream → Action → Prop} {stream : Stream}
    (hreach : (machine transport limit).Reach allowed stream) : Tabled limit stream := by
  apply hreach.invariant
  · rintro stream rfl
    exact tabled_init
  · exact fun _ _ _ htabled _ hstep => tabled_step htabled hstep

/-! ## The answer to a body over the limit -/

/-- Where body data takes a request over the limit, its application has neither returned nor
begun to answer, unless the request has been refused already. -/
def answerable (limit : ℕ) (stream : Stream) : Action → Bool
  | .data body =>
      match stream.requests[stream.requests.length - 1]? with
      | none => true
      | some request =>
          request.arrived + body.data.length ≤ limit || request.answered = some 413 ||
            (!stream.rejected && stream.task.isSome && request.answered = none)
  | _ => true

/-- A body that has exceeded the limit has been answered with 413. -/
def Answered (limit : ℕ) (stream : Stream) : Prop :=
  Indexed (fun _ request => limit < request.arrived → request.answered = some 413)
    stream.requests

theorem answered_handleData {stream : Stream} (htabled : Tabled limit stream)
    (hanswered : Answered limit stream) {body : BodyReceived}
    (hallowed : answerable limit stream (.data body)) :
    Answered limit (handleData limit stream body) := by
  have hguard : ∀ request, stream.requests[stream.requests.length - 1]? = some request →
      (request.arrived + body.data.length ≤ limit ∨ request.answered = some 413) ∨
        (stream.rejected = false ∧ stream.task.isSome) ∧ request.answered = none := by
    intro request hrequest
    simpa [answerable, hrequest] using hallowed
  -- data that is ignored counts as arrived all the same
  have hignored : (stream.rejected = false → stream.task = none) →
      Answered limit (arrive body.data.length stream) := by
    intro hclosed
    apply Indexed.modify hanswered
    intro request hrequest _ hover
    obtain (hwithin | hrefused) | ⟨⟨hopen, hregistered⟩, -⟩ := hguard request hrequest
    · exact absurd hover (Nat.not_lt.mpr hwithin)
    · exact hrefused
    · rw [hclosed hopen] at hregistered
      cases hregistered
  unfold handleData
  extract_lets counted bodyBytes
  split
  case isTrue hrejected =>
    have hclosed : stream.rejected = true := hrejected
    exact hignored fun hopen => absurd (hclosed.symm.trans hopen) (by simp)
  case isFalse hopen =>
    split
    case h_1 hnone => exact hignored fun _ => hnone
    case h_2 index htask =>
      have hstays : stream.rejected = false := Bool.eq_false_iff.mpr hopen
      have hlast : index = stream.requests.length - 1 := by
        have hlatest := htabled.latest hstays index htask
        omega
      subst hlast
      split
      case isTrue hover =>
        change Indexed _ ((stream.requests.modify _ _).modify _ _)
        rw [List.modify_modify_eq]
        apply Indexed.modify hanswered
        intro request hrequest _ hmore
        change request.answered.or (some 413) = some 413
        obtain (hwithin | hrefused) | ⟨-, hnone⟩ := hguard request hrequest
        · exact absurd hmore (Nat.not_lt.mpr hwithin)
        · rw [hrefused]
          rfl
        · rw [hnone]
          rfl
      case isFalse hfits =>
        change Indexed _ ((stream.requests.modify _ _).modify _ _)
        rw [List.modify_modify_eq]
        apply Indexed.modify hanswered
        intro request hrequest _ hmore
        obtain ⟨-, harrived⟩ := (htabled.entries _ request hrequest).counted hstays htask
        have hcounted : request.arrived + body.data.length ≤ bodyBytes :=
          Nat.add_le_add_right harrived _
        change limit < request.arrived + body.data.length at hmore
        omega

theorem answered_step {stream next : Stream} {action : Action} (htabled : Tabled limit stream)
    (hanswered : Answered limit stream) (hallowed : answerable limit stream action)
    (hstep : step transport limit stream action = some next) : Answered limit next := by
  cases action with
  | headers declared endStream =>
      obtain rfl := Option.some.inj hstep
      unfold handleHeaders
      split
      case isTrue => exact hanswered
      case isFalse =>
        split
        case isTrue => exact Indexed.concat hanswered fun _ => rfl
        case isFalse => exact Indexed.concat hanswered fun hover => absurd hover (Nat.not_lt_zero _)
  | data body =>
      obtain rfl := Option.some.inj hstep
      exact answered_handleData htabled hanswered hallowed
  | reset =>
      obtain rfl := Option.some.inj hstep
      exact hanswered
  | receive index =>
      simp only [step] at hstep
      split at hstep
      case h_1 => cases hstep
      case h_2 request hrequest =>
        obtain ⟨-, rfl⟩ := Machine.of_guard hstep
        apply Indexed.set hanswered
        rw [Request.receive_arrived, Request.receive_answered]
        exact hanswered index request hrequest
  | respond index status =>
      simp only [step] at hstep
      split at hstep
      case h_1 => cases hstep
      case h_2 request hrequest =>
        obtain ⟨hready, rfl⟩ := Machine.of_guard hstep
        apply Indexed.set hanswered
        intro hover
        have hrefused := hanswered index request hrequest hover
        rw [hready.2] at hrefused
        cases hrefused
  | finish index =>
      simp only [step] at hstep
      split at hstep
      case h_1 => cases hstep
      case h_2 request hrequest =>
        obtain ⟨-, rfl⟩ := Machine.of_guard hstep
        apply Indexed.set hanswered
        exact hanswered index request hrequest

/-- The application of a request never gets more than the limit. -/
theorem delivered_le {allowed : Stream → Action → Prop} {stream : Stream}
    (hreach : (machine transport limit).Reach allowed stream) {request : Request}
    (hrequest : request ∈ stream.requests) : (delivered request.received).length ≤ limit := by
  obtain ⟨index, hindex⟩ := List.mem_iff_getElem?.mp hrequest
  have hheld := ((tabled_of_reach hreach).entries index request hindex).held_le
  rw [Request.held] at hheld
  omega

/-- A declared length over the limit is refused without an application. -/
theorem refused_of_declared {allowed : Stream → Action → Prop} {stream : Stream}
    (hreach : (machine transport limit).Reach allowed stream) {request : Request}
    (hrequest : request ∈ stream.requests)
    (hexceeds : declaredExceeds limit request.declared) :
    request.answered = some 413 ∧ request.received = [] := by
  obtain ⟨index, hindex⟩ := List.mem_iff_getElem?.mp hrequest
  have hrefused := ((tabled_of_reach hreach).entries index request hindex).refused hexceeds
  exact ⟨hrefused.1, hrefused.2.2⟩

/-- A body over the limit is refused, where the excess finds the application unanswered. -/
theorem refused_of_answerable {stream : Stream}
    (hreach : (machine transport limit).Reach (fun stream action => answerable limit stream action)
      stream) {request : Request} (hrequest : request ∈ stream.requests)
    (hover : limit < request.arrived) : request.answered = some 413 := by
  have hboth : Tabled limit stream ∧ Answered limit stream := by
    apply hreach.invariant
    · rintro stream rfl
      exact ⟨tabled_init, Indexed.nil⟩
    · rintro stream action next ⟨htabled, hanswered⟩ hallowed hstep
      exact ⟨tabled_step htabled hstep, answered_step htabled hanswered hallowed hstep⟩
  obtain ⟨index, hindex⟩ := List.mem_iff_getElem?.mp hrequest
  exact hboth.2 index request hindex hover

end Pounce.StreamBody
