/-
# The slots of the request queue

In a bounded queue every slot that is taken is held by one request in the application until it
is released, once. The depth is the number of these slots, there are never more than may be, and
a request is answered with 503 when all of them are held as it arrives.

A `SlotLedger` says this of the requests and of the history alone. `QueueSettled` adds what makes the
queue follow it: no lock is held between two turns and nobody waits, so the units of the
semaphore that are missing are those of the requests in the application.
-/

import Mathlib.Data.List.Count
import Pounce.RequestQueue

namespace Pounce

open Pounce.Asgi Pounce.Math Pounce.Math.Asyncio

/-! ## What is promised -/

/-- The request an event is about. -/
def QueueEvent.request : QueueEvent → ℕ
  | .arrived request | .acquired request | .released request | .sent request _ => request

/-- A slot is taken. -/
def QueueEvent.isAcquired : QueueEvent → Bool
  | .acquired _ => true
  | _ => false

/-- A slot is released. -/
def QueueEvent.isReleased : QueueEvent → Bool
  | .released _ => true
  | _ => false

/-- The slots that have been taken and not been released. -/
def slotsHeld (history : List QueueEvent) : ℕ :=
  history.countP (·.isAcquired) - history.countP (·.isReleased)

/-- What has been observed before a request arrived. -/
def beforeArrival (request : ℕ) (history : List QueueEvent) : List QueueEvent :=
  history.takeWhile (· ≠ .arrived request)

/-- A request is in the application, with a slot. -/
def Inside (requests : List RequestPhase) (request : ℕ) : Prop :=
  requests[request]? = some .inside

instance (requests : List RequestPhase) (request : ℕ) : Decidable (Inside requests request) :=
  inferInstanceAs (Decidable (requests[request]? = some .inside))

/-- What a bounded queue keeps to. -/
structure Bounding (config : QueueConfig) (world : QueueWorld) : Prop where
  /-- No more requests are in the application than there are slots. -/
  bounded : world.requests.count .inside ≤ config.maxDepth
  /-- A request takes a slot at most once. -/
  once : ∀ request, world.history.count (.acquired request) ≤ 1
  /-- What has been taken is released once, and held until then by a request that is in the
  application. -/
  matched : ∀ request, world.history.count (.acquired request) =
    world.history.count (.released request) + if Inside world.requests request then 1 else 0
  depth : world.queue.getDepth = slotsHeld world.history
  /-- A request is answered with 503 if all slots are held when it arrives, and only then. -/
  shed : ∀ request, .arrived request ∈ world.history →
    (.sent request overloadedStart ∈ world.history ↔
      slotsHeld (beforeArrival request world.history) = config.maxDepth)

/-! ## Ledgers -/

/-- What the requests and the history have to do with each other. -/
structure SlotLedger (maxDepth : ℕ) (requests : List RequestPhase) (history : List QueueEvent) :
    Prop where
  total : history.countP (·.isAcquired) =
    history.countP (·.isReleased) + requests.count .inside
  once : ∀ request, history.count (.acquired request) ≤ 1
  matched : ∀ request, history.count (.acquired request) =
    history.count (.released request) + if Inside requests request then 1 else 0
  named : ∀ event ∈ history, event.request < requests.length
  shed : ∀ request, .arrived request ∈ history →
    (.sent request overloadedStart ∈ history ↔
      slotsHeld (beforeArrival request history) = maxDepth)

/-- What comes later does not change what was before. -/
theorem beforeArrival_append {request : ℕ} {history : List QueueEvent}
    (harrived : .arrived request ∈ history) (later : List QueueEvent) :
    beforeArrival request (history ++ later) = beforeArrival request history := by
  rw [beforeArrival, beforeArrival, List.takeWhile_append, if_neg]
  intro hlength
  have hall := List.takeWhile_sublist (· ≠ QueueEvent.arrived request) (l := history)
    |>.eq_of_length hlength
  have hne := List.mem_takeWhile_imp (hall ▸ harrived)
  exact absurd rfl (of_decide_eq_true hne)

/-- Before a request of a new name arrives, there is everything. -/
theorem beforeArrival_new {request : ℕ} {history : List QueueEvent}
    (hnew : .arrived request ∉ history) (later : List QueueEvent) :
    beforeArrival request (history ++ .arrived request :: later) = history := by
  rw [beforeArrival, List.takeWhile_append_of_pos, List.takeWhile_cons, if_neg, List.append_nil]
  · simp
  · intro event hevent
    rw [decide_eq_true_eq]
    rintro rfl
    exact hnew hevent

/-- A request is where it was put. -/
theorem inside_append {requests : List RequestPhase} {phase : RequestPhase} {request : ℕ} :
    Inside (requests ++ [phase]) request ↔
      Inside requests request ∨ request = requests.length ∧ phase = .inside := by
  rw [Inside, Inside, List.getElem?_append]
  split
  case isTrue hlt => exact ⟨.inl, fun hor => hor.resolve_right fun hlast => by omega⟩
  case isFalse hge =>
    rw [List.getElem?_eq_none (Nat.le_of_not_lt hge), List.getElem?_singleton]
    split
    case isTrue hzero =>
      have hlast : request = requests.length := by omega
      simp [hlast]
    case isFalse hne =>
      have hlast : request ≠ requests.length := by omega
      simp [hlast]

namespace SlotLedger

variable {maxDepth : ℕ} {requests : List RequestPhase} {history : List QueueEvent}
  {request : ℕ} {phase old : RequestPhase}

/-- At the start there is nothing. -/
theorem empty : SlotLedger maxDepth [] [] := by
  constructor
  case total => rfl
  case once => exact fun _ => Nat.zero_le _
  case matched => exact fun _ => rfl
  case named => exact fun _ hnot => absurd hnot List.not_mem_nil
  case shed => exact fun _ hnot => absurd hnot List.not_mem_nil

variable (hledger : SlotLedger maxDepth requests history)
include hledger

/-- Every slot is held by a request in the application. -/
theorem slotsHeld_eq : slotsHeld history = requests.count .inside := by
  rw [slotsHeld, hledger.total, Nat.add_sub_cancel_left]

/-- The next request has not been heard of. -/
theorem fresh {event : QueueEvent} (hrequest : event.request = requests.length) :
    event ∉ history := by
  intro hevent
  have hlt := hledger.named event hevent
  omega

omit hledger in
/-- The next request is not in the application. -/
theorem not_inside_length : ¬ Inside requests requests.length := by
  rw [Inside, List.getElem?_eq_none (le_refl _)]
  exact fun hnot => (by cases hnot)

/-- A request that is not counted comes. -/
theorem direct : SlotLedger maxDepth (requests ++ [.direct]) history := by
  constructor
  case total => simpa [List.count_append] using hledger.total
  case once => exact hledger.once
  case matched =>
    intro request
    have hsame : Inside (requests ++ [.direct]) request ↔ Inside requests request := by
      simp [inside_append]
    simp only [hsame]
    exact hledger.matched request
  case named =>
    intro event hevent
    rw [List.length_append]
    exact Nat.lt_add_right _ (hledger.named event hevent)
  case shed => exact hledger.shed

/-- The verdict on earlier requests stands, and that on a new one is as it should be. -/
theorem shed_arrived {event : QueueEvent} (hrequest : event.request = requests.length)
    (hverdict : event = .sent requests.length overloadedStart ↔
      slotsHeld history = maxDepth) (request : ℕ)
    (harrived : .arrived request ∈ history ++ [.arrived requests.length, event])
    (hevent : event ≠ .arrived request) :
    (.sent request overloadedStart ∈ history ++ [.arrived requests.length, event] ↔
      slotsHeld (beforeArrival request (history ++ [.arrived requests.length, event])) =
        maxDepth) := by
  simp only [List.mem_append, List.mem_cons, List.not_mem_nil, or_false, QueueEvent.arrived.injEq,
    hevent.symm, reduceCtorEq, false_or] at harrived ⊢
  rcases harrived with hold | hnew
  · have hlt := hledger.named _ hold
    rw [beforeArrival_append hold, ← hledger.shed request hold]
    refine ⟨fun hor => hor.resolve_right ?_, .inl⟩
    intro heq
    rw [← heq] at hrequest
    exact absurd hrequest (Nat.ne_of_lt hlt)
  · rw [hnew, beforeArrival_new (hledger.fresh rfl), ← hverdict, eq_comm (a := event)]
    exact ⟨fun hor => hor.resolve_left (hledger.fresh rfl), .inr⟩

/-- The names stay names when a request comes. -/
theorem named_arrived {event : QueueEvent} (hrequest : event.request = requests.length) :
    ∀ found ∈ history ++ [.arrived requests.length, event],
      found.request < (requests ++ [phase]).length := by
  intro found hfound
  rw [List.length_append, List.length_singleton, Nat.lt_succ_iff]
  rcases List.mem_append.mp hfound with hold | hnew
  · exact (hledger.named found hold).le
  · rcases List.mem_pair.mp hnew with rfl | rfl
    · exact le_refl _
    · exact hrequest.le

/-- A request comes and takes a slot. -/
theorem take (hroom : slotsHeld history ≠ maxDepth) :
    SlotLedger maxDepth (requests ++ [.inside])
      (history ++ [.arrived requests.length, .acquired requests.length]) := by
  constructor
  case total =>
    rw [List.countP_append, List.countP_append, hledger.total, List.count_append,
      List.count_singleton_self]
    exact Nat.add_assoc ..
  case once =>
    intro request
    rw [List.count_append]
    by_cases hnew : request = requests.length
    · rw [hnew, List.count_eq_zero_of_not_mem (hledger.fresh rfl)]
      simp
    · have hzero : List.count (QueueEvent.acquired request)
          [.arrived requests.length, .acquired requests.length] = 0 := by
        simp [Ne.symm hnew]
      rw [hzero]
      exact hledger.once request
  case matched =>
    intro request
    have hmatched := hledger.matched request
    by_cases hnew : request = requests.length
    · have hinside : Inside (requests ++ [.inside]) request := inside_append.mpr (.inr ⟨hnew, rfl⟩)
      have hout : ¬ Inside requests request := hnew ▸ not_inside_length
      rw [if_neg hout] at hmatched
      rw [if_pos hinside, List.count_append, List.count_append, hmatched, hnew]
      simp
    · have hsame : Inside (requests ++ [.inside]) request ↔ Inside requests request := by
        simp [inside_append, hnew]
      simp only [hsame]
      simp [List.count_append, Ne.symm hnew, hmatched]
  case named => exact hledger.named_arrived rfl
  case shed =>
    intro request harrived
    refine hledger.shed_arrived rfl ?_ request harrived (fun hnot => (by cases hnot))
    exact ⟨fun hnot => (by cases hnot), fun hfull => absurd hfull hroom⟩

/-- A request comes and is answered with 503. -/
theorem reject (hfull : slotsHeld history = maxDepth) :
    SlotLedger maxDepth (requests ++ [.sendingStart])
      (history ++ [.arrived requests.length, .sent requests.length overloadedStart]) := by
  constructor
  case total =>
    rw [List.countP_append, List.countP_append, hledger.total, List.count_append]
    rfl
  case once =>
    intro request
    simpa [List.count_append, List.count_cons] using hledger.once request
  case matched =>
    intro request
    have hsame : Inside (requests ++ [.sendingStart]) request ↔ Inside requests request := by
      simp [inside_append]
    simp only [hsame]
    simpa [List.count_append, List.count_cons] using hledger.matched request
  case named => exact hledger.named_arrived rfl
  case shed =>
    intro request harrived
    refine hledger.shed_arrived rfl ?_ request harrived (fun hnot => (by cases hnot))
    exact ⟨fun _ => hfull, fun _ => rfl⟩

/-- An event that is neither an arrival nor the start of an answer leaves the verdicts. -/
theorem shed_later {event : QueueEvent} (harrival : ∀ request, event ≠ .arrived request)
    (hstart : ∀ request, event ≠ .sent request overloadedStart) (request : ℕ)
    (harrived : .arrived request ∈ history ++ [event]) :
    (.sent request overloadedStart ∈ history ++ [event] ↔
      slotsHeld (beforeArrival request (history ++ [event])) = maxDepth) := by
  have hold : .arrived request ∈ history := by
    simpa [(harrival request).symm] using harrived
  rw [beforeArrival_append hold, ← hledger.shed request hold]
  simp [(hstart request).symm]

/-- A request in the application releases its slot. -/
theorem release (hinside : Inside requests request) :
    SlotLedger maxDepth (requests.set request .ended) (history ++ [.released request]) := by
  obtain ⟨hlt, hat⟩ := List.getElem?_eq_some_iff.mp hinside
  have hpos : 0 < requests.count .inside := List.count_pos_iff.mpr (hat ▸ List.getElem_mem hlt)
  constructor
  case total =>
    have htotal := hledger.total
    have hcount : (requests.set request .ended).count .inside = requests.count .inside - 1 := by
      rw [List.count_set hlt, hat]
      simp
    have hone : List.countP (·.isReleased) [QueueEvent.released request] = 1 := rfl
    rw [List.countP_append, List.countP_append, hone, hcount]
    exact htotal.trans (by omega)
  case once =>
    intro other
    simpa [List.count_append, List.count_cons] using hledger.once other
  case matched =>
    intro other
    have hmatched := hledger.matched other
    by_cases hsame : other = request
    · subst hsame
      have hout : ¬ Inside (requests.set other .ended) other := by
        rw [Inside, List.getElem?_set_self hlt]
        exact fun hnot => (by cases hnot)
      rw [if_pos hinside] at hmatched
      rw [if_neg hout]
      simp [List.count_append, hmatched]
    · have hstays : Inside (requests.set request .ended) other ↔ Inside requests other := by
        rw [Inside, List.getElem?_set_ne (Ne.symm hsame), Inside]
      simp only [hstays]
      simpa [List.count_append, List.count_cons, Ne.symm hsame] using hmatched
  case named =>
    intro event hevent
    rw [List.length_set]
    rcases List.mem_append.mp hevent with hold | hnew
    · exact hledger.named event hold
    · rw [List.mem_singleton.mp hnew]
      exact hlt
  case shed =>
    exact hledger.shed_later (fun _ hnot => (by cases hnot)) (fun _ hnot => (by cases hnot))

/-- A request goes on outside the application. -/
theorem move (hold : requests[request]? = some old) (hout : old ≠ .inside)
    (hphase : phase ≠ .inside) : SlotLedger maxDepth (requests.set request phase) history := by
  obtain ⟨hlt, hat⟩ := List.getElem?_eq_some_iff.mp hold
  constructor
  case total =>
    rw [List.count_set hlt, hat, beq_eq_false_iff_ne.mpr hout, beq_eq_false_iff_ne.mpr hphase]
    exact hledger.total
  case once => exact hledger.once
  case matched =>
    intro other
    have hstays : Inside (requests.set request phase) other ↔ Inside requests other := by
      rw [Inside, Inside, List.getElem?_set]
      split
      case isTrue hsame =>
        subst hsame
        rw [hold]
        simp [hout, hphase]
      case isFalse => exact Iff.rfl
    simp only [hstays]
    exact hledger.matched other
  case named =>
    intro event hevent
    rw [List.length_set]
    exact hledger.named event hevent
  case shed => exact hledger.shed

/-- The body of an answer is sent. -/
theorem body (hlt : request < requests.length) :
    SlotLedger maxDepth requests (history ++ [.sent request overloadedBody]) := by
  constructor
  case total =>
    rw [List.countP_append, List.countP_append, hledger.total]
    rfl
  case once =>
    intro other
    simpa [List.count_append, List.count_cons] using hledger.once other
  case matched =>
    intro other
    simpa [List.count_append, List.count_cons] using hledger.matched other
  case named =>
    intro event hevent
    rcases List.mem_append.mp hevent with hold | hnew
    · exact hledger.named event hold
    · rw [List.mem_singleton.mp hnew]
      exact hlt
  case shed =>
    apply hledger.shed_later (fun _ hnot => (by cases hnot))
    intro other hsent
    injection hsent with _ hmessage
    rw [overloadedBody, overloadedStart] at hmessage
    cases hmessage

end SlotLedger

/-! ## The queue follows the ledger -/

/-- The request waits in a queue of waiters. -/
def RequestPhase.waits : RequestPhase → Bool
  | .acquiring _ | .counting _ | .recordingQueued _ | .recordingRejected _ => true
  | _ => false

/-- Between two turns of a bounded queue nobody waits for it, and nothing is locked. -/
structure QueueSettled (maxDepth : ℕ) (world : QueueWorld) : Prop where
  ledger : SlotLedger maxDepth world.requests world.history
  nobody : world.queue.semaphore.waiters = []
  unlocked : world.queue.queueDepthLock = {}
  unlockedMetrics : world.metrics.lock = {}
  placed : ∀ phase ∈ world.requests, phase.waits = false
  slots : world.queue.semaphore.value + world.requests.count .inside = maxDepth
  depth : world.queue.queueDepth = world.requests.count .inside

namespace QueueWorld

variable {config : QueueConfig} {world next : QueueWorld} {request : ℕ}

/-- Putting the last request somewhere. -/
theorem set_last {requests : List RequestPhase} {old phase : RequestPhase} :
    (requests ++ [old]).set requests.length phase = requests ++ [phase] := by
  rw [List.set_append_right _ _ (le_refl _), Nat.sub_self, List.set_cons_zero]

variable (config world request) in
/-- With the locks free a slot that is there is taken, and the application entered. -/
theorem take_free (hvalue : world.queue.semaphore.locked = false)
    (hlock : world.queue.queueDepthLock = {}) (hmetrics : world.metrics.lock = {}) :
    ∃ metrics : QueueMetrics, metrics.lock = {} ∧ world.take config request =
      { world with
        queue := { world.queue with
          semaphore := { world.queue.semaphore with value := world.queue.semaphore.value - 1 }
          queueDepth := world.queue.queueDepth + 1 }
        metrics
        requests := world.requests.set request .inside
        history := world.history ++ [.acquired request] } := by
  have hacquire := Semaphore.acquire_of_not_locked _ (Bool.eq_false_iff.mp hvalue)
  rw [take, hacquire]
  simp only [count, hlock, Lock.acquire_free, counted, recordQueued, observe, hmetrics, queued,
    Lock.release_held, enter, goTo]
  split
  · exact ⟨_, rfl, rfl⟩
  · exact ⟨world.metrics, hmetrics, rfl⟩

variable (config world request) in
/-- With the lock free a request that is rejected is answered. -/
theorem recordRejected_free (hmetrics : world.metrics.lock = {}) :
    ∃ metrics : QueueMetrics, metrics.lock = {} ∧ world.recordRejected config request =
      { world with
        metrics
        requests := world.requests.set request .sendingStart
        history := world.history ++ [.sent request overloadedStart] } := by
  simp only [recordRejected, hmetrics, Lock.acquire_free, rejected, Lock.release_held, answer,
    observe, goTo]
  split
  · exact ⟨_, rfl, rfl⟩
  · exact ⟨world.metrics, hmetrics, rfl⟩

/-- A request that comes when the queue is full is answered. -/
theorem arrive_full (hpos : 0 < config.maxDepth) (hfull : world.queue.semaphore.locked = true)
    (hmetrics : world.metrics.lock = {}) :
    ∃ metrics : QueueMetrics, metrics.lock = {} ∧ world.arrive config true =
      { world with
        metrics
        requests := world.requests ++ [.sendingStart]
        history := world.history ++
          [.arrived world.requests.length, .sent world.requests.length overloadedStart] } := by
  obtain ⟨metrics, hfree, hanswered⟩ := recordRejected_free config
    { world with
      requests := world.requests ++ [.direct]
      history := world.history ++ [.arrived world.requests.length] }
    world.requests.length hmetrics
  refine ⟨metrics, hfree, ?_⟩
  rw [arrive, if_pos rfl, acquire, if_neg hpos.ne', observe, if_pos hfull, hanswered, set_last,
    List.append_assoc, List.singleton_append]

/-- A request that comes when there is room takes a slot. -/
theorem arrive_room (hpos : 0 < config.maxDepth) (hroom : world.queue.semaphore.locked = false)
    (hlock : world.queue.queueDepthLock = {}) (hmetrics : world.metrics.lock = {}) :
    ∃ metrics : QueueMetrics, metrics.lock = {} ∧ world.arrive config true =
      { world with
        queue := { world.queue with
          semaphore := { world.queue.semaphore with value := world.queue.semaphore.value - 1 }
          queueDepth := world.queue.queueDepth + 1 }
        metrics
        requests := world.requests ++ [.inside]
        history := world.history ++
          [.arrived world.requests.length, .acquired world.requests.length] } := by
  obtain ⟨metrics, hfree, htaken⟩ := take_free config
    { world with
      requests := world.requests ++ [.direct]
      history := world.history ++ [.arrived world.requests.length] }
    world.requests.length hroom hlock hmetrics
  refine ⟨metrics, hfree, ?_⟩
  rw [arrive, if_pos rfl, acquire, if_neg hpos.ne', observe, if_neg (Bool.eq_false_iff.mp hroom),
    htaken, set_last, List.append_assoc, List.singleton_append]

end QueueWorld

namespace QueueSettled

variable {config : QueueConfig} {maxDepth : ℕ} {world next : QueueWorld} {request : ℕ}
  {phase : RequestPhase}

/-- A new wrapper. -/
theorem create (hpos : 0 < config.maxDepth) :
    QueueSettled config.maxDepth { queue := .create config.maxDepth } := by
  constructor
  case ledger => exact .empty
  case slots => exact if_pos hpos
  case placed => exact fun _ hnot => absurd hnot List.not_mem_nil
  all_goals rfl

/-- Where a request is put is a place that is fine. -/
theorem placed_append {requests : List RequestPhase}
    (hplaced : ∀ phase ∈ requests, phase.waits = false) (hphase : phase.waits = false) :
    ∀ found ∈ requests ++ [phase], found.waits = false := by
  intro found hfound
  rcases List.mem_append.mp hfound with hold | hnew
  · exact hplaced found hold
  · rw [List.mem_singleton.mp hnew]
    exact hphase

/-- So it is for one that goes on. -/
theorem placed_set {requests : List RequestPhase}
    (hplaced : ∀ phase ∈ requests, phase.waits = false) (hphase : phase.waits = false) :
    ∀ found ∈ requests.set request phase, found.waits = false := by
  intro found hfound
  rcases List.mem_or_eq_of_mem_set hfound with hold | rfl
  · exact hplaced found hold
  · exact hphase

/-- All slots are held when there is no unit left. -/
theorem full_iff (hsettled : QueueSettled maxDepth world) :
    world.queue.semaphore.locked = true ↔ slotsHeld world.history = maxDepth := by
  have hslots := hsettled.slots
  rw [Semaphore.locked_iff _ hsettled.nobody, hsettled.ledger.slotsHeld_eq]
  omega

/-- A request comes. -/
theorem arrive (hsettled : QueueSettled config.maxDepth world) (hpos : 0 < config.maxDepth)
    (http : Bool) : QueueSettled config.maxDepth (world.arrive config http) := by
  have hslots := hsettled.slots
  have hdepth := hsettled.depth
  have hcount {phase : RequestPhase} (hphase : phase ≠ .inside) :
      (world.requests ++ [phase]).count .inside = world.requests.count .inside := by
    rw [List.count_append, List.count_singleton, beq_eq_false_iff_ne.mpr hphase]
    rfl
  cases http with
  | false =>
      constructor
      case ledger => exact hsettled.ledger.direct
      case nobody => exact hsettled.nobody
      case unlocked => exact hsettled.unlocked
      case unlockedMetrics => exact hsettled.unlockedMetrics
      case placed => exact placed_append hsettled.placed rfl
      case slots => exact (congrArg _ (hcount (fun hnot => (by cases hnot)))).trans hslots
      case depth => exact hdepth.trans (hcount (fun hnot => (by cases hnot))).symm
  | true =>
      by_cases hfull : world.queue.semaphore.locked = true
      · obtain ⟨metrics, hmetrics, harrive⟩ :=
          QueueWorld.arrive_full hpos hfull hsettled.unlockedMetrics
        rw [harrive]
        constructor
        case ledger => exact hsettled.ledger.reject (hsettled.full_iff.mp hfull)
        case nobody => exact hsettled.nobody
        case unlocked => exact hsettled.unlocked
        case unlockedMetrics => exact hmetrics
        case placed => exact placed_append hsettled.placed rfl
        case slots => exact (congrArg _ (hcount (fun hnot => (by cases hnot)))).trans hslots
        case depth => exact hdepth.trans (hcount (fun hnot => (by cases hnot))).symm
      · obtain ⟨metrics, hmetrics, harrive⟩ := QueueWorld.arrive_room hpos
          (Bool.eq_false_iff.mpr hfull) hsettled.unlocked hsettled.unlockedMetrics
        have hvalue : world.queue.semaphore.value ≠ 0 := by
          rwa [Ne, ← Semaphore.locked_iff _ hsettled.nobody]
        have hgrown : (world.requests ++ [RequestPhase.inside]).count .inside =
            world.requests.count .inside + 1 := by
          rw [List.count_append, List.count_singleton_self]
        rw [harrive]
        constructor
        case ledger =>
          exact hsettled.ledger.take fun hheld => hfull (hsettled.full_iff.mpr hheld)
        case nobody => exact hsettled.nobody
        case unlocked => exact hsettled.unlocked
        case unlockedMetrics => exact hmetrics
        case placed => exact placed_append hsettled.placed rfl
        case slots =>
          rw [hgrown]
          show world.queue.semaphore.value - 1 + _ = _
          omega
        case depth =>
          rw [hgrown, ← hdepth]

/-- A request goes on outside the application. -/
theorem move (hsettled : QueueSettled maxDepth world) {old : RequestPhase}
    (hold : world.requests[request]? = some old) (hout : old ≠ .inside)
    (hphase : phase ≠ .inside) (hplace : phase.waits = false) :
    QueueSettled maxDepth (world.goTo request phase) := by
  obtain ⟨hlt, hat⟩ := List.getElem?_eq_some_iff.mp hold
  have hcount : (world.requests.set request phase).count .inside =
      world.requests.count .inside := by
    rw [List.count_set hlt, hat, beq_eq_false_iff_ne.mpr hout, beq_eq_false_iff_ne.mpr hphase]
    rfl
  constructor
  case ledger => exact hsettled.ledger.move hold hout hphase
  case nobody => exact hsettled.nobody
  case unlocked => exact hsettled.unlocked
  case unlockedMetrics => exact hsettled.unlockedMetrics
  case placed => exact placed_set hsettled.placed hplace
  case slots => exact (congrArg _ hcount).trans hsettled.slots
  case depth => exact hsettled.depth.trans hcount.symm

/-- A request leaves the application. -/
theorem release (hsettled : QueueSettled maxDepth world)
    (hinside : world.requests[request]? = some .inside) :
    QueueSettled maxDepth (world.release request) := by
  obtain ⟨hlt, hat⟩ := List.getElem?_eq_some_iff.mp hinside
  have hslots := hsettled.slots
  have hdepth := hsettled.depth
  have hpos : 0 < world.requests.count .inside :=
    List.count_pos_iff.mpr (hat ▸ List.getElem_mem hlt)
  have hcount : (world.requests.set request .ended).count .inside =
      world.requests.count .inside - 1 := by
    rw [List.count_set hlt, hat]
    rfl
  have hreleased := Semaphore.release_of_no_waiters _ hsettled.nobody
  constructor
  case ledger => exact hsettled.ledger.release hinside
  case nobody => exact (congrArg Semaphore.waiters hreleased).trans hsettled.nobody
  case unlocked => exact hsettled.unlocked
  case unlockedMetrics => exact hsettled.unlockedMetrics
  case placed => exact placed_set hsettled.placed rfl
  case slots =>
    show world.queue.semaphore.release.value + (world.requests.set request .ended).count .inside = _
    rw [hreleased, hcount]
    show world.queue.semaphore.value + 1 + _ = _
    omega
  case depth =>
    show world.queue.queueDepth - 1 = (world.requests.set request .ended).count .inside
    rw [hcount, hdepth]

/-- The body of an answer is sent. -/
theorem body (hsettled : QueueSettled maxDepth world)
    (hstart : world.requests[request]? = some .sendingStart) :
    QueueSettled maxDepth
      ((world.observe (.sent request overloadedBody)).goTo request .sendingBody) := by
  obtain ⟨hlt, -⟩ := List.getElem?_eq_some_iff.mp hstart
  have hsent : QueueSettled maxDepth (world.observe (.sent request overloadedBody)) :=
    { hsettled with ledger := hsettled.ledger.body hlt }
  exact hsent.move hstart (fun hnot => (by cases hnot)) (fun hnot => (by cases hnot)) rfl

/-- Every turn keeps the queue settled. -/
theorem step (hsettled : QueueSettled config.maxDepth world) (hpos : 0 < config.maxDepth)
    {action : QueueAction} (hstep : world.step config action = some next) :
    QueueSettled config.maxDepth next := by
  have hplace (request : ℕ) (phase : RequestPhase) (hphase : world.requests[request]? = some phase) :
      phase.waits = false := by
    obtain ⟨hlt, rfl⟩ := List.getElem?_eq_some_iff.mp hphase
    exact hsettled.placed _ (List.getElem_mem hlt)
  cases action with
  | arrive http =>
      obtain rfl := Option.some.inj hstep
      exact hsettled.arrive hpos http
  | proceed request =>
      rw [QueueWorld.step, QueueWorld.proceed] at hstep
      split at hstep
      case h_5 => cases hstep
      -- Nobody waits, so nobody can go on.
      all_goals
        rename_i hphase
        cases hplace request _ hphase
  | finish request raised =>
      rw [QueueWorld.step, QueueWorld.finish] at hstep
      split at hstep
      case h_1 hphase =>
        obtain rfl := Option.some.inj hstep
        exact hsettled.release hphase
      case h_2 hphase =>
        obtain rfl := Option.some.inj hstep
        exact hsettled.move hphase (fun hnot => (by cases hnot)) (fun hnot => (by cases hnot)) rfl
      case h_3 hphase =>
        obtain rfl := Option.some.inj hstep
        split
        · exact hsettled.move hphase (fun hnot => (by cases hnot)) (fun hnot => (by cases hnot)) rfl
        · exact hsettled.body hphase
      case h_4 hphase =>
        obtain rfl := Option.some.inj hstep
        exact hsettled.move hphase (fun hnot => (by cases hnot)) (fun hnot => (by cases hnot)) rfl
      case h_5 => cases hstep
  | cancel request =>
      rw [QueueWorld.step, QueueWorld.cancel] at hstep
      split at hstep
      case h_5 => cases hstep
      all_goals
        rename_i hphase
        cases hplace request _ hphase

/-- A settled queue keeps its promises. -/
theorem bounding (hsettled : QueueSettled config.maxDepth world) : Bounding config world := by
  have hslots := hsettled.slots
  constructor
  case bounded => omega
  case once => exact hsettled.ledger.once
  case matched => exact hsettled.ledger.matched
  case depth => exact hsettled.depth.trans hsettled.ledger.slotsHeld_eq.symm
  case shed => exact hsettled.ledger.shed

end QueueSettled

/-! ## All runs -/

/-- Two requests for one slot. The second is answered, the first raises, and a third comes. -/
def overloaded : List QueueAction :=
  [.arrive true, .arrive true, .finish 1 false, .finish 0 true, .finish 1 false, .arrive true]

end Pounce
