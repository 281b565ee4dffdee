/-
# No connection is lost

Every connection that the distributor accepts is in one place until it is handled or answered:
that is so in every run. What depends on the order of the steps is that a worker comes to look for
what is in a queue. A worker leaves when it finds the queue empty, whatever the distributor is
about to put into it, so a connection is stranded when the last one leaves in between.

In runs where that does not happen, a queue is attended as long as there is something in it or may
be put into it. After a reload the old workers leave without looking; but as long as the event is
not set, some worker that was not told to drain has not left.
-/

import Pounce.AcceptDistributor

namespace Pounce.AcceptDistribution

open Pounce.Math

/-! ## Where the connections are -/

/-- What is counted in a list changes with the item that is replaced. -/
theorem count_flatMap_set {α β : Type*} [DecidableEq β] {items : List α} {f : α → List β}
    {index : ℕ} {old : α} (hold : items[index]? = some old) (new : α) (b : β) :
    ((items.set index new).flatMap f).count b + (f old).count b =
      (items.flatMap f).count b + (f new).count b := by
  induction items generalizing index with
  | nil => cases hold
  | cons item items ih =>
      cases index with
      | zero =>
          obtain rfl := Option.some.inj hold
          simp only [List.set_cons_zero, List.flatMap_cons, List.count_append]
          omega
      | succ index =>
          have hrest := ih hold
          simp only [List.set_cons_succ, List.flatMap_cons, List.count_append]
          omega

/-- A change that moves nothing moves nothing. -/
theorem flatMap_modify {α β : Type*} {items : List α} {f : α → List β} {g : α → α}
    (hsame : ∀ item, f (g item) = f item) (index : ℕ) :
    (items.modify index g).flatMap f = items.flatMap f := by
  induction items generalizing index with
  | nil => rw [List.modify_nil]
  | cons item items ih =>
      cases index with
      | zero =>
          show f (g item) ++ items.flatMap f = _
          rw [hsame, List.flatMap_cons]
      | succ index =>
          show f item ++ (items.modify index g).flatMap f = _
          rw [ih, List.flatMap_cons]

namespace SharedAccept

variable {effectiveWorkers : ℕ} {state next : SharedAccept}

variable (state) in
/-- Every connection that was accepted is in one place. -/
def Exact : Prop :=
  ∀ conn, state.placed.count conn = (List.range state.accepted).count conn

theorem count_placed (conn : ℕ) : state.placed.count conn =
    (state.distributors.flatMap fun distributor => distributor.hand ++ distributor.queue).count
      conn + (state.workers.flatMap (·.hand)).count conn +
        (state.handled.map (·.1)).count conn + state.refused.count conn := by
  simp only [placed, List.count_append]

/-- What a distributor has got or lost is got or lost. -/
theorem count_putDistributor {infra : ℕ} {distributor : Distributor}
    (hdistributor : state.distributors[infra]? = some distributor) (changed : Distributor)
    (conn : ℕ) :
    (state.putDistributor infra changed).placed.count conn +
        (distributor.hand.count conn + distributor.queue.count conn) =
      state.placed.count conn + (changed.hand.count conn + changed.queue.count conn) := by
  have hcount := count_flatMap_set (f := fun distributor => distributor.hand ++ distributor.queue)
    hdistributor changed conn
  simp only [List.count_append] at hcount
  simp only [count_placed, putDistributor]
  omega

/-- A connection leaves a queue. -/
theorem count_pop {infra taken : ℕ} {distributor : Distributor} {rest : List ℕ}
    (hdistributor : state.distributors[infra]? = some distributor)
    (hqueue : distributor.queue = taken :: rest) (conn : ℕ) :
    (state.putDistributor infra { distributor with queue := rest }).placed.count conn +
      [taken].count conn = state.placed.count conn := by
  have hmoved := count_putDistributor hdistributor { distributor with queue := rest } conn
  have hcons : distributor.queue.count conn = [taken].count conn + rest.count conn := by
    rw [hqueue, ← List.singleton_append, List.count_append]
  change _ + (distributor.hand.count conn + _) = _ + (distributor.hand.count conn +
    rest.count conn) at hmoved
  omega

/-- What a worker has got or lost is got or lost. -/
theorem count_putWorker {index : ℕ} {worker : QueueWorker}
    (hworker : state.workers[index]? = some worker) (changed : QueueWorker) (conn : ℕ) :
    (state.putWorker index changed).placed.count conn + worker.hand.count conn =
      state.placed.count conn + changed.hand.count conn := by
  have hcount := count_flatMap_set (f := fun worker => worker.hand) hworker changed conn
  simp only [count_placed, putWorker]
  omega

/-- To tell a worker something moves no connection. -/
theorem placed_tell (index : ℕ) : (state.tell index).placed = state.placed := by
  have hworkers : (state.tell index).workers.flatMap (·.hand) =
      state.workers.flatMap (·.hand) :=
    flatMap_modify (g := fun worker : QueueWorker => { worker with told := true }) (fun _ => rfl) index
  rw [placed, hworkers]
  rfl

/-- Neither does to tell a distributor. -/
theorem placed_close (infra : ℕ) : (state.close infra).placed = state.placed := by
  have hdistributors : (state.close infra).distributors.flatMap
      (fun distributor => distributor.hand ++ distributor.queue) =
        state.distributors.flatMap fun distributor => distributor.hand ++ distributor.queue :=
    flatMap_modify (g := fun distributor : Distributor => { distributor with drain := true })
      (fun _ => rfl) infra
  rw [placed, hdistributors]
  rfl

/-- A new worker has no connection. -/
theorem count_hire {handles : List ℕ} {control : ControlPhase} (conn : ℕ) :
    ({ state with workers := state.workers ++ [state.fresh], handles, control } :
      SharedAccept).placed.count conn = state.placed.count conn := by
  simp only [count_placed, List.flatMap_append, List.count_append]
  rfl

variable (state) in
/-- A connection is answered with 503. -/
theorem count_refuse (refused conn : ℕ) :
    ({ state with refused := state.refused ++ [refused] } : SharedAccept).placed.count conn =
      state.placed.count conn + [refused].count conn := by
  simp only [count_placed, List.count_append]
  omega

variable (state) in
/-- A connection was handled. -/
theorem count_handle (handled index conn : ℕ) :
    ({ state with handled := state.handled ++ [(handled, index)] } :
      SharedAccept).placed.count conn = state.placed.count conn + [handled].count conn := by
  simp only [count_placed, List.map_append, List.count_append, List.map_cons, List.map_nil]
  omega

/-- A distributor keeps what it has. -/
theorem Exact.putDistributor (hexact : state.Exact) {infra : ℕ}
    {distributor changed : Distributor}
    (hdistributor : state.distributors[infra]? = some distributor)
    (hkept : ∀ conn, changed.hand.count conn + changed.queue.count conn =
      distributor.hand.count conn + distributor.queue.count conn) :
    (state.putDistributor infra changed).Exact := by
  intro conn
  have hbefore := hexact conn
  have hmoved := count_putDistributor hdistributor changed conn
  have hsame := hkept conn
  show _ = (List.range state.accepted).count conn
  omega

/-- A worker keeps what it has. -/
theorem Exact.putWorker (hexact : state.Exact) {index : ℕ} {worker changed : QueueWorker}
    (hworker : state.workers[index]? = some worker) (hkept : changed.hand = worker.hand) :
    (state.putWorker index changed).Exact := by
  intro conn
  have hbefore := hexact conn
  have hmoved := count_putWorker hworker changed conn
  rw [hkept] at hmoved
  show _ = (List.range state.accepted).count conn
  omega

/-- A worker takes a connection from its queue. -/
theorem Exact.hand (hexact : state.Exact) {index conn : ℕ} {worker changed : QueueWorker}
    {distributor : Distributor} {rest : List ℕ} (hworker : state.workers[index]? = some worker)
    (hdistributor : state.distributors[worker.infra]? = some distributor)
    (hqueue : distributor.queue = conn :: rest) (hbefore : worker.hand = [])
    (hafter : changed.hand = [conn]) :
    ((state.putDistributor worker.infra { distributor with queue := rest }).putWorker index
      changed).Exact := by
  intro other
  have hexact := hexact other
  have hleft := count_pop hdistributor hqueue other
  have hright := count_putWorker
    (show (state.putDistributor worker.infra { distributor with queue := rest }).workers[index]? =
      some worker from hworker) changed other
  rw [hbefore, hafter, List.count_nil] at hright
  show _ = (List.range state.accepted).count other
  omega

/-- A worker is done with a connection. -/
theorem Exact.done (hexact : state.Exact) {index conn : ℕ} {worker changed : QueueWorker}
    (hworker : state.workers[index]? = some worker) (hbefore : worker.hand = [conn])
    (hafter : changed.hand = []) :
    ({ state.putWorker index changed with handled := state.handled ++ [(conn, index)] } :
      SharedAccept).Exact := by
  intro other
  have hexact := hexact other
  have hmoved := count_putWorker hworker changed other
  rw [hbefore, hafter, List.count_nil] at hmoved
  apply (count_handle (state.putWorker index changed) conn index other).trans
  show _ = (List.range state.accepted).count other
  omega

/-- What a distributor does keeps every connection in one place. -/
theorem Exact.distribute (hexact : state.Exact) {infra : ℕ} {distributor : Distributor}
    {action : DistributorAction} (hdistributor : state.distributors[infra]? = some distributor)
    (hstep : state.distribute infra distributor action = some next) : next.Exact := by
  cases action with
  | look =>
      obtain ⟨hphase, rfl⟩ := Machine.of_guard hstep
      apply hexact.putDistributor hdistributor
      intro conn
      have hhand : distributor.hand = [] := by rw [Distributor.hand, hphase]
      rw [hhand]
      cases state.shutdown <;> rfl
  | accept =>
      obtain ⟨hphase, rfl⟩ := Machine.of_guard hstep
      intro conn
      have hbefore := hexact conn
      have hmoved := count_putDistributor hdistributor
        { distributor with phase := .greeted state.accepted } conn
      have hhand : distributor.hand = [] := by rw [Distributor.hand, hphase]
      rw [hhand] at hmoved
      show (state.putDistributor infra _).placed.count conn =
        (List.range (state.accepted + 1)).count conn
      rw [List.range_succ, List.count_append]
      simp only [Distributor.hand, List.count_nil] at hmoved
      omega
  | skip =>
      obtain ⟨hphase, rfl⟩ := Machine.of_guard hstep
      apply hexact.putDistributor hdistributor
      intro conn
      rw [Distributor.hand, Distributor.hand, hphase]
  | fail =>
      obtain ⟨hphase, rfl⟩ := Machine.of_guard hstep
      apply hexact.putDistributor hdistributor
      intro conn
      rw [Distributor.hand, Distributor.hand, hphase]
  | goOn =>
      rw [SharedAccept.distribute] at hstep
      split at hstep
      case h_1 accepted hphase =>
        have hhand : distributor.hand = [accepted] := by rw [Distributor.hand, hphase]
        split at hstep
        case isTrue =>
          cases hstep
          intro conn
          have hbefore := hexact conn
          have hmoved := count_putDistributor hdistributor
            { distributor with phase := .looking } conn
          rw [hhand] at hmoved
          simp only [Distributor.hand, List.count_nil] at hmoved
          apply (count_refuse (state.putDistributor infra _) accepted conn).trans
          show _ = (List.range state.accepted).count conn
          omega
        case isFalse =>
          cases hstep
          apply hexact.putDistributor hdistributor
          intro conn
          rw [hhand]
          rfl
      case h_2 accepted hphase =>
        have hhand : distributor.hand = [accepted] := by rw [Distributor.hand, hphase]
        cases hstep
        apply hexact.putDistributor hdistributor
        intro conn
        rw [hhand]
        simp only [Distributor.hand, List.count_append, List.count_nil]
        omega
      case h_3 => cases hstep

/-- What a worker does keeps every connection in one place. -/
theorem Exact.work (hexact : state.Exact) {index : ℕ} {worker : QueueWorker}
    {distributor : Distributor} {action : WorkerAction}
    (hworker : state.workers[index]? = some worker)
    (hdistributor : state.distributors[worker.infra]? = some distributor)
    (hstep : state.work index worker distributor action = some next) : next.Exact := by
  have hkeeps {phase : WorkerPhase} (hbefore : worker.hand = [])
      (hafter : ({ worker with phase } : QueueWorker).hand = []) :
      (state.putWorker index { worker with phase }).Exact :=
    hexact.putWorker hworker (hafter.trans hbefore.symm)
  cases action with
  | start fails =>
      obtain ⟨hphase, hstarted⟩ := Option.ite_none_right_eq_some.mp hstep
      have hhand : worker.hand = [] := by rw [QueueWorker.hand, hphase]
      split at hstarted
      case isTrue =>
        cases hstarted
        exact hkeeps hhand rfl
      case isFalse =>
        cases hstarted
        exact hkeeps hhand rfl
  | look =>
      obtain ⟨hphase, rfl⟩ := Machine.of_guard hstep
      apply hkeeps
      · rw [QueueWorker.hand, hphase]
      · cases worker.told || state.shutdown <;> rfl
  | get =>
      obtain ⟨hphase, hgot⟩ := Option.ite_none_right_eq_some.mp hstep
      have hhand : worker.hand = [] := by rw [QueueWorker.hand, hphase]
      split at hgot
      case h_1 =>
        cases hgot
        exact hkeeps hhand rfl
      case h_2 taken rest hqueue =>
        cases hgot
        exact hexact.hand hworker hdistributor hqueue hhand rfl
  | handled =>
      rw [SharedAccept.work] at hstep
      split at hstep
      case h_1 done hphase =>
        cases hstep
        exact hexact.done hworker (by rw [QueueWorker.hand, hphase]) rfl
      case h_2 done hphase =>
        cases hstep
        exact hexact.done hworker (by rw [QueueWorker.hand, hphase]) rfl
      case h_3 => cases hstep
  | check =>
      obtain ⟨hphase, rfl⟩ := Machine.of_guard hstep
      apply hkeeps
      · rw [QueueWorker.hand, hphase]
      · cases state.shutdown <;> rfl
  | take late =>
      obtain ⟨hphase, htook⟩ := Option.ite_none_right_eq_some.mp hstep
      have hhand : worker.hand = [] := by rw [QueueWorker.hand, hphase]
      split at htook
      case h_1 =>
        cases htook
        exact hkeeps hhand rfl
      case h_2 taken rest hqueue =>
        split at htook
        case isTrue =>
          cases htook
          intro conn
          have hbefore := hexact conn
          have hmoved := count_pop hdistributor hqueue conn
          apply (count_refuse (state.putDistributor worker.infra _) taken conn).trans
          show _ = (List.range state.accepted).count conn
          omega
        case isFalse =>
          cases htook
          exact hexact.hand hworker hdistributor hqueue hhand rfl
  | exit =>
      obtain ⟨hphase, rfl⟩ := Machine.of_guard hstep
      exact hkeeps (by rw [QueueWorker.hand, hphase]) rfl

/-- To restart or to reload moves no connection. -/
theorem Exact.govern (hexact : state.Exact) {action : ControlAction}
    (hstep : state.govern effectiveWorkers action = some next) : next.Exact := by
  have htold {index : ℕ} {control : ControlPhase} :
      ({ state.tell index with control } : SharedAccept).Exact := by
    intro conn
    show (state.tell index).placed.count conn = _
    rw [placed_tell]
    exact hexact conn
  cases action with
  | restart =>
      obtain ⟨-, rfl⟩ := Machine.of_guard hstep
      exact hexact
  | reload =>
      obtain ⟨-, rfl⟩ := Machine.of_guard hstep
      exact hexact
  | giveUp =>
      obtain ⟨-, rfl⟩ := Machine.of_guard hstep
      exact hexact
  | goOn =>
      rw [SharedAccept.govern] at hstep
      split at hstep
      case h_1 => cases hstep
      case h_2 => cases hstep; exact hexact
      case h_3 => cases hstep; exact hexact
      case h_4 => cases hstep; exact htold
      case h_5 =>
        cases hstep
        intro conn
        show (state.close _).placed.count conn = _
        rw [placed_close]
        exact hexact conn
      case h_6 =>
        obtain ⟨-, rfl⟩ := Machine.of_guard hstep
        exact hexact
      case h_7 =>
        cases hstep
        intro conn
        have hbefore := hexact conn
        rw [count_placed] at hbefore ⊢
        rw [List.flatMap_append, List.count_append]
        exact hbefore
      case h_8 => cases hstep; exact hexact
      case h_9 => cases hstep; exact fun conn => (count_hire conn).trans (hexact conn)
      case h_10 => cases hstep; exact hexact
      case h_11 => cases hstep; exact fun conn => (count_hire conn).trans (hexact conn)
      case h_12 => cases hstep; exact hexact
      case h_13 => cases hstep; exact htold

/-- Neither does to shut down. -/
theorem Exact.wind (hexact : state.Exact) {action : MainAction}
    (hstep : state.wind action = some next) : next.Exact := by
  cases action with
  | drain =>
      obtain ⟨-, rfl⟩ := Machine.of_guard hstep
      exact hexact
  | tell index =>
      obtain ⟨-, rfl⟩ := Machine.of_guard hstep
      intro conn
      rw [placed_tell]
      exact hexact conn
  | told =>
      obtain ⟨-, rfl⟩ := Machine.of_guard hstep
      exact hexact
  | close infra =>
      obtain ⟨-, rfl⟩ := Machine.of_guard hstep
      intro conn
      show (state.close infra).placed.count conn = _
      rw [placed_close]
      exact hexact conn

/-- Every step keeps every connection in one place. -/
theorem Exact.step (hexact : state.Exact) {action : Action}
    (hstep : state.step effectiveWorkers action = some next) : next.Exact := by
  cases action with
  | shutdown =>
      cases hstep
      exact hexact
  | distributor infra action =>
      rw [SharedAccept.step] at hstep
      split at hstep
      case h_1 => cases hstep
      case h_2 distributor hdistributor => exact hexact.distribute hdistributor hstep
  | worker index action =>
      rw [SharedAccept.step] at hstep
      split at hstep
      case h_1 => cases hstep
      case h_2 worker hworker =>
        split at hstep
        case h_1 => cases hstep
        case h_2 distributor hdistributor => exact hexact.work hworker hdistributor hstep
  | control action => exact hexact.govern hstep
  | main action => exact hexact.wind hstep

end SharedAccept

/-! ## Who attends to the queues -/

/-- There is something in the queue, or may still be put into it. -/
def Distributor.Pending (distributor : Distributor) : Prop :=
  distributor.queue ≠ [] ∨ ¬ distributor.Closed

namespace Distributor

variable {distributor : Distributor}

/-- A distributor that may put something into its queue is neither. -/
theorem pending_of_open (hphase : distributor.phase ≠ .exited)
    (hopen : distributor.drain = true → ∃ conn, distributor.phase = .enqueuing conn) :
    distributor.Pending := by
  apply Or.inr
  rintro (hexited | ⟨hdrain, hnone⟩)
  · exact hphase hexited
  · obtain ⟨conn, henqueuing⟩ := hopen hdrain
    apply hnone conn _ henqueuing
    rw [hand, henqueuing]
    exact List.mem_singleton_self conn

/-- What is pending afterwards was pending before, if it has not begun to put something. -/
theorem Pending.of_phase {phase : DistributorPhase}
    (hpending : ({ distributor with phase } : Distributor).Pending)
    (hphase : distributor.phase ≠ .exited)
    (hbegins : ∀ conn, phase = .enqueuing conn → distributor.drain = false) :
    distributor.Pending := by
  rcases hpending with hqueue | hopen
  · exact .inl hqueue
  · cases hdrain : distributor.drain with
    | false => exact pending_of_open hphase fun hnot => absurd (hdrain.symm.trans hnot) (by decide)
    | true =>
        refine absurd (.inr ⟨hdrain, ?_⟩) hopen
        intro conn _ henqueuing
        exact absurd (hdrain.symm.trans (hbegins conn henqueuing)) (by decide)

end Distributor

/-- It was not told to drain, and has not found that the server shuts down. -/
structure QueueWorker.Keen (worker : QueueWorker) : Prop where
  untold : worker.told = false
  phase : worker.phase = .starting ∨ worker.phase = .looking ∨ worker.phase = .getting ∨
    ∃ conn, worker.phase = .handling conn

/-- A keen worker polls its queue. -/
theorem QueueWorker.Keen.polls {worker : QueueWorker} (hkeen : worker.Keen) :
    worker.Polls worker.infra := by
  refine ⟨rfl, ?_, ?_⟩ <;>
    rcases hkeen.phase with hphase | hphase | hphase | ⟨conn, hphase⟩ <;> simp [hphase]

namespace ControlPhase

/-- New workers are about to be made. -/
def Building (control : ControlPhase) : Prop :=
  control = .building ∨ ∃ left, control = .spawning (left + 1)

/-- The event is set meanwhile. -/
def Halts : ControlPhase → Prop
  | .telling _ | .closing | .joining => True
  | _ => False

/-- The workers that are yet to be told to drain, when the new ones are there. -/
def doomed (control : ControlPhase) (handles : List ℕ) : List ℕ :=
  match control with
  | .renewing _ 0 => handles
  | .retiring _ rest => rest
  | _ => []

/-- The new workers. -/
def fresh : ControlPhase → List ℕ
  | .renewing fresh _ | .retiring fresh _ => fresh
  | _ => []

end ControlPhase

namespace SharedAccept

variable {effectiveWorkers : ℕ} {state next : SharedAccept}

variable (state) in
/-- Some worker is keen and will not be told to drain, or new ones are about to be made. -/
def Manned : Prop :=
  state.control.Building ∨ ∃ (index : ℕ) (worker : QueueWorker),
    state.workers[index]? = some worker ∧ worker.Keen ∧
      index ∉ state.control.doomed state.handles

variable (effectiveWorkers state) in
/-- As long as the event is not set there is a worker, and a queue with something in it is
attended. -/
structure Orderly : Prop where
  several : 0 < effectiveWorkers
  /-- All workers that have not exited have the same queue. -/
  home : ∀ (index : ℕ) (worker : QueueWorker), state.workers[index]? = some worker →
    worker.phase ≠ .exited → worker.infra + 1 = state.distributors.length
  attended : ∀ (infra : ℕ) (distributor : Distributor), state.distributors[infra]? = some distributor →
    distributor.Pending → state.Attended infra
  manned : state.shutdown = false → state.Manned
  halts : state.control.Halts → state.shutdown = true
  cleared : state.control = .building → ∀ worker ∈ state.workers, worker.phase = .exited
  bounded : ∀ index ∈ state.handles ++ state.control.fresh, index < state.workers.length
  built : state.control ≠ .building → 0 < state.distributors.length

/-- Someone else attends to the queue when a worker changes. -/
theorem Relieved.attended {index infra : ℕ} (hrelieved : state.Relieved index infra)
    (changed : QueueWorker) : (state.putWorker index changed).Attended infra := by
  rcases hrelieved with hspawning | ⟨other, hlt, hne, worker, hworker, hpolls⟩
  · exact .inl hspawning
  · have hkept : (state.workers.set index changed)[other]? = some worker := by
      rw [List.getElem?_set_ne hne.symm]
      exact hworker
    exact .inr ⟨worker, List.mem_of_getElem? hkept, hpolls⟩

/-- A queue stays attended when a worker changes that stays or is relieved. -/
theorem Attended.putWorker {index infra : ℕ} {worker changed : QueueWorker}
    (hattended : state.Attended infra) (hworker : state.workers[index]? = some worker)
    (hstays : worker.Polls infra → changed.Polls infra ∨ state.Relieved index infra) :
    (state.putWorker index changed).Attended infra := by
  have hindex : index < state.workers.length := (List.getElem?_eq_some_iff.mp hworker).1
  rcases hattended with hspawning | ⟨found, hfound, hpolls⟩
  · exact .inl hspawning
  · obtain ⟨other, hother⟩ := List.mem_iff_getElem?.mp hfound
    by_cases hsame : other = index
    case pos =>
      subst hsame
      cases hworker.symm.trans hother
      rcases hstays hpolls with hchanged | hrelieved
      · exact .inr ⟨changed, List.mem_of_getElem? (List.getElem?_set_self hindex), hchanged⟩
      · exact hrelieved.attended changed
    case neg =>
      apply Relieved.attended
      exact .inr ⟨other, (List.getElem?_eq_some_iff.mp hother).1, hsame, found, hother, hpolls⟩

/-- A distributor makes a step. -/
theorem Orderly.putDistributor (horderly : state.Orderly effectiveWorkers) {infra : ℕ}
    {distributor changed : Distributor} {accepted : ℕ} {refused : List ℕ}
    (hdistributor : state.distributors[infra]? = some distributor)
    (hpending : changed.Pending → distributor.Pending) :
    ({ state.putDistributor infra changed with accepted, refused } : SharedAccept).Orderly
      effectiveWorkers := by
  have hlength : (state.distributors.set infra changed).length = state.distributors.length :=
    List.length_set ..
  have hattended {other : ℕ} (hbefore : state.Attended other) :
      ({ state.putDistributor infra changed with accepted, refused } :
        SharedAccept).Attended other := by
    refine hbefore.imp_left fun hspawning => ⟨?_, hspawning.2⟩
    exact hspawning.1.trans hlength.symm
  exact { horderly with
    home := fun index worker hworker hphase =>
      (horderly.home index worker hworker hphase).trans hlength.symm
    attended := by
      intro other found hfound hfoundPending
      apply hattended
      change (state.distributors.set infra changed)[other]? = some found at hfound
      rw [List.getElem?_set] at hfound
      split at hfound
      case isTrue hsame =>
        subst hsame
        split at hfound
        · cases hfound
          exact horderly.attended infra distributor hdistributor (hpending hfoundPending)
        · cases hfound
      case isFalse => exact horderly.attended other found hfound hfoundPending
    built := fun hcontrol => Nat.lt_of_lt_of_eq (horderly.built hcontrol) hlength.symm }

/-- A connection is taken from a queue. -/
theorem Orderly.pop (horderly : state.Orderly effectiveWorkers) {infra conn : ℕ}
    {distributor : Distributor} {rest : List ℕ}
    (hdistributor : state.distributors[infra]? = some distributor)
    (hqueue : distributor.queue = conn :: rest) (refused : List ℕ) :
    ({ state.putDistributor infra { distributor with queue := rest } with refused } :
      SharedAccept).Orderly effectiveWorkers := by
  apply horderly.putDistributor hdistributor
  intro _
  apply Or.inl
  rw [hqueue]
  exact List.cons_ne_nil conn rest

/-- A worker makes a step. -/
theorem Orderly.putWorker (horderly : state.Orderly effectiveWorkers) {index : ℕ}
    {worker : QueueWorker} {phase : WorkerPhase} {shutdown : Bool} {handled : List (ℕ × ℕ)}
    (hworker : state.workers[index]? = some worker) (halive : worker.phase ≠ .exited)
    (hshutdown : state.shutdown = true → shutdown = true)
    (hkeen : shutdown = false → worker.Keen → ({ worker with phase } : QueueWorker).Keen)
    (hstays : worker.Polls worker.infra →
      ({ worker with phase } : QueueWorker).Polls worker.infra ∨ ∀ distributor,
        state.distributors[worker.infra]? = some distributor → distributor.Pending →
          state.Relieved index worker.infra) :
    ({ state.putWorker index { worker with phase } with shutdown, handled } :
      SharedAccept).Orderly effectiveWorkers := by
  have hindex : index < state.workers.length := (List.getElem?_eq_some_iff.mp hworker).1
  have hfind {other : ℕ} {found : QueueWorker}
      (hfound : (state.workers.set index { worker with phase })[other]? = some found) :
      found = { worker with phase } ∨ state.workers[other]? = some found := by
    rw [List.getElem?_set] at hfound
    split at hfound
    case isTrue => exact .inl (Option.some.inj hfound).symm
    case isFalse => exact .inr hfound
  constructor
  case several => exact horderly.several
  case home =>
    intro other found hfound hphase
    rcases hfind hfound with rfl | hother
    · exact horderly.home index worker hworker halive
    · exact horderly.home other found hother hphase
  case attended =>
    intro infra distributor hdistributor hpending
    have hbefore := horderly.attended infra distributor hdistributor hpending
    apply hbefore.putWorker hworker
    intro hpolls
    obtain rfl := hpolls.1
    exact (hstays hpolls).imp_right fun hrelieved => hrelieved distributor hdistributor hpending
  case manned =>
    intro hquiet
    have hbefore : state.shutdown = false := by
      cases hset : state.shutdown with
      | false => rfl
      | true => exact absurd ((hshutdown hset).symm.trans hquiet) (by decide)
    rcases horderly.manned hbefore with hbuilding | ⟨other, found, hfound, hfoundKeen, hspared⟩
    · exact .inl hbuilding
    · by_cases hsame : index = other
      case pos =>
        subst hsame
        cases hworker.symm.trans hfound
        exact .inr ⟨index, { worker with phase }, List.getElem?_set_self hindex,
          hkeen hquiet hfoundKeen, hspared⟩
      case neg =>
        refine .inr ⟨other, found, ?_, hfoundKeen, hspared⟩
        exact (List.getElem?_set_ne hsame).trans hfound
  case halts => exact fun hhalts => hshutdown (horderly.halts hhalts)
  case cleared =>
    intro hcontrol
    exact absurd (horderly.cleared hcontrol worker (List.mem_of_getElem? hworker)) halive
  case bounded =>
    intro other hother
    exact Nat.lt_of_lt_of_eq (horderly.bounded other hother) (List.length_set ..).symm
  case built => exact horderly.built

/-- What a distributor puts into a queue is attended. -/
theorem Orderly.distribute (horderly : state.Orderly effectiveWorkers) {infra : ℕ}
    {distributor : Distributor} {action : DistributorAction}
    (hdistributor : state.distributors[infra]? = some distributor)
    (hstep : state.distribute infra distributor action = some next) :
    next.Orderly effectiveWorkers := by
  cases action with
  | look =>
      obtain ⟨hphase, rfl⟩ := Machine.of_guard hstep
      apply horderly.putDistributor hdistributor
      intro hpending
      apply hpending.of_phase (by simp [hphase])
      intro conn hnot
      cases hshutdown : state.shutdown <;> simp [hshutdown] at hnot
  | accept =>
      obtain ⟨hphase, rfl⟩ := Machine.of_guard hstep
      apply horderly.putDistributor hdistributor
      intro hpending
      exact hpending.of_phase (by simp [hphase]) fun conn hnot => (by cases hnot)
  | skip =>
      obtain ⟨hphase, rfl⟩ := Machine.of_guard hstep
      apply horderly.putDistributor hdistributor
      intro hpending
      exact hpending.of_phase (by simp [hphase]) fun conn hnot => (by cases hnot)
  | fail =>
      obtain ⟨hphase, rfl⟩ := Machine.of_guard hstep
      apply horderly.putDistributor hdistributor
      intro hpending
      exact hpending.of_phase (by simp [hphase]) fun conn hnot => (by cases hnot)
  | goOn =>
      rw [SharedAccept.distribute] at hstep
      split at hstep
      case h_1 conn hphase =>
        split at hstep
        case isTrue =>
          cases hstep
          apply horderly.putDistributor hdistributor
          intro hpending
          exact hpending.of_phase (by simp [hphase]) fun conn hnot => (by cases hnot)
        case isFalse hdrain =>
          cases hstep
          apply horderly.putDistributor hdistributor
          intro hpending
          apply hpending.of_phase (by simp [hphase])
          intro _ _
          exact Bool.eq_false_iff.mpr hdrain
      case h_2 conn hphase =>
        cases hstep
        apply horderly.putDistributor hdistributor
        intro _
        exact Distributor.pending_of_open (by simp [hphase]) fun _ => ⟨conn, hphase⟩
      case h_3 => cases hstep

/-- A worker that leaves without looking leaves the queue to others: as long as the event is not
set, there is one that was not told to. -/
theorem Orderly.relieved (horderly : state.Orderly effectiveWorkers) {index : ℕ}
    {worker : QueueWorker} (hworker : state.workers[index]? = some worker)
    (hphase : worker.phase = .stopping) (hshutdown : state.shutdown = false) :
    state.Relieved index worker.infra := by
  have halive : worker.phase ≠ .exited := by
    rw [hphase]
    exact fun hnot => by cases hnot
  have hhome := horderly.home index worker hworker halive
  rcases horderly.manned hshutdown with hbuilding | ⟨other, found, hfound, hkeen, -⟩
  · rcases hbuilding with hcontrol | ⟨left, hcontrol⟩
    · exact absurd (horderly.cleared hcontrol worker (List.mem_of_getElem? hworker)) halive
    · exact .inl ⟨hhome, left, hcontrol⟩
  · have hpolls := hkeen.polls
    have hsame : found.infra = worker.infra := by
      have hfoundHome := horderly.home other found hfound hpolls.2.2
      omega
    refine .inr ⟨other, (List.getElem?_eq_some_iff.mp hfound).1, ?_, found, hfound, ?_⟩
    · rintro rfl
      cases hworker.symm.trans hfound
      rcases hkeen.phase with hother | hother | hother | ⟨conn, hother⟩ <;>
        cases hphase.symm.trans hother
    · rw [← hsame]
      exact hpolls

/-- What a worker does keeps the queues attended, unless the last one leaves too early. -/
theorem Orderly.work (horderly : state.Orderly effectiveWorkers) {index : ℕ}
    {worker : QueueWorker} {distributor : Distributor} {action : WorkerAction}
    (hworker : state.workers[index]? = some worker)
    (hdistributor : state.distributors[worker.infra]? = some distributor)
    (hsmooth : state.Leaves index action → state.MayLeave index)
    (hstep : state.work index worker distributor action = some next) :
    next.Orderly effectiveWorkers := by
  have hstays {phase : WorkerPhase} (hphase : phase ≠ .leaving ∧ phase ≠ .exited) :
      worker.Polls worker.infra → ({ worker with phase } : QueueWorker).Polls worker.infra ∨
        ∀ distributor, state.distributors[worker.infra]? = some distributor →
          distributor.Pending → state.Relieved index worker.infra :=
    fun _ => .inl ⟨rfl, hphase⟩
  have hleaves (hleft : state.Leaves index action) : ∀ distributor,
      state.distributors[worker.infra]? = some distributor → distributor.Pending →
        state.Relieved index worker.infra := by
    intro found hfound hpending
    rcases hsmooth hleft worker hworker found hfound with hrelieved | ⟨hqueue, hclosed⟩
    · exact hrelieved
    · rcases hpending with hne | hopen
      · exact absurd hqueue hne
      · exact absurd hclosed hopen
  cases action with
  | start fails =>
      obtain ⟨hphase, hstarted⟩ := Option.ite_none_right_eq_some.mp hstep
      split at hstarted
      case isTrue hfails =>
        cases hstarted
        apply horderly.putWorker hworker (by simp [hphase]) (fun _ => rfl)
        · exact fun hnot => absurd hnot (by decide)
        · exact fun _ => .inr (hleaves hfails)
      case isFalse =>
        cases hstarted
        apply horderly.putWorker hworker (by simp [hphase]) id
        · exact fun _ hkeen => ⟨hkeen.untold, .inr (.inl rfl)⟩
        · exact hstays (by simp)
  | look =>
      obtain ⟨hphase, rfl⟩ := Machine.of_guard hstep
      apply horderly.putWorker hworker (by simp [hphase]) id
      · intro hshutdown hkeen
        refine ⟨hkeen.untold, ?_⟩
        rw [hkeen.untold, hshutdown]
        exact .inr (.inr (.inl rfl))
      · apply hstays
        split <;> simp
  | get =>
      obtain ⟨hphase, hgot⟩ := Option.ite_none_right_eq_some.mp hstep
      split at hgot
      case h_1 =>
        cases hgot
        apply horderly.putWorker hworker (by simp [hphase]) id
        · exact fun _ hkeen => ⟨hkeen.untold, .inr (.inl rfl)⟩
        · exact hstays (by simp)
      case h_2 conn rest hqueue =>
        cases hgot
        have htaken := horderly.pop hdistributor hqueue state.refused
        apply htaken.putWorker hworker (by simp [hphase]) id
        · exact fun _ hkeen => ⟨hkeen.untold, .inr (.inr (.inr ⟨conn, rfl⟩))⟩
        · exact fun _ => .inl ⟨rfl, by simp⟩
  | handled =>
      rw [SharedAccept.work] at hstep
      split at hstep
      case h_1 conn hphase =>
        cases hstep
        apply horderly.putWorker hworker (by simp [hphase]) id
        · exact fun _ hkeen => ⟨hkeen.untold, .inr (.inl rfl)⟩
        · exact hstays (by simp)
      case h_2 conn hphase =>
        cases hstep
        apply horderly.putWorker hworker (by simp [hphase]) id
        · exact fun _ hkeen => absurd hkeen.phase (by simp [hphase])
        · exact hstays (by simp)
      case h_3 => cases hstep
  | check =>
      obtain ⟨hphase, rfl⟩ := Machine.of_guard hstep
      apply horderly.putWorker hworker (by simp [hphase]) id
      · exact fun _ hkeen => absurd hkeen.phase (by simp [hphase])
      · cases hshutdown : state.shutdown with
        | true => exact hstays (by simp)
        | false => exact fun _ => .inr fun _ _ _ => horderly.relieved hworker hphase hshutdown
  | take late =>
      obtain ⟨hphase, htook⟩ := Option.ite_none_right_eq_some.mp hstep
      split at htook
      case h_1 hqueue =>
        cases htook
        apply horderly.putWorker hworker (by simp [hphase]) id
        · exact fun _ hkeen => absurd hkeen.phase (by simp [hphase])
        · refine fun _ => .inr (hleaves ?_)
          intro found hfound queued hqueued
          cases hworker.symm.trans hfound
          cases hdistributor.symm.trans hqueued
          exact hqueue
      case h_2 conn rest hqueue =>
        have htaken := horderly.pop hdistributor hqueue state.refused
        split at htook
        case isTrue =>
          cases htook
          exact horderly.pop hdistributor hqueue _
        case isFalse =>
          cases htook
          apply htaken.putWorker hworker (by simp [hphase]) id
          · exact fun _ hkeen => absurd hkeen.phase (by simp [hphase])
          · exact fun _ => .inl ⟨rfl, by simp⟩
  | exit =>
      obtain ⟨hphase, rfl⟩ := Machine.of_guard hstep
      apply horderly.putWorker hworker (by simp [hphase]) id
      · exact fun _ hkeen => absurd hkeen.phase (by simp [hphase])
      · exact fun hpolls => absurd hphase hpolls.2.1

/-- A thread goes on, and no worker was about to be made. -/
theorem Orderly.goTo (horderly : state.Orderly effectiveWorkers) {shutdown : Bool}
    {handles : List ℕ} {control : ControlPhase}
    (hspawns : ∀ left, state.control ≠ .spawning (left + 1))
    (hmanned : shutdown = false →
      ({ state with shutdown, handles, control } : SharedAccept).Manned)
    (hhalts : control.Halts → shutdown = true)
    (hcleared : control = .building → ∀ worker ∈ state.workers, worker.phase = .exited)
    (hbounded : ∀ index ∈ handles ++ control.fresh, index < state.workers.length)
    (hbuilt : state.control ≠ .building) :
    ({ state with shutdown, handles, control } : SharedAccept).Orderly effectiveWorkers where
  several := horderly.several
  home := horderly.home
  attended infra distributor hdistributor hpending := by
    rcases horderly.attended infra distributor hdistributor hpending with
      ⟨-, left, hcontrol⟩ | hpolled
    · exact absurd hcontrol (hspawns left)
    · exact .inr hpolled
  manned := hmanned
  halts := hhalts
  cleared := hcleared
  bounded := hbounded
  built _ := horderly.built hbuilt

/-- A new worker is made. -/
theorem Orderly.hire (horderly : state.Orderly effectiveWorkers) {handles : List ℕ}
    {control : ControlPhase} (hbuilt : state.control ≠ .building)
    (hbuilding : control ≠ .building) (hhalts : ¬ control.Halts)
    (hspared : state.workers.length ∉ control.doomed handles)
    (hbounded : ∀ index ∈ handles ++ control.fresh,
      index = state.workers.length ∨ index ∈ state.handles ++ state.control.fresh) :
    ({ state with workers := state.workers ++ [state.fresh], handles, control } :
      SharedAccept).Orderly effectiveWorkers := by
  have hlength := horderly.built hbuilt
  have hlast : state.fresh.infra + 1 = state.distributors.length := by
    show state.distributors.length - 1 + 1 = _
    omega
  have hfresh : state.fresh ∈ state.workers ++ [state.fresh] :=
    List.mem_append_right _ (List.mem_singleton_self _)
  have hkeen : state.fresh.Keen := ⟨rfl, .inl rfl⟩
  constructor
  case several => exact horderly.several
  case home =>
    intro index worker hworker hphase
    rcases Nat.lt_or_ge index state.workers.length with hold | hnew
    · rw [List.getElem?_append_left hold] at hworker
      exact horderly.home index worker hworker hphase
    · have hmem := List.mem_of_getElem? ((List.getElem?_append_right hnew).symm.trans hworker)
      rw [List.mem_singleton.mp hmem]
      exact hlast
  case attended =>
    intro infra distributor hdistributor hpending
    rcases horderly.attended infra distributor hdistributor hpending with
      ⟨hinfra, -⟩ | ⟨worker, hworker, hpolls⟩
    · have hsame : state.fresh.infra = infra := by omega
      rw [← hsame]
      exact .inr ⟨state.fresh, hfresh, hkeen.polls⟩
    · exact .inr ⟨worker, List.mem_append_left _ hworker, hpolls⟩
  case manned =>
    exact fun _ => .inr ⟨state.workers.length, state.fresh, List.getElem?_concat_length, hkeen,
      hspared⟩
  case halts => exact fun hnot => absurd hnot hhalts
  case cleared => exact fun hnot => absurd hnot hbuilding
  case bounded =>
    intro index hindex
    show index < (state.workers ++ [state.fresh]).length
    rw [List.length_append]
    rcases hbounded index hindex with rfl | hold
    · exact Nat.lt_succ_self _
    · exact Nat.lt_succ_of_lt (horderly.bounded index hold)
  case built => exact fun _ => hlength

/-- A worker that is told has not moved. -/
theorem getElem?_tell {index other : ℕ} {found : QueueWorker}
    (hfound : (state.tell index).workers[other]? = some found) :
    ∃ worker, state.workers[other]? = some worker ∧ found.infra = worker.infra ∧
      found.phase = worker.phase := by
  rw [SharedAccept.tell, List.getElem?_modify] at hfound
  obtain ⟨worker, hworker, rfl⟩ := Option.map_eq_some_iff.mp hfound
  refine ⟨worker, hworker, ?_⟩
  split
  · exact ⟨rfl, rfl⟩
  · exact ⟨rfl, rfl⟩

/-- A worker is told to drain, and some keen one is not, as long as the event is not set. -/
theorem Orderly.tell (horderly : state.Orderly effectiveWorkers) {index : ℕ}
    {control : ControlPhase} {main : MainPhase}
    (hspawns : ∀ infra, state.Spawning infra → control = state.control)
    (hspared : state.shutdown = false → ∃ (other : ℕ) (worker : QueueWorker),
      state.workers[other]? = some worker ∧ worker.Keen ∧ other ≠ index ∧
        other ∉ control.doomed state.handles)
    (hhalts : control.Halts → state.shutdown = true)
    (hcleared : control = .building → state.control = .building)
    (hbounded : control.fresh = state.control.fresh)
    (hbuilt : control ≠ .building → state.control ≠ .building) :
    ({ state.tell index with control, main } : SharedAccept).Orderly effectiveWorkers := by
  have hexited (hbefore : ∀ worker ∈ state.workers, worker.phase = .exited) :
      ∀ found ∈ (state.tell index).workers, found.phase = .exited := by
    intro found hmem
    obtain ⟨other, hfound⟩ := List.mem_iff_getElem?.mp hmem
    obtain ⟨worker, hworker, -, hphase⟩ := getElem?_tell hfound
    exact hphase.trans (hbefore worker (List.mem_of_getElem? hworker))
  have hlength : (state.tell index).workers.length = state.workers.length :=
    List.length_modify ..
  constructor
  case several => exact horderly.several
  case home =>
    intro other found hfound hphase
    obtain ⟨worker, hworker, hinfra, hsame⟩ := getElem?_tell hfound
    rw [hinfra]
    exact horderly.home other worker hworker (hsame ▸ hphase)
  case attended =>
    intro infra distributor hdistributor hpending
    rcases horderly.attended infra distributor hdistributor hpending with
      hspawning | ⟨worker, hmem, hpolls⟩
    · refine .inl ⟨hspawning.1, ?_⟩
      rw [show ({ state.tell index with control, main } : SharedAccept).control =
        state.control from hspawns infra hspawning]
      exact hspawning.2
    · obtain ⟨other, hworker⟩ := List.mem_iff_getElem?.mp hmem
      have hfound : (state.tell index).workers[other]? =
          some (if index = other then { worker with told := true } else worker) := by
        rw [SharedAccept.tell, List.getElem?_modify, hworker]
        rfl
      refine .inr ⟨_, List.mem_of_getElem? hfound, ?_⟩
      split
      · exact hpolls
      · exact hpolls
  case manned =>
    intro hquiet
    obtain ⟨other, worker, hworker, hkeen, hne, hother⟩ := hspared hquiet
    refine .inr ⟨other, worker, ?_, hkeen, hother⟩
    show (state.tell index).workers[other]? = some worker
    rw [SharedAccept.tell, List.getElem?_modify, hworker]
    exact congrArg some (if_neg hne.symm)
  case halts => exact hhalts
  case cleared => exact fun hnew => hexited (horderly.cleared (hcleared hnew))
  case bounded =>
    intro other hother
    change other ∈ state.handles ++ control.fresh at hother
    rw [hbounded] at hother
    exact Nat.lt_of_lt_of_eq (horderly.bounded other hother) hlength.symm
  case built => exact fun hnew => horderly.built (hbuilt hnew)

/-- A distributor is told to drain. -/
theorem Orderly.close (horderly : state.Orderly effectiveWorkers) (infra : ℕ) :
    (state.close infra).Orderly effectiveWorkers := by
  have hlength : (state.close infra).distributors.length = state.distributors.length :=
    List.length_modify ..
  have hattended {other : ℕ} (hbefore : state.Attended other) :
      (state.close infra).Attended other :=
    hbefore.imp_left fun hspawning => ⟨hspawning.1.trans hlength.symm, hspawning.2⟩
  exact { horderly with
    home := fun index worker hworker hphase =>
      (horderly.home index worker hworker hphase).trans hlength.symm
    attended := by
      intro other found hfound hpending
      rw [SharedAccept.close, List.getElem?_modify] at hfound
      obtain ⟨distributor, hdistributor, rfl⟩ := Option.map_eq_some_iff.mp hfound
      apply hattended
      apply horderly.attended other distributor hdistributor
      split at hpending
      case isTrue =>
        refine hpending.imp_right fun hopen hclosed => hopen ?_
        exact hclosed.imp_right fun hboth => ⟨rfl, hboth.2⟩
      case isFalse => exact hpending
    built := fun hcontrol => Nat.lt_of_lt_of_eq (horderly.built hcontrol) hlength.symm }

/-- When no worker is about to be made there is a keen one. -/
theorem Orderly.keen (horderly : state.Orderly effectiveWorkers) (hquiet : state.shutdown = false)
    (hbuilding : ¬ state.control.Building) : ∃ (index : ℕ) (worker : QueueWorker),
      state.workers[index]? = some worker ∧ worker.Keen ∧
        index ∉ state.control.doomed state.handles :=
  (horderly.manned hquiet).resolve_left hbuilding

/-- The thread that restarts or reloads goes on, and no worker was about to be made. -/
theorem Orderly.goOn (horderly : state.Orderly effectiveWorkers) {shutdown : Bool}
    {handles : List ℕ} {control : ControlPhase} (hbuilding : ¬ state.control.Building)
    (hcontrol : control ≠ .building)
    (hquiet : shutdown = false → state.shutdown = false ∧
      ∀ index, index ∉ state.control.doomed state.handles → index ∉ control.doomed handles)
    (hhalts : control.Halts → shutdown = true)
    (hbounded : ∀ index ∈ handles ++ control.fresh, index ∈ state.handles ++ state.control.fresh) :
    ({ state with shutdown, handles, control } : SharedAccept).Orderly effectiveWorkers := by
  apply horderly.goTo
  · exact fun left hspawning => hbuilding (.inr ⟨left, hspawning⟩)
  · intro hset
    obtain ⟨hbefore, hspared⟩ := hquiet hset
    obtain ⟨index, worker, hworker, hkeen, hnot⟩ := horderly.keen hbefore hbuilding
    exact .inr ⟨index, worker, hworker, hkeen, hspared index hnot⟩
  · exact hhalts
  · exact fun hnot => absurd hnot hcontrol
  · exact fun index hindex => horderly.bounded index (hbounded index hindex)
  · exact fun hnot => hbuilding (.inl hnot)

/-- A distributor and a queue are made when no worker is left. -/
theorem Orderly.build (horderly : state.Orderly effectiveWorkers)
    (hcontrol : state.control = .building) :
    ({ state with
      distributors := state.distributors ++ [{}]
      control := .spawning effectiveWorkers } : SharedAccept).Orderly effectiveWorkers := by
  have hexited := horderly.cleared hcontrol
  obtain ⟨left, hleft⟩ := Nat.exists_eq_succ_of_ne_zero (Nat.ne_of_gt horderly.several)
  have hnew {infra : ℕ} (hinfra : infra = state.distributors.length) :
      ({ state with
        distributors := state.distributors ++ [{}]
        control := .spawning effectiveWorkers } : SharedAccept).Spawning infra := by
    refine ⟨?_, left, congrArg _ hleft⟩
    show infra + 1 = (state.distributors ++ [({} : Distributor)]).length
    rw [hinfra, List.length_append]
    rfl
  constructor
  case several => exact horderly.several
  case home =>
    intro index worker hworker hphase
    exact absurd (hexited worker (List.mem_of_getElem? hworker)) hphase
  case attended =>
    intro infra distributor hdistributor hpending
    rcases Nat.lt_or_ge infra state.distributors.length with hold | hlast
    · rw [List.getElem?_append_left hold] at hdistributor
      rcases horderly.attended infra distributor hdistributor hpending with
        ⟨-, _, hspawning⟩ | hpolled
      · cases hcontrol.symm.trans hspawning
      · exact .inr hpolled
    · have hbound : infra < (state.distributors ++ [({} : Distributor)]).length :=
        (List.getElem?_eq_some_iff.mp hdistributor).1
      rw [List.length_append] at hbound
      exact .inl (hnew (Nat.le_antisymm (Nat.lt_succ_iff.mp hbound) hlast))
  case manned => exact fun _ => .inl (.inr ⟨left, congrArg _ hleft⟩)
  case halts => exact False.elim
  case cleared => exact fun hnot => by cases hnot
  case bounded =>
    intro index hindex
    apply horderly.bounded index
    rw [hcontrol]
    exact hindex
  case built =>
    intro _
    show 0 < (state.distributors ++ [({} : Distributor)]).length
    rw [List.length_append]
    exact Nat.succ_pos _

/-- A restart goes on while the event is set. -/
theorem Orderly.halted (horderly : state.Orderly effectiveWorkers) {control : ControlPhase}
    (hhalts : state.control.Halts) (hcontrol : control ≠ .building) (hfresh : control.fresh = []) :
    ({ state with control } : SharedAccept).Orderly effectiveWorkers := by
  have hset := horderly.halts hhalts
  apply horderly.goOn
  · rintro (hbuilding | ⟨left, hspawning⟩)
    · rw [hbuilding] at hhalts
      exact hhalts
    · rw [hspawning] at hhalts
      exact hhalts
  · exact hcontrol
  · intro hquiet
    cases hset.symm.trans hquiet
  · exact fun _ => hset
  · rw [hfresh, List.append_nil]
    exact fun index hindex => List.mem_append_left _ hindex

/-- The event is not touched, and no more workers are to be told to drain. -/
theorem Orderly.calm (horderly : state.Orderly effectiveWorkers) {control : ControlPhase}
    (hbuilding : ¬ state.control.Building) (hcontrol : control ≠ .building)
    (hhalts : ¬ control.Halts)
    (hdoomed : ∀ index ∈ control.doomed state.handles, index ∈ state.control.doomed state.handles)
    (hfresh : ∀ index ∈ control.fresh, index ∈ state.control.fresh) :
    ({ state with control } : SharedAccept).Orderly effectiveWorkers := by
  apply horderly.goOn hbuilding hcontrol
  · exact fun hquiet => ⟨hquiet, fun index hspared hindex => hspared (hdoomed index hindex)⟩
  · exact fun hnot => absurd hnot hhalts
  · intro index hindex
    rcases List.mem_append.mp hindex with hold | hnew
    · exact List.mem_append_left _ hold
    · exact List.mem_append_right _ (hfresh index hnew)

/-- A restart sets the event. -/
theorem Orderly.halt (horderly : state.Orderly effectiveWorkers)
    (hcontrol : state.control = .restarting) :
    ({ state with shutdown := true, control := .telling state.handles } : SharedAccept).Orderly
      effectiveWorkers := by
  apply horderly.goOn
  · simp [hcontrol, ControlPhase.Building]
  · simp
  · exact fun hnot => absurd hnot (by decide)
  · exact fun _ => rfl
  · simp [hcontrol, ControlPhase.fresh]

/-- A restart tells a worker to drain. -/
theorem Orderly.dismiss (horderly : state.Orderly effectiveWorkers) {index : ℕ} {rest : List ℕ}
    (hcontrol : state.control = .telling (index :: rest)) :
    ({ state.tell index with control := .telling rest } : SharedAccept).Orderly
      effectiveWorkers := by
  have hset : state.shutdown = true := horderly.halts (by rw [hcontrol]; trivial)
  apply horderly.tell
  · rintro infra ⟨-, left, hnot⟩
    cases hcontrol.symm.trans hnot
  · intro hquiet
    cases hset.symm.trans hquiet
  · exact fun _ => hset
  · exact fun hnot => by cases hnot
  · rw [hcontrol]
    rfl
  · simp [hcontrol]

/-- The event is cleared when all workers have exited. -/
theorem Orderly.clear (horderly : state.Orderly effectiveWorkers)
    (hcontrol : state.control = .joining)
    (hexited : ∀ worker ∈ state.workers, worker.phase = .exited) :
    ({ state with shutdown := false, handles := [], control := .building } : SharedAccept).Orderly
      effectiveWorkers := by
  apply horderly.goTo
  · simp [hcontrol]
  · exact fun _ => .inl (.inl rfl)
  · exact False.elim
  · exact fun _ => hexited
  · simp [ControlPhase.fresh]
  · simp [hcontrol]

/-- A restart makes a worker. -/
theorem Orderly.spawn (horderly : state.Orderly effectiveWorkers) {left : ℕ}
    (hcontrol : state.control = .spawning (left + 1)) :
    ({ state with
      workers := state.workers ++ [state.fresh]
      handles := state.handles ++ [state.workers.length]
      control := .spawning left } : SharedAccept).Orderly effectiveWorkers := by
  apply horderly.hire
  · simp [hcontrol]
  · simp
  · exact id
  · simp [ControlPhase.doomed]
  · simp only [hcontrol, ControlPhase.fresh, List.mem_append, List.mem_singleton]
    grind

/-- A reload makes a worker beside the old ones. -/
theorem Orderly.renew (horderly : state.Orderly effectiveWorkers) {fresh : List ℕ} {left : ℕ}
    (hcontrol : state.control = .renewing fresh (left + 1)) :
    ({ state with
      workers := state.workers ++ [state.fresh]
      control := .renewing (fresh ++ [state.workers.length]) left } : SharedAccept).Orderly
        effectiveWorkers := by
  apply horderly.hire
  · simp [hcontrol]
  · simp
  · exact id
  · intro hdoomed
    cases left with
    | zero => exact absurd (horderly.bounded _ (List.mem_append_left _ hdoomed)) (Nat.lt_irrefl _)
    | succ left => cases hdoomed
  · simp only [hcontrol, ControlPhase.fresh, List.mem_append, List.mem_singleton]
    grind

/-- A reload tells an old worker to drain. -/
theorem Orderly.retire (horderly : state.Orderly effectiveWorkers) {fresh : List ℕ} {index : ℕ}
    {rest : List ℕ} (hcontrol : state.control = .retiring fresh (index :: rest)) :
    ({ state.tell index with control := .retiring fresh rest } : SharedAccept).Orderly
      effectiveWorkers := by
  apply horderly.tell
  · rintro infra ⟨-, left, hnot⟩
    cases hcontrol.symm.trans hnot
  · intro hquiet
    obtain ⟨other, worker, hworker, hkeen, hspared⟩ := horderly.keen hquiet
      (by simp [hcontrol, ControlPhase.Building])
    rw [hcontrol] at hspared
    refine ⟨other, worker, hworker, hkeen, ?_, ?_⟩
    · rintro rfl
      exact hspared List.mem_cons_self
    · exact fun hrest => hspared (List.mem_cons_of_mem _ hrest)
  · exact False.elim
  · exact fun hnot => by cases hnot
  · rw [hcontrol]
    rfl
  · simp [hcontrol]

/-- The new workers of a reload are the workers. -/
theorem Orderly.replace (horderly : state.Orderly effectiveWorkers) {fresh : List ℕ}
    (hcontrol : state.control = .retiring fresh []) :
    ({ state with handles := fresh, control := .idle } : SharedAccept).Orderly
      effectiveWorkers := by
  apply horderly.goOn
  · simp [hcontrol, ControlPhase.Building]
  · simp
  · exact fun hquiet => ⟨hquiet, fun _ _ => List.not_mem_nil⟩
  · exact False.elim
  · intro index hindex
    rw [hcontrol]
    exact List.mem_append_right _ (by simpa [ControlPhase.fresh] using hindex)

/-- A restart or reload that goes on keeps the queues attended, unless the event is cleared too
early. -/
theorem Orderly.advance (horderly : state.Orderly effectiveWorkers)
    (hsmooth : state.control = .joining → ∀ worker ∈ state.workers, worker.phase = .exited)
    (hstep : state.govern effectiveWorkers .goOn = some next) : next.Orderly effectiveWorkers := by
  rw [SharedAccept.govern] at hstep
  split at hstep
  case h_1 => cases hstep
  case h_2 hcontrol =>
    cases hstep
    exact horderly.halt hcontrol
  case h_3 hcontrol =>
    cases hstep
    exact horderly.halted (by rw [hcontrol]; trivial) (by simp) rfl
  case h_4 index rest hcontrol =>
    cases hstep
    exact horderly.dismiss hcontrol
  case h_5 hcontrol =>
    cases hstep
    suffices hjoining : ({ state with control := .joining } : SharedAccept).Orderly
        effectiveWorkers from hjoining.close _
    exact horderly.halted (by rw [hcontrol]; trivial) (by simp) rfl
  case h_6 hcontrol =>
    obtain ⟨-, rfl⟩ := Machine.of_guard hstep
    exact horderly.clear hcontrol (hsmooth hcontrol)
  case h_7 hcontrol =>
    cases hstep
    exact horderly.build hcontrol
  case h_8 hcontrol =>
    cases hstep
    exact horderly.calm (by simp [hcontrol, ControlPhase.Building]) (by simp) id
      (List.forall_mem_nil _) (List.forall_mem_nil _)
  case h_9 left hcontrol =>
    cases hstep
    exact horderly.spawn hcontrol
  case h_10 fresh hcontrol =>
    cases hstep
    refine horderly.calm (by simp [hcontrol, ControlPhase.Building]) (by simp) id ?_ ?_
    · rw [hcontrol]
      exact fun index hindex => hindex
    · rw [hcontrol]
      exact fun index hindex => hindex
  case h_11 fresh left hcontrol =>
    cases hstep
    exact horderly.renew hcontrol
  case h_12 fresh hcontrol =>
    cases hstep
    exact horderly.replace hcontrol
  case h_13 fresh index rest hcontrol =>
    cases hstep
    exact horderly.retire hcontrol

/-- To restart or to reload keeps the queues attended, unless the event is cleared too early. -/
theorem Orderly.govern (horderly : state.Orderly effectiveWorkers) {action : ControlAction}
    (hsmooth : action = .goOn → state.control = .joining →
      ∀ worker ∈ state.workers, worker.phase = .exited)
    (hstep : state.govern effectiveWorkers action = some next) :
    next.Orderly effectiveWorkers := by
  cases action with
  | restart =>
      obtain ⟨hcontrol, rfl⟩ := Machine.of_guard hstep
      exact horderly.calm (by simp [hcontrol, ControlPhase.Building]) (by simp) id
        (List.forall_mem_nil _) (List.forall_mem_nil _)
  | reload =>
      obtain ⟨hcontrol, rfl⟩ := Machine.of_guard hstep
      obtain ⟨left, hleft⟩ := Nat.exists_eq_succ_of_ne_zero (Nat.ne_of_gt horderly.several)
      refine horderly.calm (by simp [hcontrol, ControlPhase.Building]) (by simp) id ?_
        (List.forall_mem_nil _)
      rw [hleft]
      exact List.forall_mem_nil _
  | giveUp =>
      obtain ⟨hcontrol, rfl⟩ := Machine.of_guard hstep
      exact horderly.halted (by rw [hcontrol]; trivial) (by simp) rfl
  | goOn => exact horderly.advance (hsmooth rfl) hstep

/-- To shut down keeps the queues attended, unless the event has been cleared again. -/
theorem Orderly.wind (horderly : state.Orderly effectiveWorkers) {action : MainAction}
    (hsmooth : ∀ index, action = .tell index → state.shutdown = true)
    (hstep : state.wind action = some next) : next.Orderly effectiveWorkers := by
  cases action with
  | drain =>
      obtain ⟨-, rfl⟩ := Machine.of_guard hstep
      exact { horderly with
        manned := fun hnot => by cases hnot
        halts := fun _ => rfl }
  | tell index =>
      obtain ⟨-, rfl⟩ := Machine.of_guard hstep
      apply horderly.tell
      · exact fun _ _ => rfl
      · intro hquiet
        cases (hsmooth index rfl).symm.trans hquiet
      · exact horderly.halts
      · exact id
      · rfl
      · exact id
  | told =>
      obtain ⟨-, rfl⟩ := Machine.of_guard hstep
      exact { horderly with }
  | close infra =>
      obtain ⟨-, rfl⟩ := Machine.of_guard hstep
      exact { horderly.close infra with }

/-- Every step that goes well keeps the queues attended. -/
theorem Orderly.step (horderly : state.Orderly effectiveWorkers) {action : Action}
    (hsmooth : state.Smooth action) (hstep : state.step effectiveWorkers action = some next) :
    next.Orderly effectiveWorkers := by
  cases action with
  | shutdown =>
      cases hstep
      exact { horderly with
        manned := fun hnot => by cases hnot
        halts := fun _ => rfl }
  | distributor infra action =>
      rw [SharedAccept.step] at hstep
      split at hstep
      case h_1 => cases hstep
      case h_2 distributor hdistributor => exact horderly.distribute hdistributor hstep
  | worker index action =>
      rw [SharedAccept.step] at hstep
      split at hstep
      case h_1 => cases hstep
      case h_2 worker hworker =>
        split at hstep
        case h_1 => cases hstep
        case h_2 distributor hdistributor =>
          exact horderly.work hworker hdistributor hsmooth hstep
  | control action => exact horderly.govern hsmooth hstep
  | main action =>
      apply horderly.wind _ hstep
      rintro index rfl
      exact hsmooth

/-- What is in one place and attended to is conserved. -/
theorem Orderly.conserved (horderly : state.Orderly effectiveWorkers) (hexact : state.Exact) :
    state.Conserved where
  exact := List.perm_iff_count.mpr hexact
  attended infra distributor hdistributor hqueue :=
    horderly.attended infra distributor hdistributor (.inl hqueue)
  emptied infra distributor hdistributor hspawning hexited := by
    by_contra hqueue
    rcases horderly.attended infra distributor hdistributor (.inl hqueue) with
      hnew | ⟨worker, hworker, hpolls⟩
    · exact hspawning hnew
    · exact hpolls.2.2 (hexited worker hworker hpolls.1)
  distributes infra distributor hdistributor hhand := by
    rw [SharedAccept.distribute]
    split
    case h_1 =>
      split
      · rfl
      · rfl
    case h_2 => rfl
    case h_3 hgreeted henqueuing =>
      refine absurd ?_ hhand
      rw [Distributor.hand]
      split
      case h_1 conn hphase => exact absurd hphase (hgreeted conn)
      case h_2 conn hphase => exact absurd hphase (henqueuing conn)
      case h_3 => rfl
      case h_4 => rfl
      case h_5 => rfl
  handles index worker hworker hhand distributor := by
    rw [SharedAccept.work]
    split
    case h_1 => rfl
    case h_2 => rfl
    case h_3 hhandling hfinishing =>
      refine absurd ?_ hhand
      rw [QueueWorker.hand]
      split
      case h_1 conn hphase => exact absurd hphase (hhandling conn)
      case h_2 conn hphase => exact absurd hphase (hfinishing conn)
      case h_3 => rfl

end SharedAccept

/-! ## What is promised -/

/-- No connection is lost or handled twice, and none is left in a queue nobody polls, in every run
in which no last worker leaves too early and no event is cleared too early. -/
theorem accept_conserved (effectiveWorkers : ℕ) (state : SharedAccept)
    (hreach : (acceptMachine effectiveWorkers).Reach SharedAccept.Smooth state) :
    state.Conserved := by
  have hkept : state.Exact ∧ state.Orderly effectiveWorkers := by
    apply hreach.invariant
    · rintro _ ⟨hseveral, rfl⟩
      refine ⟨fun _ => rfl, ?_⟩
      exact {
        several := Nat.lt_of_succ_lt hseveral
        home := fun _ _ hworker => by cases hworker
        attended := fun _ _ hdistributor => by cases hdistributor
        manned := fun _ => .inl (.inl rfl)
        halts := False.elim
        cleared := fun _ _ hworker => by cases hworker
        bounded := fun _ hindex => by cases hindex
        built := fun hnot => absurd rfl hnot }
    · intro state action next hkept hsmooth hstep
      exact ⟨hkept.1.step hstep, hkept.2.step hsmooth hstep⟩
  exact hkept.2.conserved hkept.1

/-- Two workers are made, and the first connection is accepted. -/
def firstAccepted : List Action :=
  [.control .goOn, .control .goOn, .control .goOn, .control .goOn, .worker 0 (.start false),
    .worker 1 (.start false), .distributor 0 .look, .distributor 0 .accept,
    .distributor 0 .goOn]

/-- A worker finds that the server shuts down, and its queue empty. -/
def workerLeaves (index : ℕ) : List Action :=
  [.worker index .look, .worker index .check, .worker index (.take false), .worker index .exit]

/-- The connection is handled, and the server shuts down in order. -/
def servedActions : List Action :=
  firstAccepted ++ [.distributor 0 .goOn, .worker 0 .look, .worker 0 .get, .worker 0 .handled,
    .main .drain, .main (.tell 0), .main (.tell 1), .main .told, .main (.close 0),
    .distributor 0 .look] ++ workerLeaves 0 ++ workerLeaves 1

theorem accept_conserved_served : ∃ state, (acceptMachine 2).run {} servedActions = some state ∧
    state.handled = [(0, 0)] ∧ state.Conserved := by
  obtain ⟨state, hrun⟩ := Option.isSome_iff_exists.mp
    (show ((acceptMachine 2).run {} servedActions).isSome = true from by decide +kernel)
  refine ⟨state, hrun, ?_, ?_⟩
  · have hhandled : ((acceptMachine 2).run {} servedActions).map (·.handled) =
        some [(0, 0)] := by decide +kernel
    rw [hrun] at hhandled
    exact Option.some.inj hhandled
  · apply accept_conserved 2 state
    apply Machine.Reach.run (.init _) (Machine.along_of_guarded _) hrun
    · exact ⟨by decide, rfl⟩
    · decide +kernel

/-- A connection is left in the queue when the workers have found it empty before. -/
theorem accept_stranded : ¬ ∀ (effectiveWorkers : ℕ) (state : SharedAccept),
    (acceptMachine effectiveWorkers).Reachable state → state.Conserved := by
  intro hall
  have hrun : ((acceptMachine 2).run {} (firstAccepted ++ [.shutdown] ++ workerLeaves 0 ++
      workerLeaves 1 ++ [.distributor 0 .goOn])).map (fun state =>
        (state.distributors[0]?.map (·.queue), decide (state.Spawning 0),
          decide (∀ worker ∈ state.workers, worker.phase = .exited))) =
      some (some [0], false, true) := by decide +kernel
  obtain ⟨state, htaken, hfinal⟩ := Option.map_eq_some_iff.mp hrun
  have hreach : (acceptMachine 2).Reachable state :=
    Machine.reachable_run ⟨by decide, rfl⟩ htaken
  obtain ⟨hqueued, hrest⟩ := Prod.mk.inj hfinal
  obtain ⟨hspawning, hexited⟩ := Prod.mk.inj hrest
  obtain ⟨distributor, hdistributor, hqueue⟩ := Option.map_eq_some_iff.mp hqueued
  have hemptied := (hall 2 state hreach).emptied 0 distributor hdistributor
    (of_decide_eq_false hspawning) fun worker hworker _ => of_decide_eq_true hexited worker hworker
  cases hqueue.symm.trans hemptied

end Pounce.AcceptDistribution
