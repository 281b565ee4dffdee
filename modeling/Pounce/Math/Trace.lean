/-
# Machines that emit events

A step may emit several events. Where every event has a rank, and every state a position that the
steps move forward past the ranks of what they emit, a run emits its events in the order of their
ranks, each of them at most once, and only those that its position has passed.
-/

import Mathlib.Data.List.Pairwise
import Mathlib.Order.Monotone.Basic
import Mathlib.Order.Nat
import Pounce.Math.Transition

namespace Pounce.Math

universe u v w

variable {State : Type u} {Action : Type v} {Event : Type w}

/-! ## Events in order -/

/-- The events are in the order of their ranks, from the first rank on and before the last. -/
structure Ascending (rank : Event → ℕ) (first last : ℕ) (events : List Event) : Prop where
  le : first ≤ last
  bounds : ∀ event ∈ events, first ≤ rank event ∧ rank event < last
  sorted : events.Pairwise (rank · < rank ·)

namespace Ascending

variable {rank : Event → ℕ} {first middle last : ℕ} {events more : List Event} {event : Event}

/-- Nothing is emitted. -/
theorem nil (hle : first ≤ last) : Ascending rank first last ([] : List Event) where
  le := hle
  bounds := by simp
  sorted := .nil

/-- One event is emitted before the others. -/
theorem cons (hfirst : first ≤ rank event) (hmiddle : rank event < middle)
    (hevents : Ascending rank middle last events) : Ascending rank first last (event :: events) where
  le := by
    have hle := hevents.le
    omega
  bounds := by
    rw [List.forall_mem_cons]
    refine ⟨⟨hfirst, hmiddle.trans_le hevents.le⟩, fun other hother => ?_⟩
    have hbounds := hevents.bounds other hother
    omega
  sorted := by
    refine List.Pairwise.cons (fun other hother => ?_) hevents.sorted
    exact hmiddle.trans_le (hevents.bounds other hother).1

/-- One event is emitted. -/
theorem singleton (hfirst : first ≤ rank event) (hlast : rank event < last) :
    Ascending rank first last [event] :=
  .cons hfirst hlast (.nil le_rfl)

/-- Some events are emitted, and then others. -/
theorem append (hevents : Ascending rank first middle events) (hmore : Ascending rank middle last more) :
    Ascending rank first last (events ++ more) where
  le := hevents.le.trans hmore.le
  bounds := by
    intro event hmem
    have hle := hevents.le
    have hnext := hmore.le
    rcases List.mem_append.mp hmem with hleft | hright
    · have hbounds := hevents.bounds event hleft
      omega
    · have hbounds := hmore.bounds event hright
      omega
  sorted := by
    rw [List.pairwise_append]
    refine ⟨hevents.sorted, hmore.sorted, fun event hleft other hright => ?_⟩
    exact (hevents.bounds event hleft).2.trans_le (hmore.bounds other hright).1

/-- The ranks reach no further than they may. -/
theorem mono {lower upper : ℕ} (hevents : Ascending rank first last events) (hlower : lower ≤ first)
    (hupper : last ≤ upper) : Ascending rank lower upper events where
  le := hlower.trans (hevents.le.trans hupper)
  bounds := by
    intro event hmem
    have hbounds := hevents.bounds event hmem
    omega
  sorted := hevents.sorted

end Ascending

/-! ## Emitters -/

/-- A machine whose steps emit events. -/
structure Emitter (State : Type u) (Action : Type v) (Event : Type w) where
  init : State → Prop
  step : State → Action → Option (State × List Event)

namespace Emitter

variable (emitter : Emitter State Action Event)

/-- The machine that keeps what has been emitted. -/
def machine : Machine (Machine.Recorded State Event) Action where
  init recorded := emitter.init recorded.state ∧ recorded.history = []
  step recorded action := (emitter.step recorded.state action).map fun taken =>
    { state := taken.1, history := recorded.history ++ taken.2 }

variable {emitter}

/-- A step of the machine is a step of the emitter. -/
theorem machine_step {recorded next : Machine.Recorded State Event} {action : Action}
    (hstep : emitter.machine.step recorded action = some next) :
    ∃ events, emitter.step recorded.state action = some (next.state, events) ∧
      next.history = recorded.history ++ events := by
  obtain ⟨⟨state, events⟩, htaken, rfl⟩ := Option.map_eq_some_iff.mp hstep
  exact ⟨events, htaken, rfl⟩

/-- What holds of a new state and no events, and is kept by every allowed step, holds of every run of
such steps. -/
theorem invariant_of_allowed (Inv : State → List Event → Prop)
    {allowed : Machine.Recorded State Event → Action → Prop}
    (hinit : ∀ state, emitter.init state → Inv state [])
    (hstep : ∀ state history action next events, Inv state history → allowed ⟨state, history⟩ action →
      emitter.step state action = some (next, events) → Inv next (history ++ events))
    {recorded : Machine.Recorded State Event} (hreach : emitter.machine.Reach allowed recorded) :
    Inv recorded.state recorded.history := by
  induction hreach with
  | init hstart =>
      obtain ⟨hstart, hhistory⟩ := hstart
      rw [hhistory]
      exact hinit _ hstart
  | step _ hallowed htaken ih =>
      obtain ⟨events, hemitted, hhistory⟩ := machine_step htaken
      rw [hhistory]
      exact hstep _ _ _ _ _ ih hallowed hemitted

/-- What holds of a new state and no events, and is kept by every step, holds of every run. -/
theorem invariant (Inv : State → List Event → Prop)
    (hinit : ∀ state, emitter.init state → Inv state [])
    (hstep : ∀ state history action next events, Inv state history →
      emitter.step state action = some (next, events) → Inv next (history ++ events))
    {recorded : Machine.Recorded State Event} (hreach : emitter.machine.Reachable recorded) :
    Inv recorded.state recorded.history :=
  invariant_of_allowed Inv hinit
    (fun state history action next events hinv _ => hstep state history action next events hinv)
    hreach

/-- If every step from where a run may be emits events in order, from its position to the next, so
does every run, as long as something holds that is never regained. -/
theorem ascending_while {rank : Event → ℕ} {first : ℕ} (position : State → ℕ) (Inv Still : State → Prop)
    (hinv : ∀ recorded, emitter.machine.Reachable recorded → Inv recorded.state)
    (hinit : ∀ state, emitter.init state → first ≤ position state)
    (hstill : ∀ state action next events, emitter.step state action = some (next, events) →
      Still next → Still state)
    (hstep : ∀ state action next events, Inv state → Still next →
      emitter.step state action = some (next, events) →
      Ascending rank (position state) (position next) events)
    {recorded : Machine.Recorded State Event} (hreach : emitter.machine.Reachable recorded)
    (hholds : Still recorded.state) :
    Ascending rank first (position recorded.state) recorded.history := by
  induction hreach with
  | init hstart =>
      obtain ⟨hstart, hhistory⟩ := hstart
      rw [hhistory]
      exact .nil (hinit _ hstart)
  | step hreach _ htaken ih =>
      obtain ⟨events, hemitted, hhistory⟩ := machine_step htaken
      rw [hhistory]
      exact (ih (hstill _ _ _ _ hemitted hholds)).append
        (hstep _ _ _ _ (hinv _ hreach) hholds hemitted)

/-- If every step from where a run may be emits events in order, from its position to the next, so
does every run. -/
theorem ascending {rank : Event → ℕ} {first : ℕ} (position : State → ℕ) (Inv : State → Prop)
    (hinv : ∀ recorded, emitter.machine.Reachable recorded → Inv recorded.state)
    (hinit : ∀ state, emitter.init state → first ≤ position state)
    (hstep : ∀ state action next events, Inv state →
      emitter.step state action = some (next, events) →
      Ascending rank (position state) (position next) events)
    {recorded : Machine.Recorded State Event} (hreach : emitter.machine.Reachable recorded) :
    Ascending rank first (position recorded.state) recorded.history :=
  ascending_while position Inv (fun _ => True) hinv hinit (fun _ _ _ _ _ _ => trivial)
    (fun state action next events hinv _ => hstep state action next events hinv) hreach trivial

end Emitter

end Pounce.Math
