/-
# Machines and their runs

A machine starts in one of its initial states and takes one enabled action at a
time. `Reach allowed` are the states of the runs whose every step is allowed:
with everything allowed these are the reachable states, and a guard singles out
the runs of a well-behaved environment.

A safety property is shown to hold in all of them by an invariant, which has to
hold initially and to be kept by every allowed step.
-/

import Mathlib.Data.Option.Basic

namespace Pounce.Math

universe u v

/-- Where a machine may start, and what an action does where it is enabled. -/
structure Machine (State : Type u) (Action : Type v) where
  /-- The states a run starts in. -/
  init : State → Prop
  /-- The state an action leads to, if it is enabled. -/
  step : State → Action → Option State

namespace Machine

variable {State : Type u} {Action : Type v} {machine : Machine State Action}
  {allowed : State → Action → Prop}

variable (machine allowed) in
/-- The states of the runs whose every step is allowed. -/
inductive Reach : State → Prop
  /-- A run starts in an initial state. -/
  | init {state : State} (hinit : machine.init state) : Reach state
  /-- A run goes on with an allowed step. -/
  | step {state next : State} {action : Action} (hreach : Reach state)
      (hallowed : allowed state action) (hstep : machine.step state action = some next) :
      Reach next

variable (machine) in
/-- The states of all runs. -/
abbrev Reachable : State → Prop := machine.Reach fun _ _ => True

/-- What holds initially and is kept by every allowed step holds in every state
of the runs. -/
theorem Reach.invariant {Inv : State → Prop} (hinit : ∀ state, machine.init state → Inv state)
    (hstep : ∀ state action next, Inv state → allowed state action →
      machine.step state action = some next → Inv next)
    {state : State} (hreach : machine.Reach allowed state) : Inv state := by
  induction hreach with
  | init hstart => exact hinit _ hstart
  | step _ hallowed htaken ih => exact hstep _ _ _ ih hallowed htaken

/-- What a stricter guard lets through is let through by a laxer one. -/
theorem Reach.mono {lax : State → Action → Prop} {state : State}
    (hreach : machine.Reach allowed state)
    (hlax : ∀ state action, allowed state action → lax state action) :
    machine.Reach lax state := by
  induction hreach with
  | init hinit => exact .init hinit
  | step _ hallowed hstep ih => exact ih.step (hlax _ _ hallowed) hstep

variable (machine) in
/-- Take the actions one after the other. -/
def run (state : State) (actions : List Action) : Option State :=
  actions.foldlM machine.step state

@[simp]
theorem run_nil (state : State) : machine.run state [] = some state := rfl

@[simp]
theorem run_cons (state : State) (action : Action) (actions : List Action) :
    machine.run state (action :: actions) =
      (machine.step state action).bind (machine.run · actions) := rfl

variable (machine allowed) in
/-- The actions are allowed in the states they are taken in. -/
def Along (state : State) : List Action → Prop
  | [] => True
  | action :: actions => allowed state action ∧
      ∀ next, machine.step state action = some next → Along next actions

theorem along_of_forall (hallowed : ∀ state action, allowed state action) (state : State)
    (actions : List Action) : machine.Along allowed state actions := by
  induction actions generalizing state with
  | nil => trivial
  | cons action actions ih => exact ⟨hallowed state action, fun next _ => ih next⟩

/-- The first action is allowed and leads to a state from which the rest are. -/
theorem Along.cons {state next : State} {action : Action} {actions : List Action}
    (hallowed : allowed state action) (hstep : machine.step state action = some next)
    (hrest : machine.Along allowed next actions) :
    machine.Along allowed state (action :: actions) := by
  refine ⟨hallowed, fun other hother => ?_⟩
  obtain rfl : next = other := Option.some.inj (hstep.symm.trans hother)
  exact hrest

/-- Take the actions one after the other and look whether each is allowed. -/
def guarded (machine : Machine State Action) (allowed : State → Action → Prop)
    [∀ state action, Decidable (allowed state action)] (state : State) : List Action → Bool
  | [] => true
  | action :: actions => decide (allowed state action) &&
      (machine.step state action).all (guarded machine allowed · actions)

/-- Having looked, one knows. -/
theorem along_of_guarded [∀ state action, Decidable (allowed state action)] {state : State}
    {actions : List Action} (hguarded : machine.guarded allowed state actions = true) :
    machine.Along allowed state actions := by
  induction actions generalizing state with
  | nil => trivial
  | cons action actions ih =>
      rw [guarded, Bool.and_eq_true, decide_eq_true_eq] at hguarded
      obtain ⟨hallowed, hrest⟩ := hguarded
      refine ⟨hallowed, fun next hstep => ih ?_⟩
      rw [hstep] at hrest
      exact hrest

/-- A run of allowed actions stays within the runs. -/
theorem Reach.run {state final : State} {actions : List Action}
    (hreach : machine.Reach allowed state) (hallowed : machine.Along allowed state actions)
    (hrun : machine.run state actions = some final) : machine.Reach allowed final := by
  induction actions generalizing state with
  | nil =>
      obtain rfl : state = final := by simpa using hrun
      exact hreach
  | cons action actions ih =>
      rw [run_cons, Option.bind_eq_some_iff] at hrun
      obtain ⟨next, hstep, hrest⟩ := hrun
      exact ih (hreach.step hallowed.1 hstep) (hallowed.2 next hstep) hrest

/-- Every run that can be taken leads to a reachable state. -/
theorem reachable_run {state final : State} {actions : List Action} (hinit : machine.init state)
    (hrun : machine.run state actions = some final) : machine.Reachable final :=
  Reach.run (.init hinit) (along_of_forall (fun _ _ => trivial) _ _) hrun

/-- A step with a guard is taken where the guard holds, and leads where it says. -/
theorem of_guard {guard : Prop} [Decidable guard] {state next : State}
    (hstep : (if guard then some state else none) = some next) : guard ∧ state = next := by
  obtain ⟨hguard, hnext⟩ := Option.ite_none_right_eq_some.mp hstep
  exact ⟨hguard, Option.some.inj hnext⟩

/-! ## Recording -/

/-- A state together with what has been observed on the way to it. -/
structure Recorded (State : Type u) (Event : Type*) where
  state : State
  /-- The observed events, oldest first. -/
  history : List Event

/-- The machine that also records what its steps let one observe. -/
def recording {Event : Type*} (machine : Machine State Action)
    (observe : State → Action → Option Event) : Machine (Recorded State Event) Action where
  init recorded := machine.init recorded.state ∧ recorded.history = []
  step recorded action :=
    (machine.step recorded.state action).map fun next =>
      { state := next, history := recorded.history ++ (observe recorded.state action).toList }

/-- A recorded step is a step with its event. -/
theorem recording_step {Event : Type*} {observe : State → Action → Option Event}
    {recorded next : Recorded State Event} {action : Action}
    (hstep : (machine.recording observe).step recorded action = some next) :
    machine.step recorded.state action = some next.state ∧
      next.history = recorded.history ++ (observe recorded.state action).toList := by
  obtain ⟨state, htaken, rfl⟩ := Option.map_eq_some_iff.mp hstep
  exact ⟨htaken, rfl⟩

end Machine

end Pounce.Math
