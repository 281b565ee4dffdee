/-
# Every worker is tracked

The handles that track the workers are those of `_handles` and, during a rolling
reload, of the list the reload keeps beside it: the new generation in thread mode, the
old one in subinterpreter mode. A ledger of the started targets shows that each worker
that runs has exactly one handle there, apart from threads that a reload could not
stop and gave up.

The lifecycle lock serializes only the entry of `_respawn_worker` with the reloads. The
statement is about the runs in which a respawn does not overlap a reload: `Apart` says
that no reload begins between that entry and the spawn, and that the entry finds the
handle that the watch loop found dead.
-/

import Mathlib.Data.List.Nodup
import Pounce.Supervisor

namespace Pounce.Supervisor

open Pounce.Math

/-! ## Counting handles -/

/-- How many of the handles are of the target. -/
def occurrences (target : ℕ) (handles : List WorkerHandle) : ℕ :=
  (handles.map WorkerHandle.target).count target

@[simp]
theorem occurrences_nil (target : ℕ) : occurrences target [] = 0 := rfl

@[simp]
theorem occurrences_append (target : ℕ) (first second : List WorkerHandle) :
    occurrences target (first ++ second) = occurrences target first + occurrences target second := by
  rw [occurrences, List.map_append, List.count_append]
  rfl

theorem occurrences_cons (target : ℕ) (handle : WorkerHandle) (handles : List WorkerHandle) :
    occurrences target (handle :: handles) =
      occurrences target handles + if handle.target = target then 1 else 0 := by
  simp [occurrences, List.count_cons]

@[simp]
theorem occurrences_singleton (target : ℕ) (handle : WorkerHandle) :
    occurrences target [handle] = if handle.target = target then 1 else 0 := by
  rw [occurrences_cons, occurrences_nil, Nat.zero_add]

/-- A handle is replaced in its list. -/
theorem occurrences_set (target : ℕ) {handles : List WorkerHandle} {index : ℕ}
    {old : WorkerHandle} (hold : handles[index]? = some old) (handle : WorkerHandle) :
    occurrences target (handles.set index handle) + (if old.target = target then 1 else 0) =
      occurrences target handles + if handle.target = target then 1 else 0 := by
  induction handles generalizing index with
  | nil => cases hold
  | cons first rest ih =>
      cases index with
      | zero =>
          obtain rfl : first = old := by simpa using hold
          rw [List.set_cons_zero, occurrences_cons, occurrences_cons]
          omega
      | succ index =>
          have hrest := ih (by simpa using hold)
          rw [List.set_cons_succ, occurrences_cons, occurrences_cons]
          omega

theorem occurrences_pos {target : ℕ} {handles : List WorkerHandle} :
    0 < occurrences target handles ↔ ∃ handle ∈ handles, handle.target = target := by
  simp [occurrences, List.count_pos_iff]

/-- Only the handles of living targets are kept. -/
theorem occurrences_living (state : State) (target : ℕ) (handles : List WorkerHandle) :
    occurrences target (state.living handles) =
      if state.alive target then occurrences target handles else 0 := by
  induction handles with
  | nil => simp [State.living]
  | cons first rest ih =>
      have hcons : state.living (first :: rest) =
          if state.alive first.target then first :: state.living rest else state.living rest := by
        rw [State.living, List.filter_cons]
        rfl
      rw [hcons, occurrences_cons]
      by_cases heq : first.target = target
      · subst heq
        split
        case isTrue halive => rw [occurrences_cons, ih, if_pos halive]
        case isFalse halive => rw [ih, if_neg halive]
      · rw [if_neg heq, Nat.add_zero, ← ih]
        split
        case isTrue => rw [occurrences_cons, if_neg heq, Nat.add_zero]
        case isFalse => rfl

/-- The ledger of the started targets: a living one has one handle, none has two, and
none is known before it is started. -/
structure Ledger (alive : ℕ → Bool) (nextTarget : ℕ) (handles : List WorkerHandle) : Prop where
  once : ∀ target, alive target → occurrences target handles = 1
  atMost : ∀ target, occurrences target handles ≤ 1
  started : ∀ target, nextTarget ≤ target → occurrences target handles = 0

namespace Ledger

variable {alive alive' : ℕ → Bool} {nextTarget : ℕ} {handles handles' : List WorkerHandle}

/-- Targets die. -/
theorem mono (hledger : Ledger alive nextTarget handles)
    (hmono : ∀ target, alive' target → alive target) : Ledger alive' nextTarget handles where
  once target halive := hledger.once target (hmono target halive)
  atMost := hledger.atMost
  started := hledger.started

/-- Handles are dropped, but none of a living target. -/
theorem drop (hledger : Ledger alive nextTarget handles)
    (hle : ∀ target, occurrences target handles' ≤ occurrences target handles)
    (hkept : ∀ target, alive target → occurrences target handles' = occurrences target handles) :
    Ledger alive nextTarget handles' where
  once target halive := (hkept target halive).trans (hledger.once target halive)
  atMost target := (hle target).trans (hledger.atMost target)
  started target hnew := Nat.le_zero.mp ((hle target).trans_eq (hledger.started target hnew))

/-- The handles are listed in another way. -/
theorem congr (hledger : Ledger alive nextTarget handles)
    (heq : ∀ target, occurrences target handles' = occurrences target handles) :
    Ledger alive nextTarget handles' :=
  hledger.drop (fun target => (heq target).le) fun target _ => heq target

/-- A target is started and its handle added, possibly in the place of a dead one. -/
theorem start (hledger : Ledger alive nextTarget handles)
    (hle : ∀ target, occurrences target handles' ≤
      occurrences target handles + if nextTarget = target then 1 else 0)
    (hkept : ∀ target, alive target ∨ nextTarget = target → occurrences target handles' =
      occurrences target handles + if nextTarget = target then 1 else 0) :
    Ledger (Function.update alive nextTarget true) (nextTarget + 1) handles' where
  once target halive := by
    rw [Function.update_apply] at halive
    split at halive
    case isTrue heq =>
      rw [hkept target (.inr heq.symm), if_pos heq.symm, hledger.started target heq.ge]
    case isFalse hne =>
      rw [hkept target (.inl halive), if_neg (Ne.symm hne), hledger.once target halive]
  atMost target := by
    refine (hle target).trans ?_
    split
    case isTrue heq => rw [hledger.started target heq.le]
    case isFalse => exact hledger.atMost target
  started target hnew := by
    have hzero := hle target
    rw [if_neg (by omega), hledger.started target (by omega)] at hzero
    exact Nat.le_zero.mp hzero

/-- A target with a handle was started. -/
theorem lt (hledger : Ledger alive nextTarget handles) {target : ℕ}
    (hpos : 0 < occurrences target handles) : target < nextTarget := by
  by_contra hle
  rw [hledger.started target (not_lt.mp hle)] at hpos
  exact absurd hpos (lt_irrefl 0)

end Ledger

/-! ## The invariant -/

/-- The handles that track the workers, with the content of `_handles`. -/
def Reload.entries (mode : WorkerMode) (current : List WorkerHandle) : Reload → List WorkerHandle
  | .spawning locals _ | .ready locals | .failing locals | .draining locals =>
    current ++ if mode = .subinterpreter then locals.oldHandles else locals.newHandles
  | _ => current

/-- The handles that track the workers. -/
def State.entries (mode : WorkerMode) (state : State) : List WorkerHandle :=
  state.reload.entries mode state.current

/-- The handles of a whole generation, or of its first workers: one per id, in order. -/
structure Roster (count generation : ℕ) (handles : List WorkerHandle) : Prop where
  ids : handles.map WorkerHandle.workerId = List.range count
  generations : ∀ handle ∈ handles, handle.generation = generation

/-- How the lists look at each point of a reload. -/
def Reload.Shape (mode : WorkerMode) (effectiveWorkers generation : ℕ)
    (current : List WorkerHandle) : Reload → Prop
  | .respawning next => next ≤ effectiveWorkers ∧ Roster next generation current
  | .spawning locals next =>
    next ≤ effectiveWorkers ∧
      Roster effectiveWorkers locals.oldGeneration locals.oldHandles ∧
      if mode = .subinterpreter then Roster next generation current
      else current = locals.oldHandles ∧ Roster next generation locals.newHandles
  | .ready locals | .draining locals | .failing locals =>
    Roster effectiveWorkers locals.oldGeneration locals.oldHandles ∧
      Roster effectiveWorkers generation locals.newHandles ∧
      current = if mode = .subinterpreter then locals.newHandles else locals.oldHandles
  | _ => Roster effectiveWorkers generation current

/-- How the lists look in a state. -/
def State.Shape (mode : WorkerMode) (effectiveWorkers : ℕ) (state : State) : Prop :=
  state.reload.Shape mode effectiveWorkers state.generation state.current

/-- The handle that the watch loop goes by as dead. -/
def Watch.found : Watch → Option WorkerHandle
  | .dead _ handle | .respawn _ handle | .budget _ _ handle | .backoff _ _ handle _ _
  | .spawning _ _ handle => some handle
  | _ => none

/-- The id and the handle of a respawn that is past its locked section. -/
def Watch.respawning : Watch → Option (ℕ × WorkerHandle)
  | .budget _ workerId handle | .backoff _ workerId handle _ _ | .spawning _ workerId handle =>
    some (workerId, handle)
  | _ => none

/-- The invariant of the runs in which no respawn overlaps a reload. -/
structure Tracked (mode : WorkerMode) (effectiveWorkers : ℕ) (state : State) : Prop where
  ledger : Ledger state.alive state.nextTarget (state.entries mode ++ state.outlived)
  /-- Handles in a list object are of started targets. -/
  known : ∀ list, ∀ handle ∈ state.lists list, handle.target < state.nextTarget
  shape : state.Shape mode effectiveWorkers
  /-- The handles are cleared once all are dead. -/
  cleared : state.reload = .clearing → ∀ handle ∈ state.current, state.alive handle.target = false
  /-- What the watch loop has found dead is dead. -/
  found : ∀ handle, state.watch.found = some handle →
    state.alive handle.target = false ∧ handle.target < state.nextTarget
  /-- While the watch loop respawns, no reload runs. -/
  respawning : ∀ workerId handle, state.watch.respawning = some (workerId, handle) →
    state.reload = .idle ∧ state.current[workerId]? = some handle

/-- A reload begins only while no respawn is under way, and a respawn that is not
skipped takes the handle that was found dead. -/
def Apart (state : State) : Action → Prop
  | .restartWorkers | .gracefulReload => state.reload = .idle → state.watch.respawning = none
  | .watch =>
    ∀ cursor handle, state.watch = .respawn cursor handle → state.reload = .idle →
      state.current[handle.workerId]? = some handle
  | _ => True

/-- The respawn that the watch loop is about to enter finds the handle that is dead. -/
def Watch.Finds (state : State) : Watch → Prop
  | .respawn _ handle => state.reload = .idle → state.current[handle.workerId]? = some handle
  | _ => True

theorem apart_watch_iff {state : State} : Apart state .watch ↔ state.watch.Finds state := by
  constructor
  · intro hapart
    cases hwatch : state.watch with
    | respawn cursor handle => exact hapart cursor handle hwatch
    | _ => trivial
  · intro hfinds cursor handle hwatch
    rwa [hwatch] at hfinds

instance (state : State) : (watch : Watch) → Decidable (watch.Finds state)
  | .respawn _ _ => inferInstanceAs (Decidable (_ → _))
  | .top | .waiting | .woken | .scanning _ | .dead .. | .budget .. | .backoff .. | .spawning ..
  | .left => .isTrue trivial

instance (state : State) : (action : Action) → Decidable (Apart state action)
  | .restartWorkers | .gracefulReload => inferInstanceAs (Decidable (_ → _))
  | .watch => decidable_of_iff _ apart_watch_iff.symm
  | .advance | .replacementFailed | .die _ | .tick _ => .isTrue trivial

/-! ## What the operations keep -/

@[simp]
theorem State.current_setCurrent (state : State) (list : List WorkerHandle) :
    (state.setCurrent list).current = list := by
  simp [State.current, State.setCurrent]

@[simp]
theorem State.current_assign (state : State) (list : List WorkerHandle) :
    (state.assign list).current = list := by
  simp [State.current, State.assign]

/-- Force-stopping touches nothing but the processes. -/
theorem State.forceStop_frame (state : State) (mode : WorkerMode) (handles : List WorkerHandle) :
    (state.forceStop mode handles).reload = state.reload ∧
      (state.forceStop mode handles).generation = state.generation ∧
      (state.forceStop mode handles).current = state.current := by
  simp only [State.forceStop]
  split <;> exact ⟨rfl, rfl, rfl⟩

theorem State.mem_lists_setCurrent {state : State} {list : List WorkerHandle} {name : ℕ}
    {handle : WorkerHandle} (hmem : handle ∈ (state.setCurrent list).lists name) :
    handle ∈ list ∨ handle ∈ state.lists name := by
  simp only [State.setCurrent, Function.update_apply] at hmem
  split at hmem
  case isTrue => exact .inl hmem
  case isFalse => exact .inr hmem

theorem State.mem_lists_assign {state : State} {list : List WorkerHandle} {name : ℕ}
    {handle : WorkerHandle} (hmem : handle ∈ (state.assign list).lists name) :
    handle ∈ list ∨ handle ∈ state.lists name := by
  simp only [State.assign, Function.update_apply] at hmem
  split at hmem
  case isTrue => exact .inl hmem
  case isFalse => exact .inr hmem

theorem State.current_spawnWorker (state : State) (workerId : ℕ) :
    (state.spawnWorker workerId).current =
      if workerId < state.current.length then state.current.set workerId (state.fresh workerId)
      else state.current ++ [state.fresh workerId] := by
  rw [State.spawnWorker, State.current_setCurrent]

theorem State.mem_lists_spawnWorker {state : State} {workerId name : ℕ} {handle : WorkerHandle}
    (hmem : handle ∈ (state.spawnWorker workerId).lists name) :
    handle = state.fresh workerId ∨ ∃ name, handle ∈ state.lists name := by
  rcases State.mem_lists_setCurrent hmem with hnew | hold
  · split at hnew
    case isTrue =>
      rcases List.mem_or_eq_of_mem_set hnew with hold | heq
      · exact .inr ⟨state.handles, hold⟩
      · exact .inl heq
    case isFalse =>
      rcases List.mem_append.mp hnew with hold | heq
      · exact .inr ⟨state.handles, hold⟩
      · exact .inl (List.mem_singleton.mp heq)
  · exact .inr ⟨name, hold⟩

/-- A roster is extended by the next worker. -/
theorem Roster.append {count generation : ℕ} {handles : List WorkerHandle}
    (hroster : Roster count generation handles) {handle : WorkerHandle}
    (hid : handle.workerId = count) (hgeneration : handle.generation = generation) :
    Roster (count + 1) generation (handles ++ [handle]) where
  ids := by rw [List.map_append, hroster.ids, List.range_succ, List.map_singleton, hid]
  generations other hmem := by
    rcases List.mem_append.mp hmem with hold | hnew
    · exact hroster.generations other hold
    · obtain rfl := List.mem_singleton.mp hnew
      exact hgeneration

/-- In a roster a worker is replaced by one with its id. -/
theorem Roster.set {count generation : ℕ} {handles : List WorkerHandle}
    (hroster : Roster count generation handles) {handle : WorkerHandle}
    (hgeneration : handle.generation = generation) :
    Roster count generation (handles.set handle.workerId handle) where
  ids := by
    rw [List.map_set, hroster.ids]
    by_cases hlt : handle.workerId < count
    · have hself := @List.set_getElem_self _ (List.range count) handle.workerId (by simpa)
      rwa [List.getElem_range] at hself
    · exact List.set_eq_of_length_le (by simpa using hlt)
  generations other hmem := by
    rcases List.mem_or_eq_of_mem_set hmem with hold | rfl
    · exact hroster.generations other hold
    · exact hgeneration

theorem Roster.length {count generation : ℕ} {handles : List WorkerHandle}
    (hroster : Roster count generation handles) : handles.length = count := by
  rw [← List.length_map WorkerHandle.workerId, hroster.ids, List.length_range]

namespace Tracked

variable {mode : WorkerMode} {effectiveWorkers : ℕ} {state : State}

/-- The watch loop moves, the clock ticks, the event is set or cleared. -/
theorem rewatch (htracked : Tracked mode effectiveWorkers state) (shutdown : Bool)
    (restarts : ℕ → List ℕ) (now : ℕ) {watch : Watch}
    (hfound : ∀ handle, watch.found = some handle →
      state.alive handle.target = false ∧ handle.target < state.nextTarget)
    (hrespawning : ∀ workerId handle, watch.respawning = some (workerId, handle) →
      state.reload = .idle ∧ state.current[workerId]? = some handle) :
    Tracked mode effectiveWorkers { state with shutdown, restarts, now, watch } where
  ledger := htracked.ledger
  known := htracked.known
  shape := htracked.shape
  cleared := htracked.cleared
  found := hfound
  respawning := hrespawning

/-- Workers die. -/
theorem lose (htracked : Tracked mode effectiveWorkers state) {alive : ℕ → Bool}
    (hmono : ∀ target, alive target → state.alive target) :
    Tracked mode effectiveWorkers { state with alive } := by
  have hdead : ∀ target, state.alive target = false → alive target = false := by
    intro target hdead
    by_contra halive
    rw [hmono target (by simpa using halive)] at hdead
    cases hdead
  exact { ledger := htracked.ledger.mono hmono
          known := htracked.known
          shape := htracked.shape
          cleared := fun h handle hmem => hdead _ (htracked.cleared h handle hmem)
          found := fun handle h => ⟨hdead _ (htracked.found handle h).1, (htracked.found handle h).2⟩
          respawning := htracked.respawning }

/-- Nobody respawns while a reload runs. -/
theorem not_respawning (htracked : Tracked mode effectiveWorkers state)
    (hreload : state.reload ≠ .idle) : state.watch.respawning = none := by
  by_contra hsome
  obtain ⟨⟨workerId, handle⟩, h⟩ := Option.ne_none_iff_exists'.mp hsome
  exact hreload (htracked.respawning workerId handle h).1

/-- The reload moves on without starting or giving up a worker. -/
theorem proceed (htracked : Tracked mode effectiveWorkers state) {next : State}
    (halive : next.alive = state.alive) (htarget : next.nextTarget = state.nextTarget)
    (hwatch : next.watch = state.watch) (hreload : state.watch.respawning = none)
    (hentries : ∀ target, occurrences target (next.entries mode ++ next.outlived) =
      occurrences target (state.entries mode ++ state.outlived))
    (hknown : ∀ list, ∀ handle ∈ next.lists list, handle.target < state.nextTarget)
    (hshape : next.Shape mode effectiveWorkers)
    (hcleared : next.reload = .clearing →
      ∀ handle ∈ next.current, state.alive handle.target = false) :
    Tracked mode effectiveWorkers next where
  ledger := by
    rw [halive, htarget]
    exact htracked.ledger.congr hentries
  known := by rwa [htarget]
  shape := hshape
  cleared := by rwa [halive]
  found := by
    rw [halive, htarget, hwatch]
    exact htracked.found
  respawning := by
    rw [hwatch, hreload]
    exact nofun

/-- A worker is started. -/
theorem spawned (htracked : Tracked mode effectiveWorkers state) {next : State}
    (halive : next.alive = Function.update state.alive state.nextTarget true)
    (htarget : next.nextTarget = state.nextTarget + 1)
    (hle : ∀ target, occurrences target (next.entries mode ++ next.outlived) ≤
      occurrences target (state.entries mode ++ state.outlived) +
        if state.nextTarget = target then 1 else 0)
    (hkept : ∀ target, state.alive target ∨ state.nextTarget = target →
      occurrences target (next.entries mode ++ next.outlived) =
        occurrences target (state.entries mode ++ state.outlived) +
          if state.nextTarget = target then 1 else 0)
    (hknown : ∀ list, ∀ handle ∈ next.lists list, handle.target ≤ state.nextTarget)
    (hshape : next.Shape mode effectiveWorkers) (hcleared : next.reload ≠ .clearing)
    (hfound : ∀ handle, next.watch.found = some handle →
      state.alive handle.target = false ∧ handle.target < state.nextTarget)
    (hrespawning : next.watch.respawning = none) :
    Tracked mode effectiveWorkers next where
  ledger := by
    rw [halive, htarget]
    exact htracked.ledger.start hle hkept
  known list handle hmem := by
    rw [htarget]
    exact Nat.lt_succ_of_le (hknown list handle hmem)
  shape := hshape
  cleared h := absurd h hcleared
  found handle h := by
    obtain ⟨hdead, hlt⟩ := hfound handle h
    rw [halive, htarget, Function.update_of_ne hlt.ne]
    exact ⟨hdead, hlt.trans (Nat.lt_succ_self _)⟩
  respawning := by
    rw [hrespawning]
    exact nofun

/-- `_spawn_worker` replaces a dead handle. -/
theorem respawn (htracked : Tracked mode effectiveWorkers state) {cursor : Cursor}
    {workerId : ℕ} {handle : WorkerHandle}
    (hwatch : state.watch = .spawning cursor workerId handle) :
    Tracked mode effectiveWorkers
      { state.spawnWorker workerId with watch := .scanning cursor.next } := by
  obtain ⟨hidle, hhandle⟩ := htracked.respawning workerId handle (by rw [hwatch]; rfl)
  obtain ⟨hdead, hlt⟩ := htracked.found handle (by rw [hwatch]; rfl)
  have hcurrent : (state.spawnWorker workerId).current =
      state.current.set workerId (state.fresh workerId) := by
    rw [State.current_spawnWorker, if_pos (List.getElem?_eq_some_iff.mp hhandle).1]
  have hentries (target : ℕ) : occurrences target
      (state.reload.entries mode (state.spawnWorker workerId).current ++ state.outlived) +
        (if handle.target = target then 1 else 0) =
      occurrences target (state.entries mode ++ state.outlived) +
        if state.nextTarget = target then 1 else 0 := by
    have hset := occurrences_set target hhandle (state.fresh workerId)
    rw [State.entries, hidle, hcurrent]
    simp only [Reload.entries, occurrences_append]
    have hfresh : (state.fresh workerId).target = state.nextTarget := rfl
    rw [hfresh] at hset
    omega
  have hshape : Roster effectiveWorkers state.generation state.current := by
    have hshape := htracked.shape
    rw [State.Shape, hidle] at hshape
    exact hshape
  refine htracked.spawned rfl rfl (fun target => ?_) (fun target htarget => ?_)
    (fun list other hmem => ?_) ?_ ?_ nofun rfl
  · exact (hentries target).symm ▸ Nat.le_add_right _ _
  · have hne : handle.target ≠ target := by
      rintro rfl
      rcases htarget with halive | hnew
      · rw [hdead] at halive
        cases halive
      · omega
    have hcount := hentries target
    rw [if_neg hne] at hcount
    exact hcount
  · rcases State.mem_lists_spawnWorker hmem with rfl | ⟨name, hold⟩
    · exact le_rfl
    · exact (htracked.known name other hold).le
  · change state.reload.Shape mode effectiveWorkers state.generation
      (state.spawnWorker workerId).current
    rw [hidle, hcurrent]
    exact @Roster.set _ _ _ hshape (state.fresh workerId) rfl
  · change state.reload ≠ .clearing
    rw [hidle]
    exact nofun

/-- A fresh worker is appended to the handles of the reload. -/
theorem spawnWorker (htracked : Tracked mode effectiveWorkers state) {next : Reload} {count : ℕ}
    (hreload : state.reload ≠ .idle) (hroster : Roster count state.generation state.current)
    (hentries : ∀ target, occurrences target
        (next.entries mode (state.current ++ [state.fresh count])) =
      occurrences target (state.entries mode) + if state.nextTarget = target then 1 else 0)
    (hshape : next.Shape mode effectiveWorkers state.generation
      (state.current ++ [state.fresh count])) (hnext : next ≠ .clearing) :
    Tracked mode effectiveWorkers { state.spawnWorker count with reload := next } := by
  have hcurrent : (state.spawnWorker count).current = state.current ++ [state.fresh count] := by
    rw [State.current_spawnWorker, hroster.length, if_neg (lt_irrefl count)]
  have hcount (target : ℕ) : occurrences target
      (next.entries mode (state.spawnWorker count).current ++ state.outlived) =
      occurrences target (state.entries mode ++ state.outlived) +
        if state.nextTarget = target then 1 else 0 := by
    rw [hcurrent, occurrences_append, occurrences_append, hentries]
    omega
  refine htracked.spawned rfl rfl (fun target => (hcount target).le) (fun target _ => hcount target)
    (fun list other hmem => ?_) ?_ hnext htracked.found (htracked.not_respawning hreload)
  · rcases State.mem_lists_spawnWorker hmem with rfl | ⟨name, hold⟩
    · exact le_rfl
    · exact (htracked.known name other hold).le
  · change next.Shape mode effectiveWorkers state.generation (state.spawnWorker count).current
    rw [hcurrent]
    exact hshape

/-- The retired handles are dropped, and the living ones among them given up. -/
theorem retire (htracked : Tracked mode effectiveWorkers state) {kept retired : List WorkerHandle}
    {generation : ℕ} {next : Reload} (hreload : state.reload ≠ .idle)
    (hentries : ∀ target, occurrences target (state.entries mode) =
      occurrences target kept + occurrences target retired)
    (hnext : ∀ current, next.entries mode current = current) (hclearing : next ≠ .clearing)
    (hshape : next.Shape mode effectiveWorkers generation kept) :
    Tracked mode effectiveWorkers { state.assign kept with
      generation
      reload := next
      outlived := state.outlived ++ state.living retired } where
  ledger := by
    have hcurrent := state.current_assign kept
    change Ledger state.alive state.nextTarget
      (next.entries mode (state.assign kept).current ++ (state.outlived ++ state.living retired))
    rw [hnext, hcurrent]
    refine htracked.ledger.drop (fun target => ?_) fun target halive => ?_
    · have hle : occurrences target (state.living retired) ≤ occurrences target retired := by
        rw [occurrences_living]
        split <;> omega
      simp only [occurrences_append, hentries]
      omega
    · simp only [occurrences_append, hentries, occurrences_living, if_pos halive]
      omega
  known list handle hmem := by
    rcases State.mem_lists_assign hmem with hkept | hold
    · have hpos := occurrences_pos.mpr ⟨handle, hkept, rfl⟩
      apply htracked.ledger.lt
      rw [occurrences_append, hentries]
      omega
    · exact htracked.known list handle hold
  shape := by
    change next.Shape mode effectiveWorkers generation (state.assign kept).current
    rwa [state.current_assign]
  cleared h := absurd h hclearing
  found := htracked.found
  respawning := by
    rw [show State.watch { state.assign kept with
      generation, reload := next, outlived := state.outlived ++ state.living retired } =
        state.watch from rfl, htracked.not_respawning hreload]
    exact nofun

/-- The event is set. -/
theorem notify (htracked : Tracked mode effectiveWorkers state) :
    Tracked mode effectiveWorkers state.setShutdown := by
  apply htracked.rewatch
  · intro handle hfound
    apply htracked.found
    cases hwatch : state.watch <;> simp_all [Watch.found]
  · intro workerId handle hrespawning
    apply htracked.respawning
    cases hwatch : state.watch <;> simp_all [Watch.respawning]

/-- The reload moves on, and the handles stay as they are. -/
theorem relabel (htracked : Tracked mode effectiveWorkers state) {next : Reload}
    (hreload : state.reload ≠ .idle)
    (hentries : next.entries mode state.current = state.entries mode)
    (hshape : next.Shape mode effectiveWorkers state.generation state.current)
    (hcleared : next = .clearing → ∀ handle ∈ state.current, state.alive handle.target = false) :
    Tracked mode effectiveWorkers { state with reload := next } :=
  htracked.proceed rfl rfl rfl (htracked.not_respawning hreload)
    (fun target => congrArg (fun handles => occurrences target (handles ++ state.outlived)) hentries)
    htracked.known hshape hcleared

/-- The same from a stage that is known. -/
theorem onward (htracked : Tracked mode effectiveWorkers state) {stage next : Reload}
    (hreload : state.reload = stage) (hstage : stage ≠ .idle)
    (hentries : next.entries mode state.current = stage.entries mode state.current)
    (hshape : next.Shape mode effectiveWorkers state.generation state.current)
    (hcleared : next = .clearing → ∀ handle ∈ state.current, state.alive handle.target = false) :
    Tracked mode effectiveWorkers { state with reload := next } := by
  subst hreload
  exact htracked.relabel hstage hentries hshape hcleared

/-- Workers are force-stopped. -/
theorem forceStop (htracked : Tracked mode effectiveWorkers state) (handles : List WorkerHandle) :
    Tracked mode effectiveWorkers (state.forceStop mode handles) := by
  simp only [State.forceStop]
  split
  case isTrue =>
    apply htracked.lose
    intro target halive
    exact (Bool.and_eq_true _ _ ▸ halive).1
  case isFalse => exact htracked

/-- The handles are cleared: all are of dead workers. -/
theorem clear (htracked : Tracked mode effectiveWorkers state)
    (hreload : state.reload = .clearing) :
    Tracked mode effectiveWorkers { state.setCurrent [] with reload := .respawning 0 } where
  ledger := by
    have hempty := state.current_setCurrent []
    change Ledger state.alive state.nextTarget ((state.setCurrent []).current ++ state.outlived)
    have hledger := htracked.ledger
    rw [State.entries, hreload] at hledger
    rw [hempty]
    refine hledger.drop (fun target => ?_) fun target halive => ?_
    · simp only [occurrences_append, occurrences_nil]
      omega
    · have hnone : occurrences target state.current = 0 := by
        by_contra hne
        obtain ⟨handle, hmem, rfl⟩ := occurrences_pos.mp (Nat.pos_of_ne_zero hne)
        rw [htracked.cleared hreload handle hmem] at halive
        cases halive
      simp only [occurrences_append, occurrences_nil, Reload.entries, hnone]
  known list handle hmem := by
    rcases State.mem_lists_setCurrent hmem with hnil | hold
    · cases hnil
    · exact htracked.known list handle hold
  shape := by
    change 0 ≤ effectiveWorkers ∧ Roster 0 state.generation (state.setCurrent []).current
    rw [state.current_setCurrent]
    exact ⟨Nat.zero_le _, rfl, nofun⟩
  cleared := nofun
  found := htracked.found
  respawning := by
    change ∀ workerId handle, state.watch.respawning = some (workerId, handle) → _
    rw [htracked.not_respawning (hreload ▸ nofun)]
    exact nofun

/-- A rolling reload begins with the handles as the old generation. -/
theorem roll (htracked : Tracked mode effectiveWorkers state) (hreload : state.reload = .rolling) :
    Tracked mode effectiveWorkers
      { if mode = .subinterpreter then state.assign [] else state with
        generation := state.generation + 1
        reload := .spawning { oldHandles := state.current, oldGeneration := state.generation,
                              newHandles := [] } 0 } := by
  have hrespawning := htracked.not_respawning (hreload ▸ nofun)
  have hroster : Roster effectiveWorkers state.generation state.current := by
    have hshape := htracked.shape
    rw [State.Shape, hreload] at hshape
    exact hshape
  have hentries : state.entries mode = state.current := by
    rw [State.entries, hreload]
    rfl
  by_cases hmode : mode = .subinterpreter
  · rw [if_pos hmode]
    refine htracked.proceed rfl rfl rfl hrespawning (fun target => ?_) (fun list handle hmem => ?_)
      ?_ nofun
    · simp only [State.entries] at hentries ⊢
      rw [hentries]
      change occurrences target (((state.assign []).current ++ _) ++ state.outlived) = _
      rw [state.current_assign, if_pos hmode]
      rfl
    · rcases State.mem_lists_assign hmem with hnil | hold
      · cases hnil
      · exact htracked.known list handle hold
    · refine ⟨Nat.zero_le _, hroster, ?_⟩
      rw [if_pos hmode]
      change Roster 0 _ (state.assign []).current
      rw [state.current_assign]
      exact ⟨rfl, nofun⟩
  · rw [if_neg hmode]
    refine htracked.proceed rfl rfl rfl hrespawning (fun target => ?_) htracked.known ?_ nofun
    · rw [hentries]
      change occurrences target ((state.current ++ _) ++ state.outlived) = _
      rw [if_neg hmode, List.append_nil]
    · refine ⟨Nat.zero_le _, hroster, ?_⟩
      rw [if_neg hmode]
      exact ⟨rfl, rfl, nofun⟩

/-- One more replacement is started. -/
theorem spawnReplacement (htracked : Tracked mode effectiveWorkers state) {rolling : Rolling}
    {count : ℕ} (hreload : state.reload = .spawning rolling count)
    (hlt : count < effectiveWorkers) :
    Tracked mode effectiveWorkers (state.spawnReplacement mode rolling count) := by
  have hshape := htracked.shape
  rw [State.Shape, hreload] at hshape
  obtain ⟨hle, hold, hnew⟩ := hshape
  simp only [State.spawnReplacement]
  split
  case isTrue hmode =>
    rw [if_pos hmode] at hnew
    refine htracked.spawnWorker (hreload ▸ nofun) hnew (fun target => ?_) ?_ nofun
    · rw [State.entries, hreload]
      simp only [Reload.entries, occurrences_append, occurrences_singleton]
      rw [show (state.fresh count).target = state.nextTarget from rfl]
      omega
    · refine ⟨hlt, hold, ?_⟩
      rw [if_pos hmode]
      exact hnew.append rfl rfl
  case isFalse hmode =>
    rw [if_neg hmode] at hnew
    obtain ⟨hcurrent, hroster⟩ := hnew
    have hcount (target : ℕ) : occurrences target (Reload.entries mode state.current
        (.spawning { rolling with newHandles := rolling.newHandles ++ [state.fresh count] }
          (count + 1)) ++ state.outlived) =
        occurrences target (state.entries mode ++ state.outlived) +
          if state.nextTarget = target then 1 else 0 := by
      rw [State.entries, hreload]
      simp only [Reload.entries, if_neg hmode, occurrences_append, occurrences_singleton]
      rw [show (state.fresh count).target = state.nextTarget from rfl]
      omega
    refine htracked.spawned rfl rfl (fun target => (hcount target).le)
      (fun target _ => hcount target) (fun list handle hmem => (htracked.known list handle hmem).le)
      ?_ nofun htracked.found (htracked.not_respawning (hreload ▸ nofun))
    refine ⟨hlt, hold, ?_⟩
    rw [if_neg hmode]
    exact ⟨hcurrent, hroster.append rfl rfl⟩

/-- The workers are told to stop. -/
theorem restart (htracked : Tracked mode effectiveWorkers state)
    (hreload : state.reload = .restarting) :
    Tracked mode effectiveWorkers { state.setShutdown with reload := .joining } := by
  have hshape := htracked.shape
  rw [State.Shape, hreload] at hshape
  exact htracked.notify.onward (show state.setShutdown.reload = _ from hreload) nofun rfl hshape nofun

/-- Workers that have not stopped in time are force-stopped. -/
theorem join (htracked : Tracked mode effectiveWorkers state) (hreload : state.reload = .joining) :
    Tracked mode effectiveWorkers { state.forceStop mode state.current with reload := .joined } := by
  have hshape := htracked.shape
  rw [State.Shape, hreload] at hshape
  obtain ⟨hreload', hgeneration, hcurrent⟩ := state.forceStop_frame mode state.current
  refine (htracked.forceStop state.current).onward (hreload'.trans hreload) nofun rfl ?_ nofun
  rw [hgeneration, hcurrent]
  exact hshape

/-- All workers have stopped, and the event is cleared. -/
theorem endJoin (htracked : Tracked mode effectiveWorkers state) (hreload : state.reload = .joined)
    (hdead : state.living state.current = []) :
    Tracked mode effectiveWorkers { state with shutdown := false, reload := .clearing } := by
  have hshape := htracked.shape
  rw [State.Shape, hreload] at hshape
  have hcleared := htracked.rewatch false state.restarts state.now htracked.found
    htracked.respawning
  refine hcleared.onward hreload nofun rfl hshape fun _ handle hmem => ?_
  simpa using List.filter_eq_nil_iff.mp hdead handle hmem

/-- One more worker is started again. -/
theorem restartWorker (htracked : Tracked mode effectiveWorkers state) {count : ℕ}
    (hreload : state.reload = .respawning count) (hlt : count < effectiveWorkers) :
    Tracked mode effectiveWorkers
      { state.spawnWorker count with reload := .respawning (count + 1) } := by
  have hshape := htracked.shape
  rw [State.Shape, hreload] at hshape
  refine htracked.spawnWorker (hreload ▸ nofun) hshape.2 (fun target => ?_) ?_ nofun
  · rw [State.entries, hreload]
    simp only [Reload.entries, occurrences_append, occurrences_singleton]
    rfl
  · exact ⟨hlt, hshape.2.append rfl rfl⟩

/-- All replacements have been started. -/
theorem prepared (htracked : Tracked mode effectiveWorkers state) {rolling other : Rolling}
    (hreload : state.reload = .spawning rolling effectiveWorkers)
    (hother : other =
      if mode = .subinterpreter then { rolling with newHandles := state.current } else rolling) :
    Tracked mode effectiveWorkers { state with reload := .ready other } := by
  have hshape := htracked.shape
  rw [State.Shape, hreload] at hshape
  obtain ⟨-, hold, hnew⟩ := hshape
  subst hother
  split
  case isTrue hmode =>
    rw [if_pos hmode] at hnew
    refine htracked.onward hreload nofun ?_ ⟨hold, hnew, (if_pos hmode).symm⟩ nofun
    simp only [Reload.entries, if_pos hmode]
  case isFalse hmode =>
    rw [if_neg hmode] at hnew
    refine htracked.onward hreload nofun ?_ ⟨hold, hnew.2, hnew.1.trans (if_neg hmode).symm⟩ nofun
    simp only [Reload.entries, if_neg hmode]

/-- The replacements are force-stopped, and the old handles take their place again. -/
theorem fail (htracked : Tracked mode effectiveWorkers state) {rolling : Rolling}
    (hreload : state.reload = .failing rolling) :
    Tracked mode effectiveWorkers
      { (state.forceStop mode rolling.newHandles).assign rolling.oldHandles with
        generation := rolling.oldGeneration
        reload := .aborted
        outlived := (state.forceStop mode rolling.newHandles).outlived ++
          (state.forceStop mode rolling.newHandles).living rolling.newHandles } := by
  have hshape := htracked.shape
  rw [State.Shape, hreload] at hshape
  obtain ⟨hreload', hgeneration, hcurrent⟩ := state.forceStop_frame mode rolling.newHandles
  rw [hreload] at hreload'
  refine (htracked.forceStop rolling.newHandles).retire (hreload' ▸ nofun) (fun target => ?_)
    (fun _ => rfl) nofun hshape.1
  rw [State.entries, hreload', hcurrent, hshape.2.2]
  simp only [Reload.entries, occurrences_append]
  split <;> omega

/-- The old workers are force-stopped, and the replacements take their place. -/
theorem drain (htracked : Tracked mode effectiveWorkers state) {rolling : Rolling}
    (hreload : state.reload = .draining rolling) :
    Tracked mode effectiveWorkers
      { (state.forceStop mode rolling.oldHandles).assign rolling.newHandles with
        reload := .completed
        outlived := (state.forceStop mode rolling.oldHandles).outlived ++
          (state.forceStop mode rolling.oldHandles).living rolling.oldHandles } := by
  have hshape := htracked.shape
  rw [State.Shape, hreload] at hshape
  obtain ⟨hreload', hgeneration, hcurrent⟩ := state.forceStop_frame mode rolling.oldHandles
  rw [hreload] at hreload'
  refine (htracked.forceStop rolling.oldHandles).retire (hreload' ▸ nofun) (fun target => ?_)
    (fun _ => rfl) nofun (hgeneration.symm ▸ hshape.2.1)
  rw [State.entries, hreload', hcurrent, hshape.2.2]
  simp only [Reload.entries, occurrences_append]
  split <;> omega

/-- A step of the reload thread. -/
theorem reloadStep (htracked : Tracked mode effectiveWorkers state) {next : State}
    (hstep : state.reloadStep mode effectiveWorkers = some next) :
    Tracked mode effectiveWorkers next := by
  have hshape := htracked.shape
  rw [State.Shape] at hshape
  simp only [State.reloadStep] at hstep
  cases hreload : state.reload with
  | idle => simp [hreload] at hstep
  | restarting =>
      simp only [hreload, Option.some.injEq] at hstep
      subst hstep
      exact htracked.restart hreload
  | joining =>
      simp only [hreload, Option.some.injEq] at hstep
      subst hstep
      exact htracked.join hreload
  | joined =>
      simp only [hreload] at hstep hshape
      split at hstep <;> obtain rfl := Option.some.inj hstep
      case isTrue => exact htracked.onward hreload nofun rfl hshape nofun
      case isFalse hdead => exact htracked.endJoin hreload (not_not.mp hdead)
  | clearing =>
      simp only [hreload, Option.some.injEq] at hstep
      subst hstep
      exact htracked.clear hreload
  | respawning count =>
      simp only [hreload] at hstep hshape
      split at hstep <;> obtain rfl := Option.some.inj hstep
      case isTrue hlt => exact htracked.restartWorker hreload hlt
      case isFalse hge =>
        obtain rfl : count = effectiveWorkers := Nat.le_antisymm hshape.1 (Nat.not_lt.mp hge)
        exact htracked.onward hreload nofun rfl hshape.2 nofun
  | rolling =>
      simp only [hreload, Option.some.injEq] at hstep
      subst hstep
      exact htracked.roll hreload
  | spawning rolling count =>
      simp only [hreload] at hstep hshape
      split at hstep
      case isTrue hlt =>
        obtain rfl := Option.some.inj hstep
        exact htracked.spawnReplacement hreload hlt
      case isFalse hge =>
        obtain rfl : count = effectiveWorkers := Nat.le_antisymm hshape.1 (Nat.not_lt.mp hge)
        split at hstep <;> obtain rfl := Option.some.inj hstep
        case isTrue hmode => exact htracked.prepared hreload (if_pos hmode).symm
        case isFalse hmode => exact htracked.prepared hreload (if_neg hmode).symm
  | ready rolling =>
      simp only [hreload, Option.some.injEq] at hstep hshape
      subst hstep
      exact htracked.onward hreload nofun rfl hshape nofun
  | failing rolling =>
      simp only [hreload, Option.some.injEq] at hstep
      subst hstep
      exact htracked.fail hreload
  | draining rolling =>
      simp only [hreload, Option.some.injEq] at hstep
      subst hstep
      exact htracked.drain hreload
  | completed | aborted =>
      simp only [hreload, Option.some.injEq] at hstep hshape
      subst hstep
      exact htracked.onward hreload nofun rfl hshape nofun

/-- A step of the watch loop that does not take up a stale handle. -/
theorem watchStep (htracked : Tracked mode effectiveWorkers state) (hapart : Apart state .watch)
    {next : State} (hstep : state.watchStep = some next) : Tracked mode effectiveWorkers next := by
  have hmove (shutdown : Bool) {watch : Watch} (hfound : watch.found = none)
      (hrespawning : watch.respawning = none) :
      Tracked mode effectiveWorkers { state with shutdown, watch } :=
    htracked.rewatch shutdown state.restarts state.now
      (by rw [hfound]; exact nofun) (by rw [hrespawning]; exact nofun)
  simp only [State.watchStep] at hstep
  cases hwatch : state.watch with
  | top =>
      simp only [hwatch] at hstep
      split at hstep <;> obtain rfl := Option.some.inj hstep
      · exact hmove true rfl rfl
      · exact hmove state.shutdown rfl rfl
  | waiting =>
      simp only [hwatch] at hstep
      obtain rfl := Option.some.inj hstep
      exact hmove state.shutdown rfl rfl
  | woken =>
      simp only [hwatch] at hstep
      split at hstep <;> obtain rfl := Option.some.inj hstep
      · exact hmove true rfl rfl
      · exact hmove state.shutdown rfl rfl
  | scanning cursor =>
      simp only [hwatch] at hstep
      split at hstep
      case h_1 =>
        obtain rfl := Option.some.inj hstep
        exact hmove state.shutdown rfl rfl
      case h_2 handle hhandle =>
        split at hstep <;> obtain rfl := Option.some.inj hstep
        case isTrue => exact hmove state.shutdown rfl rfl
        case isFalse hdead =>
          refine htracked.rewatch _ _ _ (fun other hother => ?_) nofun
          obtain rfl : handle = other := Option.some.inj hother
          exact ⟨by simpa using hdead, htracked.known _ _ (List.mem_of_getElem? hhandle)⟩
  | dead cursor handle =>
      have hfound := htracked.found
      simp only [hwatch] at hstep hfound
      split at hstep <;> obtain rfl := Option.some.inj hstep
      case isTrue => exact hmove state.shutdown rfl rfl
      case isFalse => exact htracked.rewatch _ _ _ hfound nofun
  | respawn cursor handle =>
      have hfound := htracked.found
      simp only [hwatch] at hstep hfound
      split at hstep
      case isTrue =>
        obtain rfl := Option.some.inj hstep
        exact hmove state.shutdown rfl rfl
      case isFalse hidle =>
        have hcurrent := hapart cursor handle hwatch (not_not.mp hidle)
        rw [hcurrent] at hstep
        obtain rfl := Option.some.inj hstep
        refine htracked.rewatch _ _ _ hfound fun workerId other hother => ?_
        obtain ⟨rfl, rfl⟩ := Prod.mk.inj (Option.some.inj hother)
        exact ⟨not_not.mp hidle, hcurrent⟩
  | budget cursor workerId handle =>
      have hfound := htracked.found
      have hrespawning := htracked.respawning
      simp only [hwatch] at hstep hfound hrespawning
      obtain rfl := Option.some.inj hstep
      simp only [State.budget]
      split
      case isTrue => exact htracked.rewatch _ _ _ nofun nofun
      case isFalse => exact htracked.rewatch _ _ _ hfound hrespawning
  | backoff cursor workerId handle deadline notified =>
      have hfound := htracked.found
      have hrespawning := htracked.respawning
      simp only [hwatch] at hstep hfound hrespawning
      split at hstep
      case isTrue =>
        obtain rfl := Option.some.inj hstep
        exact hmove state.shutdown rfl rfl
      case isFalse =>
        obtain ⟨-, rfl⟩ := Machine.of_guard hstep
        exact htracked.rewatch _ _ _ hfound hrespawning
  | spawning cursor workerId handle =>
      simp only [hwatch] at hstep
      obtain rfl := Option.some.inj hstep
      exact htracked.respawn hwatch
  | left => simp [hwatch] at hstep

/-- A reload takes the flag. -/
theorem begin (htracked : Tracked mode effectiveWorkers state) (hidle : state.reload = .idle)
    (hrespawning : state.watch.respawning = none) {next : Reload}
    (hnext : next = .restarting ∨ next = .rolling) :
    Tracked mode effectiveWorkers { state with reload := next } := by
  have hshape := htracked.shape
  rw [State.Shape, hidle] at hshape
  refine htracked.proceed rfl rfl rfl hrespawning (fun target => ?_) htracked.known ?_ ?_
  · rw [State.entries, State.entries, hidle]
    rcases hnext with rfl | rfl <;> rfl
  · rcases hnext with rfl | rfl <;> exact hshape
  · rcases hnext with rfl | rfl <;> exact nofun

/-- Every step keeps the invariant while respawns and reloads are apart. -/
theorem step (htracked : Tracked mode effectiveWorkers state) {action : Action}
    (hapart : Apart state action) {next : State}
    (hstep : Supervisor.step mode effectiveWorkers state action = some next) :
    Tracked mode effectiveWorkers next := by
  cases action with
  | watch => exact htracked.watchStep hapart hstep
  | advance => exact htracked.reloadStep hstep
  | replacementFailed =>
      simp only [Supervisor.step] at hstep
      split at hstep
      case h_1 rolling hreload =>
        obtain ⟨-, rfl⟩ := Machine.of_guard hstep
        have hshape := htracked.shape
        rw [State.Shape, hreload] at hshape
        refine htracked.relabel (hreload ▸ nofun) ?_ hshape nofun
        rw [State.entries, hreload]
        rfl
      case h_2 => cases hstep
  | restartWorkers =>
      simp only [Supervisor.step] at hstep
      split at hstep <;> obtain rfl := Option.some.inj hstep
      case isTrue hidle => exact htracked.begin hidle (hapart hidle) (.inl rfl)
      case isFalse => exact htracked
  | gracefulReload =>
      simp only [Supervisor.step] at hstep
      split at hstep <;> obtain rfl := Option.some.inj hstep
      case isTrue hidle =>
        apply htracked.begin hidle (hapart hidle)
        split
        case isTrue => exact .inl rfl
        case isFalse => exact .inr rfl
      case isFalse => exact htracked
  | die target =>
      simp only [Supervisor.step] at hstep
      obtain ⟨-, rfl⟩ := Machine.of_guard hstep
      apply htracked.lose
      intro other halive
      rw [Function.update_apply] at halive
      split at halive
      case isTrue => cases halive
      case isFalse => exact halive
  | tick elapsed =>
      obtain rfl := Option.some.inj hstep
      exact htracked.rewatch _ _ _ htracked.found htracked.respawning

/-- The workers that `run` starts are tracked. -/
theorem initial : Tracked mode effectiveWorkers (begun effectiveWorkers) := by
  have hids : (begun effectiveWorkers).current.map WorkerHandle.workerId =
      List.range effectiveWorkers := by
    simp [State.current, Supervisor.begun, Function.comp_def]
  have htargets : (begun effectiveWorkers).current.map WorkerHandle.target =
      List.range effectiveWorkers := by
    simp [State.current, Supervisor.begun, Function.comp_def]
  have hcount (target : ℕ) : occurrences target ((begun effectiveWorkers).current ++ []) =
      (List.range effectiveWorkers).count target := by
    rw [List.append_nil, occurrences, htargets]
  exact {
    ledger := {
      once := fun target halive => by
        refine (hcount target).trans (List.count_eq_one_of_mem List.nodup_range ?_)
        simpa [Supervisor.begun] using halive
      atMost := fun target => (hcount target).trans_le
        (List.nodup_iff_count.mp List.nodup_range target)
      started := fun target hnew => (hcount target).trans
        (List.count_eq_zero_of_not_mem fun hmem => absurd (List.mem_range.mp hmem) (not_lt.mpr hnew)) }
    known := fun list handle hmem => by
      simp only [Supervisor.begun] at hmem ⊢
      split at hmem
      case isTrue =>
        obtain ⟨id, hid, rfl⟩ := List.mem_map.mp hmem
        exact List.mem_range.mp hid
      case isFalse => cases hmem
    shape := ⟨hids, fun handle hmem => by
      obtain ⟨id, -, rfl⟩ := List.mem_map.mp hmem
      rfl⟩
    cleared := nofun
    found := nofun
    respawning := nofun }

end Tracked

/-! ## Every run -/

/-- While respawns and reloads are apart, each living worker has exactly one handle in
`_handles` or in the list beside it, a respawn replaces only dead handles, and a
completed reload leaves one worker per id, of the new generation; workers that
outlived the reload that retired them are accounted for on their own. -/
theorem tracked_once {mode : WorkerMode} {effectiveWorkers : ℕ} {state : State}
    (hreach : (supervisor mode effectiveWorkers).Reach Apart state) :
    (∀ target, state.alive target →
      occurrences target (state.entries mode ++ state.outlived) = 1) ∧
    (∀ cursor workerId handle, state.watch = .spawning cursor workerId handle →
      ∀ replaced, state.current[workerId]? = some replaced →
        state.alive replaced.target = false) ∧
    (state.reload = .completed → Roster effectiveWorkers state.generation state.current ∧
      ∀ target, state.alive target → ∃ handle ∈ state.current ++ state.outlived,
        handle.target = target) := by
  have htracked : Tracked mode effectiveWorkers state := by
    apply hreach.invariant
    · rintro _ rfl
      exact Tracked.initial
    · exact fun _ _ _ htracked hapart hstep => htracked.step hapart hstep
  refine ⟨htracked.ledger.once, fun cursor workerId handle hwatch replaced hreplaced => ?_,
    fun hcompleted => ⟨?_, fun target halive => ?_⟩⟩
  · obtain ⟨-, hhandle⟩ := htracked.respawning workerId handle (by rw [hwatch]; rfl)
    obtain rfl : handle = replaced := Option.some.inj (hhandle.symm.trans hreplaced)
    exact (htracked.found handle (by rw [hwatch]; rfl)).1
  · have hshape := htracked.shape
    rw [State.Shape, hcompleted] at hshape
    exact hshape
  · have honce := htracked.ledger.once target halive
    rw [State.entries, hcompleted] at honce
    exact occurrences_pos.mp (honce.symm ▸ Nat.one_pos)

/-- The second of two thread workers crashes and is started again; then comes a rolling reload, in
which the first does not end in time. -/
def crashAndReload : List Action :=
  [.die 1, .watch, .watch, .watch, .watch, .watch, .watch, .watch, .watch, .tick 500, .watch, .watch,
    .watch, .watch, .gracefulReload, .advance, .advance, .advance, .advance, .advance, .die 2,
    .advance]

/-- The supervisor of the two after that. -/
def afterCrashAndReload : State :=
  ((supervisor .thread 2).run (begun 2) crashAndReload).getD (begun 2)

/-- The reload leaves two workers of the next generation, and accounts for the one that runs on. -/
theorem tracked_once_crashAndReload :
    (∀ target, afterCrashAndReload.alive target →
      occurrences target (afterCrashAndReload.entries .thread ++ afterCrashAndReload.outlived) = 1) ∧
    Roster 2 1 afterCrashAndReload.current ∧
    afterCrashAndReload.outlived.map (·.target) = [0] := by
  have hrun : (supervisor .thread 2).run (begun 2) crashAndReload = some afterCrashAndReload := rfl
  have hapart : (supervisor .thread 2).Along (fun state action => Apart state action) (begun 2)
      crashAndReload := Machine.along_of_guarded (by decide +kernel)
  have htracked := tracked_once (.run (.init rfl) hapart hrun)
  exact ⟨htracked.1, (htracked.2.2 rfl).1, rfl⟩

/-- The state after these actions of a supervisor of one thread worker. -/
def after (actions : List Action) : State :=
  ((supervisor .thread 1).run (begun 1) actions).getD (begun 1)

/-- The old generation that a rolling reload is draining. -/
def State.drained (state : State) : List WorkerHandle :=
  match state.reload with
  | .spawning rolling _ | .ready rolling | .failing rolling | .draining rolling =>
    rolling.oldHandles
  | _ => []

/-- A replacement is in neither list while it is being started, a respawn can replace a
living worker, and a thread that does not drain in time runs on beside its replacement. -/
theorem tracking_fails :
    (¬ ∀ state, (supervisor .thread 1).Reachable state → ∀ target, state.alive target →
      ∃ handle ∈ state.current ++ state.drained, handle.target = target) ∧
    (¬ ∀ state, (supervisor .thread 1).Reachable state → ∀ cursor workerId handle,
      state.watch = .spawning cursor workerId handle → ∀ replaced,
        state.current[workerId]? = some replaced → state.alive replaced.target = false) ∧
    ¬ ∀ state, (supervisor .thread 1).Reachable state → state.reload = .completed →
      ∀ target, state.alive target → ∃ handle ∈ state.current, handle.target = target := by
  have hreach (actions : List Action)
      (hrun : (supervisor .thread 1).run (begun 1) actions = some (after actions)) :
      (supervisor .thread 1).Reachable (after actions) := Machine.reachable_run rfl hrun
  refine ⟨fun hclaim => ?_, fun hclaim => ?_, fun hclaim => ?_⟩
  · exact absurd (hclaim _ (hreach [.gracefulReload, .advance, .advance] rfl) 1) (by decide)
  · exact absurd (hclaim _ (hreach
      [.die 0, .watch, .watch, .watch, .watch, .watch, .watch, .watch, .gracefulReload, .advance,
        .advance, .advance, .advance, .advance, .advance, .tick 500, .watch] rfl)
      { list := 0, index := 0 } 0 { workerId := 0, target := 0, generation := 0 } rfl
      { workerId := 0, target := 1, generation := 1 }) (by decide)
  · exact absurd (hclaim _ (hreach [.gracefulReload, .advance, .advance, .advance, .advance,
      .advance] rfl) rfl 0) (by decide)

end Pounce.Supervisor
