/-
# The buckets of the rate limiter in order of access

The limiter tracks no more clients than it may, keeps them in the order in which they
were last seen, and makes room by forgetting the client that was not seen for the
longest time.

A client is seen when a check finds or makes its bucket, with the lock of the
dictionary held. `accessMachine` records these accesses, in the order the threads take
the lock, beside the limiter, and `Lru` compares the dictionary with the record. A
cleanup only forgets clients, whatever happens between its look at the buckets and
their deletion, so it disturbs neither the bound nor the order.
-/

import Pounce.Math.Recency
import Pounce.RateLimiter

namespace Pounce

open Pounce.Math

namespace RateLimiter

variable {Num : Type} [CommRing Num] [LinearOrder Num] (config : RateConfig Num)

/-! ## Accesses -/

/-- The client whose bucket a step finds or makes. -/
def access (limiter : RateLimiter Num) : LimiterAction Num → Option String
  | .act thread =>
      match limiter.phase thread with
      | .cleaned clientIp => some clientIp
      | _ => none
  | _ => none

/-- The clients that are tracked, in the order of the dictionary. -/
def tracked (limiter : RateLimiter Num) : List String := limiter.buckets.keys

end RateLimiter

section

variable {Num : Type} [CommRing Num] [LinearOrder Num] (config : RateConfig Num)

/-- A limiter, the threads that use it, and a record of the accesses. -/
def accessMachine :
    Machine (Machine.Recorded (RateLimiter Num) String) (LimiterAction Num) :=
  (limiterMachine config).recording RateLimiter.access

/-- The tracked clients are those seen last, in order, and never too many. -/
structure Lru (recorded : Machine.Recorded (RateLimiter Num) String) : Prop where
  bounded : recorded.state.tracked.length ≤ config.maxTrackedIps
  ordered : Recent recorded.history recorded.state.tracked
  /-- The client that an access forgets was not seen for longer than any other one tracked. -/
  evicted : ∀ action next caller client, (accessMachine config).step recorded action = some next →
    recorded.state.access action = some caller →
    client ∈ recorded.state.tracked → client ∉ next.state.tracked →
    ∀ other ∈ recorded.state.tracked, other ≠ client →
      since recorded.history other < since recorded.history client

end

/-! ## One step -/

namespace RateLimiter

variable {Num : Type} [CommRing Num] [LinearOrder Num] {config : RateConfig Num}
  {limiter next : RateLimiter Num} {thread : ℕ} {caller : String}

variable (config limiter caller) in
/-- The clients that stay tracked when a client is looked up, without that one. -/
def survivors : List String :=
  match limiter.buckets.get caller with
  | some _ => limiter.tracked.filter (· ≠ caller)
  | none => limiter.tracked.drop (limiter.tracked.length - (config.maxTrackedIps - 1))

theorem survivors_sublist : (limiter.survivors config caller).Sublist limiter.tracked := by
  rw [survivors]
  split
  · exact List.filter_sublist
  · exact List.drop_sublist ..

/-- Who is looked up is not among the survivors. -/
theorem caller_notMem_survivors : caller ∉ limiter.survivors config caller := by
  intro hmem
  rw [survivors] at hmem
  split at hmem
  case h_1 => simp at hmem
  case h_2 hnone =>
    have hkey : caller ∈ limiter.buckets.keys := List.mem_of_mem_drop hmem
    rw [Dict.mem_keys, hnone] at hkey
    cases hkey

/-- Who is looked up is tracked last. -/
theorem tracked_lookup :
    (limiter.lookup config thread caller).tracked = limiter.survivors config caller ++ [caller] := by
  rw [lookup, survivors]
  cases hnumber : limiter.buckets.get caller with
  | some number => exact Dict.keys_moveToEnd (by rw [hnumber, Option.isSome_some])
  | none =>
      have hshrunk : (limiter.buckets.shrink (config.maxTrackedIps - 1)).get caller = none := by
        cases hget : (limiter.buckets.shrink (config.maxTrackedIps - 1)).get caller with
        | none => rfl
        | some number =>
            rw [Dict.get_shrink hget] at hnumber
            cases hnumber
      show ((limiter.buckets.shrink (config.maxTrackedIps - 1)).set caller _).keys = _
      rw [Dict.keys_set hshrunk, Dict.keys_shrink]
      rfl

/-- There is room for who is looked up. -/
theorem length_survivors_lt (hbounded : limiter.tracked.length ≤ config.maxTrackedIps) :
    (limiter.survivors config caller).length < config.maxTrackedIps := by
  have hpos := config.maxTrackedIps_pos
  rw [survivors]
  split
  case h_1 number hnumber =>
    have hkey : caller ∈ limiter.tracked := Dict.mem_keys.mpr (by rw [hnumber, Option.isSome_some])
    have hless : (limiter.tracked.filter (· ≠ caller)).length < limiter.tracked.length :=
      List.length_filter_lt_length_iff_exists.mpr ⟨caller, hkey, by simp⟩
    exact lt_of_lt_of_le hless hbounded
  case h_2 =>
    rw [List.length_drop]
    omega

/-- At most the first one does not survive. -/
theorem first_of_notMem_survivors (hbounded : limiter.tracked.length ≤ config.maxTrackedIps)
    {client : String} (hclient : client ∈ limiter.tracked) (hcaller : client ≠ caller)
    (hgone : client ∉ limiter.survivors config caller) :
    ∃ rest, limiter.tracked = client :: rest := by
  rw [survivors] at hgone
  split at hgone
  case h_1 =>
    refine absurd (List.mem_filter.mpr ⟨hclient, ?_⟩) hgone
    simpa using hcaller
  case h_2 =>
    have hpos := config.maxTrackedIps_pos
    cases htracked : limiter.tracked with
    | nil =>
        rw [htracked] at hclient
        cases hclient
    | cons first rest =>
        rw [htracked] at hbounded hclient hgone
        refine ⟨rest, ?_⟩
        rcases List.mem_cons.mp hclient with rfl | hrest
        · rfl
        · refine absurd ?_ hgone
          rw [List.length_cons] at hbounded ⊢
          have hcount : rest.length + 1 - (config.maxTrackedIps - 1) ≤ 1 := by omega
          have hsuffix : (first :: rest).drop 1 <:+
              (first :: rest).drop (rest.length + 1 - (config.maxTrackedIps - 1)) :=
            List.drop_suffix_drop_left _ hcount
          exact hsuffix.subset hrest

/-- What a sweep does to the tracked clients. -/
theorem tracked_sweep {now : Num} {client : String} {rest : List String} {stage : SweepStage} :
    (limiter.sweep thread caller now client rest stage).tracked.Sublist limiter.tracked := by
  rw [sweep]
  dsimp only
  split
  case h_1 => exact List.Sublist.refl _
  case h_2 =>
    cases stage with
    | fullness => exact List.Sublist.refl _
    | idleness =>
        dsimp only
        split
        · exact List.Sublist.refl _
        · exact List.Sublist.refl _
    | deletion => exact Dict.keys_pop_sublist

/-- A step either looks a client up, or only forgets clients. -/
theorem tracked_step {action : LimiterAction Num} (hstep : limiter.step config action = some next) :
    (∃ caller, limiter.access action = some caller ∧
        next.tracked = limiter.survivors config caller ++ [caller]) ∨
      (limiter.access action = none ∧ next.tracked.Sublist limiter.tracked) := by
  cases action with
  | tick elapsed =>
      obtain ⟨-, rfl⟩ := Machine.of_guard hstep
      exact .inr ⟨rfl, List.Sublist.refl _⟩
  | call thread caller =>
      obtain ⟨-, rfl⟩ := Machine.of_guard hstep
      exact .inr ⟨rfl, List.Sublist.refl _⟩
  | act thread =>
      rw [step, act] at hstep
      rw [access]
      cases hphase : limiter.phase thread with
      | outside =>
          rw [hphase] at hstep
          cases hstep
      | entered caller now =>
          rw [hphase] at hstep
          obtain ⟨-, rfl⟩ := Machine.of_guard hstep
          exact .inr ⟨rfl, List.Sublist.refl _⟩
      | probing caller now snapshot stale notFull =>
          rw [hphase] at hstep
          refine .inr ⟨rfl, ?_⟩
          cases snapshot with
          | nil =>
              obtain ⟨-, rfl⟩ := Machine.of_guard hstep
              exact List.Sublist.refl _
          | cons entry rest =>
              obtain rfl := Option.some.inj hstep
              rw [probe]
              split <;> split <;> exact List.Sublist.refl _
      | sweeping caller now stale stage =>
          rw [hphase] at hstep
          refine .inr ⟨rfl, ?_⟩
          cases stale with
          | nil =>
              obtain rfl := Option.some.inj hstep
              exact List.Sublist.refl _
          | cons client rest =>
              obtain rfl := Option.some.inj hstep
              exact tracked_sweep
      | cleaned caller =>
          rw [hphase] at hstep
          obtain ⟨-, rfl⟩ := Machine.of_guard hstep
          exact .inl ⟨caller, rfl, tracked_lookup⟩
      | consuming caller number =>
          rw [hphase] at hstep
          obtain rfl := Option.some.inj hstep
          exact .inr ⟨rfl, List.Sublist.refl _⟩

end RateLimiter

/-! ## Whole runs -/

section

variable {Num : Type} [CommRing Num] [LinearOrder Num]

/-- In every run the limiter tracks no more clients than it may, in the order of their last
access, and an access forgets none but the one least recently seen. -/
theorem tracked_lru (config : RateConfig Num)
    {recorded : Machine.Recorded (RateLimiter Num) String}
    (hreach : (accessMachine config).Reachable recorded) : Lru config recorded := by
  have hkept : recorded.state.tracked.length ≤ config.maxTrackedIps ∧
      Recent recorded.history recorded.state.tracked := by
    apply hreach.invariant
    · intro recorded hinit
      obtain ⟨⟨start, hstate⟩, hhistory⟩ := hinit
      rw [hstate, hhistory]
      exact ⟨Nat.zero_le _, List.Pairwise.nil⟩
    · intro recorded action next hinv _ hstep
      obtain ⟨hbounded, hordered⟩ := hinv
      obtain ⟨htaken, hhistory⟩ := Machine.recording_step hstep
      rcases RateLimiter.tracked_step htaken with ⟨caller, haccess, htracked⟩ | ⟨haccess, htracked⟩
      · rw [hhistory, haccess, htracked]
        refine ⟨?_, ?_⟩
        · rw [List.length_append, List.length_singleton]
          exact RateLimiter.length_survivors_lt hbounded
        · apply Recent.touch
          · exact hordered.sublist RateLimiter.survivors_sublist
          · exact RateLimiter.caller_notMem_survivors
      · rw [hhistory, haccess]
        refine ⟨htracked.length_le.trans hbounded, ?_⟩
        rw [Option.toList_none, List.append_nil]
        exact hordered.sublist htracked
  obtain ⟨hbounded, hordered⟩ := hkept
  refine ⟨hbounded, hordered, ?_⟩
  intro action next caller client hstep haccess hclient hgone other hother hne
  obtain ⟨htaken, -⟩ := Machine.recording_step hstep
  rcases RateLimiter.tracked_step htaken with ⟨found, hfound, htracked⟩ | ⟨hnone, -⟩
  · rw [htracked, List.mem_append, List.mem_singleton, not_or] at hgone
    obtain ⟨rest, hrest⟩ := RateLimiter.first_of_notMem_survivors hbounded hclient hgone.2 hgone.1
    rw [hrest] at hordered hother
    rcases List.mem_cons.mp hother with heq | hmem
    · exact absurd heq hne
    · exact hordered.first hmem
  · rw [haccess] at hnone
    cases hnone

end

/-! ## Room for two -/

/-- Two clients are tracked. -/
def pairConfig : RateConfig ℤ :=
  { singleConfig with
    maxTrackedIps := 2
    maxTrackedIps_pos := by decide }

/-- A request of a client is checked from its start to its end, in so many steps. -/
def checkOf (check : String × ℕ) : List (LimiterAction ℤ) :=
  .call 0 check.1 :: List.replicate check.2 (.act 0)

/-- The first client comes back before a third one is seen. There is a cleanup when two clients
are tracked. -/
def checkedThird : List (LimiterAction ℤ) :=
  [("10.0.0.1", 3), ("10.0.0.2", 3), ("10.0.0.1", 9), ("10.0.0.3", 9)].flatMap checkOf

theorem tracked_checkedThird :
    ((accessMachine pairConfig).run { state := .initial pairConfig 0, history := [] }
      checkedThird).map (·.state.tracked) = some ["10.0.0.1", "10.0.0.3"] := by
  decide

theorem tracked_lru_third :
    ∃ recorded, (accessMachine pairConfig).run
        { state := .initial pairConfig 0, history := [] } checkedThird = some recorded ∧
      recorded.state.tracked = ["10.0.0.1", "10.0.0.3"] ∧ Lru pairConfig recorded := by
  obtain ⟨recorded, hrun, htracked⟩ := Option.map_eq_some_iff.mp tracked_checkedThird
  exact ⟨recorded, hrun, htracked,
    tracked_lru pairConfig (Machine.reachable_run ⟨⟨0, rfl⟩, rfl⟩ hrun)⟩

end Pounce
