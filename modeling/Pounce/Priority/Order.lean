/-
# Which stream is next, and when its turn comes again

The stream the scheduler picks is the least of the ready ones in the order of RFC 9218:
by urgency, non-incremental before incremental, and then by their places in the queue.
`peekLocked_iff` says so for every scheduler in good order.

A stream that has written goes to the end of its queue. What keeps its place in the queue
is then `Ahead` of it, and stays so until its own turn, whatever the scheduler does with
the other streams.
-/

import Pounce.Priority.Ready

namespace Pounce

open Pounce.Math

/-! ## The order of streams -/

/-- Streams of the first priority write before those of the second. -/
def StreamPriority.Before (first second : StreamPriority) : Prop :=
  first.urgency < second.urgency ∨
    first.urgency = second.urgency ∧ first.incremental = false ∧ second.incremental = true

theorem StreamPriority.Before.asymm {first second : StreamPriority} (hbefore : first.Before second) :
    ¬ second.Before first := by
  intro hafter
  rcases hbefore with hless | ⟨hsame, hfirst, -⟩
  · rcases hafter with hmore | ⟨heq, -⟩ <;> omega
  · rcases hafter with hmore | ⟨-, -, hsecond⟩
    · omega
    · rw [hfirst] at hsecond
      cases hsecond

theorem StreamPriority.Before.ne {first second : StreamPriority} (hbefore : first.Before second) :
    first ≠ second := by
  rintro rfl
  exact hbefore.asymm hbefore

namespace PriorityScheduler

variable {scheduler next : PriorityScheduler} {streamId other : ℕ} {priority : StreamPriority}

/-- The first stream stands before the second: by urgency, then non-incremental before
incremental, then by their places in their queue. -/
def Precedes (scheduler : PriorityScheduler) (first second : ℕ) : Prop :=
  (scheduler.priorityOf first).Before (scheduler.priorityOf second) ∨
    scheduler.priorityOf first = scheduler.priorityOf second ∧
      (scheduler.readyQueue (scheduler.priorityOf first)).idxOf first <
        (scheduler.readyQueue (scheduler.priorityOf first)).idxOf second

theorem Precedes.asymm (hprecedes : scheduler.Precedes streamId other) :
    ¬ scheduler.Precedes other streamId := by
  intro hafter
  rcases hprecedes with hbefore | ⟨hsame, hplace⟩
  · rcases hafter with hmore | ⟨heq, -⟩
    · exact hbefore.asymm hmore
    · exact hbefore.ne heq.symm
  · rcases hafter with hmore | ⟨-, hother⟩
    · exact hmore.ne hsame.symm
    · rw [hsame] at hplace
      exact lt_asymm hplace hother

/-- The queue of an urgency and a kind. -/
theorem readyQueue_noninc (urgency : ℕ) :
    scheduler.readyQueue { urgency, incremental := false } = scheduler.readyNoninc.queue urgency :=
  if_neg Bool.false_ne_true

theorem readyQueue_inc (urgency : ℕ) :
    scheduler.readyQueue { urgency, incremental := true } = scheduler.readyInc.queue urgency :=
  if_pos rfl

/-- An urgency with a stream in one of its queues is looked at. -/
theorem urgency_mem (hmem : streamId ∈ scheduler.readyQueue priority) :
    priority.urgency ∈ (scheduler.readyNoninc.keys ∪ scheduler.readyInc.keys).insertionSort
      (· ≤ ·) := by
  rw [List.mem_insertionSort, List.mem_union_iff]
  obtain ⟨urgency, incremental⟩ := priority
  cases incremental with
  | false => exact .inl (Buckets.mem_keys_of_mem_queue _ (readyQueue_noninc urgency ▸ hmem))
  | true => exact .inr (Buckets.mem_keys_of_mem_queue _ (readyQueue_inc urgency ▸ hmem))

/-- An urgency that has nothing to offer has nothing in its queues. -/
theorem notMem_of_head?_eq_none {urgency : ℕ}
    (hnone : ((scheduler.readyNoninc.queue urgency).head? <|>
      (scheduler.readyInc.queue urgency).head?) = none) (hurgency : priority.urgency = urgency) :
    streamId ∉ scheduler.readyQueue priority := by
  obtain ⟨own, incremental⟩ := priority
  obtain rfl : own = urgency := hurgency
  rw [Option.orElse_eq_orElse, Option.orElse_eq_or, Option.or_eq_none_iff,
    List.head?_eq_none_iff, List.head?_eq_none_iff] at hnone
  cases incremental with
  | false =>
      rw [readyQueue_noninc, hnone.1]
      exact List.not_mem_nil
  | true =>
      rw [readyQueue_inc, hnone.2]
      exact List.not_mem_nil

/-- Without a head there is no ready stream. -/
theorem notMem_of_peekLocked_eq_none (hpeek : scheduler.peekLocked = none) :
    streamId ∉ scheduler.readyQueue priority := by
  intro hmem
  have hnone := List.findSome?_eq_none_iff.mp hpeek _ (urgency_mem hmem)
  exact notMem_of_head?_eq_none hnone rfl hmem

/-- The head is the first of its queue, and every other queue with a stream comes later. -/
theorem peekLocked_spec (hpeek : scheduler.peekLocked = some streamId) :
    ∃ own, (scheduler.readyQueue own).head? = some streamId ∧
      ∀ other, other ∈ scheduler.readyQueue priority → priority = own ∨ own.Before priority := by
  obtain ⟨earlier, urgency, later, hsplit, hhead, hearlier⟩ := List.findSome?_eq_some_iff.mp hpeek
  have hsorted := List.pairwise_insertionSort (· ≤ ·)
    (scheduler.readyNoninc.keys ∪ scheduler.readyInc.keys)
  rw [hsplit] at hsorted
  have hleast : ∀ other, other ∈ scheduler.readyQueue priority → urgency ≤ priority.urgency := by
    intro other hmem
    have hurgency := urgency_mem hmem
    rw [hsplit, List.mem_append, List.mem_cons] at hurgency
    rcases hurgency with hbefore | heq | hafter
    · exact absurd hmem (notMem_of_head?_eq_none (hearlier _ hbefore) rfl)
    · exact heq.ge
    · exact List.rel_of_pairwise_cons (List.pairwise_append.mp hsorted).2.1 hafter
  cases hnoninc : (scheduler.readyNoninc.queue urgency).head? with
  | some first =>
      rw [hnoninc] at hhead
      obtain rfl : first = streamId := Option.some.inj hhead
      refine ⟨{ urgency, incremental := false }, (readyQueue_noninc urgency).symm ▸ hnoninc, ?_⟩
      intro other hmem
      obtain ⟨found, incremental⟩ := priority
      rcases lt_or_eq_of_le (hleast other hmem) with hless | hsame
      · exact .inr (.inl hless)
      · obtain rfl : urgency = found := hsame
        cases incremental with
        | false => exact .inl rfl
        | true => exact .inr (.inr ⟨rfl, rfl, rfl⟩)
  | none =>
      rw [hnoninc] at hhead
      refine ⟨{ urgency, incremental := true }, (readyQueue_inc urgency).symm ▸ hhead, ?_⟩
      intro other hmem
      obtain ⟨found, incremental⟩ := priority
      rcases lt_or_eq_of_le (hleast other hmem) with hless | hsame
      · exact .inr (.inl hless)
      · obtain rfl : urgency = found := hsame
        cases incremental with
        | false =>
            rw [readyQueue_noninc, List.head?_eq_none_iff.mp hnoninc] at hmem
            cases hmem
        | true => exact .inl rfl

/-- The head precedes every other ready stream. -/
theorem Filed.precedes_of_peekLocked (hfiled : scheduler.Filed)
    (hpeek : scheduler.peekLocked = some streamId) :
    scheduler.Ready streamId ∧
      ∀ other, scheduler.Ready other → other ≠ streamId → scheduler.Precedes streamId other := by
  have hready : scheduler.Ready streamId := by
    obtain ⟨own, hhead, -⟩ := @peekLocked_spec _ _ {} hpeek
    exact hfiled.ready_of_mem (List.mem_of_head? hhead)
  refine ⟨hready, ?_⟩
  intro other hother hne
  obtain ⟨own, hhead, hleast⟩ := @peekLocked_spec _ _ (scheduler.priorityOf other) hpeek
  have hown : scheduler.priorityOf streamId = own := hfiled.own own _ (List.mem_of_head? hhead)
  rw [Precedes, hown]
  rcases hleast other hother with hsame | hbefore
  · refine .inr ⟨hsame.symm, ?_⟩
    obtain ⟨rest, hrest⟩ := List.head?_eq_some_iff.mp hhead
    rw [hrest, List.idxOf_cons_self, List.idxOf_cons_ne _ (Ne.symm hne)]
    exact Nat.succ_pos _
  · exact .inl hbefore

/-- The head is the ready stream that precedes all others. -/
theorem Filed.peekLocked_iff (hfiled : scheduler.Filed) :
    scheduler.peekLocked = some streamId ↔ scheduler.Ready streamId ∧
      ∀ other, scheduler.Ready other → other ≠ streamId → scheduler.Precedes streamId other := by
  constructor
  · exact hfiled.precedes_of_peekLocked
  · intro ⟨hready, hleast⟩
    cases hpeek : scheduler.peekLocked with
    | none => exact absurd hready (notMem_of_peekLocked_eq_none hpeek)
    | some head =>
        obtain ⟨hhead, hfirst⟩ := hfiled.precedes_of_peekLocked hpeek
        by_contra hne
        have hother : head ≠ streamId := fun heq => hne (congrArg some heq)
        exact (hleast head hhead hother).asymm (hfirst streamId hready (Ne.symm hother))

/-- There is no head exactly when nothing is ready. -/
theorem Filed.peekLocked_eq_none_iff (hfiled : scheduler.Filed) :
    scheduler.peekLocked = none ↔ ∀ other, ¬ scheduler.Ready other := by
  constructor
  · exact fun hpeek other => notMem_of_peekLocked_eq_none hpeek
  · intro hnone
    cases hpeek : scheduler.peekLocked with
    | none => rfl
    | some head => exact absurd (hfiled.precedes_of_peekLocked hpeek).1 (hnone head)

/-! ## Places in a queue -/

/-- The stream is in the queue, and the other one is not before it. -/
def Ahead (streamId other : ℕ) (queue : List ℕ) : Prop :=
  ∃ before after, queue = before ++ streamId :: after ∧ other ∉ before

theorem Ahead.append {queue : List ℕ} (hahead : Ahead streamId other queue) (new : ℕ) :
    Ahead streamId other (queue ++ [new]) := by
  obtain ⟨before, after, rfl, hother⟩ := hahead
  refine ⟨before, after ++ [new], ?_, hother⟩
  rw [List.append_assoc, List.cons_append]

theorem Ahead.erase {queue : List ℕ} (hahead : Ahead streamId other queue) {gone : ℕ}
    (hgone : gone ≠ streamId) : Ahead streamId other (queue.erase gone) := by
  obtain ⟨before, after, rfl, hother⟩ := hahead
  by_cases hmem : gone ∈ before
  case pos =>
    refine ⟨before.erase gone, after, List.erase_append_left _ hmem, ?_⟩
    exact fun hleft => hother (List.mem_of_mem_erase hleft)
  case neg =>
    refine ⟨before, after.erase gone, ?_, hother⟩
    rw [List.erase_append_right _ hmem, List.erase_cons_tail (by simpa using Ne.symm hgone)]

/-- When another stream goes from the front to the end, the stream comes forward. -/
theorem Ahead.rotate {first : ℕ} {rest : List ℕ} (hahead : Ahead streamId other (first :: rest))
    (hfirst : first ≠ streamId) : first ≠ other ∧ Ahead streamId other (rest ++ [first]) := by
  obtain ⟨before, after, hqueue, hother⟩ := hahead
  cases before with
  | nil => exact absurd (List.cons.inj hqueue).1 hfirst
  | cons head before =>
      obtain ⟨rfl, rfl⟩ := List.cons.inj hqueue
      rw [List.mem_cons, not_or] at hother
      refine ⟨Ne.symm hother.1, before, after ++ [first], ?_, hother.2⟩
      show before ++ streamId :: after ++ [first] = _
      rw [List.append_assoc, List.cons_append]

/-- Who goes from the front to the end has all others ahead. -/
theorem ahead_of_rotated {rest : List ℕ} (hmem : streamId ∈ rest) (hother : other ∉ rest) :
    Ahead streamId other (rest ++ [other]) := by
  obtain ⟨before, after, rfl⟩ := List.append_of_mem hmem
  refine ⟨before, after ++ [other], ?_, fun hbefore => hother (List.mem_append_left _ hbefore)⟩
  rw [List.append_assoc, List.cons_append]

/-! ## What the operations do to a queue -/

/-- A stream that wrote goes from the front of its queue to the end. -/
theorem markWrote_rotates (hmark : scheduler.markWrote streamId = some next) :
    ∃ own rest, scheduler.readyQueue own = streamId :: rest ∧
      ∀ priority, next.readyQueue priority =
        if priority = own then rest ++ [streamId] else scheduler.readyQueue priority := by
  rw [markWrote] at hmark
  split at hmark
  case h_1 => cases hmark
  case h_2 own hown =>
    split at hmark
    case isFalse => cases hmark
    case isTrue hincremental =>
      split at hmark
      case h_1 => cases hmark
      case h_2 head rest hqueue =>
        split at hmark
        case isFalse => cases hmark
        case isTrue hhead =>
          obtain rfl := Option.some.inj hmark
          obtain ⟨urgency, incremental⟩ := own
          obtain rfl : incremental = true := hincremental
          obtain rfl : head = streamId := hhead
          refine ⟨{ urgency, incremental := true }, rest, (readyQueue_inc urgency).trans hqueue, ?_⟩
          rintro ⟨other, incremental⟩
          by_cases hurgency : other = urgency <;> cases incremental <;> simp [readyQueue, hurgency]

/-- An incremental stream that wrote at the front of its queue goes to the end. -/
theorem Filed.markWrote_front (hfiled : scheduler.Filed) (hincremental : priority.incremental = true)
    (hhead : (scheduler.readyQueue priority).head? = some streamId) :
    ∃ rest next, scheduler.readyQueue priority = streamId :: rest ∧
      scheduler.markWrote streamId = some next ∧ next.readyQueue priority = rest ++ [streamId] := by
  obtain ⟨rest, hqueue⟩ := List.head?_eq_some_iff.mp hhead
  have hown := hfiled.own priority streamId (List.mem_of_head? hhead)
  have hlookup : scheduler.priorities.lookup streamId = some priority := by
    cases hfound : scheduler.priorities.lookup streamId with
    | none =>
        rw [priorityOf, hfound, Option.getD_none] at hown
        rw [← hown] at hincremental
        cases hincremental
    | some found =>
        rw [priorityOf, hfound, Option.getD_some] at hown
        rw [hown]
  have hbucket : scheduler.readyInc.queue priority.urgency = streamId :: rest := by
    rw [readyQueue, if_pos hincremental] at hqueue
    exact hqueue
  refine ⟨rest, { scheduler with
    readyInc := scheduler.readyInc.insert priority.urgency (rest ++ [streamId]) }, hqueue, ?_, ?_⟩
  · simp only [PriorityScheduler.markWrote, hlookup, hincremental, hbucket, if_true]
  · rw [readyQueue, if_pos hincremental, Buckets.queue_insert_self]

/-- A stream whose priority changes leaves its queue, and goes to the end of the new one. -/
theorem Filed.readyQueue_setPriority (hfiled : scheduler.Filed) (streamId : ℕ)
    (priority queue : StreamPriority) :
    (scheduler.setPriority streamId priority).readyQueue queue =
      if scheduler.Ready streamId ∧ queue = priority then
        (scheduler.readyQueue queue).erase streamId ++ [streamId]
      else (scheduler.readyQueue queue).erase streamId := by
  have hgone : streamId ∉ (scheduler.readyQueue priority).erase streamId := by
    rw [(hfiled.nodup priority).mem_erase_iff]
    exact fun hboth => hboth.1 rfl
  rw [hfiled.setPriority_eq]
  by_cases hready : scheduler.Ready streamId
  case neg =>
    rw [if_neg hready, if_neg fun hboth => hready hboth.1]
    exact hfiled.readyQueue_registered ..
  case pos =>
    rw [if_pos hready, readyQueue_addToReady]
    simp only [hfiled.readyQueue_registered, hready, true_and]
    rw [if_neg hgone]
    by_cases hqueue : queue = priority
    case pos => rw [if_pos hqueue, if_pos hqueue, hqueue]
    case neg => rw [if_neg hqueue, if_neg hqueue]

/-- To schedule a stream twice is to schedule it once. -/
theorem schedule_schedule :
    (scheduler.schedule streamId).schedule streamId = scheduler.schedule streamId := by
  rw [schedule, schedule, priorities_addToReady]
  generalize (scheduler.priorities.lookup streamId).getD {} = priority
  obtain ⟨urgency, incremental⟩ := priority
  cases incremental with
  | false =>
      by_cases hmem : streamId ∈ scheduler.readyNoninc.queue urgency <;>
        simp [addToReady, hmem, AList.insert_insert]
  | true =>
      by_cases hmem : streamId ∈ scheduler.readyInc.queue urgency <;>
        simp [addToReady, hmem, AList.insert_insert]

theorem Filed.readyQueue_unschedule (hfiled : scheduler.Filed) (streamId : ℕ)
    (priority : StreamPriority) :
    (scheduler.unschedule streamId).readyQueue priority =
      (scheduler.readyQueue priority).erase streamId :=
  readyQueue_removeFromReady hfiled.unique priority

end PriorityScheduler

end Pounce
