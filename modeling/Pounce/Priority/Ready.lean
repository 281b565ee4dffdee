/-
# The ready set of the priority scheduler

The queues of the scheduler are one for each priority, and a stream belongs into the one of
its own priority. `Filed` says that no stream is anywhere else and none is in its queue
twice. All operations keep it, and it makes of the search through the queues what it is
meant to be: a stream that is taken out of the first queue it is found in is then in none.
-/

import Pounce.Priority

namespace Pounce

namespace Buckets

variable (buckets : Buckets)

@[simp]
theorem queue_insert_self (urgency : ℕ) (queue : List ℕ) :
    Buckets.queue (buckets.insert urgency queue) urgency = queue := by
  rw [Buckets.queue, AList.lookup_insert, Option.getD_some]

@[simp]
theorem queue_insert_of_ne {urgency other : ℕ} (queue : List ℕ) (hne : other ≠ urgency) :
    Buckets.queue (buckets.insert urgency queue) other = buckets.queue other := by
  rw [Buckets.queue, AList.lookup_insert_ne hne, Buckets.queue]

/-- Only an urgency that has a queue can have something in it. -/
theorem mem_keys_of_mem_queue {urgency streamId : ℕ} (hmem : streamId ∈ buckets.queue urgency) :
    urgency ∈ buckets.keys := by
  by_contra hkeys
  rw [Buckets.queue, AList.lookup_eq_none.mpr hkeys] at hmem
  cases hmem

end Buckets

namespace PriorityScheduler

/-- The priority of a stream, the default one if none is registered. -/
def priorityOf (scheduler : PriorityScheduler) (streamId : ℕ) : StreamPriority :=
  (scheduler.priorities.lookup streamId).getD {}

/-- The queue of a priority. -/
def readyQueue (scheduler : PriorityScheduler) (priority : StreamPriority) : List ℕ :=
  if priority.incremental then scheduler.readyInc.queue priority.urgency
  else scheduler.readyNoninc.queue priority.urgency

/-- Streams are in the queue of their own priority only, and once. -/
structure Filed (scheduler : PriorityScheduler) : Prop where
  nodup : ∀ priority, (scheduler.readyQueue priority).Nodup
  own : ∀ priority, ∀ streamId ∈ scheduler.readyQueue priority,
    scheduler.priorityOf streamId = priority

/-- The stream is in the ready set. -/
def Ready (scheduler : PriorityScheduler) (streamId : ℕ) : Prop :=
  streamId ∈ scheduler.readyQueue (scheduler.priorityOf streamId)

instance (scheduler : PriorityScheduler) (streamId : ℕ) : Decidable (scheduler.Ready streamId) :=
  inferInstanceAs (Decidable (_ ∈ _))

variable {scheduler : PriorityScheduler} {streamId : ℕ}

/-- A stream that is in a queue is ready. -/
theorem Filed.ready_of_mem (hfiled : scheduler.Filed) {priority : StreamPriority}
    (hmem : streamId ∈ scheduler.readyQueue priority) : scheduler.Ready streamId := by
  rw [Ready, hfiled.own priority streamId hmem]
  exact hmem

/-- At first nothing is ready. -/
theorem filed_empty : ({} : PriorityScheduler).Filed where
  nodup priority := by
    rw [readyQueue]
    split <;> exact List.nodup_nil
  own priority streamId hmem := by
    rw [readyQueue] at hmem
    split at hmem <;> cases hmem

/-! ## Putting a stream into a queue -/

variable (scheduler) in
theorem priorityOf_addToReady (streamId other : ℕ) (priority : StreamPriority) :
    (scheduler.addToReady streamId priority).priorityOf other = scheduler.priorityOf other := by
  rw [addToReady]
  dsimp only
  split <;> rfl

variable (scheduler) in
/-- Only the queue of the priority changes. -/
theorem readyQueue_addToReady (streamId : ℕ) (priority other : StreamPriority) :
    (scheduler.addToReady streamId priority).readyQueue other =
      if other = priority then
        if streamId ∈ scheduler.readyQueue priority then scheduler.readyQueue priority
        else scheduler.readyQueue priority ++ [streamId]
      else scheduler.readyQueue other := by
  obtain ⟨urgency, incremental⟩ := priority
  obtain ⟨otherUrgency, otherIncremental⟩ := other
  by_cases hurgency : otherUrgency = urgency
  case pos =>
    subst hurgency
    cases incremental <;> cases otherIncremental <;> simp [addToReady, readyQueue]
  case neg =>
    cases incremental <;> cases otherIncremental <;>
      simp [addToReady, readyQueue, hurgency]

/-- Who is in the queues afterwards. -/
theorem mem_readyQueue_addToReady {other : ℕ} {priority queue : StreamPriority} :
    other ∈ (scheduler.addToReady streamId priority).readyQueue queue ↔
      other ∈ scheduler.readyQueue queue ∨ other = streamId ∧ queue = priority := by
  rw [readyQueue_addToReady]
  by_cases hqueue : queue = priority
  case pos =>
    subst hqueue
    by_cases hmem : streamId ∈ scheduler.readyQueue queue
    case pos =>
      rw [if_pos rfl, if_pos hmem]
      exact ⟨Or.inl, fun hor => hor.elim id fun hnew => hnew.1 ▸ hmem⟩
    case neg =>
      rw [if_pos rfl, if_neg hmem, List.mem_append, List.mem_singleton]
      simp
  case neg =>
    rw [if_neg hqueue]
    simp [hqueue]

/-- A stream may be put into the queue of its priority. -/
theorem Filed.addToReady (hfiled : scheduler.Filed) {priority : StreamPriority}
    (hpriority : scheduler.priorityOf streamId = priority) :
    (scheduler.addToReady streamId priority).Filed where
  nodup queue := by
    rw [readyQueue_addToReady]
    split
    case isTrue =>
      split
      case isTrue => exact hfiled.nodup priority
      case isFalse hmem =>
        rw [← List.concat_eq_append]
        exact (hfiled.nodup priority).concat hmem
    case isFalse => exact hfiled.nodup queue
  own queue other hmem := by
    rw [priorityOf_addToReady]
    rcases mem_readyQueue_addToReady.mp hmem with hold | ⟨rfl, rfl⟩
    · exact hfiled.own queue other hold
    · exact hpriority

/-! ## Taking a stream out -/

variable (scheduler) in
theorem priorities_removeFromReady (streamId : ℕ) :
    (scheduler.removeFromReady streamId).1.priorities = scheduler.priorities := by
  rw [removeFromReady]
  dsimp only
  split <;> rfl

/-- No queue holds the stream if the search finds none. -/
theorem not_mem_of_find?_eq_none {buckets : Buckets}
    (hnone : (buckets.keys.find? fun urgency => streamId ∈ buckets.queue urgency) = none)
    (urgency : ℕ) : streamId ∉ buckets.queue urgency := by
  intro hmem
  have hmiss := List.find?_eq_none.mp hnone urgency (buckets.mem_keys_of_mem_queue hmem)
  exact hmiss (decide_eq_true hmem)

variable (scheduler) in
/-- The stream is taken out of one queue it is in, unless it is in none. -/
theorem removeFromReady_cases (streamId : ℕ) :
    (∃ priority, streamId ∈ scheduler.readyQueue priority ∧
      (scheduler.removeFromReady streamId).2 = true ∧
      ∀ other, (scheduler.removeFromReady streamId).1.readyQueue other =
        if other = priority then (scheduler.readyQueue priority).erase streamId
        else scheduler.readyQueue other) ∨
    (∀ priority, streamId ∉ scheduler.readyQueue priority) ∧
      scheduler.removeFromReady streamId = (scheduler, false) := by
  cases hnoninc : scheduler.readyNoninc.keys.find? fun urgency =>
      streamId ∈ scheduler.readyNoninc.queue urgency with
  | some urgency =>
      refine .inl ⟨{ urgency, incremental := false }, ?_, ?_, ?_⟩
      · simpa [readyQueue] using List.find?_some hnoninc
      · simp [removeFromReady, hnoninc]
      · rintro ⟨otherUrgency, incremental⟩
        by_cases hurgency : otherUrgency = urgency <;> cases incremental <;>
          simp [removeFromReady, hnoninc, readyQueue, hurgency]
  | none =>
      cases hinc : scheduler.readyInc.keys.find? fun urgency =>
          streamId ∈ scheduler.readyInc.queue urgency with
      | some urgency =>
          refine .inl ⟨{ urgency, incremental := true }, ?_, ?_, ?_⟩
          · simpa [readyQueue] using List.find?_some hinc
          · simp [removeFromReady, hnoninc, hinc]
          · rintro ⟨otherUrgency, incremental⟩
            by_cases hurgency : otherUrgency = urgency <;> cases incremental <;>
              simp [removeFromReady, hnoninc, hinc, readyQueue, hurgency]
      | none =>
          refine .inr ⟨?_, by simp [removeFromReady, hnoninc, hinc]⟩
          rintro ⟨urgency, incremental⟩
          cases incremental with
          | false => exact not_mem_of_find?_eq_none hnoninc urgency
          | true => exact not_mem_of_find?_eq_none hinc urgency

/-- A stream that is in one queue at most is taken out of all. -/
theorem readyQueue_removeFromReady
    (hunique : ∀ priority other, streamId ∈ scheduler.readyQueue priority →
      streamId ∈ scheduler.readyQueue other → priority = other) (priority : StreamPriority) :
    (scheduler.removeFromReady streamId).1.readyQueue priority =
      (scheduler.readyQueue priority).erase streamId := by
  rcases scheduler.removeFromReady_cases streamId with ⟨own, hmem, -, hqueue⟩ | ⟨hnone, hsame⟩
  · rw [hqueue]
    split
    case isTrue hown => rw [hown]
    case isFalse hother =>
      rw [List.erase_of_not_mem]
      exact fun hmem' => hother (hunique _ _ hmem' hmem)
  · rw [hsame, List.erase_of_not_mem (hnone priority)]

/-- In good order a stream is in one queue at most. -/
theorem Filed.unique (hfiled : scheduler.Filed) (priority other : StreamPriority)
    (hmem : streamId ∈ scheduler.readyQueue priority)
    (hother : streamId ∈ scheduler.readyQueue other) : priority = other :=
  (hfiled.own _ _ hmem).symm.trans (hfiled.own _ _ hother)

/-- The search tells whether the stream was ready. -/
theorem Filed.removeFromReady_snd (hfiled : scheduler.Filed) (streamId : ℕ) :
    (scheduler.removeFromReady streamId).2 = decide (scheduler.Ready streamId) := by
  rcases scheduler.removeFromReady_cases streamId with ⟨own, hmem, hfound, -⟩ | ⟨hnone, hsame⟩
  · rw [hfound, decide_eq_true (hfiled.ready_of_mem hmem)]
  · rw [hsame]
    exact (decide_eq_false (hnone _)).symm

/-- With the stream out of all queues the rest are in order, whatever its priority is now. -/
theorem Filed.erased {next : PriorityScheduler} (hfiled : scheduler.Filed)
    (hqueue : ∀ priority, next.readyQueue priority = (scheduler.readyQueue priority).erase streamId)
    (hothers : ∀ other, other ≠ streamId → next.priorityOf other = scheduler.priorityOf other) :
    next.Filed where
  nodup priority := by
    rw [hqueue]
    exact (hfiled.nodup priority).erase streamId
  own priority other hmem := by
    rw [hqueue, (hfiled.nodup priority).mem_erase_iff] at hmem
    rw [hothers other hmem.1]
    exact hfiled.own priority other hmem.2

/-- And the stream is not ready, and every other one is as it was. -/
theorem Filed.ready_erased {next : PriorityScheduler} (hfiled : scheduler.Filed)
    (hqueue : ∀ priority, next.readyQueue priority = (scheduler.readyQueue priority).erase streamId)
    (hothers : ∀ other, other ≠ streamId → next.priorityOf other = scheduler.priorityOf other)
    {other : ℕ} : next.Ready other ↔ other ≠ streamId ∧ scheduler.Ready other := by
  rw [Ready, hqueue, (hfiled.nodup _).mem_erase_iff]
  apply and_congr_right
  intro hne
  rw [hothers other hne, Ready]

/-! ## The operations -/

/-- A stream is put into the queue of its priority. -/
theorem Filed.schedule (hfiled : scheduler.Filed) (streamId : ℕ) :
    (scheduler.schedule streamId).Filed := hfiled.addToReady rfl

/-- It is ready then, and every other one is as it was. -/
theorem ready_schedule {other : ℕ} :
    (scheduler.schedule streamId).Ready other ↔ other = streamId ∨ scheduler.Ready other := by
  rw [Ready, schedule, priorityOf_addToReady, mem_readyQueue_addToReady, Ready, or_comm]
  apply or_congr_left
  constructor
  · exact fun hnew => hnew.1
  · rintro rfl
    exact ⟨rfl, rfl⟩

variable (scheduler) in
theorem priorityOf_unschedule (streamId other : ℕ) :
    (scheduler.unschedule streamId).priorityOf other = scheduler.priorityOf other := by
  rw [unschedule, priorityOf, priorities_removeFromReady, priorityOf]

/-- A stream is taken out of the ready set. -/
theorem Filed.unschedule (hfiled : scheduler.Filed) (streamId : ℕ) :
    (scheduler.unschedule streamId).Filed :=
  hfiled.erased (readyQueue_removeFromReady hfiled.unique)
    fun other _ => scheduler.priorityOf_unschedule streamId other

theorem Filed.ready_unschedule (hfiled : scheduler.Filed) {other : ℕ} :
    (scheduler.unschedule streamId).Ready other ↔ other ≠ streamId ∧ scheduler.Ready other :=
  hfiled.ready_erased (readyQueue_removeFromReady hfiled.unique)
    fun other _ => scheduler.priorityOf_unschedule streamId other

variable (scheduler) in
theorem priorityOf_removeStream (streamId other : ℕ) :
    (scheduler.removeStream streamId).priorityOf other =
      if other = streamId then {} else scheduler.priorityOf other := by
  rw [removeStream, priorityOf, priorities_removeFromReady]
  split
  case isTrue hsame => rw [hsame, AList.lookup_erase, Option.getD_none]
  case isFalse hother => rw [AList.lookup_erase_ne hother, priorityOf]

/-- The queues of a scheduler that forgets a stream. -/
theorem Filed.readyQueue_removeStream (hfiled : scheduler.Filed) (streamId : ℕ)
    (priority : StreamPriority) :
    (scheduler.removeStream streamId).readyQueue priority =
      (scheduler.readyQueue priority).erase streamId := by
  have hqueue := @readyQueue_removeFromReady
    { scheduler with priorities := scheduler.priorities.erase streamId } streamId hfiled.unique
  exact hqueue priority

theorem Filed.removeStream (hfiled : scheduler.Filed) (streamId : ℕ) :
    (scheduler.removeStream streamId).Filed := by
  apply hfiled.erased (hfiled.readyQueue_removeStream streamId)
  intro other hne
  rw [priorityOf_removeStream, if_neg hne]

theorem Filed.ready_removeStream (hfiled : scheduler.Filed) {other : ℕ} :
    (scheduler.removeStream streamId).Ready other ↔ other ≠ streamId ∧ scheduler.Ready other := by
  apply hfiled.ready_erased (hfiled.readyQueue_removeStream streamId)
  intro other hne
  rw [priorityOf_removeStream, if_neg hne]

/-- The scheduler once a stream has been taken out and given a priority. -/
def registered (scheduler : PriorityScheduler) (streamId : ℕ) (priority : StreamPriority) :
    PriorityScheduler :=
  { (scheduler.removeFromReady streamId).1 with
    priorities := (scheduler.removeFromReady streamId).1.priorities.insert streamId priority }

variable (scheduler) in
theorem priorityOf_registered (streamId other : ℕ) (priority : StreamPriority) :
    (scheduler.registered streamId priority).priorityOf other =
      if other = streamId then priority else scheduler.priorityOf other := by
  rw [registered, priorityOf, priorities_removeFromReady]
  split
  case isTrue hsame => rw [hsame, AList.lookup_insert, Option.getD_some]
  case isFalse hother => rw [AList.lookup_insert_ne hother, priorityOf]

/-- What a change of priority does, by whether the stream is ready. -/
theorem Filed.setPriority_eq (hfiled : scheduler.Filed) (streamId : ℕ)
    (priority : StreamPriority) :
    scheduler.setPriority streamId priority =
      if scheduler.Ready streamId then
        (scheduler.registered streamId priority).addToReady streamId priority
      else scheduler.registered streamId priority := by
  rw [setPriority]
  dsimp only
  rw [hfiled.removeFromReady_snd]
  simp only [decide_eq_true_eq]
  rfl

theorem Filed.readyQueue_registered (hfiled : scheduler.Filed) (streamId : ℕ)
    (priority queue : StreamPriority) :
    (scheduler.registered streamId priority).readyQueue queue =
      (scheduler.readyQueue queue).erase streamId :=
  readyQueue_removeFromReady hfiled.unique queue

/-- A stream gets a priority, and moves to its queue if it is ready. -/
theorem Filed.setPriority (hfiled : scheduler.Filed) (streamId : ℕ) (priority : StreamPriority) :
    (scheduler.setPriority streamId priority).Filed := by
  have hregistered : (scheduler.registered streamId priority).Filed := by
    apply hfiled.erased (hfiled.readyQueue_registered streamId priority)
    intro other hne
    rw [priorityOf_registered, if_neg hne]
  rw [hfiled.setPriority_eq]
  split
  case isTrue =>
    apply hregistered.addToReady
    rw [priorityOf_registered, if_pos rfl]
  case isFalse => exact hregistered

/-- Nobody becomes ready by it, or ceases to be. -/
theorem Filed.ready_setPriority (hfiled : scheduler.Filed) {priority : StreamPriority}
    {other : ℕ} : (scheduler.setPriority streamId priority).Ready other ↔
      scheduler.Ready other := by
  have hregistered : (scheduler.registered streamId priority).Ready other ↔
      other ≠ streamId ∧ scheduler.Ready other := by
    apply hfiled.ready_erased (hfiled.readyQueue_registered streamId priority)
    intro other hne
    rw [priorityOf_registered, if_neg hne]
  rw [hfiled.setPriority_eq]
  split
  case isTrue hready =>
    rw [Ready, priorityOf_addToReady, mem_readyQueue_addToReady, ← Ready, hregistered,
      priorityOf_registered]
    by_cases hother : other = streamId
    case pos => simp [hother, hready]
    case neg => simp [hother]
  case isFalse hready =>
    rw [hregistered, and_iff_right_iff_imp]
    rintro hother rfl
    exact hready hother

/-- A stream that wrote goes to the end of its queue; otherwise the queues stay. -/
theorem markWrote_perm {next : PriorityScheduler}
    (hmark : scheduler.markWrote streamId = some next) :
    next.priorities = scheduler.priorities ∧
      ∀ priority, (next.readyQueue priority).Perm (scheduler.readyQueue priority) := by
  rw [markWrote] at hmark
  split at hmark
  case h_1 => cases hmark
  case h_2 own hown =>
    split at hmark
    case isFalse => cases hmark
    case isTrue =>
      split at hmark
      case h_1 => cases hmark
      case h_2 head rest hqueue =>
        split at hmark
        case isFalse => cases hmark
        case isTrue hhead =>
          obtain rfl := Option.some.inj hmark
          refine ⟨rfl, ?_⟩
          rintro ⟨urgency, incremental⟩
          cases incremental with
          | false => exact List.Perm.refl _
          | true =>
              by_cases hurgency : urgency = own.urgency
              case pos =>
                subst hurgency
                simp only [readyQueue, if_true, Buckets.queue_insert_self, hqueue, hhead]
                exact List.perm_append_singleton streamId rest
              case neg => simp [readyQueue, hurgency]

theorem Filed.markWrote {next : PriorityScheduler} (hfiled : scheduler.Filed)
    (hmark : scheduler.markWrote streamId = some next) : next.Filed := by
  obtain ⟨hpriorities, hperm⟩ := markWrote_perm hmark
  constructor
  case nodup =>
    intro priority
    exact (hperm priority).nodup_iff.mpr (hfiled.nodup priority)
  case own =>
    intro priority other hmem
    rw [priorityOf, hpriorities]
    exact hfiled.own priority other ((hperm priority).mem_iff.mp hmem)

theorem ready_markWrote {next : PriorityScheduler} {other : ℕ}
    (hmark : scheduler.markWrote streamId = some next) :
    next.Ready other ↔ scheduler.Ready other := by
  obtain ⟨hpriorities, hperm⟩ := markWrote_perm hmark
  rw [Ready, priorityOf, hpriorities, (hperm _).mem_iff]
  rfl

/-! ## Traces of a stream -/

/-- The scheduler keeps something of the stream. -/
def Mentions (scheduler : PriorityScheduler) (streamId : ℕ) : Prop :=
  streamId ∈ scheduler.priorities ∨ ∃ priority, streamId ∈ scheduler.readyQueue priority

variable (scheduler) in
theorem priorities_addToReady (streamId : ℕ) (priority : StreamPriority) :
    (scheduler.addToReady streamId priority).priorities = scheduler.priorities := by
  rw [addToReady]
  dsimp only
  split <;> rfl

theorem mentions_addToReady {other : ℕ} {priority : StreamPriority}
    (hmentions : (scheduler.addToReady streamId priority).Mentions other) :
    other = streamId ∨ scheduler.Mentions other := by
  rcases hmentions with hpriority | ⟨queue, hmem⟩
  · rw [priorities_addToReady] at hpriority
    exact .inr (.inl hpriority)
  · rcases mem_readyQueue_addToReady.mp hmem with hold | ⟨hnew, -⟩
    · exact .inr (.inr ⟨queue, hold⟩)
    · exact .inl hnew

theorem mentions_schedule {other : ℕ} (hmentions : (scheduler.schedule streamId).Mentions other) :
    other = streamId ∨ scheduler.Mentions other := mentions_addToReady hmentions

/-- What is in a queue afterwards was in it before. -/
theorem mem_readyQueue_removeFromReady {other : ℕ} {queue : StreamPriority}
    (hmem : other ∈ (scheduler.removeFromReady streamId).1.readyQueue queue) :
    other ∈ scheduler.readyQueue queue := by
  rcases scheduler.removeFromReady_cases streamId with ⟨own, -, -, hqueue⟩ | ⟨-, hsame⟩
  · rw [hqueue] at hmem
    split at hmem
    case isTrue hown =>
      rw [hown]
      exact List.mem_of_mem_erase hmem
    case isFalse => exact hmem
  · rwa [hsame] at hmem

theorem mentions_unschedule {other : ℕ}
    (hmentions : (scheduler.unschedule streamId).Mentions other) : scheduler.Mentions other := by
  rcases hmentions with hpriority | ⟨queue, hmem⟩
  · rw [unschedule, priorities_removeFromReady] at hpriority
    exact .inl hpriority
  · exact .inr ⟨queue, mem_readyQueue_removeFromReady hmem⟩

theorem mentions_markWrote {other : ℕ}
    (hmentions : ((scheduler.markWrote streamId).getD scheduler).Mentions other) :
    scheduler.Mentions other := by
  cases hmark : scheduler.markWrote streamId with
  | none =>
      rw [hmark] at hmentions
      exact hmentions
  | some next =>
      rw [hmark, Option.getD_some] at hmentions
      obtain ⟨hpriorities, hperm⟩ := markWrote_perm hmark
      rcases hmentions with hpriority | ⟨queue, hmem⟩
      · exact .inl (hpriorities ▸ hpriority)
      · exact .inr ⟨queue, (hperm queue).mem_iff.mp hmem⟩

/-- A stream that is removed leaves no trace. -/
theorem Filed.mentions_removeStream (hfiled : scheduler.Filed) {other : ℕ}
    (hmentions : (scheduler.removeStream streamId).Mentions other) :
    other ≠ streamId ∧ scheduler.Mentions other := by
  rcases hmentions with hpriority | ⟨queue, hmem⟩
  · rw [PriorityScheduler.removeStream, priorities_removeFromReady, AList.mem_erase] at hpriority
    exact ⟨hpriority.1, .inl hpriority.2⟩
  · rw [hfiled.readyQueue_removeStream, (hfiled.nodup queue).mem_erase_iff] at hmem
    exact ⟨hmem.1, .inr ⟨queue, hmem.2⟩⟩

theorem mentions_setPriority {other : ℕ} {priority : StreamPriority}
    (hmentions : (scheduler.setPriority streamId priority).Mentions other) :
    other = streamId ∨ scheduler.Mentions other := by
  have hregistered : (scheduler.registered streamId priority).Mentions other →
      other = streamId ∨ scheduler.Mentions other := by
    rintro (hpriority | ⟨queue, hmem⟩)
    · rw [registered, AList.mem_insert, priorities_removeFromReady] at hpriority
      exact hpriority.imp_right .inl
    · exact .inr (.inr ⟨queue, mem_readyQueue_removeFromReady hmem⟩)
  rw [setPriority] at hmentions
  dsimp only at hmentions
  split at hmentions
  case isTrue =>
    rcases mentions_addToReady hmentions with hown | hbefore
    · exact .inl hown
    · exact hregistered hbefore
  case isFalse => exact hregistered hmentions

end PriorityScheduler

end Pounce
