/-
# What the handler knows of a stream

A stream is known to the library before the handler hears of it, and it keeps its entry for
as long as it is in the table of tasks, unless it has been reset; what is in the table has no
other request waiting to be dispatched, and what waits is new to all tables. `Tracked` says
this of a stream and of the events of the read that are still to be dispatched. It needs
nothing but a library that obeys its rules, and every step keeps it (`tracked_step`).
-/

import Pounce.H2.Sends

namespace Pounce.H2

open Pounce.Math Pounce.Math.Bytes

namespace Handler

variable {Conn : Type} {env : Env Conn} {view : View Conn} {handler next : Handler Conn}
  {streamId : ℕ} {event : H2Event} {events : List H2Event}

/-- A request on the stream is among the events. -/
def Requested (streamId : ℕ) (events : List H2Event) : Prop :=
  events.any (·.isRequest streamId)

instance (streamId : ℕ) (events : List H2Event) : Decidable (Requested streamId events) :=
  inferInstanceAs (Decidable (_ = true))

/-- The events of the read that are still to be dispatched. -/
def pending (handler : Handler Conn) : List H2Event :=
  match handler.loop with
  | .dispatching events => events
  | _ => []

/-! ## Entries -/

/-- A stream loses its entry in the connection only when it is reset. -/
def Dropped (view : View Conn) (handler next : Handler Conn) (streamId : ℕ) : Prop :=
  next.h2.streams streamId = handler.h2.streams streamId ∨
    next.h2.streams streamId = none ∧ view.phase next.h2.conn streamId = .reset

theorem Dropped.refl (handler : Handler Conn) (streamId : ℕ) :
    Dropped view handler handler streamId := .inl rfl

theorem Dropped.trans {first second third : Handler Conn} (hfirst : Dropped view first second streamId)
    (hsecond : Dropped view second third streamId)
    (hpushed : view.Pushed second.h2.conn third.h2.conn) : Dropped view first third streamId := by
  rcases hsecond with hsame | hgone
  · rcases hfirst with hentry | ⟨hnone, hreset⟩
    · exact .inl (hsame.trans hentry)
    · refine .inr ⟨hsame.trans hnone, ?_⟩
      rcases hpushed streamId with hphase | hphase
      · exact hphase.trans hreset
      · exact hphase
  · exact .inr hgone

variable (env view) in
theorem dropped_sendHeaders (handler : Handler Conn) (own status : ℕ) (headers : List Header)
    (endStream : Bool) (streamId : ℕ) :
    Dropped view handler (handler.sendHeaders env own status headers endStream).1 streamId :=
  .inl rfl

theorem dropped_sendData (handler : Handler Conn) (own : ℕ) (data : Bytes) (endStream : Bool)
    (streamId : ℕ) : Dropped view handler (handler.sendData env own data endStream).1 streamId := by
  rw [sendData]
  split <;> exact .inl rfl

section Calls

variable (hobeys : env.codec.Obeys view)

include hobeys

theorem dropped_resetStream (handler : Handler Conn) (own errorCode streamId : ℕ) :
    Dropped view handler (handler.resetStream env own errorCode).1 streamId := by
  rw [resetStream]
  split
  case h_1 => exact .refl handler streamId
  case h_2 h2 hreset =>
    obtain ⟨conn, hconn, rfl⟩ := Option.map_eq_some_iff.mp hreset
    by_cases hown : streamId = own
    case pos =>
      subst hown
      exact .inr ⟨Function.update_self .., (hobeys.resetStream _ _ _ _ hconn).1⟩
    case neg => exact .inl (Function.update_of_ne hown ..)

theorem dropped_sendRequestTimeout (handler : Handler Conn) (own streamId : ℕ) :
    Dropped view handler (handler.sendRequestTimeout env own) streamId :=
  sendRequestTimeout_induction (motive := (Dropped view handler · streamId)) env
    (dropped_sendHeaders ..) fun _ hanswered =>
      hanswered.trans (dropped_resetStream hobeys ..) (hobeys.pushed_resetStream _ _ _)

theorem dropped_sendServerError (handler : Handler Conn) (own streamId : ℕ) :
    Dropped view handler (handler.sendServerError env own) streamId :=
  sendServerError_induction (motive := (Dropped view handler · streamId)) env
    (dropped_sendHeaders ..) fun _ hanswered =>
      hanswered.trans (dropped_sendData ..) (hobeys.pushed_sendData _ _ _ _)

/-- What is sent at the end of a task is transmitted, and drops at most its stream. -/
theorem concluded_transmitted {own : ℕ} (hconcluded : Concluded env handler own next) :
    Transmitted view handler next := by
  cases hconcluded with
  | silent => exact .refl handler
  | failed => exact hobeys.transmitted_sendServerError handler own
  | late => exact hobeys.transmitted_sendRequestTimeout handler own

theorem concluded_dropped {own : ℕ} (hconcluded : Concluded env handler own next) (streamId : ℕ) :
    Dropped view handler next streamId := by
  cases hconcluded with
  | silent => exact .refl handler streamId
  | failed => exact dropped_sendServerError hobeys handler own streamId
  | late => exact dropped_sendRequestTimeout hobeys handler own streamId

end Calls

variable (env) in
/-- A rejection takes no entry but that of its own stream. -/
theorem sendRequestTooLarge_streams (handler : Handler Conn) (own streamId : ℕ) :
    (streamId ≠ own → (handler.sendRequestTooLarge env own).1.h2.streams streamId =
        handler.h2.streams streamId) ∧
      ((handler.sendRequestTooLarge env own).1.h2.streams own = handler.h2.streams own ∨
        (handler.sendRequestTooLarge env own).1.h2.streams own = none) := by
  obtain ⟨conn, sent, -, heq | heq⟩ := sendRequestTooLarge_cases env handler own <;> rw [heq]
  · exact ⟨fun _ => rfl, .inl rfl⟩
  · exact ⟨fun hown => Function.update_of_ne hown .., .inr (Function.update_self ..)⟩

/-! ## What is known of a stream -/

/-- What the handler knows of a stream while it is to dispatch these events. -/
structure Tracked (view : View Conn) (handler : Handler Conn) (events : List H2Event)
    (streamId : ℕ) : Prop where
  settled : view.phase handler.h2.conn streamId ≠ .ending
  agrees : Agrees (view.phase handler.h2.conn streamId) (handler.h2.streams streamId)
  known : streamId ∈ handler.streamTasks ∨ (handler.tasks streamId).isSome ∨
    (handler.begun streamId).isSome ∨ Requested streamId events →
      view.phase handler.h2.conn streamId ≠ .idle
  entry : streamId ∈ handler.streamTasks ∨ Requested streamId events →
    view.phase handler.h2.conn streamId = .reset ∨ (handler.h2.streams streamId).isSome
  once : events.countP (·.isRequest streamId) ≤ 1
  new : Requested streamId events → streamId ∉ handler.streamTasks ∧
    handler.tasks streamId = none ∧ handler.begun streamId = none
  reset : events.any (·.isReset streamId) → handler.h2.streams streamId = none

/-- The stream keeps its place but for what leaves the tables: it may lose its entry when it
is reset or out of them. -/
theorem Tracked.mono (htracked : Tracked view handler events streamId)
    (hpushed : view.Pushed handler.h2.conn next.h2.conn)
    (htable : streamId ∈ next.streamTasks → streamId ∈ handler.streamTasks)
    (htasks : (next.tasks streamId).isSome → (handler.tasks streamId).isSome)
    (hbegun : next.begun streamId = handler.begun streamId)
    (hentry : Dropped view handler next streamId ∨ next.h2.streams streamId = none ∧
      streamId ∉ next.streamTasks ∧ ¬ Requested streamId events) :
    Tracked view next events streamId where
  settled := by
    rcases hpushed streamId with hphase | hphase <;> rw [hphase]
    · exact htracked.settled
    · decide
  agrees := by
    rcases hentry with (hsame | ⟨hnone, -⟩) | ⟨hnone, -⟩
    · rw [hsame]
      rcases hpushed streamId with hphase | hphase <;> rw [hphase]
      · exact htracked.agrees
      · exact fun state _ => ⟨fun hnot => (by cases hnot), fun hnot => (by cases hnot)⟩
    · rw [hnone]
      exact fun state hnot => by cases hnot
    · rw [hnone]
      exact fun state hnot => by cases hnot
  known hknown := by
    apply hpushed.ne_idle
    apply htracked.known
    rw [hbegun] at hknown
    exact hknown.imp htable (Or.imp_left htasks)
  entry hmem := by
    have hbefore := htracked.entry (hmem.imp_left htable)
    rcases hentry with (hsame | ⟨-, hreset⟩) | ⟨-, hout, hnone⟩
    · rw [hsame]
      rcases hpushed streamId with hphase | hphase
      · rw [hphase]
        exact hbefore
      · exact .inl hphase
    · exact .inl hreset
    · exact absurd hmem (not_or.mpr ⟨hout, hnone⟩)
  once := htracked.once
  new hrequested := by
    obtain ⟨hout, hnone, hfresh⟩ := htracked.new hrequested
    refine ⟨fun hmem => hout (htable hmem), ?_, hbegun.trans hfresh⟩
    rw [← Option.not_isSome_iff_eq_none]
    intro hsome
    have hbefore := htasks hsome
    rw [hnone] at hbefore
    cases hbefore
  reset hreset := by
    have hbefore := htracked.reset hreset
    rcases hentry with (hsame | ⟨hnone, -⟩) | ⟨hnone, -⟩
    · exact hsame.trans hbefore
    · exact hnone
    · exact hnone

/-- The stream keeps its place where the connection is not touched. -/
theorem Tracked.congr (htracked : Tracked view handler events streamId)
    (hh2 : next.h2 = handler.h2)
    (htable : streamId ∈ next.streamTasks → streamId ∈ handler.streamTasks)
    (htasks : (next.tasks streamId).isSome → (handler.tasks streamId).isSome)
    (hbegun : next.begun streamId = handler.begun streamId) :
    Tracked view next events streamId := by
  apply htracked.mono _ htable htasks hbegun (.inl (.inl (by rw [hh2])))
  rw [hh2]
  exact .refl _

/-- Events may be left out. -/
theorem Tracked.sublist {fewer : List H2Event} (htracked : Tracked view handler events streamId)
    (hfewer : fewer.Sublist events) : Tracked view handler fewer streamId := by
  have hrequested : Requested streamId fewer → Requested streamId events := by
    simp only [Requested, List.any_eq_true]
    exact fun ⟨event, hmem, hrequest⟩ => ⟨event, hfewer.subset hmem, hrequest⟩
  constructor
  case settled => exact htracked.settled
  case agrees => exact htracked.agrees
  case known =>
    exact fun hknown =>
      htracked.known (hknown.imp_right (Or.imp_right (Or.imp_right hrequested)))
  case entry => exact fun hmem => htracked.entry (hmem.imp_right hrequested)
  case once => exact hfewer.countP_le.trans htracked.once
  case new => exact fun hnew => htracked.new (hrequested hnew)
  case reset =>
    intro hreset
    apply htracked.reset
    rw [List.any_eq_true] at hreset ⊢
    exact hreset.imp fun event => And.imp_left fun hmem => hfewer.subset hmem

/-- The request of the next event is the only one. -/
theorem Tracked.not_requested (htracked : Tracked view handler (event :: events) streamId)
    (hrequest : event.isRequest streamId) : ¬ Requested streamId events := by
  have honce := htracked.once
  rw [List.countP_cons, if_pos hrequest] at honce
  intro hrequested
  have hpos : 0 < events.countP (·.isRequest streamId) :=
    List.countP_pos_iff.mpr (List.any_eq_true.mp hrequested)
  omega

/-- A read. -/
theorem tracked_receive {conn : Conn} {libraryEvents : List LibraryEvent} {data : Bytes}
    {h2 : H2Connection Conn} (hobeys : env.codec.Obeys view)
    (htracked : Tracked view handler [] streamId)
    (hparsed : env.codec.receiveData handler.h2.conn data = some (conn, libraryEvents))
    (hreceived : { handler.h2 with conn }.receiveData env.codec.toLibrary libraryEvents =
      some (h2, events)) :
    Tracked view { handler with h2, loop := .dispatching events } events streamId := by
  obtain ⟨hadvances, hending, -⟩ := hobeys.receiveData _ _ _ _ hparsed streamId
  have hstart : Read streamId (view.phase handler.h2.conn streamId)
      (handler.h2.streams streamId) (view.phase handler.h2.conn streamId)
      (({ handler.h2 with conn } : H2Connection Conn).streams streamId) [] := .refl ..
  have hread := hstart.receive hadvances hreceived
  have htold : ([] : List H2Event).any (·.isReset streamId) →
      view.phase handler.h2.conn streamId = .reset ∨ view.phase conn streamId = .reset :=
    fun hnot => by cases hnot
  obtain ⟨hsame, hreset⟩ := hobeys.receiveAll hadvances hreceived htold
  rw [List.nil_append] at hread hsame hreset
  have hphase : view.phase h2.conn streamId = view.phase conn streamId ∨
      view.phase h2.conn streamId = .reset :=
    hsame.imp (fun hsame => hsame.1) fun hreset => hreset.1
  have hnotIdle : view.phase conn streamId ≠ .idle → view.phase h2.conn streamId ≠ .idle := by
    intro hknown
    rcases hphase with hphase | hphase <;> rw [hphase]
    · exact hknown
    · decide
  have hresets : events.any (·.isReset streamId) → view.phase h2.conn streamId = .reset := by
    intro htold
    rcases hreset htold with hlast | hlast
    · rcases hphase with hphase | hphase
      · exact hphase.trans hlast
      · exact hphase
    · exact hlast
  constructor
  case settled =>
    rcases hphase with hphase | hphase
    · intro hnot
      exact htracked.settled (hending (hphase.symm.trans hnot))
    · rw [hphase]
      decide
  case agrees =>
    rcases hphase with hphase | hphase
    · rw [hphase]
      exact hread.agrees htracked.agrees
    · rw [hphase]
      exact fun state _ => ⟨fun hnot => (by cases hnot), fun hnot => (by cases hnot)⟩
  case known =>
    intro hknown
    apply hnotIdle
    rcases hknown with hmem | htask | hbegun | hrequested
    · exact (foldlM_advance (htracked.known (.inl hmem)) hadvances).1
    · exact (foldlM_advance (htracked.known (.inr (.inl htask))) hadvances).1
    · exact (foldlM_advance (htracked.known (.inr (.inr (.inl hbegun)))) hadvances).1
    · intro hidle
      obtain ⟨told, hmem, hrequest⟩ := List.any_eq_true.mp hrequested
      exact (hread.idle hidle).2 told hmem (streamId?_of_isRequest hrequest)
  case entry =>
    intro hmem
    have hkept : (handler.h2.streams streamId).isSome ∨ Requested streamId events →
        view.phase h2.conn streamId = .reset ∨ (h2.streams streamId).isSome := by
      intro hor
      exact (hread.kept hor).symm.imp_left hresets
    rcases hmem with hmem | hrequested
    · rcases htracked.entry (.inl hmem) with hgone | hsome
      · rw [hgone] at hadvances
        have hlast := foldlM_reset hadvances
        rcases hphase with hphase | hphase
        · exact .inl (hphase.trans hlast)
        · exact .inl hphase
      · exact hkept (.inl hsome)
    · exact hkept (.inr hrequested)
  case once => exact hread.request.2
  case new =>
    intro hrequested
    have hidle := hread.request.1 hrequested
    have hunknown := mt htracked.known (not_not.mpr hidle)
    rw [not_or, not_or, not_or, Option.not_isSome_iff_eq_none, Option.not_isSome_iff_eq_none] at hunknown
    exact ⟨hunknown.1, hunknown.2.1, hunknown.2.2.1⟩
  case reset => exact hread.reset

/-- A read makes an entry for a request only. -/
theorem receive_made {conn : Conn} {libraryEvents : List LibraryEvent} {data : Bytes}
    {h2 : H2Connection Conn} (hobeys : env.codec.Obeys view)
    (hparsed : env.codec.receiveData handler.h2.conn data = some (conn, libraryEvents))
    (hreceived : { handler.h2 with conn }.receiveData env.codec.toLibrary libraryEvents =
      some (h2, events)) (hsome : (h2.streams streamId).isSome) :
    (handler.h2.streams streamId).isSome ∨ Requested streamId events := by
  obtain ⟨hadvances, -⟩ := hobeys.receiveData _ _ _ _ hparsed streamId
  have hstart : Read streamId (view.phase handler.h2.conn streamId)
      (handler.h2.streams streamId) (view.phase handler.h2.conn streamId)
      (({ handler.h2 with conn } : H2Connection Conn).streams streamId) [] := .refl ..
  exact (hstart.receive hadvances hreceived).made hsome

/-! ## Events -/

/-- The task for a request is made. -/
theorem Tracked.createTask (htracked : Tracked view handler (event :: events) streamId) {own : ℕ}
    (hrequest : event.isRequest own) (task : StreamTask) :
    Tracked view (handler.createTask own task) events streamId := by
  have htail := htracked.sublist (List.sublist_cons_self event events)
  by_cases hown : streamId = own
  case pos =>
    subst hown
    have hrequested : Requested streamId (event :: events) := by simp [Requested, hrequest]
    constructor
    case settled => exact htracked.settled
    case agrees => exact htracked.agrees
    case known => exact fun _ => htracked.known (.inr (.inr (.inr hrequested)))
    case entry => exact fun _ => htracked.entry (.inr hrequested)
    case once => exact htail.once
    case new => exact fun hagain => absurd hagain (htracked.not_requested hrequest)
    case reset => exact htail.reset
  case neg =>
    apply htail.congr
    · rfl
    · exact fun hmem => Finset.mem_of_mem_insert_of_ne hmem hown
    · rw [createTask_tasks_of_ne _ _ _ hown]
      exact id
    · rfl

/-- A rejection of a stream that is in no table and has no request waiting. -/
theorem Tracked.sendRequestTooLarge (hobeys : env.codec.Obeys view)
    (htracked : Tracked view handler events streamId) {own : ℕ}
    (hout : streamId = own → streamId ∉ handler.streamTasks ∧ ¬ Requested streamId events) :
    Tracked view (handler.sendRequestTooLarge env own).1 events streamId := by
  have hwrote := wrote_sendRequestTooLarge env handler own
  obtain ⟨hothers, hself⟩ := sendRequestTooLarge_streams env handler own streamId
  apply htracked.mono (hobeys.transmitted_sendRequestTooLarge handler own).pushed
  · rw [hwrote.streamTasks]
    exact id
  · rw [hwrote.tasks]
    exact id
  · rw [hwrote.begun]
  · by_cases hown : streamId = own
    case pos =>
      obtain ⟨hnot, hnone⟩ := hout hown
      subst hown
      rcases hself with hsame | hgone
      · exact .inl (.inl hsame)
      · exact .inr ⟨hgone, by rwa [hwrote.streamTasks], hnone⟩
    case neg => exact .inl (.inl (hothers hown))

/-- An event is dispatched. -/
theorem Tracked.dispatchEvent (hobeys : env.codec.Obeys view)
    (htracked : Tracked view handler (event :: events) streamId) :
    Tracked view (handler.dispatchEvent env event).1 events streamId := by
  have htail := htracked.sublist (List.sublist_cons_self event events)
  cases event with
  | requestReceived own request =>
      rw [Handler.dispatchEvent]
      split
      case isTrue =>
        have hsettled : Tracked view (handler.settle own .refused) events streamId :=
          htail.congr rfl id id rfl
        apply hsettled.sendRequestTooLarge hobeys
        rintro rfl
        have hrequest : (H2Event.requestReceived streamId request).isRequest streamId := by
          simp [H2Event.isRequest]
        exact ⟨(htracked.new (by simp [Requested, hrequest])).1, htracked.not_requested hrequest⟩
      case isFalse => exact htracked.createTask (by simp [H2Event.isRequest]) _
  | webSocketRequest own request path =>
      exact htracked.createTask (by simp [H2Event.isRequest]) _
  | bodyReceived own body =>
      rw [Handler.dispatchEvent, dispatchBody]
      split
      case isTrue => exact htail
      case isFalse =>
        split
        case isFalse => exact htail
        case isTrue hmem =>
          dsimp only
          split
          case isFalse => exact htail.congr rfl id id rfl
          case isTrue =>
            apply Tracked.sendRequestTooLarge hobeys
            · apply htail.congr
              · rfl
              · exact fun hmem => Finset.mem_of_mem_erase hmem
              · by_cases hown : streamId = own
                case pos =>
                  subst hown
                  exact fun hsome => by simpa [settle] using hsome
                case neg => exact fun hsome => by simpa [settle, cancel, hown] using hsome
              · rfl
            · rintro rfl
              refine ⟨fun hnot => ?_, fun hrequested => (htail.new hrequested).1 hmem⟩
              exact (Finset.mem_erase.mp hnot).1 rfl
  | streamReset own errorCode =>
      rw [Handler.dispatchEvent, dispatchReset]
      apply htail.congr
      · split <;> rfl
      · intro hmem
        have hbefore := Finset.mem_of_mem_erase hmem
        split at hbefore <;> exact hbefore
      · split
        case isTrue =>
          intro hsome
          by_cases hown : streamId = own
          case pos =>
            subst hown
            simpa [settle] using hsome
          case neg => simpa [settle, cancel, hown] using hsome
        case isFalse => exact id
      · split <;> rfl
  | windowUpdated | goAway => exact htail

/-! ## Every step -/

/-- The loop may be left. -/
theorem Tracked.leave (htracked : Tracked view handler events streamId) (cause : Cause) :
    Tracked view (handler.leave cause) [] streamId :=
  (htracked.sublist (List.nil_sublist _)).congr rfl id (by simp [Handler.leave]) rfl

/-- The next event of a read. -/
theorem Tracked.dispatchNext (hobeys : env.codec.Obeys view)
    (htracked : Tracked view handler (event :: events) streamId) :
    Tracked view (handler.dispatchNext env event events)
      (handler.dispatchNext env event events).pending streamId := by
  have hdispatched := htracked.dispatchEvent hobeys
  rw [Handler.dispatchNext]
  split
  case h_1 raised hraised =>
    rw [hraised] at hdispatched
    have hleft : Tracked view { raised with
        dispatched := raised.dispatched ++ [event]
        skipped := raised.skipped ++ events } events streamId := hdispatched.congr rfl id id rfl
    exact hleft.leave .failed
  case h_2 done hdone =>
    rw [hdone] at hdispatched
    dsimp only
    split
    case h_1 => exact (hdispatched.sublist (List.nil_sublist _)).congr rfl id id rfl
    case h_2 => exact hdispatched.congr rfl id id rfl

/-- A task that is done. -/
theorem Tracked.dropTask (htracked : Tracked view handler events streamId) (own : ℕ) :
    Tracked view (handler.dropTask own) events streamId := by
  apply htracked.congr
  · rfl
  · exact id
  · intro hsome
    by_cases hown : streamId = own
    case pos =>
      subst hown
      rw [dropTask_tasks_self] at hsome
      cases hsome
    case neg => rwa [dropTask_tasks_of_ne _ _ hown] at hsome
  · rfl

/-- The end of a task. -/
theorem Tracked.finish (hobeys : env.codec.Obeys view) (htracked : Tracked view handler [] streamId)
    (own : ℕ) (task : StreamTask) (ending : Ending) :
    Tracked view (handler.finish env own task ending) [] streamId := by
  obtain ⟨answered, hconcluded, heq⟩ := finish_eq env handler own task ending
  have hwrote := hconcluded.wrote
  rw [heq]
  split
  case isFalse => exact htracked.dropTask own
  case isTrue =>
    apply Tracked.dropTask
    have hpushed := (concluded_transmitted hobeys hconcluded).pushed
    have hdropped := concluded_dropped hobeys hconcluded streamId
    have hsent : Tracked view answered [] streamId :=
      htracked.mono hpushed (by rw [hwrote.streamTasks]; exact id) (by rw [hwrote.tasks]; exact id)
        (by rw [hwrote.begun]) (.inl hdropped)
    apply hsent.mono
    · exact .refl _
    · exact fun hmem => Finset.mem_of_mem_erase hmem
    · exact id
    · rfl
    · by_cases hown : streamId = own
      case pos =>
        subst hown
        refine .inr ⟨Function.update_self .., fun hnot => ?_, fun hnot => by cases hnot⟩
        exact (Finset.mem_erase.mp hnot).1 rfl
      case neg => exact .inl (.inl (Function.update_of_ne hown ..))

/-- The first step of a task. -/
theorem Tracked.start (htracked : Tracked view handler [] streamId) {own : ℕ} {task : StreamTask}
    (htask : handler.tasks own = some task) :
    Tracked view (handler.start env own task) [] streamId := by
  rw [Handler.start]
  split
  case h_1 => exact htracked.dropTask own
  case h_2 =>
    by_cases hown : streamId = own
    case pos =>
      subst hown
      have hknown := htracked.known (.inr (.inl (by rw [htask]; rfl)))
      constructor
      case settled => exact htracked.settled
      case agrees => exact htracked.agrees
      case known => exact fun _ => hknown
      case entry => exact htracked.entry
      case once => exact htracked.once
      case new => exact fun hnot => by cases hnot
      case reset => exact htracked.reset
    case neg => exact htracked.congr rfl id (by simp [hown]) (by simp [hown])

/-- A call of a task. -/
theorem Tracked.call (hobeys : env.codec.Obeys view) (htracked : Tracked view handler [] streamId)
    {own : ℕ} {webSocket : Bool} {call : Call}
    (hcall : handler.call env own webSocket call = some next) :
    Tracked view next [] streamId := by
  have hwrote : ∀ {next : Handler Conn}, Wrote handler next →
      view.Pushed handler.h2.conn next.h2.conn → Dropped view handler next streamId →
        Tracked view next [] streamId :=
    fun hwrote hpushed hdropped => htracked.mono hpushed (by rw [hwrote.streamTasks]; exact id)
      (by rw [hwrote.tasks]; exact id) (by rw [hwrote.begun]) (.inl hdropped)
  cases call with
  | respond status =>
      obtain rfl := Option.some.inj hcall
      apply htracked.congr
      · rfl
      · exact id
      · by_cases hown : streamId = own
        case pos => simp [hown]
        case neg => simp [hown]
      · rfl
  | schedule | unschedule | markWrote =>
      rw [Handler.call] at hcall
      split at hcall
      case isTrue => cases hcall
      case isFalse =>
        obtain rfl := Option.some.inj hcall
        exact htracked.congr rfl id id rfl
  | sendHeaders status headers endStream =>
      obtain rfl := Option.some.inj hcall
      exact hwrote (wrote_sendHeaders ..) (hobeys.pushed_sendHeaders _ _ _ _ _)
        (dropped_sendHeaders ..)
  | sendData data endStream =>
      obtain rfl := Option.some.inj hcall
      exact hwrote (wrote_sendData ..) (hobeys.pushed_sendData _ _ _ _) (dropped_sendData ..)
  | resetStream errorCode =>
      obtain rfl := Option.some.inj hcall
      exact hwrote (wrote_resetStream ..) (hobeys.pushed_resetStream _ _ _)
        (dropped_resetStream hobeys ..)

/-- Tasks run while nothing is pending. -/
theorem pending_of_awaits (hawaits : handler.awaits = true) : handler.pending = [] := by
  rw [awaits] at hawaits
  rw [pending]
  split <;> simp_all

/-- What is pending is the loop's. -/
theorem pending_congr (hloop : next.loop = handler.loop) : next.pending = handler.pending := by
  rw [pending, hloop, pending]

/-- Every step keeps what is known of a stream. -/
theorem tracked_step (hobeys : env.codec.Obeys view) {action : Action}
    (htracked : Tracked view handler handler.pending streamId)
    (hstep : handler.step env action = some next) :
    Tracked view next next.pending streamId := by
  cases action with
  | read data =>
      obtain ⟨hreading, rfl⟩ := Machine.of_guard hstep
      have hnone : handler.pending = [] := by rw [pending, hreading]
      rw [hnone] at htracked
      rw [receive]
      split
      case h_1 => exact htracked.leave .invalid
      case h_2 conn libraryEvents hparsed =>
        split
        case h_1 => exact htracked.leave .failed
        case h_2 h2 events hreceived => exact tracked_receive hobeys htracked hparsed hreceived
  | readFails =>
      obtain ⟨-, rfl⟩ := Machine.of_guard hstep
      exact htracked.leave .disconnected
  | readTimeout =>
      obtain ⟨-, rfl⟩ := Machine.of_guard hstep
      split
      case isTrue => exact htracked.leave .idle
      case isFalse => exact htracked
  | dispatch =>
      rw [step] at hstep
      split at hstep
      case h_1 hloop =>
        obtain rfl := Option.some.inj hstep
        exact (htracked.sublist (List.nil_sublist _)).congr rfl id id rfl
      case h_2 event events hloop =>
        obtain rfl := Option.some.inj hstep
        rw [pending, hloop] at htracked
        exact htracked.dispatchNext hobeys
      case h_3 => cases hstep
  | drained =>
      obtain ⟨-, rfl⟩ := Machine.of_guard hstep
      split
      case isTrue => exact htracked.leave .goAway
      case isFalse => exact (htracked.sublist (List.nil_sublist _)).congr rfl id id rfl
  | drainFails =>
      obtain ⟨-, rfl⟩ := Machine.of_guard hstep
      exact htracked.leave .disconnected
  | start own =>
      obtain ⟨task, htask, hguard⟩ := Option.bind_eq_some_iff.mp hstep
      obtain ⟨⟨hawaits, -⟩, rfl⟩ := Machine.of_guard hguard
      have hnone := pending_of_awaits hawaits
      rw [hnone] at htracked
      rw [pending_congr (loopKept_start env handler own task).loop, hnone]
      exact htracked.start htask
  | call own call =>
      obtain ⟨webSocket, -, hguard⟩ := Option.bind_eq_some_iff.mp hstep
      obtain ⟨hawaits, hcall⟩ := Option.ite_none_right_eq_some.mp hguard
      have hnone := pending_of_awaits hawaits
      rw [hnone] at htracked
      rw [pending_congr (call_kept hcall).1.loop, hnone]
      exact htracked.call hobeys hcall
  | finish own ending =>
      obtain ⟨task, -, hguard⟩ := Option.bind_eq_some_iff.mp hstep
      obtain ⟨⟨hawaits, -⟩, rfl⟩ := Machine.of_guard hguard
      have hnone := pending_of_awaits hawaits
      rw [hnone] at htracked
      rw [pending_congr (loopKept_finish env handler own task ending).loop, hnone]
      exact htracked.finish hobeys own task ending

/-- At first there is nothing to know. -/
theorem tracked_init {conn : Conn} (hidle : ∀ streamId, view.phase conn streamId = .idle)
    (streamId : ℕ) : Tracked view { h2 := { conn } } [] streamId where
  settled := by
    rw [hidle]
    decide
  agrees state hnot := by cases hnot
  known hnot := by simp [Requested] at hnot
  entry hnot := by simp [Requested] at hnot
  once := Nat.zero_le _
  new hnot := by cases hnot
  reset hnot := by cases hnot

end Handler

end Pounce.H2
