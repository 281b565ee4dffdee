/-
# What can happen to a request being served

A state that is serving a request has come to do so by a turn of that request, by setting
up the application for it, or by something that concerns the connection alone. With
`step_serving` this is said once; an invariant of the requests of all runs then has to hold
when the application is set up and to be kept by every turn (`serving_induction`).
-/

import Pounce.Worker

namespace Pounce.Worker

open Pounce.Math Pounce.Math.Bytes Pounce.Asgi Pounce.H1Protocol

universe u

variable {Conn : Type u} {env : Env Conn}

/-! ## Setting up the application -/

/-- The body events at the front of a batch are tidy with it. -/
theorem pairwise_initialBody {events : List ProtocolEvent} (htidy : Tidy events) :
    (initialBody events).Pairwise fun earlier _ => earlier.more = true := by
  induction events with
  | nil => exact List.Pairwise.nil
  | cons event events ih =>
      obtain ⟨hhead, htail⟩ := List.pairwise_cons.mp htidy
      cases event with
      | requestReceived request => exact List.Pairwise.nil
      | connectionClosed => exact List.Pairwise.nil
      | bodyReceived body =>
          apply List.pairwise_cons.mpr
          refine ⟨?_, ih htail⟩
          intro later hlater
          cases events with
          | nil => exact absurd hlater List.not_mem_nil
          | cons event events =>
              have hopen := hhead event List.mem_cons_self
              simpa [isFinal] using hopen

variable (env) in
/-- Where the loop over the events stops for an application, it has set up the application
with the body events that come next. -/
theorem processEvents_serving {conn next : Conn} {count nextCount : ℕ} {serving : Serving}
    {events rest : List ProtocolEvent}
    (hserving : processEvents env conn count events = .serving next nextCount serving rest) :
    ∃ request, .requestReceived request :: rest <:+ events ∧
      serving = serve request (initialBody rest) ∧
      bodyExceedsLimit env request (initialBody rest) = false := by
  induction events generalizing conn count with
  | nil => cases hserving
  | cons event events ih =>
      have hlater : ∀ {conn count}, processEvents env conn count events =
          .serving next nextCount serving rest → _ := fun hlater =>
        (ih hlater).imp fun _ =>
          And.imp_left fun hsuffix => hsuffix.trans (List.suffix_cons event events)
      cases event with
      | connectionClosed => cases hserving
      | bodyReceived body => exact hlater hserving
      | requestReceived request =>
          rw [processEvents] at hserving
          split at hserving
          case isTrue => cases hserving
          case isFalse hupgrade =>
            split at hserving
            case isTrue => exact hlater hserving
            case isFalse hlimit =>
              have hwithin := Bool.eq_false_iff.mpr hlimit
              split at hserving
              case h_1 sends hbuiltin =>
                split at hserving
                case h_1 => cases hserving
                case h_2 => exact hlater hserving
              case h_2 hbuiltin =>
                split at hserving
                case isTrue hwaiting =>
                  split at hserving
                  case h_1 => cases hserving
                  case h_2 =>
                    cases hserving
                    exact ⟨request, List.suffix_rfl, rfl, hwithin⟩
                case isFalse =>
                  cases hserving
                  exact ⟨request, List.suffix_rfl, rfl, hwithin⟩

/-- The next cycle begins without a request. -/
theorem nextCycle_phase {state : State Conn} {serving : Serving} {events : List ProtocolEvent} :
    (nextCycle env state).phase ≠ .serving serving events := by
  unfold nextCycle
  intro hphase
  split at hphase
  case isTrue => cases hphase
  case isFalse =>
    split at hphase
    case isTrue => cases hphase
    case isFalse =>
      split at hphase
      case h_1 => cases hphase
      case h_2 => cases hphase

/-- Going on with events leads to an application that has just been set up. -/
theorem advance_serving {state : State Conn} {serving : Serving}
    {events rest : List ProtocolEvent}
    (hphase : (advance env state events).phase = .serving serving rest) :
    ∃ request, .requestReceived request :: rest <:+ events ∧
      serving = serve request (initialBody rest) ∧
      bodyExceedsLimit env request (initialBody rest) = false := by
  unfold advance at hphase
  split at hphase
  case h_1 => exact absurd hphase nextCycle_phase
  case h_2 hprogress =>
    cases hphase
    exact processEvents_serving env hprogress
  case h_3 => cases hphase

/-! ## Turns -/

variable (env) in
/-- What an action makes of a request being served. -/
inductive Turn (state : State Conn) (serving : Serving) : Action → Serving → Prop where
  /-- The reader reads. -/
  | readBody {total : ℕ} {outcome : ReadOutcome} (hcompanion : serving.companion = .reader total)
      (hpossible : outcome.possible state.clientGone) :
      Turn state serving (.companionRead outcome)
        (readBody env state.conn serving total outcome).1
  /-- The monitor reads. -/
  | monitor {outcome : ReadOutcome} (hcompanion : serving.companion = .monitor)
      (hpossible : outcome.possible state.clientGone) (houtcome : outcome ≠ .timeout) :
      Turn state serving (.companionRead outcome) (monitorDisconnect serving outcome)
  | receive {message : ReceiveMessage} {receiver : Receiver} {intake : Intake}
      (hreceive : serving.receiver.receive serving.intake = some (message, receiver, intake)) :
      Turn state serving .receive
        { serving with receiver, intake, received := serving.received ++ [message] }
  | send (event : H11Send) (responseStarted : Bool) :
      Turn state serving (.send event) { serving with responseStarted }
  | cancelReader {total : ℕ} (hcompanion : serving.companion = .reader total) :
      Turn state serving .cancel serving.abandon
  | cancelMonitor (hcompanion : serving.companion = .monitor) :
      Turn state serving .cancel serving.signal

/-- A read of the companion is a turn. -/
theorem companionRead_turn {state next : State Conn} {before : Serving}
    {rest : List ProtocolEvent} {outcome : ReadOutcome}
    (hpossible : outcome.possible state.clientGone)
    (hstep : companionRead env state before rest outcome = some next) :
    ∃ serving, next.phase = .serving serving rest ∧
      Turn env state before (.companionRead outcome) serving ∧
      next.clientGone = state.clientGone := by
  unfold companionRead at hstep
  split at hstep
  case h_1 => cases hstep
  case h_2 => cases hstep
  case h_3 total hcompanion =>
    obtain rfl := Option.some.inj hstep
    exact ⟨_, rfl, .readBody hcompanion hpossible, rfl⟩
  case h_4 hcompanion =>
    split at hstep
    case h_1 => cases hstep
    case h_2 data =>
      obtain ⟨-, rfl⟩ := Machine.of_guard hstep
      exact ⟨_, rfl, .monitor hcompanion hpossible (by simp), rfl⟩
    case h_3 htimeout hdata =>
      obtain rfl := Option.some.inj hstep
      exact ⟨_, rfl, .monitor hcompanion hpossible htimeout, rfl⟩

/-- Cancelling the companion is a turn. -/
theorem cancelCompanion_turn {state : State Conn} {before serving : Serving}
    (hcancel : cancelCompanion before = some serving) : Turn env state before .cancel serving := by
  unfold cancelCompanion at hcancel
  split at hcancel
  case h_1 total hcompanion =>
    obtain rfl := Option.some.inj hcancel
    exact .cancelReader hcompanion
  case h_2 hcompanion =>
    obtain rfl := Option.some.inj hcancel
    exact .cancelMonitor hcompanion
  case h_3 => cases hcancel
  case h_4 => cases hcancel

/-- How a state has come to serve a request. -/
theorem step_serving {state next : State Conn} {action : Action} {serving : Serving}
    {events : List ProtocolEvent} (hstep : step env state action = some next)
    (hphase : next.phase = .serving serving events) :
    -- by a turn of the request
    (∃ before, state.phase = .serving before events ∧ Turn env state before action serving ∧
      next.clientGone = state.clientGone) ∨
    -- by something that leaves the request alone
    (state.phase = .serving serving events ∧
      (next.clientGone = state.clientGone ∨ next.clientGone = true)) ∨
    -- by setting up the application
    (∃ request, (∃ source, .requestReceived request :: events <:+ source ∧
        ((∃ before, state.phase = .serving before source) ∨
          ∃ data, action = .read (.data data) ∧
            (receiveData env.h11 state.conn data).1 = .ok source)) ∧
      serving = serve request (initialBody events) ∧
      bodyExceedsLimit env request (initialBody events) = false) := by
  cases action with
  | clientLeaves =>
      obtain rfl := Option.some.inj hstep
      exact .inr (.inl ⟨hphase, .inr rfl⟩)
  | drain =>
      obtain rfl := Option.some.inj hstep
      exact .inr (.inl ⟨hphase, .inl rfl⟩)
  | read outcome =>
      simp only [step] at hstep
      split at hstep
      case h_2 => cases hstep
      case h_1 hreading =>
        split at hstep
        case isFalse => cases hstep
        case isTrue =>
          cases outcome with
          | data data =>
              obtain rfl := Option.some.inj hstep
              unfold readData at hphase
              split at hphase
              case h_1 => cases hphase
              case h_2 source conn hparsed =>
                obtain ⟨request, hsuffix, hserve⟩ := advance_serving hphase
                exact .inr (.inr ⟨request, ⟨source, hsuffix, .inr ⟨data, rfl, by rw [hparsed]⟩⟩,
                  hserve⟩)
          | eof =>
              obtain rfl := Option.some.inj hstep
              cases hphase
          | connectionError =>
              obtain rfl := Option.some.inj hstep
              cases hphase
          | timeout =>
              obtain rfl := Option.some.inj hstep
              cases hphase
  | companionRead outcome =>
      simp only [step] at hstep
      split at hstep
      case h_2 => cases hstep
      case h_1 before rest hserving =>
        rw [servingStep] at hstep
        split at hstep
        case isFalse => cases hstep
        case isTrue hpossible =>
          obtain ⟨after, hafter, hturn, hgone⟩ := companionRead_turn hpossible hstep
          rw [hafter] at hphase
          cases hphase
          exact .inl ⟨before, hserving, hturn, hgone⟩
  | receive =>
      simp only [step] at hstep
      split at hstep
      case h_2 => cases hstep
      case h_1 before rest hserving =>
        rw [servingStep] at hstep
        split at hstep
        case h_1 => cases hstep
        case h_2 message receiver intake hreceive =>
          obtain rfl := Option.some.inj hstep
          cases hphase
          exact .inl ⟨before, hserving, .receive hreceive, rfl⟩
  | send event =>
      simp only [step] at hstep
      split at hstep
      case h_2 => cases hstep
      case h_1 before rest hserving =>
        obtain rfl := Option.some.inj hstep
        cases hphase
        exact .inl ⟨before, hserving, .send event _, rfl⟩
  | appReturns raised =>
      simp only [step] at hstep
      split at hstep
      case h_2 => cases hstep
      case h_1 before rest hserving =>
        obtain rfl := Option.some.inj hstep
        obtain ⟨request, hsuffix, hserve⟩ := advance_serving hphase
        exact .inr (.inr ⟨request, ⟨rest, hsuffix, .inl ⟨before, hserving⟩⟩, hserve⟩)
  | cancel =>
      simp only [step] at hstep
      split at hstep
      case h_2 => cases hstep
      case h_1 before rest hserving =>
        obtain ⟨after, hcancel, rfl⟩ := Option.map_eq_some_iff.mp hstep
        cases hphase
        exact .inl ⟨before, hserving, cancelCompanion_turn hcancel, rfl⟩

/-! ## Invariants of requests -/

variable {allowed : State Conn → Action → Prop}

/-- The events left behind while a request is served are tidy. -/
theorem tidy_of_serving (hpauses : env.h11.PausesAfterMessage) {state : State Conn}
    (hreach : (machine env).Reach allowed state) :
    ∀ serving events, state.phase = .serving serving events → Tidy events := by
  induction hreach with
  | init hinit =>
      intro serving events hphase
      rw [show _ = _ from hinit] at hphase
      cases hphase
  | step _ _ hstep ih =>
      intro serving events hphase
      obtain ⟨before, hbefore, -⟩ | ⟨hbefore, -⟩ | ⟨request, ⟨source, hsuffix, hsource⟩, -⟩ :=
        step_serving hstep hphase
      · exact ih before events hbefore
      · exact ih serving events hbefore
      · have hrest := (List.suffix_cons (.requestReceived request) events).trans hsuffix
        obtain ⟨before, hbefore⟩ | ⟨data, -, hparsed⟩ := hsource
        · exact (ih before source hbefore).suffix hrest
        · exact (tidy_receiveData hpauses hparsed).suffix hrest

/-- What holds when the application is set up, survives the departure of the client and is
kept by every allowed turn holds of the requests served in the runs. -/
theorem serving_induction (Inv : Bool → Serving → Prop) (hpauses : env.h11.PausesAfterMessage)
    (hserve : ∀ gone request events, Tidy events →
      bodyExceedsLimit env request (initialBody events) = false →
      Inv gone (serve request (initialBody events)))
    (hleave : ∀ gone serving, Inv gone serving → Inv true serving)
    (hturn : ∀ state before events action serving, state.phase = .serving before events →
      Inv state.clientGone before → allowed state action → Turn env state before action serving →
      Inv state.clientGone serving)
    {state : State Conn} (hreach : (machine env).Reach allowed state) :
    ∀ serving events, state.phase = .serving serving events → Inv state.clientGone serving := by
  induction hreach with
  | init hinit =>
      intro serving events hphase
      rw [show _ = _ from hinit] at hphase
      cases hphase
  | step hreach hallowed hstep ih =>
      intro serving events hphase
      have hafter := tidy_of_serving hpauses (hreach.step hallowed hstep) serving events hphase
      obtain ⟨before, hbefore, hturned, hgone⟩ | ⟨hbefore, hgone⟩ | ⟨request, -, rfl, hwithin⟩ :=
        step_serving hstep hphase
      · rw [hgone]
        exact hturn _ before events _ serving hbefore (ih before events hbefore) hallowed hturned
      · have hinv := ih serving events hbefore
        obtain hsame | htrue := hgone
        · rw [hsame]
          exact hinv
        · rw [htrue]
          exact hleave _ serving hinv
      · exact hserve _ request events hafter hwithin

end Pounce.Worker
