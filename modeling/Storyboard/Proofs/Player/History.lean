import Storyboard.Proofs.Player.Deed
import Storyboard.Player.Session

/-!
# Histories of a run

While a run is in progress, four kinds of things happen: the host makes a request, the run takes a
step, the host gives the run up, or the host forgets it. A `Turn` is one of them, and turns come in
any order, so the host may act between any two steps. Whatever a host does while a run is in
progress comes to a list of turns (`Session.exists_turns_act`).

The history of a session under turns is the list of its moments: each turn with the session that it
met. What a run did, what the host saw and what it sent are functions of the moments.
-/

namespace Storyboard

/-- One thing that happens while a run is in progress. -/
inductive Turn where
  /-- The host makes a request. -/
  | request (request : Request)
  /-- The run takes a step. -/
  | step
  /-- The host gives the run up. -/
  | drop
  /-- The host forgets the run. -/
  | leak

/-- The control that the host uses in its turn. -/
def Turn.controls : Turn → List Control
  | .request (.control control) => [control]
  | _ => []

namespace Session

/-- The session after a turn, with how its run ended if it ended in the turn. -/
def turn (session : Session) : Turn → Session × Option Ending
  | .request request => ((session.request request).1, none)
  | .step => session.proceed 1
  | .drop =>
    match session.run with
    | some run => (session.drop run, some .dropped)
    | none => (session, none)
  | .leak =>
    match session.run with
    | some _ => (session.leak, some .leaked)
    | none => (session, none)

/-- The session after turns. -/
def after (session : Session) (turns : List Turn) : Session :=
  turns.foldl (fun session turn => (session.turn turn).1) session

end Session

/-- A turn, with the session that it met. -/
structure Moment where
  /-- The session before the turn. -/
  session : Session
  /-- The turn. -/
  turn : Turn

namespace Moment

/-- The session after the moment. -/
def after (moment : Moment) : Session := (moment.session.turn moment.turn).1

/-- How the run ended in the moment, if it did. -/
def ending (moment : Moment) : Option Ending := (moment.session.turn moment.turn).2

/-- What the run did in the moment, if it took a step. -/
def deed (moment : Moment) : Option Deed :=
  match moment.turn, moment.session.run with
  | .step, some run => some (run.deed moment.session.scenario moment.session.stage)
  | _, _ => none

/-- The events of the moment. -/
def events (moment : Moment) : List Event :=
  moment.after.stage.log.drop moment.session.stage.log.length

/-- The controls that the host used in the moment, in its turn and in reaction to events. -/
def controls (moment : Moment) : List Control :=
  moment.turn.controls ++ moment.session.stage.reactionsTo moment.events

/-- The signals that the host sent in the moment. -/
def signals (moment : Moment) : List Signal := moment.controls.filterMap Control.signal?

end Moment

namespace Session

/-- The moments of a session under turns. -/
def history (session : Session) : List Turn → List Moment
  | [] => []
  | turn :: rest => ⟨session, turn⟩ :: (session.turn turn).1.history rest

/-- How the run of a session ended under turns, if it did. -/
def ending (session : Session) (turns : List Turn) : Option Ending :=
  (session.history turns).findSome? Moment.ending

variable (session : Session)

@[simp] theorem after_nil : session.after [] = session := rfl

@[simp] theorem after_cons (turn : Turn) (rest : List Turn) :
    session.after (turn :: rest) = (session.turn turn).1.after rest := rfl

theorem after_append (first later : List Turn) :
    session.after (first ++ later) = (session.after first).after later :=
  List.foldl_append

theorem history_append (first later : List Turn) :
    session.history (first ++ later) =
      session.history first ++ (session.after first).history later := by
  induction first generalizing session with
  | nil => rfl
  | cons turn rest ih => exact congrArg (_ :: ·) (ih _)

@[simp] theorem ending_nil : session.ending [] = none := rfl

@[simp] theorem ending_cons (turn : Turn) (rest : List Turn) :
    session.ending (turn :: rest) =
      (session.turn turn).2.or ((session.turn turn).1.ending rest) := by
  rw [ending, history, List.findSome?_cons, ending]
  cases h : Moment.ending ⟨session, turn⟩ <;> simp [Moment.ending] at h <;> simp [h]

theorem ending_append (first later : List Turn) :
    session.ending (first ++ later) =
      (session.ending first).or ((session.after first).ending later) := by
  rw [ending, history_append, List.findSome?_append, ending, ending]

/-! ### A step -/

/-- **The step of a session** is the step of its run. -/
theorem turn_step {run : Run} (h : session.run = some run) :
    session.turn .step =
      let progress := run.step session.scenario session.stage
      ({ session with stage := progress.stage, run := progress.run? },
        progress.outcome?.map .outcome) := by
  rw [turn, proceed, h]
  simp only [Run.proceed]
  cases run.step session.scenario session.stage <;> rfl

theorem turn_step_none (h : session.run = none) : session.turn .step = (session, none) := by
  rw [turn, proceed, h]

/-! ### Actions of the host -/

/-- One more unit of fuel is one more step, unless the run has to wait before. -/
theorem proceed_succ (fuel : Nat) {run : Run} (h : session.run = some run) :
    session.proceed (fuel + 1) =
      match run.step session.scenario session.stage with
      | .moved stage run => { session with stage, run := some run }.proceed fuel
      | _ => session.turn .step := by
  rw [turn_step session h, proceed, h]
  simp only [Run.proceed]
  cases run.step session.scenario session.stage <;> rfl

theorem proceed_zero : session.proceed 0 = (session, none) := by
  obtain ⟨scenario, entry, stage, run⟩ := session
  cases run <;> rfl

theorem exists_steps_proceed (fuel : Nat) :
    ∃ n, session.proceed fuel =
      (session.after (List.replicate n .step), session.ending (List.replicate n .step)) := by
  induction fuel generalizing session with
  | zero => exact ⟨0, session.proceed_zero⟩
  | succ fuel ih =>
    cases h : session.run with
    | none => exact ⟨0, by rw [proceed, h]; rfl⟩
    | some run =>
      have hone : session.turn .step =
          (session.after (List.replicate 1 .step), session.ending (List.replicate 1 .step)) := by
        simp
      rw [proceed_succ session fuel h]
      cases hstep : run.step session.scenario session.stage with
      | waiting stage run => exact ⟨1, hone⟩
      | ended stage outcome => exact ⟨1, hone⟩
      | moved stage run =>
        have hturn : session.turn .step = ({ session with stage, run := some run }, none) := by
          rw [turn_step session h, hstep]
          rfl
        -- A step that moved on is followed by the steps that the fuel still allows.
        obtain ⟨n, hn⟩ := ih { session with stage, run := some run }
        refine ⟨n + 1, ?_⟩
        simp only [List.replicate_succ, after_cons, ending_cons, hturn, Option.none_or]
        exact hn

theorem after_requests (requests : List Request) :
    session.after (requests.map .request) =
      requests.foldl (fun session request => (session.request request).1) session := by
  rw [after, List.foldl_map]
  rfl

theorem ending_requests (requests : List Request) :
    session.ending (requests.map .request) = none := by
  induction requests generalizing session with
  | nil => rfl
  | cons request rest ih => rw [List.map_cons, ending_cons, ih]; rfl

theorem exists_turns_thenProceed (fuel : Nat) (requests : List Request) (reply : Reply) :
    ∃ turns, ((session.after (requests.map .request)).thenProceed fuel reply).1 =
        session.after turns ∧
      ((session.after (requests.map .request)).thenProceed fuel reply).2.2 =
        session.ending turns := by
  obtain ⟨n, hn⟩ := exists_steps_proceed (session.after (requests.map .request)) fuel
  refine ⟨requests.map .request ++ List.replicate n .step, ?_, ?_⟩
  · rw [thenProceed, hn, after_append]
  · rw [thenProceed, hn, ending_append, ending_requests, Option.none_or]

/-- **Whatever the host does while a run is in progress comes to turns.** -/
theorem exists_turns_act (fuel : Nat) (action : Action) {run : Run} (h : session.run = some run) :
    ∃ turns, (session.act fuel action).1 = session.after turns ∧
      (session.act fuel action).2.2 = session.ending turns := by
  have hproceed := exists_turns_thenProceed session fuel
  cases action with
  | request request => exact hproceed [request] (session.request request).2
  | requests requests =>
    rw [act, ← after_requests]
    exact hproceed requests .none
  | start label =>
    -- A run is in progress, so no other can be started; the one there goes on.
    simp only [act, h]
    exact hproceed [] .refused
  | create label => exact ⟨[], by simp [act, h], by simp [act, h]⟩
  | drop => exact ⟨[.drop], by simp [act, turn, h], by simp [act, turn, h]⟩
  | leak => exact ⟨[.leak], by simp [act, turn, h], by simp [act, turn, h]⟩
  | reload options sources =>
    simp only [act, h]
    exact hproceed [] .refused
  | unknown => exact hproceed [] .refused

/-! ### Requests -/

/-- The release of one asset is that of a list of one. -/
theorem request_release (session : Session) (name : String) :
    (session.request (.release name)).1 =
      session.onStage fun stage => stage.onDepot (stage.depot.releaseEach [name]) := by
  rw [onStage, Depot.releaseEach_singleton]
  rfl

/-- A request lets at most events of the store happen, uses the controls of the host's turn and of
its reactions, and touches neither the scenario nor the run. -/
theorem request_spec (request : Request) :
    ∃ assets : List AssetEvent,
      (session.request request).1.stage.log = session.stage.log ++ assets.map .asset ∧
      (session.request request).1.stage.desk = session.stage.desk.applyAll
        (Turn.controls (.request request) ++ session.stage.reactionsTo (assets.map .asset)) := by
  -- Releasing assets shows events, and the host may react to them at once.
  have hdepot : ∀ result : Depot × List AssetEvent,
      (session.stage.onDepot result).log = session.stage.log ++ result.2.map .asset ∧
      (session.stage.onDepot result).desk =
        session.stage.desk.applyAll (session.stage.reactionsTo (result.2.map .asset)) := by
    intro result
    have h := (Stage.Emits.refl { session.stage with depot := result.1 }).emitAll
      (result.2.map .asset)
    exact ⟨h.log, h.desk⟩
  cases request with
  | release name =>
    rw [request_release]
    exact ⟨_, hdepot (session.stage.depot.releaseEach [name])⟩
  | releaseAll => exact ⟨_, hdepot session.stage.depot.releaseAll⟩
  | _ => exact ⟨[], (List.append_nil _).symm, rfl⟩

theorem request_scenario (request : Request) :
    (session.request request).1.scenario = session.scenario := by
  cases request <;> rfl

theorem request_run (request : Request) : (session.request request).1.run = session.run := by
  cases request <;> rfl

/-! ### What stays -/

theorem turn_scenario (turn : Turn) : (session.turn turn).1.scenario = session.scenario := by
  cases turn with
  | request request => exact request_scenario session request
  | step =>
    cases h : session.run with
    | none => rw [turn_step_none session h]
    | some run => rw [turn_step session h]
  | drop => cases h : session.run <;> simp [Session.turn, h, Session.drop]
  | leak => cases h : session.run <;> simp [Session.turn, h, Session.leak]

theorem after_scenario (turns : List Turn) :
    (session.after turns).scenario = session.scenario := by
  induction turns generalizing session with
  | nil => rfl
  | cons turn rest ih => rw [after_cons, ih, turn_scenario]

theorem turn_run_none (h : session.run = none) (turn : Turn) :
    (session.turn turn).1.run = none := by
  cases turn with
  | request request => exact (request_run session request).trans h
  | step => rw [turn_step_none session h, h]
  | drop => simp [Session.turn, h]
  | leak => simp [Session.turn, h]

theorem turn_ending_none (h : session.run = none) (turn : Turn) : (session.turn turn).2 = none := by
  cases turn with
  | request request => rfl
  | step => rw [turn_step_none session h]
  | drop => simp [Session.turn, h]
  | leak => simp [Session.turn, h]

theorem run_of_turn_ending {turn : Turn} {ending : Ending}
    (h : (session.turn turn).2 = some ending) :
    (session.turn turn).1.run = none := by
  cases hrun : session.run with
  | none => exact session.turn_run_none hrun turn
  | some run =>
    cases turn with
    | request request => cases h
    | drop => simp [Session.turn, hrun, Session.drop]
    | leak => simp [Session.turn, hrun, Session.leak]
    | step =>
      rw [turn_step session hrun] at h ⊢
      cases hstep : run.step session.scenario session.stage with
      | ended stage outcome => rfl
      | _ => simp [hstep, Progress.outcome?] at h

/-! ### Moments of a history -/

/-- A moment of a history is a turn with the session after the turns before it, and what follows it
is the history from there. -/
theorem exists_turns_of_history {turns : List Turn} {early late : List Moment} {moment : Moment}
    (h : session.history turns = early ++ moment :: late) :
    ∃ first rest, turns = first ++ moment.turn :: rest ∧ early = session.history first ∧
      moment.session = session.after first ∧ late = moment.after.history rest := by
  induction early generalizing session turns with
  | nil =>
    cases turns with
    | nil => cases h
    | cons turn rest =>
      obtain ⟨rfl, rfl⟩ := List.cons.inj h
      exact ⟨[], rest, rfl, rfl, rfl, rfl⟩
  | cons before early ih =>
    cases turns with
    | nil => cases h
    | cons turn rest =>
      obtain ⟨rfl, htail⟩ := List.cons.inj h
      obtain ⟨first, later, rfl, rfl, hsession, hlate⟩ := ih _ htail
      exact ⟨turn :: first, later, rfl, rfl, hsession, hlate⟩

/-- What each turn keeps, each moment of a history meets. -/
theorem forall_history {P : Session → Prop} (hturn : ∀ moment : Moment, P moment.session →
    P moment.after) (h : P session) (turns : List Turn) :
    ∀ moment ∈ session.history turns, P moment.session := by
  induction turns generalizing session with
  | nil => simp [history]
  | cons turn rest ih =>
    intro moment hmem
    obtain rfl | hrest := List.mem_cons.1 hmem
    · exact h
    · exact ih _ (hturn ⟨session, turn⟩ h) moment hrest

theorem ending_of_run_none (h : session.run = none) (turns : List Turn) :
    ∀ moment ∈ session.history turns, moment.ending = none := by
  intro moment hmem
  have hrun := session.forall_history (P := fun session => session.run = none)
    (fun moment hrun => turn_run_none _ hrun moment.turn) h turns moment hmem
  exact turn_ending_none _ hrun moment.turn

/-- **A run ends in one moment of its history.** -/
theorem ending_eq_some_iff (turns : List Turn) (ending : Ending) :
    session.ending turns = some ending ↔
      ∃ moment ∈ session.history turns, moment.ending = some ending := by
  constructor
  · exact List.exists_of_findSome?_eq_some
  · rintro ⟨moment, hmem, hending⟩
    induction turns generalizing session with
    | nil => cases hmem
    | cons turn rest ih =>
      rw [ending_cons]
      obtain rfl | hrest := List.mem_cons.1 hmem
      · exact congrArg (Option.or · _) hending
      · cases hturn : (session.turn turn).2 with
        | none => exact ih _ hrest
        | some other =>
          -- The run ended in this turn, so it cannot have ended in a later moment.
          have hnone := ending_of_run_none _ (session.run_of_turn_ending hturn) rest moment hrest
          rw [hnone] at hending
          cases hending

end Session

/-! ### The events of a moment -/

namespace Moment

theorem events_eq {moment : Moment} {events : List Event}
    (h : moment.after.stage.log = moment.session.stage.log ++ events) : moment.events = events := by
  rw [Moment.events, h, List.drop_left]

variable (session : Session)

theorem exists_run_of_deed {moment : Moment} {deed : Deed} (h : moment.deed = some deed) :
    ∃ run : Run, moment.turn = .step ∧ moment.session.run = some run ∧
      run.deed moment.session.scenario moment.session.stage = deed := by
  obtain ⟨session, turn⟩ := moment
  cases turn with
  | step =>
    cases hrun : session.run with
    | none => simp [Moment.deed, hrun] at h
    | some run => exact ⟨run, rfl, rfl, by simpa [Moment.deed, hrun] using h⟩
  | _ => cases h

theorem deed_of_run_none (h : session.run = none) (turn : Turn) : deed ⟨session, turn⟩ = none := by
  cases turn <;> simp [deed, h]

theorem log_request (request : Request) :
    ∃ assets : List AssetEvent,
      (after ⟨session, .request request⟩).stage.log = session.stage.log ++ assets.map .asset ∧
      (after ⟨session, .request request⟩).stage.desk =
        session.stage.desk.applyAll (controls ⟨session, .request request⟩) := by
  obtain ⟨assets, hlog, hdesk⟩ := session.request_spec request
  have hevents : events ⟨session, .request request⟩ = assets.map .asset := events_eq hlog
  refine ⟨assets, hlog, ?_⟩
  rw [controls, hevents]
  exact hdesk

theorem log_step {run : Run} (h : session.run = some run) :
    (after ⟨session, .step⟩).stage.log = session.stage.log ++
      ((run.deed session.scenario session.stage).events session.scenario session.stage ++
        (run.step session.scenario session.stage).finale) := by
  rw [after, Session.turn_step session h]
  simp only [Run.step_eq_carryOut, Run.log_carryOut, List.append_assoc]

theorem log_step_none (h : session.run = none) :
    (after ⟨session, .step⟩).stage.log = session.stage.log ++ [] := by
  rw [after, Session.turn_step_none session h, List.append_nil]

/-- A run that is given up or forgotten leaves the stage as it is, but for the status and the
desk. -/
theorem stage_of_withdrawn {turn : Turn} (h : turn = .drop ∨ turn = .leak) :
    ∃ status desk, (after ⟨session, turn⟩).stage = { session.stage with status, desk } := by
  obtain rfl | rfl := h
  · rw [after, Session.turn]
    cases session.run with
    | none => exact ⟨_, _, rfl⟩
    | some run =>
      obtain ⟨entry, point⟩ := run
      cases point <;> exact ⟨_, _, rfl⟩
  · rw [after, Session.turn]
    cases session.run <;> exact ⟨_, _, rfl⟩

theorem log_drop : (after ⟨session, .drop⟩).stage.log = session.stage.log ++ [] := by
  obtain ⟨status, desk, hstage⟩ := stage_of_withdrawn session (.inl rfl)
  exact (congrArg Stage.log hstage).trans (List.append_nil _).symm

theorem log_leak : (after ⟨session, .leak⟩).stage.log = session.stage.log ++ [] := by
  obtain ⟨status, desk, hstage⟩ := stage_of_withdrawn session (.inr rfl)
  exact (congrArg Stage.log hstage).trans (List.append_nil _).symm

/-- **The log only grows**, in each moment by its events. -/
theorem log_after (moment : Moment) :
    moment.after.stage.log = moment.session.stage.log ++ moment.events := by
  -- The events of a moment are read off the log, so it is enough that the log grows.
  have hgrows : ∃ events, moment.after.stage.log = moment.session.stage.log ++ events := by
    obtain ⟨session, turn⟩ := moment
    cases turn with
    | request request =>
      obtain ⟨assets, hlog, -⟩ := log_request session request
      exact ⟨_, hlog⟩
    | step =>
      cases h : session.run with
      | none => exact ⟨_, log_step_none session h⟩
      | some run => exact ⟨_, log_step session h⟩
    | drop => exact ⟨_, log_drop session⟩
    | leak => exact ⟨_, log_leak session⟩
  obtain ⟨events, h⟩ := hgrows
  rw [events_eq h, h]

theorem events_request (request : Request) :
    ∃ assets : List AssetEvent, events ⟨session, .request request⟩ = assets.map .asset := by
  obtain ⟨assets, hlog, -⟩ := log_request session request
  exact ⟨assets, events_eq hlog⟩

theorem desk_request (request : Request) :
    (after ⟨session, .request request⟩).stage.desk =
      session.stage.desk.applyAll (controls ⟨session, .request request⟩) := by
  obtain ⟨-, -, hdesk⟩ := log_request session request
  exact hdesk

/-- **The events of a step** are those of its deed, followed by the end of the run if the run comes
to its end. -/
theorem events_step {run : Run} (h : session.run = some run) :
    events ⟨session, .step⟩ =
      (run.deed session.scenario session.stage).events session.scenario session.stage ++
        (run.step session.scenario session.stage).finale :=
  events_eq (log_step session h)

/-- In a step that does not end the run, the host uses its controls in reaction to the events of the
deed. -/
theorem controls_step {run run' : Run} (hrun : session.run = some run)
    (hgoes : (run.step session.scenario session.stage).run? = some run') :
    controls ⟨session, .step⟩ = session.stage.reactionsTo
      ((run.deed session.scenario session.stage).events session.scenario session.stage) := by
  rw [controls, events_step session hrun, Progress.finale_of_run hgoes, List.append_nil]
  rfl

theorem events_step_none (h : session.run = none) : events ⟨session, .step⟩ = [] :=
  events_eq (log_step_none session h)

theorem events_drop : events ⟨session, .drop⟩ = [] := events_eq (log_drop session)

theorem events_leak : events ⟨session, .leak⟩ = [] := events_eq (log_leak session)

/-- In a moment in which no run takes a step, nothing is played to the reader. -/
theorem shown_of_deed_none {moment : Moment} (h : moment.deed = none) :
    moment.events.filter Event.isShown = [] := by
  obtain ⟨session, turn⟩ := moment
  cases turn with
  | request request =>
    obtain ⟨assets, hassets⟩ := events_request session request
    rw [hassets]
    simp [Event.isShown]
  | step =>
    cases hrun : session.run with
    | none => rw [events_step_none session hrun, List.filter_nil]
    | some run => simp [deed, hrun] at h
  | drop => rw [events_drop, List.filter_nil]
  | leak => rw [events_leak, List.filter_nil]

end Moment

end Storyboard
