import Storyboard.Proofs.Player.History

/-!
# Stopping a run

The stop switch is looked at by every wait, before what is waited for. So with the switch on a run
begins no command and no reconciliation, and its next step ends it. A host may turn the switch on at
any time, also from within an event; then what the step of that event still shows is all that is
left, and if the run comes to its end in that step, the end.

The proof has one invariant: a session in which there is no run, or the switch is on
(`Session.Halted`), stays so. `Session.stopping_is_safe` puts together what follows for the history
of a run.
-/

namespace Storyboard

/-! ### How a run ends -/

namespace Run

section

variable (scenario : Scenario) (run : Run) (stage : Stage)

/-- A run that does anything but halt or be refused goes on or comes to its end. -/
theorem outcome_carryOut {deed : Deed} (hhalt : deed ≠ .halt) (hrefuse : deed ≠ .refuse) :
    (run.carryOut scenario stage deed).outcome? = none ∨
      ∃ last, (run.carryOut scenario stage deed).outcome? = some (.completed last) := by
  cases deed with
  | halt => exact absurd rfl hhalt
  | refuse => exact absurd rfl hrefuse
  | reconcile label required => exact (fetch_proceeds _ _ _ _ _ (.inl rfl)).outcome
  | resume label batch => exact (fetch_proceeds _ _ _ _ _ (.inr rfl)).outcome
  | begin label index next command =>
    -- A command is over at once, and then the run may be too, or it is left waiting.
    obtain hpast | ⟨after, point, hbegin, -, -, -⟩ :=
      begin_cases scenario run stage label index next command
    · exact hpast.outcome
    · exact .inl (congrArg Progress.outcome? hbegin)
  | leave label next => exact (leave_proceeds ..).outcome
  | advance label index next => exact (pass_proceeds ..).outcome
  | choose label index targets answer => exact (pass_proceeds ..).outcome
  | _ => exact .inl rfl

/-- **A step ends a run as stopped exactly when it finds the stop switch on.** -/
theorem outcome_eq_stopped_iff (deed : Deed) :
    (run.carryOut scenario stage deed).outcome? = some .stopped ↔ deed = .halt := by
  constructor
  · intro h
    by_cases hhalt : deed = .halt
    · exact hhalt
    by_cases hrefuse : deed = .refuse
    · rw [hrefuse] at h
      cases h
    · obtain hnone | ⟨last, hlast⟩ := outcome_carryOut scenario run stage hhalt hrefuse
      · rw [hnone] at h
        cases h
      · rw [hlast] at h
        cases h
  · rintro rfl
    rfl

theorem intent_ne_halt : run.intent scenario stage ≠ .halt := by
  obtain ⟨entry, point⟩ := run
  unfold intent
  cases point <;> dsimp only <;> (repeat' split) <;> nofun

/-- **A step finds the stop switch on** exactly when the switch is on and the step begins with a
wait. -/
theorem deed_eq_halt_iff :
    run.deed scenario stage = .halt ↔
      stage.desk.stopped = true ∧ ∃ wait, run.wait? scenario = some wait := by
  rw [← Option.isSome_iff_exists, ← Bool.and_eq_true_iff, deed]
  split
  · next h => exact iff_of_true rfl h
  · next h => exact iff_of_false (intent_ne_halt scenario run stage) h

theorem deed_of_stopped (h : stage.desk.stopped = true) :
    run.deed scenario stage = .halt ∨ run.deed scenario stage = .refuse := by
  obtain ⟨-, hhalt⟩ | ⟨hquiet, hintent⟩ := deed_cases scenario stage run
  · exact .inl hhalt
  · -- The switch is on and yet the run does not halt, so it is at no wait: it was just created, at
    -- a label with nothing to play.
    obtain hnone | hstopped := hquiet
    · right
      rw [hintent]
      obtain ⟨entry, point⟩ := run
      cases point with
      | created =>
        by_cases he : (scenario.commands entry).isEmpty = true
        · simp only [intent, he, if_true]
        · simp [wait?, he] at hnone
      | _ => cases hnone
    · rw [h] at hstopped
      cases hstopped

end

end Run

/-! ### Halted sessions -/

/-- Whether a command or a reconciliation begins. -/
def Deed.begins : Deed → Bool
  | .reconcile _ _ => true
  | .begin _ _ _ _ => true
  | _ => false

namespace Moment

/-- Whether a command or a reconciliation begins in the moment. -/
def begins (moment : Moment) : Bool := moment.deed.any Deed.begins

/-- The wait that is polled in the moment, if one is. -/
def wait? (moment : Moment) : Option Wait :=
  match moment.turn, moment.session.run with
  | .step, some run => run.wait? moment.session.scenario
  | _, _ => none

/-- The end of the run, if the run comes to its end in the moment. -/
def finale (moment : Moment) : List Event :=
  match moment.ending with
  | some (.outcome (.completed _)) => [.finish]
  | _ => []

theorem ending_of_deed {moment : Moment} {deed : Deed} (h : moment.deed = some deed) :
    ∃ run : Run, moment.ending =
      (run.carryOut moment.session.scenario moment.session.stage deed).outcome?.map .outcome := by
  obtain ⟨run, hturn, hrun, rfl⟩ := exists_run_of_deed h
  refine ⟨run, ?_⟩
  rw [ending, hturn, Session.turn_step _ hrun, Run.step_eq_carryOut]

theorem events_of_deed {moment : Moment} {deed : Deed} (h : moment.deed = some deed) :
    moment.events =
      deed.events moment.session.scenario moment.session.stage ++ moment.finale := by
  obtain ⟨run, hturn, hrun, rfl⟩ := exists_run_of_deed h
  obtain ⟨session, turn⟩ := moment
  obtain rfl : turn = .step := hturn
  rw [events_step session hrun, finale, ending, Session.turn_step session hrun]
  cases run.step session.scenario session.stage with
  | ended stage outcome => cases outcome <;> rfl
  | _ => rfl

end Moment

namespace Session

/-- There is no run, or the stop switch is on. -/
def Halted (session : Session) : Prop := session.run = none ∨ session.stage.desk.stopped = true

/-- **The stop switch after a moment**, unless the run is over: it is on if it was on before or the
host used it in the moment. -/
theorem stopped_after (moment : Moment) (h : moment.after.run ≠ none) :
    moment.after.stage.desk.stopped =
      (moment.session.stage.desk.stopped || decide (.stop ∈ moment.controls)) := by
  obtain ⟨session, turn⟩ := moment
  cases turn with
  | request request => rw [Moment.desk_request, Desk.stopped_applyAll]
  | drop => cases hrun : session.run <;> simp [Moment.after, turn, hrun, drop] at h
  | leak => cases hrun : session.run <;> simp [Moment.after, turn, hrun, leak] at h
  | step =>
    cases hrun : session.run with
    | none => exact absurd (turn_run_none session hrun _) h
    | some run =>
      obtain ⟨run', hrun'⟩ := Option.ne_none_iff_exists'.1 h
      rw [Moment.after, turn_step session hrun] at hrun' ⊢
      rw [Moment.controls_step session hrun hrun']
      rw [Run.step_eq_carryOut] at hrun' ⊢
      exact Run.stopped_carryOut _ _ _ _ hrun'

theorem halted_of_stop (moment : Moment)
    (h : moment.session.stage.desk.stopped = true ∨ .stop ∈ moment.controls) :
    moment.after.Halted := by
  by_cases hrun : moment.after.run = none
  · exact .inl hrun
  · refine .inr ?_
    rw [stopped_after moment hrun]
    obtain hstopped | hstop := h
    · rw [hstopped, Bool.true_or]
    · rw [decide_eq_true hstop, Bool.or_true]

/-- **A halted session stays halted.** -/
theorem Halted.after (moment : Moment) (h : moment.session.Halted) : moment.after.Halted := by
  obtain hrun | hstopped := h
  · exact .inl (turn_run_none _ hrun moment.turn)
  · exact halted_of_stop moment (.inl hstopped)

theorem Halted.deed {moment : Moment} {deed : Deed} (h : moment.session.Halted)
    (hdeed : moment.deed = some deed) : deed = .halt ∨ deed = .refuse := by
  obtain ⟨run, -, hrun, rfl⟩ := Moment.exists_run_of_deed hdeed
  obtain hnone | hstopped := h
  · cases hrun.symm.trans hnone
  · exact Run.deed_of_stopped _ run _ hstopped

end Session

namespace Moment

/-- In a moment in which no run takes a step, no run ends by itself. -/
theorem quiet_of_deed_none {moment : Moment} (h : moment.deed = none) :
    (moment.turn = .step → moment.events = []) ∧
      ∀ outcome, moment.ending ≠ some (.outcome outcome) := by
  obtain ⟨session, turn⟩ := moment
  cases turn with
  | step =>
    cases hrun : session.run with
    | none =>
      refine ⟨fun _ => events_step_none session hrun, fun outcome => ?_⟩
      simp [ending, Session.turn_step_none session hrun]
    | some run => simp [deed, hrun] at h
  | request request => simp [ending, Session.turn]
  | drop => cases hrun : session.run <;> simp [ending, Session.turn, hrun]
  | leak => cases hrun : session.run <;> simp [ending, Session.turn, hrun]

/-- A run halts in a moment in which a wait is polled with the stop switch on. -/
theorem deed_eq_halt_iff (moment : Moment) :
    moment.deed = some .halt ↔
      (∃ wait, moment.wait? = some wait) ∧ moment.session.stage.desk.stopped = true := by
  obtain ⟨session, turn⟩ := moment
  cases turn with
  | step =>
    cases hrun : session.run with
    | none => simp [deed, wait?, hrun]
    | some run =>
      simp only [deed, wait?, hrun, Option.some.injEq, Run.deed_eq_halt_iff]
      exact And.comm
  | _ => simp [deed, wait?]

/-- **A run ends as stopped** in the moment in which it halts. -/
theorem ending_eq_stopped_iff (moment : Moment) :
    moment.ending = some (.outcome .stopped) ↔ moment.deed = some .halt := by
  cases hdeed : moment.deed with
  | none => exact iff_of_false ((quiet_of_deed_none hdeed).2 .stopped) nofun
  | some deed =>
    obtain ⟨run, hending⟩ := ending_of_deed hdeed
    simp [hending, Run.outcome_eq_stopped_iff]

end Moment

namespace Session

/-- **In a halted session nothing begins, nothing is played, a step lets no event happen, and no run
comes to its end.** -/
theorem Halted.quiet {moment : Moment} (h : moment.session.Halted) :
    moment.begins = false ∧ moment.events.filter Event.isShown = [] ∧
      (moment.turn = .step → moment.events = []) ∧
      ∀ last, moment.ending ≠ some (.outcome (.completed last)) := by
  cases hdeed : moment.deed with
  | none =>
    obtain ⟨hevents, hending⟩ := Moment.quiet_of_deed_none hdeed
    exact ⟨by rw [Moment.begins, hdeed]; rfl, Moment.shown_of_deed_none hdeed, hevents,
      fun last => hending _⟩
  | some deed =>
    obtain ⟨run, hending⟩ := Moment.ending_of_deed hdeed
    have hevents := Moment.events_of_deed hdeed
    rw [Moment.begins, hevents, hdeed, Moment.finale, hending]
    -- All that is left to do is to halt or to be refused.
    obtain rfl | rfl := h.deed hdeed
    · exact ⟨rfl, rfl, fun _ => rfl, nofun⟩
    · exact ⟨rfl, rfl, fun _ => rfl, nofun⟩

/-- **Stopping is safe**, whatever the host does and in whatever order.
A command or a reconciliation begins only while the stop switch is off. A step carries out its deed,
and its events are those of the deed and then the end, if the run comes to its end in that step. So
after the moment in which the switch is turned on, nothing begins any more, nothing is played, no
step lets an event happen, and no run comes to its end. The run ends as stopped exactly when one of
its waits is polled while the switch is on, whatever it waits for. -/
theorem stopping_is_safe (session : Session) (label : Option String) (turns : List Turn) :
    let start := session.create label
    let history := start.history turns
    (∀ moment ∈ history, moment.begins = true → moment.session.stage.desk.stopped = false) ∧
    (∀ moment ∈ history, ∀ deed, moment.deed = some deed →
      (∃ run : Run, moment.session.run = some run ∧
        run.step moment.session.scenario moment.session.stage =
          run.carryOut moment.session.scenario moment.session.stage deed) ∧
      moment.events =
        deed.events moment.session.scenario moment.session.stage ++ moment.finale) ∧
    (∀ early moment late, history = early ++ moment :: late →
      moment.session.stage.desk.stopped = true ∨ .stop ∈ moment.controls →
      ∀ later ∈ late, later.begins = false ∧ later.events.filter Event.isShown = [] ∧
        (later.turn = .step → later.events = []) ∧
        ∀ last, later.ending ≠ some (.outcome (.completed last))) ∧
    (start.ending turns = some (.outcome .stopped) ↔
      ∃ moment ∈ history, (∃ wait, moment.wait? = some wait) ∧
        moment.session.stage.desk.stopped = true) := by
  intro start history
  refine ⟨?_, ?_, ?_, ?_⟩
  · intro moment _ hbegins
    cases hstopped : moment.session.stage.desk.stopped with
    | false => rfl
    | true =>
      have hhalted : moment.session.Halted := .inr hstopped
      rw [hhalted.quiet.1] at hbegins
      cases hbegins
  · intro moment _ deed hdeed
    have hevents := Moment.events_of_deed hdeed
    obtain ⟨run, -, hrun, rfl⟩ := Moment.exists_run_of_deed hdeed
    exact ⟨⟨run, hrun, run.step_eq_carryOut _ _⟩, hevents⟩
  · intro early moment late hhistory hstop later hlater
    obtain ⟨first, rest, -, -, -, rfl⟩ := start.exists_turns_of_history hhistory
    -- Once the switch is on or the run over, that stays so for the rest of the history.
    have hhalted := moment.after.forall_history Halted.after (halted_of_stop moment hstop) rest
    exact (hhalted later hlater).quiet
  · simp only [ending_eq_some_iff, Moment.ending_eq_stopped_iff, Moment.deed_eq_halt_iff]
    exact Iff.rfl

end Session

end Storyboard
