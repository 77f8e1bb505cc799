import Storyboard.Proofs.Player.Trail

/-!
# What a run notices

Beside its events a run writes notices. A step notices what belongs to its deed, and then, if it
goes past the last command of a label, what belongs to leaving the label. Leaving is a departure:
the label that is left, and the label to continue with if one is known (`Deed.departure?`). So all
notices of a step are known from its deed (`Run.notices_carryOut`), and the run comes to its end in
exactly those steps that depart for a label that does not exist, or for none
(`Run.outcome_eq_completed_iff`).
-/

namespace Storyboard

/-! ### Notices of a stage -/

namespace Stage

variable (stage : Stage)

@[simp] theorem notices_emit (event : Event) : (stage.emit event).notices = stage.notices := by
  simp [notices, emit]

@[simp] theorem notices_note (notices : List Notice) :
    (stage.note notices).notices = stage.notices ++ notices := by
  rw [Stage.notices, note, List.filterMap_append, List.filterMap_map]
  exact congrArg (stage.notices ++ ·) List.filterMap_some

@[simp] theorem notices_withStatus (status : Status) :
    (stage.withStatus status).notices = stage.notices := rfl

@[simp] theorem notices_tidy : stage.tidy.notices = stage.notices := rfl

@[simp] theorem notices_emitAll (events : List Event) :
    (stage.emitAll events).notices = stage.notices := by
  induction events generalizing stage with
  | nil => rfl
  | cons event rest ih => rw [emitAll, List.foldl_cons, ← emitAll, ih, notices_emit]

@[simp] theorem notices_onDepot (result : Depot × List AssetEvent) :
    (stage.onDepot result).notices = stage.notices := by
  rw [onDepot, notices_emitAll]
  rfl

end Stage

/-! ### Notices of a command -/

namespace Scenario

/-- What is noticed while a command is performed when these assets are resident. -/
def performNotices (scenario : Scenario) (resident : String → Option Handle) :
    Command → List Notice
  | .text words _ => (scenario.render words).notices
  | .character id hides _ words place =>
    match scenario.character? id with
    | none => [.characterMissing place id]
    | some character =>
      let absence :=
        if hides || (resident character.sprite).isSome then []
        else [Notice.spriteMissing place character.sprite]
      absence ++ words.toList.flatMap fun words => (scenario.render words).notices
  | .jump _ _ => []
  | .choice options _ => options.flatMap fun option => (scenario.render option.text).notices

theorem notices_perform (scenario : Scenario) (stage : Stage) (command : Command) :
    (scenario.perform stage command).1.notices =
      stage.notices ++ scenario.performNotices stage.depot.handle? command := by
  cases command with
  | text words place => simp [perform, say, performNotices]
  | jump target place => simp [perform, performNotices]
  | choice options place => simp [perform, performNotices]
  | character id hides layer words place =>
    cases hc : scenario.character? id with
    | none => simp [perform, performNotices, hc]
    | some character =>
      -- A sprite that is not resident is noticed where the character should appear.
      have happear : (if hides then stage.emit (.hide layer)
            else present character layer place stage).notices = stage.notices ++
          if hides || (stage.depot.handle? character.sprite).isSome then []
          else [.spriteMissing place character.sprite] := by
        cases hides with
        | true => simp
        | false => cases h : stage.depot.handle? character.sprite <;> simp [present, h]
      cases words <;> simp [perform, say, performNotices, hc, happear]

end Scenario

/-! ### Leaving a label -/

/-- What a run leaves and where it wants to go. -/
structure Departure where
  /-- The label that the run leaves. -/
  label : String
  /-- The label to continue with, if one is known. -/
  next : Option String
  deriving DecidableEq

/-- What is noticed when a run departs. -/
def Departure.notices (scenario : Scenario) (departure : Departure) : List Notice :=
  match scenario.existing? departure.next with
  | some target => scenario.assetNotices target
  | none => departure.next.toList.map .targetMissing ++ [.ended departure.label]

namespace Scenario

/-- The departure of a run that approaches a command: none, unless there are no more commands. -/
def departureAt? (scenario : Scenario) (label : String) (index : Nat) (next : Option String) :
    Option Departure :=
  if index < (scenario.commands label).length then none else some ⟨label, next⟩

/-- The departure of a run that goes on with a reconciliation: none, unless the reconciliation is
done and the label has no commands. -/
def fetchDeparture? (scenario : Scenario) (label : String) (batch : Batch) : Option Departure :=
  if batch.isDone then scenario.departureAt? label 0 none else none

/-- What is noticed when a run goes on with a reconciliation. -/
def fetchNotices (label : String) (batch : Batch) : List Notice :=
  if batch.isDone then batch.notices ++ [.running label] else []

end Scenario

/-- What is noticed about signals that were lost. -/
def Desk.lostNotices (desk : Desk) : List Notice :=
  if desk.lost = 0 then [] else [.signalsLost desk.lost]

/-- What is noticed about answers that are no options. -/
def Desk.refusals (desk : Desk) (count : Nat) : List Notice :=
  (Run.firstChoice count desk.kept).2.map (.optionOutOfRange · count)

namespace Deed

/-- The departure of a run in a deed. -/
def departure? (scenario : Scenario) (stage : Stage) : Deed → Option Departure
  | reconcile label required => scenario.fetchDeparture? label (stage.depot.reconcile required).2.1
  | resume label batch => scenario.fetchDeparture? label (stage.depot.resume batch).2
  | .begin label index next command =>
    match scenario.flow command with
    | .proceed => scenario.departureAt? label (index + 1) next
    | .goto target => scenario.departureAt? label (index + 1) (some target)
    | .awaitLine => none
    | .awaitSelection _ => none
  | leave label next => some ⟨label, next⟩
  | advance label index next => scenario.departureAt? label (index + 1) next
  | choose label index targets answer => scenario.departureAt? label (index + 1) targets[answer]?
  | _ => none

/-- What is noticed in a deed, up to a departure. -/
def notices (scenario : Scenario) (stage : Stage) (run : Run) : Deed → List Notice
  | refuse => [.notStarted run.entry]
  | halt => [.stopped run.entry]
  | start => [.starting run.entry]
  | hold => []
  | arrive label => scenario.assetNotices label
  | reconcile label required => Scenario.fetchNotices label (stage.depot.reconcile required).2.1
  | resume label batch => Scenario.fetchNotices label (stage.depot.resume batch).2
  | .begin _ _ _ command => scenario.performNotices stage.depot.handle? command
  | leave _ _ => []
  | listen => stage.desk.lostNotices
  | advance _ _ _ => stage.desk.lostNotices
  | ask targets => stage.desk.lostNotices ++ stage.desk.refusals targets.length
  | choose _ _ targets _ => stage.desk.lostNotices ++ stage.desk.refusals targets.length

end Deed

/-! ### The notices of a step -/

/-- A run goes on from a stage through a departure, if there is one. -/
structure Progress.Departs (scenario : Scenario) (stage : Stage) (departure? : Option Departure)
    (progress : Progress) : Prop where
  /-- What is noticed belongs to the departure. -/
  notices : progress.stage.notices =
    stage.notices ++ departure?.toList.flatMap (·.notices scenario)
  /-- The run comes to its end if it departs for a label that does not exist. -/
  outcome : ∀ last, progress.outcome? = some (.completed last) ↔
    ∃ next, departure? = some ⟨last, next⟩ ∧ scenario.existing? next = none

namespace Progress.Departs

variable {scenario : Scenario} {stage after : Stage} {departure? : Option Departure}
  {progress : Progress}

/-- A run that does not come to its end and departs nowhere. -/
theorem of_none (hnotices : progress.stage.notices = stage.notices)
    (houtcome : ∀ last, progress.outcome? ≠ some (.completed last)) :
    progress.Departs scenario stage none where
  notices := hnotices.trans (List.append_nil _).symm
  outcome last := iff_of_false (houtcome last) nofun

/-- Only the notices of the stage matter. -/
theorem of_stage (h : progress.Departs scenario after departure?)
    (hnotices : after.notices = stage.notices) : progress.Departs scenario stage departure? where
  notices := hnotices ▸ h.notices
  outcome := h.outcome

end Progress.Departs

namespace Run

section

variable (scenario : Scenario) (run : Run) (stage : Stage) (label : String) (index : Nat)
  (next : Option String) (command : Command)

theorem leave_departs :
    (run.leave scenario stage label next).Departs scenario stage (some ⟨label, next⟩) := by
  cases hnext : scenario.existing? next with
  | some target =>
    -- The target exists: the run arrives there and does not end.
    obtain ⟨other, hother, h⟩ | ⟨hnone, -⟩ := leave_cases scenario run stage label next
    · obtain rfl : target = other := Option.some.inj (hnext.symm.trans hother)
      rw [h]
      refine ⟨by simp [arrive, Progress.stage, Departure.notices, hnext], fun last => ?_⟩
      refine iff_of_false (by rintro ⟨⟩) ?_
      rintro ⟨_, ⟨⟩, hnone⟩
      rw [hnext] at hnone
      cases hnone
    · rw [hnext] at hnone
      cases hnone
  | none =>
    -- The run ends, with or without a target to report.
    have hcomplete : ∀ noticed, run.leave scenario stage label next =
        complete (stage.note noticed) label → noticed = next.toList.map .targetMissing →
        (run.leave scenario stage label next).Departs scenario stage (some ⟨label, next⟩) := by
      rintro noticed h rfl
      rw [h]
      refine ⟨by simp [complete, Progress.stage, Departure.notices, hnext], fun last => ?_⟩
      constructor
      · rintro ⟨⟩
        exact ⟨next, rfl, hnext⟩
      · rintro ⟨_, ⟨⟩, -⟩
        rfl
    cases next with
    | none => exact hcomplete [] (by simp [leave, Stage.note]) rfl
    | some target =>
      have hlabel : scenario.label? target = none := by
        simpa [Scenario.existing?] using hnext
      exact hcomplete [.targetMissing target] (by simp [leave, hlabel]) rfl

theorem approach_departs :
    (run.approach scenario stage label index next).Departs scenario stage
      (scenario.departureAt? label index next) := by
  unfold Scenario.departureAt?
  obtain ⟨hlt, h⟩ | ⟨hle, h⟩ := approach_cases scenario run stage label index next
  · rw [h, if_pos hlt]
    exact .of_none rfl nofun
  · rw [h, if_neg (Nat.not_lt.2 hle)]
    exact leave_departs ..

theorem pass_departs :
    (run.pass scenario stage label index next).Departs scenario stage
      (scenario.departureAt? label (index + 1) next) :=
  (approach_departs ..).of_stage rfl

theorem fetch_departs (batch : Batch) {pending : Stage → Run → Progress}
    (hpending : pending = .moved ∨ pending = .waiting) :
    (run.fetch scenario stage label batch pending).Departs scenario
      (stage.note (Scenario.fetchNotices label batch)) (scenario.fetchDeparture? label batch) := by
  unfold fetch Scenario.fetchNotices Scenario.fetchDeparture?
  cases batch.isDone with
  | true =>
    refine (approach_departs ..).of_stage ?_
    simp only [Stage.notices_note, Stage.notices_withStatus, if_true, List.append_assoc]
    rfl
  | false =>
    obtain rfl | rfl := hpending <;>
      exact .of_none (by simp [Progress.stage]) (by rintro _ ⟨⟩)

theorem notices_takeSignals :
    (takeSignals stage).notices = stage.notices ++ stage.desk.lostNotices := by
  unfold takeSignals Desk.lostNotices
  split
  · exact (List.append_nil _).symm
  · exact Stage.notices_note _ _

theorem notices_takeAnswers (targets : List String) :
    (takeAnswers stage targets).notices =
      stage.notices ++ (stage.desk.lostNotices ++ stage.desk.refusals targets.length) := by
  rw [takeAnswers, Stage.notices_note, notices_takeSignals, List.append_assoc]
  rfl

/-- **A step notices what belongs to its deed**, and departs as the deed says. -/
theorem carryOut_departs (deed : Deed) :
    (run.carryOut scenario stage deed).Departs scenario
      (stage.note (deed.notices scenario stage run)) (deed.departure? scenario stage) := by
  cases deed with
  | refuse => exact .of_none rfl (by rintro _ ⟨⟩)
  | halt => exact .of_none rfl (by rintro _ ⟨⟩)
  | start => exact .of_none (by simp [carryOut, Progress.stage, Deed.notices]) (by rintro _ ⟨⟩)
  | hold => exact .of_none (by simp [carryOut, Progress.stage, Deed.notices]) (by rintro _ ⟨⟩)
  | arrive label =>
    exact .of_none (by simp [carryOut, arrive, Progress.stage, Deed.notices]) (by rintro _ ⟨⟩)
  | reconcile label required =>
    exact (fetch_departs _ _ _ _ _ (.inl rfl)).of_stage (by simp [Deed.notices])
  | resume label batch =>
    exact (fetch_departs _ _ _ _ _ (.inr rfl)).of_stage (by simp [Deed.notices]; rfl)
  | begin label index next command =>
    -- What a command notices comes before the departure that may follow it in the same step.
    have hperformed : (performed scenario stage index command).notices =
        (stage.note
          (Deed.notices scenario stage run (.begin label index next command))).notices := by
      rw [performed, scenario.notices_perform, Stage.notices_note]
      rfl
    rw [carryOut, begin_eq]
    simp only [Deed.departure?]
    cases scenario.flow command with
    | proceed => exact (pass_departs ..).of_stage hperformed
    | goto target => exact (pass_departs ..).of_stage hperformed
    | awaitLine => exact .of_none hperformed (by rintro _ ⟨⟩)
    | awaitSelection targets => exact .of_none hperformed (by rintro _ ⟨⟩)
  | leave label next =>
    exact (leave_departs ..).of_stage (by simp [Deed.notices])
  | listen =>
    exact .of_none (by simp [carryOut, Progress.stage, Deed.notices, notices_takeSignals])
      (by rintro _ ⟨⟩)
  | advance label index next =>
    exact (pass_departs ..).of_stage (by simp [Deed.notices, notices_takeSignals])
  | ask targets =>
    exact .of_none (by simp [carryOut, Progress.stage, Deed.notices, notices_takeAnswers])
      (by rintro _ ⟨⟩)
  | choose label index targets answer =>
    exact (pass_departs ..).of_stage (by simp [Deed.notices, notices_takeAnswers])

/-- **The notices of a step** are those of its deed, followed by those of its departure. -/
theorem notices_carryOut (deed : Deed) :
    (run.carryOut scenario stage deed).stage.notices = stage.notices ++
      (deed.notices scenario stage run ++
        (deed.departure? scenario stage).toList.flatMap (·.notices scenario)) := by
  rw [(carryOut_departs scenario run stage deed).notices, Stage.notices_note, List.append_assoc]

/-- **A run comes to its end** exactly when it departs for a label that does not exist, or for
none. -/
theorem outcome_eq_completed_iff (deed : Deed) (last : String) :
    (run.carryOut scenario stage deed).outcome? = some (.completed last) ↔
      ∃ next, deed.departure? scenario stage = some ⟨last, next⟩ ∧
        scenario.existing? next = none :=
  (carryOut_departs scenario run stage deed).outcome last

end

end Run

/-! ### The notices of a moment -/

namespace Moment

/-- What is noticed in the moment. -/
def notices (moment : Moment) : List Notice :=
  moment.after.stage.notices.drop moment.session.stage.notices.length

/-- The departure of the run in the moment. -/
def departure? (moment : Moment) : Option Departure :=
  moment.deed.bind (·.departure? moment.session.scenario moment.session.stage)

theorem notices_eq {moment : Moment} {notices : List Notice}
    (h : moment.after.stage.notices = moment.session.stage.notices ++ notices) :
    moment.notices = notices := by
  rw [Moment.notices, h, List.drop_left]

theorem deed_step {session : Session} {run : Run} (h : session.run = some run) :
    deed ⟨session, .step⟩ = some (run.deed session.scenario session.stage) := by
  simp only [deed, h]

/-- **The notices of a step** are those of its deed, followed by those of its departure. -/
theorem notices_step {session : Session} {run : Run} (h : session.run = some run) :
    notices ⟨session, .step⟩ =
      (run.deed session.scenario session.stage).notices session.scenario session.stage run ++
        (departure? ⟨session, .step⟩).toList.flatMap (·.notices session.scenario) := by
  refine notices_eq ?_
  rw [after, Session.turn_step session h, departure?, deed_step h]
  simp only [Run.step_eq_carryOut, Run.notices_carryOut, Option.bind_some]

/-- In a moment in which no run takes a step, nothing is noticed. -/
theorem notices_of_deed_none {moment : Moment} (h : moment.deed = none) : moment.notices = [] := by
  refine notices_eq ?_
  rw [List.append_nil]
  obtain ⟨session, turn⟩ := moment
  cases turn with
  | request request =>
    cases request with
    | release name => exact Stage.notices_onDepot ..
    | releaseAll => exact Stage.notices_onDepot ..
    | _ => rfl
  | step =>
    cases hrun : session.run with
    | none => rw [after, Session.turn_step_none session hrun]
    | some run => simp [deed, hrun] at h
  | drop =>
    obtain ⟨status, desk, hstage⟩ := stage_of_withdrawn session (.inl rfl)
    rw [hstage]
    rfl
  | leak =>
    obtain ⟨status, desk, hstage⟩ := stage_of_withdrawn session (.inr rfl)
    rw [hstage]
    rfl

/-- **A run comes to its end in a moment** exactly when it departs in it for a label that does not
exist, or for none. -/
theorem ending_eq_completed_iff (moment : Moment) (last : String) :
    moment.ending = some (.outcome (.completed last)) ↔
      ∃ next, moment.departure? = some ⟨last, next⟩ ∧
        moment.session.scenario.existing? next = none := by
  obtain ⟨session, turn⟩ := moment
  -- Only a step can complete a run, and only a step departs.
  have hother : ∀ turn, Moment.deed ⟨session, turn⟩ = none →
      (session.turn turn).2 ≠ some (.outcome (.completed last)) →
      (Moment.ending ⟨session, turn⟩ = some (.outcome (.completed last)) ↔
        ∃ next, Moment.departure? ⟨session, turn⟩ = some ⟨last, next⟩ ∧
          session.scenario.existing? next = none) := by
    intro turn hdeed hending
    refine iff_of_false hending ?_
    simp [Moment.departure?, hdeed]
  cases hrun : session.run with
  | none =>
    refine hother turn (deed_of_run_none session hrun turn) ?_
    rw [session.turn_ending_none hrun turn]
    nofun
  | some run =>
    cases turn with
    | request request => exact hother _ rfl nofun
    | drop => exact hother _ rfl (by simp [Session.turn, hrun])
    | leak => exact hother _ rfl (by simp [Session.turn, hrun])
    | step =>
      rw [ending, Session.turn_step session hrun, departure?, deed_step hrun]
      simp only [Run.step_eq_carryOut, Option.bind_some]
      rw [← Run.outcome_eq_completed_iff session.scenario run]
      simp

end Moment

end Storyboard
