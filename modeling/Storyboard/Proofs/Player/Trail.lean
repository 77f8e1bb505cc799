import Storyboard.Proofs.Asset.Reconciliation
import Storyboard.Proofs.Player.History

/-!
# The statuses that a run passes through

A step may change the status more than once: the last command of a label may be performed and the
next label be arrived at in one step, or the run may come to its end. `Run.trail` lists the statuses
that a step takes on, one after another. The status after a step is the last of them
(`Moment.status_after`), and the host sees the events of the step in the status before it or in one
of them (`Run.events_carryOut`).
-/

namespace Storyboard

/-! ### The trail of a deed -/

namespace Scenario

/-- The statuses that a run takes on when it leaves a label. -/
def leaveTrail (scenario : Scenario) (label : String) (next : Option String) : List Status :=
  match scenario.existing? next with
  | some target => [.enter .preloading target]
  | none => [.enter .ending label, .idle]

/-- The statuses that a run takes on when it approaches a command: none, unless there are no more
commands and it leaves the label. -/
def approachTrail (scenario : Scenario) (label : String) (index : Nat) (next : Option String) :
    List Status :=
  if index < (scenario.commands label).length then [] else scenario.leaveTrail label next

/-- The statuses that a run takes on when it goes on with a reconciliation. -/
def fetchTrail (scenario : Scenario) (label : String) (batch : Batch) : List Status :=
  if batch.isDone then .enter .running label :: scenario.approachTrail label 0 none else []

end Scenario

/-- The assets after a deed. -/
def Deed.depot (stage : Stage) : Deed → Depot
  | reconcile _ required =>
    (stage.depot.reconcile required).1.settled (stage.depot.reconcile required).2.1
  | resume _ batch => (stage.depot.resume batch).1.settled (stage.depot.resume batch).2
  | _ => stage.depot

/-- The status in which the events of a deed happen. -/
def Deed.sight (stage : Stage) (run : Run) : Deed → Status
  | start => .enter .starting run.entry
  | .begin _ index _ _ => stage.status.atCommand index
  | _ => stage.status

namespace Run

/-- The statuses that a run takes on, one after another, while it carries out a deed. -/
def trail (scenario : Scenario) (stage : Stage) (run : Run) : Deed → List Status
  | .refuse => []
  | .halt => [.idle]
  | .start => [.enter .starting run.entry]
  | .hold => []
  | .arrive label => [.enter .preloading label]
  | .reconcile label required => scenario.fetchTrail label (stage.depot.reconcile required).2.1
  | .resume label batch => scenario.fetchTrail label (stage.depot.resume batch).2
  | .begin label index next command =>
    let now := stage.status.atCommand index
    match scenario.flow command with
    | .proceed => now :: scenario.approachTrail label (index + 1) next
    | .goto target => now :: scenario.approachTrail label (index + 1) (some target)
    | .awaitLine => [now, now.suspend .line]
    | .awaitSelection _ => [now, now.suspend .selection]
  | .leave label next => scenario.leaveTrail label next
  | .listen => []
  | .advance label index next =>
    stage.status.suspend .none :: scenario.approachTrail label (index + 1) next
  | .ask _ => []
  | .choose label index targets answer =>
    stage.status.suspend .none :: scenario.approachTrail label (index + 1) targets[answer]?

end Run

/-! ### What a step leaves -/

namespace Progress

/-- The end of a run that comes to its end in the step, with the status in which it is seen. -/
def farewell : Progress → List (Event × Status)
  | ended _ (.completed label) => [(.finish, .enter .ending label)]
  | _ => []

/-- A run went on from a stage through the statuses of a trail, and the end of the run is all that
was seen. -/
structure Follows (stage : Stage) (trail : List Status) (progress : Progress) : Prop where
  /-- The status is the last of the trail. -/
  status : progress.stage.status = trail.getLast?.getD stage.status
  /-- Nothing was seen but the end of the run. -/
  events : progress.stage.events = stage.events ++ progress.farewell
  /-- The end was seen in a status of the trail. -/
  farewell : ∀ sight ∈ progress.farewell, sight.2 ∈ trail
  /-- The assets are the same. -/
  depot : progress.stage.depot = stage.depot

namespace Follows

variable {stage after : Stage} {progress : Progress} {trail : List Status}

/-- A step in which the run does not come to its end. -/
theorem of_farewell_nil (hfarewell : progress.farewell = [])
    (hstatus : progress.stage.status = trail.getLast?.getD stage.status)
    (hevents : progress.stage.events = stage.events)
    (hdepot : progress.stage.depot = stage.depot) : progress.Follows stage trail where
  status := hstatus
  events := by rw [hfarewell, List.append_nil, hevents]
  farewell := by simp [hfarewell]
  depot := hdepot

/-- A run that goes on from a stage with another status has taken on that status first. -/
theorem cons {status : Status} (h : progress.Follows after trail) (hstatus : after.status = status)
    (hevents : after.events = stage.events) (hdepot : after.depot = stage.depot) :
    progress.Follows stage (status :: trail) where
  status := by rw [h.status, hstatus, List.getLast?_cons, Option.getD_some]
  events := hevents ▸ h.events
  farewell sight hsight := List.mem_cons_of_mem _ (h.farewell sight hsight)
  depot := h.depot.trans hdepot

end Follows

end Progress

namespace Run

section

variable (scenario : Scenario) (run : Run) (stage : Stage) (label : String) (index : Nat)
  (next : Option String) (command : Command)

theorem leave_follows :
    (run.leave scenario stage label next).Follows stage (scenario.leaveTrail label next) := by
  unfold Scenario.leaveTrail
  obtain ⟨target, htarget, h⟩ | ⟨hnone, notices, h⟩ := leave_cases scenario run stage label next
  · rw [h, htarget]
    exact .of_farewell_nil rfl rfl (Stage.events_note _ _) rfl
  · rw [h, hnone]
    have hevents : (complete (stage.note notices) label).stage.events =
        stage.events ++ [(.finish, .enter .ending label)] := by
      change Stage.events ((((stage.note notices).withStatus _).emit _).note _) = _
      rw [Stage.events_note, Stage.events_emit, Stage.events_withStatus, Stage.events_note]
      rfl
    exact ⟨rfl, hevents, by simp [complete, Progress.farewell], rfl⟩

theorem approach_follows :
    (run.approach scenario stage label index next).Follows stage
      (scenario.approachTrail label index next) := by
  unfold Scenario.approachTrail
  obtain ⟨hlt, h⟩ | ⟨hle, h⟩ := approach_cases scenario run stage label index next
  · rw [h, if_pos hlt]
    exact .of_farewell_nil rfl rfl rfl rfl
  · rw [h, if_neg (Nat.not_lt.2 hle)]
    exact leave_follows ..

/-- A run that passes to the next command ends the wait of the command before. -/
theorem pass_follows :
    (run.pass scenario stage label index next).Follows stage
      (stage.status.suspend .none :: scenario.approachTrail label (index + 1) next) := by
  have happroach := approach_follows scenario run
    (stage.withStatus (stage.status.suspend .none)).closeInbox label (index + 1) next
  exact happroach.cons rfl rfl rfl

/-- The run has to wait for the reconciliation, or what was loaded is taken in and it begins with
the commands of the label. -/
theorem fetch_follows (batch : Batch) {pending : Stage → Run → Progress}
    (hpending : pending = .moved ∨ pending = .waiting) :
    (run.fetch scenario stage label batch pending).Follows
      { stage with depot := stage.depot.settled batch } (scenario.fetchTrail label batch) := by
  unfold fetch Depot.settled Scenario.fetchTrail
  cases batch.isDone with
  | true =>
    have happroach := approach_follows scenario run
      ((({ stage with depot := stage.depot.settle batch }.note batch.notices).withStatus
        (.enter .running label)).note [.running label]) label 0 none
    refine happroach.cons rfl ?_ rfl
    exact (Stage.events_note _ _).trans (Stage.events_note _ batch.notices)
  | false => obtain rfl | rfl := hpending <;> exact .of_farewell_nil rfl rfl rfl rfl

/-- A run that begins a command takes on the status of the command, and goes on from there. -/
theorem begin_follows :
    (run.begin scenario stage label index next command).Follows
      ((performed scenario stage index command).withStatus stage.status)
      (run.trail scenario stage (.begin label index next command)) := by
  have hstatus : (performed scenario stage index command).status = stage.status.atCommand index :=
    (performed_emits scenario stage index command).status
  -- The command is over at once, or it is left waiting.
  have hpass : ∀ next, (run.pass scenario (performed scenario stage index command) label index
      next).Follows ((performed scenario stage index command).withStatus stage.status)
      (stage.status.atCommand index :: scenario.approachTrail label (index + 1) next) := by
    intro next
    have happroach := approach_follows scenario run
      ((performed scenario stage index command).withStatus
        ((performed scenario stage index command).status.suspend .none)).closeInbox label
      (index + 1) next
    exact happroach.cons (congrArg (·.suspend .none) hstatus) rfl rfl
  have hwait : ∀ suspension point, (Progress.moved ((performed scenario stage index
      command).withStatus ((performed scenario stage index command).status.suspend suspension))
      { run with point }).Follows ((performed scenario stage index command).withStatus stage.status)
      [stage.status.atCommand index, (stage.status.atCommand index).suspend suspension] := by
    intro suspension point
    exact .of_farewell_nil rfl (congrArg (·.suspend suspension) hstatus) rfl rfl
  rw [begin_eq, trail]
  cases scenario.flow command with
  | proceed => exact hpass next
  | goto target => exact hpass (some target)
  | awaitLine => exact hwait .line _
  | awaitSelection targets => exact hwait .selection _

theorem takeSignals_status : (takeSignals stage).status = stage.status := by
  unfold takeSignals
  split <;> rfl

theorem takeSignals_depot : (takeSignals stage).depot = stage.depot := by
  unfold takeSignals
  split <;> rfl

theorem takeSignals_events : (takeSignals stage).events = stage.events := by
  unfold takeSignals
  split
  · rfl
  · exact Stage.events_note _ _

theorem takeAnswers_events (targets : List String) :
    (takeAnswers stage targets).events = stage.events :=
  (Stage.events_note _ _).trans (takeSignals_events stage)

/-- **What a step leaves**: the events of its deed happen in the status that belongs to the deed,
and the run goes on from there through the statuses of the trail. -/
theorem exists_follows_carryOut (deed : Deed) :
    ∃ acted : Stage, acted.status = stage.status ∧
      acted.events =
        stage.events ++ (deed.events scenario stage).map (·, deed.sight stage run) ∧
      acted.depot = deed.depot stage ∧
      (run.carryOut scenario stage deed).Follows acted (run.trail scenario stage deed) := by
  have hquiet : stage.events = stage.events ++ [] := (List.append_nil _).symm
  cases deed with
  | refuse => exact ⟨stage, rfl, hquiet, rfl, .of_farewell_nil rfl rfl (Stage.events_note _ _) rfl⟩
  | halt => exact ⟨stage, rfl, hquiet, rfl, .of_farewell_nil rfl rfl (Stage.events_note _ _) rfl⟩
  | start =>
    -- The start is seen in the status that the run takes on for it.
    have hemits := ((Stage.Emits.refl (stage.withStatus (.enter .starting run.entry))).note
      [.starting run.entry]).emit .start
    exact ⟨(run.carryOut scenario stage .start).stage.withStatus stage.status, rfl, hemits.sights,
      rfl, .of_farewell_nil rfl rfl rfl rfl⟩
  | hold => exact ⟨stage, rfl, hquiet, rfl, .of_farewell_nil rfl rfl rfl rfl⟩
  | arrive label =>
    exact ⟨stage, rfl, hquiet, rfl, .of_farewell_nil rfl rfl (Stage.events_note _ _) rfl⟩
  | reconcile label required =>
    have hemits :=
      (Stage.Emits.refl { stage with depot := (stage.depot.reconcile required).1 }).emitAll
        ((stage.depot.reconcile required).2.2.map .asset)
    -- The loads are seen before the label is entered, in the status of preloading.
    have hfollows := fetch_follows scenario run
      (stage.onDepot ((stage.depot.reconcile required).1, (stage.depot.reconcile required).2.2))
      label (stage.depot.reconcile required).2.1 (.inl rfl)
    refine ⟨_, ?_, ?_, ?_, hfollows⟩
    · exact hemits.status
    · exact hemits.sights
    · exact congrArg (·.settled (stage.depot.reconcile required).2.1) hemits.depot
  | resume label batch =>
    have hfollows := fetch_follows scenario run { stage with depot := (stage.depot.resume batch).1 }
      label (stage.depot.resume batch).2 (.inr rfl)
    refine ⟨_, ?_, ?_, ?_, hfollows⟩
    · rfl
    · exact hquiet
    · rfl
  | begin label index next command =>
    have hemits := performed_emits scenario stage index command
    refine ⟨_, ?_, ?_, ?_, begin_follows ..⟩
    · rfl
    · exact hemits.sights
    · exact hemits.depot
  | leave label next => exact ⟨stage, rfl, hquiet, rfl, leave_follows ..⟩
  | listen =>
    exact ⟨stage, rfl, hquiet, rfl, .of_farewell_nil rfl (takeSignals_status stage)
      (takeSignals_events stage) (takeSignals_depot stage)⟩
  | advance label index next =>
    -- Taking signals shows nothing; what is seen comes from passing the command.
    have hpass := pass_follows scenario run (takeSignals stage) label index next
    rw [takeSignals_status] at hpass
    exact ⟨takeSignals stage, takeSignals_status stage, (takeSignals_events stage).trans hquiet,
      takeSignals_depot stage, hpass⟩
  | ask targets =>
    exact ⟨stage, rfl, hquiet, rfl, .of_farewell_nil rfl (takeSignals_status stage)
      (takeAnswers_events stage targets) (takeSignals_depot stage)⟩
  | choose label index targets answer =>
    have hpass := pass_follows scenario run (takeAnswers stage targets) label index targets[answer]?
    have hstatus : (takeAnswers stage targets).status = stage.status := takeSignals_status stage
    rw [hstatus] at hpass
    exact ⟨takeAnswers stage targets, hstatus, (takeAnswers_events stage targets).trans hquiet,
      takeSignals_depot stage, hpass⟩

theorem status_carryOut (deed : Deed) :
    (run.carryOut scenario stage deed).stage.status =
      (run.trail scenario stage deed).getLast?.getD stage.status := by
  obtain ⟨acted, hstatus, -, -, hfollows⟩ := exists_follows_carryOut scenario run stage deed
  rw [hfollows.status, hstatus]

theorem depot_carryOut (deed : Deed) :
    (run.carryOut scenario stage deed).stage.depot = deed.depot stage := by
  obtain ⟨acted, -, -, hdepot, hfollows⟩ := exists_follows_carryOut scenario run stage deed
  rw [hfollows.depot, hdepot]

/-- **What is seen in a step**: the events of its deed, in the status that belongs to the deed, and
then the end of the run if it comes to its end. -/
theorem events_carryOut (deed : Deed) :
    (run.carryOut scenario stage deed).stage.events = stage.events ++
      ((deed.events scenario stage).map (·, deed.sight stage run) ++
        (run.carryOut scenario stage deed).farewell) := by
  obtain ⟨acted, -, hevents, -, hfollows⟩ := exists_follows_carryOut scenario run stage deed
  rw [hfollows.events, hevents, List.append_assoc]

theorem farewell_carryOut (deed : Deed) :
    ∀ sight ∈ (run.carryOut scenario stage deed).farewell,
      sight.2 ∈ run.trail scenario stage deed := by
  obtain ⟨acted, -, -, -, hfollows⟩ := exists_follows_carryOut scenario run stage deed
  exact hfollows.farewell

end

end Run

/-! ### The trail of a moment -/

namespace Moment

/-- The statuses that are taken on in the moment, one after another. -/
def trail (moment : Moment) : List Status :=
  match moment.turn, moment.session.run with
  | .step, some run =>
    run.trail moment.session.scenario moment.session.stage
      (run.deed moment.session.scenario moment.session.stage)
  | .drop, some run =>
    match run.point with
    | .created => []
    | _ => [.idle]
  | _, _ => []

/-- What is seen in the moment: its events, each with the status in which it happens. -/
def sights (moment : Moment) : List (Event × Status) :=
  moment.after.stage.events.drop moment.session.stage.events.length

theorem sights_eq {moment : Moment} {sights : List (Event × Status)}
    (h : moment.after.stage.events = moment.session.stage.events ++ sights) :
    moment.sights = sights := by
  rw [Moment.sights, h, List.drop_left]

theorem trail_step {session : Session} {run : Run} (h : session.run = some run) :
    trail ⟨session, .step⟩ =
      run.trail session.scenario session.stage (run.deed session.scenario session.stage) := by
  simp only [trail, h]

theorem trail_of_run_none {session : Session} (h : session.run = none) (turn : Turn) :
    trail ⟨session, turn⟩ = [] := by
  cases turn <;> simp only [trail, h]

/-- A request changes neither the status nor what was seen before, and what is seen in it is seen in
that status. -/
theorem exists_sights_request (session : Session) (request : Request) :
    (session.request request).1.stage.status = session.stage.status ∧
    ∃ sights, (session.request request).1.stage.events = session.stage.events ++ sights ∧
      ∀ sight ∈ sights, sight.2 = session.stage.status := by
  -- Only releases are seen, and they happen in the status that the session has.
  have hdepot : ∀ result : Depot × List AssetEvent,
      (session.stage.onDepot result).status = session.stage.status ∧
      ∃ sights, (session.stage.onDepot result).events = session.stage.events ++ sights ∧
        ∀ sight ∈ sights, sight.2 = session.stage.status := by
    intro result
    have h := (Stage.Emits.refl { session.stage with depot := result.1 }).emitAll
      (result.2.map .asset)
    refine ⟨h.status, _, h.sights, fun sight hsight => ?_⟩
    obtain ⟨event, -, rfl⟩ := List.mem_map.1 hsight
    rfl
  cases request with
  | release name =>
    rw [Session.request_release]
    exact hdepot (session.stage.depot.releaseEach [name])
  | releaseAll => exact hdepot session.stage.depot.releaseAll
  | _ => exact ⟨rfl, [], (List.append_nil _).symm, by simp⟩

/-- **The status after a moment** is the last one of its trail. -/
theorem status_after (moment : Moment) :
    moment.after.stage.status = moment.trail.getLast?.getD moment.session.stage.status := by
  obtain ⟨session, turn⟩ := moment
  cases hrun : session.run with
  | none =>
    rw [trail_of_run_none hrun]
    cases turn with
    | request request => exact (exists_sights_request session request).1
    | step => rw [after, Session.turn_step_none session hrun]; rfl
    | drop => simp [after, Session.turn, hrun]
    | leak => simp [after, Session.turn, hrun]
  | some run =>
    cases turn with
    | request request => exact (exists_sights_request session request).1
    | step =>
      rw [after, Session.turn_step session hrun, trail_step hrun]
      simp only [Run.step_eq_carryOut]
      exact Run.status_carryOut ..
    | drop =>
      -- A run that had begun leaves the idle status behind when it is dropped.
      obtain ⟨entry, point⟩ := run
      simp only [after, Session.turn, trail, hrun, Session.drop, Run.abandon]
      cases point <;> rfl
    | leak => simp [after, Session.turn, trail, hrun, Session.leak, Stage.closeInbox]

/-- In the host's turns, what is seen is seen in the status of the session. -/
theorem sight_of_not_step {moment : Moment} (h : moment.turn ≠ .step) :
    ∀ sight ∈ moment.sights, sight.2 = moment.session.stage.status := by
  obtain ⟨session, turn⟩ := moment
  -- Dropping and leaking show nothing.
  have hnone : ∀ moment : Moment, moment.after.stage.events = moment.session.stage.events →
      ∀ sight ∈ moment.sights, sight.2 = moment.session.stage.status := by
    intro moment hevents sight hsight
    rw [sights_eq (hevents.trans (List.append_nil _).symm)] at hsight
    cases hsight
  cases turn with
  | request request =>
    obtain ⟨-, sights, hevents, hstatus⟩ := exists_sights_request session request
    have hsights : Moment.sights ⟨session, .request request⟩ = sights := sights_eq hevents
    rw [hsights]
    exact hstatus
  | step => exact absurd rfl h
  | drop =>
    obtain ⟨status, desk, hstage⟩ := stage_of_withdrawn session (.inl rfl)
    have hevents := congrArg Stage.events hstage
    exact hnone _ hevents
  | leak =>
    obtain ⟨status, desk, hstage⟩ := stage_of_withdrawn session (.inr rfl)
    have hevents := congrArg Stage.events hstage
    exact hnone _ hevents

/-- In a step, what is seen is what its run lets be seen. -/
theorem sights_step {session : Session} {run : Run} (h : session.run = some run) :
    sights ⟨session, .step⟩ =
      ((run.deed session.scenario session.stage).events session.scenario session.stage).map
          (·, (run.deed session.scenario session.stage).sight session.stage run) ++
        (run.carryOut session.scenario session.stage
          (run.deed session.scenario session.stage)).farewell := by
  refine sights_eq ?_
  rw [after, Session.turn_step session h]
  simp only [Run.step_eq_carryOut, Run.events_carryOut]

theorem sights_step_none {session : Session} (h : session.run = none) :
    sights ⟨session, .step⟩ = [] := by
  refine sights_eq ?_
  rw [after, Session.turn_step_none session h, List.append_nil]

end Moment

end Storyboard
