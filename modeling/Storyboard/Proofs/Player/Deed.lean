import Storyboard.Proofs.Stage
import Storyboard.Player.Run

/-!
# What a step of a run does

A step of a run first decides what to do, from the stage and from the point where the run is, and
then does it. `Run.deed` is the decision and `Run.carryOut` the execution, and a step is one after
the other (`Run.step_eq_carryOut`). So "a command begins" or "a reconciliation begins" is a matter
of the deed.

A command shows `Scenario.shows` and goes on as `Scenario.flow` says, whatever the stage is
(`Scenario.perform_emits`, `Scenario.perform_flow`). Behind a command, a label or a reconciliation a
run proceeds to a point between two commands or comes to its end, and touches nothing on the way
(`Progress.Proceeds`). So all events of a step are those of its deed, followed by the end of the run
if it comes to its end (`Run.log_carryOut`).
-/

namespace Storyboard

/-! ### Performing a command -/

namespace Scenario

/-- What a command shows when these assets are resident. -/
def shows (scenario : Scenario) (resident : String → Option Handle) : Command → List Event
  | .text words _ => [.text none (scenario.render words).text]
  | .character id hides layer words _ =>
    match scenario.character? id with
    | none => []
    | some character =>
      let appearance :=
        if hides then [Event.hide layer]
        else (resident character.sprite).toList.map (.appear layer character.id)
      let line := words.toList.map fun words =>
        Event.text (some ⟨character.name, character.color⟩) (scenario.render words).text
      appearance ++ line
  | .jump _ _ => []
  | .choice options _ =>
    [.choices (options.mapIdx fun i option => ⟨i, (scenario.render option.text).text⟩)]

/-- How a run goes on after a command. -/
def flow (scenario : Scenario) : Command → Flow
  | .text _ _ => .awaitLine
  | .character id _ _ words _ =>
    if (scenario.character? id).isSome && words.isSome then .awaitLine else .proceed
  | .jump target _ => .goto target
  | .choice options _ => .awaitSelection (options.map (·.target))

/-- The label to continue with, if there is a label of that name. -/
def existing? (scenario : Scenario) (next : Option String) : Option String :=
  next.filter fun target => (scenario.label? target).isSome

theorem items_eq_mapIdx (scenario : Scenario) (n : Nat) (options : List ChoiceOption) :
    scenario.items n options =
      options.mapIdx fun i option => ⟨n + i, (scenario.render option.text).text⟩ := by
  induction options generalizing n with
  | nil => rfl
  | cons option rest ih =>
    rw [items, ih, List.mapIdx_cons]
    simp only [Nat.add_zero, Nat.add_assoc, Nat.add_comm 1]

theorem say_emits (scenario : Scenario) (speaker : Option Speaker) (text : String)
    {stage after : Stage} {events : List Event} (h : stage.Emits events after) :
    stage.Emits (events ++ [.text speaker (scenario.render text).text])
      (scenario.say speaker text after) :=
  (h.note _).emit _

theorem present_emits (character : Character) (layer : String) (place : Location) (stage : Stage) :
    stage.Emits ((stage.depot.handle? character.sprite).toList.map (.appear layer character.id))
      (present character layer place stage) := by
  unfold present
  cases stage.depot.handle? character.sprite with
  | none => exact (Stage.Emits.refl stage).note _
  | some sprite => exact (Stage.Emits.refl stage).emit _

/-- **Performing a command shows what the command shows**, given what is resident, and does nothing
else to the stage. -/
theorem perform_emits (scenario : Scenario) (stage : Stage) (command : Command) :
    stage.Emits (scenario.shows stage.depot.handle? command)
      (scenario.perform stage command).1 := by
  cases command with
  | text words place => exact scenario.say_emits none words (Stage.Emits.refl stage)
  | jump target place => exact Stage.Emits.refl stage
  | choice options place =>
    have h := ((Stage.Emits.refl stage).note
      (options.flatMap fun option => (scenario.render option.text).notices)).emit
      (.choices (scenario.items 0 options))
    simpa only [perform, shows, items_eq_mapIdx, Nat.zero_add, List.nil_append] using h
  | character id hides layer words place =>
    cases hc : scenario.character? id with
    | none =>
      simp only [perform, shows, hc]
      exact (Stage.Emits.refl stage).note _
    | some character =>
      simp only [perform, shows, hc]
      -- A character first appears or goes, and speaks after that.
      have happear : stage.Emits
          (if hides then [Event.hide layer]
            else (stage.depot.handle? character.sprite).toList.map (.appear layer character.id))
          (if hides then stage.emit (.hide layer) else present character layer place stage) := by
        cases hides with
        | true => exact (Stage.Emits.refl stage).emit _
        | false => exact present_emits character layer place stage
      cases words with
      | none => simpa using happear
      | some words => exact scenario.say_emits _ words happear

theorem perform_flow (scenario : Scenario) (stage : Stage) (command : Command) :
    (scenario.perform stage command).2 = scenario.flow command := by
  cases command with
  | text words place => rfl
  | jump target place => rfl
  | choice options place => rfl
  | character id hides layer words place =>
    cases hc : scenario.character? id <;> cases words <;> simp [perform, flow, hc]

end Scenario

/-! ### Progress -/

namespace Progress

/-- The stage that a step leaves. -/
def stage : Progress → Stage
  | waiting stage _ => stage
  | moved stage _ => stage
  | ended stage _ => stage

/-- The run that a step leaves, unless it ended. -/
def run? : Progress → Option Run
  | waiting _ run => some run
  | moved _ run => some run
  | ended _ _ => none

/-- How the run ended in the step, if it did. -/
def outcome? : Progress → Option Outcome
  | waiting _ _ => none
  | moved _ _ => none
  | ended _ outcome => some outcome

/-- The last event of a run that comes to its end in the step. -/
def finale : Progress → List Event
  | ended _ (.completed _) => [.finish]
  | _ => []

theorem finale_of_run {progress : Progress} {run : Run} (h : progress.run? = some run) :
    progress.finale = [] := by
  cases progress with
  | ended stage outcome => cases h
  | _ => rfl

end Progress

namespace Stage

@[simp] theorem log_tidy (stage : Stage) : stage.tidy.log = stage.log := rfl

end Stage

/-! ### Deeds -/

/-- The waits of a run. -/
inductive Wait where
  /-- The check before a run begins. -/
  | beginning
  /-- The wait for the loading switch. -/
  | loading
  /-- The wait for the assets of a label. -/
  | prefetch
  /-- The wait for the pause switch. -/
  | pause
  /-- The wait for a line to be read. -/
  | line
  /-- The wait for an option to be chosen. -/
  | selection
  deriving DecidableEq

/-- What a step of a run does. -/
inductive Deed where
  /-- It is refused, because its label has nothing to play. -/
  | refuse
  /-- It finds the stop switch on and ends. -/
  | halt
  /-- It begins. -/
  | start
  /-- It waits for a switch. -/
  | hold
  /-- It comes to its first label. -/
  | arrive (label : String)
  /-- It begins the reconciliation of a label. -/
  | reconcile (label : String) (required : List String)
  /-- It goes on with the reconciliation of a label. -/
  | resume (label : String) (batch : Batch)
  /-- It begins a command. -/
  | begin (label : String) (index : Nat) (next : Option String) (command : Command)
  /-- It leaves a label in which no command is left. -/
  | leave (label : String) (next : Option String)
  /-- It looks for the acknowledgement of a line in vain. -/
  | listen
  /-- It finds the line of a command acknowledged. -/
  | advance (label : String) (index : Nat) (next : Option String)
  /-- It looks for an answer in vain. -/
  | ask (targets : List String)
  /-- It finds the choice of a command answered. -/
  | choose (label : String) (index : Nat) (targets : List String) (answer : Nat)

namespace Deed

/-- The events of a deed. -/
def events (scenario : Scenario) (stage : Stage) : Deed → List Event
  | start => [.start]
  | reconcile _ required => (stage.depot.reconcile required).2.2.map .asset
  | .begin _ _ _ command => scenario.shows stage.depot.handle? command
  | _ => []

/-- The command that begins. -/
def command? : Deed → Option Command
  | .begin _ _ _ command => some command
  | _ => none

/-- The answer that is accepted. -/
def answer? : Deed → Option Nat
  | choose _ _ _ answer => some answer
  | _ => none

end Deed

namespace Run

/-- The wait that a step of the run begins with. A run that is refused has none. -/
def wait? (scenario : Scenario) (run : Run) : Option Wait :=
  match run.point with
  | .created => if (scenario.commands run.entry).isEmpty then none else some .beginning
  | .opening => some .loading
  | .arriving _ _ => some .prefetch
  | .fetching _ _ => some .prefetch
  | .ready _ _ _ => some .pause
  | .reading _ _ _ => some .line
  | .choosing _ _ _ => some .selection

/-- The place of the command that a run is in the middle of, and what is waited for. -/
def awaits? (run : Run) : Option (String × Nat × Flow) :=
  match run.point with
  | .reading label index _ => some (label, index, .awaitLine)
  | .choosing label index targets => some (label, index, .awaitSelection targets)
  | _ => none

/-- An option that is chosen is one of the options. -/
theorem firstChoice_lt {count answer : Nat} {signals : List Signal}
    (h : (firstChoice count signals).1 = some answer) : answer < count := by
  induction signals with
  | nil => simp [firstChoice] at h
  | cons signal rest ih =>
    cases signal with
    | advance => exact ih h
    | choose i =>
      by_cases hi : i < count
      · simp only [firstChoice, hi, if_true, Option.some.injEq] at h
        exact h ▸ hi
      · simp only [firstChoice, hi, if_false] at h
        exact ih h

/-- What the next step of a run does, unless the stop switch is on. -/
def intent (scenario : Scenario) (stage : Stage) (run : Run) : Deed :=
  match run.point with
  | .created => if (scenario.commands run.entry).isEmpty then .refuse else .start
  | .opening => if stage.desk.loading then .hold else .arrive run.entry
  | .arriving label required => .reconcile label required
  | .fetching label batch => .resume label batch
  | .ready label index next =>
    if stage.desk.paused then .hold
    else
      match (scenario.commands label)[index]? with
      | some command => .begin label index next command
      | none => .leave label next
  | .reading label index next =>
    if .advance ∈ stage.desk.kept then .advance label index next else .listen
  | .choosing label index targets =>
    match (firstChoice targets.length stage.desk.kept).1 with
    | some answer => .choose label index targets answer
    | none => .ask targets

/-- What the next step of a run does. -/
def deed (scenario : Scenario) (stage : Stage) (run : Run) : Deed :=
  if stage.desk.stopped && (run.wait? scenario).isSome then .halt else run.intent scenario stage

/-- The stage after a run has looked for an answer: answers that are no options are noticed. -/
def takeAnswers (stage : Stage) (targets : List String) : Stage :=
  (takeSignals stage).note
    ((firstChoice targets.length stage.desk.kept).2.map fun index =>
      .optionOutOfRange index targets.length)

/-- What comes of a deed. -/
def carryOut (scenario : Scenario) (stage : Stage) (run : Run) : Deed → Progress
  | .refuse => .ended (stage.note [.notStarted run.entry]) .rejected
  | .halt => run.interrupt stage
  | .start =>
    .moved
      (((stage.withStatus (.enter .starting run.entry)).note [.starting run.entry]).emit .start)
      { run with point := .opening }
  | .hold => .waiting stage run
  | .arrive label => run.arrive scenario stage label
  | .reconcile label required =>
    let result := stage.depot.reconcile required
    run.fetch scenario (stage.onDepot (result.1, result.2.2)) label result.2.1 .moved
  | .resume label batch =>
    let result := stage.depot.resume batch
    run.fetch scenario { stage with depot := result.1 } label result.2 .waiting
  | .begin label index next command => run.begin scenario stage label index next command
  | .leave label next => run.leave scenario stage label next
  | .listen => .waiting (takeSignals stage) run
  | .advance label index next => run.pass scenario (takeSignals stage) label index next
  | .ask targets => .waiting (takeAnswers stage targets) run
  | .choose label index targets answer =>
    run.pass scenario (takeAnswers stage targets) label index targets[answer]?

/-- **A step carries out its deed.** -/
theorem step_eq_carryOut (scenario : Scenario) (stage : Stage) (run : Run) :
    run.step scenario stage = run.carryOut scenario stage (run.deed scenario stage) := by
  obtain ⟨entry, point⟩ := run
  cases hstop : stage.desk.stopped with
  | true =>
    cases point with
    | created =>
      -- The one point at which a run may end without coming to a wait.
      by_cases he : (scenario.commands entry).isEmpty <;>
        simp [step, deed, intent, wait?, unlessStopped, carryOut, hstop, he]
    | _ => simp [step, deed, wait?, unlessStopped, carryOut, hstop]
  | false =>
    -- With the switch off the deed is the intent, and both branch on the same conditions.
    simp only [deed, hstop, Bool.false_and, Bool.false_eq_true, if_false]
    cases point with
    | created =>
      by_cases he : (scenario.commands entry).isEmpty <;>
        simp [step, intent, unlessStopped, carryOut, hstop, he]
    | opening =>
      by_cases hl : stage.desk.loading <;> simp [step, intent, unlessStopped, carryOut, hstop, hl]
    | arriving label required => simp [step, intent, unlessStopped, carryOut, hstop]
    | fetching label batch => simp [step, intent, unlessStopped, carryOut, hstop]
    | ready label index next =>
      cases hp : stage.desk.paused <;> cases hc : (scenario.commands label)[index]? <;>
        simp [step, intent, unlessStopped, carryOut, hstop, hp, hc]
    | reading label index next =>
      by_cases ha : .advance ∈ stage.desk.kept <;>
        simp [step, intent, unlessStopped, carryOut, hstop, ha]
    | choosing label index targets =>
      cases hc : (firstChoice targets.length stage.desk.kept).1 <;>
        simp [step, intent, unlessStopped, carryOut, takeAnswers, hstop, hc]

/-- A step does what the run intends, or finds the stop switch on. -/
theorem deed_cases (scenario : Scenario) (stage : Stage) (run : Run) :
    (stage.desk.stopped = true ∧ run.deed scenario stage = .halt) ∨
    (run.wait? scenario = none ∨ stage.desk.stopped = false) ∧
      run.deed scenario stage = run.intent scenario stage := by
  by_cases h : (stage.desk.stopped && (run.wait? scenario).isSome) = true
  · exact .inl ⟨(Bool.and_eq_true_iff.1 h).1, by rw [deed, if_pos h]⟩
  · refine .inr ⟨?_, by rw [deed, if_neg h]⟩
    cases hs : stage.desk.stopped <;> cases hw : run.wait? scenario <;> simp_all

/-- A command begins before it, with the pause switch off. -/
theorem ready_of_begin {scenario : Scenario} {stage : Stage} {run : Run} {label : String}
    {index : Nat} {next : Option String} {command : Command}
    (h : run.deed scenario stage = .begin label index next command) :
    run.point = .ready label index next ∧ stage.desk.paused = false ∧
      (scenario.commands label)[index]? = some command := by
  obtain ⟨-, hdeed⟩ | ⟨-, hdeed⟩ := deed_cases scenario stage run
  · rw [hdeed] at h
    cases h
  rw [hdeed] at h
  obtain ⟨entry, point⟩ := run
  unfold intent at h
  cases point with
  | ready place position follow =>
    dsimp only at h
    split at h
    · cases h
    · next hpaused =>
      split at h
      · next hcommand =>
        cases h
        exact ⟨rfl, Bool.not_eq_true _ ▸ hpaused, hcommand⟩
      · cases h
  | _ =>
    -- At no other point does a command begin.
    dsimp only at h
    repeat' split at h
    all_goals cases h

/-! ### Going on to the next point -/

section

variable (scenario : Scenario) (run : Run) (stage : Stage) (label : String) (index : Nat)
  (next : Option String) (command : Command)

/-- A run that leaves a label arrives at the next one if that exists, and else comes to its end. -/
theorem leave_cases :
    (∃ target, scenario.existing? next = some target ∧
      run.leave scenario stage label next = run.arrive scenario stage target) ∨
    (scenario.existing? next = none ∧ ∃ notices,
      run.leave scenario stage label next = complete (stage.note notices) label) := by
  cases next with
  | none => exact .inr ⟨rfl, [], by simp [leave, Stage.note]⟩
  | some target =>
    cases h : scenario.label? target with
    | some found => exact .inl ⟨target, by simp [Scenario.existing?, h], by simp [leave, h]⟩
    | none =>
      exact .inr ⟨by simp [Scenario.existing?, h], [.targetMissing target], by simp [leave, h]⟩

/-- A run that approaches a command gets ready for it, or leaves the label if there is none. -/
theorem approach_cases :
    (index < (scenario.commands label).length ∧
      run.approach scenario stage label index next =
        .moved stage { run with point := .ready label index next }) ∨
    ((scenario.commands label).length ≤ index ∧
      run.approach scenario stage label index next = run.leave scenario stage label next) := by
  by_cases h : index < (scenario.commands label).length
  · exact .inl ⟨h, by simp [approach, h]⟩
  · exact .inr ⟨Nat.le_of_not_lt h, by simp [approach, h]⟩

/-- The stage after a command was performed. -/
def performed : Stage :=
  (scenario.perform (stage.withStatus (stage.status.atCommand index)).openInbox command).1

theorem performed_emits :
    (stage.withStatus (stage.status.atCommand index)).openInbox.Emits
      (scenario.shows stage.depot.handle? command) (performed scenario stage index command) :=
  scenario.perform_emits _ command

/-- How a run goes on after a command depends on the command alone. -/
theorem begin_eq :
    run.begin scenario stage label index next command =
      let after := performed scenario stage index command
      match scenario.flow command with
      | .proceed => run.pass scenario after label index next
      | .goto target => run.pass scenario after label index (some target)
      | .awaitLine =>
        .moved (after.withStatus (after.status.suspend .line))
          { run with point := .reading label index next }
      | .awaitSelection targets =>
        .moved (after.withStatus (after.status.suspend .selection))
          { run with point := .choosing label index targets } := by
  rw [← scenario.perform_flow (stage.withStatus (stage.status.atCommand index)).openInbox command]
  rfl

end

end Run

namespace Progress

/-- The run goes on from a stage to a point between two commands, or it comes to its end. -/
structure Proceeds (stage : Stage) (progress : Progress) : Prop where
  /-- No event happens but the end of the run. -/
  log : progress.stage.log = stage.log ++ progress.finale
  /-- The desk is left alone by a run that goes on. -/
  desk : ∀ run, progress.run? = some run → progress.stage.desk = stage.desk
  /-- A run that goes on is not in the middle of a command. -/
  between : ∀ run, progress.run? = some run → run.awaits? = none
  /-- A run that ends comes to its end. -/
  outcome : progress.outcome? = none ∨ ∃ last, progress.outcome? = some (.completed last)

namespace Proceeds

variable {stage after : Stage} {run : Run} {progress : Progress}

/-- A run that goes on, with nothing happening on the stage. -/
theorem of_run (hrun : progress.run? = some run) (hlog : progress.stage.log = stage.log)
    (hdesk : progress.stage.desk = stage.desk) (hbetween : run.awaits? = none) :
    progress.Proceeds stage where
  log := by rw [hlog, finale_of_run hrun, List.append_nil]
  desk := fun _ _ => hdesk
  between := by
    intro other hother
    cases hother.symm.trans hrun
    exact hbetween
  outcome := by
    cases progress with
    | ended stage outcome => cases hrun
    | _ => exact .inl rfl

/-- Only the log and the desk of the stage matter. -/
theorem of_stage (h : progress.Proceeds after) (hlog : after.log = stage.log)
    (hdesk : after.desk = stage.desk) : progress.Proceeds stage where
  log := hlog ▸ h.log
  desk := hdesk ▸ h.desk
  between := h.between
  outcome := h.outcome

end Proceeds

end Progress

namespace Run

section

variable (scenario : Scenario) (run : Run) (stage : Stage) (label : String) (index : Nat)
  (next : Option String) (command : Command)

theorem leave_proceeds : (run.leave scenario stage label next).Proceeds stage := by
  obtain ⟨target, -, h⟩ | ⟨-, notices, h⟩ := leave_cases scenario run stage label next
  · rw [h]
    exact .of_run rfl (Stage.log_note _ _) rfl rfl
  · rw [h]
    refine ⟨?_, ?_, ?_, .inr ⟨label, rfl⟩⟩
    · simp [complete, Progress.stage, Progress.finale]
    · intro other hother
      cases hother
    · intro other hother
      cases hother

theorem approach_proceeds : (run.approach scenario stage label index next).Proceeds stage := by
  obtain ⟨-, h⟩ | ⟨-, h⟩ := approach_cases scenario run stage label index next
  · rw [h]
    exact .of_run rfl rfl rfl rfl
  · rw [h]
    exact leave_proceeds ..

/-- A run that passes to the next command takes the inbox away. -/
theorem pass_proceeds :
    (run.pass scenario stage label index next).Proceeds stage.closeInbox :=
  (approach_proceeds ..).of_stage rfl rfl

/-- The run has to wait for the reconciliation, or it begins with the commands of the label. -/
theorem fetch_proceeds (batch : Batch) {pending : Stage → Run → Progress}
    (hpending : pending = .moved ∨ pending = .waiting) :
    (run.fetch scenario stage label batch pending).Proceeds stage := by
  unfold fetch
  split
  · exact (approach_proceeds ..).of_stage
      ((Stage.log_note _ _).trans (Stage.log_note _ batch.notices)) rfl
  · obtain rfl | rfl := hpending <;> exact .of_run rfl rfl rfl rfl

/-- A run that begins a command is past it at once, or in the middle of it. -/
theorem begin_cases :
    (run.begin scenario stage label index next command).Proceeds
      (performed scenario stage index command).closeInbox ∨
    ∃ after point, run.begin scenario stage label index next command =
        .moved after { run with point } ∧
      after.log = (performed scenario stage index command).log ∧
      after.desk = (performed scenario stage index command).desk ∧
      awaits? { run with point } = some (label, index, scenario.flow command) := by
  rw [begin_eq]
  cases scenario.flow command with
  | proceed => exact .inl (pass_proceeds ..)
  | goto target => exact .inl (pass_proceeds ..)
  | awaitLine => exact .inr ⟨_, _, rfl, rfl, rfl, rfl⟩
  | awaitSelection targets => exact .inr ⟨_, _, rfl, rfl, rfl, rfl⟩

/-! ### The events of a step -/

theorem log_takeSignals : (takeSignals stage).log = stage.log := by
  unfold takeSignals
  split
  · rfl
  · exact Stage.log_note _ _

theorem log_takeAnswers (targets : List String) : (takeAnswers stage targets).log = stage.log := by
  rw [takeAnswers, Stage.log_note, log_takeSignals]

theorem log_begin :
    (run.begin scenario stage label index next command).stage.log =
      stage.log ++ scenario.shows stage.depot.handle? command ++
        (run.begin scenario stage label index next command).finale := by
  have hperformed : (performed scenario stage index command).log =
      stage.log ++ scenario.shows stage.depot.handle? command :=
    (performed_emits scenario stage index command).log
  rw [← hperformed]
  obtain hpast | ⟨after, point, hbegin, hlog, -, -⟩ :=
    begin_cases scenario run stage label index next command
  · exact hpast.log
  · rw [hbegin, Progress.finale_of_run rfl, List.append_nil]
    exact hlog

/-- **The events of a step** are those of its deed, followed by the end of the run if the run comes
to its end in the step. -/
theorem log_carryOut (deed : Deed) :
    (run.carryOut scenario stage deed).stage.log =
      stage.log ++ deed.events scenario stage ++ (run.carryOut scenario stage deed).finale := by
  -- Where the run may end in the step, the end comes behind the events of the deed.
  cases deed with
  | reconcile label required =>
    rw [carryOut, Deed.events, ← Stage.log_onDepot stage (_, (stage.depot.reconcile required).2.2)]
    exact (fetch_proceeds _ _ _ _ _ (.inl rfl)).log
  | resume label batch =>
    simp only [carryOut, Deed.events, List.append_nil]
    exact (fetch_proceeds _ _ _ _ _ (.inr rfl)).log
  | begin label index next command => exact log_begin ..
  | leave label next =>
    simp only [carryOut, Deed.events, List.append_nil]
    exact (leave_proceeds ..).log
  | listen => simp [carryOut, Deed.events, Progress.stage, Progress.finale, log_takeSignals]
  | advance label index next =>
    simp only [carryOut, Deed.events, List.append_nil]
    rw [← log_takeSignals stage]
    exact (pass_proceeds ..).log
  | ask targets => simp [carryOut, Deed.events, Progress.stage, Progress.finale, log_takeAnswers]
  | choose label index targets answer =>
    simp only [carryOut, Deed.events, List.append_nil]
    rw [← log_takeAnswers stage targets]
    exact (pass_proceeds ..).log
  | _ => simp [carryOut, interrupt, arrive, Deed.events, Progress.stage, Progress.finale]

/-! ### The desk after a step -/

theorem stopped_takeSignals : (takeSignals stage).desk.stopped = stage.desk.stopped := by
  unfold takeSignals
  split <;> rfl

/-- What a command leaves of the switches: the host may use them in reaction to its events. -/
theorem stopped_begin {run' : Run}
    (h : (run.begin scenario stage label index next command).run? = some run') :
    (run.begin scenario stage label index next command).stage.desk.stopped =
      (stage.desk.stopped ||
        decide (.stop ∈ stage.reactionsTo (scenario.shows stage.depot.handle? command))) := by
  have hperformed : (performed scenario stage index command).desk.stopped =
      (stage.desk.stopped ||
        decide (.stop ∈ stage.reactionsTo (scenario.shows stage.depot.handle? command))) := by
    rw [(performed_emits scenario stage index command).desk]
    exact Desk.stopped_applyAll _ _
  rw [← hperformed]
  obtain hpast | ⟨after, point, hbegin, -, hdesk, -⟩ :=
    begin_cases scenario run stage label index next command
  · rw [hpast.desk _ h]
    rfl
  · rw [hbegin, Progress.stage, hdesk]

/-- **The stop switch of a run that is still in progress** is on after a step if it was on before or
the host used it in reaction to an event of the step. -/
theorem stopped_carryOut (deed : Deed) {run' : Run}
    (h : (run.carryOut scenario stage deed).run? = some run') :
    (run.carryOut scenario stage deed).stage.desk.stopped =
      (stage.desk.stopped || decide (.stop ∈ stage.reactionsTo (deed.events scenario stage))) := by
  -- Where nothing happens there is nothing to react to.
  have hquiet : stage.desk.stopped =
      (stage.desk.stopped || decide (.stop ∈ stage.reactionsTo [])) := by
    simp [Stage.reactionsTo, Stage.reactionsFrom]
  have htake : (takeSignals stage).desk.stopped =
      (stage.desk.stopped || decide (.stop ∈ stage.reactionsTo [])) :=
    (stopped_takeSignals stage).trans hquiet
  cases deed with
  | refuse => cases h
  | halt => cases h
  | start =>
    have hemits := ((Stage.Emits.refl (stage.withStatus (.enter .starting run.entry))).note
      [.starting run.entry]).emit .start
    rw [carryOut, Progress.stage, hemits.desk]
    exact Desk.stopped_applyAll _ _
  | reconcile label required =>
    rw [carryOut] at h ⊢
    have hemits :=
      (Stage.Emits.refl { stage with depot := (stage.depot.reconcile required).1 }).emitAll
        ((stage.depot.reconcile required).2.2.map .asset)
    have hdesk := (fetch_proceeds _ _ _ _ _ (.inl rfl)).desk _ h
    rw [hdesk, Stage.onDepot, hemits.desk]
    exact Desk.stopped_applyAll _ _
  | resume label batch =>
    rw [carryOut] at h ⊢
    have hdesk := (fetch_proceeds _ _ _ _ _ (.inr rfl)).desk _ h
    rw [hdesk]
    exact hquiet
  | begin label index next command => exact stopped_begin _ _ _ _ _ _ _ h
  | leave label next =>
    rw [carryOut] at h ⊢
    have hdesk := (leave_proceeds ..).desk _ h
    rw [hdesk]
    exact hquiet
  | listen => exact htake
  | advance label index next =>
    rw [carryOut] at h ⊢
    have hdesk := (pass_proceeds ..).desk _ h
    rw [hdesk]
    exact htake
  | ask targets => exact htake
  | choose label index targets answer =>
    rw [carryOut] at h ⊢
    have hdesk := (pass_proceeds ..).desk _ h
    rw [hdesk]
    exact htake
  | _ => exact hquiet

end

end Run

end Storyboard
