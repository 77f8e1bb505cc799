import Storyboard.Player.Perform

/-!
# Runs

A run plays a scenario from a label to its end. It proceeds in steps, and a step begins at one of
the points where a run can wait:

* a run that was only created waits for its first step;
* a run that has begun waits until the loading switch is off;
* at each label it waits until the assets of the label are resident;
* before each command it waits until the pause switch is off;
* after a line or a choice it waits for the acknowledgement.

At each of these points the stop switch is looked at first, and at no others. A step either moves
the run to its next point, or finds that it has to wait, or ends it. Whatever way a run ends that
had begun, the stop switch is off and the status is idle afterwards.
-/

namespace Storyboard

/-- How a run ended. -/
inductive Outcome where
  /-- It came to its end in the label. -/
  | completed (label : String)
  /-- It was stopped. -/
  | stopped
  /-- It never began, because its label has nothing to play. -/
  | rejected
  deriving DecidableEq

/-- Where a run can wait. -/
inductive Point where
  /-- Created, and not yet begun. -/
  | created
  /-- Begun, before its first label. -/
  | opening
  /-- At a label whose required assets are known. -/
  | arriving (label : String) (required : List String)
  /-- At a label whose assets are being loaded. -/
  | fetching (label : String) (batch : Batch)
  /-- Before a command; the label to continue with is known if a command before has set it. -/
  | ready (label : String) (index : Nat) (next : Option String)
  /-- After a line. -/
  | reading (label : String) (index : Nat) (next : Option String)
  /-- After a choice between targets. -/
  | choosing (label : String) (index : Nat) (targets : List String)

/-- A run: the label it plays from, and where it is. -/
structure Run where
  /-- The label it plays from. -/
  entry : String
  /-- Where it is. -/
  point : Point

/-- What a step of a run came to. -/
inductive Progress where
  /-- The run has to wait. -/
  | waiting (stage : Stage) (run : Run)
  /-- The run went on. -/
  | moved (stage : Stage) (run : Run)
  /-- The run ended. -/
  | ended (stage : Stage) (outcome : Outcome)

namespace Stage

/-- Puts the stage in order after a run that had begun. -/
def tidy (stage : Stage) : Stage :=
  { stage with status := .idle, desk := { stage.desk with stopped := false, inbox := none } }

end Stage

namespace Run

/-- A run that was only created. -/
def new (entry : String) : Run := ⟨entry, .created⟩

/-- Ends a run that found the stop switch on. -/
def interrupt (run : Run) (stage : Stage) : Progress :=
  .ended (stage.note [.stopped run.entry]).tidy .stopped

/-- Goes on, unless the stop switch is on. -/
def unlessStopped (run : Run) (stage : Stage) (next : Progress) : Progress :=
  if stage.desk.stopped then run.interrupt stage else next

/-- Comes to a label: its required assets are looked up. -/
def arrive (scenario : Scenario) (run : Run) (stage : Stage) (label : String) : Progress :=
  .moved
    ((stage.withStatus (.enter .preloading label)).note (scenario.assetNotices label))
    { run with point := .arriving label (scenario.requiredAssets label) }

/-- Comes to the end of the run. -/
def complete (stage : Stage) (label : String) : Progress :=
  .ended
    (((stage.withStatus (.enter .ending label)).emit .finish).note [.ended label]).tidy
    (.completed label)

/-- Leaves a label for the next one, or ends the run when there is none. -/
def leave (scenario : Scenario) (run : Run) (stage : Stage) (label : String) :
    Option String → Progress
  | none => complete stage label
  | some target =>
    if (scenario.label? target).isSome then run.arrive scenario stage target
    else complete (stage.note [.targetMissing target]) label

/-- Comes to a command of a label, or to its end when there are no more. -/
def approach (scenario : Scenario) (run : Run) (stage : Stage) (label : String) (index : Nat)
    (next : Option String) : Progress :=
  if index < (scenario.commands label).length then
    .moved stage { run with point := .ready label index next }
  else run.leave scenario stage label next

/-- Ends a command and comes to the next one. -/
def pass (scenario : Scenario) (run : Run) (stage : Stage) (label : String) (index : Nat)
    (next : Option String) : Progress :=
  run.approach scenario (stage.withStatus (stage.status.suspend .none)).closeInbox label
    (index + 1) next

/-- Begins with the commands of a label. -/
def enter (scenario : Scenario) (run : Run) (stage : Stage) (label : String) : Progress :=
  run.approach scenario ((stage.withStatus (.enter .running label)).note [.running label]) label
    0 none

/-- Goes on with a reconciliation: waits, or takes in what was loaded and begins with the label's
commands. -/
def fetch (scenario : Scenario) (run : Run) (stage : Stage) (label : String) (batch : Batch)
    (pending : Stage → Run → Progress) : Progress :=
  if batch.isDone then
    run.enter scenario
      ({ stage with depot := stage.depot.settle batch }.note batch.notices) label
  else pending stage { run with point := .fetching label batch }

/-- Begins a command: performs it and waits for what it asks for. -/
def begin (scenario : Scenario) (run : Run) (stage : Stage) (label : String) (index : Nat)
    (next : Option String) (command : Command) : Progress :=
  -- The inbox is open before anything is displayed, so a reaction to it is not lost.
  let (stage, flow) :=
    scenario.perform (stage.withStatus (stage.status.atCommand index)).openInbox command
  match flow with
  | .proceed => run.pass scenario stage label index next
  | .goto target => run.pass scenario stage label index (some target)
  | .awaitLine =>
    .moved (stage.withStatus (stage.status.suspend .line))
      { run with point := .reading label index next }
  | .awaitSelection targets =>
    .moved (stage.withStatus (stage.status.suspend .selection))
      { run with point := .choosing label index targets }

/-! ### Looking through the inbox -/

/-- The stage after the inbox was emptied, with a notice if signals were lost. -/
def takeSignals (stage : Stage) : Stage :=
  let emptied := { stage with desk := { stage.desk with inbox := stage.desk.inbox.map fun _ => [] } }
  if stage.desk.lost = 0 then emptied else emptied.note [.signalsLost stage.desk.lost]

/-- The first option that the signals choose, with the indexes before it that are no options. -/
def firstChoice (count : Nat) : List Signal → Option Nat × List Nat
  | [] => (none, [])
  | .advance :: rest => firstChoice count rest
  | .choose index :: rest =>
    if index < count then (some index, [])
    else
      let (chosen, refused) := firstChoice count rest
      (chosen, index :: refused)

/-! ### Steps -/

/-- One step of a run. -/
def step (scenario : Scenario) (stage : Stage) (run : Run) : Progress :=
  match run.point with
  | .created =>
    -- A run that is refused leaves the switches and the status alone.
    if (scenario.commands run.entry).isEmpty then
      .ended (stage.note [.notStarted run.entry]) .rejected
    else
      run.unlessStopped stage <|
        .moved
          (((stage.withStatus (.enter .starting run.entry)).note [.starting run.entry]).emit .start)
          { run with point := .opening }
  | .opening =>
    run.unlessStopped stage <|
      if stage.desk.loading then .waiting stage run else run.arrive scenario stage run.entry
  | .arriving label required =>
    run.unlessStopped stage <|
      -- Loads that finish at once leave no point at which the stop switch is looked at.
      let (depot, batch, events) := stage.depot.reconcile required
      run.fetch scenario (stage.onDepot (depot, events)) label batch .moved
  | .fetching label batch =>
    run.unlessStopped stage <|
      let (depot, batch) := stage.depot.resume batch
      run.fetch scenario { stage with depot } label batch .waiting
  | .ready label index next =>
    run.unlessStopped stage <|
      if stage.desk.paused then .waiting stage run
      else
        match (scenario.commands label)[index]? with
        | some command => run.begin scenario stage label index next command
        -- A run is `ready` only before a command, so this does not happen.
        | none => run.leave scenario stage label next
  | .reading label index next =>
    run.unlessStopped stage <|
      -- The signals behind the acknowledgement go with the inbox.
      if .advance ∈ stage.desk.kept then
        run.pass scenario (takeSignals stage) label index next
      else .waiting (takeSignals stage) run
  | .choosing label index targets =>
    run.unlessStopped stage <|
      let (chosen, refused) := firstChoice targets.length stage.desk.kept
      let stage := (takeSignals stage).note
        (refused.map fun index => .optionOutOfRange index targets.length)
      match chosen with
      | some i => run.pass scenario stage label index targets[i]?
      | none => .waiting stage run

/-- Steps of a run until it has to wait or ends, at most as many as the fuel allows. -/
def proceed (scenario : Scenario) : Nat → Stage → Run → Progress
  | 0, stage, run => .moved stage run
  | fuel + 1, stage, run =>
    match run.step scenario stage with
    | .moved stage run => proceed scenario fuel stage run
    | other => other

/-- Gives a run up. A run that has not begun leaves no trace. -/
def abandon (run : Run) (stage : Stage) : Stage :=
  match run.point with
  | .created => stage
  | _ => stage.tidy

end Run

end Storyboard
