import Storyboard.Proofs.Asset.Equipment
import Storyboard.Proofs.Console.Recital
import Storyboard.Proofs.Player.Sprites
import Storyboard.Proofs.Player.Stalling

/-!
# What a run at a console has before it

A run that is played at a console is somewhere in the recital of the scenario, and `Run.prospect` is
the rest of the recital from there. A command that waits is either unanswered, and then there is a
change of the status to look at, or it was answered once and there is none (`Run.Tended`). As long
as a run is tended like this, one step of it prints a piece of the rest of the recital and leaves
what comes behind it (`Run.Orderly.goesOn`). A step in which the run does not have to wait is a move
further.
-/

namespace Storyboard

open Console (Responder Recital)

/-- The option count of the most recent choice that was displayed. -/
def Console.selectionCount (events : List Event) : Nat :=
  events.foldl (fun count event =>
    match event with
    | .choices items => items.length
    | _ => count) 0

theorem Console.selectionCount_concat (events : List Event) (items : List SelectionItem) :
    selectionCount (events ++ [.choices items]) = items.length := by
  rw [selectionCount, List.foldl_append]
  rfl

/-! ### The rest of the recital -/

namespace Run

/-- The recital from the point where a run is, through at most `n` more labels. -/
def prospect (scenario : Scenario) (present : String → Bool) (desk : Desk) (responder : Responder)
    (run : Run) (n : Nat) : Recital :=
  let onward label next commands responder :=
    scenario.reciteVisit present n label next responder commands
  if desk.stopped then ⟨[], [], responder, some .stopped, 1⟩
  else
    match run.point with
    | .created =>
      .prepend ["EVENT:START"] [] 4 (onward run.entry none (scenario.commands run.entry) responder)
    | .opening => .prepend [] [] 3 (onward run.entry none (scenario.commands run.entry) responder)
    | .arriving label _ => .prepend [] [] 2 (onward label none (scenario.commands label) responder)
    | .fetching label _ => .prepend [] [] 1 (onward label none (scenario.commands label) responder)
    | .ready label index next => onward label next ((scenario.commands label).drop index) responder
    | .reading label index next =>
      let rest := (scenario.commands label).drop (index + 1)
      match desk.pending with
      | [] => .awaitLine responder fun left => onward label next rest left
      | _ => .prepend [] [] 1 (onward label next rest responder)
    | .choosing label index targets =>
      let rest := (scenario.commands label).drop (index + 1)
      match desk.pending with
      | .choose i :: _ => .prepend [] [] 1 (onward label targets[i]? rest responder)
      | _ => .awaitOption targets.length responder fun i left => onward label targets[i]? rest left

/-- How a run is tended: while no command waits, the desk is untouched. A command that waits is
unanswered, and then there is a change of the status to look at; or it was answered once, with
something that it accepts; or the input has run out and the run is asked to end. -/
def Tended (desk : Desk) (fresh : Bool) (run : Run) : Prop :=
  match run.awaits? with
  | none => desk = {}
  | some (_, _, flow) =>
    (fresh = true ∧ desk = { inbox := some [] }) ∨
    (fresh = false ∧ ∃ signal, flow.accepts signal = true ∧ desk = { inbox := some [signal] }) ∨
    (fresh = false ∧ desk = { inbox := some [], stopped := true })

end Run

namespace Scenario

/-- Whether the sprite of a name can be shown, when loads fail with these faults. -/
def canShow (fault? : String → Option AssetFault) (name : String) : Bool :=
  name ≠ "" && (fault? name).isNone

/-- What is resident at a point of a run. -/
def Equipped (scenario : Scenario) (fault? : String → Option AssetFault) (depot : Depot) :
    Point → Prop
  | .fetching label batch => depot.Honest fault? ∧
    depot.Serves (scenario.requiredAssets label) batch ∧
    ∀ load ∈ batch.loads, load.Honest fault?
  | .ready label _ _ => depot.Stocks fault? (scenario.requiredAssets label)
  | .reading label _ _ => depot.Stocks fault? (scenario.requiredAssets label)
  | .choosing label _ _ => depot.Stocks fault? (scenario.requiredAssets label)
  | _ => depot.Honest fault?

variable {scenario : Scenario} {fault? : String → Option AssetFault} {depot : Depot}

theorem Equipped.honest {point : Point} (h : scenario.Equipped fault? depot point) :
    depot.Honest fault? := by
  cases point with
  | fetching label batch => exact h.1
  | ready label index next => exact Depot.Stocks.honest h
  | reading label index next => exact Depot.Stocks.honest h
  | choosing label index targets => exact Depot.Stocks.honest h
  | _ => exact h

/-- **What a command of a label prints** while the assets of the label are there. -/
theorem flatMap_display_of_stocks {label : String} {command : Command}
    (h : depot.Stocks fault? (scenario.requiredAssets label))
    (hcommand : command ∈ scenario.commands label) :
    (scenario.shows depot.handle? command).flatMap Console.display =
      scenario.lines (canShow fault?) command := by
  refine scenario.flatMap_display_shows ?_
  rintro id hides layer words place character rfl hcharacter
  have hrequired := scenario.sprite_mem_requiredAssets_iff hcommand hcharacter
  rw [Bool.eq_iff_iff, h character.sprite, hrequired, canShow, Bool.and_eq_true,
    decide_eq_true_iff, Option.isNone_iff_eq_none]

end Scenario

/-! ### Stages without reactions -/

namespace Stage

variable {stage after : Stage} {events : List Event}

theorem reactionsTo_of_quiet (h : stage.reactions = []) (events : List Event) :
    stage.reactionsTo events = [] := by
  have hfrom : ∀ (events : List Event) (n : Nat), reactionsFrom [] n events = [] := by
    intro events
    induction events with
    | nil => exact fun n => rfl
    | cons event rest ih => exact fun n => ih (n + 1)
  rw [reactionsTo, h, hfrom]

theorem Emits.desk_of_quiet (h : stage.Emits events after) (hquiet : stage.reactions = []) :
    after.desk = stage.desk := by
  rw [h.desk, reactionsTo_of_quiet hquiet]
  rfl

/-- A stage on which nothing is under way: the desk is untouched, nobody reacts to events, and loads
fail with these faults. -/
structure Calm (fault? : String → Option AssetFault) (stage : Stage) : Prop where
  /-- The desk is untouched. -/
  desk : stage.desk = {}
  /-- Nobody reacts to events. -/
  quiet : stage.reactions = []
  /-- Loads fail with these faults. -/
  faults : stage.depot.store.fault? = fault?

end Stage

/-! ### Steps between commands -/

/-- The stage is as it has to be for a run that is played at a console. -/
structure Run.Orderly (scenario : Scenario) (fault? : String → Option AssetFault) (stage : Stage)
    (fresh : Bool) (run : Run) : Prop where
  /-- Nobody reacts to events. -/
  quiet : stage.reactions = []
  /-- Loads fail with these faults. -/
  faults : stage.depot.store.fault? = fault?
  /-- The run is tended. -/
  tended : run.Tended stage.desk fresh
  /-- The assets are there that the run needs. -/
  equipped : scenario.Equipped fault? stage.depot run.point
  /-- The console knows how many options a run waits at. -/
  count : ∀ label index targets, run.point = .choosing label index targets →
    Console.selectionCount stage.log = targets.length

namespace Progress

/-- What a run has before it after a step. -/
def prospect (scenario : Scenario) (present : String → Bool) (responder : Responder) :
    Progress → Nat → Recital
  | waiting stage run => run.prospect scenario present stage.desk responder
  | moved stage run => run.prospect scenario present stage.desk responder
  | ended _ outcome => fun _ => ⟨[], [], responder, some outcome, 0⟩

/-- A step goes on with a recital: it printed this much, and the end if the run came to its end, and
what the run has before it is the rest. -/
structure Goes (scenario : Scenario) (fault? : String → Option AssetFault) (fresh : Bool)
    (responder : Responder) (rest : Nat → Recital) (printed : List String) (moves : Nat)
    (progress : Progress) : Prop where
  /-- The stage is in order if the run goes on. -/
  orderly : ∀ run, progress.run? = some run → run.Orderly scenario fault? progress.stage fresh
  /-- The run is not rejected. -/
  accepted : progress.outcome? ≠ some .rejected
  /-- The recital goes on as the run does. -/
  leads : ∃ m, Recital.Leads rest (progress.prospect scenario (Scenario.canShow fault?) responder)
    (printed ++ progress.finale.flatMap Console.display) [] moves m

variable {scenario : Scenario} {fault? : String → Option AssetFault} {fresh : Bool}
  {responder : Responder} {rest : Nat → Recital} {moves : Nat} {progress : Progress}

theorem Goes.behind (h : progress.Goes scenario fault? fresh responder rest [] moves)
    (before : List String) (steps : Nat) :
    progress.Goes scenario fault? fresh responder (fun n => (rest n).prepend before [] steps)
      before (steps + moves) where
  orderly := h.orderly
  accepted := h.accepted
  leads := by
    obtain ⟨m, hleads⟩ := h.leads
    exact ⟨_, (Recital.Leads.of_eq fun n => rfl).trans hleads⟩

/-- A run that goes on between two commands. -/
theorem goes_of_calm {run : Run} (hrun : progress.run? = some run)
    (hcalm : progress.stage.Calm fault?) (hawaits : run.awaits? = none)
    (hequipped : scenario.Equipped fault? progress.stage.depot run.point)
    (hrest : ∀ n, rest n =
      (progress.prospect scenario (Scenario.canShow fault?) responder n).prepend [] [] moves) :
    progress.Goes scenario fault? fresh responder rest [] moves where
  orderly other hother := by
    obtain rfl : run = other := Option.some.inj (hrun.symm.trans hother)
    refine ⟨hcalm.quiet, hcalm.faults, ?_, hequipped, ?_⟩
    · rw [Run.Tended, hawaits]
      exact hcalm.desk
    · -- Nothing waits for a selection here.
      intro label index targets hpoint
      simp [Run.awaits?, hpoint] at hawaits
  accepted := by
    cases progress with
    | ended stage outcome => cases hrun
    | _ => rintro ⟨⟩
  leads := by
    rw [finale_of_run hrun]
    exact ⟨0, .of_eq hrest⟩

end Progress

namespace Run

section

variable (scenario : Scenario) {fault? : String → Option AssetFault} (fresh : Bool)
  (responder : Responder) (run : Run) (stage : Stage) (label : String) (index : Nat)
  (next : Option String)

theorem leave_goes (hcalm : stage.Calm fault?) (hdepot : stage.depot.Honest fault?) :
    (run.leave scenario stage label next).Goes scenario fault? fresh responder
      (fun n => scenario.reciteLeaving (Scenario.canShow fault?) n label next responder) [] 0 := by
  obtain ⟨target, htarget, h⟩ | ⟨hnone, notices, h⟩ := leave_cases scenario run stage label next
  · rw [h]
    -- Moving on to another label takes one of the labels that the recital has left.
    refine ⟨?_, by rintro ⟨⟩, 1, fun n => ?_, fun n hn => ?_⟩
    · rintro _ ⟨⟩
      exact ⟨hcalm.quiet, hcalm.faults, hcalm.desk, hdepot, by simp⟩
    · rw [Nat.add_comm, Scenario.reciteLeaving, htarget]
      simp [arrive, Progress.prospect, prospect, Scenario.reciteVisit, Progress.finale, hcalm.desk,
        Stage.note, Stage.withStatus]
    · obtain rfl := Nat.lt_one_iff.1 hn
      exact ⟨rfl, List.nil_prefix⟩
  · rw [h]
    -- With no next label the recital is complete, and so is the run.
    refine ⟨by rintro _ ⟨⟩, by rintro ⟨⟩, 1, fun n => ?_, fun n hn => ?_⟩
    · rw [Nat.add_comm, Scenario.reciteLeaving, hnone]
      rfl
    · obtain rfl := Nat.lt_one_iff.1 hn
      exact ⟨rfl, List.nil_prefix⟩

theorem approach_goes (hcalm : stage.Calm fault?)
    (hstocks : stage.depot.Stocks fault? (scenario.requiredAssets label)) :
    (run.approach scenario stage label index next).Goes scenario fault? fresh responder
      (fun n => scenario.reciteVisit (Scenario.canShow fault?) n label next responder
        ((scenario.commands label).drop index)) [] 0 := by
  obtain ⟨-, h⟩ | ⟨hle, h⟩ := approach_cases scenario run stage label index next
  · rw [h]
    refine Progress.goes_of_calm rfl hcalm rfl hstocks fun n => ?_
    simp [Progress.prospect, prospect, hcalm.desk]
  · rw [h, List.drop_eq_nil_of_le hle]
    exact leave_goes scenario fresh responder run stage label next hcalm hstocks.honest

theorem pass_goes (hcalm : stage.closeInbox.Calm fault?)
    (hstocks : stage.depot.Stocks fault? (scenario.requiredAssets label)) :
    (run.pass scenario stage label index next).Goes scenario fault? fresh responder
      (fun n => scenario.reciteVisit (Scenario.canShow fault?) n label next responder
        ((scenario.commands label).drop (index + 1))) [] 0 :=
  approach_goes scenario fresh responder run _ label (index + 1) next
    ⟨hcalm.desk, hcalm.quiet, hcalm.faults⟩ hstocks

/-- A run that goes on with a reconciliation is a move further if all loads have finished. -/
theorem fetch_goes (hcalm : stage.Calm fault?) {batch : Batch}
    (hequipped : scenario.Equipped fault? stage.depot (.fetching label batch))
    {pending : Stage → Run → Progress} (hpending : pending = .moved ∨ pending = .waiting) :
    ∃ moves, (moves = 0 → batch.isDone = false) ∧
      (run.fetch scenario stage label batch pending).Goes scenario fault? fresh responder
        (fun n => (scenario.reciteVisit (Scenario.canShow fault?) n label none responder
          (scenario.commands label)).prepend [] [] 1) [] moves := by
  cases hdone : batch.isDone with
  | true =>
    -- The settled batch leaves in the depot what the recital takes to be there.
    obtain ⟨hhonest, hserves, hbatch⟩ := hequipped
    have hdistinct : (scenario.requiredAssets label).Nodup :=
      (scenario.requiredAssets_sorted label).imp String.ne_of_lt
    have hstocks := hserves.stocks_settle hhonest hbatch hdistinct hdone
    have happroach := approach_goes scenario fresh responder run
      ((({ stage with depot := stage.depot.settle batch }.note batch.notices).withStatus
        (.enter .running label)).note [.running label])
      label 0 none ⟨hcalm.desk, hcalm.quiet, hcalm.faults⟩ hstocks
    refine ⟨1, nofun, ?_⟩
    rw [fetch, if_pos hdone]
    exact happroach.behind [] 1
  | false =>
    -- Some load is held back: the prospect is unchanged.
    refine ⟨0, fun _ => rfl, ?_⟩
    rw [fetch, if_neg (by rw [hdone]; nofun)]
    obtain rfl | rfl := hpending
    all_goals
      refine Progress.goes_of_calm rfl hcalm rfl hequipped fun n => ?_
      simp [Progress.prospect, prospect, hcalm.desk]

/-- A command that begins prints its lines. Then the run is past it, or waits for its answer. -/
theorem begin_goes (hcalm : stage.Calm fault?)
    (hstocks : stage.depot.Stocks fault? (scenario.requiredAssets label)) {command : Command}
    (hcommand : (scenario.commands label)[index]? = some command) :
    (run.begin scenario stage label index next command).Goes scenario fault? true responder
      (fun n => scenario.reciteVisit (Scenario.canShow fault?) n label next responder
        ((scenario.commands label).drop index))
      ((scenario.shows stage.depot.handle? command).flatMap Console.display) 1 := by
  have hemits := performed_emits scenario stage index command
  -- While it is performed a command opens an inbox, and a quiet host puts nothing into it.
  have hdesk : (performed scenario stage index command).desk = { inbox := some [] } := by
    rw [hemits.desk_of_quiet hcalm.quiet]
    exact congrArg (fun desk : Desk => { desk with inbox := some [] }) hcalm.desk
  have hpast : (performed scenario stage index command).closeInbox.Calm fault? := by
    refine ⟨?_, hemits.reactions.trans hcalm.quiet, ?_⟩
    · rw [Stage.closeInbox, hdesk]
    · exact (congrArg (·.store.fault?) hemits.depot).trans hcalm.faults
  have hstill : (performed scenario stage index command).depot.Stocks fault?
      (scenario.requiredAssets label) := by
    rw [hemits.depot]
    exact hstocks
  have hpass := fun next =>
    pass_goes scenario true responder run _ label index next hpast hstill
  obtain ⟨hlt, hget⟩ := List.getElem?_eq_some_iff.1 hcommand
  rw [scenario.flatMap_display_of_stocks hstocks (List.mem_of_getElem? hcommand), begin_eq,
    List.drop_eq_getElem_cons hlt, hget]
  simp only [Scenario.reciteVisit, Scenario.reciteCommands]
  cases hflow : scenario.flow command with
  -- What the recital says behind the lines of the command depends on how the command goes on.
  | proceed => exact (hpass next).behind _ 1
  | goto target => exact (hpass (some target)).behind _ 1
  | awaitLine =>
    have hwaits : (Progress.moved ((performed scenario stage index command).withStatus
        ((performed scenario stage index command).status.suspend .line))
        { run with point := .reading label index next }).Goes scenario fault? true responder
        (fun n => .awaitLine responder fun left => scenario.reciteVisit (Scenario.canShow fault?) n
          label next left ((scenario.commands label).drop (index + 1))) [] 0 := by
      refine ⟨?_, by rintro ⟨⟩, 0, .of_eq fun n => ?_⟩
      · rintro _ ⟨⟩
        exact ⟨hpast.quiet, hpast.faults, .inl ⟨rfl, hdesk⟩, hstill, by simp⟩
      · simp [Progress.prospect, prospect, Progress.finale, Stage.withStatus, hdesk, Desk.pending]
    exact hwaits.behind _ 1
  | awaitSelection targets =>
    have hwaits : (Progress.moved ((performed scenario stage index command).withStatus
        ((performed scenario stage index command).status.suspend .selection))
        { run with point := .choosing label index targets }).Goes scenario fault? true responder
        (fun n => .awaitOption targets.length responder fun i left => scenario.reciteVisit
          (Scenario.canShow fault?) n label targets[i]? left
          ((scenario.commands label).drop (index + 1))) [] 0 := by
      refine ⟨?_, by rintro ⟨⟩, 0, .of_eq fun n => ?_⟩
      · rintro _ ⟨⟩
        refine ⟨hpast.quiet, hpast.faults, .inl ⟨rfl, hdesk⟩, hstill, ?_⟩
        rintro _ _ _ ⟨⟩
        -- The choices that were displayed last are as many as the targets of the command.
        obtain ⟨options, place, rfl, rfl⟩ := scenario.exists_choice_of_flow hflow
        have hlog : (performed scenario stage index (.choice options place)).log = stage.log ++
            [.choices (options.mapIdx fun i option => ⟨i, (scenario.render option.text).text⟩)] :=
          hemits.log
        refine (congrArg Console.selectionCount hlog).trans ?_
        rw [Console.selectionCount_concat, List.length_mapIdx, List.length_map]
      · simp [Progress.prospect, prospect, Progress.finale, Stage.withStatus, hdesk, Desk.pending]
    exact hwaits.behind _ 1

end

/-! ### Steps -/

section

variable {scenario : Scenario} {fault? : String → Option AssetFault} {fresh : Bool} {run : Run}
  {stage : Stage}

theorem takeSignals_eq (h : stage.desk.lost = 0) :
    takeSignals stage =
      { stage with desk := { stage.desk with inbox := stage.desk.inbox.map fun _ => [] } } := by
  rw [takeSignals, if_pos h]

/-- A run that has to wait and finds nothing leaves everything as it is. -/
theorem takeSignals_of_empty (h : stage.desk = { inbox := some [] }) :
    takeSignals stage = stage := by
  rw [takeSignals_eq (by rw [h]; rfl)]
  cases stage
  cases h
  rfl

theorem Orderly.calm (h : run.Orderly scenario fault? stage fresh) (hawaits : run.awaits? = none) :
    stage.Calm fault? := by
  have htended := h.tended
  rw [Tended, hawaits] at htended
  exact ⟨htended, h.quiet, h.faults⟩

/-- The next step of a run goes on with its recital: it prints the events of its deed, and unless
the run has to wait it is a move further. -/
def GoesOn (scenario : Scenario) (fault? : String → Option AssetFault) (fresh : Bool)
    (responder : Responder) (stage : Stage) (run : Run) : Prop :=
  let deed := run.deed scenario stage
  ∃ moves, (moves = 0 → (run.step scenario stage).waits = true) ∧
    (run.step scenario stage).Goes scenario fault?
      (fresh || !(run.trail scenario stage deed).isEmpty) responder
      (run.prospect scenario (Scenario.canShow fault?) stage.desk responder)
      ((deed.events scenario stage).flatMap Console.display) moves

theorem goesOn_of_deed {responder : Responder} {deed : Deed}
    (hdeed : run.deed scenario stage = deed)
    (h : ∃ moves, (moves = 0 → (run.carryOut scenario stage deed).waits = true) ∧
      (run.carryOut scenario stage deed).Goes scenario fault?
        (fresh || !(run.trail scenario stage deed).isEmpty) responder
        (run.prospect scenario (Scenario.canShow fault?) stage.desk responder)
        ((deed.events scenario stage).flatMap Console.display) moves) :
    run.GoesOn scenario fault? fresh responder stage := by
  rw [GoesOn, step_eq_carryOut, hdeed]
  exact h

/-- A command that waits while the run is asked to end. -/
theorem goesOn_of_stopped (responder : Responder) (hstopped : stage.desk.stopped = true)
    (hwait : (run.wait? scenario).isSome = true) :
    run.GoesOn scenario fault? fresh responder stage := by
  have hdeed : run.deed scenario stage = .halt := by
    rw [deed, hstopped, hwait]
    rfl
  refine goesOn_of_deed hdeed ⟨1, by simp, ?_⟩
  exact ⟨by rintro _ ⟨⟩, by rintro ⟨⟩, 0, .of_eq fun n => by rw [prospect, if_pos hstopped]; rfl⟩

/-- A command that waits unanswered. -/
theorem goesOn_of_waiting (h : run.Orderly scenario fault? stage fresh) (responder : Responder)
    {deed : Deed} (hdeed : run.deed scenario stage = deed)
    (hwaits : run.carryOut scenario stage deed = .waiting stage run)
    (htrail : run.trail scenario stage deed = []) (hevents : deed.events scenario stage = []) :
    run.GoesOn scenario fault? fresh responder stage := by
  refine goesOn_of_deed hdeed ⟨0, fun _ => by rw [hwaits]; rfl, ?_⟩
  rw [hwaits, htrail, hevents]
  refine ⟨?_, nofun, 0, .refl _⟩
  rintro _ ⟨⟩
  rw [List.isEmpty_nil, Bool.not_true, Bool.or_false]
  exact h

/-- A command that was answered. -/
theorem goesOn_of_pass (h : run.Orderly scenario fault? stage fresh) (responder : Responder)
    {signal : Signal} (hdesk : stage.desk = { inbox := some [signal] }) {label : String}
    {index : Nat} {next : Option String} {deed : Deed} (hdeed : run.deed scenario stage = deed)
    (hpass : run.carryOut scenario stage deed =
      run.pass scenario (takeSignals stage) label index next)
    (hstocks : stage.depot.Stocks fault? (scenario.requiredAssets label))
    (hevents : deed.events scenario stage = [])
    (hprospect : ∀ n, run.prospect scenario (Scenario.canShow fault?) stage.desk responder n =
      (scenario.reciteVisit (Scenario.canShow fault?) n label next responder
        ((scenario.commands label).drop (index + 1))).prepend [] [] 1) :
    run.GoesOn scenario fault? fresh responder stage := by
  -- The one signal is taken, and with the inbox closed the desk is empty again.
  have hcalm : (takeSignals stage).closeInbox.Calm fault? := by
    rw [takeSignals_eq (by rw [hdesk]; rfl)]
    refine ⟨?_, h.quiet, h.faults⟩
    rw [Stage.closeInbox, hdesk]
  refine goesOn_of_deed hdeed ⟨1, by simp, ?_⟩
  rw [hpass, hevents, funext hprospect]
  refine (pass_goes scenario _ responder run (takeSignals stage) label index next hcalm ?_).behind
    [] 1
  rw [takeSignals_depot]
  exact hstocks

theorem goesOn_reading {label : String} {index : Nat} {next : Option String}
    (h : run.Orderly scenario fault? stage fresh) (hpoint : run.point = .reading label index next)
    (responder : Responder) : run.GoesOn scenario fault? fresh responder stage := by
  have htended := h.tended
  have hstocks := h.equipped
  rw [hpoint] at hstocks
  simp only [Tended, awaits?, hpoint] at htended
  -- The line is unanswered, or acknowledged, or the run is asked to end.
  obtain ⟨-, hdesk⟩ | ⟨-, signal, haccepts, hdesk⟩ | ⟨-, hdesk⟩ := htended
  · have hdeed : run.deed scenario stage = .listen := by
      simp [deed, intent, hpoint, hdesk, Desk.kept, Desk.pending]
    exact goesOn_of_waiting h responder hdeed
      (by rw [carryOut, takeSignals_of_empty hdesk]) rfl rfl
  · obtain rfl : signal = .advance := of_decide_eq_true haccepts
    have hdeed : run.deed scenario stage = .advance label index next := by
      simp [deed, intent, hpoint, hdesk, Desk.kept, Desk.pending, Desk.lost, Desk.inboxSize]
    refine goesOn_of_pass h responder hdesk hdeed rfl hstocks rfl fun n => ?_
    simp [prospect, hpoint, hdesk, Desk.pending]
  · exact goesOn_of_stopped responder (by rw [hdesk]) (by rw [wait?, hpoint]; rfl)

theorem exists_choose_of_accepts {targets : List String} {signal : Signal}
    (h : (Flow.awaitSelection targets).accepts signal = true) :
    ∃ i < targets.length, signal = .choose i := by
  cases signal with
  | advance => cases h
  | choose i =>
    by_cases hi : i < targets.length
    · exact ⟨i, hi, rfl⟩
    · simp [Flow.accepts, Signal.option?, hi] at h

theorem goesOn_choosing {label : String} {index : Nat} {targets : List String}
    (h : run.Orderly scenario fault? stage fresh)
    (hpoint : run.point = .choosing label index targets) (responder : Responder) :
    run.GoesOn scenario fault? fresh responder stage := by
  have htended := h.tended
  have hstocks := h.equipped
  rw [hpoint] at hstocks
  simp only [Tended, awaits?, hpoint] at htended
  -- Nothing is refused: whatever was sent is an option.
  have htake : (firstChoice targets.length stage.desk.kept).2 = [] →
      takeAnswers stage targets = takeSignals stage := by
    intro hrefused
    simp [takeAnswers, hrefused, Stage.note]
  obtain ⟨-, hdesk⟩ | ⟨-, signal, haccepts, hdesk⟩ | ⟨-, hdesk⟩ := htended
  · have hkept : stage.desk.kept = [] := by rw [hdesk]; rfl
    have hdeed : run.deed scenario stage = .ask targets := by
      simp only [deed, intent, hpoint, hkept]
      simp [hdesk, firstChoice]
    exact goesOn_of_waiting h responder hdeed
      (by rw [carryOut, htake (by rw [hkept]; rfl), takeSignals_of_empty hdesk]) rfl rfl
  · -- An option was chosen, and the recital takes the same one.
    obtain ⟨i, hi, rfl⟩ := exists_choose_of_accepts haccepts
    have hkept : stage.desk.kept = [.choose i] := by rw [hdesk]; rfl
    have hchoice : firstChoice targets.length stage.desk.kept = (some i, []) := by
      simp [hkept, firstChoice, hi]
    have hdeed : run.deed scenario stage = .choose label index targets i := by
      simp only [deed, intent, hpoint, hchoice]
      simp [hdesk]
    have hpass : run.carryOut scenario stage (.choose label index targets i) =
        run.pass scenario (takeSignals stage) label index targets[i]? := by
      rw [carryOut, htake (by rw [hchoice])]
    refine goesOn_of_pass h responder hdesk hdeed hpass hstocks rfl fun n => ?_
    simp [prospect, hpoint, hdesk, Desk.pending]
  · exact goesOn_of_stopped responder (by rw [hdesk]) (by rw [wait?, hpoint]; rfl)

theorem goesOn_created (h : run.Orderly scenario fault? stage fresh) (hpoint : run.point = .created)
    (hcommands : scenario.commands run.entry ≠ []) (responder : Responder) :
    run.GoesOn scenario fault? fresh responder stage := by
  have hcalm := h.calm (by rw [awaits?, hpoint])
  have hequipped := h.equipped
  rw [hpoint] at hequipped
  -- A quiet host does not react to the start.
  have hdesk : (stage.emit .start).desk = {} := by
    simp [Stage.emit, Stage.reaction, hcalm.quiet, hcalm.desk, Desk.applyAll]
  have hdeed : run.deed scenario stage = .start := by
    simp [deed, intent, hpoint, hcalm.desk, hcommands]
  refine goesOn_of_deed hdeed ⟨1, by simp, ?_, by rintro ⟨⟩, 0, .of_eq fun n => ?_⟩
  · rintro _ ⟨⟩
    exact ⟨hcalm.quiet, hcalm.faults, hdesk, hequipped, by simp⟩
  · have hafter : (((stage.withStatus (.enter .starting run.entry)).note
        [.starting run.entry]).emit .start).desk = {} := hdesk
    simp [carryOut, Progress.prospect, prospect, hpoint, hcalm.desk, hafter, Deed.events,
      Progress.finale, Console.display, Recital.prepend_prepend]

theorem goesOn_opening (h : run.Orderly scenario fault? stage fresh) (hpoint : run.point = .opening)
    (responder : Responder) : run.GoesOn scenario fault? fresh responder stage := by
  have hcalm := h.calm (by rw [awaits?, hpoint])
  have hequipped := h.equipped
  rw [hpoint] at hequipped
  have hdeed : run.deed scenario stage = .arrive run.entry := by
    simp [deed, intent, hpoint, hcalm.desk]
  have harrive : (run.carryOut scenario stage (.arrive run.entry)).stage.Calm fault? :=
    ⟨hcalm.desk, hcalm.quiet, hcalm.faults⟩
  refine goesOn_of_deed hdeed ⟨1, by simp, ?_⟩
  refine Progress.goes_of_calm rfl harrive rfl hequipped fun n => ?_
  simp [Progress.prospect, prospect, carryOut, arrive, hpoint, hcalm.desk, Stage.withStatus,
    Stage.note, Recital.prepend_prepend]

theorem goesOn_arriving {label : String} (h : run.Orderly scenario fault? stage fresh)
    (hpoint : run.point = .arriving label (scenario.requiredAssets label)) (responder : Responder) :
    run.GoesOn scenario fault? fresh responder stage := by
  have hcalm := h.calm (by rw [awaits?, hpoint])
  have hhonest := h.equipped.honest
  let result := stage.depot.reconcile (scenario.requiredAssets label)
  have hemits := (Stage.Emits.refl { stage with depot := result.1 }).emitAll
    (result.2.2.map .asset)
  have hdepot : (stage.onDepot (result.1, result.2.2)).depot = result.1 := hemits.depot
  have hbegun : (stage.onDepot (result.1, result.2.2)).Calm fault? := by
    refine ⟨(hemits.desk_of_quiet hcalm.quiet).trans hcalm.desk,
      hemits.reactions.trans hcalm.quiet, ?_⟩
    rw [hdepot, Depot.fault?_reconcile]
    exact hcalm.faults
  -- What is loaded and what fails is as the store says, already while the loads are pending.
  have hequipped : scenario.Equipped fault? (stage.onDepot (result.1, result.2.2)).depot
      (.fetching label result.2.1) := by
    rw [hdepot]
    refine ⟨hhonest.reconcile _, Depot.serves_reconcile _ _, ?_⟩
    rw [← hcalm.faults]
    exact Depot.honest_reconcile _ _
  have hdeed : run.deed scenario stage = .reconcile label (scenario.requiredAssets label) := by
    simp [deed, intent, hpoint, hcalm.desk]
  -- The loads are tried in the same step, so the run may be past all of them at once.
  obtain ⟨moves, -, hfetch⟩ := fetch_goes scenario _ responder run _ label hbegun hequipped
    (.inl rfl)
  have hprospect : run.prospect scenario (Scenario.canShow fault?) stage.desk responder =
      fun n => ((scenario.reciteVisit (Scenario.canShow fault?) n label none responder
        (scenario.commands label)).prepend [] [] 1).prepend [] [] 1 := by
    funext n
    simp [prospect, hpoint, hcalm.desk, Recital.prepend_prepend]
  have hprinted : ((Deed.reconcile label (scenario.requiredAssets label)).events scenario
      stage).flatMap Console.display = [] := by
    simp [Deed.events, List.flatMap_map, Console.display]
  refine goesOn_of_deed hdeed ⟨1 + moves, fun hzero => by omega, ?_⟩
  rw [hprospect, hprinted]
  exact hfetch.behind [] 1

theorem goesOn_fetching {label : String} {batch : Batch}
    (h : run.Orderly scenario fault? stage fresh) (hpoint : run.point = .fetching label batch)
    (responder : Responder) : run.GoesOn scenario fault? fresh responder stage := by
  have hcalm := h.calm (by rw [awaits?, hpoint])
  have hequipped := h.equipped
  rw [hpoint] at hequipped
  obtain ⟨hhonest, hserves, hbatch⟩ := hequipped
  have hresumed : { stage with depot := (stage.depot.resume batch).1 }.Calm fault? := by
    refine ⟨hcalm.desk, hcalm.quiet, ?_⟩
    rw [← hcalm.faults]
    exact Depot.fault?_resume _ _
  -- Trying the loads again does not change which of them fail.
  have hfinished : ∀ load ∈ (stage.depot.resume batch).2.loads, load.Honest fault? := by
    rw [← hcalm.faults] at hbatch ⊢
    exact Load.honest_finishAll hbatch
  have hequipped : scenario.Equipped fault? (stage.depot.resume batch).1
      (.fetching label (stage.depot.resume batch).2) :=
    ⟨hhonest, hserves.resume, hfinished⟩
  have hdeed : run.deed scenario stage = .resume label batch := by
    simp [deed, intent, hpoint, hcalm.desk]
  obtain ⟨moves, hmoves, hfetch⟩ := fetch_goes scenario _ responder run _ label hresumed hequipped
    (.inr rfl)
  have hprospect : run.prospect scenario (Scenario.canShow fault?) stage.desk responder =
      fun n => (scenario.reciteVisit (Scenario.canShow fault?) n label none responder
        (scenario.commands label)).prepend [] [] 1 := by
    funext n
    simp [prospect, hpoint, hcalm.desk]
  refine goesOn_of_deed hdeed ⟨moves, fun hzero => ?_, ?_⟩
  · rw [carryOut, waits_fetch_waiting, hmoves hzero]
    rfl
  · rw [hprospect]
    exact hfetch

theorem goesOn_ready {label : String} {index : Nat} {next : Option String}
    (h : run.Orderly scenario fault? stage fresh) (hpoint : run.point = .ready label index next)
    (hindex : index < (scenario.commands label).length) (responder : Responder) :
    run.GoesOn scenario fault? fresh responder stage := by
  have hcalm := h.calm (by rw [awaits?, hpoint])
  have hstocks := h.equipped
  rw [hpoint] at hstocks
  have hdeed : run.deed scenario stage =
      .begin label index next (scenario.commands label)[index] := by
    simp [deed, intent, hpoint, hcalm.desk, hindex]
  -- A command that begins changes the status, so there is something to look at afterwards.
  have htrail : (run.trail scenario stage
      (.begin label index next (scenario.commands label)[index])).isEmpty = false := by
    unfold trail
    dsimp only
    split <;> rfl
  have hprospect : run.prospect scenario (Scenario.canShow fault?) stage.desk responder =
      fun n => scenario.reciteVisit (Scenario.canShow fault?) n label next responder
        ((scenario.commands label).drop index) := by
    funext n
    simp [prospect, hpoint, hcalm.desk]
  refine goesOn_of_deed hdeed ⟨1, by simp, ?_⟩
  rw [htrail, hprospect, Bool.not_false, Bool.or_true]
  exact begin_goes scenario responder run stage label index next hcalm hstocks
    (List.getElem?_eq_getElem hindex)

/-- **One step of a run goes on with its recital.** -/
theorem Orderly.goesOn {entry : String} {trail : List Status}
    (h : run.Orderly scenario fault? stage fresh) (habides : run.Abides scenario entry trail)
    (hentry : scenario.commands entry ≠ []) (responder : Responder) :
    run.GoesOn scenario fault? fresh responder stage := by
  obtain ⟨own, point⟩ := run
  cases point with
  | created =>
    obtain ⟨rfl, -⟩ := habides
    exact goesOn_created h rfl hentry responder
  | opening => exact goesOn_opening h rfl responder
  | arriving label required =>
    obtain ⟨rfl, -⟩ := habides
    exact goesOn_arriving h rfl responder
  | fetching label batch => exact goesOn_fetching h rfl responder
  | ready label index next => exact goesOn_ready h rfl habides.1 responder
  | reading label index next => exact goesOn_reading h rfl responder
  | choosing label index targets => exact goesOn_choosing h rfl responder

end

/-! ### Answers -/

section

variable (scenario : Scenario) (present : String → Bool) {run : Run} {desk : Desk} {label : String}
  {index : Nat}

/-- What a line of text takes from the input is sent as its answer. -/
theorem prospect_reading {next : Option String} (hpoint : run.point = .reading label index next)
    (hdesk : desk = { inbox := some [] }) (responder : Responder) (n : Nat) :
    let control : Control := if responder.readLine.1 then .signal .advance else .stop
    run.prospect scenario present desk responder n =
      (run.prospect scenario present (desk.apply control) responder.readLine.2 n).prepend []
        [control] 0 := by
  rcases hread : responder.readLine with ⟨answered, rest⟩
  cases answered <;>
    simp [prospect, hpoint, hdesk, Desk.apply, Desk.pending, Recital.awaitLine, hread,
      Recital.prepend]

/-- What a choice takes from the input is sent as its answer. -/
theorem prospect_choosing {targets : List String}
    (hpoint : run.point = .choosing label index targets) (hdesk : desk = { inbox := some [] })
    (responder : Responder) (n : Nat) :
    let read := responder.readOption targets.length
    let control : Control := (read.1.map fun i => .signal (.choose i)).getD .stop
    run.prospect scenario present desk responder n =
      (run.prospect scenario present (desk.apply control) read.2 n).prepend [] [control] 0 := by
  rcases hread : responder.readOption targets.length with ⟨answer, rest⟩
  cases answer <;>
    simp [prospect, hpoint, hdesk, Desk.apply, Desk.pending, Recital.awaitOption, hread,
      Recital.prepend]

end

end Run

end Storyboard
