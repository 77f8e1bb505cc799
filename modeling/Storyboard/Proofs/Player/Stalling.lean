import Storyboard.Proofs.Player.Acknowledgement
import Storyboard.Proofs.Player.Itinerary
import Storyboard.Proofs.Player.Loading

/-!
# Why a run stalls

A run that was let go on until it has to wait stalls, and its status shows what it waits for: the
loading switch while it starts, a load while assets are preloaded, the pause switch between two
commands, and the reader in the middle of a command (`Stage.Hindered`). Each of these holds up the
run where it is and nowhere else.

A step has to wait exactly if the stop switch is off and what the point of the run asks for has not
come (`Run.waits_step_iff`); the itinerary of the run ties the point to the status.
-/

namespace Storyboard

/-! ### Loads that cannot finish -/

namespace Load

theorem gated_finish (store : Store) (load : Load) :
    (load.finish store).1.gated = store.gated := by
  unfold finish
  split
  · rfl
  · split <;> rfl

theorem gated_finishAll (store : Store) (loads : List Load) :
    (finishAll store loads).1.gated = store.gated := by
  induction loads generalizing store with
  | nil => rfl
  | cons load rest ih => exact (ih _).trans (gated_finish store load)

/-- A load is still under way after it was let finish exactly if it was under way and its gate is
closed; then nothing has happened to it. -/
theorem eq_finish_iff (store : Store) (first load : Load) :
    load = (first.finish store).2 ∧ load.isDone = false ↔
      load = first ∧ load.isDone = false ∧ store.gated load.name = true := by
  unfold finish
  split
  · next hstays =>
    constructor
    · rintro ⟨rfl, hdone⟩
      rw [hdone, Bool.false_or] at hstays
      exact ⟨rfl, hdone, hstays⟩
    · rintro ⟨rfl, hdone, -⟩
      exact ⟨rfl, hdone⟩
  · next hgoes =>
    -- A load that is let finish is done, whether it succeeds or fails.
    refine iff_of_false ?_ ?_
    · rintro ⟨rfl, hdone⟩
      split at hdone <;> cases hdone
    · rintro ⟨rfl, hdone, hgated⟩
      exact hgoes (by rw [hgated, Bool.or_true])

/-- **The loads that are still under way** are those whose gates are closed. -/
theorem mem_finishAll_iff (store : Store) (loads : List Load) (load : Load) :
    load ∈ (finishAll store loads).2 ∧ load.isDone = false ↔
      load ∈ loads ∧ load.isDone = false ∧ store.gated load.name = true := by
  induction loads generalizing store with
  | nil => simp [finishAll]
  | cons first rest ih =>
    simp only [finishAll, List.mem_cons, or_and_right, eq_finish_iff, ih, gated_finish]

end Load

theorem Depot.isDone_resume_iff (depot : Depot) (batch : Batch) :
    (depot.resume batch).2.isDone = false ↔
      ∃ load ∈ batch.loads, load.isDone = false ∧ depot.store.gated load.name = true := by
  have hundone : (depot.resume batch).2.isDone = false ↔
      ∃ load ∈ (Load.finishAll depot.store batch.loads).2, load.isDone = false := by
    simp [resume, Batch.isDone]
  rw [hundone]
  exact exists_congr fun load => Load.mem_finishAll_iff ..

/-- Letting loads finish a second time changes nothing about whether they all have. -/
theorem Depot.isDone_resume_resume {depot : Depot} {batch : Batch}
    (h : (depot.resume batch).2.isDone = false) :
    ((depot.resume batch).1.resume (depot.resume batch).2).2.isDone = false := by
  have hgated : (depot.resume batch).1.store.gated = depot.store.gated :=
    Load.gated_finishAll _ _
  rw [isDone_resume_iff] at h ⊢
  obtain ⟨load, hload, hdone, hclosed⟩ := h
  refine ⟨load, ((Load.mem_finishAll_iff ..).2 ⟨hload, hdone, hclosed⟩).1, hdone, ?_⟩
  rwa [hgated]

/-! ### Steps that have to wait -/

/-- Whether the run has to wait. -/
def Progress.waits : Progress → Bool
  | waiting _ _ => true
  | _ => false

namespace Run

/-- What the run waits for at the point where it is has not come. -/
def Held (stage : Stage) (run : Run) : Prop :=
  match run.point with
  | .opening => stage.desk.loading = true
  | .fetching _ batch => (stage.depot.resume batch).2.isDone = false
  | .ready _ _ _ => stage.desk.paused = true
  | .reading _ _ _ => .advance ∉ stage.desk.kept
  | .choosing _ _ targets => (firstChoice targets.length stage.desk.kept).1 = none
  | _ => False

theorem deed_of_not_stopped {scenario : Scenario} {stage : Stage} (run : Run)
    (h : stage.desk.stopped = false) : run.deed scenario stage = run.intent scenario stage := by
  rw [deed, h]
  rfl

section

variable (scenario : Scenario) (run : Run) (stage : Stage) (label : String) (index : Nat)
  (next : Option String)

theorem waits_leave : (run.leave scenario stage label next).waits = false := by
  obtain ⟨target, -, h⟩ | ⟨-, notices, h⟩ := leave_cases scenario run stage label next
  · rw [h]
    rfl
  · rw [h]
    rfl

theorem waits_approach : (run.approach scenario stage label index next).waits = false := by
  obtain ⟨-, h⟩ | ⟨-, h⟩ := approach_cases scenario run stage label index next
  · rw [h]
    rfl
  · rw [h, waits_leave]

theorem waits_fetch_waiting (batch : Batch) :
    (run.fetch scenario stage label batch .waiting).waits = !batch.isDone := by
  unfold fetch
  cases batch.isDone with
  | true => exact waits_approach ..
  | false => rfl

theorem waits_fetch_moved (batch : Batch) :
    (run.fetch scenario stage label batch .moved).waits = false := by
  unfold fetch
  split
  · exact waits_approach ..
  · rfl

theorem waits_begin (command : Command) :
    (run.begin scenario stage label index next command).waits = false := by
  rw [begin_eq]
  cases scenario.flow command with
  | proceed => exact waits_approach ..
  | goto target => exact waits_approach ..
  | awaitLine => rfl
  | awaitSelection targets => rfl

/-- **A step has to wait** exactly if the stop switch is off and what the run waits for has not
come. -/
theorem waits_step_iff :
    (run.step scenario stage).waits = true ↔ stage.desk.stopped = false ∧ run.Held stage := by
  rw [step_eq_carryOut]
  cases hstopped : stage.desk.stopped with
  | true =>
    -- With the stop switch on, the step ends the run: it is stopped or refused.
    refine iff_of_false ?_ nofun
    obtain hdeed | hdeed := deed_of_stopped scenario run stage hstopped
    · rw [hdeed]
      nofun
    · rw [hdeed]
      nofun
  | false =>
    rw [deed_of_not_stopped run hstopped, eq_self, true_and]
    obtain ⟨entry, point⟩ := run
    unfold intent Held
    -- At each point the step waits on the very condition that holds the run there.
    cases point with
    | created =>
      refine iff_of_false ?_ not_false
      dsimp only
      split <;> nofun
    | opening =>
      dsimp only
      split
      · next hloading => exact iff_of_true rfl hloading
      · next hloading => exact iff_of_false nofun hloading
    | arriving label required =>
      refine iff_of_false ?_ not_false
      dsimp only [carryOut]
      rw [waits_fetch_moved]
      nofun
    | fetching label batch =>
      dsimp only [carryOut]
      rw [waits_fetch_waiting, Bool.not_eq_true']
    | ready label index next =>
      dsimp only
      split
      · next hpaused => exact iff_of_true rfl hpaused
      · next hpaused =>
        refine iff_of_false ?_ hpaused
        split
        · dsimp only [carryOut]
          rw [waits_begin]
          nofun
        · dsimp only [carryOut]
          rw [waits_leave]
          nofun
    | reading label index next =>
      dsimp only
      split
      · next hadvance =>
        refine iff_of_false ?_ (not_not_intro hadvance)
        dsimp only [carryOut, pass]
        rw [waits_approach]
        nofun
      · next hadvance => exact iff_of_true rfl hadvance
    | choosing label index targets =>
      dsimp only
      split
      · next answer hchosen =>
        refine iff_of_false ?_ (by rw [hchosen]; nofun)
        dsimp only [carryOut, pass]
        rw [waits_approach]
        nofun
      · next hchosen => exact iff_of_true rfl hchosen

/-- A run that has waited has to wait again, if nothing happens in between. -/
theorem waits_again {stage stage' : Stage} {run run' : Run}
    (h : run.step scenario stage = .waiting stage' run') :
    (run'.step scenario stage').waits = true := by
  have hwaits : (run.step scenario stage).waits = true := by rw [h]; rfl
  obtain ⟨hstopped, hheld⟩ := (waits_step_iff ..).1 hwaits
  -- A poll empties the inbox, so a second one finds nothing at all.
  have hkept : ∀ after : Stage, after.desk.inbox = stage.desk.inbox.map (fun _ => []) →
      after.desk.kept = [] := by
    intro after hinbox
    rw [Desk.kept, Desk.pending, hinbox]
    cases stage.desk.inbox <;> exact List.drop_nil
  rw [step_eq_carryOut, deed_of_not_stopped run hstopped] at h
  rw [waits_step_iff]
  obtain ⟨entry, point⟩ := run
  unfold intent at h
  unfold Held at hheld
  cases point with
  | created => cases hheld
  | arriving label required => cases hheld
  | opening =>
    dsimp only at h hheld
    rw [if_pos hheld] at h
    cases h
    exact ⟨hstopped, hheld⟩
  | fetching label batch =>
    -- The loads that are left have closed gates, and only the host opens gates.
    dsimp only [carryOut, fetch] at h hheld
    rw [if_neg (Bool.not_eq_true _ ▸ hheld)] at h
    cases h
    exact ⟨hstopped, Depot.isDone_resume_resume hheld⟩
  | ready label index next =>
    dsimp only at h hheld
    rw [if_pos hheld] at h
    cases h
    exact ⟨hstopped, hheld⟩
  | reading label index next =>
    dsimp only at h hheld
    rw [if_neg hheld] at h
    cases h
    refine ⟨(stopped_takeSignals stage).trans hstopped, ?_⟩
    unfold Held
    rw [hkept _ (inbox_takeSignals stage)]
    exact List.not_mem_nil
  | choosing label index targets =>
    dsimp only at h hheld
    rw [hheld] at h
    cases h
    refine ⟨(stopped_takeSignals stage).trans hstopped, ?_⟩
    unfold Held
    rw [hkept _ (inbox_takeAnswers stage targets)]
    rfl

end

/-! ### Acknowledgements -/

section

variable {scenario : Scenario} {stage : Stage} {run : Run} {label : String} {index : Nat}
  {flow : Flow}

theorem accepts_awaitLine_iff (signals : List Signal) :
    (∃ signal ∈ signals, Flow.awaitLine.accepts signal = true) ↔ .advance ∈ signals := by
  simp [Flow.accepts]

theorem accepts_awaitSelection_iff (targets : List String) (signals : List Signal) :
    (∃ signal ∈ signals, (Flow.awaitSelection targets).accepts signal = true) ↔
      (firstChoice targets.length signals).1 ≠ none := by
  rw [firstChoice_eq_findSome?, Ne, List.findSome?_eq_none_iff]
  simp [Flow.accepts, Option.isSome_iff_ne_none]

/-- **The wait of a command ends** exactly if a signal is there that it accepts. The pause switch
has no part in it. -/
theorem settles_iff (hawaits : run.awaits? = some (label, index, flow))
    (hstopped : stage.desk.stopped = false) :
    (run.deed scenario stage).settles = true ↔
      ∃ signal ∈ stage.desk.kept, flow.accepts signal = true := by
  rw [deed_of_not_stopped run hstopped]
  obtain ⟨entry, point⟩ := run
  unfold intent
  cases point with
  | reading place position next =>
    cases hawaits
    rw [accepts_awaitLine_iff]
    dsimp only
    split
    · next hadvance => exact iff_of_true rfl hadvance
    · next hadvance => exact iff_of_false nofun hadvance
  | choosing place position targets =>
    cases hawaits
    rw [accepts_awaitSelection_iff]
    dsimp only
    split
    · next answer hchosen => exact iff_of_true rfl (by rw [hchosen]; nofun)
    · next hchosen => exact iff_of_false nofun (not_not_intro hchosen)
  -- Elsewhere no command waits.
  | _ => cases hawaits

/-- A run in the middle of a command is held exactly if no signal is there that the command
accepts. -/
theorem held_iff_of_awaits (hawaits : run.awaits? = some (label, index, flow)) :
    run.Held stage ↔ ∀ signal ∈ stage.desk.kept, flow.accepts signal = false := by
  -- To be held means that none of the signals is accepted.
  have hvain : (∀ signal ∈ stage.desk.kept, flow.accepts signal = false) ↔
      ¬ ∃ signal ∈ stage.desk.kept, flow.accepts signal = true := by
    simp
  rw [hvain]
  obtain ⟨entry, point⟩ := run
  cases point with
  | reading place position next =>
    cases hawaits
    exact (not_congr (accepts_awaitLine_iff _)).symm
  | choosing place position targets =>
    cases hawaits
    exact ((not_congr (accepts_awaitSelection_iff _ _)).trans not_ne_iff).symm
  | _ => cases hawaits

end

end Run

/-! ### What the status shows -/

/-- What holds up a run, as the status shows it. -/
inductive Stage.Hindered (scenario : Scenario) (stage : Stage) (run : Run) : Prop
  /-- While the run starts, the loading switch is on. -/
  | loading (hphase : stage.status.phase = .starting) (hloading : stage.desk.loading = true)
  /-- While assets are preloaded, a load of the reconciliation under way has not finished and
  cannot, because its gate is closed. -/
  | load (hphase : stage.status.phase = .preloading) {label : String} {batch : Batch}
      (hpoint : run.point = .fetching label batch) {load : Load} (hload : load ∈ batch.loads)
      (hdone : load.isDone = false) (hgated : stage.depot.store.gated load.name = true)
  /-- While a label is played and no command waits, the pause switch is on. -/
  | pause (hphase : stage.status.phase = .running) (hsuspension : stage.status.suspension = .none)
      (hpaused : stage.desk.paused = true)
  /-- A command waits for the reader, and no signal is there that it accepts. -/
  | reader (hsuspension : stage.status.suspension = .line ∨ stage.status.suspension = .selection)
      {label : String} {index : Nat} {command : Command} (hlabel : stage.status.label = some label)
      (hindex : stage.status.index = some index)
      (hcommand : (scenario.commands label)[index]? = some command)
      (hvain : ∀ signal ∈ stage.desk.kept, (scenario.flow command).accepts signal = false)

namespace Stage

section

variable {scenario : Scenario} {stage : Stage} {run : Run}

theorem hindered_starting_iff (hphase : stage.status.phase = .starting)
    (hnone : stage.status.suspension = .none) :
    stage.Hindered scenario run ↔ stage.desk.loading = true := by
  refine ⟨fun h => ?_, .loading hphase⟩
  cases h with
  | loading _ hloading => exact hloading
  | load hother => cases hphase.symm.trans hother
  | pause hother => cases hphase.symm.trans hother
  | reader hsuspension =>
    rw [hnone] at hsuspension
    obtain h | h := hsuspension <;> cases h

theorem hindered_preloading_iff (hphase : stage.status.phase = .preloading)
    (hnone : stage.status.suspension = .none) :
    stage.Hindered scenario run ↔ ∃ label batch, run.point = .fetching label batch ∧
      ∃ load ∈ batch.loads, load.isDone = false ∧ stage.depot.store.gated load.name = true := by
  constructor
  · intro h
    cases h with
    | loading hother => cases hphase.symm.trans hother
    | load _ hpoint hload hdone hgated => exact ⟨_, _, hpoint, _, hload, hdone, hgated⟩
    | pause hother => cases hphase.symm.trans hother
    | reader hsuspension =>
      rw [hnone] at hsuspension
      obtain h | h := hsuspension <;> cases h
  · rintro ⟨label, batch, hpoint, load, hload, hdone, hgated⟩
    exact .load hphase hpoint hload hdone hgated

theorem hindered_running_iff (hphase : stage.status.phase = .running)
    (hnone : stage.status.suspension = .none) :
    stage.Hindered scenario run ↔ stage.desk.paused = true := by
  refine ⟨fun h => ?_, .pause hphase hnone⟩
  cases h with
  | loading hother => cases hphase.symm.trans hother
  | load hother => cases hphase.symm.trans hother
  | pause _ _ hpaused => exact hpaused
  | reader hsuspension =>
    rw [hnone] at hsuspension
    obtain h | h := hsuspension <;> cases h

theorem hindered_waiting_iff {label : String} {index : Nat} {command : Command}
    {suspension : Suspension}
    (hstatus : stage.status = (Status.onCommand label index).suspend suspension)
    (hsuspension : suspension = .line ∨ suspension = .selection)
    (hcommand : (scenario.commands label)[index]? = some command) :
    stage.Hindered scenario run ↔
      ∀ signal ∈ stage.desk.kept, (scenario.flow command).accepts signal = false := by
  constructor
  · intro h
    -- Each hindrance shows in the status, and this status shows that of a reader.
    cases h with
    | loading hother =>
      rw [hstatus] at hother
      cases hother
    | load hother =>
      rw [hstatus] at hother
      cases hother
    | pause _ hother =>
      rw [hstatus] at hother
      cases (hother : suspension = .none)
      obtain h | h := hsuspension <;> cases h
    | reader _ hlabel hindex hother hvain =>
      rw [hstatus] at hlabel hindex
      cases hlabel
      cases hindex
      cases hcommand.symm.trans hother
      exact hvain
  · refine .reader ?_ ?_ ?_ hcommand
    · rw [hstatus]
      exact hsuspension
    · rw [hstatus]
      rfl
    · rw [hstatus]
      rfl

end

end Stage

/-- **A run that has begun is held exactly by what its status shows.** -/
theorem Run.held_iff_hindered {scenario : Scenario} {stage : Stage} {run : Run} {entry : String}
    {trail : List Status} (habides : run.Abides scenario entry trail)
    (hstatus : ∀ status, run.status? = some status → stage.status = status)
    (hbegun : run.hasBegun = true) : run.Held stage ↔ stage.Hindered scenario run := by
  obtain ⟨own, point⟩ := run
  cases point with
  | created => cases hbegun
  | opening =>
    have hnow := hstatus _ rfl
    exact (Stage.hindered_starting_iff (by rw [hnow]; rfl) (by rw [hnow]; rfl)).symm
  | arriving label required =>
    have hnow := hstatus _ rfl
    rw [Stage.hindered_preloading_iff (by rw [hnow]; rfl) (by rw [hnow]; rfl)]
    -- A run that has just arrived is preloading and does not wait yet: it has no batch.
    refine iff_of_false not_false ?_
    rintro ⟨place, batch, hpoint, -⟩
    cases hpoint
  | fetching label batch =>
    have hnow := hstatus _ rfl
    rw [Stage.hindered_preloading_iff (by rw [hnow]; rfl) (by rw [hnow]; rfl)]
    refine (Depot.isDone_resume_iff _ _).trans ⟨fun h => ⟨label, batch, rfl, h⟩, ?_⟩
    rintro ⟨place, loads, hpoint, h⟩
    cases hpoint
    exact h
  | ready label index next =>
    have hnow : stage.status.phase = .running ∧ stage.status.suspension = .none := by
      cases index <;> rw [hstatus _ rfl] <;> exact ⟨rfl, rfl⟩
    exact (Stage.hindered_running_iff hnow.1 hnow.2).symm
  | reading label index next =>
    -- The itinerary names the command that the status shows.
    obtain ⟨-, command, hcommand, hflow, -⟩ := habides
    rw [Stage.hindered_waiting_iff (hstatus _ rfl) (.inl rfl) hcommand, hflow]
    exact held_iff_of_awaits rfl
  | choosing label index targets =>
    obtain ⟨command, hcommand, hflow, -⟩ := habides
    rw [Stage.hindered_waiting_iff (hstatus _ rfl) (.inr rfl) hcommand, hflow]
    exact held_iff_of_awaits rfl

/-! ### Sessions that stall -/

/-- **No command begins while the pause switch is on.** -/
theorem Moment.paused_of_command {moment : Moment} {command : Command}
    (h : moment.deed.bind Deed.command? = some command) :
    moment.session.stage.desk.paused = false := by
  obtain ⟨deed, hdeed, hcommand⟩ := Option.bind_eq_some_iff.1 h
  obtain ⟨run, -, -, rfl⟩ := exists_run_of_deed hdeed
  cases hbegin : run.deed moment.session.scenario moment.session.stage with
  | begin place index next begun => exact (Run.ready_of_begin hbegin).2.1
  | _ =>
    rw [hbegin] at hcommand
    cases hcommand

namespace Session

/-- There is a run in progress, and its next step has to wait. -/
def Stalled (session : Session) : Prop :=
  ∃ run, session.run = some run ∧ (run.step session.scenario session.stage).waits = true

/-- A run that was let go on until it has to wait has taken steps, and stalls. -/
theorem exists_steps_of_waiting {session : Session} {fuel : Nat} {run run' : Run} {stage : Stage}
    (hrun : session.run = some run)
    (h : run.proceed session.scenario fuel session.stage = .waiting stage run') :
    Stalled { session with stage, run := some run' } ∧
      ∃ n, session.after (List.replicate n .step) = { session with stage, run := some run' } := by
  induction fuel generalizing session run with
  | zero => cases h
  | succ fuel ih =>
    have hturn := turn_step session hrun
    rw [Run.proceed] at h
    cases hstep : run.step session.scenario session.stage with
    | ended after outcome =>
      rw [hstep] at h
      cases h
    | waiting after other =>
      rw [hstep] at h hturn
      cases h
      -- The step that waited leaves a run that would have to wait again.
      refine ⟨⟨run', rfl, Run.waits_again _ hstep⟩, 1, ?_⟩
      rw [List.replicate_one, after_cons, after_nil, hturn]
      rfl
    | moved after other =>
      rw [hstep] at h hturn
      have hother : { session with stage := after, run := some other }.run = some other := rfl
      obtain ⟨hstalled, n, hn⟩ := ih hother h
      refine ⟨hstalled, n + 1, ?_⟩
      rw [List.replicate_succ, after_cons, hturn]
      exact hn

theorem stalled_iff (session : Session) (label : Option String) (turns : List Turn) :
    let now := (session.create label).after turns
    now.Stalled ↔ ∃ run, now.run = some run ∧ run.hasBegun = true ∧
      now.stage.desk.stopped = false ∧ now.stage.Hindered session.scenario run := by
  intro now
  have htravels := travels session label turns
  have hscenario : now.scenario = session.scenario := after_scenario _ turns
  refine exists_congr fun run => and_congr_right fun hrun => ?_
  rw [Run.waits_step_iff]
  have hheld : run.hasBegun = true →
      (run.Held now.stage ↔ now.stage.Hindered session.scenario run) :=
    Run.held_iff_hindered (htravels.abides hrun).2 fun status => htravels.status hrun
  constructor
  · rintro ⟨hstopped, h⟩
    -- Nothing holds a run that was only created.
    have hbegun : run.hasBegun = true := by
      obtain ⟨entry, point⟩ := run
      cases point with
      | created => cases h
      | _ => rfl
    exact ⟨hbegun, hstopped, (hheld hbegun).1 h⟩
  · rintro ⟨hbegun, hstopped, h⟩
    exact ⟨hstopped, (hheld hbegun).2 h⟩

/-- **A run stalls for exactly the reason that its status shows**, whatever the host does and in
whatever order. The next step of a run has to wait exactly if the run has begun, the stop switch is
off, and the run is held up by what its status shows; so it is with a run that was let go on until
it has to wait. Whether the wait of a command ends is a matter of the signals alone and not of the
pause switch, but no command begins while that switch is on. Once a run has come to its first label,
using the loading switch makes no difference to anything but the switch itself; and no command
begins, nothing is loaded and nothing is released in a run before it has found that switch off after
its start. -/
theorem stalls_as_status_shows (session : Session) (label : Option String) (turns : List Turn) :
    let start := session.create label
    let now := start.after turns
    (now.Stalled ↔ ∃ run, now.run = some run ∧ run.hasBegun = true ∧
      now.stage.desk.stopped = false ∧ now.stage.Hindered session.scenario run) ∧
    (∀ fuel run stage run', now.run = some run →
      run.proceed session.scenario fuel now.stage = .waiting stage run' →
      stage.desk.stopped = false ∧ stage.Hindered session.scenario run' ∧
        Stalled { now with stage, run := some run' }) ∧
    (∀ run place index flow, now.run = some run → run.awaits? = some (place, index, flow) →
      now.stage.desk.stopped = false →
      (Moment.settles ⟨now, .step⟩ = true ↔
        ∃ signal ∈ now.stage.desk.kept, flow.accepts signal = true)) ∧
    (now.Arrived → ∀ on rest,
      let other := (now.request (.control (.loading on))).1
      (other.after rest).mask = (now.after rest).mask ∧ other.ending rest = now.ending rest) ∧
    ∀ past moment late, start.history turns = past ++ moment :: late →
      (∀ command, moment.deed.bind Deed.command? = some command →
        moment.session.stage.desk.paused = false) ∧
      (moment.begins = true ∨ moment.turn = .step ∧ (∃ asset, .asset asset ∈ moment.events) →
        Opened past) := by
  intro start now
  have hscenario : now.scenario = session.scenario := after_scenario _ turns
  refine ⟨stalled_iff session label turns, ?_, ?_, ?_, ?_⟩
  · intro fuel run stage run' hrun hproceed
    rw [← hscenario] at hproceed
    -- To let a run go on is to take steps, so this is one more history.
    obtain ⟨hstalled, n, hn⟩ := exists_steps_of_waiting hrun hproceed
    have hafter : start.after (turns ++ List.replicate n .step) =
        { now with stage, run := some run' } := (start.after_append turns _).trans hn
    have hreason := stalled_iff session label (turns ++ List.replicate n .step)
    simp only at hreason
    rw [hafter] at hreason
    obtain ⟨other, hother, -, hstopped, hhindered⟩ := hreason.1 hstalled
    cases hother
    exact ⟨hstopped, hhindered, hstalled⟩
  · intro run place index flow hrun hawaits hstopped
    have hdeed : Moment.deed ⟨now, .step⟩ = some (run.deed now.scenario now.stage) := by
      simp only [Moment.deed, hrun]
    rw [Moment.settles, hdeed]
    exact Run.settles_iff hawaits hstopped
  · intro harrived on rest other
    -- Both sessions are the same with the switch masked.
    have hmask : other.mask = now.mask := rfl
    have hother : other.Arrived := harrived
    obtain ⟨hafter, hending⟩ := harrived.mask_after rest
    obtain ⟨hafter', hending'⟩ := hother.mask_after rest
    rw [hmask] at hafter' hending'
    exact ⟨hafter'.symm.trans hafter, hending'.symm.trans hending⟩
  · intro past moment late hhistory
    obtain ⟨first, rest, -, rfl, hsession, -⟩ := start.exists_turns_of_history hhistory
    constructor
    · exact fun command => Moment.paused_of_command
    · intro h
      -- Assets come and go in a reconciliation, which only a run that has arrived begins.
      have hbegins : moment.begins = true := by
        obtain hbegins | ⟨hturn, asset, hasset⟩ := h
        · exact hbegins
        · exact Moment.begins_of_asset hturn hasset
      obtain ⟨run, hrun, harrived⟩ := Moment.hasArrived_of_begins hbegins
      rw [hsession] at hrun
      exact (admitted_after session label first run hrun).opened harrived

end Session

end Storyboard
