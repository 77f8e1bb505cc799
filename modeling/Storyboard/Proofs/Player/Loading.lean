import Storyboard.Proofs.Player.Point
import Mathlib.Data.List.Induction

/-!
# The loading switch

The loading switch holds back the first assets of a run. A run looks at it in one place only, after
it has begun and before it comes to its first label. So nothing is loaded, released or performed in
a run before the switch was found off after the run had begun (`Run.Admitted`), and from the first
label on the switch has no effect at all (`Session.Arrived.mask_after`).

The second part is a matter of two sessions that differ in the switch only. Both are compared with
the switch masked: whatever happens to a stage, to a run or to a session, masking the switch before
makes no difference to what is left when the switch is masked after.
-/

namespace Storyboard

/-! ### Masking the switch -/

/-- The desk with the loading switch masked. -/
def Desk.mask (desk : Desk) : Desk := { desk with loading := false }

/-- The stage with the loading switch masked. -/
def Stage.mask (stage : Stage) : Stage := { stage with desk := stage.desk.mask }

/-- The progress with the loading switch masked. -/
def Progress.mask : Progress → Progress
  | waiting stage run => waiting stage.mask run
  | moved stage run => moved stage.mask run
  | ended stage outcome => ended stage.mask outcome

/-- The session with the loading switch masked. -/
def Session.mask (session : Session) : Session := { session with stage := session.stage.mask }

namespace Desk

theorem mask_apply (desk : Desk) (control : Control) :
    (desk.mask.apply control).mask = (desk.apply control).mask := by
  cases control <;> rfl

theorem mask_applyAll (desk : Desk) (controls : List Control) :
    (desk.mask.applyAll controls).mask = (desk.applyAll controls).mask := by
  induction controls generalizing desk with
  | nil => rfl
  | cons control rest ih =>
    -- After a control both desks are the same with the switch masked, so the rest does the same.
    have hrest := ih (desk.mask.apply control)
    rw [mask_apply, ih] at hrest
    exact hrest.symm

end Desk

namespace Stage

theorem note_mask (stage : Stage) (notices : List Notice) :
    stage.mask.note notices = (stage.note notices).mask := rfl

theorem mask_mask (stage : Stage) : stage.mask.mask = stage.mask := rfl

theorem mask_emit (stage : Stage) (event : Event) :
    (stage.mask.emit event).mask = (stage.emit event).mask :=
  congrArg (fun desk => { stage.emit event with desk })
    (stage.desk.mask_applyAll (stage.reaction event))

theorem mask_emitAll (stage : Stage) (events : List Event) :
    (stage.mask.emitAll events).mask = (stage.emitAll events).mask := by
  induction events generalizing stage with
  | nil => rfl
  | cons event rest ih =>
    have hrest := ih (stage.mask.emit event)
    rw [mask_emit, ih] at hrest
    exact hrest.symm

theorem mask_onDepot (stage : Stage) (result : Depot × List AssetEvent) :
    (stage.mask.onDepot result).mask = (stage.onDepot result).mask :=
  mask_emitAll { stage with depot := result.1 } (result.2.map .asset)

end Stage

theorem Scenario.mask_say (scenario : Scenario) (speaker : Option Speaker) (words : String)
    (stage : Stage) :
    (scenario.say speaker words stage.mask).mask = (scenario.say speaker words stage).mask := by
  simp only [say, Stage.note_mask, Stage.mask_emit]

theorem Scenario.mask_present (character : Character) (layer : String) (place : Location)
    (stage : Stage) :
    (present character layer place stage.mask).mask =
      (present character layer place stage).mask := by
  have hdepot : stage.mask.depot = stage.depot := rfl
  unfold present
  rw [hdepot]
  split
  · exact Stage.mask_emit ..
  · rfl

/-- Performing a command does not depend on the switch. -/
theorem Scenario.mask_perform (scenario : Scenario) (stage : Stage) (command : Command) :
    (scenario.perform stage.mask command).1.mask = (scenario.perform stage command).1.mask := by
  cases command with
  | text words place => simp only [perform, mask_say]
  | jump target place => rfl
  | choice options place => simp only [perform, Stage.note_mask, Stage.mask_emit]
  | character id hides layer words place =>
    cases hc : scenario.character? id with
    | none => simp only [perform, hc, Stage.note_mask, Stage.mask_mask]
    | some character =>
      simp only [perform, hc]
      -- Whether the character is hidden or shown comes before what it says.
      have happear : (if hides then stage.mask.emit (.hide layer)
            else present character layer place stage.mask).mask =
          (if hides then stage.emit (.hide layer)
            else present character layer place stage).mask := by
        cases hides with
        | true => exact Stage.mask_emit ..
        | false => exact mask_present ..
      cases words with
      | none => exact happear
      | some words =>
        dsimp only
        rw [← mask_say, happear, mask_say]

namespace Run

section

variable (scenario : Scenario) (run : Run) (stage : Stage) (label : String) (index : Nat)
  (next : Option String)

theorem mask_complete : (complete stage.mask label).mask = (complete stage label).mask :=
  congrArg (fun after : Stage => Progress.ended (after.note [.ended label]).tidy (.completed label))
    (Stage.mask_emit (stage.withStatus (.enter .ending label)) .finish)

theorem mask_leave :
    (run.leave scenario stage.mask label next).mask =
      (run.leave scenario stage label next).mask := by
  unfold leave
  split
  · exact mask_complete ..
  · split
    · rfl
    · exact mask_complete (stage.note _) label

theorem mask_approach :
    (run.approach scenario stage.mask label index next).mask =
      (run.approach scenario stage label index next).mask := by
  unfold approach
  split
  · rfl
  · exact mask_leave ..

theorem mask_pass :
    (run.pass scenario stage.mask label index next).mask =
      (run.pass scenario stage label index next).mask :=
  mask_approach scenario run (stage.withStatus (stage.status.suspend .none)).closeInbox ..

theorem mask_fetch (batch : Batch) {pending : Stage → Run → Progress}
    (hpending : pending = .moved ∨ pending = .waiting) :
    (run.fetch scenario stage.mask label batch pending).mask =
      (run.fetch scenario stage label batch pending).mask := by
  unfold fetch
  split
  · exact mask_approach scenario run
      (({ stage with depot := stage.depot.settle batch }.note batch.notices).withStatus
        (.enter .running label) |>.note [.running label]) ..
  · obtain rfl | rfl := hpending <;> rfl

theorem mask_begin (command : Command) :
    (run.begin scenario stage.mask label index next command).mask =
      (run.begin scenario stage label index next command).mask := by
  -- The command is performed alike; what comes behind it is a function of that stage.
  have hperformed : (performed scenario stage.mask index command).mask =
      (performed scenario stage index command).mask :=
    scenario.mask_perform (stage.withStatus (stage.status.atCommand index)).openInbox command
  rw [begin_eq, begin_eq]
  cases scenario.flow command with
  | proceed =>
    dsimp only
    rw [← mask_pass, hperformed, mask_pass]
  | goto target =>
    dsimp only
    rw [← mask_pass, hperformed, mask_pass]
  | awaitLine =>
    exact congrArg (fun after : Stage => Progress.moved
      (after.withStatus (after.status.suspend .line)) _) hperformed
  | awaitSelection targets =>
    exact congrArg (fun after : Stage => Progress.moved
      (after.withStatus (after.status.suspend .selection)) _) hperformed

theorem takeSignals_mask : takeSignals stage.mask = (takeSignals stage).mask := by
  have hlost : stage.mask.desk.lost = stage.desk.lost := rfl
  unfold takeSignals
  rw [hlost]
  split <;> rfl

theorem takeAnswers_mask (targets : List String) :
    takeAnswers stage.mask targets = (takeAnswers stage targets).mask := by
  rw [takeAnswers, takeSignals_mask]
  rfl

/-- **What a deed leaves does not depend on the switch.** -/
theorem mask_carryOut (deed : Deed) :
    (run.carryOut scenario stage.mask deed).mask = (run.carryOut scenario stage deed).mask := by
  -- No deed looks at the switch, so the mask can be moved behind whatever the deed does.
  cases deed with
  | start =>
    exact congrArg (fun after => Progress.moved after { run with point := .opening })
      (Stage.mask_emit ((stage.withStatus (.enter .starting run.entry)).note [.starting run.entry])
        .start)
  | reconcile label required =>
    have hdepot : stage.mask.depot = stage.depot := rfl
    rw [carryOut, carryOut, hdepot]
    rw [← mask_fetch _ _ _ _ _ (.inl rfl), Stage.mask_onDepot, mask_fetch _ _ _ _ _ (.inl rfl)]
  | resume label batch =>
    exact mask_fetch scenario run { stage with depot := (stage.depot.resume batch).1 } _ _
      (.inr rfl)
  | begin label index next command => exact mask_begin ..
  | leave label next => exact mask_leave ..
  | listen =>
    rw [carryOut, carryOut, takeSignals_mask]
    rfl
  | advance label index next =>
    rw [carryOut, carryOut, takeSignals_mask]
    exact mask_pass ..
  | ask targets =>
    rw [carryOut, carryOut, takeAnswers_mask]
    rfl
  | choose label index targets answer =>
    rw [carryOut, carryOut, takeAnswers_mask]
    exact mask_pass ..
  | _ => rfl

variable {run}

/-- **A run that has arrived does not look at the switch.** -/
theorem deed_mask (h : run.hasArrived = true) :
    run.deed scenario stage.mask = run.deed scenario stage := by
  obtain ⟨entry, point⟩ := run
  cases point with
  | opening => cases h
  | _ => rfl

theorem mask_step (h : run.hasArrived = true) :
    (run.step scenario stage.mask).mask = (run.step scenario stage).mask := by
  rw [step_eq_carryOut, step_eq_carryOut, deed_mask _ _ h, mask_carryOut]

end

end Run

namespace Progress

theorem stage_mask (progress : Progress) : progress.mask.stage = progress.stage.mask := by
  cases progress <;> rfl

theorem run?_mask (progress : Progress) : progress.mask.run? = progress.run? := by
  cases progress <;> rfl

theorem outcome?_mask (progress : Progress) : progress.mask.outcome? = progress.outcome? := by
  cases progress <;> rfl

end Progress

namespace Session

/-- The run in progress has come to its first label, if there is one. -/
def Arrived (session : Session) : Prop := ∀ run, session.run = some run → run.hasArrived = true

theorem mask_request (session : Session) (request : Request) :
    (session.mask.request request).1.mask = (session.request request).1.mask := by
  cases request with
  | control control =>
    exact congrArg (fun desk => { session with stage := { session.stage with desk } })
      (session.stage.desk.mask_apply control)
  | release name =>
    rw [request_release, request_release]
    exact congrArg (fun stage => { session with stage })
      (session.stage.mask_onDepot (session.stage.depot.releaseEach [name]))
  | releaseAll =>
    exact congrArg (fun stage => { session with stage })
      (session.stage.mask_onDepot session.stage.depot.releaseAll)
  | _ => rfl

variable {session : Session}

theorem Arrived.turn (h : session.Arrived) (turn : Turn) : (session.turn turn).1.Arrived := by
  intro run hrun
  cases turn with
  | request request => exact h run ((request_run session request).symm.trans hrun)
  | step =>
    cases hbefore : session.run with
    | none =>
      rw [turn_step_none session hbefore] at hrun
      exact h run hrun
    | some before =>
      rw [turn_step session hbefore] at hrun
      exact Run.hasArrived_step (h before hbefore) hrun
  | drop => cases hbefore : session.run <;> simp [Session.turn, hbefore, Session.drop] at hrun
  | leak => cases hbefore : session.run <;> simp [Session.turn, hbefore, Session.leak] at hrun

/-- **One turn of a session whose run has arrived** does not depend on the switch. -/
theorem Arrived.mask_turn (h : session.Arrived) (turn : Turn) :
    (session.mask.turn turn).1.mask = (session.turn turn).1.mask ∧
      (session.mask.turn turn).2 = (session.turn turn).2 := by
  cases turn with
  | request request => exact ⟨mask_request session request, rfl⟩
  | step =>
    cases hrun : session.run with
    | none =>
      have hmask : session.mask.run = none := hrun
      rw [turn_step_none _ hmask, turn_step_none _ hrun]
      exact ⟨rfl, rfl⟩
    | some run =>
      have hmask : session.mask.run = some run := hrun
      -- The steps agree behind the mask, and stage, run and outcome are read off them.
      have hstep := Run.mask_step session.scenario session.stage (h run hrun)
      have hstage := congrArg Progress.stage hstep
      have hrun? := congrArg Progress.run? hstep
      have houtcome := congrArg Progress.outcome? hstep
      rw [Progress.stage_mask, Progress.stage_mask] at hstage
      rw [Progress.run?_mask, Progress.run?_mask] at hrun?
      rw [Progress.outcome?_mask, Progress.outcome?_mask] at houtcome
      rw [turn_step _ hmask, turn_step _ hrun]
      refine ⟨?_, congrArg (Option.map Ending.outcome) houtcome⟩
      exact congrArg₂ (fun stage run => { session with stage, run }) hstage hrun?
  | drop =>
    have hmask : session.mask.run = session.run := rfl
    rw [Session.turn, Session.turn, hmask]
    cases session.run with
    | none => exact ⟨rfl, rfl⟩
    | some run =>
      obtain ⟨entry, point⟩ := run
      cases point <;> exact ⟨rfl, rfl⟩
  | leak =>
    have hmask : session.mask.run = session.run := rfl
    rw [Session.turn, Session.turn, hmask]
    cases session.run <;> exact ⟨rfl, rfl⟩

/-- **What becomes of a session whose run has arrived** does not depend on the switch. -/
theorem Arrived.mask_after (h : session.Arrived) (turns : List Turn) :
    (session.mask.after turns).mask = (session.after turns).mask ∧
      session.mask.ending turns = session.ending turns := by
  induction turns generalizing session with
  | nil => exact ⟨rfl, rfl⟩
  | cons turn rest ih =>
    obtain ⟨hturn, hending⟩ := h.mask_turn turn
    have harrived := h.turn turn
    -- The run is the same behind the mask, so the induction applies to either session.
    have hmasked : (session.mask.turn turn).1.Arrived := by
      intro run hrun
      exact harrived run ((congrArg Session.run hturn).symm.trans hrun)
    obtain ⟨hafter, hrest⟩ := ih harrived
    obtain ⟨hafter', hrest'⟩ := ih hmasked
    rw [hturn] at hafter' hrest'
    rw [after_cons, after_cons, ending_cons, ending_cons, hending]
    exact ⟨hafter'.symm.trans hafter, congrArg _ (hrest'.symm.trans hrest)⟩

end Session

/-! ### What the switch holds back -/

namespace Session

/-- In moments, the switch was found off after the run had started. -/
def Opened (moments : List Moment) : Prop :=
  ∃ early gate late label, moments = early ++ gate :: late ∧
    gate.deed = some (.arrive label) ∧ gate.session.stage.desk.loading = false ∧
    ∃ started ∈ early, Event.start ∈ started.events

theorem Opened.snoc {moments : List Moment} (h : Opened moments) (moment : Moment) :
    Opened (moments ++ [moment]) := by
  obtain ⟨early, gate, late, label, rfl, hrest⟩ := h
  exact ⟨early, gate, late ++ [moment], label, by simp, hrest⟩

theorem start_mem_of_opened {moments : List Moment} (h : Opened moments) :
    ∃ started ∈ moments, Event.start ∈ started.events := by
  obtain ⟨early, gate, late, label, rfl, -, -, started, hmem, hstart⟩ := h
  exact ⟨started, List.mem_append_left _ hmem, hstart⟩

end Session

/-- After moments, a run that has begun has started, and one that has arrived was let in. -/
structure Run.Admitted (moments : List Moment) (run : Run) : Prop where
  /-- The start of a run that has begun was seen. -/
  started : run.hasBegun = true → ∃ started ∈ moments, Event.start ∈ started.events
  /-- A run that has arrived found the switch off after its start. -/
  opened : run.hasArrived = true → Session.Opened moments

namespace Run.Admitted

variable {moments : List Moment} {run : Run}

theorem snoc (h : run.Admitted moments) (moment : Moment) : run.Admitted (moments ++ [moment]) where
  started hbegun := by
    obtain ⟨started, hmem, hstart⟩ := h.started hbegun
    exact ⟨started, List.mem_append_left _ hmem, hstart⟩
  opened harrived := (h.opened harrived).snoc moment

/-- **A step lets a run start or arrive only as it should.** -/
theorem step {now : Session} (h : run.Admitted moments) (hrun : now.run = some run) {run' : Run}
    (hstep : (run.step now.scenario now.stage).run? = some run') :
    run'.Admitted (moments ++ [⟨now, .step⟩]) := by
  have hdeed : Moment.deed ⟨now, .step⟩ = some (run.deed now.scenario now.stage) := by
    simp only [Moment.deed, hrun]
  rw [step_eq_carryOut] at hstep
  cases harrived : run.hasArrived with
  | true =>
    -- Having arrived is for good.
    have hopened := (h.opened harrived).snoc ⟨now, .step⟩
    exact ⟨fun _ => Session.start_mem_of_opened hopened, fun _ => hopened⟩
  | false =>
    cases hbegun : run.hasBegun with
    | false =>
      -- The first step is the start itself, or the run is over.
      obtain hrefuse | hhalt | hstart := deed_of_not_hasBegun now.scenario now.stage hbegun
      · rw [hrefuse] at hstep
        cases hstep
      · rw [hhalt] at hstep
        cases hstep
      · rw [hstart] at hstep hdeed
        cases hstep
        refine ⟨fun _ => ⟨_, List.mem_append_right _ List.mem_cons_self, ?_⟩, fun h => by cases h⟩
        rw [Moment.events_of_deed hdeed]
        exact List.mem_append_left _ List.mem_cons_self
    | true =>
      -- Between its start and its first label a run holds until the switch lets it arrive.
      obtain hhalt | hhold | ⟨harrive, hloading⟩ :=
        deed_of_not_hasArrived now.scenario now.stage hbegun harrived
      · rw [hhalt] at hstep
        cases hstep
      · rw [hhold] at hstep
        cases hstep
        exact h.snoc _
      · rw [harrive] at hdeed
        have hopened : Session.Opened (moments ++ [⟨now, .step⟩]) :=
          ⟨moments, ⟨now, .step⟩, [], run.entry, rfl, hdeed, hloading, h.started hbegun⟩
        exact ⟨fun _ => Session.start_mem_of_opened hopened, fun _ => hopened⟩

end Run.Admitted

namespace Session

/-- **A run is admitted at all times.** -/
theorem admitted_after (session : Session) (label : Option String) (turns : List Turn) :
    ∀ run, ((session.create label).after turns).run = some run →
      run.Admitted ((session.create label).history turns) := by
  induction turns using List.reverseRecOn with
  | nil =>
    intro run hrun
    cases hrun
    exact ⟨nofun, nofun⟩
  | append_singleton turns turn ih =>
    intro run' hrun'
    rw [after_append, after_cons, after_nil] at hrun'
    rw [history_append]
    -- Only a step can change the run; the other turns keep or end it.
    generalize (session.create label).after turns = now at ih hrun'
    cases turn with
    | request request => exact (ih run' ((request_run now request).symm.trans hrun')).snoc _
    | drop => cases hrun : now.run <;> simp [Session.turn, hrun, Session.drop] at hrun'
    | leak => cases hrun : now.run <;> simp [Session.turn, hrun, Session.leak] at hrun'
    | step =>
      cases hrun : now.run with
      | none =>
        rw [turn_step_none now hrun, hrun] at hrun'
        cases hrun'
      | some run =>
        rw [turn_step now hrun] at hrun'
        exact (ih run hrun).step hrun hrun'

end Session

namespace Moment

/-- A step that lets an asset be loaded or released begins a reconciliation. -/
theorem begins_of_asset {moment : Moment} (hturn : moment.turn = .step) {asset : AssetEvent}
    (h : .asset asset ∈ moment.events) : moment.begins = true := by
  cases hdeed : moment.deed with
  | none =>
    rw [(quiet_of_deed_none hdeed).1 hturn] at h
    cases h
  | some deed =>
    -- The end of a run concerns no asset.
    have hfinale : .asset asset ∉ moment.finale := by
      unfold finale
      split <;> simp
    rw [events_of_deed hdeed, List.mem_append, or_iff_left hfinale] at h
    rw [begins, hdeed]
    cases deed with
    | reconcile label required => rfl
    | begin label index next command => rfl
    | start => simp [Deed.events] at h
    | _ => cases h

/-- Only a run that has arrived begins a command or a reconciliation. -/
theorem hasArrived_of_begins {moment : Moment} (h : moment.begins = true) :
    ∃ run, moment.session.run = some run ∧ run.hasArrived = true := by
  cases hdeed : moment.deed with
  | none =>
    rw [begins, hdeed] at h
    cases h
  | some deed =>
    rw [begins, hdeed] at h
    obtain ⟨run, -, hrun, rfl⟩ := exists_run_of_deed hdeed
    refine ⟨run, hrun, ?_⟩
    cases harrived : run.hasArrived with
    | true => rfl
    | false =>
      -- Until it has arrived, a run only starts, holds, arrives or ends.
      cases hbegun : run.hasBegun with
      | false =>
        obtain hd | hd | hd :=
          Run.deed_of_not_hasBegun moment.session.scenario moment.session.stage hbegun
        all_goals
          rw [hd] at h
          cases h
      | true =>
        obtain hd | hd | ⟨hd, -⟩ :=
          Run.deed_of_not_hasArrived moment.session.scenario moment.session.stage hbegun harrived
        all_goals
          rw [hd] at h
          cases h

end Moment

end Storyboard
