import Storyboard.Proofs.Player.Point
import Storyboard.Proofs.Player.Trail
import Mathlib.Data.List.Induction

/-!
# The stop switch from run to run

The stop switch outlives runs. A host may turn it on while no run is in progress, and the next run
that begins finds it on. It is turned off only when a run ends that had begun; a run that is refused
and a run that is given up before its first step leave it alone. So whether it is on depends on all
the runs that came and went.

Here a session is in the hands of a host that creates runs, lets them take steps, drops them, makes
requests and loads sources, in any order; only runs that are forgotten are left out. An `Operation`
is one of these things, and an `Occasion` is an operation with the session that it met. All that a
host can do comes to operations (`Session.exists_operations_act`).
-/

namespace Storyboard

/-! ### Operations -/

/-- One thing that happens to a session. -/
inductive Operation where
  /-- The host makes a request. -/
  | request (request : Request)
  /-- The run in progress takes a step. -/
  | step
  /-- The host gives up the run in progress. -/
  | drop
  /-- The host creates a run. -/
  | create (label : Option String)
  /-- The host loads new sources. -/
  | reload (options : Options) (sources : Sources)

/-- The turn of a run that an operation is, if it is one. -/
def Operation.turn? : Operation → Option Turn
  | request asked => some (.request asked)
  | step => some .step
  | drop => some .drop
  | create _ => none
  | reload _ _ => none

namespace Session

/-- The session after an operation. Runs are created and sources are loaded only while no run is in
progress. -/
def operate (session : Session) : Operation → Session
  | .request request => (session.turn (.request request)).1
  | .step => (session.turn .step).1
  | .drop => (session.turn .drop).1
  | .create label => if session.run.isSome then session else session.create label
  | .reload options sources =>
    if session.run.isSome then session else (session.reload options sources).1

/-- The session after operations. -/
def operated (session : Session) (operations : List Operation) : Session :=
  operations.foldl operate session

end Session

/-- An operation, with the session that it met. -/
structure Occasion where
  /-- The session before the operation. -/
  session : Session
  /-- The operation. -/
  operation : Operation

namespace Occasion

/-- The session after the occasion. -/
def after (occasion : Occasion) : Session := occasion.session.operate occasion.operation

/-- The moment of a run that the occasion is, if it is one. -/
def moment? (occasion : Occasion) : Option Moment :=
  occasion.operation.turn?.map fun turn => ⟨occasion.session, turn⟩

/-- How a run ended on the occasion, if one did. -/
def ending (occasion : Occasion) : Option Ending := occasion.moment?.bind Moment.ending

/-- The events of the occasion. -/
def events (occasion : Occasion) : List Event :=
  occasion.after.stage.log.drop occasion.session.stage.log.length

/-- Whether the host uses the stop switch on the occasion, also from within an event. -/
def stops (occasion : Occasion) : Bool :=
  occasion.moment?.any fun moment => .stop ∈ moment.controls

/-- Whether a run ends on the occasion that was not refused and, if it is given up, had begun. -/
def closes (occasion : Occasion) : Bool :=
  match occasion.ending with
  | some (.outcome .rejected) => false
  | some (.outcome _) => true
  | some .dropped => occasion.session.run.any Run.hasBegun
  | _ => false

end Occasion

namespace Session

/-- The occasions of a session under operations. -/
def occasions (session : Session) : List Operation → List Occasion
  | [] => []
  | operation :: rest => ⟨session, operation⟩ :: (session.operate operation).occasions rest

variable (session : Session)

theorem operated_append (first later : List Operation) :
    session.operated (first ++ later) = (session.operated first).operated later :=
  List.foldl_append

theorem occasions_append (first later : List Operation) :
    session.occasions (first ++ later) =
      session.occasions first ++ (session.operated first).occasions later := by
  induction first generalizing session with
  | nil => rfl
  | cons operation rest ih => exact congrArg (_ :: ·) (ih _)

theorem after_steps (n : Nat) :
    session.after (List.replicate n .step) = session.operated (List.replicate n .step) := by
  induction n generalizing session with
  | zero => rfl
  | succ n ih => exact ih _

theorem exists_operations_thenProceed (fuel : Nat) (reply : Reply) (before : List Operation) :
    ∃ operations, ((session.operated before).thenProceed fuel reply).1 =
      session.operated operations := by
  obtain ⟨n, hn⟩ := exists_steps_proceed (session.operated before) fuel
  refine ⟨before ++ List.replicate n .step, ?_⟩
  rw [thenProceed, hn, operated_append, after_steps]

/-- **Whatever the host does but forget a run comes to operations.** -/
theorem exists_operations_act (fuel : Nat) {action : Action} (h : action ≠ .leak) :
    ∃ operations, (session.act fuel action).1 = session.operated operations := by
  have hproceed := session.exists_operations_thenProceed fuel
  cases action with
  | request request => exact hproceed (session.request request).2 [.request request]
  | requests requests =>
    have hrequests : requests.foldl (fun session request => (session.request request).1) session =
        session.operated (requests.map .request) := by
      rw [operated, List.foldl_map]
      rfl
    rw [act, hrequests]
    exact hproceed .none _
  | start label =>
    cases hrun : session.run with
    | some run =>
      simp only [act, hrun]
      -- With a run in progress no other is created; the run just goes on.
      exact hproceed .refused []
    | none =>
      have hcreate : session.create label = session.operated [.create label] := by
        simp [operated, operate, hrun]
      simp only [act, hrun, hcreate]
      exact hproceed .none _
  | create label =>
    refine ⟨[.create label], ?_⟩
    cases hrun : session.run <;> simp [act, operated, operate, hrun]
  | drop =>
    refine ⟨[.drop], ?_⟩
    cases hrun : session.run <;> simp [act, operated, operate, turn, hrun]
  | leak => exact absurd rfl h
  | reload options sources =>
    cases hrun : session.run with
    | some run =>
      simp only [act, hrun]
      exact hproceed .refused []
    | none =>
      have hreload : (session.reload options sources).1 =
          session.operated [.reload options sources] := by
        simp [operated, operate, hrun]
      simp only [act, hrun, hreload]
      exact hproceed _ _
  | unknown => exact hproceed .refused []

end Session

/-! ### The stop switch -/

namespace Session

/-- Loading sources leaves the desk and the status alone, and no run comes of it. -/
theorem reload_spec (session : Session) (options : Options) (sources : Sources) :
    (session.reload options sources).1.stage.desk = session.stage.desk ∧
      (session.reload options sources).1.stage.status = session.stage.status ∧
      (session.reload options sources).1.run = session.run := by
  unfold reload
  split
  · exact ⟨rfl, rfl, rfl⟩
  · dsimp only
    split <;> exact ⟨rfl, rfl, rfl⟩

end Session

namespace Occasion

section

variable {session : Session} {run : Run}

theorem ending_step (h : session.run = some run) :
    ending ⟨session, .step⟩ =
      (run.step session.scenario session.stage).outcome?.map .outcome := by
  have hturn := session.turn_step h
  exact congrArg (·.2) hturn

theorem after_step (h : session.run = some run) :
    after ⟨session, .step⟩ =
      { session with
        stage := (run.step session.scenario session.stage).stage
        run := (run.step session.scenario session.stage).run? } := by
  have hturn := session.turn_step h
  exact congrArg (·.1) hturn

theorem closes_step_none (h : session.run = none) : closes ⟨session, .step⟩ = false := by
  simp [closes, ending, moment?, Operation.turn?, Moment.ending, Session.turn_step_none session h]

theorem after_step_none (h : session.run = none) : after ⟨session, .step⟩ = session := by
  simp [after, Session.operate, Session.turn_step_none session h]

theorem closes_drop (h : session.run = some run) : closes ⟨session, .drop⟩ = run.hasBegun := by
  simp [closes, ending, moment?, Operation.turn?, Moment.ending, Session.turn, h]

theorem after_drop (h : session.run = some run) : after ⟨session, .drop⟩ = session.drop run := by
  simp [after, Session.operate, Session.turn, h]

theorem closes_drop_none (h : session.run = none) : closes ⟨session, .drop⟩ = false := by
  simp [closes, ending, moment?, Operation.turn?, Moment.ending, Session.turn, h]

theorem after_drop_none (h : session.run = none) : after ⟨session, .drop⟩ = session := by
  simp [after, Session.operate, Session.turn, h]

theorem stops_of_events_nil {operation : Operation} {turn : Turn}
    (hturn : operation.turn? = some turn) (hcontrols : turn.controls = [])
    (hevents : Moment.events ⟨session, turn⟩ = []) : stops ⟨session, operation⟩ = false := by
  have hnone : Moment.controls ⟨session, turn⟩ = [] := by
    rw [Moment.controls, hevents, hcontrols]
    rfl
  simp [stops, moment?, hturn, hnone]

theorem stops_of_rejected (hrun : session.run = some run)
    (h : (run.step session.scenario session.stage).outcome? = some .rejected) :
    stops ⟨session, .step⟩ = false := by
  obtain ⟨-, hdeed, hstep⟩ := Run.step_of_rejected h
  refine stops_of_events_nil rfl rfl ?_
  rw [Moment.events_step session hrun, hstep, hdeed]
  rfl

/-- A run of a step that closes nothing goes on or is refused. -/
theorem outcome_of_not_closes (hrun : session.run = some run)
    (h : closes ⟨session, .step⟩ = false) :
    (∃ run', (run.step session.scenario session.stage).run? = some run') ∨
      (run.step session.scenario session.stage).outcome? = some .rejected := by
  rw [closes, ending_step hrun] at h
  cases hstep : run.step session.scenario session.stage with
  | waiting stage run' => exact .inl ⟨run', rfl⟩
  | moved stage run' => exact .inl ⟨run', rfl⟩
  | ended stage outcome =>
    rw [hstep] at h
    cases outcome with
    | rejected => exact .inr rfl
    | _ => cases h

end

variable {occasion : Occasion} {run : Run}

/-- **When a run closes**, the stop switch is off and the status idle. -/
theorem tidy_of_closes (h : occasion.closes = true) :
    occasion.after.stage.desk.stopped = false ∧ occasion.after.stage.status = .idle := by
  obtain ⟨session, operation⟩ := occasion
  cases operation with
  | step =>
    cases hrun : session.run with
    | none =>
      rw [closes_step_none hrun] at h
      cases h
    | some run =>
      rw [closes, ending_step hrun] at h
      rw [after_step hrun]
      cases houtcome : (run.step session.scenario session.stage).outcome? with
      | none =>
        rw [houtcome] at h
        cases h
      | some outcome =>
        -- Any way to end but the refusal closes the run.
        refine Run.tidy_step houtcome ?_
        rintro rfl
        rw [houtcome] at h
        cases h
  | drop =>
    cases hrun : session.run with
    | none =>
      rw [closes_drop_none hrun] at h
      cases h
    | some run =>
      rw [closes_drop hrun] at h
      rw [after_drop hrun]
      -- Dropped before its first step, a run has nothing to close.
      obtain ⟨entry, point⟩ := run
      cases point with
      | created => cases h
      | _ => exact ⟨rfl, rfl⟩
  | _ => cases h

/-- **When no run closes**, the stop switch is on if it was on before or the host uses it. -/
theorem stopped_of_not_closes (h : occasion.closes = false) :
    occasion.after.stage.desk.stopped =
      (occasion.session.stage.desk.stopped || occasion.stops) := by
  -- It is enough that the desk is left alone and the host does not use the switch.
  have hdesk : ∀ {occasion : Occasion}, occasion.stops = false →
      occasion.after.stage.desk = occasion.session.stage.desk →
      occasion.after.stage.desk.stopped =
        (occasion.session.stage.desk.stopped || occasion.stops) := by
    intro occasion hstops hdesk
    rw [hdesk, hstops, Bool.or_false]
  obtain ⟨session, operation⟩ := occasion
  cases operation with
  | request request =>
    have happly : (after ⟨session, .request request⟩).stage.desk = session.stage.desk.applyAll
        (Moment.controls ⟨session, .request request⟩) := Moment.desk_request session request
    rw [happly, Desk.stopped_applyAll]
    rfl
  | step =>
    cases hrun : session.run with
    | none =>
      have hevents := Moment.events_step_none session hrun
      exact hdesk (stops_of_events_nil rfl rfl hevents) (by rw [after_step_none hrun])
    | some run =>
      -- A refusal is the one way to end that closes nothing, and it shows nothing to react to.
      obtain ⟨run', hrun'⟩ | hrejected := outcome_of_not_closes hrun h
      · have hafter : (Moment.after ⟨session, .step⟩).run = some run' :=
          (congrArg Session.run (after_step hrun)).trans hrun'
        exact Session.stopped_after ⟨session, .step⟩ (by rw [hafter]; nofun)
      · obtain ⟨-, -, hstep⟩ := Run.step_of_rejected hrejected
        refine hdesk (stops_of_rejected hrun hrejected) ?_
        rw [after_step hrun, hstep]
        rfl
  | drop =>
    have hstops : stops ⟨session, .drop⟩ = false :=
      stops_of_events_nil rfl rfl (Moment.events_drop session)
    cases hrun : session.run with
    | none => exact hdesk hstops (by rw [after_drop_none hrun])
    | some run =>
      rw [closes_drop hrun] at h
      refine hdesk hstops ?_
      rw [after_drop hrun]
      obtain ⟨entry, point⟩ := run
      cases point with
      | created => rfl
      | _ => cases h
  | create label =>
    refine hdesk rfl ?_
    simp only [after, Session.operate]
    split <;> rfl
  | reload options sources =>
    refine hdesk rfl ?_
    simp only [after, Session.operate]
    split
    · rfl
    · exact (session.reload_spec options sources).1

/-- **A run that was refused or given up before its first step** leaves the desk and the status
alone. -/
theorem stage_of_unbegun (hrun : occasion.session.run = some run)
    (h : occasion.ending = some (.outcome .rejected) ∨
      occasion.operation = .drop ∧ run.hasBegun = false) :
    occasion.after.stage.desk = occasion.session.stage.desk ∧
      occasion.after.stage.status = occasion.session.stage.status := by
  obtain ⟨session, operation⟩ := occasion
  -- A refusal leaves the stage as it is, and a run that has not begun has nothing to tidy.
  obtain hending | ⟨hdrop, hbegun⟩ := h
  · cases operation with
    | step =>
      rw [ending_step hrun] at hending
      obtain ⟨outcome, houtcome, heq⟩ := Option.map_eq_some_iff.1 hending
      cases heq
      obtain ⟨-, -, hstep⟩ := Run.step_of_rejected houtcome
      rw [after_step hrun, hstep]
      exact ⟨rfl, rfl⟩
    | drop =>
      have hdropped : ending ⟨session, .drop⟩ = some .dropped := by
        have hsome : session.run = some run := hrun
        simp [ending, moment?, Operation.turn?, Moment.ending, Session.turn, hsome]
      rw [hdropped] at hending
      cases hending
    | _ => cases hending
  · obtain rfl : operation = .drop := hdrop
    rw [after_drop hrun]
    obtain ⟨entry, point⟩ := run
    cases point with
    | created => exact ⟨rfl, rfl⟩
    | _ => cases hbegun

/-- **A run that meets the stop switch on its first step** is stopped with no event at all. -/
theorem of_first_step {session : Session} (hrun : session.run = some run)
    (hbegun : run.hasBegun = false) (hcommands : session.scenario.commands run.entry ≠ [])
    (hstopped : session.stage.desk.stopped = true) :
    ending ⟨session, .step⟩ = some (.outcome .stopped) ∧ events ⟨session, .step⟩ = [] ∧
      (after ⟨session, .step⟩).stage.desk.stopped = false := by
  -- The first step passes a wait, and it is there that the switch is noticed.
  have hwait : run.wait? session.scenario = some .beginning := by
    obtain ⟨entry, point⟩ := run
    cases point with
    | created => simpa [Run.wait?] using hcommands
    | _ => cases hbegun
  have hdeed : Moment.deed ⟨session, .step⟩ = some .halt := by
    rw [Moment.deed_eq_halt_iff]
    exact ⟨⟨.beginning, by simpa [Moment.wait?, hrun] using hwait⟩, hstopped⟩
  have hending : Moment.ending ⟨session, .step⟩ = some (.outcome .stopped) :=
    (Moment.ending_eq_stopped_iff _).2 hdeed
  have hevents : Moment.events ⟨session, .step⟩ = [] := by
    rw [Moment.events_of_deed hdeed, Moment.finale, hending]
    rfl
  have hcloses : closes ⟨session, .step⟩ = true := by
    have : ending ⟨session, .step⟩ = some (.outcome .stopped) := hending
    rw [closes, this]
  exact ⟨hending, hevents, (tidy_of_closes hcloses).1⟩

end Occasion

namespace Session

/-- The host has used the stop switch, and no run has closed since. -/
def Latched (history : List Occasion) : Prop :=
  ∃ early occasion late, history = early ++ occasion :: late ∧ occasion.stops = true ∧
    ∀ other ∈ occasion :: late, other.closes = false

theorem latched_snoc (history : List Occasion) (occasion : Occasion) :
    Latched (history ++ [occasion]) ↔
      occasion.closes = false ∧ (Latched history ∨ occasion.stops = true) := by
  constructor
  · rintro ⟨early, first, late, hhistory, hstops, hcloses⟩
    -- The stop was used on the last occasion, or on one before it.
    induction late using List.reverseRecOn with
    | nil =>
      obtain ⟨-, hlast⟩ := List.append_inj' hhistory rfl
      obtain rfl : occasion = first := List.cons.inj hlast |>.1
      exact ⟨hcloses occasion List.mem_cons_self, .inr hstops⟩
    | append_singleton late last _ =>
      rw [← List.cons_append, ← List.append_assoc] at hhistory
      obtain ⟨rfl, hlast⟩ := List.append_inj' hhistory rfl
      obtain rfl : occasion = last := List.cons.inj hlast |>.1
      refine ⟨hcloses occasion (by simp), .inl ⟨early, first, late, rfl, hstops, ?_⟩⟩
      exact fun other hother => hcloses other (by
        rw [← List.cons_append]
        exact List.mem_append_left _ hother)
  · rintro ⟨hcloses, ⟨early, first, late, rfl, hstops, hlate⟩ | hstops⟩
    · refine ⟨early, first, late ++ [occasion], by simp, hstops, fun other hother => ?_⟩
      rw [← List.cons_append] at hother
      obtain hother | hother := List.mem_append.1 hother
      · exact hlate other hother
      · exact List.mem_singleton.1 hother ▸ hcloses
    · exact ⟨history, occasion, [], rfl, hstops, by simpa using hcloses⟩

/-- **The stop switch is on exactly while it is latched.** -/
theorem stopped_operated (start : Session) (hstart : start.stage.desk.stopped = false)
    (operations : List Operation) :
    (start.operated operations).stage.desk.stopped = true ↔
      Latched (start.occasions operations) := by
  induction operations using List.reverseRecOn with
  | nil =>
    rw [operated, List.foldl_nil, hstart]
    refine iff_of_false nofun ?_
    rintro ⟨early, occasion, late, hhistory, -⟩
    simp [occasions] at hhistory
  | append_singleton operations operation ih =>
    rw [operated_append, occasions_append, occasions, occasions, latched_snoc, ← ih]
    cases hcloses : Occasion.closes ⟨start.operated operations, operation⟩ with
    | true =>
      -- Closing turns the switch off, and the latch is open again.
      have hstopped := (Occasion.tidy_of_closes hcloses).1
      exact iff_of_false (fun h => nomatch hstopped.symm.trans h) nofun
    | false =>
      -- Otherwise the switch stays as it was or is turned on, and so does the latch.
      have hstopped := Occasion.stopped_of_not_closes hcloses
      rw [← Bool.or_eq_true_iff, ← hstopped]
      exact (and_iff_right rfl).symm

/-- While no run that has begun is in progress, the status is idle. -/
def AtRest (session : Session) : Prop :=
  (∀ run, session.run = some run → run.hasBegun = false) → session.stage.status = .idle

/-- **An operation leaves a session at rest**, if it met it so. -/
theorem AtRest.after (occasion : Occasion) (h : occasion.session.AtRest) :
    occasion.after.AtRest := by
  -- Closing leaves the status idle; else only a run that has begun can change the status.
  cases hcloses : occasion.closes with
  | true => exact fun _ => (Occasion.tidy_of_closes hcloses).2
  | false =>
    obtain ⟨session, operation⟩ := occasion
    cases operation with
    | request request =>
      intro hrun
      refine ((Moment.exists_sights_request session request).1).trans (h fun run hrun' => ?_)
      exact hrun run ((request_run session request).trans hrun')
    | step =>
      cases hrun : session.run with
      | none => rwa [Occasion.after_step_none hrun]
      | some run =>
        rw [Occasion.after_step hrun]
        intro hnot
        obtain ⟨run', hrun'⟩ | hrejected := Occasion.outcome_of_not_closes hrun hcloses
        · -- The step has begun the run, if it had not begun before.
          have hbegun := Run.hasBegun_step hrun'
          rw [hnot run' hrun'] at hbegun
          cases hbegun
        · -- A run that is refused had not begun, and is over without a trace.
          obtain ⟨hbegun, -, hstep⟩ := Run.step_of_rejected hrejected
          simp only [hstep]
          exact h fun other hother => Option.some.inj (hrun.symm.trans hother) ▸ hbegun
    | drop =>
      cases hrun : session.run with
      | none => rwa [Occasion.after_drop_none hrun]
      | some run =>
        rw [Occasion.closes_drop hrun] at hcloses
        rw [Occasion.after_drop hrun]
        intro _
        have hidle := h fun other hother => Option.some.inj (hrun.symm.trans hother) ▸ hcloses
        obtain ⟨entry, point⟩ := run
        cases point with
        | created => exact hidle
        | _ => rfl
    | create label =>
      simp only [Occasion.after, operate]
      split
      · exact h
      · next hnone =>
        refine fun _ => h fun run hrun => ?_
        exact absurd (by rw [hrun]; rfl) hnone
    | reload options sources =>
      obtain ⟨-, hstatus, hrun⟩ := session.reload_spec options sources
      simp only [Occasion.after, operate]
      split
      · exact h
      · intro hnot
        exact hstatus.trans (h fun run hrun' => hnot run (hrun.trans hrun'))

theorem atRest_operated (start : Session) (hstart : start.stage.status = .idle)
    (operations : List Operation) : (start.operated operations).AtRest := by
  induction operations using List.reverseRecOn with
  | nil => exact fun _ => hstart
  | append_singleton operations operation ih =>
    rw [operated_append]
    exact AtRest.after ⟨start.operated operations, operation⟩ ih

/-- **A stop is consumed by exactly one run**, whatever the host does from the beginning of the
session on, but forget runs. The switch is on exactly if the host has used it and no run has closed
since. A run that meets it on its first step, at a label that has something to play, is stopped
with no event at all, and the switch is off. A run that is refused and one that is given up before
its first step leave the switch and the status alone. When a run closes, the switch is off and the
status is idle; and the status is idle while no run that has begun is in progress. -/
theorem stop_is_consumed_once (scenario : Scenario) (entry : String) (store : Store)
    (reactions : List Reaction) (operations : List Operation) :
    let start := Session.new scenario entry store reactions
    let now := start.operated operations
    let history := start.occasions operations
    (now.stage.desk.stopped = true ↔
      ∃ early occasion late, history = early ++ occasion :: late ∧ occasion.stops = true ∧
        ∀ other ∈ occasion :: late, other.closes = false) ∧
    ((∀ run, now.run = some run → run.hasBegun = false) →
      now.stage.status = ⟨.idle, none, none, .none⟩) ∧
    ∀ occasion ∈ history,
      let before := occasion.session
      (∀ run, occasion.operation = .step → before.run = some run → run.hasBegun = false →
        before.scenario.commands run.entry ≠ [] → before.stage.desk.stopped = true →
        occasion.ending = some (.outcome .stopped) ∧ occasion.events = [] ∧
          occasion.after.stage.desk.stopped = false) ∧
      (∀ run, before.run = some run →
        occasion.ending = some (.outcome .rejected) ∨
          occasion.operation = .drop ∧ run.hasBegun = false →
        occasion.after.stage.desk = before.stage.desk ∧
          occasion.after.stage.status = before.stage.status) ∧
      (occasion.closes = true → occasion.after.stage.desk.stopped = false ∧
        occasion.after.stage.status = ⟨.idle, none, none, .none⟩) := by
  intro start now history
  refine ⟨start.stopped_operated rfl operations, start.atRest_operated rfl operations, ?_⟩
  intro occasion _ before
  refine ⟨?_, fun run => Occasion.stage_of_unbegun, Occasion.tidy_of_closes⟩
  intro run hstep
  obtain ⟨session, operation⟩ := occasion
  obtain rfl : operation = .step := hstep
  exact Occasion.of_first_step

end Session

end Storyboard
