import Storyboard.Proofs.Player.Stopping

/-!
# Where a step leaves a run

A run is created, it begins with its first step, and it arrives at its first label once the loading
switch lets it. From then on each step leaves it at a label, or ends it. A run that ends by itself
leaves the stage in order, unless it was refused (`Progress.Orderly`).
-/

namespace Storyboard

namespace Run

/-- Whether a run has taken its first step. -/
def hasBegun (run : Run) : Bool :=
  match run.point with
  | .created => false
  | _ => true

/-- Whether a run has come to its first label. -/
def hasArrived (run : Run) : Bool :=
  match run.point with
  | .created => false
  | .opening => false
  | _ => true

theorem hasBegun_of_hasArrived {run : Run} (h : run.hasArrived = true) : run.hasBegun = true := by
  obtain ⟨entry, point⟩ := run
  cases point with
  | created => cases h
  | _ => rfl

end Run

/-- What a step of a run leaves is in order. -/
structure Progress.Orderly (run : Run) (progress : Progress) : Prop where
  /-- A run that ends by itself and was not refused leaves the stop switch off and the status
  idle. -/
  tidy : ∀ outcome, progress.outcome? = some outcome → outcome ≠ .rejected →
    progress.stage.desk.stopped = false ∧ progress.stage.status = .idle
  /-- A run that goes on is where it was, or at a label. -/
  place : ∀ run', progress.run? = some run' → run' = run ∨ run'.hasArrived = true

namespace Run

section

variable (scenario : Scenario) (run : Run) (stage : Stage) (label : String) (index : Nat)
  (next : Option String)

theorem waiting_orderly : (Progress.waiting stage run).Orderly run where
  tidy := nofun
  place _ hrun' := .inl (Option.some.inj hrun').symm

theorem moved_orderly {run' : Run} (h : run'.hasArrived = true) :
    (Progress.moved stage run').Orderly run where
  tidy := nofun
  place _ hother := .inr (Option.some.inj hother ▸ h)

theorem leave_orderly : (run.leave scenario stage label next).Orderly run := by
  obtain ⟨target, -, h⟩ | ⟨-, notices, h⟩ := leave_cases scenario run stage label next
  · rw [h]
    exact moved_orderly _ _ rfl
  · rw [h]
    exact ⟨fun _ _ _ => ⟨rfl, rfl⟩, nofun⟩

theorem approach_orderly : (run.approach scenario stage label index next).Orderly run := by
  obtain ⟨-, h⟩ | ⟨-, h⟩ := approach_cases scenario run stage label index next
  · rw [h]
    exact moved_orderly _ _ rfl
  · rw [h]
    exact leave_orderly ..

theorem fetch_orderly (batch : Batch) {pending : Stage → Run → Progress}
    (hpending : pending = .moved ∨ pending = .waiting) :
    (run.fetch scenario stage label batch pending).Orderly run := by
  unfold fetch
  split
  · exact approach_orderly ..
  · obtain rfl | rfl := hpending
    · exact moved_orderly _ _ rfl
    · exact ⟨nofun, fun run' hrun' => .inr (Option.some.inj hrun' ▸ rfl)⟩

theorem carryOut_orderly {deed : Deed} (hstart : deed ≠ .start) :
    (run.carryOut scenario stage deed).Orderly run := by
  cases deed with
  | refuse =>
    refine ⟨fun outcome houtcome hrejected => ?_, nofun⟩
    cases houtcome
    exact absurd rfl hrejected
  | halt => exact ⟨fun _ _ _ => ⟨rfl, rfl⟩, nofun⟩
  | start => exact absurd rfl hstart
  | hold => exact waiting_orderly ..
  | arrive label => exact moved_orderly _ _ rfl
  | reconcile label required => exact fetch_orderly _ _ _ _ _ (.inl rfl)
  | resume label batch => exact fetch_orderly _ _ _ _ _ (.inr rfl)
  | begin label index next command =>
    rw [carryOut, begin_eq]
    cases scenario.flow command with
    | proceed => exact approach_orderly ..
    | goto target => exact approach_orderly ..
    | awaitLine => exact moved_orderly _ _ rfl
    | awaitSelection targets => exact moved_orderly _ _ rfl
  | leave label next => exact leave_orderly ..
  | listen => exact waiting_orderly ..
  | advance label index next => exact approach_orderly ..
  | ask targets => exact waiting_orderly ..
  | choose label index targets answer => exact approach_orderly ..

end

section

variable (scenario : Scenario) (stage : Stage) {run : Run}

/-- The step of a run that was only created refuses it, stops it, or begins it. -/
theorem deed_of_not_hasBegun (h : run.hasBegun = false) :
    run.deed scenario stage = .refuse ∨ run.deed scenario stage = .halt ∨
      run.deed scenario stage = .start := by
  obtain ⟨-, hdeed⟩ | ⟨-, hdeed⟩ := deed_cases scenario stage run
  · exact .inr (.inl hdeed)
  · obtain ⟨entry, point⟩ := run
    cases point with
    | created =>
      rw [hdeed]
      dsimp only [intent]
      split
      · exact .inl rfl
      · exact .inr (.inr rfl)
    | _ => cases h

/-- The step of a run that has begun and not arrived stops it, holds it, or lets it arrive while the
loading switch is off. -/
theorem deed_of_not_hasArrived (hbegun : run.hasBegun = true) (h : run.hasArrived = false) :
    run.deed scenario stage = .halt ∨ run.deed scenario stage = .hold ∨
      run.deed scenario stage = .arrive run.entry ∧ stage.desk.loading = false := by
  obtain ⟨-, hdeed⟩ | ⟨-, hdeed⟩ := deed_cases scenario stage run
  · exact .inl hdeed
  · obtain ⟨entry, point⟩ := run
    cases point with
    | created => cases hbegun
    | opening =>
      rw [hdeed]
      dsimp only [intent]
      split
      · exact .inr (.inl rfl)
      · next hloading => exact .inr (.inr ⟨rfl, Bool.not_eq_true _ ▸ hloading⟩)
    | _ => cases h

theorem deed_of_hasBegun (h : run.hasBegun = true) :
    run.deed scenario stage ≠ .start ∧ run.deed scenario stage ≠ .refuse := by
  obtain ⟨-, hdeed⟩ | ⟨-, hdeed⟩ := deed_cases scenario stage run
  · rw [hdeed]
    exact ⟨nofun, nofun⟩
  · rw [hdeed]
    obtain ⟨entry, point⟩ := run
    unfold intent
    cases point with
    | created => cases h
    | _ =>
      dsimp only
      repeat' split
      all_goals exact ⟨nofun, nofun⟩

variable {scenario stage}

/-- **A run has begun after its first step**, unless the step ended it. -/
theorem hasBegun_step {run' : Run} (h : (run.step scenario stage).run? = some run') :
    run'.hasBegun = true := by
  rw [step_eq_carryOut] at h
  cases hbegun : run.hasBegun with
  | true =>
    -- A run that has begun stays where it is or gets further; no step takes it back.
    have hstart := (deed_of_hasBegun scenario stage hbegun).1
    obtain rfl | harrived := (carryOut_orderly scenario run stage hstart).place run' h
    · exact hbegun
    · exact hasBegun_of_hasArrived harrived
  | false =>
    -- Of the first steps only the start leaves the run in progress.
    obtain hdeed | hdeed | hdeed := deed_of_not_hasBegun scenario stage hbegun
    all_goals
      rw [hdeed] at h
      cases h
    rfl

/-- **A run that has arrived stays at labels.** -/
theorem hasArrived_step {run' : Run} (harrived : run.hasArrived = true)
    (h : (run.step scenario stage).run? = some run') : run'.hasArrived = true := by
  rw [step_eq_carryOut] at h
  have hstart := (deed_of_hasBegun scenario stage (hasBegun_of_hasArrived harrived)).1
  obtain rfl | hplace := (carryOut_orderly scenario run stage hstart).place run' h
  · exact harrived
  · exact hplace

/-- **A run that ends by itself** leaves the stop switch off and the status idle, unless it was
refused. -/
theorem tidy_step {outcome : Outcome} (houtcome : (run.step scenario stage).outcome? = some outcome)
    (h : outcome ≠ .rejected) :
    (run.step scenario stage).stage.desk.stopped = false ∧
      (run.step scenario stage).stage.status = .idle := by
  rw [step_eq_carryOut] at houtcome ⊢
  by_cases hstart : run.deed scenario stage = .start
  · rw [hstart] at houtcome
    cases houtcome
  · exact (carryOut_orderly scenario run stage hstart).tidy outcome houtcome h

/-- **A run that is refused** had not begun, and the refusal is all that comes of it. -/
theorem step_of_rejected (h : (run.step scenario stage).outcome? = some .rejected) :
    run.hasBegun = false ∧ run.deed scenario stage = .refuse ∧
      run.step scenario stage = .ended (stage.note [.notStarted run.entry]) .rejected := by
  rw [step_eq_carryOut] at h ⊢
  -- All other ways to end have outcomes of their own.
  have hrefuse : run.deed scenario stage = .refuse := by
    by_cases hrefuse : run.deed scenario stage = .refuse
    · exact hrefuse
    by_cases hhalt : run.deed scenario stage = .halt
    · rw [hhalt] at h
      cases h
    · obtain hnone | ⟨last, hlast⟩ := outcome_carryOut scenario run stage hhalt hrefuse
      · rw [h] at hnone
        cases hnone
      · rw [h] at hlast
        cases hlast
  refine ⟨?_, hrefuse, by rw [hrefuse]; rfl⟩
  cases hbegun : run.hasBegun with
  | false => rfl
  | true => exact absurd hrefuse (deed_of_hasBegun scenario stage hbegun).2

end

end Run

end Storyboard
