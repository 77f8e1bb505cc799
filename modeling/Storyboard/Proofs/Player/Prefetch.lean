import Storyboard.Proofs.Asset.Reconciliation
import Storyboard.Proofs.Player.Itinerary
import Storyboard.Proofs.Player.Sprites
import Storyboard.Proofs.Player.Stopping

/-!
# What is resident while a label is played

Before a run plays a label it brings in the assets that the label requires. So while the label is
played, the resident assets are the required ones less those whose load failed
(`Scenario.Stocked`), as long as the host releases none, and the commands of the label find their
sprites there.

The proof has two invariants. The loads that a run waits for are those that the assets of its label
need (`Stage.Fetches`), and in a status of a label that is played the depot is stocked for that
label (`Session.Provides`).
-/

namespace Storyboard

/-! ### Prefetches -/

/-- The prefetch that a deed finishes: the label that it serves, and its loads. -/
def Deed.prefetch? (stage : Stage) : Deed → Option (String × Batch)
  | reconcile label required =>
    let batch := (stage.depot.reconcile required).2.1
    if batch.isDone then some (label, batch) else none
  | resume label batch =>
    let batch := (stage.depot.resume batch).2
    if batch.isDone then some (label, batch) else none
  | _ => none

/-- What was brought in for a label: the last prefetch that was finished served the label of the
status, and the required assets of the label are resident but for those whose load failed in it. -/
def Scenario.Stocked (scenario : Scenario) (prefetch? : Option (String × Batch))
    (resident : Dict Handle) (status : Status) : Prop :=
  ∃ label batch, status.label = some label ∧ prefetch? = some (label, batch) ∧
    resident.keys = (scenario.requiredAssets label).filter (· ∉ batch.failed)

/-- The loads of a run that waits for them are those that the assets of the label need. -/
def Stage.Fetches (scenario : Scenario) (stage : Stage) (run? : Option Run) : Prop :=
  ∀ run label batch, run? = some run → run.point = .fetching label batch →
    stage.depot.Serves (scenario.requiredAssets label) batch

theorem Stage.fetches_none (scenario : Scenario) (stage : Stage) : stage.Fetches scenario none := by
  intro run label batch hrun
  cases hrun

theorem Stage.fetches_of_point {scenario : Scenario} {stage : Stage} {run : Run}
    (h : ∀ label batch, run.point ≠ .fetching label batch) :
    stage.Fetches scenario (some run) := by
  intro other label batch hother hpoint
  cases hother
  exact absurd hpoint (h label batch)

namespace Run

section

variable {scenario : Scenario} {stage : Stage} {run : Run}

theorem approach_fetches (label : String) (index : Nat) (next : Option String) (after : Stage) :
    after.Fetches scenario (run.approach scenario stage label index next).run? := by
  obtain ⟨-, h⟩ | ⟨-, h⟩ := approach_cases scenario run stage label index next
  · rw [h]
    exact Stage.fetches_of_point (by rintro _ _ ⟨⟩)
  · rw [h]
    obtain ⟨target, -, h⟩ | ⟨-, notices, h⟩ := leave_cases scenario run stage label next
    · rw [h]
      exact Stage.fetches_of_point (by rintro _ _ ⟨⟩)
    · rw [h]
      exact Stage.fetches_none _ _

theorem fetch_fetches {label : String} {batch : Batch} {pending : Stage → Run → Progress}
    (hpending : pending = .moved ∨ pending = .waiting)
    (h : stage.depot.Serves (scenario.requiredAssets label) batch) :
    (run.fetch scenario stage label batch pending).stage.Fetches scenario
      (run.fetch scenario stage label batch pending).run? := by
  unfold fetch
  split
  · exact approach_fetches _ _ _ _
  · intro other place loads hother hpoint
    obtain rfl | rfl := hpending
    all_goals
      cases hother
      cases hpoint
      exact h

/-- **A step keeps the loads of a run those that its label needs.** -/
theorem fetches_step {entry : String} {trail : List Status}
    (habides : run.Abides scenario entry trail) (h : stage.Fetches scenario (some run)) :
    (run.step scenario stage).stage.Fetches scenario (run.step scenario stage).run? := by
  rw [step_eq_carryOut]
  obtain ⟨-, hdeed⟩ | ⟨-, hdeed⟩ := deed_cases scenario stage run
  · rw [hdeed]
    exact Stage.fetches_none _ _
  rw [hdeed]
  obtain ⟨own, point⟩ := run
  unfold intent
  cases point with
  | created =>
    dsimp only
    split
    · exact Stage.fetches_none _ _
    · exact Stage.fetches_of_point (by rintro _ _ ⟨⟩)
  | opening =>
    dsimp only
    split <;> exact Stage.fetches_of_point (by rintro _ _ ⟨⟩)
  | arriving label required =>
    -- The itinerary says that what was required on arrival is what the label requires.
    obtain ⟨rfl, -⟩ := habides
    have hdepot := ((Stage.Emits.refl { stage with depot := (stage.depot.reconcile
      (scenario.requiredAssets label)).1 }).emitAll ((stage.depot.reconcile
      (scenario.requiredAssets label)).2.2.map .asset)).depot
    refine fetch_fetches (.inl rfl) ?_
    rw [Stage.onDepot, hdepot]
    exact Depot.serves_reconcile ..
  | fetching label batch => exact fetch_fetches (.inr rfl) (h _ label batch rfl rfl).resume
  | ready label index next =>
    dsimp only
    split
    · exact Stage.fetches_of_point (by rintro _ _ ⟨⟩)
    · split
      · next command _ =>
        dsimp only [carryOut]
        rw [begin_eq]
        cases scenario.flow command with
        | proceed => exact approach_fetches _ _ _ _
        | goto target => exact approach_fetches _ _ _ _
        | _ => exact Stage.fetches_of_point (by rintro _ _ ⟨⟩)
      · -- A run that is ready has a command to begin.
        next hnone => exact absurd habides.1 (Nat.not_lt.2 (List.getElem?_eq_none_iff.1 hnone))
  | reading label index next =>
    dsimp only
    split
    · exact approach_fetches _ _ _ _
    · exact Stage.fetches_of_point (by rintro _ _ ⟨⟩)
  | choosing label index targets =>
    dsimp only
    split
    · exact approach_fetches _ _ _ _
    · exact Stage.fetches_of_point (by rintro _ _ ⟨⟩)

/-- **A prefetch that is finished** has made the required assets of its label resident, but for
those whose load failed. -/
theorem keys_of_prefetch {entry label : String} {batch : Batch} {trail : List Status}
    (habides : run.Abides scenario entry trail) (h : stage.Fetches scenario (some run))
    (hprefetch : (run.deed scenario stage).prefetch? stage = some (label, batch)) :
    ((run.deed scenario stage).depot stage).resident.keys =
      (scenario.requiredAssets label).filter (· ∉ batch.failed) := by
  have hsorted := scenario.requiredAssets_sorted
  obtain ⟨-, hdeed⟩ | ⟨-, hdeed⟩ := deed_cases scenario stage run
  · rw [hdeed] at hprefetch
    cases hprefetch
  rw [hdeed] at hprefetch ⊢
  obtain ⟨own, point⟩ := run
  unfold intent at hprefetch ⊢
  -- A prefetch is finished on arrival, when nothing has to be waited for, or by a later poll.
  cases point with
  | arriving place required =>
    obtain ⟨rfl, -⟩ := habides
    obtain ⟨hdone, hpair⟩ := Option.ite_none_right_eq_some.1 hprefetch
    cases hpair
    simp only [Deed.depot, Depot.settled, if_pos hdone]
    exact (Depot.serves_reconcile _ _).keys_settle (hsorted _) hdone
  | fetching place loads =>
    obtain ⟨hdone, hpair⟩ := Option.ite_none_right_eq_some.1 hprefetch
    cases hpair
    simp only [Deed.depot, Depot.settled, if_pos hdone]
    exact (h _ _ loads rfl rfl).resume.keys_settle (hsorted _) hdone
  -- The other points finish no prefetch.
  | created =>
    dsimp only at hprefetch
    split at hprefetch <;> cases hprefetch
  | opening =>
    dsimp only at hprefetch
    split at hprefetch <;> cases hprefetch
  | ready place index next =>
    dsimp only at hprefetch
    split at hprefetch
    · cases hprefetch
    · split at hprefetch <;> cases hprefetch
  | reading place index next =>
    dsimp only at hprefetch
    split at hprefetch <;> cases hprefetch
  | choosing place index targets =>
    dsimp only at hprefetch
    split at hprefetch <;> cases hprefetch

/-- While a label is played, no prefetch is finished and the assets are left alone. -/
theorem deed_of_running {now : Status} (hstatus : run.status? = some now)
    (hphase : now.phase = .running) :
    (run.deed scenario stage).prefetch? stage = none ∧
      (run.deed scenario stage).depot stage = stage.depot := by
  obtain ⟨-, hdeed⟩ | ⟨-, hdeed⟩ := deed_cases scenario stage run
  · rw [hdeed]
    exact ⟨rfl, rfl⟩
  rw [hdeed]
  obtain ⟨own, point⟩ := run
  unfold intent
  cases point with
  | created => cases hstatus
  -- Before the label is entered the status shows another phase.
  | opening => cases hstatus; cases hphase
  | arriving label required => cases hstatus; cases hphase
  | fetching label batch => cases hstatus; cases hphase
  | ready label index next =>
    dsimp only
    split
    · exact ⟨rfl, rfl⟩
    · split <;> exact ⟨rfl, rfl⟩
  | reading label index next => dsimp only; split <;> exact ⟨rfl, rfl⟩
  | choosing label index targets => dsimp only; split <;> exact ⟨rfl, rfl⟩

end

end Run

namespace Scenario

variable {scenario : Scenario} {label : String} {index : Nat} {next : Option String}
  {status : Status}

theorem running_notMem_leaveTrail (hphase : status.phase = .running) :
    status ∉ scenario.leaveTrail label next := by
  intro h
  unfold leaveTrail at h
  split at h
  · rw [List.mem_singleton.1 h] at hphase
    cases hphase
  · simp only [List.mem_cons, List.not_mem_nil, or_false] at h
    obtain rfl | rfl := h <;> cases hphase

theorem running_notMem_approachTrail (hphase : status.phase = .running) :
    status ∉ scenario.approachTrail label index next := by
  unfold approachTrail
  split
  · exact List.not_mem_nil
  · exact running_notMem_leaveTrail hphase

end Scenario

namespace Run

section

variable {scenario : Scenario} {stage : Stage} {run : Run}

/-- **A label is played only after a prefetch for it**: a deed that takes on a status of a label
that is played finishes the prefetch of the label, or the label was played before. -/
theorem running_of_mem_trail {status : Status} {deed : Deed}
    (h : status ∈ run.trail scenario stage deed) (hphase : status.phase = .running) :
    (∃ label batch, status.label = some label ∧ deed.prefetch? stage = some (label, batch)) ∨
      stage.status.phase = .running ∧ status.label = stage.status.label := by
  -- Approaching the next command, or leaving the label, takes on no new status of play.
  have happroach : ∀ {now : Status} {label index next},
      status ∈ now :: scenario.approachTrail label index next →
      now.label = stage.status.label → now.phase = stage.status.phase →
      stage.status.phase = .running ∧ status.label = stage.status.label := by
    intro now label index next hmem hlabel hnow
    obtain rfl | hmem := List.mem_cons.1 hmem
    · exact ⟨hnow.symm.trans hphase, hlabel⟩
    · exact absurd hmem (Scenario.running_notMem_approachTrail hphase)
  -- A fetch enters the label only once its batch is done.
  have hfetch : ∀ {label batch}, status ∈ scenario.fetchTrail label batch →
      status.label = some label ∧ batch.isDone = true := by
    intro label batch hmem
    unfold Scenario.fetchTrail at hmem
    split at hmem
    · next hdone =>
      obtain rfl | hmem := List.mem_cons.1 hmem
      · exact ⟨rfl, hdone⟩
      · exact absurd hmem (Scenario.running_notMem_approachTrail hphase)
    · cases hmem
  have hother : ∀ {other : Status}, other.phase ≠ .running → status ∉ [other] := by
    intro other hne hmem
    rw [List.mem_singleton.1 hmem] at hphase
    exact hne hphase
  cases deed with
  | halt => exact absurd h (hother nofun)
  | start => exact absurd h (hother nofun)
  | arrive label => exact absurd h (hother nofun)
  | reconcile label required =>
    obtain ⟨hlabel, hdone⟩ := hfetch h
    exact .inl ⟨label, _, hlabel, if_pos hdone⟩
  | resume label batch =>
    obtain ⟨hlabel, hdone⟩ := hfetch h
    exact .inl ⟨label, _, hlabel, if_pos hdone⟩
  | begin label index next command =>
    right
    cases hflow : scenario.flow command <;> simp only [trail, hflow] at h
    case proceed => exact happroach h rfl rfl
    case goto target => exact happroach h rfl rfl
    all_goals
      simp only [List.mem_cons, List.not_mem_nil, or_false] at h
      obtain rfl | rfl := h <;> exact ⟨hphase, rfl⟩
  | leave label next => exact absurd h (Scenario.running_notMem_leaveTrail hphase)
  | advance label index next => exact .inr (happroach h rfl rfl)
  | choose label index targets answer => exact .inr (happroach h rfl rfl)
  | _ => cases h

theorem begun_of_running {status : Status}
    (h : status ∈ run.trail scenario stage (run.deed scenario stage))
    (hphase : status.phase = .running) : ∃ now, run.status? = some now := by
  obtain ⟨own, point⟩ := run
  cases point with
  | created =>
    -- The first step of a run takes on the status of its start at most.
    exfalso
    obtain ⟨-, hdeed⟩ | ⟨-, hdeed⟩ := deed_cases scenario stage ⟨own, .created⟩
    · rw [hdeed] at h
      rw [List.mem_singleton.1 h] at hphase
      cases hphase
    · rw [hdeed] at h
      dsimp only [intent] at h
      split at h
      · cases h
      · rw [List.mem_singleton.1 h] at hphase
        cases hphase
  | ready label index next => cases index <;> exact ⟨_, rfl⟩
  | _ => exact ⟨_, rfl⟩

end

end Run

/-! ### What a moment makes resident -/

/-- Whether the host releases assets in its turn. -/
def Turn.releases : Turn → Bool
  | .request (.release _) => true
  | .request .releaseAll => true
  | _ => false

namespace Moment

/-- The prefetch that is finished in the moment, if one is. -/
def prefetch? (moment : Moment) : Option (String × Batch) :=
  moment.deed.bind fun deed => deed.prefetch? moment.session.stage

/-- The last prefetch that was finished in moments. -/
def lastPrefetch? (moments : List Moment) : Option (String × Batch) :=
  (moments.filterMap prefetch?).getLast?

/-- The notices of missing sprites of the moment. -/
def absences (moment : Moment) : List Notice :=
  moment.after.stage.absences.drop moment.session.stage.absences.length

theorem lastPrefetch?_snoc (moments : List Moment) (moment : Moment) :
    lastPrefetch? (moments ++ [moment]) = moment.prefetch?.or (lastPrefetch? moments) := by
  rw [lastPrefetch?, List.filterMap_append, List.getLast?_append]
  cases h : moment.prefetch? <;> simp [h, lastPrefetch?]

variable {moment : Moment}

theorem stage_of_deed {deed : Deed} (h : moment.deed = some deed) :
    ∃ run : Run, moment.after.stage =
      (run.carryOut moment.session.scenario moment.session.stage deed).stage := by
  obtain ⟨run, hturn, hrun, rfl⟩ := exists_run_of_deed h
  refine ⟨run, ?_⟩
  rw [after, hturn, Session.turn_step _ hrun, Run.step_eq_carryOut]

theorem depot_of_deed {deed : Deed} (h : moment.deed = some deed) :
    moment.after.stage.depot = deed.depot moment.session.stage := by
  obtain ⟨run, hstage⟩ := stage_of_deed h
  rw [hstage, Run.depot_carryOut]

/-- Where the run takes no step, the stage is as before but for what the host does. -/
theorem stage_of_deed_none (h : moment.deed = none) :
    moment.after.stage.absences = moment.session.stage.absences ∧
      (moment.turn.releases = false →
        moment.after.stage.depot.resident = moment.session.stage.depot.resident) := by
  obtain ⟨session, turn⟩ := moment
  cases turn with
  | request request =>
    cases request with
    | release name => exact ⟨Stage.absences_onDepot _ _, nofun⟩
    | releaseAll => exact ⟨Stage.absences_onDepot _ _, nofun⟩
    | _ => exact ⟨rfl, fun _ => rfl⟩
  | step =>
    cases hrun : session.run with
    | none => simp [after, Session.turn_step_none session hrun]
    | some run => simp [deed, hrun] at h
  | drop =>
    obtain ⟨status, desk, hstage⟩ := stage_of_withdrawn session (.inl rfl)
    rw [hstage]
    exact ⟨rfl, fun _ => rfl⟩
  | leak =>
    obtain ⟨status, desk, hstage⟩ := stage_of_withdrawn session (.inr rfl)
    rw [hstage]
    exact ⟨rfl, fun _ => rfl⟩

theorem absences_of_deed_none (h : moment.deed = none) : moment.absences = [] := by
  rw [absences, (stage_of_deed_none h).1, List.drop_length]

theorem absences_of_deed {deed : Deed} (h : moment.deed = some deed) :
    moment.absences = deed.absences moment.session.scenario moment.session.stage := by
  obtain ⟨run, hstage⟩ := stage_of_deed h
  rw [absences, hstage, Run.absences_carryOut, List.drop_left]

end Moment

namespace Session

/-- After turns the session provides for the label that is played: the loads under way are those of
the label, and once it is played the depot is stocked for it. -/
structure Provides (start : Session) (turns : List Turn) : Prop where
  /-- The loads that a run waits for are those that its label needs. -/
  fetches : (start.after turns).stage.Fetches start.scenario (start.after turns).run
  /-- If the last status that the run took on is that of a label that is played, the depot is
  stocked for the label. -/
  stocked : ∀ status, (Moment.trails (start.history turns)).getLast? = some status →
    status.phase = .running →
    start.scenario.Stocked (Moment.lastPrefetch? (start.history turns))
      (start.after turns).stage.depot.resident status

variable {start : Session} {entry : String} {turns : List Turn} {status : Status}

/-- While a label is played, no prefetch is finished and nothing comes in or goes out. -/
theorem Travels.keeps (htravels : start.Travels entry turns)
    (hlast : (Moment.trails (start.history turns)).getLast? = some status)
    (hphase : status.phase = .running) {turn : Turn} (hreleases : turn.releases = false) :
    Moment.prefetch? ⟨start.after turns, turn⟩ = none ∧
      (Moment.after ⟨start.after turns, turn⟩).stage.depot.resident =
        (start.after turns).stage.depot.resident := by
  cases hdeed : Moment.deed ⟨start.after turns, turn⟩ with
  | none =>
    exact ⟨by rw [Moment.prefetch?, hdeed]; rfl, (Moment.stage_of_deed_none hdeed).2 hreleases⟩
  | some deed =>
    obtain ⟨run, -, hrun, rfl⟩ := Moment.exists_run_of_deed hdeed
    -- The last status of the trail is that of the point where the run is, so the run is in play.
    have hstatus : run.status? = some status := by
      rw [← (htravels.abides hrun).2.getLast?, hlast]
    obtain ⟨hprefetch, hdepot⟩ := Run.deed_of_running hstatus hphase
    exact ⟨by rw [Moment.prefetch?, hdeed]; exact hprefetch,
      by rw [Moment.depot_of_deed hdeed, hdepot]⟩

/-- **Each status of a label that is played is taken on with a depot that is stocked for it.** -/
theorem Provides.stocked_of_mem_trail (h : start.Provides turns)
    (htravels : start.Travels entry turns) {turn : Turn}
    (hmem : status ∈ Moment.trail ⟨start.after turns, turn⟩) (hphase : status.phase = .running) :
    start.scenario.Stocked
      (Moment.lastPrefetch? (start.history turns ++ [⟨start.after turns, turn⟩]))
      (Moment.after ⟨start.after turns, turn⟩).stage.depot.resident status := by
  have hscenario : (start.after turns).scenario = start.scenario := start.after_scenario turns
  cases hrun : (start.after turns).run with
  | none =>
    rw [Moment.trail_of_run_none hrun] at hmem
    cases hmem
  | some run =>
    cases turn with
    | request request => simp only [Moment.trail, List.not_mem_nil] at hmem
    | leak => simp only [Moment.trail, List.not_mem_nil] at hmem
    | drop =>
      -- A run that is dropped takes on the idle status at most.
      simp only [Moment.trail, hrun] at hmem
      split at hmem
      · cases hmem
      · rw [List.mem_singleton.1 hmem] at hphase
        cases hphase
    | step =>
      obtain ⟨-, habides⟩ := htravels.abides hrun
      have hdeed : Moment.deed ⟨start.after turns, .step⟩ =
          some (run.deed start.scenario (start.after turns).stage) := by
        simp only [Moment.deed, hrun, hscenario]
      rw [Moment.trail_step hrun, hscenario] at hmem
      -- The step enters the label after its prefetch, or it plays on in the label that it was in.
      obtain ⟨label, batch, hlabel, hprefetch⟩ | ⟨hrunning, hlabel⟩ :=
        Run.running_of_mem_trail hmem hphase
      · have hkeys := Run.keys_of_prefetch habides (hrun ▸ h.fetches) hprefetch
        refine ⟨label, batch, hlabel, ?_, ?_⟩
        · rw [Moment.lastPrefetch?_snoc, Moment.prefetch?, hdeed, Option.bind_some, hprefetch]
          rfl
        · rw [Moment.depot_of_deed hdeed]
          exact hkeys
      · obtain ⟨now, hnow⟩ := Run.begun_of_running hmem hphase
        have hstage := htravels.status hrun hnow
        rw [hstage] at hrunning hlabel
        have hlast := habides.getLast?.trans hnow
        obtain ⟨label, batch, hplace, hbatch, hkeys⟩ := h.stocked now hlast hrunning
        have hstep : Turn.step.releases = false := rfl
        obtain ⟨hnone, hresident⟩ := htravels.keeps hlast hrunning hstep
        refine ⟨label, batch, hlabel.trans hplace, ?_, hresident ▸ hkeys⟩
        rw [Moment.lastPrefetch?_snoc, hnone]
        exact hbatch

/-- **A turn in which the host releases nothing keeps a session providing.** -/
theorem Provides.snoc (h : start.Provides turns) (htravels : start.Travels entry turns)
    {turn : Turn} (hreleases : turn.releases = false) : start.Provides (turns ++ [turn]) where
  fetches := by
    rw [after_append, after_cons, after_nil]
    cases hrun : (start.after turns).run with
    | none =>
      rw [turn_run_none _ hrun]
      exact Stage.fetches_none _ _
    | some run =>
      cases turn with
      | request request =>
        have hnone : Moment.deed ⟨start.after turns, .request request⟩ = none := rfl
        have hresident := (Moment.stage_of_deed_none hnone).2 hreleases
        intro other label batch hother hpoint
        rw [turn, request_run] at hother
        exact (h.fetches other label batch hother hpoint).of_resident hresident
      | step =>
        rw [turn_step _ hrun, start.after_scenario turns]
        exact Run.fetches_step (htravels.abides hrun).2 (hrun ▸ h.fetches)
      | drop =>
        simp only [turn, hrun]
        exact Stage.fetches_none _ _
      | leak =>
        simp only [turn, hrun]
        exact Stage.fetches_none _ _
  stocked := by
    intro status hlast hphase
    rw [trails_snoc, List.getLast?_append] at hlast
    rw [after_append, after_cons, after_nil, history_append]
    -- Either the turn takes on the status, or the status is that of before and nothing has changed.
    cases htrail : (Moment.trail ⟨start.after turns, turn⟩).getLast? with
    | some last =>
      rw [htrail, Option.some_or, Option.some.injEq] at hlast
      subst hlast
      exact h.stocked_of_mem_trail htravels (List.mem_of_getLast? htrail) hphase
    | none =>
      rw [htrail, Option.none_or] at hlast
      obtain ⟨label, batch, hlabel, hprefetch, hkeys⟩ := h.stocked status hlast hphase
      obtain ⟨hnone, hresident⟩ := htravels.keeps hlast hphase hreleases
      refine ⟨label, batch, hlabel, ?_, hresident ▸ hkeys⟩
      exact (Moment.lastPrefetch?_snoc _ _).trans (by rw [hnone]; exact hprefetch)

theorem provides (session : Session) (label : Option String) (turns : List Turn)
    (hreleases : ∀ turn ∈ turns, turn.releases = false) :
    (session.create label).Provides turns := by
  induction turns using List.reverseRecOn with
  | nil =>
    exact ⟨Stage.fetches_of_point (by rintro _ _ ⟨⟩), nofun⟩
  | append_singleton turns turn ih =>
    have hbefore := ih fun other hother => hreleases other (List.mem_append_left _ hother)
    exact hbefore.snoc (travels session label turns) (hreleases turn (by simp))

/-- **A command that begins finds the sprites of its label**: it shows its character with the
resident handle, unless there is no sprite or its load failed, and only that is noticed. -/
theorem Provides.serves_command (h : start.Provides turns) (htravels : start.Travels entry turns)
    {turn : Turn} {place : String} {index : Nat} {next : Option String} {command : Command}
    (hdeed : Moment.deed ⟨start.after turns, turn⟩ = some (.begin place index next command)) :
    ∃ batch, Moment.lastPrefetch? (start.history turns) = some (place, batch) ∧
      command ∈ start.scenario.commands place ∧
      (∀ id layer words location character,
        command = .character id false layer words location →
        start.scenario.character? id = some character →
        character.sprite ≠ "" → character.sprite ∉ batch.failed →
        ∃ handle rest, (start.after turns).stage.depot.handle? character.sprite = some handle ∧
          Moment.events ⟨start.after turns, turn⟩ = .appear layer character.id handle :: rest) ∧
      Moment.absences ⟨start.after turns, turn⟩ =
        start.scenario.lacking (fun sprite => sprite = "" ∨ sprite ∈ batch.failed) command ++
          (start.scenario.rendered command).filter Notice.isSpriteMissing := by
  have hscenario : (start.after turns).scenario = start.scenario := start.after_scenario turns
  obtain ⟨run, -, hrun, hbegin⟩ := Moment.exists_run_of_deed hdeed
  obtain ⟨hpoint, -, hcommand⟩ := Run.ready_of_begin hbegin
  obtain ⟨-, habides⟩ := htravels.abides hrun
  -- The label has been entered, so its prefetch is the last one and the depot is stocked for it.
  have hnow : ∃ now, run.status? = some now ∧ now.phase = .running ∧ now.label = some place := by
    rw [Run.status?, hpoint]
    cases index <;> exact ⟨_, rfl, rfl, rfl⟩
  obtain ⟨now, hnow, hphase, hlabel⟩ := hnow
  obtain ⟨label, batch, hplace, hlast, hkeys⟩ :=
    h.stocked now (habides.getLast?.trans hnow) hphase
  obtain rfl : place = label := Option.some.inj (hlabel.symm.trans hplace)
  have hmem : command ∈ start.scenario.commands place :=
    hscenario ▸ List.mem_of_getElem? hcommand
  refine ⟨batch, hlast, hmem, ?_, ?_⟩
  · -- With a sprite that did not fail to load, the depot has a handle to show.
    rintro id layer words location character rfl hcharacter hsprite hfailed
    have hlacks := start.scenario.lacks_iff hkeys hmem hcharacter
    obtain ⟨handle, hhandle⟩ := Option.ne_none_iff_exists'.1
      fun hnone => (hlacks.1 hnone).elim hsprite hfailed
    have hevents := Moment.events_of_deed hdeed
    simp only [Deed.events, Scenario.shows, hscenario, hcharacter, hhandle] at hevents
    exact ⟨handle, _, hhandle, hevents⟩
  · -- What is lacking in the depot is what has no sprite or failed to load.
    rw [Moment.absences_of_deed hdeed]
    simp only [Deed.absences, Scenario.absences, hscenario]
    congr 1
    cases command with
    | character id hides layer words location =>
      cases hides with
      | true => rfl
      | false =>
        cases hcharacter : start.scenario.character? id with
        | none => simp only [Scenario.lacking, hcharacter]
        | some character =>
          have hlacks := start.scenario.lacks_iff hkeys hmem hcharacter
          simp only [Scenario.lacking, hcharacter, Option.isNone_iff_eq_none, hlacks,
            decide_eq_true_iff]
    | _ => rfl

/-- **Prefetching is complete for the label that it serves**, whatever the host does but release
assets. From the status in which a label is entered to the last one of the visit, the resident
assets are those that the label requires, less those whose load failed in the prefetch of the label:
the last one that was finished. So a command that shows a character whose sprite did not fail to
load shows it with the resident handle. A missing sprite is noticed exactly for the commands that
show a character without a sprite or with one that failed to load; what the tags of a text notice
comes on top of that. -/
theorem prefetch_is_complete (session : Session) (label : Option String) (turns : List Turn)
    (hreleases : ∀ turn ∈ turns, turn.releases = false) :
    ∀ past moment late, (session.create label).history turns = past ++ moment :: late →
      let scenario := session.scenario
      let depot := moment.session.stage.depot
      (∀ status, (Moment.trails past).getLast? = some status → status.phase = .running →
        scenario.Stocked (Moment.lastPrefetch? past) depot.resident status) ∧
      (∀ status ∈ moment.trail, status.phase = .running →
        scenario.Stocked (Moment.lastPrefetch? (past ++ [moment]))
          moment.after.stage.depot.resident status) ∧
      (∀ place index next command, moment.deed = some (.begin place index next command) →
        ∃ batch, Moment.lastPrefetch? past = some (place, batch) ∧
          command ∈ scenario.commands place ∧
          (∀ id layer words location character,
            command = .character id false layer words location →
            scenario.character? id = some character →
            character.sprite ≠ "" → character.sprite ∉ batch.failed →
            ∃ handle rest, depot.handle? character.sprite = some handle ∧
              moment.events = .appear layer character.id handle :: rest) ∧
          moment.absences =
            scenario.lacking (fun sprite => sprite = "" ∨ sprite ∈ batch.failed) command ++
              (scenario.rendered command).filter Notice.isSpriteMissing) ∧
      (moment.deed.bind Deed.command? = none → moment.absences = []) := by
  intro past moment late hhistory scenario depot
  -- A moment of the history is reached by its own past, in which nothing was released either.
  obtain ⟨first, rest, rfl, rfl, hsession, -⟩ := exists_turns_of_history _ hhistory
  obtain ⟨now, turn⟩ := moment
  obtain rfl : now = (session.create label).after first := hsession
  have htravels := travels session label first
  have hprovides := provides session label first fun other hother =>
    hreleases other (List.mem_append_left _ hother)
  have hscenario : ((session.create label).after first).scenario = scenario :=
    after_scenario _ first
  refine ⟨hprovides.stocked, fun status => hprovides.stocked_of_mem_trail htravels, ?_, ?_⟩
  · intro place index next command hdeed
    exact hprovides.serves_command htravels hdeed
  · intro hcommand
    cases hdeed : Moment.deed ⟨(session.create label).after first, turn⟩ with
    | none => exact Moment.absences_of_deed_none hdeed
    | some deed =>
      rw [Moment.absences_of_deed hdeed]
      rw [hdeed] at hcommand
      cases deed with
      -- Only a command that begins can notice a missing sprite.
      | begin place index next command => cases hcommand
      | _ => rfl

/-- The character of a session that shows one. -/
def hero : Character :=
  { id := "hero", name := "Hero", x := default, y := default, scale := default,
    sprite := "hero.png", voice := none, color := .white }

/-- A session of a label that shows a character. -/
def oneHero : Session :=
  .new
    (.new ⟨Dict.empty.insert "Start"
        ⟨"Start", "intro", [.character "hero" false "center" none (.row "intro" 2)]⟩⟩
      ⟨Dict.empty.insert "hero" hero⟩)
    "Start" .ready []

/-- The character appears with the handle that its sprite was loaded with. -/
theorem oneHero_appears :
    (∀ turn ∈ [Turn.step, .step, .step, .step], turn.releases = false) ∧
    ∃ handle rest,
      ((oneHero.create none).after [.step, .step, .step]).stage.depot.handle? "hero.png" =
        some handle ∧
      Moment.events ⟨(oneHero.create none).after [.step, .step, .step], .step⟩ =
        .appear "center" "hero" handle :: rest := by
  have hreleases : ∀ turn ∈ [Turn.step, .step, .step, .step], turn.releases = false := by decide
  refine ⟨hreleases, ?_⟩
  obtain ⟨-, -, hserves, -⟩ := prefetch_is_complete oneHero none [.step, .step, .step, .step]
    hreleases ((oneHero.create none).history [.step, .step, .step])
    ⟨(oneHero.create none).after [.step, .step, .step], .step⟩ [] rfl
  obtain ⟨batch, hlast, -, happears, -⟩ := hserves "Start" 0 none
    (.character "hero" false "center" none (.row "intro" 2)) rfl
  have hfailed : batch.failed = [] := by
    have hsome := hlast.symm.trans (rfl : _ = some ("Start", _))
    cases hsome
    rfl
  exact happears "hero" "center" none _ hero rfl rfl (by decide) (by simp [hfailed])

end Session

end Storyboard
