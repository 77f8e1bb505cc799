import Storyboard.Proofs.Asset.Custody
import Storyboard.Proofs.Player.Itinerary
import Storyboard.Proofs.Player.Latch
import Storyboard.Proofs.Player.Prefetch

/-!
# What becomes of the handles of a run

A run has the store load assets, and each load that succeeds yields a handle. While a prefetch is
pending the handles of its finished loads are held by the prefetch alone. A run that is stopped or
given up at that point takes them with it: they are neither resident nor given back
(`Moment.forsaken`). All other handles are accounted for. In each moment the handles that come in
are those that go out (`Moment.count_after`), so once a run is over each handle that it had the
store yield is in exactly one place
(`Session.loaded_handles_are_resident_released_or_forsaken`).
-/

namespace Storyboard

/-! ### Prefetches that are pending -/

/-- The prefetch that a run waits for. -/
def Run.batch? (run : Run) : Option Batch :=
  match run.point with
  | .fetching _ batch => some batch
  | _ => none

namespace Deed

/-- The handles that the store yields in a deed. -/
def produced (stage : Stage) : Deed → List Handle
  | reconcile _ required => Load.yield stage.depot.store (stage.depot.startLoads required)
  | resume _ batch => Load.yield stage.depot.store batch.loads
  | _ => []

/-- The prefetch that is pending after a deed. -/
def batch? (stage : Stage) : Deed → Option Batch
  | reconcile _ required =>
    let batch := (stage.depot.reconcile required).2.1
    if batch.isDone then none else some batch
  | resume _ batch =>
    let batch := (stage.depot.resume batch).2
    if batch.isDone then none else some batch
  | _ => none

end Deed

/-- Where a run comes to: whether it waits for a prefetch, and what it requires at a label. -/
structure Progress.Lands (scenario : Scenario) (batch? : Option Batch) (progress : Progress) :
    Prop where
  /-- The prefetch that the run waits for. -/
  batch : progress.run?.bind Run.batch? = batch?
  /-- A run that comes to a label requires the assets of the label. -/
  required : ∀ run label required, progress.run? = some run → run.point = .arriving label required →
    required = scenario.requiredAssets label

namespace Run

section

variable (scenario : Scenario) (run : Run) (stage : Stage) (label : String) (index : Nat)
  (next : Option String)

theorem lands_of_point {progress : Progress} {point : Point} (entry : String)
    (h : progress.run? = some ⟨entry, point⟩)
    (hfetching : ∀ label batch, point ≠ .fetching label batch)
    (harriving : ∀ label required, point ≠ .arriving label required) :
    progress.Lands scenario none where
  batch := by
    rw [h, Option.bind_some, batch?]
    dsimp only
    split
    · next label batch => exact absurd rfl (hfetching label batch)
    · rfl
  required := by
    intro other label required hother hpoint
    obtain rfl := Option.some.inj (h.symm.trans hother)
    exact absurd hpoint (harriving label required)

theorem lands_of_ended {progress : Progress} (h : progress.run? = none) :
    progress.Lands scenario none where
  batch := by rw [h, Option.bind_none]
  required := by
    intro other label required hother
    rw [h] at hother
    cases hother

theorem approach_lands : (run.approach scenario stage label index next).Lands scenario none := by
  obtain ⟨-, h⟩ | ⟨-, h⟩ := approach_cases scenario run stage label index next
  · rw [h]
    exact lands_of_point scenario run.entry rfl nofun nofun
  · rw [h]
    obtain ⟨target, -, h⟩ | ⟨-, notices, h⟩ := leave_cases scenario run stage label next
    · rw [h]
      refine ⟨rfl, ?_⟩
      rintro _ _ _ ⟨⟩ ⟨⟩
      rfl
    · rw [h]
      exact lands_of_ended scenario rfl

theorem fetch_lands (batch : Batch) {pending : Stage → Run → Progress}
    (hpending : pending = .moved ∨ pending = .waiting) :
    (run.fetch scenario stage label batch pending).Lands scenario
      (if batch.isDone then none else some batch) := by
  unfold fetch
  split
  · exact approach_lands ..
  · obtain rfl | rfl := hpending
    all_goals
      refine ⟨rfl, ?_⟩
      rintro _ _ _ ⟨⟩ ⟨⟩

/-- **A step leaves the prefetch pending that belongs to its deed**, and none otherwise. -/
theorem step_lands :
    (run.step scenario stage).Lands scenario ((run.deed scenario stage).batch? stage) := by
  rw [step_eq_carryOut]
  obtain ⟨-, hdeed⟩ | ⟨-, hdeed⟩ := deed_cases scenario stage run
  · rw [hdeed]
    -- A stopped run is over, and its prefetch with it.
    exact lands_of_ended scenario rfl
  rw [hdeed]
  obtain ⟨entry, point⟩ := run
  unfold intent
  cases point with
  | created =>
    dsimp only
    split
    · exact lands_of_ended scenario rfl
    · exact lands_of_point scenario entry rfl (by simp) (by simp)
  | opening =>
    dsimp only
    split
    · exact lands_of_point scenario entry rfl (by simp) (by simp)
    · -- The first label is arrived at with the assets that it requires.
      refine ⟨rfl, ?_⟩
      rintro _ _ _ ⟨⟩ ⟨⟩
      rfl
  | arriving label required => exact fetch_lands _ _ _ _ _ (.inl rfl)
  | fetching label batch => exact fetch_lands _ _ _ _ _ (.inr rfl)
  | ready label index next =>
    dsimp only
    split
    · exact lands_of_point scenario entry rfl (by simp) (by simp)
    · split
      · next command hcommand =>
        rw [carryOut, begin_eq]
        dsimp only [Deed.batch?]
        cases scenario.flow command with
        | proceed => exact approach_lands ..
        | goto target => exact approach_lands ..
        | awaitLine => exact lands_of_point scenario entry rfl (by simp) (by simp)
        | awaitSelection targets => exact lands_of_point scenario entry rfl (by simp) (by simp)
      · next hnone =>
        -- Past the last command the run leaves the label, as if it had just passed one.
        have hle : (scenario.commands label).length ≤ index := List.getElem?_eq_none_iff.1 hnone
        have happroach := approach_lands scenario ⟨entry, .ready label index next⟩ stage label
          index next
        rw [approach, if_neg (Nat.not_lt.2 hle)] at happroach
        exact happroach
  | reading label index next =>
    dsimp only
    split
    · exact approach_lands ..
    · exact lands_of_point scenario entry rfl (by simp) (by simp)
  | choosing label index targets =>
    dsimp only
    split
    · exact approach_lands ..
    · exact lands_of_point scenario entry rfl (by simp) (by simp)

end

end Run

/-! ### Depots and prefetches in order -/

/-- The depot is sound, the prefetch that the run waits for fits it, and a run that comes to a label
requires each asset once. -/
structure Stage.Sound (stage : Stage) (run? : Option Run) : Prop where
  /-- Each resident handle stands under its own name. -/
  depot : stage.depot.Sound
  /-- The prefetch fits the depot. -/
  batch : ∀ batch, run?.bind Run.batch? = some batch → stage.depot.Fits batch
  /-- The required assets are distinct. -/
  required : ∀ run label required, run? = some run → run.point = .arriving label required →
    required.Nodup

/-- The handle that an event gives back to the store. -/
def Event.returned? : Event → Option Handle
  | .asset event => event.returned?
  | _ => none

/-- The handles that a run leaves behind in a deed: those that its prefetch holds when it halts. -/
def Deed.forsaken (run : Run) : Deed → List Handle
  | halt => heldBy run.batch?
  | _ => []

namespace Run

/-- A deed keeps the assets of a run in order, and the handles in balance. -/
structure Balances (scenario : Scenario) (stage : Stage) (run : Run) (deed : Deed) : Prop where
  /-- The depot stays sound. -/
  depot : (deed.depot stage).Sound
  /-- The prefetch that is pending fits the depot. -/
  batch : ∀ batch, deed.batch? stage = some batch → (deed.depot stage).Fits batch
  /-- The store counts the handles that it yields. -/
  served : (deed.depot stage).store.served =
    stage.depot.store.served + (deed.produced stage).length
  /-- Their numbers are the next ones. -/
  serials : (deed.produced stage).map (·.serial) =
    List.range' (stage.depot.store.served + 1) (deed.produced stage).length
  /-- What comes in goes out. -/
  count : ∀ handle, stage.depot.holdings.count handle + (heldBy run.batch?).count handle +
      (deed.produced stage).count handle =
    (deed.depot stage).holdings.count handle + (heldBy (deed.batch? stage)).count handle +
      ((deed.events scenario stage).filterMap Event.returned?).count handle +
      (deed.forsaken run).count handle

section

variable {scenario : Scenario} {stage : Stage} {run : Run}

theorem returned_shows (scenario : Scenario) (resident : String → Option Handle)
    (command : Command) : (scenario.shows resident command).filterMap Event.returned? = [] := by
  refine List.filterMap_eq_nil_iff.2 fun event hevent => ?_
  have hphase := scenario.phase_of_mem_shows hevent
  cases event with
  | asset event => cases hphase
  | _ => rfl

theorem returned_assets (events : List AssetEvent) :
    (events.map .asset).filterMap Event.returned? = events.filterMap AssetEvent.returned? := by
  rw [List.filterMap_map]
  rfl

/-- A deed that leaves the assets alone, of a run that waits for no prefetch. -/
theorem balances_of_quiet {deed : Deed} (h : stage.depot.Sound) (hbefore : run.batch? = none)
    (hdepot : deed.depot stage = stage.depot) (hproduced : deed.produced stage = [])
    (hafter : deed.batch? stage = none)
    (hreturned : (deed.events scenario stage).filterMap Event.returned? = [])
    (hforsaken : deed.forsaken run = []) : run.Balances scenario stage deed where
  depot := hdepot.symm ▸ h
  batch := by simp [hafter]
  served := by rw [hdepot, hproduced]; rfl
  serials := by rw [hproduced]; rfl
  count handle := by rw [hbefore, hdepot, hproduced, hafter, hreturned, hforsaken]; rfl

theorem balances_halt (h : stage.depot.Sound) : run.Balances scenario stage .halt where
  depot := h
  batch := nofun
  served := rfl
  serials := rfl
  count handle := by
    simp [Deed.produced, Deed.depot, Deed.batch?, Deed.events, Deed.forsaken, heldBy]

theorem balances_reconcile {label : String} {required : List String} (h : stage.depot.Sound)
    (hdistinct : required.Nodup) (hbefore : run.batch? = none) :
    run.Balances scenario stage (.reconcile label required) := by
  have hfits := stage.depot.fits_reconcile hdistinct
  have hserved := stage.depot.served_reconcile required
  have hsound : (stage.depot.reconcile required).1.Sound :=
    h.of_le (fun _ _ => Depot.handle?_of_reconcile) (hserved ▸ Nat.le_add_right _ _)
  refine ⟨hsound.settled hfits, Depot.fits_settled hfits, ?_, (Load.serial_yield _ _).1, ?_⟩
  · rw [Deed.depot, Depot.served_settled, hserved]
    rfl
  · -- What is released comes back, and what is loaded is registered or still pending.
    intro handle
    have hreconcile := stage.depot.count_reconcile required handle
    have hsettled := Depot.count_settled hfits handle
    rw [hbefore, Deed.events, returned_assets]
    simp only [heldBy, Option.elim_none, List.count_nil, Deed.forsaken, Deed.produced, Deed.depot,
      Deed.batch?] at hsettled ⊢
    omega

theorem balances_resume {label : String} {batch : Batch} (h : stage.depot.Sound)
    (hfits : stage.depot.Fits batch) (hbefore : run.batch? = some batch) :
    run.Balances scenario stage (.resume label batch) := by
  have hfits' := Depot.fits_resume hfits
  have hserved := stage.depot.served_resume batch
  have hsound : (stage.depot.resume batch).1.Sound :=
    h.of_le (fun _ _ => id) (hserved ▸ Nat.le_add_right _ _)
  refine ⟨hsound.settled hfits', Depot.fits_settled hfits', ?_, (Load.serial_yield _ _).1, ?_⟩
  · rw [Deed.depot, Depot.served_settled, hserved]
    rfl
  · -- The batch was pending before, and what it now yields comes on top of what it held.
    intro handle
    have hresume := stage.depot.count_resume batch handle
    have hsettled := Depot.count_settled hfits' handle
    have hholdings : (stage.depot.resume batch).1.holdings = stage.depot.holdings := rfl
    rw [hholdings] at hsettled
    rw [hbefore]
    simp only [heldBy, Option.elim_some, List.filterMap_nil, List.count_nil, Deed.forsaken,
      Deed.produced, Deed.depot, Deed.batch?, Deed.events] at hsettled ⊢
    omega

/-- **A step keeps the handles in balance.** -/
theorem balances_deed (scenario : Scenario) (h : stage.Sound (some run)) :
    run.Balances scenario stage (run.deed scenario stage) := by
  obtain ⟨-, hdeed⟩ | ⟨-, hdeed⟩ := deed_cases scenario stage run
  · rw [hdeed]
    exact balances_halt h.depot
  rw [hdeed]
  obtain ⟨entry, point⟩ := run
  unfold intent
  -- Handles change hands only while a label is fetched; everywhere else the depot is untouched.
  cases point with
  | arriving label required =>
    exact balances_reconcile h.depot (h.required _ label required rfl rfl) rfl
  | fetching label batch => exact balances_resume h.depot (h.batch batch rfl) rfl
  | created =>
    dsimp only
    split <;> exact balances_of_quiet h.depot rfl rfl rfl rfl rfl rfl
  | opening =>
    dsimp only
    split <;> exact balances_of_quiet h.depot rfl rfl rfl rfl rfl rfl
  | ready label index next =>
    dsimp only
    split
    · exact balances_of_quiet h.depot rfl rfl rfl rfl rfl rfl
    · split
      · exact balances_of_quiet h.depot rfl rfl rfl rfl (returned_shows ..) rfl
      · exact balances_of_quiet h.depot rfl rfl rfl rfl rfl rfl
  | reading label index next =>
    dsimp only
    split <;> exact balances_of_quiet h.depot rfl rfl rfl rfl rfl rfl
  | choosing label index targets =>
    dsimp only
    split <;> exact balances_of_quiet h.depot rfl rfl rfl rfl rfl rfl

/-- **A step keeps depot and prefetch in order.** -/
theorem sound_step (h : stage.Sound (some run)) :
    (run.step scenario stage).stage.Sound (run.step scenario stage).run? := by
  have hbalances := balances_deed scenario h
  have hlands := step_lands scenario run stage
  have hdepot : (run.step scenario stage).stage.depot =
      (run.deed scenario stage).depot stage := by
    rw [step_eq_carryOut, depot_carryOut]
  refine ⟨hdepot ▸ hbalances.depot, fun batch hbatch => ?_, ?_⟩
  · rw [hdepot]
    exact hbalances.batch batch (hlands.batch.symm.trans hbatch)
  · intro run' label required hrun' hpoint
    rw [hlands.required run' label required hrun' hpoint]
    exact (scenario.requiredAssets_sorted label).nodup

end

end Run

/-! ### The balance of a moment -/

namespace Session

/-- The assets of a session are in order. -/
def Sound (session : Session) : Prop := session.stage.Sound session.run

/-- The handles that the prefetch of the run in progress holds. -/
def pending (session : Session) : List Handle := heldBy (session.run.bind Run.batch?)

end Session

namespace Moment

/-- The handles that the store yields in the moment. -/
def produced (moment : Moment) : List Handle :=
  moment.deed.elim [] (·.produced moment.session.stage)

/-- The handles that the store gets back in the moment. -/
def returned (moment : Moment) : List Handle := moment.events.filterMap Event.returned?

/-- The handles that the run leaves behind in the moment: those that its prefetch holds when the run
is cut off. -/
def forsaken (moment : Moment) : List Handle :=
  match moment.turn, moment.session.run with
  | .step, some run => (run.deed moment.session.scenario moment.session.stage).forsaken run
  | .drop, some run => heldBy run.batch?
  | .leak, some run => heldBy run.batch?
  | _, _ => []

variable {moment : Moment}

theorem onDepot_depot (stage : Stage) (result : Depot × List AssetEvent) :
    (stage.onDepot result).depot = result.1 :=
  ((Stage.Emits.refl { stage with depot := result.1 }).emitAll (result.2.map .asset)).depot

/-- **In a moment in which no run takes a step** the store yields nothing, and at most handles are
released. -/
theorem exists_released_of_deed_none (h : moment.deed = none) :
    ∃ names, moment.after.stage.depot.resident =
        (moment.session.stage.depot.releaseEach names).1.resident ∧
      moment.after.stage.depot.store.served = moment.session.stage.depot.store.served ∧
      moment.returned = (moment.session.stage.depot.releaseEach names).2.filterMap
        AssetEvent.returned? := by
  have hreturned : ∀ {moment : Moment} {events : List AssetEvent},
      moment.after.stage.log = moment.session.stage.log ++ events.map .asset →
      moment.returned = events.filterMap AssetEvent.returned? := by
    intro moment events hlog
    rw [returned, events_eq hlog, Run.returned_assets]
  have hquiet : ∀ {moment : Moment}, moment.after.stage.log = moment.session.stage.log →
      moment.returned = [] := by
    intro moment hlog
    rw [returned, events_eq (hlog.trans (List.append_nil _).symm), List.filterMap_nil]
  obtain ⟨session, turn⟩ := moment
  -- The host may release one asset or all of them, which is to release each of a list.
  have hreleased : ∀ {names : List String}, after ⟨session, turn⟩ = session.onStage (fun stage =>
        stage.onDepot (stage.depot.releaseEach names)) →
      (after ⟨session, turn⟩).stage.depot.resident =
          (session.stage.depot.releaseEach names).1.resident ∧
        (after ⟨session, turn⟩).stage.depot.store.served = session.stage.depot.store.served ∧
        returned ⟨session, turn⟩ =
          (session.stage.depot.releaseEach names).2.filterMap AssetEvent.returned? := by
    intro names hafter
    have hdepot := onDepot_depot session.stage (session.stage.depot.releaseEach names)
    have hlog := Stage.log_onDepot session.stage (session.stage.depot.releaseEach names)
    refine ⟨?_, ?_, hreturned (by rw [hafter]; exact hlog)⟩
    · rw [hafter]
      exact congrArg Depot.resident hdepot
    · rw [hafter]
      refine congrArg Store.served ((congrArg Depot.store hdepot).trans ?_)
      exact Depot.store_releaseEach _ _
  cases turn with
  | request request =>
    cases request with
    | release name => exact ⟨[name], hreleased (session.request_release name)⟩
    | releaseAll => exact ⟨session.stage.depot.resident.keys, hreleased rfl⟩
    -- No other request touches the depot: nothing is released.
    | _ => exact ⟨[], rfl, rfl, hquiet rfl⟩
  | step =>
    cases hrun : session.run with
    | none =>
      have hafter : after ⟨session, .step⟩ = session := by
        rw [after, Session.turn_step_none session hrun]
      exact ⟨[], by rw [hafter]; rfl, by rw [hafter], hquiet (by rw [hafter])⟩
    | some run => simp [deed, hrun] at h
  | drop =>
    obtain ⟨status, desk, hstage⟩ := stage_of_withdrawn session (.inl rfl)
    exact ⟨[], by rw [hstage]; rfl, by rw [hstage], hquiet (by rw [hstage]; rfl)⟩
  | leak =>
    obtain ⟨status, desk, hstage⟩ := stage_of_withdrawn session (.inr rfl)
    exact ⟨[], by rw [hstage]; rfl, by rw [hstage], hquiet (by rw [hstage]; rfl)⟩

/-- A run that takes no step in a moment is in progress after it, or it was cut off with all that
its prefetch holds. -/
theorem run_of_deed_none (h : moment.deed = none) :
    (moment.after.run = moment.session.run ∧ moment.forsaken = []) ∨
    (moment.after.run = none ∧ moment.forsaken = heldBy (moment.session.run.bind Run.batch?)) := by
  obtain ⟨session, turn⟩ := moment
  cases hrun : session.run with
  | none =>
    -- Without a run there is no prefetch, and nothing to leave behind.
    refine .inr ⟨session.turn_run_none hrun turn, ?_⟩
    cases turn <;> simp only [forsaken, hrun] <;> rfl
  | some run =>
    cases turn with
    | request request => exact .inl ⟨session.request_run request ▸ hrun, rfl⟩
    | step => simp [deed, hrun] at h
    | drop =>
      exact .inr ⟨by simp [after, Session.turn, hrun, Session.drop], by simp [forsaken, hrun]⟩
    | leak =>
      exact .inr ⟨by simp [after, Session.turn, hrun, Session.leak], by simp [forsaken, hrun]⟩

/-- **A moment keeps the assets of a session in order.** -/
theorem sound_after (moment : Moment) (h : moment.session.Sound) : moment.after.Sound := by
  cases hdeed : moment.deed with
  | some deed =>
    obtain ⟨run, hturn, hrun, -⟩ := Moment.exists_run_of_deed hdeed
    unfold Session.Sound at h ⊢
    rw [hrun] at h
    rw [after, hturn, Session.turn_step _ hrun]
    exact Run.sound_step h
  | none =>
    obtain ⟨names, hresident, hserved, -⟩ := Moment.exists_released_of_deed_none hdeed
    -- Releasing takes handles away and adds none, so what was in order stays so.
    have hkept : ∀ name handle, moment.after.stage.depot.handle? name = some handle →
        moment.session.stage.depot.handle? name = some handle := by
      intro name handle hhandle
      rw [Depot.handle?, hresident] at hhandle
      exact Depot.handle?_of_releaseEach hhandle
    have hrun : ∀ run, moment.after.run = some run → moment.session.run = some run := by
      obtain ⟨hsame, -⟩ | ⟨hnone, -⟩ := Moment.run_of_deed_none hdeed
      · exact fun run => (hsame ▸ ·)
      · exact fun run hrun => by simp [hnone] at hrun
    refine ⟨h.depot.of_le hkept hserved.ge, fun batch hbatch => ?_, ?_⟩
    · obtain ⟨run, hafter, hpending⟩ := Option.bind_eq_some_iff.1 hbatch
      have hfits := h.batch batch (by rw [hrun run hafter]; exact hpending)
      exact hfits.of_le hkept hserved.ge
    · exact fun run label required hafter => h.required run label required (hrun run hafter)

/-- **What comes in goes out**: in a moment, what was resident or pending and what the store yields
is resident or pending after it, or it was given back, or it was left behind. -/
theorem count_after (moment : Moment) (h : moment.session.Sound) (handle : Handle) :
    moment.session.stage.depot.holdings.count handle + moment.session.pending.count handle +
        moment.produced.count handle =
      moment.after.stage.depot.holdings.count handle + moment.after.pending.count handle +
        moment.returned.count handle + moment.forsaken.count handle := by
  cases hdeed : moment.deed with
  | some deed =>
    obtain ⟨session, turn⟩ := moment
    obtain ⟨run, rfl, hrun, rfl⟩ := exists_run_of_deed hdeed
    -- The balance of the deed is the balance of the moment, quantity by quantity.
    have hsound : session.stage.Sound (some run) := hrun ▸ h
    have hcount := (Run.balances_deed session.scenario hsound).count handle
    have hdepot := depot_of_deed hdeed
    have hlands := Run.step_lands session.scenario run session.stage
    have hpending : (after ⟨session, .step⟩).pending =
        heldBy ((run.deed session.scenario session.stage).batch? session.stage) := by
      rw [Session.pending, after, Session.turn_step _ hrun]
      exact congrArg heldBy hlands.batch
    have hfinale : (finale ⟨session, .step⟩).filterMap Event.returned? = [] := by
      unfold finale
      split <;> rfl
    have hreturned : returned ⟨session, .step⟩ =
        ((run.deed session.scenario session.stage).events session.scenario
          session.stage).filterMap Event.returned? := by
      rw [returned, events_of_deed hdeed, List.filterMap_append, hfinale,
        List.append_nil]
    have hforsaken : forsaken ⟨session, .step⟩ =
        (run.deed session.scenario session.stage).forsaken run := by
      have hrun : session.run = some run := hrun
      simp only [forsaken, hrun]
    rw [hdepot, hpending, hreturned, hforsaken, Session.pending, hrun, produced, hdeed]
    exact hcount
  | none =>
    obtain ⟨names, hresident, -, hreturned⟩ := exists_released_of_deed_none hdeed
    have hcount := moment.session.stage.depot.count_releaseEach names handle
    have hholdings : moment.after.stage.depot.holdings =
        (moment.session.stage.depot.releaseEach names).1.holdings :=
      congrArg Dict.values hresident
    have hproduced : moment.produced = [] := by rw [produced, hdeed, Option.elim_none]
    rw [hproduced, hholdings, hreturned]
    obtain ⟨hrun, hforsaken⟩ | ⟨hrun, hforsaken⟩ := run_of_deed_none hdeed
    · -- The run goes on and keeps what its prefetch holds.
      rw [Session.pending, Session.pending, hrun, hforsaken, List.count_nil]
      omega
    · -- The run is cut off, and all that was pending is left behind.
      rw [Session.pending, Session.pending, hrun, hforsaken]
      simp only [heldBy, Option.bind_none, Option.elim_none, List.count_nil]
      omega

theorem served_after (moment : Moment) (h : moment.session.Sound) :
    moment.after.stage.depot.store.served =
        moment.session.stage.depot.store.served + moment.produced.length ∧
      moment.produced.map (·.serial) =
        List.range' (moment.session.stage.depot.store.served + 1) moment.produced.length := by
  cases hdeed : moment.deed with
  | some deed =>
    obtain ⟨run, -, hrun, rfl⟩ := exists_run_of_deed hdeed
    have hsound : moment.session.stage.Sound (some run) := hrun ▸ h
    have hbalances := Run.balances_deed moment.session.scenario hsound
    rw [depot_of_deed hdeed, produced, hdeed]
    exact ⟨hbalances.served, hbalances.serials⟩
  | none =>
    obtain ⟨names, -, hserved, -⟩ := exists_released_of_deed_none hdeed
    rw [produced, hdeed]
    exact ⟨hserved, rfl⟩

/-- **A run leaves handles behind only when it is cut off while its prefetch is pending**: those
that the prefetch holds. -/
theorem forsaken_cases (moment : Moment) (h : moment.forsaken ≠ []) :
    (moment.ending = some (.outcome .stopped) ∨ moment.ending = some .dropped ∨
      moment.ending = some .leaked) ∧
    ∃ run label batch, moment.session.run = some run ∧ run.point = .fetching label batch ∧
      moment.forsaken = batch.handles := by
  -- Only a run that is fetching holds handles that are not registered yet.
  have hheld : ∀ run : Run, heldBy run.batch? ≠ [] →
      ∃ label batch, run.point = .fetching label batch ∧ heldBy run.batch? = batch.handles := by
    rintro ⟨entry, point⟩ hne
    cases point with
    | fetching label batch => exact ⟨label, batch, rfl, rfl⟩
    | _ => exact absurd rfl hne
  obtain ⟨session, turn⟩ := moment
  cases hrun : session.run with
  | none => exact absurd (by cases turn <;> simp only [forsaken, hrun]) h
  | some run =>
    have hcut : forsaken ⟨session, turn⟩ = heldBy run.batch? →
        ∃ other label batch, some run = some other ∧ other.point = .fetching label batch ∧
          forsaken ⟨session, turn⟩ = batch.handles := by
      intro hforsaken
      obtain ⟨label, batch, hpoint, hhandles⟩ := hheld run (hforsaken ▸ h)
      exact ⟨run, label, batch, rfl, hpoint, hforsaken.trans hhandles⟩
    cases turn with
    | request request => exact absurd rfl h
    | drop =>
      refine ⟨.inr (.inl (by simp [ending, Session.turn, hrun])), hcut ?_⟩
      simp only [forsaken, hrun]
    | leak =>
      refine ⟨.inr (.inr (by simp [ending, Session.turn, hrun])), hcut ?_⟩
      simp only [forsaken, hrun]
    | step =>
      have hforsaken : forsaken ⟨session, .step⟩ =
          (run.deed session.scenario session.stage).forsaken run := by
        simp only [forsaken, hrun]
      -- Of the deeds of a step, only halting leaves anything behind.
      have hhalt : run.deed session.scenario session.stage = .halt := by
        cases hdeed : run.deed session.scenario session.stage with
        | halt => rfl
        | _ =>
          rw [hforsaken, hdeed] at h
          exact absurd rfl h
      rw [hhalt] at hforsaken
      refine ⟨.inl ?_, hcut hforsaken⟩
      rw [ending, Session.turn_step session hrun, Run.step_eq_carryOut, hhalt]
      rfl

end Moment

namespace Session

theorem count_history {session : Session} (h : session.Sound) (turns : List Turn)
    (handle : Handle) :
    session.stage.depot.holdings.count handle + session.pending.count handle +
        ((session.history turns).flatMap Moment.produced).count handle =
      (session.after turns).stage.depot.holdings.count handle +
        (session.after turns).pending.count handle +
        ((session.history turns).flatMap Moment.returned).count handle +
        ((session.history turns).flatMap Moment.forsaken).count handle := by
  induction turns generalizing session with
  | nil => rfl
  | cons turn rest ih =>
    have hfirst := Moment.count_after ⟨session, turn⟩ h handle
    have hrest := ih (Moment.sound_after ⟨session, turn⟩ h)
    have hafter : session.after (turn :: rest) = (Moment.after ⟨session, turn⟩).after rest := rfl
    have hhistory : session.history (turn :: rest) =
        ⟨session, turn⟩ :: (Moment.after ⟨session, turn⟩).history rest := rfl
    simp only [hafter, hhistory, List.flatMap_cons, List.count_append]
    dsimp only at hfirst
    omega

/-- **The numbers of the handles that a session has the store yield are consecutive.** -/
theorem serial_history {session : Session} (h : session.Sound) (turns : List Turn) :
    ((session.history turns).flatMap Moment.produced).map (·.serial) =
      List.range' (session.stage.depot.store.served + 1)
        ((session.history turns).flatMap Moment.produced).length := by
  induction turns generalizing session with
  | nil => rfl
  | cons turn rest ih =>
    obtain ⟨hserved, hserials⟩ := Moment.served_after ⟨session, turn⟩ h
    have hrest := ih (Moment.sound_after ⟨session, turn⟩ h)
    have hhistory : session.history (turn :: rest) =
        ⟨session, turn⟩ :: (Moment.after ⟨session, turn⟩).history rest := rfl
    rw [hhistory, List.flatMap_cons, List.map_append, List.length_append, hserials, hrest, hserved,
      Nat.add_right_comm, List.range'_append_1]

/-! ### From run to run -/

theorem sound_new (scenario : Scenario) (entry : String) (store : Store)
    (reactions : List Reaction) : (Session.new scenario entry store reactions).Sound :=
  ⟨Depot.sound_ofStore store, nofun, nofun⟩

theorem Sound.create {session : Session} (h : session.Sound) (label : Option String) :
    (session.create label).Sound := by
  refine ⟨h.depot, nofun, ?_⟩
  rintro _ _ _ ⟨⟩ ⟨⟩

theorem Sound.operate {session : Session} (h : session.Sound) (operation : Operation) :
    (session.operate operation).Sound := by
  cases operation with
  | request request => exact Moment.sound_after ⟨session, .request request⟩ h
  | step => exact Moment.sound_after ⟨session, .step⟩ h
  | drop => exact Moment.sound_after ⟨session, .drop⟩ h
  | create label =>
    rw [Session.operate]
    split
    · exact h
    · exact h.create label
  | reload options sources =>
    rw [Session.operate]
    split
    · exact h
    · -- Reloading replaces the scenario and adds notices; it does not touch the depot.
      have hdepot : (session.reload options sources).1.stage.depot = session.stage.depot := by
        unfold reload
        split
        · rfl
        · dsimp only
          split <;> rfl
      have hrun := (session.reload_spec options sources).2.2
      refine ⟨hdepot ▸ h.depot, ?_, ?_⟩
      · rw [hdepot, hrun]
        exact h.batch
      · rw [hrun]
        exact h.required

theorem Sound.operated {session : Session} (h : session.Sound) (operations : List Operation) :
    (session.operated operations).Sound := by
  induction operations generalizing session with
  | nil => exact h
  | cons operation rest ih => exact ih (h.operate operation)

theorem Sound.after {session : Session} (h : session.Sound) (turns : List Turn) :
    (session.after turns).Sound := by
  induction turns generalizing session with
  | nil => exact h
  | cons turn rest ih => exact ih (Moment.sound_after ⟨session, turn⟩ h)

/-- **A handle that a run has the store yield is yielded once**, and it was not resident before. -/
theorem count_produced {session : Session} (h : session.Sound) {turns : List Turn} {handle : Handle}
    (hproduced : handle ∈ (session.history turns).flatMap Moment.produced) :
    ((session.history turns).flatMap Moment.produced).count handle = 1 ∧
      session.stage.depot.holdings.count handle = 0 := by
  have hserials := serial_history h turns
  have hnodup : ((session.history turns).flatMap Moment.produced).Nodup := by
    refine List.Nodup.of_map (·.serial) ?_
    rw [hserials]
    exact List.nodup_range'
  -- Handles are numbered as the store yields them, so this one is newer than any that was resident.
  have hserial : session.stage.depot.store.served + 1 ≤ handle.serial := by
    have hmem := List.mem_map_of_mem (f := (·.serial)) hproduced
    rw [hserials] at hmem
    exact (List.mem_range'_1.1 hmem).1
  refine ⟨List.count_eq_one_of_mem hnodup hproduced, List.count_eq_zero.2 fun hresident => ?_⟩
  obtain ⟨name, hname⟩ := (Dict.mem_values_iff _ _).1 hresident
  have hle := (h.depot name handle hname).2
  omega

/-- **What becomes of the handles of a run**, whatever the host did before and whatever it does
meanwhile. Once the run is over, each handle that it had the store yield is resident under its name
and was not given back, or it was given back once and is not resident, or it was left behind and is
neither. Handles are left behind only where a run is cut off while its prefetch is pending: those
that the prefetch holds. So a run that comes to its end leaves none behind. -/
theorem loaded_handles_are_resident_released_or_forsaken (scenario : Scenario) (entry : String)
    (store : Store) (reactions : List Reaction) (operations : List Operation)
    (label : Option String) (turns : List Turn) :
    let start := ((Session.new scenario entry store reactions).operated operations).create label
    let now := start.after turns
    let history := start.history turns
    let returned := history.flatMap Moment.returned
    let forsaken := history.flatMap Moment.forsaken
    (now.run = none → ∀ handle ∈ history.flatMap Moment.produced,
      (now.stage.depot.handle? handle.name = some handle ∧ returned.count handle = 0 ∧
        handle ∉ forsaken) ∨
      ((∀ name, now.stage.depot.handle? name ≠ some handle) ∧ returned.count handle = 1 ∧
        handle ∉ forsaken) ∨
      ((∀ name, now.stage.depot.handle? name ≠ some handle) ∧ returned.count handle = 0 ∧
        handle ∈ forsaken)) ∧
    (∀ moment ∈ history, moment.forsaken ≠ [] →
      (moment.ending = some (.outcome .stopped) ∨ moment.ending = some .dropped ∨
        moment.ending = some .leaked) ∧
      ∃ run label batch, moment.session.run = some run ∧ run.point = .fetching label batch ∧
        moment.forsaken = batch.handles) ∧
    (∀ last, start.ending turns = some (.outcome (.completed last)) → forsaken = []) := by
  intro start now history returned forsaken
  have hsound : start.Sound := ((sound_new scenario entry store reactions).operated _).create label
  refine ⟨fun hover handle hproduced => ?_, fun moment _ => moment.forsaken_cases, ?_⟩
  · obtain ⟨hone, hbefore⟩ := count_produced hsound hproduced
    -- The handle came in once, so of the three places where it can be it is in exactly one.
    have hbalance := count_history hsound turns handle
    have hpending : (start.after turns).pending = [] := by
      have hover : (start.after turns).run = none := hover
      rw [pending, hover]
      rfl
    have hstart : start.pending = [] := rfl
    rw [hpending, hstart, hone, hbefore, List.count_nil] at hbalance
    have hresident : (∀ name, now.stage.depot.handle? name ≠ some handle) ↔
        now.stage.depot.holdings.count handle = 0 := by
      rw [List.count_eq_zero, Depot.holdings, Dict.mem_values_iff, not_exists]
      rfl
    have hforsaken : forsaken.count handle = 0 ↔ handle ∉ forsaken := List.count_eq_zero
    change _ = now.stage.depot.holdings.count handle + _ + returned.count handle +
      forsaken.count handle at hbalance
    by_cases hhere : now.stage.depot.holdings.count handle = 0
    · right
      by_cases hgone : forsaken.count handle = 0
      · exact .inl ⟨hresident.2 hhere, by omega, hforsaken.1 hgone⟩
      · exact .inr ⟨hresident.2 hhere, by omega, not_not.1 fun h => hgone (hforsaken.2 h)⟩
    · left
      obtain ⟨name, hname⟩ : ∃ name, now.stage.depot.handle? name = some handle := by
        by_contra hnone
        exact hhere (hresident.1 fun name hname => hnone ⟨name, hname⟩)
      have hown : handle.name = name := ((hsound.after turns).depot name handle hname).1
      exact ⟨hown ▸ hname, by omega, hforsaken.1 (by omega)⟩
  · intro last hlast
    -- A run ends once: one that has completed was not cut off in any moment.
    refine List.flatMap_eq_nil_iff.2 fun moment hmoment => ?_
    by_contra hne
    obtain ⟨hending, -⟩ := moment.forsaken_cases hne
    have hover : ∀ ending, moment.ending = some ending → start.ending turns = some ending :=
      fun ending h => (start.ending_eq_some_iff turns ending).2 ⟨moment, hmoment, h⟩
    obtain hending | hending | hending := hending
    all_goals
      rw [hover _ hending] at hlast
      cases hlast

/-- A character with a sprite. -/
def extra (id sprite : String) : Character :=
  { id, name := id, x := default, y := default, scale := default, sprite, voice := none,
    color := .white }

/-- A session of a label with two characters. The gate of the second sprite is closed. -/
def twoSprites : Session :=
  .new
    (.new ⟨Dict.empty.insert "Start" ⟨"Start", "intro",
        [.character "a" false "left" none (.row "intro" 3),
          .character "b" false "right" none (.row "intro" 4)]⟩⟩
      ⟨(Dict.empty.insert "a" (extra "a" "a.png")).insert "b" (extra "b" "b.png")⟩)
    "Start" (Store.ready.setGate "b.png" true) []

/-- The run waits for the second sprite when it is stopped. -/
def twoSpritesTurns : List Turn :=
  [.step, .step, .step, .request (.control .stop), .step]

/-- The handle of the first sprite is neither resident nor given back once the run is stopped. -/
theorem twoSprites_stopped_loses_handle :
    let start := twoSprites.create none
    let now := start.after twoSpritesTurns
    let history := start.history twoSpritesTurns
    let handle : Handle := ⟨"a.png", 1⟩
    start.ending twoSpritesTurns = some (.outcome .stopped) ∧
    handle ∈ history.flatMap Moment.produced ∧
    (∀ name, now.stage.depot.handle? name ≠ some handle) ∧
    (history.flatMap Moment.returned).count handle = 0 := by
  intro start now history handle
  have hending : (twoSprites.create none).ending twoSpritesTurns = some (.outcome .stopped) := by
    decide +kernel
  have hproduced : ⟨"a.png", 1⟩ ∈
      ((twoSprites.create none).history twoSpritesTurns).flatMap Moment.produced := by
    decide +kernel
  have hresident :
      ((twoSprites.create none).after twoSpritesTurns).stage.depot.resident.entries = [] := by
    decide +kernel
  have hreturned : ((twoSprites.create none).history twoSpritesTurns).flatMap Moment.returned =
      [] := by
    decide +kernel
  refine ⟨hending, hproduced, fun name hname => ?_, congrArg (List.count handle) hreturned⟩
  rw [Depot.handle?, Dict.find?, hresident] at hname
  cases hname

end Session

end Storyboard
