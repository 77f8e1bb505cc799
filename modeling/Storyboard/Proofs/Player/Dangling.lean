import Storyboard.CommandLine.Report
import Storyboard.Proofs.Compile.Unresolved
import Storyboard.Proofs.Player.Itinerary
import Storyboard.Proofs.Player.Noticing

/-!
# Targets that a run does not find

A run departs from a label for the last target that a command of the label or a chosen option has
set. So whatever the host does, the target is one of a command of that label
(`Run.offers_of_departure`), and if no label has it then it is in the list of targets that lead
nowhere. That list is known before anything is played (`Session.check_predicts_dangling_targets`).
-/

namespace Storyboard

/-! ### Texts that report nothing about targets -/

theorem Rendering.notices_concat (renderings : List Rendering) :
    (concat renderings).notices = renderings.flatMap (·.notices) := by
  induction renderings with
  | nil => rfl
  | cons first rest ih => rw [concat, append, ih, List.flatMap_cons]

namespace Scenario

/-- No text of the scenario reports that a target does not exist. -/
def Discreet (scenario : Scenario) : Prop :=
  ∀ text target, .targetMissing target ∉ (scenario.render text).notices

/-- A scenario as it was compiled is discreet: its texts report at most unknown characters. -/
theorem discreet_new (program : Program) (cast : Cast) : (new program cast).Discreet := by
  intro text target hmem
  rw [render, Markup.render, Rendering.notices_concat, List.mem_flatMap] at hmem
  obtain ⟨rendering, hrendering, hmem⟩ := hmem
  obtain ⟨piece, -, rfl⟩ := List.mem_map.1 hrendering
  cases piece with
  | plain c => cases hmem
  | tag tag =>
    simp only [Markup.renderPiece, new, Markup.register, Markup.empty, Dict.find?_insert] at hmem
    split at hmem
    · next handler hhandler =>
      split at hhandler
      · cases hhandler
        -- The one registered tag asks for the name of a character, who may be unknown.
        unfold displayName at hmem
        split at hmem
        · cases hmem
        · cases List.mem_singleton.1 hmem
      · cases hhandler
    · cases hmem

variable {scenario : Scenario}

theorem targetMissing_not_mem_performNotices (h : scenario.Discreet)
    (resident : String → Option Handle) (command : Command) (target : String) :
    .targetMissing target ∉ scenario.performNotices resident command := by
  cases command with
  | text words place => exact h words target
  | jump other place => nofun
  | choice options place =>
    intro hmem
    obtain ⟨option, -, hmem⟩ := List.mem_flatMap.1 hmem
    exact h option.text target hmem
  | character id hides layer words place =>
    intro hmem
    simp only [performNotices] at hmem
    split at hmem
    · cases List.mem_singleton.1 hmem
    · obtain hmem | hmem := List.mem_append.1 hmem
      · split at hmem
        · cases hmem
        · cases List.mem_singleton.1 hmem
      · obtain ⟨words, -, hmem⟩ := List.mem_flatMap.1 hmem
        exact h words target hmem

theorem targetMissing_not_mem_assetNotices (scenario : Scenario) (label target : String) :
    .targetMissing target ∉ scenario.assetNotices label := by
  intro hmem
  obtain ⟨command, -, hmem⟩ := List.mem_flatMap.1 hmem
  unfold spriteNotices at hmem
  split at hmem
  · split at hmem
    · cases List.mem_singleton.1 hmem
    · cases hmem
  · cases hmem

end Scenario

theorem Batch.targetMissing_not_mem_notices (batch : Batch) (target : String) :
    .targetMissing target ∉ batch.notices := by
  intro hmem
  obtain ⟨load, -, hmem⟩ := List.mem_flatMap.1 hmem
  split at hmem
  · cases List.mem_singleton.1 hmem
  · cases hmem

namespace Deed

/-- **A deed reports no missing target**, up to its departure. -/
theorem targetMissing_not_mem_notices {scenario : Scenario} (h : scenario.Discreet) (stage : Stage)
    (run : Run) (deed : Deed) (target : String) :
    .targetMissing target ∉ deed.notices scenario stage run := by
  have hlost : .targetMissing target ∉ stage.desk.lostNotices := by
    unfold Desk.lostNotices
    split <;> simp
  -- What is fetched and what was sent are reported in notices of their own.
  have hfetch : ∀ label batch, .targetMissing target ∉ Scenario.fetchNotices label batch := by
    intro label batch
    unfold Scenario.fetchNotices
    split <;> simp [batch.targetMissing_not_mem_notices target]
  cases deed with
  | reconcile label required => exact hfetch _ _
  | resume label batch => exact hfetch _ _
  | arrive label => exact scenario.targetMissing_not_mem_assetNotices label target
  | begin label index next command =>
    exact Scenario.targetMissing_not_mem_performNotices h _ command target
  | listen => exact hlost
  | advance label index next => exact hlost
  | ask targets => simp [notices, Desk.refusals, hlost]
  | choose label index targets answer => simp [notices, Desk.refusals, hlost]
  | _ => simp [notices]

end Deed

/-- A departure reports the target that does not exist. -/
theorem Departure.targetMissing_mem_notices (scenario : Scenario) (departure : Departure)
    (target : String) :
    .targetMissing target ∈ departure.notices scenario ↔
      departure.next = some target ∧ scenario.label? target = none := by
  obtain ⟨label, next⟩ := departure
  unfold notices
  cases next with
  | none => simp [Scenario.existing?]
  | some other =>
    cases hlabel : scenario.label? other with
    | none =>
      simp only [Scenario.existing?, hlabel, Option.filter, Option.isSome_none,
        Bool.false_eq_true, if_false]
      simp only [Option.toList_some, List.map_cons, List.map_nil, List.mem_append,
        List.mem_singleton, Notice.targetMissing.injEq, reduceCtorEq, or_false, Option.some.injEq]
      constructor
      · rintro rfl
        exact ⟨rfl, hlabel⟩
      · rintro ⟨rfl, -⟩
        rfl
    | some found =>
      -- The target exists, and the notices are those of arriving there.
      have hexisting : scenario.existing? (some other) = some other := by
        simp [Scenario.existing?, hlabel]
      rw [hexisting]
      refine iff_of_false (scenario.targetMissing_not_mem_assetNotices other target) ?_
      rintro ⟨⟨⟩, hnone⟩
      rw [hlabel] at hnone
      cases hnone

/-! ### Where a run departs for -/

/-- **A run departs for a target of a command of the label that it leaves**, if it knows where to
go. -/
theorem Run.offers_of_departure {scenario : Scenario} {entry : String} {trail : List Status}
    {run : Run} {stage : Stage} {departure : Departure} (h : run.Abides scenario entry trail)
    (hdeparture : (run.deed scenario stage).departure? scenario stage = some departure) :
    scenario.Offers departure.label departure.next := by
  -- Behind a command the run departs with what it was told, if no command is left.
  have hat : ∀ label index next, scenario.Offers label next →
      scenario.departureAt? label index next = some departure →
      scenario.Offers departure.label departure.next := by
    intro label index next hoffers hdeparts
    unfold Scenario.departureAt? at hdeparts
    split at hdeparts
    · cases hdeparts
    · cases hdeparts
      exact hoffers
  -- A label without commands is left as soon as it is fetched, with no target at all.
  have hfetch : ∀ label batch, scenario.fetchDeparture? label batch = some departure →
      scenario.Offers departure.label departure.next := by
    intro label batch hdeparts
    unfold Scenario.fetchDeparture? at hdeparts
    split at hdeparts
    · exact hat label 0 none .none hdeparts
    · cases hdeparts
  obtain ⟨-, hdeed⟩ | ⟨-, hdeed⟩ := deed_cases scenario stage run
  · -- A run that is being stopped does not depart.
    rw [hdeed] at hdeparture
    cases hdeparture
  rw [hdeed] at hdeparture
  obtain ⟨own, point⟩ := run
  unfold intent at hdeparture
  cases point with
  | created =>
    dsimp only at hdeparture
    split at hdeparture <;> cases hdeparture
  | opening =>
    dsimp only at hdeparture
    split at hdeparture <;> cases hdeparture
  | arriving label required => exact hfetch _ _ hdeparture
  | fetching label batch => exact hfetch _ _ hdeparture
  | ready label index next =>
    obtain ⟨hindex, hoffers, -⟩ := h
    dsimp only at hdeparture
    split at hdeparture
    · cases hdeparture
    · rw [List.getElem?_eq_getElem hindex] at hdeparture
      -- The target is set by the command that ends the label, or it was known before.
      unfold Deed.departure? at hdeparture
      dsimp only at hdeparture
      split at hdeparture
      · exact hat _ _ _ hoffers hdeparture
      · -- A jump goes to its own target, whatever was to be next.
        next target hflow =>
        have htarget := scenario.target_of_flow hflow
        refine hat _ _ _ ?_ hdeparture
        exact Scenario.offers_of_command (List.getElem?_eq_getElem hindex) htarget
      · cases hdeparture
      · cases hdeparture
  | reading label index next =>
    -- A line keeps the target that was known when it began.
    obtain ⟨hoffers, -⟩ := h
    dsimp only at hdeparture
    split at hdeparture
    · exact hat _ _ _ hoffers hdeparture
    · cases hdeparture
  | choosing label index targets =>
    -- The option that was taken is one of those of the choice that waits.
    obtain ⟨command, hcommand, hflow, -⟩ := h
    dsimp only at hdeparture
    split at hdeparture
    · refine hat _ _ _ ?_ hdeparture
      obtain ⟨options, place, rfl, rfl⟩ := scenario.exists_choice_of_flow hflow
      intro target htarget
      exact Scenario.offers_of_command hcommand (List.mem_of_getElem? htarget) target rfl
    · cases hdeparture

/-! ### The list of targets that lead nowhere -/

/-- **A target of a label that no label has is in the list.** -/
theorem Program.mem_unresolved_of_offers {scenario : Scenario} {P : Command → Prop}
    (h : scenario.program.WellKept P) {label target : String}
    (hoffers : scenario.Offers label (some target)) (hmissing : scenario.label? target = none) :
    (label, target) ∈ scenario.program.unresolved := by
  obtain ⟨command, hcommand, htarget⟩ := List.mem_flatMap.1 (hoffers target rfl)
  obtain ⟨index, hindex⟩ := List.getElem?_of_mem hcommand
  obtain ⟨option, hoption⟩ := List.getElem?_of_mem htarget
  -- The target stands in some command of the label, at some option: that is its occurrence.
  have hlabel : (scenario.label? label).isSome = true :=
    scenario.isSome_label?_of_commands (List.ne_nil_of_mem hcommand)
  obtain ⟨found, hfound⟩ := Option.isSome_iff_exists.1 hlabel
  have hfound : scenario.program.label? label = some found := hfound
  have hcommands : scenario.commands label = found.commands := by
    rw [Scenario.commands, Program.commands, hfound]
  rw [unresolved_eq h]
  refine List.mem_map.2 ⟨⟨label, index, option, target⟩, (mem_dangling _ _).2 ⟨?_, hmissing⟩, rfl⟩
  exact ⟨found, command, hfound, hcommands ▸ hindex, (Command.leads_iff ..).2 hoption⟩

/-- When nothing is printed about targets that lead nowhere, there are none. -/
theorem Output.unresolved_of_checkLines {scenario : Scenario}
    (h : ∀ line ∈ checkLines scenario, ∀ rest, line ≠ "UNRESOLVED:" ++ rest) :
    scenario.program.unresolved = [] := by
  refine List.eq_nil_iff_forall_not_mem.2 fun pair hpair => ?_
  refine h ("UNRESOLVED:" ++ pair.1 ++ "|" ++ pair.2) ?_ (pair.1 ++ "|" ++ pair.2) ?_
  · refine List.mem_append_left _ (List.mem_append_right _ ?_)
    exact List.mem_map_of_mem hpair
  · rw [String.append_assoc, String.append_assoc, String.append_assoc]

namespace Moment

/-- **A departure reports a target that does not exist.** -/
theorem targetMissing_mem_notices {moment : Moment} {last target : String}
    (hdeparture : moment.departure? = some ⟨last, some target⟩)
    (hlabel : moment.session.scenario.label? target = none) :
    .targetMissing target ∈ moment.notices := by
  obtain ⟨session, turn⟩ := moment
  obtain ⟨deed, hdeed, -⟩ := Option.bind_eq_some_iff.1 hdeparture
  obtain ⟨run, rfl, hrun, -⟩ := exists_run_of_deed hdeed
  rw [notices_step hrun, hdeparture]
  refine List.mem_append_right _ (List.mem_flatMap.2 ⟨_, List.mem_cons_self, ?_⟩)
  exact (Departure.targetMissing_mem_notices ..).2 ⟨rfl, hlabel⟩

/-- **What is reported in a moment as missing** is the target of its departure, if no label has it
and the texts report nothing of the kind. -/
theorem targetMissing_mem_iff {moment : Moment} (h : moment.session.scenario.Discreet)
    (target : String) :
    .targetMissing target ∈ moment.notices ↔
      ∃ last, moment.departure? = some ⟨last, some target⟩ ∧
        moment.session.scenario.label? target = none := by
  refine ⟨fun hmem => ?_, fun ⟨last, hdeparture, hlabel⟩ =>
    targetMissing_mem_notices hdeparture hlabel⟩
  cases hdeed : moment.deed with
  | none =>
    rw [notices_of_deed_none hdeed] at hmem
    cases hmem
  | some deed =>
    obtain ⟨session, turn⟩ := moment
    obtain ⟨run, rfl, hrun, -⟩ := exists_run_of_deed hdeed
    -- Notices come from the deed or from its departure, and only a departure reports a target.
    have hquiet := Deed.targetMissing_not_mem_notices h session.stage run
      (run.deed session.scenario session.stage) target
    rw [notices_step hrun, List.mem_append, or_iff_right hquiet, List.mem_flatMap] at hmem
    obtain ⟨⟨last, next⟩, hdeparture, hmem⟩ := hmem
    obtain ⟨rfl, hlabel⟩ := (Departure.targetMissing_mem_notices ..).1 hmem
    exact ⟨last, Option.mem_toList.1 hdeparture, hlabel⟩

end Moment

namespace Session

theorem scenario_of_mem_history (session : Session) {turns : List Turn} {moment : Moment}
    (h : moment ∈ session.history turns) : moment.session.scenario = session.scenario :=
  session.forall_history (P := fun now => now.scenario = session.scenario)
    (fun moment hscenario => (turn_scenario _ moment.turn).trans hscenario) rfl turns moment h

theorem offers_of_departure (session : Session) (label : Option String) (turns : List Turn)
    {moment : Moment} (hmoment : moment ∈ (session.create label).history turns)
    {departure : Departure} (hdeparture : moment.departure? = some departure) :
    session.scenario.Offers departure.label departure.next := by
  obtain ⟨early, late, hhistory⟩ := List.append_of_mem hmoment
  obtain ⟨first, -, -, -, hsession, -⟩ := exists_turns_of_history _ hhistory
  have hscenario : moment.session.scenario = session.scenario :=
    (session.create label).scenario_of_mem_history hmoment
  obtain ⟨deed, hdeed, hdeparts⟩ := Option.bind_eq_some_iff.1 hdeparture
  obtain ⟨run, -, hrun, rfl⟩ := Moment.exists_run_of_deed hdeed
  have habides := ((travels session label first).abides (hsession ▸ hrun)).2
  rw [hscenario] at hdeparts
  exact Run.offers_of_departure habides hdeparts

/-- **The targets that a run does not find are known before anything is played**, for every compiled
program, wherever the run starts and whatever the host does. A run comes to its end when it departs
from a label for no label, or for one that does not exist. In the latter case, and only then, the
missing target is reported, and the label and the target are in the list of targets that lead
nowhere. So if nothing is printed about such targets, a run departs only for labels that exist. The
list has each occurrence of a target that no label has once, by label, by command and by option. -/
theorem check_predicts_dangling_targets {factory : Factory} {options : Options}
    {sources : Dict String} (session : Session)
    (hcompiled : (Program.compile factory options sources).result = .ok session.scenario.program) :
    let scenario := session.scenario
    (∀ label turns, ∀ moment ∈ (session.create label).history turns,
      (∀ last, moment.ending = some (.outcome (.completed last)) ↔
        ∃ next, moment.departure? = some ⟨last, next⟩ ∧ scenario.existing? next = none) ∧
      (∀ last target, moment.departure? = some ⟨last, some target⟩ →
        scenario.label? target = none →
          .targetMissing target ∈ moment.notices ∧
            (last, target) ∈ scenario.program.unresolved) ∧
      (scenario.Discreet → ∀ target, .targetMissing target ∈ moment.notices →
        ∃ last, moment.departure? = some ⟨last, some target⟩ ∧ scenario.label? target = none)) ∧
    ((∀ line ∈ Output.checkLines scenario, ∀ rest, line ≠ "UNRESOLVED:" ++ rest) →
      ∀ label turns, ∀ moment ∈ (session.create label).history turns,
        ∀ last target, moment.departure? = some ⟨last, some target⟩ →
          (scenario.label? target).isSome = true) ∧
    ∃ occurrences : List Occurrence,
      scenario.program.unresolved = occurrences.map (fun o => (o.label, o.target)) ∧
      occurrences.Pairwise Occurrence.Precedes ∧
      ∀ o, o ∈ occurrences ↔ o.Dangles scenario.program := by
  intro scenario
  have hkept : scenario.program.WellKept fun _ => True :=
    Program.wellKept_compile (fun _ _ _ _ => trivial) hcompiled
  -- A run departs only for what its label offers, and the list has all of that.
  have hlisted : ∀ label turns, ∀ moment ∈ (session.create label).history turns,
      ∀ last target, moment.departure? = some ⟨last, some target⟩ →
        scenario.label? target = none → (last, target) ∈ scenario.program.unresolved := by
    intro label turns moment hmoment last target hdeparture hmissing
    exact Program.mem_unresolved_of_offers hkept
      (session.offers_of_departure label turns hmoment hdeparture) hmissing
  refine ⟨fun label turns moment hmoment => ?_, fun hquiet => ?_,
    Program.exists_occurrences hkept⟩
  · have hscenario : moment.session.scenario = scenario :=
      (session.create label).scenario_of_mem_history hmoment
    refine ⟨fun last => ?_, fun last target hdeparture hmissing => ⟨?_, ?_⟩, fun hdiscreet => ?_⟩
    · rw [moment.ending_eq_completed_iff, hscenario]
    · exact moment.targetMissing_mem_notices hdeparture (hscenario ▸ hmissing)
    · exact hlisted label turns moment hmoment last target hdeparture hmissing
    · intro target hmem
      rw [← hscenario] at hdiscreet
      obtain ⟨last, hdeparture, hlabel⟩ := (moment.targetMissing_mem_iff hdiscreet target).1 hmem
      exact ⟨last, hdeparture, hscenario ▸ hlabel⟩
  · intro label turns moment hmoment last target hdeparture
    cases hlabel : scenario.label? target with
    | some found => rfl
    | none =>
      have hmem := hlisted label turns moment hmoment last target hdeparture hlabel
      rw [Output.unresolved_of_checkLines hquiet] at hmem
      cases hmem

/-- A sheet with one label, which jumps to a label that does not exist. -/
def strayJump : Dict String :=
  Dict.empty.insert "intro" "Command,Arg1,Text\nLabel,Start,\nJump,Nowhere,\n"

/-- A session of the program of that sheet. -/
def strayJumpSession : Session :=
  .new
    (.new ⟨Dict.empty.insert "Start" ⟨"Start", "intro", [.jump "Nowhere" (.row "intro" 3)]⟩⟩ .empty)
    "Start" .ready []

/-- The fourth step of the run performs the jump. -/
def strayJumpMoment : Moment :=
  ⟨(strayJumpSession.create none).after [.step, .step, .step], .step⟩

/-- The run ends because its target does not exist, as the list says. -/
theorem strayJump_is_listed :
    (Program.compile .builtin {} strayJump).result = .ok strayJumpSession.scenario.program ∧
    strayJumpMoment.departure? = some ⟨"Start", some "Nowhere"⟩ ∧
    ("Start", "Nowhere") ∈ strayJumpSession.scenario.program.unresolved := by
  have hcompiled : (Program.compile .builtin {} strayJump).result =
      .ok strayJumpSession.scenario.program := by with_unfolding_all rfl
  have hdeparture : strayJumpMoment.departure? = some ⟨"Start", some "Nowhere"⟩ := by
    with_unfolding_all rfl
  have hmoment : strayJumpMoment ∈
      (strayJumpSession.create none).history [.step, .step, .step, .step] :=
    List.mem_of_getElem? (i := 3) rfl
  refine ⟨hcompiled, hdeparture, ?_⟩
  have hmissed := ((check_predicts_dangling_targets strayJumpSession hcompiled).1 none _
    strayJumpMoment hmoment).2.1 "Start" "Nowhere" hdeparture rfl
  exact hmissed.2

end Session

end Storyboard
