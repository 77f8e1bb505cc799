import Storyboard.Proofs.Console.Prospect

/-!
# Playing at a console

Whoever plays a run at a console waits for two things at once: for the run, and for a change of its
status. When the status has changed it is looked at, and if a command waits for the reader it is
answered. In which order the two are asked, how far the run gets each time and when a load finishes
is not determined. A `Move` is one atomic part of this: a step of the run, a look at the status, or
an asset that arrives. Changes of the status between two looks are seen as one.

Whatever the moves are, what was printed and sent so far followed by the rest of the recital from
the point where the run is makes the recital from the beginning (`Playback.InOrder.moved`).
-/

namespace Storyboard

open Console (Responder Recital)

/-- A run that is played at a console. -/
structure Playback where
  /-- What the run shares with the console. -/
  stage : Stage
  /-- The run in progress. -/
  run : Option Run
  /-- How the run ended, once it has. -/
  outcome : Option Outcome := none
  /-- Where answers come from. -/
  responder : Responder
  /-- The answers so far. -/
  sent : List Control := []
  /-- Whether the status has changed since it was looked at. -/
  fresh : Bool := false

namespace Playback

/-- A run that is about to be played. -/
def new (entry : String) (store : Store) (responder : Responder) : Playback :=
  { stage := { depot := .ofStore store }, run := some (.new entry), responder }

/-- The lines that were printed so far. -/
def printed (playback : Playback) : List String := Console.displayed playback.stage

/-- Lets the run take a step. -/
def step (scenario : Scenario) (playback : Playback) : Playback :=
  match playback.run with
  | none => playback
  | some run =>
    let progress := run.step scenario playback.stage
    let trail := run.trail scenario playback.stage (run.deed scenario playback.stage)
    { playback with
      stage := progress.stage
      run := progress.run?
      outcome := progress.outcome?
      fresh := playback.fresh || !trail.isEmpty }

/-- Looks at the status if it has changed, and answers a command that waits. -/
def look (playback : Playback) : Playback :=
  if playback.run.isSome && playback.fresh then
    match playback.stage.status.suspension with
    | .none => { playback with fresh := false }
    | suspension =>
      let (control, notices, responder) :=
        Console.answer (suspension = .selection) (Console.selectionCount playback.stage.log)
          playback.responder
      { playback with
        stage := (playback.stage.note notices).control control
        responder
        sent := playback.sent ++ [control]
        fresh := false }
  else playback

/-- Lets an asset arrive, so that its load can finish. -/
def deliver (playback : Playback) (name : String) : Playback :=
  let depot := playback.stage.depot
  { playback with
    stage :=
      { playback.stage with depot := { depot with store := depot.store.setGate name false } } }

end Playback

/-- An atomic part of playing a run. -/
inductive Move where
  /-- The run takes a step. -/
  | step
  /-- The status is looked at, if it has changed. -/
  | look
  /-- An asset arrives. -/
  | deliver (name : String)

namespace Playback

/-- What comes of a move. -/
def move (scenario : Scenario) (playback : Playback) : Move → Playback
  | .step => playback.step scenario
  | .look => playback.look
  | .deliver name => playback.deliver name

/-- What comes of moves. -/
def moved (scenario : Scenario) (playback : Playback) (moves : List Move) : Playback :=
  moves.foldl (move scenario) playback

end Playback

/-- Every choice has an option. -/
def Scenario.Answerable (scenario : Scenario) : Prop :=
  ∀ label, ∀ command ∈ scenario.commands label, scenario.flow command ≠ .awaitSelection []

namespace Playback

/-- The rest of the recital from the point where the run is. -/
def prospect (scenario : Scenario) (present : String → Bool) (playback : Playback) (n : Nat) :
    Recital :=
  match playback.run with
  | some run => run.prospect scenario present playback.stage.desk playback.responder n
  | none => ⟨[], [], playback.responder, playback.outcome, 0⟩

/-- A run is played from an entry as it should be. -/
structure InOrder (scenario : Scenario) (fault? : String → Option AssetFault) (entry : String)
    (playback : Playback) : Prop where
  /-- The stage is in order while the run is in progress. -/
  orderly : ∀ run, playback.run = some run →
    run.Orderly scenario fault? playback.stage playback.fresh
  /-- The run is on its itinerary, and the status is that of the point where it is. -/
  abides : ∀ run, playback.run = some run → ∃ trail, run.Abides scenario entry trail ∧
    playback.stage.status = trail.getLast?.getD .idle
  /-- The run is in progress until it has an outcome. -/
  outcome : playback.run.isSome = playback.outcome.isNone
  /-- The run is not rejected. -/
  accepted : playback.outcome ≠ some .rejected
  /-- Who always takes the first option can. -/
  served : playback.responder = .auto → scenario.Answerable

/-- A playback goes on to a later one: what was printed and sent in between is a piece of the
recital, and the rest is what the later one has before it. -/
def Leads (scenario : Scenario) (present : String → Bool) (playback later : Playback)
    (moves m : Nat) : Prop :=
  ∃ printed sent, later.printed = playback.printed ++ printed ∧
    later.sent = playback.sent ++ sent ∧
    Recital.Leads (playback.prospect scenario present) (later.prospect scenario present) printed
      sent moves m

section

variable {scenario : Scenario} {present : String → Bool} {first second third : Playback}
  {moves steps m l : Nat}

theorem Leads.refl (scenario : Scenario) (present : String → Bool) (playback : Playback) :
    playback.Leads scenario present playback 0 0 :=
  ⟨[], [], (List.append_nil _).symm, (List.append_nil _).symm, .refl _⟩

theorem Leads.trans (h : first.Leads scenario present second moves m)
    (hmore : second.Leads scenario present third steps l) :
    first.Leads scenario present third (moves + steps) (m + l) := by
  obtain ⟨printed, sent, hprinted, hsent, hleads⟩ := h
  obtain ⟨more, after, hmore, hafter, hfurther⟩ := hmore
  refine ⟨printed ++ more, sent ++ after, ?_, ?_, hleads.trans hfurther⟩
  · rw [hmore, hprinted, List.append_assoc]
  · rw [hafter, hsent, List.append_assoc]

end

/-! ### Steps -/

section

variable {scenario : Scenario} {fault? : String → Option AssetFault} {entry : String}
  {playback : Playback} {run : Run}

theorem displayed_eq (stage : Stage) :
    Console.displayed stage = stage.log.flatMap Console.display :=
  (List.flatMap_map ..).symm

theorem printed_step (hrun : playback.run = some run) :
    let deed := run.deed scenario playback.stage
    (playback.step scenario).printed = playback.printed ++
      ((deed.events scenario playback.stage).flatMap Console.display ++
        (run.step scenario playback.stage).finale.flatMap Console.display) := by
  intro deed
  have hlog := Run.log_carryOut scenario run playback.stage deed
  rw [← Run.step_eq_carryOut] at hlog
  simp only [printed, displayed_eq, step, hrun, hlog, List.flatMap_append, List.append_assoc]

theorem prospect_step (present : String → Bool) (hrun : playback.run = some run) :
    (playback.step scenario).prospect scenario present =
      (run.step scenario playback.stage).prospect scenario present playback.responder := by
  funext n
  simp only [prospect, step, hrun]
  cases run.step scenario playback.stage <;> rfl

theorem InOrder.status (h : playback.InOrder scenario fault? entry)
    (hrun : playback.run = some run) : playback.stage.status = run.status?.getD .idle := by
  obtain ⟨trail, habides, hstatus⟩ := h.abides run hrun
  rw [hstatus, habides.getLast?]

/-- **A step of the run goes on with the recital.** Unless the run has to wait it is a move
further. -/
theorem InOrder.step (h : playback.InOrder scenario fault? entry)
    (hentry : scenario.commands entry ≠ []) (hrun : playback.run = some run) :
    (playback.step scenario).InOrder scenario fault? entry ∧
      ∃ moves m, (moves = 0 → (run.step scenario playback.stage).waits = true) ∧
        playback.Leads scenario (Scenario.canShow fault?) (playback.step scenario) moves m := by
  obtain ⟨trail, habides, hstatus⟩ := h.abides run hrun
  obtain ⟨moves, hmoves, hgoes⟩ :=
    (h.orderly run hrun).goesOn habides hentry playback.responder
  have hstep : playback.step scenario =
      { playback with
        stage := (run.step scenario playback.stage).stage
        run := (run.step scenario playback.stage).run?
        outcome := (run.step scenario playback.stage).outcome?
        fresh := playback.fresh ||
          !(run.trail scenario playback.stage (run.deed scenario playback.stage)).isEmpty } := by
    simp only [Playback.step, hrun]
  have hprogress : (run.step scenario playback.stage).Abides scenario entry
      (trail ++ run.trail scenario playback.stage (run.deed scenario playback.stage)) := by
    refine Run.abides_step habides fun status hsome => ?_
    rw [h.status hrun, hsome]
    rfl
  -- The status after the step is the last one of the trail, old and new.
  have hafter : (run.step scenario playback.stage).stage.status = (trail ++ run.trail scenario
      playback.stage (run.deed scenario playback.stage)).getLast?.getD .idle := by
    rw [Run.step_eq_carryOut, Run.status_carryOut, hstatus, List.getLast?_append]
    cases (run.trail scenario playback.stage (run.deed scenario playback.stage)).getLast? <;> rfl
  refine ⟨?_, moves, ?_⟩
  · rw [hstep]
    refine ⟨hgoes.orderly, fun next hnext => ⟨_, ?_, hafter⟩, ?_, hgoes.accepted, h.served⟩
    · cases hcase : run.step scenario playback.stage with
      | ended stage outcome => simp [hcase, Progress.run?] at hnext
      | waiting stage other =>
        rw [hcase] at hnext hprogress
        cases hnext
        exact hprogress
      | moved stage other =>
        rw [hcase] at hnext hprogress
        cases hnext
        exact hprogress
    · cases run.step scenario playback.stage <;> rfl
  · -- A step prints what its deed shows and sends nothing.
    obtain ⟨m, hleads⟩ := hgoes.leads
    refine ⟨m, hmoves, _, [], printed_step hrun, ?_, ?_⟩
    · rw [hstep, List.append_nil]
    · rw [prospect_step _ hrun]
      have hprospect : playback.prospect scenario (Scenario.canShow fault?) =
          run.prospect scenario (Scenario.canShow fault?) playback.stage.desk
            playback.responder := by
        funext n
        simp only [prospect, hrun]
      rw [hprospect]
      exact hleads

end

/-! ### Looks and arrivals -/

section

variable {scenario : Scenario} {fault? : String → Option AssetFault} {entry : String}
  {playback : Playback} {run : Run}

/-- What comes of an answer. -/
def reply (playback : Playback) (control : Control) (notices : List Notice) (rest : Responder) :
    Playback :=
  { playback with
    stage := (playback.stage.note notices).control control
    responder := rest
    sent := playback.sent ++ [control]
    fresh := false }

theorem look_eq_reply (hrun : playback.run = some run) (hfresh : playback.fresh = true)
    {suspension : Suspension} (hsuspension : playback.stage.status.suspension = suspension)
    (hwaits : suspension ≠ .none) {control : Control} {notices : List Notice} {rest : Responder}
    (hanswer : Console.answer (suspension = .selection)
      (Console.selectionCount playback.stage.log) playback.responder = (control, notices, rest)) :
    playback.look = playback.reply control notices rest := by
  subst hsuspension
  unfold look
  rw [hrun, hfresh]
  simp only [Option.isSome_some, Bool.and_self, if_true, hanswer]
  rw [reply, hrun]

/-- **An answer goes on with the recital**, if the recital has it and the command accepts it. -/
theorem InOrder.reply (h : playback.InOrder scenario fault? entry) (hrun : playback.run = some run)
    {control : Control} {rest : Responder} (notices : List Notice)
    (htended : run.Tended (playback.stage.desk.apply control) false)
    (hrest : rest = .auto → playback.responder = .auto)
    (hprospect : ∀ n, run.prospect scenario (Scenario.canShow fault?) playback.stage.desk
        playback.responder n =
      (run.prospect scenario (Scenario.canShow fault?) (playback.stage.desk.apply control) rest
        n).prepend [] [control] 0) :
    (playback.reply control notices rest).InOrder scenario fault? entry ∧
      playback.Leads scenario (Scenario.canShow fault?) (playback.reply control notices rest)
        0 0 := by
  have horderly := h.orderly run hrun
  have hlog : (playback.reply control notices rest).stage.log = playback.stage.log :=
    Stage.log_note playback.stage notices
  constructor
  · refine ⟨?_, h.abides, h.outcome, h.accepted, fun hauto => h.served (hrest hauto)⟩
    intro other hother
    obtain rfl : run = other := Option.some.inj (hrun.symm.trans hother)
    refine ⟨horderly.quiet, horderly.faults, htended, horderly.equipped, ?_⟩
    rw [hlog]
    exact horderly.count
  · -- The answer is sent and nothing is printed; notices are not part of the recital.
    refine ⟨[], [control], ?_, rfl, .of_eq fun n => ?_⟩
    · rw [List.append_nil, printed, displayed_eq, hlog, ← displayed_eq]
      rfl
    · simp only [prospect, Playback.reply, hrun]
      exact hprospect n

theorem look_of_none (hsuspension : playback.stage.status.suspension = .none) :
    playback.look = { playback with fresh := false } ∨ playback.look = playback := by
  unfold look
  split
  · rw [hsuspension]
    exact .inl rfl
  · exact .inr rfl

/-- Whether there is a change of the status to look at does not matter between commands. -/
theorem InOrder.seen (h : playback.InOrder scenario fault? entry)
    (hawaits : ∀ run, playback.run = some run → run.awaits? = none) :
    { playback with fresh := false }.InOrder scenario fault? entry := by
  refine ⟨fun run hrun => ?_, h.abides, h.outcome, h.accepted, h.served⟩
  have horderly := h.orderly run hrun
  have hcalm := horderly.calm (hawaits run hrun)
  refine ⟨hcalm.quiet, hcalm.faults, ?_, horderly.equipped, horderly.count⟩
  rw [Run.Tended, hawaits run hrun]
  exact hcalm.desk

theorem suspension_of_status {run : Run} (hawaits : run.awaits? = none) :
    (run.status?.getD .idle).suspension = .none := by
  obtain ⟨own, point⟩ := run
  cases point with
  | ready label index next => cases index <;> rfl
  | reading label index next => cases hawaits
  | choosing label index targets => cases hawaits
  | _ => rfl

theorem InOrder.look_reading (h : playback.InOrder scenario fault? entry)
    (hrun : playback.run = some run) (hfresh : playback.fresh = true) {label : String} {index : Nat}
    {next : Option String} (hpoint : run.point = .reading label index next)
    (hdesk : playback.stage.desk = { inbox := some [] }) :
    playback.look.InOrder scenario fault? entry ∧
      playback.Leads scenario (Scenario.canShow fault?) playback.look 0 0 := by
  have hsuspension : playback.stage.status.suspension = .line := by
    rw [h.status hrun, Run.status?, hpoint]
    rfl
  obtain ⟨notices, hanswer⟩ := Console.answer_line
    (Console.selectionCount playback.stage.log) playback.responder
  rw [look_eq_reply hrun hfresh hsuspension (by simp) hanswer]
  refine h.reply hrun notices ?_ Responder.auto_of_readLine
    (Run.prospect_reading scenario _ hpoint hdesk playback.responder)
  simp only [Run.Tended, Run.awaits?, hpoint, hdesk]
  -- A line of input advances; when there is none left the run is asked to end.
  cases playback.responder.readLine.1 with
  | true => exact .inr (.inl ⟨trivial, .advance, rfl, rfl⟩)
  | false => exact .inr (.inr ⟨trivial, rfl⟩)

theorem InOrder.look_choosing (h : playback.InOrder scenario fault? entry)
    (hrun : playback.run = some run) (hfresh : playback.fresh = true) {label : String} {index : Nat}
    {targets : List String} (hpoint : run.point = .choosing label index targets)
    (hdesk : playback.stage.desk = { inbox := some [] }) :
    playback.look.InOrder scenario fault? entry ∧
      playback.Leads scenario (Scenario.canShow fault?) playback.look 0 0 := by
  have hsuspension : playback.stage.status.suspension = .selection := by
    rw [h.status hrun, Run.status?, hpoint]
    rfl
  have hcount := (h.orderly run hrun).count label index targets hpoint
  -- Input only ever names an option that there is; the first option has to be there.
  have hoptions : playback.responder = .auto → 0 < targets.length := by
    intro hauto
    obtain ⟨trail, habides, -⟩ := h.abides run hrun
    rw [Run.Abides, hpoint] at habides
    obtain ⟨command, hcommand, hflow, -⟩ := habides
    refine List.length_pos_of_ne_nil fun hnil => ?_
    exact h.served hauto label command (List.mem_of_getElem? hcommand) (hnil ▸ hflow)
  obtain ⟨notices, hanswer⟩ := Console.answer_option
    (Console.selectionCount playback.stage.log) playback.responder
  rw [look_eq_reply hrun hfresh hsuspension (by simp) hanswer, hcount]
  refine h.reply hrun notices ?_ Responder.auto_of_readOption
    (Run.prospect_choosing scenario _ hpoint hdesk playback.responder)
  simp only [Run.Tended, Run.awaits?, hpoint, hdesk]
  cases hread : (playback.responder.readOption targets.length).1 with
  | some i =>
    have hi := Responder.readOption_lt hread hoptions
    exact .inr (.inl ⟨trivial, .choose i, by simp [Flow.accepts, Signal.option?, hi], rfl⟩)
  | none => exact .inr (.inr ⟨trivial, rfl⟩)

/-- **A look at the status goes on with the recital**: a command that waits unanswered is answered
with what the recital takes from the input, and nothing is answered twice. -/
theorem InOrder.look (h : playback.InOrder scenario fault? entry) :
    playback.look.InOrder scenario fault? entry ∧
      playback.Leads scenario (Scenario.canShow fault?) playback.look 0 0 := by
  by_cases hdue : (playback.run.isSome && playback.fresh) = true
  · obtain ⟨hsome, hfresh⟩ := Bool.and_eq_true_iff.1 hdue
    obtain ⟨run, hrun⟩ := Option.isSome_iff_exists.1 hsome
    have htended := (h.orderly run hrun).tended
    cases hawaits : run.awaits? with
    | none =>
      -- No command waits, so the change of the status is only taken note of.
      have hbetween : ∀ other, playback.run = some other → other.awaits? = none := by
        intro other hother
        obtain rfl : run = other := Option.some.inj (hrun.symm.trans hother)
        exact hawaits
      have hsuspension : playback.stage.status.suspension = .none := by
        rw [h.status hrun]
        exact suspension_of_status hawaits
      obtain hlook | hlook := look_of_none hsuspension
      · rw [hlook]
        exact ⟨h.seen hbetween, Leads.refl scenario _ playback⟩
      · rw [hlook]
        exact ⟨h, .refl ..⟩
    | some awaited =>
      -- There is a change to look at, so nothing was answered yet.
      have hdesk : playback.stage.desk = { inbox := some [] } := by
        simp only [Run.Tended, hawaits, hfresh] at htended
        obtain ⟨-, hdesk⟩ | ⟨hstale, -⟩ | ⟨hstale, -⟩ := htended
        · exact hdesk
        · cases hstale
        · cases hstale
      cases hpoint : run.point with
      | reading label index next => exact h.look_reading hrun hfresh hpoint hdesk
      | choosing label index targets => exact h.look_choosing hrun hfresh hpoint hdesk
      | _ => simp [Run.awaits?, hpoint] at hawaits
  · have hlook : playback.look = playback := by rw [Playback.look, if_neg hdue]
    rw [hlook]
    exact ⟨h, .refl ..⟩

/-- **An arrival goes on with the recital.** -/
theorem InOrder.deliver (h : playback.InOrder scenario fault? entry) (name : String) :
    (playback.deliver name).InOrder scenario fault? entry ∧
      playback.Leads scenario (Scenario.canShow fault?) (playback.deliver name) 0 0 := by
  refine ⟨⟨?_, h.abides, h.outcome, h.accepted, h.served⟩, .refl scenario _ playback⟩
  intro run hrun
  have horderly := h.orderly run hrun
  refine ⟨horderly.quiet, horderly.faults, horderly.tended, ?_, horderly.count⟩
  have hequipped := horderly.equipped
  -- Only a run that is fetching looks at the gates of the store, and delivering only opens one.
  cases hpoint : run.point with
  | fetching label batch =>
    rw [hpoint] at hequipped
    exact ⟨hequipped.1, hequipped.2.1.of_resident rfl, hequipped.2.2⟩
  | _ =>
    rw [hpoint] at hequipped
    exact hequipped

end

/-! ### Moves -/

section

variable {scenario : Scenario} {fault? : String → Option AssetFault} {entry : String}
  {playback : Playback}

theorem InOrder.move (h : playback.InOrder scenario fault? entry)
    (hentry : scenario.commands entry ≠ []) (move : Move) :
    (playback.move scenario move).InOrder scenario fault? entry ∧ ∃ moves m,
      playback.Leads scenario (Scenario.canShow fault?) (playback.move scenario move) moves m := by
  cases move with
  | step =>
    cases hrun : playback.run with
    | none =>
      have hstay : playback.step scenario = playback := by simp only [Playback.step, hrun]
      rw [Playback.move, hstay]
      exact ⟨h, 0, 0, .refl ..⟩
    | some run =>
      obtain ⟨horder, moves, m, -, hleads⟩ := h.step hentry hrun
      exact ⟨horder, moves, m, hleads⟩
  | look => exact ⟨h.look.1, 0, 0, h.look.2⟩
  | deliver name => exact ⟨(h.deliver name).1, 0, 0, (h.deliver name).2⟩

/-- **Whatever the moves are, they go on with the recital.** -/
theorem InOrder.moved (h : playback.InOrder scenario fault? entry)
    (hentry : scenario.commands entry ≠ []) (moves : List Move) :
    (playback.moved scenario moves).InOrder scenario fault? entry ∧ ∃ steps m,
      playback.Leads scenario (Scenario.canShow fault?) (playback.moved scenario moves)
        steps m := by
  induction moves generalizing playback with
  | nil => exact ⟨h, 0, 0, .refl ..⟩
  | cons move rest ih =>
    obtain ⟨horder, steps, m, hleads⟩ := h.move hentry move
    obtain ⟨hlater, more, l, hmore⟩ := ih horder
    exact ⟨hlater, _, _, hleads.trans hmore⟩

end

/-- A run that is about to be played is in order. -/
theorem inOrder_new {scenario : Scenario} {entry : String} (store : Store) {responder : Responder}
    (hserved : responder = .auto → scenario.Answerable) :
    (new entry store responder).InOrder scenario store.fault? entry where
  orderly := by
    rintro _ ⟨⟩
    exact ⟨rfl, rfl, rfl, nofun, nofun⟩
  abides := by
    rintro _ ⟨⟩
    exact ⟨[], ⟨rfl, rfl⟩, rfl⟩
  outcome := rfl
  accepted := nofun
  served := hserved

end Playback

end Storyboard
