import Storyboard.Proofs.Player.Trail
import Mathlib.Data.List.Induction

/-!
# The status tells the truth

The statuses that a run passes through follow an itinerary. The run starts, and then it visits one
label after another: it preloads the assets of the label, enters the label, and takes on the
statuses of its commands in order (`Scenario.visitTrail`). From a label it comes to one that a
command of the label names as a target (`Scenario.Comes`), or to its end. A run that is stopped or
given up breaks off anywhere. Every status of an itinerary says something true about the scenario
(`Status.Truthful`), so `Session.status_is_truthful` says this of every status that a host can see.

The proof keeps an exact account of where a run is on its itinerary (`Run.Abides`).
-/

namespace Storyboard

/-! ### Statuses that tell the truth -/

/-- Whether a command displays a line: a text, or the words of a character that exists. -/
def Scenario.isLine (scenario : Scenario) : Command → Bool
  | .text _ _ => true
  | .character id _ _ words _ => (scenario.character? id).isSome && words.isSome
  | _ => false

namespace Status

/-- What a status says is true of the scenario. -/
structure Truthful (scenario : Scenario) (status : Status) : Prop where
  /-- While nothing is played, the status says nothing else. -/
  idle : status.phase = .idle → status = .idle
  /-- Outside of the commands of a label, there is a label and nothing else. -/
  between : status.phase = .starting ∨ status.phase = .preloading ∨ status.phase = .ending →
    status.label.isSome = true ∧ status.index = none ∧ status.suspension = .none
  /-- While a label is played it exists, the index is that of a command of the label, and what is
  waited for is what that command waits for. -/
  running : status.phase = .running → ∃ label, status.label = some label ∧
    (scenario.label? label).isSome = true ∧
    (∀ index, status.index = some index → index < (scenario.commands label).length) ∧
    (status.suspension = .line → ∃ index command, status.index = some index ∧
      (scenario.commands label)[index]? = some command ∧ scenario.isLine command = true) ∧
    (status.suspension = .selection → ∃ index options place, status.index = some index ∧
      (scenario.commands label)[index]? = some (.choice options place))

/-- The status while the command at a position of a label is under way. -/
def onCommand (label : String) (index : Nat) : Status := (enter .running label).atCommand index

variable {scenario : Scenario} {label : String} {index : Nat} {command : Command}

theorem Truthful.of_idle : Truthful scenario .idle where
  idle _ := rfl
  between h := by simp [Status.idle] at h
  running h := by simp [Status.idle] at h

theorem Truthful.of_between {phase : Phase}
    (h : phase = .starting ∨ phase = .preloading ∨ phase = .ending) :
    Truthful scenario (.enter phase label) where
  idle hidle := by
    obtain rfl | rfl | rfl := h <;> cases hidle
  between _ := ⟨rfl, rfl, rfl⟩
  running hrunning := by
    obtain rfl | rfl | rfl := h <;> cases hrunning

theorem Truthful.of_entered (h : (scenario.label? label).isSome = true) :
    Truthful scenario (.enter .running label) where
  idle hidle := by cases hidle
  between hbetween := by simp [enter] at hbetween
  running _ := ⟨label, rfl, h, nofun, nofun, nofun⟩

theorem Truthful.of_command (h : (scenario.label? label).isSome = true)
    (hcommand : (scenario.commands label)[index]? = some command) {suspension : Suspension}
    (hline : suspension = .line → scenario.isLine command = true)
    (hselection : suspension = .selection → ∃ options place, command = .choice options place) :
    Truthful scenario ((onCommand label index).suspend suspension) where
  idle hidle := by cases hidle
  between hbetween := by simp [onCommand, enter, atCommand, suspend] at hbetween
  running _ := by
    refine ⟨label, rfl, h, ?_, ?_, ?_⟩
    · intro other hother
      cases hother
      exact (List.getElem?_eq_some_iff.1 hcommand).1
    · intro hsuspension
      exact ⟨index, command, rfl, hcommand, hline hsuspension⟩
    · intro hsuspension
      obtain ⟨options, place, rfl⟩ := hselection hsuspension
      exact ⟨index, options, place, rfl, hcommand⟩

end Status

namespace Scenario

variable (scenario : Scenario)

theorem isLine_of_flow {command : Command} (h : scenario.flow command = .awaitLine) :
    scenario.isLine command = true := by
  cases command with
  | text words place => rfl
  | character id hides layer words place =>
    by_cases hspeaks : ((scenario.character? id).isSome && words.isSome) = true
    · exact hspeaks
    · simp [flow, hspeaks] at h
  | jump target place => cases h
  | choice options place => cases h

theorem exists_choice_of_flow {command : Command} {targets : List String}
    (h : scenario.flow command = .awaitSelection targets) :
    ∃ options place, command = .choice options place ∧ targets = options.map (·.target) := by
  cases command with
  | text words place => cases h
  | character id hides layer words place =>
    simp only [flow] at h
    split at h <;> cases h
  | jump target place => cases h
  | choice options place =>
    cases h
    exact ⟨options, place, rfl, rfl⟩

theorem target_of_flow {command : Command} {target : String}
    (h : scenario.flow command = .goto target) : target ∈ command.targets := by
  cases command with
  | text words place => cases h
  | character id hides layer words place =>
    simp only [flow] at h
    split at h <;> cases h
  | jump other place =>
    cases h
    exact List.mem_cons_self
  | choice options place => cases h

theorem isSome_label?_of_commands {label : String} (h : scenario.commands label ≠ []) :
    (scenario.label? label).isSome = true := by
  cases hlabel : scenario.label? label with
  | some found => rfl
  | none =>
    have hprogram : scenario.program.label? label = none := hlabel
    simp [commands, Program.commands, hprogram] at h

/-! ### Itineraries -/

/-- The statuses of a command: it begins, it may wait for the reader, and then it is over. -/
def commandTrail (label : String) (index : Nat) (command : Command) : List Status :=
  let now := Status.onCommand label index
  match scenario.flow command with
  | .awaitLine => [now, now.suspend .line, now]
  | .awaitSelection _ => [now, now.suspend .selection, now]
  | _ => [now]

/-- The statuses of a visit to a label: its assets are preloaded, it is entered, and its commands
follow one after another. -/
def visitTrail (label : String) : List Status :=
  .enter .preloading label :: .enter .running label ::
    ((scenario.commands label).mapIdx (scenario.commandTrail label)).flatten

/-- The statuses with which a run from an entry comes to a label: it starts, and each label that it
comes to after a visit is a target of the label that it visited. -/
inductive Comes (entry : String) : String → List Status → Prop
  | first (h : (scenario.label? entry).isSome = true) :
      Comes entry entry [.enter .starting entry]
  | next {label target : String} {before : List Status} (h : Comes entry label before)
      (htarget : target ∈ (scenario.commands label).flatMap Command.targets)
      (hlabel : (scenario.label? target).isSome = true) :
      Comes entry target (before ++ scenario.visitTrail label)

/-- The statuses of a run that has not ended: none yet, or those with which it came to a label and
those of the visit so far. -/
def Underway (entry : String) (trail : List Status) : Prop :=
  trail = [] ∨ ∃ label before part, scenario.Comes entry label before ∧
    part <+: scenario.visitTrail label ∧ trail = before ++ part

/-- The statuses of a run, by how the run ended. -/
def Travelled (entry : String) (trail : List Status) : Option Ending → Prop
  | none => scenario.Underway entry trail
  | some .leaked => scenario.Underway entry trail
  | some .dropped =>
    -- A run that is given up before it begins has no statuses at all.
    trail = [] ∨ ∃ part, scenario.Underway entry part ∧ trail = part ++ [.idle]
  | some (.outcome .rejected) => trail = []
  | some (.outcome .stopped) => ∃ part, scenario.Underway entry part ∧ trail = part ++ [.idle]
  | some (.outcome (.completed last)) => ∃ before, scenario.Comes entry last before ∧
    trail = before ++ scenario.visitTrail last ++ [.enter .ending last, .idle]

variable {scenario} {entry label : String} {trail before : List Status}

theorem Comes.isSome_label? (h : scenario.Comes entry label before) :
    (scenario.label? label).isSome = true := by
  cases h with
  | first hentry => exact hentry
  | next _ _ hlabel => exact hlabel

theorem truthful_of_mem_commandTrail {index : Nat} {command : Command}
    (h : (scenario.label? label).isSome = true)
    (hcommand : (scenario.commands label)[index]? = some command) {status : Status}
    (hstatus : status ∈ scenario.commandTrail label index command) :
    status.Truthful scenario := by
  have hnow : ((Status.onCommand label index).suspend .none).Truthful scenario :=
    .of_command h hcommand nofun nofun
  unfold commandTrail at hstatus
  split at hstatus
  · -- Reached, waiting for a line, and no longer waiting.
    next hflow =>
    have hline : ((Status.onCommand label index).suspend .line).Truthful scenario :=
      .of_command h hcommand (fun _ => scenario.isLine_of_flow hflow) nofun
    simp only [List.mem_cons, List.not_mem_nil, or_false] at hstatus
    obtain rfl | rfl | rfl := hstatus
    exacts [hnow, hline, hnow]
  · -- The same with a selection, which only a choice waits for.
    next targets hflow =>
    have hselection : ((Status.onCommand label index).suspend .selection).Truthful scenario := by
      obtain ⟨options, place, rfl, -⟩ := scenario.exists_choice_of_flow hflow
      exact .of_command h hcommand nofun fun _ => ⟨options, place, rfl⟩
    simp only [List.mem_cons, List.not_mem_nil, or_false] at hstatus
    obtain rfl | rfl | rfl := hstatus
    exacts [hnow, hselection, hnow]
  · rw [List.mem_singleton.1 hstatus]
    exact hnow

/-- **Every status of a visit to a label tells the truth**, if the label exists. -/
theorem truthful_of_mem_visitTrail (h : (scenario.label? label).isSome = true) {status : Status}
    (hstatus : status ∈ scenario.visitTrail label) : status.Truthful scenario := by
  obtain rfl | rfl | hstatus := by simpa only [visitTrail, List.mem_cons] using hstatus
  · exact .of_between (.inr (.inl rfl))
  · exact .of_entered h
  · obtain ⟨part, hpart, hstatus⟩ := List.mem_flatten.1 hstatus
    obtain ⟨index, hindex, rfl⟩ := List.mem_mapIdx.1 hpart
    exact truthful_of_mem_commandTrail h (List.getElem?_eq_getElem hindex) hstatus

theorem Comes.truthful (h : scenario.Comes entry label before) :
    ∀ status ∈ before, status.Truthful scenario := by
  induction h with
  | first hentry =>
    intro status hstatus
    rw [List.mem_singleton.1 hstatus]
    exact .of_between (.inl rfl)
  | next hcomes htarget hlabel ih =>
    intro status hstatus
    obtain hstatus | hstatus := List.mem_append.1 hstatus
    · exact ih status hstatus
    · exact truthful_of_mem_visitTrail hcomes.isSome_label? hstatus

theorem Underway.truthful (h : scenario.Underway entry trail) :
    ∀ status ∈ trail, status.Truthful scenario := by
  intro status hstatus
  obtain rfl | ⟨label, before, part, hcomes, hpart, rfl⟩ := h
  · cases hstatus
  · obtain hstatus | hstatus := List.mem_append.1 hstatus
    · exact hcomes.truthful status hstatus
    · exact truthful_of_mem_visitTrail hcomes.isSome_label? (hpart.subset hstatus)

/-- **Every status of a run tells the truth**, however the run ended. -/
theorem Travelled.truthful {ending : Option Ending} (h : scenario.Travelled entry trail ending) :
    ∀ status ∈ trail, status.Truthful scenario := by
  -- Being stopped and being given up leave the same trail behind: part of an itinerary, then idle.
  have hbroken : ∀ part, scenario.Underway entry part →
      ∀ status ∈ part ++ [Status.idle], status.Truthful scenario := by
    intro part hpart status hstatus
    obtain hstatus | hstatus := List.mem_append.1 hstatus
    · exact hpart.truthful status hstatus
    · rw [List.mem_singleton.1 hstatus]
      exact .of_idle
  match ending, h with
  | none, h => exact Underway.truthful h
  | some .leaked, h => exact Underway.truthful h
  | some .dropped, .inl h => simp [h]
  | some .dropped, .inr ⟨part, hpart, h⟩ => exact h ▸ hbroken part hpart
  | some (.outcome .rejected), h => simp [show trail = [] from h]
  | some (.outcome .stopped), ⟨part, hpart, h⟩ => exact h ▸ hbroken part hpart
  | some (.outcome (.completed last)), ⟨before, hcomes, h⟩ =>
    rw [h]
    intro status hstatus
    simp only [List.mem_append, List.mem_cons, List.not_mem_nil, or_false] at hstatus
    obtain (hstatus | hstatus) | rfl | rfl := hstatus
    · exact hcomes.truthful status hstatus
    · exact truthful_of_mem_visitTrail hcomes.isSome_label? hstatus
    · exact .of_between (.inr (.inr rfl))
    · exact .of_idle

/-! ### The statuses of a visit so far -/

/-- The statuses of a visit to a label before the command at a position. -/
def visitTo (scenario : Scenario) (label : String) (index : Nat) : List Status :=
  .enter .preloading label :: .enter .running label ::
    (((scenario.commands label).take index).mapIdx (scenario.commandTrail label)).flatten

theorem visitTo_succ {index : Nat} {command : Command}
    (h : (scenario.commands label)[index]? = some command) :
    scenario.visitTo label (index + 1) =
      scenario.visitTo label index ++ scenario.commandTrail label index command := by
  have hlength : ((scenario.commands label).take index).length = index :=
    List.length_take_of_le (Nat.le_of_lt (List.getElem?_eq_some_iff.1 h).1)
  simp [visitTo, List.take_add_one, h, List.mapIdx_append, hlength]

theorem visitTo_of_le {index : Nat} (h : (scenario.commands label).length ≤ index) :
    scenario.visitTo label index = scenario.visitTrail label := by
  rw [visitTo, List.take_of_length_le h, visitTrail]

theorem visitTo_prefix (scenario : Scenario) (label : String) (index : Nat) :
    scenario.visitTo label index <+: scenario.visitTrail label := by
  have hsplit : scenario.visitTrail label = scenario.visitTo label index ++
      (((scenario.commands label).drop index).mapIdx fun i => scenario.commandTrail label
        (i + ((scenario.commands label).take index).length)).flatten := by
    rw [visitTrail, visitTo]
    conv_lhs => rw [← List.take_append_drop index (scenario.commands label)]
    rw [List.mapIdx_append, List.flatten_append]
    rfl
  exact ⟨_, hsplit.symm⟩

/-- What a run has of the visit while a command waits. -/
theorem waiting_prefix {index : Nat} {command : Command} {suspension : Suspension}
    (hcommand : (scenario.commands label)[index]? = some command)
    (htrail : scenario.commandTrail label index command =
      [.onCommand label index, (Status.onCommand label index).suspend suspension,
        .onCommand label index]) :
    scenario.visitTo label index ++
        [.onCommand label index, (Status.onCommand label index).suspend suspension] <+:
      scenario.visitTrail label := by
  have hnext := scenario.visitTo_prefix label (index + 1)
  rw [visitTo_succ hcommand, htrail] at hnext
  exact List.IsPrefix.trans ⟨[.onCommand label index], by simp⟩ hnext

theorem getLast?_commandTrail (scenario : Scenario) (label : String) (index : Nat)
    (command : Command) :
    (scenario.commandTrail label index command).getLast? = some (.onCommand label index) := by
  unfold commandTrail
  split <;> rfl

/-- The label to continue with, if it is known, is a target of a command of the label. -/
def Offers (scenario : Scenario) (label : String) (next : Option String) : Prop :=
  ∀ target, next = some target → target ∈ (scenario.commands label).flatMap Command.targets

theorem Offers.none : scenario.Offers label none := nofun

theorem offers_of_command {index : Nat} {command : Command} {target : String}
    (hcommand : (scenario.commands label)[index]? = some command)
    (htarget : target ∈ command.targets) : scenario.Offers label (some target) := by
  rintro _ ⟨⟩
  exact List.mem_flatMap.2 ⟨command, List.mem_of_getElem? hcommand, htarget⟩

theorem existing?_eq_some {next : Option String} {target : String}
    (h : scenario.existing? next = some target) :
    next = some target ∧ (scenario.label? target).isSome = true :=
  Option.filter_eq_some_iff.1 h

end Scenario

/-! ### Where a run is on its itinerary -/

namespace Run

/-- The status of a run at the point where it is. A run that was only created has none. -/
def status? (run : Run) : Option Status :=
  match run.point with
  | .created => none
  | .opening => some (.enter .starting run.entry)
  | .arriving label _ => some (.enter .preloading label)
  | .fetching label _ => some (.enter .preloading label)
  | .ready label 0 _ => some (.enter .running label)
  | .ready label (index + 1) _ => some (.onCommand label index)
  | .reading label index _ => some ((Status.onCommand label index).suspend .line)
  | .choosing label index _ => some ((Status.onCommand label index).suspend .selection)

/-- The run abides by an itinerary: it came to the point where it is through the statuses of the
trail, and it will go on to targets of the label. -/
def Abides (scenario : Scenario) (entry : String) (trail : List Status) (run : Run) : Prop :=
  match run.point with
  | .created => run.entry = entry ∧ trail = []
  | .opening => run.entry = entry ∧ (scenario.label? entry).isSome = true ∧
    trail = [.enter .starting entry]
  | .arriving label required => required = scenario.requiredAssets label ∧
    ∃ before, scenario.Comes entry label before ∧ trail = before ++ [.enter .preloading label]
  | .fetching label _ =>
    ∃ before, scenario.Comes entry label before ∧ trail = before ++ [.enter .preloading label]
  | .ready label index next => index < (scenario.commands label).length ∧
    scenario.Offers label next ∧
    ∃ before, scenario.Comes entry label before ∧ trail = before ++ scenario.visitTo label index
  | .reading label index next => scenario.Offers label next ∧
    ∃ command, (scenario.commands label)[index]? = some command ∧
      scenario.flow command = .awaitLine ∧
    ∃ before, scenario.Comes entry label before ∧ trail = before ++ (scenario.visitTo label index ++
      [.onCommand label index, (Status.onCommand label index).suspend .line])
  | .choosing label index targets =>
    ∃ command, (scenario.commands label)[index]? = some command ∧
      scenario.flow command = .awaitSelection targets ∧
    ∃ before, scenario.Comes entry label before ∧ trail = before ++ (scenario.visitTo label index ++
      [.onCommand label index, (Status.onCommand label index).suspend .selection])

section

variable {scenario : Scenario} {entry : String} {trail : List Status} {run : Run}

theorem Abides.underway (h : run.Abides scenario entry trail) : scenario.Underway entry trail := by
  have hpreloading : ∀ label, [.enter .preloading label] <+: scenario.visitTrail label :=
    fun label => List.prefix_append [Status.enter .preloading label] _
  obtain ⟨own, point⟩ := run
  cases point with
  | created => exact .inl h.2
  | opening =>
    obtain ⟨-, hlabel, rfl⟩ := h
    exact .inr ⟨entry, _, [], .first hlabel, List.nil_prefix, (List.append_nil _).symm⟩
  | arriving label required =>
    obtain ⟨-, before, hcomes, rfl⟩ := h
    -- The assets are still on their way, so only the first status of the visit is there.
    exact .inr ⟨label, before, _, hcomes, hpreloading label, rfl⟩
  | fetching label batch =>
    obtain ⟨before, hcomes, rfl⟩ := h
    exact .inr ⟨label, before, _, hcomes, hpreloading label, rfl⟩
  | ready label index next =>
    obtain ⟨-, -, before, hcomes, rfl⟩ := h
    exact .inr ⟨label, before, _, hcomes, scenario.visitTo_prefix label index, rfl⟩
  | reading label index next =>
    obtain ⟨-, command, hcommand, hflow, before, hcomes, rfl⟩ := h
    -- A wait is a prefix of its command's trail, which goes on when the answer comes.
    refine .inr ⟨label, before, _, hcomes, Scenario.waiting_prefix hcommand ?_, rfl⟩
    rw [Scenario.commandTrail, hflow]
  | choosing label index targets =>
    obtain ⟨command, hcommand, hflow, before, hcomes, rfl⟩ := h
    refine .inr ⟨label, before, _, hcomes, Scenario.waiting_prefix hcommand ?_, rfl⟩
    rw [Scenario.commandTrail, hflow]

/-- **The last status of the trail is that of the point where the run is.** -/
theorem Abides.getLast? (h : run.Abides scenario entry trail) : trail.getLast? = run.status? := by
  obtain ⟨own, point⟩ := run
  cases point with
  | created =>
    obtain ⟨-, rfl⟩ := h
    rfl
  | opening =>
    obtain ⟨rfl, -, rfl⟩ := h
    rfl
  | arriving label required =>
    obtain ⟨-, before, -, rfl⟩ := h
    exact List.getLast?_concat
  | fetching label batch =>
    obtain ⟨before, -, rfl⟩ := h
    exact List.getLast?_concat
  | ready label index next =>
    -- Before its first command the run shows the label, after that the command before.
    obtain ⟨hindex, -, before, -, rfl⟩ := h
    cases index with
    | zero => simp [List.getLast?_append, Scenario.visitTo, status?]
    | succ index =>
      have hlt : index < (scenario.commands label).length := Nat.lt_of_succ_lt hindex
      rw [Scenario.visitTo_succ (List.getElem?_eq_getElem hlt), List.getLast?_append,
        List.getLast?_append, Scenario.getLast?_commandTrail]
      rfl
  | reading label index next =>
    obtain ⟨-, command, -, -, before, -, rfl⟩ := h
    simp [List.getLast?_append, status?]
  | choosing label index targets =>
    obtain ⟨command, -, -, before, -, rfl⟩ := h
    simp [List.getLast?_append, status?]

end

end Run

/-- The progress of a run abides by an itinerary. -/
def Progress.Abides (scenario : Scenario) (entry : String) (trail : List Status) : Progress → Prop
  | waiting _ run => run.Abides scenario entry trail
  | moved _ run => run.Abides scenario entry trail
  | ended _ outcome => scenario.Travelled entry trail (some (.outcome outcome))

namespace Run

section

variable {scenario : Scenario} {entry label : String} {trail before : List Status} {index : Nat}
  {next : Option String}

/-- A run that approaches a command, or leaves the label when there are no more. -/
theorem approach_abides (run : Run) (stage : Stage) (index : Nat)
    (hcomes : scenario.Comes entry label before)
    (hnext : scenario.Offers label next) :
    (run.approach scenario stage label index next).Abides scenario entry
      (before ++ scenario.visitTo label index ++ scenario.approachTrail label index next) := by
  unfold Scenario.approachTrail
  obtain ⟨hlt, h⟩ | ⟨hle, h⟩ := approach_cases scenario run stage label index next
  · rw [h, if_pos hlt, List.append_nil]
    exact ⟨hlt, hnext, before, hcomes, rfl⟩
  · -- No command is left: the visit is whole, and the run goes to the next label or ends.
    rw [h, if_neg (Nat.not_lt.2 hle), Scenario.visitTo_of_le hle, Scenario.leaveTrail]
    obtain ⟨target, htarget, h⟩ | ⟨hnone, notices, h⟩ := leave_cases scenario run stage label next
    · rw [h, htarget]
      obtain ⟨rfl, hlabel⟩ := Scenario.existing?_eq_some htarget
      exact ⟨rfl, _, hcomes.next (hnext target rfl) hlabel, rfl⟩
    · rw [h, hnone]
      exact ⟨before, hcomes, rfl⟩

theorem fetch_abides (run : Run) (stage : Stage) (batch : Batch)
    {pending : Stage → Run → Progress} (hpending : pending = .moved ∨ pending = .waiting)
    (hcomes : scenario.Comes entry label before) :
    (run.fetch scenario stage label batch pending).Abides scenario entry
      (before ++ [.enter .preloading label] ++ scenario.fetchTrail label batch) := by
  unfold fetch Scenario.fetchTrail
  cases batch.isDone with
  | true =>
    have happroach : ∀ after, (run.approach scenario after label 0 none).Abides scenario entry
        (before ++ scenario.visitTo label 0 ++ scenario.approachTrail label 0 none) :=
      fun after => approach_abides run after 0 hcomes .none
    simpa [Scenario.visitTo, enter] using happroach _
  | false =>
    rw [if_neg Bool.false_ne_true, if_neg Bool.false_ne_true, List.append_nil]
    obtain rfl | rfl := hpending <;> exact ⟨before, hcomes, rfl⟩

/-- A run that passes from a command to the next one has all the statuses of the command. -/
theorem pass_abides (run : Run) (stage : Stage) {command : Command} (part : List Status)
    (hcomes : scenario.Comes entry label before)
    (hcommand : (scenario.commands label)[index]? = some command)
    (hnext : scenario.Offers label next)
    (hpart : scenario.commandTrail label index command = part ++ [.onCommand label index]) :
    (run.pass scenario stage label index next).Abides scenario entry
      (before ++ (scenario.visitTo label index ++ part) ++
        .onCommand label index :: scenario.approachTrail label (index + 1) next) := by
  have happroach := approach_abides run
    (stage.withStatus (stage.status.suspend .none)).closeInbox (index + 1) hcomes hnext
  rw [Scenario.visitTo_succ hcommand, hpart] at happroach
  simpa [pass] using happroach

theorem begin_abides (run : Run) {stage : Stage} {command : Command}
    (hcomes : scenario.Comes entry label before)
    (hcommand : (scenario.commands label)[index]? = some command)
    (hnext : scenario.Offers label next)
    (hstatus : stage.status.atCommand index = .onCommand label index) :
    (run.begin scenario stage label index next command).Abides scenario entry
      (before ++ scenario.visitTo label index ++
        run.trail scenario stage (.begin label index next command)) := by
  rw [begin_eq, Run.trail, hstatus]
  cases hflow : scenario.flow command with
  | proceed =>
    have hpass := pass_abides run (performed scenario stage index command) [] hcomes
      hcommand hnext (by rw [Scenario.commandTrail, hflow]; rfl)
    simpa using hpass
  | goto target =>
    -- A jump overrules the target that was known before.
    have htarget := scenario.target_of_flow hflow
    have hpass := pass_abides run (performed scenario stage index command) [] hcomes
      hcommand (Scenario.offers_of_command hcommand htarget)
      (by rw [Scenario.commandTrail, hflow]; rfl)
    simpa using hpass
  | awaitLine => exact ⟨hnext, command, hcommand, hflow, before, hcomes, by simp⟩
  | awaitSelection targets => exact ⟨command, hcommand, hflow, before, hcomes, by simp⟩

/-- **One step of a run keeps it on its itinerary**, through the statuses of the step. -/
theorem abides_step {run : Run} {stage : Stage} (h : run.Abides scenario entry trail)
    (hstatus : ∀ status, run.status? = some status → stage.status = status) :
    (run.step scenario stage).Abides scenario entry
      (trail ++ run.trail scenario stage (run.deed scenario stage)) := by
  have hunderway := h.underway
  have hstay : run.Abides scenario entry (trail ++ []) := by rwa [List.append_nil]
  rw [step_eq_carryOut]
  obtain ⟨-, hdeed⟩ | ⟨-, hdeed⟩ := deed_cases scenario stage run
  · -- Stopped: whatever has been shown so far is part of an itinerary, and the run ends there.
    rw [hdeed]
    exact ⟨trail, hunderway, rfl⟩
  rw [hdeed]
  obtain ⟨own, point⟩ := run
  unfold intent
  cases point with
  | created =>
    dsimp only
    obtain ⟨rfl, rfl⟩ := h
    split
    · exact rfl
    · next hcommands =>
      -- A label with commands is a label of the scenario, so the itinerary has a start.
      refine ⟨rfl, scenario.isSome_label?_of_commands ?_, rfl⟩
      intro hnil
      rw [hnil] at hcommands
      exact hcommands rfl
  | opening =>
    dsimp only
    split
    · exact hstay
    · obtain ⟨rfl, hlabel, rfl⟩ := h
      exact ⟨rfl, _, .first hlabel, rfl⟩
  | arriving label required =>
    obtain ⟨-, before, hcomes, rfl⟩ := h
    exact fetch_abides _ _ _ (.inl rfl) hcomes
  | fetching label batch =>
    obtain ⟨before, hcomes, rfl⟩ := h
    exact fetch_abides _ _ _ (.inr rfl) hcomes
  | ready label index next =>
    dsimp only
    split
    · exact hstay
    · obtain ⟨hindex, hnext, before, hcomes, rfl⟩ := h
      -- The label of the status is kept from the command before, or from entering the label.
      have hnow : stage.status.atCommand index = .onCommand label index := by
        cases index <;> rw [hstatus _ rfl] <;> rfl
      rw [List.getElem?_eq_getElem hindex]
      exact begin_abides _ hcomes (List.getElem?_eq_getElem hindex) hnext hnow
  | reading label index next =>
    dsimp only
    split
    · obtain ⟨hnext, command, hcommand, hflow, before, hcomes, rfl⟩ := h
      have hpass := pass_abides ⟨own, .reading label index next⟩ (takeSignals stage)
        [.onCommand label index, (Status.onCommand label index).suspend .line] hcomes hcommand hnext
        (by rw [Scenario.commandTrail, hflow]; rfl)
      simp only [Run.trail, hstatus _ rfl]
      exact hpass
    · exact hstay
  | choosing label index targets =>
    dsimp only
    cases hchoice : (firstChoice targets.length stage.desk.kept).1 with
    | none => exact hstay
    | some answer =>
      obtain ⟨command, hcommand, hflow, before, hcomes, rfl⟩ := h
      -- Whichever option was taken, its target is one that the choice names.
      have hoffers : scenario.Offers label targets[answer]? := by
        obtain ⟨options, place, rfl, rfl⟩ := scenario.exists_choice_of_flow hflow
        intro target htarget
        exact Scenario.offers_of_command hcommand (List.mem_of_getElem? htarget) target rfl
      have hpass := pass_abides ⟨own, .choosing label index targets⟩ (takeAnswers stage targets)
        [.onCommand label index, (Status.onCommand label index).suspend .selection] hcomes hcommand
        hoffers (by rw [Scenario.commandTrail, hflow]; rfl)
      simp only [Run.trail, hstatus _ rfl]
      exact hpass

end

end Run

/-! ### What is seen on the way -/

/-- The phase that an event belongs to. -/
def Event.phase : Event → Phase
  | start => .starting
  | finish => .ending
  | asset _ => .preloading
  | text _ _ => .running
  | appear _ _ _ => .running
  | hide _ => .running
  | choices _ => .running

theorem Scenario.phase_of_mem_shows {scenario : Scenario} {resident : String → Option Handle}
    {command : Command} {event : Event} (h : event ∈ scenario.shows resident command) :
    event.phase = .running := by
  cases command with
  | text words place => rw [List.mem_singleton.1 h]; rfl
  | jump target place => cases h
  | choice options place => rw [List.mem_singleton.1 h]; rfl
  | character id hides layer words place =>
    cases hc : scenario.character? id with
    | none => simp [shows, hc] at h
    | some character =>
      simp only [shows, hc, List.mem_append, List.mem_map] at h
      obtain h | ⟨words, -, rfl⟩ := h
      · cases hides with
        | true => rw [List.mem_singleton.1 h]; rfl
        | false =>
          obtain ⟨sprite, -, rfl⟩ := List.mem_map.1 h
          rfl
      · rfl

theorem Progress.phase_of_mem_farewell {progress : Progress} {sight : Event × Status}
    (h : sight ∈ progress.farewell) : sight.2.phase = sight.1.phase := by
  unfold farewell at h
  split at h
  · rw [List.mem_singleton.1 h]; rfl
  · cases h

/-- The events of a step are seen in the status of the run or in one that the step takes on, and in
the phase that they belong to. -/
theorem Run.sight_of_deed {scenario : Scenario} {stage : Stage} {run : Run} {event : Event}
    (hstatus : ∀ status, run.status? = some status → stage.status = status)
    (h : event ∈ (run.deed scenario stage).events scenario stage) :
    (run.deed scenario stage).sight stage run ∈
        run.status?.toList ++ run.trail scenario stage (run.deed scenario stage) ∧
      ((run.deed scenario stage).sight stage run).phase = event.phase := by
  obtain ⟨-, hdeed⟩ | ⟨-, hdeed⟩ := deed_cases scenario stage run
  · -- A run that is being stopped shows nothing more.
    rw [hdeed] at h
    cases h
  rw [hdeed] at h ⊢
  obtain ⟨entry, point⟩ := run
  unfold intent at h ⊢
  cases point with
  | created =>
    dsimp only at h ⊢
    split at h
    · cases h
    · next hcommands =>
      rw [if_neg hcommands, List.mem_singleton.1 h]
      exact ⟨List.mem_cons_self, rfl⟩
  | opening =>
    dsimp only at h
    split at h <;> cases h
  | arriving label required =>
    obtain ⟨asset, -, rfl⟩ := List.mem_map.1 h
    dsimp only [Deed.sight]
    rw [hstatus _ rfl]
    exact ⟨List.mem_cons_self, rfl⟩
  | fetching label batch => cases h
  | ready label index next =>
    dsimp only at h ⊢
    split at h
    · cases h
    next hpaused =>
    rw [if_neg hpaused]
    split at h
    · next command hcommand =>
      -- What a command shows is seen in its own status, which the step has just taken on.
      refine ⟨List.mem_append_right _ ?_, ?_⟩
      · simp only [Run.trail, Deed.sight]
        cases scenario.flow command <;> exact List.mem_cons_self
      · rw [scenario.phase_of_mem_shows h, Deed.sight]
        cases index <;> rw [hstatus _ rfl] <;> rfl
    · cases h
  | reading label index next =>
    dsimp only at h
    split at h <;> cases h
  | choosing label index targets =>
    dsimp only at h
    split at h <;> cases h

/-! ### The statuses of a run -/

/-- The statuses that are taken on in moments, one after another. -/
def Moment.trails (moments : List Moment) : List Status := moments.flatMap Moment.trail

namespace Session

/-- The run of a session is on its itinerary after turns: it abides by it while it is in progress,
and it has travelled on it once it has ended. -/
def Travels (start : Session) (entry : String) (turns : List Turn) : Prop :=
  let trail := Moment.trails (start.history turns)
  match (start.after turns).run with
  | some run => start.ending turns = none ∧ run.Abides start.scenario entry trail
  | none => ∃ ending, start.ending turns = some ending ∧
    start.scenario.Travelled entry trail (some ending)

theorem trails_append (start : Session) (first later : List Turn) :
    Moment.trails (start.history (first ++ later)) =
      Moment.trails (start.history first) ++ Moment.trails ((start.after first).history later) := by
  rw [Moment.trails, history_append, List.flatMap_append]
  rfl

theorem trails_snoc (start : Session) (turns : List Turn) (turn : Turn) :
    Moment.trails (start.history (turns ++ [turn])) =
      Moment.trails (start.history turns) ++ Moment.trail ⟨start.after turns, turn⟩ := by
  rw [trails_append]
  exact congrArg (_ ++ ·) (List.append_nil _)

/-- **The status of a session is the last that was taken on**, if one was. -/
theorem status_after (start : Session) (turns : List Turn) :
    (start.after turns).stage.status =
      (Moment.trails (start.history turns)).getLast?.getD start.stage.status := by
  induction turns using List.reverseRecOn with
  | nil => rfl
  | append_singleton turns turn ih =>
    have hmoment := Moment.status_after ⟨start.after turns, turn⟩
    rw [after_append, after_cons, after_nil, trails_snoc, List.getLast?_append]
    refine hmoment.trans ?_
    cases (Moment.trail ⟨start.after turns, turn⟩).getLast? with
    | none => exact ih
    | some status => rfl

variable {start : Session} {entry : String} {turns : List Turn}

theorem ending_snoc_of_none (turn : Turn) (h : start.ending turns = none) :
    start.ending (turns ++ [turn]) = ((start.after turns).turn turn).2 := by
  rw [ending_append, h, Option.none_or, ending_cons, ending_nil, Option.or_none]

theorem Travels.abides (h : start.Travels entry turns) {run : Run}
    (hrun : (start.after turns).run = some run) :
    start.ending turns = none ∧
      run.Abides start.scenario entry (Moment.trails (start.history turns)) := by
  unfold Travels at h
  rwa [hrun] at h

/-- **The status of a run in progress is that of the point where it is.** -/
theorem Travels.status (h : start.Travels entry turns) {run : Run}
    (hrun : (start.after turns).run = some run) {status : Status}
    (hstatus : run.status? = some status) : (start.after turns).stage.status = status := by
  rw [status_after, (h.abides hrun).2.getLast?, hstatus]
  rfl

theorem Travels.step (h : start.Travels entry turns) {run : Run}
    (hrun : (start.after turns).run = some run) : start.Travels entry (turns ++ [.step]) := by
  obtain ⟨hnone, habides⟩ := h.abides hrun
  have hscenario : (start.after turns).scenario = start.scenario := start.after_scenario turns
  have hstep := Run.abides_step habides fun status => h.status hrun
  unfold Travels
  rw [ending_snoc_of_none _ hnone, after_append, after_cons, after_nil, trails_snoc,
    turn_step _ hrun, Moment.trail_step hrun, hscenario]
  cases hprogress : run.step start.scenario (start.after turns).stage with
  | ended stage outcome =>
    rw [hprogress] at hstep
    exact ⟨_, rfl, hstep⟩
  | waiting stage run =>
    rw [hprogress] at hstep
    exact ⟨rfl, hstep⟩
  | moved stage run =>
    rw [hprogress] at hstep
    exact ⟨rfl, hstep⟩

/-- **A turn keeps a run on its itinerary.** -/
theorem Travels.snoc (h : start.Travels entry turns) (turn : Turn) :
    start.Travels entry (turns ++ [turn]) := by
  cases hrun : (start.after turns).run with
  | none =>
    -- The run is over, and no turn adds to its trail.
    unfold Travels at h ⊢
    rw [hrun] at h
    obtain ⟨ending, hending, htravelled⟩ := h
    rw [after_append, after_cons, after_nil, turn_run_none _ hrun, trails_snoc,
      Moment.trail_of_run_none hrun, List.append_nil, ending_append, hending, Option.some_or]
    exact ⟨ending, rfl, htravelled⟩
  | some run =>
    cases turn with
    | step => exact h.step hrun
    | request request =>
      unfold Travels at h ⊢
      rw [hrun] at h
      rw [ending_snoc_of_none _ h.1, after_append, after_cons, after_nil, trails_snoc]
      simp only [Session.turn, request_run, hrun, Moment.trail, List.append_nil]
      exact ⟨trivial, h.2⟩
    | drop =>
      unfold Travels at h ⊢
      rw [hrun] at h
      rw [ending_snoc_of_none _ h.1, after_append, after_cons, after_nil, trails_snoc]
      simp only [Session.turn, hrun, Session.drop, Moment.trail]
      refine ⟨.dropped, rfl, ?_⟩
      -- Dropped before its first step, a run leaves the status as it was; later it is idle.
      obtain ⟨own, point⟩ := run
      cases point with
      | created => exact .inl (by simp [h.2.2])
      | _ => exact .inr ⟨_, h.2.underway, rfl⟩
    | leak =>
      unfold Travels at h ⊢
      rw [hrun] at h
      rw [ending_snoc_of_none _ h.1, after_append, after_cons, after_nil, trails_snoc]
      simp only [Session.turn, hrun, Session.leak, Moment.trail, List.append_nil]
      exact ⟨.leaked, rfl, h.2.underway⟩

/-- **A run is on its itinerary at all times.** -/
theorem travels (session : Session) (label : Option String) (turns : List Turn) :
    (session.create label).Travels (label.getD session.entry) turns := by
  induction turns using List.reverseRecOn with
  | nil => exact ⟨rfl, rfl, rfl⟩
  | append_singleton turns turn ih => exact ih.snoc turn

/-- What is seen in a step of a run is seen in a status that the run has taken on, in the phase that
it belongs to. -/
theorem sights_of_step (session : Session) (label : Option String) (turns : List Turn) :
    let start := session.create label
    let moment : Moment := ⟨start.after turns, .step⟩
    ∀ sight ∈ moment.sights,
      sight.2 ∈ (Moment.trails (start.history turns)).getLast?.toList ++ moment.trail ∧
        sight.2.phase = sight.1.phase := by
  intro start moment sight hsight
  cases hrun : (start.after turns).run with
  | none =>
    rw [Moment.sights_step_none hrun] at hsight
    cases hsight
  | some run =>
    have htravels := travels session label turns
    rw [(htravels.abides hrun).2.getLast?, Moment.trail_step hrun]
    rw [Moment.sights_step hrun] at hsight
    obtain hsight | hsight := List.mem_append.1 hsight
    · -- Seen while the step does its work, and then in the farewell of a run that ends.
      obtain ⟨event, hevent, rfl⟩ := List.mem_map.1 hsight
      exact Run.sight_of_deed (fun status => htravels.status hrun) hevent
    · refine ⟨List.mem_append_right _ (Run.farewell_carryOut _ _ _ _ sight hsight), ?_⟩
      exact Progress.phase_of_mem_farewell hsight

/-- **The status always tells the truth**, whatever the host does and in whatever order. The status
that a moment meets is the last that the run took on, if it took on one. What is seen in a step is
seen in that status or in one that the step takes on, and in the phase that it belongs to; what is
seen in a turn of the host is seen in the status of the session. Each status that the run takes on
is true of the scenario. One after another they follow the itinerary: the run starts, then it visits
labels, each one preloaded, entered and gone through command by command, and each a target of the
label before; then it comes to its end and is idle. A run that is stopped or given up is idle at
once. -/
theorem status_is_truthful (session : Session) (label : Option String) (turns : List Turn) :
    let start := session.create label
    let trail := Moment.trails (start.history turns)
    (∀ past moment late, start.history turns = past ++ moment :: late →
      let last? := (Moment.trails past).getLast?
      moment.session.stage.status = last?.getD session.stage.status ∧
      (moment.turn = .step → ∀ sight ∈ moment.sights,
        sight.2 ∈ last?.toList ++ moment.trail ∧ sight.2.phase = sight.1.phase) ∧
      (moment.turn ≠ .step → ∀ sight ∈ moment.sights,
        sight.2 = moment.session.stage.status)) ∧
    (start.after turns).stage.status = trail.getLast?.getD session.stage.status ∧
    (∀ status ∈ trail, status.Truthful session.scenario) ∧
    session.scenario.Travelled (label.getD session.entry) trail (start.ending turns) := by
  intro start trail
  -- The run is still on its way, or it has ended and its whole trail is accounted for.
  have htravelled :
      session.scenario.Travelled (label.getD session.entry) trail (start.ending turns) := by
    have htravels := travels session label turns
    unfold Travels at htravels
    split at htravels
    · obtain ⟨hnone, habides⟩ := htravels
      rw [hnone]
      exact habides.underway
    · obtain ⟨ending, hending, htravelled⟩ := htravels
      rw [hending]
      exact htravelled
  refine ⟨?_, start.status_after turns, htravelled.truthful, htravelled⟩
  intro past moment late hhistory last?
  -- A moment of the history is the session after the turns before it.
  obtain ⟨first, rest, -, rfl, hsession, -⟩ := start.exists_turns_of_history hhistory
  obtain ⟨now, turn⟩ := moment
  obtain rfl : now = start.after first := hsession
  refine ⟨start.status_after first, ?_, Moment.sight_of_not_step⟩
  rintro rfl
  exact sights_of_step session label first

end Session

end Storyboard
