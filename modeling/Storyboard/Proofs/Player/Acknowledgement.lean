import Storyboard.Proofs.Player.History
import Mathlib.Data.List.Induction

/-!
# Acknowledgements reach the command that waits for them

A command that waits for the reader looks through its inbox each time it is polled. What it finds
there is what was sent since it began, cut at the polls before; of each piece only the newest
sixteen signals are kept (`Mail.considered`). `Session.acknowledgement_reaches_waiting_command` says
that this alone decides how the wait goes on: the first signal of it that the command accepts ends
the wait, and all others mean nothing. What was sent before the command began, or for a command
whose wait has ended, is no part of it.

The invariant of the proof is `Attends`: in the middle of a command, the inbox holds what was sent
since the last poll, and no earlier poll found a signal to accept.
-/

namespace Storyboard

/-! ### Signals -/

namespace Signal

/-- The newest sixteen signals. -/
def newest (signals : List Signal) : List Signal := signals.drop (signals.length - 16)

/-- The option that a signal chooses, if it is one of so many. -/
def option? (count : Nat) : Signal → Option Nat
  | .choose index => if index < count then some index else none
  | .advance => none

theorem newest_of_le {signals : List Signal} (h : signals.length ≤ 16) :
    newest signals = signals := by
  rw [newest, Nat.sub_eq_zero_of_le h, List.drop_zero]

end Signal

/-- Whether a signal is what a command waits for. -/
def Flow.accepts : Flow → Signal → Bool
  | .awaitLine, signal => decide (signal = .advance)
  | .awaitSelection targets, signal => (signal.option? targets.length).isSome
  | _, _ => false

theorem Desk.kept_eq_newest (desk : Desk) : desk.kept = Signal.newest desk.pending := rfl

/-- The option that is chosen is that of the first signal that chooses one. -/
theorem Run.firstChoice_eq_findSome? (count : Nat) (signals : List Signal) :
    (firstChoice count signals).1 = signals.findSome? (Signal.option? count) := by
  induction signals with
  | nil => rfl
  | cons signal rest ih =>
    rw [List.findSome?_cons]
    cases signal with
    | advance => exact ih
    | choose index =>
      by_cases h : index < count
      · simp [firstChoice, Signal.option?, h]
      · simpa [firstChoice, Signal.option?, h] using ih

/-! ### Moments in which a command waits -/

namespace Deed

/-- Whether the inbox is looked through. -/
def polls : Deed → Bool
  | listen => true
  | advance _ _ _ => true
  | ask _ => true
  | choose _ _ _ _ => true
  | _ => false

/-- Whether the wait of a command ends. -/
def settles : Deed → Bool
  | advance _ _ _ => true
  | choose _ _ _ _ => true
  | _ => false

end Deed

namespace Moment

/-- Whether the inbox is looked through in the moment. -/
def polls (moment : Moment) : Bool := moment.deed.any Deed.polls

/-- Whether the wait of a command ends in the moment. -/
def settles (moment : Moment) : Bool := moment.deed.any Deed.settles

/-- The moments since a command last began. -/
def sinceCommand (moments : List Moment) : List Moment :=
  moments.foldl
    (fun since moment =>
      if (moment.deed.bind Deed.command?).isSome then [moment] else since ++ [moment]) []

theorem sinceCommand_snoc (moments : List Moment) (moment : Moment) :
    sinceCommand (moments ++ [moment]) =
      if (moment.deed.bind Deed.command?).isSome then [moment]
      else sinceCommand moments ++ [moment] := by
  rw [sinceCommand, List.foldl_append]
  rfl

theorem sinceCommand_snoc_of_none (moments : List Moment) {moment : Moment}
    (h : moment.deed.bind Deed.command? = none) :
    sinceCommand (moments ++ [moment]) = sinceCommand moments ++ [moment] := by
  rw [sinceCommand_snoc, h]
  rfl

end Moment

/-- The signals of moments, cut where the inbox was looked through. -/
structure Mail where
  /-- What was pending each time that the inbox was looked through. -/
  found : List (List Signal)
  /-- What was sent since. -/
  pending : List Signal

namespace Mail

/-- The mail after one more moment. -/
def add (mail : Mail) (moment : Moment) : Mail :=
  if moment.polls then ⟨mail.found ++ [mail.pending], moment.signals⟩
  else ⟨mail.found, mail.pending ++ moment.signals⟩

/-- The mail of moments. -/
def ofMoments (moments : List Moment) : Mail := moments.foldl add ⟨[], []⟩

/-- The pieces of the mail: what was pending each time that the inbox was looked through, and what
is pending now. -/
def pieces (mail : Mail) : List (List Signal) := mail.found ++ [mail.pending]

/-- The signals that are considered: of each piece the newest sixteen. -/
def considered (mail : Mail) : List Signal := mail.pieces.flatMap Signal.newest

theorem ofMoments_snoc (moments : List Moment) (moment : Moment) :
    ofMoments (moments ++ [moment]) = (ofMoments moments).add moment := by
  rw [ofMoments, List.foldl_append]
  rfl

theorem add_of_polls {moment : Moment} (h : moment.polls = true) (mail : Mail) :
    mail.add moment = ⟨mail.found ++ [mail.pending], moment.signals⟩ := by
  rw [add, if_pos h]

theorem add_of_not_polls {moment : Moment} (h : moment.polls = false) (mail : Mail) :
    mail.add moment = ⟨mail.found, mail.pending ++ moment.signals⟩ := by
  rw [add, h]
  rfl

/-- **No signal is lost between the pieces, and none is in two of them.** -/
theorem flatten_pieces (moments : List Moment) :
    (ofMoments moments).pieces.flatten = moments.flatMap Moment.signals := by
  induction moments using List.reverseRecOn with
  | nil => rfl
  | append_singleton moments moment ih =>
    have hflat : ∀ mail : Mail, mail.pieces.flatten = mail.found.flatten ++ mail.pending := by
      intro mail
      simp [pieces]
    rw [hflat] at ih ⊢
    rw [ofMoments_snoc, List.flatMap_append, ← ih]
    cases h : moment.polls with
    | true => simp [add_of_polls h]
    | false => simp [add_of_not_polls h]

/-- If no piece has more than sixteen signals, all signals are considered. -/
theorem considered_of_le {moments : List Moment}
    (h : ∀ piece ∈ (ofMoments moments).pieces, piece.length ≤ 16) :
    (ofMoments moments).considered = moments.flatMap Moment.signals := by
  have hsame : (ofMoments moments).pieces.map Signal.newest = (ofMoments moments).pieces :=
    (List.map_congr_left fun piece hpiece => Signal.newest_of_le (h piece hpiece)).trans
      (List.map_id' _)
  rw [considered, List.flatMap_def, hsame, flatten_pieces]

theorem considered_sublist (moments : List Moment) :
    (ofMoments moments).considered.Sublist (moments.flatMap Moment.signals) := by
  have hnewest : ∀ pieces : List (List Signal),
      (pieces.flatMap Signal.newest).Sublist pieces.flatten := by
    intro pieces
    induction pieces with
    | nil => exact List.Sublist.refl _
    | cons piece rest ih => exact (List.drop_sublist _ _).append ih
  rw [← flatten_pieces]
  exact hnewest _

end Mail

/-! ### In the middle of a command -/

/-- After the given moments, the command at a place was the last to begin, with the given flow, and
no wait has ended since. -/
def Began (scenario : Scenario) (past : List Moment) (label : String) (index : Nat) (flow : Flow) :
    Prop :=
  ∃ early begun rest next command, past = early ++ begun :: rest ∧
    Moment.sinceCommand past = begun :: rest ∧
    begun.deed = some (.begin label index next command) ∧ scenario.flow command = flow ∧
    ∀ moment ∈ rest, moment.settles = false

/-- After the given moments, the command at a place is under way and waits for its flow. -/
structure Attends (scenario : Scenario) (past : List Moment) (desk : Desk) (label : String)
    (index : Nat) (flow : Flow) : Prop where
  /-- The command was the last to begin, and no wait has ended since. -/
  began : Began scenario past label index flow
  /-- The inbox holds what was sent since the last poll. -/
  inbox : desk.inbox = some (Mail.ofMoments (Moment.sinceCommand past)).pending
  /-- No poll found a signal to accept. -/
  vain : ∀ piece ∈ (Mail.ofMoments (Moment.sinceCommand past)).found,
    ∀ signal ∈ Signal.newest piece, flow.accepts signal = false

section

variable {scenario : Scenario} {past : List Moment} {desk after : Desk} {label : String}
  {index : Nat} {flow : Flow} {moment : Moment}

theorem Began.snoc (h : Began scenario past label index flow)
    (hcommand : moment.deed.bind Deed.command? = none) (hsettles : moment.settles = false) :
    Began scenario (past ++ [moment]) label index flow := by
  obtain ⟨early, begun, rest, next, command, hpast, hsince, hdeed, hflow, hrest⟩ := h
  refine ⟨early, begun, rest ++ [moment], next, command, ?_, ?_, hdeed, hflow, ?_⟩
  · rw [hpast, List.append_assoc, List.cons_append]
  · rw [Moment.sinceCommand_snoc_of_none past hcommand, hsince, List.cons_append]
  · intro other hother
    obtain hother | hother := List.mem_append.1 hother
    · exact hrest other hother
    · rw [List.mem_singleton.1 hother]
      exact hsettles

/-- The command began after every wait that has ended. -/
theorem Began.suffix_of_settles (h : Began scenario past label index flow)
    {first between : List Moment} {ended : Moment} (hpast : past = first ++ ended :: between)
    (hended : ended.settles = true) : Moment.sinceCommand past <:+ between := by
  obtain ⟨early, begun, rest, next, command, hsplit, hsince, hdeed, -, hrest⟩ := h
  -- Beginning a command does not end a wait.
  have hbegun : begun ≠ ended := by
    rintro rfl
    rw [Moment.settles, hdeed] at hended
    cases hended
  rw [hsince]
  -- The two ways to cut the past: a wait that ended after the command began would be in `rest`.
  obtain ⟨as, -, has⟩ | ⟨bs, -, hbs⟩ := List.append_eq_append_iff.1 (hsplit.symm.trans hpast)
  · cases as with
    | nil => exact absurd (List.cons.inj has).1 hbegun
    | cons first as =>
      have hmem : ended ∈ rest := by
        rw [(List.cons.inj has).2]
        exact List.mem_append_right _ List.mem_cons_self
      cases (hrest ended hmem).symm.trans hended
  · cases bs with
    | nil => exact absurd (List.cons.inj hbs).1.symm hbegun
    | cons first bs => exact ⟨bs, (List.cons.inj hbs).2.symm⟩

namespace Attends

theorem pending (h : Attends scenario past desk label index flow) :
    desk.pending = (Mail.ofMoments (Moment.sinceCommand past)).pending := by
  rw [Desk.pending, h.inbox]
  rfl

theorem of_begin {next : Option String} {command : Command}
    (hdeed : moment.deed = some (.begin label index next command))
    (hinbox : after.inbox = some moment.signals) :
    Attends scenario (past ++ [moment]) after label index (scenario.flow command) := by
  have hsince : Moment.sinceCommand (past ++ [moment]) = [moment] := by
    rw [Moment.sinceCommand_snoc, hdeed]
    rfl
  have hmail : Mail.ofMoments [moment] = ⟨[], moment.signals⟩ :=
    Mail.add_of_not_polls (by rw [Moment.polls, hdeed]; rfl) ⟨[], []⟩
  refine ⟨⟨past, moment, [], next, command, rfl, hsince, hdeed, rfl, ?_⟩, ?_, ?_⟩
  · simp
  · rw [hsince, hmail, hinbox]
  · simp [hsince, hmail]

/-- A moment in which the host does something. -/
theorem stay (h : Attends scenario past desk label index flow) (hdeed : moment.deed = none)
    (hinbox : after.inbox = desk.inbox.map (· ++ moment.signals)) :
    Attends scenario (past ++ [moment]) after label index flow := by
  have hcommand : moment.deed.bind Deed.command? = none := by rw [hdeed]; rfl
  have hsettles : moment.settles = false := by rw [Moment.settles, hdeed]; rfl
  have hpolls : moment.polls = false := by rw [Moment.polls, hdeed]; rfl
  -- What the host sends comes to what is pending; nothing is taken.
  have hmail : Mail.ofMoments (Moment.sinceCommand (past ++ [moment])) =
      ⟨(Mail.ofMoments (Moment.sinceCommand past)).found,
        (Mail.ofMoments (Moment.sinceCommand past)).pending ++ moment.signals⟩ := by
    rw [Moment.sinceCommand_snoc_of_none past hcommand, Mail.ofMoments_snoc,
      Mail.add_of_not_polls hpolls]
  refine ⟨h.began.snoc hcommand hsettles, ?_, ?_⟩
  · rw [hmail, hinbox, h.inbox]
    rfl
  · rw [hmail]
    exact h.vain

theorem poll (h : Attends scenario past desk label index flow) {deed : Deed}
    (hdeed : moment.deed = some deed) (hvain : deed = .listen ∨ ∃ targets, deed = .ask targets)
    (hkept : ∀ signal ∈ desk.kept, flow.accepts signal = false)
    (hinbox : after.inbox = some moment.signals) :
    Attends scenario (past ++ [moment]) after label index flow := by
  have hcommand : moment.deed.bind Deed.command? = none := by
    obtain rfl | ⟨targets, rfl⟩ := hvain <;> rw [hdeed] <;> rfl
  have hsettles : moment.settles = false := by
    obtain rfl | ⟨targets, rfl⟩ := hvain <;> rw [Moment.settles, hdeed] <;> rfl
  have hpolls : moment.polls = true := by
    obtain rfl | ⟨targets, rfl⟩ := hvain <;> rw [Moment.polls, hdeed] <;> rfl
  -- The poll takes all that was pending as one piece, and what is sent meanwhile is pending next.
  have hmail : Mail.ofMoments (Moment.sinceCommand (past ++ [moment])) =
      ⟨(Mail.ofMoments (Moment.sinceCommand past)).pieces, moment.signals⟩ := by
    rw [Moment.sinceCommand_snoc_of_none past hcommand, Mail.ofMoments_snoc,
      Mail.add_of_polls hpolls]
    rfl
  refine ⟨h.began.snoc hcommand hsettles, ?_, ?_⟩
  · rw [hmail, hinbox]
  · rw [hmail]
    intro piece hpiece
    obtain hpiece | hpiece := List.mem_append.1 hpiece
    · exact h.vain piece hpiece
    · rw [List.mem_singleton.1 hpiece, ← h.pending]
      exact hkept

theorem considered_eq (h : Attends scenario past desk label index flow) :
    (Mail.ofMoments (Moment.sinceCommand past)).considered =
      (Mail.ofMoments (Moment.sinceCommand past)).found.flatMap Signal.newest ++ desk.kept := by
  rw [Mail.considered, Mail.pieces, List.flatMap_append, List.flatMap_singleton,
    Desk.kept_eq_newest, h.pending]

/-- A line is acknowledged by what is considered exactly if it is by what is in the inbox. -/
theorem advance_mem_iff (h : Attends scenario past desk label index .awaitLine) :
    .advance ∈ (Mail.ofMoments (Moment.sinceCommand past)).considered ↔
      .advance ∈ desk.kept := by
  rw [h.considered_eq, List.mem_append, or_iff_right]
  intro hfound
  obtain ⟨piece, hpiece, hadvance⟩ := List.mem_flatMap.1 hfound
  cases h.vain piece hpiece .advance hadvance

/-- A choice is answered by what is considered as it is by what is in the inbox. -/
theorem findSome?_option? {targets : List String}
    (h : Attends scenario past desk label index (.awaitSelection targets)) :
    (Mail.ofMoments (Moment.sinceCommand past)).considered.findSome?
        (Signal.option? targets.length) =
      desk.kept.findSome? (Signal.option? targets.length) := by
  have hfound : ((Mail.ofMoments (Moment.sinceCommand past)).found.flatMap
      Signal.newest).findSome? (Signal.option? targets.length) = none := by
    rw [List.findSome?_eq_none_iff]
    intro signal hsignal
    obtain ⟨piece, hpiece, hsignal⟩ := List.mem_flatMap.1 hsignal
    have hvain := h.vain piece hpiece signal hsignal
    exact Option.isNone_iff_eq_none.1 (Option.isSome_eq_false_iff.1 hvain)
  rw [h.considered_eq, List.findSome?_append, hfound, Option.none_or]

end Attends

end

/-! ### Runs -/

/-- Where a run goes on behind a command, if the label to continue with is the given one: to the
next command of its label, for which that label stays known; behind the last command to the label to
continue with; or to its end, when there is no such label. -/
inductive Progress.GoesBehind (scenario : Scenario) (run : Run) (label : String) (index : Nat)
    (next : Option String) : Progress → Prop
  | command {stage : Stage} (more : index + 1 < (scenario.commands label).length) :
    GoesBehind scenario run label index next
      (.moved stage { run with point := .ready label (index + 1) next })
  | target {stage : Stage} {target : String}
    (last : (scenario.commands label).length ≤ index + 1)
    (found : scenario.existing? next = some target) :
    GoesBehind scenario run label index next
      (.moved stage { run with point := .arriving target (scenario.requiredAssets target) })
  | ending {stage : Stage} (last : (scenario.commands label).length ≤ index + 1)
    (missing : scenario.existing? next = none) :
    GoesBehind scenario run label index next (.ended stage (.completed label))

namespace Run

/-- **A run that ends a command goes on behind it.** -/
theorem pass_goesBehind (scenario : Scenario) (run : Run) (stage : Stage) (label : String)
    (index : Nat) (next : Option String) :
    (run.pass scenario stage label index next).GoesBehind scenario run label index next := by
  unfold pass
  obtain ⟨hmore, happroach⟩ | ⟨hlast, happroach⟩ := approach_cases scenario run
    (stage.withStatus (stage.status.suspend .none)).closeInbox label (index + 1) next
  · rw [happroach]
    exact .command hmore
  rw [happroach]
  -- Behind the last command, all depends on whether the label to continue with exists.
  obtain ⟨target, hfound, hleave⟩ | ⟨hmissing, notices, hleave⟩ := leave_cases scenario run
    (stage.withStatus (stage.status.suspend .none)).closeInbox label next
  · rw [hleave]
    exact .target hlast hfound
  · rw [hleave]
    exact .ending hlast hmissing

theorem inbox_takeSignals (stage : Stage) :
    (takeSignals stage).desk.inbox = stage.desk.inbox.map fun _ => [] := by
  unfold takeSignals
  split <;> rfl

section

variable {scenario : Scenario} {stage : Stage} {run : Run} {label : String} {index : Nat}

theorem step_reading {next : Option String} (hpoint : run.point = .reading label index next)
    (hstopped : stage.desk.stopped = false) :
    run.step scenario stage =
      if .advance ∈ stage.desk.kept then run.pass scenario (takeSignals stage) label index next
      else .waiting (takeSignals stage) run := by
  simp [step, hpoint, unlessStopped, hstopped]

theorem step_choosing {targets : List String} (hpoint : run.point = .choosing label index targets)
    (hstopped : stage.desk.stopped = false) :
    run.step scenario stage =
      match stage.desk.kept.findSome? (Signal.option? targets.length) with
      | some answer => run.pass scenario (takeAnswers stage targets) label index targets[answer]?
      | none => .waiting (takeAnswers stage targets) run := by
  rw [← firstChoice_eq_findSome?]
  simp only [step, hpoint, unlessStopped, hstopped]
  rfl

end

/-- A command that waits finds in its inbox what the host sent in reaction to its events. -/
theorem inbox_performed (scenario : Scenario) (stage : Stage) (index : Nat) (command : Command) :
    (performed scenario stage index command).desk.inbox =
      some ((stage.reactionsTo (scenario.shows stage.depot.handle? command)).filterMap
        Control.signal?) := by
  rw [(performed_emits scenario stage index command).desk, Desk.inbox_applyAll]
  rfl

theorem inbox_takeAnswers (stage : Stage) (targets : List String) :
    (takeAnswers stage targets).desk.inbox = stage.desk.inbox.map fun _ => [] :=
  inbox_takeSignals stage

/-- **How a run comes to be in the middle of a command**: the command begins in the step, or the
step is a poll that finds no signal to accept. -/
theorem awaits_cases {scenario : Scenario} {stage : Stage} {run run' : Run} {label : String}
    {index : Nat} {flow : Flow} (hrun : (run.step scenario stage).run? = some run')
    (hawaits : run'.awaits? = some (label, index, flow)) :
    (∃ next command, run.deed scenario stage = .begin label index next command ∧
      scenario.flow command = flow ∧
      (run.step scenario stage).stage.desk.inbox =
        some ((stage.reactionsTo (scenario.shows stage.depot.handle? command)).filterMap
          Control.signal?)) ∨
    (run' = run ∧
      (run.deed scenario stage = .listen ∨ ∃ targets, run.deed scenario stage = .ask targets) ∧
      (∀ signal ∈ stage.desk.kept, flow.accepts signal = false) ∧
      (run.step scenario stage).stage.desk.inbox = stage.desk.inbox.map fun _ => []) := by
  rw [step_eq_carryOut] at hrun ⊢
  -- Most steps lead to a point between two commands.
  have hbetween : ∀ other,
      ¬ (run.carryOut scenario stage (run.deed scenario stage)).Proceeds other := by
    intro other hproceeds
    cases (hproceeds.between run' hrun).symm.trans hawaits
  obtain ⟨-, hdeed⟩ | ⟨-, hdeed⟩ := deed_cases scenario stage run
  · -- A run that is stopped is no longer in progress.
    rw [hdeed] at hrun
    cases hrun
  rw [hdeed] at hrun hbetween ⊢
  obtain ⟨entry, point⟩ := run
  unfold intent at hrun hbetween ⊢
  cases point with
  | created =>
    dsimp only at hrun
    split at hrun
    · cases hrun
    · cases hrun
      cases hawaits
  | opening =>
    dsimp only at hrun
    split at hrun <;> cases hrun <;> cases hawaits
  | arriving label required => exact absurd (fetch_proceeds _ _ _ _ _ (.inl rfl)) (hbetween _)
  | fetching label batch => exact absurd (fetch_proceeds _ _ _ _ _ (.inr rfl)) (hbetween _)
  | ready l i next =>
    dsimp only at hrun hbetween ⊢
    by_cases hpaused : stage.desk.paused = true
    · rw [if_pos hpaused] at hrun
      cases hrun
      cases hawaits
    rw [if_neg hpaused] at hrun hbetween ⊢
    cases hcommand : (scenario.commands l)[i]? with
    | none =>
      rw [hcommand] at hbetween
      exact absurd (leave_proceeds ..) (hbetween _)
    | some command =>
      rw [hcommand] at hrun hbetween
      -- A command that waits has begun in this step; its inbox has what the host sent on
      -- seeing what it shows.
      obtain hpast | ⟨after, point, hbegin, -, hdesk, hplace⟩ :=
        begin_cases scenario ⟨entry, .ready l i next⟩ stage l i next command
      · exact absurd hpast (hbetween _)
      · simp only [carryOut, hbegin] at hrun ⊢
        cases hrun
        cases hplace.symm.trans hawaits
        refine .inl ⟨next, command, rfl, rfl, ?_⟩
        rw [Progress.stage, hdesk, inbox_performed]
  | reading l i next =>
    dsimp only at hrun hbetween ⊢
    -- An advance would have let the run pass the line.
    by_cases hadvance : .advance ∈ stage.desk.kept
    · rw [if_pos hadvance] at hbetween
      exact absurd (pass_proceeds ..) (hbetween _)
    rw [if_neg hadvance] at hrun ⊢
    cases hrun
    cases hawaits
    refine .inr ⟨rfl, .inl rfl, fun signal hsignal => ?_, inbox_takeSignals stage⟩
    exact decide_eq_false fun heq => hadvance (heq ▸ hsignal)
  | choosing l i targets =>
    dsimp only at hrun hbetween ⊢
    -- So would an option that exists; signals that are none are used up.
    cases hchoice : (firstChoice targets.length stage.desk.kept).1 with
    | some answer =>
      rw [hchoice] at hbetween
      exact absurd (pass_proceeds ..) (hbetween _)
    | none =>
      rw [hchoice] at hrun
      cases hrun
      cases hawaits
      refine .inr ⟨rfl, .inr ⟨targets, rfl⟩, fun signal hsignal => ?_,
        inbox_takeAnswers stage targets⟩
      rw [firstChoice_eq_findSome?, List.findSome?_eq_none_iff] at hchoice
      exact Option.isSome_eq_false_iff.2 (Option.isNone_iff_eq_none.2 (hchoice signal hsignal))

end Run

namespace Session

/-- A run that is in the middle of a command attends to its inbox. -/
def Attentive (past : List Moment) (session : Session) : Prop :=
  ∀ run label index flow, session.run = some run → run.awaits? = some (label, index, flow) →
    Attends session.scenario past session.stage.desk label index flow

namespace Attentive

variable {past : List Moment} {session : Session}

/-- A step keeps a run attentive. -/
theorem step {run : Run} (h : Attentive past session) (hrun : session.run = some run) :
    Attentive (past ++ [⟨session, .step⟩]) (session.turn .step).1 := by
  rw [turn_step session hrun]
  intro run' label index flow hrun' hawaits
  have hsignals : Moment.signals ⟨session, .step⟩ =
      (session.stage.reactionsTo ((run.deed session.scenario session.stage).events session.scenario
        session.stage)).filterMap Control.signal? := by
    rw [Moment.signals, Moment.controls_step session hrun hrun']
  have hmoment : Moment.deed ⟨session, .step⟩ =
      some (run.deed session.scenario session.stage) := by
    simp [Moment.deed, hrun]
  obtain ⟨next, command, hdeed, rfl, hinbox⟩ | ⟨rfl, hdeed, hvain, hinbox⟩ :=
    Run.awaits_cases hrun' hawaits
  · rw [hdeed] at hmoment hsignals
    refine Attends.of_begin hmoment ?_
    rw [hinbox, hsignals, Deed.events]
  · -- A poll in vain shows nothing, so the host has nothing to react to.
    have hattends := h run' label index flow hrun hawaits
    have hquiet : Moment.signals ⟨session, .step⟩ = [] := by
      rw [hsignals]
      obtain hdeed | ⟨targets, hdeed⟩ := hdeed <;> rw [hdeed] <;> rfl
    have hempty : (run'.step session.scenario session.stage).stage.desk.inbox =
        some (Moment.signals ⟨session, .step⟩) := by
      rw [hinbox, hattends.inbox, hquiet]
      rfl
    exact hattends.poll hmoment hdeed hvain hempty

/-- **A turn keeps a run attentive.** -/
theorem snoc (h : Attentive past session) (turn : Turn) :
    Attentive (past ++ [⟨session, turn⟩]) (session.turn turn).1 := by
  cases hrun : session.run with
  | none =>
    intro run label index flow hrun'
    cases (turn_run_none session hrun turn).symm.trans hrun'
  | some run =>
    cases turn with
    | step => exact h.step hrun
    | request request =>
      intro run label index flow hrun' hawaits
      rw [Session.turn, request_run] at hrun'
      rw [turn_scenario]
      refine (h run label index flow hrun' hawaits).stay rfl ?_
      have hdesk := Moment.desk_request session request
      exact (congrArg Desk.inbox hdesk).trans (Desk.inbox_applyAll _ _)
    | drop =>
      intro run label index flow hrun'
      simp [Session.turn, hrun, Session.drop] at hrun'
    | leak =>
      intro run label index flow hrun'
      simp [Session.turn, hrun, Session.leak] at hrun'

end Attentive

/-- **A run is attentive at all times.** -/
theorem attentive_after (session : Session) (label : Option String) (turns : List Turn) :
    Attentive ((session.create label).history turns) ((session.create label).after turns) := by
  induction turns using List.reverseRecOn with
  | nil =>
    intro run label index flow hrun hawaits
    cases hrun
    cases hawaits
  | append_singleton turns turn ih =>
    rw [history_append, after_append]
    exact ih.snoc turn

/-- **Acknowledgements reach exactly the command that waits for them**, whatever the host does and
in whatever order. When a run is polled in the middle of a command, that command was the last to
begin. The step is decided by what is considered of the signals that were sent since: of what was
pending at each poll the newest sixteen, which is all of it if nowhere more were pending. A line is
left at the first advance, a choice with the first of its options that is chosen, whose target is
then the label to continue with; the run goes on behind the command, and to that label when the
command was the last (`Progress.GoesBehind`). Without such a signal, the run stays where it is. All
of this was sent after every wait that has ended, so no signal ends two of them. -/
theorem acknowledgement_reaches_waiting_command (session : Session) (label : Option String)
    (turns : List Turn) :
    let start := session.create label
    ∀ past moment late run place index flow, start.history turns = past ++ moment :: late →
      moment.session.run = some run → run.awaits? = some (place, index, flow) →
      let since := Moment.sinceCommand past
      let mail := Mail.ofMoments since
      let stage := moment.session.stage
      (∃ early begun rest next command, past = early ++ since ∧ since = begun :: rest ∧
        begun.deed = some (.begin place index next command) ∧
        moment.session.scenario.flow command = flow) ∧
      stage.desk.pending = mail.pending ∧
      mail.considered.Sublist (since.flatMap Moment.signals) ∧
      ((∀ piece ∈ mail.pieces, piece.length ≤ 16) →
        mail.considered = since.flatMap Moment.signals) ∧
      (∀ first ended between, past = first ++ ended :: between → ended.settles = true →
        since <:+ between) ∧
      (stage.desk.stopped = false →
        (∀ next, run.point = .reading place index next →
          run.step moment.session.scenario stage =
            (if .advance ∈ mail.considered then
              run.pass moment.session.scenario (Run.takeSignals stage) place index next
            else .waiting (Run.takeSignals stage) run) ∧
          (.advance ∈ mail.considered → (run.step moment.session.scenario stage).GoesBehind
            moment.session.scenario run place index next)) ∧
        (∀ targets, run.point = .choosing place index targets →
          run.step moment.session.scenario stage =
            (match mail.considered.findSome? (Signal.option? targets.length) with
            | some answer =>
              run.pass moment.session.scenario (Run.takeAnswers stage targets) place index
                targets[answer]?
            | none => .waiting (Run.takeAnswers stage targets) run) ∧
          ∀ answer, mail.considered.findSome? (Signal.option? targets.length) = some answer →
            ∃ target, targets[answer]? = some target ∧
              (run.step moment.session.scenario stage).GoesBehind
                moment.session.scenario run place index (some target))) := by
  intro start past moment late run place index flow hhistory hrun hawaits since mail stage
  obtain ⟨first, rest, rfl, rfl, hsession, -⟩ := start.exists_turns_of_history hhistory
  -- What the run attends to is an invariant of its history, and here the history ends with `past`.
  have hattends : Attends moment.session.scenario (start.history first) stage.desk place index
      flow := by
    have h := attentive_after session label first
    rw [← hsession] at h
    exact h run place index flow hrun hawaits
  refine ⟨?_, hattends.pending, Mail.considered_sublist _, Mail.considered_of_le,
    fun first ended between => hattends.began.suffix_of_settles, fun hstopped => ⟨?_, ?_⟩⟩
  · obtain ⟨early, begun, rest, next, command, hpast, hsince, hdeed, hflow, -⟩ := hattends.began
    exact ⟨early, begun, rest, next, command, hpast.trans (by rw [← hsince]), hsince, hdeed, hflow⟩
  · intro next hpoint
    have hflow : flow = .awaitLine := by
      simp only [Run.awaits?, hpoint, Option.some.injEq, Prod.mk.injEq] at hawaits
      exact hawaits.2.2.symm
    subst hflow
    have hstep : run.step moment.session.scenario stage =
        if .advance ∈ mail.considered then
          run.pass moment.session.scenario (Run.takeSignals stage) place index next
        else .waiting (Run.takeSignals stage) run := by
      rw [Run.step_reading hpoint hstopped]
      simp only [mail, since, hattends.advance_mem_iff]
    refine ⟨hstep, fun hadvance => ?_⟩
    rw [hstep, if_pos hadvance]
    exact Run.pass_goesBehind ..
  · intro targets hpoint
    have hflow : flow = .awaitSelection targets := by
      simp only [Run.awaits?, hpoint, Option.some.injEq, Prod.mk.injEq] at hawaits
      exact hawaits.2.2.symm
    subst hflow
    have hstep : run.step moment.session.scenario stage =
        match mail.considered.findSome? (Signal.option? targets.length) with
        | some answer =>
          run.pass moment.session.scenario (Run.takeAnswers stage targets) place index
            targets[answer]?
        | none => .waiting (Run.takeAnswers stage targets) run := by
      rw [Run.step_choosing hpoint hstopped, ← hattends.findSome?_option?]
    refine ⟨hstep, fun answer hanswer => ?_⟩
    -- Signals that name no option were passed over, so the one that was taken has a target.
    have hlt := Run.firstChoice_lt ((Run.firstChoice_eq_findSome? _ _).trans hanswer)
    refine ⟨targets[answer], List.getElem?_eq_getElem hlt, ?_⟩
    rw [hstep, hanswer, ← List.getElem?_eq_getElem hlt]
    exact Run.pass_goesBehind ..

/-- A session of a label with one line. -/
def oneLine : Session :=
  .new
    (.new ⟨Dict.empty.insert "Start" ⟨"Start", "intro", [.text "Hello." (.row "intro" 2)]⟩⟩ .empty)
    "Start" .ready []

/-- The line is shown between two advances, with a choice in between that means nothing to it. -/
def oneLineTurns : List Turn :=
  [.request (.control (.signal .advance)), .step, .step, .step, .step,
    .request (.control (.signal (.choose 0))), .request (.control (.signal .advance))]

/-- The session after these turns. -/
def oneLineNow : Session := (oneLine.create none).after oneLineTurns

/-- The advance before the line is not considered, and the one after it ends the wait. -/
theorem oneLine_acknowledged :
    (Mail.ofMoments (Moment.sinceCommand ((oneLine.create none).history oneLineTurns))).considered =
      [.choose 0, .advance] ∧
    Run.step oneLineNow.scenario oneLineNow.stage ⟨"Start", .reading "Start" 0 none⟩ =
      Run.pass oneLineNow.scenario ⟨"Start", .reading "Start" 0 none⟩
        (Run.takeSignals oneLineNow.stage) "Start" 0 none ∧
    (Run.step oneLineNow.scenario oneLineNow.stage ⟨"Start", .reading "Start" 0 none⟩).GoesBehind
      oneLineNow.scenario ⟨"Start", .reading "Start" 0 none⟩ "Start" 0 none := by
  have hrun : oneLineNow.run = some ⟨"Start", .reading "Start" 0 none⟩ := rfl
  have hstopped : oneLineNow.stage.desk.stopped = false := rfl
  have hconsidered : (Mail.ofMoments (Moment.sinceCommand
      ((oneLine.create none).history oneLineTurns))).considered = [.choose 0, .advance] := by
    decide +kernel
  have hadvance : .advance ∈ (Mail.ofMoments (Moment.sinceCommand
      ((oneLine.create none).history oneLineTurns))).considered := by
    rw [hconsidered]
    decide
  obtain ⟨-, -, -, -, -, hstep⟩ := acknowledgement_reaches_waiting_command oneLine none
    (oneLineTurns ++ [.step]) ((oneLine.create none).history oneLineTurns) ⟨oneLineNow, .step⟩ []
    ⟨"Start", .reading "Start" 0 none⟩ "Start" 0 .awaitLine
    ((oneLine.create none).history_append oneLineTurns [.step]) hrun rfl
  obtain ⟨hline, hbehind⟩ := (hstep hstopped).1 none rfl
  exact ⟨hconsidered, hline.trans (if_pos hadvance), hbehind hadvance⟩

end Session

end Storyboard
