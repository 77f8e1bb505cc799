import Storyboard.Proofs.Player.History
import Mathlib.Data.List.Induction

/-!
# A run is a walk through the scenario

The sequential reading of a scenario is a walk: it starts, goes through the commands of a label in
order, continues with the label that the last jump or answered choice of the visit names if there is
such a label, and else comes to its end. A walk takes two things from outside, which a `Course`
holds: the assets that are resident when a command begins, and the answers to choices. It knows
nothing of switches, signals, loads or polls. As a walk may go on forever, `Scenario.walk n` is what
it comes to after `n` more labels.

`Session.shown_refines_walk` says that what a run plays is a prefix of the walk, whatever the host
does in whatever order. The proof is a simulation: at each point of a run, what was played followed
by the rest of the walk from that point (`Run.outlook`) is the walk. One step of a run takes the
rest of the walk to its rest after the step (`Run.follows_deed`).
-/

namespace Storyboard

/-- What a walk through a scenario takes from outside. -/
structure Course where
  /-- The assets that are resident when the `n`-th command begins. -/
  resident : Nat → String → Option Handle
  /-- The answer to the `n`-th choice, if it is answered. -/
  answer : Nat → Option Nat

/-- What a walk comes to. -/
structure Reading where
  /-- What is played. -/
  events : List Event
  /-- The label in which the walk comes to its end, if it does. -/
  last : Option String
  deriving DecidableEq

namespace Reading

/-- The reading that plays events before. -/
def prepend (events : List Event) (reading : Reading) : Reading :=
  ⟨events ++ reading.events, reading.last⟩

@[simp] theorem prepend_nil (reading : Reading) : reading.prepend [] = reading := rfl

theorem prepend_append (first later : List Event) (reading : Reading) :
    reading.prepend (first ++ later) = (reading.prepend later).prepend first := by
  simp [prepend]

end Reading

namespace Scenario

variable (scenario : Scenario) (course : Course)

/-- A walk through commands, before which `begun` commands began and `answered` choices were
answered. After the last command it goes on with `leave`. -/
def visit (leave : Nat → Nat → Option String → Reading) :
    Nat → Nat → Option String → List Command → Reading
  | begun, answered, next, [] => leave begun answered next
  | begun, answered, next, command :: rest =>
    .prepend (scenario.shows (course.resident begun) command) <|
      match command with
      | .text _ _ => visit leave (begun + 1) answered next rest
      | .character _ _ _ _ _ => visit leave (begun + 1) answered next rest
      | .jump target _ => visit leave (begun + 1) answered (some target) rest
      | .choice options _ =>
        match (course.answer answered).bind (options[·]?) with
        | some option => visit leave (begun + 1) (answered + 1) (some option.target) rest
        -- A choice that is not answered is where the walk stays.
        | none => ⟨[], none⟩

/-- The walk after the last command of a label, through at most `n - 1` more labels. -/
def leaving : Nat → String → Nat → Nat → Option String → Reading
  | 0, _, _, _, _ => ⟨[], none⟩
  | n + 1, label, begun, answered, next =>
    match scenario.existing? next with
    | some target =>
      scenario.visit course (leaving n target) begun answered none (scenario.commands target)
    | none => ⟨[.finish], some label⟩

/-- The walk from a label, through at most `n` more labels. -/
def walk (entry : String) (n : Nat) : Reading :=
  .prepend [.start] <|
    scenario.visit course (scenario.leaving course n entry) 0 0 none (scenario.commands entry)

end Scenario

/-! ### The end of a walk -/

namespace Scenario

variable (scenario : Scenario) (course : Course)

theorem finish_mem_visit {leave : Nat → Nat → Option String → Reading} {last : String}
    (hleave : ∀ begun answered next, (leave begun answered next).last = some last →
      .finish ∈ (leave begun answered next).events) :
    ∀ (commands : List Command) (begun answered : Nat) (next : Option String),
      (scenario.visit course leave begun answered next commands).last = some last →
        .finish ∈ (scenario.visit course leave begun answered next commands).events := by
  intro commands
  induction commands with
  | nil => exact hleave
  | cons command rest ih =>
    intro begun answered next h
    refine List.mem_append_right _ ?_
    cases command with
    | choice options place =>
      -- A walk without an answer for the choice breaks off there and has no last label.
      simp only [visit, Reading.prepend] at h
      split at h
      · next option hoption =>
        simp only [hoption]
        exact ih _ _ _ h
      · cases h
    | _ => exact ih _ _ _ h

theorem finish_mem_leaving {last : String} (n : Nat) :
    ∀ (label : String) (begun answered : Nat) (next : Option String),
      (scenario.leaving course n label begun answered next).last = some last →
        .finish ∈ (scenario.leaving course n label begun answered next).events := by
  induction n with
  | zero =>
    intro label begun answered next h
    cases h
  | succ n ih =>
    intro label begun answered next h
    unfold leaving at h ⊢
    split
    · next target htarget =>
      rw [htarget] at h
      exact finish_mem_visit scenario course (ih target) _ _ _ _ h
    · exact List.mem_singleton_self _

/-- **A walk that comes to its end plays the end.** -/
theorem finish_mem_walk {entry last : String} {n : Nat}
    (h : (scenario.walk course entry n).last = some last) :
    .finish ∈ (scenario.walk course entry n).events :=
  List.mem_append_right _ <|
    finish_mem_visit scenario course (finish_mem_leaving scenario course n entry) _ _ _ _ h

end Scenario

/-! ### The rest of the walk -/

namespace Run

/-- The rest of the walk from the point where a run is, through at most `n` more labels. -/
def outlook (scenario : Scenario) (course : Course) (begun answered : Nat) (run : Run) (n : Nat) :
    Reading :=
  let onward label answered next commands :=
    scenario.visit course (scenario.leaving course n label) begun answered next commands
  match run.point with
  | .created => .prepend [.start] (onward run.entry answered none (scenario.commands run.entry))
  | .opening => onward run.entry answered none (scenario.commands run.entry)
  | .arriving label _ => onward label answered none (scenario.commands label)
  | .fetching label _ => onward label answered none (scenario.commands label)
  | .ready label index next => onward label answered next ((scenario.commands label).drop index)
  | .reading label index next =>
    onward label answered next ((scenario.commands label).drop (index + 1))
  | .choosing label index targets =>
    match (course.answer answered).bind (targets[·]?) with
    | some target =>
      onward label (answered + 1) (some target) ((scenario.commands label).drop (index + 1))
    | none => ⟨[], none⟩

end Run

namespace Progress

/-- The progress of a run agrees with the rest of its walk: what the walk comes to from there is
what the run that is left has before it, or the end. -/
def Meets (scenario : Scenario) (course : Course) (begun answered : Nat) (entry : String)
    (rest : Nat → Reading) : Progress → Prop
  | waiting _ run =>
    run.entry = entry ∧ ∃ m, ∀ n, rest (m + n) = run.outlook scenario course begun answered n
  | moved _ run =>
    run.entry = entry ∧ ∃ m, ∀ n, rest (m + n) = run.outlook scenario course begun answered n
  | ended _ (.completed last) => ∃ m, ∀ n, rest (m + n) = ⟨[.finish], some last⟩
  | ended _ _ => True

end Progress

namespace Run

section

variable (scenario : Scenario) (course : Course) (begun answered : Nat) (run : Run) (stage : Stage)
  (label : String) (index : Nat) (next : Option String)

theorem leave_meets :
    (run.leave scenario stage label next).Meets scenario course begun answered run.entry
      fun n => scenario.leaving course n label begun answered next := by
  obtain ⟨target, htarget, h⟩ | ⟨hnone, notices, h⟩ := leave_cases scenario run stage label next
  · rw [h]
    refine ⟨rfl, 1, fun n => ?_⟩
    simp [Nat.add_comm 1, Scenario.leaving, htarget, outlook]
  · rw [h]
    refine ⟨1, fun n => ?_⟩
    simp [Nat.add_comm 1, Scenario.leaving, hnone]

theorem approach_meets :
    (run.approach scenario stage label index next).Meets scenario course begun answered run.entry
      fun n => scenario.visit course (scenario.leaving course n label) begun answered next
        ((scenario.commands label).drop index) := by
  obtain ⟨-, h⟩ | ⟨hlen, h⟩ := approach_cases scenario run stage label index next
  · rw [h]
    exact ⟨rfl, 0, fun n => by rw [Nat.zero_add]; rfl⟩
  · rw [h, List.drop_eq_nil_of_le hlen]
    exact leave_meets ..

theorem pass_meets :
    (run.pass scenario stage label index next).Meets scenario course begun answered run.entry
      fun n => scenario.visit course (scenario.leaving course n label) begun answered next
        ((scenario.commands label).drop (index + 1)) :=
  approach_meets ..

theorem fetch_meets (batch : Batch) (pending : Stage → Run → Progress)
    (hpending : pending = .moved ∨ pending = .waiting) :
    (run.fetch scenario stage label batch pending).Meets scenario course begun answered run.entry
      fun n => scenario.visit course (scenario.leaving course n label) begun answered none
        (scenario.commands label) := by
  unfold fetch
  split
  · exact approach_meets ..
  · obtain rfl | rfl := hpending <;> exact ⟨rfl, 0, fun n => by rw [Nat.zero_add]; rfl⟩

/-- The walk through a command is met by beginning the command. -/
theorem begin_meets (command : Command) (rest : List Command)
    (hresident : course.resident begun = stage.depot.handle?)
    (hrest : (scenario.commands label).drop index = command :: rest) :
    ∃ reading : Nat → Reading,
      (∀ n, scenario.visit course (scenario.leaving course n label) begun answered next
          ((scenario.commands label).drop index) =
        (reading n).prepend (scenario.shows stage.depot.handle? command)) ∧
      (run.begin scenario stage label index next command).Meets scenario course (begun + 1) answered
        run.entry reading := by
  have htail : (scenario.commands label).drop (index + 1) = rest := by
    rw [← List.drop_drop, hrest, List.drop_one, List.tail_cons]
  rw [begin_eq, hrest]
  cases command with
  | text words place =>
    refine ⟨_, fun n => by rw [Scenario.visit, hresident], rfl, 0, fun n => ?_⟩
    simp only [Nat.zero_add, outlook, htail]
  | jump target place =>
    refine ⟨_, fun n => by rw [Scenario.visit, hresident], ?_⟩
    rw [← htail]
    exact pass_meets ..
  | choice options place =>
    refine ⟨_, fun n => by rw [Scenario.visit, hresident], rfl, 0, fun n => ?_⟩
    -- The walk looks up the option and the run its target.
    have htargets : (course.answer answered).bind ((options.map (·.target))[·]?) =
        ((course.answer answered).bind (options[·]?)).map (·.target) := by
      cases course.answer answered <;> simp
    simp only [Nat.zero_add, outlook, htail, htargets]
    cases (course.answer answered).bind (options[·]?) <;> rfl
  | character id hides layer words place =>
    refine ⟨_, fun n => by rw [Scenario.visit, hresident], ?_⟩
    -- Only a character that speaks waits for the reader.
    by_cases hspeaks : ((scenario.character? id).isSome && words.isSome) = true
    · rw [Scenario.flow, if_pos hspeaks]
      refine ⟨rfl, 0, fun n => ?_⟩
      simp only [Nat.zero_add, outlook, htail]
    · rw [Scenario.flow, if_neg hspeaks, ← htail]
      exact pass_meets ..

theorem shows_filter (resident : String → Option Handle) (command : Command) :
    (scenario.shows resident command).filter Event.isShown = scenario.shows resident command := by
  cases command with
  | text words place => rfl
  | jump target place => rfl
  | choice options place => rfl
  | character id hides layer words place =>
    cases hc : scenario.character? id with
    | none => simp [Scenario.shows, hc]
    | some character =>
      cases words <;> cases hides <;> cases hr : resident character.sprite <;>
        simp [Scenario.shows, hc, hr, Event.isShown]

/-- The rest of the walk from a run agrees with what comes of a deed: it plays the events of the
deed first, and then it is the rest of the walk from there. -/
def Follows (deed : Deed) : Prop :=
  ∃ rest : Nat → Reading,
    (∀ n, run.outlook scenario course begun answered n =
      (rest n).prepend ((deed.events scenario stage).filter Event.isShown)) ∧
    (run.carryOut scenario stage deed).Meets scenario course
      (begun + deed.command?.toList.length) (answered + deed.answer?.toList.length) run.entry rest

/-- A deed that neither shows anything nor takes anything in leaves the rest of the walk alone. -/
theorem follows_of_quiet {deed : Deed}
    (hevents : (deed.events scenario stage).filter Event.isShown = [])
    (hcommand : deed.command? = none) (hanswer : deed.answer? = none)
    (h : (run.carryOut scenario stage deed).Meets scenario course begun answered run.entry
      (run.outlook scenario course begun answered)) :
    run.Follows scenario course begun answered stage deed := by
  refine ⟨run.outlook scenario course begun answered, fun n => ?_, ?_⟩
  · rw [hevents, Reading.prepend_nil]
  · rw [hcommand, hanswer]
    exact h

/-- **One step of a run takes the rest of the walk to its rest after the step**, if the walk takes
in what the step takes in. -/
theorem follows_deed
    (hresident : ∀ command, (run.deed scenario stage).command? = some command →
      course.resident begun = stage.depot.handle?)
    (hanswer : ∀ answer, (run.deed scenario stage).answer? = some answer →
      course.answer answered = some answer) :
    run.Follows scenario course begun answered stage (run.deed scenario stage) := by
  have hstay : ∀ n, run.outlook scenario course begun answered (0 + n) =
      run.outlook scenario course begun answered n := fun n => by rw [Nat.zero_add]
  obtain ⟨-, hdeed⟩ | ⟨-, hdeed⟩ := deed_cases scenario stage run
  · rw [hdeed]
    -- A run that is stopped leaves the walk where it is.
    exact follows_of_quiet _ _ _ _ _ _ rfl rfl rfl trivial
  rw [hdeed] at hresident hanswer ⊢
  obtain ⟨entry, point⟩ := run
  unfold intent at hresident hanswer ⊢
  cases point with
  | created =>
    dsimp only
    split
    · exact follows_of_quiet _ _ _ _ _ _ rfl rfl rfl trivial
    · exact ⟨outlook scenario course begun answered ⟨entry, .opening⟩, fun n => rfl, rfl, 0,
        fun n => by rw [Nat.zero_add]; rfl⟩
  | opening =>
    dsimp only
    split
    · exact follows_of_quiet _ _ _ _ _ _ rfl rfl rfl ⟨rfl, 0, hstay⟩
    · exact follows_of_quiet _ _ _ _ _ _ rfl rfl rfl ⟨rfl, 0, hstay⟩
  | arriving label required =>
    refine follows_of_quiet _ _ _ _ _ _ ?_ rfl rfl (fetch_meets _ _ _ _ _ _ _ _ _ (.inl rfl))
    simp [Deed.events, Event.isShown]
  | fetching label batch =>
    exact follows_of_quiet _ _ _ _ _ _ rfl rfl rfl (fetch_meets _ _ _ _ _ _ _ _ _ (.inr rfl))
  | ready label index next =>
    dsimp only at hresident ⊢
    split
    · exact follows_of_quiet _ _ _ _ _ _ rfl rfl rfl ⟨rfl, 0, hstay⟩
    · next hpaused =>
      rw [if_neg hpaused] at hresident
      cases hc : (scenario.commands label)[index]? with
      | none =>
        -- No command is left: both leave the label.
        have hdrop : (scenario.commands label).drop index = [] :=
          List.drop_eq_nil_of_le (List.getElem?_eq_none_iff.1 hc)
        have houtlook : outlook scenario course begun answered ⟨entry, .ready label index next⟩ =
            fun n => scenario.leaving course n label begun answered next := by
          funext n
          simp only [outlook, hdrop, Scenario.visit]
        refine follows_of_quiet _ _ _ _ _ _ rfl rfl rfl ?_
        rw [houtlook]
        exact leave_meets ..
      | some command =>
        have hdrop := List.drop_eq_getElem_cons (List.getElem?_eq_some_iff.1 hc).1
        rw [(List.getElem?_eq_some_iff.1 hc).2] at hdrop
        rw [hc] at hresident
        obtain ⟨rest, hrest, hmeets⟩ := begin_meets scenario course begun answered
          ⟨entry, .ready label index next⟩ stage label index next command _
          (hresident command rfl) hdrop
        refine ⟨rest, fun n => ?_, hmeets⟩
        rw [Deed.events, shows_filter, ← hrest]
        rfl
  | reading label index next =>
    dsimp only
    split
    · exact follows_of_quiet _ _ _ _ _ _ rfl rfl rfl (pass_meets ..)
    · exact follows_of_quiet _ _ _ _ _ _ rfl rfl rfl ⟨rfl, 0, hstay⟩
  | choosing label index targets =>
    dsimp only at hanswer ⊢
    cases hc : (firstChoice targets.length stage.desk.kept).1 with
    | none => exact follows_of_quiet _ _ _ _ _ _ rfl rfl rfl ⟨rfl, 0, hstay⟩
    | some answer =>
      rw [hc] at hanswer
      -- The walk takes in the answer that the run has accepted, which is one of the options.
      obtain ⟨target, htarget⟩ : ∃ target, targets[answer]? = some target :=
        ⟨_, List.getElem?_eq_getElem (firstChoice_lt hc)⟩
      refine ⟨fun n => scenario.visit course (scenario.leaving course n label) begun (answered + 1)
        targets[answer]? ((scenario.commands label).drop (index + 1)), fun n => ?_, pass_meets ..⟩
      simp only [outlook, hanswer answer rfl, Option.bind_some, htarget]
      rfl

end

end Run

/-! ### What a run takes in -/

namespace Moment

/-- The resident assets, if a command begins in the moment. -/
def resident? (moment : Moment) : Option (Dict Handle) :=
  (moment.deed.bind Deed.command?).map fun _ => moment.session.stage.depot.resident

/-- The answer that is accepted in the moment, if one is. -/
def answer? (moment : Moment) : Option Nat := moment.deed.bind Deed.answer?

end Moment

namespace Course

/-- The course of a run: what was resident when its commands began, and the answers that it
accepted. -/
def ofHistory (history : List Moment) : Course where
  resident n name := ((history.filterMap Moment.resident?)[n]?).bind (·.find? name)
  answer n := (history.filterMap Moment.answer?)[n]?

/-- The course is that of the run, as far as the run has come. -/
structure Covers (course : Course) (history : List Moment) : Prop where
  /-- The assets are those of the run. -/
  resident : ∀ n dict, (history.filterMap Moment.resident?)[n]? = some dict →
    course.resident n = dict.find?
  /-- The answers are those of the run. -/
  answer : ∀ n i, (history.filterMap Moment.answer?)[n]? = some i → course.answer n = some i

theorem covers_ofHistory (history : List Moment) : (ofHistory history).Covers history where
  resident n dict h := by
    funext name
    simp [ofHistory, h]
  answer n i h := h

theorem Covers.of_append {course : Course} {first later : List Moment}
    (h : course.Covers (first ++ later)) : course.Covers first where
  resident n dict hn := by
    refine h.resident n dict ?_
    rw [List.filterMap_append, List.getElem?_append_left (List.getElem?_eq_some_iff.1 hn).1, hn]
  answer n i hn := by
    refine h.answer n i ?_
    rw [List.filterMap_append, List.getElem?_append_left (List.getElem?_eq_some_iff.1 hn).1, hn]

theorem Covers.resident_last {course : Course} {history : List Moment} {moment : Moment}
    {dict : Dict Handle} (h : course.Covers (history ++ [moment]))
    (hm : moment.resident? = some dict) :
    course.resident (history.filterMap Moment.resident?).length = dict.find? := by
  refine h.resident _ dict ?_
  rw [List.filterMap_append, List.getElem?_append_right (Nat.le_refl _), Nat.sub_self]
  simp [hm]

theorem Covers.answer_last {course : Course} {history : List Moment} {moment : Moment}
    {i : Nat} (h : course.Covers (history ++ [moment])) (hm : moment.answer? = some i) :
    course.answer (history.filterMap Moment.answer?).length = some i := by
  refine h.answer _ i ?_
  rw [List.filterMap_append, List.getElem?_append_right (Nat.le_refl _), Nat.sub_self]
  simp [hm]

end Course

/-! ### The simulation -/

namespace Session

variable (start : Session) (entry : String) (turns : List Turn) (events : List Event)

/-- In progress: what was played and the rest of the walk are the walk. -/
def TracksRun (run : Run) : Prop :=
  let history := start.history turns
  start.ending turns = none ∧ run.entry = entry ∧ .finish ∉ events ∧
    ∀ course : Course, course.Covers history → ∃ m, ∀ n,
      start.scenario.walk course entry (m + n) =
        (run.outlook start.scenario course (history.filterMap Moment.resident?).length
          (history.filterMap Moment.answer?).length n).prepend events

/-- Over: what was played is the walk if the run came to its end, and else a part of the walk in
which the end is missing. -/
def TracksEnding : Prop :=
  (∃ last, start.ending turns = some (.outcome (.completed last)) ∧
    ∀ course : Course, course.Covers (start.history turns) → ∃ m, ∀ n,
      start.scenario.walk course entry (m + n) = ⟨events, some last⟩) ∨
  (∃ ending, start.ending turns = some ending ∧ (∀ last, ending ≠ .outcome (.completed last)) ∧
    .finish ∉ events ∧
    ∀ course : Course, course.Covers (start.history turns) → ∃ m, ∀ n,
      events <+: (start.scenario.walk course entry (m + n)).events)

/-- What a run has played is where the walk is. -/
def Tracks : Prop :=
  match (start.after turns).run with
  | some run => start.TracksRun entry turns events run
  | none => start.TracksEnding entry turns events

variable {start entry turns events}

/-- A run that ends without an end of the walk has played a part of the walk. -/
theorem TracksRun.giveUp {run : Run} {turn : Turn} (ending : Ending)
    (h : start.TracksRun entry turns events run)
    (hending : ((start.after turns).turn turn).2 = some ending)
    (hother : ∀ last, ending ≠ .outcome (.completed last)) :
    start.TracksEnding entry (turns ++ [turn]) events := by
  obtain ⟨hnone, -, hfinish, hwalk⟩ := h
  refine .inr ⟨ending, ?_, hother, hfinish, fun course hcovers => ?_⟩
  · rw [ending_append, hnone, Option.none_or, ending_cons, hending, Option.some_or]
  · rw [history_append] at hcovers
    obtain ⟨m, hm⟩ := hwalk course hcovers.of_append
    exact ⟨m, fun n => by rw [hm]; exact List.prefix_append _ _⟩

/-- A turn in which the run takes nothing in and stays where it is. -/
theorem TracksRun.stay {run : Run} {turn : Turn} (h : start.TracksRun entry turns events run)
    (hending : ((start.after turns).turn turn).2 = none)
    (hdeed : Moment.deed ⟨start.after turns, turn⟩ = none) :
    start.TracksRun entry (turns ++ [turn]) events run := by
  obtain ⟨hnone, hentry, hfinish, hwalk⟩ := h
  have hresident : Moment.resident? ⟨start.after turns, turn⟩ = none := by
    rw [Moment.resident?, hdeed]; rfl
  have hanswer : Moment.answer? ⟨start.after turns, turn⟩ = none := by
    rw [Moment.answer?, hdeed]; rfl
  refine ⟨?_, hentry, hfinish, fun course hcovers => ?_⟩
  · rw [ending_append, hnone, Option.none_or, ending_cons, hending]
    rfl
  · rw [history_append] at hcovers ⊢
    obtain ⟨m, hm⟩ := hwalk course hcovers.of_append
    refine ⟨m, fun n => ?_⟩
    simpa [history, List.filterMap_append, hresident, hanswer] using hm n

theorem TracksEnding.stay (h : start.TracksEnding entry turns events) (turn : Turn) :
    start.TracksEnding entry (turns ++ [turn]) events := by
  have hkeeps : ∀ ending, start.ending turns = some ending →
      start.ending (turns ++ [turn]) = some ending := by
    intro ending hending
    rw [ending_append, hending, Option.some_or]
  have hcover : ∀ course : Course, course.Covers (start.history (turns ++ [turn])) →
      course.Covers (start.history turns) := by
    intro course hcovers
    rw [history_append] at hcovers
    exact hcovers.of_append
  obtain ⟨last, hlast, hwalk⟩ | ⟨ending, hending, hother, hfinish, hwalk⟩ := h
  · exact .inl ⟨last, hkeeps _ hlast, fun course hcovers => hwalk course (hcover course hcovers)⟩
  · exact .inr ⟨ending, hkeeps _ hending, hother, hfinish,
      fun course hcovers => hwalk course (hcover course hcovers)⟩

theorem finish_notMem_events (scenario : Scenario) (stage : Stage) (deed : Deed) :
    .finish ∉ deed.events scenario stage := by
  cases deed with
  | begin label index next command =>
    cases command with
    | character id hides layer words place =>
      cases hc : scenario.character? id with
      | none => simp [Deed.events, Scenario.shows, hc]
      | some character => cases words <;> cases hides <;> simp [Deed.events, Scenario.shows, hc]
    | _ => simp [Deed.events, Scenario.shows]
  | _ => simp [Deed.events]

/-- The walk of a run in progress, one step on: it plays the events of the deed, and from there on
it agrees with the progress of the run. -/
theorem TracksRun.walk_step {run : Run} (h : start.TracksRun entry turns events run)
    (hrun : (start.after turns).run = some run) (course : Course)
    (hcovers : course.Covers (start.history (turns ++ [.step]))) :
    let now := start.after turns
    let deed := run.deed now.scenario now.stage
    let history := start.history (turns ++ [.step])
    ∃ rest : Nat → Reading,
      (∃ m, ∀ n, start.scenario.walk course entry (m + n) =
        (rest n).prepend (events ++ (deed.events now.scenario now.stage).filter Event.isShown)) ∧
      (run.step now.scenario now.stage).Meets start.scenario course
        (history.filterMap Moment.resident?).length (history.filterMap Moment.answer?).length
        entry rest := by
  intro now deed history
  obtain ⟨-, hentry, -, hwalk⟩ := h
  have hscenario : now.scenario = start.scenario := start.after_scenario turns
  have hdeed : Moment.deed ⟨now, .step⟩ = some deed := by simp [Moment.deed, now, hrun, deed]
  have hresident? : Moment.resident? ⟨now, .step⟩ =
      deed.command?.map fun _ => now.stage.depot.resident := by
    rw [Moment.resident?, hdeed]; rfl
  have hanswer? : Moment.answer? ⟨now, .step⟩ = deed.answer? := by
    rw [Moment.answer?, hdeed]; rfl
  have hhistory : history = start.history turns ++ [⟨now, .step⟩] := start.history_append turns _
  rw [show start.history (turns ++ [.step]) = _ from hhistory] at hcovers
  obtain ⟨m, hm⟩ := hwalk course hcovers.of_append
  obtain ⟨rest, hrest, hmeets⟩ := run.follows_deed now.scenario course
    ((start.history turns).filterMap Moment.resident?).length
    ((start.history turns).filterMap Moment.answer?).length now.stage
    (fun command hcommand => hcovers.resident_last (hresident?.trans (by rw [hcommand]; rfl)))
    (fun answer hanswer => hcovers.answer_last (hanswer?.trans hanswer))
  refine ⟨rest, ⟨m, fun n => ?_⟩, ?_⟩
  · rw [hm, Reading.prepend_append, ← hrest, hscenario]
  · -- The walk counts the commands and the answers of the history, and the step may add one.
    have hbegun : (history.filterMap Moment.resident?).length =
        ((start.history turns).filterMap Moment.resident?).length +
          deed.command?.toList.length := by
      rw [hhistory, List.filterMap_append, List.length_append, List.filterMap_cons, hresident?]
      cases deed.command? <;> rfl
    have hanswered : (history.filterMap Moment.answer?).length =
        ((start.history turns).filterMap Moment.answer?).length + deed.answer?.toList.length := by
      rw [hhistory, List.filterMap_append, List.length_append, List.filterMap_cons, hanswer?]
      cases deed.answer? <;> rfl
    rw [hbegun, hanswered, ← hscenario, Run.step_eq_carryOut, ← hentry]
    exact hmeets

/-- A step of a run in progress keeps the run on the walk. -/
theorem TracksRun.step {run : Run} (h : start.TracksRun entry turns events run)
    (hrun : (start.after turns).run = some run) :
    start.Tracks entry (turns ++ [.step])
      (events ++ (Moment.events ⟨start.after turns, .step⟩).filter Event.isShown) := by
  have hwalk := h.walk_step hrun
  dsimp only at hwalk
  obtain ⟨hnone, -, hfinish, -⟩ := h
  have hending : start.ending (turns ++ [.step]) = ((start.after turns).turn .step).2 := by
    rw [ending_append, hnone, Option.none_or, ending_cons, ending_nil, Option.or_none]
  rw [turn_step _ hrun] at hending
  rw [Tracks, start.after_append, after_cons, after_nil, turn_step _ hrun,
    Moment.events_step _ hrun, List.filter_append, ← List.append_assoc]
  have hplayed : .finish ∉ events ++
      ((run.deed (start.after turns).scenario (start.after turns).stage).events
        (start.after turns).scenario (start.after turns).stage).filter Event.isShown := by
    simp only [List.mem_append, List.mem_filter, not_or, not_and]
    exact ⟨hfinish, fun hmem => absurd hmem (finish_notMem_events _ _ _)⟩
  -- From here on it does not matter what was played, but that the end was not.
  generalize events ++ ((run.deed (start.after turns).scenario (start.after turns).stage).events
    (start.after turns).scenario (start.after turns).stage).filter Event.isShown = played at *
  cases hstep : run.step (start.after turns).scenario (start.after turns).stage with
  | ended stage outcome =>
    rw [hstep] at hending hwalk
    cases outcome with
    | completed last =>
      -- Completed: the walk ends where the run does.
      refine .inl ⟨last, hending, fun course hcovers => ?_⟩
      obtain ⟨rest, ⟨m, hm⟩, k, hk⟩ := hwalk course hcovers
      refine ⟨m + k, fun n => ?_⟩
      rw [Nat.add_assoc, hm, hk]
      rfl
    | _ =>
      -- Ended otherwise: what was played is a part of the walk.
      refine .inr ⟨_, hending, by simp, by simpa [Progress.finale] using hplayed,
        fun course hcovers => ?_⟩
      obtain ⟨rest, ⟨m, hm⟩, -⟩ := hwalk course hcovers
      refine ⟨m, fun n => ?_⟩
      rw [hm]
      simp [Progress.finale, Reading.prepend]
  | _ =>
    rw [hstep] at hending hwalk
    refine ⟨hending, ?_, by simpa [Progress.finale] using hplayed, fun course hcovers => ?_⟩
    · obtain ⟨rest, -, hentry, -⟩ := hwalk _ (Course.covers_ofHistory _)
      exact hentry
    · obtain ⟨rest, ⟨m, hm⟩, -, k, hk⟩ := hwalk course hcovers
      refine ⟨m + k, fun n => ?_⟩
      rw [Nat.add_assoc, hm, hk]
      simp [Progress.finale]

/-- **A turn keeps the run on the walk.** -/
theorem Tracks.snoc (h : start.Tracks entry turns events) (turn : Turn) :
    start.Tracks entry (turns ++ [turn])
      (events ++ (Moment.events ⟨start.after turns, turn⟩).filter Event.isShown) := by
  unfold Tracks at h
  cases hrun : (start.after turns).run with
  | none =>
    rw [hrun] at h
    -- After its end a run plays nothing more.
    have hshown := Moment.shown_of_deed_none (Moment.deed_of_run_none _ hrun turn)
    rw [Tracks, after_append, after_cons, after_nil, turn_run_none _ hrun turn, hshown,
      List.append_nil]
    exact h.stay turn
  | some run =>
    rw [hrun] at h
    cases turn with
    | step => exact h.step hrun
    | request request =>
      rw [Tracks, after_append, after_cons, after_nil, turn, request_run, hrun,
        Moment.shown_of_deed_none rfl, List.append_nil]
      exact h.stay rfl rfl
    | drop =>
      rw [Tracks, after_append, after_cons, after_nil, Moment.shown_of_deed_none rfl,
        List.append_nil]
      simp only [turn, hrun, drop]
      exact h.giveUp .dropped (by simp only [turn, hrun]) (by simp)
    | leak =>
      rw [Tracks, after_append, after_cons, after_nil, Moment.shown_of_deed_none rfl,
        List.append_nil]
      simp only [turn, hrun, leak]
      exact h.giveUp .leaked (by simp only [turn, hrun]) (by simp)

/-- What a run played so far, after turns. -/
theorem exists_tracks (session : Session) (label : Option String) (turns : List Turn) :
    ∃ events, ((session.create label).after turns).stage.shown = session.stage.shown ++ events ∧
      (session.create label).Tracks (label.getD session.entry) turns events := by
  induction turns using List.reverseRecOn with
  | nil =>
    refine ⟨[], (List.append_nil _).symm, rfl, rfl, List.not_mem_nil, fun course _ => ?_⟩
    exact ⟨0, fun n => by rw [Nat.zero_add]; rfl⟩
  | append_singleton turns turn ih =>
    obtain ⟨events, hshown, htracks⟩ := ih
    refine ⟨_, ?_, htracks.snoc turn⟩
    rw [after_append, after_cons, after_nil, ← List.append_assoc, ← hshown]
    have hlog := Moment.log_after ⟨(session.create label).after turns, turn⟩
    exact (congrArg (List.filter Event.isShown) hlog).trans (List.filter_append _ _)

/-- **What a run plays is a prefix of the walk through the scenario**, whatever the host does and in
whatever order, where the walk takes in the answers that the run accepted and what was resident when
its commands began. The run has played the whole walk exactly when it is completed, and then in the
label in which the walk comes to its end; a run that ends in any other way never plays the end. -/
theorem shown_refines_walk (session : Session) (label : Option String) (turns : List Turn) :
    let start := session.create label
    let walk := session.scenario.walk (.ofHistory (start.history turns)) (label.getD session.entry)
    ∃ events, (start.after turns).stage.shown = session.stage.shown ++ events ∧
      (∃ m, ∀ n, m ≤ n → events <+: (walk n).events ∧
        ∀ last, start.ending turns = some (.outcome (.completed last)) ↔
          walk n = ⟨events, some last⟩) ∧
      (.finish ∈ events ↔ ∃ last, start.ending turns = some (.outcome (.completed last))) := by
  intro start walk
  obtain ⟨events, hshown, htracks⟩ := exists_tracks session label turns
  have hcovers := Course.covers_ofHistory (start.history turns)
  -- The whole walk has the end of the play in it.
  have hwhole : ∀ n last, walk n = ⟨events, some last⟩ → .finish ∈ events := by
    intro n last h
    have hmem := session.scenario.finish_mem_walk (.ofHistory (start.history turns))
      (congrArg Reading.last h)
    rwa [show (session.scenario.walk _ _ n).events = events from congrArg Reading.events h] at hmem
  refine ⟨events, hshown, ?_⟩
  -- A run that is not completed has played no end, so it has not played the whole walk.
  have hpart : .finish ∉ events → (∀ last, start.ending turns ≠ some (.outcome (.completed last))) →
      (∃ m, ∀ n, events <+: (walk (m + n)).events) →
      (∃ m, ∀ n, m ≤ n → events <+: (walk n).events ∧
        ∀ last, start.ending turns = some (.outcome (.completed last)) ↔
          walk n = ⟨events, some last⟩) ∧
      (.finish ∈ events ↔ ∃ last, start.ending turns = some (.outcome (.completed last))) := by
    intro hfinish hother ⟨m, hm⟩
    refine ⟨⟨m, fun n hn => ⟨?_, fun last => ?_⟩⟩, ?_⟩
    · rw [← Nat.add_sub_cancel' hn]
      exact hm _
    · exact iff_of_false (hother last) fun h => hfinish (hwhole n last h)
    · exact iff_of_false hfinish fun ⟨last, h⟩ => hother last h
  unfold Tracks at htracks
  cases hrun : (start.after turns).run with
  | some run =>
    rw [hrun] at htracks
    obtain ⟨hnone, -, hfinish, hwalk⟩ := htracks
    obtain ⟨m, hm⟩ := hwalk _ hcovers
    refine hpart hfinish (fun last h => ?_) ⟨m, fun n => ?_⟩
    · rw [hnone] at h
      cases h
    · exact ⟨_, (congrArg Reading.events (hm n)).symm⟩
  | none =>
    rw [hrun] at htracks
    obtain ⟨last, hlast, hwalk⟩ | ⟨ending, hending, hother, hfinish, hwalk⟩ := htracks
    · obtain ⟨m, hm⟩ := hwalk _ hcovers
      refine ⟨⟨m, fun n hn => ?_⟩, iff_of_true (hwhole _ last (hm 0)) ⟨last, hlast⟩⟩
      have hn' : walk n = ⟨events, some last⟩ := by
        rw [← Nat.add_sub_cancel' hn]
        exact hm _
      have hplayed : events <+: (walk n).events := ⟨[], by rw [hn', List.append_nil]⟩
      refine ⟨hplayed, fun other => ?_⟩
      rw [hlast, hn']
      simp
    · refine hpart hfinish (fun last h => ?_) (hwalk _ hcovers)
      rw [hending] at h
      exact hother last (Option.some.inj h)

end Session

end Storyboard
