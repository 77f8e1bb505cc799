import Storyboard.Proofs.Compile.Prepared
import Storyboard.Proofs.Console.Polling
import Mathlib.Data.List.Perm.Subperm

/-!
# Automatic play

An automatic play acknowledges every line and takes the first option of every choice. So from each
label there is at most one label to go on to: the target of its last jump or choice, if there is a
label of that name (`Scenario.successor?`). A play follows this path. It ends if the path does, in
the last label of the path, and the path then visits no label twice. A path that comes back to a
label goes on forever, and so does the play.
-/

namespace Storyboard

open Console (Responder Recital)

/-! ### Paths -/

/-- Where a command leads if the first option of a choice is taken. -/
def Command.lead? : Command → Option String
  | .jump target _ => some target
  | .choice options _ => (options.map (·.target))[0]?
  | _ => none

namespace Scenario

/-- Where the last jump or choice of a label leads. -/
def lead? (scenario : Scenario) (label : String) : Option String :=
  ((scenario.commands label).filterMap Command.lead?).getLast?

/-- The label to go on to after a label, if there is one. -/
def successor? (scenario : Scenario) (label : String) : Option String :=
  scenario.existing? (scenario.lead? label)

/-- The labels that follow one another from a label on, up to some label. -/
inductive Path (scenario : Scenario) : String → List String → Prop
  | here (label : String) : Path scenario label [label]
  | next {label target : String} {labels : List String}
      (h : scenario.successor? label = some target) (path : Path scenario target labels) :
      Path scenario label (label :: labels)

/-- The labels that follow one another from a label on, up to the last. -/
inductive Tour (scenario : Scenario) : String → List String → String → Prop
  | last {label : String} (h : scenario.successor? label = none) : Tour scenario label [label] label
  | next {label target last : String} {labels : List String}
      (h : scenario.successor? label = some target) (tour : Tour scenario target labels last) :
      Tour scenario label (label :: labels) last

variable {scenario : Scenario} {label last : String} {labels tour : List String}

theorem Tour.path (h : scenario.Tour label labels last) : scenario.Path label labels := by
  induction h with
  | last _ => exact .here _
  | next hnext _ ih => exact .next hnext ih

/-- There is only one way to go. -/
theorem Path.prefix_tour (h : scenario.Path label labels) (htour : scenario.Tour label tour last) :
    labels <+: tour := by
  induction h generalizing tour with
  | here label => cases htour <;> exact List.cons_prefix_cons.2 ⟨rfl, List.nil_prefix⟩
  | next hnext path ih =>
    cases htour with
    | last hlast =>
      rw [hlast] at hnext
      cases hnext
    | next hother rest =>
      obtain rfl := Option.some.inj (hnext.symm.trans hother)
      exact List.cons_prefix_cons.2 ⟨rfl, ih rest⟩

theorem Tour.exists_suffix (h : scenario.Tour label tour last) {name : String}
    (hname : name ∈ tour) : ∃ rest, scenario.Tour name rest last ∧ rest <:+ tour := by
  induction h with
  | last hlast =>
    obtain rfl := List.mem_singleton.1 hname
    exact ⟨_, .last hlast, List.suffix_refl _⟩
  | next hnext tour ih =>
    obtain rfl | hname := List.mem_cons.1 hname
    · exact ⟨_, .next hnext tour, List.suffix_refl _⟩
    · obtain ⟨rest, hrest, hsuffix⟩ := ih hname
      exact ⟨rest, hrest, hsuffix.trans (List.suffix_cons _ _)⟩

/-- **A path that comes to an end visits no label twice.** -/
theorem Tour.nodup (h : scenario.Tour label tour last) : tour.Nodup := by
  induction h with
  | last _ => exact List.nodup_singleton _
  | next hnext tour ih =>
    refine List.nodup_cons.2 ⟨fun hagain => ?_, ih⟩
    -- From the second visit on the path would have to be as long as from the first.
    obtain ⟨rest, hrest, hsuffix⟩ := tour.exists_suffix hagain
    have hlonger := ((Tour.next hnext tour).path.prefix_tour hrest).length_le
    have hshorter := hsuffix.length_le
    rw [List.length_cons] at hlonger
    omega

theorem Path.isSome_label? (h : scenario.Path label labels)
    (hlabel : (scenario.label? label).isSome = true) :
    ∀ name ∈ labels, (scenario.label? name).isSome = true := by
  induction h with
  | here label =>
    intro name hname
    rw [List.mem_singleton.1 hname]
    exact hlabel
  | next hnext _ ih =>
    intro name hname
    obtain rfl | hname := List.mem_cons.1 hname
    · exact hlabel
    · exact ih (existing?_eq_some hnext).2 name hname

/-- **A path that comes to an end visits at most all labels.** -/
theorem Tour.length_le (h : scenario.Tour label tour last)
    (hlabel : (scenario.label? label).isSome = true) :
    tour.length ≤ scenario.program.labels.size := by
  have hsubset : tour ⊆ scenario.program.labels.keys := by
    intro name hname
    rw [Dict.mem_keys_iff]
    exact h.path.isSome_label? hlabel name hname
  have hle := (List.subperm_of_subset h.nodup hsubset).length_le
  rwa [Dict.keys, List.length_map] at hle

/-! ### The recital along a path -/

/-- The lines that the commands of a label print. -/
def labelLines (scenario : Scenario) (present : String → Bool) (label : String) : List String :=
  (scenario.commands label).flatMap (scenario.lines present)

/-- A command that waits is answered at once with the first option, and the others go on. -/
theorem reciteCommands_cons_auto (scenario : Scenario) (present : String → Bool) {command : Command}
    (hcommand : command.HasOptions) :
    ∃ sent moves, ∀ leave next rest,
      scenario.reciteCommands present leave next .auto (command :: rest) =
        (scenario.reciteCommands present leave (command.lead?.or next) .auto rest).prepend
          (scenario.lines present command) sent moves := by
  cases command with
  | text words place =>
    refine ⟨[.signal .advance], 2, fun leave next rest => ?_⟩
    simp [reciteCommands, flow, Recital.awaitLine, Responder.readLine, Recital.prepend_prepend,
      Command.lead?]
  | jump target place =>
    refine ⟨[], 1, fun leave next rest => ?_⟩
    simp [reciteCommands, flow, Command.lead?]
  | choice options place =>
    obtain ⟨first, others, rfl⟩ := List.exists_cons_of_ne_nil hcommand
    refine ⟨[.signal (.choose 0)], 2, fun leave next rest => ?_⟩
    simp [reciteCommands, flow, Recital.awaitOption, Responder.readOption, Recital.prepend_prepend,
      Command.lead?]
  | character id hides layer words place =>
    by_cases hspeaks : ((scenario.character? id).isSome && words.isSome) = true
    · refine ⟨[.signal .advance], 2, fun leave next rest => ?_⟩
      rw [reciteCommands, flow, if_pos hspeaks]
      simp [Recital.awaitLine, Responder.readLine, Recital.prepend_prepend, Command.lead?]
    · refine ⟨[], 1, fun leave next rest => ?_⟩
      rw [reciteCommands, flow, if_neg hspeaks]
      simp [Command.lead?]

theorem getLast?_filterMap_lead? (command : Command) (rest : List Command) (next : Option String) :
    ((command :: rest).filterMap Command.lead?).getLast?.or next =
      (rest.filterMap Command.lead?).getLast?.or (command.lead?.or next) := by
  cases hlead : command.lead? with
  | none => rw [List.filterMap_cons_none hlead, Option.none_or]
  | some target =>
    rw [List.filterMap_cons_some hlead, List.getLast?_cons, Option.some_or]
    cases (rest.filterMap Command.lead?).getLast? <;> rfl

/-- **What an automatic recital of commands comes to**: all their lines are printed, and it goes on
where the last jump or choice leads. -/
theorem reciteCommands_auto (scenario : Scenario) (present : String → Bool)
    {commands : List Command} (hcommands : ∀ command ∈ commands, command.HasOptions) :
    ∃ sent moves, ∀ leave next, scenario.reciteCommands present leave next .auto commands =
      (leave ((commands.filterMap Command.lead?).getLast?.or next) .auto).prepend
        (commands.flatMap (scenario.lines present)) sent moves := by
  induction commands with
  | nil => exact ⟨[], 0, fun leave next => by simp [reciteCommands]⟩
  | cons command rest ih =>
    obtain ⟨first, steps, hfirst⟩ :=
      scenario.reciteCommands_cons_auto present (hcommands command List.mem_cons_self)
    obtain ⟨sent, moves, hrest⟩ :=
      ih fun other hother => hcommands other (List.mem_cons_of_mem _ hother)
    refine ⟨first ++ sent, steps + moves, fun leave next => ?_⟩
    rw [hfirst, hrest, Recital.prepend_prepend, getLast?_filterMap_lead?, List.flatMap_cons]

section

variable {scenario : Scenario} {entry label target last : String} {labels : List String}
  (hoptions : ∀ name, ∀ command ∈ scenario.commands name, command.HasOptions)
  (present : String → Bool)

/-- The automatic recital of a label, through at most `n` more labels. -/
def reciteAuto (scenario : Scenario) (present : String → Bool) (label : String) (n : Nat) :
    Recital :=
  scenario.reciteVisit present n label none .auto (scenario.commands label)

include hoptions

theorem reciteAuto_eq (label : String) :
    ∃ sent moves, ∀ n, scenario.reciteAuto present label n =
      (scenario.reciteLeaving present n label (scenario.lead? label) .auto).prepend
        (scenario.labelLines present label) sent moves := by
  obtain ⟨sent, moves, hcommands⟩ := scenario.reciteCommands_auto present (hoptions label)
  refine ⟨sent, moves, fun n => ?_⟩
  rw [reciteAuto, reciteVisit, hcommands, Option.or_none]
  rfl

/-- The recital of a label goes on with that of its successor. -/
theorem reciteAuto_leads (h : scenario.successor? label = some target) :
    ∃ sent moves, Recital.Leads (scenario.reciteAuto present label)
      (scenario.reciteAuto present target) (scenario.labelLines present label) sent moves 1 := by
  obtain ⟨sent, moves, hlabel⟩ := reciteAuto_eq hoptions present label
  refine ⟨sent, moves + 2, fun n => ?_, fun n hn => ?_⟩
  · rw [hlabel, Nat.add_comm 1, reciteLeaving, show scenario.existing? _ = _ from h]
    simp only [Recital.prepend_prepend, List.append_nil]
    rfl
  · obtain rfl := Nat.lt_one_iff.1 hn
    rw [hlabel]
    exact ⟨rfl, by simp [Recital.prepend, reciteLeaving]⟩

/-- The recital of a label without successor is the end. -/
theorem reciteAuto_last (h : scenario.successor? label = none) :
    ∃ sent moves, ∀ n, scenario.reciteAuto present label (n + 1) =
      ⟨scenario.labelLines present label ++ ["EVENT:END"], sent, .auto,
        some (.completed label), moves⟩ := by
  obtain ⟨sent, moves, hlabel⟩ := reciteAuto_eq hoptions present label
  refine ⟨sent, moves, fun n => ?_⟩
  rw [hlabel, reciteLeaving, show scenario.existing? _ = _ from h]
  simp [Recital.prepend]

/-- **The recital follows the path.** Through as many labels as a path has, it prints the lines of
these labels. -/
theorem Path.printed (h : scenario.Path label labels) :
    ∃ n, (scenario.reciteAuto present label n).printed =
      labels.flatMap (scenario.labelLines present) := by
  induction h with
  | here label =>
    obtain ⟨sent, moves, hlabel⟩ := reciteAuto_eq hoptions present label
    refine ⟨0, ?_⟩
    rw [hlabel]
    simp [Recital.prepend, reciteLeaving]
  | next hnext path ih =>
    obtain ⟨n, hn⟩ := ih
    obtain ⟨sent, moves, hleads⟩ := reciteAuto_leads hoptions present hnext
    refine ⟨1 + n, ?_⟩
    rw [hleads.onward, List.flatMap_cons, ← hn]
    rfl

/-- **A recital along a path that comes to an end** comes to its end in the last label. -/
theorem Tour.recite (h : scenario.Tour label labels last) :
    ∃ n sent moves, scenario.reciteAuto present label n =
      ⟨labels.flatMap (scenario.labelLines present) ++ ["EVENT:END"], sent, .auto,
        some (.completed last), moves⟩ := by
  induction h with
  | last hlast =>
    obtain ⟨sent, moves, hend⟩ := reciteAuto_last hoptions present hlast
    exact ⟨1, sent, moves, by rw [hend 0, List.flatMap_singleton]⟩
  | next hnext tour ih =>
    obtain ⟨n, sent, moves, hrest⟩ := ih
    obtain ⟨before, steps, hleads⟩ := reciteAuto_leads hoptions present hnext
    refine ⟨1 + n, before ++ sent, steps + moves, ?_⟩
    rw [hleads.onward, hrest, List.flatMap_cons, List.append_assoc]
    rfl

/-- **A recital that has an outcome has followed a path to its end.** -/
theorem exists_tour_of_outcome {outcome : Outcome} {n : Nat}
    (h : (scenario.reciteAuto present label n).outcome = some outcome) :
    ∃ labels last, scenario.Tour label labels last ∧ outcome = .completed last := by
  induction n generalizing label with
  | zero =>
    -- With no label left to go to, a recital has no outcome.
    obtain ⟨sent, moves, hlabel⟩ := reciteAuto_eq hoptions present label
    rw [hlabel] at h
    cases h
  | succ n ih =>
    cases hnext : scenario.successor? label with
    | none =>
      obtain ⟨sent, moves, hend⟩ := reciteAuto_last hoptions present hnext
      rw [hend] at h
      exact ⟨[label], label, .last hnext, (Option.some.inj h).symm⟩
    | some target =>
      obtain ⟨sent, moves, hleads⟩ := reciteAuto_leads hoptions present hnext
      rw [Nat.add_comm, hleads.onward] at h
      obtain ⟨labels, last, htour, houtcome⟩ := ih h
      exact ⟨label :: labels, last, .next hnext htour, houtcome⟩

theorem answerable_of_hasOptions : Responder.auto = .auto → scenario.Answerable := by
  intro _ name command hcommand hflow
  obtain ⟨options, place, rfl, htargets⟩ := scenario.exists_choice_of_flow hflow
  exact hoptions name _ hcommand (List.map_eq_nil_iff.1 htargets.symm)

end

end Scenario

/-! ### Playing along a path -/

namespace Playback

section

variable {scenario : Scenario} {entry : String} {labels : List String}
  (hentry : scenario.commands entry ≠ [])
  (hoptions : ∀ name, ∀ command ∈ scenario.commands name, command.HasOptions)
  (store : Store)

theorem recite_auto (scenario : Scenario) (present : String → Bool) (entry : String) (n : Nat) :
    scenario.recite present entry .auto n =
      (scenario.reciteAuto present entry n).prepend ["EVENT:START"] [] 4 := rfl

include hentry hoptions

/-- **An automatic play goes on along the path**, as far as one likes, if no asset is held back. -/
theorem exists_printed_of_path (hsupplied : (new entry store .auto).Supplied)
    (h : scenario.Path entry labels) :
    let present := Scenario.canShow store.fault?
    ∃ bound, ∀ polls : List Poll, bound ≤ polls.length →
      "EVENT:START" :: labels.flatMap (scenario.labelLines present) <+:
        ((new entry store .auto).polled scenario polls).printed := by
  intro present
  obtain ⟨n, hn⟩ := h.printed hoptions present
  have hprinted : (scenario.recite present entry .auto n).printed =
      "EVENT:START" :: labels.flatMap (scenario.labelLines present) := by
    rw [recite_auto, ← hn]
    rfl
  refine ⟨2 * (scenario.recite present entry .auto n).moves + 1, fun polls hpolls => ?_⟩
  have hstart : (new entry store .auto).InOrder scenario store.fault? entry :=
    inOrder_new store (Scenario.answerable_of_hasOptions hoptions)
  obtain ⟨moves, m, ⟨printed, sent, hnow, -, hleads⟩, hend⟩ :=
    hstart.polled hentry hsupplied (n := n) hpolls
  have hnothing : (new entry store .auto).printed = [] := rfl
  rw [← hprinted, hnow, hnothing, List.nil_append]
  -- The play has got further than asked, or it has ended and has printed the whole recital.
  obtain hlt | hle := Nat.lt_or_ge n m
  · exact (hleads.short n hlt).2
  · have hrun := hend.resolve_right (Nat.not_lt.2 hle)
    obtain ⟨n, rfl⟩ := Nat.exists_eq_add_of_le hle
    have hrecital := hleads.onward n
    rw [prospect_of_ended _ hrun, prospect_new] at hrecital
    rw [hrecital]
    simp [Recital.prepend]

/-- **An automatic play that has ended has followed a path to its end.** -/
theorem exists_tour_of_ended {polls : List Poll} {outcome : Outcome}
    (h : ((new entry store .auto).polled scenario polls).outcome = some outcome) :
    ∃ labels last, scenario.Tour entry labels last ∧ outcome = .completed last := by
  obtain ⟨-, -, m, moves, hrecital⟩ := recite_eq_of_outcome hentry store
    (Scenario.answerable_of_hasOptions hoptions) h
  have houtcome := congrArg Recital.outcome (hrecital 0)
  rw [recite_auto] at houtcome
  exact Scenario.exists_tour_of_outcome hoptions _ houtcome

/-- **An automatic play is never asked to end.** -/
theorem stopped_eq_false {polls : List Poll} {run : Run}
    (hrun : ((new entry store .auto).polled scenario polls).run = some run) :
    ((new entry store .auto).polled scenario polls).stage.desk.stopped = false := by
  obtain ⟨m, moves, hrecital⟩ := recite_eq_of_polls hentry store
    (Scenario.answerable_of_hasOptions hoptions) polls
  refine Bool.eq_false_iff.2 fun hstopped => ?_
  have houtcome := congrArg Recital.outcome (hrecital 0)
  simp only [prospect, hrun, Run.prospect, hstopped, if_true, recite_auto] at houtcome
  obtain ⟨labels, last, -, hcompleted⟩ := Scenario.exists_tour_of_outcome hoptions _ houtcome
  cases hcompleted

end

/-- **Automatic play follows the first options**, however the run and its status are polled. If the
path of first options from the entry comes to an end, it visits no label twice and so at most all
labels of the program. The play then ends, completed in the last label, after it has printed the
lines of the labels on the path. A play that has ended has followed a path to its end, so it is
never stopped. Whether or not the path comes to an end, the play gets along it as far as one likes.
If the path comes back to a label, the play never ends. A command that waits is answered once, with
something that it accepts, or there is a change of the status to look at. A driver is one way to
poll. -/
theorem automatic_play_follows_first_options {options : Options} {sources : Sources}
    {label : Option String} {scenario : Scenario} {entry : String}
    (hprepared : (Scenario.prepare options sources label).result = .ok (scenario, entry)) :
    let lines := scenario.labelLines (Scenario.canShow Store.ready.fault?)
    let start := new entry .ready .auto
    (∀ labels last, scenario.Tour entry labels last →
      labels.Nodup ∧ labels.length ≤ scenario.program.labels.size ∧
      ∃ bound, ∀ polls : List Poll, bound ≤ polls.length →
        let now := start.polled scenario polls
        now.run = none ∧ now.outcome = some (.completed last) ∧
        now.printed = "EVENT:START" :: labels.flatMap lines ++ ["EVENT:END"]) ∧
    (∀ polls outcome, (start.polled scenario polls).outcome = some outcome →
      ∃ labels last, scenario.Tour entry labels last ∧ outcome = .completed last) ∧
    (∀ labels, scenario.Path entry labels →
      (∃ bound, ∀ polls : List Poll, bound ≤ polls.length →
        "EVENT:START" :: labels.flatMap lines <+: (start.polled scenario polls).printed) ∧
      (¬labels.Nodup → ∀ polls, (start.polled scenario polls).outcome = none)) ∧
    (∀ polls run,
      let now := start.polled scenario polls
      now.run = some run → now.stage.desk.stopped = false ∧ run.Tended now.stage.desk now.fresh) ∧
    ∀ fuel, Console.drive scenario fuel { depot := .ofStore .ready } (.new entry) .auto =
      let now := start.polled scenario (List.replicate fuel {})
      now.outcome.map (now.stage, ·) := by
  intro lines start
  obtain ⟨-, hentry⟩ := Scenario.prepare_eq_ok hprepared
  have hoptions : ∀ name, ∀ command ∈ scenario.commands name, command.HasOptions :=
    fun name command => Scenario.hasOptions_of_prepare hprepared
  have hserved := Scenario.answerable_of_hasOptions hoptions
  have hsupplied : start.Supplied := fun name => rfl
  refine ⟨?_, ?_, ?_, ?_, fun fuel => ?_⟩
  · intro labels last htour
    refine ⟨htour.nodup, htour.length_le (scenario.isSome_label?_of_commands hentry), ?_⟩
    obtain ⟨n, sent, moves, hend⟩ := htour.recite hoptions (Scenario.canShow Store.ready.fault?)
    -- The recital along the tour is known in full, and enough polls come to its end.
    have hrecital : scenario.recite (Scenario.canShow Store.ready.fault?) entry .auto n =
        ⟨"EVENT:START" :: labels.flatMap lines ++ ["EVENT:END"], sent, .auto,
          some (.completed last), 4 + moves⟩ := by
      rw [recite_auto, hend]
      rfl
    have houtcome : (scenario.recite (Scenario.canShow Store.ready.fault?) entry .auto
        n).outcome.isSome = true := by rw [hrecital]; rfl
    have hready : (start.polled scenario []).Supplied := hsupplied
    refine ⟨2 * (4 + moves) + 2, fun polls hpolls => ?_⟩
    obtain ⟨hrun, steps, hnow⟩ := polled_eq_recite hentry .ready hserved houtcome hready
      (by rw [hrecital]; exact hpolls)
    rw [hrecital] at hnow
    exact ⟨hrun, (congrArg Recital.outcome hnow).symm, (congrArg Recital.printed hnow).symm⟩
  · intro polls outcome houtcome
    exact exists_tour_of_ended hentry hoptions .ready houtcome
  · intro labels hpath
    refine ⟨exists_printed_of_path hentry hoptions .ready hsupplied hpath, fun hagain polls => ?_⟩
    cases houtcome : (start.polled scenario polls).outcome with
    | none => rfl
    | some outcome =>
      -- An ended play would have followed a tour, which visits no label twice.
      obtain ⟨tour, last, htour, -⟩ := exists_tour_of_ended hentry hoptions .ready houtcome
      exact absurd (htour.nodup.sublist (hpath.prefix_tour htour).sublist) hagain
  · intro polls run now hrun
    obtain ⟨horder, -⟩ := polled_new hentry .ready hserved polls
    exact ⟨stopped_eq_false hentry hoptions .ready hrun, (horder.orderly run hrun).tended⟩
  · exact (inOrder_new .ready hserved).drive_eq hentry rfl fuel

/-- A choice that leads to a label with a line of text, and on to nowhere. -/
def corridor : Sources :=
  ⟨Dict.empty.insert "intro"
    "Command,Arg1,Text\nLabel,Start,\nChoice,End,On\nLabel,End,\nText,,Bye\nJump,Nowhere,\n", none⟩

/-- The scenario of that sheet. -/
def corridorScenario : Scenario :=
  .new
    ⟨(Dict.empty.insert "Start" ⟨"Start", "intro",
      [.choice [⟨"On", "End"⟩] (.row "intro" 3)]⟩).insert "End" ⟨"End", "intro",
        [.text "Bye" (.row "intro" 5), .jump "Nowhere" (.row "intro" 6)]⟩⟩ .empty

/-- However that is polled, the run comes to its end in the second label. -/
theorem corridor_completed :
    (Scenario.prepare {} corridor none).result = .ok (corridorScenario, "Start") ∧
    ∃ bound, ∀ polls : List Poll, bound ≤ polls.length →
      let now := (new "Start" .ready .auto).polled corridorScenario polls
      now.outcome = some (.completed "End") ∧
      now.printed = ["EVENT:START", "CHOICE:0|\"On\"", "TEXT_JSON:\"Bye\"", "EVENT:END"] := by
  have hprepared :
      (Scenario.prepare {} corridor none).result = .ok (corridorScenario, "Start") := by
    with_unfolding_all rfl
  have hstart : corridorScenario.successor? "Start" = some "End" := by decide +kernel
  have hend : corridorScenario.successor? "End" = none := by decide +kernel
  obtain ⟨-, -, bound, hbound⟩ :=
    (automatic_play_follows_first_options hprepared).1 _ _ (.next hstart (.last hend))
  refine ⟨hprepared, bound, fun polls hpolls => ?_⟩
  obtain ⟨-, houtcome, hprinted⟩ := hbound polls hpolls
  refine ⟨houtcome, hprinted.trans ?_⟩
  decide +kernel

end Playback

end Storyboard
