import Storyboard.Proofs.Compile.Building
import Storyboard.Proofs.Compile.Labels
import Storyboard.Proofs.Compile.Order
import Storyboard.Proofs.Player.Itinerary
import Mathlib.Data.List.TakeWhile

/-!
# Compiled programs are well formed

Each label of a compiled program was opened by a row of one of the grids, and has the commands of
the rows below it, down to the next row that opens a label. The rows of a grid have increasing
lines, so do its entries (`Grid.pairwise_line_entries`) and the commands of each label, which lie
between the two label rows (`Label.LiesIn`). As the built-in commands name what they need, all
commands of the program are well formed, and a player that waits for a choice has something to
choose from (`Program.compiled_is_wellFormed`).
-/

namespace Storyboard

/-! ### Lines of entries -/

namespace Grid

theorem pairwise_line_numberRows (n : Nat) (texts : List (List Char)) :
    (numberRows n texts).Pairwise (fun a b => a.line < b.line) ∧
      ∀ row ∈ numberRows n texts, n ≤ row.line := by
  induction texts generalizing n with
  | nil => exact ⟨.nil, nofun⟩
  | cons text rest ih =>
    obtain ⟨hrest, hlines⟩ := ih (n + 1)
    rw [numberRows]
    refine ⟨List.pairwise_cons.2 ⟨fun row hrow => hlines row hrow, hrest⟩, ?_⟩
    intro row hrow
    rcases List.mem_cons.1 hrow with rfl | hrow
    · exact Nat.le_refl n
    · have hline := hlines row hrow
      omega

/-- The entries of rows are some of the rows, in order. -/
theorem map_row_entriesBelow_sublist (options : Options) (grid : String) (header : Option Header)
    (rows : List Row) :
    ((entriesBelow options grid header rows).map (·.row)).Sublist rows := by
  induction rows generalizing header with
  | nil => exact .refl _
  | cons row rest ih =>
    unfold entriesBelow
    split
    · exact (ih header).cons row
    · split
      · exact (ih _).cons row
      · cases header with
        | none => exact (ih none).cons row
        | some header => exact (ih (some header)).cons_cons row

/-- **The entries of a grid have increasing lines.** -/
theorem pairwise_line_entries (options : Options) (name source : String) :
    ((parse name source).entries options).Pairwise (fun a b => a.place.line < b.place.line) := by
  have hrows := (pairwise_line_numberRows 1
    (Text.lines (Text.chopFront byteOrderMark source.toList))).1
  have hsublist := map_row_entriesBelow_sublist options name none (parse name source).rows
  have hentries : (((parse name source).entries options).map (·.row)).Pairwise
      (fun a b => a.line < b.line) := by
    rw [entries_eq_entriesBelow]
    exact hrows.sublist hsublist
  refine (List.pairwise_map.1 hentries).imp_of_mem fun {a b} ha hb hline => ?_
  rw [place_eq_of_mem_entries ha, place_eq_of_mem_entries hb]
  exact hline

end Grid

/-! ### Labels in their grids -/

/-- A label lies in the entries of a grid: it is opened by a row of its name, and its commands are
below that row, in the order of their lines and above the next row that opens a label. -/
def Label.LiesIn (entries : List Entry) (label : Label) : Prop :=
  ∃ above row below, entries = above ++ row :: below ∧ row.isLabel = true ∧
    row.arg 1 = label.name ∧ label.commands.Pairwise (fun a b => a.place.line < b.place.line) ∧
    ∀ command ∈ label.commands, row.place.line < command.place.line ∧
      ∀ next ∈ below, next.isLabel = true → command.place.line < next.place.line

namespace Entry

/-- The entries of a segment come before those that open labels. -/
theorem line_lt_of_mem_segment {entries : List Entry}
    (hlines : entries.Pairwise (fun a b => a.place.line < b.place.line)) {entry next : Entry}
    (hentry : entry ∈ segment entries) (hnext : next ∈ entries) (hlabel : next.isLabel = true) :
    entry.place.line < next.place.line := by
  have hsplit : segment entries ++ entries.dropWhile (!·.isLabel) = entries :=
    List.takeWhile_append_dropWhile
  rw [← hsplit] at hlines hnext
  rcases List.mem_append.1 hnext with hnext | hnext
  · have hcommand := List.mem_takeWhile_imp hnext
    rw [hlabel] at hcommand
    cases hcommand
  · exact (List.pairwise_append.1 hlines).2.2 entry hentry next hnext

/-- **The commands of a segment have the places of its entries**, in order. -/
theorem map_place_of_built {entries : List Entry} {commands : List Command}
    (h : entries.map (build .builtin) = commands.map .ok) :
    commands.map (·.place) = entries.map (·.place) := by
  induction entries generalizing commands with
  | nil =>
    cases commands with
    | nil => rfl
    | cons command rest => cases h
  | cons entry rest ih =>
    cases commands with
    | nil => cases h
    | cons command others =>
      rw [List.map_cons, List.map_cons] at h
      obtain ⟨hfirst, hrest⟩ := List.cons.inj h
      rw [List.map_cons, List.map_cons, ih hrest, Factory.place_of_build hfirst]

end Entry

namespace Program

variable {options : Options} {sources : Dict String} {program : Program} {name : String}
  {label : Label}

/-- A label of a compiled program is a segment of one of the grids. -/
theorem exists_segment_of_label (h : (compile .builtin options sources).result = .ok program)
    (hlabel : program.label? name = some label) :
    ∃ source commands, sources.find? label.grid = some source ∧
      label = ⟨name, label.grid, commands⟩ ∧
      ∃ above row below, (Grid.parse label.grid source).entries options = above ++ row :: below ∧
        row.isLabel = true ∧ row.arg 1 = name ∧ name ≠ "" ∧
        (Entry.segment below).map (Entry.build .builtin) = commands.map .ok := by
  -- The program is the union of its grids, so the label comes from one of them.
  have hsingle : ∃ grid ∈ sources.entries.map fun source => Grid.parse source.1 source.2,
      (empty.addGrid .builtin options grid).program.label? name = some label := by
    have hempty : ¬ empty.label? name = some label := nofun
    exact ((label?_addGrids h name label).1 hlabel).resolve_left hempty
  obtain ⟨grid, hgrid, hfound⟩ := hsingle
  have halone := ((exists_addGrids_iff empty _).1 ⟨program, h⟩).alone grid hgrid
  have hresult := (GridReport.result_eq_ok_iff _ _).2 ⟨halone, rfl⟩
  obtain ⟨hiff, hsegmented⟩ := addGrid_spec .builtin options empty grid
  have hcompilable := hiff.1 ⟨_, hresult⟩
  obtain ⟨above, row, below, hsplit, hopens, rfl⟩ := Entry.exists_label_of_mem
    ((label?_alone halone name).1 (Option.isSome_iff_exists.2 ⟨label, hfound⟩))
  obtain ⟨commands, hbuilt, hsegment⟩ :=
    (hsegmented _ hresult).segment above row below hsplit hopens
  have hrow : row ∈ grid.entries options := by
    rw [hsplit]
    exact List.mem_append_right _ List.mem_cons_self
  rw [hfound] at hsegment
  obtain ⟨⟨title, source⟩, hsource, rfl⟩ := List.mem_map.1 hgrid
  obtain rfl := Option.some.inj hsegment
  exact ⟨source, commands, (sources.mem_entries_iff _ _).1 hsource, rfl, above, row, below, hsplit,
    hopens, rfl, hcompilable.named row hrow hopens, hbuilt⟩

/-- **A label of a compiled program lies in one of the grids**, and its commands have places
there. -/
theorem liesIn_of_label (h : (compile .builtin options sources).result = .ok program)
    (hlabel : program.label? name = some label) :
    ∃ source, sources.find? label.grid = some source ∧
      label.LiesIn ((Grid.parse label.grid source).entries options) ∧
      ∀ command ∈ label.commands, ∃ line, command.place = .row label.grid line := by
  obtain ⟨source, commands, hsource, hform, above, row, below, hsplit, hopens, hname, -, hbuilt⟩ :=
    exists_segment_of_label h hlabel
  have hcommands : label.commands = commands := congrArg Label.commands hform
  have hplaces : commands.map (·.place) = (Entry.segment below).map (·.place) :=
    Entry.map_place_of_built hbuilt
  have hsegment : (Entry.segment below).Sublist below := List.takeWhile_sublist _
  have hlines := Grid.pairwise_line_entries options label.grid source
  rw [hsplit] at hlines
  obtain ⟨hrow, hbelow⟩ := List.pairwise_cons.1 (List.pairwise_append.1 hlines).2.1
  -- Each command has the place of the row that it was built from.
  have hentry : ∀ command ∈ commands,
      ∃ entry ∈ Entry.segment below, entry.place = command.place := by
    intro command hcommand
    have hplace : command.place ∈ commands.map (·.place) := List.mem_map_of_mem hcommand
    rw [hplaces] at hplace
    exact List.mem_map.1 hplace
  refine ⟨source, hsource, ⟨above, row, below, hsplit, hopens, ?_, ?_, ?_⟩, ?_⟩
  · rw [hname]
    exact (congrArg Label.name hform).symm
  · -- The lines of a grid increase from row to row, and a segment keeps their order.
    have hordered : ((Entry.segment below).map (·.place)).Pairwise (fun a b => a.line < b.line) :=
      List.pairwise_map.2 (hbelow.sublist hsegment)
    rw [← hplaces, List.pairwise_map] at hordered
    rw [hcommands]
    exact hordered
  · intro command hcommand
    obtain ⟨entry, hmem, hplace⟩ := hentry command (hcommands ▸ hcommand)
    rw [← hplace]
    exact ⟨hrow entry (hsegment.subset hmem), fun next hnext =>
      Entry.line_lt_of_mem_segment hbelow hmem hnext⟩
  · intro command hcommand
    obtain ⟨entry, hmem, hplace⟩ := hentry command (hcommands ▸ hcommand)
    have hlisted : entry ∈ (Grid.parse label.grid source).entries options := by
      rw [hsplit]
      exact List.mem_append_right _ (List.mem_cons_of_mem _ (hsegment.subset hmem))
    exact ⟨entry.row.line, hplace ▸ Grid.place_eq_of_mem_entries hlisted⟩

theorem wellFormed_of_label (h : (compile .builtin options sources).result = .ok program)
    (hlabel : program.label? name = some label) :
    ∀ command ∈ label.commands, command.WellFormed :=
  (wellKept_compile (P := Command.WellFormed) (fun _ _ _ => Factory.wellFormed_build) h).commands
    name label hlabel

end Program

/-- A run that waits for a choice waits at a choice of its scenario. -/
theorem Session.mem_commands_of_choosing {session : Session} {start : Option String}
    {turns : List Turn} {run : Run} {label : String} {index : Nat} {targets : List String}
    (hrun : ((session.create start).after turns).run = some run)
    (hpoint : run.point = .choosing label index targets) :
    ∃ options place, .choice options place ∈ session.scenario.commands label ∧
      targets = options.map (·.target) := by
  have habides := ((session.travels start turns).abides hrun).2
  unfold Run.Abides at habides
  rw [hpoint] at habides
  obtain ⟨command, hcommand, hflow, -⟩ := habides
  obtain ⟨options, place, rfl, htargets⟩ := session.scenario.exists_choice_of_flow hflow
  exact ⟨options, place, List.mem_of_getElem? hcommand, htargets⟩

namespace Program

theorem exists_label_of_mem_commands {program : Program} {name : String} {command : Command}
    (h : command ∈ program.commands name) :
    ∃ label, program.label? name = some label ∧ command ∈ label.commands := by
  unfold commands at h
  split at h
  · next label hlabel => exact ⟨label, hlabel, h⟩
  · cases h

/-- **Compiled programs are well formed.** Each label has a trimmed name that is not empty, which is
its key, and lies in one of the given grids. Each of its commands has a place without a column in
that grid, the lines of these places increase, and they lie below the row of the label and above the
next row that opens a label. What a command names is trimmed and not empty, what a character says is
not blank, and a choice has at least one option. So whenever a player of the program waits for a
choice, whatever the host has done, there is an index that ends the wait. -/
theorem compiled_is_wellFormed {options : Options} {sources : Dict String} {program : Program}
    (h : (compile .builtin options sources).result = .ok program) :
    (∀ name label, program.label? name = some label →
      label.name = name ∧ Text.IsTidy name ∧
      (∃ source, sources.find? label.grid = some source ∧
        label.LiesIn ((Grid.parse label.grid source).entries options)) ∧
      ∀ command ∈ label.commands,
        command.place.grid = label.grid ∧ command.place.column = none ∧ command.WellFormed) ∧
    ∀ session : Session, session.scenario.program = program →
      ∀ (start : Option String) (turns : List Turn) (run : Run) (label : String) (index : Nat)
        (targets : List String),
        ((session.create start).after turns).run = some run →
        run.point = .choosing label index targets →
        ∃ i < targets.length, Run.firstChoice targets.length [.choose i] = (some i, []) := by
  refine ⟨fun name label hlabel => ?_, ?_⟩
  · obtain ⟨-, commands, -, hform, above, row, below, -, -, hname, hne, -⟩ :=
      exists_segment_of_label h hlabel
    obtain ⟨source, hsource, hlies, hplaces⟩ := liesIn_of_label h hlabel
    have htidy : Text.IsTidy name := hname ▸ Entry.isTidy_arg (hname ▸ hne)
    refine ⟨congrArg Label.name hform, htidy, ⟨source, hsource, hlies⟩, fun command hcommand => ?_⟩
    obtain ⟨line, hplace⟩ := hplaces command hcommand
    have hformed := wellFormed_of_label h hlabel command hcommand
    rw [hplace]
    exact ⟨rfl, rfl, hformed⟩
  · intro session hprogram start turns run label index targets hrun hpoint
    obtain ⟨options, place, hcommand, rfl⟩ := Session.mem_commands_of_choosing hrun hpoint
    have hmem : .choice options place ∈ program.commands label := hprogram ▸ hcommand
    obtain ⟨found, hfound, hchoice⟩ := exists_label_of_mem_commands hmem
    have hformed := wellFormed_of_label h hfound _ hchoice
    have hcount : 0 < (options.map (·.target)).length := by
      rw [List.length_map]
      exact List.length_pos_iff.2 hformed.1
    exact ⟨0, hcount, by rw [Run.firstChoice, if_pos hcount]⟩

/-- A sheet that declares its columns twice and has a choice under the second header. -/
def crossroads : Dict String :=
  Dict.empty.insert "intro"
    "Command,Arg1,Text\nLabel, Start ,\nText,Command,Arg1\n on ,Choice, End\n"

/-- The program of that sheet. -/
def crossroadsProgram : Program :=
  ⟨Dict.empty.insert "Start" ⟨"Start", "intro", [.choice [⟨"on", "End"⟩] (.row "intro" 4)]⟩⟩

/-- A player of that program. -/
def crossroadsSession : Session := .new (.new crossroadsProgram .empty) "Start" .ready []

/-- The player comes to wait at the choice, and has an option to take. -/
theorem crossroads_wellFormed :
    (compile .builtin {} crossroads).result = .ok crossroadsProgram ∧
    (∀ label, crossroadsProgram.label? "Start" = some label →
      ∀ command ∈ label.commands, command.place.column = none ∧ command.WellFormed) ∧
    ((crossroadsSession.create none).after [.step, .step, .step, .step]).run =
      some ⟨"Start", .choosing "Start" 0 ["End"]⟩ ∧
    ∃ i < 1, Run.firstChoice 1 [.choose i] = (some i, []) := by
  have hcompiled : (compile .builtin {} crossroads).result = .ok crossroadsProgram := by
    with_unfolding_all rfl
  have hrun : ((crossroadsSession.create none).after [.step, .step, .step, .step]).run =
      some ⟨"Start", .choosing "Start" 0 ["End"]⟩ := by
    with_unfolding_all rfl
  obtain ⟨hlabels, hwaits⟩ := compiled_is_wellFormed hcompiled
  refine ⟨hcompiled, fun label hlabel command hcommand => ?_, hrun, ?_⟩
  · obtain ⟨-, -, -, hcommands⟩ := hlabels "Start" label hlabel
    exact (hcommands command hcommand).2
  · exact hwaits crossroadsSession rfl none _ _ _ _ _ hrun rfl

end Program

end Storyboard
