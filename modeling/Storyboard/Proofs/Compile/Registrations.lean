import Storyboard.Proofs.Compile.Building
import Storyboard.Proofs.Compile.Order

/-!
# The registrations that a sheet can reach

Builders are registered under any opcodes, but a row does not ask for all of them. The opcode of a
row is trimmed, a row with the label marker opens a label, and a row without an opcode is a line of
narration or a fault; only the opcodes that are left are looked up (`Options.Asks`). So factories
that have the same builders under these opcodes compile all sheets alike, whatever else was
registered in them and in whatever order (`Program.only_reachable_registrations_matter`).

That two factories agree is handed on from the smallest step to the largest: from one entry to a
row, to the rows of a grid, and to all grids (`Factory.Agree.entry` to `Factory.Agree.compile`).
-/

namespace Storyboard

/-- The opcodes that are looked up: trimmed, not empty and not the label marker. -/
def Options.Asks (options : Options) (opcode : String) : Prop :=
  Text.IsTidy opcode ∧ opcode ≠ options.labelMarker

/-! ### Registered builders -/

namespace Factory

/-- The factory after builders were registered, one after another. -/
def registered (registrations : List (String × Builder)) : Factory :=
  registrations.foldl (fun factory registration =>
    factory.register registration.1 registration.2) empty

/-- The builder that was registered last under an opcode. -/
def lastBuilder? (registrations : List (String × Builder)) (opcode : String) : Option Builder :=
  (registrations.reverse.find? (·.1 = opcode)).map (·.2)

/-- **A factory keeps the builders that were registered last.** -/
theorem find?_registered (registrations : List (String × Builder)) (opcode : String) :
    (registered registrations).builders.find? opcode = lastBuilder? registrations opcode := by
  have hbuilders : (registered registrations).builders = Dict.ofList registrations :=
    (List.foldl_hom Factory.builders fun _ _ => rfl).symm
  rw [hbuilders]
  exact Dict.find?_ofList registrations opcode

/-- A registration is of no account for other opcodes, wherever it comes. -/
theorem lastBuilder?_of_ne (before after : List (String × Builder)) {opcode other : String}
    (builder : Builder) (h : opcode ≠ other) :
    lastBuilder? (before ++ (opcode, builder) :: after) other =
      lastBuilder? (before ++ after) other := by
  have hskip : ([(opcode, builder)].find? fun registration => registration.1 = other) = none :=
    List.find?_eq_none.2 fun registration hmem => by
      rw [List.mem_singleton.1 hmem]
      simpa using h
  simp only [lastBuilder?, List.reverse_append, List.reverse_cons, List.find?_append, hskip,
    Option.or_none]

/-! ### Factories that agree -/

/-- Two factories have the same builders under the opcodes that are looked up. -/
def Agree (options : Options) (factory other : Factory) : Prop :=
  ∀ opcode, options.Asks opcode → factory.builders.find? opcode = other.builders.find? opcode

/-- Without an opcode nothing is looked up. -/
theorem build_empty (factory : Factory) (entry : Entry) :
    factory.build "" entry =
      if Text.isBlankText entry.text then .error (.opcodeMissing entry.place)
      else Builder.text entry :=
  if_pos rfl

namespace Agree

variable {options : Options} {factory other : Factory} (h : Agree options factory other)
include h

/-- A command is built alike: its opcode is empty, or one that is looked up. -/
theorem build {entry : Entry} (hcommand : entry.opcode ≠ options.labelMarker) :
    factory.build entry.opcode entry = other.build entry.opcode entry := by
  by_cases hopcode : entry.opcode = ""
  · rw [hopcode, build_empty, build_empty]
  · have hasks : options.Asks entry.opcode := ⟨⟨hopcode, Text.trim_trim _⟩, hcommand⟩
    rw [Factory.build, if_neg hopcode, h _ hasks, Factory.build, if_neg hopcode]

theorem entry {entry : Entry} (hoptions : entry.options = options) (pass : Pass) :
    pass.entry factory entry = pass.entry other entry := by
  unfold Pass.entry
  rw [hoptions]
  by_cases hlabel : entry.opcode = options.labelMarker
  · rw [if_pos hlabel, if_pos hlabel]
  · rw [if_neg hlabel, if_neg hlabel, h.build hlabel]

theorem row (grid : String) (pass : Pass) (row : Row) :
    pass.row factory options grid row = pass.row other options grid row := by
  unfold Pass.row
  cases pass.header with
  | none => rfl
  | some header =>
    dsimp only
    rw [h.entry rfl]

/-- **The rows of a grid** go alike. -/
theorem rows (grid : String) (pass : Pass) (rows : List Row) :
    pass.rows factory options grid rows = pass.rows other options grid rows := by
  induction rows generalizing pass with
  | nil => rfl
  | cons row rest ih =>
    rw [Pass.rows, Pass.rows, h.row]
    cases pass.row other options grid row with
    | error fault => rfl
    | ok next => exact ih next

theorem addGrid (program : Program) (grid : Grid) :
    program.addGrid factory options grid = program.addGrid other options grid := by
  unfold Program.addGrid
  rw [h.rows]

theorem addGrids (program : Program) (grids : List Grid) :
    Program.addGrids factory options program grids =
      Program.addGrids other options program grids := by
  induction grids generalizing program with
  | nil => rfl
  | cons grid rest ih =>
    rw [Program.addGrids, Program.addGrids, h.addGrid]
    dsimp only
    rw [ih]

/-- **Factories that agree compile all sheets alike.** -/
theorem compile (sources : Dict String) :
    Program.compile factory options sources = Program.compile other options sources :=
  h.addGrids .empty _

end Agree

theorem agree_registered {options : Options} {registrations others : List (String × Builder)}
    (h : ∀ opcode, options.Asks opcode →
      lastBuilder? registrations opcode = lastBuilder? others opcode) :
    Agree options (registered registrations) (registered others) := by
  intro opcode hasks
  rw [find?_registered, find?_registered, h opcode hasks]

end Factory

/-! ### Rows without an opcode -/

namespace Entry

variable {factory : Factory} {entry : Entry} {entries : List Entry}

/-- **A row without an opcode but with a text is a line of narration** for every factory, unless the
empty word opens labels. -/
theorem build_narration (hmarker : entry.options.labelMarker ≠ "") (hopcode : entry.opcode = "")
    (htext : Text.isBlankText entry.text = false) :
    entry.isLabel = false ∧ entry.build factory = .ok (.text entry.text entry.place) := by
  constructor
  · rw [isLabel, hopcode]
    exact decide_eq_false hmarker.symm
  · rw [Entry.build, hopcode, Factory.build_empty, htext]
    rfl

/-- A command is in the segment of the nearest label above it. -/
theorem exists_segment_of_mem {program : Program} (h : Compilable factory program entries)
    (hmem : entry ∈ entries) (hcommand : entry.isLabel = false) :
    ∃ above label below, entries = above ++ label :: below ∧ label.isLabel = true ∧
      entry ∈ segment below := by
  obtain ⟨front, back, hsplit⟩ := List.append_of_mem hmem
  obtain ⟨first, hfirst, hopens⟩ := h.labelled front entry back hsplit hcommand
  -- The last label of those above is the first one upwards.
  obtain ⟨label, hlabel⟩ := Option.isSome_iff_exists.1
    (List.find?_isSome.2 ⟨first, List.mem_reverse.2 hfirst, hopens⟩)
  obtain ⟨hopens, between, above, hfront, hbetween⟩ := List.find?_eq_some_iff_append.1 hlabel
  have hcut : front = above.reverse ++ label :: between.reverse := by
    rw [← List.reverse_reverse front, hfront, List.reverse_append, List.reverse_cons,
      List.append_assoc]
    rfl
  refine ⟨above.reverse, label, between.reverse ++ entry :: back, ?_, hopens, ?_⟩
  · rw [hsplit, hcut, List.append_assoc]
    rfl
  · have hskip : ∀ other ∈ between.reverse, (!other.isLabel) = true :=
      fun other hother => hbetween other (List.mem_reverse.1 hother)
    rw [segment, List.takeWhile_append_of_pos hskip,
      List.takeWhile_cons_of_pos (by simp [hcommand])]
    exact List.mem_append_right _ List.mem_cons_self

end Entry

namespace Program

variable {factory : Factory} {options : Options} {sources : Dict String} {program : Program}

/-- **A compiled program has the segments of each grid.** -/
theorem commands_of_segment (h : (compile factory options sources).result = .ok program)
    {name source : String} (hsource : sources.find? name = some source) :
    Entry.Compilable factory empty ((Grid.parse name source).entries options) ∧
      ∀ above label below, (Grid.parse name source).entries options = above ++ label :: below →
        label.isLabel = true →
        (Entry.segment below).map (Entry.build factory) =
          (program.commands (label.arg 1)).map .ok := by
  have hgrid : Grid.parse name source ∈
      sources.entries.map fun source => Grid.parse source.1 source.2 :=
    List.mem_map_of_mem (f := fun source : String × String => Grid.parse source.1 source.2)
      ((sources.mem_entries_iff name source).2 hsource)
  -- What the grid compiles to alone is part of the whole program.
  have halone := ((exists_addGrids_iff empty _).1 ⟨program, h⟩).alone _ hgrid
  have hresult := (GridReport.result_eq_ok_iff _ _).2 ⟨halone, rfl⟩
  obtain ⟨hiff, hsegmented⟩ := addGrid_spec factory options empty (Grid.parse name source)
  refine ⟨hiff.1 ⟨_, hresult⟩, fun above label below hsplit hopens => ?_⟩
  obtain ⟨commands, hbuilt, hlabel⟩ :=
    (hsegmented _ hresult).segment above label below hsplit hopens
  have hfound := (label?_addGrids h (label.arg 1) _).2 (.inr ⟨_, hgrid, hlabel⟩)
  rw [hbuilt, Program.commands, hfound]

/-- A line of narration is in the program, in the label above it. -/
def Narrates (program : Program) (entries : List Entry) (entry : Entry) : Prop :=
  ∃ above label below, entries = above ++ label :: below ∧ label.isLabel = true ∧
    entry ∈ Entry.segment below ∧
    .text entry.text entry.place ∈ program.commands (label.arg 1)

theorem narrates_of_build (h : (compile factory options sources).result = .ok program)
    {name source : String} (hsource : sources.find? name = some source) {entry : Entry}
    (hmem : entry ∈ (Grid.parse name source).entries options) (hcommand : entry.isLabel = false)
    (hbuild : entry.build factory = .ok (.text entry.text entry.place)) :
    program.Narrates ((Grid.parse name source).entries options) entry := by
  obtain ⟨hcompilable, hsegments⟩ := commands_of_segment h hsource
  obtain ⟨above, label, below, hsplit, hopens, hsegment⟩ :=
    Entry.exists_segment_of_mem hcompilable hmem hcommand
  refine ⟨above, label, below, hsplit, hopens, hsegment, ?_⟩
  have hbuilt := List.mem_map_of_mem (f := Entry.build factory) hsegment
  rw [hsegments above label below hsplit hopens, hbuild] at hbuilt
  obtain ⟨command, hcommand, heq⟩ := List.mem_map.1 hbuilt
  rwa [← Except.ok.inj heq]

/-- **Only registrations that a sheet can reach matter.** Two factories compile all sheets alike,
faults and notices included, if the last builders that were registered in them agree under the
opcodes that are looked up. So a registration under the empty opcode, under one with blanks around
it or under the label marker changes nothing, wherever it comes among the others. And unless the
label marker is empty, a row without an opcode but with a text is a line of narration, whatever is
registered, and is found as such in the program. -/
theorem only_reachable_registrations_matter (options : Options) (sources : Dict String) :
    (∀ registrations others : List (String × Builder),
      (∀ opcode, options.Asks opcode →
        Factory.lastBuilder? registrations opcode = Factory.lastBuilder? others opcode) →
      compile (.registered registrations) options sources =
        compile (.registered others) options sources) ∧
    (∀ (before after : List (String × Builder)) (opcode : String) (builder : Builder),
      opcode = "" ∨ Text.trim opcode ≠ opcode ∨ opcode = options.labelMarker →
      compile (.registered (before ++ (opcode, builder) :: after)) options sources =
        compile (.registered (before ++ after)) options sources) ∧
    (options.labelMarker ≠ "" → ∀ (registrations : List (String × Builder)) (name source : String),
      sources.find? name = some source →
      ∀ entry ∈ (Grid.parse name source).entries options,
        entry.opcode = "" → Text.isBlankText entry.text = false →
        entry.isLabel = false ∧
        entry.build (.registered registrations) = .ok (.text entry.text entry.place) ∧
        ∀ program, (compile (.registered registrations) options sources).result = .ok program →
          program.Narrates ((Grid.parse name source).entries options) entry) := by
  refine ⟨fun registrations others h => (Factory.agree_registered h).compile sources,
    fun before after opcode builder hunasked => ?_, ?_⟩
  · refine (Factory.agree_registered fun other hasks => ?_).compile sources
    apply Factory.lastBuilder?_of_ne
    rintro rfl
    -- An opcode that is looked up is trimmed, not empty and not the label marker.
    obtain ⟨⟨hne, htrim⟩, hlabel⟩ := hasks
    rcases hunasked with hempty | huntrimmed | hmarker
    · exact hne hempty
    · exact huntrimmed htrim
    · exact hlabel hmarker
  · intro hmarker registrations name source hsource entry hmem hopcode htext
    rw [← Grid.options_of_mem_entries hmem] at hmarker
    obtain ⟨hcommand, hbuild⟩ := Entry.build_narration hmarker hopcode htext
    exact ⟨hcommand, hbuild, fun program h => narrates_of_build h hsource hmem hcommand hbuild⟩

/-- A sheet with a row that has no opcode, above one with an opcode of its own. -/
def asides : Dict String :=
  Dict.empty.insert "intro" "Command,Arg1,Text\nLabel,Start,\n,,Once\nShout,,Hey\n"

/-- Registrations of which two are looked up. -/
def asideBuilders : List (String × Builder) :=
  [("Shout", .aside), ("", .refuse), (" Shout ", .refuse), ("Label", .refuse), ("Text", .refuse)]

/-- Other registrations, with the same last builders for the opcodes that are looked up. -/
def otherBuilders : List (String × Builder) :=
  [("Text", .aside), ("Shout", .refuse), ("Shout", .aside), ("Text", .refuse)]

/-- The program of that sheet. -/
def asidesProgram : Program :=
  ⟨Dict.empty.insert "Start"
    ⟨"Start", "intro", [.text "Once" (.row "intro" 3), .text "(Hey)" (.row "intro" 4)]⟩⟩

theorem asides_compile_alike :
    (∀ opcode, Options.Asks {} opcode →
      Factory.lastBuilder? asideBuilders opcode = Factory.lastBuilder? otherBuilders opcode) ∧
    (compile (.registered asideBuilders) {} asides).result = .ok asidesProgram ∧
    (compile (.registered otherBuilders) {} asides).result = .ok asidesProgram ∧
    (compile (.registered []) {} asides).result =
      .error (.opcodeUnknown "Shout" (.row "intro" 4)) := by
  have hagree : ∀ opcode, Options.Asks {} opcode →
      Factory.lastBuilder? asideBuilders opcode = Factory.lastBuilder? otherBuilders opcode := by
    rintro opcode ⟨⟨hne, htrim⟩, hlabel⟩
    have hblank : opcode ≠ " Shout " := by
      rintro rfl
      exact absurd htrim (by decide)
    have hshort : ∀ {word}, opcode ≠ word → decide (word = opcode) = false :=
      fun h => decide_eq_false h.symm
    by_cases htext : opcode = "Text"
    · subst htext
      rfl
    by_cases hshout : opcode = "Shout"
    · subst hshout
      rfl
    simp only [Factory.lastBuilder?, asideBuilders, otherBuilders, List.reverse_cons,
      List.reverse_nil, List.nil_append, List.cons_append, List.find?_cons, List.find?_nil,
      hshort hne, hshort hlabel, hshort hblank, hshort htext, hshort hshout, Option.map_none]
  have hcompiled : (compile (.registered asideBuilders) {} asides).result = .ok asidesProgram := by
    with_unfolding_all rfl
  have hunknown : (compile (.registered []) {} asides).result =
      .error (.opcodeUnknown "Shout" (.row "intro" 4)) := by
    with_unfolding_all rfl
  obtain ⟨hsame, -, -⟩ := only_reachable_registrations_matter {} asides
  refine ⟨hagree, hcompiled, ?_, hunknown⟩
  rw [← hsame asideBuilders otherBuilders hagree, hcompiled]

end Program

end Storyboard
