import Storyboard.Proofs.Compile.Entries

/-!
# A grid compiles to its segments

An entry of a grid opens a label or holds a command. The labels cut the entries into segments, and
compiling a grid adds each label with the commands of its segment to the program: this succeeds
exactly when each label has a name of its own, each command can be built, and each command is below
a label (`Program.addGrid_segments`).

The compiler keeps the label of the current segment open and adds it when the next segment begins.
So both halves of the proof go through the entries with an open label before them: when they can be
compiled (`Entry.Continues`), and what the program has under each name afterwards.
-/

namespace Storyboard

namespace Entry

/-- Whether the entry opens a label. -/
def isLabel (entry : Entry) : Bool := decide (entry.opcode = entry.options.labelMarker)

/-- The command that a factory builds for the entry. -/
def build (factory : Factory) (entry : Entry) : Except Fault Command :=
  factory.build entry.opcode entry

/-- The names of the labels that entries open, in order. -/
def labelNames (entries : List Entry) : List String := (entries.filter isLabel).map (·.arg 1)

/-- The entries of a segment: those before the next label. -/
def segment (entries : List Entry) : List Entry := entries.takeWhile (!·.isLabel)

/-- The entries can be compiled into the program. -/
structure Compilable (factory : Factory) (program : Program) (entries : List Entry) : Prop where
  /-- Each label has a name. -/
  named : ∀ entry ∈ entries, entry.isLabel = true → entry.arg 1 ≠ ""
  /-- Each command can be built. -/
  built : ∀ entry ∈ entries, entry.isLabel = false → ∃ command, entry.build factory = .ok command
  /-- Each command is below a label. -/
  labelled : ∀ above entry below, entries = above ++ entry :: below → entry.isLabel = false →
    ∃ label ∈ above, label.isLabel = true
  /-- No two labels have the same name. -/
  distinct : (labelNames entries).Nodup
  /-- No label has a name that is in the program. -/
  fresh : ∀ name ∈ labelNames entries, program.label? name = none

/-- The program `after` is `program` with the segments of entries added. -/
structure Segmented (factory : Factory) (grid : String) (entries : List Entry)
    (program after : Program) : Prop where
  /-- Each label has the commands of its segment. -/
  segment : ∀ above label below, entries = above ++ label :: below → label.isLabel = true →
    ∃ commands, (segment below).map (build factory) = commands.map .ok ∧
      after.label? (label.arg 1) = some ⟨label.arg 1, grid, commands⟩
  /-- All other names are as before. -/
  other : ∀ name, name ∉ labelNames entries → after.label? name = program.label? name

/-! ### Lists of entries -/

section

variable {entry : Entry} {rest : List Entry}

theorem labelNames_cons_label (h : entry.isLabel = true) :
    labelNames (entry :: rest) = entry.arg 1 :: labelNames rest := by
  simp [labelNames, h]

theorem labelNames_cons_command (h : entry.isLabel = false) :
    labelNames (entry :: rest) = labelNames rest := by
  simp [labelNames, h]

theorem segment_cons_label (h : entry.isLabel = true) : segment (entry :: rest) = [] := by
  simp [segment, h]

theorem segment_cons_command (h : entry.isLabel = false) :
    segment (entry :: rest) = entry :: segment rest := by
  simp [segment, h]

/-- What holds of each entry and those below it. -/
theorem forall_split_cons {P : Entry → List Entry → Prop} :
    (∀ above other below, entry :: rest = above ++ other :: below → P other below) ↔
      P entry rest ∧ ∀ above other below, rest = above ++ other :: below → P other below := by
  constructor
  · intro h
    exact ⟨h [] entry rest rfl, fun above other below hsplit =>
      h (entry :: above) other below (congrArg (entry :: ·) hsplit)⟩
  · rintro ⟨hfirst, hrest⟩ above other below hsplit
    cases above with
    | nil =>
      obtain ⟨rfl, rfl⟩ := List.cons.inj hsplit
      exact hfirst
    | cons first above => exact hrest above other below (List.cons.inj hsplit).2

end

end Entry

/-! ### Adding labels -/

namespace Program

theorem add_eq_ok_iff {program after : Program} {label : Label} {place : Location} :
    program.add label place = .ok after ↔
      program.label? label.name = none ∧ after = ⟨program.labels.insert label.name label⟩ := by
  unfold add
  cases program.label? label.name with
  | some existing => simp
  | none => simp [eq_comm]

theorem label?_insert (program : Program) (label : Label) (name : String) :
    label? ⟨program.labels.insert label.name label⟩ name =
      if name = label.name then some label else program.label? name :=
  Dict.find?_insert _ _ _ _

section

variable (factory : Factory) (opened : OpenLabel) (program : Program) {entry : Entry}
  (rest : List Entry)

theorem addEntries_label (h : entry.isLabel = true) (after : Program) :
    addEntries factory (some opened) program (entry :: rest) = .ok after ↔
      entry.arg 1 ≠ "" ∧ program.label? opened.label.name = none ∧
        addEntries factory (some ⟨⟨entry.arg 1, entry.place.grid, []⟩, entry.place⟩)
          ⟨program.labels.insert opened.label.name opened.label⟩ rest = .ok after := by
  rw [addEntries, Pass.entry, if_pos (of_decide_eq_true h), Pass.openLabel]
  by_cases hname : entry.arg 1 = ""
  · simp [hname]
  · simp only [if_neg hname, Pass.close, add]
    cases program.label? opened.label.name <;> simp [hname]

theorem addEntries_command (h : entry.isLabel = false) (after : Program) :
    addEntries factory (some opened) program (entry :: rest) = .ok after ↔
      ∃ command, entry.build factory = .ok command ∧
        addEntries factory
          (some { opened with label.commands := opened.label.commands ++ [command] })
          program rest = .ok after := by
  rw [addEntries, Pass.entry, if_neg (of_decide_eq_false h), Entry.build]
  cases factory.build entry.opcode entry <;> simp [Pass.addCommand]

/-- Without an open label there has to be a label first. -/
theorem addEntries_none (after : Program) :
    addEntries factory none program (entry :: rest) = .ok after ↔
      entry.isLabel = true ∧ entry.arg 1 ≠ "" ∧
        addEntries factory (some ⟨⟨entry.arg 1, entry.place.grid, []⟩, entry.place⟩) program
          rest = .ok after := by
  rw [addEntries, Pass.entry]
  by_cases h : entry.opcode = entry.options.labelMarker
  · rw [if_pos h, Pass.openLabel]
    by_cases hname : entry.arg 1 = "" <;> simp [Entry.isLabel, h, hname, Pass.close]
  · rw [if_neg h]
    cases factory.build entry.opcode entry <;> simp [Entry.isLabel, h, Pass.addCommand]

end

end Program

/-! ### When entries can be compiled -/

namespace Entry

/-- The entries can be compiled into the program behind an open label of the given name. -/
structure Continues (factory : Factory) (program : Program) (name : String)
    (entries : List Entry) : Prop where
  /-- Each label has a name. -/
  named : ∀ entry ∈ entries, entry.isLabel = true → entry.arg 1 ≠ ""
  /-- Each command can be built. -/
  built : ∀ entry ∈ entries, entry.isLabel = false → ∃ command, entry.build factory = .ok command
  /-- No two labels have the same name. -/
  distinct : (name :: labelNames entries).Nodup
  /-- No label has a name that is in the program. -/
  fresh : ∀ other ∈ name :: labelNames entries, program.label? other = none

section

variable {factory : Factory} {program : Program} {name : String} {entry : Entry}
  {rest : List Entry}

theorem continues_nil : Continues factory program name [] ↔ program.label? name = none :=
  ⟨fun h => h.fresh name List.mem_cons_self,
    fun h => ⟨nofun, nofun, by simp [labelNames], by simpa [labelNames] using h⟩⟩

theorem continues_command (h : entry.isLabel = false) :
    Continues factory program name (entry :: rest) ↔
      (∃ command, entry.build factory = .ok command) ∧ Continues factory program name rest := by
  constructor
  · rintro ⟨hnamed, hbuilt, hdistinct, hfresh⟩
    rw [labelNames_cons_command h] at hdistinct hfresh
    obtain ⟨-, hnamed⟩ := List.forall_mem_cons.1 hnamed
    obtain ⟨hentry, hbuilt⟩ := List.forall_mem_cons.1 hbuilt
    exact ⟨hentry h, hnamed, hbuilt, hdistinct, hfresh⟩
  · rintro ⟨hentry, hnamed, hbuilt, hdistinct, hfresh⟩
    refine ⟨List.forall_mem_cons.2 ⟨fun hlabel => ?_, hnamed⟩,
      List.forall_mem_cons.2 ⟨fun _ => hentry, hbuilt⟩, ?_, ?_⟩
    · cases h.symm.trans hlabel
    · rwa [labelNames_cons_command h]
    · rwa [labelNames_cons_command h]

theorem fresh_insert_iff (label : Label) (names : List String) :
    (∀ other ∈ names, Program.label? ⟨program.labels.insert label.name label⟩ other = none) ↔
      label.name ∉ names ∧ ∀ other ∈ names, program.label? other = none := by
  simp only [Program.label?_insert]
  grind

/-- Behind a label, the label before it is in the program. -/
theorem continues_label (h : entry.isLabel = true) (label : Label) :
    Continues factory program label.name (entry :: rest) ↔
      entry.arg 1 ≠ "" ∧ program.label? label.name = none ∧
        Continues factory ⟨program.labels.insert label.name label⟩ (entry.arg 1) rest := by
  constructor
  · rintro ⟨hnamed, hbuilt, hdistinct, hfresh⟩
    rw [labelNames_cons_label h] at hdistinct hfresh
    obtain ⟨hname, hnamed⟩ := List.forall_mem_cons.1 hnamed
    obtain ⟨-, hbuilt⟩ := List.forall_mem_cons.1 hbuilt
    obtain ⟨hfirst, hdistinct⟩ := List.nodup_cons.1 hdistinct
    obtain ⟨hnone, hfresh⟩ := List.forall_mem_cons.1 hfresh
    exact ⟨hname h, hnone, hnamed, hbuilt, hdistinct, (fresh_insert_iff _ _).2 ⟨hfirst, hfresh⟩⟩
  · rintro ⟨hname, hnone, hnamed, hbuilt, hdistinct, hfresh⟩
    obtain ⟨hfirst, hfresh⟩ := (fresh_insert_iff _ _).1 hfresh
    refine ⟨List.forall_mem_cons.2 ⟨fun _ => hname, hnamed⟩,
      List.forall_mem_cons.2 ⟨fun hcommand => ?_, hbuilt⟩, ?_, ?_⟩
    · cases h.symm.trans hcommand
    · rw [labelNames_cons_label h]
      exact List.nodup_cons.2 ⟨hfirst, hdistinct⟩
    · rw [labelNames_cons_label h]
      exact List.forall_mem_cons.2 ⟨hnone, hfresh⟩

/-- The first entry that can be compiled is a label, and the others can be compiled behind it. -/
theorem compilable_cons :
    Compilable factory program (entry :: rest) ↔
      entry.isLabel = true ∧ entry.arg 1 ≠ "" ∧ Continues factory program (entry.arg 1) rest := by
  constructor
  · rintro ⟨hnamed, hbuilt, hlabelled, hdistinct, hfresh⟩
    -- A command in front would have no label above it.
    have h : entry.isLabel = true := by
      cases h : entry.isLabel with
      | true => rfl
      | false =>
        obtain ⟨label, hlabel, -⟩ := hlabelled [] entry rest rfl h
        cases hlabel
    rw [labelNames_cons_label h] at hdistinct hfresh
    obtain ⟨hname, hnamed⟩ := List.forall_mem_cons.1 hnamed
    obtain ⟨-, hbuilt⟩ := List.forall_mem_cons.1 hbuilt
    exact ⟨h, hname h, hnamed, hbuilt, hdistinct, hfresh⟩
  · rintro ⟨h, hname, hnamed, hbuilt, hdistinct, hfresh⟩
    refine ⟨List.forall_mem_cons.2 ⟨fun _ => hname, hnamed⟩,
      List.forall_mem_cons.2 ⟨fun hcommand => ?_, hbuilt⟩, fun above e below hsplit hcommand => ?_,
      ?_, ?_⟩
    · cases h.symm.trans hcommand
    · cases above with
      | nil =>
        obtain ⟨rfl, -⟩ := List.cons.inj hsplit
        cases h.symm.trans hcommand
      | cons first above =>
        obtain ⟨rfl, -⟩ := List.cons.inj hsplit
        exact ⟨entry, List.mem_cons_self, h⟩
    · rwa [labelNames_cons_label h]
    · rwa [labelNames_cons_label h]

end

end Entry

namespace Program

/-- **Entries behind an open label compile exactly when they can be compiled.** -/
theorem exists_addEntries_iff (factory : Factory) (entries : List Entry) (opened : OpenLabel)
    (program : Program) :
    (∃ after, addEntries factory (some opened) program entries = .ok after) ↔
      Entry.Continues factory program opened.label.name entries := by
  induction entries generalizing opened program with
  | nil =>
    rw [Entry.continues_nil]
    simp [addEntries, Pass.close, add_eq_ok_iff]
  | cons entry rest ih =>
    cases h : entry.isLabel with
    | true =>
      -- The open label is added and the new one is open, with a larger program.
      simp only [addEntries_label factory opened program rest h, exists_and_left, ih]
      rw [Entry.continues_label h]
    | false =>
      -- The open label goes on with one more command, under the same name.
      simp only [addEntries_command factory opened program rest h]
      rw [Entry.continues_command h]
      constructor
      · rintro ⟨after, command, hcommand, hafter⟩
        have hcontinues := (ih _ _).1 ⟨after, hafter⟩
        exact ⟨⟨command, hcommand⟩, hcontinues⟩
      · rintro ⟨⟨command, hcommand⟩, hcontinues⟩
        obtain ⟨after, hafter⟩ := (ih
          { opened with label.commands := opened.label.commands ++ [command] } program).2 hcontinues
        exact ⟨after, command, hcommand, hafter⟩

/-! ### What entries compile to -/

/-- What the program has after entries behind an open label: the open label with the commands of
the segment in front, the segments behind it, and all other names as before. -/
theorem label?_addEntries (factory : Factory) (grid : String) (entries : List Entry)
    (hgrid : ∀ entry ∈ entries, entry.place.grid = grid) (opened : OpenLabel)
    (program after : Program)
    (h : addEntries factory (some opened) program entries = .ok after) :
    (∃ commands, (Entry.segment entries).map (Entry.build factory) = commands.map .ok ∧
      after.label? opened.label.name =
        some { opened.label with commands := opened.label.commands ++ commands }) ∧
    (∀ above label below, entries = above ++ label :: below → label.isLabel = true →
      ∃ commands, (Entry.segment below).map (Entry.build factory) = commands.map .ok ∧
        after.label? (label.arg 1) = some ⟨label.arg 1, grid, commands⟩) ∧
    (∀ name, name ∉ opened.label.name :: Entry.labelNames entries →
      after.label? name = program.label? name) := by
  have hcontinues := (exists_addEntries_iff factory entries opened program).1 ⟨after, h⟩
  induction entries generalizing opened program with
  | nil =>
    -- At the end the open label is added as it is.
    obtain ⟨hnone, rfl⟩ := add_eq_ok_iff.1 h
    refine ⟨⟨[], rfl, ?_⟩, fun above label below hsplit => ?_, fun name hname => ?_⟩
    · rw [label?_insert, if_pos rfl, List.append_nil]
    · cases above <;> cases hsplit
    · obtain ⟨hfirst, -⟩ := not_or.1 (mt List.mem_cons.2 hname)
      rw [label?_insert, if_neg hfirst]
  | cons entry rest ih =>
    obtain ⟨hentry, hrest⟩ := List.forall_mem_cons.1 hgrid
    cases hlabel : entry.isLabel with
    | true =>
      obtain ⟨-, -, hadd⟩ := (addEntries_label factory opened program rest hlabel after).1 h
      obtain ⟨-, -, hnext⟩ := (Entry.continues_label hlabel opened.label).1 hcontinues
      obtain ⟨hcurrent, hlater, hother⟩ := ih hrest _ _ hadd hnext
      have hdistinct := hcontinues.distinct
      rw [Entry.labelNames_cons_label hlabel] at hdistinct ⊢
      refine ⟨⟨[], by rw [Entry.segment_cons_label hlabel]; rfl, ?_⟩, ?_, fun name hname => ?_⟩
      -- The open label is added here, and stays because no later label has its name.
      · rw [hother _ (List.nodup_cons.1 hdistinct).1, label?_insert, if_pos rfl, List.append_nil]
      · subst hentry
        exact Entry.forall_split_cons.2 ⟨fun _ => hcurrent, hlater⟩
      · obtain ⟨hfirst, hname⟩ := not_or.1 (mt List.mem_cons.2 hname)
        rw [hother name hname, label?_insert, if_neg hfirst]
    | false =>
      obtain ⟨command, hcommand, hadd⟩ :=
        (addEntries_command factory opened program rest hlabel after).1 h
      obtain ⟨-, hnext⟩ := (Entry.continues_command hlabel).1 hcontinues
      -- The command stands in front of those that the rest of the segment adds.
      obtain ⟨⟨commands, hbuilt, hcurrent⟩, hlater, hother⟩ := ih hrest _ _ hadd hnext
      rw [Entry.labelNames_cons_command hlabel, Entry.segment_cons_command hlabel]
      refine ⟨⟨command :: commands, ?_, ?_⟩, ?_, hother⟩
      · rw [List.map_cons, List.map_cons, hcommand, hbuilt]
      · rw [hcurrent, List.append_assoc, List.singleton_append]
      · refine Entry.forall_split_cons.2 ⟨fun hlabel' => ?_, hlater⟩
        cases hlabel.symm.trans hlabel'

/-- Entries compile exactly when they can be compiled, and then to their segments. -/
theorem addEntries_spec (factory : Factory) (grid : String) (entries : List Entry)
    (hgrid : ∀ entry ∈ entries, entry.place.grid = grid) (program : Program) :
    ((∃ after, addEntries factory none program entries = .ok after) ↔
      Entry.Compilable factory program entries) ∧
    ∀ after, addEntries factory none program entries = .ok after →
      Entry.Segmented factory grid entries program after := by
  cases entries with
  | nil =>
    refine ⟨iff_of_true ⟨program, rfl⟩ ⟨nofun, nofun, ?_, List.nodup_nil, nofun⟩, ?_⟩
    · intro above entry below hsplit
      cases above <;> cases hsplit
    · intro after h
      cases h
      refine ⟨fun above label below hsplit => ?_, fun name _ => rfl⟩
      cases above <;> cases hsplit
  | cons entry rest =>
    obtain ⟨hentry, hrest⟩ := List.forall_mem_cons.1 hgrid
    constructor
    · simp only [addEntries_none, exists_and_left, exists_addEntries_iff, Entry.compilable_cons]
    · intro after h
      obtain ⟨hlabel, -, hadd⟩ := (addEntries_none factory program rest after).1 h
      obtain ⟨hcurrent, hlater, hother⟩ := label?_addEntries factory grid rest hrest _ _ _ hadd
      refine ⟨?_, fun name hname => ?_⟩
      · subst hentry
        exact Entry.forall_split_cons.2 ⟨fun _ => hcurrent, hlater⟩
      · rw [Entry.labelNames_cons_label hlabel] at hname
        exact hother name hname

/-- **A grid compiles exactly when its entries can be compiled, and then the program has the
segments of the grid added to it**: each label has the commands of the rows down to the next label,
in order, and all other names are as before. -/
theorem addGrid_segments (factory : Factory) (options : Options) (program : Program)
    (grid : Grid) :
    let report := program.addGrid factory options grid
    (report.fault = none ↔ Entry.Compilable factory program (grid.entries options)) ∧
    (report.fault = none →
      Entry.Segmented factory grid.name (grid.entries options) program report.program) := by
  intro report
  have hresult := addGrid_result factory options program grid
  have hok : ∀ after, report.result = .ok after ↔ report.fault = none ∧ report.program = after := by
    intro after
    unfold GridReport.result
    cases report.fault <;> simp
  obtain ⟨hiff, hsegments⟩ := addEntries_spec factory grid.name (grid.entries options)
    (fun entry hentry => Grid.place_of_mem_entries hentry) program
  rw [← hresult] at hiff hsegments
  constructor
  · rw [← hiff]
    simp only [report, hok, exists_and_left, exists_eq', and_true]
  · exact fun h => hsegments _ ((hok _).2 ⟨h, rfl⟩)

end Program

end Storyboard
