import Storyboard.Proofs.Compile.Flaws

/-!
# What a grid leaves that breaks off

A fault ends the compilation of a grid, and what was done before is not undone. Between two rows the
compiler has one label open, with the commands of its segment so far, and has added the labels above
it to the program (`Pass.Reads`). So what is left of a grid that breaks off is a number of its first
labels, all of them with the commands of their whole segments (`Entry.AddsFirst`); the open label is
the next one, and it is given up.

A label is added only under a name that is not in the program. So whatever grids are compiled into a
program one after another, broken off or not, the labels that it has stay as they are, each under
its own name (`Program.broken_grid_leaves_whole_labels`).
-/

namespace Storyboard

/-! ### Between two rows -/

namespace Program

/-- Commands behind an open label go to that label, which is closed at the end. -/
theorem addEntries_of_commands (factory : Factory) (program : Program) {entries : List Entry}
    {commands : List Command} (hcommands : ∀ entry ∈ entries, entry.isLabel = false)
    (hbuilt : entries.map (Entry.build factory) = commands.map .ok) (opened : OpenLabel) :
    addEntries factory (some opened) program entries =
      program.add { opened.label with commands := opened.label.commands ++ commands }
        opened.place := by
  induction entries generalizing commands opened with
  | nil =>
    obtain rfl : commands = [] := List.map_eq_nil_iff.1 hbuilt.symm
    rw [addEntries, Pass.close, List.append_nil]
  | cons entry rest ih =>
    cases commands with
    | nil => cases hbuilt
    | cons command others =>
      rw [List.map_cons, List.map_cons] at hbuilt
      obtain ⟨hfirst, hrest⟩ := List.cons.inj hbuilt
      obtain ⟨hentry, hbelow⟩ := List.forall_mem_cons.1 hcommands
      have hbuild : factory.build entry.opcode entry = .ok command := hfirst
      have hlater := ih hbelow hrest
        { opened with label.commands := opened.label.commands ++ [command] }
      rw [addEntries, Pass.entry, if_neg (of_decide_eq_false hentry), hbuild]
      simp only [List.append_assoc, List.singleton_append] at hlater
      exact hlater

end Program

namespace Pass

/-- The state that reading entries into a program comes to. Nothing was read yet, or the last label
is open with the commands of its segment so far, and the labels above it are in the program. -/
inductive Reads (factory : Factory) (program : Program) : List Entry → Pass → Prop
  | nothing (header : Option Header) : Reads factory program [] ⟨header, none, program⟩
  | within (header : Option Header) (closed : List Entry) {label : Entry} {below : List Entry}
      {commands : List Command} {after : Program} (opens : label.isLabel = true)
      (named : label.arg 1 ≠ "") (segment : ∀ entry ∈ below, entry.isLabel = false)
      (built : below.map (Entry.build factory) = commands.map .ok)
      (added : Program.addEntries factory none program closed = .ok after) :
      Reads factory program (closed ++ label :: below)
        ⟨header, some ⟨⟨label.arg 1, label.place.grid, commands⟩, label.place⟩, after⟩

/-- An entry leaves the header in force. -/
theorem header_of_entry {factory : Factory} {pass next : Pass} {entry : Entry}
    (h : pass.entry factory entry = .ok next) : next.header = pass.header := by
  rw [Pass.entry_eq] at h
  cases hentry : Pass.entry factory ⟨none, pass.current, pass.program⟩ entry with
  | error fault =>
    rw [hentry] at h
    cases h
  | ok after =>
    rw [hentry] at h
    cases h
    rfl

namespace Reads

variable {factory : Factory} {program : Program} {read : List Entry} {pass : Pass}

theorem withHeader (h : Reads factory program read pass) (header : Option Header) :
    Reads factory program read { pass with header } := by
  cases h with
  | nothing => exact .nothing header
  | within _ closed opens named segment built added =>
    exact .within header closed opens named segment built added

/-- **One entry more** ends the segment of the open label, or it is a command of that label. -/
theorem entry (h : Reads factory program read pass) {entry : Entry} {next : Pass}
    (hnext : pass.entry factory entry = .ok next) :
    Reads factory program (read ++ [entry]) next := by
  unfold Pass.entry at hnext
  cases hlabel : entry.isLabel with
  | true =>
    rw [if_pos (of_decide_eq_true hlabel), Pass.openLabel] at hnext
    split at hnext
    · cases hnext
    next hname =>
    have hempty : ∀ other ∈ [], Entry.isLabel other = false :=
      fun other hother => absurd hother List.not_mem_nil
    cases h with
    | nothing header =>
      -- The first label opens with nothing above it to close.
      cases hnext
      exact .within header [] hlabel hname hempty rfl rfl
    | within header closed opens named segment built added =>
      rename_i label below commands after
      -- What the label row adds is what the end of the grid would add here.
      have hclosed : Program.addEntries factory none program (closed ++ label :: below) =
          after.add ⟨label.arg 1, label.place.grid, commands⟩ label.place := by
        rw [Program.addEntries_append_label opens named, added]
        exact Program.addEntries_of_commands factory after segment built _
      split at hnext
      · cases hnext
      next hclose =>
      cases hnext
      refine .within header _ hlabel hname hempty rfl ?_
      rw [hclosed]
      exact hclose
  | false =>
    rw [if_neg (of_decide_eq_false hlabel)] at hnext
    split at hnext
    · cases hnext
    next command hcommand =>
    cases h with
    | nothing header => cases hnext
    | within header closed opens named segment built added =>
      -- The command joins the segment of the open label.
      cases hnext
      rw [List.append_assoc, List.cons_append]
      refine .within header closed opens named ?_ ?_ added
      · intro other hother
        rcases List.mem_append.1 hother with hother | hother
        · exact segment other hother
        · rw [List.mem_singleton.1 hother]
          exact hlabel
      · have hbuild : entry.build factory = .ok command := hcommand
        rw [List.map_append, List.map_append, built, List.map_singleton, List.map_singleton, hbuild]

/-- **Reading the rows of a grid** comes to a state after some of its first entries. -/
theorem rows {options : Options} {grid : String} (h : Reads factory program read pass)
    (rows : List Row) :
    ∃ seen unseen, Grid.entriesBelow options grid pass.header rows = seen ++ unseen ∧
      Reads factory program (read ++ seen) (pass.rows factory options grid rows).1 := by
  induction rows generalizing read pass with
  | nil =>
    refine ⟨[], [], rfl, ?_⟩
    rw [List.append_nil]
    exact h
  | cons row rest ih =>
    rw [Pass.rows, Pass.row, Grid.entriesBelow]
    cases row.isActive with
    | false => exact ih h
    | true =>
      cases row.isHeader with
      | true => exact ih (h.withHeader (some (Header.ofRow row)))
      | false =>
        simp only [Bool.not_true, Bool.false_eq_true, if_false]
        cases hheader : pass.header with
        | none =>
          -- Above the first header no row is an entry.
          have hrest := ih h
          rw [hheader] at hrest
          exact hrest
        | some header =>
          simp only [Option.map_some, Option.toList_some, List.singleton_append]
          cases hentry : pass.entry factory ⟨header, row, .row grid row.line, options⟩ with
          | error fault =>
            -- The state is the one before the row that is refused.
            refine ⟨[], _, rfl, ?_⟩
            rw [List.append_nil]
            exact h
          | ok next =>
            have hnext : next.header = some header := (Pass.header_of_entry hentry).trans hheader
            obtain ⟨seen, unseen, hsplit, hreads⟩ := ih (h.entry hentry)
            rw [hnext] at hsplit
            refine ⟨_ :: seen, unseen, by rw [hsplit]; rfl, ?_⟩
            rw [List.append_assoc] at hreads
            exact hreads

end Reads

end Pass

/-! ### The first labels of a grid -/

namespace Entry

/-- The program `after` is `program` with the first `m` labels of entries added, each of them with
the commands of its whole segment. -/
structure AddsFirst (factory : Factory) (grid : String) (m : Nat) (entries : List Entry)
    (program after : Program) : Prop where
  /-- The labels have names. -/
  named : ∀ name ∈ (labelNames entries).take m, name ≠ ""
  /-- No two of them have the same name. -/
  distinct : ((labelNames entries).take m).Nodup
  /-- None of the names was in the program. -/
  fresh : ∀ name ∈ (labelNames entries).take m, program.label? name = none
  /-- Each of the labels has the commands of its segment. -/
  segment : ∀ above label below, entries = above ++ label :: below → label.isLabel = true →
    (labelNames above).length < m →
    ∃ commands, (segment below).map (build factory) = commands.map .ok ∧
      after.label? (label.arg 1) = some ⟨label.arg 1, grid, commands⟩
  /-- All other names are as before. -/
  other : ∀ name, name ∉ (labelNames entries).take m → after.label? name = program.label? name

variable {factory : Factory} {grid : String} {program after : Program} {entries : List Entry}

/-- No label is added, and the program stays as it is. -/
theorem addsFirst_zero (factory : Factory) (grid : String) (entries : List Entry)
    (program : Program) : AddsFirst factory grid 0 entries program program where
  named := by simp
  distinct := by simp
  fresh := by simp
  segment _ _ _ _ _ hfew := absurd hfew (Nat.not_lt_zero _)
  other _ _ := rfl

/-- One of the first labels has few labels above it. -/
theorem exists_label_of_mem_take {m : Nat} {name : String}
    (h : name ∈ (labelNames entries).take m) :
    ∃ above label below, entries = above ++ label :: below ∧ label.isLabel = true ∧
      (labelNames above).length < m ∧ label.arg 1 = name := by
  induction entries generalizing m with
  | nil => simp [labelNames] at h
  | cons entry rest ih =>
    cases hlabel : entry.isLabel with
    | true =>
      rw [labelNames_cons_label hlabel] at h
      cases m with
      | zero => simp at h
      | succ m =>
        rw [List.take_succ_cons] at h
        rcases List.mem_cons.1 h with rfl | h
        · exact ⟨[], entry, rest, rfl, hlabel, Nat.succ_pos m, rfl⟩
        · obtain ⟨above, label, below, rfl, hopens, hfew, hname⟩ := ih h
          refine ⟨entry :: above, label, below, rfl, hopens, ?_, hname⟩
          rw [labelNames_cons_label hlabel, List.length_cons]
          omega
    | false =>
      rw [labelNames_cons_command hlabel] at h
      -- A command is not counted.
      obtain ⟨above, label, below, rfl, hopens, hfew, hname⟩ := ih h
      refine ⟨entry :: above, label, below, rfl, hopens, ?_, hname⟩
      rw [labelNames_cons_command hlabel]
      exact hfew

/-- A segment ends where the next label begins. -/
theorem segment_append_label (entries : List Entry) {label : Entry} (h : label.isLabel = true)
    (below : List Entry) : segment (entries ++ label :: below) = segment entries := by
  induction entries with
  | nil => exact segment_cons_label h
  | cons entry rest ih =>
    rw [List.cons_append]
    cases hentry : entry.isLabel with
    | true => rw [segment_cons_label hentry, segment_cons_label hentry]
    | false => rw [segment_cons_command hentry, segment_cons_command hentry, ih]

/-- **Entries that were compiled up to a label, or up to the end, are the first labels.** -/
theorem addsFirst_of_segmented {closed : List Entry} (rest : List Entry)
    (hrest : ∀ first ∈ rest.head?, first.isLabel = true)
    (hcompilable : Compilable factory program closed)
    (hsegmented : Segmented factory grid closed program after) :
    AddsFirst factory grid (labelNames closed).length (closed ++ rest) program after := by
  have hnames : (labelNames (closed ++ rest)).take (labelNames closed).length =
      labelNames closed := by
    rw [labelNames_append, List.take_left]
  refine ⟨?_, ?_, ?_, fun above label below hsplit hlabel hfew => ?_, ?_⟩
  · rw [hnames]
    intro name hname
    obtain ⟨above, label, below, hsplit, hlabel, rfl⟩ := exists_label_of_mem hname
    exact hcompilable.named label (hsplit ▸ List.mem_append_right _ List.mem_cons_self) hlabel
  · rw [hnames]
    exact hcompilable.distinct
  · rw [hnames]
    exact hcompilable.fresh
  · rcases List.append_eq_append_iff.1 hsplit with ⟨extra, rfl, -⟩ | ⟨extra, rfl, hextra⟩
    · -- A label below the closed entries has all of their labels above it.
      rw [labelNames_append, List.length_append] at hfew
      omega
    · -- A closed label has its whole segment among the closed entries: a label follows.
      cases extra with
      | nil =>
        rw [List.append_nil] at hfew
        exact absurd hfew (Nat.lt_irrefl _)
      | cons first extra =>
        rw [List.cons_append] at hextra
        obtain ⟨rfl, rfl⟩ := List.cons.inj hextra
        obtain ⟨commands, hbuilt, hfound⟩ := hsegmented.segment above label extra rfl hlabel
        have hsegment : Entry.segment (extra ++ rest) = Entry.segment extra := by
          cases rest with
          | nil => rw [List.append_nil]
          | cons next tail => exact segment_append_label extra (hrest next rfl) tail
        exact ⟨commands, by rw [hsegment]; exact hbuilt, hfound⟩
  · rw [hnames]
    exact hsegmented.other

namespace AddsFirst

variable {m : Nat} {name : String} {label : Label}

/-- **What is in the program stays**, under the same name. -/
theorem keeps (h : AddsFirst factory grid m entries program after)
    (hlabel : program.label? name = some label) : after.label? name = some label := by
  have hname : name ∉ (labelNames entries).take m := by
    intro hname
    rw [h.fresh name hname] at hlabel
    cases hlabel
  rw [h.other name hname]
  exact hlabel

/-- **What is added has its own name.** -/
theorem own_name (h : AddsFirst factory grid m entries program after)
    (hlabel : after.label? name = some label) :
    program.label? name = some label ∨ label.name = name := by
  by_cases hname : name ∈ (labelNames entries).take m
  · right
    obtain ⟨above, opening, below, hsplit, hopens, hfew, rfl⟩ := exists_label_of_mem_take hname
    obtain ⟨commands, -, hfound⟩ := h.segment above opening below hsplit hopens hfew
    rw [← Option.some.inj (hfound.symm.trans hlabel)]
  · left
    rw [h.other name hname] at hlabel
    exact hlabel

/-- A label with a name below the first labels is a label more. -/
theorem lt_named (h : AddsFirst factory grid m entries program after) {above below : List Entry}
    {opening : Entry} (hsplit : entries = above ++ opening :: below)
    (hopens : opening.isLabel = true) (hname : opening.arg 1 ≠ "")
    (hcount : (labelNames above).length = m) :
    m < ((labelNames entries).filter (· ≠ "")).length := by
  have hnames : labelNames entries = labelNames above ++ opening.arg 1 :: labelNames below := by
    rw [hsplit, labelNames_append, labelNames_cons_label hopens]
  -- The first labels all have names, so none of them is lost in counting those with a name.
  have habove : (labelNames above).filter (· ≠ "") = labelNames above := by
    rw [List.filter_eq_self]
    intro name hmem
    have hfirst : name ∈ (labelNames entries).take m := by
      rw [hnames, ← hcount, List.take_left]
      exact hmem
    simpa using h.named name hfirst
  rw [hnames, List.filter_append, habove, List.filter_cons_of_pos (by simpa using hname),
    List.length_append, List.length_cons, hcount]
  omega

end AddsFirst

end Entry

/-! ### What is left of a grid -/

namespace Pass

/-- **What was read adds the first labels**, as many as there are above the open one. -/
theorem Reads.addsFirst {factory : Factory} {program : Program} {read : List Entry} {pass : Pass}
    (h : Reads factory program read pass) {grid : String} {unseen : List Entry}
    (hgrid : ∀ entry ∈ read ++ unseen, entry.place.grid = grid) :
    ∃ m, Entry.AddsFirst factory grid m (read ++ unseen) program pass.program ∧
      (pass.current = none → m = 0) ∧
      ∀ opened, pass.current = some opened →
        ∃ above label below, read ++ unseen = above ++ label :: below ∧ label.isLabel = true ∧
          label.arg 1 ≠ "" ∧ (Entry.labelNames above).length = m ∧
          opened.label.name = label.arg 1 ∧ opened.place = label.place := by
  cases h with
  | nothing header => exact ⟨0, Entry.addsFirst_zero factory grid _ program, fun _ => rfl, nofun⟩
  | within header closed opens named segment built added =>
    rename_i label below commands after
    have hsplit : closed ++ label :: below ++ unseen = closed ++ label :: (below ++ unseen) := by
      rw [List.append_assoc, List.cons_append]
    rw [hsplit] at hgrid ⊢
    obtain ⟨hiff, hsegments⟩ := Program.addEntries_spec factory grid closed
      (fun entry hentry => hgrid entry (List.mem_append_left _ hentry)) program
    -- What was closed was compiled up to the open label.
    have hfirst : ∀ first ∈ (label :: (below ++ unseen)).head?, first.isLabel = true := by
      rintro first ⟨⟩
      exact opens
    have hadds := Entry.addsFirst_of_segmented _ hfirst (hiff.1 ⟨after, added⟩)
      (hsegments after added)
    refine ⟨_, hadds, nofun, ?_⟩
    intro opened hopened
    rw [← Option.some.inj hopened]
    exact ⟨closed, label, below ++ unseen, rfl, opens, named, rfl, rfl, rfl⟩

end Pass

/-- A grid that is to be compiled into a program. -/
structure Compilation where
  /-- What builds its commands. -/
  factory : Factory
  /-- Its words for markers. -/
  options : Options
  /-- The grid. -/
  grid : Grid

namespace Program

/-- The program after grids, also after those that break off. -/
def afterAll (program : Program) (compilations : List Compilation) : Program :=
  compilations.foldl (fun program c => (program.addGrid c.factory c.options c.grid).program) program

/-- The state at which the rows of a grid end or break off. -/
def lastPass (factory : Factory) (options : Options) (program : Program) (grid : Grid) : Pass :=
  (Pass.rows factory options grid.name ⟨none, none, program⟩ grid.rows).1

variable {factory : Factory} {options : Options} {program : Program} {grid : Grid}

/-- A grid that breaks off leaves what was in the program before the open label. -/
theorem program_of_fault {fault : Fault}
    (h : (program.addGrid factory options grid).fault = some fault) :
    (program.addGrid factory options grid).program =
      (lastPass factory options program grid).program := by
  revert h
  unfold addGrid lastPass
  obtain ⟨last, fault?⟩ := Pass.rows factory options grid.name ⟨none, none, program⟩ grid.rows
  cases fault? with
  | some other => exact fun _ => rfl
  | none =>
    dsimp only
    cases last.close with
    | error other => exact fun _ => rfl
    | ok after => exact nofun

theorem exists_reads_lastPass (factory : Factory) (options : Options) (program : Program)
    (grid : Grid) :
    ∃ read unseen, grid.entries options = read ++ unseen ∧
      Pass.Reads factory program read (lastPass factory options program grid) := by
  have hstart : Pass.Reads factory program [] ⟨none, none, program⟩ := .nothing none
  obtain ⟨seen, unseen, hsplit, hreads⟩ := hstart.rows grid.rows
  rw [Grid.entries_eq_entriesBelow]
  exact ⟨seen, unseen, hsplit, hreads⟩

/-- **Compiling a grid adds the first of its labels**, all of them or those that were closed before
it broke off. -/
theorem exists_addsFirst (factory : Factory) (options : Options) (program : Program)
    (grid : Grid) :
    ∃ m, Entry.AddsFirst factory grid.name m (grid.entries options) program
      (program.addGrid factory options grid).program := by
  cases hfault : (program.addGrid factory options grid).fault with
  | none =>
    -- A grid that compiles adds all of its labels, and nothing is left below them.
    have hresult := (GridReport.result_eq_ok_iff _ _).2 ⟨hfault, rfl⟩
    obtain ⟨hiff, hsegments⟩ := addGrid_spec factory options program grid
    have hadds := Entry.addsFirst_of_segmented [] nofun (hiff.1 ⟨_, hresult⟩) (hsegments _ hresult)
    rw [List.append_nil] at hadds
    exact ⟨_, hadds⟩
  | some fault =>
    -- A grid that breaks off leaves the program of the last state that was reached.
    obtain ⟨read, unseen, hsplit, hreads⟩ := exists_reads_lastPass factory options program grid
    have hgrid : ∀ entry ∈ read ++ unseen, entry.place.grid = grid.name := by
      rw [← hsplit]
      exact fun entry => Grid.place_of_mem_entries
    obtain ⟨m, hadds, -⟩ := hreads.addsFirst hgrid
    rw [hsplit, program_of_fault hfault]
    exact ⟨m, hadds⟩

theorem label?_afterAll {name : String} {label : Label} (compilations : List Compilation)
    (h : program.label? name = some label) :
    (program.afterAll compilations).label? name = some label := by
  induction compilations generalizing program with
  | nil => exact h
  | cons c rest ih =>
    obtain ⟨m, hadds⟩ := exists_addsFirst c.factory c.options program c.grid
    exact ih (hadds.keeps h)

theorem name_of_label?_afterAll {name : String} {label : Label} (compilations : List Compilation)
    (h : (program.afterAll compilations).label? name = some label) :
    program.label? name = some label ∨ label.name = name := by
  induction compilations generalizing program with
  | nil => exact .inl h
  | cons c rest ih =>
    obtain ⟨m, hadds⟩ := exists_addsFirst c.factory c.options program c.grid
    rcases ih h with hbefore | hname
    · exact hadds.own_name hbefore
    · exact .inr hname

/-- **A grid that breaks off leaves whole labels only.** When a grid breaks off, the program has
become what it was with the first `m` labels of the grid added, each with the commands of all rows
down to the next label, and `m` is less than the number of labels with a name, or zero when there
are none. The label that was open then, because a row below it was refused or because its own name
is taken, is the one after these, and was not added.

Whatever grids are compiled into a program, broken off or not, no label of it is removed or changed;
and a program that was empty at first has each label under its own name. -/
theorem broken_grid_leaves_whole_labels :
    (∀ (factory : Factory) (options : Options) (program : Program) (grid : Grid),
      let report := program.addGrid factory options grid
      let entries := grid.entries options
      let named := (Entry.labelNames entries).filter (· ≠ "")
      report.fault ≠ none →
      ∃ m, (m < named.length ∨ named = [] ∧ m = 0) ∧
        Entry.AddsFirst factory grid.name m entries program report.program ∧
        ∀ opened, (lastPass factory options program grid).current = some opened →
          ∃ above label below, entries = above ++ label :: below ∧ label.isLabel = true ∧
            (Entry.labelNames above).length = m ∧
            opened.label.name = label.arg 1 ∧ opened.place = label.place) ∧
    (∀ (program : Program) (compilations : List Compilation) (name : String) (label : Label),
      program.label? name = some label →
        (program.afterAll compilations).label? name = some label) ∧
    ∀ (compilations : List Compilation) (name : String) (label : Label),
      (empty.afterAll compilations).label? name = some label → label.name = name := by
  refine ⟨?_, fun program compilations name label => label?_afterAll compilations,
    fun compilations name label h => ?_⟩
  · intro factory options program grid report entries named hfault
    obtain ⟨fault, hfault⟩ := Option.ne_none_iff_exists'.1 hfault
    obtain ⟨read, unseen, hsplit, hreads⟩ := exists_reads_lastPass factory options program grid
    have hgrid : ∀ entry ∈ read ++ unseen, entry.place.grid = grid.name := by
      rw [← hsplit]
      exact fun entry => Grid.place_of_mem_entries
    obtain ⟨m, hadds, hnone, hopened⟩ := hreads.addsFirst hgrid
    rw [← hsplit, ← program_of_fault hfault] at hadds
    rw [← hsplit] at hopened
    refine ⟨m, ?_, hadds, fun opened hcurrent => ?_⟩
    · cases hcurrent : (lastPass factory options program grid).current with
      | none =>
        -- No label was open yet: nothing has been added.
        obtain rfl := hnone hcurrent
        by_cases hempty : named = []
        · exact .inr ⟨hempty, rfl⟩
        · exact .inl (List.length_pos_iff.2 hempty)
      | some opened =>
        obtain ⟨above, label, below, hlabels, hopens, hname, hcount, -⟩ := hopened opened hcurrent
        -- The open label has a name too, so it is one more than those that were added.
        exact .inl (hadds.lt_named hlabels hopens hname hcount)
    · obtain ⟨above, label, below, hlabels, hopens, -, hcount, hsame⟩ := hopened opened hcurrent
      exact ⟨above, label, below, hlabels, hopens, hcount, hsame⟩
  · rcases name_of_label?_afterAll compilations h with hempty | hname
    · cases hempty
    · exact hname

/-- A sheet with two labels that breaks off below the second one. -/
def brokenScene : Grid where
  name := "intro"
  rows := [⟨["Command", "Arg1", "Text"], 1⟩, ⟨["Label", "A", ""], 2⟩, ⟨["Text", "", "Hi"], 3⟩,
    ⟨["Label", "B", ""], 4⟩, ⟨["Shake", "", ""], 5⟩]

/-- The first label is left, and is still there when the sheet is compiled again. -/
theorem brokenScene_leaves_first_label :
    let report := empty.addGrid .builtin {} brokenScene
    report.fault = some (.opcodeUnknown "Shake" (.row "intro" 5)) ∧
    (∃ m < 2, Entry.AddsFirst .builtin "intro" m (brokenScene.entries {}) empty report.program) ∧
    (report.program.afterAll [⟨.builtin, {}, brokenScene⟩]).label? "A" =
      some ⟨"A", "intro", [.text "Hi" (.row "intro" 3)]⟩ := by
  intro report
  have hfault : report.fault = some (.opcodeUnknown "Shake" (.row "intro" 5)) := by
    decide +kernel
  have hlabel : report.program.label? "A" =
      some ⟨"A", "intro", [.text "Hi" (.row "intro" 3)]⟩ := by
    decide +kernel
  have hnamed : (Entry.labelNames (brokenScene.entries {})).filter (· ≠ "") = ["A", "B"] := by
    decide +kernel
  obtain ⟨hbroken, hkept, -⟩ := broken_grid_leaves_whole_labels
  obtain ⟨m, hcount, hadds, -⟩ := hbroken .builtin {} empty brokenScene (by simp [hfault, report])
  refine ⟨hfault, ⟨m, ?_, hadds⟩, hkept _ _ _ _ hlabel⟩
  rw [hnamed] at hcount
  rcases hcount with hcount | ⟨hempty, -⟩
  · exact hcount
  · cases hempty

end Program

end Storyboard
