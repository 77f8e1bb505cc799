import Storyboard.Compile.Program
import Storyboard.Proofs.Compile.Building
import Storyboard.Proofs.Grid.Arrangement
import Mathlib.Data.List.Forall2

/-!
# What a grid compiles to does not depend on where its columns stand

Two grids are compiled side by side, row by row, the second of which has the cells of the first one
at other positions. Their headers in force differ, but a row is read through its header, so each
entry has the same opcode, text and arguments in both (`Entry.Relocates`). The built-in commands
look at nothing else. Only one fault tells a position: that of a missing argument, which names the
cell where it was looked for (`Fault.Relocates`).

So the two compilations go in step: each row leaves the same open label and the same program
(`Pass.Relocates.row`), and so do all rows together (`Pass.Relocates.rows`). A grid whose columns
are brought into another order, or whose rows are continued by empty cells, therefore compiles to
the same program or the same fault, with the column of the fault moved along
(`Program.addGrid_by_column_names`).
-/

namespace Storyboard

/-! ### Grids laid out anew -/

namespace Grid

/-- The grid with its columns in another order, given by the old positions from left to right. -/
def reorder (order : List Nat) (grid : Grid) : Grid :=
  ⟨grid.name, grid.rows.map (Row.reorder order)⟩

/-- The grid with each row continued by some empty cells. -/
def pad (extra : Nat → Nat) (grid : Grid) : Grid :=
  ⟨grid.name, grid.rows.mapIdx fun i row => row.pad (extra i)⟩

/-- A grid whose columns can be moved as a whole. -/
structure IsTable (width : Nat) (grid : Grid) : Prop where
  /-- All rows have the same width. -/
  width : ∀ row ∈ grid.rows, row.cells.length = width
  /-- No cell starts like a remark. -/
  unremarked : ∀ row ∈ grid.rows, row.Unremarked
  /-- In a header row, no two cells name the same column. -/
  apart : ∀ row ∈ grid.rows, row.isHeader = true → row.NamesApart

theorem IsTable.relocates {width : Nat} {grid : Grid} (h : grid.IsTable width) {order : List Nat}
    (horder : order.Perm (List.range width)) :
    List.Forall₂ (Row.Relocates order.idxOf) grid.rows (grid.reorder order).rows := by
  rw [reorder, List.forall₂_map_right_iff, List.forall₂_same]
  intro row hrow
  apply Row.relocates_reorder _ (h.unremarked row hrow) (h.apart row hrow)
  rw [h.width row hrow]
  exact horder

theorem relocates_pad (extra : Nat → Nat) (grid : Grid) :
    List.Forall₂ (Row.Relocates id) grid.rows (grid.pad extra).rows := by
  rw [pad, List.forall₂_iff_get]
  refine ⟨(List.length_mapIdx).symm, fun i hi hpad => ?_⟩
  simp only [List.get_eq_getElem, List.getElem_mapIdx]
  exact Row.relocates_pad (extra i) _

end Grid

/-! ### Faults at moved columns -/

/-- The place with its column, if it has one, sent elsewhere. -/
def Location.relocate (f : Nat → Nat) (place : Location) : Location :=
  { place with column := place.column.map f }

/-- A fault, and the same fault with its column sent elsewhere. -/
inductive Fault.Relocates (f : Nat → Nat) : Fault → Fault → Prop where
  /-- A fault of a whole row stays as it is. -/
  | row {fault : Fault} {place : Location} (hplace : fault.place? = some place)
      (hcolumn : place.column = none) : Relocates f fault fault
  /-- A missing argument is missed in another cell. -/
  | argument (opcode what column : String) (place : Location) (i : Nat) :
      Relocates f (.argumentMissing opcode what column (place.atColumn i))
        (.argumentMissing opcode what column (place.atColumn (f i)))

namespace Fault.Relocates

variable {f : Nat → Nat} {fault moved : Fault}

theorem code_eq (h : fault.Relocates f moved) : moved.code = fault.code := by
  cases h <;> rfl

theorem message_eq (h : fault.Relocates f moved) : moved.message = fault.message := by
  cases h <;> rfl

/-- **The place of the fault** is on the same line, in the column where the old one was sent. -/
theorem place?_eq (h : fault.Relocates f moved) :
    ∃ place, fault.place? = some place ∧ moved.place? = some (place.relocate f) := by
  cases h with
  | @row _ place hplace hcolumn =>
    have hsame : place.relocate f = place := by
      rw [Location.relocate, hcolumn, Option.map_none, ← hcolumn]
    exact ⟨place, hplace, by rw [hplace, hsame]⟩
  | argument opcode what column place i => exact ⟨place.atColumn i, rfl, rfl⟩

theorem eq_of_id (h : fault.Relocates id moved) : moved = fault := by
  cases h <;> rfl

end Fault.Relocates

/-- Two results that agree: related values, or the same fault with its column sent elsewhere. -/
inductive Fault.Agrees (f : Nat → Nat) {α : Type} (R : α → α → Prop) :
    Except Fault α → Except Fault α → Prop where
  /-- Both succeed. -/
  | ok {a b : α} : R a b → Agrees f R (.ok a) (.ok b)
  /-- Both fail. -/
  | error {fault moved : Fault} : fault.Relocates f moved → Agrees f R (.error fault) (.error moved)

namespace Fault.Agrees

variable {f : Nat → Nat} {α β : Type} {R : α → α → Prop} {S : β → β → Prop}

theorem bind {x y : Except Fault α} (h : Agrees f R x y) {k l : α → Except Fault β}
    (hnext : ∀ a b, R a b → Agrees f S (k a) (l b)) : Agrees f S (x >>= k) (y >>= l) := by
  cases h with
  | ok hab => exact hnext _ _ hab
  | error hfault => exact .error hfault

/-- Results that agree are both values or both faults. -/
theorem ok_or_error {x y : Except Fault α} (h : Agrees f R x y) :
    (∃ a b, x = .ok a ∧ y = .ok b ∧ R a b) ∨
      ∃ fault moved, x = .error fault ∧ y = .error moved ∧ fault.Relocates f moved := by
  cases h with
  | ok hab => exact .inl ⟨_, _, rfl, rfl, hab⟩
  | error hfault => exact .inr ⟨_, _, rfl, rfl, hfault⟩

/-- A result whose fault is one of a whole row agrees with itself. -/
theorem refl_of_row {x : Except Fault α}
    (h : ∀ fault, x = .error fault → ∃ place, fault.place? = some place ∧ place.column = none) :
    Agrees f Eq x x := by
  cases x with
  | ok a => exact .ok rfl
  | error fault =>
    obtain ⟨place, hplace, hcolumn⟩ := h fault rfl
    exact .error (.row hplace hcolumn)

end Fault.Agrees

/-! ### Entries -/

/-- An entry whose cells are at other positions, under a header that tells where. -/
structure Entry.Relocates (f : Nat → Nat) (entry moved : Entry) : Prop where
  /-- The header has the columns where they are sent. -/
  header : entry.header.Relocates f moved.header
  /-- So has the row. -/
  cell : ∀ i, moved.row.cell (f i) = entry.row.cell i
  /-- The place is the same. -/
  place : moved.place = entry.place
  /-- It is that of a whole row. -/
  column : entry.place.column = none
  /-- The words for markers are the same. -/
  options : moved.options = entry.options

namespace Entry.Relocates

variable {f : Nat → Nat} {entry moved : Entry} (h : entry.Relocates f moved)

include h

/-- **A cell is read under its name**, wherever it stands. -/
theorem headerCell {name : String} (hname : name ≠ "") :
    moved.header.cell moved.row name = entry.header.cell entry.row name := by
  rw [Header.cell, Header.cell, h.header.index name hname]
  cases entry.header.index? name with
  | none => rfl
  | some i => exact h.cell i

theorem text_eq : moved.text = entry.text := h.headerCell (by decide)

theorem opcode_eq : moved.opcode = entry.opcode :=
  congrArg Text.trim (h.headerCell (by decide))

theorem arg_eq (n : Nat) : moved.arg n = entry.arg n :=
  congrArg Text.trim (h.headerCell (Header.argColumn_ne_empty n))

theorem spoken?_eq : moved.spoken? = entry.spoken? := by
  rw [Entry.spoken?, Entry.spoken?, h.text_eq]

theorem choiceCaptions_eq : moved.choiceCaptions = entry.choiceCaptions := by
  rw [Entry.choiceCaptions, Entry.choiceCaptions, h.text_eq]

/-- The targets of a choice come in the order of the argument numbers, not of the cells. -/
theorem choiceTargets_eq : moved.choiceTargets = entry.choiceTargets := by
  rw [Entry.choiceTargets, Entry.choiceTargets, h.header.args, List.map_map]
  simp only [Function.comp_def, h.cell]

/-- **A missing argument is missed where its column was sent.** -/
theorem requiredArg (n : Nat) (what : String) :
    Fault.Agrees f Eq (entry.requiredArg n what) (moved.requiredArg n what) := by
  rw [Entry.requiredArg, Entry.requiredArg, h.arg_eq, h.opcode_eq, h.place,
    h.header.index _ (Header.argColumn_ne_empty n)]
  split
  · cases entry.header.index? (Header.argColumn n) with
    -- Without the column there is no cell to name, so the whole row is named.
    | none => exact .error (.row rfl h.column)
    | some i => exact .error (.argument _ _ _ entry.place i)
  · exact .ok rfl

theorem text : Fault.Agrees f Eq (Builder.text entry) (Builder.text moved) := by
  rw [Builder.text, Builder.text, h.text_eq, h.place]
  exact .ok rfl

theorem character : Fault.Agrees f Eq (Builder.character entry) (Builder.character moved) := by
  rw [Builder.character, Builder.character]
  refine (h.requiredArg 1 _).bind fun id _ hid => ?_
  refine (h.requiredArg 3 _).bind fun layer _ hlayer => ?_
  rw [hid, hlayer, h.arg_eq, h.spoken?_eq, h.options, h.place]
  exact .ok rfl

theorem jump : Fault.Agrees f Eq (Builder.jump entry) (Builder.jump moved) := by
  rw [Builder.jump, Builder.jump]
  refine (h.requiredArg 1 _).bind fun target _ htarget => ?_
  rw [htarget, h.place]
  exact .ok rfl

theorem choice : Fault.Agrees f Eq (Builder.choice entry) (Builder.choice moved) := by
  have hsame : Builder.choice moved = Builder.choice entry := by
    rw [Builder.choice, Builder.choice, h.choiceTargets_eq, h.choiceCaptions_eq, h.place]
  rw [hsame]
  apply Fault.Agrees.refl_of_row
  intro fault herror
  rcases Builder.choice_eq_error herror with rfl | ⟨targets, captions, rfl⟩
  · exact ⟨entry.place, rfl, h.column⟩
  · exact ⟨entry.place, rfl, h.column⟩

/-- **The same command is built**, or the same fault met. -/
theorem build (opcode : String) :
    Fault.Agrees f Eq (Factory.builtin.build opcode entry)
      (Factory.builtin.build opcode moved) := by
  rw [Factory.build, Factory.build, h.text_eq, h.place]
  split
  · split
    · exact .error (.row rfl h.column)
    · exact h.text
  · split
    · next builder hbuilder =>
      -- Each builder reads its cells by name, so it finds the same texts.
      rcases Factory.builder_of_builtin hbuilder with rfl | rfl | rfl | rfl
      · exact h.text
      · exact h.character
      · exact h.jump
      · exact h.choice
    · exact .error (.row rfl h.column)

end Entry.Relocates

/-! ### Rows -/

/-- Two states between rows that differ only in where the header in force has its columns. -/
structure Pass.Relocates (f : Nat → Nat) (pass moved : Pass) : Prop where
  /-- The headers in force have the columns where they are sent. -/
  header : Option.Rel (Header.Relocates f) pass.header moved.header
  /-- The open label is the same. -/
  current : moved.current = pass.current
  /-- The program is the same. -/
  program : moved.program = pass.program
  /-- The open label has the place of a whole row. -/
  column : ∀ opened ∈ pass.current, opened.place.column = none

namespace Pass.Relocates

variable {f : Nat → Nat} {pass moved : Pass} (h : pass.Relocates f moved)

include h

theorem isNone_header : moved.header.isNone = pass.header.isNone := by
  obtain ⟨header, current, program⟩ := pass
  obtain ⟨otherHeader, otherCurrent, otherProgram⟩ := moved
  cases h.header <;> rfl

theorem close : Fault.Agrees f Eq pass.close moved.close := by
  have hsame : moved.close = pass.close := by
    rw [Pass.close, Pass.close, h.current, h.program]
  rw [hsame]
  apply Fault.Agrees.refl_of_row
  intro fault herror
  rw [Pass.close] at herror
  split at herror
  · cases herror
  · next opened hopened =>
    rw [Program.add] at herror
    split at herror
    · cases herror
      exact ⟨opened.place, rfl, h.column opened hopened⟩
    · cases herror

theorem openLabel (name : String) {place : Location} (hplace : place.column = none) :
    Fault.Agrees f (Pass.Relocates f) (pass.openLabel name place) (moved.openLabel name place) := by
  rw [Pass.openLabel, Pass.openLabel]
  split
  · exact .error (.row rfl hplace)
  · rcases h.close.ok_or_error with ⟨after, other, hok, hother, hsame⟩ | ⟨_, _, hok, hother, hfault⟩
    · rw [hok, hother, hsame]
      apply Fault.Agrees.ok
      refine ⟨h.header, rfl, rfl, fun opened hopened => ?_⟩
      cases hopened
      exact hplace
    · rw [hok, hother]
      exact .error hfault

theorem addCommand (command : Command) {place : Location} (hplace : place.column = none) :
    Fault.Agrees f (Pass.Relocates f) (pass.addCommand command place)
      (moved.addCommand command place) := by
  rw [Pass.addCommand, Pass.addCommand, h.current]
  cases hcurrent : pass.current with
  | none => exact .error (.row rfl hplace)
  | some opened =>
    apply Fault.Agrees.ok
    refine ⟨h.header, rfl, h.program, fun other hother => ?_⟩
    cases hother
    exact h.column opened hcurrent

/-- An entry is compiled the same wherever its cells stand. -/
theorem entry {entry other : Entry} (hentry : entry.Relocates f other) :
    Fault.Agrees f (Pass.Relocates f) (pass.entry .builtin entry) (moved.entry .builtin other) := by
  rw [Pass.entry, Pass.entry, hentry.opcode_eq, hentry.options, hentry.arg_eq, hentry.place]
  split
  · exact h.openLabel _ hentry.column
  · rcases (hentry.build entry.opcode).ok_or_error with
      ⟨command, built, hok, hother, hsame⟩ | ⟨_, _, hok, hother, hfault⟩
    · rw [hok, hother, hsame]
      exact h.addCommand built hentry.column
    · rw [hok, hother]
      exact .error hfault

/-- **One row**: it leaves the same open label and the same program. -/
theorem row {row other : Row} (hrow : row.Relocates f other) (options : Options) (grid : String) :
    Fault.Agrees f (Pass.Relocates f) (pass.row .builtin options grid row)
      (moved.row .builtin options grid other) := by
  rw [Pass.row, Pass.row, hrow.isActive, hrow.isHeader]
  split
  · exact .ok h
  · split
    · next hheader =>
      -- From here on both read by a header with the same names, each where its sheet has them.
      exact .ok ⟨.some (hrow.header hheader), h.current, h.program, h.column⟩
    · obtain ⟨header, current, program⟩ := pass
      obtain ⟨otherHeader, otherCurrent, otherProgram⟩ := moved
      cases h.header with
      | none => exact .ok h
      | some hheader => exact h.entry ⟨hheader, hrow.cell, by rw [hrow.line], rfl, rfl⟩

/-- **All rows**: they leave the same open label and the same program, and meet the same fault. -/
theorem rows {rows others : List Row} (hrows : List.Forall₂ (Row.Relocates f) rows others)
    (options : Options) (grid : String) :
    (pass.rows .builtin options grid rows).1.Relocates f
        (moved.rows .builtin options grid others).1 ∧
      Option.Rel (Fault.Relocates f) (pass.rows .builtin options grid rows).2
        (moved.rows .builtin options grid others).2 := by
  induction hrows generalizing pass moved with
  | nil => exact ⟨h, .none⟩
  | cons hfirst _ ih =>
    rw [Pass.rows, Pass.rows]
    rcases (h.row hfirst options grid).ok_or_error with
      ⟨after, other, hok, hother, hpass⟩ | ⟨_, _, hok, hother, hfault⟩
    · rw [hok, hother]
      exact ih hpass
    · -- Both runs stop here, in the states before the row.
      rw [hok, hother]
      exact ⟨h, .some hfault⟩

end Pass.Relocates

/-! ### Grids -/

/-- Two reports of the same program, the same notices and the same fault, with its column sent
elsewhere. -/
structure GridReport.Relocates (f : Nat → Nat) (report moved : GridReport) : Prop where
  /-- The program is the same. -/
  program : moved.program = report.program
  /-- The notices are the same. -/
  notices : moved.notices = report.notices
  /-- The fault is the same, but for its column. -/
  fault : Option.Rel (Fault.Relocates f) report.fault moved.fault

/-- Where every column stays, so does the report. -/
theorem GridReport.Relocates.eq_of_id {report moved : GridReport}
    (h : report.Relocates id moved) : moved = report := by
  obtain ⟨program, fault, notices⟩ := report
  obtain ⟨otherProgram, otherFault, otherNotices⟩ := moved
  obtain ⟨rfl, rfl, hfault⟩ := h
  cases hfault with
  | none => rfl
  | some hfault => rw [hfault.eq_of_id]

namespace Program

/-- **A grid with its cells elsewhere** is reported in the same way. -/
theorem addGrid_relocates {f : Nat → Nat} {grid moved : Grid}
    (hrows : List.Forall₂ (Row.Relocates f) grid.rows moved.rows) (hname : moved.name = grid.name)
    (options : Options) (program : Program) :
    (program.addGrid .builtin options grid).Relocates f
      (program.addGrid .builtin options moved) := by
  have hstart : Pass.Relocates f ⟨none, none, program⟩ ⟨none, none, program⟩ :=
    ⟨.none, rfl, rfl, nofun⟩
  have hlast := hstart.rows hrows options grid.name
  rw [addGrid, addGrid, hname]
  -- From here on only how the two last states are related matters.
  generalize Pass.rows .builtin options grid.name ⟨none, none, program⟩ grid.rows = last at hlast ⊢
  generalize Pass.rows .builtin options grid.name ⟨none, none, program⟩ moved.rows = other
    at hlast ⊢
  obtain ⟨last, fault⟩ := last
  obtain ⟨other, otherFault⟩ := other
  obtain ⟨hpass, hfault⟩ := hlast
  dsimp only at hpass hfault
  cases hfault with
  | some hfault => exact ⟨hpass.program, rfl, .some hfault⟩
  | none =>
    dsimp only
    rw [hpass.isNone_header]
    rcases hpass.close.ok_or_error with
      ⟨after, closed, hok, hother, hsame⟩ | ⟨_, _, hok, hother, hfault⟩
    · rw [hok, hother, hsame]
      exact ⟨rfl, rfl, .none⟩
    · rw [hok, hother]
      exact ⟨hpass.program, rfl, .some hfault⟩

/-- **Columns are known by their names.** In a grid whose rows are all of one width, in which no
cell starts like a remark and no header row names a column twice, bringing the columns into another
order leaves the same program and the same notices. It meets a fault exactly when the grid does, of
the same code and wording, in the same line of the same grid and in the column that the old one was
moved to. In every grid, empty cells behind the rows change nothing. -/
theorem addGrid_by_column_names (options : Options) (program : Program) (grid : Grid) :
    let report := program.addGrid .builtin options grid
    (∀ width order, grid.IsTable width → order.Perm (List.range width) →
      let moved := program.addGrid .builtin options (grid.reorder order)
      moved.program = report.program ∧ moved.notices = report.notices ∧
      (moved.fault = none ↔ report.fault = none) ∧
      ∀ fault, report.fault = some fault → ∃ other, moved.fault = some other ∧
        other.code = fault.code ∧ other.message = fault.message ∧
        ∃ place, fault.place? = some place ∧
          other.place? = some ⟨place.grid, place.line, place.column.map order.idxOf⟩) ∧
    ∀ extra, program.addGrid .builtin options (grid.pad extra) = report := by
  intro report
  constructor
  · intro width order htable horder moved
    have hmoved : report.Relocates order.idxOf moved :=
      addGrid_relocates (htable.relocates horder) rfl options program
    refine ⟨hmoved.program, hmoved.notices, ?_⟩
    -- Both grids have a fault or neither has; only its column may differ.
    have hfault := hmoved.fault
    generalize report.fault = fault at hfault ⊢
    generalize moved.fault = other at hfault ⊢
    cases hfault with
    | none => exact ⟨iff_of_true rfl rfl, nofun⟩
    | some hfault =>
      refine ⟨iff_of_false nofun nofun, fun fault hsome => ?_⟩
      cases hsome
      exact ⟨_, rfl, hfault.code_eq, hfault.message_eq, hfault.place?_eq⟩
  · intro extra
    -- Behind the rows nothing is moved, so the columns of faults stay the same too.
    have hpadded := addGrid_relocates (grid.relocates_pad extra) rfl options program
    exact hpadded.eq_of_id

/-- A sheet that names its columns twice, and at the end jumps nowhere. -/
def crossedColumns : Grid where
  name := "intro"
  rows := [⟨["Command", "Arg1", "Note", "Text"], 1⟩, ⟨["Label", "Start", "", ""], 2⟩,
    ⟨["Choice", "A", "one way", "left"], 3⟩, ⟨[" Text", "Arg1", "Command", ""], 4⟩,
    ⟨["", " ", "Jump", "A"], 5⟩]

/-- The missing target is reported in the column that `Arg1` was moved to. -/
theorem crossedColumns_reordered :
    let order := [3, 2, 0, 1]
    crossedColumns.IsTable 4 ∧ order.Perm (List.range 4) ∧
    (crossedColumns.reorder order).rows.map (·.cells) =
      [["Text", "Note", "Command", "Arg1"], ["", "", "Label", "Start"],
        ["left", "one way", "Choice", "A"], ["", "Command", " Text", "Arg1"],
        ["A", "Jump", "", " "]] ∧
    (empty.addGrid .builtin {} crossedColumns).fault = some
      (.argumentMissing "Jump" "a target label" "Arg1" ⟨"intro", 5, some 1⟩) ∧
    ∃ other, (empty.addGrid .builtin {} (crossedColumns.reorder order)).fault = some other ∧
      other.message = "Jump requires a target label in Arg1." ∧
      other.place? = some ⟨"intro", 5, some 3⟩ := by
  intro order
  have hapart : ∀ row ∈ crossedColumns.rows, row.NamesApart := by decide +kernel
  have htable : crossedColumns.IsTable 4 :=
    ⟨by decide, by decide, fun row hrow _ => hapart row hrow⟩
  have horder : order.Perm (List.range 4) := by decide
  have hfault : (empty.addGrid .builtin {} crossedColumns).fault = some
      (.argumentMissing "Jump" "a target label" "Arg1" ⟨"intro", 5, some 1⟩) := by
    decide +kernel
  refine ⟨htable, horder, by decide, hfault, ?_⟩
  obtain ⟨-, -, -, hmoved⟩ :=
    (addGrid_by_column_names {} empty crossedColumns).1 4 order htable horder
  obtain ⟨other, hother, -, hmessage, place, hplace, hcolumn⟩ := hmoved _ hfault
  cases hplace
  exact ⟨other, hother, hmessage, hcolumn⟩

end Program

end Storyboard
