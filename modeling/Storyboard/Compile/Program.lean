import Storyboard.Compile.Factory
import Storyboard.Notice

/-!
# Programs

A program holds the labels of all grids by name. A grid is compiled row by row: a header row
changes the meaning of the columns, a label row closes the label before it and opens the next,
and every other row adds a command to the open label. The first fault ends the compilation of the
grid; labels that were closed before it stay in the program.
-/

namespace Storyboard

/-- The labels of all grids, by name. -/
structure Program where
  /-- The labels. -/
  labels : Dict Label

namespace Program

/-- The program without labels. -/
def empty : Program := ⟨.empty⟩

instance : Inhabited Program := ⟨empty⟩

/-- The label of a name. -/
def label? (program : Program) (name : String) : Option Label := program.labels.find? name

/-- Whether a label exists. -/
def contains (program : Program) (name : String) : Bool := program.labels.contains name

/-- The commands of a label; none when it does not exist. -/
def commands (program : Program) (name : String) : List Command :=
  match program.label? name with
  | some label => label.commands
  | none => []

/-- Adds a label whose row is at the given place, unless its name is taken. -/
def add (program : Program) (label : Label) (place : Location) : Except Fault Program :=
  match program.label? label.name with
  | some existing => .error (.labelRepeated label.name place existing.grid)
  | none => .ok ⟨program.labels.insert label.name label⟩

/-- The pairs of a label and a target of one of its commands that no label has, in order. -/
def unresolved (program : Program) : List (String × String) :=
  program.labels.values.flatMap fun label =>
    label.commands.flatMap fun command =>
      (command.targets.filter fun target => !program.contains target).map fun target =>
        (label.name, target)

end Program

/-! ### Compiling a grid -/

/-- A label that still collects commands. -/
structure OpenLabel where
  /-- The label so far. -/
  label : Label
  /-- The place of its row. -/
  place : Location
  deriving DecidableEq

/-- The state between two rows of a grid. -/
structure Pass where
  /-- The header in force. -/
  header : Option Header
  /-- The open label. -/
  current : Option OpenLabel
  /-- The program with all closed labels. -/
  program : Program

namespace Pass

/-- Closes the open label. -/
def close (pass : Pass) : Except Fault Program :=
  match pass.current with
  | none => .ok pass.program
  | some opened => pass.program.add opened.label opened.place

/-- A label row: closes the open label and opens the named one. -/
def openLabel (pass : Pass) (name : String) (place : Location) : Except Fault Pass :=
  if name = "" then .error (.labelUnnamed place)
  else
    match pass.close with
    | .error fault => .error fault
    | .ok program => .ok { pass with program, current := some ⟨⟨name, place.grid, []⟩, place⟩ }

/-- A command row: adds its command to the open label. -/
def addCommand (pass : Pass) (command : Command) (place : Location) : Except Fault Pass :=
  match pass.current with
  | none => .error (.commandOutsideLabel command.opcode place)
  | some opened =>
    let label := { opened.label with commands := opened.label.commands ++ [command] }
    .ok { pass with current := some { opened with label } }

/-- A row below a header. -/
def entry (factory : Factory) (pass : Pass) (entry : Entry) : Except Fault Pass :=
  if entry.opcode = entry.options.labelMarker then pass.openLabel (entry.arg 1) entry.place
  else
    match factory.build entry.opcode entry with
    | .error fault => .error fault
    | .ok command => pass.addCommand command entry.place

/-- One row of a grid. Blank rows and remarks mean nothing, nor does what precedes the first
header. -/
def row (factory : Factory) (options : Options) (grid : String) (pass : Pass) (row : Row) :
    Except Fault Pass :=
  -- A header row is told by its cells, so a sheet may change its columns anywhere.
  if !row.isActive then .ok pass
  else if row.isHeader then .ok { pass with header := some (Header.ofRow row) }
  else
    match pass.header with
    | none => .ok pass
    | some header => pass.entry factory ⟨header, row, .row grid row.line, options⟩

/-- The rows of a grid up to the first fault, which is returned beside the state before it. -/
def rows (factory : Factory) (options : Options) (grid : String) (pass : Pass) :
    List Row → Pass × Option Fault
  | [] => (pass, none)
  | next :: rest =>
    match pass.row factory options grid next with
    -- The open label is given up; the closed ones stay.
    | .error fault => (pass, some fault)
    | .ok pass => pass.rows factory options grid rest

end Pass

/-- What compiling a grid into a program came to. -/
structure GridReport where
  /-- The program afterwards. -/
  program : Program
  /-- The fault that ended the compilation, if any. -/
  fault : Option Fault
  /-- What was noticed. -/
  notices : List Notice

/-- Compiles a grid into a program. -/
def Program.addGrid (factory : Factory) (options : Options) (program : Program) (grid : Grid) :
    GridReport :=
  match Pass.rows factory options grid.name ⟨none, none, program⟩ grid.rows with
  | (pass, some fault) => ⟨pass.program, some fault, []⟩
  | (pass, none) =>
    let notices := if pass.header.isNone then [.headerMissing grid.name] else []
    match pass.close with
    | .error fault => ⟨pass.program, some fault, notices⟩
    | .ok program => ⟨program, none, notices⟩

/-! ### Compiling all grids -/

/-- A result with what was noticed on the way, also when the result is a fault. -/
structure Compiled (α : Type) where
  /-- The result. -/
  result : Except Fault α
  /-- What was noticed. -/
  notices : List Notice

namespace Compiled

/-- A result without notices. -/
def ok {α : Type} (a : α) : Compiled α := ⟨.ok a, []⟩

/-- A fault without notices. -/
def fail {α : Type} (fault : Fault) : Compiled α := ⟨.error fault, []⟩

/-- Continues with a result; a fault stays. -/
def andThen {α β : Type} (c : Compiled α) (next : α → Compiled β) : Compiled β :=
  match c.result with
  | .error fault => ⟨.error fault, c.notices⟩
  | .ok a => ⟨(next a).result, c.notices ++ (next a).notices⟩

end Compiled

namespace Program

/-- Compiles grids one after another into a program. -/
def addGrids (factory : Factory) (options : Options) (program : Program) :
    List Grid → Compiled Program
  | [] => .ok program
  | grid :: rest =>
    let report := program.addGrid factory options grid
    match report.fault with
    | some fault => ⟨.error fault, report.notices⟩
    | none =>
      let later := addGrids factory options report.program rest
      ⟨later.result, report.notices ++ later.notices⟩

/-- Compiles the sources of grids, in the order of their names. -/
def compile (factory : Factory) (options : Options) (sources : Dict String) : Compiled Program :=
  addGrids factory options empty (sources.entries.map fun source => Grid.parse source.1 source.2)

end Program

end Storyboard
