import Storyboard.Text.Numeral

/-!
# Places in a grid

A location names a line of a grid and, when a single cell is meant, its column. Lines count from
one and columns from zero; the written form counts both from one.
-/

namespace Storyboard

/-- A line of a named grid, or one cell of it. -/
structure Location where
  /-- The name of the grid. -/
  grid : String
  /-- The line, counted from one. -/
  line : Nat
  /-- The column, counted from zero, when one cell is meant. -/
  column : Option Nat := none
  deriving DecidableEq, Inhabited

namespace Location

/-- The location of a whole row. -/
def row (grid : String) (line : Nat) : Location := ⟨grid, line, none⟩

/-- The cell of the same line in a column. -/
def atColumn (place : Location) (column : Nat) : Location :=
  { place with column := some column }

/-- The cell in the column, or the same place when there is none. -/
def atColumn? (place : Location) : Option Nat → Location
  | some column => place.atColumn column
  | none => place

/-- The written form: `grid:line`, with `:column` for a cell. The column is a 64-bit word. -/
def render (place : Location) : String :=
  match place.column with
  | none => s!"{place.grid}:{place.line}"
  | some column => s!"{place.grid}:{place.line}:{(column + 1) % Text.wordLimit}"

end Location

end Storyboard
