import Storyboard.Text.Blank
import Storyboard.Text.Lines

/-!
# Rows and grids

A grid is a named sheet of rows, one per line of its source, and a row is the line split at its
commas. There is no quoting, so a cell never holds a comma. A byte-order mark at the start of the
source is no part of the first cell, and a carriage return at the end of a line is no part of its
last cell.
-/

namespace Storyboard

/-- One line of a grid, split into cells. -/
structure Row where
  /-- The cells, from left to right. -/
  cells : List String
  /-- The line number, counted from one. -/
  line : Nat
  deriving DecidableEq, Inhabited

namespace Row

/-- The row of a line of text. -/
def parse (text : List Char) (line : Nat) : Row :=
  ⟨((Text.chop '\r' text).splitOn ',').map String.ofList, line⟩

/-- The cell at a position; a row is continued by empty cells. -/
def cell (row : Row) (i : Nat) : String := row.cells.getD i ""

/-- Whether all cells are blank. -/
def isBlank (row : Row) : Bool := row.cells.all Text.isBlankText

/-- Whether the row is a remark: its first cell starts with two slashes. -/
def isRemark (row : Row) : Bool := "//".toList.isPrefixOf (row.cell 0).toList

/-- Whether the row is neither blank nor a remark. -/
def isActive (row : Row) : Bool := !row.isBlank && !row.isRemark

end Row

/-- A named sheet of rows. -/
structure Grid where
  /-- The name of the sheet. -/
  name : String
  /-- The rows, in the order of their lines. -/
  rows : List Row
  deriving DecidableEq, Inhabited

namespace Grid

/-- The byte-order mark. -/
def byteOrderMark : Char := '\ufeff'

/-- The rows of consecutive lines, the first of which has the given number. -/
def numberRows : Nat → List (List Char) → List Row
  | _, [] => []
  | n, text :: rest => Row.parse text n :: numberRows (n + 1) rest

/-- The grid of a source text. -/
def parse (name source : String) : Grid :=
  ⟨name, numberRows 1 (Text.lines (Text.chopFront byteOrderMark source.toList))⟩

end Grid

end Storyboard
