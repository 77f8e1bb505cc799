import Storyboard.Grid.Row
import Storyboard.Text.Numeral

/-!
# Headers

A header row names the columns of the rows below it. Names are trimmed, blank cells name nothing,
and of two cells with one name the left one counts. Columns named `Arg` and a number are argument
columns.
-/

namespace Storyboard

/-- The columns that a header row names. -/
structure Header where
  /-- Each name with its position, from left to right. -/
  columns : List (String × Nat)
  deriving DecidableEq, Inhabited

namespace Header

/-- The column that holds the opcode. -/
def commandColumn : String := "Command"

/-- The column that holds the text. -/
def textColumn : String := "Text"

/-- What the names of argument columns start with. -/
def argStem : String := "Arg"

/-- The name of the `n`-th argument column. -/
def argColumn (n : Nat) : String := argStem ++ toString n

/-- The named columns of the cells from position `i` on, given those found to the left. -/
def collect (found : List (String × Nat)) : Nat → List String → List (String × Nat)
  | _, [] => found
  | i, cell :: rest =>
    let name := Text.trim cell
    if name = "" ∨ name ∈ found.map (·.1) then collect found (i + 1) rest
    else collect (found ++ [(name, i)]) (i + 1) rest

/-- The header that a row spells. -/
def ofRow (row : Row) : Header := ⟨collect [] 0 row.cells⟩

/-- The position of a named column. -/
def index? (header : Header) (name : String) : Option Nat :=
  (header.columns.find? (·.1 = name)).map (·.2)

/-- Whether all the names are columns. -/
def containsAll (header : Header) (names : List String) : Bool :=
  names.all fun name => (header.index? name).isSome

/-- The cell of a row under a name; empty when there is no such column. -/
def cell (header : Header) (row : Row) (name : String) : String :=
  match header.index? name with
  | some i => row.cell i
  | none => ""

/-- The cell of a row under the `n`-th argument column. -/
def arg (header : Header) (row : Row) (n : Nat) : String :=
  header.cell row (argColumn n)

/-- The argument number that a column name denotes. -/
def argNumber? (name : String) : Option Nat :=
  let stem := argStem.toList
  if stem.isPrefixOf name.toList then Text.readWord? (name.toList.drop stem.length) else none

/-- The order of argument columns: by number, then by position. -/
def argBefore (a b : Nat × Nat) : Bool :=
  a.1 < b.1 || (a.1 == b.1 && a.2 ≤ b.2)

/-- The argument columns, as numbers with positions, in increasing order. -/
def argColumns (header : Header) : List (Nat × Nat) :=
  (header.columns.filterMap fun column =>
    (argNumber? column.1).map fun n => (n, column.2)).mergeSort argBefore

end Header

/-- Whether a row is a scenario header: it names the opcode column, the text column and at least
one argument column. -/
def Row.isHeader (row : Row) : Bool :=
  !row.isRemark &&
    (Header.ofRow row).containsAll [Header.commandColumn, Header.textColumn] &&
    !(Header.ofRow row).argColumns.isEmpty

end Storyboard
