import Storyboard.Color
import Storyboard.Number.Binary
import Storyboard.Compile.Program

/-!
# Casts

The cast of a scenario is read from a character table: below the first row that names all
required columns, every row that is neither blank nor a remark describes one character. Ids are
unique. A number that cannot be read is a fault; a colour that cannot be read is only noticed.
-/

namespace Storyboard

/-- A character of the scenario. -/
structure Character where
  /-- The id that commands use. -/
  id : String
  /-- The name that is displayed. -/
  name : String
  /-- The horizontal position. -/
  x : Binary32
  /-- The vertical position. -/
  y : Binary32
  /-- The scale of the sprite. -/
  scale : Binary32
  /-- The file of the sprite; may be empty. -/
  sprite : String
  /-- The file of the voice. -/
  voice : Option String
  /-- The colour of the displayed name. -/
  color : Color
  deriving DecidableEq

/-- The characters of a scenario, by id. -/
structure Cast where
  /-- The characters. -/
  members : Dict Character

namespace Cast

/-- The cast without characters. -/
def empty : Cast := ⟨.empty⟩

instance : Inhabited Cast := ⟨empty⟩

/-- The character of an id. -/
def find? (cast : Cast) (id : String) : Option Character := cast.members.find? id

/-- The columns that a header of a character table names. -/
def requiredColumns : List String := ["Id", "Name", "PositionX", "PositionY", "Scale", "Sprite"]

/-- The trimmed cell of a row under a column. -/
def cell (header : Header) (row : Row) (column : String) : String :=
  Text.trim (header.cell row column)

/-- The number in a column. -/
def number (header : Header) (row : Row) (place : Location) (column : String) :
    Except Fault Binary32 :=
  match Binary32.readFinite? (cell header row column).toList with
  | some value => .ok value
  | none =>
    .error (.numberInvalid column (cell header row column)
      (place.atColumn? (header.index? column)))

/-- The colour of a row: white when the cell is blank or cannot be read. -/
def color (header : Header) (row : Row) : Color :=
  (Color.ofHex? (cell header row "Color")).getD .white

/-- What is noticed about the colour of a row. -/
def colorNotices (header : Header) (row : Row) (place : Location) : List Notice :=
  let raw := cell header row "Color"
  if raw ≠ "" ∧ Color.ofHex? raw = none then [.colorInvalid place raw] else []

/-- The character that a row describes. -/
def character (header : Header) (row : Row) (place : Location) : Except Fault Character :=
  let id := cell header row "Id"
  let voice := cell header row "Voice"
  if id = "" then .error (.characterUnnamed place)
  else do
    let x ← number header row place "PositionX"
    let y ← number header row place "PositionY"
    let scale ← number header row place "Scale"
    return {
      id, x, y, scale
      name := cell header row "Name"
      sprite := cell header row "Sprite"
      voice := if voice = "" then none else some voice
      color := color header row }

/-- Adds the character of a row. -/
def addRow (header : Header) (grid : String) (cast : Cast) (row : Row) : Compiled Cast :=
  let place := Location.row grid row.line
  match character header row place with
  | .error fault => .fail fault
  | .ok member =>
    -- The colour is looked at before the id is compared with the others.
    let notices := colorNotices header row place
    if (cast.find? member.id).isSome then ⟨.error (.characterRepeated member.id place), notices⟩
    else ⟨.ok ⟨cast.members.insert member.id member⟩, notices⟩

/-- Adds the characters of rows below a header. -/
def addRows (header : Header) (grid : String) (cast : Cast) : List Row → Compiled Cast
  | [] => .ok cast
  | row :: rest => (addRow header grid cast row).andThen fun cast => addRows header grid cast rest

/-- Whether a row is the header of a character table. -/
def isHeader (row : Row) : Bool := (Header.ofRow row).containsAll requiredColumns

/-- The cast of a character table. -/
def ofGrid (grid : Grid) : Compiled Cast :=
  match (grid.rows.filter Row.isActive).dropWhile fun row => !isHeader row with
  | [] => .fail (.characterHeaderMissing grid.name requiredColumns)
  | header :: rest => addRows (Header.ofRow header) grid.name empty rest

/-- The cast of the source of a character table. -/
def compile (name source : String) : Compiled Cast := ofGrid (Grid.parse name source)

end Cast

end Storyboard
