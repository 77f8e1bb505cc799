import Storyboard.Location

/-!
# Faults

A fault is why a scenario could not be compiled, loaded or started, as a value. Its code, its
wording and its place are functions of that value.
-/

namespace Storyboard

/-- Why something could not be done. -/
inductive Fault where
  /-- A label row names no label. -/
  | labelUnnamed (place : Location)
  /-- A label was declared before, in the grid given last. -/
  | labelRepeated (name : String) (place : Location) (firstGrid : String)
  /-- A command stands before the first label of its grid. -/
  | commandOutsideLabel (opcode : String) (place : Location)
  /-- A row has neither an opcode nor a text. -/
  | opcodeMissing (place : Location)
  /-- No builder is registered for the opcode. -/
  | opcodeUnknown (opcode : String) (place : Location)
  /-- A command lacks an argument that it needs. -/
  | argumentMissing (opcode what column : String) (place : Location)
  /-- A choice has no targets. -/
  | choiceEmpty (place : Location)
  /-- A choice does not have as many captions as targets. -/
  | choiceMismatch (targets captions : Nat) (place : Location)
  /-- A registered builder refused the row, with a code and a wording of its own. -/
  | refused (code reason : String) (place : Option Location)
  /-- A row of the character table has no id. -/
  | characterUnnamed (place : Location)
  /-- A cell of the character table is no number. -/
  | numberInvalid (column raw : String) (place : Location)
  /-- Two rows of the character table have one id. -/
  | characterRepeated (id : String) (place : Location)
  /-- A character table has no header row. -/
  | characterHeaderMissing (grid : String) (columns : List String)
  /-- The label to start with has nothing to play. -/
  | entryNotFound (label : String)
  /-- No label to start with was given, and the usual one has nothing to play. -/
  | startNotFound (label : String)
  /-- Data can be exchanged only while nothing is played. -/
  | playerBusy
  /-- A directory given on the command line does not exist. -/
  | sourceNotFound (flag path : String)
  /-- A directory given on the command line is something else. -/
  | sourceNotDirectory (flag path : String)
  /-- A file cannot be read as text. -/
  | sourceUnreadable (reason : String)
  /-- A scenario directory holds no grids. -/
  | sourceEmpty (path : String)
  /-- The settings of a scenario directory are malformed. -/
  | settingsInvalid (reason : String)
  /-- A run was refused. -/
  | playRejected (label : String)
  deriving DecidableEq

namespace Fault

/-- The code of the fault. -/
def code : Fault → String
  | labelUnnamed .. => "COMPILE_LABEL_NAME_MISSING"
  | labelRepeated .. => "COMPILE_DUPLICATE_LABEL"
  | commandOutsideLabel .. => "COMPILE_COMMAND_OUTSIDE_LABEL"
  | opcodeMissing .. => "COMPILE_OPCODE_MISSING"
  | opcodeUnknown .. => "COMPILE_UNKNOWN_OPCODE"
  | argumentMissing .. => "COMPILE_ARGUMENT_MISSING"
  | choiceEmpty .. => "COMPILE_CHOICE_EMPTY"
  | choiceMismatch .. => "COMPILE_CHOICE_MISMATCH"
  | refused code .. => code
  | characterUnnamed .. => "COMPILE_CHARACTER_ID_MISSING"
  | numberInvalid .. => "COMPILE_NUMBER_INVALID"
  | characterRepeated .. => "COMPILE_DUPLICATE_CHARACTER"
  | characterHeaderMissing .. => "COMPILE_CHARACTER_HEADER_MISSING"
  | entryNotFound .. => "API_ENTRY_LABEL_NOT_FOUND"
  | startNotFound .. => "API_ENTRY_START_NOT_FOUND"
  | playerBusy => "API_PLAYER_BUSY"
  | sourceNotFound .. => "CLI_SOURCE_NOT_FOUND"
  | sourceNotDirectory .. => "CLI_SOURCE_NOT_DIR"
  | sourceUnreadable .. => "CLI_SOURCE_READ"
  | sourceEmpty .. => "CLI_SOURCE_EMPTY"
  | settingsInvalid .. => "CLI_CONFIG_INVALID"
  | playRejected .. => "CLI_PLAY_REJECTED"

/-- The wording of the fault. -/
def message : Fault → String
  | labelUnnamed place =>
    s!"Label row {place.line} in grid \"{place.grid}\" has no name in Arg1."
  | labelRepeated name place firstGrid =>
    s!"Label \"{name}\" in grid \"{place.grid}\" is already declared in grid \"{firstGrid}\"."
  | commandOutsideLabel opcode place =>
    s!"Command \"{opcode}\" at row {place.line} in grid \"{place.grid}\" precedes any label."
  | opcodeMissing place =>
    s!"Row {place.line} in grid \"{place.grid}\" has cells but no opcode."
  | opcodeUnknown opcode place =>
    s!"Unknown opcode \"{opcode}\" at row {place.line} in grid \"{place.grid}\"."
  | argumentMissing opcode what column _ => s!"{opcode} requires {what} in {column}."
  | choiceEmpty _ => "Choice requires at least one target label."
  | choiceMismatch targets captions _ =>
    s!"Choice has {targets} target labels but {captions} captions."
  | refused _ reason _ => reason
  | characterUnnamed place => s!"Character row {place.line} has no id."
  | numberInvalid column raw place =>
    s!"{column} \"{raw}\" at {place.render} is not a number."
  | characterRepeated id _ => s!"Character \"{id}\" is declared twice."
  | characterHeaderMissing grid columns =>
    let names := String.intercalate "," columns
    s!"Character grid \"{grid}\" has no header with columns {names}."
  | entryNotFound label => s!"Entry label \"{label}\" is missing or has no commands."
  | startNotFound label => s!"Expected a label named \"{label}\" as default entry."
  | playerBusy => "Scenario data can only be reloaded while the player is idle."
  | sourceNotFound flag path => s!"{flag} does not exist: {path}"
  | sourceNotDirectory flag path => s!"{flag} is not a directory: {path}"
  | sourceUnreadable reason => reason
  | sourceEmpty path => s!"No .csv scenario grids under {path}"
  | settingsInvalid reason => reason
  | playRejected label => s!"Label \"{label}\" could not be started."

/-- The place of the fault, when it has one. -/
def place? : Fault → Option Location
  | labelUnnamed place => some place
  | labelRepeated _ place _ => some place
  | commandOutsideLabel _ place => some place
  | opcodeMissing place => some place
  | opcodeUnknown _ place => some place
  | argumentMissing _ _ _ place => some place
  | choiceEmpty place => some place
  | choiceMismatch _ _ place => some place
  | refused _ _ place => place
  | characterUnnamed place => some place
  | numberInvalid _ _ place => some place
  | characterRepeated _ place => some place
  | characterHeaderMissing .. => none
  | entryNotFound .. => none
  | startNotFound .. => none
  | playerBusy => none
  | sourceNotFound .. => none
  | sourceNotDirectory .. => none
  | sourceUnreadable .. => none
  | sourceEmpty .. => none
  | settingsInvalid .. => none
  | playRejected .. => none

end Fault

end Storyboard
