import Storyboard.Location
import Storyboard.Asset.Fault

/-!
# Notices

Everything that compilation and playback report on the side is a notice: what happened, as a
value. Its level, its wording and its fields are functions of that value.
-/

namespace Storyboard

/-- How grave a notice is. -/
inductive Level where
  | info
  | warn
  | error
  deriving DecidableEq

/-- The written form of a level. -/
def Level.render : Level → String
  | info => "INFO"
  | warn => "WARN"
  | error => "ERROR"

/-- The value of a field of a notice. -/
inductive FieldValue where
  /-- A text. -/
  | text (s : String)
  /-- A count or an index. -/
  | number (n : Nat)
  deriving DecidableEq

/-- Something reported on the side. -/
inductive Notice where
  /-- A grid without a header row compiles to nothing. -/
  | headerMissing (grid : String)
  /-- A character's colour cannot be read, so it is the default one. -/
  | colorInvalid (place : Location) (color : String)
  /-- A text names a character that does not exist. -/
  | tagCharacterUnknown (id : String)
  /-- New data took the place of the old. -/
  | dataReloaded (labels : Nat)
  /-- A command of a label uses a character that does not exist. -/
  | prefetchUnknown (place : Location) (id : String)
  /-- An asset could not be loaded. -/
  | loadFailed (name : String) (fault : AssetFault)
  /-- A run was refused because its label has nothing to play. -/
  | notStarted (label : String)
  /-- A run begins. -/
  | starting (label : String)
  /-- The commands of a label begin. -/
  | running (label : String)
  /-- A run came to its end. -/
  | ended (label : String)
  /-- A run was stopped. -/
  | stopped (label : String)
  /-- The label to continue with does not exist. -/
  | targetMissing (label : String)
  /-- More signals arrived than a waiting command keeps. -/
  | signalsLost (count : Nat)
  /-- A choice was answered with an option that it does not have. -/
  | optionOutOfRange (index count : Nat)
  /-- A command was skipped because its character does not exist. -/
  | characterMissing (place : Location) (id : String)
  /-- A character was not shown because its sprite is not loaded. -/
  | spriteMissing (place : Location) (asset : String)
  /-- There is no character table to read. -/
  | tableMissing (path : String)
  /-- A scenario is about to be played. -/
  | playing (scenario label : String)
  /-- A line of input does not name an option. -/
  | optionExpected (input : String) (count : Nat)
  /-- The input cannot be read. -/
  | inputUnreadable
  deriving DecidableEq

namespace Notice

/-- How grave the notice is. -/
def level : Notice → Level
  | headerMissing .. => .warn
  | colorInvalid .. => .warn
  | tagCharacterUnknown .. => .warn
  | dataReloaded .. => .info
  | prefetchUnknown .. => .warn
  | loadFailed .. => .error
  | notStarted .. => .warn
  | starting .. => .info
  | running .. => .info
  | ended .. => .info
  | stopped .. => .info
  | targetMissing .. => .error
  | signalsLost .. => .warn
  | optionOutOfRange .. => .warn
  | characterMissing .. => .error
  | spriteMissing .. => .error
  | tableMissing .. => .warn
  | playing .. => .info
  | optionExpected .. => .warn
  | inputUnreadable => .warn

/-- The wording of the notice. -/
def message : Notice → String
  | headerMissing .. => "grid has no header row; nothing compiled"
  | colorInvalid .. => "invalid name color, using default"
  | tagCharacterUnknown .. => "unknown character in text tag"
  | dataReloaded .. => "scenario data reloaded"
  | prefetchUnknown .. => "unknown character, nothing to prefetch"
  | loadFailed .. => "asset load failed"
  | notStarted .. => "label is missing or has no commands, scenario not started"
  | starting .. => "scenario starting"
  | running .. => "running label"
  | ended .. => "scenario ended"
  | stopped .. => "scenario stopped"
  | targetMissing .. => "jump target does not exist, ending scenario"
  | signalsLost .. => "player signals lagged"
  | optionOutOfRange .. => "choice index out of range, still waiting"
  | characterMissing .. => "character settings not found, command skipped"
  | spriteMissing .. => "sprite is not resident, character not shown"
  | tableMissing .. => "character table not found, no characters loaded"
  | playing .. => "playing scenario"
  | optionExpected .. => "expected an option index"
  | inputUnreadable => "failed to read input"

/-- The fields of the notice. -/
def fields : Notice → List (String × FieldValue)
  | headerMissing grid => [("grid", .text grid)]
  | colorInvalid place color => [("location", .text place.render), ("color", .text color)]
  | tagCharacterUnknown id => [("character", .text id)]
  | dataReloaded labels => [("labels", .number labels)]
  | prefetchUnknown place id => [("location", .text place.render), ("character", .text id)]
  | loadFailed name fault => [("asset", .text name), ("error", .text fault.message)]
  | notStarted label => [("label", .text label)]
  | starting label => [("label", .text label)]
  | running label => [("label", .text label)]
  | ended label => [("label", .text label)]
  | stopped label => [("label", .text label)]
  | targetMissing label => [("label", .text label)]
  | signalsLost count => [("skipped", .number count)]
  | optionOutOfRange index count => [("index", .number index), ("option_count", .number count)]
  | characterMissing place id => [("location", .text place.render), ("character", .text id)]
  | spriteMissing place asset => [("location", .text place.render), ("asset", .text asset)]
  | tableMissing path => [("path", .text path)]
  | playing scenario label => [("scenario", .text scenario), ("label", .text label)]
  | optionExpected input count => [("input", .text input), ("option_count", .number count)]
  | inputUnreadable => []

end Notice

end Storyboard
