import Storyboard.Location

/-!
# Commands and labels

A label is a named sequence of commands, and a command is one thing that happens while the label
is played: a line of text, a character that appears, leaves or speaks, a jump, or a choice. Each
command keeps the place of the row that it was built from.
-/

namespace Storyboard

/-- One option of a choice. -/
structure ChoiceOption where
  /-- The caption. -/
  text : String
  /-- The label that playback continues with. -/
  target : String
  deriving DecidableEq, Inhabited

/-- One step of a label. -/
inductive Command where
  /-- A line of narration. -/
  | text (words : String) (place : Location)
  /-- A character is shown on a layer, or the layer is hidden, and the character may speak. -/
  | character (id : String) (hides : Bool) (layer : String) (words : Option String)
      (place : Location)
  /-- Playback continues with another label once this one is over. -/
  | jump (target : String) (place : Location)
  /-- The reader chooses the label that playback continues with. -/
  | choice (options : List ChoiceOption) (place : Location)
  deriving DecidableEq

namespace Command

/-- The opcode of the built-in command of this kind. -/
def opcode : Command → String
  | text .. => "Text"
  | character .. => "Character"
  | jump .. => "Jump"
  | choice .. => "Choice"

/-- The place of the row that the command was built from. -/
def place : Command → Location
  | text _ place => place
  | character _ _ _ _ place => place
  | jump _ place => place
  | choice _ place => place

/-- The labels that the command may continue with. -/
def targets : Command → List String
  | text .. => []
  | character .. => []
  | jump target _ => [target]
  | choice options _ => options.map (·.target)

end Command

/-- A named sequence of commands. -/
structure Label where
  /-- The name, unique in a program. -/
  name : String
  /-- The grid that declares the label. -/
  grid : String
  /-- The commands, in the order of their rows. -/
  commands : List Command := []
  deriving DecidableEq

end Storyboard
