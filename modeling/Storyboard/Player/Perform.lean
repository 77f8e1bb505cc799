import Storyboard.Scenario
import Storyboard.Stage.Basic

/-!
# Performing a command

A command is performed at once: it displays what it has to display, and says how the run goes on.
-/

namespace Storyboard

/-- How a run goes on after a command was performed. -/
inductive Flow where
  /-- With the next command. -/
  | proceed
  /-- With the next command; once the label is over, with the named one. -/
  | goto (target : String)
  /-- When the line is read. -/
  | awaitLine
  /-- When one of the options with these targets is chosen. -/
  | awaitSelection (targets : List String)
  deriving DecidableEq

namespace Scenario

/-- Displays a line. -/
def say (scenario : Scenario) (speaker : Option Speaker) (text : String) (stage : Stage) : Stage :=
  let rendering := scenario.render text
  (stage.note rendering.notices).emit (.text speaker rendering.text)

/-- Shows the character on the layer, if its sprite is resident. -/
def present (character : Character) (layer : String) (place : Location) (stage : Stage) : Stage :=
  match stage.depot.handle? character.sprite with
  | some sprite => stage.emit (.appear layer character.id sprite)
  | none => stage.note [.spriteMissing place character.sprite]

/-- The options of a choice as they are shown, from position `i` on. -/
def items (scenario : Scenario) : Nat → List ChoiceOption → List SelectionItem
  | _, [] => []
  | i, option :: rest => ⟨i, (scenario.render option.text).text⟩ :: scenario.items (i + 1) rest

/-- Performs a command. -/
def perform (scenario : Scenario) (stage : Stage) : Command → Stage × Flow
  | .text words _ => (scenario.say none words stage, .awaitLine)
  | .character id hides layer words place =>
    match scenario.character? id with
    | none => (stage.note [.characterMissing place id], .proceed)
    | some character =>
      let stage :=
        if hides then stage.emit (.hide layer) else present character layer place stage
      match words with
      | none => (stage, .proceed)
      | some words =>
        (scenario.say (some ⟨character.name, character.color⟩) words stage, .awaitLine)
  | .jump target _ => (stage, .goto target)
  | .choice options _ =>
    let notices := options.flatMap fun option => (scenario.render option.text).notices
    ((stage.note notices).emit (.choices (scenario.items 0 options)),
      .awaitSelection (options.map (·.target)))

end Scenario

end Storyboard
