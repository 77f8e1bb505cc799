import Storyboard.Cast
import Storyboard.Tag.Markup

/-!
# Scenarios

A scenario is what playback works on: the program of all grids, the cast, and the markup of its
texts. The tag `char` stands for the displayed name of a character and is always there; a host
may register more tags. New sources can be loaded into a scenario, which keeps its markup and, if
the sources do not compile, all its data.
-/

namespace Storyboard

/-- The tables that a scenario is compiled from. -/
structure Sources where
  /-- The sources of the grids, by name. -/
  grids : Dict String
  /-- The source of the character table. -/
  characters : Option String

/-- A compiled scenario. -/
structure Scenario where
  /-- The labels. -/
  program : Program
  /-- The characters. -/
  cast : Cast
  /-- The tags of texts. -/
  markup : Markup Cast

namespace Scenario

/-- The tag that stands for the name of a character. -/
def characterTag : String := "char"

/-- The name of the character table in faults and notices. -/
def characterGrid : String := "characters"

/-- The displayed name of a character; an unknown id stands for itself. -/
def displayName : Handler Cast := fun cast id =>
  match cast.find? id with
  | some character => ⟨character.name, []⟩
  | none => ⟨id, [.tagCharacterUnknown id]⟩

/-- The scenario of a program and a cast. -/
def new (program : Program) (cast : Cast) : Scenario :=
  ⟨program, cast, Markup.empty.register characterTag displayName⟩

/-- Compiles the grids, then the character table. -/
def compileSources (factory : Factory) (options : Options) (sources : Sources) :
    Compiled (Program × Cast) :=
  -- A faulty grid is reported even if the character table is faulty too.
  (Program.compile factory options sources.grids).andThen fun program =>
    match sources.characters with
    | none => .ok (program, .empty)
    | some source =>
      (Cast.compile characterGrid source).andThen fun cast => .ok (program, cast)

/-- Compiles a scenario. -/
def compile (factory : Factory) (options : Options) (sources : Sources) : Compiled Scenario :=
  (compileSources factory options sources).andThen fun (program, cast) => .ok (new program cast)

/-- Loads new sources: the scenario afterwards, and whether they could be compiled. The markup
stays, and the old data stays too until all of the new data is there. -/
def reload (factory : Factory) (options : Options) (sources : Sources) (scenario : Scenario) :
    Scenario × Compiled Unit :=
  let compiled := compileSources factory options sources
  match compiled.result with
  | .error fault => (scenario, ⟨.error fault, compiled.notices⟩)
  | .ok (program, cast) =>
    ({ scenario with program, cast },
      ⟨.ok (), compiled.notices ++ [.dataReloaded program.labels.size]⟩)

/-- Gives a tag a handler, in place of the one it had. -/
def registerTag (scenario : Scenario) (name : String) (handler : Handler Cast) : Scenario :=
  { scenario with markup := scenario.markup.register name handler }

/-- The label of a name. -/
def label? (scenario : Scenario) (name : String) : Option Label := scenario.program.label? name

/-- The commands of a label; none when it does not exist. -/
def commands (scenario : Scenario) (label : String) : List Command :=
  scenario.program.commands label

/-- The character of an id. -/
def character? (scenario : Scenario) (id : String) : Option Character := scenario.cast.find? id

/-- A text with its tags replaced. -/
def render (scenario : Scenario) (text : String) : Rendering :=
  scenario.markup.render scenario.cast text

/-- The sprite that a command needs, if any. -/
def requiredSprite? (scenario : Scenario) : Command → Option String
  | .character id _ _ _ _ =>
    ((scenario.character? id).map (·.sprite)).filter (· ≠ "")
  | _ => none

/-- What is noticed about the sprite of a command. -/
def spriteNotices (scenario : Scenario) : Command → List Notice
  | .character id _ _ _ place =>
    if (scenario.character? id).isNone then [.prefetchUnknown place id] else []
  | _ => []

/-- The sprites that the commands of a label need, in order and without repetition. -/
def requiredAssets (scenario : Scenario) (label : String) : List String :=
  (Dict.ofList (((scenario.commands label).filterMap scenario.requiredSprite?).map
    fun name => (name, ()))).keys

/-- What is noticed while the sprites of a label are looked up. -/
def assetNotices (scenario : Scenario) (label : String) : List Notice :=
  (scenario.commands label).flatMap scenario.spriteNotices

end Scenario

end Storyboard
