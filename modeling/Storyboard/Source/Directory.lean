import Storyboard.Files.Tree
import Storyboard.Scenario
import Storyboard.Source.Settings

/-!
# Scenario directories

A scenario directory holds the sources of a scenario: every file below it with the extension
`csv`, in either case, is a grid, named by its path from the directory, except for the one that
the settings name as the character table.
-/

namespace Storyboard

/-- The sources found in a scenario directory. -/
structure Source where
  /-- What the scenario is called. -/
  title : String
  /-- The tables. -/
  sources : Sources
  /-- The markers of the sheets. -/
  options : Options

namespace Source

/-- The file of the settings. -/
def settingsFile : String := "scenario.json"

/-- The extension of grids. -/
def gridExtension : String := "csv"

/-- The path of a directory that was given under a flag, relative to a working directory. -/
def directory (tree : FileTree) (working dir flag : String) : Except Fault String :=
  let path := Path.join working dir
  match tree.resolve path with
  | .error _ => .error (.sourceNotFound flag path)
  | .ok (_, .file _) => .error (.sourceNotDirectory flag path)
  | .ok (_, .directory) => .ok path

/-- The text of a content. -/
def textOf (content : ByteArray) : Except Fault String :=
  match String.fromUTF8? content with
  | some text => .ok text
  | none => .error (.sourceUnreadable "stream did not contain valid UTF-8")

/-- The settings of a directory; the defaults when it has none. -/
def settings (tree : FileTree) (root : String) : Except Fault Settings :=
  match tree.read (Path.join root settingsFile) with
  | .error _ => .ok {}
  | .ok content => do
    match Settings.parse? (← textOf content) with
    | some settings => return settings
    | none => .error (.settingsInvalid "settings are malformed")

/-- Whether a file is a grid by its name. -/
def isGrid (segments : List String) : Bool :=
  match segments.getLast?.bind Path.extension? with
  | some extension => extension.map Char.toLower = gridExtension
  | none => false

/-- The name of a grid: its path, with slashes for backslashes. -/
def gridName (segments : List String) : String :=
  (Path.ofSegments segments).map fun c => if c = '\\' then '/' else c

/-- The files of a directory that are grids, by name. -/
def gridFiles (tree : FileTree) (place : List String) (charactersFile : String) :
    List (String × ByteArray) :=
  (((tree.below place).filter fun file => isGrid file.1).map fun file =>
    -- The setting is compared with the name, not with the file that it leads to.
    (gridName file.1, file.2)).filter (·.1 ≠ charactersFile)

/-- The texts of files. -/
def texts : List (String × ByteArray) → Except Fault (List (String × String))
  | [] => .ok []
  | file :: rest => do
    let text ← textOf file.2
    return (file.1, text) :: (← texts rest)

/-- The grids of a directory, of which there has to be one. -/
def grids (tree : FileTree) (root charactersFile : String) : Except Fault (Dict String) := do
  let place := match tree.resolve root with
    | .ok (place, _) => place
    | .error _ => []
  let found ← texts (gridFiles tree place charactersFile)
  if found = [] then .error (.sourceEmpty root) else return Dict.ofList found

/-- The character table of a directory, if it has one. -/
def characters (tree : FileTree) (root charactersFile : String) :
    Except Fault (Option String × List Notice) :=
  let path := Path.join root charactersFile
  match tree.read path with
  | .error _ => .ok (none, [.tableMissing path])
  | .ok content => do return (some (← textOf content), [])

/-- Reads a scenario directory. -/
def read (tree : FileTree) (working dir : String) : Except Fault (Source × List Notice) := do
  let root ← directory tree working dir "scenario-dir"
  let settings ← settings tree root
  let grids ← grids tree root settings.charactersFile
  let (characters, notices) ← characters tree root settings.charactersFile
  return (⟨"scenario-dir:" ++ root, ⟨grids, characters⟩, settings.options⟩, notices)

/-- Reads a scenario directory, with what was noticed. -/
def load (tree : FileTree) (working dir : String) : Compiled Source :=
  match read tree working dir with
  | .error fault => .fail fault
  | .ok (source, notices) => ⟨.ok source, notices⟩

/-- The store of the files below a directory. -/
def store (tree : FileTree) (root : String) : Store :=
  { Store.ready with
    fault? := fun name =>
      match tree.read (Path.join root name) with
      | .ok _ => none
      | .error .notFound => some (.notFound name)
      | .error fault => some (.unreadable name fault.reason) }

end Source

end Storyboard
