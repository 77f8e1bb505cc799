import Storyboard.CommandLine.Report

/-!
# The program

The outer layer of the command line: it takes a snapshot of the files that an invocation may
need, prints what the library displays, reads lines of input when a run asks for them, and writes
notices to the standard error.
-/

namespace Storyboard.Main

/-- The place that a path leads to if all its directories exist. -/
def placeOf (path : String) : List String :=
  (Path.segments path).foldl
    (fun place segment =>
      if segment = "" ∨ segment = "." then place
      else if segment = ".." then place.dropLast
      else place ++ [segment])
    []

/-- Adds what a path leads to. -/
def addPath (tree : FileTree) (path : String) : IO FileTree := do
  try
    let real ← IO.FS.realPath path
    if ← real.isDir then return { tree with directories := placeOf path :: tree.directories }
    else if ← real.pathExists then
      return { tree with files := (placeOf path, ← IO.FS.readBinFile path) :: tree.files }
    else return tree
  catch _ => return tree

/-- Adds all that lies along a path. -/
def addAlong (tree : FileTree) (path : String) : IO FileTree := do
  let mut tree := tree
  let mut along := "/"
  for segment in Path.segments path do
    along := Path.join along segment
    tree ← addPath tree along
  return tree

/-- Adds all that lies below a directory, with what its links lead to if they are to be followed. -/
partial def addBelow (links : Bool) (tree : FileTree) (path : String) : IO FileTree := do
  let mut tree ← addPath tree path
  let real ← IO.FS.realPath path
  if ← real.isDir then
    for entry in ← real.readDir do
      if links || (← entry.path.symlinkMetadata).type != .symlink then
        tree ← addBelow links tree (Path.join path entry.fileName)
  return tree

/-- Takes a snapshot of what a scenario directory and an assets directory need. -/
def snapshot (working scenarioDir : String) (assetsDir : Option String) : IO FileTree := do
  let root := Path.join working scenarioDir
  let mut tree ← addAlong ⟨[], []⟩ root
  -- A link is no grid. Files that are looked up by name are found through links.
  try tree ← addBelow false tree root catch _ => pure ()
  tree ← addAlong tree (Path.join root Source.settingsFile)
  if let .ok settings := Source.settings tree root then
    tree ← addAlong tree (Path.join root settings.charactersFile)
  if let some dir := assetsDir then
    let assets := Path.join working dir
    tree ← addAlong tree assets
    try tree ← addBelow true tree assets catch _ => pure ()
  return tree

/-- Writes notices to the standard error. -/
def log (notices : List Notice) : IO Unit := do
  for notice in notices do
    let fields := notice.fields.map fun (name, value) =>
      " " ++ name ++ "=" ++ match value with
        | .text s => s
        | .number n => toString n
    IO.eprintln (notice.level.render ++ " " ++ notice.message ++ String.join fields)

/-- Prints lines. -/
def print (lines : List String) : IO Unit := lines.forM fun line => IO.println line

/-- Shows what is new on a stage. -/
def reveal (stage : Stage) : IO Stage := do
  print (Console.displayed stage)
  log stage.notices
  (← IO.getStdout).flush
  return stage.clearJournal

/-- Reads lines of input until one is an answer. -/
partial def ask (selection : Bool) (count : Nat) : IO Control := do
  let line ← try (← IO.getStdin).getLine catch _ => log [.inputUnreadable]; pure ""
  if line.isEmpty then return .stop
  match Console.hear selection count line with
  | .ok signal => return .signal signal
  | .error notice =>
    log [notice]
    ask selection count

/-- Drives a run to its end. -/
partial def drive (scenario : Scenario) (auto : Bool) (stage : Stage) (run : Run) :
    IO Outcome := do
  match run.step scenario stage with
  | .moved stage run => drive scenario auto (← reveal stage) run
  | .ended stage outcome =>
    discard (reveal stage)
    return outcome
  | .waiting stage run =>
    let stage ← reveal stage
    if auto then drive scenario auto (Console.respond stage run .auto).1 run
    else
      let selection := stage.status.suspension = .selection
      let control ← ask selection (Console.optionCount run)
      drive scenario auto (stage.control control) run

/-- Shows a complete answer. -/
def finish (output : Output) : IO UInt32 := do
  log output.notices
  print output.lines
  return UInt32.ofNat output.code

end Storyboard.Main

open Storyboard in
/-- Answers the command line. -/
def main (args : List String) : IO UInt32 := do
  let working := (← IO.currentDir).toString
  match Arguments.parse args with
  | .help =>
    IO.println "Usage: storyboard check --scenario-dir DIR"
    IO.println "       storyboard play --scenario-dir DIR [--label LABEL] [--assets-dir DIR] [--auto]"
    return 0
  | .usage =>
    IO.eprintln "error: see --help"
    return 2
  | .run (.check dir) => Main.finish (Output.check (← Main.snapshot working dir none) working dir)
  | .run (.play dir label assetsDir auto) =>
    let tree ← Main.snapshot working dir assetsDir
    let prepared := Output.prepare tree working dir label assetsDir
    match prepared.result with
    | .error fault => Main.finish (Output.ofFault fault prepared.notices)
    | .ok ready =>
      Main.log prepared.notices
      IO.println "RESULT:OK"
      let outcome ←
        Main.drive ready.scenario auto (Output.stageOf ready) (.new ready.entry)
      Main.finish (Output.ofOutcome ready.entry [] [] outcome)
