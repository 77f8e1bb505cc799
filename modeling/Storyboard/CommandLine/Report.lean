import Storyboard.CommandLine.Arguments
import Storyboard.CommandLine.Console
import Storyboard.Player.Session
import Storyboard.Source.Directory

/-!
# Answers of the command line

`check` compiles a scenario directory and lists its labels, its targets that lead nowhere and the
size of its cast. `play` plays it on the console. Both report a fault in the same way.
-/

namespace Storyboard

/-- What the program prints, notices and returns. -/
structure Output where
  /-- The exit code. -/
  code : Nat
  /-- The printed lines. -/
  lines : List String := []
  /-- What was noticed. -/
  notices : List Notice := []

namespace Output

/-- The lines that report a fault. -/
def faultLines (fault : Fault) : List String :=
  let message := match fault.place? with
    | some place => fault.message ++ " (" ++ place.render ++ ")"
    | none => fault.message
  ["RESULT:ERROR", "ERROR_CODE:" ++ fault.code, "ERROR_MSG_JSON:" ++ Text.quoted message]

/-- The report of a fault. -/
def ofFault (fault : Fault) (notices : List Notice) : Output := ⟨1, faultLines fault, notices⟩

/-- The lines that describe a scenario. -/
def checkLines (scenario : Scenario) : List String :=
  ["RESULT:OK"] ++
    (scenario.program.labels.values.map fun label =>
      "LABEL:" ++ label.name ++ "|" ++ toString label.commands.length) ++
    (scenario.program.unresolved.map fun pair => "UNRESOLVED:" ++ pair.1 ++ "|" ++ pair.2) ++
    ["CHARACTERS:" ++ toString scenario.cast.members.size]

/-- Checks a scenario directory. -/
def check (tree : FileTree) (working dir : String) : Output :=
  let compiled := (Source.load tree working dir).andThen fun source =>
    Scenario.compile .builtin source.options source.sources
  match compiled.result with
  | .error fault => ofFault fault compiled.notices
  | .ok scenario => ⟨0, checkLines scenario, compiled.notices⟩

/-- A scenario that is ready to be played. -/
structure Prepared where
  /-- What it is called. -/
  title : String
  /-- The scenario. -/
  scenario : Scenario
  /-- The label to start from. -/
  entry : String
  /-- Where its assets come from. -/
  store : Store

/-- The store of an assets directory, or one that has everything. -/
def assetStore (tree : FileTree) (working : String) : Option String → Except Fault Store
  | none => .ok .ready
  | some dir =>
    match Source.directory tree working dir "assets-dir" with
    | .error fault => .error fault
    | .ok root => .ok (Source.store tree root)

/-- Reads and compiles what is to be played. -/
def prepare (tree : FileTree) (working dir : String) (label assetsDir : Option String) :
    Compiled Prepared :=
  (Source.load tree working dir).andThen fun source =>
    match assetStore tree working assetsDir with
    | .error fault => .fail fault
    | .ok store =>
      (Scenario.prepare source.options source.sources label).andThen fun (scenario, entry) =>
        ⟨.ok ⟨source.title, scenario, entry, store⟩, [.playing source.title entry]⟩

/-- The stage that a scenario is played on. -/
def stageOf (prepared : Prepared) : Stage := { depot := .ofStore prepared.store }

/-- The report of a run that has ended. -/
def ofOutcome (entry : String) (lines : List String) (notices : List Notice) : Outcome → Output
  | .completed label => ⟨0, lines ++ ["OUTCOME:COMPLETED|" ++ label], notices⟩
  | .stopped => ⟨0, lines ++ ["OUTCOME:STOPPED"], notices⟩
  | .rejected => ⟨1, lines ++ faultLines (.playRejected entry), notices⟩

/-- Plays a scenario directory, if the run ends within the given number of steps. -/
def play (fuel : Nat) (tree : FileTree) (working dir : String) (label assetsDir : Option String)
    (responder : Console.Responder) : Option Output :=
  let prepared := prepare tree working dir label assetsDir
  match prepared.result with
  | .error fault => some (ofFault fault prepared.notices)
  | .ok ready =>
    match Console.drive ready.scenario fuel (stageOf ready) (.new ready.entry) responder with
    | none => none
    | some (stage, outcome) =>
      some (ofOutcome ready.entry ("RESULT:OK" :: Console.displayed stage)
        (prepared.notices ++ stage.notices) outcome)

/-- Answers a command line in a working directory, with an input. -/
def run (fuel : Nat) (tree : FileTree) (working : String) (input : ByteArray)
    (args : List String) : Option Output :=
  match Arguments.parse args with
  | .help => some { code := 0 }
  | .usage => some { code := 2 }
  | .run (.check dir) => some (check tree working dir)
  | .run (.play dir label assetsDir auto) =>
    play fuel tree working dir label assetsDir
      (if auto then .auto else .interactive (Console.inputLines input))

end Output

end Storyboard
