import Storyboard.Player.Run
import Storyboard.Text.Quoted

/-!
# The console

The console displays events as lines and answers suspensions: automatically, with the first
option of every choice, or from lines of input. A line of input acknowledges a line of text
whatever it says, and chooses an option if it is the option's index. When the input is used up or
cannot be read, the run is stopped.
-/

namespace Storyboard

namespace Console

/-- The lines that display an event. -/
def display : Event → List String
  | .start => ["EVENT:START"]
  | .finish => ["EVENT:END"]
  | .text speaker words =>
    (match speaker with
      | some speaker => ["SPEAKER_JSON:" ++ Text.quoted speaker.name]
      | none => []) ++ ["TEXT_JSON:" ++ Text.quoted words]
  | .appear layer id _ => ["SHOW:" ++ layer ++ "|" ++ id]
  | .hide layer => ["HIDE:" ++ layer]
  | .choices items =>
    items.map fun item => "CHOICE:" ++ toString item.index ++ "|" ++ Text.quoted item.text
  | .asset _ => []

/-- The lines that display the events of a stage. -/
def displayed (stage : Stage) : List String :=
  stage.events.flatMap fun event => display event.1

/-- A line of input, unless it is no text. -/
abbrev InputLine := Option String

/-- The text of the bytes of a line of input, without a carriage return at its end. -/
def inputLine (bytes : List UInt8) : InputLine :=
  let trimmed := if bytes.getLast? = some 13 then bytes.dropLast else bytes
  String.fromUTF8? trimmed.toByteArray

/-- The lines of an input. -/
def inputLines (input : ByteArray) : List InputLine :=
  let pieces := input.toList.splitOn 10
  pieces.dropLast.map inputLine ++
    match pieces.getLastD [] with
    | [] => []
    | last => [String.fromUTF8? last.toByteArray]

/-- Where answers come from. -/
inductive Responder where
  /-- Every line is acknowledged and the first option chosen. -/
  | auto
  /-- Lines of input. -/
  | interactive (lines : List InputLine)
  deriving DecidableEq

/-- The option that a line of input chooses. -/
def optionOf? (count : Nat) (line : String) : Option Nat :=
  (Text.readWord? (Text.trimChars line.toList)).filter (· < count)

/-- What a suspension with the given number of options makes of a line of input: a signal, or a
notice and the wish for another line. -/
def hear (selection : Bool) (count : Nat) (line : String) : Except Notice Signal :=
  if selection then
    match optionOf? count line with
    | some index => .ok (.choose index)
    | none => .error (.optionExpected (Text.trim line) count)
  else .ok .advance

/-- The first answer among lines of input, with what was noticed and the lines behind it. -/
def listen (selection : Bool) (count : Nat) :
    List InputLine → Control × List Notice × List InputLine
  | [] => (.stop, [], [])
  -- An unreadable line counts as the end of the input.
  | none :: rest => (.stop, [.inputUnreadable], rest)
  | some line :: rest =>
    match hear selection count line with
    | .ok signal => (.signal signal, [], rest)
    | .error notice =>
      let (control, notices, rest) := listen selection count rest
      (control, notice :: notices, rest)

/-- The answer to a suspension. -/
def answer (selection : Bool) (count : Nat) : Responder → Control × List Notice × Responder
  | .auto => (.signal (if selection then .choose 0 else .advance), [], .auto)
  | .interactive lines =>
    let (control, notices, rest) := listen selection count lines
    (control, notices, .interactive rest)

/-- The number of options that a run waits at. -/
def optionCount (run : Run) : Nat :=
  match run.point with
  | .choosing _ _ targets => targets.length
  | _ => 0

/-- Answers what a waiting run asks for; a run that asks for nothing is left alone. -/
def respond (stage : Stage) (run : Run) (responder : Responder) : Stage × Responder :=
  match stage.status.suspension with
  | .none => (stage, responder)
  | suspension =>
    let (control, notices, responder) :=
      answer (suspension = .selection) (optionCount run) responder
    ((stage.note notices).control control, responder)

/-- Drives a run to its end, if it ends within the given number of steps. -/
def drive (scenario : Scenario) : Nat → Stage → Run → Responder → Option (Stage × Outcome)
  | 0, _, _, _ => none
  | fuel + 1, stage, run, responder =>
    match run.step scenario stage with
    | .ended stage outcome => some (stage, outcome)
    | .moved stage run => drive scenario fuel stage run responder
    | .waiting stage run =>
      let (stage, responder) := respond stage run responder
      drive scenario fuel stage run responder

end Console

end Storyboard
