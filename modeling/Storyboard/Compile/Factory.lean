import Storyboard.Command
import Storyboard.Dict
import Storyboard.Fault
import Storyboard.Grid.Header

/-!
# Building commands from rows

The opcode of a row decides which builder makes its command. A factory keeps the builders by
opcode; registering a builder under an opcode replaces the one that was there. The kinds of
commands are fixed, the opcodes that lead to them are not.
-/

namespace Storyboard

/-- The words that a sheet uses for its markers. -/
structure Options where
  /-- The opcode of a row that opens a label. -/
  labelMarker : String := "Label"
  /-- The argument of a character row that hides the layer. -/
  hideMarker : String := "On"
  deriving DecidableEq, Inhabited

/-- A row together with all that a builder may look at. -/
structure Entry where
  /-- The header in force. -/
  header : Header
  /-- The row. -/
  row : Row
  /-- The place of the row. -/
  place : Location
  /-- The words for markers. -/
  options : Options

namespace Entry

/-- The text cell, as it stands. -/
def text (entry : Entry) : String := entry.header.cell entry.row Header.textColumn

/-- The trimmed cell of the `n`-th argument. -/
def arg (entry : Entry) (n : Nat) : String := Text.trim (entry.header.arg entry.row n)

/-- The trimmed opcode cell. -/
def opcode (entry : Entry) : String :=
  Text.trim (entry.header.cell entry.row Header.commandColumn)

/-- The `n`-th argument, which the command needs as `what`. -/
def requiredArg (entry : Entry) (n : Nat) (what : String) : Except Fault String :=
  if entry.arg n = "" then
    .error (.argumentMissing entry.opcode what (Header.argColumn n)
      (entry.place.atColumn? (entry.header.index? (Header.argColumn n))))
  else .ok (entry.arg n)

/-- The text cell, unless it is blank. -/
def spoken? (entry : Entry) : Option String :=
  if Text.isBlankText entry.text then none else some entry.text

/-- The targets of a choice: the argument cells that are not blank. -/
def choiceTargets (entry : Entry) : List String :=
  (entry.header.argColumns.map fun column => Text.trim (entry.row.cell column.2)).filter (· ≠ "")

/-- The captions of a choice: the parts of the text between bars. -/
def choiceCaptions (entry : Entry) : List String :=
  if Text.isBlankText entry.text then []
  else (entry.text.toList.splitOn '|').map fun part => String.ofList (Text.trimChars part)

end Entry

/-- Makes a command of a row, or says why it cannot. -/
abbrev Builder := Entry → Except Fault Command

namespace Builder

/-- A line of narration. -/
def text : Builder := fun entry => .ok (.text entry.text entry.place)

/-- A character that appears, leaves or speaks. -/
def character : Builder := fun entry => do
  let id ← entry.requiredArg 1 "a character id"
  let layer ← entry.requiredArg 3 "a layer name"
  return .character id (decide (entry.arg 2 = entry.options.hideMarker)) layer entry.spoken?
    entry.place

/-- A jump. -/
def jump : Builder := fun entry => do
  let target ← entry.requiredArg 1 "a target label"
  return .jump target entry.place

/-- A choice, whose captions and targets belong together in order. -/
def choice : Builder := fun entry =>
  let targets := entry.choiceTargets
  let captions := entry.choiceCaptions
  -- The lack of targets is reported first, whatever the captions are.
  if targets = [] then .error (.choiceEmpty entry.place)
  else if targets.length ≠ captions.length then
    .error (.choiceMismatch targets.length captions.length entry.place)
  else .ok (.choice (List.zipWith ChoiceOption.mk captions targets) entry.place)

/-- A line of narration in round brackets. -/
def aside : Builder := fun entry => .ok (.text ("(" ++ entry.text ++ ")") entry.place)

/-- Refuses every row at its first cell, with its first argument as the reason. -/
def refuse : Builder := fun entry =>
  .error (.refused "CUSTOM" (entry.arg 1) (some (entry.place.atColumn 0)))

end Builder

/-- The builders by opcode. -/
structure Factory where
  /-- The registered builders. -/
  builders : Dict Builder

namespace Factory

/-- The factory without builders. -/
def empty : Factory := ⟨.empty⟩

/-- Registers a builder, in place of the one that had the opcode. -/
def register (factory : Factory) (opcode : String) (builder : Builder) : Factory :=
  ⟨factory.builders.insert opcode builder⟩

/-- The factory of the built-in opcodes. -/
def builtin : Factory :=
  (((empty.register "Text" .text).register "Character" .character).register "Jump" .jump).register
    "Choice" .choice

/-- Whether an opcode has a builder. -/
def contains (factory : Factory) (opcode : String) : Bool := factory.builders.contains opcode

/-- The registered opcodes, in order. -/
def opcodes (factory : Factory) : List String := factory.builders.keys

/-- Builds the command of a row for an opcode. Without an opcode, a row with a text is a line of
narration. -/
def build (factory : Factory) (opcode : String) (entry : Entry) : Except Fault Command :=
  -- What is registered under the empty opcode is never asked.
  if opcode = "" then
    if Text.isBlankText entry.text then .error (.opcodeMissing entry.place)
    else Builder.text entry
  else
    match factory.builders.find? opcode with
    | some builder => builder entry
    | none => .error (.opcodeUnknown opcode entry.place)

/-- The builder of a built-in opcode, under whatever opcode it is registered. -/
def builtinAs (opcode : String) : Builder := builtin.build opcode

end Factory

end Storyboard
