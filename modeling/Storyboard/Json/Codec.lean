import Storyboard.Cast
import Storyboard.Json.Printer
import Storyboard.Json.Reader
import Storyboard.Stage.Basic

/-!
# The JSON forms of the library's types

A record is written as an object with one member per field. It is read from an object in which
every field occurs at most once and other members are skipped, or from an array of the fields in
order. A field that may be absent may also be missing from the object.

A command is written with a member `kind` beside its fields, and read in the same two ways, with
the kind as the first item of an array.
-/

namespace Storyboard

namespace Json

/-! ### Parts of values -/

/-- The JSON form of a text. -/
def ofText (s : String) : Json := .string (some s)

/-- The JSON form of a natural number. -/
def ofNat (n : Nat) : Json := .number (.ofNat n)

/-- The JSON form of something that may be absent. -/
def ofOption {α : Type} (f : α → Json) : Option α → Json
  | some a => f a
  | none => .null

/-- An object with the given members. -/
def ofFields (fields : List (String × Json)) : Json :=
  .object (fields.map fun field => (some field.1, field.2))

/-- The text of a string. -/
def text? : Json → Option String
  | .string text => text
  | _ => none

/-- The truth value. -/
def bool? : Json → Option Bool
  | .bool b => some b
  | _ => none

/-- The natural number below a limit. -/
def natBelow? (limit : Nat) : Json → Option Nat
  | .number numeral =>
    match numeral.value? with
    | some (.natural n) => if n < limit then some n else none
    | _ => none
  | _ => none

/-- The word. -/
def word? (json : Json) : Option Nat := json.natBelow? Text.wordLimit

/-- The 32-bit floating-point number. -/
def binary32? : Json → Option Binary32
  | .number numeral => numeral.value?.map NumberValue.toBinary32
  | _ => none

/-- The items of an array. -/
def items? : Json → Option (List Json)
  | .array items => some items
  | _ => none

/-- Something that is absent when the value is null. -/
def option? {α : Type} (read? : Json → Option α) : Json → Option (Option α)
  | .null => some none
  | json => (read? json).map some

/-! ### Records -/

/-- The value of a field among the members of an object: absent, or the only one. -/
def field? (members : List (Option String × Json)) (name : String) : Option (Option Json) :=
  match members.filter (·.1 = some name) with
  | [] => some none
  | [member] => some (some member.2)
  | _ => none

/-- The values of fields among the members of an object. -/
def membersRecord? (names : List String) (members : List (Option String × Json)) :
    Option (List (Option Json)) :=
  if members.all (·.1.isSome) then names.mapM (field? members) else none

/-- The values of fields in an array that has all of them. -/
def itemsRecord? (names : List String) (items : List Json) : Option (List (Option Json)) :=
  if items.length = names.length then some (items.map some) else none

/-- The values of the fields of a record. -/
def record? (names : List String) : Json → Option (List (Option Json))
  | .object members => membersRecord? names members
  | .array items => itemsRecord? names items
  | _ => none

/-- A field that has to be there. -/
def required? {α : Type} (read? : Json → Option α) (field : Option Json) : Option α :=
  field.bind read?

/-- A field that may be missing. -/
def optional? {α : Type} (read? : Json → Option α) : Option Json → Option (Option α)
  | none => some none
  | some json => option? read? json

/-- A field with a default. -/
def defaulted? {α : Type} (default : α) (read? : Json → Option α) : Option Json → Option α
  | none => some default
  | some json => read? json

end Json

/-! ### Locations -/

namespace Location

/-- The JSON form of a location. -/
def toJson (place : Location) : Json :=
  .ofFields [("grid", .ofText place.grid), ("line", .ofNat place.line),
    ("column", .ofOption .ofNat place.column)]

/-- Reads a location. -/
def ofJson? (json : Json) : Option Location :=
  match json.record? ["grid", "line", "column"] with
  | some [grid, line, column] => do
    return ⟨← Json.required? Json.text? grid, ← Json.required? Json.word? line,
      ← Json.optional? Json.word? column⟩
  | _ => none

end Location

/-! ### Colours -/

namespace Color

/-- The JSON form of a colour. -/
def toJson (c : Color) : Json :=
  .ofFields [("r", .ofNat c.r.toNat), ("g", .ofNat c.g.toNat), ("b", .ofNat c.b.toNat),
    ("a", .ofNat c.a.toNat)]

/-- Reads a channel. -/
def channel? (field : Option Json) : Option UInt8 :=
  (Json.required? (Json.natBelow? 256) field).map UInt8.ofNat

/-- Reads a colour. -/
def ofJson? (json : Json) : Option Color :=
  match json.record? ["r", "g", "b", "a"] with
  | some [r, g, b, a] => do return ⟨← channel? r, ← channel? g, ← channel? b, ← channel? a⟩
  | _ => none

end Color

/-! ### Options of choices and items of selections -/

namespace ChoiceOption

/-- The JSON form of an option. -/
def toJson (option : ChoiceOption) : Json :=
  .ofFields [("text", .ofText option.text), ("targetLabel", .ofText option.target)]

/-- Reads an option. -/
def ofJson? (json : Json) : Option ChoiceOption :=
  match json.record? ["text", "targetLabel"] with
  | some [text, target] => do
    return ⟨← Json.required? Json.text? text, ← Json.required? Json.text? target⟩
  | _ => none

end ChoiceOption

namespace SelectionItem

/-- The JSON form of an item. -/
def toJson (item : SelectionItem) : Json :=
  .ofFields [("index", .ofNat item.index), ("text", .ofText item.text)]

/-- Reads an item. -/
def ofJson? (json : Json) : Option SelectionItem :=
  match json.record? ["index", "text"] with
  | some [index, text] => do
    return ⟨← Json.required? Json.word? index, ← Json.required? Json.text? text⟩
  | _ => none

end SelectionItem

/-! ### Commands and labels -/

namespace Command

/-- The JSON form of a command. -/
def toJson : Command → Json
  | text words place =>
    .ofFields [("kind", .ofText "text"), ("text", .ofText words), ("location", place.toJson)]
  | character id hides layer words place =>
    .ofFields [("kind", .ofText "character"), ("character_id", .ofText id),
      ("is_hiding", .bool hides), ("layer_name", .ofText layer),
      ("text", .ofOption .ofText words), ("location", place.toJson)]
  | jump target place =>
    .ofFields [("kind", .ofText "jump"), ("target_label", .ofText target),
      ("location", place.toJson)]
  | choice options place =>
    .ofFields [("kind", .ofText "choice"), ("options", .array (options.map ChoiceOption.toJson)),
      ("location", place.toJson)]

/-- Reads the options of a choice. -/
def options? (json : Json) : Option (List ChoiceOption) :=
  json.items?.bind fun items => items.mapM ChoiceOption.ofJson?

/-- Reads a command of a kind; the fields are looked up by `record?`. -/
def ofKind? (record? : List String → Option (List (Option Json))) (kind : String) :
    Option Command :=
  if kind = "text" then
    match record? ["text", "location"] with
    | some [words, place] => do
      return .text (← Json.required? Json.text? words) (← Json.required? Location.ofJson? place)
    | _ => none
  else if kind = "character" then
    match record? ["character_id", "is_hiding", "layer_name", "text", "location"] with
    | some [id, hides, layer, words, place] => do
      return .character (← Json.required? Json.text? id) (← Json.required? Json.bool? hides)
        (← Json.required? Json.text? layer) (← Json.optional? Json.text? words)
        (← Json.required? Location.ofJson? place)
    | _ => none
  else if kind = "jump" then
    match record? ["target_label", "location"] with
    | some [target, place] => do
      return .jump (← Json.required? Json.text? target) (← Json.required? Location.ofJson? place)
    | _ => none
  else if kind = "choice" then
    match record? ["options", "location"] with
    | some [options, place] => do
      return .choice (← Json.required? options? options) (← Json.required? Location.ofJson? place)
    | _ => none
  else none

/-- Reads a command that stands inside the given number of containers. A command is kept as a
whole while its kind is looked for. -/
def ofJson? (depth : Nat) (json : Json) : Option Command :=
  if json.isKept depth then
    match json with
    -- The kind may stand anywhere among the members, and first among the items.
    | .object members =>
      ((Json.field? members "kind").bind (Json.required? Json.text?)).bind
        (ofKind? fun names => Json.membersRecord? names members)
    | .array (kind :: items) =>
      (Json.text? kind).bind (ofKind? fun names => Json.itemsRecord? names items)
    | _ => none
  else none

end Command

namespace Label

/-- The JSON form of a label. -/
def toJson (label : Label) : Json :=
  .ofFields [("name", .ofText label.name), ("grid", .ofText label.grid),
    ("commands", .array (label.commands.map Command.toJson))]

/-- Reads the commands of a label, which stand inside two containers. -/
def commands? (json : Json) : Option (List Command) :=
  json.items?.bind fun items => items.mapM (Command.ofJson? 2)

/-- Reads a label. -/
def ofJson? (json : Json) : Option Label :=
  match json.record? ["name", "grid", "commands"] with
  | some [name, grid, commands] => do
    return ⟨← Json.required? Json.text? name, ← Json.required? Json.text? grid,
      ← Json.required? commands? commands⟩
  | _ => none

end Label

/-! ### Options of the compiler -/

namespace Options

/-- The JSON form of the options. -/
def toJson (options : Options) : Json :=
  .ofFields [("labelMarker", .ofText options.labelMarker),
    ("hideMarker", .ofText options.hideMarker)]

/-- The values of the fields: those that are missing at the end of an array are absent. -/
def record? (names : List String) : Json → Option (List (Option Json))
  | .array items =>
    if items.length ≤ names.length then
      some (items.map some ++ List.replicate (names.length - items.length) none)
    else none
  | json => json.record? names

/-- Reads the markers. -/
def ofFields? : Option (List (Option Json)) → Option Options
  | some [label, hide] => do
    return ⟨← Json.defaulted? ({} : Options).labelMarker Json.text? label,
      ← Json.defaulted? ({} : Options).hideMarker Json.text? hide⟩
  | _ => none

/-- Reads options; all fields have defaults. -/
def ofJson? (json : Json) : Option Options :=
  ofFields? (record? ["labelMarker", "hideMarker"] json)

end Options

/-! ### Characters -/

namespace Character

/-- Reads a character. -/
def ofJson? (json : Json) : Option Character :=
  match json.record? ["id", "displayName", "positionX", "positionY", "scale", "spriteFile",
    "voiceFile", "nameColor"] with
  | some [id, name, x, y, scale, sprite, voice, color] => do
    return {
      id := ← Json.required? Json.text? id
      name := ← Json.required? Json.text? name
      x := ← Json.required? Json.binary32? x
      y := ← Json.required? Json.binary32? y
      scale := ← Json.required? Json.binary32? scale
      sprite := ← Json.required? Json.text? sprite
      voice := ← Json.optional? Json.text? voice
      color := ← Json.required? Color.ofJson? color }
  | _ => none

end Character

end Storyboard
