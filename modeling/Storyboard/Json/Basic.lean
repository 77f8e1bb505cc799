import Storyboard.Json.Numeral

/-!
# JSON values

Objects keep their members in order, repetitions included, and numbers are kept as they are
written. The escapes of a string can name half of a surrogate pair; such a string spells no text,
which matters only to a reader that asks for its text.
-/

namespace Storyboard

/-- A JSON value. -/
inductive Json where
  | null
  | bool (b : Bool)
  | number (numeral : Numeral)
  /-- A string, with its text if it spells one. -/
  | string (text : Option String)
  | array (items : List Json)
  /-- An object: names, which are strings too, with values. -/
  | object (members : List (Option String × Json))

namespace Json

mutual

/-- How many containers are nested in a value, itself included. -/
def height : Json → Nat
  | array items => heightItems items + 1
  | object members => heightMembers members + 1
  | _ => 0

/-- The largest height of the items of an array. -/
def heightItems : List Json → Nat
  | [] => 0
  | item :: rest => max item.height (heightItems rest)

/-- The largest height of the values of an object. -/
def heightMembers : List (Option String × Json) → Nat
  | [] => 0
  | (_, value) :: rest => max value.height (heightMembers rest)

end

mutual

/-- Whether all strings of a value spell a text and all its numbers have a value. -/
def isPlain : Json → Bool
  | number numeral => numeral.value?.isSome
  | string text => text.isSome
  | array items => isPlainItems items
  | object members => isPlainMembers members
  | _ => true

/-- Whether all items of an array are plain. -/
def isPlainItems : List Json → Bool
  | [] => true
  | item :: rest => item.isPlain && isPlainItems rest

/-- Whether all names and values of an object are plain. -/
def isPlainMembers : List (Option String × Json) → Bool
  | [] => true
  | (name, value) :: rest => name.isSome && value.isPlain && isPlainMembers rest

end

/-- Containers may be nested less deep than this in a value that is kept as a whole. -/
def depthLimit : Nat := 128

/-- Whether a value can be kept as a whole: it is plain, and not nested too deep for the given
number of containers around it. -/
def isKept (depth : Nat) (json : Json) : Bool :=
  json.isPlain && depth + json.height < depthLimit

end Json

end Storyboard
