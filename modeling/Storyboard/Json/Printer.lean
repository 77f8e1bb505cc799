import Storyboard.Json.Basic
import Storyboard.Text.Quoted

/-!
# Writing JSON

A value is written without blanks. A string that spells no text is written as an empty one; no
value that this library builds holds such a string.
-/

namespace Storyboard.Json

mutual

/-- A value as it is written. -/
def chars : Json → List Char
  | null => "null".toList
  | bool b => (if b then "true" else "false").toList
  | number numeral => numeral.chars
  | string text => Text.quoteChars (text.getD "")
  | array items => '[' :: charsItems items ++ [']']
  | object members => '\x7b' :: charsMembers members ++ ['\x7d']

/-- The items of an array as they are written. -/
def charsItems : List Json → List Char
  | [] => []
  | [item] => item.chars
  | item :: rest => item.chars ++ ',' :: charsItems rest

/-- The members of an object as they are written. -/
def charsMembers : List (Option String × Json) → List Char
  | [] => []
  | [(name, value)] => Text.quoteChars (name.getD "") ++ ':' :: value.chars
  | (name, value) :: rest =>
    Text.quoteChars (name.getD "") ++ ':' :: value.chars ++ ',' :: charsMembers rest

end

/-- A value as it is written. -/
def render (json : Json) : String := String.ofList json.chars

end Storyboard.Json
