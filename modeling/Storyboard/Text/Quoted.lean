import Storyboard.Text.Hex

/-!
# Quoted texts

A text in double quotes as JSON has it: quotes, backslashes and control characters are escaped,
five of the control characters by a letter, and all else stands for itself.
-/

namespace Storyboard.Text

/-- A character as it stands between quotes. -/
def quoteChar (c : Char) : List Char :=
  if c = '"' then ['\\', '"']
  else if c = '\\' then ['\\', '\\']
  else if c = '\x08' then ['\\', 'b']
  else if c = '\t' then ['\\', 't']
  else if c = '\n' then ['\\', 'n']
  else if c = '\x0c' then ['\\', 'f']
  else if c = '\r' then ['\\', 'r']
  else if c.toNat < 0x20 then
    ['\\', 'u', '0', '0', hexLower (c.toNat / 16), hexLower (c.toNat % 16)]
  else [c]

/-- A text in quotes, as characters. -/
def quoteChars (s : String) : List Char := '"' :: s.toList.flatMap quoteChar ++ ['"']

/-- A text in quotes. -/
def quoted (s : String) : String := String.ofList (quoteChars s)

end Storyboard.Text
