import Storyboard.Text.Blank
import Storyboard.Text.Hex
import Storyboard.Text.Lines

/-!
# Colours

A colour has four channels of eight bits. It is written as `#` and eight upper-case hexadecimal
digits. Reading is more liberal: blanks around it, a missing `#`, either case, and six digits for
an opaque colour.
-/

namespace Storyboard

/-- A colour with an alpha channel. -/
structure Color where
  /-- Red. -/
  r : UInt8
  /-- Green. -/
  g : UInt8
  /-- Blue. -/
  b : UInt8
  /-- Opacity. -/
  a : UInt8
  deriving DecidableEq

namespace Color

/-- Opaque white, the colour of a name that has none of its own. -/
def white : Color := ⟨255, 255, 255, 255⟩

instance : Inhabited Color := ⟨white⟩

/-- The channel of two hexadecimal digits. -/
def channel (high low : Nat) : UInt8 := UInt8.ofNat (16 * high + low)

/-- The colour of six or eight digit values. -/
def ofDigits? : List Nat → Option Color
  | [r, r', g, g', b, b'] => some ⟨channel r r', channel g g', channel b b', 255⟩
  | [r, r', g, g', b, b', a, a'] =>
    some ⟨channel r r', channel g g', channel b b', channel a a'⟩
  | _ => none

/-- Reads a colour: six or eight hexadecimal digits after at most one `#`, with blanks around. -/
def ofHex? (s : String) : Option Color :=
  ((Text.chopFront '#' (Text.trimChars s.toList)).mapM Text.hexValue?).bind ofDigits?

/-- The two hexadecimal digits of a channel. -/
def channelChars (v : UInt8) : List Char :=
  [Text.hexUpper (v.toNat / 16), Text.hexUpper (v.toNat % 16)]

/-- The written form: `#RRGGBBAA`. -/
def render (c : Color) : String :=
  String.ofList ('#' :: [c.r, c.g, c.b, c.a].flatMap channelChars)

end Color

end Storyboard
