import Storyboard.Json.Codec

/-!
# Settings of a scenario directory

A scenario directory may have settings: the markers of its sheets and the file of its character
table, as members of one JSON object. All of them have defaults.
-/

namespace Storyboard

/-- The settings of a scenario directory. -/
structure Settings where
  /-- The markers of the sheets. -/
  options : Options := {}
  /-- The file of the character table. -/
  charactersFile : String := "characters.csv"
  deriving DecidableEq, Inhabited

namespace Settings

/-- The member that names the character table. -/
def charactersMember : String := "charactersFile"

/-- Reads settings. The other members are kept as a whole, whether they mean anything or not. -/
def ofJson? : Json → Option Settings
  | .object members =>
    -- The markers are looked up among what is left once the file has been taken out.
    let others := members.filter (·.1 ≠ some charactersMember)
    if others.all fun member => member.2.isKept 1 then do
      let fields ← Json.membersRecord? [charactersMember] members
      let charactersFile ←
        Json.defaulted? ({} : Settings).charactersFile Json.text? (fields.headD none)
      let options ← Options.ofFields? (Json.membersRecord? ["labelMarker", "hideMarker"] others)
      return ⟨options, charactersFile⟩
    else none
  | _ => none

/-- Reads the text of settings. -/
def parse? (text : String) : Option Settings := (Json.parse? text).bind ofJson?

end Settings

end Storyboard
