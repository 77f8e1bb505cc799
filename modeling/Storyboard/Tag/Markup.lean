import Storyboard.Dict
import Storyboard.Notice
import Storyboard.Tag.Piece
import Storyboard.Text.Escaped

/-!
# Rendering of tags

A markup gives meaning to tag names: the handler of a name turns the value of a tag into a text,
in some context. Rendering replaces every tag whose name has a handler and keeps the others as
they stand. What a handler returns is not searched for tags again.
-/

namespace Storyboard

/-- A text with what was noticed while it was made. -/
structure Rendering where
  /-- The text. -/
  text : String
  /-- What was noticed. -/
  notices : List Notice := []

namespace Rendering

/-- Two renderings one after the other. -/
def append (a b : Rendering) : Rendering := ⟨a.text ++ b.text, a.notices ++ b.notices⟩

/-- Renderings one after another. -/
def concat : List Rendering → Rendering
  | [] => ⟨"", []⟩
  | r :: rest => r.append (concat rest)

end Rendering

/-- Turns the value of a tag into a text. -/
abbrev Handler (γ : Type) := γ → String → Rendering

namespace Handler

variable {γ : Type}

/-- The value itself. -/
def echo : Handler γ := fun _ value => ⟨value, []⟩

/-- The tag of the given name with the value. -/
def wrap (name : String) : Handler γ := fun _ value => ⟨"<" ++ name ++ "=" ++ value ++ ">", []⟩

/-- The number of bytes of the value. -/
def byteCount : Handler γ := fun _ value => ⟨toString value.utf8ByteSize, []⟩

/-- Always the same text. -/
def constant (text : String) : Handler γ := fun _ _ => ⟨text, []⟩

/-- What the context has for the value, or nothing. -/
def lookup (find? : γ → String → Option String) : Handler γ :=
  fun context value => ⟨(find? context value).getD "", []⟩

end Handler

/-- The handlers of tag names. -/
structure Markup (γ : Type) where
  /-- The handlers. -/
  handlers : Dict (Handler γ)

namespace Markup

variable {γ : Type}

/-- The markup without handlers. -/
def empty : Markup γ := ⟨.empty⟩

/-- Gives a name a handler, in place of the one it had. -/
def register (markup : Markup γ) (name : String) (handler : Handler γ) : Markup γ :=
  ⟨markup.handlers.insert name handler⟩

/-- Whether a name has a handler. -/
def contains (markup : Markup γ) (name : String) : Bool := markup.handlers.contains name

/-- The rendering of one piece. -/
def renderPiece (markup : Markup γ) (context : γ) : Piece → Rendering
  | .plain c => ⟨String.singleton c, []⟩
  | .tag t =>
    match markup.handlers.find? (String.ofList t.name) with
    | some handler => handler context (String.ofList t.value)
    | none => ⟨String.ofList t.chars, []⟩

/-- The rendering of a text. -/
def render (markup : Markup γ) (context : γ) (text : String) : Rendering :=
  .concat ((Piece.pieces text.toList).map (markup.renderPiece context))

/-- A listing of the names with handlers. -/
def describe (markup : Markup γ) : String :=
  "TagParser \x7b handlers: [" ++
    String.intercalate ", " (markup.handlers.keys.map Text.escaped) ++ "] \x7d"

end Markup

end Storyboard
