import Storyboard.Proofs.Tag.Cut

/-!
# Rendering fills the cut of a text

A text is rendered in one pass: its leftmost cut decides once and for all which parts of it are
tags, whatever the handlers are, and each tag is replaced by what the handler that was registered
last under its name makes of its value. A tag without a handler stays as it is written. What a
handler returns is put in place as it is (`Markup.render_fills_leftmost_cut`).
-/

namespace Storyboard

namespace Rendering

theorem nil_append (r : Rendering) : append ⟨"", []⟩ r = r := by
  simp [append]

theorem append_assoc (a b c : Rendering) : (a.append b).append c = a.append (b.append c) := by
  simp [append, String.append_assoc]

theorem concat_append (first later : List Rendering) :
    concat (first ++ later) = (concat first).append (concat later) := by
  induction first with
  | nil => exact (nil_append _).symm
  | cons r rest ih => rw [List.cons_append, concat, ih, concat, append_assoc]

/-- The rendering of a text that stands for itself. -/
def literal (cs : List Char) : Rendering := ⟨String.ofList cs, []⟩

theorem literal_append (a b : List Char) : literal (a ++ b) = (literal a).append (literal b) := by
  simp [literal, append]

end Rendering

namespace Cut

/-- The rendering of a cut: its literal pieces as they are, and in between what the tags are
replaced by. -/
def fill (replace : Tag → Rendering) (cut : Cut) : Rendering :=
  .concat (.literal cut.lead ::
    cut.parts.flatMap fun part => [replace part.1, .literal part.2])

theorem fill_congr {cut : Cut} {replace other : Tag → Rendering}
    (h : ∀ part ∈ cut.parts, replace part.1 = other part.1) :
    cut.fill replace = cut.fill other := by
  have hparts : (cut.parts.flatMap fun part => [replace part.1, .literal part.2]) =
      cut.parts.flatMap fun part => [other part.1, .literal part.2] := by
    unfold List.flatMap
    exact congrArg List.flatten (List.map_congr_left fun part hpart => by rw [h part hpart])
  rw [fill, fill, hparts]

/-- A cut whose tags stand for themselves renders to the text. -/
theorem fill_chars (cut : Cut) : cut.fill (fun tag => .literal tag.chars) = .literal cut.chars := by
  obtain ⟨lead, parts⟩ := cut
  induction parts generalizing lead with
  | nil => simp [fill, chars, written, Rendering.concat, Rendering.append, Rendering.literal]
  | cons part rest ih =>
    have hrest := ih part.2
    have hwritten : written (part :: rest) = part.1.chars ++ chars ⟨part.2, rest⟩ := by
      simp [written, chars]
    rw [chars, hwritten, Rendering.literal_append, Rendering.literal_append, ← hrest]
    rfl

end Cut

namespace Markup

variable {γ : Type}

/-! ### Registered handlers -/

/-- The markup after handlers were registered, one after another. -/
def registered (registrations : List (String × Handler γ)) : Markup γ :=
  registrations.foldl (fun markup registration => markup.register registration.1 registration.2)
    empty

/-- The handler that was registered last under a name. -/
def lastHandler? (registrations : List (String × Handler γ)) (name : String) :
    Option (Handler γ) :=
  (registrations.reverse.find? (·.1 = name)).map (·.2)

/-- **A markup keeps the handlers that were registered last.** -/
theorem find?_registered (registrations : List (String × Handler γ)) (name : String) :
    (registered registrations).handlers.find? name = lastHandler? registrations name := by
  have hfold : ∀ markup : Markup γ,
      (registrations.foldl (fun markup registration =>
        markup.register registration.1 registration.2) markup).handlers =
        registrations.foldl (fun handlers registration =>
          handlers.insert registration.1 registration.2) markup.handlers := by
    induction registrations with
    | nil => exact fun _ => rfl
    | cons first rest ih => exact fun markup => ih (markup.register first.1 first.2)
  rw [registered, hfold]
  exact Dict.find?_ofList registrations name

theorem lastHandler?_eq_none {registrations : List (String × Handler γ)} {name : String}
    (h : ∀ registration ∈ registrations, registration.1 ≠ name) :
    lastHandler? registrations name = none := by
  have hfind : registrations.reverse.find? (·.1 = name) = none :=
    List.find?_eq_none.2 fun registration hmem => by
      simpa using h registration (by simpa using hmem)
  rw [lastHandler?, hfind]
  rfl

/-- What a tag is replaced by: what the last handler of its name makes of its value, or the tag as
it is written. -/
def replacement (registrations : List (String × Handler γ)) (context : γ) (tag : Tag) :
    Rendering :=
  match lastHandler? registrations (String.ofList tag.name) with
  | some handler => handler context (String.ofList tag.value)
  | none => .literal tag.chars

/-! ### Rendering -/

theorem concat_renderPiece_plain (markup : Markup γ) (context : γ) (cs : List Char) :
    .concat ((cs.map Piece.plain).map (markup.renderPiece context)) = Rendering.literal cs := by
  induction cs with
  | nil => rfl
  | cons c rest ih =>
    have hsplit : Rendering.literal (c :: rest) =
        (markup.renderPiece context (.plain c)).append (.literal rest) := by
      simp [Rendering.literal, Rendering.append, renderPiece]
    rw [hsplit, ← ih]
    rfl

/-- The pieces of a cut are rendered one by one. -/
theorem concat_renderPiece_pieces (markup : Markup γ) (context : γ) (cut : Cut) :
    .concat (cut.pieces.map (markup.renderPiece context)) =
      cut.fill fun tag => markup.renderPiece context (.tag tag) := by
  obtain ⟨lead, parts⟩ := cut
  -- Behind each tag, the characters of its literal piece are rendered as one.
  have hparts : Rendering.concat ((parts.flatMap fun part =>
        Piece.tag part.1 :: part.2.map Piece.plain).map (markup.renderPiece context)) =
      .concat (parts.flatMap fun part =>
        [markup.renderPiece context (.tag part.1), .literal part.2]) := by
    induction parts with
    | nil => rfl
    | cons part rest ih =>
      rw [List.flatMap_cons, List.map_append, List.map_cons, List.cons_append, Rendering.concat,
        Rendering.concat_append, concat_renderPiece_plain, ih]
      rfl
  rw [Cut.pieces, List.map_append, Rendering.concat_append, concat_renderPiece_plain, hparts]
  rfl

theorem render_eq_fill (markup : Markup γ) (context : γ) (text : String) :
    markup.render context text =
      (Cut.ofPieces (Piece.pieces text.toList)).fill
        fun tag => markup.renderPiece context (.tag tag) := by
  have hcut : Piece.pieces text.toList = (Cut.ofPieces (Piece.pieces text.toList)).pieces := by
    have hleftmost := Cut.leftmost_ofPieces text.toList
    rw [← hleftmost.pieces_chars, Cut.chars_ofPieces, Piece.flatMap_chars_pieces]
  rw [render, ← concat_renderPiece_pieces, ← hcut]

theorem renderPiece_registered (registrations : List (String × Handler γ)) (context : γ)
    (tag : Tag) :
    (registered registrations).renderPiece context (.tag tag) =
      replacement registrations context tag := by
  rw [renderPiece, find?_registered]
  rfl

/-- **A rendering fills the one leftmost cut of its text.** The cut belongs to the text alone. Each
tag is replaced by what the last handler of its name makes of its value, and a tag without a handler
stays as it is; nothing of the literal pieces is touched. So a text stays as it is if none of its
tags has a handler, and another handler for a name changes nothing but what the tags of that name
are replaced by. -/
theorem render_fills_leftmost_cut (text : String) :
    ∃ cut : Cut, cut.Leftmost ∧ cut.chars = text.toList ∧
      (∀ other : Cut, other.Leftmost → other.chars = text.toList → other = cut) ∧
      ∀ {γ : Type} (registrations : List (String × Handler γ)) (context : γ),
        (registered registrations).render context text =
          cut.fill (replacement registrations context) ∧
        ((∀ part ∈ cut.parts, ∀ registration ∈ registrations,
            registration.1 ≠ String.ofList part.1.name) →
          (registered registrations).render context text = ⟨text, []⟩) ∧
        ∀ (name : String) (handler : Handler γ),
          ((registered registrations).register name handler).render context text =
            cut.fill fun tag =>
              if String.ofList tag.name = name then handler context (String.ofList tag.value)
              else replacement registrations context tag := by
  have hcut : ∀ cut : Cut, (cut.Leftmost ∧ cut.chars = text.toList) ↔
      cut = Cut.ofPieces (Piece.pieces text.toList) := fun _ => Cut.leftmost_iff
  obtain ⟨hleftmost, hchars⟩ := (hcut _).2 rfl
  refine ⟨_, hleftmost, hchars, fun other h hother => (hcut other).1 ⟨h, hother⟩, ?_⟩
  intro γ registrations context
  have hrender : (registered registrations).render context text =
      (Cut.ofPieces (Piece.pieces text.toList)).fill (replacement registrations context) := by
    rw [render_eq_fill]
    exact Cut.fill_congr fun part _ => renderPiece_registered registrations context part.1
  refine ⟨hrender, fun hnone => ?_, fun name handler => ?_⟩
  · -- Each tag is filled with itself, which spells the text again.
    have hwritten : (Cut.ofPieces (Piece.pieces text.toList)).fill
        (replacement registrations context) =
        (Cut.ofPieces (Piece.pieces text.toList)).fill fun tag => .literal tag.chars := by
      refine Cut.fill_congr fun part hpart => ?_
      rw [replacement, lastHandler?_eq_none (hnone part hpart)]
    rw [hrender, hwritten, Cut.fill_chars, hchars, Rendering.literal, String.ofList_toList]
  · rw [render_eq_fill]
    refine Cut.fill_congr fun part _ => ?_
    rw [← renderPiece_registered, renderPiece, renderPiece, register, Dict.find?_insert]
    -- The new handler is found under its own name only.
    by_cases hname : String.ofList part.1.name = name
    · rw [if_pos hname, if_pos hname]
    · rw [if_neg hname, if_neg hname]

-- The first `<` opens nothing. The second tag has no handler, and its value is not searched.
example : ((registered [("c", .constant "E")]).render () "<<c=a> <x=<c=b>").text =
    "<E <x=<c=b>" := by
  decide +kernel

end Markup

end Storyboard
