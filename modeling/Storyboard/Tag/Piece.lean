import Storyboard.Text.Word

/-!
# Tags in a text

A tag is `<`, a name of one or more word characters, `=`, a value without `>`, and `>`. A text is
read from left to right: where a tag starts, it is one piece, whatever its value holds; every
other character is a piece of its own. The pieces of a text, written one after another, are the
text again (`Piece.flatMap_chars_pieces`).
-/

namespace Storyboard

/-- A tag: a name and a value. -/
structure Tag where
  /-- The name. -/
  name : List Char
  /-- The value. -/
  value : List Char
  deriving DecidableEq

namespace Tag

/-- The tag as it is written. -/
def chars (tag : Tag) : List Char := '<' :: tag.name ++ '=' :: tag.value ++ ['>']

/-- Reads the value of a tag and its end. -/
def readValue? (cs : List Char) : Option (List Char × List Char) :=
  match cs.dropWhile (· ≠ '>') with
  | [] => none
  | _ :: rest => some (cs.takeWhile (· ≠ '>'), rest)

/-- Reads a tag whose `<` has just been passed. -/
def read? (cs : List Char) : Option (Tag × List Char) :=
  let name := cs.takeWhile Text.isWord
  match cs.dropWhile Text.isWord with
  | [] => none
  | c :: rest =>
    -- Word characters and `=` have nothing in common, so the name ends in one way only.
    if name ≠ [] ∧ c = '=' then
      (readValue? rest).map fun (value, rest) => (⟨name, value⟩, rest)
    else none

theorem eq_append_of_readValue? {cs value rest : List Char}
    (h : readValue? cs = some (value, rest)) : cs = value ++ '>' :: rest := by
  unfold readValue? at h
  split at h
  · cases h
  · next c tail htail =>
    obtain ⟨rfl, rfl⟩ : cs.takeWhile (· ≠ '>') = value ∧ tail = rest := by simpa using h
    have hc : c = '>' := by
      have := List.head?_dropWhile_not (fun c : Char => decide (c ≠ '>')) cs
      rw [htail] at this
      simpa using this
    subst hc
    rw [← htail, List.takeWhile_append_dropWhile]

/-- What was read is the front of the text, and the rest is what follows it. -/
theorem cons_eq_append_of_read? {cs rest : List Char} {tag : Tag}
    (h : read? cs = some (tag, rest)) : '<' :: cs = tag.chars ++ rest := by
  unfold read? at h
  simp only at h
  split at h
  · cases h
  · next c tail htail =>
    split at h
    · next hname =>
      obtain ⟨⟨value, rest'⟩, hvalue, heq⟩ := Option.map_eq_some_iff.1 h
      obtain ⟨rfl, rfl⟩ : (⟨cs.takeWhile Text.isWord, value⟩ : Tag) = tag ∧ rest' = rest := by
        simpa using heq
      have hcs := List.takeWhile_append_dropWhile (p := Text.isWord) (l := cs)
      rw [htail, hname.2, eq_append_of_readValue? hvalue] at hcs
      simp only [chars, List.cons_append, List.append_assoc, List.nil_append]
      rw [hcs]
    · cases h

end Tag

/-- A piece of a text. -/
inductive Piece where
  /-- A character outside of tags. -/
  | plain (c : Char)
  /-- A tag. -/
  | tag (tag : Tag)
  deriving DecidableEq

namespace Piece

/-- The piece as it is written. -/
def chars : Piece → List Char
  | plain c => [c]
  | tag t => t.chars

/-- The tag at the front of a text, with the text behind it. -/
def front? : List Char → Option (Tag × List Char)
  | '<' :: rest => Tag.read? rest
  | _ => none

theorem eq_append_of_front? {cs rest : List Char} {t : Tag} (h : front? cs = some (t, rest)) :
    cs = t.chars ++ rest := by
  unfold front? at h
  split at h
  · exact Tag.cons_eq_append_of_read? h
  · cases h

theorem length_lt_of_front? {cs rest : List Char} {t : Tag} (h : front? cs = some (t, rest)) :
    rest.length < cs.length := by
  have := congrArg List.length (eq_append_of_front? h)
  simp [Tag.chars] at this
  omega

/-- The pieces of a text, from left to right. -/
def pieces (cs : List Char) : List Piece :=
  match cs with
  | [] => []
  | c :: rest =>
    match _h : front? (c :: rest) with
    | some (t, behind) => tag t :: pieces behind
    | none => plain c :: pieces rest
termination_by cs.length
decreasing_by
  · exact length_lt_of_front? (by assumption)
  · simp

/-- **The pieces of a text make up the text.** -/
theorem flatMap_chars_pieces (cs : List Char) : (pieces cs).flatMap chars = cs := by
  fun_induction pieces cs with
  | case1 => rfl
  | case2 c rest t behind h ih =>
    rw [List.flatMap_cons, ih]
    exact (eq_append_of_front? h).symm
  | case3 c rest h ih => rw [List.flatMap_cons, ih]; rfl

end Piece

end Storyboard
