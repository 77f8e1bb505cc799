/-!
# Lines of a text

A text is a sequence of lines, each ended by a line feed; a carriage return directly before that
line feed belongs to the terminator. What follows the last line feed is a line too, unless it is
empty, and keeps a carriage return at its end.
-/

namespace Storyboard.Text

/-- Removes one `c` from the end, if there is one. -/
def chop (c : Char) (cs : List Char) : List Char :=
  if cs.getLast? = some c then cs.dropLast else cs

/-- Removes one `c` from the front, if there is one. -/
def chopFront (c : Char) : List Char → List Char
  | [] => []
  | d :: ds => if d = c then ds else d :: ds

/-- The part after the last line feed, as the last line or as none. -/
def lastLine : List Char → List (List Char)
  | [] => []
  | cs => [cs]

/-- The lines of a text, without their terminators. -/
def lines (cs : List Char) : List (List Char) :=
  let pieces := cs.splitOn '\n'
  pieces.dropLast.map (chop '\r') ++ lastLine (pieces.getLastD [])

/-! ### A mark in front -/

theorem chopFront_of_head?_ne {c : Char} {cs : List Char} (h : cs.head? ≠ some c) :
    chopFront c cs = cs := by
  cases cs with
  | nil => rfl
  | cons d ds => exact if_neg fun heq => h (congrArg some heq)

theorem chopFront_cons_self (c : Char) (cs : List Char) : chopFront c (c :: cs) = cs :=
  if_pos rfl

/-- Nothing but one mark in front is removed. -/
theorem eq_chopFront_or (c : Char) (cs : List Char) :
    cs = chopFront c cs ∨ cs = c :: chopFront c cs := by
  by_cases h : cs.head? = some c
  · obtain ⟨ds, rfl⟩ := List.head?_eq_some_iff.1 h
    rw [chopFront_cons_self]
    exact .inr rfl
  · exact .inl (chopFront_of_head?_ne h).symm

end Storyboard.Text
