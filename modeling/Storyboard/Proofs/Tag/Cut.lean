import Storyboard.Tag.Markup
import Mathlib.Data.List.TakeWhile

/-!
# The one way to cut a text at its tags

The grammar says what a tag is (`Tag.WellFormed`). A text can be cut at tags in many ways, because
the value of a tag may hold the beginning of another one and what stands before a tag may look like
a part of it. A cut is leftmost if no tag starts inside its literal pieces, in what is left of the
text there (`Cut.Leftmost`). Each text has exactly one leftmost cut (`Cut.leftmost_iff`).

The reader tries a tag at each position and goes on behind it, or one character further. It finds a
tag exactly where the grammar has one, and the same one (`Piece.front?_eq_some_iff`), so what it has
passed over without finding a tag is a literal piece.
-/

namespace Storyboard

/-! ### What is read is what the grammar says -/

namespace Tag

/-- What the grammar asks of a tag. -/
structure WellFormed (tag : Tag) : Prop where
  /-- The name is not empty. -/
  named : tag.name ≠ []
  /-- The name has only word characters. -/
  word : ∀ c ∈ tag.name, Text.isWord c = true
  /-- The value does not hold the end of the tag. -/
  closed : '>' ∉ tag.value

theorem readValue?_append {value : List Char} (h : '>' ∉ value) (rest : List Char) :
    readValue? (value ++ '>' :: rest) = some (value, rest) := by
  have hvalue : ∀ c ∈ value, decide (c ≠ '>') = true :=
    fun c hc => decide_eq_true fun heq => h (heq ▸ hc)
  have hdrop : (value ++ '>' :: rest).dropWhile (· ≠ '>') = '>' :: rest := by
    rw [List.dropWhile_append_of_pos hvalue]
    rfl
  have htake : (value ++ '>' :: rest).takeWhile (· ≠ '>') = value := by
    rw [List.takeWhile_append_of_pos hvalue]
    simp
  rw [readValue?, hdrop, htake]

theorem not_mem_of_readValue? {cs value rest : List Char}
    (h : readValue? cs = some (value, rest)) : '>' ∉ value := by
  unfold readValue? at h
  split at h
  · cases h
  · obtain ⟨rfl, -⟩ : cs.takeWhile (· ≠ '>') = value ∧ _ := by simpa using h
    intro hmem
    simpa using List.mem_takeWhile_imp hmem

theorem read?_append {tag : Tag} (h : tag.WellFormed) (rest : List Char) :
    read? (tag.name ++ '=' :: (tag.value ++ '>' :: rest)) = some (tag, rest) := by
  have hdrop : (tag.name ++ '=' :: (tag.value ++ '>' :: rest)).dropWhile Text.isWord =
      '=' :: (tag.value ++ '>' :: rest) := by
    rw [List.dropWhile_append_of_pos h.word]
    simp [Text.isWord_equals]
  have htake : (tag.name ++ '=' :: (tag.value ++ '>' :: rest)).takeWhile Text.isWord =
      tag.name := by
    rw [List.takeWhile_append_of_pos h.word]
    simp [Text.isWord_equals]
  simp only [read?, hdrop, htake]
  rw [if_pos ⟨h.named, trivial⟩, readValue?_append h.closed]
  rfl

theorem wellFormed_of_read? {cs rest : List Char} {tag : Tag} (h : read? cs = some (tag, rest)) :
    tag.WellFormed := by
  unfold read? at h
  dsimp only at h
  split at h
  · cases h
  · split at h
    · next hname =>
      obtain ⟨⟨value, behind⟩, hvalue, heq⟩ := Option.map_eq_some_iff.1 h
      obtain ⟨rfl, -⟩ : (⟨cs.takeWhile Text.isWord, value⟩ : Tag) = tag ∧ behind = rest := by
        simpa using heq
      exact ⟨hname.1, fun c hc => List.mem_takeWhile_imp hc, not_mem_of_readValue? hvalue⟩
    · cases h

end Tag

namespace Piece

/-- **The reader finds a tag exactly where the grammar has one**, and no other one. -/
theorem front?_eq_some_iff {cs rest : List Char} {tag : Tag} :
    front? cs = some (tag, rest) ↔ tag.WellFormed ∧ cs = tag.chars ++ rest := by
  constructor
  · intro h
    refine ⟨?_, eq_append_of_front? h⟩
    unfold front? at h
    split at h
    · exact Tag.wellFormed_of_read? h
    · cases h
  · rintro ⟨hformed, rfl⟩
    have hchars : tag.chars ++ rest = '<' :: (tag.name ++ '=' :: (tag.value ++ '>' :: rest)) := by
      simp [Tag.chars]
    rw [hchars]
    exact Tag.read?_append hformed rest

theorem front?_eq_none_iff {cs : List Char} :
    front? cs = none ↔
      ∀ (tag : Tag) (rest : List Char), tag.WellFormed → cs ≠ tag.chars ++ rest := by
  constructor
  · intro h tag rest hformed hcs
    cases h.symm.trans (front?_eq_some_iff.2 ⟨hformed, hcs⟩)
  · intro h
    by_contra hsome
    obtain ⟨⟨tag, rest⟩, hfound⟩ := Option.ne_none_iff_exists'.1 hsome
    obtain ⟨hformed, hcs⟩ := front?_eq_some_iff.1 hfound
    exact h tag rest hformed hcs

theorem pieces_of_front?_none {c : Char} {rest : List Char} (h : front? (c :: rest) = none) :
    pieces (c :: rest) = plain c :: pieces rest := by
  rw [pieces]
  split
  · next hsome => cases h.symm.trans hsome
  · rfl

theorem pieces_chars_append {t : Tag} (h : t.WellFormed) (rest : List Char) :
    pieces (t.chars ++ rest) = tag t :: pieces rest := by
  have hfront : front? (t.chars ++ rest) = some (t, rest) := front?_eq_some_iff.2 ⟨h, rfl⟩
  obtain ⟨c, behind, hchars⟩ : ∃ c behind, t.chars ++ rest = c :: behind :=
    ⟨'<', _, rfl⟩
  rw [hchars] at hfront ⊢
  rw [pieces]
  split
  · next hsome =>
    cases hfront.symm.trans hsome
    rfl
  · next hnone => cases hnone.symm.trans hfront

end Piece

/-! ### Cuts -/

/-- A text cut at tags: a literal piece, and then tags, each with the literal piece behind it. -/
structure Cut where
  /-- What stands before the first tag. -/
  lead : List Char
  /-- The tags, with what stands behind each of them up to the next. -/
  parts : List (Tag × List Char)

namespace Cut

/-- The text of tags with the literal pieces behind them. -/
def written (parts : List (Tag × List Char)) : List Char :=
  parts.flatMap fun part => part.1.chars ++ part.2

/-- The text that was cut. -/
def chars (cut : Cut) : List Char := cut.lead ++ written cut.parts

/-- No tag starts inside the literal piece, when `rest` stands behind it. -/
def Untagged (literal rest : List Char) : Prop :=
  ∀ before behind, literal = before ++ behind → behind ≠ [] →
    ∀ (tag : Tag) (tail : List Char), tag.WellFormed → behind ++ rest ≠ tag.chars ++ tail

/-- Each tag of the cut is the leftmost one behind the tag before it. -/
structure Leftmost (cut : Cut) : Prop where
  /-- The tags are as the grammar asks. -/
  wellFormed : ∀ part ∈ cut.parts, part.1.WellFormed
  /-- No tag starts before the first one. -/
  lead : Untagged cut.lead (written cut.parts)
  /-- No tag starts between a tag and the next, or behind the last. -/
  behind : ∀ above tag literal below, cut.parts = above ++ (tag, literal) :: below →
    Untagged literal (written below)

theorem untagged_nil (rest : List Char) : Untagged [] rest := by
  intro before behind h hne
  exact absurd (List.append_eq_nil_iff.1 h.symm).2 hne

theorem untagged_cons {c : Char} {literal rest : List Char} :
    Untagged (c :: literal) rest ↔
      Piece.front? (c :: (literal ++ rest)) = none ∧ Untagged literal rest := by
  rw [Piece.front?_eq_none_iff]
  constructor
  · intro h
    refine ⟨h [] (c :: literal) rfl (List.cons_ne_nil _ _), fun before behind hsplit => ?_⟩
    exact h (c :: before) behind (congrArg (c :: ·) hsplit)
  · rintro ⟨hfirst, hrest⟩ before behind hsplit hne
    cases before with
    | nil =>
      obtain rfl : c :: literal = behind := hsplit
      exact hfirst
    | cons first before => exact hrest before behind (List.cons.inj hsplit).2 hne

/-- Behind the first tag, the other parts are leftmost too. -/
theorem leftmost_cons {tag : Tag} {literal : List Char} {rest : List (Tag × List Char)} :
    Leftmost ⟨[], (tag, literal) :: rest⟩ ↔ tag.WellFormed ∧ Leftmost ⟨literal, rest⟩ := by
  constructor
  · intro h
    obtain ⟨hfirst, hrest⟩ := List.forall_mem_cons.1 h.wellFormed
    exact ⟨hfirst, hrest, h.behind [] tag literal rest rfl, fun above other behind below hsplit =>
      h.behind ((tag, literal) :: above) other behind below (congrArg (_ :: ·) hsplit)⟩
  · rintro ⟨hfirst, hrest⟩
    refine ⟨List.forall_mem_cons.2 ⟨hfirst, hrest.wellFormed⟩, untagged_nil _, ?_⟩
    intro above other behind below hsplit
    cases above with
    | nil =>
      obtain ⟨hpart, rfl⟩ := List.cons.inj hsplit
      obtain ⟨-, rfl⟩ := Prod.ext_iff.1 hpart
      exact hrest.lead
    | cons first above => exact hrest.behind above other behind below (List.cons.inj hsplit).2

/-! ### A text has one leftmost cut -/

/-- The pieces of a cut. -/
def pieces (cut : Cut) : List Piece :=
  cut.lead.map .plain ++ cut.parts.flatMap fun part => .tag part.1 :: part.2.map .plain

/-- The cut that has the pieces. -/
def ofPieces : List Piece → Cut
  | [] => ⟨[], []⟩
  | .plain c :: rest => ⟨c :: (ofPieces rest).lead, (ofPieces rest).parts⟩
  | .tag t :: rest => ⟨[], (t, (ofPieces rest).lead) :: (ofPieces rest).parts⟩

theorem ofPieces_plain_append (literal : List Char) (rest : List Piece) :
    ofPieces (literal.map .plain ++ rest) =
      ⟨literal ++ (ofPieces rest).lead, (ofPieces rest).parts⟩ := by
  induction literal with
  | nil => rfl
  | cons c literal ih => rw [List.map_cons, List.cons_append, ofPieces, ih]; rfl

/-- A cut is determined by its pieces. -/
theorem ofPieces_pieces (cut : Cut) : ofPieces cut.pieces = cut := by
  obtain ⟨lead, parts⟩ := cut
  have hparts : ofPieces (parts.flatMap fun part => .tag part.1 :: part.2.map .plain) =
      ⟨[], parts⟩ := by
    induction parts with
    | nil => rfl
    | cons part rest ih =>
      rw [List.flatMap_cons, List.cons_append, ofPieces, ofPieces_plain_append, ih,
        List.append_nil]
  rw [pieces, ofPieces_plain_append, hparts, List.append_nil]

theorem chars_ofPieces (pieces : List Piece) :
    (ofPieces pieces).chars = pieces.flatMap Piece.chars := by
  induction pieces with
  | nil => rfl
  | cons piece rest ih =>
    rw [List.flatMap_cons, ← ih]
    cases piece with
    | plain c => rfl
    | tag t => simp [ofPieces, chars, written, Piece.chars]

theorem pieces_untagged_append {literal rest : List Char} (h : Untagged literal rest) :
    Piece.pieces (literal ++ rest) = literal.map .plain ++ Piece.pieces rest := by
  induction literal with
  | nil => rfl
  | cons c literal ih =>
    obtain ⟨hfirst, hrest⟩ := untagged_cons.1 h
    rw [List.cons_append, Piece.pieces_of_front?_none hfirst, ih hrest]
    rfl

/-- **The pieces of a leftmost cut are the pieces that are read.** -/
theorem Leftmost.pieces_chars {cut : Cut} (h : cut.Leftmost) :
    Piece.pieces cut.chars = cut.pieces := by
  obtain ⟨lead, parts⟩ := cut
  induction parts generalizing lead with
  | nil =>
    have hlead := pieces_untagged_append h.lead
    rw [chars, pieces, hlead]
    simp [written, Piece.pieces]
  | cons part rest ih =>
    obtain ⟨tag, literal⟩ := part
    -- The lead is read character by character, and what starts at the tag is a leftmost cut again.
    have hbehind : Leftmost ⟨[], (tag, literal) :: rest⟩ :=
      ⟨h.wellFormed, untagged_nil _, h.behind⟩
    obtain ⟨htag, hrest⟩ := leftmost_cons.1 hbehind
    have hwritten : written ((tag, literal) :: rest) = tag.chars ++ chars ⟨literal, rest⟩ := by
      simp [written, chars]
    rw [chars, pieces_untagged_append h.lead, hwritten, Piece.pieces_chars_append htag,
      ih literal hrest]
    simp [pieces]

/-- **The pieces that are read make a leftmost cut.** -/
theorem leftmost_ofPieces (cs : List Char) : (ofPieces (Piece.pieces cs)).Leftmost := by
  fun_induction Piece.pieces cs with
  | case1 =>
    refine ⟨by rintro _ ⟨⟩, untagged_nil _, fun above tag literal below h => ?_⟩
    cases above <;> cases h
  | case2 c rest t behind h ih =>
    exact leftmost_cons.2 ⟨(Piece.front?_eq_some_iff.1 h).1, ih⟩
  | case3 c rest h ih =>
    -- The cut of the rest is a cut of the whole rest, so no tag starts at `c`.
    have hrest : (ofPieces (Piece.pieces rest)).lead ++
        written (ofPieces (Piece.pieces rest)).parts = rest :=
      (chars_ofPieces _).trans (Piece.flatMap_chars_pieces rest)
    have hfront : Piece.front? (c :: ((ofPieces (Piece.pieces rest)).lead ++
        written (ofPieces (Piece.pieces rest)).parts)) = none := by
      rw [hrest]
      exact h
    exact ⟨ih.wellFormed, untagged_cons.2 ⟨hfront, ih.lead⟩, ih.behind⟩

/-- **A text has exactly one leftmost cut**: that of the pieces that are read. -/
theorem leftmost_iff {cut : Cut} {cs : List Char} :
    (cut.Leftmost ∧ cut.chars = cs) ↔ cut = ofPieces (Piece.pieces cs) := by
  constructor
  · rintro ⟨h, rfl⟩
    rw [h.pieces_chars, ofPieces_pieces]
  · rintro rfl
    exact ⟨leftmost_ofPieces cs, (chars_ofPieces _).trans (Piece.flatMap_chars_pieces cs)⟩

end Cut

end Storyboard
