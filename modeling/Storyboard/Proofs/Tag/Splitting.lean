import Storyboard.Proofs.Tag.Rendering

/-!
# Texts that can be rendered apart

A tag that starts in a text may end in what is put behind the text, so a text cannot be cut anywhere
and rendered in parts. It can be cut behind a text in which each `<` is followed by a `>`
(`Text.Closed`), whatever comes next (`Markup.render_append_of_closed`).

The reason is that a tag ends with the first `>` behind its `<`. So the reader, wherever it starts
in a closed text, has made up its mind when it meets that `>`: it finds the tags that it finds
without what comes next, and no others (`Piece.front?_append`).
-/

namespace Storyboard

/-! ### Closed texts -/

namespace Text

/-- Each `<` of a text is followed by a `>`. -/
def Closed (cs : List Char) : Prop :=
  ∀ before behind, cs = before ++ '<' :: behind → '>' ∈ behind

theorem closed_nil : Closed [] := by
  intro before behind h
  cases before <;> cases h

theorem closed_cons {c : Char} {cs : List Char} :
    Closed (c :: cs) ↔ (c = '<' → '>' ∈ cs) ∧ Closed cs := by
  constructor
  · intro h
    refine ⟨fun hc => h [] cs (by rw [hc]; rfl), fun before behind hsplit => ?_⟩
    exact h (c :: before) behind (congrArg (c :: ·) hsplit)
  · rintro ⟨hfirst, hrest⟩ before behind hsplit
    cases before with
    | nil =>
      obtain ⟨hc, rfl⟩ := List.cons.inj hsplit
      exact hfirst hc
    | cons first before => exact hrest before behind (List.cons.inj hsplit).2

instance decidableClosed : (cs : List Char) → Decidable (Closed cs)
  | [] => isTrue closed_nil
  | c :: cs =>
    have := decidableClosed cs
    decidable_of_iff ((c = '<' → '>' ∈ cs) ∧ Closed cs) closed_cons.symm

theorem Closed.of_append {front cs : List Char} (h : Closed (front ++ cs)) : Closed cs := by
  intro before behind hsplit
  apply h (front ++ before) behind
  rw [hsplit, List.append_assoc]

theorem closed_of_notMem {cs : List Char} (h : '<' ∉ cs) : Closed cs := by
  intro before behind hsplit
  rw [hsplit] at h
  exact absurd (List.mem_append_right before List.mem_cons_self) h

/-- A text is closed when there is a `>` behind its last `<`. -/
theorem closed_of_last {front last : List Char} (hlast : '<' ∉ last) (hend : '>' ∈ last) :
    Closed (front ++ '<' :: last) := by
  intro before behind hsplit
  rcases List.append_eq_append_iff.1 hsplit with ⟨more, -, hmore⟩ | ⟨more, -, hmore⟩
  · cases more with
    | nil =>
      obtain ⟨-, rfl⟩ := List.cons.inj hmore
      exact hend
    | cons first more =>
      -- Another `<` behind the last one.
      obtain ⟨-, rfl⟩ := List.cons.inj hmore
      exact absurd (List.mem_append_right more List.mem_cons_self) hlast
  · cases more with
    | nil =>
      obtain ⟨-, rfl⟩ := List.cons.inj hmore
      exact hend
    | cons first more =>
      obtain ⟨-, rfl⟩ := List.cons.inj hmore
      exact List.mem_append_right more (List.mem_cons_of_mem _ hend)

end Text

/-! ### Reading in front of another text -/

/-- A tag ends with its first `>`. -/
theorem Tag.WellFormed.notMem_front {tag : Tag} (h : tag.WellFormed) :
    '>' ∉ '<' :: tag.name ++ '=' :: tag.value := by
  have hname : '>' ∉ tag.name := by
    intro hmem
    have hword := h.word '>' hmem
    rw [Text.isWord_gt] at hword
    cases hword
  simp [hname, h.closed]

namespace Piece

/-- **A closed text is read without what comes next**: a tag at its front ends inside of it, and
where it has no tag, none comes of another text behind it. -/
theorem front?_append {cs : List Char} (h : Text.Closed cs) (hne : cs ≠ []) (next : List Char) :
    front? (cs ++ next) = (front? cs).map fun found => (found.1, found.2 ++ next) := by
  cases hfound : front? cs with
  | some found =>
    obtain ⟨tag, rest⟩ := found
    obtain ⟨hformed, hcs⟩ := front?_eq_some_iff.1 hfound
    refine front?_eq_some_iff.2 ⟨hformed, ?_⟩
    rw [hcs, List.append_assoc]
  | none =>
    refine front?_eq_none_iff.2 fun tag rest hformed hsplit => ?_
    have hchars : tag.chars = ('<' :: tag.name ++ '=' :: tag.value) ++ ['>'] := rfl
    rcases List.append_eq_append_iff.1 hsplit with ⟨more, htag, -⟩ | ⟨more, hcs, -⟩
    · -- The tag would start in `cs` and end behind it, or just at its end.
      rcases List.eq_nil_or_concat more with rfl | ⟨more, last, rfl⟩
      · rw [List.append_nil] at htag
        have hsame : cs = tag.chars ++ [] := by rw [htag, List.append_nil]
        exact front?_eq_none_iff.1 hfound tag [] hformed hsame
      · obtain ⟨c, others, rfl⟩ := List.exists_cons_of_ne_nil hne
        rw [hchars, List.concat_eq_append, ← List.append_assoc] at htag
        obtain ⟨hfront, -⟩ := List.append_inj' htag rfl
        obtain ⟨hc, -⟩ := List.cons.inj hfront
        have hend : '>' ∈ others := (Text.closed_cons.1 h).1 hc.symm
        apply hformed.notMem_front
        rw [hfront]
        exact List.mem_append_left more (List.mem_cons_of_mem c hend)
    · exact front?_eq_none_iff.1 hfound tag more hformed hcs

/-- **The pieces of a closed text stay what they are** in front of another text. -/
theorem pieces_append {cs : List Char} (h : Text.Closed cs) (next : List Char) :
    pieces (cs ++ next) = pieces cs ++ pieces next := by
  fun_induction pieces cs with
  | case1 => rfl
  | case2 c rest t behind hfound ih =>
    obtain ⟨hformed, hcs⟩ := front?_eq_some_iff.1 hfound
    rw [hcs] at h ⊢
    rw [List.append_assoc, pieces_chars_append hformed, ih h.of_append, List.cons_append]
  | case3 c rest hnone ih =>
    have hfront : front? (c :: (rest ++ next)) = none := by
      rw [← List.cons_append, front?_append h (List.cons_ne_nil c rest), hnone]
      rfl
    rw [List.cons_append, pieces_of_front?_none hfront, ih (Text.closed_cons.1 h).2,
      List.cons_append]

/-- Without a `<` there is no tag. -/
theorem pieces_of_notMem {cs : List Char} (h : '<' ∉ cs) : pieces cs = cs.map plain := by
  have huntagged : Cut.Untagged cs [] := by
    rintro before behind rfl hne tag tail - hsplit
    obtain ⟨c, others, rfl⟩ := List.exists_cons_of_ne_nil hne
    obtain ⟨hc, -⟩ := List.cons.inj hsplit
    apply h
    rw [hc]
    exact List.mem_append_right before List.mem_cons_self
  have hpieces := Cut.pieces_untagged_append huntagged
  simpa [pieces] using hpieces

end Piece

/-! ### Rendering in parts -/

namespace Markup

variable {γ : Type}

theorem render_append (markup : Markup γ) (context : γ) {text : String}
    (h : Text.Closed text.toList) (next : String) :
    markup.render context (text ++ next) =
      (markup.render context text).append (markup.render context next) := by
  rw [render, String.toList_append, Piece.pieces_append h, List.map_append,
    Rendering.concat_append]
  rfl

theorem render_of_notMem (markup : Markup γ) (context : γ) {text : String}
    (h : '<' ∉ text.toList) : markup.render context text = ⟨text, []⟩ := by
  rw [render, Piece.pieces_of_notMem h, concat_renderPiece_plain, Rendering.literal,
    String.ofList_toList]

/-- **Rendering distributes over a text that is closed and what comes next.** A text in which each
`<` is followed by a `>` is rendered as if nothing came next, and what comes next as if nothing were
in front of it. So a text without `<` can be put in front of any other and stands for itself, and a
text with a `>` behind its last `<` can be split off from any other. -/
theorem render_append_of_closed (markup : Markup γ) (context : γ) (text next : String) :
    (Text.Closed text.toList →
      markup.render context (text ++ next) =
        (markup.render context text).append (markup.render context next)) ∧
    ('<' ∉ text.toList →
      markup.render context text = ⟨text, []⟩ ∧
      markup.render context (text ++ next) =
        Rendering.append ⟨text, []⟩ (markup.render context next)) ∧
    ∀ front last, text.toList = front ++ '<' :: last → '<' ∉ last → '>' ∈ last →
      markup.render context (text ++ next) =
        (markup.render context text).append (markup.render context next) := by
  refine ⟨fun h => render_append markup context h next, fun h => ?_,
    fun front last htext hlast hend => ?_⟩
  · have hself := render_of_notMem markup context h
    have hsplit := render_append markup context (Text.closed_of_notMem h) next
    rw [hself] at hsplit
    exact ⟨hself, hsplit⟩
  · apply render_append
    rw [htext]
    exact Text.closed_of_last hlast hend

/-- The `<x>` is no tag, and no part of one that comes next; nor is what precedes the `>`. -/
theorem closedGreeting_rendered_apart :
    let markup : Markup Unit := registered [("c", .constant "E")]
    (Text.Closed "<c=a>, <x>".toList ∧
      markup.render () ("<c=a>, <x>" ++ "=1> <c=b>") =
        (markup.render () "<c=a>, <x>").append (markup.render () "=1> <c=b>")) ∧
    markup.render () ("2 > 1, " ++ "<c=b>") =
      Rendering.append ⟨"2 > 1, ", []⟩ (markup.render () "<c=b>") ∧
    markup.render () ("<<c=a> >" ++ "<c=b>") =
      (markup.render () "<<c=a> >").append (markup.render () "<c=b>") := by
  intro markup
  obtain ⟨hclosed, -, -⟩ := render_append_of_closed markup () "<c=a>, <x>" "=1> <c=b>"
  obtain ⟨-, hplain, -⟩ := render_append_of_closed markup () "2 > 1, " "<c=b>"
  obtain ⟨-, -, hlast⟩ := render_append_of_closed markup () "<<c=a> >" "<c=b>"
  refine ⟨⟨by decide, hclosed (by decide)⟩, (hplain (by decide)).2, ?_⟩
  exact hlast ['<'] "c=a> >".toList (by decide) (by decide) (by decide)

-- The `<` of the first text is not closed: a tag comes of both texts that neither of them has.
example :
    ((registered [("c", .constant "E")]).render () ("<c=" ++ "a>")).text = "E" ∧
    ((registered [("c", .constant "E")]).render () "<c=").text ++
      ((registered [("c", .constant "E")]).render () "a>").text = "<c=a>" := by
  decide +kernel

end Markup

end Storyboard
