import Storyboard.Proofs.Compile.Building
import Storyboard.Proofs.Grid.Arrangement

/-!
# What a choice row offers

A choice pairs the parts of a text with the targets that its row names, in order. What a row offers
is said here on the cells alone (`Row.Offers`): the targets stand under the argument columns of the
header row, in the order of their numbers whatever the order of the columns, and blank ones are left
out; the captions are the parts of the text between bars. A row offers one thing only, and it is a
choice exactly when there is a target and there are as many captions as targets
(`Builder.choice_pairs_captions_with_targets`).

A header keeps its columns as a list, but nothing depends on the order of that list: no two columns
have the same name, so a column is found wherever it is listed (`Header.index?_of_perm`), and the
argument columns are sorted (`Header.argColumns_of_perm`).
-/

namespace Storyboard

/-! ### Columns in any order -/

namespace Header

variable {columns others : List (String × Nat)}

theorem argBefore_antisymm {a b : Nat × Nat} (hab : argBefore a b = true)
    (hba : argBefore b a = true) : a = b := by
  rw [argBefore_iff] at hab hba
  exact Prod.ext (by omega) (by omega)

/-- There is one order of the argument columns. -/
theorem argColumns_eq {sorted : List (Nat × Nat)}
    (hsorted : sorted.Pairwise fun a b => argBefore a b = true)
    (h : (columns.filterMap fun column =>
      (argNumber? column.1).map fun n => (n, column.2)).Perm sorted) :
    argColumns ⟨columns⟩ = sorted :=
  List.Perm.eq_of_pairwise (fun _ _ _ _ => argBefore_antisymm) (pairwise_argBefore _) hsorted
    ((List.mergeSort_perm _ _).trans h)

/-- **The argument columns** are the same in whatever order the columns are listed. -/
theorem argColumns_of_perm (h : columns.Perm others) :
    argColumns ⟨columns⟩ = argColumns ⟨others⟩ :=
  argColumns_eq (pairwise_argBefore _) ((h.filterMap _).trans (List.mergeSort_perm _ _).symm)

/-- **A column is found** in whatever order the columns are listed, if their names are distinct. -/
theorem index?_of_perm (h : columns.Perm others) (hnames : (others.map (·.1)).Nodup)
    (name : String) : index? ⟨columns⟩ name = index? ⟨others⟩ name := by
  apply Option.ext
  intro i
  rw [index?_eq_some_iff hnames, index?_eq_some_iff ((h.map _).nodup_iff.2 hnames), h.mem_iff]

end Header

/-- A choice is built alike in whatever order the columns of its header are listed. -/
theorem Builder.choice_of_perm {columns others : List (String × Nat)} (h : columns.Perm others)
    (hnames : (others.map (·.1)).Nodup) (row : Row) (place : Location) (options : Options) :
    Builder.choice ⟨⟨columns⟩, row, place, options⟩ =
      Builder.choice ⟨⟨others⟩, row, place, options⟩ := by
  have htext : Entry.text ⟨⟨columns⟩, row, place, options⟩ =
      Entry.text ⟨⟨others⟩, row, place, options⟩ := by
    unfold Entry.text Header.cell
    dsimp only
    rw [Header.index?_of_perm h hnames]
  unfold Builder.choice Entry.choiceTargets Entry.choiceCaptions
  rw [htext]
  dsimp only
  rw [Header.argColumns_of_perm h]

/-! ### Argument columns in order -/

/-- The strict order of argument columns: by number, and by position when the numbers agree. -/
def Header.ArgPrecedes (a b : Nat × Nat) : Prop := a.1 < b.1 ∨ a.1 = b.1 ∧ a.2 < b.2

instance : Std.Irrefl Header.ArgPrecedes where
  irrefl a h := by
    unfold Header.ArgPrecedes at h
    omega

instance : Std.Antisymm Header.ArgPrecedes where
  antisymm a b hab hba := by
    unfold Header.ArgPrecedes at hab hba
    omega

/-- The argument columns that a header row declares, as numbers with positions, in their order. -/
structure Row.ListsArgs (header : Row) (columns : List (Nat × Nat)) : Prop where
  /-- They are in increasing order, so none is listed twice. -/
  ordered : columns.Pairwise Header.ArgPrecedes
  /-- They are the names that denote a number, each at the first cell that spells it. -/
  declared : ∀ n i, (n, i) ∈ columns ↔
    ∃ name, Header.argNumber? name = some n ∧ header.position? name = some i

namespace Header

/-- Two columns have different positions, because a cell spells one name. -/
theorem nodup_positions_ofRow (row : Row) : ((ofRow row).columns.map (·.2)).Nodup := by
  refine ((nodup_columns_ofRow row).1.of_map _).map_on ?_
  rintro ⟨name, i⟩ hname ⟨other, j⟩ hother hposition
  obtain rfl : i = j := hposition
  obtain ⟨-, hname⟩ := (mem_columns_ofRow row name i).1 hname
  obtain ⟨-, hother⟩ := (mem_columns_ofRow row other i).1 hother
  obtain ⟨hi, hspell, -⟩ := List.findIdx?_eq_some_iff_getElem.1 hname
  obtain ⟨_, hsame, -⟩ := List.findIdx?_eq_some_iff_getElem.1 hother
  rw [← of_decide_eq_true hspell, ← of_decide_eq_true hsame]

theorem pairwise_argPrecedes_ofRow (row : Row) :
    (ofRow row).argColumns.Pairwise ArgPrecedes := by
  have hapart : (ofRow row).argColumns.Pairwise fun a b => a.2 ≠ b.2 := by
    rw [argColumns, (List.mergeSort_perm _ _).pairwise_iff fun h => h.symm, List.pairwise_filterMap]
    refine (List.pairwise_map.1 (nodup_positions_ofRow row)).imp ?_
    intro column other hne a ha b hb
    obtain ⟨n, -, rfl⟩ := Option.map_eq_some_iff.1 ha
    obtain ⟨m, -, rfl⟩ := Option.map_eq_some_iff.1 hb
    exact hne
  refine ((pairwise_argBefore (ofRow row)).and hapart).imp ?_
  rintro a b ⟨hbefore, hne⟩
  rw [argBefore_iff] at hbefore
  unfold ArgPrecedes
  omega

/-- **A header lists its argument columns in order.** -/
theorem listsArgs_argColumns (row : Row) : row.ListsArgs (ofRow row).argColumns :=
  ⟨pairwise_argPrecedes_ofRow row, mem_argColumns_ofRow row⟩

end Header

theorem Row.ListsArgs.eq_argColumns {header : Row} {columns : List (Nat × Nat)}
    (h : header.ListsArgs columns) : columns = (Header.ofRow header).argColumns := by
  refine h.ordered.eq_of_mem_iff (Header.pairwise_argPrecedes_ofRow header) ?_
  rintro ⟨n, i⟩
  rw [h.declared, Header.mem_argColumns_ofRow]

/-! ### The parts of a text -/

namespace Text

/-- A text is cut into the parts between the bars. -/
structure Parts (bar : Char) (cs : List Char) (parts : List (List Char)) : Prop where
  /-- Also a text without bars has a part. -/
  ne_nil : parts ≠ []
  /-- No part has a bar in it. -/
  apart : ∀ part ∈ parts, bar ∉ part
  /-- The parts with a bar between each two of them are the text. -/
  joined : [bar].intercalate parts = cs

theorem notMem_of_mem_splitOn {bar : Char} {cs part : List Char} (h : part ∈ cs.splitOn bar) :
    bar ∉ part := by
  induction cs generalizing part with
  | nil =>
    rw [List.splitOn_nil, List.mem_singleton] at h
    rw [h]
    exact List.not_mem_nil
  | cons c cs ih =>
    rw [List.splitOn_cons_eq_if_modifyHead] at h
    split at h
    · rcases List.mem_cons.1 h with rfl | hrest
      · exact List.not_mem_nil
      · exact ih hrest
    · next hc =>
      -- A character that is no bar goes in front of the first part.
      obtain ⟨first, rest, hsplit⟩ := List.exists_cons_of_ne_nil (List.splitOn_ne_nil bar cs)
      rw [hsplit] at h ih
      rcases List.mem_cons.1 h with rfl | hrest
      · rw [List.mem_cons, not_or]
        exact ⟨fun heq => hc (beq_iff_eq.2 heq.symm), ih List.mem_cons_self⟩
      · exact ih (List.mem_cons_of_mem _ hrest)

/-- **A text is cut in one way.** -/
theorem parts_iff {bar : Char} {cs : List Char} {parts : List (List Char)} :
    Parts bar cs parts ↔ parts = cs.splitOn bar := by
  constructor
  · rintro ⟨hne, hapart, rfl⟩
    exact (List.splitOn_intercalate bar hapart hne).symm
  · rintro rfl
    exact ⟨List.splitOn_ne_nil _ _, fun _ => notMem_of_mem_splitOn, List.intercalate_splitOn bar⟩

end Text

/-! ### Targets and captions -/

namespace Row

/-- The text cell of a row, as it stands, at the position that a header row gives to it. It is empty
when the header row gives none. -/
def textUnder (row header : Row) : String :=
  ((header.position? Header.textColumn).map row.cell).getD ""

/-- The targets and the captions that a row offers under a header row. -/
structure Offers (row header : Row) (targets captions : List String) : Prop where
  /-- The targets are the cells under the argument columns, in order, without the blank ones. -/
  targets : ∃ columns, header.ListsArgs columns ∧
    targets = (columns.map fun column => Text.trim (row.cell column.2)).filter (· ≠ "")
  /-- A blank text has no captions. -/
  silent : Text.isBlankText (row.textUnder header) = true → captions = []
  /-- Any other text has its trimmed parts as captions. -/
  captions : Text.isBlankText (row.textUnder header) = false →
    ∃ parts, Text.Parts '|' (row.textUnder header).toList parts ∧
      captions = parts.map fun part => Text.trim (String.ofList part)

end Row

namespace Entry

variable (header row : Row) (place : Location) (options : Options)

theorem text_ofRow : text ⟨Header.ofRow header, row, place, options⟩ = row.textUnder header := by
  unfold text Header.cell Row.textUnder
  rw [Header.index?_ofRow header (by decide)]
  cases header.position? Header.textColumn with
  | none => rfl
  | some i => rfl

/-- **A row offers what its builder reads,** and nothing else. -/
theorem offers_iff (targets captions : List String) :
    row.Offers header targets captions ↔
      targets = choiceTargets ⟨Header.ofRow header, row, place, options⟩ ∧
        captions = choiceCaptions ⟨Header.ofRow header, row, place, options⟩ := by
  have hcaptions : choiceCaptions ⟨Header.ofRow header, row, place, options⟩ =
      if Text.isBlankText (row.textUnder header) then []
      else ((row.textUnder header).toList.splitOn '|').map fun part =>
        Text.trim (String.ofList part) := by
    unfold choiceCaptions
    rw [text_ofRow]
    simp only [Text.trim, String.toList_ofList]
  rw [hcaptions]
  constructor
  · rintro ⟨⟨columns, hcolumns, rfl⟩, hsilent, hparts⟩
    -- There is one list of columns that a header row lists, and one way to cut a text at its bars.
    refine ⟨by rw [hcolumns.eq_argColumns]; rfl, ?_⟩
    cases hblank : Text.isBlankText (row.textUnder header) with
    | true => exact hsilent hblank
    | false =>
      obtain ⟨parts, hcut, rfl⟩ := hparts hblank
      rw [Text.parts_iff.1 hcut]
      rfl
  · rintro ⟨rfl, rfl⟩
    refine ⟨⟨_, Header.listsArgs_argColumns header, rfl⟩, fun hblank => if_pos hblank, ?_⟩
    intro hblank
    exact ⟨_, Text.parts_iff.2 rfl, if_neg (by simp [hblank])⟩

end Entry

/-! ### Choices -/

/-- What becomes of a choice row at a place that offers targets and captions. -/
structure Builder.Pairs (place : Location) (targets captions : List String)
    (result : Except Fault Command) : Prop where
  /-- It is a choice when there is a target, and a caption for each of them. -/
  succeeds : (∃ command, result = .ok command) ↔
    targets ≠ [] ∧ captions.length = targets.length
  /-- The options of the choice have the captions and the targets, one each in order. -/
  paired : ∀ command, result = .ok command →
    ∃ items, command = .choice items place ∧ items.map (·.text) = captions ∧
      items.map (·.target) = targets
  /-- The lack of targets is told, whatever the captions are. -/
  empty : targets = [] →
    ∃ fault, result = .error fault ∧ fault.code = "COMPILE_CHOICE_EMPTY" ∧
      fault.place? = some place
  /-- Otherwise both counts are told. -/
  mismatch : targets ≠ [] → captions.length ≠ targets.length →
    ∃ fault, result = .error fault ∧ fault.code = "COMPILE_CHOICE_MISMATCH" ∧
      fault.place? = some place ∧
      fault.message = "Choice has " ++ toString targets.length ++ " target labels but " ++
        toString captions.length ++ " captions."

namespace Builder

theorem pairs_choice (entry : Entry) :
    Pairs entry.place entry.choiceTargets entry.choiceCaptions (choice entry) where
  succeeds := by
    simp only [choice_eq_ok_iff]
    constructor
    · rintro ⟨command, htargets, hlength, -⟩
      exact ⟨htargets, hlength.symm⟩
    · rintro ⟨htargets, hlength⟩
      exact ⟨_, htargets, hlength.symm, rfl⟩
  paired command h := by
    -- With as many captions as targets, pairing them loses none of either.
    obtain ⟨-, hlength, rfl⟩ := choice_eq_ok_iff.1 h
    refine ⟨_, rfl, ?_, ?_⟩
    · rw [← List.map_uncurry_zip_eq_zipWith, List.map_map]
      exact List.map_fst_zip hlength.ge
    · rw [← List.map_uncurry_zip_eq_zipWith, List.map_map]
      exact List.map_snd_zip hlength.le
  empty h := ⟨.choiceEmpty entry.place, if_pos h, rfl, rfl⟩
  mismatch h hlength := by
    refine ⟨.choiceMismatch entry.choiceTargets.length entry.choiceCaptions.length entry.place, ?_,
      rfl, rfl, ?_⟩
    · rw [choice, if_neg h, if_pos hlength.symm]
    · rfl

/-- **A choice pairs captions with targets.** A row offers targets and captions under a header row,
and they decide what becomes of it: a choice with one option for each target, in order, or a fault.
The order in which the columns of the header are listed has no part in it. -/
theorem choice_pairs_captions_with_targets (header row : Row) (place : Location)
    (options : Options) (columns : List (String × Nat))
    (h : columns.Perm (Header.ofRow header).columns) :
    (∃ targets captions, row.Offers header targets captions) ∧
      (∀ targets captions, row.Offers header targets captions →
        Pairs place targets captions (choice ⟨⟨columns⟩, row, place, options⟩)) ∧
      choice ⟨⟨columns⟩, row, place, options⟩ =
        choice ⟨Header.ofRow header, row, place, options⟩ := by
  have hsame : choice ⟨⟨columns⟩, row, place, options⟩ =
      choice ⟨Header.ofRow header, row, place, options⟩ :=
    choice_of_perm h (Header.nodup_columns_ofRow header).1 row place options
  have hoffers := Entry.offers_iff header row place options
  refine ⟨⟨_, _, (hoffers _ _).2 ⟨rfl, rfl⟩⟩, fun targets captions h => ?_, hsame⟩
  obtain ⟨rfl, rfl⟩ := (hoffers targets captions).1 h
  rw [hsame]
  exact pairs_choice ⟨Header.ofRow header, row, place, options⟩

/-- A header row with two spellings of the second argument, behind the tenth one. -/
def menuHeader : Row := ⟨["Text", "Arg10", "Command", " Arg2 ", "Arg02", "Arg7"], 1⟩

/-- A choice row with a blank cell among its targets. -/
def menuRow : Row := ⟨["Left| Right |Back", "Start", "Choice", " Garden ", "Cellar", " "], 2⟩

/-- The columns of the header row, from right to left. -/
def menuColumns : List (String × Nat) :=
  [("Arg7", 5), ("Arg02", 4), ("Arg2", 3), ("Command", 2), ("Arg10", 1), ("Text", 0)]

theorem menu_pairs_three_targets :
    menuColumns.Perm (Header.ofRow menuHeader).columns ∧
      menuRow.Offers menuHeader ["Garden", "Cellar", "Start"] ["Left", "Right", "Back"] ∧
      Pairs (.row "menu" 2) ["Garden", "Cellar", "Start"] ["Left", "Right", "Back"]
        (choice ⟨⟨menuColumns⟩, menuRow, .row "menu" 2, {}⟩) := by
  have hargs : (Header.ofRow menuHeader).argColumns = [(2, 3), (2, 4), (7, 5), (10, 1)] :=
    Header.argColumns_eq (by decide) (by decide)
  have hoffers : menuRow.Offers menuHeader ["Garden", "Cellar", "Start"]
      ["Left", "Right", "Back"] := by
    rw [Entry.offers_iff menuHeader menuRow (.row "menu" 2) {}, Entry.choiceTargets, hargs]
    decide
  have hperm : menuColumns.Perm (Header.ofRow menuHeader).columns := by decide
  have hpairs := choice_pairs_captions_with_targets menuHeader menuRow (.row "menu" 2) {}
    menuColumns hperm
  exact ⟨hperm, hoffers, hpairs.2.1 _ _ hoffers⟩

end Builder

end Storyboard
