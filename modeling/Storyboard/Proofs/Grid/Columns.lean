import Storyboard.Grid.Header

/-!
# Columns by name

A header collects its columns from left to right, skipping blank cells and names it has already
seen. What comes of it is said here on the row itself: the position of a column is that of the first
cell that spells its name (`Header.index?_ofRow`), so a header has a column exactly when one of the
cells of its row spells it (`Header.containsAll_ofRow`), and a row is read under a column at that
position (`Header.trim_cell_ofRow`). The columns are listed by name and position
(`Header.mem_columns_ofRow`), and so are the argument columns among them
(`Header.mem_argColumns_ofRow`). Whether a row is a header is a matter of the names alone
(`Row.isHeader_iff`).
-/

namespace Storyboard

namespace Row

/-- The position of the first cell that spells a name, up to blanks around it. -/
def position? (header : Row) (name : String) : Option Nat :=
  header.cells.findIdx? fun cell => Text.trim cell = name

/-- One of the cells spells a name, up to blanks around it. -/
def Declares (header : Row) (name : String) : Prop :=
  ∃ cell ∈ header.cells, Text.trim cell = name

/-- The trimmed cell of a row at the position that a header row gives to a name. It is empty when
the row ends before, or when the header does not have the name. -/
def under (row header : Row) (name : String) : String :=
  match header.position? name with
  | some i => Text.trim (row.cell i)
  | none => ""

theorem isSome_position?_iff (header : Row) (name : String) :
    (header.position? name).isSome = true ↔ header.Declares name := by
  unfold position? Declares
  rw [List.findIdx?_isSome, List.any_eq_true]
  simp only [decide_eq_true_eq]

end Row

namespace Header

theorem isSome_index?_iff (found : List (String × Nat)) (name : String) :
    (index? ⟨found⟩ name).isSome = true ↔ name ∈ found.map (·.1) := by
  simp [index?]

/-- A column on the right is found when there is none of its name to its left. -/
theorem index?_concat (found : List (String × Nat)) (other name : String) (i : Nat) :
    index? ⟨found ++ [(other, i)]⟩ name =
      (index? ⟨found⟩ name).or (if other = name then some i else none) := by
  unfold index?
  rw [List.find?_append, Option.map_or]
  by_cases h : other = name <;> simp [h]

/-- The columns found to the left come first, and then the first cell that spells the name. -/
theorem index?_collect {name : String} (hname : name ≠ "") (cells : List String)
    (found : List (String × Nat)) (i : Nat) :
    index? ⟨collect found i cells⟩ name =
      (index? ⟨found⟩ name).or
        ((cells.findIdx? fun cell => Text.trim cell = name).map (i + ·)) := by
  induction cells generalizing found i with
  | nil => simp [collect]
  | cons cell rest ih =>
    -- The rest of the cells is counted from one further on.
    have hshift : ∀ found, index? ⟨collect found (i + 1) rest⟩ name =
        (index? ⟨found⟩ name).or
          (((rest.findIdx? fun cell => Text.trim cell = name).map (· + 1)).map (i + ·)) := by
      intro found
      rw [ih, Option.map_map]
      congr 2
      funext j
      exact Nat.add_right_comm i 1 j
    rw [List.findIdx?_cons]
    unfold collect
    dsimp only
    by_cases hspell : Text.trim cell = name
    · rw [hspell, if_pos (decide_eq_true rfl)]
      by_cases hfound : name ∈ found.map (·.1)
      · -- The name is known, so both sides answer with the column on the left.
        obtain ⟨j, hj⟩ := Option.isSome_iff_exists.1 ((isSome_index?_iff found name).2 hfound)
        rw [if_pos (.inr hfound), hshift, hj]
        rfl
      · rw [if_neg (not_or.2 ⟨hname, hfound⟩), hshift, index?_concat, if_pos rfl]
        cases index? ⟨found⟩ name <;> rfl
    · have hpast : ¬ decide (Text.trim cell = name) = true := by simpa using hspell
      rw [if_neg hpast]
      split
      · exact hshift found
      · rw [hshift, index?_concat, if_neg hspell, Option.or_none]

/-- **The position of a column** is that of the first cell that spells its name. -/
theorem index?_ofRow (row : Row) {name : String} (hname : name ≠ "") :
    (ofRow row).index? name = row.position? name := by
  rw [ofRow, index?_collect hname]
  simp [index?, Row.position?]

/-- **A row is read under a column** at the position of that column. -/
theorem trim_cell_ofRow (header row : Row) {name : String} (hname : name ≠ "") :
    Text.trim ((ofRow header).cell row name) = row.under header name := by
  unfold cell Row.under
  rw [index?_ofRow header hname]
  cases header.position? name with
  | none => rfl
  | some i => rfl

/-- **A header has the columns** that the cells of its row spell. -/
theorem containsAll_ofRow (row : Row) {names : List String} (hnames : "" ∉ names) :
    (ofRow row).containsAll names = true ↔ ∀ name ∈ names, row.Declares name := by
  unfold containsAll
  rw [List.all_eq_true]
  refine forall₂_congr fun name hname => ?_
  have hne : name ≠ "" := fun h => hnames (h ▸ hname)
  rw [index?_ofRow row hne, Row.isSome_position?_iff]

/-! ### The columns of a header -/

theorem collect_of_blank (found : List (String × Nat)) {cells : List String}
    (h : cells.all Text.isBlankText = true) (i : Nat) : collect found i cells = found := by
  induction cells generalizing i with
  | nil => rfl
  | cons cell rest ih =>
    obtain ⟨hcell, hrest⟩ := Bool.and_eq_true_iff.1 h
    rw [collect, if_pos (.inl ((Text.trim_eq_empty_iff cell).2 hcell)), ih hrest]

theorem collect_append (found : List (String × Nat)) (i : Nat) (cells others : List String) :
    collect found i (cells ++ others) =
      collect (collect found i cells) (i + cells.length) others := by
  induction cells generalizing found i with
  | nil => rfl
  | cons cell rest ih =>
    rw [List.cons_append, collect, collect, List.length_cons, ← Nat.add_assoc,
      Nat.add_right_comm]
    split
    · exact ih found (i + 1)
    · exact ih (found ++ [(Text.trim cell, i)]) (i + 1)

/-- Each name is collected once, and none is empty. -/
theorem nodup_collect (found : List (String × Nat)) (hnodup : (found.map (·.1)).Nodup)
    (hblank : "" ∉ found.map (·.1)) (i : Nat) (cells : List String) :
    ((collect found i cells).map (·.1)).Nodup ∧ "" ∉ (collect found i cells).map (·.1) := by
  induction cells generalizing found i with
  | nil => exact ⟨hnodup, hblank⟩
  | cons cell rest ih =>
    rw [collect]
    split
    · exact ih found hnodup hblank (i + 1)
    · next hnew =>
      obtain ⟨hname, hfresh⟩ := not_or.1 hnew
      have hnames : (found ++ [(Text.trim cell, i)]).map (·.1) =
          found.map (·.1) ++ [Text.trim cell] := by
        rw [List.map_append, List.map_singleton]
      apply ih
      · rw [hnames, List.nodup_append]
        refine ⟨hnodup, List.pairwise_singleton _ _, fun name hfound other hother => ?_⟩
        rw [List.mem_singleton.1 hother]
        exact fun heq => hfresh (heq ▸ hfound)
      · rw [hnames, List.mem_append, List.mem_singleton]
        exact not_or.2 ⟨hblank, fun heq => hname heq.symm⟩

theorem nodup_columns_ofRow (row : Row) :
    ((ofRow row).columns.map (·.1)).Nodup ∧ "" ∉ (ofRow row).columns.map (·.1) :=
  nodup_collect [] List.nodup_nil List.not_mem_nil 0 row.cells

/-- Among distinct names, a column is found where it is. -/
theorem index?_eq_some_iff {columns : List (String × Nat)} (h : (columns.map (·.1)).Nodup)
    (name : String) (i : Nat) : index? ⟨columns⟩ name = some i ↔ (name, i) ∈ columns := by
  induction columns with
  | nil => simp [index?]
  | cons column rest ih =>
    obtain ⟨first, j⟩ := column
    obtain ⟨hfirst, hrest⟩ := List.nodup_cons.1 h
    rw [List.mem_cons, Prod.mk.injEq, ← ih hrest, index?, List.find?_cons]
    by_cases hname : first = name
    · -- The name is not among the rest, so only the first column can be meant.
      have hnone : index? ⟨rest⟩ name ≠ some i := by
        intro hsome
        apply hfirst
        rw [hname, ← isSome_index?_iff, hsome]
        rfl
      simp [hname, hnone, eq_comm]
    · have hother : ¬ name = first := fun heq => hname heq.symm
      simp [hname, hother, index?]

/-- A name is looked up at the position of its first cell, unless it is empty. -/
theorem index?_ofRow_eq_some_iff (row : Row) (name : String) (i : Nat) :
    (ofRow row).index? name = some i ↔ name ≠ "" ∧ row.position? name = some i := by
  by_cases hname : name = ""
  · subst hname
    have hnone : ((ofRow row).index? "").isSome ≠ true :=
      fun hsome => (nodup_columns_ofRow row).2 ((isSome_index?_iff _ _).1 hsome)
    constructor
    · intro hsome
      rw [hsome] at hnone
      exact absurd rfl hnone
    · rintro ⟨hne, -⟩
      exact absurd rfl hne
  · rw [index?_ofRow row hname]
    exact ⟨fun h => ⟨hname, h⟩, And.right⟩

/-- **The columns of a header** are the names that its cells spell, each at its position. -/
theorem mem_columns_ofRow (row : Row) (name : String) (i : Nat) :
    (name, i) ∈ (ofRow row).columns ↔ name ≠ "" ∧ row.position? name = some i :=
  (index?_eq_some_iff (nodup_columns_ofRow row).1 name i).symm.trans
    (index?_ofRow_eq_some_iff row name i)

theorem ne_empty_of_argNumber? {name : String} {n : Nat} (h : argNumber? name = some n) :
    name ≠ "" := by
  rintro rfl
  cases h

/-- **The argument columns of a header** are the names that denote a number. -/
theorem mem_argColumns_ofRow (row : Row) (n i : Nat) :
    (n, i) ∈ (ofRow row).argColumns ↔
      ∃ name, argNumber? name = some n ∧ row.position? name = some i := by
  rw [argColumns, (List.mergeSort_perm _ _).mem_iff, List.mem_filterMap]
  constructor
  · rintro ⟨⟨name, j⟩, hcolumn, hnumber⟩
    obtain ⟨m, hname, hpair⟩ := Option.map_eq_some_iff.1 hnumber
    obtain ⟨rfl, rfl⟩ := Prod.mk.injEq .. ▸ hpair
    exact ⟨name, hname, ((mem_columns_ofRow row name j).1 hcolumn).2⟩
  · rintro ⟨name, hname, hposition⟩
    have hcolumn := (mem_columns_ofRow row name i).2 ⟨ne_empty_of_argNumber? hname, hposition⟩
    exact ⟨(name, i), hcolumn, by simp [hname]⟩

end Header

/-- **A row is a header** by what its cells spell, wherever they stand. -/
theorem Row.isHeader_iff (row : Row) :
    row.isHeader = true ↔ row.isRemark = false ∧ row.Declares Header.commandColumn ∧
      row.Declares Header.textColumn ∧
      ∃ name n, Header.argNumber? name = some n ∧ row.Declares name := by
  -- Some column is listed exactly if some cell spells an argument.
  have hargs : (Header.ofRow row).argColumns.isEmpty = false ↔
      ∃ name n, Header.argNumber? name = some n ∧ row.Declares name := by
    rw [List.isEmpty_eq_false_iff_exists_mem]
    constructor
    · rintro ⟨⟨n, i⟩, hmem⟩
      obtain ⟨name, hname, hposition⟩ := (Header.mem_argColumns_ofRow row n i).1 hmem
      exact ⟨name, n, hname, (row.isSome_position?_iff name).1 (hposition ▸ rfl)⟩
    · rintro ⟨name, n, hname, hdeclares⟩
      obtain ⟨i, hi⟩ := Option.isSome_iff_exists.1 ((row.isSome_position?_iff name).2 hdeclares)
      exact ⟨(n, i), (Header.mem_argColumns_ofRow row n i).2 ⟨name, hname, hi⟩⟩
  rw [Row.isHeader, Bool.and_eq_true, Bool.and_eq_true, Bool.not_eq_true', Bool.not_eq_true',
    hargs, Header.containsAll_ofRow row (by decide), and_assoc]
  simp only [List.forall_mem_cons, List.not_mem_nil, false_imp_iff, implies_true, and_true,
    and_assoc]

end Storyboard
