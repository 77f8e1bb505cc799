import Storyboard.Proofs.Grid.Columns
import Mathlib.Data.List.GetD
import Mathlib.Data.List.Sort

/-!
# Where the columns of a sheet stand

The cells of a row are told apart by the names above them, so a sheet can be laid out anew: its
columns can be brought into another order (`Row.reorder`), and its rows can be continued by empty
cells (`Row.pad`). Here is what such a layout keeps. A row *relocates* along a map of positions when
each cell is found where the map sends it, and when the row counts as a blank row, a remark or a
header exactly as before; a header relocates when each column is found where the map sends it, with
the argument columns in the same order (`Row.Relocates`, `Header.Relocates`).

A row always relocates when it is padded, with every cell left in place (`Row.relocates_pad`). It
relocates when it is reordered if no cell can pass for a remark and, for a header row, if no two
cells name the same column or the same argument (`Row.relocates_reorder`): of two cells with one
name the left one counts, and which one that is depends on the order.
-/

namespace Storyboard

namespace Row

/-- The row with its cells in another order, given by the old positions from left to right. -/
def reorder (order : List Nat) (row : Row) : Row := ⟨order.map row.cell, row.line⟩

/-- The row continued by empty cells. -/
def pad (extra : Nat) (row : Row) : Row := ⟨row.cells ++ List.replicate extra "", row.line⟩

/-- The names that the cells of a row spell. -/
def names (row : Row) : List String := (row.cells.map Text.trim).filter (· ≠ "")

/-- No two cells of a row name the same column. -/
structure NamesApart (row : Row) : Prop where
  /-- Each name is spelled once. -/
  names : row.names.Nodup
  /-- Each argument number is denoted once. -/
  numbers : (row.names.filterMap Header.argNumber?).Nodup

/-- No cell of a row could make it a remark. -/
def Unremarked (row : Row) : Prop :=
  ∀ cell ∈ row.cells, "//".toList.isPrefixOf cell.toList = false

instance (row : Row) : Decidable row.NamesApart :=
  decidable_of_iff (row.names.Nodup ∧ (row.names.filterMap Header.argNumber?).Nodup)
    ⟨fun h => ⟨h.1, h.2⟩, fun h => ⟨h.names, h.numbers⟩⟩

instance (row : Row) : Decidable row.Unremarked :=
  inferInstanceAs (Decidable (∀ cell ∈ row.cells, _))

end Row

/-- A header has the columns of another one where `f` sends them. -/
structure Header.Relocates (f : Nat → Nat) (header moved : Header) : Prop where
  /-- A column is where its position is sent. -/
  index : ∀ name, name ≠ "" → moved.index? name = (header.index? name).map f
  /-- The argument columns come in the same order. -/
  args : moved.argColumns = header.argColumns.map fun column => (column.1, f column.2)

/-- A row has the cells of another one where `f` sends them, and the same part in a grid. -/
structure Row.Relocates (f : Nat → Nat) (row moved : Row) : Prop where
  /-- The line is the same. -/
  line : moved.line = row.line
  /-- A cell is where its position is sent. -/
  cell : ∀ i, moved.cell (f i) = row.cell i
  /-- Whether it is blank or a remark is the same. -/
  isActive : moved.isActive = row.isActive
  /-- Whether it is a header is the same. -/
  isHeader : moved.isHeader = row.isHeader
  /-- As a header, it names the columns where they are sent. -/
  header : row.isHeader = true → (Header.ofRow row).Relocates f (Header.ofRow moved)

namespace Row

variable {row moved : Row}

/-! ### Empty cells behind a row -/

theorem cell_pad (extra : Nat) (row : Row) (i : Nat) : (row.pad extra).cell i = row.cell i := by
  unfold cell pad
  rw [List.getD_eq_getElem?_getD, List.getD_eq_getElem?_getD, List.getElem?_append]
  split
  · rfl
  · next hout =>
    have hnone : row.cells[i]? = none := List.getElem?_eq_none (Nat.le_of_not_lt hout)
    rw [hnone, List.getElem?_replicate]
    split <;> rfl

theorem all_isBlankText_replicate (n : Nat) :
    (List.replicate n "").all Text.isBlankText = true := by
  rw [List.all_eq_true]
  intro cell hcell
  rw [List.eq_of_mem_replicate hcell]
  rfl

/-- **Empty cells name no columns.** -/
theorem ofRow_pad (extra : Nat) (row : Row) : Header.ofRow (row.pad extra) = Header.ofRow row := by
  rw [Header.ofRow, pad, Header.collect_append,
    Header.collect_of_blank _ (all_isBlankText_replicate extra)]
  rfl

/-- **Padding leaves every cell in place.** -/
theorem relocates_pad (extra : Nat) (row : Row) : row.Relocates id (row.pad extra) := by
  have hremark : (row.pad extra).isRemark = row.isRemark := by
    rw [isRemark, cell_pad, isRemark]
  have hblank : (row.pad extra).isBlank = row.isBlank := by
    rw [isBlank, pad, List.all_append, all_isBlankText_replicate, Bool.and_true, isBlank]
  have hheader : (row.pad extra).isHeader = row.isHeader := by
    rw [isHeader, hremark, ofRow_pad, isHeader]
  refine ⟨rfl, cell_pad extra row, ?_, hheader, fun _ => ?_⟩
  · rw [isActive, hremark, hblank, isActive]
  · rw [ofRow_pad]
    refine ⟨fun name _ => ?_, ?_⟩
    · rw [Option.map_id, id]
    · exact (List.map_id _).symm

/-! ### Cells in another order -/

/-- Reordering keeps the cells. -/
theorem cells_reorder {order : List Nat} (h : order.Perm (List.range row.cells.length)) :
    (row.reorder order).cells.Perm row.cells := by
  have hcells : (List.range row.cells.length).map row.cell = row.cells := by
    apply List.ext_getElem
    · simp
    · intro i hi hlt
      simp [cell, hlt]
  have hmap := h.map row.cell
  rw [hcells] at hmap
  exact hmap

/-- A cell is found where its old position stands in the order. -/
theorem cell_reorder {order : List Nat} (h : order.Perm (List.range row.cells.length)) (i : Nat) :
    (row.reorder order).cell (order.idxOf i) = row.cell i := by
  rw [reorder, cell, List.getD_eq_getElem?_getD, List.getElem?_map]
  by_cases hmem : i ∈ order
  · have hlt := List.idxOf_lt_length_of_mem hmem
    rw [List.getElem?_eq_getElem hlt, List.getElem_idxOf hlt]
    rfl
  · -- A position behind the cells is sent behind the cells.
    have hout : row.cells.length ≤ i := by
      rw [h.mem_iff, List.mem_range] at hmem
      exact Nat.le_of_not_lt hmem
    rw [List.idxOf_eq_length hmem, List.getElem?_eq_none (Nat.le_refl _), cell,
      List.getD_eq_getElem?_getD, List.getElem?_eq_none hout]
    rfl

theorem isRemark_of_unremarked (h : row.Unremarked) : row.isRemark = false := by
  rw [isRemark, cell, List.getD_eq_getElem?_getD]
  cases hfirst : row.cells[0]? with
  | none => rfl
  | some first => exact h first (List.mem_of_getElem? hfirst)

section Perm

variable (h : moved.cells.Perm row.cells)

include h

theorem Unremarked.of_perm (hrow : row.Unremarked) : moved.Unremarked :=
  fun cell hcell => hrow cell (h.mem_iff.1 hcell)

theorem declares_of_perm (name : String) : moved.Declares name ↔ row.Declares name := by
  unfold Declares
  simp only [h.mem_iff]

theorem names_of_perm : moved.names.Perm row.names :=
  (h.map Text.trim).filter _

theorem NamesApart.of_perm (hrow : row.NamesApart) : moved.NamesApart where
  names := (names_of_perm h).nodup_iff.2 hrow.names
  numbers := ((names_of_perm h).filterMap _).nodup_iff.2 hrow.numbers

/-- **What a row is** does not depend on the order of its cells, remarks apart. -/
theorem isHeader_of_perm (hrow : row.Unremarked) : moved.isHeader = row.isHeader := by
  rw [Bool.eq_iff_iff, isHeader_iff, isHeader_iff, isRemark_of_unremarked hrow,
    isRemark_of_unremarked (hrow.of_perm h)]
  simp only [declares_of_perm h]

theorem isActive_of_perm (hrow : row.Unremarked) : moved.isActive = row.isActive := by
  have hblank : moved.isBlank = row.isBlank := by
    rw [Bool.eq_iff_iff, isBlank, isBlank, List.all_eq_true, List.all_eq_true]
    simp only [h.mem_iff]
  rw [isActive, isActive, hblank, isRemark_of_unremarked hrow,
    isRemark_of_unremarked (hrow.of_perm h)]

end Perm

/-! ### Names that are apart -/

theorem mem_names_iff (row : Row) (name : String) :
    name ∈ row.names ↔ row.Declares name ∧ name ≠ "" := by
  simp [names, Declares]

/-- Two cells with one name are the same cell. -/
theorem NamesApart.eq_of_trim_eq (h : row.NamesApart) {i j : Nat} (hi : i < row.cells.length)
    (hj : j < row.cells.length) (hname : Text.trim row.cells[i] ≠ "")
    (hsame : Text.trim row.cells[i] = Text.trim row.cells[j]) : i = j := by
  have hpairs := List.pairwise_map.1 (List.pairwise_filter.1 h.names)
  rw [List.pairwise_iff_getElem] at hpairs
  rcases Nat.lt_trichotomy i j with hlt | heq | hgt
  · have hne := hpairs i j hi hj hlt (by simpa using hname) (by simpa [← hsame] using hname)
    exact absurd hsame hne
  · exact heq
  · have hne := hpairs j i hj hi hgt (by simpa [← hsame] using hname) (by simpa using hname)
    exact absurd hsame.symm hne

/-- **A name that is spelled once is at every position that spells it.** -/
theorem NamesApart.position?_eq_some_iff (h : row.NamesApart) {name : String} (hname : name ≠ "")
    (i : Nat) : row.position? name = some i ↔ Text.trim (row.cell i) = name := by
  rw [position?, List.findIdx?_eq_some_iff_getElem]
  constructor
  · rintro ⟨hi, hspell, -⟩
    rw [cell, List.getD_eq_getElem _ _ hi]
    exact of_decide_eq_true hspell
  · intro hspell
    have hi : i < row.cells.length := by
      -- Behind the cells, the empty name would be spelled.
      by_contra hout
      rw [cell, List.getD_eq_default _ _ (Nat.le_of_not_lt hout)] at hspell
      exact hname (hspell.symm.trans rfl)
    rw [cell, List.getD_eq_getElem _ _ hi] at hspell
    refine ⟨hi, decide_eq_true hspell, fun j hji hother => ?_⟩
    have hsame := (of_decide_eq_true hother).trans hspell.symm
    have heq := h.eq_of_trim_eq (Nat.lt_trans hji hi) hi (by rw [hsame, hspell]; exact hname) hsame
    omega

end Row

/-! ### Headers in another order -/

namespace Header

theorem argBefore_iff {a b : Nat × Nat} :
    argBefore a b = true ↔ a.1 < b.1 ∨ a.1 = b.1 ∧ a.2 ≤ b.2 := by
  simp [argBefore]

theorem argBefore_trans (a b c : Nat × Nat) (hab : argBefore a b = true)
    (hbc : argBefore b c = true) : argBefore a c = true := by
  rw [argBefore_iff] at *
  omega

theorem argBefore_total (a b : Nat × Nat) : (argBefore a b || argBefore b a) = true := by
  rw [Bool.or_eq_true, argBefore_iff, argBefore_iff]
  omega

theorem pairwise_argBefore (header : Header) :
    header.argColumns.Pairwise fun a b => argBefore a b = true :=
  List.pairwise_mergeSort argBefore_trans argBefore_total _

/-- When names are apart, every one of them is a column. -/
theorem map_fst_columns_perm {row : Row} (h : row.NamesApart) :
    ((ofRow row).columns.map (·.1)).Perm row.names := by
  rw [List.perm_ext_iff_of_nodup (nodup_columns_ofRow row).1 h.names]
  intro name
  rw [Row.mem_names_iff, List.mem_map, ← row.isSome_position?_iff]
  constructor
  · rintro ⟨⟨name, i⟩, hcolumn, rfl⟩
    obtain ⟨hne, hposition⟩ := (mem_columns_ofRow row name i).1 hcolumn
    exact ⟨hposition ▸ rfl, hne⟩
  · rintro ⟨hsome, hne⟩
    obtain ⟨i, hposition⟩ := Option.isSome_iff_exists.1 hsome
    exact ⟨(name, i), (mem_columns_ofRow row name i).2 ⟨hne, hposition⟩, rfl⟩

/-- **The argument columns are in the order of their numbers.** -/
theorem pairwise_argColumns {row : Row} (h : row.NamesApart) :
    (ofRow row).argColumns.Pairwise fun a b => a.1 < b.1 := by
  -- Sorting changes the order of the numbers only, and no number is spelled twice.
  have hnumbers : ((ofRow row).argColumns.map (·.1)).Perm
      (row.names.filterMap argNumber?) := by
    refine ((List.mergeSort_perm _ _).map _).trans ?_
    have hnames := (map_fst_columns_perm h).filterMap argNumber?
    rw [List.filterMap_map] at hnames
    rw [List.map_filterMap]
    simpa [Function.comp_def] using hnames
  have hdistinct := List.pairwise_map.1 (hnumbers.nodup_iff.2 h.numbers)
  refine ((pairwise_argBefore _).and hdistinct).imp ?_
  rintro a b ⟨hbefore, hne⟩
  rw [argBefore_iff] at hbefore
  omega

/-- **Argument columns that are sent elsewhere** stay in the order of their numbers. -/
theorem argColumns_eq_map {row moved : Row} {f : Nat → Nat} (hrow : row.NamesApart)
    (hmoved : moved.NamesApart)
    (h : ∀ name, name ≠ "" → moved.position? name = (row.position? name).map f) :
    (ofRow moved).argColumns = (ofRow row).argColumns.map fun column => (column.1, f column.2) := by
  have hsorted : ((ofRow row).argColumns.map fun column => (column.1, f column.2)).Pairwise
      fun a b => a.1 < b.1 :=
    List.pairwise_map.2 (pairwise_argColumns hrow)
  -- Two lists in one strict order are equal if they have the same members.
  refine (pairwise_argColumns hmoved).eq_of_mem_iff hsorted ?_
  rintro ⟨n, j⟩
  simp only [mem_argColumns_ofRow, List.mem_map, Prod.exists, Prod.mk.injEq]
  constructor
  · rintro ⟨name, hnumber, hposition⟩
    rw [h name (ne_empty_of_argNumber? hnumber)] at hposition
    obtain ⟨i, hi, rfl⟩ := Option.map_eq_some_iff.1 hposition
    exact ⟨n, i, ⟨name, hnumber, hi⟩, rfl, rfl⟩
  · rintro ⟨m, i, ⟨name, hnumber, hi⟩, rfl, rfl⟩
    refine ⟨name, hnumber, ?_⟩
    rw [h name (ne_empty_of_argNumber? hnumber), hi]
    rfl

end Header

namespace Row

variable {row : Row} {order : List Nat}

/-- **A name goes where its cell goes.** -/
theorem NamesApart.position?_reorder (h : row.NamesApart)
    (horder : order.Perm (List.range row.cells.length)) {name : String} (hname : name ≠ "") :
    (row.reorder order).position? name = (row.position? name).map order.idxOf := by
  have hcells := cells_reorder horder
  cases hposition : row.position? name with
  | none =>
    have hundeclared : ¬ (row.reorder order).Declares name := by
      rw [declares_of_perm hcells, ← row.isSome_position?_iff, hposition]
      exact nofun
    rw [← isSome_position?_iff] at hundeclared
    exact Option.not_isSome_iff_eq_none.1 hundeclared
  | some i =>
    rw [Option.map_some, (h.of_perm hcells).position?_eq_some_iff hname, cell_reorder horder]
    exact (h.position?_eq_some_iff hname i).1 hposition

/-- **A row can be reordered** unless a cell could make it a remark or two cells of a header name
the same column. -/
theorem relocates_reorder (horder : order.Perm (List.range row.cells.length))
    (hremark : row.Unremarked) (hapart : row.isHeader = true → row.NamesApart) :
    row.Relocates order.idxOf (row.reorder order) := by
  have hcells := cells_reorder horder
  refine ⟨rfl, cell_reorder horder, isActive_of_perm hcells hremark,
    isHeader_of_perm hcells hremark, fun hheader => ?_⟩
  have hrow := hapart hheader
  refine ⟨fun name hname => ?_, ?_⟩
  · rw [Header.index?_ofRow _ hname, Header.index?_ofRow _ hname]
    exact hrow.position?_reorder horder hname
  · exact Header.argColumns_eq_map hrow (hrow.of_perm hcells)
      fun name hname => hrow.position?_reorder horder hname

end Row

end Storyboard
