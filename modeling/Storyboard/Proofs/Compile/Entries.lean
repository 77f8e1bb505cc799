import Storyboard.Compile.Program
import Storyboard.Proofs.Grid.Columns

/-!
# The entries of a grid

An entry of a grid is a row that means something, together with the header in force there: a row
that is neither blank nor a remark nor a header row, below some header row, of which the nearest
one counts (`Grid.entryAt`). Blank rows, remarks, header rows and what precedes the first header row
have no part in what a grid compiles to, but for the columns that the header rows name
(`Program.addGrid_result`).
-/

namespace Storyboard

/-! ### Header rows -/

/-- **A header row is neither blank nor a remark.** -/
theorem Row.isActive_of_isHeader {row : Row} (h : row.isHeader = true) : row.isActive = true := by
  simp only [Row.isHeader, Bool.and_eq_true] at h
  obtain ⟨⟨hremark, hnames⟩, -⟩ := h
  rw [Row.isActive, hremark, Bool.and_true]
  cases hblank : row.isBlank with
  | false => rfl
  | true =>
    have hcolumns : Header.ofRow row = ⟨[]⟩ := by
      rw [Header.ofRow, Header.collect_of_blank [] hblank]
    rw [hcolumns] at hnames
    cases hnames

/-! ### Entries -/

namespace Grid

/-- The header in force after rows: that of the last header row among them. -/
def headerAfter (rows : List Row) : Option Header :=
  (rows.reverse.find? Row.isHeader).map Header.ofRow

/-- The entry of the `i`-th row of a grid, if that row means something. -/
def entryAt (options : Options) (grid : Grid) (i : Nat) : Option Entry :=
  match grid.rows[i]?, headerAfter (grid.rows.take i) with
  | some row, some header =>
    if row.isActive && !row.isHeader then
      some ⟨header, row, .row grid.name row.line, options⟩
    else none
  | _, _ => none

/-- The entries of a grid, in the order of their rows. -/
def entries (options : Options) (grid : Grid) : List Entry :=
  (List.range grid.rows.length).filterMap (grid.entryAt options)

/-- The entries of rows with a header in force before them. -/
def entriesBelow (options : Options) (grid : String) : Option Header → List Row → List Entry
  | _, [] => []
  | header, row :: rest =>
    if !row.isActive then entriesBelow options grid header rest
    else if row.isHeader then entriesBelow options grid (some (Header.ofRow row)) rest
    else
      (header.map fun header => ⟨header, row, .row grid row.line, options⟩).toList ++
        entriesBelow options grid header rest

theorem headerAfter_snoc (rows : List Row) (row : Row) :
    headerAfter (rows ++ [row]) =
      if row.isHeader then some (Header.ofRow row) else headerAfter rows := by
  rw [headerAfter, List.reverse_append, List.reverse_singleton, List.singleton_append,
    List.find?_cons]
  cases row.isHeader <;> rfl

/-- The entries of rows are found one by one from the top. -/
theorem entriesBelow_eq_filterMap (options : Options) (grid : String) (rows before : List Row) :
    entriesBelow options grid (headerAfter before) rows =
      (List.range rows.length).filterMap fun i =>
        entryAt options ⟨grid, before ++ rows⟩ (before.length + i) := by
  -- The rows move one by one over to `before`, on which the header in force depends.
  induction rows generalizing before with
  | nil => rfl
  | cons row rest ih =>
    have hfirst : entryAt options ⟨grid, before ++ row :: rest⟩ (before.length + 0) =
        match headerAfter before with
        | some header =>
          if row.isActive && !row.isHeader then
            some ⟨header, row, .row grid row.line, options⟩
          else none
        | none => none := by
      simp only [entryAt, Nat.add_zero, List.getElem?_append_right (Nat.le_refl _), Nat.sub_self,
        List.getElem?_cons_zero, List.take_left]
      cases headerAfter before <;> rfl
    have hrest := ih (before ++ [row])
    simp only [List.append_assoc, List.singleton_append, List.length_append, List.length_singleton,
      Nat.add_assoc, Nat.add_comm 1] at hrest
    rw [List.length_cons, List.range_succ_eq_map, List.filterMap_cons, List.filterMap_map, hfirst]
    simp only [Function.comp_def, Nat.succ_eq_add_one]
    rw [← hrest, headerAfter_snoc, entriesBelow]
    cases hheader : row.isHeader with
    | true =>
      rw [Row.isActive_of_isHeader hheader]
      cases headerAfter before <;> rfl
    | false => cases row.isActive <;> cases headerAfter before <;> rfl

theorem entries_eq_entriesBelow (options : Options) (grid : Grid) :
    grid.entries options = entriesBelow options grid.name none grid.rows := by
  have h := entriesBelow_eq_filterMap options grid.name grid.rows []
  simp only [List.nil_append, List.length_nil, Nat.zero_add] at h
  exact h.symm

theorem exists_of_mem_entries {options : Options} {grid : Grid} {entry : Entry}
    (h : entry ∈ grid.entries options) :
    ∃ header row, entry = ⟨header, row, .row grid.name row.line, options⟩ := by
  obtain ⟨i, -, hentry⟩ := List.mem_filterMap.1 h
  unfold entryAt at hentry
  split at hentry
  · split at hentry
    · cases hentry
      exact ⟨_, _, rfl⟩
    · cases hentry
  · cases hentry

/-- An entry has the place of its row. -/
theorem place_eq_of_mem_entries {options : Options} {grid : Grid} {entry : Entry}
    (h : entry ∈ grid.entries options) : entry.place = .row grid.name entry.row.line := by
  obtain ⟨header, row, rfl⟩ := exists_of_mem_entries h
  rfl

theorem options_of_mem_entries {options : Options} {grid : Grid} {entry : Entry}
    (h : entry ∈ grid.entries options) : entry.options = options := by
  obtain ⟨header, row, rfl⟩ := exists_of_mem_entries h
  rfl

theorem place_of_mem_entries {options : Options} {grid : Grid} {entry : Entry}
    (h : entry ∈ grid.entries options) : entry.place.grid = grid.name := by
  rw [place_eq_of_mem_entries h]
  rfl

end Grid

/-! ### Compiling entries -/

/-- What compiling a grid came to, as a program or a fault. -/
def GridReport.result (report : GridReport) : Except Fault Program :=
  match report.fault with
  | some fault => .error fault
  | none => .ok report.program

/-- Compiles entries into a program, with the open label before them. -/
def Program.addEntries (factory : Factory) :
    Option OpenLabel → Program → List Entry → Except Fault Program
  | current, program, [] => Pass.close ⟨none, current, program⟩
  | current, program, entry :: rest =>
    match Pass.entry factory ⟨none, current, program⟩ entry with
    | .error fault => .error fault
    | .ok pass => addEntries factory pass.current pass.program rest

namespace Pass

/-- An entry has no part in the header in force. -/
theorem entry_eq (factory : Factory) (pass : Pass) (entry : Entry) :
    pass.entry factory entry =
      (Pass.entry factory ⟨none, pass.current, pass.program⟩ entry).map
        fun after => { after with header := pass.header } := by
  obtain ⟨header, current, program⟩ := pass
  unfold Pass.entry
  split
  · unfold openLabel
    split
    · rfl
    · cases hclose : Pass.close ⟨none, current, program⟩ <;>
        simp only [Pass.close] at hclose ⊢ <;> simp only [hclose] <;> rfl
  · cases factory.build entry.opcode entry with
    | error fault => rfl
    | ok command => cases current <;> rfl

/-- What is left of a grid compiles as its entries do. -/
theorem rows_eq_addEntries (factory : Factory) (options : Options) (grid : String) (pass : Pass)
    (rows : List Row) :
    (match pass.rows factory options grid rows with
      | (_, some fault) => .error fault
      | (last, none) => last.close) =
      Program.addEntries factory pass.current pass.program
        (Grid.entriesBelow options grid pass.header rows) := by
  induction rows generalizing pass with
  | nil => rfl
  | cons row rest ih =>
    rw [Pass.rows, Pass.row, Grid.entriesBelow]
    cases hactive : row.isActive with
    | false => exact ih pass
    | true =>
      cases hheader : row.isHeader with
      | true => exact ih { pass with header := some (Header.ofRow row) }
      | false =>
        obtain ⟨header, current, program⟩ := pass
        cases header with
        | none => exact ih ⟨none, current, program⟩
        | some header =>
          simp only [Bool.not_true, Bool.false_eq_true, if_false, Option.map_some,
            Option.toList_some, List.singleton_append]
          rw [Program.addEntries, entry_eq]
          cases Pass.entry factory ⟨none, current, program⟩
              ⟨header, row, .row grid row.line, options⟩ with
          | error fault => rfl
          | ok after => exact ih { after with header := some header }

end Pass

/-- **A grid compiles as its entries do.** -/
theorem Program.addGrid_result (factory : Factory) (options : Options) (program : Program)
    (grid : Grid) :
    (program.addGrid factory options grid).result =
      addEntries factory none program (grid.entries options) := by
  rw [Grid.entries_eq_entriesBelow]
  refine Eq.trans ?_
    (Pass.rows_eq_addEntries factory options grid.name ⟨none, none, program⟩ grid.rows)
  rw [addGrid]
  obtain ⟨last, fault⟩ := Pass.rows factory options grid.name ⟨none, none, program⟩ grid.rows
  cases fault with
  | some fault => rfl
  | none =>
    dsimp only
    cases last.close <;> rfl

end Storyboard
