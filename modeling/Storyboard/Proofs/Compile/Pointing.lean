import Storyboard.Proofs.Cast.Table
import Storyboard.Proofs.Compile.Flaws
import Storyboard.Proofs.Compile.Prepared

/-!
# Where a fault points

A fault of a source is told with a place, and this place is there: its grid is the source that was
refused, its line is one of the lines of that source, with a row that is neither blank nor a remark,
and its column is that of the name in the wording of the fault (`Fault.PointsAt`). A name is looked
up in the header row that the row is read by. That is the nearest one above it in a grid
(`Grid.InForce`), which may declare its columns anew, and the first one of a character table
(`Cast.Heads`). Only the lack of a header row in a character table has no place
(`Scenario.faults_point_at_rows`).

A grid is refused for a flaw of one of its entries (`Program.exists_flaw_of_addEntries`), also when
the fault shows many rows below, as that of a label whose name is taken does. So it is enough to
know that each flaw is about its own row.
-/

namespace Storyboard

/-! ### Lines of a source -/

namespace Text

theorem length_lines_cons {c : Char} (hc : c ≠ '\n') (cs : List Char) :
    (lines cs).length ≤ (lines (c :: cs)).length := by
  obtain ⟨first, rest, hsplit⟩ := List.exists_cons_of_ne_nil (List.splitOn_ne_nil '\n' cs)
  unfold lines
  rw [List.splitOn_cons_eq_if_modifyHead, if_neg (by simpa using hc), hsplit]
  cases rest with
  | nil => cases first <;> simp [lastLine]
  | cons second rest => simp

/-- A mark in front of a text is no line of its own. -/
theorem length_lines_chopFront {c : Char} (hc : c ≠ '\n') (cs : List Char) :
    (lines (chopFront c cs)).length ≤ (lines cs).length := by
  cases cs with
  | nil => exact Nat.le_refl _
  | cons d ds =>
    rw [chopFront]
    split
    · next hmark =>
      rw [hmark]
      exact length_lines_cons hc ds
    · exact Nat.le_refl _

end Text

namespace Grid

theorem getElem?_numberRows (n : Nat) (texts : List (List Char)) (i : Nat) :
    (numberRows n texts)[i]? = texts[i]?.map fun text => Row.parse text (n + i) := by
  induction texts generalizing n i with
  | nil => rfl
  | cons text rest ih =>
    cases i with
    | zero => rfl
    | succ i =>
      rw [numberRows, List.getElem?_cons_succ, List.getElem?_cons_succ, ih]
      simp only [Nat.add_assoc, Nat.add_comm 1]

/-- **A row stands at its line**, which is one of the lines of the source. -/
theorem row_at_line {name source : String} {row : Row} (h : row ∈ (parse name source).rows) :
    1 ≤ row.line ∧ row.line ≤ (Text.lines source.toList).length ∧
      (parse name source).rows[row.line - 1]? = some row := by
  obtain ⟨i, hi⟩ := List.mem_iff_getElem?.1 h
  have hrow := hi
  rw [parse, getElem?_numberRows] at hrow
  obtain ⟨text, htext, rfl⟩ := Option.map_eq_some_iff.1 hrow
  have hlt : i < (Text.lines (Text.chopFront byteOrderMark source.toList)).length :=
    (List.getElem?_eq_some_iff.1 htext).1
  have hle := Text.length_lines_chopFront (c := byteOrderMark) (by decide) source.toList
  have hline : (Row.parse text (1 + i)).line = 1 + i := rfl
  rw [hline, Nat.add_sub_cancel_left]
  exact ⟨by omega, by omega, hi⟩

/-! ### The header in force -/

/-- A header row is in force at a row of a grid: it is the nearest one above it. -/
def InForce (grid : Grid) (header row : Row) : Prop :=
  ∃ above between below, grid.rows = above ++ header :: between ++ row :: below ∧
    header.isHeader = true ∧ ∀ other ∈ between, other.isHeader = false

/-- **An entry is read by the header row in force.** -/
theorem inForce_of_mem_entries {options : Options} {grid : Grid} {entry : Entry}
    (h : entry ∈ grid.entries options) :
    ∃ header, grid.InForce header entry.row ∧ entry.header = Header.ofRow header ∧
      entry.row.isActive = true := by
  obtain ⟨i, -, hentry⟩ := List.mem_filterMap.1 h
  unfold entryAt at hentry
  split at hentry
  · next row header hrow hheader =>
    split at hentry
    · next hactive =>
      cases hentry
      -- The rows above are searched from below, so the header row that is found is the nearest.
      obtain ⟨headerRow, hfind, rfl⟩ := Option.map_eq_some_iff.1 hheader
      obtain ⟨hisHeader, between, above, hsplit, hbetween⟩ := List.find?_eq_some_iff_append.1 hfind
      refine ⟨headerRow, ⟨above.reverse, between.reverse, grid.rows.drop (i + 1), ?_, hisHeader,
        ?_⟩, rfl, (Bool.and_eq_true_iff.1 hactive).1⟩
      · obtain ⟨hi, hget⟩ := List.getElem?_eq_some_iff.1 hrow
        have habove : grid.rows.take i = above.reverse ++ headerRow :: between.reverse := by
          rw [← List.reverse_reverse (grid.rows.take i), hsplit]
          simp
        rw [← habove, ← hget, ← List.drop_eq_getElem_cons hi, List.take_append_drop]
      · intro other hother
        simpa using hbetween other (List.mem_reverse.1 hother)
    · cases hentry
  · cases hentry

end Grid

/-! ### Places -/

namespace Fault

/-- The wording of a fault says that something is missing in a column, or that what is there is no
number. -/
def Mentions (fault : Fault) (column : String) : Prop :=
  (∃ opcode what, fault.message = opcode ++ " requires " ++ what ++ " in " ++ column ++ ".") ∨
    ∃ raw place, fault.message = column ++ " \"" ++ raw ++ "\" at " ++ place ++ " is not a number."

/-- A fault points at a row of a source, or at a cell of the row, which is read by a header row. -/
structure PointsAt (fault : Fault) (name source : String) (header row : Row) : Prop where
  /-- The place is that of the row, and of the cell under the column of the fault if the header row
  has that column. -/
  place : fault.place? = some ⟨name, row.line, fault.column?.bind header.position?⟩
  /-- The column of the fault is the one that the wording mentions. -/
  column : ∀ column, fault.column? = some column → fault.Mentions column
  /-- Lines are counted from one. -/
  positive : 1 ≤ row.line
  /-- The line is one of the source. -/
  bounded : row.line ≤ (Text.lines source.toList).length
  /-- The row is that of the line. -/
  found : (Grid.parse name source).rows[row.line - 1]? = some row
  /-- The row is neither blank nor a remark. -/
  active : row.isActive = true

theorem mentions_of_column? {fault : Fault} {column : String} (h : fault.column? = some column) :
    fault.Mentions column := by
  cases fault with
  | argumentMissing opcode what name place =>
    cases h
    exact .inl ⟨opcode, what, rfl⟩
  | numberInvalid name raw place =>
    cases h
    exact .inr ⟨raw, place.render, rfl⟩
  | _ => cases h

theorem pointsAt_of_mem {fault : Fault} {name source : String} {header row : Row}
    (hrow : row ∈ (Grid.parse name source).rows) (hactive : row.isActive = true)
    (hplace : fault.place? =
      some ((Location.row name row.line).atColumn? (fault.column?.bind header.position?))) :
    fault.PointsAt name source header row := by
  obtain ⟨hpositive, hbounded, hat⟩ := Grid.row_at_line hrow
  refine ⟨?_, fun _ => mentions_of_column?, hpositive, hbounded, hat, hactive⟩
  rw [hplace]
  cases fault.column?.bind header.position? <;> rfl

/-- **A fault about an entry of a grid** points at its row. -/
theorem IsAbout.pointsAt {fault : Fault} {options : Options} {name source : String} {entry : Entry}
    (h : fault.IsAbout entry) (hentry : entry ∈ (Grid.parse name source).entries options) :
    ∃ header row, (Grid.parse name source).InForce header row ∧
      fault.PointsAt name source header row := by
  obtain ⟨header, hforce, hheader, hactive⟩ := Grid.inForce_of_mem_entries hentry
  refine ⟨header, entry.row, hforce, pointsAt_of_mem ?_ hactive ?_⟩
  · obtain ⟨above, between, below, hrows, -, -⟩ := hforce
    rw [hrows]
    exact List.mem_append_right _ List.mem_cons_self
  · -- The header of the entry finds the first cell of a name, as the position of the name says.
    have hcolumn : fault.column?.bind entry.header.index? =
        fault.column?.bind header.position? := by
      cases hname : fault.column? with
      | none => rfl
      | some column =>
        have hne : column ≠ "" := fun heq => h.named (hname.trans (congrArg some heq))
        rw [hheader]
        exact Header.index?_ofRow header hne
    rw [h.place, Grid.place_eq_of_mem_entries hentry, hcolumn]
    rfl

end Fault

/-! ### Grids that are refused -/

namespace Entry

variable {factory : Factory} {program : Program} {entries : List Entry}

/-- Entries that are not without a flaw have a first flaw. -/
theorem exists_first_flaw (h : ¬ Flawless factory program entries) :
    ∃ above entry below flaw, entries = above ++ entry :: below ∧
      Flawless factory program above ∧ entry.flaw? factory program above = some flaw := by
  induction entries using List.reverseRecOn with
  | nil => exact absurd flawless_nil h
  | append_singleton above entry ih =>
    by_cases habove : Flawless factory program above
    · cases hflaw : entry.flaw? factory program above with
      | none => exact absurd (flawless_concat.2 ⟨habove, hflaw⟩) h
      | some flaw => exact ⟨above, entry, [], flaw, rfl, habove, hflaw⟩
    · obtain ⟨before, first, below, flaw, rfl, hbefore, hflaw⟩ := ih habove
      exact ⟨before, first, below ++ [entry], flaw, by simp, hbefore, hflaw⟩

theorem mem_of_mem_reach {entry : Entry} (h : entry ∈ reach entries) : entry ∈ entries := by
  rcases List.mem_append.1 h with hsegment | hnext
  · exact (List.takeWhile_sublist _).subset hsegment
  · exact List.mem_of_find?_eq_some (Option.mem_toList.1 hnext)

end Entry

namespace Program

variable {factory : Factory} {options : Options}

/-- **Entries are refused for a flaw of one of them.** -/
theorem exists_flaw_of_addEntries {grid : String} {entries : List Entry} {program : Program}
    {fault : Fault} (hgrid : ∀ entry ∈ entries, entry.place.grid = grid)
    (h : addEntries factory none program entries = .error fault) :
    ∃ entry ∈ entries, ∃ above, entry.flaw? factory program above = some fault := by
  have hflawed : ¬ Entry.Flawless factory program entries := by
    intro hflawless
    obtain ⟨after, hafter⟩ := (addEntries_spec factory grid entries hgrid program).1.2
      (Entry.compilable_iff_flawless.2 hflawless)
    rw [h] at hafter
    cases hafter
  obtain ⟨above, entry, below, flaw, rfl, habove, hflaw⟩ := Entry.exists_first_flaw hflawed
  rw [addEntries_of_flaw hgrid habove hflaw, Except.error.injEq] at h
  split at h
  · subst h
    exact ⟨entry, List.mem_append_right _ List.mem_cons_self, above, hflaw⟩
  -- The first flaw is a clash, which a defect of a row below may overtake.
  cases hlater : (Entry.reach below).findSome? (Entry.defect? factory (above ++ [entry])) with
  | none =>
    rw [hlater, Option.getD_none] at h
    subst h
    exact ⟨entry, List.mem_append_right _ List.mem_cons_self, above, hflaw⟩
  | some defect =>
    rw [hlater, Option.getD_some] at h
    subst h
    obtain ⟨later, hmem, hdefect⟩ := List.exists_of_findSome?_eq_some hlater
    refine ⟨later, ?_, above ++ [entry], ?_⟩
    · exact List.mem_append_right _ (List.mem_cons_of_mem _ (Entry.mem_of_mem_reach hmem))
    · rw [Entry.flaw?, hdefect, Option.some_or]

/-- **A grid is refused for what is about one of its entries.** -/
theorem isAbout_of_addGrid {program : Program} {grid : Grid} {fault : Fault}
    (h : (program.addGrid .builtin options grid).fault = some fault) :
    ∃ entry ∈ grid.entries options, fault.IsAbout entry := by
  rw [← GridReport.result_eq_error_iff, addGrid_result] at h
  obtain ⟨entry, hentry, above, hflaw⟩ :=
    exists_flaw_of_addEntries (fun entry => Grid.place_of_mem_entries) h
  exact ⟨entry, hentry, Entry.isAbout_of_flaw? hflaw⟩

/-- **One of several grids is refused**, and the grids before it are not. -/
theorem addGrids_eq_error {program : Program} {grids : List Grid} {fault : Fault}
    (h : (addGrids factory options program grids).result = .error fault) :
    ∃ before grid behind after, grids = before ++ grid :: behind ∧
      (addGrids factory options program before).result = .ok after ∧
      (after.addGrid factory options grid).fault = some fault := by
  induction grids generalizing program with
  | nil => cases h
  | cons first rest ih =>
    rw [addGrids] at h
    dsimp only at h
    cases hfirst : (program.addGrid factory options first).fault with
    | some other =>
      rw [hfirst] at h
      cases h
      -- The first fault ends the compilation, so the grids behind it are not looked at.
      exact ⟨[], first, rest, program, rfl, rfl, hfirst⟩
    | none =>
      rw [hfirst] at h
      obtain ⟨before, grid, behind, after, rfl, hbefore, hgrid⟩ := ih h
      refine ⟨first :: before, grid, behind, after, rfl, ?_, hgrid⟩
      rw [addGrids_cons_eq_ok_iff]
      exact ⟨_, (GridReport.result_eq_ok_iff _ _).2 ⟨hfirst, rfl⟩, hbefore⟩

end Program

/-! ### Character tables that are refused -/

namespace Cast

theorem place?_of_mem_complaints {grid : String} {header row : Row} {taken : List String}
    {fault : Fault} (h : fault ∈ complaints grid header taken row) :
    fault.place? =
      some ((Location.row grid row.line).atColumn? (fault.column?.bind header.position?)) := by
  rcases List.mem_append.1 h with hdefect | hrepeated
  · rcases List.mem_append.1 hdefect with hunnamed | hnumber
    · split at hunnamed
      · rw [List.mem_singleton.1 hunnamed]
        rfl
      · cases hunnamed
    · obtain ⟨column, -, rfl⟩ := List.mem_map.1 hnumber
      rfl
  · split at hrepeated
    · rw [List.mem_singleton.1 hrepeated]
      rfl
    · cases hrepeated

theorem Heads.mem_entries {rows entries : List Row} {header row : Row}
    (h : Heads rows header entries) (hrow : row ∈ entries) :
    row ∈ rows ∧ row.isActive = true := by
  obtain ⟨above, below, rfl, -, -, rfl⟩ := h
  obtain ⟨hbelow, hactive⟩ := List.mem_filter.1 hrow
  exact ⟨List.mem_append_right _ (List.mem_cons_of_mem _ hbelow), hactive⟩

/-- **A character table with a header row is refused for one of the rows below it.** -/
theorem pointsAt_of_compile {name source : String} {header : Row} {entries : List Row}
    {fault : Fault} (hheads : Heads (Grid.parse name source).rows header entries)
    (h : (compile name source).result = .error fault) :
    ∃ row ∈ entries, fault.PointsAt name source header row := by
  have houtcome : Outcome name header entries (compile name source).result := outcome_ofGrid hheads
  rw [h] at houtcome
  cases houtcome with
  | @refused above below row _ split _ first =>
    have hentry : row ∈ entries := split ▸ List.mem_append_right _ List.mem_cons_self
    obtain ⟨hrow, hactive⟩ := hheads.mem_entries hentry
    have hcomplaint := List.mem_of_head? first
    exact ⟨row, hentry, Fault.pointsAt_of_mem hrow hactive (place?_of_mem_complaints hcomplaint)⟩

end Cast

/-! ### Sources that are refused -/

namespace Scenario

/-- What a fault of sources is due to. -/
inductive Blames (options : Options) (sources : Sources) (fault : Fault) : Prop
  /-- The grids before one compile, and that one is refused for a row. -/
  | grid {before behind : List (String × String)} {name source : String} {program : Program}
    {header row : Row} (listed : sources.grids.entries = before ++ (name, source) :: behind)
    (compiled : (Program.addGrids .builtin options .empty
      (before.map fun source => Grid.parse source.1 source.2)).result = .ok program)
    (refused : (program.addGrid .builtin options (Grid.parse name source)).fault = some fault)
    (inForce : (Grid.parse name source).InForce header row)
    (pointsAt : fault.PointsAt name source header row)
  /-- The character table is refused for a row. -/
  | characters {source : String} {header row : Row} {entries : List Row}
    (given : sources.characters = some source)
    (refused : (Cast.compile characterGrid source).result = .error fault)
    (heads : Cast.Heads (Grid.parse characterGrid source).rows header entries)
    (entry : row ∈ entries) (pointsAt : fault.PointsAt characterGrid source header row)
  /-- The character table has no header row. -/
  | headless {source : String} (given : sources.characters = some source)
    (heads : ¬ ∃ header entries, Cast.Heads (Grid.parse characterGrid source).rows header entries)
    (missing : fault = .characterHeaderMissing characterGrid Cast.requiredColumns)
    (unplaced : fault.place? = none)

/-- **Faults point at rows.** Sources that do not compile with the built-in commands are refused for
a row of a grid or of the character table, which the fault points at, or because the character table
has no header row. -/
theorem faults_point_at_rows {options : Options} {sources : Sources} {fault : Fault}
    (h : (compile .builtin options sources).result = .error fault) :
    Blames options sources fault := by
  rw [compile_eq_error_iff, compileSources_eq_error_iff] at h
  rcases h with hgrids | ⟨program, source, -, hgiven, hcast⟩
  · -- The grids come first, in the order of their names, and the character table after them.
    obtain ⟨before, grid, behind, program, hsplit, hbefore, hgrid⟩ :=
      Program.addGrids_eq_error hgrids
    obtain ⟨first, rest, hlisted, rfl, hrest⟩ := List.map_eq_append_iff.1 hsplit
    obtain ⟨⟨name, source⟩, rest, rfl, rfl, rfl⟩ := List.map_eq_cons_iff.1 hrest
    obtain ⟨entry, hentry, habout⟩ := Program.isAbout_of_addGrid hgrid
    obtain ⟨header, row, hforce, hpoints⟩ := habout.pointsAt hentry
    exact .grid hlisted hbefore hgrid hforce hpoints
  · by_cases hheads : ∃ header entries,
        Cast.Heads (Grid.parse characterGrid source).rows header entries
    · obtain ⟨header, entries, hheads⟩ := hheads
      obtain ⟨row, hrow, hpoints⟩ := Cast.pointsAt_of_compile hheads hcast
      exact .characters hgiven hcast hheads hrow hpoints
    · have hmissing : (Cast.compile characterGrid source).result = _ :=
        Cast.ofGrid_of_not_heads hheads
      rw [hcast] at hmissing
      cases hmissing
      exact .headless hgiven hheads rfl rfl

/-- A grid that declares its columns anew above a jump without a target. -/
def movedColumn : Sources where
  grids := .ofList [("intro", "Command,Arg1,Text\nLabel,A,\nText,Command, Arg1 \n,Jump, \n")]
  characters := none

/-- The column is that of the second header row. -/
theorem movedColumn_points_at_cell :
    let fault := .argumentMissing "Jump" "a target label" "Arg1" ⟨"intro", 4, some 2⟩
    (compile .builtin {} movedColumn).result = .error fault ∧ Blames {} movedColumn fault := by
  intro fault
  have hsources : (compileSources .builtin {} movedColumn).result = .error fault := by
    with_unfolding_all rfl
  have hresult := compile_eq_error_iff.2 hsources
  exact ⟨hresult, faults_point_at_rows hresult⟩

end Scenario

end Storyboard
