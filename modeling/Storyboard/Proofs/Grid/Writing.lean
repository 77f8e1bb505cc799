import Storyboard.Cast
import Mathlib.Data.List.Forall2

/-!
# Reading a sheet undoes writing it

A sheet is written row by row, with commas between the cells and an end of line behind each row. The
end of line is a line feed or a carriage return with a line feed, chosen row by row, and a
byte-order mark may stand in front of the text. What is read back are the rows, in order and
numbered from one (`Sheet.grid_parse_text`), so the style of the text has no part in what it
compiles to.

Three things are taken away from the text while it is read: the byte-order mark, the carriage return
in front of a line feed, and the carriage return at the end of a row. A `Sheet` asks of its cells
only that nothing else is taken away with them.
-/

namespace Storyboard

/-! ### Lines -/

namespace Text

theorem chop_concat (c : Char) (cs : List Char) : chop c (cs ++ [c]) = cs := by
  rw [chop, if_pos List.getLast?_concat, List.dropLast_concat]

theorem chop_of_getLast?_ne {c : Char} {cs : List Char} (h : cs.getLast? ≠ some c) :
    chop c cs = cs :=
  if_neg h

theorem head?_append_ne {c : Char} {cs rest : List Char} (h : cs.head? ≠ some c)
    (hrest : rest.head? ≠ some c) : (cs ++ rest).head? ≠ some c := by
  cases cs with
  | nil => exact hrest
  | cons d ds => exact h

theorem getLast?_append_ne {c : Char} {cs rest : List Char} (h : rest ≠ [])
    (hrest : rest.getLast? ≠ some c) : (cs ++ rest).getLast? ≠ some c := by
  rwa [List.getLast?_append_of_ne_nil cs h]

/-- **The first line of a text** is what stands in front of its first line feed. -/
theorem lines_append_cons {cs : List Char} (h : '\n' ∉ cs) (rest : List Char) :
    lines (cs ++ '\n' :: rest) = chop '\r' cs :: lines rest := by
  have hne : rest.splitOn '\n' ≠ [] := List.splitOn_ne_nil _ _
  have hsplit : (cs ++ '\n' :: rest).splitOn '\n' = cs :: rest.splitOn '\n' :=
    List.splitOn_append_cons_self_of_not_mem h rest
  have hlast : (cs :: rest.splitOn '\n').getLastD [] = (rest.splitOn '\n').getLastD [] := by
    rw [List.getLastD_eq_getLast?, List.getLastD_eq_getLast?, List.getLast?_cons,
      List.getLast?_eq_some_getLast hne]
    rfl
  simp only [lines, hsplit, List.dropLast_cons_of_ne_nil hne, hlast, List.map_cons,
    List.cons_append]

end Text

/-! ### Written sheets -/

/-- How a line is ended. -/
inductive LineEnd where
  /-- By a line feed. -/
  | feed
  /-- By a carriage return and a line feed. -/
  | returnFeed
  deriving DecidableEq

/-- The end of a line as it is written. -/
def LineEnd.chars : LineEnd → List Char
  | feed => ['\n']
  | returnFeed => ['\r', '\n']

namespace Row

/-- The cells of a row as they are written, with commas between them. -/
def written (cells : List String) : List Char := [','].intercalate (cells.map String.toList)

/-- Cells that can be written on one line. -/
structure Writable (cells : List String) : Prop where
  /-- There is a cell. -/
  ne_nil : cells ≠ []
  /-- No cell holds what separates cells or lines. -/
  plain : ∀ cell ∈ cells, ',' ∉ cell.toList ∧ '\n' ∉ cell.toList
  /-- The last cell does not end in a carriage return. -/
  last : ∀ cell ∈ cells.getLast?, cell.toList.getLast? ≠ some '\r'

instance (cells : List String) : Decidable (Writable cells) :=
  decidable_of_iff (cells ≠ [] ∧ (∀ cell ∈ cells, ',' ∉ cell.toList ∧ '\n' ∉ cell.toList) ∧
      ∀ cell ∈ cells.getLast?, cell.toList.getLast? ≠ some '\r')
    ⟨fun h => ⟨h.1, h.2.1, h.2.2⟩, fun h => ⟨h.ne_nil, h.plain, h.last⟩⟩

theorem written_singleton (cell : String) : written [cell] = cell.toList := by
  simp [written]

theorem written_cons_cons (cell next : String) (rest : List String) :
    written (cell :: next :: rest) = cell.toList ++ ',' :: written (next :: rest) := by
  simp [written, List.intercalate_cons_cons]

/-- Between commas there are no line feeds. -/
theorem not_mem_written {cells : List String} (h : ∀ cell ∈ cells, '\n' ∉ cell.toList) :
    '\n' ∉ written cells := by
  induction cells with
  | nil => simp [written]
  | cons cell rest ih =>
    obtain ⟨hcell, hrest⟩ := List.forall_mem_cons.1 h
    cases rest with
    | nil => rwa [written_singleton]
    | cons next rest =>
      rw [written_cons_cons, List.mem_append, List.mem_cons, not_or, not_or]
      exact ⟨hcell, by decide, ih hrest⟩

/-- A written row ends as its last cell does, or in a comma. -/
theorem getLast?_written_ne {cells : List String}
    (h : ∀ cell ∈ cells.getLast?, cell.toList.getLast? ≠ some '\r') :
    (written cells).getLast? ≠ some '\r' := by
  induction cells with
  | nil => simp [written]
  | cons cell rest ih =>
    cases rest with
    | nil =>
      rw [written_singleton]
      exact h cell rfl
    | cons next rest =>
      rw [written_cons_cons]
      apply Text.getLast?_append_ne (List.cons_ne_nil _ _)
      rw [List.getLast?_cons]
      have hlast := ih h
      -- If nothing is written behind the comma, the comma is the last character.
      cases hwritten : (written (next :: rest)).getLast? with
      | none => exact by decide
      | some c => exact hwritten ▸ hlast

/-- A written row starts as its first cell does, or with a comma. -/
theorem head?_written_append_ne {cells : List String} {mark : Char} (hmark : mark ≠ ',')
    (h : ∀ cell ∈ cells.head?, cell.toList.head? ≠ some mark) {rest : List Char}
    (hrest : rest.head? ≠ some mark) : (written cells ++ rest).head? ≠ some mark := by
  cases cells with
  | nil => simpa [written] using hrest
  | cons cell others =>
    cases others with
    | nil =>
      rw [written_singleton]
      exact Text.head?_append_ne (h cell rfl) hrest
    | cons next others =>
      rw [written_cons_cons, List.append_assoc]
      apply Text.head?_append_ne (h cell rfl)
      intro heq
      exact hmark (Option.some.inj heq).symm

/-- **Reading a written row gives its cells back.** -/
theorem parse_written {cells : List String} (h : Writable cells) (n : Nat) :
    parse (written cells) n = ⟨cells, n⟩ := by
  have hchop : Text.chop '\r' (written cells) = written cells :=
    Text.chop_of_getLast?_ne (getLast?_written_ne h.last)
  have hsplit : (written cells).splitOn ',' = cells.map String.toList := by
    apply List.splitOn_intercalate
    · intro cs hcs
      obtain ⟨cell, hcell, rfl⟩ := List.mem_map.1 hcs
      exact (h.plain cell hcell).1
    · simpa using h.ne_nil
  rw [parse, hchop, hsplit, List.map_map]
  congr 1
  exact List.map_id'' (fun cell => String.ofList_toList) cells

end Row

/-- A sheet that is to be written: its rows, each with the end of its line, and whether a byte-order
mark stands in front of them. -/
structure Sheet where
  /-- Whether there is a byte-order mark. -/
  marked : Bool
  /-- The cells of the rows, with the ends of their lines. -/
  lines : List (List String × LineEnd)
  /-- Each row can be written on one line. -/
  writable : ∀ line ∈ lines, Row.Writable line.1
  /-- Without a byte-order mark, the first cell does not look as if there were one. -/
  unmarked : marked = false → ∀ line ∈ lines.head?, ∀ cell ∈ line.1.head?,
    cell.toList.head? ≠ some Grid.byteOrderMark

namespace Sheet

/-- The cells of the rows. -/
def rows (sheet : Sheet) : List (List String) := sheet.lines.map (·.1)

/-- Lines as they are written. -/
def writtenLines (lines : List (List String × LineEnd)) : List Char :=
  lines.flatMap fun line => Row.written line.1 ++ line.2.chars

/-- The sheet as it is written. -/
def text (sheet : Sheet) : String :=
  String.ofList ((if sheet.marked then [Grid.byteOrderMark] else []) ++ writtenLines sheet.lines)

/-- The grid that a sheet means: its rows, numbered from one. -/
def grid (sheet : Sheet) (name : String) : Grid :=
  ⟨name, sheet.rows.mapIdx fun i cells => ⟨cells, i + 1⟩⟩

/-- Two texts write the same rows, each in a style of its own. -/
def Variants (text other : String) : Prop :=
  ∃ sheet variant : Sheet, sheet.rows = variant.rows ∧ text = sheet.text ∧ other = variant.text

/-! ### Reading written sheets -/

/-- **The lines of a written sheet are its rows**, however they are ended. -/
theorem lines_writtenLines {lines : List (List String × LineEnd)}
    (h : ∀ line ∈ lines, Row.Writable line.1) :
    Text.lines (writtenLines lines) = lines.map fun line => Row.written line.1 := by
  induction lines with
  | nil => rfl
  | cons line rest ih =>
    obtain ⟨cells, ending⟩ := line
    obtain ⟨hline, hrest⟩ := List.forall_mem_cons.1 h
    have hplain : '\n' ∉ Row.written cells :=
      Row.not_mem_written fun cell hcell => (hline.plain cell hcell).2
    have hwritten : writtenLines ((cells, ending) :: rest) =
        Row.written cells ++ (ending.chars ++ writtenLines rest) := by
      rw [writtenLines, List.flatMap_cons, List.append_assoc]
      rfl
    rw [hwritten, List.map_cons, ← ih hrest]
    cases ending with
    | feed =>
      -- The last cell has no carriage return that could be taken for part of the end.
      have hchop : Text.chop '\r' (Row.written cells) = Row.written cells :=
        Text.chop_of_getLast?_ne (Row.getLast?_written_ne hline.last)
      exact (Text.lines_append_cons hplain _).trans (congrArg (· :: _) hchop)
    | returnFeed =>
      have hreturn : '\n' ∉ Row.written cells ++ ['\r'] := by
        rw [List.mem_append, not_or]
        exact ⟨hplain, by decide⟩
      have hmove : Row.written cells ++ (LineEnd.returnFeed.chars ++ writtenLines rest) =
          (Row.written cells ++ ['\r']) ++ '\n' :: writtenLines rest := by
        rw [List.append_assoc]
        rfl
      rw [hmove, Text.lines_append_cons hreturn, Text.chop_concat]

theorem numberRows_written {rows : List (List String)} (h : ∀ cells ∈ rows, Row.Writable cells)
    (n : Nat) :
    Grid.numberRows n (rows.map Row.written) = rows.mapIdx fun i cells => ⟨cells, n + i⟩ := by
  induction rows generalizing n with
  | nil => rfl
  | cons cells rest ih =>
    obtain ⟨hcells, hrest⟩ := List.forall_mem_cons.1 h
    rw [List.map_cons, Grid.numberRows, Row.parse_written hcells, ih hrest, List.mapIdx_cons]
    congr 2
    funext i other
    rw [Nat.add_assoc, Nat.add_comm 1]

/-- The byte-order mark is taken away, and nothing else. -/
theorem chopFront_text (sheet : Sheet) :
    Text.chopFront Grid.byteOrderMark sheet.text.toList = writtenLines sheet.lines := by
  obtain ⟨marked, lines, writable, unmarked⟩ := sheet
  cases marked with
  | true => simp [text, Text.chopFront]
  | false =>
    rw [text, String.toList_ofList]
    apply Text.chopFront_of_head?_ne
    cases lines with
    | nil => exact nofun
    | cons line rest =>
      -- An empty row starts with its line end, which is no mark either.
      have hend : (line.2.chars ++ writtenLines rest).head? ≠ some Grid.byteOrderMark := by
        cases line.2 <;> simp [LineEnd.chars, Grid.byteOrderMark]
      have hhead := Row.head?_written_append_ne (by decide) (unmarked rfl line rfl) hend
      simpa [writtenLines] using hhead

/-- **Reading a written sheet gives its rows back**, numbered from one. -/
theorem grid_parse_text (sheet : Sheet) (name : String) :
    Grid.parse name sheet.text = sheet.grid name := by
  have hrows : ∀ cells ∈ sheet.rows, Row.Writable cells := by
    intro cells hcells
    obtain ⟨line, hline, rfl⟩ := List.mem_map.1 hcells
    exact sheet.writable line hline
  have hnumbered := numberRows_written hrows 1
  rw [Grid.parse, chopFront_text, lines_writtenLines sheet.writable, grid]
  rw [rows, List.map_map] at hnumbered
  refine congrArg (Grid.mk name) (hnumbered.trans ?_)
  simp only [rows, Nat.add_comm 1]

theorem Variants.grid_parse_eq {text other : String} (h : Variants text other) (name : String) :
    Grid.parse name text = Grid.parse name other := by
  obtain ⟨sheet, variant, hrows, rfl, rfl⟩ := h
  rw [grid_parse_text, grid_parse_text, grid, grid, hrows]

theorem map_parse_eq_of_variants {sources others : List (String × String)}
    (h : List.Forall₂ (fun a b => a.1 = b.1 ∧ Variants a.2 b.2) sources others) :
    (sources.map fun source => Grid.parse source.1 source.2) =
      others.map fun source => Grid.parse source.1 source.2 := by
  induction h with
  | nil => rfl
  | cons hfirst _ ih =>
    obtain ⟨hname, hvariants⟩ := hfirst
    rw [List.map_cons, List.map_cons, ih, hname, hvariants.grid_parse_eq]

/-- **Reading undoes writing in every style.** A written sheet is read back as its rows, in order
and numbered from one, with or without a byte-order mark and however each line is ended. So grids
under the same names, of which each is written in two styles, compile to the same program or the
same fault, and so do character tables. -/
theorem read_in_any_style :
    (∀ (sheet : Sheet) (name : String), Grid.parse name sheet.text =
      ⟨name, sheet.rows.mapIdx fun i cells => ⟨cells, i + 1⟩⟩) ∧
    (∀ (factory : Factory) (options : Options) (sources others : Dict String),
      List.Forall₂ (fun a b => a.1 = b.1 ∧ Variants a.2 b.2) sources.entries others.entries →
      Program.compile factory options sources = Program.compile factory options others) ∧
    ∀ name text other : String, Variants text other →
      Cast.compile name text = Cast.compile name other := by
  refine ⟨grid_parse_text, fun factory options sources others h => ?_, fun name text other h => ?_⟩
  · rw [Program.compile, Program.compile, map_parse_eq_of_variants h]
  · rw [Cast.compile, Cast.compile, h.grid_parse_eq]

/-- A sheet with an empty row, an empty last cell and a carriage return inside of a cell. -/
def narrow (marked : Bool) (ending : LineEnd) : Sheet where
  marked := marked
  lines := [(["Command", "Arg1", "Text"], ending), ([""], .feed), (["Label", "Start", ""], ending),
    (["Text", "", "a\rb"], .returnFeed)]
  writable := by cases ending <;> decide
  unmarked _ := by cases ending <;> decide

theorem narrow_in_two_styles :
    (narrow false .feed).text ≠ (narrow true .returnFeed).text ∧
    Program.compile .builtin {} (Dict.ofList [("intro", (narrow false .feed).text)]) =
      Program.compile .builtin {} (Dict.ofList [("intro", (narrow true .returnFeed).text)]) := by
  refine ⟨by decide, read_in_any_style.2.1 _ _ _ _ ?_⟩
  exact .cons ⟨rfl, narrow false .feed, narrow true .returnFeed, rfl, rfl, rfl⟩ .nil

end Sheet

end Storyboard
