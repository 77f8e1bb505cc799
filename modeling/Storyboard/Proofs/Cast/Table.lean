import Storyboard.Cast
import Storyboard.Proofs.Grid.Columns
import Mathlib.Data.List.Nodup

/-!
# What a character table says

Compiling a character table is compared with a reading of its rows that does not go through the
compiler. `Heads` says which row is the header and which rows describe characters, `Describes` what
character a row describes, `Consistent` what rows have to be like, and `complaints` what there is to
say against a row, in the order of the checks.

A row is added exactly when there is no complaint, and else the first complaint is the fault
(`addRow_cases`). Along the rows of a table this gives that a table of consistent rows lists one
character for each row, and that every other table is refused with the first complaint about the
first row that is not consistent with those above it (`outcome_addRows`,
`Cast.compile_reads_each_row`). No complaint is about a colour.
-/

namespace Storyboard

/-- The colour that a cell stands for: the one that it spells, and white when it is blank or spells
none. -/
def Color.Meant (raw : String) (color : Color) : Prop :=
  (raw ≠ "" ∧ ofHex? raw = some color) ∨ ((raw = "" ∨ ofHex? raw = none) ∧ color = white)

theorem Color.meant_iff (raw : String) (color : Color) :
    Meant raw color ↔ color = (ofHex? raw).getD white := by
  have hempty : ofHex? "" = none := by decide
  unfold Meant
  by_cases hraw : raw = ""
  · simp [hraw, hempty]
  · cases ofHex? raw <;> simp [hraw, eq_comm]

/-- The finite number that a row has under a column. -/
def Row.number? (row header : Row) (column : String) : Option Binary32 :=
  Binary32.readFinite? (row.under header column).toList

namespace Cast

/-! ### The rows of a table -/

/-- A row that can head a table: it is neither blank nor a remark, and it declares all required
columns. -/
def IsHeading (row : Row) : Prop :=
  row.isActive = true ∧ ∀ column ∈ requiredColumns, row.Declares column

/-- The first row that can head a table is the header, and the rows below it describe characters
unless they are blank or remarks. They may look like another header. -/
def Heads (rows : List Row) (header : Row) (entries : List Row) : Prop :=
  ∃ above below, rows = above ++ header :: below ∧ IsHeading header ∧
    (∀ row ∈ above, ¬ IsHeading row) ∧ entries = below.filter Row.isActive

/-- The character that a row describes. -/
structure Describes (header row : Row) (member : Character) : Prop where
  /-- The id is that of the row. -/
  id : member.id = row.under header "Id"
  /-- The id is not blank. -/
  named : member.id ≠ ""
  /-- The displayed name may be blank. -/
  name : member.name = row.under header "Name"
  /-- The horizontal position is a finite number. -/
  x : row.number? header "PositionX" = some member.x
  /-- The vertical position is a finite number. -/
  y : row.number? header "PositionY" = some member.y
  /-- The scale is a finite number. -/
  scale : row.number? header "Scale" = some member.scale
  /-- The file of the sprite may be blank. -/
  sprite : member.sprite = row.under header "Sprite"
  /-- A blank cell is no voice. -/
  voice : member.voice =
    if row.under header "Voice" = "" then none else some (row.under header "Voice")
  /-- A colour that cannot be read is white. -/
  color : Color.Meant (row.under header "Color") member.color

/-- The columns that hold numbers, in the order in which they are read. -/
def measures : List String := ["PositionX", "PositionY", "Scale"]

/-- The ids of rows. -/
def ids (header : Row) (rows : List Row) : List String := rows.map (·.under header "Id")

/-- Rows that describe different characters. -/
structure Consistent (header : Row) (rows : List Row) : Prop where
  /-- Each row has an id. -/
  named : ∀ row ∈ rows, row.under header "Id" ≠ ""
  /-- Each row has three finite numbers. -/
  measured : ∀ row ∈ rows, ∀ column ∈ measures, (row.number? header column).isSome = true
  /-- No two rows have the same id. -/
  distinct : (ids header rows).Nodup

/-- A cast lists the characters of rows. -/
structure Lists (header : Row) (rows : List Row) (cast : Cast) : Prop where
  /-- There are as many characters as rows. -/
  size : cast.members.size = rows.length
  /-- Under an id there is the character that a row with this id describes. -/
  holds : ∀ id member, cast.find? id = some member ↔
    ∃ row ∈ rows, row.under header "Id" = id ∧ Describes header row member

/-- What there is to say against a row by itself: it has no id, or a number cannot be read. -/
def defects (grid : String) (header row : Row) : List Fault :=
  (if row.under header "Id" = "" then [.characterUnnamed (.row grid row.line)] else []) ++
    (measures.filter fun column => (row.number? header column).isNone).map fun column =>
      .numberInvalid column (row.under header column)
        ((Location.row grid row.line).atColumn? (header.position? column))

/-- What there is to say against a row below rows with the given ids, in the order of the checks:
its defects, and that its id is taken. -/
def complaints (grid : String) (header : Row) (taken : List String) (row : Row) : List Fault :=
  defects grid header row ++
    if row.under header "Id" ∈ taken then
      [.characterRepeated (row.under header "Id") (.row grid row.line)]
    else []

/-! ### Finding the header -/

theorem isHeader_iff (row : Row) :
    isHeader row = true ↔ ∀ column ∈ requiredColumns, row.Declares column :=
  Header.containsAll_ofRow row (by decide)

theorem isHeading_iff (row : Row) : IsHeading row ↔ row.isActive = true ∧ isHeader row = true := by
  rw [isHeader_iff, IsHeading]

theorem heads_cons (first : Row) (rest : List Row) (header : Row) (entries : List Row) :
    Heads (first :: rest) header entries ↔
      (IsHeading first ∧ header = first ∧ entries = rest.filter Row.isActive) ∨
        (¬ IsHeading first ∧ Heads rest header entries) := by
  constructor
  · rintro ⟨above, below, hsplit, hheading, habove, hentries⟩
    rcases above with _ | ⟨top, above⟩
    · obtain ⟨rfl, rfl⟩ := List.cons.inj hsplit
      exact .inl ⟨hheading, rfl, hentries⟩
    · obtain ⟨rfl, rfl⟩ := List.cons.inj hsplit
      obtain ⟨htop, habove⟩ := List.forall_mem_cons.1 habove
      exact .inr ⟨htop, above, below, rfl, hheading, habove, hentries⟩
  · rintro (⟨hheading, rfl, rfl⟩ | ⟨hfirst, above, below, rfl, hheading, habove, rfl⟩)
    · exact ⟨[], rest, rfl, hheading, by simp, rfl⟩
    · exact ⟨first :: above, below, rfl, hheading, List.forall_mem_cons.2 ⟨hfirst, habove⟩, rfl⟩

/-- **The search for the header** finds it, with the rows that it heads. -/
theorem heads_iff (rows : List Row) (header : Row) (entries : List Row) :
    Heads rows header entries ↔
      ((rows.filter Row.isActive).dropWhile fun row => !isHeader row) = header :: entries := by
  induction rows with
  | nil => simp [Heads]
  | cons first rest ih =>
    rw [heads_cons, isHeading_iff, ih]
    cases hactive : first.isActive with
    | false => simp [hactive]
    | true => cases hheader : isHeader first <;> simp [hactive, hheader, eq_comm]

/-! ### One row -/

variable {grid : String} {header row : Row} {rows above : List Row} {cast : Cast}

theorem cell_ofRow {column : String} (h : column ≠ "") :
    cell (.ofRow header) row column = row.under header column :=
  Header.trim_cell_ofRow header row h

theorem number_ofRow {column : String} (h : column ≠ "") (place : Location) :
    number (.ofRow header) row place column =
      match row.number? header column with
      | some value => .ok value
      | none => .error (.numberInvalid column (row.under header column)
          (place.atColumn? (header.position? column))) := by
  have hread : Binary32.readFinite? (cell (.ofRow header) row column).toList =
      row.number? header column := by
    rw [cell_ofRow h, Row.number?]
  unfold number
  rw [hread]
  cases row.number? header column with
  | none =>
    dsimp only
    rw [cell_ofRow h, Header.index?_ofRow header h]
  | some value => rfl

theorem color_ofRow :
    color (.ofRow header) row = (Color.ofHex? (row.under header "Color")).getD .white := by
  rw [color, cell_ofRow (by decide)]

/-- **A row by itself** describes a character when it has no defects, and else the first defect is
the fault. -/
theorem character_cases (grid : String) (header row : Row) :
    (∃ member, character (.ofRow header) row (.row grid row.line) = .ok member ∧
      Describes header row member ∧ defects grid header row = []) ∨
    (∃ fault, character (.ofRow header) row (.row grid row.line) = .error fault ∧
      (defects grid header row).head? = some fault) := by
  unfold character
  dsimp only
  rw [cell_ofRow (by decide : "Id" ≠ ""), cell_ofRow (by decide : "Name" ≠ ""),
    cell_ofRow (by decide : "Sprite" ≠ ""), cell_ofRow (by decide : "Voice" ≠ ""), color_ofRow,
    number_ofRow (by decide : "PositionX" ≠ ""), number_ofRow (by decide : "PositionY" ≠ ""),
    number_ofRow (by decide : "Scale" ≠ "")]
  by_cases hid : row.under header "Id" = ""
  · rw [if_pos hid]
    exact .inr ⟨_, rfl, by simp [defects, hid]⟩
  rw [if_neg hid]
  -- The numbers are read in the order of `measures`, up to the first that cannot be read.
  cases hx : row.number? header "PositionX" with
  | none => exact .inr ⟨_, rfl, by simp [defects, measures, hid, hx]⟩
  | some x =>
    cases hy : row.number? header "PositionY" with
    | none => exact .inr ⟨_, rfl, by simp [defects, measures, hid, hx, hy]⟩
    | some y =>
      cases hscale : row.number? header "Scale" with
      | none => exact .inr ⟨_, rfl, by simp [defects, measures, hid, hx, hy, hscale]⟩
      | some scale =>
        -- Colour, name, sprite and voice cannot fail.
        refine .inl ⟨_, rfl, ?_, by simp [defects, measures, hid, hx, hy, hscale]⟩
        exact ⟨rfl, hid, rfl, hx, hy, hscale, rfl, rfl, (Color.meant_iff _ _).2 rfl⟩

/-- A row describes at most one character. -/
theorem Describes.unique {member other : Character} (h : Describes header row member)
    (hother : Describes header row other) : member = other := by
  have hx : some member.x = some other.x := h.x.symm.trans hother.x
  have hy : some member.y = some other.y := h.y.symm.trans hother.y
  have hscale : some member.scale = some other.scale := h.scale.symm.trans hother.scale
  have hcolor : member.color = other.color :=
    ((Color.meant_iff _ _).1 h.color).trans ((Color.meant_iff _ _).1 hother.color).symm
  obtain ⟨⟩ := member
  obtain ⟨⟩ := other
  rw [Character.mk.injEq]
  exact ⟨h.id.trans hother.id.symm, h.name.trans hother.name.symm, Option.some.inj hx,
    Option.some.inj hy, Option.some.inj hscale, h.sprite.trans hother.sprite.symm,
    h.voice.trans hother.voice.symm, hcolor⟩

theorem defects_eq_nil_iff (grid : String) (header row : Row) :
    defects grid header row = [] ↔
      row.under header "Id" ≠ "" ∧
        ∀ column ∈ measures, (row.number? header column).isSome = true := by
  simp [defects, List.filter_eq_nil_iff, Option.isSome_iff_ne_none]

theorem complaints_eq_nil_iff (grid : String) (header : Row) (taken : List String) (row : Row) :
    complaints grid header taken row = [] ↔
      defects grid header row = [] ∧ row.under header "Id" ∉ taken := by
  simp [complaints]

/-- **A row below others** is added when there are no complaints about it, and else the first
complaint is the fault. -/
theorem addRow_cases {taken : List String}
    (htaken : ∀ id, (cast.find? id).isSome = true ↔ id ∈ taken) (grid : String)
    (header row : Row) :
    (∃ member, (addRow (.ofRow header) grid cast row).result =
        .ok ⟨cast.members.insert member.id member⟩ ∧
      Describes header row member ∧ complaints grid header taken row = []) ∨
    (∃ fault, (addRow (.ofRow header) grid cast row).result = .error fault ∧
      (complaints grid header taken row).head? = some fault) := by
  unfold addRow
  dsimp only
  rcases character_cases grid header row with
    ⟨member, hread, hmember, hdefects⟩ | ⟨fault, hread, hfault⟩
  · rw [hread]
    dsimp only
    -- A row without defects is refused only if its id is taken.
    have hid : (cast.find? member.id).isSome = true ↔ row.under header "Id" ∈ taken := by
      rw [htaken, hmember.id]
    by_cases hrepeated : row.under header "Id" ∈ taken
    · rw [if_pos (hid.2 hrepeated)]
      exact .inr ⟨_, rfl, by simp [complaints, hdefects, hrepeated, hmember.id]⟩
    · rw [if_neg (mt hid.1 hrepeated)]
      exact .inl ⟨member, rfl, hmember, (complaints_eq_nil_iff ..).2 ⟨hdefects, hrepeated⟩⟩
  · rw [hread]
    exact .inr ⟨fault, rfl, by simp [complaints, hfault]⟩

/-! ### All rows -/

/-- **Rows stay consistent** by a row about which there are no complaints. -/
theorem consistent_concat (grid : String) :
    Consistent header (above ++ [row]) ↔
      Consistent header above ∧ complaints grid header (ids header above) row = [] := by
  have hids : ids header (above ++ [row]) = ids header above ++ [row.under header "Id"] := by
    simp [ids]
  -- Of the three conditions only the one on ids relates rows to each other.
  have hdistinct : (ids header (above ++ [row])).Nodup ↔
      (ids header above).Nodup ∧ row.under header "Id" ∉ ids header above := by
    rw [hids, List.nodup_append_comm, List.singleton_append, List.nodup_cons, and_comm]
  rw [complaints_eq_nil_iff, defects_eq_nil_iff]
  constructor
  · intro h
    have hrow : row ∈ above ++ [row] := List.mem_append_right above List.mem_cons_self
    have habove : ∀ other ∈ above, other ∈ above ++ [row] := fun _ => List.mem_append_left [row]
    obtain ⟨hkept, hfree⟩ := hdistinct.1 h.distinct
    exact ⟨⟨fun other hother => h.named other (habove other hother),
      fun other hother => h.measured other (habove other hother), hkept⟩,
      ⟨h.named row hrow, h.measured row hrow⟩, hfree⟩
  · rintro ⟨h, ⟨hnamed, hmeasured⟩, hfree⟩
    refine ⟨?_, ?_, hdistinct.2 ⟨h.distinct, hfree⟩⟩
    · exact List.forall_mem_append.2 ⟨h.named, List.forall_mem_singleton.2 hnamed⟩
    · exact List.forall_mem_append.2 ⟨h.measured, List.forall_mem_singleton.2 hmeasured⟩

theorem consistent_nil (header : Row) : Consistent header [] :=
  ⟨by simp, by simp, List.nodup_nil⟩

/-- Rows at the top of consistent rows are consistent. -/
theorem Consistent.of_append {below : List Row} (h : Consistent header (above ++ below)) :
    Consistent header above where
  named row hrow := h.named row (List.mem_append_left below hrow)
  measured row hrow := h.measured row (List.mem_append_left below hrow)
  distinct := h.distinct.sublist ((List.sublist_append_left above below).map _)

theorem Consistent.exists_describes (h : Consistent header rows) (hrow : row ∈ rows) :
    ∃ member, Describes header row member := by
  have hdefects := (defects_eq_nil_iff "" header row).2 ⟨h.named row hrow, h.measured row hrow⟩
  rcases character_cases "" header row with ⟨member, -, hmember, -⟩ | ⟨fault, -, hfault⟩
  · exact ⟨member, hmember⟩
  · rw [hdefects] at hfault
    cases hfault

theorem lists_nil (header : Row) : Lists header [] empty :=
  ⟨rfl, by simp [find?, empty]⟩

/-- The ids that a cast has are those of the rows that it lists. -/
theorem Lists.isSome_find?_iff (h : Lists header rows cast) (hrows : Consistent header rows)
    (id : String) : (cast.find? id).isSome = true ↔ id ∈ ids header rows := by
  rw [Option.isSome_iff_exists, ids, List.mem_map]
  constructor
  · rintro ⟨member, hmember⟩
    obtain ⟨row, hrow, hid, -⟩ := (h.holds id member).1 hmember
    exact ⟨row, hrow, hid⟩
  · rintro ⟨row, hrow, hid⟩
    obtain ⟨member, hmember⟩ := hrows.exists_describes hrow
    exact ⟨member, (h.holds id member).2 ⟨row, hrow, hid, hmember⟩⟩

/-- **A cast lists one row more** when the character of that row is inserted under a new id. -/
theorem Lists.insert {member : Character} (h : Lists header above cast)
    (hfree : cast.find? member.id = none) (hmember : Describes header row member) :
    Lists header (above ++ [row]) ⟨cast.members.insert member.id member⟩ where
  size := by
    have hperm := (Dict.perm_insertEntry member hfree).length_eq
    rw [List.length_cons] at hperm
    rw [List.length_append, List.length_singleton, ← h.size]
    exact hperm
  holds id other := by
    -- A character is listed for a row above or for the new one.
    have hrows : (∃ line ∈ above ++ [row], line.under header "Id" = id ∧
        Describes header line other) ↔
          cast.find? id = some other ∨
            (row.under header "Id" = id ∧ Describes header row other) := by
      rw [h.holds]
      simp only [List.mem_append, List.mem_singleton, or_and_right, exists_or, exists_eq_left]
    rw [hrows, find?, Dict.find?_insert, ← hmember.id]
    by_cases hid : id = member.id
    · rw [if_pos hid, hid, hfree, Option.some.injEq]
      constructor
      · rintro rfl
        exact .inr ⟨rfl, hmember⟩
      · rintro (hnone | ⟨-, hother⟩)
        · cases hnone
        · exact hmember.unique hother
    · rw [if_neg hid]
      constructor
      · exact .inl
      · rintro (hfound | ⟨hsame, -⟩)
        · exact hfound
        · exact absurd hsame.symm hid

/-- What becomes of the rows of a table: the cast lists them all, or the first row that there is a
complaint about is why there is no cast. -/
inductive Outcome (grid : String) (header : Row) (rows : List Row) : Except Fault Cast → Prop
  | listed {cast : Cast} (consistent : Consistent header rows) (lists : Lists header rows cast) :
    Outcome grid header rows (.ok cast)
  | refused {above below : List Row} {row : Row} {fault : Fault}
    (split : rows = above ++ row :: below) (consistent : Consistent header above)
    (first : (complaints grid header (ids header above) row).head? = some fault) :
    Outcome grid header rows (.error fault)

/-- **The outcome of all rows** below those that a cast lists. -/
theorem outcome_addRows (hrows : Consistent header above) (hcast : Lists header above cast)
    (grid : String) (below : List Row) :
    Outcome grid header (above ++ below) (addRows (.ofRow header) grid cast below).result := by
  -- The rows above are those that were added, so they grow at their end as the rows below shrink.
  induction below generalizing above cast with
  | nil =>
    rw [List.append_nil]
    exact .listed hrows hcast
  | cons row below ih =>
    unfold addRows Compiled.andThen
    rcases addRow_cases (hcast.isSome_find?_iff hrows) grid header row with
      ⟨member, hadded, hmember, hclean⟩ | ⟨fault, hfailed, hfirst⟩
    · rw [hadded, List.append_cons above row below]
      dsimp only
      -- No complaint means that the id is not among those above, so it is new in the cast.
      have hfree : cast.find? member.id = none := by
        have hid := ((complaints_eq_nil_iff ..).1 hclean).2
        rw [← hmember.id, ← hcast.isSome_find?_iff hrows] at hid
        exact Option.not_isSome_iff_eq_none.1 hid
      exact ih ((consistent_concat grid).2 ⟨hrows, hclean⟩) (hcast.insert hfree hmember)
    · rw [hfailed]
      exact .refused rfl hrows hfirst

/-- There is a cast exactly for consistent rows. -/
theorem Outcome.exists_ok_iff {result : Except Fault Cast} (h : Outcome grid header rows result) :
    (∃ cast, result = .ok cast) ↔ Consistent header rows := by
  cases h with
  | listed consistent lists => exact iff_of_true ⟨_, rfl⟩ consistent
  | @refused above below row fault split consistent first =>
    refine iff_of_false (by simp) fun hrows => ?_
    rw [split, List.append_cons] at hrows
    have hclean := ((consistent_concat grid).1 hrows.of_append).2
    rw [hclean] at first
    cases first

/-! ### The whole table -/

theorem outcome_ofGrid {sheet : Grid} (h : Heads sheet.rows header rows) :
    Outcome sheet.name header rows (ofGrid sheet).result := by
  unfold ofGrid
  rw [(heads_iff sheet.rows header rows).1 h]
  exact outcome_addRows (consistent_nil header) (lists_nil header) sheet.name rows

theorem ofGrid_of_not_heads {sheet : Grid}
    (h : ¬ ∃ header entries, Heads sheet.rows header entries) :
    (ofGrid sheet).result = .error (.characterHeaderMissing sheet.name requiredColumns) := by
  unfold ofGrid
  cases hrows : (sheet.rows.filter Row.isActive).dropWhile fun row => !isHeader row with
  | nil => rfl
  | cons header entries => exact absurd ⟨header, entries, (heads_iff ..).2 hrows⟩ h

/-- **A character table is compiled exactly from its rows.** It has a cast exactly when it has a
header and the rows below it are consistent: each has an id and finite numbers, and no two have the
same id. The cast then lists one character for each of these rows. When there is a header and no
cast, the fault is the first complaint about the first row that is not consistent with those above
it, and no complaint is about a colour. -/
theorem compile_reads_each_row (name source : String) :
    ((∃ cast, (compile name source).result = .ok cast) ↔
      ∃ header entries, Heads (Grid.parse name source).rows header entries ∧
        Consistent header entries) ∧
    ((¬ ∃ header entries, Heads (Grid.parse name source).rows header entries) →
      (compile name source).result = .error (.characterHeaderMissing name requiredColumns)) ∧
    ∀ header entries, Heads (Grid.parse name source).rows header entries →
      (∀ cast, (compile name source).result = .ok cast → Lists header entries cast) ∧
      ∀ fault, (compile name source).result = .error fault →
        ∃ above row below, entries = above ++ row :: below ∧ Consistent header above ∧
          (complaints name header (ids header above) row).head? = some fault := by
  have hmissing (h : ¬ ∃ header entries, Heads (Grid.parse name source).rows header entries) :
      (compile name source).result = .error (.characterHeaderMissing name requiredColumns) :=
    ofGrid_of_not_heads h
  have houtcome : ∀ header entries, Heads (Grid.parse name source).rows header entries →
      Outcome name header entries (compile name source).result :=
    fun header entries h => outcome_ofGrid h
  refine ⟨⟨?_, ?_⟩, hmissing, ?_⟩
  · rintro ⟨cast, hcast⟩
    by_cases hheads : ∃ header entries, Heads (Grid.parse name source).rows header entries
    · obtain ⟨header, entries, h⟩ := hheads
      exact ⟨header, entries, h, (houtcome header entries h).exists_ok_iff.1 ⟨cast, hcast⟩⟩
    · rw [hmissing hheads] at hcast
      cases hcast
  · rintro ⟨header, entries, h, hconsistent⟩
    exact (houtcome header entries h).exists_ok_iff.2 hconsistent
  · intro header entries h
    have hout := houtcome header entries h
    constructor
    · intro cast hcast
      rw [hcast] at hout
      obtain ⟨-, hlists⟩ := hout
      exact hlists
    · intro fault hfault
      rw [hfault] at hout
      obtain ⟨⟩ | ⟨hsplit, habove, hfirst⟩ := hout
      exact ⟨_, _, _, hsplit, habove, hfirst⟩

example :
    ((compile "cast"
        "Id,Name,PositionX,PositionY,Scale,Sprite,Color\nEve,,0,0,1,,pink").result.toOption.bind
      (·.find? "Eve")).map (·.color) = some .white := by
  decide +kernel

end Cast

end Storyboard
