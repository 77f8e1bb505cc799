import Storyboard.Proofs.Compile.Segmentation
import Mathlib.Data.List.Basic

/-!
# The order of grids does not matter

All grids are compiled into one program, one after another, and a grid can fail because of a label
that an earlier grid has declared. This is the only way in which grids meet: into any program, a
grid compiles exactly when it compiles alone and its labels are not there yet, and it adds to the
program what it compiles to alone (`Program.addGrid_alone`, `Program.exists_addGrid`). So what
several grids need of each other is that no two of them declare the same label, which is the same in
every order, and what they compile to is the union of what each compiles to alone
(`Program.addGrids_in_any_order`).
-/

namespace Storyboard

/-- The names of the labels that a grid declares, in order. -/
def Grid.labelNames (options : Options) (grid : Grid) : List String :=
  Entry.labelNames (grid.entries options)

/-! ### Segments in two programs -/

namespace Entry

variable {factory : Factory} {grid : String} {entries : List Entry}
  {program after other otherAfter : Program}

/-- Of the program, only the names matter. -/
theorem compilable_iff_alone :
    Compilable factory program entries ↔
      Compilable factory .empty entries ∧
        ∀ name ∈ labelNames entries, program.label? name = none := by
  constructor
  · intro h
    exact ⟨⟨h.named, h.built, h.labelled, h.distinct, fun _ _ => rfl⟩, h.fresh⟩
  · rintro ⟨h, hfresh⟩
    exact ⟨h.named, h.built, h.labelled, h.distinct, hfresh⟩

theorem exists_label_of_mem {name : String} (h : name ∈ labelNames entries) :
    ∃ above label below, entries = above ++ label :: below ∧ label.isLabel = true ∧
      label.arg 1 = name := by
  obtain ⟨label, hlabel, rfl⟩ := List.mem_map.1 h
  obtain ⟨hmem, hopens⟩ := List.mem_filter.1 hlabel
  obtain ⟨above, below, rfl⟩ := List.append_of_mem hmem
  exact ⟨above, label, below, rfl, hopens, rfl⟩

theorem Segmented.isSome_label? (h : Segmented factory grid entries program after) {name : String}
    (hname : name ∈ labelNames entries) : (after.label? name).isSome = true := by
  obtain ⟨above, label, below, hsplit, hopens, rfl⟩ := exists_label_of_mem hname
  obtain ⟨commands, -, hlabel⟩ := h.segment above label below hsplit hopens
  rw [hlabel]
  rfl

/-- **A segment is the same in whatever program it is compiled into.** -/
theorem Segmented.label?_eq (h : Segmented factory grid entries program after)
    (hother : Segmented factory grid entries other otherAfter) {name : String}
    (hname : name ∈ labelNames entries) : after.label? name = otherAfter.label? name := by
  obtain ⟨above, label, below, hsplit, hopens, rfl⟩ := exists_label_of_mem hname
  obtain ⟨commands, hbuilt, hlabel⟩ := h.segment above label below hsplit hopens
  obtain ⟨others, hothers, hotherLabel⟩ := hother.segment above label below hsplit hopens
  have hsame : commands = others :=
    List.map_injective_iff.2 (fun _ _ => Except.ok.inj) (hbuilt.symm.trans hothers)
  rw [hlabel, hotherLabel, hsame]

end Entry

theorem GridReport.result_eq_ok_iff (report : GridReport) (after : Program) :
    report.result = .ok after ↔ report.fault = none ∧ report.program = after := by
  unfold GridReport.result
  cases report.fault <;> simp

theorem GridReport.result_eq_error_iff (report : GridReport) (fault : Fault) :
    report.result = .error fault ↔ report.fault = some fault := by
  unfold GridReport.result
  cases report.fault <;> simp

namespace Program

variable {factory : Factory} {options : Options}

/-- Programs with the same labels are equal. -/
theorem ext_label? {program other : Program}
    (h : ∀ name, program.label? name = other.label? name) : program = other := by
  obtain ⟨labels⟩ := program
  obtain ⟨others⟩ := other
  exact congrArg Program.mk (Dict.ext_find? h)

/-! ### One grid -/

/-- A grid compiles to its segments, and exactly when they can be compiled. -/
theorem addGrid_spec (factory : Factory) (options : Options) (program : Program) (grid : Grid) :
    ((∃ after, (program.addGrid factory options grid).result = .ok after) ↔
      Entry.Compilable factory program (grid.entries options)) ∧
    ∀ after, (program.addGrid factory options grid).result = .ok after →
      Entry.Segmented factory grid.name (grid.entries options) program after := by
  rw [addGrid_result]
  exact addEntries_spec factory grid.name (grid.entries options)
    (fun entry hentry => Grid.place_of_mem_entries hentry) program

/-- A grid that compiles alone compiles into every program without its labels. -/
theorem exists_addGrid {program : Program} {grid : Grid}
    (halone : (empty.addGrid factory options grid).fault = none)
    (hfresh : ∀ name ∈ grid.labelNames options, program.label? name = none) :
    ∃ after, (program.addGrid factory options grid).result = .ok after := by
  have hsingle : (empty.addGrid factory options grid).result =
      .ok (empty.addGrid factory options grid).program :=
    (GridReport.result_eq_ok_iff _ _).2 ⟨halone, rfl⟩
  refine (addGrid_spec factory options program grid).1.2 (Entry.compilable_iff_alone.2 ⟨?_, hfresh⟩)
  exact (addGrid_spec factory options empty grid).1.1 ⟨_, hsingle⟩

theorem label?_alone {grid : Grid} (halone : (empty.addGrid factory options grid).fault = none)
    (name : String) :
    ((empty.addGrid factory options grid).program.label? name).isSome = true ↔
      name ∈ grid.labelNames options := by
  have hsegmented := (addGrid_spec factory options empty grid).2 _
    ((GridReport.result_eq_ok_iff _ _).2 ⟨halone, rfl⟩)
  constructor
  · intro hsome
    by_contra hname
    rw [hsegmented.other name hname] at hsome
    cases hsome
  · exact hsegmented.isSome_label?

/-- **A grid adds to a program what it compiles to alone**, under names that were not there. -/
theorem addGrid_alone {program after : Program} {grid : Grid}
    (h : (program.addGrid factory options grid).result = .ok after) :
    (empty.addGrid factory options grid).fault = none ∧
    (∀ name ∈ grid.labelNames options, program.label? name = none) ∧
    ∀ name, after.label? name =
      ((empty.addGrid factory options grid).program.label? name).or (program.label? name) := by
  obtain ⟨hiff, hsegments⟩ := addGrid_spec factory options program grid
  obtain ⟨halone, hfresh⟩ := Entry.compilable_iff_alone.1 (hiff.1 ⟨after, h⟩)
  obtain ⟨single, hsingle⟩ := (addGrid_spec factory options empty grid).1.2 halone
  have hsegmented := (addGrid_spec factory options empty grid).2 single hsingle
  obtain ⟨hfault, rfl⟩ := (GridReport.result_eq_ok_iff _ _).1 hsingle
  refine ⟨hfault, hfresh, fun name => ?_⟩
  -- A name of the grid has its segment in either program; all other names are left alone.
  by_cases hname : name ∈ grid.labelNames options
  · rw [(hsegments after h).label?_eq hsegmented hname, hfresh name hname, Option.or_none]
  · rw [(hsegments after h).other name hname, hsegmented.other name hname]
    rfl

/-! ### All grids -/

/-- The grids can be compiled into a program, one after another. -/
structure Joinable (factory : Factory) (options : Options) (program : Program)
    (grids : List Grid) : Prop where
  /-- Each grid compiles alone. -/
  alone : ∀ grid ∈ grids, (empty.addGrid factory options grid).fault = none
  /-- No two grids declare the same label. -/
  disjoint : grids.Pairwise fun a b => (a.labelNames options).Disjoint (b.labelNames options)
  /-- No grid declares a label of the program. -/
  fresh : ∀ grid ∈ grids, ∀ name ∈ grid.labelNames options, program.label? name = none

theorem addGrids_cons_eq_ok_iff (program : Program) (grid : Grid) (rest : List Grid)
    (final : Program) :
    (addGrids factory options program (grid :: rest)).result = .ok final ↔
      ∃ after, (program.addGrid factory options grid).result = .ok after ∧
        (addGrids factory options after rest).result = .ok final := by
  rw [addGrids]
  simp only [GridReport.result_eq_ok_iff]
  cases (program.addGrid factory options grid).fault with
  | some fault => simp
  | none => simp

/-- **One grid more**: it compiles, and the others compile into what it leaves. -/
theorem joinable_cons (program : Program) (grid : Grid) (rest : List Grid) :
    Joinable factory options program (grid :: rest) ↔
      ∃ after, (program.addGrid factory options grid).result = .ok after ∧
        Joinable factory options after rest := by
  constructor
  · intro h
    obtain ⟨hgrid, hrest⟩ := List.forall_mem_cons.1 h.alone
    obtain ⟨hfirst, hdisjoint⟩ := List.pairwise_cons.1 h.disjoint
    obtain ⟨hfresh, hlater⟩ := List.forall_mem_cons.1 h.fresh
    obtain ⟨after, hafter⟩ := exists_addGrid hgrid hfresh
    refine ⟨after, hafter, hrest, hdisjoint, fun other hother name hname => ?_⟩
    obtain ⟨-, -, hunion⟩ := addGrid_alone hafter
    -- A later grid shares no name with this one, so its names are still free.
    have hnone : (empty.addGrid factory options grid).program.label? name = none := by
      by_contra hsome
      have hmem := (label?_alone hgrid name).1 (Option.isSome_iff_ne_none.2 hsome)
      exact hfirst other hother hmem hname
    rw [hunion, hnone, hlater other hother name hname]
    rfl
  · rintro ⟨after, hafter, h⟩
    obtain ⟨hgrid, hfresh, hunion⟩ := addGrid_alone hafter
    -- What is free afterwards was free before and is not declared by this grid.
    have hnone : ∀ other ∈ rest, ∀ name ∈ other.labelNames options,
        (empty.addGrid factory options grid).program.label? name = none ∧
          program.label? name = none := by
      intro other hother name hname
      have hfree := h.fresh other hother name hname
      rw [hunion] at hfree
      exact Option.or_eq_none_iff.1 hfree
    refine ⟨List.forall_mem_cons.2 ⟨hgrid, h.alone⟩, List.pairwise_cons.2 ⟨?_, h.disjoint⟩,
      List.forall_mem_cons.2 ⟨hfresh, fun other hother name hname =>
        (hnone other hother name hname).2⟩⟩
    intro other hother name hmem hname
    have hsome := (label?_alone hgrid name).2 hmem
    rw [(hnone other hother name hname).1] at hsome
    cases hsome

/-- **Grids compile exactly when they can be joined.** -/
theorem exists_addGrids_iff (program : Program) (grids : List Grid) :
    (∃ final, (addGrids factory options program grids).result = .ok final) ↔
      Joinable factory options program grids := by
  induction grids generalizing program with
  | nil => exact iff_of_true ⟨program, rfl⟩ ⟨nofun, .nil, nofun⟩
  | cons grid rest ih =>
    rw [joinable_cons]
    simp only [addGrids_cons_eq_ok_iff, ← ih]
    constructor
    · rintro ⟨final, after, hafter, hfinal⟩
      exact ⟨after, hafter, final, hfinal⟩
    · rintro ⟨after, hafter, final, hfinal⟩
      exact ⟨final, after, hafter, hfinal⟩

/-- **What grids compile to** is the program with what each of them compiles to alone. -/
theorem label?_addGrids {program final : Program} {grids : List Grid}
    (h : (addGrids factory options program grids).result = .ok final) (name : String)
    (label : Label) :
    final.label? name = some label ↔ program.label? name = some label ∨
      ∃ grid ∈ grids, (empty.addGrid factory options grid).program.label? name = some label := by
  induction grids generalizing program with
  | nil =>
    cases h
    simp
  | cons grid rest ih =>
    obtain ⟨after, hafter, hfinal⟩ := (addGrids_cons_eq_ok_iff program grid rest final).1 h
    obtain ⟨hgrid, hfresh, hunion⟩ := addGrid_alone hafter
    -- Where the grid has the name the program did not, so it does not matter which is asked first.
    have hadded : after.label? name = some label ↔ program.label? name = some label ∨
        (empty.addGrid factory options grid).program.label? name = some label := by
      rw [hunion]
      cases hsingle : (empty.addGrid factory options grid).program.label? name with
      | none => simp
      | some found =>
        have hname := (label?_alone hgrid name).1 (Option.isSome_iff_exists.2 ⟨found, hsingle⟩)
        simp [hfresh name hname]
    rw [ih hfinal, hadded, or_assoc, List.exists_mem_cons_iff]

theorem Joinable.perm {program : Program} {grids order : List Grid}
    (h : Joinable factory options program grids) (horder : order.Perm grids) :
    Joinable factory options program order where
  alone grid hgrid := h.alone grid (horder.mem_iff.1 hgrid)
  disjoint := (horder.pairwise_iff List.disjoint_symm).2 h.disjoint
  fresh grid hgrid := h.fresh grid (horder.mem_iff.1 hgrid)

/-- **The order of grids does not matter.** Grids compile one after another exactly when each of
them compiles alone and no two declare the same label. What they compile to is the union of what
they compile to alone, in which no two grids have a label of the same name, and in every other order
they compile to the same program. -/
theorem addGrids_in_any_order (factory : Factory) (options : Options) (grids : List Grid) :
    let alone := fun grid : Grid => empty.addGrid factory options grid
    ((∃ program, (addGrids factory options empty grids).result = .ok program) ↔
      (∀ grid ∈ grids, (alone grid).fault = none) ∧
        grids.Pairwise fun a b => (a.labelNames options).Disjoint (b.labelNames options)) ∧
    ∀ program, (addGrids factory options empty grids).result = .ok program →
      (∀ name label, program.label? name = some label ↔
        ∃ grid ∈ grids, (alone grid).program.label? name = some label) ∧
      (grids.Pairwise fun a b => ∀ name,
        (alone a).program.label? name = none ∨ (alone b).program.label? name = none) ∧
      ∀ order : List Grid, order.Perm grids →
        (addGrids factory options empty order).result = .ok program := by
  intro alone
  have hunion : ∀ {order : List Grid} {program : Program},
      (addGrids factory options empty order).result = .ok program →
      ∀ name label, program.label? name = some label ↔
        ∃ grid ∈ order, (alone grid).program.label? name = some label := by
    intro order program h name label
    have hnone : empty.label? name ≠ some label := nofun
    rw [label?_addGrids h, or_iff_right hnone]
  refine ⟨?_, fun program h => ?_⟩
  · rw [exists_addGrids_iff]
    exact ⟨fun h => ⟨h.alone, h.disjoint⟩, fun h => ⟨h.1, h.2, fun _ _ _ _ => rfl⟩⟩
  · have hjoinable := (exists_addGrids_iff empty grids).1 ⟨program, h⟩
    refine ⟨hunion h, ?_, fun order horder => ?_⟩
    · refine hjoinable.disjoint.imp_of_mem fun {a b} ha hb hdisjoint name => ?_
      by_contra hboth
      obtain ⟨hfirst, hsecond⟩ := not_or.1 hboth
      have hname := (label?_alone (hjoinable.alone a ha) name).1
        (Option.isSome_iff_ne_none.2 hfirst)
      have hother := (label?_alone (hjoinable.alone b hb) name).1
        (Option.isSome_iff_ne_none.2 hsecond)
      exact hdisjoint hname hother
    · obtain ⟨other, hother⟩ := (exists_addGrids_iff empty order).2 (hjoinable.perm horder)
      -- A program is known by its labels, and the union does not depend on the order.
      have hsame : other = program := by
        refine ext_label? fun name => Option.ext fun label => ?_
        rw [hunion hother, hunion h]
        simp only [horder.mem_iff]
      rw [hother, hsame]

end Program

end Storyboard
