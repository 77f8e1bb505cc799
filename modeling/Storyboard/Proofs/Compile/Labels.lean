import Storyboard.Proofs.Compile.Segmentation

/-!
# The labels of a compiled program

A program that was compiled keeps each label under the name of the label, and each of its commands
was built by the factory. So what holds of all commands that a factory builds holds of all commands
of the program (`Program.wellKept_compile`).
-/

namespace Storyboard

namespace Program

/-- Each label is kept under its own name, and all commands have a property. -/
structure WellKept (P : Command → Prop) (program : Program) : Prop where
  /-- Each label is kept under its own name. -/
  named : ∀ name label, program.label? name = some label → label.name = name
  /-- All commands have the property. -/
  commands : ∀ name label, program.label? name = some label → ∀ command ∈ label.commands, P command

variable {P : Command → Prop}

theorem wellKept_empty : empty.WellKept P := ⟨nofun, nofun⟩

theorem WellKept.insert {program : Program} (h : program.WellKept P) {label : Label}
    (hlabel : ∀ command ∈ label.commands, P command) :
    WellKept P ⟨program.labels.insert label.name label⟩ := by
  refine ⟨fun name found hfound => ?_, fun name found hfound => ?_⟩
  all_goals
    rw [label?_insert] at hfound
    split at hfound
  · next hname => rw [← Option.some.inj hfound, hname]
  · exact h.named name found hfound
  · rw [← Option.some.inj hfound]
    exact hlabel
  · exact h.commands name found hfound

section

variable {factory : Factory}
  (hbuild : ∀ opcode entry command, factory.build opcode entry = .ok command → P command)
include hbuild

/-- **Compiling entries keeps a program well kept**, if what the factory builds is. -/
theorem wellKept_addEntries {entries : List Entry} {current : Option OpenLabel}
    {program after : Program} (h : program.WellKept P)
    (hcurrent : ∀ opened, current = some opened → ∀ command ∈ opened.label.commands, P command)
    (hadd : addEntries factory current program entries = .ok after) : after.WellKept P := by
  induction entries generalizing current program with
  | nil =>
    cases current with
    | none =>
      cases hadd
      exact h
    | some opened =>
      obtain ⟨-, rfl⟩ := add_eq_ok_iff.1 hadd
      exact h.insert (hcurrent opened rfl)
  | cons entry rest ih =>
    -- A label that was just opened has no commands.
    have hopened : ∀ opened, some (⟨⟨entry.arg 1, entry.place.grid, []⟩, entry.place⟩ : OpenLabel) =
        some opened → ∀ command ∈ opened.label.commands, P command := by
      rintro _ ⟨⟩ command hcommand
      cases hcommand
    cases current with
    | none =>
      obtain ⟨-, -, hrest⟩ := (addEntries_none factory program rest after).1 hadd
      exact ih h hopened hrest
    | some opened =>
      cases hlabel : entry.isLabel with
      | true =>
        obtain ⟨-, -, hrest⟩ := (addEntries_label factory opened program rest hlabel after).1 hadd
        exact ih (h.insert (hcurrent opened rfl)) hopened hrest
      | false =>
        obtain ⟨command, hcommand, hrest⟩ :=
          (addEntries_command factory opened program rest hlabel after).1 hadd
        refine ih h ?_ hrest
        rintro _ ⟨⟩ other hother
        obtain hother | hother := List.mem_append.1 hother
        · exact hcurrent opened rfl other hother
        · rw [List.mem_singleton.1 hother]
          exact hbuild _ _ _ hcommand

theorem wellKept_addGrids {options : Options} {grids : List Grid} {program after : Program}
    (h : program.WellKept P)
    (hadd : (addGrids factory options program grids).result = .ok after) : after.WellKept P := by
  induction grids generalizing program with
  | nil =>
    cases hadd
    exact h
  | cons grid rest ih =>
    rw [addGrids] at hadd
    dsimp only at hadd
    split at hadd
    · cases hadd
    · next hfault =>
      have hresult := addGrid_result factory options program grid
      rw [GridReport.result, hfault] at hresult
      exact ih (wellKept_addEntries hbuild h (by rintro _ ⟨⟩) hresult.symm) hadd

/-- **A compiled program is well kept**: each label is kept under its own name, and all commands are
as the factory builds them. -/
theorem wellKept_compile {options : Options} {sources : Dict String} {program : Program}
    (h : (compile factory options sources).result = .ok program) : program.WellKept P :=
  wellKept_addGrids hbuild wellKept_empty h

end

end Program

end Storyboard
