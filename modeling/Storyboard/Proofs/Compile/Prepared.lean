import Storyboard.Player.Session
import Storyboard.Proofs.Compile.Building
import Storyboard.Proofs.Compile.Labels

/-!
# Scenarios that are ready to be played

A scenario that was prepared was compiled with the built-in commands, and the label to start from
has something to play (`Scenario.prepare_eq_ok`). As the built-in commands refuse a choice without
targets, each choice has an option (`Scenario.hasOptions_of_prepare`).
-/

namespace Storyboard

theorem Compiled.andThen_eq_ok_iff {α β : Type} {compiled : Compiled α} {next : α → Compiled β}
    {b : β} :
    (compiled.andThen next).result = .ok b ↔
      ∃ a, compiled.result = .ok a ∧ (next a).result = .ok b := by
  unfold andThen
  cases compiled.result <;> simp

theorem Compiled.andThen_eq_error_iff {α β : Type} {compiled : Compiled α} {next : α → Compiled β}
    {fault : Fault} :
    (compiled.andThen next).result = .error fault ↔
      compiled.result = .error fault ∨
        ∃ a, compiled.result = .ok a ∧ (next a).result = .error fault := by
  unfold andThen
  cases compiled.result <;> simp

/-- A command that is not a choice without options. -/
def Command.HasOptions : Command → Prop
  | .choice options _ => options ≠ []
  | _ => True

/-- **A choice that is built has an option.** -/
theorem Factory.hasOptions_build {opcode : String} {entry : Entry} {command : Command}
    (h : builtin.build opcode entry = .ok command) : command.HasOptions := by
  have hformed := wellFormed_build h
  cases command with
  | choice options place => exact hformed.1
  | _ => trivial

namespace Scenario

variable {options : Options} {sources : Sources} {label : Option String} {scenario : Scenario}
  {entry : String}

/-- **Sources have a fault** when one of the grids has it, or when the grids compile and the
character table has it. -/
theorem compileSources_eq_error_iff {factory : Factory} {fault : Fault} :
    (compileSources factory options sources).result = .error fault ↔
      (Program.compile factory options sources.grids).result = .error fault ∨
        ∃ program source, (Program.compile factory options sources.grids).result = .ok program ∧
          sources.characters = some source ∧
          (Cast.compile characterGrid source).result = .error fault := by
  unfold compileSources
  rw [Compiled.andThen_eq_error_iff]
  cases hcharacters : sources.characters with
  | none => simp [Compiled.ok]
  | some source => simp [Compiled.andThen_eq_error_iff, Compiled.ok]

/-- A scenario is compiled exactly from sources that compile. -/
theorem compile_eq_ok_iff {factory : Factory} :
    (compile factory options sources).result = .ok scenario ↔
      ∃ program cast, (compileSources factory options sources).result = .ok (program, cast) ∧
        scenario = new program cast := by
  unfold compile
  rw [Compiled.andThen_eq_ok_iff]
  simp [Compiled.ok, eq_comm]

theorem compile_eq_error_iff {factory : Factory} {fault : Fault} :
    (compile factory options sources).result = .error fault ↔
      (compileSources factory options sources).result = .error fault := by
  unfold compile
  rw [Compiled.andThen_eq_error_iff]
  simp [Compiled.ok]

/-- The label to start from has something to play. -/
theorem commands_ne_nil_of_resolveEntry (h : scenario.resolveEntry label = .ok entry) :
    scenario.commands entry ≠ [] := by
  cases label with
  | none =>
    simp only [resolveEntry] at h
    split at h
    · cases h
    · next hcommands =>
      cases h
      simpa using hcommands
  | some label =>
    simp only [resolveEntry] at h
    split at h
    · cases h
    · next hcommands =>
      cases h
      simpa using hcommands

/-- **A scenario that was prepared** is a compiled program with a cast, and the label to start from
has something to play. -/
theorem prepare_eq_ok (h : (prepare options sources label).result = .ok (scenario, entry)) :
    (∃ program cast, (Program.compile .builtin options sources.grids).result = .ok program ∧
      scenario = new program cast) ∧ scenario.commands entry ≠ [] := by
  obtain ⟨compiled, hcompiled, hentry⟩ := Compiled.andThen_eq_ok_iff.1 h
  split at hentry
  · cases hentry
  next found hfound =>
  cases hentry
  refine ⟨?_, commands_ne_nil_of_resolveEntry hfound⟩
  obtain ⟨program, cast, hsources, rfl⟩ := compile_eq_ok_iff.1 hcompiled
  obtain ⟨built, hbuilt, hcast⟩ := Compiled.andThen_eq_ok_iff.1 hsources
  have hprogram : built = program := by
    split at hcast
    · cases hcast
      rfl
    · obtain ⟨cast, -, hpair⟩ := Compiled.andThen_eq_ok_iff.1 hcast
      cases hpair
      rfl
  exact ⟨program, cast, hprogram ▸ hbuilt, rfl⟩

/-- Each choice of a scenario that was prepared has an option. -/
theorem hasOptions_of_prepare (h : (prepare options sources label).result = .ok (scenario, entry))
    {name : String} {command : Command} (hcommand : command ∈ scenario.commands name) :
    command.HasOptions := by
  obtain ⟨⟨program, cast, hprogram, rfl⟩, -⟩ := prepare_eq_ok h
  have hkept := Program.wellKept_compile (P := Command.HasOptions)
    (fun opcode entry command => Factory.hasOptions_build) hprogram
  cases hlabel : program.label? name with
  | none => simp [new, commands, Program.commands, hlabel] at hcommand
  | some found =>
    simp only [new, commands, Program.commands, hlabel] at hcommand
    exact hkept.commands name found hlabel command hcommand

end Scenario

end Storyboard
