import Storyboard.Proofs.Compile.Labels
import Mathlib.Data.List.Basic

/-!
# Targets that lead nowhere

A program lists the targets of its commands that no label has. What is listed are occurrences: a
label, a position among its commands, and a position among the targets of the command there
(`Occurrence`). The list has each occurrence that dangles once, label by label, command by command
and option by option (`Program.exists_occurrences`).
-/

namespace Storyboard

/-- The target of a command at a position: a jump has one target, a choice has one for each of its
options. -/
inductive Command.Leads : Command → Nat → String → Prop
  | jump (target : String) (place : Location) : Leads (.jump target place) 0 target
  | choice {options : List ChoiceOption} {place : Location} {i : Nat} {option : ChoiceOption}
      (h : options[i]? = some option) : Leads (.choice options place) i option.target

theorem Command.leads_iff (command : Command) (i : Nat) (target : String) :
    command.Leads i target ↔ command.targets[i]? = some target := by
  constructor
  · rintro (_ | ⟨h⟩)
    · rfl
    · rw [targets, List.getElem?_map, h]
      rfl
  · intro h
    -- Only jumps and choices have targets.
    cases command with
    | text words place => cases h
    | character id hides layer words place => cases h
    | jump other place =>
      cases i with
      | zero =>
        cases h
        exact .jump target place
      | succ i => cases h
    | choice options place =>
      rw [targets, List.getElem?_map] at h
      obtain ⟨option, hoption, rfl⟩ := Option.map_eq_some_iff.1 h
      exact .choice hoption

/-- A target in a program, with the place where it stands. -/
structure Occurrence where
  /-- The label. -/
  label : String
  /-- The position of the command in the label. -/
  index : Nat
  /-- The position of the target in the command. -/
  option : Nat
  /-- The target. -/
  target : String

namespace Occurrence

/-- The order of occurrences: by label, then by command, then by option. -/
def Precedes (a b : Occurrence) : Prop :=
  a.label < b.label ∨
    a.label = b.label ∧ (a.index < b.index ∨ a.index = b.index ∧ a.option < b.option)

/-- The occurrence is one of the program, and no label has its target. -/
def Dangles (program : Program) (occurrence : Occurrence) : Prop :=
  (∃ label command, program.label? occurrence.label = some label ∧
    label.commands[occurrence.index]? = some command ∧
    command.Leads occurrence.option occurrence.target) ∧
  program.label? occurrence.target = none

end Occurrence

namespace Program

/-- The occurrences that dangle among the targets of a command. -/
def danglingTargets (program : Program) (name : String) (index : Nat) (command : Command) :
    List Occurrence :=
  (command.targets.zipIdx.filter fun target => !program.contains target.1).map fun target =>
    ⟨name, index, target.2, target.1⟩

/-- The occurrences that dangle, in order. -/
def dangling (program : Program) : List Occurrence :=
  program.labels.entries.flatMap fun entry =>
    entry.2.commands.zipIdx.flatMap fun command =>
      program.danglingTargets entry.1 command.2 command.1

theorem pairwise_zipIdx {α : Type} (xs : List α) (n : Nat) :
    (xs.zipIdx n).Pairwise fun a b => a.2 < b.2 := by
  induction xs generalizing n with
  | nil => exact .nil
  | cons x xs ih =>
    exact List.pairwise_cons.2 ⟨fun other hother => List.le_snd_of_mem_zipIdx hother, ih (n + 1)⟩

theorem mem_danglingTargets (program : Program) (name : String) (index : Nat) (command : Command)
    (occurrence : Occurrence) :
    occurrence ∈ program.danglingTargets name index command ↔
      occurrence.label = name ∧ occurrence.index = index ∧
        command.Leads occurrence.option occurrence.target ∧
        program.label? occurrence.target = none := by
  have hmissing : ∀ target, (!program.contains target) = true ↔ program.label? target = none := by
    intro target
    rw [contains, Dict.contains, Bool.not_eq_true', Option.isSome_eq_false_iff,
      Option.isNone_iff_eq_none]
    rfl
  simp only [danglingTargets, List.mem_map, List.mem_filter, List.mem_zipIdx_iff_getElem?,
    Command.leads_iff, hmissing]
  constructor
  · rintro ⟨⟨target, option⟩, ⟨hleads, hnone⟩, rfl⟩
    exact ⟨rfl, rfl, hleads, hnone⟩
  · obtain ⟨label, i, option, target⟩ := occurrence
    rintro ⟨rfl, rfl, hleads, hnone⟩
    exact ⟨(target, option), ⟨hleads, hnone⟩, rfl⟩

theorem mem_dangling (program : Program) (occurrence : Occurrence) :
    occurrence ∈ program.dangling ↔ occurrence.Dangles program := by
  simp only [dangling, List.mem_flatMap, mem_danglingTargets, Prod.exists, Dict.mem_entries_iff,
    List.mem_zipIdx_iff_getElem?]
  constructor
  · rintro ⟨name, label, hlabel, command, index, hcommand, rfl, rfl, hleads, hnone⟩
    exact ⟨⟨label, command, hlabel, hcommand, hleads⟩, hnone⟩
  · rintro ⟨⟨label, command, hlabel, hcommand, hleads⟩, hnone⟩
    exact ⟨_, label, hlabel, command, _, hcommand, rfl, rfl, hleads, hnone⟩

theorem pairwise_dangling (program : Program) :
    program.dangling.Pairwise Occurrence.Precedes := by
  refine List.pairwise_flatMap.2 ⟨fun entry _ => List.pairwise_flatMap.2 ⟨fun command _ => ?_, ?_⟩,
    program.labels.sorted.imp fun hlt a ha b hb => ?_⟩
  -- Within a command the options decide, within a label the commands, and else the labels.
  · rw [danglingTargets, List.pairwise_map]
    exact ((pairwise_zipIdx _ _).filter _).imp fun hlt => .inr ⟨rfl, .inr ⟨rfl, hlt⟩⟩
  · refine (pairwise_zipIdx entry.2.commands 0).imp fun hlt a ha b hb => ?_
    obtain ⟨hlabel, hindex, -⟩ := (mem_danglingTargets ..).1 ha
    obtain ⟨hlabel', hindex', -⟩ := (mem_danglingTargets ..).1 hb
    refine .inr ⟨hlabel.trans hlabel'.symm, .inl ?_⟩
    rwa [hindex, hindex']
  · obtain ⟨first, -, ha⟩ := List.mem_flatMap.1 ha
    obtain ⟨second, -, hb⟩ := List.mem_flatMap.1 hb
    refine .inl ?_
    rwa [((mem_danglingTargets ..).1 ha).1, ((mem_danglingTargets ..).1 hb).1]

theorem map_danglingTargets (program : Program) (name : String) (index : Nat)
    (command : Command) :
    (program.danglingTargets name index command).map (fun o => (o.label, o.target)) =
      (command.targets.filter fun target => !program.contains target).map fun target =>
        (name, target) := by
  have hfilter : command.targets.filter (fun target => !program.contains target) =
      (command.targets.zipIdx.filter fun target => !program.contains target.1).map (·.1) := by
    nth_rewrite 1 [← List.zipIdx_map_fst 0 command.targets]
    rw [List.filter_map]
    rfl
  rw [danglingTargets, List.map_map, hfilter, List.map_map]
  rfl

/-- What is listed are the occurrences that dangle, each as its label and its target. -/
theorem unresolved_eq {program : Program} {P : Command → Prop} (h : program.WellKept P) :
    program.unresolved = program.dangling.map fun o => (o.label, o.target) := by
  rw [unresolved, dangling, List.map_flatMap, Dict.values, List.flatMap_map]
  refine List.flatMap_congr fun entry hentry => ?_
  have hname : entry.2.name = entry.1 :=
    h.named _ _ ((Dict.mem_entries_iff program.labels entry.1 entry.2).1 hentry)
  rw [List.map_flatMap, ← List.zipIdx_map_fst 0 entry.2.commands, List.flatMap_map,
    List.zipIdx_map_fst]
  refine List.flatMap_congr fun command _ => ?_
  rw [map_danglingTargets, hname]

/-- **The list of targets that lead nowhere** has each occurrence of one once, by label, by command
and by option. -/
theorem exists_occurrences {program : Program} {P : Command → Prop} (h : program.WellKept P) :
    ∃ occurrences : List Occurrence,
      program.unresolved = occurrences.map (fun o => (o.label, o.target)) ∧
      occurrences.Pairwise Occurrence.Precedes ∧
      ∀ o, o ∈ occurrences ↔ o.Dangles program :=
  ⟨program.dangling, unresolved_eq h, pairwise_dangling program, mem_dangling program⟩

end Program

end Storyboard
