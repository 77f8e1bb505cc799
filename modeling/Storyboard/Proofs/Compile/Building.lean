import Storyboard.Compile.Factory

/-!
# What the built-in commands are made of

A built-in opcode makes one kind of command, and refuses a row that lacks what the command needs. So
a command that was built says where it comes from: it has the place of its row
(`Factory.place_of_build`), and what it names is trimmed and there (`Factory.wellFormed_build`). A
row that is refused is told by its place as well, or by the place of the cell that its header puts
under the column of the fault (`Factory.isAbout_of_build`).
-/

namespace Storyboard

/-- A text that is not empty and has no blanks around it. -/
def Text.IsTidy (s : String) : Prop := s ≠ "" ∧ Text.trim s = s

/-- A command that names what it needs. -/
def Command.WellFormed : Command → Prop
  | .text _ _ => True
  | .character id _ layer words _ =>
    Text.IsTidy id ∧ Text.IsTidy layer ∧ ∀ line, words = some line → Text.isBlankText line = false
  | .jump target _ => Text.IsTidy target
  | .choice options _ => options ≠ [] ∧
    ∀ option ∈ options, Text.IsTidy option.target ∧ Text.trim option.text = option.text

/-- The column that the wording of a fault names as the place to look at. -/
def Fault.column? : Fault → Option String
  | .argumentMissing _ _ column _ => some column
  | .numberInvalid column _ _ => some column
  | _ => none

/-- A fault is about an entry: it has the place of its row, or of the cell of its row under the
column of the fault. -/
structure Fault.IsAbout (fault : Fault) (entry : Entry) : Prop where
  /-- The place is a cell when the header has the column. -/
  place : fault.place? = some (entry.place.atColumn? (fault.column?.bind entry.header.index?))
  /-- The column has a name. -/
  named : fault.column? ≠ some ""

/-- A fault without a column is about the entry whose place it has. -/
theorem Fault.isAbout_of_place {fault : Fault} {entry : Entry} (hcolumn : fault.column? = none)
    (hplace : fault.place? = some entry.place) : fault.IsAbout entry where
  place := by
    rw [hcolumn, hplace]
    rfl
  named := by
    rw [hcolumn]
    exact nofun

/-! ### Arguments -/

theorem Header.argColumn_ne_empty (n : Nat) : Header.argColumn n ≠ "" := by
  intro h
  have hlength : Header.argStem.length + (toString n).length = "".length := by
    rw [← String.length_append]
    exact congrArg String.length h
  have hstem : Header.argStem.length = 3 := rfl
  have hempty : "".length = 0 := rfl
  omega

namespace Entry

variable {entry : Entry}

/-- **An argument that is there is tidy.** -/
theorem isTidy_arg {n : Nat} (h : entry.arg n ≠ "") : Text.IsTidy (entry.arg n) :=
  ⟨h, Text.trim_trim _⟩

theorem isAbout_of_requiredArg {n : Nat} {what : String} {fault : Fault}
    (h : entry.requiredArg n what = .error fault) : fault.IsAbout entry := by
  unfold requiredArg at h
  split at h
  · cases h
    exact ⟨rfl, fun hname => Header.argColumn_ne_empty n (Option.some.inj hname)⟩
  · cases h

theorem isBlankText_of_spoken? {line : String} (h : entry.spoken? = some line) :
    Text.isBlankText line = false := by
  unfold spoken? at h
  split at h
  · cases h
  · next hblank =>
    cases h
    simpa using hblank

theorem isTidy_of_mem_choiceTargets {target : String} (h : target ∈ entry.choiceTargets) :
    Text.IsTidy target := by
  obtain ⟨hcell, hne⟩ := List.mem_filter.1 h
  obtain ⟨column, -, rfl⟩ := List.mem_map.1 hcell
  exact ⟨by simpa using hne, Text.trim_trim _⟩

theorem trim_of_mem_choiceCaptions {caption : String} (h : caption ∈ entry.choiceCaptions) :
    Text.trim caption = caption := by
  unfold choiceCaptions at h
  split at h
  · cases h
  · obtain ⟨part, -, rfl⟩ := List.mem_map.1 h
    have htrim := Text.trim_trim (String.ofList part)
    simpa only [Text.trim, String.toList_ofList] using htrim

end Entry

/-! ### Built commands -/

namespace Builder

variable {entry : Entry} {command : Command}

theorem character_eq_ok_iff :
    character entry = .ok command ↔ entry.arg 1 ≠ "" ∧ entry.arg 3 ≠ "" ∧
      command = .character (entry.arg 1) (decide (entry.arg 2 = entry.options.hideMarker))
        (entry.arg 3) entry.spoken? entry.place := by
  unfold character Entry.requiredArg
  by_cases hid : entry.arg 1 = ""
  · simp [hid, bind, Except.bind]
  · by_cases hlayer : entry.arg 3 = ""
    · simp [hid, hlayer, bind, Except.bind]
    · simp [hid, hlayer, bind, Except.bind, pure, Except.pure, eq_comm]

theorem jump_eq_ok_iff :
    jump entry = .ok command ↔
      entry.arg 1 ≠ "" ∧ command = .jump (entry.arg 1) entry.place := by
  unfold jump Entry.requiredArg
  by_cases htarget : entry.arg 1 = ""
  · simp [htarget, bind, Except.bind]
  · simp [htarget, bind, Except.bind, pure, Except.pure, eq_comm]

theorem choice_eq_ok_iff :
    choice entry = .ok command ↔
      entry.choiceTargets ≠ [] ∧ entry.choiceTargets.length = entry.choiceCaptions.length ∧
        command = .choice (List.zipWith ChoiceOption.mk entry.choiceCaptions entry.choiceTargets)
          entry.place := by
  unfold choice
  by_cases htargets : entry.choiceTargets = []
  · simp [htargets]
  · by_cases hlength : entry.choiceTargets.length = entry.choiceCaptions.length
    · simp [htargets, hlength, eq_comm]
    · simp [htargets, hlength]

theorem character_eq_error {fault : Fault} (h : character entry = .error fault) :
    entry.requiredArg 1 "a character id" = .error fault ∨
      entry.requiredArg 3 "a layer name" = .error fault := by
  unfold character at h
  -- The id is asked for before the layer; nothing else can be missing.
  cases hid : entry.requiredArg 1 "a character id" with
  | error missing =>
    rw [hid] at h
    cases h
    exact .inl rfl
  | ok id =>
    cases hlayer : entry.requiredArg 3 "a layer name" with
    | error missing =>
      rw [hid, hlayer] at h
      cases h
      exact .inr rfl
    | ok layer =>
      rw [hid, hlayer] at h
      cases h

theorem jump_eq_error {fault : Fault} (h : jump entry = .error fault) :
    entry.requiredArg 1 "a target label" = .error fault := by
  unfold jump at h
  cases htarget : entry.requiredArg 1 "a target label" with
  | error missing =>
    rw [htarget] at h
    cases h
    rfl
  | ok target =>
    rw [htarget] at h
    cases h

theorem choice_eq_error {fault : Fault} (h : choice entry = .error fault) :
    fault = .choiceEmpty entry.place ∨
      ∃ targets captions, fault = .choiceMismatch targets captions entry.place := by
  unfold choice at h
  dsimp only at h
  split at h
  · cases h
    exact .inl rfl
  split at h
  · cases h
    exact .inr ⟨_, _, rfl⟩
  · cases h

end Builder

namespace Factory

theorem builder_of_builtin {opcode : String} {builder : Builder}
    (h : builtin.builders.find? opcode = some builder) :
    builder = .text ∨ builder = .character ∨ builder = .jump ∨ builder = .choice := by
  simp only [builtin, register, empty, Dict.find?_insert, Dict.find?_empty] at h
  split at h
  · exact .inr (.inr (.inr (Option.some.inj h).symm))
  split at h
  · exact .inr (.inr (.inl (Option.some.inj h).symm))
  split at h
  · exact .inr (.inl (Option.some.inj h).symm)
  split at h
  · exact .inl (Option.some.inj h).symm
  · cases h

variable {opcode : String} {entry : Entry} {command : Command}

/-- A row is built by one of the built-in builders. -/
theorem exists_builder_of_build (h : builtin.build opcode entry = .ok command) :
    Builder.text entry = .ok command ∨ Builder.character entry = .ok command ∨
      Builder.jump entry = .ok command ∨ Builder.choice entry = .ok command := by
  unfold build at h
  split at h
  · -- A row without an opcode is a line of narration, or refused.
    split at h
    · cases h
    · exact .inl h
  split at h
  · next builder hbuilder =>
    rcases builder_of_builtin hbuilder with rfl | rfl | rfl | rfl
    · exact .inl h
    · exact .inr (.inl h)
    · exact .inr (.inr (.inl h))
    · exact .inr (.inr (.inr h))
  · cases h

/-- **A command has the place of the row that it was built of.** -/
theorem place_of_build (h : builtin.build opcode entry = .ok command) :
    command.place = entry.place := by
  rcases exists_builder_of_build h with h | h | h | h
  · cases h
    rfl
  · obtain ⟨-, -, rfl⟩ := Builder.character_eq_ok_iff.1 h
    rfl
  · obtain ⟨-, rfl⟩ := Builder.jump_eq_ok_iff.1 h
    rfl
  · obtain ⟨-, -, rfl⟩ := Builder.choice_eq_ok_iff.1 h
    rfl

/-- **A fault of a built-in command** is about its row. -/
theorem isAbout_of_build {fault : Fault} (h : builtin.build opcode entry = .error fault) :
    fault.IsAbout entry := by
  unfold build at h
  split at h
  · split at h
    · cases h
      exact Fault.isAbout_of_place rfl rfl
    · cases h
  split at h
  · next builder hbuilder =>
    -- A builder complains about a cell that it requires, or about the row as a whole.
    rcases builder_of_builtin hbuilder with rfl | rfl | rfl | rfl
    · cases h
    · rcases Builder.character_eq_error h with h | h <;> exact Entry.isAbout_of_requiredArg h
    · exact Entry.isAbout_of_requiredArg (Builder.jump_eq_error h)
    · rcases Builder.choice_eq_error h with rfl | ⟨targets, captions, rfl⟩ <;>
        exact Fault.isAbout_of_place rfl rfl
  · cases h
    exact Fault.isAbout_of_place rfl rfl

/-- The options of a choice pair captions with targets. -/
theorem mem_of_mem_zipWith_mk {captions targets : List String} {option : ChoiceOption}
    (h : option ∈ List.zipWith ChoiceOption.mk captions targets) :
    option.text ∈ captions ∧ option.target ∈ targets := by
  rw [← List.map_uncurry_zip_eq_zipWith] at h
  obtain ⟨⟨caption, target⟩, hpair, rfl⟩ := List.mem_map.1 h
  exact List.of_mem_zip hpair

/-- **A command that was built is well formed.** -/
theorem wellFormed_build (h : builtin.build opcode entry = .ok command) : command.WellFormed := by
  rcases exists_builder_of_build h with h | h | h | h
  · cases h
    trivial
  · obtain ⟨hid, hlayer, rfl⟩ := Builder.character_eq_ok_iff.1 h
    exact ⟨Entry.isTidy_arg hid, Entry.isTidy_arg hlayer, fun _ => Entry.isBlankText_of_spoken?⟩
  · obtain ⟨htarget, rfl⟩ := Builder.jump_eq_ok_iff.1 h
    exact Entry.isTidy_arg htarget
  · obtain ⟨htargets, hlength, rfl⟩ := Builder.choice_eq_ok_iff.1 h
    refine ⟨?_, fun option hoption => ?_⟩
    · -- There are as many options as targets, and those are not empty.
      have hcount : (List.zipWith ChoiceOption.mk entry.choiceCaptions
          entry.choiceTargets).length = entry.choiceTargets.length := by
        rw [List.length_zipWith, ← hlength, Nat.min_self]
      apply List.ne_nil_of_length_pos
      rw [hcount]
      exact List.length_pos_iff.2 htargets
    · obtain ⟨hcaption, htarget⟩ := mem_of_mem_zipWith_mk hoption
      exact ⟨Entry.isTidy_of_mem_choiceTargets htarget, Entry.trim_of_mem_choiceCaptions hcaption⟩

end Factory

end Storyboard
