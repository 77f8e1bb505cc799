import Storyboard.Proofs.Player.Deed
import Mathlib.Tactic.Tauto

/-!
# Sprites that are missing

Which sprites a label requires and which sprites its commands look up is one and the same question.
So while the required assets of a label are resident but for those whose load failed, a command of
the label misses its sprite only if the character has none or its load failed
(`Scenario.lacks_iff`). A missing sprite is noticed, and `Run.absences_carryOut` says which steps of
a run notice one: those that begin a command that shows a character without its sprite. What the
tags of a text notice is up to their handlers and is kept apart (`Scenario.rendered`).
-/

namespace Storyboard

/-! ### What commands look up -/

namespace Scenario

variable (scenario : Scenario)

theorem requiredAssets_sorted (label : String) :
    (scenario.requiredAssets label).Pairwise (· < ·) := Dict.keys_sorted _

theorem mem_requiredAssets (label name : String) :
    name ∈ scenario.requiredAssets label ↔
      ∃ command ∈ scenario.commands label, scenario.requiredSprite? command = some name := by
  rw [requiredAssets, Dict.mem_keys_ofList, List.map_map]
  simp

theorem requiredSprite?_ne_empty {command : Command} {name : String}
    (h : scenario.requiredSprite? command = some name) : name ≠ "" := by
  cases command with
  | character id hides layer words place =>
    simpa using (Option.filter_eq_some_iff.1 h).2
  | _ => cases h

/-- The sprite of a character command is required for its label, unless there is none. -/
theorem sprite_mem_requiredAssets_iff {label id layer : String} {words : Option String}
    {hides : Bool} {place : Location} {character : Character}
    (hcommand : .character id hides layer words place ∈ scenario.commands label)
    (hcharacter : scenario.character? id = some character) :
    character.sprite ∈ scenario.requiredAssets label ↔ character.sprite ≠ "" := by
  rw [mem_requiredAssets]
  constructor
  · rintro ⟨command, -, hsprite⟩
    exact scenario.requiredSprite?_ne_empty hsprite
  · intro hne
    exact ⟨_, hcommand, by simp [requiredSprite?, hcharacter, Option.filter, hne]⟩

/-- **The sprite of a character command is missing** while its label is played exactly if there is
none or its load failed. -/
theorem lacks_iff {depot : Depot} {label id layer : String} {words : Option String}
    {hides : Bool} {place : Location} {character : Character} {failed : List String}
    (hresident : depot.resident.keys = (scenario.requiredAssets label).filter (· ∉ failed))
    (hcommand : .character id hides layer words place ∈ scenario.commands label)
    (hcharacter : scenario.character? id = some character) :
    depot.handle? character.sprite = none ↔
      character.sprite = "" ∨ character.sprite ∈ failed := by
  have hrequired := scenario.sprite_mem_requiredAssets_iff hcommand hcharacter
  have hkeys : (depot.handle? character.sprite).isSome = true ↔
      character.sprite ≠ "" ∧ character.sprite ∉ failed := by
    rw [Depot.handle?, ← Dict.mem_keys_iff, hresident, List.mem_filter, hrequired,
      decide_eq_true_iff]
  rw [← Option.not_isSome_iff_eq_none, hkeys]
  tauto

end Scenario

/-! ### Notices of missing sprites -/

/-- Whether a notice says that a sprite is not resident. -/
def Notice.isSpriteMissing : Notice → Bool
  | spriteMissing _ _ => true
  | _ => false

namespace Scenario

variable (scenario : Scenario)

/-- What is noticed about the sprite of a command that shows a character whose sprite lacks. -/
def lacking (lacks : String → Bool) : Command → List Notice
  | .character id false _ _ place =>
    match scenario.character? id with
    | some character =>
      if lacks character.sprite then [.spriteMissing place character.sprite] else []
    | none => []
  | _ => []

/-- What the tags notice while the texts of a command are rendered. -/
def rendered : Command → List Notice
  | .text words _ => (scenario.render words).notices
  | .character id _ _ words _ =>
    if (scenario.character? id).isSome then
      words.toList.flatMap fun words => (scenario.render words).notices
    else []
  | .jump _ _ => []
  | .choice options _ => options.flatMap fun option => (scenario.render option.text).notices

/-- The notices of missing sprites of a command when these assets are resident. -/
def absences (resident : String → Option Handle) (command : Command) : List Notice :=
  scenario.lacking (fun sprite => (resident sprite).isNone) command ++
    (scenario.rendered command).filter Notice.isSpriteMissing

end Scenario

namespace Stage

/-- The notices of missing sprites so far. -/
def absences (stage : Stage) : List Notice := stage.notices.filter Notice.isSpriteMissing

@[simp] theorem absences_emit (stage : Stage) (event : Event) :
    (stage.emit event).absences = stage.absences := by
  simp [absences, notices, emit]

@[simp] theorem absences_note (stage : Stage) (reported : List Notice) :
    (stage.note reported).absences =
      stage.absences ++ reported.filter Notice.isSpriteMissing := by
  have hnotices : (stage.note reported).notices = stage.notices ++ reported := by
    rw [notices, note, List.filterMap_append, List.filterMap_map]
    exact congrArg (_ ++ ·) List.filterMap_some
  rw [absences, hnotices, List.filter_append]
  rfl

@[simp] theorem absences_emitAll (stage : Stage) (events : List Event) :
    (stage.emitAll events).absences = stage.absences := by
  induction events generalizing stage with
  | nil => rfl
  | cons event rest ih =>
    rw [emitAll, List.foldl_cons, ← emitAll, ih, absences_emit]

theorem absences_note_of_none (stage : Stage) {reported : List Notice}
    (h : ∀ notice ∈ reported, notice.isSpriteMissing = false) :
    (stage.note reported).absences = stage.absences := by
  have hnil : reported.filter Notice.isSpriteMissing = [] :=
    List.filter_eq_nil_iff.2 fun notice hnotice => by simp [h notice hnotice]
  rw [absences_note, hnil, List.append_nil]

theorem absences_onDepot (stage : Stage) (result : Depot × List AssetEvent) :
    (stage.onDepot result).absences = stage.absences :=
  absences_emitAll _ _

end Stage

/-- **What performing a command notices about missing sprites.** -/
theorem Scenario.absences_perform (scenario : Scenario) (stage : Stage) (command : Command) :
    (scenario.perform stage command).1.absences =
      stage.absences ++ scenario.absences stage.depot.handle? command := by
  cases command with
  | text words place => simp [perform, say, Scenario.absences, lacking, rendered]
  | jump target place => simp [perform, Scenario.absences, lacking, rendered]
  | choice options place => simp [perform, Scenario.absences, lacking, rendered]
  | character id hides layer words place =>
    cases hc : scenario.character? id with
    | none =>
      have hnone : scenario.lacking (fun sprite => (stage.depot.handle? sprite).isNone)
          (.character id hides layer words place) = [] := by
        cases hides <;> simp [lacking, hc]
      simp [perform, Scenario.absences, rendered, hc, hnone, Notice.isSpriteMissing]
    | some character =>
      -- The sprite is looked up before the words are said, so its notice comes first.
      have hpresent : (if hides then stage.emit (.hide layer)
            else present character layer place stage).absences =
          stage.absences ++ scenario.lacking (fun sprite => (stage.depot.handle? sprite).isNone)
            (.character id hides layer words place) := by
        cases hides with
        | true => simp [lacking]
        | false =>
          cases hsprite : stage.depot.handle? character.sprite <;>
            simp [present, lacking, hc, hsprite, Notice.isSpriteMissing]
      cases words with
      | none => simp [perform, Scenario.absences, rendered, hc, hpresent]
      | some words => simp [perform, say, Scenario.absences, rendered, hc, hpresent]

/-- What a deed notices about missing sprites. -/
def Deed.absences (scenario : Scenario) (stage : Stage) : Deed → List Notice
  | .begin _ _ _ command => scenario.absences stage.depot.handle? command
  | _ => []

namespace Run

section

variable (scenario : Scenario) (run : Run) (stage : Stage) (label : String) (index : Nat)
  (next : Option String)

theorem absences_arrive (target : String) :
    (run.arrive scenario stage target).stage.absences = stage.absences := by
  refine Stage.absences_note_of_none _ fun notice hnotice => ?_
  obtain ⟨command, -, hnotice⟩ := List.mem_flatMap.1 hnotice
  cases command with
  | character id hides layer words place =>
    simp only [Scenario.spriteNotices] at hnotice
    split at hnotice
    · rw [List.mem_singleton.1 hnotice]
      rfl
    · cases hnotice
  | _ => cases hnotice

theorem absences_complete :
    (complete stage label).stage.absences = stage.absences := by
  change Stage.absences (((stage.withStatus _).emit .finish).note _) = _
  rw [Stage.absences_note, Stage.absences_emit]
  exact List.append_nil _

theorem absences_leave :
    (run.leave scenario stage label next).stage.absences = stage.absences := by
  unfold leave
  split
  · exact absences_complete ..
  · split
    · exact absences_arrive ..
    · refine (absences_complete ..).trans (Stage.absences_note_of_none _ ?_)
      simp [Notice.isSpriteMissing]

theorem absences_approach :
    (run.approach scenario stage label index next).stage.absences = stage.absences := by
  obtain ⟨-, h⟩ | ⟨-, h⟩ := approach_cases scenario run stage label index next
  · rw [h]
    rfl
  · rw [h, absences_leave]

theorem absences_fetch (batch : Batch) {pending : Stage → Run → Progress}
    (hpending : pending = .moved ∨ pending = .waiting) :
    (run.fetch scenario stage label batch pending).stage.absences = stage.absences := by
  unfold fetch
  split
  · rw [enter, absences_approach, Stage.absences_note]
    refine (List.append_nil _).trans (Stage.absences_note_of_none _ fun notice hnotice => ?_)
    obtain ⟨load, -, hnotice⟩ := List.mem_flatMap.1 hnotice
    split at hnotice
    · rw [List.mem_singleton.1 hnotice]
      rfl
    · cases hnotice
  · obtain rfl | rfl := hpending <;> rfl

theorem absences_takeSignals : (takeSignals stage).absences = stage.absences := by
  unfold takeSignals
  split
  · rfl
  · exact Stage.absences_note_of_none _ (by simp [Notice.isSpriteMissing])

theorem absences_takeAnswers (targets : List String) :
    (takeAnswers stage targets).absences = stage.absences := by
  refine (Stage.absences_note_of_none _ fun notice hnotice => ?_).trans
    (absences_takeSignals stage)
  obtain ⟨answer, -, rfl⟩ := List.mem_map.1 hnotice
  rfl

theorem absences_begin (command : Command) :
    (run.begin scenario stage label index next command).stage.absences =
      stage.absences ++ scenario.absences stage.depot.handle? command := by
  have hperformed : (performed scenario stage index command).absences =
      stage.absences ++ scenario.absences stage.depot.handle? command :=
    scenario.absences_perform _ command
  rw [begin_eq, ← hperformed]
  cases scenario.flow command with
  | proceed => exact absences_approach ..
  | goto target => exact absences_approach ..
  | awaitLine => rfl
  | awaitSelection targets => rfl

/-- **What a step notices about missing sprites** is what its deed notices. -/
theorem absences_carryOut (deed : Deed) :
    (run.carryOut scenario stage deed).stage.absences =
      stage.absences ++ deed.absences scenario stage := by
  -- Only a command that begins can miss a sprite; the other notices are about something else.
  have hnote : ∀ notice : Notice, notice.isSpriteMissing = false →
      (stage.note [notice]).absences = stage.absences := fun notice h =>
    stage.absences_note_of_none (by simp [h])
  cases deed with
  | begin label index next command => exact absences_begin ..
  | refuse => exact (hnote _ rfl).trans (List.append_nil _).symm
  | halt => exact (hnote _ rfl).trans (List.append_nil _).symm
  | start =>
    refine (Stage.absences_emit _ _).trans ?_
    exact (hnote _ rfl).trans (List.append_nil _).symm
  | hold => exact (List.append_nil _).symm
  | arrive label => exact (absences_arrive ..).trans (List.append_nil _).symm
  | reconcile label required =>
    refine (absences_fetch _ _ _ _ _ (.inl rfl)).trans ?_
    exact (Stage.absences_onDepot _ _).trans (List.append_nil _).symm
  | resume label batch =>
    exact (absences_fetch _ _ _ _ _ (.inr rfl)).trans (List.append_nil _).symm
  | leave label next => exact (absences_leave ..).trans (List.append_nil _).symm
  | listen => exact (absences_takeSignals stage).trans (List.append_nil _).symm
  | advance label index next =>
    refine (absences_approach ..).trans ?_
    exact (absences_takeSignals stage).trans (List.append_nil _).symm
  | ask targets => exact (absences_takeAnswers stage targets).trans (List.append_nil _).symm
  | choose label index targets answer =>
    refine (absences_approach ..).trans ?_
    exact (absences_takeAnswers stage targets).trans (List.append_nil _).symm

end

end Run

end Storyboard
