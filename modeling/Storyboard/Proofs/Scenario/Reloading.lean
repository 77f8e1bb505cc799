import Storyboard.Proofs.Compile.Prepared
import Storyboard.Proofs.Tag.Rendering
import Mathlib.Data.List.Induction

/-!
# A scenario after reloads

A scenario can be loaded from new sources and given new tags, in any order, and sources can fail to
compile. What has become of it in the end does not tell of this: it is a scenario that was compiled
from the last sources that compiled, with all tags registered in their order
(`Scenario.history_collapses_to_last_edition`).

The program, the cast and the markup of a scenario change on different occasions. So the proof keeps
track of the three parts: after any changes, the program and the cast are those of the last good
edition, and the markup is that of all registrations (`Scenario.changed_eq`).
-/

namespace Storyboard

/-! ### Editions and changes -/

/-- What a scenario is loaded from: sources, and what they are compiled by. -/
structure Edition where
  /-- The builders of commands. -/
  factory : Factory
  /-- The words for markers. -/
  options : Options
  /-- The tables. -/
  sources : Sources

namespace Edition

/-- A scenario that is compiled afresh. -/
def compile (edition : Edition) : Compiled Scenario :=
  Scenario.compile edition.factory edition.options edition.sources

/-- The fault that compiling ends with, if any. -/
def fault? (edition : Edition) : Option Fault :=
  match edition.compile.result with
  | .ok _ => none
  | .error fault => some fault

/-- Whether the sources compile. -/
def isGood (edition : Edition) : Bool := edition.fault?.isNone

/-- Why sources do not compile: one of the grids has a fault, or the grids compile and the character
table has one. -/
def Fails (edition : Edition) (fault : Fault) : Prop :=
  let grids := Program.compile edition.factory edition.options edition.sources.grids
  grids.result = .error fault ∨
    ∃ program source, grids.result = .ok program ∧ edition.sources.characters = some source ∧
      (Cast.compile Scenario.characterGrid source).result = .error fault

end Edition

/-- What can be done to a scenario. -/
inductive Change where
  /-- An edition is loaded. -/
  | reload (edition : Edition)
  /-- A tag is given a handler. -/
  | register (tag : String) (handler : Handler Cast)

namespace Change

/-- The tag that is given a handler. -/
def registration? : Change → Option (String × Handler Cast)
  | reload _ => none
  | register tag handler => some (tag, handler)

/-- The edition that is loaded, if it compiles. -/
def goodEdition? : Change → Option Edition
  | reload edition => if edition.isGood then some edition else none
  | register _ _ => none

/-- The tags that are given handlers, in order. -/
def registrations (changes : List Change) : List (String × Handler Cast) :=
  changes.filterMap registration?

/-- The last edition that compiles, or the first one when none is loaded after it. -/
def lastEdition (first : Edition) (changes : List Change) : Edition :=
  (changes.filterMap goodEdition?).getLast?.getD first

end Change

namespace Scenario

/-- The scenario after a change. -/
def change (scenario : Scenario) : Change → Scenario
  | .reload edition => (scenario.reload edition.factory edition.options edition.sources).1
  | .register tag handler => scenario.registerTag tag handler

/-- The scenario after changes, one after another. -/
def changed (scenario : Scenario) (changes : List Change) : Scenario :=
  changes.foldl change scenario

/-- The scenario with handlers given to tags, one after another. -/
def registerAll (scenario : Scenario) (registrations : List (String × Handler Cast)) : Scenario :=
  registrations.foldl (fun scenario registration =>
    scenario.registerTag registration.1 registration.2) scenario

end Scenario

/-- What loading an edition does to a player: it is refused while something is played; else the
whole scenario is exchanged, or the player keeps the one it has. Apart from this there is only what
was noticed. -/
inductive Session.Reloads (session : Session) (options : Options) (sources : Sources) :
    Session × Except Fault Unit → Prop
  | busy (busy : session.stage.status.isIdle = false) :
    Reloads session options sources (session, .error .playerBusy)
  | installed {fresh : Scenario} (idle : session.stage.status.isIdle = true)
    (compiled : (Scenario.compile .builtin options sources).result = .ok fresh)
    (notices : List Notice) :
    Reloads session options sources
      ({ session with scenario := fresh, stage := session.stage.note notices }, .ok ())
  | kept {fault : Fault} (idle : session.stage.status.isIdle = true)
    (compiled : (Scenario.compile .builtin options sources).result = .error fault)
    (notices : List Notice) :
    Reloads session options sources
      ({ session with stage := session.stage.note notices }, .error fault)

/-! ### Good editions and failing ones -/

namespace Edition

variable {edition : Edition} {fault : Fault}

theorem fails_iff :
    edition.Fails fault ↔
      (Scenario.compileSources edition.factory edition.options edition.sources).result =
        .error fault :=
  Scenario.compileSources_eq_error_iff.symm

theorem fault?_eq_some_iff : edition.fault? = some fault ↔ edition.Fails fault := by
  rw [fails_iff, ← Scenario.compile_eq_error_iff]
  change _ ↔ edition.compile.result = .error fault
  unfold fault?
  cases edition.compile.result <;> simp

/-- **An edition is good or it fails.** -/
theorem good_or_fails (edition : Edition) :
    (edition.isGood = true ∧ ∃ program cast,
      (Scenario.compileSources edition.factory edition.options edition.sources).result =
        .ok (program, cast) ∧
      edition.compile.result = .ok (.new program cast)) ∨
    (edition.isGood = false ∧ ∃ fault, edition.Fails fault) := by
  unfold isGood
  cases hfault : edition.fault? with
  | some fault => exact .inr ⟨rfl, fault, fault?_eq_some_iff.1 hfault⟩
  | none =>
    unfold fault? at hfault
    cases hcompile : edition.compile.result with
    | ok scenario =>
      obtain ⟨program, cast, hsources, rfl⟩ := Scenario.compile_eq_ok_iff.1 hcompile
      exact .inl ⟨rfl, program, cast, hsources, rfl⟩
    | error fault =>
      rw [hcompile] at hfault
      cases hfault

end Edition

namespace Change

variable {first edition : Edition} {changes : List Change}

theorem lastEdition_concat_good (h : edition.isGood = true) :
    lastEdition first (changes ++ [reload edition]) = edition := by
  simp [lastEdition, goodEdition?, h]

theorem lastEdition_concat_bad (h : edition.isGood = false) :
    lastEdition first (changes ++ [reload edition]) = lastEdition first changes := by
  simp [lastEdition, goodEdition?, h]

theorem lastEdition_concat_register (tag : String) (handler : Handler Cast) :
    lastEdition first (changes ++ [register tag handler]) = lastEdition first changes := by
  simp [lastEdition, goodEdition?]

theorem registrations_concat_reload :
    registrations (changes ++ [reload edition]) = registrations changes := by
  simp [registrations, registration?]

theorem registrations_concat_register (tag : String) (handler : Handler Cast) :
    registrations (changes ++ [register tag handler]) =
      registrations changes ++ [(tag, handler)] := by
  simp [registrations, registration?]

end Change

theorem Markup.registered_concat {γ : Type} (registrations : List (String × Handler γ))
    (tag : String) (handler : Handler γ) :
    registered (registrations ++ [(tag, handler)]) =
      (registered registrations).register tag handler := by
  simp [registered]

/-! ### One change -/

namespace Scenario

variable {scenario : Scenario} {edition : Edition}

/-- **An edition that fails** changes nothing, and its fault is the answer. -/
theorem reload_of_fails (scenario : Scenario) {fault : Fault} (h : edition.Fails fault) :
    (scenario.reload edition.factory edition.options edition.sources).1 = scenario ∧
      (scenario.reload edition.factory edition.options edition.sources).2.result =
        .error fault := by
  unfold reload
  dsimp only
  rw [Edition.fails_iff.1 h]
  exact ⟨rfl, rfl⟩

/-- **A good edition** brings a program and a cast. The markup stays. -/
theorem reload_of_good (scenario : Scenario) {program : Program} {cast : Cast}
    (h : (compileSources edition.factory edition.options edition.sources).result =
      .ok (program, cast)) :
    (scenario.reload edition.factory edition.options edition.sources).1 =
        ⟨program, cast, scenario.markup⟩ ∧
      (scenario.reload edition.factory edition.options edition.sources).2.result = .ok () := by
  unfold reload
  dsimp only
  rw [h]
  exact ⟨rfl, rfl⟩

/-! ### All changes -/

theorem changed_append (before after : List Change) :
    scenario.changed (before ++ after) = (scenario.changed before).changed after :=
  List.foldl_append

/-- Handlers are given to the tags of a scenario that has only the tag of characters. -/
theorem registerAll_new (program : Program) (cast : Cast)
    (registrations : List (String × Handler Cast)) :
    (new program cast).registerAll registrations =
      ⟨program, cast, .registered ((characterTag, displayName) :: registrations)⟩ := by
  induction registrations using List.reverseRecOn with
  | nil => rfl
  | append_singleton registrations registration ih =>
    obtain ⟨tag, handler⟩ := registration
    have hlast : (new program cast).registerAll (registrations ++ [(tag, handler)]) =
        ((new program cast).registerAll registrations).registerTag tag handler := by
      simp [registerAll]
    rw [hlast, ih, ← List.cons_append, Markup.registered_concat]
    rfl

/-- **The three parts of a scenario after changes**: the program and the cast come from the last
good edition, and the markup from all registrations. -/
theorem changed_eq {first : Edition} (h : first.compile.result = .ok scenario)
    (changes : List Change) :
    ∃ program cast, (Change.lastEdition first changes).compile.result = .ok (new program cast) ∧
      scenario.changed changes = ⟨program, cast,
        .registered ((characterTag, displayName) :: Change.registrations changes)⟩ := by
  -- By induction from the end: the last change meets the scenario of the changes before it.
  induction changes using List.reverseRecOn with
  | nil =>
    obtain ⟨program, cast, -, rfl⟩ := compile_eq_ok_iff.1 h
    exact ⟨program, cast, h, rfl⟩
  | append_singleton changes last ih =>
    obtain ⟨program, cast, hfresh, hchanged⟩ := ih
    rw [changed_append, hchanged]
    cases last with
    | reload edition =>
      rw [Change.registrations_concat_reload]
      rcases edition.good_or_fails with
        ⟨hgood, newer, others, hsources, hcompile⟩ | ⟨hbad, fault, hfails⟩
      · -- A good edition replaces program and cast, and the markup stays.
        rw [Change.lastEdition_concat_good hgood]
        exact ⟨newer, others, hcompile, (reload_of_good _ hsources).1⟩
      · -- A bad one changes none of the three.
        rw [Change.lastEdition_concat_bad hbad]
        exact ⟨program, cast, hfresh, (reload_of_fails _ hfails).1⟩
    | register tag handler =>
      rw [Change.lastEdition_concat_register, Change.registrations_concat_register,
        ← List.cons_append, Markup.registered_concat]
      exact ⟨program, cast, hfresh, rfl⟩

end Scenario

/-- **A player takes over a whole scenario or nothing**, and nothing while it plays. -/
theorem Session.reloads (session : Session) (options : Options) (sources : Sources) :
    session.Reloads options sources (session.reload options sources) := by
  unfold reload
  cases hidle : session.stage.status.isIdle with
  | false => exact .busy hidle
  | true =>
    simp only [Bool.not_true, Bool.false_eq_true, if_false]
    split
    · next fault hfault => exact .kept hidle hfault _
    · next fresh hfresh => exact .installed hidle hfresh _

namespace Scenario

/-- **The history of a scenario collapses to its last good edition.** After any changes to a
scenario that was compiled, it is the scenario that is compiled afresh from the last edition that
compiled, with all handlers that were registered so far registered in the same order; so its
program, its cast, its labels and commands, the sprites that they require and the renderings of
texts are those of that scenario, and the renderings use the cast of the last good edition. An
edition that fails, be it in a grid or only in the character table, leaves the scenario as it is and
can be struck from the history. A player, likewise, takes over a whole scenario or keeps the one it
has, and is refused whenever it is not idle. -/
theorem history_collapses_to_last_edition {first : Edition} {scenario : Scenario}
    (h : first.compile.result = .ok scenario) (changes : List Change) :
    (∃ fresh, (Change.lastEdition first changes).compile.result = .ok fresh ∧
      scenario.changed changes = fresh.registerAll (Change.registrations changes) ∧
      ∀ text, (scenario.changed changes).render text =
        (Markup.registered ((characterTag, displayName) :: Change.registrations changes)).render
          fresh.cast text) ∧
    (∀ before edition after fault, changes = before ++ .reload edition :: after →
      edition.Fails fault →
      let reloaded :=
        (scenario.changed before).reload edition.factory edition.options edition.sources
      reloaded.1 = scenario.changed before ∧ reloaded.2.result = .error fault ∧
        scenario.changed changes = scenario.changed (before ++ after)) ∧
    ∀ (session : Session) (options : Options) (sources : Sources),
      session.Reloads options sources (session.reload options sources) := by
  refine ⟨?_, ?_, Session.reloads⟩
  · obtain ⟨program, cast, hfresh, hchanged⟩ := changed_eq h changes
    refine ⟨new program cast, hfresh, ?_, fun text => ?_⟩
    · rw [hchanged, registerAll_new]
    · rw [hchanged]
      rfl
  · rintro before edition after fault rfl hfails
    obtain ⟨hkept, hanswer⟩ := reload_of_fails (scenario.changed before) hfails
    refine ⟨hkept, hanswer, ?_⟩
    -- What comes after meets the same scenario as if there had been no such edition.
    rw [changed_append, changed_append]
    exact congrArg (·.changed after) hkept

/-- A built-in edition of one grid. -/
def leaflet (grid : String) (characters : Option String) : Edition :=
  ⟨.builtin, {}, ⟨.ofList [("intro", grid)], characters⟩⟩

/-- The second edition stays, although the grids of the third one compile too. -/
theorem leaflet_keeps_second_edition :
    let first := leaflet "Command,Arg1,Text\nLabel,A,\n" none
    let second := leaflet "Command,Arg1,Text\nLabel,B,\n"
      (some "Id,Name,PositionX,PositionY,Scale,Sprite\ne,Eve,0,0,1,\n")
    let third := leaflet "Command,Arg1,Text\nLabel,C,\n" (some "Id,Name\ne,Eve\n")
    let changes := [.register "x" .echo, .reload second, .reload third, .register "y" .echo]
    ∃ scenario fresh, first.compile.result = .ok scenario ∧ second.compile.result = .ok fresh ∧
      scenario.changed changes = fresh.registerAll [("x", .echo), ("y", .echo)] ∧
      let before := scenario.changed [.register "x" .echo, .reload second]
      (before.reload .builtin {} third.sources).1 = before ∧
        (before.reload .builtin {} third.sources).2.result =
          .error (.characterHeaderMissing "characters" Cast.requiredColumns) := by
  intro first second third changes
  have hfirst : first.isGood = true := by decide +kernel
  have hsecond : second.isGood = true := by decide +kernel
  have hthird : third.fault? =
      some (.characterHeaderMissing "characters" Cast.requiredColumns) := by
    decide +kernel
  have hbad : third.isGood = false := by rw [Edition.isGood, hthird]; rfl
  have hlast : Change.lastEdition first changes = second := by
    simp [changes, Change.lastEdition, Change.goodEdition?, List.findSome?, hsecond, hbad]
  rcases first.good_or_fails with ⟨-, program, cast, -, hcompile⟩ | ⟨hnot, -⟩
  · obtain ⟨⟨fresh, hfresh, hchanged, -⟩, hstruck, -⟩ :=
      history_collapses_to_last_edition hcompile changes
    rw [hlast] at hfresh
    obtain ⟨hkept, hanswer, -⟩ := hstruck [.register "x" .echo, .reload second] third
      [.register "y" .echo] _ rfl (Edition.fault?_eq_some_iff.1 hthird)
    exact ⟨_, fresh, hcompile, hfresh, hchanged, hkept, hanswer⟩
  · cases hnot.symm.trans hfirst

end Scenario

end Storyboard
