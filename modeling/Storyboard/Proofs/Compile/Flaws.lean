import Storyboard.Proofs.Compile.Building
import Storyboard.Proofs.Compile.Order
import Mathlib.Data.List.Induction

/-!
# Which flaw of a grid is reported

An entry can be flawed by itself: a label without a name, a command that cannot be built, a command
below no label. Such a *defect* shows when the row is read. A label can also *clash*, with a label
of the program or with one above it in the grid. This shows only when the label is closed, and that
is at the next row that opens a label, after the name of that row was looked at, or at the end of
the grid.

A grid compiles exactly when no entry is flawed. Otherwise the first flawed entry is reported,
unless it is a label that clashes and some row down to the next label, that one included, has a
defect: then the first such row is reported in its place (`Program.addGrid_reports_first_flaw`). So
it is not always the first flawed row that is reported (`Program.twinLabels_report_later_row`).
-/

namespace Storyboard

/-! ### Flaws -/

namespace Entry

/-- What is wrong with an entry by itself, below others. It shows when the row is read. -/
def defect? (factory : Factory) (above : List Entry) (entry : Entry) : Option Fault :=
  if entry.isLabel then
    if entry.arg 1 = "" then some (.labelUnnamed entry.place) else none
  else
    match entry.build factory with
    | .error fault => some fault
    | .ok command =>
      -- A command is built before it is asked where it belongs.
      if above.any isLabel then none else some (.commandOutsideLabel command.opcode entry.place)

/-- What is wrong with a label whose name is taken, in the program or above it in the grid. -/
def clash? (program : Program) (above : List Entry) (entry : Entry) : Option Fault :=
  if entry.isLabel then
    match program.label? (entry.arg 1) with
    | some label => some (.labelRepeated (entry.arg 1) entry.place label.grid)
    | none =>
      if entry.arg 1 ∈ labelNames above then
        some (.labelRepeated (entry.arg 1) entry.place entry.place.grid)
      else none
  else none

/-- What is wrong with an entry below others. -/
def flaw? (factory : Factory) (program : Program) (above : List Entry) (entry : Entry) :
    Option Fault :=
  (entry.defect? factory above).or (entry.clash? program above)

/-- No entry is flawed, each seen below those above it. -/
def Flawless (factory : Factory) (program : Program) (entries : List Entry) : Prop :=
  ∀ above entry below, entries = above ++ entry :: below → entry.flaw? factory program above = none

/-- The entries down to the next label, that one included. -/
def reach (entries : List Entry) : List Entry := segment entries ++ (entries.find? isLabel).toList

section

variable {factory : Factory} {program : Program} {above entries : List Entry} {entry : Entry}

theorem labelNames_append (above below : List Entry) :
    labelNames (above ++ below) = labelNames above ++ labelNames below := by
  simp [labelNames]

theorem reach_cons_label (h : entry.isLabel = true) : reach (entry :: entries) = [entry] := by
  simp [reach, segment_cons_label h, h]

theorem reach_cons_command (h : entry.isLabel = false) :
    reach (entry :: entries) = entry :: reach entries := by
  simp [reach, segment_cons_command h, h]

/-! ### Flaws of labels and of commands -/

theorem defect?_label (h : entry.isLabel = true) :
    entry.defect? factory above =
      if entry.arg 1 = "" then some (.labelUnnamed entry.place) else none := by
  rw [defect?, if_pos h]

theorem defect?_unbuilt {fault : Fault} (h : entry.isLabel = false)
    (hbuild : entry.build factory = .error fault) : entry.defect? factory above = some fault := by
  simp [defect?, h, hbuild]

theorem defect?_built {command : Command} (h : entry.isLabel = false)
    (hbuild : entry.build factory = .ok command) :
    entry.defect? factory above =
      if above.any isLabel then none
      else some (.commandOutsideLabel command.opcode entry.place) := by
  simp [defect?, h, hbuild]

theorem clash?_command (h : entry.isLabel = false) : entry.clash? program above = none := by
  simp [clash?, h]

theorem clash?_eq_none_iff (h : entry.isLabel = true) :
    entry.clash? program above = none ↔
      program.label? (entry.arg 1) = none ∧ entry.arg 1 ∉ labelNames above := by
  rw [clash?, if_pos h]
  cases program.label? (entry.arg 1) <;> simp

theorem flaw?_label_eq_none_iff (h : entry.isLabel = true) :
    entry.flaw? factory program above = none ↔ entry.arg 1 ≠ "" ∧
      program.label? (entry.arg 1) = none ∧ entry.arg 1 ∉ labelNames above := by
  rw [flaw?, Option.or_eq_none_iff, defect?_label h, clash?_eq_none_iff h]
  by_cases hname : entry.arg 1 = "" <;> simp [hname]

theorem flaw?_command_eq_none_iff (h : entry.isLabel = false) :
    entry.flaw? factory program above = none ↔
      (∃ command, entry.build factory = .ok command) ∧ ∃ label ∈ above, label.isLabel = true := by
  rw [flaw?, clash?_command h, Option.or_none, ← List.any_eq_true]
  cases hbuild : entry.build factory with
  | error fault => simp [defect?_unbuilt h hbuild]
  | ok command => simp [defect?_built h hbuild]

/-! ### Entries without a flaw -/

theorem flawless_nil : Flawless factory program [] := by
  intro above entry below hsplit
  cases above <;> cases hsplit

/-- The entries above others have the flaws that they have without them. -/
theorem Flawless.of_append {below : List Entry} (h : Flawless factory program (above ++ below)) :
    Flawless factory program above := by
  intro before entry after hsplit
  apply h before entry (after ++ below)
  rw [hsplit, List.append_assoc, List.cons_append]

theorem flawless_concat :
    Flawless factory program (above ++ [entry]) ↔
      Flawless factory program above ∧ entry.flaw? factory program above = none := by
  constructor
  · intro h
    exact ⟨h.of_append, h above entry [] rfl⟩
  · rintro ⟨habove, hentry⟩ before other after hsplit
    rcases List.eq_nil_or_concat after with rfl | ⟨after, last, rfl⟩
    · obtain ⟨rfl, hlast⟩ := List.append_inj' hsplit rfl
      obtain rfl : entry = other := List.singleton_inj.1 hlast
      exact hentry
    · -- The last entry is not the one in question, so it can be taken away on both sides.
      have hshift : above ++ [entry] = (before ++ other :: after) ++ [last] := by
        rw [hsplit, List.concat_eq_append, List.append_assoc, List.cons_append]
      exact habove before other after (List.append_inj' hshift rfl).1

theorem Flawless.nodup_labelNames (h : Flawless factory program entries) :
    (labelNames entries).Nodup := by
  -- By induction from the end: a flaw looks at the entries above, so the last entry decides.
  induction entries using List.reverseRecOn with
  | nil => exact List.nodup_nil
  | append_singleton above entry ih =>
    obtain ⟨habove, hentry⟩ := flawless_concat.1 h
    rw [labelNames_append]
    cases hlabel : entry.isLabel with
    | true =>
      obtain ⟨-, -, hnew⟩ := (flaw?_label_eq_none_iff hlabel).1 hentry
      have hlast : labelNames [entry] = [entry.arg 1] := labelNames_cons_label hlabel
      rw [hlast, List.nodup_append]
      refine ⟨ih habove, by simp, ?_⟩
      rintro name hname other hother rfl
      apply hnew
      rwa [← List.mem_singleton.1 hother]
    | false =>
      have hlast : labelNames [entry] = [] := labelNames_cons_command hlabel
      rw [hlast, List.append_nil]
      exact ih habove

/-- **Entries can be compiled exactly when none of them is flawed.** -/
theorem compilable_iff_flawless :
    Compilable factory program entries ↔ Flawless factory program entries := by
  constructor
  · rintro h above entry below rfl
    have hmem : entry ∈ above ++ entry :: below := List.mem_append_right _ List.mem_cons_self
    -- A label is checked for its name and against the labels above it, a command by building it.
    cases hlabel : entry.isLabel with
    | true =>
      have hnames : labelNames (above ++ entry :: below) =
          labelNames above ++ entry.arg 1 :: labelNames below := by
        rw [labelNames_append, labelNames_cons_label hlabel]
      have hfresh := h.fresh (entry.arg 1) (by simp [hnames])
      have hdistinct := h.distinct
      rw [hnames] at hdistinct
      have hnew : entry.arg 1 ∉ labelNames above := fun hname =>
        (List.nodup_append.1 hdistinct).2.2 _ hname _ List.mem_cons_self rfl
      exact (flaw?_label_eq_none_iff hlabel).2 ⟨h.named entry hmem hlabel, hfresh, hnew⟩
    | false =>
      have hbuilt := h.built entry hmem hlabel
      exact (flaw?_command_eq_none_iff hlabel).2 ⟨hbuilt, h.labelled above entry below rfl hlabel⟩
  · -- Each condition on the entries is what one kind of entry needs to have no flaw.
    intro h
    refine ⟨fun entry hentry hlabel => ?_, fun entry hentry hlabel => ?_,
      fun above entry below hsplit hlabel => ?_, h.nodup_labelNames, fun name hname => ?_⟩
    · obtain ⟨above, below, hsplit⟩ := List.append_of_mem hentry
      exact ((flaw?_label_eq_none_iff hlabel).1 (h above entry below hsplit)).1
    · obtain ⟨above, below, hsplit⟩ := List.append_of_mem hentry
      exact ((flaw?_command_eq_none_iff hlabel).1 (h above entry below hsplit)).1
    · exact ((flaw?_command_eq_none_iff hlabel).1 (h above entry below hsplit)).2
    · obtain ⟨above, label, below, hsplit, hlabel, rfl⟩ := exists_label_of_mem hname
      exact ((flaw?_label_eq_none_iff hlabel).1 (h above label below hsplit)).2.1

/-- Below entries without a flaw and without a label there is nothing above. -/
theorem Flawless.eq_nil_of_any (h : Flawless factory program entries)
    (hlabels : entries.any isLabel = false) : entries = [] := by
  cases entries with
  | nil => rfl
  | cons entry rest =>
    have hentry : entry.isLabel = false := by
      rw [List.any_cons, Bool.or_eq_false_iff] at hlabels
      exact hlabels.1
    obtain ⟨-, label, hlabel, -⟩ := (flaw?_command_eq_none_iff hentry).1 (h [] entry rest rfl)
    cases hlabel

end

/-- **A flaw is about its row.** -/
theorem isAbout_of_flaw? {program : Program} {above : List Entry} {entry : Entry} {fault : Fault}
    (h : entry.flaw? .builtin program above = some fault) : fault.IsAbout entry := by
  rcases Option.or_eq_some_iff.1 h with hdefect | ⟨-, hclash⟩
  · -- An unnamed label, a row that cannot be built, or a command below no label.
    unfold defect? at hdefect
    split at hdefect
    · split at hdefect
      · cases hdefect
        exact Fault.isAbout_of_place rfl rfl
      · cases hdefect
    · split at hdefect
      · next hbuild =>
        cases hdefect
        exact Factory.isAbout_of_build hbuild
      · split at hdefect
        · cases hdefect
        · cases hdefect
          exact Fault.isAbout_of_place rfl rfl
  · -- A label whose name is taken, in the program or above in the grid.
    unfold clash? at hclash
    split at hclash
    · split at hclash
      · cases hclash
        exact Fault.isAbout_of_place rfl rfl
      · split at hclash
        · cases hclash
          exact Fault.isAbout_of_place rfl rfl
        · cases hclash
    · cases hclash

/-- A flaw has the place of its row, or of one of the cells of the row. -/
theorem place?_of_flaw? {program : Program} {above : List Entry} {entry : Entry} {fault : Fault}
    (h : entry.flaw? .builtin program above = some fault) :
    ∃ column?, fault.place? = some (entry.place.atColumn? column?) :=
  ⟨_, (isAbout_of_flaw? h).place⟩

end Entry

/-! ### How a flaw is met -/

namespace Program

variable {factory : Factory}

/-- **A label closes what is above it** as the end of a grid would, and the entries below it are
compiled into what that leaves. -/
theorem addEntries_append_label {label : Entry} (h : label.isLabel = true)
    (hname : label.arg 1 ≠ "") (above below : List Entry) (current : Option OpenLabel)
    (program : Program) :
    addEntries factory current program (above ++ label :: below) =
      match addEntries factory current program above with
      | .error fault => .error fault
      | .ok after =>
        addEntries factory (some ⟨⟨label.arg 1, label.place.grid, []⟩, label.place⟩) after
          below := by
  induction above generalizing current program with
  | nil =>
    -- Where the entries above are used up, the label row closes just as their end does.
    rw [List.nil_append, addEntries, addEntries, Pass.entry, if_pos (of_decide_eq_true h),
      Pass.openLabel, if_neg hname]
    cases Pass.close ⟨none, current, program⟩ <;> rfl
  | cons first rest ih =>
    rw [List.cons_append, addEntries, addEntries]
    cases Pass.entry factory ⟨none, current, program⟩ first with
    | error fault => rfl
    | ok pass => exact ih pass.current pass.program

/-- Below entries that can be read, an entry that is refused in every state is reported. -/
theorem addEntries_append_of_refused {entry : Entry} {fault : Fault}
    (hentry : ∀ pass : Pass, pass.entry factory entry = .error fault) (below : List Entry)
    {above : List Entry} {current : Option OpenLabel} {program after : Program}
    (h : addEntries factory current program above = .ok after) :
    addEntries factory current program (above ++ entry :: below) = .error fault := by
  induction above generalizing current program with
  | nil => rw [List.nil_append, addEntries, hentry]
  | cons first rest ih =>
    rw [addEntries] at h
    rw [List.cons_append, addEntries]
    cases hfirst : Pass.entry factory ⟨none, current, program⟩ first with
    | error other =>
      rw [hfirst] at h
      cases h
    | ok pass =>
      rw [hfirst] at h
      exact ih h

/-- **Behind an open label whose name is taken**, the first defect down to the next label is
reported, and the label itself only when there is none. -/
theorem addEntries_of_taken {above : List Entry} (habove : above.any Entry.isLabel = true)
    (entries : List Entry) (opened : OpenLabel) {program : Program} {existing : Label}
    (h : program.label? opened.label.name = some existing) :
    addEntries factory (some opened) program entries =
      .error (((Entry.reach entries).findSome? (Entry.defect? factory above)).getD
        (.labelRepeated opened.label.name opened.place existing.grid)) := by
  have hclose : Pass.close ⟨none, some opened, program⟩ =
      .error (.labelRepeated opened.label.name opened.place existing.grid) := by
    simp only [Pass.close, add, h]
  induction entries generalizing opened with
  | nil => exact hclose
  | cons entry rest ih =>
    rw [addEntries, Pass.entry]
    cases hlabel : entry.isLabel with
    | true =>
      -- The name of the row that closes the label is looked at before the label is closed.
      rw [if_pos (of_decide_eq_true hlabel), Pass.openLabel, Entry.reach_cons_label hlabel,
        List.findSome?_singleton, Entry.defect?_label hlabel]
      by_cases hname : entry.arg 1 = ""
      · rw [if_pos hname, if_pos hname]
        rfl
      · rw [if_neg hname, if_neg hname, hclose]
        rfl
    | false =>
      rw [if_neg (of_decide_eq_false hlabel), Entry.reach_cons_command hlabel, List.findSome?_cons]
      have hbuild : factory.build entry.opcode entry = entry.build factory := rfl
      cases hcommand : entry.build factory with
      | error fault =>
        rw [hbuild, hcommand, Entry.defect?_unbuilt hlabel hcommand]
        rfl
      | ok command =>
        rw [hbuild, hcommand, Entry.defect?_built hlabel hcommand, if_pos habove]
        -- The label goes on with its command, under the same name and place.
        apply ih { opened with label.commands := opened.label.commands ++ [command] } h
        simp only [Pass.close, add, h]

/-- A defect is reported as soon as its row is read. -/
theorem addEntries_of_defect {above below : List Entry} {entry : Entry} {program after : Program}
    {fault : Fault} (habove : Entry.Flawless factory program above)
    (hafter : addEntries factory none program above = .ok after)
    (h : entry.defect? factory above = some fault) :
    addEntries factory none program (above ++ entry :: below) = .error fault := by
  cases hlabel : entry.isLabel with
  | true =>
    -- A label without a name is refused whatever the state is.
    rw [Entry.defect?_label hlabel] at h
    split at h
    · next hname =>
      cases h
      refine addEntries_append_of_refused (fun pass => ?_) below hafter
      rw [Pass.entry, if_pos (of_decide_eq_true hlabel), Pass.openLabel, if_pos hname]
    · cases h
  | false =>
    cases hcommand : entry.build factory with
    | error other =>
      rw [Entry.defect?_unbuilt hlabel hcommand] at h
      cases h
      refine addEntries_append_of_refused (fun pass => ?_) below hafter
      have hbuild : factory.build entry.opcode entry = .error fault := hcommand
      rw [Pass.entry, if_neg (of_decide_eq_false hlabel), hbuild]
    | ok command =>
      rw [Entry.defect?_built hlabel hcommand] at h
      split at h
      · cases h
      · next hany =>
        cases h
        -- What stands below no label is the first entry of all.
        obtain rfl : above = [] := habove.eq_nil_of_any (by simpa using hany)
        have hbuild : factory.build entry.opcode entry = .ok command := hcommand
        rw [List.nil_append, addEntries, Pass.entry, if_neg (of_decide_eq_false hlabel), hbuild]
        rfl

/-- A label that clashes is reported with the grid of the label that has its name. -/
theorem exists_of_clash? {grid : String} {above : List Entry} {label : Entry}
    {program after : Program} {fault : Fault}
    (hsegmented : Entry.Segmented factory grid above program after)
    (hgrid : label.place.grid = grid) (hfresh : ∀ name ∈ Entry.labelNames above,
      program.label? name = none)
    (h : label.clash? program above = some fault) :
    ∃ existing, after.label? (label.arg 1) = some existing ∧
      fault = .labelRepeated (label.arg 1) label.place existing.grid := by
  unfold Entry.clash? at h
  split at h
  · by_cases hname : label.arg 1 ∈ Entry.labelNames above
    · rw [hfresh _ hname, if_pos hname] at h
      cases h
      -- The name is taken by a label above in the same grid, which has been added by then.
      obtain ⟨before, other, behind, hsplit, hother, hsame⟩ := Entry.exists_label_of_mem hname
      obtain ⟨commands, -, hfound⟩ := hsegmented.segment before other behind hsplit hother
      rw [hsame] at hfound
      exact ⟨_, hfound, by rw [hgrid]⟩
    · -- The name is not among those above, so the program had it from before.
      rw [hsegmented.other _ hname]
      cases hprogram : program.label? (label.arg 1) with
      | none =>
        rw [hprogram, if_neg hname] at h
        cases h
      | some existing =>
        rw [hprogram] at h
        cases h
        exact ⟨existing, rfl, rfl⟩
  · cases h

/-- **Which flaw of entries is reported.** The first flaw is, if it is a defect; a label that
clashes is overtaken by the first defect down to the next label. -/
theorem addEntries_of_flaw {grid : String} {above below : List Entry} {entry : Entry}
    {program : Program} {flaw : Fault}
    (hgrid : ∀ other ∈ above ++ entry :: below, other.place.grid = grid)
    (habove : Entry.Flawless factory program above)
    (h : entry.flaw? factory program above = some flaw) :
    addEntries factory none program (above ++ entry :: below) =
      .error (if entry.defect? factory above = some flaw then flaw
        else ((Entry.reach below).findSome? (Entry.defect? factory (above ++ [entry]))).getD
          flaw) := by
  obtain ⟨hiff, hsegments⟩ := addEntries_spec factory grid above
    (fun other hother => hgrid other (List.mem_append_left _ hother)) program
  have hcompilable := Entry.compilable_iff_flawless.2 habove
  obtain ⟨after, hafter⟩ := hiff.2 hcompilable
  cases hdefect : entry.defect? factory above with
  | some defect =>
    obtain rfl : defect = flaw := by
      rw [Entry.flaw?, hdefect, Option.some_or] at h
      exact Option.some.inj h
    rw [if_pos rfl]
    exact addEntries_of_defect habove hafter hdefect
  | none =>
    rw [if_neg (by simp)]
    -- Without a defect the entry is a label with a name that is taken, and is opened all the same.
    have hclash : entry.clash? program above = some flaw := by
      rw [Entry.flaw?, hdefect, Option.none_or] at h
      exact h
    have hlabel : entry.isLabel = true := by
      by_contra hcommand
      rw [Entry.clash?_command (by simpa using hcommand)] at hclash
      cases hclash
    have hname : entry.arg 1 ≠ "" := by
      intro hname
      rw [Entry.defect?_label hlabel, if_pos hname] at hdefect
      cases hdefect
    obtain ⟨existing, hexisting, rfl⟩ := exists_of_clash? (hsegments after hafter)
      (hgrid entry (List.mem_append_right _ List.mem_cons_self)) hcompilable.fresh hclash
    have hlabels : (above ++ [entry]).any Entry.isLabel = true := by simp [hlabel]
    rw [addEntries_append_label hlabel hname, hafter]
    exact addEntries_of_taken hlabels below
      ⟨⟨entry.arg 1, entry.place.grid, []⟩, entry.place⟩ hexisting

/-- **A grid reports the first flaw, or what overtakes it.** A grid compiles exactly when none of
its entries is flawed. Otherwise let the first flawed entry be given. If it has a defect, that is
reported. If not, it is a label that clashes, and then the first defect among the entries down to
the next label is reported, that label included; the clash itself is reported when there is none.
Each flaw has the place of the row of its entry. -/
theorem addGrid_reports_first_flaw (options : Options) (program : Program) (grid : Grid) :
    let fault := (program.addGrid .builtin options grid).fault
    let entries := grid.entries options
    (fault = none ↔ Entry.Flawless .builtin program entries) ∧
    (∀ above entry below flaw, entries = above ++ entry :: below →
      Entry.Flawless .builtin program above →
      entry.flaw? .builtin program above = some flaw →
      (entry.defect? .builtin above = some flaw → fault = some flaw) ∧
      (entry.defect? .builtin above = none →
        fault = some (((Entry.reach below).findSome?
          (Entry.defect? .builtin (above ++ [entry]))).getD flaw))) ∧
    ∀ entry ∈ entries, ∀ above flaw, entry.flaw? .builtin program above = some flaw →
      ∃ place, flaw.place? = some place ∧ place.grid = grid.name ∧
        place.line = entry.row.line := by
  intro fault entries
  have hresult := addGrid_result .builtin options program grid
  refine ⟨?_, fun above entry below flaw hsplit habove hflaw => ?_,
    fun entry hentry above flaw hflaw => ?_⟩
  · rw [← Entry.compilable_iff_flawless, ← (addGrid_spec .builtin options program grid).1]
    simp only [GridReport.result_eq_ok_iff, exists_and_left, exists_eq', and_true]
    rfl
  · have hgrid : ∀ other ∈ above ++ entry :: below, other.place.grid = grid.name := by
      intro other hother
      rw [← hsplit] at hother
      exact Grid.place_of_mem_entries hother
    have herror := addEntries_of_flaw hgrid habove hflaw
    rw [← hsplit, ← hresult, GridReport.result_eq_error_iff] at herror
    constructor
    · intro hdefect
      rw [if_pos hdefect] at herror
      exact herror
    · intro hdefect
      rw [if_neg (by simp [hdefect])] at herror
      exact herror
  · obtain ⟨column?, hplace⟩ := Entry.place?_of_flaw? hflaw
    refine ⟨_, hplace, ?_⟩
    rw [Grid.place_eq_of_mem_entries hentry]
    cases column? <;> exact ⟨rfl, rfl⟩

/-- A sheet with two labels of one name, the second of which has a command of no known opcode. -/
def twinLabels : Grid where
  name := "intro"
  rows := [⟨["Command", "Arg1", "Text"], 1⟩, ⟨["Label", "A", ""], 2⟩, ⟨["Label", "A", ""], 3⟩,
    ⟨["Shake", "", ""], 4⟩]

/-- An entry of that sheet. -/
def twinEntry (cells : List String) (line : Nat) : Entry :=
  ⟨⟨[("Command", 0), ("Arg1", 1), ("Text", 2)]⟩, ⟨cells, line⟩, .row "intro" line, {}⟩

theorem flawless_twinEntry : Entry.Flawless .builtin .empty [twinEntry ["Label", "A", ""] 2] :=
  Entry.flawless_concat.2 ⟨Entry.flawless_nil, by decide +kernel⟩

/-- The clash of the second label is overtaken by the command below it. -/
theorem twinLabels_overtaken :
    let above := [twinEntry ["Label", "A", ""] 2]
    let entry := twinEntry ["Label", "A", ""] 3
    let below := [twinEntry ["Shake", "", ""] 4]
    (Entry.reach below).findSome? (Entry.defect? .builtin (above ++ [entry])) =
      some (.opcodeUnknown "Shake" (.row "intro" 4)) ∧
    (empty.addGrid .builtin {} twinLabels).fault =
      some (.opcodeUnknown "Shake" (.row "intro" 4)) := by
  intro above entry below
  have hsplit : twinLabels.entries {} = above ++ entry :: below := by with_unfolding_all rfl
  have hflaw : entry.flaw? .builtin .empty above =
      some (.labelRepeated "A" (.row "intro" 3) "intro") := by
    decide +kernel
  have hdefect : entry.defect? .builtin above = none := by decide +kernel
  have hlate : (Entry.reach below).findSome? (Entry.defect? .builtin (above ++ [entry])) =
      some (.opcodeUnknown "Shake" (.row "intro" 4)) := by
    decide +kernel
  obtain ⟨-, hreport, -⟩ := addGrid_reports_first_flaw {} empty twinLabels
  have hfault := (hreport above entry below _ hsplit flawless_twinEntry hflaw).2 hdefect
  rw [hlate] at hfault
  exact ⟨hlate, hfault⟩

/-- The first flawed row need not be the one that is reported. -/
theorem twinLabels_report_later_row :
    ∃ above entry below flaw, twinLabels.entries {} = above ++ entry :: below ∧
      Entry.Flawless .builtin .empty above ∧ entry.flaw? .builtin .empty above = some flaw ∧
      flaw.place? = some (.row "intro" 3) ∧
      (empty.addGrid .builtin {} twinLabels).fault =
        some (.opcodeUnknown "Shake" (.row "intro" 4)) ∧
      (empty.addGrid .builtin {} twinLabels).fault ≠ some flaw := by
  refine ⟨[twinEntry ["Label", "A", ""] 2], twinEntry ["Label", "A", ""] 3,
    [twinEntry ["Shake", "", ""] 4], .labelRepeated "A" (.row "intro" 3) "intro",
    by with_unfolding_all rfl, flawless_twinEntry, by decide +kernel, rfl, ?_, ?_⟩
  · decide +kernel
  · decide +kernel

end Program

end Storyboard
