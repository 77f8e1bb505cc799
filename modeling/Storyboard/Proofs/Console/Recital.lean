import Storyboard.CommandLine.Console
import Storyboard.Proofs.Player.Itinerary

/-!
# The recital of a scenario

A recital is the sequential reading of a scenario at a console. It goes through the commands of a
label in order and prints what they show. A line of text takes one line of input, whatever it says;
a choice takes lines of input up to the first that names one of its options; nothing else takes any.
Where the input runs out before, the recital is stopped. A recital knows nothing of statuses, of
signals in flight, or of when a run is polled. As it may go on forever, `Scenario.recite` is what it
comes to through at most so many more labels. It prints its end exactly if it comes to it
(`Scenario.recite_ends`).
-/

namespace Storyboard

namespace Console

/-! ### Reading answers -/

namespace Responder

/-- Whether there is a line to acknowledge a line of text with, and what is left behind it. -/
def readLine : Responder → Bool × Responder
  | .auto => (true, .auto)
  | .interactive [] => (false, .interactive [])
  | .interactive (line :: rest) => (line.isSome, .interactive rest)

/-- The option that is chosen among so many, if one is, and what is left behind the line that
chooses it. -/
def readOption (count : Nat) : Responder → Option Nat × Responder
  | .auto => (some 0, .auto)
  | .interactive lines =>
    -- An unreadable line is where the search ends.
    match lines.dropWhile fun line => line.any fun text => (optionOf? count text).isNone with
    | [] => (none, .interactive [])
    | line :: rest => (line.bind (optionOf? count), .interactive rest)

theorem readOption_lt {responder : Responder} {count i : Nat}
    (h : (responder.readOption count).1 = some i) (hauto : responder = .auto → 0 < count) :
    i < count := by
  cases responder with
  | auto =>
    cases h
    exact hauto rfl
  | interactive lines =>
    unfold readOption at h
    dsimp only at h
    split at h
    · cases h
    · obtain ⟨text, -, htext⟩ := Option.bind_eq_some_iff.1 h
      exact of_decide_eq_true (Option.filter_eq_some_iff.1 htext).2

theorem auto_of_readLine {responder : Responder} (h : responder.readLine.2 = .auto) :
    responder = .auto := by
  cases responder with
  | auto => rfl
  | interactive lines => cases lines <;> cases h

theorem auto_of_readOption {responder : Responder} {count : Nat}
    (h : (responder.readOption count).2 = .auto) : responder = .auto := by
  cases responder with
  | auto => rfl
  | interactive lines =>
    unfold readOption at h
    dsimp only at h
    split at h <;> cases h

end Responder

theorem answer_line (count : Nat) (responder : Responder) :
    ∃ notices, answer false count responder =
      (if responder.readLine.1 then .signal .advance else .stop, notices,
        responder.readLine.2) := by
  cases responder with
  | auto => exact ⟨[], rfl⟩
  | interactive lines =>
    cases lines with
    | nil => exact ⟨_, rfl⟩
    | cons line rest => cases line <;> exact ⟨_, rfl⟩

theorem answer_option (count : Nat) (responder : Responder) :
    ∃ notices, answer true count responder =
      (((responder.readOption count).1.map fun i => .signal (.choose i)).getD .stop, notices,
        (responder.readOption count).2) := by
  cases responder with
  | auto => exact ⟨[], rfl⟩
  | interactive lines =>
    induction lines with
    | nil => exact ⟨_, rfl⟩
    | cons line rest ih =>
      cases line with
      | none => exact ⟨_, rfl⟩
      | some text =>
        cases hoption : optionOf? count text with
        | some i =>
          refine ⟨[], ?_⟩
          simp [answer, listen, hear, Responder.readOption, hoption]
        | none =>
          -- A line that names no option is reported and passed over.
          obtain ⟨notices, hnotices⟩ := ih
          refine ⟨.optionExpected (Text.trim text) count :: notices, ?_⟩
          have hskip : (Responder.interactive (some text :: rest)).readOption count =
              (Responder.interactive rest).readOption count := by
            simp [Responder.readOption, hoption]
          rw [hskip]
          simp only [answer, Prod.mk.injEq] at hnotices
          obtain ⟨hcontrol, hnoticed, hrest⟩ := hnotices
          simp [answer, listen, hear, hoption, hcontrol, hnoticed, hrest]

/-! ### Recitals -/

/-- What a recital comes to. -/
structure Recital where
  /-- The lines that are printed. -/
  printed : List String
  /-- What was answered, once for each line of text and each choice. -/
  sent : List Control
  /-- What is left of the input. -/
  rest : Responder
  /-- How it ends, if it does. -/
  outcome : Option Outcome
  /-- How many steps a run takes at most that plays it. -/
  moves : Nat

namespace Recital

/-- The recital with something before it. -/
def prepend (printed : List String) (sent : List Control) (moves : Nat) (recital : Recital) :
    Recital :=
  ⟨printed ++ recital.printed, sent ++ recital.sent, recital.rest, recital.outcome,
    moves + recital.moves⟩

theorem prepend_prepend (printed later : List String) (sent after : List Control)
    (moves more : Nat) (recital : Recital) :
    (recital.prepend later after more).prepend printed sent moves =
      recital.prepend (printed ++ later) (sent ++ after) (moves + more) := by
  simp [prepend, Nat.add_assoc]

@[simp] theorem prepend_nil (recital : Recital) : recital.prepend [] [] 0 = recital := by
  simp [prepend]

/-- A recital goes on as a later one does, after what is printed and sent in so many moves and `m`
labels. Through fewer labels it comes to no outcome, and to nothing beyond what is printed. -/
structure Leads (recital later : Nat → Recital) (printed : List String) (sent : List Control)
    (moves m : Nat) : Prop where
  /-- Behind so many labels the later recital follows. -/
  onward : ∀ n, recital (m + n) = (later n).prepend printed sent moves
  /-- Fewer labels are over before. -/
  short : ∀ n < m, (recital n).outcome = none ∧ (recital n).printed <+: printed

namespace Leads

variable {first second third : Nat → Recital} {printed more : List String}
  {sent after : List Control} {moves steps m l : Nat}

theorem of_eq (h : ∀ n, first n = (second n).prepend printed sent moves) :
    Leads first second printed sent moves 0 :=
  ⟨fun n => by rw [Nat.zero_add, h], nofun⟩

theorem refl (recital : Nat → Recital) : Leads recital recital [] [] 0 0 :=
  .of_eq fun _ => (prepend_nil _).symm

theorem trans (h : Leads first second printed sent moves m)
    (hmore : Leads second third more after steps l) :
    Leads first third (printed ++ more) (sent ++ after) (moves + steps) (m + l) where
  onward n := by rw [Nat.add_assoc, h.onward, hmore.onward, prepend_prepend]
  short n hn := by
    obtain hlt | hle := Nat.lt_or_ge n m
    · obtain ⟨houtcome, hprinted⟩ := h.short n hlt
      exact ⟨houtcome, hprinted.trans (List.prefix_append _ _)⟩
    · obtain ⟨n, rfl⟩ := Nat.exists_eq_add_of_le hle
      obtain ⟨houtcome, hprinted⟩ := hmore.short n (Nat.lt_of_add_lt_add_left hn)
      rw [h.onward]
      exact ⟨houtcome, (List.prefix_append_right_inj _).2 hprinted⟩

end Leads

/-- The end is printed exactly if the recital comes to it. -/
def Ends (recital : Recital) : Prop :=
  "EVENT:END" ∈ recital.printed ↔ ∃ last, recital.outcome = some (.completed last)

theorem Ends.prepend {recital : Recital} (h : recital.Ends) {printed : List String}
    (hprinted : "EVENT:END" ∉ printed) (sent : List Control) (moves : Nat) :
    (recital.prepend printed sent moves).Ends :=
  (List.mem_append.trans (or_iff_right hprinted)).trans h

theorem Ends.of_stopped {sent : List Control} {rest : Responder} {moves : Nat} :
    Ends ⟨[], sent, rest, some .stopped, moves⟩ :=
  iff_of_false List.not_mem_nil nofun

/-- A recital that goes on behind a line of text. -/
def awaitLine (responder : Responder) (onward : Responder → Recital) : Recital :=
  match responder.readLine with
  | (true, rest) => (onward rest).prepend [] [.signal .advance] 1
  | (false, rest) => ⟨[], [.stop], rest, some .stopped, 1⟩

/-- A recital that goes on behind a choice. -/
def awaitOption (count : Nat) (responder : Responder) (onward : Nat → Responder → Recital) :
    Recital :=
  match responder.readOption count with
  | (some i, rest) => (onward i rest).prepend [] [.signal (.choose i)] 1
  | (none, rest) => ⟨[], [.stop], rest, some .stopped, 1⟩

end Recital

end Console

open Console (Responder Recital)

namespace Scenario

/-- The lines that a command prints when these sprites can be shown. -/
def lines (scenario : Scenario) (present : String → Bool) (command : Command) : List String :=
  (scenario.shows (fun name => if present name then some ⟨name, 0⟩ else none) command).flatMap
    Console.display

/-- Which handle a sprite has makes no difference to what is printed. -/
theorem flatMap_display_shows (scenario : Scenario) {resident : String → Option Handle}
    {present : String → Bool} {command : Command}
    (h : ∀ id hides layer words place character,
      command = .character id hides layer words place → scenario.character? id = some character →
        (resident character.sprite).isSome = present character.sprite) :
    (scenario.shows resident command).flatMap Console.display =
      scenario.lines present command := by
  unfold lines
  cases command with
  | character id hides layer words place =>
    cases hc : scenario.character? id with
    | none => simp [shows, hc]
    | some character =>
      have hsprite := h id hides layer words place character rfl hc
      -- The layer and the character are printed, so of the sprite only its presence matters.
      cases hp : present character.sprite with
      | false =>
        rw [hp, Option.isSome_eq_false_iff, Option.isNone_iff_eq_none] at hsprite
        simp [shows, hc, hp, hsprite]
      | true =>
        rw [hp, Option.isSome_iff_exists] at hsprite
        obtain ⟨handle, hhandle⟩ := hsprite
        cases hides <;> simp [shows, hc, hp, hhandle, Console.display]
  | _ => rfl

variable (scenario : Scenario) (present : String → Bool)

/-- The recital of commands. After the last one it goes on with `leave`. -/
def reciteCommands (leave : Option String → Responder → Recital) :
    Option String → Responder → List Command → Recital
  | next, responder, [] => leave next responder
  | next, responder, command :: rest =>
    .prepend (scenario.lines present command) [] 1 <|
      match scenario.flow command with
      | .proceed => reciteCommands leave next responder rest
      | .goto target => reciteCommands leave (some target) responder rest
      | .awaitLine => .awaitLine responder fun left => reciteCommands leave next left rest
      | .awaitSelection targets =>
        .awaitOption targets.length responder fun i left =>
          reciteCommands leave targets[i]? left rest

/-- The recital after the last command of a label, through at most `n` more labels. -/
def reciteLeaving : Nat → String → Option String → Responder → Recital
  | 0, _, _, responder => ⟨[], [], responder, none, 0⟩
  | n + 1, label, next, responder =>
    match scenario.existing? next with
    | some target =>
      .prepend [] [] 2 <|
        scenario.reciteCommands present (reciteLeaving n target) none responder
          (scenario.commands target)
    | none => ⟨["EVENT:END"], [], responder, some (.completed label), 0⟩

/-- The recital of commands that are left of a label, through at most `n` more labels. -/
def reciteVisit (n : Nat) (label : String) (next : Option String) (responder : Responder)
    (commands : List Command) : Recital :=
  scenario.reciteCommands present (scenario.reciteLeaving present n label) next responder commands

/-- The recital from a label, through at most `n` more labels. -/
def recite (entry : String) (responder : Responder) (n : Nat) : Recital :=
  .prepend ["EVENT:START"] [] 4 <|
    scenario.reciteVisit present n entry none responder (scenario.commands entry)

/-! ### The end of a recital -/

/-- **Only the end of a run is printed as the end.** -/
theorem end_mem_display {event : Event} (h : "EVENT:END" ∈ Console.display event) :
    event = .finish := by
  -- But for the start, all other lines start with another letter.
  have hne : ∀ (word rest : String) (c : Char), word.toList.head? = some c → c ≠ 'E' →
      "EVENT:END" ≠ word ++ rest := by
    intro word rest c hhead hc heq
    have hlist := congrArg (fun text : String => text.toList.head?) heq
    rw [String.toList_append, List.head?_append, hhead, Option.some_or] at hlist
    exact hc (Option.some.inj hlist).symm
  cases event with
  | start => exact absurd (List.mem_singleton.1 h) (by decide)
  | finish => rfl
  | text speaker words =>
    obtain hmem | hmem := List.mem_append.1 h
    · cases speaker with
      | none => cases hmem
      | some speaker => exact absurd (List.mem_singleton.1 hmem) (hne _ _ 'S' rfl (by decide))
    · exact absurd (List.mem_singleton.1 hmem) (hne _ _ 'T' rfl (by decide))
  | appear layer id sprite =>
    refine absurd (List.mem_singleton.1 h) ?_
    rw [String.append_assoc, String.append_assoc]
    exact hne _ _ 'S' rfl (by decide)
  | hide layer => exact absurd (List.mem_singleton.1 h) (hne _ _ 'H' rfl (by decide))
  | choices items =>
    obtain ⟨item, -, hitem⟩ := List.mem_map.1 h
    refine absurd hitem.symm ?_
    rw [String.append_assoc, String.append_assoc]
    exact hne _ _ 'C' rfl (by decide)
  | asset event => cases h

theorem end_not_mem_lines (command : Command) :
    "EVENT:END" ∉ scenario.lines present command := by
  intro h
  obtain ⟨event, hevent, hend⟩ := List.mem_flatMap.1 h
  have hphase := scenario.phase_of_mem_shows hevent
  rw [end_mem_display hend] at hphase
  cases hphase

theorem reciteCommands_ends {leave : Option String → Responder → Recital}
    (hleave : ∀ next responder, (leave next responder).Ends) (commands : List Command) :
    ∀ next responder, (scenario.reciteCommands present leave next responder commands).Ends := by
  induction commands with
  | nil => exact hleave
  | cons command rest ih =>
    intro next responder
    rw [reciteCommands]
    refine Recital.Ends.prepend ?_ (scenario.end_not_mem_lines present command) _ _
    split
    · -- The command goes on by itself, or it goes on once it is answered; else the play is stopped.
      exact ih _ _
    · exact ih _ _
    · unfold Recital.awaitLine
      split
      · exact (ih _ _).prepend List.not_mem_nil _ _
      · exact .of_stopped
    · unfold Recital.awaitOption
      split
      · exact (ih _ _).prepend List.not_mem_nil _ _
      · exact .of_stopped

theorem reciteLeaving_ends (n : Nat) : ∀ label next responder,
    (scenario.reciteLeaving present n label next responder).Ends := by
  induction n with
  | zero => exact fun label next responder => iff_of_false List.not_mem_nil nofun
  | succ n ih =>
    intro label next responder
    rw [reciteLeaving]
    split
    · next target _ =>
      exact (scenario.reciteCommands_ends present (ih target) _ _ _).prepend List.not_mem_nil _ _
    · exact iff_of_true List.mem_cons_self ⟨label, rfl⟩

/-- **A recital prints its end exactly if it comes to it.** -/
theorem recite_ends (entry : String) (responder : Responder) (n : Nat) :
    (scenario.recite present entry responder n).Ends :=
  (scenario.reciteCommands_ends present (scenario.reciteLeaving_ends present n entry) _ _
    _).prepend (by decide) _ _

end Scenario

end Storyboard
