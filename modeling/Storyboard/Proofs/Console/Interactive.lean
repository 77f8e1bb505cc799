import Storyboard.Proofs.Compile.Prepared
import Storyboard.Proofs.Console.Polling

/-!
# Interactive play

What an interactive play prints, what it takes from the input and how it ends depends on the
scenario, on the input and on which assets can be loaded, and on nothing else: not on the order in
which the run and its status are asked, nor on when assets arrive. It is the recital of the
scenario.
-/

namespace Storyboard

namespace Playback

/-- **Interactive play is the recital of the scenario with the lines of input**, however the run and
its status are polled and whenever assets arrive. At any time, what was printed and answered so far
followed by the rest of the recital from there, with the input that is left, is the recital. A
command that waits is unanswered with a change of the status to look at, or it was answered once
with something that it accepts, or the input has run out and the run is asked to end. A play that
has ended has come to the end of the recital, and was not rejected. The end is printed exactly if
the recital comes to it. Once no asset is held back, a play whose recital has an outcome comes to
it. A driver is one way to poll. -/
theorem interactive_play_is_recital {options : Options} {sources : Sources} {label : Option String}
    {scenario : Scenario} {entry : String}
    (hprepared : (Scenario.prepare options sources label).result = .ok (scenario, entry))
    (store : Store) (lines : List Console.InputLine) :
    let present := Scenario.canShow store.fault?
    let recital := scenario.recite present entry (.interactive lines)
    let start := new entry store (.interactive lines)
    (∀ polls,
      let now := start.polled scenario polls
      (∃ m moves, ∀ n, recital (m + n) =
        (now.prospect scenario present n).prepend now.printed now.sent moves) ∧
      (∀ run, now.run = some run → run.Tended now.stage.desk now.fresh) ∧
      ∀ outcome, now.outcome = some outcome → now.run = none ∧ outcome ≠ .rejected ∧
        ∃ m moves, ∀ n,
          recital (m + n) = ⟨now.printed, now.sent, now.responder, some outcome, moves⟩) ∧
    (∀ n, "EVENT:END" ∈ (recital n).printed ↔
      ∃ last, (recital n).outcome = some (.completed last)) ∧
    (∀ n polls later, (recital n).outcome.isSome = true →
      (start.polled scenario polls).Supplied → 2 * (recital n).moves + 1 < later.length →
      let now := start.polled scenario (polls ++ later)
      now.run = none ∧
        ∃ moves, recital n = ⟨now.printed, now.sent, now.responder, now.outcome, moves⟩) ∧
    ∀ fuel, Console.drive scenario fuel { depot := .ofStore store } (.new entry)
        (.interactive lines) =
      let now := start.polled scenario (List.replicate fuel {})
      now.outcome.map (now.stage, ·) := by
  intro present recital start
  obtain ⟨-, hentry⟩ := Scenario.prepare_eq_ok hprepared
  have hserved : Console.Responder.interactive lines = .auto → scenario.Answerable := nofun
  refine ⟨fun polls => ⟨?_, ?_, ?_⟩, scenario.recite_ends present entry _, ?_, fun fuel => ?_⟩
  · exact recite_eq_of_polls hentry store hserved polls
  · intro run hrun
    obtain ⟨horder, -⟩ := polled_new hentry store hserved polls
    exact (horder.orderly run hrun).tended
  · intro outcome houtcome
    exact recite_eq_of_outcome hentry store hserved houtcome
  · intro n polls later houtcome hsupplied hlater
    exact polled_eq_recite hentry store hserved houtcome hsupplied hlater
  · exact (inOrder_new store hserved).drive_eq hentry rfl fuel

/-- A line of text, a choice with one option, and a last line in the label that it leads to. -/
def doorway : Sources :=
  ⟨Dict.empty.insert "intro"
    "Command,Arg1,Text\nLabel,Start,\nText,,Hello\nChoice,End,Leave\nLabel,End,\nText,,Bye\n", none⟩

/-- The scenario of that sheet. -/
def doorwayScenario : Scenario :=
  .new
    ⟨(Dict.empty.insert "Start" ⟨"Start", "intro",
      [.text "Hello" (.row "intro" 3), .choice [⟨"Leave", "End"⟩] (.row "intro" 4)]⟩).insert "End"
      ⟨"End", "intro", [.text "Bye" (.row "intro" 6)]⟩⟩ .empty

/-- The second line of input is no option, and there is none for the last line of text. -/
def doorwayInput : List Console.InputLine := [some "", some "1", some " 0 "]

/-- However that is polled, the run is stopped at the last line. -/
theorem doorway_stopped :
    (Scenario.prepare {} doorway none).result = .ok (doorwayScenario, "Start") ∧
    ∀ polls : List Poll, 25 < polls.length →
      let now := (new "Start" .ready (.interactive doorwayInput)).polled doorwayScenario polls
      now.outcome = some .stopped ∧
      now.sent = [.signal .advance, .signal (.choose 0), .stop] ∧
      now.printed = ["EVENT:START", "TEXT_JSON:\"Hello\"", "CHOICE:0|\"Leave\"",
        "TEXT_JSON:\"Bye\""] := by
  have hprepared : (Scenario.prepare {} doorway none).result = .ok (doorwayScenario, "Start") := by
    with_unfolding_all rfl
  refine ⟨hprepared, fun polls hpolls => ?_⟩
  obtain ⟨-, -, hends, -⟩ := interactive_play_is_recital hprepared .ready doorwayInput
  obtain ⟨-, moves, hrecital⟩ := hends 1 [] polls (by decide +kernel) (fun name => rfl) hpolls
  have houtcome := congrArg Console.Recital.outcome hrecital
  have hsent := congrArg Console.Recital.sent hrecital
  have hprinted := congrArg Console.Recital.printed hrecital
  refine ⟨houtcome.symm.trans ?_, hsent.symm.trans ?_, hprinted.symm.trans ?_⟩
  all_goals decide +kernel

end Playback

end Storyboard
