import Storyboard.Proofs.Console.Playback

/-!
# Polls

The run and the status of a playback are asked together, over and over. In a poll one of the two is
asked first, and the other only if the first has nothing. The run goes on until it has to wait or
ends, unless it yields before. Assets may arrive between polls.

A poll is a list of moves (`Playback.exists_moves_poll`), so what holds of all moves holds of all
polls. What polls have beyond moves is that they do not starve the run or the status: once no asset
is held back, each poll takes a playback closer to its end. The moves that are left count twice,
and a change of the status that was not looked at counts once (`Playback.InOrder.poll`). So after so
many polls a playback has got through as many labels as one likes, or has ended
(`Playback.InOrder.polled`). `Console.drive` is one way to poll (`Playback.InOrder.drive_eq`).
-/

namespace Storyboard

open Console (Responder Recital)

/-- How the run and the status are asked once. -/
structure Poll where
  /-- The assets that have arrived by then. -/
  arrivals : List String := []
  /-- Whether the status is asked before the run. -/
  statusFirst : Bool := false
  /-- How many steps the run takes after the first one before it yields. -/
  patience : Nat := 0

namespace Playback

/-- Lets the run take steps until it has to wait or ends, at most so many. Says whether it has to
wait. -/
def proceed (scenario : Scenario) : Nat → Playback → Playback × Bool
  | 0, playback => (playback, false)
  | n + 1, playback =>
    match playback.run with
    | none => (playback, false)
    | some run =>
      if (run.step scenario playback.stage).waits then (playback.step scenario, true)
      else proceed scenario n (playback.step scenario)

/-- Asks the run and the status, one first and the other if that one has nothing. -/
def ask (scenario : Scenario) (playback : Playback) (statusFirst : Bool) (patience : Nat) :
    Playback :=
  if statusFirst && playback.fresh then playback.look
  else
    let result := playback.proceed scenario (patience + 1)
    -- The status has nothing if it was asked before.
    if result.2 && !statusFirst then result.1.look else result.1

/-- Asks the run and the status once. -/
def poll (scenario : Scenario) (playback : Playback) (poll : Poll) : Playback :=
  (poll.arrivals.foldl deliver playback).ask scenario poll.statusFirst poll.patience

/-- Asks the run and the status over and over. -/
def polled (scenario : Scenario) (playback : Playback) (polls : List Poll) : Playback :=
  polls.foldl (poll scenario) playback

/-! ### Polls are moves -/

theorem moved_append (scenario : Scenario) (playback : Playback) (first later : List Move) :
    playback.moved scenario (first ++ later) =
      (playback.moved scenario first).moved scenario later :=
  List.foldl_append

theorem exists_moves_proceed (scenario : Scenario) (n : Nat) (playback : Playback) :
    ∃ moves, (playback.proceed scenario n).1 = playback.moved scenario moves := by
  induction n generalizing playback with
  | zero => exact ⟨[], rfl⟩
  | succ n ih =>
    unfold proceed
    split
    · exact ⟨[], rfl⟩
    · split
      · exact ⟨[.step], rfl⟩
      · obtain ⟨moves, hmoves⟩ := ih (playback.step scenario)
        exact ⟨.step :: moves, hmoves⟩

theorem foldl_deliver (scenario : Scenario) (playback : Playback) (names : List String) :
    names.foldl deliver playback = playback.moved scenario (names.map .deliver) := by
  rw [moved, List.foldl_map]
  rfl

theorem exists_moves_ask (scenario : Scenario) (playback : Playback) (statusFirst : Bool)
    (patience : Nat) :
    ∃ moves, playback.ask scenario statusFirst patience = playback.moved scenario moves := by
  unfold ask
  dsimp only
  split
  · exact ⟨[.look], rfl⟩
  · obtain ⟨moves, hmoves⟩ := exists_moves_proceed scenario (patience + 1) playback
    rw [hmoves]
    split
    · refine ⟨moves ++ [.look], ?_⟩
      rw [moved_append]
      rfl
    · exact ⟨moves, rfl⟩

theorem exists_moves_poll (scenario : Scenario) (playback : Playback) (poll : Poll) :
    ∃ moves, playback.poll scenario poll = playback.moved scenario moves := by
  unfold Playback.poll
  rw [foldl_deliver scenario]
  obtain ⟨moves, hmoves⟩ := (playback.moved scenario (poll.arrivals.map .deliver)).exists_moves_ask
    scenario poll.statusFirst poll.patience
  rw [hmoves]
  exact ⟨_, (moved_append ..).symm⟩

theorem exists_moves_polled (scenario : Scenario) (playback : Playback) (polls : List Poll) :
    ∃ moves, playback.polled scenario polls = playback.moved scenario moves := by
  induction polls generalizing playback with
  | nil => exact ⟨[], rfl⟩
  | cons poll rest ih =>
    obtain ⟨moves, hmoves⟩ := playback.exists_moves_poll scenario poll
    obtain ⟨later, hlater⟩ := ih (playback.poll scenario poll)
    refine ⟨moves ++ later, ?_⟩
    rw [moved_append, ← hmoves, ← hlater]
    rfl

theorem polled_append (scenario : Scenario) (playback : Playback) (first later : List Poll) :
    playback.polled scenario (first ++ later) =
      (playback.polled scenario first).polled scenario later :=
  List.foldl_append

/-- A run that has ended stays so. -/
theorem ended_moved (scenario : Scenario) {playback : Playback} (h : playback.run = none)
    (moves : List Move) : (playback.moved scenario moves).run = none := by
  induction moves generalizing playback with
  | nil => exact h
  | cons move rest ih =>
    refine ih ?_
    cases move with
    | step => simp only [Playback.move, step, h]
    | look => simp only [Playback.move, look, h, Option.isSome_none, Bool.false_and, if_false,
        Bool.false_eq_true]
    | deliver name => exact h

/-! ### Gates -/

/-- No asset is held back. -/
def Supplied (playback : Playback) : Prop :=
  ∀ name, playback.stage.depot.store.gated name = false

end Playback

theorem Deed.gated_depot (stage : Stage) (deed : Deed) :
    (deed.depot stage).store.gated = stage.depot.store.gated := by
  have hsettled : ∀ (depot : Depot) (batch : Batch), (depot.settled batch).store = depot.store := by
    intro depot batch
    unfold Depot.settled
    split <;> rfl
  cases deed with
  | reconcile label required =>
    rw [Deed.depot, hsettled, (Depot.reconcile_eq _ _).1]
    refine (Load.gated_finishAll _ _).trans ?_
    rw [Depot.store_releaseEach]
  | resume label batch =>
    rw [Deed.depot, hsettled]
    exact Load.gated_finishAll _ _
  | _ => rfl

namespace Playback

theorem Supplied.move {playback : Playback} (h : playback.Supplied) (scenario : Scenario)
    (move : Move) : (playback.move scenario move).Supplied := by
  cases move with
  | step =>
    unfold Playback.move step
    dsimp only
    split
    · exact h
    · next run _ =>
      -- A step does not touch the gates, and a delivery only opens them.
      intro name
      rw [Run.step_eq_carryOut, Run.depot_carryOut, Deed.gated_depot]
      exact h name
  | look =>
    unfold Playback.move look
    dsimp only
    split
    · split <;> exact h
    · exact h
  | deliver name =>
    intro other
    simp only [Playback.move, deliver, Store.setGate]
    split
    · rfl
    · exact h other

theorem Supplied.moved {playback : Playback} (h : playback.Supplied) (scenario : Scenario)
    (moves : List Move) : (playback.moved scenario moves).Supplied := by
  induction moves generalizing playback with
  | nil => exact h
  | cons move rest ih => exact ih (h.move scenario move)

/-! ### What a poll comes to -/

section

variable {scenario : Scenario} {fault? : String → Option AssetFault} {entry : String}
  {playback : Playback} {run : Run}

/-- **A command that waits for the reader and has to wait is unanswered**, so there is a change of
the status to look at. -/
theorem InOrder.fresh_of_awaits (h : playback.InOrder scenario fault? entry)
    (hrun : playback.run = some run)
    (hwaits : (run.step scenario playback.stage).waits = true)
    (hawaits : run.awaits? ≠ none) : playback.fresh = true := by
  have htended := (h.orderly run hrun).tended
  obtain ⟨hstopped, hheld⟩ := (Run.waits_step_iff ..).1 hwaits
  cases hpoint : run.point with
  | reading label index next =>
    simp only [Run.Tended, Run.awaits?, hpoint] at htended
    simp only [Run.Held, hpoint] at hheld
    obtain ⟨hfresh, -⟩ | ⟨-, signal, haccepts, hdesk⟩ | ⟨-, hdesk⟩ := htended
    · -- Unanswered; otherwise the answer or the stop would have let the run go on.
      exact hfresh
    · obtain rfl : signal = .advance := of_decide_eq_true haccepts
      rw [hdesk] at hheld
      exact absurd (List.mem_singleton_self _) hheld
    · rw [hdesk] at hstopped
      cases hstopped
  | choosing label index targets =>
    simp only [Run.Tended, Run.awaits?, hpoint] at htended
    simp only [Run.Held, hpoint] at hheld
    obtain ⟨hfresh, -⟩ | ⟨-, signal, haccepts, hdesk⟩ | ⟨-, hdesk⟩ := htended
    · exact hfresh
    · obtain ⟨i, hi, rfl⟩ := Run.exists_choose_of_accepts haccepts
      have hkept : playback.stage.desk.kept = [.choose i] := by rw [hdesk]; rfl
      rw [hkept] at hheld
      simp [Run.firstChoice, hi] at hheld
    · rw [hdesk] at hstopped
      cases hstopped
  | _ => simp [Run.awaits?, hpoint] at hawaits

/-- A run that has to wait while no asset is held back waits for an answer. -/
theorem InOrder.fresh_of_waits (h : playback.InOrder scenario fault? entry)
    (hsupplied : playback.Supplied) (hrun : playback.run = some run)
    (hwaits : (run.step scenario playback.stage).waits = true) : playback.fresh = true := by
  refine h.fresh_of_awaits hrun hwaits fun hawaits => ?_
  have hdesk := ((h.orderly run hrun).calm hawaits).desk
  obtain ⟨-, hheld⟩ := (Run.waits_step_iff ..).1 hwaits
  -- Nothing but an answer can be waited for: the host does not pause, and no load is held back.
  cases hpoint : run.point with
  | opening =>
    simp only [Run.Held, hpoint, hdesk] at hheld
    cases hheld
  | ready label index next =>
    simp only [Run.Held, hpoint, hdesk] at hheld
    cases hheld
  | fetching label batch =>
    simp only [Run.Held, hpoint] at hheld
    obtain ⟨load, -, -, hgated⟩ := (Depot.isDone_resume_iff ..).1 hheld
    rw [hsupplied load.name] at hgated
    cases hgated
  | reading label index next => simp [Run.awaits?, hpoint] at hawaits
  | choosing label index targets => simp [Run.awaits?, hpoint] at hawaits
  | _ =>
    simp only [Run.Held, hpoint] at hheld

theorem look_fresh (hrun : playback.run.isSome = true) : playback.look.fresh = false := by
  unfold look
  cases hfresh : playback.fresh with
  | false => simp [hfresh]
  | true =>
    simp only [hrun, Bool.and_self, if_true]
    split <;> rfl

theorem isSome_run_proceed {n : Nat} (h : (playback.proceed scenario n).2 = true) :
    (playback.proceed scenario n).1.run.isSome = true := by
  induction n generalizing playback with
  | zero => cases h
  | succ n ih =>
    unfold Playback.proceed at h ⊢
    split at h
    · cases h
    · next run hrun =>
      split at h
      · next hwaits =>
        rw [if_pos hwaits]
        simp only [step, hrun]
        cases hstep : run.step scenario playback.stage with
        | waiting stage other => rfl
        | moved stage other => rfl
        | ended stage outcome =>
          rw [hstep] at hwaits
          cases hwaits
      · next hwaits =>
        rw [if_neg hwaits]
        exact ih h

/-- Steps until the run has to wait. If they are no move further, the run had to wait at once, and
there is a change of the status to look at. -/
theorem InOrder.proceed (h : playback.InOrder scenario fault? entry)
    (hentry : scenario.commands entry ≠ []) (hsupplied : playback.Supplied)
    (hrun : playback.run = some run) (n : Nat) :
    let result := playback.proceed scenario (n + 1)
    ∃ moves m, playback.Leads scenario (Scenario.canShow fault?) result.1 moves m ∧
      (moves = 0 → result.2 = true ∧ playback.fresh = true) := by
  obtain ⟨horder, moves, m, hmoves, hleads⟩ := h.step hentry hrun
  simp only [Playback.proceed, hrun]
  by_cases hwaits : (run.step scenario playback.stage).waits = true
  · rw [if_pos hwaits]
    exact ⟨moves, m, hleads, fun _ => ⟨rfl, h.fresh_of_waits hsupplied hrun hwaits⟩⟩
  · rw [if_neg hwaits]
    -- The first step was a move, and what comes behind it can only add to it.
    obtain ⟨list, hlist⟩ := exists_moves_proceed scenario n (playback.step scenario)
    obtain ⟨-, more, l, hmore⟩ := horder.moved hentry list
    rw [← hlist] at hmore
    refine ⟨moves + more, m + l, hleads.trans hmore, fun hzero => ?_⟩
    exact absurd (hmoves (Nat.eq_zero_of_add_eq_zero_right hzero)) hwaits

theorem InOrder.foldl_deliver (h : playback.InOrder scenario fault? entry) (names : List String) :
    (names.foldl Playback.deliver playback).InOrder scenario fault? entry ∧
      playback.Leads scenario (Scenario.canShow fault?) (names.foldl Playback.deliver playback)
        0 0 := by
  induction names generalizing playback with
  | nil => exact ⟨h, .refl ..⟩
  | cons name rest ih =>
    obtain ⟨horder, hleads⟩ := h.deliver name
    obtain ⟨hlater, hmore⟩ := ih horder
    exact ⟨hlater, hleads.trans hmore⟩

/-- Assets that arrive change nothing about the run. -/
theorem run_foldl_deliver (playback : Playback) (names : List String) :
    (names.foldl deliver playback).run = playback.run ∧
      (names.foldl deliver playback).fresh = playback.fresh := by
  induction names generalizing playback with
  | nil => exact ⟨rfl, rfl⟩
  | cons name rest ih => exact ih (playback.deliver name)

theorem InOrder.ask (h : playback.InOrder scenario fault? entry)
    (hentry : scenario.commands entry ≠ []) (hsupplied : playback.Supplied)
    (hrun : playback.run = some run) (statusFirst : Bool) (patience : Nat) :
    let after := playback.ask scenario statusFirst patience
    ∃ moves m, playback.Leads scenario (Scenario.canShow fault?) after moves m ∧
      after.fresh.toNat < 2 * moves + playback.fresh.toNat := by
  unfold Playback.ask
  dsimp only
  split
  · next hstatus =>
    -- The status comes first and has a change: looking at it uses the change up.
    obtain ⟨-, hdue⟩ := Bool.and_eq_true_iff.1 hstatus
    refine ⟨0, 0, h.look.2, ?_⟩
    rw [look_fresh (by rw [hrun]; rfl), hdue]
    decide
  · next hstatus =>
    -- The run comes first. Each move may leave one change behind, hence the factor of two.
    obtain ⟨moves, m, hleads, hmoves⟩ := h.proceed hentry hsupplied hrun patience
    obtain ⟨list, hlist⟩ := exists_moves_proceed scenario (patience + 1) playback
    have hafter : (playback.proceed scenario (patience + 1)).1.InOrder scenario fault? entry := by
      rw [hlist]
      exact (h.moved hentry list).1
    split
    · next hlook =>
      obtain ⟨hwaits, -⟩ := Bool.and_eq_true_iff.1 hlook
      refine ⟨moves, m, hleads.trans hafter.look.2, ?_⟩
      rw [look_fresh (isSome_run_proceed hwaits), Bool.toNat_false]
      cases moves with
      | zero =>
        rw [(hmoves rfl).2]
        decide
      | succ moves => omega
    · next hlook =>
      refine ⟨moves, m, hleads, ?_⟩
      have hone := Bool.toNat_le (playback.proceed scenario (patience + 1)).1.fresh
      cases moves with
      | zero =>
        -- The run had to wait at once, so the status was asked before it and had nothing.
        obtain ⟨hwaits, hdue⟩ := hmoves rfl
        cases statusFirst with
        | true => exact absurd hdue hstatus
        | false => exact absurd (by rw [hwaits]; rfl) hlook
      | succ moves => omega

/-- **Each poll takes a playback closer to its end**, once no asset is held back. -/
theorem InOrder.poll (h : playback.InOrder scenario fault? entry)
    (hentry : scenario.commands entry ≠ []) (hsupplied : playback.Supplied)
    (hrun : playback.run = some run) (poll : Poll) :
    let after := playback.poll scenario poll
    ∃ moves m, playback.Leads scenario (Scenario.canShow fault?) after moves m ∧
      after.fresh.toNat < 2 * moves + playback.fresh.toNat := by
  obtain ⟨horder, hsupply⟩ := h.foldl_deliver poll.arrivals
  obtain ⟨hkept, hfresh⟩ := run_foldl_deliver playback poll.arrivals
  have hstill : (poll.arrivals.foldl Playback.deliver playback).Supplied := by
    rw [Playback.foldl_deliver scenario]
    exact hsupplied.moved scenario _
  obtain ⟨moves, m, hleads, hcloser⟩ :=
    horder.ask hentry hstill (hkept.trans hrun) poll.statusFirst poll.patience
  have hpoll := hsupply.trans hleads
  rw [Nat.zero_add, Nat.zero_add] at hpoll
  rw [hfresh] at hcloser
  exact ⟨moves, m, hpoll, hcloser⟩

/-- **After enough polls a playback has ended, or it has got through as many labels as one likes**,
once no asset is held back. -/
theorem InOrder.polled (h : playback.InOrder scenario fault? entry)
    (hentry : scenario.commands entry ≠ []) (hsupplied : playback.Supplied) {n : Nat}
    {polls : List Poll}
    (hpolls : 2 * (playback.prospect scenario (Scenario.canShow fault?) n).moves +
      playback.fresh.toNat < polls.length) :
    ∃ moves m,
      playback.Leads scenario (Scenario.canShow fault?) (playback.polled scenario polls) moves m ∧
      ((playback.polled scenario polls).run = none ∨ n < m) := by
  -- Each poll takes a move from those that are left or looks at the change of the status, so the
  -- bound on the number of polls is kept along the way.
  induction polls generalizing playback n with
  | nil => cases hpolls
  | cons poll rest ih =>
    have hrest : playback.polled scenario (poll :: rest) =
      (playback.poll scenario poll).polled scenario rest := rfl
    obtain ⟨first, hfirst⟩ := playback.exists_moves_poll scenario poll
    have hafter : (playback.poll scenario poll).InOrder scenario fault? entry := by
      rw [hfirst]
      exact (h.moved hentry first).1
    cases hrun : playback.run with
    | none =>
      -- The run had ended before; no poll changes that.
      obtain ⟨list, hlist⟩ := playback.exists_moves_polled scenario (poll :: rest)
      obtain ⟨-, moves, m, hleads⟩ := h.moved hentry list
      rw [hlist]
      exact ⟨moves, m, hleads, .inl (ended_moved scenario hrun list)⟩
    | some run =>
      obtain ⟨moves, m, hleads, hcloser⟩ := h.poll hentry hsupplied hrun poll
      rw [hrest]
      obtain hlt | hle := Nat.lt_or_ge n m
      · -- This poll alone got through enough labels; the others only add to them.
        obtain ⟨list, hlist⟩ := (playback.poll scenario poll).exists_moves_polled scenario rest
        obtain ⟨-, more, l, hmore⟩ := hafter.moved hentry list
        rw [hlist]
        exact ⟨_, _, hleads.trans hmore, .inr (Nat.lt_add_right l hlt)⟩
      · obtain ⟨n, rfl⟩ := Nat.exists_eq_add_of_le hle
        have hstill : (playback.poll scenario poll).Supplied := by
          rw [hfirst]
          exact hsupplied.moved scenario first
        -- The moves that are left are fewer by those of this poll, so the bound holds for the rest.
        have hmoves : (playback.prospect scenario (Scenario.canShow fault?) (m + n)).moves =
            moves + ((playback.poll scenario poll).prospect scenario (Scenario.canShow fault?)
              n).moves := by
          obtain ⟨printed, sent, -, -, hrecital⟩ := hleads
          rw [hrecital.onward]
          rfl
        have hfewer : 2 * ((playback.poll scenario poll).prospect scenario
            (Scenario.canShow fault?) n).moves + (playback.poll scenario poll).fresh.toNat <
            rest.length := by
          rw [hmoves, List.length_cons] at hpolls
          omega
        obtain ⟨more, l, hmore, hend⟩ := ih hafter hstill hfewer
        exact ⟨_, _, hleads.trans hmore, hend.imp_right fun hl => Nat.add_lt_add_left hl m⟩

theorem prospect_of_ended (present : String → Bool) (hrun : playback.run = none) (n : Nat) :
    playback.prospect scenario present n =
      ⟨[], [], playback.responder, playback.outcome, 0⟩ := by
  simp only [prospect, hrun]

/-- **A playback whose recital has an outcome comes to it**, once no asset is held back. -/
theorem InOrder.ends (h : playback.InOrder scenario fault? entry)
    (hentry : scenario.commands entry ≠ []) (hsupplied : playback.Supplied) {n : Nat}
    (houtcome : (playback.prospect scenario (Scenario.canShow fault?) n).outcome.isSome = true)
    {polls : List Poll}
    (hpolls : 2 * (playback.prospect scenario (Scenario.canShow fault?) n).moves +
      playback.fresh.toNat < polls.length) :
    let later := playback.polled scenario polls
    later.run = none ∧ ∃ printed sent moves, later.printed = playback.printed ++ printed ∧
      later.sent = playback.sent ++ sent ∧
      playback.prospect scenario (Scenario.canShow fault?) n =
        ⟨printed, sent, later.responder, later.outcome, moves⟩ := by
  intro later
  obtain ⟨moves, m, ⟨printed, sent, hprinted, hsent, hrecital⟩, hend⟩ :=
    h.polled hentry hsupplied hpolls
  -- Got through more than `n` labels, the recital would have had no outcome yet.
  have hle : m ≤ n := by
    refine Nat.le_of_not_lt fun hlt => ?_
    rw [(hrecital.short n hlt).1] at houtcome
    cases houtcome
  have hrun : later.run = none := hend.resolve_right (Nat.not_lt.2 hle)
  obtain ⟨n, rfl⟩ := Nat.exists_eq_add_of_le hle
  refine ⟨hrun, printed, sent, moves, hprinted, hsent, ?_⟩
  rw [hrecital.onward, prospect_of_ended _ hrun]
  simp [Recital.prepend, later]

end

/-! ### Driving a run -/

section

variable {scenario : Scenario} {fault? : String → Option AssetFault} {entry : String}
  {playback : Playback} {run : Run}

/-- The option count makes no difference to a line of text. -/
theorem answer_line_count (first second : Nat) (responder : Responder) :
    Console.answer false first responder = Console.answer false second responder := by
  cases responder with
  | auto => rfl
  | interactive lines =>
    cases lines with
    | nil => rfl
    | cons line rest => cases line <;> rfl

/-- A driver answers as a look does, if there is a change of the status to look at when a command
waits. -/
theorem InOrder.respond_eq (h : playback.InOrder scenario fault? entry)
    (hrun : playback.run = some run) (hfresh : run.awaits? ≠ none → playback.fresh = true) :
    Console.respond playback.stage run playback.responder =
      (playback.look.stage, playback.look.responder) := by
  have hstatus := h.status hrun
  have hcount := (h.orderly run hrun).count
  -- A driver reads the number of options off the run, and a look off what was displayed.
  have hlook : run.awaits? ≠ none → ∀ suspension, playback.stage.status.suspension = suspension →
      suspension ≠ .none → Console.answer (suspension = .selection)
        (Console.selectionCount playback.stage.log) playback.responder =
          Console.answer (suspension = .selection) (Console.optionCount run) playback.responder →
      Console.respond playback.stage run playback.responder =
        (playback.look.stage, playback.look.responder) := by
    intro hawaits suspension hsuspension hwaits hanswer
    rw [look_eq_reply hrun (hfresh hawaits) hsuspension hwaits hanswer, Playback.reply,
      Console.respond]
    subst hsuspension
    split
    · next hnone => exact absurd hnone hwaits
    · rfl
  cases hpoint : run.point with
  | reading label index next =>
    refine hlook (by rw [Run.awaits?, hpoint]; simp) .line ?_ (by simp) (answer_line_count ..)
    rw [hstatus, Run.status?, hpoint]
    rfl
  | choosing label index targets =>
    refine hlook (by rw [Run.awaits?, hpoint]; simp) .selection ?_ (by simp) ?_
    · rw [hstatus, Run.status?, hpoint]
      rfl
    · rw [hcount label index targets hpoint, Console.optionCount, hpoint]
  | _ =>
    -- Nothing waits, so neither of them answers.
    have hsuspension : playback.stage.status.suspension = .none := by
      rw [hstatus]
      exact suspension_of_status (by rw [Run.awaits?, hpoint])
    rw [Console.respond, hsuspension]
    obtain hsame | hsame := look_of_none hsuspension <;> rw [hsame]

theorem polled_replicate_of_ended (hrun : playback.run = none) (n : Nat) :
    playback.polled scenario (List.replicate n {}) = playback := by
  induction n with
  | zero => rfl
  | succ n ih =>
    have hpoll : playback.poll scenario {} = playback := by
      simp [Playback.poll, Playback.ask, Playback.proceed, hrun]
    rw [List.replicate_succ, polled, List.foldl_cons, hpoll]
    exact ih

theorem run_look (playback : Playback) : playback.look.run = playback.run := by
  unfold look
  split
  · split <;> rfl
  · rfl

/-- **Driving a run is a way to poll it**: step by step, with the run asked first. -/
theorem InOrder.drive_eq (h : playback.InOrder scenario fault? entry)
    (hentry : scenario.commands entry ≠ []) (hrun : playback.run = some run) (fuel : Nat) :
    Console.drive scenario fuel playback.stage run playback.responder =
      let now := playback.polled scenario (List.replicate fuel {})
      now.outcome.map (now.stage, ·) := by
  induction fuel generalizing playback run with
  | zero =>
    -- Out of fuel, with a run that has not ended.
    have hnone : playback.outcome = none := by
      have hsome := h.outcome
      rwa [hrun, Option.isSome_some, eq_comm, Option.isNone_iff_eq_none] at hsome
    simp only [Playback.polled, List.replicate_zero, List.foldl_nil, hnone]
    rfl
  | succ fuel ih =>
    obtain ⟨horder, -⟩ := h.step hentry hrun
    have hpolled : playback.polled scenario (List.replicate (fuel + 1) {}) =
        (playback.poll scenario {}).polled scenario (List.replicate fuel {}) := rfl
    have hstage : (playback.step scenario).stage = (run.step scenario playback.stage).stage := by
      simp only [Playback.step, hrun]
    have hleft : (playback.step scenario).run = (run.step scenario playback.stage).run? := by
      simp only [Playback.step, hrun]
    have houtcome : (playback.step scenario).outcome =
        (run.step scenario playback.stage).outcome? := by
      simp only [Playback.step, hrun]
    have hresponder : (playback.step scenario).responder = playback.responder := by
      simp only [Playback.step, hrun]
    rw [hpolled, Console.drive]
    cases hstep : run.step scenario playback.stage with
    | ended stage outcome =>
      rw [hstep] at hstage hleft houtcome
      -- With the run asked first and no patience, a poll is this one step.
      have hpoll : playback.poll scenario {} = playback.step scenario := by
        simp [Playback.poll, Playback.ask, Playback.proceed, hrun, hstep, Progress.waits]
      rw [hpoll, polled_replicate_of_ended hleft]
      simp only [hstage, houtcome]
      rfl
    | moved stage other =>
      rw [hstep] at hstage hleft
      have hpoll : playback.poll scenario {} = playback.step scenario := by
        simp [Playback.poll, Playback.ask, Playback.proceed, hrun, hstep, Progress.waits]
      have hdrive := ih horder hleft
      rw [hstage, hresponder] at hdrive
      rw [hpoll, ← hdrive]
      rfl
    | waiting stage other =>
      -- The run would have to wait again, so its command is unanswered.
      have hagain := Run.waits_again scenario hstep
      rw [hstep] at hstage hleft
      have hpoll : playback.poll scenario {} = (playback.step scenario).look := by
        simp [Playback.poll, Playback.ask, Playback.proceed, hrun, hstep, Progress.waits]
      have hrespond := horder.respond_eq hleft fun hawaits =>
        horder.fresh_of_awaits hleft (by rw [hstage]; exact hagain) hawaits
      rw [hstage, hresponder] at hrespond
      have hdrive := ih horder.look.1 ((run_look _).trans hleft)
      dsimp only [Progress.stage] at hrespond ⊢
      rw [hpoll, ← hdrive, hrespond]

end

/-! ### From the beginning -/

section

variable {scenario : Scenario} {entry : String} (hentry : scenario.commands entry ≠ [])
  (store : Store) {responder : Responder} (hserved : responder = .auto → scenario.Answerable)

theorem prospect_new (scenario : Scenario) (present : String → Bool) (entry : String)
    (store : Store) (responder : Responder) :
    (new entry store responder).prospect scenario present =
      scenario.recite present entry responder := rfl

include hentry hserved

/-- **However a playback is polled, it goes on with the recital.** -/
theorem polled_new (polls : List Poll) :
    let start := new entry store responder
    let now := start.polled scenario polls
    now.InOrder scenario store.fault? entry ∧
      ∃ moves m, start.Leads scenario (Scenario.canShow store.fault?) now moves m := by
  intro start now
  obtain ⟨list, hlist⟩ := start.exists_moves_polled scenario polls
  rw [show now = _ from hlist]
  exact (inOrder_new store hserved).moved hentry list

theorem recite_eq_of_polls (polls : List Poll) :
    let present := Scenario.canShow store.fault?
    let now := (new entry store responder).polled scenario polls
    ∃ m moves, ∀ n, scenario.recite present entry responder (m + n) =
      (now.prospect scenario present n).prepend now.printed now.sent moves := by
  intro present now
  obtain ⟨-, moves, m, printed, sent, hprinted, hsent, hleads⟩ :=
    polled_new hentry store hserved polls
  refine ⟨m, moves, fun n => ?_⟩
  rw [← prospect_new scenario present entry store responder, hleads.onward, hprinted, hsent]
  rfl

/-- **A playback that has ended has come to the end of the recital.** -/
theorem recite_eq_of_outcome {polls : List Poll} {outcome : Outcome}
    (houtcome : ((new entry store responder).polled scenario polls).outcome = some outcome) :
    let now := (new entry store responder).polled scenario polls
    now.run = none ∧ outcome ≠ .rejected ∧
      ∃ m moves, ∀ n, scenario.recite (Scenario.canShow store.fault?) entry responder (m + n) =
        ⟨now.printed, now.sent, now.responder, some outcome, moves⟩ := by
  intro now
  obtain ⟨horder, -⟩ := polled_new hentry store hserved polls
  have hrun : now.run = none := by
    have hsome := horder.outcome
    rwa [houtcome, Option.isNone_some, Option.isSome_eq_false_iff, Option.isNone_iff_eq_none]
      at hsome
  -- From where it has ended a playback has no prospect, so what it has done is the whole recital.
  obtain ⟨m, moves, hrecital⟩ := recite_eq_of_polls hentry store hserved polls
  refine ⟨hrun, fun hrejected => ?_, m, moves, fun n => ?_⟩
  · exact horder.accepted (by rw [houtcome, hrejected])
  · have hend := hrecital n
    rw [prospect_of_ended _ hrun, houtcome] at hend
    simpa [Recital.prepend] using hend

/-- **A playback whose recital has an outcome comes to it**, once no asset is held back. -/
theorem polled_eq_recite {n : Nat} {polls later : List Poll}
    (houtcome : (scenario.recite (Scenario.canShow store.fault?) entry responder
      n).outcome.isSome = true)
    (hsupplied : ((new entry store responder).polled scenario polls).Supplied)
    (hlater : 2 * (scenario.recite (Scenario.canShow store.fault?) entry responder n).moves + 1 <
      later.length) :
    let now := (new entry store responder).polled scenario (polls ++ later)
    now.run = none ∧ ∃ moves, scenario.recite (Scenario.canShow store.fault?) entry responder n =
      ⟨now.printed, now.sent, now.responder, now.outcome, moves⟩ := by
  obtain ⟨horder, moves, m, printed, sent, hprinted, hsent, hleads⟩ :=
    polled_new hentry store hserved polls
  rw [← prospect_new scenario _ entry store responder] at houtcome hlater ⊢
  have hle : m ≤ n := by
    refine Nat.le_of_not_lt fun hlt => ?_
    rw [(hleads.short n hlt).1] at houtcome
    cases houtcome
  obtain ⟨n, rfl⟩ := Nat.exists_eq_add_of_le hle
  rw [hleads.onward] at houtcome hlater ⊢
  -- What was polled before took moves off the recital, so the later polls suffice for the rest.
  have hfewer : 2 * (((new entry store responder).polled scenario polls).prospect scenario
      (Scenario.canShow store.fault?) n).moves +
      ((new entry store responder).polled scenario polls).fresh.toNat < later.length := by
    have hone := Bool.toNat_le ((new entry store responder).polled scenario polls).fresh
    simp only [Recital.prepend] at hlater
    omega
  obtain ⟨hrun, more, after, steps, hmore, hafter, hend⟩ :=
    horder.ends hentry hsupplied houtcome hfewer
  rw [polled_append]
  refine ⟨hrun, moves + steps, ?_⟩
  rw [hend, hmore, hafter, hprinted, hsent]
  rfl

end

end Playback

end Storyboard
