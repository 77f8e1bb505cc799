import Storyboard.Stage.Basic

/-!
# What happens on a stage

The journal of a stage holds events, notices and statuses. Most statements are about the events
alone: `Stage.log` are all of them, `Stage.shown` those that are played to the reader. While events
happen the host uses its desk, and which controls it uses is a function of the events
(`Stage.reactionsTo`), so the desk after events is known from the desk before them.

`Stage.Emits` says that a stage came from another by letting events happen and by writing notices,
with nothing else touched.
-/

namespace Storyboard

/-! ### Controls -/

/-- The signal that a control sends, if it sends one. -/
def Control.signal? : Control → Option Signal
  | signal sent => some sent
  | _ => none

namespace Desk

theorem applyAll_append (desk : Desk) (first later : List Control) :
    desk.applyAll (first ++ later) = (desk.applyAll first).applyAll later :=
  List.foldl_append

/-- **The stop switch is on after controls** if it was on before or one of them is a stop. -/
theorem stopped_applyAll (desk : Desk) (controls : List Control) :
    (desk.applyAll controls).stopped = (desk.stopped || decide (.stop ∈ controls)) := by
  induction controls generalizing desk with
  | nil => simp [applyAll]
  | cons control rest ih =>
    rw [applyAll, List.foldl_cons, ← applyAll, ih]
    cases control <;> simp [apply]

/-- **The inbox after controls** holds their signals behind those that it held. -/
theorem inbox_applyAll (desk : Desk) (controls : List Control) :
    (desk.applyAll controls).inbox =
      desk.inbox.map (· ++ controls.filterMap Control.signal?) := by
  induction controls generalizing desk with
  | nil => cases h : desk.inbox <;> simp [applyAll, h]
  | cons control rest ih =>
    rw [applyAll, List.foldl_cons, ← applyAll, ih]
    cases control <;> cases h : desk.inbox <;>
      simp [apply, List.filterMap_cons, Control.signal?, h]

end Desk

/-! ### Events -/

/-- Whether an event is played to the reader, and not a matter of the store. -/
def Event.isShown : Event → Bool
  | .asset _ => false
  | _ => true

namespace Stage

/-- All events so far, in order. -/
def log (stage : Stage) : List Event := stage.events.map (·.1)

/-- The events so far that were played to the reader, in order. -/
def shown (stage : Stage) : List Event := stage.log.filter Event.isShown

@[simp] theorem events_emit (stage : Stage) (event : Event) :
    (stage.emit event).events = stage.events ++ [(event, stage.status)] := by
  simp [events, emit]

@[simp] theorem events_note (stage : Stage) (notices : List Notice) :
    (stage.note notices).events = stage.events := by
  simp [events, note, List.filterMap_append, List.filterMap_map]

@[simp] theorem events_withStatus (stage : Stage) (status : Status) :
    (stage.withStatus status).events = stage.events := rfl

@[simp] theorem log_emit (stage : Stage) (event : Event) :
    (stage.emit event).log = stage.log ++ [event] := by
  simp [log]

@[simp] theorem log_note (stage : Stage) (notices : List Notice) :
    (stage.note notices).log = stage.log := by
  simp [log]

@[simp] theorem log_withStatus (stage : Stage) (status : Status) :
    (stage.withStatus status).log = stage.log := rfl

@[simp] theorem log_emitAll (stage : Stage) (events : List Event) :
    (stage.emitAll events).log = stage.log ++ events := by
  induction events generalizing stage with
  | nil => simp [emitAll]
  | cons event rest ih =>
    rw [emitAll, List.foldl_cons, ← emitAll, ih, log_emit, List.append_assoc]
    rfl

theorem log_onDepot (stage : Stage) (result : Depot × List AssetEvent) :
    (stage.onDepot result).log = stage.log ++ result.2.map .asset := by
  rw [onDepot, log_emitAll]
  rfl

/-! ### Reactions -/

/-- The controls that reactions use while events happen, the first of which has the number `n`. -/
def reactionsFrom (reactions : List Reaction) : Nat → List Event → List Control
  | _, [] => []
  | n, event :: rest =>
    (reactions.filter (·.trigger.accepts n event)).flatMap (·.controls) ++
      reactionsFrom reactions (n + 1) rest

theorem reactionsFrom_append (reactions : List Reaction) (n : Nat) (first later : List Event) :
    reactionsFrom reactions n (first ++ later) =
      reactionsFrom reactions n first ++ reactionsFrom reactions (n + first.length) later := by
  induction first generalizing n with
  | nil => rfl
  | cons event rest ih =>
    rw [List.cons_append, reactionsFrom, reactionsFrom, ih, List.append_assoc, List.length_cons,
      Nat.add_right_comm, Nat.add_assoc]

/-- What the host does at the desk while events happen on the stage. -/
def reactionsTo (stage : Stage) (events : List Event) : List Control :=
  reactionsFrom stage.reactions stage.emitted events

/-! ### Stages that come from others -/

/-- The stage `after` came from `stage` by letting the events happen and by writing notices. -/
structure Emits (stage : Stage) (events : List Event) (after : Stage) : Prop where
  /-- The events happened, all with the same status. -/
  sights : after.events = stage.events ++ events.map (·, stage.status)
  /-- The host reacted to the events. -/
  desk : after.desk = stage.desk.applyAll (stage.reactionsTo events)
  /-- The status is the same. -/
  status : after.status = stage.status
  /-- The assets are the same. -/
  depot : after.depot = stage.depot
  /-- The host reacts as before. -/
  reactions : after.reactions = stage.reactions
  /-- The events were counted. -/
  emitted : after.emitted = stage.emitted + events.length

namespace Emits

theorem refl (stage : Stage) : stage.Emits [] stage where
  sights := (List.append_nil _).symm
  desk := rfl
  status := rfl
  depot := rfl
  reactions := rfl
  emitted := rfl

variable {stage after : Stage} {events : List Event}

/-- The events were added to the log. -/
theorem log (h : stage.Emits events after) : after.log = stage.log ++ events := by
  have hevents : (events.map (·, stage.status)).map (·.1) = events := by
    rw [List.map_map]
    exact List.map_id' events
  rw [Stage.log, h.sights, List.map_append, hevents]
  rfl

theorem note (h : stage.Emits events after) (notices : List Notice) :
    stage.Emits events (after.note notices) where
  sights := (events_note after notices).trans h.sights
  desk := h.desk
  status := h.status
  depot := h.depot
  reactions := h.reactions
  emitted := h.emitted

theorem reactionsTo_append (h : stage.Emits events after) (later : List Event) :
    stage.reactionsTo (events ++ later) = stage.reactionsTo events ++ after.reactionsTo later := by
  rw [reactionsTo, reactionsTo, reactionsTo, reactionsFrom_append, h.reactions, h.emitted]

theorem emit (h : stage.Emits events after) (event : Event) :
    stage.Emits (events ++ [event]) (after.emit event) where
  sights := by rw [events_emit, h.sights, h.status, List.append_assoc, List.map_append]; rfl
  desk := by
    have hreaction : after.reactionsTo [event] = after.reaction event := List.append_nil _
    rw [h.reactionsTo_append, Desk.applyAll_append, ← h.desk, hreaction]
    rfl
  status := h.status
  depot := h.depot
  reactions := h.reactions
  emitted := by
    rw [List.length_append, ← Nat.add_assoc, ← h.emitted]
    rfl

theorem emitAll (h : stage.Emits events after) (later : List Event) :
    stage.Emits (events ++ later) (after.emitAll later) := by
  induction later generalizing events after with
  | nil => rwa [List.append_nil]
  | cons event rest ih =>
    rw [Stage.emitAll, List.foldl_cons, ← Stage.emitAll, List.append_cons]
    exact ih (h.emit event)

end Emits

end Stage

end Storyboard
