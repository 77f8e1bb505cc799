import Storyboard.Asset.Depot
import Storyboard.Color
import Storyboard.Notice
import Storyboard.Stage.Desk
import Storyboard.Stage.Status

/-!
# The stage

The stage is all that a run shares with its host: the desk, the status, the depot, and the journal
of what the host got to see. Every event is numbered. The host may react to an event at once, from
within, by using the desk; its reactions are part of the stage.
-/

namespace Storyboard

/-- Who a line is attributed to. -/
structure Speaker where
  /-- The displayed name. -/
  name : String
  /-- The colour of the name. -/
  color : Color
  deriving DecidableEq

/-- An option as it is shown. -/
structure SelectionItem where
  /-- The position of the option. -/
  index : Nat
  /-- The caption. -/
  text : String
  deriving DecidableEq

/-- Something that the host gets to see. -/
inductive Event where
  /-- A run begins. -/
  | start
  /-- A run ends. -/
  | finish
  /-- A line is displayed. -/
  | text (speaker : Option Speaker) (words : String)
  /-- A character appears on a layer. -/
  | appear (layer id : String) (sprite : Handle)
  /-- A layer is hidden. -/
  | hide (layer : String)
  /-- Options are displayed. -/
  | choices (items : List SelectionItem)
  /-- The store is asked to do something. -/
  | asset (event : AssetEvent)
  deriving DecidableEq

/-- The word for the kind of an event. -/
def Event.kind : Event → String
  | start => "start"
  | finish => "end"
  | text .. => "text"
  | appear .. => "show"
  | hide .. => "hide"
  | choices .. => "choices"
  | asset (.load _) => "load"
  | asset (.release ..) => "release"

/-- Which events a host reacts to. -/
inductive Trigger where
  /-- All events of a kind. -/
  | kind (word : String)
  /-- The event of a number. -/
  | number (n : Nat)
  deriving DecidableEq

/-- Whether an event of the given number is meant. -/
def Trigger.accepts (number : Nat) (event : Event) : Trigger → Bool
  | kind word => word = event.kind
  | .number n => n = number

/-- What a host does at the desk when an event happens. -/
structure Reaction where
  /-- The events that are meant. -/
  trigger : Trigger
  /-- What is done, in order. -/
  controls : List Control
  deriving DecidableEq

/-- An entry of the journal. -/
inductive Record where
  /-- An event, with the status at that time. -/
  | event (event : Event) (status : Status)
  /-- A notice. -/
  | notice (notice : Notice)
  deriving DecidableEq

/-- All that a run shares with its host. -/
structure Stage where
  /-- The switches and the inbox. -/
  desk : Desk := {}
  /-- Where the run is. -/
  status : Status := .idle
  /-- The assets. -/
  depot : Depot
  /-- How the host reacts to events. -/
  reactions : List Reaction := []
  /-- The number of events so far. -/
  emitted : Nat := 0
  /-- What happened, in order. -/
  journal : List Record := []

namespace Stage

/-- What the host does at the desk in reaction to the next event. -/
def reaction (stage : Stage) (event : Event) : List Control :=
  (stage.reactions.filter (·.trigger.accepts stage.emitted event)).flatMap (·.controls)

/-- Lets an event happen, and the host react to it. -/
def emit (stage : Stage) (event : Event) : Stage :=
  { stage with
    -- The host sees the status as it is while the event happens.
    journal := stage.journal ++ [.event event stage.status]
    emitted := stage.emitted + 1
    desk := stage.desk.applyAll (stage.reaction event) }

/-- Lets events happen one after another. -/
def emitAll (stage : Stage) (events : List Event) : Stage := events.foldl emit stage

/-- Writes notices into the journal. -/
def note (stage : Stage) (notices : List Notice) : Stage :=
  { stage with journal := stage.journal ++ notices.map .notice }

/-- Changes the status. -/
def withStatus (stage : Stage) (status : Status) : Stage := { stage with status }

/-- Lets the host use a control. -/
def control (stage : Stage) (control : Control) : Stage :=
  { stage with desk := stage.desk.apply control }

/-- Opens a new inbox. -/
def openInbox (stage : Stage) : Stage :=
  { stage with desk := { stage.desk with inbox := some [] } }

/-- Takes the inbox away. -/
def closeInbox (stage : Stage) : Stage :=
  { stage with desk := { stage.desk with inbox := none } }

/-- Applies an operation of the depot and lets its events happen. -/
def onDepot (stage : Stage) (result : Depot × List AssetEvent) : Stage :=
  { stage with depot := result.1 }.emitAll (result.2.map .asset)

/-- The notices of the journal. -/
def notices (stage : Stage) : List Notice :=
  stage.journal.filterMap fun
    | .notice notice => some notice
    | .event .. => none

/-- The events of the journal. -/
def events (stage : Stage) : List (Event × Status) :=
  stage.journal.filterMap fun
    | .event event status => some (event, status)
    | .notice _ => none

/-- The stage with an empty journal. -/
def clearJournal (stage : Stage) : Stage := { stage with journal := [] }

end Stage

end Storyboard
