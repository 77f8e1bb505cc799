/-!
# The desk

The desk is what a host controls a player with. It has three switches (pause, loading and stop)
and an inbox for acknowledgements. The inbox exists only while a command is under way: an
acknowledgement that is sent at another time is lost. It keeps the newest `inboxSize` signals.
-/

namespace Storyboard

/-- An acknowledgement. -/
inductive Signal where
  /-- The reader has read the line. -/
  | advance
  /-- The reader chooses an option. -/
  | choose (index : Nat)
  deriving DecidableEq

/-- What a host can do at the desk. -/
inductive Control where
  /-- Sends an acknowledgement. -/
  | signal (signal : Signal)
  /-- Holds back the next command. -/
  | pause
  /-- Lets commands go on. -/
  | resume
  /-- Holds back the first assets of a run, or lets them go. -/
  | loading (on : Bool)
  /-- Asks the run to end. -/
  | stop
  deriving DecidableEq

/-- The switches and the inbox of a player. -/
structure Desk where
  /-- Whether the next command is held back. -/
  paused : Bool := false
  /-- Whether the first assets of a run are held back. -/
  loading : Bool := false
  /-- Whether the run is asked to end. -/
  stopped : Bool := false
  /-- The signals that the command under way has not looked at yet. -/
  inbox : Option (List Signal) := none
  deriving DecidableEq, Inhabited

namespace Desk

/-- How many signals an inbox keeps. -/
def inboxSize : Nat := 16

/-- What the desk is after a control was used. -/
def apply (desk : Desk) : Control → Desk
  | .signal signal => { desk with inbox := desk.inbox.map (· ++ [signal]) }
  | .pause => { desk with paused := true }
  | .resume => { desk with paused := false }
  | .loading on => { desk with loading := on }
  | .stop => { desk with stopped := true }

/-- What the desk is after several controls were used. -/
def applyAll (desk : Desk) (controls : List Control) : Desk := controls.foldl apply desk

/-- The signals that were sent and not looked at. -/
def pending (desk : Desk) : List Signal := desk.inbox.getD []

/-- How many of the pending signals are lost. -/
def lost (desk : Desk) : Nat := desk.pending.length - inboxSize

/-- The pending signals that are kept: the newest ones. -/
def kept (desk : Desk) : List Signal := desk.pending.drop desk.lost

end Desk

end Storyboard
