/-!
# The status of a player

The status says where a run is: its phase, the label it is at, the command under way, and what
that command waits for.
-/

namespace Storyboard

/-- The phase of a run. -/
inductive Phase where
  /-- Nothing is played. -/
  | idle
  /-- A run has begun. -/
  | starting
  /-- The assets of a label are brought in. -/
  | preloading
  /-- The commands of a label are under way. -/
  | running
  /-- The run comes to its end. -/
  | ending
  deriving DecidableEq, Inhabited

/-- The written form of a phase. -/
def Phase.render : Phase → String
  | idle => "Idle"
  | starting => "Starting"
  | preloading => "PreloadAssets"
  | running => "RunningLabel"
  | ending => "Ending"

/-- What a command waits for. -/
inductive Suspension where
  /-- Nothing. -/
  | none
  /-- That its line is read. -/
  | line
  /-- That an option is chosen. -/
  | selection
  deriving DecidableEq, Inhabited

/-- The written form of a suspension. -/
def Suspension.render : Suspension → String
  | none => "None"
  | line => "Line"
  | selection => "Selection"

/-- Where a run is. -/
structure Status where
  /-- The phase. -/
  phase : Phase := .idle
  /-- The label. -/
  label : Option String := none
  /-- The position of the command under way. -/
  index : Option Nat := none
  /-- What that command waits for. -/
  suspension : Suspension := .none
  deriving DecidableEq, Inhabited

namespace Status

/-- The status while nothing is played. -/
def idle : Status := {}

/-- Whether nothing is played. -/
def isIdle (status : Status) : Bool := status.phase = .idle

/-- The status on entering a phase of a label. -/
def enter (phase : Phase) (label : String) : Status := { phase, label := some label }

/-- The status when a command begins. -/
def atCommand (status : Status) (index : Nat) : Status :=
  { status with index := some index, suspension := .none }

/-- The status when the command under way begins or ends to wait. -/
def suspend (status : Status) (suspension : Suspension) : Status := { status with suspension }

end Status

end Storyboard
