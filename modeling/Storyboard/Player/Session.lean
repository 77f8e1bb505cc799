import Storyboard.Player.Run

/-!
# Sessions

A session is a player in the hands of a host: a scenario with the label to start from, the stage,
and at most one run in progress. After each thing that the host does, the run in progress goes on
until it has to wait or ends, and the host gets a report.
-/

namespace Storyboard

/-- The label that a scenario starts from if the host names none. -/
def defaultEntry : String := "Start"

/-- The label to start from: the given one or the usual one, if it has anything to play. -/
def Scenario.resolveEntry (scenario : Scenario) : Option String → Except Fault String
  | some label =>
    if (scenario.commands label).isEmpty then .error (.entryNotFound label) else .ok label
  | none =>
    if (scenario.commands defaultEntry).isEmpty then .error (.startNotFound defaultEntry)
    else .ok defaultEntry

/-- Compiles a scenario that is to be played, and finds the label to start from. -/
def Scenario.prepare (options : Options) (sources : Sources) (label : Option String) :
    Compiled (Scenario × String) :=
  (Scenario.compile .builtin options sources).andThen fun scenario =>
    match scenario.resolveEntry label with
    | .error fault => .fail fault
    | .ok entry => .ok (scenario, entry)

/-- A player in the hands of a host. -/
structure Session where
  /-- What is played. -/
  scenario : Scenario
  /-- The label to start from. -/
  entry : String
  /-- What the host shares with the run. -/
  stage : Stage
  /-- The run in progress. -/
  run : Option Run := none

/-- What a host can do at any time without a run going on in between. -/
inductive Request where
  /-- Uses a control. -/
  | control (control : Control)
  /-- Does nothing. -/
  | wait
  /-- Closes or opens the gate of an asset. -/
  | gate (name : String) (closed : Bool)
  /-- Makes loads of an asset fail in some way, or succeed. -/
  | fault (name : String) (fault : Option AssetFault)
  /-- Releases an asset. -/
  | release (name : String)
  /-- Releases all assets. -/
  | releaseAll

/-- What a host can do. -/
inductive Action where
  /-- Makes a request. -/
  | request (request : Request)
  /-- Makes several requests. -/
  | requests (requests : List Request)
  /-- Starts a run, from the given label or the usual one. -/
  | start (label : Option String)
  /-- Creates a run that begins later. -/
  | create (label : Option String)
  /-- Gives up the run in progress. -/
  | drop
  /-- Forgets the run in progress and leaves the stage as it is. -/
  | leak
  /-- Loads new sources. -/
  | reload (options : Options) (sources : Sources)
  /-- Something else. -/
  | unknown

/-- What a host is told about its action. -/
inductive Reply where
  /-- Nothing. -/
  | none
  /-- That it was done. -/
  | done
  /-- Whether it had an effect. -/
  | flag (effective : Bool)
  /-- Whether new sources were loaded. -/
  | loaded (result : Except Fault Unit)
  /-- That it was not possible. -/
  | refused

/-- How a run in progress came to be in progress no more. -/
inductive Ending where
  /-- It ended by itself. -/
  | outcome (outcome : Outcome)
  /-- It was given up. -/
  | dropped
  /-- It was forgotten. -/
  | leaked
  deriving DecidableEq

namespace Session

/-- A session of a compiled scenario with nothing resident. -/
def new (scenario : Scenario) (entry : String) (store : Store) (reactions : List Reaction) :
    Session :=
  { scenario, entry, stage := { depot := .ofStore store, reactions } }

/-- Changes the stage. -/
def onStage (session : Session) (f : Stage → Stage) : Session :=
  { session with stage := f session.stage }

/-- Changes the store. -/
def onStore (session : Session) (f : Store → Store) : Session :=
  session.onStage fun stage =>
    { stage with depot := { stage.depot with store := f stage.depot.store } }

/-- Makes a request. -/
def request (session : Session) : Request → Session × Reply
  | .control control => (session.onStage (·.control control), .none)
  | .wait => (session, .none)
  | .gate name closed => (session.onStore (·.setGate name closed), .done)
  | .fault name fault => (session.onStore (·.setFault name fault), .done)
  | .release name =>
    let (depot, effective, events) := session.stage.depot.release name
    (session.onStage (·.onDepot (depot, events)), .flag effective)
  | .releaseAll =>
    (session.onStage fun stage => stage.onDepot stage.depot.releaseAll, .done)

/-- Creates a run. -/
def create (session : Session) (label : Option String) : Session :=
  { session with run := some (.new (label.getD session.entry)) }

/-- Loads new sources, unless something is played. -/
def reload (session : Session) (options : Options) (sources : Sources) :
    Session × Except Fault Unit :=
  if !session.stage.status.isIdle then (session, .error .playerBusy)
  else
    let compiled := Scenario.compile .builtin options sources
    let session := session.onStage (·.note compiled.notices)
    match compiled.result with
    | .error fault => (session, .error fault)
    | .ok scenario => ({ session with scenario }, .ok ())

/-- Lets the run in progress go on. -/
def proceed (fuel : Nat) (session : Session) : Session × Option Ending :=
  match session.run with
  | none => (session, none)
  | some run =>
    match run.proceed session.scenario fuel session.stage with
    | .waiting stage run => ({ session with stage, run := some run }, none)
    | .moved stage run => ({ session with stage, run := some run }, none)
    | .ended stage outcome => ({ session with stage, run := none }, some (.outcome outcome))

/-- Lets the run in progress go on after an action. -/
def thenProceed (fuel : Nat) (session : Session) (reply : Reply) :
    Session × Reply × Option Ending :=
  let (session, ending) := session.proceed fuel
  (session, reply, ending)

/-- Gives up the run in progress. -/
def drop (session : Session) (run : Run) : Session :=
  { session with run := none, stage := run.abandon session.stage }

/-- Forgets the run in progress. -/
def leak (session : Session) : Session :=
  { session with run := none, stage := session.stage.closeInbox }

/-- An action of the host, with what comes of it. -/
def act (fuel : Nat) (session : Session) : Action → Session × Reply × Option Ending
  | .request request =>
    let (session, reply) := session.request request
    session.thenProceed fuel reply
  | .requests requests =>
    (requests.foldl (fun session request => (session.request request).1) session).thenProceed
      fuel .none
  | .start label =>
    match session.run with
    | some _ => session.thenProceed fuel .refused
    | none => (session.create label).thenProceed fuel .none
  | .create label =>
    match session.run with
    | some _ => (session, .refused, none)
    | none => (session.create label, .none, none)
  | .drop =>
    match session.run with
    | some run => (session.drop run, .none, some .dropped)
    | none => (session, .refused, none)
  | .leak =>
    match session.run with
    | some _ => (session.leak, .none, some .leaked)
    | none => (session, .refused, none)
  | .reload options sources =>
    match session.run with
    | some _ => session.thenProceed fuel .refused
    | none =>
      let (session, result) := session.reload options sources
      session.thenProceed fuel (.loaded result)
  | .unknown => session.thenProceed fuel .refused

/-- The session after the host has gone away. -/
def close (session : Session) : Session :=
  match session.run with
  | some run => session.drop run
  | none => session

end Session

end Storyboard
