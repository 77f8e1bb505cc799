import Storyboard.Asset.Store
import Storyboard.Dict
import Storyboard.Notice
import Storyboard.Text.Escaped

/-!
# Resident assets

A depot keeps the assets that are resident, by name, beside the store they come from. A
reconciliation makes a list of required names resident: it first releases every resident asset
that is not required, then starts a load for every required one that is missing, and when the last
of these loads has finished it takes in all that succeeded. Until then nothing is taken in, so a
reconciliation that is given up adds nothing.
-/

namespace Storyboard

/-- What a store is asked to do. -/
inductive AssetEvent where
  /-- A load starts. -/
  | load (name : String)
  /-- A handle is given back. -/
  | release (name : String) (handle : Handle)
  deriving DecidableEq

/-- The loads of a reconciliation that is under way. -/
structure Batch where
  /-- The names that were released at its start. -/
  released : List String
  /-- The loads that were started. -/
  loads : List Load

namespace Batch

/-- Whether all loads have finished. -/
def isDone (batch : Batch) : Bool := batch.loads.all Load.isDone

/-- The names whose loads succeeded. -/
def loaded (batch : Batch) : List String :=
  (batch.loads.filter fun load => load.result matches some (.ok _)).map (·.name)

/-- The names whose loads failed. -/
def failed (batch : Batch) : List String :=
  (batch.loads.filter fun load => load.result matches some (.error _)).map (·.name)

/-- What is noticed about the loads that failed. -/
def notices (batch : Batch) : List Notice :=
  batch.loads.flatMap fun load =>
    match load.result with
    | some (.error fault) => [.loadFailed load.name fault]
    | _ => []

end Batch

/-- The resident assets and the store behind them. -/
structure Depot where
  /-- Where assets come from. -/
  store : Store
  /-- The resident assets. -/
  resident : Dict Handle

namespace Depot

/-- A depot without resident assets. -/
def ofStore (store : Store) : Depot := ⟨store, .empty⟩

/-- The handle resident under a name. -/
def handle? (depot : Depot) (name : String) : Option Handle := depot.resident.find? name

/-- Releases an asset, and answers whether it was resident. -/
def release (depot : Depot) (name : String) : Depot × Bool × List AssetEvent :=
  match depot.handle? name with
  | some handle =>
    ({ depot with resident := depot.resident.erase name }, true, [.release name handle])
  | none => (depot, false, [])

/-- Releases assets one after another. -/
def releaseEach (depot : Depot) : List String → Depot × List AssetEvent
  | [] => (depot, [])
  | name :: rest =>
    let (depot, _, first) := depot.release name
    let (depot, later) := depot.releaseEach rest
    (depot, first ++ later)

theorem releaseEach_cons (depot : Depot) (name : String) (rest : List String) :
    depot.releaseEach (name :: rest) = (((depot.release name).1.releaseEach rest).1,
      (depot.release name).2.2 ++ ((depot.release name).1.releaseEach rest).2) := rfl

/-- A single release, without its answer. -/
theorem releaseEach_singleton (depot : Depot) (name : String) :
    depot.releaseEach [name] = ((depot.release name).1, (depot.release name).2.2) := by
  rw [releaseEach_cons, releaseEach, List.append_nil]

/-- Releases all assets. -/
def releaseAll (depot : Depot) : Depot × List AssetEvent :=
  depot.releaseEach depot.resident.keys

/-- The resident names that are not required. -/
def stale (depot : Depot) (required : List String) : List String :=
  depot.resident.keys.filter (· ∉ required)

/-- The required names that are not resident. -/
def missing (depot : Depot) (required : List String) : List String :=
  required.filter fun name => (depot.handle? name).isNone

/-- Lets the loads of a batch finish whose gates are open. -/
def resume (depot : Depot) (batch : Batch) : Depot × Batch :=
  let (store, loads) := Load.finishAll depot.store batch.loads
  ({ depot with store }, { batch with loads })

/-- Opens gates one after another while a batch is under way, letting loads finish each time. -/
def openGates (depot : Depot) (batch : Batch) : List String → Depot × Batch
  | [] => (depot, batch)
  | name :: rest =>
    if batch.isDone then (depot, batch)
    else
      let (depot, batch) := { depot with store := depot.store.setGate name false }.resume batch
      depot.openGates batch rest

/-- Begins a reconciliation. -/
def reconcile (depot : Depot) (required : List String) : Depot × Batch × List AssetEvent :=
  let stale := depot.stale required
  let (depot, releases) := depot.releaseEach stale
  -- All loads start before the first of them can finish.
  let missing := depot.missing required
  let (depot, batch) := depot.resume ⟨stale, missing.map fun name => ⟨name, none⟩⟩
  (depot, batch, releases ++ missing.map .load)

/-- Takes in the handle of a load. -/
def takeIn (resident : Dict Handle) (load : Load) : Dict Handle :=
  match load.result with
  | some (.ok handle) => resident.insert load.name handle
  | _ => resident

/-- Ends a reconciliation whose loads have all finished. -/
def settle (depot : Depot) (batch : Batch) : Depot :=
  { depot with resident := batch.loads.foldl takeIn depot.resident }

/-- A listing of the resident names. -/
def describe (depot : Depot) : String :=
  "AssetManager \x7b resident: \x7b" ++
    String.intercalate ", " (depot.resident.keys.map Text.escaped) ++ "\x7d \x7d"

end Depot

end Storyboard
