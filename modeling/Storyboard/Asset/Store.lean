import Storyboard.Asset.Fault

/-!
# Asset stores

A store is where assets are loaded from. It decides for each name whether a load succeeds, and a
name can be gated: a load of it does not finish while its gate is closed. Each load that succeeds
yields a handle with a number of its own, in the order in which the loads finish.
-/

namespace Storyboard

/-- A loaded asset: its name, and which successful load it came from. -/
structure Handle where
  /-- The name of the asset. -/
  name : String
  /-- The number of the load, counted from one. -/
  serial : Nat
  deriving DecidableEq, Inhabited

/-- The written form of a handle. -/
def Handle.render (handle : Handle) : String := s!"{handle.name}#{handle.serial}"

/-- Where assets are loaded from. -/
structure Store where
  /-- Why a load of a name fails, if it does. -/
  fault? : String → Option AssetFault
  /-- Whether the gate of a name is closed. -/
  gated : String → Bool
  /-- The number of loads that succeeded so far. -/
  served : Nat

namespace Store

/-- The store that has every asset at once. -/
def ready : Store := ⟨fun _ => none, fun _ => false, 0⟩

/-- Makes loads of a name fail in some way, or succeed. -/
def setFault (store : Store) (name : String) (fault : Option AssetFault) : Store :=
  { store with fault? := fun other => if other = name then fault else store.fault? other }

/-- Closes or opens the gate of a name. -/
def setGate (store : Store) (name : String) (closed : Bool) : Store :=
  { store with gated := fun other => if other = name then closed else store.gated other }

end Store

/-- A load that was started, with its result once it has finished. -/
structure Load where
  /-- The name of the asset. -/
  name : String
  /-- The handle or the failure. -/
  result : Option (Except AssetFault Handle) := none

namespace Load

/-- Whether the load has finished. -/
def isDone (load : Load) : Bool := load.result.isSome

/-- Lets a load finish if its gate is open. -/
def finish (store : Store) (load : Load) : Store × Load :=
  if load.isDone || store.gated load.name then (store, load)
  else
    match store.fault? load.name with
    | some fault => (store, { load with result := some (.error fault) })
    | none =>
      let serial := store.served + 1
      ({ store with served := serial }, { load with result := some (.ok ⟨load.name, serial⟩) })

/-- Lets loads finish, one after another. -/
def finishAll (store : Store) : List Load → Store × List Load
  | [] => (store, [])
  | load :: rest =>
    let (store, load) := load.finish store
    let (store, rest) := finishAll store rest
    (store, load :: rest)

end Load

end Storyboard
