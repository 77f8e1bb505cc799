import Storyboard.Proofs.Asset.Custody

/-!
# What is resident when faults do not change

As long as a store goes on failing the loads of the same names, a load fails exactly if its name has
a fault, whenever the load finishes. So what is resident once the assets of a label are brought in
does not depend on the order or the time in which loads finish: it is what is required and has no
fault (`Depot.Serves.stocks_settle`).
-/

namespace Storyboard

variable {fault? : String → Option AssetFault}

/-- A load that has finished failed if its name has a fault, and succeeded if it has none. -/
structure Load.Honest (fault? : String → Option AssetFault) (load : Load) : Prop where
  /-- A load that failed has a fault. -/
  failed : ∀ fault, load.result = some (.error fault) → (fault? load.name).isSome = true
  /-- A load that succeeded has none. -/
  loaded : ∀ handle, load.result = some (.ok handle) → fault? load.name = none

namespace Load

theorem fault?_finish (store : Store) (load : Load) :
    (load.finish store).1.fault? = store.fault? := by
  unfold finish
  split
  · rfl
  · split <;> rfl

theorem fault?_finishAll (store : Store) (loads : List Load) :
    (finishAll store loads).1.fault? = store.fault? := by
  induction loads generalizing store with
  | nil => rfl
  | cons load rest ih => exact (ih _).trans (fault?_finish store load)

theorem Honest.finish {store : Store} {load : Load} (h : load.Honest store.fault?) :
    (load.finish store).2.Honest store.fault? := by
  unfold Load.finish
  split
  · exact h
  · split
    · next fault hfault =>
      refine ⟨fun other hother => ?_, nofun⟩
      rw [hfault]
      rfl
    · next hnone => exact ⟨nofun, fun _ _ => hnone⟩

theorem honest_finishAll {store : Store} {loads : List Load}
    (h : ∀ load ∈ loads, load.Honest store.fault?) :
    ∀ load ∈ (finishAll store loads).2, load.Honest store.fault? := by
  induction loads generalizing store with
  | nil => exact nofun
  | cons first rest ih =>
    have hrest : ∀ load ∈ rest, load.Honest (first.finish store).1.fault? := by
      intro load hload
      rw [fault?_finish]
      exact h load (List.mem_cons_of_mem _ hload)
    intro load hload
    obtain rfl | hload := List.mem_cons.1 hload
    · exact (h first List.mem_cons_self).finish
    · have hlater := ih hrest load hload
      rwa [fault?_finish] at hlater

end Load

namespace Depot

/-- What is resident has no fault. -/
def Honest (fault? : String → Option AssetFault) (depot : Depot) : Prop :=
  ∀ name, (depot.handle? name).isSome = true → fault? name = none

/-- What is resident is what is required and has no fault. -/
def Stocks (fault? : String → Option AssetFault) (required : List String) (depot : Depot) : Prop :=
  ∀ name, (depot.handle? name).isSome = true ↔ name ∈ required ∧ fault? name = none

theorem Stocks.honest {required : List String} {depot : Depot} (h : depot.Stocks fault? required) :
    depot.Honest fault? :=
  fun name hname => ((h name).1 hname).2

theorem fault?_reconcile (depot : Depot) (required : List String) :
    (depot.reconcile required).1.store.fault? = depot.store.fault? := by
  rw [(depot.reconcile_eq required).1]
  refine (Load.fault?_finishAll _ _).trans ?_
  rw [store_releaseEach]

theorem fault?_resume (depot : Depot) (batch : Batch) :
    (depot.resume batch).1.store.fault? = depot.store.fault? :=
  Load.fault?_finishAll _ _

theorem Honest.reconcile {depot : Depot} (h : depot.Honest fault?) (required : List String) :
    (depot.reconcile required).1.Honest fault? := by
  intro name hname
  rw [handle?, resident_reconcile, ← handle?, handle?_releaseEach] at hname
  split at hname
  · cases hname
  · exact h name hname

theorem honest_reconcile (depot : Depot) (required : List String) :
    ∀ load ∈ (depot.reconcile required).2.1.loads, load.Honest depot.store.fault? := by
  have hstart : ∀ load ∈ depot.startLoads required, load.Honest
      (depot.releaseEach (depot.stale required)).1.store.fault? := by
    intro load hload
    obtain ⟨name, -, rfl⟩ := List.mem_map.1 hload
    exact ⟨nofun, nofun⟩
  have hfinished := Load.honest_finishAll hstart
  rw [store_releaseEach] at hfinished
  rw [(depot.reconcile_eq required).2, resume, store_releaseEach]
  exact hfinished

/-- **What is resident once a batch is settled** is what is required and has no fault. -/
theorem Serves.stocks_settle {depot : Depot} {required : List String} {batch : Batch}
    (h : depot.Serves required batch) (hdepot : depot.Honest fault?)
    (hbatch : ∀ load ∈ batch.loads, load.Honest fault?) (hdistinct : required.Nodup)
    (hdone : batch.isDone = true) : (depot.settle batch).Stocks fault? required := by
  intro name
  rw [h.isSome_handle?_settle hdistinct hdone]
  refine and_congr_right fun hrequired => ?_
  constructor
  · intro hfailed
    cases hresident : depot.handle? name with
    | some handle => exact hdepot name (by rw [hresident]; rfl)
    | none =>
      -- Not resident before, so a load was started for it; it did not fail, so it succeeded.
      have hname : name ∈ batch.loads.map (·.name) := by
        rw [h.names, missing, List.mem_filter]
        exact ⟨hrequired, by rw [hresident]; rfl⟩
      have hloaded := (Batch.loaded_or_failed hdone hname).resolve_right hfailed
      obtain ⟨load, hload, rfl, handle, hok⟩ := (Batch.mem_loaded_iff _ _).1 hloaded
      exact (hbatch load hload).loaded handle hok
  · intro hnone hfailed
    obtain ⟨load, hload, rfl, fault, herror⟩ := (Batch.mem_failed_iff _ _).1 hfailed
    have hsome := (hbatch load hload).failed fault herror
    rw [hnone] at hsome
    cases hsome

end Depot

end Storyboard
