import Storyboard.Proofs.Asset.Reconciliation

/-!
# Who holds a handle

A handle comes from a load that succeeds. From then on it is held by the batch of the load, until
the batch is settled and the handle becomes resident, and it is resident until it is given back to
the store. So the handles that a depot and its batch hold, with those that were given back, are
those that were yielded; how often a handle is in each of these places is kept in balance by every
operation of a depot (`Depot.count_release`, `Depot.count_reconcile`, `Depot.count_resume`,
`Depot.count_settle`). The numbers of the handles that a store yields are consecutive
(`Load.serial_yield`), so no handle is yielded twice.
-/

namespace Storyboard

/-! ### What loads yield -/

namespace Load

/-- The handle that a load has yielded, if it has succeeded. -/
def handle? (load : Load) : Option Handle :=
  match load.result with
  | some (.ok handle) => some handle
  | _ => none

/-- The handle that a load yields now: it has not finished, its gate is open and it succeeds. -/
def yields? (store : Store) (load : Load) : Option Handle :=
  if load.isDone || store.gated load.name || (store.fault? load.name).isSome then none
  else some ⟨load.name, store.served + 1⟩

/-- The handles that loads yield now, one after another. -/
def yield (store : Store) : List Load → List Handle
  | [] => []
  | load :: rest => (load.yields? store).toList ++ yield (load.finish store).1 rest

theorem finish_cases (store : Store) (load : Load) :
    (load.yields? store = none ∧ (load.finish store).1 = store ∧
      (load.finish store).2.handle? = load.handle?) ∨
    (load.handle? = none ∧ load.yields? store = some ⟨load.name, store.served + 1⟩ ∧
      (load.finish store).1 = { store with served := store.served + 1 } ∧
      (load.finish store).2.handle? = some ⟨load.name, store.served + 1⟩) := by
  unfold yields? finish
  cases hdone : load.isDone with
  | true => exact .inl ⟨rfl, rfl, rfl⟩
  | false =>
    -- A load that is under way holds nothing yet.
    have hnone : load.handle? = none := by
      have hresult : load.result = none := by simpa [isDone] using hdone
      rw [handle?, hresult]
    cases hgate : store.gated load.name with
    | true => exact .inl ⟨rfl, rfl, rfl⟩
    | false =>
      cases hfault : store.fault? load.name with
      | some fault => exact .inl ⟨rfl, rfl, hnone.symm⟩
      | none => exact .inr ⟨hnone, rfl, rfl, rfl⟩

/-- **The numbers of the handles that loads yield are consecutive**, from the next number of the
store on. -/
theorem serial_yield (store : Store) (loads : List Load) :
    (yield store loads).map (·.serial) = List.range' (store.served + 1) (yield store loads).length ∧
      (finishAll store loads).1.served = store.served + (yield store loads).length := by
  induction loads generalizing store with
  | nil => exact ⟨rfl, rfl⟩
  | cons load rest ih =>
    obtain ⟨hserials, hserved⟩ := ih (load.finish store).1
    obtain ⟨hnone, hstore, -⟩ | ⟨-, hsome, hstore, -⟩ := load.finish_cases store
    · simp only [yield, finishAll, hnone, hstore] at hserials hserved ⊢
      exact ⟨hserials, hserved⟩
    · simp only [yield, finishAll, hsome, hstore] at hserials hserved ⊢
      refine ⟨congrArg (List.cons (store.served + 1)) hserials, hserved.trans ?_⟩
      rw [Option.toList_some, List.length_append, List.length_singleton, Nat.add_assoc]

/-- **What loads hold after they were let finish** is what they held and what they yielded. -/
theorem count_finishAll (store : Store) (loads : List Load) (handle : Handle) :
    ((finishAll store loads).2.filterMap Load.handle?).count handle =
      (loads.filterMap Load.handle?).count handle + (yield store loads).count handle := by
  have hcons : ∀ (load : Load) (rest : List Load),
      ((load :: rest).filterMap Load.handle?).count handle =
        load.handle?.toList.count handle + (rest.filterMap Load.handle?).count handle := by
    intro load rest
    cases h : load.handle? <;> simp [h, List.count_cons, Nat.add_comm]
  induction loads generalizing store with
  | nil => rfl
  | cons load rest ih =>
    have hrest := ih (load.finish store).1
    simp only [finishAll, yield, hcons, List.count_append]
    -- A load either stays as it is or gets the handle that the store yields for it.
    obtain ⟨hnone, -, hsame⟩ | ⟨hempty, hsome, -, hnew⟩ := load.finish_cases store
    · rw [hnone, hsame, hrest, Option.toList_none, List.count_nil]
      omega
    · rw [hempty, hsome, hnew, hrest, Option.toList_none, List.count_nil]
      omega

/-- The load holds a handle only under its own name, and one that the store has yielded. -/
def Sound (served : Nat) (load : Load) : Prop :=
  ∀ handle, load.handle? = some handle → handle.name = load.name ∧ handle.serial ≤ served

theorem Sound.mono {load : Load} {served later : Nat} (h : load.Sound served)
    (hle : served ≤ later) : load.Sound later := by
  intro handle hhandle
  obtain ⟨hname, hserial⟩ := h handle hhandle
  exact ⟨hname, hserial.trans hle⟩

theorem Sound.finish {load : Load} {store : Store} (h : load.Sound store.served) :
    (load.finish store).2.Sound (load.finish store).1.served := by
  intro handle hhandle
  rw [name_finish]
  obtain ⟨-, hstore, hsame⟩ | ⟨-, -, hstore, hnew⟩ := load.finish_cases store
  · rw [hstore]
    exact h handle (hsame ▸ hhandle)
  · rw [hstore]
    rw [hnew] at hhandle
    cases hhandle
    exact ⟨rfl, Nat.le_refl _⟩

theorem sound_finishAll {store : Store} {loads : List Load}
    (h : ∀ load ∈ loads, load.Sound store.served) :
    ∀ load ∈ (finishAll store loads).2, load.Sound (finishAll store loads).1.served := by
  induction loads generalizing store with
  | nil => simp [finishAll]
  | cons load rest ih =>
    -- The numbers only grow, so what was sound stays so.
    have hserved : store.served ≤ (load.finish store).1.served := by
      obtain ⟨-, hstore, -⟩ | ⟨-, -, hstore, -⟩ := load.finish_cases store <;> simp [hstore]
    have hrest : ∀ other ∈ rest, other.Sound (load.finish store).1.served :=
      fun other hother => (h other (List.mem_cons_of_mem _ hother)).mono hserved
    intro other hother
    obtain rfl | hother := List.mem_cons.1 hother
    · refine (h load List.mem_cons_self).finish.mono ?_
      rw [finishAll, (serial_yield _ rest).2]
      exact Nat.le_add_right _ _
    · exact ih hrest other hother

end Load

/-- The handles that a batch holds. -/
def Batch.handles (batch : Batch) : List Handle := batch.loads.filterMap Load.handle?

/-- The handles that a pending batch holds. -/
def heldBy (batch? : Option Batch) : List Handle := batch?.elim [] Batch.handles

/-- The handle that the store gets back, if it gets one. -/
def AssetEvent.returned? : AssetEvent → Option Handle
  | load _ => none
  | release _ handle => some handle

namespace Depot

/-- The handles that are resident. -/
def holdings (depot : Depot) : List Handle := depot.resident.values

/-- The loads that a reconciliation starts. -/
def startLoads (depot : Depot) (required : List String) : List Load :=
  ((depot.releaseEach (depot.stale required)).1.missing required).map fun name => ⟨name, none⟩

/-! ### Releasing -/

theorem store_releaseEach (depot : Depot) (names : List String) :
    (depot.releaseEach names).1.store = depot.store := by
  induction names generalizing depot with
  | nil => rfl
  | cons name rest ih =>
    rw [releaseEach_cons]
    refine (ih _).trans ?_
    unfold release
    split <;> rfl

/-- **A handle that is released was resident and is given back.** -/
theorem count_release (depot : Depot) (name : String) (handle : Handle) :
    depot.holdings.count handle = (depot.release name).1.holdings.count handle +
      ((depot.release name).2.2.filterMap AssetEvent.returned?).count handle := by
  unfold release
  cases h : depot.handle? name with
  | none => rfl
  | some found =>
    have hcount := (Dict.perm_values_erase h).count_eq handle
    rw [List.count_cons] at hcount
    simpa [holdings, AssetEvent.returned?, List.count_cons] using hcount

theorem count_releaseEach (depot : Depot) (names : List String) (handle : Handle) :
    depot.holdings.count handle = (depot.releaseEach names).1.holdings.count handle +
      ((depot.releaseEach names).2.filterMap AssetEvent.returned?).count handle := by
  induction names generalizing depot with
  | nil => rfl
  | cons name rest ih =>
    have hfirst := depot.count_release name handle
    have hrest := ih (depot.release name).1
    simp only [releaseEach_cons, List.filterMap_append, List.count_append]
    omega

/-! ### Batches -/

/-- The batch fits a depot: it loads distinct names that are not resident, and what it holds it
holds under its own name. -/
structure Fits (depot : Depot) (batch : Batch) : Prop where
  /-- The names are distinct. -/
  distinct : (batch.loads.map (·.name)).Nodup
  /-- The names are not resident. -/
  absent : ∀ load ∈ batch.loads, depot.handle? load.name = none
  /-- Each handle is held by the load of its name. -/
  sound : ∀ load ∈ batch.loads, load.Sound depot.store.served

/-- Each resident handle stands under its own name and was yielded by the store. -/
def Sound (depot : Depot) : Prop :=
  ∀ name handle, depot.handle? name = some handle →
    handle.name = name ∧ handle.serial ≤ depot.store.served

theorem sound_ofStore (store : Store) : (ofStore store).Sound := nofun

/-- Only what is resident and how many loads have succeeded matters. -/
theorem Sound.of_le {depot after : Depot} (h : depot.Sound)
    (hresident : ∀ name handle, after.handle? name = some handle →
      depot.handle? name = some handle)
    (hserved : depot.store.served ≤ after.store.served) : after.Sound := by
  intro name handle hhandle
  obtain ⟨hname, hserial⟩ := h name handle (hresident name handle hhandle)
  exact ⟨hname, hserial.trans hserved⟩

theorem Fits.of_le {depot after : Depot} {batch : Batch} (h : depot.Fits batch)
    (hresident : ∀ name handle, after.handle? name = some handle →
      depot.handle? name = some handle)
    (hserved : depot.store.served ≤ after.store.served) : after.Fits batch where
  distinct := h.distinct
  absent load hload := by
    cases hhandle : after.handle? load.name with
    | none => rfl
    | some handle =>
      have hnone := h.absent load hload
      rw [hresident _ _ hhandle] at hnone
      cases hnone
  sound load hload := (h.sound load hload).mono hserved

theorem handle?_of_releaseEach {depot : Depot} {names : List String} {name : String}
    {handle : Handle} (h : (depot.releaseEach names).1.handle? name = some handle) :
    depot.handle? name = some handle := by
  rw [handle?_releaseEach] at h
  split at h
  · cases h
  · exact h

/-- The depot and the batch after loads were let finish. -/
theorem fits_resume {depot : Depot} {batch : Batch} (h : depot.Fits batch) :
    (depot.resume batch).1.Fits (depot.resume batch).2 where
  distinct := by
    rw [resume]
    dsimp only
    rw [Load.map_name_finishAll]
    exact h.distinct
  absent load hload := by
    have hname : load.name ∈ (Load.finishAll depot.store batch.loads).2.map (·.name) :=
      List.mem_map_of_mem hload
    rw [Load.map_name_finishAll] at hname
    obtain ⟨other, hother, hsame⟩ := List.mem_map.1 hname
    exact hsame ▸ h.absent other hother
  sound := Load.sound_finishAll h.sound

theorem served_resume (depot : Depot) (batch : Batch) :
    (depot.resume batch).1.store.served =
      depot.store.served + (Load.yield depot.store batch.loads).length :=
  (Load.serial_yield _ _).2

/-- **What is held after loads were let finish** is what was held and what they yielded. -/
theorem count_resume (depot : Depot) (batch : Batch) (handle : Handle) :
    (depot.resume batch).2.handles.count handle =
      batch.handles.count handle + (Load.yield depot.store batch.loads).count handle :=
  Load.count_finishAll _ _ _

theorem startLoads_fits (depot : Depot) {required : List String} (h : required.Nodup) :
    (depot.releaseEach (depot.stale required)).1.Fits
      ⟨depot.stale required, depot.startLoads required⟩ where
  distinct := by
    rw [startLoads, List.map_map]
    exact (List.map_id' _).symm ▸ h.filter _
  absent load hload := by
    obtain ⟨name, hname, rfl⟩ := List.mem_map.1 hload
    exact Option.isNone_iff_eq_none.1 (List.mem_filter.1 hname).2
  sound load hload := by
    obtain ⟨name, -, rfl⟩ := List.mem_map.1 hload
    nofun

theorem reconcile_eq (depot : Depot) (required : List String) :
    (depot.reconcile required).1 = ((depot.releaseEach (depot.stale required)).1.resume
        ⟨depot.stale required, depot.startLoads required⟩).1 ∧
      (depot.reconcile required).2.1 = ((depot.releaseEach (depot.stale required)).1.resume
        ⟨depot.stale required, depot.startLoads required⟩).2 :=
  ⟨rfl, rfl⟩

theorem fits_reconcile (depot : Depot) {required : List String} (h : required.Nodup) :
    (depot.reconcile required).1.Fits (depot.reconcile required).2.1 := by
  rw [(depot.reconcile_eq required).1, (depot.reconcile_eq required).2]
  exact fits_resume (depot.startLoads_fits h)

theorem served_reconcile (depot : Depot) (required : List String) :
    (depot.reconcile required).1.store.served =
      depot.store.served + (Load.yield depot.store (depot.startLoads required)).length := by
  have hserved := served_resume (depot.releaseEach (depot.stale required)).1
    ⟨depot.stale required, depot.startLoads required⟩
  rw [store_releaseEach] at hserved
  rw [(depot.reconcile_eq required).1]
  exact hserved

/-- What was resident is resident when a reconciliation begins, or it is given back. -/
theorem count_reconcile_resident (depot : Depot) (required : List String) (handle : Handle) :
    depot.holdings.count handle = (depot.reconcile required).1.holdings.count handle +
      ((depot.reconcile required).2.2.filterMap AssetEvent.returned?).count handle := by
  have hreturned : (depot.reconcile required).2.2.filterMap AssetEvent.returned? =
      (depot.releaseEach (depot.stale required)).2.filterMap AssetEvent.returned? := by
    simp [reconcile, List.filterMap_append, List.filterMap_map, Function.comp_def,
      AssetEvent.returned?]
  rw [hreturned]
  exact depot.count_releaseEach (depot.stale required) handle

/-- The batch of a reconciliation holds what its loads yield at once. -/
theorem count_reconcile_handles (depot : Depot) (required : List String) (handle : Handle) :
    (depot.reconcile required).2.1.handles.count handle =
      (Load.yield depot.store (depot.startLoads required)).count handle := by
  have hresumed := count_resume (depot.releaseEach (depot.stale required)).1
    ⟨depot.stale required, depot.startLoads required⟩ handle
  have hempty : (Batch.handles ⟨depot.stale required, depot.startLoads required⟩) = [] := by
    simp [Batch.handles, startLoads, Load.handle?]
  rw [store_releaseEach, hempty, List.count_nil, Nat.zero_add] at hresumed
  rw [(depot.reconcile_eq required).2]
  exact hresumed

/-- **A reconciliation keeps the balance**: what was resident and what its loads yield at once is
resident, held by the batch, or given back. -/
theorem count_reconcile (depot : Depot) (required : List String) (handle : Handle) :
    depot.holdings.count handle +
        (Load.yield depot.store (depot.startLoads required)).count handle =
      (depot.reconcile required).1.holdings.count handle +
        (depot.reconcile required).2.1.handles.count handle +
        ((depot.reconcile required).2.2.filterMap AssetEvent.returned?).count handle := by
  have hresident := depot.count_reconcile_resident required handle
  have hhandles := depot.count_reconcile_handles required handle
  omega

theorem handle?_of_reconcile {depot : Depot} {required : List String} {name : String}
    {handle : Handle} (h : (depot.reconcile required).1.handle? name = some handle) :
    depot.handle? name = some handle :=
  handle?_of_releaseEach h

/-! ### Settling -/

theorem foldl_takeIn_spec {resident : Dict Handle} {loads : List Load}
    (hdistinct : (loads.map (·.name)).Nodup)
    (habsent : ∀ load ∈ loads, resident.find? load.name = none) (handle : Handle) :
    (loads.foldl takeIn resident).values.count handle =
      resident.values.count handle + (loads.filterMap Load.handle?).count handle := by
  induction loads generalizing resident with
  | nil => rfl
  | cons load rest ih =>
    obtain ⟨hfirst, hrest⟩ := List.nodup_cons.1 hdistinct
    -- Taking in one load leaves the other names absent, since the names are distinct.
    have habsent' : ∀ other ∈ rest, (takeIn resident load).find? other.name = none := by
      intro other hother
      have hne : other.name ≠ load.name :=
        fun heq => hfirst (List.mem_map.2 ⟨other, hother, heq⟩)
      have hnone := habsent other (List.mem_cons_of_mem _ hother)
      unfold takeIn
      split
      · rw [Dict.find?_insert, if_neg hne, hnone]
      · exact hnone
    rw [List.foldl_cons, ih hrest habsent']
    unfold takeIn
    split
    · next found hresult =>
      have hcount := (Dict.perm_values_insert found
        (habsent load List.mem_cons_self)).count_eq handle
      have hhandle : load.handle? = some found := by rw [Load.handle?, hresult]
      rw [hcount, List.filterMap_cons_some hhandle, List.count_cons, List.count_cons]
      omega
    · next hother =>
      have hhandle : load.handle? = none := by
        unfold Load.handle?
        split
        · next found hresult => exact absurd hresult (hother found)
        · rfl
      rw [List.filterMap_cons_none hhandle]

/-- **What a batch holds becomes resident when it is settled.** -/
theorem count_settle {depot : Depot} {batch : Batch} (h : depot.Fits batch) (handle : Handle) :
    (depot.settle batch).holdings.count handle =
      depot.holdings.count handle + batch.handles.count handle :=
  foldl_takeIn_spec h.distinct h.absent handle

theorem find?_foldl_takeIn {resident : Dict Handle} {loads : List Load} {name : String}
    {handle : Handle} (h : (loads.foldl takeIn resident).find? name = some handle) :
    resident.find? name = some handle ∨
      ∃ load ∈ loads, load.name = name ∧ load.handle? = some handle := by
  induction loads generalizing resident with
  | nil => exact .inl h
  | cons load rest ih =>
    obtain h | ⟨other, hother, hfound⟩ := ih h
    · -- Resident after the first load was taken in: from before, or from that load.
      unfold takeIn at h
      split at h
      · next found hresult =>
        rw [Dict.find?_insert] at h
        split at h
        · next hname =>
          cases h
          exact .inr ⟨load, List.mem_cons_self, hname.symm, by rw [Load.handle?, hresult]⟩
        · exact .inl h
      · exact .inl h
    · exact .inr ⟨other, List.mem_cons_of_mem _ hother, hfound⟩

theorem Sound.settle {depot : Depot} {batch : Batch} (h : depot.Sound) (hfits : depot.Fits batch) :
    (depot.settle batch).Sound := by
  intro name handle hhandle
  obtain hfound | ⟨load, hload, rfl, hfound⟩ := find?_foldl_takeIn hhandle
  · exact h name handle hfound
  · exact hfits.sound load hload handle hfound

/-! ### Batches that may be pending -/

section

variable {depot : Depot} {batch : Batch}

theorem count_settled (h : depot.Fits batch) (handle : Handle) :
    (depot.settled batch).holdings.count handle +
        (heldBy (if batch.isDone then none else some batch)).count handle =
      depot.holdings.count handle + batch.handles.count handle := by
  unfold settled
  cases batch.isDone with
  | true => exact count_settle h handle
  | false => rfl

theorem Sound.settled (h : depot.Sound) (hfits : depot.Fits batch) :
    (depot.settled batch).Sound := by
  unfold Depot.settled
  split
  · exact h.settle hfits
  · exact h

theorem fits_settled (h : depot.Fits batch) (pending : Batch)
    (hpending : (if batch.isDone then none else some batch) = some pending) :
    (depot.settled batch).Fits pending := by
  unfold settled
  split at hpending
  · cases hpending
  · next hdone =>
    cases hpending
    rwa [if_neg hdone]

theorem served_settled (depot : Depot) (batch : Batch) :
    (depot.settled batch).store.served = depot.store.served := by
  unfold settled
  split <;> rfl

end

end Depot

end Storyboard
