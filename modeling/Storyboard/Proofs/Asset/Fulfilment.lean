import Storyboard.Proofs.Asset.Registry
import Mathlib.Data.List.Induction

/-!
# A reconciliation from its beginning to its end

A reconciliation releases what is not required, starts a load for each required name that is not
resident, and waits. While it waits, loads finish in any order, the store may change its mind about
later ones, and assets may be released from outside (`Errand.isInterim`). What it waits for stays
the same meanwhile, and what is resident are the kept handles that were not released
(`Depot.Awaits`). So neither the order of the loads nor the time of the releases matters: when the
last load has finished, the loaded handles join the kept ones, and nothing else has changed
(`Batch.Fulfils`, `Keeper.reconcile_brings_in_missing`).
-/

namespace Storyboard

/-! ### What can happen meanwhile -/

namespace Errand

/-- Whether the errand leaves a pending reconciliation to itself: loads finish, the store changes,
or assets are released. -/
def isInterim : Errand → Bool
  | reconcile .. => false
  | abandon => false
  | _ => true

/-- Whether the errand releases an asset, should it be resident. -/
def releases (name : String) : Errand → Bool
  | release other => other == name
  | releaseAll => true
  | _ => false

end Errand

namespace Keeper

/-- The depot and the batch that an errand has looked after, before the batch is settled. -/
def attended? (keeper : Keeper) : Errand → Option (Depot × Batch)
  | .reconcile required _ =>
    match keeper.batch? with
    | some _ => none
    | none => some ((keeper.depot.reconcile required).1, (keeper.depot.reconcile required).2.1)
  | .poll => keeper.batch?.map keeper.depot.resume
  | _ => none

end Keeper

/-- The report of the reconciliation that a transaction completes: its batch, with the names that
were released, loaded and failed. -/
def Transaction.report? (transaction : Transaction) : Option Batch :=
  ((transaction.keeper.attended? transaction.errand).map (·.2)).filter Batch.isDone

/-- The report of the reconciliation that the last of some errands completes. -/
def Keeper.report? (keeper : Keeper) (errands : List Errand) : Option Batch :=
  (keeper.transactions errands).getLast?.bind Transaction.report?

theorem Load.result_of_handle? {load : Load} {handle : Handle} (h : load.handle? = some handle) :
    load.result = some (.ok handle) := by
  unfold Load.handle? at h
  split at h
  · next hresult =>
    cases h
    exact hresult
  · cases h

namespace Depot

/-- The handle under a name that a reconciliation keeps while errands are run. -/
def kept? (depot : Depot) (required : List String) (waits : List Errand) (name : String) :
    Option Handle :=
  if name ∈ required ∧ ∀ errand ∈ waits, errand.releases name = false then depot.handle? name
  else none

/-- What the store is asked for when names are released: each resident handle is given back. -/
def givesBack (depot : Depot) (names : List String) : List AssetEvent :=
  names.filterMap fun name => (depot.handle? name).map (.release name)

/-! ### How a reconciliation begins -/

section

variable (depot : Depot) (required : List String)

theorem nodup_stale : (depot.stale required).Nodup :=
  depot.resident.keys_sorted.nodup.filter _

theorem mem_stale_iff (name : String) :
    name ∈ depot.stale required ↔ (depot.handle? name).isSome = true ∧ name ∉ required := by
  rw [stale, List.mem_filter, Dict.mem_keys_iff, decide_eq_true_iff, handle?]

/-- What is resident once a reconciliation has begun: what is required of what was. -/
theorem handle?_reconcile (name : String) :
    (depot.reconcile required).1.handle? name =
      if name ∈ required then depot.handle? name else none := by
  rw [handle?, resident_reconcile, ← handle?, handle?_releaseEach]
  by_cases hrequired : name ∈ required
  · have hstale : name ∉ depot.stale required := fun h => ((mem_stale_iff ..).1 h).2 hrequired
    rw [if_neg hstale, if_pos hrequired]
  · rw [if_neg hrequired]
    by_cases hstale : name ∈ depot.stale required
    · rw [if_pos hstale]
    · rw [if_neg hstale]
      by_contra hresident
      exact hstale ((mem_stale_iff ..).2 ⟨Option.isSome_iff_ne_none.2 hresident, hrequired⟩)

theorem missing_releaseEach_stale :
    (depot.releaseEach (depot.stale required)).1.missing required = depot.missing required := by
  unfold missing
  refine List.filter_congr fun name hname => ?_
  have hkept := depot.handle?_reconcile required name
  rw [if_pos hname, handle?, resident_reconcile, ← handle?] at hkept
  rw [hkept]

/-- Releasing distinct names gives back what is resident under them, in the order of the names. -/
theorem events_releaseEach {names : List String} (h : names.Nodup) :
    (depot.releaseEach names).2 = depot.givesBack names := by
  induction names generalizing depot with
  | nil => rfl
  | cons name rest ih =>
    obtain ⟨hname, hrest⟩ := List.nodup_cons.1 h
    -- The first release takes nothing from the names after it.
    have hlater : (depot.release name).1.givesBack rest = depot.givesBack rest := by
      refine List.filterMap_congr fun other hother => ?_
      have hne : other ≠ name := fun heq => hname (heq ▸ hother)
      rw [handle?_release, if_neg hne]
    rw [releaseEach_cons, ih _ hrest, hlater]
    unfold release givesBack
    cases hhandle : depot.handle? name with
    | some handle => simp [hhandle]
    | none => simp [hhandle]

/-- **A reconciliation begins** by releasing what is not required and then starting the loads of
what is missing, both in the order of the names. -/
theorem events_reconcile :
    (depot.reconcile required).2.2 =
      depot.givesBack (depot.stale required) ++ (depot.missing required).map .load := by
  have hevents : (depot.reconcile required).2.2 =
      (depot.releaseEach (depot.stale required)).2 ++
        ((depot.releaseEach (depot.stale required)).1.missing required).map .load := rfl
  rw [hevents, missing_releaseEach_stale, events_releaseEach _ (depot.nodup_stale required)]

end

/-! ### While it is pending -/

/-- A reconciliation of `start` that has waited while errands were run: the batch loads what was
missing at first, and the kept handles that were not released are resident. -/
structure Awaits (start : Depot) (required : List String) (waits : List Errand) (now : Depot)
    (batch : Batch) : Prop where
  /-- The released names are those that were not required. -/
  released : batch.released = start.stale required
  /-- The names that are loaded are those that were missing. -/
  names : batch.loads.map (·.name) = start.missing required
  /-- What is resident was kept. -/
  resident : ∀ name, now.handle? name = start.kept? required waits name
  /-- The batch fits the depot. -/
  fits : now.Fits batch

section

variable {start now : Depot} {required : List String} {waits : List Errand} {batch : Batch}

theorem kept?_nil (start : Depot) (required : List String) (name : String) :
    start.kept? required [] name = if name ∈ required then start.handle? name else none := by
  simp [kept?]

theorem kept?_concat (start : Depot) (required : List String) (waits : List Errand)
    (errand : Errand) (name : String) :
    start.kept? required (waits ++ [errand]) name =
      if errand.releases name then none else start.kept? required waits name := by
  unfold kept?
  cases hreleases : errand.releases name with
  | true => simp [or_imp, forall_and, hreleases]
  | false => simp [or_imp, forall_and, hreleases]

theorem awaits_reconcile (start : Depot) (hsorted : required.Pairwise (· < ·)) :
    start.Awaits required [] (start.reconcile required).1 (start.reconcile required).2.1 where
  released := rfl
  names := (start.names_reconcile required).trans (start.missing_releaseEach_stale required)
  resident name := by rw [handle?_reconcile, kept?_nil]
  fits := start.fits_reconcile hsorted.nodup

namespace Awaits

/-- Loads that finish change nothing yet. -/
theorem resume (h : start.Awaits required waits now batch) :
    start.Awaits required (waits ++ [.poll]) (now.resume batch).1 (now.resume batch).2 where
  released := h.released
  names := (Load.map_name_finishAll _ _).trans h.names
  resident name := by
    rw [kept?_concat]
    exact h.resident name
  fits := fits_resume h.fits

theorem releaseEach (h : start.Awaits required waits now batch) {names : List String}
    {errand : Errand}
    (hnames : ∀ name, (now.handle? name).isSome = true →
      (name ∈ names ↔ errand.releases name = true)) :
    start.Awaits required (waits ++ [errand]) (now.releaseEach names).1 batch where
  released := h.released
  names := h.names
  resident name := by
    rw [kept?_concat, handle?_releaseEach, ← h.resident]
    cases hhandle : now.handle? name with
    | none => simp
    | some handle =>
      -- What the errand releases matters only where something is resident.
      have hreleased := hnames name (by rw [hhandle]; rfl)
      by_cases hname : name ∈ names
      · rw [if_pos hname, if_pos (hreleased.1 hname)]
      · rw [if_neg hname, if_neg fun hreleases => hname (hreleased.2 hreleases)]
  fits := h.fits.of_le (fun _ _ => handle?_of_releaseEach) (by rw [store_releaseEach])

theorem alter (h : start.Awaits required waits now batch) (fault? : String → Option AssetFault)
    (gated : String → Bool) :
    start.Awaits required (waits ++ [.alter fault? gated])
      { now with store := { now.store with fault?, gated } } batch where
  released := h.released
  names := h.names
  resident name := by
    rw [kept?_concat]
    exact h.resident name
  fits := h.fits.of_le (fun _ _ => id) le_rfl

end Awaits

end

/-- **What is resident once a batch is settled**: what was, and what its loads have yielded. -/
theorem Fits.handle?_settle_iff {depot : Depot} {batch : Batch} (h : depot.Fits batch)
    (name : String) (handle : Handle) :
    (depot.settle batch).handle? name = some handle ↔
      depot.handle? name = some handle ∨
        ∃ load ∈ batch.loads, load.name = name ∧ load.handle? = some handle := by
  constructor
  · exact find?_foldl_takeIn
  · intro hsource
    have hsome : ((depot.settle batch).handle? name).isSome = true := by
      rw [isSome_handle?_settle, Batch.mem_loaded_iff]
      rcases hsource with hresident | ⟨load, hload, hname, hhandle⟩
      · exact .inl (by rw [hresident]; rfl)
      · exact .inr ⟨load, hload, hname, handle, Load.result_of_handle? hhandle⟩
    obtain ⟨found, hfound⟩ := Option.isSome_iff_exists.1 hsome
    rw [hfound]
    -- The batch loads other names than those that are resident, and each name once.
    rcases find?_foldl_takeIn hfound with hresident | ⟨other, hother, hsame, hyielded⟩
    · rcases hsource with hhandle | ⟨load, hload, rfl, -⟩
      · exact hresident.symm.trans hhandle
      · have hnone : depot.resident.find? load.name = none := h.absent load hload
        rw [hnone] at hresident
        cases hresident
    · rcases hsource with hhandle | ⟨load, hload, hname, hhandle⟩
      · rw [← hsame, h.absent other hother] at hhandle
        cases hhandle
      · obtain rfl : other = load :=
          List.inj_on_of_nodup_map h.distinct hother hload (hsame.trans hname.symm)
        exact hyielded.symm.trans hhandle

end Depot

/-! ### When it is complete -/

namespace Batch

variable {batch : Batch}

theorem loaded_sublist (batch : Batch) : batch.loaded.Sublist (batch.loads.map (·.name)) :=
  List.filter_sublist.map _

theorem failed_sublist (batch : Batch) : batch.failed.Sublist (batch.loads.map (·.name)) :=
  List.filter_sublist.map _

/-- **The loads of a batch that is done** are those that succeeded and those that failed. -/
theorem loaded_append_failed_perm (h : batch.isDone = true) :
    (batch.loaded ++ batch.failed).Perm (batch.loads.map (·.name)) := by
  have hparts : ∀ p q : Load → Bool, (∀ load ∈ batch.loads, q load = !p load) →
      (batch.loads.filter p ++ batch.loads.filter q).Perm batch.loads := by
    intro p q hopposite
    rw [List.filter_congr hopposite]
    exact List.filter_append_perm p batch.loads
  rw [loaded, failed, ← List.map_append]
  apply List.Perm.map
  apply hparts
  intro load hload
  obtain ⟨result, hresult⟩ := Option.isSome_iff_exists.1 (List.all_eq_true.1 h load hload)
  rw [hresult]
  cases result <;> rfl

/-- What a reconciliation of `start` that is complete has come to, with its report and the depot
afterwards. -/
structure Fulfils (start : Depot) (required : List String) (waits : List Errand) (batch : Batch)
    (now : Depot) : Prop where
  /-- The released names are those that were resident and not required. -/
  released : batch.released = start.stale required
  /-- The loaded names are in order. -/
  loaded_sorted : batch.loaded.Pairwise (· < ·)
  /-- The failed names are in order. -/
  failed_sorted : batch.failed.Pairwise (· < ·)
  /-- Each name that was missing is in one of the two lists, once. -/
  parts : (batch.loaded ++ batch.failed).Perm (start.missing required)
  /-- The loaded names are those whose load has yielded a handle. -/
  loaded_iff : ∀ name, name ∈ batch.loaded ↔
    ∃ load ∈ batch.loads, load.name = name ∧ ∃ handle, load.result = some (.ok handle)
  /-- The failed names are those whose load has ended with a fault. -/
  failed_iff : ∀ name, name ∈ batch.failed ↔
    ∃ load ∈ batch.loads, load.name = name ∧ ∃ fault, load.result = some (.error fault)
  /-- The resident names are the kept ones that were not released, and the loaded ones. -/
  resident : ∀ name, (now.handle? name).isSome = true ↔
    (start.kept? required waits name).isSome = true ∨ name ∈ batch.loaded
  /-- A kept handle that was not released is unchanged. -/
  unchanged : ∀ name handle, start.kept? required waits name = some handle →
    now.handle? name = some handle
  /-- A loaded name has the handle that its load has yielded. -/
  yielded : ∀ load ∈ batch.loads, ∀ handle, load.result = some (.ok handle) →
    now.handle? load.name = some handle
  /-- A failed name is not resident. -/
  absent : ∀ name ∈ batch.failed, now.handle? name = none

end Batch

namespace Depot

variable {start now : Depot} {required : List String} {waits : List Errand} {batch : Batch}

theorem mem_missing_iff (depot : Depot) (required : List String) (name : String) :
    name ∈ depot.missing required ↔ name ∈ required ∧ depot.handle? name = none := by
  rw [missing, List.mem_filter, Option.isNone_iff_eq_none]

/-- What was missing is not kept. -/
theorem kept?_of_missing {name : String} (h : start.handle? name = none) :
    start.kept? required waits name = none := by
  unfold kept?
  split
  · exact h
  · rfl

/-- **A reconciliation whose loads have all finished is fulfilled** when its batch is settled. -/
theorem Awaits.fulfils (h : start.Awaits required waits now batch)
    (hsorted : required.Pairwise (· < ·)) (hdone : batch.isDone = true) :
    batch.Fulfils start required waits (now.settle batch) where
  released := h.released
  loaded_sorted := by
    have hnames : (batch.loads.map (·.name)).Pairwise (· < ·) := h.names ▸ hsorted.filter _
    exact hnames.sublist batch.loaded_sublist
  failed_sorted := by
    have hnames : (batch.loads.map (·.name)).Pairwise (· < ·) := h.names ▸ hsorted.filter _
    exact hnames.sublist batch.failed_sublist
  parts := h.names ▸ Batch.loaded_append_failed_perm hdone
  loaded_iff := Batch.mem_loaded_iff batch
  failed_iff := Batch.mem_failed_iff batch
  resident name := by rw [isSome_handle?_settle, h.resident]
  unchanged name handle hkept := (h.fits.handle?_settle_iff name handle).2
    (.inl ((h.resident name).trans hkept))
  yielded load hload handle hresult := (h.fits.handle?_settle_iff load.name handle).2
    (.inr ⟨load, hload, rfl, by rw [Load.handle?, hresult]⟩)
  absent name hfailed := by
    -- A name that failed was missing at the start and has not been loaded since.
    by_contra hsome
    have hresident := Option.isSome_iff_ne_none.2 hsome
    rw [isSome_handle?_settle] at hresident
    rcases hresident with hkept | hloaded
    · have hmissing : name ∈ start.missing required := h.names ▸ Batch.mem_names_of_failed hfailed
      rw [h.resident, kept?_of_missing ((mem_missing_iff ..).1 hmissing).2] at hkept
      cases hkept
    · exact Batch.not_failed_of_loaded h.fits.distinct hloaded hfailed

end Depot

/-! ### Doing it again -/

namespace Batch.Fulfils

variable {start now : Depot} {required : List String} {waits : List Errand} {batch : Batch}

theorem mem_missing_of_loaded (h : batch.Fulfils start required waits now) {name : String}
    (hloaded : name ∈ batch.loaded) : name ∈ start.missing required :=
  h.parts.mem_iff.1 (List.mem_append_left _ hloaded)

/-- Nothing is resident that is not required. -/
theorem stale_eq_nil (h : batch.Fulfils start required waits now) : now.stale required = [] := by
  refine List.eq_nil_iff_forall_not_mem.2 fun name hname => ?_
  obtain ⟨hresident, hother⟩ := (Depot.mem_stale_iff ..).1 hname
  rcases (h.resident name).1 hresident with hkept | hloaded
  · rw [Depot.kept?, if_neg fun hrequired => hother hrequired.1] at hkept
    cases hkept
  · exact hother ((Depot.mem_missing_iff ..).1 (h.mem_missing_of_loaded hloaded)).1

/-- **What is missing afterwards** failed to load, or was kept and released meanwhile. -/
theorem missing_eq (h : batch.Fulfils start required waits now) :
    now.missing required = required.filter fun name =>
      name ∈ batch.failed ∨
        (start.handle? name).isSome = true ∧ ∃ errand ∈ waits, errand.releases name = true := by
  unfold Depot.missing
  refine List.filter_congr fun name hrequired => ?_
  rw [Bool.eq_iff_iff, decide_eq_true_iff, Option.isNone_iff_eq_none]
  have hresident := h.resident name
  cases hstart : start.handle? name with
  | none =>
    -- The name was loaded for, so it is absent exactly when its load failed.
    have hmissing : name ∈ start.missing required :=
      (Depot.mem_missing_iff ..).2 ⟨hrequired, hstart⟩
    rw [Depot.kept?_of_missing hstart] at hresident
    constructor
    · intro hnone
      left
      have hparts := h.parts.mem_iff.2 hmissing
      rcases List.mem_append.1 hparts with hloaded | hfailed
      · have hsome := hresident.2 (.inr hloaded)
        rw [hnone] at hsome
        cases hsome
      · exact hfailed
    · rintro (hfailed | ⟨hsome, -⟩)
      · exact h.absent name hfailed
      · cases hsome
  | some handle =>
    -- The name was kept, so it is absent exactly when it was released.
    have hmissing : name ∉ start.missing required := by
      intro hmissing
      rw [((Depot.mem_missing_iff ..).1 hmissing).2] at hstart
      cases hstart
    have hparts : name ∉ batch.loaded ++ batch.failed := fun hmem =>
      hmissing (h.parts.mem_iff.1 hmem)
    rw [List.mem_append, not_or] at hparts
    rw [or_iff_left hparts.1] at hresident
    rw [or_iff_right hparts.2, ← Option.not_isSome_iff_eq_none, hresident, Depot.kept?]
    split
    · next hkept => simpa [hstart] using hkept.2
    · next hlost => simpa [hstart, hrequired] using hlost

/-- When nothing was released meanwhile, what is missing afterwards failed to load. -/
theorem missing_eq_failed (h : batch.Fulfils start required waits now)
    (hsorted : required.Pairwise (· < ·))
    (hwaits : ∀ errand ∈ waits, ∀ name, errand.releases name = false) :
    now.missing required = batch.failed := by
  refine (hsorted.filter _).eq_of_mem_iff h.failed_sorted fun name => ?_
  have hmissing : name ∈ now.missing required ↔ name ∈ required ∧ name ∈ batch.failed := by
    rw [h.missing_eq, List.mem_filter, decide_eq_true_iff]
    refine and_congr_right fun _ => or_iff_left ?_
    rintro ⟨-, errand, herrand, hreleases⟩
    rw [hwaits errand herrand name] at hreleases
    cases hreleases
  refine hmissing.trans (and_iff_right_of_imp fun hfailed => ?_)
  have hname := h.parts.mem_iff.1 (List.mem_append_right _ hfailed)
  exact ((Depot.mem_missing_iff ..).1 hname).1

end Batch.Fulfils

/-! ### The errands of a reconciliation -/

namespace Keeper

/-- The keeper of a depot after a reconciliation has begun and errands were run. -/
def pursuing (depot : Depot) {required : List String} (sorted : required.Pairwise (· < ·))
    (waits : List Errand) : Keeper :=
  (⟨depot, none⟩ : Keeper).after (.reconcile required sorted :: waits)

section

variable {depot : Depot} {required : List String} {sorted : required.Pairwise (· < ·)}
  {waits : List Errand} {keeper : Keeper} {batch : Batch}

theorem pursuing_concat (errand : Errand) :
    pursuing depot sorted (waits ++ [errand]) =
      ((pursuing depot sorted waits).run errand).keeper := by
  simp [pursuing, after]

theorem transactions_concat (keeper : Keeper) (errands : List Errand) (last : Errand) :
    keeper.transactions (errands ++ [last]) =
      keeper.transactions errands ++ [⟨keeper.after errands, last⟩] := by
  induction errands generalizing keeper with
  | nil => rfl
  | cons errand rest ih => exact congrArg (⟨keeper, errand⟩ :: ·) (ih _)

theorem report?_concat (keeper : Keeper) (errands : List Errand) (last : Errand) :
    keeper.report? (errands ++ [last]) =
      (Transaction.mk (keeper.after errands) last).report? := by
  rw [report?, transactions_concat, List.getLast?_concat, Option.bind_some]

/-- A batch that is left pending has changed nothing that is resident. -/
theorem of_conclude {pending : Batch} {events : List AssetEvent} {yielded : List Handle}
    (h : (conclude depot batch events yielded).keeper.batch? = some pending) :
    (conclude depot batch events yielded).keeper.depot = depot ∧ pending = batch := by
  unfold conclude at h ⊢
  dsimp only at h ⊢
  split at h
  · cases h
  · next hdone =>
    rw [Depot.settled, if_neg hdone]
    exact ⟨rfl, (Option.some.inj h).symm⟩

/-- **While a reconciliation is pending** it awaits what it has begun with. -/
theorem awaits_pursuing (hwaits : ∀ errand ∈ waits, errand.isInterim = true)
    (h : (pursuing depot sorted waits).batch? = some batch) :
    depot.Awaits required waits (pursuing depot sorted waits).depot batch := by
  -- By induction from the end: the last errand meets what those before it have left.
  induction waits using List.reverseRecOn generalizing batch with
  | nil =>
    obtain ⟨hdepot, rfl⟩ := of_conclude h
    have hawaits := depot.awaits_reconcile sorted
    rw [← hdepot] at hawaits
    exact hawaits
  | append_singleton waits errand ih =>
    have hbefore := fun other hother => hwaits other (List.mem_append_left _ hother)
    have hinterim := hwaits errand (List.mem_append_right _ List.mem_cons_self)
    rw [pursuing_concat] at h ⊢
    cases errand with
    | reconcile => cases hinterim
    | abandon => cases hinterim
    | poll =>
      rw [run] at h ⊢
      cases hpending : (pursuing depot sorted waits).batch? with
      | none =>
        rw [hpending] at h
        exact absurd (h.symm.trans hpending) (Option.some_ne_none batch)
      | some pending =>
        rw [hpending] at h
        -- A poll resumes the batch that was pending, and it is pending still.
        obtain ⟨hdepot, rfl⟩ := of_conclude h
        have hawaits := (ih hbefore hpending).resume
        rw [← hdepot] at hawaits
        exact hawaits
    | release name =>
      rw [run_release]
      refine (ih hbefore h).releaseEach fun other _ => ?_
      rw [List.mem_singleton, Errand.releases, beq_iff_eq, eq_comm]
    | releaseAll =>
      refine (ih hbefore h).releaseEach fun other hresident => ?_
      exact iff_of_true ((Dict.mem_keys_iff ..).2 hresident) rfl
    | alter fault? gated => exact (ih hbefore h).alter fault? gated

/-- An errand that completes a reconciliation settles its batch. -/
theorem run_of_attended? {errand : Errand} {now : Depot}
    (h : keeper.attended? errand = some (now, batch)) (hdone : batch.isDone = true) :
    (keeper.run errand).keeper = ⟨now.settle batch, none⟩ := by
  -- Beginning and polling conclude alike.
  have hconclude : ∀ events yielded,
      (conclude now batch events yielded).keeper = ⟨now.settle batch, none⟩ := by
    intro events yielded
    simp only [conclude, Depot.settled, hdone, if_true]
  cases errand with
  | reconcile required sorted =>
    rw [attended?] at h
    rw [run]
    cases hbatch : keeper.batch? with
    | some pending =>
      rw [hbatch] at h
      cases h
    | none =>
      rw [hbatch] at h
      cases h
      exact hconclude _ _
  | poll =>
    rw [attended?] at h
    rw [run]
    cases hbatch : keeper.batch? with
    | none =>
      rw [hbatch] at h
      cases h
    | some pending =>
      rw [hbatch, Option.map_some, Option.some.injEq, Prod.ext_iff] at h
      obtain ⟨rfl, rfl⟩ := h
      exact hconclude _ _
  | abandon => cases h
  | release name => cases h
  | releaseAll => cases h
  | alter fault? gated => cases h

theorem report?_eq_some_iff (errand : Errand) :
    (Transaction.mk keeper errand).report? = some batch ↔
      ∃ now, keeper.attended? errand = some (now, batch) ∧ batch.isDone = true := by
  simp only [Transaction.report?, Option.filter_eq_some_iff, Option.map_eq_some_iff, Prod.exists,
    exists_eq_right]
  exact exists_and_right.symm

/-- **A reconciliation that is complete is fulfilled.** -/
theorem fulfils_of_report? (hwaits : ∀ errand ∈ waits, errand.isInterim = true)
    (h : (⟨depot, none⟩ : Keeper).report? (.reconcile required sorted :: waits) = some batch) :
    (pursuing depot sorted waits).batch? = none ∧
      batch.Fulfils depot required waits (pursuing depot sorted waits).depot := by
  rcases List.eq_nil_or_concat waits with rfl | ⟨waits, last, rfl⟩
  · have hfirst : (Transaction.mk ⟨depot, none⟩ (.reconcile required sorted)).report? =
        some batch := h
    -- All loads finished at once, in the errand that began the reconciliation.
    obtain ⟨now, hattended, hdone⟩ := (report?_eq_some_iff _).1 hfirst
    have hkeeper : pursuing depot sorted [] = ⟨now.settle batch, none⟩ :=
      run_of_attended? hattended hdone
    cases hattended
    rw [hkeeper]
    exact ⟨rfl, (depot.awaits_reconcile sorted).fulfils sorted hdone⟩
  · rw [List.concat_eq_append] at hwaits h ⊢
    have hlast := hwaits last (List.mem_append_right _ List.mem_cons_self)
    rw [← List.cons_append, report?_concat] at h
    obtain ⟨now, hattended, hdone⟩ := (report?_eq_some_iff _).1 h
    have hkeeper : pursuing depot sorted (waits ++ [last]) = ⟨now.settle batch, none⟩ := by
      rw [pursuing_concat]
      exact run_of_attended? hattended hdone
    rw [hkeeper]
    refine ⟨rfl, ?_⟩
    -- Of the errands in between, only a poll completes a reconciliation.
    cases last with
    | poll =>
      obtain ⟨pending, hpending, hresumed⟩ := Option.map_eq_some_iff.1 hattended
      have hawaits := (awaits_pursuing
        (fun other hother => hwaits other (List.mem_append_left _ hother)) hpending).resume
      rw [Prod.ext_iff] at hresumed
      obtain ⟨rfl, rfl⟩ := hresumed
      exact hawaits.fulfils sorted hdone
    | reconcile => cases hlast
    | abandon => cases hlast
    | release => cases hattended
    | releaseAll => cases hattended
    | alter => cases hattended

/-- An errand that leaves a reconciliation to itself starts no load. -/
theorem load_notMem_run (keeper : Keeper) {errand : Errand} (h : errand.isInterim = true)
    (name : String) : .load name ∉ (keeper.run errand).events := by
  -- Releasing names gives handles back, and nothing else.
  have hrelease : ∀ names : List String, names.Nodup →
      .load name ∉ (keeper.depot.releaseEach names).2 := by
    intro names hnames
    rw [Depot.events_releaseEach _ hnames, Depot.givesBack]
    simp
  cases errand with
  | reconcile => cases h
  | abandon => cases h
  | poll =>
    rw [run]
    cases keeper.batch? <;> exact List.not_mem_nil
  | release other =>
    rw [run_release]
    exact hrelease [other] (by simp)
  | releaseAll => exact hrelease _ keeper.depot.resident.keys_sorted.nodup
  | alter => exact List.not_mem_nil

theorem load_notMem_transactions (hwaits : ∀ errand ∈ waits, errand.isInterim = true)
    (name : String) :
    ∀ transaction ∈ keeper.transactions waits, .load name ∉ transaction.upshot.events := by
  induction waits generalizing keeper with
  | nil => exact nofun
  | cons errand rest ih =>
    obtain ⟨herrand, hrest⟩ := List.forall_mem_cons.1 hwaits
    exact List.forall_mem_cons.2 ⟨load_notMem_run keeper herrand name, ih hrest⟩

end

/-- **A reconciliation brings in what is missing, with the least work.** Let a reconciliation begin
at any depot, and let loads finish, assets be released and the store change in any order before it
is complete.

It first gives back what is resident and not required, in the order of the names, and then starts a
load for each required name that is not resident, in that order; no load is started later. As long
as it is pending, and also when it is given up then, the resident handles are those that were kept
and not released meanwhile. When it is complete, its report and the depot are as they should be
(`Batch.Fulfils`). The same reconciliation once more gives nothing back, and starts loads for what
failed and for what was kept but released meanwhile; if nothing was released, for what failed. -/
theorem reconcile_brings_in_missing (depot : Depot) (required : List String)
    (sorted : required.Pairwise (· < ·)) (waits : List Errand)
    (hwaits : ∀ errand ∈ waits, errand.isInterim = true) :
    let keeper : Keeper := ⟨depot, none⟩
    let begun := keeper.run (.reconcile required sorted)
    let now := pursuing depot sorted waits
    (begun.events = depot.givesBack (depot.resident.keys.filter (· ∉ required)) ++
      (required.filter fun name => (depot.handle? name).isNone).map .load) ∧
    (∀ transaction ∈ begun.keeper.transactions waits, ∀ name,
      .load name ∉ transaction.upshot.events) ∧
    (now.batch? ≠ none → ∀ name, now.depot.handle? name = depot.kept? required waits name ∧
      (now.run .abandon).keeper.depot.handle? name = depot.kept? required waits name) ∧
    ∀ batch, keeper.report? (.reconcile required sorted :: waits) = some batch →
      now.batch? = none ∧ batch.Fulfils depot required waits now.depot ∧
      let again := (now.run (.reconcile required sorted)).events
      (again = (required.filter fun name => name ∈ batch.failed ∨
        (depot.handle? name).isSome = true ∧
          ∃ errand ∈ waits, errand.releases name = true).map .load) ∧
      ((∀ errand ∈ waits, ∀ name, errand.releases name = false) →
        again = batch.failed.map .load) := by
  intro keeper begun now
  refine ⟨depot.events_reconcile required,
    fun transaction hmem name => load_notMem_transactions hwaits name transaction hmem,
    fun hpending name => ?_, fun batch hreport => ?_⟩
  · -- Nothing is registered before the end, so giving up leaves the same handles.
    obtain ⟨batch, hbatch⟩ := Option.ne_none_iff_exists'.1 hpending
    have hresident := (awaits_pursuing hwaits hbatch).resident name
    exact ⟨hresident, hresident⟩
  · obtain ⟨hidle, hfulfils⟩ := fulfils_of_report? hwaits hreport
    -- What is resident now is required, so the same again gives nothing back.
    have hagain : (now.run (.reconcile required sorted)).events =
        (now.depot.missing required).map .load := by
      have hevents : (now.run (.reconcile required sorted)).events =
          (now.depot.reconcile required).2.2 := by
        rw [run, hidle]
        rfl
      rw [hevents, Depot.events_reconcile, hfulfils.stale_eq_nil]
      rfl
    refine ⟨hidle, hfulfils, ?_, fun hnone => ?_⟩
    · rw [hagain, hfulfils.missing_eq]
    · rw [hagain, hfulfils.missing_eq_failed sorted hnone]

/-- A depot with two assets. The gate of a third name is closed, and loads of a fourth fail. -/
def stockroom : Depot where
  store := ⟨fun name => if name = "d" then some (.notFound "d") else none, fun name => name == "c", 2⟩
  resident := (Dict.empty.insert "a" ⟨"a", 1⟩).insert "b" ⟨"b", 2⟩

/-- What happens while `c` is waited for: the kept asset is released, and the gate is opened. -/
def stockroomWaits : List Errand :=
  [.release "b", .alter stockroom.store.fault? fun _ => false, .poll]

theorem stockroom_sorted : ["b", "c", "d"].Pairwise (· < ·) := by decide +kernel

/-- The report of the reconciliation. -/
def stockroomReport : Batch :=
  ⟨["a"], [⟨"c", some (.ok ⟨"c", 3⟩)⟩, ⟨"d", some (.error (.notFound "d"))⟩]⟩

/-- The reconciliation completes, and the same one after it loads again what was released and what
failed. -/
theorem stockroom_brought_in :
    (∀ errand ∈ stockroomWaits, errand.isInterim = true) ∧
    (⟨stockroom, none⟩ : Keeper).report? (.reconcile ["b", "c", "d"] stockroom_sorted ::
      stockroomWaits) = some stockroomReport ∧
    let now := pursuing stockroom stockroom_sorted stockroomWaits
    now.depot.handle? "c" = some ⟨"c", 3⟩ ∧
    (now.run (.reconcile ["b", "c", "d"] stockroom_sorted)).events = [.load "b", .load "d"] := by
  have hwaits : ∀ errand ∈ stockroomWaits, errand.isInterim = true := by
    simp [stockroomWaits, Errand.isInterim]
  have hreport : (⟨stockroom, none⟩ : Keeper).report?
      (.reconcile ["b", "c", "d"] stockroom_sorted :: stockroomWaits) = some stockroomReport := by
    with_unfolding_all rfl
  obtain ⟨-, -, -, hcomplete⟩ := reconcile_brings_in_missing stockroom ["b", "c", "d"]
    stockroom_sorted stockroomWaits hwaits
  obtain ⟨-, hfulfils, hagain, -⟩ := hcomplete _ hreport
  refine ⟨hwaits, hreport, ?_, hagain.trans ?_⟩
  · exact hfulfils.yielded _ List.mem_cons_self _ rfl
  · decide +kernel

end Keeper

end Storyboard
