import Storyboard.Asset.Depot
import Mathlib.Data.List.Sort

/-!
# What a reconciliation makes resident

A reconciliation begins with a batch that loads the required names which are not resident, at a
depot in which nothing but required names is resident: the batch *serves* the required names
(`Depot.Serves`). A batch goes on serving them while its loads finish, because a load that has
finished is taken in only with all others. Once a batch that serves names is settled, the resident
names are the required ones less those whose load failed (`Depot.Serves.keys_settle`).
-/

namespace Storyboard

/-! ### Loads -/

namespace Load

theorem name_finish (store : Store) (load : Load) : (load.finish store).2.name = load.name := by
  unfold finish
  split
  · rfl
  · split <;> rfl

theorem map_name_finishAll (store : Store) (loads : List Load) :
    (finishAll store loads).2.map (·.name) = loads.map (·.name) := by
  induction loads generalizing store with
  | nil => rfl
  | cons load rest ih =>
    simp only [finishAll, List.map_cons, name_finish, ih]

end Load

namespace Batch

theorem mem_loaded_iff (batch : Batch) (name : String) :
    name ∈ batch.loaded ↔
      ∃ load ∈ batch.loads, load.name = name ∧ ∃ handle, load.result = some (.ok handle) := by
  simp only [loaded, List.mem_map, List.mem_filter]
  constructor
  · rintro ⟨load, ⟨hload, hok⟩, rfl⟩
    split at hok
    · next handle hresult => exact ⟨load, hload, rfl, handle, hresult⟩
    · cases hok
  · rintro ⟨load, hload, rfl, handle, hresult⟩
    exact ⟨load, ⟨hload, by rw [hresult]⟩, rfl⟩

theorem mem_failed_iff (batch : Batch) (name : String) :
    name ∈ batch.failed ↔
      ∃ load ∈ batch.loads, load.name = name ∧ ∃ fault, load.result = some (.error fault) := by
  simp only [failed, List.mem_map, List.mem_filter]
  constructor
  · rintro ⟨load, ⟨hload, herror⟩, rfl⟩
    split at herror
    · next fault hresult => exact ⟨load, hload, rfl, fault, hresult⟩
    · cases herror
  · rintro ⟨load, hload, rfl, fault, hresult⟩
    exact ⟨load, ⟨hload, by rw [hresult]⟩, rfl⟩

theorem mem_names_of_failed {batch : Batch} {name : String} (h : name ∈ batch.failed) :
    name ∈ batch.loads.map (·.name) := by
  obtain ⟨load, hload, rfl, -⟩ := (mem_failed_iff batch name).1 h
  exact List.mem_map_of_mem hload

theorem mem_names_of_loaded {batch : Batch} {name : String} (h : name ∈ batch.loaded) :
    name ∈ batch.loads.map (·.name) := by
  obtain ⟨load, hload, rfl, -⟩ := (mem_loaded_iff batch name).1 h
  exact List.mem_map_of_mem hload

/-- Each load of a batch that is done has succeeded or failed. -/
theorem loaded_or_failed {batch : Batch} (hdone : batch.isDone = true) {name : String}
    (h : name ∈ batch.loads.map (·.name)) : name ∈ batch.loaded ∨ name ∈ batch.failed := by
  obtain ⟨load, hload, rfl⟩ := List.mem_map.1 h
  obtain ⟨result, hresult⟩ := Option.isSome_iff_exists.1 (List.all_eq_true.1 hdone load hload)
  cases result with
  | ok handle => exact .inl ((mem_loaded_iff _ _).2 ⟨load, hload, rfl, handle, hresult⟩)
  | error fault => exact .inr ((mem_failed_iff _ _).2 ⟨load, hload, rfl, fault, hresult⟩)

/-- No load of a batch with distinct names has both succeeded and failed. -/
theorem not_failed_of_loaded {batch : Batch} (hdistinct : (batch.loads.map (·.name)).Nodup)
    {name : String} (h : name ∈ batch.loaded) : name ∉ batch.failed := by
  intro hfailed
  obtain ⟨load, hload, rfl, handle, hok⟩ := (mem_loaded_iff _ _).1 h
  obtain ⟨other, hother, hname, fault, herror⟩ := (mem_failed_iff _ _).1 hfailed
  obtain rfl : other = load := List.inj_on_of_nodup_map hdistinct hother hload hname
  rw [hok] at herror
  cases herror

end Batch

namespace Depot

/-! ### Releasing and taking in -/

theorem handle?_release (depot : Depot) (name other : String) :
    (depot.release name).1.handle? other = if other = name then none else depot.handle? other := by
  unfold release
  cases h : depot.handle? name with
  | some handle => exact Dict.find?_erase _ _ _
  | none =>
    by_cases heq : other = name
    · rw [if_pos heq, heq]
      exact h
    · rw [if_neg heq]

theorem handle?_releaseEach (depot : Depot) (names : List String) (name : String) :
    (depot.releaseEach names).1.handle? name =
      if name ∈ names then none else depot.handle? name := by
  induction names generalizing depot with
  | nil => rfl
  | cons first rest ih =>
    simp only [releaseEach_cons, ih, handle?_release, List.mem_cons]
    by_cases hfirst : name = first <;> by_cases hrest : name ∈ rest <;> simp [hfirst, hrest]

theorem isSome_find?_takeIn (resident : Dict Handle) (load : Load) (name : String) :
    ((takeIn resident load).find? name).isSome = true ↔
      (resident.find? name).isSome = true ∨
        load.name = name ∧ ∃ handle, load.result = some (.ok handle) := by
  unfold takeIn
  split
  · next handle hresult =>
    rw [Dict.find?_insert]
    by_cases h : name = load.name
    · simp [h, hresult]
    · simp [h, Ne.symm h]
  · next hother =>
    refine ⟨.inl, ?_⟩
    rintro (h | ⟨-, handle, hresult⟩)
    · exact h
    · exact absurd hresult (hother handle)

theorem isSome_find?_foldl_takeIn (resident : Dict Handle) (loads : List Load) (name : String) :
    ((loads.foldl takeIn resident).find? name).isSome = true ↔
      (resident.find? name).isSome = true ∨
        ∃ load ∈ loads, load.name = name ∧ ∃ handle, load.result = some (.ok handle) := by
  induction loads generalizing resident with
  | nil => simp
  | cons load rest ih =>
    rw [List.foldl_cons, ih, isSome_find?_takeIn, or_assoc, List.exists_mem_cons_iff]

/-- **What is resident once a batch is settled**: what was, and what the batch has loaded. -/
theorem isSome_handle?_settle (depot : Depot) (batch : Batch) (name : String) :
    ((depot.settle batch).handle? name).isSome = true ↔
      (depot.handle? name).isSome = true ∨ name ∈ batch.loaded := by
  rw [Batch.mem_loaded_iff]
  exact isSome_find?_foldl_takeIn _ _ _

/-- The depot with what a batch has loaded, if the batch is done. -/
def settled (depot : Depot) (batch : Batch) : Depot :=
  if batch.isDone then depot.settle batch else depot

/-! ### Batches that serve names -/

/-- The batch loads what the depot lacks of the required names, and nothing else is resident. -/
structure Serves (depot : Depot) (required : List String) (batch : Batch) : Prop where
  /-- Only required names are resident. -/
  kept : ∀ name, (depot.handle? name).isSome = true → name ∈ required
  /-- The names that are loaded are those that are missing. -/
  names : batch.loads.map (·.name) = depot.missing required

theorem resident_reconcile (depot : Depot) (required : List String) :
    (depot.reconcile required).1.resident =
      (depot.releaseEach (depot.stale required)).1.resident := rfl

theorem names_reconcile (depot : Depot) (required : List String) :
    (depot.reconcile required).2.1.loads.map (·.name) =
      (depot.releaseEach (depot.stale required)).1.missing required := by
  simp only [reconcile, resume, Load.map_name_finishAll, List.map_map]
  exact List.map_id' _

/-- **A reconciliation begins with a batch that serves the required names.** -/
theorem serves_reconcile (depot : Depot) (required : List String) :
    (depot.reconcile required).1.Serves required (depot.reconcile required).2.1 where
  kept name hname := by
    rw [handle?, resident_reconcile, ← handle?, handle?_releaseEach] at hname
    by_contra hother
    have hstale : name ∈ depot.stale required ↔ (depot.handle? name).isSome = true := by
      rw [stale, List.mem_filter, Dict.mem_keys_iff]
      simp [handle?, hother]
    by_cases h : name ∈ depot.stale required
    · simp [h] at hname
    · rw [if_neg h] at hname
      exact h (hstale.2 hname)
  names := names_reconcile depot required

namespace Serves

variable {depot : Depot} {required : List String} {batch : Batch}

/-- Only what is resident matters. -/
theorem of_resident {other : Depot} (h : depot.Serves required batch)
    (hresident : other.resident = depot.resident) : other.Serves required batch where
  kept name hname := h.kept name (by rwa [handle?, ← hresident])
  names := by
    rw [h.names, missing, missing]
    simp only [handle?, hresident]

/-- **A batch goes on serving names while its loads finish.** -/
theorem resume (h : depot.Serves required batch) :
    (depot.resume batch).1.Serves required (depot.resume batch).2 where
  kept := h.kept
  names := (Load.map_name_finishAll _ _).trans h.names

theorem isSome_handle?_settle (h : depot.Serves required batch) (hdistinct : required.Nodup)
    (hdone : batch.isDone = true) (name : String) :
    ((depot.settle batch).handle? name).isSome = true ↔
      name ∈ required ∧ name ∉ batch.failed := by
  -- A load was started exactly for what is required and was not resident.
  have hmissing : name ∈ batch.loads.map (·.name) ↔
      name ∈ required ∧ (depot.handle? name).isNone = true := by
    rw [h.names, missing, List.mem_filter]
  have hnodup : (batch.loads.map (·.name)).Nodup := h.names ▸ hdistinct.filter _
  rw [Depot.isSome_handle?_settle]
  constructor
  · rintro (hresident | hloaded)
    · refine ⟨h.kept name hresident, fun hfailed => ?_⟩
      have hnone := (hmissing.1 (Batch.mem_names_of_failed hfailed)).2
      rw [Option.isNone_iff_eq_none] at hnone
      simp [hnone] at hresident
    · exact ⟨(hmissing.1 (Batch.mem_names_of_loaded hloaded)).1,
        Batch.not_failed_of_loaded hnodup hloaded⟩
  · rintro ⟨hrequired, hfailed⟩
    cases hresident : depot.handle? name with
    | some handle => exact .inl rfl
    | none =>
      have hname := hmissing.2 ⟨hrequired, by rw [hresident]; rfl⟩
      exact .inr ((Batch.loaded_or_failed hdone hname).resolve_right hfailed)

/-- **Once a batch that serves names is settled**, the resident names are the required ones less
those whose load failed. -/
theorem keys_settle (h : depot.Serves required batch) (hsorted : required.Pairwise (· < ·))
    (hdone : batch.isDone = true) :
    (depot.settle batch).resident.keys = required.filter (· ∉ batch.failed) := by
  refine (Dict.keys_sorted _).eq_of_mem_iff (hsorted.filter _) fun name => ?_
  rw [Dict.mem_keys_iff, List.mem_filter, decide_eq_true_iff]
  exact h.isSome_handle?_settle hsorted.nodup hdone name

end Serves

end Depot

end Storyboard
