import Storyboard.Proofs.Asset.Custody

/-!
# Releasing each handle once

A depot in use has at most one reconciliation under way. While its loads are pending, assets may be
released, the store may change its mind about loads, and the reconciliation may be given up. An
`Errand` is one of the things that can happen, and `Keeper.run` says what comes of it: what the
store is asked to do, the handles that loads yield, and the handles that are registered, which is to
say that they become resident.

Whatever happens, the store gets each handle back at most once, and under the name where it was
resident; what was registered is what is resident and what was given back
(`Keeper.registered_are_resident_or_released`).

The proof keeps two accounts. What is resident grows by what is registered and shrinks by what is
given back (`Upshot.Balances.resident`), so the two sides of the union agree in number. What is
registered was held by the batch, and what the batch holds was yielded by its loads
(`Upshot.Balances.pending`); the handles that a store yields have numbers of their own, so nothing
is registered twice.
-/

namespace Storyboard

/-! ### Errands -/

/-- A depot in use, with the batch of the reconciliation that is under way. -/
structure Keeper where
  /-- The depot. -/
  depot : Depot
  /-- The batch whose loads are pending. -/
  batch? : Option Batch := none

/-- One thing that happens to a depot in use. -/
inductive Errand where
  /-- A reconciliation begins. The required names are a set, listed in order. -/
  | reconcile (required : List String) (sorted : required.Pairwise (· < ·))
  /-- The reconciliation under way is looked after: loads finish whose gates are open. -/
  | poll
  /-- The reconciliation under way is given up. -/
  | abandon
  /-- An asset is released. -/
  | release (name : String)
  /-- All assets are released. -/
  | releaseAll
  /-- From now on the store lets other loads fail and makes other loads wait. -/
  | alter (fault? : String → Option AssetFault) (gated : String → Bool)

/-- What comes of an errand. -/
structure Upshot where
  /-- The depot and the batch afterwards. -/
  keeper : Keeper
  /-- What the store is asked to do. -/
  events : List AssetEvent := []
  /-- The handles that loads yield. -/
  yielded : List Handle := []
  /-- The handles that become resident. -/
  registered : List Handle := []
  /-- The answer to a release. -/
  reply : Option Bool := none

/-- The handles that the store gets back. -/
def Upshot.returned (upshot : Upshot) : List Handle :=
  upshot.events.filterMap AssetEvent.returned?

namespace Keeper

/-- A keeper of a store, with nothing resident. -/
def ofStore (store : Store) : Keeper := ⟨.ofStore store, none⟩

/-- What comes of a batch after its loads were let finish: once all are done it is settled. -/
def conclude (depot : Depot) (batch : Batch) (events : List AssetEvent) (yielded : List Handle) :
    Upshot where
  keeper := ⟨depot.settled batch, if batch.isDone then none else some batch⟩
  events := events
  yielded := yielded
  registered := if batch.isDone then batch.handles else []

/-- What comes of an errand. -/
def run (keeper : Keeper) : Errand → Upshot
  | .reconcile required _ =>
    match keeper.batch? with
    -- A second reconciliation has to wait for the first.
    | some _ => { keeper }
    | none =>
      let begun := keeper.depot.reconcile required
      conclude begun.1 begun.2.1 begun.2.2
        (Load.yield keeper.depot.store (keeper.depot.startLoads required))
  | .poll =>
    match keeper.batch? with
    | none => { keeper }
    | some batch =>
      let resumed := keeper.depot.resume batch
      conclude resumed.1 resumed.2 [] (Load.yield keeper.depot.store batch.loads)
  | .abandon => { keeper := { keeper with batch? := none } }
  | .release name =>
    let released := keeper.depot.release name
    { keeper := { keeper with depot := released.1 }, events := released.2.2
      reply := some released.2.1 }
  | .releaseAll =>
    let released := keeper.depot.releaseAll
    { keeper := { keeper with depot := released.1 }, events := released.2 }
  | .alter fault? gated =>
    { keeper := { keeper with depot.store := { keeper.depot.store with fault?, gated } } }

/-- The handles that the pending batch holds. -/
def pending (keeper : Keeper) : List Handle := heldBy keeper.batch?

/-- The keeper after errands. -/
def after (keeper : Keeper) (errands : List Errand) : Keeper :=
  errands.foldl (fun keeper errand => (keeper.run errand).keeper) keeper

end Keeper

/-- An errand, with the keeper that it met. -/
structure Transaction where
  /-- The depot and the batch before the errand. -/
  keeper : Keeper
  /-- The errand. -/
  errand : Errand

/-- What comes of the errand. -/
def Transaction.upshot (transaction : Transaction) : Upshot :=
  transaction.keeper.run transaction.errand

/-- The transactions of errands, one after another. -/
def Keeper.transactions (keeper : Keeper) : List Errand → List Transaction
  | [] => []
  | errand :: rest => ⟨keeper, errand⟩ :: (keeper.run errand).keeper.transactions rest

/-! ### What a release gives back -/

namespace Depot

theorem release_mem_release_iff (depot : Depot) (name other : String) (handle : Handle) :
    .release other handle ∈ (depot.release name).2.2 ↔
      other = name ∧ depot.handle? other = some handle := by
  unfold release
  cases h : depot.handle? name with
  | none =>
    simp only [List.not_mem_nil, false_iff, not_and]
    rintro rfl
    simp [h]
  | some found =>
    simp only [List.mem_singleton, AssetEvent.release.injEq]
    constructor
    · rintro ⟨rfl, rfl⟩
      exact ⟨rfl, h⟩
    · rintro ⟨rfl, hother⟩
      exact ⟨rfl, Option.some.inj (hother.symm.trans h)⟩

/-- **Releasing names gives back what is resident under them.** -/
theorem release_mem_releaseEach_iff (depot : Depot) (names : List String) (name : String)
    (handle : Handle) :
    .release name handle ∈ (depot.releaseEach names).2 ↔
      name ∈ names ∧ depot.handle? name = some handle := by
  induction names generalizing depot with
  | nil => simp [releaseEach]
  | cons first rest ih =>
    simp only [releaseEach_cons, List.mem_append, release_mem_release_iff, ih, handle?_release,
      List.mem_cons]
    by_cases hfirst : name = first
    · simp [hfirst]
    · simp [hfirst]

theorem release_mem_reconcile_iff (depot : Depot) (required : List String) (name : String)
    (handle : Handle) :
    .release name handle ∈ (depot.reconcile required).2.2 ↔
      name ∉ required ∧ depot.handle? name = some handle := by
  have hevents : (depot.reconcile required).2.2 =
      (depot.releaseEach (depot.stale required)).2 ++
        ((depot.releaseEach (depot.stale required)).1.missing required).map .load := rfl
  -- Of the two parts of a reconciliation only the first releases.
  have hload : AssetEvent.release name handle ∉
      ((depot.releaseEach (depot.stale required)).1.missing required).map .load := by
    simp
  rw [hevents, List.mem_append, or_iff_left hload, release_mem_releaseEach_iff]
  refine and_congr_left fun hhandle => ?_
  rw [stale, List.mem_filter, Dict.mem_keys_iff]
  have hresident : (depot.resident.find? name).isSome = true := by
    rw [← handle?, hhandle]
    rfl
  simp [hresident]

/-! ### What stays resident -/

/-- **What is resident stays so when a batch is settled**, because the batch loads other names. -/
theorem Fits.handle?_settled {depot : Depot} {batch : Batch} (h : depot.Fits batch) {name : String}
    {handle : Handle} (hhandle : depot.handle? name = some handle) :
    (depot.settled batch).handle? name = some handle := by
  unfold settled
  split
  · have hsome : ((depot.settle batch).handle? name).isSome = true := by
      rw [isSome_handle?_settle, hhandle]
      exact .inl rfl
    obtain ⟨found, hfound⟩ := Option.isSome_iff_exists.1 hsome
    obtain hsame | ⟨load, hload, rfl, -⟩ := find?_foldl_takeIn hfound
    · rw [hfound, ← hsame]
      exact hhandle
    · rw [h.absent load hload] at hhandle
      cases hhandle
  · exact hhandle

/-- A name that is not required is not resident after a reconciliation. -/
theorem handle?_settled_reconcile (depot : Depot) {required : List String} {name : String}
    (h : name ∉ required) :
    ((depot.reconcile required).1.settled (depot.reconcile required).2.1).handle? name = none := by
  have hserves := depot.serves_reconcile required
  have hbegun : (depot.reconcile required).1.handle? name = none := by
    by_contra hsome
    exact h (hserves.kept name (Option.isSome_iff_ne_none.2 hsome))
  unfold settled
  split
  · by_contra hsome
    obtain ⟨found, hfound⟩ := Option.ne_none_iff_exists'.1 hsome
    -- It is not left from before, and no load was started for it.
    obtain hsame | ⟨load, hload, hname, -⟩ := find?_foldl_takeIn hfound
    · rw [← handle?, hbegun] at hsame
      cases hsame
    · have hmissing : name ∈ (depot.reconcile required).1.missing required := by
        rw [← hserves.names, ← hname]
        exact List.mem_map_of_mem hload
      exact h (List.mem_of_mem_filter hmissing)
  · exact hbegun

end Depot

/-! ### One errand -/

/-- The depot is sound, and the pending batch fits it. -/
structure Keeper.Sound (keeper : Keeper) : Prop where
  /-- Each resident handle stands under its own name. -/
  depot : keeper.depot.Sound
  /-- The pending batch loads names that are not resident. -/
  batch : ∀ batch, keeper.batch? = some batch → keeper.depot.Fits batch

namespace Upshot

/-- The upshot keeps the accounts of the keeper. -/
structure Balances (keeper : Keeper) (upshot : Upshot) : Prop where
  /-- The keeper stays sound. -/
  sound : upshot.keeper.Sound
  /-- The store counts the handles that it yields. -/
  served : upshot.keeper.depot.store.served = keeper.depot.store.served + upshot.yielded.length
  /-- Their numbers are the next ones. -/
  serials : upshot.yielded.map (·.serial) =
    List.range' (keeper.depot.store.served + 1) upshot.yielded.length
  /-- What was resident or is registered is resident or given back. -/
  resident : ∀ handle, keeper.depot.holdings.count handle + upshot.registered.count handle =
    upshot.keeper.depot.holdings.count handle + upshot.returned.count handle
  /-- What is registered, or held by the batch, was held by the batch before or is yielded. -/
  pending : ∀ handle, upshot.registered.count handle + upshot.keeper.pending.count handle ≤
    keeper.pending.count handle + upshot.yielded.count handle

/-- The upshot releases what is resident, and leaves alone what it does not release. -/
structure Releases (keeper : Keeper) (upshot : Upshot) : Prop where
  /-- The store gets back the handle that is resident under the name. -/
  resident : ∀ name handle, .release name handle ∈ upshot.events →
    keeper.depot.handle? name = some handle
  /-- A resident handle is given back and resident no more, or it stays. -/
  leaves : ∀ name handle, keeper.depot.handle? name = some handle →
    (upshot.keeper.depot.handle? name = some handle ∧ .release name handle ∉ upshot.events) ∨
    (upshot.keeper.depot.handle? name = none ∧ .release name handle ∈ upshot.events)

variable {keeper : Keeper}

/-- An upshot without effects on handles. -/
theorem balances_of_idle {upshot : Upshot} (hsound : upshot.keeper.Sound)
    (hserved : upshot.keeper.depot.store.served = keeper.depot.store.served)
    (hresident : upshot.keeper.depot.resident = keeper.depot.resident)
    (hpending : upshot.keeper.batch? = keeper.batch? ∨ upshot.keeper.batch? = none)
    (hevents : upshot.events = []) (hyielded : upshot.yielded = [])
    (hregistered : upshot.registered = []) : upshot.Balances keeper where
  sound := hsound
  served := by rw [hserved, hyielded]; rfl
  serials := by rw [hyielded]; rfl
  resident handle := by
    rw [Depot.holdings, Depot.holdings, hresident, hregistered, returned, hevents]
    rfl
  pending handle := by
    rw [hregistered, hyielded, Keeper.pending, Keeper.pending]
    -- The batch may be given up, and then less is pending.
    obtain hsame | hnone := hpending
    · rw [hsame, Nat.add_comm]
    · rw [hnone]
      exact Nat.zero_le _

/-- A batch that fits the depot is concluded in balance, if it holds what the keeper's batch held
and what was yielded since. -/
theorem balances_conclude {depot : Depot} {batch : Batch} {events : List AssetEvent}
    {yielded : List Handle} (hsound : depot.Sound) (hfits : depot.Fits batch)
    (hserved : depot.store.served = keeper.depot.store.served + yielded.length)
    (hserials : yielded.map (·.serial) =
      List.range' (keeper.depot.store.served + 1) yielded.length)
    (hresident : ∀ handle, keeper.depot.holdings.count handle =
      depot.holdings.count handle + (events.filterMap AssetEvent.returned?).count handle)
    (hheld : ∀ handle, batch.handles.count handle =
      keeper.pending.count handle + yielded.count handle) :
    (Keeper.conclude depot batch events yielded).Balances keeper where
  sound := ⟨hsound.settled hfits, Depot.fits_settled hfits⟩
  served := (Depot.served_settled depot batch).trans hserved
  serials := hserials
  resident handle := by
    have hsettled := Depot.count_settled hfits handle
    have hbefore := hresident handle
    unfold Keeper.conclude returned
    dsimp only
    -- A batch that is done is registered as a whole; otherwise all of it stays pending.
    cases hdone : batch.isDone with
    | true =>
      simp only [hdone, if_true, heldBy, Option.elim_none, List.count_nil] at hsettled ⊢
      omega
    | false =>
      simp only [hdone, Bool.false_eq_true, if_false, heldBy, Option.elim_some,
        List.count_nil] at hsettled ⊢
      omega
  pending handle := by
    have hbatch := hheld handle
    unfold Keeper.conclude Keeper.pending at *
    dsimp only
    cases hdone : batch.isDone with
    | true =>
      simp only [if_true, heldBy, Option.elim_none, List.count_nil] at hbatch ⊢
      omega
    | false =>
      simp only [Bool.false_eq_true, if_false, heldBy, Option.elim_some, List.count_nil] at hbatch ⊢
      omega

end Upshot

namespace Keeper

variable {keeper : Keeper}

theorem sound_of_releaseEach (h : keeper.Sound) (names : List String) :
    Sound { keeper with depot := (keeper.depot.releaseEach names).1 } := by
  have hresident : ∀ name handle, (keeper.depot.releaseEach names).1.handle? name = some handle →
      keeper.depot.handle? name = some handle := fun _ _ => Depot.handle?_of_releaseEach
  have hserved : keeper.depot.store.served ≤ (keeper.depot.releaseEach names).1.store.served :=
    le_of_eq (by rw [Depot.store_releaseEach])
  exact ⟨h.depot.of_le hresident hserved,
    fun batch hbatch => (h.batch batch hbatch).of_le hresident hserved⟩

theorem balances_releaseEach (h : keeper.Sound) (names : List String) (reply : Option Bool) :
    Upshot.Balances keeper ⟨{ keeper with depot := (keeper.depot.releaseEach names).1 },
      (keeper.depot.releaseEach names).2, [], [], reply⟩ where
  sound := sound_of_releaseEach h names
  served := congrArg Store.served (keeper.depot.store_releaseEach names)
  serials := rfl
  resident handle := keeper.depot.count_releaseEach names handle
  pending handle := by simp [pending]

theorem releases_releaseEach (keeper : Keeper) (names : List String) (reply : Option Bool) :
    Upshot.Releases keeper ⟨{ keeper with depot := (keeper.depot.releaseEach names).1 },
      (keeper.depot.releaseEach names).2, [], [], reply⟩ where
  resident name handle hevent :=
    ((keeper.depot.release_mem_releaseEach_iff names name handle).1 hevent).2
  leaves name handle hhandle := by
    rw [Depot.release_mem_releaseEach_iff, Depot.handle?_releaseEach]
    by_cases hname : name ∈ names
    · right
      rw [if_pos hname]
      exact ⟨rfl, hname, hhandle⟩
    · left
      rw [if_neg hname]
      exact ⟨hhandle, fun hmem => hname hmem.1⟩

/-- The release of one asset is that of a list of one, with an answer. -/
theorem run_release (keeper : Keeper) (name : String) :
    keeper.run (.release name) =
      ⟨{ keeper with depot := (keeper.depot.releaseEach [name]).1 },
        (keeper.depot.releaseEach [name]).2, [], [], some (keeper.depot.release name).2.1⟩ := by
  rw [Depot.releaseEach_singleton]
  rfl

/-- **One errand keeps the accounts.** -/
theorem balances_run (h : keeper.Sound) (errand : Errand) :
    (keeper.run errand).Balances keeper := by
  cases errand with
  | reconcile required sorted =>
    unfold run
    cases hbatch : keeper.batch? with
    -- A second reconciliation is not begun while one is pending.
    | some batch => exact Upshot.balances_of_idle h rfl rfl (.inl rfl) rfl rfl rfl
    | none =>
      have hserved := keeper.depot.served_reconcile required
      have hsound : (keeper.depot.reconcile required).1.Sound :=
        h.depot.of_le (fun _ _ => Depot.handle?_of_reconcile) (hserved ▸ Nat.le_add_right _ _)
      have hyield := Load.serial_yield keeper.depot.store (keeper.depot.startLoads required)
      refine Upshot.balances_conclude hsound (keeper.depot.fits_reconcile sorted.nodup) hserved
        hyield.1 (keeper.depot.count_reconcile_resident required) fun handle => ?_
      rw [Depot.count_reconcile_handles, pending, hbatch]
      exact (Nat.zero_add _).symm
  | poll =>
    unfold run
    cases hbatch : keeper.batch? with
    | none => exact Upshot.balances_of_idle h rfl rfl (.inl rfl) rfl rfl rfl
    | some batch =>
      have hserved := keeper.depot.served_resume batch
      have hsound : (keeper.depot.resume batch).1.Sound :=
        h.depot.of_le (fun _ _ => id) (hserved ▸ Nat.le_add_right _ _)
      refine Upshot.balances_conclude hsound (Depot.fits_resume (h.batch batch hbatch)) hserved
        (Load.serial_yield keeper.depot.store batch.loads).1 (fun handle => rfl) fun handle => ?_
      rw [Depot.count_resume, pending, hbatch]
      rfl
  | abandon =>
    have hsound : Sound { keeper with batch? := none } := ⟨h.depot, nofun⟩
    exact Upshot.balances_of_idle hsound rfl rfl (.inr rfl) rfl rfl rfl
  | release name =>
    rw [run_release]
    exact balances_releaseEach h [name] _
  | releaseAll => exact balances_releaseEach h keeper.depot.resident.keys none
  | alter fault? gated =>
    -- The store may change in any way but for the handles it has served.
    have hsound : (keeper.run (.alter fault? gated)).keeper.Sound :=
      ⟨h.depot.of_le (fun _ _ => id) le_rfl,
        fun batch hbatch => (h.batch batch hbatch).of_le (fun _ _ => id) le_rfl⟩
    exact Upshot.balances_of_idle hsound rfl rfl (.inl rfl) rfl rfl rfl

/-- **One errand gives back what is resident** and leaves the other resident handles alone. -/
theorem releases_run (h : keeper.Sound) (errand : Errand) :
    (keeper.run errand).Releases keeper := by
  -- Errands that leave the depot alone and give nothing back.
  have hidle : ∀ upshot : Upshot, upshot.keeper.depot.resident = keeper.depot.resident →
      upshot.events = [] → upshot.Releases keeper := by
    intro upshot hresident hevents
    refine ⟨fun name handle hevent => ?_, fun name handle hhandle => .inl ?_⟩
    · rw [hevents] at hevent
      cases hevent
    · rw [hevents, Depot.handle?, hresident]
      exact ⟨hhandle, List.not_mem_nil⟩
  cases errand with
  | reconcile required sorted =>
    unfold run
    cases hbatch : keeper.batch? with
    | some batch => exact hidle _ rfl rfl
    | none =>
      have hfits := keeper.depot.fits_reconcile sorted.nodup
      refine ⟨fun name handle hevent => ?_, fun name handle hhandle => ?_⟩
      · exact ((keeper.depot.release_mem_reconcile_iff required name handle).1 hevent).2
      · -- A name is either required, and then kept, or released and not loaded again.
        have hevent := keeper.depot.release_mem_reconcile_iff required name handle
        by_cases hname : name ∈ required
        · left
          have hkept : (keeper.depot.reconcile required).1.handle? name = some handle := by
            have hstale : name ∉ keeper.depot.stale required := by simp [Depot.stale, hname]
            refine ((keeper.depot.handle?_releaseEach _ name).trans ?_)
            rw [if_neg hstale, hhandle]
          exact ⟨hfits.handle?_settled hkept, fun hmem => (hevent.1 hmem).1 hname⟩
        · right
          exact ⟨keeper.depot.handle?_settled_reconcile hname, hevent.2 ⟨hname, hhandle⟩⟩
  | poll =>
    unfold run
    cases hbatch : keeper.batch? with
    | none => exact hidle _ rfl rfl
    | some batch =>
      have hfits := Depot.fits_resume (h.batch batch hbatch)
      refine ⟨by rintro _ _ ⟨⟩, fun name handle hhandle => .inl ⟨?_, List.not_mem_nil⟩⟩
      exact hfits.handle?_settled hhandle
  | abandon => exact hidle _ rfl rfl
  | release name =>
    rw [run_release]
    exact releases_releaseEach keeper [name] _
  | releaseAll => exact releases_releaseEach keeper keeper.depot.resident.keys none
  | alter fault? gated => exact hidle _ rfl rfl

/-! ### All errands -/

theorem sound_ofStore (store : Store) : (ofStore store).Sound :=
  ⟨Depot.sound_ofStore store, nofun⟩

theorem sound_of_mem_transactions (h : keeper.Sound) {errands : List Errand}
    {transaction : Transaction} (hmem : transaction ∈ keeper.transactions errands) :
    transaction.keeper.Sound := by
  induction errands generalizing keeper with
  | nil => cases hmem
  | cons errand rest ih =>
    obtain rfl | hmem := List.mem_cons.1 hmem
    · exact h
    · exact ih (balances_run h errand).sound hmem

/-- What was resident or got registered is resident or was given back. -/
theorem count_registered (h : keeper.Sound) (errands : List Errand) (handle : Handle) :
    keeper.depot.holdings.count handle +
        ((keeper.transactions errands).flatMap (·.upshot.registered)).count handle =
      (keeper.after errands).depot.holdings.count handle +
        ((keeper.transactions errands).flatMap (·.upshot.returned)).count handle := by
  induction errands generalizing keeper with
  | nil => rfl
  | cons errand rest ih =>
    have hbalances := balances_run h errand
    have hfirst := hbalances.resident handle
    have hrest := ih hbalances.sound
    have hafter : keeper.after (errand :: rest) = (keeper.run errand).keeper.after rest := rfl
    simp only [transactions, List.flatMap_cons, List.count_append, hafter, Transaction.upshot]
      at hrest ⊢
    omega

/-- What got registered was held by the batch at first or was yielded. -/
theorem count_registered_le (h : keeper.Sound) (errands : List Errand) (handle : Handle) :
    ((keeper.transactions errands).flatMap (·.upshot.registered)).count handle +
        (keeper.after errands).pending.count handle ≤
      keeper.pending.count handle +
        ((keeper.transactions errands).flatMap (·.upshot.yielded)).count handle := by
  induction errands generalizing keeper with
  | nil => simp [transactions, after]
  | cons errand rest ih =>
    have hbalances := balances_run h errand
    have hfirst := hbalances.pending handle
    have hrest := ih hbalances.sound
    have hafter : keeper.after (errand :: rest) = (keeper.run errand).keeper.after rest := rfl
    simp only [transactions, List.flatMap_cons, List.count_append, hafter, Transaction.upshot]
      at hrest ⊢
    omega

/-- **The numbers of the handles that are yielded are consecutive.** -/
theorem serial_yielded (h : keeper.Sound) (errands : List Errand) :
    ((keeper.transactions errands).flatMap (·.upshot.yielded)).map (·.serial) =
      List.range' (keeper.depot.store.served + 1)
        ((keeper.transactions errands).flatMap (·.upshot.yielded)).length := by
  induction errands generalizing keeper with
  | nil => rfl
  | cons errand rest ih =>
    have hbalances := balances_run h errand
    have hrest := ih hbalances.sound
    have hupshot : (Transaction.mk keeper errand).upshot = keeper.run errand := rfl
    rw [transactions, List.flatMap_cons, List.map_append, List.length_append, hupshot,
      hbalances.serials, hrest, hbalances.served, Nat.add_right_comm, List.range'_append_1]

/-- **No handle is registered twice.** -/
theorem nodup_registered (store : Store) (errands : List Errand) :
    (((ofStore store).transactions errands).flatMap (·.upshot.registered)).Nodup := by
  have hsound := sound_ofStore store
  have hyielded : (((ofStore store).transactions errands).flatMap (·.upshot.yielded)).Nodup := by
    refine List.Nodup.of_map (·.serial) ?_
    rw [serial_yielded hsound]
    exact List.nodup_range'
  rw [List.nodup_iff_count_le_one] at hyielded ⊢
  intro handle
  have hle := count_registered_le hsound errands handle
  have hone := hyielded handle
  have hstart : (ofStore store).pending.count handle = 0 := rfl
  omega

/-- **Handles are released once and under their name**, whatever happens to a depot in use. In each
errand the store gets back, for each name that is released, the handle that was resident under that
name, and a resident handle stays under its name until it is given back. All handles that were
registered so far are distinct; they are those that are resident together with those that were given
back, so none of them is given back twice or is resident after it was given back. A release is
answered with true exactly when there was a handle to give back. -/
theorem registered_are_resident_or_released (store : Store) (errands : List Errand) :
    let now := (ofStore store).after errands
    let history := (ofStore store).transactions errands
    let registered := history.flatMap (·.upshot.registered)
    let returned := history.flatMap (·.upshot.returned)
    (∀ transaction ∈ history, ∀ name handle, .release name handle ∈ transaction.upshot.events →
      transaction.keeper.depot.handle? name = some handle) ∧
    returned.Nodup ∧
    (∀ transaction ∈ history, ∀ name handle,
      transaction.keeper.depot.handle? name = some handle →
      let later := transaction.upshot.keeper.depot.handle? name
      (later = some handle ∧ .release name handle ∉ transaction.upshot.events) ∨
      (later = none ∧ .release name handle ∈ transaction.upshot.events)) ∧
    registered.Nodup ∧ registered.Perm (now.depot.resident.values ++ returned) ∧
    ∀ transaction ∈ history, ∀ name, transaction.errand = .release name →
      (transaction.upshot.reply = some true ↔
        ∃ handle, transaction.keeper.depot.handle? name = some handle) ∧
      (transaction.upshot.reply = some false ↔ transaction.keeper.depot.handle? name = none) := by
  intro now history registered returned
  have hsound := sound_ofStore store
  have hreleases : ∀ transaction ∈ history, transaction.upshot.Releases transaction.keeper :=
    fun transaction hmem => releases_run (sound_of_mem_transactions hsound hmem) transaction.errand
  have hregistered : registered.Nodup := nodup_registered store errands
  -- The accounts of the errands add up to one balance, which starts from nothing.
  have hperm : registered.Perm (now.depot.resident.values ++ returned) := by
    refine List.perm_iff_count.2 fun handle => ?_
    have hcount := count_registered hsound errands handle
    have hstart : (ofStore store).depot.holdings.count handle = 0 := rfl
    rw [hstart, Nat.zero_add] at hcount
    rw [List.count_append]
    exact hcount
  have hdistinct : (now.depot.resident.values ++ returned).Nodup := hperm.nodup_iff.1 hregistered
  refine ⟨fun transaction hmem => (hreleases transaction hmem).resident,
    (List.nodup_append.1 hdistinct).2.1,
    fun transaction hmem => (hreleases transaction hmem).leaves, hregistered, hperm, ?_⟩
  rintro ⟨keeper, errand⟩ - name rfl
  have hreply : (Transaction.mk keeper (.release name)).upshot.reply =
      some (keeper.depot.release name).2.1 := rfl
  rw [hreply, Depot.release]
  cases keeper.depot.handle? name <;> simp

end Keeper

end Storyboard
