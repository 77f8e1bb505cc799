/-!
# Dictionaries in key order

A `Dict α` holds values under distinct strings and lists them in the order of their keys. Strings
are ordered by code points, which is also the order of their UTF-8 bytes.

The entries are a list with strictly increasing keys, so two dictionaries with the same look-ups
are equal (`Dict.ext_find?`).
-/

namespace Storyboard

/-- Values under distinct strings, in the order of the strings. -/
structure Dict (α : Type) where
  /-- The keys with their values. -/
  entries : List (String × α)
  /-- Keys increase strictly. -/
  sorted : entries.Pairwise (fun a b => a.1 < b.1)

namespace Dict

variable {α : Type}

/-! ### Operations -/

/-- The dictionary without entries. -/
def empty : Dict α := ⟨[], .nil⟩

instance : Inhabited (Dict α) := ⟨empty⟩

/-- The first value under a key in a list of entries. -/
def lookup (key : String) : List (String × α) → Option α
  | [] => none
  | entry :: rest => if key = entry.1 then some entry.2 else lookup key rest

/-- The value under a key. -/
def find? (d : Dict α) (key : String) : Option α :=
  lookup key d.entries

/-- Whether a key has a value. -/
def contains (d : Dict α) (key : String) : Bool :=
  (d.find? key).isSome

/-- The keys, in order. -/
def keys (d : Dict α) : List String :=
  d.entries.map (·.1)

/-- The values, in the order of their keys. -/
def values (d : Dict α) : List α :=
  d.entries.map (·.2)

/-- The number of keys. -/
def size (d : Dict α) : Nat :=
  d.entries.length

/-- Puts an entry into a list with increasing keys, in place of one with the same key. -/
def insertEntry (key : String) (value : α) : List (String × α) → List (String × α)
  | [] => [(key, value)]
  | entry :: rest =>
    if key < entry.1 then (key, value) :: entry :: rest
    else if key = entry.1 then (key, value) :: rest
    else entry :: insertEntry key value rest

theorem mem_insertEntry {key : String} {value : α} {entries : List (String × α)}
    {entry : String × α} (h : entry ∈ insertEntry key value entries) :
    entry = (key, value) ∨ entry ∈ entries := by
  induction entries with
  | nil => simpa [insertEntry] using h
  | cons first rest ih =>
    unfold insertEntry at h
    split at h
    · simpa using h
    · split at h
      · rcases List.mem_cons.1 h with h | h
        · exact .inl h
        · exact .inr (List.mem_cons_of_mem _ h)
      · rcases List.mem_cons.1 h with h | h
        · exact .inr (h ▸ List.mem_cons_self)
        · exact (ih h).imp_right (List.mem_cons_of_mem _)

theorem lt_of_not_lt_of_ne {a b : String} (hlt : ¬ a < b) (hne : ¬ a = b) : b < a := by
  rcases Decidable.em (b < a) with h | h
  · exact h
  · exact absurd (String.le_antisymm (String.not_lt.1 h) (String.not_lt.1 hlt)) hne

theorem insertEntry_sorted (key : String) (value : α) {entries : List (String × α)}
    (h : entries.Pairwise (fun a b => a.1 < b.1)) :
    (insertEntry key value entries).Pairwise (fun a b => a.1 < b.1) := by
  induction entries with
  | nil => simp [insertEntry]
  | cons first rest ih =>
    obtain ⟨hfirst, hrest⟩ := List.pairwise_cons.1 h
    unfold insertEntry
    split
    · next hlt =>
      -- The new key is smaller than the first one, and so than all others.
      refine List.pairwise_cons.2 ⟨?_, h⟩
      intro entry hentry
      rcases List.mem_cons.1 hentry with rfl | hentry
      · exact hlt
      · exact String.lt_trans hlt (hfirst entry hentry)
    · split
      · next heq =>
        subst heq
        exact List.pairwise_cons.2 ⟨hfirst, hrest⟩
      · next hlt hne =>
        -- Further back: whatever the insertion puts there is larger than the first key.
        refine List.pairwise_cons.2 ⟨?_, ih hrest⟩
        intro entry hentry
        rcases mem_insertEntry hentry with rfl | hentry
        · exact lt_of_not_lt_of_ne hlt hne
        · exact hfirst entry hentry

/-- Puts a value under a key, in place of the one that was there. -/
def insert (d : Dict α) (key : String) (value : α) : Dict α :=
  ⟨insertEntry key value d.entries, insertEntry_sorted key value d.sorted⟩

/-- Removes a key. -/
def erase (d : Dict α) (key : String) : Dict α :=
  ⟨d.entries.filter (·.1 ≠ key), d.sorted.filter _⟩

/-- The dictionary of a list of entries; of two entries with one key the later one counts. -/
def ofList (entries : List (String × α)) : Dict α :=
  entries.foldl (fun d entry => d.insert entry.1 entry.2) empty

/-! ### Look-up laws -/

@[simp] theorem find?_empty (key : String) : (empty : Dict α).find? key = none := rfl

theorem lookup_insertEntry (key other : String) (value : α) (entries : List (String × α)) :
    lookup other (insertEntry key value entries) =
      if other = key then some value else lookup other entries := by
  induction entries with
  | nil => rfl
  | cons first rest ih =>
    unfold insertEntry
    split
    · rfl
    · split
      · next heq =>
        by_cases h : other = key
        · simp [lookup, h]
        · simp [lookup, h, ← heq]
      · next hne =>
        rw [lookup, lookup, ih]
        by_cases h : other = first.1
        · rw [if_pos h, if_neg (fun h' : other = key => hne (h' ▸ h)), if_pos h]
        · rw [if_neg h, if_neg h]

/-- **A look-up after an insertion** finds the new value under its key and the old values under
all others. -/
@[simp] theorem find?_insert (d : Dict α) (key other : String) (value : α) :
    (d.insert key value).find? other = if other = key then some value else d.find? other :=
  lookup_insertEntry key other value d.entries

theorem lookup_filter_ne (key other : String) (entries : List (String × α)) :
    lookup other (entries.filter (·.1 ≠ key)) =
      if other = key then none else lookup other entries := by
  induction entries with
  | nil => simp [lookup]
  | cons first rest ih =>
    rw [List.filter_cons]
    by_cases hf : first.1 = key
    · rw [if_neg (by simpa using hf), ih, lookup, hf]
      by_cases h : other = key <;> simp [h]
    · rw [if_pos (by simpa using hf), lookup, lookup, ih]
      by_cases h : other = first.1
      · rw [if_pos h, if_neg (fun h' => hf (h ▸ h')), if_pos h]
      · rw [if_neg h, if_neg h]

/-- **A look-up after a removal** finds nothing under that key and the old values under all
others. -/
@[simp] theorem find?_erase (d : Dict α) (key other : String) :
    (d.erase key).find? other = if other = key then none else d.find? other :=
  lookup_filter_ne key other d.entries

theorem find?_foldl_insert (entries : List (String × α)) (d : Dict α) (key : String) :
    (entries.foldl (fun d entry => d.insert entry.1 entry.2) d).find? key =
      ((entries.reverse.find? (·.1 = key)).map (·.2)).or (d.find? key) := by
  induction entries generalizing d with
  | nil => rfl
  | cons first rest ih =>
    rw [List.foldl_cons, ih, find?_insert, List.reverse_cons, List.find?_append,
      List.find?_singleton]
    cases rest.reverse.find? (·.1 = key) with
    | some entry => rfl
    | none =>
      by_cases h : first.1 = key
      · simp [h]
      · simp [h, Ne.symm h]

/-- **A look-up in a list of entries** finds the last one with that key. -/
theorem find?_ofList (entries : List (String × α)) (key : String) :
    (ofList entries).find? key = (entries.reverse.find? (·.1 = key)).map (·.2) := by
  rw [ofList, find?_foldl_insert, find?_empty, Option.or_none]

/-- A key with a value in a list with increasing keys is not below its first key. -/
theorem lookup_eq_none_of_lt {key : String} {entries : List (String × α)}
    (h : ∀ entry ∈ entries, key < entry.1) : lookup key entries = none := by
  induction entries with
  | nil => rfl
  | cons first rest ih =>
    rw [lookup, if_neg, ih fun entry he => h entry (List.mem_cons_of_mem _ he)]
    intro heq
    exact String.lt_irrefl key (heq ▸ h first List.mem_cons_self)

theorem entries_eq_of_lookup_eq {entries others : List (String × α)}
    (hs : entries.Pairwise (fun a b => a.1 < b.1)) (ho : others.Pairwise (fun a b => a.1 < b.1))
    (h : ∀ key, lookup key entries = lookup key others) : entries = others := by
  induction entries generalizing others with
  | nil =>
    cases others with
    | nil => rfl
    | cons first rest => simpa [lookup] using h first.1
  | cons a as ih =>
    cases others with
    | nil => simpa [lookup] using h a.1
    | cons b bs =>
      obtain ⟨ha, has⟩ := List.pairwise_cons.1 hs
      obtain ⟨hb, hbs⟩ := List.pairwise_cons.1 ho
      -- The smaller of the two first keys would be found on one side only.
      have hkey : a.1 = b.1 := by
        by_cases hab : a.1 < b.1
        · have hnone : lookup a.1 (b :: bs) = none := by
            refine lookup_eq_none_of_lt fun entry he => ?_
            rcases List.mem_cons.1 he with rfl | he
            · exact hab
            · exact String.lt_trans hab (hb entry he)
          simpa [lookup] using (h a.1).trans hnone
        · by_cases heq : a.1 = b.1
          · exact heq
          · have hba : b.1 < a.1 := lt_of_not_lt_of_ne hab heq
            have hnone : lookup b.1 (a :: as) = none := by
              refine lookup_eq_none_of_lt fun entry he => ?_
              rcases List.mem_cons.1 he with rfl | he
              · exact hba
              · exact String.lt_trans hba (ha entry he)
            simpa [lookup] using (h b.1).symm.trans hnone
      have hvalue : a.2 = b.2 := by simpa [lookup, hkey] using h a.1
      have hrest : as = bs := by
        refine ih has hbs fun key => ?_
        by_cases hk : key = a.1
        · rw [hk, lookup_eq_none_of_lt ha, hkey, lookup_eq_none_of_lt hb]
        · have := h key
          rwa [lookup, lookup, if_neg hk, if_neg (hkey ▸ hk)] at this
      rw [hrest, Prod.ext hkey hvalue]

/-- **Dictionaries with the same look-ups are equal.** -/
theorem ext_find? {d e : Dict α} (h : ∀ key, d.find? key = e.find? key) : d = e := by
  cases d with
  | mk entries hs =>
    cases e with
    | mk others ho => simpa using entries_eq_of_lookup_eq hs ho h

/-! ### Keys -/

theorem keys_sorted (d : Dict α) : d.keys.Pairwise (· < ·) :=
  List.pairwise_map.2 d.sorted

theorem mem_map_fst_iff (key : String) (entries : List (String × α)) :
    key ∈ entries.map (·.1) ↔ (lookup key entries).isSome = true := by
  induction entries with
  | nil => simp [lookup]
  | cons first rest ih =>
    rw [List.map_cons, List.mem_cons, ih, lookup]
    by_cases h : key = first.1 <;> simp [h]

/-- **The keys are what a look-up finds a value under.** -/
theorem mem_keys_iff (d : Dict α) (key : String) : key ∈ d.keys ↔ (d.find? key).isSome = true :=
  mem_map_fst_iff key d.entries

theorem mem_keys_insert (d : Dict α) (key other : String) (value : α) :
    other ∈ (d.insert key value).keys ↔ other = key ∨ other ∈ d.keys := by
  rw [mem_keys_iff, mem_keys_iff, find?_insert]
  by_cases h : other = key <;> simp [h]

theorem mem_keys_ofList (entries : List (String × α)) (key : String) :
    key ∈ (ofList entries).keys ↔ key ∈ entries.map (·.1) := by
  have hfold : ∀ d : Dict α,
      key ∈ (entries.foldl (fun d entry => d.insert entry.1 entry.2) d).keys ↔
        key ∈ d.keys ∨ key ∈ entries.map (·.1) := by
    induction entries with
    | nil => simp
    | cons first rest ih =>
      intro d
      rw [List.foldl_cons, ih, mem_keys_insert, List.map_cons, List.mem_cons, or_assoc,
        or_left_comm]
  exact (hfold empty).trans (or_iff_right List.not_mem_nil)

/-! ### Entries and values -/

/-- **The entries are what a look-up finds.** -/
theorem mem_entries_iff (d : Dict α) (key : String) (value : α) :
    (key, value) ∈ d.entries ↔ d.find? key = some value := by
  obtain ⟨entries, hsorted⟩ := d
  change (key, value) ∈ entries ↔ lookup key entries = some value
  induction entries with
  | nil => simp [lookup]
  | cons first rest ih =>
    obtain ⟨hfirst, hrest⟩ := List.pairwise_cons.1 hsorted
    rw [List.mem_cons, ih hrest, lookup]
    by_cases h : key = first.1
    · subst h
      rw [if_pos rfl, lookup_eq_none_of_lt hfirst, Option.some.injEq, Prod.ext_iff]
      simp [eq_comm]
    · rw [if_neg h, or_iff_right]
      rintro rfl
      exact h rfl

theorem mem_values_iff (d : Dict α) (value : α) :
    value ∈ d.values ↔ ∃ key, d.find? key = some value := by
  simp only [values, List.mem_map, Prod.exists, mem_entries_iff, exists_eq_right]

theorem perm_filter_ne {key : String} {value : α} {entries : List (String × α)}
    (hsorted : entries.Pairwise (fun a b => a.1 < b.1)) (h : lookup key entries = some value) :
    entries.Perm ((key, value) :: entries.filter (·.1 ≠ key)) := by
  induction entries with
  | nil => cases h
  | cons first rest ih =>
    obtain ⟨hfirst, hrest⟩ := List.pairwise_cons.1 hsorted
    rw [lookup] at h
    by_cases hkey : key = first.1
    · rw [if_pos hkey] at h
      cases h
      subst hkey
      -- The keys behind it are larger, so the filter takes only the first entry.
      have hkeep : rest.filter (·.1 ≠ first.1) = rest :=
        List.filter_eq_self.2 fun entry hentry => by
          simpa using fun heq : entry.1 = first.1 =>
            String.lt_irrefl first.1 (heq ▸ hfirst entry hentry)
      rw [List.filter_cons_of_neg (by simp), hkeep]
    · rw [if_neg hkey] at h
      rw [List.filter_cons_of_pos (by simpa using Ne.symm hkey)]
      exact ((ih hrest h).cons first).trans (.swap ..)

/-- **A removal** takes the value under its key out of the values. -/
theorem perm_values_erase {d : Dict α} {key : String} {value : α} (h : d.find? key = some value) :
    d.values.Perm (value :: (d.erase key).values) :=
  (perm_filter_ne d.sorted h).map Prod.snd

theorem perm_insertEntry {key : String} (value : α) {entries : List (String × α)}
    (h : lookup key entries = none) :
    (insertEntry key value entries).Perm ((key, value) :: entries) := by
  induction entries with
  | nil => exact .refl _
  | cons first rest ih =>
    rw [lookup] at h
    unfold insertEntry
    split
    · exact .refl _
    · split
      · next hkey =>
        rw [if_pos hkey] at h
        cases h
      · next hkey =>
        rw [if_neg hkey] at h
        exact ((ih h).cons first).trans (.swap ..)

/-- **An insertion** under a key without a value adds its value to the values. -/
theorem perm_values_insert {d : Dict α} {key : String} (value : α) (h : d.find? key = none) :
    (d.insert key value).values.Perm (value :: d.values) :=
  (perm_insertEntry value h).map Prod.snd

end Dict

end Storyboard
