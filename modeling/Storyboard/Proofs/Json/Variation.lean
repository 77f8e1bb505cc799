import Storyboard.Json.Codec
import Mathlib.Data.List.Nodup
import Mathlib.Data.List.Forall2

/-!
# Variations of a form

A variation of a JSON value has the same items in each array, and in each object the same members in
some order, among other members with other names (`Json.Varied`). A record that is read from a
variation of its form finds each of its fields, once, as a variation of what was written for it
(`Json.Varied.membersRecord?`), so a reader that undoes the form of each field undoes the form of
the record.
-/

namespace Storyboard.Json

/-- A value is another one with the members of its objects reordered and with members added under
other names that spell a text. -/
inductive Varied : Json → Json → Prop where
  | null : Varied null null
  | bool (b : Bool) : Varied (.bool b) (.bool b)
  | number (numeral : Numeral) : Varied (.number numeral) (.number numeral)
  | string (text : Option String) : Varied (.string text) (.string text)
  | array {items others : List Json} (h : List.Forall₂ Varied items others) :
    Varied (.array items) (.array others)
  | object {fields kept added members : List (Option String × Json)}
    (hnames : kept.map (·.1) = fields.map (·.1))
    (hvalues : List.Forall₂ Varied (fields.map (·.2)) (kept.map (·.2)))
    (hadded : ∀ member ∈ added, member.1.isSome = true ∧ member.1 ∉ fields.map (·.1))
    (hmembers : members.Perm (kept ++ added)) :
    Varied (.object fields) (.object members)

namespace Varied

mutual

/-- A value is a variation of itself. -/
theorem refl : ∀ json, Varied json json
  | .null => .null
  | .bool b => .bool b
  | .number numeral => .number numeral
  | .string text => .string text
  | .array items => .array (reflItems items)
  | .object members =>
    .object rfl (reflMembers members) (List.forall_mem_nil _) (by rw [List.append_nil])

theorem reflItems : ∀ items, List.Forall₂ Varied items items
  | [] => .nil
  | item :: rest => .cons (refl item) (reflItems rest)

theorem reflMembers : ∀ members : List (Option String × Json),
    List.Forall₂ Varied (members.map (·.2)) (members.map (·.2))
  | [] => .nil
  | (_, value) :: rest => .cons (refl value) (reflMembers rest)

end

/-- A variation of an array is an array of variations. -/
theorem items_of_array {items : List Json} {json : Json} (h : Varied (.array items) json) :
    ∃ others, json = .array others ∧ List.Forall₂ Varied items others := by
  cases h with
  | array hitems => exact ⟨_, rfl, hitems⟩

/-! ### Records -/

/-- Among members with distinct names, one has the name of a field. -/
theorem filter_kept {fields kept : List (Option String × Json)}
    (hnames : kept.map (·.1) = fields.map (·.1))
    (hvalues : List.Forall₂ Varied (fields.map (·.2)) (kept.map (·.2)))
    (hnodup : (fields.map (·.1)).Nodup) {name : Option String} {value : Json}
    (hfield : (name, value) ∈ fields) :
    ∃ other, kept.filter (·.1 = name) = [(name, other)] ∧ Varied value other := by
  induction fields generalizing kept with
  | nil => cases hfield
  | cons field rest ih =>
    cases kept with
    | nil => cases hnames
    | cons member others =>
      rw [List.map_cons, List.map_cons] at hnames hvalues
      obtain ⟨hname, hothers⟩ := List.cons.inj hnames
      obtain ⟨hvalue, hrest⟩ := List.forall₂_cons.1 hvalues
      rw [List.map_cons, List.nodup_cons] at hnodup
      rcases List.mem_cons.1 hfield with rfl | hlater
      · -- The names after it are others.
        have hnone : others.filter (·.1 = name) = [] := by
          rw [List.filter_eq_nil_iff]
          intro other hother hsame
          refine hnodup.1 (hothers ▸ List.mem_map.2 ⟨other, hother, ?_⟩)
          exact of_decide_eq_true hsame
        obtain ⟨_, found⟩ := member
        obtain rfl := hname
        refine ⟨found, ?_, hvalue⟩
        rw [List.filter_cons_of_pos (by simp), hnone]
      · obtain ⟨other, hfilter, hvaried⟩ := ih hothers hrest hnodup.2 hlater
        refine ⟨other, ?_, hvaried⟩
        have hne : member.1 ≠ name := by
          intro hsame
          refine hnodup.1 (List.mem_map.2 ⟨(name, value), hlater, ?_⟩)
          rw [← hname, hsame]
        rw [List.filter_cons_of_neg (by simpa using hne), hfilter]

variable {fields : List (String × Json)} {members : List (Option String × Json)}

/-- A field that is found is the only member of its name. -/
theorem eq_of_field? {name : String} {found value : Json}
    (h : Json.field? members name = some (some found)) (hmem : (some name, value) ∈ members) :
    value = found := by
  have hnamed : (some name, value) ∈ members.filter (·.1 = some name) :=
    List.mem_filter.2 ⟨hmem, decide_eq_true rfl⟩
  unfold Json.field? at h
  split at h
  · cases h
  · next member hfilter =>
    rw [hfilter] at hnamed
    rw [← Option.some.inj (Option.some.inj h), ← List.mem_singleton.1 hnamed]
  · cases h

/-- **A field is found once** in a variation, as a variation of what was written for it. -/
theorem field? (h : Varied (ofFields fields) (.object members))
    (hnodup : (fields.map (·.1)).Nodup) {name : String} {value : Json}
    (hfield : (name, value) ∈ fields) :
    ∃ other, Json.field? members name = some (some other) ∧ (some name, other) ∈ members ∧
      Varied value other := by
  rw [ofFields] at h
  cases h with
  | @object _ kept added _ hnames hvalues hadded hmembers =>
    have hfields : (fields.map fun field => (some field.1, field.2)).map (·.1) =
        (fields.map (·.1)).map some := by
      rw [List.map_map, List.map_map]
      rfl
    -- Names that are distinct stay so as names of members.
    have hdistinct : ((fields.map fun field => (some field.1, field.2)).map (·.1)).Nodup := by
      rw [hfields]
      exact hnodup.map fun _ _ => Option.some.inj
    have hmem : (some name, value) ∈ fields.map fun field => (some field.1, field.2) :=
      List.mem_map.2 ⟨_, hfield, rfl⟩
    obtain ⟨other, hkept, hvaried⟩ := filter_kept hnames hvalues hdistinct hmem
    -- What was added has other names.
    have hnone : added.filter (·.1 = some name) = [] := by
      rw [List.filter_eq_nil_iff]
      intro member hmember hsame
      refine (hadded member hmember).2 ?_
      rw [of_decide_eq_true hsame]
      exact List.mem_map.2 ⟨_, hmem, rfl⟩
    -- The order of the members does not matter where only one of them is left.
    have hfilter : members.filter (·.1 = some name) = [(some name, other)] := by
      have hperm := hmembers.filter (·.1 = some name)
      rw [List.filter_append, hkept, hnone, List.append_nil] at hperm
      exact List.perm_singleton.1 hperm
    have hfound : (some name, other) ∈ members.filter (·.1 = some name) := by
      rw [hfilter]
      exact List.mem_cons_self
    refine ⟨other, ?_, (List.mem_filter.1 hfound).1, hvaried⟩
    rw [Json.field?, hfilter]

/-- A variation of an object is an object, and all its names are texts. -/
theorem members_of_ofFields {json : Json} (h : Varied (ofFields fields) json) :
    ∃ members, json = .object members ∧ members.all (·.1.isSome) = true := by
  rw [ofFields] at h
  cases h with
  | @object _ kept added members hnames hvalues hadded hmembers =>
    refine ⟨members, rfl, ?_⟩
    rw [List.all_eq_true]
    intro member hmember
    rcases List.mem_append.1 (hmembers.mem_iff.1 hmember) with hkept | hadd
    · have hname : member.1 ∈ kept.map (·.1) := List.mem_map_of_mem hkept
      rw [hnames, List.map_map] at hname
      obtain ⟨field, -, hfield⟩ := List.mem_map.1 hname
      rw [← hfield]
      rfl
    · exact (hadded member hadd).1

/-- **A record is found in a variation of its form**: each field that is asked for is there, as a
variation of what was written for it. -/
theorem membersRecord? (h : Varied (ofFields fields) (.object members))
    (hnodup : (fields.map (·.1)).Nodup) {asked : List (String × Json)} (hasked : asked ⊆ fields) :
    ∃ values, Json.membersRecord? (asked.map (·.1)) members = some (values.map some) ∧
      List.Forall₂ (fun field value => (some field.1, value) ∈ members ∧ Varied field.2 value)
        asked values := by
  obtain ⟨_, heq, hnames⟩ := members_of_ofFields h
  obtain rfl := Json.object.inj heq
  rw [Json.membersRecord?, if_pos hnames]
  clear heq
  induction asked with
  | nil => exact ⟨[], rfl, .nil⟩
  | cons field rest ih =>
    rw [List.cons_subset] at hasked
    obtain ⟨values, hrest, hvalues⟩ := ih hasked.2
    obtain ⟨other, hother, hmem, hvaried⟩ := h.field? hnodup hasked.1
    refine ⟨other :: values, ?_, .cons ⟨hmem, hvaried⟩ hvalues⟩
    rw [List.map_cons, List.mapM_cons, hother, hrest]
    rfl

/-- A record is found in a variation of its form. -/
theorem record? {json : Json} (h : Varied (ofFields fields) json)
    (hnodup : (fields.map (·.1)).Nodup) :
    ∃ values, json.record? (fields.map (·.1)) = some (values.map some) ∧
      List.Forall₂ (fun field value => Varied field.2 value) fields values := by
  obtain ⟨members, rfl, -⟩ := members_of_ofFields h
  obtain ⟨values, hrecord, hvalues⟩ := h.membersRecord? hnodup (List.Subset.refl _)
  exact ⟨values, hrecord, hvalues.imp fun _ _ => And.right⟩

end Varied

end Storyboard.Json
