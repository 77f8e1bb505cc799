import Storyboard.Proofs.Json.Reading
import Storyboard.Proofs.Json.Variation

/-!
# Round trips of the JSON forms

The JSON form of a value is read back from its text, whatever the order of its members and whatever
members are added to them under names that spell a text (`Json.forms_are_faithful`). Numbers have to
be words for that, as they are in every value of the library.

The readers are put together from readers of parts, and so are the proofs: a reader that takes each
variation of the form of a part for that part (`Json.Reads`) does so as a field of a record. A
command is the exception. It is kept as a whole until its kind is known, so what is added to it has
to be something that can be kept: numbers with a value, strings that spell a text, and not too many
containers inside each other (`Command.ofJson?_of_varied`).
-/

namespace Storyboard

/-! ### Numbers -/

namespace Numeral

/-- The digits of a number start with a zero only if there are no others. -/
theorem toDigits_of_head? {n : Nat} (h : (Nat.toDigits 10 n).head? = some '0') :
    Nat.toDigits 10 n = ['0'] := by
  induction n using Nat.strongRecOn with
  | ind n ih =>
  by_cases hsmall : n < 10
  · rw [Nat.toDigits_of_lt_base hsmall] at h ⊢
    rw [Option.some.inj h]
  · -- The first digit is that of a tenth of the number, which is not zero.
    have hlong := Nat.toDigits_of_base_le (b := 10) (n := n) (by decide) (by omega)
    rw [hlong, List.head?_append_of_ne_nil _ Nat.toDigits_ne_nil] at h
    have hzero := ih (n / 10) (by omega) h
    have hvalue : Nat.ofDigitChars 10 (Nat.toDigits 10 (n / 10)) 0 = n / 10 :=
      Nat.ofDigitChars_ten_toDigits
    rw [hzero] at hvalue
    have hnone : Nat.ofDigitChars 10 ['0'] 0 = 0 := rfl
    omega

theorem isWritten_ofNat (n : Nat) : (ofNat n).IsWritten where
  whole := ⟨Nat.toDigits_ne_nil, fun _ => Nat.isDigit_of_mem_toDigits (by decide) (by decide)⟩
  leading := toDigits_of_head?
  fraction := nofun
  exponent := nofun

/-- **The value of the numeral of a word** is that word. -/
theorem value?_ofNat {n : Nat} (h : n < Text.wordLimit) :
    (ofNat n).value? = some (.natural n) := by
  have hdigits : Text.digitsValue (Nat.toDigits 10 n) = n := by
    rw [Text.digitsValue]
    exact Nat.ofDigitChars_eq_foldl.symm.trans Nat.ofDigitChars_ten_toDigits
  simp [value?, ofNat, hdigits, h]

end Numeral

namespace Json

/-- A reader takes a form, and each variation of it, for a value. -/
def Reads {α : Type} (read? : Json → Option α) (form : Json) (value : α) : Prop :=
  ∀ json, Varied form json → read? json = some value

theorem reads_text (s : String) : Reads text? (ofText s) s := by
  rintro json ⟨⟩
  rfl

theorem reads_bool (b : Bool) : Reads bool? (.bool b) b := by
  rintro json ⟨⟩
  rfl

theorem reads_natBelow {limit n : Nat} (hword : limit ≤ Text.wordLimit) (h : n < limit) :
    Reads (natBelow? limit) (ofNat n) n := by
  rintro json ⟨⟩
  rw [natBelow?, Numeral.value?_ofNat (by omega)]
  exact if_pos h

theorem reads_word {n : Nat} (h : n < Text.wordLimit) : Reads word? (ofNat n) n :=
  reads_natBelow (Nat.le_refl _) h

/-- What may be absent is read back, if its reader does not take the form of its absence. -/
theorem reads_option {α : Type} {read? : Json → Option α} {form : α → Json} {value : Option α}
    (hnull : read? .null = none) (h : ∀ a, value = some a → Reads read? (form a) a) :
    Reads (option? read?) (ofOption form value) value := by
  intro json hvaried
  cases value with
  | none =>
    cases hvaried
    rfl
  | some a =>
    have hread := h a rfl json hvaried
    have hpresent : json ≠ .null := by
      rintro rfl
      exact absurd (hnull.symm.trans hread) nofun
    rw [option?.eq_2 _ _ hpresent, hread, Option.map_some]

/-- A list with an item that is refused is refused. -/
theorem mapM_of_refused {α : Type} {read? : Json → Option α} {items : List Json} {item : Json}
    (hitem : item ∈ items) (h : read? item = none) : items.mapM read? = none := by
  induction items with
  | nil => cases hitem
  | cons first rest ih =>
    rw [List.mapM_cons]
    rcases List.mem_cons.1 hitem with rfl | hlater
    · rw [h]
      rfl
    · rw [ih hlater]
      cases read? first <;> rfl

/-- A list is read back if each of its items is. -/
theorem mapM_of_varied {α : Type} {read? : Json → Option α} {form : α → Json} {values : List α}
    {items : List Json} (hitems : List.Forall₂ Varied (values.map form) items)
    (h : ∀ value ∈ values, ∀ item ∈ items, Varied (form value) item → read? item = some value) :
    items.mapM read? = some values := by
  induction values generalizing items with
  | nil =>
    cases hitems
    rfl
  | cons value rest ih =>
    obtain _ | ⟨hitem, hothers⟩ := hitems
    next item others =>
    -- Item by item, as the variation pairs them.
    have hread := h value List.mem_cons_self item List.mem_cons_self hitem
    have hrest := ih hothers fun value hvalue item hitem =>
      h value (List.mem_cons_of_mem _ hvalue) item (List.mem_cons_of_mem _ hitem)
    rw [List.mapM_cons, hread, hrest]
    rfl

/-! ### Names that spell no text -/

section

variable {members : List (Option String × Json)} (h : ∃ member ∈ members, member.1 = none)
include h

/-- An object with such a name is no record. -/
theorem record?_of_nameless (names : List String) : (object members).record? names = none := by
  obtain ⟨member, hmember, hname⟩ := h
  rw [record?, membersRecord?, if_neg]
  intro hall
  have hspelt := List.all_eq_true.1 hall member hmember
  rw [hname] at hspelt
  cases hspelt

/-- Nor can it be kept as a whole. -/
theorem isKept_of_nameless (depth : Nat) : (object members).isKept depth = false := by
  obtain ⟨member, hmember, hname⟩ := h
  have hplain : isPlainMembers members = false := by
    induction members with
    | nil => cases hmember
    | cons first rest ih =>
      obtain ⟨name, value⟩ := first
      rw [isPlainMembers]
      rcases List.mem_cons.1 hmember with rfl | hlater
      · obtain rfl : name = none := hname
        rfl
      · rw [ih hlater, Bool.and_false]
  rw [isKept, isPlain, hplain, Bool.false_and]

end

/-! ### Fields -/

variable {α : Type} (read? : Json → Option α) (json : Json)

@[simp] theorem required?_some : required? read? (some json) = read? json := rfl

@[simp] theorem optional?_some : optional? read? (some json) = option? read? json := rfl

@[simp] theorem defaulted?_some (default : α) :
    defaulted? default read? (some json) = read? json := rfl

end Json

/-! ### Locations -/

namespace Location

/-- The line and the column are words. -/
def InRange (place : Location) : Prop :=
  place.line < Text.wordLimit ∧ ∀ column, place.column = some column → column < Text.wordLimit

theorem reads {place : Location} (h : place.InRange) : Json.Reads ofJson? place.toJson place := by
  intro json hvaried
  obtain ⟨values, hrecord, hvalues⟩ := Json.Varied.record? hvaried (by simp)
  obtain _ | ⟨hgrid, _ | ⟨hline, _ | ⟨hcolumn, ⟨⟩⟩⟩⟩ := hvalues
  have hcolumns : Json.option? Json.word? _ = some place.column :=
    Json.reads_option rfl (fun column hc => Json.reads_word (h.2 column hc)) _ hcolumn
  simp only [List.map_cons, List.map_nil] at hrecord
  simp [ofJson?, hrecord, Json.reads_text _ _ hgrid, Json.reads_word h.1 _ hline, hcolumns]

end Location

/-! ### Colours -/

namespace Color

theorem reads_channel (v : UInt8) {json : Json} (h : Json.Varied (.ofNat v.toNat) json) :
    channel? (some json) = some v := by
  have hread := Json.reads_natBelow (by decide) v.toNat_lt json h
  simp [channel?, hread]

theorem reads (c : Color) : Json.Reads ofJson? c.toJson c := by
  intro json hvaried
  obtain ⟨values, hrecord, hvalues⟩ := Json.Varied.record? hvaried (by simp)
  obtain _ | ⟨hr, _ | ⟨hg, _ | ⟨hb, _ | ⟨ha, ⟨⟩⟩⟩⟩⟩ := hvalues
  simp only [List.map_cons, List.map_nil] at hrecord
  simp [ofJson?, hrecord, reads_channel c.r hr, reads_channel c.g hg, reads_channel c.b hb,
    reads_channel c.a ha]

end Color

/-! ### Options of choices and items of selections -/

theorem ChoiceOption.reads (option : ChoiceOption) :
    Json.Reads ofJson? option.toJson option := by
  intro json hvaried
  obtain ⟨values, hrecord, hvalues⟩ := Json.Varied.record? hvaried (by simp)
  obtain _ | ⟨htext, _ | ⟨htarget, ⟨⟩⟩⟩ := hvalues
  simp only [List.map_cons, List.map_nil] at hrecord
  simp [ofJson?, hrecord, Json.reads_text _ _ htext, Json.reads_text _ _ htarget]

/-- The index is a word. -/
def SelectionItem.InRange (item : SelectionItem) : Prop := item.index < Text.wordLimit

theorem SelectionItem.reads {item : SelectionItem} (h : item.InRange) :
    Json.Reads ofJson? item.toJson item := by
  intro json hvaried
  obtain ⟨values, hrecord, hvalues⟩ := Json.Varied.record? hvaried (by simp)
  obtain _ | ⟨hindex, _ | ⟨htext, ⟨⟩⟩⟩ := hvalues
  simp only [List.map_cons, List.map_nil] at hrecord
  simp [ofJson?, hrecord, Json.reads_word h _ hindex, Json.reads_text _ _ htext]

theorem Options.reads (options : Options) : Json.Reads ofJson? options.toJson options := by
  intro json hvaried
  obtain ⟨values, hrecord, hvalues⟩ := Json.Varied.record? hvaried (by simp)
  obtain _ | ⟨hlabel, _ | ⟨hhide, ⟨⟩⟩⟩ := hvalues
  obtain ⟨members, rfl, -⟩ := Json.Varied.members_of_ofFields hvaried
  simp only [List.map_cons, List.map_nil] at hrecord
  simp [ofJson?, record?, ofFields?, hrecord, Json.reads_text _ _ hlabel, Json.reads_text _ _ hhide]

/-! ### Commands -/

namespace Command

/-- The place of the command is in range. -/
def InRange (command : Command) : Prop := command.place.InRange

/-- A variation of a form with a kind, if it can be kept as a whole, is read by its kind, and its
other fields are found. -/
theorem ofJson?_of_kind {kind : String} {fields : List (String × Json)} {json : Json}
    (hvaried : Json.Varied (.ofFields (("kind", .ofText kind) :: fields)) json)
    (hnodup : ((("kind", Json.ofText kind) :: fields).map (·.1)).Nodup) (depth : Nat) :
    ∃ record? values, record? (fields.map (·.1)) = some (values.map some) ∧
      List.Forall₂ (fun field value => Json.Varied field.2 value) fields values ∧
      ofJson? depth json = if json.isKept depth then ofKind? record? kind else none := by
  obtain ⟨members, rfl, -⟩ := hvaried.members_of_ofFields
  -- The kind is looked up first, then the other fields, among the same members.
  obtain ⟨tag, htag, -, hkind⟩ := hvaried.field? hnodup List.mem_cons_self
  obtain ⟨values, hrecord, hvalues⟩ := hvaried.membersRecord? hnodup (List.subset_cons_self _ _)
  refine ⟨fun names => Json.membersRecord? names members, values, hrecord,
    hvalues.imp fun _ _ => And.right, ?_⟩
  rw [ofJson?, htag, Option.bind_some, Json.required?_some, Json.reads_text _ _ hkind,
    Option.bind_some]

/-- What cannot be kept as a whole is refused. -/
theorem ofJson?_of_not_kept {depth : Nat} {json : Json} (h : json.isKept depth = false) :
    ofJson? depth json = none := by
  unfold ofJson?
  rw [h]
  rfl

theorem reads_options {options : List ChoiceOption} :
    Json.Reads options? (.array (options.map ChoiceOption.toJson)) options := by
  intro json hvaried
  obtain ⟨items, rfl, hitems⟩ := hvaried.items_of_array
  exact Json.mapM_of_varied hitems fun option _ item _ => option.reads item

/-- **A variation of a command that can be kept as a whole is read as the command**; one that cannot
is refused. -/
theorem ofJson?_of_varied {command : Command} (h : command.InRange) (depth : Nat) {json : Json}
    (hvaried : Json.Varied command.toJson json) :
    ofJson? depth json = if json.isKept depth then some command else none := by
  -- In each kind the tag selects the record, and the members are read one by one from it.
  cases command with
  | text words place =>
    obtain ⟨record?, values, hrecord, hvalues, hread⟩ := ofJson?_of_kind hvaried (by simp) depth
    have hrange : place.InRange := h
    obtain _ | ⟨hwords, _ | ⟨hplace, ⟨⟩⟩⟩ := hvalues
    simp only [List.map_cons, List.map_nil] at hrecord
    simp [hread, ofKind?, hrecord, Json.reads_text _ _ hwords, Location.reads hrange _ hplace]
  | character id hides layer words place =>
    obtain ⟨record?, values, hrecord, hvalues, hread⟩ := ofJson?_of_kind hvaried (by simp) depth
    have hrange : place.InRange := h
    obtain _ | ⟨hid, _ | ⟨hhides, _ | ⟨hlayer, _ | ⟨hwords, _ | ⟨hplace, ⟨⟩⟩⟩⟩⟩⟩ := hvalues
    have hspoken := Json.reads_option rfl (fun spoken _ => Json.reads_text spoken) _ hwords
    simp only [List.map_cons, List.map_nil] at hrecord
    simp [hread, ofKind?, hrecord, Json.reads_text _ _ hid, Json.reads_bool _ _ hhides,
      Json.reads_text _ _ hlayer, hspoken, Location.reads hrange _ hplace]
  | jump target place =>
    obtain ⟨record?, values, hrecord, hvalues, hread⟩ := ofJson?_of_kind hvaried (by simp) depth
    have hrange : place.InRange := h
    obtain _ | ⟨htarget, _ | ⟨hplace, ⟨⟩⟩⟩ := hvalues
    simp only [List.map_cons, List.map_nil] at hrecord
    simp [hread, ofKind?, hrecord, Json.reads_text _ _ htarget, Location.reads hrange _ hplace]
  | choice options place =>
    obtain ⟨record?, values, hrecord, hvalues, hread⟩ := ofJson?_of_kind hvaried (by simp) depth
    have hrange : place.InRange := h
    obtain _ | ⟨hoptions, _ | ⟨hplace, ⟨⟩⟩⟩ := hvalues
    simp only [List.map_cons, List.map_nil] at hrecord
    simp [hread, ofKind?, hrecord, reads_options _ hoptions, Location.reads hrange _ hplace]

end Command

/-! ### Labels -/

namespace Label

/-- The places of the commands are in range. -/
def InRange (label : Label) : Prop := ∀ command ∈ label.commands, command.InRange

/-- Each command in the form of a label can be kept as a whole. -/
def KeepsCommands (json : Json) : Prop :=
  ∀ members items, json = .object members → (some "commands", .array items) ∈ members →
    ∀ item ∈ items, item.isKept 2 = true

/-- **A variation of a label is read as the label** if its commands can be kept; else it is
refused. -/
theorem ofJson?_of_varied {label : Label} (h : label.InRange) {json : Json}
    (hvaried : Json.Varied label.toJson json) :
    (KeepsCommands json → ofJson? json = some label) ∧
      (¬ KeepsCommands json → ofJson? json = none) := by
  obtain ⟨members, rfl, -⟩ := Json.Varied.members_of_ofFields hvaried
  obtain ⟨values, hrecord, hvalues⟩ :=
    Json.Varied.membersRecord? hvaried (by simp) (List.Subset.refl _)
  obtain _ | ⟨⟨-, hname⟩, _ | ⟨⟨-, hgrid⟩, _ | ⟨⟨hmem, hcommands⟩, ⟨⟩⟩⟩⟩ := hvalues
  simp only [List.map_cons, List.map_nil] at hrecord
  obtain ⟨items, rfl, hitems⟩ := Json.Varied.items_of_array hcommands
  -- Name and grid are read in any case, so the label stands or falls with its commands.
  have hlabel : ofJson? (.object members) =
      (commands? (.array items)).map fun commands => ⟨label.name, label.grid, commands⟩ := by
    cases hread : commands? (.array items) <;>
      simp [ofJson?, Json.record?, hrecord, Json.reads_text _ _ hname, Json.reads_text _ _ hgrid,
        hread]
  refine ⟨fun hkept => ?_, fun hspoilt => ?_⟩
  · have hread : commands? (.array items) = some label.commands :=
      Json.mapM_of_varied hitems fun command hcommand item hitem hvaried => by
        rw [Command.ofJson?_of_varied (h command hcommand) 2 hvaried,
          if_pos (hkept members items rfl hmem item hitem)]
    rw [hlabel, hread, Option.map_some]
  · -- The commands are the only member of their name, so it is one of these that cannot be kept.
    obtain ⟨item, hitem, hburdened⟩ : ∃ item ∈ items, item.isKept 2 = false := by
      by_contra hkept
      refine hspoilt fun others found hobject hfound item hitem => ?_
      obtain ⟨array, honly, -, -⟩ := hvaried.field? (by simp)
        (List.mem_cons_of_mem _ (List.mem_cons_of_mem _ List.mem_cons_self))
      obtain rfl := Json.object.inj hobject
      have hsame := (Json.Varied.eq_of_field? honly hfound).trans
        (Json.Varied.eq_of_field? honly hmem).symm
      obtain rfl := Json.array.inj hsame
      by_contra hburdened
      exact hkept ⟨item, hitem, Bool.eq_false_iff.2 hburdened⟩
    have hrefused : commands? (.array items) = none :=
      Json.mapM_of_refused hitem (Command.ofJson?_of_not_kept hburdened)
    rw [hlabel, hrefused, Option.map_none]

end Label

/-! ### Texts of forms -/

namespace Json

@[simp] theorem isLegible_ofText (s : String) : (ofText s).IsLegible := rfl

@[simp] theorem isLegible_ofNat (n : Nat) : (ofNat n).IsLegible := Numeral.isWritten_ofNat n

@[simp] theorem isLegible_bool (b : Bool) : (Json.bool b).IsLegible := trivial

theorem isLegible_ofOption {α : Type} {form : α → Json} (h : ∀ a, (form a).IsLegible)
    (value : Option α) : (ofOption form value).IsLegible := by
  cases value with
  | none => trivial
  | some a => exact h a

theorem isLegible_array {items : List Json} (h : ∀ item ∈ items, item.IsLegible) :
    (array items).IsLegible := by
  induction items with
  | nil => trivial
  | cons item rest ih => exact ⟨h item List.mem_cons_self, ih fun _ => h _ ∘ List.mem_cons_of_mem _⟩

theorem isLegible_ofFields {fields : List (String × Json)}
    (h : ∀ field ∈ fields, field.2.IsLegible) : (ofFields fields).IsLegible := by
  induction fields with
  | nil => trivial
  | cons field rest ih =>
    exact ⟨rfl, h field List.mem_cons_self, ih fun _ => h _ ∘ List.mem_cons_of_mem _⟩

/-- A plain value in which at most a number of containers are nested. -/
def IsPlainBelow (levels : Nat) (json : Json) : Prop := json.isPlain = true ∧ json.height ≤ levels

theorem isPlainBelow_array {levels : Nat} {items : List Json}
    (h : ∀ item ∈ items, item.IsPlainBelow levels) : (array items).IsPlainBelow (levels + 1) := by
  have hitems : isPlainItems items = true ∧ heightItems items ≤ levels := by
    induction items with
    | nil => exact ⟨rfl, Nat.zero_le _⟩
    | cons item rest ih =>
      obtain ⟨hplain, hheight⟩ := h item List.mem_cons_self
      obtain ⟨hrest, hrestHeight⟩ := ih fun _ => h _ ∘ List.mem_cons_of_mem _
      exact ⟨Bool.and_eq_true_iff.2 ⟨hplain, hrest⟩, Nat.max_le.2 ⟨hheight, hrestHeight⟩⟩
  exact ⟨hitems.1, Nat.succ_le_succ hitems.2⟩

theorem isPlainBelow_ofFields {levels : Nat} {fields : List (String × Json)}
    (h : ∀ field ∈ fields, field.2.IsPlainBelow levels) :
    (ofFields fields).IsPlainBelow (levels + 1) := by
  have hfields : isPlainMembers (fields.map fun field => (some field.1, field.2)) = true ∧
      heightMembers (fields.map fun field => (some field.1, field.2)) ≤ levels := by
    induction fields with
    | nil => exact ⟨rfl, Nat.zero_le _⟩
    | cons field rest ih =>
      obtain ⟨hplain, hheight⟩ := h field List.mem_cons_self
      obtain ⟨hrest, hrestHeight⟩ := ih fun _ => h _ ∘ List.mem_cons_of_mem _
      refine ⟨Bool.and_eq_true_iff.2 ⟨?_, hrest⟩, Nat.max_le.2 ⟨hheight, hrestHeight⟩⟩
      rw [hplain]
      rfl
  exact ⟨hfields.1, Nat.succ_le_succ hfields.2⟩

theorem IsPlainBelow.mono {levels more : Nat} {json : Json} (h : json.IsPlainBelow levels)
    (hle : levels ≤ more) : json.IsPlainBelow more :=
  ⟨h.1, Nat.le_trans h.2 hle⟩

@[simp] theorem isPlainBelow_ofText (levels : Nat) (s : String) : (ofText s).IsPlainBelow levels :=
  ⟨rfl, Nat.zero_le _⟩

@[simp] theorem isPlainBelow_bool (levels : Nat) (b : Bool) : (Json.bool b).IsPlainBelow levels :=
  ⟨rfl, Nat.zero_le _⟩

theorem isPlainBelow_ofNat (levels : Nat) {n : Nat} (h : n < Text.wordLimit) :
    (ofNat n).IsPlainBelow levels := by
  refine ⟨?_, Nat.zero_le _⟩
  show (Numeral.ofNat n).value?.isSome = true
  rw [Numeral.value?_ofNat h]
  rfl

theorem isPlainBelow_ofOption {levels : Nat} {α : Type} {form : α → Json} {value : Option α}
    (h : ∀ a, value = some a → (form a).IsPlainBelow levels) :
    (ofOption form value).IsPlainBelow levels := by
  cases value with
  | none => exact ⟨rfl, Nat.zero_le _⟩
  | some a => exact h a rfl

/-- Values of a type survive being written as JSON and read back. -/
structure IsFaithful {α : Type} (toJson : α → Json) (ofJson? : Json → Option α)
    (inRange : α → Prop) (admits : Json → Prop) : Prop where
  /-- The text of the form of a value is read as that value. -/
  written : ∀ value, inRange value → (parse? (toJson value).render).bind ofJson? = some value
  /-- So is each text of a variation of the form that the reader admits. -/
  varied : ∀ value, inRange value → ∀ text json, parse? text = some json →
    Varied (toJson value) json → admits json → (parse? text).bind ofJson? = some value
  /-- An object in which a name spells no text is refused. -/
  named : ∀ members, (∃ member ∈ members, member.1 = none) → ofJson? (.object members) = none
  /-- Distinct values have distinct texts. -/
  distinct : ∀ value other, inRange value → inRange other →
    (toJson value).render = (toJson other).render → value = other

theorem IsFaithful.of_varied {α : Type} {toJson : α → Json} {ofJson? : Json → Option α}
    {inRange : α → Prop} {admits : Json → Prop}
    (hlegible : ∀ value, inRange value → (toJson value).IsLegible)
    (hadmits : ∀ value, inRange value → admits (toJson value))
    (hread : ∀ value, inRange value → ∀ json, Varied (toJson value) json → admits json →
      ofJson? json = some value)
    (hnamed : ∀ members, (∃ member ∈ members, member.1 = none) → ofJson? (.object members) = none) :
    IsFaithful toJson ofJson? inRange admits := by
  have hvaried : ∀ value, inRange value → ∀ text json, parse? text = some json →
      Varied (toJson value) json → admits json → (parse? text).bind ofJson? = some value := by
    intro value hrange text json hparse hvaried hadmitted
    rw [hparse, Option.bind_some, hread value hrange json hvaried hadmitted]
  -- What is written is the variation that changes nothing.
  have hwritten : ∀ value, inRange value →
      (parse? (toJson value).render).bind ofJson? = some value := by
    intro value hrange
    have hparse := parse?_render (hlegible value hrange)
    exact hvaried value hrange _ _ hparse (.refl _) (hadmits value hrange)
  refine ⟨hwritten, hvaried, hnamed, ?_⟩
  intro value other hrange hother hsame
  -- Equal texts are read alike, as the one value and as the other.
  apply Option.some.inj
  rw [← hwritten value hrange, hsame, hwritten other hother]

end Json

namespace Location

theorem isLegible_toJson (place : Location) : place.toJson.IsLegible :=
  Json.isLegible_ofFields (by simp [Json.isLegible_ofOption])

theorem isPlainBelow_toJson {place : Location} (h : place.InRange) :
    place.toJson.IsPlainBelow 1 := by
  have hline := Json.isPlainBelow_ofNat 0 h.1
  have hcolumn : (Json.ofOption Json.ofNat place.column).IsPlainBelow 0 :=
    Json.isPlainBelow_ofOption fun column hc => Json.isPlainBelow_ofNat 0 (h.2 column hc)
  exact Json.isPlainBelow_ofFields (by simp [hline, hcolumn])

end Location

namespace ChoiceOption

theorem isLegible_toJson (option : ChoiceOption) : option.toJson.IsLegible :=
  Json.isLegible_ofFields (by simp)

theorem isPlainBelow_toJson (option : ChoiceOption) : option.toJson.IsPlainBelow 1 :=
  Json.isPlainBelow_ofFields (by simp)

end ChoiceOption

namespace Command

theorem isLegible_toJson (command : Command) : command.toJson.IsLegible := by
  cases command with
  | text words place => exact Json.isLegible_ofFields (by simp [place.isLegible_toJson])
  | character id hides layer words place =>
    exact Json.isLegible_ofFields (by simp [place.isLegible_toJson, Json.isLegible_ofOption])
  | jump target place => exact Json.isLegible_ofFields (by simp [place.isLegible_toJson])
  | choice options place =>
    have hoptions : (Json.array (options.map ChoiceOption.toJson)).IsLegible :=
      Json.isLegible_array (by simp [ChoiceOption.isLegible_toJson])
    exact Json.isLegible_ofFields (by simp [place.isLegible_toJson, hoptions])

theorem isPlainBelow_toJson {command : Command} (h : command.InRange) :
    command.toJson.IsPlainBelow 3 := by
  have hplace : command.place.toJson.IsPlainBelow 2 :=
    (Location.isPlainBelow_toJson h).mono (by decide)
  cases command with
  | text words place => exact Json.isPlainBelow_ofFields (by simpa [Command.place] using hplace)
  | character id hides layer words place =>
    have hwords : (Json.ofOption Json.ofText words).IsPlainBelow 2 :=
      Json.isPlainBelow_ofOption fun spoken _ => Json.isPlainBelow_ofText 2 spoken
    exact Json.isPlainBelow_ofFields (by simpa [hwords, Command.place] using hplace)
  | jump target place => exact Json.isPlainBelow_ofFields (by simpa [Command.place] using hplace)
  | choice options place =>
    have hoptions : (Json.array (options.map ChoiceOption.toJson)).IsPlainBelow 2 :=
      Json.isPlainBelow_array (by simp [ChoiceOption.isPlainBelow_toJson])
    exact Json.isPlainBelow_ofFields (by simpa [hoptions, Command.place] using hplace)

/-- The form of a command can be kept as a whole, also inside a label. -/
theorem isKept_toJson {command : Command} (h : command.InRange) {depth : Nat} (hdepth : depth ≤ 2) :
    command.toJson.isKept depth = true := by
  obtain ⟨hplain, hheight⟩ := isPlainBelow_toJson h
  rw [Json.isKept, hplain, Bool.true_and, Json.depthLimit]
  exact decide_eq_true (by omega)

end Command

namespace Label

theorem isLegible_toJson (label : Label) : label.toJson.IsLegible := by
  have hcommands : (Json.array (label.commands.map Command.toJson)).IsLegible :=
    Json.isLegible_array (by simp [Command.isLegible_toJson])
  exact Json.isLegible_ofFields (by simp [hcommands])

theorem keepsCommands_toJson {label : Label} (h : label.InRange) : KeepsCommands label.toJson := by
  intro members items heq hmem item hitem
  obtain rfl := Json.object.inj heq
  have hitems : items = label.commands.map Command.toJson := by simpa using hmem
  rw [hitems] at hitem
  obtain ⟨command, hcommand, rfl⟩ := List.mem_map.1 hitem
  exact Command.isKept_toJson (h command hcommand) (Nat.le_refl 2)

end Label

/-! ### Faithfulness -/

namespace Json

/-- **The JSON forms round-trip.** The text of the form of each value is read as the value, and so
is each text of a variation of it, with its members in any order and others added. The names of
these have to spell a text, or the object is refused; and a command to which members are added, also
one in a label, is read if it can still be kept as a whole, and refused otherwise. Every variation
that is legible has such a text. Hence distinct values have distinct texts. -/
theorem forms_are_faithful :
    IsFaithful Command.toJson (Command.ofJson? 0) Command.InRange (·.isKept 0 = true) ∧
    IsFaithful Label.toJson Label.ofJson? Label.InRange Label.KeepsCommands ∧
    IsFaithful ChoiceOption.toJson ChoiceOption.ofJson? (fun _ => True) (fun _ => True) ∧
    IsFaithful SelectionItem.toJson SelectionItem.ofJson? SelectionItem.InRange
      (fun _ => True) ∧
    IsFaithful Location.toJson Location.ofJson? Location.InRange (fun _ => True) ∧
    IsFaithful Color.toJson Color.ofJson? (fun _ => True) (fun _ => True) ∧
    IsFaithful Options.toJson Options.ofJson? (fun _ => True) (fun _ => True) ∧
    (∀ command : Command, command.InRange → ∀ json, Varied command.toJson json →
      Command.ofJson? 0 json = if json.isKept 0 then some command else none) ∧
    (∀ label : Label, label.InRange → ∀ json, Varied label.toJson json →
      (Label.KeepsCommands json → Label.ofJson? json = some label) ∧
        (¬ Label.KeepsCommands json → Label.ofJson? json = none)) ∧
    ∀ json : Json, json.IsLegible → parse? json.render = some json := by
  refine ⟨?_, ?_, ?_, ?_, ?_, ?_, ?_,
    fun command hrange json => Command.ofJson?_of_varied hrange 0,
    fun label hrange json => Label.ofJson?_of_varied hrange, fun json => parse?_render⟩
  · -- Only the commands, and with them the labels, have to be kept as a whole.
    refine .of_varied (fun command _ => command.isLegible_toJson)
      (fun command hrange => Command.isKept_toJson hrange (Nat.zero_le 2)) ?_
      fun members hnameless => Command.ofJson?_of_not_kept (isKept_of_nameless hnameless 0)
    intro command hrange json hvaried hkept
    rw [Command.ofJson?_of_varied hrange 0 hvaried, if_pos hkept]
  · exact .of_varied (fun label _ => label.isLegible_toJson)
      (fun label hrange => Label.keepsCommands_toJson hrange)
      (fun label hrange json hvaried => (Label.ofJson?_of_varied hrange hvaried).1)
      (fun members hnameless => by rw [Label.ofJson?, record?_of_nameless hnameless])
  · exact .of_varied (fun option _ => option.isLegible_toJson) (fun _ _ => trivial)
      (fun option _ json hvaried _ => option.reads json hvaried)
      (fun members hnameless => by rw [ChoiceOption.ofJson?, record?_of_nameless hnameless])
  · exact .of_varied (fun item _ => isLegible_ofFields (by simp)) (fun _ _ => trivial)
      (fun item hrange json hvaried _ => SelectionItem.reads hrange json hvaried)
      (fun members hnameless => by rw [SelectionItem.ofJson?, record?_of_nameless hnameless])
  · exact .of_varied (fun place _ => place.isLegible_toJson) (fun _ _ => trivial)
      (fun place hrange json hvaried _ => Location.reads hrange json hvaried)
      (fun members hnameless => by rw [Location.ofJson?, record?_of_nameless hnameless])
  · exact .of_varied (fun c _ => isLegible_ofFields (by simp)) (fun _ _ => trivial)
      (fun c _ json hvaried _ => c.reads json hvaried)
      (fun members hnameless => by rw [Color.ofJson?, record?_of_nameless hnameless])
  · exact .of_varied (fun options _ => isLegible_ofFields (by simp)) (fun _ _ => trivial)
      (fun options _ json hvaried _ => options.reads json hvaried)
      (fun members hnameless => congrArg Options.ofFields? (record?_of_nameless hnameless _))

/-- The form of the first line of the grid `g`, backwards and with a member added. -/
def turnedPlace : Json :=
  object ([(some "grid", ofText "g"), (some "line", ofNat 1), (some "column", null)] ++
    [(some "", object [])]).reverse

/-- The form of a jump to `a` on that line, backwards and with a member added. -/
def turnedJump : Json :=
  object ([(some "kind", ofText "jump"), (some "target_label", ofText "a"),
    (some "location", turnedPlace)] ++ [(some "spare", array [null, ofText "\n"])]).reverse

theorem turnedJump_is_read :
    (Command.jump "a" ⟨"g", 1, none⟩).InRange ∧
    Varied (Command.jump "a" ⟨"g", 1, none⟩).toJson turnedJump ∧
    (parse? turnedJump.render).bind (Command.ofJson? 0) = some (.jump "a" ⟨"g", 1, none⟩) := by
  have hrange : (Command.jump "a" ⟨"g", 1, none⟩).InRange := ⟨by decide, nofun⟩
  have hplace : Varied (Location.toJson ⟨"g", 1, none⟩) turnedPlace := by
    refine .object ?_ ?_ ?_ (List.reverse_perm _)
    · rfl
    · exact .cons (.refl _) (.cons (.refl _) (.cons (.refl _) .nil))
    · decide
  have hvaried : Varied (Command.jump "a" ⟨"g", 1, none⟩).toJson turnedJump := by
    refine .object ?_ ?_ ?_ (List.reverse_perm _)
    · rfl
    · exact .cons (.refl _) (.cons (.refl _) (.cons hplace .nil))
    · decide
  have hlegible : turnedJump.IsLegible := by
    simp [turnedJump, turnedPlace, IsLegible, IsLegibleMembers, IsLegibleItems]
  obtain ⟨hcommand, -, -, -, -, -, -, -, -, hparse⟩ := forms_are_faithful
  exact ⟨hrange, hvaried, hcommand.varied _ hrange _ _ (hparse _ hlegible) hvaried (by decide)⟩

/-- The form of a jump to `a`, with a number under a name that no jump has; the number is larger
than any of floating point. -/
def burdenedJump : Json :=
  object ([(some "kind", ofText "jump"), (some "target_label", ofText "a"),
    (some "location", Location.toJson ⟨"g", 1, none⟩)] ++
    [(some "x", number ⟨false, ['1'], none, some (false, ['9', '9', '9'])⟩)])

/-- The text of an option with a member added, whose name is half of a surrogate pair. -/
def strayOption : String :=
  "\x7b\"text\":\"a\",\"targetLabel\":\"b\",\"\\ud800\":1\x7d"

/-- A member that no command asks for can still spoil a command, which has to be kept as a whole;
and a name that spells no text spoils any object. -/
theorem burdenedJump_is_refused :
    (Command.jump "a" ⟨"g", 1, none⟩).InRange ∧
    Varied (Command.jump "a" ⟨"g", 1, none⟩).toJson burdenedJump ∧
    parse? burdenedJump.render = some burdenedJump ∧
    (parse? burdenedJump.render).bind (Command.ofJson? 0) = none ∧
    (parse? strayOption).isSome = true ∧ (parse? strayOption).bind ChoiceOption.ofJson? = none := by
  have hrange : (Command.jump "a" ⟨"g", 1, none⟩).InRange := ⟨by decide, nofun⟩
  have hvaried : Varied (Command.jump "a" ⟨"g", 1, none⟩).toJson burdenedJump := by
    refine .object ?_ ?_ ?_ (List.Perm.refl _)
    · rfl
    · exact .cons (.refl _) (.cons (.refl _) (.cons (.refl _) .nil))
    · decide
  have hnumber : Numeral.IsWritten ⟨false, ['1'], none, some (false, ['9', '9', '9'])⟩ := by
    refine ⟨⟨List.cons_ne_nil _ _, by simp⟩, by simp, nofun, ?_⟩
    rintro negative digits ⟨⟩
    exact ⟨List.cons_ne_nil _ _, by simp⟩
  have hlegible : burdenedJump.IsLegible := by
    simp [burdenedJump, IsLegible, IsLegibleMembers, Location.isLegible_toJson, hnumber]
  have hparse := parse?_render hlegible
  refine ⟨hrange, hvaried, hparse, ?_, by decide +kernel, by decide +kernel⟩
  rw [hparse, Option.bind_some, Command.ofJson?_of_varied hrange 0 hvaried]
  decide

end Json

end Storyboard
