import Storyboard.Color

/-!
# Colours as they are written

A text is read as a colour if it is spelled as one: there are six or eight hexadecimal digits,
behind at most one `#`, with blanks around them (`Color.Spelled`). All other texts are refused. A
colour that was read is written with the same digits, in upper case and behind a `#`, and a colour
that was written is read back from all that is left of it when the `#` is dropped, letters change
their case and blanks are put around it (`Color.hex_form_is_exact`).

Digits are read one by one, so both directions rest on the same fact about a character: it has a
value exactly when its upper-case form is the digit that is written for that value
(`Text.hexValue?_eq_some_iff`).
-/

namespace Storyboard

/-! ### Hexadecimal digits -/

namespace Text

/-- The hexadecimal digits, in both cases. -/
def hexAlphabet : List Char := "0123456789ABCDEFabcdef".toList

/-- What holds of all characters below a code point. -/
theorem forall_char_lt {bound : Nat} {P : Char → Prop} (h : ∀ n < bound, P (Char.ofNat n))
    {c : Char} (hc : c.toNat < bound) : P c := by
  have hp := h c.toNat hc
  rwa [Char.ofNat_toNat] at hp

/-- A character that has a value is a hexadecimal digit. -/
theorem mem_hexAlphabet_of_hexValue? {c : Char} {n : Nat} (h : hexValue? c = some n) :
    c ∈ hexAlphabet := by
  have hbound : c.toNat < 103 := by
    unfold hexValue? at h
    split at h
    · next hdigit => exact Nat.lt_of_le_of_lt hdigit.2 (by decide)
    split at h
    · next hlower => exact Nat.lt_of_le_of_lt hlower.2 (by decide)
    split at h
    · next hupper => exact Nat.lt_of_le_of_lt hupper.2 (by decide)
    · cases h
  refine forall_char_lt (P := fun c => (hexValue? c).isSome = true → c ∈ hexAlphabet) ?_ hbound ?_
  · decide +kernel
  · rw [h]
    rfl

/-- A hexadecimal digit has a value, and its upper-case form is written for that value. -/
theorem exists_hexValue? {c : Char} (h : c ∈ hexAlphabet) :
    ∃ n, hexValue? c = some n ∧ n < 16 ∧ c.toUpper = hexUpper n := by
  have hall : hexAlphabet.all (fun c =>
      (hexValue? c).any fun n => decide (n < 16 ∧ c.toUpper = hexUpper n)) = true := by
    decide
  obtain ⟨n, hvalue, hdigit⟩ := (Option.any_eq_true _ _).1 (List.all_eq_true.1 hall c h)
  exact ⟨n, hvalue, of_decide_eq_true hdigit⟩

/-- Behind the lower-case letters, a character is its own upper-case form. -/
theorem toUpper_of_not_lt {c : Char} (h : ¬ c.toNat < 123) : c.toUpper = c :=
  dif_neg fun hletter => h (Nat.lt_succ_of_le hletter.2)

/-- **The value of a digit** does not depend on its case. -/
theorem hexValue?_toUpper (c : Char) : hexValue? c.toUpper = hexValue? c := by
  by_cases h : c.toNat < 123
  · refine forall_char_lt (P := fun c => hexValue? c.toUpper = hexValue? c) ?_ h
    decide +kernel
  · rw [toUpper_of_not_lt h]

theorem eq_of_toUpper_eq_mark {c : Char} (h : c.toUpper = '#') : c = '#' := by
  by_cases hc : c.toNat < 123
  · refine forall_char_lt (P := fun c => c.toUpper = '#' → c = '#') ?_ hc h
    decide +kernel
  · rw [← toUpper_of_not_lt hc, h]

/-- **A character has a value** exactly when its upper-case form is written for that value. -/
theorem hexValue?_eq_some_iff (c : Char) (n : Nat) :
    hexValue? c = some n ↔ n < 16 ∧ c.toUpper = hexUpper n := by
  constructor
  · intro h
    obtain ⟨m, hvalue, hdigit⟩ := exists_hexValue? (mem_hexAlphabet_of_hexValue? h)
    obtain rfl : m = n := Option.some.inj (hvalue.symm.trans h)
    exact hdigit
  · rintro ⟨hn, hupper⟩
    rw [← hexValue?_toUpper, hupper, hexValue?_hexUpper hn]

/-- **Digits have values** exactly when their upper-case forms are written for these values. -/
theorem mapM_hexValue?_eq_some_iff (cs : List Char) (ns : List Nat) :
    cs.mapM hexValue? = some ns ↔
      (∀ n ∈ ns, n < 16) ∧ cs.map Char.toUpper = ns.map hexUpper := by
  induction cs generalizing ns with
  | nil => cases ns <;> simp
  | cons c cs ih =>
    rw [List.mapM_cons]
    simp only [bind, Option.bind_eq_some_iff, hexValue?_eq_some_iff, ih, pure, Option.some.injEq]
    constructor
    · rintro ⟨n, ⟨hn, hfirst⟩, rest, ⟨hrest, hlater⟩, rfl⟩
      refine ⟨List.forall_mem_cons.2 ⟨hn, hrest⟩, ?_⟩
      rw [List.map_cons, List.map_cons, hfirst, hlater]
    · rintro ⟨hns, hmap⟩
      cases ns with
      | nil => cases hmap
      | cons n rest =>
        obtain ⟨hn, hrest⟩ := List.forall_mem_cons.1 hns
        obtain ⟨hfirst, hlater⟩ := List.cons.inj hmap
        exact ⟨n, ⟨hn, hfirst⟩, rest, ⟨hrest, hlater⟩, rfl⟩

theorem length_of_mapM_hexValue? {cs : List Char} {ns : List Nat}
    (h : cs.mapM hexValue? = some ns) : ns.length = cs.length := by
  have hlength := congrArg List.length ((mapM_hexValue?_eq_some_iff cs ns).1 h).2
  rw [List.length_map, List.length_map] at hlength
  exact hlength.symm

/-- The characters of a text have values exactly when all of them are hexadecimal digits. -/
theorem exists_mapM_hexValue?_iff (cs : List Char) :
    (∃ ns, cs.mapM hexValue? = some ns) ↔ ∀ c ∈ cs, c ∈ hexAlphabet := by
  induction cs with
  | nil => simp
  | cons c cs ih =>
    rw [List.forall_mem_cons, ← ih, List.mapM_cons]
    simp only [bind, Option.bind_eq_some_iff, pure, Option.some.injEq]
    constructor
    · rintro ⟨_, n, hn, rest, hrest, -⟩
      exact ⟨mem_hexAlphabet_of_hexValue? hn, rest, hrest⟩
    · rintro ⟨hc, rest, hrest⟩
      obtain ⟨n, hn, -⟩ := exists_hexValue? hc
      exact ⟨_, n, hn, rest, hrest, rfl⟩

/-! ### Bytes -/

/-- The UTF-8 bytes of a text. -/
def bytes (cs : List Char) : List UInt8 := cs.flatMap String.utf8EncodeChar

theorem utf8ByteSize_ofList (cs : List Char) :
    (String.ofList cs).utf8ByteSize = (bytes cs).length := by
  rw [← String.size_toByteArray, String.toByteArray_ofList]
  exact List.size_toByteArray

/-- A character below 128 is one byte. -/
theorem utf8EncodeChar_of_lt {c : Char} (h : c.toNat < 128) :
    String.utf8EncodeChar c = [c.toUInt8] := by
  have hle : c.val.toNat ≤ 127 := Nat.le_of_lt_succ h
  rw [String.utf8EncodeChar]
  exact if_pos hle

/-- The first byte of any other character is none of the first 128. -/
theorem exists_mem_utf8EncodeChar {c : Char} (h : 128 ≤ c.toNat) :
    ∃ b ∈ String.utf8EncodeChar c, 128 ≤ b.toNat := by
  have hlt : ¬ c.val.toNat ≤ 127 := Nat.not_le_of_lt h
  rw [String.utf8EncodeChar, if_neg hlt]
  split
  · refine ⟨_, List.mem_cons_self, ?_⟩
    rw [UInt8.toNat_ofNat']
    omega
  split
  · refine ⟨_, List.mem_cons_self, ?_⟩
    rw [UInt8.toNat_ofNat']
    omega
  · refine ⟨_, List.mem_cons_self, ?_⟩
    rw [UInt8.toNat_ofNat']
    omega

theorem toNat_lt_of_mem_hexAlphabet {c : Char} (h : c ∈ hexAlphabet) : c.toNat < 128 := by
  have hall : hexAlphabet.all (fun c => decide (c.toNat < 128)) = true := by decide
  exact of_decide_eq_true (List.all_eq_true.1 hall c h)

/-- The bytes of a character are hexadecimal digits exactly when it is one. -/
theorem forall_mem_utf8EncodeChar_iff (c : Char) :
    (∀ b ∈ String.utf8EncodeChar c, b ∈ hexAlphabet.map Char.toUInt8) ↔ c ∈ hexAlphabet := by
  have hbyte : (hexAlphabet.map Char.toUInt8).all (fun b => decide (b.toNat < 128)) = true := by
    decide
  constructor
  · intro h
    -- A character of one byte is that byte; all others have bytes above the digits.
    by_cases hc : c.toNat < 128
    · refine forall_char_lt
        (P := fun c => c.toUInt8 ∈ hexAlphabet.map Char.toUInt8 → c ∈ hexAlphabet) ?_ hc ?_
      · decide +kernel
      · apply h
        rw [utf8EncodeChar_of_lt hc]
        exact List.mem_singleton.2 rfl
    · obtain ⟨b, hb, hlarge⟩ := exists_mem_utf8EncodeChar (Nat.le_of_not_lt hc)
      have hsmall := of_decide_eq_true (List.all_eq_true.1 hbyte b (h b hb))
      exact absurd hsmall (Nat.not_lt_of_le hlarge)
  · intro h b hb
    rw [utf8EncodeChar_of_lt (toNat_lt_of_mem_hexAlphabet h)] at hb
    rw [List.mem_singleton.1 hb]
    exact List.mem_map_of_mem h

/-- **Each hexadecimal digit is one byte.** -/
theorem bytes_of_hexAlphabet {cs : List Char} (h : ∀ c ∈ cs, c ∈ hexAlphabet) :
    bytes cs = cs.map Char.toUInt8 := by
  induction cs with
  | nil => rfl
  | cons c cs ih =>
    obtain ⟨hc, hcs⟩ := List.forall_mem_cons.1 h
    have hrest : cs.flatMap String.utf8EncodeChar = cs.map Char.toUInt8 := ih hcs
    rw [bytes, List.flatMap_cons, hrest, utf8EncodeChar_of_lt (toNat_lt_of_mem_hexAlphabet hc)]
    rfl

/-- A text of hexadecimal digits can be cut at each of its bytes. -/
theorem isValid_of_hexAlphabet {cs : List Char} (h : ∀ c ∈ cs, c ∈ hexAlphabet) {i : Nat}
    (hi : i ≤ cs.length) : String.Pos.Raw.IsValid (String.ofList cs) ⟨i⟩ := by
  have hfront : ∀ c ∈ cs.take i, c ∈ hexAlphabet := fun c hc => h c (List.mem_of_mem_take hc)
  refine String.Pos.Raw.isValid_iff_exists_append.2
    ⟨String.ofList (cs.take i), String.ofList (cs.drop i), ?_, ?_⟩
  · rw [← String.ofList_append, List.take_append_drop]
  · rw [String.rawEndPos, utf8ByteSize_ofList, bytes_of_hexAlphabet hfront, List.length_map,
      List.length_take, Nat.min_eq_left hi]

/-! ### Blanks around a text -/

theorem isBlank_of_mem_hexAlphabet {c : Char} (h : c ∈ '#' :: hexAlphabet) :
    isBlank c = false := by
  have hall : ('#' :: hexAlphabet).all (fun c => !isBlank c) = true := by decide
  simpa using List.all_eq_true.1 hall c h

/-- **Blanks around a text** without blanks are trimmed, and nothing else. -/
theorem trimChars_of_blanks_around {before body after : List Char}
    (hbefore : before.all isBlank = true) (hafter : after.all isBlank = true)
    (hbody : ∀ c ∈ body, isBlank c = false) : trimChars (before ++ body ++ after) = body := by
  have hstart : trimStart (before ++ body ++ after) = trimStart (body ++ after) := by
    rw [trimStart, List.append_assoc]
    exact List.dropWhile_append_of_pos (List.all_eq_true.1 hbefore)
  have hend : trimEnd (body ++ after) = body := by
    have hfirst : trimStart body.reverse = body.reverse := by
      apply trimStart_of_head?
      intro c hc
      exact hbody c (List.mem_reverse.1 (List.mem_of_head? hc))
    rw [trimStart] at hfirst
    rw [trimEnd, List.reverse_append, List.dropWhile_append_of_pos, hfirst, List.reverse_reverse]
    exact fun c hc => List.all_eq_true.1 hafter c (List.mem_reverse.1 hc)
  rw [trimChars, hstart]
  -- Blanks alone are used up from the start; else the first other character ends the trimming.
  cases body with
  | nil =>
    have hnone : trimStart ([] ++ after) = [] :=
      (dropWhile_eq_nil_iff_all _ _).2 hafter
    rw [hnone]
    rfl
  | cons c body =>
    have hkept : trimStart (c :: body ++ after) = c :: body ++ after := by
      apply trimStart_of_head?
      rintro d ⟨⟩
      exact hbody c List.mem_cons_self
    rw [hkept, hend]

end Text

/-! ### The digits of a colour -/

namespace Color

/-- The values of the digits that a colour is written with. -/
def values (c : Color) : List Nat :=
  [c.r, c.g, c.b, c.a].flatMap fun v => [v.toNat / 16, v.toNat % 16]

theorem toList_render (c : Color) : c.render.toList = '#' :: c.values.map Text.hexUpper := by
  rw [render, String.toList_ofList]
  rfl

theorem values_lt (c : Color) : ∀ n ∈ c.values, n < 16 := by
  intro n hn
  obtain ⟨v, -, hv⟩ := List.mem_flatMap.1 hn
  have hlt : v.toNat < 256 := v.toNat_lt
  simp only [List.mem_cons, List.not_mem_nil, or_false] at hv
  omega

theorem channel_halves (v : UInt8) : channel (v.toNat / 16) (v.toNat % 16) = v := by
  rw [channel, Nat.div_add_mod, UInt8.ofNat_toNat]

section

variable {high low : Nat} (hhigh : high < 16) (hlow : low < 16)
include hhigh hlow

theorem toNat_channel : (channel high low).toNat = 16 * high + low := by
  rw [channel, UInt8.toNat_ofNat']
  omega

theorem channel_div : (channel high low).toNat / 16 = high := by
  rw [toNat_channel hhigh hlow]
  omega

theorem channel_mod : (channel high low).toNat % 16 = low := by
  rw [toNat_channel hhigh hlow]
  omega

end

/-- **A colour is made of its own digits.** -/
theorem ofDigits?_values (c : Color) : ofDigits? c.values = some c := by
  simp only [values, List.flatMap_cons, List.flatMap_nil, List.cons_append, List.nil_append,
    ofDigits?, channel_halves]

/-- **The colour of six or eight digits** has these digits, and six digits are completed by an alpha
channel of `FF`. -/
theorem values_of_ofDigits? {ns : List Nat} {c : Color} (hns : ∀ n ∈ ns, n < 16)
    (h : ofDigits? ns = some c) :
    ns.length = 6 ∧ c.values = ns ++ [15, 15] ∨ ns.length = 8 ∧ c.values = ns := by
  unfold ofDigits? at h
  split at h
  · cases h
    simp only [List.forall_mem_cons] at hns
    obtain ⟨hr, hr', hg, hg', hb, hb', -⟩ := hns
    refine .inl ⟨rfl, ?_⟩
    simp [values, channel_div, channel_mod, *]
  · cases h
    simp only [List.forall_mem_cons] at hns
    obtain ⟨hr, hr', hg, hg', hb, hb', ha, ha', -⟩ := hns
    refine .inr ⟨rfl, ?_⟩
    simp [values, channel_div, channel_mod, *]
  · cases h

theorem exists_ofDigits? : ∀ {ns : List Nat}, ns.length = 6 ∨ ns.length = 8 →
    ∃ c, ofDigits? ns = some c
  | [_, _, _, _, _, _], _ | [_, _, _, _, _, _, _, _], _ => ⟨_, rfl⟩
  | [], h | [_], h | [_, _], h | [_, _, _], h | [_, _, _, _], h | [_, _, _, _, _], h
  | [_, _, _, _, _, _, _], h | _ :: _ :: _ :: _ :: _ :: _ :: _ :: _ :: _ :: _, h => by
    simp at h

/-! ### Spellings -/

/-- A text spells digits as a colour: it has six or eight hexadecimal digits behind at most one `#`,
with blanks around them, and nothing else. -/
structure Spelled (s : String) (digits : List Char) : Prop where
  /-- Between the blanks there is nothing but the digits and perhaps a `#` in front of them. -/
  form : (Text.trim s).toList = digits ∨ (Text.trim s).toList = '#' :: digits
  /-- They are hexadecimal digits, in either case. -/
  hex : ∀ c ∈ digits, c ∈ Text.hexAlphabet
  /-- There are two for each of three or four channels. -/
  count : digits.length = 6 ∨ digits.length = 8

/-- A text has the bytes of a colour: six or eight, each of them a hexadecimal digit. -/
structure FillsBytes (cs : List Char) : Prop where
  /-- There are two bytes for each of three or four channels. -/
  count : (Text.bytes cs).length = 6 ∨ (Text.bytes cs).length = 8
  /-- Each byte is a hexadecimal digit, in either case. -/
  hex : ∀ b ∈ Text.bytes cs, b ∈ Text.hexAlphabet.map Char.toUInt8

/-- A text is the written form of a colour, but for the case of letters, blanks around it and
perhaps a missing `#`. -/
def Resembles (s : String) (c : Color) : Prop :=
  ∃ before body after, s.toList = before ++ body ++ after ∧
    before.all Text.isBlank = true ∧ after.all Text.isBlank = true ∧
    (body.map Char.toUpper = c.render.toList ∨ '#' :: body.map Char.toUpper = c.render.toList)

/-- The text without the blanks around it and without one `#` in front. -/
def bare (s : String) : List Char := Text.chopFront '#' (Text.trimChars s.toList)

theorem mark_ne_head? {digits : List Char} (h : ∀ c ∈ digits, c ∈ Text.hexAlphabet) :
    digits.head? ≠ some '#' := by
  have hmark : '#' ∉ Text.hexAlphabet := by decide
  exact fun hhead => hmark (h _ (List.mem_of_head? hhead))

/-- The digits that a text spells are what is left of it. -/
theorem spelled_iff (s : String) (digits : List Char) :
    Spelled s digits ↔ bare s = digits ∧ (∀ c ∈ digits, c ∈ Text.hexAlphabet) ∧
      (digits.length = 6 ∨ digits.length = 8) := by
  have htrim : (Text.trim s).toList = Text.trimChars s.toList := by
    rw [Text.trim, String.toList_ofList]
  constructor
  · rintro ⟨hform, hhex, hcount⟩
    refine ⟨?_, hhex, hcount⟩
    rw [htrim] at hform
    -- With the mark or without it, the digits are what is left, as no digit is a mark.
    rcases hform with hform | hform
    · rw [bare, hform, Text.chopFront_of_head?_ne (mark_ne_head? hhex)]
    · rw [bare, hform, Text.chopFront_cons_self]
  · rintro ⟨rfl, hhex, hcount⟩
    refine ⟨?_, hhex, hcount⟩
    rw [htrim]
    exact Text.eq_chopFront_or '#' (Text.trimChars s.toList)

theorem ofHex?_eq_some_iff (s : String) (c : Color) :
    ofHex? s = some c ↔
      ∃ ns, (bare s).mapM Text.hexValue? = some ns ∧ ofDigits? ns = some c :=
  Option.bind_eq_some_iff

/-- **A text is read as a colour** exactly when it spells digits. -/
theorem exists_ofHex?_iff (s : String) : (∃ c, ofHex? s = some c) ↔ ∃ digits, Spelled s digits := by
  simp only [ofHex?_eq_some_iff, spelled_iff]
  constructor
  · rintro ⟨c, ns, hvalues, hcolor⟩
    obtain ⟨hns, -⟩ := (Text.mapM_hexValue?_eq_some_iff _ _).1 hvalues
    refine ⟨_, rfl, (Text.exists_mapM_hexValue?_iff _).1 ⟨ns, hvalues⟩, ?_⟩
    rw [← Text.length_of_mapM_hexValue? hvalues]
    exact (values_of_ofDigits? hns hcolor).imp And.left And.left
  · rintro ⟨digits, hbare, hhex, hcount⟩
    obtain ⟨ns, hvalues⟩ := (Text.exists_mapM_hexValue?_iff digits).2 hhex
    rw [← Text.length_of_mapM_hexValue? hvalues] at hcount
    obtain ⟨c, hcolor⟩ := exists_ofDigits? hcount
    exact ⟨c, ns, hbare ▸ hvalues, hcolor⟩

/-- **A colour that was read** is written with the digits of the text. -/
theorem render_of_ofHex? {s : String} {c : Color} {digits : List Char} (h : ofHex? s = some c)
    (hspelled : Spelled s digits) :
    c.render.toList = '#' :: digits.map Char.toUpper ++
      if digits.length = 6 then ['F', 'F'] else [] := by
  obtain ⟨ns, hvalues, hcolor⟩ := (ofHex?_eq_some_iff s c).1 h
  obtain ⟨hbare, -, -⟩ := (spelled_iff s digits).1 hspelled
  rw [hbare] at hvalues
  obtain ⟨hns, hmap⟩ := (Text.mapM_hexValue?_eq_some_iff _ _).1 hvalues
  have hlength := Text.length_of_mapM_hexValue? hvalues
  rw [toList_render, hmap]
  rcases values_of_ofDigits? hns hcolor with ⟨hsix, hcolor⟩ | ⟨height, hcolor⟩
  · rw [if_pos (hlength ▸ hsix), hcolor, List.map_append]
    rfl
  · rw [if_neg (by omega), hcolor, List.append_nil]

/-- What resembles the written form of a colour spells digits with the values of the colour. -/
theorem exists_spelled_of_resembles {s : String} {c : Color} (h : Resembles s c) :
    ∃ digits, Spelled s digits ∧ digits.mapM Text.hexValue? = some c.values := by
  obtain ⟨before, body, after, hs, hbefore, hafter, hbody⟩ := h
  rw [toList_render] at hbody
  -- In either case there are digits behind the mark, and in upper case they are the colour's.
  obtain ⟨digits, hform, hmap⟩ : ∃ digits, (body = digits ∨ body = '#' :: digits) ∧
      digits.map Char.toUpper = c.values.map Text.hexUpper := by
    rcases hbody with hbody | hbody
    · obtain ⟨mark, digits, rfl, hmark, hmap⟩ := List.map_eq_cons_iff.1 hbody
      exact ⟨digits, .inr (by rw [Text.eq_of_toUpper_eq_mark hmark]), hmap⟩
    · exact ⟨body, .inl rfl, (List.cons.inj hbody).2⟩
  have hvalues := (Text.mapM_hexValue?_eq_some_iff digits c.values).2 ⟨c.values_lt, hmap⟩
  have hhex := (Text.exists_mapM_hexValue?_iff digits).1 ⟨_, hvalues⟩
  -- Neither the mark nor a digit is a blank, so trimming leaves them all.
  have hblank : ∀ x ∈ body, Text.isBlank x = false := by
    intro x hx
    apply Text.isBlank_of_mem_hexAlphabet
    rcases hform with rfl | rfl
    · exact List.mem_cons_of_mem _ (hhex x hx)
    · rcases List.mem_cons.1 hx with rfl | hx
      · exact List.mem_cons_self
      · exact List.mem_cons_of_mem _ (hhex x hx)
  have htrim : (Text.trim s).toList = body := by
    rw [Text.trim, String.toList_ofList, hs, Text.trimChars_of_blanks_around hbefore hafter hblank]
  refine ⟨digits, ⟨htrim ▸ hform, hhex, .inr ?_⟩, hvalues⟩
  rw [← Text.length_of_mapM_hexValue? hvalues]
  rfl

/-- **A colour that was written** is read back from all that resembles its written form. -/
theorem ofHex?_of_resembles {s : String} {c : Color} (h : Resembles s c) : ofHex? s = some c := by
  obtain ⟨digits, hspelled, hvalues⟩ := exists_spelled_of_resembles h
  obtain ⟨hbare, -, -⟩ := (spelled_iff s digits).1 hspelled
  exact (ofHex?_eq_some_iff s c).2 ⟨c.values, hbare ▸ hvalues, ofDigits?_values c⟩

/-- The bytes decide as the characters do. -/
theorem fillsBytes_iff (cs : List Char) :
    FillsBytes cs ↔ (∀ c ∈ cs, c ∈ Text.hexAlphabet) ∧ (cs.length = 6 ∨ cs.length = 8) := by
  -- Each digit is one byte, so bytes and characters also count alike.
  have hall : (∀ b ∈ Text.bytes cs, b ∈ Text.hexAlphabet.map Char.toUInt8) ↔
      ∀ c ∈ cs, c ∈ Text.hexAlphabet := by
    simp only [← Text.forall_mem_utf8EncodeChar_iff, Text.bytes, List.mem_flatMap]
    constructor
    · exact fun h c hc b hb => h b ⟨c, hc, hb⟩
    · rintro h b ⟨c, hc, hb⟩
      exact h c hc b hb
  constructor
  · rintro ⟨hcount, hhex⟩
    have hdigits := hall.1 hhex
    rw [Text.bytes_of_hexAlphabet hdigits, List.length_map] at hcount
    exact ⟨hdigits, hcount⟩
  · rintro ⟨hdigits, hcount⟩
    refine ⟨?_, hall.2 hdigits⟩
    rw [Text.bytes_of_hexAlphabet hdigits, List.length_map]
    exact hcount

/-- What has the bytes of a colour can be cut at each byte. -/
theorem FillsBytes.isValid {cs : List Char} (h : FillsBytes cs) {i : Nat}
    (hi : i ≤ (Text.bytes cs).length) : String.Pos.Raw.IsValid (String.ofList cs) ⟨i⟩ := by
  obtain ⟨hdigits, -⟩ := (fillsBytes_iff cs).1 h
  rw [Text.bytes_of_hexAlphabet hdigits, List.length_map] at hi
  exact Text.isValid_of_hexAlphabet hdigits hi

/-- **The hexadecimal form of colours is exact.** A text is read as a colour if and only if it
spells six or eight hexadecimal digits. It is the same to look at the bytes that are left when the
text is trimmed and the `#` is dropped, and none of them is inside a character. The colour is then
written with the same digits in upper case, and with `FF` for its alpha channel if there were six.
All that resembles the written form of a colour is read as that colour. -/
theorem hex_form_is_exact (s : String) :
    ((∃ c, ofHex? s = some c) ↔ ∃ digits, Spelled s digits) ∧
    ((∃ c, ofHex? s = some c) ↔ FillsBytes (bare s)) ∧
    (∀ c, ofHex? s = some c → ∀ i ≤ (Text.bytes (bare s)).length,
      String.Pos.Raw.IsValid (String.ofList (bare s)) ⟨i⟩) ∧
    (∀ c digits, ofHex? s = some c → Spelled s digits →
      c.render.toList = '#' :: digits.map Char.toUpper ++
        if digits.length = 6 then ['F', 'F'] else []) ∧
    ∀ c, Resembles s c → ofHex? s = some c := by
  have hbytes : (∃ c, ofHex? s = some c) ↔ FillsBytes (bare s) := by
    simp only [exists_ofHex?_iff, spelled_iff, fillsBytes_iff, exists_eq_left']
  refine ⟨exists_ofHex?_iff s, hbytes, fun c h i hi => ?_, fun c digits => render_of_ofHex?,
    fun c => ofHex?_of_resembles⟩
  exact (hbytes.1 ⟨c, h⟩).isValid hi

/-- A colour with letters in both cases, without its `#` and between blanks. -/
theorem dimmedTeal_is_read :
    Resembles "\u3000 0a8b8C7f\t" ⟨10, 139, 140, 127⟩ ∧
      ofHex? "\u3000 0a8b8C7f\t" = some ⟨10, 139, 140, 127⟩ := by
  have hresembles : Resembles "\u3000 0a8b8C7f\t" ⟨10, 139, 140, 127⟩ :=
    ⟨['\u3000', ' '], "0a8b8C7f".toList, ['\t'], by decide, by decide, by decide, by decide⟩
  exact ⟨hresembles, (hex_form_is_exact _).2.2.2.2 _ hresembles⟩

-- A second mark, a sign, a wide character and a lone half of a channel are all refused.
example : ofHex? "##123456" = none ∧ ofHex? "#+1+2+3" = none ∧ ofHex? "#ÿÿÿ" = none ∧
    ofHex? "#12345" = none := by
  decide

end Color

end Storyboard
