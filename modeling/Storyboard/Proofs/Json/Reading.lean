import Storyboard.Json.Printer
import Storyboard.Json.Reader

/-!
# Reading what was written

A value whose strings spell texts and whose numbers are written as the grammar has them reads back
from its written form (`Json.parse?_render`). The reader takes a bound on the nesting; twice the
length of what is left to read is enough for each part. A number ends only where the text goes on
with something else than its own characters, so what follows a value is part of the induction.
-/

namespace Storyboard

/-! ### Numerals -/

/-- Digits, of which there is at least one. -/
def IsDigits (cs : List Char) : Prop := cs ≠ [] ∧ ∀ c ∈ cs, c.isDigit = true

/-- A numeral as the grammar has them. -/
structure Numeral.IsWritten (numeral : Numeral) : Prop where
  /-- There are digits before the point. -/
  whole : IsDigits numeral.whole
  /-- They start with a zero only if they are one. -/
  leading : numeral.whole.head? = some '0' → numeral.whole = ['0']
  /-- There are digits after a point. -/
  fraction : ∀ digits, numeral.fraction = some digits → IsDigits digits
  /-- There are digits in an exponent. -/
  exponent : ∀ negative digits, numeral.exponent = some (negative, digits) → IsDigits digits

/-- The part of a numeral after its whole digits, up to the exponent, as it is written. -/
def Numeral.pointChars : Option (List Char) → List Char
  | some digits => '.' :: digits
  | none => []

/-- The exponent of a numeral, as it is written. -/
def Numeral.exponentChars : Option (Bool × List Char) → List Char
  | some (negative, digits) => 'e' :: (if negative then '-' :: digits else digits)
  | none => []

theorem Numeral.chars_eq (numeral : Numeral) :
    numeral.chars = (if numeral.negative then ['-'] else []) ++ numeral.whole ++
      pointChars numeral.fraction ++ exponentChars numeral.exponent := by
  obtain ⟨negative, whole, fraction, exponent⟩ := numeral
  cases fraction <;> cases exponent <;> rfl

namespace Json

/-- What can follow a number without being taken for a part of it. -/
def EndsNumber (rest : List Char) : Prop :=
  ∀ c, rest.head? = some c → c.isDigit = false ∧ c ≠ '.' ∧ c ≠ 'e' ∧ c ≠ 'E'

theorem endsNumber_nil : EndsNumber [] := nofun

theorem endsNumber_cons {c : Char} {rest : List Char}
    (h : c.isDigit = false ∧ c ≠ '.' ∧ c ≠ 'e' ∧ c ≠ 'E') : EndsNumber (c :: rest) := by
  intro other hother
  cases hother
  exact h

theorem digits_append {cs rest : List Char} (h : ∀ c ∈ cs, c.isDigit = true)
    (hrest : ∀ c, rest.head? = some c → c.isDigit = false) : digits (cs ++ rest) = (cs, rest) := by
  have hstop : rest.takeWhile Char.isDigit = [] ∧ rest.dropWhile Char.isDigit = rest := by
    cases rest with
    | nil => exact ⟨rfl, rfl⟩
    | cons c others =>
      have hc := hrest c rfl
      exact ⟨List.takeWhile_cons_of_neg (by simp [hc]), List.dropWhile_cons_of_neg (by simp [hc])⟩
  rw [digits, List.takeWhile_append_of_pos h, List.dropWhile_append_of_pos h, hstop.1, hstop.2,
    List.append_nil]

theorem readWhole_append {cs rest : List Char} (h : IsDigits cs)
    (hleading : cs.head? = some '0' → cs = ['0'])
    (hrest : ∀ c, rest.head? = some c → c.isDigit = false) :
    readWhole (cs ++ rest) = some (cs, rest) := by
  rw [readWhole, digits_append h.2 hrest]
  obtain ⟨c, others, rfl⟩ := List.exists_cons_of_ne_nil h.1
  by_cases hzero : c = '0'
  · -- A zero in front stands alone.
    subst hzero
    obtain ⟨-, rfl⟩ := List.cons.inj (hleading rfl)
    rfl
  · split
    · next heq => cases heq
    · next heq =>
      obtain ⟨hcs, -⟩ := Prod.mk.inj heq
      exact absurd (List.cons.inj hcs).1 hzero
    · next heq =>
      obtain ⟨hcs, -⟩ := Prod.mk.inj heq
      exact absurd (List.cons.inj hcs).1 hzero
    · rfl

theorem readPoint_append {fraction : Option (List Char)} {rest : List Char}
    (h : ∀ cs, fraction = some cs → IsDigits cs)
    (hrest : ∀ c, rest.head? = some c → c.isDigit = false ∧ c ≠ '.') :
    readPoint (Numeral.pointChars fraction ++ rest) = some (fraction, rest) := by
  cases fraction with
  | none =>
    -- Without a fraction, what follows must not look like one.
    rw [Numeral.pointChars, List.nil_append, readPoint.eq_2]
    rintro others rfl
    exact (hrest '.' rfl).2 rfl
  | some cs =>
    have hcs := h cs rfl
    rw [Numeral.pointChars, List.cons_append, readPoint,
      digits_append hcs.2 fun c hc => (hrest c hc).1]
    split
    · next heq => exact absurd (Prod.mk.inj heq).1 hcs.1
    · next heq =>
      obtain ⟨rfl, rfl⟩ := Prod.mk.inj heq
      rfl

theorem exponentSign_append {negative : Bool} {cs rest : List Char} (h : IsDigits cs) :
    exponentSign ((if negative then '-' :: cs else cs) ++ rest) = (negative, cs ++ rest) := by
  cases negative with
  | true => rfl
  | false =>
    obtain ⟨c, others, rfl⟩ := List.exists_cons_of_ne_nil h.1
    have hc : c.isDigit = true := h.2 c List.mem_cons_self
    rw [if_neg Bool.false_ne_true, List.cons_append, exponentSign.eq_3]
    · rintro tail ⟨⟩
      exact absurd hc (by decide)
    · rintro tail ⟨⟩
      exact absurd hc (by decide)

theorem readExponent_append {exponent : Option (Bool × List Char)} {rest : List Char}
    (h : ∀ negative cs, exponent = some (negative, cs) → IsDigits cs) (hrest : EndsNumber rest) :
    readExponent (Numeral.exponentChars exponent ++ rest) = some (exponent, rest) := by
  cases exponent with
  | none =>
    -- Without an exponent, what follows must not look like its mark.
    cases rest with
    | nil => rfl
    | cons mark others =>
      obtain ⟨-, -, hlower, hupper⟩ := hrest mark rfl
      rw [Numeral.exponentChars, List.nil_append, readExponent,
        if_neg (not_or.2 ⟨hlower, hupper⟩)]
  | some exponent =>
    obtain ⟨negative, cs⟩ := exponent
    have hcs := h negative cs rfl
    rw [Numeral.exponentChars, List.cons_append, readExponent, if_pos (.inl rfl),
      exponentSign_append hcs]
    dsimp only
    rw [digits_append hcs.2 fun c hc => (hrest c hc).1]
    split
    · next heq => exact absurd (Prod.mk.inj heq).1 hcs.1
    · next heq =>
      obtain ⟨rfl, rfl⟩ := Prod.mk.inj heq
      rfl

theorem minusSign_append {negative : Bool} {cs rest : List Char} (h : IsDigits cs) :
    minusSign ((if negative then ['-'] else []) ++ (cs ++ rest)) = (negative, cs ++ rest) := by
  cases negative with
  | true => rfl
  | false =>
    obtain ⟨c, others, rfl⟩ := List.exists_cons_of_ne_nil h.1
    have hc : c.isDigit = true := h.2 c List.mem_cons_self
    rw [if_neg Bool.false_ne_true, List.nil_append, List.cons_append, minusSign.eq_2]
    rintro tail ⟨⟩
    exact absurd hc (by decide)

/-- **A numeral reads back**, where it ends. -/
theorem readNumeral_chars {numeral : Numeral} {rest : List Char} (h : numeral.IsWritten)
    (hrest : EndsNumber rest) : readNumeral (numeral.chars ++ rest) = some (numeral, rest) := by
  obtain ⟨negative, whole, fraction, exponent⟩ := numeral
  obtain ⟨hwhole, hleading, hfraction, hexponent⟩ := h
  -- Each part ends where the next one starts, so none of them reads on into the next.
  have hmark : ∀ c, (Numeral.exponentChars exponent ++ rest).head? = some c →
      c.isDigit = false ∧ c ≠ '.' := by
    cases exponent with
    | none => exact fun c hc => ⟨(hrest c hc).1, (hrest c hc).2.1⟩
    | some exponent =>
      rintro c ⟨⟩
      decide
  have hpoint : ∀ c, (Numeral.pointChars fraction ++
      (Numeral.exponentChars exponent ++ rest)).head? = some c → c.isDigit = false := by
    cases fraction with
    | none => exact fun c hc => (hmark c hc).1
    | some cs =>
      rintro c ⟨⟩
      decide
  rw [Numeral.chars_eq, List.append_assoc, List.append_assoc, List.append_assoc, readNumeral,
    minusSign_append hwhole]
  dsimp only
  rw [readWhole_append hwhole hleading hpoint, Option.bind_eq_bind, Option.bind_some]
  dsimp only
  rw [readPoint_append hfraction hmark, Option.bind_eq_bind, Option.bind_some]
  dsimp only
  rw [readExponent_append hexponent hrest]
  rfl

/-! ### Strings -/

/-- **A character between quotes** is read as one unit, which spells it. -/
theorem readUnits_quoteChar (c : Char) (tail : List Char) :
    ∃ unit, readUnits (Text.quoteChar c ++ tail) = withUnit unit (readUnits tail) ∧
      ∀ units, spell (unit :: units) = (spell units).map (c :: ·) := by
  -- Seven characters are escaped by a letter, the other control characters by their code unit.
  by_cases hescaped : c = '"' ∨ c = '\\' ∨ c = '\x08' ∨ c = '\t' ∨ c = '\n' ∨ c = '\x0c' ∨ c = '\r'
  · refine ⟨.char c, ?_, fun units => rfl⟩
    rcases hescaped with rfl | rfl | rfl | rfl | rfl | rfl | rfl <;> rfl
  · simp only [not_or] at hescaped
    obtain ⟨hquote, hslash, hback, htab, hline, hform, hreturn⟩ := hescaped
    simp only [Text.quoteChar, hquote, hslash, hback, htab, hline, hform, hreturn, if_false]
    split
    · next hcontrol =>
      -- Two zeros and two digits, which come to the code of a character below the surrogates.
      refine ⟨.code c.toNat, ?_, fun units => ?_⟩
      · have hzero : Text.hexValue? '0' = some 0 := rfl
        have hcode : codeUnit? '0' '0' (Text.hexLower (c.toNat / 16))
            (Text.hexLower (c.toNat % 16)) = some c.toNat := by
          rw [codeUnit?, hzero, Text.hexValue?_hexLower (by omega),
            Text.hexValue?_hexLower (by omega)]
          show some (((16 * 0 + 0) * 16 + c.toNat / 16) * 16 + c.toNat % 16) = some c.toNat
          congr 1
          omega
        show readUnits ('\\' :: 'u' :: '0' :: '0' :: Text.hexLower (c.toNat / 16) ::
          Text.hexLower (c.toNat % 16) :: tail) = _
        rw [readUnits, hcode]
      · rw [spell.eq_def]
        dsimp only
        rw [if_neg (by omega), if_neg (by omega), Char.ofNat_toNat]
    · -- All others stand for themselves.
      next hplain =>
      refine ⟨.char c, ?_, fun units => rfl⟩
      rw [List.singleton_append, readUnits.eq_5 _ _ hquote, if_neg (not_or.2 ⟨hplain, hslash⟩)]
      · rintro a b d e rest rfl
        exact absurd rfl hslash
      · rintro d rest rfl
        exact absurd rfl hslash

theorem readUnits_quoteChars (cs rest : List Char) :
    ∃ units, readUnits (cs.flatMap Text.quoteChar ++ '"' :: rest) = some (units, rest) ∧
      spell units = some cs := by
  induction cs with
  | nil => exact ⟨[], rfl, rfl⟩
  | cons c others ih =>
    obtain ⟨units, hunits, hspell⟩ := ih
    obtain ⟨unit, hunit, hfirst⟩ :=
      readUnits_quoteChar c (others.flatMap Text.quoteChar ++ '"' :: rest)
    refine ⟨unit :: units, ?_, ?_⟩
    · rw [List.flatMap_cons, List.append_assoc, hunit, hunits]
      rfl
    · rw [hfirst, hspell]
      rfl

/-- **A quoted text reads back.** -/
theorem readString_quoteChars (text : String) (rest : List Char) :
    ∃ inside, Text.quoteChars text ++ rest = '"' :: inside ∧
      readString inside = some (some text, rest) := by
  refine ⟨text.toList.flatMap Text.quoteChar ++ '"' :: rest, ?_, ?_⟩
  · simp [Text.quoteChars]
  · obtain ⟨units, hunits, hspell⟩ := readUnits_quoteChars text.toList rest
    have hofList : (spell units).map String.ofList = some text := by
      rw [hspell, Option.map_some, String.ofList_toList]
    rw [readString, hunits, Option.map_some]
    exact congrArg (fun spelled => some (spelled, rest)) hofList

/-! ### Values -/

mutual

/-- All strings of a value spell a text, and all its numbers are written as the grammar has them. -/
def IsLegible : Json → Prop
  | number numeral => numeral.IsWritten
  | string text => text.isSome = true
  | array items => IsLegibleItems items
  | object members => IsLegibleMembers members
  | _ => True

/-- All items of an array are legible. -/
def IsLegibleItems : List Json → Prop
  | [] => True
  | item :: rest => item.IsLegible ∧ IsLegibleItems rest

/-- All names and values of an object are legible. -/
def IsLegibleMembers : List (Option String × Json) → Prop
  | [] => True
  | (name, value) :: rest => name.isSome = true ∧ value.IsLegible ∧ IsLegibleMembers rest

end

theorem skipSpace_cons {c : Char} (h : isSpace c = false) (cs : List Char) :
    skipSpace (c :: cs) = c :: cs :=
  List.dropWhile_cons_of_neg (by simp [h])

/-- A numeral starts with a digit or a sign. -/
theorem head_numeral {numeral : Numeral} (h : numeral.IsWritten) :
    ∃ c cs, numeral.chars = c :: cs ∧ (c.isDigit = true ∨ c = '-') := by
  obtain ⟨first, others, hwhole⟩ := List.exists_cons_of_ne_nil h.whole.1
  have hfirst : first.isDigit = true := h.whole.2 first (hwhole ▸ List.mem_cons_self)
  rw [Numeral.chars_eq, hwhole]
  cases numeral.negative with
  | true => exact ⟨_, _, rfl, .inr rfl⟩
  | false => exact ⟨_, _, rfl, .inl hfirst⟩

theorem ne_of_startsNumeral {c d : Char} (hc : c.isDigit = true ∨ c = '-')
    (hd : d.isDigit = false ∧ d ≠ '-') : c ≠ d := by
  rintro rfl
  rcases hc with hdigit | hminus
  · exact absurd (hd.1.symm.trans hdigit) Bool.false_ne_true
  · exact hd.2 hminus

theorem isSpace_of_startsNumeral {c : Char} (hc : c.isDigit = true ∨ c = '-') :
    isSpace c = false := by
  have hspace : c ≠ ' ' := ne_of_startsNumeral hc (by decide)
  have htab : c ≠ '\t' := ne_of_startsNumeral hc (by decide)
  have hline : c ≠ '\n' := ne_of_startsNumeral hc (by decide)
  have hreturn : c ≠ '\r' := ne_of_startsNumeral hc (by decide)
  simp [isSpace, hspace, htab, hline, hreturn]

/-- A value starts neither with a blank nor with a closing bracket. -/
theorem head_chars {json : Json} (h : json.IsLegible) :
    ∃ c cs, json.chars = c :: cs ∧ isSpace c = false ∧ c ≠ ']' := by
  cases json with
  | null => exact ⟨_, _, rfl, by decide⟩
  | bool b => cases b <;> exact ⟨_, _, rfl, by decide⟩
  | number numeral =>
    obtain ⟨c, cs, hchars, hc⟩ := head_numeral h
    exact ⟨c, cs, hchars, isSpace_of_startsNumeral hc, ne_of_startsNumeral hc (by decide)⟩
  | string text => exact ⟨_, _, rfl, by decide⟩
  | array items => exact ⟨_, _, rfl, by decide⟩
  | object members => exact ⟨_, _, rfl, by decide⟩

theorem readValue_numeral (bound : Nat) {numeral : Numeral} {rest : List Char}
    (h : numeral.IsWritten) (hrest : EndsNumber rest) :
    readValue (bound + 1) (numeral.chars ++ rest) = some (number numeral, rest) := by
  have hread := readNumeral_chars h hrest
  obtain ⟨c, cs, hchars, hc⟩ := head_numeral h
  rw [hchars, List.cons_append] at hread ⊢
  rw [readValue, skipSpace_cons (isSpace_of_startsNumeral hc)]
  -- The first character decides how a value is read, and this one leaves only a number.
  have hother : ∀ {d : Char} {tail : List Char}, c :: (cs ++ rest) = d :: tail →
      d.isDigit = false ∧ d ≠ '-' → False :=
    fun heq hd => ne_of_startsNumeral hc hd (List.cons.inj heq).1
  split
  · next heq => exact (hother heq (by decide)).elim
  · next heq => exact (hother heq (by decide)).elim
  · next heq => exact (hother heq (by decide)).elim
  · next heq => exact (hother heq (by decide)).elim
  · next heq => exact (hother heq (by decide)).elim
  · next heq => exact (hother heq (by decide)).elim
  · rw [hread]
    rfl

theorem readValue_quote (bound : Nat) (inside : List Char) :
    readValue (bound + 1) ('"' :: inside) =
      (readString inside).map fun (text, rest) => (string text, rest) := rfl

theorem readValue_bracket (bound : Nat) {c : Char} {cs : List Char} (hspace : isSpace c = false)
    (hc : c ≠ ']') : readValue (bound + 1) ('[' :: c :: cs) =
      (readItems bound (c :: cs)).map fun (items, rest) => (array items, rest) := by
  simp [readValue, skipSpace_cons (show isSpace '[' = false from rfl), skipSpace_cons hspace, hc]

theorem readValue_brace (bound : Nat) (inside : List Char) :
    readValue (bound + 1) ('\x7b' :: '"' :: inside) =
      (readMembers bound ('"' :: inside)).map fun (members, rest) => (object members, rest) := rfl

theorem readItems_last {bound : Nat} {cs rest : List Char} {item : Json}
    (h : readValue bound cs = some (item, ']' :: rest)) :
    readItems (bound + 1) cs = some ([item], rest) := by
  rw [readItems, h]
  rfl

theorem readItems_comma {bound : Nat} {cs rest : List Char} {item : Json}
    (h : readValue bound cs = some (item, ',' :: rest)) :
    readItems (bound + 1) cs =
      (readItems bound rest).map fun (items, rest) => (item :: items, rest) := by
  rw [readItems, h]
  rfl

theorem readMembers_last {bound : Nat} {inside after rest : List Char} {name : Option String}
    {value : Json} (hname : readString inside = some (name, ':' :: after))
    (h : readValue bound after = some (value, '\x7d' :: rest)) :
    readMembers (bound + 1) ('"' :: inside) = some ([(name, value)], rest) := by
  simp [readMembers, skipSpace, isSpace, hname, h]

theorem readMembers_comma {bound : Nat} {inside after rest : List Char} {name : Option String}
    {value : Json} (hname : readString inside = some (name, ':' :: after))
    (h : readValue bound after = some (value, ',' :: rest)) :
    readMembers (bound + 1) ('"' :: inside) =
      (readMembers bound rest).map fun (members, rest) => ((name, value) :: members, rest) := by
  simp [readMembers, skipSpace, isSpace, hname, h]

/-- What follows an item of an array. -/
theorem charsItems_append (item : Json) (others : List Json) (tail : List Char) :
    charsItems (item :: others) ++ tail = item.chars ++
      if others = [] then tail else ',' :: (charsItems others ++ tail) := by
  cases others with
  | nil => rfl
  | cons next rest =>
    rw [if_neg (List.cons_ne_nil _ _), charsItems, List.append_assoc, List.cons_append]
    nofun

/-- What follows a member of an object. -/
theorem charsMembers_append (name : Option String) (value : Json)
    (others : List (Option String × Json)) (tail : List Char) :
    charsMembers ((name, value) :: others) ++ tail = Text.quoteChars (name.getD "") ++ ':' ::
      (value.chars ++ if others = [] then tail else ',' :: (charsMembers others ++ tail)) := by
  cases others with
  | nil => simp [charsMembers]
  | cons next rest =>
    obtain ⟨other, inside⟩ := next
    rw [if_neg (List.cons_ne_nil _ _), charsMembers]
    · simp
    · nofun

-- The recursion follows the value. What it reads takes twice its length from the bound: a step for
-- each container and one for each of its parts, and both have characters of their own.
mutual

/-- **A value reads back**, where what follows does not continue it. -/
theorem readValue_chars : ∀ (json : Json) (bound : Nat) (rest : List Char), json.IsLegible →
    EndsNumber rest → 2 * json.chars.length + 1 ≤ bound →
    readValue bound (json.chars ++ rest) = some (json, rest)
  | json, 0, rest, _, _, hbound => by omega
  | null, bound + 1, rest, _, _, _ => rfl
  | .bool true, bound + 1, rest, _, _, _ => rfl
  | .bool false, bound + 1, rest, _, _, _ => rfl
  | number numeral, bound + 1, rest, h, hrest, _ => readValue_numeral bound h hrest
  | string none, bound + 1, rest, h, _, _ => nomatch h
  | string (some text), bound + 1, rest, h, _, _ => by
    obtain ⟨inside, hquote, hread⟩ := readString_quoteChars text rest
    have hchars : (string (some text)).chars ++ rest = '"' :: inside := hquote
    rw [hchars, readValue_quote, hread]
    rfl
  | array [], bound + 1, rest, _, _, _ => rfl
  | array (item :: others), bound + 1, rest, h, _, hbound => by
    have hchars : (array (item :: others)).chars ++ rest =
        '[' :: (charsItems (item :: others) ++ ']' :: rest) := by
      simp [chars]
    have hread := readItems_chars item others bound rest h (by
      simp only [chars, List.length_cons, List.length_append, List.length_nil] at hbound
      omega)
    -- No item starts with a closing bracket, so the array is not taken to be empty.
    obtain ⟨c, cs, hhead, hspace, hc⟩ := head_chars h.1
    rw [charsItems_append, hhead, List.cons_append] at hread
    rw [hchars, charsItems_append, hhead, List.cons_append, readValue_bracket bound hspace hc,
      hread]
    rfl
  | object [], bound + 1, rest, _, _, _ => rfl
  | object ((name, value) :: others), bound + 1, rest, h, _, hbound => by
    have hchars : (object ((name, value) :: others)).chars ++ rest =
        '\x7b' :: (charsMembers ((name, value) :: others) ++ '\x7d' :: rest) := by
      simp [chars]
    have hread := readMembers_chars name value others bound rest h (by
      simp only [chars, List.length_cons, List.length_append, List.length_nil] at hbound
      omega)
    rw [charsMembers_append, Text.quoteChars, List.cons_append, List.cons_append] at hread
    rw [hchars, charsMembers_append, Text.quoteChars, List.cons_append, List.cons_append,
      readValue_brace, hread]
    rfl

/-- The items of an array read back. -/
theorem readItems_chars : ∀ (item : Json) (others : List Json) (bound : Nat) (rest : List Char),
    IsLegibleItems (item :: others) → 2 * (charsItems (item :: others)).length + 2 ≤ bound →
    readItems bound (charsItems (item :: others) ++ ']' :: rest) = some (item :: others, rest)
  | _, _, 0, _, _, hbound => by omega
  | item, [], bound + 1, rest, h, hbound => by
    -- The closing bracket ends a number that may stand last.
    rw [charsItems] at hbound
    rw [charsItems_append, if_pos rfl]
    exact readItems_last
      (readValue_chars item bound _ h.1 (endsNumber_cons (by decide)) (by omega))
  | item, next :: others, bound + 1, rest, h, hbound => by
    have hlength := congrArg List.length (charsItems_append item (next :: others) [])
    simp only [List.append_nil, List.length_append, List.length_cons, if_neg (List.cons_ne_nil _ _)]
      at hlength
    have hread := readItems_chars next others bound rest h.2 (by omega)
    rw [charsItems_append, if_neg (List.cons_ne_nil _ _), readItems_comma
      (readValue_chars item bound _ h.1 (endsNumber_cons (by decide)) (by omega)), hread]
    rfl

/-- The members of an object read back. -/
theorem readMembers_chars : ∀ (name : Option String) (value : Json)
    (others : List (Option String × Json)) (bound : Nat) (rest : List Char),
    IsLegibleMembers ((name, value) :: others) →
    2 * (charsMembers ((name, value) :: others)).length + 2 ≤ bound →
    readMembers bound (charsMembers ((name, value) :: others) ++ '\x7d' :: rest) =
      some ((name, value) :: others, rest)
  | _, _, _, 0, _, _, hbound => by omega
  | none, _, _, _ + 1, _, h, _ => nomatch h.1
  | some name, value, [], bound + 1, rest, h, hbound => by
    have hlength := congrArg List.length (charsMembers_append (some name) value [] [])
    simp only [List.append_nil, List.length_append, List.length_cons, if_true] at hlength
    rw [charsMembers_append, if_pos rfl, Option.getD_some]
    -- A name reads as far as its closing quote, whatever follows.
    obtain ⟨after, hquote, hname⟩ :=
      readString_quoteChars name (':' :: (value.chars ++ '\x7d' :: rest))
    rw [hquote]
    exact readMembers_last hname
      (readValue_chars value bound _ h.2.1 (endsNumber_cons (by decide)) (by omega))
  | some name, value, (other, inside) :: others, bound + 1, rest, h, hbound => by
    have hlength := congrArg List.length
      (charsMembers_append (some name) value ((other, inside) :: others) [])
    simp only [List.append_nil, List.length_append, List.length_cons, if_neg (List.cons_ne_nil _ _)]
      at hlength
    have hread := readMembers_chars other inside others bound rest h.2.2 (by omega)
    rw [charsMembers_append, if_neg (List.cons_ne_nil _ _), Option.getD_some]
    obtain ⟨after, hquote, hname⟩ := readString_quoteChars name
      (':' :: (value.chars ++ ',' :: (charsMembers ((other, inside) :: others) ++ '\x7d' :: rest)))
    rw [hquote, readMembers_comma hname
      (readValue_chars value bound _ h.2.1 (endsNumber_cons (by decide)) (by omega)), hread]
    rfl

end

/-- **A legible value reads back from its written form.** -/
theorem parse?_render {json : Json} (h : json.IsLegible) : parse? json.render = some json := by
  have hread := readValue_chars json (2 * json.chars.length + 2) [] h endsNumber_nil (by omega)
  rw [List.append_nil] at hread
  rw [parse?, render, String.toList_ofList, hread]
  rfl

end Json

end Storyboard
