import Storyboard.Proofs.Compile.Choices

/-!
# Argument columns by number and by name

The argument columns of a header are found in two ways. They are listed by number, for which the
numeral in their name is read; and one of them is looked up by its name, for which its number is
written. A number is written in one way, but it has many numerals: zeros may stand in front of it,
and a plus sign in front of them (`Text.IsNumeral`, `Text.readWord?_eq_some_iff`). So a column is
listed under the number that its name has a numeral of (`Header.mem_argColumns_iff`), and it is
found by name only if that numeral is the written form of the number.

The two ways lead to the same columns exactly if all argument columns of the header row have plain
names (`Row.args_agree_when_plain`).
-/

namespace Storyboard

/-! ### Numerals -/

namespace Text

/-- A numeral of a word: the decimal form of the word behind zeros, perhaps with a plus sign in
front of them. -/
structure IsNumeral (cs : List Char) (n : Nat) : Prop where
  /-- It stands for a word. -/
  lt : n < wordLimit
  /-- It ends in the decimal form. -/
  form : ∃ sign zeros, (sign = [] ∨ sign = ['+']) ∧
    cs = sign ++ (List.replicate zeros '0' ++ (toString n).toList)

theorem toList_toString (n : Nat) : (toString n).toList = Nat.toDigits 10 n := by
  rw [Nat.toString_eq_ofList_toDigits, String.toList_ofList]

theorem digitsValue_eq (cs : List Char) : digitsValue cs = Nat.ofDigitChars 10 cs 0 :=
  Nat.ofDigitChars_eq_foldl.symm

theorem exists_digitChar {c : Char} (h : c.isDigit = true) : ∃ d < 10, c = Nat.digitChar d := by
  obtain ⟨hlow, hhigh⟩ := Char.isDigit_iff_toNat.1 h
  have hzero : '0'.toNat = 48 := rfl
  have hnine : '9'.toNat = 57 := rfl
  refine ⟨c.toNat - 48, by omega, Char.toNat_inj.1 ?_⟩
  rw [Nat.toNat_digitChar_of_lt_ten (by omega)]
  omega

/-- Digits behind the decimal form of a number, if it is not zero, make up that of another. -/
theorem toDigits_append {cs : List Char} (h : ∀ c ∈ cs, c.isDigit = true) {n : Nat} (hn : 0 < n) :
    Nat.toDigits 10 n ++ cs = Nat.toDigits 10 (Nat.ofDigitChars 10 cs n) := by
  induction cs generalizing n with
  | nil => rw [List.append_nil, Nat.ofDigitChars_nil]
  | cons c cs ih =>
    obtain ⟨hc, hcs⟩ := List.forall_mem_cons.1 h
    obtain ⟨d, hd, rfl⟩ := exists_digitChar hc
    have hnext : Nat.toDigits 10 n ++ [Nat.digitChar d] = Nat.toDigits 10 (10 * n + d) := by
      rw [← Nat.toDigits_of_lt_base hd]
      exact Nat.toDigits_append_toDigits (by decide) hn hd
    rw [Nat.ofDigitChars_cons_digitChar_of_lt_ten hd, ← ih hcs (by omega), ← hnext,
      List.append_assoc, List.singleton_append]

/-- **Digits are the decimal form of their value** behind zeros. -/
theorem exists_zeros {cs : List Char} (hne : cs ≠ []) (h : ∀ c ∈ cs, c.isDigit = true) :
    ∃ zeros, cs = List.replicate zeros '0' ++ Nat.toDigits 10 (Nat.ofDigitChars 10 cs 0) := by
  induction cs with
  | nil => exact absurd rfl hne
  | cons c cs ih =>
    obtain ⟨hc, hcs⟩ := List.forall_mem_cons.1 h
    obtain ⟨d, hd, rfl⟩ := exists_digitChar hc
    rw [Nat.ofDigitChars_cons_digitChar_of_lt_ten hd, Nat.mul_zero, Nat.zero_add]
    by_cases hzero : d = 0
    · subst hzero
      -- A zero in front is one of the zeros, unless it is all there is.
      by_cases hlast : cs = []
      · subst hlast
        exact ⟨0, rfl⟩
      · obtain ⟨zeros, hform⟩ := ih hlast hcs
        refine ⟨zeros + 1, ?_⟩
        rw [List.replicate_succ, List.cons_append, ← hform]
        rfl
    · -- The first digit is not zero, so it begins the decimal form.
      refine ⟨0, ?_⟩
      rw [← toDigits_append hcs (Nat.pos_of_ne_zero hzero), Nat.toDigits_of_lt_base hd]
      rfl

theorem isDigit_of_mem_zeros (zeros n : Nat) :
    ∀ c ∈ List.replicate zeros '0' ++ Nat.toDigits 10 n, c.isDigit = true := by
  intro c hc
  rcases List.mem_append.1 hc with hc | hc
  · rw [List.eq_of_mem_replicate hc]
    rfl
  · exact Nat.isDigit_of_mem_toDigits (by decide) (by decide) hc

/-- **The digits that have a value** are its decimal form behind zeros. -/
theorem readDigits?_eq_some_iff (cs : List Char) (n : Nat) :
    readDigits? cs = some n ↔ ∃ zeros, cs = List.replicate zeros '0' ++ Nat.toDigits 10 n := by
  unfold readDigits?
  constructor
  · intro h
    split at h
    · cases h
    · next hdigits =>
      simp only [Bool.or_eq_true, List.isEmpty_iff, Bool.not_eq_true', Bool.not_eq_false,
        not_or, List.all_eq_true] at hdigits
      rw [← Option.some.inj h, digitsValue_eq]
      exact exists_zeros hdigits.1 hdigits.2
  · rintro ⟨zeros, rfl⟩
    have hne : List.replicate zeros '0' ++ Nat.toDigits 10 n ≠ [] :=
      List.append_ne_nil_of_right_ne_nil _ Nat.toDigits_ne_nil
    have hall := List.all_eq_true.2 (isDigit_of_mem_zeros zeros n)
    have hvalue : Nat.ofDigitChars 10 (List.replicate zeros '0' ++ Nat.toDigits 10 n) 0 = n := by
      rw [Nat.ofDigitChars_append, Nat.ofDigitChars_replicate_zero, Nat.mul_zero,
        Nat.ofDigitChars_ten_toDigits]
    rw [hall, digitsValue_eq, hvalue, List.isEmpty_eq_false_iff.2 hne]
    rfl

/-- **A word is read from its numerals** and from nothing else. -/
theorem readWord?_eq_some_iff (cs : List Char) (n : Nat) :
    readWord? cs = some n ↔ IsNumeral cs n := by
  unfold readWord?
  dsimp only
  rw [Option.filter_eq_some_iff, readDigits?_eq_some_iff, decide_eq_true_eq]
  constructor
  · rintro ⟨⟨zeros, hdigits⟩, hlt⟩
    rw [← toList_toString] at hdigits
    split at hdigits
    · exact ⟨hlt, ['+'], zeros, .inr rfl, congrArg ('+' :: ·) hdigits⟩
    · exact ⟨hlt, [], zeros, .inl rfl, hdigits⟩
  · rintro ⟨hlt, sign, zeros, hsign, rfl⟩
    refine ⟨⟨zeros, ?_⟩, hlt⟩
    rw [toList_toString]
    -- Only a plus sign is taken off before the digits are read.
    rcases hsign with rfl | rfl
    · rw [List.nil_append]
      split
      · next rest hplus =>
        -- No digit is a plus sign.
        have hdigit := isDigit_of_mem_zeros zeros n '+' (hplus ▸ List.mem_cons_self)
        cases hdigit
      · rfl
    · rfl

end Text

/-! ### Names of argument columns -/

namespace Header

/-- **A name denotes a number** when it is the stem with a numeral of that number. -/
theorem argNumber?_eq_some_iff (name : String) (n : Nat) :
    argNumber? name = some n ↔
      ∃ numeral, Text.IsNumeral numeral n ∧ name = argStem ++ String.ofList numeral := by
  unfold argNumber?
  dsimp only
  constructor
  · intro h
    split at h
    · next hstem =>
      obtain ⟨numeral, hname⟩ := List.isPrefixOf_iff_prefix.1 hstem
      rw [← hname, List.drop_left, Text.readWord?_eq_some_iff] at h
      refine ⟨numeral, h, String.toList_inj.1 ?_⟩
      rw [String.toList_append, String.toList_ofList, hname]
    · cases h
  · rintro ⟨numeral, hnumeral, rfl⟩
    rw [String.toList_append, String.toList_ofList,
      if_pos (List.isPrefixOf_iff_prefix.2 (List.prefix_append _ _)), List.drop_left]
    exact (Text.readWord?_eq_some_iff numeral n).2 hnumeral

/-- A word is read back from the name that is made of its written form. -/
theorem argNumber?_argColumn {n : Nat} (h : n < Text.wordLimit) :
    argNumber? (argColumn n) = some n := by
  have hnumeral : Text.IsNumeral (toString n).toList n := ⟨h, [], 0, .inl rfl, rfl⟩
  refine (argNumber?_eq_some_iff _ _).2 ⟨(toString n).toList, hnumeral, ?_⟩
  rw [String.ofList_toList]
  rfl

/-- A number is written in one way. -/
theorem stem_append_eq_argColumn_iff (numeral : List Char) (n : Nat) :
    argStem ++ String.ofList numeral = argColumn n ↔ numeral = (toString n).toList := by
  rw [argColumn, ← String.toList_inj, String.toList_append, String.toList_append,
    String.toList_ofList, List.append_cancel_left_eq]

/-- **The argument columns of a header** are listed under the numbers that their names have a
numeral of. -/
theorem mem_argColumns_iff (header : Row) (n i : Nat) :
    (n, i) ∈ (ofRow header).argColumns ↔
      ∃ numeral, Text.IsNumeral numeral n ∧
        (ofRow header).index? (argStem ++ String.ofList numeral) = some i := by
  rw [mem_argColumns_ofRow]
  simp only [index?_ofRow_eq_some_iff]
  constructor
  · rintro ⟨name, hnumber, hposition⟩
    obtain ⟨numeral, hnumeral, rfl⟩ := (argNumber?_eq_some_iff name n).1 hnumber
    exact ⟨numeral, hnumeral, ne_empty_of_argNumber? hnumber, hposition⟩
  · rintro ⟨numeral, hnumeral, -, hposition⟩
    exact ⟨_, (argNumber?_eq_some_iff _ n).2 ⟨numeral, hnumeral, rfl⟩, hposition⟩

/-- A column with a plain name is listed under its number. -/
theorem mem_argColumns_of_index? {header : Row} {n i : Nat} (hlt : n < Text.wordLimit)
    (hindex : (ofRow header).index? (argColumn n) = some i) :
    (n, i) ∈ (ofRow header).argColumns := by
  obtain ⟨-, hposition⟩ := (index?_ofRow_eq_some_iff header _ i).1 hindex
  exact (mem_argColumns_ofRow header n i).2 ⟨argColumn n, argNumber?_argColumn hlt, hposition⟩

/-- A column has one name. -/
theorem eq_of_index?_eq {header : Row} {name other : String} {i : Nat}
    (hname : (ofRow header).index? name = some i) (hother : (ofRow header).index? other = some i) :
    name = other := by
  have hnames := (nodup_columns_ofRow header).1
  have hsame := List.inj_on_of_nodup_map (nodup_positions_ofRow header)
    ((index?_eq_some_iff hnames name i).1 hname) ((index?_eq_some_iff hnames other i).1 hother) rfl
  exact congrArg Prod.fst hsame

theorem declares_of_index? {header : Row} {name : String} {i : Nat}
    (h : (ofRow header).index? name = some i) : header.Declares name := by
  obtain ⟨-, hposition⟩ := (index?_ofRow_eq_some_iff header name i).1 h
  exact (header.isSome_position?_iff name).1 (hposition ▸ rfl)

/-- A row is read under a number at the position of the column with its plain name. -/
theorem arg_eq_cell {header : Header} {n i : Nat} (h : header.index? (argColumn n) = some i)
    (row : Row) : header.arg row n = row.cell i := by
  rw [arg, cell, h]

end Header

/-! ### Two ways to an argument -/

namespace Row

/-- The argument columns of a header row have plain names: their numbers are written without a plus
sign and without needless zeros. -/
def PlainArgs (header : Row) : Prop :=
  ∀ numeral n, Text.IsNumeral numeral n →
    header.Declares (Header.argStem ++ String.ofList numeral) → numeral = (toString n).toList

theorem plainArgs_iff (header : Row) :
    header.PlainArgs ↔ ∀ cell ∈ header.cells, ∀ n ∈ Header.argNumber? (Text.trim cell),
      Text.trim cell = Header.argColumn n := by
  constructor
  · intro h cell hcell n hnumber
    obtain ⟨numeral, hnumeral, hname⟩ := (Header.argNumber?_eq_some_iff _ n).1 hnumber
    rw [hname, Header.stem_append_eq_argColumn_iff]
    exact h numeral n hnumeral ⟨cell, hcell, hname⟩
  · rintro h numeral n hnumeral ⟨cell, hcell, hname⟩
    rw [← Header.stem_append_eq_argColumn_iff, ← hname]
    exact h cell hcell n ((Header.argNumber?_eq_some_iff _ n).2 ⟨numeral, hnumeral, hname⟩)

instance (header : Row) : Decidable header.PlainArgs :=
  decidable_of_iff _ header.plainArgs_iff.symm

/-- The argument columns of a header row are the same by number and by name. -/
structure ArgsAgree (header : Row) : Prop where
  /-- A column is listed under a number if it has the plain name of that number, and only then. -/
  listed : ∀ n i, (n, i) ∈ (Header.ofRow header).argColumns ↔
    n < Text.wordLimit ∧ (Header.ofRow header).index? (Header.argColumn n) = some i
  /-- A row is read under a listed number at the listed position. -/
  read : ∀ n i, (n, i) ∈ (Header.ofRow header).argColumns →
    ∀ row, (Header.ofRow header).arg row n = row.cell i
  /-- No number is listed twice. -/
  once : ((Header.ofRow header).argColumns.map (·.1)).Nodup
  /-- A row that is taken for a scenario header has an argument column that can be read. -/
  readable : header.isHeader = true → ∃ n i, n < Text.wordLimit ∧
    (Header.ofRow header).index? (Header.argColumn n) = some i ∧
    ∀ row, (Header.ofRow header).arg row n = row.cell i

variable {header : Row}

/-- With plain names, a column is listed under the number that it is looked up by. -/
theorem PlainArgs.listed (h : header.PlainArgs) (n i : Nat) :
    (n, i) ∈ (Header.ofRow header).argColumns ↔
      n < Text.wordLimit ∧ (Header.ofRow header).index? (Header.argColumn n) = some i := by
  constructor
  · intro hmem
    obtain ⟨numeral, hnumeral, hindex⟩ := (Header.mem_argColumns_iff header n i).1 hmem
    have hplain := h numeral n hnumeral (Header.declares_of_index? hindex)
    rw [hplain, String.ofList_toList] at hindex
    exact ⟨hnumeral.lt, hindex⟩
  · rintro ⟨hlt, hindex⟩
    exact Header.mem_argColumns_of_index? hlt hindex

/-- **With plain names, the two ways agree.** -/
theorem PlainArgs.argsAgree (h : header.PlainArgs) : header.ArgsAgree := by
  have hread : ∀ n i, (n, i) ∈ (Header.ofRow header).argColumns →
      ∀ row, (Header.ofRow header).arg row n = row.cell i :=
    fun n i hmem => Header.arg_eq_cell ((h.listed n i).1 hmem).2
  refine ⟨h.listed, hread, ?_, fun hheader => ?_⟩
  · refine List.pairwise_map.2 ((Header.pairwise_argPrecedes_ofRow header).imp_of_mem ?_)
    rintro ⟨n, i⟩ ⟨m, j⟩ hi hj hprecedes hsame
    obtain rfl : n = m := hsame
    -- One number is looked up at one position.
    have hposition := ((h.listed n i).1 hi).2.symm.trans ((h.listed n j).1 hj).2
    obtain rfl : i = j := Option.some.inj hposition
    exact Std.Irrefl.irrefl (r := Header.ArgPrecedes) (n, i) hprecedes
  · -- A header row declares some argument, and under a plain name that one is also found.
    obtain ⟨-, -, -, name, n, hnumber, hdeclares⟩ := header.isHeader_iff.1 hheader
    obtain ⟨i, hposition⟩ :=
      Option.isSome_iff_exists.1 ((header.isSome_position?_iff name).2 hdeclares)
    have hmem := (Header.mem_argColumns_ofRow header n i).2 ⟨name, hnumber, hposition⟩
    obtain ⟨hlt, hindex⟩ := (h.listed n i).1 hmem
    exact ⟨n, i, hlt, hindex, hread n i hmem⟩

/-- Where the two ways agree, the names are plain: a column with another name would be found under
two names. -/
theorem ArgsAgree.plainArgs (h : header.ArgsAgree) : header.PlainArgs := by
  intro numeral n hnumeral hdeclares
  obtain ⟨i, hposition⟩ := Option.isSome_iff_exists.1 ((header.isSome_position?_iff _).2 hdeclares)
  have hnumber := (Header.argNumber?_eq_some_iff _ n).2 ⟨numeral, hnumeral, rfl⟩
  have hindex := (Header.index?_ofRow_eq_some_iff header _ i).2
    ⟨Header.ne_empty_of_argNumber? hnumber, hposition⟩
  have hmem := (Header.mem_argColumns_iff header n i).2 ⟨numeral, hnumeral, hindex⟩
  have hsame := Header.eq_of_index?_eq hindex ((h.listed n i).1 hmem).2
  exact (Header.stem_append_eq_argColumn_iff numeral n).1 hsame

/-- **Arguments by number and by name agree exactly when their columns have plain names.** In any
case, each column with a plain name is listed under its number, and so is each column whose name has
another numeral of that number. -/
theorem args_agree_when_plain (header : Row) :
    (header.ArgsAgree ↔ header.PlainArgs) ∧
    (∀ n i, n < Text.wordLimit → (Header.ofRow header).index? (Header.argColumn n) = some i →
      (n, i) ∈ (Header.ofRow header).argColumns ∧
        ∀ row, (Header.ofRow header).arg row n = row.cell i) ∧
    ∀ n i, (n, i) ∈ (Header.ofRow header).argColumns ↔
      ∃ numeral, Text.IsNumeral numeral n ∧
        (Header.ofRow header).index? (Header.argStem ++ String.ofList numeral) = some i := by
  refine ⟨⟨ArgsAgree.plainArgs, PlainArgs.argsAgree⟩, fun n i hlt hindex => ?_,
    Header.mem_argColumns_iff header⟩
  exact ⟨Header.mem_argColumns_of_index? hlt hindex, Header.arg_eq_cell hindex⟩

/-- A header row in which each number is written plainly, with blanks around one of the names. -/
def plainHeader : Row := ⟨["Text", "Arg10", "Command", " Arg2 ", "Arg0"], 1⟩

theorem plainHeader_agrees :
    plainHeader.PlainArgs ∧ (10, 1) ∈ (Header.ofRow plainHeader).argColumns ∧
      ∀ row, (Header.ofRow plainHeader).arg row 10 = row.cell 1 := by
  have hplain : plainHeader.PlainArgs := by decide
  have hindex : (Header.ofRow plainHeader).index? (Header.argColumn 10) = some 1 := by decide
  obtain ⟨hagree, hfound, -⟩ := args_agree_when_plain plainHeader
  obtain ⟨hmem, -⟩ := hfound 10 1 (by decide) hindex
  exact ⟨hplain, hmem, (hagree.2 hplain).read 10 1 hmem⟩

/-- A header row whose argument column has a needless zero in its name. -/
def paddedHeader : Row := ⟨["Command", "Arg01", "Text"], 1⟩

/-- A header row with two numerals of one number. -/
def doubledHeader : Row := ⟨["Command", "Arg1", "Arg01", "Text"], 1⟩

/-- No number is written with a zero in front of another digit. -/
theorem index?_paddedHeader (n : Nat) :
    (Header.ofRow paddedHeader).index? (Header.argColumn n) = none := by
  by_contra hsome
  obtain ⟨i, hindex⟩ := Option.ne_none_iff_exists'.1 hsome
  obtain ⟨cell, hcell, hname⟩ := Header.declares_of_index? hindex
  have hchars : (Text.trim cell).toList = Header.argStem.toList ++ Nat.toDigits 10 n := by
    rw [hname, Header.argColumn, String.toList_append, Text.toList_toString]
  have hstem : (Text.trim cell).toList.take 3 = Header.argStem.toList := by
    rw [hchars]
    rfl
  have hvalue : Nat.ofDigitChars 10 ((Text.trim cell).toList.drop 3) 0 = n := by
    rw [hchars]
    exact Nat.ofDigitChars_ten_toDigits
  simp only [paddedHeader, List.mem_cons, List.not_mem_nil, or_false] at hcell
  -- Two of the cells are no argument; the third has the value one and is not written so.
  rcases hcell with rfl | rfl | rfl
  · exact absurd hstem (by decide)
  · obtain rfl : 1 = n := hvalue
    exact absurd hname (by decide)
  · exact absurd hstem (by decide)

/-- **A padded number is listed, but it is not found by name.** The header row counts as one because
of its argument column, and no argument can be read under it. With two numerals of one number, that
number is listed twice. -/
theorem padded_args_disagree :
    paddedHeader.isHeader = true ∧ (Header.ofRow paddedHeader).argColumns = [(1, 1)] ∧
      (∀ n row, (Header.ofRow paddedHeader).arg row n = "") ∧ ¬ paddedHeader.ArgsAgree ∧
      (Header.ofRow doubledHeader).argColumns = [(1, 1), (1, 2)] ∧ ¬ doubledHeader.ArgsAgree := by
  have hpadded : (Header.ofRow paddedHeader).argColumns = [(1, 1)] :=
    Header.argColumns_eq (by decide) (by decide)
  have hdoubled : (Header.ofRow doubledHeader).argColumns = [(1, 1), (1, 2)] :=
    Header.argColumns_eq (by decide) (by decide)
  refine ⟨?_, hpadded, fun n row => ?_, fun h => ?_, hdoubled, fun h => ?_⟩
  · rw [isHeader, hpadded]
    decide
  · rw [Header.arg, Header.cell, index?_paddedHeader]
  · exact absurd h.plainArgs (by decide)
  · have honce := h.once
    rw [hdoubled] at honce
    exact absurd honce (by decide)

end Row

end Storyboard
