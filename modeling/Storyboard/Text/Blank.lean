/-!
# Blank characters and trimming

Cells of a sheet are compared after trimming. The blank characters are those with the Unicode
property `White_Space`, so a no-break space or an ideographic space is trimmed, and a zero-width
space or a byte-order mark is not.

All functions work on lists of characters; `trim` and `isBlankText` are their forms on strings.
-/

namespace Storyboard.Text

/-- A blank character: the Unicode property `White_Space`. -/
def isBlank (c : Char) : Bool :=
  let n := c.toNat
  (0x9 ≤ n && n ≤ 0xD) || n == 0x20 || n == 0x85 || n == 0xA0 || n == 0x1680 ||
    (0x2000 ≤ n && n ≤ 0x200A) || n == 0x2028 || n == 0x2029 || n == 0x202F || n == 0x205F ||
    n == 0x3000

/-- Removes the blank characters at the front. -/
def trimStart (cs : List Char) : List Char :=
  cs.dropWhile isBlank

/-- Removes the blank characters at the end. -/
def trimEnd (cs : List Char) : List Char :=
  (cs.reverse.dropWhile isBlank).reverse

/-- Removes the blank characters at both ends. -/
def trimChars (cs : List Char) : List Char :=
  trimEnd (trimStart cs)

/-- Removes the blank characters at both ends of a string. -/
def trim (s : String) : String :=
  String.ofList (trimChars s.toList)

/-- Whether a string has no character that is not blank. -/
def isBlankText (s : String) : Bool :=
  s.toList.all isBlank

/-! ### Trimming and blank texts -/

theorem dropWhile_eq_nil_iff_all (p : Char → Bool) (cs : List Char) :
    cs.dropWhile p = [] ↔ cs.all p = true := by
  induction cs with
  | nil => simp
  | cons c cs ih =>
    rw [List.dropWhile_cons, List.all_cons]
    cases p c <;> simp_all

/-- The trimmed text is empty exactly for a blank text. -/
theorem trimChars_eq_nil_iff (cs : List Char) : trimChars cs = [] ↔ cs.all isBlank = true := by
  unfold trimChars trimEnd trimStart
  rw [List.reverse_eq_nil_iff, dropWhile_eq_nil_iff_all]
  constructor
  · intro h
    rw [List.all_reverse] at h
    rw [← List.takeWhile_append_dropWhile (p := isBlank) (l := cs), List.all_append, h,
      Bool.and_true]
    exact List.all_takeWhile
  · intro h
    rw [(dropWhile_eq_nil_iff_all isBlank cs).2 h]
    rfl

/-- **A string trims to the empty string exactly when it is blank.** -/
theorem trim_eq_empty_iff (s : String) : trim s = "" ↔ isBlankText s = true := by
  unfold trim isBlankText
  rw [← trimChars_eq_nil_iff]
  constructor
  · intro h
    have := congrArg String.toList h
    simpa using this
  · intro h
    rw [h]

/-! ### Trimming twice -/

theorem trimStart_of_head? {cs : List Char} (h : ∀ c, cs.head? = some c → isBlank c = false) :
    trimStart cs = cs := by
  cases cs with
  | nil => rfl
  | cons c rest => rw [trimStart, List.dropWhile_cons_of_neg (by simp [h c rfl])]

theorem isBlank_head?_trimStart (cs : List Char) :
    ∀ c, (trimStart cs).head? = some c → isBlank c = false := by
  intro c hc
  have h := List.head?_dropWhile_not isBlank cs
  rw [trimStart] at hc
  rw [hc] at h
  exact h

theorem trimEnd_prefix (cs : List Char) : trimEnd cs <+: cs := by
  have h : cs.reverse.dropWhile isBlank <:+ cs.reverse := List.dropWhile_suffix isBlank
  rw [← List.reverse_reverse cs, trimEnd, List.reverse_reverse]
  exact List.reverse_prefix.2 h

/-- What is left of a text without blanks in front has none in front either. -/
theorem trimStart_trimChars (cs : List Char) : trimStart (trimChars cs) = trimChars cs := by
  apply trimStart_of_head?
  intro c hc
  obtain ⟨rest, hrest⟩ := trimEnd_prefix (trimStart cs)
  apply isBlank_head?_trimStart cs c
  rw [← hrest, List.head?_append]
  exact congrArg (Option.or · _) hc

theorem trimEnd_trimEnd (cs : List Char) : trimEnd (trimEnd cs) = trimEnd cs := by
  have h := trimStart_of_head? (isBlank_head?_trimStart cs.reverse)
  rw [trimStart, trimStart] at h
  rw [trimEnd, trimEnd, List.reverse_reverse, h]

/-- **A trimmed text has nothing left to trim.** -/
theorem trim_trim (s : String) : trim (trim s) = trim s := by
  have h : trimChars (trimChars s.toList) = trimChars s.toList := by
    rw [trimChars, trimStart_trimChars]
    exact trimEnd_trimEnd _
  rw [trim, trim, String.toList_ofList, h]

end Storyboard.Text
