/-!
# Trimming

Cutting a kind of character off the ends of a text. `dropEnd` and `strip` work on lists of
characters and cut whatever a predicate names. The panel cuts blanks around what a user typed
(`trimBlank`), and slashes where the parts of a URL are joined. What is left of a text is empty
exactly when there was nothing else in it (`trimBlank_eq_empty_iff`), so that a form may ask either
question.

A blank is a character with Unicode's `White_Space` property. The set is closed: the zero width
space, the byte order mark and the information separators below `U+0020` are not in it.
-/

namespace WalletPanel.Text

/-! ### Cutting off ends -/

/-- `s` without the longest run of `p`-characters at its end. -/
def dropEnd (p : Char → Bool) (s : List Char) : List Char :=
  (s.reverse.dropWhile p).reverse

/-- `s` without the `p`-characters at either end. -/
def strip (p : Char → Bool) (s : List Char) : List Char :=
  dropEnd p (s.dropWhile p)

@[simp] theorem dropEnd_nil (p : Char → Bool) : dropEnd p [] = [] := rfl

@[simp] theorem strip_nil (p : Char → Bool) : strip p [] = [] := rfl

/-- A `p`-character at the end is cut off. -/
theorem dropEnd_append_of_pos {p : Char → Bool} {c : Char} (h : p c = true) (s : List Char) :
    dropEnd p (s ++ [c]) = dropEnd p s := by
  simp [dropEnd, h]

/-- Any other character at the end stays, and protects what stands before it. -/
theorem dropEnd_append_of_neg {p : Char → Bool} {c : Char} (h : p c = false) (s : List Char) :
    dropEnd p (s ++ [c]) = s ++ [c] := by
  simp [dropEnd, h]

/-! ### Blanks -/

/-- Whether `c` has Unicode's `White_Space` property. -/
def isBlank (c : Char) : Bool :=
  let n := c.toNat
  (0x09 ≤ n && n ≤ 0x0D) || n == 0x20 || n == 0x85 || n == 0xA0 || n == 0x1680 ||
    (0x2000 ≤ n && n ≤ 0x200A) || n == 0x2028 || n == 0x2029 || n == 0x202F || n == 0x205F ||
    n == 0x3000

/-- The text without the blanks around it. -/
def trimBlank (s : String) : String := String.ofList (strip isBlank s.toList)

/-- Whether a text holds nothing but blanks, or nothing at all. -/
def allBlank (s : String) : Bool := s.toList.all isBlank

@[simp] theorem toList_trimBlank (s : String) :
    (trimBlank s).toList = strip isBlank s.toList := by
  simp [trimBlank]

@[simp] theorem allBlank_empty : allBlank "" = true := rfl

/-- Dropping from the front leaves nothing exactly when every character may go. -/
theorem dropWhile_eq_nil_iff (p : Char → Bool) (s : List Char) :
    s.dropWhile p = [] ↔ s.all p = true := by
  -- character by character from the front
  induction s with
  | nil => simp
  | cons c t ih => by_cases h : p c = true <;> simp [h, ih]

/-- What dropping from the front leaves does not start with a character that may go. -/
theorem head_of_dropWhile {p : Char → Bool} {s : List Char} {c : Char} {t : List Char}
    (h : s.dropWhile p = c :: t) : p c = false := by
  induction s with
  | nil => simp at h
  | cons d r ih =>
    by_cases hd : p d = true
    · exact ih (by simpa [hd] using h)
    · simp only [hd, List.dropWhile_cons, Bool.false_eq_true, if_false, List.cons.injEq] at h
      simpa [← h.1] using hd

/-- Trimming leaves nothing exactly when there was nothing but characters to cut. -/
theorem strip_eq_nil_iff (p : Char → Bool) (s : List Char) :
    strip p s = [] ↔ s.all p = true := by
  rw [← dropWhile_eq_nil_iff]
  cases hd : s.dropWhile p with
  | nil => simp [strip, hd]
  | cons c t =>
    simp only [strip, dropEnd, hd, List.reverse_eq_nil_iff, dropWhile_eq_nil_iff, List.all_reverse,
      List.all_cons, head_of_dropWhile hd, Bool.false_and, Bool.false_eq_true, reduceCtorEq]

/-- A trimmed text is empty exactly when the text is all blank. -/
theorem trimBlank_eq_empty_iff (s : String) : trimBlank s = "" ↔ allBlank s = true := by
  rw [allBlank, ← strip_eq_nil_iff isBlank, ← toList_trimBlank]
  constructor
  · intro h; simp [h]
  · intro h; exact String.toList_inj.1 (by simpa using h)

end WalletPanel.Text
