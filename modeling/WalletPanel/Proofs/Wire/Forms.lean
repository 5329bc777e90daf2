/-!
# The grammar of the wire form

Which texts are well-formed, said by a grammar and without a reader: words, numerals, texts in
quotes, lists and objects, with blanks between the marks (`IsValue`). The grammar is that of the
format. A reader may refuse a well-formed text all the same, where it stands for no value of the
type that is asked for, or where two escapes do not name a character between them; what a numeral
stands for and how deeply brackets nest is no matter of form either.

Items of lists and members of objects are kept apart from the brackets around them, each with the
blanks on both sides of it (`Padded`), so that a row of them can be put together in another way.
-/

namespace WalletPanel.Wire

/-! ### Blanks and numerals -/

/-- Blanks, as they may stand between marks. -/
def IsBlank (s : List Char) : Prop := ∀ c ∈ s, c = ' ' ∨ c = '\n' ∨ c = '\t' ∨ c = '\r'

/-- One digit or more. -/
def IsDigits (s : List Char) : Prop := s ≠ [] ∧ ∀ c ∈ s, c.isDigit = true

-- the characters of the text are looked at, and not all that there are
instance (s : List Char) : Decidable (IsDigits s) :=
  @instDecidableAnd (s ≠ []) _ _ (List.decidableBAll (fun c => c.isDigit = true) s)

/-- The digits before the point: a zero stands alone. -/
inductive IsWhole : List Char → Prop
  | zero : IsWhole ['0']
  | digits {s : List Char} (digits : IsDigits s) (first : s.head? ≠ some '0') : IsWhole s

/-- The point and the digits after it, if there are any. -/
inductive IsFraction : List Char → Prop
  | none : IsFraction []
  | digits {s : List Char} (digits : IsDigits s) : IsFraction ('.' :: s)

/-- A power of ten, if there is one. -/
inductive IsExponent : List Char → Prop
  | none : IsExponent []
  | digits {mark : Char} {sign s : List Char} (mark_eq : mark = 'e' ∨ mark = 'E')
      (sign_eq : sign = [] ∨ sign = ['+'] ∨ sign = ['-']) (digits : IsDigits s) :
      IsExponent (mark :: (sign ++ s))

/-- A numeral without a sign. -/
inductive IsUnsigned : List Char → Prop
  | mk {w f e : List Char} (whole : IsWhole w) (fraction : IsFraction f) (exponent : IsExponent e) :
      IsUnsigned (w ++ (f ++ e))

/-- A numeral, with a minus or without. -/
inductive IsNumeral : List Char → Prop
  | positive {s : List Char} (unsigned : IsUnsigned s) : IsNumeral s
  | negative {s : List Char} (unsigned : IsUnsigned s) : IsNumeral ('-' :: s)

/-! ### Texts -/

/-- A digit of an escape by number, in small or capital letters. -/
def IsHexDigit (c : Char) : Prop := c.isDigit = true ∨ 'a' ≤ c ∧ c ≤ 'f' ∨ 'A' ≤ c ∧ c ≤ 'F'

instance (c : Char) : Decidable (IsHexDigit c) := inferInstanceAs (Decidable (_ ∨ _))

/-- What stands between the quotes of a text: characters as they are, and escapes by a letter or by
a number. -/
inductive IsInner : List Char → Prop
  | nil : IsInner []
  | plain {c : Char} {s : List Char} (quote : c ≠ '"') (backslash : c ≠ '\\')
      (control : 0x20 ≤ c.toNat) (more : IsInner s) : IsInner (c :: s)
  | letter {c : Char} {s : List Char} (named : c ∈ ['"', '\\', '/', 'b', 'f', 'n', 'r', 't'])
      (more : IsInner s) : IsInner ('\\' :: c :: s)
  | number {ds s : List Char} (count : ds.length = 4) (digits : ∀ c ∈ ds, IsHexDigit c)
      (more : IsInner s) : IsInner ('\\' :: 'u' :: (ds ++ s))

/-- A property of each character of a text, by evaluation. -/
theorem forall_mem_of_all {p : Char → Prop} [DecidablePred p] {s : List Char}
    (h : (s.all fun c => decide (p c)) = true) : ∀ c ∈ s, p c :=
  fun c hc => of_decide_eq_true (List.all_eq_true.mp h c hc)

/-- A text of characters that stand as they are. -/
theorem isInner_of_plain {s : List Char}
    (h : (s.all fun c => decide (c ≠ '"' ∧ c ≠ '\\' ∧ 0x20 ≤ c.toNat)) = true) : IsInner s := by
  have hs := forall_mem_of_all h
  clear h
  -- character by character
  induction s with
  | nil => exact .nil
  | cons c s ih =>
    obtain ⟨quote, backslash, control⟩ := hs c List.mem_cons_self
    exact .plain quote backslash control (ih fun d hd => hs d (List.mem_cons_of_mem c hd))

/-- A text with its quotes. -/
def quotedText (inner : List Char) : List Char := '"' :: (inner ++ ['"'])

/-! ### Rows -/

/-- A part of a text with blanks on both sides. -/
structure Padded where
  before : List Char
  core : List Char
  after : List Char
  blank_before : IsBlank before
  blank_after : IsBlank after

/-- A part with its blanks. -/
def Padded.text (p : Padded) : List Char := p.before ++ (p.core ++ p.after)

/-- A part without blanks. -/
def Padded.bare (core : List Char) : Padded := ⟨[], core, [], nofun, nofun⟩

/-- Parts with a comma before each. -/
def following (items : List Padded) : List Char := items.flatMap fun i => ',' :: i.text

/-- What stands between brackets: parts with commas between them, or only blanks. -/
def rowText (blanks : List Char) : List Padded → List Char
  | [] => blanks
  | i :: items => i.text ++ following items

/-- A member of an object. The core of its key is what stands between the quotes. -/
structure Member where
  key : Padded
  value : Padded

namespace Member

/-- A member without blanks. -/
def bare (key value : List Char) : Member := ⟨.bare key, .bare value⟩

/-- What follows the key of a member, up to the end of its value. -/
def valuePart (m : Member) : List Char :=
  m.key.after ++ ':' :: (m.value.before ++ m.value.core)

/-- A member after the quote that begins its key. -/
def tail (m : Member) : List Char := m.key.core ++ '"' :: m.valuePart

/-- A member with the blanks around it. -/
def padded (m : Member) : Padded :=
  ⟨m.key.before, '"' :: m.tail, m.value.after, m.key.blank_before, m.value.blank_after⟩

end Member

/-- The items of a list between their brackets. -/
def listText (blanks : List Char) (items : List Padded) : List Char :=
  '[' :: (rowText blanks items ++ [']'])

/-- The members of an object between their brackets. -/
def objectText (blanks : List Char) (members : List Member) : List Char :=
  '\x7b' :: (rowText blanks (members.map Member.padded) ++ ['\x7d'])

/-- A list as a reader goes over it: its bracket, its row, and the bracket behind that. -/
theorem listText_append (blanks : List Char) (items : List Padded) (rest : List Char) :
    listText blanks items ++ rest = '[' :: (rowText blanks items ++ ']' :: rest) := by
  simp [listText]

/-- An object as a reader goes over it. -/
theorem objectText_append (blanks : List Char) (members : List Member) (rest : List Char) :
    objectText blanks members ++ rest
      = '\x7b' :: (rowText blanks (members.map Member.padded) ++ '\x7d' :: rest) := by
  simp [objectText]

/-- What is left of a row before its first part, or behind another one from the blanks after that.
-/
def rowFrom (first : Bool) (blanks : List Char) (items : List Padded) : List Char :=
  if first then rowText blanks items else blanks ++ following items

/-- A row that is over leaves blanks. -/
theorem rowFrom_nil (first : Bool) (blanks : List Char) : rowFrom first blanks [] = blanks := by
  cases first with
  | true => rfl
  | false => exact List.append_nil blanks

/-- A row that goes on has a comma, unless it only begins, and then the next part. -/
theorem rowFrom_cons (first : Bool) (blanks : List Char) (i : Padded) (items : List Padded) :
    rowFrom first blanks (i :: items)
      = (if first then [] else blanks ++ [',']) ++
        (i.before ++ (i.core ++ rowFrom false i.after items)) := by
  cases first <;> simp [rowFrom, rowText, following, Padded.text]

/-- A row has a comma for every part but one. -/
theorem length_le_row (blanks : List Char) (items : List Padded) :
    items.length ≤ (rowText blanks items).length + 1 := by
  -- each part that follows brings its comma
  have hmore : ∀ items : List Padded, items.length ≤ (following items).length := by
    intro items
    induction items with
    | nil => exact Nat.le_refl 0
    | cons i items ih =>
      have hc : following (i :: items) = ',' :: (i.text ++ following items) := rfl
      rw [hc, List.length_cons, List.length_cons, List.length_append]
      omega
  cases items with
  | nil => exact Nat.zero_le _
  | cons i items =>
    have := hmore items
    rw [rowText, List.length_cons, List.length_append]
    omega

/-- A part is no longer than its row. -/
theorem length_core_le_row {i : Padded} {items : List Padded} (h : i ∈ items)
    (blanks : List Char) : i.core.length ≤ (rowText blanks items).length := by
  have hcore : i.core.length ≤ i.text.length := by
    rw [Padded.text, List.length_append, List.length_append]
    omega
  -- the part is in the row with its comma before it
  have hmore : ∀ items : List Padded, i ∈ items → i.text.length ≤ (following items).length := by
    intro items h
    have hpart : ',' :: i.text ∈ items.map fun i => ',' :: i.text := List.mem_map_of_mem h
    have hlen : (',' :: i.text).length ≤ (following items).length := by
      rw [following, List.flatMap_def]
      exact (List.sublist_flatten_of_mem hpart).length_le
    exact Nat.le_trans (Nat.le_succ _) hlen
  cases items with
  | nil => cases h
  | cons j items =>
    rw [rowText, List.length_append]
    rcases List.mem_cons.mp h with rfl | h
    · omega
    · have := hmore items h
      omega

/-! ### Values -/

/-- Well-formed values without brackets. -/
inductive IsScalar : List Char → Prop
  | null : IsScalar ['n', 'u', 'l', 'l']
  | yes : IsScalar ['t', 'r', 'u', 'e']
  | no : IsScalar ['f', 'a', 'l', 's', 'e']
  | numeral {s : List Char} (numeral : IsNumeral s) : IsScalar s
  | text {s : List Char} (inner : IsInner s) : IsScalar (quotedText s)

/-- **Well-formed values.** -/
inductive IsValue : List Char → Prop
  | scalar {s : List Char} (scalar : IsScalar s) : IsValue s
  | list {blanks : List Char} {items : List Padded} (blank : IsBlank blanks)
      (values : ∀ i ∈ items, IsValue i.core) : IsValue (listText blanks items)
  | object {blanks : List Char} {members : List Member} (blank : IsBlank blanks)
      (keys : ∀ m ∈ members, IsInner m.key.core)
      (values : ∀ m ∈ members, IsValue m.value.core) : IsValue (objectText blanks members)

/-- A member is well-formed if its key and its value are. -/
structure Member.WellFormed (m : Member) : Prop where
  key : IsInner m.key.core
  value : IsValue m.value.core

/-! ### Texts -/

/-- A text that is a well-formed object with these members, with blanks around it. -/
def IsObjectOf (members : List Member) (text : String) : Prop :=
  (∀ m ∈ members, m.WellFormed) ∧ ∃ before blanks after, IsBlank before ∧ IsBlank blanks ∧
    IsBlank after ∧ text = String.ofList (before ++ (objectText blanks members ++ after))

/-- An object without blanks. -/
theorem isObjectOf_bare {members : List Member} (h : ∀ m ∈ members, m.WellFormed) :
    IsObjectOf members (String.ofList (objectText [] members)) :=
  ⟨h, [], [], [], nofun, nofun, nofun, by rw [List.append_nil]; rfl⟩

/-- A text that is a well-formed list of these items, with blanks around it. -/
def IsListOf (items : List Padded) (text : String) : Prop :=
  (∀ i ∈ items, IsValue i.core) ∧ ∃ before blanks after, IsBlank before ∧ IsBlank blanks ∧
    IsBlank after ∧ text = String.ofList (before ++ (listText blanks items ++ after))

end WalletPanel.Wire
