import Mathlib.Data.List.Induction
import WalletPanel.Proofs.Text.Numerals

/-!
# The grammar of numerals

What a numeral is and which number it stands for (`Numeral`), said without a reader: a digit stands
for its number, and a digit behind a row of digits for ten times as many and itself. There is
nothing else in a numeral but a plus sign in front, which may be missing.

`numeral?` reads the texts of this grammar and no others, as the numbers that they stand for
(`numeral?_eq_some_iff`), and `numeralBelow?` those of them that stand for a number below its bound.
In a text that a user typed the numeral may have blanks around it (`Spells`).
-/

namespace WalletPanel.Text

/-! ### Digits -/

/-- A row of digits and the number that it stands for. -/
inductive Digits : List Char → Nat → Prop where
  | one {k : Nat} (hk : k < 10) : Digits [Nat.digitChar k] k
  | more {ds : List Char} {n k : Nat} (hds : Digits ds n) (hk : k < 10) :
      Digits (ds ++ [Nat.digitChar k]) (10 * n + k)

/-- The digit of a number has the number for its value. -/
theorem digitValue_digitChar {k : Nat} (hk : k < 10) : digitValue (Nat.digitChar k) = k := by
  rw [digitValue, Nat.toNat_digitChar_of_lt_ten hk]
  exact Nat.add_sub_cancel_left 48 k

/-- A digit is that of its value, which is below ten. -/
theorem exists_digitChar {c : Char} (h : c.isDigit = true) : ∃ k < 10, c = Nat.digitChar k := by
  obtain ⟨hlow, hhigh⟩ := Char.isDigit_iff_toNat.mp h
  have hlow' : 48 ≤ c.toNat := hlow
  have hhigh' : c.toNat ≤ 57 := hhigh
  have hk : c.toNat - 48 < 10 := by omega
  refine ⟨c.toNat - 48, hk, Char.toNat_inj.mp ?_⟩
  rw [Nat.toNat_digitChar_of_lt_ten hk]
  omega

/-- A row of digits is what it says it is, and it stands for the value of the row. -/
theorem digits_iff (ds : List Char) (n : Nat) :
    Digits ds n ↔ ds ≠ [] ∧ ds.all Char.isDigit = true ∧ digitsValue ds = n := by
  constructor
  · intro h
    -- a row of digits is built as its value is, with the last digit last
    induction h with
    | one hk =>
      refine ⟨List.cons_ne_nil _ _, ?_, ?_⟩
      · simpa [Nat.isDigit_digitChar] using hk
      · simpa [digitsValue] using digitValue_digitChar hk
    | more _ hk ih =>
      obtain ⟨-, hall, hvalue⟩ := ih
      refine ⟨List.append_ne_nil_of_right_ne_nil _ (List.cons_ne_nil _ _), ?_, ?_⟩
      · simpa [List.all_append, hall, Nat.isDigit_digitChar] using hk
      · rw [digitsValue_append_singleton, hvalue, digitValue_digitChar hk]
  · -- the digits of a row came one behind the other, so that the last one is taken off first
    rintro ⟨hne, hall, rfl⟩
    induction ds using List.reverseRecOn with
    | nil => exact absurd rfl hne
    | append_singleton ds c ih =>
      rw [List.all_append, Bool.and_eq_true] at hall
      obtain ⟨hds, hc⟩ := hall
      obtain ⟨k, hk, rfl⟩ := exists_digitChar (List.all_eq_true.mp hc c List.mem_cons_self)
      rw [digitsValue_append_singleton, digitValue_digitChar hk]
      cases ds with
      | nil => simpa using Digits.one hk
      | cons d ds => exact Digits.more (ih (List.cons_ne_nil d ds) hds) hk

/-! ### Numerals -/

/-- A text that is a numeral, and the number that it stands for. -/
inductive Numeral : List Char → Nat → Prop where
  | bare {ds : List Char} {n : Nat} (hds : Digits ds n) : Numeral ds n
  | signed {ds : List Char} {n : Nat} (hds : Digits ds n) : Numeral ('+' :: ds) n

/-- A row of digits does not begin with a sign. -/
theorem not_digits_plus (ds : List Char) (n : Nat) : ¬ Digits ('+' :: ds) n := by
  intro h
  obtain ⟨-, hall, -⟩ := (digits_iff _ n).mp h
  rw [List.all_cons, Bool.and_eq_true] at hall
  exact absurd hall.1 (by decide)

/-- Digits are read behind a sign as they are without one. -/
theorem numeral?_plus (ds : List Char) (n : Nat) : numeral? ('+' :: ds) = some n ↔ Digits ds n := by
  have hread : numeral? ('+' :: ds)
      = if ds ≠ [] ∧ ds.all Char.isDigit then some (digitsValue ds) else none := rfl
  rw [hread, Option.ite_none_right_eq_some, Option.some_inj, and_assoc, ← digits_iff]

/-- A text without a sign is read as a row of digits. -/
theorem numeral?_of_unsigned {s : List Char} (h : ∀ ds, s ≠ '+' :: ds) (n : Nat) :
    numeral? s = some n ↔ Digits s n := by
  have hread : numeral? s
      = if s ≠ [] ∧ s.all Char.isDigit then some (digitsValue s) else none := by
    dsimp only [numeral?]
    split
    · exact absurd rfl (h _)
    · rfl
  rw [hread, Option.ite_none_right_eq_some, Option.some_inj, and_assoc, ← digits_iff]

/-- **What is read is what the grammar has.** -/
theorem numeral?_eq_some_iff (s : List Char) (n : Nat) : numeral? s = some n ↔ Numeral s n := by
  constructor
  · intro h
    by_cases hsign : ∃ ds, s = '+' :: ds
    · -- behind a sign
      obtain ⟨ds, rfl⟩ := hsign
      exact .signed ((numeral?_plus ds n).mp h)
    · -- without a sign
      exact .bare ((numeral?_of_unsigned (not_exists.mp hsign) n).mp h)
  · intro h
    cases h with
    | bare hds =>
      refine (numeral?_of_unsigned ?_ n).mpr hds
      rintro ds rfl
      exact not_digits_plus ds n hds
    | signed hds => exact (numeral?_plus _ n).mpr hds

/-- A numeral stands for one number. -/
theorem Numeral.unique {s : List Char} {n m : Nat} (hn : Numeral s n) (hm : Numeral s m) :
    n = m := by
  rw [← numeral?_eq_some_iff] at hn hm
  exact Option.some_inj.mp (hn.symm.trans hm)

/-- What is read below a bound are the numerals of numbers below it. -/
theorem numeralBelow?_eq_some_iff (bound : Nat) (s : List Char) (n : Nat) :
    numeralBelow? bound s = some n ↔ Numeral s n ∧ n < bound := by
  rw [numeralBelow?, Option.filter_eq_some_iff, numeral?_eq_some_iff, decide_eq_true_iff]

/-! ### Texts with a numeral in them -/

/-- A text spells a number if it is a numeral for it, up to the blanks around it. -/
def Spells (s : String) (n : Nat) : Prop := Numeral (trimBlank s).toList n

/-- A text spells one number at most. -/
theorem Spells.unique {s : String} {n m : Nat} (hn : Spells s n) (hm : Spells s m) : n = m :=
  Numeral.unique hn hm

/-! ### Numbers in groups of digits -/

/-- The commas apart, a number in groups of digits has the digits of the number. -/
theorem filter_grouped_decimal (n : Nat) : (grouped (decimal n)).filter (· ≠ ',') = decimal n := by
  refine filter_grouped fun c hc hcomma => ?_
  rw [hcomma] at hc
  exact absurd (isDigit_of_mem_decimal hc) (by decide)

end WalletPanel.Text
