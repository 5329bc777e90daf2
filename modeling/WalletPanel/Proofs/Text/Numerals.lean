import WalletPanel.Text.Numeral
import WalletPanel.Text.Trim

/-!
# Numerals that are read back

A reader of numerals takes digits as long as there are any. So a numeral that was written is read
back as the number it was written for where two things hold: its digits stand for that number
(`digitsValue_decimal`, `digitsValue_padded`), and what follows them is no digit.
-/

namespace WalletPanel.Text

/-! ### Where a scan stops -/

/-- A scan over characters that comes to others first stays where it is. -/
theorem takeWhile_of_head {p : Char → Bool} {s : List Char} (h : ∀ c ∈ s.head?, p c = false) :
    s.takeWhile p = [] := by
  cases s with
  | nil => rfl
  | cons c t => rw [List.takeWhile_cons, h c rfl]; rfl

/-- A scan over characters takes those that are there and stops before the first other one. -/
theorem takeWhile_append {p : Char → Bool} {ds rest : List Char} (hd : ∀ c ∈ ds, p c = true)
    (hr : ∀ c ∈ rest.head?, p c = false) : (ds ++ rest).takeWhile p = ds := by
  rw [List.takeWhile_append_of_pos hd, takeWhile_of_head hr, List.append_nil]

/-- A digit is no blank. -/
theorem isBlank_of_isDigit {c : Char} (h : c.isDigit = true) : isBlank c = false := by
  -- the digits are nowhere near the code points of blanks
  have hn : 48 ≤ c.toNat ∧ c.toNat ≤ 57 := by
    simpa [Char.isDigit, UInt32.le_iff_toNat_le] using h
  unfold isBlank
  simp
  omega

/-! ### Digits of a number -/

/-- A number is written in digits. -/
theorem isDigit_of_mem_decimal {n : Nat} {c : Char} (h : c ∈ decimal n) : c.isDigit = true :=
  Nat.isDigit_of_mem_toDigits (by decide) (by decide) h

/-- A number has at least one digit. -/
theorem decimal_ne_nil (n : Nat) : decimal n ≠ [] := Nat.toDigits_ne_nil

/-- The digits of a number stand for it. -/
theorem digitsValue_decimal (n : Nat) : digitsValue (decimal n) = n :=
  Nat.ofDigitChars_ten_toDigits

/-- Only zero begins with a zero. -/
theorem head_decimal_ne_zero {n : Nat} (h : n ≠ 0) : (decimal n).head? ≠ some '0' := by
  -- the first digit is the first digit of a tenth of the number
  induction n using Nat.strongRecOn with
  | ind n ih =>
    have hn := Nat.toDigits_eq_if (b := 10) (n := n) (by decide)
    unfold decimal
    by_cases hlt : n < 10
    · -- a single digit, which is the number itself
      rw [hn, if_pos hlt]
      have hall : ∀ m < 10, m ≠ 0 → [Nat.digitChar m].head? ≠ some '0' := by decide
      exact hall n hlt h
    · -- more than one digit, of which the first stays when the last one is taken off
      rw [hn, if_neg hlt]
      have hq : (decimal (n / 10)).head? ≠ some '0' := ih (n / 10) (by omega) (by omega)
      obtain ⟨c, ds, hc⟩ := List.exists_cons_of_ne_nil (decimal_ne_nil (n / 10))
      have hc' : Nat.toDigits 10 (n / 10) = c :: ds := hc
      rw [hc] at hq
      rw [hc']
      exact hq

/-! ### Numbers that are filled up -/

/-- Zeros in front of digits add nothing. -/
theorem digitsValue_replicate_append (k : Nat) (s : List Char) :
    digitsValue (List.replicate k '0' ++ s) = digitsValue s := by
  induction k with
  | zero => rfl
  | succ k ih => exact ih

/-- The digits of a number that is filled up stand for it. -/
theorem digitsValue_padded (width n : Nat) : digitsValue (padded width n) = n := by
  unfold padded
  rw [digitsValue_replicate_append, digitsValue_decimal]

/-- A number that is filled up is written in digits, too. -/
theorem isDigit_of_mem_padded {width n : Nat} {c : Char} (h : c ∈ padded width n) :
    c.isDigit = true := by
  rcases List.mem_append.mp h with hz | hd
  · rw [List.eq_of_mem_replicate hz]
    rfl
  · exact isDigit_of_mem_decimal hd

/-- It has at least one digit in any width. -/
theorem padded_ne_nil (width n : Nat) : padded width n ≠ [] := by
  unfold padded
  exact List.append_ne_nil_of_right_ne_nil _ (decimal_ne_nil n)

/-- A number that has room in a width fills it. -/
theorem length_padded {width n : Nat} (hw : 0 < width) (hn : n < Nat.pow 10 width) :
    (padded width n).length = width := by
  have hl : (decimal n).length ≤ width := (Nat.length_toDigits_le_iff (by decide) hw).mpr hn
  unfold padded
  rw [List.length_append, List.length_replicate]
  omega

end WalletPanel.Text
