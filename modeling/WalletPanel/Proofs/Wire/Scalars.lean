import WalletPanel.Proofs.Wire.Amounts
import WalletPanel.Proofs.Wire.Spellings

/-!
# What values begin with

Readers of values and what passes over them begin in the same way: they look at one character, and
read or pass over a scalar to its end if that is what it begins. `exists_lead` has the one,
`skipWithin_scalar` the other. The values with brackets are left to those who go over what is
between the brackets.
-/

namespace WalletPanel.Wire

namespace Reader

/-! ### First characters -/

/-- What a value may begin with: no blank, and none of the marks between values. -/
def BeginsValue (c : Char) : Prop :=
  isSpace c = false ∧ c ≠ ',' ∧ c ≠ ']' ∧ c ≠ '\x7d'

instance (c : Char) : Decidable (BeginsValue c) := inferInstanceAs (Decidable (_ ∧ _))

/-- A digit is no mark. -/
theorem beginsValue_of_isDigit {c : Char} (h : c.isDigit = true) : BeginsValue c :=
  ⟨isSpace_of_isDigit h, ne_of_isDigit h rfl, ne_of_isDigit h rfl, ne_of_isDigit h rfl⟩

/-- A scalar has a first character, by which it is told from the marks around it. -/
theorem exists_head_scalar {v : List Char} (h : IsScalar v) :
    ∃ c s, v = c :: s ∧ BeginsValue c := by
  cases h with
  | null => exact ⟨_, _, rfl, by decide⟩
  | yes => exact ⟨_, _, rfl, by decide⟩
  | no => exact ⟨_, _, rfl, by decide⟩
  | text => exact ⟨_, _, rfl, by decide⟩
  | numeral hn =>
    -- a minus or a digit
    cases hn with
    | negative => exact ⟨_, _, rfl, by decide⟩
    | positive hu =>
      obtain ⟨c, s, hs, hc⟩ := exists_digit_of_isUnsigned hu
      exact ⟨c, s, hs, beginsValue_of_isDigit hc⟩

/-- So has every value: brackets open, they do not close. -/
theorem exists_head_value {v : List Char} (h : IsValue v) : ∃ c s, v = c :: s ∧ BeginsValue c := by
  cases h with
  | scalar hs => exact exists_head_scalar hs
  | list => exact ⟨'[', _, rfl, by decide⟩
  | object => exact ⟨'\x7b', _, rfl, by decide⟩

/-! ### Leads -/

/-- The word `null` is read as nothing. -/
theorem lead_null (rest : List Char) : lead (['n', 'u', 'l', 'l'] ++ rest) = .ok .null rest := rfl

/-- The word `true` is read as a truth value. -/
theorem lead_true (rest : List Char) :
    lead (['t', 'r', 'u', 'e'] ++ rest) = .ok (.bool true) rest := rfl

/-- The word `false` is read as a truth value. -/
theorem lead_false (rest : List Char) :
    lead (['f', 'a', 'l', 's', 'e'] ++ rest) = .ok (.bool false) rest := rfl

/-- The bracket of a list is seen and left in place. -/
theorem lead_list (s : List Char) : lead ('[' :: s) = .ok .list ('[' :: s) :=
  bind_of_ok (peek_cons rfl s)

/-- A reader that passes the bracket of a list goes on between the brackets. -/
theorem bind_lead_list {α : Type} {f : Lead → Reader α} {r : Reader α}
    (hf : f .list = (do advance; r)) (s : List Char) : (lead >>= f) ('[' :: s) = r s :=
  calc (lead >>= f) ('[' :: s)
      = f .list ('[' :: s) := bind_of_ok (lead_list s)
    _ = (advance >>= fun _ => r) ('[' :: s) := by rw [hf]
    _ = r s := bind_of_ok (advance_cons rfl s)

/-- The text between quotes, or why it is none. -/
theorem yields_lead_text {s : List Char} (h : IsInner s) :
    lead.Yields (quotedText s) ((text.outcome (s ++ ['"'])).map .text) := by
  intro rest hr
  have hlead : lead (quotedText s ++ rest)
      = (do pure (.text (← text)) : Reader Lead) (s ++ ['"'] ++ rest) :=
    calc lead ('"' :: (s ++ ['"'] ++ rest))
        = (advance >>= _) ('"' :: (s ++ ['"'] ++ rest)) := bind_of_ok (peek_cons rfl _)
      _ = (text >>= _) (s ++ ['"'] ++ rest) := bind_of_ok (advance_cons rfl _)
  exact ((settles_text h rest hr).map Lead.text).of_eq hlead

/-- **A scalar** is read to its end, or ends in an error. -/
theorem exists_lead {v : List Char} (h : IsScalar v) :
    ∃ x : Except Error Lead, lead.Yields v x ∧ ∀ l, x = .ok l → l ≠ .list ∧ l ≠ .object := by
  -- words and texts are always read; a numeral may be too large
  cases h with
  | null => exact ⟨.ok .null, fun rest _ => lead_null rest, by rintro _ ⟨⟩; simp⟩
  | yes => exact ⟨.ok (.bool true), fun rest _ => lead_true rest, by rintro _ ⟨⟩; simp⟩
  | no => exact ⟨.ok (.bool false), fun rest _ => lead_false rest, by rintro _ ⟨⟩; simp⟩
  | numeral hn =>
    rcases lead_numeral hn with ⟨n, hn⟩ | ⟨ds, -, hn⟩
    · exact ⟨.ok (.number n), fun rest hr => hn rest hr, by rintro _ ⟨⟩; simp⟩
    · exact ⟨.error .numberTooLarge, fun rest hr => ⟨_, hn rest hr⟩, nofun⟩
  | @text s inner =>
    refine ⟨_, yields_lead_text inner, fun l hl => ?_⟩
    cases ho : text.outcome (s ++ ['"']) with
    | error e => rw [ho] at hl; cases hl
    | ok t =>
      rw [ho] at hl
      cases hl
      simp

/-! ### Passing over -/

/-- **A scalar is passed over**, whatever it stands for. -/
theorem skipWithin_scalar {v : List Char} (h : IsScalar v) (fuel : Nat) {rest : List Char}
    (hr : EndsNumber rest) : skipWithin (fuel + 1) (v ++ rest) = .ok () rest := by
  -- a numeral without a sign, which may also stand behind a minus
  have hdigit : ∀ {s : List Char}, IsUnsigned s →
      skipWithin (fuel + 1) (s ++ rest) = .ok () rest := by
    intro s hu
    obtain ⟨c, t, rfl, hc⟩ := exists_digit_of_isUnsigned hu
    rw [List.cons_append, skipWithin, bind_of_ok (peek_cons (isSpace_of_isDigit hc) _)]
    simp only
    rw [if_neg (ne_of_isDigit hc rfl), if_neg (ne_of_isDigit hc rfl),
      if_neg (ne_of_isDigit hc rfl), if_neg (ne_of_isDigit hc rfl), if_pos hc]
    exact skipNumber_unsigned hu hr
  cases h with
  | null => rfl
  | yes => rfl
  | no => rfl
  | numeral hn =>
    cases hn with
    | positive hu => exact hdigit hu
    | negative hu =>
      calc skipWithin (fuel + 1) ('-' :: (_ ++ rest))
          = (advance >>= _) ('-' :: (_ ++ rest)) := bind_of_ok (peek_cons rfl _)
        _ = skipNumber (_ ++ rest) := bind_of_ok (advance_cons rfl _)
        _ = .ok () rest := skipNumber_unsigned hu hr
  | @text s inner =>
    have hs : quotedText s ++ rest = '"' :: (s ++ '"' :: rest) := by
      unfold quotedText
      rw [List.cons_append, List.append_assoc]
      rfl
    rw [hs]
    calc skipWithin (fuel + 1) ('"' :: (s ++ '"' :: rest))
        = (advance >>= _) ('"' :: (s ++ '"' :: rest)) := bind_of_ok (peek_cons rfl _)
      _ = skipText (s ++ '"' :: rest) := bind_of_ok (advance_cons rfl _)
      _ = .ok () rest := skipText_inner inner rest

end Reader

end WalletPanel.Wire
