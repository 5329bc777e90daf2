import WalletPanel.Proofs.Text.Numerals
import WalletPanel.Proofs.Wire.Forms
import WalletPanel.Proofs.Wire.Texts
import WalletPanel.Wire.Lead

/-!
# Scalars that are read back

`Reader.lead` reads a text or a number that was written as what it was. A text ends by itself, by
its closing quote; a number ends where something follows that cannot be a part of it
(`EndsNumber`), as a comma, a closing bracket or the end do.
-/

namespace WalletPanel.Wire

/-- What follows a number is no part of it. -/
def EndsNumber (rest : List Char) : Prop :=
  ∀ c ∈ rest.head?, c.isDigit = false ∧ c ≠ '.' ∧ c ≠ 'e' ∧ c ≠ 'E'

/-- A number may be the last thing in a text. -/
theorem endsNumber_nil : EndsNumber [] := nofun

/-- A comma ends a number, as it does between items. -/
theorem endsNumber_comma (s : List Char) : EndsNumber (',' :: s) := by
  intro c hc
  cases hc
  decide

/-- The bracket behind the last member ends a number. -/
theorem endsNumber_brace (s : List Char) : EndsNumber ('\x7d' :: s) := by
  intro c hc
  cases hc
  decide

namespace Reader

/-! ### Digits -/

/-- A row of digits is taken up to the first character that is none. -/
theorem digits_append {ds rest : List Char} (hd : ∀ c ∈ ds, c.isDigit = true)
    (hr : ∀ c ∈ rest.head?, c.isDigit = false) : digits (ds ++ rest) = .ok ds rest := by
  unfold digits
  rw [Text.takeWhile_append hd hr]
  exact congrArg (EStateM.Result.ok ds) List.drop_left

/-- A number that stays below the limit takes all its digits. -/
theorem absorb_eq {ds : List Char} {m : Nat}
    (h : ds.foldl (fun n c => 10 * n + Text.digitValue c) m < Number.wordLimit) :
    absorb m ds = (ds.foldl (fun n c => 10 * n + Text.digitValue c) m, ds.length) := by
  induction ds generalizing m with
  | nil => rfl
  | cons d ds ih =>
    -- what has been read never becomes less
    have hle : ∀ (ds : List Char) (k : Nat),
        k ≤ ds.foldl (fun n c => 10 * n + Text.digitValue c) k := by
      intro ds
      induction ds with
      | nil => exact Nat.le_refl
      | cons d ds ih => exact fun k => Nat.le_trans (by omega) (ih (10 * k + Text.digitValue d))
    have hm : 10 * m + Text.digitValue d < Number.wordLimit := Nat.lt_of_le_of_lt (hle ds _) h
    rw [absorb, if_pos hm, ih h]
    rfl

/-- The next character is shown and left in place. -/
theorem front_eq (s : List Char) : front s = .ok s.head? s := rfl

/-- What follows a part that is not empty does not change how it begins. -/
theorem head_append {s t : List Char} (h : s ≠ []) : (s ++ t).head? = s.head? := by
  obtain ⟨c, s, rfl⟩ := List.exists_cons_of_ne_nil h
  rfl

/-- **The digits of a whole part** are read to their end. -/
theorem wholeDigits_whole {w rest : List Char} (h : IsWhole w)
    (hr : ∀ c ∈ rest.head?, c.isDigit = false) : wholeDigits (w ++ rest) = .ok w rest := by
  -- over the two forms of a whole part
  cases h with
  | zero =>
    -- a zero stands alone: no digit may follow it
    calc wholeDigits ('0' :: rest)
        = (advance >>= _) ('0' :: rest) := bind_of_ok (front_eq _)
      _ = (front >>= _) rest := bind_of_ok (advance_cons rfl rest)
      _ = _ := bind_of_ok (front_eq rest)
      _ = .ok ['0'] rest := ?_
    cases rest with
    | nil => rfl
    | cons c rest =>
      have hc : c.isDigit = false := hr c rfl
      simp only [List.head?_cons, hc]
      rfl
  | digits hd hz =>
    have hz' : (w ++ rest).head? ≠ some '0' := by
      rw [head_append hd.1]
      exact hz
    unfold wholeDigits
    rw [bind_of_ok (front_eq _)]
    simp only
    rw [bind_of_ok (digits_append hd.2 hr), if_neg hd.1]
    rfl

/-- A number is written as a whole part is. -/
theorem isWhole_decimal (n : Nat) : IsWhole (Text.decimal n) := by
  by_cases hn : n = 0
  · subst hn
    exact .zero
  · exact .digits ⟨Text.decimal_ne_nil n, fun _ => Text.isDigit_of_mem_decimal⟩
      (Text.head_decimal_ne_zero hn)

/-- **A number that was written** is read back, if it fits a word and ends where it should. -/
theorem number_decimal {n : Nat} (hn : n < Number.wordLimit) {rest : List Char}
    (hr : EndsNumber rest) : number false (Text.decimal n ++ rest) = .ok (.natural n) rest := by
  have hsome : (Text.decimal n ++ rest).head?.isNone = false := by
    obtain ⟨c, ds, hc⟩ := List.exists_cons_of_ne_nil (Text.decimal_ne_nil n)
    rw [hc]
    rfl
  have hw := wholeDigits_whole (isWhole_decimal n) fun c hc => (hr c hc).1
  have ha : absorb 0 (Text.decimal n) = (n, (Text.decimal n).length) := by
    have hv : (Text.decimal n).foldl (fun n c => 10 * n + Text.digitValue c) 0 = n :=
      Text.digitsValue_decimal n
    rw [absorb_eq, hv]
    rw [hv]
    exact hn
  -- the digits, then nothing more: neither a point nor an exponent
  refine (bind_of_ok (front_eq _)).trans ?_
  rw [hsome]
  refine (bind_of_ok hw).trans ?_
  -- the number fits a word, so that no digit counts as a zero
  rw [ha]
  refine (bind_of_ok (front_eq _)).trans ?_
  -- all digits have been taken, and neither a fraction nor an exponent follows
  have hleft : (Text.decimal n).length - (Text.decimal n).length = 0 := Nat.sub_self _
  have hpoint : rest.head? ≠ some '.' := fun h => (hr '.' h).2.1 rfl
  have hsmall : rest.head? ≠ some 'e' := fun h => (hr 'e' h).2.2.1 rfl
  have hlarge : rest.head? ≠ some 'E' := fun h => (hr 'E' h).2.2.2 rfl
  simp only
  rw [if_pos hleft]
  rfl

/-! ### Leads -/

/-- **The rows of `leadFrom`**: what is read from a character on, with one row for each kind of
value and one for characters with which no value begins. -/
inductive LeadRow : Char → Reader Lead → Prop
  | word (c : Char) (more : List Char) {l : Lead} (scalar : l = .null ∨ ∃ b, l = .bool b) :
    LeadRow c (do advance; restOfWord more; pure l)
  | negative : LeadRow '-' (do advance; pure (.number (← number true)))
  | natural {c : Char} (digit : c.isDigit = true) : LeadRow c (do pure (.number (← number false)))
  | text : LeadRow '"' (do advance; pure (.text (← text)))
  | list : LeadRow '[' (pure .list)
  | object : LeadRow '\x7b' (pure .object)
  | noValue (c : Char) : LeadRow c (throw .noValue)

/-- Every character falls into one of the rows. What is to hold of all leads is shown row by row. -/
theorem leadRow (c : Char) : ∃ r, leadFrom c = r ∧ LeadRow c r := by
  refine ⟨leadFrom c, rfl, ?_⟩
  unfold leadFrom
  -- one case for each character with which something begins
  split_ifs with hn ht hf hminus hdigit hquote hlist hobject
  · exact .word c _ (Or.inl rfl)
  · exact .word c _ (Or.inr ⟨true, rfl⟩)
  · exact .word c _ (Or.inr ⟨false, rfl⟩)
  · exact hminus ▸ .negative
  · exact .natural hdigit
  · exact hquote ▸ .text
  · exact hlist ▸ .list
  · exact hobject ▸ .object
  · exact .noValue c

/-- A character that is no blank is the one that decides. -/
theorem lead_cons {c : Char} (h : isSpace c = false) (s : List Char) :
    lead (c :: s) = leadFrom c (c :: s) :=
  bind_of_ok (peek_cons h s)

/-- A text that was written is read back with its quotes, whatever follows. -/
theorem lead_text (t : String) (rest : List Char) :
    lead (writeText t ++ rest) = .ok (.text t) rest := by
  -- the quotes around what is escaped
  have hw : writeText t ++ rest = '"' :: (t.toList.flatMap escape ++ '"' :: rest) := by
    unfold writeText
    rw [List.cons_append, List.cons_append, List.append_assoc]
    rfl
  rw [hw]
  calc lead ('"' :: (t.toList.flatMap escape ++ '"' :: rest))
      = (advance >>= _) ('"' :: (t.toList.flatMap escape ++ '"' :: rest)) :=
        bind_of_ok (peek_cons rfl _)
    _ = (text >>= _) (t.toList.flatMap escape ++ '"' :: rest) := bind_of_ok (advance_cons rfl _)
    _ = .ok (.text t) rest := bind_of_ok (text_write t rest)

/-- A digit is none of the other characters that a value begins with. -/
theorem ne_of_isDigit {c d : Char} (h : c.isDigit = true) (hd : d.isDigit = false) : c ≠ d := by
  rintro rfl
  rw [hd] at h
  cases h

/-- A digit is no blank, and so `peek` stops before it. -/
theorem isSpace_of_isDigit {c : Char} (h : c.isDigit = true) : isSpace c = false := by
  simp [isSpace, ne_of_isDigit h (d := ' ') rfl, ne_of_isDigit h (d := '\n') rfl,
    ne_of_isDigit h (d := '\t') rfl, ne_of_isDigit h (d := '\r') rfl]

/-- A number is looked for where a digit stands. -/
theorem lead_digit {c : Char} (h : c.isDigit = true) (s : List Char) :
    lead (c :: s) = (do pure (.number (← number false)) : Reader Lead) (c :: s) := by
  rw [lead_cons (isSpace_of_isDigit h), leadFrom]
  rw [if_neg (ne_of_isDigit h rfl), if_neg (ne_of_isDigit h rfl), if_neg (ne_of_isDigit h rfl),
    if_neg (ne_of_isDigit h rfl), if_pos h]

/-- A number that was written is read back where something follows that ends it. -/
theorem lead_decimal {n : Nat} (hn : n < Number.wordLimit) {rest : List Char}
    (hr : EndsNumber rest) :
    lead (Text.decimal n ++ rest) = .ok (.number (.natural n)) rest := by
  have hnum := number_decimal hn hr
  obtain ⟨c, ds, hc⟩ := List.exists_cons_of_ne_nil (Text.decimal_ne_nil n)
  have hd : c.isDigit = true := Text.isDigit_of_mem_decimal (n := n) (by rw [hc]; simp)
  rw [hc, List.cons_append] at hnum ⊢
  calc lead (c :: (ds ++ rest))
      = (number false >>= _) (c :: (ds ++ rest)) := lead_digit hd _
    _ = .ok (.number (.natural n)) rest := bind_of_ok hnum

/-- The bracket of an object is seen and left in place. -/
theorem lead_object (s : List Char) : lead ('\x7b' :: s) = .ok .object ('\x7b' :: s) :=
  bind_of_ok (peek_cons rfl s)

/-- A reader that passes the bracket of an object goes on between the brackets. -/
theorem bind_lead_object {α : Type} {f : Lead → Reader α} {r : Reader α}
    (hf : f .object = (do advance; r)) (s : List Char) : (lead >>= f) ('\x7b' :: s) = r s :=
  calc (lead >>= f) ('\x7b' :: s)
      = f .object ('\x7b' :: s) := bind_of_ok (lead_object s)
    _ = (advance >>= fun _ => r) ('\x7b' :: s) := by rw [hf]
    _ = r s := bind_of_ok (advance_cons rfl s)

end Reader

end WalletPanel.Wire
