import WalletPanel.Text.Quoted

/-!
# Quotes tell texts apart

What stands for a character between quotes can be read back, whatever follows it
(`unshown_shown`). So no two texts look the same between quotes (`quoted_injective`).
-/

namespace WalletPanel.Text

/-! ### Numbers in base sixteen -/

/-- The number that a row of hexadecimal digits stands for. -/
def hexadecimalValue (ds : List Char) : Nat :=
  ds.foldl (fun value c => 16 * value + (hexValue? c).getD 0) 0

/-- One digit more stands for sixteen times as many and itself. -/
theorem hexadecimalValue_append_singleton (ds : List Char) (c : Char) :
    hexadecimalValue (ds ++ [c]) = 16 * hexadecimalValue ds + (hexValue? c).getD 0 := by
  unfold hexadecimalValue
  rw [List.foldl_append]
  rfl

/-- The digits of a number stand for it, and none of them closes a brace. -/
theorem hexadecimalValue_hexadecimal (n : Nat) :
    hexadecimalValue (hexadecimal n) = n ∧ '\x7d' ∉ hexadecimal n := by
  have hdigit : ∀ m < 16, (hexValue? (Nat.digitChar m)).getD 0 = m ∧ '\x7d' ≠ Nat.digitChar m := by
    decide
  induction n using Nat.strongRecOn with
  | ind n ih =>
    have hn : hexadecimal n
        = if n < 16 then [Nat.digitChar n] else hexadecimal (n / 16) ++ [Nat.digitChar (n % 16)] :=
      Nat.toDigits_eq_if (by decide)
    by_cases hlt : n < 16
    · -- a single digit, which is the number itself
      obtain ⟨hvalue, hbrace⟩ := hdigit n hlt
      rw [hn, if_pos hlt]
      refine ⟨?_, fun h => hbrace (List.mem_singleton.mp h)⟩
      exact (hexadecimalValue_append_singleton [] _).trans (by rw [hvalue]; exact Nat.zero_add n)
    · -- the last digit behind those of a sixteenth
      obtain ⟨hvalue, hbrace⟩ := hdigit (n % 16) (Nat.mod_lt n (by decide))
      obtain ⟨ihvalue, ihbrace⟩ := ih (n / 16) (by omega)
      rw [hn, if_neg hlt, hexadecimalValue_append_singleton, ihvalue, hvalue]
      refine ⟨Nat.div_add_mod n 16, fun h => ?_⟩
      exact (List.mem_append.mp h).elim ihbrace fun h => hbrace (List.mem_singleton.mp h)

/-! ### Reading back -/

/-- The character that stands first between quotes, and what is left. -/
def unshown : List Char → Option (Char × List Char)
  | '\\' :: '0' :: rest => some ('\x00', rest)
  | '\\' :: 't' :: rest => some ('\t', rest)
  | '\\' :: 'r' :: rest => some ('\r', rest)
  | '\\' :: 'n' :: rest => some ('\n', rest)
  | '\\' :: 'u' :: '\x7b' :: rest =>
    let digits := rest.takeWhile (· ≠ '\x7d')
    some (Char.ofNat (hexadecimalValue digits), (rest.dropWhile (· ≠ '\x7d')).tail)
  | '\\' :: c :: rest => some (c, rest)
  | c :: rest => some (c, rest)
  | [] => none

/-- A character that is written as a number is read back up to the brace behind it. -/
theorem unshown_number (n : Nat) (rest : List Char) :
    unshown (['\\', 'u', '\x7b'] ++ hexadecimal n ++ ['\x7d'] ++ rest)
      = some (Char.ofNat n, rest) := by
  obtain ⟨hvalue, hbrace⟩ := hexadecimalValue_hexadecimal n
  have hall : ∀ c ∈ hexadecimal n, decide (c ≠ '\x7d') = true := fun c hc =>
    decide_eq_true fun h => hbrace (h ▸ hc)
  have htake : (hexadecimal n ++ '\x7d' :: rest).takeWhile (· ≠ '\x7d') = hexadecimal n :=
    (List.takeWhile_append_of_pos hall).trans (List.append_nil _)
  have hdrop : (hexadecimal n ++ '\x7d' :: rest).dropWhile (· ≠ '\x7d') = '\x7d' :: rest :=
    List.dropWhile_append_of_pos hall
  rw [List.append_assoc, List.append_assoc]
  -- what is read are the digits up to the brace, none of which is a brace
  change unshown ('\\' :: 'u' :: '\x7b' :: (hexadecimal n ++ '\x7d' :: rest)) = _
  rw [unshown, htake, hdrop, hvalue, List.tail_cons]

/-- A character that is written out is read back, with whatever follows it left. -/
theorem unshown_shown (c : Char) (rest : List Char) :
    unshown (shown '"' c ++ rest) = some (c, rest) := by
  unfold shown
  -- the cases are those of `shown`
  by_cases h0 : c = '\x00'
  · rw [if_pos h0, h0]
    rfl
  rw [if_neg h0]
  by_cases ht : c = '\t'
  · rw [if_pos ht, ht]
    rfl
  rw [if_neg ht]
  by_cases hr : c = '\r'
  · rw [if_pos hr, hr]
    rfl
  rw [if_neg hr]
  by_cases hn : c = '\n'
  · rw [if_pos hn, hn]
    rfl
  rw [if_neg hn]
  by_cases hescaped : c = '\\' ∨ c = '"'
  · rw [if_pos hescaped]
    obtain rfl | rfl := hescaped <;> rfl
  rw [if_neg hescaped]
  by_cases hhidden : isHidden c = true
  · rw [if_pos hhidden, unshown_number, Char.ofNat_toNat]
  · rw [if_neg hhidden, List.singleton_append]
    -- only a backslash says that what follows belongs to the character
    have hslash : c ≠ '\\' := fun h => hescaped (.inl h)
    unfold unshown
    split <;> simp_all

/-- **No two texts look the same between quotes.** -/
theorem quoted_injective : Function.Injective quoted := by
  have hflat : ∀ s t : List Char, s.flatMap (shown '"') = t.flatMap (shown '"') → s = t := by
    intro s
    induction s with
    | nil =>
      intro t h
      cases t with
      | nil => rfl
      | cons d t =>
        have hd := unshown_shown d (t.flatMap (shown '"'))
        rw [← List.flatMap_cons, ← h] at hd
        cases hd
    | cons c s ih =>
      intro t h
      -- the first character of either text is read from the same quotes
      have hc := unshown_shown c (s.flatMap (shown '"'))
      rw [← List.flatMap_cons, h] at hc
      cases t with
      | nil => cases hc
      | cons d t =>
        rw [List.flatMap_cons, unshown_shown] at hc
        obtain ⟨rfl, hrest⟩ := Prod.mk.inj (Option.some.inj hc)
        rw [ih t hrest.symm]
  intro s t h
  -- the quotes around both are the same
  have hinside := List.append_cancel_right (List.cons.inj (String.ofList_injective h)).2
  exact String.toList_injective (hflat _ _ hinside)

end WalletPanel.Text
