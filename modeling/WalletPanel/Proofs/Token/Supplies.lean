import WalletPanel.Proofs.Text.Grammar
import WalletPanel.Text.Pieces
import WalletPanel.Token.Spec

/-!
# Supplies in groups of digits

A supply is written with a comma before every third digit from the right. The commas are put in from
left to right, so that what decides about one of them is how many digits are still to come. This
module takes the text apart at its commas again: the pieces are what a reader takes for the groups
(`Text.InGroups`), and all of them but the first have three digits.

The induction is on how the text is grouped, and carries the groups of what comes behind a digit
(`Text.exists_groups`): a digit begins a group of its own exactly where the group behind it is full.
Everything else follows from the pieces and from what is left when the commas are taken away
(`formatSupply_in_groups`).
-/

namespace WalletPanel

namespace Text

/-! ### Pieces that are put together -/

/-- A dividing character ends a piece, and another one begins behind it. -/
theorem pieces_append_cons {p : Char → Bool} {c : Char} (hc : p c = true) (s t : List Char) :
    pieces p (s ++ c :: t) = pieces p s ++ pieces p t := by
  induction s with
  | nil => exact if_pos hc
  | cons d s ih =>
    rw [List.cons_append, pieces, pieces, ih]
    by_cases hd : p d
    · rw [if_pos hd, if_pos hd]
      rfl
    · rw [if_neg hd, if_neg hd]
      -- the character goes to the first piece, which is one of those before the dividing one
      cases hs : pieces p s with
      | nil =>
        have hlength := length_pieces p s
        rw [hs] at hlength
        exact absurd hlength.symm (Nat.succ_ne_zero _)
      | cons piece rest => rfl

/-- A text without dividing characters is one piece. -/
theorem pieces_of_forall {p : Char → Bool} {s : List Char} (h : ∀ c ∈ s, p c = false) :
    pieces p s = [s] := by
  induction s with
  | nil => rfl
  | cons c s ih =>
    obtain ⟨hc, hs⟩ := List.forall_mem_cons.mp h
    rw [pieces, if_neg (Bool.eq_false_iff.mp hc), ih hs]

/-! ### Groups -/

/-- What stands between groups of digits. -/
def isComma (c : Char) : Bool := c == ','

/-- A text in groups of digits, with a comma between each group and the next one: the first group
has one to three digits, every other one has three. -/
structure InGroups (s : List Char) : Prop where
  first : ∀ g ∈ (pieces isComma s).head?, 1 ≤ g.length ∧ g.length ≤ 3
  others : ∀ g ∈ (pieces isComma s).tail, g.length = 3
  digits : ∀ g ∈ pieces isComma s, ∀ c ∈ g, c.isDigit = true

/-- No group is empty. -/
theorem InGroups.nil_notMem {s : List Char} (h : InGroups s) : [] ∉ pieces isComma s := by
  intro hnil
  cases hp : pieces isComma s with
  | nil =>
    rw [hp] at hnil
    cases hnil
  | cons first rest =>
    -- the first group has a digit, and the others have three
    obtain ⟨hfirst, hrest, -⟩ := h
    rw [hp] at hnil hfirst hrest
    rcases List.mem_cons.mp hnil with rfl | hmem
    · exact absurd (hfirst [] rfl).1 (by decide)
    · exact absurd (hrest [] hmem) (by decide)

/-- A text in groups has no comma in front or at its end, and no two beside each other. -/
theorem InGroups.commas_apart {s : List Char} (h : InGroups s) :
    s.head? ≠ some ',' ∧ s.getLast? ≠ some ',' ∧ ¬ [',', ','] <:+: s := by
  have hempty := h.nil_notMem
  refine ⟨fun hhead => hempty ?_, fun hlast => hempty ?_, fun ⟨before, after, hs⟩ => hempty ?_⟩
  · -- a comma in front would leave an empty group before it
    obtain ⟨t, rfl⟩ := List.head?_eq_some_iff.mp hhead
    have hp : pieces isComma (',' :: t) = [] :: pieces isComma t := rfl
    rw [hp]
    exact List.mem_cons_self
  · -- one at the end would leave an empty group behind it
    obtain ⟨t, rfl⟩ := List.getLast?_eq_some_iff.mp hlast
    rw [pieces_append_cons (c := ',') rfl]
    exact List.mem_append_right _ List.mem_cons_self
  · -- and two in a row would leave one between them
    have hsplit : before ++ [',', ','] ++ after = before ++ ',' :: (',' :: after) := by simp
    have hp : pieces isComma (',' :: after) = [] :: pieces isComma after := rfl
    rw [← hs, hsplit, pieces_append_cons (c := ',') rfl, hp]
    exact List.mem_append_right _ List.mem_cons_self

/-- Full groups make no difference to how many digits there are, counted by threes. -/
theorem length_mod_three (first : List Char) {rest : List (List Char)}
    (h : ∀ g ∈ rest, g.length = 3) : (first ++ rest.flatten).length % 3 = first.length % 3 := by
  rw [List.length_append, List.length_flatten, List.eq_replicate_of_mem (List.forall_mem_map.mpr h),
    List.sum_replicate_nat]
  omega

/-- What is grouped comes in groups: one that may not be full, and behind it full ones, each behind
a comma. -/
theorem exists_groups {s : List Char} (h : s ≠ []) :
    ∃ (first : List Char) (rest : List (List Char)),
      grouped s = first ++ rest.flatMap (',' :: ·) ∧ s = first ++ rest.flatten ∧
        1 ≤ first.length ∧ first.length ≤ 3 ∧ ∀ g ∈ rest, g.length = 3 := by
  -- from the left, as the commas are put in; whether one is depends on how many digits follow
  induction s using grouped.induct with
  | case1 => exact absurd rfl h
  | case2 c => exact ⟨[c], [], rfl, rfl, Nat.le_refl 1, Nat.le_add_right 1 2, List.forall_mem_nil _⟩
  | case3 c d rest hfull ih =>
    obtain ⟨first, groups, htext, hs, hpos, hle, hgroups⟩ := ih (List.cons_ne_nil d rest)
    -- as many digits follow as full groups have, so that the first of these groups is full as well
    have hfirst : first.length = 3 := by
      have hcount := length_mod_three first hgroups
      rw [← hs, List.length_cons] at hcount
      omega
    refine ⟨[c], first :: groups, ?_, ?_, Nat.le_refl 1, Nat.le_add_right 1 2,
      List.forall_mem_cons.mpr ⟨hfirst, hgroups⟩⟩
    · rw [grouped, if_pos hfull, htext]
      rfl
    · rw [hs]
      rfl
  | case4 c d rest hfull ih =>
    obtain ⟨first, groups, htext, hs, hpos, hle, hgroups⟩ := ih (List.cons_ne_nil d rest)
    -- there is room in the first group for one more digit
    have hfirst : first.length + 1 ≤ 3 := by
      have hcount := length_mod_three first hgroups
      rw [← hs, List.length_cons] at hcount
      omega
    refine ⟨c :: first, groups, ?_, ?_, Nat.succ_le_succ (Nat.zero_le _), hfirst, hgroups⟩
    · rw [grouped, if_neg hfull, htext]
      rfl
    · rw [hs]
      rfl

/-- Groups without commas are the pieces of the text in which they are joined by commas. -/
theorem pieces_flatMap {first : List Char} {rest : List (List Char)}
    (h : ∀ g ∈ first :: rest, ∀ c ∈ g, isComma c = false) :
    pieces isComma (first ++ rest.flatMap (',' :: ·)) = first :: rest := by
  -- each comma ends the group before it
  induction rest generalizing first with
  | nil =>
    rw [List.flatMap_nil, List.append_nil]
    exact pieces_of_forall (h first List.mem_cons_self)
  | cons g rest ih =>
    obtain ⟨hfirst, hmore⟩ := List.forall_mem_cons.mp h
    rw [List.flatMap_cons, List.cons_append, pieces_append_cons (c := ',') rfl,
      pieces_of_forall hfirst, ih hmore]
    rfl

/-- **Grouped digits are in groups.** -/
theorem inGroups_grouped {s : List Char} (h : s ≠ []) (hs : ∀ c ∈ s, c.isDigit = true) :
    InGroups (grouped s) := by
  obtain ⟨first, rest, htext, hsplit, hpos, hle, hrest⟩ := exists_groups h
  have hdigits : ∀ g ∈ first :: rest, ∀ c ∈ g, c.isDigit = true := by
    intro g hg c hc
    refine hs c ?_
    rw [hsplit]
    exact List.mem_flatten_of_mem (L := first :: rest) hg hc
  -- between the commas are the groups that the text was cut into
  have hpieces : pieces isComma (grouped s) = first :: rest := by
    rw [htext]
    refine pieces_flatMap fun g hg c hc => beq_eq_false_iff_ne.mpr ?_
    rintro rfl
    exact absurd (hdigits g hg ',' hc) (by decide)
  refine ⟨?_, ?_, ?_⟩
  · rw [hpieces]
    rintro g ⟨⟩
    exact ⟨hpos, hle⟩
  · rw [hpieces]
    exact hrest
  · rw [hpieces]
    exact hdigits

end Text

open Text

/-- **The text of a supply.** It is in groups of digits, so that it has no comma in front, at its
end or beside another one. Without the commas it has the digits of the supply and no zero in front
of them, and is read back as the supply. So different supplies have different texts. -/
theorem formatSupply_in_groups (supply : UInt64) :
    InGroups (formatSupply supply).toList ∧
    ((formatSupply supply).toList.head? ≠ some ',' ∧
      (formatSupply supply).toList.getLast? ≠ some ',' ∧
      ¬ [',', ','] <:+: (formatSupply supply).toList) ∧
    (formatSupply supply).toList.filter (· ≠ ',') = Nat.toDigits 10 supply.toNat ∧
    Digits ((formatSupply supply).toList.filter (· ≠ ',')) supply.toNat ∧
    (((formatSupply supply).toList.filter (· ≠ ',')).head? = some '0' → supply = 0) ∧
    numeralBelow? (Nat.pow 2 64) ((formatSupply supply).toList.filter (· ≠ ','))
      = some supply.toNat ∧
    ∀ other, formatSupply other = formatSupply supply → other = supply := by
  have htext : ∀ n : UInt64, (formatSupply n).toList = grouped (decimal n.toNat) :=
    fun n => String.toList_ofList
  have hdigits : ∀ n : UInt64, (formatSupply n).toList.filter (· ≠ ',') = decimal n.toNat := by
    intro n
    rw [htext]
    exact filter_grouped_decimal n.toNat
  have hgroups : InGroups (formatSupply supply).toList := by
    rw [htext]
    exact inGroups_grouped (decimal_ne_nil _) fun c => isDigit_of_mem_decimal
  have hstand : Digits (decimal supply.toNat) supply.toNat :=
    (digits_iff _ _).mpr ⟨decimal_ne_nil _, List.all_eq_true.mpr fun c => isDigit_of_mem_decimal,
      digitsValue_decimal _⟩
  refine ⟨hgroups, hgroups.commas_apart, hdigits supply, ?_, ?_, ?_, ?_⟩
  · rw [hdigits]
    exact hstand
  · rw [hdigits]
    intro hzero
    by_contra hne
    refine head_decimal_ne_zero (fun h => hne ?_) hzero
    exact UInt64.toNat_inj.mp h
  · rw [hdigits]
    exact (numeralBelow?_eq_some_iff _ _ _).mpr ⟨.bare hstand, supply.toNat_lt⟩
  · intro other heq
    -- what is read back from the same text is the same
    have hsame : decimal other.toNat = decimal supply.toNat := by
      rw [← hdigits, ← hdigits, heq]
    have hvalue := congrArg digitsValue hsame
    rw [digitsValue_decimal, digitsValue_decimal] at hvalue
    exact UInt64.toNat_inj.mp hvalue

example : formatSupply 1234567 = "1,234,567" := by decide +kernel

end WalletPanel
