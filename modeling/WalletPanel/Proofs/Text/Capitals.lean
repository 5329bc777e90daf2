import Mathlib.Algebra.Ring.Nat
import WalletPanel.Text.UpperCase

/-!
# Upper case is stable

A text in upper case stays as it is when it is put into upper case once more, and so does whatever
is cut off its front (`upperCase_take`), even if the cut goes through the middle of a spelling. This
comes from a fact about single characters, `capital_of_mem_capital`: the characters that one becomes
are their own upper case.

For the tables the fact says that no code point is both one that has another upper case (`lowered`)
and one that belongs to an upper case (`capitals`). There are too many of both to hold each against
each. So either row is written into a number, with one bit for each code point, and the two numbers
have no bit in common (`bits_disjoint`).
-/

namespace WalletPanel.Text

/-! ### Rows of numbers as bits -/

/-- A row of numbers as one number: the bits that are set are the numbers of the row. -/
def bits : List Nat → Nat
  | [] => 0
  | n :: ns => 2 ^ n ||| bits ns

/-- A bit is set exactly if its number is in the row. -/
theorem testBit_bits (ns : List Nat) (n : Nat) : (bits ns).testBit n = decide (n ∈ ns) := by
  induction ns with
  | nil => simp [bits]
  | cons m ns ih => simp [bits, ih, Nat.testBit_two_pow, eq_comm]

/-- Rows whose bits are apart have no number in common. -/
theorem notMem_of_bits_and_eq_zero {xs ys : List Nat} (h : bits xs &&& bits ys = 0) {n : Nat}
    (hn : n ∈ ys) : n ∉ xs := by
  intro hx
  -- the bit of a common number would be set in both rows
  have hbit : (bits xs &&& bits ys).testBit n = true := by
    rw [Nat.testBit_and, testBit_bits, testBit_bits, decide_eq_true hx, decide_eq_true hn]
    rfl
  rw [h, Nat.zero_testBit] at hbit
  cases hbit

/-! ### The code points of the tables -/

/-- What a run covers is one of the members that are counted out for it. -/
theorem Run.mem_members {r : Run} {n : Nat} (h : r.covers n = true) : n ∈ r.members := by
  simp only [covers, Bool.and_eq_true, decide_eq_true_eq, beq_iff_eq] at h
  obtain ⟨⟨hle, hlt⟩, hmod⟩ := h
  -- the distance from the first one is a whole number of steps
  have hn : (n - r.first) / r.step * r.step = n - r.first :=
    Nat.div_mul_cancel (Nat.dvd_of_mod_eq_zero hmod)
  refine List.mem_map.mpr ⟨(n - r.first) / r.step, List.mem_range.mpr ?_, ?_⟩
  · refine Nat.div_lt_of_lt_mul ?_
    rw [Nat.mul_comm]
    omega
  · rw [hn]
    omega

/-- The code points that have another upper case. -/
def lowered : List Nat := capitalRuns.flatMap Run.members ++ capitalSpellings.map (·.1)

/-- The code points that belong to the upper case of another one. -/
def capitals : List Nat :=
  capitalRuns.flatMap (fun r => r.members.map r.image) ++ capitalSpellings.flatMap (·.2)

/-- The tables map nothing to what they map. -/
theorem bits_disjoint : bits lowered &&& bits capitals = 0 := by
  -- two numbers with as many bits as there are code points, compared at once
  decide +kernel

/-! ### The upper case of a character -/

/-- Nothing is found under a key that no entry has. -/
theorem lookup_of_notMem {table : List (Nat × α)} {n : Nat} (h : n ∉ table.map (·.1)) :
    table.lookup n = none := by
  rw [List.lookup_eq_none_iff]
  intro entry hentry
  have hne : n ≠ entry.1 := by
    rintro rfl
    exact h (List.mem_map_of_mem hentry)
  simpa using hne

/-- A character that has no other upper case is its own. -/
theorem capital_of_notMem {c : Char} (h : c.toNat ∉ lowered) : capital c = [c] := by
  obtain ⟨hruns, hspelled⟩ := not_or.mp (mt List.mem_append.mpr h)
  have hnone : imageInRuns? capitalRuns c.toNat = none := by
    rw [imageInRuns?, Option.map_eq_none_iff, List.find?_eq_none]
    exact fun r hr hc => hruns (List.mem_flatMap.mpr ⟨r, hr, Run.mem_members hc⟩)
  unfold capital
  rw [hnone, lookup_of_notMem hspelled]

/-- The upper case of a character is the character itself or made of capitals. -/
theorem capital_cases (c : Char) :
    capital c = [c] ∨ ∀ d ∈ capital c, ∃ n ∈ capitals, d = Char.ofNat n := by
  unfold capital
  cases hr : imageInRuns? capitalRuns c.toNat with
  | some n =>
    obtain ⟨r, hfind, rfl⟩ := Option.map_eq_some_iff.mp hr
    have hcovers : r.covers c.toNat = true := by simpa using List.find?_some hfind
    -- the image is that of a member of the run
    have hmem : r.image c.toNat ∈ capitals := by
      refine List.mem_append_left _ (List.mem_flatMap.mpr ⟨r, List.mem_of_find?_eq_some hfind, ?_⟩)
      exact List.mem_map_of_mem (Run.mem_members hcovers)
    exact Or.inr fun d hd => ⟨_, hmem, List.mem_singleton.mp hd⟩
  | none =>
    cases hl : capitalSpellings.lookup c.toNat with
    | some spelling =>
      right
      intro d hd
      obtain ⟨n, hn, rfl⟩ := List.mem_map.mp hd
      obtain ⟨before, after, htable, -⟩ := List.lookup_eq_some_iff.mp hl
      -- what is found is the spelling of an entry of the table
      have hentry : (c.toNat, spelling) ∈ capitalSpellings := by
        rw [htable]
        exact List.mem_append_right _ List.mem_cons_self
      exact ⟨n, List.mem_append_right _ (List.mem_flatMap.mpr ⟨_, hentry, hn⟩), rfl⟩
    | none => exact Or.inl rfl

/-- **What a character becomes is its own upper case.** -/
theorem capital_of_mem_capital {c d : Char} (h : d ∈ capital c) : capital d = [d] := by
  rcases capital_cases c with hc | hc
  · -- the character is its own upper case, and so there is nothing else in it
    rw [hc] at h
    rw [List.mem_singleton.mp h, hc]
  · obtain ⟨n, hn, rfl⟩ := hc d h
    by_cases hv : n.isValidChar
    · have hn' : (Char.ofNat n).toNat = n := by
        rw [Char.ofNat, dif_pos hv]
        rfl
      refine capital_of_notMem ?_
      rw [hn']
      exact notMem_of_bits_and_eq_zero bits_disjoint hn
    · -- a number that is no code point would stand for the character zero
      have hzero : Char.ofNat n = Char.ofNat 0 := dif_neg hv
      rw [hzero]
      decide

/-! ### The upper case of a text -/

/-- A text is in upper case if each of its characters is. -/
theorem upperCase_eq_self {s : List Char} (h : ∀ c ∈ s, capital c = [c]) : upperCase s = s := by
  induction s with
  | nil => rfl
  | cons c s ih =>
    rw [upperCase_cons, h c List.mem_cons_self, ih fun d hd => h d (List.mem_cons_of_mem c hd)]
    rfl

/-- The front of a text in upper case is in upper case, wherever it is cut off. -/
theorem upperCase_take (s : List Char) (n : Nat) :
    upperCase ((upperCase s).take n) = (upperCase s).take n := by
  refine upperCase_eq_self fun d hd => ?_
  obtain ⟨c, -, hc⟩ := List.mem_flatMap.mp (List.mem_of_mem_take hd)
  exact capital_of_mem_capital hc

end WalletPanel.Text
