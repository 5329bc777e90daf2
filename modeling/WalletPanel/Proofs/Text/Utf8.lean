import Mathlib.Algebra.Ring.Nat
import Mathlib.Tactic.ByContra
import Mathlib.Tactic.SplitIfs
import WalletPanel.Text.Utf8

/-!
# Octets that are read

Octets stand for a text exactly if they are the octets of that text (`characters?_eq_some_iff`), and
between two texts they stand for what they stand for by themselves, or for nothing
(`characters?_between`).

The reader is somewhere in a character most of the time. So what it does is said of the middle of a
character first: which octets end it, and which character they make of it (`Ends`). These octets are
digits to the base 64 (`followers`), and the first octet has the digits in front of them under a
mark that says how many follow (`Takes`). Only the last of these three has to look at the cases of
`firstOctet`.
-/

namespace WalletPanel.Text

/-! ### From the middle of a character -/

/-- The octets with which a character ends that has been begun, and the character. -/
inductive Ends : Pending → List UInt8 → Char → Prop where
  | last {low high bits : Nat} {b : UInt8} (hlow : low ≤ b.toNat) (hhigh : b.toNat ≤ high) :
      Ends ⟨0, low, high, bits⟩ [b] (Char.ofNat (bits * 64 + (b.toNat - 0x80)))
  | more {owed low high bits : Nat} {b : UInt8} {tail : List UInt8} {c : Char}
      (hlow : low ≤ b.toNat) (hhigh : b.toNat ≤ high)
      (htail : Ends ⟨owed, 0x80, 0xBF, bits * 64 + (b.toNat - 0x80)⟩ tail c) :
      Ends ⟨owed + 1, low, high, bits⟩ (b :: tail) c

/-- An octet that cannot come next is read as a first one. -/
theorem decodeFrom_afresh {p : Pending} {b : UInt8}
    (h : ¬ (p.low ≤ b.toNat ∧ b.toNat ≤ p.high)) (rest : List UInt8) :
    decodeFrom (some p) (b :: rest) = none :: decodeFrom none (b :: rest) := by
  rw [decodeFrom, decodeFrom]
  exact if_neg h

/-- The last octet that is owed ends the character. -/
theorem decodeFrom_last {low high : Nat} {b : UInt8} (h : low ≤ b.toNat ∧ b.toNat ≤ high)
    (bits : Nat) (rest : List UInt8) :
    decodeFrom (some ⟨0, low, high, bits⟩) (b :: rest)
      = some (Char.ofNat (bits * 64 + (b.toNat - 0x80))) :: decodeFrom none rest := by
  rw [decodeFrom]
  exact if_pos h

/-- An octet that is owed before the last one adds its digit. -/
theorem decodeFrom_more {low high : Nat} {b : UInt8} (h : low ≤ b.toNat ∧ b.toNat ≤ high)
    (owed bits : Nat) (rest : List UInt8) :
    decodeFrom (some ⟨owed + 1, low, high, bits⟩) (b :: rest)
      = decodeFrom (some ⟨owed, 0x80, 0xBF, bits * 64 + (b.toNat - 0x80)⟩) rest := by
  rw [decodeFrom]
  exact if_pos h

/-- The octets that end a character are read as that character, whatever follows. -/
theorem Ends.decodeFrom_eq {p : Pending} {tail : List UInt8} {c : Char} (h : Ends p tail c)
    (rest : List UInt8) :
    decodeFrom (some p) (tail ++ rest) = some c :: decodeFrom none rest := by
  induction h with
  | last hlow hhigh => exact decodeFrom_last ⟨hlow, hhigh⟩ _ rest
  | more hlow hhigh _ ih => exact (decodeFrom_more ⟨hlow, hhigh⟩ _ _ _).trans ih

/-- Where nothing ill-formed is read, the character that has been begun is ended. -/
theorem exists_ends {p : Pending} {s : List UInt8} (h : none ∉ decodeFrom (some p) s) :
    ∃ tail c rest, s = tail ++ rest ∧ Ends p tail c := by
  -- after each octet the rest is read from the middle of the same character, or anew
  induction s generalizing p with
  | nil => exact absurd List.mem_cons_self h
  | cons b s ih =>
    obtain ⟨owed, low, high, bits⟩ := p
    by_cases hb : low ≤ b.toNat ∧ b.toNat ≤ high
    · cases owed with
      | zero => exact ⟨[b], _, s, rfl, .last hb.1 hb.2⟩
      | succ owed =>
        rw [decodeFrom_more hb] at h
        obtain ⟨tail, c, rest, rfl, htail⟩ := ih h
        exact ⟨b :: tail, c, rest, rfl, .more hb.1 hb.2 htail⟩
    · rw [decodeFrom_afresh hb] at h
      exact absurd List.mem_cons_self h

/-! ### Digits -/

/-- The last `n` digits of a number to the base 64, each as an octet that follows another one. -/
def followers : Nat → Nat → List UInt8
  | 0, _ => []
  | n + 1, v => UInt8.ofNat (v / 64 ^ n % 64 + 0x80) :: followers n v

/-- The octet of a digit puts the digit behind those in front of it. -/
theorem digit_behind (n v : Nat) :
    (UInt8.ofNat (v / 64 ^ n % 64 + 0x80)).toNat = v / 64 ^ n % 64 + 0x80 ∧
      v / 64 ^ (n + 1) * 64 + ((UInt8.ofNat (v / 64 ^ n % 64 + 0x80)).toNat - 0x80)
        = v / 64 ^ n := by
  have hdigit : (UInt8.ofNat (v / 64 ^ n % 64 + 0x80)).toNat = v / 64 ^ n % 64 + 0x80 :=
    UInt8.toNat_ofNat_of_lt' (show v / 64 ^ n % 64 + 0x80 < 256 by omega)
  refine ⟨hdigit, ?_⟩
  rw [hdigit, Nat.pow_succ, ← Nat.div_div_eq_div_mul]
  omega

/-- An octet that follows another one is the octet of its digit. -/
theorem digit_of_octet {b : UInt8} (hlow : 0x80 ≤ b.toNat) (hhigh : b.toNat ≤ 0xBF) (n : Nat) :
    (n * 64 + (b.toNat - 0x80)) / 64 = n ∧
      UInt8.ofNat ((n * 64 + (b.toNat - 0x80)) % 64 + 0x80) = b := by
  have hb : (n * 64 + (b.toNat - 0x80)) % 64 + 0x80 = b.toNat := by omega
  exact ⟨by omega, by rw [hb, UInt8.ofNat_toNat]⟩

/-- The octets of the digits that are missing end a character. -/
theorem ends_followers {owed low high v : Nat} (hlow : low ≤ v / 64 ^ owed % 64 + 0x80)
    (hhigh : v / 64 ^ owed % 64 + 0x80 ≤ high) :
    Ends ⟨owed, low, high, v / 64 ^ (owed + 1)⟩ (followers (owed + 1) v) (Char.ofNat v) := by
  induction owed generalizing low high with
  | zero =>
    obtain ⟨hdigit, hnumber⟩ := digit_behind 0 v
    have h : Ends ⟨0, low, high, v / 64 ^ 1⟩ [UInt8.ofNat (v / 64 ^ 0 % 64 + 0x80)] _ :=
      .last (hdigit.symm ▸ hlow) (hdigit.symm ▸ hhigh)
    rw [hnumber, Nat.pow_zero, Nat.div_one] at h
    rw [followers, Nat.pow_zero, Nat.div_one]
    exact h
  | succ owed ih =>
    obtain ⟨hdigit, hnumber⟩ := digit_behind (owed + 1) v
    -- the octet of this digit, and then one digit less is owed
    refine .more (hdigit.symm ▸ hlow) (hdigit.symm ▸ hhigh) ?_
    rw [hnumber]
    exact ih (by omega) (by omega)

/-- What ends a character are the octets of the digits that are missing. -/
theorem Ends.exists_followers {owed low high bits : Nat} {tail : List UInt8} {c : Char}
    (h : Ends ⟨owed, low, high, bits⟩ tail c) (hlow : 0x80 ≤ low) (hhigh : high ≤ 0xBF) :
    ∃ v, v / 64 ^ (owed + 1) = bits ∧ low ≤ v / 64 ^ owed % 64 + 0x80 ∧
      v / 64 ^ owed % 64 + 0x80 ≤ high ∧ tail = followers (owed + 1) v ∧ c = Char.ofNat v := by
  -- the number of octets that are still owed
  induction owed generalizing low high bits tail with
  | zero =>
    cases h with
    | @last _ _ _ b hl hh =>
      obtain ⟨hbits, hb⟩ := digit_of_octet (Nat.le_trans hlow hl) (Nat.le_trans hh hhigh) bits
      refine ⟨_, hbits, by omega, by omega, ?_, rfl⟩
      rw [followers, Nat.pow_zero, Nat.div_one, hb]
      rfl
  | succ owed ih =>
    cases h with
    | @more _ _ _ _ b tail c hl hh htail =>
      -- the number is that of the whole character, so that the digit read here is one of it
      obtain ⟨v, hv, -, -, rfl, rfl⟩ := ih htail (Nat.le_refl _) (Nat.le_refl _)
      obtain ⟨hbits, hb⟩ := digit_of_octet (Nat.le_trans hlow hl) (Nat.le_trans hh hhigh) bits
      rw [← hv] at hbits hb
      refine ⟨v, ?_, by omega, by omega, congrArg (· :: followers (owed + 1) v) hb.symm, rfl⟩
      rw [Nat.pow_succ, ← Nat.div_div_eq_div_mul]
      exact hbits

/-! ### Characters -/

/-- The numbers whose characters have `n` octets behind the first one, and the mark that says so in
the first one. -/
inductive Takes : (n mark v : Nat) → Prop where
  | two {v : Nat} (hlow : 0x80 ≤ v) (hhigh : v ≤ 0x7FF) : Takes 1 0xC0 v
  | three {v : Nat} (hlow : 0x800 ≤ v) (hhigh : v ≤ 0xFFFF) (hwhole : v < 0xD800 ∨ 0xDFFF < v) :
      Takes 2 0xE0 v
  | four {v : Nat} (hlow : 0x10000 ≤ v) (hhigh : v ≤ 0x10FFFF) : Takes 3 0xF0 v

/-- Every character is one octet or a first one with others behind it. -/
theorem takes_cases (c : Char) : c.toNat ≤ 0x7F ∨ ∃ n mark, Takes (n + 1) mark c.toNat := by
  have hvalid : c.toNat < 0xD800 ∨ 0xDFFF < c.toNat ∧ c.toNat < 0x110000 := c.valid
  by_cases hone : c.toNat ≤ 0x7F
  · exact Or.inl hone
  right
  by_cases htwo : c.toNat ≤ 0x7FF
  · exact ⟨_, _, .two (by omega) htwo⟩
  by_cases hthree : c.toNat ≤ 0xFFFF
  · exact ⟨_, _, .three (by omega) hthree (by omega)⟩
  · exact ⟨_, _, .four (by omega) (by omega)⟩

/-- The character of a code point has it for its number. -/
theorem toNat_val_ofNat {v : Nat} (h : v.isValidChar) : (Char.ofNat v).val.toNat = v := by
  rw [Char.ofNat, dif_pos h]
  rfl

/-- A character of the smallest size is its own octet. -/
theorem utf8EncodeChar_of_le {v : Nat} (h : v ≤ 0x7F) :
    String.utf8EncodeChar (Char.ofNat v) = [UInt8.ofNat v] := by
  have hvalid : v.isValidChar := Or.inl (by omega)
  unfold String.utf8EncodeChar
  dsimp only
  rw [toNat_val_ofNat hvalid, if_pos h]

namespace Takes

variable {n mark v : Nat}

/-- A character of more than one octet has the digits in front under the mark, and the others behind
it. -/
theorem utf8EncodeChar_eq (h : Takes n mark v) :
    String.utf8EncodeChar (Char.ofNat v) = UInt8.ofNat (v / 64 ^ n + mark) :: followers n v := by
  -- the numbers of each size leave out the halves of surrogate pairs
  have hvalid : v.isValidChar := by
    unfold Nat.isValidChar
    cases h <;> omega
  unfold String.utf8EncodeChar
  dsimp only
  rw [toNat_val_ofNat hvalid]
  cases h with
  | two hlow hhigh =>
    -- the digits in front need no mask, since the number is small enough
    have hfront : v / 64 % 0x20 = v / 64 := by omega
    rw [if_neg (by omega), if_pos hhigh, hfront]
    simp [followers]
  | three hlow hhigh _ =>
    have hfront : v / 4096 % 0x10 = v / 4096 := by omega
    rw [if_neg (by omega), if_neg (by omega), if_pos hhigh, hfront]
    simp [followers]
  | four hlow hhigh =>
    have hfront : v / 262144 % 0x08 = v / 262144 := by omega
    rw [if_neg (by omega), if_neg (by omega), if_neg (by omega), hfront]
    simp [followers]

/-- The first octet of such a character is none that follows another one. -/
theorem first_bounds (h : Takes n mark v) :
    0xC2 ≤ v / 64 ^ n + mark ∧ v / 64 ^ n + mark ≤ 0xF4 := by
  cases h <;> omega

/-- The first octet opens the character, with bounds that the next digit keeps. -/
theorem exists_opens (h : Takes (n + 1) mark v) :
    ∃ low high, firstOctet (v / 64 ^ (n + 1) + mark) = .opens ⟨n, low, high, v / 64 ^ (n + 1)⟩ ∧
      low ≤ v / 64 ^ n % 64 + 0x80 ∧ v / 64 ^ n % 64 + 0x80 ≤ high := by
  unfold firstOctet
  cases h with
  | two hlow hhigh =>
    refine ⟨0x80, 0xBF, ?_, by omega, by omega⟩
    rw [if_neg (by omega), if_pos (by omega), Nat.add_sub_cancel]
  | three hlow hhigh hwhole =>
    rw [if_neg (by omega), if_neg (by omega)]
    by_cases hleast : v / 64 ^ 2 = 0
    · refine ⟨0xA0, 0xBF, ?_, by omega, by omega⟩
      rw [hleast]
      rfl
    rw [if_neg (by omega)]
    -- the halves of surrogate pairs lie behind the other characters with this first octet
    by_cases hhalves : v / 64 ^ 2 = 0xD
    · refine ⟨0x80, 0x9F, ?_, by omega, by omega⟩
      rw [hhalves]
      rfl
    · refine ⟨0x80, 0xBF, ?_, by omega, by omega⟩
      rw [if_neg (by omega), if_pos (by omega), Nat.add_sub_cancel]
  | four hlow hhigh =>
    rw [if_neg (by omega), if_neg (by omega), if_neg (by omega), if_neg (by omega),
      if_neg (by omega)]
    by_cases hleast : v / 64 ^ 3 = 0
    · refine ⟨0x90, 0xBF, ?_, by omega, by omega⟩
      rw [hleast]
      rfl
    rw [if_neg (by omega)]
    by_cases hgreatest : v / 64 ^ 3 = 4
    · refine ⟨0x80, 0x8F, ?_, by omega, by omega⟩
      rw [hgreatest]
      rfl
    · refine ⟨0x80, 0xBF, ?_, by omega, by omega⟩
      rw [if_pos (by omega), Nat.add_sub_cancel]

end Takes

/-- An octet that opens a character is the first one of every character whose next digit keeps the
bounds. The cases are those of `firstOctet`. -/
theorem exists_takes {b n low high v : Nat}
    (h : firstOctet b = .opens ⟨n, low, high, v / 64 ^ (n + 1)⟩)
    (hlow : low ≤ v / 64 ^ n % 64 + 0x80) (hhigh : v / 64 ^ n % 64 + 0x80 ≤ high) :
    ∃ mark, Takes (n + 1) mark v ∧ b = v / 64 ^ (n + 1) + mark := by
  unfold firstOctet at h
  split_ifs at h
  all_goals
    -- the bounds and the digits in front say which of the rows it was
    rw [FirstOctet.opens.injEq, Pending.mk.injEq] at h
    obtain ⟨rfl, rfl, rfl, hv⟩ := h
  · exact ⟨_, .two (by omega) (by omega), by omega⟩
  · exact ⟨_, .three (by omega) (by omega) (by omega), by omega⟩
  · exact ⟨_, .three (by omega) (by omega) (by omega), by omega⟩
  · exact ⟨_, .three (by omega) (by omega) (by omega), by omega⟩
  · exact ⟨_, .four (by omega) (by omega), by omega⟩
  · exact ⟨_, .four (by omega) (by omega), by omega⟩
  · exact ⟨_, .four (by omega) (by omega), by omega⟩

/-- A first octet asks for an octet that follows another one, if for any. -/
theorem bounds_of_firstOctet {b : Nat} {p : Pending} (h : firstOctet b = .opens p) :
    0x80 ≤ p.low ∧ p.high ≤ 0xBF := by
  unfold firstOctet at h
  split_ifs at h
  all_goals
    rw [FirstOctet.opens.injEq] at h
    subst h
    exact ⟨by dsimp only; decide, by dsimp only; decide⟩

/-- An octet that is a character by itself is its number. -/
theorem whole_of_firstOctet {b : Nat} {c : Char} (h : firstOctet b = .whole c) :
    b ≤ 0x7F ∧ c = Char.ofNat b := by
  unfold firstOctet at h
  split_ifs at h with hb
  exact ⟨hb, (FirstOctet.whole.inj h).symm⟩

/-! ### From between characters -/

/-- A character of one octet is read at once. -/
theorem decodeFrom_of_whole {b : UInt8} {c : Char} (h : firstOctet b.toNat = .whole c)
    (rest : List UInt8) : decodeFrom none (b :: rest) = some c :: decodeFrom none rest := by
  rw [decodeFrom, h]

/-- With the first octet of a longer character the reader goes to its middle. -/
theorem decodeFrom_of_opens {b : UInt8} {p : Pending} (h : firstOctet b.toNat = .opens p)
    (rest : List UInt8) : decodeFrom none (b :: rest) = decodeFrom (some p) rest := by
  rw [decodeFrom, h]

/-- An octet with which no character begins is ill-formed by itself. -/
theorem decodeFrom_of_illFormed {b : UInt8} (h : firstOctet b.toNat = .illFormed)
    (rest : List UInt8) : decodeFrom none (b :: rest) = none :: decodeFrom none rest := by
  rw [decodeFrom, h]

/-- The octets of a character are read as that character, whatever follows. -/
theorem decodeFrom_utf8EncodeChar (c : Char) (rest : List UInt8) :
    decodeFrom none (String.utf8EncodeChar c ++ rest) = some c :: decodeFrom none rest := by
  rw [← c.ofNat_toNat]
  rcases takes_cases c with hone | ⟨n, mark, htakes⟩
  · -- one octet
    rw [utf8EncodeChar_of_le hone]
    refine decodeFrom_of_whole ?_ rest
    rw [UInt8.toNat_ofNat_of_lt' (show c.toNat < 256 by omega)]
    exact if_pos hone
  · -- a first octet, with the digits that it leaves behind it
    obtain ⟨low, high, hopens, hlow, hhigh⟩ := htakes.exists_opens
    obtain ⟨-, hfirst⟩ := htakes.first_bounds
    rw [← UInt8.toNat_ofNat_of_lt' (show c.toNat / 64 ^ (n + 1) + mark < 256 by omega)] at hopens
    rw [htakes.utf8EncodeChar_eq, List.cons_append, decodeFrom_of_opens hopens]
    exact (ends_followers hlow hhigh).decodeFrom_eq rest

/-- Where nothing ill-formed is read, there is a character to begin with. -/
theorem exists_character {b : UInt8} {s : List UInt8} (h : none ∉ decodeFrom none (b :: s)) :
    ∃ c rest, b :: s = String.utf8EncodeChar c ++ rest := by
  cases hfirst : firstOctet b.toNat with
  | whole c =>
    obtain ⟨hb, rfl⟩ := whole_of_firstOctet hfirst
    refine ⟨Char.ofNat b.toNat, s, ?_⟩
    rw [utf8EncodeChar_of_le hb, UInt8.ofNat_toNat]
    rfl
  | opens p =>
    obtain ⟨n, low, high, bits⟩ := p
    rw [decodeFrom_of_opens hfirst] at h
    obtain ⟨tail, c, rest, rfl, hends⟩ := exists_ends h
    obtain ⟨hlow, hhigh⟩ := bounds_of_firstOctet hfirst
    -- the digits behind the first octet make a number, whose character this is
    obtain ⟨v, rfl, hl, hh, rfl, rfl⟩ := hends.exists_followers hlow hhigh
    obtain ⟨mark, htakes, hb⟩ := exists_takes hfirst hl hh
    refine ⟨Char.ofNat v, rest, ?_⟩
    rw [htakes.utf8EncodeChar_eq, ← hb, UInt8.ofNat_toNat]
    rfl
  | illFormed =>
    rw [decodeFrom_of_illFormed hfirst] at h
    exact absurd List.mem_cons_self h

/-! ### Texts -/

/-- The octets of a text are read as that text, whatever follows. -/
theorem decodeFrom_octets_append (s : List Char) (rest : List UInt8) :
    decodeFrom none (octets s ++ rest) = s.map some ++ decodeFrom none rest := by
  induction s with
  | nil => rfl
  | cons c s ih =>
    rw [octets, List.flatMap_cons, List.append_assoc, decodeFrom_utf8EncodeChar]
    exact congrArg (some c :: ·) ih

/-- The octets of a text are read as that text. -/
theorem decodeFrom_octets (s : List Char) : decodeFrom none (octets s) = s.map some := by
  have h := decodeFrom_octets_append s []
  rwa [List.append_nil, decodeFrom, List.append_nil] at h

/-- Where nothing ill-formed is read, the octets are those of a text. -/
theorem exists_octets {s : List UInt8} (h : none ∉ decodeFrom none s) : ∃ t, s = octets t := by
  -- characters have more octets than one, so that the induction is on how many there are
  induction hn : s.length using Nat.strongRecOn generalizing s with
  | ind n ih =>
    cases s with
    | nil => exact ⟨[], rfl⟩
    | cons b s =>
      obtain ⟨c, rest, hs⟩ := exists_character h
      rw [hs, decodeFrom_utf8EncodeChar] at h
      have hshorter : rest.length < n := by
        have hpos := List.length_pos_iff.mpr (String.utf8EncodeChar_ne_nil (c := c))
        rw [← hn, hs, List.length_append]
        omega
      obtain ⟨t, rfl⟩ := ih _ hshorter (fun hmem => h (List.mem_cons_of_mem _ hmem)) rfl
      exact ⟨c :: t, hs⟩

/-- **Octets stand for the text whose octets they are**, and for no other. -/
theorem characters?_eq_some_iff (s : List UInt8) (t : List Char) :
    characters? s = some t ↔ octets t = s := by
  rw [characters?_eq_some_iff_decodeFrom]
  constructor
  · intro h
    have hnone : none ∉ decodeFrom none s := by simp [h]
    obtain ⟨u, rfl⟩ := exists_octets hnone
    rw [decodeFrom_octets] at h
    rw [(List.map_inj_right fun _ _ => Option.some.inj).mp h]
  · rintro rfl
    exact decodeFrom_octets t

/-- Different texts have different octets. -/
theorem octets_injective : Function.Injective octets := fun s t h =>
  Option.some.inj <| ((characters?_eq_some_iff _ s).mpr rfl).symm.trans
    ((characters?_eq_some_iff _ t).mpr h.symm)

/-- Octets stand for no text exactly if something ill-formed is read. -/
theorem characters?_eq_none_iff (s : List UInt8) :
    characters? s = none ↔ none ∈ decodeFrom none s := by
  constructor
  · -- otherwise the octets would be those of a text
    intro h
    by_contra hnone
    obtain ⟨t, rfl⟩ := exists_octets hnone
    rw [(characters?_eq_some_iff _ t).mpr rfl] at h
    cases h
  · -- a text has been read without a gap
    intro hmem
    refine Option.eq_none_iff_forall_not_mem.mpr fun t ht => ?_
    rw [(characters?_eq_some_iff_decodeFrom s t).mp ht] at hmem
    simp at hmem

/-! ### Between texts -/

/-- A text does not begin with an octet that follows another one. -/
theorem head_octets {s : List Char} {b : UInt8} (h : b ∈ (octets s).head?) :
    b.toNat < 0x80 ∨ 0xBF < b.toNat := by
  cases s with
  | nil => cases h
  | cons c s =>
    rw [octets, List.flatMap_cons, ← c.ofNat_toNat] at h
    rcases takes_cases c with hone | ⟨n, mark, htakes⟩
    · -- a character of one octet is below the octets that follow
      rw [utf8EncodeChar_of_le hone] at h
      cases h
      rw [UInt8.toNat_ofNat_of_lt' (show c.toNat < 256 by omega)]
      omega
    · -- the first octet of a longer one is above them
      obtain ⟨hleast, hgreatest⟩ := htakes.first_bounds
      rw [htakes.utf8EncodeChar_eq] at h
      cases h
      rw [UInt8.toNat_ofNat_of_lt' (show c.toNat / 64 ^ (n + 1) + mark < 256 by omega)]
      omega

/-- A text is read by itself behind any octets, since it does not go on with a character that these
have begun. -/
theorem decodeFrom_append_octets (s : List UInt8) (t : List Char) (pending : Option Pending)
    (h : ∀ p ∈ pending, 0x80 ≤ p.low ∧ p.high ≤ 0xBF) :
    decodeFrom pending (s ++ octets t) = decodeFrom pending s ++ decodeFrom none (octets t) := by
  induction s generalizing pending with
  | nil =>
    cases pending with
    | none => rfl
    | some p =>
      obtain ⟨hlow, hhigh⟩ := h p rfl
      cases ht : octets t with
      | nil => rfl
      | cons b rest =>
        have hb : b ∈ (octets t).head? := by
          rw [ht]
          rfl
        have hfirst := head_octets hb
        exact decodeFrom_afresh (by omega) rest
  | cons b s ih =>
    -- an octet that cannot come next is read as a first one, so that this case comes first
    have hafresh : decodeFrom none (b :: s ++ octets t)
        = decodeFrom none (b :: s) ++ decodeFrom none (octets t) := by
      rw [List.cons_append]
      cases hfirst : firstOctet b.toNat with
      | whole c =>
        rw [decodeFrom_of_whole hfirst, decodeFrom_of_whole hfirst, ih none nofun]
        rfl
      | opens p =>
        rw [decodeFrom_of_opens hfirst, decodeFrom_of_opens hfirst]
        refine ih _ fun q hq => ?_
        cases hq
        exact bounds_of_firstOctet hfirst
      | illFormed =>
        rw [decodeFrom_of_illFormed hfirst, decodeFrom_of_illFormed hfirst, ih none nofun]
        rfl
    cases pending with
    | none => exact hafresh
    | some p =>
      obtain ⟨owed, low, high, bits⟩ := p
      by_cases hb : low ≤ b.toNat ∧ b.toNat ≤ high
      · cases owed with
        | zero =>
          rw [List.cons_append, decodeFrom_last hb, decodeFrom_last hb, ih none nofun]
          rfl
        | succ owed =>
          rw [List.cons_append, decodeFrom_more hb, decodeFrom_more hb]
          refine ih _ fun q hq => ?_
          cases hq
          exact ⟨Nat.le_refl _, Nat.le_refl _⟩
      · rw [List.cons_append, decodeFrom_afresh hb, decodeFrom_afresh hb]
        exact congrArg (none :: ·) hafresh

/-- **Octets between two texts** stand for what they stand for by themselves, and for nothing if
they stand for nothing. -/
theorem characters?_between (before after : List Char) (s : List UInt8) :
    characters? (octets before ++ s ++ octets after)
      = (characters? s).map fun t => before ++ t ++ after := by
  cases hs : characters? s with
  | some t =>
    -- octets of three texts one after the other
    rw [← (characters?_eq_some_iff s t).mp hs]
    refine (characters?_eq_some_iff _ _).mpr ?_
    rw [octets, List.flatMap_append, List.flatMap_append]
    rfl
  | none =>
    refine (characters?_eq_none_iff _).mpr ?_
    -- what is ill-formed in the middle stays so
    rw [List.append_assoc, decodeFrom_octets_append, decodeFrom_append_octets _ _ none nofun]
    exact List.mem_append_right _ (List.mem_append_left _ ((characters?_eq_none_iff s).mp hs))

end WalletPanel.Text
