import Mathlib.Tactic.SplitIfs
import WalletPanel.Wire.Text

/-!
# Texts that are read back

A reader of the wire form is run on what was written, with more behind it. What it takes off the
front is stated for one step at a time: a reader that goes on with the rest of another one
(`bind_of_ok`), one mark (`peek_cons`, `advance_cons`), one character of a text
(`textFrom_escape`). From there a text that was written is read back whatever it holds
(`text_write`).
-/

namespace WalletPanel.Wire.Reader

variable {α β : Type}

/-! ### Single steps -/

/-- A reader goes on where the reader before it has stopped. -/
theorem bind_of_ok {x : Reader α} {f : α → Reader β} {s t : List Char} {a : α}
    (h : x s = .ok a t) : (x >>= f) s = f a t := by
  change EStateM.bind x f s = f a t
  unfold EStateM.bind
  rw [h]

/-- A reader may look at all that is left: this is how it knows how many turns are enough. -/
theorem bind_get {f : List Char → Reader β} (s : List Char) : (get >>= f) s = f s s := rfl

/-- What is no blank is what is shown next. -/
theorem peek_cons {c : Char} (h : isSpace c = false) (s : List Char) :
    peek (c :: s) = .ok (some c) (c :: s) := by
  unfold peek
  rw [List.dropWhile_cons, h]
  rfl

/-- A character of one octet is passed in one step. -/
theorem advance_cons {c : Char} (h : c.utf8Size = 1) (s : List Char) :
    advance (c :: s) = .ok () s := by
  unfold advance
  rw [afterOctets_one_cons, if_pos h]

/-- What has to be one octet is taken as a character if it is one. -/
theorem nextMark_cons {c : Char} (h : c.utf8Size = 1) (s : List Char) :
    nextMark (c :: s) = .ok c s := by
  unfold nextMark
  rw [afterOctets_one_cons, if_pos h]

/-! ### Escapes -/

/-- The digits of an octet are read back as the number that it is. -/
theorem fourDigits_octet {n : Nat} (hn : n < 256) (s : List Char) :
    fourDigits ('0' :: '0' :: Text.hexDigit (n / 16) :: Text.hexDigit (n % 16) :: s)
      = .ok n s := by
  have hhigh : n / 16 < 16 := by omega
  have hlow : n % 16 < 16 := by omega
  -- every digit is a character of one octet, so that four characters are four octets
  have hsize : ∀ d < 16, (Text.hexDigit d).utf8Size = 1 := by decide
  have hzero : Text.hexValue? '0' = some 0 := rfl
  have hcount : Text.octetCount ['0', '0', Text.hexDigit (n / 16), Text.hexDigit (n % 16)] = 4 := by
    simp only [Text.octetCount, hsize _ hhigh, hsize _ hlow]
    rfl
  have hvalues : ['0', '0', Text.hexDigit (n / 16), Text.hexDigit (n % 16)].mapM Text.hexValue?
      = some [0, 0, n / 16, n % 16] := by
    simp [hzero, Text.hexValue?_hexDigit _ hhigh, Text.hexValue?_hexDigit _ hlow]
  -- the two digits in front are zeros and add nothing
  have hvalue : ((16 * 0 + 0) * 16 + n / 16) * 16 + n % 16 = n := by omega
  unfold fourDigits
  have htake : ('0' :: '0' :: Text.hexDigit (n / 16) :: Text.hexDigit (n % 16) :: s).take 4
      = ['0', '0', Text.hexDigit (n / 16), Text.hexDigit (n % 16)] := rfl
  rw [htake, hcount, if_neg (by decide), hvalues]
  dsimp only
  rw [hvalue]
  rfl

/-- The three ways in which a character is written: by a letter that stands for it, by its number,
or as it is. -/
theorem escape_cases (c : Char) :
    (∃ d, escape c = ['\\', d] ∧ escapedCharacter? d = some c ∧ d.utf8Size = 1) ∨
    (escape c = ['\\', 'u', '0', '0', Text.hexDigit (c.toNat / 16), Text.hexDigit (c.toNat % 16)] ∧
      c.toNat < 0x20) ∨
    (escape c = [c] ∧ c ≠ '"' ∧ c ≠ '\\' ∧ ¬ c.toNat < 0x20) := by
  unfold escape
  -- seven characters have a letter; of the others the control characters are numbered
  split_ifs with h1 h2 h3 h4 h5 h6 h7 h8
  · exact Or.inl ⟨'"', rfl, by rw [h1]; rfl, rfl⟩
  · exact Or.inl ⟨'\\', rfl, by rw [h2]; rfl, rfl⟩
  · exact Or.inl ⟨'b', rfl, by rw [h3]; rfl, rfl⟩
  · exact Or.inl ⟨'f', rfl, by rw [h4]; rfl, rfl⟩
  · exact Or.inl ⟨'n', rfl, by rw [h5]; rfl, rfl⟩
  · exact Or.inl ⟨'r', rfl, by rw [h6]; rfl, rfl⟩
  · exact Or.inl ⟨'t', rfl, by rw [h7]; rfl, rfl⟩
  · exact Or.inr (Or.inl ⟨rfl, h8⟩)
  · exact Or.inr (Or.inr ⟨rfl, h1, h2, h8⟩)

/-- Behind a backslash, a letter stands for the character that it names. -/
theorem escaped_letter {c d : Char} (h : escapedCharacter? d = some c) (hd : d.utf8Size = 1)
    (s : List Char) : escaped (d :: s) = .ok c s := by
  unfold escaped
  rw [bind_of_ok (nextMark_cons hd s), h]
  rfl

/-- A control character that has no letter of its own is read back by its number. -/
theorem escaped_number {c : Char} (h : c.toNat < 0x20) (s : List Char) :
    escaped ('u' :: '0' :: '0' :: Text.hexDigit (c.toNat / 16) :: Text.hexDigit (c.toNat % 16) :: s)
      = .ok c s := by
  have hn : numberedCharacter
      ('0' :: '0' :: Text.hexDigit (c.toNat / 16) :: Text.hexDigit (c.toNat % 16) :: s)
        = .ok c s := by
    have hlow : isLowHalf c.toNat = false := by
      unfold isLowHalf
      simp
      omega
    have hhigh : isHighHalf c.toNat = false := by
      unfold isHighHalf
      simp
      omega
    -- no control character is half of another character
    unfold numberedCharacter
    rw [bind_of_ok (fourDigits_octet (by omega) s), hlow, hhigh]
    exact congrArg (EStateM.Result.ok · s) (Char.ofNat_toNat c)
  exact hn

/-! ### Characters -/

/-- A character that needs no escape is gathered as it is. -/
theorem textFrom_plain {c : Char} (hq : c ≠ '"') (hb : c ≠ '\\') (hc : ¬ c.toNat < 0x20)
    (fuel : Nat) (done s : List Char) :
    textFrom (fuel + 1) done (c :: s) = textFrom fuel (c :: done) s := by
  have hn : nextInText (c :: s) = .ok c s := rfl
  rw [textFrom, bind_of_ok hn, if_neg hq, if_neg hb, if_neg hc]

/-- Where `escaped` has found a character behind a backslash, it is gathered. -/
theorem textFrom_escaped {c : Char} {s t : List Char} (h : escaped s = .ok c t) (fuel : Nat)
    (done : List Char) : textFrom (fuel + 1) done ('\\' :: s) = textFrom fuel (c :: done) t := by
  have hn : nextInText ('\\' :: s) = .ok '\\' s := rfl
  rw [textFrom, bind_of_ok hn, if_neg (by decide), if_pos rfl, bind_of_ok h]

/-- **One character** that was written is read back as itself. -/
theorem textFrom_escape (c : Char) (fuel : Nat) (done s : List Char) :
    textFrom (fuel + 1) done (escape c ++ s) = textFrom fuel (c :: done) s := by
  rcases escape_cases c with ⟨d, he, hd, hs⟩ | ⟨he, hc⟩ | ⟨he, hq, hb, hc⟩
  · rw [he]
    exact textFrom_escaped (escaped_letter hd hs s) fuel done
  · rw [he]
    exact textFrom_escaped (escaped_number hc s) fuel done
  · rw [he]
    exact textFrom_plain hq hb hc fuel done s

/-! ### Texts -/

/-- The characters of a text, with turns to spare for each of them. -/
theorem textFrom_write {cs : List Char} {fuel : Nat} (h : cs.length < fuel) (done s : List Char) :
    textFrom fuel done (cs.flatMap escape ++ '"' :: s) = .ok (done.reverse ++ cs) s := by
  -- `done` has the characters before, the last one first, and each character takes one turn
  induction cs generalizing fuel done with
  | nil =>
    obtain ⟨fuel, rfl⟩ := Nat.exists_eq_add_one_of_ne_zero (Nat.ne_of_gt h)
    rw [List.append_nil]
    rfl
  | cons c cs ih =>
    have hpos : 0 < fuel := Nat.zero_lt_of_lt h
    obtain ⟨fuel, rfl⟩ := Nat.exists_eq_add_one_of_ne_zero (Nat.ne_of_gt hpos)
    rw [List.flatMap_cons, List.append_assoc, textFrom_escape,
      ih (Nat.lt_of_succ_lt_succ h), List.reverse_cons, List.append_assoc]
    rfl

/-- Writing shortens nothing. -/
theorem length_le_flatMap_escape (cs : List Char) : cs.length ≤ (cs.flatMap escape).length := by
  have hone : ∀ c, 1 ≤ (escape c).length := by
    intro c
    rcases escape_cases c with ⟨d, he, -⟩ | ⟨he, -⟩ | ⟨he, -⟩
    all_goals
      rw [he]
      exact Nat.le_add_left 1 _
  -- each character gives one character of the written form at least
  induction cs with
  | nil => exact Nat.le_refl 0
  | cons c cs ih =>
    have := hone c
    rw [List.flatMap_cons, List.length_append, List.length_cons]
    omega

/-- **A text that was written** is read back, whatever characters it has and whatever follows it.
The opening quote has been passed. -/
theorem text_write (t : String) (s : List Char) :
    text (t.toList.flatMap escape ++ '"' :: s) = .ok t s := by
  -- the turns are as many as the rest of the text has characters, escapes included
  have hfuel : t.toList.length < (t.toList.flatMap escape ++ '"' :: s).length + 1 := by
    have := length_le_flatMap_escape t.toList
    rw [List.length_append]
    omega
  unfold text
  rw [bind_get, bind_of_ok (textFrom_write hfuel [] s)]
  exact congrArg (EStateM.Result.ok · s) String.ofList_toList

end WalletPanel.Wire.Reader
