import WalletPanel.Proofs.Wire.Outcomes

/-!
# Texts in quotes that are read

A well-formed text in quotes is passed over to its closing quote whatever it holds
(`skipText_inner`). To read it as characters is more: an escape may name half a character, and the
other half has to be named by the escape that follows. So a text may come to an error, and which one
is a matter of the text alone (`settles_text`).

The proof goes over the text from its end, with two statements at each place: one for a reader that
takes a new character there, and one for a reader that has half a character already (`Adds`).
-/

namespace WalletPanel.Wire

namespace Reader

/-! ### Escapes -/

/-- Every hexadecimal digit has a value, whether its letter is small or large. -/
theorem exists_hexValue {c : Char} (h : IsHexDigit c) : ∃ n, Text.hexValue? c = some n := by
  unfold Text.hexValue?
  -- the three rows of the table of digits
  by_cases hd : c.isDigit = true
  · exact ⟨_, if_pos hd⟩
  · rw [if_neg hd]
    by_cases hl : 'a' ≤ c ∧ c ≤ 'f'
    · exact ⟨_, if_pos hl⟩
    · rw [if_neg hl]
      have hu : 'A' ≤ c ∧ c ≤ 'F' := (h.resolve_left hd).resolve_left hl
      exact ⟨_, if_pos hu⟩

/-- A hexadecimal digit takes one octet. -/
theorem utf8Size_of_isHexDigit {c : Char} (h : IsHexDigit c) : c.utf8Size = 1 := by
  -- the digits are all in ASCII
  have hc : c.toNat < 0x80 := by
    rcases h with hd | ⟨-, hf⟩ | ⟨-, hf⟩
    · have : c.toNat ≤ '9'.toNat := (Char.isDigit_iff_toNat.mp hd).2
      exact Nat.lt_of_le_of_lt this (by decide)
    · have : c.toNat ≤ 'f'.toNat := hf
      exact Nat.lt_of_le_of_lt this (by decide)
    · have : c.toNat ≤ 'F'.toNat := hf
      exact Nat.lt_of_le_of_lt this (by decide)
  unfold Char.utf8Size
  exact if_pos (Nat.le_of_lt_succ hc)

/-- Four hexadecimal digits are read whatever follows them. -/
theorem fourDigits_hex {ds : List Char} (hl : ds.length = 4) (hd : ∀ c ∈ ds, IsHexDigit c) :
    ∃ n, ∀ rest, fourDigits (ds ++ rest) = .ok n rest := by
  -- four digits by name: their octets are as many as they are
  match ds, hl with
  | [a, b, c, d], _ =>
    have ha := hd a (by simp)
    have hb := hd b (by simp)
    have hc := hd c (by simp)
    have hd' := hd d (by simp)
    obtain ⟨i, hi⟩ := exists_hexValue ha
    obtain ⟨j, hj⟩ := exists_hexValue hb
    obtain ⟨k, hk⟩ := exists_hexValue hc
    obtain ⟨l, hl⟩ := exists_hexValue hd'
    refine ⟨((16 * i + j) * 16 + k) * 16 + l, fun rest => ?_⟩
    have hcount : Text.octetCount [a, b, c, d] = 4 := by
      simp only [Text.octetCount, utf8Size_of_isHexDigit ha, utf8Size_of_isHexDigit hb,
        utf8Size_of_isHexDigit hc, utf8Size_of_isHexDigit hd']
    have hvalues : [a, b, c, d].mapM Text.hexValue? = some [i, j, k, l] := by
      simp [hi, hj, hk, hl]
    have htake : ([a, b, c, d] ++ rest).take 4 = [a, b, c, d] := rfl
    unfold fourDigits
    rw [htake, hcount, if_neg (by decide), hvalues]
    rfl

/-- A letter that may follow a backslash stands for a character. -/
theorem exists_escapedCharacter {c : Char} (h : c ∈ ['"', '\\', '/', 'b', 'f', 'n', 'r', 't']) :
    c.utf8Size = 1 ∧ c ≠ 'u' ∧ ∃ d, escapedCharacter? c = some d := by
  simp only [List.mem_cons, List.not_mem_nil, or_false] at h
  rcases h with rfl | rfl | rfl | rfl | rfl | rfl | rfl | rfl <;>
    exact ⟨rfl, by decide, _, rfl⟩

/-- The rest of a character whose first half is `n`. -/
def secondHalf (n : Nat) : Reader Char := do
  expectHalf '\\'
  expectHalf 'u'
  let m ← fourDigits
  if !isLowHalf m then throw .loneSurrogate
  pure (Char.ofNat (0x10000 + (n - 0xD800) * 0x400 + (m - 0xDC00)))

/-- Half a character has to be followed by an escape by number. -/
theorem expectHalf_of_eq {c : Char} (hc : c.utf8Size = 1) (s : List Char) :
    expectHalf c (c :: s) = .ok () s := by
  unfold expectHalf
  rw [bind_of_ok (nextMark_cons hc s), if_pos rfl]
  rfl

/-- Anything else in this place leaves half a character. -/
theorem expectHalf_of_ne {c d : Char} (h : d ≠ c) (s : List Char) :
    ∃ left, expectHalf c (d :: s) = .error .unfinishedSurrogate left := by
  have hn : nextMark (d :: s) = .ok d (afterOctets 1 (d :: s)) := rfl
  unfold expectHalf
  rw [bind_of_ok hn, if_neg h]
  exact ⟨_, rfl⟩

/-- An escape by number that names a character by itself, the first half of one, or the second. -/
theorem numberedCharacter_cases {n : Nat} {ds : List Char}
    (h : ∀ rest, fourDigits (ds ++ rest) = .ok n rest) :
    (∀ rest, numberedCharacter (ds ++ rest) = .error .loneSurrogate rest) ∨
    (∀ rest, numberedCharacter (ds ++ rest) = secondHalf n rest) ∨
    ∀ rest, numberedCharacter (ds ++ rest) = .ok (Char.ofNat n) rest := by
  -- the numbers of second halves, of first halves and of characters lie apart
  cases hl : isLowHalf n with
  | true =>
    refine Or.inl fun rest => ?_
    rw [numberedCharacter, bind_of_ok (h rest), hl]
    rfl
  | false =>
    cases hh : isHighHalf n with
    | true =>
      refine Or.inr (Or.inl fun rest => ?_)
      rw [numberedCharacter, bind_of_ok (h rest), hl, hh]
      rfl
    | false =>
      refine Or.inr (Or.inr fun rest => ?_)
      rw [numberedCharacter, bind_of_ok (h rest), hl, hh]
      rfl

/-- The second half of a character behind the first one, or the wrong number there. -/
theorem secondHalf_cases {m : Nat} {ds : List Char}
    (h : ∀ rest, fourDigits (ds ++ rest) = .ok m rest) (n : Nat) :
    (∀ rest, secondHalf n ('\\' :: 'u' :: (ds ++ rest)) = .error .loneSurrogate rest) ∨
    ∃ d, ∀ rest, secondHalf n ('\\' :: 'u' :: (ds ++ rest)) = .ok d rest := by
  -- both marks of the escape are there, and it is its number that decides
  have hstart : ∀ rest, secondHalf n ('\\' :: 'u' :: (ds ++ rest))
      = (do if !isLowHalf m then throw .loneSurrogate
            pure (Char.ofNat (0x10000 + (n - 0xD800) * 0x400 + (m - 0xDC00))) : Reader Char)
        rest := by
    intro rest
    calc secondHalf n ('\\' :: 'u' :: (ds ++ rest))
        = (expectHalf 'u' >>= _) ('u' :: (ds ++ rest)) := bind_of_ok (expectHalf_of_eq rfl _)
      _ = (fourDigits >>= _) (ds ++ rest) := bind_of_ok (expectHalf_of_eq rfl _)
      _ = _ := bind_of_ok (h rest)
  cases hl : isLowHalf m with
  | true =>
    refine Or.inr ⟨Char.ofNat (0x10000 + (n - 0xD800) * 0x400 + (m - 0xDC00)), fun rest => ?_⟩
    rw [hstart, hl]
    rfl
  | false =>
    refine Or.inl fun rest => ?_
    rw [hstart, hl]
    rfl

/-- An escape by number is one character of a text, or none if it names half of one. -/
theorem textFrom_numbered (fuel : Nat) (done t : List Char) :
    textFrom (fuel + 1) done ('\\' :: 'u' :: t)
      = (do let d ← numberedCharacter; textFrom fuel (d :: done) : Reader (List Char)) t := by
  have hn : nextInText ('\\' :: 'u' :: t) = .ok '\\' ('u' :: t) := rfl
  have he : escaped ('u' :: t) = numberedCharacter t := bind_of_ok (nextMark_cons rfl t)
  rw [textFrom, bind_of_ok hn, if_neg (by decide), if_pos rfl]
  exact bind_congr he

/-! ### Texts -/

/-- Up to the quote behind `s`, the reader adds `x` to what has been gathered before. It is given a
number of turns and what has been gathered, the last character first. -/
def Adds (r : Nat → List Char → Reader (List Char)) (s : List Char)
    (x : Except Error (List Char)) : Prop :=
  ∀ fuel done rest, s.length < fuel →
    (r fuel done).Comes (s ++ '"' :: rest) (x.map (done.reverse ++ ·)) rest

/-- What a reader comes to that has half a character already. -/
def textFromHalf (n fuel : Nat) (done : List Char) : Reader (List Char) := do
  let d ← secondHalf n
  textFrom fuel (d :: done)

/-- A reader that goes on as another one does adds what that one adds. -/
theorem Adds.of_eq {r r' : Nat → List Char → Reader (List Char)} {s t : List Char}
    {x : Except Error (List Char)} (h : Adds r' t x)
    (he : ∀ fuel, s.length < fuel → ∃ fuel', t.length < fuel' ∧
      ∀ done rest, r fuel done (s ++ '"' :: rest) = r' fuel' done (t ++ '"' :: rest)) :
    Adds r s x := by
  intro fuel done rest hf
  obtain ⟨fuel', hf', he⟩ := he fuel hf
  exact (h fuel' done rest hf').of_eq (he done rest)

/-- Another character before what is added. -/
theorem Adds.cons {s : List Char} {x : Except Error (List Char)} (h : Adds textFrom s x)
    (d : Char) : Adds (fun fuel done => textFrom fuel (d :: done)) s (x.map (d :: ·)) := by
  intro fuel done rest hf
  have hx : (x.map (d :: ·)).map (done.reverse ++ ·) = x.map ((d :: done).reverse ++ ·) := by
    cases x with
    | error e => rfl
    | ok cs =>
      refine congrArg Except.ok ?_
      simp
  rw [hx]
  exact h fuel (d :: done) rest hf

/-- A reader that ends in an error adds nothing. -/
theorem adds_error {r : Nat → List Char → Reader (List Char)} {s : List Char} {e : Error}
    (h : ∀ fuel done rest, s.length < fuel →
      ∃ left, r fuel done (s ++ '"' :: rest) = .error e left) : Adds r s (.error e) :=
  fun fuel done rest hf => h fuel done rest hf

/-- Half a character with something else behind it than the escape it needs. -/
theorem adds_half_error {n : Nat} {s : List Char} {e : Error}
    (h : ∀ rest, ∃ left, secondHalf n (s ++ '"' :: rest) = .error e left) :
    Adds (textFromHalf n) s (.error e) := by
  refine adds_error fun fuel done rest _ => ?_
  obtain ⟨left, hl⟩ := h rest
  exact ⟨left, bind_of_error hl⟩

/-- A text that ends behind half a character. -/
theorem adds_half_nil (n : Nat) : Adds (textFromHalf n) [] (.error .unfinishedSurrogate) := by
  refine adds_half_error fun rest => ?_
  obtain ⟨left, hl⟩ := expectHalf_of_ne (c := '\\') (d := '"') (by decide) rest
  exact ⟨left, bind_of_error hl⟩

/-- A character as it is, behind half a character. -/
theorem adds_half_plain (n : Nat) {c : Char} (hc : c ≠ '\\') (s : List Char) :
    Adds (textFromHalf n) (c :: s) (.error .unfinishedSurrogate) := by
  refine adds_half_error fun rest => ?_
  obtain ⟨left, hl⟩ := expectHalf_of_ne hc (s ++ '"' :: rest)
  exact ⟨left, bind_of_error hl⟩

/-- An escape by a letter, behind half a character. -/
theorem adds_half_letter (n : Nat) {c : Char} (hc : c ≠ 'u') (s : List Char) :
    Adds (textFromHalf n) ('\\' :: c :: s) (.error .unfinishedSurrogate) := by
  refine adds_half_error fun rest => ?_
  obtain ⟨left, hl⟩ := expectHalf_of_ne hc (s ++ '"' :: rest)
  refine ⟨left, ?_⟩
  calc secondHalf n ('\\' :: c :: (s ++ '"' :: rest))
      = (expectHalf 'u' >>= _) (c :: (s ++ '"' :: rest)) := bind_of_ok (expectHalf_of_eq rfl _)
    _ = .error .unfinishedSurrogate left := bind_of_error hl

/-- A number of turns that is greater than another number is some number and one more. -/
theorem exists_turn {m fuel : Nat} (h : m < fuel) : ∃ fuel', fuel = fuel' + 1 ∧ m ≤ fuel' :=
  ⟨fuel - 1, by omega, by omega⟩

/-- Where an escape by number ends, and what follows it. -/
theorem number_append (ds s rest : List Char) :
    '\\' :: 'u' :: (ds ++ s) ++ '"' :: rest = '\\' :: 'u' :: (ds ++ (s ++ '"' :: rest)) := by
  rw [List.cons_append, List.cons_append, List.append_assoc]

/-- An escape by number is longer than what follows it, so that turns are left for that. -/
theorem length_lt_number (ds s : List Char) : s.length < ('\\' :: 'u' :: (ds ++ s)).length := by
  simp only [List.length_cons, List.length_append]
  omega

/-- An escape by number is that of a second half, of a first half or of a character. -/
theorem adds_number {ds s : List Char} (count : ds.length = 4) (digits : ∀ c ∈ ds, IsHexDigit c)
    (hs : ∃ x, Adds textFrom s x) (hhalf : ∀ n, ∃ x, Adds (textFromHalf n) s x) :
    ∃ x, Adds textFrom ('\\' :: 'u' :: (ds ++ s)) x := by
  obtain ⟨n, hn⟩ := fourDigits_hex count digits
  have hlen := length_lt_number ds s
  have hstart : ∀ fuel done rest,
      textFrom (fuel + 1) done ('\\' :: 'u' :: (ds ++ s) ++ '"' :: rest)
        = (do let d ← numberedCharacter; textFrom fuel (d :: done) : Reader (List Char))
          (ds ++ (s ++ '"' :: rest)) := by
    intro fuel done rest
    rw [number_append, textFrom_numbered]
  -- a second half by itself, a first half that waits for it, a whole character
  rcases numberedCharacter_cases hn with hc | hc | hc
  · refine ⟨.error .loneSurrogate, adds_error fun fuel done rest hf => ?_⟩
    obtain ⟨fuel, rfl, -⟩ := exists_turn hf
    refine ⟨s ++ '"' :: rest, ?_⟩
    rw [hstart, bind_of_error (hc _)]
  · obtain ⟨x, hx⟩ := hhalf n
    refine ⟨x, hx.of_eq fun fuel hf => ?_⟩
    obtain ⟨fuel, rfl, hle⟩ := exists_turn hf
    refine ⟨fuel, Nat.lt_of_lt_of_le hlen hle, fun done rest => ?_⟩
    rw [hstart]
    exact bind_congr (hc _)
  · obtain ⟨x, hx⟩ := hs
    refine ⟨_, (hx.cons (Char.ofNat n)).of_eq fun fuel hf => ?_⟩
    obtain ⟨fuel, rfl, hle⟩ := exists_turn hf
    refine ⟨fuel, Nat.lt_of_lt_of_le hlen hle, fun done rest => ?_⟩
    rw [hstart, bind_of_ok (hc _)]

/-- Behind half a character, an escape by number is the other half or is not. -/
theorem adds_half_number {ds s : List Char} (count : ds.length = 4)
    (digits : ∀ c ∈ ds, IsHexDigit c) (hs : ∃ x, Adds textFrom s x) (m : Nat) :
    ∃ x, Adds (textFromHalf m) ('\\' :: 'u' :: (ds ++ s)) x := by
  obtain ⟨n, hn⟩ := fourDigits_hex count digits
  -- the other half, or a number that is none
  rcases secondHalf_cases hn m with hc | ⟨d, hc⟩
  · refine ⟨.error .loneSurrogate, adds_half_error fun rest => ⟨s ++ '"' :: rest, ?_⟩⟩
    rw [number_append]
    exact hc _
  · obtain ⟨x, hx⟩ := hs
    refine ⟨_, (hx.cons d).of_eq fun fuel hf =>
      ⟨fuel, Nat.lt_trans (length_lt_number ds s) hf, fun done rest => ?_⟩⟩
    rw [number_append]
    exact bind_of_ok (hc _)

/-- **What a text adds** to what has been gathered before it. -/
theorem adds_textFrom {s : List Char} (h : IsInner s) :
    (∃ x, Adds textFrom s x) ∧ ∀ n, ∃ x, Adds (textFromHalf n) s x := by
  -- over the text from its end: what follows an escape by number may be the other half
  induction h with
  | nil =>
    refine ⟨⟨.ok [], fun fuel done rest hf => ?_⟩, fun n => ⟨_, adds_half_nil n⟩⟩
    obtain ⟨fuel, rfl, -⟩ := exists_turn hf
    change textFrom (fuel + 1) done ('"' :: rest) = .ok (done.reverse ++ []) rest
    rw [List.append_nil]
    rfl
  | @plain c s quote backslash control more ih =>
    obtain ⟨x, hx⟩ := ih.1
    refine ⟨⟨_, (hx.cons c).of_eq fun fuel hf => ?_⟩, fun n => ⟨_, adds_half_plain n backslash s⟩⟩
    obtain ⟨fuel, rfl, hle⟩ := exists_turn hf
    exact ⟨fuel, hle, fun done rest => textFrom_plain quote backslash (Nat.not_lt.mpr control) ..⟩
  | @letter c s named more ih =>
    obtain ⟨hsize, hu, d, hd⟩ := exists_escapedCharacter named
    obtain ⟨x, hx⟩ := ih.1
    refine ⟨⟨_, (hx.cons d).of_eq fun fuel hf => ?_⟩, fun n => ⟨_, adds_half_letter n hu s⟩⟩
    obtain ⟨fuel, rfl, hle⟩ := exists_turn hf
    refine ⟨fuel, Nat.lt_of_succ_le (Nat.le_of_succ_le hle), fun done rest => ?_⟩
    exact textFrom_escaped (escaped_letter hd hsize (s ++ '"' :: rest)) fuel done
  | number count digits more ih =>
    exact ⟨adds_number count digits ih.1 ih.2, adds_half_number count digits ih.1⟩

/-- **A text in quotes**, whose opening quote has been passed, comes to one thing whatever follows.
-/
theorem settles_text {s : List Char} (h : IsInner s) : text.Settles (s ++ ['"']) := by
  obtain ⟨x, hx⟩ := (adds_textFrom h).1
  have hy : text.Yields (s ++ ['"']) (x.map String.ofList) := by
    intro rest _
    have hs : s ++ ['"'] ++ rest = s ++ '"' :: rest := by
      rw [List.append_assoc]
      rfl
    -- there are as many turns as characters, and one more
    have hfuel : s.length < (s ++ '"' :: rest).length + 1 := by
      rw [List.length_append]
      omega
    have hmap : x.map ([].reverse ++ ·) = x := by cases x <;> rfl
    have hc := hx _ [] rest hfuel
    rw [hmap] at hc
    rw [hs]
    exact (hc.map String.ofList).of_eq (bind_get _)
  exact hy.settles

/-! ### Passing over -/

/-- A text is passed over whether or not it can be read. -/
theorem skipTextFrom_inner {s : List Char} (h : IsInner s) {fuel : Nat} (hf : s.length < fuel)
    (rest : List Char) : skipTextFrom fuel (s ++ '"' :: rest) = .ok () rest := by
  -- one turn for each character or escape, which are not looked at any further
  induction h generalizing fuel with
  | nil =>
    obtain ⟨fuel, rfl, -⟩ := exists_turn hf
    rfl
  | @plain c s quote backslash control more ih =>
    obtain ⟨fuel, rfl, hle⟩ := exists_turn hf
    have hn : nextInText (c :: (s ++ '"' :: rest)) = .ok c (s ++ '"' :: rest) := rfl
    rw [List.cons_append, skipTextFrom, bind_of_ok hn, if_neg quote, if_neg backslash,
      if_neg (Nat.not_lt.mpr control)]
    exact ih hle
  | @letter c s named more ih =>
    obtain ⟨fuel, rfl, hle⟩ := exists_turn hf
    obtain ⟨hsize, hu, d, hd⟩ := exists_escapedCharacter named
    have hskip : skipEscaped (c :: (s ++ '"' :: rest)) = .ok () (s ++ '"' :: rest) := by
      rw [skipEscaped, bind_of_ok (nextMark_cons hsize _), hd]
      rfl
    have hn : nextInText ('\\' :: c :: (s ++ '"' :: rest)) = .ok '\\' (c :: (s ++ '"' :: rest)) :=
      rfl
    rw [List.cons_append, List.cons_append, skipTextFrom, bind_of_ok hn, if_neg (by decide),
      if_pos rfl, bind_of_ok hskip]
    exact ih (Nat.lt_of_succ_le (Nat.le_of_succ_le hle))
  | @number ds s count digits more ih =>
    obtain ⟨fuel, rfl, hle⟩ := exists_turn hf
    obtain ⟨n, hn⟩ := fourDigits_hex count digits
    have hskip : skipEscaped ('u' :: (ds ++ (s ++ '"' :: rest))) = .ok () (s ++ '"' :: rest) :=
      calc skipEscaped ('u' :: (ds ++ (s ++ '"' :: rest)))
          = (fourDigits >>= _) (ds ++ (s ++ '"' :: rest)) := bind_of_ok (nextMark_cons rfl _)
        _ = .ok () (s ++ '"' :: rest) := bind_of_ok (hn _)
    have hc : nextInText ('\\' :: 'u' :: (ds ++ (s ++ '"' :: rest)))
        = .ok '\\' ('u' :: (ds ++ (s ++ '"' :: rest))) := rfl
    have hlen : s.length < fuel := by
      simp only [List.length_cons, List.length_append] at hle
      omega
    rw [List.cons_append, List.cons_append, List.append_assoc, skipTextFrom, bind_of_ok hc,
      if_neg (by decide), if_pos rfl, bind_of_ok hskip]
    exact ih hlen

/-- A text is passed over up to its closing quote. -/
theorem skipText_inner {s : List Char} (h : IsInner s) (rest : List Char) :
    skipText (s ++ '"' :: rest) = .ok () rest := by
  have hfuel : s.length < (s ++ '"' :: rest).length + 1 := by
    rw [List.length_append]
    omega
  rw [skipText, bind_get]
  exact skipTextFrom_inner h hfuel rest

end Reader

end WalletPanel.Wire
