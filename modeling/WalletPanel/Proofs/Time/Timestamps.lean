import WalletPanel.Proofs.Text.Numerals
import WalletPanel.Proofs.Text.Trimming
import WalletPanel.Time.Timestamp

/-!
# Timestamps that are read back

Reading takes more than writing gives: short numbers, blanks, other marks and other offsets. On
what was written it comes back to the timestamp all the same (`parse_text`), for every timestamp
that there is: leap seconds, years of any length and of either sign, and fractions of any precision.
Each part is followed over the text by the scan that is made for it, and what the next scan finds is
what the part before has left.
-/

namespace WalletPanel.Timestamp

open Text (padded digitsValue)

/-- What follows a result goes on with it. -/
theorem bind_of_ok {ε α β : Type} {x : Except ε α} {a : α} (h : x = .ok a)
    (f : α → Except ε β) : (x >>= f) = f a := by
  rw [h]
  rfl

/-! ### Numbers -/

/-- How far a scan of a number looks. -/
def reach (width : Option Nat) (s : List Char) : List Char :=
  match width with
  | some w => s.take w
  | none => s

/-- A number whose digits are those in reach. -/
theorem scanNumber_of_reach {width : Option Nat} {ds rest : List Char}
    (hd : ∀ c ∈ ds, c.isDigit = true) (hne : ds ≠ []) (hv : digitsValue ds < Nat.pow 2 63)
    (hreach : (reach width (ds ++ rest)).takeWhile Char.isDigit = ds) :
    scanNumber width (ds ++ rest) = .ok (digitsValue ds, rest) := by
  obtain ⟨c, t, rfl⟩ := List.exists_cons_of_ne_nil hne
  have hc : (!c.isDigit) = false := by rw [hd c List.mem_cons_self]; rfl
  -- the scan as it is for a text that begins with `c`
  have hscan : scanNumber width (c :: t ++ rest) = if (!c.isDigit) = true then .error .invalid else
      let digits := (reach width (c :: t ++ rest)).takeWhile Char.isDigit
      if digitsValue digits < Nat.pow 2 63 then
        .ok (digitsValue digits, (c :: t ++ rest).drop digits.length)
      else .error .outOfRange := rfl
  rw [hscan, hc, if_neg (by decide), hreach]
  dsimp only
  rw [if_pos hv, List.drop_left]

/-- A number that fills its width, whatever follows. -/
theorem scanNumber_full {width n : Nat} (hw : 0 < width) (hn : n < Nat.pow 10 width)
    (hv : n < Nat.pow 2 63) (rest : List Char) :
    scanNumber (some width) (padded width n ++ rest) = .ok (n, rest) := by
  have hd : ∀ c ∈ padded width n, c.isDigit = true := fun _ => Text.isDigit_of_mem_padded
  have hvalue := Text.digitsValue_padded width n
  have hlen := Text.length_padded hw hn
  have hreach : (reach (some width) (padded width n ++ rest)).takeWhile Char.isDigit
      = padded width n := by
    -- the width ends with the digits, so that it does not matter what follows
    have htake : reach (some width) (padded width n ++ rest) = padded width n ++ [] := by
      rw [reach, List.take_append_of_le_length (Nat.le_of_eq hlen.symm),
        List.take_of_length_le (Nat.le_of_eq hlen), List.append_nil]
    rw [htake]
    exact Text.takeWhile_append hd nofun
  have h := scanNumber_of_reach hd (Text.padded_ne_nil width n) (by rw [hvalue]; exact hv) hreach
  rwa [hvalue] at h

/-- A number that ends where something else than a digit follows. -/
theorem scanNumber_open {width : Option Nat} {k n : Nat} (hw : ∀ w ∈ width, (padded k n).length ≤ w)
    (hv : n < Nat.pow 2 63) {rest : List Char} (hr : ∀ c ∈ rest.head?, c.isDigit = false) :
    scanNumber width (padded k n ++ rest) = .ok (n, rest) := by
  have hd : ∀ c ∈ padded k n, c.isDigit = true := fun _ => Text.isDigit_of_mem_padded
  have hvalue := Text.digitsValue_padded k n
  have hreach : (reach width (padded k n ++ rest)).takeWhile Char.isDigit = padded k n := by
    cases width with
    | none => exact Text.takeWhile_append hd hr
    | some w =>
      -- the width reaches into what follows, which does not begin with a digit
      have htake : reach (some w) (padded k n ++ rest)
          = padded k n ++ rest.take (w - (padded k n).length) := by
        rw [reach, List.take_append, List.take_of_length_le (hw w rfl)]
      rw [htake]
      refine Text.takeWhile_append hd fun c hc => hr c ?_
      rw [List.head?_take] at hc
      split at hc
      · cases hc
      · exact hc
  have h := scanNumber_of_reach hd (Text.padded_ne_nil k n) (by rw [hvalue]; exact hv) hreach
  rwa [hvalue] at h

/-- Where digits stand there are no blanks to pass over. -/
theorem dropWhile_padded (k n : Nat) (rest : List Char) :
    (padded k n ++ rest).dropWhile Text.isBlank = padded k n ++ rest := by
  obtain ⟨c, t, hc⟩ := List.exists_cons_of_ne_nil (Text.padded_ne_nil k n)
  have hd : c.isDigit = true := Text.isDigit_of_mem_padded (by rw [hc]; exact List.mem_cons_self)
  refine Text.dropWhile_of_head fun d h => ?_
  rw [hc] at h
  cases h
  exact Text.isBlank_of_isDigit hd

/-- A field of two digits is read, and is within its bounds. -/
theorem scanWithin_padded {least greatest n : Nat} (hl : least ≤ n) (hg : n ≤ greatest)
    (hn : n < 100) (rest : List Char) :
    scanWithin least greatest (padded 2 n ++ rest) = .ok (n, rest) := by
  have hv : n < Nat.pow 2 63 := Nat.lt_trans hn (by decide)
  have hf : scanField (some 2) (padded 2 n ++ rest) = .ok (n, rest) := by
    rw [scanField, dropWhile_padded]
    exact scanNumber_full (by decide) hn hv rest
  rw [scanWithin, bind_of_ok hf]
  exact if_pos ⟨hl, hg⟩

/-- A mark that is no blank is found where it stands. -/
theorem scanMark_cons {c : Char} (h : Text.isBlank c = false) (rest : List Char) :
    scanMark c (c :: rest) = .ok ((), rest) := by
  unfold scanMark
  rw [List.dropWhile_cons, h]
  exact if_pos rfl

/-! ### Years and fractions -/

/-- A year is read with the dash behind it, by which one that has a sign ends. -/
theorem scanYear_yearText {year : Int} (hl : Date.minYear ≤ year) (hu : year ≤ Date.maxYear)
    (rest : List Char) :
    scanYear (yearText year ++ '-' :: rest) = .ok (year, '-' :: rest) := by
  have hnum : year.natAbs < Nat.pow 2 63 := by
    have : Nat.pow 2 63 = 9223372036854775808 := by decide
    unfold Date.minYear at hl
    unfold Date.maxYear at hu
    omega
  have hbounds : -Nat.pow 2 31 ≤ year ∧ year < Nat.pow 2 31 := by
    have : Nat.pow 2 31 = 2147483648 := by decide
    unfold Date.minYear at hl
    unfold Date.maxYear at hu
    omega
  -- whichever way the year has been read, it is then held to the size of a word
  have hword : ∀ y : Int, y = year → (if -Nat.pow 2 31 ≤ y ∧ y < Nat.pow 2 31 then
      Except.ok (y, '-' :: rest) else .error ParseError.outOfRange) = .ok (year, '-' :: rest) := by
    rintro y rfl
    exact if_pos hbounds
  unfold scanYear yearText
  by_cases hs : 0 ≤ year ∧ year ≤ 9999
  · -- four digits without a sign
    have hfour : year.toNat < 10000 := by omega
    have hscan : scanNumber (some 4) (padded 4 year.toNat ++ '-' :: rest)
        = .ok (year.toNat, '-' :: rest) :=
      scanNumber_full (by decide) hfour (by omega) _
    -- it begins with a digit, so that it is not taken for one with a sign
    have hsign : ∀ (c : Char) (s : List Char), padded 4 year.toNat ++ '-' :: rest = c :: s →
        c.isDigit = true := by
      intro c s h
      obtain ⟨d, t, hd⟩ := List.exists_cons_of_ne_nil (Text.padded_ne_nil 4 year.toNat)
      rw [hd, List.cons_append] at h
      rw [← (List.cons.inj h).1]
      exact Text.isDigit_of_mem_padded (by rw [hd]; exact List.mem_cons_self)
    rw [if_pos hs, dropWhile_padded]
    dsimp only
    split
    · next s h => exact absurd (hsign _ s h) (by decide)
    · next s h => exact absurd (hsign _ s h) (by decide)
    · rw [bind_of_ok hscan]
      refine Eq.trans (bind_of_ok rfl _) ?_
      dsimp only
      exact hword (Int.ofNat year.toNat) (Int.toNat_of_nonneg hs.1)
  · have hscan : scanNumber none (padded 4 year.natAbs ++ '-' :: rest)
        = .ok (year.natAbs, '-' :: rest) := by
      refine scanNumber_open (fun _ h => by cases h) hnum fun c hc => ?_
      cases hc
      rfl
    rw [if_neg hs]
    by_cases hneg : year < 0
    · have hyear : -Int.ofNat year.natAbs = year := by
        have habs : Int.ofNat year.natAbs = -year := Int.ofNat_natAbs_of_nonpos (Int.le_of_lt hneg)
        rw [habs, Int.neg_neg]
      -- a sign of its own
      rw [if_pos hneg]
      change (scanNumber none (padded 4 year.natAbs ++ '-' :: rest) >>= _) = _
      rw [bind_of_ok hscan]
      refine Eq.trans (bind_of_ok rfl _) ?_
      dsimp only
      exact hword (-Int.ofNat year.natAbs) hyear
    · -- more digits than four, with a sign that says so
      rw [if_neg hneg]
      change (scanNumber none (padded 4 year.natAbs ++ '-' :: rest) >>= _) = _
      rw [bind_of_ok hscan]
      refine Eq.trans (bind_of_ok rfl _) ?_
      dsimp only
      exact hword (Int.ofNat year.natAbs) (Int.natAbs_of_nonneg (Int.not_lt.mp hneg))

/-- A fraction with the offset behind it. -/
theorem scanFraction_padded {k n : Nat} (hk : 0 < k) (hk9 : k ≤ 9) (hn : n < Nat.pow 10 k) :
    scanFraction ('.' :: padded k n ++ ['Z']) = .ok (n * Nat.pow 10 (9 - k), ['Z']) := by
  have hlen := Text.length_padded hk hn
  have hv : n < Nat.pow 2 63 := by
    have hp : Nat.pow 10 k ≤ Nat.pow 10 9 := Nat.pow_le_pow_right (by decide) hk9
    exact Nat.lt_trans (Nat.lt_of_lt_of_le hn hp) (by decide)
  have hscan : scanNumber (some 9) (padded k n ++ ['Z']) = .ok (n, ['Z']) := by
    refine scanNumber_open (fun w hw => ?_) hv fun c hc => ?_
    · cases hw
      rw [hlen]
      exact hk9
    · cases hc
      rfl
  -- how many digits there were is told by how much shorter the text has become
  have hcount : (padded k n ++ ['Z']).length - ['Z'].length = k := by
    rw [List.length_append, hlen]
    omega
  have hf : scanFraction ('.' :: padded k n ++ ['Z'])
      = .ok (n * Nat.pow 10 (9 - ((padded k n ++ ['Z']).length - ['Z'].length)), ['Z']) :=
    bind_of_ok hscan _
  rw [hf, hcount]

/-- A fraction of three, six or nine digits is read to the nanosecond, and so is none at all. -/
theorem scanFraction_fractionText {n : Nat} (h : n < 1000000000) :
    scanFraction (fractionText n ++ ['Z']) = .ok (n, ['Z']) := by
  -- nothing was cut off, so that the zeros that are put back make up for it
  have hscale : ∀ m p, n % p = 0 → n / p = m → m * p = n := by
    rintro m p hp rfl
    exact Nat.div_mul_cancel (Nat.dvd_of_mod_eq_zero hp)
  unfold fractionText
  by_cases h0 : n = 0
  · rw [if_pos h0, h0]
    rfl
  rw [if_neg h0]
  by_cases h3 : n % 1000000 = 0
  · have hlt : n / 1000000 < 1000 := by omega
    rw [if_pos h3, scanFraction_padded (by decide) (by decide) hlt]
    exact congrArg (fun m => Except.ok (m, ['Z'])) (hscale _ _ h3 rfl)
  rw [if_neg h3]
  by_cases h6 : n % 1000 = 0
  · have hlt : n / 1000 < 1000000 := by omega
    rw [if_pos h6, scanFraction_padded (by decide) (by decide) hlt]
    exact congrArg (fun m => Except.ok (m, ['Z'])) (hscale _ _ h6 rfl)
  · rw [if_neg h6, scanFraction_padded (by decide) (by decide) h]
    exact congrArg (fun m => Except.ok (m, ['Z'])) (Nat.mul_one n)

/-! ### Timestamps -/

/-- The text of a timestamp, part by part, as reading goes over it. -/
theorem text_eq (t : Timestamp) :
    t.text = yearText t.date.year ++ '-' :: (padded 2 t.date.month ++ '-' :: (padded 2 t.date.day ++
      'T' :: (padded 2 t.hour ++ ':' :: (padded 2 t.minute ++ ':' :: (padded 2 t.second ++
        (fractionText t.nanosecond ++ ['Z'])))))) := by
  simp only [text, dateText, List.append_assoc, List.cons_append]

/-- The text of a timestamp has digits and a few marks. -/
theorem isDigit_or_mark_of_mem_text {t : Timestamp} {c : Char} (h : c ∈ t.text) :
    c.isDigit = true ∨ c ∈ ['-', '+', 'T', ':', '.', 'Z'] := by
  have hpad : ∀ {k n : Nat}, c ∈ padded k n → c.isDigit = true := Text.isDigit_of_mem_padded
  -- a year has a sign in front of its digits, if it is not of four digits
  have hyear : c ∈ yearText t.date.year → c.isDigit = true ∨ c ∈ ['-', '+'] := by
    unfold yearText
    intro h
    split at h
    · exact Or.inl (hpad h)
    · rcases List.mem_cons.mp h with rfl | h
      · split <;> simp
      · exact Or.inl (hpad h)
  -- and a fraction has its point
  have hfraction : c ∈ fractionText t.nanosecond → c.isDigit = true ∨ c ∈ ['.'] := by
    have hpoint : ∀ {k n : Nat}, c ∈ '.' :: padded k n → c.isDigit = true ∨ c ∈ ['.'] := by
      intro k n h
      rcases List.mem_cons.mp h with rfl | h
      · exact Or.inr List.mem_cons_self
      · exact Or.inl (hpad h)
    unfold fractionText
    intro h
    split at h
    · cases h
    split at h
    · exact hpoint h
    split at h
    · exact hpoint h
    · exact hpoint h
  rw [text_eq] at h
  simp only [List.mem_append, List.mem_cons, List.not_mem_nil, or_false] at h hyear hfraction ⊢
  grind

/-- The numbers of a timestamp are found in its text. -/
theorem scanFields_text (t : Timestamp) :
    scanFields t.text = .ok ⟨t.date.year, t.date.month, t.date.day, t.hour, t.minute, t.second,
      t.nanosecond, 0⟩ := by
  have hmonth := t.date.month_le
  have hday : t.date.day ≤ 31 := Nat.le_trans t.date.day_le (daysInMonth_le _ _)
  have hhour := t.hour_lt
  have hminute := t.minute_lt
  have hsecond := t.second_le
  -- what each scan finds, whatever stands behind it
  have scanYear := scanYear_yearText t.date.minYear_le t.date.le_maxYear
  have scanMonth := scanWithin_padded t.date.month_pos hmonth (by omega)
  have scanDay := scanWithin_padded t.date.day_pos hday (by omega)
  have scanHour := scanWithin_padded (Nat.zero_le _) (by omega : t.hour ≤ 23) (by omega)
  have scanMinute := scanWithin_padded (Nat.zero_le _) (by omega : t.minute ≤ 59) (by omega)
  have scanSecond := scanWithin_padded (Nat.zero_le _) hsecond (by omega)
  have scanNanosecond := scanFraction_fractionText t.nanosecond_lt
  have scanDash := scanMark_cons (c := '-') rfl
  have scanColon := scanMark_cons (c := ':') rfl
  rw [text_eq]
  -- the date, up to the `T`
  refine Eq.trans (bind_of_ok (scanYear _) _) ?_
  refine Eq.trans (bind_of_ok (scanDash _) _) ?_
  refine Eq.trans (bind_of_ok (scanMonth _) _) ?_
  refine Eq.trans (bind_of_ok (scanDash _) _) ?_
  refine Eq.trans (bind_of_ok (scanDay _) _) ?_
  -- the time, with a second that may be the sixtieth
  refine Eq.trans (bind_of_ok (scanHour _) _) ?_
  refine Eq.trans (bind_of_ok (scanColon _) _) ?_
  refine Eq.trans (bind_of_ok (scanMinute _) _) ?_
  refine Eq.trans (bind_of_ok (scanColon _) _) ?_
  refine Eq.trans (bind_of_ok (scanSecond _) _) ?_
  refine Eq.trans (bind_of_ok scanNanosecond _) ?_
  -- the `Z` is all that is left, and nothing follows it
  rfl

/-- Numbers in universal time are put together as they are. -/
theorem resolve_universal (t : Timestamp) :
    Fields.resolve ⟨t.date.year, t.date.month, t.date.day, t.hour, t.minute, t.second,
      t.nanosecond, 0⟩ = .ok t := by
  have hhour := t.hour_lt
  have hminute := t.minute_lt
  -- without an offset the day stays the same
  have hshift : shift t.date (Int.ofNat (60 * t.hour + t.minute) - 0)
      = some (t.date, 60 * t.hour + t.minute) := by
    have hn : Int.ofNat (60 * t.hour + t.minute) - 0 = ((60 * t.hour + t.minute : Nat) : Int) :=
      Int.sub_zero _
    unfold shift
    rw [hn, if_neg (by omega), if_pos (by omega), Int.toNat_natCast]
  have hdiv : (60 * t.hour + t.minute) / 60 = t.hour := by omega
  have hmod : (60 * t.hour + t.minute) % 60 = t.minute := by omega
  unfold Fields.resolve
  simp only [Date.of?_self, hshift, hdiv, hmod, of?_self]
  rfl

/-- **A timestamp that was written** is read back as the timestamp that it was. -/
theorem parse_text (t : Timestamp) : parse t.text = .ok t := by
  rw [parse, bind_of_ok (scanFields_text t)]
  exact resolve_universal t

end WalletPanel.Timestamp
