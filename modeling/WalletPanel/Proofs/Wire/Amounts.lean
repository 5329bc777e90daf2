import WalletPanel.Proofs.Wire.Outcomes

/-!
# Numerals that are read

Every well-formed numeral is read to its end, or is too large for a double. In the second case the
reader stops at once and may leave digits unread; that nothing but digits is left (`Measures`) is
what a reader who goes on after such an error depends on. Passing over a numeral knows no size.
-/

namespace WalletPanel.Wire

/-- There is a digit before the point of every numeral. -/
theorem IsWhole.ne_nil {w : List Char} (h : IsWhole w) : w ≠ [] := by
  cases h with
  | zero => exact List.cons_ne_nil _ _
  | digits hd => exact hd.1

namespace Reader

/-! ### Digits -/

/-- A row of digits begins with a digit, and so with no mark. -/
theorem head_ne_of_isDigits {ds : List Char} (h : IsDigits ds) (rest : List Char) {c : Char}
    (hc : c.isDigit = false) : (ds ++ rest).head? ≠ some c := by
  obtain ⟨d, ds, rfl⟩ := List.exists_cons_of_ne_nil h.1
  rintro ⟨⟩
  rw [h.2 c List.mem_cons_self] at hc
  cases hc

/-- The digits of a numeral are taken up to its next mark. -/
theorem digits_of_isDigits {ds rest : List Char} (h : IsDigits ds)
    (hr : ∀ c ∈ rest.head?, c.isDigit = false) : digits (ds ++ rest) = .ok ds rest :=
  digits_append h.2 hr

/-! ### Numerals -/

/-- At the part `s` of a text the reader comes to a number, or finds that it is too large and leaves
digits unread. -/
def Measures (r : Reader Number) (s : List Char) : Prop :=
  (∃ n, ∀ rest, EndsNumber rest → r (s ++ rest) = .ok n rest) ∨
  ∃ ds : List Char, (∀ c ∈ ds, c.isDigit = true) ∧
    ∀ rest, EndsNumber rest → r (s ++ rest) = .error .numberTooLarge (ds ++ rest)

/-- A reader that goes on as another one does. -/
theorem Measures.of_eq {r r' : Reader Number} {s s' : List Char} (h : Measures r' s')
    (he : ∀ rest, EndsNumber rest → r (s ++ rest) = r' (s' ++ rest)) : Measures r s := by
  rcases h with ⟨n, hn⟩ | ⟨ds, hds, hn⟩
  · refine Or.inl ⟨n, fun rest hr => ?_⟩
    rw [he rest hr, hn rest hr]
  · refine Or.inr ⟨ds, hds, fun rest hr => ?_⟩
    rw [he rest hr, hn rest hr]

/-- Numbers that are put together from their parts leave nothing unread, also those too large for a
double. -/
theorem measures_realOf (isNegative : Bool) (significand : Nat) (power : Int) :
    Measures (realOf isNegative significand power) [] := by
  unfold Measures realOf
  cases Number.ofParts? significand power with
  | some x => exact Or.inl ⟨.real isNegative x, fun _ _ => rfl⟩
  | none => exact Or.inr ⟨[], List.forall_mem_nil _, fun _ _ => rfl⟩

/-- What an exponent leaves unread are digits of it. -/
theorem mem_of_beyondLimit? {n : Nat} {ds unread : List Char}
    (h : beyondLimit? n ds = some unread) : ∀ c ∈ unread, c ∈ ds := by
  -- the digits that are left are always a tail of those there were
  induction ds generalizing n with
  | nil => cases h
  | cons d ds ih =>
    unfold beyondLimit? at h
    dsimp only at h
    split at h
    · exact fun c hc => List.mem_cons_of_mem d (ih h c hc)
    · cases h
      exact fun c hc => List.mem_cons_of_mem d hc

/-- The rest of an exponent after its sign, which says whether it is `below` zero. -/
def exponentDigits (isNegative : Bool) (significand : Nat) (power : Int) (below : Bool) :
    Reader Number := do
  if (← front).isNone then throw .endInValue
  let ds ← digits
  if ds = [] then do advance; throw .brokenNumber
  let n := Int.ofNat (Text.digitsValue ds)
  if below then realOf isNegative significand (power - n)
  else
    match if significand = 0 then none else beyondLimit? 0 ds with
    | some unread => do
      modify (unread ++ ·)
      throw .numberTooLarge
    | none => realOf isNegative significand (power + n)

/-- The digits of an exponent are read to their end, or shown to be too many before it. -/
theorem measures_exponentDigits (isNegative : Bool) (significand : Nat) (power : Int) (below : Bool)
    {ds : List Char} (h : IsDigits ds) :
    Measures (exponentDigits isNegative significand power below) ds := by
  have hsome : ∀ rest, (ds ++ rest).head?.isNone = false := by
    intro rest
    rw [head_append h.1]
    obtain ⟨d, ds, rfl⟩ := List.exists_cons_of_ne_nil h.1
    rfl
  have hds : ∀ rest, EndsNumber rest → digits (ds ++ rest) = .ok ds rest :=
    fun rest hr => digits_of_isDigits h fun c hc => (hr c hc).1
  -- there are digits, and they are taken: what they come to depends on them alone
  have hread : ∀ rest, EndsNumber rest → exponentDigits isNegative significand power below
      (ds ++ rest) = (
        if below then realOf isNegative significand (power - Text.digitsValue ds)
        else
          match if significand = 0 then none else beyondLimit? 0 ds with
          | some unread => do
            modify (unread ++ ·)
            throw .numberTooLarge
          | none => realOf isNegative significand (power + Text.digitsValue ds) : Reader Number)
        rest := by
    intro rest hr
    calc exponentDigits isNegative significand power below (ds ++ rest)
        = _ := bind_of_ok (front_eq _)
      _ = (digits >>= _) (ds ++ rest) := by rw [hsome rest]; rfl
      _ = _ := bind_of_ok (hds rest hr)
    rw [if_neg h.1]
    rfl
  -- the sign of the exponent
  cases below with
  | true =>
    -- an exponent below zero makes no number too large
    exact (measures_realOf isNegative significand (power - Text.digitsValue ds)).of_eq hread
  | false =>
    cases hu : (if significand = 0 then none else beyondLimit? 0 ds) with
    | none =>
      refine (measures_realOf isNegative significand (power + Text.digitsValue ds)).of_eq ?_
      intro rest hr
      rw [hread rest hr, hu]
      rfl
    | some unread =>
      refine Or.inr ⟨unread, fun c hc => ?_, fun rest hr => ?_⟩
      · have hc' : c ∈ ds := by
          split at hu
          · cases hu
          · exact mem_of_beyondLimit? hu c hc
        exact h.2 c hc'
      · rw [hread rest hr, hu]
        rfl

/-- An exponent without a sign. -/
theorem exponentPart_cons {mark : Char} (hm : mark.utf8Size = 1) (isNegative : Bool)
    (significand : Nat) (power : Int) {s : List Char} (hplus : s.head? ≠ some '+')
    (hminus : s.head? ≠ some '-') :
    exponentPart isNegative significand power (mark :: s)
      = exponentDigits isNegative significand power false s := by
  calc exponentPart isNegative significand power (mark :: s)
      = (front >>= _) s := bind_of_ok (advance_cons hm s)
    _ = _ := bind_of_ok (front_eq s)
    _ = exponentDigits isNegative significand power false s := ?_
  revert hplus hminus
  -- of what follows only the first character matters here
  generalize s.head? = next
  intro hplus hminus
  split
  · exact absurd rfl hplus
  · exact absurd rfl hminus
  · rfl

/-- An exponent is read from its mark on. -/
theorem measures_exponentPart (isNegative : Bool) (significand : Nat) (power : Int) {mark : Char}
    {sign ds : List Char} (hm : mark = 'e' ∨ mark = 'E')
    (hs : sign = [] ∨ sign = ['+'] ∨ sign = ['-']) (hd : IsDigits ds) :
    Measures (exponentPart isNegative significand power) (mark :: (sign ++ ds)) := by
  have hsize : mark.utf8Size = 1 := by rcases hm with rfl | rfl <;> rfl
  -- no sign, a plus or a minus
  rcases hs with rfl | rfl | rfl
  · refine (measures_exponentDigits isNegative significand power false hd).of_eq fun rest _ => ?_
    exact exponentPart_cons hsize isNegative significand power
      (head_ne_of_isDigits hd rest rfl) (head_ne_of_isDigits hd rest rfl)
  · refine (measures_exponentDigits isNegative significand power false hd).of_eq fun rest _ => ?_
    calc exponentPart isNegative significand power (mark :: '+' :: (ds ++ rest))
        = (front >>= _) ('+' :: (ds ++ rest)) := bind_of_ok (advance_cons hsize _)
      _ = (advance >>= _) ('+' :: (ds ++ rest)) := bind_of_ok (front_eq _)
      _ = exponentDigits isNegative significand power false (ds ++ rest) :=
          bind_of_ok (advance_cons rfl _)
  · refine (measures_exponentDigits isNegative significand power true hd).of_eq fun rest _ => ?_
    calc exponentPart isNegative significand power (mark :: '-' :: (ds ++ rest))
        = (front >>= _) ('-' :: (ds ++ rest)) := bind_of_ok (advance_cons hsize _)
      _ = (advance >>= _) ('-' :: (ds ++ rest)) := bind_of_ok (front_eq _)
      _ = exponentDigits isNegative significand power true (ds ++ rest) :=
          bind_of_ok (advance_cons rfl _)

/-- What comes after the digits of a number, if it is no fraction. -/
theorem head_exponent {e : List Char} (h : IsExponent e) {rest : List Char} (hr : EndsNumber rest) :
    ∀ c ∈ (e ++ rest).head?, c.isDigit = false ∧ c ≠ '.' := by
  intro c hc
  cases h with
  | none => exact ⟨(hr c hc).1, (hr c hc).2.1⟩
  | digits mark_eq =>
    cases hc
    rcases mark_eq with rfl | rfl <;> exact ⟨rfl, by decide⟩

/-- How a numeral goes on after the digits `ds` behind its point. -/
def afterFraction (isNegative : Bool) (significand : Nat) (power : Int) (ds : List Char)
    (next : Option Char) : Reader Number :=
  -- each digit that is taken in makes the power smaller by one
  let smaller := power - (absorb significand ds).2
  match next with
  | some 'e' | some 'E' => exponentPart isNegative (absorb significand ds).1 smaller
  | _ => realOf isNegative (absorb significand ds).1 smaller

/-- A numeral that ends behind the digits of its fraction is put together from its parts. -/
theorem afterFraction_of_endsNumber (isNegative : Bool) (significand : Nat) (power : Int)
    (ds : List Char) {rest : List Char} (hr : EndsNumber rest) :
    afterFraction isNegative significand power ds rest.head?
      = realOf isNegative (absorb significand ds).1 (power - (absorb significand ds).2) := by
  have hsmall : rest.head? ≠ some 'e' := fun h => (hr 'e' h).2.2.1 rfl
  have hlarge : rest.head? ≠ some 'E' := fun h => (hr 'E' h).2.2.2 rfl
  revert hsmall hlarge
  generalize rest.head? = next
  intro hsmall hlarge
  unfold afterFraction
  split
  · exact absurd rfl hsmall
  · exact absurd rfl hlarge
  · rfl

/-- Behind the digits of a fraction, the next character decides how a numeral goes on. -/
theorem fractionPart_digits (isNegative : Bool) (significand : Nat) (power : Int) {ds t : List Char}
    (hd : IsDigits ds) (ht : ∀ c ∈ t.head?, c.isDigit = false) :
    fractionPart isNegative significand power ('.' :: (ds ++ t))
      = afterFraction isNegative significand power ds t.head? t := by
  calc fractionPart isNegative significand power ('.' :: (ds ++ t))
      = (digits >>= _) (ds ++ t) := bind_of_ok (advance_cons rfl _)
    _ = _ := bind_of_ok (digits_of_isDigits hd ht)
  rw [if_neg hd.1]
  exact bind_of_ok (front_eq _)

/-- **A fraction** is read from its point on, with the exponent that may follow it. -/
theorem measures_fractionPart (isNegative : Bool) (significand : Nat) (power : Int)
    {ds e : List Char} (hd : IsDigits ds) (he : IsExponent e) :
    Measures (fractionPart isNegative significand power) ('.' :: (ds ++ e)) := by
  have hstart : ∀ rest, EndsNumber rest →
      fractionPart isNegative significand power ('.' :: (ds ++ e) ++ rest)
        = afterFraction isNegative significand power ds (e ++ rest).head? (e ++ rest) := by
    intro rest hr
    rw [List.cons_append, List.append_assoc]
    exact fractionPart_digits isNegative significand power hd fun c hc =>
      (head_exponent he hr c hc).1
  -- a fraction at the end, or an exponent behind it
  cases he with
  | none =>
    refine (measures_realOf isNegative (absorb significand ds).1
      (power - (absorb significand ds).2)).of_eq fun rest hr => ?_
    rw [hstart rest hr, List.nil_append, afterFraction_of_endsNumber isNegative _ _ _ hr]
  | digits mark_eq sign_eq es_digits =>
    refine (measures_exponentPart isNegative (absorb significand ds).1
      (power - (absorb significand ds).2) mark_eq sign_eq es_digits).of_eq fun rest hr => ?_
    rw [hstart rest hr]
    rcases mark_eq with rfl | rfl <;> rfl

/-- What comes after the whole part of a number is no digit. -/
theorem head_afterWhole {f e rest : List Char} (hf : IsFraction f) (he : IsExponent e)
    (hr : EndsNumber rest) : ∀ c ∈ (f ++ (e ++ rest)).head?, c.isDigit = false := by
  cases hf with
  | none => exact fun c hc => (head_exponent he hr c hc).1
  | digits =>
    rintro _ ⟨⟩
    rfl

/-- How a numeral goes on after the digits before the point. -/
def afterWhole (isNegative : Bool) (w : List Char) (next : Option Char) : Reader Number :=
  -- the digits that do not fit a word count as zeros
  let excess := w.length - (absorb 0 w).2
  match next with
  | some '.' => fractionPart isNegative (absorb 0 w).1 (excess : Nat)
  | some 'e' | some 'E' => exponentPart isNegative (absorb 0 w).1 (excess : Nat)
  | _ =>
    if excess = 0 then pure (.ofWhole isNegative (absorb 0 w).1)
    else realOf isNegative (absorb 0 w).1 (excess : Nat)

/-- A numeral that ends behind the digits before the point is a whole number, or a double if some of
the digits do not fit. -/
theorem afterWhole_of_endsNumber (isNegative : Bool) (w : List Char) {rest : List Char}
    (hr : EndsNumber rest) :
    afterWhole isNegative w rest.head?
      = if w.length - (absorb 0 w).2 = 0 then pure (.ofWhole isNegative (absorb 0 w).1)
        else realOf isNegative (absorb 0 w).1 (w.length - (absorb 0 w).2 : Nat) := by
  have hpoint : rest.head? ≠ some '.' := fun h => (hr '.' h).2.1 rfl
  have hsmall : rest.head? ≠ some 'e' := fun h => (hr 'e' h).2.2.1 rfl
  have hlarge : rest.head? ≠ some 'E' := fun h => (hr 'E' h).2.2.2 rfl
  revert hpoint hsmall hlarge
  generalize rest.head? = next
  intro hpoint hsmall hlarge
  unfold afterWhole
  split
  · exact absurd rfl hpoint
  · exact absurd rfl hsmall
  · exact absurd rfl hlarge
  · rfl

/-- Behind the digits before the point, the next character decides how a numeral goes on. -/
theorem number_whole (isNegative : Bool) {w t : List Char} (hw : IsWhole w)
    (ht : ∀ c ∈ t.head?, c.isDigit = false) :
    number isNegative (w ++ t) = afterWhole isNegative w t.head? t := by
  have hsome : (w ++ t).head?.isNone = false := by
    rw [head_append hw.ne_nil]
    obtain ⟨c, w, rfl⟩ := List.exists_cons_of_ne_nil hw.ne_nil
    rfl
  rw [number, bind_of_ok (front_eq _), hsome]
  calc (wholeDigits >>= _) (w ++ t)
      = (front >>= _) t := bind_of_ok (wholeDigits_whole hw ht)
    _ = afterWhole isNegative w t.head? t := bind_of_ok (front_eq _)

/-- **A numeral without its sign** is read to its end, or is too large. -/
theorem measures_number (isNegative : Bool) {s : List Char} (h : IsUnsigned s) :
    Measures (number isNegative) s := by
  cases h with
  | @mk w f e hw hf he =>
  have hstart : ∀ rest, EndsNumber rest → number isNegative (w ++ (f ++ e) ++ rest)
      = afterWhole isNegative w (f ++ (e ++ rest)).head? (f ++ (e ++ rest)) := by
    intro rest hr
    rw [List.append_assoc, List.append_assoc]
    exact number_whole isNegative hw (head_afterWhole hf he hr)
  -- a point, an exponent, or neither
  cases hf with
  | @digits ds hd =>
    refine (measures_fractionPart isNegative (absorb 0 w).1 (w.length - (absorb 0 w).2 : Nat)
      hd he).of_eq fun rest hr => (hstart rest hr).trans ?_
    have hs : '.' :: (ds ++ e) ++ rest = '.' :: (ds ++ (e ++ rest)) :=
      congrArg ('.' :: ·) (List.append_assoc ds e rest)
    rw [hs]
    rfl
  | none =>
    cases he with
    | digits mark_eq sign_eq ds_digits =>
      refine (measures_exponentPart isNegative (absorb 0 w).1 (w.length - (absorb 0 w).2 : Nat)
        mark_eq sign_eq ds_digits).of_eq fun rest hr => (hstart rest hr).trans ?_
      rcases mark_eq with rfl | rfl <;> rfl
    | none =>
      have hplain : Measures
          (if w.length - (absorb 0 w).2 = 0 then pure (.ofWhole isNegative (absorb 0 w).1)
          else realOf isNegative (absorb 0 w).1 (w.length - (absorb 0 w).2 : Nat)) [] := by
        split
        · exact Or.inl ⟨_, fun _ _ => rfl⟩
        · exact measures_realOf _ _ _
      refine hplain.of_eq fun rest hr => (hstart rest hr).trans ?_
      rw [List.nil_append, List.nil_append, afterWhole_of_endsNumber isNegative w hr]

/-! ### Numerals with a sign -/

/-- What a numeral without its sign begins with. -/
theorem exists_digit_of_isUnsigned {s : List Char} (h : IsUnsigned s) :
    ∃ c t, s = c :: t ∧ c.isDigit = true := by
  cases h with
  | mk hw =>
    cases hw with
    | zero => exact ⟨'0', _, rfl, rfl⟩
    | @digits w hd =>
      obtain ⟨c, w, rfl⟩ := List.exists_cons_of_ne_nil hd.1
      exact ⟨c, _, rfl, hd.2 c List.mem_cons_self⟩

/-- **A numeral** is read as a number, or is too large and leaves digits unread. -/
theorem lead_numeral {s : List Char} (h : IsNumeral s) :
    (∃ n, ∀ rest, EndsNumber rest → lead (s ++ rest) = .ok (.number n) rest) ∨
    ∃ ds : List Char, (∀ c ∈ ds, c.isDigit = true) ∧
      ∀ rest, EndsNumber rest → lead (s ++ rest) = .error .numberTooLarge (ds ++ rest) := by
  -- with or without a sign it comes to what the digits come to
  have key : ∀ (isNegative : Bool) (t : List Char), IsUnsigned t → (∀ rest,
      lead (s ++ rest) = (do pure (.number (← number isNegative)) : Reader Lead) (t ++ rest)) →
      (∃ n, ∀ rest, EndsNumber rest → lead (s ++ rest) = .ok (.number n) rest) ∨
      ∃ ds : List Char, (∀ c ∈ ds, c.isDigit = true) ∧
        ∀ rest, EndsNumber rest → lead (s ++ rest) = .error .numberTooLarge (ds ++ rest) := by
    intro isNegative t ht hlead
    rcases measures_number isNegative ht with ⟨n, hn⟩ | ⟨ds, hds, hn⟩
    · refine Or.inl ⟨n, fun rest hr => ?_⟩
      rw [hlead rest, bind_of_ok (hn rest hr)]
      rfl
    · refine Or.inr ⟨ds, hds, fun rest hr => ?_⟩
      rw [hlead rest, bind_of_error (hn rest hr)]
  cases h with
  | positive hu =>
    obtain ⟨c, t, rfl, hc⟩ := exists_digit_of_isUnsigned hu
    exact key false _ hu fun rest => lead_digit hc (t ++ rest)
  | @negative t hu =>
    refine key true t hu fun rest => ?_
    calc lead ('-' :: (t ++ rest))
        = (advance >>= _) ('-' :: (t ++ rest)) := bind_of_ok (peek_cons rfl _)
      _ = (number true >>= _) (t ++ rest) := bind_of_ok (advance_cons rfl _)

/-! ### Passing over numerals -/

/-- An exponent is passed over, whatever its sign and size. -/
theorem skipExponent_exponent {mark : Char} {sign ds rest : List Char}
    (hm : mark = 'e' ∨ mark = 'E') (hs : sign = [] ∨ sign = ['+'] ∨ sign = ['-'])
    (hd : IsDigits ds) (hr : EndsNumber rest) :
    skipExponent (mark :: (sign ++ ds) ++ rest) = .ok () rest := by
  have hsize : mark.utf8Size = 1 := by rcases hm with rfl | rfl <;> rfl
  have hds : (do let ds ← digits; if ds = [] then do advance; throw .brokenNumber : Reader Unit)
      (ds ++ rest) = .ok () rest := by
    have htaken := digits_of_isDigits hd fun c hc => (hr c hc).1
    rw [bind_of_ok htaken, if_neg hd.1]
    rfl
  rcases hs with rfl | rfl | rfl
  · calc skipExponent (mark :: (ds ++ rest))
        = (front >>= _) (ds ++ rest) := bind_of_ok (advance_cons hsize _)
      _ = _ := bind_of_ok (front_eq _)
      _ = .ok () rest := ?_
    -- a digit is no sign
    have hplus : (ds ++ rest).head? ≠ some '+' := head_ne_of_isDigits hd rest rfl
    have hminus : (ds ++ rest).head? ≠ some '-' := head_ne_of_isDigits hd rest rfl
    revert hplus hminus hds
    generalize (ds ++ rest).head? = next
    intro hds hplus hminus
    split
    · exact absurd rfl hplus
    · exact absurd rfl hminus
    · exact hds
  · calc skipExponent (mark :: '+' :: (ds ++ rest))
        = (front >>= _) ('+' :: (ds ++ rest)) := bind_of_ok (advance_cons hsize _)
      _ = (advance >>= _) ('+' :: (ds ++ rest)) := bind_of_ok (front_eq _)
      _ = (digits >>= _) (ds ++ rest) := bind_of_ok (advance_cons rfl _)
      _ = .ok () rest := hds
  · calc skipExponent (mark :: '-' :: (ds ++ rest))
        = (front >>= _) ('-' :: (ds ++ rest)) := bind_of_ok (advance_cons hsize _)
      _ = (advance >>= _) ('-' :: (ds ++ rest)) := bind_of_ok (front_eq _)
      _ = (digits >>= _) (ds ++ rest) := bind_of_ok (advance_cons rfl _)
      _ = .ok () rest := hds

/-- A fraction is passed over, with the exponent that may follow it. -/
theorem skipFraction_fraction {ds e rest : List Char} (hd : IsDigits ds) (he : IsExponent e)
    (hr : EndsNumber rest) : skipFraction ('.' :: (ds ++ (e ++ rest))) = .ok () rest := by
  have hds : digits (ds ++ (e ++ rest)) = .ok ds (e ++ rest) :=
    digits_of_isDigits hd fun c hc => (head_exponent he hr c hc).1
  calc skipFraction ('.' :: (ds ++ (e ++ rest)))
      = (digits >>= _) (ds ++ (e ++ rest)) := bind_of_ok (advance_cons rfl _)
    _ = _ := bind_of_ok hds
  rw [if_neg hd.1]
  calc (front >>= _) (e ++ rest)
      = _ := bind_of_ok (front_eq _)
    _ = .ok () rest := ?_
  -- the next character is the mark of an exponent or the end of the numeral
  cases he with
  | digits mark_eq sign_eq es_digits =>
    have hskip := skipExponent_exponent mark_eq sign_eq es_digits hr
    rcases mark_eq with rfl | rfl <;> exact hskip
  | none =>
    have hsmall : rest.head? ≠ some 'e' := fun h => (hr 'e' h).2.2.1 rfl
    have hlarge : rest.head? ≠ some 'E' := fun h => (hr 'E' h).2.2.2 rfl
    rw [List.nil_append]
    revert hsmall hlarge
    generalize rest.head? = next
    intro hsmall hlarge
    split
    · exact absurd rfl hsmall
    · exact absurd rfl hlarge
    · rfl

/-- **A numeral without its sign** is passed over, whatever its size. -/
theorem skipNumber_unsigned {s rest : List Char} (h : IsUnsigned s) (hr : EndsNumber rest) :
    skipNumber (s ++ rest) = .ok () rest := by
  cases h with
  | @mk w f e hw hf he =>
  rw [List.append_assoc, List.append_assoc]
  calc skipNumber (w ++ (f ++ (e ++ rest)))
      = (front >>= _) (f ++ (e ++ rest)) :=
        bind_of_ok (wholeDigits_whole hw (head_afterWhole hf he hr))
    _ = _ := bind_of_ok (front_eq _)
    _ = .ok () rest := ?_
  -- a point, an exponent, or neither, as in `measures_number`
  cases hf with
  | digits hd => exact skipFraction_fraction hd he hr
  | none =>
    cases he with
    | digits mark_eq sign_eq es_digits =>
      have hskip := skipExponent_exponent mark_eq sign_eq es_digits hr
      rcases mark_eq with rfl | rfl <;> exact hskip
    | none =>
      have hpoint : rest.head? ≠ some '.' := fun h => (hr '.' h).2.1 rfl
      have hsmall : rest.head? ≠ some 'e' := fun h => (hr 'e' h).2.2.1 rfl
      have hlarge : rest.head? ≠ some 'E' := fun h => (hr 'E' h).2.2.2 rfl
      rw [List.nil_append, List.nil_append]
      revert hpoint hsmall hlarge
      generalize rest.head? = next
      intro hpoint hsmall hlarge
      split
      · exact absurd rfl hpoint
      · exact absurd rfl hsmall
      · exact absurd rfl hlarge
      · rfl

end Reader

end WalletPanel.Wire
