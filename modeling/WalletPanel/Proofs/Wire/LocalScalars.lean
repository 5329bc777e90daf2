import WalletPanel.Proofs.Wire.Amounts
import WalletPanel.Proofs.Wire.Locality
import WalletPanel.Proofs.Wire.Spellings

/-!
# Scalars are read locally

Numbers, words and texts are read by readers that look no further than they get. Two of them need a
look at what they do. A number is found to be too large by the digits of its exponent, and those
behind the one that shows it are put back (`local_exponentDigits`). And four octets are taken as the
digits of an escape even if a character begins among them and ends behind them
(`local_fourDigits`).
-/

namespace WalletPanel.Wire.Reader

variable {α κ σ : Type}

/-! ### Numbers -/

/-- A reader that takes the digits that come next and puts some of them back. Once it puts any back,
more digits change nothing. -/
theorem local_of_digits {r : Reader α} {x : List Char → Except Error α} {u : List Char → List Char}
    (hr : ∀ s, r s = ended (x (s.takeWhile Char.isDigit))
      (u (s.takeWhile Char.isDigit) ++ s.dropWhile Char.isDigit))
    (hu : ∀ ds, u ds <:+ ds)
    (hmore : ∀ ds ds', u ds ≠ [] → x (ds ++ ds') = x ds ∧ u (ds ++ ds') = u ds ++ ds')
    (hend : ∀ ds ds', u ds = [] → u (ds ++ ds') <:+ ds') : Local r := by
  have hleft : ∀ s, left r s = u (s.takeWhile Char.isDigit) ++ s.dropWhile Char.isDigit :=
    fun s => left_of_ended (hr s)
  refine ⟨fun s => ?_, fun s t => ?_⟩
  · obtain ⟨v, hv⟩ := hu (s.takeWhile Char.isDigit)
    rw [hleft]
    refine ⟨v, ?_⟩
    rw [← List.append_assoc, hv, List.takeWhile_append_dropWhile]
  · by_cases hrest : s.dropWhile Char.isDigit = []
    · -- there are digits to the end of `s`, and there may be more in `t`
      have htake : s.takeWhile Char.isDigit = s := by
        rw [← List.append_nil (s.takeWhile Char.isDigit), ← hrest, List.takeWhile_append_dropWhile]
      have hall : ∀ c ∈ s, c.isDigit = true := by
        rw [← htake]
        exact List.all_eq_true.mp List.all_takeWhile
      have hrt : r (s ++ t) = ended (x (s ++ t.takeWhile Char.isDigit))
          (u (s ++ t.takeWhile Char.isDigit) ++ t.dropWhile Char.isDigit) := by
        rw [hr, List.takeWhile_append_of_pos hall, List.dropWhile_append_of_pos hall]
      have hs : r s = ended (x s) (u s) := by
        rw [hr, htake, hrest, List.append_nil]
      refine ⟨fun hne => ?_, fun hnil => ?_⟩
      · obtain ⟨hx, hu'⟩ := hmore s (t.takeWhile Char.isDigit) (left_of_ended hs ▸ hne)
        rw [hrt, hx, hu', hs, behind_ended, List.append_assoc, List.takeWhile_append_dropWhile]
      · obtain ⟨v, hv⟩ := hend s (t.takeWhile Char.isDigit) (left_of_ended hs ▸ hnil)
        rw [left_of_ended hrt]
        refine ⟨v, ?_⟩
        rw [← List.append_assoc, hv, List.takeWhile_append_dropWhile]
    · have hdrop : (s ++ t).dropWhile Char.isDigit = s.dropWhile Char.isDigit ++ t :=
        (dropWhile_append Char.isDigit s t).1 hrest
      have htake : (s ++ t).takeWhile Char.isDigit = s.takeWhile Char.isDigit := by
        have hst := List.takeWhile_append_dropWhile (p := Char.isDigit) (l := s ++ t)
        rw [hdrop, ← List.append_assoc] at hst
        rw [← List.append_left_inj (s.dropWhile Char.isDigit), List.takeWhile_append_dropWhile]
        exact List.append_cancel_right hst
      refine ⟨fun _ => ?_, fun hnil => ?_⟩
      · rw [hr, hr, htake, hdrop, behind_ended, List.append_assoc]
      · rw [hleft] at hnil
        exact absurd (List.append_eq_nil_iff.mp hnil).2 hrest

/-- Digits are split off at the first character that is none. -/
theorem digits_eq (s : List Char) :
    digits s = .ok (s.takeWhile Char.isDigit) (s.dropWhile Char.isDigit) := by
  have hs := List.takeWhile_append_dropWhile (p := Char.isDigit) (l := s)
  have hdrop : s.drop (s.takeWhile Char.isDigit).length = s.dropWhile Char.isDigit :=
    calc s.drop (s.takeWhile Char.isDigit).length
        = (s.takeWhile Char.isDigit ++ s.dropWhile Char.isDigit).drop
            (s.takeWhile Char.isDigit).length := by rw [hs]
      _ = s.dropWhile Char.isDigit := List.drop_left
  exact congrArg (EStateM.Result.ok _) hdrop

/-- Digits are taken locally: none of them is put back. -/
theorem local_digits : Local digits :=
  local_of_digits (x := .ok) (u := fun _ => []) digits_eq (fun _ => List.nil_suffix)
    (fun _ _ h => absurd rfl h) fun _ _ _ => List.nil_suffix

/-- The double with a sign and these parts. -/
def realValue (isNegative : Bool) (significand : Nat) (power : Int) : Except Error Number :=
  match Number.ofParts? significand power with
  | some x => .ok (.real isNegative x)
  | none => .error .numberTooLarge

/-- Parts are put together without a look at the text. -/
theorem realOf_eq (isNegative : Bool) (significand : Nat) (power : Int) :
    realOf isNegative significand power = Kind.accept (realValue isNegative significand power) := by
  unfold realOf realValue
  cases Number.ofParts? significand power <;> rfl

/-- So this is local. -/
theorem local_realOf (isNegative : Bool) (significand : Nat) (power : Int) :
    Local (realOf isNegative significand power) := by
  rw [realOf_eq]
  exact local_accept _

/-- Where a limit is passed, it is passed with more digits behind as well; where it is not, it may
be passed by these. -/
theorem beyondLimit?_append (n : Nat) (ds ds' : List Char) :
    (∃ unread, beyondLimit? n ds = some unread ∧ unread <:+ ds ∧
      beyondLimit? n (ds ++ ds') = some (unread ++ ds')) ∨
    beyondLimit? n ds = none ∧ ∃ m, beyondLimit? n (ds ++ ds') = beyondLimit? m ds' := by
  -- digit by digit, until the limit is passed or `ds` is over
  induction ds generalizing n with
  | nil => exact .inr ⟨rfl, n, rfl⟩
  | cons d ds ih =>
    have hcons : ∀ more, beyondLimit? n (d :: more)
        = if 10 * n + Text.digitValue d < exponentLimit then
            beyondLimit? (10 * n + Text.digitValue d) more
          else some more := fun _ => rfl
    rw [List.cons_append, hcons, hcons]
    split
    · rcases ih (10 * n + Text.digitValue d) with ⟨unread, hds, hsuffix, hmore⟩ | hnone
      · exact .inl ⟨unread, hds, hsuffix.trans (List.suffix_cons d ds), hmore⟩
      · exact .inr hnone
    · exact .inl ⟨ds, rfl, List.suffix_cons d ds, rfl⟩

/-- The digits of an exponent that are put back, if there are any: those behind the one by which it
shows that the number is too large. -/
def putBack? (significand : Nat) (below : Bool) (ds : List Char) : Option (List Char) :=
  if below ∨ significand = 0 then none else beyondLimit? 0 ds

/-- What an exponent of these digits comes to. -/
def exponentValue (isNegative : Bool) (significand : Nat) (power : Int) (below : Bool)
    (ds : List Char) : Except Error Number :=
  let n := Int.ofNat (Text.digitsValue ds)
  if (putBack? significand below ds).isSome then .error .numberTooLarge
  else realValue isNegative significand (if below then power - n else power + n)

/-- A result that is there already takes nothing. -/
theorem accept_eq (x : Except Error α) (s : List Char) : Kind.accept x s = ended x s := by
  cases x <;> rfl

/-- What is done behind the digits of an exponent. -/
def exponentEnd (isNegative : Bool) (significand : Nat) (power : Int) (below : Bool)
    (ds : List Char) : Reader Number := do
  modify ((putBack? significand below ds).getD [] ++ ·)
  Kind.accept (exponentValue isNegative significand power below ds)

/-- The last steps of `exponentDigits`, whichever sign the exponent has. -/
theorem exponentEnd_eq (isNegative : Bool) (significand : Nat) (power : Int) (below : Bool)
    (ds : List Char) :
    (if below then realOf isNegative significand (power - Int.ofNat (Text.digitsValue ds))
      else
        match if significand = 0 then none else beyondLimit? 0 ds with
        | some unread => do
          modify (unread ++ ·)
          throw .numberTooLarge
        | none => realOf isNegative significand (power + Int.ofNat (Text.digitsValue ds)))
      = exponentEnd isNegative significand power below ds := by
  unfold exponentEnd exponentValue putBack?
  rw [realOf_eq, realOf_eq]
  -- only a power with a plus can be too large
  cases below with
  | true => rfl
  | false =>
    by_cases hz : significand = 0
    · rw [if_pos hz, if_pos (Or.inr hz)]
      rfl
    · have hor : ¬ (false = true ∨ significand = 0) :=
        fun h => hz (h.resolve_left Bool.false_ne_true)
      rw [if_neg hz, if_neg hor]
      cases beyondLimit? 0 ds <;> rfl

/-- With more digits behind, the same are put back and the new ones with them, or none was and some
of the new ones may be. -/
theorem putBack?_append (significand : Nat) (below : Bool) (ds ds' : List Char) :
    (∃ unread, putBack? significand below ds = some unread ∧ unread <:+ ds ∧
      putBack? significand below (ds ++ ds') = some (unread ++ ds')) ∨
    putBack? significand below ds = none ∧
      (putBack? significand below (ds ++ ds')).getD [] <:+ ds' := by
  unfold putBack?
  by_cases h : below = true ∨ significand = 0
  · -- such an exponent is always read in full
    rw [if_pos h, if_pos h]
    exact .inr ⟨rfl, List.nil_suffix⟩
  · rw [if_neg h, if_neg h]
    refine (beyondLimit?_append 0 ds ds').imp id fun ⟨hnone, m, hm⟩ => ⟨hnone, ?_⟩
    rw [hm]
    -- the limit is met in what is added, or not at all
    rcases beyondLimit?_append m ds' [] with ⟨unread, hunread, hsuffix, -⟩ | ⟨hunread, -⟩
    · rw [hunread]
      exact hsuffix
    · rw [hunread]
      exact List.nil_suffix

/-- The digits of an exponent, if there are any, and what is done behind them. -/
theorem local_exponentTaken (isNegative : Bool) (significand : Nat) (power : Int) (below : Bool) :
    Local (digits >>= exponentEnd isNegative significand power below) := by
  refine local_of_digits (x := exponentValue isNegative significand power below)
    (u := fun ds => (putBack? significand below ds).getD [])
    (fun s => ?_) (fun ds => ?_) (fun ds ds' hne => ?_) fun ds ds' hnil => ?_
  · rw [bind_of_ok (digits_eq s)]
    exact accept_eq _ _
  · rcases putBack?_append significand below ds [] with ⟨unread, hds, hsuffix, -⟩ | ⟨hnone, -⟩
    · rw [hds]
      exact hsuffix
    · rw [hnone]
      exact List.nil_suffix
  · rcases putBack?_append significand below ds ds' with ⟨unread, hds, -, hmore⟩ | ⟨hnone, -⟩
    · -- the number was found too large before the end of `ds`
      unfold exponentValue
      rw [hds, hmore]
      exact ⟨rfl, rfl⟩
    · exact absurd (congrArg (Option.getD · []) hnone) hne
  · rcases putBack?_append significand below ds ds' with ⟨unread, hds, -, hmore⟩ | ⟨-, hmore⟩
    · rw [hds] at hnil
      rw [hmore, show unread = [] from hnil]
      exact List.suffix_rfl
    · exact hmore

/-- An exponent that begins with a digit is a case of its own, since only then are digits put back.
-/
theorem exponentDigits_eq (isNegative : Bool) (significand : Nat) (power : Int) (below : Bool) :
    exponentDigits isNegative significand power below = (do
      match ← front with
      | none => throw .endInValue
      | some c =>
        if c.isDigit then digits >>= exponentEnd isNegative significand power below
        else do advance; throw .brokenNumber) := by
  funext s
  cases s with
  | nil => rfl
  | cons c t =>
    have hread : exponentDigits isNegative significand power below (c :: t) = _ :=
      calc exponentDigits isNegative significand power below (c :: t)
          = (digits >>= _) (c :: t) := bind_of_ok (front_eq _)
        _ = _ := bind_of_ok (digits_eq _)
    rw [hread, bind_of_ok (front_eq _)]
    dsimp only [List.head?_cons]
    -- without a digit the reader fails in the same place in both forms
    by_cases hc : c.isDigit = true
    · have hne : (c :: t).takeWhile Char.isDigit ≠ [] := by
        rw [List.takeWhile_cons_of_pos hc]
        exact List.cons_ne_nil _ _
      rw [if_neg hne, if_pos hc, bind_of_ok (digits_eq _)]
      exact congrFun (exponentEnd_eq isNegative significand power below _) _
    · rw [if_pos (List.takeWhile_cons_of_neg hc), if_neg hc, List.dropWhile_cons_of_neg hc]
      rfl

/-- The digits of an exponent are read locally. -/
theorem local_exponentDigits (isNegative : Bool) (significand : Nat) (power : Int) (below : Bool) :
    Local (exponentDigits isNegative significand power below) := by
  rw [exponentDigits_eq]
  refine local_front.bind fun c => ?_
  split
  · exact local_throw _
  · split
    · exact local_exponentTaken _ _ _ _
    · exact local_advance.bind fun _ => local_throw _

/-- So is the exponent with its mark and sign. -/
theorem local_exponentPart (isNegative : Bool) (significand : Nat) (power : Int) :
    Local (exponentPart isNegative significand power) := by
  unfold exponentPart
  refine local_advance.bind fun _ => local_front.bind fun c => ?_
  dsimp only
  split
  · exact local_advance.bind fun _ => local_exponentDigits isNegative significand power false
  · exact local_advance.bind fun _ => local_exponentDigits isNegative significand power true
  · exact local_exponentDigits isNegative significand power false

/-- A fraction is read locally. -/
theorem local_fractionPart (isNegative : Bool) (significand : Nat) (power : Int) :
    Local (fractionPart isNegative significand power) := by
  unfold fractionPart
  refine local_advance.bind fun _ => local_digits.bind fun ds => ?_
  dsimp only
  -- no digit behind the point, or digits and perhaps an exponent
  split
  · refine local_front.bind fun c => ?_
    split <;> exact local_throw_bind _ _
  · refine local_front.bind fun c => ?_
    split
    · exact local_exponentPart _ _ _
    · exact local_exponentPart _ _ _
    · exact local_realOf _ _ _

/-- The digits before the point are read locally. -/
theorem local_wholeDigits : Local wholeDigits := by
  unfold wholeDigits
  refine local_front.bind fun c => ?_
  -- a zero, which stands alone, or other digits
  split
  · refine local_advance.bind fun _ => local_front.bind fun c => ?_
    split
    · split
      · exact local_throw _
      · exact local_pure _
    · exact local_pure _
  · refine local_digits.bind fun ds => ?_
    split
    · exact local_advance.bind fun _ => (local_throw _).bind fun _ => local_pure _
    · exact local_pure _

/-- **A number** is read locally. -/
theorem local_number (isNegative : Bool) : Local (number isNegative) := by
  unfold number
  refine local_front.bind fun c => ?_
  -- without a character the number ends before its first digit
  dsimp only
  split
  · exact local_throw_bind _ _
  · refine local_wholeDigits.bind fun ds => local_front.bind fun c => ?_
    split
    · exact local_fractionPart _ _ _
    · exact local_exponentPart _ _ _
    · exact local_exponentPart _ _ _
    · split
      · exact local_pure _
      · exact local_realOf _ _ _

/-- An exponent is passed over locally. -/
theorem local_skipExponent : Local skipExponent := by
  -- whether a sign was there or not, digits have to follow
  have hdigits : Local (do
      let ds ← digits
      if ds = [] then do advance; throw .brokenNumber : Reader Unit) := by
    refine local_digits.bind fun ds => ?_
    split
    · exact local_advance.bind fun _ => local_throw _
    · exact local_pure _
  unfold skipExponent
  refine local_advance.bind fun _ => local_front.bind fun c => ?_
  split
  · exact local_advance.bind fun _ => hdigits
  · exact local_advance.bind fun _ => hdigits
  · exact hdigits

/-- A fraction is passed over locally. -/
theorem local_skipFraction : Local skipFraction := by
  unfold skipFraction
  -- the point, the digits behind it, and perhaps an exponent
  refine local_advance.bind fun _ => local_digits.bind fun ds => ?_
  dsimp only
  split
  · exact local_throw_bind _ _
  · refine local_front.bind fun c => ?_
    split
    · exact local_skipExponent
    · exact local_skipExponent
    · exact local_pure _

/-- A number is passed over locally. -/
theorem local_skipNumber : Local skipNumber := by
  unfold skipNumber
  refine local_wholeDigits.bind fun _ => local_front.bind fun c => ?_
  split
  · exact local_skipFraction
  · exact local_skipExponent
  · exact local_skipExponent
  · exact local_pure _

/-! ### Texts -/

/-- The next character of a text is one character. -/
theorem local_nextInText : Local nextInText :=
  local_of_cons rfl fun c => ⟨.ok c, [], List.nil_suffix, fun _ => rfl⟩

/-- The next mark of an escape is one octet, and may be a part of a character. -/
theorem local_nextMark : Local nextMark := by
  refine local_of_cons rfl fun c => ?_
  obtain ⟨w, hw, hs⟩ := exists_afterOctets_one c
  exact ⟨.ok c, w, hw, fun s => congrArg (EStateM.Result.ok c) (hs s)⟩

/-- The marks before the other half of a character are two such octets. -/
theorem local_expectHalf (c : Char) : Local (expectHalf c) := by
  unfold expectHalf
  refine local_nextMark.bind fun d => ?_
  split
  · exact local_pure _
  · exact local_throw _

/-- A character has an octet at least. -/
theorem length_le_octetCount (s : List Char) : s.length ≤ Text.octetCount s := by
  induction s with
  | nil => exact Nat.le_refl 0
  | cons c s ih =>
    have := c.utf8Size_pos
    rw [List.length_cons, Text.octetCount]
    omega

/-- Octets that are enough pass all of a text. -/
theorem afterOctets_of_octetCount_le {n : Nat} {s : List Char} (h : Text.octetCount s ≤ n) :
    afterOctets n s = [] := by
  induction s generalizing n with
  | nil => rfl
  | cons c s ih =>
    rw [Text.octetCount] at h
    unfold afterOctets
    rw [if_pos (by omega)]
    exact ih (by omega)

/-- What has a value as a digit has one octet. -/
theorem utf8Size_of_hexValue? {c : Char} {n : Nat} (h : Text.hexValue? c = some n) :
    c.utf8Size = 1 := by
  refine utf8Size_of_isHexDigit ?_
  unfold Text.hexValue? at h
  -- the three rows of the table of digits
  by_cases hd : c.isDigit = true
  · exact .inl hd
  · rw [if_neg hd] at h
    by_cases hl : 'a' ≤ c ∧ c ≤ 'f'
    · exact .inr (.inl hl)
    · rw [if_neg hl] at h
      by_cases hu : 'A' ≤ c ∧ c ≤ 'F'
      · exact .inr (.inr hu)
      · rw [if_neg hu] at h
        cases h

/-- Digits take an octet each. -/
theorem forall_utf8Size_of_mapM {s : List Char} {values : List Nat}
    (h : s.mapM Text.hexValue? = some values) :
    (∀ c ∈ s, c.utf8Size = 1) ∧ values.length = s.length := by
  induction s generalizing values with
  | nil =>
    cases h
    exact ⟨List.forall_mem_nil _, rfl⟩
  | cons c s ih =>
    rw [List.mapM_cons] at h
    -- the first one is a digit, and so are all the others
    obtain ⟨n, hn, h⟩ := Option.bind_eq_some_iff.mp h
    obtain ⟨more, hmore, h⟩ := Option.bind_eq_some_iff.mp h
    cases h
    obtain ⟨hsize, hlength⟩ := ih hmore
    exact ⟨List.forall_mem_cons.mpr ⟨utf8Size_of_hexValue? hn, hsize⟩, congrArg (· + 1) hlength⟩

/-- Characters of one octet are as many as their octets. -/
theorem octetCount_eq_length {s : List Char} (h : ∀ c ∈ s, c.utf8Size = 1) :
    Text.octetCount s = s.length := by
  induction s with
  | nil => rfl
  | cons c s ih =>
    obtain ⟨hc, hs⟩ := List.forall_mem_cons.mp h
    rw [Text.octetCount, hc, ih hs, List.length_cons]
    omega

/-- Octets of two parts add up. -/
theorem octetCount_append (s t : List Char) :
    Text.octetCount (s ++ t) = Text.octetCount s + Text.octetCount t := by
  induction s with
  | nil => exact (Nat.zero_add _).symm
  | cons c s ih =>
    rw [List.cons_append, Text.octetCount, Text.octetCount, ih]
    omega

/-- An error after some octets, the same with more text. -/
theorem sameBefore_of_afterOctets {r : Reader α} {e : Error} {n : Nat} {s t : List Char}
    (hs : r s = .error e (afterOctets n s)) (hst : r (s ++ t) = .error e (afterOctets n (s ++ t))) :
    SameBefore r r s t := by
  obtain ⟨hwithin, hbeyond⟩ := afterOctets_append n s t
  refine ⟨fun hne => ?_, fun hnil => ?_⟩
  · rw [left_of_error hs] at hne
    rw [hs, hst, hwithin hne]
    rfl
  · rw [left_of_error hs] at hnil
    rw [left_of_error hst]
    exact hbeyond hnil

/-- The next four characters are digits, or there are not four octets, or they are no digits
whatever follows. -/
theorem fourDigits_cases (s : List Char) :
    (∃ n, 4 ≤ s.length ∧ ∀ t, fourDigits (s ++ t) = .ok n (s.drop 4 ++ t)) ∨
    (Text.octetCount s < 4 ∧ fourDigits s = .error .endInText []) ∨
    ∀ t, fourDigits (s ++ t) = .error .brokenEscape (afterOctets 4 (s ++ t)) := by
  by_cases hlength : 4 ≤ s.length
  · have htake : ∀ t, (s ++ t).take 4 = s.take 4 := fun t => List.take_append_of_le_length hlength
    have hdrop : ∀ t, (s ++ t).drop 4 = s.drop 4 ++ t :=
      fun t => List.drop_append_of_le_length hlength
    have hcount : ¬ Text.octetCount (s.take 4) < 4 := by
      have := length_le_octetCount (s.take 4)
      rw [List.length_take_of_le hlength] at this
      omega
    by_cases hvalues : ∃ a b c d, (s.take 4).mapM Text.hexValue? = some [a, b, c, d]
    · obtain ⟨a, b, c, d, hvalues⟩ := hvalues
      refine .inl ⟨((16 * a + b) * 16 + c) * 16 + d, hlength, fun t => ?_⟩
      unfold fourDigits
      rw [htake, hdrop, if_neg hcount, hvalues]
    · refine .inr (.inr fun t => ?_)
      unfold fourDigits
      rw [htake, if_neg hcount]
      split
      · next a b c d h => exact absurd ⟨a, b, c, d, h⟩ hvalues
      · rfl
  · have hall : s.take 4 = s := List.take_of_length_le (by omega)
    by_cases hcount : Text.octetCount s < 4
    · exact .inr (.inl ⟨hcount, if_pos (hall.symm ▸ hcount)⟩)
    · refine .inr (.inr fun t => ?_)
      have htake : (s ++ t).take 4 = s ++ t.take (4 - s.length) := by
        rw [List.take_append, hall]
      have hmore : ¬ Text.octetCount ((s ++ t).take 4) < 4 := by
        rw [htake, octetCount_append]
        omega
      unfold fourDigits
      rw [if_neg hmore]
      split
      · next h =>
        -- digits of an octet each would be four characters of `s`
        have hsize := (forall_utf8Size_of_mapM h).1
        rw [htake] at hsize
        have := octetCount_eq_length fun c hc => hsize c (List.mem_append_left _ hc)
        omega
      · rfl

/-- **The digits of an escape** are read locally, though four octets are taken whatever they are. -/
theorem local_fourDigits : Local fourDigits where
  onward s := by
    have hnil := List.append_nil s
    rcases fourDigits_cases s with ⟨n, -, h⟩ | ⟨-, h⟩ | h
    · have hs := h []
      rw [hnil, List.append_nil] at hs
      rw [left_of_ok hs]
      exact List.drop_suffix 4 s
    · rw [left_of_error h]
      exact List.nil_suffix
    · have hs := h []
      rw [hnil] at hs
      rw [left_of_error hs]
      exact afterOctets_suffix 4 s
  same s t := by
    have hnil := List.append_nil s
    rcases fourDigits_cases s with ⟨n, hlength, h⟩ | ⟨hcount, h⟩ | h
    · have hs := h []
      rw [hnil, List.append_nil] at hs
      refine ⟨fun _ => ?_, fun hend => ?_⟩
      · rw [hs]
        exact h t
      · rw [left_of_ok hs] at hend
        rw [left_of_ok (h t), hend]
        exact List.suffix_rfl
    · -- `s` ends among the four octets, and what is missing is taken from `t`
      refine ⟨fun hne => absurd (left_of_error h) hne, fun _ => ?_⟩
      have hle := length_le_octetCount s
      rcases fourDigits_cases (s ++ t) with ⟨n, -, hst⟩ | ⟨-, hst⟩ | hst
      · have hst := hst []
        rw [List.append_nil, List.append_nil] at hst
        rw [left_of_ok hst, List.drop_append, List.drop_of_length_le (by omega), List.nil_append]
        exact List.drop_suffix _ t
      · rw [left_of_error hst]
        exact List.nil_suffix
      · have hst := hst []
        rw [List.append_nil] at hst
        rw [left_of_error hst]
        exact (afterOctets_append 4 s t).2 (afterOctets_of_octetCount_le (by omega))
    · have hs := h []
      rw [hnil] at hs
      exact sameBefore_of_afterOctets hs (h t)

/-- A character by its number is read locally, also one of two halves. -/
theorem local_numberedCharacter : Local numberedCharacter := by
  have hparts : numberedCharacter = (do
      let n ← fourDigits
      if isLowHalf n then throw .loneSurrogate
      else if isHighHalf n then secondHalf n
      else pure (Char.ofNat n)) := rfl
  rw [hparts]
  refine local_fourDigits.bind fun n => ?_
  -- a second half, a first half with the other one, or a whole character
  split
  · exact local_throw _
  · split
    · unfold secondHalf
      refine (local_expectHalf _).bind fun _ => (local_expectHalf _).bind fun _ => ?_
      refine local_fourDigits.bind fun m => ?_
      split
      · exact (local_throw _).bind fun _ => local_pure _
      · exact local_pure _
    · exact local_pure _

/-- What follows a backslash is read locally. -/
theorem local_escaped : Local escaped := by
  unfold escaped
  refine local_nextMark.bind fun c => ?_
  split
  · exact local_pure _
  · split
    · exact local_numberedCharacter
    · exact local_throw _

/-- What follows a backslash is passed over locally. -/
theorem local_skipEscaped : Local skipEscaped := by
  unfold skipEscaped
  refine local_nextMark.bind fun c => ?_
  split
  · exact local_pure _
  · split
    · exact local_fourDigits.bind fun _ => local_pure _
    · exact local_throw _

/-- A character of a text is passed when it is taken. -/
theorem advances_nextInText : Advances nextInText := by
  intro s c rest h
  cases s with
  | nil => cases h
  | cons d s =>
    cases h
    exact Nat.lt_succ_self _

/-- What is done with a character of a text. -/
def textStep (n : Nat) (done : List Char) (c : Char) : Reader (List Char) :=
  if c = '"' then pure done.reverse
  else if c = '\\' then do
    let d ← escaped
    textFrom n (d :: done)
  else if c.toNat < 0x20 then throw .controlCharacter
  else textFrom n (c :: done)

/-- What is done with a character goes onward if the rest of the text is gone over onward. -/
theorem onward_textStep {n : Nat} (h : ∀ done, Onward (textFrom n done)) (done : List Char)
    (c : Char) : Onward (textStep n done c) := by
  unfold textStep
  -- the quote, an escape, a control character and any other character
  split
  · exact (local_pure _).onward
  · split
    · exact local_escaped.onward.bind fun _ => h _
    · split
      · exact (local_throw _).onward
      · exact h _

/-- A text is read in turns of one character. -/
theorem turns_textFrom (done : List Char) : Turns fun n => textFrom n done := by
  have hsucc : ∀ done n, textFrom (n + 1) done = nextInText >>= textStep n done := fun _ _ => rfl
  refine Turns.of_next (r := fun done n => textFrom n done) (fun _ => rfl) hsucc local_nextInText
    advances_nextInText (fun n => onward_textStep) (fun n n' hn hn' hs done c => ?_) done
  -- a quote ends it, a backslash begins an escape, a control character may not be there
  unfold textStep
  split
  · exact (local_pure _).within n n'
  · split
    · exact (local_escaped.within n n').bind local_escaped.onward (fun _ => hn _) (fun _ => hn' _)
        fun d => hs (d :: done)
    · split
      · exact (local_throw _).within n n'
      · exact hs (c :: done)

/-- **A text** is read locally. -/
theorem local_text : Local text :=
  ((turns_textFrom []).bind fun _ => local_pure _).local

/-- What is done with a character of a text that is passed over. -/
def skipTextStep (n : Nat) (c : Char) : Reader Unit :=
  if c = '"' then pure ()
  else if c = '\\' then do
    skipEscaped
    skipTextFrom n
  else if c.toNat < 0x20 then throw .controlCharacter
  else skipTextFrom n

/-- The same when the text is passed over. -/
theorem onward_skipTextStep {n : Nat} (h : Onward (skipTextFrom n)) (c : Char) :
    Onward (skipTextStep n c) := by
  unfold skipTextStep
  split
  · exact (local_pure _).onward
  · split
    · exact local_skipEscaped.onward.bind fun _ => h
    · split
      · exact (local_throw _).onward
      · exact h

/-- A text is passed over in turns of one character as well. -/
theorem turns_skipTextFrom : Turns skipTextFrom := by
  have hsucc : ∀ (_ : Unit) n, skipTextFrom (n + 1) = nextInText >>= skipTextStep n :=
    fun _ _ => rfl
  refine Turns.of_next (r := fun _ n => skipTextFrom n) (fun _ => rfl) hsucc local_nextInText
    advances_nextInText (fun n h _ => onward_skipTextStep (h ()))
    (fun n n' hn hn' hs _ c => ?_) ()
  -- the cases are those of a text that is read
  unfold skipTextStep
  split
  · exact (local_pure _).within n n'
  · split
    · exact (local_skipEscaped.within n n').bind local_skipEscaped.onward (fun _ => hn ())
        (fun _ => hn' ()) fun _ => hs ()
    · split
      · exact (local_throw _).within n n'
      · exact hs ()

/-- So a text is passed over locally. -/
theorem local_skipText : Local skipText := turns_skipTextFrom.local

/-! ### Leads -/

/-- Whatever a value begins with, what is read of it is read locally. -/
theorem local_leadFrom (c : Char) : Local (leadFrom c) := by
  obtain ⟨r, hr, hrow⟩ := leadRow c
  rw [hr]
  -- row by row
  cases hrow with
  | word _ more =>
    exact local_advance.bind fun _ => (local_restOfWord more).bind fun _ => local_pure _
  | negative => exact local_advance.bind fun _ => (local_number true).bind fun _ => local_pure _
  | natural => exact (local_number false).bind fun _ => local_pure _
  | text => exact local_advance.bind fun _ => local_text.bind fun _ => local_pure _
  | list => exact local_pure _
  | object => exact local_pure _
  | noValue => exact local_throw _

/-- **What begins at a place** is read locally. -/
theorem local_lead : Local lead := by
  unfold lead
  refine local_peek.bind fun o => ?_
  cases o with
  | none => exact local_throw _
  | some c => exact local_leadFrom c

end WalletPanel.Wire.Reader
