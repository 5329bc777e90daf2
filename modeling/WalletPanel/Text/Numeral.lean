/-!
# Numerals

Decimal numerals as the panel writes and accepts them.

* `decimal` writes a number in its canonical digits, `padded` fills up to a width with zeros, and
  `grouped` puts a comma before every third digit from the right.
* `numeral?` accepts digits with at most one plus sign in front, and any number of leading zeros;
  `numeralBelow?` also refuses what reaches a bound. Nothing is cut or wrapped: the value is that
  of all the digits (`digitsValue_append_singleton`).
-/

namespace WalletPanel.Text

/-! ### Writing -/

/-- The decimal digits of `n` without leading zeros; zero is one digit. -/
def decimal (n : Nat) : List Char := Nat.toDigits 10 n

/-- The decimal digits of `n`, filled up with zeros to at least `width` characters. -/
def padded (width n : Nat) : List Char :=
  List.replicate (width - (decimal n).length) '0' ++ decimal n

/-- The characters of `s` with a comma before each that has a multiple of three after and
including it, the first excepted. -/
def grouped : List Char → List Char
  | [] => []
  | [c] => [c]
  | c :: d :: rest =>
    if (rest.length + 1) % 3 = 0 then c :: ',' :: grouped (d :: rest)
    else c :: grouped (d :: rest)

/-- Taking the commas away again gives back what was grouped. -/
theorem filter_grouped {s : List Char} (h : ∀ c ∈ s, c ≠ ',') :
    (grouped s).filter (· ≠ ',') = s := by
  -- the cases of `grouped`: a comma before the rest, or none
  induction s using grouped.induct with
  | case1 => rfl
  | case2 c => simp [grouped, h c]
  | case3 c d rest hlen ih =>
    have hc := h c (by simp)
    have := ih (fun x hx => h x (by simp [List.mem_cons.1 hx]))
    rw [grouped, if_pos hlen]
    simpa [hc] using this
  | case4 c d rest hlen ih =>
    have hc := h c (by simp)
    have := ih (fun x hx => h x (by simp [List.mem_cons.1 hx]))
    rw [grouped, if_neg hlen]
    simpa [hc] using this

/-! ### Reading -/

def digitValue (c : Char) : Nat := c.toNat - '0'.toNat

def digitsValue (s : List Char) : Nat := s.foldl (fun n c => 10 * n + digitValue c) 0

@[simp] theorem digitsValue_nil : digitsValue [] = 0 := rfl

/-- One more digit multiplies by ten and adds. -/
theorem digitsValue_append_singleton (s : List Char) (c : Char) :
    digitsValue (s ++ [c]) = 10 * digitsValue s + digitValue c := by
  simp [digitsValue]

/-- An unsigned numeral: one digit or more, with at most one plus sign in front. -/
def numeral? (s : List Char) : Option Nat :=
  let digits := match s with
    | '+' :: rest => rest
    | _ => s
  if digits ≠ [] ∧ digits.all Char.isDigit then some (digitsValue digits) else none

/-- An unsigned numeral whose value is below `bound`. -/
def numeralBelow? (bound : Nat) (s : List Char) : Option Nat :=
  (numeral? s).filter (· < bound)

@[simp] theorem numeral?_nil : numeral? [] = none := rfl

end WalletPanel.Text
