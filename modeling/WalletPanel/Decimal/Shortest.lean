import WalletPanel.Decimal.Binary64
import WalletPanel.Text.Numeral

/-!
# The shortest decimal text of a double

The fewest decimal digits that read back as the same double. The numbers that round to a double
form an interval around it, ends included exactly when the mantissa is even. On each decimal grid,
from one digit to seventeen, the two neighbours of the double are tested: if any point of a grid
lies in the interval, so does one of them, and hence the first grid with a hit has the fewest
digits. Of two hits the nearer one is taken, and the even one of two equally near.

`Shortest.text` writes the digits: with a point while the point falls within sixteen digits before
or five zeros after, otherwise in powers of ten.
-/

namespace WalletPanel.Decimal

/-- A decimal number `digits * 10 ^ exponent`. -/
structure Shortest where
  /-- The digits as one whole number. -/
  digits : Nat
  /-- The power of ten it is multiplied by. -/
  exponent : Int
deriving DecidableEq, Repr

namespace Shortest

/-- `n / d * 10 ^ -k` as a fraction. -/
def onGrid (n d : Nat) (k : Int) : Nat × Nat :=
  if 0 ≤ k then (n, d * Nat.pow 10 k.toNat) else (n * Nat.pow 10 (-k).toNat, d)

/-- The greatest `k` with `10 ^ k ≤ n / d`, for a positive fraction. The binary logarithm gives it
up to one. -/
def magnitude (n d : Nat) : Int :=
  -- the logarithm of two to the base ten is about 0.30103
  let guess : Int := (Int.ofNat n.log2 - Int.ofNat d.log2) * 30103 / 100000
  let reaches (k : Int) : Bool := let (a, b) := onGrid n d k; b ≤ a
  if reaches (guess + 1) then guess + 1
  else if reaches guess then guess
  else guess - 1

/-- Cuts zeros off the end, at most `fuel` of them. -/
def cutZeros : Nat → Shortest → Shortest
  | 0, s => s
  | fuel + 1, s =>
    if s.digits % 10 = 0 then cutZeros fuel ⟨s.digits / 10, s.exponent + 1⟩ else s

/-- The neighbour of a positive double on the grid `10 ^ k` that reads back as it, if there is one.
All comparisons are made in quarters of the last binary place, where the ends of the interval are
whole: two quarters above, and two below or, where the doubles below lie closer, one. -/
def neighbour? (x : Binary64) (k : Int) : Option Nat :=
  let below := if x.mantissa = Nat.pow 2 52 ∧ Binary64.minExponent < x.exponent then 1 else 2
  let (m, unit) := Binary64.toRatio ⟨4 * x.mantissa, x.exponent - 2⟩
  let (quarter, _) := Binary64.toRatio ⟨1, x.exponent - 2⟩
  let low := m - below * quarter
  let high := m + 2 * quarter
  let (n, d) := onGrid m unit k
  let (lowN, _) := onGrid low unit k
  let (highN, _) := onGrid high unit k
  -- an even mantissa has the ends of its interval, as halves go to the even one
  let inside (p : Nat) : Bool :=
    if x.mantissa % 2 = 0 then lowN ≤ p * d && p * d ≤ highN else lowN < p * d && p * d < highN
  -- zero reads back as zero, so that it is no neighbour of a positive double
  let floor := n / d
  let remainder := n % d
  let lower := floor != 0 && inside floor
  let upper := inside (floor + 1)
  -- both read back, so that the nearer one is taken
  if lower && upper then
    if 2 * remainder < d ∨ (2 * remainder = d ∧ floor % 2 = 0) then some floor else some (floor + 1)
  else if lower then some floor
  else if upper then some (floor + 1)
  else none

/-- The first of the grids from `k` down, `fuel` of them, on which a neighbour reads back. -/
def search (x : Binary64) : Nat → Int → Shortest
  | 0, k => ⟨0, k⟩
  | fuel + 1, k =>
    match neighbour? x k with
    -- the first grid with a hit has the fewest digits
    | some p => ⟨p, k⟩
    | none => search x fuel (k - 1)

/-- The shortest decimal number that reads back as `x`. Seventeen digits always suffice. -/
def ofBinary64 (x : Binary64) : Shortest :=
  if x.mantissa = 0 then ⟨0, 0⟩
  else
    let (n, d) := x.toRatio
    cutZeros 20 (search x 17 (magnitude n d))

/-- The text of a decimal number. With `point` digits before the point (counted from the first
digit, so that it may be negative), the number is written out while `-5 < point ≤ 16`; a whole one
has `.0`. Beyond, it has one digit before the point and a power of ten. -/
def text (s : Shortest) : List Char :=
  if s.digits = 0 then ['0', '.', '0']
  else
    let ds := Text.decimal s.digits
    let point : Int := ds.length + s.exponent
    -- a whole number
    if 0 ≤ s.exponent ∧ point ≤ 16 then
      ds ++ List.replicate s.exponent.toNat '0' ++ ['.', '0']
    -- a number with its point among its digits
    else if 0 < point ∧ point ≤ 16 then
      ds.take point.toNat ++ '.' :: ds.drop point.toNat
    -- a number with a few zeros after its point
    else if -5 < point ∧ point ≤ 0 then
      ['0', '.'] ++ List.replicate (-point).toNat '0' ++ ds
    else
      let power := (toString (point - 1)).toList
      -- one digit before the point, and no point where there are no others
      match ds with
      | [d] => d :: 'e' :: power
      | d :: rest => d :: '.' :: rest ++ 'e' :: power
      | [] => []

end Shortest

/-- The shortest decimal text that reads back as `x`. -/
def Binary64.text (x : Binary64) : List Char := (Shortest.ofBinary64 x).text

end WalletPanel.Decimal
