/-!
# Doubles as exact fractions

The finite doubles without sign, each as a whole mantissa times a power of two. Arithmetic is exact
on the fractions and then rounded once (`Binary64.ofRatio?`): to the nearest double, a half to the
even mantissa, and to nothing where the value is too large for any.
-/

namespace WalletPanel.Decimal

/-- The finite double `mantissa * 2 ^ exponent`. A mantissa below `2 ^ 52` occurs only with the
least exponent, so that each double has one form. -/
structure Binary64 where
  /-- The whole part of the value, below `2 ^ 53`. -/
  mantissa : Nat
  /-- The power of two it is multiplied by. -/
  exponent : Int
deriving DecidableEq, Repr

/-- `numerator / denominator` rounded to a whole number, a half to the even one. -/
def roundHalfEven (numerator denominator : Nat) : Nat :=
  let q := numerator / denominator
  let r := numerator % denominator
  -- the remainder is compared with half of the denominator, doubled on both sides
  if 2 * r < denominator then q
  else if denominator < 2 * r then q + 1
  else if q % 2 = 0 then q
  else q + 1

namespace Binary64

def minExponent : Int := -1074

def maxExponent : Int := 971

def zero : Binary64 := ⟨0, minExponent⟩

def toRatio (x : Binary64) : Nat × Nat :=
  if 0 ≤ x.exponent then (x.mantissa * Nat.pow 2 x.exponent.toNat, 1)
  else (x.mantissa, Nat.pow 2 (-x.exponent).toNat)

/-- `numerator / denominator` in units of `2 ^ e`, as a fraction again. -/
def inUnits (numerator denominator : Nat) (e : Int) : Nat × Nat :=
  if 0 ≤ e then (numerator, denominator * Nat.pow 2 e.toNat)
  else (numerator * Nat.pow 2 (-e).toNat, denominator)

/-- The double nearest to `numerator / denominator`, a half to the even mantissa. The exponent is
the one that leaves 53 binary digits, or the least one; `none` stands for a value that rounds to
more than the greatest double. -/
def ofRatio? (numerator denominator : Nat) : Option Binary64 :=
  if numerator = 0 then some zero
  else
    -- the binary logarithms give the exponent up to one
    let guess : Int := max (Int.ofNat numerator.log2 - Int.ofNat denominator.log2 - 53) minExponent
    let (n, d) := inUnits numerator denominator guess
    let e := if n / d < Nat.pow 2 53 then guess else guess + 1
    let (n, d) := inUnits numerator denominator e
    let m := roundHalfEven n d
    -- rounding may have carried over into a binary digit more
    let x : Binary64 := if m < Nat.pow 2 53 then ⟨m, e⟩ else ⟨Nat.pow 2 52, e + 1⟩
    if x.exponent ≤ maxExponent then some x else none

/-- The double nearest to a whole number. -/
def ofNat? (n : Nat) : Option Binary64 := ofRatio? n 1

def mul? (x y : Binary64) : Option Binary64 :=
  ofRatio? (x.toRatio.1 * y.toRatio.1) (x.toRatio.2 * y.toRatio.2)

def div? (x y : Binary64) : Option Binary64 :=
  ofRatio? (x.toRatio.1 * y.toRatio.2) (x.toRatio.2 * y.toRatio.1)

end Binary64

end WalletPanel.Decimal
