import WalletPanel.Decimal.Shortest

/-!
# Numbers of the wire form

A number is kept as a whole number as long as it fits sixty-four bits, with its sign where it has
one; anything else, a negative zero included, is a double. `Number.ofParts?` makes the double from
the digits that were read and a power of ten, by one rounded multiplication or by rounded divisions,
so that a value may be off by a last place and fails to be one only when it is too large.
-/

namespace WalletPanel.Wire

open Decimal (Binary64)

/-- A number as it was read. -/
inductive Number where
  /-- A whole number below `2 ^ 64`. -/
  | natural (n : Nat)
  /-- The negative of a positive number of at most `2 ^ 63`. -/
  | negative (n : Nat)
  /-- A double: its sign and its magnitude. -/
  | real (isNegative : Bool) (magnitude : Binary64)
deriving DecidableEq, Repr

namespace Number

/-- The first number that a word of sixty-four bits cannot hold. -/
def wordLimit : Nat := Nat.pow 2 64

/-- The greatest power of ten that a double can hold. -/
def greatestPower : Nat := 308

/-- The double nearest to `10 ^ k`, for powers up to `greatestPower`. -/
def powerOfTen (k : Nat) : Binary64 := (Binary64.ofNat? (Nat.pow 10 k)).getD Binary64.zero

/-- `x / 10 ^ k`, rounded after each division by a power that a double can hold. -/
def divideByPower (x : Binary64) (k : Nat) : Binary64 :=
  -- a power that no double can hold is divided by in parts
  if k ≤ greatestPower then (x.div? (powerOfTen k)).getD Binary64.zero
  -- zero stays zero, however often it is divided
  else if x.mantissa = 0 then x
  else divideByPower ((x.div? (powerOfTen greatestPower)).getD Binary64.zero) (k - greatestPower)
termination_by k
decreasing_by simp only [greatestPower] at *; omega

/-- `significand * 10 ^ power` as a double, unless it is too large for one. -/
def ofParts? (significand : Nat) (power : Int) : Option Binary64 :=
  if significand = 0 then some Binary64.zero
  else do
    -- the digits are rounded before they are scaled, so that there are two roundings
    let x ← Binary64.ofNat? significand
    if power < 0 then some (divideByPower x power.natAbs)
    else if power.toNat ≤ greatestPower then x.mul? (powerOfTen power.toNat)
    else none

/-- The whole number `n`, which is below `2 ^ 64`, with a sign. -/
def ofWhole (isNegative : Bool) (n : Nat) : Number :=
  if isNegative then
    if 0 < n ∧ n ≤ Nat.pow 2 63 then negative n
    -- zero has its sign only as a double, and the others do not fit
    else real true ((Binary64.ofNat? n).getD Binary64.zero)
  else natural n

/-- The text of a number in a message. -/
def text : Number → String
  | natural n => String.ofList (Text.decimal n)
  | negative n => String.ofList ('-' :: Text.decimal n)
  | real isNegative x => String.ofList ((if isNegative then ['-'] else []) ++ x.text)

/-- The text of a number in a message that says of which sort it is. -/
def description : Number → String
  | n@(real _ _) => s!"floating point `{n.text}`"
  | n => s!"integer `{n.text}`"

end Number

end WalletPanel.Wire
