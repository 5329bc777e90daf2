import WalletPanel.Wire.Text

/-!
# Reading what a value begins with

`Reader.lead` reads a scalar to its end, or finds the bracket of a list or an object and leaves it
in place. Every reader of a value starts with it: what it finds either is what was asked for, or
says in the error what was found instead.

`Reader.skipNumber` passes over a number that is not wanted. It holds the number to its form, but
not to any size.
-/

namespace WalletPanel.Wire.Reader

/-! ### Numbers -/

/-- Passes over the digits that come next and yields them. -/
def digits : Reader (List Char) := fun s =>
  let ds := s.takeWhile Char.isDigit
  .ok ds (s.drop ds.length)

/-- The next character, left in place and without passing over blanks. -/
def front : Reader (Option Char) := fun s => .ok s.head? s

/-- Takes digits into a number as long as it stays below `2 ^ 64`; yields the number and how many
digits it took. -/
def absorb (n : Nat) : List Char → Nat × Nat
  | [] => (n, 0)
  | d :: ds =>
    let m := 10 * n + Text.digitValue d
    -- the first digit that does not fit ends it, and so do all after it
    if m < Number.wordLimit then
      let (value, taken) := absorb m ds
      (value, taken + 1)
    else (n, 0)

/-- The double with a sign and these parts. -/
def realOf (isNegative : Bool) (significand : Nat) (power : Int) : Reader Number :=
  match Number.ofParts? significand power with
  | some x => pure (.real isNegative x)
  | none => throw .numberTooLarge

/-- The least number that is too large for an exponent. -/
def exponentLimit : Nat := Nat.pow 2 31

/-- What is left of digits after the one by which the number they write, begun with `n`, reaches
`exponentLimit`; none if it stays below. -/
def beyondLimit? (n : Nat) : List Char → Option (List Char)
  | [] => none
  | d :: ds =>
    let m := 10 * n + Text.digitValue d
    if m < exponentLimit then beyondLimit? m ds else some ds

/-- The rest of a number from the mark of its exponent. Once the exponent shows that the number is
too large, nothing more of it is read. -/
def exponentPart (isNegative : Bool) (significand : Nat) (power : Int) : Reader Number := do
  advance
  -- a sign may stand before the digits, and they may not be missing
  let below ← match ← front with
    | some '+' => do advance; pure false
    | some '-' => do advance; pure true
    | _ => pure false
  if (← front).isNone then throw .endInValue
  let ds ← digits
  if ds = [] then do advance; throw .brokenNumber
  let n := Int.ofNat (Text.digitsValue ds)
  if below then realOf isNegative significand (power - n)
  else
    -- zero stays zero by any power, so that no exponent is too large for it
    match if significand = 0 then none else beyondLimit? 0 ds with
    | some unread => do
      modify (unread ++ ·)
      throw .numberTooLarge
    | none => realOf isNegative significand (power + n)

/-- The rest of a number from its point. Digits that no longer fit are passed over. -/
def fractionPart (isNegative : Bool) (significand : Nat) (power : Int) : Reader Number := do
  advance
  let ds ← digits
  if ds = [] then
    match ← front with
    | none => throw .endInValue
    | some _ => throw .brokenNumber
  -- each digit that was taken in is a tenth of the one before
  let (value, taken) := absorb significand ds
  let power := power - Int.ofNat taken
  match ← front with
  | some 'e' | some 'E' => exponentPart isNegative value power
  | _ => realOf isNegative value power

/-- The digits before the point. A zero stands alone; where a digit follows it, nothing but the
zero has been passed. -/
def wholeDigits : Reader (List Char) := do
  match ← front with
  | some '0' => do
    advance
    -- a digit behind a zero is an error at the zero
    match ← front with
    | some c => if c.isDigit then throw .brokenNumber else pure ['0']
    | none => pure ['0']
  | _ => do
    let ds ← digits
    if ds = [] then do advance; throw .brokenNumber
    pure ds

/-- A number after its sign. Digits of the whole part that no longer fit count as zeros. -/
def number (isNegative : Bool) : Reader Number := do
  if (← front).isNone then throw .endInValue
  let ds ← wholeDigits
  -- what no longer fits makes the number a double
  let (value, taken) := absorb 0 ds
  let left := ds.length - taken
  match ← front with
  | some '.' => fractionPart isNegative value left
  | some 'e' | some 'E' => exponentPart isNegative value left
  | _ => if left = 0 then pure (.ofWhole isNegative value) else realOf isNegative value left

/-! ### Leads -/

/-- What begins with the character `c`, which comes next. -/
def leadFrom (c : Char) : Reader Lead :=
  if c = 'n' then do advance; restOfWord ['u', 'l', 'l']; pure .null
  else if c = 't' then do advance; restOfWord ['r', 'u', 'e']; pure (.bool true)
  else if c = 'f' then do advance; restOfWord ['a', 'l', 's', 'e']; pure (.bool false)
  -- the sign is passed here, and the number is read behind it
  else if c = '-' then do advance; pure (.number (← number true))
  else if c.isDigit then do pure (.number (← number false))
  else if c = '"' then do advance; pure (.text (← text))
  -- brackets are left for those who know what to do inside
  else if c = '[' then pure .list
  else if c = '\x7b' then pure .object
  else throw .noValue

/-- What begins at the next mark. -/
def lead : Reader Lead := do
  match ← peek with
  | none => throw .endInValue
  | some c => leadFrom c

/-! ### Passing over -/

/-- Passes over the digits of an exponent, from its mark. -/
def skipExponent : Reader Unit := do
  advance
  match ← front with
  | some '+' | some '-' => advance
  | _ => pure ()
  let ds ← digits
  -- what stands in place of a digit is passed, as it is when a number is read
  if ds = [] then do advance; throw .brokenNumber

/-- Passes over the digits of a fraction, from its point. -/
def skipFraction : Reader Unit := do
  advance
  let ds ← digits
  if ds = [] then throw .brokenNumber
  match ← front with
  | some 'e' | some 'E' => skipExponent
  | _ => pure ()

/-- Passes over a number after its sign. -/
def skipNumber : Reader Unit := do
  let _ ← wholeDigits
  match ← front with
  | some '.' => skipFraction
  | some 'e' | some 'E' => skipExponent
  | _ => pure ()

end WalletPanel.Wire.Reader
