import WalletPanel.Text.Hex
import WalletPanel.Text.Numeral

/-!
# Server addresses of four octets

The parts of a dotted address are numbers of base ten, eight (`017`) or sixteen (`0xF`). The last
part fills all the octets that the parts before it leave, so that an address may have fewer than
four parts. A name whose last part is a number is always taken for an address (`Ipv4.isMeant`),
whether it is one (`Ipv4.isValid`) or not.
-/

namespace WalletPanel.Http.Ipv4

/-- The value of digits in `base`, unless one of them is no digit of it. -/
def value? (base : Nat) (digits : List Char) : Option Nat :=
  digits.foldlM (fun n c => do
    let d ← Text.hexValue? c
    guard (d < base)
    some (base * n + d)) 0

/-- The value of a part, by the base that its beginning says. -/
def part? : List Char → Option Nat
  | [] => none
  | '0' :: 'x' :: digits => value? 16 digits
  | '0' :: 'X' :: digits => value? 16 digits
  | '0' :: c :: digits => value? 8 (c :: digits)
  | digits => value? 10 digits

/-- The parts of a name without an empty one at its end. -/
def withoutLastEmpty (parts : List (List Char)) : List (List Char) :=
  if 1 < parts.length ∧ parts.getLast? = some [] then parts.dropLast else parts

/-- Whether a name ends in a number, of whatever size, or in decimal digits that were to be one. -/
def isMeant (parts : List (List Char)) : Bool :=
  match (withoutLastEmpty parts).getLast? with
  | none | some [] => false
  | some last => last.all Char.isDigit || (part? last).isSome

/-- Whether the parts are numbers that fit: each but the last in an octet, the last in all octets
that are left. -/
def isValid (parts : List (List Char)) : Bool :=
  let parts := withoutLastEmpty parts
  match parts.mapM part? with
  | none => false
  | some numbers =>
    -- the last part fills the octets that are left over
    parts.length ≤ 4 && numbers.dropLast.all (· < 256) &&
      numbers.getLast?.all (· < Nat.pow 256 (5 - numbers.length))

end WalletPanel.Http.Ipv4
