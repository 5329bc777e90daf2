import WalletPanel.Hash.Keccak
import WalletPanel.Text.Hex
import WalletPanel.Text.Quoted
import WalletPanel.Text.Utf8

/-!
# Addresses

An address is twenty octets. It is read from forty hexadecimal digits of either case, with or
without `0x` in front (`Address.parse`), and written in two ways: in lower case (`Address.plain`)
where programs read it, and in mixed case (`Address.checksummed`) where people do. The case of a
letter in the mixed form says whether the digit at the same place of a hash is eight or more, so
that a wrong digit shows; the case carries no part of the address, and reading does not look at it.
-/

namespace WalletPanel

/-- Twenty octets. -/
structure Address where
  /-- The octets, the first one first. -/
  octets : Vector UInt8 20
deriving DecidableEq, Repr

namespace Address

/-- Why a text is no address. -/
inductive ParseError where
  /-- The digits do not come in pairs. -/
  | oddLength
  /-- There are too many digits or too few. -/
  | wrongLength
  /-- The octet `octet` at `position` is no digit. -/
  | badDigit (octet : UInt8) (position : Nat)
deriving DecidableEq, Repr

/-- What is said about a text that is no address. An octet that is no digit is shown as the
character of its number. -/
def ParseError.message : ParseError → String
  | oddLength => "odd number of digits"
  | wrongLength => "invalid string length"
  | badDigit octet position =>
    s!"invalid character {Text.quotedChar (Char.ofNat octet.toNat)} at position {position}"

/-! ### Writing -/

/-- The forty digits in lower case. -/
def digits (a : Address) : List Char := a.octets.toList.flatMap Text.hexOctet

/-- The lower-case form. -/
def plain (a : Address) : String := String.ofList ('0' :: 'x' :: a.digits)

/-- Digits with a letter in upper case wherever the number at the same place is eight or more. -/
def mixCase (numbers : List Nat) (digits : List Char) : List Char :=
  List.zipWith (fun n d => if 8 ≤ n then d.toUpper else d) numbers digits

/-- The two halves of each octet, the high one first. -/
def nibbles (octets : List UInt8) : List Nat :=
  octets.flatMap fun b => [b.toNat / 16, b.toNat % 16]

/-- The mixed-case form: the numbers that decide the case are those of the hash of the lower-case
digits. -/
def checksummed (a : Address) : String :=
  let numbers := nibbles (Hash.Keccak.hash256 (Text.octets a.digits))
  String.ofList ('0' :: 'x' :: mixCase numbers a.digits)

/-! ### Reading -/

/-- Reads pairs of digits from `position` on. -/
def readOctets (position : Nat) : List UInt8 → Except ParseError (List UInt8)
  | high :: low :: rest => do
    let some h := Text.hexValue? (Char.ofNat high.toNat) | throw (.badDigit high position)
    let some l := Text.hexValue? (Char.ofNat low.toNat) | throw (.badDigit low (position + 1))
    return (16 * h + l).toUInt8 :: (← readOctets (position + 2) rest)
  -- a digit without another one has been ruled out by the length
  | _ => .ok []

/-- The address of twenty octets. -/
def ofOctets? (octets : List UInt8) : Option Address :=
  if h : octets.length = 20 then some ⟨⟨octets.toArray, by simpa using h⟩⟩ else none

/-- Reads an address. Lengths and places are counted in octets, after the `0x` if there is one; a
wrong length is found before a wrong digit. -/
def parse (s : String) : Except ParseError Address := do
  -- the mark has a small letter, as it is written
  let body := match Text.octets s.toList with
    | 0x30 :: 0x78 :: rest => rest
    | all => all
  if body.length % 2 = 1 then throw .oddLength
  if body.length ≠ 40 then throw .wrongLength
  match ofOctets? (← readOctets 0 body) with
  | some a => return a
  | none => throw .wrongLength

@[simp] theorem octets_ofOctets? {octets : List UInt8} {a : Address}
    (h : ofOctets? octets = some a) : a.octets.toList = octets := by
  unfold ofOctets? at h
  split at h
  · cases h; rfl
  · cases h

end Address

end WalletPanel
