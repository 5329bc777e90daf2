import WalletPanel.Text.Hex
import WalletPanel.Text.Numeral
import WalletPanel.Text.Pieces

/-!
# Server addresses of eight groups

An address of eight groups of sixteen bits, in hexadecimal digits with colons between them. Two
colons in a row stand for at least one group of zeros and may occur once. The last two groups may be
written as four octets in decimal digits with dots between them.
-/

namespace WalletPanel.Http.Ipv6

/-- Whether a text is a group: one to four hexadecimal digits. -/
def isGroup (s : List Char) : Bool :=
  s ≠ [] && s.length ≤ 4 && s.all fun c => (Text.hexValue? c).isSome

/-- Whether a text is an octet in decimal digits, without zeros in front. -/
def isOctet (s : List Char) : Bool :=
  s ≠ [] && s.all Char.isDigit && (s.length = 1 || s.head? ≠ some '0') && Text.digitsValue s < 256

/-- Whether a text is four octets with dots between them. -/
def isDotted (s : List Char) : Bool :=
  let octets := Text.pieces (· == '.') s
  octets.length = 4 && octets.all isOctet

/-- How many groups a row of groups is, of which the last may be dotted if `mayBeDotted`. -/
def groupCount? (mayBeDotted : Bool) : List (List Char) → Option Nat
  | [] => some 0
  -- four dotted octets are as long as two groups
  | [last] => if isGroup last then some 1 else if mayBeDotted && isDotted last then some 2 else none
  | piece :: rest => do
    guard (isGroup piece)
    let n ← groupCount? mayBeDotted rest
    some (n + 1)

/-- A text before and after the first two colons in it. -/
def atGap? : List Char → Option (List Char × List Char)
  | [] => none
  | ':' :: ':' :: s => some ([], s)
  | c :: s => (atGap? s).map fun (before, after) => (c :: before, after)

/-- The groups of a side of a gap, which may be empty. -/
def groups (s : List Char) : List (List Char) :=
  if s = [] then [] else Text.pieces (· == ':') s

def isValid (s : List Char) : Bool :=
  match atGap? s with
  | none => groupCount? true (groups s) == some 8
  | some (before, after) =>
    match groupCount? false (groups before), groupCount? true (groups after) with
    -- the gap stands for one group at least
    | some m, some n => m + n < 8
    | _, _ => false

end WalletPanel.Http.Ipv6
