import WalletPanel.Domain.Mapping.Table
import WalletPanel.Text.Unseen

/-!
# Characters in names

A name is written the same whatever variants of its characters were typed. `mapped?` says what
becomes of one character: it is left out, it is written with others, it stays, or it may not occur.
A character that stays is settled (`isSettled`).
-/

namespace WalletPanel.Domain

/-- Whether `c` says that its neighbours are joined, or that they are not. -/
def isJoiner (c : Char) : Bool := c == '\u200C' || c == '\u200D'

/-- What `c` is written with, if it is a variant of other characters. -/
def variant? (c : Char) : Option (List Char) :=
  match Text.imageInRuns? variantRuns c.toNat with
  | some n => some [Char.ofNat n]
  | none =>
    match variantRows.image? c.toNat with
    | some n => some [Char.ofNat n]
    | none => (variantSpellings.lookup c.toNat).map (·.map Char.ofNat)

/-- Whether `c` may not occur in a name. Which characters of ASCII may is left to those who say what
the name is for. -/
def isRefused (c : Char) : Bool :=
  refusedRanges.covers c || (0x80 ≤ c.toNat && Text.isUnseen c && !isJoiner c)

/-- What becomes of a character of a name, unless it may not occur. -/
def mapped? (c : Char) : Option (List Char) :=
  -- characters that cannot be seen are left out before any other question
  if omittedRanges.covers c then some []
  else
    match variant? c with
    | some spelling => some spelling
    | none => if isRefused c then none else some [c]

/-- Whether a character stays as it is. -/
def isSettled (c : Char) : Bool := mapped? c == some [c]

end WalletPanel.Domain
