import WalletPanel.Text.Normal.Order
import WalletPanel.Text.Normal.Table

/-!
# The normal form of texts

Texts that are canonically the same have one normal form (`normal`): every character is taken apart
into what it is composed from (`decomposed`), the marks are put in order (`ordered`), and each
character is composed with the marks after it as far as a composed character exists (`composed`). A
mark can be composed with the character it belongs to unless a mark of its class, or another
character, stands between them.
-/

namespace WalletPanel.Text

/-! ### Korean syllables -/

namespace Hangul

/-- The first syllable. -/
def syllables : Nat := 0xAC00

/-- The first letter that begins a syllable. -/
def initials : Nat := 0x1100

/-- The first letter that stands in the middle of a syllable. -/
def medials : Nat := 0x1161

/-- The code point before the first letter that ends a syllable. -/
def finals : Nat := 0x11A7

/-- How many letters may begin a syllable. -/
def initialCount : Nat := 19

/-- How many letters may stand in the middle of a syllable. -/
def medialCount : Nat := 21

/-- How many ends a syllable may have, of which one is to have none. -/
def finalCount : Nat := 28

def syllableCount : Nat := initialCount * medialCount * finalCount

/-- The letters of the syllable with the code point `n`. -/
def letters? (n : Nat) : Option (List Nat) :=
  if syllables ≤ n ∧ n < syllables + syllableCount then
    let i := n - syllables
    let opening := [initials + i / (medialCount * finalCount),
      medials + i / finalCount % medialCount]
    some (if i % finalCount = 0 then opening else opening ++ [finals + i % finalCount])
  else none

/-- The syllable that two letters make, or that a syllable without an end makes with one. -/
def syllable? (m n : Nat) : Option Nat :=
  if initials ≤ m ∧ m < initials + initialCount ∧ medials ≤ n ∧ n < medials + medialCount then
    some (syllables + ((m - initials) * medialCount + (n - medials)) * finalCount)
  else if syllables ≤ m ∧ m < syllables + syllableCount ∧ (m - syllables) % finalCount = 0 ∧
      finals < n ∧ n < finals + finalCount then
    -- a syllable without an end leaves room for one in its code point
    some (m + (n - finals))
  else none

end Hangul

/-! ### Taking apart -/

/-- What a code point stands for, if it can be taken apart. -/
def parts? (n : Nat) : Option (List Nat) :=
  match Hangul.letters? n with
  | some letters => some letters
  | none =>
    -- a substitute is one character, and a composite two
    match substitutes.image? n with
    | some m => some [m]
    | none => ((composites ++ splitOnly).lookup n).map fun (first, second) => [first, second]

/-- A code point taken apart, its parts as well, as often as `depth` says. -/
def takenApart : (depth : Nat) → Nat → List Nat
  | 0, n => [n]
  | depth + 1, n =>
    match parts? n with
    | some parts => parts.flatMap (takenApart depth)
    | none => [n]

/-- How often a character can be taken apart at most. -/
def greatestDepth : Nat := 3

/-- A text with every character taken apart. -/
def decomposed (s : List Char) : List Char :=
  s.flatMap fun c => (takenApart greatestDepth c.toNat).map Char.ofNat

/-! ### Composing -/

/-- The character that two characters compose. -/
def composite? (c d : Char) : Option Char :=
  match Hangul.syllable? c.toNat d.toNat with
  | some n => some (Char.ofNat n)
  | none => (composites.find? (·.2 = (c.toNat, d.toNat))).map (Char.ofNat ·.1)

/-- Composes what begins with the character `base`; `marks` are those behind it that stay marks, the
last one first. -/
def composedFrom (base : Char) (marks : List Char) : List Char → List Char
  | [] => base :: marks.reverse
  | c :: s =>
    -- the nearest mark that stays has the greatest class of those that stay
    let isApart := match marks with
      | [] => false
      | d :: _ => combiningClass c ≤ combiningClass d
    match if isApart then none else composite? base c with
    | some b => composedFrom b marks s
    | none =>
      -- a character of its own, with which composing begins anew
      if combiningClass c = 0 then base :: marks.reverse ++ composedFrom c [] s
      else composedFrom base (c :: marks) s

/-- An ordered text with its characters composed. -/
def composed : List Char → List Char
  | [] => []
  | c :: s => composedFrom c [] s

def normal (s : List Char) : List Char := composed (ordered (decomposed s))

@[simp] theorem normal_nil : normal [] = [] := rfl

end WalletPanel.Text
