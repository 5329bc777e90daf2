import WalletPanel.Domain.Mapping
import WalletPanel.Domain.Punycode
import WalletPanel.Text.Direction
import WalletPanel.Text.Joining
import WalletPanel.Text.Normal

/-!
# Labels of names

A label is a part of a name between its dots. One that begins with `xn--` stands for the label that
the rest of it encodes (`Label.resolved?`), and only for one that would be written so: it has to be
in its normal form already.

A label begins with no mark (`Label.beginsWell`). A joiner stands only where it changes how letters
are joined (`Label.joinersFit`): behind a mark that suppresses a vowel, or, if it separates, between
two letters that would be joined. Where a name has any character that runs from right to left, each
label has to be readable in either direction (`Label.isDirected`).
-/

namespace WalletPanel.Domain

/-- A part of a name between its dots. -/
abbrev Label := List Char

namespace Label

def isAscii (c : Char) : Bool := c.toNat < 0x80

/-! ### Encoded labels -/

/-- What an encoded label begins with. -/
def mark : List Char := ['x', 'n', '-', '-']

def isEncoded (label : Label) : Bool := mark.isPrefixOf label

/-- The most characters that an encoded label may have behind its mark. -/
def encodedLimit : Nat := 2000

/-- The most characters that a label with others than those of ASCII may have. -/
def spelledLimit : Nat := 1000

/-- Whether a label is what an encoded one may stand for: it is in its normal form, has a reason to
be encoded, and is not encoded again. -/
def isEncodable (label : Label) : Bool :=
  !label.all isAscii && !isEncoded label && label.all isSettled && Text.normal label == label

/-- The label that a label stands for. -/
def resolved? (label : Label) : Option Label :=
  if isEncoded label then do
    let code := label.drop mark.length
    guard (code.all isAscii && code.length ≤ encodedLimit)
    let spelled ← Punycode.decode? code
    -- two labels that look different are not to stand for the same name
    guard (isEncodable spelled)
    some spelled
  else do
    guard (label.all isAscii || label.length ≤ spelledLimit)
    some label

/-! ### Marks and joiners -/

/-- Whether a label does not begin with a mark. -/
def beginsWell : Label → Bool
  | [] => true
  | c :: _ => !Text.isMark c

/-- The combining class of the marks that suppress a vowel. -/
def suppressorClass : Nat := 9

/-- Whether the nearest of these characters that is not passed over is joined as one of `kinds`. -/
def isJoinedAs (kinds : List Text.Joining) (s : List Char) : Bool :=
  match (s.map Text.joining).dropWhile (· == .transparent) with
  | [] => false
  | kind :: _ => kinds.contains kind

/-- Whether a joiner may stand between the characters `before` it, the last one first, and those
`after` it. -/
def joinerFits (before : List Char) (joiner : Char) (after : List Char) : Bool :=
  match before with
  | [] => false
  | c :: _ =>
    -- either joiner may follow a suppressed vowel; only the one that separates may stand between
    -- letters
    Text.combiningClass c == suppressorClass ||
      (joiner == '\u200C' && isJoinedAs [.after, .both] before && isJoinedAs [.before, .both] after)

/-- Whether each joiner may stand where it does; `before` are the characters that have been passed,
the last one first. -/
def joinersFitFrom (before : List Char) : Label → Bool
  | [] => true
  | c :: s => (!isJoiner c || joinerFits before c s) && joinersFitFrom (c :: before) s

/-- Whether each joiner of a label may stand where it does. -/
def joinersFit (label : Label) : Bool := joinersFitFrom [] label

/-! ### Directions -/

/-- Whether a character runs from right to left, or belongs to a number among such. -/
def isFromRight (c : Char) : Bool :=
  Text.direction c == .rightToLeft || Text.direction c == .arabicNumber

/-- Whether the last of these directions that is no mark's is one of `ends`. -/
def endsAs (ends : List Text.Direction) (ds : List Text.Direction) : Bool :=
  match ds.reverse.dropWhile (· == .nonspacing) with
  | [] => false
  | d :: _ => ends.contains d

/-- Whether a label begins and ends with characters that show its direction, and has none between
them that would break it. -/
def isDirected (label : Label) : Bool :=
  let ds := label.map Text.direction
  match ds with
  | [] => true
  -- _ =>
  | .leftToRight :: _ =>
    !label.any isFromRight && endsAs [.leftToRight, .europeanNumber] ds
  -- _ =>
  | .rightToLeft :: _ =>
    !ds.contains .leftToRight && endsAs [.rightToLeft, .europeanNumber, .arabicNumber] ds &&
      !(ds.contains .europeanNumber && ds.contains .arabicNumber)
  | _ => false

end Label

end WalletPanel.Domain
