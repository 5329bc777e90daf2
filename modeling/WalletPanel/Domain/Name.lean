import WalletPanel.Domain.Label
import WalletPanel.Text.Pieces

/-!
# Domain names

A name is a row of labels with dots between them, written in any script. `Name.labels?` brings it
into its normal form and takes it apart: its characters are mapped, the whole is put into the normal
form of texts, and what is then between dots is resolved and checked. A name of ASCII characters
with no encoded label only has its capital letters changed, so that nothing is looked up for it.
-/

namespace WalletPanel.Domain.Name

/-- Whether a character divides a name. -/
def isDot (c : Char) : Bool := c == '.'

/-- The labels of a name with its characters mapped, and in the normal form of texts. -/
def written? (s : List Char) : Option (List Label) := do
  -- one character that may not occur spoils the name
  let mapped ← s.mapM mapped?
  some (Text.pieces isDot (Text.normal mapped.flatten))

/-- The labels that a name stands for, if all of them are well-formed. -/
def resolved? (s : List Char) : Option (List Label) := do
  let labels ← (← written? s).mapM Label.resolved?
  guard (labels.all fun label => label.beginsWell && label.joinersFit)
  -- only a name with something from right to left has to keep the rules of direction
  guard (labels.all Label.isDirected || !labels.any (·.any Label.isFromRight))
  some labels

/-- The labels of a name in its normal form, unless it is none. -/
def labels? (s : List Char) : Option (List Label) :=
  let plain := Text.pieces isDot (s.map Char.toLower)
  if s.all Label.isAscii && !plain.any Label.isEncoded then some plain else resolved? s

end WalletPanel.Domain.Name
