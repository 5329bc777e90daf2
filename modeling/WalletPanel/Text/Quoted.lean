import WalletPanel.Text.Hex
import WalletPanel.Text.Hidden

/-!
# Quoted texts

A text between quotes, for messages that show a piece of what was read. A quote, a backslash, a tab
and the ends of lines are written with a backslash, and a hidden character (`isHidden`) by its
number, so that what stands between the quotes can be seen.
-/

namespace WalletPanel.Text

/-- How `c` is shown between marks `quote`. -/
def shown (quote c : Char) : List Char :=
  if c = '\x00' then ['\\', '0']
  else if c = '\t' then ['\\', 't']
  else if c = '\r' then ['\\', 'r']
  else if c = '\n' then ['\\', 'n']
  -- the mark of the other kind needs no backslash
  else if c = '\\' ∨ c = quote then ['\\', c]
  else if isHidden c then ['\\', 'u', '\x7b'] ++ hexadecimal c.toNat ++ ['\x7d']
  else [c]

def quoted (s : String) : String :=
  String.ofList ('"' :: s.toList.flatMap (shown '"') ++ ['"'])

/-- One character between single quotes. -/
def quotedChar (c : Char) : String := String.ofList ('\x27' :: shown '\x27' c ++ ['\x27'])

end WalletPanel.Text
