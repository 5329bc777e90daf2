import WalletPanel.Wire.Kind

/-!
# Private keys

The text that controls a wallet. It is written out where the user asks for it (`PrivateKey.expose`)
and where it is sent to the backend; everywhere else it is masked, and a description of a value
that holds one has the same words for every key (`PrivateKey.description`).
-/

namespace WalletPanel

/-- A key, as a text of any form. -/
structure PrivateKey where
  expose : String
deriving DecidableEq

namespace PrivateKey

/-- What is shown in place of a key: thirty-two dots, whatever its length. -/
def mask : String := String.ofList (List.replicate 32 '•')

def description (_ : PrivateKey) : String := "PrivateKey(<redacted>)"

/-- The wire form of a key is that of its text. -/
def write (k : PrivateKey) : List Char := Wire.writeText k.expose

def read : Wire.Reader PrivateKey := do
  let s ← Wire.Kind.read .text
  pure ⟨s⟩

def parse (text : String) : Except Wire.Error PrivateKey := read.run text.toList

end PrivateKey

end WalletPanel
