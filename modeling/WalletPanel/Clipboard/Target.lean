/-!
# What can be copied

The values that the screens offer to copy. What is said after copying names the sort of value
(`CopyTarget.label`), the journal the value itself (`CopyTarget.name`).
-/

namespace WalletPanel

/-- A value that can be copied. -/
inductive CopyTarget where
  | createdAddress
  | createdPrivateKey
  | importedAddress
  /-- The address of the wallet at this place of the list. -/
  | listedAddress (index : Nat)
  | tokenContract
  | generatedContract
deriving DecidableEq, Repr

def CopyTarget.name : CopyTarget → String
  | createdAddress => "CreatedAddress"
  | createdPrivateKey => "CreatedPrivateKey"
  | importedAddress => "ImportedAddress"
  | listedAddress index => s!"ListedAddress({index})"
  | tokenContract => "TokenContract"
  | generatedContract => "GeneratedContract"

/-- The sort of a value that can be copied. -/
def CopyTarget.label : CopyTarget → String
  | createdAddress | importedAddress | listedAddress _ => "Address"
  | createdPrivateKey => "Private Key"
  | tokenContract | generatedContract => "Contract code"

end WalletPanel
