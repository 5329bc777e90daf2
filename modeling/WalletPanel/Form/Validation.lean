/-!
# What can be wrong with a form
-/

namespace WalletPanel

/-- The first thing that is wrong with a form. -/
inductive ValidationError where
  | missingWalletName
  | missingPrivateKey
  | missingTokenFields
  | invalidTotalSupply
  | zeroTotalSupply
  | invalidDecimals
  | missingDescription
deriving DecidableEq, Repr

def ValidationError.name : ValidationError → String
  | missingWalletName => "MissingWalletName"
  | missingPrivateKey => "MissingPrivateKey"
  | missingTokenFields => "MissingTokenFields"
  | invalidTotalSupply => "InvalidTotalSupply"
  | zeroTotalSupply => "ZeroTotalSupply"
  | invalidDecimals => "InvalidDecimals"
  | missingDescription => "MissingDescription"

def ValidationError.message : ValidationError → String
  | missingWalletName => "Please enter a wallet name"
  | missingPrivateKey => "Please enter a private key"
  | missingTokenFields => "Please fill in all fields"
  | invalidTotalSupply => "Total supply must be a whole number"
  | zeroTotalSupply => "Total supply must be greater than zero"
  | invalidDecimals => "Decimals must be a whole number between 0 and 255"
  | missingDescription => "Please describe what you want to build"

end WalletPanel
