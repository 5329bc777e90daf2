/-!
# Screens

The panel shows one screen at a time. Each has a workflow of its own; that of the dashboard loads
the list of wallets.
-/

namespace WalletPanel

inductive Screen where
  | dashboard
  | createWallet
  | importWallet
  | tokenCreator
  | contractWriter
deriving DecidableEq, Repr

def Screen.name : Screen → String
  | dashboard => "Dashboard"
  | createWallet => "CreateWallet"
  | importWallet => "ImportWallet"
  | tokenCreator => "TokenCreator"
  | contractWriter => "ContractWriter"

end WalletPanel
