/-!
# The workflows of the panel

The panel has five workflows. Each has a name, as results and the journal's messages about
submissions give it, and a label, under which the journal follows its phases.
-/

namespace WalletPanel

inductive WorkflowId where
  | createWallet
  | importWallet
  | walletList
  | tokenCreator
  | contractWriter
deriving DecidableEq, Repr

def WorkflowId.name : WorkflowId → String
  | createWallet => "CreateWallet"
  | importWallet => "ImportWallet"
  | walletList => "WalletList"
  | tokenCreator => "TokenCreator"
  | contractWriter => "ContractWriter"

/-- The label under which a workflow's phases are followed. -/
def WorkflowId.label : WorkflowId → String
  | createWallet => "create_wallet"
  | importWallet => "import_wallet"
  | walletList => "wallet_list"
  | tokenCreator => "token_creator"
  | contractWriter => "contract_writer"

end WalletPanel
