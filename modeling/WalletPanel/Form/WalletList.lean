import WalletPanel.Form.Submission

/-!
# The list of wallets

The list is loaded anew each time it comes into view or is asked for, unless it is being loaded
already. While it loads and after a failure it shows nothing, in particular not the list before.
-/

namespace WalletPanel

structure WalletList where
  workflow : Workflow (List WalletRecord)
deriving DecidableEq

namespace WalletList

def outcome : Outcome := ⟨"Wallets loaded", "Failed to load wallets"⟩

def start : WalletList := ⟨.start⟩

def isLoading (l : WalletList) : Bool := l.workflow.state.isSubmitting

/-- Loads the list, unless it is being loaded. -/
def mount (l : WalletList) : Traced (WalletList × Option Dispatch) :=
  if l.isLoading then return (l, none)
  else do
    -- without the reset a list that is there could not be asked for anew
    let w ← l.workflow.reset WorkflowId.walletList.label
    let (w, dispatch) ← submitCall .walletList w (.ok .listWallets)
    return (⟨w⟩, dispatch)

def complete (l : WalletList) (ticket : UInt64) (result : Except RemoteError (List WalletRecord)) :
    Traced (WalletList × Resolution) := do
  let (w, resolution) ← settle .walletList outcome l.workflow ticket result
  return (⟨w⟩, resolution)

def wallets (l : WalletList) : List WalletRecord := l.workflow.state.value?.getD []

/-- Gives up the list. -/
def unmount (l : WalletList) : Traced WalletList := do
  let w ← l.workflow.reset WorkflowId.walletList.label
  return ⟨w⟩

end WalletList

end WalletPanel
