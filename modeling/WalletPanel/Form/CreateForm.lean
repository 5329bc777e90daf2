import WalletPanel.Form.Submission
import WalletPanel.Text.Trim

/-!
# Creating a wallet

The form has a name. Once a wallet has been created its key is held, masked until the user asks to
see it; every new wallet starts masked. A reset gives up the wallet and its key and keeps the name.
-/

namespace WalletPanel

structure CreateForm where
  name : String
  revealed : Bool
  workflow : Workflow CreatedWallet
deriving DecidableEq

namespace CreateForm

def defaultName : String := "My Wallet"

def outcome : Outcome := ⟨"Wallet created successfully!", "Failed to create wallet"⟩

def start : CreateForm := ⟨defaultName, false, .start⟩

def call (f : CreateForm) : Except ValidationError RemoteCall :=
  -- the name goes out as it was typed, with the blanks around it
  if Text.allBlank f.name then .error .missingWalletName else .ok (.createWallet ⟨f.name⟩)

def canSubmit (f : CreateForm) : Bool := !f.workflow.state.isSubmitting && !Text.allBlank f.name

def submit (f : CreateForm) : Traced (CreateForm × Option Dispatch) := do
  let (w, dispatch) ← submitCall .createWallet f.workflow f.call
  return ({ f with workflow := w }, dispatch)

/-- Takes a result. A new wallet is masked. -/
def complete (f : CreateForm) (ticket : UInt64) (result : Except RemoteError CreatedWallet) :
    Traced (CreateForm × Resolution) := do
  let (w, resolution) ← settle .createWallet outcome f.workflow ticket result
  -- a result that is dropped or a failure does not touch the mask
  return ({ f with workflow := w, revealed := f.revealed && resolution != .succeeded }, resolution)

def created? (f : CreateForm) : Option WalletRecord := f.workflow.state.value?.map (·.record)

def privateKey? (f : CreateForm) : Option PrivateKey := f.workflow.state.value?.map (·.privateKey)

/-- Shows the key if it is masked and masks it if it is shown; without effect if there is none. -/
def toggleReveal (f : CreateForm) : CreateForm :=
  if f.privateKey?.isSome then { f with revealed := !f.revealed } else f

/-- The key as it is to be shown. -/
def keyDisplay? (f : CreateForm) : Option String :=
  f.privateKey?.map fun key => if f.revealed then key.expose else PrivateKey.mask

/-- Gives up the wallet. -/
def reset (f : CreateForm) : Traced CreateForm := do
  let w ← f.workflow.reset WorkflowId.createWallet.label
  return { f with revealed := false, workflow := w }

end CreateForm

end WalletPanel
