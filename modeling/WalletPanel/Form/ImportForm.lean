import WalletPanel.Form.Submission
import WalletPanel.Text.Trim

/-!
# Importing a wallet

The form has a key and a name. The key goes out without the blanks around it, and the form forgets
it as soon as the wallet has been imported or the form is reset; the name is kept.
-/

namespace WalletPanel

structure ImportForm where
  name : String
  /-- The key as it was typed. -/
  key : String
  workflow : Workflow WalletRecord
deriving DecidableEq

namespace ImportForm

def defaultName : String := "Imported Wallet"

def outcome : Outcome :=
  ⟨"Wallet imported successfully!", "Failed to import wallet. Check your private key."⟩

def start : ImportForm := ⟨defaultName, "", .start⟩

def hasKey (f : ImportForm) : Bool := !Text.allBlank f.key

def call (f : ImportForm) : Except ValidationError RemoteCall :=
  -- of two faults the one in the key is told
  if Text.allBlank f.key then .error .missingPrivateKey
  else if Text.allBlank f.name then .error .missingWalletName
  else .ok (.importWallet ⟨⟨Text.trimBlank f.key⟩, f.name⟩)

def canSubmit (f : ImportForm) : Bool :=
  !f.workflow.state.isSubmitting && f.hasKey && !Text.allBlank f.name

def submit (f : ImportForm) : Traced (ImportForm × Option Dispatch) := do
  let (w, dispatch) ← submitCall .importWallet f.workflow f.call
  return ({ f with workflow := w }, dispatch)

/-- Takes a result. After a success the key is forgotten. -/
def complete (f : ImportForm) (ticket : UInt64) (result : Except RemoteError WalletRecord) :
    Traced (ImportForm × Resolution) := do
  let (w, resolution) ← settle .importWallet outcome f.workflow ticket result
  -- after a failure the key stays, to be mended
  let key := if resolution = .succeeded then "" else f.key
  return ({ f with workflow := w, key := key }, resolution)

def imported? (f : ImportForm) : Option WalletRecord := f.workflow.state.value?

/-- Gives up the wallet and forgets the key. -/
def reset (f : ImportForm) : Traced ImportForm := do
  let w ← f.workflow.reset WorkflowId.importWallet.label
  return { f with key := "", workflow := w }

end ImportForm

end WalletPanel
