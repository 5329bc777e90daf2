import WalletPanel.Form.Submission
import WalletPanel.Text.Trim

/-!
# Writing a contract

The form has a description, which may be typed or taken from the examples. A reset empties it.
-/

namespace WalletPanel

structure ContractForm where
  description : String
  workflow : Workflow GeneratedContract
deriving DecidableEq

namespace ContractForm

def examples : List String := [
  "Create a simple NFT collection contract with 10,000 max supply",
  "Build a staking contract that rewards users with tokens",
  "Generate a multisig wallet contract requiring 2 of 3 signatures",
  "Create a lottery contract where users buy tickets with ETH"]

def outcome : Outcome :=
  ⟨"Smart contract generated successfully!", "Failed to generate contract. Please try again."⟩

def start : ContractForm := ⟨"", .start⟩

/-- Puts the example at place `index` into the description, if there is one; yields whether there
was. -/
def selectExample (f : ContractForm) (index : Nat) : ContractForm × Bool :=
  match examples[index]? with
  | some description => ({ f with description := description }, true)
  | none => (f, false)

def call (f : ContractForm) : Except ValidationError RemoteCall :=
  if Text.allBlank f.description then .error .missingDescription
  else .ok (.generateContract ⟨f.description⟩)

def canSubmit (f : ContractForm) : Bool :=
  !f.workflow.state.isSubmitting && !Text.allBlank f.description

def submit (f : ContractForm) : Traced (ContractForm × Option Dispatch) := do
  let (w, dispatch) ← submitCall .contractWriter f.workflow f.call
  return ({ f with workflow := w }, dispatch)

def complete (f : ContractForm) (ticket : UInt64) (result : Except RemoteError GeneratedContract) :
    Traced (ContractForm × Resolution) := do
  let (w, resolution) ← settle .contractWriter outcome f.workflow ticket result
  return ({ f with workflow := w }, resolution)

def generated? (f : ContractForm) : Option GeneratedContract := f.workflow.state.value?

/-- Gives up the contract and empties the form. -/
def reset (f : ContractForm) : Traced ContractForm := do
  -- what was typed goes with the contract
  let w ← f.workflow.reset WorkflowId.contractWriter.label
  return { f with description := "", workflow := w }

end ContractForm

end WalletPanel
