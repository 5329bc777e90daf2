import WalletPanel.Wire.Record

/-!
# Contracts

The description of a contract that is to be written, and the contract that the backend writes.
-/

namespace WalletPanel

/-- What a contract is to do, in the user's words. -/
structure ContractRequest where
  description : String
deriving DecidableEq, Repr

/-- A contract and what is to be said about it. -/
structure GeneratedContract where
  contractCode : String
  explanation : String
deriving DecidableEq, Repr

def ContractRequest.schema : Wire.Schema ContractRequest where
  name := "ContractRequest"
  fields := [⟨"description", .text⟩]
  toRow r := (r.description, ())
  ofRow row := ⟨row.1⟩
  ofRow_toRow _ := rfl

def GeneratedContract.schema : Wire.Schema GeneratedContract where
  name := "GeneratedContract"
  fields := [⟨"contract_code", .text⟩, ⟨"explanation", .text⟩]
  toRow c := (c.contractCode, c.explanation, ())
  ofRow row := ⟨row.1, row.2.1⟩
  ofRow_toRow _ := rfl

end WalletPanel
