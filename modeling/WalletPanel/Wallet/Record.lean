import WalletPanel.Wire.Record

/-!
# Wallets

A wallet as the backend lists it: a name, an address and perhaps the time it was created at. A key
has no place in it, and whatever else stands beside its members on the wire is passed over.
-/

namespace WalletPanel

/-- A wallet without its key. -/
structure WalletRecord where
  /-- The name that the user gave it. -/
  name : String
  address : Address
  /-- When it was created, if that is known. -/
  createdAt : Option Timestamp
deriving DecidableEq, Repr

namespace WalletRecord

def schema : Wire.Schema WalletRecord where
  name := "WalletRecord"
  fields := [⟨"name", .text⟩, ⟨"address", .address⟩, ⟨"created_at", .moment⟩]
  toRow w := (w.name, w.address, w.createdAt, ())
  ofRow row := ⟨row.1, row.2.1, row.2.2.1⟩
  ofRow_toRow _ := rfl

/-- The members of a wallet on the wire are these three and no others. -/
theorem mem_fields_iff {f : Wire.Field} : f ∈ schema.fields ↔
    f = ⟨"name", .text⟩ ∨ f = ⟨"address", .address⟩ ∨ f = ⟨"created_at", .moment⟩ := by
  simp [schema]

/-- The one member that is an address has this key. -/
theorem name_of_address {f : Wire.Field} (hf : f ∈ schema.fields) (hk : f.kind = .address) :
    f.name = "address" := by
  rcases mem_fields_iff.mp hf with rfl | rfl | rfl
  · cases hk
  · rfl
  · cases hk

def readList : Wire.Reader (List WalletRecord) := do
  match ← Wire.Reader.lead with
  | .list => do Wire.Reader.advance; Wire.Reader.listOf schema.read
  | found => throw (.wrongType found .list)

def parseList (text : String) : Except Wire.Error (List WalletRecord) := readList.run text.toList

end WalletRecord

end WalletPanel
