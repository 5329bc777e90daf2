import WalletPanel.Wallet.PrivateKey
import WalletPanel.Wallet.Record

/-!
# Newly created wallets

The one answer of the backend that holds a key: an object with the members of a wallet and
`private_key` among them. The object is read to its end first; the key is taken out on the way, and
the members of the wallet are looked for among the others afterwards. So a fault in the form of the
object, a second key or a key that is no text comes before a missing key, and that before anything
that is wrong with the wallet.
-/

namespace WalletPanel

/-- A wallet and its key. -/
structure CreatedWallet where
  record : WalletRecord
  privateKey : PrivateKey
deriving DecidableEq

namespace CreatedWallet

/-- The key of the member that holds the private key. -/
def keyName : String := "private_key"

/-- A wallet by itself has no member with this key. -/
theorem name_ne_keyName {f : Wire.Field} (hf : f ∈ WalletRecord.schema.fields) :
    f.name ≠ keyName := by
  rcases WalletRecord.mem_fields_iff.mp hf with rfl | rfl | rfl <;> decide

/-- How deeply the members beside the private key may nest: a text may have 127 brackets open at
once, and that of the object itself is one of them. -/
def depth : Nat := 126

/-- What has been met of an object: the private key, and the other members, the last one first. -/
structure Parts where
  /-- The private key, once it has been met. -/
  privateKey : Option PrivateKey
  /-- The other members. -/
  others : List (String × Wire.Value)

/-- Takes a member in. -/
def Parts.member (p : Parts) (key : String) : Wire.Reader Parts :=
  if key = keyName then
    match p.privateKey with
    -- refused before it is known what follows
    | some _ => throw (.duplicateMember keyName)
    | none => do
      Wire.Reader.colon
      let k ← PrivateKey.read
      pure { p with privateKey := some k }
  else do
    Wire.Reader.colon
    let v ← Wire.Reader.value depth
    pure { p with others := (key, v) :: p.others }

/-- The created wallet, once the object has been read. -/
def Parts.complete (p : Parts) : Except Wire.Error CreatedWallet := do
  let some k := p.privateKey | .error (.missingMember keyName)
  -- the members are looked for in the order in which they came
  let record ← WalletRecord.schema.ofMembers p.others.reverse
  .ok ⟨record, k⟩

def read : Wire.Reader CreatedWallet := do
  match ← Wire.Reader.lead with
  | .object => do
    Wire.Reader.advance
    let parts ← Wire.Reader.membersFrom Wire.Reader.text Parts.member ((← get).length + 1) true
      ⟨none, []⟩
    -- what is missing is found before a comma that nothing follows
    let wallet ← Wire.Kind.accept parts.complete
    Wire.Reader.closeObject
    pure wallet
  | found => throw (.wrongType found (.record "CreatedWallet"))

def parse (text : String) : Except Wire.Error CreatedWallet := read.run text.toList

end CreatedWallet

end WalletPanel
