import WalletPanel.Wire.Record

/-!
# Tokens

What a token is to be (`TokenSpec`) and what the backend makes of it (`GeneratedToken`), with the
text of a supply in groups of three digits.
-/

namespace WalletPanel

structure TokenSpec where
  name : String
  symbol : String
  totalSupply : UInt64
  /-- How many decimal places a unit has. -/
  decimals : UInt8
deriving DecidableEq, Repr

/-- A token with the code of its contract. -/
structure GeneratedToken where
  name : String
  symbol : String
  totalSupply : UInt64
  /-- How many decimal places a unit has. -/
  decimals : UInt8
  contractCode : String
deriving DecidableEq, Repr

def TokenSpec.schema : Wire.Schema TokenSpec where
  name := "TokenSpec"
  fields := [⟨"name", .text⟩, ⟨"symbol", .text⟩, ⟨"total_supply", .word⟩, ⟨"decimals", .octet⟩]
  toRow t := (t.name, t.symbol, t.totalSupply, t.decimals, ())
  ofRow row := ⟨row.1, row.2.1, row.2.2.1, row.2.2.2.1⟩
  ofRow_toRow _ := rfl

def GeneratedToken.schema : Wire.Schema GeneratedToken where
  name := "GeneratedToken"
  fields := [⟨"name", .text⟩, ⟨"symbol", .text⟩, ⟨"total_supply", .word⟩, ⟨"decimals", .octet⟩,
    ⟨"contract_code", .text⟩]
  toRow t := (t.name, t.symbol, t.totalSupply, t.decimals, t.contractCode, ())
  ofRow row := ⟨row.1, row.2.1, row.2.2.1, row.2.2.2.1, row.2.2.2.2.1⟩
  ofRow_toRow _ := rfl

/-- The digits of a supply in groups of three. -/
def formatSupply (supply : UInt64) : String :=
  String.ofList (Text.grouped (Text.decimal supply.toNat))

end WalletPanel
