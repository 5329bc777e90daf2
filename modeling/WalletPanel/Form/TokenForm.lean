import WalletPanel.Form.Submission
import WalletPanel.Text.Trim
import WalletPanel.Token.Symbol

/-!
# Creating a token

The form has a name, a symbol, a supply and a number of decimal places, all as texts.
`TokenForm.spec` is the token that they describe; `TokenForm.preview` shows them as they are typed,
with placeholders for what is missing. A reset empties the form.
-/

namespace WalletPanel

structure TokenForm where
  name : String
  /-- The symbol, in upper case and of five characters at most. -/
  symbol : String
  totalSupply : String
  decimals : String
  workflow : Workflow GeneratedToken
deriving DecidableEq

/-- How a token looks while it is being described. -/
structure TokenPreview where
  name : String
  symbol : String
  totalSupply : String
deriving DecidableEq, Repr

namespace TokenForm

/-- The decimal places that the form starts with. -/
def defaultDecimals : String := "18"

/-- What every token has. -/
def features : List String :=
  ["ERC-20 Standard", "OpenZeppelin Contracts", "Ownable & Mintable", "Production Ready"]

def outcome : Outcome := ⟨"Token contract generated successfully!", "Failed to create token"⟩

def start : TokenForm := ⟨"", "", "", defaultDecimals, .start⟩

/-- Puts a symbol in, in the form that symbols are kept in. -/
def setSymbol (f : TokenForm) (raw : String) : TokenForm :=
  { f with symbol := Token.normalizeSymbol raw }

def supply? (f : TokenForm) : Option Nat :=
  Text.numeralBelow? (Nat.pow 2 64) (Text.strip Text.isBlank f.totalSupply.toList)

def decimals? (f : TokenForm) : Option Nat :=
  Text.numeralBelow? (Nat.pow 2 8) (Text.strip Text.isBlank f.decimals.toList)

/-- The token that the form describes. What is missing is found first, then what is wrong with the
supply, and last what is wrong with the decimal places. -/
def spec (f : TokenForm) : Except ValidationError TokenSpec :=
  -- a symbol counts as missing only where it is empty, and not where it is blank
  if Text.allBlank f.name ∨ f.symbol = "" ∨ Text.allBlank f.totalSupply then
    .error .missingTokenFields
  else
    match f.supply? with
    | none => .error .invalidTotalSupply
    | some 0 => .error .zeroTotalSupply
    | some supply =>
      match f.decimals? with
      | none => .error .invalidDecimals
      | some decimals => .ok ⟨f.name, f.symbol, supply.toUInt64, decimals.toUInt8⟩

/-- How the token looks. -/
def preview (f : TokenForm) : TokenPreview where
  -- a name that is missing has a placeholder, and one that is there loses the blanks around it
  name := if Text.allBlank f.name then "Token Name" else Text.trimBlank f.name
  symbol := if f.symbol = "" then "SYMBOL" else f.symbol
  totalSupply := (f.supply?.map fun supply => formatSupply supply.toUInt64).getD "0"

def submit (f : TokenForm) : Traced (TokenForm × Option Dispatch) := do
  let (w, dispatch) ← submitCall .tokenCreator f.workflow (f.spec.map .createToken)
  return ({ f with workflow := w }, dispatch)

def complete (f : TokenForm) (ticket : UInt64) (result : Except RemoteError GeneratedToken) :
    Traced (TokenForm × Resolution) := do
  let (w, resolution) ← settle .tokenCreator outcome f.workflow ticket result
  return ({ f with workflow := w }, resolution)

def generated? (f : TokenForm) : Option GeneratedToken := f.workflow.state.value?

/-- Gives up the token and empties the form. -/
def reset (f : TokenForm) : Traced TokenForm := do
  let w ← f.workflow.reset WorkflowId.tokenCreator.label
  -- the decimal places go back to what they start with
  return { start with workflow := w }

end TokenForm

end WalletPanel
