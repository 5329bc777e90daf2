import WalletPanel.Panel.Panel

/-!
# Widgets

What a screen is made of: labels, buttons and inputs, in the order in which they are painted. A
button says what it asks for when it is clicked (`Intent`); an input says which field it edits. What
can be seen of a widget is its text (`Widget.shown`), and a widget that is disabled is seen all the
same.
-/

namespace WalletPanel

/-- What the user asks for by a click. -/
inductive Intent where
  | navigate (screen : Screen)
  | submit (workflow : WorkflowId)
  | reset (workflow : WorkflowId)
  | copy (target : CopyTarget)
  | toggleReveal
  /-- The example at this place is to be the description. -/
  | selectExample (index : Nat)
  /-- A page is to be opened in the browser. -/
  | browse (url : String)
deriving DecidableEq, Repr

/-! ### Fields on a screen -/

/-- The name under which the user knows a field. -/
def Field.label : Field → String
  | createName | importName => "Wallet Name"
  | importKey => "Private Key"
  | tokenName => "Token Name"
  | tokenSymbol => "Symbol"
  | tokenSupply => "Total Supply"
  | tokenDecimals => "Decimals"
  | description => "Description"

/-- The text that stands before a field. The description has none of its own; it follows the text
that introduces its screen. -/
def Field.caption : Field → String
  | description => "Describe the contract you want and get Solidity back."
  | field => field.label

/-- What an empty field shows. -/
def Field.hint : Field → String
  | createName => "My Wallet"
  | importName => "Imported Wallet"
  | importKey => "0x..."
  | tokenName => "My Token"
  | tokenSymbol => "MTK"
  | tokenSupply => "1000000"
  | tokenDecimals => "18"
  | description => "e.g. An ERC-721 collection with a public mint and a max supply"

/-- Whether a field shows dots in place of its characters. -/
def Field.isMasked (field : Field) : Bool := field = .importKey

/-- What a field with the text `text` shows. -/
def Field.shown (field : Field) (text : String) : String :=
  -- a hint is shown as it is, even in a field that is masked
  if text = "" then field.hint
  else if field.isMasked then String.ofList (List.replicate text.length '•')
  else text

/-! ### Widgets -/

/-- A part of a screen. -/
inductive Widget where
  | label (text : String)
  | button (text : String) (enabled : Bool) (intent : Intent)
  /-- A place to edit a field, which has the text `text`. -/
  | input (field : Field) (text : String) (enabled : Bool)
deriving DecidableEq, Repr

namespace Widget

/-- What can be seen of a widget. -/
def shown : Widget → String
  | label text | button text _ _ => text
  | input field text _ => field.shown text

/-- What a click on a widget asks for. -/
def intent? : Widget → Option Intent
  | button _ true intent => some intent
  -- a button that is switched off asks for nothing
  | _ => none

/-- Whether a field can be edited here. -/
def edits (field : Field) : Widget → Bool
  | input f _ enabled => f = field && enabled
  | _ => false

theorem intent?_eq_some_iff (w : Widget) (intent : Intent) :
    w.intent? = some intent ↔ ∃ text, w = .button text true intent := by
  cases w with
  | button text enabled i => cases enabled <;> simp [intent?]
  | _ => simp [intent?]

end Widget

/-- What a masked field shows depends on how many characters it has and on nothing else. -/
theorem Field.shown_importKey_of_length_eq {s t : String} (h : s.length = t.length) :
    Field.importKey.shown s = Field.importKey.shown t := by
  have hs : s = "" ↔ t = "" := by
    rw [← String.length_eq_zero_iff, ← String.length_eq_zero_iff, h]
  simp [Field.shown, Field.isMasked, h, hs]

end WalletPanel
