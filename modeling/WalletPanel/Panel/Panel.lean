import WalletPanel.Clipboard.Job
import WalletPanel.Form.ContractForm
import WalletPanel.Form.CreateForm
import WalletPanel.Form.ImportForm
import WalletPanel.Form.TokenForm
import WalletPanel.Form.WalletList

/-!
# The panel

The panel is one screen and five forms. Leaving a screen resets its form, and coming to the
dashboard loads the list of wallets, so that a form which is not shown holds nothing. A result finds
its form by the workflow it was submitted for and the kind of reply it is, and is dropped where the
two do not belong together.

The functions of this module say what each operation does to the screen and the forms, and with
which events. They leave the log of notices alone; `Panel.step` posts to it.
-/

namespace WalletPanel

/-- The texts that the user can edit. -/
inductive Field where
  | createName
  | importName
  | importKey
  | tokenName
  | tokenSymbol
  | tokenSupply
  | tokenDecimals
  | description
deriving DecidableEq, Repr

structure Panel where
  screen : Screen
  createWallet : CreateForm
  importWallet : ImportForm
  walletList : WalletList
  tokenCreator : TokenForm
  contractWriter : ContractForm
  /-- What the user has been told. -/
  notices : NoticeLog
deriving DecidableEq

namespace Panel

def start : Panel where
  screen := .dashboard
  createWallet := .start
  importWallet := .start
  walletList := .start
  tokenCreator := .start
  contractWriter := .start
  notices := .empty

/-! ### Editing -/

def fieldText (p : Panel) : Field → String
  | .createName => p.createWallet.name
  | .importName => p.importWallet.name
  | .importKey => p.importWallet.key
  | .tokenName => p.tokenCreator.name
  | .tokenSymbol => p.tokenCreator.symbol
  | .tokenSupply => p.tokenCreator.totalSupply
  | .tokenDecimals => p.tokenCreator.decimals
  | .description => p.contractWriter.description

/-- Puts a text into a field. A symbol is put into its form. -/
def edit (p : Panel) (field : Field) (text : String) : Panel :=
  match field with
  | .createName => { p with createWallet := { p.createWallet with name := text } }
  | .importName => { p with importWallet := { p.importWallet with name := text } }
  | .importKey => { p with importWallet := { p.importWallet with key := text } }
  | .tokenName => { p with tokenCreator := { p.tokenCreator with name := text } }
  -- the form keeps a symbol in the shape in which it is sent
  | .tokenSymbol => { p with tokenCreator := p.tokenCreator.setSymbol text }
  | .tokenSupply => { p with tokenCreator := { p.tokenCreator with totalSupply := text } }
  | .tokenDecimals => { p with tokenCreator := { p.tokenCreator with decimals := text } }
  | .description => { p with contractWriter := { p.contractWriter with description := text } }

/-! ### Navigation -/

/-- Loads the list of wallets, unless it is being loaded. -/
def mount (p : Panel) : Traced (Panel × Option Dispatch) := do
  let (l, dispatch) ← p.walletList.mount
  return ({ p with walletList := l }, dispatch)

/-- What coming to a screen does. -/
def enter (p : Panel) : Screen → Traced (Panel × Option Dispatch)
  -- only the dashboard asks for something when it is shown
  | .dashboard => p.mount
  | _ => return (p, none)

def reset (p : Panel) : WorkflowId → Traced Panel
  | .createWallet => do return { p with createWallet := ← p.createWallet.reset }
  | .importWallet => do return { p with importWallet := ← p.importWallet.reset }
  -- the list gives up what it waits for, and what it has
  | .walletList => do return { p with walletList := ← p.walletList.unmount }
  | .tokenCreator => do return { p with tokenCreator := ← p.tokenCreator.reset }
  | .contractWriter => do return { p with contractWriter := ← p.contractWriter.reset }

end Panel

def Screen.workflow : Screen → WorkflowId
  | dashboard => .walletList
  | createWallet => .createWallet
  | importWallet => .importWallet
  | tokenCreator => .tokenCreator
  | contractWriter => .contractWriter

namespace Panel

/-- Goes to a screen. To go where one is does nothing except on the dashboard, where it loads the
list. -/
def navigate (p : Panel) (screen : Screen) : Traced (Panel × Option Dispatch) :=
  if screen = p.screen then p.enter screen
  else do
    -- the journal has the change of screen first, then the reset of the form that is left
    Traced.emit (.navigated p.screen screen)
    let p ← p.reset p.screen.workflow
    { p with screen := screen }.enter screen

/-! ### Requests and results -/

def submit (p : Panel) : WorkflowId → Traced (Panel × Option Dispatch)
  | .createWallet => do
    let (f, dispatch) ← p.createWallet.submit
    return ({ p with createWallet := f }, dispatch)
  | .importWallet => do
    let (f, dispatch) ← p.importWallet.submit
    return ({ p with importWallet := f }, dispatch)
  -- the list has no form: to submit it is to load it again
  | .walletList => p.mount
  | .tokenCreator => do
    let (f, dispatch) ← p.tokenCreator.submit
    return ({ p with tokenCreator := f }, dispatch)
  | .contractWriter => do
    let (f, dispatch) ← p.contractWriter.submit
    return ({ p with contractWriter := f }, dispatch)

/-- Gives a result to the form that it is for. -/
def apply (p : Panel) (c : Completion) : Traced (Panel × Resolution) :=
  match c.workflow, c.reply with
  | .createWallet, .createdWallet result => do
    let (f, resolution) ← p.createWallet.complete c.ticket result
    return ({ p with createWallet := f }, resolution)
  | .importWallet, .importedWallet result => do
    let (f, resolution) ← p.importWallet.complete c.ticket result
    return ({ p with importWallet := f }, resolution)
  | .walletList, .wallets result => do
    let (l, resolution) ← p.walletList.complete c.ticket result
    return ({ p with walletList := l }, resolution)
  | .tokenCreator, .token result => do
    let (f, resolution) ← p.tokenCreator.complete c.ticket result
    return ({ p with tokenCreator := f }, resolution)
  | .contractWriter, .contract result => do
    let (f, resolution) ← p.contractWriter.complete c.ticket result
    return ({ p with contractWriter := f }, resolution)
  | workflow, reply => do
    -- a reply of another kind than the workflow asks for
    Traced.emit (.misrouted workflow reply.operation)
    return (p, .stale)

/-! ### Copying -/

/-- The text of a value that can be copied, if the panel holds the value. -/
def copyText? (p : Panel) : CopyTarget → Option String
  | .createdAddress => p.createWallet.created?.map (·.address.checksummed)
  -- masked or not, a key is copied as it is
  | .createdPrivateKey => p.createWallet.privateKey?.map (·.expose)
  | .importedAddress => p.importWallet.imported?.map (·.address.checksummed)
  | .listedAddress index => p.walletList.wallets[index]?.map (·.address.checksummed)
  | .tokenContract => p.tokenCreator.generated?.map (·.contractCode)
  | .generatedContract => p.contractWriter.generated?.map (·.contractCode)

/-- Asks for a value to be copied. -/
def copy (p : Panel) (target : CopyTarget) : Traced (Option CopyJob) :=
  match p.copyText? target with
  | some text => return some ⟨target, text⟩
  | none => do
    Traced.emit (.nothingToCopy target)
    return none

/-- What the user is told when a copy has failed. -/
def copyFailureMessage : String := "Failed to copy. Please copy manually."

/-- Tells the user how a copy has ended; yields whether it succeeded. -/
def finishCopy (o : CopyOutcome) : Traced Bool :=
  match o.result with
  | .ok () => do
    Traced.emit (.announced .success s!"{o.target.label} copied to clipboard!")
    return true
  -- the journal has the reason, and the user is told to copy by hand
  | .error e => do
    Traced.emit (.copyFailed o.target e)
    Traced.emit (.announced .error copyFailureMessage)
    return false

end Panel

end WalletPanel
