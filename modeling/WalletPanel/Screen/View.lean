import WalletPanel.Screen.Widget

/-!
# What the screens show

Each screen as the list of its widgets, which follows from the panel alone (`Panel.widgets`). Above
every screen stands a row of buttons that lead to all of them. A form gives way to its result once
there is one; while a request is under way its inputs are disabled. The only place where a key can
be seen is the screen that created its wallet, and only if the user has asked for it.
-/

namespace WalletPanel

/-- The page of an address in the block explorer. -/
def explorerUrl (address : String) : String := s!"https://etherscan.io/address/{address}"

namespace View

/-! ### Parts -/

/-- A value that can be copied, with its label; the page of an address can also be opened. -/
def addressRow (address : Address) (target : CopyTarget) : List Widget :=
  let text := address.checksummed
  [.label "Address:", .label text, .button "📋" true (.copy target),
    .button "🔗" true (.browse (explorerUrl text))]

/-- A caption, and below it the field that it belongs to. -/
def captioned (p : Panel) (field : Field) (enabled : Bool) : List Widget :=
  [.label field.caption, .input field (p.fieldText field) enabled]

/-- A note that something went well. -/
def successNote (text : String) : List Widget := [.label "✅", .label text]

/-- A note that something deserves care. -/
def warningNote (text : String) : List Widget := [.label "⚠️", .label text]

/-- The text `text` while something is going on. -/
def busyNote (isBusy : Bool) (text : String) : List Widget := if isBusy then [.label text] else []

/-! ### The header -/

/-- Where the buttons of the header lead. -/
def places : List (Screen × String) := [
  (.dashboard, "🏠 Dashboard"),
  (.createWallet, "➕ Create Wallet"),
  (.importWallet, "📥 Import Wallet"),
  (.tokenCreator, "🪙 Token Creator"),
  (.contractWriter, "🤖 Contract Writer")]

/-- What stands above every screen. -/
def header : List Widget :=
  .label "⚒ Obsidian Forge" ::
    places.map fun (screen, title) => .button title true (.navigate screen)

/-! ### The dashboard -/

/-- What the dashboard offers: where each offer leads, its title and what it is about. -/
def offers : List (Screen × String × String) := [
  (.createWallet, "➕ Create Wallet", "Generate a new Ethereum wallet"),
  (.importWallet, "📥 Import Wallet", "Import an existing private key"),
  (.tokenCreator, "🪙 Create Token", "Generate an ERC-20 token contract"),
  (.contractWriter, "🤖 AI Contract Writer", "Describe a contract, get Solidity")]

def listedWallet (index : Nat) (w : WalletRecord) : List Widget :=
  -- :: a wallet whose time of creation is not known has no line for it
  .label w.name :: (w.createdAt.toList.map fun t => .label (String.ofList t.minuteText)) ++
    addressRow w.address (.listedAddress index)

/-- The wallets of the list, the first of which is at place `index`. -/
def listedWallets : Nat → List WalletRecord → List Widget
  | _, [] => []
  | index, w :: ws => listedWallet index w ++ listedWallets (index + 1) ws

def dashboard (p : Panel) : List Widget :=
  let isLoading := p.walletList.isLoading
  let wallets := p.walletList.wallets
  [.label "Dashboard", .label "Create wallets, mint tokens and generate smart contracts."] ++
    offers.flatMap (fun (screen, title, about) =>
      [.button title true (.navigate screen), .label about]) ++
    -- while the list is on its way it cannot be asked for once more
    [.label "Your Wallets", .button "⟳" (!isLoading) (.submit .walletList)] ++
    if isLoading then [.label "Loading wallets..."]
    else if wallets.isEmpty then
      [.label "No wallets yet. Create or import one to get started."]
    else listedWallets 0 wallets

/-! ### Creating a wallet -/

/-- The key of a created wallet as it is to be shown, with what can be done to it. -/
def keyRow (f : CreateForm) : List Widget :=
  match f.keyDisplay? with
  -- the copy is of the key itself, even where its mask is shown
  | some display =>
    [.label "Private Key:", .label display,
      .button (if f.revealed then "🙈 Hide" else "👁 Show") true .toggleReveal,
      .button "📋" true (.copy .createdPrivateKey)]
  | none => []

def createWallet (p : Panel) : List Widget :=
  let f := p.createWallet
  let isBusy := f.workflow.state.isSubmitting
  [.label "Create Wallet", .label "Generate a fresh Ethereum wallet on the forge backend."] ++
    match f.created? with
    | some wallet =>
      successNote "Wallet created" ++
        .label wallet.name :: addressRow wallet.address .createdAddress ++ keyRow f ++
        warningNote "Save your private key somewhere safe. It is not shown again once you leave." ++
        [.button "Create Another" true (.reset .createWallet)]
    -- the form stays as it was filled in, and cannot be edited while it is sent
    | none =>
      captioned p .createName (!isBusy) ++
        .button "Create Wallet" f.canSubmit (.submit .createWallet) ::
        busyNote isBusy "Creating..."

/-! ### Importing a wallet -/

def importWallet (p : Panel) : List Widget :=
  let f := p.importWallet
  let isBusy := f.workflow.state.isSubmitting
  [.label "Import Wallet", .label "Import an existing wallet from its private key."] ++
    match f.imported? with
    | some wallet =>
      successNote "Wallet imported" ++
        .label wallet.name :: addressRow wallet.address .importedAddress ++
        [.button "Import Another" true (.reset .importWallet)]
    | none =>
      captioned p .importKey (!isBusy) ++ captioned p .importName (!isBusy) ++
        warningNote "Your private key is sent to the forge backend over this connection." ++
        .button "Import Wallet" f.canSubmit (.submit .importWallet) ::
        busyNote isBusy "Importing..."

/-! ### Creating a token -/

/-- The code of a contract. It is left as it is, whatever is typed. -/
def code (text : String) : List Widget := [.label "Contract Code", .label text]

/-- How the token looks that is being described. -/
def tokenPreview (t : TokenPreview) : List Widget :=
  [.label "Preview", .label t.name, .label t.symbol,
    .label s!"Total Supply: {t.totalSupply}"] ++
    TokenForm.features.map fun feature => .label s!"✔ {feature}"

def tokenCreator (p : Panel) : List Widget :=
  let f := p.tokenCreator
  let isBusy := f.workflow.state.isSubmitting
  [.label "Token Creator", .label "Generate a ready-to-deploy ERC-20 contract."] ++
    match f.generated? with
    | some token =>
      successNote "Token contract generated" ++
        [.label s!"{token.name} ({token.symbol})",
          .label s!"Supply: {formatSupply token.totalSupply}   Decimals: {token.decimals}"] ++
        code token.contractCode ++
        [.button "📋 Copy Code" true (.copy .tokenContract),
          .button "Create Another" true (.reset .tokenCreator)]
    | none =>
      [Field.tokenName, .tokenSymbol, .tokenSupply, .tokenDecimals].flatMap
          (captioned p · (!isBusy)) ++
        -- the button is enabled whatever is typed, since what is wrong is told afterwards
        .button "Generate Token" (!isBusy) (.submit .tokenCreator) ::
        busyNote isBusy "Generating..." ++ tokenPreview f.preview

/-! ### Writing a contract -/

/-- The examples from place `index` on, as links that are followed unless `enabled` is false. -/
def exampleLinks (enabled : Bool) : Nat → List String → List Widget
  | _, [] => []
  | index, text :: rest =>
    .button text enabled (.selectExample index) :: exampleLinks enabled (index + 1) rest

def contractWriter (p : Panel) : List Widget :=
  let f := p.contractWriter
  let isBusy := f.workflow.state.isSubmitting
  [.label "AI Contract Writer", .label Field.description.caption] ++
    match f.generated? with
    | some contract =>
      successNote "Smart contract generated" ++
        [.label "Explanation", .label contract.explanation] ++ code contract.contractCode ++
        [.button "📋 Copy Code" true (.copy .generatedContract),
          .button "Generate Another" true (.reset .contractWriter)]
    | none =>
      .input .description f.description (!isBusy) :: .label "Examples" ::
        exampleLinks (!isBusy) 0 ContractForm.examples ++
        .button "Generate Contract" f.canSubmit (.submit .contractWriter) ::
        busyNote isBusy "Generating..."

end View

def Screen.widgets (p : Panel) : Screen → List Widget
  | dashboard => View.dashboard p
  | createWallet => View.createWallet p
  | importWallet => View.importWallet p
  | tokenCreator => View.tokenCreator p
  | contractWriter => View.contractWriter p

/-- What a panel shows: the header and the screen below it. -/
def Panel.widgets (p : Panel) : List Widget := View.header ++ p.screen.widgets p

end WalletPanel
