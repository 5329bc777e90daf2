import WalletPanel.Contract
import WalletPanel.Token.Spec
import WalletPanel.Wallet.Created
import WalletPanel.Workflow.Id

/-!
# Calls to the backend

The five operations of the backend, the call that asks for one with its arguments, and the reply
that one gives. Each workflow uses one operation, and each operation has a reply of its own kind,
also where two replies carry the same type of value.
-/

namespace WalletPanel

inductive Operation where
  | createWallet
  | importWallet
  | listWallets
  | createToken
  | generateContract
deriving DecidableEq, Repr

def Operation.name : Operation → String
  | createWallet => "create_wallet"
  | importWallet => "import_wallet"
  | listWallets => "list_wallets"
  | createToken => "create_token"
  | generateContract => "generate_contract"

def Operation.replyName : Operation → String
  | createWallet => "created_wallet"
  | importWallet => "imported_wallet"
  | listWallets => "wallets"
  | createToken => "token"
  | generateContract => "contract"

/-- The operation that a workflow uses. -/
def WorkflowId.operation : WorkflowId → Operation
  | createWallet => .createWallet
  | importWallet => .importWallet
  | walletList => .listWallets
  | tokenCreator => .createToken
  | contractWriter => .generateContract

/-! ### Arguments -/

/-- What is asked for when a wallet is created. -/
structure CreateWalletRequest where
  name : String
deriving DecidableEq, Repr

/-- What is asked for when a wallet is imported. -/
structure ImportWalletRequest where
  privateKey : PrivateKey
  name : String
deriving DecidableEq

/-- The wire form of a request for a new wallet. -/
def CreateWalletRequest.schema : Wire.Schema CreateWalletRequest where
  name := "CreateWalletRequest"
  fields := [⟨"name", .text⟩]
  toRow r := (r.name, ())
  ofRow row := ⟨row.1⟩
  ofRow_toRow _ := rfl

/-- The wire form of a request to import a wallet. -/
def ImportWalletRequest.schema : Wire.Schema ImportWalletRequest where
  name := "ImportWalletRequest"
  fields := [⟨"private_key", .text⟩, ⟨"name", .text⟩]
  toRow r := (r.privateKey.expose, r.name, ())
  ofRow row := ⟨⟨row.1⟩, row.2.1⟩
  ofRow_toRow _ := rfl

/-- A call with its arguments. -/
inductive RemoteCall where
  | createWallet (request : CreateWalletRequest)
  | importWallet (request : ImportWalletRequest)
  | listWallets
  | createToken (spec : TokenSpec)
  | generateContract (request : ContractRequest)
deriving DecidableEq

namespace RemoteCall

/-- The operation that a call asks for. -/
def operation : RemoteCall → Operation
  | createWallet _ => .createWallet
  | importWallet _ => .importWallet
  | listWallets => .listWallets
  | createToken _ => .createToken
  | generateContract _ => .generateContract

/-- The wire form of the arguments; a list has none. -/
def body? : RemoteCall → Option (List Char)
  | createWallet request => some (CreateWalletRequest.schema.write request)
  | importWallet request => some (ImportWalletRequest.schema.write request)
  | listWallets => none
  | createToken spec => some (TokenSpec.schema.write spec)
  | generateContract request => some (ContractRequest.schema.write request)

end RemoteCall

/-! ### Replies -/

/-- Why a call brought no result. -/
structure RemoteError where
  detail : String
deriving DecidableEq, Repr

/-- What is said about a call that brought no result. -/
def RemoteError.message (e : RemoteError) : String := s!"remote call failed: {e.detail}"

/-- What a call brought, or why it brought nothing. -/
inductive RemoteReply where
  | createdWallet (result : Except RemoteError CreatedWallet)
  | importedWallet (result : Except RemoteError WalletRecord)
  | wallets (result : Except RemoteError (List WalletRecord))
  | token (result : Except RemoteError GeneratedToken)
  | contract (result : Except RemoteError GeneratedContract)

/-- The operation that gives such a reply. -/
def RemoteReply.operation : RemoteReply → Operation
  | createdWallet _ => .createWallet
  | importedWallet _ => .importWallet
  | wallets _ => .listWallets
  | token _ => .createToken
  | contract _ => .generateContract

end WalletPanel
