import WalletPanel.Panel.Panel
import WalletPanel.Text.Described

/-!
# Descriptions

How the values that go in and out of the panel are described. A wallet's key is described by
`PrivateKey.description`, which has the same words for every key, so that a description of a value
that holds a `PrivateKey` does not tell keys apart.

What the user types is described as it stands. That holds of the key of the import form too, which
is a mere text until the form is submitted.
-/

namespace WalletPanel

open Text.Described

/-! ### Wallets, tokens and contracts -/

def describedNumber (n : Nat) : String := String.ofList (Text.decimal n)

def WalletRecord.description (w : WalletRecord) : String :=
  withFields "WalletRecord" [("name", Text.quoted w.name), ("address", w.address.plain),
    ("created_at", optional (w.createdAt.map fun t => String.ofList t.text))]

def CreatedWallet.description (w : CreatedWallet) : String :=
  withFields "CreatedWallet" [("record", w.record.description),
    -- the same words for every key
    ("private_key", w.privateKey.description)]

def TokenSpec.description (t : TokenSpec) : String :=
  withFields "TokenSpec" [("name", Text.quoted t.name), ("symbol", Text.quoted t.symbol),
    ("total_supply", describedNumber t.totalSupply.toNat),
    ("decimals", describedNumber t.decimals.toNat)]

def GeneratedToken.description (t : GeneratedToken) : String :=
  withFields "GeneratedToken" [("name", Text.quoted t.name), ("symbol", Text.quoted t.symbol),
    ("total_supply", describedNumber t.totalSupply.toNat),
    ("decimals", describedNumber t.decimals.toNat), ("contract_code", Text.quoted t.contractCode)]

def GeneratedContract.description (c : GeneratedContract) : String :=
  withFields "GeneratedContract" [("contract_code", Text.quoted c.contractCode),
    ("explanation", Text.quoted c.explanation)]

/-! ### Calls and replies -/

def CreateWalletRequest.description (r : CreateWalletRequest) : String :=
  withFields "CreateWalletRequest" [("name", Text.quoted r.name)]

/-- How a request to import a wallet is described. -/
def ImportWalletRequest.description (r : ImportWalletRequest) : String :=
  withFields "ImportWalletRequest" [("private_key", r.privateKey.description),
    ("name", Text.quoted r.name)]

/-- How a request for a contract is described: its `description` is what the contract is to do. -/
def ContractRequest.described (r : ContractRequest) : String :=
  withFields "ContractRequest" [("description", Text.quoted r.description)]

def RemoteCall.description : RemoteCall → String
  | createWallet request => variant "CreateWallet" request.description
  | importWallet request => variant "ImportWallet" request.description
  | listWallets => "ListWallets"
  | createToken spec => variant "CreateToken" spec.description
  | generateContract request => variant "GenerateContract" request.described

def RemoteError.description (e : RemoteError) : String :=
  variant "RemoteError" (Text.quoted e.detail)

/-- How what a call brought is described, given how its value is. -/
def describedResult (describe : α → String) (r : Except RemoteError α) : String :=
  result ((r.map describe).mapError RemoteError.description)

def RemoteReply.description : RemoteReply → String
  | createdWallet r => variant "CreatedWallet" (describedResult CreatedWallet.description r)
  | importedWallet r => variant "ImportedWallet" (describedResult WalletRecord.description r)
  | wallets r =>
    variant "Wallets" (describedResult (fun ws => listed (ws.map WalletRecord.description)) r)
  | token r => variant "Token" (describedResult GeneratedToken.description r)
  | contract r => variant "Contract" (describedResult GeneratedContract.description r)

def describedTicket (ticket : UInt64) : String :=
  withFields "Ticket" [("generation", describedNumber ticket.toNat)]

def Dispatch.description (d : Dispatch) : String :=
  withFields "Dispatch" [("workflow", d.workflow.name), ("ticket", describedTicket d.ticket),
    ("call", d.call.description)]

def Completion.description (c : Completion) : String :=
  withFields "Completion" [("workflow", c.workflow.name), ("ticket", describedTicket c.ticket),
    ("reply", c.reply.description)]

/-! ### Workflows and forms -/

/-- How the state of a workflow is described, given how its value is. -/
def WorkflowState.description (describe : α → String) : WorkflowState α → String
  | idle => "Idle"
  | submitting => "Submitting"
  | succeeded value => variant "Succeeded" (describe value)
  | failed reason => variant "Failed" (Text.quoted reason)

/-- How a workflow of this label is described, given how its value is. -/
def Workflow.description (label : String) (describe : α → String) (w : Workflow α) : String :=
  withFields "Workflow" [("name", Text.quoted label), ("state", w.state.description describe),
    ("generation", describedNumber w.generation.toNat)]

def NoticeKind.description : NoticeKind → String
  | success => "Success"
  | error => "Error"

def Notice.description (n : Notice) : String :=
  withFields "Notice" [("seq", describedNumber n.seq), ("kind", n.kind.description),
    ("message", Text.quoted n.message)]

/-- How the log is described from within a form, where it stands behind a lock. -/
def NoticeLog.description (log : NoticeLog) : String :=
  let entries := listed (log.entries.map Notice.description)
  let data := withFields "NotificationLog" [("entries", entries)]
  withFields "NotificationSink" [("log", s!"Mutex \x7b data: {data}, poisoned: false, .. \x7d")]

/-- How the form that creates a wallet is described, with the log that it adds to. -/
def CreateForm.description (log : NoticeLog) (f : CreateForm) : String :=
  withFields "CreateWalletController" [("name", Text.quoted f.name),
    ("revealed", if f.revealed then "true" else "false"),
    ("workflow", f.workflow.description WorkflowId.createWallet.label CreatedWallet.description),
    ("sink", log.description)]

/-- How the form that imports a wallet is described, with the log that it adds to. -/
def ImportForm.description (log : NoticeLog) (f : ImportForm) : String :=
  withFields "ImportWalletController" [("name", Text.quoted f.name),
    -- what was typed is a mere text, and is shown as one
    ("private_key", Text.quoted f.key),
    ("workflow", f.workflow.description WorkflowId.importWallet.label WalletRecord.description),
    ("sink", log.description)]

end WalletPanel
