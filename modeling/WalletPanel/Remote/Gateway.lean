import WalletPanel.Journal.Traced
import WalletPanel.Remote.Call

/-!
# Carrying out calls

A `Gateway` is a way to reach the backend: one function per operation, in whatever monad reaching
it takes place. `RemoteCall.execute` carries out a call by exactly one of them, with the arguments
of the call. A `Dispatch` is a call together with the workflow and the ticket under which it was
submitted; carrying it out (`Dispatch.run`) gives a `Completion` that goes back under both.
-/

namespace WalletPanel

/-- A way to reach the backend. -/
structure Gateway (m : Type → Type) where
  createWallet : String → m (Except RemoteError CreatedWallet)
  importWallet : PrivateKey → String → m (Except RemoteError WalletRecord)
  listWallets : m (Except RemoteError (List WalletRecord))
  createToken : TokenSpec → m (Except RemoteError GeneratedToken)
  generateContract : ContractRequest → m (Except RemoteError GeneratedContract)

/-- The reply to a call, by the function of the gateway that its operation belongs to. -/
def RemoteCall.reply [Functor m] (gateway : Gateway m) : RemoteCall → m RemoteReply
  | createWallet request => .createdWallet <$> gateway.createWallet request.name
  | importWallet request => .importedWallet <$> gateway.importWallet request.privateKey request.name
  | listWallets => .wallets <$> gateway.listWallets
  | createToken spec => .token <$> gateway.createToken spec
  | generateContract request => .contract <$> gateway.generateContract request

def RemoteCall.execute [Functor m] (gateway : Gateway m) (call : RemoteCall) :
    m (Traced RemoteReply) :=
  -- that the call is carried out stands in the journal first
  (fun reply => ⟨reply, [.executing call.operation]⟩) <$> call.reply gateway

/-- A call under way: who submitted it and under which ticket. -/
structure Dispatch where
  workflow : WorkflowId
  ticket : UInt64
  call : RemoteCall
deriving DecidableEq

/-- What a call has brought, for the workflow that submitted it and under its ticket. -/
structure Completion where
  workflow : WorkflowId
  ticket : UInt64
  reply : RemoteReply

/-- The completion of a call by a reply. -/
def Dispatch.complete (d : Dispatch) (reply : RemoteReply) : Completion :=
  ⟨d.workflow, d.ticket, reply⟩

/-- Carries out a call and sends its reply back. -/
def Dispatch.run [Functor m] (gateway : Gateway m) (d : Dispatch) : m (Traced Completion) :=
  (fun reply => d.complete <$> reply) <$> d.call.execute gateway

end WalletPanel
