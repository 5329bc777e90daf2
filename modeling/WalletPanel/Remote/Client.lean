import WalletPanel.Http.Exchange
import WalletPanel.Http.Target
import WalletPanel.Remote.Backend
import WalletPanel.Remote.Gateway

/-!
# Calling the backend over HTTP

Each operation of the backend has a path; a list is asked for with GET, everything else is sent with
POST. A call sends at most one request. It brings a value only if the backend answers with success
and a body that is the wire form of the value; everything else comes to one error, which names the
path and what happened and nothing of what was sent.

What happened is told in the words of those that it happened to: the library that sends requests
where nothing came or the body was cut short, and the reader of the wire form where the body is
another one. The reader's text has no place in it.
-/

namespace WalletPanel

def Operation.path : Operation → String
  | createWallet => "/wallet/create"
  | importWallet => "/wallet/import"
  | listWallets => "/wallets"
  | createToken => "/token/create"
  | generateContract => "/contract/generate"

/-- Why a request brought no value. -/
inductive RequestFault where
  /-- It was not sent or did not get an answer, of which this is said. -/
  | notAnswered (said : String)
  /-- It was answered with a status that does not mean success. -/
  | refused (status : Nat)
  /-- The body of the answer did not come in full, of which this is said. -/
  | bodyIncomplete (said : String)
  /-- The body is not the wire form of the value. -/
  | misshapen (cause : Wire.Error)
deriving DecidableEq, Repr

/-- What is said about a request that brought no value. -/
def RequestFault.message : RequestFault → String
  | notAnswered said => s!"transport error: {said}"
  | refused status => s!"HTTP {Http.statusText status}"
  | bodyIncomplete said => s!"failed to read body: {said}"
  | misshapen cause => s!"unexpected response shape: {cause.message}"

/-- The error of an operation whose request brought no value. -/
def Operation.error (operation : Operation) (fault : RequestFault) : RemoteError :=
  ⟨s!"{operation.path}: {fault.message}"⟩

namespace Http

/-- The value that a response brings. -/
def Response.value (parse : String → Except Wire.Error α) (r : Response) : Except RequestFault α :=
  if isSuccess r.status then
    match r.text with
    | .ok text =>
      match parse text with
      | .ok value => .ok value
      | .error cause => .error (.misshapen cause)
    | .error said => .error (.bodyIncomplete said)
  -- the body of such an answer is not looked at
  else .error (.refused r.status)

/-- The value that comes of a request. -/
def Arrival.value (parse : String → Except Wire.Error α) : Arrival → Except RequestFault α
  | nothing said => .error (.notAnswered said)
  | response r => r.value parse

end Http

namespace Backend

/-- The request for an operation: with a body it is a POST. There is none if the backend's URL names
no server. -/
def request? (b : Backend) (operation : Operation) (body : Option (List Char)) :
    Option Http.Request :=
  (Http.target? (b.urlOf operation.path)).map fun target =>
    -- only a body has a type that is said
    match body with
    | some written => ⟨.post, target, some "application/json", String.ofList written⟩
    | none => ⟨.get, target, none, ""⟩

/-- Sends the request for an operation, if there is one, and reads what comes of it. -/
def send (b : Backend) (operation : Operation) (body : Option (List Char))
    (parse : String → Except Wire.Error α) : Http.Exchange (Except RemoteError α) := do
  let arrival ← Http.Exchange.send (b.request? operation body)
  -- whatever went wrong is told under the path of the operation
  return (arrival.value parse).mapError operation.error

/-- The way to a backend over HTTP. -/
def gateway (b : Backend) : Gateway Http.Exchange where
  createWallet name :=
    b.send .createWallet (some (CreateWalletRequest.schema.write ⟨name⟩)) CreatedWallet.parse
  importWallet key name :=
    b.send .importWallet (some (ImportWalletRequest.schema.write ⟨key, name⟩))
      WalletRecord.schema.parse
  listWallets := b.send .listWallets none WalletRecord.parseList
  createToken spec :=
    b.send .createToken (some (TokenSpec.schema.write spec)) GeneratedToken.schema.parse
  generateContract request :=
    b.send .generateContract (some (ContractRequest.schema.write request))
      GeneratedContract.schema.parse

end Backend

end WalletPanel
