import WalletPanel.Http.Status
import WalletPanel.Text.Utf8

/-!
# Exchanges with a server

A computation that may send requests is an `Exchange`: either it is done, or it waits with a request
for what comes of that request, and goes on from there. What comes of it is not said here, so that
an exchange can be carried out by a server, against answers written down beforehand
(`Exchange.answer`), or bit by bit while other things happen.

A request may turn out to be one that cannot be sent. The computation waits all the same, for it
learns of this when it is told, and it may be told at any time.
-/

namespace WalletPanel.Http

/-- What is done to what a request names. -/
inductive Method where
  | get
  | post
deriving DecidableEq, Repr

def Method.name : Method → String
  | get => "GET"
  | post => "POST"

structure Request where
  method : Method
  /-- The path with the query, as it is sent. -/
  target : String
  /-- What the body is, if there is one. -/
  contentType : Option String
  body : String
deriving DecidableEq, Repr

/-- What a server sends back. -/
structure Response where
  status : Nat
  /-- The octets after the head. -/
  sent : List UInt8
  /-- What is said of it if these are fewer than the head has promised. -/
  cutShort : Option String
deriving DecidableEq, Repr

/-- The body of a response as text, or what is said of one that has not come in full. -/
def Response.text (r : Response) : Except String String :=
  -- what follows the head of such a response is not its body
  if isBodiless r.status then .ok ""
  else match r.cutShort with
    | none => .ok (Text.lossy r.sent)
    | some said => .error said

/-- What comes of a request. The texts are those of the library that sends it. -/
inductive Arrival where
  /-- Nothing, and why: the request could not be sent, the connection was not made, or it was closed
  before an answer. -/
  | nothing (said : String)
  | response (r : Response)
deriving DecidableEq, Repr

/-- Whether this can come of a request. There is no response to a request that cannot be sent. -/
def Arrival.mayComeOf : Option Request → Arrival → Bool
  | none, .response _ => false
  | _, _ => true

/-- A computation that may send requests. One that asks for nothing wants to send a request that
cannot be sent, and waits to be told so. -/
inductive Exchange (α : Type) where
  | done (value : α)
  | ask (request : Option Request) (next : Arrival → Exchange α)

namespace Exchange

/-- Goes on with `f` when the exchange is done. -/
def bind (f : α → Exchange β) : Exchange α → Exchange β
  | done value => f value
  | ask request next => ask request fun arrival => bind f (next arrival)

instance : Monad Exchange where
  pure := done
  bind x f := bind f x

def send (request : Option Request) : Exchange Arrival := ask request done

/-- Carries out an exchange in which every request is answered by `server`, and of those that cannot
be sent `refusal` is said; yields the requests that were sent, in order, beside the result. -/
def answer (server : Request → Arrival) (refusal : String) : Exchange α → List Request × α
  | done value => ([], value)
  | ask none next => answer server refusal (next (.nothing refusal))
  | ask (some request) next =>
    -- what comes of the request decides which requests follow
    let (requests, value) := answer server refusal (next (server request))
    (request :: requests, value)

@[simp] theorem bind_done (f : α → Exchange β) (value : α) : bind f (done value) = f value := rfl

@[simp] theorem bind_ask (f : α → Exchange β) (request : Option Request)
    (next : Arrival → Exchange α) :
    bind f (ask request next) = ask request fun arrival => bind f (next arrival) := rfl

theorem bind_done_right (x : Exchange α) : bind done x = x := by
  induction x with
  | done _ => rfl
  | ask request next ih => simp [ih]

theorem bind_assoc (f : α → Exchange β) (g : β → Exchange γ) (x : Exchange α) :
    bind g (bind f x) = bind (fun a => bind g (f a)) x := by
  induction x with
  | done _ => rfl
  | ask request next ih => simp [ih]

instance : LawfulMonad Exchange := LawfulMonad.mk' Exchange
  (fun x => bind_done_right x)
  (fun _ _ => rfl)
  (fun x f g => bind_assoc f g x)

end Exchange

end WalletPanel.Http
