import WalletPanel.Remote.Gateway
import WalletPanel.Workflow.Workflow

/-!
# Submitting a form and taking its result

What the five forms have in common. Submitting (`submitCall`) looks in turn at whether a request is
under way, at whether the form makes a call, and at whether the phase allows it; only the second
fault is told to the user. Taking a result (`settle`) tells the user how the request ended, once,
unless the result is dropped.
-/

namespace WalletPanel

/-- What the user is told when a request has ended. -/
structure Outcome where
  success : String
  failure : String
deriving DecidableEq, Repr

/-- Submits the call that a form makes. -/
def submitCall (id : WorkflowId) (w : Workflow α) (call : Except ValidationError RemoteCall) :
    Traced (Workflow α × Option Dispatch) :=
  if w.state.isSubmitting then do
    -- a second click while the first one is under way, of which the user is told nothing
    Traced.emit (.submitIgnored id)
    return (w, none)
  else
    match call with
    -- the one fault that the user is told of
    | .error error => do
      Traced.emit (.formInvalid id error)
      Traced.emit (.announced .error error.message)
      return (w, none)
    | .ok call => do
      let (w, ticket) ← w.begin id.label
      match ticket with
      | .ok ticket => do
        Traced.emit (.dispatching id call.operation)
        return (w, some ⟨id, ticket, call⟩)
      | .error error => do
        -- after a success the form has to be reset first
        Traced.emit (.submitRejected id error)
        return (w, none)

/-- Takes a result and tells the user about it, unless it is dropped. -/
def settle (id : WorkflowId) (outcome : Outcome) (w : Workflow α) (ticket : UInt64)
    (result : Except RemoteError α) : Traced (Workflow α × Resolution) := do
  let (w, resolution) ← w.resolve id.label ticket result
  match resolution with
  | .succeeded => Traced.emit (.announced .success outcome.success)
  | .failed => Traced.emit (.announced .error outcome.failure)
  -- for the user a result that is dropped has not happened
  | .stale => pure ()
  return (w, resolution)

end WalletPanel
