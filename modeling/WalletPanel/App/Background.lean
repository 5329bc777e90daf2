import WalletPanel.Clipboard.Job
import WalletPanel.Remote.Client

/-!
# Work in the background

Calls and copies are carried out while the panel goes on. A call that has been started waits for
what comes of its request, and so does one whose request cannot be sent; when it is done its
completion lies ready until the panel takes it, and so does the outcome of a copy. Everything may
end at any time and in any order; what is ready is taken in the order in which it became ready.
-/

namespace WalletPanel

/-- A call that waits for what comes of a request. -/
structure WaitingCall where
  dispatch : Dispatch
  /-- The number of its request among all that were asked for. -/
  number : Nat
  request : Option Http.Request
  next : Http.Arrival → Http.Exchange (Traced Completion)

/-- Whether this is what the call waits for: something comes of the request of this number. -/
def WaitingCall.awaits (call : WaitingCall) (number : Nat) (arrival : Http.Arrival) : Bool :=
  call.number = number && arrival.mayComeOf call.request

/-- What is going on beside the panel. -/
structure Background where
  /-- The requests that were asked for, with nothing in place of those that cannot be sent. -/
  requests : List (Option Http.Request)
  waiting : List WaitingCall
  /-- The completions that are ready, the oldest first. -/
  completions : List Completion
  copying : List CopyJob
  /-- The outcomes of copies that are ready, the oldest first. -/
  outcomes : List CopyOutcome

namespace Background

def idle : Background := ⟨[], [], [], [], []⟩

/-- Goes on with a call until it waits or is done. -/
def proceed (b : Background) (d : Dispatch) : Http.Exchange (Traced Completion) → Background
  -- the panel takes the completion alone; the events of the call are for the journal
  | .done completion => { b with completions := b.completions ++ [completion.value] }
  | .ask request next =>
    { b with
      requests := b.requests ++ [request]
      -- a request is known by its place among all that were asked for
      waiting := b.waiting ++ [⟨d, b.requests.length, request, next⟩] }

def start (backend : Backend) (b : Background) (d : Dispatch) : Background :=
  b.proceed d (d.run backend.gateway)

/-- Lets the call that waits on a request go on with what comes of it; without effect if none waits
for this. -/
def arrive (b : Background) (number : Nat) (arrival : Http.Arrival) : Background :=
  match b.waiting.find? (·.awaits number arrival) with
  | some call =>
    -- the call is taken out first, and may be put back with another request
    { b with waiting := b.waiting.eraseP (·.awaits number arrival) }.proceed call.dispatch
      (call.next arrival)
  | none => b

def startCopy (b : Background) (job : CopyJob) : Background :=
  { b with copying := b.copying ++ [job] }

/-- Ends the copy at place `index` with a result; without effect if there is none. -/
def endCopy (b : Background) (index : Nat) (result : Except ClipboardError Unit) : Background :=
  match b.copying[index]? with
  | some job =>
    { b with
      copying := b.copying.eraseIdx index
      outcomes := b.outcomes ++ [⟨job.target, result⟩] }
  | none => b

/-- Ends all copies by a clipboard. -/
def endCopies (clipboard : String → Except ClipboardError Unit) (b : Background) : Background :=
  { b with
    copying := []
    outcomes := b.outcomes ++ b.copying.map fun job => ⟨job.target, clipboard job.text⟩ }

/-- The background after everything that is ready has been taken. -/
def taken (b : Background) : Background := { b with completions := [], outcomes := [] }

end Background

end WalletPanel
