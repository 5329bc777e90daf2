import WalletPanel.Journal.Traced

/-!
# Workflows

A workflow holds what its last request has come to. Each submission and each reset gives it a new
generation; the generation of a submission is the ticket of its request, and a result is taken only
under the ticket of the request that is under way (`Workflow.resolve`). A result that comes too
late, twice or after a reset is dropped: it changes nothing but the journal.

Generations are counted in words of sixty-four bits, from which follows that a ticket can come up
again after `2 ^ 64` submissions and resets and not before.
-/

namespace WalletPanel

/-- What the last request of a workflow has come to. -/
inductive WorkflowState (α : Type) where
  /-- There is no request, or it was given up. -/
  | idle
  | submitting
  | succeeded (value : α)
  | failed (reason : String)
deriving DecidableEq, Repr

namespace WorkflowState

def phase : WorkflowState α → Phase
  | idle => .idle
  | submitting => .submitting
  | succeeded _ => .succeeded
  | failed _ => .failed

def isSubmitting : WorkflowState α → Bool
  | submitting => true
  | _ => false

def value? : WorkflowState α → Option α
  | succeeded value => some value
  | _ => none

def reason? : WorkflowState α → Option String
  | failed reason => some reason
  | _ => none

theorem isSubmitting_iff (s : WorkflowState α) : s.isSubmitting = true ↔ s.phase = .submitting := by
  cases s <;> simp [isSubmitting, phase]

theorem value?_eq_some_iff (s : WorkflowState α) (value : α) :
    s.value? = some value ↔ s = .succeeded value := by
  cases s <;> simp [value?]

end WorkflowState

/-- How a result was taken. -/
inductive Resolution where
  | succeeded
  | failed
  /-- It was dropped. -/
  | stale
deriving DecidableEq, Repr

/-- The name of a way in which a result was taken. -/
def Resolution.name : Resolution → String
  | succeeded => "Succeeded"
  | failed => "Failed"
  | stale => "Stale"

/-- A workflow whose requests bring values of `α`. -/
structure Workflow (α : Type) where
  state : WorkflowState α
  /-- How many submissions and resets there have been. -/
  generation : UInt64
deriving DecidableEq, Repr

namespace Workflow

/-- A workflow at rest that has not been used. -/
def start : Workflow α := ⟨.idle, 0⟩

def phase (w : Workflow α) : Phase := w.state.phase

/-- Notes in the journal what an action does in a phase, if it does anything. -/
def note (label : String) (generation : UInt64) (phase : Phase) (action : Action) : Traced Unit :=
  match phase.after action with
  | .ok t => Traced.emit (.transition label t generation)
  -- an action that the phase does not allow leaves no trace
  | .error _ => pure ()

/-- Submits a request and yields its ticket, if the phase allows it. -/
def begin (label : String) (w : Workflow α) :
    Traced (Workflow α × Except TransitionError UInt64) :=
  match w.phase.after .submit with
  | .ok t => do
    -- the generation that is entered is the ticket of the request
    let generation := w.generation + 1
    Traced.emit (.transition label t generation)
    return (⟨.submitting, generation⟩, .ok generation)
  | .error e => return (w, .error e)

/-- Takes the result of the request with this ticket, if that is the one under way. -/
def resolve (label : String) (w : Workflow α) (ticket : UInt64) (result : Except RemoteError α) :
    Traced (Workflow α × Resolution) :=
  -- the ticket alone would do after a reset, but not after a result
  if ticket = w.generation ∧ w.state.isSubmitting then
    match result with
    | .ok value => do
      note label w.generation .submitting .remoteSuccess
      return ({ w with state := .succeeded value }, .succeeded)
    -- the journal has the error in full, and the state its detail
    | .error error => do
      Traced.emit (.requestFailed label error)
      note label w.generation .submitting .remoteFailure
      return ({ w with state := .failed error.detail }, .failed)
  else do
    -- too late, a second time or after a reset
    Traced.emit (.staleResult label ticket w.generation)
    return (w, .stale)

/-- Gives up whatever the last request has come to. -/
def reset (label : String) (w : Workflow α) : Traced (Workflow α) := do
  -- a new generation, so that the ticket of a request under way is void
  let generation := w.generation + 1
  note label generation w.phase .reset
  return ⟨.idle, generation⟩

@[simp] theorem phase_start : (start : Workflow α).phase = .idle := rfl

@[simp] theorem state_reset (label : String) (w : Workflow α) :
    (w.reset label).value.state = .idle := by
  simp [reset]

@[simp] theorem generation_reset (label : String) (w : Workflow α) :
    (w.reset label).value.generation = w.generation + 1 := by
  simp [reset]

end Workflow

end WalletPanel
