/-!
# Phases of a workflow

A workflow sends one request at a time. It is idle, has a request under way, or shows how the last
one ended. `Phase.after` is the table of what may happen in which phase; everything that is not in
it is refused with the phase and the action that do not go together.
-/

namespace WalletPanel

/-- Where a workflow stands. -/
inductive Phase where
  | idle
  | submitting
  | succeeded
  | failed
deriving DecidableEq, Repr

/-- What can happen to a workflow. -/
inductive Action where
  | submit
  | remoteSuccess
  | remoteFailure
  | reset
deriving DecidableEq, Repr

/-- A change of phase, with the reason that the journal gives for it. -/
structure Transition where
  source : Phase
  target : Phase
  reason : String
deriving DecidableEq, Repr

/-- An action that its phase does not allow. -/
structure TransitionError where
  phase : Phase
  action : Action
deriving DecidableEq, Repr

def Phase.name : Phase → String
  | idle => "Idle"
  | submitting => "Submitting"
  | succeeded => "Succeeded"
  | failed => "Failed"

def Action.name : Action → String
  | submit => "Submit"
  | remoteSuccess => "RemoteSuccess"
  | remoteFailure => "RemoteFailure"
  | reset => "Reset"

/-- What is said about an action that its phase does not allow. -/
def TransitionError.message (e : TransitionError) : String :=
  s!"illegal workflow transition: {e.phase.name} --{e.action.name}-->"

/-- The table of transitions. A request is submitted from rest or again after a failure, it ends
while it is under way, and a reset is always possible. -/
def Phase.after (phase : Phase) (action : Action) : Except TransitionError Transition :=
  match phase, action with
  | .idle, .submit => .ok ⟨phase, .submitting, "submit"⟩
  | .failed, .submit => .ok ⟨phase, .submitting, "retry"⟩
  | .submitting, .remoteSuccess => .ok ⟨phase, .succeeded, "remote_success"⟩
  | .submitting, .remoteFailure => .ok ⟨phase, .failed, "remote_failure"⟩
  -- from any phase, rest included
  | _, .reset => .ok ⟨phase, .idle, "reset"⟩
  | _, _ => .error ⟨phase, action⟩

/-- A transition starts where the workflow stands. -/
theorem Phase.source_of_after {phase : Phase} {action : Action} {t : Transition}
    (h : phase.after action = .ok t) : t.source = phase := by
  cases phase <;> cases action <;> simp [Phase.after] at h <;> simp [← h]

end WalletPanel
