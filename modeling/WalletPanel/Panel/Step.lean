import WalletPanel.Panel.Panel

/-!
# Operations of the panel

Everything that can be done to a panel is an `Op`, and `Panel.step` does it: the forms change, an
answer is given, and what the user is to be told is posted to the log. A run is a list of
operations; what it leaves behind and what it answers follow from the list alone (`Panel.run`).
-/

namespace WalletPanel

/-- Something that is done to the panel. -/
inductive Panel.Op where
  /-- The panel is shown for the first time. -/
  | start
  | navigate (screen : Screen)
  | submit (workflow : WorkflowId)
  | edit (field : Field) (text : String)
  | reset (workflow : WorkflowId)
  | toggleReveal
  | selectExample (index : Nat)
  | copy (target : CopyTarget)
  | apply (completion : Completion)
  | finishCopy (outcome : CopyOutcome)

inductive Panel.Answer where
  | none
  /-- The call that has to be carried out, if there is one. -/
  | dispatch (dispatch : Option Dispatch)
  | resolution (resolution : Resolution)
  | flag (value : Bool)
  /-- The copy that has to be made, if there is one. -/
  | job (job : Option CopyJob)

namespace Panel

/-- What an operation does to the screen and the forms, and what it answers. -/
def act (p : Panel) : Op → Traced (Panel × Answer)
  | .start => do
    let (p, dispatch) ← p.enter p.screen
    return (p, .dispatch dispatch)
  | .navigate screen => do
    let (p, dispatch) ← p.navigate screen
    return (p, .dispatch dispatch)
  | .submit workflow => do
    let (p, dispatch) ← p.submit workflow
    return (p, .dispatch dispatch)
  | .edit field text => return (p.edit field text, .none)
  | .reset workflow => do
    let p ← p.reset workflow
    return (p, .none)
  | .toggleReveal =>
    let f := p.createWallet.toggleReveal
    return ({ p with createWallet := f }, .flag f.revealed)
  | .selectExample index =>
    let (f, found) := p.contractWriter.selectExample index
    return ({ p with contractWriter := f }, .flag found)
  | .copy target => do
    let job ← p.copy target
    return (p, .job job)
  | .apply completion => do
    let (p, resolution) ← p.apply completion
    return (p, .resolution resolution)
  | .finishCopy outcome => do
    let succeeded ← finishCopy outcome
    return (p, .flag succeeded)

/-- Does an operation and posts what the user is to be told. -/
def step (p : Panel) (op : Op) : Traced (Panel × Answer) :=
  -- the notices come from the events, so that all that is announced is posted
  let done := p.act op
  ⟨({ done.value.1 with notices := p.notices.record done.events }, done.value.2), done.events⟩

/-- Does one operation after the other; yields all answers. -/
def run (p : Panel) : List Op → Traced (Panel × List Answer)
  | [] => return (p, [])
  | op :: ops => do
    let (p, answer) ← p.step op
    let (p, answers) ← p.run ops
    return (p, answer :: answers)

/-- The log after a step has the announcements among the events of the step and nothing else new. -/
@[simp] theorem notices_step (p : Panel) (op : Op) :
    (p.step op).value.1.notices = p.notices.record (p.step op).events := rfl

end Panel

end WalletPanel
