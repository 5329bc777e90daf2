import WalletPanel.Panel.Step
import WalletPanel.Proofs.Workflow.Values

/-!
# Censored panels

A panel is censored by replacing the keys in it by one that is the same for all: the key of a wallet
that was created, and what was typed as the key of a wallet to be imported, of which only whether it
is blank is kept. Operations and answers are censored in the same way.

To censor a panel and an operation and then do it is the same as to do the operation and then
censor what it has left and answered; in particular the events are the same (`step_censored`). So
an operation never looks at a key, apart from whether one has been typed. The lemmas say this of
one function of the panel each.
-/

namespace WalletPanel

/-! ### What is censored -/

/-- The key that stands for all keys. -/
def PrivateKey.placeholder : PrivateKey := ⟨"x"⟩

/-- What is left of a text that was typed as a key: whether there is one. -/
def censoredText (text : String) : String :=
  if Text.allBlank text then "" else PrivateKey.placeholder.expose

/-- A new wallet with a placeholder for its key. -/
def CreatedWallet.censored (w : CreatedWallet) : CreatedWallet :=
  { w with privateKey := .placeholder }

/-- A call with a placeholder for the key, which one of the calls has. -/
def RemoteCall.censored : RemoteCall → RemoteCall
  | importWallet request => importWallet { request with privateKey := .placeholder }
  | call => call

/-- A reply with a placeholder for the key, which one of the replies has. -/
def RemoteReply.censored : RemoteReply → RemoteReply
  | createdWallet result => createdWallet (result.map CreatedWallet.censored)
  | reply => reply

/-- A request with its call censored. -/
def Dispatch.censored (d : Dispatch) : Dispatch := { d with call := d.call.censored }

/-- A completion with its reply censored. -/
def Completion.censored (c : Completion) : Completion := { c with reply := c.reply.censored }

/-- A copy with a placeholder for the text, if that is a key. -/
def CopyJob.censored (job : CopyJob) : CopyJob :=
  if job.target = .createdPrivateKey then { job with text := PrivateKey.placeholder.expose }
  else job

/-- The form with its wallet censored, if it holds one. -/
def CreateForm.censored (f : CreateForm) : CreateForm :=
  { f with workflow := f.workflow.map CreatedWallet.censored }

/-- The form with what was typed as the key censored. -/
def ImportForm.censored (f : ImportForm) : ImportForm := { f with key := censoredText f.key }

namespace Panel

/-- A panel with the keys in both of its forms censored. -/
def censored (p : Panel) : Panel :=
  { p with createWallet := p.createWallet.censored, importWallet := p.importWallet.censored }

/-- An operation with the key censored that it puts in or brings. -/
def Op.censored : Op → Op
  | .edit .importKey text => .edit .importKey (censoredText text)
  | .apply c => .apply c.censored
  | op => op

/-- An answer with the key censored that is in the request or the copy. -/
def Answer.censored : Answer → Answer
  | .dispatch d => .dispatch (d.map Dispatch.censored)
  | .job j => .job (j.map CopyJob.censored)
  | answer => answer

end Panel

/-! ### Submissions -/

/-- Something that may go with a request, both of them censored. -/
def censoredWith (f : α → β) (r : α × Option Dispatch) : β × Option Dispatch :=
  (f r.1, r.2.map Dispatch.censored)

/-- A censored call is one of the same operation. -/
@[simp] theorem RemoteCall.operation_censored (c : RemoteCall) :
    c.censored.operation = c.operation := by
  cases c <;> rfl

/-- A submission does not look at the value that a workflow holds, nor at the key in a call. -/
theorem submitCall_censored (f : α → β) (id : WorkflowId) (w : Workflow α)
    (call : Except ValidationError RemoteCall) :
    submitCall id (w.map f) (call.map RemoteCall.censored)
      = censoredWith (Workflow.map f) <$> submitCall id w call :=
  submitCall_map f RemoteCall.censored RemoteCall.operation_censored id w call

/-- This for a workflow whose values have no keys in them. -/
theorem submitCall_censored_call (id : WorkflowId) (w : Workflow α)
    (call : Except ValidationError RemoteCall) :
    submitCall id w (call.map RemoteCall.censored)
      = censoredWith (fun w => w) <$> submitCall id w call := by
  have hs := submitCall_censored (fun a : α => a) id w call
  rwa [Workflow.map_id] at hs

/-- A call without a key may be taken for a censored one. -/
theorem submitCall_of_keyless (id : WorkflowId) (w : Workflow α)
    {call : Except ValidationError RemoteCall} (h : call.map RemoteCall.censored = call) :
    submitCall id w call = censoredWith (fun w => w) <$> submitCall id w call := by
  have hs := submitCall_censored_call id w call
  rwa [h] at hs

namespace CreateForm

/-- A submission of the form does not look at the key of a wallet that it may still hold. -/
theorem submit_censored (f : CreateForm) :
    f.censored.submit = censoredWith censored <$> f.submit := by
  have hc : f.censored.call = f.call.map RemoteCall.censored := by
    unfold call censored
    dsimp only
    split <;> rfl
  unfold submit
  rw [hc]
  exact Traced.bind_of_map (submitCall_censored _ _ f.workflow f.call) fun _ => rfl

/-- A result for the form is taken in the same way, whatever key is in it. -/
theorem complete_censored (f : CreateForm) (ticket : UInt64)
    (result : Except RemoteError CreatedWallet) :
    f.censored.complete ticket (result.map CreatedWallet.censored)
      = (fun r => (r.1.censored, r.2)) <$> f.complete ticket result := by
  unfold complete
  exact Traced.bind_of_map (settle_map _ _ _ f.workflow ticket result) fun _ => rfl

/-- A reset takes the key away, whichever it is. -/
theorem reset_censored (f : CreateForm) : f.censored.reset = censored <$> f.reset := by
  unfold reset
  exact Traced.bind_of_map (f.workflow.reset_map _) fun _ => rfl

/-- There is a key to show before and after. -/
theorem isSome_privateKey?_censored (f : CreateForm) :
    f.censored.privateKey?.isSome = f.privateKey?.isSome := by
  have hw : f.censored.workflow.state.value? = f.workflow.state.value?.map CreatedWallet.censored :=
    f.workflow.state.value?_map _
  simp [privateKey?, hw]

/-- The mask is turned as before. -/
theorem toggleReveal_censored (f : CreateForm) :
    f.censored.toggleReveal = f.toggleReveal.censored := by
  unfold toggleReveal
  -- only whether there is a key decides
  rw [isSome_privateKey?_censored]
  split <;> rfl

end CreateForm

namespace ImportForm

/-- What is left of a text is blank just when the text is. -/
theorem allBlank_censoredText (text : String) :
    Text.allBlank (censoredText text) = Text.allBlank text := by
  unfold censoredText
  -- the placeholder is not blank
  split
  · next h =>
    rw [h]
    decide
  · next h =>
    rw [Bool.not_eq_true] at h
    rw [h]
    decide

/-- The call of the censored form is the censored call of the form. -/
theorem call_censored (f : ImportForm) :
    f.censored.call = f.call.map RemoteCall.censored := by
  unfold call
  have hk : Text.allBlank f.censored.key = Text.allBlank f.key := allBlank_censoredText f.key
  have hn : f.censored.name = f.name := rfl
  rw [hk, hn]
  split
  · rfl
  · next h =>
    -- the placeholder is its own trimmed form, so that the call is the censored one
    have hkey : Text.trimBlank f.censored.key = PrivateKey.placeholder.expose := by
      have hx : f.censored.key = PrivateKey.placeholder.expose := if_neg h
      rw [hx]
      decide
    rw [hkey]
    split <;> rfl

/-- A submission of the form looks at whether a key is typed, and at nothing else of it. -/
theorem submit_censored (f : ImportForm) :
    f.censored.submit = censoredWith censored <$> f.submit := by
  unfold submit
  rw [f.call_censored]
  exact Traced.bind_of_map (submitCall_censored_call _ f.workflow f.call) fun _ => rfl

/-- A result for the form is taken in the same way, whatever key was typed. -/
theorem complete_censored (f : ImportForm) (ticket : UInt64)
    (result : Except RemoteError WalletRecord) :
    f.censored.complete ticket result
      = (fun r => (r.1.censored, r.2)) <$> f.complete ticket result := by
  have hw : f.censored.workflow = f.workflow := rfl
  unfold complete
  rw [hw, map_bind]
  refine bind_congr fun r => ?_
  -- after a success the key is emptied, and the empty text is its own censored form
  obtain ⟨w, resolution⟩ := r
  cases resolution <;> rfl

/-- A reset takes the key away, whichever was typed. -/
theorem reset_censored (f : ImportForm) : f.censored.reset = censored <$> f.reset := by
  have hw : f.censored.workflow = f.workflow := rfl
  unfold reset
  rw [hw, map_bind]
  rfl

end ImportForm

/-! ### Forms without keys -/

/-- Loading the list has no key in it. -/
theorem WalletList.mount_censored (l : WalletList) :
    l.mount = censoredWith (fun l => l) <$> l.mount := by
  unfold mount
  split
  · rfl
  · rw [map_bind]
    refine bind_congr fun w => ?_
    exact Traced.bind_of_map (submitCall_of_keyless _ w rfl) fun _ => rfl

/-- Neither has a submission of the token form. -/
theorem TokenForm.submit_censored (f : TokenForm) :
    f.submit = censoredWith (fun f => f) <$> f.submit := by
  have hc : (f.spec.map RemoteCall.createToken).map RemoteCall.censored
      = f.spec.map RemoteCall.createToken := by
    cases f.spec <;> rfl
  unfold submit
  exact Traced.bind_of_map (submitCall_of_keyless _ f.workflow hc) fun _ => rfl

/-- Nor one of the contract form. -/
theorem ContractForm.submit_censored (f : ContractForm) :
    f.submit = censoredWith (fun f => f) <$> f.submit := by
  have hc : f.call.map RemoteCall.censored = f.call := by
    unfold call
    split <;> rfl
  unfold submit
  exact Traced.bind_of_map (submitCall_of_keyless _ f.workflow hc) fun _ => rfl

/-! ### The panel -/

namespace Panel

/-- The list is loaded whatever keys the panel has. -/
theorem mount_censored (p : Panel) : p.censored.mount = censoredWith censored <$> p.mount := by
  unfold mount
  exact Traced.bind_of_map p.walletList.mount_censored fun _ => rfl

/-- A screen is entered whatever keys the panel has. -/
theorem enter_censored (p : Panel) (s : Screen) :
    p.censored.enter s = censoredWith censored <$> p.enter s := by
  cases s with
  | dashboard => exact p.mount_censored
  | _ => rfl

/-- Any form is reset without a look at a key. -/
theorem reset_censored (p : Panel) (w : WorkflowId) :
    p.censored.reset w = censored <$> p.reset w := by
  -- only two forms hold something that is censored
  cases w with
  | createWallet =>
    unfold reset
    exact Traced.bind_of_map p.createWallet.reset_censored fun _ => rfl
  | importWallet =>
    unfold reset
    exact Traced.bind_of_map p.importWallet.reset_censored fun _ => rfl
  | _ =>
    unfold reset
    dsimp only
    rw [map_bind]
    rfl

/-- Going to a screen may give up a key, and looks at none. -/
theorem navigate_censored (p : Panel) (s : Screen) :
    p.censored.navigate s = censoredWith censored <$> p.navigate s := by
  have hscreen : p.censored.screen = p.screen := rfl
  unfold navigate
  rw [hscreen]
  split
  · exact p.enter_censored s
  · rw [map_bind]
    refine bind_congr fun _ => ?_
    exact Traced.bind_of_map (p.reset_censored _) fun q =>
      ({ q with screen := s } : Panel).enter_censored s

/-- Any form is submitted without a look at a key, but for whether one is typed. -/
theorem submit_censored (p : Panel) (w : WorkflowId) :
    p.censored.submit w = censoredWith censored <$> p.submit w := by
  -- the call is censored with its form
  cases w with
  | createWallet =>
    unfold submit
    exact Traced.bind_of_map p.createWallet.submit_censored fun _ => rfl
  | importWallet =>
    unfold submit
    exact Traced.bind_of_map p.importWallet.submit_censored fun _ => rfl
  | walletList => exact p.mount_censored
  | tokenCreator =>
    unfold submit
    exact Traced.bind_of_map p.tokenCreator.submit_censored fun _ => rfl
  | contractWriter =>
    unfold submit
    exact Traced.bind_of_map p.contractWriter.submit_censored fun _ => rfl

/-- A completion is routed without a look at the key in it. -/
theorem apply_censored (p : Panel) (c : Completion) :
    p.censored.apply c.censored = (fun r => (r.1.censored, r.2)) <$> p.apply c := by
  obtain ⟨w, ticket, reply⟩ := c
  cases w <;> cases reply
  case createWallet.createdWallet result =>
    unfold apply
    exact Traced.bind_of_map (p.createWallet.complete_censored ticket result) fun _ => rfl
  case importWallet.importedWallet result =>
    unfold apply
    exact Traced.bind_of_map (p.importWallet.complete_censored ticket result) fun _ => rfl
  -- a reply without a key goes to a form without one
  case walletList.wallets result | tokenCreator.token result | contractWriter.contract result =>
    unfold apply
    dsimp only [Completion.censored, RemoteReply.censored]
    rw [map_bind]
    rfl
  -- a reply of another kind than the workflow asks for goes nowhere
  all_goals rfl

/-- What is copied is the same, but for a key. -/
theorem copyText?_censored (p : Panel) (target : CopyTarget) :
    p.censored.copyText? target
      = (p.copyText? target).map fun text => (CopyJob.censored ⟨target, text⟩).text := by
  have hv : p.censored.createWallet.workflow.state.value?
      = p.createWallet.workflow.state.value?.map CreatedWallet.censored :=
    p.createWallet.workflow.state.value?_map _
  -- the other targets are of forms without keys
  have hother : ∀ t : CopyTarget, t ≠ .createdPrivateKey → p.censored.copyText? t = p.copyText? t →
      p.censored.copyText? t
        = (p.copyText? t).map fun text => (CopyJob.censored ⟨t, text⟩).text := by
    intro t ht h
    rw [h]
    cases p.copyText? t with
    | none => rfl
    | some text => rw [Option.map_some, CopyJob.censored, if_neg ht]
  cases target with
  | createdAddress =>
    unfold copyText? CreateForm.created?
    dsimp only
    rw [hv]
    cases p.createWallet.workflow.state.value? <;> rfl
  | createdPrivateKey =>
    unfold copyText? CreateForm.privateKey?
    dsimp only
    rw [hv]
    cases p.createWallet.workflow.state.value? <;> rfl
  | importedAddress | listedAddress _ | tokenContract | generatedContract =>
    exact hother _ nofun rfl

/-- A copy is begun as before, but for the key in it. -/
theorem copy_censored (p : Panel) (target : CopyTarget) :
    p.censored.copy target = Option.map CopyJob.censored <$> p.copy target := by
  unfold copy
  rw [copyText?_censored]
  cases p.copyText? target with
  | none => rfl
  | some text =>
    have hj : (CopyJob.mk target text).censored
        = ⟨target, (CopyJob.mk target text).censored.text⟩ := by
      unfold CopyJob.censored
      split <;> rfl
    -- the journal and the job name the target; the text is in the job alone
    dsimp only [Option.map]
    rw [← hj]
    rfl

/-- What an operation does. -/
theorem act_censored (p : Panel) (op : Op) :
    p.censored.act op.censored = (fun r => (r.1.censored, r.2.censored)) <$> p.act op := by
  -- each operation goes to a form, and each form goes through censoring
  cases op with
  | start =>
    unfold act
    exact Traced.bind_of_map (p.enter_censored p.screen) fun _ => rfl
  | navigate target =>
    unfold act
    exact Traced.bind_of_map (p.navigate_censored target) fun _ => rfl
  | submit w =>
    unfold act
    exact Traced.bind_of_map (p.submit_censored w) fun _ => rfl
  | edit field text => cases field <;> rfl
  | reset w =>
    unfold act
    exact Traced.bind_of_map (p.reset_censored w) fun _ => rfl
  | toggleReveal =>
    have hf : p.censored.createWallet.toggleReveal = p.createWallet.toggleReveal.censored :=
      p.createWallet.toggleReveal_censored
    unfold act
    dsimp only [Op.censored]
    rw [hf]
    rfl
  | selectExample index => rfl
  | copy target =>
    unfold act
    exact Traced.bind_of_map (p.copy_censored target) fun _ => rfl
  | apply c =>
    unfold act
    exact Traced.bind_of_map (p.apply_censored c) fun _ => rfl
  | finishCopy o =>
    unfold act
    dsimp only [Op.censored]
    rw [map_bind]
    rfl

/-- **Operations on censored panels.** To censor and then do an operation is to do the operation and
then censor; the events are the same. -/
theorem step_censored (p : Panel) (op : Op) :
    p.censored.step op.censored = (fun r => (r.1.censored, r.2.censored)) <$> p.step op := by
  have ha := p.act_censored op
  -- the notices are recorded from the events, so that they are the same too
  have he : (p.censored.act op.censored).events = (p.act op).events := by
    rw [ha, Traced.events_map]
  refine Traced.ext ?_ ?_
  · unfold step
    dsimp only
    rw [ha, Traced.events_map]
    rfl
  · rw [Traced.events_map]
    exact he

end Panel

end WalletPanel
