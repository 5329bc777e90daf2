import WalletPanel.Proofs.Notice.Places
import WalletPanel.Proofs.Panel.History

/-!
# What the user is told

The log of notices is written by all forms and by the copies, through events that announce something
(`Event.announcement?`). This module gives the account of it. `Panel.told` says for each operation
what it adds to the log: a submission adds what is wrong with the form, a result how the request has
ended, a copy how it went, and everything else adds nothing. `announced_step` shows that a step
announces that and no more; from there the log of a run is the row of what its operations have
added, numbered from 0 (`notices_of_run`).

What is wrong with a form is said here without its `call`: the checks of a form stand in a row, and
the first of them that finds a fault is the one that is told (`fault?_eq`).
-/

namespace WalletPanel

/-! ### What submissions, results and resets announce -/

/-- What the user is told by a computation. -/
def Traced.announced (x : Traced α) : List (NoticeKind × String) :=
  x.events.filterMap Event.announcement?

/-- A mere value tells the user nothing. -/
@[simp] theorem Traced.announced_pure (a : α) : (pure a : Traced α).announced = [] := rfl

/-- An event tells what it announces, if it announces anything. -/
@[simp] theorem Traced.announced_emit (e : Event) :
    (emit e).announced = e.announcement?.toList := by
  unfold announced
  rw [events_emit, List.filterMap_cons]
  cases e.announcement? <;> rfl

/-- What is told first and what is told next. -/
@[simp] theorem Traced.announced_bind (x : Traced α) (f : α → Traced β) :
    (x >>= f).announced = x.announced ++ (f x.value).announced := by
  unfold announced
  rw [events_bind, List.filterMap_append]

/-- A change of the value tells nothing more. -/
@[simp] theorem Traced.announced_map (f : α → β) (x : Traced α) :
    (f <$> x).announced = x.announced := by
  unfold announced
  rw [events_map]

/-- To begin a request tells nothing. -/
theorem Workflow.announced_begin (label : String) (w : Workflow α) :
    (w.begin label).announced = [] := by
  unfold Workflow.begin
  cases w.phase <;> rfl

/-- A reset announces nothing. -/
@[simp] theorem Workflow.announced_reset (label : String) (w : Workflow α) :
    (w.reset label).announced = [] := by
  unfold Workflow.reset
  cases w.phase <;> rfl

/-- A submission announces what is wrong with the form, unless a request is under way. -/
theorem announced_submitCall (id : WorkflowId) (w : Workflow α)
    (call : Except ValidationError RemoteCall) :
    (submitCall id w call).announced = if w.phase = .submitting then [] else
      match call with
      | .error e => [(.error, e.message)]
      | .ok _ => [] := by
  have hs : w.state.isSubmitting = true ↔ w.phase = .submitting := w.state.isSubmitting_iff
  unfold submitCall
  by_cases h : w.phase = .submitting
  · rw [if_pos h, if_pos (hs.mpr h)]
    rfl
  · rw [if_neg h, if_neg (mt hs.mp h)]
    cases call with
    | error e => rfl
    | ok c =>
      -- the journal follows the phase and the call, and the user is told of neither
      dsimp only
      rw [Traced.announced_bind, Workflow.announced_begin]
      cases (w.begin id.label).value.2 <;> rfl

/-- How a result is told that was taken in some way. -/
def Outcome.notice? (outcome : Outcome) : Resolution → Option (NoticeKind × String)
  | .succeeded => some (.success, outcome.success)
  | .failed => some (.error, outcome.failure)
  | .stale => none

/-- A result is announced by the way in which it was taken. -/
theorem announced_settle_eq (id : WorkflowId) (outcome : Outcome) (w : Workflow α)
    (ticket : UInt64) (result : Except RemoteError α) :
    (settle id outcome w ticket result).announced
      = (outcome.notice? (w.resolution ticket result)).toList := by
  by_cases h : w.Awaits ticket
  · -- a result that is awaited is told as a success or as a failure
    unfold settle Workflow.resolve Workflow.resolution
    rw [if_pos ((w.awaits_iff ticket).mpr h), if_pos h]
    cases result <;> rfl
  · -- one that is not is told nowhere
    rw [(w.resolution_eq_stale_iff ticket result).mpr h]
    exact announced_settle h id outcome result

namespace Panel

/-! ### What is wrong with a form -/

/-- The checks of a form in the order in which they are made, each with whether it finds a fault.
The list of wallets has nothing to check. -/
def checks (p : Panel) : WorkflowId → List (ValidationError × Bool)
  | .createWallet => [(.missingWalletName, Text.allBlank p.createWallet.name)]
  | .importWallet =>
    [(.missingPrivateKey, Text.allBlank p.importWallet.key),
      (.missingWalletName, Text.allBlank p.importWallet.name)]
  | .walletList => []
  | .tokenCreator =>
    [(.missingTokenFields, Text.allBlank p.tokenCreator.name || p.tokenCreator.symbol == "" ||
        Text.allBlank p.tokenCreator.totalSupply),
      (.invalidTotalSupply, p.tokenCreator.supply?.isNone),
      (.zeroTotalSupply, p.tokenCreator.supply? == some 0),
      (.invalidDecimals, p.tokenCreator.decimals?.isNone)]
  | .contractWriter => [(.missingDescription, Text.allBlank p.contractWriter.description)]

/-- The first thing that is wrong with a form, if anything is. -/
def fault? (p : Panel) (w : WorkflowId) : Option ValidationError :=
  ((p.checks w).find? (·.2)).map (·.1)

/-- A form makes no call exactly if something is wrong with it, and says what is so first. -/
theorem fault?_eq (p : Panel) (w : WorkflowId) :
    p.fault? w = match p.call w with
      | .error e => some e
      | .ok _ => none := by
  cases w with
  | createWallet =>
    simp only [fault?, checks, call, CreateForm.call]
    cases Text.allBlank p.createWallet.name <;> rfl
  | importWallet =>
    simp only [fault?, checks, call, ImportForm.call]
    cases Text.allBlank p.importWallet.key <;> cases Text.allBlank p.importWallet.name <;> rfl
  | walletList => rfl
  | tokenCreator =>
    simp only [fault?, checks, call, TokenForm.spec]
    by_cases hm : Text.allBlank p.tokenCreator.name = true ∨ p.tokenCreator.symbol = "" ∨
        Text.allBlank p.tokenCreator.totalSupply = true
    · have hc : (Text.allBlank p.tokenCreator.name || p.tokenCreator.symbol == "" ||
          Text.allBlank p.tokenCreator.totalSupply) = true := by
        simpa [or_assoc] using hm
      rw [if_pos hm, hc]
      rfl
    · have hc : (Text.allBlank p.tokenCreator.name || p.tokenCreator.symbol == "" ||
          Text.allBlank p.tokenCreator.totalSupply) = false := by
        simpa [and_assoc] using hm
      rw [if_neg hm, hc]
      -- nothing is missing: the numbers are looked at
      cases hs : p.tokenCreator.supply? with
      | none => rfl
      | some supply =>
        cases supply with
        | zero => rfl
        | succ n => cases p.tokenCreator.decimals? <;> rfl
  | contractWriter =>
    simp only [fault?, checks, call, ContractForm.call]
    cases Text.allBlank p.contractWriter.description <;> rfl

/-! ### What an operation adds to the log -/

/-- How a copy that has ended is told. -/
def copyNotice (o : CopyOutcome) : NoticeKind × String :=
  match o.result with
  | .ok () => (.success, s!"{o.target.label} copied to clipboard!")
  | .error _ => (.error, copyFailureMessage)

/-- **What an operation adds to the log.** A submission adds the first thing that is wrong with the
form, unless a request is under way. A completion adds how the request ended, by the way in which
it was answered. A copy adds how it ended. Nothing else adds anything. -/
def told (p : Panel) (op : Op) : List (NoticeKind × String) :=
  match op with
  | .submit w =>
    if (p.workflow w).phase = .submitting then []
    else (p.fault? w).toList.map fun e => (.error, e.message)
  | .apply c =>
    match (p.entry op).answer with
    | .resolution r => ((outcome c.workflow).notice? r).toList
    | _ => []
  | .finishCopy o => [copyNotice o]
  | _ => []

/-- What the operations of a run add to the log, one after the other. -/
def toldBy (p : Panel) : List Op → List (NoticeKind × String)
  | [] => []
  | op :: ops => p.told op ++ (p.next op).toldBy ops

/-! ### What a step announces -/

/-- A reset of any form tells nothing. -/
theorem announced_reset (p : Panel) (w : WorkflowId) : (p.reset w).announced = [] := by
  cases w <;> simp [reset, CreateForm.reset, ImportForm.reset, WalletList.unmount, TokenForm.reset,
    ContractForm.reset]

/-- Loading the list is a submission of a form with which nothing can be wrong. -/
theorem announced_mount (p : Panel) : p.mount.announced = [] := by
  have hl : p.walletList.mount.announced = [] := by
    unfold WalletList.mount
    split
    · rfl
    · simp only [Traced.announced_bind, Workflow.announced_reset, announced_submitCall,
        Traced.announced_pure, ite_self, List.append_nil]
  unfold mount
  rw [Traced.announced_bind, hl]
  rfl

/-- Entering a screen tells nothing, be there a list to load or not. -/
theorem announced_enter (p : Panel) (s : Screen) : (p.enter s).announced = [] := by
  cases s with
  | dashboard => exact p.announced_mount
  | _ => rfl

/-- Going from screen to screen tells nothing. -/
theorem announced_navigate (p : Panel) (s : Screen) : (p.navigate s).announced = [] := by
  unfold navigate
  split
  · exact p.announced_enter s
  · rw [Traced.announced_bind, Traced.announced_bind, announced_reset, announced_enter]
    rfl

/-- A submission tells what is wrong with the form. -/
theorem announced_submit (p : Panel) (w : WorkflowId) :
    (p.submit w).announced = p.told (.submit w) := by
  by_cases hw : w = .walletList
  · subst hw
    have hs : p.told (.submit .walletList) = [] := by
      simp [told, fault?, checks]
    rw [hs]
    exact p.announced_mount
  · -- the other forms submit the call that they make
    have hsub : (p.submit w).announced = (submitCall w (p.workflow w) (p.call w)).announced := by
      cases w with
      | walletList => exact absurd rfl hw
      | _ =>
        simp only [submit, CreateForm.submit, ImportForm.submit, TokenForm.submit,
          ContractForm.submit, Traced.announced_bind, Traced.announced_pure, List.append_nil]
        rfl
    rw [hsub, announced_submitCall, told, fault?_eq]
    cases p.call w <;> rfl

/-- A completion tells how the request has ended. -/
theorem announced_apply (p : Panel) (c : Completion) :
    (p.apply c).announced = p.told (.apply c) := by
  have ht : p.told (.apply c) = ((outcome c.workflow).notice? (p.apply c).value.2).toList := rfl
  rw [ht]
  cases hr : c.result? c.workflow with
  | none =>
    -- a reply of the wrong kind is noted in the journal only
    rw [apply_eq_misrouted hr]
    rfl
  | some r =>
    rw [apply_eq_complete hr, resolution_complete, ← announced_settle_eq c.workflow]
    unfold Traced.announced
    rw [events_complete]

/-- The end of a copy tells how it went. -/
theorem announced_finishCopy (o : CopyOutcome) : (finishCopy o).announced = [copyNotice o] := by
  unfold finishCopy copyNotice
  cases o.result <;> rfl

/-- **A step announces what its operation adds to the log.** -/
theorem announced_step (p : Panel) (op : Op) : (p.step op).announced = p.told op := by
  have hact : (p.step op).announced = (p.act op).announced := rfl
  rw [hact]
  unfold act
  -- an operation is carried out and then answered, and the answer tells nothing
  cases op with
  | start => rw [Traced.announced_bind, announced_enter]; rfl
  | navigate s => rw [Traced.announced_bind, announced_navigate]; rfl
  | submit w => rw [Traced.announced_bind, announced_submit, Traced.announced_pure, List.append_nil]
  | edit field text => rfl
  | reset w => rw [Traced.announced_bind, announced_reset]; rfl
  | toggleReveal => rfl
  | selectExample index => rfl
  | copy target =>
    dsimp only
    rw [Traced.announced_bind]
    unfold copy
    cases p.copyText? target <;> rfl
  | apply c => rw [Traced.announced_bind, announced_apply, Traced.announced_pure, List.append_nil]
  | finishCopy o => rw [Traced.announced_bind, announced_finishCopy]; rfl

/-! ### The log of a run -/

/-- A step adds to the log what its operation tells. -/
theorem entries_next (p : Panel) (op : Op) :
    (p.next op).notices.entries
      = p.notices.entries ++ numbered p.notices.length (p.told op) := by
  have hn : (p.next op).notices = p.notices.record (p.step op).events := notices_step p op
  rw [hn, NoticeLog.entries_record, ← announced_step]
  rfl

/-- The log after a run is the log before with what the operations of the run have added. -/
theorem entries_after (p : Panel) (ops : List Op) :
    (p.after ops).notices.entries
      = p.notices.entries ++ numbered p.notices.length (p.toldBy ops) := by
  induction ops generalizing p with
  | nil => exact (List.append_nil _).symm
  | cons op ops ih =>
    -- the next notice has the number that the step has left it
    have hl : (p.next op).notices.length = p.notices.length + (p.told op).length := by
      rw [NoticeLog.length, entries_next, List.length_append, length_numbered]
      rfl
    change ((p.next op).after ops).notices.entries = _
    rw [ih, entries_next, hl, List.append_assoc, ← numbered_append]
    rfl

/-- **The log of a run.** After any run, whatever completions have come in, the log has what each
operation has added (`told`), in the order of the operations and numbered from 0, and nothing else.
What comes later only adds to it. -/
theorem notices_of_run (ops more : List Op) :
    (start.after ops).notices.entries = numbered 0 (start.toldBy ops) ∧
    (start.after ops).notices.entries.map (·.seq)
      = List.range (start.after ops).notices.entries.length ∧
    (start.after ops).notices.entries <+: (start.after (ops ++ more)).notices.entries := by
  have h := entries_after start ops
  have hs : start.notices.entries ++ numbered start.notices.length (start.toldBy ops)
      = numbered 0 (start.toldBy ops) := rfl
  rw [hs] at h
  refine ⟨h, ?_, ?_⟩
  · rw [h, seq_numbered, length_numbered, List.range_eq_range']
  · rw [after_append, entries_after (start.after ops)]
    exact List.prefix_append _ _

end Panel

end WalletPanel
