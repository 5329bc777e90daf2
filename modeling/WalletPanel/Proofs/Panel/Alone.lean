import WalletPanel.Proofs.Panel.Tidy

/-!
# Forms that stand alone

The five forms share a screen and a log, and a panel routes what is done to it to one or the other
of them. This module shows that they share nothing else. For each form, an operation is either a
command to it (`Command`) or nothing to it at all; which of the two can be told from the operation
and the screen that is shown (`Op.command?`). A form that stands alone and is given the commands of
a run comes to what it comes to in the panel (`run_agrees`), makes the same requests and takes the
same results.

From this follows when two operations may change places: when each of them is a command to some form
and no form takes both as commands (`Apart`), the forms do not tell in which order they came. That
two operations which lead to another screen are never apart carries the proof: both of them are
commands to the form of the screen that is left.
-/

namespace WalletPanel

/-! ### Forms by workflow -/

/-- The type of the form of a workflow. -/
@[reducible] def WorkflowId.Form : WorkflowId → Type
  | createWallet => CreateForm
  | importWallet => ImportForm
  | walletList => WalletList
  | tokenCreator => TokenForm
  | contractWriter => ContractForm

namespace WorkflowId

/-- A form that has not been used. -/
def newForm : (w : WorkflowId) → w.Form
  | createWallet => CreateForm.start
  | importWallet => ImportForm.start
  | walletList => WalletList.start
  | tokenCreator => TokenForm.start
  | contractWriter => ContractForm.start

/-- Submits a form. To submit the list is to load it. -/
def submitForm : (w : WorkflowId) → w.Form → Traced (w.Form × Option Dispatch)
  | createWallet, f => CreateForm.submit f
  | importWallet, f => ImportForm.submit f
  | walletList, l => WalletList.mount l
  | tokenCreator, f => TokenForm.submit f
  | contractWriter, f => ContractForm.submit f

/-- Gives a result to a form. -/
def completeForm : (w : WorkflowId) → w.Form → UInt64 → Except RemoteError w.Value →
    Traced (w.Form × Resolution)
  | createWallet, f, ticket, r => CreateForm.complete f ticket r
  | importWallet, f, ticket, r => ImportForm.complete f ticket r
  | walletList, l, ticket, r => WalletList.complete l ticket r
  | tokenCreator, f, ticket, r => TokenForm.complete f ticket r
  | contractWriter, f, ticket, r => ContractForm.complete f ticket r

/-- Gives up what a form has come to. -/
def resetForm : (w : WorkflowId) → w.Form → Traced w.Form
  | createWallet, f => CreateForm.reset f
  | importWallet, f => ImportForm.reset f
  | walletList, l => WalletList.unmount l
  | tokenCreator, f => TokenForm.reset f
  | contractWriter, f => ContractForm.reset f

/-- Puts a text into a field of a form; a field of another form is not there to be edited. -/
def editForm : (w : WorkflowId) → w.Form → Field → String → w.Form
  | createWallet, f, .createName, text => ({ f with name := text } : CreateForm)
  | importWallet, f, .importName, text => ({ f with name := text } : ImportForm)
  | importWallet, f, .importKey, text => ({ f with key := text } : ImportForm)
  | tokenCreator, f, .tokenName, text => ({ f with name := text } : TokenForm)
  | tokenCreator, f, .tokenSymbol, text => TokenForm.setSymbol f text
  | tokenCreator, f, .tokenSupply, text => ({ f with totalSupply := text } : TokenForm)
  | tokenCreator, f, .tokenDecimals, text => ({ f with decimals := text } : TokenForm)
  | contractWriter, f, .description, text => ({ f with description := text } : ContractForm)
  | _, f, _, _ => f

end WorkflowId

/-! ### Commands -/

/-- What can be done to a form that stands alone. -/
inductive Command : WorkflowId → Type where
  | submit {w} : Command w
  | complete {w} (ticket : UInt64) (result : Except RemoteError w.Value) : Command w
  | reset {w} : Command w
  | edit {w} (field : Field) (text : String) : Command w
  | toggleReveal : Command .createWallet
  | selectExample (index : Nat) : Command .contractWriter

namespace Command

variable {w : WorkflowId}

/-- What a command does to a form, and what the form answers. -/
def obey : {w : WorkflowId} → Command w → w.Form → w.Form × Panel.Answer
  | w, submit, f => ((w.submitForm f).value.1, .dispatch (w.submitForm f).value.2)
  | w, complete ticket r, f =>
    ((w.completeForm f ticket r).value.1, .resolution (w.completeForm f ticket r).value.2)
  | w, reset, f => ((w.resetForm f).value, .none)
  | w, edit field text, f => (w.editForm f field text, .none)
  | _, toggleReveal, f => (CreateForm.toggleReveal f, .flag (CreateForm.toggleReveal f).revealed)
  | _, selectExample index, f =>
    ((ContractForm.selectExample f index).1, .flag (ContractForm.selectExample f index).2)

/-- Gives a row of commands to a form; yields all answers. -/
def run (f : w.Form) : List (Command w) → w.Form × List Panel.Answer
  | [] => (f, [])
  | c :: cs =>
    let (g, answers) := run (c.obey f).1 cs
    (g, (c.obey f).2 :: answers)

/-- The first command is obeyed by the form, the others by what it has become. -/
theorem run_cons (f : w.Form) (c : Command w) (cs : List (Command w)) :
    run f (c :: cs) = ((run (c.obey f).1 cs).1, (c.obey f).2 :: (run (c.obey f).1 cs).2) := rfl

/-- The last command is obeyed by what the others have left. -/
theorem run_concat (f : w.Form) (cs : List (Command w)) (c : Command w) :
    run f (cs ++ [c]) = ((c.obey (run f cs).1).1, (run f cs).2 ++ [(c.obey (run f cs).1).2]) := by
  induction cs generalizing f with
  | nil => rfl
  | cons d cs ih => rw [List.cons_append, run_cons, ih, run_cons, List.cons_append]

/-- What each command keeps is kept by a row of them. -/
theorem run_keeps {P : w.Form → Prop} (h : ∀ f c, P f → P (obey c f).1) {f : w.Form} (hf : P f)
    (cs : List (Command w)) : P (run f cs).1 := by
  induction cs generalizing f with
  | nil => exact hf
  | cons c cs ih => exact ih (h f c hf)

end Command

/-- The request that an answer has, if it has one. -/
def Panel.Answer.request? : Panel.Answer → Option Dispatch
  | dispatch d => d
  | _ => Option.none

/-- How a result was taken, if that is what an answer says. -/
def Panel.Answer.resolution? : Panel.Answer → Option Resolution
  | resolution r => some r
  | _ => Option.none

namespace Panel

/-- The screen that an operation leads to. -/
def Op.leads (s : Screen) : Op → Screen
  | .navigate target => target
  | _ => s

/-- The command that an operation is to the form of a workflow, if it is one, when `s` is the screen
that is shown. -/
def Op.command? (s : Screen) (op : Op) (w : WorkflowId) : Option (Command w) :=
  match op with
  | .start => if s = .dashboard ∧ w = .walletList then some .submit else none
  | .navigate target =>
    if target ≠ s ∧ w = s.workflow then some .reset
    else if target = .dashboard ∧ w = .walletList then some .submit
    else none
  | .submit v => if w = v then some .submit else none
  | .edit field text => if w = field.screen.workflow then some (.edit field text) else none
  | .reset v => if w = v then some .reset else none
  | .toggleReveal =>
    match w with
    | .createWallet => some .toggleReveal
    | _ => none
  | .selectExample index =>
    match w with
    | .contractWriter => some (.selectExample index)
    | _ => none
  | .apply c => (c.result? w).map (.complete c.ticket)
  | .copy _ | .finishCopy _ => none

/-- The commands that a row of operations has for the form of a workflow, when `s` is the screen
that is shown first. -/
def commands (s : Screen) (w : WorkflowId) : List Op → List (Command w)
  | [] => []
  | op :: ops => (op.command? s w).toList ++ commands (op.leads s) w ops

/-- Nothing but a submission is one to the form of a workflow. The list is another matter, for it is
also loaded by coming to its screen. -/
theorem eq_submit_of_command? {s : Screen} {op : Op} {w : WorkflowId} (hw : w ≠ .walletList)
    (h : op.command? s w = some .submit) : op = .submit w := by
  cases op with
  | submit v =>
    simp only [Op.command?] at h
    split at h
    · next hv => rw [hv]
    · cases h
  | start => simp [Op.command?, hw] at h
  | navigate target => simp [Op.command?, hw] at h
  | edit field text => simp [Op.command?] at h
  | reset v => simp [Op.command?] at h
  | apply c => simp [Op.command?] at h
  | toggleReveal => cases w <;> cases h
  | selectExample index => cases w <;> cases h
  | copy target => cases h
  | finishCopy outcome => cases h

/-- How the result for a workflow was taken that came in by an operation. A completion that has no
result for the workflow says nothing about it. -/
def Entry.resolutionOf? (e : Entry) (w : WorkflowId) : Option Resolution :=
  ((e.completion?.bind (·.result? w)).bind fun _ => e.answer.resolution?)

/-! ### The forms of a panel -/

/-- A form of a panel. -/
def form (p : Panel) : (w : WorkflowId) → w.Form
  | .createWallet => p.createWallet
  | .importWallet => p.importWallet
  | .walletList => p.walletList
  | .tokenCreator => p.tokenCreator
  | .contractWriter => p.contractWriter

variable {p : Panel} {v w : WorkflowId}

/-- A new panel has new forms. -/
theorem form_start (w : WorkflowId) : start.form w = w.newForm := by
  cases w <;> rfl

/-- The forms do not depend on the screen or on what the user has been told. -/
theorem form_mk (s : Screen) (p : Panel) (n : NoticeLog) (w : WorkflowId) :
    ({ p with screen := s, notices := n } : Panel).form w = p.form w := by
  cases w <;> rfl

/-- The forms after an operation are those that the operation by itself leaves behind. -/
theorem form_next (p : Panel) (op : Op) (w : WorkflowId) :
    (p.next op).form w = (p.act op).value.1.form w :=
  form_mk _ _ _ _

/-- To submit a form of the panel is to submit the form. -/
theorem form_submit_self (p : Panel) (w : WorkflowId) :
    (p.submit w).value.1.form w = (w.submitForm (p.form w)).value.1 := by
  cases w <;> rfl

/-- The other forms are left alone. -/
theorem form_submit_of_ne (p : Panel) (h : w ≠ v) : (p.submit v).value.1.form w = p.form w := by
  cases v <;> cases w <;> first | rfl | exact absurd rfl h

/-- The request that goes out is the one that the form asks for. -/
theorem request_submit (p : Panel) (w : WorkflowId) :
    (p.submit w).value.2 = (w.submitForm (p.form w)).value.2 := by
  cases w <;> rfl

/-- To reset a form of the panel is to reset the form. -/
theorem form_reset_self (p : Panel) (w : WorkflowId) :
    (p.reset w).value.form w = (w.resetForm (p.form w)).value := by
  cases w <;> rfl

/-- The other forms are left alone. -/
theorem form_reset_of_ne (p : Panel) (h : w ≠ v) : (p.reset v).value.form w = p.form w := by
  cases v <;> cases w <;> first | rfl | exact absurd rfl h

/-- A result is given to the form, and the form says how it was taken. -/
theorem value_complete (p : Panel) (w : WorkflowId) (ticket : UInt64)
    (r : Except RemoteError w.Value) :
    (p.complete w ticket r).value.1.form w = (w.completeForm (p.form w) ticket r).value.1 ∧
      (p.complete w ticket r).value.2 = (w.completeForm (p.form w) ticket r).value.2 := by
  cases w <;> exact ⟨rfl, rfl⟩

/-- The other forms do not get it. -/
theorem form_complete_of_ne (p : Panel) (h : w ≠ v) (ticket : UInt64)
    (r : Except RemoteError v.Value) : (p.complete v ticket r).value.1.form w = p.form w := by
  cases v <;> cases w <;> first | rfl | exact absurd rfl h

/-- A text is put into the form that its field is of. -/
theorem form_edit_self (p : Panel) (field : Field) (text : String) :
    (p.edit field text).form field.screen.workflow
      = field.screen.workflow.editForm (p.form field.screen.workflow) field text := by
  cases field <;> rfl

/-- The other forms are left alone. -/
theorem form_edit_of_ne (p : Panel) {field : Field} (h : w ≠ field.screen.workflow)
    (text : String) : (p.edit field text).form w = p.form w := by
  cases field <;> cases w <;> first | rfl | exact absurd rfl h

/-! ### What an operation is to a form -/

/-- An operation does to the form of a workflow what the command does, and answers for the workflow
what the command answers; without a command it does nothing and has no answer for it. -/
structure Agrees (p : Panel) (op : Op) (c : Option (Command w)) : Prop where
  form : (p.next op).form w = (c.map fun c => (c.obey (p.form w)).1).getD (p.form w)
  request : (p.entry op).requestOf? w = c.bind fun c => (c.obey (p.form w)).2.request?
  resolution : (p.entry op).resolutionOf? w = c.bind fun c => (c.obey (p.form w)).2.resolution?

/-- A request that may have gone out for `v` is shown by the entry as one of `v`. -/
theorem Asks.requestOf?_eq {p' q : Panel} {d : Option Dispatch} {op : Op} (h : Asks p' q v d)
    (ha : (p.entry op).answer = .dispatch d) (w : WorkflowId) :
    (p.entry op).requestOf? w = if w = v then d else none := by
  have hr : (p.entry op).requestOf? w = d.filter (·.workflow = w) := by
    rw [Entry.requestOf?, Entry.request?, ha]
  rw [hr]
  rcases h.asked with ⟨rfl, -⟩ | ⟨e, rfl, he, -⟩
  · -- none went out
    rw [ite_self]
    rfl
  · -- one went out, which is of `v` and of no other workflow
    by_cases hw : w = v
    · rw [if_pos hw, Option.filter_some, if_pos (decide_eq_true (he.trans hw.symm))]
    · have hne : ¬ decide (e.workflow = w) = true := by
        rw [he]
        exact fun h => hw (of_decide_eq_true h).symm
      rw [if_neg hw, Option.filter_some, if_neg hne]

/-- An operation that is no delivery says nothing about results. -/
theorem resolutionOf?_entry {op : Op} (h : op.completion? = none) (w : WorkflowId) :
    (p.entry op).resolutionOf? w = none := by
  have hc : (p.entry op).completion? = none := h
  rw [Entry.resolutionOf?, hc]
  rfl

/-- An operation that submits the form of `v`, and has left the form of `w` alone until then. -/
theorem agrees_of_submit {p' : Panel} {op : Op} (hop : op.completion? = none)
    (hp : p'.form w = p.form w) (hq : (p.next op).form w = (p'.submit v).value.1.form w)
    (ha : (p.entry op).answer = .dispatch (p'.submit v).value.2) :
    Agrees p op (if w = v then some (.submit (w := w)) else none) := by
  have hr := (p'.asks_submit v).requestOf?_eq ha w
  by_cases hw : w = v
  · -- the form that is submitted
    subst hw
    rw [if_pos rfl, request_submit, hp] at hr
    rw [form_submit_self, hp] at hq
    rw [if_pos rfl]
    exact ⟨hq, hr, resolutionOf?_entry hop w⟩
  · -- any other form
    rw [if_neg hw] at hr
    rw [form_submit_of_ne p' hw, hp] at hq
    rw [if_neg hw]
    exact ⟨hq, hr, resolutionOf?_entry hop w⟩

/-- An operation that comes to a screen, and has left the form of `w` alone until then. -/
theorem agrees_of_enter {p' : Panel} {s : Screen} {op : Op} (hop : op.completion? = none)
    (hp : p'.form w = p.form w) (hq : (p.next op).form w = (p'.enter s).value.1.form w)
    (ha : (p.entry op).answer = .dispatch (p'.enter s).value.2) :
    Agrees p op (if s = .dashboard ∧ w = .walletList then some (.submit (w := w)) else none) := by
  by_cases hs : s = .dashboard
  · -- to come to the dashboard is to submit the list
    subst hs
    have he := agrees_of_submit (v := .walletList) hop hp hq ha
    simpa only [true_and] using he
  · -- any other screen is entered without a request
    rw [value_enter_of_ne p' hs] at hq ha
    have hr : (p.entry op).requestOf? w = none := by
      rw [Entry.requestOf?, Entry.request?, ha]
      rfl
    rw [if_neg fun h => hs h.1]
    exact ⟨hq.trans hp, hr, resolutionOf?_entry hop w⟩

/-- The form of the screen that is left is reset. No request goes out for it, for the one that may
go out is for the list, and then it is not the dashboard that is left. -/
theorem agrees_leave {target : Screen} (h : target ≠ p.screen) :
    Agrees p (.navigate target) (some (.reset (w := p.screen.workflow))) := by
  have hn := value_navigate_of_ne h
  have hf : (p.next (.navigate target)).form p.screen.workflow
      = (p.screen.workflow.resetForm (p.form p.screen.workflow)).value := by
    have hd : (p.departed target).form p.screen.workflow
        = (p.reset p.screen.workflow).value.form p.screen.workflow := form_mk _ _ _ _
    rw [form_reset_self] at hd
    have hq : (p.next (.navigate target)).form p.screen.workflow
        = (p.navigate target).value.1.form p.screen.workflow := form_next p _ _
    rw [hq, hn, ← hd]
    by_cases ht : target = .dashboard
    · -- the list is loaded, and it is another form
      have hl : p.screen.workflow ≠ .walletList := by
        rw [Ne, Screen.workflow_eq_walletList_iff]
        exact fun hs => h (ht.trans hs.symm)
      rw [ht]
      exact form_submit_of_ne (v := .walletList) _ hl
    · rw [value_enter_of_ne _ ht]
  -- what goes out is for the screen that is entered
  have hr : (p.entry (.navigate target)).requestOf? p.screen.workflow = none := by
    have he : (p.entry (.navigate target)).requestOf? p.screen.workflow
        = (p.navigate target).value.2.filter (·.workflow = p.screen.workflow) := rfl
    rw [he, Option.filter_eq_none_iff]
    exact fun d hd hv => (asks_navigate_of_ne h).2 d hd (of_decide_eq_true hv)
  exact ⟨hf, hr, resolutionOf?_entry rfl _⟩

/-- To go to a screen is a reset to the form that is left, a submission to the list if it is
entered, and nothing to the others. -/
theorem agrees_navigate (p : Panel) (target : Screen) (w : WorkflowId) :
    Agrees p (.navigate target) ((Op.navigate target).command? p.screen w) := by
  have hq : (p.next (.navigate target)).form w = (p.navigate target).value.1.form w :=
    form_next p _ w
  have ha : (p.entry (.navigate target)).answer = .dispatch (p.navigate target).value.2 := rfl
  unfold Op.command?
  dsimp only
  by_cases ht : target = p.screen
  · -- to go where one is is to come there
    have hn : p.navigate target = p.enter target := if_pos ht
    rw [hn] at hq ha
    rw [if_neg fun h => h.1 ht]
    exact agrees_of_enter rfl rfl hq ha
  · by_cases hw : w = p.screen.workflow
    · subst hw
      rw [if_pos ⟨ht, rfl⟩]
      exact agrees_leave ht
    · -- another form is left alone on the way
      have hd : (p.departed target).form w = (p.reset p.screen.workflow).value.form w :=
        form_mk _ _ _ _
      rw [form_reset_of_ne p hw] at hd
      rw [value_navigate_of_ne ht] at hq ha
      rw [if_neg fun h => hw h.2]
      exact agrees_of_enter rfl hd hq ha

/-- A completion is a result to the form that it has one for, and nothing to the others. -/
theorem agrees_apply (p : Panel) (c : Completion) (w : WorkflowId) :
    Agrees p (.apply c) ((Op.apply c).command? p.screen w) := by
  have hq : (p.next (.apply c)).form w = (p.apply c).value.1.form w := form_next p _ w
  have ha : (p.entry (.apply c)).answer = .resolution (p.apply c).value.2 := rfl
  have hc : (p.entry (.apply c)).resolutionOf? w
      = (c.result? w).bind fun _ => some (p.apply c).value.2 := rfl
  unfold Op.command?
  dsimp only
  cases hr : c.result? w with
  | none =>
    refine ⟨?_, rfl, ?_⟩
    · -- the completion may be for another form
      rw [hq]
      cases hv : c.result? c.workflow with
      | none => rw [apply_eq_misrouted hv]; rfl
      | some r =>
        have hw : w ≠ c.workflow := by
          rintro rfl
          rw [hv] at hr
          cases hr
        rw [apply_eq_complete hv]
        exact form_complete_of_ne p hw _ r
    · rw [hc, hr]
      rfl
  | some r =>
    have hw := Completion.workflow_of_result? hr
    subst hw
    obtain ⟨hf, hres⟩ := value_complete p c.workflow c.ticket r
    rw [hr, apply_eq_complete hr, hres] at hc
    rw [apply_eq_complete hr, hf] at hq
    exact ⟨hq, rfl, hc⟩

/-- **One operation** is to each form the command that it projects to. -/
theorem agrees (p : Panel) (op : Op) (w : WorkflowId) :
    Agrees p op (op.command? p.screen w) := by
  have hn := form_next p op w
  cases op with
  | start => exact agrees_of_enter rfl rfl hn rfl
  | navigate target => exact agrees_navigate p target w
  | submit v => exact agrees_of_submit rfl rfl hn rfl
  | edit field text =>
    unfold Op.command?
    dsimp only
    -- a field is one of its own form alone
    by_cases hw : w = field.screen.workflow
    · subst hw
      rw [if_pos rfl]
      exact ⟨hn.trans (form_edit_self p field text), rfl, rfl⟩
    · rw [if_neg hw]
      exact ⟨hn.trans (form_edit_of_ne p hw text), rfl, rfl⟩
  | reset v =>
    unfold Op.command?
    dsimp only
    -- and a reset is of one form
    by_cases hw : w = v
    · subst hw
      rw [if_pos rfl]
      exact ⟨hn.trans (form_reset_self p w), rfl, rfl⟩
    · rw [if_neg hw]
      exact ⟨hn.trans (form_reset_of_ne p hw), rfl, rfl⟩
  | toggleReveal => cases w <;> exact ⟨rfl, rfl, rfl⟩
  | selectExample index => cases w <;> exact ⟨rfl, rfl, rfl⟩
  | copy target => exact ⟨hn, rfl, rfl⟩
  | apply c => exact agrees_apply p c w
  | finishCopy o => exact ⟨hn, rfl, rfl⟩

/-! ### What a run is to a form -/

/-- The panel goes where an operation leads. -/
theorem screen_next_eq_leads (p : Panel) (op : Op) : (p.next op).screen = op.leads p.screen := by
  rw [screen_next]
  cases op <;> rfl

/-- **A form in a run of the panel** comes to what a form comes to that stands alone and is given
the commands of the run, makes the same requests and takes the same results. -/
theorem run_agrees (p : Panel) (ops : List Op) (w : WorkflowId) :
    (p.after ops).form w = (Command.run (p.form w) (commands p.screen w ops)).1 ∧
    (p.history ops).filterMap (·.requestOf? w)
      = (Command.run (p.form w) (commands p.screen w ops)).2.filterMap Answer.request? ∧
    (p.history ops).filterMap (·.resolutionOf? w)
      = (Command.run (p.form w) (commands p.screen w ops)).2.filterMap Answer.resolution? := by
  -- the panel after the first operation is where the rest of the run begins, and the screen that is
  -- shown there is the one that the rest of the commands is read off with
  induction ops generalizing p with
  | nil => exact ⟨rfl, rfl, rfl⟩
  | cons op ops ih =>
    obtain ⟨hf, hr, hs⟩ := agrees p op w
    obtain ⟨ihf, ihr, ihs⟩ := ih (p.next op)
    have ha : p.after (op :: ops) = (p.next op).after ops := rfl
    have hc : commands p.screen w (op :: ops)
        = (op.command? p.screen w).toList ++ commands (op.leads p.screen) w ops := rfl
    rw [screen_next_eq_leads] at ihf ihr ihs
    rw [ha, hc, history_cons, List.filterMap_cons, List.filterMap_cons]
    -- a step that is a command is the first command of the rest; any other leaves the form as it is
    cases h : op.command? p.screen w with
    | none =>
      rw [h] at hf hr hs
      have hf' : (p.next op).form w = p.form w := hf
      rw [hr, hs, ihf, ihr, ihs, hf']
      exact ⟨rfl, rfl, rfl⟩
    | some c =>
      rw [h] at hf hr hs
      have hf' : (p.next op).form w = (c.obey (p.form w)).1 := hf
      rw [hr, hs, ihf, ihr, ihs, hf', Option.toList_some, List.singleton_append, Command.run_cons,
        List.filterMap_cons, List.filterMap_cons]
      exact ⟨rfl, rfl, rfl⟩

/-! ### Operations that change places -/

/-- An operation is a command to the form of a workflow, when `s` is the screen that is shown. -/
def Op.Concerns (op : Op) (s : Screen) (w : WorkflowId) : Prop := (op.command? s w).isSome = true

instance (op : Op) (s : Screen) (w : WorkflowId) : Decidable (op.Concerns s w) :=
  inferInstanceAs (Decidable (_ = true))

/-- Two operations are apart, when `s` is the screen that is shown, if each of them concerns some
form and no form is concerned by both. -/
structure Apart (s : Screen) (a b : Op) : Prop where
  left : ∃ w, a.Concerns s w
  right : ∃ w, b.Concerns s w
  disjoint : ∀ w, ¬ (a.Concerns s w ∧ b.Concerns s w)

/-- Operations that are the same to all forms whichever screen is shown. -/
def Op.Fixed : Op → Prop
  | .start | .navigate _ => False
  | _ => True

/-- Such an operation leads nowhere else. -/
theorem Op.Fixed.leads {op : Op} (h : op.Fixed) (s : Screen) : op.leads s = s := by
  cases op with
  | navigate target => exact h.elim
  | _ => rfl

/-- It is the same command whichever screen is shown. -/
theorem Op.Fixed.command? {op : Op} (h : op.Fixed) (s t : Screen) (w : WorkflowId) :
    op.command? s w = op.command? t w := by
  cases op with
  | start => exact h.elim
  | navigate target => exact h.elim
  | _ => rfl

/-- An operation that depends on the screen and concerns some form concerns the form of the screen
that is shown. -/
theorem concerns_shown {op : Op} {s : Screen} (hf : ¬ op.Fixed) (hc : op.Concerns s w) :
    op.Concerns s s.workflow := by
  unfold Op.Concerns at *
  cases op with
  | start =>
    simp only [Op.command?] at *
    split at hc
    · next h => rw [if_pos ⟨h.1, h.1 ▸ rfl⟩]; rfl
    · cases hc
  | navigate target =>
    simp only [Op.command?] at *
    by_cases ht : target = s
    · -- only the dashboard does something when one comes to it again
      rw [if_neg fun h => h.1 ht] at hc ⊢
      split at hc
      · next h => rw [if_pos ⟨h.1, (ht.symm.trans h.1) ▸ rfl⟩]; rfl
      · cases hc
    · rw [if_pos ⟨ht, trivial⟩]
      rfl
  | _ => exact absurd trivial hf

/-- Of two operations that are apart, at most one depends on the screen. -/
theorem Apart.fixed {s : Screen} {a b : Op} (h : Apart s a b) : a.Fixed ∨ b.Fixed := by
  by_contra hn
  -- otherwise both of them would be commands to the form that is shown
  obtain ⟨ha, hb⟩ := not_or.mp hn
  obtain ⟨v, hv⟩ := h.left
  obtain ⟨w, hw⟩ := h.right
  exact h.disjoint s.workflow ⟨concerns_shown ha hv, concerns_shown hb hw⟩

/-- Where no form is concerned by both of two operations, and one of them is the same on all
screens, the commands of each form do not tell in which order the two came. -/
theorem commands_swap {s : Screen} {a b : Op} (ha : a.Fixed)
    (hd : ¬ (a.Concerns s w ∧ b.Concerns s w)) (more : List Op) :
    commands s w (a :: b :: more) = commands s w (b :: a :: more) := by
  -- neither changes the screen for the other one, so that the commands are those of the screen
  -- before
  have hab : commands s w (a :: b :: more)
      = (a.command? s w).toList ++ ((b.command? s w).toList ++ commands (b.leads s) w more) := by
    have h : commands s w (a :: b :: more) = (a.command? s w).toList ++
        ((b.command? (a.leads s) w).toList ++ commands (b.leads (a.leads s)) w more) := rfl
    rw [h, ha.leads]
  have hba : commands s w (b :: a :: more)
      = (b.command? s w).toList ++ ((a.command? s w).toList ++ commands (b.leads s) w more) := by
    have h : commands s w (b :: a :: more) = (b.command? s w).toList ++
        ((a.command? (b.leads s) w).toList ++ commands (a.leads (b.leads s)) w more) := rfl
    rw [h, ha.leads, ha.command? (b.leads s) s]
  rw [hab, hba]
  unfold Op.Concerns at hd
  -- one of the two is nothing to the form
  cases hca : a.command? s w with
  | none => rfl
  | some c =>
    cases hcb : b.command? s w with
    | none => rfl
    | some d =>
      rw [hca, hcb] at hd
      exact absurd ⟨rfl, rfl⟩ hd

/-- Operations that are apart may change places in any run: no form tells the difference. -/
theorem Apart.form_after (p : Panel) {a b : Op} (h : Apart p.screen a b) (more : List Op)
    (w : WorkflowId) : (p.after (a :: b :: more)).form w = (p.after (b :: a :: more)).form w := by
  have hc : commands p.screen w (a :: b :: more) = commands p.screen w (b :: a :: more) := by
    rcases h.fixed with ha | hb
    · exact commands_swap ha (h.disjoint w) more
    · exact (commands_swap hb (fun hw => h.disjoint w hw.symm) more).symm
  rw [(run_agrees p _ w).1, (run_agrees p _ w).1, hc]

/-- A completion whose reply is not of the kind that its workflow asks for is no command to any
form, on any screen. -/
theorem command?_apply_of_misrouted {c : Completion}
    (h : c.reply.operation ≠ c.workflow.operation) (s : Screen) (w : WorkflowId) :
    (Op.apply c).command? s w = none := by
  -- the reply is of no use to its own workflow, and is not for another one
  have hr : c.result? w = none := by
    unfold Completion.result?
    by_cases hw : c.workflow = w
    · rw [if_pos hw, ← Option.not_isSome_iff_eq_none, RemoteReply.isSome_result?_iff, ← hw]
      exact h
    · exact if_neg hw
  unfold Op.command?
  dsimp only
  rw [hr]
  rfl

/-- The panel drops it and says so. -/
theorem answer_apply_of_misrouted (p : Panel) {c : Completion}
    (h : c.reply.operation ≠ c.workflow.operation) :
    (p.entry (.apply c)).answer = .resolution .stale := by
  have hr : c.result? c.workflow = none := by
    rw [Completion.result?, if_pos rfl, ← Option.not_isSome_iff_eq_none,
      RemoteReply.isSome_result?_iff]
    exact h
  have ha : (p.entry (.apply c)).answer = .resolution (p.apply c).value.2 := rfl
  rw [ha, apply_eq_misrouted hr]
  rfl

/-- **The forms are independent of each other.** After any run each form is as it would be alone
under the commands that the run has for it, with the same requests and the same results taken. Two
operations that are apart may change places anywhere in a run without a difference to any form. And
a completion whose reply does not belong to its workflow is a command to no form. -/
theorem forms_are_independent (ops : List Op) :
    (∀ w,
      (start.after ops).form w = (Command.run w.newForm (commands .dashboard w ops)).1 ∧
      (start.history ops).filterMap (·.requestOf? w)
        = (Command.run w.newForm (commands .dashboard w ops)).2.filterMap Answer.request? ∧
      (start.history ops).filterMap (·.resolutionOf? w)
        = (Command.run w.newForm (commands .dashboard w ops)).2.filterMap Answer.resolution?) ∧
    (∀ a b more, Apart (start.after ops).screen a b → ∀ w,
      (start.after (ops ++ a :: b :: more)).form w
        = (start.after (ops ++ b :: a :: more)).form w) ∧
    (∀ c, c.reply.operation ≠ c.workflow.operation →
      (∀ s w, (Op.apply c).command? s w = none) ∧
      ((start.after ops).entry (.apply c)).answer = .resolution .stale) := by
  refine ⟨fun w => ?_, fun a b more h w => ?_, fun c h => ?_⟩
  · rw [← form_start]
    exact run_agrees start ops w
  · rw [after_append, after_append]
    exact h.form_after (start.after ops) more w
  · exact ⟨command?_apply_of_misrouted h, answer_apply_of_misrouted _ h⟩

/-- A run after which a wallet and the list are being waited for. -/
def busyRun : List Op := [.start, .edit .createName "a", .submit .createWallet]

/-- A reset of the form that creates wallets and a departure from the dashboard change places. -/
theorem busyRun_forms_are_independent :
    Apart (start.after busyRun).screen (.reset .createWallet) (.navigate .tokenCreator) ∧
    (∀ w, (start.after (busyRun ++ [.reset .createWallet, .navigate .tokenCreator])).form w
      = (start.after (busyRun ++ [.navigate .tokenCreator, .reset .createWallet])).form w) ∧
    (start.history busyRun).filterMap (·.requestOf? .createWallet)
      = [⟨.createWallet, 1, .createWallet ⟨"a"⟩⟩] ∧
    ((start.after busyRun).entry (.apply ⟨.createWallet, 1, .wallets (.ok [])⟩)).answer
      = .resolution .stale := by
  have ha : Apart (start.after busyRun).screen (.reset .createWallet)
      (.navigate .tokenCreator) := by
    -- the dashboard is shown, so that the list is what is given up on the way
    refine ⟨⟨.createWallet, rfl⟩, ⟨.walletList, by decide +kernel⟩, fun w h => ?_⟩
    revert h
    cases w <;> decide +kernel
  have hm : (RemoteReply.wallets (.ok [])).operation ≠ WorkflowId.createWallet.operation := nofun
  obtain ⟨halone, hswap, hlost⟩ := forms_are_independent busyRun
  refine ⟨ha, hswap _ _ [] ha, ?_, (hlost ⟨.createWallet, 1, .wallets (.ok [])⟩ hm).2⟩
  rw [(halone .createWallet).2.1]
  decide +kernel

end Panel

end WalletPanel
