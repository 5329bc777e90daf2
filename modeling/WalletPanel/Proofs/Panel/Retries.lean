import WalletPanel.Proofs.Panel.Alone
import WalletPanel.Proofs.Panel.Pending
import WalletPanel.Proofs.Panel.Submissions

/-!
# Requests that are sent again

After a failure the user presses the button once more and types nothing. That this asks for the same
thing as before needs three facts, which are kept apart here.

* The texts of a form are its own: nothing changes them but an edit, an example, a reset or a
  departure, and an import that has succeeded, which takes the key away and nothing else
  (`fieldText_next`). An operation that does none of the first four spares the form
  (`Entry.Spares`), whatever it does to other forms.
* What a form asks for is a matter of its texts alone (`call_eq_of_texts`), so that equal texts make
  equal calls.
* A workflow whose form is spared stays as it is until a result for it is taken or a request for it
  goes out (`workflow_next_of_spared`). So it is still waiting for the first request when the
  failure comes, and still in the failed phase when the button is pressed.

`Tried` puts together what is known of one attempt: the request that went out, the operations until
its result was taken, and the operations after that. The results that are dropped meanwhile may be
of any kind and for any ticket. The main statement is `failures_can_be_repeated`.
-/

namespace WalletPanel.Panel

variable {p q : Panel} {w : WorkflowId} {op : Op} {d : Dispatch} {r : Resolution}

/-! ### Operations that spare a form -/

/-- An operation spares the form of a workflow: it neither gives the form up, by a reset or by
leaving its screen, nor puts anything into it. -/
def Entry.Spares (e : Entry) (w : WorkflowId) : Prop :=
  e.givenUp? ≠ some w ∧
    match e.op with
    | .edit field _ => field.screen.workflow ≠ w
    | .selectExample _ => w ≠ .contractWriter
    | _ => True

instance (e : Entry) (w : WorkflowId) : Decidable (e.Spares w) := by
  unfold Entry.Spares
  split <;> infer_instance

/-- How the result was taken that an operation brought for a workflow; none if it brought none or if
that was dropped. -/
def Entry.takenOf? (e : Entry) (w : WorkflowId) : Option Resolution :=
  (e.resolutionOf? w).filter (· ≠ .stale)

/-- A result that is taken is one that was waited for, and it is taken as it says. -/
theorem settled_of_takenOf? (h : (p.entry op).takenOf? w = some r) :
    ∃ c result, op = .apply c ∧ c.result? w = some result ∧ (p.workflow w).Awaits c.ticket ∧
      r = .ofResult result ∧ (p.next op).workflow w
        = { p.workflow w with state := .ofResult result } := by
  obtain ⟨hres, hne⟩ := Option.filter_eq_some_iff.mp h
  obtain ⟨result, hbrought, hanswer⟩ := Option.bind_eq_some_iff.mp hres
  obtain ⟨c, hc, hresult⟩ := Option.bind_eq_some_iff.mp hbrought
  obtain rfl : op = .apply c := Entry.op_of_completion? hc
  have hcw := Completion.workflow_of_result? hresult
  subst hcw
  by_cases hwaits : (p.workflow c.workflow).Awaits c.ticket
  · obtain ⟨htaken, hnext⟩ := step_apply_of_awaits hresult hwaits
    rw [htaken] at hanswer
    exact ⟨c, result, rfl, hresult, hwaits, (Option.some.inj hanswer).symm, hnext⟩
  · -- otherwise it would have been dropped
    have hstale : (p.entry (.apply c)).answer = .resolution .stale := by
      rw [entry, step_apply_of_not_awaits fun _ _ => hwaits]
    rw [hstale] at hanswer
    rw [← Option.some.inj hanswer] at hne
    exact absurd rfl (of_decide_eq_true hne)

/-- A workflow whose form is spared stays as it is, unless a request goes out for it or a result for
it is taken. -/
theorem workflow_next_of_spared (hs : (p.entry op).Spares w)
    (hd : (p.entry op).requestOf? w = none) (ht : (p.entry op).takenOf? w = none) :
    (p.next op).workflow w = p.workflow w := by
  cases p.step_cases op w with
  | requested d asked kind kept ticket result =>
    rw [asked] at hd
    cases hd
  | givenUp asked left result => exact absurd left hs.1
  | settled c result taken brought awaited next =>
    subst taken
    -- what settles a request is taken
    have hcw := Completion.workflow_of_result? brought
    subst hcw
    have htaken : (p.entry (.apply c)).resolutionOf? c.workflow = some (.ofResult result) := by
      rw [Entry.resolutionOf?, completion?_entry_apply, Option.bind_some, brought,
        (step_apply_of_awaits brought awaited).1]
      rfl
    have hne := Resolution.ofResult_ne_stale result
    rw [Entry.takenOf?, htaken, Option.filter_some, if_pos (decide_eq_true hne)] at ht
    cases ht
  | untouched asked kept dropped result => exact result

/-! ### The texts of a form -/

/-- A form has the same texts in two panels. -/
def SameTexts (w : WorkflowId) (p q : Panel) : Prop :=
  ∀ field : Field, field.screen.workflow = w → q.fieldText field = p.fieldText field

/-- **What a form asks for** is a matter of its texts. -/
theorem call_eq_of_texts (h : SameTexts w p q) : q.call w = p.call w := by
  -- each form reads its own fields and nothing else
  cases w with
  | createWallet =>
    have hname : q.createWallet.name = p.createWallet.name := h .createName rfl
    unfold call CreateForm.call
    rw [hname]
  | importWallet =>
    have hkey : q.importWallet.key = p.importWallet.key := h .importKey rfl
    have hname : q.importWallet.name = p.importWallet.name := h .importName rfl
    unfold call ImportForm.call
    rw [hkey, hname]
  | walletList => rfl
  | tokenCreator =>
    have hname : q.tokenCreator.name = p.tokenCreator.name := h .tokenName rfl
    have hsymbol : q.tokenCreator.symbol = p.tokenCreator.symbol := h .tokenSymbol rfl
    have hsupply : q.tokenCreator.totalSupply = p.tokenCreator.totalSupply := h .tokenSupply rfl
    have hdecimals : q.tokenCreator.decimals = p.tokenCreator.decimals := h .tokenDecimals rfl
    unfold call TokenForm.spec TokenForm.supply? TokenForm.decimals?
    rw [hname, hsymbol, hsupply, hdecimals]
  | contractWriter =>
    have hdescription : q.contractWriter.description = p.contractWriter.description :=
      h .description rfl
    unfold call ContractForm.call
    rw [hdescription]

/-! ### What changes the texts -/

/-- The texts do not depend on the screen or on what the user has been told. -/
theorem fieldText_mk (s : Screen) (p : Panel) (n : NoticeLog) (field : Field) :
    ({ p with screen := s, notices := n } : Panel).fieldText field = p.fieldText field := by
  cases field <;> rfl

/-- The texts after an operation are those that the operation by itself leaves behind. -/
theorem fieldText_next_eq (p : Panel) (op : Op) (field : Field) :
    (p.next op).fieldText field = (p.act op).value.1.fieldText field :=
  fieldText_mk _ _ _ field

/-- A submission leaves all texts where they are. -/
theorem fieldText_submit (p : Panel) (v : WorkflowId) (field : Field) :
    (p.submit v).value.1.fieldText field = p.fieldText field := by
  cases v <;> cases field <;> rfl

/-- Entering a screen leaves all texts where they are. -/
theorem fieldText_enter (p : Panel) (s : Screen) (field : Field) :
    (p.enter s).value.1.fieldText field = p.fieldText field := by
  cases s with
  | dashboard => exact p.fieldText_submit .walletList field
  | _ => rfl

/-- A reset leaves the texts of other forms alone. -/
theorem fieldText_reset_of_ne (p : Panel) {v : WorkflowId} {field : Field}
    (h : field.screen.workflow ≠ v) : (p.reset v).value.fieldText field = p.fieldText field := by
  cases v <;> cases field <;> first | rfl | exact absurd rfl h

/-- Whoever goes to another screen takes the texts away of the form that is left, and no others. -/
theorem fieldText_navigate (p : Panel) {target : Screen} {field : Field}
    (h : target ≠ p.screen → field.screen.workflow ≠ p.screen.workflow) :
    (p.navigate target).value.1.fieldText field = p.fieldText field := by
  by_cases ht : target = p.screen
  · -- the user stays, and no form is left
    have hnav : p.navigate target = p.enter target := if_pos ht
    rw [hnav, fieldText_enter]
  · rw [value_navigate_of_ne ht, fieldText_enter]
    -- the form that is left is another one
    have hd : (p.departed target).fieldText field
        = (p.reset p.screen.workflow).value.fieldText field := fieldText_mk _ _ _ field
    rw [hd, fieldText_reset_of_ne p (h ht)]

/-- An edit puts its text into its own field. -/
theorem fieldText_edit_of_ne (p : Panel) {field other : Field} (h : field ≠ other)
    (text : String) : (p.edit other text).fieldText field = p.fieldText field := by
  cases other <;> cases field <;> first | rfl | exact absurd rfl h

/-- A result takes no text away, unless it says that a wallet was imported: then the key goes. -/
theorem fieldText_complete (p : Panel) {v : WorkflowId} {ticket : UInt64}
    {result : Except RemoteError v.Value} {field : Field}
    (h : field = .importKey → v = .importWallet →
      (p.complete v ticket result).value.2 ≠ .succeeded) :
    (p.complete v ticket result).value.1.fieldText field = p.fieldText field := by
  cases v with
  | importWallet =>
    cases field with
    | importKey => exact if_neg (h rfl rfl)
    | _ => rfl
  | _ => cases field <;> rfl

/-- The form that a completion for the import form brings to is the one that was there, with its key
if the completion was no success. -/
theorem fieldText_apply {c : Completion} {field : Field}
    (h : field = .importKey → (p.entry (.apply c)).takenOf? .importWallet ≠ some .succeeded) :
    (p.apply c).value.1.fieldText field = p.fieldText field := by
  obtain ⟨v, ticket, reply⟩ := c
  cases hr : (Completion.mk v ticket reply).result? v with
  | none =>
    -- a reply of the wrong kind goes nowhere
    rw [apply_eq_misrouted hr]
    rfl
  | some result =>
    have happly : p.apply ⟨v, ticket, reply⟩ = p.complete v ticket result := apply_eq_complete hr
    rw [happly]
    refine fieldText_complete p fun hfield hv hdone => h hfield ?_
    subst hv
    -- the completion brings a result, and the answer says how it was taken
    have hanswer : (p.entry (.apply ⟨.importWallet, ticket, reply⟩)).answer
        = .resolution (p.apply ⟨.importWallet, ticket, reply⟩).value.2 := rfl
    rw [Entry.takenOf?, Entry.resolutionOf?, completion?_entry_apply, Option.bind_some, hr, hanswer,
      happly, hdone]
    rfl

/-- **What changes a text.** An operation that spares a form leaves its texts as they are, except
that the key goes when a wallet has been imported. -/
theorem fieldText_next {field : Field} (hs : (p.entry op).Spares field.screen.workflow)
    (ht : field = .importKey → (p.entry op).takenOf? .importWallet ≠ some .succeeded) :
    (p.next op).fieldText field = p.fieldText field := by
  rw [fieldText_next_eq]
  -- operations that put texts in or take them away are excluded by `hs`, and the import by `ht`
  cases op with
  | start => exact p.fieldText_enter p.screen field
  | navigate target =>
    refine p.fieldText_navigate fun hne hw => hs.1 ?_
    have hleft : (p.entry (.navigate target)).givenUp? = some p.screen.workflow := if_neg hne
    rw [hleft, hw]
  | submit v => exact p.fieldText_submit v field
  | edit other text =>
    refine p.fieldText_edit_of_ne ?_ text
    rintro rfl
    exact hs.2 rfl
  | reset v =>
    refine p.fieldText_reset_of_ne ?_
    rintro rfl
    exact hs.1 rfl
  | toggleReveal =>
    have hname : p.createWallet.toggleReveal.name = p.createWallet.name := by
      unfold CreateForm.toggleReveal
      split <;> rfl
    cases field with
    | createName => exact hname
    | _ => rfl
  | selectExample index =>
    cases field with
    | description => exact absurd rfl hs.2
    | _ => rfl
  | copy target => cases field <;> rfl
  | apply c => exact fieldText_apply ht
  | finishCopy o => cases field <;> rfl

/-- When a wallet has been imported, the key is gone. -/
theorem key_next_of_imported (h : (p.entry op).takenOf? .importWallet = some .succeeded) :
    (p.next op).fieldText .importKey = "" := by
  obtain ⟨c, result, rfl, hresult, hwaits, htaken, -⟩ := settled_of_takenOf? h
  obtain ⟨v, ticket, reply⟩ := c
  obtain rfl : v = .importWallet := Completion.workflow_of_result? hresult
  have happly : p.apply ⟨.importWallet, ticket, reply⟩ = p.complete .importWallet ticket result :=
    apply_eq_complete hresult
  -- the result was taken as a success
  have hdone : (p.complete .importWallet ticket result).value.2 = .succeeded := by
    rw [resolution_complete, Workflow.resolution, if_pos hwaits, ← htaken]
  rw [fieldText_next_eq]
  change (p.apply ⟨.importWallet, ticket, reply⟩).value.1.fieldText .importKey = ""
  rw [happly]
  exact if_pos hdone

/-! ### Rows of operations that spare a form -/

/-- Texts that no operation of a row puts in or takes away are there after the row. -/
theorem fieldText_after {field : Field} {ops : List Op}
    (hs : ∀ e ∈ p.history ops, e.Spares field.screen.workflow)
    (ht : field = .importKey → ∀ e ∈ p.history ops, e.takenOf? .importWallet ≠ some .succeeded) :
    (p.after ops).fieldText field = p.fieldText field := by
  induction ops generalizing p with
  | nil => rfl
  | cons op ops ih =>
    -- the first operation leaves the text, and the rest finds it there
    have hfirst := fieldText_next (hs _ List.mem_cons_self) fun hf => ht hf _ List.mem_cons_self
    change ((p.next op).after ops).fieldText field = _
    rw [ih (fun e he => hs e (List.mem_cons_of_mem _ he))
      (fun hf e he => ht hf e (List.mem_cons_of_mem _ he)), hfirst]

/-- A submission shows what went out by it. -/
theorem requestOf?_submit (p : Panel) (w : WorkflowId) :
    (p.entry (.submit w)).requestOf? w = (p.submit w).value.2 :=
  ((p.asks_submit w).requestOf?_eq rfl w).trans (if_pos rfl)

/-- What goes out for a form goes out by submitting it, in a phase that allows it, and is the call
of the form under the next ticket. -/
theorem requestOf?_eq_some_iff (hw : w ≠ .walletList) :
    (p.entry op).requestOf? w = some d ↔
      op = .submit w ∧ (p.workflow w).Ready ∧
        ∃ c, p.call w = .ok c ∧ d = ⟨w, (p.workflow w).generation + 1, c⟩ := by
  constructor
  · intro h
    -- of all commands only a submission answers with a request
    have hsub : op = .submit w := by
      rw [(p.agrees op w).request] at h
      obtain ⟨c, hc, hd⟩ := Option.bind_eq_some_iff.mp h
      cases c with
      | submit => exact eq_submit_of_command? hw hc
      | _ => cases hd
    subst hsub
    rw [requestOf?_submit, value_submit p hw] at h
    rcases value_submitCall w (p.workflow w) (p.call w) with ⟨c, hc, hready, hv⟩ | ⟨-, hv⟩
    · rw [hv] at h
      exact ⟨rfl, hready, c, hc, (Option.some.inj h).symm⟩
    · rw [hv] at h
      cases h
  · rintro ⟨rfl, hready, c, hc, rfl⟩
    rw [requestOf?_submit, value_submit p hw]
    rcases value_submitCall w (p.workflow w) (p.call w) with ⟨c', hc', -, hv⟩ | ⟨hnone, -⟩
    · rw [hc] at hc'
      cases hc'
      rw [hv]
    · exact absurd hready (hnone c hc)

/-- A workflow whose request has gone out waits under the ticket of the request. -/
theorem workflow_of_request (h : (p.entry op).requestOf? w = some d) :
    (p.next op).workflow w = ⟨.submitting, d.ticket⟩ := by
  -- a call is asked for in one of the cases only
  cases p.step_cases op w with
  | requested d' asked kind kept ticket result =>
    obtain rfl : d' = d := Option.some.inj (asked.symm.trans h)
    exact result
  | givenUp asked left result =>
    rw [h] at asked
    cases asked
  | settled c r taken brought awaited result =>
    subst taken
    cases h
  | untouched asked kept dropped result =>
    rw [h] at asked
    cases asked

/-- **A workflow whose form is spared** stays as it is, as long as nothing is taken while it waits
and its form is not submitted while it could be. Nothing is taken then in any of its phases. -/
theorem workflow_after_of_spared (hw : w ≠ .walletList) {ops : List Op}
    (hs : ∀ e ∈ p.history ops, e.Spares w)
    (hwaits : (p.workflow w).state = .submitting → ∀ e ∈ p.history ops, e.takenOf? w = none)
    (hready : (p.workflow w).Ready → .submit w ∉ ops) :
    (p.after ops).workflow w = p.workflow w ∧ ∀ e ∈ p.history ops, e.takenOf? w = none := by
  induction ops generalizing p with
  | nil => exact ⟨rfl, fun _ he => absurd he List.not_mem_nil⟩
  | cons op ops ih =>
    -- a result is taken only by a workflow that waits, and then none is
    have htaken : (p.entry op).takenOf? w = none := by
      by_contra hne
      obtain ⟨r, hr⟩ := Option.ne_none_iff_exists'.mp hne
      obtain ⟨c, -, -, -, hawaits, -⟩ := settled_of_takenOf? hr
      exact hne (hwaits hawaits.2 _ List.mem_cons_self)
    -- a request goes out only by submitting the form, which is not done while that could be
    have hasked : (p.entry op).requestOf? w = none := by
      by_contra hne
      obtain ⟨d, hd⟩ := Option.ne_none_iff_exists'.mp hne
      obtain ⟨rfl, hr, -⟩ := (requestOf?_eq_some_iff hw).mp hd
      exact hready hr List.mem_cons_self
    have hnext := workflow_next_of_spared (hs _ List.mem_cons_self) hasked htaken
    -- the rest of the row begins with the same workflow
    obtain ⟨hrest, huntaken⟩ := ih (p := p.next op)
      (fun e he => hs e (List.mem_cons_of_mem _ he))
      (fun hsub e he => hwaits (by rw [← hnext]; exact hsub) e (List.mem_cons_of_mem _ he))
      (fun hr => List.not_mem_of_not_mem_cons (hready (by rw [← hnext]; exact hr)))
    exact ⟨hrest.trans hnext, List.forall_mem_cons.mpr ⟨htaken, huntaken⟩⟩

/-! ### Attempts -/

/-- **An attempt.** The form of a workflow is submitted and the request `d` goes out. While the
operations `wait` are done no result for the workflow is taken; then `op` brings one, which is taken
as `r` says. The operations `more` follow. All of them spare the form, and apart from that they may
be anything: submissions of this form and of others, results that are dropped, results of requests
of other forms, copies, departures from other screens. -/
structure Tried (p : Panel) (w : WorkflowId) (d : Dispatch) (wait : List Op) (op : Op)
    (more : List Op) (r : Resolution) : Prop where
  sent : (p.entry (.submit w)).requestOf? w = some d
  spared : ∀ e ∈ (p.next (.submit w)).history (wait ++ op :: more), e.Spares w
  waiting : ∀ e ∈ (p.next (.submit w)).history wait, e.takenOf? w = none
  ended : (((p.next (.submit w)).after wait).entry op).takenOf? w = some r

namespace Tried

variable {wait more : List Op}

/-- The operations of an attempt, cut at its result. -/
theorem spared_cut (ht : Tried p w d wait op more r) :
    (∀ e ∈ (p.next (.submit w)).history wait, e.Spares w) ∧
    (((p.next (.submit w)).after wait).entry op).Spares w ∧
    ∀ e ∈ (((p.next (.submit w)).after wait).next op).history more, e.Spares w := by
  have hs := ht.spared
  rw [history_append, history_cons] at hs
  exact ⟨fun e he => hs e (List.mem_append_left _ he),
    hs _ (List.mem_append_right _ List.mem_cons_self),
    fun e he => hs e (List.mem_append_right _ (List.mem_cons_of_mem _ he))⟩

/-- Until its result comes, the workflow waits for it under the ticket of the request. -/
theorem workflow_waiting (hw : w ≠ .walletList) (ht : Tried p w d wait op more r) :
    ((p.next (.submit w)).after wait).workflow w = ⟨.submitting, d.ticket⟩ := by
  have hsent := workflow_of_request ht.sent
  refine (workflow_after_of_spared hw ht.spared_cut.1 (fun _ => ht.waiting) ?_).1.trans hsent
  -- while a request is under way no other one goes out
  rw [hsent]
  rintro (h | h) <;> cases h

/-- The result is taken, and the workflow keeps the ticket of the request. -/
theorem workflow_ended (hw : w ≠ .walletList) (ht : Tried p w d wait op more r) :
    ∃ result : Except RemoteError w.Value, r = .ofResult result ∧
      (((p.next (.submit w)).after wait).next op).workflow w = ⟨.ofResult result, d.ticket⟩ := by
  obtain ⟨c, result, -, -, -, hr, hnext⟩ := settled_of_takenOf? ht.ended
  rw [ht.workflow_waiting hw] at hnext
  exact ⟨result, hr, hnext⟩

/-- What came of the request is there until the form is submitted again, and no other result is
taken. -/
theorem workflow_after (hw : w ≠ .walletList) (ht : Tried p w d wait op more r)
    (hmore : r = .failed → .submit w ∉ more) :
    (∃ result : Except RemoteError w.Value, r = .ofResult result ∧
      ((((p.next (.submit w)).after wait).next op).after more).workflow w
        = ⟨.ofResult result, d.ticket⟩) ∧
    ∀ e ∈ (((p.next (.submit w)).after wait).next op).history more, e.takenOf? w = none := by
  obtain ⟨result, hr, hended⟩ := ht.workflow_ended hw
  have hkept := workflow_after_of_spared hw ht.spared_cut.2.2
    (fun hsub => by
      rw [hended] at hsub
      cases result <;> cases hsub)
    (fun hready => hmore (by
      -- only after a failure a form can be submitted
      rw [hended] at hready
      cases result with
      | ok value => rcases hready with h | h <;> cases h
      | error e => exact hr))
  exact ⟨⟨result, hr, hkept.1.trans hended⟩, hkept.2⟩

/-- The texts of the form stay through the whole of an attempt. Only the key of a wallet that has
been imported goes. -/
theorem fieldText_after (hw : w ≠ .walletList) (ht : Tried p w d wait op more r)
    (hmore : r = .failed → .submit w ∉ more) {field : Field} (hf : field.screen.workflow = w) :
    ((((p.next (.submit w)).after wait).next op).after more).fieldText field
      = if field = .importKey ∧ r = .succeeded then "" else p.fieldText field := by
  subst hf
  obtain ⟨hwait, hop, hrest⟩ := ht.spared_cut
  have hsent : (p.next (.submit field.screen.workflow)).fieldText field = p.fieldText field :=
    (fieldText_next_eq p _ field).trans (p.fieldText_submit _ field)
  have hwaited : ((p.next (.submit field.screen.workflow)).after wait).fieldText field
      = p.fieldText field := by
    rw [Panel.fieldText_after hwait, hsent]
    rintro rfl e he hdone
    cases (ht.waiting e he).symm.trans hdone
  -- after the result nothing else is taken, so that the texts are those right after it
  rw [Panel.fieldText_after hrest]
  · split
    · next h =>
      obtain ⟨rfl, rfl⟩ := h
      exact key_next_of_imported ht.ended
    · next h =>
      rw [fieldText_next hop, hwaited]
      rintro rfl hdone
      exact h ⟨rfl, Option.some.inj (ht.ended.symm.trans hdone)⟩
  · rintro rfl e he hdone
    cases ((ht.workflow_after hw hmore).2 e he).symm.trans hdone

end Tried

/-! ### The next request -/

/-- A completion under a ticket that is not the current one is dropped. -/
theorem step_apply_of_ticket_ne {c : Completion}
    (h : c.ticket ≠ (p.workflow c.workflow).generation) :
    (p.step (.apply c)).value = (p, .resolution .stale) :=
  step_apply_of_not_awaits fun _ _ hwaits => h hwaits.1

/-- The operations of an attempt. -/
def attempt (w : WorkflowId) (wait : List Op) (op : Op) (more : List Op) : List Op :=
  .submit w :: (wait ++ op :: more)

/-- An attempt is done step by step: the submission, the wait, the result, and what follows. -/
theorem after_attempt (p : Panel) (w : WorkflowId) (wait : List Op) (op : Op) (more : List Op) :
    p.after (attempt w wait op more)
      = (((p.next (.submit w)).after wait).next op).after more := by
  change (p.next (.submit w)).after (wait ++ op :: more) = _
  rw [after_append]
  rfl

/-- The request of an attempt is among those that have gone out. -/
theorem Tried.mem_issued {pre wait more later : List Op}
    (ht : (start.after pre).Tried w d wait op more r) :
    d ∈ issued (start.history (pre ++ attempt w wait op more ++ later)) := by
  -- it stands right behind the operations before the attempt
  rw [List.append_assoc, history_append, issued_append]
  refine List.mem_append_right _ (List.mem_filterMap.mpr ⟨_, List.mem_cons_self, ?_⟩)
  exact (Option.filter_eq_some_iff.mp ht.sent).1

/-- **Failed requests can be sent again.** When the request of a form has failed, and the form has
been spared since it was sent, the next submission sends the same call under another ticket. From
then on completions of the first request are dropped, whatever happens meanwhile and as long as no
ticket comes up twice. The texts of the form are those that it had at the first submission; when the
request has succeeded instead, they are so as well, but for a key, which is gone. -/
theorem failures_can_be_repeated (hw : w ≠ .walletList) {pre wait more : List Op}
    (ht : (start.after pre).Tried w d wait op more r) :
    (r = .failed → .submit w ∉ more →
      SameTexts w (start.after pre) (start.after (pre ++ attempt w wait op more)) ∧
      ∃ d', ((start.after (pre ++ attempt w wait op more)).entry (.submit w)).requestOf? w
          = some d' ∧
        d'.call = d.call ∧ d'.ticket ≠ d.ticket ∧
        ∀ later c, d.Completes c →
          bumps (start.history (pre ++ attempt w wait op more ++ .submit w :: later)) w < 2 ^ 64 →
          ((start.after (pre ++ attempt w wait op more ++ .submit w :: later)).step
              (.apply c)).value
            = (start.after (pre ++ attempt w wait op more ++ .submit w :: later),
              .resolution .stale)) ∧
    (r = .succeeded → ∀ field : Field, field.screen.workflow = w →
      (start.after (pre ++ attempt w wait op more)).fieldText field
        = if field = .importKey then "" else (start.after pre).fieldText field) := by
  have hcut : start.after (pre ++ attempt w wait op more)
      = ((((start.after pre).next (.submit w)).after wait).next op).after more := by
    rw [after_append, after_attempt]
  constructor
  · rintro rfl hunasked
    have hmore : Resolution.failed = .failed → Op.submit w ∉ more := fun _ => hunasked
    have htexts : SameTexts w (start.after pre) (start.after (pre ++ attempt w wait op more)) := by
      intro field hf
      rw [hcut, ht.fieldText_after hw hmore hf]
      exact if_neg fun h => by cases h.2
    refine ⟨htexts, ?_⟩
    -- the workflow has failed, and has the ticket of the first request
    obtain ⟨result, hr, hstands⟩ := (ht.workflow_after hw hmore).1
    rw [← hcut] at hstands
    have hready : ((start.after (pre ++ attempt w wait op more)).workflow w).Ready := by
      rw [hstands]
      cases result with
      | ok value => cases hr
      | error e => exact Or.inr rfl
    obtain ⟨-, -, c, hcall, hd⟩ := (requestOf?_eq_some_iff hw).mp ht.sent
    have hagain := (requestOf?_eq_some_iff hw).mpr
      ⟨rfl, hready, c, (call_eq_of_texts htexts).trans hcall, rfl⟩
    have hticket : d.ticket + 1 ≠ d.ticket := by simp
    rw [hstands] at hagain
    refine ⟨_, hagain, by rw [hd], hticket, fun later c' hc hb => ?_⟩
    -- the ticket of the first request is void from when the second one goes out
    have hvoid : d.ticket ≠ ((start.after (pre ++ attempt w wait op more ++ [.submit w])).workflow
        w).generation := by
      have hsecond := congrArg Workflow.generation (workflow_of_request hagain)
      rw [after_append]
      exact fun h => hticket (hsecond.symm.trans h.symm)
    rw [List.append_cons] at hb ⊢
    have hlater := ticket_ne_generation_later hb
      (List.mem_map.mpr ⟨d, ht.mem_issued, by rw [hd]; rfl⟩) hvoid
    obtain ⟨hcw, hct, -⟩ := (d.completes_iff c').mp hc
    have hdw : d.workflow = w := by rw [hd]
    refine step_apply_of_ticket_ne ?_
    rw [hcw, hct, hdw]
    exact hlater
  · rintro rfl field hf
    rw [hcut, ht.fieldText_after hw (fun h => by cases h) hf]
    simp only [and_true]

/-- A panel on its way to import a wallet: a key has been typed between blanks. -/
def typedKey : List Op := [.start, .navigate .importWallet, .edit .importKey " 0xabc\n"]

/-- What comes in while the key is looked at: the button is pressed again, the list of wallets
arrives when its screen has been left, and another form is filled in and submitted. -/
def meanwhile : List Op :=
  [.submit .importWallet, .apply ⟨.walletList, 2, .wallets (.ok [])⟩, .edit .createName "Other",
    .submit .createWallet]

/-- The key is refused. -/
def refusal : Completion := ⟨.importWallet, 1, .importedWallet (.error ⟨"no such key"⟩)⟩

/-- The refused key is sent again, without the blanks as before, and the refusal is dropped when it
comes in a third time. -/
theorem refusedKey_is_sent_again :
    let d : Dispatch := ⟨.importWallet, 1, .importWallet ⟨⟨"0xabc"⟩, "Imported Wallet"⟩⟩
    let ops := typedKey ++ attempt .importWallet meanwhile (.apply refusal) [.apply refusal]
    (start.after typedKey).Tried .importWallet d meanwhile (.apply refusal) [.apply refusal]
        .failed ∧
      (∃ d', ((start.after ops).entry (.submit .importWallet)).requestOf? .importWallet = some d' ∧
        d'.call = d.call ∧ d'.ticket ≠ d.ticket) ∧
      ((start.after (ops ++ [.submit .importWallet])).step (.apply refusal)).value.2
        = .resolution .stale := by
  intro d ops
  have ht : (start.after typedKey).Tried .importWallet d meanwhile (.apply refusal)
      [.apply refusal] .failed :=
    ⟨by decide +kernel, by decide +kernel, by decide +kernel, by decide +kernel⟩
  obtain ⟨-, d', hd, hcall, hticket, hstale⟩ :=
    (failures_can_be_repeated (by decide) ht).1 rfl (by simp)
  have hdropped := hstale [] refusal (by decide) (by decide +kernel)
  exact ⟨ht, ⟨d', hd, hcall, hticket⟩, congrArg Prod.snd hdropped⟩

end WalletPanel.Panel
