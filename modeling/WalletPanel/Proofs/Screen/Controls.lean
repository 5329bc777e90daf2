import Mathlib.Data.List.Chain
import WalletPanel.Proofs.Panel.Submissions
import WalletPanel.Screen.View

/-!
# Controls keep what they promise

What a screen offers is decided by the view, and what the panel does about it is decided by the
forms. This module says that the two agree, widget by widget (`Widget.Honest`): a button that
submits a form is enabled exactly if the form may be submitted, a button that resets one stands only
below a result, one that copies stands right after the text that it copies, and so on. It holds of
everything that a panel shows (`Panel.honest_widgets`).

The button of the key is the one that copies something else than is seen beside it: it copies the
key, masked or not.

A row of widgets is gone through with the widget before it. The lemmas on parts of screens are put
together by `View.honest_append`.
-/

namespace WalletPanel

/-! ### Phases and values -/

section

variable {α : Type} {w : Workflow α}

/-- A value is there after a success only. -/
theorem Workflow.phase_of_value? {a : α} (h : w.state.value? = some a) : w.phase = .succeeded := by
  unfold Workflow.phase
  cases hs : w.state with
  | succeeded b => rfl
  | _ => rw [hs] at h; cases h

/-- A workflow without a value may be submitted unless a request is under way. -/
theorem Workflow.ready_iff_of_value? (h : w.state.value? = none) :
    w.Ready ↔ w.state.isSubmitting = false := by
  unfold Workflow.Ready Workflow.phase
  cases hs : w.state with
  | succeeded b => rw [hs] at h; cases h
  | _ => simp [WorkflowState.phase, WorkflowState.isSubmitting]

/-- What may be submitted is not under way. -/
theorem Workflow.Ready.ne_submitting (h : w.Ready) : w.phase ≠ .submitting := by
  rcases h with h | h <;> rw [h] <;> nofun

end

/-! ### What may be submitted -/

namespace Panel

/-- Whether the screen of a workflow lets the user submit it. A list is loaded unless it is being
loaded, a token form is checked after the click, and the other forms have to be filled in. -/
def Submittable (p : Panel) : WorkflowId → Prop
  | .walletList => (p.workflow .walletList).phase ≠ .submitting
  | .tokenCreator => (p.workflow .tokenCreator).Ready
  | w => (p.workflow w).Ready ∧ p.Filled w

/-- Apart from the list, only what is ready can be submitted. -/
theorem Submittable.ready {p : Panel} {w : WorkflowId} (h : p.Submittable w) :
    w = .walletList ∨ (p.workflow w).Ready := by
  cases w with
  | walletList => exact .inl rfl
  | tokenCreator => exact .inr h
  | _ => exact .inr h.1

/-- What comes of a submission that the screen lets the user make: a request goes out and nothing is
told, or a token is not well described and the user is told one thing about it. -/
theorem Submittable.sends {p : Panel} {w : WorkflowId} (h : p.Submittable w) :
    (∃ d, (p.submit w).value.2 = some d ∧ p.told (.submit w) = []) ∨
      (w = .tokenCreator ∧ (p.submit w).value.2 = none ∧
        ∃ e : ValidationError, p.told (.submit w) = [(.error, e.message)]) := by
  by_cases hlist : w = .walletList
  · subst hlist
    obtain ⟨d, hd⟩ := p.sends_list_iff.mpr h
    exact .inl ⟨d, hd, told_submit_of_filled trivial⟩
  · have hready := h.ready.resolve_left hlist
    -- only a token form can be submitted without being filled in
    by_cases hfilled : p.Filled w
    · obtain ⟨d, hd⟩ := (p.sends_iff hlist).mpr ⟨hready, hfilled⟩
      exact .inl ⟨d, hd, told_submit_of_filled hfilled⟩
    · obtain ⟨e, -, htold⟩ := exists_told_submit hready.ne_submitting hfilled
      have hnone : (p.submit w).value.2 = none := by
        rw [Option.eq_none_iff_forall_ne_some]
        exact fun d hd => hfilled ((p.sends_iff hlist).mp ⟨d, hd⟩).2
      cases w with
      | tokenCreator => exact .inr ⟨rfl, hnone, e, htold⟩
      | walletList => exact absurd rfl hlist
      | _ => exact absurd h.2 hfilled

/-- Only what the screen lets the user submit is sent. -/
theorem submittable_of_sends {p : Panel} {w : WorkflowId} {d : Dispatch}
    (h : (p.submit w).value.2 = some d) : p.Submittable w := by
  by_cases hlist : w = .walletList
  · subst hlist
    exact p.sends_list_iff.mp ⟨d, h⟩
  · obtain ⟨hready, hfilled⟩ := (p.sends_iff hlist).mp ⟨d, h⟩
    cases w with
    | walletList => exact absurd rfl hlist
    | tokenCreator => exact hready
    | _ => exact ⟨hready, hfilled⟩

end Panel

/-! ### Widgets that keep what they promise -/

/-- A widget that keeps what it promises, where `before` is the widget that stands before it. -/
def Widget.Honest (p : Panel) (before : Widget) : Widget → Prop
  | .button _ enabled (.submit w) => enabled = true ↔ p.Submittable w
  | .button _ _ (.reset w) => (p.workflow w).phase = .succeeded
  | .button _ _ (.copy .createdPrivateKey) => p.createWallet.privateKey?.isSome
  | .button _ _ (.copy target) => ∃ text, before = .label text ∧ p.copyText? target = some text
  | .button _ _ .toggleReveal => p.createWallet.privateKey?.isSome
  | .button text _ (.selectExample index) => ContractForm.examples[index]? = some text
  | _ => True

/-- A row of such widgets, whatever stands before it. -/
def View.Honest (p : Panel) (l : List Widget) : Prop :=
  ∀ before, List.IsChain (Widget.Honest p) (before :: l)

namespace View

variable {p : Panel}

/-! ### Rows of widgets -/

/-- Nothing promises nothing. -/
theorem honest_nil : Honest p [] := fun _ => .singleton _

/-- A widget that keeps its promise wherever it stands, in front of others that do. -/
theorem honest_cons {x : Widget} {l : List Widget} (hx : ∀ before, Widget.Honest p before x)
    (hl : Honest p l) : Honest p (x :: l) :=
  fun before => .cons_cons (hx before) (hl x)

/-- A label promises nothing. -/
theorem honest_label {text : String} {l : List Widget} (hl : Honest p l) :
    Honest p (.label text :: l) :=
  honest_cons (fun _ => trivial) hl

/-- A button that copies the label before it. -/
theorem honest_copy {text title : String} {enabled : Bool} {target : CopyTarget} {l : List Widget}
    (ht : target ≠ .createdPrivateKey) (htext : p.copyText? target = some text)
    (hl : Honest p l) : Honest p (.label text :: .button title enabled (.copy target) :: l) := by
  intro before
  refine .cons_cons trivial (.cons_cons ?_ (hl _))
  cases target with
  | createdPrivateKey => exact absurd rfl ht
  | _ => exact ⟨text, rfl, htext⟩

/-- Two rows one after the other; the first widget of the second one stands behind the last of the
first. -/
theorem honest_append {l m : List Widget} (hl : Honest p l) (hm : Honest p m) :
    Honest p (l ++ m) := by
  intro before
  -- the widget before changes along the row, so that the chain is what the induction is over
  have hchain := hl before
  clear hl
  induction l generalizing before with
  | nil => exact hm before
  | cons x l ih =>
    obtain ⟨hx, hrest⟩ := List.isChain_cons_cons.mp hchain
    exact .cons_cons hx (ih x hrest)

/-- A row that is put together from such rows. -/
theorem honest_flatMap {α : Type} {f : α → List Widget} (h : ∀ a, Honest p (f a)) (l : List α) :
    Honest p (l.flatMap f) := by
  induction l with
  | nil => exact honest_nil
  | cons a l ih =>
    rw [List.flatMap_cons]
    exact honest_append (h a) ih

/-- A row of widgets each of which keeps what it promises wherever it stands. -/
theorem honest_map {α : Type} {f : α → Widget} (h : ∀ a before, Widget.Honest p before (f a))
    (l : List α) : Honest p (l.map f) := by
  induction l with
  | nil => exact honest_nil
  | cons a l ih => exact honest_cons (h a) ih

/-- A row of labels. -/
theorem honest_labels {α : Type} (f : α → String) (l : List α) :
    Honest p (l.map fun a => .label (f a)) :=
  honest_map (f := fun a => .label (f a)) (fun _ _ => trivial) l

/-! ### Parts of screens -/

/-- The links of the header lead to their screens and promise nothing else. -/
theorem honest_header : Honest p header := by
  have hplaces : ∀ place : Screen × String, ∀ before,
      Widget.Honest p before (.button place.2 true (.navigate place.1)) := fun _ _ => trivial
  exact honest_label (honest_map hplaces places)

/-- An address with the button that copies it, and the link that shows it elsewhere. -/
theorem honest_addressRow {address : Address} {target : CopyTarget}
    (ht : target ≠ .createdPrivateKey) (h : p.copyText? target = some address.checksummed) :
    Honest p (addressRow address target) :=
  honest_label (honest_append (l := [_, _]) (honest_copy ht h honest_nil)
    (honest_cons (fun _ => trivial) honest_nil))

/-- A field with its caption. -/
theorem honest_captioned (field : Field) (enabled : Bool) :
    Honest p (captioned p field enabled) :=
  honest_label (honest_cons (fun _ => trivial) honest_nil)

/-- A note with its mark. -/
theorem honest_note (text mark : String) : Honest p [.label mark, .label text] :=
  honest_label (honest_label honest_nil)

/-- A note that is there while a request is under way. -/
theorem honest_busyNote (isBusy : Bool) (text : String) : Honest p (busyNote isBusy text) := by
  unfold busyNote
  split
  · exact honest_label honest_nil
  · exact honest_nil

/-- The preview of a token has nothing to click on. -/
theorem honest_tokenPreview (t : TokenPreview) : Honest p (tokenPreview t) :=
  honest_append (honest_label (honest_label (honest_label (honest_label honest_nil))))
    (honest_labels _ _)

/-- The code of a contract, with the button that copies it and the one that gives it up. -/
theorem honest_code {text title again : String} {target : CopyTarget} {w : WorkflowId}
    (ht : target ≠ .createdPrivateKey) (htext : p.copyText? target = some text)
    (hdone : (p.workflow w).phase = .succeeded) :
    Honest p (code text ++ [.button title true (.copy target), .button again true (.reset w)]) :=
  honest_label (honest_append (l := [_, _]) (honest_copy ht htext honest_nil)
    (honest_cons (fun _ => hdone) honest_nil))

/-- The key can be uncovered and copied where it is shown. -/
theorem honest_keyRow : Honest p (keyRow p.createWallet) := by
  unfold keyRow CreateForm.keyDisplay?
  cases hkey : p.createWallet.privateKey? with
  | none => exact honest_nil
  | some key =>
    have hthere : p.createWallet.privateKey?.isSome := by rw [hkey]; rfl
    exact honest_label (honest_label
      (honest_cons (fun _ => hthere) (honest_cons (fun _ => hthere) honest_nil)))

/-- What is left of a list from place `n` on starts with what stands there. -/
theorem of_cons_eq_drop {α : Type} {a : α} {l xs : List α} {n : Nat} (h : a :: l = xs.drop n) :
    xs[n]? = some a ∧ l = xs.drop (n + 1) := by
  constructor
  · rw [← List.head?_drop, ← h]
    rfl
  · rw [← List.tail_drop, ← h]
    rfl

/-- The wallets from place `index` on are copied from their own places. -/
theorem honest_listedWallets {index : Nat} {ws : List WalletRecord}
    (h : ws = p.walletList.wallets.drop index) : Honest p (listedWallets index ws) := by
  induction ws generalizing index with
  | nil => exact honest_nil
  | cons w ws ih =>
    obtain ⟨hw, hrest⟩ := of_cons_eq_drop h
    have hcopy : p.copyText? (.listedAddress index) = some w.address.checksummed := by
      rw [Panel.copyText?, hw]
      rfl
    exact honest_append (honest_label (honest_append (honest_labels _ _)
      (honest_addressRow nofun hcopy))) (ih hrest)

/-- The links from place `index` on lead to their own examples. -/
theorem honest_exampleLinks {enabled : Bool} {index : Nat} {texts : List String}
    (h : texts = ContractForm.examples.drop index) :
    Honest p (exampleLinks enabled index texts) := by
  induction texts generalizing index with
  | nil => exact honest_nil
  | cons text texts ih =>
    obtain ⟨hlink, hrest⟩ := of_cons_eq_drop h
    exact honest_cons (fun _ => hlink) (ih hrest)

/-! ### The screens -/

/-- The button of the dashboard loads the list unless it is being loaded. -/
theorem honest_dashboard : Honest p (dashboard p) := by
  have hload : (!p.walletList.isLoading) = true ↔ p.Submittable .walletList := by
    rw [Bool.not_eq_true', ← Bool.not_eq_true]
    exact not_congr p.walletList.workflow.state.isSubmitting_iff
  have hlist : Honest p (if p.walletList.isLoading then [.label "Loading wallets..."]
      else if p.walletList.wallets.isEmpty then
        [.label "No wallets yet. Create or import one to get started."]
      else listedWallets 0 p.walletList.wallets) := by
    split
    · exact honest_label honest_nil
    · split
      · exact honest_label honest_nil
      · exact honest_listedWallets rfl
  unfold dashboard
  refine honest_append (honest_append (honest_append ?_ ?_) ?_) hlist
  · exact honest_label (honest_label honest_nil)
  · -- one button for each other screen, with what it is for
    exact honest_flatMap (fun (_, _, _) => honest_cons (fun _ => trivial) (honest_label honest_nil))
      offers
  · exact honest_label (honest_cons (fun _ => hload) honest_nil)

/-- A new wallet with what can be copied of it, or the form with its button. -/
theorem honest_createWallet : Honest p (createWallet p) := by
  unfold createWallet
  -- below the title stands either the result or the form
  refine honest_append (honest_label (honest_label honest_nil)) ?_
  split
  · next wallet hwallet =>
    obtain ⟨created, hvalue, rfl⟩ := Option.map_eq_some_iff.mp hwallet
    have hcopy : p.copyText? .createdAddress = some created.record.address.checksummed := by
      rw [Panel.copyText?, hwallet]
      rfl
    have hdone : (p.workflow .createWallet).phase = .succeeded := Workflow.phase_of_value? hvalue
    exact honest_append (honest_append (honest_append (honest_append (honest_note _ _)
      (honest_label (honest_addressRow nofun hcopy))) honest_keyRow) (honest_note _ _))
      (honest_cons (fun _ => hdone) honest_nil)
  · next hwallet =>
    have hnone : p.createWallet.workflow.state.value? = none := Option.map_eq_none_iff.mp hwallet
    have hsubmit : p.createWallet.canSubmit = true ↔ p.Submittable .createWallet := by
      rw [CreateForm.canSubmit, Bool.and_eq_true, Bool.not_eq_true', Bool.not_eq_true',
        ← Workflow.ready_iff_of_value? hnone, ← Text.legible_iff]
      rfl
    exact honest_append (honest_captioned _ _)
      (honest_cons (fun _ => hsubmit) (honest_busyNote _ _))

/-- An imported wallet with its address, or the form with its button. -/
theorem honest_importWallet : Honest p (importWallet p) := by
  unfold importWallet
  refine honest_append (honest_label (honest_label honest_nil)) ?_
  split
  · next wallet hwallet =>
    -- what stands before the button is what it copies
    have hcopy : p.copyText? .importedAddress = some wallet.address.checksummed := by
      rw [Panel.copyText?, hwallet]
      rfl
    have hdone : (p.workflow .importWallet).phase = .succeeded := Workflow.phase_of_value? hwallet
    exact honest_append (honest_append (honest_note _ _)
      (honest_label (honest_addressRow nofun hcopy))) (honest_cons (fun _ => hdone) honest_nil)
  · next hwallet =>
    -- the button is enabled where a submission would come to something
    have hsubmit : p.importWallet.canSubmit = true ↔ p.Submittable .importWallet := by
      rw [ImportForm.canSubmit, ImportForm.hasKey, Bool.and_eq_true, Bool.and_eq_true,
        Bool.not_eq_true', Bool.not_eq_true', Bool.not_eq_true',
        ← Workflow.ready_iff_of_value? hwallet, ← Text.legible_iff, ← Text.legible_iff, and_assoc]
      rfl
    exact honest_append (honest_append (honest_append (honest_captioned _ _)
      (honest_captioned _ _)) (honest_note _ _))
      (honest_cons (fun _ => hsubmit) (honest_busyNote _ _))

/-- The contract of a token, or the form with its button and the preview. -/
theorem honest_tokenCreator : Honest p (tokenCreator p) := by
  unfold tokenCreator
  refine honest_append (honest_label (honest_label honest_nil)) ?_
  split
  · next token htoken =>
    have hcopy : p.copyText? .tokenContract = some token.contractCode := by
      rw [Panel.copyText?, htoken]
      rfl
    have hdone : (p.workflow .tokenCreator).phase = .succeeded := Workflow.phase_of_value? htoken
    rw [List.append_assoc]
    exact honest_append (honest_append (honest_note _ _) (honest_label (honest_label honest_nil)))
      (honest_code nofun hcopy hdone)
  · next htoken =>
    -- here it is enabled whatever is typed: a fault is told when the form is submitted
    have hsubmit : (!p.tokenCreator.workflow.state.isSubmitting) = true
        ↔ p.Submittable .tokenCreator := by
      rw [Bool.not_eq_true', ← Workflow.ready_iff_of_value? htoken]
      rfl
    exact honest_append (honest_append (honest_flatMap (fun _ => honest_captioned _ _) _)
      (honest_cons (fun _ => hsubmit) (honest_busyNote _ _))) (honest_tokenPreview _)

/-- A contract, or the form with its examples and its button. -/
theorem honest_contractWriter : Honest p (contractWriter p) := by
  unfold contractWriter
  refine honest_append (honest_label (honest_label honest_nil)) ?_
  split
  · next contract hcontract =>
    have hcopy : p.copyText? .generatedContract = some contract.contractCode := by
      rw [Panel.copyText?, hcontract]
      rfl
    have hdone : (p.workflow .contractWriter).phase = .succeeded :=
      Workflow.phase_of_value? hcontract
    rw [List.append_assoc]
    exact honest_append (honest_append (honest_note _ _) (honest_label (honest_label honest_nil)))
      (honest_code nofun hcopy hdone)
  · next hcontract =>
    -- a description has to be there
    have hsubmit : p.contractWriter.canSubmit = true ↔ p.Submittable .contractWriter := by
      rw [ContractForm.canSubmit, Bool.and_eq_true, Bool.not_eq_true', Bool.not_eq_true',
        ← Workflow.ready_iff_of_value? hcontract, ← Text.legible_iff]
      rfl
    exact honest_append (honest_cons (fun _ => trivial) (honest_label (honest_exampleLinks rfl)))
      (honest_cons (fun _ => hsubmit) (honest_busyNote _ _))

end View

/-- **What is shown keeps what it promises.** -/
theorem Panel.honest_widgets (p : Panel) : View.Honest p p.widgets := by
  refine View.honest_append View.honest_header ?_
  cases p.screen with
  | dashboard => exact View.honest_dashboard
  | createWallet => exact View.honest_createWallet
  | importWallet => exact View.honest_importWallet
  | tokenCreator => exact View.honest_tokenCreator
  | contractWriter => exact View.honest_contractWriter

/-- A button that is shown keeps what it promises, with the widget that is shown before it. -/
theorem Panel.honest_at {p : Panel} {place : Nat} {title : String} {enabled : Bool}
    {intent : Intent} (h : p.widgets[place]? = some (.button title enabled intent)) :
    ∃ before, p.widgets[place - 1]? = some before ∧
      Widget.Honest p before (.button title enabled intent) := by
  cases place with
  -- the first widget is the title of the header
  | zero => cases h
  | succ place =>
    obtain ⟨hlt, hbutton⟩ := List.getElem?_eq_some_iff.mp h
    have hchain : List.IsChain (Widget.Honest p) p.widgets := (p.honest_widgets (.label "")).tail
    -- the widget at a place and the one before it are neighbours in the chain
    have hhonest := List.isChain_iff_getElem.mp hchain place hlt
    rw [hbutton] at hhonest
    exact ⟨_, List.getElem?_eq_getElem (Nat.lt_of_succ_lt hlt), hhonest⟩

end WalletPanel
