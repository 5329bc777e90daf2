import WalletPanel.Proofs.App.Operations
import WalletPanel.Proofs.Panel.Tidy
import WalletPanel.Proofs.Screen.Controls

/-!
# What a click comes to

A button promises something when it is enabled, and `Delivers` says what: a form is sent, a value is
copied, the key is uncovered. `clicks_deliver` says that the application delivers it, in every
state and after whatever is typed in the same frame, and that no submission is turned away without
a word (`Traced.Heeded`). In turn a button that submits a form and is switched off would send
nothing.

What the screens offer is honest (`Panel.honest_widgets`); what remains is that the application does
as the widget says.
-/

namespace WalletPanel

/-! ### Submissions that are turned away -/

/-- Whether an event turns a submission away without the user being told. -/
def Event.IsRefusal : Event → Prop
  | .submitIgnored _ | .submitRejected _ _ => True
  | _ => False

/-- A computation that turns no submission away. -/
def Traced.Heeded (x : Traced α) : Prop := ∀ e ∈ x.events, ¬ e.IsRefusal

namespace Traced

/-- Nothing is turned away where nothing happens. -/
theorem heeded_pure (a : α) : (pure a : Traced α).Heeded := List.forall_mem_nil _

/-- An event that is no refusal turns nothing away. -/
theorem heeded_emit {e : Event} (h : ¬ e.IsRefusal) : (emit e).Heeded :=
  List.forall_mem_singleton.mpr h

/-- One computation after another turns nothing away if neither does. -/
theorem Heeded.bind {x : Traced α} {f : α → Traced β} (hx : x.Heeded) (hf : (f x.value).Heeded) :
    (x >>= f).Heeded := by
  unfold Heeded
  rw [events_bind]
  exact List.forall_mem_append.mpr ⟨hx, hf⟩

/-- What is done with a value leaves no events. -/
theorem Heeded.bind_pure {x : Traced α} (hx : x.Heeded) (f : α → β) :
    (x >>= fun a => pure (f a)).Heeded :=
  hx.bind (heeded_pure _)

end Traced

open Traced (heeded_pure heeded_emit)

/-- A reset turns nothing away. -/
theorem Workflow.heeded_reset (label : String) (w : Workflow α) : (w.reset label).Heeded := by
  unfold Workflow.reset
  refine .bind ?_ (heeded_pure _)
  unfold Workflow.note
  split
  · exact heeded_emit not_false
  · exact heeded_pure _

/-- A workflow that begins turns nothing away: where it may not begin, it says so. -/
theorem Workflow.heeded_begin (label : String) (w : Workflow α) : (w.begin label).Heeded := by
  unfold Workflow.begin
  split
  · exact .bind (heeded_emit not_false) (heeded_pure _)
  · exact heeded_pure _

/-- A submission in a phase that allows it is not turned away, whatever the form says. -/
theorem heeded_submitCall (id : WorkflowId) {w : Workflow α} (h : w.Ready)
    (call : Except ValidationError RemoteCall) : (submitCall id w call).Heeded := by
  have hidle : ¬ w.state.isSubmitting = true :=
    mt w.state.isSubmitting_iff.mp h.ne_submitting
  unfold submitCall
  rw [if_neg hidle]
  cases call with
  | error e => exact .bind (heeded_emit not_false) (.bind (heeded_emit not_false) (heeded_pure _))
  | ok c =>
    refine .bind (w.heeded_begin id.label) ?_
    rcases w.value_begin id.label with ⟨-, hv⟩ | ⟨e, hr, -⟩
    · rw [hv]
      exact .bind (heeded_emit not_false) (heeded_pure _)
    · -- a workflow that is ready is not turned away
      exact absurd h hr

namespace Panel

/-- To reset a form turns nothing away. -/
theorem heeded_reset (p : Panel) (w : WorkflowId) : (p.reset w).Heeded := by
  cases w <;> exact .bind_pure (.bind_pure (Workflow.heeded_reset _ _) _) _

/-- To load the list is to reset it first, so that it is never turned away. -/
theorem heeded_mount (p : Panel) : p.mount.Heeded := by
  refine .bind_pure ?_ _
  unfold WalletList.mount
  split
  · exact heeded_pure _
  · exact .bind (Workflow.heeded_reset _ _) (.bind_pure (heeded_submitCall _ (.inl rfl) _) _)

/-- To enter a screen turns nothing away, not even where the list is loaded for it. -/
theorem heeded_enter (p : Panel) (s : Screen) : (p.enter s).Heeded := by
  cases s with
  | dashboard => exact p.heeded_mount
  | _ => exact heeded_pure _

/-- To go to another screen turns nothing away. -/
theorem heeded_navigate (p : Panel) (s : Screen) : (p.navigate s).Heeded := by
  unfold navigate
  split
  · -- the screen is shown already, and is entered once more
    exact p.heeded_enter s
  · -- the form of the screen that is left is reset first
    exact .bind (heeded_emit not_false) (.bind (p.heeded_reset _) (heeded_enter _ s))

/-- A submission that is due is not turned away. The list may always be asked for. -/
theorem heeded_submit {p : Panel} {w : WorkflowId}
    (h : w = .walletList ∨ (p.workflow w).Ready) : (p.submit w).Heeded := by
  cases w with
  | walletList => exact p.heeded_mount
  | _ =>
    have hready := h.resolve_left nofun
    exact .bind_pure (.bind_pure (heeded_submitCall _ hready _) _) _

/-- A copy turns nothing away. -/
theorem heeded_copy (p : Panel) (target : CopyTarget) : (p.copy target).Heeded := by
  unfold copy
  split
  · exact heeded_pure _
  · exact .bind (heeded_emit not_false) (heeded_pure _)

end Panel

namespace App

/-! ### What is promised and what is done -/

/-- What a button with this title promises, from the application in which it is clicked to the one
in which all is done. The widget `before` stands before the button. -/
def Delivers (a b : App) (before : Widget) (title : String) : Intent → Prop
  | .navigate screen => b.panel.screen = screen
  | .submit w =>
    -- a request is on its way and nothing is told, or a token is ill described and that is told
    (∃ d, (a.panel.submit w).value.2 = some d ∧ d.workflow = w ∧
        b.background = a.background.start a.backend d ∧ b.panel.notices = a.panel.notices) ∨
      (w = .tokenCreator ∧ (a.panel.submit w).value.2 = none ∧ b.background = a.background ∧
        ∃ e : ValidationError, b.panel.notices = a.panel.notices.post .error e.message)
  | .reset w => (a.panel.workflow w).phase = .succeeded ∧ (b.panel.workflow w).phase = .idle
  | .copy .createdPrivateKey =>
    -- the key itself, masked or not
    ∃ key, a.panel.createWallet.privateKey? = some key ∧
      b.background = a.background.startCopy ⟨.createdPrivateKey, key.expose⟩
  | .copy target =>
    ∃ text, before = .label text ∧ b.background = a.background.startCopy ⟨target, text⟩
  | .toggleReveal => b.panel.createWallet.revealed = !a.panel.createWallet.revealed
  | .selectExample index =>
    (a.panel.contractWriter.selectExample index).2 = true ∧
      b.panel.contractWriter.description = title
  | .browse url => b.opened = a.opened ++ [url]

variable {a : App}

/-- An operation adds to the notices what it tells the user. -/
theorem notices_act (op : Panel.Op) : (a.act op).panel.notices
    = ⟨a.panel.notices.entries ++ numbered a.panel.notices.length (a.panel.told op)⟩ := by
  have hnext : (a.act op).panel = a.panel.next op := panel_act a op
  rw [hnext, Panel.notices_next]

/-- A form that may be submitted is sent, or its error is told. -/
theorem delivers_submit {w : WorkflowId} (h : a.panel.Submittable w) (before : Widget)
    (title : String) : Delivers a (a.act (.submit w)) before title (.submit w) := by
  have hbackground : (a.act (.submit w)).background
      = a.background.serve a.backend (.dispatch (a.panel.submit w).value.2) :=
    background_act a (.submit w)
  rcases h.sends with ⟨d, hd, htold⟩ | ⟨hw, hnone, e, htold⟩
  · -- the form is sent
    refine .inl ⟨d, hd, Panel.workflow_of_submit hd, ?_, ?_⟩
    · rw [hbackground, hd]
      rfl
    · rw [notices_act, htold, NoticeLog.append_numbered_nil]
  · -- the form is wrong
    refine .inr ⟨hw, hnone, ?_, e, ?_⟩
    · rw [hbackground, hnone]
      rfl
    · rw [notices_act, htold]
      rfl

/-- A button beside a value copies the value. -/
theorem delivers_copy {before : Widget} {title : String} {target : CopyTarget}
    (h : Widget.Honest a.panel before (.button title true (.copy target))) :
    Delivers a (a.act (.copy target)) before title (.copy target) := by
  have hcopy : ∀ {text}, a.panel.copyText? target = some text →
      (a.act (.copy target)).background = a.background.startCopy ⟨target, text⟩ := by
    intro text htext
    have hjob : (a.panel.copy target).value = some ⟨target, text⟩ := by
      rw [Panel.copy, htext]
      rfl
    have hbackground : (a.act (.copy target)).background
        = a.background.serve a.backend (.job (a.panel.copy target).value) :=
      background_act a (.copy target)
    rw [hbackground, hjob]
    rfl
  cases target with
  -- beside the key stands its mask, so that the value is looked up in the form
  | createdPrivateKey =>
    obtain ⟨key, hkey⟩ := Option.isSome_iff_exists.mp h
    refine ⟨key, hkey, hcopy ?_⟩
    rw [Panel.copyText?, hkey]
    rfl
  | _ =>
    obtain ⟨text, hbefore, htext⟩ := h
    exact ⟨text, hbefore, hcopy htext⟩

/-- **The application does what its buttons promise.** -/
theorem delivers_handle {before : Widget} {title : String} {intent : Intent}
    (h : Widget.Honest a.panel before (.button title true intent)) :
    Delivers a (a.handle intent) before title intent := by
  cases intent with
  | navigate screen =>
    change (a.act (.navigate screen)).panel.screen = screen
    rw [panel_act]
    exact Panel.screen_next a.panel (.navigate screen)
  | submit w => exact delivers_submit (h.mp rfl) before title
  | reset w =>
    refine ⟨h, ?_⟩
    have hpanel : (a.act (.reset w)).panel = a.panel.next (.reset w) := panel_act a _
    -- a reset is carried out by the form it is for
    have hreset : (a.panel.act (.reset w)).value.1 = (a.panel.reset w).value := rfl
    change ((a.act (.reset w)).panel.workflow w).phase = .idle
    rw [hpanel, Panel.workflow_next, hreset, Panel.workflow_reset_self]
    rfl
  | copy target => exact delivers_copy h
  | toggleReveal =>
    change (a.act .toggleReveal).panel.createWallet.revealed = _
    rw [panel_act]
    exact congrArg CreateForm.revealed (if_pos h)
  | selectExample index =>
    have hselect : a.panel.contractWriter.selectExample index
        = ({ a.panel.contractWriter with description := title }, true) := by
      -- the title of the button is the example itself
      have htitle : ContractForm.examples[index]? = some title := h
      rw [ContractForm.selectExample, htitle]
    have hpanel : (a.act (.selectExample index)).panel.contractWriter
        = (a.panel.contractWriter.selectExample index).1 := by
      rw [panel_act]
      rfl
    refine ⟨congrArg Prod.snd hselect, ?_⟩
    change (a.act (.selectExample index)).panel.contractWriter.description = title
    rw [hpanel, hselect]
  | browse url => rfl

/-- No click on such a button ends in a submission that is turned away. -/
theorem heeded_handle {before : Widget} {title : String} {intent : Intent}
    (h : Widget.Honest a.panel before (.button title true intent)) {op : Panel.Op}
    (hop : operation? intent = some op) : (a.panel.step op).Heeded := by
  have hact : (a.panel.step op).Heeded ↔ (a.panel.act op).Heeded := Iff.rfl
  rw [hact]
  -- only a submission could be turned away, and this one is due
  cases intent with
  | browse url => cases hop
  | navigate screen => cases hop; exact .bind_pure (a.panel.heeded_navigate screen) _
  | submit w => cases hop; exact .bind_pure (Panel.heeded_submit (h.mp rfl).ready) _
  | reset w => cases hop; exact .bind_pure (a.panel.heeded_reset w) _
  | copy target => cases hop; exact .bind_pure (a.panel.heeded_copy target) _
  | toggleReveal => cases hop; exact heeded_pure _
  | selectExample index => cases hop; exact heeded_pure _

/-- What is delivered is seen in the panel, the background and the browser. -/
theorem Delivers.congr {b c : App} {before : Widget} {title : String} {intent : Intent}
    (h : Delivers a b before title intent) (hpanel : c.panel = b.panel)
    (hbackground : c.background = b.background) (hopened : c.opened = b.opened) :
    Delivers a c before title intent := by
  unfold Delivers
  rw [hpanel, hbackground, hopened]
  exact h

/-! ### Frames with one click -/

/-- **Clicks deliver.** In a frame with one click on a button, after all that is typed in it: if the
button is enabled, then what it promises is done at the end of the frame, and no submission was
turned away without the user being told. If it is switched off and submits a form, then to submit
it would send nothing. -/
theorem clicks_deliver {app : App} {now : Nat} {edits : List (Field × String)} {place : Nat}
    {title : String} {enabled : Bool} {intent : Intent}
    (h : (app.frame now ⟨edits, [place]⟩).2.widgets[place]?
      = some (.button title enabled intent)) :
    (enabled = true →
      (∃ before, (app.frame now ⟨edits, [place]⟩).2.widgets[place - 1]? = some before ∧
        Delivers (app.edited edits) (app.frame now ⟨edits, [place]⟩).1 before title intent) ∧
      ∀ op, operation? intent = some op → ((app.edited edits).panel.step op).Heeded) ∧
    (enabled = false → ∀ w, intent = .submit w →
      ((app.edited edits).panel.submit w).value.2 = none) := by
  have hshown : (app.edited edits).panel.widgets[place]? = some (.button title enabled intent) := h
  obtain ⟨before, hbefore, hhonest⟩ := Panel.honest_at hshown
  constructor
  · -- the click is the one intent of the frame, so that what it does is seen at the end of it
    rintro rfl
    have hintents : intents (app.edited edits).panel.widgets [place] = [intent] := by
      simp [intents, hshown, Widget.intent?]
    have hframe : (app.frame now ⟨edits, [place]⟩).1
        = (((intents (app.edited edits).panel.widgets [place]).foldl handle
            (app.edited edits)).collect now).prune now := rfl
    refine ⟨⟨before, hbefore, ?_⟩, fun op hop => heeded_handle hhonest hop⟩
    rw [hframe, hintents]
    exact (delivers_handle hhonest).congr rfl rfl rfl
  · -- a submission that would send something is offered
    rintro rfl w rfl
    rw [Option.eq_none_iff_forall_ne_some]
    intro d hd
    exact absurd (hhonest.mpr (Panel.submittable_of_sends hd)) Bool.false_ne_true

/-- An application that shows a wallet whose key is masked. -/
def maskedWallet : App where
  backend := .standard
  panel := { Panel.start with
    screen := .createWallet
    createWallet := ⟨"Main", false,
      ⟨.succeeded ⟨⟨"Main", ⟨Vector.replicate 20 0⟩, none⟩, ⟨"0xabc"⟩⟩, 1⟩⟩ }
  collected := 0
  toasts := []
  background := .idle
  opened := []

/-- The button beside the mask copies the key. -/
theorem maskedWallet_delivers :
    (maskedWallet.frame 0 ⟨[], [18]⟩).2.widgets[18]?
      = some (.button "📋" true (.copy .createdPrivateKey)) ∧
    (maskedWallet.frame 0 ⟨[], [18]⟩).2.widgets[16]? = some (.label PrivateKey.mask) ∧
    (maskedWallet.frame 0 ⟨[], [18]⟩).1.background
      = Background.idle.startCopy ⟨.createdPrivateKey, "0xabc"⟩ := by
  have h : (maskedWallet.frame 0 ⟨[], [18]⟩).2.widgets[18]?
      = some (.button "📋" true (.copy .createdPrivateKey)) := rfl
  obtain ⟨⟨-, -, key, hkey, hcopied⟩, -⟩ := (clicks_deliver h).1 rfl
  cases hkey
  exact ⟨h, rfl, hcopied⟩

end App

end WalletPanel
