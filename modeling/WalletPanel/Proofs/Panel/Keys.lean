import WalletPanel.Proofs.Panel.Alone
import WalletPanel.Proofs.Panel.Censored
import WalletPanel.Proofs.Panel.Reveals
import WalletPanel.Proofs.Panel.Submissions

/-!
# Panels that differ in keys

Two panels are the same but for keys (`Panel.SameButKeys`) if they differ in nothing but the key of
the wallet that was created and what is typed as the key of a wallet to be imported. How close the
typed keys are is left open: they are `near`, which every key is to itself.

Operations keep panels the same but for keys (`SameButKeys.next`), with one proviso. A submission of
the form that imports a wallet looks at whether a key is typed, so that the two panels have to
agree on that when one is made. What an operation does is followed form by form: a form that holds
no key is the same in both panels, and stays so because it takes the same command.

A key is in sight (`Panel.KeyInSight`) where the screen shows it. Nothing but going to that screen
or uncovering the key brings it into sight (`keyInSight_of_next`).
-/

namespace WalletPanel

open Panel (Op)

/-- Forms that are the same but for what is typed as the key. -/
structure ImportForm.SameButKey (near : String → String → Prop) (f g : ImportForm) : Prop where
  name : f.name = g.name
  key : near f.key g.key
  workflow : f.workflow = g.workflow

/-- Panels that are the same but for keys. What is typed as a key in one of them is `near` to what
is typed in the other one. -/
structure Panel.SameButKeys (near : String → String → Prop) (p q : Panel) : Prop where
  screen : p.screen = q.screen
  createWallet : p.createWallet.censored = q.createWallet.censored
  importWallet : p.importWallet.SameButKey near q.importWallet
  walletList : p.walletList = q.walletList
  tokenCreator : p.tokenCreator = q.tokenCreator
  contractWriter : p.contractWriter = q.contractWriter
  notices : p.notices = q.notices

/-! ### The form that creates a wallet -/

namespace CreateForm

/-- What a command makes of a form can be told from the censored form, but for the key. -/
theorem obey_censored {f g : CreateForm} (h : f.censored = g.censored)
    (c : Command .createWallet) :
    CreateForm.censored (c.obey f).1 = CreateForm.censored (c.obey g).1 := by
  -- each command can be done to the censored form with the same outcome
  cases c with
  | submit =>
    have hs : ∀ f : CreateForm, f.submit.value.1.censored = f.censored.submit.value.1 := by
      intro f
      rw [f.submit_censored]
      rfl
    change f.submit.value.1.censored = g.submit.value.1.censored
    rw [hs, hs, h]
  | complete ticket result =>
    have hc : ∀ f : CreateForm, (f.complete ticket result).value.1.censored
        = (f.censored.complete ticket (result.map CreatedWallet.censored)).value.1 := by
      intro f
      rw [f.complete_censored]
      rfl
    change (f.complete ticket result).value.1.censored = (g.complete ticket result).value.1.censored
    rw [hc, hc, h]
  | reset =>
    have hr : ∀ f : CreateForm, f.reset.value.censored = f.censored.reset.value := by
      intro f
      rw [f.reset_censored]
      rfl
    change f.reset.value.censored = g.reset.value.censored
    rw [hr, hr, h]
  | edit field text =>
    have he : ∀ f : CreateForm, CreateForm.censored (WorkflowId.createWallet.editForm f field text)
        = WorkflowId.createWallet.editForm f.censored field text := by
      intro f
      cases field <;> rfl
    change CreateForm.censored (WorkflowId.createWallet.editForm f field text)
      = CreateForm.censored (WorkflowId.createWallet.editForm g field text)
    rw [he, he, h]
  | toggleReveal =>
    change f.toggleReveal.censored = g.toggleReveal.censored
    rw [← f.toggleReveal_censored, ← g.toggleReveal_censored, h]

/-- A wallet is shown just when the form holds one. -/
theorem isSome_created? (f : CreateForm) : f.created?.isSome = f.held?.isSome :=
  Option.isSome_map

/-- Whether a form shows its key. -/
def Bare (f : CreateForm) : Prop := f.created?.isSome = true ∧ f.revealed = true

/-- Only the user uncovers a key: a new wallet is masked, and every other command gives the wallet
up or leaves the mask as it is. -/
theorem bare_of_obey {f : CreateForm} {c : Command .createWallet} (hc : c ≠ .toggleReveal)
    (h : CreateForm.Bare (c.obey f).1) : f.Bare := by
  obtain ⟨hthere, hrevealed⟩ := h
  cases f.turn_obey c with
  | brings _ _ _ _ _ hmasked => exact absurd hrevealed (Bool.eq_false_iff.mp hmasked)
  | keeps _ hheld hmask =>
    -- without a toggle the mask is what it was
    have hturn : c.isToggle = false := by
      cases c with
      | toggleReveal => exact absurd rfl hc
      | _ => rfl
    rw [hturn, Bool.false_and, Bool.xor_false] at hmask
    rw [isSome_created?, hheld, ← isSome_created?] at hthere
    exact ⟨hthere, hmask.symm.trans hrevealed⟩
  | drops _ _ hmasked => exact absurd hrevealed (Bool.eq_false_iff.mp hmasked)

end CreateForm

/-! ### The form that imports a wallet -/

namespace ImportForm

/-- A form takes a command in the same way whatever is typed as the key, if it is not a submission
for which it matters whether a key is typed. -/
theorem SameButKey.obey {near : String → String → Prop} (hnear : ∀ key, near key key)
    {f g : ImportForm} (h : f.SameButKey near g) {c : Command .importWallet}
    (hc : c = .submit → Text.allBlank f.key = Text.allBlank g.key) :
    ImportForm.SameButKey near (c.obey f).1 (c.obey g).1 := by
  obtain ⟨name, key, workflow⟩ := f
  obtain ⟨name', key', workflow'⟩ := g
  obtain ⟨rfl, hkey, rfl⟩ := h
  -- a key is looked at when it is submitted, and goes when a wallet has been imported
  cases c with
  | submit =>
    have hcensored : (ImportForm.mk name key workflow).censored
        = (ImportForm.mk name key' workflow).censored := by
      have hblank : Text.allBlank key = Text.allBlank key' := hc rfl
      unfold censored censoredText
      rw [hblank]
    have hs : ∀ f : ImportForm, f.submit.value.1.workflow = f.censored.submit.value.1.workflow := by
      intro f
      rw [f.submit_censored]
      rfl
    refine ⟨rfl, hkey, ?_⟩
    change (submit ⟨name, key, workflow⟩).value.1.workflow
      = (submit ⟨name, key', workflow⟩).value.1.workflow
    rw [hs ⟨name, key, workflow⟩, hs ⟨name, key', workflow⟩, hcensored]
  | complete ticket result =>
    have hvalue : ∀ k, (complete ⟨name, k, workflow⟩ ticket result).value.1.key
        = if workflow.resolution ticket result = .succeeded then "" else k := by
      intro k
      unfold complete
      rw [Traced.value_bind, value_settle]
      rfl
    refine ⟨rfl, ?_, rfl⟩
    change near (complete ⟨name, key, workflow⟩ ticket result).value.1.key
      (complete ⟨name, key', workflow⟩ ticket result).value.1.key
    rw [hvalue, hvalue]
    split
    · exact hnear ""
    · exact hkey
  | reset => exact ⟨rfl, hnear "", rfl⟩
  | edit field text =>
    cases field with
    | importName => exact ⟨rfl, hkey, rfl⟩
    | importKey => exact ⟨rfl, hnear text, rfl⟩
    | _ => exact ⟨rfl, hkey, rfl⟩

end ImportForm

/-! ### Panels -/

namespace Panel

variable {near : String → String → Prop} {p q : Panel} {op : Op}

/-- A command is an uncovering of the key only if the operation is one. -/
theorem eq_toggleReveal_of_command? {s : Screen}
    (h : op.command? s .createWallet = some .toggleReveal) : op = .toggleReveal := by
  -- no other operation becomes a toggle
  cases op with
  | toggleReveal => rfl
  | start => simp [Op.command?] at h
  | navigate target =>
    simp only [Op.command?] at h
    split at h
    · cases h
    · simp at h
  | submit v => cases v <;> cases h
  | edit field text => cases field <;> cases h
  | reset v => cases v <;> cases h
  | apply c =>
    obtain ⟨r, -, hc⟩ := Option.map_eq_some_iff.mp h
    cases hc
  | _ => cases h

namespace SameButKeys

/-- The workflows of forms that hold no keys are the same. -/
theorem workflow (h : p.SameButKeys near q) {w : WorkflowId} (hw : w ≠ .createWallet) :
    p.workflow w = q.workflow w := by
  cases w with
  | createWallet => exact absurd rfl hw
  | importWallet => exact h.importWallet.workflow
  | walletList => exact congrArg WalletList.workflow h.walletList
  | tokenCreator => exact congrArg TokenForm.workflow h.tokenCreator
  | contractWriter => exact congrArg ContractForm.workflow h.contractWriter

/-- The workflows that create a wallet are the same but for the key. -/
theorem workflow_censored (h : p.SameButKeys near q) :
    (p.workflow .createWallet).map CreatedWallet.censored
      = (q.workflow .createWallet).map CreatedWallet.censored :=
  congrArg CreateForm.workflow h.createWallet

/-- Keys that are nearer than they have to be. -/
theorem mono {near' : String → String → Prop} (h : p.SameButKeys near q)
    (hle : ∀ s t, near s t → near' s t) : p.SameButKeys near' q :=
  { h with importWallet := { h.importWallet with key := hle _ _ h.importWallet.key } }

/-- All workflows are in the same phase. -/
theorem phase (h : p.SameButKeys near q) (w : WorkflowId) :
    (p.workflow w).phase = (q.workflow w).phase := by
  by_cases hw : w = .createWallet
  · subst hw
    rw [← Workflow.phase_map (f := CreatedWallet.censored), h.workflow_censored,
      Workflow.phase_map]
  · rw [h.workflow hw]

/-- They wait for the same completions. -/
theorem awaits_iff (h : p.SameButKeys near q) (w : WorkflowId) (ticket : UInt64) :
    (p.workflow w).Awaits ticket ↔ (q.workflow w).Awaits ticket := by
  by_cases hw : w = .createWallet
  · -- what is waited for is a matter of the generation and the phase, not of the value
    subst hw
    have hmap : ∀ w : Workflow CreatedWallet,
        (w.map CreatedWallet.censored).Awaits ticket ↔ w.Awaits ticket := by
      intro w
      rw [← Workflow.awaits_iff, ← Workflow.awaits_iff, Workflow.map,
        WorkflowState.isSubmitting_map]
    rw [← hmap, h.workflow_censored, hmap]
  · rw [h.workflow hw]

/-- The user is told the same, if a submission finds a key in both panels or in neither. -/
theorem told (h : p.SameButKeys near q)
    (hop : op = .submit .importWallet →
      Text.allBlank p.importWallet.key = Text.allBlank q.importWallet.key) :
    p.told op = q.told op := by
  cases op with
  | submit w =>
    -- of all checks only that of the typed key looks at a key
    have hchecks : p.checks w = q.checks w := by
      cases w with
      | createWallet =>
        have hname : p.createWallet.name = q.createWallet.name :=
          (congrArg CreateForm.name h.createWallet :)
        rw [checks, checks, hname]
      | importWallet => rw [checks, checks, hop rfl, h.importWallet.name]
      | walletList => rfl
      | tokenCreator => rw [checks, checks, h.tokenCreator]
      | contractWriter => rw [checks, checks, h.contractWriter]
    rw [Panel.told, Panel.told, h.phase, fault?, fault?, hchecks]
  | apply c =>
    have hresolution : (p.apply c).value.2 = (q.apply c).value.2 := by
      cases hr : c.result? c.workflow with
      | none => rw [apply_eq_misrouted hr, apply_eq_misrouted hr]; rfl
      | some r =>
        rw [apply_eq_complete hr, apply_eq_complete hr, resolution_complete, resolution_complete]
        unfold Workflow.resolution
        simp only [h.awaits_iff]
    have ht : ∀ p : Panel, p.told (.apply c)
        = ((outcome c.workflow).notice? (p.apply c).value.2).toList := fun _ => rfl
    rw [ht, ht, hresolution]
  | _ => rfl

/-- **Operations do not tell keys apart.** -/
theorem next (hnear : ∀ key, near key key) (h : p.SameButKeys near q)
    (hop : op = .submit .importWallet →
      Text.allBlank p.importWallet.key = Text.allBlank q.importWallet.key) :
    (p.next op).SameButKeys near (q.next op) := by
  -- each form takes the same command in both panels
  have hcommand : ∀ w, (q.next op).form w
      = ((op.command? p.screen w).map fun c => (c.obey (q.form w)).1).getD (q.form w) := by
    intro w
    rw [h.screen]
    exact (agrees q op w).form
  have hkeyless : ∀ w, p.form w = q.form w → (p.next op).form w = (q.next op).form w := by
    intro w hw
    rw [(agrees p op w).form, hcommand, hw]
  refine ⟨?_, ?_, ?_, hkeyless .walletList h.walletList, hkeyless .tokenCreator h.tokenCreator,
    hkeyless .contractWriter h.contractWriter, ?_⟩
  · rw [screen_next_eq_leads, screen_next_eq_leads, h.screen]
  · change CreateForm.censored ((p.next op).form .createWallet)
      = CreateForm.censored ((q.next op).form .createWallet)
    rw [(agrees p op .createWallet).form, hcommand]
    cases op.command? p.screen .createWallet with
    | none => exact h.createWallet
    | some c => exact CreateForm.obey_censored h.createWallet c
  · change ImportForm.SameButKey near ((p.next op).form .importWallet)
      ((q.next op).form .importWallet)
    rw [(agrees p op .importWallet).form, hcommand]
    cases hc : op.command? p.screen .importWallet with
    | none => exact h.importWallet
    | some c =>
      refine h.importWallet.obey hnear fun hsubmit => hop ?_
      rw [hsubmit] at hc
      exact eq_submit_of_command? (by decide) hc
  · rw [notices_next, notices_next, h.notices, h.told hop]

end SameButKeys

/-- A key is in sight if the screen shows it: the screen is that of a wallet that was created, and
its key is uncovered. -/
def KeyInSight (p : Panel) : Prop :=
  p.screen = .createWallet ∧ p.createWallet.created?.isSome = true ∧ p.createWallet.revealed = true

/-- Nothing but to go there or to uncover it brings a key into sight. -/
theorem keyInSight_of_next (hnavigate : ∀ s, op ≠ .navigate s) (htoggle : op ≠ .toggleReveal)
    (h : (p.next op).KeyInSight) : p.KeyInSight := by
  obtain ⟨hscreen, hbare⟩ := h
  -- the screen is the one that was shown before
  have hstays : op.leads p.screen = p.screen := by
    cases op with
    | navigate s => exact absurd rfl (hnavigate s)
    | _ => rfl
  rw [screen_next_eq_leads, hstays] at hscreen
  refine ⟨hscreen, ?_⟩
  change CreateForm.Bare ((p.next op).form .createWallet) at hbare
  rw [(agrees p op .createWallet).form] at hbare
  cases hc : op.command? p.screen .createWallet with
  | none =>
    rw [hc] at hbare
    exact hbare
  | some c =>
    rw [hc] at hbare
    refine CreateForm.bare_of_obey ?_ hbare
    rintro rfl
    exact htoggle (eq_toggleReveal_of_command? hc)

end Panel

end WalletPanel
