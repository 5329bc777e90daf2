import Mathlib.Data.List.Forall2
import WalletPanel.Proofs.Panel.Keys
import WalletPanel.Screen.View

/-!
# What shows of keys on a screen

Panels that are the same but for keys show the same, as long as no key is in sight
(`alike_widgets`).
Of the key of a created wallet the screen reads whether there is one. Of what is typed as a key it
reads how long it is, which is how many dots stand for it, and whether there is something to read in
it, which is whether the form can be submitted. The latter is not seen, since a button that is
switched off has the same text; but it decides what a click asks for. So widgets are compared by
`Widget.Alike`.
-/

namespace WalletPanel

open Panel (SameButKeys)

/-- Texts of the same length. -/
def Text.SameLength (s t : String) : Prop := s.length = t.length

/-- A text is as long as itself. -/
theorem Text.sameLength_refl (s : String) : SameLength s s := rfl

/-- Widgets that look alike in two panels which are the same but for keys: they are the same, or the
two keys stand in them, or they submit the two keys. -/
inductive Widget.Alike (p q : Panel) : Widget → Widget → Prop
  | same (x : Widget) : Alike p q x x
  | key {s t : String} (enabled : Bool) (h : Text.SameLength s t) :
    Alike p q (.input .importKey s enabled) (.input .importKey t enabled)
  | submit (title : String) {b c : Bool}
    (h : Text.allBlank p.importWallet.key = Text.allBlank q.importWallet.key → b = c) :
    Alike p q (.button title b (.submit .importWallet)) (.button title c (.submit .importWallet))

namespace Widget.Alike

variable {p q : Panel} {x y : Widget}

/-- Alike widgets are shown as the same text: dots for a key, and the title for a button. -/
theorem shown (h : Alike p q x y) : x.shown = y.shown := by
  cases h with
  | same => rfl
  | key enabled h => exact Field.shown_importKey_of_length_eq h
  | submit => rfl

/-- They take the same edits. -/
theorem edits (h : Alike p q x y) (field : Field) : x.edits field = y.edits field := by
  cases h <;> rfl

/-- If the panels agree on whether a key is typed, then alike widgets ask for the same. -/
theorem intent? (h : Alike p q x y)
    (hkey : Text.allBlank p.importWallet.key = Text.allBlank q.importWallet.key) :
    x.intent? = y.intent? := by
  cases h with
  | same => rfl
  | key => rfl
  | submit title h => rw [h hkey]

/-- A row of widgets looks like itself. -/
theorem refl (l : List Widget) : List.Forall₂ (Alike p q) l l :=
  List.forall₂_same.mpr fun x _ => .same x

end Widget.Alike

/-! ### The form that creates a wallet -/

namespace CreateForm

variable {f g : CreateForm}

/-- What is shown of a new wallet has no key in it. -/
theorem created?_censored (f : CreateForm) : f.censored.created? = f.created? := by
  have hvalue : f.censored.workflow.state.value?
      = f.workflow.state.value?.map CreatedWallet.censored := f.workflow.state.value?_map _
  rw [created?, created?, hvalue, Option.map_map]
  rfl

/-- A form without a key in sight shows whether it has a key, and no more of it. -/
theorem keyDisplay?_of_not_bare (h : ¬ f.Bare) :
    f.keyDisplay? = if f.privateKey?.isSome then some PrivateKey.mask else none := by
  unfold keyDisplay?
  cases hkey : f.privateKey? with
  | none => rfl
  | some key =>
    -- there is a wallet with the key, so that only the mask can hide it
    have hmasked : f.revealed ≠ true := by
      intro hrevealed
      refine h ⟨?_, hrevealed⟩
      rw [privateKey?, Option.map_eq_some_iff] at hkey
      obtain ⟨wallet, hwallet, -⟩ := hkey
      rw [created?, hwallet]
      rfl
    rw [Option.map_some, if_neg hmasked]
    rfl

/-- The row of the key is the same while the key is masked. -/
theorem keyRow_eq (h : f.censored = g.censored) (hf : ¬ f.Bare) :
    View.keyRow f = View.keyRow g := by
  have hrevealed : f.revealed = g.revealed := (congrArg CreateForm.revealed h :)
  -- the other form does not show its key either
  have hg : ¬ g.Bare := by
    rintro ⟨hthere, hbare⟩
    refine hf ⟨?_, hrevealed.trans hbare⟩
    rw [← created?_censored, h, created?_censored]
    exact hthere
  have hsome : f.privateKey?.isSome = g.privateKey?.isSome := by
    rw [← isSome_privateKey?_censored, h, isSome_privateKey?_censored]
  unfold View.keyRow
  rw [keyDisplay?_of_not_bare hf, keyDisplay?_of_not_bare hg, hsome, hrevealed]

end CreateForm

/-! ### The screens -/

namespace Panel.SameButKeys

variable {p q : Panel}

/-- The dashboard shows the list. -/
theorem view_dashboard (h : p.SameButKeys Text.SameLength q) :
    View.dashboard p = View.dashboard q := by
  unfold View.dashboard
  rw [h.walletList]

/-- The screen of a new wallet is the same while the key is masked. -/
theorem view_createWallet (h : p.SameButKeys Text.SameLength q) (hbare : ¬ p.createWallet.Bare) :
    View.createWallet p = View.createWallet q := by
  have hname : p.createWallet.name = q.createWallet.name :=
    (congrArg CreateForm.name h.createWallet :)
  have hcreated : p.createWallet.created? = q.createWallet.created? := by
    rw [← CreateForm.created?_censored, h.createWallet, CreateForm.created?_censored]
  have hbusy : p.createWallet.workflow.state.isSubmitting
      = q.createWallet.workflow.state.isSubmitting := by
    -- that a form is busy can be seen of it when it is censored
    have hcensored : ∀ f : CreateForm,
        f.censored.workflow.state.isSubmitting = f.workflow.state.isSubmitting :=
      fun f => f.workflow.state.isSubmitting_map _
    rw [← hcensored, h.createWallet, hcensored]
  have hsubmit : p.createWallet.canSubmit = q.createWallet.canSubmit := by
    rw [CreateForm.canSubmit, CreateForm.canSubmit, hbusy, hname]
  have hcaptioned : View.captioned p .createName = View.captioned q .createName := by
    funext enabled
    rw [View.captioned, View.captioned, fieldText, fieldText, hname]
  unfold View.createWallet
  dsimp only
  rw [hcreated, hbusy, hsubmit, hcaptioned, CreateForm.keyRow_eq h.createWallet hbare]

/-- The token form has no key in it. -/
theorem view_tokenCreator (h : p.SameButKeys Text.SameLength q) :
    View.tokenCreator p = View.tokenCreator q := by
  -- the fields have the texts of the form, which is the same
  have hcaptioned : ∀ enabled,
      [Field.tokenName, .tokenSymbol, .tokenSupply, .tokenDecimals].flatMap
          (View.captioned p · enabled)
        = [Field.tokenName, .tokenSymbol, .tokenSupply, .tokenDecimals].flatMap
          (View.captioned q · enabled) := by
    intro enabled
    simp only [List.flatMap_cons, List.flatMap_nil, View.captioned, fieldText, h.tokenCreator]
  unfold View.tokenCreator
  dsimp only
  rw [hcaptioned, h.tokenCreator]

/-- Neither has the form for contracts. -/
theorem view_contractWriter (h : p.SameButKeys Text.SameLength q) :
    View.contractWriter p = View.contractWriter q := by
  unfold View.contractWriter
  rw [h.contractWriter]

/-- The form that imports wallets shows the key by dots, and its button looks the same. -/
theorem view_importWallet (h : p.SameButKeys Text.SameLength q) :
    List.Forall₂ (Widget.Alike p q) (View.importWallet p) (View.importWallet q) := by
  have hworkflow : p.importWallet.workflow = q.importWallet.workflow := h.importWallet.workflow
  have hname : p.importWallet.name = q.importWallet.name := h.importWallet.name
  have hsubmit : Text.allBlank p.importWallet.key = Text.allBlank q.importWallet.key →
      p.importWallet.canSubmit = q.importWallet.canSubmit := by
    intro hkey
    rw [ImportForm.canSubmit, ImportForm.canSubmit, ImportForm.hasKey, ImportForm.hasKey, hkey,
      hworkflow, hname]
  unfold View.importWallet ImportForm.imported?
  dsimp only
  rw [hworkflow]
  refine List.rel_append (Widget.Alike.refl _) ?_
  split
  · exact Widget.Alike.refl _
  · -- the form has the two keys in it, and the button that submits them
    have hkey : List.Forall₂ (Widget.Alike p q)
        (View.captioned p .importKey (!q.importWallet.workflow.state.isSubmitting))
        (View.captioned q .importKey (!q.importWallet.workflow.state.isSubmitting)) :=
      .cons (.same _) (.cons (.key _ h.importWallet.key) .nil)
    have hrest : View.captioned p .importName = View.captioned q .importName := by
      funext enabled
      rw [View.captioned, View.captioned, fieldText, fieldText, hname]
    rw [hrest]
    exact List.rel_append
      (List.rel_append (List.rel_append hkey (Widget.Alike.refl _)) (Widget.Alike.refl _))
      (.cons (.submit _ hsubmit) (Widget.Alike.refl _))

/-- **No key shows.** Panels that are the same but for keys show widgets that look alike, as long as
no key is in sight. -/
theorem alike_widgets (h : p.SameButKeys Text.SameLength q) (hidden : ¬ p.KeyInSight) :
    List.Forall₂ (Widget.Alike p q) p.widgets q.widgets := by
  refine List.rel_append (Widget.Alike.refl _) ?_
  -- both panels show the same screen, below the same header
  rw [← h.screen]
  cases hs : p.screen with
  | dashboard =>
    rw [Screen.widgets, Screen.widgets, h.view_dashboard]
    exact Widget.Alike.refl _
  | createWallet =>
    have hbare : ¬ p.createWallet.Bare := fun hb => hidden ⟨hs, hb⟩
    rw [Screen.widgets, Screen.widgets, h.view_createWallet hbare]
    exact Widget.Alike.refl _
  | importWallet => exact h.view_importWallet
  | tokenCreator =>
    rw [Screen.widgets, Screen.widgets, h.view_tokenCreator]
    exact Widget.Alike.refl _
  | contractWriter =>
    rw [Screen.widgets, Screen.widgets, h.view_contractWriter]
    exact Widget.Alike.refl _

/-- What is the same in widgets that look alike is the same all over the screen. -/
theorem map_widgets {γ : Type} (h : p.SameButKeys Text.SameLength q) (hidden : ¬ p.KeyInSight)
    {f : Widget → γ} (hf : ∀ x y, Widget.Alike p q x y → f x = f y) :
    p.widgets.map f = q.widgets.map f := by
  rw [← List.forall₂_eq_eq_eq, List.forall₂_map_left_iff, List.forall₂_map_right_iff]
  exact (h.alike_widgets hidden).imp hf

/-- At a place of the screen stand widgets that look alike, or none at all. -/
theorem alike_at (h : p.SameButKeys Text.SameLength q) (hidden : ¬ p.KeyInSight) (place : Nat) :
    p.widgets[place]? = none ∧ q.widgets[place]? = none ∨
      ∃ x y, p.widgets[place]? = some x ∧ q.widgets[place]? = some y ∧ Widget.Alike p q x y := by
  have halike := h.alike_widgets hidden
  by_cases hp : place < p.widgets.length
  · have hq : place < q.widgets.length := halike.length_eq ▸ hp
    exact .inr ⟨_, _, List.getElem?_eq_getElem hp, List.getElem?_eq_getElem hq, halike.get hp hq⟩
  · have hq : ¬ place < q.widgets.length := halike.length_eq ▸ hp
    exact .inl ⟨List.getElem?_eq_none (Nat.le_of_not_lt hp),
      List.getElem?_eq_none (Nat.le_of_not_lt hq)⟩

end Panel.SameButKeys

end WalletPanel
