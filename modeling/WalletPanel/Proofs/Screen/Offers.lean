import WalletPanel.App.App
import WalletPanel.Proofs.Panel.Tidy

/-!
# What a screen offers

A screen has inputs for the fields of its own form only, and its buttons ask for nothing that
concerns the form of another screen. This is what `Tidy.step` asks of an operation, here read off
the widgets (`onScreen_widgets`). The lemmas on parts of screens are for `simp`, which takes a
screen apart by them.
-/

namespace WalletPanel

open Panel (Op)

/-- A widget that offers only what concerns the form of a screen. -/
def Widget.OnScreen (s : Screen) : Widget → Prop
  | label _ => True
  | button _ _ intent => ∀ op, App.operation? intent = some op → op.OnScreen s
  | input field _ _ => field.screen = s

/-- A row of such widgets. -/
def View.OnScreen (s : Screen) (l : List Widget) : Prop := ∀ x ∈ l, x.OnScreen s

namespace View

variable {s : Screen}

/-! ### Rows of widgets -/

@[simp] theorem onScreen_nil : OnScreen s [] := List.forall_mem_nil _

@[simp] theorem onScreen_cons {x : Widget} {l : List Widget} :
    OnScreen s (x :: l) ↔ x.OnScreen s ∧ OnScreen s l :=
  List.forall_mem_cons

@[simp] theorem onScreen_append {l m : List Widget} :
    OnScreen s (l ++ m) ↔ OnScreen s l ∧ OnScreen s m :=
  List.forall_mem_append

/-- A row that is put together from rows that are all on the screen. -/
theorem onScreen_flatMap {f : α → List Widget} {l : List α} (h : ∀ a ∈ l, OnScreen s (f a)) :
    OnScreen s (l.flatMap f) := by
  intro x hx
  obtain ⟨a, ha, hx⟩ := List.mem_flatMap.mp hx
  exact h a ha x hx

/-- A row of widgets that are all on the screen. -/
theorem onScreen_map {f : α → Widget} {l : List α} (h : ∀ a ∈ l, (f a).OnScreen s) :
    OnScreen s (l.map f) := by
  intro x hx
  obtain ⟨a, ha, rfl⟩ := List.mem_map.mp hx
  exact h a ha

/-! ### Widgets -/

@[simp] theorem onScreen_label (text : String) : (Widget.label text).OnScreen s := trivial

@[simp] theorem onScreen_input {field : Field} {text : String} {enabled : Bool} :
    (Widget.input field text enabled).OnScreen s ↔ field.screen = s :=
  Iff.rfl

/-- A button is on a screen if what it asks for is. -/
theorem onScreen_button {text : String} {enabled : Bool} {intent : Intent} (op : Op)
    (h : App.operation? intent = some op) :
    (Widget.button text enabled intent).OnScreen s ↔ op.OnScreen s := by
  constructor
  · exact fun hb => hb op h
  · intro hop op' h'
    rw [h] at h'
    cases h'
    exact hop

/-- A link to a screen is on every screen. -/
@[simp] theorem onScreen_navigate {text : String} {enabled : Bool} {target : Screen} :
    (Widget.button text enabled (.navigate target)).OnScreen s :=
  (onScreen_button (.navigate target) rfl).mpr trivial

/-- A copy is asked for on every screen. -/
@[simp] theorem onScreen_copy {text : String} {enabled : Bool} {target : CopyTarget} :
    (Widget.button text enabled (.copy target)).OnScreen s :=
  (onScreen_button (.copy target) rfl).mpr trivial

/-- A link to a page leads out of the panel, and asks for nothing. -/
@[simp] theorem onScreen_browse {text url : String} {enabled : Bool} :
    (Widget.button text enabled (.browse url)).OnScreen s := by
  intro op h
  cases h

/-- A form is submitted on its own screen. -/
@[simp] theorem onScreen_submit {text : String} {enabled : Bool} {w : WorkflowId} :
    (Widget.button text enabled (.submit w)).OnScreen s ↔ w = s.workflow :=
  onScreen_button (.submit w) rfl

/-- A form is reset on its own screen, and the list on none. -/
@[simp] theorem onScreen_reset {text : String} {enabled : Bool} {w : WorkflowId} :
    (Widget.button text enabled (.reset w)).OnScreen s ↔ w = s.workflow ∧ w ≠ .walletList :=
  onScreen_button (.reset w) rfl

/-- A key is uncovered where a wallet is created. -/
@[simp] theorem onScreen_toggleReveal {text : String} {enabled : Bool} :
    (Widget.button text enabled .toggleReveal).OnScreen s ↔ s = .createWallet :=
  onScreen_button .toggleReveal rfl

/-- An example is taken where a contract is described. -/
@[simp] theorem onScreen_selectExample {text : String} {enabled : Bool} {index : Nat} :
    (Widget.button text enabled (.selectExample index)).OnScreen s ↔ s = .contractWriter :=
  onScreen_button (.selectExample index) rfl

/-! ### Parts of screens -/

@[simp] theorem onScreen_header : OnScreen s header :=
  onScreen_cons.mpr ⟨onScreen_label _, onScreen_map fun _ _ => onScreen_navigate⟩

@[simp] theorem onScreen_addressRow (address : Address) (target : CopyTarget) :
    OnScreen s (addressRow address target) := by
  simp [addressRow]

/-- A field with its caption is on the screen that the field is on. -/
@[simp] theorem onScreen_captioned {p : Panel} {field : Field} {enabled : Bool} :
    OnScreen s (captioned p field enabled) ↔ field.screen = s := by
  simp [captioned]

@[simp] theorem onScreen_successNote (text : String) : OnScreen s (successNote text) := by
  simp [successNote]

@[simp] theorem onScreen_warningNote (text : String) : OnScreen s (warningNote text) := by
  simp [warningNote]

@[simp] theorem onScreen_busyNote (isBusy : Bool) (text : String) :
    OnScreen s (busyNote isBusy text) := by
  unfold busyNote
  split <;> simp

@[simp] theorem onScreen_code (text : String) : OnScreen s (code text) := by
  simp [code]

@[simp] theorem onScreen_tokenPreview (t : TokenPreview) : OnScreen s (tokenPreview t) :=
  onScreen_append.mpr ⟨by simp, onScreen_map fun _ _ => onScreen_label _⟩

@[simp] theorem onScreen_keyRow (f : CreateForm) : OnScreen .createWallet (keyRow f) := by
  unfold keyRow
  split <;> simp

@[simp] theorem onScreen_exampleLinks (enabled : Bool) (index : Nat) (texts : List String) :
    OnScreen .contractWriter (exampleLinks enabled index texts) := by
  -- the links have consecutive numbers, so that the number is left open
  induction texts generalizing index with
  | nil => exact onScreen_nil
  | cons text texts ih => exact onScreen_cons.mpr ⟨onScreen_selectExample.mpr rfl, ih _⟩

@[simp] theorem onScreen_listedWallets (index : Nat) (ws : List WalletRecord) :
    OnScreen s (listedWallets index ws) := by
  induction ws generalizing index with
  | nil => exact onScreen_nil
  | cons w ws ih =>
    -- a wallet has labels, and a button that copies its address
    have hw : OnScreen s (listedWallet index w) := by
      simp only [listedWallet, List.cons_append, onScreen_cons, onScreen_label, onScreen_append,
        onScreen_addressRow, true_and, and_true]
      exact onScreen_map fun _ _ => onScreen_label _
    exact onScreen_append.mpr ⟨hw, ih _⟩

/-! ### The screens -/

/-- The dashboard loads the list, and leads to the other screens. -/
theorem onScreen_dashboard (p : Panel) : OnScreen .dashboard (dashboard p) := by
  have hlist : OnScreen .dashboard (if p.walletList.isLoading then [.label "Loading wallets..."]
      else if p.walletList.wallets.isEmpty then
        [.label "No wallets yet. Create or import one to get started."]
      else listedWallets 0 p.walletList.wallets) := by
    split
    · simp
    · split <;> simp
  unfold dashboard
  refine onScreen_append.mpr ⟨onScreen_append.mpr ⟨onScreen_append.mpr ⟨?_, ?_⟩, ?_⟩, hlist⟩
  · simp
  · -- one button for each other screen, with what it is for
    exact onScreen_flatMap fun _ _ => by simp
  · simp [Screen.workflow]

/-- The form that creates wallets, or the wallet that it has created. -/
theorem onScreen_createWallet (p : Panel) : OnScreen .createWallet (createWallet p) := by
  unfold createWallet
  -- below the title stands either the result or the form
  refine onScreen_append.mpr ⟨by simp, ?_⟩
  split <;> simp [Screen.workflow, Field.screen]

/-- The form that imports wallets, or the wallet that it has imported. -/
theorem onScreen_importWallet (p : Panel) : OnScreen .importWallet (importWallet p) := by
  unfold importWallet
  refine onScreen_append.mpr ⟨by simp, ?_⟩
  split <;> simp [Screen.workflow, Field.screen]

/-- The token form with its preview, or the contract of the token. -/
theorem onScreen_tokenCreator (p : Panel) : OnScreen .tokenCreator (tokenCreator p) := by
  unfold tokenCreator
  refine onScreen_append.mpr ⟨by simp, ?_⟩
  split <;> simp [Screen.workflow, Field.screen]

/-- The form for contracts with its examples, or the contract. -/
theorem onScreen_contractWriter (p : Panel) : OnScreen .contractWriter (contractWriter p) := by
  unfold contractWriter
  refine onScreen_append.mpr ⟨by simp, ?_⟩
  split <;> simp [Screen.workflow, Field.screen]

end View

/-- **What is shown concerns the form that is shown.** -/
theorem Panel.onScreen_widgets (p : Panel) : View.OnScreen p.screen p.widgets := by
  -- the header leads to every screen, which is on any screen
  refine View.onScreen_append.mpr ⟨View.onScreen_header, ?_⟩
  cases p.screen with
  | dashboard => exact View.onScreen_dashboard p
  | createWallet => exact View.onScreen_createWallet p
  | importWallet => exact View.onScreen_importWallet p
  | tokenCreator => exact View.onScreen_tokenCreator p
  | contractWriter => exact View.onScreen_contractWriter p

end WalletPanel
