import WalletPanel.Proofs.App.Operations
import WalletPanel.Proofs.Screen.Offers

/-!
# What is left behind when a screen is left

As long as the user does one thing at a time (`App.OneByOne`), the forms that are not shown hold
nothing: `offScreen_holds_nothing`. The user can do only what is shown, and what is shown concerns
the form that is shown; so every operation of a frame is one on the screen, and each of them leaves
the panel tidy (`Tidy.step`). What comes from the background may come at any time.

Two intents in one frame would not do: the second one would be carried out after the first may have
led to another screen.
-/

namespace WalletPanel

open Panel (Op)

/-- What comes from the background leaves a tidy panel tidy. -/
theorem Panel.Tidy.after {p : Panel} (ht : p.Tidy) {ops : List Op}
    (hops : ∀ op ∈ ops, op.FromBackground) : (p.after ops).Tidy := by
  induction ops generalizing p with
  | nil => exact ht
  | cons op ops ih =>
    -- what comes from the background is for any screen
    have hop : op.OnScreen p.screen := by
      have hb := hops op List.mem_cons_self
      cases op with
      | apply c => trivial
      | finishCopy o => trivial
      | _ => exact hb.elim
    exact ih (ht.step hop) fun o ho => hops o (List.mem_cons_of_mem op ho)

namespace App

variable {app : App}

/-! ### Gestures -/

/-- An edit goes to a field that is shown. -/
theorem tidy_edit (ht : app.panel.Tidy) (field : Field) (text : String) :
    (app.edit field text).panel.Tidy := by
  unfold edit
  split
  · next h =>
    -- the input that is typed into is a widget of the screen
    obtain ⟨x, hx, hedits⟩ := List.any_eq_true.mp h
    have hon := app.panel.onScreen_widgets x hx
    have hfield : field.screen = app.panel.screen := by
      unfold Widget.edits at hedits
      split at hedits
      · next f _ enabled =>
        rw [Bool.and_eq_true, decide_eq_true_eq] at hedits
        rw [← hedits.1]
        exact hon
      · cases hedits
    rw [panel_act]
    exact ht.step hfield
  · exact ht

/-- Whatever is typed, a tidy panel stays tidy. -/
theorem tidy_edits (ht : app.panel.Tidy) (edits : List (Field × String)) :
    (edits.foldl (fun app (field, text) => app.edit field text) app).panel.Tidy := by
  induction edits generalizing app with
  | nil => exact ht
  | cons e edits ih => exact ih (tidy_edit ht e.1 e.2)

/-- What the user asks for is asked for on the screen. -/
theorem onScreen_of_mem_intents {clicks : List Nat} {i : Intent}
    (h : i ∈ intents app.panel.widgets clicks) {op : Op} (hop : operation? i = some op) :
    op.OnScreen app.panel.screen := by
  obtain ⟨place, -, hplace⟩ := List.mem_filterMap.mp h
  obtain ⟨x, hx, hi⟩ := Option.bind_eq_some_iff.mp hplace
  obtain ⟨text, rfl⟩ := (x.intent?_eq_some_iff i).mp hi
  exact app.panel.onScreen_widgets _ (List.mem_of_getElem? hx) op hop

/-- An intent for the screen that is shown leaves a tidy panel tidy. -/
theorem tidy_handle (ht : app.panel.Tidy) {i : Intent}
    (hi : ∀ op, operation? i = some op → op.OnScreen app.panel.screen) :
    (app.handle i).panel.Tidy := by
  rw [(does_handle app i).panel]
  cases hop : operation? i with
  | none => exact ht
  | some op => exact ht.step (hi op hop)

/-- **A frame with at most one intent** leaves a tidy panel tidy. -/
theorem tidy_frame (ht : app.panel.Tidy) (now : Nat) {g : Gestures}
    (hg : (app.asked g).length ≤ 1) : (app.frame now g).1.panel.Tidy := by
  have hready : app.takeReady.panel.Tidy := by
    rw [(does_takeReady app).panel]
    exact ht.after fun op => fromBackground_of_mem_readyOps
  have hedited : (app.edited g.edits).panel.Tidy := tidy_edits hready g.edits
  have hframe : (app.frame now g).1.panel
      = ((app.asked g).foldl handle (app.edited g.edits)).panel := rfl
  rw [hframe]
  -- the one intent is carried out on the screen that it was clicked on
  cases hasked : app.asked g with
  | nil => exact hedited
  | cons i is =>
    rw [hasked, List.length_cons] at hg
    have hnil : is = [] := List.eq_nil_of_length_eq_zero (by omega)
    subst hnil
    have hmem : i ∈ app.asked g := by
      rw [hasked]
      exact List.mem_cons_self
    exact tidy_handle hedited fun op hop => onScreen_of_mem_intents hmem hop

/-! ### Runs -/

/-- In each frame of a run the user asks for one thing at most. -/
def OneByOne (app : App) : List Event → Prop
  | [] => True
  | .frame now g :: es => (app.asked g).length ≤ 1 ∧ (app.frame now g).1.OneByOne es
  | e :: es => (app.step e).1.OneByOne es

instance decidableOneByOne : (app : App) → (events : List Event) → Decidable (app.OneByOne events)
  | _, [] => inferInstanceAs (Decidable True)
  | app, .frame now g :: es =>
    have := decidableOneByOne (app.frame now g).1 es
    inferInstanceAs (Decidable ((app.asked g).length ≤ 1 ∧ (app.frame now g).1.OneByOne es))
  | app, .arrive request arrival :: es =>
    decidableOneByOne (app.step (.arrive request arrival)).1 es
  | app, .endCopy place result :: es =>
    decidableOneByOne (app.step (.endCopy place result)).1 es

/-- The panel is tidy once it is shown for the first time. -/
theorem tidy_start (backend : Backend) : (App.start backend).panel.Tidy := by
  have hb : ∀ w, Panel.start.Blank w := by
    intro w
    cases w
    case tokenCreator => exact ⟨rfl, rfl, rfl, rfl, rfl⟩
    case walletList => exact ⟨rfl, trivial⟩
    all_goals exact ⟨rfl, rfl⟩
  rw [panel_start]
  -- to start is to enter the dashboard, which asks for the list
  constructor
  · intro w hw
    exact (Panel.blank_mk _ _ _ w).mpr ((Panel.blank_enter hw).mpr (hb w))
  · intro _
    decide +kernel

/-- A run in which the user does one thing at a time leaves a tidy panel tidy. -/
theorem tidy_run (ht : app.panel.Tidy) {events : List Event} (h : app.OneByOne events) :
    (app.run events).panel.Tidy := by
  induction events generalizing app with
  | nil => exact ht
  | cons e es ih =>
    cases e with
    -- what comes from outside lies ready until the next frame
    | arrive request arrival =>
      have hstep : (app.step (.arrive request arrival)).1.panel.Tidy := ht
      exact ih hstep h
    | endCopy place result =>
      have hstep : (app.step (.endCopy place result)).1.panel.Tidy := ht
      exact ih hstep h
    | frame now g => exact ih (tidy_frame ht now h.1) h.2

/-- **Off-screen forms hold nothing.** In a run in which each frame carries out one intent at most,
every form that is not shown is at rest and has given up what it held, whatever comes from the
background and when. On the dashboard the list is never at rest. -/
theorem offScreen_holds_nothing {backend : Backend} {events : List Event}
    (h : (App.start backend).OneByOne events) :
    let p := ((App.start backend).run events).panel
    (∀ w, w ≠ p.screen.workflow → (p.workflow w).state = .idle) ∧
    (p.screen ≠ .createWallet →
      p.createWallet.privateKey? = none ∧ p.createWallet.revealed = false) ∧
    (p.screen ≠ .importWallet → p.importWallet.key = "") ∧
    (p.screen ≠ .tokenCreator →
      p.tokenCreator.name = "" ∧ p.tokenCreator.symbol = "" ∧ p.tokenCreator.totalSupply = "" ∧
        p.tokenCreator.decimals = "18") ∧
    (p.screen ≠ .contractWriter → p.contractWriter.description = "") ∧
    (p.screen = .dashboard → (p.workflow .walletList).state ≠ .idle) := by
  have ht := tidy_run (tidy_start backend) h
  -- each form has a screen of its own, so that off its screen it is one of the blank ones
  have hne : ∀ s : Screen, ((App.start backend).run events).panel.screen ≠ s →
      s.workflow ≠ ((App.start backend).run events).panel.screen.workflow :=
    fun s hs hw => hs (Screen.workflow_injective hw).symm
  refine ⟨?_, ?_, ?_, ?_, ?_, ht.list⟩
  · intro w hw
    exact (ht.blank w hw).1
  · intro hs
    obtain ⟨hidle, hrevealed⟩ := ht.blank .createWallet (hne _ hs)
    refine ⟨?_, hrevealed⟩
    -- without a wallet there is no key
    have hstate : ((App.start backend).run events).panel.createWallet.workflow.state = .idle :=
      hidle
    rw [CreateForm.privateKey?, hstate]
    rfl
  · intro hs
    exact (ht.blank .importWallet (hne _ hs)).2
  · intro hs
    exact (ht.blank .tokenCreator (hne _ hs)).2
  · intro hs
    exact (ht.blank .contractWriter (hne _ hs)).2

/-- A run in which the user sends a key and leaves before the answer; then it turns out that the key
was not taken. -/
def hastyRun : List Event :=
  [.frame 0 (.click 3), .frame 1 ⟨[(.importKey, "k")], [14]⟩, .frame 2 (.click 2),
    .arrive 1 (.nothing ""), .frame 3 .none]

/-- The key that was sent is gone with the screen, though its answer comes later. -/
theorem hastyRun_holds_nothing :
    (App.start .standard).OneByOne hastyRun ∧
    ((App.start .standard).run hastyRun).panel.screen = .createWallet ∧
    (((App.start .standard).run hastyRun).panel.workflow .importWallet).state = .idle ∧
    ((App.start .standard).run hastyRun).panel.importWallet.key = "" := by
  have h : (App.start .standard).OneByOne hastyRun := by decide +kernel
  have hs : ((App.start .standard).run hastyRun).panel.screen = .createWallet := by decide +kernel
  obtain ⟨hidle, -, hkey, -⟩ := offScreen_holds_nothing h
  refine ⟨h, hs, hidle _ ?_, hkey ?_⟩
  · rw [hs]
    decide
  · rw [hs]
    decide

end App

end WalletPanel
