import WalletPanel.Proofs.Panel.History

/-!
# Forms that are not shown hold nothing

The panel shows one form at a time. If all that the user does is done to the form that is shown
(`Op.OnScreen`), the other forms are blank: they have no result and no request under way, and they
hold no key and nothing that was typed, names of wallets apart (`Panel.Blank`). On the dashboard the
list of wallets is never at rest. `Tidy` says both of a panel.

That an operation keeps a panel tidy (`Tidy.step`) comes down to two facts. Leaving a screen blanks
its form (`blank_reset`). And a completion that comes in for a form that is not shown is not
awaited, because a blank form waits for nothing; so it changes nothing at all.
-/

namespace WalletPanel

/-- The screen that a field is on. -/
def Field.screen : Field → Screen
  | createName => .createWallet
  | importName | importKey => .importWallet
  | tokenName | tokenSymbol | tokenSupply | tokenDecimals => .tokenCreator
  | description => .contractWriter

namespace Panel

/-- Operations that concern the form of a screen, if they concern one. The list is not among what
the user can reset. -/
def Op.OnScreen (s : Screen) : Op → Prop
  | .submit w => w = s.workflow
  | .reset w => w = s.workflow ∧ w ≠ .walletList
  | .edit field _ => field.screen = s
  | .toggleReveal => s = .createWallet
  | .selectExample _ => s = .contractWriter
  | .start | .navigate _ | .copy _ | .apply _ | .finishCopy _ => True

/-- The form of a workflow holds nothing. -/
def Blank (p : Panel) (w : WorkflowId) : Prop :=
  (p.workflow w).state = .idle ∧
    match w with
    | .createWallet => p.createWallet.revealed = false
    | .importWallet => p.importWallet.key = ""
    | .walletList => True
    | .tokenCreator => p.tokenCreator.name = "" ∧ p.tokenCreator.symbol = "" ∧
        p.tokenCreator.totalSupply = "" ∧ p.tokenCreator.decimals = TokenForm.defaultDecimals
    | .contractWriter => p.contractWriter.description = ""

/-- The forms that are not shown are blank, and where the list is shown it is not at rest. -/
structure Tidy (p : Panel) : Prop where
  blank : ∀ w, w ≠ p.screen.workflow → p.Blank w
  list : p.screen = .dashboard → (p.workflow .walletList).state ≠ .idle

variable {p : Panel} {v w : WorkflowId}

/-! ### What leaves a form blank -/

/-- A form is blank or not whatever else the panel has. -/
theorem blank_mk (s : Screen) (p : Panel) (n : NoticeLog) (w : WorkflowId) :
    ({ p with screen := s, notices := n } : Panel).Blank w ↔ p.Blank w := by
  cases w <;> exact Iff.rfl

/-- Another workflow in its place leaves this form blank. -/
theorem blank_setWorkflow (h : w ≠ v) (x : Workflow v.Value) :
    (p.setWorkflow v x).Blank w ↔ p.Blank w := by
  cases v <;> cases w <;> first | exact Iff.rfl | exact absurd rfl h

/-- A form that has been reset holds nothing. -/
theorem blank_reset (p : Panel) (w : WorkflowId) : (p.reset w).value.Blank w := by
  cases w
  -- a new token form has all its texts empty but for the decimals
  case tokenCreator => exact ⟨rfl, rfl, rfl, rfl, rfl⟩
  case walletList => exact ⟨rfl, trivial⟩
  all_goals exact ⟨rfl, rfl⟩

/-- Resetting another form changes nothing in this one. -/
theorem blank_reset_of_ne (h : w ≠ v) : (p.reset v).value.Blank w ↔ p.Blank w := by
  cases v <;> cases w <;> first | exact Iff.rfl | exact absurd rfl h

/-- A result for another form changes nothing in this one. -/
theorem blank_complete (h : w ≠ v) (ticket : UInt64) (r : Except RemoteError v.Value) :
    (p.complete v ticket r).value.1.Blank w ↔ p.Blank w := by
  cases v <;> cases w <;> first | exact Iff.rfl | exact absurd rfl h

/-- Loading the list changes no other form. -/
theorem blank_mount (h : w ≠ .walletList) : p.mount.value.1.Blank w ↔ p.Blank w := by
  rw [value_mount]
  split
  · exact Iff.rfl
  · exact blank_setWorkflow h _

/-- Submitting another form changes nothing in this one. -/
theorem blank_submit (h : w ≠ v) : (p.submit v).value.1.Blank w ↔ p.Blank w := by
  by_cases hv : v = .walletList
  · subst hv
    exact blank_mount h
  · rw [value_submit p hv]
    exact blank_setWorkflow h _

/-- Entering a screen changes no form but the one of the screen. -/
theorem blank_enter {s : Screen} (h : w ≠ s.workflow) :
    (p.enter s).value.1.Blank w ↔ p.Blank w := by
  cases s with
  | dashboard => exact blank_mount h
  | _ => exact Iff.rfl

/-- Typing into a field changes no form but the one of the field. -/
theorem blank_edit {field : Field} (h : w ≠ field.screen.workflow) (text : String) :
    (p.edit field text).Blank w ↔ p.Blank w := by
  cases field <;> cases w <;> first | exact Iff.rfl | exact absurd rfl h

/-- A blank form waits for nothing. -/
theorem Blank.not_awaits (h : p.Blank w) (ticket : UInt64) : ¬ (p.workflow w).Awaits ticket := by
  rintro ⟨-, hs⟩
  rw [h.1] at hs
  cases hs

/-! ### Screens -/

/-- A result leaves the user on the screen. -/
theorem screen_complete (p : Panel) (w : WorkflowId) (ticket : UInt64)
    (r : Except RemoteError w.Value) : (p.complete w ticket r).value.1.screen = p.screen := by
  cases w <;> rfl

/-- A submission leaves the user on the screen. -/
theorem screen_submit (p : Panel) (w : WorkflowId) : (p.submit w).value.1.screen = p.screen := by
  cases w <;> rfl

/-- Entering a screen does not leave it. -/
theorem screen_enter (p : Panel) (s : Screen) : (p.enter s).value.1.screen = p.screen := by
  cases s <;> rfl

/-- Typing does not leave the screen. -/
theorem screen_edit (p : Panel) (field : Field) (text : String) :
    (p.edit field text).screen = p.screen := by
  cases field <;> rfl

/-- The user gets to the screen that was asked for. -/
theorem screen_navigate (p : Panel) (target : Screen) :
    (p.navigate target).value.1.screen = target := by
  by_cases h : target = p.screen
  · have hn : p.navigate target = p.enter target := if_pos h
    rw [hn, screen_enter, h]
  · -- the screen is set before the new one is entered
    rw [value_navigate_of_ne h, screen_enter]
    rfl

/-- Only going to a screen changes the screen. -/
theorem screen_next (p : Panel) (op : Op) :
    (p.next op).screen = match op with
      | .navigate target => target
      | _ => p.screen := by
  cases op with
  | start => exact screen_enter p p.screen
  | navigate target => exact screen_navigate p target
  | submit w => exact screen_submit p w
  | edit field text => exact screen_edit p field text
  | reset w => exact screen_reset p w
  | apply c =>
    -- a completion changes one form at most, whatever screen is shown
    have hn : (p.next (.apply c)).screen = (p.apply c).value.1.screen := rfl
    rw [hn]
    cases hr : c.result? c.workflow with
    | none => rw [apply_eq_misrouted hr]; rfl
    | some r => rw [apply_eq_complete hr]; exact screen_complete p _ _ _
  | toggleReveal | selectExample _ | copy _ | finishCopy _ => rfl

/-! ### Operations on the screen -/

/-- On the way to another screen all forms are blank. -/
theorem Tidy.blank_departed (ht : p.Tidy) (target : Screen) (w : WorkflowId) :
    (p.departed target).Blank w := by
  have hd : (p.departed target).Blank w ↔ (p.reset p.screen.workflow).value.Blank w :=
    blank_mk _ _ _ _
  rw [hd]
  by_cases hw : w = p.screen.workflow
  · -- the form that was shown
    rw [hw]
    exact p.blank_reset _
  · -- the other forms were blank before and are not touched
    exact (blank_reset_of_ne hw).mpr (ht.blank w hw)

/-- Wherever the user goes, the forms of the other screens are blank. -/
theorem Tidy.blank_navigate (ht : p.Tidy) {target : Screen} (hw : w ≠ target.workflow) :
    (p.navigate target).value.1.Blank w := by
  by_cases h : target = p.screen
  · -- the user stays, and nothing is reset
    have hn : p.navigate target = p.enter target := if_pos h
    rw [hn, blank_enter hw]
    exact ht.blank w (h ▸ hw)
  · -- the form that was shown has been reset on the way
    rw [value_navigate_of_ne h, blank_enter hw]
    exact ht.blank_departed target w

/-- A completion leaves the forms blank that are: it is taken only by a form that waits. -/
theorem Blank.apply (hb : p.Blank w) (c : Completion) : (p.next (.apply c)).Blank w := by
  by_cases hw : w = c.workflow
  · -- the form itself waits for nothing, so that the completion is dropped
    subst hw
    rw [next, step_apply_of_not_awaits fun _ _ => hb.not_awaits _]
    exact hb
  · -- another form may take it, which leaves this one alone
    have hn : (p.next (.apply c)).Blank w ↔ (p.apply c).value.1.Blank w := blank_mk _ _ _ _
    rw [hn]
    cases hr : c.result? c.workflow with
    | none => rw [apply_eq_misrouted hr]; exact hb
    | some r => rw [apply_eq_complete hr]; exact (blank_complete hw _ _).mpr hb

/-- Whatever is done on the screen, the forms that are not shown then are blank. -/
theorem Tidy.blank_next (ht : p.Tidy) {op : Op} (hop : op.OnScreen p.screen)
    (hw : w ≠ (p.next op).screen.workflow) : (p.next op).Blank w := by
  have hn : (p.next op).Blank w ↔ (p.act op).value.1.Blank w := blank_mk _ _ _ _
  rw [screen_next] at hw
  -- but for navigation an operation leaves the screen, and with it the forms that have to be blank
  cases op with
  | start => exact hn.mpr ((blank_enter hw).mpr (ht.blank w hw))
  | navigate target => exact hn.mpr (ht.blank_navigate hw)
  | submit v =>
    have hv : v = p.screen.workflow := hop
    exact hn.mpr ((blank_submit (hv ▸ hw)).mpr (ht.blank w hw))
  | edit field text =>
    have hf : field.screen = p.screen := hop
    exact hn.mpr ((blank_edit (hf ▸ hw) text).mpr (ht.blank w hw))
  | reset v => exact hn.mpr ((blank_reset_of_ne (hop.1 ▸ hw)).mpr (ht.blank w hw))
  | toggleReveal =>
    -- the toggle belongs to the form on the screen, which `w` is not
    have hs : p.screen = .createWallet := hop
    have hb := ht.blank w hw
    rw [hs] at hw
    rw [hn]
    cases w <;> first | exact hb | exact absurd rfl hw
  | selectExample index =>
    have hs : p.screen = .contractWriter := hop
    have hb := ht.blank w hw
    rw [hs] at hw
    rw [hn]
    cases w <;> first | exact hb | exact absurd rfl hw
  | copy target => exact hn.mpr (ht.blank w hw)
  | apply c => exact (ht.blank w hw).apply c
  | finishCopy o => exact hn.mpr (ht.blank w hw)

/-- Coming to the dashboard from another screen asks for the list. -/
theorem Tidy.list_arrive (ht : p.Tidy) (hp : p.screen ≠ .dashboard) :
    ((p.next (.navigate .dashboard)).workflow .walletList).state = .submitting := by
  have hn : (p.next (.navigate .dashboard)).workflow .walletList
      = (p.navigate .dashboard).value.1.workflow .walletList := workflow_next p _ _
  -- the list was not shown and so is at rest: nothing keeps it from being asked for
  have hidle := (ht.blank_departed .dashboard .walletList).1
  have hm : ((p.departed .dashboard).enter .dashboard).value
      = (p.departed .dashboard).mount.value := rfl
  rw [hn, value_navigate_of_ne (Ne.symm hp), hm, value_mount, if_neg (by rw [hidle]; nofun)]
  dsimp only
  rw [workflow_setWorkflow_self]
  rfl

/-- On the dashboard the list is asked for, has come or has failed, whatever is done there. -/
theorem Tidy.list_next (ht : p.Tidy) {op : Op} (hop : op.OnScreen p.screen)
    (hs : (p.next op).screen = .dashboard) : ((p.next op).workflow .walletList).state ≠ .idle := by
  rw [screen_next] at hs
  by_cases hp : p.screen = .dashboard
  · -- the user stays on the dashboard: only a reset would put the list to rest
    cases p.step_cases op .walletList with
    | requested d asked kind kept ticket result => rw [result]; nofun
    | givenUp asked left result =>
      -- the list is given up by a reset, which is not on the screen, or by leaving the dashboard
      cases op with
      | reset w => exact absurd (Option.some.inj left) hop.2
      | navigate target =>
        have hsame : target = p.screen := hs.trans hp.symm
        rw [givenUp?_entry_navigate_self hsame] at left
        cases left
      | _ => cases left
    | settled c r taken brought awaited result =>
      rw [result]
      exact WorkflowState.ofResult_ne_idle r
    | untouched asked kept dropped result =>
      rw [result]
      exact ht.list hp
  · -- the user comes from another screen, which takes a navigation
    cases op with
    | navigate target =>
      have htarget : target = .dashboard := hs
      subst htarget
      rw [ht.list_arrive hp]
      nofun
    | _ => exact absurd hs hp

/-- **One operation on the screen** leaves a tidy panel tidy. -/
theorem Tidy.step (ht : p.Tidy) {op : Op} (hop : op.OnScreen p.screen) : (p.next op).Tidy :=
  ⟨fun _ hw => ht.blank_next hop hw, ht.list_next hop⟩

end Panel

end WalletPanel
