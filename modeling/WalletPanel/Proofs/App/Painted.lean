import WalletPanel.Proofs.App.Clicks
import WalletPanel.Proofs.Screen.Masked
import WalletPanel.Proofs.Screen.Offers

/-!
# What a frame paints of keys

Two applications that are the same but for keys (`App.SameButKeys`) paint the same frame, whatever
becomes ready and is typed in it, unless a key is in sight (`keys_are_not_painted`).

The widgets of a frame come from the panel before the clicks of the frame, and the toasts from the
panel after them. A click may ask for something in one of the applications only: where a key is
typed in one of them and blanks in the other one, the form that imports a wallet can be submitted in
the first only. To submit a form that is filled in tells the user nothing, and neither does going to
another screen, so that as a rule the toasts are the same (`notices_importForm`).

There is one exception. To leave the form empties it, and all that is clicked on in a frame is
carried out one after the other. If the clicks of one frame lead away from the form and then submit
it, then the form that is submitted is empty, and the user is told so; but only where the button was
enabled in the first place (`leaving_tells_keys_apart`).
-/

namespace WalletPanel

open Panel (Op)

/-- Texts that look the same where they are masked, and of which neither or both are blank. -/
def Text.SameMask (s t : String) : Prop := SameLength s t ∧ allBlank s = allBlank t

/-- A text looks like itself. -/
theorem Text.sameMask_refl (s : String) : SameMask s s := ⟨sameLength_refl s, rfl⟩

/-- Applications that are the same but for keys. What is typed as a key in one of them is `near` to
what is typed in the other one. -/
structure App.SameButKeys (near : String → String → Prop) (a b : App) : Prop where
  backend : a.backend = b.backend
  panel : a.panel.SameButKeys near b.panel
  collected : a.collected = b.collected
  toasts : a.toasts = b.toasts
  background : a.background = b.background
  opened : a.opened = b.opened

namespace App

/-! ### The toasts of a frame -/

/-- The toasts, and how many notices have been turned into toasts. -/
def board (app : App) : List Toast × Nat := (app.toasts, app.collected)

/-- Operations leave the toasts alone. -/
theorem board_act (app : App) (op : Op) : (app.act op).board = app.board := by
  unfold act
  dsimp only
  cases (app.panel.step op).value.2 with
  | dispatch d => cases d <;> rfl
  | job j => cases j <;> rfl
  | none | resolution _ | flag _ => rfl

/-- So do edits. -/
theorem board_edit (app : App) (field : Field) (text : String) :
    (app.edit field text).board = app.board := by
  unfold edit
  split
  · exact board_act app _
  · rfl

/-- So does what the user asks for. -/
theorem board_handle (app : App) (intent : Intent) : (app.handle intent).board = app.board := by
  cases intent with
  | browse url => rfl
  | _ => exact board_act app _

/-- A row of steps each of which leaves the toasts alone. -/
theorem board_foldl {β : Type} {f : App → β → App} (hf : ∀ app x, (f app x).board = app.board)
    (xs : List β) (app : App) : (xs.foldl f app).board = app.board := by
  induction xs generalizing app with
  | nil => rfl
  | cons x xs ih => exact (ih (f app x)).trans (hf app x)

/-- So does taking what is ready. -/
theorem board_takeReady (app : App) : app.takeReady.board = app.board := by
  unfold takeReady
  exact board_foldl board_act _ { app with background := app.background.taken }

/-- The toasts that a frame shows are those that are left and those of the notices that are new when
all is done. -/
theorem toasts_frame_eq (app : App) (now : Nat) (g : Gestures) :
    (app.frame now g).2.toasts = Toast.alive now (app.toasts ++
      Toast.ofNotices now ((app.frame now g).1.panel.notices.since app.collected)) := by
  have hboard : ((app.asked g).foldl handle (app.edited g.edits)).board = app.board := by
    -- edits leave the toasts alone, and so does all that is done before and after them
    have hedited : (app.edited g.edits).board = app.takeReady.board := by
      unfold edited
      refine board_foldl (fun app e => ?_) g.edits app.takeReady
      exact board_edit app e.1 e.2
    rw [board_foldl board_handle, hedited, board_takeReady]
  have htoasts : ((app.asked g).foldl handle (app.edited g.edits)).toasts = app.toasts :=
    congrArg Prod.fst hboard
  have hcollected : ((app.asked g).foldl handle (app.edited g.edits)).collected = app.collected :=
    congrArg Prod.snd hboard
  rw [← htoasts, ← hcollected]
  rfl

/-- What a frame paints follows from what its widgets look like and from the log after it. -/
theorem texts_congr {a b : App} {now : Nat} {g : Gestures} (htoasts : a.toasts = b.toasts)
    (hcollected : a.collected = b.collected)
    (hwidgets : (a.frame now g).2.widgets.map Widget.shown
      = (b.frame now g).2.widgets.map Widget.shown)
    (hnotices : (a.frame now g).1.panel.notices = (b.frame now g).1.panel.notices) :
    (a.frame now g).2.texts = (b.frame now g).2.texts := by
  rw [Picture.texts, Picture.texts, hwidgets, toasts_frame_eq, toasts_frame_eq, htoasts,
    hcollected, hnotices]

/-! ### Up to the clicks of a frame -/

section

variable {near : String → String → Prop} {a b : App}

/-- Panels stay the same but for keys as long as the form with the key is not submitted. -/
theorem sameButKeys_after (hnear : ∀ key, near key key) {p q : Panel} (h : p.SameButKeys near q)
    {ops : List Op} (hops : ∀ op ∈ ops, op ≠ .submit .importWallet) :
    (p.after ops).SameButKeys near (q.after ops) := by
  induction ops generalizing p q with
  | nil => exact h
  | cons op ops ih =>
    obtain ⟨hop, hops⟩ := List.forall_mem_cons.mp hops
    exact ih (h.next hnear fun hs => absurd hs hop) hops

/-- What comes from the background brings no key into sight. -/
theorem not_keyInSight_after {p : Panel} (h : ¬ p.KeyInSight) {ops : List Op}
    (hops : ∀ op ∈ ops, op.FromBackground) : ¬ (p.after ops).KeyInSight := by
  induction ops generalizing p with
  | nil => exact h
  | cons op ops ih =>
    obtain ⟨hop, hops⟩ := List.forall_mem_cons.mp hops
    refine ih (mt (Panel.keyInSight_of_next ?_ ?_) h) hops
    · rintro s rfl
      exact hop
    · rintro rfl
      exact hop

/-- An edit changes the panel where an input for the field is shown that is switched on. -/
theorem panel_edit (app : App) (field : Field) (text : String) :
    (app.edit field text).panel
      = if app.panel.widgets.any (Widget.edits field) then app.panel.next (.edit field text)
        else app.panel := by
  unfold edit
  split
  · exact panel_act app _
  · rfl

/-- A text goes into the same field in both applications, or into none. -/
theorem sameButKeys_edit (hnear : ∀ key, near key key)
    (hlength : ∀ s t, near s t → Text.SameLength s t) (h : a.panel.SameButKeys near b.panel)
    (hidden : ¬ a.panel.KeyInSight) (field : Field) (text : String) :
    (a.edit field text).panel.SameButKeys near (b.edit field text).panel ∧
      ¬ (a.edit field text).panel.KeyInSight := by
  -- inputs look the same in both panels, so that they take the same edits
  have hany : a.panel.widgets.any (Widget.edits field)
      = b.panel.widgets.any (Widget.edits field) := by
    have hmap := (h.mono hlength).map_widgets hidden fun _ _ halike => halike.edits field
    have hany : ∀ p : Panel, p.widgets.any (Widget.edits field)
        = (p.widgets.map (Widget.edits field)).any id := by
      intro p
      rw [List.any_map, Function.id_comp]
    rw [hany, hany, hmap]
  rw [panel_edit, panel_edit, hany]
  split
  · exact ⟨h.next hnear nofun, mt (Panel.keyInSight_of_next nofun nofun) hidden⟩
  · exact ⟨h, hidden⟩

/-- Whatever is typed goes into both applications. -/
theorem sameButKeys_edits (hnear : ∀ key, near key key)
    (hlength : ∀ s t, near s t → Text.SameLength s t) (h : a.panel.SameButKeys near b.panel)
    (hidden : ¬ a.panel.KeyInSight) (edits : List (Field × String)) :
    (edits.foldl (fun app (field, text) => app.edit field text) a).panel.SameButKeys near
        (edits.foldl (fun app (field, text) => app.edit field text) b).panel ∧
      ¬ (edits.foldl (fun app (field, text) => app.edit field text) a).panel.KeyInSight := by
  induction edits generalizing a b with
  | nil => exact ⟨h, hidden⟩
  | cons e edits ih =>
    obtain ⟨hsame, hstill⟩ := sameButKeys_edit hnear hlength h hidden e.1 e.2
    exact ih hsame hstill

/-- When all is typed, the applications are the same but for keys, and no key is in sight. -/
theorem sameButKeys_edited (hnear : ∀ key, near key key)
    (hlength : ∀ s t, near s t → Text.SameLength s t) (h : a.panel.SameButKeys near b.panel)
    (hbackground : a.background = b.background) (hidden : ¬ a.panel.KeyInSight)
    (edits : List (Field × String)) :
    (a.edited edits).panel.SameButKeys near (b.edited edits).panel ∧
      ¬ (a.edited edits).panel.KeyInSight := by
  refine sameButKeys_edits hnear hlength ?_ ?_ edits
  · -- what is ready is the same in both, and no submission
    rw [(does_takeReady a).panel, (does_takeReady b).panel, ← hbackground]
    refine sameButKeys_after hnear h fun op hop => ?_
    rintro rfl
    exact fromBackground_of_mem_readyOps hop
  · rw [(does_takeReady a).panel]
    exact not_keyInSight_after hidden fun op => fromBackground_of_mem_readyOps

/-! ### The clicks of a frame -/

/-- An intent changes the panel by the operation that it stands for. -/
theorem panel_handle (app : App) (intent : Intent) :
    (app.handle intent).panel = app.panel.after (operation? intent).toList :=
  (does_handle app intent).panel

/-- An intent is carried out in the same way. A submission of the form that imports a wallet is so
if the panels agree on whether a key is typed. -/
theorem sameButKeys_handle (hnear : ∀ key, near key key) (h : a.panel.SameButKeys near b.panel)
    {intent : Intent} (hintent : intent = .submit .importWallet →
      Text.allBlank a.panel.importWallet.key = Text.allBlank b.panel.importWallet.key) :
    (a.handle intent).panel.SameButKeys near (b.handle intent).panel := by
  rw [panel_handle, panel_handle]
  cases hop : operation? intent with
  | none => exact h
  | some op =>
    refine h.next hnear fun hsubmit => hintent ?_
    subst hsubmit
    cases intent with
    | submit w => cases hop; rfl
    | _ => cases hop

/-- What clicks ask for follows from what the widgets ask for. -/
theorem intents_eq (widgets : List Widget) (clicks : List Nat) :
    intents widgets clicks
      = clicks.filterMap fun place => ((widgets.map Widget.intent?)[place]?).join := by
  unfold intents
  refine List.filterMap_congr fun place _ => ?_
  rw [List.getElem?_map]
  cases widgets[place]? <;> rfl

/-- What clicks ask for is found at their places. -/
theorem mem_intents {widgets : List Widget} {clicks : List Nat} {i : Intent}
    (h : i ∈ intents widgets clicks) :
    ∃ (place : Nat) (title : String), widgets[place]? = some (.button title true i) := by
  obtain ⟨place, -, hplace⟩ := List.mem_filterMap.mp h
  obtain ⟨x, hx, hi⟩ := Option.bind_eq_some_iff.mp hplace
  obtain ⟨title, rfl⟩ := (x.intent?_eq_some_iff i).mp hi
  exact ⟨place, title, hx⟩

/-- What is asked for comes to the same if the panels agree on whether a key is typed, and go on to
agree; or if no key is submitted. -/
theorem notices_handles (hnear : ∀ key, near key key) {intents : List Intent}
    (hkey : (∀ s t, near s t → Text.allBlank s = Text.allBlank t) ∨
      .submit .importWallet ∉ intents)
    (h : a.panel.SameButKeys near b.panel) :
    (intents.foldl handle a).panel.notices = (intents.foldl handle b).panel.notices := by
  induction intents generalizing a b with
  | nil => exact h.notices
  | cons intent intents ih =>
    refine ih (hkey.imp id (mt (List.mem_cons_of_mem intent))) (sameButKeys_handle hnear h ?_)
    rintro rfl
    rcases hkey with hkey | hkey
    · exact hkey _ _ h.importWallet.key
    · exact absurd List.mem_cons_self hkey

end

/-! ### The form that imports a wallet -/

/-- Whether an intent leads away from the form that imports a wallet. -/
def leavesImport : Intent → Bool
  | .navigate screen => screen ≠ .importWallet
  | _ => false

/-- Whether in a row of intents the form that imports a wallet is left and submitted after that. -/
def leavesBeforeImport : List Intent → Bool
  | [] => false
  | i :: is => leavesImport i && is.contains (.submit .importWallet) || leavesBeforeImport is

/-- It takes two intents to do so. -/
theorem leavesBeforeImport_of_length_le_one {is : List Intent} (h : is.length ≤ 1) :
    leavesBeforeImport is = false := by
  match is, h with
  | [], _ => rfl
  | [i], _ => exact (Bool.or_false _).trans (Bool.and_false _)

/-- The form that imports a wallet is shown, and there is no result yet. -/
structure ImportFormShown (p : Panel) : Prop where
  screen : p.screen = .importWallet
  unfinished : p.importWallet.imported? = none

/-- All that can be asked for while this form is shown: to go somewhere, and to submit the form. -/
theorem ImportFormShown.filterMap_widgets {p : Panel} (h : ImportFormShown p) :
    p.widgets.filterMap Widget.intent? = View.places.map (fun place => .navigate place.1) ++
      if p.importWallet.canSubmit then [.submit .importWallet] else [] := by
  -- labels, fields and notes ask for nothing
  have hlabel : ∀ x, Widget.intent? (.label x) = none := fun _ => rfl
  have hinput : ∀ f x b, Widget.intent? (.input f x b) = none := fun _ _ _ => rfl
  have hbutton : ∀ b : Bool, Widget.intent? (.button "Import Wallet" b (.submit .importWallet))
      = if b then some (.submit .importWallet) else none := by
    intro b
    cases b <;> rfl
  have hbusy : ∀ b text, (View.busyNote b text).filterMap Widget.intent? = [] := by
    intro b text
    cases b <;> rfl
  have hheader : View.header.filterMap Widget.intent?
      = View.places.map fun place => .navigate place.1 := rfl
  rw [Panel.widgets, List.filterMap_append, hheader, h.screen]
  change _ ++ (View.importWallet p).filterMap Widget.intent? = _
  unfold View.importWallet
  dsimp only
  rw [h.unfinished]
  simp only [View.captioned, View.warningNote, List.filterMap_append, List.filterMap_cons, hlabel,
    hinput, List.filterMap_nil, hbutton, hbusy, List.nil_append]
  cases p.importWallet.canSubmit <;> rfl

/-- A button that submits this form stands in it and nowhere else. -/
theorem importFormShown_of_submit {p : Panel} {place : Nat} {title : String} {enabled : Bool}
    (h : p.widgets[place]? = some (.button title enabled (.submit .importWallet))) :
    ImportFormShown p := by
  have hmem := List.mem_of_getElem? h
  have hscreen : p.screen = .importWallet := by
    have hworkflow : Screen.importWallet.workflow = p.screen.workflow :=
      View.onScreen_submit.mp (p.onScreen_widgets _ hmem)
    exact (Screen.workflow_injective hworkflow).symm
  refine ⟨hscreen, ?_⟩
  -- where there is a result, the buttons below it do something else
  rw [← Option.not_isSome_iff_eq_none]
  intro hsome
  obtain ⟨wallet, hwallet⟩ := Option.isSome_iff_exists.mp hsome
  rw [Panel.widgets, hscreen] at hmem
  change _ ∈ View.header ++ View.importWallet p at hmem
  unfold View.importWallet at hmem
  dsimp only at hmem
  rw [hwallet] at hmem
  simp [View.header, View.places, View.successNote, View.addressRow] at hmem

/-- Who stays on this form, or submits it, leaves it as it was filled in. -/
theorem filled_of_stays {p : Panel} (hscreen : p.screen = .importWallet)
    (hfilled : p.Filled .importWallet) {op : Op}
    (hop : op = .navigate .importWallet ∨ op = .submit .importWallet) :
    (p.next op).screen = .importWallet ∧ (p.next op).Filled .importWallet := by
  rcases hop with rfl | rfl
  · refine ⟨Panel.screen_next_eq_leads p _, ?_⟩
    -- to go where one is resets nothing
    have hpanel : (p.navigate .importWallet).value.1 = p := by
      unfold Panel.navigate
      rw [if_pos hscreen.symm]
      rfl
    change Panel.Filled (p.navigate .importWallet).value.1 .importWallet
    rw [hpanel]
    exact hfilled
  · have hform : WorkflowId.importWallet ≠ .walletList := nofun
    rw [Panel.next_submit p hform]
    exact ⟨hscreen, hfilled⟩

/-- Whatever is asked for while this form is shown, the user is told nothing of it, unless the form
is left and then submitted. -/
theorem notices_importForm {app : App} {is : List Intent}
    (hkinds : ∀ i ∈ is, (∃ screen, i = .navigate screen) ∨ i = .submit .importWallet)
    (hform : .submit .importWallet ∈ is →
      app.panel.screen = .importWallet ∧ app.panel.Filled .importWallet)
    (h : leavesBeforeImport is = false) :
    (is.foldl handle app).panel.notices = app.panel.notices := by
  induction is generalizing app with
  | nil => rfl
  | cons i is ih =>
    obtain ⟨hi, his⟩ := List.forall_mem_cons.mp hkinds
    obtain ⟨hleaves, hrest⟩ := Bool.or_eq_false_iff.mp h
    rcases hi with ⟨screen, rfl⟩ | rfl
    · -- to go somewhere tells nothing
      have htold : (app.act (.navigate screen)).panel.notices = app.panel.notices := by
        rw [notices_act]
        exact NoticeLog.append_numbered_nil _
      refine (ih his (fun hmem => ?_) hrest).trans htold
      -- the form is submitted later on, so that the user stays
      have hstays : screen = .importWallet := by
        by_contra hne
        rw [List.contains_iff_mem.mpr hmem, Bool.and_true] at hleaves
        exact of_decide_eq_false hleaves hne
      obtain ⟨hscreen, hfilled⟩ := hform (List.mem_cons_of_mem _ hmem)
      rw [hstays, panel_handle]
      exact filled_of_stays hscreen hfilled (.inl rfl)
    · -- to submit a form that is filled in tells nothing either
      obtain ⟨hscreen, hfilled⟩ := hform List.mem_cons_self
      have htold : (app.act (.submit .importWallet)).panel.notices = app.panel.notices := by
        rw [notices_act, Panel.told_submit_of_filled hfilled]
        exact NoticeLog.append_numbered_nil _
      refine (ih his (fun _ => ?_) hrest).trans htold
      rw [panel_handle]
      exact filled_of_stays hscreen hfilled (.inr rfl)

/-- The clicks of a frame in which this form is shown tell the user nothing, unless they leave the
form and then submit it. -/
theorem ImportFormShown.notices_clicks {app : App} (hshown : ImportFormShown app.panel)
    {clicks : List Nat} (h : leavesBeforeImport (intents app.panel.widgets clicks) = false) :
    ((intents app.panel.widgets clicks).foldl handle app).panel.notices = app.panel.notices := by
  refine notices_importForm (fun i hi => ?_) (fun hsubmit => ⟨hshown.screen, ?_⟩) h
  · obtain ⟨place, title, hplace⟩ := mem_intents hi
    have hmem : i ∈ app.panel.widgets.filterMap Widget.intent? :=
      List.mem_filterMap.mpr ⟨_, List.mem_of_getElem? hplace, rfl⟩
    rw [hshown.filterMap_widgets] at hmem
    rcases List.mem_append.mp hmem with hmem | hmem
    · obtain ⟨place, -, rfl⟩ := List.mem_map.mp hmem
      exact .inl ⟨_, rfl⟩
    · split at hmem
      · exact .inr (List.mem_singleton.mp hmem)
      · cases hmem
  · -- the button is enabled, so that the form is filled in
    obtain ⟨place, title, hplace⟩ := mem_intents hsubmit
    obtain ⟨before, -, hhonest⟩ := Panel.honest_at hplace
    exact (hhonest.mp rfl).2

/-! ### The clicks of a frame in two applications -/

section

variable {a b : App}

/-- Where this form is not shown, clicks ask for the same, and not to submit it. -/
theorem intents_of_not_shown (h : a.panel.SameButKeys Text.SameLength b.panel)
    (hidden : ¬ a.panel.KeyInSight) (ha : ¬ ImportFormShown a.panel) (clicks : List Nat) :
    intents a.panel.widgets clicks = intents b.panel.widgets clicks ∧
      .submit .importWallet ∉ intents a.panel.widgets clicks := by
  constructor
  · -- widget by widget: only the button that submits the form can differ
    unfold intents
    refine List.filterMap_congr fun place _ => ?_
    rcases h.alike_at hidden place with ⟨hx, hy⟩ | ⟨x, y, hx, hy, halike⟩
    · rw [hx, hy]
    · cases halike with
      | same => rw [hx, hy]
      | key enabled => rw [hx, hy]; rfl
      | submit title => exact absurd (importFormShown_of_submit hx) ha
  · -- and there is no such button elsewhere
    intro hmem
    obtain ⟨place, title, hplace⟩ := mem_intents hmem
    exact ha (importFormShown_of_submit hplace)

/-- **Clicks tell no keys apart**, if the panels agree on whether a key is typed, or if in neither
of them the form that imports a wallet is left and submitted after that. -/
theorem notices_clicks (h : a.panel.SameButKeys Text.SameLength b.panel)
    (hidden : ¬ a.panel.KeyInSight) {clicks : List Nat}
    (hclicks : Text.allBlank a.panel.importWallet.key = Text.allBlank b.panel.importWallet.key ∨
      leavesBeforeImport (intents a.panel.widgets clicks) = false ∧
        leavesBeforeImport (intents b.panel.widgets clicks) = false) :
    ((intents a.panel.widgets clicks).foldl handle a).panel.notices
      = ((intents b.panel.widgets clicks).foldl handle b).panel.notices := by
  rcases hclicks with hkey | ⟨ha, hb⟩
  · -- the panels ask for the same and go on to agree
    have hmask : a.panel.SameButKeys Text.SameMask b.panel :=
      { h with importWallet := { h.importWallet with key := ⟨h.importWallet.key, hkey⟩ } }
    have hintents : a.panel.widgets.map Widget.intent? = b.panel.widgets.map Widget.intent? :=
      h.map_widgets hidden fun _ _ halike => halike.intent? hkey
    rw [intents_eq, intents_eq, hintents]
    exact notices_handles Text.sameMask_refl (.inl fun _ _ hm => hm.2) hmask
  · have hshown : ImportFormShown a.panel ↔ ImportFormShown b.panel := by
      have hresult : a.panel.importWallet.imported? = b.panel.importWallet.imported? := by
        unfold ImportForm.imported?
        rw [h.importWallet.workflow]
      constructor
      · exact fun ⟨hs, hu⟩ => ⟨h.screen ▸ hs, hresult ▸ hu⟩
      · exact fun ⟨hs, hu⟩ => ⟨h.screen ▸ hs, hresult ▸ hu⟩
    by_cases hform : ImportFormShown a.panel
    · rw [hform.notices_clicks ha, (hshown.mp hform).notices_clicks hb, h.notices]
    · obtain ⟨hintents, hnone⟩ := intents_of_not_shown h hidden hform clicks
      rw [← hintents]
      exact notices_handles Text.sameLength_refl (.inr hnone) h

end

/-- **No frame paints a key.** Two applications that are the same but for the key of the created
wallet and the characters of what is typed as a key show the same in a frame, unless that key is in
sight: all widgets look the same, whatever is clicked on, and all texts are the same, the toasts
among them. For the toasts there is one exception. If a key is typed in one of the applications and
blanks in the other one, and if the clicks of this one frame lead away from the form and then submit
it, then the toasts may tell this, and no more of the keys. -/
theorem keys_are_not_painted {a b : App} (h : a.SameButKeys Text.SameLength b)
    (hidden : ¬ a.panel.KeyInSight) (now : Nat) (g : Gestures) :
    (a.frame now g).2.widgets.map Widget.shown = (b.frame now g).2.widgets.map Widget.shown ∧
    (Text.allBlank (a.edited g.edits).panel.importWallet.key
          = Text.allBlank (b.edited g.edits).panel.importWallet.key ∨
        leavesBeforeImport (a.asked g) = false ∧ leavesBeforeImport (b.asked g) = false →
      (a.frame now g).2.texts = (b.frame now g).2.texts) := by
  obtain ⟨hsame, hstill⟩ :=
    sameButKeys_edited Text.sameLength_refl (fun _ _ => id) h.panel h.background hidden g.edits
  have hwidgets : (a.frame now g).2.widgets.map Widget.shown
      = (b.frame now g).2.widgets.map Widget.shown :=
    hsame.map_widgets hstill fun _ _ halike => halike.shown
  refine ⟨hwidgets, fun hclicks => texts_congr h.toasts h.collected hwidgets ?_⟩
  -- the log after the frame is the one after its clicks
  exact notices_clicks hsame hstill hclicks

/-- An application in which a key is typed, on the screen that imports a wallet. -/
def withKey (typed : String) : App :=
  (App.start .standard).run [.frame 0 (.click 3), .frame 1 (.type .importKey typed)]

/-- What is typed stands in the form, and the list that was on its way has been given up. -/
theorem withKey_eq (typed : String) : withKey typed = { App.start .standard with
    panel := { Panel.start with
      screen := .importWallet
      importWallet := ⟨ImportForm.defaultName, typed, .start⟩
      walletList := ⟨⟨.idle, 3⟩⟩ } } :=
  rfl

/-- The key and the blanks are equally long, and all else is the same. -/
theorem sameButKeys_withKey : (withKey "abc").SameButKeys Text.SameLength (withKey "   ") := by
  rw [withKey_eq, withKey_eq]
  exact ⟨rfl, ⟨rfl, rfl, ⟨rfl, rfl, rfl⟩, rfl, rfl, rfl, rfl⟩, rfl, rfl, rfl, rfl⟩

/-- In this application no wallet has been created. -/
theorem not_keyInSight_withKey (typed : String) : ¬ (withKey typed).panel.KeyInSight :=
  fun hsight => nomatch hsight.1

/-- The form can be submitted with a key and not with blanks. The frame in which it is submitted and
then left paints the same in either case. -/
theorem withKey_not_painted :
    (withKey "abc").SameButKeys Text.SameLength (withKey "   ") ∧
    ¬ (withKey "abc").panel.KeyInSight ∧
    (withKey "abc").asked ⟨[], [14, 2]⟩ = [.submit .importWallet, .navigate .createWallet] ∧
    (withKey "   ").asked ⟨[], [14, 2]⟩ = [.navigate .createWallet] ∧
    ((withKey "abc").frame 2 ⟨[], [14, 2]⟩).2.texts
      = ((withKey "   ").frame 2 ⟨[], [14, 2]⟩).2.texts := by
  have hidden : ¬ (withKey "abc").panel.KeyInSight := not_keyInSight_withKey "abc"
  have hasked : (withKey "abc").asked ⟨[], [14, 2]⟩
      = [.submit .importWallet, .navigate .createWallet] := by decide +kernel
  have hasked' : (withKey "   ").asked ⟨[], [14, 2]⟩ = [.navigate .createWallet] := by
    decide +kernel
  refine ⟨sameButKeys_withKey, hidden, hasked, hasked', ?_⟩
  refine (keys_are_not_painted sameButKeys_withKey hidden 2 ⟨[], [14, 2]⟩).2 (.inr ?_)
  rw [hasked, hasked']
  exact ⟨rfl, leavesBeforeImport_of_length_le_one (Nat.le_refl 1)⟩

/-- **Where one frame leaves the form and then submits it**, it matters whether a key is typed. The
form has been emptied when it is submitted, and the user is told so; blanks could not be submitted
in the first place. -/
theorem leaving_tells_keys_apart :
    (withKey "abc").SameButKeys Text.SameLength (withKey "   ") ∧
    ¬ (withKey "abc").panel.KeyInSight ∧
    "Please enter a private key" ∈ ((withKey "abc").frame 2 ⟨[], [2, 14]⟩).2.texts ∧
    "Please enter a private key" ∉ ((withKey "   ").frame 2 ⟨[], [2, 14]⟩).2.texts :=
  ⟨sameButKeys_withKey, not_keyInSight_withKey "abc", by decide +kernel, by decide +kernel⟩

end App

end WalletPanel
