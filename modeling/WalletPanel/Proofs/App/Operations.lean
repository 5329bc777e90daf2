import WalletPanel.App.App
import WalletPanel.Proofs.Panel.History

/-!
# What the application does to its panel

All that the application does to its panel it does by operations of the panel, one after the other:
in a frame first those that take what is ready, then the edits, then those that the clicks ask for
(`App.frameOps`). What the answers of the panel ask for is started in the background in the same
order (`Background.serve`). `Does` says this of two applications, and `does_frame` of a frame.

So a run of the application has a history like a run of the panel alone (`App.trace`), and what is
known of such histories holds of the application as well.
-/

namespace WalletPanel

/-- Starts in the background what an answer of the panel asks for. -/
def Background.serve (backend : Backend) (b : Background) : Panel.Answer → Background
  | .dispatch (some d) => b.start backend d
  | .job (some job) => b.startCopy job
  | _ => b

/-- Whether an operation brings something from the background. -/
def Panel.Op.FromBackground : Panel.Op → Prop
  | .apply _ | .finishCopy _ => True
  | _ => False

namespace App

open Panel (Op Entry)

/-! ### Operations one after the other -/

/-- What some operations make of an application, apart from what is shown and opened: the panel is
the one after the operations, and all that their answers ask for has been started. -/
structure Does (a : App) (ops : List Op) (b : App) : Prop where
  backend : b.backend = a.backend
  panel : b.panel = a.panel.after ops
  background : b.background
    = (a.panel.history ops).foldl (fun g e => g.serve a.backend e.answer) a.background

/-- To do nothing leaves everything as it is. -/
theorem Does.refl (a : App) : Does a [] a := ⟨rfl, rfl, rfl⟩

/-- What is done one after the other is done in one row. -/
theorem Does.trans {a b c : App} {xs ys : List Op} (hx : Does a xs b) (hy : Does b ys c) :
    Does a (xs ++ ys) c := by
  refine ⟨hy.backend.trans hx.backend, ?_, ?_⟩
  · rw [hy.panel, hx.panel, Panel.after_append]
  · rw [hy.background, hx.background, hx.backend, hx.panel, Panel.history_append,
      List.foldl_append]

/-- No operation changes the backend. -/
theorem backend_act (app : App) (op : Op) : (app.act op).backend = app.backend := by
  unfold act
  dsimp only
  cases (app.panel.step op).value.2 with
  | dispatch d => cases d <;> rfl
  | job j => cases j <;> rfl
  | none | resolution _ | flag _ => rfl

/-- What the answer to an operation asks for is started. -/
theorem background_act (app : App) (op : Op) : (app.act op).background
    = app.background.serve app.backend (app.panel.entry op).answer := by
  unfold act Panel.entry
  dsimp only
  cases (app.panel.step op).value.2 with
  | dispatch d => cases d <;> rfl
  | job j => cases j <;> rfl
  | none | resolution _ | flag _ => rfl

/-- An operation does itself. -/
theorem does_act (app : App) (op : Op) : Does app [op] (app.act op) :=
  ⟨backend_act app op, panel_act app op, background_act app op⟩

/-- Operations are done one after the other. -/
theorem does_foldl (app : App) (ops : List Op) : Does app ops (ops.foldl act app) := by
  induction ops generalizing app with
  | nil => exact .refl app
  | cons op ops ih => exact (does_act app op).trans (ih (app.act op))

/-! ### The operations of a frame -/

/-- The operations that take what is ready in the background. -/
def readyOps (b : Background) : List Op :=
  b.completions.map .apply ++ b.outcomes.map .finishCopy

/-- The operation by which a text is put into a field: none if the field cannot be edited. -/
def editOps (app : App) (field : Field) (text : String) : List Op :=
  if app.panel.widgets.any (Widget.edits field) then [.edit field text] else []

/-- The operations of a row of edits. -/
def editsOps (app : App) : List (Field × String) → List Op
  | [] => []
  | (field, text) :: edits => app.editOps field text ++ (app.edit field text).editsOps edits

/-- The application in a frame when the fields have been edited. -/
def edited (app : App) (edits : List (Field × String)) : App :=
  edits.foldl (fun app (field, text) => app.edit field text) app.takeReady

/-- What the user asks for in a frame by clicks on what is shown. -/
def asked (app : App) (g : Gestures) : List Intent :=
  intents (app.edited g.edits).panel.widgets g.clicks

/-- The operations of a frame that the user asks for. -/
def userOps (app : App) (g : Gestures) : List Op :=
  app.takeReady.editsOps g.edits ++ (app.asked g).filterMap operation?

/-- The operations of a frame. -/
def frameOps (app : App) (g : Gestures) : List Op := readyOps app.background ++ app.userOps g

/-- To take what is ready is a row of operations, on a background from which it has been taken. -/
theorem does_takeReady (app : App) :
    Does { app with background := app.background.taken } (readyOps app.background)
      app.takeReady :=
  does_foldl _ _

/-- An edit is one operation, or none where no such input is shown. -/
theorem does_edit (app : App) (field : Field) (text : String) :
    Does app (app.editOps field text) (app.edit field text) := by
  unfold editOps edit
  split
  · exact does_act app _
  · -- no input for the field is shown, or it is switched off
    exact .refl app

/-- Edits are done one after the other, each on what the last one has left. -/
theorem does_edits (app : App) (edits : List (Field × String)) :
    Does app (app.editsOps edits)
      (edits.foldl (fun app (field, text) => app.edit field text) app) := by
  induction edits generalizing app with
  | nil => exact .refl app
  | cons e edits ih => exact (does_edit app e.1 e.2).trans (ih (app.edit e.1 e.2))

/-- An intent is one operation of the panel, or none. -/
theorem does_handle (app : App) (intent : Intent) :
    Does app (operation? intent).toList (app.handle intent) := by
  cases intent with
  -- to open a page is none of the panel's business
  | browse url => exact ⟨rfl, rfl, rfl⟩
  | _ => exact does_act app _

/-- Intents are done one after the other. -/
theorem does_handles (app : App) (is : List Intent) :
    Does app (is.filterMap operation?) (is.foldl handle app) := by
  induction is generalizing app with
  | nil => exact .refl app
  | cons i is ih =>
    have h := (does_handle app i).trans (ih (app.handle i))
    rw [List.filterMap_cons]
    -- an intent is one operation or none
    cases hi : operation? i with
    | none => rwa [hi] at h
    | some op => rwa [hi] at h

/-- What the user does in a frame are the operations of edits and clicks. -/
theorem does_user (app : App) (now : Nat) (g : Gestures) :
    Does app.takeReady (app.userOps g) (app.frame now g).1 := by
  have h := (does_edits app.takeReady g.edits).trans
    (does_handles (app.edited g.edits) (app.asked g))
  -- the toasts at the end of the frame are of no concern here
  exact ⟨h.backend, h.panel, h.background⟩

/-- **A frame does its operations**, with what is ready taken out of the background beforehand. -/
theorem does_frame (app : App) (now : Nat) (g : Gestures) :
    Does { app with background := app.background.taken } (app.frameOps g) (app.frame now g).1 :=
  (does_takeReady app).trans (does_user app now g)

/-! ### Operations from the background and from the user -/

/-- What is ready comes from the background. -/
theorem fromBackground_of_mem_readyOps {b : Background} {op : Op} (h : op ∈ readyOps b) :
    op.FromBackground := by
  rcases List.mem_append.mp h with h | h
  · obtain ⟨c, -, rfl⟩ := List.mem_map.mp h
    trivial
  · obtain ⟨o, -, rfl⟩ := List.mem_map.mp h
    trivial

/-- No edit comes from the background. -/
theorem not_fromBackground_of_mem_editsOps {app : App} {edits : List (Field × String)} {op : Op}
    (h : op ∈ app.editsOps edits) : ¬ op.FromBackground := by
  -- edit by edit, each on what the last one has left
  induction edits generalizing app with
  | nil => cases h
  | cons e edits ih =>
    rcases List.mem_append.mp h with h | h
    · unfold editOps at h
      split at h
      · rw [List.mem_singleton.mp h]
        exact id
      · cases h
    · exact ih h

/-- Nothing that the user does comes from the background. -/
theorem not_fromBackground_of_mem_userOps {app : App} {g : Gestures} {op : Op}
    (h : op ∈ app.userOps g) : ¬ op.FromBackground := by
  rcases List.mem_append.mp h with h | h
  · exact not_fromBackground_of_mem_editsOps h
  · obtain ⟨i, -, hi⟩ := List.mem_filterMap.mp h
    cases i <;> cases hi <;> exact id

/-- What comes from the background asks for nothing. -/
theorem serve_of_fromBackground {op : Op} (h : op.FromBackground) (p : Panel) (backend : Backend)
    (b : Background) : b.serve backend (p.entry op).answer = b := by
  cases op with
  | apply c => rfl
  | finishCopy o => rfl
  | _ => exact h.elim

/-- Taking what is ready starts nothing. -/
theorem background_takeReady (app : App) : app.takeReady.background = app.background.taken := by
  -- operation by operation, each of which starts nothing
  have hfold : ∀ (ops : List Op) (p : Panel) (b : Background), (∀ op ∈ ops, op.FromBackground) →
      (p.history ops).foldl (fun g e => g.serve app.backend e.answer) b = b := by
    intro ops
    induction ops with
    | nil => exact fun _ _ _ => rfl
    | cons op ops ih =>
      intro p b hops
      rw [Panel.history_cons, List.foldl_cons,
        serve_of_fromBackground (hops op List.mem_cons_self)]
      exact ih _ _ fun o ho => hops o (List.mem_cons_of_mem op ho)
  rw [(does_takeReady app).background]
  exact hfold _ _ _ fun op => fromBackground_of_mem_readyOps

/-! ### The operations of a run -/

/-- The operations by which an event changes the panel. -/
def eventOps (app : App) : Event → List Op
  | .frame _ g => app.frameOps g
  | .arrive _ _ | .endCopy _ _ => []

/-- The operations of a row of events. -/
def ops (app : App) : List Event → List Op
  | [] => []
  | e :: es => app.eventOps e ++ (app.step e).1.ops es

/-- The history of the panel in a run of the application from its start. -/
def trace (backend : Backend) (events : List Event) : List Entry :=
  Panel.start.history (.start :: (App.start backend).ops events)

/-- An event does its operations to the panel. -/
theorem panel_step (app : App) (e : Event) :
    (app.step e).1.panel = app.panel.after (app.eventOps e) := by
  cases e with
  | arrive request arrival => rfl
  | endCopy place result => rfl
  | frame now g => exact (does_frame app now g).panel

/-- A run does to the panel what its operations do. -/
theorem panel_run (app : App) (events : List Event) :
    (app.run events).panel = app.panel.after (app.ops events) := by
  induction events generalizing app with
  | nil => rfl
  | cons e es ih =>
    have h := ih (app.step e).1
    rw [panel_step, ← Panel.after_append] at h
    exact h

/-- The operations of two rows of events come one after the other. -/
theorem ops_append (app : App) (es fs : List Event) :
    app.ops (es ++ fs) = app.ops es ++ (app.run es).ops fs := by
  induction es generalizing app with
  | nil => rfl
  | cons e es ih =>
    have h := ih (app.step e).1
    rw [List.cons_append, ops, ops, h, List.append_assoc]
    rfl

/-- The application starts by the operation that starts the panel. -/
theorem panel_start (backend : Backend) :
    (App.start backend).panel = Panel.start.after [.start] :=
  panel_act _ _

/-- The application starts with the call that the start of the panel asks for. -/
theorem background_start (backend : Backend) : (App.start backend).background
    = Background.idle.serve backend (Panel.start.entry .start).answer := by
  rw [App.start, background_act]

/-- The panel of a run from the start is the one after all operations in the history of the run. -/
theorem panel_run_start (backend : Backend) (events : List Event) :
    ((App.start backend).run events).panel
      = Panel.start.after (.start :: (App.start backend).ops events) := by
  rw [panel_run, panel_start, ← Panel.after_append]
  rfl

end App

end WalletPanel
