import WalletPanel.App.Background
import WalletPanel.App.Toasts
import WalletPanel.Panel.Step
import WalletPanel.Screen.View

/-!
# The application

The panel on a screen, with its calls and copies in the background and toasts above it. Between two
frames calls and copies may end in any order (`App.Event`). A frame takes what is ready, lets the
user edit the fields that are shown, shows the panel, does what the user asks for by clicks on what
is shown, and last turns the notices that are new into toasts (`App.frame`). So a notice that comes
up in a frame is shown in that frame.

What a frame has shown is its `Picture`. The panel on it is the panel before the intents of the
frame are carried out.

The panel changes by operations of the panel and in no other way: all that a frame does to it goes
through `App.act`, so that what a row of operations does to the application's panel is what it does
to the panel alone (`panel_foldl_act`).
-/

namespace WalletPanel

structure App where
  backend : Backend
  panel : Panel
  /-- How many notices have been turned into toasts. -/
  collected : Nat
  toasts : List Toast
  background : Background
  /-- The pages opened in the browser, the first one first. -/
  opened : List String

structure Gestures where
  /-- The fields whose texts are replaced, each with its new text. -/
  edits : List (Field × String)
  /-- The places of the widgets that are clicked on. -/
  clicks : List Nat
deriving DecidableEq, Repr

namespace Gestures

def none : Gestures := ⟨[], []⟩

def type (field : Field) (text : String) : Gestures := ⟨[(field, text)], []⟩

def click (place : Nat) : Gestures := ⟨[], [place]⟩

end Gestures

/-- What a frame shows. -/
structure Picture where
  widgets : List Widget
  toasts : List Toast
deriving DecidableEq, Repr

/-- The texts of a picture in the order in which they are painted; an empty text is not painted. -/
def Picture.texts (p : Picture) : List String :=
  (p.widgets.map Widget.shown ++ p.toasts.flatMap Toast.shown).filter (· ≠ "")

namespace App

/-! ### Intents -/

/-- Starts the call that has to be carried out, if there is one. -/
def dispatch (app : App) : Option Dispatch → App
  | some d => { app with background := app.background.start app.backend d }
  | none => app

/-- Starts the copy that has to be made, if there is one. -/
def copy (app : App) : Option CopyJob → App
  | some job => { app with background := app.background.startCopy job }
  | none => app

/-- Does an operation of the panel and starts what it asks for. -/
def act (app : App) (op : Panel.Op) : App :=
  let (panel, answer) := (app.panel.step op).value
  let app := { app with panel := panel }
  -- what an answer says beside a call or a copy is of no concern to the background
  match answer with
  | .dispatch d => app.dispatch d
  | .job job => app.copy job
  | _ => app

@[simp] theorem panel_dispatch (app : App) (d : Option Dispatch) :
    (app.dispatch d).panel = app.panel := by
  cases d <;> rfl

@[simp] theorem panel_copy (app : App) (job : Option CopyJob) :
    (app.copy job).panel = app.panel := by
  cases job <;> rfl

@[simp] theorem panel_act (app : App) (op : Panel.Op) :
    (app.act op).panel = (app.panel.step op).value.1 := by
  -- whatever the answer asks for is started beside the panel
  unfold act
  dsimp only
  split <;> simp

/-- A row of operations does to the panel of the application what it does to the panel alone. -/
theorem panel_foldl_act (app : App) (ops : List Panel.Op) :
    (ops.foldl act app).panel = (app.panel.run ops).value.1 := by
  induction ops generalizing app with
  | nil => rfl
  | cons op ops ih => simp [ih, Panel.run]

/-- The operation of the panel by which an intent is carried out, if it concerns the panel. -/
def operation? : Intent → Option Panel.Op
  | .navigate screen => some (.navigate screen)
  | .submit workflow => some (.submit workflow)
  | .reset workflow => some (.reset workflow)
  | .copy target => some (.copy target)
  | .toggleReveal => some .toggleReveal
  | .selectExample index => some (.selectExample index)
  -- a page is opened by the browser
  | .browse _ => none

def handle (app : App) (intent : Intent) : App :=
  match intent with
  | .browse url => { app with opened := app.opened ++ [url] }
  | intent =>
    match operation? intent with
    | some op => app.act op
    | none => app

/-! ### Frames -/

/-- Takes what is ready in the background: first the completions, then the outcomes of copies. -/
def takeReady (app : App) : App :=
  let { completions, outcomes, .. } := app.background
  let ops := completions.map Panel.Op.apply ++ outcomes.map Panel.Op.finishCopy
  ops.foldl act { app with background := app.background.taken }

/-- Puts a text into a field, if the field is shown and enabled. -/
def edit (app : App) (field : Field) (text : String) : App :=
  if app.panel.widgets.any (Widget.edits field) then app.act (.edit field text) else app

/-- What clicks on these widgets ask for. A click beside all buttons asks for nothing. -/
def intents (widgets : List Widget) (clicks : List Nat) : List Intent :=
  clicks.filterMap fun place => widgets[place]?.bind Widget.intent?

/-- Turns the notices that are new into toasts. -/
def collect (app : App) (now : Nat) : App :=
  { app with
    collected := app.panel.notices.length
    toasts := app.toasts ++ Toast.ofNotices now (app.panel.notices.since app.collected) }

/-- Forgets the toasts that are gone. -/
def prune (app : App) (now : Nat) : App := { app with toasts := Toast.alive now app.toasts }

/-- One frame at time `now`; yields what it shows. -/
def frame (app : App) (now : Nat) (gestures : Gestures) : App × Picture :=
  let app := gestures.edits.foldl (fun app (field, text) => app.edit field text) app.takeReady
  -- a click goes to what was painted, even if a click before it leads to another screen
  let widgets := app.panel.widgets
  let app := (intents widgets gestures.clicks).foldl handle app
  -- what has come to be told since the last frame is shown in this one
  let app := (app.collect now).prune now
  (app, ⟨widgets, app.toasts⟩)

/-! ### Runs -/

/-- The application as it starts: the panel is shown and what that asks for is under way. -/
def start (backend : Backend) : App :=
  -- the dashboard is shown first, and asks for the list of wallets
  act ⟨backend, .start, 0, [], .idle, []⟩ .start

end App

/-- Something that happens to the application. -/
inductive App.Event where
  /-- Something comes of the request of this number, or it turns out that it cannot be sent. -/
  | arrive (number : Nat) (arrival : Http.Arrival)
  /-- The copy at this place of those under way ends. -/
  | endCopy (place : Nat) (result : Except ClipboardError Unit)
  | frame (now : Nat) (gestures : Gestures)

namespace App

/-- What an event does, and what is shown in it. -/
def step (app : App) : Event → App × Option Picture
  -- what arrives between two frames lies ready until the next one
  | .arrive number arrival =>
    ({ app with background := app.background.arrive number arrival }, none)
  | .endCopy place result =>
    ({ app with background := app.background.endCopy place result }, none)
  | .frame now gestures =>
    let (app, picture) := app.frame now gestures
    (app, some picture)

def run (app : App) (events : List Event) : App := events.foldl (fun app e => (app.step e).1) app

@[simp] theorem run_nil (app : App) : app.run [] = app := rfl

theorem run_append (app : App) (es fs : List Event) : app.run (es ++ fs) = (app.run es).run fs := by
  simp [run]

/-- The toasts that a frame shows are those that the application has after it. -/
theorem toasts_frame (app : App) (now : Nat) (gestures : Gestures) :
    (app.frame now gestures).2.toasts = (app.frame now gestures).1.toasts := rfl

end App

end WalletPanel
