import WalletPanel.App.App
import WalletPanel.Clipboard.Service

/-!
# Sessions

The application as a user meets it who waits after each act until everything has settled: copies
have ended, what is ready has been taken, and the screen shows the outcome. A user names widgets by
the texts that can be seen. The machine of a session has no display, so that no copy succeeds.
-/

namespace WalletPanel

/-- An application that has settled. -/
structure Session where
  app : App
  /-- The time, in nanoseconds since the start. -/
  clock : Nat
  picture : Picture

/-- Something that a user or the backend does. -/
inductive Session.Act where
  /-- A click on one of the texts that read `text`: the one that `nth` of them come before. -/
  | click (text : String) (nth : Nat)
  /-- The text of the field of this name is replaced. -/
  | type (label : String) (text : String)
  /-- Something comes of the request of this number. -/
  | arrive (number : Nat) (arrival : Http.Arrival)
  | wait (milliseconds : Nat)

namespace Session

/-- The clipboard of a machine without a display. -/
def clipboard (text : String) : Except ClipboardError Unit :=
  (Devices.withoutDisplay.copy text []).value.1

/-- Lets everything settle. -/
def settle (app : App) (clock : Nat) : Session :=
  let app := { app with background := app.background.endCopies clipboard }
  -- a frame without gestures takes what is ready and shows it
  let (app, picture) := app.frame clock .none
  ⟨app, clock, picture⟩

def start (backend : Backend) : Session := settle (.start backend) 0

/-- A frame with gestures, after which everything settles. -/
def gesture (s : Session) (g : Gestures) : Session := settle (s.app.frame s.clock g).1 s.clock

/-- The places from `place` on at which the texts read `text`. -/
def placesOf (text : String) : Nat → List String → List Nat
  | _, [] => []
  | place, t :: ts =>
    if t = text then place :: placesOf text (place + 1) ts else placesOf text (place + 1) ts

/-- The place of a text on a picture, counting everything that could be painted. -/
def place? (p : Picture) (text : String) (nth : Nat) : Option Nat :=
  if text = "" then none
  else (placesOf text 0 (p.widgets.map Widget.shown ++ p.toasts.flatMap Toast.shown))[nth]?

def fields : List Field :=
  [.createName, .importName, .importKey, .tokenName, .tokenSymbol, .tokenSupply, .tokenDecimals,
    .description]

/-- The fields of this name whose caption can be seen on a picture; those that can be edited come
first. -/
def fieldsNamed (p : Picture) (label : String) : List Field :=
  let named := fields.filter fun field => field.label = label ∧ field.caption ∈ p.texts
  let (shown, hidden) := named.partition fun field => p.widgets.any (Widget.edits field)
  shown ++ hidden

/-- Does an act; yields whether the text or the field that it names was found. -/
def act (s : Session) : Act → Session × Bool
  | .click text nth =>
    match place? s.picture text nth with
    | some place => (s.gesture (.click place), true)
    -- where there is nothing to click on, a frame passes all the same
    | none => (settle s.app s.clock, false)
  | .type label text =>
    match fieldsNamed s.picture label with
    | field :: _ => (s.gesture (.type field text), true)
    | [] => (settle s.app s.clock, false)
  | .arrive number arrival =>
    let app := (s.app.step (.arrive number arrival)).1
    (settle app s.clock, true)
  | .wait milliseconds => (settle s.app (s.clock + 1000000 * milliseconds), true)

end Session

end WalletPanel
