import WalletPanel.Journal.Traced

/-!
# Copying a text

A text goes to the primary clipboard if that is there and takes it. Otherwise it goes by way of a
scratch element on a surface: the element is created, filled and selected, copied from, and removed
again. The element is removed whenever it has been created, also when filling it or copying from it
fails, and a copy leaves as many elements as it found.

The devices are known only by how they answer, and each answer may depend on everything that has
been done to them (`Devices`). A copy adds what it does to that history.
-/

namespace WalletPanel

/-- Something done to the primary clipboard or to the surface. -/
inductive Touch where
  | write (text : String)
  /-- A scratch element is asked for; its number if it was made. -/
  | create (element : Option Nat)
  /-- An element is filled with a text and selected. -/
  | fill (element : Nat) (text : String)
  | exec
  | remove (element : Nat)
deriving DecidableEq, Repr

/-- How the clipboard and the surface answer after what has been done to them, the oldest first. -/
structure Devices where
  isAvailable : List Touch → Bool
  write : List Touch → String → Except ClipboardError Unit
  /-- The new element, by number. -/
  create : List Touch → Except ClipboardError Nat
  fill : List Touch → Nat → String → Except ClipboardError Unit
  exec : List Touch → Except ClipboardError Unit

namespace Devices

/-- Copies by way of a scratch element; yields the result and the history after it. -/
def copyByScratch (d : Devices) (text : String) (history : List Touch) :
    Except ClipboardError Unit × List Touch :=
  match d.create history with
  | .error e => (.error e, history ++ [.create none])
  | .ok element =>
    let created := history ++ [.create (some element)]
    let filled := created ++ [.fill element text]
    match d.fill created element text with
    -- an element that could not be filled is still there
    | .error e => (.error e, filled ++ [.remove element])
    -- the element is removed whatever the copy from it came to
    | .ok () => (d.exec filled, filled ++ [.exec, .remove element])

/-- Copies a text by the way that is left when the primary clipboard was no help. -/
def copyByFallback (d : Devices) (text : String) (history : List Touch) :
    Traced (Except ClipboardError Unit × List Touch) := do
  let (result, history) := d.copyByScratch text history
  match result with
  | .ok () => Traced.emit (.copied .fallback)
  | .error e => Traced.emit (.clipboardFailed e)
  return (result, history)

/-- Copies a text; yields the result and the history after it. -/
def copy (d : Devices) (text : String) (history : List Touch) :
    Traced (Except ClipboardError Unit × List Touch) :=
  if d.isAvailable history then
    match d.write history text with
    | .ok () => do
      Traced.emit (.copied .primary)
      return (.ok (), history ++ [.write text])
    -- the text was offered to the clipboard all the same
    | .error e => do
      Traced.emit (.primaryFailed e)
      d.copyByFallback text (history ++ [.write text])
  else d.copyByFallback text history

/-- The devices of a machine without a display: the clipboard takes nothing, and there is no
surface to fall back on. -/
def withoutDisplay : Devices where
  -- the clipboard counts as there until it is written to
  isAvailable _ := true
  write _ _ := .error (.rejected "no display")
  create _ := .error .unavailable
  fill _ _ _ := .error .unavailable
  exec _ := .error .unavailable

end Devices

namespace Touch

/-- How many scratch elements a history has made. -/
def created (history : List Touch) : Nat :=
  history.countP fun touch => touch matches .create (some _)

/-- How many scratch elements a history has removed. -/
def removed (history : List Touch) : Nat :=
  history.countP fun touch => touch matches .remove _

/-- How many scratch elements a history has left. -/
def live (history : List Touch) : Nat := created history - removed history

end Touch

/-- A copy by way of a scratch element removes as many elements as it makes. -/
theorem Devices.live_copyByScratch (d : Devices) (text : String) (history : List Touch) :
    Touch.live (d.copyByScratch text history).2 = Touch.live history := by
  unfold Devices.copyByScratch
  split
  · simp [Touch.live, Touch.created, Touch.removed]
  · dsimp only
    split <;> simp [Touch.live, Touch.created, Touch.removed, Nat.add_sub_add_right]

end WalletPanel
