/-!
# Tables of images

How a table says what characters become. Alphabets lie in code point order, so that their images
often differ from them by a fixed distance: either for every character of a stretch (`step = 1`) or
for every second one, where the two cases of an alphabet alternate (`step = 2`). Such a stretch is a
`Run`. Neighbours whose images have no order among them make a row, with the image of each.
-/

namespace WalletPanel.Text

/-- `count` characters from `first` on, `step` apart, whose images begin at `target`. -/
structure Run where
  first : Nat
  count : Nat
  /-- How far neighbours lie apart. -/
  step : Nat
  target : Nat
deriving DecidableEq, Repr

namespace Run

/-- Whether the code point `n` lies in the run. -/
def covers (r : Run) (n : Nat) : Bool :=
  r.first ≤ n && n < r.first + r.count * r.step && (n - r.first) % r.step == 0

def image (r : Run) (n : Nat) : Nat := r.target + (n - r.first)

def members (r : Run) : List Nat := (List.range r.count).map (r.first + · * r.step)

end Run

/-- The image of a code point in the first run that has it. -/
def imageInRuns? (runs : List Run) (n : Nat) : Option Nat :=
  (runs.find? (·.covers n)).map (·.image n)

/-- Rows of neighbours: the first code point of each row and the images from there on. -/
abbrev Rows := List (Nat × List Nat)

/-- The image of a code point in the first row that has it. -/
def Rows.image? (rows : Rows) (n : Nat) : Option Nat :=
  -- a row that begins behind the code point does not have it
  rows.findSome? fun (first, images) => if first ≤ n then images[n - first]? else none

end WalletPanel.Text
