import WalletPanel.Text.Mark
import WalletPanel.Text.Unseen

/-!
# Characters that are shown by number

The characters that a quoted text does not show as they are: those without a shape, those that are
never parted from the character before them, and the letters of the Korean script that only fill a
place.
-/

namespace WalletPanel.Text

/-- Korean letters that fill the place of a letter and show nothing. -/
def isFiller (c : Char) : Bool := ['\u115F', '\u1160', '\u3164', '\uFFA0'].contains c

/-- Whether `c` is shown by number. -/
def isHidden (c : Char) : Bool := isUnseen c || isExtending c || isFiller c

end WalletPanel.Text
