/-!
# Errors of a clipboard
-/

namespace WalletPanel

/-- Why a text did not get to the clipboard. -/
inductive ClipboardError where
  | unavailable
  /-- The clipboard did not take the text. -/
  | rejected (detail : String)
deriving DecidableEq, Repr

/-- What is said about a text that did not get to the clipboard. -/
def ClipboardError.message : ClipboardError → String
  | unavailable => "clipboard unavailable"
  | rejected detail => s!"clipboard rejected write: {detail}"

end WalletPanel
