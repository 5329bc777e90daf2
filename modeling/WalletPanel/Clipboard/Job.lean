import WalletPanel.Clipboard.Service

/-!
# Copies under way

A job is a text that is to be copied, fixed when the user asked for it, and what it is the text of.
A description of a job does not have the text (`CopyJob.description`).
-/

namespace WalletPanel

/-- A text that is to be copied. -/
structure CopyJob where
  target : CopyTarget
  /-- The text, as it was when the copy was asked for. -/
  text : String
deriving DecidableEq

/-- How a copy has ended. -/
structure CopyOutcome where
  target : CopyTarget
  result : Except ClipboardError Unit

namespace CopyJob

def description (j : CopyJob) : String := s!"CopyJob \x7b target: {j.target.name}, .. \x7d"

/-- Copies the text of a job with a clipboard. -/
def run [Functor m] (clipboard : String → m (Except ClipboardError Unit)) (j : CopyJob) :
    m CopyOutcome :=
  (fun result => ⟨j.target, result⟩) <$> clipboard j.text

end CopyJob

end WalletPanel
