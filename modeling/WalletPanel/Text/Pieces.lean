/-!
# Pieces of a text

A text taken apart at the characters that a predicate names. There is one piece more than there are
such characters (`length_pieces`), so that nothing between two of them is an empty piece.
-/

namespace WalletPanel.Text

/-- The pieces of a text between the characters that `p` holds of. -/
def pieces (p : Char → Bool) : List Char → List (List Char)
  | [] => [[]]
  | c :: s =>
    if p c then [] :: pieces p s
    else
      -- a character that divides nothing joins the piece behind it
      match pieces p s with
      | piece :: rest => (c :: piece) :: rest
      | [] => [[c]]

/-- Each dividing character begins another piece. -/
theorem length_pieces (p : Char → Bool) (s : List Char) :
    (pieces p s).length = s.countP p + 1 := by
  induction s with
  | nil => rfl
  | cons c s ih =>
    -- a dividing character begins a piece, any other one joins the first
    by_cases h : p c
    · simp [pieces, h, ih]
    · cases hs : pieces p s with
      | nil => simp [hs] at ih
      | cons piece rest => simpa [pieces, h, hs] using ih

end WalletPanel.Text
