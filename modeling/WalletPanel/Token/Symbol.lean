import WalletPanel.Text.UpperCase

/-!
# Token symbols

A symbol is kept in upper case and has five characters at most. It is put into that form on every
edit; since upper-casing goes through concatenation, typing a text bit by bit comes to the same as
pasting it.
-/

namespace WalletPanel.Token

/-- How many characters a symbol has at most. -/
def maxSymbolLength : Nat := 5

/-- The first characters of the upper case of a text. -/
def symbolChars (s : List Char) : List Char := (Text.upperCase s).take maxSymbolLength

/-- The symbol that a text stands for. -/
def normalizeSymbol (raw : String) : String := String.ofList (symbolChars raw.toList)

/-- A symbol has five characters at most. -/
theorem length_symbolChars_le (s : List Char) : (symbolChars s).length ≤ maxSymbolLength :=
  List.length_take_le ..

@[simp] theorem toList_normalizeSymbol (raw : String) :
    (normalizeSymbol raw).toList = symbolChars raw.toList := by
  simp [normalizeSymbol]

end WalletPanel.Token
