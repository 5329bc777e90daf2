import WalletPanel.Text.UpperCase.Table

/-!
# Upper case

The upper case of a text, by Unicode's mappings that hold in every language. A character may become
several (`ß` becomes `SS`), and each is mapped on its own, so that upper-casing goes through
concatenation (`upperCase_append`).
-/

namespace WalletPanel.Text

def capital (c : Char) : List Char :=
  match imageInRuns? capitalRuns c.toNat with
  | some n => [Char.ofNat n]
  | none =>
    match capitalSpellings.lookup c.toNat with
    | some spelling => spelling.map Char.ofNat
    -- a character in neither table is its own upper case
    | none => [c]

def upperCase (s : List Char) : List Char := s.flatMap capital

@[simp] theorem upperCase_nil : upperCase [] = [] := rfl

@[simp] theorem upperCase_cons (c : Char) (s : List Char) :
    upperCase (c :: s) = capital c ++ upperCase s := rfl

/-- Characters are mapped on their own. -/
@[simp] theorem upperCase_append (s t : List Char) :
    upperCase (s ++ t) = upperCase s ++ upperCase t := by
  simp [upperCase]

end WalletPanel.Text
