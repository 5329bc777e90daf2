/-!
# Ranges of code points

A class of characters as the ranges of code points that it consists of, in ascending order and with
both ends included.
-/

namespace WalletPanel.Text

/-- Ranges of code points, each by its first and its last one. -/
abbrev Ranges := List (Nat × Nat)

/-- Whether `c` lies in one of the ranges. -/
def Ranges.covers (ranges : Ranges) (c : Char) : Bool :=
  ranges.any fun (first, last) => first ≤ c.toNat && c.toNat ≤ last

end WalletPanel.Text
