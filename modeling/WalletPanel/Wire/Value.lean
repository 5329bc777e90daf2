import WalletPanel.Wire.Lead

/-!
# Values kept for later

Where the members of a record lie among others, the others are kept as they were read and looked at
afterwards. A `Value` is any wire form; `Reader.value` reads one in which brackets nest at most as
deeply as it is told.
-/

namespace WalletPanel.Wire

inductive Value where
  | null
  | bool (b : Bool)
  | number (n : Number)
  | text (s : String)
  | list (items : List Value)
  | object (members : List (String × Value))

namespace Value

/-- What the value begins with. -/
def lead : Value → Lead
  | null => .null
  | bool b => .bool b
  | number n => .number n
  | text s => .text s
  | list _ => .list
  | object _ => .object

end Value

namespace Reader

/-- Reads a value in which at most `depth` brackets are open at once. -/
def value : Nat → Reader Value
  | 0 => do
    match ← lead with
    | .null => pure .null
    | .bool b => pure (.bool b)
    | .number n => pure (.number n)
    | .text s => pure (.text s)
    -- the bracket is left where it is
    | .list | .object => throw .nestedTooDeeply
  | depth + 1 => do
    match ← lead with
    | .null => pure .null
    | .bool b => pure (.bool b)
    | .number n => pure (.number n)
    | .text s => pure (.text s)
    | .list => do
      advance
      let items ← listOf (value depth)
      pure (.list items)
    | .object => do
      advance
      let members ← objectOf text (fun done key => do
        colon
        let v ← value depth
        pure ((key, v) :: done)) []
      -- the members are kept in the order in which they stand
      pure (.object members.reverse)

end Reader

end WalletPanel.Wire
