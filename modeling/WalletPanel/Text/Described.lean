/-!
# Described values

The notation in which values are described to whoever looks into a running panel: records with their
fields by name, variants with what they hold, and lists.
-/

namespace WalletPanel.Text.Described

/-- A record: its name, and each field with the description of its value. -/
def withFields (name : String) (fields : List (String × String)) : String :=
  let inside := ", ".intercalate (fields.map fun (field, value) => s!"{field}: {value}")
  s!"{name} \x7b {inside} \x7d"

/-- One of several forms of a value, by name, with what it holds. -/
def variant (name value : String) : String := s!"{name}({value})"

/-- A list of values. -/
def listed (values : List String) : String :=
  let inside := ", ".intercalate values
  s!"[{inside}]"

/-- A value that may be missing. -/
def optional : Option String → String
  | some value => variant "Some" value
  | none => "None"

/-- A value, or what is there in its place. -/
def result : Except String String → String
  | .ok value => variant "Ok" value
  | .error value => variant "Err" value

end WalletPanel.Text.Described
