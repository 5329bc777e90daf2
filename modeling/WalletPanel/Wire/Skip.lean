import WalletPanel.Wire.Lead

/-!
# Passing over a value

A member that nobody asked for is passed over, whatever it holds and however deeply it is nested.
It has to be well-formed, with two liberties that reading does not take: halves of characters need
not pair up in its texts, and its numbers may be of any size. A comma has to be followed by an item
or a member.
-/

namespace WalletPanel.Wire.Reader

/-- Passes over a value's items, given how to pass over one, from the place of an item on to the
closing bracket, which is passed. -/
def skipItems (item : Reader Unit) : Nat → Reader Unit
  | 0 => throw .endInList
  | fuel + 1 => do
    item
    -- after a comma an item has to follow, so that a bracket there begins no value
    match ← peek with
    | none => throw .endInList
    | some ',' => do advance; skipItems item fuel
    | some ']' => advance
    | some _ => throw .listNotContinued

/-- Passes over a key and its colon. -/
def skipKey : Reader Unit := do
  match ← peek with
  | none => throw .endInObject
  | some '"' => do
    advance
    skipText
    match ← peek with
    | none => throw .endInObject
    | some ':' => advance
    | some _ => throw .missingColon
  | some _ => throw .keyNotText

/-- Passes over members, given how to pass over a value, from the place of a key on to the closing
bracket, which is passed. -/
def skipMembers (value : Reader Unit) : Nat → Reader Unit
  | 0 => throw .endInObject
  | fuel + 1 => do
    skipKey
    value
    -- likewise a key after a comma; a bracket there is none
    match ← peek with
    | none => throw .endInObject
    | some ',' => do advance; skipMembers value fuel
    | some '\x7d' => advance
    | some _ => throw .objectNotContinued

/-- Passes over a value in which at most `fuel` brackets open. -/
def skipWithin : Nat → Reader Unit
  | 0 => throw .endInValue
  | fuel + 1 => do
    match ← peek with
    | none => throw .endInValue
    | some c =>
      if c = 'n' then do advance; restOfWord ['u', 'l', 'l']
      else if c = 't' then do advance; restOfWord ['r', 'u', 'e']
      else if c = 'f' then do advance; restOfWord ['a', 'l', 's', 'e']
      else if c = '-' then do advance; skipNumber
      else if c.isDigit then skipNumber
      else if c = '"' then do advance; skipText
      else if c = '[' then do
        advance
        match ← peek with
        | none => throw .endInList
        | some ']' => advance
        | some _ => skipItems (skipWithin fuel) (fuel + 1)
      else if c = '\x7b' then do
        advance
        match ← peek with
        | none => throw .endInObject
        | some '\x7d' => advance
        | some _ => skipMembers (skipWithin fuel) (fuel + 1)
      else throw .noValue

def skip : Reader Unit := do
  skipWithin ((← get).length + 1)

end WalletPanel.Wire.Reader
