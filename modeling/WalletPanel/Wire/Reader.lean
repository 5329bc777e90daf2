import WalletPanel.Wire.Error

/-!
# Readers

A `Reader` goes over a text from left to right. It ends with a value or an error, and in both cases
with what it has not read yet, so that the place where it stopped is part of its result. Places are
counted in octets: a reader that stops inside a character, as it does where one octet is enough to
see a fault, has not passed that character, whose other octets are still to come.

This module has the marks that structure a text: blanks, words, commas and brackets. Each function
says which error is raised where the text goes on otherwise, since the first error met is the one
that is reported.
-/

namespace WalletPanel.Wire

/-- Reads a part of a text: the state is what is left of it. -/
abbrev Reader (α : Type) := EStateM Error (List Char) α

namespace Reader

/-- The blanks between marks. -/
def isSpace (c : Char) : Bool := c = ' ' || c = '\n' || c = '\t' || c = '\r'

/-- Passes over blanks and shows the character that follows them, if there is one. -/
def peek : Reader (Option Char) := fun s =>
  -- the blanks are passed for good, the character is not
  let rest := s.dropWhile isSpace
  .ok rest.head? rest

/-- What is left of a text after `n` octets. A character of which they have only a part stays. -/
def afterOctets : Nat → List Char → List Char
  | _, [] => []
  | n, c :: s => if c.utf8Size ≤ n then afterOctets (n - c.utf8Size) s else c :: s

@[simp] theorem afterOctets_nil (n : Nat) : afterOctets n [] = [] := rfl

/-- No octet passes no character. -/
@[simp] theorem afterOctets_zero (s : List Char) : afterOctets 0 s = s := by
  cases s with
  | nil => rfl
  | cons c s => simp [afterOctets, Nat.ne_of_gt c.utf8Size_pos]

/-- One octet passes a character of one octet, and no other. -/
theorem afterOctets_one_cons (c : Char) (s : List Char) :
    afterOctets 1 (c :: s) = if c.utf8Size = 1 then s else c :: s := by
  have := c.utf8Size_pos
  by_cases h : c.utf8Size = 1
  · simp [afterOctets, h]
  · simp [afterOctets, h, show ¬ c.utf8Size ≤ 1 by omega]

/-- Passes over one octet. -/
def advance : Reader Unit := fun s => .ok () (afterOctets 1 s)

/-- Passes over the rest of a word whose first character has been passed. At a fault the octet that
differs has been passed as well. -/
def restOfWord : List Char → Reader Unit
  | [] => pure ()
  | c :: word => fun s =>
    match s with
    | [] => .error .endInValue s
    | d :: rest => if d = c then restOfWord word rest else .error .brokenWord (afterOctets 1 s)

/-- Requires that only blanks are left. -/
def finish : Reader Unit := do
  match ← peek with
  | none => pure ()
  | some _ => throw .trailingText

/-- All of a text, with nothing but blanks around. -/
def run (r : Reader α) (s : List Char) : Except Error α :=
  -- what is left of the text when an error is met does not matter any more
  match (do let a ← r; finish; pure a : Reader α) s with
  | .ok a _ => .ok a
  | .error e _ => .error e

/-! ### Lists -/

/-- Inside a list: whether another item follows. A comma is passed, the closing bracket is not. -/
def anotherItem (first : Bool) : Reader Bool := do
  match ← peek with
  | none => throw .endInList
  | some ']' => pure false
  | some c =>
    if first then pure true
    else if c = ',' then do
      advance
      -- a comma promises an item, so that a bracket behind it has an error of its own
      match ← peek with
      | none => throw .endInValue
      | some ']' => throw .trailingComma
      | some _ => pure true
    else throw .listNotContinued

/-- Passes the closing bracket of a list whose items have all been asked for. -/
def closeList : Reader Unit := do
  match ← peek with
  | none => throw .endInList
  | some ']' => advance
  -- a comma is passed to see whether an item follows that nobody asked for
  | some ',' => do
    advance
    match ← peek with
    | some ']' => throw .trailingComma
    | _ => throw .trailingText
  | some _ => throw .trailingText

/-- The items of a list, from before its first one or after another, up to the closing bracket.
Every item takes a character at least, so that the length of the text bounds the number of turns. -/
def itemsFrom (item : Reader α) : Nat → Bool → List α → Reader (List α)
  | 0, _, _ => throw .endInList
  | fuel + 1, first, done => do
    if ← anotherItem first then
      let a ← item
      itemsFrom item fuel false (a :: done)
    else pure done.reverse

/-- The items of a list whose opening bracket has been passed, and its closing bracket. -/
def listOf (item : Reader α) : Reader (List α) := do
  let items ← itemsFrom item ((← get).length + 1) true []
  closeList
  pure items

/-! ### Objects -/

/-- Inside an object: whether another member follows. A comma is passed, and so is the quote that
begins the key; the closing bracket is not. -/
def anotherMember (first : Bool) : Reader Bool := do
  match ← peek with
  | none => throw .endInObject
  | some '\x7d' => pure false
  | some c =>
    -- a key has to be a text, and is named in the error if it is not
    if first then
      if c = '"' then do advance; pure true else throw .keyNotText
    else if c = ',' then do
      advance
      match ← peek with
      | none => throw .endInValue
      | some '"' => do advance; pure true
      | some '\x7d' => throw .trailingComma
      | some _ => throw .keyNotText
    else throw .objectNotContinued

/-- Passes the colon between a key and its value. -/
def colon : Reader Unit := do
  match ← peek with
  | none => throw .endInObject
  | some ':' => advance
  | some _ => throw .missingColon

/-- Passes the closing bracket of an object whose members have all been asked for. -/
def closeObject : Reader Unit := do
  match ← peek with
  | none => throw .endInObject
  | some '\x7d' => advance
  | some ',' => throw .trailingComma
  | some _ => throw .trailingText

/-- Goes over the members of an object, from before its first one or after another, up to the
closing bracket. `key` reads a key after its quote; `member` reads the colon and the value after a
key and takes them into what has been gathered, so that it can refuse a key before it goes on. -/
def membersFrom (key : Reader κ) (member : σ → κ → Reader σ) : Nat → Bool → σ → Reader σ
  | 0, _, _ => throw .endInObject
  | fuel + 1, first, gathered => do
    -- the quote of the key has been passed where there is another member
    if ← anotherMember first then
      let k ← key
      let gathered ← member gathered k
      membersFrom key member fuel false gathered
    else pure gathered

/-- Gathers the members of an object whose opening bracket has been passed, and passes its closing
bracket. -/
def objectOf (key : Reader κ) (member : σ → κ → Reader σ) (start : σ) : Reader σ := do
  let gathered ← membersFrom key member ((← get).length + 1) true start
  closeObject
  pure gathered

end Reader

end WalletPanel.Wire
