import WalletPanel.Text.Hex
import WalletPanel.Text.Utf8
import WalletPanel.Wire.Reader

/-!
# Texts of the wire form

A text stands between quotes. Quotes, backslashes and control characters inside are escaped when
written (`escape`); a reader takes any escape, including those by number, where two of them may
name the halves of one character (`Reader.text`). What is passed over without being wanted
(`Reader.skipText`) is held to the same form except that halves need not pair up.
-/

namespace WalletPanel.Wire

/-! ### Writing -/

/-- How a character is written inside a text. -/
def escape (c : Char) : List Char :=
  if c = '"' then ['\\', '"']
  else if c = '\\' then ['\\', '\\']
  else if c = '\x08' then ['\\', 'b']
  else if c = '\x0c' then ['\\', 'f']
  else if c = '\n' then ['\\', 'n']
  else if c = '\r' then ['\\', 'r']
  else if c = '\t' then ['\\', 't']
  -- control characters without a letter of their own are written by number
  else if c.toNat < 0x20 then
    ['\\', 'u', '0', '0', Text.hexDigit (c.toNat / 16), Text.hexDigit (c.toNat % 16)]
  else [c]

/-- A text with its quotes. -/
def writeText (s : String) : List Char := '"' :: s.toList.flatMap escape ++ ['"']

namespace Reader

/-! ### Reading -/

/-- Takes the next character; a text cannot end here. -/
def nextInText : Reader Char := fun s =>
  match s with
  | [] => .error .endInText []
  | c :: rest => .ok c rest

/-- Shows the next character and passes one octet; a text cannot end here. -/
def nextMark : Reader Char := fun s =>
  match s with
  | [] => .error .endInText []
  | c :: _ => .ok c (afterOctets 1 s)

/-- Requires the mark `c` next, where half a character has been read. -/
def expectHalf (c : Char) : Reader Unit := do
  if (← nextMark) = c then pure () else throw .unfinishedSurrogate

/-- Four hexadecimal digits. A text that ends within the next four octets is too short, whatever
they are. -/
def fourDigits : Reader Nat := fun s =>
  if Text.octetCount (s.take 4) < 4 then .error .endInText []
  else
    -- four octets that are digits are four characters
    match (s.take 4).mapM Text.hexValue? with
    | some [a, b, c, d] => .ok (((16 * a + b) * 16 + c) * 16 + d) (s.drop 4)
    | _ => .error .brokenEscape (afterOctets 4 s)

/-- Whether a number is the first half of a character. -/
def isHighHalf (n : Nat) : Bool := 0xD800 ≤ n && n ≤ 0xDBFF

/-- Whether a number is the second half of a character. -/
def isLowHalf (n : Nat) : Bool := 0xDC00 ≤ n && n ≤ 0xDFFF

/-- A character by its number, or by the numbers of its halves in two escapes. -/
def numberedCharacter : Reader Char := do
  let n ← fourDigits
  -- a second half cannot come first
  if isLowHalf n then throw .loneSurrogate
  if isHighHalf n then
    expectHalf '\\'
    expectHalf 'u'
    let m ← fourDigits
    if !isLowHalf m then throw .loneSurrogate
    -- each half has ten bits of the number
    pure (Char.ofNat (0x10000 + (n - 0xD800) * 0x400 + (m - 0xDC00)))
  else pure (Char.ofNat n)

/-- The character that a letter after a backslash stands for, if it stands for one by itself. -/
def escapedCharacter? (c : Char) : Option Char :=
  if c = '"' ∨ c = '\\' ∨ c = '/' then some c
  else if c = 'b' then some '\x08'
  else if c = 'f' then some '\x0c'
  else if c = 'n' then some '\n'
  else if c = 'r' then some '\r'
  else if c = 't' then some '\t'
  else none

/-- An escape whose backslash has been passed. -/
def escaped : Reader Char := do
  let c ← nextMark
  -- a letter by itself, or the mark of a number
  match escapedCharacter? c with
  | some d => pure d
  | none => if c = 'u' then numberedCharacter else throw .brokenEscape

/-- The characters of a text up to its closing quote, which is passed. -/
def textFrom : Nat → List Char → Reader (List Char)
  | 0, _ => throw .endInText
  | fuel + 1, done => do
    let c ← nextInText
    if c = '"' then pure done.reverse
    else if c = '\\' then
      let d ← escaped
      textFrom fuel (d :: done)
    -- control characters have to be escaped
    else if c.toNat < 0x20 then throw .controlCharacter
    else textFrom fuel (c :: done)

/-- A text whose opening quote has been passed. -/
def text : Reader String := do
  let cs ← textFrom ((← get).length + 1) []
  pure (String.ofList cs)

/-! ### Passing over -/

/-- Passes over an escape whose backslash has been passed. -/
def skipEscaped : Reader Unit := do
  let c ← nextMark
  match escapedCharacter? c with
  | some _ => pure ()
  | none =>
    -- halves are not held against each other here
    if c = 'u' then do
      let _ ← fourDigits
    else throw .brokenEscape

/-- Passes over the rest of a text and its closing quote. -/
def skipTextFrom : Nat → Reader Unit
  | 0 => throw .endInText
  | fuel + 1 => do
    let c ← nextInText
    if c = '"' then pure ()
    else if c = '\\' then
      skipEscaped
      skipTextFrom fuel
    else if c.toNat < 0x20 then throw .controlCharacter
    else skipTextFrom fuel

/-- Passes over a text whose opening quote has been passed. -/
def skipText : Reader Unit := do
  skipTextFrom ((← get).length + 1)

end Reader

end WalletPanel.Wire
