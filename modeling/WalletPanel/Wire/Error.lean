import WalletPanel.Text.Quoted
import WalletPanel.Time.Timestamp
import WalletPanel.Wallet.Address
import WalletPanel.Wire.Number

/-!
# Errors of the wire form

Why a text is not the wire form of the value that was asked for. There are three categories: the
text ends too early, it is no well-formed text at all, or it is well-formed as far as it was read
and stands for something else. `Error.message` has the wording of all of them.
-/

namespace WalletPanel.Wire

/-- What begins at a place of a text: a scalar, read to its end, or a bracket, not yet passed. -/
inductive Lead where
  | null
  | bool (b : Bool)
  | number (n : Number)
  | text (s : String)
  | list
  | object
deriving DecidableEq, Repr

/-- How a message names what was found. -/
def Lead.description : Lead → String
  | null => "null"
  | bool b => s!"boolean `{b}`"
  | number n => n.description
  | text s => s!"string {Text.quoted s}"
  | list => "sequence"
  | object => "map"

/-- What was asked for at a place. -/
inductive Expectation where
  | text
  | octet
  | word
  | list
  | moment
  | address
  /-- A record type of this name. -/
  | record (name : String)
  /-- A record type of this name that has so many members. -/
  | recordOf (name : String) (members : Nat)
  /-- A list of exactly twenty octets. -/
  | twentyOctets
  /-- A list that ends after so many items. -/
  | listOf (items : Nat)
deriving DecidableEq, Repr

/-- Items by number: "1 element", "2 elements". -/
def elements (n : Nat) : String := if n = 1 then "1 element" else s!"{n} elements"

/-- How a message names what was asked for. -/
def Expectation.description : Expectation → String
  | text => "a string"
  | octet => "u8"
  | word => "u64"
  | list => "a sequence"
  | moment => "an RFC 3339 formatted date and time string"
  -- the ways in which an address may be written
  | address => "20 bytes, represented as a hex string of length 40, an array of u8, or raw bytes"
  | record name => s!"struct {name}"
  | recordOf name members => s!"struct {name} with {elements members}"
  | twentyOctets => "exactly 20 bytes"
  | listOf items => s!"{elements items} in sequence"

/-- Why a text was not accepted. -/
inductive Error where
  /-- The text ends where a value should begin or go on. -/
  | endInValue
  | endInText
  | endInObject
  | endInList
  /-- No value begins with the character found. -/
  | noValue
  /-- A word that begins like `null`, `true` or `false` goes on differently. -/
  | brokenWord
  | objectNotContinued
  | listNotContinued
  | missingColon
  | keyNotText
  | trailingComma
  /-- Something follows where nothing may. -/
  | trailingText
  | brokenNumber
  /-- The number is larger than every double. -/
  | numberTooLarge
  | controlCharacter
  | brokenEscape
  /-- An escape names half a character, and the other half is missing or comes first. -/
  | loneSurrogate
  /-- The escape of half a character is not followed by an escape. -/
  | unfinishedSurrogate
  /-- Lists and objects are nested too deeply. -/
  | nestedTooDeeply
  | missingMember (name : String)
  | duplicateMember (name : String)
  | wrongType (found : Lead) (expected : Expectation)
  /-- A whole number that does not fit. -/
  | wrongNumber (found : Number) (expected : Expectation)
  | wrongLength (found : Nat) (expected : Expectation)
  | badAddress (cause : Address.ParseError)
  | badMoment (cause : Timestamp.ParseError)
deriving DecidableEq, Repr

/-- What sort of fault a text has. -/
inductive Category where
  /-- The text is not well-formed. -/
  | ill
  /-- The text ends too early. -/
  | ended
  /-- The text stands for something else. -/
  | other
deriving DecidableEq, Repr

namespace Error

def category : Error → Category
  | endInValue | endInText | endInObject | endInList => .ended
  | missingMember _ | duplicateMember _ | wrongType _ _ | wrongNumber _ _ | wrongLength _ _
  | badAddress _ | badMoment _ => .other
  -- what is left are faults in the form of a text
  | _ => .ill

def message : Error → String
  | endInValue => "EOF while parsing a value"
  | endInText => "EOF while parsing a string"
  | endInObject => "EOF while parsing an object"
  | endInList => "EOF while parsing a list"
  | noValue => "expected value"
  | brokenWord => "expected ident"
  | objectNotContinued => "expected `,` or `\x7d`"
  | listNotContinued => "expected `,` or `]`"
  | missingColon => "expected `:`"
  | keyNotText => "key must be a string"
  | trailingComma => "trailing comma"
  | trailingText => "trailing characters"
  | brokenNumber => "invalid number"
  | numberTooLarge => "number out of range"
  | controlCharacter => "control character (\\u0000-\\u001F) found while parsing a string"
  | brokenEscape => "invalid escape"
  | loneSurrogate => "lone leading surrogate in hex escape"
  | unfinishedSurrogate => "unexpected end of hex escape"
  | nestedTooDeeply => "recursion limit exceeded"
  | missingMember name => s!"missing field `{name}`"
  | duplicateMember name => s!"duplicate field `{name}`"
  | wrongType found expected =>
    s!"invalid type: {found.description}, expected {expected.description}"
  | wrongNumber found expected =>
    s!"invalid value: {found.description}, expected {expected.description}"
  | wrongLength found expected => s!"invalid length {found}, expected {expected.description}"
  | badAddress cause => cause.message
  | badMoment cause => cause.message

end Error

end WalletPanel.Wire
