import WalletPanel.Wire.Value

/-!
# Kinds of members

The members of the records that travel over the wire are of five kinds. `Kind.Carrier` says which
values a kind has, `Kind.write` how they are written, and `Kind.read` and `Kind.ofValue` how they
are read: from the text itself and from a value that was kept. Both look at what the value begins
with (`Kind.ofLead`); they part only at an address that is written as a list of its octets.
-/

namespace WalletPanel.Wire

/-- The kinds of members. -/
inductive Kind where
  | text
  | octet
  | word
  | address
  /-- A timestamp that may be missing. -/
  | moment
deriving DecidableEq, Repr

namespace Kind

/-- The values of a kind. -/
@[reducible] def Carrier : Kind → Type
  | text => String
  | octet => UInt8
  | word => UInt64
  | address => Address
  | moment => Option Timestamp

instance : (k : Kind) → DecidableEq k.Carrier
  | text => inferInstanceAs (DecidableEq String)
  | octet => inferInstanceAs (DecidableEq UInt8)
  | word => inferInstanceAs (DecidableEq UInt64)
  | address => inferInstanceAs (DecidableEq Address)
  | moment => inferInstanceAs (DecidableEq (Option Timestamp))

/-- The value of a member that is missing, for a kind that may be. -/
def absent : (k : Kind) → Option k.Carrier
  -- only a time of creation may be missing
  | moment => some none
  | _ => none

/-- A whole number below `bound`. -/
def wholeBelow (bound : Nat) (expected : Expectation) : Lead → Except Error Nat
  | .number (.natural n) => if n < bound then .ok n else .error (.wrongNumber (.natural n) expected)
  | .number (.negative n) => .error (.wrongNumber (.negative n) expected)
  | found => .error (.wrongType found expected)

def textOf : Lead → Except Error String
  | .text s => .ok s
  | found => .error (.wrongType found .text)

/-- The value that a lead stands for, if it stands for one by itself. -/
def ofLead : (k : Kind) → Lead → Except Error k.Carrier
  | text, found => textOf found
  | octet, found => (wholeBelow 256 .octet found).map Nat.toUInt8
  | word, found => (wholeBelow (Nat.pow 2 64) .word found).map Nat.toUInt64
  | address, .text s => (Address.parse s).mapError .badAddress
  | address, found => .error (.wrongType found .address)
  -- to be missing can be said by `null` as well
  | moment, .null => .ok none
  | moment, .text s => ((Timestamp.parse s.toList).map some).mapError .badMoment
  | moment, found => .error (.wrongType found .moment)

/-! ### Writing -/

/-- The wire form of a member's value; none for one that is left out. -/
def write : (k : Kind) → k.Carrier → Option (List Char)
  | text, s => some (writeText s)
  | octet, n => some (Text.decimal n.toNat)
  | word, n => some (Text.decimal n.toNat)
  | address, a => some (writeText a.plain)
  | moment, some t => some ('"' :: t.text ++ ['"'])
  -- a time that is missing is left out with its key
  | moment, none => none

/-! ### Reading from the text -/

/-- Yields what a lead has come to. -/
def accept : Except Error α → Reader α
  | .ok a => pure a
  | .error e => throw e

def readOctet : Reader UInt8 := do accept (ofLead octet (← Reader.lead))

/-- Reads `count` octets of a list, of which `done` have been read before. -/
def readOctets : Nat → Nat → Reader (List UInt8)
  | 0, _ => pure []
  | count + 1, done => do
    -- the error says how many octets there were
    if ← Reader.anotherItem (done = 0) then
      let b ← readOctet
      return b :: (← readOctets count (done + 1))
    else throw (.wrongLength done .twentyOctets)

/-- An octet more than a list may have. Whatever else stands there is left to the end of the list,
which finds what remains of it. -/
def refuseOctet : Reader Unit := fun s =>
  match (do if ← Reader.anotherItem false then let _ ← readOctet; pure true else pure false :
      Reader Bool) s with
  | .ok true rest => .error (.wrongLength 21 .twentyOctets) rest
  | .ok false rest => .ok () rest
  | .error _ rest => .ok () rest

/-- Reads an address, as a text or as a list of its octets. -/
def readAddress : Reader Address := do
  match ← Reader.lead with
  | .list => do
    Reader.advance
    let octets ← readOctets 20 0
    -- twenty octets have been read, and there may be no more of them
    refuseOctet
    Reader.closeList
    match Address.ofOctets? octets with
    | some a => pure a
    | none => throw (.wrongLength octets.length .twentyOctets)
  | found => accept (ofLead address found)

def read : (k : Kind) → Reader k.Carrier
  | address => readAddress
  | text => do accept (ofLead text (← Reader.lead))
  | octet => do accept (ofLead octet (← Reader.lead))
  | word => do accept (ofLead word (← Reader.lead))
  | moment => do accept (ofLead moment (← Reader.lead))

/-! ### Reading from a value that was kept -/

/-- The address whose octets a list has. The first twenty items have to be octets. One more is
refused if it is an octet; if it is not, only what follows it is. -/
def addressOfItems (items : List Value) : Except Error Address := do
  let octets ← (items.take 20).mapM fun v => ofLead octet v.lead
  match Address.ofOctets? octets with
  | none => .error (.wrongLength octets.length .twentyOctets)
  | some a =>
    -- the list is longer than an address, which need not be an error
    match items.drop 20 with
    | [] => .ok a
    | extra :: more =>
      match ofLead octet extra.lead with
      | .ok _ => .error (.wrongLength 21 .twentyOctets)
      | .error _ =>
        -- the item at fault has been passed over; whether anything follows it decides
        if more = [] then .ok a else .error (.wrongLength items.length (.listOf 21))

/-- The member's value that a value stands for. -/
def ofValue : (k : Kind) → Value → Except Error k.Carrier
  | address, .list items => addressOfItems items
  | k, v => ofLead k v.lead

end Kind

end WalletPanel.Wire
