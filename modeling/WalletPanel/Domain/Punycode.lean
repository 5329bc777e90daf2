/-!
# Punycode

A text of any characters, written with small letters, digits and hyphens: first its ASCII characters
and a hyphen behind them, then where which others are inserted. The insertions are in the order of
code points, each as the distance from the one before. A distance is a number in base thirty-six,
its lowest digit first, that ends with the first digit below a threshold; the thresholds move with a
bias that follows the size of the distances so far.
-/

namespace WalletPanel.Domain.Punycode

def base : Nat := 36

/-- Numbers from here on are too large. -/
def wordLimit : Nat := Nat.pow 2 32

def digitValue? (c : Char) : Option Nat :=
  if 'a' ≤ c ∧ c ≤ 'z' then some (c.toNat - 'a'.toNat)
  else if 'A' ≤ c ∧ c ≤ 'Z' then some (c.toNat - 'A'.toNat)
  else if '0' ≤ c ∧ c ≤ '9' then some (c.toNat - '0'.toNat + 26)
  else none

/-- The threshold of the digit at `place`, which counts by the base. -/
def threshold (bias place : Nat) : Nat :=
  if place ≤ bias then 1 else if bias + 26 ≤ place then 26 else place - bias

/-- The divisions that bring a distance into the range of one digit, `fuel` at most, and what they
add to the bias. -/
def scaled : (fuel : Nat) → Nat → Nat → Nat
  | 0, distance, bias => bias + base * distance / (distance + 38)
  | fuel + 1, distance, bias =>
    if 455 < distance then scaled fuel (distance / 35) (bias + base)
    else bias + base * distance / (distance + 38)

/-- The bias after a distance, when the text has `count` characters. The first distance counts for
less, since it also covers the way to the first code point. -/
def adapted (distance count : Nat) (isFirst : Bool) : Nat :=
  let damped := if isFirst then distance / 700 else distance / 2
  -- after so many divisions nothing is left of a number below the limit
  scaled 7 (damped + damped / count) 0

/-- How far a text has been read. -/
structure Progress where
  text : List Char
  /-- The code point of the last insertion. -/
  code : Nat := 0x80
  /-- Where the next insertion is, counted on from the place of the last one. -/
  index : Nat := 0
  /-- The index before the distance that is being read. -/
  start : Nat := 0
  /-- The bias of the distance that is being read. -/
  bias : Nat := 72
  /-- The place of the next digit. -/
  place : Nat := base
  /-- What the next digit counts. -/
  weight : Nat := 1

namespace Progress

/-- Makes the insertion whose distance has been read. The index runs through all places of the text
for one code point after the other. -/
def insert? (p : Progress) : Option Progress :=
  let count := p.text.length + 1
  -- each round through the places of the text is one code point
  let code := p.code + p.index / count
  let position := p.index % count
  if code.isValidChar then
    some
      { text := p.text.insertIdx position (Char.ofNat code)
        code
        index := position + 1
        start := position + 1
        bias := adapted (p.index - p.start) count (p.start == 0) }
  else none

def read? (p : Progress) (c : Char) : Option Progress := do
  let digit ← digitValue? c
  let index := p.index + digit * p.weight
  guard (index < wordLimit)
  let t := threshold p.bias p.place
  -- a digit below the threshold ends the distance
  if digit < t then insert? { p with index }
  else
    let weight := p.weight * (base - t)
    guard (weight < wordLimit)
    some { p with index, weight, place := p.place + base }

/-- The text, if no distance has been begun. -/
def finish? (p : Progress) : Option (List Char) := if p.place = base then some p.text else none

end Progress

/-- The text that is written so. -/
def decode? (s : List Char) : Option (List Char) :=
  -- the last hyphen divides the plain characters from the insertions
  let extension := (s.reverse.takeWhile (· != '-')).reverse
  let plain := s.take (s.length - extension.length - 1)
  -- a hyphen with nothing before it ends no plain characters
  let p : Progress := { text := plain }
  let digits := if plain = [] then s else extension
  (digits.foldlM Progress.read? p).bind Progress.finish?

end WalletPanel.Domain.Punycode
