import WalletPanel.Text.Numeral
import WalletPanel.Text.Trim
import WalletPanel.Time.Date

/-!
# Timestamps

A `Timestamp` is a second of universal time with a fraction in nanoseconds. Second 60 is a leap
second; it may stand at the end of any minute.

Writing (`Timestamp.text`) follows RFC 3339 with `Z` for the offset. Years outside 0..9999 carry a
sign, and a fraction has three, six or nine digits, the fewest that lose nothing.

Reading (`Timestamp.parse`) is more liberal: numbers may have fewer digits, blanks may stand before
a number, around the marks and before the offset, a blank or a small `t` may part date and time,
and the offset may be written `Z`, `UTC` or as hours and minutes with or without a colon. The text
is read from left to right and the first problem met is reported; whether the day exists and the
offset is less than a day is looked at when everything has been read.
-/

namespace WalletPanel

/-- A second of universal time and a fraction of it. -/
structure Timestamp where
  date : Date
  /-- The hour, below 24. -/
  hour : Nat
  /-- The minute, below 60. -/
  minute : Nat
  /-- The second, 60 for a leap second. -/
  second : Nat
  /-- The fraction in nanoseconds. -/
  nanosecond : Nat
  hour_lt : hour < 24
  minute_lt : minute < 60
  second_le : second ≤ 60
  nanosecond_lt : nanosecond < 1000000000
deriving DecidableEq, Repr

namespace Timestamp

/-- Why a text is no timestamp. -/
inductive ParseError where
  /-- A part is missing at the end. -/
  | tooShort
  /-- A character stands where it cannot. -/
  | invalid
  /-- A number is beyond what its field can be. -/
  | outOfRange
  /-- Something follows the offset. -/
  | tooLong
  /-- The offset leads beyond the first or the last day. -/
  | impossible
deriving DecidableEq, Repr

/-- What is said about a text that is no timestamp. -/
def ParseError.message : ParseError → String
  | tooShort => "premature end of input"
  | invalid => "input contains invalid characters"
  | outOfRange => "input is out of range"
  | tooLong => "trailing input"
  | impossible => "no possible date and time matching input"

/-! ### Writing -/

/-- A year in at least four digits, with a sign when it is outside 0..9999. -/
def yearText (year : Int) : List Char :=
  if 0 ≤ year ∧ year ≤ 9999 then Text.padded 4 year.toNat
  -- the sign tells a reader that there may be more digits than four
  else (if year < 0 then '-' else '+') :: Text.padded 4 year.natAbs

/-- Date as year, month and day, parted by dashes. -/
def dateText (d : Date) : List Char :=
  yearText d.year ++ '-' :: Text.padded 2 d.month ++ '-' :: Text.padded 2 d.day

/-- The fraction with its point, in the fewest groups of three digits that lose nothing. -/
def fractionText (nanosecond : Nat) : List Char :=
  if nanosecond = 0 then []
  else if nanosecond % 1000000 = 0 then '.' :: Text.padded 3 (nanosecond / 1000000)
  else if nanosecond % 1000 = 0 then '.' :: Text.padded 6 (nanosecond / 1000)
  else '.' :: Text.padded 9 nanosecond

def text (t : Timestamp) : List Char :=
  dateText t.date ++ 'T' :: Text.padded 2 t.hour ++ ':' :: Text.padded 2 t.minute ++
    ':' :: Text.padded 2 t.second ++ fractionText t.nanosecond ++ ['Z']

/-- Day, hour and minute, as the wallet list shows them. -/
def minuteText (t : Timestamp) : List Char :=
  dateText t.date ++ ' ' :: Text.padded 2 t.hour ++ ':' :: Text.padded 2 t.minute ++ " UTC".toList

/-! ### Reading -/

/-- A step of reading: what it yields and what is left. -/
abbrev Scan (α : Type) := List Char → Except ParseError (α × List Char)

/-- A number of one digit to `width` digits, of any length where `width` is missing. It has to stay
below `2 ^ 63`. -/
def scanNumber (width : Option Nat) : Scan Nat := fun s =>
  match s with
  | [] => .error .tooShort
  | c :: _ =>
    if !c.isDigit then .error .invalid
    else
      -- digits beyond the width are left to what is read next
      let reach := match width with
        | some w => s.take w
        | none => s
      let digits := reach.takeWhile Char.isDigit
      -- a machine word with a sign has to hold the number
      if Text.digitsValue digits < Nat.pow 2 63 then
        .ok (Text.digitsValue digits, s.drop digits.length)
      else .error .outOfRange

/-- A number after blanks. -/
def scanField (width : Option Nat) : Scan Nat := fun s =>
  scanNumber width (s.dropWhile Text.isBlank)

/-- A number after blanks that has to lie in `least`..`greatest`. -/
def scanWithin (least greatest : Nat) : Scan Nat := fun s => do
  let (n, s) ← scanField (some 2) s
  if least ≤ n ∧ n ≤ greatest then .ok (n, s) else .error .outOfRange

/-- The character `c` after blanks. -/
def scanMark (c : Char) : Scan Unit := fun s =>
  match s.dropWhile Text.isBlank with
  | [] => .error .tooShort
  | d :: rest => if d = c then .ok ((), rest) else .error .invalid

/-- A year after blanks: four digits at most, or any number of them after a sign. -/
def scanYear : Scan Int := fun s => do
  -- only a sign makes room for more digits than four
  let (year, s) ← match s.dropWhile Text.isBlank with
    | '-' :: rest => do
      let (n, rest) ← scanNumber none rest
      .ok (-Int.ofNat n, rest)
    | '+' :: rest => do
      let (n, rest) ← scanNumber none rest
      .ok (Int.ofNat n, rest)
    | s => do
      let (n, rest) ← scanNumber (some 4) s
      .ok (Int.ofNat n, rest)
  -- a year has to fit into thirty-two bits with a sign
  if -Nat.pow 2 31 ≤ year ∧ year < Nat.pow 2 31 then .ok (year, s) else .error .outOfRange

/-- A fraction with its point, in nanoseconds; zero where there is no point. Digits after the ninth
are passed over. -/
def scanFraction : Scan Nat := fun s =>
  match s with
  | '.' :: rest => do
    let (n, left) ← scanNumber (some 9) rest
    -- fewer than nine digits are tenths, hundredths and so on
    let count := rest.length - left.length
    .ok (n * Nat.pow 10 (9 - count), left.dropWhile Char.isDigit)
  | _ => .ok (0, s)

/-- Two characters that have to be digits, the first one at most `greatest`. -/
def scanPair (greatest : Char) : Scan Nat := fun s =>
  match s with
  | [] => .error .tooShort
  -- a character of several octets fills both places, and is no digit
  | [c] => .error (if c.utf8Size = 1 then .tooShort else .invalid)
  | c :: d :: rest =>
    if c.isDigit && d.isDigit then
      -- that they are digits is looked at before how great they are
      if c ≤ greatest then .ok (10 * Text.digitValue c + Text.digitValue d, rest)
      else .error .outOfRange
    else .error .invalid

/-- An offset in minutes. Any run of colons and blanks may part hours and minutes. -/
def scanOffset : Scan Int := fun s =>
  -- the name of universal time is taken in any case of its letters
  if (s.take 3).map Char.toUpper = ['U', 'T', 'C'] then .ok (0, s.drop 3)
  else
    let numbers (s : List Char) : Except ParseError (Int × List Char) := do
      let (hours, s) ← scanPair '9' s
      let (minutes, s) ← scanPair '5' (s.dropWhile fun c => c = ':' || Text.isBlank c)
      .ok (Int.ofNat (60 * hours + minutes), s)
    match s with
    | [] => .error .tooShort
    | c :: rest =>
      if c = 'Z' ∨ c = 'z' then .ok (0, rest)
      else if c = '+' then numbers rest
      -- there is a minus sign of its own beside the hyphen
      else if c = '-' ∨ c = '\u2212' then do
        let (minutes, s) ← numbers rest
        .ok (-minutes, s)
      else .error .invalid

/-- The numbers of a timestamp as they stand in a text, before they are put together. -/
structure Fields where
  year : Int
  month : Nat
  day : Nat
  hour : Nat
  minute : Nat
  second : Nat
  nanosecond : Nat
  /-- How many minutes the numbers are ahead of universal time. -/
  offset : Int
deriving DecidableEq, Repr

/-- Reads the fields of a timestamp up to the end of the text. -/
def scanFields (s : List Char) : Except ParseError Fields := do
  let (year, s) ← scanYear s
  let ((), s) ← scanMark '-' s
  let (month, s) ← scanWithin 1 12 s
  let ((), s) ← scanMark '-' s
  let (day, s) ← scanWithin 1 31 s
  -- no blanks are passed over before the mark between day and time, as one may be the mark
  let s ← match s with
    | [] => .error .tooShort
    | c :: rest => if c = 'T' ∨ c = 't' ∨ c = ' ' then .ok rest else .error .invalid
  let (hour, s) ← scanWithin 0 23 s
  let ((), s) ← scanMark ':' s
  let (minute, s) ← scanWithin 0 59 s
  let ((), s) ← scanMark ':' s
  -- a leap second is taken at the end of any minute
  let (second, s) ← scanWithin 0 60 s
  let (nanosecond, s) ← scanFraction s
  let (offset, s) ← scanOffset (s.dropWhile Text.isBlank)
  -- blanks may stand at the end, and nothing else
  if s.all Text.isBlank then .ok ⟨year, month, day, hour, minute, second, nanosecond, offset⟩
  else .error .tooLong

/-- The timestamp with these numbers, if they are within their bounds. -/
def of? (date : Date) (hour minute second nanosecond : Nat) : Option Timestamp :=
  if h : hour < 24 ∧ minute < 60 ∧ second ≤ 60 ∧ nanosecond < 1000000000 then
    some ⟨date, hour, minute, second, nanosecond, h.1, h.2.1, h.2.2.1, h.2.2.2⟩
  else none

@[simp] theorem of?_self (t : Timestamp) :
    of? t.date t.hour t.minute t.second t.nanosecond = some t := by
  unfold of?
  rw [dif_pos ⟨t.hour_lt, t.minute_lt, t.second_le, t.nanosecond_lt⟩]

/-- The day that lies as many minutes on as `minutes` says, and the minute of that day. An offset
is less than a day, so that the day is the same one or a neighbour. -/
def shift (date : Date) (minutes : Int) : Option (Date × Nat) :=
  if minutes < 0 then date.previous?.map (·, (minutes + 1440).toNat)
  else if minutes < 1440 then some (date, minutes.toNat)
  else date.next?.map (·, (minutes - 1440).toNat)

/-- Puts the fields together in universal time. -/
def Fields.resolve (f : Fields) : Except ParseError Timestamp := do
  let some date := Date.of? f.year f.month f.day | .error .outOfRange
  -- an offset of a day or more is refused, even if hours and minutes are well-formed
  if 1440 ≤ f.offset.natAbs then .error .outOfRange
  let some (date, minutes) := shift date (Int.ofNat (60 * f.hour + f.minute) - f.offset)
    | .error .impossible
  match of? date (minutes / 60) (minutes % 60) f.second f.nanosecond with
  | some t => .ok t
  | none => .error .outOfRange

def parse (s : List Char) : Except ParseError Timestamp := do
  (← scanFields s).resolve

end Timestamp

end WalletPanel
