/-!
# Dates

Days of the Gregorian calendar, carried on to years before its adoption and before the common era
(year 0 precedes year 1). A `Date` is an existing day of a year in `Date.minYear`..`Date.maxYear`;
its neighbours are `Date.next?` and `Date.previous?`, missing only at the two ends.
-/

namespace WalletPanel

/-- Whether the year has a twenty-ninth of February. -/
def isLeapYear (year : Int) : Bool := (year % 4 == 0 && year % 100 != 0) || year % 400 == 0

/-- How many days the month has in the year. -/
def daysInMonth (year : Int) (month : Nat) : Nat :=
  if month = 2 then (if isLeapYear year then 29 else 28)
  else if month = 4 ∨ month = 6 ∨ month = 9 ∨ month = 11 then 30
  else 31

/-- No month has more than thirty-one days. -/
theorem daysInMonth_le (year : Int) (month : Nat) : daysInMonth year month ≤ 31 := by
  unfold daysInMonth; split <;> (try split) <;> omega

def Date.minYear : Int := -262143

def Date.maxYear : Int := 262142

/-- An existing day. -/
structure Date where
  /-- The year; year 0 precedes year 1. -/
  year : Int
  /-- The month, counted from 1. -/
  month : Nat
  /-- The day of the month, counted from 1. -/
  day : Nat
  minYear_le : Date.minYear ≤ year
  le_maxYear : year ≤ Date.maxYear
  month_pos : 1 ≤ month
  month_le : month ≤ 12
  day_pos : 1 ≤ day
  day_le : day ≤ daysInMonth year month
deriving DecidableEq, Repr

namespace Date

/-- The day with these numbers, if it exists. -/
def of? (year : Int) (month day : Nat) : Option Date :=
  if h : minYear ≤ year ∧ year ≤ maxYear ∧ 1 ≤ month ∧ month ≤ 12 ∧ 1 ≤ day ∧
      day ≤ daysInMonth year month then
    some ⟨year, month, day, h.1, h.2.1, h.2.2.1, h.2.2.2.1, h.2.2.2.2.1, h.2.2.2.2.2⟩
  else none

/-- The numbers of a day name it. -/
@[simp] theorem of?_self (d : Date) : of? d.year d.month d.day = some d := by
  unfold of?
  rw [dif_pos ⟨d.minYear_le, d.le_maxYear, d.month_pos, d.month_le, d.day_pos, d.day_le⟩]

def next? (d : Date) : Option Date :=
  if d.day < daysInMonth d.year d.month then of? d.year d.month (d.day + 1)
  -- the first day of the next month, in the same year
  else if d.month < 12 then of? d.year (d.month + 1) 1
  else of? (d.year + 1) 1 1

def previous? (d : Date) : Option Date :=
  if 1 < d.day then of? d.year d.month (d.day - 1)
  -- the last day of the month before, in the same year
  else if 1 < d.month then of? d.year (d.month - 1) (daysInMonth d.year (d.month - 1))
  else of? (d.year - 1) 12 31

end Date

end WalletPanel
