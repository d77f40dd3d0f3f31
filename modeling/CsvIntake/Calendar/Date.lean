import CsvIntake.Text.Digit

/-! Dates of the Gregorian calendar, extended to all years from 1 to 9999. -/
namespace CsvIntake

/-- Whether February has 29 days. -/
def isLeapYear (year : Nat) : Bool :=
  decide (year % 4 = 0 ∧ (year % 100 ≠ 0 ∨ year % 400 = 0))

/-- The number of days of a month. -/
def daysInMonth (year month : Nat) : Nat :=
  match month with
  | 2 => if isLeapYear year then 29 else 28
  | 4 | 6 | 9 | 11 => 30
  | _ => 31

/-- A day of the calendar. -/
structure Date where
  year : Nat
  month : Nat
  day : Nat
  year_pos : 1 ≤ year
  year_le : year ≤ 9999
  month_pos : 1 ≤ month
  month_le : month ≤ 12
  day_pos : 1 ≤ day
  day_le : day ≤ daysInMonth year month
  deriving DecidableEq, Repr

namespace Date

/-- The day with the given numbers, if the calendar has it. -/
def of? (year month day : Nat) : Option Date :=
  if h : (1 ≤ year ∧ year ≤ 9999) ∧ (1 ≤ month ∧ month ≤ 12) ∧
      (1 ≤ day ∧ day ≤ daysInMonth year month) then
    some ⟨year, month, day, h.1.1, h.1.2, h.2.1.1, h.2.1.2, h.2.2.1, h.2.2.2⟩
  else none

/-- The days of a year before the first day of a month. -/
def daysBeforeMonth (year month : Nat) : Nat :=
  ((List.range (month - 1)).map fun m => daysInMonth year (m + 1)).foldr (· + ·) 0

/-- The days from 0001-01-01 to the first day of a year. -/
def daysBeforeYear (year : Nat) : Nat :=
  let past := year - 1
  365 * past + past / 4 - past / 100 + past / 400

/-- The number of days from 0001-01-01. -/
def dayNumber (d : Date) : Nat :=
  daysBeforeYear d.year + daysBeforeMonth d.year d.month + (d.day - 1)

/-- The date with a day number, if the calendar has it. -/
def ofDayNumber? (n : Nat) : Option Date := do
  let year ← (List.range' 1 9999).find? fun y => decide (n < daysBeforeYear (y + 1))
  let rest := n - daysBeforeYear year
  let month ← (List.range' 1 12).find? fun m => decide (rest < daysBeforeMonth year (m + 1))
  of? year month (rest - daysBeforeMonth year month + 1)

/-- The day number of 1970-01-01. -/
def unixEpoch : Nat := 719162

/-- The day after, unless that lies beyond the last year. -/
def next? (d : Date) : Option Date :=
  (of? d.year d.month (d.day + 1)).or <|
    (of? d.year (d.month + 1) 1).or (of? (d.year + 1) 1 1)

/-- A date as `YYYY-MM-DD`. -/
def text (d : Date) : Text :=
  Text.ofNatPadded 4 d.year ++ '-' :: Text.ofNatPadded 2 d.month ++ '-' ::
    Text.ofNatPadded 2 d.day

end Date

end CsvIntake
