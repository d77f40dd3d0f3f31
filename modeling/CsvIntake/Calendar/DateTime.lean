import CsvIntake.Calendar.Date

/-! Times of day and local datetimes, to the microsecond. -/
namespace CsvIntake

/-- A time of day, to the microsecond. -/
structure TimeOfDay where
  hour : Nat
  minute : Nat
  second : Nat
  microsecond : Nat
  hour_lt : hour < 24
  minute_lt : minute < 60
  second_lt : second < 60
  microsecond_lt : microsecond < 1000000
  deriving DecidableEq, Repr

namespace TimeOfDay

/-- The start of the day. -/
def midnight : TimeOfDay :=
  ⟨0, 0, 0, 0, by decide, by decide, by decide, by decide⟩

/-- The time with the given numbers, if a day has it. -/
def of? (hour minute second microsecond : Nat) : Option TimeOfDay :=
  if h : (hour < 24 ∧ minute < 60) ∧ second < 60 ∧ microsecond < 1000000 then
    some ⟨hour, minute, second, microsecond, h.1.1, h.1.2, h.2.1, h.2.2⟩
  else none

/-- The seconds since midnight. -/
def secondOfDay (t : TimeOfDay) : Nat := (t.hour * 60 + t.minute) * 60 + t.second

/-- The start of the second after, if the day has one. -/
def nextSecond? (t : TimeOfDay) : Option TimeOfDay :=
  (of? t.hour t.minute (t.second + 1) 0).or <|
    (of? t.hour (t.minute + 1) 0 0).or (of? (t.hour + 1) 0 0 0)

/-- A time as `HH:MM:SS.ffffff`. -/
def text (t : TimeOfDay) : Text :=
  Text.ofNatPadded 2 t.hour ++ ':' :: Text.ofNatPadded 2 t.minute ++ ':' ::
    Text.ofNatPadded 2 t.second ++ '.' :: Text.ofNatPadded 6 t.microsecond

end TimeOfDay

/-- A date and a time of day, in no particular time zone. -/
structure DateTime where
  date : Date
  time : TimeOfDay
  deriving DecidableEq, Repr

namespace DateTime

/-- The seconds since 0001-01-01 00:00:00. -/
def seconds (t : DateTime) : Nat := t.date.dayNumber * 86400 + t.time.secondOfDay

/-- The microseconds since 0001-01-01 00:00:00. -/
def microseconds (t : DateTime) : Nat := t.seconds * 1000000 + t.time.microsecond

/-- The start of the second after, unless that lies beyond the last year. -/
def nextSecond? (t : DateTime) : Option DateTime :=
  match t.time.nextSecond? with
  | some time => some ⟨t.date, time⟩
  | none => t.date.next?.map fun date => ⟨date, .midnight⟩

/-- The later of two datetimes. -/
def later (s t : DateTime) : DateTime := if s.microseconds < t.microseconds then t else s

/-- A datetime as `YYYY-MM-DDTHH:MM:SS.ffffff`. -/
def text (t : DateTime) : Text := t.date.text ++ 'T' :: t.time.text

end DateTime

/-- A local datetime and how many minutes its zone is ahead of universal time. -/
structure OffsetDateTime where
  localTime : DateTime
  offsetMinutes : Int
  deriving DecidableEq, Repr

namespace OffsetDateTime

/-- The instant, in microseconds since 1970-01-01 00:00:00 of universal time. -/
def epochMicroseconds (t : OffsetDateTime) : Int :=
  (t.localTime.microseconds : Int) - (Date.unixEpoch * 86400 * 1000000 : Nat) -
    t.offsetMinutes * 60000000

end OffsetDateTime

end CsvIntake
