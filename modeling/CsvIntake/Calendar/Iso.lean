import CsvIntake.Calendar.DateTime

/-! The ISO form of datetimes, with or without an offset from universal time:
`2022-01-31 10:30`, `2022-1-31T9:30:15.25`, `2022-01-31T10:30:00 +01:00`. The form is read first and
the numbers are checked after it, so that a wrong number can be named. -/
namespace CsvIntake.Iso

/-- Which number of a datetime is out of range. -/
inductive Fault where
  | year
  | month
  | day
  | hour
  | minute
  | second
  | offset
  deriving DecidableEq, Repr

/-- What is said of a number out of range. -/
def Fault.reason : Fault → String
  | .year => "year 0 is out of range"
  | .month => "month must be in 1..12"
  | .day => "day is out of range for month"
  | .hour => "hour must be in 0..23"
  | .minute => "minute must be in 0..59"
  | .second => "second must be in 0..59"
  | .offset => "offset out of range"

/-- The numbers of a datetime, unchecked. -/
structure Fields where
  year : Nat
  month : Nat
  day : Nat
  hour : Nat
  minute : Nat
  second : Nat
  microsecond : Nat
  deriving DecidableEq, Repr

/-- An offset from universal time, unchecked. -/
structure Offset where
  negative : Bool
  hours : Nat
  minutes : Nat
  deriving DecidableEq, Repr

/-- Takes a run of digits, as long as possible within the bounds. -/
def digits? (least most : Nat) (s : Text) : Option (Text × Text) :=
  let run := (s.take most).takeWhile Text.isDigit
  if least ≤ run.length then some (run, s.drop run.length) else none

/-- Takes one character of a class. -/
def oneOf? (isAllowed : Char → Bool) : Text → Option Text
  | [] => none
  | c :: rest => if isAllowed c then some rest else none

/-- The microseconds that the digits of a fraction say; digits beyond the sixth are dropped. -/
def microseconds (fraction : Text) : Nat :=
  Text.decimalValue (fraction.take 6) * Nat.pow 10 (6 - fraction.length)

/-- Reads `.fraction` if it is there. -/
def fraction? : Text → Option (Nat × Text)
  | '.' :: s => (digits? 1 9 s).map fun run => (microseconds run.1, run.2)
  | s => some (0, s)

/-- Reads `:SS` with or without a fraction, if it is there. -/
def seconds? : Text → Option (Nat × Nat × Text)
  | ':' :: s =>
    match digits? 2 2 s with
    | none => none
    | some (second, s) => (fraction? s).map fun part => (Text.decimalValue second, part)
  | s => some (0, 0, s)

/-- Reads `YYYY-MM-DD`, with months and days of one or two digits. -/
def date? (s : Text) : Option ((Nat × Nat × Nat) × Text) := do
  let (year, s) ← digits? 4 4 s
  let s ← oneOf? (· == '-') s
  let (month, s) ← digits? 1 2 s
  let s ← oneOf? (· == '-') s
  let (day, s) ← digits? 1 2 s
  return ((Text.decimalValue year, Text.decimalValue month, Text.decimalValue day), s)

/-- Reads a datetime at the start of a text and gives back the rest. -/
def fields? (s : Text) : Option (Fields × Text) := do
  let ((year, month, day), s) ← date? s
  let s ← oneOf? (fun c => c == 'T' || c == 't' || c == ' ') s
  let (hour, s) ← digits? 1 2 s
  let s ← oneOf? (· == ':') s
  let (minute, s) ← digits? 2 2 s
  let (second, microsecond, s) ← seconds? s
  return (⟨year, month, day, Text.decimalValue hour, Text.decimalValue minute, second,
    microsecond⟩, s)

/-- Reads `MM` or `:MM`, or nothing. -/
def offsetMinutes? : Text → Option Nat
  | [] => some 0
  | s =>
    let s := match s with
      | ':' :: rest => rest
      | _ => s
    match digits? 2 2 s with
    | some (minutes, []) => some (Text.decimalValue minutes)
    | _ => none

/-- Reads an offset: `Z`, or a sign with hours and perhaps minutes. -/
def offset? : Text → Option Offset
  | [] => none
  | c :: s =>
    if c = 'Z' ∨ c = 'z' then (if s.isEmpty then some ⟨false, 0, 0⟩ else none)
    else if c = '+' ∨ c = '-' then
      match digits? 2 2 s with
      | none => none
      | some (hours, s) =>
        (offsetMinutes? s).map fun minutes => ⟨c == '-', Text.decimalValue hours, minutes⟩
    else none

/-- Reads a whole text as a datetime without an offset. -/
def local? (s : Text) : Option Fields :=
  match fields? s with
  | some (fields, []) => some fields
  | _ => none

/-- Reads a whole text as a datetime with an offset, with or without white space between. -/
def withOffset? (s : Text) : Option (Fields × Offset) := do
  let (fields, s) ← fields? s
  let offset ← offset? (Text.trimLeft s)
  return (fields, offset)

/-- The datetime with the given numbers, or the first number that is out of range. -/
def Fields.dateTime (f : Fields) : Except Fault DateTime :=
  if f.year < 1 then .error .year
  else if f.month < 1 ∨ 12 < f.month then .error .month
  else
    match Date.of? f.year f.month f.day with
    | none => .error .day
    | some date =>
      if 24 ≤ f.hour then .error .hour
      else if 60 ≤ f.minute then .error .minute
      else
        match TimeOfDay.of? f.hour f.minute f.second f.microsecond with
        | none => .error .second
        | some time => .ok ⟨date, time⟩

/-- The signed number of minutes of an offset of at most 18 hours and 59 minutes. -/
def Offset.signedMinutes (o : Offset) : Except Fault Int :=
  if 18 < o.hours ∨ 59 < o.minutes then .error .offset
  else
    let size : Int := o.hours * 60 + o.minutes
    .ok (if o.negative then -size else size)

end CsvIntake.Iso
