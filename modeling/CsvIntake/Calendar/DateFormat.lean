import CsvIntake.Calendar.Date

/-! The written forms of dates: the ISO form and the forms with English names, with or without a
weekday. A form is data: a named form lists what each word of the text says. The weekday is not
compared with the date. -/
namespace CsvIntake

/-- Whether a month or weekday is abbreviated to three letters. -/
inductive NameLength where
  | short
  | full
  deriving DecidableEq, Repr

/-- The months in lower case, from January. -/
def monthNames : NameLength → List Text
  | .short => ["jan", "feb", "mar", "apr", "may", "jun", "jul", "aug", "sep", "oct", "nov",
      "dec"].map String.toList
  | .full => ["january", "february", "march", "april", "may", "june", "july", "august",
      "september", "october", "november", "december"].map String.toList

/-- The weekdays in lower case, from Monday. -/
def weekdayNames : NameLength → List Text
  | .short => ["mon", "tue", "wed", "thu", "fri", "sat", "sun"].map String.toList
  | .full => ["monday", "tuesday", "wednesday", "thursday", "friday", "saturday",
      "sunday"].map String.toList

/-- What a word of a date says. -/
inductive DateField where
  | weekday (length : NameLength)
  | month (length : NameLength)
  | day
  | year
  deriving DecidableEq, Repr

/-- A word of a date, with or without a comma after it. -/
structure DateWord where
  field : DateField
  comma : Bool
  deriving DecidableEq, Repr

/-- A written form of dates. -/
inductive DateFormat where
  | iso
  | named (words : List DateWord)
  deriving DecidableEq, Repr

/-- The numbers read so far; zero stands for one that is still missing. -/
structure DateParts where
  year : Nat := 0
  month : Nat := 0
  day : Nat := 0
  deriving DecidableEq, Repr

namespace DateParts

/-- The date with these numbers, if the calendar has it. -/
def date? (parts : DateParts) : Option Date := Date.of? parts.year parts.month parts.day

end DateParts

namespace DateFormat

/-- A name of a list, in any case of its ASCII letters; the answer is its place, from one. -/
def readName? (names : List Text) (word : Text) : Option Nat :=
  (names.findIdx? fun name => name == Text.lowerAscii word).map (· + 1)

/-- One of the digits from `1` to `9`. -/
def isCountingDigit (c : Char) : Bool := decide ('1' ≤ c ∧ c ≤ '9')

/-- A year of four digits. -/
def readYear? (word : Text) : Option Nat :=
  if word.length = 4 ∧ word.all Text.isDigit then some (Text.decimalValue word) else none

/-- A month from `1` to `12`, of one or two digits. -/
def readMonth? (word : Text) : Option Nat :=
  let allowed : Bool := match word with
    | [c] => isCountingDigit c
    | [c, d] => (c == '0' && isCountingDigit d) || (c == '1' && (d == '0' || d == '1' || d == '2'))
    | _ => false
  if allowed then some (Text.decimalValue word) else none

/-- A day from `1` to `31`, of one or two digits. After a `1` or `2` the digit may be of any
script. -/
def readDay? (word : Text) : Option Nat :=
  let allowed : Bool := match word with
    | [c] => isCountingDigit c
    | [c, d] =>
      (c == '0' && isCountingDigit d) || ((c == '1' || c == '2') && Text.isDigit d) ||
        (c == '3' && (d == '0' || d == '1'))
    | _ => false
  if allowed then some (Text.decimalValue word) else none

/-- Adds to the parts of a date what a field says. -/
def readField? (field : DateField) (word : Text) (parts : DateParts) : Option DateParts :=
  match field with
  | .weekday length => (readName? (weekdayNames length) word).map fun _ => parts
  | .month length => (readName? (monthNames length) word).map fun month => { parts with month }
  | .day => (readDay? word).map fun day => { parts with day }
  | .year => (readYear? word).map fun year => { parts with year }

/-- A word without the comma that must end it, if the form asks for one. -/
def dropComma? (comma : Bool) (word : Text) : Option Text :=
  if comma then
    if word.getLast? = some ',' then some word.dropLast else none
  else some word

/-- Reads one word after the other; there must be as many as the form has. -/
def readWords? : List DateWord → List Text → DateParts → Option DateParts
  | [], [], parts => some parts
  | expected :: others, word :: rest, parts =>
    match dropComma? expected.comma word with
    | none => none
    | some word =>
      match readField? expected.field word parts with
      | none => none
      | some parts => readWords? others rest parts
  | _, _, _ => none

/-- Reads `year-month-day`. A day of one digit may follow a space. -/
def readIso? (s : Text) : Option DateParts :=
  match Text.pieces (· == '-') s with
  | [year, month, day] =>
    let day := match day with
      | [' ', d] => [d]
      | _ => day
    match readYear? year, readMonth? month, readDay? day with
    | some year, some month, some day => some ⟨year, month, day⟩
    | _, _, _ => none
  | _ => none

/-- The date that a text says in this form. Any white space separates words. -/
def read? (format : DateFormat) (s : Text) : Option Date :=
  let words := Text.words s
  match format with
  | .iso => (readIso? (Text.joined [' '] words)).bind DateParts.date?
  | .named expected => (readWords? expected words {}).bind DateParts.date?

/-- The forms with a month of the given length: the month first or the day first, each with or
without a comma before the year. -/
def monthDayYear (length : NameLength) : List (List DateWord) :=
  [[⟨.month length, false⟩, ⟨.day, false⟩, ⟨.year, false⟩],
   [⟨.month length, false⟩, ⟨.day, true⟩, ⟨.year, false⟩],
   [⟨.day, false⟩, ⟨.month length, false⟩, ⟨.year, false⟩],
   [⟨.day, false⟩, ⟨.month length, true⟩, ⟨.year, false⟩]]

/-- The named forms without a weekday. -/
def withoutWeekday : List (List DateWord) := monthDayYear .short ++ monthDayYear .full

/-- The named forms that begin with a weekday. -/
def withWeekday (length : NameLength) (comma : Bool) : List (List DateWord) :=
  withoutWeekday.map (⟨.weekday length, comma⟩ :: ·)

/-- Every form in which dates are read, in the order in which they are tried. -/
def all : List DateFormat :=
  .iso :: (withoutWeekday ++ withWeekday .short false ++ withWeekday .short true ++
    withWeekday .full false ++ withWeekday .full true).map .named

/-- The date that a text says in the first of the forms that reads it. -/
def readFirst? (formats : List DateFormat) (s : Text) : Option Date :=
  formats.findSome? (read? · s)

end DateFormat

end CsvIntake
