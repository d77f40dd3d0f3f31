import CsvIntake.Calendar.DateFormat
import CsvIntake.Calendar.Iso
import CsvIntake.Error
import CsvIntake.Value

/-! Reading raw values as values of a type. White space around a value never matters, except in
texts, which are taken as they stand. -/
namespace CsvIntake

/-- The failure to read a value as what was expected. -/
def unreadable {α : Type} (s : Text) (expected : Expected) : Except Error α :=
  .error (.badValue { value := s, expected })

/-- The failure to read a value because one of its numbers is out of range. -/
def outOfRange {α : Type} (s : Text) (t : ColumnType) (fault : Iso.Fault) : Except Error α :=
  .error (.badValue { value := s, expected := .type t, reason := some fault.reason.toList })

/-- The number that a text says. A line break inside parentheses is refused, and a number that is too
long to be negated is a failure of its own. -/
def readNumber (separators : NumberSeparators) (s : Text) : Except Error Number :=
  let trimmed := Text.trim s
  match Numeral.read? separators trimmed with
  | none => unreadable s .number
  | some numeral =>
    if numeral.enclosed && trimmed.contains '\n' then unreadable s .number
    else if numeral.overflows then .error .negationOverflow
    else .ok (.ofNumeral numeral)

/-- A letter in lower case; the long s counts as an s. -/
def caseless (c : Char) : Char := if c = 'ſ' then 's' else c.toLower

/-- The truth value that a word says, in any case of its letters. -/
def boolean? (word : Text) : Option Bool :=
  let word := word.map caseless
  if ["true", "t", "yes", "y", "1"].any (·.toList == word) then some true
  else if ["false", "f", "no", "n", "0"].any (·.toList == word) then some false
  else none

/-- The truth value that a text says. -/
def readBoolean (s : Text) : Except Error Bool :=
  match boolean? (Text.trim s) with
  | some b => .ok b
  | none => unreadable s (.type .boolean)

/-- The date that a text says in the first form that reads it. -/
def readDate (s : Text) : Except Error Date :=
  match DateFormat.readFirst? DateFormat.all s with
  | some d => .ok d
  | none => unreadable s (.type .date)

/-- The datetime that a text says in the ISO form without an offset. -/
def readLocalDatetime (s : Text) : Except Error DateTime :=
  match Iso.local? (Text.trim s) with
  | none => unreadable s (.type .datetime)
  | some fields =>
    match fields.dateTime with
    | .ok t => .ok t
    | .error fault => outOfRange s .datetime fault

/-- The datetime that a text says in the ISO form with an offset. -/
def readOffsetDatetime (s : Text) : Except Error OffsetDateTime :=
  match Iso.withOffset? (Text.trim s) with
  | none => unreadable s (.type .offsetDatetime)
  | some (fields, offset) =>
    match fields.dateTime with
    | .error fault => outOfRange s .offsetDatetime fault
    | .ok t =>
      match offset.signedMinutes with
      | .error fault => outOfRange s .offsetDatetime fault
      | .ok minutes => .ok ⟨t, minutes⟩

/-- The value of a datetime column: a local datetime, or a date, which means its midnight. -/
def readDatetime (s : Text) : Except Error DateTime :=
  match readLocalDatetime s with
  | .ok t => .ok t
  | .error _ =>
    match readDate s with
    | .ok d => .ok ⟨d, .midnight⟩
    | .error _ => unreadable s (.type .datetime)

/-- The whole number that a text says. -/
def readInteger (separators : NumberSeparators) (s : Text) : Except Error Int :=
  match Numeral.read? separators (Text.trim s) with
  | some ⟨_, _, _, none⟩ =>
    match readNumber separators s with
    | .ok (.integer n) => .ok n
    | .ok (.float _) => unreadable s (.type .int)
    | .error e => .error e
  | _ => unreadable s (.type .int)

/-- The binary number nearest to what a text says. -/
def readFloat (separators : NumberSeparators) (s : Text) : Except Error Binary64 :=
  match readNumber separators s with
  | .error e => .error e
  | .ok number =>
    match number.toFloat? with
    | some x => .ok x
    | none => .error .tooLargeForFloat

namespace ColumnType

/-- Whether values of the type can be read. Keys are generated, never read. -/
def isReadable (t : ColumnType) : Bool := t != .rowKey

/-- Reads a raw value as a value of a type. -/
def read (separators : NumberSeparators) (t : ColumnType) (s : Text) : Except Error Value :=
  match t with
  | .booleanOrInt => (readBoolean s).map .boolean
  | .boolean => (readBoolean s).map .boolean
  | .int => (readInteger separators s).map .integer
  | .float => (readFloat separators s).map .float
  | .date => (readDate s).map .date
  | .datetime => (readDatetime s).map .datetime
  | .offsetDatetime => (readOffsetDatetime s).map .offsetDatetime
  | .varchar255 => .ok (.text s)
  | .text => .ok (.text s)
  | .rowKey => .error (.noReader .rowKey)

end ColumnType

end CsvIntake
