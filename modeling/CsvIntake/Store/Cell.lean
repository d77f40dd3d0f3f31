import CsvIntake.Calendar.Iso
import CsvIntake.NativeType
import CsvIntake.Number.Numeral
import CsvIntake.Number.Shortest
import CsvIntake.Value

/-! What a table holds, and how a value becomes a cell of a column. -/
namespace CsvIntake

/-- A stored value. Instants are in microseconds since 1970 of universal time. -/
inductive Cell where
  | null
  | boolean (b : Bool)
  | integer (n : Int)
  | double (x : Binary64)
  | varchar (s : Text)
  | date (d : Date)
  | timestamp (t : DateTime)
  | instant (microseconds : Int)
  deriving DecidableEq, Repr

/-- The cell that says the same as a value. -/
def Value.cell : Value → Cell
  | .null => .null
  | .boolean b => .boolean b
  | .integer n => .integer n
  | .float x => .double x
  | .text s => .varchar s
  | .date d => .date d
  | .datetime t => .timestamp t
  | .offsetDatetime t => .instant t.epochMicroseconds

/-- Whether an integer fits into 64 bits with a sign. -/
def fitsBigint (n : Int) : Bool := decide (-(Nat.pow 2 63 : Int) ≤ n ∧ n < Nat.pow 2 63)

/-- The integer that a text spells, with or without a sign. -/
def integerText? (s : Text) : Option Int :=
  let digits? (digits : Text) : Option Nat :=
    if !digits.isEmpty && digits.all Char.isDigit then some (Text.decimalValue digits) else none
  match Text.trim s with
  | '-' :: digits => (digits? digits).map fun n => -(n : Int)
  | '+' :: digits => (digits? digits).map fun n => (n : Int)
  | digits => (digits? digits).map fun n => (n : Int)

/-- The truth value that a text spells. -/
def booleanText? (s : Text) : Option Bool :=
  let word := Text.lowerAscii s
  if ["true", "t", "yes", "y", "1"].any (·.toList == word) then some true
  else if ["false", "f", "no", "n", "0"].any (·.toList == word) then some false
  else none

/-- The number nearest to what a text spells with digits, at most one point and a minus sign. -/
def doubleText? (s : Text) : Option Binary64 :=
  let s := Text.trim s
  if s.all fun c => c.isDigit || c == '.' || c == '-' then
    (Numeral.read? .dotComma s).map fun n =>
      .ofDecimal n.minus (.ofDigits n.whole (n.fraction.getD []))
  else none

/-- The date that a text spells as `YYYY-MM-DD`. -/
def dateText? (s : Text) : Option Date :=
  match Iso.date? (Text.trim s) with
  | some ((year, month, day), []) => Date.of? year month day
  | _ => none

/-- The datetime that a text spells in the ISO form; a date means its midnight. -/
def timestampText? (s : Text) : Option DateTime :=
  match (Iso.local? (Text.trim s)).map Iso.Fields.dateTime with
  | some (.ok t) => some t
  | some (.error _) => none
  | none => (dateText? s).map (⟨·, .midnight⟩)

/-- The instant of a datetime of universal time. -/
def universalInstant (t : DateTime) : Int := OffsetDateTime.epochMicroseconds ⟨t, 0⟩

/-- The instant that a text spells; without an offset it is one of universal time. -/
def instantText? (s : Text) : Option Int :=
  match Iso.withOffset? (Text.trim s) with
  | none => (timestampText? s).map universalInstant
  | some (fields, offset) =>
    match fields.dateTime, offset.signedMinutes with
    | .ok t, .ok minutes => some (OffsetDateTime.epochMicroseconds ⟨t, minutes⟩)
    | _, _ => none

/-- A datetime as `YYYY-MM-DD HH:MM:SS`, with a fraction if it has one, without zeros at its end. -/
def timestampText (t : DateTime) : Text :=
  let whole := t.date.text ++ ' ' :: t.time.text.take 8
  if t.time.microsecond = 0 then whole
  else
    let fraction := Text.ofNatPadded 6 t.time.microsecond
    whole ++ '.' :: (fraction.reverse.dropWhile (· == '0')).reverse

/-- The integer nearest to a finite number, a tie going to the even one. -/
def nearestInteger? (x : Binary64) : Option Int :=
  let s := Binary64.significand x.magnitude
  let e := Binary64.exponent x.magnitude
  let size := Decimal.roundQuotient (s * Nat.pow 2 e.toNat) (Nat.pow 2 (-e).toNat)
  if x.isFinite then some (if x.negative then -(size : Int) else size) else none

namespace NativeType

/-- An integer as a cell of type BIGINT. -/
def bigintCell? (n : Int) : Option Cell := if fitsBigint n then some (.integer n) else none

/-- A cell as one of a column of the type, if the store converts it. Every column takes null;
integers become the nearest binary numbers; a date becomes its midnight, and a datetime without an
offset an instant of universal time. -/
def convert? (t : NativeType) (cell : Cell) : Option Cell :=
  match t, cell with
  | _, .null => some .null
  | .bigint, .integer n => bigintCell? n
  | .bigint, .boolean b => some (.integer b.toNat)
  | .bigint, .double x => (nearestInteger? x).bind bigintCell?
  | .bigint, .varchar s => (integerText? s).bind bigintCell?
  | .double, .double x => some (.double x)
  | .double, .integer n => some (.double (.ofInt n))
  | .double, .boolean b => some (.double (.ofInt b.toNat))
  | .double, .varchar s => (doubleText? s).map .double
  | .boolean, .boolean b => some (.boolean b)
  | .boolean, .integer n => some (.boolean (n != 0))
  | .boolean, .double x => some (.boolean (x.magnitude != 0))
  | .boolean, .varchar s => (booleanText? s).map .boolean
  | .varchar, .varchar s => some (.varchar s)
  | .varchar, .integer n => some (.varchar (Text.ofInt n))
  | .varchar, .double x => some (.varchar x.text)
  | .varchar, .boolean b => some (.varchar (if b then "true" else "false").toList)
  | .varchar, .date d => some (.varchar d.text)
  | .varchar, .timestamp t => some (.varchar (timestampText t))
  | .date, .date d => some (.date d)
  | .date, .timestamp t => some (.date t.date)
  | .date, .varchar s => (dateText? s).map .date
  | .timestamp, .timestamp t => some (.timestamp t)
  | .timestamp, .date d => some (.timestamp ⟨d, .midnight⟩)
  | .timestamp, .varchar s => (timestampText? s).map .timestamp
  | .timestamptz, .instant n => some (.instant n)
  | .timestamptz, .timestamp t => some (.instant (universalInstant t))
  | .timestamptz, .date d => some (.instant (universalInstant ⟨d, .midnight⟩))
  | .timestamptz, .varchar s => (instantText? s).map .instant
  | _, _ => none

end NativeType

end CsvIntake
