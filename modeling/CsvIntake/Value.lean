import CsvIntake.Calendar.DateTime
import CsvIntake.Number.Numeral

/-! Typed values, as they are read from a file. -/
namespace CsvIntake

/-- A typed value. -/
inductive Value where
  | null
  | boolean (b : Bool)
  | integer (n : Int)
  | float (x : Binary64)
  | text (s : Text)
  | date (d : Date)
  | datetime (t : DateTime)
  | offsetDatetime (t : OffsetDateTime)
  deriving DecidableEq, Repr

/-- The value of a number that was read. -/
def Number.value : Number → Value
  | .integer n => .integer n
  | .float x => .float x

end CsvIntake
