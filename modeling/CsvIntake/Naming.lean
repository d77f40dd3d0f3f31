import CsvIntake.Clock
import CsvIntake.Header
import CsvIntake.Text.Uppercase

/-! Names of tables and files: the unique name of a table, and the name of a file as it is shown. -/
namespace CsvIntake

/-- The length of the time in a table name, with the underscore before it. -/
def timeSuffixLength : Nat := 15

/-- A time, to the second, as the ending of a table name. -/
def timeSuffix (t : DateTime) : Text :=
  '_' :: Text.ofNat t.date.year ++ Text.ofNatPadded 2 t.date.month ++
    Text.ofNatPadded 2 t.date.day ++ Text.ofNatPadded 2 t.time.hour ++
    Text.ofNatPadded 2 t.time.minute ++ Text.ofNatPadded 2 t.time.second

/-- A name with a time after it. The slug of the name is cut so that the whole fits. -/
def timedName (name : Text) (maxLength : Nat) (t : DateTime) : Text :=
  let suffix := timeSuffix t
  (slug name).take (maxLength - suffix.length) ++ suffix

/-- A name with the next reading of a clock after it, and the clock after that reading. -/
def uniqueTableName (clock : Clock) (name : Text) (maxLength : Nat) : Except Error (Text × Clock) :=
  match clock.tick with
  | .error e => .error e
  | .ok (t, clock) => .ok (timedName name maxLength t, clock)

/-- The name of a file without a `.csv` at its end. -/
def fileStem (name : Text) : Text :=
  match Text.afterStart? "vsc.".toList name.reverse with
  | some stem => stem.reverse
  | none => name

/-- The characters between the words of a file name. -/
def separatesWords (c : Char) : Bool := Text.isSpace c || c == '_' || c == '-' || c == '.'

/-- A word with its first character in upper case. -/
def capitalized : Text → Text
  | [] => []
  | c :: cs => Text.upperChar c ++ cs

/-- The name of a file or table as it is shown: its words, capitalized, with spaces between. -/
def displayName (name : Text) : Text :=
  let words := (Text.pieces separatesWords name).filter fun word => !word.isEmpty
  Text.joined [' '] (words.map capitalized)

end CsvIntake
