import CsvIntake.Data
import CsvIntake.Number.Separators

/-! Settings of the application. Each has a default; the environment overrides it, and an argument
overrides the environment. Names are read in any case. A setting that is a whole number may be given
as a text: `+7`, `007`, `1_000` and `7.00` are whole numbers, `7.` and `-07` are not. -/
namespace CsvIntake

/-- The settings. -/
structure Settings where
  numberSeparators : Text := ".,".toList
  duckdbPath : Text := ":memory:".toList
  databaseUrl : Text := "sqlite:///./uploads.db".toList
  insertBatchSize : Int := 1000
  logLevel : Text := "WARNING".toList
  logFormat : Text := "console".toList
  deriving DecidableEq, Repr

namespace Settings

/-- What the names of the settings begin with in the environment. -/
def environmentStart : Text := "tabular_uploads_".toList

/-- The value given for a setting: the last argument of its name, or else the last one in the
environment. -/
def given? (environment : List (Text × Text)) (arguments : List (Text × Data)) (name : String) :
    Option Data :=
  match arguments.reverse.find? fun entry => Text.lowerLatin entry.1 == name.toList with
  | some entry => some entry.2
  | none =>
    (environment.reverse.find? fun entry =>
      Text.lowerLatin entry.1 == environmentStart ++ name.toList).map fun entry => .text entry.2

/-- A setting that is a text. -/
def textSetting (given : Option Data) (default : Text) : Option Text :=
  match given with
  | none => some default
  | some (.text s) => some s
  | some _ => none

/-- White space that may surround the number of a setting; the information separators may not. -/
def isMargin (c : Char) : Bool := Text.isSpace c && !('\x1c' ≤ c && c ≤ '\x1f')

/-- A text without the white space around it. -/
def withoutMargins (s : Text) : Text :=
  ((s.dropWhile isMargin).reverse.dropWhile isMargin).reverse

/-- A number without its plus sign, unless a minus sign follows. -/
def withoutPlus? : Text → Option Text
  | '+' :: '-' :: _ => none
  | '+' :: rest => some rest
  | s => some s

/-- A number without the zeros, and underscores among them, that it starts with. One character stays
before a point and where nothing follows. A number starts with a digit or a minus sign. -/
def withoutLeadingZeros? : Text → Option Text
  | [] => none
  | c :: rest =>
    if c = '0' then
      let zeros := c :: rest.takeWhile fun d => d == '0' || d == '_'
      let last := zeros.drop (zeros.length - 1)
      match rest.dropWhile fun d => d == '0' || d == '_' with
      | [] => some last
      | '.' :: fraction => some (last ++ '.' :: fraction)
      | d :: digits => if d.isDigit then some (d :: digits) else none
    else if c = '-' ∨ c.isDigit then some (c :: rest)
    else none

/-- A text without a point and the zeros behind it, if these end it. -/
def withoutZeroFraction (s : Text) : Text :=
  match s.dropWhile (· != '.') with
  | '.' :: zeros =>
    if !zeros.isEmpty && zeros.all (· == '0') then s.takeWhile (· != '.') else s
  | _ => s

/-- A text without its underscores, if they stand one by one and not at its ends. -/
def withoutUnderscores? (s : Text) : Option Text :=
  let groups := Text.pieces (· == '_') s
  if groups.all fun group => !group.isEmpty then some groups.flatten else none

/-- The number of characters that a whole number may have. -/
def maxIntegerLength : Nat := 4300

/-- Digits without a leading zero, as a number. -/
def plainDigits? (digits : Text) : Option Nat :=
  match digits with
  | ['0'] => some 0
  | c :: rest =>
    if c ≠ '0' ∧ c.isDigit ∧ rest.all Char.isDigit then some (Text.decimalValue (c :: rest)) else none
  | [] => none

/-- The whole number that the text of a setting spells. -/
def integerOfText? (s : Text) : Option Int :=
  match ((withoutPlus? (withoutMargins s)).bind withoutLeadingZeros?).bind
      fun number => withoutUnderscores? (withoutZeroFraction number) with
  | none => none
  | some number =>
    if maxIntegerLength < number.length then none
    else
      match number with
      | '-' :: digits => (plainDigits? digits).map fun n => -(n : Int)
      | digits => (plainDigits? digits).map fun n => (n : Int)

/-- The integer that a binary number is, if it is one of less than 64 bits. -/
def integerOfFloat? (x : Binary64) : Option Int :=
  let s := Binary64.significand x.magnitude
  let e := Binary64.exponent x.magnitude
  let size := s * Nat.pow 2 e.toNat
  let unit := Nat.pow 2 (-e).toNat
  if x.isFinite && size % unit == 0 && size / unit < Nat.pow 2 63 then
    some (if x.negative then -(size / unit : Nat) else (size / unit : Nat))
  else none

/-- A setting that is an integer. -/
def integerSetting (given : Option Data) (default : Int) : Option Int :=
  match given with
  | none => some default
  | some (.integer n) => some n
  | some (.truth b) => some b.toNat
  | some (.float x) => integerOfFloat? x
  | some (.text s) => integerOfText? s
  | some _ => none

/-- The names of the settings whose values are missing, in order. -/
def faults (checks : List (String × Bool)) : List String :=
  (checks.filter fun check => !check.2).map Prod.fst

/-- The settings, or the names of those that are at fault, in alphabetical order. -/
def make (environment : List (Text × Text)) (arguments : List (Text × Data)) :
    Except (List String) Settings :=
  let given := given? environment arguments
  let defaults : Settings := {}
  let databaseUrl := textSetting (given "database_url") defaults.databaseUrl
  let duckdbPath := textSetting (given "duckdb_path") defaults.duckdbPath
  let insertBatchSize := integerSetting (given "insert_batch_size") defaults.insertBatchSize
  let logFormat := textSetting (given "log_format") defaults.logFormat
  let logLevel := textSetting (given "log_level") defaults.logLevel
  let numberSeparators := (textSetting (given "number_separators") defaults.numberSeparators).filter
    fun s => (NumberSeparators.ofSetting? s).isSome
  match databaseUrl, duckdbPath, insertBatchSize, logFormat, logLevel, numberSeparators with
  | some databaseUrl, some duckdbPath, some insertBatchSize, some logFormat, some logLevel,
    some numberSeparators =>
    .ok { numberSeparators, duckdbPath, databaseUrl, insertBatchSize, logLevel, logFormat }
  | _, _, _, _, _, _ =>
    .error <| faults [("database_url", databaseUrl.isSome), ("duckdb_path", duckdbPath.isSome),
      ("insert_batch_size", insertBatchSize.isSome), ("log_format", logFormat.isSome),
      ("log_level", logLevel.isSome), ("number_separators", numberSeparators.isSome)]

/-- The number separators that the settings name. -/
def separators (settings : Settings) : NumberSeparators :=
  (NumberSeparators.ofSetting? settings.numberSeparators).getD .dotComma

end Settings

end CsvIntake
