import CsvIntake.ColumnType
import CsvIntake.Text.Digit
import CsvIntake.Text.Quoted

/-! What can go wrong, by cause. Most causes lie in the uploaded file or in the table it is meant
for: these carry a status code and a message that may be shown to the user. The others are faults
of the caller or of the store. -/
namespace CsvIntake

/-- What a value was read as. -/
inductive Expected where
  | number
  | type (t : ColumnType)
  | named (label : Text)
  deriving DecidableEq, Repr

/-- The name of what a value was read as. -/
def Expected.label : Expected → Text
  | .number => "number".toList
  | .type t => t.label.toList
  | .named label => label

/-- A value that is not of the expected type, and where it stands. -/
structure BadValue where
  value : Text
  expected : Expected
  row : Option Int := none
  column : Option Text := none
  reason : Option Text := none
  deriving DecidableEq, Repr

/-- Causes of failure. -/
inductive Error where
  | failed (message : Text)
  | malformedCsv (reason : Text)
  | duplicateColumns (names : List Text)
  | schemaMismatch (extra missing : List Text)
  | badValue (bad : BadValue)
  | inconsistent (reason : Text)
  | insertFailed (reason : Text) (status : Option Int)
  | tableNotFound (table : Text)
  | notAnUpload (table : Text)
  | unsupportedSeparators (setting : Text)
  | noReader (t : ColumnType)
  | noNativeType (t : ColumnType)
  | keyNotAColumn (key table : Text)
  | unequalLengths
  | batchSizeOutOfRange (size : Int)
  | tooLargeForFloat
  | negationOverflow
  | clockExhausted
  | missingColumnName
  | undeclaredType
  | unknownLevel
  | reservedLogField (name : Text)
  | untextualLogField (name : Text)
  | alreadyRegistered
  | registryFailed (reason : Text)
  | refusedByStore
  deriving DecidableEq, Repr

namespace BadValue

/-- The value, what it is not, and, as far as known, where it stands and why. -/
def message (bad : BadValue) : Text :=
  let column := match bad.column with
    | some name => " in column '".toList ++ name ++ "'".toList
    | none => []
  let row := match bad.row with
    | some number => " (row ".toList ++ Text.ofInt number ++ ")".toList
    | none => []
  let reason := match bad.reason with
    | some reason => if reason.isEmpty then [] else ": ".toList ++ reason
    | none => []
  "'".toList ++ bad.value ++ "' is not a recognizable ".toList ++ bad.expected.label ++ column ++
    row ++ reason

end BadValue

/-- A heading with one line for each column, or nothing if there are no columns. -/
def columnSection (heading : String) (columns : List Text) : List Text :=
  if columns.isEmpty then []
  else [Text.joined ['\n'] (heading.toList :: columns.map ("- ".toList ++ ·))]

/-- The missing columns, and beside them the new ones: a missing column is often a misspelled one. -/
def mismatchMessage (extra missing : List Text) : Text :=
  Text.joined ['\n', '\n'] <|
    columnSection "The CSV file is missing columns that are in the table:" missing ++
    columnSection "There are new columns in the CSV file that are not in the table:" extra

/-- How a type appears in a list of types. -/
def ColumnType.listed (t : ColumnType) : Text :=
  ("<UploadType." ++ t.constantName ++ ": '" ++ t.label ++ "'>").toList

/-- Why rows cannot be cut into batches of a size. Sizes below -1 that fit into 64 bits are told apart
from the other ones. -/
def batchSizeMessage (size : Int) : Text :=
  (if -(Nat.pow 2 63 : Int) ≤ size ∧ size < -1 then "Indices for islice()"
    else "Stop argument for islice()").toList ++
    " must be None or an integer: 0 <= x <= sys.maxsize.".toList

namespace Error

/-- What the user is told. -/
def message : Error → Text
  | .failed message => message
  | .malformedCsv reason => "The CSV file could not be read: ".toList ++ reason
  | .duplicateColumns _ => "The CSV file contains duplicate column names.".toList
  | .schemaMismatch extra missing => mismatchMessage extra missing
  | .badValue bad => bad.message
  | .inconsistent reason => reason
  | .insertFailed reason _ => reason
  | .tableNotFound table => "Table not found: ".toList ++ table
  | .notAnUpload _ => "The table must be an uploaded table.".toList
  | .unsupportedSeparators setting => "Unsupported number separators: ".toList ++ Text.quoted setting
  | .noReader t => ("No parser for upload type " ++ t.label).toList
  | .noNativeType t => ("No DuckDB type for abstract upload type " ++ t.label).toList
  | .keyNotAColumn key table =>
    "Primary key ".toList ++ key ++ " is not a column of ".toList ++ table
  | .unequalLengths => "The lists differ in length.".toList
  | .batchSizeOutOfRange size => batchSizeMessage size
  | .tooLargeForFloat => "The whole number is too large for a binary number.".toList
  | .negationOverflow => "The number has too many digits to be negated.".toList
  | .clockExhausted => "The clock has passed the last year.".toList
  | .missingColumnName => "The column has no name.".toList
  | .undeclaredType => "An edge names a type that was not declared.".toList
  | .unknownLevel => "There is no such log level.".toList
  | .reservedLogField name => "An event cannot have this field: ".toList ++ name
  | .untextualLogField name => "The field must be a text: ".toList ++ name
  | .alreadyRegistered => "The table is registered already.".toList
  | .registryFailed reason => reason
  | .refusedByStore => "The store refused the statement.".toList

/-- The status code of a failure that the user is told of; the other failures have none. -/
def statusCode? : Error → Option Int
  | .failed _ => some 422
  | .malformedCsv _ => some 422
  | .duplicateColumns _ => some 422
  | .schemaMismatch _ _ => some 422
  | .badValue _ => some 422
  | .inconsistent _ => some 500
  | .insertFailed _ status => some (status.getD 400)
  | .tableNotFound _ => some 404
  | .notAnUpload _ => some 422
  | _ => none

/-- The failure to build a hierarchy of column types. -/
def ofHierarchy : HierarchyError ColumnType → Error
  | .cycle => .inconsistent "Upload type hierarchy contains a cycle".toList
  | .roots found =>
    .inconsistent <| "Upload type hierarchy must have exactly one root, found [".toList ++
      Text.joined ", ".toList (found.map ColumnType.listed) ++ "]".toList
  | .undeclared _ => .undeclaredType

end Error

end CsvIntake
