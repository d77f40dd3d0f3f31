import CsvIntake.Inference

/-! Reading the rows of a file as typed values. Blank and missing values become null and values
beyond the last column are dropped, as in inference. The first value that cannot be read ends the
reading. -/
namespace CsvIntake

/-- Typed rows, and why there are not more of them. -/
structure TypedRows where
  rows : List (List Value)
  failure : Option Error
  deriving DecidableEq, Repr

/-- Reads one cell; a blank or missing value is null. -/
def readCell (separators : NumberSeparators) (t : ColumnType) (value : Option Text) :
    Except Error Value :=
  match value with
  | none => .ok .null
  | some s => if Text.isBlank s then .ok .null else t.read separators s

/-- Says where a bad value stands. Without any column names only the row is said; a column must have
a name if some column has. -/
def located (names : List Text) (row column : Nat) (t : ColumnType) (bad : BadValue) : Error :=
  let place : BadValue := { value := bad.value, expected := .type t, row := some (row : Int) }
  if names.isEmpty then .badValue place
  else
    match names[column]? with
    | some name => .badValue { place with column := some name }
    | none => .missingColumnName

/-- Reads the cells of a row from a column on. -/
def readCells (separators : NumberSeparators) (names : List Text) (row : Nat) :
    (column : Nat) → List ColumnType → Row → Except Error (List Value)
  | _, [], _ => .ok []
  | column, t :: types, cells =>
    match readCell separators t cells.head?.join with
    | .error (.badValue bad) => .error (located names row column t bad)
    | .error e => .error e
    | .ok value =>
      match readCells separators names row (column + 1) types cells.tail with
      | .error e => .error e
      | .ok values => .ok (value :: values)

/-- Reads rows, numbered from `row` on, up to the first that cannot be read. -/
def readRowsFrom (separators : NumberSeparators) (names : List Text) (types : List ColumnType) :
    (row : Nat) → List Row → TypedRows
  | _, [] => ⟨[], none⟩
  | row, cells :: rest =>
    match readCells separators names row 0 types cells with
    | .error e => ⟨[], some e⟩
    | .ok values =>
      let others := readRowsFrom separators names types (row + 1) rest
      ⟨values :: others.rows, others.failure⟩

/-- Reads the rows of a file, given the types of its columns and, if they are known, their names. -/
def readRows (separators : NumberSeparators) (types : List ColumnType) (rows : List Row)
    (names : List Text) : TypedRows :=
  match types.find? fun t => !t.isReadable with
  | some t => ⟨[], some (.noReader t)⟩
  | none => readRowsFrom separators names types 1 rows

/-- All rows, or the failure that ended their reading. -/
def TypedRows.all (read : TypedRows) : Except Error (List (List Value)) :=
  match read.failure with
  | some e => .error e
  | none => .ok read.rows

end CsvIntake
