import CsvIntake.Store.Cell

/-! Tables: their columns, their rows in the order of insertion, and the statements on one table.
A statement either succeeds or leaves the table as it was. Names match without regard to the case of
ASCII letters, but keep the case in which they were made. -/
namespace CsvIntake

/-- Whether two names denote the same table or column in a statement. -/
def sameIdentifier (a b : Text) : Bool := Text.lowerAscii a == Text.lowerAscii b

/-- A column of a table. -/
structure Column where
  name : Text
  type : NativeType
  deriving DecidableEq, Repr

/-- A table. Every row has one cell for each column. -/
structure Table where
  name : Text
  columns : List Column
  rows : List (List Cell)
  deriving DecidableEq, Repr

namespace Table

/-- Whether a column of exactly this name exists. -/
def hasColumn (t : Table) (name : Text) : Bool := t.columns.any fun c => c.name == name

/-- The place of the column that a name denotes. -/
def position? (t : Table) (name : Text) : Option Nat :=
  t.columns.findIdx? fun c => sameIdentifier c.name name

/-- The cells of a column from top to bottom. -/
def cells (t : Table) (position : Nat) : List Cell := t.rows.map fun row => row.getD position .null

/-- The cells of a row to be inserted, where the values belong to the named columns; other columns
are null. -/
def newRow? (columns : List Column) (given : List (Text × Value)) : Option (List Cell) :=
  columns.mapM fun c =>
    match given.find? fun g => sameIdentifier g.1 c.name with
    | some (_, value) => c.type.convert? value.cell
    | none => some .null

/-- Whether some name of a list denotes the same as another one before it. -/
def hasRepeatedName : List Text → Bool
  | [] => false
  | name :: names => names.any (sameIdentifier name) || hasRepeatedName names

/-- Inserts one row. The named columns must exist, each named once and with one value. -/
def insertRow (t : Table) (names : List Text) (values : List Value) : Except Error Table :=
  if names.isEmpty || names.length != values.length || hasRepeatedName names ||
      names.any fun name => (t.position? name).isNone then .error .refusedByStore
  else
    match newRow? t.columns (names.zip values) with
    | none => .error .refusedByStore
    | some row => .ok { t with rows := t.rows ++ [row] }

/-- Adds a column, with null in every row. -/
def addColumn (t : Table) (column : Column) : Except Error Table :=
  if column.name.isEmpty || (t.position? column.name).isSome then .error .refusedByStore
  else .ok { t with columns := t.columns ++ [column], rows := t.rows.map (· ++ [.null]) }

/-- Replaces the cell at a place of a row by its conversion. -/
def convertAt? (type : NativeType) (position : Nat) (row : List Cell) : Option (List Cell) :=
  (type.convert? (row.getD position .null)).map (row.set position)

/-- Changes the type of a column and converts its cells. -/
def alterColumn (t : Table) (name : Text) (type : NativeType) : Except Error Table :=
  match t.position? name with
  | none => .error .refusedByStore
  | some position =>
    match t.rows.mapM (convertAt? type position) with
    | none => .error .refusedByStore
    | some rows => .ok { t with columns := t.columns.modify position ({ · with type }), rows }

/-- Adds a column that numbers the rows from one on. -/
def addNumbers (t : Table) (name : Text) : Except Error Table :=
  if (t.position? name).isSome then .error .refusedByStore
  else .ok { t with
    columns := t.columns ++ [⟨name, .bigint⟩]
    rows := t.rows.zipIdx.map fun row => row.1 ++ [.integer (row.2 + 1 : Nat)] }

/-- The largest integer of some cells, or zero if there is none. -/
def largest (cells : List Cell) : Int :=
  let numbers := cells.filterMap fun cell => match cell with
    | .integer n => some n
    | _ => none
  match numbers with
  | [] => 0
  | n :: ns => ns.foldl max n

end Table

end CsvIntake
