import CsvIntake.Reading

/-! Finding the types of columns. A value has the most specific type that accepts it. A column
starts at its known type, if there is one, and moves with each value to the closest generalization
that accepts the value too; it never moves back. -/
namespace CsvIntake

/-- A raw row: a text or nothing in each place. -/
abbrev Row := List (Option Text)

namespace ColumnType

/-- Whether a value is written as one of the type. -/
def accepts (separators : NumberSeparators) (t : ColumnType) (s : Text) : Bool :=
  match t with
  | .booleanOrInt => s == ['0'] || s == ['1']
  | .boolean => (boolean? s).isSome
  | .offsetDatetime => (readOffsetDatetime s).isOk
  | .date => (readDate s).isOk
  | .datetime => (readDatetime s).isOk
  | .int =>
    match Numeral.read? separators s with
    | some numeral => numeral.fraction.isNone
    | none => false
  | .float => (Numeral.read? separators s).isSome
  | .varchar255 => decide (s.length ≤ 255)
  | .text => true
  | .rowKey => false

/-- The most specific type of a value; a blank value has none. -/
def ofValue? (separators : NumberSeparators) (value : Option Text) : Option ColumnType :=
  match value with
  | none => none
  | some s =>
    if Text.isBlank s then none
    else hierarchy.ordered.find? fun t => t.isInferable && t.accepts separators (Text.trim s)

/-- The type of a column after one more value. -/
def relax (separators : NumberSeparators) (current : Option ColumnType) (value : Option Text) :
    Option ColumnType :=
  match value, current with
  | none, _ => current
  | some _, none => ofValue? separators value
  | some s, some t =>
    if Text.isBlank s then current
    else (t :: t.ancestors).find? fun t => t.isInferable && t.accepts separators (Text.trim s)

/-- The types of the columns after one more row. Columns that the row does not reach keep their
types, and values beyond the last column are ignored. -/
def relaxRow (separators : NumberSeparators) : List (Option ColumnType) → Row →
    List (Option ColumnType)
  | [], _ => []
  | types, [] => types
  | t :: types, value :: row => relax separators t value :: relaxRow separators types row

/-- The types of the values seen in each column, starting from what is known. -/
def relaxRows (separators : NumberSeparators) (known : List (Option ColumnType))
    (rows : List Row) : List (Option ColumnType) :=
  rows.foldl (relaxRow separators) known

/-- The column types that hold the known values and the rows. -/
def ofRows (separators : NumberSeparators) (known : List (Option ColumnType)) (rows : List Row) :
    List ColumnType :=
  (relaxRows separators known rows).map ofValues

end ColumnType

end CsvIntake
