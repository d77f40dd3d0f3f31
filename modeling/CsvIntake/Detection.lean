import CsvIntake.Header
import CsvIntake.Schema

/-! Detecting the schema of a file from its header and its rows. -/
namespace CsvIntake

/-- The columns of a file with their types, and the columns generated beside them. -/
structure DetectedSchema where
  extant : Schema
  generated : Schema
  deriving DecidableEq, Repr

namespace DetectedSchema

/-- The generated columns, then those of the file. -/
def all (schema : DetectedSchema) : Schema := NameMap.updated schema.generated schema.extant

/-- The schema of a file whose header has no key columns. A column without any value is text. -/
def detect (separators : NumberSeparators) (header : Row) (rows : List Row) : DetectedSchema :=
  let names := uniquify (header.map columnName)
  let types := ColumnType.ofRows separators (names.map fun _ => none) rows
  ⟨names.zip types, [(rowKeyName, .rowKey)]⟩

end DetectedSchema

end CsvIntake
