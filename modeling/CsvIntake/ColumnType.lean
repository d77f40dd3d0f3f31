import CsvIntake.Hierarchy
import CsvIntake.Text.Basic

/-! The types of values and columns, and their hierarchy:

```
                 text
                  |
             varchar-255 ─────────────┐
           /     /     \              |
      boolean  float   datetime   offset-datetime
         |       |        |
         |      int      date
         |     /   \
     boolean-or-int  auto-incrementing-int-pk
```

A value can be boolean-or-int but a column cannot: a column of zeros and ones is boolean. -/
namespace CsvIntake

/-- The types, declared from most to least specific. -/
inductive ColumnType where
  | booleanOrInt
  | rowKey
  | int
  | date
  | boolean
  | offsetDatetime
  | datetime
  | float
  | varchar255
  | text
  deriving DecidableEq, Repr

namespace ColumnType

/-- Every type, in order of declaration. -/
def all : List ColumnType :=
  [.booleanOrInt, .rowKey, .int, .date, .boolean, .offsetDatetime, .datetime, .float, .varchar255,
   .text]

/-- The name of a type in schemas and messages. -/
def label : ColumnType → String
  | .booleanOrInt => "boolean-or-int"
  | .rowKey => "auto-incrementing-int-pk"
  | .int => "int"
  | .date => "date"
  | .boolean => "boolean"
  | .offsetDatetime => "offset-datetime"
  | .datetime => "datetime"
  | .float => "float"
  | .varchar255 => "varchar-255"
  | .text => "text"

/-- The name of a type among the constants of its kind. -/
def constantName : ColumnType → String
  | .booleanOrInt => "BOOLEAN_OR_INT"
  | .rowKey => "AUTO_INCREMENTING_INT_PK"
  | .int => "INT"
  | .date => "DATE"
  | .boolean => "BOOLEAN"
  | .offsetDatetime => "OFFSET_DATETIME"
  | .datetime => "DATETIME"
  | .float => "FLOAT"
  | .varchar255 => "VARCHAR_255"
  | .text => "TEXT"

/-- The type with a name. -/
def ofLabel? (label : String) : Option ColumnType := all.find? fun t => t.label == label

/-- Which type generalizes which directly. -/
def generalizations : List (ColumnType × ColumnType) :=
  [(.booleanOrInt, .boolean), (.booleanOrInt, .int), (.rowKey, .int), (.int, .float),
   (.date, .datetime), (.boolean, .varchar255), (.offsetDatetime, .varchar255),
   (.datetime, .varchar255), (.float, .varchar255), (.varchar255, .text)]

/-- The types that only values can have, with the column type that stands for each. -/
def concreteTypes : List (ColumnType × ColumnType) := [(.booleanOrInt, .boolean)]

/-- The hierarchy of all types. Their order of declaration is already the canonical one. -/
def hierarchy : Hierarchy ColumnType := ⟨all, .text, generalizations, concreteTypes⟩

/-- The hierarchy of the types is the one that is built from their edges. -/
theorem build_all : Hierarchy.build all generalizations concreteTypes = .ok hierarchy := rfl

/-- Whether the type can be found from values. Keys are generated, never read. -/
def isInferable (t : ColumnType) : Bool := t != .rowKey

/-- The generalizations of a type, the closest first. -/
def ancestors (t : ColumnType) : List ColumnType := hierarchy.ancestors t

/-- The type of a column whose values have the given type. -/
def ofValues (t : Option ColumnType) : ColumnType := hierarchy.columnType t

end ColumnType

end CsvIntake
