import CsvIntake.ColumnType
import CsvIntake.Error
import CsvIntake.Text.Alphanumeric
import CsvIntake.Text.Uppercase

/-! Column types of the database: how a column type is declared, what the database reports of it,
and what a reported name means. -/
namespace CsvIntake

/-- The types that the table store distinguishes. -/
inductive NativeType where
  | varchar
  | bigint
  | double
  | boolean
  | date
  | timestamp
  | timestamptz
  deriving DecidableEq, Repr

namespace NativeType

/-- The name that the database reports. -/
def name : NativeType → String
  | .varchar => "VARCHAR"
  | .bigint => "BIGINT"
  | .double => "DOUBLE"
  | .boolean => "BOOLEAN"
  | .date => "DATE"
  | .timestamp => "TIMESTAMP"
  | .timestamptz => "TIMESTAMP WITH TIME ZONE"

end NativeType

namespace ColumnType

/-- The declaration of a column of the type, and the native type that such a column has. The bound
of a text is declared but neither kept nor enforced. -/
def native? : ColumnType → Option (String × NativeType)
  | .varchar255 => some ("VARCHAR(255)", .varchar)
  | .text => some ("TEXT", .varchar)
  | .int => some ("BIGINT", .bigint)
  | .rowKey => some ("BIGINT", .bigint)
  | .float => some ("DOUBLE", .double)
  | .boolean => some ("BOOLEAN", .boolean)
  | .date => some ("DATE", .date)
  | .datetime => some ("TIMESTAMP", .timestamp)
  | .offsetDatetime => some ("TIMESTAMPTZ", .timestamptz)
  | .booleanOrInt => none

/-- The declaration of a column of the type. -/
def declaration (t : ColumnType) : Except Error String :=
  match t.native? with
  | some (declaration, _) => .ok declaration
  | none => .error (.noNativeType t)

/-- The native type of a column of the type. -/
def native (t : ColumnType) : Except Error NativeType :=
  match t.native? with
  | some (_, native) => .ok native
  | none => .error (.noNativeType t)

/-- Native types that mean the same: their names begin with one of the words, and where `whole` is
set the word must end there. -/
structure NativeFamily where
  words : List String
  whole : Bool
  meaning : ColumnType

/-- The families of native types, in the order in which they are tried. -/
def nativeFamilies : List NativeFamily :=
  [⟨["DOUBLE", "FLOAT", "REAL", "DECIMAL", "NUMERIC"], false, .float⟩,
   ⟨["HUGEINT", "BIGINT", "INTEGER", "SMALLINT", "TINYINT", "INT", "SERIAL"], true, .int⟩,
   ⟨["BOOLEAN", "BOOL"], false, .boolean⟩,
   ⟨["TIMESTAMP WITH TIME ZONE", "TIMESTAMPTZ"], false, .offsetDatetime⟩,
   ⟨["TIMESTAMP", "DATETIME"], false, .datetime⟩,
   ⟨["DATE"], false, .date⟩,
   ⟨["VARCHAR", "TEXT", "CHAR", "STRING"], false, .text⟩]

/-- Whether a text begins with a word, which must end there if `whole` is set. -/
def beginsWith (whole : Bool) (word : String) (s : Text) : Bool :=
  match Text.afterStart? word.toList s with
  | none => false
  | some [] => true
  | some (c :: _) => !(whole && Text.isWordChar c)

/-- Whether a native name, in upper case, belongs to a family. -/
def NativeFamily.holds (family : NativeFamily) (name : Text) : Bool :=
  family.words.any fun word => beginsWith family.whole word name

/-- The most specific type that a native type is known to mean. A bounded text means any text,
since the bound is not reported everywhere. -/
def ofNativeName? (name : Option Text) : Option ColumnType :=
  match name with
  | none => none
  | some name =>
    (nativeFamilies.find? (·.holds (Text.upper (Text.trim name)))).map NativeFamily.meaning

end ColumnType

end CsvIntake
