import CsvIntake.Store.Database

/-! The statements that are sent to the store, as texts. Tables and columns may have any name, so every name is
written as a quoted identifier; all other characters of a statement stand for themselves. -/
namespace CsvIntake

/-- The smallest parts of a statement: a character that stands for itself, or a name. -/
inductive SqlToken where
  | character (c : Char)
  | identifier (name : Text)
  deriving DecidableEq, Repr

namespace SqlToken

/-- A part of a statement as it is written. -/
def text : SqlToken → Text
  | .character c => [c]
  | .identifier name => quotedIdentifier name

/-- Words of a statement, character by character. -/
def words (s : String) : List SqlToken := s.toList.map .character

/-- Parts of a statement with commas between them. -/
def listed : List (List SqlToken) → List SqlToken
  | [] => []
  | [part] => part
  | part :: next :: parts => part ++ words ", " ++ listed (next :: parts)

end SqlToken

/-- A type with which a column can be declared. -/
structure DeclaredType where
  type : ColumnType
  isDeclared : type.native?.isSome = true

/-- How a column of the type is declared. -/
def DeclaredType.declaration (t : DeclaredType) : String := (t.type.native?.get t.isDeclared).1

/-- The statements that name tables and columns. Rows are inserted with their values apart from the statement,
each in the place of a question mark. -/
inductive SqlStatement where
  | createTable (table : Text) (columns : List (Text × DeclaredType))
  | insertRow (table : Text) (columns : List Text)
  | largestKey (table : Text)
  | addColumn (table column : Text) (type : DeclaredType)
  | alterColumn (table column : Text) (type : DeclaredType)
  | numberRows (table column : Text)
  | dropTable (table : Text)

namespace SqlStatement

open SqlToken

/-- The parts of a statement. -/
def tokens : SqlStatement → List SqlToken
  | .createTable table columns =>
    words "CREATE TABLE " ++ .identifier table :: words " (" ++
      listed (columns.map fun column => .identifier column.1 :: words " " ++ words column.2.declaration) ++
      words ")"
  | .insertRow table columns =>
    words "INSERT INTO " ++ .identifier table :: words " (" ++ listed (columns.map fun name => [.identifier name]) ++
      words ") VALUES (" ++ listed (columns.map fun _ => words "?") ++ words ")"
  | .largestKey table =>
    words "SELECT coalesce(max(" ++ .identifier rowKeyName :: words "), 0) FROM " ++ [.identifier table]
  | .addColumn table column type =>
    words "ALTER TABLE " ++ .identifier table :: words " ADD COLUMN " ++
      .identifier column :: words " " ++ words type.declaration
  | .alterColumn table column type =>
    words "ALTER TABLE " ++ .identifier table :: words " ALTER COLUMN " ++
      .identifier column :: words " SET DATA TYPE " ++ words type.declaration
  | .numberRows table column =>
    words "UPDATE " ++ .identifier table :: words " SET " ++ .identifier column :: words " = rowid + 1"
  | .dropTable table => words "DROP TABLE IF EXISTS " ++ [.identifier table]

/-- A statement as it is written. -/
def text (statement : SqlStatement) : Text := statement.tokens.flatMap SqlToken.text

end SqlStatement

end CsvIntake
