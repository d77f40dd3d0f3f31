import CsvIntake.Header
import CsvIntake.Schema

/-! Planning how a table must change so that a file can be appended to it. New columns are added;
an existing column changes its type only along an allowed upgrade, and nothing changes at all unless
every column of the file can be supported. Otherwise the rows are read with the types that the table
has, and the first value that does not fit ends the append. -/
namespace CsvIntake

/-- The types to which a column of a type may be widened. -/
def allowedUpgrades : ColumnType → List ColumnType
  | .int => [.float]
  | _ => []

/-- Whether a column may take on the type that its new values need. -/
def matchesOrUpgrades (current : Option ColumnType) (relaxed : ColumnType) : Bool :=
  match current with
  | none => true
  | some t => t == relaxed || (allowedUpgrades t).contains relaxed

/-- Checks that a file with the given header can be appended to a table with the given columns, which
do not include the generated key. The order of columns does not matter. -/
def checkHeader (existing : List Text) (header : Row) : Except Error Unit :=
  let names := header.map columnName
  let duplicates := Text.sorted (names.filter fun name => decide (1 < names.count name))
  if duplicates ≠ [] then .error (.duplicateColumns duplicates)
  else
    let extra := Text.sorted (names.filter fun name => !existing.contains name)
    let missing := Text.sorted (existing.filter fun name => !names.contains name)
    if missing ≠ [] then .error (.schemaMismatch extra missing) else .ok ()

/-- The columns to add and the columns to update, with their new types. -/
structure ColumnChanges where
  added : Schema
  updated : Schema
  deriving DecidableEq, Repr

namespace ColumnChanges

/-- Enters one column: it is added if it has no type yet, and updated if its type is another. -/
def enter (changes : ColumnChanges) (name : Text) (old : Option ColumnType) (new : ColumnType) :
    ColumnChanges :=
  match old with
  | none => { changes with added := NameMap.put changes.added name new }
  | some t =>
    if t = new then changes else { changes with updated := NameMap.put changes.updated name new }

/-- Enters columns in order. -/
def enterAll : ColumnChanges → List Text → List (Option ColumnType) → List ColumnType →
    ColumnChanges
  | changes, name :: names, old :: olds, new :: news =>
    enterAll (changes.enter name old new) names olds news
  | changes, _, _, _ => changes

/-- The changes from the old to the new types of columns; the lists must be equally long. -/
def between (names : List Text) (old : List (Option ColumnType)) (new : List ColumnType) :
    Except Error ColumnChanges :=
  if names.length = old.length ∧ old.length = new.length then
    .ok (enterAll ⟨[], []⟩ names old new)
  else .error .unequalLengths

end ColumnChanges

/-- How a table is to change before a file is appended. The changes are made only if `modifySchema`
is set, and then all of them. The lists have one entry for each column of the file. -/
structure MigrationPlan where
  added : Schema
  updated : Schema
  modifySchema : Bool
  createKey : Bool
  columnNames : List Text
  oldTypes : List (Option ColumnType)
  detectedTypes : List ColumnType
  newTypes : List ColumnType
  deriving DecidableEq, Repr

namespace MigrationPlan

/-- Whether the file needs changes of types that are not allowed. -/
def declined (plan : MigrationPlan) : Bool := plan.detectedTypes != plan.newTypes

/-- The types with which the rows of the file are read. If the table stays as it is, its columns
keep their types, also those that could have been widened. -/
def loadTypes (plan : MigrationPlan) : List ColumnType :=
  if plan.modifySchema then plan.newTypes
  else plan.oldTypes.zipWith (fun old new => old.getD new) plan.newTypes

/-- The type that a column takes: what its values need if that is allowed, else what it has. -/
def newType (old : Option ColumnType) (detected : ColumnType) : ColumnType :=
  match old with
  | none => detected
  | some t => if matchesOrUpgrades old detected then detected else t

/-- Plans the append of a file without key columns to a table with the given columns. A column whose
native type is not known has no type here. The key is created only if the table lacks one and
`createKeys` allows it. -/
def make (separators : NumberSeparators) (existing : NameMap (Option ColumnType)) (header : Row)
    (rows : List Row) (createKeys : Bool) : Except Error MigrationPlan :=
  let columns := existing.filter fun column => column.1 != rowKeyName
  match checkHeader (NameMap.names columns) header with
  | .error e => .error e
  | .ok () =>
    let names := header.map columnName
    let oldTypes := names.map fun name => (columns.lookup name).join
    let detectedTypes := ColumnType.ofRows separators oldTypes rows
    let newTypes := oldTypes.zipWith newType detectedTypes
    let changes := ColumnChanges.enterAll ⟨[], []⟩ names oldTypes newTypes
    .ok {
      added := changes.added
      updated := changes.updated
      modifySchema := oldTypes != newTypes.map some && detectedTypes == newTypes
      createKey := createKeys && !(NameMap.names existing).contains rowKeyName
      columnNames := names
      oldTypes, detectedTypes, newTypes }

end MigrationPlan

end CsvIntake
