import CsvIntake.Csv
import CsvIntake.Detection
import CsvIntake.Migration
import CsvIntake.Naming
import CsvIntake.Registry
import CsvIntake.RowReading
import CsvIntake.Store.Database

/-! Creating tables from files and appending files to them. A file is read as a whole before anything
is written, so that a value that cannot be read fails the operation first. Every operation answers
with its result or the cause of its failure, and with the workspace after it: a failed operation may
have left something behind. -/
namespace CsvIntake

/-- How files are loaded. What keeps the registry may have a fault meanwhile, for which it cannot be
written. -/
structure LoadOptions where
  separators : NumberSeparators := .dotComma
  batchSize : Int := 1000
  createKeys : Bool := false
  nameLimit : Nat := 63
  registryFault : Option Text := none
  deriving DecidableEq, Repr

/-- The database, the registry, and the clock that names tables. -/
structure Workspace where
  database : Database
  registry : Registry
  clock : Clock
  deriving DecidableEq, Repr

/-- A summary of one load. -/
structure LoadStats where
  tableName : Text
  rowCount : Nat
  columnCount : Nat
  generatedColumns : Nat
  sizeInMegabytes : Binary64
  deriving DecidableEq, Repr

/-- A table made from a file. -/
structure CreatedUpload where
  tableName : Text
  displayName : Text
  schema : DetectedSchema
  stats : LoadStats
  deriving DecidableEq, Repr

/-- The header and the rows of a file, without the columns that take the name of the key. -/
def readUpload (file : UploadFile) : Except Error CsvTable :=
  match CsvTable.read file with
  | .error e => .error e
  | .ok table => .ok ⟨headerWithoutKeys table.header, rowsWithoutKeys table.header table.rows⟩

/-- A file made ready for a new table: its schema and its typed rows. -/
def prepareCreate (separators : NumberSeparators) (file : UploadFile) :
    Except Error (DetectedSchema × List (List Value)) :=
  match readUpload file with
  | .error e => .error e
  | .ok table =>
    let schema := DetectedSchema.detect separators table.header table.rows
    let types := schema.extant.map Prod.snd
    match (readRows separators types table.rows (NameMap.names schema.extant)).all with
    | .error e => .error e
    | .ok rows => .ok (schema, rows)

namespace Database

/-- Creates a table with the given schema and inserts rows. If a row cannot be inserted, the table is
dropped again. -/
def createFilled (db : Database) (batchSize : Int) (name : Text) (schema : DetectedSchema)
    (rows : List (List Value)) : Except Error Nat × Database :=
  match db.createTable name schema.all (some rowKeyName) with
  | .error e => (.error e, db)
  | .ok created =>
    match created.insertRows batchSize name (NameMap.names schema.extant) rows with
    | (.ok count, filled) => (.ok count, filled)
    | (.error e, partly) =>
      match partly.dropTable name with
      | .error e => (.error e, partly)
      | .ok dropped => (.error (.insertFailed e.message none), dropped)

/-- The known column types of a table, by normalized name. -/
def knownTypes (db : Database) (table : Text) : NameMap (Option ColumnType) :=
  NameMap.ofPairs <| (db.columnTypes table).map fun column =>
    (columnName (some column.1), ColumnType.ofNativeName? (some column.2.toList))

/-- Makes the changes that a plan asks for. -/
def migrate (db : Database) (table : Text) (plan : MigrationPlan) :
    Except Error Unit × Database :=
  if plan.modifySchema then
    match db.addColumns table plan.added with
    | (.error e, db) => (.error e, db)
    | (.ok (), db) => db.alterColumns table plan.updated
  else (.ok (), db)

/-- Appends a file to a table: plans, changes the table, reads the rows, inserts them, and adds the
key if the plan asks for it. Answers the plan and the number of rows. -/
def appendTable (db : Database) (options : LoadOptions) (name : Text) (table : CsvTable) :
    Except Error (MigrationPlan × Nat) × Database :=
  match MigrationPlan.make options.separators (db.knownTypes name) table.header table.rows
      options.createKeys with
  | .error e => (.error e, db)
  | .ok plan =>
    match db.migrate name plan with
    | (.error e, db) => (.error e, db)
    | (.ok (), db) =>
      match (readRows options.separators plan.loadTypes table.rows plan.columnNames).all with
      | .error e => (.error e, db)
      | .ok rows =>
        match db.insertRows options.batchSize name plan.columnNames rows with
        | (.error e, db) => (.error (.insertFailed e.message (some 422)), db)
        | (.ok count, db) =>
          if plan.createKey then
            match db.addRowKey name with
            | .error e => (.error e, db)
            | .ok db => (.ok (plan, count), db)
          else (.ok (plan, count), db)

end Database

namespace Workspace

/-- Changes the registry, if it is used. -/
def changeRegistry (w : Workspace) (useRegistry : Bool)
    (change : Registry → Except Error Registry) : Except Error Workspace :=
  if useRegistry then (change w.registry).map ({ w with registry := · }) else .ok w

/-- Creates a table from a file. Its name is that of the file, behind `start`, with the time after
it; it has a generated key before the columns of the file. -/
def create (w : Workspace) (options : LoadOptions) (useRegistry : Bool) (start : Text)
    (file : UploadFile) : Except Error CreatedUpload × Workspace :=
  let stem := fileStem file.name
  match uniqueTableName w.clock (start ++ stem) options.nameLimit with
  | .error e => (.error e, w)
  | .ok (name, clock) =>
    let w := { w with clock }
    let name := Text.lowerAscii name
    match prepareCreate options.separators file with
    | .error e => (.error e, w)
    | .ok (schema, rows) =>
      match w.database.createFilled options.batchSize name schema rows with
      | (.error e, database) => (.error e, { w with database })
      | (.ok count, database) =>
        let w := { w with database }
        let shown := displayName stem
        let entry : RegistryEntry := ⟨name, shown, some file.name, true, count⟩
        match w.changeRegistry useRegistry (·.add options.registryFault entry) with
        | .error e => (.error e, w)
        | .ok w =>
          (.ok ⟨name, shown, schema, ⟨name, count, schema.extant.length, schema.generated.length,
            file.sizeInMegabytes⟩⟩, w)

/-- Appends a file to a table. Where the registry is used, the table must be registered as an
upload. -/
def append (w : Workspace) (options : LoadOptions) (useRegistry : Bool) (file : UploadFile)
    (name : Text) : Except Error LoadStats × Workspace :=
  if (w.database.table? name).isNone then (.error (.tableNotFound name), w)
  else if useRegistry && (w.registry.upload? name).isNone then (.error (.notAnUpload name), w)
  else
    match readUpload file with
    | .error e => (.error e, w)
    | .ok table =>
      match w.database.appendTable options name table with
      | (.error e, database) => (.error e, { w with database })
      | (.ok (plan, count), database) =>
        let w := { w with database }
        match w.changeRegistry useRegistry fun registry =>
            (registry.recordAppend name count).written options.registryFault with
        | .error e => (.error e, w)
        | .ok w =>
          (.ok ⟨name, count, plan.newTypes.length, if plan.createKey then 1 else 0,
            file.sizeInMegabytes⟩, w)

end Workspace

end CsvIntake
