import CsvIntake.Workspace

/-! One step of work on a workspace: loading a file, or a single statement on the registry or on the
database. -/
namespace CsvIntake

/-- What is asked of a workspace. -/
inductive Step where
  | create (file : UploadFile) (start : Text) (useRegistry : Bool)
  | append (file : UploadFile) (table : Text) (useRegistry : Bool)
  | register (entry : RegistryEntry)
  | lookUp (table : Text)
  | recordAppend (table : Text) (count : Int)
  | createTable (table : Text) (schema : Schema) (key : Option Text)
  | insertRows (table : Text) (columns : List Text) (rows : List (List Value))
  | addColumns (table : Text) (schema : Schema)
  | alterColumns (table : Text) (schema : Schema)
  | dropTable (table : Text)
  | addRowKey (table : Text)
  | tableExists (table : Text)
  | columnTypes (table : Text)

/-- What a step answers. -/
inductive StepResult where
  | done
  | created (upload : CreatedUpload)
  | appended (stats : LoadStats)
  | entry (entry : Option RegistryEntry)
  | count (n : Nat)
  | truth (b : Bool)
  | columns (types : List (Text × String))
  deriving DecidableEq, Repr

namespace Workspace

/-- Runs a statement that either changes the whole database or nothing. -/
def runStatement (w : Workspace) (result : Except Error Database) :
    Except Error StepResult × Workspace :=
  match result with
  | .error e => (.error e, w)
  | .ok database => (.ok .done, { w with database })

/-- Runs a statement that may change a part of the database before it fails. -/
def runStatements {α : Type} (w : Workspace) (answer : α → StepResult)
    (result : Except Error α × Database) : Except Error StepResult × Workspace :=
  (result.1.map answer, { w with database := result.2 })

/-- Runs one step. -/
def run (options : LoadOptions) (w : Workspace) : Step → Except Error StepResult × Workspace
  | .create file start useRegistry =>
    let (result, w) := w.create options useRegistry start file
    (result.map .created, w)
  | .append file table useRegistry =>
    let (result, w) := w.append options useRegistry file table
    (result.map .appended, w)
  | .register entry =>
    match w.registry.add options.registryFault entry with
    | .error e => (.error e, w)
    | .ok registry => (.ok (.entry (some entry)), { w with registry })
  | .lookUp table => (.ok (.entry (w.registry.upload? table)), w)
  | .recordAppend table count =>
    match (w.registry.recordAppend table count).written options.registryFault with
    | .error e => (.error e, w)
    | .ok registry => (.ok (.entry (registry.upload? table)), { w with registry })
  | .createTable table schema key => w.runStatement (w.database.createTable table schema key)
  | .insertRows table columns rows =>
    w.runStatements .count (w.database.insertRows options.batchSize table columns rows)
  | .addColumns table schema =>
    w.runStatements (fun _ => .done) (w.database.addColumns table schema)
  | .alterColumns table schema =>
    w.runStatements (fun _ => .done) (w.database.alterColumns table schema)
  | .dropTable table => w.runStatement (w.database.dropTable table)
  | .addRowKey table => w.runStatement (w.database.addRowKey table)
  | .tableExists table => (.ok (.truth (w.database.table? table).isSome), w)
  | .columnTypes table => (.ok (.columns (w.database.columnTypes table)), w)

end Workspace

end CsvIntake
