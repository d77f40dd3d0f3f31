import CsvIntake.CommandLine.Arguments
import CsvIntake.CommandLine.FileSystem
import CsvIntake.CommandLine.Report
import CsvIntake.Log
import CsvIntake.Settings

/-! Running the commands. Databases and registries are kept by the paths of their files; those in
memory last for one command. -/
namespace CsvIntake.CommandLine

/-- What lasts from one command to the next: databases and registries by their paths, and the clock.
-/
structure Storage where
  databases : NameMap Database
  registries : NameMap Registry
  clock : Clock
  deriving DecidableEq, Repr

/-- What a command ends with. -/
inductive Outcome where
  | usage
  | help
  | failed (markup : Text)
  | broken
  | reported (report : Report) (json : Bool)
  deriving DecidableEq, Repr

/-- The exit code: 2 for a command line that cannot be run, 1 for a failure. -/
def Outcome.exitCode : Outcome → Nat
  | .usage => 2
  | .help => 0
  | .failed _ => 1
  | .broken => 1
  | .reported _ _ => 0

/-- What a command prints as text; `seconds` says how long it took. -/
def Outcome.lines (seconds : Text) : Outcome → List Line
  | .failed markup => textLines ("Error: ".toList ++ markup)
  | .reported report _ => report.lines seconds
  | _ => []

/-- The outcome of a failure. Only the failures that the user is told of have a message. -/
def Outcome.ofError (e : Error) : Outcome :=
  if e.statusCode?.isSome then .failed (escapedMarkup e.message) else .broken

namespace Storage

/-- The database at a place; a new one if none has been kept there. -/
def database (storage : Storage) : Place → Database
  | .memory => Database.empty
  | .file path => (storage.databases.lookup path.text).getD Database.empty

/-- The registry at a place; a new one if none has been kept there. -/
def registry (storage : Storage) : Place → Registry
  | .memory => []
  | .file path => (storage.registries.lookup path.text).getD []

/-- The storage with a database kept at a place. -/
def withDatabase (storage : Storage) (place : Place) (database : Database) : Storage :=
  match place with
  | .memory => storage
  | .file path => { storage with databases := NameMap.put storage.databases path.text database }

/-- The storage with a registry kept at a place. -/
def withRegistry (storage : Storage) (place : Place) (registry : Registry) : Storage :=
  match place with
  | .memory => storage
  | .file path => { storage with registries := NameMap.put storage.registries path.text registry }

/-- Whether a database or a registry is kept at a path. -/
def keeps (storage : Storage) (path : Path) : Bool :=
  (storage.databases.lookup path.text).isSome || (storage.registries.lookup path.text).isSome

/-- Whether a registry can be kept at a place: no database is. -/
def takesRegistry (storage : Storage) : Place → Bool
  | .memory => true
  | .file path => (storage.databases.lookup path.text).isNone

/-- Whether a database can be kept at a place: no registry is. -/
def takesDatabase (storage : Storage) : Place → Bool
  | .memory => true
  | .file path => (storage.registries.lookup path.text).isNone

end Storage

/-- The settings of a command, or the outcome if there are none. -/
def settingsFor (environment : List (Text × Text)) (args : Arguments) : Except Outcome Settings :=
  match args.separators with
  | none => (Settings.make environment []).mapError fun _ => .broken
  | some setting =>
    (Settings.make environment [("number_separators".toList, .text setting)]).mapError fun _ =>
      .failed ("Unknown number separators ".toList ++ escapedMarkup (Text.quoted setting))

/-- Whether the log level of a command is known. -/
def knowsLevel (settings : Settings) (args : Arguments) : Bool :=
  decide (0 < args.verbosity) || (LogLevel.threshold? settings.logLevel).isSome

/-- How the settings ask to load files, with the fault that the registry has. -/
def loadOptions (settings : Settings) (registryFault : Option Text) : LoadOptions :=
  { separators := settings.separators, batchSize := settings.insertBatchSize, registryFault }

/-- Detects the schema of a file. -/
def detect (settings : Settings) (file : UploadFile) : Except Error Report :=
  (readUpload file).map fun table =>
    .detected file.name (DetectedSchema.detect settings.separators table.header table.rows)

/-- The name of the database of a command: that of the arguments, unless it is empty. -/
def databaseName (settings : Settings) (args : Arguments) : Text :=
  match args.database with
  | some name => if name.isEmpty then settings.duckdbPath else name
  | none => settings.duckdbPath

/-- Runs a command that loads a file, in the storage that the settings and arguments name. The database
is opened before the registry. -/
def load (fs : FileSystem) (storage : Storage) (settings : Settings) (args : Arguments)
    (run : LoadOptions → Workspace → Except Error Report × Workspace) : Outcome × Storage :=
  match (Place.ofDatabase? fs (databaseName settings args)).filter storage.takesDatabase with
  | none => (.broken, storage)
  | some databasePlace =>
    let opened := storage.withDatabase databasePlace (storage.database databasePlace)
    match (RegistryAddress.read? fs settings.databaseUrl).filter (opened.takesRegistry ·.place) with
    | none => (.broken, opened)
    | some ⟨registryPlace, fault⟩ =>
      let (result, w) := run (loadOptions settings fault)
        ⟨opened.database databasePlace, opened.registry registryPlace, opened.clock⟩
      let kept := (opened.withDatabase databasePlace w.database).withRegistry registryPlace w.registry
      (match result with
        | .ok report => .reported report args.json
        | .error e => .ofError e,
        { kept with clock := w.clock })

/-- Runs a command on a file. -/
def runOn (fs : FileSystem) (storage : Storage) (settings : Settings) (command : Command)
    (args : Arguments) (file : UploadFile) : Outcome × Storage :=
  match command with
  | .detect =>
    (match detect settings file with
      | .ok report => .reported report args.json
      | .error e => .ofError e, storage)
  | .create =>
    load fs storage settings args fun options w =>
      let (result, w) := w.create options true args.start file
      (result.map .created, w)
  | .append =>
    load fs storage settings args fun options w =>
      let (result, w) := w.append options true file (args.operands.getD 1 [])
      (result.map .appended, w)

/-- The file that a command is given. One that keeps a database or a registry is not a text. -/
def file? (fs : FileSystem) (storage : Storage) (s : Text) : Option UploadFile :=
  match fs.upload? s with
  | some file => some file
  | none =>
    let path := fs.resolve s
    if storage.keeps path then some { name := path.fileName, content := ⟨#[0xff]⟩ } else none

/-- Runs a command line on the files of a file system. A path with a null character in it denotes
nothing, not even a missing file. -/
def run (environment : List (Text × Text)) (fs : FileSystem) (storage : Storage)
    (line : List Text) : Outcome × Storage :=
  match Arguments.read? line with
  | none => (.usage, storage)
  | some .help => (.help, storage)
  | some (.run command args) =>
    let path := args.operands.headD []
    if path.contains '\x00' then (.broken, storage)
    else
      match file? fs storage path with
      | none => (.usage, storage)
      | some file =>
        match settingsFor environment args with
        | .error outcome => (outcome, storage)
        | .ok settings =>
          if knowsLevel settings args then runOn fs storage settings command args file
          else (.broken, storage)

end CsvIntake.CommandLine
