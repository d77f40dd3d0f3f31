import CsvIntake.CommandLine.Run
import Std.Time.DateTime

/-! The command line. The file named on it is read first, and the files that its name stands for if it
is a pattern; the tables and the registry live in memory, for the one command that is run. -/
namespace CsvIntake.CommandLine

/-- The variables of the environment that settings are read from. -/
def environmentNames : List String :=
  ["NUMBER_SEPARATORS", "DUCKDB_PATH", "DATABASE_URL", "INSERT_BATCH_SIZE", "LOG_LEVEL",
    "LOG_FORMAT"].map ("TABULAR_UPLOADS_" ++ ·)

/-- The settings that the environment gives. -/
def readEnvironment : IO (List (Text × Text)) := do
  let entries ← environmentNames.mapM fun name => do
    return (← IO.getEnv name).map fun value => (name.toList, value.toList)
  return entries.filterMap id

/-- The content of a file, if there is one. -/
def readFile? (path : Path) : IO (Option ByteArray) := do
  try
    return some (← IO.FS.readBinFile (String.ofList path.text))
  catch _ =>
    return none

/-- Whether a path is that of a directory. -/
def isDirectory (path : Path) : IO Bool := do
  try
    (← IO.FS.realPath (String.ofList ('/' :: path.text))).isDir
  catch _ =>
    return false

/-- The paths of what a directory holds. -/
def readDirectory (path : Path) : IO (List Path) := do
  try
    let entries ← (← IO.FS.realPath (String.ofList ('/' :: path.text))).readDir
    return entries.toList.map fun entry => path ++ [entry.fileName.toList]
  catch _ =>
    return []

/-- What may name a database or a registry: the option, and the settings. -/
def databaseTexts (environment : List (Text × Text)) (args : Arguments) : List Text :=
  args.database.toList ++ environment.flatMap fun entry =>
    entry.2 :: RegistryAddress.starts.filterMap fun start =>
      (Text.afterStart? start entry.2).map (·.drop 1)

/-- The directories on the ways to databases, and the files that may be read. -/
def readFileSystem (environment : List (Text × Text)) (args : Arguments) : IO FileSystem := do
  let root : FileSystem := ⟨[], [], []⟩
  let current := root.resolve (← IO.currentDir).toString.toList
  let fs : FileSystem := ⟨current, [], []⟩
  let ways := current :: (databaseTexts environment args).map fs.resolve
  let prefixes := ways.flatMap fun way => (List.range (way.length + 1)).map way.take
  let directories ← prefixes.eraseDups.filterM isDirectory
  let named := fs.resolve (args.operands.headD [])
  let beside ← if isPattern named.fileName then readDirectory named.dropLast else pure []
  let files ← (named :: beside).eraseDups.mapM fun path => do
    return (← readFile? path).map fun content => (path, content)
  return ⟨current, directories, files.filterMap id⟩

/-- The present in universal time, to the second. -/
def readWallClock : IO DateTime := do
  let seconds := (← Std.Time.Timestamp.now).toSecondsSinceUnixEpoch.val.toNat
  let date := (Date.ofDayNumber? (Date.unixEpoch + seconds / 86400)).getD ⟨9999, 12, 31, by decide,
    by decide, by decide, by decide, by decide, by decide⟩
  let time := (TimeOfDay.of? (seconds / 3600 % 24) (seconds / 60 % 60) (seconds % 60) 0).getD
    .midnight
  return ⟨date, time⟩

/-- A line of text, or the cells of a row with bars between them. -/
def Line.shown : Line → String
  | .text s => String.ofList s
  | .cells row => " | ".intercalate (row.map String.ofList)

end CsvIntake.CommandLine

open CsvIntake CsvIntake.CommandLine in
/-- Runs the command line and prints its report. -/
def main (words : List String) : IO UInt32 := do
  let environment ← readEnvironment
  let line := words.map String.toList
  let args := match Arguments.read? line with
    | some (.run _ args) => args
    | _ => {}
  let fs ← readFileSystem environment args
  let wall ← readWallClock
  let started ← IO.monoMsNow
  let (outcome, _) := run environment fs ⟨[], [], Clock.start ⟨wall, []⟩⟩ line
  let hundredths := ((← IO.monoMsNow) - started) / 10
  let seconds := Text.ofNat (hundredths / 100) ++ '.' :: Text.ofNatPadded 2 (hundredths % 100)
  match outcome with
  | .usage | .help => IO.eprintln "usage: (detect FILE | create FILE | append FILE TABLE) [options]"
  | .reported report true => IO.println (String.ofList report.data.json)
  | outcome =>
    for line in outcome.lines seconds do
      IO.println line.shown
  return UInt32.ofNat outcome.exitCode
