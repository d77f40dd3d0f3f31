import CsvIntake.CommandLine.Pattern
import CsvIntake.Csv

/-! Paths, and the files that they lead to. A path is resolved by its names alone where a file is read
from it: the name before `..` need not exist. Where a file is made, the way to it is followed through
directories that exist. -/
namespace CsvIntake.CommandLine

/-- A path from the root: the names on the way. -/
abbrev Path := List Text

namespace Path

/-- Goes one name further. -/
def step (path : Path) (name : Text) : Path :=
  if name.isEmpty || name == ['.'] then path
  else if name == ['.', '.'] then path.dropLast
  else path ++ [name]

/-- The last name of a path. -/
def fileName (path : Path) : Text := path.getLast?.getD []

/-- A path as a text. -/
def text (path : Path) : Text := path.flatMap ('/' :: ·)

end Path

/-- The files that there are, the directories, and the directory that other paths start from. -/
structure FileSystem where
  current : Path
  directories : List Path
  files : List (Path × ByteArray)

namespace FileSystem

/-- Where a path starts: at the root, or at the current directory. -/
def start (fs : FileSystem) (s : Text) : Path := if s.head? = some '/' then [] else fs.current

/-- The path that a text denotes by its names alone. -/
def resolve (fs : FileSystem) (s : Text) : Path :=
  (Text.pieces (· == '/') s).foldl Path.step (fs.start s)

/-- The path to a file that names lead to, through directories that exist. The last name must be that
of a file. -/
def follow? (fs : FileSystem) (path : Path) : List Text → Option Path
  | [] => none
  | [name] => if path.step name = path ++ [name] then some (path ++ [name]) else none
  | name :: rest =>
    let next := path.step name
    if fs.directories.contains next then fs.follow? next rest else none

/-- The content of the file at a path. -/
def content? (fs : FileSystem) (path : Path) : Option ByteArray := fs.files.lookup path

/-- Whether a database may be kept at a path: in a directory that exists, and where there is neither a
directory nor a file of another kind. -/
def isFree (fs : FileSystem) (path : Path) : Bool :=
  fs.directories.contains path.dropLast && !fs.directories.contains path &&
    (fs.content? path).isNone

/-- What is read for a file. A name that is a pattern stands for the files of its directory that match
it, by name, if there are any. A backslash in a name ends a directory, and there is none. -/
def parts (fs : FileSystem) (path : Path) (content : ByteArray) : List ByteArray :=
  let name := path.fileName
  let found := fs.files.filter fun file =>
    file.1 != [] && file.1.dropLast == path.dropLast && matchesPattern name file.1.fileName
  if !isPattern name || name.contains '\\' || found.isEmpty then [content]
  else (found.mergeSort fun f g => Text.le f.1.fileName g.1.fileName).map Prod.snd

/-- The file at a path that a text denotes, as it is uploaded. -/
def upload? (fs : FileSystem) (s : Text) : Option UploadFile :=
  let path := fs.resolve s
  (fs.content? path).map fun content =>
    { name := path.fileName, content, parts := fs.parts path content }

end FileSystem

/-- Where something is kept: in memory, for one command, or in a file. -/
inductive Place where
  | memory
  | file (path : Path)
  deriving DecidableEq, Repr

namespace Place

/-- The start of names of databases in memory. -/
def memoryName : Text := ":memory:".toList

/-- The place of a database: in memory if it has no name, or one that starts as above; else in a file.
-/
def ofDatabase? (fs : FileSystem) (s : Text) : Option Place :=
  if s.isEmpty || memoryName.isPrefixOf s then some .memory
  else
    ((fs.follow? (fs.start s) (Text.pieces (· == '/') s)).filter fs.isFree).map .file

end Place

/-- Whether a file holds a registry that someone else keeps: a database of its kind in which the table of the
uploads is a view. It can be read, and is taken to show nothing, but it cannot be written. -/
def isRegistryView (content : ByteArray) : Bool :=
  match (String.fromUTF8? content).bind fun s => Text.afterStart? "SQLite format 3\x00".toList s.toList with
  | none => false
  | some rest => Text.holds "CREATE VIEW uploaded_tables ".toList rest

/-- Where the registry is kept, and the fault for which it cannot be written, if it has one. -/
structure RegistryAddress where
  place : Place
  fault : Option Text := none
  deriving DecidableEq, Repr

namespace RegistryAddress

/-- What an address starts with. -/
def starts : List Text := ["sqlite://", "sqlite+pysqlite://"].map String.toList

/-- What the part of an address behind its start denotes. What follows a question mark does not name a
file. -/
def ofRest? (fs : FileSystem) (rest : Text) : Option RegistryAddress :=
  match rest.takeWhile (· != '?') with
  | [] => some ⟨.memory, none⟩
  | '/' :: name =>
    if name.isEmpty || name == Place.memoryName then some ⟨.memory, none⟩
    else
      let path := fs.resolve name
      if fs.isFree path then some ⟨.file path, none⟩
      else if (fs.content? path).any isRegistryView then
        some ⟨.memory, some "cannot modify uploaded_tables because it is a view".toList⟩
      else none
  | _ => none

/-- What an address denotes. -/
def read? (fs : FileSystem) (address : Text) : Option RegistryAddress :=
  (starts.findSome? fun start => Text.afterStart? start address).bind (ofRest? fs)

end RegistryAddress

end CsvIntake.CommandLine
