import CsvIntake.Error

/-! The registry of uploads: which tables were made from files, under which name they are shown, and
how many rows have been loaded. Only tables that are flagged as uploads take further files. -/
namespace CsvIntake

/-- What is known of a table. -/
structure RegistryEntry where
  tableName : Text
  displayName : Text
  source : Option Text
  isUpload : Bool
  rowCount : Int
  deriving DecidableEq, Repr

/-- Entries in the order in which they were made. -/
abbrev Registry := List RegistryEntry

namespace Registry

/-- The entry of a table that is flagged as an upload. -/
def upload? (registry : Registry) (table : Text) : Option RegistryEntry :=
  registry.find? fun entry => entry.tableName == table && entry.isUpload

/-- A changed registry once it is written. Where the store that keeps it has a fault, such as a lock held
by someone else, this fails for that reason and nothing is changed. -/
def written (fault : Option Text) (changed : Registry) : Except Error Registry :=
  match fault with
  | none => .ok changed
  | some reason => .error (.registryFailed reason)

/-- Makes an entry. A table has at most one. -/
def add (registry : Registry) (fault : Option Text) (entry : RegistryEntry) : Except Error Registry :=
  if registry.any fun known => known.tableName == entry.tableName then .error .alreadyRegistered
  else written fault (registry ++ [entry])

/-- Adds to the row count of a table, if it is flagged as an upload. -/
def recordAppend (registry : Registry) (table : Text) (count : Int) : Registry :=
  registry.map fun entry =>
    if entry.tableName == table && entry.isUpload then
      { entry with rowCount := entry.rowCount + count }
    else entry

end Registry

end CsvIntake
