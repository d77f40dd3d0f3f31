import CsvIntake.Header
import CsvIntake.Schema
import CsvIntake.Store.Table

/-! A database of tables, and the writing of uploads to it. Rows are inserted one after the other, so
that the rows before a failing one stay. Where a table has the generated key and the rows do not
bring it, the key is numbered on from the largest one, batch by batch. -/
namespace CsvIntake

/-- A table or column name as it is written in a statement: in double quotes, with every double quote
of the name written twice. -/
def quotedIdentifier (name : Text) : Text :=
  '"' :: name.flatMap (fun c => if c = '"' then ['"', '"'] else [c]) ++ ['"']

/-- Tables in the order of their creation. -/
structure Database where
  tables : List Table
  deriving DecidableEq, Repr

namespace Database

/-- A database without tables. -/
def empty : Database := ⟨[]⟩

/-- The table of exactly this name. -/
def table? (db : Database) (name : Text) : Option Table := db.tables.find? fun t => t.name == name

/-- The table that a name denotes in a statement. -/
def denoted? (db : Database) (name : Text) : Option Table :=
  db.tables.find? fun t => sameIdentifier t.name name

/-- Changes the first table that a name denotes. -/
def changeIn (name : Text) (change : Table → Except Error Table) :
    List Table → Except Error (List Table)
  | [] => .error .refusedByStore
  | t :: ts =>
    if sameIdentifier t.name name then (change t).map (· :: ts)
    else (changeIn name change ts).map (t :: ·)

/-- Runs a statement on the table that a name denotes. -/
def change (db : Database) (name : Text) (change : Table → Except Error Table) :
    Except Error Database :=
  (changeIn name change db.tables).map Database.mk

/-- The columns declared by a schema. -/
def columns (schema : Schema) : Except Error (List Column) :=
  schema.mapM fun column => column.2.native.map (⟨column.1, ·⟩)

/-- Creates a table. The key, if one is given, must be among its columns. -/
def createTable (db : Database) (name : Text) (schema : Schema) (key : Option Text) :
    Except Error Database :=
  match key.filter fun key => !(NameMap.names schema).contains key with
  | some key => .error (.keyNotAColumn key name)
  | none =>
    match columns schema with
    | .error e => .error e
    | .ok columns =>
      let names := NameMap.names schema
      if name.isEmpty || names.isEmpty || names.contains [] || Table.hasRepeatedName names ||
          (db.denoted? name).isSome then .error .refusedByStore
      else .ok ⟨db.tables ++ [⟨name, columns, []⟩]⟩

/-- Drops a table if it exists. -/
def dropTable (db : Database) (name : Text) : Except Error Database :=
  if name.isEmpty then .error .refusedByStore
  else .ok ⟨db.tables.filter fun t => !sameIdentifier t.name name⟩

/-- Runs a statement for each column of a schema; those before a failing one stay done. -/
def forColumns (run : Database → Text → ColumnType → Except Error Database) :
    Database → Schema → Except Error Unit × Database
  | db, [] => (.ok (), db)
  | db, (name, t) :: rest =>
    match run db name t with
    | .error e => (.error e, db)
    | .ok db => forColumns run db rest

/-- Adds columns to a table. -/
def addColumns (db : Database) (table : Text) (schema : Schema) : Except Error Unit × Database :=
  forColumns (fun db name t =>
    match t.native with
    | .error e => .error e
    | .ok type => db.change table (Table.addColumn · ⟨name, type⟩)) db schema

/-- Changes the types of columns of a table. -/
def alterColumns (db : Database) (table : Text) (schema : Schema) : Except Error Unit × Database :=
  forColumns (fun db name t =>
    match t.native with
    | .error e => .error e
    | .ok type => db.change table (Table.alterColumn · name type)) db schema

/-- Adds the generated key to a table that lacks it, numbering its rows. -/
def addRowKey (db : Database) (table : Text) : Except Error Database :=
  db.change table (Table.addNumbers · rowKeyName)

/-- Inserts rows one after the other; those before a failing one stay. -/
def insertEach (table : Text) (names : List Text) :
    Database → List (List Value) → Except Error Unit × Database
  | db, [] => (.ok (), db)
  | db, values :: rest =>
    match db.change table (Table.insertRow · names values) with
    | .error e => (.error e, db)
    | .ok db => insertEach table names db rest

/-- Cuts a list into pieces of a size, the last of which may be shorter. Pieces of size zero hold
nothing, so there are none. -/
def batches {α : Type} (size : Nat) (rows : List α) : List (List α) :=
  if size = 0 ∨ rows = [] then [] else rows.take size :: batches size (rows.drop size)
termination_by rows.length
decreasing_by
  rename_i h
  have hrows : rows.length ≠ 0 := fun hlen => h (.inr (List.length_eq_zero_iff.1 hlen))
  have hsize : size ≠ 0 := fun hzero => h (.inl hzero)
  simp only [List.length_drop]
  omega

/-- Batches of a positive size hold every row, in order. -/
theorem flatten_batches {α : Type} {size : Nat} (h : size ≠ 0) (rows : List α) :
    (batches size rows).flatten = rows := by
  induction hn : rows.length using Nat.strongRecOn generalizing rows with
  | ind n ih =>
    rw [batches]
    by_cases hrows : rows = []
    · simp [hrows]
    · have hlen : rows.length ≠ 0 := fun hl => hrows (List.length_eq_zero_iff.1 hl)
      have hdrop : (rows.drop size).length < n := by
        rw [List.length_drop]
        omega
      simp [h, hrows, ih _ hdrop _ rfl]

/-- Batches of size zero hold nothing. -/
theorem batches_zero {α : Type} (rows : List α) : batches 0 rows = [] := by
  simp [batches]

/-- Puts keys in front of rows, numbered from `next` on. -/
def withKeys (next : Int) (rows : List (List Value)) : List (List Value) :=
  rows.zipIdx.map fun row => .integer (next + row.2) :: row.1

/-- Inserts batches in order and counts their rows. With a next key, each row gets a key in front. -/
def insertBatches (table : Text) (names : List Text) :
    Option Int → Database → List (List (List Value)) → Except Error Nat × Database
  | _, db, [] => (.ok 0, db)
  | next, db, batch :: rest =>
    let rows := match next with
      | some key => withKeys key batch
      | none => batch
    match insertEach table names db rows with
    | (.error e, db) => (.error e, db)
    | (.ok (), db) =>
      match insertBatches table names (next.map (· + batch.length)) db rest with
      | (.error e, db) => (.error e, db)
      | (.ok count, db) => (.ok (batch.length + count), db)

/-- The key of the next row of a table whose key column is of integers. -/
def nextKey (db : Database) (table : Text) : Except Error Int :=
  match db.denoted? table with
  | none => .error .refusedByStore
  | some t =>
    match t.position? rowKeyName with
    | none => .error .refusedByStore
    | some position =>
      if (t.columns[position]?.map Column.type) = some .bigint then
        .ok (Table.largest (t.cells position) + 1)
      else .error .refusedByStore

/-- Whether rows with the named columns get generated keys: the table has the key column and the rows
do not bring it. -/
def generatesKeys (db : Database) (table : Text) (names : List Text) : Bool :=
  !names.contains rowKeyName && (db.table? table).any (·.hasColumn rowKeyName)

/-- Inserts rows in batches and answers how many were inserted. The size of a batch is a number of 63
bits. -/
def insertRows (db : Database) (batchSize : Int) (table : Text) (names : List Text)
    (rows : List (List Value)) : Except Error Nat × Database :=
  let next : Except Error (Option Int) :=
    if db.generatesKeys table names then (db.nextKey table).map some else .ok none
  match next with
  | .error e => (.error e, db)
  | .ok next =>
    if batchSize < 0 ∨ (Nat.pow 2 63 : Int) ≤ batchSize then (.error (.batchSizeOutOfRange batchSize), db)
    else
      insertBatches table (if next.isSome then rowKeyName :: names else names) next db
        (batches batchSize.toNat rows)

/-- The columns of the table of exactly this name, with the names of their native types. -/
def columnTypes (db : Database) (table : Text) : List (Text × String) :=
  match db.table? table with
  | none => []
  | some t => t.columns.map fun c => (c.name, c.type.name)

end Database

end CsvIntake
